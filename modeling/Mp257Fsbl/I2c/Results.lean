/-
Module: Mp257Fsbl.I2c.Results
Purpose: What i2c_write_reg and i2c_read_reg return, against what has happened on
  the bus.
Trusted boundary: none
Main exports: Written, Fetched, Finishes, Receives, RefusedAtOnce, i2cWriteReg_triple,
  i2cReadReg_triple
-/
import Mathlib.Data.List.Basic
import Mp257Fsbl.I2c.Transfer

namespace Mp257Fsbl.I2c

open Mp257Fsbl.Foundation

/-! ### Transfers done -/

/-- The address, the register and the value were acknowledged, and the STOP is sent. -/
def Written (slave : BitVec 7) (reg val : Byte) (log : List Moment) : Prop :=
  ∃ before, log = before ++
    [.addressed slave false true, .sent reg true, .sent val true, .stopped]

/-- The address and the register were acknowledged, and the byte was received
before it was taken. -/
def Fetched (slave : BitVec 7) (reg byte : Byte) (log : List Moment) : Prop :=
  ∃ before between after, log = before ++
    [.addressed slave false true, .sent reg true, .addressed slave true true, .received byte] ++
    between ++ .taken byte :: after

/-! ### The value and its STOP -/

/-- The value is acknowledged and the STOP sent before the wait for the STOP is
over, which is at its first read where STOPF is there from before. -/
def Finishes (stale : Bool) (env : Nat → List BusEvent) : Prop :=
  ∃ event stop rest, arrived env (if stale then 1 else i2cTimeout) = event :: stop :: rest ∧
    event.acked = true

section

variable {s : Controller} {byte : Byte} {env : Nat → List BusEvent}

/-- Behind the last byte comes the STOP, and then nothing. -/
theorem run_ending (idle : s.transfer = .idle) (stopping : s.stopping = true)
    (events : List BusEvent) : s.run events = if events = [] then s else s.freed := by
  cases events with
  | nil => rfl
  | cons event rest =>
      have first : s.advance event = s.freed := if_pos stopping
      have rests (event : BusEvent) : s.freed.step event = s.freed := by
        simp only [Controller.step, s.freed_fields.2.2.2.2.1, idle]
      rw [Controller.run_cons, first, Controller.run_rests s.freed_fields.1 rests]
      exact (if_neg (List.cons_ne_nil event rest)).symm

/-- The last byte ends the transfer, acknowledged or not. -/
theorem step_last (sending : s.transfer = .sending byte 0 true) (event : BusEvent) :
    (s.step event).transfer = .idle ∧ (s.step event).stopping = true ∧
      (s.step event).stopf = s.stopf ∧
      (s.step event).log = s.log ++ [.sent byte event.acked] := by
  simp only [Controller.step, sending]
  cases event.acked with
  | true => exact ⟨rfl, rfl, rfl, rfl⟩
  | false => exact ⟨rfl, rfl, rfl, rfl⟩

/-- The log and STOPF by how much of the last byte and the STOP has gone. -/
theorem run_last (sending : s.transfer = .sending byte 0 true) (free : s.stopping = false)
    (events : List BusEvent) :
    match events with
    | [] => (s.run events).log = s.log ∧ (s.run events).stopf = s.stopf
    | [event] => (s.run events).log = s.log ++ [.sent byte event.acked] ∧
        (s.run events).stopf = s.stopf
    | event :: _ :: _ =>
        (s.run events).log = s.log ++ [.sent byte event.acked, .stopped] := by
  match events with
  | [] => exact ⟨rfl, rfl⟩
  | [event] =>
      obtain ⟨-, -, stopf, log⟩ := step_last sending event
      rw [Controller.run_cons, Controller.advance_of_not free]
      exact ⟨log, stopf⟩
  | event :: stop :: rest =>
      obtain ⟨idle, stopping, -, log⟩ := step_last sending event
      rw [Controller.run_cons, Controller.advance_of_not free, run_ending idle stopping,
        if_neg (List.cons_ne_nil stop rest), (s.step event).freed_fields.2.2.2.2.2.2, log, stopping,
        if_pos rfl, List.append_assoc]
      rfl

/-- STOPF comes with its own STOP where it was not there before. -/
theorem stopf_run_last (sending : s.transfer = .sending byte 0 true) (free : s.stopping = false)
    (before : s.stopf = false) {events : List BusEvent} (found : (s.run events).stopf = true) :
    ∃ event stop rest, events = event :: stop :: rest := by
  have shape := run_last sending free events
  match events with
  | [] =>
      rw [shape.2, before] at found
      cases found
  | [event] =>
      rw [shape.2, before] at found
      cases found
  | event :: stop :: rest => exact ⟨event, stop, rest, rfl⟩

/-- The wait for the STOP sees the value acknowledged and its STOP sent exactly where
they are in time. -/
theorem finishes_iff {reads : Nat} (sending : s.transfer = .sending byte 0 true)
    (free : s.stopping = false) (waited : Waited Controller.stopf env s reads)
    (ends : (s.run (arrived env reads)).stopf = true ∨ reads = i2cTimeout) :
    (∃ event stop rest, arrived env reads = event :: stop :: rest ∧ event.acked = true) ↔
      Finishes s.stopf env := by
  cases stale : s.stopf with
  | true =>
      have once := waited.at_once ((Controller.run_flags s (arrived env 1)).stopf stale)
      have bound : (if true then 1 else i2cTimeout) = 1 := if_pos rfl
      rw [once, Finishes, bound]
  | false =>
      have bound : (if false then 1 else i2cTimeout) = i2cTimeout := if_neg Bool.false_ne_true
      rw [Finishes, bound]
      rcases ends with found | all
      · obtain ⟨event, stop, rest, here⟩ := stopf_run_last sending free stale found
        obtain ⟨later, whole⟩ := arrived_mono env waited.within
        rw [← whole, here]
        constructor
        · rintro ⟨_, _, _, same, acked⟩
          cases same
          exact ⟨event, stop, rest ++ later, rfl, acked⟩
        · rintro ⟨_, _, _, same, acked⟩
          cases same
          exact ⟨event, stop, rest, rfl, acked⟩
      · rw [all]

/-- The log shows the transfer done exactly where both have gone. -/
theorem written_iff {slave : BitVec 7} {reg : Byte} {earlier : List Moment}
    (sending : s.transfer = .sending byte 0 true) (free : s.stopping = false)
    (log : s.log = earlier ++ [.addressed slave false true, .sent reg true])
    (events : List BusEvent) :
    Written slave reg byte (s.run events).log ↔
      ∃ event stop rest, events = event :: stop :: rest ∧ event.acked = true := by
  have shape := run_last sending free events
  have ends {moments : List Moment} {last : Moment}
      (whole : Written slave reg byte (moments ++ [last])) : last = .stopped := by
    obtain ⟨before, same⟩ := whole
    have split : before ++ [.addressed slave false true, .sent reg true, .sent byte true,
        .stopped] = before ++ [.addressed slave false true, .sent reg true, .sent byte true] ++
          [.stopped] := by simp
    rw [split] at same
    exact List.singleton_injective (List.append_inj' same rfl).2
  match events with
  | [] =>
      rw [shape.1, log]
      refine iff_of_false (fun whole => ?_) fun ⟨_, _, _, same, _⟩ => nomatch same
      have split : earlier ++ [Moment.addressed slave false true, .sent reg true] =
          earlier ++ [.addressed slave false true] ++ [.sent reg true] := by simp
      rw [split] at whole
      cases ends whole
  | [event] =>
      rw [shape.1]
      refine iff_of_false (fun whole => ?_) fun ⟨_, _, _, same, _⟩ => nomatch same
      cases ends whole
  | event :: stop :: rest =>
      have here : (s.run (event :: stop :: rest)).log =
          earlier ++ [.addressed slave false true, .sent reg true, .sent byte event.acked,
            .stopped] := by
        rw [shape, log]
        simp
      rw [here]
      constructor
      · rintro ⟨before, same⟩
        have last := (List.append_inj' same rfl).2
        simp only [List.cons.injEq, Moment.sent.injEq] at last
        exact ⟨event, stop, rest, rfl, last.2.2.1.2⟩
      · rintro ⟨_, _, _, same, acked⟩
        cases same
        rw [acked]
        exact ⟨earlier, rfl⟩

end

/-! ### i2c_write_reg -/

/-- The transfer asked for, and that START is asked for at all. -/
theorem cr2_write (device : Byte) :
    Transfer.ofCr2 ((device.setWidth 32 <<< 1) ||| (2 <<< 16) ||| cr2Start ||| cr2Autoend) =
        .addressing (device.setWidth 7) false 2 true ∧
      ((device.setWidth 32 <<< 1) ||| (2 <<< 16) ||| cr2Start ||| cr2Autoend) &&& cr2Start ≠ 0 := by
  revert device
  decide

section

variable {s : Controller} {device reg val : Byte}

/-- The value and the wait for its STOP. -/
theorem value_triple {slave : BitVec 7} {env : Nat → List BusEvent}
    {failed : Int → Traced Nat Word Controller → Prop} :
    Triple
      (fun t => At s [.addressed slave false true, .sent reg true] (.wanting 1 true) t.state)
      (mmioWrite controllerDevice i2cTxdr (val.setWidth 32) >>= fun _ =>
        waitStop controllerDevice env)
      (fun _ t => Written slave reg val t.state.log ↔ Finishes (s.stopf || s.stopping) env)
      failed := by
  apply Triple.ofState
  intro u here
  apply at_mmioWrite.bind
  intro _
  have send : u.send val = { u with transfer := .sending val 0 true } := by
    simp only [Controller.send, here.transfer, Nat.sub_self]
  rw [controllerDevice_write_txdr, send]
  apply waitStop_ends.sure.afterAs
  rintro _ t ⟨reads, log, waited, ends⟩
  have free : ({ u with transfer := .sending val 0 true } : Controller).stopping = false :=
    here.stopping
  have written := written_iff rfl free here.log (arrived env reads)
  have finishes := finishes_iff rfl free waited ends
  rw [log, ← here.stopf]
  exact written.trans finishes

/-- A write returns zero where NACKF was clear and the address and the register byte
were acknowledged in time; whether all is done by then is up to the value. -/
theorem i2cWriteReg_triple (empty : s.log = []) (env : WriteEnv (List BusEvent)) :
    Triple (fun t => t.state = s) (i2cWriteReg controllerDevice device reg val env)
      (fun _ t => s.nackf = false ∧ Reaches s.stopping env.address env.register ∧
        (Written (device.setWidth 7) reg val t.state.log ↔
          Finishes (s.stopf || s.stopping) env.stop))
      (fun e t => FellShort s env.address env.register e t.state) := by
  obtain ⟨transfer, starts⟩ := cr2_write device
  apply (address_triple empty starts transfer).bind_bind
  intro _
  apply Triple.given
  rintro ⟨clear, acked⟩
  have registered := @register_triple s (device.setWidth 7) reg 1 true env.register isrTxis _
    flags_txis (fun t sending => exchange_byte sending Nat.one_ne_zero) (Or.inl Nat.one_ne_zero)
  apply (registered.failedAs _).bind_bind
  · intro _
    apply Triple.given
    intro answered
    apply value_triple.afterAs
    intro _ t written
    exact ⟨clear, ⟨acked, answered⟩, written⟩
  · rintro e t ⟨rfl, never, quiet⟩
    exact ⟨rfl, Or.inr fun reaches => never reaches.2, quiet⟩

end

/-! ### The byte -/

/-- The address is acknowledged again and the byte received within the wait for it. -/
def Receives (env : Nat → List BusEvent) (byte : Byte) : Prop :=
  ∃ event next rest, arrived env i2cTimeout = event :: next :: rest ∧ event.acked = true ∧
    next.data = byte

/-- The address is refused by the first read of the wait. -/
def RefusedAtOnce (env : Nat → List BusEvent) : Prop :=
  ∃ event rest, env 0 = event :: rest ∧ event.acked = false

/-- The controller once the address for reading is acknowledged. -/
def turned (u : Controller) (slave : BitVec 7) : Controller :=
  { u.logged (.addressed slave true true) with transfer := .receiving 1 true }

section

variable {u : Controller} {slave : BitVec 7}

/-- The address for reading, answered. -/
theorem step_fetch (transfer : u.transfer = .addressing slave true 1 true) (event : BusEvent) :
    if event.acked then u.step event = turned u slave else (u.step event).nackf = true := by
  simp only [Controller.step, transfer]
  cases event.acked with
  | true => rfl
  | false => rfl

theorem run_refused (transfer : u.transfer = .addressing slave true 1 true)
    (free : u.stopping = false) {event : BusEvent} (refused : event.acked = false)
    (rest : List BusEvent) : (u.run (event :: rest)).nackf = true := by
  have step := step_fetch transfer event
  rw [refused, if_neg Bool.false_ne_true] at step
  rw [Controller.run_cons, Controller.advance_of_not free]
  exact (Controller.run_flags _ rest).nackf step

/-- Acknowledged, nothing comes before the next event. -/
theorem run_addressed (transfer : u.transfer = .addressing slave true 1 true)
    (free : u.stopping = false) {event : BusEvent} (acked : event.acked = true)
    (rest : List BusEvent) : u.run (event :: rest) = (turned u slave).run rest := by
  have step := step_fetch transfer event
  rw [acked, if_pos rfl] at step
  rw [Controller.run_cons, Controller.advance_of_not free, step]

/-- With RXDR full, the controller holds the bus before the byte. -/
theorem run_full (transfer : u.transfer = .addressing slave true 1 true)
    (free : u.stopping = false) (full : u.rxne = true) {event : BusEvent}
    (acked : event.acked = true) (rest : List BusEvent) :
    (u.run (event :: rest)).nackf = u.nackf := by
  rw [run_addressed transfer free acked]
  rw [Controller.run_rests]
  · rfl
  · exact free
  · intro next
    simp [turned, Controller.step, Controller.logged, full]

/-- The byte, and then the STOP. -/
theorem run_byte (transfer : u.transfer = .addressing slave true 1 true)
    (free : u.stopping = false) (empty : u.rxne = false) {event : BusEvent}
    (acked : event.acked = true) (next : BusEvent) (rest : List BusEvent) :
    let t := u.run (event :: next :: rest)
    t.nackf = u.nackf ∧ t.rxne = true ∧ t.rxdr = next.data ∧
      ∃ tail, t.log = u.log ++ [.addressed slave true true, .received next.data] ++ tail := by
  have turnedFree : (turned u slave).stopping = false := free
  have receive : (turned u slave).advance next =
      { u with
        rxne := true
        rxdr := next.data
        stopping := true
        transfer := .idle
        log := u.log ++ [.addressed slave true true, .received next.data] } := by
    rw [Controller.advance_of_not turnedFree]
    simp [turned, Controller.step, Controller.logged, Controller.proceed, empty]
  dsimp only
  rw [run_addressed transfer free acked, Controller.run_cons, receive]
  rw [run_ending rfl rfl]
  split
  · exact ⟨rfl, rfl, rfl, [], (List.append_nil _).symm⟩
  · exact ⟨rfl, rfl, rfl, [.stopped], rfl⟩

variable {env : Nat → List BusEvent}

/-- RXNE comes with the byte where RXDR was free. -/
theorem run_shows (transfer : u.transfer = .addressing slave true 1 true)
    (free : u.stopping = false) (empty : u.rxne = false) {events : List BusEvent}
    (shows : (u.run events).rxne = true) (clear : (u.run events).nackf = false) :
    ∃ event next rest, events = event :: next :: rest ∧ event.acked = true := by
  match events with
  | [] =>
      rw [Controller.run_nil, empty] at shows
      cases shows
  | event :: rest =>
      cases acked : event.acked with
      | false =>
          rw [run_refused transfer free acked] at clear
          cases clear
      | true =>
          cases rest with
          | nil =>
              rw [run_addressed transfer free acked, Controller.run_nil] at shows
              have still : (turned u slave).rxne = false := empty
              rw [still] at shows
              cases shows
          | cons next rest => exact ⟨event, next, rest, rfl, acked⟩

/-- NACKF comes with the address only. -/
theorem run_nacks (transfer : u.transfer = .addressing slave true 1 true)
    (free : u.stopping = false) (clear : u.nackf = false) {events : List BusEvent}
    (nack : (u.run events).nackf = true) :
    ∃ event rest, events = event :: rest ∧ event.acked = false := by
  match events with
  | [] =>
      rw [Controller.run_nil, clear] at nack
      cases nack
  | event :: rest =>
      refine ⟨event, rest, rfl, ?_⟩
      by_contra acked
      rw [Bool.not_eq_false] at acked
      cases full : u.rxne with
      | true =>
          rw [run_full transfer free full acked, clear] at nack
          cases nack
      | false =>
          cases rest with
          | nil =>
              rw [run_addressed transfer free acked, Controller.run_nil] at nack
              have still : (turned u slave).nackf = false := clear
              rw [still] at nack
              cases nack
          | cons next rest =>
              rw [(run_byte transfer free full acked next rest).1, clear] at nack
              cases nack

/-- The wait for the byte, with RXDR free at its start. -/
theorem fetch_empty (transfer : u.transfer = .addressing slave true 1 true)
    (free : u.stopping = false) (clear : u.nackf = false) (empty : u.rxne = false) :
    Triple (fun t => t.state = u) (waitFlag controllerDevice isrRxne env)
      (fun _ t => Receives env t.state.rxdr ∧
        (∃ tail, t.state.log =
          u.log ++ [.addressed slave true true, .received t.state.rxdr] ++ tail) ∧
        ∀ byte, .taken byte ∈ t.state.log → .taken byte ∈ u.log)
      (fun e t => e = -1 ∧ (¬ ∃ byte, Receives env byte) ∧
        ∀ byte, .taken byte ∈ t.state.log → .taken byte ∈ u.log) := by
  apply (waitFlag_ends flags_rxne).endsAs
  · rintro _ t ⟨reads, here, waited, nack, shows⟩
    rw [here] at nack shows
    obtain ⟨event, next, rest, events, acked⟩ := run_shows transfer free empty shows nack
    obtain ⟨later, whole⟩ := arrived_mono env waited.within
    have taken (byte : Byte) (member : .taken byte ∈ t.state.log) : .taken byte ∈ u.log := by
      rw [here] at member
      exact Controller.run_taken member
    rw [events] at here whole
    obtain ⟨-, -, rxdr, tail, log⟩ := run_byte transfer free empty acked next rest
    rw [← here] at rxdr log
    rw [← rxdr] at log
    exact ⟨⟨event, next, rest ++ later, whole.symm, acked, rxdr.symm⟩, ⟨tail, log⟩, taken⟩
  · rintro e t ⟨rfl, reads, log, waited, why⟩
    refine ⟨rfl, ?_, fun byte member => ?_⟩
    · rintro ⟨byte, event, next, more, whole, acked, -⟩
      have received (rest : List BusEvent) := run_byte transfer free empty acked next rest
      rcases why with nack | ⟨all, never⟩
      · obtain ⟨other, rest, events, refused⟩ := run_nacks transfer free clear nack
        obtain ⟨later, same⟩ := arrived_mono env waited.within
        rw [events, whole, List.cons_append] at same
        rw [(List.cons.inj same).1, acked] at refused
        cases refused
      · rw [all, whole, (received more).2.1] at never
        cases never
    · rw [log] at member
      exact Controller.run_taken member

/-- The same with RXDR full: whatever is in it counts for the byte. -/
theorem fetch_full (transfer : u.transfer = .addressing slave true 1 true)
    (free : u.stopping = false) (clear : u.nackf = false) (full : u.rxne = true) :
    Triple (fun t => t.state = u) (waitFlag controllerDevice isrRxne env)
      (fun _ t => ¬ RefusedAtOnce env ∧
        (∀ byte, .received byte ∈ t.state.log → .received byte ∈ u.log) ∧
        ∀ byte, .taken byte ∈ t.state.log → .taken byte ∈ u.log)
      (fun e t => e = -1 ∧ RefusedAtOnce env ∧
        ∀ byte, .taken byte ∈ t.state.log → .taken byte ∈ u.log) := by
  have still (events : List BusEvent) : (u.run events).rxne = true :=
    ((Controller.run_flags u events).rxne full).1
  have once {reads : Nat} (waited : Waited (fun s => s.nackf || s.rxne) env u reads) :
      arrived env reads = env 0 := by
    rw [waited.at_once (by rw [still, Bool.or_true]), arrived_one]
  apply (waitFlag_ends flags_rxne).endsAs
  · rintro _ t ⟨reads, here, waited, nack, -⟩
    rw [once waited] at here
    refine ⟨?_, fun byte member => ?_, fun byte member => ?_⟩
    · rintro ⟨event, rest, first, refused⟩
      rw [here, first, run_refused transfer free refused] at nack
      cases nack
    · rw [here] at member
      exact Controller.run_received full member
    · rw [here] at member
      exact Controller.run_taken member
  · rintro e t ⟨rfl, reads, log, waited, why⟩
    refine ⟨rfl, ?_, fun byte member => ?_⟩
    · rcases why with nack | ⟨-, never⟩
      · rw [once waited] at nack
        exact run_nacks transfer free clear nack
      · rw [still] at never
        cases never
    · rw [log] at member
      exact Controller.run_taken member

end

/-! ### i2c_read_reg -/

/-- The two transfers asked for, and that START is asked for. -/
theorem cr2_read (device : Byte) :
    Transfer.ofCr2 ((device.setWidth 32 <<< 1) ||| (1 <<< 16) ||| cr2Start) =
        .addressing (device.setWidth 7) false 1 false ∧
      ((device.setWidth 32 <<< 1) ||| (1 <<< 16) ||| cr2Start) &&& cr2Start ≠ 0 ∧
      Transfer.ofCr2 ((device.setWidth 32 <<< 1) ||| (1 <<< 16) ||| cr2Start ||| cr2RdWrn |||
        cr2Autoend) = .addressing (device.setWidth 7) true 1 true ∧
      ((device.setWidth 32 <<< 1) ||| (1 <<< 16) ||| cr2Start ||| cr2RdWrn ||| cr2Autoend) &&&
        cr2Start ≠ 0 := by
  revert device
  decide

theorem rxdr_byte (byte : Byte) : (byte.setWidth 32 &&& (0xFF : Word)).setWidth 8 = byte := by
  revert byte
  decide

/-- A byte is taken once, and what came before it stays before it. -/
theorem fetched_iff {slave : BitVec 7} {reg byte other : Byte} {before later : List Moment}
    (untaken : ∀ byte, .taken byte ∉ before) (never : ∀ byte, .taken byte ∉ later) :
    Fetched slave reg other (before ++ .taken byte :: later) ↔ other = byte ∧
      ∃ earlier between, before = earlier ++ [.addressed slave false true, .sent reg true,
        .addressed slave true true, .received other] ++ between := by
  constructor
  · rintro ⟨earlier, between, after, same⟩
    obtain ⟨front, taken, -⟩ :=
      (List.append_cons_inj_of_notMem (untaken other) (never other)).mp same
    cases taken
    exact ⟨rfl, earlier, between, front⟩
  · rintro ⟨rfl, earlier, between, rfl⟩
    exact ⟨earlier, between, later, rfl⟩

/-- The byte is taken, and the wait for the STOP changes nothing of it. -/
theorem take_triple {v : Controller} {taken : List BusEvent} {env : Nat → List BusEvent}
    {failed : Int → Traced Nat Word Controller → Prop} :
    Triple (fun t => t.state = v)
      (mmioRead controllerDevice i2cRxdr taken >>= fun rxdr =>
        waitStop controllerDevice env >>= fun _ => pure ((rxdr &&& 0xFF).setWidth 8))
      (fun byte t => byte = v.rxdr ∧ ∃ later, t.state.log = v.log ++ .taken v.rxdr :: later ∧
        ∀ byte, .taken byte ∉ later) failed := by
  have read : Triple (fun t => t.state = v) (mmioRead controllerDevice i2cRxdr taken)
      (fun rxdr t => t.state = v.take ∧ rxdr = v.rxdr.setWidth 32) failed := by
    apply Triple.mmioRead
    rintro t rfl
    exact ⟨rfl, rfl⟩
  apply read.bind
  intro rxdr
  apply Triple.given
  rintro rfl
  apply waitStop_ends.sure.bind
  intro _
  apply Triple.pure
  rintro t ⟨reads, log, -, -⟩
  obtain ⟨later, grown, untaken⟩ := Controller.run_log v.take (arrived env reads)
  refine ⟨rxdr_byte v.rxdr, later, ?_, untaken⟩
  rw [log, grown, Controller.take, Controller.logged, List.append_assoc]
  rfl

/-- What a read that gives a byte has seen: either its own byte, or one of an earlier
call that was still in RXDR. -/
def Gives (s : Controller) (slave : BitVec 7) (reg : Byte) (env : ReadEnv (List BusEvent))
    (byte : Byte) (log : List Moment) : Prop :=
  if s.rxne then ¬ RefusedAtOnce env.byte ∧ ∀ other, ¬ Fetched slave reg other log
  else Receives env.byte byte ∧ ∀ other, Fetched slave reg other log ↔ other = byte

/-- What a read that fails behind the register byte has missed. -/
def Misses (s : Controller) (env : ReadEnv (List BusEvent)) : Prop :=
  if s.rxne then RefusedAtOnce env.byte else ¬ ∃ byte, Receives env.byte byte

section

variable {s : Controller} {device reg : Byte}

/-- The byte, behind the register byte. -/
theorem byte_triple (env : ReadEnv (List BusEvent)) :
    Triple
      (fun t => At s [.addressed (device.setWidth 7) false true, .sent reg true] .complete t.state)
      (do
        mmioWrite controllerDevice i2cCr2
          ((device.setWidth 32 <<< 1) ||| (1 <<< 16) ||| cr2Start ||| cr2RdWrn ||| cr2Autoend)
        waitFlag controllerDevice isrRxne env.byte
        let rxdr ← mmioRead controllerDevice i2cRxdr env.taken
        waitStop controllerDevice env.stop
        pure ((rxdr &&& 0xFF).setWidth 8))
      (fun byte t => Gives s (device.setWidth 7) reg env byte t.state.log)
      (fun e t => e = -1 ∧ Misses s env ∧ ∀ byte, .taken byte ∉ t.state.log) := by
  apply Triple.ofState
  intro u here
  obtain ⟨-, -, transfer, starts⟩ := cr2_read device
  apply at_mmioWrite.bind
  intro _
  rw [controllerDevice_write_cr2 starts]
  obtain ⟨v, began⟩ : ∃ v, v = u.start ((device.setWidth 32 <<< 1) ||| (1 <<< 16) ||| cr2Start |||
    cr2RdWrn ||| cr2Autoend) := ⟨_, rfl⟩
  have transfer : v.transfer = .addressing (device.setWidth 7) true 1 true := by
    rw [began]
    exact transfer
  have free : v.stopping = false := by
    rw [began]
    exact here.stopping
  have clear : v.nackf = false := by
    rw [began]
    exact here.nackf
  have rxne : v.rxne = s.rxne := by
    rw [began]
    exact here.rxne
  have log : v.log = (if s.stopping then [.stopped] else []) ++
      [.addressed (device.setWidth 7) false true, .sent reg true] := by
    rw [began]
    exact here.log
  have untaken (byte : Byte) : .taken byte ∉ v.log := by
    rw [log]
    cases s.stopping <;> simp
  have unreceived (byte : Byte) : .received byte ∉ v.log := by
    rw [log]
    cases s.stopping <;> simp
  rw [← began]
  cases full : s.rxne with
  | true =>
      apply ((fetch_full transfer free clear (rxne.trans full)).failedAs _).bind
      · intro _ t seen
        obtain ⟨late, received, taken⟩ := seen
        apply (@take_triple t.state _ _ _).afterAs _ t rfl
        rintro byte t' ⟨rfl, later, grown, never⟩
        have before (other : Byte) : .taken other ∉ t.state.log :=
          fun member => untaken other (taken other member)
        rw [Gives, full, if_pos rfl]
        refine ⟨late, fun other fetched => ?_⟩
        rw [grown] at fetched
        obtain ⟨rfl, earlier, between, split⟩ := (fetched_iff before never).mp fetched
        apply unreceived t.state.rxdr
        apply received
        rw [split]
        simp
      · rintro e t ⟨rfl, refused, taken⟩
        refine ⟨rfl, ?_, fun byte member => untaken byte (taken byte member)⟩
        rw [Misses, full, if_pos rfl]
        exact refused
  | false =>
      apply ((fetch_empty transfer free clear (rxne.trans full)).failedAs _).bind
      · intro _ t seen
        obtain ⟨receives, ⟨tail, shape⟩, taken⟩ := seen
        apply (@take_triple t.state _ _ _).afterAs _ t rfl
        rintro byte t' ⟨rfl, later, grown, never⟩
        have before (other : Byte) : .taken other ∉ t.state.log :=
          fun member => untaken other (taken other member)
        rw [Gives, full, if_neg Bool.false_ne_true]
        refine ⟨receives, fun other => ?_⟩
        rw [grown, fetched_iff before never]
        constructor
        · exact fun fetched => fetched.1
        · rintro rfl
          refine ⟨rfl, if s.stopping then [.stopped] else [], tail, ?_⟩
          rw [shape, log]
          simp
      · rintro e t ⟨rfl, missed, taken⟩
        refine ⟨rfl, ?_, fun byte member => untaken byte (taken byte member)⟩
        rw [Misses, full, if_neg Bool.false_ne_true]
        exact missed

/-- A read gives a byte where NACKF was clear, the address and the register byte were
acknowledged in time, and RXNE was seen. -/
theorem i2cReadReg_triple (empty : s.log = []) (env : ReadEnv (List BusEvent)) :
    Triple (fun t => t.state = s) (i2cReadReg controllerDevice device reg env)
      (fun byte t => s.nackf = false ∧ Reaches s.stopping env.address env.register ∧
        Gives s (device.setWidth 7) reg env byte t.state.log)
      (fun e t => e = -1 ∧
        (s.nackf = true ∨ ¬ Reaches s.stopping env.address env.register ∨ Misses s env) ∧
        ∀ byte, .taken byte ∉ t.state.log) := by
  obtain ⟨transfer, starts, -⟩ := cr2_read device
  have untaken {log : List Moment} (quiet : NoNews [] log) (byte : Byte) : .taken byte ∉ log :=
    fun member => nomatch (quiet byte).2 member
  have addressed := @address_triple s (device.setWidth 7) 0 false _ env.address env.register empty
    starts transfer
  apply (addressed.failedAs _).bind_bind
  · intro _
    apply Triple.given
    rintro ⟨clear, acked⟩
    have registered := @register_triple s (device.setWidth 7) reg 0 false env.register isrTc _
      flags_tc (fun t sending => exchange_last sending) (Or.inr rfl)
    apply (registered.failedAs _).bind_bind
    · intro _
      apply Triple.given
      intro answered
      apply (byte_triple env).endsAs
      · exact fun _ _ gives => ⟨clear, ⟨acked, answered⟩, gives⟩
      · rintro e t ⟨rfl, misses, never⟩
        exact ⟨rfl, Or.inr (Or.inr misses), never⟩
    · rintro e t ⟨rfl, never, quiet⟩
      exact ⟨rfl, Or.inr (Or.inl fun reaches => never reaches.2), untaken quiet⟩
  · rintro e t ⟨rfl, why, quiet⟩
    refine ⟨rfl, ?_, untaken quiet⟩
    exact why.imp_right Or.inl

end

end Mp257Fsbl.I2c
