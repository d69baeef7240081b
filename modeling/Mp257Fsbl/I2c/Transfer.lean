/-
Module: Mp257Fsbl.I2c.Transfer
Purpose: The register transfers as drivers of the controller, and how each of their
  waits ends.
Trusted boundary: human-reviewed model of wait_flag, wait_stop, i2c_read_reg and
  i2c_write_reg
Main exports: waitFlag, waitStop, i2cReadReg, i2cWriteReg, Acked, Exchange,
  waitFlag_exchange, waitFlag_stale
-/
import Mathlib.Data.List.Infix
import Mp257Fsbl.I2c.Controller

namespace Mp257Fsbl.I2c

open Mp257Fsbl.Foundation

def i2cTimeout : Nat := 2000000

/-- What happens up to the reads of each wait of a write. -/
structure WriteEnv (ξ : Type) where
  address : Nat → ξ
  register : Nat → ξ
  stop : Nat → ξ

/-- The same for a read, with the read of RXDR. -/
structure ReadEnv (ξ : Type) where
  address : Nat → ξ
  register : Nat → ξ
  byte : Nat → ξ
  taken : ξ
  stop : Nat → ξ

section

variable {ξ σ : Type} (dev : Device Nat Word ξ σ)

def waitFlag (flag : Word) (env : Nat → ξ) : Driver Nat Word σ Int Unit := do
  match ← poll dev i2cIsr (fun isr => isr &&& isrNackf ≠ 0 ∨ isr &&& flag ≠ 0) env i2cTimeout with
  | none => Driver.fail (-1)
  | some isr =>
      if isr &&& isrNackf ≠ 0 then
        mmioWrite dev i2cIcr icrNackcf
        Driver.fail (-1)

/-- A wait that goes on where it runs out. -/
def waitStop (env : Nat → ξ) : Driver Nat Word σ Int Unit := do
  let _ ← poll dev i2cIsr (fun isr => isr &&& isrStopf ≠ 0) env i2cTimeout
  mmioWrite dev i2cIcr icrStopcf

def i2cReadReg (device reg : Byte) (env : ReadEnv ξ) : Driver Nat Word σ Int Byte := do
  mmioWrite dev i2cCr2 ((device.setWidth 32 <<< 1) ||| (1 <<< 16) ||| cr2Start)
  waitFlag dev isrTxis env.address
  mmioWrite dev i2cTxdr (reg.setWidth 32)
  waitFlag dev isrTc env.register
  mmioWrite dev i2cCr2
    ((device.setWidth 32 <<< 1) ||| (1 <<< 16) ||| cr2Start ||| cr2RdWrn ||| cr2Autoend)
  waitFlag dev isrRxne env.byte
  let rxdr ← mmioRead dev i2cRxdr env.taken
  waitStop dev env.stop
  pure ((rxdr &&& 0xFF).setWidth 8)

def i2cWriteReg (device reg val : Byte) (env : WriteEnv ξ) : Driver Nat Word σ Int Unit := do
  mmioWrite dev i2cCr2 ((device.setWidth 32 <<< 1) ||| (2 <<< 16) ||| cr2Start ||| cr2Autoend)
  waitFlag dev isrTxis env.address
  mmioWrite dev i2cTxdr (reg.setWidth 32)
  waitFlag dev isrTxis env.register
  mmioWrite dev i2cTxdr (val.setWidth 32)
  waitStop dev env.stop

end

/-! ### How a wait ends -/

/-- A flag of ISR, as the controller has it. -/
def Flags (bit : Word) (shown : Controller → Bool) : Prop :=
  ∀ s : Controller, s.isr &&& bit ≠ 0 ↔ shown s = true

theorem flags_txis : Flags isrTxis Controller.wants := fun s => s.isr_bits.1

theorem flags_rxne : Flags isrRxne Controller.rxne := fun s => s.isr_bits.2.1

theorem flags_nackf : Flags isrNackf Controller.nackf := fun s => s.isr_bits.2.2.1

theorem flags_stopf : Flags isrStopf Controller.stopf := fun s => s.isr_bits.2.2.2.1

theorem flags_tc : Flags isrTc fun s => s.transfer = .complete := fun s => s.isr_bits.2.2.2.2

section

variable {env : Nat → List BusEvent} {s : Controller}

/-- So many reads of ISR were made, of which none before the last showed the flag. -/
structure Waited (shown : Controller → Bool) (env : Nat → List BusEvent) (s : Controller)
    (reads : Nat) : Prop where
  positive : 0 < reads
  within : reads ≤ i2cTimeout
  early : ∀ j, 0 < j → j < reads → shown (s.run (arrived env j)) = false

/-- Polling ISR for a flag. -/
theorem poll_isr {stop : Word → Bool} {shown : Controller → Bool}
    (flags : ∀ s : Controller, stop s.isr = shown s) {ε : Type} :
    Triple (fun t => t.state = s) (poll controllerDevice i2cIsr stop env i2cTimeout)
      (fun found t => ∃ reads, t.state = s.run (arrived env reads) ∧ Waited shown env s reads ∧
        match found with
        | some isr => isr = t.state.isr ∧ shown t.state = true
        | none => reads = i2cTimeout ∧ shown t.state = false)
      (fun (_ : ε) _ => False) := by
  have shows (events : List BusEvent) (s : Controller) :
      (controllerDevice.read i2cIsr events s).1 =
        (controllerDevice.read i2cIsr events s).2.isr := rfl
  apply (Triple.poll_shows controllerDevice i2cIsr shows stop env i2cTimeout s).afterAs
  rintro found t ⟨reads, here, value, ends⟩
  simp only [Controller.afterReads_eq_run, flags] at here ends
  have last := ends.last
  cases found with
  | some isr =>
      refine ⟨reads, here, ⟨last.1, ends.within, ends.early⟩, value isr rfl, ?_⟩
      rw [here]
      exact last.2
  | none =>
      have some_time : 0 < i2cTimeout := by decide
      obtain ⟨rfl, never⟩ := last
      refine ⟨i2cTimeout, here, ⟨some_time, ends.within, ends.early⟩, rfl, ?_⟩
      rw [here]
      exact never some_time

/-- A wait with the flag there from the start is over at the first read. -/
theorem Waited.at_once {shown : Controller → Bool} {reads : Nat} (waited : Waited shown env s reads)
    (now : shown (s.run (arrived env 1)) = true) : reads = 1 := by
  have positive := waited.positive
  by_contra other
  have early := waited.early 1 Nat.one_pos (by omega)
  rw [now] at early
  cases early

/-- A wait for the STOP ends where STOPF is set, or after the last read. -/
theorem waitStop_ends :
    Triple (fun t => t.state = s) (waitStop controllerDevice env)
      (fun _ t => ∃ reads, t.state.log = (s.run (arrived env reads)).log ∧
        Waited Controller.stopf env s reads ∧
        ((s.run (arrived env reads)).stopf = true ∨ reads = i2cTimeout))
      (fun (_ : Int) _ => False) := by
  have flags (s : Controller) : decide (s.isr &&& isrStopf ≠ 0) = s.stopf :=
    Bool.eq_iff_iff.mpr (decide_eq_true_iff.trans (flags_stopf s))
  have polled := @poll_isr env s (fun isr => decide (isr &&& isrStopf ≠ 0)) _ flags Int
  apply polled.bind
  intro found
  apply Triple.mmioWrite
  rintro t ⟨reads, here, waited, ends⟩
  have log : (t.afterWrite controllerDevice i2cIcr icrStopcf).state.log = t.state.log := rfl
  rw [here] at log
  refine ⟨reads, log, waited, ?_⟩
  cases found with
  | some isr =>
      left
      rw [← here]
      exact ends.2
  | none => exact Or.inr ends.1

/-- A wait for a flag ends well where the flag comes without NACKF. -/
theorem waitFlag_ends {flag : Word} {shown : Controller → Bool} (flags : Flags flag shown) :
    Triple (fun t => t.state = s) (waitFlag controllerDevice flag env)
      (fun _ t => ∃ reads, t.state = s.run (arrived env reads) ∧
        Waited (fun s => s.nackf || shown s) env s reads ∧
        t.state.nackf = false ∧ shown t.state = true)
      (fun e t => e = -1 ∧ ∃ reads, t.state.log = (s.run (arrived env reads)).log ∧
        Waited (fun s => s.nackf || shown s) env s reads ∧
        ((s.run (arrived env reads)).nackf = true ∨
          reads = i2cTimeout ∧ shown (s.run (arrived env reads)) = false)) := by
  have either (s : Controller) :
      decide (s.isr &&& isrNackf ≠ 0 ∨ s.isr &&& flag ≠ 0) = (s.nackf || shown s) := by
    apply Bool.eq_iff_iff.mpr
    rw [decide_eq_true_iff, Bool.or_eq_true]
    exact or_congr (flags_nackf s) (flags s)
  have polled := @poll_isr env s
    (fun isr => decide (isr &&& isrNackf ≠ 0 ∨ isr &&& flag ≠ 0)) _ either Int
  apply polled.sure.bind
  intro found
  cases found with
  | none =>
      apply Triple.fail
      rintro t ⟨reads, here, waited, all, never⟩
      rw [here] at never
      rw [Bool.or_eq_false_iff] at never
      exact ⟨rfl, reads, congrArg _ here, waited, Or.inr ⟨all, never.2⟩⟩
  | some isr =>
      dsimp only
      by_cases nack : isr &&& isrNackf ≠ 0
      · rw [if_pos nack]
        intro t here
        obtain ⟨reads, here, waited, value, -⟩ := here
        rw [value, here] at nack
        have log : (t.afterWrite controllerDevice i2cIcr icrNackcf).state.log = t.state.log := rfl
        rw [here] at log
        exact ⟨rfl, reads, log, waited, Or.inl ((flags_nackf _).mp nack)⟩
      · rw [if_neg nack]
        apply Triple.pure
        rintro t ⟨reads, here, waited, value, found⟩
        rw [value, flags_nackf, Bool.not_eq_true] at nack
        rw [nack, Bool.false_or] at found
        exact ⟨reads, here, waited, nack, found⟩

/-- The byte on the bus is acknowledged within a wait, behind the STOP that may be
on its way. -/
def Acked (stopping : Bool) (env : Nat → List BusEvent) : Prop :=
  ∃ event rest, (arrived env i2cTimeout).drop stopping.toNat = event :: rest ∧
    event.acked = true

/-- A byte on the bus whose acknowledge sets the flag, and leads to `next`. -/
structure Exchange (shown : Controller → Bool) (s next : Controller) : Prop where
  waits : shown s = false
  waitsFreed : shown s.freed = false
  acked : ∀ event, event.acked = true → s.freed.step event = next
  refused : ∀ event, event.acked = false → (s.freed.step event).nackf = true ∧
    ∀ byte left autoend, (s.freed.step event).transfer ≠ .sending byte left autoend
  free : next.stopping = false
  rests : ∀ event, next.step event = next
  shows : shown next = true
  open_ : next.nackf = s.nackf

/-- Events up to a time in the wait, as the wait has them. -/
theorem drop_of_within {reads : Nat} (within : reads ≤ i2cTimeout) {count : Nat}
    {event : BusEvent} {rest : List BusEvent}
    (here : (arrived env reads).drop count = event :: rest) :
    ∃ more, (arrived env i2cTimeout).drop count = event :: more := by
  obtain ⟨later, all⟩ := List.IsPrefix.drop (arrived_mono env within) count
  rw [here, List.cons_append] at all
  exact ⟨rest ++ later, all.symm⟩

/-- No byte has been acknowledged, nor one taken, that was not before. -/
def NoNews (before after : List Moment) : Prop :=
  ∀ byte, (.sent byte true ∈ after → .sent byte true ∈ before) ∧
    (.taken byte ∈ after → .taken byte ∈ before)

/-- A wait for the acknowledge of a byte, with NACKF clear at its start. -/
theorem waitFlag_exchange {flag : Word} {shown : Controller → Bool} {next : Controller}
    (flags : Flags flag shown) (exchange : Exchange shown s next) (clear : s.nackf = false) :
    Triple (fun t => t.state = s) (waitFlag controllerDevice flag env)
      (fun _ t => t.state = next ∧ Acked s.stopping env)
      (fun e t => e = -1 ∧ ¬ Acked s.stopping env ∧ NoNews s.log t.state.log) := by
  apply (waitFlag_ends flags).endsAs
  · rintro _ t ⟨reads, here, waited, nack, found⟩
    rcases s.run_split (arrived env reads) with ⟨-, early⟩ | ⟨event, rest, first, run⟩
    · have never : shown (s.run (arrived env reads)) = false := by
        rcases early with same | same
        · rw [same, exchange.waits]
        · rw [same, exchange.waitsFreed]
      rw [here, never] at found
      cases found
    · rw [run] at here
      cases acked : event.acked with
      | true =>
          rw [exchange.acked event acked, Controller.run_rests exchange.free exchange.rests] at here
          obtain ⟨more, all⟩ := drop_of_within waited.within first
          exact ⟨here, event, more, all, acked⟩
      | false =>
          have set := (Controller.run_flags _ rest).nackf (exchange.refused event acked).1
          rw [here, set] at nack
          cases nack
  · rintro e t ⟨rfl, reads, log, waited, why⟩
    have taken (byte : Byte) (member : .taken byte ∈ t.state.log) : .taken byte ∈ s.log := by
      rw [log] at member
      exact Controller.run_taken member
    have freed_sent (byte : Byte) (member : .sent byte true ∈ s.freed.log) :
        .sent byte true ∈ s.log := by
      rw [s.freed_fields.2.2.2.2.2.2] at member
      cases List.mem_append.mp member with
      | inl old => exact old
      | inr new => cases s.stopping <;> simp at new
    rcases s.run_split (arrived env reads) with ⟨none, early⟩ | ⟨event, rest, first, run⟩
    · -- the byte is still on the bus
      have clear_now : (s.run (arrived env reads)).nackf = false := by
        rcases early with same | same
        · rw [same, clear]
        · rw [same, s.freed_fields.2.1, clear]
      rw [clear_now] at why
      obtain ⟨rfl, -⟩ := why.resolve_left Bool.false_ne_true
      refine ⟨rfl, ?_, fun byte => ⟨fun member => ?_, taken byte⟩⟩
      · rintro ⟨event, rest, first, -⟩
        rw [none] at first
        cases first
      · rw [log] at member
        rcases early with same | same
        · rwa [same] at member
        · rw [same] at member
          exact freed_sent byte member
    · rw [run] at why log
      cases acked : event.acked with
      | true =>
          rw [exchange.acked event acked, Controller.run_rests exchange.free exchange.rests,
            exchange.open_, clear, exchange.shows] at why
          simp at why
      | false =>
          obtain ⟨-, silent⟩ := exchange.refused event acked
          obtain ⟨more, all⟩ := drop_of_within waited.within first
          refine ⟨rfl, ?_, fun byte => ⟨fun member => ?_, taken byte⟩⟩
          · rintro ⟨other, more, found, answered⟩
            rw [all] at found
            cases found
            rw [acked] at answered
            cases answered
          · rw [log] at member
            have before := Controller.run_sent silent member
            obtain ⟨moments, grown, adds⟩ := s.freed.step_log event
            rw [grown] at before
            cases List.mem_append.mp before with
            | inl old => exact freed_sent byte old
            | inr new =>
                obtain ⟨same, -⟩ := adds _ new
                rw [acked] at same
                cases same

/-- A byte sent, or the address for sending, behind which the controller holds the bus. -/
theorem exchange_answer {shown : Controller → Bool} {moment : Bool → Moment} {left : Nat}
    {autoend : Bool} (holds : left ≠ 0 ∨ autoend = false)
    (answers : ∀ event : BusEvent, s.freed.step event =
      if event.acked then (s.freed.logged (moment event.acked)).proceed false left autoend
      else (s.freed.logged (moment event.acked)).refuse autoend)
    (waits : shown s = false) (waitsFreed : shown s.freed = false)
    (shows : shown ((s.freed.logged (moment true)).proceed false left autoend) = true) :
    Exchange shown s ((s.freed.logged (moment true)).proceed false left autoend) where
  waits := waits
  waitsFreed := waitsFreed
  acked event acked := by rw [answers, acked, if_pos rfl]
  refused event refused := by
    rw [answers, refused, if_neg Bool.false_ne_true]
    exact ⟨rfl, nofun⟩
  free := by
    have free : (s.freed.logged (moment true)).stopping = false := s.freed_fields.1
    rcases holds with more | stays
    · simpa [Controller.proceed, more] using free
    · cases left <;> simpa [Controller.proceed, stays] using free
  rests event := by
    rcases holds with more | stays
    · simp [Controller.proceed, more, Controller.step]
    · cases left <;> simp [Controller.proceed, stays, Controller.step]
  shows := shows
  open_ := ((s.freed.logged (moment true)).proceed_fields false autoend left).1.trans
    s.freed_fields.2.1

theorem exchange_address {slave : BitVec 7} {left : Nat} {autoend : Bool}
    (transfer : s.transfer = .addressing slave false left autoend) (more : left ≠ 0) :
    Exchange Controller.wants s
      ((s.freed.logged (.addressed slave false true)).proceed false left autoend) := by
  have freed : s.freed.transfer = .addressing slave false left autoend :=
    s.freed_fields.2.2.2.2.1.trans transfer
  apply @exchange_answer s Controller.wants (.addressed slave false) left autoend (Or.inl more)
  · intro event
    simp only [Controller.step, freed]
  · simp only [Controller.wants, transfer]
  · simp only [Controller.wants, freed]
  · simp [Controller.proceed, Controller.wants, more]

theorem exchange_byte {byte : Byte} {left : Nat} {autoend : Bool}
    (transfer : s.transfer = .sending byte left autoend) (more : left ≠ 0) :
    Exchange Controller.wants s
      ((s.freed.logged (.sent byte true)).proceed false left autoend) := by
  have freed : s.freed.transfer = .sending byte left autoend :=
    s.freed_fields.2.2.2.2.1.trans transfer
  apply @exchange_answer s Controller.wants (.sent byte) left autoend (Or.inl more)
  · intro event
    simp only [Controller.step, freed]
  · simp only [Controller.wants, transfer]
  · simp only [Controller.wants, freed]
  · simp [Controller.proceed, Controller.wants, more]

theorem exchange_last {byte : Byte} (transfer : s.transfer = .sending byte 0 false) :
    Exchange (fun s => s.transfer = .complete) s
      ((s.freed.logged (.sent byte true)).proceed false 0 false) := by
  have freed : s.freed.transfer = .sending byte 0 false :=
    s.freed_fields.2.2.2.2.1.trans transfer
  apply @exchange_answer s (fun s => s.transfer = .complete) (.sent byte) 0 false (Or.inr rfl)
  · intro event
    simp only [Controller.step, freed]
  · simp [transfer]
  · simp [freed]
  · simp [Controller.proceed]

/-- A wait with NACKF still set from before. -/
theorem waitFlag_stale {flag : Word} {shown : Controller → Bool} (flags : Flags flag shown)
    (set : s.nackf = true)
    (silent : ∀ byte left autoend, s.transfer ≠ .sending byte left autoend) :
    Triple (fun t => t.state = s) (waitFlag controllerDevice flag env) (fun _ _ => False)
      (fun e t => e = -1 ∧ NoNews s.log t.state.log) := by
  apply (waitFlag_ends flags).endsAs
  · rintro _ t ⟨reads, here, -, nack, -⟩
    have still := (Controller.run_flags s (arrived env reads)).nackf set
    rw [here, still] at nack
    cases nack
  · rintro e t ⟨rfl, reads, log, -, -⟩
    rw [log]
    exact ⟨rfl, fun byte => ⟨Controller.run_sent silent, Controller.run_taken⟩⟩

end

/-! ### The address of the slave and of the register -/

/-- Where a call stands that began with `s`: what has happened on the bus behind the
STOP that was on its way, and the transfer under way. -/
structure At (s : Controller) (moments : List Moment) (transfer : Transfer) (t : Controller) :
    Prop where
  nackf : t.nackf = false
  stopf : t.stopf = (s.stopf || s.stopping)
  rxne : t.rxne = s.rxne
  stopping : t.stopping = false
  transfer : t.transfer = transfer
  log : t.log = (if s.stopping then [.stopped] else []) ++ moments

/-- The address and the register byte are acknowledged within their waits. -/
def Reaches (stopping : Bool) (address register : Nat → List BusEvent) : Prop :=
  Acked stopping address ∧ Acked false register

/-- Given up before the register byte was acknowledged. -/
def FellShort (s : Controller) (address register : Nat → List BusEvent) (e : Int)
    (t : Controller) : Prop :=
  e = -1 ∧ (s.nackf = true ∨ ¬ Reaches s.stopping address register) ∧ NoNews [] t.log

section

variable {s : Controller} {slave : BitVec 7} {reg : Byte} {left : Nat} {autoend : Bool}
  {cr2 : Word} {address register : Nat → List BusEvent}

theorem at_mmioWrite {addr : Nat} {val : Word} {failed : Int → Traced Nat Word Controller → Prop} :
    Triple (fun t => t.state = s) (mmioWrite controllerDevice addr val)
      (fun _ t => t.state = controllerDevice.write addr val s) failed := by
  apply Triple.mmioWrite
  rintro t rfl
  rfl

/-- Where the controller holds the bus behind a byte. -/
def held (left : Nat) (autoend : Bool) : Transfer :=
  if left = 0 then .complete else .wanting left autoend

theorem at_proceed {u : Controller} {moments : List Moment} {moment : Moment}
    (nackf : u.nackf = false) (stopf : (u.stopf || u.stopping) = (s.stopf || s.stopping))
    (rxne : u.rxne = s.rxne)
    (log : u.freed.log = (if s.stopping then [.stopped] else []) ++ moments)
    (holds : left ≠ 0 ∨ autoend = false) :
    At s (moments ++ [moment]) (held left autoend)
      ((u.freed.logged moment).proceed false left autoend) := by
  obtain ⟨freed, freedNackf, freedRxne, -, -, freedStopf, -⟩ := u.freed_fields
  obtain ⟨sameNackf, sameStopf, sameRxne, -, sameLog⟩ :=
    (u.freed.logged moment).proceed_fields false autoend left
  refine ⟨sameNackf.trans (freedNackf.trans nackf), sameStopf.trans (freedStopf.trans stopf),
    sameRxne.trans (freedRxne.trans rxne), ?_, ?_, ?_⟩
  · have free : (u.freed.logged moment).stopping = false := freed
    rcases holds with more | stays
    · simpa [Controller.proceed, more] using free
    · cases left <;> simpa [Controller.proceed, stays] using free
  · rcases holds with more | stays
    · simp [Controller.proceed, held, more]
    · cases left <;> simp [Controller.proceed, held, stays]
  · rw [sameLog, ← List.append_assoc, ← log]
    rfl

/-- The START and the address. -/
theorem address_triple (empty : s.log = []) (starts : cr2 &&& cr2Start ≠ 0)
    (transfer : (s.start cr2).transfer = .addressing slave false (left + 1) autoend) :
    Triple (fun t => t.state = s)
      (mmioWrite controllerDevice i2cCr2 cr2 >>= fun _ =>
        waitFlag controllerDevice isrTxis address)
      (fun _ t => At s [.addressed slave false true] (held (left + 1) autoend) t.state ∧
        s.nackf = false ∧ Acked s.stopping address)
      (fun e t => FellShort s address register e t.state) := by
  apply at_mmioWrite.bind
  intro _
  rw [controllerDevice_write_cr2 starts]
  have log : (s.start cr2).log = [] := empty
  cases clear : (s.start cr2).nackf with
  | true =>
      have silent : ∀ byte left autoend, (s.start cr2).transfer ≠ .sending byte left autoend := by
        rw [transfer]
        exact nofun
      apply (waitFlag_stale flags_txis clear silent).endsAs (fun _ _ never => never.elim)
      rintro e t ⟨rfl, quiet⟩
      rw [log] at quiet
      exact ⟨rfl, Or.inl clear, quiet⟩
  | false =>
      have exchange := exchange_address transfer (Nat.succ_ne_zero left)
      apply (waitFlag_exchange flags_txis exchange clear).endsAs
      · rintro _ t ⟨here, acked⟩
        refine ⟨?_, clear, acked⟩
        have stopf : ((s.start cr2).stopf || (s.start cr2).stopping) = (s.stopf || s.stopping) :=
          rfl
        have rxne : (s.start cr2).rxne = s.rxne := rfl
        rw [here, ← List.nil_append [Moment.addressed slave false true]]
        apply at_proceed clear stopf rxne _ (Or.inl (Nat.succ_ne_zero left))
        rw [(s.start cr2).freed_fields.2.2.2.2.2.2, log, List.append_nil]
        rfl
      · rintro e t ⟨rfl, never, quiet⟩
        rw [log] at quiet
        exact ⟨rfl, Or.inr fun reaches => never reaches.1, quiet⟩

/-- The register byte, behind the address. -/
theorem register_triple {flag : Word} {shown : Controller → Bool} (flags : Flags flag shown)
    (exchange : ∀ t : Controller, t.transfer = .sending reg left autoend →
      Exchange shown t ((t.freed.logged (.sent reg true)).proceed false left autoend))
    (holds : left ≠ 0 ∨ autoend = false) :
    Triple
      (fun t => At s [.addressed slave false true] (.wanting (left + 1) autoend) t.state)
      (mmioWrite controllerDevice i2cTxdr (reg.setWidth 32) >>= fun _ =>
        waitFlag controllerDevice flag register)
      (fun _ t => At s [.addressed slave false true, .sent reg true] (held left autoend) t.state ∧
        Acked false register)
      (fun e t => e = -1 ∧ ¬ Acked false register ∧ NoNews [] t.state.log) := by
  apply Triple.ofState
  intro u here
  apply at_mmioWrite.bind
  intro _
  have send : u.send reg = { u with transfer := .sending reg left autoend } := by
    simp only [Controller.send, here.transfer, Nat.add_sub_cancel]
  rw [controllerDevice_write_txdr, send]
  have noNews (log : List Moment) (quiet : NoNews u.log log) : NoNews [] log := by
    intro byte
    have old := quiet byte
    rw [here.log] at old
    cases stopping : s.stopping <;> simpa [stopping] using old
  have clear : ({ u with transfer := .sending reg left autoend } : Controller).nackf = false :=
    here.nackf
  have free : ({ u with transfer := .sending reg left autoend } : Controller).stopping = false :=
    here.stopping
  apply (waitFlag_exchange flags (exchange _ rfl) clear).endsAs
  · rintro _ t ⟨now, acked⟩
    rw [free] at acked
    refine ⟨?_, acked⟩
    rw [now]
    have stopf : (u.stopf || u.stopping) = (s.stopf || s.stopping) := by
      rw [here.stopf, here.stopping, Bool.or_false]
    have log := (congrArg Controller.log (Controller.freed_of_not free)).trans here.log
    exact at_proceed clear stopf here.rxne log holds
  · rintro e t ⟨rfl, never, quiet⟩
    rw [free] at never
    exact ⟨rfl, never, noNews _ quiet⟩

end

end Mp257Fsbl.I2c
