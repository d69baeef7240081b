/-
Module: Mp257Fsbl.I2c.Controller
Purpose: The I2C controller as a device: what its flags say of the bus, and what a
  slave's answers make of a transfer.
Trusted boundary: human-reviewed model of I2C7 in master mode; a START takes the
  place of a transfer that was given up, and waits for a STOP that is on its way
Main exports: BusEvent, Moment, Transfer, Controller, Controller.run,
  controllerDevice, arrived
-/
import Mp257Fsbl.Foundation.Driver

namespace Mp257Fsbl.I2c

open Mp257Fsbl.Foundation

abbrev Byte := BitVec 8
abbrev Word := BitVec 32

/-! ### Registers -/

def i2c7Base : Nat := 0x40180000
def i2cCr2 : Nat := i2c7Base + 0x04
def i2cIsr : Nat := i2c7Base + 0x18
def i2cIcr : Nat := i2c7Base + 0x1C
def i2cRxdr : Nat := i2c7Base + 0x24
def i2cTxdr : Nat := i2c7Base + 0x28

def cr2RdWrn : Word := 0x400
def cr2Start : Word := 0x2000
def cr2Autoend : Word := 0x2000000
def isrTxis : Word := 0x2
def isrRxne : Word := 0x4
def isrNackf : Word := 0x10
def isrStopf : Word := 0x20
def isrTc : Word := 0x40
def icrNackcf : Word := 0x10
def icrStopcf : Word := 0x20

/-! ### The bus -/

/-- The next byte or STOP on the bus is done. The slave has acknowledged a byte
sent to it or not; a byte it sends is `data`. -/
structure BusEvent where
  acked : Bool
  data : Byte
deriving Repr, DecidableEq

/-- What has happened on the bus, and what software has taken from it. -/
inductive Moment where
  | addressed (slave : BitVec 7) (reads acked : Bool)
  | sent (byte : Byte) (acked : Bool)
  | received (byte : Byte)
  | stopped
  | taken (byte : Byte)
deriving Repr, DecidableEq

/-- The transfer under way. Where the controller wants a byte, or has no more to
do, it holds the bus until software goes on. `left` counts the bytes behind the
one on the bus, or from the wanted one on. -/
inductive Transfer where
  | idle
  | addressing (slave : BitVec 7) (reads : Bool) (left : Nat) (autoend : Bool)
  | wanting (left : Nat) (autoend : Bool)
  | sending (byte : Byte) (left : Nat) (autoend : Bool)
  | receiving (left : Nat) (autoend : Bool)
  | complete
deriving Repr, DecidableEq

/-- The transfer that CR2 asks for. -/
def Transfer.ofCr2 (cr2 : Word) : Transfer :=
  .addressing ((cr2 >>> 1).setWidth 7) (cr2 &&& cr2RdWrn ≠ 0)
    ((cr2 >>> 16).setWidth 8).toNat (cr2 &&& cr2Autoend ≠ 0)

/-- The controller, with what has happened since the log was last cleared. -/
structure Controller where
  nackf : Bool
  stopf : Bool
  rxne : Bool
  rxdr : Byte
  /-- A STOP is on its way. -/
  stopping : Bool
  transfer : Transfer
  log : List Moment
deriving Repr, DecidableEq

namespace Controller

def logged (s : Controller) (moment : Moment) : Controller := { s with log := s.log ++ [moment] }

/-- The address or a byte has gone well. -/
def proceed (s : Controller) (reads : Bool) (left : Nat) (autoend : Bool) : Controller :=
  if left = 0 then
    if autoend then { s with transfer := .idle, stopping := true }
    else { s with transfer := .complete }
  else if reads then { s with transfer := .receiving left autoend }
  else { s with transfer := .wanting left autoend }

/-- The address or a byte was not acknowledged. -/
def refuse (s : Controller) (autoend : Bool) : Controller :=
  { s with nackf := true, transfer := .idle, stopping := autoend }

/-- The transfer after an event. A byte is received only where RXDR is free. -/
def step (s : Controller) (event : BusEvent) : Controller :=
  match s.transfer with
  | .addressing slave reads left autoend =>
      let s := s.logged (.addressed slave reads event.acked)
      if event.acked then s.proceed reads left autoend else s.refuse autoend
  | .sending byte left autoend =>
      let s := s.logged (.sent byte event.acked)
      if event.acked then s.proceed false left autoend else s.refuse autoend
  | .receiving left autoend =>
      if s.rxne then s
      else
        let s := s.logged (.received event.data)
        { s with rxne := true, rxdr := event.data }.proceed true (left - 1) autoend
  | .idle | .wanting _ _ | .complete => s

/-- The controller once a STOP on its way is sent. -/
def freed (s : Controller) : Controller :=
  if s.stopping then { s.logged .stopped with stopping := false, stopf := true } else s

/-- A STOP on its way comes before anything else. -/
def advance (s : Controller) (event : BusEvent) : Controller :=
  if s.stopping then s.freed else s.step event

def run (s : Controller) (events : List BusEvent) : Controller := events.foldl advance s

def wants (s : Controller) : Bool :=
  match s.transfer with
  | .wanting _ _ => true
  | _ => false

def flag (set : Bool) (bit : Word) : Word := if set then bit else 0

/-- The flags as software reads them. -/
def isr (s : Controller) : Word :=
  flag s.wants isrTxis ||| flag s.rxne isrRxne ||| flag s.nackf isrNackf |||
    flag s.stopf isrStopf ||| flag (s.transfer = .complete) isrTc

/-- A write of CR2 with START. -/
def start (s : Controller) (cr2 : Word) : Controller := { s with transfer := .ofCr2 cr2 }

/-- A write of TXDR. -/
def send (s : Controller) (byte : Byte) : Controller :=
  match s.transfer with
  | .wanting left autoend => { s with transfer := .sending byte (left - 1) autoend }
  | _ => s

def clear (s : Controller) (icr : Word) : Controller :=
  { s with
    nackf := s.nackf && icr &&& icrNackcf = 0
    stopf := s.stopf && icr &&& icrStopcf = 0 }

/-- A read of RXDR. -/
def take (s : Controller) : Controller := { s.logged (.taken s.rxdr) with rxne := false }

end Controller

/-- Up to a read of ISR the bus goes on. -/
def controllerDevice : Device Nat Word (List BusEvent) Controller where
  read addr events s :=
    if addr = i2cIsr then ((s.run events).isr, s.run events)
    else if addr = i2cRxdr then (s.rxdr.setWidth 32, s.take)
    else (0, s)
  write addr val s :=
    if addr = i2cCr2 then if val &&& cr2Start ≠ 0 then s.start val else s
    else if addr = i2cTxdr then s.send (val.setWidth 8)
    else if addr = i2cIcr then s.clear val
    else s

/-- What happens on the bus up to so many reads. -/
def arrived (env : Nat → List BusEvent) : Nat → List BusEvent
  | 0 => []
  | reads + 1 => arrived env reads ++ env reads

/-! ### Reads -/

theorem arrived_mono (env : Nat → List BusEvent) {few many : Nat} (le : few ≤ many) :
    arrived env few <+: arrived env many := by
  induction le with
  | refl => exact List.prefix_refl _
  | step _ ih => exact ih.trans (List.prefix_append _ _)

theorem arrived_one (env : Nat → List BusEvent) : arrived env 1 = env 0 := List.nil_append _

theorem controllerDevice_write_cr2 {val : Word} (starts : val &&& cr2Start ≠ 0) (s : Controller) :
    controllerDevice.write i2cCr2 val s = s.start val := if_pos starts

theorem controllerDevice_write_txdr (byte : Byte) (s : Controller) :
    controllerDevice.write i2cTxdr (byte.setWidth 32) s = s.send byte :=
  congrArg s.send (BitVec.setWidth_setWidth_of_le byte (by decide))

namespace Controller

theorem run_append (s : Controller) (first rest : List BusEvent) :
    s.run (first ++ rest) = (s.run first).run rest := List.foldl_append

theorem afterReads_eq_run (env : Nat → List BusEvent) (s : Controller) (reads : Nat) :
    controllerDevice.afterReads i2cIsr env s reads = s.run (arrived env reads) := by
  induction reads with
  | zero => rfl
  | succ reads ih =>
      rw [Device.afterReads, ih, arrived, run_append]
      rfl

/-- Each flag is its bit of ISR. -/
theorem isr_bits (s : Controller) :
    (s.isr &&& isrTxis ≠ 0 ↔ s.wants = true) ∧ (s.isr &&& isrRxne ≠ 0 ↔ s.rxne = true) ∧
      (s.isr &&& isrNackf ≠ 0 ↔ s.nackf = true) ∧ (s.isr &&& isrStopf ≠ 0 ↔ s.stopf = true) ∧
      (s.isr &&& isrTc ≠ 0 ↔ decide (s.transfer = .complete) = true) := by
  unfold isr
  cases s.wants <;> cases s.rxne <;> cases s.nackf <;> cases s.stopf <;>
    cases decide (s.transfer = .complete) <;> decide

/-! ### What an event changes -/

@[simp] theorem run_nil (s : Controller) : s.run [] = s := rfl

@[simp] theorem run_cons (s : Controller) (event : BusEvent) (rest : List BusEvent) :
    s.run (event :: rest) = (s.advance event).run rest := rfl

section

variable (s : Controller) (reads autoend : Bool) (left : Nat) (event : BusEvent)

/-- Going on sets no flag and logs nothing. -/
theorem proceed_fields :
    (s.proceed reads left autoend).nackf = s.nackf ∧
      (s.proceed reads left autoend).stopf = s.stopf ∧
      (s.proceed reads left autoend).rxne = s.rxne ∧
      (s.proceed reads left autoend).rxdr = s.rxdr ∧
      (s.proceed reads left autoend).log = s.log := by
  unfold proceed
  split
  · split <;> exact ⟨rfl, rfl, rfl, rfl, rfl⟩
  · split <;> exact ⟨rfl, rfl, rfl, rfl, rfl⟩

/-- No transfer starts to send by going on. -/
theorem proceed_transfer (byte : Byte) (more : Nat) (ends : Bool) :
    (s.proceed reads left autoend).transfer ≠ .sending byte more ends := by
  unfold proceed
  split
  · split <;> exact nofun
  · split <;> exact nofun

theorem freed_fields :
    s.freed.stopping = false ∧ s.freed.nackf = s.nackf ∧ s.freed.rxne = s.rxne ∧
      s.freed.rxdr = s.rxdr ∧ s.freed.transfer = s.transfer ∧
      s.freed.stopf = (s.stopf || s.stopping) ∧
      s.freed.log = s.log ++ if s.stopping then [.stopped] else [] := by
  unfold freed
  cases stopping : s.stopping <;> simp [stopping, logged]

/-- No flag is cleared, RXDR is kept while it is full, and nothing starts to send. -/
structure Keeps (s s' : Controller) : Prop where
  nackf : s.nackf = true → s'.nackf = true
  stopf : s.stopf = true → s'.stopf = true
  rxne : s.rxne = true → s'.rxne = true ∧ s'.rxdr = s.rxdr
  silent : (∀ byte left autoend, s.transfer ≠ .sending byte left autoend) →
    ∀ byte left autoend, s'.transfer ≠ .sending byte left autoend

theorem Keeps.refl : Keeps s s := ⟨id, id, fun full => ⟨full, rfl⟩, id⟩

variable {s} in
theorem Keeps.trans {s' s'' : Controller} (first : Keeps s s') (second : Keeps s' s'') :
    Keeps s s'' := by
  refine ⟨second.nackf ∘ first.nackf, second.stopf ∘ first.stopf, fun full => ?_,
    second.silent ∘ first.silent⟩
  have here := first.rxne full
  have later := second.rxne here.1
  exact ⟨later.1, later.2.trans here.2⟩

theorem logged_keeps (moment : Moment) : Keeps s (s.logged moment) :=
  ⟨id, id, fun full => ⟨full, rfl⟩, id⟩

theorem proceed_keeps : Keeps s (s.proceed reads left autoend) := by
  obtain ⟨nackf, stopf, rxne, rxdr, -⟩ := s.proceed_fields reads autoend left
  refine ⟨nackf.trans, stopf.trans, fun full => ⟨rxne.trans full, rxdr⟩, fun _ => ?_⟩
  exact s.proceed_transfer reads autoend left

theorem refuse_keeps : Keeps s (s.refuse autoend) :=
  ⟨fun _ => rfl, id, fun full => ⟨full, rfl⟩, fun _ => nofun⟩

theorem freed_keeps : Keeps s s.freed := by
  obtain ⟨-, nackf, rxne, rxdr, transfer, stopf, -⟩ := s.freed_fields
  refine ⟨nackf.trans, fun set => ?_, fun full => ⟨rxne.trans full, rxdr⟩, fun silent => ?_⟩
  · rw [stopf, set, Bool.true_or]
  · rwa [transfer]

/-- A byte with its answer, and then on or not. -/
theorem answer_keeps (moment : Moment) :
    Keeps s (if event.acked then (s.logged moment).proceed reads left autoend
      else (s.logged moment).refuse autoend) := by
  split
  · exact (s.logged_keeps moment).trans (proceed_keeps _ _ _ _)
  · exact (s.logged_keeps moment).trans (refuse_keeps _ _)

theorem answer_log (moment : Moment) :
    (if event.acked then (s.logged moment).proceed reads left autoend
      else (s.logged moment).refuse autoend).log = s.log ++ [moment] := by
  split
  · exact ((s.logged moment).proceed_fields reads autoend left).2.2.2.2
  · rfl

theorem step_keeps : Keeps s (s.step event) := by
  unfold step
  cases s.transfer with
  | idle => exact Keeps.refl s
  | wanting left autoend => exact Keeps.refl s
  | complete => exact Keeps.refl s
  | addressing slave reads left autoend => exact answer_keeps s reads autoend left event _
  | sending byte left autoend => exact answer_keeps s false autoend left event _
  | receiving left autoend =>
      dsimp only
      split
      · exact Keeps.refl s
      · rename_i free
        have filled : Keeps s { s.logged (.received event.data) with
            rxne := true, rxdr := event.data } :=
          ⟨id, id, fun full => absurd full free, id⟩
        exact filled.trans (proceed_keeps _ _ _ _)

/-- What an event may add to the log, by the transfer it meets. -/
def Adds (s : Controller) (event : BusEvent) : Moment → Prop
  | .addressed _ _ _ => True
  | .sent _ acked =>
      acked = event.acked ∧ ∃ byte left autoend, s.transfer = .sending byte left autoend
  | .received _ => s.rxne = false
  | .stopped => True
  | .taken _ => False

theorem step_log :
    ∃ moments, (s.step event).log = s.log ++ moments ∧ ∀ moment ∈ moments, s.Adds event moment := by
  have nothing : ∃ moments, s.log = s.log ++ moments ∧ ∀ moment ∈ moments, s.Adds event moment :=
    ⟨[], (List.append_nil _).symm, nofun⟩
  have one (moment : Moment) (adds : s.Adds event moment) :
      ∃ moments, s.log ++ [moment] = s.log ++ moments ∧
        ∀ moment ∈ moments, s.Adds event moment := by
    refine ⟨[moment], rfl, fun other member => ?_⟩
    rw [List.mem_singleton.mp member]
    exact adds
  unfold step
  cases transfer : s.transfer with
  | idle => exact nothing
  | wanting left autoend => exact nothing
  | complete => exact nothing
  | addressing slave reads left autoend =>
      dsimp only
      rw [answer_log]
      exact one _ trivial
  | sending byte left autoend =>
      dsimp only
      rw [answer_log]
      exact one _ ⟨rfl, byte, left, autoend, transfer⟩
  | receiving left autoend =>
      dsimp only
      split
      · exact nothing
      · rename_i free
        rw [(proceed_fields _ _ _ _).2.2.2.2]
        exact one (.received event.data) (Bool.eq_false_iff.mpr free)

theorem advance_keeps : Keeps s (s.advance event) := by
  unfold advance
  split
  · exact freed_keeps s
  · exact step_keeps s event

theorem advance_log :
    ∃ moments, (s.advance event).log = s.log ++ moments ∧
      ∀ moment ∈ moments, s.Adds event moment := by
  unfold advance
  split
  · rename_i stopping
    refine ⟨[.stopped], ?_, fun moment member => ?_⟩
    · rw [s.freed_fields.2.2.2.2.2.2, stopping, if_pos rfl]
    · rw [List.mem_singleton.mp member]
      trivial
  · exact step_log s event

end

section

variable {s : Controller} {events : List BusEvent}

theorem run_flags (s : Controller) (events : List BusEvent) : Keeps s (s.run events) := by
  induction events generalizing s with
  | nil => exact Keeps.refl s
  | cons event rest ih => exact (advance_keeps s event).trans (ih _)

/-- What no event adds, a run does not add. -/
theorem run_adds_none {holds : Controller → Prop} {moment : Moment}
    (keeps : ∀ s event, holds s → holds (s.advance event))
    (never : ∀ s event, holds s → ¬ s.Adds event moment) (here : holds s)
    (member : moment ∈ (s.run events).log) : moment ∈ s.log := by
  induction events generalizing s with
  | nil => exact member
  | cons event rest ih =>
      have earlier := ih (keeps s event here) member
      obtain ⟨moments, log, adds⟩ := advance_log s event
      rw [log] at earlier
      cases List.mem_append.mp earlier with
      | inl old => exact old
      | inr new => exact absurd (adds moment new) (never s event here)

theorem run_log (s : Controller) (events : List BusEvent) :
    ∃ moments, (s.run events).log = s.log ++ moments ∧ ∀ byte, .taken byte ∉ moments := by
  induction events generalizing s with
  | nil => exact ⟨[], (List.append_nil _).symm, fun _ => List.not_mem_nil⟩
  | cons event rest ih =>
      obtain ⟨first, log, adds⟩ := advance_log s event
      obtain ⟨later, grown, untaken⟩ := ih (s.advance event)
      refine ⟨first ++ later, ?_, fun byte member => ?_⟩
      · rw [run_cons, grown, log, List.append_assoc]
      · cases List.mem_append.mp member with
        | inl now => exact adds _ now
        | inr after => exact untaken byte after

/-- Only software takes a byte. -/
theorem run_taken {byte : Byte} (member : .taken byte ∈ (s.run events).log) :
    .taken byte ∈ s.log :=
  @run_adds_none _ _ (fun _ => True) _ (fun _ _ _ => trivial) (fun _ _ _ adds => adds) trivial
    member

/-- Nothing is sent but what software has written. -/
theorem run_sent {byte : Byte} {acked : Bool}
    (silent : ∀ byte left autoend, s.transfer ≠ .sending byte left autoend)
    (member : .sent byte acked ∈ (s.run events).log) : .sent byte acked ∈ s.log := by
  refine run_adds_none (fun s event => (advance_keeps s event).silent) ?_ silent member
  rintro s event silent ⟨-, byte, left, autoend, sending⟩
  exact silent byte left autoend sending

/-- Nothing is received while RXDR is full. -/
theorem run_received {byte : Byte} (full : s.rxne = true)
    (member : .received byte ∈ (s.run events).log) : .received byte ∈ s.log := by
  refine run_adds_none (fun s event here => ((advance_keeps s event).rxne here).1) ?_ full member
  intro s event full free
  exact Bool.false_ne_true ((show s.rxne = false from free).symm.trans full)

theorem freed_of_not (free : s.stopping = false) : s.freed = s := by
  unfold freed
  rw [free, if_neg Bool.false_ne_true]

theorem advance_of_not (free : s.stopping = false) (event : BusEvent) :
    s.advance event = s.step event := by
  unfold advance
  rw [free, if_neg Bool.false_ne_true]

/-- A controller that waits for software stays as it is. -/
theorem run_rests (free : s.stopping = false) (rests : ∀ event, s.step event = s)
    (events : List BusEvent) : s.run events = s := by
  induction events with
  | nil => rfl
  | cons event rest ih => rw [run_cons, advance_of_not free, rests, ih]

/-- The events up to the one behind the STOP, and those from it on. -/
theorem run_split (s : Controller) (events : List BusEvent) :
    events.drop s.stopping.toNat = [] ∧ (s.run events = s ∨ s.run events = s.freed) ∨
      ∃ event rest, events.drop s.stopping.toNat = event :: rest ∧
        s.run events = (s.freed.step event).run rest := by
  have after (event : BusEvent) : s.freed.advance event = s.freed.step event :=
    advance_of_not s.freed_fields.1 event
  cases stopping : s.stopping with
  | false =>
      cases events with
      | nil => exact Or.inl ⟨rfl, Or.inl rfl⟩
      | cons event rest =>
          refine Or.inr ⟨event, rest, rfl, ?_⟩
          rw [run_cons, ← after, freed_of_not stopping]
  | true =>
      have first (event : BusEvent) : s.advance event = s.freed := if_pos stopping
      match events with
      | [] => exact Or.inl ⟨rfl, Or.inl rfl⟩
      | [event] => exact Or.inl ⟨rfl, Or.inr (by rw [run_cons, first, run_nil])⟩
      | stop :: event :: rest =>
          refine Or.inr ⟨event, rest, rfl, ?_⟩
          rw [run_cons, first, run_cons, after]

end

end Controller

end Mp257Fsbl.I2c
