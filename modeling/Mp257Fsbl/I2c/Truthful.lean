/-
Module: Mp257Fsbl.I2c.Truthful
Purpose: Runs of register transfers: whether each result tells what has happened on
  the bus, whatever flags the calls before it have left.
Trusted boundary: none
Main exports: Call, Call.perform, Step, EveryStep, Holds, Meets, i2c_everyStep_iff
-/
import Mp257Fsbl.I2c.Results

namespace Mp257Fsbl.I2c

open Mp257Fsbl.Foundation

/-! ### Calls -/

/-- A call with what the bus does during it. -/
inductive Call where
  | write (device reg val : Byte) (env : WriteEnv (List BusEvent))
  | read (device reg : Byte) (env : ReadEnv (List BusEvent))

/-- The log tells of one call. -/
def Controller.begun (s : Controller) : Controller := { s with log := [] }

/-- The result of a call, with the byte of a read, and the controller behind it. -/
def Call.perform (call : Call) (s : Controller) : Except Int (Option Byte) × Controller :=
  match call with
  | .write device reg val env =>
      let (result, t) :=
        i2cWriteReg controllerDevice device reg val env { state := s.begun, trace := [] }
      (result.map fun _ => none, t.state)
  | .read device reg env =>
      let (result, t) :=
        i2cReadReg controllerDevice device reg env { state := s.begun, trace := [] }
      (result.map some, t.state)

/-- The controller without the flags that earlier calls have left. -/
def Controller.unflagged (s : Controller) : Controller :=
  { s with nackf := false, stopf := false, rxne := false }

/-- Zero is returned exactly where the transfer was done, and with its byte. -/
def Truthful (s : Controller) (call : Call) : Prop :=
  match call with
  | .write device reg val _ =>
      (call.perform s).1 = .ok none ↔
        Written (device.setWidth 7) reg val (call.perform s).2.log
  | .read device reg _ =>
      ∀ byte, (call.perform s).1 = .ok (some byte) ↔
        Fetched (device.setWidth 7) reg byte (call.perform s).2.log

/-- The result does not depend on the flags. -/
def Independent (s : Controller) (call : Call) : Prop :=
  (call.perform s).1 = (call.perform s.unflagged).1

def Holds (s : Controller) (call : Call) : Prop := Truthful s call ∧ Independent s call

/-- What a call needs of the state it finds and of the bus. -/
def Meets (s : Controller) : Call → Prop
  | .write _ _ _ env =>
      Reaches s.stopping env.address env.register →
        s.nackf = false ∧ Finishes (s.stopf || s.stopping) env.stop
  | .read _ _ env =>
      Reaches s.stopping env.address env.register →
        ((∃ byte, Receives env.byte byte) → s.nackf = false) ∧
          (s.nackf = false → s.rxne = true → RefusedAtOnce env.byte)

/-! ### One write -/

section

variable (s : Controller) (device reg val : Byte) (env : WriteEnv (List BusEvent))

theorem write_cases :
    ((Call.write device reg val env).perform s).1 = .ok none ∧ s.nackf = false ∧
        Reaches s.stopping env.address env.register ∧
        (Written (device.setWidth 7) reg val ((Call.write device reg val env).perform s).2.log ↔
          Finishes (s.stopf || s.stopping) env.stop) ∨
      ((Call.write device reg val env).perform s).1 = .error (-1) ∧
        (s.nackf = true ∨ ¬ Reaches s.stopping env.address env.register) ∧
        ¬ Written (device.setWidth 7) reg val
          ((Call.write device reg val env).perform s).2.log := by
  have triple := @i2cWriteReg_triple s.begun device reg val rfl env
  have start : ({ state := s.begun, trace := [] } : Traced Nat Word Controller).state = s.begun :=
    rfl
  rcases triple.ends start with ⟨_, t, run, done⟩ | ⟨_, t, run, rfl, why, quiet⟩
  · left
    rw [Call.perform, run]
    exact ⟨rfl, done⟩
  · right
    rw [Call.perform, run]
    refine ⟨rfl, why, ?_⟩
    rintro ⟨before, log⟩
    have sent : Moment.sent val true ∈ t.state.log := by
      rw [log]
      simp
    exact nomatch (quiet val).1 sent

theorem write_holds_iff :
    Holds s (.write device reg val env) ↔ Meets s (.write device reg val env) := by
  have free := write_cases s.unflagged device reg val env
  rcases write_cases s device reg val env with
    ⟨result, clear, reaches, written⟩ | ⟨result, why, unwritten⟩
  · have same : ((Call.write device reg val env).perform s.unflagged).1 = .ok none := by
      rcases free with ⟨same, -⟩ | ⟨-, nack | never, -⟩
      · exact same
      · cases nack
      · exact absurd reaches never
    constructor
    · rintro ⟨truthful, -⟩ -
      exact ⟨clear, written.mp (truthful.mp result)⟩
    · intro meets
      refine ⟨iff_of_true result (written.mpr (meets reaches).2), ?_⟩
      rw [Independent, result, same]
  · have never : ((Call.write device reg val env).perform s).1 ≠ .ok none := by
      rw [result]
      exact nofun
    constructor
    · rintro ⟨-, independent⟩ reaches
      rcases free with ⟨same, -⟩ | ⟨-, nack | short, -⟩
      · exact absurd (independent.trans same) never
      · cases nack
      · exact absurd reaches short
    · intro meets
      refine ⟨iff_of_false never unwritten, ?_⟩
      rcases free with ⟨-, -, reaches, -⟩ | ⟨same, -, -⟩
      · rcases why with nack | short
        · rw [(meets reaches).1] at nack
          cases nack
        · exact absurd reaches short
      · rw [Independent, result, same]

end

/-! ### One read -/

section

variable (s : Controller) (device reg : Byte) (env : ReadEnv (List BusEvent))

theorem read_cases :
    (∃ byte, ((Call.read device reg env).perform s).1 = .ok (some byte) ∧ s.nackf = false ∧
        Reaches s.stopping env.address env.register ∧
        Gives s (device.setWidth 7) reg env byte ((Call.read device reg env).perform s).2.log) ∨
      ((Call.read device reg env).perform s).1 = .error (-1) ∧
        (s.nackf = true ∨ ¬ Reaches s.stopping env.address env.register ∨ Misses s env) ∧
        ∀ byte, ¬ Fetched (device.setWidth 7) reg byte
          ((Call.read device reg env).perform s).2.log := by
  have triple := @i2cReadReg_triple s.begun device reg rfl env
  have start : ({ state := s.begun, trace := [] } : Traced Nat Word Controller).state = s.begun :=
    rfl
  rcases triple.ends start with ⟨byte, t, run, gives⟩ | ⟨_, t, run, rfl, why, untaken⟩
  · left
    rw [Call.perform, run]
    exact ⟨byte, rfl, gives⟩
  · right
    rw [Call.perform, run]
    refine ⟨rfl, why, ?_⟩
    rintro byte ⟨earlier, between, after, log⟩
    apply untaken byte
    rw [log]
    simp

/-- A refused address brings no byte. -/
theorem not_receives_of_refused {env : Nat → List BusEvent} (refused : RefusedAtOnce env) :
    ¬ ∃ byte, Receives env byte := by
  rintro ⟨byte, event, next, more, whole, acked, -⟩
  obtain ⟨other, rest, first, nack⟩ := refused
  have some_time : 1 ≤ i2cTimeout := by decide
  obtain ⟨later, same⟩ := arrived_mono env some_time
  rw [arrived_one, first, whole, List.cons_append] at same
  rw [(List.cons.inj same).1, acked] at nack
  cases nack

theorem receives_unique {env : Nat → List BusEvent} {one two : Byte} (first : Receives env one)
    (second : Receives env two) : one = two := by
  obtain ⟨_, _, _, whole, -, rfl⟩ := first
  obtain ⟨_, _, _, same, -, rfl⟩ := second
  rw [whole] at same
  cases same
  rfl

/-- Without flags, a read gives its byte exactly where it is received in time. -/
theorem read_unflagged :
    (∃ byte, ((Call.read device reg env).perform s.unflagged).1 = .ok (some byte) ∧
        Reaches s.stopping env.address env.register ∧ Receives env.byte byte) ∨
      ((Call.read device reg env).perform s.unflagged).1 = .error (-1) ∧
        ¬ (Reaches s.stopping env.address env.register ∧ ∃ byte, Receives env.byte byte) := by
  rcases read_cases s.unflagged device reg env with
    ⟨byte, result, -, reaches, gives⟩ | ⟨result, why, -⟩
  · exact Or.inl ⟨byte, result, reaches, gives.1⟩
  · refine Or.inr ⟨result, fun ⟨reaches, received⟩ => ?_⟩
    rcases why with nack | short | missed
    · cases nack
    · exact short reaches
    · exact missed received

theorem read_meets_of_holds (holds : Holds s (.read device reg env)) :
    Meets s (.read device reg env) := by
  obtain ⟨truthful, independent⟩ := holds
  intro reaches
  rcases read_cases s device reg env with
    ⟨byte, result, clear, -, gives⟩ | ⟨result, why, -⟩
  · refine ⟨fun _ => clear, fun _ full => ?_⟩
    rw [Gives, full, if_pos rfl] at gives
    exact absurd ((truthful byte).mp result) (gives.2 byte)
  · refine ⟨fun received => ?_, fun clear full => ?_⟩
    · rcases read_unflagged s device reg env with ⟨byte, same, -⟩ | ⟨-, short⟩
      · rw [Independent, result, same] at independent
        cases independent
      · exact absurd ⟨reaches, received⟩ short
    · rcases why with nack | short | missed
      · rw [clear] at nack
        cases nack
      · exact absurd reaches short
      · rwa [Misses, full, if_pos rfl] at missed

theorem read_holds_of_meets (meets : Meets s (.read device reg env)) :
    Holds s (.read device reg env) := by
  rcases read_cases s device reg env with
    ⟨byte, result, clear, reaches, gives⟩ | ⟨result, why, unfetched⟩
  · have empty : s.rxne = false := by
      by_contra full
      rw [Bool.not_eq_false] at full
      rw [Gives, full, if_pos rfl] at gives
      exact gives.1 ((meets reaches).2 clear full)
    rw [Gives, empty, if_neg Bool.false_ne_true] at gives
    obtain ⟨receives, fetched⟩ := gives
    constructor
    · intro other
      rw [result, fetched]
      constructor
      · intro same
        cases same
        rfl
      · rintro rfl
        rfl
    · rcases read_unflagged s device reg env with ⟨other, same, -, received⟩ | ⟨-, short⟩
      · rw [Independent, result, same, receives_unique receives received]
      · exact absurd ⟨reaches, byte, receives⟩ short
  · constructor
    · intro byte
      refine iff_of_false (fun same => ?_) (unfetched byte)
      rw [result] at same
      cases same
    · rcases read_unflagged s device reg env with ⟨byte, -, reaches, received⟩ | ⟨same, -⟩
      · rcases why with nack | short | missed
        · rw [(meets reaches).1 ⟨byte, received⟩] at nack
          cases nack
        · exact absurd reaches short
        · cases full : s.rxne with
          | true =>
              rw [Misses, full, if_pos rfl] at missed
              exact absurd ⟨byte, received⟩ (not_receives_of_refused missed)
          | false =>
              rw [Misses, full, if_neg Bool.false_ne_true] at missed
              exact absurd ⟨byte, received⟩ missed
      · rw [Independent, result, same]

end

/-! ### Runs -/

/-- A call, with what the bus does before it. -/
structure Step where
  pause : List BusEvent
  call : Call

/-- Something holds of each call of a run at the state it finds. -/
def EveryStep (holds : Controller → Call → Prop) : Controller → List Step → Prop
  | _, [] => True
  | s, step :: rest =>
      holds (s.run step.pause) step.call ∧
        EveryStep holds (step.call.perform (s.run step.pause)).2 rest

theorem EveryStep.congr {one two : Controller → Call → Prop}
    (same : ∀ s call, one s call ↔ two s call) (s : Controller) (steps : List Step) :
    EveryStep one s steps ↔ EveryStep two s steps := by
  induction steps generalizing s with
  | nil => exact Iff.rfl
  | cons step rest ih => exact and_congr (same _ _) (ih _)

/-- In a run from any state, all results are truthful and independent of flags left
by earlier calls exactly where each call meets its condition at the state it finds. -/
theorem i2c_everyStep_iff (s : Controller) (steps : List Step) :
    EveryStep Holds s steps ↔ EveryStep Meets s steps := by
  apply EveryStep.congr
  rintro s (⟨device, reg, val, env⟩ | ⟨device, reg, env⟩)
  · exact write_holds_iff s device reg val env
  · exact ⟨read_meets_of_holds s device reg env, read_holds_of_meets s device reg env⟩

/-! ### A value that is refused -/

/-- The controller as i2c_init leaves it. -/
def idle : Controller where
  nackf := false
  stopf := false
  rxne := false
  rxdr := 0
  stopping := false
  transfer := .idle
  log := []

/-- All that happens in a wait happens up to its first read. -/
def atOnce (events : List BusEvent) : Nat → List BusEvent
  | 0 => events
  | _ + 1 => []

def acknowledge : BusEvent where
  acked := true
  data := 0

def refusal : BusEvent where
  acked := false
  data := 0

/-- The address and the register byte are acknowledged, the value is not. -/
def refusedWrite : Call :=
  .write 0x33 0x20 0x01
    { address := atOnce [acknowledge]
      register := atOnce [acknowledge]
      stop := atOnce [refusal, acknowledge] }

theorem arrived_atOnce (first : BusEvent) (rest : List BusEvent) :
    ∃ later, arrived (atOnce (first :: rest)) i2cTimeout = first :: later := by
  have some_time : 1 ≤ i2cTimeout := by decide
  obtain ⟨later, same⟩ := arrived_mono (atOnce (first :: rest)) some_time
  rw [arrived_one] at same
  exact ⟨rest ++ later, same.symm⟩

/-- A write whose value is refused is reported as done. -/
theorem refusedWrite_not_truthful :
    ¬ EveryStep Holds idle [{ pause := [], call := refusedWrite }] := by
  rintro ⟨holds, -⟩
  have meets := (write_holds_iff _ _ _ _ _).mp holds
  have acked : Acked false (atOnce [acknowledge]) := by
    obtain ⟨later, first⟩ := arrived_atOnce acknowledge []
    exact ⟨acknowledge, later, first, rfl⟩
  obtain ⟨-, event, stop, rest, whole, answered⟩ := meets ⟨acked, acked⟩
  obtain ⟨later, first⟩ := arrived_atOnce refusal [acknowledge]
  have bound : (if (idle.stopf || idle.stopping) then 1 else i2cTimeout) = i2cTimeout :=
    if_neg Bool.false_ne_true
  have same := whole.symm.trans ((congrArg (arrived _) bound).trans first)
  rw [(List.cons.inj same).1] at answered
  cases answered

end Mp257Fsbl.I2c
