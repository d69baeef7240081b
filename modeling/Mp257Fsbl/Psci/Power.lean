/-
Module: Mp257Fsbl.Psci.Power
Purpose: The power state of both cores over every sequence of PSCI calls, each
  call one atomic step.
Trusted boundary: human-reviewed model of the pen's exit in psci_pen_wait; the
  calls are those of Mp257Fsbl.Psci.Smc
Main exports: Power, PowerEvent, PowerStep, Bookkept, ReleasesCore1,
  Core0StaysOn, powerRun_bookkept
-/
import Mp257Fsbl.Foundation.Transition
import Mp257Fsbl.Psci.Smc

namespace Mp257Fsbl.Psci

open Mp257Fsbl.Foundation

inductive CoreId where
  | core0
  | core1
deriving Repr, DecidableEq

namespace CoreId

/-- The affinity that `mpidr_el1` shows on the core. -/
def aff : CoreId → UInt64
  | core0 => 0
  | core1 => 1

/-- The core that a call names. -/
def ofMpidr (mpidr : UInt64) : Option CoreId :=
  if mpidr &&& 0xFFFFFF = 0 then some core0
  else if mpidr &&& 0xFFFFFF = 1 then some core1
  else none

end CoreId

/-- Where a core is. -/
inductive CoreMode where
  /-- In the non-secure world. -/
  | running
  /-- In the pen. -/
  | parked
deriving Repr, DecidableEq

/-- An accepted CPU_ON: the core it names, its entry and its context. -/
structure OnCall where
  core : CoreId
  entry : UInt64
  ctx : UInt64
deriving Repr, DecidableEq

/-- Both cores and the shared state. The accepted calls, those pending for a
core, and the departures from the pen with what they took from the mailbox are
read by no code. -/
structure Power where
  psci : PsciState
  mode : CoreId → CoreMode
  pending : CoreId → Option OnCall
  accepted : List OnCall
  left : List OnCall

/-- Core 0 has entered the kernel, core 1 waits in the pen. -/
def Power.boot : Power where
  psci := .boot
  mode
    | .core0 => .running
    | .core1 => .parked
  pending _ := none
  accepted := []
  left := []

inductive PowerEvent where
  /-- The core calls with these `x0` to `x3`. -/
  | smc (core : CoreId) (fid a1 a2 a3 : UInt64)
  /-- The core sees a nonzero entry in the mailbox. -/
  | leavePen (core : CoreId)
deriving Repr, DecidableEq

/-- A CPU_ON that returns zero. -/
def IsAccepted (fid : UInt64) (result : SmcResult) : Prop :=
  (PsciFid.ofWord fid.toUInt32 = some .cpuOn32 ∨ PsciFid.ofWord fid.toUInt32 = some .cpuOn64) ∧
    result = .returns 0

instance (fid : UInt64) (result : SmcResult) : Decidable (IsAccepted fid result) :=
  inferInstanceAs (Decidable (_ ∧ _))

namespace Power

def setMode (core : CoreId) (mode : CoreMode) (power : Power) : Power :=
  { power with mode := fun other => if other = core then mode else power.mode other }

def setPending (core : CoreId) (call : Option OnCall) (power : Power) : Power :=
  { power with pending := fun other => if other = core then call else power.pending other }

/-- Record a call that returned zero. -/
def accept (a1 a2 a3 : UInt64) (power : Power) : Power :=
  match CoreId.ofMpidr a1 with
  | some core =>
      let call : OnCall := { core := core, entry := a2, ctx := a3 }
      { power.setPending core (some call) with accepted := power.accepted ++ [call] }
  | none => power

/-- The core takes the entry and the context and enters the non-secure world. -/
def leave (core : CoreId) (power : Power) : Power :=
  let taken : OnCall :=
    { core := core, entry := power.psci.psciPenEntry, ctx := power.psci.psciPenCtx }
  { (power.setMode core .running).setPending core none with left := power.left ++ [taken] }

/-- `none` where the core is not where the event puts it. -/
def step : PowerEvent → Power → Option Power
  | .smc core fid a1 a2 a3, power =>
      if power.mode core = .running then
        let called := psciSmc fid a1 a2 a3 power.psci
        let after := { power with psci := called.2 }
        match called.1 with
        | .parked => some (after.setMode core .parked)
        | .returns _ =>
            some (if IsAccepted fid called.1 then after.accept a1 a2 a3 else after)
      else none
  | .leavePen core, power =>
      if power.mode core = .parked ∧ power.psci.psciPenEntry ≠ 0 then some (power.leave core)
      else none

end Power

/-- Any running core may call, and any parked core may leave. -/
abbrev PowerStep : Step Power PowerEvent := Partial Power.step

/-! ### What the calls report -/

/-- AFFINITY_INFO tells where each core is. -/
def Bookkept (power : Power) : Prop :=
  ∀ core fid mpidr a2 a3,
    PsciFid.ofWord fid.toUInt32 = some .affinity32 ∨
      PsciFid.ofWord fid.toUInt32 = some .affinity64 →
    mpidr &&& 0xFFFFFF = core.aff →
      ((psciSmc fid mpidr a2 a3 power.psci).1 = .returns 0 ↔
        power.mode core = .running ∨ power.pending core ≠ none) ∧
      ((psciSmc fid mpidr a2 a3 power.psci).1 = .returns 1 ↔
        power.mode core = .parked ∧ power.pending core = none)

/-- The accepted calls name core 1 and release it, in order, one departure a
call; a pending call with an entry releases it at the next look. -/
structure ReleasesCore1 (power : Power) : Prop where
  matched : power.accepted = power.left ++ (power.pending .core1).toList
  target : ∀ call ∈ power.accepted, call.core = .core1
  ready : ∀ call, power.pending .core1 = some call → call.entry ≠ 0 →
    ∃ next, PowerStep power (.leavePen .core1) next ∧ next.mode .core1 = .running ∧
      next.left = power.left ++ [call]

/-- Core 0 does not call CPU_OFF. -/
def Core0StaysOn (_ : Power) : PowerEvent → Prop
  | .smc .core0 fid _ _ _ => PsciFid.ofWord fid.toUInt32 ≠ some .cpuOff
  | _ => True

/-! ### One call -/

/-- CPU_ON refuses and changes nothing, or posts the call for core 1. -/
theorem cpuOn_cases (mpidr entry ctx : UInt64) (s : PsciState) :
    ((cpuOn mpidr entry ctx s).1.toUInt64 ≠ 0 ∧ (cpuOn mpidr entry ctx s).2 = s) ∨
      (CoreId.ofMpidr mpidr = some .core1 ∧ s.core1On = 0 ∧
        cpuOn mpidr entry ctx s =
          (0, { psciPenCtx := ctx, psciPenEntry := entry, core1On := 1 })) := by
  by_cases target : mpidr &&& 0xFFFFFF = 1
  · by_cases free : s.core1On = 0
    · right
      simp [CoreId.ofMpidr, cpuOn, cpuOnRefusal, target, free]
    · left
      simp only [cpuOn, cpuOnRefusal, target, free, ne_eq, not_true_eq_false, if_false,
        not_false_eq_true, if_true, and_true]
      decide
  · left
    simp only [cpuOn, cpuOnRefusal, target, ne_eq, not_false_eq_true, if_true, and_true]
    decide

/-- A call parks its caller, is an accepted CPU_ON, or changes nothing. -/
theorem psciSmc_cases (fid a1 a2 a3 : UInt64) (s : PsciState) :
    (PsciFid.ofWord fid.toUInt32 = some .cpuOff ∧
        psciSmc fid a1 a2 a3 s = (.parked, psciPenReturn { s with core1On := 0 })) ∨
      (IsAccepted fid (.returns 0) ∧ CoreId.ofMpidr a1 = some .core1 ∧ s.core1On = 0 ∧
        psciSmc fid a1 a2 a3 s =
          (.returns 0, { psciPenCtx := a3, psciPenEntry := a2, core1On := 1 })) ∨
      (∃ x0, psciSmc fid a1 a2 a3 s = (.returns x0, s) ∧ ¬ IsAccepted fid (.returns x0)) := by
  have on : PsciFid.ofWord fid.toUInt32 = some .cpuOn32 ∨
        PsciFid.ofWord fid.toUInt32 = some .cpuOn64 →
      psciSmc fid a1 a2 a3 s =
        (.returns (cpuOn a1 a2 a3 s).1.toUInt64, (cpuOn a1 a2 a3 s).2) := by
    rintro (word | word) <;> simp [psciSmc, word]
  by_cases isOn : PsciFid.ofWord fid.toUInt32 = some .cpuOn32 ∨
      PsciFid.ofWord fid.toUInt32 = some .cpuOn64
  · right
    rw [on isOn]
    rcases cpuOn_cases a1 a2 a3 s with ⟨refused, same⟩ | ⟨target, free, posted⟩
    · right
      refine ⟨_, by rw [same], ?_⟩
      rintro ⟨_, zero⟩
      exact refused (SmcResult.returns.inj zero)
    · left
      exact ⟨⟨isOn, rfl⟩, target, free, by rw [posted]; rfl⟩
  · have other : ∀ x0, ¬ IsAccepted fid (.returns x0) := fun x0 accepted => isOn accepted.1
    cases word : PsciFid.ofWord fid.toUInt32 with
    | none => exact .inr (.inr ⟨_, by simp only [psciSmc, word]; rfl, other _⟩)
    | some name =>
        rw [word] at isOn
        cases name with
        | cpuOff => exact .inl ⟨rfl, by simp only [psciSmc, word]⟩
        | cpuOn32 | cpuOn64 => simp at isOn
        | _ => exact .inr (.inr ⟨_, by simp only [psciSmc, word]; rfl, other _⟩)

/-- What AFFINITY_INFO returns for a core. -/
theorem psciSmc_affinity {core : CoreId} {fid mpidr : UInt64} (a2 a3 : UInt64) (s : PsciState)
    (affinity : PsciFid.ofWord fid.toUInt32 = some .affinity32 ∨
      PsciFid.ofWord fid.toUInt32 = some .affinity64)
    (names : mpidr &&& 0xFFFFFF = core.aff) :
    (psciSmc fid mpidr a2 a3 s).1 =
      .returns (match core with
        | .core0 => 0
        | .core1 => if s.core1On = 0 then 1 else 0) := by
  have called : (psciSmc fid mpidr a2 a3 s).1 = .returns (affinityInfo mpidr s).toUInt64 := by
    rcases affinity with word | word <;> simp [psciSmc, word]
  rw [called]
  cases core with
  | core0 =>
      have names : mpidr &&& 0xFFFFFF = 0 := names
      simp only [affinityInfo, names, if_true]
      rfl
  | core1 =>
      have names : mpidr &&& 0xFFFFFF = 1 := names
      by_cases off : s.core1On = 0
      · simp only [affinityInfo, names, off]
        rfl
      · simp only [affinityInfo, names, ne_eq, off, not_false_eq_true, if_true, if_false]
        rfl

/-! ### The invariant -/

namespace Power

/-- Core 1 is in the pen and stays there. -/
def Off (power : Power) : Prop :=
  power.mode .core1 = .parked ∧ power.pending .core1 = none ∧ power.psci.core1On = 0 ∧
    power.psci.psciPenEntry = 0

/-- Core 1 is in the pen with an accepted call in the mailbox. -/
def Posted (call : OnCall) (power : Power) : Prop :=
  power.mode .core1 = .parked ∧ power.pending .core1 = some call ∧ power.psci.core1On ≠ 0 ∧
    call = { core := .core1, entry := power.psci.psciPenEntry, ctx := power.psci.psciPenCtx }

/-- Core 1 is in the non-secure world. -/
def On (power : Power) : Prop :=
  power.mode .core1 = .running ∧ power.pending .core1 = none ∧ power.psci.core1On ≠ 0

end Power

/-- What holds between two steps as long as core 0 stays on. -/
structure Tracked (power : Power) : Prop where
  core0 : power.mode .core0 = .running ∧ power.pending .core0 = none
  core1 : power.Off ∨ (∃ call, power.Posted call) ∨ power.On
  matched : power.accepted = power.left ++ (power.pending .core1).toList
  target : ∀ call ∈ power.accepted, call.core = .core1

theorem tracked_boot : Tracked .boot where
  core0 := ⟨rfl, rfl⟩
  core1 := .inl ⟨rfl, rfl, rfl, rfl⟩
  matched := rfl
  target := by
    intro call member
    cases member

theorem tracked_smc {power next : Power} {core : CoreId} {fid a1 a2 a3 : UInt64}
    (tracked : Tracked power) (stays : Core0StaysOn power (.smc core fid a1 a2 a3))
    (step : PowerStep power (.smc core fid a1 a2 a3) next) : Tracked next := by
  simp only [Partial, Power.step, Option.ite_none_right_eq_some] at step
  rcases step with ⟨running, called⟩
  rcases psciSmc_cases fid a1 a2 a3 power.psci with ⟨off, result⟩ |
    ⟨accepted, target, free, result⟩ | ⟨x0, result, other⟩
  · -- Only core 1 may get here, and it goes back into the pen.
    have core1 : core = .core1 := by
      cases core with
      | core0 => exact absurd off stays
      | core1 => rfl
    subst core1
    simp only [result, Option.some.injEq] at called
    subst called
    have quiet : power.pending .core1 = none := by
      rcases tracked.core1 with ⟨parked, _⟩ | ⟨call, parked, _⟩ | ⟨_, quiet, _⟩
      · exact absurd (running.symm.trans parked) (by decide)
      · exact absurd (running.symm.trans parked) (by decide)
      · exact quiet
    exact
      { core0 := tracked.core0
        core1 := .inl ⟨rfl, quiet, rfl, rfl⟩
        matched := tracked.matched
        target := tracked.target }
  · simp only [result, accepted, if_true, Option.some.injEq] at called
    subst called
    have parked : power.Off := by
      rcases tracked.core1 with parked | ⟨call, _, _, set, _⟩ | ⟨_, _, set⟩
      · exact parked
      · exact absurd free set
      · exact absurd free set
    have quiet := tracked.matched
    have one_ne_zero : (1 : UInt32) ≠ 0 := by decide
    rw [parked.2.1] at quiet
    simp only [Power.accept, target]
    exact
      { core0 := tracked.core0
        core1 := .inr (.inl ⟨_, parked.1, rfl, one_ne_zero, rfl⟩)
        matched := by simpa [Power.setPending] using quiet
        target := by
          intro call member
          rcases List.mem_append.mp member with earlier | last
          · exact tracked.target call earlier
          · rw [List.mem_singleton] at last
            rw [last] }
  · simp only [result, other, if_false, Option.some.injEq] at called
    subst called
    exact tracked

theorem tracked_leavePen {power next : Power} {core : CoreId} (tracked : Tracked power)
    (step : PowerStep power (.leavePen core) next) : Tracked next := by
  simp only [Partial, Power.step, Option.ite_none_right_eq_some, Option.some.injEq] at step
  rcases step with ⟨⟨parked, posted⟩, rfl⟩
  cases core with
  | core0 => exact absurd (parked.symm.trans tracked.core0.1) (by decide)
  | core1 =>
      rcases tracked.core1 with ⟨_, _, _, empty⟩ | ⟨call, _, pending, set, same⟩ | ⟨running, _⟩
      · exact absurd empty posted
      · have matched := tracked.matched
        rw [pending, same] at matched
        exact
          { core0 := tracked.core0
            core1 := .inr (.inr ⟨rfl, rfl, set⟩)
            matched := by simpa [Power.leave, Power.setPending, Power.setMode] using matched
            target := tracked.target }
      · exact absurd (parked.symm.trans running) (by decide)

theorem bookkept_of_tracked {power : Power} (tracked : Tracked power) : Bookkept power := by
  intro core fid mpidr a2 a3 affinity names
  rw [psciSmc_affinity a2 a3 power.psci affinity names]
  cases core with
  | core0 => simp [tracked.core0.1]
  | core1 =>
      rcases tracked.core1 with ⟨mode, pending, flag, _⟩ | ⟨call, mode, pending, flag, _⟩ |
        ⟨mode, pending, flag⟩
      · simp [mode, pending, flag]
      · simp [mode, pending, flag]
      · simp [mode, pending, flag]

theorem releasesCore1_of_tracked {power : Power} (tracked : Tracked power) :
    ReleasesCore1 power where
  matched := tracked.matched
  target := tracked.target
  ready := by
    intro call pending entry
    rcases tracked.core1 with ⟨_, quiet, _⟩ | ⟨other, parked, posted, _, same⟩ | ⟨_, quiet, _⟩
    · exact absurd (pending.symm.trans quiet) (by simp)
    · obtain rfl : call = other := Option.some.inj (pending.symm.trans posted)
      have seen : power.psci.psciPenEntry ≠ 0 := by
        rw [same] at entry
        exact entry
      refine ⟨power.leave .core1, ?_, rfl, ?_⟩
      · simp [Partial, Power.step, parked, seen]
      · rw [same]
        rfl
    · exact absurd (pending.symm.trans quiet) (by simp)

/-! ### Every run -/

/-- As long as core 0 never calls CPU_OFF, AFFINITY_INFO tells where each core
is, and the accepted calls release core 1 and no other core. As soon as core 0
does, AFFINITY_INFO is wrong about it. -/
theorem powerRun_bookkept {events : List PowerEvent} {power : Power}
    (run : Run (Guarded Core0StaysOn PowerStep) .boot events power) :
    Bookkept power ∧ ReleasesCore1 power ∧
      ∀ event next, PowerStep power event next → (Bookkept next ↔ Core0StaysOn power event) := by
  have kept : ∀ (power : Power) event next, Tracked power → Core0StaysOn power event →
      PowerStep power event next → Tracked next := by
    intro power event next tracked stays step
    cases event with
    | smc core fid a1 a2 a3 => exact tracked_smc tracked stays step
    | leavePen core => exact tracked_leavePen tracked step
  have tracked : Tracked power := run.guarded_invariant Tracked kept tracked_boot
  refine ⟨bookkept_of_tracked tracked, releasesCore1_of_tracked tracked, ?_⟩
  intro event next step
  constructor
  · intro bookkept
    cases event with
    | leavePen core => trivial
    | smc core fid a1 a2 a3 =>
        cases core with
        | core1 => trivial
        | core0 =>
            intro off
            simp only [Partial, Power.step, tracked.core0.1, psciSmc, off, if_true,
              Option.some.injEq] at step
            -- Core 0 is parked now, and AFFINITY_INFO still returns zero for it.
            have reported := (bookkept .core0 0x84000004 0 0 0 (.inl rfl) rfl).1.mp rfl
            rw [← step] at reported
            simp [Power.setMode, tracked.core0.2] at reported
  · intro stays
    exact bookkept_of_tracked (kept power event next tracked stays step)

/-- CPU_ON of core 1, its departure, and its CPU_OFF. -/
theorem powerRun_bookkept_onOff :
    ∃ power, Run (Guarded Core0StaysOn PowerStep) .boot
        [.smc .core0 0xC4000003 1 0x84000000 7, .leavePen .core1, .smc .core1 0x84000002 0 0 0]
        power ∧
      power.left = [{ core := .core1, entry := 0x84000000, ctx := 7 }] ∧ Bookkept power := by
  obtain ⟨power, run, left⟩ : ∃ power, Run (Guarded Core0StaysOn PowerStep) .boot
        [.smc .core0 0xC4000003 1 0x84000000 7, .leavePen .core1, .smc .core1 0x84000002 0 0 0]
        power ∧
      power.left = [{ core := .core1, entry := 0x84000000, ctx := 7 }] := by
    have on : PsciFid.ofWord (0xC4000003 : UInt64).toUInt32 ≠ some .cpuOff := by decide
    exact ⟨_, .cons ⟨on, rfl⟩ (.cons ⟨trivial, rfl⟩ (.single ⟨trivial, rfl⟩)), rfl⟩
  exact ⟨power, run, left, (powerRun_bookkept run).1⟩

/-- With core 1 up, core 0 calls CPU_OFF: core 1 is reported off while it runs,
and its next CPU_ON of core 1 releases core 0. And a CPU_ON of core 1 with entry
zero is accepted and releases no core. -/
theorem powerRun_core0Off :
    (∃ parked released, Run PowerStep .boot
        [.smc .core0 0xC4000003 1 0x84000000 7, .leavePen .core1, .smc .core0 0x84000002 0 0 0]
        parked ∧
      ¬ Bookkept parked ∧
      Run PowerStep parked [.smc .core1 0xC4000003 1 0x85000000 8, .leavePen .core0] released ∧
      released.left.getLast? = some { core := .core0, entry := 0x85000000, ctx := 8 }) ∧
    ∃ posted, Run PowerStep .boot [.smc .core0 0xC4000003 1 0 7] posted ∧
      posted.accepted = [{ core := .core1, entry := 0, ctx := 7 }] ∧
      ∀ core next, ¬ PowerStep posted (.leavePen core) next := by
  refine ⟨⟨_, _, .cons rfl (.cons rfl (.single rfl)), ?_, .cons rfl (.single rfl), rfl⟩,
    ⟨_, .single rfl, rfl, ?_⟩⟩
  · intro bookkept
    have reported := (bookkept .core1 0x84000004 1 0 0 (.inl rfl) rfl).2.mp rfl
    exact absurd reported.1 (by decide)
  · intro core next left
    simp only [Partial, Power.step, Option.ite_none_right_eq_some] at left
    exact left.1.2 rfl

end Mp257Fsbl.Psci
