/-
Module: Mp257Fsbl.Psci.Release
Purpose: Whether an accepted CPU_ON makes core 1 leave the holding pen, and what
  the entry it passes has to be.
Trusted boundary: human-reviewed model of the loop of psci_pen_wait
Main exports: psciPenWait, penPolls, LeavesPen, AllOrNothing, cpuOn_allOrNothing_iff
-/
import Mp257Fsbl.Psci.Smc

namespace Mp257Fsbl.Psci

/-! ### The pen -/

/-- One pass of `psci_pen_wait`: the entry and the context core 1 leaves with,
or `none` where it branches back. -/
def psciPenWait (s : PsciState) : Option (UInt64 × UInt64) :=
  if s.psciPenEntry = 0 then none else some (s.psciPenEntry, s.psciPenCtx)

/-- Up to so many passes over a mailbox nobody writes. -/
def penPolls : Nat → PsciState → Option (UInt64 × UInt64)
  | 0, _ => none
  | passes + 1, s =>
      match psciPenWait s with
      | some handOver => some handOver
      | none => penPolls passes s

/-- Core 1, polling this mailbox, leaves the pen with this entry and context. -/
def LeavesPen (s : PsciState) (handOver : UInt64 × UInt64) : Prop :=
  ∃ passes, penPolls passes s = some handOver

theorem penPolls_eq_some {passes : Nat} {s : PsciState} {handOver : UInt64 × UInt64}
    (left : penPolls passes s = some handOver) : psciPenWait s = some handOver := by
  induction passes with
  | zero => cases left
  | succ passes ih =>
      simp only [penPolls] at left
      cases pass : psciPenWait s with
      | none =>
          rw [pass] at left
          rw [← pass]
          exact ih left
      | some first =>
          rw [pass] at left
          exact left

/-- Core 1 leaves the pen exactly where one pass of the loop would. -/
theorem leavesPen_iff {s : PsciState} {handOver : UInt64 × UInt64} :
    LeavesPen s handOver ↔ s.psciPenEntry ≠ 0 ∧ handOver = (s.psciPenEntry, s.psciPenCtx) := by
  have one_pass : LeavesPen s handOver ↔ psciPenWait s = some handOver := by
    constructor
    · rintro ⟨passes, left⟩
      exact penPolls_eq_some left
    · intro pass
      exact ⟨1, by simp only [penPolls, pass]⟩
  rw [one_pass]
  simp only [psciPenWait]
  by_cases empty : s.psciPenEntry = 0
  · simp [empty]
  · simp [empty, eq_comm]

/-! ### One call -/

/-- A refused call returns a negative code and leaves the state alone. -/
theorem cpuOn_refused {mpidr : UInt64} {s : PsciState} {refusal : Int64}
    (refused : cpuOnRefusal mpidr s = some refusal) (entry ctx : UInt64) :
    cpuOn mpidr entry ctx s = (refusal, s) ∧ refusal < 0 := by
  constructor
  · simp only [cpuOn, refused]
  · simp only [cpuOnRefusal] at refused
    split at refused
    · cases refused
      decide
    · split at refused
      · cases refused
        decide
      · cases refused

/-- An accepted call returns zero and leaves its arguments in the mailbox,
whatever they are. -/
theorem cpuOn_accepted {mpidr entry ctx : UInt64} {s : PsciState}
    (accepted : cpuOnRefusal mpidr s = none) :
    cpuOn mpidr entry ctx s =
      (0, { core1On := 1, psciPenEntry := entry, psciPenCtx := ctx }) := by
  simp only [cpuOn, accepted]

theorem cpuOnRefusal_eq_none {mpidr : UInt64} {s : PsciState} :
    cpuOnRefusal mpidr s = none ↔ mpidr &&& 0xFFFFFF = 1 ∧ s.core1On = 0 := by
  simp only [cpuOnRefusal]
  by_cases target : mpidr &&& 0xFFFFFF = 1
  · by_cases off : s.core1On = 0 <;> simp [target, off]
  · simp [target]

/-- The call either fails and changes nothing, or succeeds and releases core 1
with its own entry and context. -/
def AllOrNothing (mpidr entry ctx : UInt64) (s : PsciState) : Prop :=
  let after := cpuOn mpidr entry ctx s
  (after.1 < 0 ∧ after.2 = s) ∨
    (after.1 = 0 ∧ after.2.core1On = 1 ∧ after.2.psciPenEntry = entry ∧
      after.2.psciPenCtx = ctx ∧ LeavesPen after.2 (entry, ctx))

/-- CPU_ON is all-or-nothing exactly where it is refused or is given an entry
other than zero: the mailbox of an accepted call with entry zero is an empty
one, and core 1 keeps polling it. -/
theorem cpuOn_allOrNothing_iff (mpidr entry ctx : UInt64) (s : PsciState) :
    AllOrNothing mpidr entry ctx s ↔
      mpidr &&& 0xFFFFFF ≠ 1 ∨ s.core1On ≠ 0 ∨ entry ≠ 0 := by
  cases check : cpuOnRefusal mpidr s with
  | some refusal =>
      obtain ⟨unchanged, negative⟩ := cpuOn_refused check entry ctx
      have condition : ¬(mpidr &&& 0xFFFFFF = 1 ∧ s.core1On = 0) := by
        rw [← cpuOnRefusal_eq_none, check]
        exact Option.some_ne_none refusal
      have holds : AllOrNothing mpidr entry ctx s := by
        apply Or.inl
        rw [unchanged]
        exact ⟨negative, rfl⟩
      apply iff_of_true holds
      by_cases target : mpidr &&& 0xFFFFFF = 1
      · exact Or.inr (Or.inl fun off => condition ⟨target, off⟩)
      · exact Or.inl target
  | none =>
      obtain ⟨target, off⟩ := cpuOnRefusal_eq_none.mp check
      simp only [AllOrNothing, cpuOn_accepted check, leavesPen_iff]
      simp [target, off]

/-- On the booted board a CPU_ON with entry zero is answered with success while
the mailbox it leaves releases nobody. -/
theorem cpuOn_zero_entry : ¬ AllOrNothing 1 0 0x80000000 .boot := by
  intro all
  have left := (all.resolve_left fun failed => absurd failed.1 (by decide)).2.2.2.2
  exact (leavesPen_iff.mp left).1 rfl

/-- After such a call every later CPU_ON for core 1 is refused, and core 1 is
still in the pen. -/
theorem cpuOn_zero_strands {mpidr ctx : UInt64} {s : PsciState}
    (accepted : cpuOnRefusal mpidr s = none) (target entry later : UInt64) :
    let stranded := (cpuOn mpidr 0 ctx s).2
    (cpuOn target entry later stranded).1 < 0 ∧
      (cpuOn target entry later stranded).2 = stranded ∧
      ∀ handOver, ¬ LeavesPen stranded handOver := by
  intro stranded
  have shape : stranded = { core1On := 1, psciPenEntry := 0, psciPenCtx := ctx } := by
    simp only [stranded, cpuOn_accepted accepted]
  have refused : cpuOnRefusal target stranded ≠ none := by
    intro none
    have off := (cpuOnRefusal_eq_none.mp none).2
    rw [shape] at off
    exact (show (1 : UInt32) ≠ 0 by decide) off
  obtain ⟨refusal, check⟩ := Option.ne_none_iff_exists'.mp refused
  obtain ⟨unchanged, negative⟩ := cpuOn_refused check entry later
  refine ⟨by rw [unchanged]; exact negative, by rw [unchanged], ?_⟩
  intro handOver left
  have released := (leavesPen_iff.mp left).1
  rw [shape] at released
  exact released rfl

end Mp257Fsbl.Psci
