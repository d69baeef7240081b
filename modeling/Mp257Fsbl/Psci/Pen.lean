/-
Module: Mp257Fsbl.Psci.Pen
Purpose: CPU_ON on core 0 against CPU_OFF and the holding pen on core 1, access
  by access: which interleavings lose a CPU_ON.
Trusted boundary: human-reviewed model of cpu_on, psci_pen_wait and
  psci_pen_return as single accesses
Main exports: Pen, PenEvent, Pen.step, PenStep, Undisturbed, Consistent,
  penRun_mailbox
-/
import Mp257Fsbl.Foundation.Transition
import Mp257Fsbl.Psci.Smc

namespace Mp257Fsbl.Psci

open Mp257Fsbl.Foundation

/-- What core 0 does next. -/
inductive Core0 where
  | idle
  | writeCtx (entry ctx : UInt64)
  | writeEntry (entry ctx : UInt64)
  | writeOn (entry ctx : UInt64)
deriving Repr, DecidableEq

/-- What core 1 does next: poll the mailbox, load the context for the entry it
saw, run outside the pen, or clear the mailbox. -/
inductive Core1 where
  | polling
  | loadCtx (entry : UInt64)
  | running
  | clearing
deriving Repr, DecidableEq

/-- Both cores and the shared state. The two lists are the calls that returned
zero and the hand-overs to the non-secure world, each with its entry and
context; no code reads them. -/
structure Pen where
  psci : PsciState
  core0 : Core0
  core1 : Core1
  accepted : List (UInt64 × UInt64)
  released : List (UInt64 × UInt64)
deriving Repr, DecidableEq

/-- Core 1 is parked and nothing has been called. -/
def Pen.boot : Pen where
  psci := .boot
  core0 := .idle
  core1 := .polling
  accepted := []
  released := []

/-- One access of one core. -/
inductive PenEvent where
  /-- Core 0 calls CPU_ON and reads `core1_on`. -/
  | cpuOn (mpidr entry ctx : UInt64)
  | writeCtx
  | writeEntry
  /-- Core 0 writes `core1_on` and returns zero. -/
  | writeOn
  | poll
  | loadCtx
  /-- Core 1 calls CPU_OFF and clears `core1_on`. -/
  | cpuOff
  | clearEntry
deriving Repr, DecidableEq

namespace Pen

/-- The mailbox. -/
def box (pen : Pen) : UInt64 × UInt64 := (pen.psci.psciPenEntry, pen.psci.psciPenCtx)

/-- `none` where the core is not at that access, or where the caller passes a
zero entry. -/
def step : PenEvent → Pen → Option Pen
  | .cpuOn mpidr entry ctx, pen =>
      match pen.core0 with
      | .idle =>
          if entry = 0 then none
          else
            match cpuOnRefusal mpidr pen.psci with
            | some _ => some pen
            | none => some { pen with core0 := .writeCtx entry ctx }
      | _ => none
  | .writeCtx, pen =>
      match pen.core0 with
      | .writeCtx entry ctx =>
          some
            { pen with
              psci := { pen.psci with psciPenCtx := ctx }
              core0 := .writeEntry entry ctx }
      | _ => none
  | .writeEntry, pen =>
      match pen.core0 with
      | .writeEntry entry ctx =>
          some
            { pen with
              psci := { pen.psci with psciPenEntry := entry }
              core0 := .writeOn entry ctx }
      | _ => none
  | .writeOn, pen =>
      match pen.core0 with
      | .writeOn entry ctx =>
          some
            { pen with
              psci := { pen.psci with core1On := 1 }
              core0 := .idle
              accepted := pen.accepted ++ [(entry, ctx)] }
      | _ => none
  | .poll, pen =>
      match pen.core1 with
      | .polling =>
          if pen.psci.psciPenEntry = 0 then some pen
          else some { pen with core1 := .loadCtx pen.psci.psciPenEntry }
      | _ => none
  | .loadCtx, pen =>
      match pen.core1 with
      | .loadCtx entry =>
          some
            { pen with
              core1 := .running
              released := pen.released ++ [(entry, pen.psci.psciPenCtx)] }
      | _ => none
  | .cpuOff, pen =>
      match pen.core1 with
      | .running =>
          some { pen with psci := { pen.psci with core1On := 0 }, core1 := .clearing }
      | _ => none
  | .clearEntry, pen =>
      match pen.core1 with
      | .clearing => some { pen with psci := psciPenReturn pen.psci, core1 := .polling }
      | _ => none

end Pen

/-- Any core may make its next access. -/
abbrev PenStep : Step Pen PenEvent := Partial Pen.step

/-! ### Against the atomic calls -/

/-- Alone, the accesses of core 0 are the atomic call. -/
theorem cpuOn_run {pen : Pen} (idle : pen.core0 = .idle) {mpidr entry ctx : UInt64}
    (nonzero : entry ≠ 0) (free : cpuOnRefusal mpidr pen.psci = none) :
    Run PenStep pen [.cpuOn mpidr entry ctx, .writeCtx, .writeEntry, .writeOn]
      { pen with
        psci := (cpuOn mpidr entry ctx pen.psci).2
        accepted := pen.accepted ++ [(entry, ctx)] } := by
  apply Run.of_exec
  simp [exec, Pen.step, idle, nonzero, free, cpuOn]

theorem cpuOff_run {pen : Pen} (running : pen.core1 = .running) :
    Run PenStep pen [.cpuOff, .clearEntry]
      { pen with
        psci := (psciSmc 0x84000002 0 0 0 pen.psci).2
        core1 := .polling } := by
  apply Run.of_exec
  simp [exec, Pen.step, running]
  rfl

/-! ### The invariant -/

/-- The two accesses that must not fall into the other core's window: no entry
is posted while core 1 is about to clear the mailbox, and no CPU_OFF clears the
flag while core 0 is about to set it. -/
def Undisturbed (pen : Pen) : PenEvent → Prop
  | .writeEntry => pen.core1 ≠ .clearing
  | .cpuOff => ∀ entry ctx, pen.core0 ≠ .writeOn entry ctx
  | _ => True

namespace Pen

/-- Core 1 is available and every accepted call has released it. -/
def Quiet (pen : Pen) : Prop := pen.psci.core1On = 0 ∧ pen.released = pen.accepted

/-- The last accepted call is in the mailbox and has not released core 1 yet. -/
def Posted (pen : Pen) : Prop :=
  pen.psci.core1On = 1 ∧ pen.psci.psciPenEntry ≠ 0 ∧ pen.accepted = pen.released ++ [pen.box]

/-- Core 1 has nothing to see in the mailbox, now or after clearing it. -/
def Parked (pen : Pen) : Prop :=
  pen.core1 = .clearing ∨ pen.core1 = .polling ∧ pen.psci.psciPenEntry = 0

/-- Core 0 has posted `call` and not returned yet. -/
def Posting (call : UInt64 × UInt64) (pen : Pen) : Prop :=
  match pen.core1 with
  | .polling => pen.released = pen.accepted
  | .loadCtx seen => seen = pen.psci.psciPenEntry ∧ pen.released = pen.accepted
  | .running => pen.released = pen.accepted ++ [call]
  | .clearing => False

/-- Between two calls of core 0. -/
def Settled (pen : Pen) : Prop :=
  match pen.core1 with
  | .polling => pen.Quiet ∧ pen.psci.psciPenEntry = 0 ∨ pen.Posted
  | .loadCtx seen => seen = pen.psci.psciPenEntry ∧ pen.Posted
  | .running => pen.psci.core1On = 1 ∧ pen.released = pen.accepted
  | .clearing => pen.Quiet

end Pen

/-- What holds at every point of the two programs. -/
def Consistent (pen : Pen) : Prop :=
  match pen.core0 with
  | .idle => pen.Settled
  | .writeCtx entry _ => entry ≠ 0 ∧ pen.Quiet ∧ pen.Parked
  | .writeEntry entry ctx =>
      entry ≠ 0 ∧ pen.psci.psciPenCtx = ctx ∧ pen.Quiet ∧ pen.Parked
  | .writeOn entry ctx =>
      entry ≠ 0 ∧ pen.psci.core1On = 0 ∧ pen.box = (entry, ctx) ∧ pen.Posting (entry, ctx)

/-! ### One step -/

section Step

variable {pen next : Pen}

theorem step_cpuOn {mpidr entry ctx : UInt64} (step : PenStep pen (.cpuOn mpidr entry ctx) next) :
    pen.core0 = .idle ∧
      (next = pen ∨
        entry ≠ 0 ∧ pen.psci.core1On = 0 ∧ next = { pen with core0 := .writeCtx entry ctx }) := by
  cases core0 : pen.core0 <;> simp only [Partial, Pen.step, core0, reduceCtorEq] at step
  refine ⟨rfl, ?_⟩
  by_cases zero : entry = 0
  · simp [zero] at step
  · by_cases target : mpidr &&& 0xFFFFFF = 1
    · by_cases free : pen.psci.core1On = 0
      · simp [zero, cpuOnRefusal, target, free] at step
        exact .inr ⟨zero, free, step.symm⟩
      · simp [zero, cpuOnRefusal, target, free] at step
        exact .inl step.symm
    · simp [zero, cpuOnRefusal, target] at step
      exact .inl step.symm

theorem step_writeCtx (step : PenStep pen .writeCtx next) :
    ∃ entry ctx, pen.core0 = .writeCtx entry ctx ∧
      next =
        { pen with
          psci := { pen.psci with psciPenCtx := ctx }
          core0 := .writeEntry entry ctx } := by
  cases core0 : pen.core0 <;> simp only [Partial, Pen.step, core0, reduceCtorEq] at step
  exact ⟨_, _, rfl, (Option.some.inj step).symm⟩

theorem step_writeEntry (step : PenStep pen .writeEntry next) :
    ∃ entry ctx, pen.core0 = .writeEntry entry ctx ∧
      next =
        { pen with
          psci := { pen.psci with psciPenEntry := entry }
          core0 := .writeOn entry ctx } := by
  cases core0 : pen.core0 <;> simp only [Partial, Pen.step, core0, reduceCtorEq] at step
  exact ⟨_, _, rfl, (Option.some.inj step).symm⟩

theorem step_writeOn (step : PenStep pen .writeOn next) :
    ∃ entry ctx, pen.core0 = .writeOn entry ctx ∧
      next =
        { pen with
          psci := { pen.psci with core1On := 1 }
          core0 := .idle
          accepted := pen.accepted ++ [(entry, ctx)] } := by
  cases core0 : pen.core0 <;> simp only [Partial, Pen.step, core0, reduceCtorEq] at step
  exact ⟨_, _, rfl, (Option.some.inj step).symm⟩

theorem step_poll (step : PenStep pen .poll next) :
    pen.core1 = .polling ∧
      (next = pen ∨ pen.psci.psciPenEntry ≠ 0 ∧
        next = { pen with core1 := .loadCtx pen.psci.psciPenEntry }) := by
  cases core1 : pen.core1 <;> simp only [Partial, Pen.step, core1, reduceCtorEq] at step
  refine ⟨rfl, ?_⟩
  split at step
  · exact .inl (Option.some.inj step).symm
  · rename_i posted
    exact .inr ⟨posted, (Option.some.inj step).symm⟩

theorem step_loadCtx (step : PenStep pen .loadCtx next) :
    ∃ entry, pen.core1 = .loadCtx entry ∧
      next =
        { pen with
          core1 := .running
          released := pen.released ++ [(entry, pen.psci.psciPenCtx)] } := by
  cases core1 : pen.core1 <;> simp only [Partial, Pen.step, core1, reduceCtorEq] at step
  exact ⟨_, rfl, (Option.some.inj step).symm⟩

theorem step_cpuOff (step : PenStep pen .cpuOff next) :
    pen.core1 = .running ∧
      next = { pen with psci := { pen.psci with core1On := 0 }, core1 := .clearing } := by
  cases core1 : pen.core1 <;> simp only [Partial, Pen.step, core1, reduceCtorEq] at step
  exact ⟨rfl, (Option.some.inj step).symm⟩

theorem step_clearEntry (step : PenStep pen .clearEntry next) :
    pen.core1 = .clearing ∧
      next = { pen with psci := psciPenReturn pen.psci, core1 := .polling } := by
  cases core1 : pen.core1 <;> simp only [Partial, Pen.step, core1, reduceCtorEq] at step
  exact ⟨rfl, (Option.some.inj step).symm⟩

/-- A call that finds core 1 available finds it parked. -/
theorem parked_of_settled (settled : pen.Settled) (free : pen.psci.core1On = 0) :
    pen.Quiet ∧ pen.Parked := by
  unfold Pen.Settled at settled
  unfold Pen.Parked
  cases core1 : pen.core1 with
  | polling =>
      rw [core1] at settled
      rcases settled with ⟨quiet, empty⟩ | posted
      · exact ⟨quiet, .inr ⟨rfl, empty⟩⟩
      · exact absurd (free.symm.trans posted.1) (by decide)
  | loadCtx seen =>
      rw [core1] at settled
      exact absurd (free.symm.trans settled.2.1) (by decide)
  | running =>
      rw [core1] at settled
      exact absurd (free.symm.trans settled.1) (by decide)
  | clearing =>
      rw [core1] at settled
      exact ⟨settled, .inl rfl⟩

/-! The accesses of core 0. -/

theorem consistent_cpuOn {mpidr entry ctx : UInt64} (consistent : Consistent pen)
    (step : PenStep pen (.cpuOn mpidr entry ctx) next) : Consistent next := by
  obtain ⟨core0, rfl | ⟨nonzero, free, rfl⟩⟩ := step_cpuOn step
  · exact consistent
  · simp only [Consistent, core0] at consistent
    exact ⟨nonzero, parked_of_settled consistent free⟩

theorem consistent_writeCtx (consistent : Consistent pen) (step : PenStep pen .writeCtx next) :
    Consistent next := by
  obtain ⟨entry, ctx, core0, rfl⟩ := step_writeCtx step
  simp only [Consistent, core0] at consistent
  rcases consistent with ⟨nonzero, quiet, parked⟩
  exact ⟨nonzero, rfl, quiet, parked⟩

theorem consistent_writeEntry (consistent : Consistent pen)
    (step : PenStep pen .writeEntry next) (undisturbed : pen.core1 ≠ .clearing) :
    Consistent next := by
  obtain ⟨entry, ctx, core0, rfl⟩ := step_writeEntry step
  simp only [Consistent, core0] at consistent
  rcases consistent with ⟨nonzero, loaded, quiet, parked⟩
  have polling : pen.core1 = .polling := (parked.resolve_left undisturbed).1
  refine ⟨nonzero, quiet.1, ?_, ?_⟩
  · simp [Pen.box, loaded]
  · simp only [Pen.Posting, polling]
    exact quiet.2

theorem consistent_writeOn (consistent : Consistent pen) (step : PenStep pen .writeOn next) :
    Consistent next := by
  obtain ⟨entry, ctx, core0, rfl⟩ := step_writeOn step
  simp only [Consistent, core0] at consistent
  rcases consistent with ⟨nonzero, free, posted, posting⟩
  have entry_eq : pen.psci.psciPenEntry = entry := congrArg Prod.fst posted
  unfold Pen.Posting at posting
  simp only [Consistent, Pen.Settled]
  cases core1 : pen.core1 with
  | polling =>
      rw [core1] at posting
      refine .inr ⟨rfl, ?_, ?_⟩
      · rwa [entry_eq]
      · rw [posting, ← posted]
        rfl
  | loadCtx seen =>
      rw [core1] at posting
      refine ⟨posting.1, rfl, ?_, ?_⟩
      · rwa [entry_eq]
      · rw [posting.2, ← posted]
        rfl
  | running =>
      rw [core1] at posting
      exact ⟨trivial, posting⟩
  | clearing =>
      rw [core1] at posting
      exact posting.elim

/-! The accesses of core 1. -/

theorem consistent_poll (consistent : Consistent pen) (step : PenStep pen .poll next) :
    Consistent next := by
  obtain ⟨core1, rfl | ⟨nonzero, rfl⟩⟩ := step_poll step
  · exact consistent
  · have notParked : ¬ pen.Parked := by simp [Pen.Parked, core1, nonzero]
    unfold Consistent at consistent ⊢
    cases core0 : pen.core0 with
    | idle =>
        simp only [core0, Pen.Settled, core1] at consistent ⊢
        exact ⟨trivial, consistent.resolve_left fun quiet => nonzero quiet.2⟩
    | writeCtx entry ctx =>
        simp only [core0] at consistent
        exact absurd consistent.2.2 notParked
    | writeEntry entry ctx =>
        simp only [core0] at consistent
        exact absurd consistent.2.2.2 notParked
    | writeOn entry ctx =>
        simp only [core0, Pen.Posting, core1] at consistent ⊢
        rcases consistent with ⟨entry_ne, free, posted, same⟩
        exact ⟨entry_ne, free, posted, trivial, same⟩

theorem consistent_loadCtx (consistent : Consistent pen) (step : PenStep pen .loadCtx next) :
    Consistent next := by
  obtain ⟨seen, core1, rfl⟩ := step_loadCtx step
  have notParked : ¬ pen.Parked := by simp [Pen.Parked, core1]
  unfold Consistent at consistent ⊢
  cases core0 : pen.core0 with
  | idle =>
      simp only [core0, Pen.Settled, core1] at consistent ⊢
      rcases consistent with ⟨rfl, on, _, last⟩
      exact ⟨on, last.symm⟩
  | writeCtx entry ctx =>
      simp only [core0] at consistent
      exact absurd consistent.2.2 notParked
  | writeEntry entry ctx =>
      simp only [core0] at consistent
      exact absurd consistent.2.2.2 notParked
  | writeOn entry ctx =>
      simp only [core0, Pen.Posting, core1] at consistent ⊢
      rcases consistent with ⟨entry_ne, free, posted, rfl, same⟩
      refine ⟨entry_ne, free, posted, ?_⟩
      rw [same, ← posted]
      rfl

theorem consistent_cpuOff (consistent : Consistent pen) (step : PenStep pen .cpuOff next)
    (undisturbed : ∀ entry ctx, pen.core0 ≠ .writeOn entry ctx) : Consistent next := by
  obtain ⟨core1, rfl⟩ := step_cpuOff step
  have notParked : ¬ pen.Parked := by simp [Pen.Parked, core1]
  unfold Consistent at consistent ⊢
  cases core0 : pen.core0 with
  | idle =>
      simp only [core0, Pen.Settled, core1] at consistent ⊢
      exact ⟨rfl, consistent.2⟩
  | writeCtx entry ctx =>
      simp only [core0] at consistent
      exact absurd consistent.2.2 notParked
  | writeEntry entry ctx =>
      simp only [core0] at consistent
      exact absurd consistent.2.2.2 notParked
  | writeOn entry ctx => exact absurd core0 (undisturbed entry ctx)

theorem consistent_clearEntry (consistent : Consistent pen) (step : PenStep pen .clearEntry next) :
    Consistent next := by
  obtain ⟨core1, rfl⟩ := step_clearEntry step
  unfold Consistent at consistent ⊢
  cases core0 : pen.core0 with
  | idle =>
      simp only [core0, Pen.Settled, core1] at consistent ⊢
      exact .inl ⟨consistent, rfl⟩
  | writeCtx entry ctx =>
      simp only [core0] at consistent ⊢
      exact ⟨consistent.1, consistent.2.1, .inr ⟨rfl, rfl⟩⟩
  | writeEntry entry ctx =>
      simp only [core0] at consistent ⊢
      rcases consistent with ⟨nonzero, loaded, quiet, _⟩
      exact ⟨nonzero, loaded, quiet, .inr ⟨rfl, rfl⟩⟩
  | writeOn entry ctx =>
      simp only [core0, Pen.Posting, core1, and_false] at consistent

/-- An undisturbed access keeps the invariant, one case for each access. -/
theorem consistent_step {event : PenEvent} (consistent : Consistent pen)
    (step : PenStep pen event next) (undisturbed : Undisturbed pen event) : Consistent next := by
  cases event with
  | cpuOn mpidr entry ctx => exact consistent_cpuOn consistent step
  | writeCtx => exact consistent_writeCtx consistent step
  | writeEntry => exact consistent_writeEntry consistent step undisturbed
  | writeOn => exact consistent_writeOn consistent step
  | poll => exact consistent_poll consistent step
  | loadCtx => exact consistent_loadCtx consistent step
  | cpuOff => exact consistent_cpuOff consistent step undisturbed
  | clearEntry => exact consistent_clearEntry consistent step

end Step

/-! ### Runs -/

theorem consistent_boot : Consistent .boot := .inl ⟨⟨rfl, rfl⟩, rfl⟩

/-- Between two calls at most one accepted call waits, and it is in the mailbox. -/
theorem mailbox_of_settled {pen : Pen} (settled : pen.Settled) :
    pen.Posted ∨ pen.released = pen.accepted ∧ ¬ (pen.psci.core1On = 1 ∧ pen.core1 = .polling) := by
  unfold Pen.Settled at settled
  cases core1 : pen.core1 with
  | polling =>
      rw [core1] at settled
      rcases settled with ⟨⟨off, same⟩, _⟩ | posted
      · exact .inr ⟨same, fun on => absurd (on.1.symm.trans off) (by decide)⟩
      · exact .inl posted
  | loadCtx seen =>
      rw [core1] at settled
      exact .inl settled.2
  | running =>
      rw [core1] at settled
      exact .inr ⟨settled.2, by simp⟩
  | clearing =>
      rw [core1] at settled
      exact .inr ⟨settled.2, by simp⟩

theorem released_of_posting {pen : Pen} {call : UInt64 × UInt64} (posting : pen.Posting call) :
    pen.released = pen.accepted ∨ pen.released = pen.accepted ++ [call] := by
  unfold Pen.Posting at posting
  cases core1 : pen.core1 with
  | polling =>
      rw [core1] at posting
      exact .inl posting
  | loadCtx seen =>
      rw [core1] at posting
      exact .inl posting.2
  | running =>
      rw [core1] at posting
      exact .inr posting
  | clearing =>
      rw [core1] at posting
      exact posting.elim

/-- In undisturbed runs a CPU_ON that returned zero is in the mailbox until core
1 takes it: no accepted call is lost, and none is taken twice. -/
theorem penRun_mailbox {events : List PenEvent} {pen : Pen}
    (run : Run (Guarded Undisturbed PenStep) .boot events pen) :
    (pen.psci.core1On = 1 → pen.core1 = .polling →
      pen.psci.psciPenEntry ≠ 0 ∧ pen.accepted.getLast? = some pen.box) ∧
    (pen.released = pen.accepted ∨ pen.accepted = pen.released ++ [pen.box] ∨
      ∃ entry ctx, pen.core0 = .writeOn entry ctx ∧
        pen.released = pen.accepted ++ [(entry, ctx)]) := by
  have consistent : Consistent pen := by
    apply run.guarded_invariant Consistent _ consistent_boot
    intro state event next before undisturbed step
    exact consistent_step before step undisturbed
  unfold Consistent at consistent
  cases core0 : pen.core0 with
  | idle =>
      simp only [core0] at consistent
      rcases mailbox_of_settled consistent with ⟨on, nonzero, last⟩ | ⟨same, notWaiting⟩
      · constructor
        · intro _ _
          exact ⟨nonzero, by simp [last]⟩
        · exact .inr (.inl last)
      · constructor
        · intro on polling
          exact absurd ⟨on, polling⟩ notWaiting
        · exact .inl same
  | writeCtx entry ctx =>
      simp only [core0] at consistent
      rcases consistent with ⟨_, ⟨off, same⟩, _⟩
      constructor
      · intro on
        exact absurd (on.symm.trans off) (by decide)
      · exact .inl same
  | writeEntry entry ctx =>
      simp only [core0] at consistent
      rcases consistent with ⟨_, _, ⟨off, same⟩, _⟩
      constructor
      · intro on
        exact absurd (on.symm.trans off) (by decide)
      · exact .inl same
  | writeOn entry ctx =>
      simp only [core0] at consistent
      rcases consistent with ⟨_, off, _, posting⟩
      constructor
      · intro on
        exact absurd (on.symm.trans off) (by decide)
      · rcases released_of_posting posting with same | ahead
        · exact .inl same
        · exact .inr (.inr ⟨entry, ctx, rfl, ahead⟩)

theorem penRun_mailbox_firstCall :
    ∃ pen, Run (Guarded Undisturbed PenStep) .boot
      [.cpuOn 1 0x80000 7, .writeCtx, .writeEntry, .writeOn] pen ∧
      pen.core1 = .polling ∧ pen.accepted.getLast? = some pen.box ∧ pen.box = (0x80000, 7) := by
  have run : Run (Guarded Undisturbed PenStep) .boot
      [.cpuOn 1 0x80000 7, .writeCtx, .writeEntry, .writeOn] _ :=
    .cons ⟨trivial, rfl⟩ (.cons ⟨trivial, rfl⟩
      (.cons ⟨Core1.noConfusion, rfl⟩ (.single ⟨trivial, rfl⟩)))
  exact ⟨_, run, rfl, ((penRun_mailbox run).1 rfl rfl).2, rfl⟩

/-- Core 0 posts a second call between the two writes of CPU_OFF: the call
returns zero, and core 1 polls an empty mailbox. -/
theorem penRun_callDuringCpuOff_lost :
    ∃ pen, Run PenStep .boot
      [.cpuOn 1 0x80000 7, .writeCtx, .writeEntry, .writeOn, .poll, .loadCtx, .cpuOff,
        .cpuOn 1 0x90000 8, .writeCtx, .writeEntry, .writeOn, .clearEntry] pen ∧
      pen.psci.core1On = 1 ∧ pen.core1 = .polling ∧ pen.psci.psciPenEntry = 0 ∧
      pen.accepted = [(0x80000, 7), (0x90000, 8)] ∧ pen.released = [(0x80000, 7)] :=
  ⟨_, .of_exec rfl, rfl, rfl, rfl, rfl, rfl⟩

end Mp257Fsbl.Psci
