/-
Module: Mp257Fsbl.Foundation.Transition
Purpose: Labelled step relations, their finite runs, the invariant rule with and
  without a guard on the steps, and the simulation rule.
Trusted boundary: none
Main exports: Step, Run, Guarded, Partial, exec, exec_simulates, Run.snoc,
  Run.append, Run.invariant, Run.guarded_invariant, Run.of_guarded, Run.of_exec
-/
import Mathlib.Init

namespace Mp257Fsbl.Foundation

universe u v

/-- A nondeterministic step relation with labelled steps. -/
abbrev Step (σ : Type u) (ε : Type v) := σ → ε → σ → Prop

/-- Finite runs of a step relation, with the labels in the order taken. -/
inductive Run {σ : Type u} {ε : Type v} (step : Step σ ε) : σ → List ε → σ → Prop where
  | nil (state : σ) : Run step state [] state
  | cons {state middle finish : σ} {label : ε} {labels : List ε}
      (first : step state label middle) (rest : Run step middle labels finish) :
      Run step state (label :: labels) finish

/-- The steps of `step` that also meet a condition on the state before the
step and its label. -/
def Guarded {σ : Type u} {ε : Type v} (guard : σ → ε → Prop) (step : Step σ ε) : Step σ ε :=
  fun state label next => guard state label ∧ step state label next

/-- The steps of a partial function. -/
def Partial {σ : Type u} {ε : Type v} (next : ε → σ → Option σ) : Step σ ε :=
  fun state label after => next label state = some after

/-- Execute a partial function on labels in turn. -/
def exec {σ : Type u} {ε : Type v} (next : ε → σ → Option σ) : List ε → σ → Option σ
  | [], state => some state
  | label :: labels, state => (next label state).bind (exec next labels)

theorem exec_append {σ : Type u} {ε : Type v} (next : ε → σ → Option σ) (first second : List ε)
    (state : σ) :
    exec next (first ++ second) state = (exec next first state).bind (exec next second) := by
  induction first generalizing state with
  | nil => rfl
  | cons label labels ih =>
      simp only [List.cons_append, exec]
      cases next label state with
      | none => rfl
      | some middle => exact ih middle

/-- The simulation rule: where every label is simulated by some labels of
another machine, every list of labels is simulated by theirs. -/
theorem exec_simulates {σ τ : Type u} {ε ζ : Type v} {next : ε → σ → Option σ}
    {other : ζ → τ → Option τ} (translate : ε → List ζ) (Related : σ → τ → Prop)
    (simulates : ∀ label state twin, Related state twin →
      Option.Rel Related (next label state) (exec other (translate label) twin))
    (labels : List ε) {state : σ} {twin : τ} (related : Related state twin) :
    Option.Rel Related (exec next labels state)
      (exec other (labels.flatMap translate) twin) := by
  induction labels generalizing state twin with
  | nil => exact .some related
  | cons label labels ih =>
      rw [List.flatMap_cons, exec_append]
      have first := simulates label state twin related
      simp only [exec]
      generalize next label state = one at first ⊢
      generalize exec other (translate label) twin = two at first ⊢
      cases first with
      | none => exact .none
      | some related => exact ih related

namespace Run

variable {σ : Type u} {ε : Type v} {step : Step σ ε}

theorem single {state next : σ} {label : ε} (taken : step state label next) :
    Run step state [label] next :=
  .cons taken (.nil next)

/-- One more step at the end of a run. -/
theorem snoc {state middle finish : σ} {labels : List ε} {label : ε}
    (run : Run step state labels middle) (last : step middle label finish) :
    Run step state (labels ++ [label]) finish := by
  induction run with
  | nil => exact single last
  | cons first _ ih => exact .cons first (ih last)

/-- One run behind another. -/
theorem append {state middle finish : σ} {first second : List ε}
    (before : Run step state first middle) (after : Run step middle second finish) :
    Run step state (first ++ second) finish := by
  induction before with
  | nil => exact after
  | cons taken _ ih => exact .cons taken (ih after)

/-- The invariant rule: what every step keeps, every run keeps. -/
theorem invariant (Inv : σ → Prop)
    (preserved : ∀ state label next, Inv state → step state label next → Inv next)
    {state finish : σ} {labels : List ε} (run : Run step state labels finish)
    (start : Inv state) : Inv finish := by
  induction run with
  | nil => exact start
  | cons taken _ ih => exact ih (preserved _ _ _ start taken)

/-- The invariant rule for guarded runs: only the steps that meet the guard
have to keep the invariant. -/
theorem guarded_invariant {guard : σ → ε → Prop} (Inv : σ → Prop)
    (preserved : ∀ state label next, Inv state → guard state label →
      step state label next → Inv next)
    {state finish : σ} {labels : List ε} (run : Run (Guarded guard step) state labels finish)
    (start : Inv state) : Inv finish := by
  apply run.invariant Inv _ start
  intro state label next before taken
  exact preserved state label next before taken.1 taken.2

/-- A guarded run is a run. -/
theorem of_guarded {guard : σ → ε → Prop} {state finish : σ} {labels : List ε}
    (run : Run (Guarded guard step) state labels finish) : Run step state labels finish := by
  induction run with
  | nil state => exact .nil state
  | cons first _ ih => exact .cons first.2 ih

/-- What a partial function executes is a run of its steps. -/
theorem of_exec {next : ε → σ → Option σ} {labels : List ε} :
    ∀ {state finish : σ}, exec next labels state = some finish →
      Run (Partial next) state labels finish := by
  induction labels with
  | nil =>
      intro state finish done
      cases done
      exact .nil state
  | cons label labels ih =>
      intro state finish done
      obtain ⟨middle, first, rest⟩ := Option.bind_eq_some_iff.mp done
      exact .cons first (ih rest)

end Run

end Mp257Fsbl.Foundation
