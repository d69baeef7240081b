/-
Module: Mp257Fsbl.Foundation.Nets
Purpose: Lines shorted into nets, and what probing one line at a time tells of
  them.
Trusted boundary: none
Main exports: Net, Nets, Nets.carry, probe, Nets.Separates, carry_probe_iff
-/
import Mathlib.Data.Fintype.Basic
import Mathlib.Logic.Nontrivial.Basic

namespace Mp257Fsbl.Foundation

/-- What a net carries: a level of its own, or one made of its lines. -/
inductive Net where
  | stuck (level : Bool)
  | wiredOr
  | wiredAnd
deriving Repr, DecidableEq

/-- Every line belongs to a net; two lines of one net are shorted. -/
structure Nets (ι ν : Type*) where
  net : ι → ν
  kind : ν → Net

variable {ι ν : Type*}

/-- No line driven. -/
def idle (_ : ι) : Bool := false

/-- Only lines of a group are driven. -/
def DrivesOnly (group : ι → Prop) (levels : ι → Bool) : Prop :=
  ∀ line, levels line = true → group line

section

variable [DecidableEq ι]

/-- One line driven high. -/
def probe (line other : ι) : Bool := decide (other = line)

@[simp] theorem probe_self (line : ι) : probe line line = true := decide_eq_true rfl

theorem probe_of_ne {line other : ι} (ne : other ≠ line) : probe line other = false :=
  decide_eq_false ne

end

variable [Fintype ι] [DecidableEq ν] {nets : Nets ι ν} {group : ι → Prop} {levels : ι → Bool}
  {line : ι}

namespace Nets

/-- The level a line carries when the lines are driven so. -/
def carry (nets : Nets ι ν) (levels : ι → Bool) (line : ι) : Bool :=
  match nets.kind (nets.net line) with
  | .stuck level => level
  | .wiredOr => decide (∃ other, nets.net other = nets.net line ∧ levels other = true)
  | .wiredAnd => decide (∀ other, nets.net other = nets.net line → levels other = true)

/-- A net none of whose lines is driven carries what it carries when idle. -/
theorem carry_undriven (undriven : ∀ other, nets.net other = nets.net line → levels other = false) :
    nets.carry levels line = nets.carry idle line := by
  unfold carry
  cases nets.kind (nets.net line) with
  | stuck level => rfl
  | wiredOr =>
      have none_ : ¬ ∃ other, nets.net other = nets.net line ∧ levels other = true := by
        rintro ⟨other, same, driven⟩
        rw [undriven other same] at driven
        cases driven
      simp [none_, idle]
  | wiredAnd =>
      have low : levels line = false := undriven line rfl
      have not_all : ¬ ∀ other, nets.net other = nets.net line → levels other = true := by
        intro all
        rw [all line rfl] at low
        cases low
      have not_idle : ¬ ∀ other, nets.net other = nets.net line → idle other = true :=
        fun all => Bool.false_ne_true (all line rfl)
      simp only [decide_eq_false not_all, decide_eq_false not_idle]

/-- A line that carries what is put on it, as long as only the group is driven. -/
def Faithful (nets : Nets ι ν) (group : ι → Prop) (line : ι) : Prop :=
  match nets.kind (nets.net line) with
  | .stuck _ => False
  | .wiredOr => ∀ other, group other → nets.net other = nets.net line → other = line
  | .wiredAnd => ∀ other, nets.net other = nets.net line → other = line

theorem Faithful.carry (faithful : nets.Faithful group line) (only : DrivesOnly group levels) :
    nets.carry levels line = levels line := by
  unfold Faithful at faithful
  unfold Nets.carry
  cases kind : nets.kind (nets.net line) with
  | stuck level => simp [kind] at faithful
  | wiredOr =>
      simp only [kind] at faithful
      have same : (∃ other, nets.net other = nets.net line ∧ levels other = true) ↔
          levels line = true := by
        constructor
        · rintro ⟨other, net, driven⟩
          rwa [faithful other (only other driven) net] at driven
        · exact fun driven => ⟨line, rfl, driven⟩
      simp [same]
  | wiredAnd =>
      simp only [kind] at faithful
      have same : (∀ other, nets.net other = nets.net line → levels other = true) ↔
          levels line = true := by
        constructor
        · exact fun all => all line rfl
        · intro driven other net
          rwa [faithful other net]
      simp [same]

variable [DecidableEq ι]

/-- Every line for itself. -/
def separate : Nets ι ι where
  net := id
  kind := fun _ => .wiredOr

@[simp] theorem carry_separate (levels : ι → Bool) : separate.carry levels = levels := by
  funext line
  simp [carry, separate]

/-- A probe of one net leaves the others idle. -/
theorem carry_probe_elsewhere {other : ι} (elsewhere : nets.net other ≠ nets.net line) :
    nets.carry (probe line) other = nets.carry idle other := by
  apply carry_undriven
  intro third same
  apply probe_of_ne
  rintro rfl
  exact elsewhere same.symm

/-- What a net shows of its probes: a probe that no other line of the net can
take for its own, or for none. -/
theorem faithful_of_separates
    (notIdle : nets.carry (probe line) ≠ nets.carry idle)
    (apart : ∀ other, group other → nets.carry (probe other) = nets.carry (probe line) →
      other = line) : nets.Faithful group line := by
  unfold Faithful
  cases kind : nets.kind (nets.net line) with
  | stuck level =>
      apply notIdle
      funext other
      by_cases same : nets.net other = nets.net line
      · simp [carry, same, kind]
      · exact carry_probe_elsewhere same
  | wiredOr =>
      intro other member same
      apply apart other member
      funext third
      by_cases here : nets.net third = nets.net line
      · have one : ∃ driven, nets.net driven = nets.net line ∧ probe other driven = true :=
          ⟨other, same, probe_self other⟩
        have two : ∃ driven, nets.net driven = nets.net line ∧ probe line driven = true :=
          ⟨line, rfl, probe_self line⟩
        simp only [carry, here, kind, one, two]
      · rw [carry_probe_elsewhere here, carry_probe_elsewhere (same ▸ here)]
  | wiredAnd =>
      intro other same
      by_contra ne
      apply notIdle
      funext third
      by_cases here : nets.net third = nets.net line
      · have one : ¬ ∀ driven, nets.net driven = nets.net line → probe line driven = true := by
          intro all
          have high := all other same
          rw [probe_of_ne ne] at high
          cases high
        have two : ¬ ∀ driven, nets.net driven = nets.net line → idle driven = true :=
          fun all => Bool.false_ne_true (all line rfl)
        simp only [carry, here, kind, decide_eq_false one, decide_eq_false two]
      · exact carry_probe_elsewhere here

/-- The probes of a group and the idle lines are told apart. -/
structure Separates (nets : Nets ι ν) (group : ι → Prop) : Prop where
  fromIdle : ∀ line, group line → nets.carry (probe line) ≠ nets.carry idle
  apart : ∀ line, group line → ∀ other, group other →
    nets.carry (probe other) = nets.carry (probe line) → other = line

/-- Where the probes are told apart, so is everything driven on the group. -/
theorem Separates.injective (separates : nets.Separates group) {first second : ι → Bool}
    (one : DrivesOnly group first) (two : DrivesOnly group second)
    (same : nets.carry first = nets.carry second) : first = second := by
  funext line
  by_cases member : group line
  · have faithful := faithful_of_separates (separates.fromIdle line member)
      (separates.apart line member)
    rw [← faithful.carry one, ← faithful.carry two, same]
  · have low {levels : ι → Bool} (only : DrivesOnly group levels) : levels line = false := by
      cases driven : levels line with
      | false => rfl
      | true => exact absurd (only line driven) member
    rw [low one, low two]

/-- Nets that carry every single line carry everything. -/
theorem carry_probe_iff [Nontrivial ι] :
    (∀ line, nets.carry (probe line) = probe line) ↔ ∀ levels, nets.carry levels = levels := by
  constructor
  · intro probes levels
    have separates : nets.Separates fun _ => True := by
      have idle_low (line : ι) : nets.carry idle line = false := by
        obtain ⟨other, ne⟩ := exists_ne line
        by_cases same : nets.net line = nets.net other
        · -- a net of two lines carries neither of their probes
          exfalso
          have here := congrFun (probes other) line
          have there := congrFun (probes other) other
          rw [probe_of_ne ne.symm] at here
          rw [probe_self] at there
          simp only [carry, same] at here there
          rw [here] at there
          cases there
        · rw [← carry_probe_elsewhere same, probes other, probe_of_ne ne.symm]
      refine ⟨fun line _ same => ?_, fun line _ other _ same => ?_⟩
      · have high := congrFun (probes line) line
        rw [same, idle_low, probe_self] at high
        cases high
      · rw [probes, probes] at same
        have high := congrFun same other
        rw [probe_self] at high
        exact of_decide_eq_true high.symm
    funext line
    exact (faithful_of_separates (separates.fromIdle line trivial)
      (separates.apart line trivial)).carry fun _ _ => trivial
  · exact fun all line => all (probe line)

end Nets

end Mp257Fsbl.Foundation
