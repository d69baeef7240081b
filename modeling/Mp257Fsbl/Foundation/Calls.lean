/-
Module: Mp257Fsbl.Foundation.Calls
Purpose: Calls on static state that may never return, and rules for what holds
  where they do return.
Trusted boundary: none
Main exports: Call, Call.stuck, Call.read, Call.update, Call.guard, repeatUntil,
  Call.Ensures, Call.Ensures.bind, Call.Ensures.repeatUntil, Call.Steps
-/
import Mathlib.Order.Defs.Unbundled

namespace Mp257Fsbl.Foundation

/-- A call gives a value and the state it leaves; `none` where it does not
return. -/
def Call (σ α : Type) := σ → Option (α × σ)

variable {σ α β : Type}

namespace Call

instance : Monad (Call σ) where
  pure a := fun s => some (a, s)
  bind code next := fun s =>
    match code s with
    | some (a, s) => next a s
    | none => none

/-- Never return. -/
def stuck : Call σ α := fun _ => none

def read (field : σ → α) : Call σ α := fun s => some (field s, s)

def update (change : σ → σ) : Call σ Unit := fun s => some ((), change s)

/-- An assertion that stops the program where it fails. -/
def guard (holds : Bool) : Call σ Unit := if holds then pure () else stuck

end Call

/-- `do … while` with so many rounds at most; the body gives a value to stop
with. -/
def repeatUntil (body : Call σ (Option α)) : Nat → Call σ α
  | 0 => Call.stuck
  | rounds + 1 => do
      match ← body with
      | some a => pure a
      | none => repeatUntil body rounds

namespace Call

/-! ### Following one call -/

section

variable {code : Call σ α} {next : α → Call σ β} {s t : σ} {a : α}

theorem bind_apply (code : Call σ α) (next : α → Call σ β) (s : σ) :
    (code >>= next) s = (code s).bind fun result => next result.1 result.2 := by
  simp only [Bind.bind]
  cases code s with
  | none => rfl
  | some result => rfl

theorem ite_apply {c : Prop} [Decidable c] (one other : Call σ α) (s : σ) :
    (if c then one else other) s = if c then one s else other s := by
  split <;> rfl

theorem bind_of_some (run : code s = some (a, t)) : (code >>= next) s = next a t := by
  simp only [Bind.bind, run]

theorem bind_of_none (run : code s = none) : (code >>= next) s = none := by
  simp only [Bind.bind, run]

/-- What returns has returned from its first part. -/
theorem bind_eq_some {b : β} (run : (code >>= next) s = some (b, t)) :
    ∃ a u, code s = some (a, u) ∧ next a u = some (b, t) := by
  simp only [Bind.bind] at run
  split at run
  · rename_i a u first
    exact ⟨a, u, first, run⟩
  · cases run

@[simp] theorem pure_apply (a : α) (s : σ) : (pure a : Call σ α) s = some (a, s) := rfl

@[simp] theorem read_apply (field : σ → α) (s : σ) : read field s = some (field s, s) := rfl

@[simp] theorem update_apply (change : σ → σ) (s : σ) : update change s = some ((), change s) := rfl

@[simp] theorem guard_apply {holds : Bool} (s : σ) :
    guard holds s = if holds then some ((), s) else none := by
  cases holds <;> rfl

end

/-! ### Where a call returns -/

/-- Wherever the code returns from `before`, it leaves things as `after` says. -/
def Ensures (before : σ → Prop) (code : Call σ α) (after : α → σ → Prop) : Prop :=
  ∀ s, before s → ∀ a t, code s = some (a, t) → after a t

section

variable {before : σ → Prop} {code : Call σ α} {after : α → σ → Prop}

theorem Ensures.pure {a : α} (holds : ∀ s, before s → after a s) :
    Ensures before (Pure.pure a) after := by
  intro s start b t run
  cases run
  exact holds s start

theorem Ensures.stuck : Ensures before (Call.stuck : Call σ α) after := by
  intro s _ a t run
  cases run

theorem Ensures.read {field : σ → α} (holds : ∀ s, before s → after (field s) s) :
    Ensures before (Call.read field) after := by
  intro s start a t run
  cases run
  exact holds s start

theorem Ensures.update {change : σ → σ} {finish : Unit → σ → Prop}
    (holds : ∀ s, before s → finish () (change s)) :
    Ensures before (Call.update change) finish := by
  intro s start a t run
  cases run
  exact holds s start

theorem Ensures.guard {holds : Bool} {finish : Unit → σ → Prop}
    (passed : ∀ s, before s → holds = true → finish () s) :
    Ensures before (Call.guard holds) finish := by
  intro s start a t run
  rw [guard_apply] at run
  split at run
  · rename_i fact
    cases run
    exact passed s start fact
  · cases run

theorem Ensures.bind {next : α → Call σ β} {finish : β → σ → Prop}
    (first : Ensures before code after) (rest : ∀ a, Ensures (after a) (next a) finish) :
    Ensures before (code >>= next) finish := by
  intro s start b t run
  obtain ⟨a, u, one, two⟩ := bind_eq_some run
  exact rest a u (first s start a u one) b t two

theorem Ensures.weaken {weaker : σ → Prop} {more : α → σ → Prop}
    (ensures : Ensures before code after) (pre : ∀ s, weaker s → before s)
    (post : ∀ a s, after a s → more a s) : Ensures weaker code more :=
  fun s start a t run => post a t (ensures s (pre s start) a t run)

theorem Ensures.afterAs {more : α → σ → Prop} (ensures : Ensures before code after)
    (post : ∀ a s, after a s → more a s) : Ensures before code more :=
  ensures.weaken (fun _ here => here) post

theorem Ensures.ite {c : Prop} [Decidable c] {other : Call σ α}
    (yes : c → Ensures before code after) (no : ¬ c → Ensures before other after) :
    Ensures before (if c then code else other) after := by
  split
  · exact yes ‹_›
  · exact no ‹_›

/-- A fact about the state at one moment is carried along. -/
theorem Ensures.ofState (ensures : ∀ s, before s → Ensures (fun t => t = s) code after) :
    Ensures before code after :=
  fun s start => ensures s start s rfl

/-- A loop under an invariant of the rounds that do not stop it. -/
theorem Ensures.repeatUntil {body : Call σ (Option α)}
    (round : Ensures before body fun found s =>
      match found with
      | some a => after a s
      | none => before s)
    (rounds : Nat) : Ensures before (repeatUntil body rounds) after := by
  induction rounds with
  | zero => exact Ensures.stuck
  | succ rounds ih =>
      rw [Foundation.repeatUntil]
      refine round.bind fun found => ?_
      cases found with
      | some a => exact Ensures.pure fun _ here => here
      | none => exact ih

end

/-! ### Relations between before and after -/

/-- Wherever the code returns, the state before and the state after are related. -/
def Steps (rel : σ → σ → Prop) (code : Call σ α) : Prop :=
  ∀ s a t, code s = some (a, t) → rel s t

section

variable {rel : σ → σ → Prop} {code : Call σ α}

theorem Steps.pure [Std.Refl rel] (a : α) : Steps rel (Pure.pure a) := by
  intro s b t run
  cases run
  exact Std.Refl.refl s

theorem Steps.stuck : Steps rel (Call.stuck : Call σ α) := by
  intro s a t run
  cases run

theorem Steps.read [Std.Refl rel] (field : σ → α) : Steps rel (Call.read field) := by
  intro s a t run
  cases run
  exact Std.Refl.refl s

theorem Steps.guard [Std.Refl rel] (holds : Bool) : Steps rel (Call.guard holds) := by
  intro s a t run
  rw [guard_apply] at run
  split at run
  · cases run
    exact Std.Refl.refl s
  · cases run

theorem Steps.update {change : σ → σ} (holds : ∀ s, rel s (change s)) :
    Steps rel (Call.update change) := by
  intro s a t run
  cases run
  exact holds s

theorem Steps.bind [IsTrans σ rel] {next : α → Call σ β} (first : Steps rel code)
    (rest : ∀ a, Steps rel (next a)) : Steps rel (code >>= next) := by
  intro s b t run
  obtain ⟨a, u, one, two⟩ := bind_eq_some run
  exact IsTrans.trans s u t (first s a u one) (rest a u b t two)

theorem Steps.ite {c : Prop} [Decidable c] {other : Call σ α} (yes : Steps rel code)
    (no : Steps rel other) : Steps rel (if c then code else other) := by
  split
  · exact yes
  · exact no

theorem Steps.repeatUntil [IsTrans σ rel] [Std.Refl rel] {body : Call σ (Option α)}
    (round : Steps rel body) (rounds : Nat) : Steps rel (repeatUntil body rounds) := by
  induction rounds with
  | zero => exact Steps.stuck
  | succ rounds ih =>
      rw [Foundation.repeatUntil]
      refine round.bind fun found => ?_
      cases found with
      | some a => exact Steps.pure a
      | none => exact ih

end

end Call

end Mp257Fsbl.Foundation
