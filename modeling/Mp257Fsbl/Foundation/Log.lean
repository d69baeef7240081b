/-
Module: Mp257Fsbl.Foundation.Log
Purpose: Properties of the entries of a log against what the log held before
  each of them, and what has held since some entry.
Trusted boundary: none
Main exports: EveryEntry, everyEntry_append_single, latest, Since, Since.now,
  Since.snoc
-/
import Mathlib.Init

namespace Mp257Fsbl.Foundation

variable {α β : Type*}

/-- Every entry of the log is admitted by the entries before it. -/
def EveryEntry (admits : List α → α → Prop) (log : List α) : Prop :=
  ∀ before entry after, log = before ++ entry :: after → admits before entry

theorem everyEntry_nil (admits : List α → α → Prop) : EveryEntry admits [] := by
  intro before entry after split
  exact absurd split (by simp)

/-- Logging one more entry asks for that entry alone. -/
theorem everyEntry_append_single {admits : List α → α → Prop} {log : List α} {entry : α} :
    EveryEntry admits (log ++ [entry]) ↔ EveryEntry admits log ∧ admits log entry := by
  constructor
  · intro all
    constructor
    · intro before other after split
      exact all before other (after ++ [entry]) (by simp [split])
    · exact all log entry [] rfl
  · rintro ⟨earlier, last⟩ before other after split
    rcases List.eq_nil_or_concat after with rfl | ⟨front, final, rfl⟩
    · obtain ⟨rfl, same⟩ := List.append_inj' split rfl
      cases same
      exact last
    · rw [List.concat_eq_append, ← List.cons_append, ← List.append_assoc] at split
      obtain ⟨rfl, _⟩ := List.append_inj' split rfl
      exact earlier before other front rfl

/-- The value of the last entry that has one. -/
def latest (value : α → Option β) (log : List α) : Option β :=
  log.foldl (fun found entry => (value entry).or found) none

@[simp] theorem latest_append_single (value : α → Option β) (log : List α) (entry : α) :
    latest value (log ++ [entry]) = (value entry).or (latest value log) := by
  simp [latest]

/-- The log has an entry that met `start` when it came, and every entry since
then meets `keep`. -/
def Since (start : List α → α → Prop) (keep : α → Prop) (log : List α) : Prop :=
  ∃ before entry after, log = before ++ entry :: after ∧ start before entry ∧
    ∀ later ∈ after, keep later

section

variable {start : List α → α → Prop} {keep : α → Prop} {log : List α} {entry : α}

theorem Since.now (starts : start log entry) : Since start keep (log ++ [entry]) :=
  ⟨log, entry, [], rfl, starts, fun _ member => nomatch member⟩

/-- One more entry at the end of the log. -/
theorem Since.snoc (since : Since start keep log) (keeps : keep entry) :
    Since start keep (log ++ [entry]) := by
  obtain ⟨before, first, after, rfl, starts, kept⟩ := since
  refine ⟨before, first, after ++ [entry], by simp, starts, ?_⟩
  intro later member
  cases List.mem_append.mp member with
  | inl earlier => exact kept later earlier
  | inr last => exact List.mem_singleton.mp last ▸ keeps

end

end Mp257Fsbl.Foundation
