/-
Module: Mp257Fsbl.Foundation.Sink
Purpose: Output functions that are told the position of each element, and what a
  text sent to them leaves behind.
Trusted boundary: none
Main exports: Sink, Sink.put, Sink.send, Sink.send_append, Sink.bounded,
  Sink.bounded_send, Sink.filtered, Sink.filtered_send
-/
import Mp257Fsbl.Foundation.Store

namespace Mp257Fsbl.Foundation

/-- An element and its position change what the elements are sent to. -/
abbrev Sink (α σ : Type*) := α → (idx : Nat) → σ → σ

namespace Sink

variable {α σ : Type*}

/-- Send one element to the next position. -/
def put (out : Sink α σ) (a : α) (st : Nat × σ) : Nat × σ := (st.1 + 1, out a st.1 st.2)

/-- Send a text, element by element. -/
def send (out : Sink α σ) : (text : List α) → Nat × σ → Nat × σ
  | [], st => st
  | a :: text, st => send out text (out.put a st)

@[simp] theorem send_nil (out : Sink α σ) (st : Nat × σ) : out.send [] st = st := rfl

@[simp] theorem send_cons (out : Sink α σ) (a : α) (text : List α) (st : Nat × σ) :
    out.send (a :: text) st = out.send text (out.put a st) := rfl

theorem send_append (out : Sink α σ) (first second : List α) (st : Nat × σ) :
    out.send (first ++ second) st = out.send second (out.send first st) := by
  induction first generalizing st with
  | nil => rfl
  | cons a first ih => exact ih (out.put a st)

theorem send_fst (out : Sink α σ) (text : List α) (st : Nat × σ) :
    (out.send text st).1 = st.1 + text.length := by
  induction text generalizing st with
  | nil => rfl
  | cons a text ih =>
      rw [send_cons, ih]
      simp only [put, List.length_cons]
      omega

/-! ### A bounded buffer -/

/-- Store what comes below the bound, and drop the rest. -/
def bounded (start bound : Nat) : Sink α (Store α) := fun a idx store =>
  if idx < bound then store.overlay (start + idx) [a] else store

/-- What was sent before the bound is in the buffer, and nothing else changes. -/
theorem bounded_send (start bound : Nat) (text : List α) (idx : Nat) (store : Store α) :
    ((bounded start bound).send text (idx, store)).2 =
      store.overlay (start + idx) (text.take (bound - idx)) := by
  induction text generalizing idx store with
  | nil => simp
  | cons a text ih =>
      rw [send_cons, put, ih]
      by_cases room : idx < bound
      · obtain ⟨left, rfl⟩ : ∃ left, bound = idx + 1 + left := Nat.exists_eq_add_of_le room
        have here : idx + 1 + left - idx = left + 1 := by omega
        have rest : idx + 1 + left - (idx + 1) = left := by omega
        have next : start + (idx + 1) = start + idx + [a].length := by simp [Nat.add_assoc]
        rw [bounded, if_pos room, here, rest, next, Store.overlay_append]
        rfl
      · have full : bound - idx = 0 := by omega
        have stays : bound - (idx + 1) = 0 := by omega
        rw [bounded, if_neg room, full, stays]
        simp

/-! ### A filter -/

/-- Pass on the elements that are to be kept. -/
def filtered (keep : α → Bool) (out : α → σ → σ) : Sink α σ := fun a _ s =>
  if keep a then out a s else s

theorem filtered_send (keep : α → Bool) (out : α → σ → σ) (text : List α) (idx : Nat) (s : σ) :
    ((filtered keep out).send text (idx, s)).2 =
      (text.filter keep).foldl (fun s a => out a s) s := by
  induction text generalizing idx s with
  | nil => rfl
  | cons a text ih =>
      rw [send_cons, put, ih, filtered, List.filter_cons]
      split
      · rw [List.foldl_cons]
      · rfl

end Sink

end Mp257Fsbl.Foundation
