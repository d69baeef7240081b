/-
Module: Mp257Fsbl.Foundation.Circular
Purpose: Lists laid out in a circular buffer: read at one end and written at
  the other, or the latest entries of a buffer that is only written.
Trusted boundary: none
Main exports: Segment, Segment.first, Segment.rest, Segment.write, Recent,
  Recent.push
-/
import Mp257Fsbl.Foundation.Store
import Mathlib.Data.Nat.ModEq

namespace Mp257Fsbl.Foundation

variable {α : Type*}

/-- The cells from `start` on, wrapping at `size`, hold the list. -/
def Segment (size : Nat) (cells : Store α) (start : Nat) (list : List α) : Prop :=
  ∀ i (inside : i < list.length), cells ((start + i) % size) = list[i]

namespace Segment

variable {size start : Nat} {cells : Store α} {list : List α}

theorem nil : Segment size cells start [] := by
  intro i inside
  exact absurd inside (Nat.not_lt_zero i)

theorem first {x : α} (segment : Segment size cells start (x :: list)) :
    cells (start % size) = x :=
  segment 0 (Nat.zero_lt_succ _)

theorem rest {x : α} (segment : Segment size cells start (x :: list)) :
    Segment size cells ((start + 1) % size) list := by
  intro i inside
  have at_next := segment (i + 1) (Nat.succ_lt_succ inside)
  rw [Nat.mod_add_mod, Nat.add_assoc, Nat.add_comm 1 i]
  exact at_next

/-- Writing the cell after the last one appends, as long as one cell is free. -/
theorem write (segment : Segment size cells start list) (room : list.length < size) (x : α) :
    Segment size (cells.overlay ((start + list.length) % size) [x]) start (list ++ [x]) := by
  intro i inside
  rw [List.length_append, List.length_singleton] at inside
  by_cases last : i = list.length
  · subst last
    rw [Store.overlay_first, List.getElem_concat_length rfl]
  · have before : i < list.length := by omega
    have apart : (start + i) % size ≠ (start + list.length) % size := by
      intro same
      have congruent : i ≡ list.length [MOD size] := Nat.ModEq.add_left_cancel' start same
      exact last (Nat.ModEq.eq_of_lt_of_lt congruent (by omega) room)
    rw [Store.overlay_outside (by simp only [List.length_singleton]; omega),
      List.getElem_append_left before]
    exact segment i before

end Segment

/-! ### The latest entries

A circular buffer that is only written, one cell after another, keeps the
latest entries. -/

/-- The cells before `head`, walking back and wrapping at `size`, hold the list. -/
def Recent (size : Nat) (cells : Store α) (head : Nat) (list : List α) : Prop :=
  ∀ i (inside : i < list.length), cells ((head + (size - 1 - i)) % size) = list[i]

namespace Recent

variable {size head : Nat} {cells : Store α} {list : List α}

theorem nil : Recent size cells head [] := by
  intro i inside
  exact absurd inside (Nat.not_lt_zero i)

/-- Writing at the head puts the entry in front and forgets what it overwrites. -/
theorem push (recent : Recent size cells head list) (at_head : head < size) (x : α) :
    Recent size (cells.overlay head [x]) ((head + 1) % size) ((x :: list).take size) := by
  intro i inside
  rw [List.length_take, List.length_cons] at inside
  rw [Nat.mod_add_mod, List.getElem_take]
  cases i with
  | zero =>
      have wraps : (head + 1 + (size - 1 - 0)) % size = head := by
        rw [show head + 1 + (size - 1 - 0) = head + size by omega, Nat.add_mod_right,
          Nat.mod_eq_of_lt at_head]
      rw [wraps]
      exact Store.overlay_first cells head x []
  | succ i =>
      have back : head + 1 + (size - 1 - (i + 1)) = head + (size - 1 - i) := by omega
      have apart : (head + (size - 1 - i)) % size ≠ head := by
        intro same
        have congruent : head + (size - 1 - i) ≡ head + 0 [MOD size] := by
          rw [Nat.ModEq, same, Nat.add_zero, Nat.mod_eq_of_lt at_head]
        have zero := Nat.ModEq.eq_of_lt_of_lt (Nat.ModEq.add_left_cancel' head congruent)
          (by omega) (by omega)
        omega
      rw [back, Store.overlay_outside (by simp only [List.length_singleton]; omega)]
      exact recent i (by omega)

end Recent

end Mp257Fsbl.Foundation
