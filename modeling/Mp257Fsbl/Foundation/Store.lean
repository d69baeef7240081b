/-
Module: Mp257Fsbl.Foundation.Store
Purpose: Address-indexed stores, read by windows and written by overlays.
Trusted boundary: none
Main exports: Store, Store.window, Store.overlay, Store.blocks,
  Store.flatten_window_blocks, Store.blocks_overlay
-/
import Mathlib.Data.List.Basic

namespace Mp257Fsbl.Foundation

/-- A store gives the content of every address. -/
abbrev Store (α : Type*) := Nat → α

namespace Store

variable {α : Type*}

/-- The `len` cells from `start` on, in address order. -/
def window (store : Store α) (start len : Nat) : List α :=
  (List.range len).map fun i => store (start + i)

/-- Write `cells` from `start` on and leave every other address as it was. -/
def overlay (store : Store α) (start : Nat) (cells : List α) : Store α :=
  fun address =>
    if start ≤ address then (cells[address - start]?).getD (store address) else store address

@[simp] theorem window_length (store : Store α) (start len : Nat) :
    (store.window start len).length = len := by
  simp [window]

@[simp] theorem window_zero (store : Store α) (start : Nat) : store.window start 0 = [] := rfl

theorem window_getElem? (store : Store α) (start len i : Nat) (inside : i < len) :
    (store.window start len)[i]? = some (store (start + i)) := by
  simp [window, inside]

/-- Two windows agree when the stores agree on the addresses read. -/
theorem window_congr {store other : Store α} {start start' len : Nat}
    (same : ∀ i, i < len → store (start + i) = other (start' + i)) :
    store.window start len = other.window start' len := by
  apply List.map_congr_left
  intro i member
  exact same i (List.mem_range.mp member)

/-- A window splits at any point. -/
theorem window_add (store : Store α) (start first second : Nat) :
    store.window start (first + second) =
      store.window start first ++ store.window (start + first) second := by
  simp [window, List.range_add, Nat.add_assoc, Function.comp_def]

@[simp] theorem overlay_nil (store : Store α) (start : Nat) : store.overlay start [] = store := by
  funext address
  simp [overlay]

theorem overlay_before {store : Store α} {start address : Nat} {cells : List α}
    (before : address < start) : store.overlay start cells address = store address := by
  simp [overlay, Nat.not_le.mpr before]

theorem overlay_after {store : Store α} {start address : Nat} {cells : List α}
    (after : start + cells.length ≤ address) :
    store.overlay start cells address = store address := by
  have past : cells[address - start]? = none := List.getElem?_eq_none (by omega)
  simp [overlay, past]

theorem overlay_inside {store : Store α} {start i : Nat} {cells : List α}
    (inside : i < cells.length) : store.overlay start cells (start + i) = cells[i] := by
  simp [overlay, List.getElem?_eq_getElem inside]

theorem overlay_first (store : Store α) (start : Nat) (cell : α) (cells : List α) :
    store.overlay start (cell :: cells) start = cell := by
  simp [overlay]

/-- Copying a range of another store. -/
theorem overlay_window (store other : Store α) (start from_ : Nat) {len i : Nat}
    (inside : i < len) :
    store.overlay start (other.window from_ len) (start + i) = other (from_ + i) := by
  rw [overlay_inside (by simpa using inside)]
  simp [window]

/-- An overlay changes no address outside the range it writes. -/
theorem overlay_outside {store : Store α} {start address : Nat} {cells : List α}
    (outside : address < start ∨ start + cells.length ≤ address) :
    store.overlay start cells address = store address := by
  rcases outside with before | after
  · exact overlay_before before
  · exact overlay_after after

/-- Reading back what was just written. -/
theorem window_overlay_same (store : Store α) (start : Nat) (cells : List α) :
    (store.overlay start cells).window start cells.length = cells := by
  apply List.ext_getElem (by simp)
  intro i inside _
  simp only [window, List.getElem_map, List.getElem_range]
  exact overlay_inside (by simpa using inside)

/-- Reading a range that an overlay does not touch. -/
theorem window_overlay_disjoint (store : Store α) {start len other : Nat} {cells : List α}
    (disjoint : start + len ≤ other ∨ other + cells.length ≤ start) :
    (store.overlay other cells).window start len = store.window start len := by
  apply window_congr
  intro i inside
  exact overlay_outside (by omega)

/-- Two adjacent overlays are one. -/
theorem overlay_append (store : Store α) (start : Nat) (first second : List α) :
    (store.overlay start first).overlay (start + first.length) second =
      store.overlay start (first ++ second) := by
  funext address
  by_cases before : address < start
  · rw [overlay_before before, overlay_before (by omega), overlay_before before]
  · obtain ⟨i, rfl⟩ := Nat.exists_eq_add_of_le (Nat.not_lt.mp before)
    by_cases inFirst : i < first.length
    · rw [overlay_before (by omega), overlay_inside inFirst,
        overlay_inside (by simp; omega), List.getElem_append_left inFirst]
    · obtain ⟨j, rfl⟩ := Nat.exists_eq_add_of_le (Nat.not_lt.mp inFirst)
      by_cases inSecond : j < second.length
      · rw [← Nat.add_assoc, overlay_inside inSecond, Nat.add_assoc,
          overlay_inside (by simp; omega), List.getElem_append_right (by omega)]
        simp
      · rw [overlay_after (by omega), overlay_after (by omega),
          overlay_after (by simp; omega)]

/-- The later of two overlays of one range counts. -/
theorem overlay_overlay (store : Store α) (start : Nat) {first second : List α}
    (same : first.length = second.length) :
    (store.overlay start first).overlay start second = store.overlay start second := by
  funext address
  by_cases inside : start ≤ address ∧ address < start + second.length
  · obtain ⟨i, rfl⟩ := Nat.exists_eq_add_of_le inside.1
    rw [overlay_inside (by omega), overlay_inside (by omega)]
  · rw [overlay_outside (by omega), overlay_outside (by omega), overlay_outside (by omega)]

/-- An overlay changes nothing exactly when it writes what is there. -/
theorem overlay_eq_self_iff {store : Store α} {start : Nat} {cells : List α} :
    store.overlay start cells = store ↔ cells = store.window start cells.length := by
  constructor
  · intro unchanged
    have written := window_overlay_same store start cells
    rw [unchanged] at written
    exact written.symm
  · intro there
    funext address
    by_cases inside : start ≤ address ∧ address < start + cells.length
    · obtain ⟨i, rfl⟩ := Nat.exists_eq_add_of_le inside.1
      have at_i : cells[i]? = (store.window start cells.length)[i]? := congrArg (·[i]?) there
      rw [window_getElem? _ _ _ _ (by omega)] at at_i
      simp [overlay, at_i]
    · exact overlay_outside (by omega)

/-! ### Block view

A store of cells seen as a store of blocks of `size` cells each. -/

/-- Block `k` of the store. -/
def blocks (size : Nat) (store : Store α) : Store (List α) :=
  fun k => store.window (size * k) size

/-- Consecutive blocks, joined, are a window of cells. -/
theorem flatten_window_blocks (size : Nat) (store : Store α) (first count : Nat) :
    ((store.blocks size).window first count).flatten =
      store.window (size * first) (size * count) := by
  induction count with
  | zero => simp
  | succ count ih =>
      rw [window_add, List.flatten_append, ih, Nat.mul_succ, window_add]
      simp [window, blocks, Nat.mul_add]

/-- Overwriting one whole block. -/
theorem blocks_overlay_one {size : Nat} (store : Store α) (k : Nat) {block : List α}
    (whole : block.length = size) :
    (store.overlay (size * k) block).blocks size = (store.blocks size).overlay k [block] := by
  funext j
  rcases Nat.lt_trichotomy j k with before | rfl | after
  · rw [overlay_before before]
    have room : size * j + size ≤ size * k := by
      simpa [Nat.mul_succ] using Nat.mul_le_mul_left size before
    exact window_overlay_disjoint store (.inl room)
  · have here := window_overlay_same store (size * j) block
    rw [whole] at here
    rw [blocks, here]
    exact (overlay_first (store.blocks size) j block []).symm
  · rw [overlay_after (by simpa using Nat.succ_le_of_lt after)]
    have room : size * k + block.length ≤ size * j := by
      simpa [Nat.mul_succ, whole] using Nat.mul_le_mul_left size after
    exact window_overlay_disjoint store (.inr room)

/-- Overwriting a run of whole blocks. -/
theorem blocks_overlay {size : Nat} (store : Store α) (first : Nat) (cells : List (List α))
    (whole : ∀ block ∈ cells, block.length = size) :
    (store.overlay (size * first) cells.flatten).blocks size =
      (store.blocks size).overlay first cells := by
  induction cells generalizing store first with
  | nil => simp
  | cons block cells ih =>
      have wholeBlock : block.length = size := whole block List.mem_cons_self
      have split : store.overlay (size * first) (block :: cells).flatten =
          (store.overlay (size * first) block).overlay (size * (first + 1)) cells.flatten := by
        rw [Nat.mul_succ, ← wholeBlock, overlay_append, List.flatten_cons]
      rw [split, ih _ _ fun b member => whole b (List.mem_cons_of_mem _ member),
        blocks_overlay_one store first wholeBlock]
      exact overlay_append (store.blocks size) first [block] cells

end Store

end Mp257Fsbl.Foundation
