/-
Module: Mp257Fsbl.Utils.Memory
Purpose: The byte copy of string.c on an address-indexed memory.
Trusted boundary: human-reviewed model of memcpy
Main exports: memcpy, memcpy_outside, memcpy_inside
-/
import Mp257Fsbl.Foundation.Store

namespace Mp257Fsbl.Utils

open Mp257Fsbl.Foundation

/-- `memcpy`: `n` bytes, one at a time and upwards. -/
def memcpy : (n dst src : Nat) → Store UInt8 → Store UInt8
  | 0, _, _, memory => memory
  | n + 1, dst, src, memory => memcpy n (dst + 1) (src + 1) (memory.overlay dst [memory src])

/-- Nothing outside the destination changes. -/
theorem memcpy_outside {n dst src address : Nat} {memory : Store UInt8}
    (outside : address < dst ∨ dst + n ≤ address) :
    memcpy n dst src memory address = memory address := by
  induction n generalizing dst src memory with
  | zero => rfl
  | succ n ih =>
      rw [memcpy, ih (by omega)]
      exact Store.overlay_outside (by simp; omega)

/-- Byte `i` arrives unless the copy has overwritten it before it was read. -/
theorem memcpy_inside {n dst src i : Nat} {memory : Store UInt8} (inside : i < n)
    (unread : src + i < dst ∨ dst + i ≤ src + i) :
    memcpy n dst src memory (dst + i) = memory (src + i) := by
  induction n generalizing dst src i memory with
  | zero => exact absurd inside (Nat.not_lt_zero i)
  | succ n ih =>
      rw [memcpy]
      cases i with
      | zero =>
          rw [memcpy_outside (by omega)]
          exact Store.overlay_first memory dst (memory src) []
      | succ i =>
          have later : memcpy n (dst + 1) (src + 1) (memory.overlay dst [memory src])
              (dst + 1 + i) = memory.overlay dst [memory src] (src + 1 + i) :=
            ih (by omega) (by omega)
          rw [Store.overlay_outside (by simp; omega)] at later
          rw [Nat.add_comm i 1, ← Nat.add_assoc, ← Nat.add_assoc]
          exact later

end Mp257Fsbl.Utils
