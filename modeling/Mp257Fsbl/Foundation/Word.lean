/-
Module: Mp257Fsbl.Foundation.Word
Purpose: Words assembled from bytes by shifts and ors, and taken apart again.
Trusted boundary: none
Main exports: word32, word16, word32_toNat, word32_of_bytes, word16_of_bytes
-/
import Mathlib.Algebra.Order.Ring.Nat

namespace Mp257Fsbl.Foundation

/-- The word whose bytes are given from the most significant one down. -/
def word32 (b3 b2 b1 b0 : UInt8) : UInt32 :=
  b3.toUInt32 <<< 24 ||| b2.toUInt32 <<< 16 ||| b1.toUInt32 <<< 8 ||| b0.toUInt32

/-- The same for two bytes, still as a 32-bit word. -/
def word16 (b1 b0 : UInt8) : UInt32 := b1.toUInt32 <<< 8 ||| b0.toUInt32

theorem word16_toNat (b1 b0 : UInt8) :
    (word16 b1 b0).toNat = b1.toNat * 2 ^ 8 + b0.toNat := by
  have low := b0.toNat_lt
  have high := b1.toNat_lt
  have fits : b1.toNat <<< 8 < 2 ^ 32 := by rw [Nat.shiftLeft_eq]; omega
  simp only [word16, UInt32.toNat_or, UInt32.toNat_shiftLeft, UInt8.toNat_toUInt32]
  change b1.toNat <<< 8 % 2 ^ 32 ||| b0.toNat = _
  rw [Nat.mod_eq_of_lt fits, ← Nat.shiftLeft_add_eq_or_of_lt (by omega), Nat.shiftLeft_eq]

theorem word32_toNat (b3 b2 b1 b0 : UInt8) :
    (word32 b3 b2 b1 b0).toNat =
      b3.toNat * 2 ^ 24 + b2.toNat * 2 ^ 16 + b1.toNat * 2 ^ 8 + b0.toNat := by
  have low_toNat := word16_toNat b1 b0
  have b0_lt := b0.toNat_lt
  have b1_lt := b1.toNat_lt
  have b2_lt := b2.toNat_lt
  have b3_lt := b3.toNat_lt
  have regroup : word32 b3 b2 b1 b0 =
      b3.toUInt32 <<< 24 ||| (b2.toUInt32 <<< 16 ||| word16 b1 b0) := by
    simp only [word32, word16, UInt32.or_assoc]
  have shift2 : (b2.toUInt32 <<< 16).toNat = b2.toNat <<< 16 := by
    rw [UInt32.toNat_shiftLeft, UInt8.toNat_toUInt32]
    exact Nat.mod_eq_of_lt (by change b2.toNat <<< 16 < _; rw [Nat.shiftLeft_eq]; omega)
  have shift3 : (b3.toUInt32 <<< 24).toNat = b3.toNat <<< 24 := by
    rw [UInt32.toNat_shiftLeft, UInt8.toNat_toUInt32]
    exact Nat.mod_eq_of_lt (by change b3.toNat <<< 24 < _; rw [Nat.shiftLeft_eq]; omega)
  have lower : (b2.toUInt32 <<< 16 ||| word16 b1 b0).toNat =
      b2.toNat * 2 ^ 16 + (word16 b1 b0).toNat := by
    rw [UInt32.toNat_or, shift2, ← Nat.shiftLeft_add_eq_or_of_lt (by omega), Nat.shiftLeft_eq]
  rw [regroup, UInt32.toNat_or, shift3, ← Nat.shiftLeft_add_eq_or_of_lt (by omega), lower,
    low_toNat, Nat.shiftLeft_eq]
  omega

/-- Reassembling a word from its four bytes. -/
theorem word32_of_bytes (word : UInt32) :
    word32 (word >>> 24).toUInt8 (word >>> 16).toUInt8 (word >>> 8).toUInt8 word.toUInt8 =
      word := by
  apply UInt32.toNat.inj
  have bound := word.toNat_lt
  simp only [word32_toNat, UInt32.toNat_toUInt8, UInt32.toNat_shiftRight, Nat.shiftRight_eq_div_pow]
  change word.toNat / 2 ^ 24 % 2 ^ 8 * 2 ^ 24 + word.toNat / 2 ^ 16 % 2 ^ 8 * 2 ^ 16 +
    word.toNat / 2 ^ 8 % 2 ^ 8 * 2 ^ 8 + word.toNat % 2 ^ 8 = word.toNat
  omega

theorem word16_of_bytes (word : UInt16) :
    word16 (word >>> 8).toUInt8 word.toUInt8 = word.toUInt32 := by
  apply UInt32.toNat.inj
  have bound := word.toNat_lt
  simp only [word16_toNat, UInt16.toNat_toUInt8, UInt16.toNat_shiftRight,
    UInt16.toNat_toUInt32, Nat.shiftRight_eq_div_pow]
  change word.toNat / 2 ^ 8 % 2 ^ 8 * 2 ^ 8 + word.toNat % 2 ^ 8 = word.toNat
  omega

end Mp257Fsbl.Foundation
