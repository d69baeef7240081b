/-
Module: Mp257Fsbl.Printf.Integer
Purpose: The text of an integer conversion in closed form: sign, prefix, zeros and
  digits, as far as the buffer of the conversion holds them.
Trusted boundary: none
Main exports: codeDigits, padCount, padded_reverse, ntoaBuffer_plain,
  ntoaBuffer_hashed, ink, fieldText_inj
-/
import Mathlib.Data.Nat.Digits.Lemmas
import Mp257Fsbl.Printf.Output

namespace Mp257Fsbl.Printf

/-! ### Digits -/

def zeros (n : Nat) : List UInt8 := List.replicate n 0x30

@[simp] theorem zeros_zero : zeros 0 = [] := rfl

@[simp] theorem zeros_length (n : Nat) : (zeros n).length = n := List.length_replicate

@[simp] theorem blanks_length (n : Nat) : (blanks n).length = n := List.length_replicate

theorem zeros_add (m n : Nat) : zeros (m + n) = zeros m ++ zeros n := List.replicate_add m n 0x30

@[simp] theorem zeros_reverse (n : Nat) : (zeros n).reverse = zeros n := List.reverse_replicate

/-- The natural digits of a value, the most significant first; none for zero. -/
def naturalDigits (base : Nat) (uppercase : Bool) (value : Nat) : List UInt8 :=
  ((Nat.digits base value).map (digitChar uppercase)).reverse

/-- The digits that `_ntoa_long` computes, in reading order. -/
def codeDigits (base : Nat) (uppercase precision : Bool) (value : Nat) : List UInt8 :=
  if value = 0 then if precision then [] else zeros 1 else naturalDigits base uppercase value

theorem ntoaDigits_eq {base : Nat} (uppercase : Bool) (large : 2 ≤ base) {room value : Nat}
    (fits : value < base ^ room) (nonzero : value ≠ 0) :
    ntoaDigits base uppercase room value = (Nat.digits base value).map (digitChar uppercase) := by
  induction room generalizing value with
  | zero =>
      rw [Nat.pow_zero] at fits
      omega
  | succ room ih =>
      have step := Nat.digits_def' large (Nat.pos_of_ne_zero nonzero)
      rw [ntoaDigits, step, List.map_cons]
      congr 1
      split
      · rename_i more
        have less : value / base < base ^ room := by
          apply Nat.div_lt_of_lt_mul
          rwa [Nat.pow_succ, Nat.mul_comm] at fits
        exact ih less more
      · rename_i last
        rw [not_not.mp last]
        simp

theorem ntoaDigits_zero (base : Nat) (uppercase : Bool) :
    ntoaDigits base uppercase ntoaBufferSize 0 = [0x30] := by
  simp [ntoaBufferSize, ntoaDigits, digitChar]

/-- The digits of 64 bits to a base from eight on. -/
theorem digits_length_le {base value : Nat} (large : 8 ≤ base) (fits : value < 2 ^ 64) :
    (Nat.digits base value).length ≤ 22 := by
  rw [Nat.digits_length_le_iff (by omega)]
  calc
    value < 2 ^ 64 := fits
    _ ≤ 8 ^ 22 := by decide
    _ ≤ base ^ 22 := Nat.pow_le_pow_left large 22

theorem codeDigits_length_le {base value : Nat} (uppercase precision : Bool) (large : 8 ≤ base)
    (fits : value < 2 ^ 64) : (codeDigits base uppercase precision value).length ≤ 22 := by
  have natural := digits_length_le large fits
  unfold codeDigits naturalDigits
  split
  · split <;> simp
  · simpa using natural

/-- The buffer that `_ntoa_long` hands to `_ntoa_format`. -/
theorem ntoa_digits (base : Nat) (uppercase precision : Bool) (large : 8 ≤ base) {value : Nat}
    (fits : value < 2 ^ 64) :
    (if ¬ precision ∨ value ≠ 0 then ntoaDigits base uppercase ntoaBufferSize value else []) =
      (codeDigits base uppercase precision value).reverse := by
  unfold codeDigits naturalDigits
  by_cases zero : value = 0
  · rw [zero, ntoaDigits_zero]
    cases precision <;> rfl
  · have room : value < base ^ ntoaBufferSize := by
      calc
        value < 2 ^ 64 := fits
        _ ≤ 8 ^ ntoaBufferSize := by decide
        _ ≤ base ^ ntoaBufferSize := Nat.pow_le_pow_left large _
    simp [zero, ntoaDigits_eq uppercase (by omega : 2 ≤ base) room zero]

/-! ### Ink -/

/-- How many characters are not blank. -/
def ink (text : List UInt8) : Nat := text.countP (· ≠ 0x20)

theorem ink_append (first second : List UInt8) : ink (first ++ second) = ink first + ink second :=
  List.countP_append

theorem ink_le (text : List UInt8) : ink text ≤ text.length := List.countP_le_length

@[simp] theorem ink_blanks (n : Nat) : ink (blanks n) = 0 := by
  simp [ink, blanks, List.countP_replicate]

@[simp] theorem ink_zeros (n : Nat) : ink (zeros n) = n := by
  simp [ink, zeros, List.countP_replicate]

theorem digitChar_ne_blank (uppercase : Bool) {digit : Nat} (small : digit < 16) :
    digitChar uppercase digit ≠ 0x20 := by
  have all : ∀ uppercase, ∀ digit < 16, digitChar uppercase digit ≠ 0x20 := by decide
  exact all uppercase digit small

theorem ink_codeDigits {base : Nat} (uppercase precision : Bool) (value : Nat)
    (large : 2 ≤ base) (small : base ≤ 16) :
    ink (codeDigits base uppercase precision value) =
      (codeDigits base uppercase precision value).length := by
  unfold codeDigits
  split
  · split <;> rfl
  · rw [ink, List.countP_eq_length]
    intro c member
    obtain ⟨digit, inside, rfl⟩ := List.mem_map.mp (List.mem_reverse.mp member)
    have less := Nat.digits_lt_base (by omega) inside
    simpa using digitChar_ne_blank uppercase (Nat.lt_of_lt_of_le less small)

theorem ink_fieldText (left : Bool) (width len : Nat) (text : List UInt8) :
    ink (fieldText left width len text) = ink text := by
  unfold fieldText
  cases left <;> simp [ink_append]

/-- What is equal in one field has as much ink and takes as much room. -/
theorem fieldText_inj {left : Bool} {width : Nat} {first second : List UInt8}
    (same : fieldText left width first.length first = fieldText left width second.length second) :
    ink first = ink second ∧ max width first.length = max width second.length := by
  have inks := congrArg ink same
  have lengths := congrArg List.length same
  rw [ink_fieldText, ink_fieldText] at inks
  unfold fieldText at lengths
  cases left with
  | true =>
      simp at lengths
      omega
  | false =>
      simp at lengths
      omega

/-! ### The buffer -/

/-- How many zeros are padded. -/
def padCount (flags : Flags) (prec width len : Nat) : Nat :=
  if flags.left then 0
  else if flags.zeropad then max (min prec 32) (min width 32) - len
  else min prec 32 - len

theorem padded_reverse (flags : Flags) (prec width : Nat) (digits : List UInt8) :
    padded prec width flags digits.reverse =
      (zeros (padCount flags prec width digits.length) ++ digits).reverse := by
  unfold padded padCount padZeros ntoaBufferSize
  rw [List.reverse_append, zeros_reverse]
  split
  · simp [zeros]
  · split
    · have joined : min prec 32 - digits.length +
          (min width 32 - (digits.length + (min prec 32 - digits.length))) =
            max (min prec 32) (min width 32) - digits.length := by omega
      simp only [List.length_append, List.length_reverse, List.length_replicate, List.append_assoc,
        List.append_cancel_left_eq]
      rw [← joined, zeros_add]
      rfl
    · rw [List.length_reverse]
      rfl

/-- The sign, where there is room for it. -/
def keptSign (sign : Option UInt8) (len : Nat) : List UInt8 :=
  if len < 32 then sign.toList else []

/-- Without a prefix: sign, zeros and digits. -/
theorem ntoaBuffer_plain {flags : Flags} (plain : flags.hash = false) (digits : List UInt8)
    (negative : Bool) (base prec width : Nat) :
    (ntoaBuffer digits.reverse negative base prec width flags).reverse =
      keptSign (signChar negative flags)
          (padCount flags prec width digits.length + digits.length) ++
        (zeros (padCount flags prec width digits.length) ++ digits) := by
  unfold ntoaBuffer keptSign
  rw [padded_reverse, plain]
  cases signChar negative flags with
  | none => simp
  | some c =>
      simp only [Bool.false_eq_true, if_false, pushRoom, ntoaBufferSize, List.length_reverse,
        List.length_append, zeros_length, Option.toList_some]
      split <;> simp

/-- The prefix, where there is room for it. -/
def keptPrefix (base : Nat) (uppercase : Bool) (len : Nat) : List UInt8 :=
  if base = 16 then
    (if len + 1 < 32 then [0x30] else []) ++
      (if len < 32 then [if uppercase then 0x58 else 0x78] else [])
  else if len < 32 then [0x30] else []

/-- The digits behind those that give way to a prefix. -/
def stripped (base prec width : Nat) (flags : Flags) (text : List UInt8) : List UInt8 :=
  if ¬ flags.precision ∧ text.length ≠ 0 ∧ (text.length = prec ∨ text.length = width) then
    if text.length ≠ 1 ∧ base = 16 then text.drop 2 else text.drop 1
  else text

theorem dropLast_reverse (text : List UInt8) : text.reverse.dropLast = (text.drop 1).reverse := by
  rw [List.dropLast_reverse, List.drop_one]

theorem hashStrip_reverse (base prec width : Nat) (flags : Flags) (text : List UInt8) :
    hashStrip base prec width flags text.reverse =
      (stripped base prec width flags text).reverse := by
  unfold hashStrip stripped
  rw [List.length_reverse]
  split
  · rename_i strips
    have fewer : (text.drop 1).length ≠ 0 ↔ text.length ≠ 1 := by
      rw [List.length_drop]
      have some_digit := strips.2.1
      omega
    simp only [dropLast_reverse, List.length_reverse, fewer, List.drop_drop]
    split <;> rfl
  · rfl

/-- With a prefix and no sign: prefix, and what is left of zeros and digits. -/
theorem ntoaBuffer_hashed {flags : Flags} (hash : flags.hash = true) {negative : Bool}
    (unsigned : signChar negative flags = none) {base : Nat} (known : base = 16 ∨ base = 8)
    (digits : List UInt8) (prec width : Nat) :
    let text := stripped base prec width flags
      (zeros (padCount flags prec width digits.length) ++ digits)
    (ntoaBuffer digits.reverse negative base prec width flags).reverse =
      keptPrefix base flags.uppercase text.length ++ text := by
  intro text
  unfold ntoaBuffer
  rw [padded_reverse, hash, unsigned]
  simp only [if_true, hashed, hashStrip_reverse]
  rw [show stripped base prec width flags _ = text from rfl]
  rcases known with rfl | rfl
  · simp only [hashChar, if_true, pushRoom, ntoaBufferSize, List.length_reverse, keptPrefix]
    by_cases one : text.length < 32
    · by_cases two : text.length + 1 < 32
      · simp [one, two]
      · simp [one, two]
    · have two : ¬ text.length + 1 < 32 := by omega
      simp [one, two]
  · simp only [hashChar, pushRoom, ntoaBufferSize, List.length_reverse, keptPrefix]
    by_cases one : text.length < 32
    · simp [one]
    · simp [one]

end Mp257Fsbl.Printf
