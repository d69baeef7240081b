/-
Module: Mp257Fsbl.Utils.Standard
Purpose: strtoul against the C standard: on which texts and bases the two agree.
Trusted boundary: human-reviewed statement of the standard's strtoul for texts
  whose white space is blanks and tabs and that have no minus sign
Main exports: standardStrtoul, MeetsStandard, BareHex, strtoul_meetsStandard_iff
-/
import Mathlib.Algebra.Order.Ring.Nat
import Mathlib.Data.List.TakeWhile
import Mp257Fsbl.Utils.Numeral

namespace Mp257Fsbl.Utils

/-! ### The standard -/

/-- What is left behind the white space and the sign. -/
def behindSign (text : List UInt8) : List UInt8 :=
  let p := text.dropWhile isBlank
  if peek p = 0x2B then p.drop 1 else p

/-- `0x` or `0X`. -/
def hexPrefix (p : List UInt8) : Bool :=
  peek p == 0x30 && (peek (p.drop 1) == 0x78 || peek (p.drop 1) == 0x58)

/-- The base of a number and where its digits start: a hexadecimal prefix counts
only in front of a hexadecimal digit. -/
def standardBase (base : Nat) (p : List UInt8) : Nat × List UInt8 :=
  if (base = 0 ∨ base = 16) ∧ hexPrefix p ∧ isDigitOf 16 (peek (p.drop 2)) then (16, p.drop 2)
  else if base = 0 then (if peek p = 0x30 then 8 else 10, p)
  else (base, p)

/-- The digits of the longest numeral. -/
def numeralDigits (base : Nat) (text : List UInt8) : List UInt8 :=
  let found := standardBase base (behindSign text)
  found.2.takeWhile (isDigitOf found.1)

def numeralValue (base : Nat) (text : List UInt8) : Nat :=
  valueOf (standardBase base (behindSign text)).1 (numeralDigits base text)

def ulongMax : Nat := 2 ^ 64 - 1

/-- The value and the text behind `*endptr`. Where there is no digit, `*endptr`
is `nptr`. -/
def standardStrtoul (text : List UInt8) (base : Nat) : Nat × List UInt8 :=
  if numeralDigits base text = [] then (0, text)
  else
    let found := standardBase base (behindSign text)
    (min (numeralValue base text) ulongMax, found.2.dropWhile (isDigitOf found.1))

/-- The function returns what the standard asks for, and reads nothing behind
the terminator. -/
def MeetsStandard (text : List UInt8) (base : Nat) : Prop :=
  ∀ rest, strtoul (text ++ 0 :: rest) base =
    some (UInt64.ofNat (standardStrtoul text base).1, (standardStrtoul text base).2 ++ 0 :: rest)

/-! ### The code -/

/-- The base the code finds: a prefix counts whatever follows it. -/
def codeBase (base : Nat) (p : List UInt8) : Nat × List UInt8 :=
  if (base = 0 ∨ base = 16) ∧ hexPrefix p then (16, p.drop 2)
  else if base = 0 then (if peek p = 0x30 then 8 else 10, p)
  else (base, p)

/-- A text that ends in front of the terminator is looked at one character ahead. -/
theorem deref_append (text rest : List UInt8) : deref (text ++ 0 :: rest) = some (peek text) := by
  cases text <;> rfl

theorem strtoulBase_eq (base : Nat) (p rest : List UInt8) :
    strtoulBase base (p ++ 0 :: rest) =
      some ((codeBase base p).1, (codeBase base p).2 ++ 0 :: rest) := by
  by_cases prefixed : (base = 0 ∨ base = 16) ∧ peek p = 0x30
  · obtain ⟨wants, zero⟩ := prefixed
    cases p with
    | nil => exact absurd zero (by decide)
    | cons c p =>
        obtain rfl : c = 0x30 := zero
        have next : (p ++ 0 :: rest).head? = some (peek p) := deref_append p rest
        by_cases marks : peek p = 0x78 ∨ peek p = 0x58
        · cases p with
          | nil => exact absurd marks (by decide)
          | cons x p =>
              have marks : x = 0x78 ∨ x = 0x58 := marks
              simp [strtoulBase, codeBase, hexPrefix, peek, wants, marks]
        · have unmarked : hexPrefix (0x30 :: p) = false := by
            simpa [hexPrefix, peek] using marks
          have head : strtoulBase base ((0x30 :: p) ++ 0 :: rest) =
              some (if base = 0 then 8 else base, (0x30 :: p) ++ 0 :: rest) := by
            simp [strtoulBase, wants, next, marks]
          rw [head, codeBase, unmarked]
          by_cases auto : base = 0
          · simp [auto, peek]
          · simp [auto]
  · have first : (p ++ 0 :: rest).head? = some (peek p) := deref_append p rest
    have head : strtoulBase base (p ++ 0 :: rest) =
        some (if base = 0 then 10 else base, p ++ 0 :: rest) := by
      simp only [strtoulBase, first, Option.bind_eq_bind, Option.bind_some, if_neg prefixed]
    have unmarked : ¬ ((base = 0 ∨ base = 16) ∧ hexPrefix p = true) := by
      rintro ⟨wants, marks⟩
      simp only [hexPrefix, Bool.and_eq_true, beq_iff_eq] at marks
      exact prefixed ⟨wants, marks.1⟩
    rw [head, codeBase, if_neg unmarked]
    by_cases auto : base = 0
    · have other : peek p ≠ 0x30 := fun zero => prefixed ⟨.inl auto, zero⟩
      simp [auto, other]
    · simp [auto]

/-- What is dropped ends where the text does, at the latest. -/
theorem peek_dropWhile {drop : UInt8 → Bool} (stops : drop 0 = false) (text : List UInt8) :
    drop (peek (text.dropWhile drop)) = false := by
  have first := List.head?_dropWhile_not drop text
  cases left : text.dropWhile drop with
  | nil => exact stops
  | cons c after =>
      rw [left] at first
      exact first

/-- White space is skipped as the standard does. -/
theorem skipWhile_dropWhile {skip : UInt8 → Bool} (stops : skip 0 = false)
    (text rest : List UInt8) :
    skipWhile skip (text ++ 0 :: rest) = some (text.dropWhile skip ++ 0 :: rest) := by
  have skipped : ∀ c ∈ text.takeWhile skip, skip c = true := fun c => List.mem_takeWhile_imp
  have run := skipWhile_run skipped (peek_dropWhile stops text) rest
  rwa [← List.append_assoc, List.takeWhile_append_dropWhile] at run

/-- The loop converts the digits up to the first character that is none. -/
theorem strtoulDigits_dropWhile (base : Nat) (text rest : List UInt8) :
    strtoulDigits base 0 (text ++ 0 :: rest) =
      some (UInt64.ofNat (valueOf base (text.takeWhile (isDigitOf base))),
        text.dropWhile (isDigitOf base) ++ 0 :: rest) := by
  have stops : isDigitOf base 0 = false := rfl
  have digits : ∀ c ∈ text.takeWhile (isDigitOf base), isDigitOf base c = true :=
    fun c => List.mem_takeWhile_imp
  have loop := strtoulDigits_append digits (peek_dropWhile stops text) 0 rest
  rw [← List.append_assoc, List.takeWhile_append_dropWhile, Nat.zero_mul, Nat.zero_add] at loop
  exact loop

/-- What the code makes of a text, whatever lies behind the terminator. -/
theorem strtoul_eq (text : List UInt8) (base : Nat) (rest : List UInt8) :
    let found := codeBase base (behindSign text)
    strtoul (text ++ 0 :: rest) base =
      some (UInt64.ofNat (valueOf found.1 (found.2.takeWhile (isDigitOf found.1))),
        found.2.dropWhile (isDigitOf found.1) ++ 0 :: rest) := by
  have skipped : skipWhile (fun c => c == 0x20 || c == 0x09) (text ++ 0 :: rest) =
      some (text.dropWhile isBlank ++ 0 :: rest) := skipWhile_dropWhile rfl text rest
  have sign := deref_append (text.dropWhile isBlank) rest
  have signed : (if peek (text.dropWhile isBlank) = 0x2B then
      (text.dropWhile isBlank ++ 0 :: rest).drop 1 else text.dropWhile isBlank ++ 0 :: rest) =
        behindSign text ++ 0 :: rest := by
    simp only [behindSign]
    by_cases plus : peek (text.dropWhile isBlank) = 0x2B
    · rw [if_pos plus, if_pos plus]
      cases behind : text.dropWhile isBlank with
      | nil =>
          rw [behind] at plus
          exact absurd plus (by decide)
      | cons c p => rfl
    · rw [if_neg plus, if_neg plus]
  simp only [deref] at sign
  simp only [strtoul, skipped, Option.bind_eq_bind, Option.bind_some, sign, signed,
    strtoulBase_eq, strtoulDigits_dropWhile]

/-! ### Where they agree -/

/-- A hexadecimal prefix without a hexadecimal digit. -/
def BareHex (base : Nat) (p : List UInt8) : Prop :=
  (base = 0 ∨ base = 16) ∧ hexPrefix p ∧ isDigitOf 16 (peek (p.drop 2)) = false

theorem codeBase_eq {base : Nat} {p : List UInt8} (full : ¬ BareHex base p) :
    codeBase base p = standardBase base p := by
  simp only [codeBase, standardBase]
  by_cases prefixed : (base = 0 ∨ base = 16) ∧ hexPrefix p = true
  · have digit : isDigitOf 16 (peek (p.drop 2)) = true := by
      cases found : isDigitOf 16 (peek (p.drop 2)) with
      | true => rfl
      | false => exact absurd ⟨prefixed.1, prefixed.2, found⟩ full
    simp [prefixed, digit]
  · have neither : ¬ ((base = 0 ∨ base = 16) ∧ hexPrefix p = true ∧
        isDigitOf 16 (peek (p.drop 2)) = true) := fun all => prefixed ⟨all.1, all.2.1⟩
    rw [if_neg prefixed, if_neg neither]

/-- A 64-bit word holds a value, or by its wrapping what stands for too large a one. -/
theorem ofNat_eq_min_iff (value : Nat) :
    UInt64.ofNat value = UInt64.ofNat (min value ulongMax) ↔
      value < 2 ^ 64 ∨ value % 2 ^ 64 = ulongMax := by
  rw [← UInt64.toNat_inj, UInt64.toNat_ofNat', UInt64.toNat_ofNat']
  simp only [ulongMax]
  omega

/-- Without digits the standard's base is looked for at the start. -/
theorem standardBase_of_no_digits {base : Nat} {text : List UInt8}
    (none_ : numeralDigits base text = []) :
    (standardBase base (behindSign text)).2 = behindSign text := by
  simp only [numeralDigits, standardBase] at none_ ⊢
  split
  · rename_i hex
    rw [if_pos hex] at none_
    obtain ⟨-, -, digit⟩ := hex
    cases behind : (behindSign text).drop 2 with
    | nil =>
        rw [behind] at digit
        exact absurd digit (by decide)
    | cons c p =>
        rw [behind] at digit none_
        have digit : isDigitOf 16 c = true := digit
        simp [digit] at none_
  · split <;> rfl

/-- In a text without a bare prefix the code meets the standard where there are
digits and they fit, or where there is nothing in front of the digits that are
missing. -/
theorem meetsStandard_iff_of_full {text : List UInt8} {base : Nat}
    (full : ¬ BareHex base (behindSign text)) :
    MeetsStandard text base ↔
      (numeralDigits base text = [] → behindSign text = text) ∧
        (numeralValue base text < 2 ^ 64 ∨ numeralValue base text % 2 ^ 64 = ulongMax) := by
  have code := fun rest => strtoul_eq text base rest
  rw [codeBase_eq full] at code
  by_cases none_ : numeralDigits base text = []
  · have zero : numeralValue base text = 0 := by rw [numeralValue, none_, valueOf_nil]
    have start := standardBase_of_no_digits none_
    have digits : (behindSign text).takeWhile
        (isDigitOf (standardBase base (behindSign text)).1) = [] := by
      simpa only [numeralDigits, start] using none_
    have after : (behindSign text).dropWhile
        (isDigitOf (standardBase base (behindSign text)).1) = behindSign text := by
      have whole := @List.takeWhile_append_dropWhile _
        (isDigitOf (standardBase base (behindSign text)).1) (behindSign text)
      rwa [digits, List.nil_append] at whole
    simp only [start, digits, after, valueOf_nil] at code
    simp [MeetsStandard, code, standardStrtoul, none_, zero]
  · have standard : standardStrtoul text base = (min (numeralValue base text) ulongMax,
        (standardBase base (behindSign text)).2.dropWhile
          (isDigitOf (standardBase base (behindSign text)).1)) := if_neg none_
    have code : ∀ rest, strtoul (text ++ 0 :: rest) base =
        some (UInt64.ofNat (numeralValue base text),
          (standardBase base (behindSign text)).2.dropWhile
            (isDigitOf (standardBase base (behindSign text)).1) ++ 0 :: rest) := code
    rw [MeetsStandard, standard, ← ofNat_eq_min_iff]
    simp [code, none_]

theorem BareHex.split {base : Nat} {p : List UInt8} (bare : BareHex base p) :
    ∃ x behind, p = 0x30 :: x :: behind ∧ (x = 0x78 ∨ x = 0x58) ∧
      isDigitOf 16 (peek behind) = false := by
  obtain ⟨-, marks, digit⟩ := bare
  simp only [hexPrefix, Bool.and_eq_true, Bool.or_eq_true, beq_iff_eq] at marks
  match p with
  | [] => exact absurd marks.1 (by decide)
  | [c] =>
      have missing : (0 : UInt8) = 0x78 ∨ (0 : UInt8) = 0x58 := marks.2
      exact absurd missing (by decide)
  | c :: x :: behind =>
      obtain rfl : c = 0x30 := marks.1
      exact ⟨x, behind, rfl, marks.2, digit⟩

/-- The longest numeral of a bare prefix is its zero. -/
theorem standardStrtoul_bareHex {text : List UInt8} {base : Nat}
    (bare : BareHex base (behindSign text)) :
    (standardStrtoul text base).2 = (behindSign text).drop 1 := by
  obtain ⟨x, behind, split, marks, -⟩ := bare.split
  obtain ⟨wants, -, none_⟩ := bare
  have base_eq : standardBase base (behindSign text) =
      (if base = 0 then 8 else base, behindSign text) := by
    have unprefixed : ¬ ((base = 0 ∨ base = 16) ∧ hexPrefix (behindSign text) = true ∧
        isDigitOf 16 (peek ((behindSign text).drop 2)) = true) := by
      rintro ⟨-, -, digit⟩
      exact absurd (none_.symm.trans digit) (by decide)
    rw [standardBase, if_neg unprefixed, split]
    split <;> rfl
  have zero : isDigitOf (if base = 0 then 8 else base) 0x30 = true := by
    rcases wants with rfl | rfl <;> decide
  have mark : isDigitOf (if base = 0 then 8 else base) x = false := by
    rcases wants with rfl | rfl <;> rcases marks with rfl | rfl <;> decide
  have digits : numeralDigits base text = [0x30] := by
    simp only [numeralDigits, base_eq]
    simp [split, zero, mark]
  simp only [standardStrtoul, digits, base_eq]
  simp [split, zero, mark]

/-- The code leaves `*endptr` behind the bare prefix. -/
theorem not_meetsStandard_of_bareHex {text : List UInt8} {base : Nat}
    (bare : BareHex base (behindSign text)) : ¬ MeetsStandard text base := by
  intro meets
  obtain ⟨x, behind, split, -, -⟩ := bare.split
  have result := (strtoul_eq text base []).symm.trans (meets [])
  rw [standardStrtoul_bareHex bare, codeBase, if_pos ⟨bare.1, bare.2.1⟩, split] at result
  have after := congrArg List.length (Prod.mk.inj (Option.some.inj result)).2
  have shorter := (@List.dropWhile_suffix _ behind (isDigitOf 16)).length_le
  simp only [List.drop_succ_cons, List.drop_zero, List.length_append, List.length_cons] at after
  omega

/-- `strtoul` does what the standard asks exactly where the text is no bare
hexadecimal prefix, has nothing in front of digits that are missing, and its
value fits in 64 bits or wraps to the largest. -/
theorem strtoul_meetsStandard_iff (text : List UInt8) (base : Nat) :
    MeetsStandard text base ↔
      ¬ BareHex base (behindSign text) ∧
        (numeralDigits base text = [] → behindSign text = text) ∧
        (numeralValue base text < 2 ^ 64 ∨ numeralValue base text % 2 ^ 64 = ulongMax) := by
  by_cases bare : BareHex base (behindSign text)
  · exact iff_of_false (not_meetsStandard_of_bareHex bare) fun all => all.1 bare
  · rw [meetsStandard_iff_of_full bare]
    exact (and_iff_right bare).symm

/-- A lone sign: the standard converts nothing and returns `nptr`, the code has
moved past the sign. -/
theorem strtoul_lone_sign : ¬ MeetsStandard [0x2B] 0 := by
  intro meets
  have result := meets []
  exact absurd result (by decide)

end Mp257Fsbl.Utils
