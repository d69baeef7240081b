/-
Module: Mp257Fsbl.Utils.Numeral
Purpose: The numerals that strtoul reads with base zero, their values, and all
  that strtoul makes of any text.
Trusted boundary: none
Main exports: isDigitOf, valueOf, Numeral, Longest, Lead, DigitFree,
  StrtoulReads, StrtoulReads.strtoul, strtoulReads_exists
-/
import Mathlib.Data.Nat.Digits.Lemmas
import Mp257Fsbl.Utils.CString

namespace Mp257Fsbl.Utils

/-! ### Digits -/

/-- The character is a digit of the base. -/
def isDigitOf (base : Nat) (c : UInt8) : Bool := (digitValue c).any (· < base)

def digitOf (c : UInt8) : Nat := (digitValue c).getD 0

theorem isDigit_of_isDigitOf {c : UInt8} (digit : isDigitOf 10 c = true) : isDigit c = true := by
  cases found : isDigit c with
  | true => rfl
  | false =>
      unfold isDigitOf digitValue at digit
      rw [found] at digit
      cases lower : isLower c <;> cases upper : isUpper c <;> simp [lower, upper] at digit

/-- The value of a string of digits, the most significant first. -/
def valueOf (base : Nat) (digits : List UInt8) : Nat :=
  Nat.ofDigits base (digits.map digitOf).reverse

@[simp] theorem valueOf_nil (base : Nat) : valueOf base [] = 0 := rfl

theorem valueOf_cons (base : Nat) (c : UInt8) (digits : List UInt8) :
    valueOf base (c :: digits) = digitOf c * base ^ digits.length + valueOf base digits := by
  simp only [valueOf, List.map_cons, List.reverse_cons, Nat.ofDigits_append, List.length_reverse,
    List.length_map, Nat.ofDigits_singleton]
  rw [Nat.mul_comm, Nat.add_comm]

/-- The conversion loop on a string of digits; the value wraps at 64 bits. -/
theorem strtoulDigits_append {base : Nat} {digits : List UInt8}
    (all : ∀ c ∈ digits, isDigitOf base c = true) {after : List UInt8}
    (ends : isDigitOf base (peek after) = false) (acc : Nat) (rest : List UInt8) :
    strtoulDigits base (UInt64.ofNat acc) (digits ++ (after ++ 0 :: rest)) =
      some (UInt64.ofNat (acc * base ^ digits.length + valueOf base digits),
        after ++ 0 :: rest) := by
  induction digits generalizing acc with
  | nil =>
      obtain ⟨tail, split⟩ := append_eq_peek after rest
      rw [List.nil_append, split, strtoulDigits]
      cases value : digitValue (peek after) with
      | none => simp
      | some digit =>
          have large : base ≤ digit := by simpa [isDigitOf, value] using ends
          simp [large]
  | cons c digits ih =>
      have here := all c List.mem_cons_self
      have step := fun acc => ih (fun d member => all d (List.mem_cons_of_mem _ member)) acc
      rw [List.cons_append, strtoulDigits]
      cases value : digitValue c with
      | none => simp [isDigitOf, value] at here
      | some digit =>
          have small : digit < base := by simpa [isDigitOf, value] using here
          have same : digitOf c = digit := by simp [digitOf, value]
          dsimp only
          rw [if_neg (Nat.not_le.mpr small), ← UInt64.ofNat_mul, ← UInt64.ofNat_add, step,
            valueOf_cons, same, List.length_cons, Nat.pow_succ, Nat.add_mul, Nat.add_assoc,
            Nat.mul_assoc, Nat.mul_comm base]

/-! ### Numerals -/

/-- A complete numeral in the notation that its first characters choose. -/
inductive Numeral : (base : Nat) → (text : List UInt8) → (value : Nat) → Prop where
  | decimal {c : UInt8} {digits : List UInt8} :
      c ≠ 0x30 → (∀ d ∈ c :: digits, isDigitOf 10 d = true) →
        Numeral 10 (c :: digits) (valueOf 10 (c :: digits))
  | octal {digits : List UInt8} :
      (∀ d ∈ digits, isDigitOf 8 d = true) → Numeral 8 (0x30 :: digits) (valueOf 8 digits)
  | hex {x : UInt8} {digits : List UInt8} :
      x = 0x78 ∨ x = 0x58 → digits ≠ [] → (∀ d ∈ digits, isDigitOf 16 d = true) →
        Numeral 16 (0x30 :: x :: digits) (valueOf 16 digits)

/-- The numeral does not go on behind its end. -/
structure Longest (base : Nat) (text after : List UInt8) : Prop where
  digits : isDigitOf base (peek after) = false
  /-- A lone zero does not start a hexadecimal numeral. -/
  zero : text = [0x30] → peek after ≠ 0x78 ∧ peek after ≠ 0x58

/-- Every numeral starts with a decimal digit. -/
theorem Numeral.starts {base value : Nat} {text : List UInt8} (numeral : Numeral base text value)
    (after : List UInt8) : isDigitOf 10 (peek (text ++ after)) = true := by
  have zero : isDigitOf 10 0x30 = true := by decide
  cases numeral with
  | decimal other all => exact all _ List.mem_cons_self
  | octal all => exact zero
  | hex marks some_digits all => exact zero

theorem Numeral.ne_nil {base value : Nat} {text : List UInt8} (numeral : Numeral base text value) :
    text ≠ [] := by
  cases numeral <;> simp

/-- `strtoul` from its sign on. -/
def strtoulNumber (p : List UInt8) : Option (UInt64 × List UInt8) := do
  let (base, p) ← strtoulBase 0 p
  strtoulDigits base 0 p

section Number

variable {base value : Nat} {text after : List UInt8}

theorem strtoulBase_hex {x : UInt8} (marks : x = 0x78 ∨ x = 0x58) (p : List UInt8) :
    strtoulBase 0 (0x30 :: x :: p) = some (16, p) := by
  simp [strtoulBase, marks]

theorem strtoulBase_octal {c : UInt8} (other : ¬ (c = 0x78 ∨ c = 0x58)) (p : List UInt8) :
    strtoulBase 0 (0x30 :: c :: p) = some (8, 0x30 :: c :: p) := by
  simp [strtoulBase, other]

theorem strtoulBase_decimal {c : UInt8} (other : c ≠ 0x30) (p : List UInt8) :
    strtoulBase 0 (c :: p) = some (10, c :: p) := by
  simp [strtoulBase, other]

theorem strtoulNumber_numeral (numeral : Numeral base text value)
    (longest : Longest base text after) (rest : List UInt8) :
    strtoulNumber (text ++ (after ++ 0 :: rest)) =
      some (UInt64.ofNat value, after ++ 0 :: rest) := by
  cases numeral with
  | @decimal c digits other all =>
      have loop := strtoulDigits_append all longest.digits 0 rest
      rw [strtoulNumber, List.cons_append, strtoulBase_decimal other]
      simpa using loop
  | @octal digits all =>
      have zero : ∀ d ∈ (0x30 : UInt8) :: digits, isDigitOf 8 d = true := by
        intro d member
        rcases List.mem_cons.mp member with rfl | later
        · decide
        · exact all d later
      have loop := strtoulDigits_append zero longest.digits 0 rest
      have same : valueOf 8 (0x30 :: digits) = valueOf 8 digits := by
        have digit : digitOf 0x30 = 0 := by decide
        rw [valueOf_cons, digit, Nat.zero_mul, Nat.zero_add]
      have octal : ¬ (peek (digits ++ after) = 0x78 ∨ peek (digits ++ after) = 0x58) := by
        cases digits with
        | nil =>
            have lone := longest.zero rfl
            exact not_or.mpr lone
        | cons d digits =>
            have digit := all d List.mem_cons_self
            rintro (same | same)
            · rw [show d = 0x78 from same] at digit
              exact absurd digit (by decide)
            · rw [show d = 0x58 from same] at digit
              exact absurd digit (by decide)
      obtain ⟨tail, split⟩ := append_eq_peek (digits ++ after) rest
      rw [List.append_assoc] at split
      rw [List.cons_append, split] at loop ⊢
      rw [strtoulNumber, strtoulBase_octal octal]
      simpa [same] using loop
  | @hex x digits marks some_digits all =>
      have loop := strtoulDigits_append all longest.digits 0 rest
      rw [strtoulNumber, List.cons_append, List.cons_append, strtoulBase_hex marks]
      simpa using loop

end Number

/-! ### Before the numeral -/

/-- The characters that `strtoul` skips. -/
def isBlank (c : UInt8) : Bool := c == 0x20 || c == 0x09

/-- What `strtoul` passes over in front of the digits: blanks and a sign. -/
inductive Lead : (lead : List UInt8) → Prop where
  | blanks {lead : List UInt8} : (∀ c ∈ lead, isBlank c = true) → Lead lead
  | plus {lead : List UInt8} : (∀ c ∈ lead, isBlank c = true) → Lead (lead ++ [0x2B])

/-- Blanks in front are skipped. -/
theorem strtoul_blanks {blanks behind : List UInt8} (blank : ∀ c ∈ blanks, isBlank c = true)
    (ends : isBlank (peek behind) = false) (sign : peek behind ≠ 0x2B) (rest : List UInt8) :
    strtoul (blanks ++ (behind ++ 0 :: rest)) 0 = strtoulNumber (behind ++ 0 :: rest) := by
  have skipped : skipWhile (fun c => c == 0x20 || c == 0x09) (blanks ++ (behind ++ 0 :: rest)) =
      some (behind ++ 0 :: rest) := skipWhile_run blank ends rest
  obtain ⟨tail, split⟩ := append_eq_peek behind rest
  rw [strtoul, skipped, split]
  simp only [Option.bind_eq_bind, Option.bind_some, List.head?_cons, sign, if_false]
  rfl

theorem strtoul_plus {blanks : List UInt8} (blank : ∀ c ∈ blanks, isBlank c = true)
    (p : List UInt8) : strtoul (blanks ++ 0x2B :: p) 0 = strtoulNumber p := by
  have skipped : skipWhile (fun c => c == 0x20 || c == 0x09) (blanks ++ 0x2B :: p) =
      some (0x2B :: p) := skipWhile_append blank rfl p
  rw [strtoul, skipped]
  rfl

/-- In front of a digit the whole lead is passed over. -/
theorem Lead.strtoul {lead body : List UInt8} (leads : Lead lead)
    (digit : isDigitOf 10 (peek body) = true) (rest : List UInt8) :
    strtoul (lead ++ (body ++ 0 :: rest)) 0 = strtoulNumber (body ++ 0 :: rest) := by
  cases leads with
  | plus blank =>
      rw [List.append_assoc]
      exact strtoul_plus blank (body ++ 0 :: rest)
  | blanks blank =>
      apply strtoul_blanks blank
      · cases found : isBlank (peek body) with
        | false => rfl
        | true =>
            simp only [isBlank, Bool.or_eq_true, beq_iff_eq] at found
            rcases found with same | same
            · exact absurd (same ▸ digit) (by decide)
            · exact absurd (same ▸ digit) (by decide)
      · intro same
        exact absurd (same ▸ digit) (by decide)

/-- A lead without the digits that should follow it. -/
inductive DigitFree : (lead after : List UInt8) → Prop where
  | blanks {lead after : List UInt8} :
      (∀ c ∈ lead, isBlank c = true) → lead ≠ [] → isBlank (peek after) = false →
        peek after ≠ 0x2B → isDigitOf 10 (peek after) = false → DigitFree lead after
  | plus {lead after : List UInt8} :
      (∀ c ∈ lead, isBlank c = true) → isDigitOf 10 (peek after) = false →
        DigitFree (lead ++ [0x2B]) after
  | hex {lead after : List UInt8} {x : UInt8} :
      Lead lead → x = 0x78 ∨ x = 0x58 → isDigitOf 16 (peek after) = false →
        DigitFree (lead ++ [0x30, x]) after

theorem DigitFree.ne_nil {lead after : List UInt8} (digitFree : DigitFree lead after) :
    lead ≠ [] := by
  cases digitFree with
  | blanks blank some_lead ends sign none_ => exact some_lead
  | plus blank none_ => simp
  | hex leads marks none_ => simp

/-- What `strtoul` makes of a text: its value, and the text behind `*endptr`. -/
inductive StrtoulReads : (text : List UInt8) → (value : Nat) → (after : List UInt8) → Prop where
  | nothing {text : List UInt8} :
      isBlank (peek text) = false → peek text ≠ 0x2B → isDigitOf 10 (peek text) = false →
        StrtoulReads text 0 text
  | number {lead numeral after : List UInt8} {base value : Nat} :
      Lead lead → Numeral base numeral value → Longest base numeral after →
        StrtoulReads (lead ++ (numeral ++ after)) value after
  | digitFree {lead after : List UInt8} :
      DigitFree lead after → StrtoulReads (lead ++ after) 0 after

theorem strtoulNumber_nothing {text : List UInt8} (none_ : isDigitOf 10 (peek text) = false)
    (rest : List UInt8) :
    strtoulNumber (text ++ 0 :: rest) = some (UInt64.ofNat 0, text ++ 0 :: rest) := by
  obtain ⟨tail, split⟩ := append_eq_peek text rest
  have other : peek text ≠ 0x30 := by
    intro zero
    rw [zero] at none_
    exact absurd none_ (by decide)
  have loop := @strtoulDigits_append 10 [] (by simp) text none_ 0 rest
  rw [List.nil_append, split] at loop
  rw [split, strtoulNumber, strtoulBase_decimal other]
  exact loop

theorem strtoulNumber_bareHex {x : UInt8} {after : List UInt8} (marks : x = 0x78 ∨ x = 0x58)
    (none_ : isDigitOf 16 (peek after) = false) (rest : List UInt8) :
    strtoulNumber (0x30 :: x :: (after ++ 0 :: rest)) =
      some (UInt64.ofNat 0, after ++ 0 :: rest) := by
  have loop := @strtoulDigits_append 16 [] (by simp) after none_ 0 rest
  rw [strtoulNumber, strtoulBase_hex marks]
  exact loop

/-- `strtoul` reads so, whatever lies behind the terminator. -/
theorem StrtoulReads.strtoul {text after : List UInt8} {value : Nat}
    (reads : StrtoulReads text value after) (rest : List UInt8) :
    strtoul (text ++ 0 :: rest) 0 = some (UInt64.ofNat value, after ++ 0 :: rest) := by
  cases reads with
  | nothing ends sign none_ =>
      have start := @strtoul_blanks [] text (by simp) ends sign rest
      rw [List.nil_append] at start
      rw [start, strtoulNumber_nothing none_]
  | number leads numeral longest =>
      have start := leads.strtoul (numeral.starts after) rest
      rw [List.append_assoc] at start
      rw [List.append_assoc, List.append_assoc, start]
      exact strtoulNumber_numeral numeral longest rest
  | digitFree digitFree =>
      rw [List.append_assoc]
      cases digitFree with
      | blanks blank some_lead ends sign none_ =>
          rw [strtoul_blanks blank ends sign, strtoulNumber_nothing none_]
      | plus blank none_ =>
          rw [List.append_assoc, List.singleton_append, strtoul_plus blank,
            strtoulNumber_nothing none_]
      | @hex _ _ x leads marks none_ =>
          have zero : isDigitOf 10 0x30 = true := by decide
          have start := @Lead.strtoul _ (0x30 :: x :: after) leads zero rest
          rw [List.append_assoc]
          exact start.trans (strtoulNumber_bareHex marks none_ rest)

/-- What follows a lead and starts with a digit is a numeral or a bare
hexadecimal prefix. -/
theorem Lead.reads {lead body : List UInt8} (leads : Lead lead)
    (digit : isDigitOf 10 (peek body) = true) :
    ∃ value after, StrtoulReads (lead ++ body) value after := by
  cases body with
  | nil => cases digit
  | cons c body =>
      by_cases zero : c = 0x30
      · subst zero
        by_cases marks : peek body = 0x78 ∨ peek body = 0x58
        · cases body with
          | nil => exact absurd marks (by decide)
          | cons x body =>
              obtain ⟨digits, after, rfl, all, ends⟩ := run_ends (isDigitOf 16) (by decide) body
              cases digits with
              | nil =>
                  have split : lead ++ 0x30 :: x :: after = lead ++ [0x30, x] ++ after := by simp
                  exact ⟨0, after, split ▸ .digitFree (.hex leads marks ends)⟩
              | cons d digits =>
                  have longest : Longest 16 (0x30 :: x :: d :: digits) after :=
                    ⟨ends, fun lone => by simp at lone⟩
                  exact ⟨_, after, .number leads (.hex marks (by simp) all) longest⟩
        · obtain ⟨digits, after, rfl, all, ends⟩ := run_ends (isDigitOf 8) (by decide) body
          have longest : Longest 8 (0x30 :: digits) after := by
            refine ⟨ends, fun lone => ?_⟩
            obtain rfl : digits = [] := by simpa using lone
            exact not_or.mp marks
          exact ⟨_, after, .number leads (.octal all) longest⟩
      · obtain ⟨digits, after, rfl, all, ends⟩ := run_ends (isDigitOf 10) (by decide) body
        have every : ∀ d ∈ c :: digits, isDigitOf 10 d = true := by
          intro d member
          rcases List.mem_cons.mp member with rfl | later
          · exact digit
          · exact all d later
        have longest : Longest 10 (c :: digits) after :=
          ⟨ends, fun lone => absurd (List.cons.inj lone).1 zero⟩
        exact ⟨_, after, .number leads (.decimal zero every) longest⟩

/-- Every text is read somehow. -/
theorem strtoulReads_exists (text : List UInt8) :
    ∃ value after, StrtoulReads text value after := by
  obtain ⟨blanks, behind, rfl, blank, ends⟩ := run_ends isBlank (by decide) text
  by_cases sign : peek behind = 0x2B
  · cases behind with
    | nil => exact absurd sign (by decide)
    | cons c body =>
        obtain rfl : c = 0x2B := sign
        rw [← List.singleton_append, ← List.append_assoc]
        cases digit : isDigitOf 10 (peek body) with
        | true => exact (Lead.plus blank).reads digit
        | false => exact ⟨0, body, .digitFree (.plus blank digit)⟩
  · cases digit : isDigitOf 10 (peek behind) with
    | true => exact (Lead.blanks blank).reads digit
    | false =>
        by_cases empty : blanks = []
        · subst empty
          exact ⟨0, behind, .nothing ends sign digit⟩
        · exact ⟨0, behind, .digitFree (.blanks blank empty ends sign digit)⟩

/-! ### Writing a number

Every number has a numeral in each of the three notations. -/

/-- The character of a digit below 36. -/
def digitChar (upper : Bool) (digit : Nat) : UInt8 :=
  UInt8.ofNat (if digit < 10 then 0x30 + digit else (if upper then 0x41 else 0x61) + (digit - 10))

/-- The digits of a positive number, the most significant first. -/
def digitsOf (upper : Bool) (base number : Nat) : List UInt8 :=
  ((Nat.digits base number).map (digitChar upper)).reverse

theorem digitValue_digitChar (upper : Bool) {digit : Nat} (small : digit < 16) :
    digitValue (digitChar upper digit) = some digit := by
  have all : ∀ upper : Bool, ∀ digit : Fin 16,
      digitValue (digitChar upper digit) = some digit.val := by decide
  exact all upper ⟨digit, small⟩

section Positional

variable {base : Nat}

theorem isDigitOf_digitsOf (upper : Bool) (two : 2 ≤ base) (hex : base ≤ 16) (number : Nat) :
    ∀ c ∈ digitsOf upper base number, isDigitOf base c = true := by
  intro c member
  obtain ⟨digit, digits, rfl⟩ := List.mem_map.mp (List.mem_reverse.mp member)
  have small := Nat.digits_lt_base two digits
  simpa [isDigitOf, digitValue_digitChar upper (Nat.lt_of_lt_of_le small hex)] using small

theorem valueOf_digitsOf (upper : Bool) (two : 2 ≤ base) (hex : base ≤ 16) (number : Nat) :
    valueOf base (digitsOf upper base number) = number := by
  have back : (Nat.digits base number).map (digitOf ∘ digitChar upper) =
      (Nat.digits base number).map id := by
    apply List.map_congr_left
    intro digit member
    have small := Nat.lt_of_lt_of_le (Nat.digits_lt_base two member) hex
    simp [digitOf, digitValue_digitChar upper small]
  rw [valueOf, digitsOf, List.map_reverse, List.reverse_reverse, List.map_map, back, List.map_id,
    Nat.ofDigits_digits]

/-- A positive number does not start with a zero. -/
theorem digitsOf_head (upper : Bool) (two : 2 ≤ base) (hex : base ≤ 16) {number : Nat}
    (positive : number ≠ 0) :
    ∃ c digits, digitsOf upper base number = c :: digits ∧ c ≠ 0x30 := by
  have some_digits : Nat.digits base number ≠ [] := Nat.digits_ne_nil_iff_ne_zero.mpr positive
  have last := Nat.getLast_digit_ne_zero base positive
  have small := Nat.lt_of_lt_of_le
    (Nat.digits_lt_base two (List.getLast_mem some_digits)) hex
  refine ⟨digitChar upper ((Nat.digits base number).getLast some_digits),
    ((Nat.digits base number).dropLast.map (digitChar upper)).reverse, ?_, ?_⟩
  · rw [digitsOf]
    conv => lhs; rw [← List.dropLast_append_getLast some_digits]
    rw [List.map_append, List.reverse_append]
    rfl
  · intro zero
    have value := digitValue_digitChar upper small
    rw [zero] at value
    exact last (Option.some.inj value).symm

end Positional

/-- The decimal digits of a number, at least one. -/
def decimalDigits (number : Nat) : List UInt8 :=
  if number = 0 then [0x30] else digitsOf false 10 number

/-- A positive number is read in base ten; the numeral of zero is octal. -/
theorem numeral_decimal (number : Nat) : ∃ base, Numeral base (decimalDigits number) number := by
  by_cases zero : number = 0
  · subst zero
    exact ⟨8, @Numeral.octal [] (by simp)⟩
  · obtain ⟨c, digits, text, head⟩ := @digitsOf_head 10 false (by decide) (by decide) _ zero
    have all := @isDigitOf_digitsOf 10 false (by decide) (by decide) number
    have value := @valueOf_digitsOf 10 false (by decide) (by decide) number
    have decimal := Numeral.decimal head (text ▸ all)
    rw [← text, value] at decimal
    refine ⟨10, ?_⟩
    rwa [decimalDigits, if_neg zero]

theorem numeral_octal (number : Nat) : Numeral 8 (0x30 :: digitsOf false 8 number) number := by
  have value := @valueOf_digitsOf 8 false (by decide) (by decide) number
  have octal := Numeral.octal (@isDigitOf_digitsOf 8 false (by decide) (by decide) number)
  rwa [value] at octal

/-- The hexadecimal digits of a number, at least one. -/
def hexDigits (upper : Bool) (number : Nat) : List UInt8 :=
  if number = 0 then [0x30] else digitsOf upper 16 number

theorem numeral_hex {x : UInt8} (marks : x = 0x78 ∨ x = 0x58) (upper : Bool) (number : Nat) :
    Numeral 16 (0x30 :: x :: hexDigits upper number) number := by
  by_cases zero : number = 0
  · subst zero
    have digit : isDigitOf 16 0x30 = true := by decide
    exact .hex marks (List.cons_ne_nil 0x30 []) (by simpa [hexDigits] using digit)
  · obtain ⟨c, digits, text, _⟩ := @digitsOf_head 16 upper (by decide) (by decide) _ zero
    have some_digits : digitsOf upper 16 number ≠ [] := by simp [text]
    have value := @valueOf_digitsOf 16 upper (by decide) (by decide) number
    have hex := Numeral.hex marks some_digits
      (@isDigitOf_digitsOf 16 upper (by decide) (by decide) number)
    rw [value] at hex
    rwa [hexDigits, if_neg zero]

end Mp257Fsbl.Utils
