/-
Module: Mp257Fsbl.Printf.Standard
Purpose: The integer conversions against the C standard: for which fields and
  values the two print the same.
Trusted boundary: human-reviewed statement of the standard's d, i, u, x, X and o
Main exports: IntField, standardInteger, NumberFits, OmittedFits,
  Conversion.standardField, conversion_standard_iff
-/
import Mp257Fsbl.Printf.Directive
import Mp257Fsbl.Printf.Integer

namespace Mp257Fsbl.Printf

/-! ### The standard -/

/-- The fields of an integer conversion. -/
structure IntField where
  left : Bool
  zeropad : Bool
  plus : Bool
  space : Bool
  hash : Bool
  width : UInt32
  precision : Option UInt32
  length : Length

/-- The bits of the type that the length field names. -/
def Length.bits : Length → Nat
  | .none => 32
  | .once .h => 16
  | .hh => 8
  | _ => 64

/-- The value and whether it is negative. -/
def standardValue (spec : Specifier) (length : Length) (w : UInt64) : Bool × Nat :=
  if spec.isSigned then
    let value := (w.toBitVec.setWidth length.bits).toInt
    (value < 0, value.natAbs)
  else (false, w.toNat % 2 ^ length.bits)

/-- At least as many digits as the precision, which is one where there is none. -/
def standardDigits (base : Nat) (uppercase : Bool) (precision : Option UInt32) (value : Nat) :
    List UInt8 :=
  let natural := naturalDigits base uppercase value
  zeros ((precision.map UInt32.toNat).getD 1 - natural.length) ++ natural

namespace IntField

variable (field : IntField)

def standardSign (signed negative : Bool) : List UInt8 :=
  if ¬ signed then []
  else if negative then [0x2D]
  else if field.plus then [0x2B]
  else if field.space then [0x20]
  else []

/-- `0x` in front of a value that is not zero. -/
def standardPrefix (spec : Specifier) (value : Nat) : List UInt8 :=
  if field.hash ∧ spec.base = 16 ∧ value ≠ 0 then [0x30, if spec = .X then 0x58 else 0x78] else []

/-- The first octal digit is made a zero. -/
def octalZero (spec : Specifier) (digits : List UInt8) : List UInt8 :=
  if field.hash ∧ spec.base = 8 ∧ digits.head? ≠ some 0x30 then 0x30 :: digits else digits

end IntField

/-- What the standard prints for a value, or for the negative of it. -/
def standardNumber (spec : Specifier) (field : IntField) (negative : Bool) (value : Nat) :
    List UInt8 :=
  let sign := field.standardSign spec.isSigned negative
  let mark := field.standardPrefix spec value
  let digits := field.octalZero spec (standardDigits spec.base (spec == .X) field.precision value)
  let room := field.width.toNat - (sign ++ (mark ++ digits)).length
  if field.left then sign ++ (mark ++ digits) ++ blanks room
  else if field.zeropad ∧ field.precision = none then sign ++ (mark ++ (zeros room ++ digits))
  else blanks room ++ (sign ++ (mark ++ digits))

/-- What the standard prints for an argument. -/
def standardInteger (spec : Specifier) (field : IntField) (w : UInt64) : List UInt8 :=
  let value := standardValue spec field.length w
  standardNumber spec field value.1 value.2

/-- The conversions that are in the standard. -/
def Specifier.IsStandard (spec : Specifier) : Prop :=
  spec ∈ [Specifier.d, .i, .u, .x, .X, .o]

/-! ### The code -/

/-- The flags as the engine scans them. -/
def IntField.flags (field : IntField) : Flags :=
  { Flags.none with
    left := field.left
    zeropad := field.zeropad
    plus := field.plus
    space := field.space
    hash := field.hash
    precision := field.precision.isSome }.setLength field.length

def IntField.prec (field : IntField) : UInt32 := field.precision.getD 0

/-- What the engine prints for a value, or for the negative of it. -/
def codeNumber (spec : Specifier) (field : IntField) (negative : Bool) (value : Nat) : List UInt8 :=
  ntoaText value negative spec.base field.prec field.width (intFlags spec field.flags)

section

variable (flags : Flags) (length : Length)

@[simp] theorem setLength_left : (flags.setLength length).left = flags.left := by
  rcases length with _ | c | _ | _ <;> first | rfl | cases c <;> rfl

@[simp] theorem setLength_zeropad : (flags.setLength length).zeropad = flags.zeropad := by
  rcases length with _ | c | _ | _ <;> first | rfl | cases c <;> rfl

@[simp] theorem setLength_plus : (flags.setLength length).plus = flags.plus := by
  rcases length with _ | c | _ | _ <;> first | rfl | cases c <;> rfl

@[simp] theorem setLength_space : (flags.setLength length).space = flags.space := by
  rcases length with _ | c | _ | _ <;> first | rfl | cases c <;> rfl

@[simp] theorem setLength_hash : (flags.setLength length).hash = flags.hash := by
  rcases length with _ | c | _ | _ <;> first | rfl | cases c <;> rfl

@[simp] theorem setLength_uppercase : (flags.setLength length).uppercase = flags.uppercase := by
  rcases length with _ | c | _ | _ <;> first | rfl | cases c <;> rfl

@[simp] theorem setLength_precision : (flags.setLength length).precision = flags.precision := by
  rcases length with _ | c | _ | _ <;> first | rfl | cases c <;> rfl

end

/-- The digits that the standard and the code share. -/
def IntField.digits (spec : Specifier) (field : IntField) (value : Nat) : List UInt8 :=
  codeDigits spec.base (spec == .X) field.precision.isSome value

/-- The flags that `_ntoa_format` gets. -/
def numberFlags (spec : Specifier) (field : IntField) (value : Nat) : Flags :=
  let flags := intFlags spec field.flags
  if value = 0 then { flags with hash := false } else flags

section

variable {spec : Specifier} {field : IntField} {negative : Bool} {value : Nat}

theorem numberFlags_left : (numberFlags spec field value).left = field.left := by
  unfold numberFlags intFlags IntField.flags
  split <;> simp

theorem numberFlags_zeropad : (numberFlags spec field value).zeropad =
    (field.zeropad && field.precision.isNone) := by
  unfold numberFlags intFlags IntField.flags
  cases field.precision <;> split <;> simp

theorem numberFlags_precision :
    (numberFlags spec field value).precision = field.precision.isSome := by
  unfold numberFlags intFlags IntField.flags
  split <;> simp

theorem numberFlags_hash : (numberFlags spec field value).hash =
    (field.hash && spec.base != 10 && value != 0) := by
  unfold numberFlags intFlags IntField.flags
  by_cases zero : value = 0 <;> simp [zero]

theorem numberFlags_uppercase : (numberFlags spec field value).uppercase = (spec == .X) := by
  unfold numberFlags intFlags IntField.flags
  split <;> simp [Flags.none]

/-- The sign of the code is that of the standard. -/
theorem numberFlags_sign (unsigned : spec.isSigned = false → negative = false) :
    (signChar negative (numberFlags spec field value)).toList =
      field.standardSign spec.isSigned negative := by
  have plus : (numberFlags spec field value).plus = (field.plus && spec.isSigned) := by
    unfold numberFlags intFlags IntField.flags
    split <;> simp
  have space : (numberFlags spec field value).space = (field.space && spec.isSigned) := by
    unfold numberFlags intFlags IntField.flags
    split <;> simp
  unfold signChar IntField.standardSign
  rw [plus, space]
  cases signed : spec.isSigned with
  | false => simp [unsigned signed]
  | true => cases negative <;> cases field.plus <;> cases field.space <;> rfl

theorem Specifier.IsStandard.base_cases (standard : spec.IsStandard) :
    spec.base = 10 ∨ spec.base = 16 ∨ spec.base = 8 := by
  cases spec with
  | b => simp [Specifier.IsStandard] at standard
  | x => exact .inr (.inl rfl)
  | X => exact .inr (.inl rfl)
  | o => exact .inr (.inr rfl)
  | _ => exact .inl rfl

theorem digits_length_le' (standard : spec.IsStandard) (fits : value < 2 ^ 64) :
    (field.digits spec value).length ≤ 22 := by
  apply codeDigits_length_le _ _ _ fits
  rcases standard.base_cases with base | base | base <;> omega

theorem ink_digits (standard : spec.IsStandard) :
    ink (field.digits spec value) = (field.digits spec value).length := by
  have base : 2 ≤ spec.base ∧ spec.base ≤ 16 := by
    rcases standard.base_cases with base | base | base <;> omega
  exact ink_codeDigits _ _ _ base.1 base.2

theorem standardDigits_eq : standardDigits spec.base (spec == .X) field.precision value =
    zeros (field.prec.toNat - (field.digits spec value).length) ++ field.digits spec value := by
  unfold standardDigits IntField.digits codeDigits IntField.prec
  by_cases zero : value = 0
  · cases field.precision with
    | none => simp [zero, naturalDigits]
    | some prec => simp [zero, naturalDigits]
  · cases field.precision with
    | none =>
        have positive : 1 ≤ (naturalDigits spec.base (spec == .X) value).length := by
          unfold naturalDigits
          rw [List.length_reverse, List.length_map]
          exact List.length_pos_iff.mpr (Nat.digits_ne_nil_iff_ne_zero.mpr zero)
        simp [zero, Nat.sub_eq_zero_of_le positive]
    | some prec => simp [zero]

/-- The code's text, by what is in its buffer. -/
theorem codeNumber_eq (standard : spec.IsStandard) (fits : value < 2 ^ 64) :
    codeNumber spec field negative value =
      let flags := numberFlags spec field value
      let width := signWidth negative field.width flags
      let body := (ntoaBuffer (field.digits spec value).reverse negative spec.base field.prec.toNat
        width.toNat flags).reverse
      if ¬ field.left ∧ field.zeropad ∧ field.precision = none then body
      else fieldText field.left width.toNat body.length body := by
  have large : 8 ≤ spec.base := by rcases standard.base_cases with base | base | base <;> omega
  have uppercase : (intFlags spec field.flags).uppercase = (spec == .X) := by
    simp [intFlags, IntField.flags, Flags.none]
  have precision : (intFlags spec field.flags).precision = field.precision.isSome := by
    simp [intFlags, IntField.flags]
  have code : codeNumber spec field negative value =
      ntoaFormatText (field.digits spec value).reverse negative spec.base field.prec field.width
        (numberFlags spec field value) := by
    have found : (if ¬ (intFlags spec field.flags).precision ∨ value ≠ 0 then
        ntoaDigits spec.base (intFlags spec field.flags).uppercase ntoaBufferSize value else []) =
          (field.digits spec value).reverse := by
      rw [ntoa_digits _ _ _ large fits, uppercase, precision]
      rfl
    unfold codeNumber ntoaText
    rw [found]
    rfl
  rw [code]
  unfold ntoaFormatText
  dsimp only
  rw [revText, numberFlags_left, numberFlags_zeropad]
  unfold fieldText
  cases field.left with
  | true => simp [IntField.digits]
  | false => cases field.zeropad <;> cases field.precision <;> simp [IntField.digits]

/-- The standard's text, in the same shape. -/
theorem standardNumber_eq :
    standardNumber spec field negative value =
      let sign := field.standardSign spec.isSigned negative
      let mark := field.standardPrefix spec value
      let digits := field.octalZero spec
        (zeros (field.prec.toNat - (field.digits spec value).length) ++ field.digits spec value)
      let body := sign ++ (mark ++ digits)
      if ¬ field.left ∧ field.zeropad ∧ field.precision = none then
        sign ++ (mark ++ (zeros (field.width.toNat - body.length) ++ digits))
      else fieldText field.left field.width.toNat body.length body := by
  unfold standardNumber fieldText
  rw [standardDigits_eq]
  cases field.left with
  | true => simp
  | false => cases field.zeropad <;> cases field.precision <;> simp

/-! ### Without a prefix -/

/-- The precision and the width for which a conversion without a prefix is that of
the standard, for `len` digits. -/
def IntField.PlainFits (field : IntField) (sign : List UInt8) (len : Nat) : Prop :=
  if field.left then field.prec.toNat ≤ len
  else if field.zeropad ∧ field.precision = none then field.width.toNat ≤ 32
  else field.prec.toNat < 32 ∨
    field.prec.toNat = 32 ∧ (sign = [] ∨ sign = [0x20] ∧ 32 < field.width.toNat)

theorem ink_toList (sign : Option UInt8) :
    ink sign.toList = 0 ∧ (sign.toList = [] ∨ sign.toList = [0x20]) ∨
      ink sign.toList = 1 ∧ sign.toList.length = 1 := by
  cases sign with
  | none => exact .inl ⟨rfl, .inl rfl⟩
  | some c =>
      by_cases blank : c = 0x20
      · rw [blank]
        exact .inl ⟨rfl, .inr rfl⟩
      · exact .inr ⟨by simp [ink, blank], rfl⟩

/-- A blank in front of a text is one more blank of its field. -/
theorem fieldText_blank {width : Nat} (text : List UInt8) (room : text.length < width) :
    fieldText false width text.length text =
      fieldText false width ([0x20] ++ text).length ([0x20] ++ text) := by
  obtain ⟨left, rfl⟩ : ∃ left, width = text.length + 1 + left := Nat.exists_eq_add_of_le room
  have one : text.length + 1 + left - text.length = left + 1 := by omega
  have two : text.length + 1 + left - ([0x20] ++ text).length = left := by simp
  unfold fieldText
  rw [one, two, if_neg Bool.false_ne_true, if_neg Bool.false_ne_true, blanks, blanks,
    List.replicate_succ', List.append_assoc]

/-- Both texts in a field, without a prefix. -/
theorem field_plain_iff {digits : List UInt8} (inked : ink digits = digits.length)
    (few : digits.length ≤ 22) (sign : Option UInt8) (left : Bool) (prec width : Nat) :
    let count := if left then 0 else min prec 32 - digits.length
    let code := keptSign sign (count + digits.length) ++ (zeros count ++ digits)
    let standard := sign.toList ++ (zeros (prec - digits.length) ++ digits)
    fieldText left width code.length code = fieldText left width standard.length standard ↔
      if left then prec ≤ digits.length
      else prec < 32 ∨ prec = 32 ∧ (sign.toList = [] ∨ sign.toList = [0x20] ∧ 32 < width) := by
  intro count code standard
  constructor
  · intro same
    obtain ⟨inks, lengths⟩ := fieldText_inj same
    simp only [code, standard, ink_append, ink_zeros, inked, List.length_append, zeros_length]
      at inks lengths
    cases left with
    | true =>
        have kept : keptSign sign (0 + digits.length) = sign.toList := if_pos (by omega)
        simp only [count, if_true, kept] at inks ⊢
        omega
    | false =>
        simp only [count, Bool.false_eq_true, if_false] at inks lengths ⊢
        by_cases short : prec < 32
        · exact .inl short
        · have full : min prec 32 - digits.length + digits.length = 32 := by omega
          have dropped : keptSign sign (min prec 32 - digits.length + digits.length) = [] :=
            if_neg (by omega)
          rw [dropped] at inks lengths
          have nothing : ink [] = 0 := rfl
          rw [nothing] at inks
          have exact_prec : prec = 32 := by omega
          refine .inr ⟨exact_prec, ?_⟩
          rcases ink_toList sign with ⟨-, none | blank⟩ | ⟨inked, -⟩
          · exact .inl none
          · rw [blank] at lengths
            simp only [List.length_nil, List.length_singleton] at lengths
            exact .inr ⟨blank, by omega⟩
          · omega
  · intro fits
    cases left with
    | true =>
        have none : prec - digits.length = 0 := Nat.sub_eq_zero_of_le (by simpa using fits)
        have kept : keptSign sign digits.length = sign.toList := if_pos (by omega)
        simp [code, standard, count, none, kept]
    | false =>
        simp only [Bool.false_eq_true, if_false] at fits
        rcases fits with short | ⟨rfl, fits⟩
        · have counted : min prec 32 - digits.length = prec - digits.length := by omega
          have kept : keptSign sign (prec - digits.length + digits.length) = sign.toList :=
            if_pos (by omega)
          simp [code, standard, count, counted, kept]
        · have dropped : keptSign sign (32 - digits.length + digits.length) = [] :=
            if_neg (by omega)
          rcases fits with none | ⟨blank, room⟩
          · simp [code, standard, count, dropped, none]
          · have long : (zeros (32 - digits.length) ++ digits).length = 32 := by
              simp only [List.length_append, zeros_length]
              omega
            have moved := @fieldText_blank width (zeros (32 - digits.length) ++ digits) (by omega)
            simp only [code, standard, count, Bool.false_eq_true, if_false, Nat.min_self, dropped,
              blank, List.nil_append]
            exact moved

/-- Both texts padded with zeros, without a prefix. -/
theorem zeropad_plain_iff {digits : List UInt8} (few : digits.length ≤ 22) (sign : Option UInt8)
    (width : Nat) :
    let narrow := if sign.isSome then width - 1 else width
    let count := max (min 0 32) (min narrow 32) - digits.length
    let code := keptSign sign (count + digits.length) ++ (zeros count ++ digits)
    let body := sign.toList ++ digits
    code = sign.toList ++ (zeros (width - body.length) ++ digits) ↔ width ≤ 32 := by
  intro narrow count code body
  constructor
  · intro same
    have lengths := congrArg List.length same
    simp only [code, body, List.length_append, zeros_length] at lengths
    by_contra wide
    have dropped : keptSign sign (count + digits.length) = [] := if_neg (by
      simp only [count, narrow]
      split <;> omega)
    rw [dropped] at lengths
    cases sign with
    | none =>
        simp [count, narrow] at lengths
        omega
    | some c =>
        simp [count, narrow] at lengths
        omega
  · intro fits
    cases sign with
    | none =>
        have counted : min width 32 - digits.length = width - digits.length := by omega
        simp [code, body, count, narrow, counted, keptSign]
    | some c =>
        have counted : count = width - (1 + digits.length) := by
          simp only [count, narrow, Option.isSome_some, if_true]
          omega
        have kept : keptSign (some c) (count + digits.length) = [c] := if_pos (by omega)
        have room : width - body.length = count := by
          simp only [body, Option.toList_some, List.length_append, List.length_singleton]
          omega
        simp only [code, kept, room, Option.toList_some]

theorem signChar_isSome (negative : Bool) (flags : Flags) :
    (signChar negative flags).isSome = (negative || flags.plus || flags.space) := by
  unfold signChar
  cases negative <;> cases flags.plus <;> cases flags.space <;> rfl

/-- Where zeros fill the field, a sign takes one place of it. -/
theorem signWidth_zeropad {flags : Flags} (right : flags.left = false)
    (zeropad : flags.zeropad = true) (width : UInt32) :
    (signWidth negative width flags).toNat =
      if (signChar negative flags).isSome then width.toNat - 1 else width.toNat := by
  unfold signWidth
  rw [signChar_isSome]
  by_cases none : width = 0
  · simp [none]
  · have some_room : 0 < width.toNat := by
      rw [Nat.pos_iff_ne_zero, ne_eq, ← UInt32.toNat_zero, UInt32.toNat_inj]
      exact none
    have one : (width - 1).toNat = width.toNat - 1 :=
      UInt32.toNat_sub_of_le width 1 (UInt32.le_iff_toNat_le.mpr some_room)
    cases negative <;> cases flags.plus <;> cases flags.space <;> simp [right, zeropad, none, one]

theorem signWidth_field {flags : Flags} (field : flags.left = true ∨ flags.zeropad = false)
    (width : UInt32) : signWidth negative width flags = width := by
  unfold signWidth
  rcases field with left | blank
  · simp [left]
  · simp [blank]

theorem octalZero_of_zero (more : ¬ (field.hash = true ∧ spec.base = 8 ∧ value = 0 ∧
      field.precision = some 0))
    (plain : ¬ (field.hash = true ∧ spec.base ≠ 10 ∧ value ≠ 0)) :
    let digits := zeros (field.prec.toNat - (field.digits spec value).length) ++
      field.digits spec value
    field.octalZero spec digits = digits := by
  intro digits
  unfold IntField.octalZero
  by_cases octal : field.hash = true ∧ spec.base = 8
  · have zero : value = 0 := by
      by_contra nonzero
      exact plain ⟨octal.1, by rw [octal.2]; decide, nonzero⟩
    have first : digits.head? = some 0x30 := by
      simp only [digits, IntField.digits, IntField.prec, codeDigits, zero, if_true]
      cases found : field.precision with
      | none => rfl
      | some prec =>
          have some_zero : prec.toNat ≠ 0 := by
            intro none
            have none : prec = 0 := UInt32.toNat_inj.mp none
            exact more ⟨octal.1, octal.2, zero, by rw [found, none]⟩
          obtain ⟨n, count⟩ := Nat.exists_eq_succ_of_ne_zero some_zero
          simp [count, zeros, List.replicate_succ]
    simp [first]
  · rw [if_neg (fun all => octal ⟨all.1, all.2.1⟩)]

/-- A conversion without a prefix. -/
theorem number_plain_iff (standard : spec.IsStandard) (fits : value < 2 ^ 64)
    (unsigned : spec.isSigned = false → negative = false)
    (plain : ¬ (field.hash = true ∧ spec.base ≠ 10 ∧ value ≠ 0))
    (more : ¬ (field.hash = true ∧ spec.base = 8 ∧ value = 0 ∧ field.precision = some 0)) :
    codeNumber spec field negative value = standardNumber spec field negative value ↔
      field.PlainFits (field.standardSign spec.isSigned negative)
        (field.digits spec value).length := by
  have hash : (numberFlags spec field value).hash = false := by
    rw [numberFlags_hash]
    by_contra marked
    simp only [Bool.not_eq_false, Bool.and_eq_true, bne_iff_ne] at marked
    exact plain ⟨marked.1.1, marked.1.2, marked.2⟩
  have mark : field.standardPrefix spec value = [] :=
    if_neg fun all => plain ⟨all.1, by rw [all.2.1]; decide, all.2.2⟩
  have few : (field.digits spec value).length ≤ 22 := digits_length_le' standard fits
  rw [codeNumber_eq standard fits, standardNumber_eq]
  dsimp only
  have sign : (signChar negative (numberFlags spec field value)).toList =
      field.standardSign spec.isSigned negative := numberFlags_sign unsigned
  rw [ntoaBuffer_plain hash, octalZero_of_zero more plain, mark, ← sign]
  simp only [padCount, numberFlags_left, numberFlags_zeropad, List.nil_append]
  unfold IntField.PlainFits
  by_cases zeroes : ¬ field.left = true ∧ field.zeropad = true ∧ field.precision = none
  · obtain ⟨notLeft, zeropad, none⟩ := zeroes
    have right : (numberFlags spec field value).left = false := by
      rw [numberFlags_left]
      simpa using notLeft
    have zeroes : (numberFlags spec field value).zeropad = true := by
      rw [numberFlags_zeropad, zeropad, none]
      rfl
    have prec : field.prec.toNat = 0 := by simp [IntField.prec, none]
    simp only [notLeft, zeropad, none, prec, signWidth_zeropad right zeroes]
    simpa using zeropad_plain_iff few (signChar negative (numberFlags spec field value))
      field.width.toNat
  · have blank : field.left = true ∨ (field.zeropad && field.precision.isNone) = false := by
      cases left : field.left <;> cases zeropad : field.zeropad <;>
        cases precision : field.precision <;> simp_all
    have width : signWidth negative field.width (numberFlags spec field value) = field.width := by
      apply signWidth_field
      rwa [numberFlags_left, numberFlags_zeropad]
    have both := field_plain_iff (ink_digits standard) few
      (signChar negative (numberFlags spec field value)) field.left field.prec.toNat
      field.width.toNat
    rw [width, if_neg zeroes, if_neg zeroes]
    rcases blank with left | blank
    · simpa [left] using both
    · cases left : field.left with
      | true => simpa [left] using both
      | false =>
          have narrow : ¬ (field.zeropad = true ∧ field.precision = none) :=
            fun all => zeroes ⟨by simp [left], all⟩
          simpa [left, blank, narrow] using both

/-! ### With a prefix -/

/-- The whole prefix of a base. -/
def markOf (base : Nat) (uppercase : Bool) : List UInt8 :=
  if base = 16 then [0x30, if uppercase then 0x58 else 0x78] else [0x30]

theorem markOf_length (base : Nat) (uppercase : Bool) :
    (markOf base uppercase).length = if base = 16 then 2 else 1 := by
  unfold markOf
  split <;> rfl

theorem keptPrefix_room {base : Nat} {uppercase : Bool} {len : Nat}
    (room : len + (markOf base uppercase).length ≤ 32) :
    keptPrefix base uppercase len = markOf base uppercase := by
  rw [markOf_length] at room
  unfold keptPrefix markOf
  by_cases hex : base = 16
  · rw [if_pos hex] at room
    rw [if_pos hex, if_pos hex, if_pos (by omega), if_pos (by omega)]
    rfl
  · rw [if_neg hex] at room
    rw [if_neg hex, if_neg hex, if_pos (by omega)]

theorem keptPrefix_length_le (base : Nat) (uppercase : Bool) (len : Nat) :
    (keptPrefix base uppercase len).length ≤ (markOf base uppercase).length := by
  unfold keptPrefix markOf
  split
  · rw [List.length_append]
    split <;> split <;> simp
  · split <;> simp

/-- A prefix in front of a long text is cut. -/
theorem keptPrefix_length_add (base : Nat) (uppercase : Bool) {len : Nat} (long : 31 ≤ len)
    (fits : len ≤ 32) : (keptPrefix base uppercase len).length + len ≤ 32 := by
  have two : ¬ len + 1 < 32 := by omega
  unfold keptPrefix
  rw [if_neg two]
  split <;> split <;> simp <;> omega

theorem ink_markOf (base : Nat) (uppercase : Bool) :
    ink (markOf base uppercase) = (markOf base uppercase).length := by
  unfold markOf
  split
  · cases uppercase <;> rfl
  · rfl

/-- `0x` in a field, with a precision. -/
theorem field_hex_iff {digits : List UInt8} (inked : ink digits = digits.length)
    (few : digits.length ≤ 22) (uppercase left : Bool) (prec width : Nat) :
    let count := if left then 0 else min prec 32 - digits.length
    let code := keptPrefix 16 uppercase (count + digits.length) ++ (zeros count ++ digits)
    let standard := markOf 16 uppercase ++ (zeros (prec - digits.length) ++ digits)
    fieldText left width code.length code = fieldText left width standard.length standard ↔
      if left then prec ≤ digits.length else prec ≤ 30 := by
  intro count code standard
  have marks : (markOf 16 uppercase).length = 2 := rfl
  constructor
  · intro same
    have inks := (fieldText_inj same).1
    have code_le := ink_le (keptPrefix 16 uppercase (count + digits.length))
    have kept_le := keptPrefix_length_le 16 uppercase (count + digits.length)
    simp only [code, standard, ink_append, ink_zeros, inked, ink_markOf, marks] at inks
    cases left with
    | true =>
        simp only [count, if_true] at inks code_le kept_le ⊢
        omega
    | false =>
        simp only [count, Bool.false_eq_true, if_false] at inks code_le kept_le ⊢
        by_contra long
        have cut := keptPrefix_length_add 16 uppercase
          (by omega : 31 ≤ min prec 32 - digits.length + digits.length) (by omega)
        omega
  · intro fits
    have counted : count = prec - digits.length := by
      cases left with
      | true =>
          simp only [if_true] at fits
          simp only [count, if_true]
          omega
      | false =>
          simp only [Bool.false_eq_true, if_false] at fits
          simp only [count, Bool.false_eq_true, if_false]
          omega
    have room : count + digits.length + 1 < 32 := by
      cases left with
      | true =>
          simp only [count, if_true]
          omega
      | false =>
          simp only [Bool.false_eq_true, if_false] at fits
          simp only [count, Bool.false_eq_true, if_false]
          omega
    have kept : keptPrefix 16 uppercase (count + digits.length) = markOf 16 uppercase :=
      keptPrefix_room (by omega)
    simp only [code, standard, kept, ← counted]

/-- A leading zero in a field, with a precision. -/
theorem field_octal_iff {digits : List UInt8} (inked : ink digits = digits.length)
    (few : digits.length ≤ 22) (uppercase left : Bool) (prec width : Nat) :
    let count := if left then 0 else min prec 32 - digits.length
    let code := keptPrefix 8 uppercase (count + digits.length) ++ (zeros count ++ digits)
    let standard := zeros (max 1 (prec - digits.length)) ++ digits
    fieldText left width code.length code = fieldText left width standard.length standard ↔
      if left then prec ≤ digits.length + 1 else prec ≤ digits.length ∨ prec = 32 := by
  intro count code standard
  have kept (len : Nat) : keptPrefix 8 uppercase len = zeros (if len < 32 then 1 else 0) := by
    unfold keptPrefix
    split
    · omega
    · split <;> rfl
  have joined : code = zeros ((if count + digits.length < 32 then 1 else 0) + count) ++ digits := by
    simp only [code, kept, zeros_add, List.append_assoc]
  rw [joined]
  have counts : (if count + digits.length < 32 then 1 else 0) + count =
      max 1 (prec - digits.length) ↔
        if left then prec ≤ digits.length + 1 else prec ≤ digits.length ∨ prec = 32 := by
    cases left with
    | true =>
        simp only [count, if_true]
        split <;> omega
    | false =>
        simp only [count, Bool.false_eq_true, if_false]
        split <;> omega
  rw [← counts]
  constructor
  · intro same
    have inks := (fieldText_inj same).1
    simpa only [standard, ink_append, ink_zeros, Nat.add_right_cancel_iff] using inks
  · intro same
    simp only [standard, same]

/-- What is stripped where there is no precision: digits that reach the width exactly. -/
theorem stripped_eq {flags : Flags} (none : flags.precision = false) {text : List UInt8}
    (some_digit : text.length ≠ 0) (base width : Nat) :
    stripped base 0 width flags text =
      if text.length = width then text.drop (if text.length ≠ 1 ∧ base = 16 then 2 else 1)
      else text := by
  unfold stripped
  by_cases reaches : text.length = width
  · rw [if_pos ⟨by simp [none], some_digit, .inr reaches⟩, if_pos reaches]
    split <;> rfl
  · have stays : ¬ (text.length = 0 ∨ text.length = width) := not_or.mpr ⟨some_digit, reaches⟩
    rw [if_neg (fun all => stays all.2.2), if_neg reaches]

/-- A prefix in a field, without a precision. -/
theorem field_strip_iff {flags : Flags} (none : flags.precision = false) {digits : List UInt8}
    (inked : ink digits = digits.length) (few : digits.length ≤ 22)
    (some_digit : digits.length ≠ 0) (base : Nat) (uppercase left : Bool) (width : Nat) :
    let text := stripped base 0 width flags digits
    let code := keptPrefix base uppercase text.length ++ text
    let standard := markOf base uppercase ++ digits
    fieldText left width code.length code = fieldText left width standard.length standard ↔
      width ≠ digits.length := by
  intro text code standard
  have text_eq : text = _ := stripped_eq none some_digit base width
  constructor
  · rintro same rfl
    rw [if_pos rfl] at text_eq
    have inks : ink code = ink standard := (fieldText_inj same).1
    have ink_standard : ink standard = (markOf base uppercase).length + digits.length := by
      simp only [standard, ink_append, inked, ink_markOf]
    have code_length : code.length = (keptPrefix base uppercase text.length).length + text.length :=
      List.length_append
    have shorter : text.length < digits.length := by
      rw [text_eq, List.length_drop]
      split <;> omega
    have code_le := ink_le code
    have kept_le := keptPrefix_length_le base uppercase text.length
    omega
  · intro other
    rw [if_neg (Ne.symm other)] at text_eq
    have kept : keptPrefix base uppercase digits.length = markOf base uppercase := by
      apply keptPrefix_room
      rw [markOf_length]
      split <;> omega
    simp only [code, standard, text_eq, kept]

/-- A prefix in a field that zeros fill. -/
theorem zeropad_strip_iff {flags : Flags} (none : flags.precision = false) {digits : List UInt8}
    (few : digits.length ≤ 22) (some_digit : digits.length ≠ 0) (base : Nat) (uppercase : Bool)
    (width : Nat) :
    let mark := markOf base uppercase
    let count := max (min 0 32) (min width 32) - digits.length
    let text := stripped base 0 width flags (zeros count ++ digits)
    let code := keptPrefix base uppercase text.length ++ text
    code = mark ++ (zeros (width - (mark ++ digits).length) ++ digits) ↔
      width < digits.length ∨ digits.length + mark.length ≤ width ∧ width ≤ 32 := by
  intro mark count text code
  have len : (zeros count ++ digits).length = max digits.length (min width 32) := by
    rw [List.length_append, zeros_length]
    omega
  have text_eq : text = _ := stripped_eq none (by omega) base width
  have marks : mark.length = if base = 16 then 2 else 1 := markOf_length base uppercase
  have code_length : code.length = (keptPrefix base uppercase text.length).length + text.length :=
    List.length_append
  have kept_le : (keptPrefix base uppercase text.length).length ≤ mark.length :=
    keptPrefix_length_le base uppercase text.length
  constructor
  · intro same
    have lengths := congrArg List.length same
    simp only [code_length, List.length_append, zeros_length] at lengths
    by_contra other
    obtain ⟨reaches, other⟩ := not_or.mp other
    by_cases wide : 32 < width
    · -- The buffer is full of digits, and the prefix has no room.
      rw [if_neg (by omega)] at text_eq
      have cut := keptPrefix_length_add base uppercase (by rw [text_eq]; omega : 31 ≤ text.length)
        (by rw [text_eq]; omega)
      rw [text_eq] at lengths cut
      omega
    · -- The zeros are fewer than what gives way to the prefix.
      rw [if_pos (by omega)] at text_eq
      have shorter : text.length < digits.length := by
        rw [text_eq, List.length_drop, len]
        split <;> split at marks <;> omega
      omega
  · rintro (narrow | ⟨room, fits⟩)
    · have counted : count = 0 := by omega
      have padded : width - (mark ++ digits).length = 0 := by
        rw [List.length_append]
        omega
      rw [if_neg (by omega), counted, zeros_zero, List.nil_append] at text_eq
      have kept : keptPrefix base uppercase digits.length = mark := by
        apply keptPrefix_room
        rw [markOf_length]
        split <;> omega
      simp only [code, text_eq, kept, padded, zeros_zero, List.nil_append]
    · -- As many zeros give way as the prefix has characters.
      have counted : count = mark.length + (width - (mark ++ digits).length) := by
        rw [List.length_append]
        omega
      have drops : (if (zeros count ++ digits).length ≠ 1 ∧ base = 16 then 2 else 1) =
          mark.length := by
        rw [marks]
        by_cases hex : base = 16
        · rw [if_pos hex] at marks
          rw [if_pos ⟨by omega, hex⟩, if_pos hex]
        · rw [if_neg (fun all => hex all.2), if_neg hex]
      rw [if_pos (by omega), drops, counted, zeros_add, List.append_assoc,
        List.drop_left' (zeros_length _)] at text_eq
      have kept : keptPrefix base uppercase text.length = mark := by
        apply keptPrefix_room
        rw [text_eq, List.length_append, zeros_length, List.length_append]
        show _ + mark.length ≤ 32
        omega
      simp only [code, kept]
      rw [text_eq]

/-- The precision and the width for which a conversion with a prefix is that of the
standard, for `len` digits. -/
def IntField.PrefixFits (field : IntField) (base len : Nat) : Prop :=
  if field.precision = none then
    if ¬ field.left ∧ field.zeropad then
      field.width.toNat < len ∨
        len + (if base = 16 then 2 else 1) ≤ field.width.toNat ∧ field.width.toNat ≤ 32
    else field.width.toNat ≠ len
  else if base = 16 then
    if field.left then field.prec.toNat ≤ len else field.prec.toNat ≤ 30
  else if field.left then field.prec.toNat ≤ len + 1
  else field.prec.toNat ≤ len ∨ field.prec.toNat = 32

theorem digitChar_ne_zero (uppercase : Bool) {digit : Nat} (small : digit < 16)
    (nonzero : digit ≠ 0) : digitChar uppercase digit ≠ 0x30 := by
  have all : ∀ uppercase, ∀ digit < 16, digit ≠ 0 → digitChar uppercase digit ≠ 0x30 := by decide
  exact all uppercase digit small nonzero

theorem digits_some (nonzero : value ≠ 0) : (field.digits spec value).length ≠ 0 := by
  unfold IntField.digits codeDigits naturalDigits
  rw [if_neg nonzero, List.length_reverse, List.length_map, ne_eq, List.length_eq_zero_iff]
  exact Nat.digits_ne_nil_iff_ne_zero.mpr nonzero

/-- The first digit of a value that is not zero is not a zero. -/
theorem digits_head (standard : spec.IsStandard) (nonzero : value ≠ 0) :
    (field.digits spec value).head? ≠ some 0x30 := by
  have some_digit : Nat.digits spec.base value ≠ [] := Nat.digits_ne_nil_iff_ne_zero.mpr nonzero
  have base : 1 < spec.base ∧ spec.base ≤ 16 := by
    rcases standard.base_cases with base | base | base <;> omega
  unfold IntField.digits codeDigits naturalDigits
  rw [if_neg nonzero, List.head?_reverse, List.getLast?_map,
    List.getLast?_eq_some_getLast some_digit, Option.map_some]
  have last := Nat.getLast_digit_ne_zero spec.base nonzero
  have small := Nat.digits_lt_base base.1 (List.getLast_mem some_digit)
  intro same
  exact digitChar_ne_zero _ (Nat.lt_of_lt_of_le small base.2) last (Option.some.inj same)

theorem octalZero_eq (standard : spec.IsStandard) (hash : field.hash = true) (octal : spec.base = 8)
    (nonzero : value ≠ 0) :
    field.octalZero spec
        (zeros (field.prec.toNat - (field.digits spec value).length) ++ field.digits spec value) =
      zeros (max 1 (field.prec.toNat - (field.digits spec value).length)) ++
        field.digits spec value := by
  unfold IntField.octalZero
  cases count : field.prec.toNat - (field.digits spec value).length with
  | zero =>
      have first := @digits_head spec field value standard nonzero
      rw [zeros_zero, List.nil_append, if_pos ⟨hash, octal, first⟩]
      rfl
  | succ n =>
      have first : (zeros (n + 1) ++ field.digits spec value).head? = some 0x30 := by
        simp [zeros, List.replicate_succ]
      have larger : max 1 (n + 1) = n + 1 := by omega
      rw [if_neg (fun all => all.2.2 first), larger]

theorem stripped_of_precision {flags : Flags} (precision : flags.precision = true)
    (base prec width : Nat) (text : List UInt8) : stripped base prec width flags text = text :=
  if_neg fun all => all.1 precision

theorem Specifier.IsStandard.unsigned (standard : spec.IsStandard) (known : spec.base ≠ 10) :
    spec.isSigned = false := by
  cases spec with
  | d => exact absurd rfl known
  | i => exact absurd rfl known
  | _ => rfl

/-- The standard's digits behind its prefix are those of the code behind its mark. -/
theorem standard_mark (standard : spec.IsStandard) (hash : field.hash = true)
    (known : spec.base ≠ 10) (nonzero : value ≠ 0) (none : field.prec.toNat = 0) :
    let digits := field.octalZero spec
      (zeros (field.prec.toNat - (field.digits spec value).length) ++ field.digits spec value)
    ∀ room, field.standardPrefix spec value ++ (zeros room ++ digits) =
      markOf spec.base (spec == .X) ++ (zeros room ++ field.digits spec value) := by
  intro digits room
  rcases standard.base_cases with base | hex | octal
  · exact absurd base known
  · have mark : field.standardPrefix spec value = markOf spec.base (spec == .X) := by
      unfold IntField.standardPrefix markOf
      rw [if_pos ⟨hash, hex, nonzero⟩, if_pos hex]
      cases spec <;> rfl
    have same : digits = field.digits spec value := by
      simp only [digits, IntField.octalZero, hex, none, Nat.zero_sub, zeros_zero, List.nil_append]
      exact if_neg fun all => absurd all.2.1 (by decide)
    rw [mark, same]
  · have mark : field.standardPrefix spec value = [] :=
      if_neg fun all => absurd (all.2.1.symm.trans octal) (by decide)
    have same : digits = zeros 1 ++ field.digits spec value := by
      simp only [digits, octalZero_eq standard hash octal nonzero, none, Nat.zero_sub]
      rfl
    have one : markOf spec.base (spec == .X) = zeros 1 := by
      rw [octal]
      rfl
    rw [mark, same, one, List.nil_append, ← List.append_assoc, ← List.append_assoc, ← zeros_add,
      ← zeros_add, Nat.add_comm]

/-- A conversion with a prefix. -/
theorem number_prefix_iff (standard : spec.IsStandard) (fits : value < 2 ^ 64)
    (hash : field.hash = true) (known : spec.base ≠ 10) (nonzero : value ≠ 0) :
    codeNumber spec field false value = standardNumber spec field false value ↔
      field.PrefixFits spec.base (field.digits spec value).length := by
  have flagged : (numberFlags spec field value).hash = true := by
    simp [numberFlags_hash, hash, known, nonzero]
  have unsigned := standard.unsigned known
  have empty : field.standardSign spec.isSigned false = [] := by
    simp [IntField.standardSign, unsigned]
  have sign : signChar false (numberFlags spec field value) = none := by
    have same : (signChar false (numberFlags spec field value)).toList = _ :=
      numberFlags_sign fun _ => rfl
    rw [empty] at same
    cases found : signChar false (numberFlags spec field value) with
    | none => rfl
    | some c => simp [found] at same
  have based : spec.base = 16 ∨ spec.base = 8 := by
    rcases standard.base_cases with base | hex | octal
    · exact absurd base known
    · exact .inl hex
    · exact .inr octal
  have few : (field.digits spec value).length ≤ 22 := digits_length_le' standard fits
  have some_digit : (field.digits spec value).length ≠ 0 := digits_some nonzero
  rw [codeNumber_eq standard fits, standardNumber_eq]
  dsimp only
  rw [ntoaBuffer_hashed flagged sign based, empty]
  simp only [numberFlags_uppercase, List.nil_append]
  unfold IntField.PrefixFits
  cases precision : field.precision with
  | none =>
      have unlimited : field.prec.toNat = 0 := by simp [IntField.prec, precision]
      have unset : (numberFlags spec field value).precision = false := by
        simp [numberFlags_precision, precision]
      have marked := standard_mark standard hash known nonzero unlimited
      have bare := marked 0
      rw [zeros_zero, List.nil_append, List.nil_append] at bare
      rw [bare, marked]
      by_cases zeroes : ¬ field.left = true ∧ field.zeropad = true
      · have right : (numberFlags spec field value).left = false := by
          rw [numberFlags_left]
          simpa using zeroes.1
        have zeropad : (numberFlags spec field value).zeropad = true := by
          rw [numberFlags_zeropad, zeroes.2, precision]
          rfl
        have width : (signWidth false field.width (numberFlags spec field value)).toNat =
            field.width.toNat := by
          rw [signWidth_zeropad right zeropad, sign]
          rfl
        have both := zeropad_strip_iff unset few some_digit spec.base (spec == .X)
          field.width.toNat
        simp only [padCount, right, zeropad, unlimited, width]
        simpa [zeroes, markOf_length] using both
      · have blank : field.left = true ∨ field.zeropad = false := by
          cases left : field.left <;> cases zeropad : field.zeropad <;> simp_all
        have width : signWidth false field.width (numberFlags spec field value) = field.width := by
          apply signWidth_field
          rw [numberFlags_left, numberFlags_zeropad, precision]
          simpa using blank
        have count : padCount (numberFlags spec field value) 0 field.width.toNat
            (field.digits spec value).length = 0 := by
          unfold padCount
          rw [numberFlags_left, numberFlags_zeropad, precision]
          rcases blank with left | right
          · simp [left]
          · simp [right]
        have both := field_strip_iff unset (ink_digits standard) few some_digit spec.base
          (spec == .X) field.left field.width.toNat
        rw [width, unlimited, count, if_neg (fun all => zeroes ⟨all.1, all.2.1⟩),
          if_neg (fun all => zeroes ⟨all.1, all.2.1⟩), zeros_zero, List.nil_append, if_pos rfl,
          if_neg zeroes]
        exact both
  | some prec =>
      have apart : (some prec : Option UInt32) ≠ none := Option.some_ne_none prec
      have width : signWidth false field.width (numberFlags spec field value) = field.width := by
        apply signWidth_field
        rw [numberFlags_zeropad, precision]
        simp
      have set : (numberFlags spec field value).precision = true := by
        simp [numberFlags_precision, precision]
      have count : padCount (numberFlags spec field value) field.prec.toNat field.width.toNat
          (field.digits spec value).length =
            if field.left then 0
            else min field.prec.toNat 32 - (field.digits spec value).length := by
        unfold padCount
        rw [numberFlags_left, numberFlags_zeropad, precision]
        simp
      rw [width, stripped_of_precision set, if_neg (fun all => apart all.2.2),
        if_neg (fun all => apart all.2.2), count, if_neg apart]
      rcases based with hex | octal
      · have mark : field.standardPrefix spec value = markOf 16 (spec == .X) := by
          unfold IntField.standardPrefix markOf
          rw [if_pos ⟨hash, hex, nonzero⟩, if_pos rfl]
          cases spec <;> rfl
        have digits (text : List UInt8) : field.octalZero spec text = text :=
          if_neg fun all => absurd (hex.symm.trans all.2.1) (by decide)
        have both := field_hex_iff (ink_digits standard) few (spec == .X) field.left
          field.prec.toNat field.width.toNat
        rw [mark, digits, hex]
        simpa using both
      · have mark : field.standardPrefix spec value = [] :=
          if_neg fun all => absurd (all.2.1.symm.trans octal) (by decide)
        have both := field_octal_iff (ink_digits standard) few (spec == .X) field.left
          field.prec.toNat field.width.toNat
        rw [mark, octalZero_eq standard hash octal nonzero, octal, List.nil_append]
        simpa using both

/-! ### Every value -/

/-- `%#.0o` of zero: the standard prints a zero, the code nothing. -/
def IntField.OctalNothing (spec : Specifier) (field : IntField) (value : Nat) : Prop :=
  field.hash = true ∧ spec.base = 8 ∧ value = 0 ∧ field.precision = some 0

/-- With a precision of zero the code prints no zero for the value zero. -/
theorem zero_notMem_code (standard : spec.IsStandard) (precision : field.precision = some 0) :
    0x30 ∉ codeNumber spec field negative 0 := by
  have plain : (numberFlags spec field 0).hash = false := by simp [numberFlags_hash]
  have empty : field.digits spec 0 = [] := by simp [IntField.digits, codeDigits, precision]
  have limit : field.prec.toNat = 0 := by simp [IntField.prec, precision]
  have apart : (some 0 : Option UInt32) ≠ none := Option.some_ne_none 0
  have count : padCount (numberFlags spec field 0) 0
      (signWidth negative field.width (numberFlags spec field 0)).toNat ([] : List UInt8).length =
        0 := by
    unfold padCount
    rw [numberFlags_zeropad, precision]
    simp
  have sign (len : Nat) : 0x30 ∉ keptSign (signChar negative (numberFlags spec field 0)) len := by
    unfold keptSign signChar
    split
    · cases negative <;> cases (numberFlags spec field 0).plus <;>
        cases (numberFlags spec field 0).space <;> decide
    · decide
  have blank (n : Nat) : 0x30 ∉ blanks n :=
    fun member => absurd (List.eq_of_mem_replicate member) (by decide)
  rw [codeNumber_eq standard (by decide)]
  dsimp only
  rw [ntoaBuffer_plain plain, empty, limit, count, precision, if_neg (fun all => apart all.2.2),
    zeros_zero, List.append_nil, List.append_nil]
  unfold fieldText
  split
  · exact fun member => (List.mem_append.mp member).elim (sign _) (blank _)
  · exact fun member => (List.mem_append.mp member).elim (blank _) (sign _)

theorem octalNothing_differs (standard : spec.IsStandard)
    (nothing : field.OctalNothing spec value) :
    codeNumber spec field false value ≠ standardNumber spec field false value := by
  obtain ⟨hash, octal, rfl, precision⟩ := nothing
  have code := @zero_notMem_code spec field false standard precision
  intro same
  rw [same, standardNumber, precision] at code
  have digits : standardDigits spec.base (spec == .X) (some 0) 0 = [] := by
    simp [standardDigits, naturalDigits]
  have one : field.octalZero spec [] = [0x30] := if_pos ⟨hash, octal, by simp⟩
  have apart : ¬ (field.zeropad = true ∧ (some 0 : Option UInt32) = none) :=
    fun all => Option.some_ne_none 0 all.2
  rw [digits, one, if_neg apart] at code
  split at code <;> simp at code

/-- The precision and the width for which a conversion is that of the standard. -/
def IntField.NumberFits (spec : Specifier) (field : IntField) (negative : Bool) (value : Nat) :
    Prop :=
  if field.hash = true ∧ spec.base ≠ 10 ∧ value ≠ 0 then
    field.PrefixFits spec.base (field.digits spec value).length
  else
    ¬ field.OctalNothing spec value ∧
      field.PlainFits (field.standardSign spec.isSigned negative) (field.digits spec value).length

theorem number_standard_iff (standard : spec.IsStandard) (fits : value < 2 ^ 64)
    (unsigned : spec.isSigned = false → negative = false) :
    codeNumber spec field negative value = standardNumber spec field negative value ↔
      field.NumberFits spec negative value := by
  unfold IntField.NumberFits
  by_cases prefixed : field.hash = true ∧ spec.base ≠ 10 ∧ value ≠ 0
  · obtain ⟨hash, known, nonzero⟩ := prefixed
    rw [if_pos ⟨hash, known, nonzero⟩, unsigned (standard.unsigned known)]
    exact number_prefix_iff standard fits hash known nonzero
  · rw [if_neg prefixed]
    by_cases nothing : field.OctalNothing spec value
    · have known : spec.base ≠ 10 := by
        rw [nothing.2.1]
        decide
      rw [unsigned (standard.unsigned known)]
      exact iff_of_false (octalNothing_differs standard nothing) fun all => all.1 nothing
    · rw [number_plain_iff standard fits unsigned prefixed nothing]
      exact (and_iff_right nothing).symm

/-! ### A negative precision

The code takes it as zero, the standard as none at all. -/

/-- The same field without its precision. -/
def IntField.omitted (field : IntField) : IntField := { field with precision := none }

/-- Sign, prefix and digits of the standard, without what fills the field. -/
def IntField.bare (spec : Specifier) (field : IntField) (negative : Bool) (value : Nat) :
    List UInt8 :=
  field.standardSign spec.isSigned negative ++
    (field.standardPrefix spec value ++
      field.octalZero spec (standardDigits spec.base (spec == .X) field.precision value))

/-- Where a precision of zero prints what no precision does: some digit is left, and
no zeros were to fill the field. -/
def IntField.OmittedFits (spec : Specifier) (field : IntField) (negative : Bool) (value : Nat) :
    Prop :=
  value ≠ 0 ∧ (field.left = true ∨ field.zeropad = false ∨
    field.width.toNat ≤ (field.bare spec negative value).length)

/-- Without a precision the standard prints one. -/
theorem zero_mem_standard (none_ : field.precision = none) :
    0x30 ∈ standardNumber spec field negative 0 := by
  have digits : standardDigits spec.base (spec == .X) field.precision 0 = [0x30] := by
    rw [none_]
    simp [standardDigits, naturalDigits, zeros]
  have kept : field.octalZero spec [0x30] = [0x30] := if_neg fun all => all.2.2 rfl
  unfold standardNumber
  rw [digits, kept]
  dsimp only
  split
  · simp
  · split <;> simp

theorem standardDigits_omitted (base : Nat) (uppercase : Bool) (nonzero : value ≠ 0) :
    standardDigits base uppercase (some 0) value = standardDigits base uppercase none value := by
  have positive : 1 ≤ (naturalDigits base uppercase value).length := by
    unfold naturalDigits
    rw [List.length_reverse, List.length_map]
    exact List.length_pos_iff.mpr (Nat.digits_ne_nil_iff_ne_zero.mpr nonzero)
  simp [standardDigits, Nat.sub_eq_zero_of_le positive]

/-- Blanks in front of a text, or zeros inside of it. -/
theorem blanks_eq_zeros_iff (room : Nat) (front digits : List UInt8) :
    blanks room ++ (front ++ digits) = front ++ (zeros room ++ digits) ↔ room = 0 := by
  constructor
  · intro same
    have inks := congrArg ink same
    simp only [ink_append, ink_blanks, ink_zeros] at inks
    omega
  · rintro rfl
    rfl

theorem standardNumber_omitted_iff (zero : field.precision = some 0) (nonzero : value ≠ 0) :
    standardNumber spec field negative value = standardNumber spec field.omitted negative value ↔
      field.omitted.OmittedFits spec negative value := by
  have digits : standardDigits spec.base (spec == .X) field.precision value =
      standardDigits spec.base (spec == .X) field.omitted.precision value := by
    rw [zero]
    exact standardDigits_omitted _ _ nonzero
  have apart : ¬ (field.zeropad = true ∧ field.precision = none) :=
    fun all => absurd (zero.symm.trans all.2) (Option.some_ne_none 0)
  unfold IntField.OmittedFits standardNumber
  rw [digits]
  dsimp only
  rw [if_neg apart]
  by_cases left : field.left = true
  · have left' : field.omitted.left = true := left
    rw [if_pos left, if_pos left']
    exact iff_of_true rfl ⟨nonzero, .inl left'⟩
  · have left' : ¬ field.omitted.left = true := left
    rw [if_neg left, if_neg left']
    by_cases zeropad : field.zeropad = true
    · have filled : field.omitted.zeropad = true ∧ field.omitted.precision = none := ⟨zeropad, rfl⟩
      have room := blanks_eq_zeros_iff
        (field.omitted.width.toNat - (field.omitted.bare spec negative value).length)
        (field.omitted.standardSign spec.isSigned negative ++
          field.omitted.standardPrefix spec value)
        (field.omitted.octalZero spec
          (standardDigits spec.base (spec == .X) field.omitted.precision value))
      rw [if_pos filled]
      simp only [List.append_assoc] at room
      refine room.trans ?_
      rw [Nat.sub_eq_zero_iff_le]
      simp [nonzero, left', filled.1]
    · have blank : field.omitted.zeropad = false := (Bool.not_eq_true _).mp zeropad
      rw [if_neg (fun all => zeropad all.1)]
      exact iff_of_true rfl ⟨nonzero, .inr (.inl blank)⟩

/-- Where the precision is negative, exactly these numbers print what the standard
says. -/
theorem number_omitted_iff (standard : spec.IsStandard) (fits : value < 2 ^ 64)
    (unsigned : spec.isSigned = false → negative = false) (zero : field.precision = some 0) :
    codeNumber spec field negative value = standardNumber spec field.omitted negative value ↔
      field.omitted.OmittedFits spec negative value := by
  by_cases nonzero : value = 0
  · refine iff_of_false (fun same => ?_) fun all => all.1 nonzero
    subst nonzero
    have code := @zero_notMem_code spec field negative standard zero
    rw [same] at code
    exact code (zero_mem_standard rfl)
  · have limit : field.prec.toNat = 0 := by simp [IntField.prec, zero]
    have apart : (some 0 : Option UInt32) ≠ none := Option.some_ne_none 0
    have agrees : field.NumberFits spec negative value := by
      unfold IntField.NumberFits
      split
      · unfold IntField.PrefixFits
        rw [zero, if_neg apart, limit]
        split
        · split <;> exact Nat.zero_le _
        · split
          · exact Nat.zero_le _
          · exact .inl (Nat.zero_le _)
      · refine ⟨fun nothing => nonzero nothing.2.2.1, ?_⟩
        unfold IntField.PlainFits
        rw [zero, limit]
        split
        · exact Nat.zero_le _
        · rw [if_neg (fun all => apart all.2)]
          exact .inl (by decide)
    rw [(number_standard_iff standard fits unsigned).mpr agrees]
    exact standardNumber_omitted_iff zero nonzero

/-! ### Every argument -/

/-- The value as the code reads it, and whether it is negative. -/
def codeValue (spec : Specifier) (field : IntField) (w : UInt64) : Bool × Nat :=
  if spec.isSigned then
    (signedArg field.flags w < 0, (signedArg field.flags w).natAbs)
  else (false, unsignedArg field.flags w)

theorem integerText_eq (spec : Specifier) (field : IntField) (w : UInt64) :
    integerText spec field.flags field.width field.prec w =
      codeNumber spec field (codeValue spec field w).1 (codeValue spec field w).2 := by
  unfold integerText codeValue codeNumber
  cases spec.isSigned <;> simp

/-- A character type is read without its sign. -/
theorem signedArg_eq (field : IntField) (w : UInt64) :
    signedArg field.flags w =
      match field.length with
      | .hh => ((w.toBitVec.setWidth 8).toNat : Int)
      | length => (w.toBitVec.setWidth length.bits).toInt := by
  unfold signedArg IntField.flags
  rcases field.length with _ | c | _ | _
  · simp [Flags.setLength, Flags.none, Length.bits]
  · cases c <;> simp [Flags.setLength, Flags.none, Length.bits]
  · simp [Flags.setLength, Flags.none, Length.bits]
  · simp [Flags.setLength, Flags.none]

theorem unsignedArg_eq (field : IntField) (w : UInt64) :
    unsignedArg field.flags w = w.toNat % 2 ^ field.length.bits := by
  have whole : w.toNat % 2 ^ 64 = w.toNat := Nat.mod_eq_of_lt w.toNat_lt
  unfold unsignedArg IntField.flags
  rcases field.length with _ | c | _ | _
  · simp [Flags.setLength, Flags.none, Length.bits]
  · cases c <;> simp [Flags.setLength, Flags.none, Length.bits]
  · simp [Flags.setLength, Flags.none, Length.bits]
  · simp [Flags.setLength, Flags.none, Length.bits]

theorem natAbs_toInt_lt {n : Nat} (le : n ≤ 64) (x : BitVec n) : x.toInt.natAbs < 2 ^ 64 := by
  have small := x.isLt
  have bound : 2 ^ n ≤ 2 ^ 64 := Nat.pow_le_pow_right (by decide) le
  rw [BitVec.toInt_eq_toNat_cond]
  split <;> omega

theorem bits_le (length : Length) : length.bits ≤ 64 := by
  rcases length with _ | c | _ | _
  · decide
  · cases c <;> decide
  · decide
  · decide

theorem standardValue_lt (spec : Specifier) (length : Length) (w : UInt64) :
    (standardValue spec length w).2 < 2 ^ 64 := by
  unfold standardValue
  split
  · exact natAbs_toInt_lt (bits_le length) _
  · have bound : 2 ^ length.bits ≤ 2 ^ 64 := Nat.pow_le_pow_right (by decide) (bits_le length)
    exact Nat.lt_of_lt_of_le (Nat.mod_lt _ (Nat.two_pow_pos _)) bound

/-- A signed character whose top bit is set: negative for the standard only. -/
def CharTop (spec : Specifier) (length : Length) (w : UInt64) : Prop :=
  spec.isSigned = true ∧ (match length with | .hh => True | _ => False) ∧ 128 ≤ w.toNat % 256

theorem codeValue_eq {w : UInt64} (same : ¬ CharTop spec field.length w) :
    codeValue spec field w = standardValue spec field.length w := by
  unfold codeValue standardValue
  cases signed : spec.isSigned with
  | false => simp [unsignedArg_eq]
  | true =>
      have value : signedArg field.flags w = (w.toBitVec.setWidth field.length.bits).toInt := by
        rw [signedArg_eq]
        split
        · rename_i length
          have low : w.toNat % 256 < 128 := by
            by_contra top
            exact same ⟨signed, by simp [length], Nat.not_lt.mp top⟩
          have fits : 2 * (w.toBitVec.setWidth 8).toNat < 2 ^ 8 := by
            rw [BitVec.toNat_setWidth]
            exact (Nat.mul_lt_mul_left (by decide)).mpr low
          rw [length]
          exact (BitVec.toInt_eq_toNat_of_lt fits).symm
        · rfl
      simp [value]

theorem minus_mem_standard (signed : spec.isSigned = true) :
    0x2D ∈ standardNumber spec field true value := by
  have sign : field.standardSign spec.isSigned true = [0x2D] := by
    simp [IntField.standardSign, signed]
  rw [standardNumber_eq, sign]
  dsimp only
  split
  · exact List.mem_append_left _ List.mem_cons_self
  · unfold fieldText
    split <;> simp

theorem minus_notMem_digits (standard : spec.IsStandard) : 0x2D ∉ field.digits spec value := by
  have all : ∀ uppercase, ∀ digit < 16, digitChar uppercase digit ≠ 0x2D := by decide
  have base : 1 < spec.base ∧ spec.base ≤ 16 := by
    rcases standard.base_cases with base | base | base <;> omega
  unfold IntField.digits codeDigits
  split
  · split <;> decide
  · intro member
    obtain ⟨digit, inside, same⟩ := List.mem_map.mp (List.mem_reverse.mp member)
    have less := Nat.digits_lt_base base.1 inside
    exact all _ digit (Nat.lt_of_lt_of_le less base.2) same

theorem minus_notMem_code (standard : spec.IsStandard) (signed : spec.isSigned = true)
    (fits : value < 2 ^ 64) : 0x2D ∉ codeNumber spec field false value := by
  have plain : (numberFlags spec field value).hash = false := by
    cases spec <;> simp [Specifier.isSigned] at signed <;> simp [numberFlags_hash, Specifier.base]
  have sign (len : Nat) : 0x2D ∉ keptSign (signChar false (numberFlags spec field value)) len := by
    unfold keptSign signChar
    split
    · cases (numberFlags spec field value).plus <;>
        cases (numberFlags spec field value).space <;> decide
    · decide
  have body (count : Nat) (len : Nat) :
      0x2D ∉ keptSign (signChar false (numberFlags spec field value)) len ++
        (zeros count ++ field.digits spec value) := by
    simp only [List.mem_append, not_or]
    refine ⟨sign len, ?_, minus_notMem_digits standard⟩
    exact fun member => absurd (List.eq_of_mem_replicate member) (by decide)
  have blank (n : Nat) : 0x2D ∉ blanks n :=
    fun member => absurd (List.eq_of_mem_replicate member) (by decide)
  rw [codeNumber_eq standard fits]
  dsimp only
  rw [ntoaBuffer_plain plain]
  split
  · exact body _ _
  · unfold fieldText
    split
    · exact fun member => (List.mem_append.mp member).elim (body _ _) (blank _)
    · exact fun member => (List.mem_append.mp member).elim (blank _) (body _ _)

/-- Where numbers print what the standard says of `other` exactly if they fit,
arguments do exactly if their value fits and the code reads it as the standard. -/
theorem integerText_agrees_iff (standard : spec.IsStandard) (w : UInt64) {other : IntField}
    {length : Length} (here : field.length = length) (there : other.length = length)
    (Fits : Bool → Nat → Prop)
    (numbers : ∀ negative value, value < 2 ^ 64 → (spec.isSigned = false → negative = false) →
      (codeNumber spec field negative value = standardNumber spec other negative value ↔
        Fits negative value)) :
    integerText spec field.flags field.width field.prec w = standardInteger spec other w ↔
      ¬ CharTop spec length w ∧
        Fits (standardValue spec length w).1 (standardValue spec length w).2 := by
  rw [integerText_eq, standardInteger, there, ← here]
  by_cases top : CharTop spec field.length w
  · -- Only the standard's text has a minus sign in it.
    have value : (w.toBitVec.setWidth 8).toNat = w.toNat % 256 := BitVec.toNat_setWidth 8 w.toBitVec
    obtain ⟨signed, short, high⟩ := top
    have short_length : field.length = .hh := by
      cases found : field.length with
      | hh => rfl
      | _ => simp [found] at short
    have positive : (codeValue spec field w).1 = false := by
      unfold codeValue
      rw [signedArg_eq, short_length, if_pos signed]
      simp only [decide_eq_false_iff_not, not_lt]
      exact Int.natCast_nonneg _
    have fits : (codeValue spec field w).2 < 2 ^ 64 := by
      unfold codeValue
      rw [signedArg_eq, short_length, if_pos signed]
      simp only [Int.natAbs_natCast, value]
      omega
    have negative : (standardValue spec field.length w).1 = true := by
      have below : (w.toBitVec.setWidth 8).toInt < 0 := by
        rw [BitVec.toInt_eq_toNat_cond, value, if_neg (by omega)]
        omega
      unfold standardValue
      rw [short_length, if_pos signed]
      exact decide_eq_true below
    have code := @minus_notMem_code spec field _ standard signed fits
    have minus := @minus_mem_standard spec other (standardValue spec field.length w).2 signed
    rw [positive, negative]
    refine iff_of_false (fun same => code ?_) fun all => all.1 ⟨signed, short, high⟩
    rw [same]
    exact minus
  · have unsigned (plain : spec.isSigned = false) :
        (standardValue spec field.length w).1 = false := by
      simp [standardValue, plain]
    rw [codeValue_eq top, numbers _ _ (standardValue_lt _ _ _) unsigned]
    exact (and_iff_right top).symm

end

/-! ### Conversions in a format -/

/-- The number that digits write. -/
def decimalValue (ds : List UInt8) : Nat := ds.foldl (fun n c => n * 10 + (c - 0x30).toNat) 0

/-- The number of a width or precision field, if there is one, and the arguments that
are left. Digits that write more than 32 bits hold have no meaning. -/
def fieldNumber : Option Number → List Arg → Option (Option Int × List Arg)
  | none, va => some (none, va)
  | some (.digits ds), va =>
      if decimalValue ds < 2 ^ 32 then some (some (decimalValue ds : Int), va) else none
  | some .star, va => (vaInt va).map fun found => (some found.1, found.2)

namespace Conversion

/-- The width, the precision and the arguments behind them. -/
def numbers (conv : Conversion) (va : List Arg) :
    Option (Option Int × Option Int × List Arg) := do
  let (width, va) ← fieldNumber conv.width va
  let (precision, va) ← fieldNumber conv.precision va
  some (width, precision, va)

/-- The fields of the standard: a negative width is a `-` flag and a width, a negative
precision is none. -/
def standardField (conv : Conversion) (width precision : Option Int) : IntField where
  left := .minus ∈ conv.flags ∨ width.any (· < 0)
  zeropad := .zero ∈ conv.flags
  plus := .plus ∈ conv.flags
  space := .space ∈ conv.flags
  hash := .hash ∈ conv.flags
  width := UInt32.ofNat (width.getD 0).natAbs
  precision := (precision.filter (0 ≤ ·)).map fun n => UInt32.ofNat n.toNat
  length := conv.length

/-- The fields of the code: a negative precision is zero. -/
def codeField (conv : Conversion) (width precision : Option Int) : IntField :=
  { conv.standardField width precision with
    precision := precision.map fun n => UInt32.ofNat n.toNat }

end Conversion

theorem atoiValue_eq (ds : List UInt8) : atoiValue 0 ds = UInt32.ofNat (decimalValue ds) := by
  have each (n : Nat) : ds.foldl (fun i c => i * 10 + (c - 0x30).toUInt32) (UInt32.ofNat n) =
      UInt32.ofNat (ds.foldl (fun n c => n * 10 + (c - 0x30).toNat) n) := by
    induction ds generalizing n with
    | nil => rfl
    | cons c ds ih =>
        have digit : UInt32.ofNat n * 10 + (c - 0x30).toUInt32 =
            UInt32.ofNat (n * 10 + (c - 0x30).toNat) := by
          simp [UInt32.ofNat_add, UInt32.ofNat_mul]
        rw [List.foldl_cons, List.foldl_cons, digit]
        exact ih _
  exact each 0

/-- The flags that the engine collects. -/
theorem foldl_set (chars : List FlagChar) (flags : Flags) :
    chars.foldl Flags.set flags =
      { flags with
        left := flags.left || decide (.minus ∈ chars)
        zeropad := flags.zeropad || decide (.zero ∈ chars)
        plus := flags.plus || decide (.plus ∈ chars)
        space := flags.space || decide (.space ∈ chars)
        hash := flags.hash || decide (.hash ∈ chars) } := by
  induction chars generalizing flags with
  | nil => simp
  | cons c chars ih =>
      rw [List.foldl_cons, ih]
      cases c <;> simp [Flags.set]

/-- The width as the engine reads it. -/
theorem setWidth_number {scan : Scan} {width : Option Number} {number : Option Int}
    {rest : List Arg} (unset : scan.width = 0)
    (found : fieldNumber width scan.va = some (number, rest)) :
    scan.setWidth width = some
      { scan with
        flags := { scan.flags with left := scan.flags.left || number.any (· < 0) }
        width := UInt32.ofNat (number.getD 0).natAbs
        va := rest } := by
  rcases width with _ | ds | _
  · cases found
    cases scan
    simp_all [Scan.setWidth]
  · simp only [fieldNumber, Option.ite_none_right_eq_some, Option.some.injEq,
      Prod.mk.injEq] at found
    obtain ⟨-, rfl, rfl⟩ := found
    have nonnegative : ¬ (decimalValue ds : Int) < 0 := by omega
    simp [Scan.setWidth, atoiValue_eq, nonnegative]
  · obtain ⟨⟨w, va⟩, arg, same⟩ := Option.map_eq_some_iff.mp found
    cases same
    simp only [Scan.setWidth, arg, Option.bind_eq_bind, Option.bind_some]
    by_cases negative : w < 0
    · simp [negative]
    · simp [negative]

theorem setPrecision_number {scan : Scan} {precision : Option Number} {number : Option Int}
    {rest : List Arg} (unset : scan.precision = 0)
    (found : fieldNumber precision scan.va = some (number, rest)) :
    scan.setPrecision precision = some
      { scan with
        flags := { scan.flags with precision := scan.flags.precision || number.isSome }
        precision := UInt32.ofNat (number.getD 0).toNat
        va := rest } := by
  rcases precision with _ | ds | _
  · cases found
    cases scan
    simp_all [Scan.setPrecision]
  · simp only [fieldNumber, Option.ite_none_right_eq_some, Option.some.injEq,
      Prod.mk.injEq] at found
    obtain ⟨-, rfl, rfl⟩ := found
    simp [Scan.setPrecision, atoiValue_eq]
  · obtain ⟨⟨w, va⟩, arg, same⟩ := Option.map_eq_some_iff.mp found
    cases same
    simp [Scan.setPrecision, arg]

/-- The engine scans the fields of the code. -/
theorem Conversion.settings_field {conv : Conversion} {va rest : List Arg}
    {width precision : Option Int} (found : conv.numbers va = some (width, precision, rest)) :
    ∃ scan, conv.settings va = some scan ∧ scan.va = rest ∧
      scan.flags = (conv.codeField width precision).flags ∧
      scan.width = (conv.codeField width precision).width ∧
      scan.precision = (conv.codeField width precision).prec := by
  obtain ⟨⟨width, va'⟩, one, found⟩ := Option.bind_eq_some_iff.mp found
  obtain ⟨⟨precision, va''⟩, two, same⟩ := Option.bind_eq_some_iff.mp found
  cases same
  have first := @setWidth_number ⟨conv.flags.foldl Flags.set Flags.none, 0, 0, [], va⟩ _ _ _ rfl one
  unfold Conversion.settings
  simp only [Option.bind_eq_bind, first, Option.bind_some]
  rw [setPrecision_number rfl two, Option.bind_some]
  refine ⟨_, rfl, rfl, ?_, rfl, ?_⟩
  · unfold IntField.flags Conversion.codeField Conversion.standardField
    dsimp only
    rw [foldl_set]
    congr 1
    simp [Flags.none]
  · unfold IntField.prec Conversion.codeField
    cases precision <;> rfl

/-- The two fields are the same, unless the precision is negative. -/
theorem Conversion.codeField_cases (conv : Conversion) (width precision : Option Int) :
    (precision.any (· < 0) = false ∧
        conv.codeField width precision = conv.standardField width precision) ∨
      (precision.any (· < 0) = true ∧ (conv.codeField width precision).precision = some 0 ∧
        (conv.codeField width precision).omitted = conv.standardField width precision) := by
  cases precision with
  | none => exact .inl ⟨rfl, rfl⟩
  | some p =>
      by_cases negative : p < 0
      · have none_ : ¬ 0 ≤ p := Int.not_le.mpr negative
        have zero : p.toNat = 0 := Int.toNat_of_nonpos (Int.le_of_lt negative)
        refine .inr ⟨by simpa using negative, ?_, ?_⟩
        · simp [Conversion.codeField, zero]
        · simp [Conversion.codeField, IntField.omitted, Conversion.standardField, negative]
      · have some_ : 0 ≤ p := Int.not_lt.mp negative
        refine .inl ⟨by simpa using some_, ?_⟩
        simp [Conversion.codeField, Conversion.standardField, some_]

/-- The width and the precision for which a conversion of a format is that of the
standard. -/
def Conversion.Fits (conv : Conversion) (width precision : Option Int) (spec : Specifier)
    (negative : Bool) (value : Nat) : Prop :=
  if precision.any (· < 0) then
    (conv.standardField width precision).OmittedFits spec negative value
  else (conv.standardField width precision).NumberFits spec negative value

/-- Exactly these integer conversions of a format print what the standard says of
their fields and their arguments. -/
theorem conversion_standard_iff {conv : Conversion} {spec : Specifier}
    (known : Specifier.ofByte conv.spec = some spec) (standard : spec.IsStandard)
    {va left : List Arg} {width precision : Option Int} {w : UInt64}
    (numbers : conv.numbers va = some (width, precision, .word w :: left)) :
    ∃ text, (Directive.conversion conv).text va = some (left, text) ∧
      (text = standardInteger spec (conv.standardField width precision) w ↔
        ¬ CharTop spec conv.length w ∧
          conv.Fits width precision spec (standardValue spec conv.length w).1
            (standardValue spec conv.length w).2) := by
  obtain ⟨scan, settings, arg, flags, room, limit⟩ := Conversion.settings_field numbers
  refine ⟨integerText spec scan.flags scan.width scan.precision w, ?_, ?_⟩
  · simp only [Directive.text, settings, Option.bind_eq_bind, Option.bind_some]
    unfold specifierText
    rw [known, arg]
    cases spec <;> simp [Specifier.IsStandard] at standard <;> rfl
  · rw [flags, room, limit]
    unfold Conversion.Fits
    have here : (conv.codeField width precision).length = conv.length := rfl
    have there : (conv.standardField width precision).length = conv.length := rfl
    have cases_ := conv.codeField_cases width precision
    generalize conv.codeField width precision = field at here cases_ ⊢
    generalize conv.standardField width precision = other at there cases_ ⊢
    rcases cases_ with ⟨present, rfl⟩ | ⟨negative, zero, rfl⟩
    · rw [present, if_neg Bool.false_ne_true]
      exact integerText_agrees_iff standard w here there (field.NumberFits spec)
        fun _ _ fits unsigned => number_standard_iff standard fits unsigned
    · rw [negative, if_pos rfl]
      exact integerText_agrees_iff standard w here there (field.omitted.OmittedFits spec)
        fun _ _ fits unsigned => number_omitted_iff standard fits unsigned zero

/-- `%#4x` of `0x1234` prints `0x34`. -/
def narrowHex : Conversion := ⟨[.hash], some (.digits [0x34]), none, .none, 0x78⟩

/-- `%.*d`. -/
def starDecimal : Conversion := ⟨[], none, some .star, .none, 0x64⟩

/-- Neither is that of the standard: the width is as long as the digits, and a zero
behind a negative precision prints nothing. -/
theorem conversion_standard_iff_narrow :
    (∃ text, (Directive.conversion narrowHex).text [.word 0x1234] = some ([], text) ∧
        text ≠ standardInteger .x (narrowHex.standardField (some 4) none) 0x1234) ∧
      ∃ text, (Directive.conversion starDecimal).text [.word 0xFFFFFFFF, .word 0] =
          some ([], text) ∧
        text ≠ standardInteger .d (starDecimal.standardField none (some (-1))) 0 := by
  have hex : narrowHex.numbers [.word 0x1234] = some (some 4, none, [.word 0x1234]) := rfl
  have star : starDecimal.numbers [.word 0xFFFFFFFF, .word 0] =
      some (none, some (-1), [.word 0]) := rfl
  have hexKnown : Specifier.ofByte narrowHex.spec = some .x := rfl
  have starKnown : Specifier.ofByte starDecimal.spec = some .d := rfl
  obtain ⟨text, printed, hexIff⟩ :=
    conversion_standard_iff hexKnown (by simp [Specifier.IsStandard]) hex
  obtain ⟨text', printed', starIff⟩ :=
    conversion_standard_iff starKnown (by simp [Specifier.IsStandard]) star
  refine ⟨⟨text, printed, fun same => ?_⟩, text', printed', fun same => ?_⟩
  · have fits := (hexIff.mp same).2
    have value : standardValue .x narrowHex.length 0x1234 = (false, 0x1234) := rfl
    have four : (IntField.digits .x (narrowHex.standardField (some 4) none) 0x1234).length = 4 := by
      simp [IntField.digits, codeDigits, naturalDigits, Specifier.base]
    have prefixed : (narrowHex.standardField (some 4) none).hash = true ∧
        Specifier.x.base ≠ 10 ∧ 0x1234 ≠ 0 := by decide
    rw [value, Conversion.Fits, if_neg (by simp), IntField.NumberFits, if_pos prefixed,
      four] at fits
    exact absurd fits (by simp [IntField.PrefixFits, Conversion.standardField, narrowHex])
  · exact (starIff.mp same).2.1 rfl

end Mp257Fsbl.Printf
