/-
Module: Mp257Fsbl.Printf.Directive
Purpose: Formats as lists of directives: what they spell, what they print, and
  that the engine reads exactly the formats they spell.
Trusted boundary: none
Main exports: Number, Length, Conversion, Directive, render, meaning,
  formatText_render, formatText_defined_iff
-/
import Mp257Fsbl.Printf.Output
import Mp257Fsbl.Utils.Numeral

namespace Mp257Fsbl.Printf

open Mp257Fsbl.Utils

/-! ### Directives -/

/-- A number in the width or the precision field. -/
inductive Number where
  | digits (ds : List UInt8)
  | star

/-- The length field. -/
inductive Length where
  | none
  | once (c : LengthChar)
  | ll
  | hh

/-- A conversion, field by field. The specifier may be any byte. -/
structure Conversion where
  flags : List FlagChar
  width : Option Number
  precision : Option Number
  length : Length
  spec : UInt8

inductive Directive where
  | literal (c : UInt8)
  | conversion (conv : Conversion)

/-! ### What they spell -/

def Number.bytes : Number → List UInt8
  | .digits ds => ds
  | .star => [0x2A]

def widthBytes : Option Number → List UInt8
  | none => []
  | some number => number.bytes

def precisionBytes : Option Number → List UInt8
  | none => []
  | some number => 0x2E :: number.bytes

def Length.bytes : Length → List UInt8
  | .none => []
  | .once c => [c.byte]
  | .ll => [0x6C, 0x6C]
  | .hh => [0x68, 0x68]

namespace Conversion

/-- Behind the width, up to the specifier. -/
def behindPrecision (conv : Conversion) : List UInt8 := conv.length.bytes ++ [conv.spec]

def behindWidth (conv : Conversion) : List UInt8 :=
  precisionBytes conv.precision ++ conv.behindPrecision

def behindFlags (conv : Conversion) : List UInt8 := widthBytes conv.width ++ conv.behindWidth

/-- All that follows the `%`. -/
def bytes (conv : Conversion) : List UInt8 := conv.flags.map FlagChar.byte ++ conv.behindFlags

end Conversion

def Directive.bytes : Directive → List UInt8
  | .literal c => [c]
  | .conversion conv => 0x25 :: conv.bytes

def render (ds : List Directive) : List UInt8 := ds.flatMap Directive.bytes

/-! ### Where a field ends

A field ends in front of the first byte that could not go on with it. -/

def AllDigits (ds : List UInt8) : Prop := ∀ c ∈ ds, isDigit c = true

/-- The next byte is there and is none of these. -/
def NextNot (stopped : UInt8 → Prop) (next : List UInt8) : Prop :=
  ∃ c, deref next = some c ∧ ¬ stopped c

def FlagsEnd (next : List UInt8) : Prop := NextNot (fun c => (FlagChar.ofByte c).isSome) next

def WidthEnds : Option Number → List UInt8 → Prop
  | none, next => NextNot (fun c => isDigit c ∨ c = 0x2A) next
  | some (.digits ds), next => ds ≠ [] ∧ AllDigits ds ∧ NextNot (fun c => isDigit c) next
  | some .star, _ => True

def PrecisionEnds : Option Number → List UInt8 → Prop
  | none, next => NextNot (fun c => c = 0x2E) next
  | some (.digits ds), next =>
      AllDigits ds ∧ NextNot (fun c => isDigit c ∨ (ds = [] ∧ c = 0x2A)) next
  | some .star, _ => True

def LengthEnds : Length → List UInt8 → Prop
  | .none, next => NextNot (fun c => (LengthChar.ofByte c).isSome) next
  | .once .l, next => NextNot (fun c => c = 0x6C) next
  | .once .h, next => NextNot (fun c => c = 0x68) next
  | _, _ => True

/-- No field takes bytes of the ones behind it. -/
structure Conversion.Spelled (conv : Conversion) : Prop where
  flags : FlagsEnd conv.behindFlags
  width : WidthEnds conv.width conv.behindWidth
  precision : PrecisionEnds conv.precision conv.behindPrecision
  length : LengthEnds conv.length [conv.spec]

def Directive.Spelled : Directive → Prop
  | .literal c => c ≠ 0 ∧ c ≠ 0x25
  | .conversion conv => conv.Spelled

/-! ### What they print -/

/-- The value of digits, which wraps at 32 bits. -/
def atoiValue (i : UInt32) (ds : List UInt8) : UInt32 :=
  ds.foldl (fun i c => i * 10 + (c - 0x30).toUInt32) i

def Scan.setWidth (scan : Scan) : Option Number → Option Scan
  | none => some scan
  | some (.digits ds) => some { scan with width := atoiValue 0 ds }
  | some .star => do
      let (w, va) ← vaInt scan.va
      let flags := if w < 0 then { scan.flags with left := true } else scan.flags
      some { scan with flags, width := UInt32.ofNat w.natAbs, va }

def Scan.setPrecision (scan : Scan) : Option Number → Option Scan
  | none => some scan
  | some (.digits ds) =>
      some { scan with flags := { scan.flags with precision := true }, precision := atoiValue 0 ds }
  | some .star => do
      let (prec, va) ← vaInt scan.va
      some
        { scan with
          flags := { scan.flags with precision := true }
          precision := UInt32.ofNat prec.toNat
          va }

def Flags.setLength (flags : Flags) : Length → Flags
  | .none => flags
  | .once .h => { flags with short := true }
  | .once _ => { flags with long := true }
  | .ll => { flags with long := true, longLong := true }
  | .hh => { flags with short := true, char := true }

/-- What the fields say, with the arguments they take. -/
def Conversion.settings (conv : Conversion) (va : List Arg) : Option Scan := do
  let flags := conv.flags.foldl Flags.set Flags.none
  let start : Scan := { flags, width := 0, precision := 0, format := [], va }
  let scan ← start.setWidth conv.width
  let scan ← scan.setPrecision conv.precision
  some { scan with flags := scan.flags.setLength conv.length }

def Directive.text : Directive → List Arg → Option (List Arg × List UInt8)
  | .literal c, va => some (va, [c])
  | .conversion conv, va => do
      let scan ← conv.settings va
      specifierText conv.spec scan

/-- The texts of the directives, one behind the other, each with the arguments
that the ones before it have left. -/
def meaning : List Directive → List Arg → Option (List UInt8)
  | [], _ => some []
  | d :: ds, va => do
      let (va, text) ← d.text va
      let rest ← meaning ds va
      some (text ++ rest)

/-! ### The scan of what a directive spells -/

theorem deref_append_of_some {next rest : List UInt8} {c : UInt8} (first : deref next = some c) :
    deref (next ++ rest) = some c := by
  cases next with
  | nil => cases first
  | cons d next => exact first

theorem NextNot.append {stopped : UInt8 → Prop} {next : List UInt8} (ends : NextNot stopped next)
    (rest : List UInt8) : NextNot stopped (next ++ rest) := by
  obtain ⟨c, first, other⟩ := ends
  exact ⟨c, deref_append_of_some first, other⟩

theorem WidthEnds.append {width : Option Number} {next : List UInt8} (ends : WidthEnds width next)
    (rest : List UInt8) : WidthEnds width (next ++ rest) := by
  rcases width with _ | ds | _
  · exact NextNot.append ends rest
  · exact ⟨ends.1, ends.2.1, ends.2.2.append rest⟩
  · trivial

theorem PrecisionEnds.append {precision : Option Number} {next : List UInt8}
    (ends : PrecisionEnds precision next) (rest : List UInt8) :
    PrecisionEnds precision (next ++ rest) := by
  rcases precision with _ | ds | _
  · exact NextNot.append ends rest
  · exact ⟨ends.1, ends.2.append rest⟩
  · trivial

theorem LengthEnds.append {length : Length} {next : List UInt8} (ends : LengthEnds length next)
    (rest : List UInt8) : LengthEnds length (next ++ rest) := by
  rcases length with _ | c | _ | _
  · exact NextNot.append ends rest
  · cases c with
    | l => exact NextNot.append ends rest
    | h => exact NextNot.append ends rest
    | _ => trivial
  · trivial
  · trivial

/-- A list with a first byte. -/
theorem eq_cons_of_deref {next : List UInt8} {c : UInt8} (first : deref next = some c) :
    ∃ rest, next = c :: rest := by
  cases next with
  | nil => cases first
  | cons d rest =>
      cases first
      exact ⟨rest, rfl⟩

theorem atoi_append {ds : List UInt8} (all : AllDigits ds) {next : List UInt8}
    (ends : NextNot (fun c => isDigit c) next) (i : UInt32) :
    atoi i (ds ++ next) = some (atoiValue i ds, next) := by
  induction ds generalizing i with
  | nil =>
      obtain ⟨c, first, other⟩ := ends
      obtain ⟨rest, rfl⟩ := eq_cons_of_deref first
      simp [atoi, atoiValue, other]
  | cons c ds ih =>
      have here := all c List.mem_cons_self
      have rest := ih fun d member => all d (List.mem_cons_of_mem c member)
      simp [atoi, here, rest, atoiValue]

theorem FlagChar.ofByte_byte (flag : FlagChar) : FlagChar.ofByte flag.byte = some flag := by
  cases flag <;> rfl

theorem LengthChar.ofByte_byte (length : LengthChar) :
    LengthChar.ofByte length.byte = some length := by
  cases length <;> rfl

theorem evalFlags_append (flags : Flags) (chars : List FlagChar) {next : List UInt8}
    (ends : FlagsEnd next) :
    evalFlags flags (chars.map FlagChar.byte ++ next) =
      some (chars.foldl Flags.set flags, next) := by
  induction chars generalizing flags with
  | nil =>
      obtain ⟨c, first, other⟩ := ends
      obtain ⟨rest, rfl⟩ := eq_cons_of_deref first
      have unknown : FlagChar.ofByte c = none := by simpa using other
      simp [evalFlags, unknown]
  | cons flag chars ih => simp [evalFlags, FlagChar.ofByte_byte, ih]

theorem evalWidth_append (scan : Scan) {width : Option Number} {next : List UInt8}
    (ends : WidthEnds width next) :
    evalWidth { scan with format := widthBytes width ++ next } =
      (scan.setWidth width).map fun scan => { scan with format := next } := by
  rcases width with _ | ds | _
  · obtain ⟨c, first, other⟩ := ends
    obtain ⟨notDigit, notStar⟩ := not_or.mp other
    simp only [evalWidth, widthBytes, List.nil_append, first, Option.bind_eq_bind, Option.bind_some,
      notDigit, notStar, if_false, Bool.false_eq_true, Scan.setWidth, Option.map_some]
  · obtain ⟨some_digit, all, stops⟩ := ends
    cases ds with
    | nil => exact absurd rfl some_digit
    | cons c ds =>
        have here := all c List.mem_cons_self
        have scanned := atoi_append all stops 0
        rw [List.cons_append] at scanned
        simp [evalWidth, widthBytes, Number.bytes, here, scanned, Scan.setWidth]
  · have notDigit : isDigit 0x2A = false := rfl
    simp only [evalWidth, widthBytes, Number.bytes, Scan.setWidth, List.cons_append,
      List.nil_append, List.head?_cons, Option.bind_eq_bind, Option.bind_some, notDigit,
      Bool.false_eq_true, if_false, if_true, List.drop_one, List.tail_cons]
    cases vaInt scan.va <;> rfl

theorem Scan.setWidth_precision {scan after : Scan} {width : Option Number}
    (set : scan.setWidth width = some after) : after.precision = scan.precision := by
  rcases width with _ | ds | _
  · cases set
    rfl
  · cases set
    rfl
  · obtain ⟨w, _, done⟩ := Option.bind_eq_some_iff.mp set
    cases done
    rfl

theorem evalPrecision_append {scan : Scan} (unset : scan.precision = 0)
    {precision : Option Number} {next : List UInt8} (ends : PrecisionEnds precision next) :
    evalPrecision { scan with format := precisionBytes precision ++ next } =
      (scan.setPrecision precision).map fun scan => { scan with format := next } := by
  rcases precision with _ | ds | _
  · obtain ⟨c, first, other⟩ := ends
    simp only [evalPrecision, precisionBytes, List.nil_append, first, Option.bind_eq_bind,
      Option.bind_some, other, not_false_eq_true, if_true, ne_eq, Scan.setPrecision,
      Option.map_some]
  · obtain ⟨all, stops⟩ := ends
    cases ds with
    | nil =>
        obtain ⟨c, first, other⟩ := stops
        obtain ⟨notDigit, notStar⟩ := not_or.mp other
        have notStar : c ≠ 0x2A := fun star => notStar ⟨rfl, star⟩
        simp [evalPrecision, precisionBytes, Number.bytes, first, notDigit, notStar,
          Scan.setPrecision, atoiValue, unset]
    | cons c ds =>
        have here := all c List.mem_cons_self
        have ends : NextNot (fun c => isDigit c) next := by
          obtain ⟨after, first, other⟩ := stops
          exact ⟨after, first, fun digit => other (.inl digit)⟩
        have scanned := atoi_append all ends 0
        rw [List.cons_append] at scanned
        simp [evalPrecision, precisionBytes, Number.bytes, here, scanned, Scan.setPrecision]
  · have notDigit : isDigit 0x2A = false := rfl
    simp only [evalPrecision, precisionBytes, Number.bytes, Scan.setPrecision, List.cons_append,
      List.nil_append, List.head?_cons, Option.bind_eq_bind, Option.bind_some, notDigit,
      Bool.false_eq_true, if_false, if_true, List.drop_one, List.tail_cons, ne_eq, not_true]
    cases vaInt scan.va <;> rfl

theorem evalLength_append (flags : Flags) {length : Length} {next : List UInt8}
    (some_byte : next ≠ []) (ends : LengthEnds length next) :
    evalLength flags (length.bytes ++ next) = some (flags.setLength length, next) := by
  obtain ⟨c, rest, rfl⟩ := List.exists_cons_of_ne_nil some_byte
  rcases length with _ | length | _ | _
  · obtain ⟨d, first, other⟩ := ends
    cases first
    have unknown : LengthChar.ofByte c = none := by simpa using other
    simp [evalLength, Length.bytes, unknown, Flags.setLength]
  · cases length with
    | l =>
        obtain ⟨d, first, other⟩ := ends
        cases first
        have known : LengthChar.ofByte 0x6C = some .l := rfl
        simp [evalLength, evalTwice, Length.bytes, LengthChar.byte, known, other, Flags.setLength]
    | h =>
        obtain ⟨d, first, other⟩ := ends
        cases first
        have known : LengthChar.ofByte 0x68 = some .h := rfl
        simp [evalLength, evalTwice, Length.bytes, LengthChar.byte, known, other, Flags.setLength]
    | t => rfl
    | j => rfl
    | z => rfl
  · rfl
  · rfl

/-- The engine reads back the fields that a conversion spells. -/
theorem evalFields_bytes {conv : Conversion} (spelled : conv.Spelled) (rest : List UInt8)
    (va : List Arg) :
    evalFields (conv.bytes ++ rest) va =
      (conv.settings va).map fun scan => { scan with format := conv.spec :: rest } := by
  have flags : conv.bytes ++ rest =
      conv.flags.map FlagChar.byte ++ (conv.behindFlags ++ rest) := List.append_assoc _ _ _
  have width : conv.behindFlags ++ rest = widthBytes conv.width ++ (conv.behindWidth ++ rest) :=
    List.append_assoc _ _ _
  have precision : conv.behindWidth ++ rest =
      precisionBytes conv.precision ++ (conv.behindPrecision ++ rest) := List.append_assoc _ _ _
  have length : conv.behindPrecision ++ rest = conv.length.bytes ++ ([conv.spec] ++ rest) :=
    List.append_assoc _ _ _
  unfold evalFields Conversion.settings
  rw [flags, evalFlags_append _ _ (spelled.flags.append rest), width]
  simp only [Option.bind_eq_bind, Option.bind_some]
  rw [evalWidth_append ⟨_, 0, 0, [], va⟩ (spelled.width.append rest)]
  cases widened : Scan.setWidth ⟨_, 0, 0, [], va⟩ conv.width with
  | none => rfl
  | some scan =>
      have unset : scan.precision = 0 := Scan.setWidth_precision widened
      simp only [Option.map_some, Option.bind_some]
      rw [precision, evalPrecision_append unset (spelled.precision.append rest)]
      cases scan.setPrecision conv.precision with
      | none => rfl
      | some scan =>
          simp only [Option.map_some, Option.bind_some]
          rw [length, evalLength_append _ (by simp) (spelled.length.append rest)]
          rfl

/-! ### What a list of directives prints -/

/-- The format behind a conversion does not tell what it prints. -/
theorem specifierText_format (c : UInt8) (scan : Scan) (format : List UInt8) :
    specifierText c { scan with format } = specifierText c scan := rfl

theorem conversionText_bytes {conv : Conversion} (spelled : conv.Spelled) (rest : List UInt8)
    (va : List Arg) :
    conversionText (conv.bytes ++ rest) va =
      ((Directive.conversion conv).text va).map fun found => (rest, found.1, found.2) := by
  have text : (Directive.conversion conv).text va =
      (conv.settings va).bind fun scan => specifierText conv.spec scan := rfl
  rw [conversionText, evalFields_bytes spelled, text]
  cases conv.settings va with
  | none => rfl
  | some scan =>
      simp only [Option.map_some, Option.bind_eq_bind, Option.bind_some, List.head?_cons,
        specifierText_format, List.drop_one, List.tail_cons]
      cases specifierText conv.spec scan <;> rfl

theorem formatLoop_render {ds : List Directive} (spelled : ∀ d ∈ ds, d.Spelled)
    (rest : List UInt8) (va : List Arg) {rounds : Nat} (enough : (render ds).length < rounds) :
    formatLoop rounds (render ds ++ 0 :: rest) va = meaning ds va := by
  induction ds generalizing va rounds with
  | nil =>
      obtain ⟨rounds, rfl⟩ := Nat.exists_eq_succ_of_ne_zero (Nat.ne_of_gt enough)
      rfl
  | cons d ds ih =>
      obtain ⟨rounds, rfl⟩ :=
        Nat.exists_eq_succ_of_ne_zero (Nat.ne_of_gt (Nat.zero_lt_of_lt enough))
      have here := spelled d List.mem_cons_self
      have later := fun e member => spelled e (List.mem_cons_of_mem d member)
      have bytes : render (d :: ds) ++ 0 :: rest = d.bytes ++ (render ds ++ 0 :: rest) :=
        List.append_assoc _ _ _
      have longer : (render (d :: ds)).length = d.bytes.length + (render ds).length :=
        List.length_append
      rw [bytes, meaning]
      cases d with
      | literal c =>
          have fewer : (render ds).length < rounds := by
            simp only [Directive.bytes, List.length_singleton] at longer
            omega
          simp only [Directive.bytes, List.cons_append, List.nil_append, formatLoop, here.1, here.2,
            if_false, ne_eq, not_false_eq_true, if_true, ih later va fewer, Directive.text,
            Option.bind_eq_bind, Option.bind_some]
          cases meaning ds va <;> rfl
      | conversion conv =>
          have fewer : (render ds).length < rounds := by
            simp only [Directive.bytes, List.length_cons] at longer
            omega
          have percent : (0x25 : UInt8) ≠ 0 := by decide
          simp only [Directive.bytes, List.cons_append, formatLoop, percent, if_false, ne_eq,
            not_true, conversionText_bytes here]
          cases (Directive.conversion conv).text va with
          | none => rfl
          | some found =>
              simp only [Option.map_some, ih later found.1 fewer, Option.bind_eq_bind,
                Option.bind_some]
              cases meaning ds found.1 <;> rfl

/-- A format that spells directives prints their texts, one behind the other, and
what lies behind its terminator does not matter. -/
theorem formatText_render {ds : List Directive} (spelled : ∀ d ∈ ds, d.Spelled)
    (rest : List UInt8) (va : List Arg) :
    formatText (render ds ++ 0 :: rest) va = meaning ds va :=
  formatLoop_render spelled rest va (by simp)

/-- `0x%08X`. -/
def hexFormat : List Directive :=
  [.literal 0x30, .literal 0x78, .conversion ⟨[.zero], some (.digits [0x38]), none, .none, 0x58⟩]

theorem hexFormat_spelled : ∀ d ∈ hexFormat, d.Spelled := by
  have digits : AllDigits [0x38] := List.forall_mem_singleton.mpr rfl
  have conv : (Directive.conversion
      ⟨[.zero], some (.digits [0x38]), none, .none, 0x58⟩).Spelled := {
    flags := ⟨0x38, rfl, by decide⟩
    width := ⟨by decide, digits, 0x58, rfl, by decide⟩
    precision := ⟨0x58, rfl, by decide⟩
    length := ⟨0x58, rfl, by decide⟩ }
  have zero : (Directive.literal 0x30).Spelled := ⟨by decide, by decide⟩
  have x : (Directive.literal 0x78).Spelled := ⟨by decide, by decide⟩
  simp only [hexFormat, List.forall_mem_cons]
  exact ⟨zero, x, conv, fun _ member => absurd member List.not_mem_nil⟩

theorem formatText_render_hex :
    formatText (render hexFormat ++ 0 :: []) [.word 0x80001234] =
      meaning hexFormat [.word 0x80001234] :=
  formatText_render hexFormat_spelled [] [.word 0x80001234]

/-! ### What the engine reads -/

theorem FlagChar.byte_of_ofByte {c : UInt8} {flag : FlagChar} (known : ofByte c = some flag) :
    flag.byte = c := by
  have found := List.find?_some known
  simpa using found

theorem LengthChar.byte_of_ofByte {c : UInt8} {length : LengthChar}
    (known : ofByte c = some length) : length.byte = c := by
  have found := List.find?_some known
  simpa using found

theorem atoi_inv {i n : UInt32} {str next : List UInt8} (read : atoi i str = some (n, next)) :
    ∃ ds, str = ds ++ next ∧ AllDigits ds ∧ NextNot (fun c => isDigit c) next := by
  induction str generalizing i with
  | nil => cases read
  | cons c str ih =>
      rw [atoi] at read
      split at read
      · rename_i digit
        obtain ⟨ds, rfl, all, ends⟩ := ih read
        exact ⟨c :: ds, rfl, List.forall_mem_cons.mpr ⟨digit, all⟩, ends⟩
      · rename_i other
        cases read
        exact ⟨[], rfl, fun _ member => absurd member List.not_mem_nil, c, rfl, other⟩

theorem evalFlags_inv {flags after : Flags} {format next : List UInt8}
    (read : evalFlags flags format = some (after, next)) :
    ∃ chars : List FlagChar, format = chars.map FlagChar.byte ++ next ∧ FlagsEnd next := by
  induction format generalizing flags with
  | nil => cases read
  | cons c format ih =>
      rw [evalFlags] at read
      split at read
      · rename_i flag known
        obtain ⟨chars, rfl, ends⟩ := ih read
        refine ⟨flag :: chars, ?_, ends⟩
        rw [List.map_cons, FlagChar.byte_of_ofByte known, List.cons_append]
      · rename_i unknown
        cases read
        exact ⟨[], rfl, c, rfl, by simp [unknown]⟩

theorem evalWidth_inv {scan after : Scan} (read : evalWidth scan = some after) :
    ∃ width, scan.format = widthBytes width ++ after.format ∧ WidthEnds width after.format := by
  obtain ⟨c, first, read⟩ := Option.bind_eq_some_iff.mp read
  split at read
  · rename_i digit
    obtain ⟨⟨n, next⟩, number, done⟩ := Option.bind_eq_some_iff.mp read
    cases done
    obtain ⟨ds, bytes, all, ends⟩ := atoi_inv number
    refine ⟨some (.digits ds), bytes, ?_, all, ends⟩
    rintro rfl
    obtain ⟨d, same, other⟩ := ends
    rw [bytes, List.nil_append] at first
    exact other (Option.some.inj (same.symm.trans first) ▸ digit)
  · rename_i notDigit
    split at read
    · rename_i star
      obtain ⟨⟨w, va⟩, _, done⟩ := Option.bind_eq_some_iff.mp read
      cases done
      obtain ⟨rest, bytes⟩ := eq_cons_of_deref first
      refine ⟨some .star, ?_, trivial⟩
      rw [bytes, star]
      rfl
    · rename_i notStar
      cases read
      exact ⟨none, rfl, c, first, not_or.mpr ⟨notDigit, notStar⟩⟩

theorem evalPrecision_inv {scan after : Scan} (read : evalPrecision scan = some after) :
    ∃ precision, scan.format = precisionBytes precision ++ after.format ∧
      PrecisionEnds precision after.format := by
  obtain ⟨c, first, read⟩ := Option.bind_eq_some_iff.mp read
  obtain ⟨rest, bytes⟩ := eq_cons_of_deref first
  split at read
  · rename_i notPoint
    cases read
    exact ⟨none, rfl, c, first, notPoint⟩
  · rename_i point
    have point : c = 0x2E := not_not.mp point
    rw [bytes, point] at read ⊢
    obtain ⟨d, second, read⟩ := Option.bind_eq_some_iff.mp read
    simp only [List.drop_one, List.tail_cons] at second read
    split at read
    · rename_i digit
      obtain ⟨⟨n, next⟩, number, done⟩ := Option.bind_eq_some_iff.mp read
      cases done
      obtain ⟨ds, behind, all, e, same, other⟩ := atoi_inv number
      refine ⟨some (.digits ds), congrArg (0x2E :: ·) behind, all, e, same, not_or.mpr ⟨other, ?_⟩⟩
      rintro ⟨rfl, -⟩
      rw [behind, List.nil_append] at second
      exact other (Option.some.inj (same.symm.trans second) ▸ digit)
    · rename_i notDigit
      split at read
      · rename_i star
        obtain ⟨⟨w, va⟩, _, done⟩ := Option.bind_eq_some_iff.mp read
        cases done
        obtain ⟨rest, behind⟩ := eq_cons_of_deref second
        refine ⟨some .star, ?_, trivial⟩
        rw [behind, star]
        rfl
      · rename_i notStar
        cases read
        refine ⟨some (.digits []), rfl, fun _ member => absurd member List.not_mem_nil, d, second,
          ?_⟩
        exact not_or.mpr ⟨notDigit, fun star => notStar star.2⟩

theorem evalTwice_inv {c : UInt8} {flags twice after : Flags} {format next : List UInt8}
    (read : evalTwice c flags twice format = some (after, next)) :
    format = c :: next ∨ format = next ∧ NextNot (fun d => d = c) next := by
  obtain ⟨d, first, read⟩ := Option.bind_eq_some_iff.mp read
  obtain ⟨rest, rfl⟩ := eq_cons_of_deref first
  split at read
  · rename_i same
    cases read
    exact .inl (by rw [same]; rfl)
  · rename_i other
    cases read
    exact .inr ⟨rfl, d, rfl, other⟩

theorem evalLength_inv {flags after : Flags} {format next : List UInt8}
    (read : evalLength flags format = some (after, next)) :
    ∃ length : Length, format = length.bytes ++ next ∧ LengthEnds length next := by
  obtain ⟨c, first, read⟩ := Option.bind_eq_some_iff.mp read
  obtain ⟨rest, rfl⟩ := eq_cons_of_deref first
  cases known : LengthChar.ofByte c with
  | none =>
      simp only [known] at read
      cases read
      exact ⟨.none, rfl, c, rfl, by simp [known]⟩
  | some length =>
      have byte := LengthChar.byte_of_ofByte known
      simp only [known] at read
      subst byte
      cases length with
      | l =>
          rcases evalTwice_inv read with twice | ⟨once, ends⟩
          · exact ⟨.ll, congrArg (0x6C :: ·) twice, trivial⟩
          · exact ⟨.once .l, congrArg (0x6C :: ·) once, ends⟩
      | h =>
          rcases evalTwice_inv read with twice | ⟨once, ends⟩
          · exact ⟨.hh, congrArg (0x68 :: ·) twice, trivial⟩
          · exact ⟨.once .h, congrArg (0x68 :: ·) once, ends⟩
      | t =>
          cases read
          exact ⟨.once .t, rfl, trivial⟩
      | j =>
          cases read
          exact ⟨.once .j, rfl, trivial⟩
      | z =>
          cases read
          exact ⟨.once .z, rfl, trivial⟩

theorem NextNot.of_append {stopped : UInt8 → Prop} {first rest : List UInt8}
    (some_byte : first ≠ [])
    (ends : NextNot stopped (first ++ rest)) : NextNot stopped first := by
  obtain ⟨c, first, rfl⟩ := List.exists_cons_of_ne_nil some_byte
  exact ends

theorem WidthEnds.of_append {width : Option Number} {first rest : List UInt8}
    (some_byte : first ≠ []) (ends : WidthEnds width (first ++ rest)) : WidthEnds width first := by
  rcases width with _ | ds | _
  · exact NextNot.of_append some_byte ends
  · exact ⟨ends.1, ends.2.1, ends.2.2.of_append some_byte⟩
  · trivial

theorem PrecisionEnds.of_append {precision : Option Number} {first rest : List UInt8}
    (some_byte : first ≠ []) (ends : PrecisionEnds precision (first ++ rest)) :
    PrecisionEnds precision first := by
  rcases precision with _ | ds | _
  · exact NextNot.of_append some_byte ends
  · exact ⟨ends.1, ends.2.of_append some_byte⟩
  · trivial

theorem LengthEnds.of_append {length : Length} {first rest : List UInt8} (some_byte : first ≠ [])
    (ends : LengthEnds length (first ++ rest)) : LengthEnds length first := by
  rcases length with _ | c | _ | _
  · exact NextNot.of_append some_byte ends
  · cases c with
    | l => exact NextNot.of_append some_byte ends
    | h => exact NextNot.of_append some_byte ends
    | _ => trivial
  · trivial
  · trivial

/-- Fields that the engine has read are spelled in front of the specifier. -/
theorem evalFields_inv {format rest : List UInt8} {va : List Arg} {scan : Scan} {spec : UInt8}
    (read : evalFields format va = some scan) (behind : scan.format = spec :: rest) :
    ∃ conv : Conversion, conv.Spelled ∧ format = conv.bytes ++ rest := by
  obtain ⟨⟨flags, format₁⟩, one, read⟩ := Option.bind_eq_some_iff.mp read
  obtain ⟨widened, two, read⟩ := Option.bind_eq_some_iff.mp read
  obtain ⟨limited, three, read⟩ := Option.bind_eq_some_iff.mp read
  obtain ⟨⟨settled, format₂⟩, four, done⟩ := Option.bind_eq_some_iff.mp read
  cases done
  obtain rfl : format₂ = spec :: rest := behind
  obtain ⟨chars, rfl, flagsEnd⟩ := evalFlags_inv one
  obtain ⟨width, bytes₁, widthEnds⟩ := evalWidth_inv two
  obtain ⟨precision, bytes₂, precisionEnds⟩ := evalPrecision_inv three
  obtain ⟨length, bytes₃, lengthEnds⟩ := evalLength_inv four
  have bytes₁ : format₁ = widthBytes width ++ widened.format := bytes₁
  let conv : Conversion := ⟨chars, width, precision, length, spec⟩
  have third : limited.format = conv.behindPrecision ++ rest := by
    rw [bytes₃]
    simp [conv, Conversion.behindPrecision]
  have second : widened.format = conv.behindWidth ++ rest := by
    rw [bytes₂, third]
    simp [conv, Conversion.behindWidth]
  have first : format₁ = conv.behindFlags ++ rest := by
    rw [bytes₁, second]
    simp [conv, Conversion.behindFlags]
  have some_third : conv.behindPrecision ≠ [] := by simp [Conversion.behindPrecision]
  have some_second : conv.behindWidth ≠ [] := by simp [Conversion.behindWidth, some_third]
  have some_first : conv.behindFlags ≠ [] := by simp [Conversion.behindFlags, some_second]
  rw [first] at flagsEnd
  rw [second] at widthEnds
  rw [third] at precisionEnds
  refine ⟨conv, ⟨?_, ?_, ?_, ?_⟩, ?_⟩
  · exact NextNot.of_append some_first flagsEnd
  · exact widthEnds.of_append some_second
  · exact precisionEnds.of_append some_third
  · exact LengthEnds.of_append (by simp) lengthEnds
  · rw [first, Conversion.bytes, List.append_assoc]

theorem conversionText_inv {format behind text : List UInt8} {va left : List Arg}
    (printed : conversionText format va = some (behind, left, text)) :
    ∃ conv : Conversion, conv.Spelled ∧ format = conv.bytes ++ behind := by
  obtain ⟨scan, fields, printed⟩ := Option.bind_eq_some_iff.mp printed
  obtain ⟨spec, first, printed⟩ := Option.bind_eq_some_iff.mp printed
  obtain ⟨found, _, done⟩ := Option.bind_eq_some_iff.mp printed
  obtain ⟨tail, bytes⟩ := eq_cons_of_deref first
  rw [bytes] at done
  obtain rfl : tail = behind := (Prod.mk.inj (Option.some.inj done)).1
  exact evalFields_inv fields bytes

/-- What the engine reads up to the end is spelled by directives. -/
theorem formatLoop_inv {rounds : Nat} {format text : List UInt8} {va : List Arg}
    (printed : formatLoop rounds format va = some text) :
    ∃ ds rest, (∀ d ∈ ds, Directive.Spelled d) ∧ format = render ds ++ 0 :: rest := by
  induction rounds generalizing format text va with
  | zero => cases printed
  | succ rounds ih =>
      cases format with
      | nil => cases printed
      | cons c format =>
          rw [formatLoop] at printed
          split at printed
          · rename_i ends
            exact ⟨[], format, fun _ member => absurd member List.not_mem_nil, by rw [ends]; rfl⟩
          · rename_i more
            split at printed
            · rename_i literal
              obtain ⟨later, printed, -⟩ := Option.map_eq_some_iff.mp printed
              obtain ⟨ds, rest, spelled, rfl⟩ := ih printed
              have here : (Directive.literal c).Spelled := ⟨more, literal⟩
              exact ⟨.literal c :: ds, rest, List.forall_mem_cons.mpr ⟨here, spelled⟩, rfl⟩
            · rename_i percent
              split at printed
              · rename_i converted
                obtain ⟨later, printed, -⟩ := Option.map_eq_some_iff.mp printed
                obtain ⟨ds, rest, spelled, rfl⟩ := ih printed
                obtain ⟨conv, fields, rfl⟩ := conversionText_inv converted
                have here : (Directive.conversion conv).Spelled := fields
                refine ⟨.conversion conv :: ds, rest, List.forall_mem_cons.mpr ⟨here, spelled⟩, ?_⟩
                rw [not_not.mp percent]
                simp [render, Directive.bytes]
              · cases printed

/-! ### Which formats it reads to their end -/

theorem textText_empty (flags : Flags) (width precision : UInt32) :
    textText flags width precision [0] = some (fieldText flags.left width.toNat 0 []) := by
  have empty (n : Nat) : strnlenS [0] n = some 0 := by simp [strnlenS]
  have nothing (limit : Option Nat) : stringText [0] limit = some [] := by simp [stringText]
  rw [textText, empty, nothing]
  simp

/-- There are arguments for every specifier. -/
theorem specifierText_arguments (c : UInt8) :
    ∃ args, ∀ scan : Scan, ∀ va, ∃ text,
      scan.va = args ++ va → specifierText c scan = some (va, text) := by
  unfold specifierText
  cases Specifier.ofByte c with
  | none => exact ⟨[], fun scan va => ⟨[c], fun taken => by rw [taken]; rfl⟩⟩
  | some spec =>
      cases spec with
      | s =>
          refine ⟨[.string [0]], fun scan va =>
            ⟨fieldText scan.flags.left scan.width.toNat 0 [], fun taken => ?_⟩⟩
          rw [taken]
          simp only [List.cons_append, List.nil_append, vaString, Option.bind_eq_bind,
            Option.bind_some, textText_empty]
      | percent => exact ⟨[], fun scan va => ⟨[0x25], fun taken => by rw [taken]; rfl⟩⟩
      | _ => exact ⟨[.word 0], fun scan va => ⟨_, fun taken => by rw [taken]; rfl⟩⟩

theorem setWidth_arguments (width : Option Number) :
    ∃ args, ∀ scan : Scan, ∀ va, scan.va = args ++ va →
      ∃ after, scan.setWidth width = some after ∧ after.va = va := by
  rcases width with _ | ds | _
  · exact ⟨[], fun scan va taken => ⟨scan, rfl, taken⟩⟩
  · exact ⟨[], fun scan va taken => ⟨_, rfl, taken⟩⟩
  · refine ⟨[.word 0], fun scan va taken => ?_⟩
    rw [Scan.setWidth, taken]
    exact ⟨_, rfl, rfl⟩

theorem setPrecision_arguments (precision : Option Number) :
    ∃ args, ∀ scan : Scan, ∀ va, scan.va = args ++ va →
      ∃ after, scan.setPrecision precision = some after ∧ after.va = va := by
  rcases precision with _ | ds | _
  · exact ⟨[], fun scan va taken => ⟨scan, rfl, taken⟩⟩
  · exact ⟨[], fun scan va taken => ⟨_, rfl, taken⟩⟩
  · refine ⟨[.word 0], fun scan va taken => ?_⟩
    rw [Scan.setPrecision, taken]
    exact ⟨_, rfl, rfl⟩

theorem Directive.text_arguments (d : Directive) :
    ∃ args, ∀ va, ∃ text, d.text (args ++ va) = some (va, text) := by
  cases d with
  | literal c => exact ⟨[], fun va => ⟨[c], rfl⟩⟩
  | conversion conv =>
      obtain ⟨first, width⟩ := setWidth_arguments conv.width
      obtain ⟨second, precision⟩ := setPrecision_arguments conv.precision
      obtain ⟨third, specifier⟩ := specifierText_arguments conv.spec
      refine ⟨first ++ (second ++ third), fun va => ?_⟩
      let flags := conv.flags.foldl Flags.set Flags.none
      let start : Scan := ⟨flags, 0, 0, [], first ++ (second ++ third) ++ va⟩
      obtain ⟨widened, one, left⟩ := width start (second ++ (third ++ va)) (by simp [start])
      obtain ⟨limited, two, left⟩ := precision widened (third ++ va) left
      obtain ⟨text, printed⟩ :=
        specifier { limited with flags := limited.flags.setLength conv.length } va
      have settings : conv.settings (first ++ (second ++ third) ++ va) =
          some { limited with flags := limited.flags.setLength conv.length } := by
        have start_eq : start.setWidth conv.width = some widened := one
        simp only [Conversion.settings, Option.bind_eq_bind]
        rw [start_eq, Option.bind_some, two, Option.bind_some]
      refine ⟨text, ?_⟩
      rw [Directive.text, settings]
      exact printed left

theorem meaning_arguments (ds : List Directive) : ∃ va text, meaning ds va = some text := by
  induction ds with
  | nil => exact ⟨[], [], rfl⟩
  | cons d ds ih =>
      obtain ⟨va, text, rest⟩ := ih
      obtain ⟨args, printed⟩ := d.text_arguments
      obtain ⟨first, here⟩ := printed va
      exact ⟨args ++ va, first ++ text, by simp [meaning, here, rest]⟩

/-- The first terminator of a buffer that holds one is its last byte. -/
theorem render_of_terminated {fmt first rest : List UInt8} (noNul : NoNul fmt)
    (same : fmt ++ [0] = first ++ 0 :: rest) : fmt = first := by
  induction fmt generalizing first with
  | nil =>
      cases first with
      | nil => rfl
      | cons c first =>
          have lengths := congrArg List.length same
          simp at lengths
  | cons c fmt ih =>
      obtain ⟨more, noNul⟩ := noNul_cons.mp noNul
      cases first with
      | nil => exact absurd (List.cons.inj same).1 more
      | cons d first =>
          obtain ⟨rfl, later⟩ := List.cons.inj same
          rw [ih noNul later]

/-- With the right arguments, a format is read to its terminator and no further
exactly if it is a sequence of complete directives; one that ends inside a
conversion is read beyond it, whatever the arguments. -/
theorem formatText_defined_iff {fmt : List UInt8} (noNul : NoNul fmt) :
    (∃ va text, formatText (fmt ++ [0]) va = some text) ↔
      ∃ ds, (∀ d ∈ ds, Directive.Spelled d) ∧ fmt = render ds := by
  constructor
  · rintro ⟨va, text, printed⟩
    obtain ⟨ds, rest, spelled, same⟩ := formatLoop_inv printed
    exact ⟨ds, spelled, render_of_terminated noNul same⟩
  · rintro ⟨ds, spelled, rfl⟩
    obtain ⟨va, text, printed⟩ := meaning_arguments ds
    exact ⟨va, text, (formatText_render spelled [] va).trans printed⟩

/-- `50%`. -/
theorem formatText_defined_iff_percent :
    (∃ va text, formatText ([0x35, 0x30, 0x25] ++ [0]) va = some text) ↔
      ∃ ds, (∀ d ∈ ds, Directive.Spelled d) ∧ [0x35, 0x30, 0x25] = render ds := by
  apply formatText_defined_iff
  intro c member
  simp only [List.mem_cons, List.not_mem_nil, or_false] at member
  rcases member with rfl | rfl | rfl <;> decide

end Mp257Fsbl.Printf
