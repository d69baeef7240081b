/-
Module: Mp257Fsbl.Printf.Output
Purpose: One text for every format and its arguments: all output functions are
  sent its characters, in order and with their positions.
Trusted boundary: none
Main exports: revText, ntoaText, specifierText, conversionText, formatText,
  vsnprintf_eq, vsnprintf_stores, vprintf_sends
-/
import Mp257Fsbl.Foundation.Sink
import Mp257Fsbl.Printf.Engine

namespace Mp257Fsbl.Printf

open Mp257Fsbl.Foundation Mp257Fsbl.Utils

/-! ### The texts -/

def blanks (n : Nat) : List UInt8 := List.replicate n 0x20

/-- What `_out_rev` prints. -/
def revText (buf : List UInt8) (width : Nat) (flags : Flags) : List UInt8 :=
  if flags.left then buf.reverse ++ blanks (width - buf.length)
  else if flags.zeropad then buf.reverse
  else blanks (width - buf.length) ++ buf.reverse

/-- What `_ntoa_format` prints. -/
def ntoaFormatText (buf : List UInt8) (negative : Bool) (base : Nat) (prec width : UInt32)
    (flags : Flags) : List UInt8 :=
  let width := signWidth negative width flags
  revText (ntoaBuffer buf negative base prec.toNat width.toNat flags) width.toNat flags

/-- What `_ntoa_long` prints. -/
def ntoaText (value : Nat) (negative : Bool) (base : Nat) (prec width : UInt32) (flags : Flags) :
    List UInt8 :=
  ntoaFormatText
    (if ¬ flags.precision ∨ value ≠ 0 then ntoaDigits base flags.uppercase ntoaBufferSize value
      else [])
    negative base prec width (if value = 0 then { flags with hash := false } else flags)

def integerText (spec : Specifier) (flags : Flags) (width precision : UInt32) (w : UInt64) :
    List UInt8 :=
  if spec.isSigned then
    ntoaText (signedArg flags w).natAbs (signedArg flags w < 0) spec.base precision width
      (intFlags spec flags)
  else ntoaText (unsignedArg flags w) false spec.base precision width (intFlags spec flags)

/-- A text in its field. -/
def fieldText (left : Bool) (width len : Nat) (text : List UInt8) : List UInt8 :=
  if left then text ++ blanks (width - len) else blanks (width - len) ++ text

def stringText : List UInt8 → Option Nat → Option (List UInt8)
  | [], _ => none
  | c :: p, limit =>
      if c = 0 then some []
      else
        match limit with
        | none => (stringText p none).map (c :: ·)
        | some 0 => some []
        | some (precision + 1) => (stringText p (some precision)).map (c :: ·)

def textText (flags : Flags) (width precision : UInt32) (p : List UInt8) : Option (List UInt8) := do
  let l ← strnlenS p (if precision.toNat ≠ 0 then precision.toNat else sizeMax)
  let l := l % 2 ^ 32
  let l := if flags.precision then min l precision.toNat else l
  let text ← stringText p (if flags.precision then some precision.toNat else none)
  some (fieldText flags.left width.toNat l text)

/-- What the switch over the specifier prints. -/
def specifierText (c : UInt8) (scan : Scan) : Option (List Arg × List UInt8) :=
  match Specifier.ofByte c with
  | some .c => do
      let (w, va) ← vaWord scan.va
      some (va, fieldText scan.flags.left scan.width.toNat 1 [w.toUInt8])
  | some .s => do
      let (p, va) ← vaString scan.va
      let text ← textText scan.flags scan.width scan.precision p
      some (va, text)
  | some .p => do
      let (w, va) ← vaWord scan.va
      some (va, ntoaText w.toNat false 16 scan.precision 16
        { scan.flags with zeropad := true, uppercase := true })
  | some .percent => some (scan.va, [0x25])
  | some spec => do
      let (w, va) ← vaWord scan.va
      some (va, integerText spec scan.flags scan.width scan.precision w)
  | none => some (scan.va, [c])

/-- What one conversion prints, with the format and the arguments behind it. -/
def conversionText (format : List UInt8) (va : List Arg) :
    Option (List UInt8 × List Arg × List UInt8) := do
  let scan ← evalFields format va
  let c ← deref scan.format
  let (va, text) ← specifierText c scan
  some (scan.format.drop 1, va, text)

def formatLoop : (rounds : Nat) → List UInt8 → List Arg → Option (List UInt8)
  | 0, _, _ => none
  | _ + 1, [], _ => none
  | rounds + 1, c :: format, va =>
      if c = 0 then some []
      else if c ≠ 0x25 then (formatLoop rounds format va).map (c :: ·)
      else
        match conversionText format va with
        | some (format, va, text) => (formatLoop rounds format va).map (text ++ ·)
        | none => none

/-- The text of a format and its arguments. -/
def formatText (format : List UInt8) (va : List Arg) : Option (List UInt8) :=
  formatLoop format.length format va

/-! ### Every function of the engine sends its text -/

section

variable {σ : Type} (out : OutFct σ) (maxlen : Nat) (st : Nat × σ)

def OutFct.sink (out : OutFct σ) (maxlen : Nat) : Sink UInt8 σ := fun c idx => out c idx maxlen

theorem putBlanks_eq (n : Nat) :
    putBlanks out maxlen n st = (out.sink maxlen).send (blanks n) st := by
  induction n generalizing st with
  | zero => rfl
  | succ n ih => exact ih (putc out maxlen 0x20 st)

theorem putReversed_eq (buf : List UInt8) :
    putReversed out maxlen buf st = (out.sink maxlen).send buf.reverse st := by
  induction buf with
  | nil => rfl
  | cons c buf ih =>
      rw [List.reverse_cons, Sink.send_append, ← ih]
      rfl

theorem outRev_eq (buf : List UInt8) (width : UInt32) (flags : Flags) :
    outRev out maxlen buf width flags st =
      (out.sink maxlen).send (revText buf width.toNat flags) st := by
  unfold outRev revText
  cases flags.left with
  | true =>
      simp only [not_true, false_and, if_false, if_true, putReversed_eq, putBlanks_eq,
        Sink.send_append, Sink.send_fst, List.length_reverse, Nat.add_sub_cancel_left]
  | false =>
      cases flags.zeropad with
      | true => simp [putReversed_eq]
      | false => simp [putReversed_eq, putBlanks_eq, Sink.send_append]

theorem ntoa_eq (value : Nat) (negative : Bool) (base : Nat) (prec width : UInt32) (flags : Flags) :
    ntoa out maxlen value negative base prec width flags st =
      (out.sink maxlen).send (ntoaText value negative base prec width flags) st := by
  unfold ntoa ntoaText ntoaFormat ntoaFormatText
  have same : (if value = 0 then { flags with hash := false } else flags).precision =
      flags.precision := by split <;> rfl
  have sameCase : (if value = 0 then { flags with hash := false } else flags).uppercase =
      flags.uppercase := by split <;> rfl
  simp only [outRev_eq, same, sameCase]

theorem putInteger_eq (spec : Specifier) (scan : Scan) :
    putInteger out maxlen spec scan st = (vaWord scan.va).map fun arg =>
      (arg.2, (out.sink maxlen).send
        (integerText spec scan.flags scan.width scan.precision arg.1) st) := by
  unfold putInteger integerText
  cases vaWord scan.va with
  | none => rfl
  | some arg =>
      -- The flags that are taken away do not tell how wide the value is.
      have signed : signedArg (intFlags spec scan.flags) arg.1 = signedArg scan.flags arg.1 := rfl
      have unsigned : unsignedArg (intFlags spec scan.flags) arg.1 =
          unsignedArg scan.flags arg.1 := rfl
      cases spec.isSigned <;> simp [ntoaLong, ntoaLongLong, ntoa_eq, signed, unsigned]

theorem putChar_eq (scan : Scan) :
    putChar out maxlen scan st = (vaWord scan.va).map fun arg =>
      (arg.2, (out.sink maxlen).send
        (fieldText scan.flags.left scan.width.toNat 1 [arg.1.toUInt8]) st) := by
  unfold putChar fieldText
  cases vaWord scan.va with
  | none => rfl
  | some arg => cases scan.flags.left <;> simp [putBlanks_eq, Sink.send_append] <;> rfl

theorem putString_eq (p : List UInt8) (limit : Option Nat) :
    putString out maxlen p limit st =
      (stringText p limit).map fun text => (out.sink maxlen).send text st := by
  induction p generalizing limit st with
  | nil => rfl
  | cons c p ih =>
      by_cases ends : c = 0
      · simp [putString, stringText, ends]
      · rcases limit with _ | _ | precision
        · simp only [putString, stringText, ends, if_false, ih, Option.map_map]
          rfl
        · simp [putString, stringText, ends]
        · simp only [putString, stringText, ends, if_false, ih, Option.map_map]
          rfl

theorem putText_eq (scan : Scan) :
    putText out maxlen scan st = (vaString scan.va).bind fun arg =>
      (textText scan.flags scan.width scan.precision arg.1).map fun text =>
        (arg.2, (out.sink maxlen).send text st) := by
  unfold putText textText
  cases vaString scan.va with
  | none => rfl
  | some arg =>
      simp only [Option.bind_eq_bind, Option.bind_some]
      cases strnlenS arg.1 _ with
      | none => rfl
      | some l =>
          simp only [Option.bind_some, putString_eq]
          cases stringText arg.1 _ with
          | none => rfl
          | some text =>
              cases scan.flags.left <;> simp [fieldText, putBlanks_eq, Sink.send_append]

theorem evalSpecifier_eq (c : UInt8) (scan : Scan) :
    evalSpecifier out maxlen c scan st = (specifierText c scan).map fun found =>
      (found.1, (out.sink maxlen).send found.2 st) := by
  have integer (spec : Specifier) : putInteger out maxlen spec scan st =
      ((vaWord scan.va).bind fun arg =>
        some (arg.2, integerText spec scan.flags scan.width scan.precision arg.1)).map fun found =>
          (found.1, (out.sink maxlen).send found.2 st) := by
    rw [putInteger_eq]
    cases vaWord scan.va <;> rfl
  unfold evalSpecifier specifierText
  cases Specifier.ofByte c with
  | none => rfl
  | some spec =>
      cases spec with
      | c =>
          simp only [putChar_eq]
          cases vaWord scan.va <;> rfl
      | s =>
          simp only [putText_eq]
          cases vaString scan.va with
          | none => rfl
          | some arg =>
              simp only [Option.bind_some, Option.bind_eq_bind]
              cases textText scan.flags scan.width scan.precision arg.1 <;> rfl
      | p =>
          simp only [putPointer, ntoaLongLong, ntoa_eq]
          cases vaWord scan.va <;> rfl
      | percent => rfl
      | d => exact integer .d
      | i => exact integer .i
      | u => exact integer .u
      | x => exact integer .x
      | X => exact integer .X
      | o => exact integer .o
      | b => exact integer .b

theorem conversion_eq (format : List UInt8) (va : List Arg) :
    conversion out maxlen format va st = (conversionText format va).map fun found =>
      (found.1, found.2.1, (out.sink maxlen).send found.2.2 st) := by
  unfold conversion conversionText
  cases evalFields format va with
  | none => rfl
  | some scan =>
      simp only [Option.bind_eq_bind, Option.bind_some]
      cases deref scan.format with
      | none => rfl
      | some c =>
          simp only [Option.bind_some, evalSpecifier_eq]
          cases specifierText c scan <;> rfl

theorem vsnprintfLoop_eq (rounds : Nat) (format : List UInt8) (va : List Arg) :
    vsnprintfLoop out maxlen rounds format va st =
      (formatLoop rounds format va).map fun text => (out.sink maxlen).send text st := by
  induction rounds generalizing format va st with
  | zero => rfl
  | succ rounds ih =>
      cases format with
      | nil => rfl
      | cons c format =>
          rw [vsnprintfLoop, formatLoop]
          split
          · rfl
          · split
            · rw [ih, Option.map_map]
              rfl
            · rw [conversion_eq]
              cases conversionText format va with
              | none => rfl
              | some found =>
                  simp only [Option.map_some, ih, Option.map_map]
                  congr 1
                  funext text
                  exact (Sink.send_append _ _ _ _).symm

end

/-- What the terminator is sent to, behind a text. -/
def lastIdx (len maxlen : Nat) : Nat := if len < maxlen then len else (maxlen + sizeMax) % 2 ^ 64

/-- The value of the functions: the length of the text, as an `int`. -/
def intLength (text : List UInt8) : Int := (BitVec.ofNat 32 text.length).toInt

/-- Whatever the output function does, it is sent the text, with the positions
from zero on, and then the terminator. -/
theorem vsnprintf_eq {σ : Type} (out : OutFct σ) (maxlen : Nat) (format : List UInt8)
    (va : List Arg) (s : σ) :
    vsnprintf out maxlen format va s = (formatText format va).map fun text =>
      (intLength text,
        out 0 (lastIdx text.length maxlen) maxlen ((out.sink maxlen).send text (0, s)).2) := by
  unfold vsnprintf formatText
  rw [vsnprintfLoop_eq]
  cases formatLoop format.length format va with
  | none => rfl
  | some text => simp [Sink.send_fst, lastIdx, intLength]

/-! ### The entry points -/

theorem outNull_send {σ : Type} (maxlen : Nat) (text : List UInt8) (idx : Nat) (s : σ) :
    ((outNull.sink maxlen).send text (idx, s)).2 = s := by
  induction text generalizing idx with
  | nil => rfl
  | cons c text ih => exact ih (idx + 1)

/-- A text and its terminator in a buffer, where there is room for one. -/
theorem outBuffer_send (buffer : Nat) {count : Nat} (some_room : 0 < count)
    (fits : count < 2 ^ 64) (text : List UInt8) (memory : Store UInt8) :
    outBuffer buffer 0 (lastIdx text.length count) count
        (((outBuffer buffer).sink count).send text (0, memory)).2 =
      memory.overlay buffer (text.take (count - 1) ++ [0]) := by
  have stored : (((outBuffer buffer).sink count).send text (0, memory)).2 =
      memory.overlay buffer (text.take count) := Sink.bounded_send buffer count text 0 memory
  rw [stored, outBuffer, lastIdx]
  by_cases short : text.length < count
  · have all : text.take count = text := List.take_of_length_le (Nat.le_of_lt short)
    have also : text.take (count - 1) = text := List.take_of_length_le (by omega)
    rw [if_pos short, if_pos short, all, also, Store.overlay_append]
  · -- The last character that was stored gives way to the terminator.
    have long : count - 1 < text.length := by omega
    have wraps : (count + sizeMax) % 2 ^ 64 = count - 1 := by
      rw [sizeMax]
      omega
    have split : text.take count = text.take (count - 1) ++ [text[count - 1]] := by
      rw [List.take_append_getElem long, Nat.sub_add_cancel some_room]
    have place : buffer + (count - 1) = buffer + (text.take (count - 1)).length := by
      rw [List.length_take, Nat.min_eq_left (Nat.le_of_lt long)]
    have inside : count - 1 < count := Nat.sub_lt some_room Nat.one_pos
    have same : [text[count - 1]].length = [(0 : UInt8)].length := rfl
    rw [if_neg short, wraps, if_pos inside, split, ← Store.overlay_append, place,
      Store.overlay_overlay _ _ same, Store.overlay_append]

/-- `snprintf_` stores the text up to its bound and a terminator, nothing where
there is no buffer or no room at all, and returns the length of the whole text. -/
theorem vsnprintf_stores (buffer : Nat) (count : UInt64) (format : List UInt8) (va : List Arg)
    (memory : Store UInt8) :
    vsnprintf_ buffer count format va memory = (formatText format va).map fun text =>
      (intLength text,
        if buffer = 0 ∨ count = 0 then memory
        else memory.overlay buffer (text.take (count.toNat - 1) ++ [0])) := by
  rw [vsnprintf_, vsnprintf_eq]
  congr 1
  funext text
  congr 1
  by_cases null : buffer = 0
  · rw [if_pos null, if_pos (.inl null), outNull_send]
    rfl
  · rw [if_neg null]
    by_cases none : count = 0
    · have stored : (((outBuffer buffer).sink 0).send text (0, memory)).2 = memory := by
        have empty := Sink.bounded_send buffer 0 text 0 memory
        rwa [Nat.zero_sub, List.take_zero, Store.overlay_nil] at empty
      rw [if_pos (.inr none), none]
      exact stored
    · have some_room : 0 < count.toNat := by
        rw [Nat.pos_iff_ne_zero, ne_eq, ← UInt64.toNat_zero, UInt64.toNat_inj]
        exact none
      rw [if_neg (not_or.mpr ⟨null, none⟩)]
      exact outBuffer_send buffer some_room count.toNat_lt text memory

theorem outChar_send {σ : Type} (gOutput : Option (UInt8 → σ → σ)) (maxlen : Nat)
    (text : List UInt8) (s : σ) :
    (((outChar gOutput).sink maxlen).send text (0, s)).2 =
      match gOutput with
      | some output => (text.filter (· ≠ 0)).foldl (fun s c => output c s) s
      | none => s := by
  cases gOutput with
  | none =>
      have silent : (outChar (none : Option (UInt8 → σ → σ))).sink maxlen =
          Sink.filtered (fun _ => false) fun _ s => s := by
        funext c idx s
        simp [OutFct.sink, outChar, Sink.filtered]
      rw [silent, Sink.filtered_send]
      simp
  | some output =>
      have passes : (outChar (some output)).sink maxlen =
          Sink.filtered (fun c : UInt8 => decide (c ≠ 0)) output := by
        funext c idx s
        simp [OutFct.sink, outChar, Sink.filtered]
      rw [passes, Sink.filtered_send]

/-- `printf_` sends the registered output function the characters of the text that
are not zero, and returns the length of the whole text. -/
theorem vprintf_sends {σ : Type} (gOutput : Option (UInt8 → σ → σ)) (format : List UInt8)
    (va : List Arg) (s : σ) :
    vprintf_ gOutput format va s = (formatText format va).map fun text =>
      (intLength text,
        match gOutput with
        | some output => (text.filter (· ≠ 0)).foldl (fun s c => output c s) s
        | none => s) := by
  rw [vprintf_, vsnprintf_eq]
  congr 1
  funext text
  rw [outChar_send]
  cases gOutput <;> simp [outChar]

end Mp257Fsbl.Printf
