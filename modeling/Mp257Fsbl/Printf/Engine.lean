/-
Module: Mp257Fsbl.Printf.Engine
Purpose: The formatter of printf.c: a format is scanned conversion by conversion
  and each character goes to an output function with its position.
Trusted boundary: human-reviewed model of printf.c as it is built, without
  floating point, for AArch64: long and pointers of 64 bits, char unsigned
Main exports: OutFct, Arg, Flags, FlagChar, Specifier, outRev, ntoaFormat,
  ntoaLong, conversion, vsnprintf, vsnprintf_, vprintf_, fctprintf
-/
import Mathlib.Algebra.Order.Ring.Nat
import Mp257Fsbl.Foundation.Store
import Mp257Fsbl.Utils.CString

namespace Mp257Fsbl.Printf

open Mp257Fsbl.Foundation Mp257Fsbl.Utils

/-! ### Output -/

/-- `out_fct_type`: a character, its position and `maxlen` change what lies behind
`buffer`. -/
abbrev OutFct (σ : Type) := UInt8 → (idx maxlen : Nat) → σ → σ

/-- `_out_buffer`, for the buffer at an address. -/
def outBuffer (buffer : Nat) : OutFct (Store UInt8) := fun character idx maxlen memory =>
  if idx < maxlen then memory.overlay (buffer + idx) [character] else memory

/-- `_out_null`. -/
def outNull {σ : Type} : OutFct σ := fun _ _ _ s => s

/-- `_out_char`, where `_g_output` may not be set. -/
def outChar {σ : Type} (gOutput : Option (UInt8 → σ → σ)) : OutFct σ := fun character _ _ s =>
  if character ≠ 0 then
    match gOutput with
    | some output => output character s
    | none => s
  else s

/-- `_out_fct`. -/
def outFct {σ : Type} (fct : UInt8 → σ → σ) : OutFct σ := fun character _ _ s =>
  if character ≠ 0 then fct character s else s

/-! ### Formats and arguments -/

/-- An argument behind the format: a register, or the bytes from a pointer to the
end of the object it points into. -/
inductive Arg where
  | word (w : UInt64)
  | string (p : List UInt8)

/-- The `FLAGS_` bits. -/
structure Flags where
  zeropad : Bool
  left : Bool
  plus : Bool
  space : Bool
  hash : Bool
  uppercase : Bool
  char : Bool
  short : Bool
  long : Bool
  longLong : Bool
  precision : Bool
deriving Repr, DecidableEq

def Flags.none : Flags :=
  ⟨false, false, false, false, false, false, false, false, false, false, false⟩

/-- The characters of the flags field. -/
inductive FlagChar where
  | zero
  | minus
  | plus
  | space
  | hash
deriving Repr, DecidableEq

def FlagChar.byte : FlagChar → UInt8
  | .zero => 0x30
  | .minus => 0x2D
  | .plus => 0x2B
  | .space => 0x20
  | .hash => 0x23

def FlagChar.ofByte (c : UInt8) : Option FlagChar :=
  [FlagChar.zero, .minus, .plus, .space, .hash].find? fun flag => flag.byte == c

def Flags.set (flags : Flags) : FlagChar → Flags
  | .zero => { flags with zeropad := true }
  | .minus => { flags with left := true }
  | .plus => { flags with plus := true }
  | .space => { flags with space := true }
  | .hash => { flags with hash := true }

/-- The characters of the length field; `hh` and `ll` are two of them. -/
inductive LengthChar where
  | l
  | h
  | t
  | j
  | z
deriving Repr, DecidableEq

def LengthChar.byte : LengthChar → UInt8
  | .l => 0x6C
  | .h => 0x68
  | .t => 0x74
  | .j => 0x6A
  | .z => 0x7A

def LengthChar.ofByte (c : UInt8) : Option LengthChar :=
  [LengthChar.l, .h, .t, .j, .z].find? fun length => length.byte == c

/-- The conversions that `_vsnprintf` knows; any other character prints itself. -/
inductive Specifier where
  | d
  | i
  | u
  | x
  | X
  | o
  | b
  | c
  | s
  | p
  | percent
deriving Repr, DecidableEq

def Specifier.byte : Specifier → UInt8
  | .d => 0x64
  | .i => 0x69
  | .u => 0x75
  | .x => 0x78
  | .X => 0x58
  | .o => 0x6F
  | .b => 0x62
  | .c => 0x63
  | .s => 0x73
  | .p => 0x70
  | .percent => 0x25

def Specifier.ofByte (c : UInt8) : Option Specifier :=
  [Specifier.d, .i, .u, .x, .X, .o, .b, .c, .s, .p, .percent].find? fun spec => spec.byte == c

/-! ### Scanning the fields

Each function gives the format behind its field; `none` is a read past the end of
the format's object, or an argument that is missing or of another kind. -/

/-- `va_arg` of an integer or a pointer. -/
def vaWord : List Arg → Option (UInt64 × List Arg)
  | .word w :: va => some (w, va)
  | _ => none

/-- `va_arg` of a string. -/
def vaString : List Arg → Option (List UInt8 × List Arg)
  | .string p :: va => some (p, va)
  | _ => none

/-- An `int` in a register. -/
def vaInt (va : List Arg) : Option (Int × List Arg) := do
  let (w, va) ← vaWord va
  some ((w.toBitVec.setWidth 32).toInt, va)

/-- `_atoi`, with what it has read so far. -/
def atoi (i : UInt32) : List UInt8 → Option (UInt32 × List UInt8)
  | [] => none
  | c :: str =>
      if isDigit c then atoi (i * 10 + (c - 0x30).toUInt32) str else some (i, c :: str)

def evalFlags (flags : Flags) : List UInt8 → Option (Flags × List UInt8)
  | [] => none
  | c :: format =>
      match FlagChar.ofByte c with
      | some flag => evalFlags (flags.set flag) format
      | none => some (flags, c :: format)

/-- What the scan of a conversion has found so far. -/
structure Scan where
  flags : Flags
  width : UInt32
  precision : UInt32
  format : List UInt8
  va : List Arg

def evalWidth (scan : Scan) : Option Scan := do
  let c ← deref scan.format
  if isDigit c then
    let (width, format) ← atoi 0 scan.format
    some { scan with width, format }
  else if c = 0x2A then
    let (w, va) ← vaInt scan.va
    let flags := if w < 0 then { scan.flags with left := true } else scan.flags
    some { scan with flags, width := UInt32.ofNat w.natAbs, format := scan.format.drop 1, va }
  else some scan

def evalPrecision (scan : Scan) : Option Scan := do
  let c ← deref scan.format
  if c ≠ 0x2E then some scan
  else
    let scan :=
      { scan with flags := { scan.flags with precision := true }, format := scan.format.drop 1 }
    let c ← deref scan.format
    if isDigit c then
      let (precision, format) ← atoi 0 scan.format
      some { scan with precision, format }
    else if c = 0x2A then
      let (prec, va) ← vaInt scan.va
      some { scan with precision := UInt32.ofNat prec.toNat, format := scan.format.drop 1, va }
    else some scan

/-- `ll` or `hh`: the character once more. -/
def evalTwice (c : UInt8) (flags twice : Flags) (format : List UInt8) :
    Option (Flags × List UInt8) := do
  let next ← deref format
  if next = c then some (twice, format.drop 1) else some (flags, format)

def evalLength (flags : Flags) (format : List UInt8) : Option (Flags × List UInt8) := do
  let c ← deref format
  let long := { flags with long := true }
  let short := { flags with short := true }
  match LengthChar.ofByte c with
  | some .l => evalTwice c long { long with longLong := true } (format.drop 1)
  | some .h => evalTwice c short { short with char := true } (format.drop 1)
  -- `ptrdiff_t`, `intmax_t` and `size_t` are as wide as `long`.
  | some .t => some (long, format.drop 1)
  | some .j => some (long, format.drop 1)
  | some .z => some (long, format.drop 1)
  | none => some (flags, format)

/-! ### Conversions -/

/-- `PRINTF_NTOA_BUFFER_SIZE`. -/
def ntoaBufferSize : Nat := 32

section

variable {σ : Type} (out : OutFct σ) (maxlen : Nat)

/-- `out(c, buffer, idx++, maxlen)`, on `idx` and what the function changes. -/
def putc (c : UInt8) (st : Nat × σ) : Nat × σ := (st.1 + 1, out c st.1 maxlen st.2)

/-- So many blanks. -/
def putBlanks : Nat → Nat × σ → Nat × σ
  | 0, st => st
  | n + 1, st => putBlanks n (putc out maxlen 0x20 st)

/-- `while (len) out(buf[--len], …)`. -/
def putReversed (buf : List UInt8) (st : Nat × σ) : Nat × σ :=
  buf.foldr (fun c st => putc out maxlen c st) st

/-- `_out_rev`. -/
def outRev (buf : List UInt8) (width : UInt32) (flags : Flags) (st : Nat × σ) : Nat × σ :=
  let startIdx := st.1
  let st :=
    if ¬ flags.left ∧ ¬ flags.zeropad then
      putBlanks out maxlen (width.toNat - buf.length) st
    else st
  let st := putReversed out maxlen buf st
  if flags.left then putBlanks out maxlen (width.toNat - (st.1 - startIdx)) st else st

/-- `while ((len < n) && (len < PRINTF_NTOA_BUFFER_SIZE)) buf[len++] = '0'`. -/
def padZeros (n : Nat) (buf : List UInt8) : List UInt8 :=
  buf ++ List.replicate (min n ntoaBufferSize - buf.length) 0x30

/-- `if (len < PRINTF_NTOA_BUFFER_SIZE) buf[len++] = c`. -/
def pushRoom (c : UInt8) (buf : List UInt8) : List UInt8 :=
  if buf.length < ntoaBufferSize then buf ++ [c] else buf

/-- The character in front of the digits that `FLAGS_HASH` asks for, if any. -/
def hashChar (base : Nat) (flags : Flags) : Option UInt8 :=
  if base = 16 then some (if flags.uppercase then 0x58 else 0x78)
  else if base = 2 then some 0x62
  else none

/-- Digits that make room for a prefix. -/
def hashStrip (base prec width : Nat) (flags : Flags) (buf : List UInt8) : List UInt8 :=
  if ¬ flags.precision ∧ buf.length ≠ 0 ∧ (buf.length = prec ∨ buf.length = width) then
    let buf := buf.dropLast
    if buf.length ≠ 0 ∧ base = 16 then buf.dropLast else buf
  else buf

/-- The part of `_ntoa_format` under `FLAGS_HASH`. -/
def hashed (base prec width : Nat) (flags : Flags) (buf : List UInt8) : List UInt8 :=
  let buf := hashStrip base prec width flags buf
  let buf :=
    match hashChar base flags with
    | some c => pushRoom c buf
    | none => buf
  pushRoom 0x30 buf

/-- The sign, if any. -/
def signChar (negative : Bool) (flags : Flags) : Option UInt8 :=
  if negative then some 0x2D
  else if flags.plus then some 0x2B
  else if flags.space then some 0x20
  else none

/-- The width that `_ntoa_format` goes on with: a sign takes one of the padded digits. -/
def signWidth (negative : Bool) (width : UInt32) (flags : Flags) : UInt32 :=
  if ¬ flags.left ∧ width ≠ 0 ∧ flags.zeropad ∧ (negative ∨ flags.plus ∨ flags.space) then width - 1
  else width

/-- The digits, padded unless they are aligned left. -/
def padded (prec width : Nat) (flags : Flags) (buf : List UInt8) : List UInt8 :=
  if flags.left then buf
  else if flags.zeropad then padZeros width (padZeros prec buf)
  else padZeros prec buf

/-- What `_ntoa_format` hands to `_out_rev`. -/
def ntoaBuffer (buf : List UInt8) (negative : Bool) (base prec width : Nat) (flags : Flags) :
    List UInt8 :=
  let buf := padded prec width flags buf
  let buf := if flags.hash then hashed base prec width flags buf else buf
  match signChar negative flags with
  | some c => pushRoom c buf
  | none => buf

/-- `_ntoa_format`. -/
def ntoaFormat (buf : List UInt8) (negative : Bool) (base : Nat) (prec width : UInt32)
    (flags : Flags) (st : Nat × σ) : Nat × σ :=
  let width := signWidth negative width flags
  outRev out maxlen (ntoaBuffer buf negative base prec.toNat width.toNat flags) width flags st

def digitChar (uppercase : Bool) (digit : Nat) : UInt8 :=
  UInt8.ofNat (if digit < 10 then 0x30 + digit else (if uppercase then 0x41 else 0x61) + digit - 10)

/-- The loop over the digits, the lowest first, with so much room left. -/
def ntoaDigits (base : Nat) (uppercase : Bool) : (room value : Nat) → List UInt8
  | 0, _ => []
  | room + 1, value =>
      digitChar uppercase (value % base) ::
        if value / base ≠ 0 then ntoaDigits base uppercase room (value / base) else []

/-- The text of `_ntoa_long` and `_ntoa_long_long`, which differ in their type only. -/
def ntoa (value : Nat) (negative : Bool) (base : Nat) (prec width : UInt32) (flags : Flags)
    (st : Nat × σ) : Nat × σ :=
  let flags := if value = 0 then { flags with hash := false } else flags
  let buf :=
    if ¬ flags.precision ∨ value ≠ 0 then ntoaDigits base flags.uppercase ntoaBufferSize value
    else []
  ntoaFormat out maxlen buf negative base prec width flags st

/-- `_ntoa_long`. -/
def ntoaLong := ntoa out maxlen

/-- `_ntoa_long_long`. -/
def ntoaLongLong := ntoa out maxlen

/-- The base of an integer conversion. -/
def Specifier.base : Specifier → Nat
  | .x => 16
  | .X => 16
  | .o => 8
  | .b => 2
  | _ => 10

def Specifier.isSigned (spec : Specifier) : Bool := spec == .d || spec == .i

/-- The flags that an integer conversion goes on with. -/
def intFlags (spec : Specifier) (flags : Flags) : Flags :=
  { flags with
    hash := flags.hash && spec.base != 10
    uppercase := flags.uppercase || spec == .X
    plus := flags.plus && spec.isSigned
    space := flags.space && spec.isSigned
    zeropad := flags.zeropad && !flags.precision }

/-- The value of a signed conversion. `char` is unsigned. -/
def signedArg (flags : Flags) (w : UInt64) : Int :=
  if flags.longLong ∨ flags.long then w.toBitVec.toInt
  else if flags.char then (w.toBitVec.setWidth 8).toNat
  else if flags.short then (w.toBitVec.setWidth 16).toInt
  else (w.toBitVec.setWidth 32).toInt

/-- The value of an unsigned conversion. -/
def unsignedArg (flags : Flags) (w : UInt64) : Nat :=
  if flags.longLong ∨ flags.long then w.toNat
  else if flags.char then w.toNat % 2 ^ 8
  else if flags.short then w.toNat % 2 ^ 16
  else w.toNat % 2 ^ 32

/-- The integer conversions; `0 - value` is taken to wrap for the smallest value. -/
def putInteger (spec : Specifier) (scan : Scan) (st : Nat × σ) :
    Option (List Arg × (Nat × σ)) := do
  let flags := intFlags spec scan.flags
  let (w, va) ← vaWord scan.va
  let put := if flags.longLong then ntoaLongLong out maxlen else ntoaLong out maxlen
  if spec.isSigned then
    let value := signedArg flags w
    some (va, put value.natAbs (value < 0) spec.base scan.precision scan.width flags st)
  else
    some (va, put (unsignedArg flags w) false spec.base scan.precision scan.width flags st)

/-- `%c`. -/
def putChar (scan : Scan) (st : Nat × σ) : Option (List Arg × (Nat × σ)) := do
  let blanks := scan.width.toNat - 1
  let st := if scan.flags.left then st else putBlanks out maxlen blanks st
  let (w, va) ← vaWord scan.va
  let st := putc out maxlen w.toUInt8 st
  some (va, if scan.flags.left then putBlanks out maxlen blanks st else st)

/-- `_strnlen_s`: the byte behind `maxsize` others is read too. -/
def strnlenS : List UInt8 → (maxsize : Nat) → Option Nat
  | [], _ => none
  | c :: s, maxsize =>
      if c = 0 then some 0
      else
        match maxsize with
        | 0 => some 0
        | maxsize + 1 => (strnlenS s maxsize).map (· + 1)

/-- The string output of `%s`, with the precision that is left where there is one. -/
def putString : List UInt8 → Option Nat → Nat × σ → Option (Nat × σ)
  | [], _, _ => none
  | c :: p, limit, st =>
      if c = 0 then some st
      else
        match limit with
        | none => putString p none (putc out maxlen c st)
        | some 0 => some st
        | some (precision + 1) => putString p (some precision) (putc out maxlen c st)

/-- `(size_t)-1`. -/
def sizeMax : Nat := 2 ^ 64 - 1

/-- `%s`. -/
def putText (scan : Scan) (st : Nat × σ) : Option (List Arg × (Nat × σ)) := do
  let (p, va) ← vaString scan.va
  let precision := scan.precision.toNat
  let l ← strnlenS p (if precision ≠ 0 then precision else sizeMax)
  let l := l % 2 ^ 32
  let l := if scan.flags.precision then min l precision else l
  let blanks := scan.width.toNat - l
  let st := if scan.flags.left then st else putBlanks out maxlen blanks st
  let st ← putString out maxlen p (if scan.flags.precision then some precision else none) st
  some (va, if scan.flags.left then putBlanks out maxlen blanks st else st)

/-- `%p`. -/
def putPointer (scan : Scan) (st : Nat × σ) : Option (List Arg × (Nat × σ)) := do
  let flags := { scan.flags with zeropad := true, uppercase := true }
  let (w, va) ← vaWord scan.va
  some (va, ntoaLongLong out maxlen w.toNat false 16 scan.precision 16 flags st)

/-- The switch over the specifier. -/
def evalSpecifier (c : UInt8) (scan : Scan) (st : Nat × σ) : Option (List Arg × (Nat × σ)) :=
  match Specifier.ofByte c with
  | some .c => putChar out maxlen scan st
  | some .s => putText out maxlen scan st
  | some .p => putPointer out maxlen scan st
  | some .percent => some (scan.va, putc out maxlen 0x25 st)
  | some spec => putInteger out maxlen spec scan st
  | none => some (scan.va, putc out maxlen c st)

/-- The fields between `%` and the specifier. -/
def evalFields (format : List UInt8) (va : List Arg) : Option Scan := do
  let (flags, format) ← evalFlags Flags.none format
  let scan ← evalWidth { flags, width := 0, precision := 0, format, va }
  let scan ← evalPrecision scan
  let (flags, format) ← evalLength scan.flags scan.format
  some { scan with flags, format }

/-- One conversion, behind its `%`. -/
def conversion (format : List UInt8) (va : List Arg) (st : Nat × σ) :
    Option (List UInt8 × List Arg × (Nat × σ)) := do
  let scan ← evalFields format va
  let c ← deref scan.format
  let (va, st) ← evalSpecifier out maxlen c scan st
  some (scan.format.drop 1, va, st)

/-- The loop of `_vsnprintf`; each round reads one character at least, so that as
many rounds as the format has bytes are enough. -/
def vsnprintfLoop : (rounds : Nat) → List UInt8 → List Arg → Nat × σ → Option (Nat × σ)
  | 0, _, _, _ => none
  | _ + 1, [], _, _ => none
  | rounds + 1, c :: format, va, st =>
      if c = 0 then some st
      else if c ≠ 0x25 then vsnprintfLoop rounds format va (putc out maxlen c st)
      else
        match conversion out maxlen format va st with
        | some (format, va, st) => vsnprintfLoop rounds format va st
        | none => none

/-- `_vsnprintf` behind its choice of the output function. -/
def vsnprintf (format : List UInt8) (va : List Arg) (s : σ) : Option (Int × σ) := do
  let (idx, s) ← vsnprintfLoop out maxlen format.length format va (0, s)
  let last := if idx < maxlen then idx else (maxlen + sizeMax) % 2 ^ 64
  some ((BitVec.ofNat 32 idx).toInt, out 0 last maxlen s)

end

/-! ### Entry points -/

/-- `vsnprintf_` and `snprintf_`, into the memory at `buffer`, which may be null. -/
def vsnprintf_ (buffer : Nat) (count : UInt64) (format : List UInt8) (va : List Arg)
    (memory : Store UInt8) : Option (Int × Store UInt8) :=
  vsnprintf (if buffer = 0 then outNull else outBuffer buffer) count.toNat format va memory

/-- `vprintf_` and `printf_`. -/
def vprintf_ {σ : Type} (gOutput : Option (UInt8 → σ → σ)) (format : List UInt8) (va : List Arg)
    (s : σ) : Option (Int × σ) :=
  vsnprintf (outChar gOutput) sizeMax format va s

/-- `fctprintf`. -/
def fctprintf {σ : Type} (fct : UInt8 → σ → σ) (format : List UInt8) (va : List Arg) (s : σ) :
    Option (Int × σ) :=
  vsnprintf (outFct fct) sizeMax format va s

end Mp257Fsbl.Printf
