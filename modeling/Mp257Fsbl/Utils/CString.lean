/-
Module: Mp257Fsbl.Utils.CString
Purpose: The string functions of string.c on the bytes from a pointer to the
  end of its buffer.
Trusted boundary: human-reviewed model of strlen, strncmp, strchr, strncpy and
  strtoul
Main exports: strlen, strncmp, strchr, strncpy, skipWhile, strtoul, peek,
  run_ends
-/
import Mathlib.Init

namespace Mp257Fsbl.Utils

/-! A pointer is the list of the bytes from it to the end of the buffer it
points into, and `none` is a read past that end. -/

/-- `*p`. -/
abbrev deref (p : List UInt8) : Option UInt8 := p.head?

def strlen : List UInt8 → Option Nat
  | [] => none
  | c :: s => if c = 0 then some 0 else (strlen s).map (· + 1)

/-- `strncmp`, by the difference of the first two bytes that differ. -/
def strncmp : (a b : List UInt8) → (n : Nat) → Option Int
  | _, _, 0 => some 0
  | ca :: a, cb :: b, n + 1 =>
      if ca ≠ cb then some (ca.toNat - cb.toNat)
      else if ca = 0 then some 0
      else strncmp a b n
  | _, _, _ + 1 => none

/-- `strchr`, by the offset of the result; `some none` is the null pointer. -/
def strchr (s : List UInt8) (c : UInt8) : Option (Option Nat) :=
  match s with
  | [] => none
  | d :: s =>
      if d = 0 then if c = 0 then some (some 0) else some none
      else if d = c then some (some 0)
      else (strchr s c).map fun found => found.map (· + 1)

/-- The `n` bytes that `strncpy` writes. -/
def strncpy : (src : List UInt8) → (n : Nat) → Option (List UInt8)
  | _, 0 => some []
  | [], _ + 1 => none
  | c :: src, n + 1 =>
      if c = 0 then some (List.replicate (n + 1) 0) else (strncpy src n).map (c :: ·)

/-- `while (skip(*p)) p++`. -/
def skipWhile (skip : UInt8 → Bool) : List UInt8 → Option (List UInt8)
  | [] => none
  | c :: p => if skip c then skipWhile skip p else some (c :: p)

/-! ### Numbers -/

def isDigit (c : UInt8) : Bool := 0x30 ≤ c && c ≤ 0x39
def isLower (c : UInt8) : Bool := 0x61 ≤ c && c ≤ 0x7A
def isUpper (c : UInt8) : Bool := 0x41 ≤ c && c ≤ 0x5A

/-- The `digit` of the conversion loop, before it is compared with the base. -/
def digitValue (c : UInt8) : Option Nat :=
  if isDigit c then some (c - 0x30).toNat
  else if isLower c then some ((c - 0x61).toNat + 10)
  else if isUpper c then some ((c - 0x41).toNat + 10)
  else none

/-- The base of `strtoul` and where its digits start. -/
def strtoulBase (base : Nat) (p : List UInt8) : Option (Nat × List UInt8) := do
  let c0 ← deref p
  if (base = 0 ∨ base = 16) ∧ c0 = 0x30 then
    let c1 ← deref (p.drop 1)
    if c1 = 0x78 ∨ c1 = 0x58 then some (16, p.drop 2)
    else some (if base = 0 then 8 else base, p)
  else some (if base = 0 then 10 else base, p)

/-- The conversion loop; `unsigned long` wraps at 64 bits. -/
def strtoulDigits (base : Nat) (val : UInt64) : List UInt8 → Option (UInt64 × List UInt8)
  | [] => none
  | c :: p =>
      match digitValue c with
      | none => some (val, c :: p)
      | some digit =>
          if digit ≥ base then some (val, c :: p)
          else strtoulDigits base (val * UInt64.ofNat base + UInt64.ofNat digit) p

/-- `strtoul`: the value and `*endptr`. -/
def strtoul (nptr : List UInt8) (base : Nat) : Option (UInt64 × List UInt8) := do
  let p ← skipWhile (fun c => c == 0x20 || c == 0x09) nptr
  let sign ← deref p
  let p := if sign = 0x2B then p.drop 1 else p
  let (base, p) ← strtoulBase base p
  strtoulDigits base 0 p

/-! ### Terminated strings

Every function stays inside a buffer that holds a terminator. -/

/-- There is a terminator between the pointer and the end of its buffer. -/
def Terminated (p : List UInt8) : Prop := 0 ∈ p

/-- No byte of the text is the terminator. -/
def NoNul (text : List UInt8) : Prop := ∀ c ∈ text, c ≠ 0

theorem noNul_cons {c : UInt8} {text : List UInt8} : NoNul (c :: text) ↔ c ≠ 0 ∧ NoNul text := by
  simp [NoNul]

theorem Terminated.tail {c : UInt8} {p : List UInt8} (terminated : Terminated (c :: p))
    (more : c ≠ 0) : Terminated p := by
  rcases List.mem_cons.mp terminated with last | later
  · exact absurd last.symm more
  · exact later

theorem terminated_append (text rest : List UInt8) : Terminated (text ++ 0 :: rest) :=
  List.mem_append_right text List.mem_cons_self

theorem deref_terminated {p : List UInt8} (terminated : Terminated p) :
    ∃ c, deref p = some c := by
  cases p with
  | nil => cases terminated
  | cons c p => exact ⟨c, rfl⟩

theorem strlen_append {text : List UInt8} (noNul : NoNul text) (rest : List UInt8) :
    strlen (text ++ 0 :: rest) = some text.length := by
  induction text with
  | nil => rfl
  | cons c text ih =>
      obtain ⟨more, noNul⟩ := noNul_cons.mp noNul
      simp [strlen, more, ih noNul]

/-- The copy is padded with terminators to its full size. -/
theorem strncpy_append {text : List UInt8} (noNul : NoNul text) (rest : List UInt8) {n : Nat}
    (fits : text.length ≤ n) :
    strncpy (text ++ 0 :: rest) n = some (text ++ List.replicate (n - text.length) 0) := by
  induction text generalizing n with
  | nil => cases n <;> rfl
  | cons c text ih =>
      obtain ⟨more, noNul⟩ := noNul_cons.mp noNul
      cases n with
      | zero => cases fits
      | succ n =>
          have copied := ih noNul (Nat.le_of_succ_le_succ fits)
          simp [strncpy, more, copied]

/-- What is skipped is skipped up to the first byte that is not. -/
theorem skipWhile_append {skip : UInt8 → Bool} {text : List UInt8}
    (skipped : ∀ c ∈ text, skip c = true) {stop : UInt8} (stops : skip stop = false)
    (rest : List UInt8) : skipWhile skip (text ++ stop :: rest) = some (stop :: rest) := by
  induction text with
  | nil => simp [skipWhile, stops]
  | cons c text ih =>
      have here := skipped c List.mem_cons_self
      have tail := ih fun d member => skipped d (List.mem_cons_of_mem _ member)
      simp [skipWhile, here, tail]

/-- The byte at the start of the text, or the terminator behind it. -/
def peek (text : List UInt8) : UInt8 := text.headD 0

theorem append_eq_peek (text rest : List UInt8) :
    ∃ tail, text ++ 0 :: rest = peek text :: tail := by
  cases text with
  | nil => exact ⟨rest, rfl⟩
  | cons c text => exact ⟨text ++ 0 :: rest, rfl⟩

/-- What is skipped is skipped up to the text behind it. -/
theorem skipWhile_run {skip : UInt8 → Bool} {run text : List UInt8}
    (skipped : ∀ c ∈ run, skip c = true) (ends : skip (peek text) = false) (rest : List UInt8) :
    skipWhile skip (run ++ (text ++ 0 :: rest)) = some (text ++ 0 :: rest) := by
  obtain ⟨tail, split⟩ := append_eq_peek text rest
  rw [split]
  exact skipWhile_append skipped ends tail

/-- A text splits where a run of characters ends. -/
theorem run_ends (run : UInt8 → Bool) (stops : run 0 = false) (text : List UInt8) :
    ∃ first after, text = first ++ after ∧ (∀ c ∈ first, run c = true) ∧
      run (peek after) = false := by
  induction text with
  | nil => exact ⟨[], [], rfl, by simp, stops⟩
  | cons c text ih =>
      cases here : run c with
      | false => exact ⟨[], c :: text, rfl, by simp, here⟩
      | true =>
          obtain ⟨first, after, rfl, runs, ends⟩ := ih
          exact ⟨c :: first, after, rfl, by simpa [here] using runs, ends⟩

/-- What stops at a terminator stays inside the buffer. -/
theorem skipWhile_terminated (skip : UInt8 → Bool) (stops : skip 0 = false) {p : List UInt8}
    (terminated : Terminated p) : ∃ q, skipWhile skip p = some q ∧ Terminated q := by
  induction p with
  | nil => cases terminated
  | cons c p ih =>
      rw [skipWhile]
      cases skipped : skip c with
      | false => exact ⟨c :: p, rfl, terminated⟩
      | true =>
          apply ih (terminated.tail _)
          rintro rfl
          exact absurd (stops.symm.trans skipped) (by decide)

/-- What `strchr` finds is inside the buffer and behind characters of the
string only. -/
theorem strchr_terminated {s : List UInt8} (terminated : Terminated s) (c : UInt8) :
    ∃ found, strchr s c = some found ∧
      ∀ i, found = some i → i < s.length ∧ NoNul (s.take i) := by
  induction s with
  | nil => cases terminated
  | cons d s ih =>
      rw [strchr]
      by_cases stop : d = 0
      · refine ⟨if c = 0 then some 0 else none, by simp only [stop, if_true]; split <;> rfl, ?_⟩
        intro i found
        split at found
        · cases found
          exact ⟨Nat.zero_lt_succ _, fun _ member => nomatch member⟩
        · cases found
      · by_cases here : d = c
        · refine ⟨some 0, by rw [if_neg stop, if_pos here], ?_⟩
          intro i found
          cases found
          exact ⟨Nat.zero_lt_succ _, fun _ member => nomatch member⟩
        · obtain ⟨found, scan, before⟩ := ih (terminated.tail stop)
          refine ⟨found.map (· + 1), by simp only [stop, here, if_false, scan, Option.map_some], ?_⟩
          intro i shifted
          cases found with
          | none => cases shifted
          | some j =>
              cases shifted
              obtain ⟨inside, noNul⟩ := before j rfl
              exact ⟨Nat.succ_lt_succ inside, noNul_cons.mpr ⟨stop, noNul⟩⟩

/-- A comparison stops at the first difference or terminator. Where the first
`n` bytes agree and hold no terminator, the other string is longer than `n`. -/
theorem strncmp_terminated {a b : List UInt8} (first : Terminated a) (second : Terminated b)
    (n : Nat) :
    ∃ order, strncmp a b n = some order ∧
      (order = 0 → NoNul (a.take n) → n < a.length → ∃ c, b[n]? = some c) := by
  induction n generalizing a b with
  | zero =>
      refine ⟨0, by unfold strncmp; rfl, fun _ _ _ => ?_⟩
      obtain ⟨c, head⟩ := deref_terminated second
      exact ⟨c, List.head?_eq_getElem?.symm.trans head⟩
  | succ n ih =>
      cases a with
      | nil => cases first
      | cons ca a =>
          cases b with
          | nil => cases second
          | cons cb b =>
              rw [strncmp]
              by_cases same : ca = cb
              · subst same
                by_cases stop : ca = 0
                · refine ⟨0, by simp [stop], fun _ noNul => ?_⟩
                  exact absurd stop (noNul_cons.mp noNul).1
                · obtain ⟨order, compared, longer⟩ :=
                    ih (first.tail stop) (second.tail stop)
                  refine ⟨order, by simp only [ne_eq, not_true_eq_false, if_false, stop, compared],
                    ?_⟩
                  intro equal noNul inside
                  exact longer equal (noNul_cons.mp noNul).2 (Nat.lt_of_succ_lt_succ inside)
              · refine ⟨ca.toNat - cb.toNat, if_pos same, fun equal => ?_⟩
                have values : ca.toNat = cb.toNat := by omega
                exact absurd (UInt8.toNat.inj values) same

/-- Comparing the whole of a text with a longer or equal string asks whether it
is a prefix. -/
theorem strncmp_prefix {text word : List UInt8} (noNul : NoNul text) (whole : NoNul word)
    (rest behind : List UInt8) :
    ∃ order, strncmp (text ++ rest) (word ++ 0 :: behind) text.length = some order ∧
      (order = 0 ↔ text <+: word) := by
  induction text generalizing word with
  | nil => exact ⟨0, by unfold strncmp; rfl, by simp⟩
  | cons c text ih =>
      obtain ⟨more, noNul⟩ := noNul_cons.mp noNul
      cases word with
      | nil =>
          refine ⟨c.toNat - (0 : UInt8).toNat, by simp [strncmp, more], ?_⟩
          have differs : c.toNat ≠ 0 := fun same => more (UInt8.toNat.inj same)
          simp [differs]
      | cons d word =>
          obtain ⟨_, tail⟩ := noNul_cons.mp whole
          by_cases same : c = d
          · subst same
            obtain ⟨order, compared, iff⟩ := ih noNul tail
            refine ⟨order, ?_, ?_⟩
            · simp only [List.cons_append, List.length_cons, strncmp, ne_eq, not_true_eq_false,
                if_false, more, compared]
            · rw [iff, List.cons_prefix_cons]
              exact (and_iff_right rfl).symm
          · refine ⟨c.toNat - d.toNat, by simp [strncmp, same], ?_⟩
            have differs : c.toNat ≠ d.toNat := fun values => same (UInt8.toNat.inj values)
            rw [List.cons_prefix_cons]
            simp only [same, false_and, iff_false]
            omega

theorem strtoulBase_terminated (base : Nat) {p : List UInt8} (terminated : Terminated p) :
    ∃ found q, strtoulBase base p = some (found, q) ∧ Terminated q := by
  obtain ⟨c0, first⟩ := deref_terminated terminated
  by_cases zero : (base = 0 ∨ base = 16) ∧ c0 = 0x30
  · cases p with
    | nil => cases terminated
    | cons c p =>
        obtain rfl : c = c0 := Option.some.inj first
        have rest : Terminated p := terminated.tail (by rw [zero.2]; decide)
        obtain ⟨c1, second⟩ := deref_terminated rest
        by_cases hex : c1 = 0x78 ∨ c1 = 0x58
        · cases p with
          | nil => cases rest
          | cons d p =>
              cases second
              refine ⟨16, p, ?_, rest.tail ?_⟩
              · simp [strtoulBase, zero, hex]
              · rcases hex with rfl | rfl <;> decide
        · refine ⟨if base = 0 then 8 else base, c :: p, ?_, terminated⟩
          have second : deref p = some c1 := second
          have head : strtoulBase base (c :: p) = (deref p).bind fun c1 =>
              if c1 = 0x78 ∨ c1 = 0x58 then some (16, p.drop 1)
              else some (if base = 0 then 8 else base, c :: p) := by
            simp only [strtoulBase, List.head?_cons, Option.bind_eq_bind, Option.bind_some, zero,
              and_self, if_true, List.drop_one, List.drop_succ_cons, List.drop_zero]
          rw [head, second, Option.bind_some, if_neg hex]
  · refine ⟨if base = 0 then 10 else base, p, ?_, terminated⟩
    have first : p.head? = some c0 := first
    simp only [strtoulBase, first, Option.bind_eq_bind, Option.bind_some, zero, if_false]

theorem strtoulDigits_terminated (base : Nat) (val : UInt64) {p : List UInt8}
    (terminated : Terminated p) :
    ∃ result q, strtoulDigits base val p = some (result, q) ∧ Terminated q := by
  induction p generalizing val with
  | nil => cases terminated
  | cons c p ih =>
      rw [strtoulDigits]
      cases value : digitValue c with
      | none => exact ⟨val, c :: p, rfl, terminated⟩
      | some digit =>
          have more : c ≠ 0 := by
            rintro rfl
            have none_ : digitValue 0 = none := by decide
            exact absurd (none_.symm.trans value) (by simp)
          dsimp only
          split
          · exact ⟨val, c :: p, rfl, terminated⟩
          · exact ih _ (terminated.tail more)

theorem strtoul_terminated (base : Nat) {p : List UInt8} (terminated : Terminated p) :
    ∃ result q, strtoul p base = some (result, q) ∧ Terminated q := by
  have stops : ((0 : UInt8) == 0x20 || (0 : UInt8) == 0x09) = false := by decide
  obtain ⟨start, skipped, terminated⟩ :=
    skipWhile_terminated (fun c => c == 0x20 || c == 0x09) stops terminated
  obtain ⟨sign, first⟩ := deref_terminated terminated
  have signed : Terminated (if sign = 0x2B then start.drop 1 else start) := by
    split
    · rename_i plus
      cases start with
      | nil => cases terminated
      | cons c start =>
          cases first
          exact terminated.tail (by rw [plus]; decide)
    · exact terminated
  obtain ⟨found, digits, based, terminated⟩ := strtoulBase_terminated base signed
  obtain ⟨result, rest, read, terminated⟩ := strtoulDigits_terminated found 0 terminated
  refine ⟨result, rest, ?_, terminated⟩
  have first : start.head? = some sign := first
  simp only [strtoul, skipped, Option.bind_eq_bind, Option.bind_some, first, based, read]

end Mp257Fsbl.Utils
