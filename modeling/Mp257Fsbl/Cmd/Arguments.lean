/-
Module: Mp257Fsbl.Cmd.Arguments
Purpose: The arguments of a command line: what is read back from a line that was
  written out, and what is read from any line.
Trusted boundary: none
Main exports: WrittenArgument, parseArgs_written, Named, Reads, parseArgs_reads
-/
import Mp257Fsbl.Cmd.Complete
import Mp257Fsbl.Utils.Numeral

namespace Mp257Fsbl.Cmd

open Mp257Fsbl.Utils

/-! ### The `name=` prefix -/

/-- A character of a `name=` prefix. -/
def isNameChar (c : UInt8) : Bool := isUpper c || isLower c || c == 0x5F

/-- Digits, the characters of a name and spaces are different characters. -/
theorem not_isNameChar_of_isDigit {c : UInt8} (digit : isDigit c = true) :
    isNameChar c = false := by
  simp only [isDigit, Bool.and_eq_true, decide_eq_true_eq, UInt8.le_iff_toNat_le] at digit
  have low : (0x30 : UInt8).toNat = 0x30 := rfl
  have high : (0x39 : UInt8).toNat = 0x39 := rfl
  have upper : isUpper c = false := by
    simp only [isUpper, Bool.and_eq_false_iff, decide_eq_false_iff_not, UInt8.le_iff_toNat_le]
    left
    change ¬ 0x41 ≤ c.toNat
    omega
  have lower : isLower c = false := by
    simp only [isLower, Bool.and_eq_false_iff, decide_eq_false_iff_not, UInt8.le_iff_toNat_le]
    left
    change ¬ 0x61 ≤ c.toNat
    omega
  have underscore : (c == 0x5F) = false := by
    apply beq_false_of_ne
    rintro rfl
    exact absurd digit (by decide)
  simp [isNameChar, upper, lower, underscore]

theorem not_myIsspace_of {kind : UInt8 → Bool}
    (others : ([0x20, 0x0C, 0x0A, 0x0D, 0x09, 0x0B].all fun c => !kind c) = true) {c : UInt8}
    (of_kind : kind c = true) : myIsspace c = false := by
  cases space : myIsspace c with
  | false => rfl
  | true =>
      simp only [myIsspace, Bool.or_eq_true, beq_iff_eq, or_assoc] at space
      have other := List.all_eq_true.mp others c (by simpa using space)
      rw [of_kind] at other
      cases other

/-- A text, split as `parse_args_uint32` splits it: the prefix with its sign of
equality, which may be missing, and the rest. -/
inductive Named : (text name rest : List UInt8) → Prop where
  | name {letters rest : List UInt8} :
      letters ≠ [] → (∀ c ∈ letters, isNameChar c = true) →
        Named (letters ++ 0x3D :: rest) (letters ++ [0x3D]) rest
  | plain {letters rest : List UInt8} :
      (∀ c ∈ letters, isNameChar c = true) → isNameChar (peek rest) = false →
        (letters = [] ∨ peek rest ≠ 0x3D) → Named (letters ++ rest) [] (letters ++ rest)

theorem Named.append {text name rest : List UInt8} (named : Named text name rest) :
    text = name ++ rest := by
  cases named with
  | name some_letters letters => simp
  | plain letters ends other => rfl

theorem named_exists (text : List UInt8) : ∃ name rest, Named text name rest := by
  obtain ⟨letters, rest, rfl, all, ends⟩ := run_ends isNameChar (by decide) text
  by_cases named : letters ≠ [] ∧ peek rest = 0x3D
  · cases rest with
    | nil => exact absurd named.2 (by decide)
    | cons c rest =>
        obtain rfl : c = 0x3D := named.2
        exact ⟨_, _, .name named.1 all⟩
  · refine ⟨[], letters ++ rest, .plain all ends ?_⟩
    exact (not_and_or.mp named).imp not_not.mp id

theorem skipNamePrefix_named {text name after : List UInt8} (named : Named text name after)
    (rest : List UInt8) : skipNamePrefix (text ++ 0 :: rest) = some (after ++ 0 :: rest) := by
  cases named with
  | @name letters _ some_letters all =>
      have skipped : skipWhile (fun c => isUpper c || isLower c || c == 0x5F)
          (letters ++ 0x3D :: (after ++ 0 :: rest)) = some (0x3D :: (after ++ 0 :: rest)) :=
        skipWhile_append all rfl _
      have shorter : 0 < letters.length := List.length_pos_iff.mpr some_letters
      rw [List.append_assoc, List.cons_append, skipNamePrefix, skipped]
      have moved : (0x3D :: (after ++ 0 :: rest)).length ≠
          (letters ++ 0x3D :: (after ++ 0 :: rest)).length := by
        simp only [List.length_append, List.length_cons]
        omega
      simp only [Option.bind_eq_bind, Option.bind_some, List.head?_cons, ne_eq, moved,
        not_false_eq_true, and_self, if_true, List.drop_one, List.tail_cons]
      rfl
  | @plain letters behind all ends other =>
      have skipped : skipWhile (fun c => isUpper c || isLower c || c == 0x5F)
          (letters ++ (behind ++ 0 :: rest)) = some (behind ++ 0 :: rest) :=
        skipWhile_run all ends rest
      obtain ⟨tail, split⟩ := append_eq_peek behind rest
      rw [List.append_assoc, skipNamePrefix, skipped, split]
      have stays : ¬ ((peek behind :: tail).length ≠ (letters ++ peek behind :: tail).length ∧
          peek behind = 0x3D) := by
        rintro ⟨moved, sign⟩
        rcases other with rfl | other
        · exact moved rfl
        · exact other sign
      simp only [Option.bind_eq_bind, Option.bind_some, List.head?_cons, stays, if_false]
      rfl

/-! ### One round -/

/-- A round that reads something goes on behind the spaces. -/
theorem parseArgsFrom_succ {n value : Nat} {text name start after rest : List UInt8}
    (more : peek text ≠ 0) (named : Named text name start)
    (read : strtoul (start ++ 0 :: rest) 0 = some (UInt64.ofNat value, after ++ 0 :: rest))
    (moved : after.length ≠ start.length) :
    parseArgsFrom (n + 1) (text ++ 0 :: rest) = do
      let next ← skipSpace (after ++ 0 :: rest)
      let (count, args) ← parseArgsFrom n next
      return (count + 1, UInt32.ofNat value :: args) := by
  cases text with
  | nil => exact absurd rfl more
  | cons c text =>
      have more : c ≠ 0 := more
      have shorter : (after ++ 0 :: rest).length ≠ (start ++ 0 :: rest).length := by
        simp only [List.length_append]
        omega
      have skipped := skipNamePrefix_named named rest
      rw [List.cons_append] at skipped ⊢
      rw [parseArgsFrom]
      simp only [List.head?_cons, Option.bind_eq_bind, Option.bind_some, more, if_false, skipped,
        read, shorter, UInt64.toUInt32_ofNat']

/-! ### Lines that are written out -/

/-- One argument as it is written: the spaces in front of it, an optional name
and a numeral in any notation. -/
structure WrittenArgument where
  gap : Nat
  name : List UInt8
  base : Nat
  numeral : List UInt8
  value : UInt32
  spaced : 0 < gap
  letters : ∀ c ∈ name, isNameChar c = true
  reads : Numeral base numeral value.toNat

namespace WrittenArgument

/-- The argument without the spaces in front. -/
def text (arg : WrittenArgument) : List UInt8 :=
  (if arg.name = [] then [] else arg.name ++ [0x3D]) ++ arg.numeral

/-- Every value can be written in every notation, with any name. -/
theorem every_notation {gap : Nat} (spaced : 0 < gap) {name : List UInt8}
    (letters : ∀ c ∈ name, isNameChar c = true) (value : UInt32) (upper : Bool) {x : UInt8}
    (marks : x = 0x78 ∨ x = 0x58) {numeral : List UInt8}
    (chosen : numeral = decimalDigits value.toNat ∨
      numeral = 0x30 :: digitsOf false 8 value.toNat ∨
      numeral = 0x30 :: x :: hexDigits upper value.toNat) :
    ∃ arg : WrittenArgument, arg.gap = gap ∧ arg.name = name ∧ arg.numeral = numeral ∧
      arg.value = value := by
  obtain ⟨base, reads⟩ : ∃ base, Numeral base numeral value.toNat := by
    rcases chosen with rfl | rfl | rfl
    · exact numeral_decimal value.toNat
    · exact ⟨8, numeral_octal value.toNat⟩
    · exact ⟨16, numeral_hex marks upper value.toNat⟩
  exact ⟨⟨gap, name, base, numeral, value, spaced, letters, reads⟩, rfl, rfl, rfl, rfl⟩

theorem text_named (arg : WrittenArgument) (after : List UInt8) :
    ∃ name, Named (arg.text ++ after) name (arg.numeral ++ after) := by
  by_cases plain : arg.name = []
  · have digit := isDigit_of_isDigitOf (arg.reads.starts after)
    have named := @Named.plain [] (arg.numeral ++ after) (by simp)
      (not_isNameChar_of_isDigit digit) (.inl rfl)
    refine ⟨[], ?_⟩
    simpa [text, plain] using named
  · have named := @Named.name arg.name (arg.numeral ++ after) plain arg.letters
    refine ⟨arg.name ++ [0x3D], ?_⟩
    simpa [text, plain] using named

/-- An argument starts with a letter or a digit. -/
theorem text_starts (arg : WrittenArgument) (after : List UInt8) :
    peek (arg.text ++ after) ≠ 0 ∧ myIsspace (peek (arg.text ++ after)) = false := by
  cases names : arg.name with
  | nil =>
      have digit := isDigit_of_isDigitOf (arg.reads.starts after)
      have start : arg.text ++ after = arg.numeral ++ after := by simp [text, names]
      rw [start]
      refine ⟨fun zero => ?_, not_myIsspace_of rfl digit⟩
      exact absurd (zero ▸ digit) (by decide)
  | cons c letters =>
      have letter : isNameChar c = true := arg.letters c (by simp [names])
      have start : peek (arg.text ++ after) = c := by simp [text, names, peek]
      rw [start]
      refine ⟨fun zero => ?_, not_myIsspace_of rfl letter⟩
      exact absurd (zero ▸ letter) (by decide)

/-- The text of all arguments, with the spaces that trail them. -/
def allText (args : List WrittenArgument) (trailing : Nat) : List UInt8 :=
  args.flatMap (fun arg => List.replicate arg.gap 0x20 ++ arg.text) ++
    List.replicate trailing 0x20

/-- Behind an argument there is a space or the end. -/
theorem peek_allText (args : List WrittenArgument) (trailing : Nat) :
    peek (allText args trailing) = 0 ∨ peek (allText args trailing) = 0x20 := by
  cases args with
  | nil =>
      cases trailing with
      | zero => exact .inl rfl
      | succ trailing => exact .inr rfl
  | cons arg args =>
      right
      obtain ⟨gap, spaced⟩ := Nat.exists_eq_succ_of_ne_zero (Nat.pos_iff_ne_zero.mp arg.spaced)
      simp [allText, spaced, List.replicate_succ, peek]

/-- A numeral ends before the next argument. -/
theorem longest_allText (arg : WrittenArgument) (args : List WrittenArgument) (trailing : Nat) :
    Longest arg.base arg.numeral (allText args trailing) := by
  have end_ : digitValue 0 = none := by decide
  have space : digitValue 0x20 = none := by decide
  rcases peek_allText args trailing with behind | behind
  · exact ⟨by simp [isDigitOf, behind, end_], fun _ => by rw [behind]; decide⟩
  · exact ⟨by simp [isDigitOf, behind, space], fun _ => by rw [behind]; decide⟩

end WrittenArgument

open WrittenArgument in
/-- The arguments are read back in their order, whatever spaces trail them. -/
theorem parseArgsFrom_written (args : List WrittenArgument) (trailing : Nat) (rest : List UInt8)
    {n : Nat} (count : args.length ≤ n) :
    (do let next ← skipSpace (allText args trailing ++ 0 :: rest)
        parseArgsFrom n next) =
      some (args.length, args.map WrittenArgument.value) := by
  have space : ∀ k, ∀ c ∈ List.replicate k (0x20 : UInt8), myIsspace c = true := by
    intro k c member
    rw [List.eq_of_mem_replicate member]
    rfl
  induction args generalizing n with
  | nil =>
      have skipped : skipSpace (List.replicate trailing 0x20 ++ 0 :: rest) = some (0 :: rest) :=
        skipWhile_append (space trailing) rfl rest
      rw [allText, List.flatMap_nil, List.nil_append, skipped]
      cases n <;> rfl
  | cons arg args ih =>
      cases n with
      | zero => cases count
      | succ n =>
          have later := ih (Nat.le_of_succ_le_succ count)
          obtain ⟨more, start⟩ := arg.text_starts (allText args trailing)
          obtain ⟨name, named⟩ := arg.text_named (allText args trailing)
          have read := StrtoulReads.strtoul
            (.number (@Lead.blanks [] (by simp)) arg.reads
              (arg.longest_allText args trailing)) rest
          rw [List.nil_append] at read
          have moved : (allText args trailing).length ≠
              (arg.numeral ++ allText args trailing).length := by
            have some_digits := List.length_pos_iff.mpr arg.reads.ne_nil
            rw [List.length_append]
            omega
          have round := @parseArgsFrom_succ n _ _ _ _ _ rest more named read moved
          have skipped : skipSpace (List.replicate arg.gap 0x20 ++
              (arg.text ++ allText args trailing ++ 0 :: rest)) =
              some (arg.text ++ allText args trailing ++ 0 :: rest) :=
            skipWhile_run (space arg.gap) start rest
          have whole : allText (arg :: args) trailing ++ 0 :: rest =
              List.replicate arg.gap 0x20 ++
                (arg.text ++ allText args trailing ++ 0 :: rest) := by
            simp [allText]
          rw [whole, skipped, Option.bind_eq_bind, Option.bind_some, round]
          cases onward : skipSpace (allText args trailing ++ 0 :: rest) with
          | none => simp [onward] at later
          | some p =>
              rw [onward, Option.bind_eq_bind, Option.bind_some] at later
              simp [later]

/-- A line of written arguments is read back: all of them, in their order. -/
theorem parseArgs_written (word : List UInt8) (args : List WrittenArgument) (trailing : Nat) :
    (∀ c ∈ word, c ≠ 0 ∧ myIsspace c = false) → args.length ≤ 3 →
      (word ++ WrittenArgument.allText args trailing).length < cmdMaxLen →
        parseArgsUint32 (padded (word ++ WrittenArgument.allText args trailing)) =
          some (args.length, args.map WrittenArgument.value) := by
  intro inWord count fits
  have read := parseArgsFrom_written args trailing
    (List.replicate (cmdMaxLen - 1 - (word ++ WrittenArgument.allText args trailing).length) 0)
    count
  obtain ⟨tail, split⟩ := append_eq_peek (WrittenArgument.allText args trailing)
    (List.replicate (cmdMaxLen - 1 - (word ++ WrittenArgument.allText args trailing).length) 0)
  have stops : peek (WrittenArgument.allText args trailing) = 0 ∨
      myIsspace (peek (WrittenArgument.allText args trailing)) = true :=
    (WrittenArgument.peek_allText args trailing).imp_right fun space => by rw [space]; rfl
  rw [padded_eq fits, List.append_assoc, split, parseArgsUint32_word inWord stops, ← split]
  exact read

/-- `load_sd n=2048 010  0xaB`, with a space behind. -/
theorem parseArgs_written_load :
    parseArgsUint32 (padded
      ([0x6C, 0x6F, 0x61, 0x64, 0x5F, 0x73, 0x64, 0x20, 0x6E, 0x3D, 0x32, 0x30, 0x34, 0x38,
        0x20, 0x30, 0x31, 0x30, 0x20, 0x20, 0x30, 0x78, 0x61, 0x42, 0x20])) =
      some (3, [2048, 8, 0xAB]) :=
  parseArgs_written [0x6C, 0x6F, 0x61, 0x64, 0x5F, 0x73, 0x64]
    [⟨1, [0x6E], 10, [0x32, 0x30, 0x34, 0x38], 2048, by decide, List.all_eq_true.mp rfl,
        .decimal (by decide) (List.all_eq_true.mp rfl)⟩,
      ⟨1, [], 8, [0x30, 0x31, 0x30], 8, by decide, List.all_eq_true.mp rfl,
        .octal (List.all_eq_true.mp rfl)⟩,
      ⟨2, [], 16, [0x30, 0x78, 0x61, 0x42], 0xAB, by decide, List.all_eq_true.mp rfl,
        .hex (by decide) (by decide) (List.all_eq_true.mp rfl)⟩]
    1 (by simp [myIsspace]) (by decide) (by decide)

/-! ### Any line

What is read from a line that nobody wrote out. -/

/-- The values that are read from a text in at most `rounds` rounds. -/
inductive Reads : (rounds : Nat) → (text : List UInt8) → (values : List UInt32) → Prop where
  | enough {text : List UInt8} : Reads 0 text []
  | absent {rounds : Nat} : Reads (rounds + 1) [] []
  /-- Behind the name there is nothing that `strtoul` passes over. -/
  | refused {rounds : Nat} {text name rest : List UInt8} :
      Named text name rest → isBlank (peek rest) = false → peek rest ≠ 0x2B →
        isDigitOf 10 (peek rest) = false → Reads (rounds + 1) text []
  /-- The longest numeral, modulo 2^32; the next argument may follow at once. -/
  | accepted {rounds base value : Nat} {text name lead numeral spaces rest : List UInt8}
      {values : List UInt32} :
      Named text name (lead ++ (numeral ++ (spaces ++ rest))) → Lead lead →
        Numeral base numeral value → Longest base numeral (spaces ++ rest) →
        (∀ c ∈ spaces, myIsspace c = true) → myIsspace (peek rest) = false →
        Reads rounds rest values → Reads (rounds + 1) text (UInt32.ofNat value :: values)
  /-- Nothing is said about a blank, a sign or a `0x` without digits, nor about
  what follows it, but that there are no more values than rounds. -/
  | digitFree {rounds : Nat} {text name lead after : List UInt8} {values : List UInt32} :
      Named text name (lead ++ after) → DigitFree lead after → values.length ≤ rounds + 1 →
        Reads (rounds + 1) text values

theorem Reads.length_le {rounds : Nat} {text : List UInt8} {values : List UInt32}
    (reads : Reads rounds text values) : values.length ≤ rounds := by
  induction reads with
  | enough => exact Nat.le_refl _
  | absent | refused => exact Nat.zero_le _
  | accepted _ _ _ _ _ _ _ ih => exact Nat.succ_le_succ ih
  | digitFree _ _ few => exact few

/-- A round that reads nothing is the last one. -/
theorem parseArgsFrom_refused {n value : Nat} {text name start rest : List UInt8}
    (more : peek text ≠ 0) (named : Named text name start)
    (read : strtoul (start ++ 0 :: rest) 0 = some (UInt64.ofNat value, start ++ 0 :: rest)) :
    parseArgsFrom (n + 1) (text ++ 0 :: rest) = some (0, [UInt32.ofNat value]) := by
  cases text with
  | nil => exact absurd rfl more
  | cons c text =>
      have more : c ≠ 0 := more
      have skipped := skipNamePrefix_named named rest
      rw [List.cons_append] at skipped ⊢
      rw [parseArgsFrom]
      simp only [List.head?_cons, Option.bind_eq_bind, Option.bind_some, more, if_false, skipped,
        read, if_true, UInt64.toUInt32_ofNat']
      rfl

/-- What a run of rounds reads: the counted values are the first of those
stored. -/
theorem parseArgsFrom_reads (n : Nat) {text : List UInt8} (noNul : NoNul text)
    (rest : List UInt8) :
    ∃ args stored, parseArgsFrom n (text ++ 0 :: rest) = some (args.length, args ++ stored) ∧
      Reads n text args := by
  induction n generalizing text with
  | zero => exact ⟨[], [], rfl, .enough⟩
  | succ n ih =>
      cases text with
      | nil => exact ⟨[], [], rfl, .absent⟩
      | cons c text =>
          have more : peek (c :: text) ≠ 0 := (noNul_cons.mp noNul).1
          obtain ⟨name, start, named⟩ := named_exists (c :: text)
          have whole := named.append
          obtain ⟨value, after, reads⟩ := strtoulReads_exists start
          have read := reads.strtoul rest
          -- Where `strtoul` moves, the next round starts behind the spaces.
          have goesOn : after.length ≠ start.length → NoNul after →
              ∃ spaces behind args stored, after = spaces ++ behind ∧
                (∀ d ∈ spaces, myIsspace d = true) ∧ myIsspace (peek behind) = false ∧
                parseArgsFrom (n + 1) (c :: text ++ 0 :: rest) =
                  some (args.length + 1, UInt32.ofNat value :: (args ++ stored)) ∧
                Reads n behind args := by
            intro moved noNul
            have round := @parseArgsFrom_succ n _ _ _ _ _ rest more named read moved
            obtain ⟨spaces, behind, rfl, space, ends⟩ := run_ends myIsspace (by decide) after
            have skipped : skipSpace (spaces ++ (behind ++ 0 :: rest)) =
                some (behind ++ 0 :: rest) := skipWhile_run space ends rest
            obtain ⟨args, stored, parsed, further⟩ :=
              ih fun d member => noNul d (List.mem_append_right spaces member)
            refine ⟨spaces, behind, args, stored, rfl, space, ends, ?_, further⟩
            rw [round, List.append_assoc, skipped, Option.bind_eq_bind, Option.bind_some, parsed]
            rfl
          cases reads with
          | nothing blank sign none_ =>
              exact ⟨[], [UInt32.ofNat 0], parseArgsFrom_refused more named read,
                .refused named blank sign none_⟩
          | @number lead numeral _ base _ leads numeral_ longest =>
              have some_digits := List.length_pos_iff.mpr numeral_.ne_nil
              obtain ⟨spaces, behind, args, stored, rfl, space, ends, parsed, further⟩ := goesOn
                (by simp only [List.length_append]; omega)
                fun d member => noNul d (by rw [whole]; simp [member])
              exact ⟨UInt32.ofNat value :: args, stored, parsed,
                .accepted named leads numeral_ longest space ends further⟩
          | @digitFree lead _ digitFree =>
              have some_lead := List.length_pos_iff.mpr digitFree.ne_nil
              obtain ⟨spaces, behind, args, stored, _, _, _, parsed, further⟩ := goesOn
                (by simp only [List.length_append]; omega)
                fun d member => noNul d (by rw [whole]; simp [member])
              exact ⟨UInt32.ofNat 0 :: args, stored, parsed,
                .digitFree named digitFree (Nat.succ_le_succ further.length_le)⟩

/-- On every line the values are read one behind the other from behind the
command word on. -/
theorem parseArgs_reads (line : Line) :
    ∃ word spaces text args stored, line.text = word ++ (spaces ++ text) ∧
      (∀ c ∈ word, myIsspace c = false) ∧ (∀ c ∈ spaces, myIsspace c = true) ∧
      myIsspace (peek text) = false ∧ (spaces = [] → text = []) ∧
      parseArgsUint32 line.buffer = some (args.length, args ++ stored) ∧ Reads 3 text args := by
  obtain ⟨word, behind, split, inWord, wordEnds⟩ :=
    run_ends (fun c => c != 0 && !myIsspace c) (by decide) line.text
  obtain ⟨spaces, text, rfl, space, ends⟩ := run_ends myIsspace (by decide) behind
  have whole := line.noNul
  rw [split] at whole
  have noNul : NoNul text := fun c member =>
    whole c (List.mem_append_right word (List.mem_append_right spaces member))
  obtain ⟨zeroes, buffer⟩ : ∃ zeroes, line.buffer = line.text ++ 0 :: zeroes :=
    ⟨_, line.buffer_eq⟩
  obtain ⟨args, stored, parsed, reads⟩ := parseArgsFrom_reads 3 noNul zeroes
  have letters : ∀ c ∈ word, c ≠ 0 ∧ myIsspace c = false := by
    intro c member
    simpa using inWord c member
  have stops : peek (spaces ++ text) = 0 ∨ myIsspace (peek (spaces ++ text)) = true := by
    simpa [or_iff_not_imp_left] using wordEnds
  refine ⟨word, spaces, text, args, stored, split, fun c member => (letters c member).2, space,
    ends, ?_, ?_, reads⟩
  · intro none_
    cases text with
    | nil => rfl
    | cons c text =>
        -- A word that is not followed by a space ends with the line.
        rw [none_, List.nil_append] at stops
        rcases stops with zero | white
        · exact absurd zero (noNul_cons.mp noNul).1
        · exact absurd (ends.symm.trans white) (by decide)
  · obtain ⟨tail, wordSplit⟩ := append_eq_peek (spaces ++ text) zeroes
    have skipped : skipSpace (spaces ++ (text ++ 0 :: zeroes)) = some (text ++ 0 :: zeroes) :=
      skipWhile_run space ends zeroes
    rw [buffer, split, List.append_assoc, wordSplit, parseArgsUint32_word letters stops,
      ← wordSplit, List.append_assoc, skipped, Option.bind_some]
    exact parsed

/-! ### What is not refused -/

/-- The whitespace-separated tokens behind the command word. -/
def argTokens (text : List UInt8) : List (List UInt8) :=
  ((text.dropWhile fun c => !myIsspace c).splitOnP myIsspace).filter fun token => !token.isEmpty

/-- A whole token: an optional name and a complete numeral below 2^32. -/
def WellFormed (token : List UInt8) (value : Nat) : Prop :=
  ∃ name numeral base, token = name ++ numeral ∧
    (name = [] ∨ ∃ letters, letters ≠ [] ∧ (∀ c ∈ letters, isNameChar c = true) ∧
      name = letters ++ [0x3D]) ∧
    Numeral base numeral value ∧ value < 2 ^ 32

/-- A parser that accepts whole, well formed tokens only, and stops at the first
other one. -/
def AcceptsWellFormed (line : Line) : Prop :=
  ∀ count args, parseArgsUint32 line.buffer = some (count, args) →
    (∀ i < count, ∃ token value, (argTokens line.text)[i]? = some token ∧
      WellFormed token value ∧ args[i]? = some (UInt32.ofNat value)) ∧
    (count < 3 → ∀ token, (argTokens line.text)[count]? = some token →
      ∀ value, ¬ WellFormed token value)

/-- `load_sd 08`. -/
def loadOctalEight : Line where
  text := [0x6C, 0x6F, 0x61, 0x64, 0x5F, 0x73, 0x64, 0x20, 0x30, 0x38]
  printable := by simp [IsPrintable]
  fits := by decide

/-- The token `08` is two arguments. Of `4294967296` the low word is taken, of
`12a` the digits; a sign is skipped, and so are the blanks behind a name. -/
theorem parseArgs_octalEight :
    ¬ AcceptsWellFormed loadOctalEight ∧
      parseArgsUint32 (padded [0x6A, 0x75, 0x6D, 0x70, 0x20, 0x34, 0x32, 0x39, 0x34, 0x39, 0x36,
        0x37, 0x32, 0x39, 0x36]) = some (1, [0]) ∧
      parseArgsUint32 (padded [0x6A, 0x75, 0x6D, 0x70, 0x20, 0x31, 0x32, 0x61]) =
        some (1, [12, 0]) ∧
      parseArgsUint32 (padded [0x6A, 0x75, 0x6D, 0x70, 0x20, 0x2B, 0x35]) = some (1, [5]) ∧
      parseArgsUint32 (padded [0x6A, 0x75, 0x6D, 0x70, 0x20, 0x61, 0x3D, 0x20, 0x35]) =
        some (1, [5]) := by
  have two : parseArgsUint32 loadOctalEight.buffer = some (2, [0, 8]) := rfl
  have one : argTokens loadOctalEight.text = [[0x30, 0x38]] := rfl
  refine ⟨fun accepts => ?_, rfl, rfl, rfl, rfl⟩
  obtain ⟨token, value, second, _⟩ := (accepts 2 [0, 8] two).1 1 (by decide)
  rw [one] at second
  cases second

end Mp257Fsbl.Cmd
