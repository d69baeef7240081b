/-
Module: Mp257Fsbl.Cmd.Line
Purpose: The lines that the editor holds, as values, and the dispatch of a line
  by any table of terminated names.
Trusted boundary: none
Main exports: padded, Fitting, IsPrintable, Line, Line.buffer,
  parseArgsUint32_word, dispatchLine_total, Shows, executeCommand_shows
-/
import Mp257Fsbl.Cmd.Editor

namespace Mp257Fsbl.Cmd

open Mp257Fsbl.Utils

/-! ### A text in `line_buf` -/

/-- `line_buf` with the text in it. -/
def padded (text : List UInt8) : List UInt8 :=
  text ++ List.replicate (cmdMaxLen - text.length) 0

/-- What fits `line_buf` with a terminator. -/
structure Fitting (text : List UInt8) : Prop where
  noNul : NoNul text
  fits : text.length < cmdMaxLen

section Padded

variable {text : List UInt8}

theorem padded_length (fits : text.length < cmdMaxLen) :
    (padded text).length = cmdMaxLen := by
  simp only [padded, List.length_append, List.length_replicate]
  omega

/-- The terminator behind the text. -/
theorem padded_eq (fits : text.length < cmdMaxLen) :
    padded text = text ++ 0 :: List.replicate (cmdMaxLen - 1 - text.length) 0 := by
  have split : cmdMaxLen - text.length = cmdMaxLen - 1 - text.length + 1 := by omega
  rw [padded, split, List.replicate_succ]

/-- Writing behind the text appends to it. -/
theorem writeAt_padded (fits : text.length < cmdMaxLen) (c : UInt8) :
    writeAt (padded text) text.length c = some (padded (text ++ [c])) := by
  have zeroes : cmdMaxLen - 1 - text.length = cmdMaxLen - (text.length + 1) := by omega
  rw [writeAt, padded_length fits, if_pos fits, padded_eq fits, padded]
  simp only [List.set_append_right _ _ (Nat.le_refl _), Nat.sub_self, List.set_cons_zero,
    List.append_assoc, List.length_append, List.length_singleton, zeroes, List.singleton_append]

/-- Behind the text there is a zero already. -/
theorem writeAt_padded_behind (fits : text.length < cmdMaxLen) {i : Nat}
    (behind : text.length ≤ i) (inside : i < cmdMaxLen) :
    writeAt (padded text) i 0 = some (padded text) := by
  have stored : i < (padded text).length := by rwa [padded_length fits]
  have zero : (padded text)[i] = 0 := by
    simp only [padded]
    rw [List.getElem_append_right behind, List.getElem_replicate]
  have same := List.set_getElem_self stored
  rw [zero] at same
  rw [writeAt, if_pos stored, same]

/-- A zero on the last character takes it off. -/
theorem writeAt_padded_zero {c : UInt8}
    (fits : (text ++ [c]).length < cmdMaxLen) :
    writeAt (padded (text ++ [c])) text.length 0 = some (padded text) := by
  rw [List.length_append, List.length_singleton] at fits
  have inside : text.length < (padded (text ++ [c])).length := by
    rw [padded_length (by simpa using fits)]
    omega
  have zeroes : cmdMaxLen - 1 - text.length = cmdMaxLen - (text.length + 1) := by omega
  rw [writeAt, if_pos inside, padded_eq (Nat.lt_of_succ_lt fits), padded]
  simp only [List.append_assoc, List.set_append_right _ _ (Nat.le_refl _), Nat.sub_self,
    List.singleton_append, List.set_cons_zero, List.length_append, List.length_singleton, zeroes]

theorem strncpy_padded (fitting : Fitting text) :
    strncpy (padded text) cmdMaxLen = some (padded text) := by
  rw [padded_eq fitting.fits, strncpy_append fitting.noNul _ (Nat.le_of_lt fitting.fits),
    ← padded_eq fitting.fits]
  rfl

theorem padded_terminated (fits : text.length < cmdMaxLen) : Terminated (padded text) := by
  rw [padded_eq fits]
  exact terminated_append _ _

end Padded

/-! ### Lines -/

/-- The characters that `cmd_poll` appends to the line. -/
def IsPrintable (c : UInt8) : Prop := 0x20 ≤ c ∧ c ≤ 0x7E

instance (c : UInt8) : Decidable (IsPrintable c) := inferInstanceAs (Decidable (_ ∧ _))

/-- A line that fits `line_buf` with its terminator. -/
structure Line where
  text : List UInt8
  printable : ∀ c ∈ text, IsPrintable c
  fits : text.length < cmdMaxLen

namespace Line

def empty : Line where
  text := []
  printable := by
    intro c member
    cases member
  fits := by decide

/-- `line_buf` with the line in it. -/
def buffer (line : Line) : List UInt8 := padded line.text

variable (line : Line)

theorem noNul : NoNul line.text := by
  rintro c member rfl
  exact absurd (line.printable 0 member) (by decide)

theorem fitting : Fitting line.text where
  noNul := line.noNul
  fits := line.fits

@[simp] theorem buffer_length : line.buffer.length = cmdMaxLen := padded_length line.fits

/-- The terminator behind the line, and the zeroes behind that. -/
theorem buffer_eq :
    line.buffer = line.text ++ 0 :: List.replicate (cmdMaxLen - 1 - line.text.length) 0 :=
  padded_eq line.fits

theorem buffer_terminated : Terminated line.buffer := padded_terminated line.fits

@[simp] theorem buffer_take : line.buffer.take line.text.length = line.text := by
  simp [buffer, padded]

theorem strlen_buffer : strlen line.buffer = some line.text.length := by
  rw [buffer_eq]
  exact strlen_append line.noNul _

theorem strncpy_buffer : strncpy line.buffer cmdMaxLen = some line.buffer :=
  strncpy_padded line.fitting

/-- Behind the line there is a zero already. -/
theorem writeAt_buffer {i : Nat} (behind : line.text.length ≤ i) (inside : i < cmdMaxLen) :
    writeAt line.buffer i 0 = some line.buffer :=
  writeAt_padded_behind line.fits behind inside

/-- One more character. -/
def push (c : UInt8) (printable : IsPrintable c) (room : line.text.length < cmdMaxLen - 1) :
    Line where
  text := line.text ++ [c]
  printable := by
    intro d member
    rcases List.mem_append.mp member with earlier | last
    · exact line.printable d earlier
    · rw [List.mem_singleton] at last
      exact last ▸ printable
  fits := by
    rw [List.length_append, List.length_singleton]
    omega

theorem writeAt_push (c : UInt8) (printable : IsPrintable c)
    (room : line.text.length < cmdMaxLen - 1) :
    writeAt line.buffer line.text.length c = some (line.push c printable room).buffer :=
  writeAt_padded line.fits c

end Line

/-! ### Dispatch -/

section Dispatch

variable {lineBuf : List UInt8}

theorem selectCommand_total {cmdLen : Nat} (terminated : Terminated lineBuf)
    (word : NoNul (lineBuf.take cmdLen)) (inside : cmdLen < lineBuf.length)
    {cmds : List (List UInt8)} (names : ∀ name ∈ cmds, Terminated name) (found : Nat)
    (matched : Option (List UInt8)) :
    ∃ result, selectCommand lineBuf cmdLen cmds found matched = some result := by
  induction cmds generalizing found matched with
  | nil => exact ⟨(found, matched), rfl⟩
  | cons name cmds ih =>
      have names_tail : ∀ name ∈ cmds, Terminated name :=
        fun other member => names other (List.mem_cons_of_mem _ member)
      obtain ⟨order, compared, longer⟩ :=
        strncmp_terminated terminated (names name List.mem_cons_self) cmdLen
      rw [selectCommand, compared]
      by_cases equal : order = 0
      · obtain ⟨next, behind⟩ := longer equal word inside
        by_cases exact_ : next = 0
        · exact ⟨(1, some name), by simp [equal, behind, exact_]⟩
        · obtain ⟨result, selected⟩ := ih names_tail (found + 1) (some name)
          exact ⟨result, by simp [equal, behind, exact_, selected]⟩
      · obtain ⟨result, selected⟩ := ih names_tail found matched
        exact ⟨result, by simp [equal, selected]⟩

theorem skipNamePrefix_terminated {p : List UInt8} (terminated : Terminated p) :
    ∃ q, skipNamePrefix p = some q ∧ Terminated q := by
  have stops : (isUpper 0 || isLower 0 || (0 : UInt8) == 0x5F) = false := by decide
  obtain ⟨q, skipped, behind⟩ :=
    skipWhile_terminated (fun c => isUpper c || isLower c || c == 0x5F) stops terminated
  obtain ⟨c, first⟩ := deref_terminated behind
  by_cases named : q.length ≠ p.length ∧ c = 0x3D
  · refine ⟨q.drop 1, by simp [skipNamePrefix, skipped, first, named], ?_⟩
    cases q with
    | nil => cases behind
    | cons d q =>
        cases first
        exact behind.tail (by rw [named.2]; decide)
  · exact ⟨p, by simp only [skipNamePrefix, skipped, first, Option.bind_eq_bind, Option.bind_some,
      named, if_false]; rfl, terminated⟩

theorem parseArgsFrom_total (n : Nat) {p : List UInt8} (terminated : Terminated p) :
    ∃ result, parseArgsFrom n p = some result := by
  induction n generalizing p with
  | zero => exact ⟨(0, []), rfl⟩
  | succ n ih =>
      obtain ⟨c, first⟩ := deref_terminated terminated
      obtain ⟨start, named, terminated⟩ := skipNamePrefix_terminated terminated
      obtain ⟨val, rest, read, behind⟩ := strtoul_terminated 0 terminated
      have stops : myIsspace 0 = false := by decide
      obtain ⟨next, skipped, terminated⟩ := skipWhile_terminated myIsspace stops behind
      obtain ⟨⟨count, args⟩, parsed⟩ := ih terminated
      rw [parseArgsFrom, first]
      by_cases done : c = 0
      · exact ⟨(0, []), by simp [done]⟩
      · by_cases stuck : rest.length = start.length
        · exact ⟨(0, [val.toUInt32]), by simp [done, named, read, stuck]⟩
        · exact ⟨(count + 1, val.toUInt32 :: args),
            by simp [done, named, read, stuck, skipSpace, skipped, parsed]⟩

theorem parseArgsUint32_total (terminated : Terminated lineBuf) :
    ∃ result, parseArgsUint32 lineBuf = some result := by
  have stopsWord : ((0 : UInt8) != 0 && !myIsspace 0) = false := by decide
  have stopsSpace : myIsspace 0 = false := by decide
  obtain ⟨p, word, terminated⟩ :=
    skipWhile_terminated (fun c => c != 0 && !myIsspace c) stopsWord terminated
  obtain ⟨q, space, terminated⟩ := skipWhile_terminated myIsspace stopsSpace terminated
  obtain ⟨result, parsed⟩ := parseArgsFrom_total 3 terminated
  exact ⟨result, by simp [parseArgsUint32, skipWord, skipSpace, word, space, parsed]⟩

/-- The arguments are read from behind the word and the spaces that end it. -/
theorem parseArgsUint32_word {word : List UInt8}
    (letters : ∀ c ∈ word, c ≠ 0 ∧ myIsspace c = false) {stop : UInt8}
    (stops : stop = 0 ∨ myIsspace stop = true) (behind : List UInt8) :
    parseArgsUint32 (word ++ stop :: behind) =
      (skipSpace (stop :: behind)).bind (parseArgsFrom 3) := by
  have run : ∀ c ∈ word, (c != 0 && !myIsspace c) = true := by
    intro c member
    obtain ⟨more, letter⟩ := letters c member
    simp [more, letter]
  have ends : (stop != 0 && !myIsspace stop) = false := by
    rcases stops with rfl | space
    · rfl
    · simp [space]
  have skipped : skipWord (word ++ stop :: behind) = some (stop :: behind) :=
    skipWhile_append run ends behind
  rw [parseArgsUint32, skipped]
  rfl

/-- Dispatching a line never leaves a buffer. -/
theorem dispatchLine_total {cmds : List (List UInt8)} (names : ∀ name ∈ cmds, Terminated name)
    (line : Line) : ∃ dispatch, dispatchLine cmds line.buffer line.text.length = some dispatch := by
  obtain ⟨space, found, before⟩ := strchr_terminated line.buffer_terminated 0x20
  have word : space.getD line.text.length < line.buffer.length ∧
      NoNul (line.buffer.take (space.getD line.text.length)) := by
    cases space with
    | none => exact ⟨by simpa using line.fits, by simpa using line.noNul⟩
    | some i => exact before i rfl
  obtain ⟨⟨count, matched⟩, selected⟩ :=
    selectCommand_total line.buffer_terminated word.2 word.1 names 0 none
  obtain ⟨⟨argc, args⟩, parsed⟩ := parseArgsUint32_total line.buffer_terminated
  simp only [dispatchLine, found, selected, Option.bind_eq_bind, Option.bind_some]
  split
  · exact ⟨_, by rw [parsed]; rfl⟩
  · exact ⟨_, rfl⟩
  · exact ⟨_, rfl⟩

end Dispatch

/-! ### The line being edited -/

/-- The line is in `line_buf`. -/
structure Shows (line : Line) (e : Editor) : Prop where
  lineBuf : e.lineBuf = line.buffer
  lineLen : e.lineLen = line.text.length

variable {line : Line} {e : Editor}

/-- Loading a line from its buffer. -/
theorem lineLoad_buffer (line : Line) (e : Editor) :
    Editor.lineLoad line.buffer e =
      some { e with lineBuf := line.buffer, lineLen := line.text.length } := by
  have last : writeAt line.buffer (cmdMaxLen - 1) 0 = some line.buffer :=
    line.writeAt_buffer (Nat.le_sub_one_of_lt line.fits) (by decide)
  simp [Editor.lineLoad, Editor.cmdPrompt, line.strncpy_buffer, last, line.strlen_buffer]

/-- Enter on a line that is not empty executes it. -/
theorem executeCommand_shows {cmds : List (List UInt8)}
    (names : ∀ name ∈ cmds, Terminated name) (shows : Shows line e) (entered : line.text ≠ []) :
    ∃ dispatch, e.executeCommand cmds =
      some
        { e.cmdPrompt with
          executed := e.executed ++ [{ line := line.text, dispatch := dispatch }] } := by
  obtain ⟨dispatch, dispatched⟩ := dispatchLine_total names line
  have some_left : line.text.length ≠ 0 := mt List.length_eq_zero_iff.mp entered
  have terminator : writeAt e.lineBuf line.text.length 0 = some line.buffer := by
    rw [shows.lineBuf]
    exact line.writeAt_buffer (Nat.le_refl _) line.fits
  refine ⟨dispatch, ?_⟩
  simp only [Editor.executeCommand, some_left, if_false, terminator, shows.lineLen, dispatched,
    Option.bind_eq_bind, Option.bind_some, Line.buffer_take]
  rfl

end Mp257Fsbl.Cmd
