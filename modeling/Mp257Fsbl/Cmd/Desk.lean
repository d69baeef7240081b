/-
Module: Mp257Fsbl.Cmd.Desk
Purpose: The editor as the user sees it: the line, the list of latest lines, the
  position in it and the pending escape sequence; and that cmd.c keeps to it.
Trusted boundary: human-reviewed statement of what the keys do
Main exports: Pending, Desk, Desk.event, Follows, follows_event, editor_follows
-/
import Mp257Fsbl.Cmd.Batching
import Mp257Fsbl.Cmd.Complete
import Mp257Fsbl.Cmd.History

namespace Mp257Fsbl.Cmd

open Mp257Fsbl.Utils

/-! ### Lines -/

namespace Line

/-- Without its last character. -/
def erase (line : Line) : Line where
  text := line.text.dropLast
  printable := fun c member => line.printable c (List.dropLast_subset line.text member)
  fits := by
    have fits := line.fits
    rw [List.length_dropLast]
    omega

theorem writeAt_erase (line : Line) (some_left : line.text ≠ []) :
    writeAt line.buffer (line.text.length - 1) 0 = some line.erase.buffer := by
  have fits := line.fits
  have split := List.dropLast_concat_getLast some_left
  have length : line.text.length - 1 = line.text.dropLast.length := List.length_dropLast.symm
  rw [← split] at fits
  have written := writeAt_padded_zero fits
  rw [split, ← length] at written
  exact written

/-- With one more character, if there is room. -/
def typed (c : UInt8) (line : Line) : Line :=
  if h : IsPrintable c ∧ line.text.length < cmdMaxLen - 1 then line.push c h.1 h.2 else line

theorem typed_text {c : UInt8} {line : Line} (printable : IsPrintable c)
    (room : line.text.length < cmdMaxLen - 1) : (line.typed c).text = line.text ++ [c] := by
  rw [typed, dif_pos ⟨printable, room⟩]
  rfl

theorem typed_full {c : UInt8} {line : Line} (full : ¬ line.text.length < cmdMaxLen - 1) :
    line.typed c = line := by
  rw [typed, dif_neg (fun h => full h.2)]

/-- The only word that starts with the line, or the line. -/
def completed (words : List Line) (line : Line) : Line :=
  match words.filter fun word => line.text.isPrefixOf word.text with
  | [word] => word
  | _ => line

theorem completed_text (words : List Line) (line : Line) :
    (line.completed words).text = completion (words.map Line.text) line.text := by
  unfold completed completion candidates
  rw [List.filter_map]
  have same : (line.text.isPrefixOf ∘ Line.text) =
      fun word : Line => line.text.isPrefixOf word.text := rfl
  rw [same]
  cases words.filter fun word => line.text.isPrefixOf word.text with
  | nil => rfl
  | cons word words =>
      cases words with
      | nil => rfl
      | cons second words => rfl

end Line

/-! ### The desk -/

/-- How much of an escape sequence has come in. -/
inductive Pending where
  | nothing
  | escape
  | bracket
deriving Repr, DecidableEq

/-- The value of `esc_state`. -/
def Pending.code : Pending → Nat
  | .nothing => 0
  | .escape => 1
  | .bracket => 2

/-- `recents` is the list, the latest line first. -/
structure Desk where
  recents : List Line
  walk : Recall
  pending : Pending

namespace Desk

def reset : Desk where
  recents := []
  walk := { position := none, line := .empty }
  pending := .nothing

/-- Another line at the same position. -/
def edit (desk : Desk) (line : Line) : Desk :=
  { desk with walk := { desk.walk with line := line } }

/-- Only a line that is not empty enters the list and ends the walk. -/
def submit (desk : Desk) : Desk :=
  if desk.walk.line.text = [] then desk
  else
    { desk with
      recents := (desk.walk.line :: desk.recents).take 8
      walk := { position := none, line := .empty } }

def key (words : List Line) (c : UInt8) (desk : Desk) : Desk :=
  if c = 0x0D ∨ c = 0x0A then desk.submit
  else if c = 0x08 ∨ c = 0x7F then desk.edit desk.walk.line.erase
  else if IsPrintable c then desk.edit (desk.walk.line.typed c)
  else if c = 0x09 then desk.edit (desk.walk.line.completed words)
  else if c = 0x0C then desk.edit .empty
  else desk

theorem key_printable {words : List Line} {c : UInt8} (printable : IsPrintable c) (desk : Desk) :
    desk.key words c = desk.edit (desk.walk.line.typed c) := by
  have other : ¬ (c = 0x0D ∨ c = 0x0A) ∧ ¬ (c = 0x08 ∨ c = 0x7F) := by
    refine ⟨?_, ?_⟩
    all_goals
      rintro (rfl | rfl)
      all_goals exact absurd printable (by decide)
  rw [key, if_neg other.1, if_neg other.2, if_pos printable]

/-- The byte behind ESC and `[`. -/
def final (c : UInt8) (desk : Desk) : Recall :=
  if c = 0x41 then desk.walk.arrow desk.recents .up
  else if c = 0x42 then desk.walk.arrow desk.recents .down
  else desk.walk

def byte (words : List Line) (c : UInt8) (desk : Desk) : Desk :=
  match desk.pending with
  | .nothing => if c = 0x1B then { desk with pending := .escape } else desk.key words c
  | .escape => { desk with pending := if c = 0x5B then .bracket else .nothing }
  | .bracket => { desk with walk := desk.final c, pending := .nothing }

/-- A printable character outside an escape sequence. -/
theorem byte_printable {desk : Desk} (words : List Line) {c : UInt8}
    (quiet : desk.pending = .nothing) (printable : IsPrintable c) :
    desk.byte words c = desk.edit (desk.walk.line.typed c) := by
  have other : c ≠ 0x1B := by
    rintro rfl
    exact absurd printable (by decide)
  simp only [byte, quiet, other, if_false]
  exact key_printable printable desk

def event (words : List Line) (desk : Desk) : Event → Desk
  | .char c => desk.byte words c
  | .interrupt => desk.edit .empty

end Desk

/-! ### Keeping to the desk -/

/-- The editor is where the desk says. -/
structure Follows (desk : Desk) (head : Nat) (e : Editor) : Prop where
  remembers : Remembers desk.recents head e
  position : At desk.recents head e desk.walk.position
  shows : Shows desk.walk.line e
  pending : e.escState = desk.pending.code
  terminated : ∀ slot ∈ e.history, slot.length = cmdMaxLen ∧ Terminated slot
  submitted : desk.recents.map Line.text = (e.executed.reverse.map Executed.line).take 8

theorem follows_reset : Follows .reset 0 .reset where
  remembers := recalls_reset.remembers
  position := rfl
  shows := ⟨rfl, rfl⟩
  pending := rfl
  terminated := by
    intro slot member
    rw [List.eq_of_mem_replicate member]
    exact ⟨List.length_replicate, by unfold Terminated; decide⟩
  submitted := rfl

/-- The history and the executed lines are left alone. -/
structure Editor.SameLines (e next : Editor) : Prop where
  history : next.history = e.history
  executed : next.executed = e.executed

theorem lineLoad_sameLines {src : List UInt8} {e next : Editor}
    (loaded : Editor.lineLoad src e = some next) : e.SameLines next := by
  obtain ⟨copied, _, loaded⟩ := Option.bind_eq_some_iff.mp loaded
  obtain ⟨lineBuf, _, loaded⟩ := Option.bind_eq_some_iff.mp loaded
  obtain ⟨lineLen, _, loaded⟩ := Option.bind_eq_some_iff.mp loaded
  cases loaded
  exact ⟨rfl, rfl⟩

theorem historyPrev_sameLines {e next : Editor} (moved : e.historyPrev = some next) :
    e.SameLines next := by
  unfold Editor.historyPrev at moved
  split at moved
  · cases moved
    exact ⟨rfl, rfl⟩
  · obtain ⟨slot, _, loaded⟩ := Option.bind_eq_some_iff.mp moved
    obtain ⟨history, executed⟩ := lineLoad_sameLines loaded
    exact ⟨history, executed⟩

theorem historyNext_sameLines {e next : Editor} (moved : e.historyNext = some next) :
    e.SameLines next := by
  unfold Editor.historyNext at moved
  split at moved
  · cases moved
    exact ⟨rfl, rfl⟩
  · dsimp only at moved
    split at moved
    · obtain ⟨history, executed⟩ := lineLoad_sameLines moved
      exact ⟨history, executed⟩
    · obtain ⟨slot, _, loaded⟩ := Option.bind_eq_some_iff.mp moved
      obtain ⟨history, executed⟩ := lineLoad_sameLines loaded
      exact ⟨history, executed⟩

section Keys

variable {desk : Desk} {head : Nat} {e : Editor} {words : List Line}

/-- Another line in `line_buf`. -/
theorem Follows.edit (follows : Follows desk head e) (line : Line) :
    Follows (desk.edit line) head
      { e with lineBuf := line.buffer, lineLen := line.text.length } where
  remembers := follows.remembers.of_same rfl rfl rfl
  position := follows.position.of_same rfl
  shows := ⟨rfl, rfl⟩
  pending := follows.pending
  terminated := follows.terminated
  submitted := follows.submitted

theorem Follows.pend (follows : Follows desk head e) (pending : Pending) :
    Follows { desk with pending := pending } head { e with escState := pending.code } where
  remembers := follows.remembers.of_same rfl rfl rfl
  position := follows.position.of_same rfl
  shows := ⟨follows.shows.lineBuf, follows.shows.lineLen⟩
  pending := rfl
  terminated := follows.terminated
  submitted := follows.submitted

/-- No escape sequence is pending. -/
theorem Follows.quiet_iff (follows : Follows desk head e) :
    e.escState = 0 ↔ desk.pending = .nothing := by
  rw [follows.pending]
  cases desk.pending with
  | nothing => simp [Pending.code]
  | escape => simp [Pending.code]
  | bracket => simp [Pending.code]

theorem words_terminated : ∀ name ∈ nameTable (words.map Line.text), Terminated name := by
  intro name member
  obtain ⟨text, _, rfl⟩ := List.mem_map.mp member
  exact terminated_append text []

/-- The editor with its own line in `line_buf`. -/
theorem Shows.unchanged {line : Line} (shows : Shows line e) :
    { e with lineBuf := line.buffer, lineLen := line.text.length } = e := by
  rw [← shows.lineBuf, ← shows.lineLen]

/-- Enter. -/
theorem follows_submit (follows : Follows desk head e) :
    ∃ next head', (e.historyAdd.bind (Editor.executeCommand (nameTable (words.map Line.text)))) =
      some next ∧ Follows desk.submit head' next := by
  have shows := follows.shows
  by_cases blank : desk.walk.line.text = []
  · -- An empty line leaves the history alone, and the walk through it too.
    have empty : e.lineLen = 0 := by rw [shows.lineLen, blank, List.length_nil]
    have buffer : desk.walk.line.buffer = List.replicate cmdMaxLen 0 := by
      simp [Line.buffer, padded, blank]
    have terminator : writeAt e.lineBuf e.lineLen 0 = some e.lineBuf := by
      rw [shows.lineBuf, shows.lineLen]
      exact desk.walk.line.writeAt_buffer (Nat.le_refl _) desk.walk.line.fits
    have first : deref e.lineBuf = some 0 := by
      rw [shows.lineBuf, buffer]
      rfl
    refine ⟨e, head, ?_, ?_⟩
    · have added : e.historyAdd = some e := by
        simp only [Editor.historyAdd, terminator, first, Option.bind_eq_bind, Option.bind_some,
          if_true]
        rfl
      rw [added, Option.bind_some, Editor.executeCommand, if_pos empty, Editor.cmdPrompt]
      rw [← empty, ← buffer, ← shows.lineBuf]
      rfl
    · rwa [Desk.submit, if_pos blank]
  · obtain ⟨added, stored, remembers, index, shown, quiet⟩ :=
      historyAdd_remembers follows.remembers shows blank
    have changed :=
      Option.some.inj (stored.symm.trans (historyAdd_eq follows.remembers shows blank))
    have names := @words_terminated words
    obtain ⟨dispatch, executed⟩ := executeCommand_shows names shown blank
    refine ⟨_, (head + 1) % 8, by rw [stored, Option.bind_some, executed], ?_⟩
    rw [Desk.submit, if_neg blank]
    exact
      { remembers := remembers.of_same rfl rfl rfl
        position := index
        shows := ⟨rfl, rfl⟩
        pending := quiet.trans follows.pending
        terminated := by
          intro slot member
          have member : slot ∈ e.history.set head desk.walk.line.buffer := by
            rwa [changed] at member
          rcases List.mem_or_eq_of_mem_set member with earlier | latest
          · exact follows.terminated slot earlier
          · rw [latest]
            exact ⟨desk.walk.line.buffer_length, desk.walk.line.buffer_terminated⟩
        submitted := by
          have same : added.executed = e.executed := by rw [changed]
          simp only [same, List.reverse_append, List.reverse_singleton,
            List.singleton_append, List.map_cons, List.map_take, follows.submitted]
          simp [List.take_take] }

/-- Backspace. -/
theorem follows_erase (follows : Follows desk head e) (cmds : List (List UInt8)) {c : UInt8}
    (handled : e.tryHandleEscape c = some (false, e)) (key : c = 0x08 ∨ c = 0x7F) :
    ∃ next, e.cmdByte cmds c = some next ∧ Follows (desk.edit desk.walk.line.erase) head next := by
  have enter : ¬ (c = 0x0D ∨ c = 0x0A) := by
    rcases key with rfl | rfl
    all_goals decide
  refine ⟨_, ?_, follows.edit desk.walk.line.erase⟩
  have shows := follows.shows
  by_cases blank : desk.walk.line.text = []
  · have empty : e.lineLen = 0 := by rw [shows.lineLen, blank, List.length_nil]
    have same : desk.walk.line.erase = desk.walk.line := by
      cases line : desk.walk.line
      simp_all [Line.erase]
    rw [same, shows.unchanged]
    simp [Editor.cmdByte, handled, enter, key, empty]
  · have written := desk.walk.line.writeAt_erase blank
    have more : 0 < e.lineLen := by
      rw [shows.lineLen]
      exact List.length_pos_iff.mpr blank
    have length : desk.walk.line.erase.text.length = e.lineLen - 1 := by
      rw [shows.lineLen]
      exact List.length_dropLast
    rw [← shows.lineBuf, ← shows.lineLen] at written
    simp [Editor.cmdByte, handled, enter, key, more, written, length]

/-- A printable character. -/
theorem follows_typed (follows : Follows desk head e) (cmds : List (List UInt8)) {c : UInt8}
    (handled : e.tryHandleEscape c = some (false, e)) (printable : IsPrintable c) :
    ∃ next, e.cmdByte cmds c = some next ∧
      Follows (desk.edit (desk.walk.line.typed c)) head next := by
  have shows := follows.shows
  have other : c ≠ 0x0D ∧ c ≠ 0x0A ∧ c ≠ 0x08 ∧ c ≠ 0x7F := by
    refine ⟨?_, ?_, ?_, ?_⟩
    all_goals
      rintro rfl
      exact absurd printable (by decide)
  refine ⟨_, ?_, follows.edit (desk.walk.line.typed c)⟩
  by_cases room : desk.walk.line.text.length < cmdMaxLen - 1
  · have written := desk.walk.line.writeAt_push c printable room
    have pushed : desk.walk.line.typed c = desk.walk.line.push c printable room := by
      rw [Line.typed, dif_pos ⟨printable, room⟩]
    have length : (desk.walk.line.push c printable room).text.length = e.lineLen + 1 := by
      simp [Line.push, shows.lineLen]
    rw [← shows.lineLen] at room
    rw [← shows.lineBuf, ← shows.lineLen] at written
    rw [pushed, length]
    simp [Editor.cmdByte, handled, other, printable.1, printable.2, room, written]
  · rw [Line.typed_full room, shows.unchanged]
    rw [← shows.lineLen] at room
    simp [Editor.cmdByte, handled, other, printable.1, printable.2, room]

/-- Every key outside an escape sequence. -/
theorem follows_key (follows : Follows desk head e) {c : UInt8}
    (handled : e.tryHandleEscape c = some (false, e)) :
    ∃ next head', e.cmdByte (nameTable (words.map Line.text)) c = some next ∧
      Follows (desk.key words c) head' next := by
  unfold Desk.key
  split
  · rename_i enter
    obtain ⟨next, head', submitted, follows⟩ := @follows_submit _ _ _ words follows
    refine ⟨next, head', ?_, follows⟩
    rw [← submitted]
    simp [Editor.cmdByte, handled, enter]
  · rename_i enter
    split
    · rename_i backspace
      obtain ⟨next, erased, follows⟩ := follows_erase follows _ handled backspace
      exact ⟨next, head, erased, follows⟩
    · rename_i backspace
      split
      · rename_i printable
        obtain ⟨next, typed, follows⟩ := follows_typed follows _ handled printable
        exact ⟨next, head, typed, follows⟩
      · rename_i printable
        have control : ¬ (0x20 ≤ c ∧ c ≤ 0x7E) := printable
        split
        · rename_i tab
          have table : ∀ name ∈ words.map Line.text, Fitting name := by
            intro name member
            obtain ⟨word, _, rfl⟩ := List.mem_map.mp member
            exact word.fitting
          have completed := cmdTabCompletion_padded table desk.walk.line.fitting
            follows.shows.lineBuf follows.shows.lineLen
          rw [← Line.completed_text] at completed
          refine ⟨_, head, ?_, follows.edit (desk.walk.line.completed words)⟩
          have padded_ : (desk.walk.line.completed words).buffer =
              padded (desk.walk.line.completed words).text := rfl
          rw [padded_, ← completed]
          subst tab
          simp [Editor.cmdByte, handled]
        · rename_i tab
          split
          · rename_i clear
            refine ⟨_, head, ?_, follows.edit .empty⟩
            subst clear
            simp [Editor.cmdByte, handled]
            rfl
          · rename_i clear
            refine ⟨e, head, ?_, follows⟩
            simp [Editor.cmdByte, handled, enter, backspace, control, tab, clear]

/-- The byte that ends an escape sequence. -/
theorem follows_final (follows : Follows desk head e) (c : UInt8) :
    ∃ next, (if c = 0x41 then e.historyPrev else if c = 0x42 then e.historyNext else some e) =
        some next ∧
      Follows { desk with walk := desk.final c } head next := by
  have kept : ∀ {next : Editor} {walk : Recall}, e.SameLines next →
      Remembers desk.recents head next → At desk.recents head next walk.position →
      Shows walk.line next → next.escState = e.escState →
      Follows { desk with walk := walk } head next := by
    intro next walk same remembers position shows quiet
    exact
      { remembers := remembers
        position := position
        shows := shows
        pending := quiet.trans follows.pending
        terminated := by
          rw [same.history]
          exact follows.terminated
        submitted := by
          rw [same.executed]
          exact follows.submitted }
  unfold Desk.final
  by_cases up : c = 0x41
  · obtain ⟨next, moved, remembers, position, shows, quiet⟩ :=
      historyPrev_recalls follows.remembers follows.position follows.shows
    simp only [up, if_true]
    exact ⟨next, moved, kept (historyPrev_sameLines moved) remembers position shows quiet⟩
  · by_cases down : c = 0x42
    · obtain ⟨next, moved, remembers, position, shows, quiet⟩ :=
        historyNext_recalls follows.remembers follows.position follows.shows
      refine ⟨next, by rw [if_neg up, if_pos down, moved], ?_⟩
      rw [if_neg up, if_pos down]
      exact kept (historyNext_sameLines moved) remembers position shows quiet
    · refine ⟨e, by rw [if_neg up, if_neg down], ?_⟩
      rwa [if_neg up, if_neg down]

/-- Every byte. -/
theorem follows_byte (follows : Follows desk head e) (c : UInt8) :
    ∃ next head', e.cmdByte (nameTable (words.map Line.text)) c = some next ∧
      Follows (desk.byte words c) head' next := by
  have pending := follows.pending
  unfold Desk.byte
  cases state : desk.pending with
  | nothing =>
      rw [state] at pending
      have quiet : e.escState = 0 := pending
      by_cases escape : c = 0x1B
      · refine ⟨{ e with escState := Pending.escape.code }, head, ?_, ?_⟩
        · simp [Editor.cmdByte, Editor.tryHandleEscape, quiet, escape, Pending.code]
        · simp only [escape, if_true]
          exact follows.pend .escape
      · have handled : e.tryHandleEscape c = some (false, e) := by
          simp [Editor.tryHandleEscape, quiet, escape]
        simp only [escape, if_false]
        exact follows_key follows handled
  | escape =>
      rw [state] at pending
      have escaped : e.escState = 1 := pending
      refine ⟨_, head, ?_, follows.pend _⟩
      by_cases bracket : c = 0x5B
      · simp [Editor.cmdByte, Editor.tryHandleEscape, escaped, bracket, Pending.code]
      · simp [Editor.cmdByte, Editor.tryHandleEscape, escaped, bracket, Pending.code]
  | bracket =>
      rw [state] at pending
      have bracketed : e.escState = 2 := pending
      obtain ⟨next, moved, follows⟩ := follows_final follows c
      refine ⟨{ next with escState := 0 }, head, ?_, follows.pend .nothing⟩
      have handled : e.tryHandleEscape c = some (true, { next with escState := 0 }) := by
        have some_state : ¬ (2 : Nat) = 1 := by decide
        simp only [Editor.tryHandleEscape, bracketed, some_state, if_true, if_false]
        split at moved
        · rename_i up
          simp [up, moved]
        · rename_i up
          split at moved
          · rename_i down
            simp [down, moved]
          · rename_i down
            cases moved
            simp [up, down]
      simp [Editor.cmdByte, handled]

/-- Every event. -/
theorem follows_event (follows : Follows desk head e) (event : Event) :
    ∃ next head', e.event (nameTable (words.map Line.text)) event = some next ∧
      Follows (desk.event words event) head' next := by
  cases event with
  | char c => exact follows_byte follows c
  | interrupt => exact ⟨_, head, rfl, follows.edit .empty⟩

theorem follows_events (follows : Follows desk head e) (events : List Event) :
    ∃ next head', events.foldlM (Editor.event (nameTable (words.map Line.text))) e = some next ∧
      Follows (events.foldl (Desk.event words) desk) head' next := by
  induction events generalizing desk head e with
  | nil => exact ⟨e, head, rfl, follows⟩
  | cons event events ih =>
      obtain ⟨middle, head', done, follows⟩ := @follows_event _ _ _ words follows event
      obtain ⟨next, head'', rest, follows⟩ := ih follows
      refine ⟨next, head'', ?_, follows⟩
      rw [List.foldlM_cons, done]
      exact rest

end Keys

/-! ### The table of the program -/

/-- The names of `cmd_list` without their terminators. -/
def cmdNames : List (List UInt8) := cmdList.map List.dropLast

theorem cmdNames_fit :
    ∀ name ∈ cmdNames, (∀ c ∈ name, IsPrintable c) ∧ name.length < cmdMaxLen := by
  have checked : (cmdNames.all fun name =>
      name.all (fun c => decide (IsPrintable c)) && decide (name.length < cmdMaxLen)) = true := rfl
  simpa only [List.all_eq_true, Bool.and_eq_true, decide_eq_true_eq] using checked

def cmdWords : List Line :=
  cmdNames.pmap (fun text fit => { text := text, printable := fit.1, fits := fit.2 }) cmdNames_fit

theorem cmdWords_table : nameTable (cmdWords.map Line.text) = cmdList := rfl

/-- Whatever happens from `cmd_init` on, the editor is where the desk says. -/
theorem editor_follows (events : List Event) :
    ∃ e head, events.foldlM (Editor.event cmdList) .reset = some e ∧
      Follows (events.foldl (Desk.event cmdWords) .reset) head e := by
  rw [← cmdWords_table]
  exact follows_events follows_reset events

section Feed

variable {desk : Desk} {head : Nat} {e : Editor}

theorem follows_feed (follows : Follows desk head e) (bytes : List UInt8) :
    ∃ next head', Editor.feed cmdList bytes e = some next ∧
      Follows (bytes.foldl (fun desk c => desk.byte cmdWords c) desk) head' next := by
  obtain ⟨next, head', done, follows⟩ :=
    @follows_events _ _ _ cmdWords follows (bytes.map Event.char)
  rw [List.foldlM_map, cmdWords_table] at done
  rw [List.foldl_map] at follows
  exact ⟨next, head', done, follows⟩

/-- The three bytes of an arrow key. -/
theorem Desk.arrow_bytes {desk : Desk} (words : List Line) (quiet : desk.pending = .nothing)
    (arrow : Arrow) :
    arrow.bytes.foldl (fun desk c => desk.byte words c) desk =
      { desk with walk := desk.walk.arrow desk.recents arrow } := by
  cases desk with
  | mk recents walk pending =>
      cases quiet
      cases arrow with
      | up => rfl
      | down => rfl

end Feed

end Mp257Fsbl.Cmd
