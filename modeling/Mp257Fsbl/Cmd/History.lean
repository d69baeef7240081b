/-
Module: Mp257Fsbl.Cmd.History
Purpose: The history ring against a list of the latest lines and a position in
  it, key by key.
Trusted boundary: human-reviewed statement of what Up and Down do
Main exports: Arrow, Recall, Recall.arrow, Remembers, Recalls, recalls_arrow,
  recalls_submit, history_refines
-/
import Mp257Fsbl.Cmd.Line
import Mp257Fsbl.Foundation.Circular

namespace Mp257Fsbl.Cmd

open Mp257Fsbl.Foundation
open Mp257Fsbl.Utils

/-! ### The list and the position -/

inductive Arrow where
  | up
  | down
deriving Repr, DecidableEq

/-- What the terminal sends. -/
def Arrow.bytes : Arrow → List UInt8
  | .up => [0x1B, 0x5B, 0x41]
  | .down => [0x1B, 0x5B, 0x42]

/-- The line shown, and how many lines it is behind the latest one; `none` is
the position in front of the latest line. -/
structure Recall where
  position : Option Nat
  line : Line

namespace Recall

/-- One step back, as far as the list goes. -/
def back (count : Nat) : Option Nat → Nat
  | none => 0
  | some k => min (k + 1) (count - 1)

/-- `recents` is the list, the latest line first. -/
def arrow (recents : List Line) (r : Recall) : Arrow → Recall
  | .up =>
      match recents[back recents.length r.position]? with
      | some line => { position := some (back recents.length r.position), line := line }
      | none => r
  | .down =>
      match r.position with
      | none => r
      | some 0 => { position := none, line := .empty }
      | some (k + 1) =>
          match recents[k]? with
          | some line => { position := some k, line := line }
          | none => r

end Recall

/-! ### The ring -/

/-- The ring holds the list, up to the slot before `head`. -/
structure Remembers (recents : List Line) (head : Nat) (e : Editor) : Prop where
  slots : e.history.length = 8
  short : recents.length ≤ 8
  count : e.historyCount = recents.length
  inside : head < 8
  historyHead : e.historyHead = head
  ring : Recent 8 (fun i => e.history.getD i []) head (recents.map Line.buffer)

/-- The index of the slot that is `k` lines behind the latest one. -/
def slotBack (head k : Nat) : Nat := (head + (7 - k)) % 8

/-- The position in the list is the one in the ring. -/
def At (recents : List Line) (head : Nat) (e : Editor) : Option Nat → Prop
  | none => e.historyIndex = -1
  | some k => k < recents.length ∧ e.historyIndex = slotBack head k

/-- The editor is where the list and the position say. -/
structure Recalls (recents : List Line) (head : Nat) (r : Recall) (e : Editor) : Prop where
  remembers : Remembers recents head e
  position : At recents head e r.position
  shows : Shows r.line e
  quiet : e.escState = 0

section Ring

variable {recents : List Line} {head : Nat} {e : Editor}

/-- Reading the slot of a remembered line. -/
theorem Remembers.slot (remembers : Remembers recents head e) {k : Nat} {line : Line}
    (there : recents[k]? = some line) :
    e.historySlot (slotBack head k) = some line.buffer := by
  obtain ⟨inside, rfl⟩ := List.getElem?_eq_some_iff.mp there
  have short := remembers.short
  have cell := remembers.ring k (by simpa using inside)
  have bound : slotBack head k < e.history.length := by
    rw [remembers.slots]
    exact Nat.mod_lt _ (by decide)
  have stored : e.history[slotBack head k]? = some recents[k].buffer := by
    have index : (head + (8 - 1 - k)) % 8 = slotBack head k := rfl
    rw [List.getElem_map, index] at cell
    dsimp only at cell
    rw [List.getD_eq_getElem?_getD, List.getElem?_eq_getElem bound, Option.getD_some] at cell
    rw [List.getElem?_eq_getElem bound, cell]
  rw [Editor.historySlot, if_pos (Int.natCast_nonneg _), Int.toNat_natCast, stored]

/-- Only the history variables matter. -/
theorem Remembers.of_same {next : Editor} (remembers : Remembers recents head e)
    (history : next.history = e.history) (count : next.historyCount = e.historyCount)
    (historyHead : next.historyHead = e.historyHead) : Remembers recents head next where
  slots := history ▸ remembers.slots
  short := remembers.short
  count := count.trans remembers.count
  inside := remembers.inside
  historyHead := historyHead.trans remembers.historyHead
  ring := by
    rw [history]
    exact remembers.ring

theorem At.of_same {position : Option Nat} {next : Editor} (at_ : At recents head e position)
    (same : next.historyIndex = e.historyIndex) : At recents head next position := by
  cases position with
  | none => exact same.trans at_
  | some k => exact ⟨at_.1, same.trans at_.2⟩

/-- Loading a remembered line. -/
theorem Remembers.load (remembers : Remembers recents head e) {k : Nat} {line : Line}
    (there : recents[k]? = some line) :
    ∃ next, (e.historySlot (slotBack head k)).bind
        (fun slot => Editor.lineLoad slot { e with historyIndex := slotBack head k }) =
          some next ∧
      Remembers recents head next ∧ At recents head next (some k) ∧ Shows line next ∧
      next.escState = e.escState := by
  obtain ⟨inside, _⟩ := List.getElem?_eq_some_iff.mp there
  refine ⟨_, by rw [remembers.slot there, Option.bind_some, lineLoad_buffer], ?_⟩
  exact ⟨remembers.of_same rfl rfl rfl, ⟨inside, rfl⟩, ⟨rfl, rfl⟩, rfl⟩

/-- Up goes one line back. -/
theorem historyPrev_recalls {r : Recall} (remembers : Remembers recents head e)
    (position : At recents head e r.position) (shows : Shows r.line e) :
    ∃ next, e.historyPrev = some next ∧ Remembers recents head next ∧
      At recents head next (r.arrow recents .up).position ∧
      Shows (r.arrow recents .up).line next ∧ next.escState = e.escState := by
  have short := remembers.short
  have inside := remembers.inside
  by_cases empty : recents.length = 0
  · have none_ : recents[Recall.back recents.length r.position]? = none :=
      List.getElem?_eq_none (by omega)
    refine ⟨e, ?_, remembers, ?_, ?_, rfl⟩
    · simp [Editor.historyPrev, remembers.count, empty]
    · simpa only [Recall.arrow, none_] using position
    · simpa only [Recall.arrow, none_] using shows
  · have reach : Recall.back recents.length r.position < recents.length := by
      unfold Recall.back
      split <;> omega
    have there := List.getElem?_eq_getElem reach
    obtain ⟨next, loaded, after⟩ := remembers.load there
    refine ⟨next, ?_, by simpa only [Recall.arrow, there] using after⟩
    rw [← loaded]
    have count : e.historyCount ≠ 0 := by
      rw [remembers.count]
      exact Int.natCast_ne_zero.mpr empty
    have index : (if e.historyIndex < 0 then (e.historyHead - 1 + historySize) % historySize
        else
          if e.historyIndex ≠ (e.historyHead - e.historyCount + historySize) % historySize then
            (e.historyIndex - 1 + historySize) % historySize
          else e.historyIndex) = slotBack head (Recall.back recents.length r.position) := by
      rw [remembers.historyHead, remembers.count]
      simp only [historySize, slotBack]
      cases at_ : r.position with
      | none =>
          rw [at_] at position
          have position : e.historyIndex = -1 := position
          simp only [Recall.back, position]
          omega
      | some k =>
          rw [at_] at position
          obtain ⟨reached, position⟩ := position
          simp only [Recall.back, position, slotBack]
          rw [if_neg (by omega)]
          split <;> omega
    simp only [Editor.historyPrev, count, if_false]
    rw [← index]
    rfl

/-- Down goes one line forward, or off the list. -/
theorem historyNext_recalls {r : Recall} (remembers : Remembers recents head e)
    (position : At recents head e r.position) (shows : Shows r.line e) :
    ∃ next, e.historyNext = some next ∧ Remembers recents head next ∧
      At recents head next (r.arrow recents .down).position ∧
      Shows (r.arrow recents .down).line next ∧ next.escState = e.escState := by
  have short := remembers.short
  have inside := remembers.inside
  cases at_ : r.position with
  | none =>
      rw [at_] at position
      have same : r.arrow recents .down = r := by simp [Recall.arrow, at_]
      rw [same, at_]
      have index : e.historyIndex < 0 := by
        rw [show e.historyIndex = -1 from position]
        decide
      exact ⟨e, by simp [Editor.historyNext, index], remembers, position, shows, rfl⟩
  | some k =>
      rw [at_] at position
      obtain ⟨reached, position⟩ := position
      have present : ¬ e.historyIndex < 0 := by
        rw [position]
        omega
      cases k with
      | zero =>
          have wraps : (e.historyIndex + 1) % historySize = e.historyHead := by
            rw [position, remembers.historyHead]
            simp only [historySize, slotBack]
            omega
          have off : r.arrow recents .down = { position := none, line := .empty } := by
            simp [Recall.arrow, at_]
          rw [off]
          refine ⟨{ e with historyIndex := -1, lineBuf := Line.empty.buffer, lineLen := 0 }, ?_,
            remembers.of_same rfl rfl rfl, rfl, ⟨rfl, rfl⟩, rfl⟩
          simp only [Editor.historyNext, present, if_false, wraps, if_true]
          rfl
      | succ k =>
          have there := List.getElem?_eq_getElem (Nat.lt_of_succ_lt reached)
          have ahead : (e.historyIndex + 1) % historySize = slotBack head k := by
            rw [position]
            simp only [historySize, slotBack]
            omega
          have apart : (slotBack head k : Int) ≠ e.historyHead := by
            rw [remembers.historyHead]
            simp only [slotBack]
            omega
          have forward : r.arrow recents .down = { position := some k, line := recents[k] } := by
            simp [Recall.arrow, at_, there]
          obtain ⟨next, loaded, after⟩ := remembers.load there
          rw [forward]
          refine ⟨next, ?_, after⟩
          rw [← loaded]
          simp only [Editor.historyNext, present, if_false, ahead, apart]
          rfl

end Ring

/-! ### Keys -/

/-- The bytes of a burst, one after another. -/
def Editor.feed (cmds : List (List UInt8)) (bytes : List UInt8) (e : Editor) : Option Editor :=
  bytes.foldlM (fun e byte => Editor.cmdByte cmds byte e) e

theorem feed_append (cmds : List (List UInt8)) (first second : List UInt8) (e : Editor) :
    Editor.feed cmds (first ++ second) e =
      (Editor.feed cmds first e).bind (Editor.feed cmds second) := by
  rw [Editor.feed, List.foldlM_append]
  rfl

section Keys

variable (cmds : List (List UInt8)) {recents : List Line} {head : Nat} {r : Recall} {e : Editor}

/-- The three bytes of an arrow key move the position by one step. -/
theorem recalls_arrow (recalls : Recalls recents head r e) (arrow : Arrow) :
    ∃ next, Editor.feed cmds arrow.bytes e = some next ∧
      Recalls recents head (r.arrow recents arrow) next := by
  have remembers : Remembers recents head { e with escState := 2 } :=
    recalls.remembers.of_same rfl rfl rfl
  have position : At recents head { e with escState := 2 } r.position :=
    recalls.position.of_same rfl
  have shows : Shows r.line { e with escState := 2 } :=
    ⟨recalls.shows.lineBuf, recalls.shows.lineLen⟩
  cases arrow with
  | up =>
      obtain ⟨next, moved, remembers, position, shows, _⟩ :=
        historyPrev_recalls remembers position shows
      refine ⟨{ next with escState := 0 }, ?_, remembers.of_same rfl rfl rfl,
        position.of_same rfl, ⟨shows.lineBuf, shows.lineLen⟩, rfl⟩
      simp [Editor.feed, Arrow.bytes, Editor.cmdByte, Editor.tryHandleEscape, recalls.quiet, moved]
  | down =>
      obtain ⟨next, moved, remembers, position, shows, _⟩ :=
        historyNext_recalls remembers position shows
      refine ⟨{ next with escState := 0 }, ?_, remembers.of_same rfl rfl rfl,
        position.of_same rfl, ⟨shows.lineBuf, shows.lineLen⟩, rfl⟩
      simp [Editor.feed, Arrow.bytes, Editor.cmdByte, Editor.tryHandleEscape, recalls.quiet, moved]

theorem recalls_arrows (recalls : Recalls recents head r e) (arrows : List Arrow) :
    ∃ next, Editor.feed cmds (arrows.flatMap Arrow.bytes) e = some next ∧
      Recalls recents head (arrows.foldl (Recall.arrow recents) r) next := by
  induction arrows generalizing r e with
  | nil => exact ⟨e, rfl, recalls⟩
  | cons arrow arrows ih =>
      obtain ⟨middle, moved, recalls⟩ := recalls_arrow cmds recalls arrow
      obtain ⟨next, fed, recalls⟩ := ih recalls
      refine ⟨next, ?_, recalls⟩
      rw [List.flatMap_cons, feed_append, moved, Option.bind_some, fed]

/-- A printable character is appended to the line. -/
theorem recalls_char {c : UInt8} (recalls : Recalls recents head r e) (printable : IsPrintable c)
    (room : r.line.text.length < cmdMaxLen - 1) :
    ∃ next, e.cmdByte cmds c = some next ∧
      Recalls recents head { r with line := r.line.push c printable room } next := by
  have written := r.line.writeAt_push c printable room
  rw [← recalls.shows.lineBuf, ← recalls.shows.lineLen] at written
  have fits : e.lineLen < cmdMaxLen - 1 := by rwa [recalls.shows.lineLen]
  refine ⟨{ e with lineBuf := (r.line.push c printable room).buffer, lineLen := e.lineLen + 1 },
    ?_, recalls.remembers.of_same rfl rfl rfl, recalls.position.of_same rfl, ⟨rfl, ?_⟩,
    recalls.quiet⟩
  · -- None of the control characters is printable.
    have other : c ≠ 0x1B ∧ c ≠ 0x0D ∧ c ≠ 0x0A ∧ c ≠ 0x08 ∧ c ≠ 0x7F := by
      refine ⟨?_, ?_, ?_, ?_, ?_⟩
      all_goals
        rintro rfl
        exact absurd printable (by decide)
    have handled : e.tryHandleEscape c = some (false, e) := by
      simp [Editor.tryHandleEscape, recalls.quiet, other.1]
    simp [Editor.cmdByte, handled, other, printable.1, printable.2, fits, written]
  · simp [recalls.shows.lineLen, Line.push]

/-- Typing printable text appends it. -/
theorem recalls_text {text : List UInt8} {line : Line} (recalls : Recalls recents head r e)
    (typed : line.text = r.line.text ++ text) :
    ∃ next, Editor.feed cmds text e = some next ∧
      Recalls recents head { r with line := line } next := by
  induction text generalizing r e with
  | nil =>
      have same : line = r.line := by
        cases line
        cases hr : r.line
        simpa [hr] using typed
      refine ⟨e, rfl, ?_⟩
      rw [same]
      exact recalls
  | cons c text ih =>
      have printable : IsPrintable c := line.printable c (by simp [typed])
      have room : r.line.text.length < cmdMaxLen - 1 := by
        have fits := line.fits
        rw [typed] at fits
        simp only [List.length_append, List.length_cons] at fits
        omega
      obtain ⟨middle, pushed, recalls⟩ := recalls_char cmds recalls printable room
      obtain ⟨next, fed, recalls⟩ := ih recalls (by simp [typed, Line.push])
      refine ⟨next, ?_, recalls⟩
      rw [Editor.feed, List.foldlM_cons, pushed]
      exact fed

/-- `history_count` saturates. -/
theorem count_push {n : Nat} (short : n ≤ 8) :
    (if (n : Int) < historySize then (n : Int) + 1 else n) = (min 8 (n + 1) : Nat) := by
  have size : historySize = 8 := rfl
  split <;> omega

/-- What `history_add` changes. -/
theorem historyAdd_eq {line : Line} (remembers : Remembers recents head e)
    (shows : Shows line e) (entered : line.text ≠ []) :
    e.historyAdd = some
      { e with
        lineBuf := line.buffer
        history := e.history.set head line.buffer
        historyHead := (e.historyHead + 1) % historySize
        historyCount :=
          if e.historyCount < historySize then e.historyCount + 1 else e.historyCount
        historyIndex := -1 } := by
  have inside := remembers.inside
  have terminator : writeAt e.lineBuf e.lineLen 0 = some line.buffer := by
    rw [shows.lineBuf, shows.lineLen]
    exact line.writeAt_buffer (Nat.le_refl _) line.fits
  obtain ⟨first, more, read⟩ : ∃ first, first ≠ 0 ∧ deref line.buffer = some first := by
    cases text : line.text with
    | nil => exact absurd text entered
    | cons c rest =>
        refine ⟨c, line.noNul c (by simp [text]), ?_⟩
        simp [Line.buffer, padded, text]
  have last : writeAt line.buffer (cmdMaxLen - 1) 0 = some line.buffer :=
    line.writeAt_buffer (Nat.le_sub_one_of_lt line.fits) (by decide)
  have present : 0 ≤ e.historyHead := by
    rw [remembers.historyHead]
    exact Int.natCast_nonneg head
  have stored : writeAt e.history e.historyHead.toNat line.buffer =
      some (e.history.set head line.buffer) := by
    rw [remembers.historyHead, Int.toNat_natCast, writeAt, remembers.slots, if_pos inside]
  simp only [Editor.historyAdd, terminator, read, more, if_false, line.strncpy_buffer, last,
    present, if_true, stored, Option.bind_eq_bind, Option.bind_some]
  rfl

/-- `history_add` puts the line in front. -/
theorem historyAdd_remembers {line : Line} (remembers : Remembers recents head e)
    (shows : Shows line e) (entered : line.text ≠ []) :
    ∃ next, e.historyAdd = some next ∧
      Remembers ((line :: recents).take 8) ((head + 1) % 8) next ∧ next.historyIndex = -1 ∧
      Shows line next ∧ next.escState = e.escState := by
  have short := remembers.short
  have inside := remembers.inside
  refine ⟨_, historyAdd_eq remembers shows entered, ?_, rfl, ⟨rfl, shows.lineLen⟩, rfl⟩
  have cells : (fun i => (e.history.set head line.buffer).getD i []) =
      Store.overlay (fun i => e.history.getD i []) head [line.buffer] := by
    funext i
    by_cases here : i = head
    · subst here
      rw [Store.overlay_first, List.getD_eq_getElem?_getD,
        List.getElem?_set_self (by rwa [remembers.slots]), Option.getD_some]
    · rw [Store.overlay_outside (by simp only [List.length_singleton]; omega),
        List.getD_eq_getElem?_getD, List.getElem?_set_ne (Ne.symm here),
        List.getD_eq_getElem?_getD]
  exact
    { slots := by simp [remembers.slots]
      short := by simp
      count := by
        rw [List.length_take, List.length_cons, ← count_push short, ← remembers.count]
      inside := Nat.mod_lt _ (by decide)
      historyHead := by
        rw [remembers.historyHead]
        simp only [historySize]
        omega
      ring := by
        rw [cells, List.map_take, List.map_cons]
        exact remembers.ring.push inside line.buffer }

/-- Enter outside an escape sequence. -/
theorem cmdByte_enter (quiet : e.escState = 0) :
    e.cmdByte cmds 0x0D = e.historyAdd.bind (Editor.executeCommand cmds) := by
  simp only [Editor.cmdByte, Editor.tryHandleEscape, quiet, Option.bind_eq_bind]
  rfl

/-- Typing a line and Enter submits it. -/
theorem recalls_submit (names : ∀ name ∈ cmds, Terminated name) {line : Line}
    (recalls : Recalls recents head { position := none, line := .empty } e)
    (entered : line.text ≠ []) :
    ∃ next, Editor.feed cmds (line.text ++ [0x0D]) e = some next ∧
      Recalls ((line :: recents).take 8) ((head + 1) % 8) { position := none, line := .empty }
        next := by
  obtain ⟨typed, fed, recalls⟩ := recalls_text cmds recalls (List.nil_append line.text).symm
  obtain ⟨added, stored, remembers, index, shows, quiet⟩ :=
    historyAdd_remembers recalls.remembers recalls.shows entered
  obtain ⟨dispatch, executed⟩ := executeCommand_shows names shows entered
  refine ⟨{ added.cmdPrompt with
      executed := added.executed ++ [{ line := line.text, dispatch := dispatch }] }, ?_,
    remembers.of_same rfl rfl rfl, index, ⟨rfl, rfl⟩, quiet.trans recalls.quiet⟩
  rw [feed_append, fed, Option.bind_some, Editor.feed, List.foldlM_cons,
    cmdByte_enter cmds recalls.quiet, stored, Option.bind_some, executed]
  rfl

/-- Typing lines one after another leaves the last eight. -/
theorem recalls_submits (names : ∀ name ∈ cmds, Terminated name) {lines : List Line}
    (entered : ∀ line ∈ lines, line.text ≠ [])
    (recalls : Recalls (recents.take 8) head { position := none, line := .empty } e) :
    ∃ next head', Editor.feed cmds (lines.flatMap fun line => line.text ++ [0x0D]) e = some next ∧
      Recalls ((lines.reverse ++ recents).take 8) head' { position := none, line := .empty }
        next := by
  induction lines generalizing recents head e with
  | nil => exact ⟨e, head, rfl, recalls⟩
  | cons line lines ih =>
      obtain ⟨middle, fed, recalls⟩ :=
        recalls_submit cmds names recalls (entered line List.mem_cons_self)
      have latest : (line :: recents.take 8).take 8 = (line :: recents).take 8 := by
        simp [List.take_take]
      rw [latest] at recalls
      obtain ⟨next, head', rest, recalls⟩ :=
        ih (fun other member => entered other (List.mem_cons_of_mem _ member)) recalls
      refine ⟨next, head', ?_, ?_⟩
      · rw [List.flatMap_cons, feed_append, fed, Option.bind_some, rest]
      · simpa using recalls

end Keys

/-! ### Any number of lines -/

/-- The lines that the ring keeps of those submitted, the latest first. -/
def lastEight (lines : List Line) : List Line := lines.reverse.take 8

theorem recalls_reset : Recalls [] 0 { position := none, line := .empty } .reset where
  remembers :=
    { slots := rfl
      short := by decide
      count := rfl
      inside := by decide
      historyHead := rfl
      ring := Recent.nil }
  position := rfl
  shows := ⟨rfl, rfl⟩
  quiet := rfl

theorem cmdList_terminated : ∀ name ∈ cmdList, Terminated name := by
  unfold Terminated
  decide

/-- The `k`-th Up in a row shows the `k`-th latest line, or the oldest one. -/
theorem arrows_up (recents : List Line) (draft : Line) (k : Nat) :
    (List.replicate (k + 1) Arrow.up).foldl (Recall.arrow recents)
        { position := none, line := draft } =
      match recents[min k (recents.length - 1)]? with
      | some line => { position := some (min k (recents.length - 1)), line := line }
      | none => { position := none, line := draft } := by
  induction k with
  | zero =>
      rw [Nat.zero_min]
      rfl
  | succ k ih =>
      rw [List.replicate_succ', List.foldl_append, ih]
      by_cases empty : recents = []
      · subst empty
        rfl
      · have nonempty : 0 < recents.length := List.length_pos_iff.mpr empty
        have here := List.getElem?_eq_getElem
          (show min k (recents.length - 1) < recents.length by omega)
        have next : Recall.back recents.length (some (min k (recents.length - 1))) =
            min (k + 1) (recents.length - 1) := by
          simp only [Recall.back]
          omega
        simp only [here, List.foldl_cons, List.foldl_nil, Recall.arrow, next,
          List.getElem?_eq_getElem
            (show min (k + 1) (recents.length - 1) < recents.length by omega)]

theorem arrows_nil (draft : Line) (arrows : List Arrow) :
    arrows.foldl (Recall.arrow []) { position := none, line := draft } =
      { position := none, line := draft } := by
  induction arrows with
  | nil => rfl
  | cons arrow arrows ih =>
      cases arrow <;> exact ih

/-- However many lines have been submitted, and whatever is on the line, the
arrow keys walk through the last eight. -/
theorem history_refines {lines : List Line} (entered : ∀ line ∈ lines, line.text ≠ [])
    (draft : Line) :
    ∃ e, Editor.feed cmdList ((lines.flatMap fun line => line.text ++ [0x0D]) ++ draft.text)
          .reset = some e ∧
      e.historyIndex = -1 ∧ Shows draft e ∧
      (∀ arrows : List Arrow, ∃ next,
        Editor.feed cmdList (arrows.flatMap Arrow.bytes) e = some next ∧
          Shows (arrows.foldl (Recall.arrow (lastEight lines))
            { position := none, line := draft }).line next ∧
          (next.historyIndex = -1 ↔
            (arrows.foldl (Recall.arrow (lastEight lines))
              { position := none, line := draft }).position = none)) ∧
      (∀ k, ∃ next,
        Editor.feed cmdList ((List.replicate (k + 1) Arrow.up).flatMap Arrow.bytes) e =
            some next ∧
          Shows (lines.reverse[min k (min lines.length 8 - 1)]?.getD draft) next) ∧
      (lines = [] → ∀ arrows : List Arrow, ∃ next,
        Editor.feed cmdList (arrows.flatMap Arrow.bytes) e = some next ∧ Shows draft next) := by
  have start : Recalls (([] : List Line).take 8) 0 { position := none, line := .empty } .reset :=
    recalls_reset
  obtain ⟨submitted, head, fed, recalls⟩ :=
    recalls_submits cmdList cmdList_terminated entered start
  rw [List.append_nil] at recalls
  obtain ⟨e, typed, recalls⟩ := recalls_text cmdList recalls (List.nil_append draft.text).symm
  refine ⟨e, ?_, recalls.position, recalls.shows, ?_, ?_, ?_⟩
  · rw [feed_append, fed, Option.bind_some, typed]
  · intro arrows
    obtain ⟨next, moved, recalls⟩ := recalls_arrows cmdList recalls arrows
    refine ⟨next, moved, recalls.shows, ?_⟩
    have position := recalls.position
    unfold lastEight
    cases at_ : (arrows.foldl (Recall.arrow (lines.reverse.take 8))
        { position := none, line := draft }).position with
    | none =>
        rw [at_] at position
        exact ⟨fun _ => rfl, fun _ => position⟩
    | some k =>
        rw [at_] at position
        have index : next.historyIndex ≠ -1 := by
          rw [position.2]
          omega
        simp [index]
  · intro k
    obtain ⟨next, moved, recalls⟩ := recalls_arrows cmdList recalls (List.replicate (k + 1) .up)
    refine ⟨next, moved, ?_⟩
    have shows := recalls.shows
    have length : (lines.reverse.take 8).length = min lines.length 8 := by
      rw [List.length_take, List.length_reverse, Nat.min_comm]
    have same : (lines.reverse.take 8)[min k (min lines.length 8 - 1)]? =
        lines.reverse[min k (min lines.length 8 - 1)]? :=
      List.getElem?_take_of_lt (by omega)
    rw [arrows_up, length, same] at shows
    cases kept : lines.reverse[min k (min lines.length 8 - 1)]? with
    | none => rwa [kept] at shows
    | some line => rwa [kept] at shows
  · rintro rfl arrows
    obtain ⟨next, moved, recalls⟩ := recalls_arrows cmdList recalls arrows
    refine ⟨next, moved, ?_⟩
    have shows := recalls.shows
    have none_ : (([] : List Line).reverse.take 8) = [] := rfl
    rw [none_, arrows_nil] at shows
    exact shows

/-- The line `sd`. -/
def sdLine : Line where
  text := [0x73, 0x64]
  printable := by
    intro c member
    rw [List.mem_pair] at member
    rcases member with rfl | rfl <;> decide
  fits := by decide

/-- The line of one letter, from `a` on. -/
def letterLine (i : Fin 26) : Line where
  text := [0x61 + UInt8.ofNat i]
  printable := by
    intro c member
    rw [List.mem_singleton] at member
    subst member
    revert i
    decide
  fits := by
    revert i
    decide

/-- The lines `a` to `i`. -/
def nineLines : List Line := [0, 1, 2, 3, 4, 5, 6, 7, 8].map letterLine

/-- Of nine lines the first is forgotten: nine Ups show `b`. -/
theorem history_refines_nine :
    ∃ e, Editor.feed cmdList ((nineLines.flatMap fun line => line.text ++ [0x0D]) ++ sdLine.text)
          .reset = some e ∧
      ∃ next b, Editor.feed cmdList ((List.replicate 9 Arrow.up).flatMap Arrow.bytes) e =
          some next ∧
        b.text = [0x62] ∧ Shows b next := by
  have entered : ∀ line ∈ nineLines, line.text ≠ [] := by
    intro line member
    obtain ⟨i, -, rfl⟩ := List.mem_map.mp member
    exact List.cons_ne_nil _ _
  obtain ⟨e, fed, _, _, _, up, _⟩ := history_refines entered sdLine
  obtain ⟨next, moved, shows⟩ := up 8
  exact ⟨e, fed, next, _, moved, rfl, shows⟩

end Mp257Fsbl.Cmd
