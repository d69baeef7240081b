/-
Module: Mp257Fsbl.Cmd.Representation
Purpose: What holds of the statics of cmd.c after every byte, whatever has been
  typed, and that no byte makes the editor leave its arrays.
Trusted boundary: none
Main exports: Editor.Represents, follows_represents, mainBursts_events,
  editor_represents
-/
import Mp257Fsbl.Cmd.Desk
import Mp257Fsbl.Cmd.Fifo

namespace Mp257Fsbl.Cmd

open Mp257Fsbl.Utils

/-- The slots of the last `history_count` lines. -/
def Editor.Occupied (e : Editor) (i : Int) : Prop :=
  ∃ back : Int, 1 ≤ back ∧ back ≤ e.historyCount ∧ i = (e.historyHead - back) % 8

/-- The representation of a line and a history in the statics of cmd.c. -/
structure Editor.Represents (e : Editor) : Prop where
  size : e.lineBuf.length = 32
  lineLen : e.lineLen ≤ 31
  text : ∀ i < e.lineLen, ∃ c, e.lineBuf[i]? = some c ∧ c ≠ 0
  zeroes : ∀ i, e.lineLen ≤ i → i < 32 → e.lineBuf[i]? = some 0
  slots : e.history.length = 8
  terminated : ∀ slot ∈ e.history, slot.length = 32 ∧ 0 ∈ slot
  historyHead : 0 ≤ e.historyHead ∧ e.historyHead < 8
  historyCount : 0 ≤ e.historyCount ∧ e.historyCount ≤ 8
  historyIndex : e.historyIndex = -1 ∨
    (0 ≤ e.historyIndex ∧ e.historyIndex < 8 ∧ e.Occupied e.historyIndex)

section

variable {desk : Desk} {head : Nat} {e : Editor}

theorem Shows.text {line : Line} (shows : Shows line e) {i : Nat} (inside : i < e.lineLen) :
    ∃ c, e.lineBuf[i]? = some c ∧ c ≠ 0 := by
  rw [shows.lineLen] at inside
  refine ⟨line.text[i], ?_, line.noNul _ (List.getElem_mem inside)⟩
  rw [shows.lineBuf, Line.buffer, padded, List.getElem?_append_left inside,
    List.getElem?_eq_getElem inside]

theorem Shows.zeroes {line : Line} (shows : Shows line e) {i : Nat} (behind : e.lineLen ≤ i)
    (inside : i < 32) : e.lineBuf[i]? = some 0 := by
  rw [shows.lineLen] at behind
  have stored : i - line.text.length < cmdMaxLen - line.text.length :=
    Nat.sub_lt_sub_right behind inside
  rw [shows.lineBuf, Line.buffer, padded, List.getElem?_append_right behind,
    List.getElem?_replicate_of_lt stored]

/-- A position in the list is an occupied slot. -/
theorem At.occupied {position : Option Nat} {recents : List Line}
    (remembers : Remembers recents head e) (at_ : At recents head e position) :
    e.historyIndex = -1 ∨
      (0 ≤ e.historyIndex ∧ e.historyIndex < 8 ∧ e.Occupied e.historyIndex) := by
  have short := remembers.short
  cases position with
  | none => exact .inl at_
  | some k =>
      obtain ⟨reached, index⟩ := at_
      right
      rw [index]
      refine ⟨Int.natCast_nonneg _, ?_, k + 1, ?_, ?_, ?_⟩
      · simp only [slotBack]
        omega
      · omega
      · rw [remembers.count]
        omega
      · rw [remembers.historyHead]
        simp only [slotBack]
        omega

theorem follows_represents (follows : Follows desk head e) : e.Represents where
  size := by rw [follows.shows.lineBuf, desk.walk.line.buffer_length]; rfl
  lineLen := by
    rw [follows.shows.lineLen]
    exact Nat.le_of_lt_succ desk.walk.line.fits
  text := fun _ inside => follows.shows.text inside
  zeroes := fun _ behind inside => follows.shows.zeroes behind inside
  slots := follows.remembers.slots
  terminated := follows.terminated
  historyHead := by
    have inside := follows.remembers.inside
    rw [follows.remembers.historyHead]
    omega
  historyCount := by
    have short := follows.remembers.short
    rw [follows.remembers.count]
    omega
  historyIndex := follows.position.occupied follows.remembers

end

/-! ### Under the main loop -/

section Bursts

variable (cmds : List (List UInt8)) {terminal : Terminal} {list : List UInt8}

/-- Whatever is pushed, the editor sees events. -/
theorem mainBurst_events (holds : Holds terminal.console list) (burst : List UInt8) :
    ∃ (events : List Event) (console : Console) (after : List UInt8), Holds console after ∧
      mainBurst cmds terminal burst =
        (events.foldlM (Editor.event cmds) terminal.editor).map fun e =>
          { console := console, editor := e } := by
  obtain ⟨stored, pushed⟩ : ∃ stored,
      Holds (burst.foldl (fun console c => consolePush c console) terminal.console) stored := by
    induction burst generalizing terminal list with
    | nil => exact ⟨list, holds⟩
    | cons c burst ih =>
        obtain ⟨after, holds⟩ := holds_push_any holds c
        exact @ih { terminal with console := consolePush c terminal.console } after holds
  obtain ⟨drained, empty, _, loop⟩ := cmdPollLoop_holds cmds pushed
  have chars : ∀ e, (stored.map Event.char).foldlM (Editor.event cmds) e =
      stored.foldlM (fun e c => Editor.cmdByte cmds c e) e := by
    intro e
    rw [List.foldlM_map]
    rfl
  cases flag : drained.interruptFlag with
  | false =>
      refine ⟨stored.map .char, drained, [], empty, ?_⟩
      simp only [mainBurst, cmdPoll, loop, chars]
      cases stored.foldlM (fun e c => Editor.cmdByte cmds c e) terminal.editor with
      | none => rfl
      | some e => simp [consoleInterrupted, flag]
  | true =>
      refine ⟨stored.map .char ++ [.interrupt], { drained with interruptFlag := false }, [],
        ⟨empty.short, empty.head, empty.cells⟩, ?_⟩
      simp only [mainBurst, cmdPoll, loop, List.foldlM_append, chars]
      cases stored.foldlM (fun e c => Editor.cmdByte cmds c e) terminal.editor with
      | none => rfl
      | some e => simp [consoleInterrupted, flag, Editor.event]

theorem mainBursts_events (holds : Holds terminal.console list) (bursts : List (List UInt8)) :
    ∃ events, (mainBursts cmds terminal bursts).map Terminal.editor =
      List.foldlM (Editor.event cmds) terminal.editor events := by
  induction bursts generalizing terminal list with
  | nil => exact ⟨[], rfl⟩
  | cons burst bursts ih =>
      obtain ⟨first, console, after, holds, round⟩ := mainBurst_events cmds holds burst
      cases middle : first.foldlM (Editor.event cmds) terminal.editor with
      | none =>
          refine ⟨first, ?_⟩
          rw [mainBursts, List.foldlM_cons, round, middle]
          rfl
      | some e =>
          obtain ⟨rest, later⟩ := @ih { console := console, editor := e } after holds
          refine ⟨first ++ rest, ?_⟩
          rw [mainBursts, List.foldlM_cons, round, List.foldlM_append, middle]
          exact later

end Bursts

/-- After every byte and interrupt the statics are a representation, and none
of them is accessed out of range. Bytes that come in bursts are no exception. -/
theorem editor_represents :
    (∀ events : List Event, ∃ e, events.foldlM (Editor.event cmdList) .reset = some e ∧
      e.Represents) ∧
    ∀ bursts : List (List UInt8), ∃ terminal, mainBursts cmdList .reset bursts = some terminal ∧
      terminal.editor.Represents := by
  have events : ∀ events : List Event, ∃ e,
      events.foldlM (Editor.event cmdList) .reset = some e ∧ e.Represents := by
    intro events
    obtain ⟨e, head, done, follows⟩ := editor_follows events
    exact ⟨e, done, follows_represents follows⟩
  refine ⟨events, fun bursts => ?_⟩
  have empty : Holds Terminal.reset.console [] := holds_empty rfl
  obtain ⟨performed, same⟩ := mainBursts_events cmdList empty bursts
  obtain ⟨e, done, represents⟩ := events performed
  rw [show Terminal.reset.editor = Editor.reset from rfl, done] at same
  obtain ⟨terminal, reached, rfl⟩ := Option.map_eq_some_iff.mp same
  exact ⟨terminal, reached, represents⟩

end Mp257Fsbl.Cmd
