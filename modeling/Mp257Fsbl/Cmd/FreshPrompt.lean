/-
Module: Mp257Fsbl.Cmd.FreshPrompt
Purpose: Where Up and Down start from on a new, empty line.
Trusted boundary: human-reviewed statement of a fresh prompt
Main exports: Editor.Discards, Editor.Fresh, Editor.FreshWhen, follows_fresh_iff,
  reachable_fresh_iff
-/
import Mp257Fsbl.Cmd.Desk

namespace Mp257Fsbl.Cmd

namespace Editor

/-- The events that submit or discard the line: Enter, Ctrl-L and Ctrl-C. The
bytes do so outside an escape sequence only. -/
def Discards (e : Editor) : Event → Prop
  | .char c => e.escState = 0 ∧ (c = 0x0D ∨ c = 0x0A ∨ c = 0x0C)
  | .interrupt => True

/-- Up shows the line submitted last, if there is any, and Down leaves the line
empty. -/
def Fresh (e : Editor) : Prop :=
  (∃ up, feed cmdList Arrow.up.bytes e = some up ∧
      up.line = (e.executed.getLast?.map Executed.line).getD []) ∧
    ∃ down, feed cmdList Arrow.down.bytes e = some down ∧ down.line = []

/-- Enter on a line that is not empty. -/
def Submits (e : Editor) : Event → Prop
  | .char c => (c = 0x0D ∨ c = 0x0A) ∧ e.lineLen ≠ 0
  | .interrupt => False

/-- The walk stands at the latest line, and one step back shows the same. -/
def AtTwin (e : Editor) : Prop :=
  e.historyIndex = (e.historyHead - 1) % historySize ∧
    (e.historyCount = 1 ∨ e.historySlot ((e.historyHead - 2) % historySize) =
      e.historySlot ((e.historyHead - 1) % historySize))

/-- No escape sequence is pending, and either the event ends the walk or there
is none, or none that shows. -/
def FreshWhen (e : Editor) (event : Event) : Prop :=
  e.escState = 0 ∧ (e.Submits event ∨ e.historyIndex = -1 ∨ e.AtTwin)

end Editor

/-! ### On the desk -/

section Feed

variable {desk : Desk} {head : Nat} {e : Editor}

theorem follows_line (follows : Follows desk head e) : e.line = desk.walk.line.text := by
  rw [Editor.line, follows.shows.lineBuf, follows.shows.lineLen, Line.buffer_take]

/-- The list starts with the line submitted last. -/
theorem follows_newest (follows : Follows desk head e) :
    e.executed.getLast?.map Executed.line = desk.recents.head?.map Line.text := by
  have submitted := congrArg List.head? follows.submitted
  rw [List.head?_map] at submitted
  rw [submitted]
  simp [List.head?_take]

end Feed

namespace Desk

variable {desk : Desk}

/-- The lines in the list are not empty. -/
def Kept (desk : Desk) : Prop := ∀ line ∈ desk.recents, line.text ≠ []

theorem kept_reset : Desk.reset.Kept := by
  intro line member
  cases member

theorem kept_submit (kept : desk.Kept) : desk.submit.Kept := by
  unfold submit
  split
  · exact kept
  · rename_i entered
    intro line member
    rcases List.mem_cons.mp (List.mem_of_mem_take member) with rfl | earlier
    · exact entered
    · exact kept line earlier

theorem kept_key (words : List Line) (kept : desk.Kept) (c : UInt8) : (desk.key words c).Kept := by
  unfold key
  split
  · exact kept_submit kept
  · -- The other keys leave the list alone.
    split
    · exact kept
    · split
      · exact kept
      · split
        · exact kept
        · split
          · exact kept
          · exact kept

theorem kept_event (words : List Line) (kept : desk.Kept) (event : Event) :
    (desk.event words event).Kept := by
  cases event with
  | interrupt => exact kept
  | char c =>
      simp only [Desk.event, Desk.byte]
      cases desk.pending with
      | nothing =>
          dsimp only
          split
          · exact kept
          · exact kept_key words kept c
      | escape => exact kept
      | bracket => exact kept

theorem kept_events (words : List Line) (kept : desk.Kept) (events : List Event) :
    (events.foldl (Desk.event words) desk).Kept := by
  induction events generalizing desk with
  | nil => exact kept
  | cons event events ih => exact ih (kept_event words kept event)

/-- Up shows the latest line and Down leaves an empty line as it is. -/
def Settled (desk : Desk) : Prop :=
  desk.walk.position = none ∨
    (desk.walk.position = some 0 ∧
      (desk.recents[min 1 (desk.recents.length - 1)]?).map Line.text =
        desk.recents.head?.map Line.text)

/-- With an escape sequence pending, ESC ends it and the rest is typed. -/
theorem arrow_typed (words : List Line) (busy : desk.pending ≠ .nothing)
    (blank : desk.walk.line.text = []) (arrow : Arrow) :
    ∃ c, (arrow.bytes.foldl (fun desk c => desk.byte words c) desk).walk.line.text =
      [0x5B, c] := by
  have escape : desk.byte words 0x1B = { desk with pending := .nothing } := by
    cases desk with
    | mk recents walk pending =>
        cases pending with
        | nothing => exact absurd rfl busy
        | escape => rfl
        | bracket => rfl
  obtain ⟨c, letter, bytes⟩ : ∃ c, IsPrintable c ∧ arrow.bytes = [0x1B, 0x5B, c] := by
    cases arrow with
    | up => exact ⟨0x41, by decide, rfl⟩
    | down => exact ⟨0x42, by decide, rfl⟩
  have bracket : IsPrintable 0x5B := by decide
  have first : (desk.walk.line.typed 0x5B).text = [0x5B] := by
    rw [Line.typed_text bracket (by simp [blank]; decide), blank, List.nil_append]
  have second : ((desk.walk.line.typed 0x5B).typed c).text = [0x5B, c] := by
    rw [Line.typed_text letter (by simp [first]; decide), first]
    rfl
  refine ⟨c, ?_⟩
  simp only [bytes, List.foldl_cons, List.foldl_nil, escape]
  rw [byte_printable words rfl bracket, byte_printable words rfl letter]
  exact second

/-- What Up shows on an empty line, with the list at `position`. -/
theorem up_newest_iff (blank : desk.walk.line.text = [])
    (reached : ∀ k, desk.walk.position = some k → k < desk.recents.length) :
    (desk.walk.arrow desk.recents .up).line.text =
        (desk.recents.head?.map Line.text).getD [] ↔
      (desk.recents[Recall.back desk.recents.length desk.walk.position]?).map Line.text =
        desk.recents.head?.map Line.text := by
  cases list : desk.recents with
  | nil => simp [Recall.arrow, blank]
  | cons newest older =>
      have inside : Recall.back (newest :: older).length desk.walk.position <
          (newest :: older).length := by
        rw [list] at reached
        cases at_ : desk.walk.position with
        | none => exact Nat.zero_lt_succ _
        | some k =>
            have reached := reached k at_
            simp only [Recall.back]
            omega
      have there := List.getElem?_eq_getElem inside
      simp only [Recall.arrow, there, Option.map_some, List.head?_cons, Option.getD_some,
        Option.some.injEq]

/-- On an empty line the arrow keys start afresh exactly where the desk is
settled. -/
theorem arrows_fresh_iff (kept : desk.Kept) (blank : desk.walk.line.text = [])
    (reached : ∀ k, desk.walk.position = some k → k < desk.recents.length) :
    ((desk.walk.arrow desk.recents .up).line.text =
        (desk.recents.head?.map Line.text).getD [] ∧
      (desk.walk.arrow desk.recents .down).line.text = []) ↔ desk.Settled := by
  rw [up_newest_iff blank reached]
  unfold Settled
  cases at_ : desk.walk.position with
  | none =>
      have down : (desk.walk.arrow desk.recents .down).line.text = [] := by
        simp [Recall.arrow, at_, blank]
      simp [Recall.back, down, List.head?_eq_getElem?]
  | some k =>
      cases k with
      | zero =>
          have down : (desk.walk.arrow desk.recents .down).line.text = [] := by
            simp [Recall.arrow, at_, Line.empty]
          simp [Recall.back, down]
      | succ k =>
          have inside := reached (k + 1) at_
          have there := List.getElem?_eq_getElem (Nat.lt_of_succ_lt inside)
          have down : (desk.walk.arrow desk.recents .down).line.text ≠ [] := by
            simp only [Recall.arrow, at_, there]
            exact kept _ (List.getElem_mem _)
          simp [down]

end Desk

/-! ### On the editor -/

section Fresh

variable {desk : Desk} {head : Nat} {e : Editor}

theorem At.reached {recents : List Line} {position : Option Nat}
    (at_ : At recents head e position) (k : Nat) (here : position = some k) :
    k < recents.length := by
  subst here
  exact at_.1

theorem follows_fresh_iff (follows : Follows desk head e) (kept : desk.Kept)
    (blank : desk.walk.line.text = []) :
    e.Fresh ↔ desk.pending = .nothing ∧ desk.Settled := by
  obtain ⟨up, head₁, up_done, up_follows⟩ := follows_feed follows Arrow.up.bytes
  obtain ⟨down, head₂, down_done, down_follows⟩ := follows_feed follows Arrow.down.bytes
  have newest := follows_newest follows
  have fresh : e.Fresh ↔
      up.line = (desk.recents.head?.map Line.text).getD [] ∧ down.line = [] := by
    simp only [Editor.Fresh, up_done, down_done, newest, Option.some.injEq, exists_eq_left']
  rw [fresh, follows_line up_follows, follows_line down_follows]
  by_cases quiet : desk.pending = .nothing
  · rw [Desk.arrow_bytes cmdWords quiet, Desk.arrow_bytes cmdWords quiet]
    simp only [quiet, true_and]
    exact Desk.arrows_fresh_iff kept blank follows.position.reached
  · obtain ⟨c, typed⟩ := Desk.arrow_typed cmdWords quiet blank .down
    simp [typed, quiet]

/-- Two lines of the list are the same where their slots are. -/
theorem Line.buffer_inj {line other : Line} (same : line.buffer = other.buffer) :
    line.text = other.text := by
  have length : line.text.length = other.text.length := by
    have measured := line.strlen_buffer
    rw [same, other.strlen_buffer] at measured
    exact (Option.some.inj measured).symm
  rw [← line.buffer_take, same, length, other.buffer_take]

theorem Remembers.twin_iff {recents : List Line} (remembers : Remembers recents head e)
    (some_lines : 0 < recents.length) :
    (e.historyCount = 1 ∨ e.historySlot (slotBack head 1) = e.historySlot (slotBack head 0)) ↔
      (recents[min 1 (recents.length - 1)]?).map Line.text = recents.head?.map Line.text := by
  have count := remembers.count
  cases recents with
  | nil => cases some_lines
  | cons newest older =>
      cases older with
      | nil => exact iff_of_true (.inl count) rfl
      | cons second oldest =>
          have several : e.historyCount ≠ 1 := by
            rw [count, List.length_cons, List.length_cons]
            omega
          have first : e.historySlot (slotBack head 0) = some newest.buffer := remembers.slot rfl
          have next : e.historySlot (slotBack head 1) = some second.buffer := remembers.slot rfl
          have same : second.buffer = newest.buffer ↔ second.text = newest.text :=
            ⟨Line.buffer_inj, fun text => by rw [Line.buffer, Line.buffer, text]⟩
          simp [several, first, next, same]

/-- Where the history variables say that the desk is settled. -/
theorem follows_settled_iff (follows : Follows desk head e) :
    desk.Settled ↔ e.historyIndex = -1 ∨ e.AtTwin := by
  have remembers := follows.remembers
  have short := remembers.short
  have inside := remembers.inside
  have position := follows.position
  have newest : (e.historyHead - 1) % historySize = slotBack head 0 := by
    rw [remembers.historyHead]
    simp only [historySize, slotBack]
    omega
  have older : (e.historyHead - 2) % historySize = slotBack head 1 := by
    rw [remembers.historyHead]
    simp only [historySize, slotBack]
    omega
  unfold Desk.Settled Editor.AtTwin
  rw [newest, older]
  cases at_ : desk.walk.position with
  | none =>
      rw [at_] at position
      exact iff_of_true (.inl rfl) (.inl position)
  | some k =>
      rw [at_] at position
      obtain ⟨reached, index⟩ := position
      have walking : e.historyIndex ≠ -1 := by
        rw [index]
        omega
      have newest_iff : e.historyIndex = slotBack head 0 ↔ k = 0 := by
        rw [index]
        simp only [slotBack]
        omega
      have twin := follows.remembers.twin_iff (Nat.zero_lt_of_lt reached)
      simp [walking, newest_iff, twin]

/-- Only a submitted line ends the walk. -/
theorem discards_settled_iff (follows : Follows desk head e) {event : Event}
    (discards : e.Discards event) :
    (desk.event cmdWords event).walk.line.text = [] ∧
      (desk.event cmdWords event).pending = desk.pending ∧
      ((desk.event cmdWords event).Settled ↔ e.Submits event ∨ desk.Settled) := by
  have cleared : (desk.edit .empty).walk.line.text = [] ∧
      (desk.edit .empty).pending = desk.pending ∧ ((desk.edit .empty).Settled ↔ desk.Settled) :=
    ⟨rfl, rfl, Iff.rfl⟩
  cases event with
  | interrupt =>
      refine ⟨cleared.1, cleared.2.1, ?_⟩
      simp only [Editor.Submits, false_or]
      exact cleared.2.2
  | char c =>
      obtain ⟨outside, key⟩ := discards
      have quiet := follows.quiet_iff.mp outside
      have length := follows.shows.lineLen
      rcases or_assoc.mpr key with enter | clear
      · have performed : desk.event cmdWords (.char c) = desk.submit := by
          have other : c ≠ 0x1B := by
            rintro rfl
            exact absurd enter (by decide)
          simp only [Desk.event, Desk.byte, quiet, other, if_false, Desk.key, enter, if_true]
        rw [performed, Desk.submit]
        by_cases blank : desk.walk.line.text = []
        · rw [if_pos blank]
          simp [blank, Editor.Submits, length]
        · rw [if_neg blank]
          have some_left : e.lineLen ≠ 0 := by rwa [length, Ne, List.length_eq_zero_iff]
          exact ⟨rfl, rfl, iff_of_true (.inl rfl) (.inl ⟨enter, some_left⟩)⟩
      · subst clear
        have performed : desk.event cmdWords (.char 0x0C) = desk.edit .empty := by
          simp only [Desk.event, Desk.byte, quiet]
          rfl
        rw [performed]
        simpa [Editor.Submits] using cleared

end Fresh

/-- In every run, the new line is a fresh prompt exactly where the line is
submitted or no walk is in progress that could show. -/
theorem reachable_fresh_iff {events : List Event} {e : Editor}
    (reached : events.foldlM (Editor.event cmdList) .reset = some e) {event : Event}
    (discards : e.Discards event) :
    (∃ next, e.event cmdList event = some next ∧ next.Fresh) ↔ e.FreshWhen event := by
  obtain ⟨same, head, done, follows⟩ := editor_follows events
  obtain rfl := Option.some.inj (done.symm.trans reached)
  have kept := Desk.kept_events cmdWords Desk.kept_reset events
  generalize events.foldl (Desk.event cmdWords) .reset = desk at follows kept
  obtain ⟨next, head', performed, after⟩ := @follows_event _ _ _ cmdWords follows event
  rw [cmdWords_table] at performed
  obtain ⟨blank, pending, settled⟩ := discards_settled_iff follows discards
  have fresh := follows_fresh_iff after (Desk.kept_event cmdWords kept event) blank
  simp only [performed, Option.some.injEq, exists_eq_left', fresh, pending, settled,
    follows_settled_iff follows, Editor.FreshWhen, follows.quiet_iff]

theorem reachable_fresh_iff_enter :
    ∃ e, [Event.char 0x61].foldlM (Editor.event cmdList) .reset = some e ∧
      ∃ next, e.event cmdList (.char 0x0D) = some next ∧ next.Fresh := by
  have reached : [Event.char 0x61].foldlM (Editor.event cmdList) .reset = some _ := rfl
  refine ⟨_, reached, ?_⟩
  exact (@reachable_fresh_iff _ _ reached (.char 0x0D) ⟨rfl, by decide⟩).mpr
    ⟨rfl, .inl ⟨by decide, by decide⟩⟩

/-- The lines `a` and `b`, then one Up. -/
def upAfterTwo : List Event := ([0x61, 0x0D, 0x62, 0x0D] ++ Arrow.up.bytes).map .char

/-- Ctrl-L clears the line, but the next Up goes on from the walk before it. -/
theorem ctrlL_not_fresh :
    ∃ e, upAfterTwo.foldlM (Editor.event cmdList) .reset = some e ∧ e.Discards (.char 0x0C) ∧
      ¬ ∃ next, e.event cmdList (.char 0x0C) = some next ∧ next.Fresh := by
  refine ⟨_, rfl, ⟨rfl, by decide⟩, ?_⟩
  rintro ⟨next, cleared, ⟨up, moved, shows⟩, _⟩
  cases cleared
  cases moved
  exact absurd shows (by decide)

end Mp257Fsbl.Cmd
