/-
Module: Mp257Fsbl.Cmd.Escape
Purpose: What a whole terminal control sequence does to the line.
Trusted boundary: human-reviewed statement of the shape of a control sequence
Main exports: ControlSequence, ControlSequence.bytes, Editor.Ignores,
  follows_typing, reachable_ignores_iff
-/
import Mp257Fsbl.Cmd.Desk

namespace Mp257Fsbl.Cmd

/-- ESC, `[`, parameter bytes, intermediate bytes and a final byte. -/
structure ControlSequence where
  parameters : List UInt8
  intermediates : List UInt8
  final : UInt8
  parameters_range : ∀ c ∈ parameters, 0x30 ≤ c ∧ c ≤ 0x3F
  intermediates_range : ∀ c ∈ intermediates, 0x20 ≤ c ∧ c ≤ 0x2F
  final_range : 0x40 ≤ final ∧ final ≤ 0x7E

namespace ControlSequence

def body (sequence : ControlSequence) : List UInt8 :=
  sequence.parameters ++ sequence.intermediates

def bytes (sequence : ControlSequence) : List UInt8 :=
  [0x1B, 0x5B] ++ sequence.body ++ [sequence.final]

variable {sequence : ControlSequence}

theorem body_range {c : UInt8} (member : c ∈ sequence.body) : 0x20 ≤ c ∧ c ≤ 0x3F := by
  rcases List.mem_append.mp member with parameter | intermediate
  · obtain ⟨low, high⟩ := sequence.parameters_range c parameter
    exact ⟨UInt8.le_trans (by decide) low, high⟩
  · obtain ⟨low, high⟩ := sequence.intermediates_range c intermediate
    exact ⟨low, UInt8.le_trans high (by decide)⟩

theorem body_printable {c : UInt8} (member : c ∈ sequence.body) : IsPrintable c := by
  obtain ⟨low, high⟩ := body_range member
  exact ⟨low, UInt8.le_trans high (by decide)⟩

theorem final_printable : IsPrintable sequence.final := by
  obtain ⟨low, high⟩ := sequence.final_range
  exact ⟨UInt8.le_trans (by decide) low, high⟩

/-- A parameter or an intermediate byte is no arrow. -/
theorem body_no_arrow {c : UInt8} (member : c ∈ sequence.body) : c ≠ 0x41 ∧ c ≠ 0x42 := by
  obtain ⟨_, high⟩ := body_range member
  refine ⟨?_, ?_⟩
  all_goals
    rintro rfl
    exact absurd high (by decide)

end ControlSequence

/-- The sequence leaves the line and the history position alone unless it is an
arrow key, and what comes behind it is ordinary input. -/
def Editor.Ignores (e : Editor) (sequence : ControlSequence) : Prop :=
  ∃ next, Editor.feed cmdList sequence.bytes e = some next ∧ next.escState = 0 ∧
    (sequence.bytes ≠ Arrow.up.bytes → sequence.bytes ≠ Arrow.down.bytes →
      next.lineBuf = e.lineBuf ∧ next.lineLen = e.lineLen ∧
        next.historyIndex = e.historyIndex)

/-! ### Typing -/

/-- What is typed is appended as far as there is room. -/
theorem typed_all_text (line : Line) (bytes : List UInt8) (printable : ∀ c ∈ bytes, IsPrintable c) :
    (bytes.foldl (fun line c => line.typed c) line).text =
      (line.text ++ bytes).take (cmdMaxLen - 1) := by
  induction bytes generalizing line with
  | nil =>
      have fits := line.fits
      rw [List.append_nil, List.take_of_length_le (by omega)]
      rfl
  | cons c bytes ih =>
      have rest := ih (line.typed c) fun d member => printable d (List.mem_cons_of_mem _ member)
      rw [List.foldl_cons, rest]
      by_cases room : line.text.length < cmdMaxLen - 1
      · rw [Line.typed_text (printable c List.mem_cons_self) room, List.append_assoc]
        rfl
      · rw [Line.typed_full room]
        have full : cmdMaxLen - 1 ≤ line.text.length := Nat.le_of_not_lt room
        rw [List.take_append_of_le_length full, List.take_append_of_le_length full]

theorem typed_all_full {line : Line} (full : ¬ line.text.length < cmdMaxLen - 1)
    (bytes : List UInt8) : bytes.foldl (fun line c => line.typed c) line = line := by
  induction bytes with
  | nil => rfl
  | cons c bytes ih => rw [List.foldl_cons, Line.typed_full full, ih]

section Typing

variable {desk : Desk} {head : Nat} {e : Editor}

/-- Printable bytes are typed, and the history stays where it is. -/
theorem follows_typing (cmds : List (List UInt8)) (follows : Follows desk head e)
    (quiet : e.escState = 0) {bytes : List UInt8} (printable : ∀ c ∈ bytes, IsPrintable c) :
    ∃ next, Editor.feed cmds bytes e = some next ∧ next.escState = 0 ∧
      Follows (desk.edit (bytes.foldl (fun line c => line.typed c) desk.walk.line)) head next := by
  induction bytes generalizing desk e with
  | nil => exact ⟨e, rfl, quiet, follows⟩
  | cons c bytes ih =>
      have here := printable c List.mem_cons_self
      have handled : e.tryHandleEscape c = some (false, e) := by
        have other : c ≠ 0x1B := by
          rintro rfl
          exact absurd here (by decide)
        simp [Editor.tryHandleEscape, quiet, other]
      obtain ⟨middle, typed, after⟩ := follows_typed follows cmds handled here
      have still : middle.escState = 0 := by
        rw [after.pending]
        exact follows.pending.symm.trans quiet
      obtain ⟨next, fed, done, follows⟩ :=
        ih after still fun d member => printable d (List.mem_cons_of_mem _ member)
      refine ⟨next, ?_, done, follows⟩
      rw [Editor.feed, List.foldlM_cons, typed]
      exact fed

/-- ESC and `[` swallow the byte behind them, unless it is an arrow. -/
theorem feed_swallowed (cmds : List (List UInt8)) (quiet : e.escState = 0) {c : UInt8}
    (other : c ≠ 0x41 ∧ c ≠ 0x42) : Editor.feed cmds [0x1B, 0x5B, c] e = some e := by
  have same : { e with escState := 0 } = e := by
    cases e
    cases quiet
    rfl
  simp [Editor.feed, Editor.cmdByte, Editor.tryHandleEscape, quiet, other, same]

/-- An arrow key ends outside an escape sequence. -/
theorem feed_arrow (follows : Follows desk head e) (quiet : e.escState = 0) (arrow : Arrow) :
    ∃ next, Editor.feed cmdList arrow.bytes e = some next ∧ next.escState = 0 := by
  obtain ⟨next, head', fed, after⟩ := follows_feed follows arrow.bytes
  rw [Desk.arrow_bytes cmdWords (follows.quiet_iff.mp quiet)] at after
  exact ⟨next, fed, after.quiet_iff.mpr (follows.quiet_iff.mp quiet)⟩

theorem At.index_eq {recents : List Line} {position : Option Nat} {next : Editor}
    (before : At recents head e position) (after : At recents head next position) :
    next.historyIndex = e.historyIndex := by
  cases position with
  | none => exact after.trans before.symm
  | some k => exact after.2.trans before.2.symm

end Typing

/-! ### Sequences -/

section Sequences

variable {desk : Desk} {head : Nat} {e : Editor} {sequence : ControlSequence}

/-- Without parameters and intermediate bytes. -/
theorem ignores_short (follows : Follows desk head e) (quiet : e.escState = 0)
    (short : sequence.body = []) : e.Ignores sequence := by
  have bytes : sequence.bytes = [0x1B, 0x5B, sequence.final] := by
    rw [ControlSequence.bytes, short]
    rfl
  by_cases up : sequence.final = 0x41
  · obtain ⟨next, fed, after⟩ := feed_arrow follows quiet .up
    have arrow : sequence.bytes = Arrow.up.bytes := by rw [bytes, up]; rfl
    exact ⟨next, by rw [arrow, fed], after, fun other => absurd arrow other⟩
  · by_cases down : sequence.final = 0x42
    · obtain ⟨next, fed, after⟩ := feed_arrow follows quiet .down
      have arrow : sequence.bytes = Arrow.down.bytes := by rw [bytes, down]; rfl
      exact ⟨next, by rw [arrow, fed], after, fun _ other => absurd arrow other⟩
    · exact ⟨e, by rw [bytes, feed_swallowed cmdList quiet ⟨up, down⟩], quiet,
        fun _ _ => ⟨rfl, rfl, rfl⟩⟩

/-- With any, all but the first of them is typed. -/
theorem ignores_long (follows : Follows desk head e) (quiet : e.escState = 0)
    (long : sequence.body ≠ []) : e.Ignores sequence ↔ e.lineLen = 31 := by
  obtain ⟨first, rest, body⟩ := List.exists_cons_of_ne_nil long
  have member : first ∈ sequence.body := by simp [body]
  have bytes : sequence.bytes = [0x1B, 0x5B, first] ++ (rest ++ [sequence.final]) := by
    rw [ControlSequence.bytes, body]
    rfl
  have printable : ∀ c ∈ rest ++ [sequence.final], IsPrintable c := by
    intro c inside
    rcases List.mem_append.mp inside with earlier | last
    · have inner : c ∈ sequence.body := body ▸ List.mem_cons_of_mem first earlier
      exact ControlSequence.body_printable inner
    · rw [List.mem_singleton.mp last]
      exact ControlSequence.final_printable
  obtain ⟨next, typed, done, after⟩ := follows_typing cmdList follows quiet printable
  have fed : Editor.feed cmdList sequence.bytes e = some next := by
    rw [bytes, feed_append,
      feed_swallowed cmdList quiet (ControlSequence.body_no_arrow member), Option.bind_some, typed]
  have other : ∀ arrow : Arrow, sequence.bytes ≠ arrow.bytes := by
    intro arrow same
    have length := congrArg List.length same
    rw [bytes] at length
    cases arrow <;> simp [Arrow.bytes] at length
  have text := typed_all_text desk.walk.line (rest ++ [sequence.final]) printable
  have fits := desk.walk.line.fits
  have before := follows.shows.lineLen
  have behind := after.shows.lineLen
  dsimp only [Desk.edit] at behind
  rw [text] at behind
  constructor
  · rintro ⟨same, fed', _, kept⟩
    obtain rfl := Option.some.inj (fed.symm.trans fed')
    obtain ⟨_, length, _⟩ := kept (other .up) (other .down)
    rw [length, before] at behind
    simp only [List.length_take, List.length_append, List.length_singleton, cmdMaxLen]
      at behind fits
    omega
  · intro full
    refine ⟨next, fed, done, fun _ _ => ?_⟩
    rw [before] at full
    rw [typed_all_full (by rw [full]; decide)] at after
    exact ⟨after.shows.lineBuf.trans follows.shows.lineBuf.symm,
      after.shows.lineLen.trans before.symm, follows.position.index_eq after.position⟩

end Sequences

/-- In every run, a control sequence is ignored exactly where it has neither
parameters nor intermediate bytes or there is no room to type them. -/
theorem reachable_ignores_iff {events : List Event} {e : Editor}
    (reached : events.foldlM (Editor.event cmdList) .reset = some e) (quiet : e.escState = 0)
    (sequence : ControlSequence) :
    e.Ignores sequence ↔
      (sequence.parameters = [] ∧ sequence.intermediates = []) ∨ e.lineLen = 31 := by
  obtain ⟨same, head, done, follows⟩ := editor_follows events
  obtain rfl := Option.some.inj (done.symm.trans reached)
  rw [← List.append_eq_nil_iff]
  by_cases short : sequence.body = []
  · exact iff_of_true (ignores_short follows quiet short) (.inl short)
  · rw [ignores_long follows quiet short]
    exact ⟨.inr, fun either => either.resolve_left short⟩

/-- The Delete key sends ESC `[` `3` `~`. -/
def deleteKey : ControlSequence where
  parameters := [0x33]
  intermediates := []
  final := 0x7E
  parameters_range := by
    intro c member
    rw [List.mem_singleton] at member
    subst member
    decide
  intermediates_range := by
    intro c member
    cases member
  final_range := by decide

/-- Right sends ESC `[` `C`. -/
def rightKey : ControlSequence where
  parameters := []
  intermediates := []
  final := 0x43
  parameters_range := by
    intro c member
    cases member
  intermediates_range := by
    intro c member
    cases member
  final_range := by decide

/-- A full line of `a`. -/
def fullTyping : List Event := List.replicate 31 (.char 0x61)

/-- On a full line neither key does anything. -/
theorem reachable_ignores_iff_full :
    ∃ e, fullTyping.foldlM (Editor.event cmdList) .reset = some e ∧ e.lineLen = 31 ∧
      e.Ignores rightKey ∧ e.Ignores deleteKey := by
  obtain ⟨e, typed, quiet, full⟩ : ∃ e,
      fullTyping.foldlM (Editor.event cmdList) .reset = some e ∧ e.escState = 0 ∧
        e.lineLen = 31 := ⟨_, rfl, rfl, rfl⟩
  exact ⟨e, typed, full, (reachable_ignores_iff typed quiet rightKey).mpr (.inl ⟨rfl, rfl⟩),
    (reachable_ignores_iff typed quiet deleteKey).mpr (.inr full)⟩

/-- Delete types a tilde. -/
theorem delete_not_ignored :
    ∃ e, [].foldlM (Editor.event cmdList) .reset = some e ∧ e.escState = 0 ∧
      ¬ e.Ignores deleteKey := by
  refine ⟨_, rfl, rfl, ?_⟩
  rintro ⟨next, fed, _, kept⟩
  cases fed
  obtain ⟨_, length, _⟩ := kept (by decide) (by decide)
  exact absurd length (by decide)

end Mp257Fsbl.Cmd
