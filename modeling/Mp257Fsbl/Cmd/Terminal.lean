/-
Module: Mp257Fsbl.Cmd.Terminal
Purpose: The main loop between the UART and the editor: a burst of received
  bytes, then one cmd_poll.
Trusted boundary: human-reviewed model of cmd_poll and of the main loop; no
  byte is pushed while a handler runs
Main exports: Terminal, cmdPoll, mainBurst, mainBursts, Idle, cmdPollLoop_holds,
  holds_pushes
-/
import Mp257Fsbl.Cmd.Console
import Mp257Fsbl.Cmd.Editor

namespace Mp257Fsbl.Cmd

/-- The statics of console.c and cmd.c. -/
structure Terminal where
  console : Console
  editor : Editor

def Terminal.reset : Terminal where
  console := .reset
  editor := .reset

theorem rxCount_decreases {console : Console} (more : consoleRxEmpty console = false) :
    ((consoleRxGet console).2.rxHead + rxbufSize - (consoleRxGet console).2.rxTail) % rxbufSize <
      (console.rxHead + rxbufSize - console.rxTail) % rxbufSize := by
  have head := console.head_lt
  have tail := console.tail_lt
  simp only [consoleRxEmpty, beq_eq_false_iff_ne] at more
  simp only [consoleRxGet]
  simp only [rxbufSize] at head tail ⊢
  omega

/-- The loop of `cmd_poll`, which ends when the ring is empty. -/
def cmdPollLoop (cmds : List (List UInt8)) (console : Console) (editor : Editor) :
    Option (Console × Editor) :=
  if consoleRxEmpty console = false then
    let got := consoleRxGet console
    (editor.cmdByte cmds got.1).bind fun editor => cmdPollLoop cmds got.2 editor
  else some (console, editor)
termination_by (console.rxHead + rxbufSize - console.rxTail) % rxbufSize
decreasing_by exact rxCount_decreases (by assumption)

def cmdPoll (cmds : List (List UInt8)) (terminal : Terminal) : Option Terminal := do
  let (console, editor) ← cmdPollLoop cmds terminal.console terminal.editor
  let (interrupted, console) := consoleInterrupted console
  return { console := console, editor := if interrupted then editor.cmdPrompt else editor }

/-- One round of the main loop: push what has been received, then poll. -/
def mainBurst (cmds : List (List UInt8)) (terminal : Terminal) (burst : List UInt8) :
    Option Terminal :=
  cmdPoll cmds
    { terminal with
      console := burst.foldl (fun console c => consolePush c console) terminal.console }

def mainBursts (cmds : List (List UInt8)) (terminal : Terminal) (bursts : List (List UInt8)) :
    Option Terminal :=
  bursts.foldlM (mainBurst cmds) terminal

/-! ### One burst -/

/-- Between two bursts: nothing stored and no interrupt pending. -/
structure Idle (console : Console) : Prop where
  empty : Holds console []
  quiet : console.interruptFlag = false

theorem idle_reset : Idle .reset where
  empty := holds_empty rfl
  quiet := rfl

/-- The burst does not overflow an empty ring. -/
def Fits (burst : List UInt8) : Prop := (burst.filter enqueued).length < rxbufSize

instance (burst : List UInt8) : Decidable (Fits burst) :=
  inferInstanceAs (Decidable ((burst.filter enqueued).length < rxbufSize))

/-- Pushing appends the ordinary bytes and remembers a Ctrl-C. -/
theorem holds_pushes {burst : List UInt8} {console : Console} {list : List UInt8}
    (holds : Holds console list)
    (fits : list.length + (burst.filter enqueued).length < rxbufSize) :
    Holds (burst.foldl (fun console c => consolePush c console) console)
        (list ++ burst.filter enqueued) ∧
      (burst.foldl (fun console c => consolePush c console) console).interruptFlag =
        (console.interruptFlag || burst.contains 0x03) := by
  induction burst generalizing console list with
  | nil => simpa using holds
  | cons c burst ih =>
      have flag := push_interruptFlag console c
      cases ordinary : enqueued c with
      | true =>
          rw [List.filter_cons_of_pos ordinary] at fits ⊢
          rw [List.length_cons] at fits
          have pushed := holds_push holds (by omega) ordinary
          obtain ⟨stored, pending⟩ :=
            ih pushed (by rw [List.length_append, List.length_singleton]; omega)
          refine ⟨by simpa using stored, ?_⟩
          rw [List.foldl_cons, pending, flag, List.contains_cons, Bool.or_assoc, BEq.comm]
      | false =>
          rw [List.filter_cons_of_neg (by simp [ordinary])] at fits ⊢
          obtain ⟨stored, pending⟩ := ih (holds_push_other holds ordinary) fits
          refine ⟨stored, ?_⟩
          rw [List.foldl_cons, pending, flag, List.contains_cons, Bool.or_assoc, BEq.comm]

/-- The loop feeds the editor what the ring holds, oldest byte first, and
leaves it empty. -/
theorem cmdPollLoop_holds (cmds : List (List UInt8)) {list : List UInt8} {console : Console}
    (holds : Holds console list) :
    ∃ drained, Holds drained [] ∧ drained.interruptFlag = console.interruptFlag ∧
      ∀ editor, cmdPollLoop cmds console editor =
        (list.foldlM (fun e c => Editor.cmdByte cmds c e) editor).map fun e => (drained, e) := by
  induction list generalizing console with
  | nil =>
      refine ⟨console, holds, rfl, ?_⟩
      intro editor
      have empty := (rxEmpty_iff holds).mpr rfl
      rw [cmdPollLoop]
      simp [empty]
  | cons c list ih =>
      obtain ⟨oldest, rest⟩ := holds_rxGet holds
      have more : consoleRxEmpty console = false := by
        simpa using mt (rxEmpty_iff holds).mp (by simp)
      obtain ⟨drained, empty, flag, loop⟩ := ih rest
      refine ⟨drained, empty, flag, ?_⟩
      intro editor
      rw [cmdPollLoop, if_pos more, List.foldlM_cons]
      simp only [oldest, loop]
      cases editor.cmdByte cmds c with
      | none => rfl
      | some next => rfl

end Mp257Fsbl.Cmd
