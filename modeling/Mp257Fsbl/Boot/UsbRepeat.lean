/-
Module: Mp257Fsbl.Boot.UsbRepeat
Purpose: Which usb commands of a session come back to the prompt.
Trusted boundary: none
Main exports: UsbWorks, UsbHistory, UsbFirst, usbHistory_works_iff
-/
import Mp257Fsbl.Boot.Board

namespace Mp257Fsbl.Boot

open Mp257Fsbl.Foundation
open Mp257Fsbl.Sd
open Mp257Fsbl.Ddr

/-- The card is up for `usb_msc_start`, or its `sd_init` brings it up. -/
def UsbOutcome.FindsCard (outcome : UsbOutcome) (board : Board) : Prop :=
  board.sd.info.sdSizeBytes ≠ 0 ∨
    (outcome.sd.Publishes board.sd ∧ MmcCsd.speedIdx outcome.sd.csd ≠ 0)

instance (outcome : UsbOutcome) (board : Board) : Decidable (outcome.FindsCard board) :=
  inferInstanceAs (Decidable (_ ∨ _))

/-- The command reports its failure, or exports the card until a key stops it;
the prompt is back, and the driver was in reset where it was initialised. -/
structure UsbWorks (outcome : UsbOutcome) (board : Board) : Prop where
  assertion : outcome.FindsCard board → board.pcdState = .reset
  back : (board.cmdUsb outcome).atPrompt = true
  report : (board.cmdUsb outcome).log.getLast? = some (.printed .usbStartFailed) ∨
    ∃ before, (board.cmdUsb outcome).log = before ++ [.usbExport, .printed .usbStopped]

/-- A board, and whether some `usb` command has got as far as the driver. -/
structure UsbHistory where
  board : Board
  started : Bool

/-- The command is a `usb` that gets as far as the driver. -/
def Command.startsDriver (board : Board) : Command → Bool
  | .usb outcome => outcome.FindsCard board
  | _ => false

/-- Commands with the record of the driver starts. -/
def UsbHistoryStep : Step UsbHistory Command := fun history command next =>
  BoardStep history.board command next.board ∧
    next.started = (history.started || command.startsDriver history.board)

/-- The `sd_init` of the command, if it makes one, returns; and where the card
is found, no `usb` command has started the driver before and the core and the
device come up. -/
def UsbFirst (outcome : UsbOutcome) (history : UsbHistory) : Prop :=
  (history.board.sd.info.sdSizeBytes = 0 → outcome.sd.Returns history.board.sd) ∧
    (outcome.FindsCard history.board → history.started = false ∧ outcome.coreInit = true)

/-! ### The state of the driver -/

section DriverState

variable {board : Board}

theorem ensureSd_pcdState (board : Board) (outcome : SdInitOutcome) :
    (board.ensureSd outcome).2.pcdState = board.pcdState := by
  unfold Board.ensureSd Board.sdInit
  split
  · split <;> rfl
  · rfl

theorem ddrInit_pcdState (board : Board) (outcome : DdrOutcome) :
    (board.ddrInit outcome).2.pcdState = board.pcdState := by
  unfold Board.ddrInit
  split <;> rfl

theorem bootEnsureHw_pcdState (board : Board) (hw : HwOutcome) :
    (board.bootEnsureHw hw).2.pcdState = board.pcdState := by
  have ensured : (board.ensureDdr hw.ddr).2.pcdState = board.pcdState := by
    unfold Board.ensureDdr
    split
    · exact ddrInit_pcdState board hw.ddr
    · rfl
  unfold Board.bootEnsureHw
  split
  · rename_i ddr
    rwa [ddr] at ensured
  · rename_i ret middle ddr
    rw [ddr] at ensured
    split
    · exact ensured
    · have card := ensureSd_pcdState middle hw.sd
      split
      all_goals
        rename_i sd
        rw [sd] at card
      · exact card.trans ensured
      · split
        · exact card.trans ensured
        · exact card.trans ensured

theorem loadRegion_pcdState (board : Board) (reads : UInt32 → SdOutcome) (n lba dest : UInt32) :
    (board.loadRegion reads n lba dest).2.pcdState = board.pcdState := by
  unfold Board.loadRegion
  split <;> rfl

/-- The `sd_init` of `usb_msc_start` returns zero exactly where the card is
found. -/
theorem ensureSd_eq_zero_iff (board : Board) (outcome : UsbOutcome) :
    (board.ensureSd outcome.sd).1 = some 0 ↔ outcome.FindsCard board := by
  unfold Board.ensureSd
  split
  · rename_i unsized
    have same : (board.sdInit outcome.sd).1 = (Sd.sdInit outcome.sd board.sd).1 := by
      unfold Board.sdInit
      split <;> simp [*]
    rw [same]
    rcases sdInit_cases outcome.sd board.sd with ⟨silent, failed, _⟩ | ⟨publishes, ret, _⟩
    · simp [UsbOutcome.FindsCard, unsized, silent, failed]
    · simp [UsbOutcome.FindsCard, unsized, publishes, ret]
  · rename_i sized
    simp [UsbOutcome.FindsCard, sized]

theorem ensureSd_returns_iff (board : Board) (outcome : SdInitOutcome) :
    (board.ensureSd outcome).1 ≠ none ↔
      (board.sd.info.sdSizeBytes = 0 → outcome.Returns board.sd) := by
  unfold Board.ensureSd
  split
  · rename_i unsized
    have same : (board.sdInit outcome).1 = (Sd.sdInit outcome board.sd).1 := by
      unfold Board.sdInit
      split <;> simp [*]
    rw [same, sdInit_returns_iff]
    simp [unsized]
  · rename_i sized
    simp [sized]

/-- The bring-up of the card costs the prompt where it does not return. -/
theorem ensureSd_atPrompt (board : Board) (outcome : SdInitOutcome) :
    (board.ensureSd outcome).2.atPrompt =
      if (board.ensureSd outcome).1 = none then false else board.atPrompt := by
  unfold Board.ensureSd Board.sdInit
  split
  · split <;> simp [Board.panic, Board.did]
  · simp

theorem cmdDdr_pcdState (board : Board) (outcome : DdrOutcome) :
    (board.cmdDdr outcome).pcdState = board.pcdState := by
  unfold Board.cmdDdr
  split
  · rfl
  · have called := ddrInit_pcdState board outcome
    apply Board.handler_rule (P := fun next => next.pcdState = board.pcdState) called
    intro ret
    split <;> exact called

theorem cmdSd_pcdState (board : Board) (init : SdInitOutcome) (read : SdOutcome) :
    (board.cmdSd init read).pcdState = board.pcdState := by
  have mbr : ∀ board : Board, (board.sdReadMbr read).pcdState = board.pcdState := by
    intro board
    simp only [Board.sdReadMbr]
    split <;> rfl
  unfold Board.cmdSd
  split
  · exact mbr board
  · have called : (board.sdInit init).2.pcdState = board.pcdState := by
      unfold Board.sdInit
      split <;> rfl
    apply Board.handler_rule (P := fun next => next.pcdState = board.pcdState) called
    intro ret
    split
    · exact called
    · exact (mbr _).trans called

theorem cmdSdw_pcdState (board : Board) (init : SdInitOutcome) (outcomes : SelfTestOutcomes) :
    (board.cmdSdw init outcomes).pcdState = board.pcdState := by
  have called := ensureSd_pcdState board init
  apply Board.handler_rule (P := fun next => next.pcdState = board.pcdState) called
  intro ret
  split <;> exact called

theorem cmdLoadSd_pcdState (board : Board) (argc : Nat) (arg1 arg2 arg3 : UInt32)
    (hw : HwOutcome) (reads : UInt32 → SdOutcome) :
    (board.cmdLoadSd argc arg1 arg2 arg3 hw reads).pcdState = board.pcdState := by
  have called := bootEnsureHw_pcdState board hw
  apply Board.success_rule (P := fun next => next.pcdState = board.pcdState) called
  intro _
  have loaded := fun n lba dest =>
    (loadRegion_pcdState (board.bootEnsureHw hw).2 reads n lba dest).trans called
  apply Board.success_rule (P := fun next => next.pcdState = board.pcdState) (loaded _ _ _)
  intro _
  exact loaded _ _ _

theorem cmdBoot_pcdState (board : Board) (argc : Nat) (arg1 : UInt32) (hw : HwOutcome)
    (kernelReads dtbReads : UInt32 → SdOutcome) :
    (board.cmdBoot argc arg1 hw kernelReads dtbReads).pcdState = board.pcdState := by
  have called := bootEnsureHw_pcdState board hw
  apply Board.success_rule (P := fun next => next.pcdState = board.pcdState) called
  intro _
  have kernel := (loadRegion_pcdState (board.bootEnsureHw hw).2 kernelReads
    (if argc ≥ 1 then arg1 else bootKernelBlocks) bootKernelLba bootKernelAddr).trans called
  apply Board.success_rule (P := fun next => next.pcdState = board.pcdState) kernel
  intro _
  have dtb := (loadRegion_pcdState _ dtbReads bootDtbBlocks bootDtbLba bootDtbAddr).trans kernel
  apply Board.success_rule (P := fun next => next.pcdState = board.pcdState) dtb
  intro _
  exact dtb

/-- The four ends of `usb_msc_start`: no return from the card, no card, no
return from the driver, success. -/
theorem usbMscStart_cases (outcome : UsbOutcome) (board : Board) :
    (board.sd.info.sdSizeBytes = 0 ∧ ¬ outcome.sd.Returns board.sd ∧
        ¬ outcome.FindsCard board ∧ (board.usbMscStart outcome).1 = none ∧
        (board.usbMscStart outcome).2.pcdState = board.pcdState ∧
        (board.usbMscStart outcome).2.atPrompt = false) ∨
      ((board.sd.info.sdSizeBytes = 0 → outcome.sd.Returns board.sd) ∧
        ¬ outcome.FindsCard board ∧ (board.usbMscStart outcome).1 = some false ∧
        (board.usbMscStart outcome).2.pcdState = board.pcdState ∧
        (board.usbMscStart outcome).2.atPrompt = board.atPrompt) ∨
      (outcome.FindsCard board ∧ (board.pcdState ≠ .reset ∨ outcome.coreInit = false) ∧
        (board.usbMscStart outcome).1 = none ∧
        (board.usbMscStart outcome).2.pcdState ≠ .reset ∧
        (board.usbMscStart outcome).2.atPrompt = false) ∨
      ((board.sd.info.sdSizeBytes = 0 → outcome.sd.Returns board.sd) ∧
        outcome.FindsCard board ∧ board.pcdState = .reset ∧ outcome.coreInit = true ∧
        (board.usbMscStart outcome).1 = some outcome.start ∧
        (board.usbMscStart outcome).2.pcdState ≠ .reset ∧
        (board.usbMscStart outcome).2.atPrompt = board.atPrompt) := by
  have found := ensureSd_eq_zero_iff board outcome
  have returns := ensureSd_returns_iff board outcome.sd
  have same := ensureSd_pcdState board outcome.sd
  have prompt := ensureSd_atPrompt board outcome.sd
  unfold Board.usbMscStart
  rcases ensured : board.ensureSd outcome.sd with ⟨_ | ret, middle⟩
  all_goals
    rw [ensured] at found returns same prompt
    dsimp only at same prompt
  · left
    simp only [ne_eq, not_true_eq_false, false_iff, Classical.not_imp] at returns
    refine ⟨returns.1, returns.2, ?_, rfl, same, by simpa using prompt⟩
    intro card
    exact absurd (found.mpr card) (by simp)
  · right
    have returns := returns.mp (by simp)
    have prompt : middle.atPrompt = board.atPrompt := by simpa using prompt
    by_cases zero : ret = 0
    · subst zero
      have card := found.mp rfl
      right
      by_cases reset : board.pcdState = .reset
      · by_cases up : outcome.coreInit = true
        · right
          simpa [card, reset, up, same, prompt] using returns
        · left
          have up : outcome.coreInit = false := by simpa using up
          simp [card, reset, up, same, Board.panic, Board.did]
      · left
        simp [card, reset, same, Board.panic, Board.did]
    · left
      refine ⟨returns, ?_, by simp [zero], by simpa [zero] using same, by simpa [zero] using prompt⟩
      intro card
      exact zero (Option.some.inj (found.mpr card))

/-- Only a `usb` that gets as far as the driver takes it out of reset. -/
theorem run_reset_iff (board : Board) (command : Command) :
    (command.run board).pcdState = .reset ↔
      board.pcdState = .reset ∧ command.startsDriver board = false := by
  have other : ∀ {next : Board}, next.pcdState = board.pcdState →
      (next.pcdState = .reset ↔ board.pcdState = .reset ∧ false = false) := by
    intro next same
    simp [same]
  cases command with
  | ddr outcome => exact other (cmdDdr_pcdState board outcome)
  | sd init read => exact other (cmdSd_pcdState board init read)
  | sdw init outcomes => exact other (cmdSdw_pcdState board init outcomes)
  | usb outcome =>
      have shown : (board.cmdUsb outcome).pcdState = (board.usbMscStart outcome).2.pcdState := by
        unfold Board.cmdUsb
        split <;> simp [*, Board.say, Board.did]
      simp only [Command.run, Command.startsDriver, decide_eq_false_iff_not, shown]
      rcases usbMscStart_cases outcome board with ⟨_, _, absent, _, same, _⟩ |
        ⟨_, absent, _, same, _⟩ | ⟨card, _, _, left, _⟩ | ⟨_, card, _, _, _, left, _⟩
      · simp [same, absent]
      · simp [same, absent]
      · simp [left, card]
      · simp [left, card]
  | loadSd argc arg1 arg2 arg3 hw reads =>
      exact other (cmdLoadSd_pcdState board argc arg1 arg2 arg3 hw reads)
  | jump argc arg1 payload =>
      refine other ?_
      cases payload <;> rfl
  | boot argc arg1 hw kernelReads dtbReads =>
      exact other (cmdBoot_pcdState board argc arg1 hw kernelReads dtbReads)

end DriverState

/-! ### Every run -/

/-- A `usb` command at the prompt works exactly when the card does not stop it
and a card that is found meets a driver in reset that comes up. -/
theorem usbWorks_iff {board : Board} (prompt : board.atPrompt = true) (outcome : UsbOutcome) :
    UsbWorks outcome board ↔
      (board.sd.info.sdSizeBytes = 0 → outcome.sd.Returns board.sd) ∧
        (outcome.FindsCard board → board.pcdState = .reset ∧ outcome.coreInit = true) := by
  have cases_ := usbMscStart_cases outcome board
  rcases started : board.usbMscStart outcome with ⟨_ | ok, middle⟩
  all_goals
    rw [started] at cases_
    dsimp only at cases_
  · -- `usb_msc_start` does not return, so the command does not come back.
    have gone : (board.cmdUsb outcome).atPrompt = false := by
      simp only [Board.cmdUsb, started]
      grind
    constructor
    · intro works
      rw [works.back] at gone
      cases gone
    · rintro ⟨returns, driver⟩
      grind
  · have back : (board.cmdUsb outcome).atPrompt = true := by
      have kept : (board.cmdUsb outcome).atPrompt = middle.atPrompt := by
        cases ok <;> simp [Board.cmdUsb, started, Board.say, Board.did]
      grind
    have report : (board.cmdUsb outcome).log.getLast? = some (.printed .usbStartFailed) ∨
        ∃ before, (board.cmdUsb outcome).log = before ++ [.usbExport, .printed .usbStopped] := by
      cases ok with
      | false => simp [Board.cmdUsb, started, Board.say, Board.did]
      | true => simp [Board.cmdUsb, started, Board.say, Board.did]
    constructor
    · intro _
      grind
    · rintro ⟨_, driver⟩
      exact ⟨fun card => (driver card).1, back, report⟩

/-- The driver is in reset exactly until a `usb` command gets as far as it. -/
theorem usbHistory_reset_iff {card memory : Store UInt8} {commands : List Command}
    {history : UsbHistory}
    (run : Run UsbHistoryStep ⟨.reset card memory, false⟩ commands history) :
    history.board.pcdState = .reset ↔ history.started = false := by
  apply run.invariant fun history => history.board.pcdState = .reset ↔ history.started = false
  · rintro state command next before ⟨taken, started⟩
    obtain ⟨_, ran⟩ := boardStep_iff.mp taken
    rw [ran, run_reset_iff, started, before, Bool.or_eq_false_iff]
  · exact ⟨fun _ => rfl, fun _ => rfl⟩

/-- At every prompt of every run, a `usb` command works exactly when its
`sd_init` returns and, with the card found, it is the first to get as far as
the driver. -/
theorem usbHistory_works_iff {card memory : Store UInt8} {commands : List Command}
    {history : UsbHistory}
    (run : Run UsbHistoryStep ⟨.reset card memory, false⟩ commands history)
    (prompt : history.board.atPrompt = true) (outcome : UsbOutcome) :
    UsbWorks outcome history.board ↔ UsbFirst outcome history := by
  rw [usbWorks_iff prompt, usbHistory_reset_iff run, UsbFirst]

/-- A `usb` command on a healthy board. -/
def usbGood : UsbOutcome where
  sd := .good
  coreInit := true
  start := true
  card := fun _ => 0

/-- A `usb` command to which no card answers. -/
def usbNoCard : UsbOutcome := { usbGood with sd := { SdInitOutcome.good with reset := -110 } }

/-- Behind a `usb` that finds no card, the next one has the driver to itself. -/
theorem usbHistory_works_iff_second :
    UsbWorks usbGood ((Command.usb usbNoCard).run (.reset (fun _ => 0) fun _ => 0)) := by
  have run : Run UsbHistoryStep ⟨.reset (fun _ => 0) fun _ => 0, false⟩ [.usb usbNoCard]
      ⟨(Command.usb usbNoCard).run (.reset (fun _ => 0) fun _ => 0), false⟩ :=
    .single ⟨boardStep_iff.mpr ⟨rfl, rfl⟩, by decide⟩
  have first : UsbFirst usbGood
      ⟨(Command.usb usbNoCard).run (.reset (fun _ => 0) fun _ => 0), false⟩ :=
    ⟨fun _ _ _ _ => by decide, fun _ => ⟨rfl, rfl⟩⟩
  exact (usbHistory_works_iff run rfl usbGood).mpr first

/-- The second `usb` command ends in the assertion of the driver. -/
theorem boardRun_usbGood_again :
    ∃ board, Run BoardStep (.reset (fun _ => 0) fun _ => 0) [.usb usbGood] board ∧
      board.atPrompt = true ∧ ¬ UsbWorks usbGood board ∧
      (board.cmdUsb usbGood).log.getLast? = some .panicked := by
  refine ⟨(Command.usb usbGood).run (.reset (fun _ => 0) fun _ => 0),
    .single (boardStep_iff.mpr ⟨rfl, rfl⟩), rfl, ?_, by decide⟩
  intro works
  have reset := works.assertion (by decide)
  revert reset
  decide

end Mp257Fsbl.Boot
