/-
Module: Mp257Fsbl.Boot.CardUp
Purpose: Whether a published card size stands for a successful sd_init, over
  every sequence of commands.
Trusted boundary: none
Main exports: CardUp, Command.sdCall, run_cardAfter, HonestCard,
  boardRun_cardUp
-/
import Mp257Fsbl.Boot.Board
import Mp257Fsbl.Foundation.Log

namespace Mp257Fsbl.Boot

open Mp257Fsbl.Foundation
open Mp257Fsbl.Sd
open Mp257Fsbl.Ddr

/-- How an `sd_init` ended: with a value, or in an assertion. -/
def BoardAction.sdReturn : BoardAction → Option (Option Int)
  | .sdInit ret => some (some ret)
  | .sdInitAsserts => some none
  | _ => none

/-- How the most recent `sd_init` of the log ended. -/
abbrev lastSdInit : List BoardAction → Option (Option Int) := latest BoardAction.sdReturn

/-- A published size means that the most recent `sd_init` returned zero. -/
def CardUp (board : Board) : Prop :=
  board.sd.info.sdSizeBytes ≠ 0 → lastSdInit board.log = some (some 0)

/-- The `sd_init` that a command makes. -/
def Command.sdCall : Command → Board → Option SdInitOutcome
  | .sd init _, board => if board.cmdSdDone then none else some init
  | .sdw init _, board => if board.sd.info.sdSizeBytes = 0 then some init else none
  | .usb outcome, board => if board.sd.info.sdSizeBytes = 0 then some outcome.sd else none
  | .loadSd _ _ _ _ hw _, board =>
      if (board.ensureDdr hw.ddr).1 = some 0 ∧ board.sd.info.sdSizeBytes = 0 then some hw.sd
      else none
  | .boot _ _ hw _ _, board =>
      if (board.ensureDdr hw.ddr).1 = some 0 ∧ board.sd.info.sdSizeBytes = 0 then some hw.sd
      else none
  | _, _ => none

/-- The call returns zero if it publishes a size, and changes no size that is
published already unless it returns zero. -/
def TellsCard (outcome : SdInitOutcome) (glue : SdGlue) : Prop :=
  (outcome.Publishes glue → MmcCsd.speedIdx outcome.csd ≠ 0) ∧
    (¬ outcome.Publishes glue → glue.info.sdSizeBytes = 0)

/-- The `sd_init` that the command makes, if any, tells the truth. -/
def HonestCard (board : Board) (command : Command) : Prop :=
  ∀ outcome, command.sdCall board = some outcome → TellsCard outcome board.sd

/-! ### What a command does to the card driver -/

/-- The card driver and the history of its bring-up are as before. -/
structure SameCard (board next : Board) : Prop where
  sd : next.sd = board.sd
  last : lastSdInit next.log = lastSdInit board.log

/-- Of all that may have happened, one `sd_init` touched the card driver. -/
structure CardCalled (outcome : SdInitOutcome) (board next : Board) : Prop where
  sd : next.sd = (Sd.sdInit outcome board.sd).2
  last : lastSdInit next.log = some (Sd.sdInit outcome board.sd).1

/-- What a possible call of `sd_init` leaves. -/
def CardAfter (call : Option SdInitOutcome) (board next : Board) : Prop :=
  match call with
  | none => SameCard board next
  | some outcome => CardCalled outcome board next

section Effects

variable {board middle next : Board} {call : Option SdInitOutcome}

theorem SameCard.refl (board : Board) : SameCard board board := ⟨rfl, rfl⟩

theorem SameCard.trans (first : SameCard board middle) (second : SameCard middle next) :
    SameCard board next :=
  ⟨second.sd.trans first.sd, second.last.trans first.last⟩

theorem SameCard.did (same : SameCard board middle) {action : BoardAction}
    (other : action.sdReturn = none) : SameCard board (middle.did action) where
  sd := same.sd
  last := by simpa [Board.did, other] using same.last

theorem SameCard.say (same : SameCard board middle) (report : Report) :
    SameCard board (middle.say report) :=
  same.did rfl

theorem SameCard.panic (same : SameCard board middle) : SameCard board middle.panic :=
  (same.did rfl).trans ⟨rfl, rfl⟩

/-- What follows without touching the driver changes nothing. -/
theorem CardAfter.then (called : CardAfter call board middle) (rest : SameCard middle next) :
    CardAfter call board next := by
  cases call with
  | none => exact SameCard.trans called rest
  | some outcome => exact ⟨rest.sd.trans called.sd, rest.last.trans called.last⟩

/-- Nor does what comes before. -/
theorem CardAfter.after (before : SameCard board middle) (called : CardAfter call middle next) :
    CardAfter call board next := by
  cases call with
  | none => exact SameCard.trans before called
  | some outcome =>
      constructor
      · rw [called.sd, before.sd]
      · rw [called.last, before.sd]

theorem sdInit_cardAfter (board : Board) (outcome : SdInitOutcome) :
    CardAfter (some outcome) board (board.sdInit outcome).2 := by
  unfold Board.sdInit
  split
  · rename_i glue called
    have asserted : CardAfter (some outcome) board
        ({ board with sd := glue }.did .sdInitAsserts) := by
      constructor
      · simp [called, Board.did]
      · simp [called, Board.did, BoardAction.sdReturn]
    exact asserted.then (SameCard.panic (.refl _))
  · rename_i ret glue called
    constructor
    · simp [called, Board.did]
    · simp [called, Board.did, BoardAction.sdReturn]

theorem ensureSd_cardAfter (board : Board) (outcome : SdInitOutcome) :
    CardAfter (if board.sd.info.sdSizeBytes = 0 then some outcome else none) board
      (board.ensureSd outcome).2 := by
  unfold Board.ensureSd
  split
  · exact sdInit_cardAfter board outcome
  · exact SameCard.refl board

theorem ddrInit_sameCard (board : Board) (outcome : DdrOutcome) :
    SameCard board (board.ddrInit outcome).2 := by
  unfold Board.ddrInit
  split
  · exact SameCard.panic (.refl board)
  · apply SameCard.did _ rfl
    exact ⟨rfl, rfl⟩

theorem ensureDdr_sameCard (board : Board) (outcome : DdrOutcome) :
    SameCard board (board.ensureDdr outcome).2 := by
  unfold Board.ensureDdr
  split
  · exact ddrInit_sameCard board outcome
  · exact SameCard.refl board

theorem loadRegion_sameCard (board : Board) (reads : UInt32 → SdOutcome) (n lba dest : UInt32) :
    SameCard board (board.loadRegion reads n lba dest).2 := by
  have called : SameCard board (board.did (.loadRegion n lba dest)) :=
    SameCard.did (.refl board) rfl
  unfold Board.loadRegion
  split
  · exact ⟨called.sd, called.last⟩
  · apply SameCard.say
    exact ⟨called.sd, called.last⟩

theorem sdReadMbr_sameCard (board : Board) (read : SdOutcome) :
    SameCard board (board.sdReadMbr read) := by
  simp only [Board.sdReadMbr]
  split <;> exact SameCard.say (.refl board) _

/-- `boot_ensure_hw` brings the card up only behind DDR. -/
theorem bootEnsureHw_cardAfter (board : Board) (hw : HwOutcome) :
    CardAfter
      (if (board.ensureDdr hw.ddr).1 = some 0 ∧ board.sd.info.sdSizeBytes = 0 then some hw.sd
        else none)
      board (board.bootEnsureHw hw).2 := by
  have before := ensureDdr_sameCard board hw.ddr
  unfold Board.bootEnsureHw
  rcases ddr : board.ensureDdr hw.ddr with ⟨_ | ret, middle⟩
  · simpa [ddr, CardAfter] using before
  · rw [ddr] at before
    by_cases zero : ret = 0
    · subst zero
      have called := ensureSd_cardAfter middle hw.sd
      rw [before.sd] at called
      simp only [true_and, ne_eq, not_true_eq_false, if_false]
      apply CardAfter.after before
      rcases sd : middle.ensureSd hw.sd with ⟨_ | ret, last⟩
      · simpa [sd] using called
      · rw [sd] at called
        by_cases good : ret = 0
        · simpa [good] using called
        · simp only [good, not_false_eq_true, if_true]
          exact called.then (.say (.refl last) _)
    · simp only [Option.some.injEq, zero, false_and, if_false, ne_eq, not_false_eq_true, if_true]
      exact before.say _

theorem cmdDdr_sameCard (board : Board) (outcome : DdrOutcome) :
    SameCard board (board.cmdDdr outcome) := by
  unfold Board.cmdDdr
  split
  · exact SameCard.say (.refl board) _
  · have called := ddrInit_sameCard board outcome
    apply Board.handler_rule (P := SameCard board) called
    intro ret
    split
    · apply SameCard.say
      exact ⟨called.sd, called.last⟩
    · exact called.say _

theorem cmdSd_cardAfter (board : Board) (init : SdInitOutcome) (read : SdOutcome) :
    CardAfter (if board.cmdSdDone then none else some init) board (board.cmdSd init read) := by
  unfold Board.cmdSd
  split
  · exact sdReadMbr_sameCard board read
  · have called := sdInit_cardAfter board init
    apply Board.handler_rule (P := CardAfter (some init) board) called
    intro ret
    split
    · exact called.then (.say (.refl _) _)
    · have same := sdReadMbr_sameCard { (board.sdInit init).2 with cmdSdDone := true } read
      exact called.then ⟨same.sd, same.last⟩

theorem cmdSdw_cardAfter (board : Board) (init : SdInitOutcome) (outcomes : SelfTestOutcomes) :
    CardAfter (if board.sd.info.sdSizeBytes = 0 then some init else none) board
      (board.cmdSdw init outcomes) := by
  have called := ensureSd_cardAfter board init
  apply Board.handler_rule (P := CardAfter _ board) called
  intro ret
  apply called.then
  split
  · exact SameCard.say (.refl _) _
  · apply SameCard.say
    exact ⟨rfl, rfl⟩

theorem usbMscStart_cardAfter (board : Board) (outcome : UsbOutcome) :
    CardAfter (if board.sd.info.sdSizeBytes = 0 then some outcome.sd else none) board
      (board.usbMscStart outcome).2 := by
  have called := ensureSd_cardAfter board outcome.sd
  generalize (if board.sd.info.sdSizeBytes = 0 then some outcome.sd else none) = call at called ⊢
  unfold Board.usbMscStart
  split
  all_goals
    rename_i middle ensured
    rw [ensured] at called
  · exact called
  · split
    · exact called
    · split
      · exact called.then (SameCard.panic (.refl middle))
      · split
        · exact called.then (SameCard.panic ⟨rfl, rfl⟩)
        · exact called.then ⟨rfl, rfl⟩

theorem cmdUsb_cardAfter (board : Board) (outcome : UsbOutcome) :
    CardAfter (if board.sd.info.sdSizeBytes = 0 then some outcome.sd else none) board
      (board.cmdUsb outcome) := by
  have called := usbMscStart_cardAfter board outcome
  generalize (if board.sd.info.sdSizeBytes = 0 then some outcome.sd else none) = call at called ⊢
  unfold Board.cmdUsb
  split
  all_goals
    rename_i middle started
    rw [started] at called
  · exact called
  · exact called.then (.say (.refl middle) _)
  · have exported : SameCard middle (middle.did .usbExport) := SameCard.did (.refl middle) rfl
    apply called.then
    apply SameCard.say
    exact ⟨exported.sd, exported.last⟩

theorem cmdLoadSd_cardAfter (board : Board) (argc : Nat) (arg1 arg2 arg3 : UInt32)
    (hw : HwOutcome) (reads : UInt32 → SdOutcome) :
    CardAfter
      (if (board.ensureDdr hw.ddr).1 = some 0 ∧ board.sd.info.sdSizeBytes = 0 then some hw.sd
        else none)
      board (board.cmdLoadSd argc arg1 arg2 arg3 hw reads) := by
  have called := bootEnsureHw_cardAfter board hw
  apply Board.success_rule (P := CardAfter _ board) called
  intro _
  apply called.then
  have loaded := loadRegion_sameCard (board.bootEnsureHw hw).2 reads
  apply Board.success_rule (P := SameCard _) (loaded _ _ _)
  intro _
  exact (loaded _ _ _).say _

theorem cmdJump_sameCard (board : Board) (argc : Nat) (arg1 : UInt32) (payload : Payload) :
    SameCard board (board.cmdJump argc arg1 payload) := by
  have jumped : SameCard board
      (board.did (.jump (if argc ≥ 1 then arg1 else bootKernelAddr))) :=
    SameCard.did (.refl board) rfl
  unfold Board.cmdJump
  cases payload with
  | none => exact ⟨jumped.sd, jumped.last⟩
  | some result =>
      apply SameCard.say
      exact ⟨jumped.sd, jumped.last⟩

theorem cmdBoot_cardAfter (board : Board) (argc : Nat) (arg1 : UInt32) (hw : HwOutcome)
    (kernelReads dtbReads : UInt32 → SdOutcome) :
    CardAfter
      (if (board.ensureDdr hw.ddr).1 = some 0 ∧ board.sd.info.sdSizeBytes = 0 then some hw.sd
        else none)
      board (board.cmdBoot argc arg1 hw kernelReads dtbReads) := by
  have called := bootEnsureHw_cardAfter board hw
  apply Board.success_rule (P := CardAfter _ board) called
  intro _
  apply called.then
  have kernel := loadRegion_sameCard (board.bootEnsureHw hw).2 kernelReads
    (if argc ≥ 1 then arg1 else bootKernelBlocks) bootKernelLba bootKernelAddr
  apply Board.success_rule (P := SameCard _) kernel
  intro _
  have dtb := kernel.trans (loadRegion_sameCard _ dtbReads bootDtbBlocks bootDtbLba bootDtbAddr)
  apply Board.success_rule (P := SameCard _) dtb
  intro _
  have entered : SameCard _ (Board.did (.dropToEl2 bootDtbAddr bootKernelAddr) _) := dtb.did rfl
  exact ⟨entered.sd, entered.last⟩

/-- Each command makes the one `sd_init` that `sdCall` gives, and nothing else
touches the driver. -/
theorem run_cardAfter (board : Board) (command : Command) :
    CardAfter (command.sdCall board) board (command.run board) := by
  cases command with
  | ddr outcome => exact cmdDdr_sameCard board outcome
  | sd init read => exact cmdSd_cardAfter board init read
  | sdw init outcomes => exact cmdSdw_cardAfter board init outcomes
  | usb outcome => exact cmdUsb_cardAfter board outcome
  | loadSd argc arg1 arg2 arg3 hw reads =>
      exact cmdLoadSd_cardAfter board argc arg1 arg2 arg3 hw reads
  | jump argc arg1 payload => exact cmdJump_sameCard board argc arg1 payload
  | boot argc arg1 hw kernelReads dtbReads =>
      exact cmdBoot_cardAfter board argc arg1 hw kernelReads dtbReads

end Effects

/-! ### Every run -/

/-- One `sd_init` leaves the truth behind exactly when it tells it. -/
theorem cardUp_called_iff {board next : Board} {outcome : SdInitOutcome}
    (card : board.sd.mmcDevType ≠ .isEmmc) (called : CardCalled outcome board next) :
    CardUp next ↔ TellsCard outcome board.sd := by
  unfold CardUp
  rw [called.sd, called.last]
  rcases sdInit_cases outcome board.sd with ⟨silent, failed, same⟩ | ⟨publishes, ret, sized⟩
  · constructor
    · intro up
      refine ⟨fun publishes => absurd publishes silent, fun _ => ?_⟩
      by_contra published
      rw [same] at up
      exact failed (Option.some.inj (up published))
    · rintro ⟨_, unpublished⟩ published
      rw [same] at published
      exact absurd (unpublished silent) published
  · have published := sized (sdInit_mmcDevType card).1
    constructor
    · intro up
      refine ⟨fun _ stuck => ?_, fun silent => absurd publishes silent⟩
      have returned := Option.some.inj (up published)
      rw [ret, if_pos stuck] at returned
      cases returned
    · rintro ⟨speed, _⟩ _
      rw [ret, if_neg (speed publishes)]

/-- The driver takes the card for an SD card, and its size can be trusted. -/
structure CardKnown (board : Board) : Prop where
  card : board.sd.mmcDevType ≠ .isEmmc
  up : CardUp board

theorem cardKnown_run_iff {board : Board} (known : CardKnown board) (command : Command) :
    CardUp (command.run board) ↔ HonestCard board command := by
  have after := run_cardAfter board command
  unfold HonestCard
  cases call : command.sdCall board with
  | none =>
      rw [call] at after
      have kept : CardUp (command.run board) := by
        intro sized
        rw [after.sd] at sized
        exact after.last.trans (known.up sized)
      simp [kept]
  | some outcome =>
      rw [call] at after
      rw [cardUp_called_iff known.card after]
      constructor
      · intro tells _ same
        cases same
        exact tells
      · intro honest
        exact honest outcome rfl

theorem cardKnown_run {board : Board} (known : CardKnown board) {command : Command}
    (honest : HonestCard board command) : CardKnown (command.run board) where
  card := by
    have after := run_cardAfter board command
    cases call : command.sdCall board with
    | none =>
        rw [call] at after
        rw [after.sd]
        exact known.card
    | some outcome =>
        rw [call] at after
        rw [after.sd]
        exact (sdInit_mmcDevType known.card).2
  up := (cardKnown_run_iff known command).mpr honest

/-- In every run in which no `sd_init` fails with a size published, the size
stands for a successful one; and one more command keeps that exactly when its
own `sd_init` does not fail so. -/
theorem boardRun_cardUp {card memory : Store UInt8} {commands : List Command} {board : Board}
    (run : Run (Guarded HonestCard BoardStep) (.reset card memory) commands board) :
    CardUp board ∧
      ∀ command next, BoardStep board command next →
        (CardUp next ↔ HonestCard board command) := by
  have known : CardKnown board := by
    apply run.guarded_invariant CardKnown
    · intro state command next known honest taken
      obtain ⟨_, rfl⟩ := boardStep_iff.mp taken
      exact cardKnown_run known honest
    · exact ⟨by simp [Board.reset, SdGlue.reset], fun sized => absurd rfl sized⟩
  refine ⟨known.up, ?_⟩
  intro command next taken
  obtain ⟨_, rfl⟩ := boardStep_iff.mp taken
  exact cardKnown_run_iff known command

/-- The self test on a healthy card. -/
def sdwGood : Command := .sdw .good { save := .ok, write := .ok, readback := .ok, restore := .ok }

theorem boardRun_cardUp_sdw : CardUp (sdwGood.run (.reset (fun _ => 0) fun _ => 0)) := by
  have honest : HonestCard (.reset (fun _ => 0) fun _ => 0) sdwGood := by
    intro outcome call
    cases call
    exact ⟨fun _ => by decide, fun _ => rfl⟩
  exact (boardRun_cardUp (.single ⟨honest, boardStep_iff.mpr ⟨rfl, rfl⟩⟩)).1

/-- The card does not answer any more. -/
def sdNoAnswer : Command := .sd { SdInitOutcome.good with reset := -110 } .ok

/-- After the self test has brought the card up, `sd` initialises it again and
fails; the size stays. -/
theorem boardRun_sdNoAnswer_sized :
    ∃ board, Run BoardStep (.reset (fun _ => 0) fun _ => 0) [sdwGood, sdNoAnswer] board ∧
      ¬ CardUp board := by
  refine ⟨sdNoAnswer.run (sdwGood.run (.reset (fun _ => 0) fun _ => 0)),
    .cons (boardStep_iff.mpr ⟨rfl, rfl⟩) (.single (boardStep_iff.mpr ⟨rfl, rfl⟩)), ?_⟩
  intro up
  have last := up (by decide)
  revert last
  decide

end Mp257Fsbl.Boot
