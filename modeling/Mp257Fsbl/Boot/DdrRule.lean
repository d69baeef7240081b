/-
Module: Mp257Fsbl.Boot.DdrRule
Purpose: The rule for what the commands keep as long as each ddr_init they make
  is of a permitted kind.
Trusted boundary: none
Main exports: BoardAction.ddrReturn, BoardAction.UsesDdr, Command.ddrCall,
  DdrRule, DdrRule.run
-/
import Mp257Fsbl.Boot.Board

namespace Mp257Fsbl.Boot

open Mp257Fsbl.Foundation
open Mp257Fsbl.Sd
open Mp257Fsbl.Ddr

namespace BoardAction

/-- What `ddr_init` returned. -/
def ddrReturn : BoardAction → Option Int
  | .ddrInit ret => some ret
  | _ => none

/-- The actions that rely on working DDR. -/
def UsesDdr : BoardAction → Prop
  | .loadRegion _ _ _ => True
  | .dropToEl2 _ _ => True
  | _ => False

end BoardAction

/-- The `ddr_init` that a command makes. -/
def Command.ddrCall : Command → Board → Option DdrOutcome
  | .ddr outcome, board => if board.cmdDdrDone then none else some outcome
  | .loadSd _ _ _ _ hw _, board => if board.ddr.size = 0 then some hw.ddr else none
  | .boot _ _ hw _ _, board => if board.ddr.size = 0 then some hw.ddr else none
  | _, _ => none

/-- `Kept` is kept by all the commands do, given that `permits` admits each
`ddr_init`; `Up` holds besides where the commands rely on DDR. Both are about
the log and the published size only. -/
structure DdrRule (permits : DdrOutcome → Board → Prop) (Kept Up : Board → Prop) : Prop where
  kept : ∀ {board}, Up board → Kept board
  sized : ∀ {board}, Kept board → board.ddr.size ≠ 0 → Up board
  kept_same : ∀ {board other : Board}, Kept board → other.log = board.log →
    other.ddr.size = board.ddr.size → Kept other
  up_same : ∀ {board other : Board}, Up board → other.log = board.log →
    other.ddr.size = board.ddr.size → Up other
  kept_did : ∀ {board : Board} {action : BoardAction}, Kept board → ¬ action.UsesDdr →
    action.ddrReturn = none → Kept (board.did action)
  up_did : ∀ {board : Board} {action : BoardAction}, Up board → action.ddrReturn = none →
    Up (board.did action)
  ddrInit : ∀ {board : Board} {outcome : DdrOutcome}, Kept board → permits outcome board →
    Kept (board.ddrInit outcome).2 ∧
      ((board.ddrInit outcome).1 = some 0 → Up (board.ddrInit outcome).2)

namespace DdrRule

variable {permits : DdrOutcome → Board → Prop} {Kept Up : Board → Prop}
  (rule : DdrRule permits Kept Up) {board : Board}
include rule

theorem kept_say (kept : Kept board) (report : Report) : Kept (board.say report) :=
  rule.kept_did kept (by simp [BoardAction.UsesDdr]) rfl

theorem kept_panic (kept : Kept board) : Kept board.panic :=
  rule.kept_same (rule.kept_did kept (by simp [BoardAction.UsesDdr]) rfl) rfl rfl

theorem up_panic (up : Up board) : Up board.panic := rule.up_same (rule.up_did up rfl) rfl rfl

/-! ### Bring-up -/

theorem kept_sdInit (kept : Kept board) (outcome : SdInitOutcome) :
    Kept (board.sdInit outcome).2 := by
  unfold Board.sdInit
  split
  · apply rule.kept_panic
    exact rule.kept_did (rule.kept_same kept rfl rfl) (by simp [BoardAction.UsesDdr]) rfl
  · exact rule.kept_did (rule.kept_same kept rfl rfl) (by simp [BoardAction.UsesDdr]) rfl

theorem kept_ensureSd (kept : Kept board) (outcome : SdInitOutcome) :
    Kept (board.ensureSd outcome).2 := by
  unfold Board.ensureSd
  split
  · exact rule.kept_sdInit kept outcome
  · exact kept

/-- Card bring-up does not undo DDR bring-up. -/
theorem up_ensureSd (up : Up board) (outcome : SdInitOutcome) :
    Up (board.ensureSd outcome).2 := by
  unfold Board.ensureSd Board.sdInit
  split
  · split
    · apply rule.up_panic
      exact rule.up_did (rule.up_same up rfl rfl) rfl
    · exact rule.up_did (rule.up_same up rfl rfl) rfl
  · exact up

/-- `boot_ensure_hw` succeeds only with DDR up. -/
theorem kept_bootEnsureHw (kept : Kept board) {hw : HwOutcome}
    (permitted : board.ddr.size = 0 → permits hw.ddr board) :
    Kept (board.bootEnsureHw hw).2 ∧
      ((board.bootEnsureHw hw).1 = true → Up (board.bootEnsureHw hw).2) := by
  have ensured : Kept (board.ensureDdr hw.ddr).2 ∧
      ((board.ensureDdr hw.ddr).1 = some 0 → Up (board.ensureDdr hw.ddr).2) := by
    unfold Board.ensureDdr
    split
    · rename_i unsized
      exact rule.ddrInit kept (permitted unsized)
    · rename_i sized
      exact ⟨kept, fun _ => rule.sized kept sized⟩
  unfold Board.bootEnsureHw
  cases ddr : board.ensureDdr hw.ddr with
  | mk ret middle =>
      rw [ddr] at ensured
      cases ret with
      | none => exact ⟨ensured.1, by simp⟩
      | some ret =>
          by_cases zero : ret = 0
          · subst zero
            have up : Up middle := ensured.2 rfl
            have after := rule.up_ensureSd up hw.sd
            simp only [ne_eq, not_true_eq_false, if_false]
            cases sd : middle.ensureSd hw.sd with
            | mk sdRet last =>
                rw [sd] at after
                cases sdRet with
                | none => exact ⟨rule.kept after, by simp⟩
                | some sdRet =>
                    by_cases good : sdRet = 0
                    · simp only [good, not_true_eq_false, if_false]
                      exact ⟨rule.kept after, fun _ => after⟩
                    · simp only [good, not_false_eq_true, if_true]
                      exact ⟨rule.kept_say (rule.kept after) _, by simp⟩
          · simp only [ne_eq, zero, not_false_eq_true, if_true]
            exact ⟨rule.kept_say ensured.1 _, by simp⟩

/-- Loading relies on DDR and leaves it up. -/
theorem up_loadRegion (up : Up board) (reads : UInt32 → SdOutcome) (n lba dest : UInt32) :
    Up (board.loadRegion reads n lba dest).2 := by
  have called : Up (board.did (.loadRegion n lba dest)) := rule.up_did up rfl
  unfold Board.loadRegion
  split
  · exact rule.up_same called rfl rfl
  · exact rule.up_did (rule.up_same called rfl rfl) rfl

/-! ### Commands -/

theorem kept_cmdDdr (kept : Kept board) {outcome : DdrOutcome}
    (permitted : board.cmdDdrDone = false → permits outcome board) :
    Kept (board.cmdDdr outcome) := by
  unfold Board.cmdDdr
  split
  · exact rule.kept_say kept _
  · rename_i fresh
    have after := (rule.ddrInit kept (permitted (by simpa using fresh))).1
    apply Board.handler_rule (P := Kept) after
    intro ret
    split
    · apply rule.kept_say
      exact rule.kept_same after rfl rfl
    · exact rule.kept_say after _

theorem kept_sdReadMbr (kept : Kept board) (read : SdOutcome) :
    Kept (board.sdReadMbr read) := by
  simp only [Board.sdReadMbr]
  split <;> exact rule.kept_say kept _

theorem kept_cmdSd (kept : Kept board) (init : SdInitOutcome) (read : SdOutcome) :
    Kept (board.cmdSd init read) := by
  have after := rule.kept_sdInit kept init
  unfold Board.cmdSd
  split
  · exact rule.kept_sdReadMbr kept read
  · apply Board.handler_rule (P := Kept) after
    intro ret
    split
    · exact rule.kept_say after _
    · apply rule.kept_sdReadMbr
      exact rule.kept_same after rfl rfl

theorem kept_cmdSdw (kept : Kept board) (init : SdInitOutcome) (outcomes : SelfTestOutcomes) :
    Kept (board.cmdSdw init outcomes) := by
  have after := rule.kept_ensureSd kept init
  apply Board.handler_rule (P := Kept) after
  intro ret
  split
  · exact rule.kept_say after _
  · apply rule.kept_say
    exact rule.kept_same after rfl rfl

theorem kept_usbMscStart (kept : Kept board) (outcome : UsbOutcome) :
    Kept (board.usbMscStart outcome).2 := by
  have after := rule.kept_ensureSd kept outcome.sd
  unfold Board.usbMscStart
  split
  · rename_i middle called
    rw [called] at after
    exact after
  · rename_i ret middle called
    rw [called] at after
    split
    · exact after
    · split
      · exact rule.kept_panic after
      · split
        · exact rule.kept_panic (rule.kept_same after rfl rfl)
        · exact rule.kept_same after rfl rfl

theorem kept_cmdUsb (kept : Kept board) (outcome : UsbOutcome) :
    Kept (board.cmdUsb outcome) := by
  have after := rule.kept_usbMscStart kept outcome
  unfold Board.cmdUsb
  split
  all_goals
    rename_i middle called
    rw [called] at after
  · exact after
  · exact rule.kept_say after _
  · have exported : Kept (middle.did .usbExport) :=
      rule.kept_did after (by simp [BoardAction.UsesDdr]) rfl
    apply rule.kept_say
    exact rule.kept_same exported rfl rfl

theorem kept_cmdLoadSd (kept : Kept board) {argc : Nat} {arg1 arg2 arg3 : UInt32}
    {hw : HwOutcome} {reads : UInt32 → SdOutcome}
    (permitted : board.ddr.size = 0 → permits hw.ddr board) :
    Kept (board.cmdLoadSd argc arg1 arg2 arg3 hw reads) := by
  have ensured := rule.kept_bootEnsureHw kept permitted
  apply Board.success_rule (P := Kept) ensured.1
  intro up
  have loaded := fun n lba dest => rule.up_loadRegion (ensured.2 up) reads n lba dest
  apply Board.success_rule (P := Kept) (rule.kept (loaded _ _ _))
  intro _
  exact rule.kept_say (rule.kept (loaded _ _ _)) _

theorem kept_cmdJump (kept : Kept board) (argc : Nat) (arg1 : UInt32) (payload : Payload) :
    Kept (board.cmdJump argc arg1 payload) := by
  have called : Kept (board.did (.jump (if argc ≥ 1 then arg1 else bootKernelAddr))) :=
    rule.kept_did kept (by simp [BoardAction.UsesDdr]) rfl
  unfold Board.cmdJump
  cases payload with
  | none => exact rule.kept_same called rfl rfl
  | some result =>
      apply rule.kept_say
      exact rule.kept_same called rfl rfl

theorem kept_cmdBoot (kept : Kept board) {argc : Nat} {arg1 : UInt32} {hw : HwOutcome}
    {kernelReads dtbReads : UInt32 → SdOutcome}
    (permitted : board.ddr.size = 0 → permits hw.ddr board) :
    Kept (board.cmdBoot argc arg1 hw kernelReads dtbReads) := by
  have ensured := rule.kept_bootEnsureHw kept permitted
  apply Board.success_rule (P := Kept) ensured.1
  intro up
  have kernel := rule.up_loadRegion (ensured.2 up) kernelReads
    (if argc ≥ 1 then arg1 else bootKernelBlocks) bootKernelLba bootKernelAddr
  apply Board.success_rule (P := Kept) (rule.kept kernel)
  intro _
  have dtb := rule.up_loadRegion kernel dtbReads bootDtbBlocks bootDtbLba bootDtbAddr
  apply Board.success_rule (P := Kept) (rule.kept dtb)
  intro _
  have entered : Up (Board.did (.dropToEl2 bootDtbAddr bootKernelAddr) _) := rule.up_did dtb rfl
  exact rule.kept_same (rule.kept entered) rfl rfl

/-- A command whose `ddr_init`, if it makes one, is permitted keeps what the
rule is about. -/
theorem run (kept : Kept board) {command : Command}
    (permitted : ∀ outcome, command.ddrCall board = some outcome → permits outcome board) :
    Kept (command.run board) := by
  cases command with
  | ddr outcome =>
      exact rule.kept_cmdDdr kept fun fresh => permitted outcome (by simp [Command.ddrCall, fresh])
  | sd init read => exact rule.kept_cmdSd kept init read
  | sdw init outcomes => exact rule.kept_cmdSdw kept init outcomes
  | usb outcome => exact rule.kept_cmdUsb kept outcome
  | loadSd argc arg1 arg2 arg3 hw reads =>
      exact rule.kept_cmdLoadSd kept fun unsized =>
        permitted hw.ddr (by simp [Command.ddrCall, unsized])
  | jump argc arg1 payload => exact rule.kept_cmdJump kept argc arg1 payload
  | boot argc arg1 hw kernelReads dtbReads =>
      exact rule.kept_cmdBoot kept fun unsized =>
        permitted hw.ddr (by simp [Command.ddrCall, unsized])

end DdrRule

end Mp257Fsbl.Boot
