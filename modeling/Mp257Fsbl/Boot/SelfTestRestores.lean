/-
Module: Mp257Fsbl.Boot.SelfTestRestores
Purpose: When the sdw command gives the card back as it found it.
Trusted boundary: none
Main exports: Board.sdInfoAfter, cmdSdw_cases, cmdSdw_restores_iff
-/
import Mp257Fsbl.Boot.Board

namespace Mp257Fsbl.Boot

open Mp257Fsbl.Foundation
open Mp257Fsbl.Sd

/-- The geometry the test runs with: the published one, or that of the
`sd_init` it makes; `none` where that does not succeed. -/
def Board.sdInfoAfter (init : SdInitOutcome) (board : Board) : Option SdDevInfo :=
  if board.sd.info.sdSizeBytes ≠ 0 then some board.sd.info
  else
    match Sd.sdInit init board.sd with
    | (some 0, glue) => some glue.info
    | _ => none

/-- The test with the buffers of the command. -/
abbrev selfTestOn (outcomes : SelfTestOutcomes) (info : SdDevInfo) (card : Store UInt8) :
    SelfTestExit × Store UInt8 :=
  selfTest outcomes info.lastBlock (fun _ => 0) (fun _ => 0) (fun _ => 0) card

/-- `cmd_sdw` fails before it touches the card, or ends as the test does. -/
theorem cmdSdw_cases (board : Board) (init : SdInitOutcome) (outcomes : SelfTestOutcomes) :
    (board.sdInfoAfter init = none ∧ (board.cmdSdw init outcomes).card = board.card) ∨
      ∃ info, board.sdInfoAfter init = some info ∧
        (board.cmdSdw init outcomes).card = (selfTestOn outcomes info board.card).2 ∧
        (board.cmdSdw init outcomes).log.getLast? =
          some (.printed (.selfTest (selfTestOn outcomes info board.card).1)) := by
  by_cases sized : board.sd.info.sdSizeBytes = 0
  · rcases called : Sd.sdInit init board.sd with ⟨ret, glue⟩
    cases ret with
    | none =>
        left
        simp [Board.sdInfoAfter, Board.cmdSdw, Board.ensureSd, Board.sdInit, sized, called,
          Board.panic, Board.did]
    | some ret =>
        by_cases zero : ret = 0
        · right
          subst zero
          refine ⟨glue.info, ?_, ?_, ?_⟩
          · simp [Board.sdInfoAfter, sized, called]
          · simp [Board.cmdSdw, Board.ensureSd, Board.sdInit, sized, called, Board.say, Board.did]
          · simp [Board.cmdSdw, Board.ensureSd, Board.sdInit, sized, called, Board.say, Board.did]
        · left
          constructor
          · simp [Board.sdInfoAfter, sized, called, zero]
          · simp [Board.cmdSdw, Board.ensureSd, Board.sdInit, sized, called, zero, Board.say,
              Board.did]
  · right
    refine ⟨board.sd.info, ?_, ?_, ?_⟩
    · simp [Board.sdInfoAfter, sized]
    · simp [Board.cmdSdw, Board.ensureSd, sized, Board.say, Board.did]
    · simp [Board.cmdSdw, Board.ensureSd, sized, Board.say, Board.did]

/-- After `cmd_sdw` the card is as before, or the restoring write was made and
failed, exactly when no exit of the test loses the saved block. -/
theorem cmdSdw_restores_iff (board : Board) (init : SdInitOutcome) (outcomes : SelfTestOutcomes) :
    ((board.cmdSdw init outcomes).card = board.card ∨
        (board.cmdSdw init outcomes).log.getLast? =
          some (.printed (.selfTest .restoreFailed))) ↔
      ∀ info, board.sdInfoAfter init = some info →
        Recovers outcomes info.lastBlock board.card := by
  rcases cmdSdw_cases board init outcomes with ⟨absent, same⟩ | ⟨info, present, card, last⟩
  · simp [absent, same]
  · have exits := selfTest_restores_iff outcomes info.lastBlock (fun _ => 0) (fun _ => 0)
      (fun _ => 0) board.card
    simp only [card, last, present, Option.some.injEq, BoardAction.printed.injEq,
      Report.selfTest.injEq, forall_eq']
    exact exits

/-- Save and pattern write succeed, the readback fails. -/
def readbackFails : SelfTestOutcomes where
  save := .ok
  write := .ok
  readback := .fail fun _ => 0
  restore := .ok

/-- The smallest card, empty and up. -/
def emptyCardBoard : Board :=
  { Board.reset (fun _ => 0) fun _ => 0 with
    sd := { mmcDevType := .isSdHc, info := .smallest } }

/-- The readback fails and the pattern stays on the card. -/
theorem cmdSdw_readbackFails_loses :
    (emptyCardBoard.cmdSdw .good readbackFails).card ≠ emptyCardBoard.card ∧
      (emptyCardBoard.cmdSdw .good readbackFails).log =
        [.printed (.selfTest .readbackFailed)] := by
  have sized : SdDevInfo.smallest.sdSizeBytes ≠ 0 := by decide
  constructor
  · have card : (emptyCardBoard.cmdSdw .good readbackFails).card =
        (selfTestOn readbackFails .smallest fun _ => 0).2 := by
      simp [Board.cmdSdw, Board.ensureSd, emptyCardBoard, Board.reset, sized, Board.say, Board.did]
    intro same
    have recovers := (selfTest_restores_iff readbackFails SdDevInfo.smallest.lastBlock
      (fun _ => 0) (fun _ => 0) (fun _ => 0) fun _ => 0).mp (.inl (card.symm.trans same))
    simp only [Recovers, readbackFails] at recovers
    have first := congrArg (·[0]?) recovers
    simp only [Store.blocks, Store.window_getElem? _ _ blockSize 0 (by decide)] at first
    simp [selfTestPattern] at first
  · simp [Board.cmdSdw, Board.ensureSd, emptyCardBoard, Board.reset, sized, Board.say, Board.did,
      selfTest, readbackFails, sdRead, sdWrite]

end Mp257Fsbl.Boot
