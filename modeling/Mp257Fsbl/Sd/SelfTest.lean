/-
Module: Mp257Fsbl.Sd.SelfTest
Purpose: The transfers of the sdw command: save the last block, write and read
  back a pattern, restore; and when they leave the card as it was.
Trusted boundary: human-reviewed model of cmd_sdw after its sd_init
Main exports: SelfTestOutcomes, SelfTestExit, selfTest, Recovers,
  selfTest_restores_iff
-/
import Mp257Fsbl.Sd.Card

namespace Mp257Fsbl.Sd

open Mp257Fsbl.Foundation

/-- What the hardware makes of the four transfers, as far as they are made. -/
structure SelfTestOutcomes where
  save : SdOutcome
  write : SdOutcome
  readback : SdOutcome
  restore : SdOutcome

/-- The five messages the test ends with. -/
inductive SelfTestExit where
  | saveReadFailed
  | writeFailed
  | readbackFailed
  | restoreFailed
  | finished (ok : Bool) (block : UInt32)
deriving Repr, DecidableEq

/-- The block under test. -/
def SdDevInfo.lastBlock (info : SdDevInfo) : UInt32 :=
  UInt32.ofNat (info.sdSizeBytes / blockSize) - 1

/-- The content of `patt`. -/
def selfTestPattern : List UInt8 := (List.range 512).map fun i => UInt8.ofNat (i ^^^ 0xA5)

/-- `cmd_sdw` once the card is up, on what its three static buffers hold from
before: the message and the card. -/
def selfTest (outcomes : SelfTestOutcomes) (last : UInt32) (saved patt back card : Store UInt8) :
    SelfTestExit × Store UInt8 :=
  let save := sdRead outcomes.save card last 512 saved
  if save.1 = false then (.saveReadFailed, card)
  else
    let patt := patt.overlay 0 selfTestPattern
    let write := sdWrite outcomes.write card last 512 patt
    if write.1 = false then (.writeFailed, write.2)
    else
      let readback := sdRead outcomes.readback write.2 last 512 back
      if readback.1 = false then (.readbackFailed, write.2)
      else
        let ok := decide (patt.window 0 512 = readback.2.window 0 512)
        let restore := sdWrite outcomes.restore write.2 last 512 save.2
        if restore.1 = false then (.restoreFailed, restore.2)
        else (.finished ok last, restore.2)

/-- No exit is taken on which the block under test is lost: once the block is
saved, a failed write has left the block as it was, and a readback fails only
where the block held the pattern already. -/
def Recovers (outcomes : SelfTestOutcomes) (last : UInt32) (card : Store UInt8) : Prop :=
  let block := card.blocks blockSize last.toNat
  match outcomes.save, outcomes.write, outcomes.readback with
  | .fail _, _, _ => True
  | .ok, .fail residue, _ => residue.window 0 512 = block
  | .ok, .ok, .fail _ => selfTestPattern = block
  | .ok, .ok, .ok => True

theorem selfTestPattern_length : selfTestPattern.length = 512 := by
  simp [selfTestPattern]

section Exits

variable {last : UInt32} {card : Store UInt8}

/-- What a successful save reads is the block under test. -/
theorem save_window (saved : Store UInt8) :
    ((sdRead .ok card last 512 saved).2).window 0 512 = card.blocks blockSize last.toNat := by
  have here := Store.window_overlay_same saved 0 (card.window (blockSize * last.toNat) 512)
  rw [Store.window_length] at here
  have size : (512 : UInt32).toNat = 512 := rfl
  simpa only [sdRead, size, Store.blocks, blockSize] using here

/-- What a successful pattern write puts there. -/
theorem pattern_window (patt : Store UInt8) :
    (patt.overlay 0 selfTestPattern).window 0 512 = selfTestPattern := by
  have here := Store.window_overlay_same patt 0 selfTestPattern
  rwa [selfTestPattern_length] at here

/-- Writing a block changes nothing exactly when the card holds it. -/
theorem overlay_block_eq_iff {block : List UInt8} (whole : block.length = 512) :
    card.overlay (blockSize * last.toNat) block = card ↔
      block = card.blocks blockSize last.toNat := by
  rw [Store.overlay_eq_self_iff, whole, Store.blocks, blockSize]

end Exits

/-- The card is as before, or the restoring write itself failed, exactly when
no exit after the first write lost the block. -/
theorem selfTest_restores_iff (outcomes : SelfTestOutcomes) (last : UInt32)
    (saved patt back card : Store UInt8) :
    ((selfTest outcomes last saved patt back card).2 = card ∨
        (selfTest outcomes last saved patt back card).1 = .restoreFailed) ↔
      Recovers outcomes last card := by
  rcases outcomes with ⟨save, write, readback, restore⟩
  have size : (512 : UInt32).toNat = 512 := rfl
  cases save with
  | fail residue => simp [selfTest, sdRead, Recovers]
  | ok =>
      cases write with
      | fail residue =>
          simp [selfTest, sdRead, sdWrite, Recovers, size,
            overlay_block_eq_iff (Store.window_length residue 0 512)]
      | ok =>
          cases readback with
          | fail residue =>
              simp [selfTest, sdRead, sdWrite, Recovers, size, pattern_window,
                overlay_block_eq_iff selfTestPattern_length]
          | ok =>
              cases restore with
              | fail residue => simp [selfTest, sdRead, sdWrite, Recovers]
              | ok =>
                  have restored : (selfTest ⟨.ok, .ok, .ok, .ok⟩ last saved patt back card).2 =
                      (card.overlay (blockSize * last.toNat) selfTestPattern).overlay
                        (blockSize * last.toNat) (card.blocks blockSize last.toNat) := by
                    rw [← save_window saved, ← pattern_window patt]
                    rfl
                  have whole : (card.blocks blockSize last.toNat).length = 512 :=
                    Store.window_length card _ _
                  have unchanged : (selfTest ⟨.ok, .ok, .ok, .ok⟩ last saved patt back card).2 =
                      card := by
                    rw [restored, Store.overlay_overlay _ _ (by rw [whole, selfTestPattern_length]),
                      overlay_block_eq_iff whole]
                  simp [unchanged, Recovers]

end Mp257Fsbl.Sd
