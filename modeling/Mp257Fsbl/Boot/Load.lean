/-
Module: Mp257Fsbl.Boot.Load
Purpose: The chunked copy from the card into memory and the word checksum over
  what it loaded.
Trusted boundary: human-reviewed model of load_region and of the checksum loop
  of cmd_load_sd
Main exports: sdReadAt, loadRegion, checksum
-/
import Mp257Fsbl.Foundation.Word
import Mp257Fsbl.Sd.Card

namespace Mp257Fsbl.Boot

open Mp257Fsbl.Foundation
open Mp257Fsbl.Sd

/-- `LOAD_CHUNK_BLOCKS`. -/
def loadChunkBlocks : UInt32 := 2048

/-- `SD_BLOCK_SIZE`. -/
def sdBlockSize : UInt32 := 512

/-- `sd_read` straight into the memory at `address`. -/
def sdReadAt (outcome : SdOutcome) (card : Store UInt8) (lba size : UInt32) (address : Nat)
    (memory : Store UInt8) : Bool × Store UInt8 :=
  let result := sdRead outcome card lba size fun i => memory (address + i)
  (result.1, memory.overlay address (result.2.window 0 size.toNat))

/-- The `cnt` of the next read. -/
def loadChunk (left : UInt32) : UInt32 := if left > loadChunkBlocks then loadChunkBlocks else left

theorem loadChunk_toNat (left : UInt32) : (loadChunk left).toNat = min 2048 left.toNat := by
  have value : loadChunkBlocks.toNat = 2048 := rfl
  unfold loadChunk
  split
  · rename_i long
    have long : loadChunkBlocks.toNat < left.toNat := UInt32.lt_iff_toNat_lt.mp long
    omega
  · rename_i short
    have short : left.toNat ≤ loadChunkBlocks.toNat :=
      UInt32.le_iff_toNat_le.mp (UInt32.not_lt.mp short)
    omega

/-- The loop makes progress and never passes `n`. -/
theorem left_after_chunk (n done : UInt32) :
    (n - (done + loadChunk (n - done))).toNat = (n - done).toNat - min 2048 (n - done).toNat := by
  have chunk := loadChunk_toNat (n - done)
  have fits : loadChunk (n - done) ≤ n - done := by
    rw [UInt32.le_iff_toNat_le, chunk]
    omega
  have regroup : n - (done + loadChunk (n - done)) = n - done - loadChunk (n - done) := by
    grind
  rw [regroup, UInt32.toNat_sub_of_le _ _ fits, chunk]

/-- `load_region` from its `done` on: the block of the read that failed, if
one did, and the memory. `reads` gives the outcome of the read at each value
of `done`. -/
def loadRegion (reads : UInt32 → SdOutcome) (card : Store UInt8) (n lba dest done : UInt32)
    (memory : Store UInt8) : Option UInt32 × Store UInt8 :=
  if done < n then
    let cnt := loadChunk (n - done)
    let read :=
      sdReadAt (reads done) card (lba + done) (cnt * sdBlockSize)
        (dest + done * sdBlockSize).toNat memory
    if read.1 then loadRegion reads card n lba dest (done + cnt) read.2
    else (some (lba + done), read.2)
  else (none, memory)
termination_by (n - done).toNat
decreasing_by
  rename_i more _
  have progress := left_after_chunk n done
  have some_left : 0 < (n - done).toNat := by
    have le : done ≤ n := UInt32.le_of_lt more
    have lt : done.toNat < n.toNat := UInt32.lt_iff_toNat_lt.mp more
    rw [UInt32.toNat_sub_of_le _ _ le]
    omega
  omega

theorem loadRegion_zero (reads : UInt32 → SdOutcome) (card : Store UInt8) (lba dest : UInt32)
    (memory : Store UInt8) : loadRegion reads card 0 lba dest 0 memory = (none, memory) := by
  rw [loadRegion]
  simp

/-- The loop of `cmd_load_sd` over the first `words` words from `dest` on. -/
def checksum (memory : Store UInt8) (dest : Nat) : Nat → UInt32
  | 0 => 0
  | words + 1 =>
      let address := dest + 4 * words
      checksum memory dest words +
        word32 (memory (address + 3)) (memory (address + 2)) (memory (address + 1))
          (memory address)

end Mp257Fsbl.Boot
