/-
Module: Mp257Fsbl.Usb.Msc.Capacity
Purpose: The capacity that the class advertises for a high-capacity card against
  the addresses that it accepts.
Trusted boundary: none
Main exports: highCapacity_blockCount, replyWord, sendData_byte,
  readCapacity_reply, readFormatCap_reply, Encodes, dispatchIo_range,
  capacity_agrees
-/
import Mp257Fsbl.Usb.Msc.Host

namespace Mp257Fsbl.Usb.Msc

open Mp257Fsbl.Foundation
open Mp257Fsbl.Sd

/-! ### The card -/

/-- The 22 bits of the register that give a high-capacity card its size. -/
def cSize (csd : BitVec 128) : Nat :=
  MmcCsdSdV2.cSizeHigh csd * 2 ^ 16 + MmcCsdSdV2.cSizeLow csd

theorem cSize_lt (csd : BitVec 128) : cSize csd < 2 ^ 22 := by
  have high : MmcCsdSdV2.cSizeHigh csd < 2 ^ 6 := (csd.extractLsb' 64 6).isLt
  have low : MmcCsdSdV2.cSizeLow csd < 2 ^ 16 := (csd.extractLsb' 48 16).isLt
  simp only [cSize]
  omega

section Card

variable {csd : BitVec 128} {nbBlocks : UInt32} {filled : MmcDeviceInfo} {info : SdDevInfo}

theorem highCapacity_blockCount (fills : mmcFillDeviceInfo .isSdHc csd nbBlocks = some filled)
    (same : info.deviceSize = filled.deviceSize) :
    info.blockCount = 1024 * (cSize csd + 1) := by
  have bound := cSize_lt csd
  simp only [mmcFillDeviceInfo] at fills
  split at fills
  · cases fills
    simp only [SdDevInfo.blockCount, SdDevInfo.sdSizeBytes, same, blockSize]
    change (cSize csd + 1) * 2 ^ 19 % 2 ^ 64 / 512 = 1024 * (cSize csd + 1)
    omega
  · cases fills

end Card

/-! ### Replies -/

/-- Four bytes of `xfer_buf` as a big-endian number. -/
def replyWord (s : MscState) (offset : Nat) : UInt32 :=
  word32 (s.xferBuf offset) (s.xferBuf (offset + 1)) (s.xferBuf (offset + 2))
    (s.xferBuf (offset + 3))

section Replies

variable {s : MscState}

/-- A byte of a reply, as far as the host has asked for it. -/
theorem sendData_byte {data : List UInt8} (short : data.length < 512) {i : Nat}
    (inside : i < data.length) (asked : i < s.cbw.dataLength.toNat) :
    (mscSendData data s).1.xferBuf i = data[i] := by
  have whole : (UInt32.ofNat data.length).toNat = data.length :=
    UInt32.toNat_ofNat_of_lt' (Nat.lt_trans short (by decide))
  have reached : ∀ len : UInt32, i < len.toNat →
      s.xferBuf.overlay 0 (data.take len.toNat) i = data[i] := by
    intro len before
    have length : i < (data.take len.toNat).length := by
      rw [List.length_take]
      omega
    have stored := @Store.overlay_inside _ s.xferBuf 0 i _ length
    rw [Nat.zero_add] at stored
    rw [stored, List.getElem_take]
  simp only [mscSendData]
  split
  · exact reached _ asked
  · exact reached _ (by rwa [whole])

/-- A big-endian word within a reply. -/
theorem sendData_word {head tail : List UInt8} {word : UInt32}
    (short : (head ++ (be32Bytes word ++ tail)).length < 512)
    (asked : head.length + 4 ≤ s.cbw.dataLength.toNat) :
    replyWord (mscSendData (head ++ (be32Bytes word ++ tail)) s).1 head.length = word := by
  have byte : ∀ i (inside : i < (be32Bytes word).length),
      (mscSendData (head ++ (be32Bytes word ++ tail)) s).1.xferBuf (head.length + i) =
        (be32Bytes word)[i] := by
    intro i inside
    have four : (be32Bytes word).length = 4 := rfl
    have within : head.length + i < (head ++ (be32Bytes word ++ tail)).length := by
      simp only [List.length_append]
      omega
    rw [sendData_byte short within (by omega), List.getElem_append_right (Nat.le_add_right _ _),
      List.getElem_append_left (by omega)]
    simp only [Nat.add_sub_cancel_left]
  have first := byte 0 (show 0 < 4 by decide)
  rw [Nat.add_zero] at first
  rw [replyWord, first, byte 1 (show 1 < 4 by decide), byte 2 (show 2 < 4 by decide),
    byte 3 (show 3 < 4 by decide)]
  exact word32_of_bytes word

theorem readCapacity_reply {info : SdDevInfo} (sd : SdOutcome) (opcode : s.cbw.cb 0 = 0x25)
    (asked : 4 ≤ s.cbw.dataLength.toNat) :
    replyWord (mscCmdDispatch info sd s).1 0 = UInt32.ofNat info.blockCount - 1 := by
  have dispatched : mscCmdDispatch info sd s = mscSendData (cap info) s := by
    rw [mscCmdDispatch, opcode]
    rfl
  rw [dispatched]
  exact @sendData_word s [] _ _ (cap_length info) (by rwa [List.length_nil, Nat.zero_add])

theorem readFormatCap_reply {info : SdDevInfo} (sd : SdOutcome) (opcode : s.cbw.cb 0 = 0x23)
    (asked : 8 ≤ s.cbw.dataLength.toNat) :
    replyWord (mscCmdDispatch info sd s).1 4 = UInt32.ofNat info.blockCount := by
  have dispatched : mscCmdDispatch info sd s = mscSendData (fmt info) s := by
    rw [mscCmdDispatch, opcode]
    rfl
  rw [dispatched]
  exact @sendData_word s [0, 0, 0, 8] _ _ (fmt_length info) asked

end Replies

/-! ### Block commands -/

/-- The address and the block count in the CDB of a READ(10) or WRITE(10). -/
structure Encodes (cbw : Cbw) (lba : UInt32) (cnt : UInt16) : Prop where
  lba : [cbw.cb 2, cbw.cb 3, cbw.cb 4, cbw.cb 5] = be32Bytes lba
  cnt : [cbw.cb 7, cbw.cb 8] = be16Bytes cnt

section Io

variable {s : MscState} {lba : UInt32} {cnt : UInt16}

theorem Encodes.lba_eq (encodes : Encodes s.cbw lba cnt) : s.cbw.lba = lba := by
  have bytes := encodes.lba
  simp only [be32Bytes, List.cons.injEq, and_true] at bytes
  rw [Cbw.lba, bytes.1, bytes.2.1, bytes.2.2.1, bytes.2.2.2]
  exact word32_of_bytes lba

theorem Encodes.cnt_eq (encodes : Encodes s.cbw lba cnt) : s.cbw.cnt = cnt.toUInt32 := by
  have bytes := encodes.cnt
  simp only [be16Bytes, List.cons.injEq, and_true] at bytes
  rw [Cbw.cnt, bytes.1, bytes.2]
  exact word16_of_bytes cnt

/-- No block, no access. -/
theorem dispatchIo_none (info : SdDevInfo) (start : MscState → MscState × List Action)
    (encodes : Encodes s.cbw lba cnt) (none_ : cnt.toNat = 0) :
    mscDispatchIo info start s = mscSendCsw 0 s := by
  have zero : s.cbw.cnt = 0 := by
    rw [encodes.cnt_eq]
    apply UInt32.toNat.inj
    rw [UInt16.toNat_toUInt32, none_]
    rfl
  rw [mscDispatchIo, if_pos zero]

/-- The range check lets through exactly what ends inside the card. -/
theorem dispatchIo_range {info : SdDevInfo} (start : MscState → MscState × List Action)
    (encodes : Encodes s.cbw lba cnt) (some_blocks : 1 ≤ cnt.toNat)
    (present : 1 ≤ info.blockCount) :
    mscDispatchIo info start s =
      if lba.toNat + cnt.toNat - 1 ≤ info.blockCount - 1 then
        start { s with ioLba := lba, ioBlocksLeft := cnt.toUInt32 }
      else mscFail 0x05 0x21 s := by
  have more : cnt.toUInt32 ≠ 0 := by
    intro zero
    have value := congrArg UInt32.toNat zero
    rw [UInt16.toNat_toUInt32] at value
    change cnt.toNat = 0 at value
    omega
  simp only [mscDispatchIo, encodes.lba_eq, encodes.cnt_eq, more, if_false, UInt16.toNat_toUInt32]
  by_cases inside : lba.toNat + cnt.toNat - 1 ≤ info.blockCount - 1
  · rw [if_neg (by omega), if_pos inside]
  · rw [if_pos (by omega), if_neg inside]

end Io

/-- For every high-capacity card the last block that READ CAPACITY(10) names is
the last one that READ(10) and WRITE(10) accept, and READ FORMAT CAPACITIES
counts the blocks up to it. A command for no block succeeds without the card. -/
theorem capacity_agrees {csd : BitVec 128} {nbBlocks : UInt32} {filled : MmcDeviceInfo}
    {info : SdDevInfo} (fills : mmcFillDeviceInfo .isSdHc csd nbBlocks = some filled)
    (same : info.deviceSize = filled.deviceSize) (sd : SdOutcome) :
    ∃ last : UInt32, last.toNat = 1024 * (cSize csd + 1) - 1 ∧
      (∀ s, s.cbw.cb 0 = 0x25 → 4 ≤ s.cbw.dataLength.toNat →
        replyWord (mscCmdDispatch info sd s).1 0 = last) ∧
      (∀ s, s.cbw.cb 0 = 0x23 → 8 ≤ s.cbw.dataLength.toNat →
        1024 * (cSize csd + 1) < 2 ^ 32 →
          (replyWord (mscCmdDispatch info sd s).1 4).toNat = last.toNat + 1) ∧
      ∀ s lba cnt, Encodes s.cbw lba cnt →
        (1 ≤ cnt.toNat → s.cbw.cb 0 = 0x28 →
          mscCmdDispatch info sd s =
            if lba.toNat + cnt.toNat - 1 ≤ last.toNat then
              mscContinueRead sd { s with ioLba := lba, ioBlocksLeft := cnt.toUInt32 }
            else mscFail 0x05 0x21 s) ∧
        (1 ≤ cnt.toNat → s.cbw.cb 0 = 0x2A →
          mscCmdDispatch info sd s =
            if lba.toNat + cnt.toNat - 1 ≤ last.toNat then
              mscArmWriteChunk { s with ioLba := lba, ioBlocksLeft := cnt.toUInt32 }
            else mscFail 0x05 0x21 s) ∧
        (cnt.toNat = 0 → s.cbw.cb 0 = 0x28 ∨ s.cbw.cb 0 = 0x2A →
          (mscCmdDispatch info sd s).1.csw.status = 0 ∧
            (mscCmdDispatch info sd s).2 = [.transmit .csw cswLength]) := by
  have blocks := highCapacity_blockCount fills same
  have bound := cSize_lt csd
  have last : (UInt32.ofNat info.blockCount - 1).toNat = info.blockCount - 1 := by
    rw [blocks, UInt32.toNat_sub, UInt32.toNat_ofNat']
    change (2 ^ 32 - 1 + 1024 * (cSize csd + 1) % 2 ^ 32) % 2 ^ 32 = _
    omega
  have present : 1 ≤ info.blockCount := by omega
  have read : ∀ s, s.cbw.cb 0 = 0x28 →
      mscCmdDispatch info sd s = mscDispatchIo info (mscContinueRead sd) s := by
    intro s opcode
    rw [mscCmdDispatch, opcode]
    rfl
  have write : ∀ s, s.cbw.cb 0 = 0x2A →
      mscCmdDispatch info sd s = mscDispatchIo info mscArmWriteChunk s := by
    intro s opcode
    rw [mscCmdDispatch, opcode]
    rfl
  refine ⟨UInt32.ofNat info.blockCount - 1, by rw [last, blocks], ?_, ?_, ?_⟩
  · intro s opcode asked
    exact readCapacity_reply sd opcode asked
  · intro s opcode asked small
    rw [readFormatCap_reply sd opcode asked, last, UInt32.toNat_ofNat']
    omega
  · intro s lba cnt encodes
    rw [last]
    refine ⟨?_, ?_, ?_⟩
    · intro some_blocks opcode
      rw [read s opcode, dispatchIo_range _ encodes some_blocks present]
    · intro some_blocks opcode
      rw [write s opcode, dispatchIo_range _ encodes some_blocks present]
    · intro none_ opcode
      have sent : mscCmdDispatch info sd s = mscSendCsw 0 s := by
        rcases opcode with opcode | opcode
        · rw [read s opcode, dispatchIo_none info _ encodes none_]
        · rw [write s opcode, dispatchIo_none info _ encodes none_]
      rw [sent]
      exact ⟨rfl, rfl⟩

theorem capacity_agrees_smallest :
    ∃ last : UInt32, last.toNat = 1023 ∧
      ∀ s : MscState, s.cbw.cb 0 = 0x25 → 4 ≤ s.cbw.dataLength.toNat →
        replyWord (mscCmdDispatch .smallest .ok s).1 0 = last := by
  obtain ⟨last, value, reply, _⟩ :=
    @capacity_agrees (1#128 <<< 126) 0 { blockSize := 512, deviceSize := 2 ^ 19 } .smallest
      (by decide) rfl .ok
  exact ⟨last, value, reply⟩

end Mp257Fsbl.Usb.Msc
