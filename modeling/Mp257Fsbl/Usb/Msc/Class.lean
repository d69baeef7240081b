/-
Module: Mp257Fsbl.Usb.Msc.Class
Purpose: The mass-storage class of usb_msc.c: its static state, the SCSI
  dispatcher and the callbacks that the USB core makes.
Trusted boundary: human-reviewed model of usb_msc.c
Main exports: BotState, MscState, Action, mscCmdDispatch, mscInit, mscSetup,
  mscDataIn, mscDataOut
-/
import Mp257Fsbl.Foundation.Word
import Mp257Fsbl.Sd.Card

namespace Mp257Fsbl.Usb.Msc

open Mp257Fsbl.Foundation
open Mp257Fsbl.Sd

def mscEpIn : UInt8 := 0x81
def mscEpOut : UInt8 := 0x01
def mscEpNum : UInt8 := 1
def mscMpsHs : Nat := 512

def cbwSignature : UInt32 := 0x43425355
def cswSignature : UInt32 := 0x53425355
def cbwLength : UInt32 := 31
def cswLength : UInt32 := 13

/-- `BLOCK_SIZE`. -/
def blockBytes : UInt32 := 512

/-- `CHUNK_BYTES`: the size of `xfer_buf`. -/
def chunkBytes : UInt32 := 16 * 1024

/-- The SCSI opcodes of the source. -/
inductive Scsi where
  | testUnitReady
  | requestSense
  | inquiry
  | modeSense6
  | startStop
  | mediumRemoval
  | readFormatCap
  | readCapacity10
  | read10
  | write10
deriving Repr, DecidableEq

/-- The opcode byte as the dispatcher's `switch` reads it. -/
def Scsi.ofByte (opcode : UInt8) : Option Scsi :=
  if opcode = 0x00 then some .testUnitReady
  else if opcode = 0x03 then some .requestSense
  else if opcode = 0x12 then some .inquiry
  else if opcode = 0x1A then some .modeSense6
  else if opcode = 0x1B then some .startStop
  else if opcode = 0x1E then some .mediumRemoval
  else if opcode = 0x23 then some .readFormatCap
  else if opcode = 0x25 then some .readCapacity10
  else if opcode = 0x28 then some .read10
  else if opcode = 0x2A then some .write10
  else none

/-- `enum bot_state`. -/
inductive BotState where
  | idle
  | dataIn
  | dataOut
  | csw
deriving Repr, DecidableEq

/-! ### Wrappers

`struct bot_cbw` is packed and filled by DMA, so it is kept as its bytes and
its members are little-endian reads at their offsets. -/

abbrev Cbw := Store UInt8

/-- A little-endian word of a packed structure. -/
def le32 (bytes : Store UInt8) (offset : Nat) : UInt32 :=
  word32 (bytes (offset + 3)) (bytes (offset + 2)) (bytes (offset + 1)) (bytes offset)

namespace Cbw

def signature (cbw : Cbw) : UInt32 := le32 cbw 0
def tag (cbw : Cbw) : UInt32 := le32 cbw 4
def dataLength (cbw : Cbw) : UInt32 := le32 cbw 8
def flags (cbw : Cbw) : UInt8 := cbw 12
def cb (cbw : Cbw) (i : Nat) : UInt8 := cbw (15 + i)

/-- The logical block address of a READ(10) or WRITE(10). -/
def lba (cbw : Cbw) : UInt32 := word32 (cbw.cb 2) (cbw.cb 3) (cbw.cb 4) (cbw.cb 5)

/-- The transfer length, in blocks, of a READ(10) or WRITE(10). -/
def cnt (cbw : Cbw) : UInt32 := word16 (cbw.cb 7) (cbw.cb 8)

end Cbw

/-- `struct bot_csw`. -/
structure Csw where
  signature : UInt32
  tag : UInt32
  dataResidue : UInt32
  status : UInt8
deriving Repr, DecidableEq

/-- The bytes of a little-endian word. -/
def le32Bytes (word : UInt32) : List UInt8 :=
  [word.toUInt8, (word >>> 8).toUInt8, (word >>> 16).toUInt8, (word >>> 24).toUInt8]

/-- The thirteen bytes of the packed structure. -/
def Csw.bytes (csw : Csw) : List UInt8 :=
  le32Bytes csw.signature ++ le32Bytes csw.tag ++ le32Bytes csw.dataResidue ++ [csw.status]

/-! ### State and actions -/

/-- The statics of usb_msc.c, and the card behind `sd_read` and `sd_write`. -/
structure MscState where
  botState : BotState
  cbw : Cbw
  csw : Csw
  xferBuf : Store UInt8
  ioLba : UInt32
  ioBlocksLeft : UInt32
  ioChunkBlocks : UInt32
  senseKey : UInt8
  senseAsc : UInt8
  mscReadCount : UInt64
  mscWriteCount : UInt64
  mscSetupCount : UInt64
  mscInitCount : UInt64
  card : Store UInt8

/-- The statics as the loader leaves them, with `card` in the slot. -/
def MscState.boot (card : Store UInt8) : MscState where
  botState := .idle
  cbw := fun _ => 0
  csw := { signature := 0, tag := 0, dataResidue := 0, status := 0 }
  xferBuf := fun _ => 0
  ioLba := 0
  ioBlocksLeft := 0
  ioChunkBlocks := 0
  senseKey := 0
  senseAsc := 0
  mscReadCount := 0
  mscWriteCount := 0
  mscSetupCount := 0
  mscInitCount := 0
  card := card

/-- The three buffers that bulk transfers use. -/
inductive Buffer where
  | cbw
  | csw
  | xferBuf
deriving Repr, DecidableEq

/-- What a callback does outside its own state, in the order of the calls. -/
inductive Action where
  | sdRead (lba size : UInt32) (success : Bool)
  | sdWrite (lba size : UInt32) (data : List UInt8) (success : Bool)
  /-- `usb_core_receive` on `MSC_EP_OUT`. -/
  | receive (buffer : Buffer) (len : UInt32)
  /-- `usb_core_transmit` on `MSC_EP_IN`. -/
  | transmit (buffer : Buffer) (len : UInt32)
  | transmitEp0 (data : List UInt8)
  | ctlError
  | epOpen (epAddr : UInt8)
deriving Repr, DecidableEq

/-! ### Helpers of the command state machine -/

def mscArmCbw (s : MscState) : MscState × List Action :=
  ({ s with botState := .idle }, [.receive .cbw cbwLength])

def mscSendCsw (status : UInt8) (s : MscState) : MscState × List Action :=
  ({ s with
      csw :=
        { signature := cswSignature, tag := s.cbw.tag, dataResidue := 0, status := status }
      botState := .csw },
    [.transmit .csw cswLength])

def mscFail (key asc : UInt8) (s : MscState) : MscState × List Action :=
  mscSendCsw 1 { s with senseKey := key, senseAsc := asc }

/-- Send a data-in reply capped to the host-requested length, then a CSW. -/
def mscSendData (data : List UInt8) (s : MscState) : MscState × List Action :=
  let whole := UInt32.ofNat data.length
  let len := if whole > s.cbw.dataLength then s.cbw.dataLength else whole
  ({ s with
      xferBuf := s.xferBuf.overlay 0 (data.take len.toNat)
      botState := .dataIn
      ioBlocksLeft := 0 },
    [.transmit .xferBuf len])

/-- The blocks of the next chunk: what is left, up to a full `xfer_buf`. -/
def nextChunk (blocksLeft : UInt32) : UInt32 :=
  if blocksLeft > chunkBytes / blockBytes then chunkBytes / blockBytes else blocksLeft

theorem nextChunk_toNat (blocksLeft : UInt32) :
    (nextChunk blocksLeft).toNat = min 32 blocksLeft.toNat := by
  have full : (chunkBytes / blockBytes).toNat = 32 := by decide
  simp only [nextChunk, gt_iff_lt, UInt32.lt_iff_toNat_lt, full]
  split <;> omega

/-- The byte length of a chunk of at most 32 blocks does not wrap. -/
theorem mul_blockBytes_toNat {blocks : UInt32} (fits : blocks.toNat ≤ 32) :
    (blocks * blockBytes).toNat = 512 * blocks.toNat := by
  have block : blockBytes.toNat = 512 := by decide
  rw [UInt32.toNat_mul, block]
  omega

theorem nextChunk_size_toNat (blocksLeft : UInt32) :
    (nextChunk blocksLeft * blockBytes).toNat = 512 * min 32 blocksLeft.toNat := by
  rw [mul_blockBytes_toNat (by rw [nextChunk_toNat]; omega), nextChunk_toNat]

/-- What is left after the next chunk. -/
theorem sub_nextChunk_toNat (blocksLeft : UInt32) :
    (blocksLeft - nextChunk blocksLeft).toNat = blocksLeft.toNat - min 32 blocksLeft.toNat := by
  have chunk := nextChunk_toNat blocksLeft
  rw [UInt32.toNat_sub_of_le _ _ (by rw [UInt32.le_iff_toNat_le, chunk]; omega), chunk]

def mscContinueRead (sd : SdOutcome) (s : MscState) : MscState × List Action :=
  let blocks := nextChunk s.ioBlocksLeft
  let size := blocks * blockBytes
  match sdRead sd s.card s.ioLba size s.xferBuf with
  | (false, buffer) =>
      -- hardware error, unrecovered read
      let failed := mscFail 0x04 0x11 { s with xferBuf := buffer }
      (failed.1, .sdRead s.ioLba size false :: failed.2)
  | (true, buffer) =>
      ({ s with
          xferBuf := buffer
          ioLba := s.ioLba + blocks
          ioBlocksLeft := s.ioBlocksLeft - blocks
          ioChunkBlocks := blocks
          mscReadCount := s.mscReadCount + blocks.toUInt64
          botState := .dataIn },
        [.sdRead s.ioLba size true, .transmit .xferBuf size])

def mscArmWriteChunk (s : MscState) : MscState × List Action :=
  let blocks := nextChunk s.ioBlocksLeft
  ({ s with ioChunkBlocks := blocks, botState := .dataOut },
    [.receive .xferBuf (blocks * blockBytes)])

/-! ### Replies -/

/-- The big-endian bytes of a word. -/
def be32Bytes (word : UInt32) : List UInt8 :=
  [(word >>> 24).toUInt8, (word >>> 16).toUInt8, (word >>> 8).toUInt8, word.toUInt8]

def inq : List UInt8 :=
  [0x00, 0x80, 0x02, 0x02, 31, 0, 0, 0] ++
    ['S', 'T', 'M', '3', '2', 'M', 'P', '2',
      'F', 'S', 'B', 'L', ' ', 'S', 'D', ' ',
      'c', 'a', 'r', 'd', ' ', ' ', ' ', ' ',
      '1', '.', '0', ' '].map Char.toUInt8

def cap (info : SdDevInfo) : List UInt8 :=
  be32Bytes (UInt32.ofNat info.blockCount - 1) ++
    ([0, 0, (blockBytes >>> 8).toUInt8, 0] : List UInt8)

def fmt (info : SdDevInfo) : List UInt8 :=
  ([0, 0, 0, 8] : List UInt8) ++ be32Bytes (UInt32.ofNat info.blockCount) ++
    ([0x02, 0, (blockBytes >>> 8).toUInt8, 0] : List UInt8)

def sense6 : List UInt8 := [3, 0, 0, 0]

def sns (senseKey senseAsc : UInt8) : List UInt8 :=
  [0x70, 0, senseKey, 0, 0, 0, 0, 10, 0, 0, 0, 0, senseAsc, 0, 0, 0, 0, 0]

theorem sns_length (key asc : UInt8) : (sns key asc).length < 512 := by simp [sns]

theorem cap_length (info : SdDevInfo) : (cap info).length < 512 := by
  simp [cap, be32Bytes]

theorem fmt_length (info : SdDevInfo) : (fmt info).length < 512 := by
  simp [fmt, be32Bytes]

/-! ### Dispatcher -/

/-- The common body of the READ(10) and WRITE(10) cases; `start` is the branch
taken on the opcode at its end. -/
def mscDispatchIo (info : SdDevInfo) (start : MscState → MscState × List Action) (s : MscState) :
    MscState × List Action :=
  if s.cbw.cnt = 0 then mscSendCsw 0 s
  else if s.cbw.lba.toNat + s.cbw.cnt.toNat > info.blockCount then
    mscFail 0x05 0x21 s -- illegal request, LBA out of range
  else start { s with ioLba := s.cbw.lba, ioBlocksLeft := s.cbw.cnt }

def mscCmdDispatch (info : SdDevInfo) (sd : SdOutcome) (s : MscState) : MscState × List Action :=
  match Scsi.ofByte (s.cbw.cb 0) with
  | some .testUnitReady | some .startStop | some .mediumRemoval => mscSendCsw 0 s
  | some .inquiry => mscSendData inq s
  | some .readCapacity10 => mscSendData (cap info) s
  | some .readFormatCap => mscSendData (fmt info) s
  | some .modeSense6 => mscSendData sense6 s
  | some .requestSense =>
      mscSendData (sns s.senseKey s.senseAsc) { s with senseKey := 0, senseAsc := 0 }
  | some .read10 => mscDispatchIo info (mscContinueRead sd) s
  | some .write10 => mscDispatchIo info mscArmWriteChunk s
  | none => mscFail 0x05 0x20 s -- illegal request, invalid opcode

/-! ### Class callbacks

Each makes at most one SD call; its outcome is the argument `sd`. -/

def mscInit (s : MscState) : MscState × List Action :=
  let armed := mscArmCbw { s with mscInitCount := s.mscInitCount + 1 }
  (armed.1, [.epOpen mscEpOut, .epOpen mscEpIn] ++ armed.2)

def mscDeInit (s : MscState) : MscState × List Action := (s, [])

/-- The two bytes of `struct usb_setup_req` that the class reads. -/
structure SetupReq where
  bmRequest : UInt8
  bRequest : UInt8
deriving Repr, DecidableEq

def mscSetup (req : SetupReq) (s : MscState) : MscState × List Action :=
  let s := { s with mscSetupCount := s.mscSetupCount + 1 }
  if req.bmRequest &&& 0x60 = 0x20 then
    if req.bRequest = 0xFE then (s, [.transmitEp0 [0]]) -- GET MAX LUN
    else if req.bRequest = 0xFF then mscArmCbw s -- BOT reset
    else (s, [.ctlError])
  else (s, [.ctlError])

def mscDataIn (epnum : UInt8) (sd : SdOutcome) (s : MscState) : MscState × List Action :=
  if epnum ≠ mscEpNum then (s, [])
  else
    match s.botState with
    | .dataIn => if s.ioBlocksLeft ≠ 0 then mscContinueRead sd s else mscSendCsw 0 s
    | .csw => mscArmCbw s
    | .idle | .dataOut => (s, [])

/-- `xferCount` is `out_ep[MSC_EP_NUM].xfer_count` when the callback runs. -/
def mscDataOut (info : SdDevInfo) (epnum : UInt8) (xferCount : UInt32) (sd : SdOutcome)
    (s : MscState) : MscState × List Action :=
  if epnum ≠ mscEpNum then (s, [])
  else
    match s.botState with
    | .idle =>
        if xferCount = cbwLength ∧ s.cbw.signature = cbwSignature then mscCmdDispatch info sd s
        else mscFail 0x05 0x24 s -- invalid CBW
    | .dataOut =>
        let size := s.ioChunkBlocks * blockBytes
        let data := s.xferBuf.window 0 size.toNat
        match sdWrite sd s.card s.ioLba size s.xferBuf with
        | (false, card) =>
            -- hardware error, write fault
            let failed := mscFail 0x04 0x03 { s with card := card }
            (failed.1, .sdWrite s.ioLba size data false :: failed.2)
        | (true, card) =>
            let written :=
              { s with
                card := card
                ioLba := s.ioLba + s.ioChunkBlocks
                ioBlocksLeft := s.ioBlocksLeft - s.ioChunkBlocks
                mscWriteCount := s.mscWriteCount + s.ioChunkBlocks.toUInt64 }
            let next :=
              if written.ioBlocksLeft ≠ 0 then mscArmWriteChunk written
              else mscSendCsw 0 written
            (next.1, .sdWrite s.ioLba size data true :: next.2)
    | .dataIn | .csw => (s, [])

end Mp257Fsbl.Usb.Msc
