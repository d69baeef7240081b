/-
Module: Mp257Fsbl.Usb.Msc.Bus
Purpose: The class together with the bulk transfers it has armed, and the
  completion of one of them as a step.
Trusted boundary: human-reviewed model of usb_core_receive, usb_core_transmit
  and the XFERCOMPLETE upcalls
Main exports: Transfer, Bus, Behind, MscState.delivered, BulkEvent, BulkStep, ShortWrapper
-/
import Mp257Fsbl.Foundation.Transition
import Mp257Fsbl.Usb.Msc.Class

namespace Mp257Fsbl.Usb.Msc

open Mp257Fsbl.Foundation
open Mp257Fsbl.Sd

/-- A bulk transfer given to the controller and not completed yet. -/
inductive Transfer where
  | bulkOut (buffer : Buffer) (len : UInt32)
  | bulkIn (buffer : Buffer) (len : UInt32)
deriving Repr, DecidableEq

/-- Each `usb_core_receive` and each `usb_core_transmit` arms one transfer. -/
def Action.armed : Action → Option Transfer
  | .receive buffer len => some (.bulkOut buffer len)
  | .transmit buffer len => some (.bulkIn buffer len)
  | _ => none

def armed (actions : List Action) : List Transfer := actions.filterMap Action.armed

@[simp] theorem armed_nil : armed [] = [] := rfl

@[simp] theorem armed_cons_sdRead (lba size : UInt32) (success : Bool) (rest : List Action) :
    armed (.sdRead lba size success :: rest) = armed rest := rfl

@[simp] theorem armed_cons_sdWrite (lba size : UInt32) (data : List UInt8) (success : Bool)
    (rest : List Action) : armed (.sdWrite lba size data success :: rest) = armed rest := rfl

@[simp] theorem armed_cons_receive (buffer : Buffer) (len : UInt32) (rest : List Action) :
    armed (.receive buffer len :: rest) = .bulkOut buffer len :: armed rest := rfl

@[simp] theorem armed_cons_transmit (buffer : Buffer) (len : UInt32) (rest : List Action) :
    armed (.transmit buffer len :: rest) = .bulkIn buffer len :: armed rest := rfl

@[simp] theorem armed_cons_epOpen (epAddr : UInt8) (rest : List Action) :
    armed (.epOpen epAddr :: rest) = armed rest := rfl

/-- The class and the transfers outstanding on its two bulk endpoints. -/
structure Bus where
  dev : MscState
  outstanding : List Transfer

/-- The bus after a callback that ran while `others` were outstanding. -/
def Bus.after (others : List Transfer) (result : MscState × List Action) : Bus :=
  { dev := result.1, outstanding := others ++ armed result.2 }

/-- The bytes that the controller has put into a buffer when an OUT transfer
completes, as far as the buffer goes. -/
def MscState.received (buffer : Buffer) (bytes : List UInt8) (s : MscState) : MscState :=
  match buffer with
  | .cbw => { s with cbw := s.cbw.overlay 0 (bytes.take cbwLength.toNat) }
  | .xferBuf => { s with xferBuf := s.xferBuf.overlay 0 bytes }
  | .csw => s

@[simp] theorem received_botState (buffer : Buffer) (bytes : List UInt8) (s : MscState) :
    (s.received buffer bytes).botState = s.botState := by
  cases buffer <;> rfl

/-- An OUT transfer is rounded up to whole packets by the controller driver,
so it accepts up to that many bytes. -/
def receiveLimit (len : UInt32) : Nat := (len.toNat + mscMpsHs - 1) / mscMpsHs * mscMpsHs

theorem le_receiveLimit (len : UInt32) : len.toNat ≤ receiveLimit len := by
  simp only [receiveLimit, mscMpsHs]
  omega

theorem receiveLimit_blocks {len : UInt32} {blocks : Nat} (whole : len.toNat = 512 * blocks) :
    receiveLimit len = 512 * blocks := by
  simp only [receiveLimit, mscMpsHs, whole]
  omega

/-! ### A packet longer than its buffer

The driver copies the whole packet, whatever the class has asked for. Only the
receive of a wrapper asks for less than a packet. -/

/-- The bytes that are written behind the buffer. -/
def overrun (buffer : Buffer) (bytes : List UInt8) : List UInt8 :=
  match buffer with
  | .cbw => bytes.drop cbwLength.toNat
  | .csw | .xferBuf => []

/-- The statics that the linker has placed behind `cbw`: what the class finds in
them after bytes written there, if an `MscState` can hold it. -/
structure Behind where
  write : List UInt8 → MscState → Option MscState
  write_nil : ∀ s, write [] s = some s

/-- The class as the callback of an OUT transfer finds it. -/
def MscState.delivered (behind : Behind) (buffer : Buffer) (bytes : List UInt8)
    (s : MscState) : Option MscState :=
  behind.write (overrun buffer bytes) (s.received buffer bytes)

/-- Nothing is written behind a packet that fits. -/
theorem delivered_of_fits (behind : Behind) {buffer : Buffer} {bytes : List UInt8}
    (s : MscState) (fits : buffer = .cbw → bytes.length ≤ cbwLength.toNat) :
    s.delivered behind buffer bytes = some (s.received buffer bytes) := by
  have nothing : overrun buffer bytes = [] := by
    cases buffer with
    | cbw => exact List.drop_eq_nil_of_le (fits rfl)
    | csw | xferBuf => rfl
  rw [MscState.delivered, nothing, behind.write_nil]

/-- Completion of an OUT transfer into `buffer` that brought `bytes`, no more than
the buffer holds. -/
def completeOut (info : SdDevInfo) (others : List Transfer) (buffer : Buffer)
    (bytes : List UInt8) (sd : SdOutcome) (dev : MscState) : Bus :=
  .after others
    (mscDataOut info mscEpNum (UInt32.ofNat bytes.length) sd (dev.received buffer bytes))

/-- Completion of an IN transfer. -/
def completeIn (others : List Transfer) (sd : SdOutcome) (dev : MscState) : Bus :=
  .after others (mscDataIn mscEpNum sd dev)

section InCallback

variable {s : MscState} (sd : SdOutcome)

theorem mscDataIn_more (state : s.botState = .dataIn) (more : s.ioBlocksLeft ≠ 0) :
    mscDataIn mscEpNum sd s = mscContinueRead sd s := by
  simp [mscDataIn, state, more]

theorem mscDataIn_last (state : s.botState = .dataIn) (drained : s.ioBlocksLeft = 0) :
    mscDataIn mscEpNum sd s = mscSendCsw 0 s := by
  simp [mscDataIn, state, drained]

theorem mscDataIn_csw (state : s.botState = .csw) :
    mscDataIn mscEpNum sd s = mscArmCbw s := by
  simp [mscDataIn, state]

end InCallback

theorem completeIn_more {s : MscState} (others : List Transfer) (sd : SdOutcome)
    (state : s.botState = .dataIn) (more : s.ioBlocksLeft ≠ 0) :
    completeIn others sd s = .after others (mscContinueRead sd s) := by
  rw [completeIn, mscDataIn_more sd state more]

theorem completeIn_last {s : MscState} (others : List Transfer) (sd : SdOutcome)
    (state : s.botState = .dataIn) (drained : s.ioBlocksLeft = 0) :
    completeIn others sd s = .after others (mscSendCsw 0 s) := by
  rw [completeIn, mscDataIn_last sd state drained]

theorem completeIn_csw {s : MscState} (others : List Transfer) (sd : SdOutcome)
    (state : s.botState = .csw) : completeIn others sd s = .after others (mscArmCbw s) := by
  rw [completeIn, mscDataIn_csw sd state]

/-! ### A completed chunk of a WRITE(10) -/

namespace MscState

/-- The SD call of a completed chunk, before what follows it. -/
def handOver (success : Bool) (result : MscState × List Action) (s : MscState) :
    MscState × List Action :=
  let size := s.ioChunkBlocks * blockBytes
  (result.1, .sdWrite s.ioLba size (s.xferBuf.window 0 size.toNat) success :: result.2)

/-- The class after the card has taken the chunk. -/
def chunkWritten (s : MscState) : MscState :=
  { s with
    card := (sdWrite .ok s.card s.ioLba (s.ioChunkBlocks * blockBytes) s.xferBuf).2
    ioLba := s.ioLba + s.ioChunkBlocks
    ioBlocksLeft := s.ioBlocksLeft - s.ioChunkBlocks
    mscWriteCount := s.mscWriteCount + s.ioChunkBlocks.toUInt64 }

/-- The class after the card has failed on the chunk. -/
def chunkFailed (residue : Store UInt8) (s : MscState) : MscState :=
  { s with
    card := (sdWrite (.fail residue) s.card s.ioLba (s.ioChunkBlocks * blockBytes) s.xferBuf).2 }

/-- What follows a chunk that the card has taken. -/
def afterChunk (s : MscState) : MscState × List Action :=
  if s.ioBlocksLeft ≠ 0 then mscArmWriteChunk s else mscSendCsw 0 s

end MscState

section Chunk

variable {info : SdDevInfo} {xferCount : UInt32} {s : MscState}

theorem mscDataOut_dataOut_ok (state : s.botState = .dataOut) :
    mscDataOut info mscEpNum xferCount .ok s =
      s.handOver true s.chunkWritten.afterChunk := by
  simp only [mscDataOut, ne_eq, not_true_eq_false, if_false, state]
  simp only [MscState.handOver, MscState.afterChunk, MscState.chunkWritten, ne_eq, state]
  rfl

theorem mscDataOut_dataOut_fail (state : s.botState = .dataOut) (residue : Store UInt8) :
    mscDataOut info mscEpNum xferCount (.fail residue) s =
      s.handOver false (mscFail 0x04 0x03 (s.chunkFailed residue)) := by
  simp only [mscDataOut, ne_eq, not_true_eq_false, if_false, state]
  simp only [MscState.handOver, MscState.chunkFailed, state]
  rfl

theorem afterChunk_last (drained : s.ioBlocksLeft = 0) : s.afterChunk = mscSendCsw 0 s := by
  simp [MscState.afterChunk, drained]

theorem afterChunk_more (more : s.ioBlocksLeft ≠ 0) : s.afterChunk = mscArmWriteChunk s := by
  simp [MscState.afterChunk, more]

theorem after_handOver (others : List Transfer) (success : Bool)
    (result : MscState × List Action) :
    Bus.after others (s.handOver success result) = Bus.after others result := rfl

theorem completeOut_chunk_ok (info : SdDevInfo) (bytes : List UInt8)
    (state : s.botState = .dataOut) :
    completeOut info [] .xferBuf bytes .ok s =
      .after [] (s.received .xferBuf bytes).chunkWritten.afterChunk := by
  rw [completeOut, mscDataOut_dataOut_ok (by simpa using state), after_handOver]

theorem completeOut_chunk_fail (info : SdDevInfo) (bytes : List UInt8)
    (state : s.botState = .dataOut) (residue : Store UInt8) :
    completeOut info [] .xferBuf bytes (.fail residue) s =
      .after []
        (mscFail 0x04 0x03 ((s.received .xferBuf bytes).chunkFailed residue)) := by
  rw [completeOut, mscDataOut_dataOut_fail (by simpa using state), after_handOver]

end Chunk

/-- What completes: an OUT transfer with the bytes received, or an IN
transfer; each with the outcome of the SD call its callback may make. -/
inductive BulkEvent where
  | out (bytes : List UInt8) (sd : SdOutcome)
  | in_ (sd : SdOutcome)

/-- Any outstanding transfer may complete. -/
inductive BulkStep (behind : Behind) (info : SdDevInfo) : Step Bus BulkEvent where
  | out {bus : Bus} {before after : List Transfer} {buffer : Buffer} {len : UInt32}
      {bytes : List UInt8} {sd : SdOutcome} {dev : MscState}
      (pending : bus.outstanding = before ++ .bulkOut buffer len :: after)
      (fits : bytes.length ≤ receiveLimit len)
      (delivered : bus.dev.delivered behind buffer bytes = some dev) :
      BulkStep behind info bus (.out bytes sd)
        (.after (before ++ after) (mscDataOut info mscEpNum (UInt32.ofNat bytes.length) sd dev))
  | in_ {bus : Bus} {before after : List Transfer} {buffer : Buffer} {len : UInt32}
      {sd : SdOutcome}
      (pending : bus.outstanding = before ++ .bulkIn buffer len :: after) :
      BulkStep behind info bus (.in_ sd) (completeIn (before ++ after) sd bus.dev)

/-- No packet longer than a wrapper goes into `cbw`. -/
def ShortWrapper (bus : Bus) : BulkEvent → Prop
  | .out bytes _ =>
      ∀ len, .bulkOut .cbw len ∈ bus.outstanding → bytes.length ≤ cbwLength.toNat
  | .in_ _ => True

/-- What a short packet leaves behind is what the buffer has room for. -/
theorem ShortWrapper.delivered {behind : Behind} {bus : Bus} {before after : List Transfer}
    {buffer : Buffer} {len : UInt32} {bytes : List UInt8} {sd : SdOutcome} {dev : MscState}
    (short : ShortWrapper bus (.out bytes sd))
    (pending : bus.outstanding = before ++ .bulkOut buffer len :: after)
    (delivered : bus.dev.delivered behind buffer bytes = some dev) :
    dev = bus.dev.received buffer bytes := by
  have fits : buffer = .cbw → bytes.length ≤ cbwLength.toNat := by
    rintro rfl
    exact short len (by simp [pending])
  rw [delivered_of_fits behind bus.dev fits] at delivered
  exact (Option.some.inj delivered).symm

section Alone

variable {behind : Behind} {info : SdDevInfo} {bus : Bus} {buffer : Buffer} {len : UInt32}
  {sd : SdOutcome}

theorem BulkStep.out_alone {bytes : List UInt8}
    (pending : bus.outstanding = [.bulkOut buffer len]) (fits : bytes.length ≤ receiveLimit len)
    (short : buffer = .cbw → bytes.length ≤ cbwLength.toNat) :
    BulkStep behind info bus (.out bytes sd) (completeOut info [] buffer bytes sd bus.dev) := by
  have listed : bus.outstanding = [] ++ .bulkOut buffer len :: [] := pending
  exact .out listed fits (delivered_of_fits behind bus.dev short)

theorem BulkStep.in_alone (pending : bus.outstanding = [.bulkIn buffer len]) :
    BulkStep behind info bus (.in_ sd) (completeIn [] sd bus.dev) := by
  have listed : bus.outstanding = [] ++ .bulkIn buffer len :: [] := pending
  exact .in_ listed

end Alone

end Mp257Fsbl.Usb.Msc
