/-
Module: Mp257Fsbl.Usb.Msc.WriteData
Purpose: What a WRITE(10) hands to the card when its OUT transfers complete
  with less than they were armed for.
Trusted boundary: none
Main exports: Completion, ChunkStep, Fresh, FullChunks, writeRun_fresh_iff
-/
import Mp257Fsbl.Usb.Msc.BlockDevice

namespace Mp257Fsbl.Usb.Msc

open Mp257Fsbl.Foundation
open Mp257Fsbl.Sd

/-- One completed OUT transfer: the bytes the host sent in it, the outcome of
the SD call that follows and what the callback did. -/
structure Completion where
  bytes : List UInt8
  sd : SdOutcome
  actions : List Action

/-- The armed chunk completes with any number of bytes up to its length. -/
inductive ChunkStep (info : SdDevInfo) : Step Bus Completion where
  | chunk {bus : Bus} {len : UInt32} {bytes : List UInt8} {sd : SdOutcome}
      (pending : bus.outstanding = [.bulkOut .xferBuf len])
      (fits : bytes.length ≤ len.toNat) :
      ChunkStep info bus
        { bytes := bytes
          sd := sd
          actions :=
            (mscDataOut info mscEpNum (UInt32.ofNat bytes.length) sd
              (bus.dev.received .xferBuf bytes)).2 }
        (completeOut info [] .xferBuf bytes sd bus.dev)

/-- Everything that went to the card is what the host sent. -/
def Fresh (completion : Completion) : Prop :=
  ∀ lba size data success,
    .sdWrite lba size data success ∈ completion.actions → data = completion.bytes

/-- Of `left` blocks, every completion brought its whole chunk. -/
def FullChunks : Nat → List Completion → Prop
  | _, [] => True
  | left, completion :: completions =>
      completion.bytes.length = 512 * min 32 left ∧ FullChunks (left - 32) completions

/-- No OUT transfer into the data buffer is armed. -/
def Ended (bus : Bus) : Prop := ∀ len, bus.outstanding ≠ [.bulkOut .xferBuf len]

theorem ended_mscSendCsw (status : UInt8) (s : MscState) :
    Ended (.after [] (mscSendCsw status s)) := by
  simp [Ended, Bus.after, mscSendCsw]

/-- A completed chunk is handed to the card; then comes the CSW, or the next
chunk is armed. -/
theorem mscDataOut_dataOut (info : SdDevInfo) (xferCount : UInt32) (sd : SdOutcome)
    {s : MscState} (state : s.botState = .dataOut) :
    ∃ success result,
      mscDataOut info mscEpNum xferCount sd s = s.handOver success result ∧
      ((∃ status t, result = mscSendCsw status t) ∨
        ∃ t, result = mscArmWriteChunk t ∧
          t.ioBlocksLeft = s.ioBlocksLeft - s.ioChunkBlocks) := by
  cases sd with
  | fail residue =>
      exact ⟨false, _, mscDataOut_dataOut_fail state residue, .inl ⟨1, _, rfl⟩⟩
  | ok =>
      refine ⟨true, _, mscDataOut_dataOut_ok state, ?_⟩
      unfold MscState.afterChunk
      split
      · exact .inr ⟨_, rfl, rfl⟩
      · exact .inl ⟨0, _, rfl⟩

section OneChunk

variable {info : SdDevInfo} {card : Store UInt8} {lba left : Nat} {bus next : Bus}
variable {completion : Completion}

/-- The callback does not look at how much was received. -/
theorem fresh_iff_of_writing (writing : Writing card lba left bus)
    (step : ChunkStep info bus completion next) :
    Fresh completion ↔ completion.bytes.length = 512 * min 32 left := by
  cases step with
  | chunk pending fits =>
      rename_i len bytes sd
      have size := writing.size_toNat
      obtain ⟨success, result, outcome, after⟩ :=
        mscDataOut_dataOut info (UInt32.ofNat bytes.length) sd
          (s := bus.dev.received .xferBuf bytes) writing.state
      have quiet : ∀ lba size data success, .sdWrite lba size data success ∉ result.2 := by
        intro lba size data success
        rcases after with ⟨_, _, rfl⟩ | ⟨_, rfl, _⟩
        · simp [mscSendCsw]
        · simp [mscArmWriteChunk]
      have passed : (bus.dev.received .xferBuf bytes).xferBuf.window 0 (512 * min 32 left) =
          (bus.dev.xferBuf.overlay 0 bytes).window 0 (512 * min 32 left) := rfl
      simp only [Fresh, outcome, MscState.handOver, List.mem_cons, quiet, or_false,
        Action.sdWrite.injEq]
      constructor
      · intro fresh
        rw [← fresh _ _ _ _ ⟨rfl, rfl, rfl, rfl⟩, Store.window_length]
        exact size
      · rintro full _ _ _ _ ⟨rfl, rfl, rfl, rfl⟩
        change (bus.dev.xferBuf.overlay 0 bytes).window 0
          (bus.dev.ioChunkBlocks * blockBytes).toNat = bytes
        rw [size, ← full, Store.window_overlay_same]

theorem next_of_writing (writing : Writing card lba left bus)
    (step : ChunkStep info bus completion next) :
    Ended next ∨ ∃ card lba, Writing card lba (left - 32) next := by
  cases step with
  | chunk pending fits =>
      rename_i len bytes sd
      obtain ⟨success, result, outcome, after⟩ :=
        mscDataOut_dataOut info (UInt32.ofNat bytes.length) sd
          (s := bus.dev.received .xferBuf bytes) writing.state
      rw [completeOut, outcome, after_handOver]
      rcases after with ⟨status, t, rfl⟩ | ⟨t, rfl, rest⟩
      · left
        exact ended_mscSendCsw status t
      · right
        have at_left : t.ioBlocksLeft.toNat = left - 32 := by
          change _ = bus.dev.ioBlocksLeft - bus.dev.ioChunkBlocks at rest
          rw [rest, writing.rest]
          omega
        exact ⟨t.card, t.ioLba.toNat, writing_mscArmWriteChunk rfl at_left⟩

end OneChunk

theorem fullChunks_cons_iff {left : Nat} {completion : Completion}
    {completions : List Completion} :
    FullChunks left (completion :: completions) ↔
      completion.bytes.length = 512 * min 32 left ∧ FullChunks (left - 32) completions :=
  Iff.rfl

/-- The run rule: from an armed chunk, every completion is fresh exactly when
every completion is full. -/
theorem fresh_iff_fullChunks {info : SdDevInfo} {bus finish : Bus}
    {completions : List Completion} (run : Run (ChunkStep info) bus completions finish) :
    ∀ {left : Nat}, (Ended bus ∨ ∃ card lba, Writing card lba left bus) →
      ((∀ completion ∈ completions, Fresh completion) ↔ FullChunks left completions) := by
  induction run with
  | nil => simp [FullChunks]
  | cons first rest ih =>
      rintro left (ended | ⟨card, lba, writing⟩)
      · cases first with
        | chunk pending fits => exact absurd pending (ended _)
      · rw [List.forall_mem_cons, fullChunks_cons_iff, fresh_iff_of_writing writing first,
          ih (next_of_writing writing first)]

/-- Whatever state the class is in when it dispatches a WRITE(10), and however
its OUT transfers then complete, the card gets bytes of this data phase only
exactly when every completed transfer brought its whole chunk. -/
theorem writeRun_fresh_iff (info : SdDevInfo) (sd : SdOutcome) {s : MscState}
    (write10 : Scsi.ofByte (s.cbw.cb 0) = some .write10) {finish : Bus}
    {completions : List Completion}
    (run : Run (ChunkStep info) (.after [] (mscCmdDispatch info sd s)) completions finish) :
    (∀ completion ∈ completions, Fresh completion) ↔
      FullChunks s.cbw.cnt.toNat completions := by
  apply fresh_iff_fullChunks run
  simp only [mscCmdDispatch, write10, mscDispatchIo]
  split
  · exact .inl (ended_mscSendCsw 0 _)
  · split
    · exact .inl (ended_mscSendCsw 1 _)
    · exact .inr ⟨_, _, writing_mscArmWriteChunk
        (s := { s with ioLba := s.cbw.lba, ioBlocksLeft := s.cbw.cnt }) rfl rfl⟩

/-- A WRITE(10) of the first block, received while `xfer_buf` still holds what
an earlier command left there. -/
def staleWrite : MscState :=
  ({ MscState.boot (fun _ => 0) with xferBuf := fun _ => 0xEE }).received .cbw
    (firstBlock (.write10 [List.replicate blockSize 0xAB]) 0 rfl ⟨rfl, by simp⟩).packet

/-- The class after it has dispatched that command. -/
def staleBus : Bus := .after [] (mscCmdDispatch .smallest .ok staleWrite)

/-- The only transfer of that command completes with `bytes`. -/
def staleCompletion (bytes : List UInt8) : Completion where
  bytes := bytes
  sd := .ok
  actions :=
    (mscDataOut .smallest mscEpNum (UInt32.ofNat bytes.length) .ok
      (staleBus.dev.received .xferBuf bytes)).2

theorem staleRun (bytes : List UInt8) (fits : bytes.length ≤ blockSize) :
    Run (ChunkStep .smallest) staleBus [staleCompletion bytes]
      (completeOut .smallest [] .xferBuf bytes .ok staleBus.dev) := by
  have pending : staleBus.outstanding = [.bulkOut .xferBuf blockBytes] := rfl
  exact .single (.chunk pending fits)

theorem writeRun_fresh_iff_wholeBlock :
    Fresh (staleCompletion (List.replicate blockSize 0xAB)) :=
  (writeRun_fresh_iff .smallest .ok rfl
    (staleRun (List.replicate blockSize 0xAB) (by simp))).mpr
    ⟨List.length_replicate, trivial⟩ _ List.mem_cons_self

/-- A zero-length packet in the data phase sends the old buffer to the card. -/
theorem writeRun_zeroLengthPacket_stale :
    ∃ finish, Run (ChunkStep .smallest) staleBus [staleCompletion []] finish ∧
      .sdWrite 0 blockBytes (List.replicate blockSize 0xEE) true ∈
        (staleCompletion []).actions ∧
      ¬ Fresh (staleCompletion []) := by
  have buffer : staleBus.dev.xferBuf = fun _ => 0xEE := rfl
  have old : staleBus.dev.xferBuf.window 0 blockSize = List.replicate blockSize 0xEE := by
    simp [buffer, Store.window, List.map_const']
  have sent : Action.sdWrite 0 blockBytes (staleBus.dev.xferBuf.window 0 blockSize) true ∈
      (staleCompletion []).actions := List.mem_cons_self
  rw [old] at sent
  refine ⟨_, staleRun [] (by decide), sent, ?_⟩
  intro fresh
  have nothing := congrArg List.length (fresh _ _ _ _ sent)
  rw [List.length_replicate] at nothing
  exact absurd nothing (by decide)

end Mp257Fsbl.Usb.Msc
