/-
Module: Mp257Fsbl.Usb.Msc.InPhase
Purpose: When host and device stay in phase, and which failures part them.
Trusted boundary: none
Main exports: Refused, Keeps, Aligned, aligned_step, inPhase_step_iff,
  transportRun_inPhase
-/
import Mp257Fsbl.Usb.Msc.Transport
import Mp257Fsbl.Usb.Msc.Wire

namespace Mp257Fsbl.Usb.Msc

open Mp257Fsbl.Foundation
open Mp257Fsbl.Sd

/-! ### The failures that skip a data phase -/

/-- The dispatcher goes to the CSW while the host expects data, or sends an
empty reply that the host does not expect. -/
def Cbw.Refused (info : SdDevInfo) (sd : SdOutcome) (cbw : Cbw) : Prop :=
  match Scsi.ofByte (cbw.cb 0) with
  | some .testUnitReady | some .startStop | some .mediumRemoval => False
  | some .inquiry | some .requestSense | some .modeSense6 | some .readFormatCap
  | some .readCapacity10 => cbw.dataLength = 0
  | some .read10 =>
      cbw.cnt ≠ 0 ∧ (info.blockCount < cbw.lba.toNat + cbw.cnt.toNat ∨ sd ≠ .ok)
  | some .write10 => cbw.cnt ≠ 0 ∧ info.blockCount < cbw.lba.toNat + cbw.cnt.toNat
  | none => cbw.dataLength ≠ 0

/-- The packet completes the chunk, and more blocks are to come after it. -/
def Transport.MidCommand (packet : List UInt8) (blocksAfter : Nat) (t : Transport) : Prop :=
  512 * t.bus.dev.ioChunkBlocks.toNat ≤ t.moved.length + packet.length ∧ blocksAfter ≠ 0

/-- The steps that keep host and device together: the command is not refused,
and no SD call fails in the middle of its data phase. -/
def Keeps (info : SdDevInfo) (t : Transport) : TransportEvent → Prop
  | .command wrapper sd => ¬ wrapper.cbw.Refused info sd
  | .outData packet sd =>
      t.MidCommand packet (t.bus.dev.ioBlocksLeft.toNat - t.bus.dev.ioChunkBlocks.toNat) →
        sd = .ok
  | .inData packet sd => t.MidCommand packet t.bus.dev.ioBlocksLeft.toNat → sd = .ok
  | .status _ _ => True

/-! ### Alignment

The invariant counts the bytes: what the host still wants to move is what the
outstanding transfer and the blocks after it still have to move. -/

structure AwaitingChunk (tag : UInt32) (left : Nat) (t : Transport) : Prop where
  state : t.bus.dev.botState = .dataOut
  tag_eq : t.bus.dev.cbw.tag = tag
  chunk : t.bus.dev.ioChunkBlocks = nextChunk t.bus.dev.ioBlocksLeft
  armed : ∃ len, t.bus.outstanding = [.bulkOut .xferBuf len] ∧
    len.toNat = 512 * min 32 t.bus.dev.ioBlocksLeft.toNat
  partWay : t.moved.length < 512 * min 32 t.bus.dev.ioBlocksLeft.toNat
  whole : t.moved.length % 512 = 0
  counted : left + t.moved.length = 512 * t.bus.dev.ioBlocksLeft.toNat

structure SendingChunk (tag : UInt32) (left : Nat) (t : Transport) : Prop where
  state : t.bus.dev.botState = .dataIn
  tag_eq : t.bus.dev.cbw.tag = tag
  armed : ∃ len, t.bus.outstanding = [.bulkIn .xferBuf len] ∧
    len.toNat = 512 * t.bus.dev.ioChunkBlocks.toNat
  partWay : t.moved.length < 512 * t.bus.dev.ioChunkBlocks.toNat
  whole : t.moved.length % 512 = 0
  counted : left + t.moved.length =
    512 * t.bus.dev.ioChunkBlocks.toNat + 512 * t.bus.dev.ioBlocksLeft.toNat

/-- A reply is one short packet. -/
structure SendingReply (tag : UInt32) (t : Transport) : Prop where
  state : t.bus.dev.botState = .dataIn
  tag_eq : t.bus.dev.cbw.tag = tag
  armed : ∃ len, t.bus.outstanding = [.bulkIn .xferBuf len] ∧ len.toNat < 512
  untouched : t.moved = []
  nothingLeft : t.bus.dev.ioBlocksLeft = 0

def Aligned (t : Transport) : Prop :=
  match t.host with
  | .ready | .status _ => InPhase t
  | .dataOut tag left => AwaitingChunk tag left t
  | .dataIn tag left => SendingChunk tag left t ∨ SendingReply tag t

theorem Aligned.inPhase {t : Transport} (aligned : Aligned t) : InPhase t := by
  unfold Aligned at aligned
  unfold InPhase
  split at aligned
  · rename_i phase
    simpa [InPhase, phase] using aligned
  · rename_i phase
    simpa [InPhase, phase] using aligned
  · rename_i phase
    rcases aligned.armed with ⟨len, armed, _⟩
    simp only [phase]
    exact ⟨aligned.state, len, armed⟩
  · rename_i phase
    simp only [phase]
    rcases aligned with chunk | reply
    · rcases chunk.armed with ⟨len, armed, _⟩
      exact ⟨chunk.state, len, armed⟩
    · rcases reply.armed with ⟨len, armed, _⟩
      exact ⟨reply.state, len, armed⟩

/-! ### Where each helper leaves the pair -/

section Helpers

variable {s : MscState}

/-- The pair after a callback, with the host in `host`. -/
def entering (host : HostPhase) (result : MscState × List Action) : Transport :=
  { bus := .after [] result, moved := [], host := host }

theorem aligned_mscArmCbw (s : MscState) : Aligned (entering .ready (mscArmCbw s)) :=
  ⟨rfl, rfl, rfl⟩

theorem aligned_mscSendCsw (status : UInt8) (s : MscState) :
    Aligned (entering (.status s.cbw.tag) (mscSendCsw status s)) :=
  ⟨rfl, rfl, rfl, rfl, rfl⟩

theorem aligned_mscArmWriteChunk {left : Nat} (some_left : s.ioBlocksLeft ≠ 0)
    (counted : left = 512 * s.ioBlocksLeft.toNat) :
    Aligned (entering (.dataOut s.cbw.tag left) (mscArmWriteChunk s)) := by
  have positive : s.ioBlocksLeft.toNat ≠ 0 := fun zero => some_left (UInt32.toNat.inj zero)
  refine ⟨rfl, rfl, rfl, ⟨_, rfl, nextChunk_size_toNat s.ioBlocksLeft⟩, ?_, rfl, ?_⟩
  · change 0 < 512 * min 32 s.ioBlocksLeft.toNat
    omega
  · exact counted

theorem aligned_mscContinueRead {left : Nat} (some_left : s.ioBlocksLeft ≠ 0)
    (counted : left = 512 * s.ioBlocksLeft.toNat) :
    Aligned (entering (.dataIn s.cbw.tag left) (mscContinueRead .ok s)) := by
  have positive : s.ioBlocksLeft.toNat ≠ 0 := fun zero => some_left (UInt32.toNat.inj zero)
  have chunk := nextChunk_toNat s.ioBlocksLeft
  have size := nextChunk_size_toNat s.ioBlocksLeft
  refine .inl ⟨rfl, rfl, ⟨_, rfl, ?_⟩, ?_, rfl, ?_⟩
  · change _ = 512 * (nextChunk s.ioBlocksLeft).toNat
    rw [size, chunk]
  · change 0 < 512 * (nextChunk s.ioBlocksLeft).toNat
    omega
  · change left + 0 = 512 * (nextChunk s.ioBlocksLeft).toNat +
      512 * (s.ioBlocksLeft - nextChunk s.ioBlocksLeft).toNat
    rw [sub_nextChunk_toNat, chunk]
    omega

theorem aligned_mscSendData {data : List UInt8} {left : Nat} (short : data.length < 512) :
    Aligned (entering (.dataIn s.cbw.tag left) (mscSendData data s)) := by
  refine .inr ⟨rfl, rfl, ⟨_, rfl, ?_⟩, rfl, rfl⟩
  have whole : (UInt32.ofNat data.length).toNat = data.length := by
    rw [UInt32.toNat_ofNat']
    omega
  split
  · rename_i longer
    rw [gt_iff_lt, UInt32.lt_iff_toNat_lt] at longer
    omega
  · omega

end Helpers

/-! ### The dispatcher -/

section Dispatch

variable {info : SdDevInfo} {sd : SdOutcome} {s : MscState}

theorem phase_of_nothing (nothing : s.cbw.dataLength = 0) :
    s.cbw.phase = .status s.cbw.tag := by
  simp [Cbw.phase, nothing]

theorem phase_of_in (some_data : s.cbw.dataLength ≠ 0) (direction : s.cbw.DeviceToHost) :
    s.cbw.phase = .dataIn s.cbw.tag s.cbw.dataLength.toNat := by
  simp [Cbw.phase, some_data, direction]

theorem phase_of_out (some_data : s.cbw.dataLength ≠ 0) (direction : ¬ s.cbw.DeviceToHost) :
    s.cbw.phase = .dataOut s.cbw.tag s.cbw.dataLength.toNat := by
  simp [Cbw.phase, some_data, direction]

theorem dataLength_eq_zero_iff (counted : s.cbw.dataLength.toNat = 512 * s.cbw.cnt.toNat) :
    s.cbw.dataLength = 0 ↔ s.cbw.cnt = 0 := by
  rw [← UInt32.toNat_inj, ← UInt32.toNat_inj, counted]
  simp

theorem aligned_noData (nothing : s.cbw.dataLength = 0) (status : UInt8) :
    Aligned (entering s.cbw.phase (mscSendCsw status s)) := by
  rw [phase_of_nothing nothing]
  exact aligned_mscSendCsw status s

theorem aligned_reply (direction : s.cbw.DeviceToHost) (some_data : s.cbw.dataLength ≠ 0)
    {data : List UInt8} (short : data.length < 512) :
    Aligned (entering s.cbw.phase (mscSendData data s)) := by
  rw [phase_of_in some_data direction]
  exact aligned_mscSendData short

/-- The two block commands, inside the card. -/
theorem aligned_dispatchIo {start : MscState → MscState × List Action}
    (counted : s.cbw.dataLength.toNat = 512 * s.cbw.cnt.toNat)
    (inRange : s.cbw.cnt ≠ 0 → s.cbw.lba.toNat + s.cbw.cnt.toNat ≤ info.blockCount)
    (started : s.cbw.cnt ≠ 0 →
      Aligned (entering s.cbw.phase
        (start { s with ioLba := s.cbw.lba, ioBlocksLeft := s.cbw.cnt }))) :
    Aligned (entering s.cbw.phase (mscDispatchIo info start s)) := by
  unfold mscDispatchIo
  split
  · rename_i none_
    exact aligned_noData ((dataLength_eq_zero_iff counted).mpr none_) 0
  · rename_i some_blocks
    rw [if_neg (Nat.not_lt.mpr (inRange some_blocks))]
    exact started some_blocks

/-- A command that is not refused leaves host and device at the same place. -/
theorem aligned_dispatch (agrees : s.cbw.Agrees) (kept : ¬ s.cbw.Refused info sd) :
    Aligned (entering s.cbw.phase (mscCmdDispatch info sd s)) := by
  unfold Cbw.Agrees at agrees
  unfold Cbw.Refused at kept
  unfold mscCmdDispatch
  cases opcode : Scsi.ofByte (s.cbw.cb 0) with
  | none =>
      simp only [opcode, ne_eq, not_not] at kept
      exact aligned_noData (s := { s with senseKey := 0x05, senseAsc := 0x20 }) kept 1
  | some command =>
      simp only [opcode] at agrees kept
      cases command with
      | testUnitReady => exact aligned_noData agrees 0
      | startStop => exact aligned_noData agrees 0
      | mediumRemoval => exact aligned_noData agrees 0
      | inquiry => exact aligned_reply agrees kept (by decide)
      | readCapacity10 => exact aligned_reply agrees kept (cap_length info)
      | readFormatCap => exact aligned_reply agrees kept (fmt_length info)
      | modeSense6 => exact aligned_reply agrees kept (by decide)
      | requestSense =>
          exact aligned_reply (s := { s with senseKey := 0, senseAsc := 0 }) agrees kept
            (sns_length _ _)
      | read10 =>
          rcases agrees with ⟨counted, direction⟩
          refine aligned_dispatchIo counted (by grind) ?_
          intro some_blocks
          have success : sd = .ok := by grind
          subst success
          rw [phase_of_in (by rwa [Ne, dataLength_eq_zero_iff counted]) direction]
          exact aligned_mscContinueRead
            (s := { s with ioLba := s.cbw.lba, ioBlocksLeft := s.cbw.cnt }) some_blocks counted
      | write10 =>
          rcases agrees with ⟨counted, direction⟩
          refine aligned_dispatchIo counted (by grind) ?_
          intro some_blocks
          rw [phase_of_out (by rwa [Ne, dataLength_eq_zero_iff counted]) direction]
          exact aligned_mscArmWriteChunk
            (s := { s with ioLba := s.cbw.lba, ioBlocksLeft := s.cbw.cnt }) some_blocks counted

/-- A device at its CSW is out of phase with a host that still moves data. -/
theorem outOfPhase_of_csw {t : Transport} {tag : UInt32} {left : Nat}
    (state : t.bus.dev.botState = .csw)
    (moving : t.host = .dataIn tag left ∨ t.host = .dataOut tag left) : ¬ InPhase t := by
  unfold InPhase
  rcases moving with host | host
  all_goals
    rw [host]
    simp [state]

theorem phase_moving (some_data : s.cbw.dataLength ≠ 0) :
    s.cbw.phase = .dataIn s.cbw.tag s.cbw.dataLength.toNat ∨
      s.cbw.phase = .dataOut s.cbw.tag s.cbw.dataLength.toNat := by
  by_cases direction : s.cbw.DeviceToHost
  · exact .inl (phase_of_in some_data direction)
  · exact .inr (phase_of_out some_data direction)

/-- An empty reply is out of phase with a host that wants the status. -/
theorem outOfPhase_reply (nothing : s.cbw.dataLength = 0) (data : List UInt8) :
    ¬ InPhase (entering s.cbw.phase (mscSendData data s)) := by
  rw [phase_of_nothing nothing]
  simp [InPhase, entering, Bus.after, mscSendData]

theorem state_mscDispatchIo_of_outOfRange {start : MscState → MscState × List Action}
    (some_blocks : s.cbw.cnt ≠ 0)
    (outOfRange : info.blockCount < s.cbw.lba.toNat + s.cbw.cnt.toNat) :
    (mscDispatchIo info start s).1.botState = .csw := by
  rw [mscDispatchIo, if_neg some_blocks, if_pos outOfRange]
  rfl

theorem state_mscContinueRead_of_fail (failed : sd ≠ .ok) :
    (mscContinueRead sd s).1.botState = .csw := by
  cases sd with
  | ok => exact absurd rfl failed
  | fail residue => rfl

/-- A refused command leaves them apart. -/
theorem outOfPhase_dispatch (agrees : s.cbw.Agrees) (refused : s.cbw.Refused info sd) :
    ¬ InPhase (entering s.cbw.phase (mscCmdDispatch info sd s)) := by
  unfold Cbw.Agrees at agrees
  unfold Cbw.Refused at refused
  unfold mscCmdDispatch
  cases opcode : Scsi.ofByte (s.cbw.cb 0) with
  | none =>
      simp only [opcode] at refused
      exact outOfPhase_of_csw rfl (phase_moving refused)
  | some command =>
      simp only [opcode] at agrees refused
      cases command with
      | testUnitReady => exact refused.elim
      | startStop => exact refused.elim
      | mediumRemoval => exact refused.elim
      | inquiry => exact outOfPhase_reply refused inq
      | readCapacity10 => exact outOfPhase_reply refused (cap info)
      | readFormatCap => exact outOfPhase_reply refused (fmt info)
      | modeSense6 => exact outOfPhase_reply refused sense6
      | requestSense =>
          exact outOfPhase_reply (s := { s with senseKey := 0, senseAsc := 0 }) refused _
      | read10 =>
          rcases agrees with ⟨counted, direction⟩
          rcases refused with ⟨some_blocks, failure⟩
          have some_data : s.cbw.dataLength ≠ 0 := by rwa [Ne, dataLength_eq_zero_iff counted]
          refine outOfPhase_of_csw ?_ (phase_moving some_data)
          by_cases outOfRange : info.blockCount < s.cbw.lba.toNat + s.cbw.cnt.toNat
          · exact state_mscDispatchIo_of_outOfRange some_blocks outOfRange
          · change (mscDispatchIo info (mscContinueRead sd) s).1.botState = .csw
            rw [mscDispatchIo, if_neg some_blocks, if_neg outOfRange]
            exact state_mscContinueRead_of_fail (failure.resolve_left outOfRange)
      | write10 =>
          rcases agrees with ⟨counted, direction⟩
          rcases refused with ⟨some_blocks, outOfRange⟩
          have some_data : s.cbw.dataLength ≠ 0 := by rwa [Ne, dataLength_eq_zero_iff counted]
          exact outOfPhase_of_csw (state_mscDispatchIo_of_outOfRange some_blocks outOfRange)
            (phase_moving some_data)

end Dispatch

/-! ### The wrapper on the wire -/

section OnTheWire

variable (wrapper : Wrapper) (s : MscState)

theorem packet_eq_wire : wrapper.packet = wrapper.cbw.wire := rfl

theorem direction_received (cbw : Cbw) :
    (s.received .cbw cbw.wire).cbw.DeviceToHost ↔ cbw.DeviceToHost := by
  unfold Cbw.DeviceToHost Cbw.flags
  rw [received_wire cbw s (by omega)]

theorem phase_received :
    (s.received .cbw wrapper.packet).cbw.phase = wrapper.cbw.phase := by
  simp only [Cbw.phase, packet_eq_wire, direction_received, dataLength_received, tag_received]

theorem agrees_received : (s.received .cbw wrapper.packet).cbw.Agrees := by
  have agrees := wrapper.agrees
  simp only [Cbw.Agrees] at agrees ⊢
  rw [packet_eq_wire, direction_received, cb_received wrapper.cbw s (by omega), cnt_received,
    dataLength_received]
  exact agrees

theorem refused_received (info : SdDevInfo) (sd : SdOutcome) :
    (s.received .cbw wrapper.packet).cbw.Refused info sd ↔ wrapper.cbw.Refused info sd := by
  unfold Cbw.Refused
  rw [packet_eq_wire, cb_received wrapper.cbw s (by omega), cnt_received, lba_received,
    dataLength_received]

end OnTheWire

/-! ### One packet -/

section Steps

variable {info : SdDevInfo} {t next : Transport} {sd : SdOutcome} {packet : List UInt8}
variable {tag : UInt32} {left : Nat}

/-- A wrapper sent to a device that awaits one is dispatched. -/
theorem outPacket_wrapper (inPhase : InPhase t) (ready : t.host = .ready) (wrapper : Wrapper)
    (host : HostPhase) :
    t.outPacket info wrapper.packet sd host =
      some (entering host
        (mscCmdDispatch info sd (t.bus.dev.received .cbw wrapper.packet))) := by
  simp only [InPhase, ready] at inPhase
  rcases inPhase with ⟨state, waiting, untouched⟩
  have short : wrapper.packet.length < mscMpsHs := by
    rw [packet_eq_wire, wire_length]
    decide
  rw [packet_eq_wire] at short ⊢
  simp only [Transport.outPacket, waiting, untouched, List.nil_append, short, true_or, if_true,
    entering, completeOut_wire info [] sd wrapper.signed state]

theorem afterOut_last {size : Nat} (last : left ≤ size) :
    HostPhase.afterOut tag left size = .status tag := if_pos last

theorem afterOut_more {size : Nat} (more : size < left) :
    HostPhase.afterOut tag left size = .dataOut tag (left - size) :=
  if_neg (Nat.not_le.mpr more)

/-- After a stored chunk the host is at the next one, or at the status. -/
theorem aligned_afterChunk {s : MscState} {size : Nat}
    (counted : left = 512 * s.ioBlocksLeft.toNat + size) :
    Aligned (entering (.afterOut s.cbw.tag left size) s.afterChunk) := by
  by_cases drained : s.ioBlocksLeft = 0
  · rw [drained, UInt32.toNat_zero] at counted
    rw [afterChunk_last drained, afterOut_last (by omega)]
    exact aligned_mscSendCsw 0 s
  · have positive : s.ioBlocksLeft.toNat ≠ 0 := fun zero => drained (UInt32.toNat.inj zero)
    rw [afterChunk_more drained, afterOut_more (by omega)]
    exact aligned_mscArmWriteChunk drained (by omega)

/-- An OUT packet to an awaited chunk: a failing SD call parts the pair exactly
when more blocks were to come. -/
theorem outData_of_awaitingChunk (awaiting : AwaitingChunk tag left t)
    (size : packet.length = min mscMpsHs left)
    (moved : t.outPacket info packet sd (.afterOut tag left packet.length) = some next) :
    (Keeps info t (.outData packet sd) → Aligned next) ∧
      (¬ Keeps info t (.outData packet sd) → ¬ InPhase next) := by
  rcases awaiting.armed with ⟨len, armed, armed_len⟩
  have partWay := awaiting.partWay
  have counted := awaiting.counted
  have whole := awaiting.whole
  have full : packet.length = 512 := by
    rw [size, mscMpsHs]
    omega
  have chunk : t.bus.dev.ioChunkBlocks.toNat = min 32 t.bus.dev.ioBlocksLeft.toNat := by
    rw [awaiting.chunk, nextChunk_toNat]
  have rest : (t.bus.dev.ioBlocksLeft - t.bus.dev.ioChunkBlocks).toNat =
      t.bus.dev.ioBlocksLeft.toNat - min 32 t.bus.dev.ioBlocksLeft.toNat := by
    rw [awaiting.chunk, sub_nextChunk_toNat]
  have notShort : ¬ packet.length < mscMpsHs := by
    rw [full]
    decide
  have length : (t.moved ++ packet).length = t.moved.length + 512 := by
    rw [List.length_append, full]
  simp only [Transport.outPacket, armed, notShort, false_or, receiveLimit_blocks armed_len,
    length] at moved
  simp only [Keeps, Transport.MidCommand, full]
  split at moved
  · rename_i ends
    have finished : 512 * t.bus.dev.ioChunkBlocks.toNat ≤ t.moved.length + 512 := by omega
    simp only [Option.some.injEq] at moved
    subst moved
    have leftAfter : left = 512 * (t.bus.dev.ioBlocksLeft - t.bus.dev.ioChunkBlocks).toNat +
        packet.length := by omega
    cases sd with
    | ok =>
        rw [completeOut_chunk_ok info _ awaiting.state, ← awaiting.tag_eq]
        refine ⟨fun _ => ?_, by simp⟩
        exact aligned_afterChunk
          (s := (t.bus.dev.received .xferBuf (t.moved ++ packet)).chunkWritten) leftAfter
    | fail residue =>
        rw [completeOut_chunk_fail info _ awaiting.state residue, ← awaiting.tag_eq]
        simp only [finished, true_and, reduceCtorEq, imp_false, not_not]
        constructor
        · intro none_after
          rw [afterOut_last (by omega)]
          exact aligned_mscSendCsw 1 _
        · intro some_after
          refine outOfPhase_of_csw rfl (.inr (afterOut_more ?_))
          omega
  · rename_i goes_on
    have unfinished : ¬ 512 * t.bus.dev.ioChunkBlocks.toNat ≤ t.moved.length + 512 := by omega
    refine ⟨?_, by simp [unfinished]⟩
    intro _
    cases moved
    rw [afterOut_more (by omega)]
    exact
      { state := awaiting.state
        tag_eq := awaiting.tag_eq
        chunk := awaiting.chunk
        armed := awaiting.armed
        partWay := by
          simp only [length]
          omega
        whole := by
          simp only [length]
          omega
        counted := by
          simp only [length]
          omega }

theorem afterIn_last {size : Nat} (last : size < mscMpsHs ∨ left ≤ size) :
    HostPhase.afterIn tag left size = .status tag := if_pos last

theorem afterIn_more {size : Nat} (full : size = mscMpsHs) (more : size < left) :
    HostPhase.afterIn tag left size = .dataIn tag (left - size) :=
  if_neg (by omega)

/-- An IN packet from a chunk on its way. -/
theorem inData_of_sendingChunk (sending : SendingChunk tag left t)
    (sent : t.nextPacket = some packet)
    (moved : t.inPacket packet sd (.afterIn tag left packet.length) = some next) :
    (Keeps info t (.inData packet sd) → Aligned next) ∧
      (¬ Keeps info t (.inData packet sd) → ¬ InPhase next) := by
  rcases sending.armed with ⟨len, armed, armed_len⟩
  have partWay := sending.partWay
  have counted := sending.counted
  have whole := sending.whole
  have full : packet.length = 512 := by
    simp only [Transport.nextPacket, armed, Option.some.injEq] at sent
    rw [← sent]
    simp only [MscState.source, List.length_take, List.length_drop, Store.window_length,
      mscMpsHs, armed_len]
    omega
  have length : (t.moved ++ packet).length = t.moved.length + 512 := by
    rw [List.length_append, full]
  simp only [Transport.inPacket, armed, armed_len, length] at moved
  simp only [Keeps, Transport.MidCommand, full]
  split at moved
  · rename_i ends
    simp only [Option.some.injEq] at moved
    subst moved
    have leftAfter : left = 512 * t.bus.dev.ioBlocksLeft.toNat + packet.length := by omega
    by_cases drained : t.bus.dev.ioBlocksLeft = 0
    · rw [drained, UInt32.toNat_zero] at leftAfter
      rw [completeIn_last [] sd sending.state drained, afterIn_last (.inr (by omega)),
        ← sending.tag_eq]
      refine ⟨fun _ => aligned_mscSendCsw 0 t.bus.dev, ?_⟩
      simp [drained]
    · have positive : t.bus.dev.ioBlocksLeft.toNat ≠ 0 := fun zero =>
        drained (UInt32.toNat.inj zero)
      rw [completeIn_more [] sd sending.state drained, afterIn_more full (by omega),
        ← sending.tag_eq]
      simp only [ends, positive, ne_eq, not_false_eq_true, and_self, true_imp_iff]
      constructor
      · rintro rfl
        exact aligned_mscContinueRead drained (by omega)
      · intro failed
        exact outOfPhase_of_csw (state_mscContinueRead_of_fail failed) (.inl rfl)
  · rename_i goes_on
    refine ⟨?_, by simp [goes_on]⟩
    intro _
    cases moved
    rw [afterIn_more full (by omega)]
    exact .inl
      { state := sending.state
        tag_eq := sending.tag_eq
        armed := sending.armed
        partWay := by
          simp only [length]
          omega
        whole := by
          simp only [length]
          omega
        counted := by
          simp only [length]
          omega }

/-- A reply is taken in one packet. -/
theorem inData_of_sendingReply (sending : SendingReply tag t)
    (sent : t.nextPacket = some packet)
    (moved : t.inPacket packet sd (.afterIn tag left packet.length) = some next) :
    Aligned next := by
  rcases sending.armed with ⟨len, armed, short⟩
  have whole : packet.length = len.toNat := by
    simp only [Transport.nextPacket, armed, sending.untouched, Option.some.injEq] at sent
    rw [← sent]
    simp only [MscState.source, List.length_take, List.length_drop, Store.window_length,
      mscMpsHs, List.length_nil]
    omega
  simp only [Transport.inPacket, armed, sending.untouched, List.nil_append, whole, Nat.le_refl,
    if_true, Option.some.injEq] at moved
  subst moved
  rw [completeIn_last [] sd sending.state sending.nothingLeft, afterIn_last (.inl short),
    ← sending.tag_eq]
  exact aligned_mscSendCsw 0 t.bus.dev

theorem csw_bytes_length (csw : Csw) : csw.bytes.length = 13 := rfl

/-- What the host reads in its status phase. -/
theorem nextPacket_status (inPhase : InPhase t) (phase : t.host = .status tag) :
    t.nextPacket = some t.bus.dev.csw.bytes := by
  simp only [InPhase, phase] at inPhase
  rcases inPhase with ⟨_, armed, untouched, _⟩
  have whole : t.bus.dev.csw.bytes.take cswLength.toNat = t.bus.dev.csw.bytes :=
    List.take_of_length_le (Nat.le_refl 13)
  simp only [Transport.nextPacket, armed, untouched, MscState.source, List.length_nil,
    List.drop_zero, whole]
  rw [List.take_of_length_le (by rw [csw_bytes_length]; decide)]

theorem status_of_aligned (inPhase : InPhase t) (phase : t.host = .status tag)
    (sent : t.nextPacket = some packet)
    (moved : t.inPacket packet sd .ready = some next) : Aligned next := by
  rw [nextPacket_status inPhase phase, Option.some.injEq] at sent
  subst sent
  simp only [InPhase, phase] at inPhase
  rcases inPhase with ⟨state, armed, untouched, _⟩
  have ends : cswLength.toNat ≤ t.bus.dev.csw.bytes.length := Nat.le_refl 13
  simp only [Transport.inPacket, armed, untouched, List.nil_append, ends, if_true,
    Option.some.injEq] at moved
  subst moved
  rw [completeIn_csw [] sd state]
  exact aligned_mscArmCbw t.bus.dev

/-- One step from an aligned pair, one case for each kind of packet. -/
theorem aligned_step {event : TransportEvent} (aligned : Aligned t)
    (step : TransportStep info t event next) :
    (Keeps info t event → Aligned next) ∧ (¬ Keeps info t event → ¬ InPhase next) := by
  cases step with
  | @command _ _ wrapper _ phase moved =>
      rw [outPacket_wrapper aligned.inPhase phase, Option.some.injEq] at moved
      subst moved
      have agrees := agrees_received wrapper t.bus.dev
      rw [← phase_received wrapper t.bus.dev]
      simp only [Keeps, ← refused_received wrapper t.bus.dev, not_not]
      exact ⟨aligned_dispatch agrees, outOfPhase_dispatch agrees⟩
  | outData phase size moved =>
      simp only [Aligned, phase] at aligned
      exact outData_of_awaitingChunk aligned size moved
  | inData phase sent moved =>
      simp only [Aligned, phase] at aligned
      rcases aligned with chunk | reply
      · exact inData_of_sendingChunk chunk sent moved
      · refine ⟨fun _ => inData_of_sendingReply reply sent moved, ?_⟩
        simp [Keeps, Transport.MidCommand, reply.nothingLeft]
  | status phase sent moved =>
      refine ⟨fun _ => status_of_aligned aligned.inPhase phase sent moved, ?_⟩
      simp [Keeps]

/-- The guard is exact: a step from an aligned pair leaves it in phase if and
only if the step keeps it. -/
theorem inPhase_step_iff {event : TransportEvent} (aligned : Aligned t)
    (step : TransportStep info t event next) : InPhase next ↔ Keeps info t event := by
  obtain ⟨kept, parted⟩ := aligned_step aligned step
  constructor
  · intro inPhase
    by_contra lost
    exact parted lost inPhase
  · intro keeps
    exact (kept keeps).inPhase

end Steps

/-! ### Runs -/

/-- Host and device right after the class has started. -/
def Transport.started (s : MscState) : Transport := entering .ready (mscInit s)

theorem aligned_started (s : MscState) : Aligned (.started s) := ⟨rfl, rfl, rfl⟩

/-- As long as no command is refused and no SD call fails in the middle of a
data phase, host and device are in phase: the status the host reads is the CSW
of its command, and the wrapper it sends is dispatched. The first step that
does not keep them so parts them. -/
theorem transportRun_inPhase (info : SdDevInfo) (s : MscState) {events : List TransportEvent}
    {t : Transport} (run : Run (Guarded (Keeps info) (TransportStep info)) (.started s) events t) :
    InPhase t ∧
      (∀ tag, t.host = .status tag →
        ∃ csw : Csw, csw.signature = cswSignature ∧ csw.tag = tag ∧
          t.nextPacket = some csw.bytes) ∧
      (t.host = .ready → ∀ (wrapper : Wrapper) (sd : SdOutcome),
        t.outPacket info wrapper.packet sd wrapper.cbw.phase =
          some (entering wrapper.cbw.phase
            (mscCmdDispatch info sd (t.bus.dev.received .cbw wrapper.packet)))) ∧
      ∀ event next, TransportStep info t event next → (InPhase next ↔ Keeps info t event) := by
  have aligned : Aligned t := by
    apply run.guarded_invariant Aligned _ (aligned_started s)
    intro state event next before keeps step
    exact (aligned_step before step).1 keeps
  have inPhase := aligned.inPhase
  refine ⟨inPhase, ?_, ?_, fun _ _ step => inPhase_step_iff aligned step⟩
  · intro tag phase
    have sent := nextPacket_status inPhase phase
    simp only [InPhase, phase] at inPhase
    rcases inPhase with ⟨_, _, _, signature, tag_eq⟩
    exact ⟨t.bus.dev.csw, signature, tag_eq, sent⟩
  · intro ready wrapper sd
    exact outPacket_wrapper inPhase ready wrapper _

/-- A READ(10) of one block at a 16-bit address. -/
def readOne (lbaHigh lbaLow : UInt8) : Cbw :=
  Store.overlay (fun _ => 0) 0
    [0x55, 0x53, 0x42, 0x43, 1, 0, 0, 0, 0, 2, 0, 0, 0x80, 0, 10,
      0x28, 0, 0, 0, lbaHigh, lbaLow, 0, 0, 1]

def readLast : Wrapper where
  cbw := readOne 3 0xFF
  signed := by decide
  agrees := ⟨by decide, by decide⟩

def readPast : Wrapper where
  cbw := readOne 4 0
  signed := by decide
  agrees := ⟨by decide, by decide⟩

def commanded (wrapper : Wrapper) : Transport :=
  entering wrapper.cbw.phase
    (mscCmdDispatch .smallest .ok ((mscInit (.boot fun _ => 0)).1.received .cbw wrapper.packet))

theorem commandedStep (wrapper : Wrapper) :
    TransportStep .smallest (.started (.boot fun _ => 0)) (.command wrapper .ok)
      (commanded wrapper) :=
  .command rfl (outPacket_wrapper (aligned_started _).inPhase rfl wrapper _)

theorem transportRun_inPhase_lastBlock :
    (commanded readLast).host = .dataIn 1 512 ∧ InPhase (commanded readLast) := by
  have keeps : Keeps .smallest (.started (.boot fun _ => 0)) (.command readLast .ok) := by
    have opcode : Scsi.ofByte (readLast.cbw.cb 0) = some .read10 := by decide
    simp only [Keeps, Cbw.Refused, opcode, ne_eq, not_true_eq_false, or_false]
    decide
  exact ⟨by decide,
    (transportRun_inPhase .smallest (.boot fun _ => 0)
      (.single ⟨keeps, commandedStep readLast⟩)).1⟩

/-- The failure CSW of a READ(10) past the last block, taken by a host that
expects 512 bytes of data. -/
def cswAsData : Transport where
  bus := .after [] (mscArmCbw (commanded readPast).bus.dev)
  moved := []
  host := .status 1

/-- After it the host waits for a status and the device for a wrapper, and no
packet can move. -/
theorem transportRun_outOfRange_deadlock :
    ∃ packet, Run (TransportStep .smallest) (.started (.boot fun _ => 0))
      [.command readPast .ok, .inData packet .ok] cswAsData ∧
      ¬ InPhase (commanded readPast) ∧ ¬ InPhase cswAsData ∧
      ∀ event next, ¬ TransportStep .smallest cswAsData event next := by
  have host : (commanded readPast).host = .dataIn 1 512 := by decide
  have state : (commanded readPast).bus.dev.botState = .csw := by decide
  have armed : (commanded readPast).bus.outstanding = [.bulkIn .csw 13] := by decide
  have sent : (commanded readPast).nextPacket =
      some (commanded readPast).bus.dev.csw.bytes := by
    rw [Transport.nextPacket, armed]
    decide
  have moved : (commanded readPast).inPacket (commanded readPast).bus.dev.csw.bytes .ok
      (.afterIn 1 512 13) = some cswAsData := by
    have ends : (13 : UInt32).toNat ≤
        ((commanded readPast).moved ++ (commanded readPast).bus.dev.csw.bytes).length := by decide
    simp only [Transport.inPacket, armed, if_pos ends, completeIn_csw [] .ok state]
    rfl
  refine ⟨_, .cons (commandedStep readPast) (.single (.inData host sent moved)), ?_, ?_, ?_⟩
  · exact outOfPhase_of_csw state (.inl host)
  · simp [InPhase, cswAsData, Bus.after, mscArmCbw]
  · intro event next step
    cases step with
    | command phase _ => simp [cswAsData] at phase
    | outData phase _ _ => simp [cswAsData] at phase
    | inData phase _ _ => simp [cswAsData] at phase
    | status _ sent _ => simp [Transport.nextPacket, cswAsData, Bus.after, mscArmCbw] at sent

end Mp257Fsbl.Usb.Msc
