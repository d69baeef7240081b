/-
Module: Mp257Fsbl.Usb.Msc.Phase
Purpose: The class always waits for exactly one bulk transfer, the one its
  `bot_state` stands for, unless a packet is written over its statics.
Trusted boundary: `Behind.stateFirst` is one layout that a linker can choose
Main exports: AwaitsOne, awaitsOne_step, bulkRun_awaitsOne, Behind.stateFirst
-/
import Mp257Fsbl.Usb.Msc.Bus

namespace Mp257Fsbl.Usb.Msc

open Mp257Fsbl.Foundation
open Mp257Fsbl.Sd

/-- Exactly one transfer is outstanding and it is the one `botState` waits
for. -/
def AwaitsOne (bus : Bus) : Prop :=
  match bus.dev.botState with
  | .idle => bus.outstanding = [.bulkOut .cbw cbwLength]
  | .dataOut =>
      ∃ len, bus.outstanding = [.bulkOut .xferBuf len] ∧
        len.toNat = 512 * bus.dev.ioChunkBlocks.toNat ∧
        1 ≤ bus.dev.ioChunkBlocks.toNat ∧
        bus.dev.ioChunkBlocks.toNat ≤ min 32 bus.dev.ioBlocksLeft.toNat
  | .dataIn => ∃ len, bus.outstanding = [.bulkIn .xferBuf len]
  | .csw => bus.outstanding = [.bulkIn .csw cswLength]

/-- What a callback leaves behind when nothing else is outstanding. -/
abbrev Rearms (result : MscState × List Action) : Prop := AwaitsOne (.after [] result)

theorem rearms_mscArmCbw (s : MscState) : Rearms (mscArmCbw s) := by
  simp [AwaitsOne, Bus.after, mscArmCbw]

theorem rearms_mscSendCsw (status : UInt8) (s : MscState) : Rearms (mscSendCsw status s) := by
  simp [AwaitsOne, Bus.after, mscSendCsw]

theorem rearms_mscFail (key asc : UInt8) (s : MscState) : Rearms (mscFail key asc s) :=
  rearms_mscSendCsw 1 _

theorem rearms_mscSendData (data : List UInt8) (s : MscState) :
    Rearms (mscSendData data s) := by
  simp [AwaitsOne, Bus.after, mscSendData]

/-- An SD call before the transfer is armed changes nothing about what is
armed. -/
theorem rearms_cons_sdRead {lba size : UInt32} {success : Bool}
    {result : MscState × List Action} (rearms : Rearms result) :
    Rearms (result.1, .sdRead lba size success :: result.2) := by
  simpa [AwaitsOne, Bus.after] using rearms

theorem rearms_cons_sdWrite {lba size : UInt32} {data : List UInt8} {success : Bool}
    {result : MscState × List Action} (rearms : Rearms result) :
    Rearms (result.1, .sdWrite lba size data success :: result.2) := by
  simpa [AwaitsOne, Bus.after] using rearms

theorem rearms_mscContinueRead (sd : SdOutcome) (s : MscState) :
    Rearms (mscContinueRead sd s) := by
  unfold mscContinueRead
  cases sd with
  | ok => simp [sdRead, AwaitsOne, Bus.after]
  | fail residue => exact rearms_cons_sdRead (rearms_mscFail _ _ _)

theorem rearms_mscArmWriteChunk (s : MscState) (some_left : s.ioBlocksLeft ≠ 0) :
    Rearms (mscArmWriteChunk s) := by
  have positive : s.ioBlocksLeft.toNat ≠ 0 := fun zero => some_left (UInt32.toNat.inj zero)
  refine ⟨_, rfl, ?_, ?_, ?_⟩
  · change (nextChunk s.ioBlocksLeft * blockBytes).toNat = 512 * (nextChunk s.ioBlocksLeft).toNat
    rw [nextChunk_size_toNat, nextChunk_toNat]
  · change 1 ≤ (nextChunk s.ioBlocksLeft).toNat
    rw [nextChunk_toNat]
    omega
  · change (nextChunk s.ioBlocksLeft).toNat ≤ min 32 s.ioBlocksLeft.toNat
    rw [nextChunk_toNat]

/-- The two block commands arm what their last branch arms, provided it does
so for a nonzero count. -/
theorem rearms_mscDispatchIo (info : SdDevInfo) {start : MscState → MscState × List Action}
    (started : ∀ s, s.ioBlocksLeft ≠ 0 → Rearms (start s)) (s : MscState) :
    Rearms (mscDispatchIo info start s) := by
  unfold mscDispatchIo
  split
  · exact rearms_mscSendCsw 0 s
  · split
    · exact rearms_mscFail _ _ s
    · rename_i nonzero _
      exact started _ nonzero

theorem rearms_mscCmdDispatch (info : SdDevInfo) (sd : SdOutcome) (s : MscState) :
    Rearms (mscCmdDispatch info sd s) := by
  unfold mscCmdDispatch
  split
  case h_9 => exact rearms_mscDispatchIo info (fun s _ => rearms_mscContinueRead sd s) s
  case h_10 => exact rearms_mscDispatchIo info rearms_mscArmWriteChunk s
  case h_11 => exact rearms_mscFail _ _ s
  case h_1 | h_2 | h_3 => exact rearms_mscSendCsw 0 s
  all_goals exact rearms_mscSendData _ _

/-- The IN callback re-arms when it was an IN transfer that was awaited. -/
theorem rearms_mscDataIn (sd : SdOutcome) (s : MscState)
    (awaited : s.botState = .dataIn ∨ s.botState = .csw) :
    Rearms (mscDataIn mscEpNum sd s) := by
  rcases awaited with dataIn | csw
  · simp only [mscDataIn, dataIn, ne_eq, not_true_eq_false, if_false]
    split
    · exact rearms_mscContinueRead sd s
    · exact rearms_mscSendCsw 0 s
  · simp only [mscDataIn, csw, ne_eq, not_true_eq_false, if_false]
    exact rearms_mscArmCbw s

/-- The OUT callback re-arms when it was an OUT transfer that was awaited. -/
theorem rearms_mscDataOut (info : SdDevInfo) (xferCount : UInt32) (sd : SdOutcome)
    (s : MscState) (awaited : s.botState = .idle ∨ s.botState = .dataOut) :
    Rearms (mscDataOut info mscEpNum xferCount sd s) := by
  rcases awaited with idle | dataOut
  · simp only [mscDataOut, idle, ne_eq, not_true_eq_false, if_false]
    split
    · exact rearms_mscCmdDispatch info sd s
    · exact rearms_mscFail _ _ s
  · cases sd with
    | ok =>
        rw [mscDataOut_dataOut_ok dataOut]
        apply rearms_cons_sdWrite
        unfold MscState.afterChunk
        split
        · rename_i some_left
          exact rearms_mscArmWriteChunk _ some_left
        · exact rearms_mscSendCsw 0 _
    | fail residue =>
        rw [mscDataOut_dataOut_fail dataOut]
        exact rearms_cons_sdWrite (rearms_mscFail _ _ _)

/-- The bus cannot be waiting for an OUT transfer in the two states that wait
for an IN transfer. -/
theorem AwaitsOne.out_pending {bus : Bus} (awaits : AwaitsOne bus)
    {before after : List Transfer} {buffer : Buffer} {len : UInt32}
    (pending : bus.outstanding = before ++ .bulkOut buffer len :: after) :
    before ++ after = [] ∧ (bus.dev.botState = .idle ∨ bus.dev.botState = .dataOut) := by
  have member : Transfer.bulkOut buffer len ∈ bus.outstanding := by simp [pending]
  have count : bus.outstanding.length = (before ++ after).length + 1 := by
    simp [pending, Nat.add_assoc]
  cases state : bus.dev.botState <;> simp only [AwaitsOne, state] at awaits
  case idle =>
    rw [awaits] at count
    exact ⟨List.eq_nil_of_length_eq_zero (by simpa using count.symm), .inl rfl⟩
  case dataOut =>
    rcases awaits with ⟨len', armed, -⟩
    rw [armed] at count
    exact ⟨List.eq_nil_of_length_eq_zero (by simpa using count.symm), .inr rfl⟩
  case dataIn =>
    rcases awaits with ⟨len', armed⟩
    simp [armed] at member
  case csw => simp [awaits] at member

theorem AwaitsOne.in_pending {bus : Bus} (awaits : AwaitsOne bus)
    {before after : List Transfer} {buffer : Buffer} {len : UInt32}
    (pending : bus.outstanding = before ++ .bulkIn buffer len :: after) :
    before ++ after = [] ∧ (bus.dev.botState = .dataIn ∨ bus.dev.botState = .csw) := by
  have member : Transfer.bulkIn buffer len ∈ bus.outstanding := by simp [pending]
  have count : bus.outstanding.length = (before ++ after).length + 1 := by
    simp [pending, Nat.add_assoc]
  cases state : bus.dev.botState <;> simp only [AwaitsOne, state] at awaits
  case idle => simp [awaits] at member
  case dataOut =>
    rcases awaits with ⟨len', armed, -⟩
    simp [armed] at member
  case dataIn =>
    rcases awaits with ⟨len', armed⟩
    rw [armed] at count
    exact ⟨List.eq_nil_of_length_eq_zero (by simpa using count.symm), .inl rfl⟩
  case csw =>
    rw [awaits] at count
    exact ⟨List.eq_nil_of_length_eq_zero (by simpa using count.symm), .inr rfl⟩

/-- One completion keeps the class waiting for one transfer. -/
theorem awaitsOne_step {behind : Behind} {info : SdDevInfo} {bus next : Bus} {event : BulkEvent}
    (awaits : AwaitsOne bus) (short : ShortWrapper bus event)
    (taken : BulkStep behind info bus event next) : AwaitsOne next := by
  cases taken with
  | out pending fits delivered =>
      obtain ⟨alone, awaited⟩ := awaits.out_pending pending
      rw [alone, short.delivered pending delivered]
      exact rearms_mscDataOut info _ _ _ (by simpa using awaited)
  | in_ pending =>
      obtain ⟨alone, awaited⟩ := awaits.in_pending pending
      rw [alone]
      exact rearms_mscDataIn _ _ awaited

theorem awaitsOne_mscInit (s : MscState) : Rearms (mscInit s) := by
  simpa [AwaitsOne, Bus.after, mscInit] using rearms_mscArmCbw _

/-- In every run of completions after `msc_init`, whatever the class state was
before it and wherever the linker has placed its statics: as long as no packet
longer than a wrapper goes into `cbw`, exactly one bulk transfer is outstanding
after every callback and it is the one `bot_state` stands for. -/
theorem bulkRun_awaitsOne (behind : Behind) (info : SdDevInfo) (s : MscState)
    (events : List BulkEvent) (bus : Bus)
    (run : Run (Guarded ShortWrapper (BulkStep behind info)) (.after [] (mscInit s)) events bus) :
    AwaitsOne bus := by
  apply run.guarded_invariant AwaitsOne _ (awaitsOne_mscInit s)
  intro state event next before short taken
  exact awaitsOne_step before short taken

/-! ### The state behind the wrapper -/

/-- The value of an enumerator. -/
def BotState.value : BotState → UInt32
  | .idle => 0
  | .dataIn => 1
  | .dataOut => 2
  | .csw => 3

def BotState.ofValue (value : UInt32) : Option BotState :=
  [BotState.idle, .dataIn, .dataOut, .csw].find? fun state => state.value = value

/-- The state with the first bytes of its word overwritten. -/
def BotState.overwritten (bytes : List UInt8) (state : BotState) : Option BotState :=
  let word : Store UInt8 := fun i => (le32Bytes state.value).getD i 0
  BotState.ofValue (le32 (word.overlay 0 (bytes.take 4)) 0)

theorem BotState.overwritten_nil (state : BotState) : state.overwritten [] = some state := by
  cases state <;> decide

/-- A padding byte, `bot_state`, and padding up to a pointer that is not part of
an `MscState`. -/
def Behind.stateFirst : Behind where
  write bytes s :=
    if bytes.length ≤ 9 then
      (s.botState.overwritten (bytes.drop 1)).map fun state => { s with botState := state }
    else none
  write_nil s := by
    rw [List.length_nil, if_pos (Nat.zero_le 9), List.drop_nil, BotState.overwritten_nil,
      Option.map_some]

/-- The class after `msc_init`, with a blank card. -/
def startedBus : Bus := .after [] (mscInit (.boot fun _ => 0))

theorem startedBus_pending : startedBus.outstanding = [] ++ .bulkOut .cbw cbwLength :: [] := rfl

/-- A zero-length packet in place of the first CBW leaves the class waiting
for its CSW to be collected. -/
theorem bulkRun_awaitsOne_zeroLengthPacket :
    AwaitsOne (completeOut .smallest [] .cbw [] .ok (mscInit (.boot fun _ => 0)).1) := by
  have short : ShortWrapper startedBus (.out [] .ok) := fun _ _ => Nat.zero_le _
  have taken : BulkStep .stateFirst .smallest startedBus (.out [] .ok)
      (completeOut .smallest [] .cbw [] .ok (mscInit (.boot fun _ => 0)).1) :=
    .out_alone rfl (by decide) fun _ => Nat.zero_le _
  exact bulkRun_awaitsOne .stateFirst .smallest (.boot fun _ => 0) [.out [] .ok] _
    (.single ⟨short, taken⟩)

/-- A TEST UNIT READY with five bytes more: the state that they bring is `BOT_CSW`. -/
def longUnitReady : List UInt8 :=
  [0x55, 0x53, 0x42, 0x43, 1, 0, 0, 0, 0, 0, 0, 0, 0, 0, 6] ++ List.replicate 16 0 ++
    [0, 3, 0, 0, 0]

/-- Where `bot_state` lies behind `cbw`, a wrapper of 36 bytes makes the class wait
for a status to be collected that it has not sent: nothing is outstanding. -/
theorem bulkRun_longWrapper_awaitsNone :
    ∃ bus, Run (BulkStep .stateFirst .smallest) startedBus [.out longUnitReady .ok] bus ∧
      bus.dev.botState = .csw ∧ bus.outstanding = [] ∧ ¬ AwaitsOne bus := by
  have written : ∃ dev, startedBus.dev.delivered .stateFirst .cbw longUnitReady = some dev ∧
      dev.botState = .csw := ⟨_, rfl, rfl⟩
  obtain ⟨dev, delivered, state⟩ := written
  have ignored : mscDataOut .smallest mscEpNum (UInt32.ofNat longUnitReady.length) .ok dev =
      (dev, []) := by simp [mscDataOut, state]
  refine ⟨_, .single (.out startedBus_pending (by decide) delivered), ?_, ?_, ?_⟩
  · rw [ignored]
    exact state
  · rw [ignored]
    rfl
  · rw [ignored]
    simp [AwaitsOne, Bus.after, state]

end Mp257Fsbl.Usb.Msc
