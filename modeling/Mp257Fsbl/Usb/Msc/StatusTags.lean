/-
Module: Mp257Fsbl.Usb.Msc.StatusTags
Purpose: Which packets the statuses of the class answer, whatever arrives while
  it waits for a wrapper and fits its buffer.
Trusted boundary: `Tags` only records
Main exports: ValidPacket, TagEvent, Tags, TagStep, tagRun_count_le
-/
import Mp257Fsbl.Usb.Msc.Phase
import Mp257Fsbl.Usb.Msc.Wire

namespace Mp257Fsbl.Usb.Msc

open Mp257Fsbl.Foundation
open Mp257Fsbl.Sd

/-! ### What happens to the class -/

/-- A valid wrapper on the wire. -/
def ValidPacket (bytes : List UInt8) : Prop :=
  bytes.length = 31 ∧ (Cbw.ofBytes bytes).signature = cbwSignature

instance (bytes : List UInt8) : Decidable (ValidPacket bytes) :=
  inferInstanceAs (Decidable (_ ∧ _))

/-- The callbacks, in any order. What the host sends goes to the buffer that
the class has armed last. -/
inductive TagEvent where
  | out (bytes : List UInt8) (sd : SdOutcome)
  | in_ (sd : SdOutcome)
  | setup (req : SetupReq)
  | init

/-- The buffer that an OUT transfer fills. -/
def MscState.outBuffer (s : MscState) : Buffer :=
  if s.botState = .idle then .cbw else .xferBuf

/-- The class as the callback of an OUT transfer finds it, where the packet fits. -/
def MscState.filled (bytes : List UInt8) (s : MscState) : MscState := s.received s.outBuffer bytes

def TagEvent.result (info : SdDevInfo) (s : MscState) : TagEvent → MscState × List Action
  | .out bytes sd => mscDataOut info mscEpNum (UInt32.ofNat bytes.length) sd (s.filled bytes)
  | .in_ sd => mscDataIn mscEpNum sd s
  | .setup req => mscSetup req s
  | .init => mscInit s

def Action.sendsCsw : Action → Bool
  | .transmit .csw _ => true
  | _ => false

/-- The tags of the statuses that a callback sends. -/
def statusTags (result : MscState × List Action) : List UInt32 :=
  (result.2.filter Action.sendsCsw).map fun _ => result.1.csw.tag

/-- The class, with the tags of the valid wrappers received while one was
awaited, the tags that other packets then left in `cbw`, and the tags of the
statuses sent. Nothing in the class reads these. -/
structure Tags where
  dev : MscState
  valid : List UInt32
  invalid : List UInt32
  statuses : List UInt32

/-- A packet arrives while a wrapper is awaited, or anything else happens. -/
def Tags.received (event : TagEvent) (b : Tags) : Tags :=
  match event with
  | .out bytes _ =>
      if b.dev.botState = .idle then
        if ValidPacket bytes then { b with valid := (Cbw.ofBytes bytes).tag :: b.valid }
        else { b with invalid := (b.dev.filled bytes).cbw.tag :: b.invalid }
      else b
  | _ => b

def Tags.next (info : SdDevInfo) (event : TagEvent) (b : Tags) : Tags :=
  { b.received event with
    dev := (event.result info b.dev).1
    statuses := statusTags (event.result info b.dev) ++ b.statuses }

/-- A packet that comes in place of a wrapper is no longer than one: what the driver
does with the rest of a longer one depends on where the linker has put `cbw`. -/
def TagEvent.Short (s : MscState) : TagEvent → Prop
  | .out bytes _ => s.botState = .idle → bytes.length ≤ cbwLength.toNat
  | _ => True

def TagStep (info : SdDevInfo) : Step Tags TagEvent :=
  fun b event next => event.Short b.dev ∧ next = b.next info event

/-- The class after `msc_init`. -/
def Tags.start (s : MscState) : Tags where
  dev := (mscInit s).1
  valid := []
  invalid := []
  statuses := []

/-- The buffer of an outstanding OUT transfer is the one armed last. -/
theorem AwaitsOne.out_buffer {bus : Bus} (awaits : AwaitsOne bus)
    {before after : List Transfer} {buffer : Buffer} {len : UInt32}
    (pending : bus.outstanding = before ++ .bulkOut buffer len :: after) :
    buffer = bus.dev.outBuffer := by
  have member : Transfer.bulkOut buffer len ∈ bus.outstanding := by simp [pending]
  rcases (awaits.out_pending pending).2 with idle | dataOut
  · simp only [AwaitsOne, idle] at awaits
    simp only [awaits, List.mem_singleton, Transfer.bulkOut.injEq] at member
    rw [member.1, MscState.outBuffer, if_pos idle]
  · simp only [AwaitsOne, dataOut] at awaits
    obtain ⟨len', armed, _⟩ := awaits
    simp only [armed, List.mem_singleton, Transfer.bulkOut.injEq] at member
    rw [member.1, MscState.outBuffer, if_neg (by simp [dataOut])]

/-- Every completion on a bus where the class awaits one transfer, and no packet is
longer than a wrapper, is such a callback. -/
theorem bulkStep_tagEvent {behind : Behind} {info : SdDevInfo} {bus next : Bus}
    {event : BulkEvent} (awaits : AwaitsOne bus) (short : ShortWrapper bus event)
    (step : BulkStep behind info bus event next) :
    ∃ tagEvent : TagEvent, tagEvent.Short bus.dev ∧
      next = .after [] (tagEvent.result info bus.dev) := by
  cases step with
  | out pending fits delivered =>
      rename_i before after buffer len bytes sd dev
      refine ⟨.out bytes sd, fun idle => ?_, ?_⟩
      · simp only [AwaitsOne, idle] at awaits
        exact short cbwLength (by simp [awaits])
      rw [(awaits.out_pending pending).1, short.delivered pending delivered,
        awaits.out_buffer pending]
      rfl
  | in_ pending =>
      rename_i before after buffer len sd
      refine ⟨.in_ sd, trivial, ?_⟩
      rw [(awaits.in_pending pending).1]
      rfl

/-! ### One callback -/

/-- The class is moving the data of a command with tag `tag`. -/
def Moving (tag : UInt32) (s : MscState) : Prop :=
  (s.botState = .dataIn ∨ s.botState = .dataOut) ∧ s.cbw.tag = tag

instance (tag : UInt32) (s : MscState) : Decidable (Moving tag s) :=
  inferInstanceAs (Decidable (_ ∧ _))

/-- What a callback does with a command: it answers it or goes on with it. -/
def Settles (tag : UInt32) (result : MscState × List Action) : Prop :=
  (statusTags result = [tag] ∧ result.1.botState = .csw) ∨
    (statusTags result = [] ∧ Moving tag result.1)

section Settling

theorem settles_mscSendCsw (status : UInt8) (s : MscState) :
    Settles s.cbw.tag (mscSendCsw status s) := .inl ⟨rfl, rfl⟩

theorem settles_mscFail (key asc : UInt8) (s : MscState) :
    Settles s.cbw.tag (mscFail key asc s) := .inl ⟨rfl, rfl⟩

theorem settles_mscSendData (data : List UInt8) (s : MscState) :
    Settles s.cbw.tag (mscSendData data s) := .inr ⟨rfl, .inl rfl, rfl⟩

theorem settles_mscContinueRead (sd : SdOutcome) (s : MscState) :
    Settles s.cbw.tag (mscContinueRead sd s) := by
  cases sd with
  | ok => exact .inr ⟨rfl, .inl rfl, rfl⟩
  | fail residue => exact .inl ⟨rfl, rfl⟩

theorem settles_mscArmWriteChunk (s : MscState) : Settles s.cbw.tag (mscArmWriteChunk s) :=
  .inr ⟨rfl, .inr rfl, rfl⟩

theorem settles_mscDispatchIo (info : SdDevInfo) {start : MscState → MscState × List Action}
    (started : ∀ s, Settles s.cbw.tag (start s)) (s : MscState) :
    Settles s.cbw.tag (mscDispatchIo info start s) := by
  unfold mscDispatchIo
  split
  · exact settles_mscSendCsw 0 s
  · split
    · exact settles_mscFail _ _ s
    · exact started { s with ioLba := s.cbw.lba, ioBlocksLeft := s.cbw.cnt }

theorem settles_mscCmdDispatch (info : SdDevInfo) (sd : SdOutcome) (s : MscState) :
    Settles s.cbw.tag (mscCmdDispatch info sd s) := by
  unfold mscCmdDispatch
  split
  case h_9 => exact settles_mscDispatchIo info (settles_mscContinueRead sd) s
  case h_10 => exact settles_mscDispatchIo info settles_mscArmWriteChunk s
  case h_11 => exact settles_mscFail _ _ s
  case h_1 | h_2 | h_3 => exact settles_mscSendCsw 0 s
  case h_8 => exact settles_mscSendData _ { s with senseKey := 0, senseAsc := 0 }
  all_goals exact settles_mscSendData _ s

theorem settles_afterChunk (s : MscState) : Settles s.cbw.tag s.afterChunk := by
  unfold MscState.afterChunk
  split
  · exact settles_mscArmWriteChunk s
  · exact settles_mscSendCsw 0 s

theorem settles_handOver {tag : UInt32} {result : MscState × List Action} (success : Bool)
    (s : MscState) (settles : Settles tag result) : Settles tag (s.handOver success result) :=
  settles

/-- A packet that arrives while a wrapper is awaited. -/
theorem settles_mscDataOut_idle (info : SdDevInfo) (xferCount : UInt32) (sd : SdOutcome)
    {s : MscState} (state : s.botState = .idle) :
    Settles s.cbw.tag (mscDataOut info mscEpNum xferCount sd s) := by
  simp only [mscDataOut, state, ne_eq, not_true_eq_false, if_false]
  split
  · exact settles_mscCmdDispatch info sd s
  · exact settles_mscFail _ _ s

theorem settles_mscDataOut_chunk (info : SdDevInfo) (xferCount : UInt32) (sd : SdOutcome)
    {s : MscState} (state : s.botState = .dataOut) :
    Settles s.cbw.tag (mscDataOut info mscEpNum xferCount sd s) := by
  cases sd with
  | ok =>
      rw [mscDataOut_dataOut_ok state]
      exact settles_handOver _ s (settles_afterChunk s.chunkWritten)
  | fail residue =>
      rw [mscDataOut_dataOut_fail state]
      exact settles_handOver _ s (settles_mscFail _ _ (s.chunkFailed residue))

theorem settles_mscDataIn (sd : SdOutcome) {s : MscState} (state : s.botState = .dataIn) :
    Settles s.cbw.tag (mscDataIn mscEpNum sd s) := by
  by_cases drained : s.ioBlocksLeft = 0
  · rw [mscDataIn_last sd state drained]
    exact settles_mscSendCsw 0 s
  · rw [mscDataIn_more sd state drained]
    exact settles_mscContinueRead sd s

end Settling

/-! ### Counting -/

section Counting

variable {info : SdDevInfo}

/-- The statuses sent with a tag, and the one that a moving command will get. -/
def owed (t : UInt32) (s : MscState) : Nat := if Moving t s then 1 else 0

/-- Every status, sent or owed, answers a packet. -/
def Counted (b : Tags) : Prop :=
  ∀ t, b.statuses.count t + owed t b.dev ≤ b.valid.count t + b.invalid.count t

/-- A command that is settled counts once, under its own tag. -/
theorem Settles.count {tag : UInt32} {result : MscState × List Action}
    (settles : Settles tag result) (t : UInt32) :
    (statusTags result).count t + owed t result.1 = if tag = t then 1 else 0 := by
  rcases settles with ⟨sent, state⟩ | ⟨sent, state, tagged⟩
  · have still : ¬ Moving t result.1 := by
      rintro ⟨state' | state', _⟩ <;> simp [state] at state'
    simp [sent, owed, still, List.count_singleton]
  · have moving : Moving t result.1 ↔ tag = t := by
      simp only [Moving, tagged, state, true_and]
    simp [sent, owed, moving]

theorem owed_moving {s : MscState} (state : s.botState = .dataIn ∨ s.botState = .dataOut)
    (t : UInt32) : owed t s = if s.cbw.tag = t then 1 else 0 := by
  simp [owed, Moving, state]

theorem owed_still {s : MscState} (state : s.botState = .idle ∨ s.botState = .csw)
    (t : UInt32) : owed t s = 0 := by
  have still : ¬ Moving t s := by
    rintro ⟨state' | state', _⟩ <;> simp [state'] at state
  simp [owed, still]

/-- A callback that neither sends a status nor sets a command moving. -/
theorem counted_of_quiet {b : Tags} {event : TagEvent} (counted : Counted b)
    (received : b.received event = b) (silent : statusTags (event.result info b.dev) = [])
    (less : ∀ t, owed t (event.result info b.dev).1 ≤ owed t b.dev) :
    Counted (b.next info event) := by
  intro t
  have before := counted t
  have fewer := less t
  simp only [Tags.next, received, silent, List.nil_append]
  omega

/-- A callback that goes on with a moving command. -/
theorem counted_of_settles {b : Tags} {event : TagEvent} (counted : Counted b)
    (received : b.received event = b)
    (moving : b.dev.botState = .dataIn ∨ b.dev.botState = .dataOut)
    (settles : Settles b.dev.cbw.tag (event.result info b.dev)) :
    Counted (b.next info event) := by
  intro t
  have before := counted t
  have settled := settles.count t
  rw [owed_moving moving] at before
  simp only [Tags.next, received, List.count_append]
  omega

theorem wire_ofBytes {bytes : List UInt8} (whole : bytes.length = 31) :
    (Cbw.ofBytes bytes).wire = bytes := by
  apply List.ext_getElem (by rw [wire_length, whole])
  intro i inside _
  have there : i < bytes.length := by
    rw [whole, ← wire_length (Cbw.ofBytes bytes)]
    exact inside
  simp [Cbw.wire, Store.window, Cbw.ofBytes, List.getElem?_eq_getElem there]

/-- A valid wrapper leaves its own tag in `cbw`. -/
theorem tag_filled {s : MscState} {bytes : List UInt8} (state : s.botState = .idle)
    (valid : ValidPacket bytes) : (s.filled bytes).cbw.tag = (Cbw.ofBytes bytes).tag := by
  have received := tag_received (Cbw.ofBytes bytes) s
  rw [wire_ofBytes valid.1] at received
  rwa [MscState.filled, MscState.outBuffer, if_pos state]

/-- A packet while a wrapper is awaited is answered once, under the tag that it
leaves in `cbw`. -/
theorem counted_idle {b : Tags} (counted : Counted b) (state : b.dev.botState = .idle)
    (bytes : List UInt8) (sd : SdOutcome) : Counted (b.next info (.out bytes sd)) := by
  have filled : (b.dev.filled bytes).botState = .idle := by
    simpa [MscState.filled] using state
  have settles := settles_mscDataOut_idle info (UInt32.ofNat bytes.length) sd filled
  intro t
  have before := counted t
  have settled := settles.count t
  have statuses : (b.next info (.out bytes sd)).statuses =
      statusTags (mscDataOut info mscEpNum (UInt32.ofNat bytes.length) sd (b.dev.filled bytes)) ++
        b.statuses := rfl
  have dev : (b.next info (.out bytes sd)).dev =
      (mscDataOut info mscEpNum (UInt32.ofNat bytes.length) sd (b.dev.filled bytes)).1 := rfl
  have packets : (b.next info (.out bytes sd)).valid.count t +
      (b.next info (.out bytes sd)).invalid.count t =
        b.valid.count t + b.invalid.count t +
          if (b.dev.filled bytes).cbw.tag = t then 1 else 0 := by
    by_cases valid : ValidPacket bytes
    · simp [Tags.next, Tags.received, state, valid, ← tag_filled state valid, List.count_cons]
      omega
    · simp [Tags.next, Tags.received, state, valid, List.count_cons]
      omega
  rw [statuses, dev, List.count_append, packets]
  omega

/-- Anywhere else an OUT transfer fills `xfer_buf`. -/
theorem filled_of_not_idle {s : MscState} (bytes : List UInt8) (state : s.botState ≠ .idle) :
    s.filled bytes = s.received .xferBuf bytes := by
  rw [MscState.filled, MscState.outBuffer, if_neg state]

theorem counted_out {b : Tags} (counted : Counted b) (bytes : List UInt8) (sd : SdOutcome) :
    Counted (b.next info (.out bytes sd)) := by
  by_cases idle : b.dev.botState = .idle
  · exact counted_idle counted idle bytes sd
  · have filled := filled_of_not_idle bytes idle
    have same : b.received (.out bytes sd) = b := by simp [Tags.received, idle]
    have result : TagEvent.result info b.dev (.out bytes sd) =
        mscDataOut info mscEpNum (UInt32.ofNat bytes.length) sd
          (b.dev.received .xferBuf bytes) := by
      rw [TagEvent.result, filled]
    by_cases dataOut : b.dev.botState = .dataOut
    · apply counted_of_settles counted same (.inr dataOut)
      rw [result]
      exact settles_mscDataOut_chunk info (UInt32.ofNat bytes.length) sd
        (s := b.dev.received .xferBuf bytes) (by simpa using dataOut)
    · have ignored : mscDataOut info mscEpNum (UInt32.ofNat bytes.length) sd
          (b.dev.received .xferBuf bytes) = (b.dev.received .xferBuf bytes, []) := by
        cases state : b.dev.botState with
        | idle => exact absurd state idle
        | dataOut => exact absurd state dataOut
        | dataIn | csw => simp [mscDataOut, state]
      apply counted_of_quiet counted same
      · rw [result, ignored]
        rfl
      · intro t
        rw [result, ignored]
        exact Nat.le_refl _

theorem counted_in {b : Tags} (counted : Counted b) (sd : SdOutcome) :
    Counted (b.next info (.in_ sd)) := by
  by_cases dataIn : b.dev.botState = .dataIn
  · exact counted_of_settles counted rfl (.inl dataIn) (settles_mscDataIn sd dataIn)
  · by_cases csw : b.dev.botState = .csw
    · have armed : TagEvent.result info b.dev (.in_ sd) = mscArmCbw b.dev :=
        mscDataIn_csw sd csw
      apply counted_of_quiet counted rfl
      · rw [armed]
        rfl
      · intro t
        rw [armed, owed_still (.inl rfl)]
        exact Nat.zero_le _
    · have ignored : TagEvent.result info b.dev (.in_ sd) = (b.dev, []) := by
        cases state : b.dev.botState with
        | dataIn => exact absurd state dataIn
        | csw => exact absurd state csw
        | idle | dataOut => simp [TagEvent.result, mscDataIn, state]
      apply counted_of_quiet counted rfl
      · rw [ignored]
        rfl
      · intro t
        rw [ignored]

/-- A reset drops the command it finds; no other request touches it. -/
theorem counted_setup {b : Tags} (counted : Counted b) (req : SetupReq) :
    Counted (b.next info (.setup req)) := by
  apply counted_of_quiet counted rfl
  · simp only [TagEvent.result, mscSetup]
    split
    · split
      · rfl
      · split <;> rfl
    · rfl
  · intro t
    simp only [TagEvent.result, mscSetup]
    split
    · split
      · exact Nat.le_refl _
      · split
        · rw [owed_still (.inl rfl)]
          exact Nat.zero_le _
        · exact Nat.le_refl _
    · exact Nat.le_refl _

theorem counted_init {b : Tags} (counted : Counted b) : Counted (b.next info .init) := by
  apply counted_of_quiet counted rfl rfl
  intro t
  rw [owed_still (.inl rfl)]
  exact Nat.zero_le _

theorem counted_step {b next : Tags} {event : TagEvent} (counted : Counted b)
    (step : TagStep info b event next) : Counted next := by
  obtain ⟨_, rfl⟩ := step
  cases event with
  | out bytes sd => exact counted_out counted bytes sd
  | in_ sd => exact counted_in counted sd
  | setup req => exact counted_setup counted req
  | init => exact counted_init counted

/-- Whatever arrives and fits `cbw`, in any order and between any resets: the
statuses sent with a tag are at most the valid wrappers received with it and the
other packets, received in place of a wrapper, that left it in `cbw`. -/
theorem tagRun_count_le (info : SdDevInfo) (s : MscState) {events : List TagEvent} {b : Tags}
    (run : Run (TagStep info) (.start s) events b) (t : UInt32) :
    b.statuses.count t ≤ b.valid.count t + b.invalid.count t := by
  have counted : Counted b := by
    apply run.invariant Counted
    · intro state event next before step
      exact counted_step before step
    · intro t
      rw [owed_still (.inl rfl)]
      exact Nat.le_refl _
  exact Nat.le_trans (Nat.le_add_right _ _) (counted t)

end Counting

/-- A TEST UNIT READY with tag 7. -/
def unitReady7 : List UInt8 :=
  [0x55, 0x53, 0x42, 0x43, 7, 0, 0, 0, 0, 0, 0, 0, 0, 0, 6] ++ List.replicate 16 0

/-- The class after a TEST UNIT READY, its status collected, and a packet. -/
def afterPacket (bytes : List UInt8) : Tags :=
  ((Tags.start (.boot fun _ => 0)).next .smallest (.out unitReady7 .ok)).next .smallest
    (.in_ .ok) |>.next .smallest (.out bytes .ok)

theorem afterPacket_run {bytes : List UInt8} (short : bytes.length ≤ 31) :
    Run (TagStep .smallest) (.start (.boot fun _ => 0))
      [.out unitReady7 .ok, .in_ .ok, .out bytes .ok] (afterPacket bytes) := by
  have whole : unitReady7.length ≤ 31 := by decide
  exact .cons ⟨fun _ => whole, rfl⟩ (.cons ⟨trivial, rfl⟩ (.single ⟨fun _ => short, rfl⟩))

/-- The same wrapper again gets its own status. -/
theorem tagRun_count_le_twice :
    (afterPacket unitReady7).statuses.count 7 ≤
      (afterPacket unitReady7).valid.count 7 + (afterPacket unitReady7).invalid.count 7 :=
  tagRun_count_le .smallest (.boot fun _ => 0) (afterPacket_run (by decide)) 7

/-- A zero-length packet gets a second status for the command before it. -/
theorem tagRun_zeroLengthPacket_status :
    Run (TagStep .smallest) (.start (.boot fun _ => 0))
        [.out unitReady7 .ok, .in_ .ok, .out [] .ok] (afterPacket []) ∧
      (afterPacket []).statuses.count 7 = 2 ∧ (afterPacket []).valid.count 7 = 1 :=
  ⟨afterPacket_run (Nat.zero_le 31), by decide, by decide⟩

end Mp257Fsbl.Usb.Msc
