/-
Module: Mp257Fsbl.Usb.Msc.Bounds
Purpose: Whatever the host and the controller do, every SD access of the class
  stays inside the last dispatched command, the card and the transfer buffer.
Trusted boundary: none
Main exports: ClassEvent, Session, InBounds, Safe, classRun_inBounds
-/
import Mp257Fsbl.Usb.Msc.Bus

namespace Mp257Fsbl.Usb.Msc

open Mp257Fsbl.Foundation
open Mp257Fsbl.Sd

/-! ### The adversary -/

/-- Everything that can happen to the class. `hostWrites` is any change at all
of the two buffers that DMA can reach. -/
inductive ClassEvent where
  | init
  | setup (req : SetupReq)
  | dataIn (epnum : UInt8) (sd : SdOutcome)
  | dataOut (epnum : UInt8) (xferCount : UInt32) (sd : SdOutcome)
  | hostWrites (cbw : Cbw) (xferBuf : Store UInt8)

def handle (info : SdDevInfo) : ClassEvent → MscState → MscState × List Action
  | .init, s => mscInit s
  | .setup req, s => mscSetup req s
  | .dataIn epnum sd, s => mscDataIn epnum sd s
  | .dataOut epnum xferCount sd, s => mscDataOut info epnum xferCount sd s
  | .hostWrites cbw xferBuf, s => ({ s with cbw := cbw, xferBuf := xferBuf }, [])

/-- The blocks a READ(10) or WRITE(10) names. -/
structure IoRange where
  lba : Nat
  cnt : Nat
deriving Repr, DecidableEq

def Cbw.ioRange (cbw : Cbw) : IoRange := { lba := cbw.lba.toNat, cnt := cbw.cnt.toNat }

/-- The most recently dispatched READ(10) and WRITE(10). Nothing in the class
reads these. -/
structure Dispatched where
  lastRead : Option IoRange
  lastWrite : Option IoRange
deriving Repr, DecidableEq

/-- The condition under which an OUT callback reaches the dispatcher. -/
def dispatches (epnum : UInt8) (xferCount : UInt32) (s : MscState) : Prop :=
  epnum = mscEpNum ∧ s.botState = .idle ∧ xferCount = cbwLength ∧
    s.cbw.signature = cbwSignature

instance (epnum : UInt8) (xferCount : UInt32) (s : MscState) :
    Decidable (dispatches epnum xferCount s) :=
  inferInstanceAs (Decidable (_ ∧ _ ∧ _ ∧ _))

def Dispatched.note (cbw : Cbw) (d : Dispatched) : Dispatched :=
  match Scsi.ofByte (cbw.cb 0) with
  | some .read10 => { d with lastRead := some cbw.ioRange }
  | some .write10 => { d with lastWrite := some cbw.ioRange }
  | _ => d

def Dispatched.after (event : ClassEvent) (s : MscState) (d : Dispatched) : Dispatched :=
  match event with
  | .dataOut epnum xferCount _ => if dispatches epnum xferCount s then d.note s.cbw else d
  | _ => d

/-- The class and its dispatch history. -/
structure Session where
  dev : MscState
  dispatched : Dispatched

def Session.next (info : SdDevInfo) (event : ClassEvent) (session : Session) : Session :=
  { dev := (handle info event session.dev).1
    dispatched := session.dispatched.after event session.dev }

def ClassStep (info : SdDevInfo) : Step Session ClassEvent :=
  fun session event next => next = session.next info event

/-! ### What is in bounds -/

/-- A transfer of whole blocks that fits `xfer_buf`, the card and the range of
the command it belongs to. -/
def Within (info : SdDevInfo) (range : Option IoRange) (lba size : UInt32) : Prop :=
  ∃ blocks command, size.toNat = 512 * blocks ∧ 1 ≤ blocks ∧ blocks ≤ 32 ∧
    range = some command ∧ command.lba ≤ lba.toNat ∧
    lba.toNat + blocks ≤ command.lba + command.cnt ∧ lba.toNat + blocks ≤ info.blockCount

/-- Reads belong to the last READ(10), writes to the last WRITE(10). -/
def InBounds (info : SdDevInfo) (d : Dispatched) : Action → Prop
  | .sdRead lba size _ => Within info d.lastRead lba size
  | .sdWrite lba size _ _ => Within info d.lastWrite lba size
  | _ => True

/-- The blocks still to do end where the command ends, on the card. -/
def Covered (info : SdDevInfo) (range : Option IoRange) (s : MscState) : Prop :=
  ∃ command, range = some command ∧ command.lba ≤ s.ioLba.toNat ∧
    s.ioLba.toNat + s.ioBlocksLeft.toNat = command.lba + command.cnt ∧
    command.lba + command.cnt ≤ info.blockCount

/-- The class invariant. The counters mean something in the two data states
only; what an aborted command left in them does not matter elsewhere. -/
def Consistent (info : SdDevInfo) (d : Dispatched) (s : MscState) : Prop :=
  match s.botState with
  | .dataIn => s.ioBlocksLeft.toNat = 0 ∨ Covered info d.lastRead s
  | .dataOut =>
      s.ioBlocksLeft.toNat ≠ 0 ∧ s.ioChunkBlocks = nextChunk s.ioBlocksLeft ∧
        Covered info d.lastWrite s
  | .idle | .csw => True

/-- A callback's result: the invariant holds again and every access was in
bounds. -/
def Safe (info : SdDevInfo) (d : Dispatched) (result : MscState × List Action) : Prop :=
  Consistent info d result.1 ∧ ∀ action ∈ result.2, InBounds info d action

section Results

variable {info : SdDevInfo} {d : Dispatched}

theorem safe_cons {s : MscState} {action : Action} {actions : List Action}
    (inBounds : InBounds info d action) (safe : Safe info d (s, actions)) :
    Safe info d (s, action :: actions) := by
  refine ⟨safe.1, ?_⟩
  intro other member
  rcases List.mem_cons.mp member with rfl | later
  · exact inBounds
  · exact safe.2 other later

theorem safe_mscArmCbw (s : MscState) : Safe info d (mscArmCbw s) := by
  simp [Safe, Consistent, mscArmCbw, InBounds]

theorem safe_mscSendCsw (status : UInt8) (s : MscState) :
    Safe info d (mscSendCsw status s) := by
  simp [Safe, Consistent, mscSendCsw, InBounds]

theorem safe_mscFail (key asc : UInt8) (s : MscState) : Safe info d (mscFail key asc s) :=
  safe_mscSendCsw 1 _

theorem safe_mscSendData (data : List UInt8) (s : MscState) :
    Safe info d (mscSendData data s) := by
  simp [Safe, Consistent, mscSendData, InBounds]

/-- The next chunk of a covered command is within it. -/
theorem Covered.within {range : Option IoRange} {s : MscState} (covered : Covered info range s)
    (some_left : s.ioBlocksLeft.toNat ≠ 0) :
    Within info range s.ioLba (nextChunk s.ioBlocksLeft * blockBytes) := by
  rcases covered with ⟨command, last, low, high, fits⟩
  exact ⟨min 32 s.ioBlocksLeft.toNat, command, nextChunk_size_toNat _, by omega, by omega, last,
    low, by omega, by omega⟩

/-- Moving on by one chunk keeps a command covered while blocks are left. The
address counter cannot wrap before its last block: block addresses fit 32
bits. -/
theorem Covered.advance {range : Option IoRange} {s t : MscState}
    (covered : Covered info range s)
    (lba : t.ioLba = s.ioLba + nextChunk s.ioBlocksLeft)
    (left : t.ioBlocksLeft = s.ioBlocksLeft - nextChunk s.ioBlocksLeft)
    (some_left : t.ioBlocksLeft.toNat ≠ 0) : Covered info range t := by
  rcases covered with ⟨command, last, low, high, fits⟩
  have addresses := info.blockCount_le
  have chunk := nextChunk_toNat s.ioBlocksLeft
  have left_toNat : t.ioBlocksLeft.toNat =
      s.ioBlocksLeft.toNat - min 32 s.ioBlocksLeft.toNat := by
    rw [left, sub_nextChunk_toNat]
  have lba_toNat : t.ioLba.toNat = s.ioLba.toNat + min 32 s.ioBlocksLeft.toNat := by
    rw [lba, UInt32.toNat_add, chunk]
    omega
  exact ⟨command, last, by omega, by omega, fits⟩

theorem safe_mscContinueRead (sd : SdOutcome) (s : MscState)
    (some_left : s.ioBlocksLeft.toNat ≠ 0) (covered : Covered info d.lastRead s) :
    Safe info d (mscContinueRead sd s) := by
  unfold mscContinueRead
  cases sd with
  | fail residue => exact safe_cons (covered.within some_left) (safe_mscFail _ _ _)
  | ok =>
      refine safe_cons (covered.within some_left) ⟨?_, by simp [InBounds]⟩
      by_cases finished : (s.ioBlocksLeft - nextChunk s.ioBlocksLeft).toNat = 0
      · exact .inl finished
      · exact .inr (covered.advance rfl rfl finished)

theorem safe_mscArmWriteChunk (s : MscState) (some_left : s.ioBlocksLeft.toNat ≠ 0)
    (covered : Covered info d.lastWrite s) : Safe info d (mscArmWriteChunk s) :=
  ⟨⟨some_left, rfl, covered⟩, by simp [mscArmWriteChunk, InBounds]⟩

/-- The range check at dispatch is what covers a command. -/
theorem safe_mscDispatchIo {start : MscState → MscState × List Action} {s : MscState}
    {range : Option IoRange} (noted : range = some s.cbw.ioRange)
    (started : ∀ t, t.ioBlocksLeft.toNat ≠ 0 → Covered info range t → Safe info d (start t)) :
    Safe info d (mscDispatchIo info start s) := by
  unfold mscDispatchIo
  split
  · exact safe_mscSendCsw 0 s
  · rename_i nonzero
    split
    · exact safe_mscFail _ _ s
    · rename_i in_range
      apply started
      · intro zero
        exact nonzero (UInt32.toNat.inj zero)
      · exact ⟨s.cbw.ioRange, noted, Nat.le_refl _, rfl, Nat.not_lt.mp in_range⟩

theorem safe_mscCmdDispatch (sd : SdOutcome) (s : MscState) :
    Safe info (d.note s.cbw) (mscCmdDispatch info sd s) := by
  unfold mscCmdDispatch
  split
  case h_9 opcode =>
    exact safe_mscDispatchIo (by simp [Dispatched.note, opcode])
      fun t some_left covered => safe_mscContinueRead sd t some_left covered
  case h_10 opcode =>
    exact safe_mscDispatchIo (by simp [Dispatched.note, opcode])
      fun t some_left covered => safe_mscArmWriteChunk t some_left covered
  case h_11 => exact safe_mscFail _ _ s
  case h_1 | h_2 | h_3 => exact safe_mscSendCsw 0 s
  all_goals exact safe_mscSendData _ _

theorem safe_unchanged {s : MscState} (consistent : Consistent info d s) :
    Safe info d (s, []) :=
  ⟨consistent, by simp⟩

theorem safe_mscDataIn (epnum : UInt8) (sd : SdOutcome) (s : MscState)
    (consistent : Consistent info d s) : Safe info d (mscDataIn epnum sd s) := by
  unfold mscDataIn
  split
  · exact safe_unchanged consistent
  · cases state : s.botState
    case dataIn =>
      simp only [Consistent, state] at consistent
      simp only
      split
      · rename_i some_left
        have positive : s.ioBlocksLeft.toNat ≠ 0 := by
          intro zero
          exact some_left (UInt32.toNat.inj zero)
        exact safe_mscContinueRead sd s positive (consistent.resolve_left positive)
      · exact safe_mscSendCsw 0 s
    case csw => exact safe_mscArmCbw s
    case idle | dataOut => exact safe_unchanged consistent

theorem safe_handOver {s : MscState} {success : Bool} {result : MscState × List Action}
    (within : Within info d.lastWrite s.ioLba (s.ioChunkBlocks * blockBytes))
    (safe : Safe info d result) : Safe info d (s.handOver success result) := by
  unfold MscState.handOver
  apply safe_cons _ safe
  exact within

/-- The chunk being completed, and then the one armed after it. -/
theorem safe_mscDataOut_chunk (xferCount : UInt32) (sd : SdOutcome) (s : MscState)
    (state : s.botState = .dataOut) (consistent : Consistent info d s) :
    Safe info d (mscDataOut info mscEpNum xferCount sd s) := by
  simp only [Consistent, state] at consistent
  rcases consistent with ⟨some_left, chunk, covered⟩
  have within := covered.within some_left
  rw [← chunk] at within
  cases sd with
  | fail residue =>
      rw [mscDataOut_dataOut_fail state]
      exact safe_handOver within (safe_mscFail _ _ _)
  | ok =>
      rw [mscDataOut_dataOut_ok state]
      apply safe_handOver within
      have lba : s.chunkWritten.ioLba = s.ioLba + nextChunk s.ioBlocksLeft := by
        rw [← chunk]
        rfl
      have left : s.chunkWritten.ioBlocksLeft = s.ioBlocksLeft - nextChunk s.ioBlocksLeft := by
        rw [← chunk]
        rfl
      by_cases drained : s.chunkWritten.ioBlocksLeft = 0
      · rw [afterChunk_last drained]
        exact safe_mscSendCsw 0 _
      · have positive : s.chunkWritten.ioBlocksLeft.toNat ≠ 0 := by
          intro zero
          exact drained (UInt32.toNat.inj zero)
        rw [afterChunk_more drained]
        exact safe_mscArmWriteChunk _ positive (covered.advance lba left positive)

theorem safe_mscDataOut (epnum : UInt8) (xferCount : UInt32) (sd : SdOutcome) (s : MscState)
    (consistent : Consistent info d s) :
    Safe info (d.after (.dataOut epnum xferCount sd) s)
      (mscDataOut info epnum xferCount sd s) := by
  by_cases ours : epnum = mscEpNum
  · subst ours
    cases state : s.botState
    case idle =>
      simp only [mscDataOut, state, ne_eq, not_true_eq_false, if_false, Dispatched.after,
        dispatches, true_and]
      split
      · exact safe_mscCmdDispatch sd s
      · exact safe_mscFail _ _ s
    case dataOut =>
      simp only [Dispatched.after, dispatches, state, reduceCtorEq, false_and, and_false, if_false]
      exact safe_mscDataOut_chunk xferCount sd s state consistent
    case dataIn | csw =>
      simp only [mscDataOut, state, ne_eq, not_true_eq_false, if_false, Dispatched.after,
        dispatches, reduceCtorEq, false_and, and_false]
      exact safe_unchanged consistent
  · simp only [mscDataOut, ne_eq, ours, not_false_eq_true, if_true, Dispatched.after, dispatches,
      false_and, if_false]
    exact safe_unchanged consistent

theorem safe_mscSetup (req : SetupReq) (s : MscState) (consistent : Consistent info d s) :
    Safe info d (mscSetup req s) := by
  unfold mscSetup
  simp only
  split
  · split
    · exact ⟨consistent, by simp [InBounds]⟩
    · split
      · exact safe_mscArmCbw _
      · exact ⟨consistent, by simp [InBounds]⟩
  · exact ⟨consistent, by simp [InBounds]⟩

theorem safe_mscInit (s : MscState) : Safe info d (mscInit s) :=
  safe_cons trivial (safe_cons trivial (safe_mscArmCbw _))

end Results

/-- One event keeps the invariant and makes in-bounds accesses only. -/
theorem safe_handle (info : SdDevInfo) (event : ClassEvent) (session : Session)
    (consistent : Consistent info session.dispatched session.dev) :
    Safe info (session.next info event).dispatched (handle info event session.dev) := by
  cases event with
  | init => exact safe_mscInit session.dev
  | setup req => exact safe_mscSetup req session.dev consistent
  | dataIn epnum sd => exact safe_mscDataIn epnum sd session.dev consistent
  | dataOut epnum xferCount sd => exact safe_mscDataOut epnum xferCount sd session.dev consistent
  | hostWrites cbw xferBuf => exact safe_unchanged consistent

/-- The class before anything has been dispatched. -/
def Session.boot (card : Store UInt8) : Session :=
  { dev := .boot card, dispatched := { lastRead := none, lastWrite := none } }

theorem consistent_step (info : SdDevInfo) (session : Session) (event : ClassEvent)
    (next : Session) (consistent : Consistent info session.dispatched session.dev)
    (taken : ClassStep info session event next) :
    Consistent info next.dispatched next.dev := by
  cases taken
  exact (safe_handle info event session consistent).1

/-- In every state reached by any events in any order, every SD access that the
next event makes is in bounds. -/
theorem classRun_inBounds (info : SdDevInfo) (card : Store UInt8) (events : List ClassEvent)
    (session : Session) (run : Run (ClassStep info) (.boot card) events session)
    (event : ClassEvent) :
    ∀ action ∈ (handle info event session.dev).2,
      InBounds info (session.next info event).dispatched action := by
  have consistent : Consistent info session.dispatched session.dev := by
    apply run.invariant fun s : Session => Consistent info s.dispatched s.dev
    · intro state other next before taken
      exact consistent_step info state other next before taken
    · trivial
  exact (safe_handle info event session consistent).2

/-- The first READ(10) after a power-up: three blocks from block 1021 of a card
of 1024. -/
theorem classRun_inBounds_lastBlocks :
    let cbw : Cbw := fun i =>
      ([0x55, 0x53, 0x42, 0x43, 1, 0, 0, 0, 0, 6, 0, 0, 0x80, 0, 10,
        0x28, 0, 0, 0, 3, 0xFD, 0, 0, 3, 0][i]?).getD 0
    let session := (Session.boot fun _ => 0).next .smallest (.hostWrites cbw fun _ => 0)
    ∀ action ∈ (handle .smallest (.dataOut mscEpNum cbwLength .ok) session.dev).2,
      InBounds .smallest
        (session.next .smallest (.dataOut mscEpNum cbwLength .ok)).dispatched action :=
  classRun_inBounds .smallest (fun _ => 0) [.hostWrites _ _] _ (.cons rfl (.nil _))
    (.dataOut mscEpNum cbwLength .ok)

end Mp257Fsbl.Usb.Msc
