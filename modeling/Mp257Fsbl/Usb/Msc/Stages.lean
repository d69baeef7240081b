/-
Module: Mp257Fsbl.Usb.Msc.Stages
Purpose: Where a command stands between its wrapper and its status, what every
  completed transfer makes of it, and that it ends.
Trusted boundary: none
Main exports: Plan.Ledger, Plan.Moved, Stage, Stands, stands_opened, stands_run,
  stands_finishes
-/
import Mp257Fsbl.Usb.Msc.BlockDevice
import Mp257Fsbl.Usb.Msc.Course

namespace Mp257Fsbl.Usb.Msc

open Mp257Fsbl.Foundation
open Mp257Fsbl.Sd

/-! ### What the plan says about the record -/

namespace Account

def lba (x : Account) : Nat := x.cbw.lba.toNat
def cnt (x : Account) : Nat := x.cbw.cnt.toNat
def dataLength (x : Account) : Nat := x.cbw.dataLength.toNat

/-- The blocks that the successful SD calls account for: chunks of 32, up to
the blocks of the command. -/
def blocksDone (x : Account) : Nat := min x.cnt (32 * x.sdDone)

theorem blocksDone_begun (cbw : Cbw) (card : Store UInt8) : (begun cbw card).blocksDone = 0 :=
  Nat.min_zero _

@[simp] theorem lba_grow (x : Account) (result : MscState × List Action) :
    (x.grow result).lba = x.lba := rfl

@[simp] theorem cnt_grow (x : Account) (result : MscState × List Action) :
    (x.grow result).cnt = x.cnt := rfl

@[simp] theorem dataLength_grow (x : Account) (result : MscState × List Action) :
    (x.grow result).dataLength = x.dataLength := rfl

@[simp] theorem lba_logged (x : Account) (action : Action) : (x.logged action).lba = x.lba := rfl

@[simp] theorem cnt_logged (x : Account) (action : Action) : (x.logged action).cnt = x.cnt := rfl

@[simp] theorem dataLength_logged (x : Account) (action : Action) :
    (x.logged action).dataLength = x.dataLength := rfl

@[simp] theorem lba_moved (x : Account) (sent stored : List UInt8) :
    (x.moved sent stored).lba = x.lba := rfl

@[simp] theorem cnt_moved (x : Account) (sent stored : List UInt8) :
    (x.moved sent stored).cnt = x.cnt := rfl

@[simp] theorem dataLength_moved (x : Account) (sent stored : List UInt8) :
    (x.moved sent stored).dataLength = x.dataLength := rfl

end Account

namespace Plan

/-- What has been armed for data, at any moment. -/
def Ledger (x : Account) : Plan → Prop
  | .good | .bad _ => x.queuedIn = 0 ∧ x.sends = 0 ∧ x.armedOut = 0
  | .reply data _ =>
      x.queuedIn = min data.length x.dataLength ∧ x.sends = 1 ∧ x.armedOut = 0
  | .read => x.queuedIn = 512 * x.blocksDone ∧ x.sends = x.sdDone ∧ x.armedOut = 0
  | .write => x.queuedIn = 0 ∧ x.sends = 0 ∧ x.armedOut = 512 * min x.cnt (32 * (x.sdDone + 1))

/-- Whether a command with these SD calls fails. -/
def fails (sdFailed : Bool) : Plan → Bool
  | .bad _ => true
  | _ => sdFailed

/-- The sense that the command leaves. -/
def senseAfter (sdFailed : Bool) (sense : Sense) : Plan → Sense
  | .good => sense
  | .bad left => left
  | .reply _ clears => if clears then (0, 0) else sense
  | .read => if sdFailed then (0x04, 0x11) else sense
  | .write => if sdFailed then (0x04, 0x03) else sense

end Plan

/-- The record of a WRITE(10) at its status; `full` when its transfers were. -/
structure Account.Written (full : Prop) (x : Account) : Prop where
  nothingSent : x.sent = []
  bounded : x.stored.length ≤ 512 * x.blocksDone
  all : x.sdFailed = false → x.cnt ≤ 32 * x.sdDone
  stopped : x.sdFailed = true → 32 * x.sdDone < x.cnt
  whole : full → x.stored.length = 512 * x.blocksDone
  good : full → x.sdFailed = false → x.after = x.before.overlay (512 * x.lba) x.stored
  partWay : full → x.sdFailed = true → ∃ residue : List UInt8,
    residue.length = 512 * min 32 (x.cnt - x.blocksDone) ∧
      x.after = (x.before.overlay (512 * x.lba) x.stored).overlay
        (512 * (x.lba + x.blocksDone)) residue

/-- The data that has moved when the status comes. -/
def Plan.Moved (full : Prop) (x : Account) : Plan → Prop
  | .good | .bad _ => x.sent = [] ∧ x.stored = [] ∧ x.after = x.before ∧ x.sdFailed = false
  | .reply data _ =>
      x.sent = data.take x.dataLength ∧ x.stored = [] ∧ x.after = x.before ∧ x.sdFailed = false
  | .read =>
      x.sent = x.before.window (512 * x.lba) (512 * x.blocksDone) ∧ x.stored = [] ∧
        x.after = x.before ∧ (x.sdFailed = false → x.cnt ≤ 32 * x.sdDone)
  | .write => x.Written full

/-! ### The stages -/

section Stages

variable (full : Prop) (sense : Sense)

/-- A reply is on its way. -/
structure Replying (data : List UInt8) (clears : Bool) (c : Course) : Prop where
  state : c.bus.dev.botState = .dataIn
  drained : c.bus.dev.ioBlocksLeft = 0
  armed : ∃ len, c.bus.outstanding = [.bulkIn .xferBuf len] ∧
    c.bus.dev.source .xferBuf len.toNat = data.take c.account.dataLength
  tagged : c.bus.dev.cbw.tag = c.account.cbw.tag
  sensed : c.bus.dev.sense = if clears then (0, 0) else sense
  nothingSent : c.account.sent = []
  nothingStored : c.account.stored = []
  sameCard : c.bus.dev.card = c.account.before
  noFailure : c.account.sdFailed = false

/-- `done` blocks are with the host, `chunk` are on their way and `left` are
still to be read. -/
structure ReadingOn (done chunk left : Nat) (c : Course) : Prop where
  reading : Reading c.account.before (c.account.lba + done) chunk left c.bus
  total : done + chunk + left = c.account.cnt
  room : c.account.lba + c.account.cnt ≤ 2 ^ 32
  calls : done + chunk = c.account.blocksDone
  tagged : c.bus.dev.cbw.tag = c.account.cbw.tag
  sensed : c.bus.dev.sense = sense
  sent : c.account.sent = c.account.before.window (512 * c.account.lba) (512 * done)
  nothingStored : c.account.stored = []
  noFailure : c.account.sdFailed = false

/-- `done` blocks are stored and the next of the `left` ones are awaited. -/
structure WritingOn (done left : Nat) (c : Course) : Prop where
  writing : Writing c.bus.dev.card (c.account.lba + done) left c.bus
  total : done + left = c.account.cnt
  room : c.account.lba + c.account.cnt ≤ 2 ^ 32
  more : left ≠ 0
  calls : done = 32 * c.account.sdDone
  tagged : c.bus.dev.cbw.tag = c.account.cbw.tag
  sensed : c.bus.dev.sense = sense
  nothingSent : c.account.sent = []
  received : c.account.stored.length ≤ 512 * done
  whole : full → c.account.stored.length = 512 * done
  exact : full → c.bus.dev.card =
    c.account.before.overlay (512 * c.account.lba) c.account.stored
  noFailure : c.account.sdFailed = false

/-- The status is on its way. -/
structure Finished (plan : Plan) (c : Course) : Prop where
  state : c.bus.dev.botState = .csw
  armed : c.bus.outstanding = [.bulkIn .csw cswLength]
  csw : c.bus.dev.csw =
    { signature := cswSignature
      tag := c.account.cbw.tag
      dataResidue := 0
      status := if plan.fails c.account.sdFailed then 1 else 0 }
  sensed : c.bus.dev.sense = plan.senseAfter c.account.sdFailed sense
  kept : c.bus.dev.card = c.account.after
  moved : plan.Moved full c.account

/-- Where the command stands. -/
inductive Stage (plan : Plan) (c : Course) : Prop where
  | replying {data : List UInt8} {clears : Bool} (is : plan = .reply data clears)
      (replying : Replying sense data clears c)
  | reading {done chunk left : Nat} (is : plan = .read)
      (reading : ReadingOn sense done chunk left c)
  | writing {done left : Nat} (is : plan = .write) (writing : WritingOn full sense done left c)
  | finished (finished : Finished full sense plan c)

/-- Where the command stands, with the books in order. -/
def Stands (plan : Plan) (c : Course) : Prop := Stage full sense plan c ∧ plan.Ledger c.account

end Stages

section Helpers

variable {full : Prop} {sense : Sense} {plan : Plan} {x : Account} {s : MscState}

/-- The status adds nothing to the books. -/
theorem ledger_mscSendCsw (status : UInt8) :
    plan.Ledger (x.grow (mscSendCsw status s)) ↔ plan.Ledger x := by
  cases plan <;>
    simp [Plan.Ledger, Account.blocksDone, mscSendCsw, Action.queued, Action.sends,
      Action.awaited, Action.sdDone]

theorem stands_mscSendCsw {status : UInt8} (tagged : s.cbw.tag = x.cbw.tag)
    (verdict : status = if plan.fails x.sdFailed then 1 else 0)
    (sensed : s.sense = plan.senseAfter x.sdFailed sense)
    (moved : plan.Moved full (x.grow (mscSendCsw status s))) (ledger : plan.Ledger x) :
    Stands full sense plan (x.course (mscSendCsw status s)) := by
  have sameFailures : (x.grow (mscSendCsw status s)).sdFailed = x.sdFailed := by
    simp [mscSendCsw, Action.sdFailed]
  refine ⟨.finished ⟨rfl, rfl, ?_, ?_, rfl, moved⟩, (ledger_mscSendCsw status).mpr ledger⟩
  · rw [account_course, sameFailures, ← verdict, Account.cbw_grow, ← tagged]
    rfl
  · rw [account_course, sameFailures, ← sensed]
    rfl

/-- `done` blocks are with the host and the next of the `left` ones are about to
be read. -/
structure AboutToRead (sense : Sense) (done left : Nat) (x : Account) (s : MscState) : Prop where
  at_lba : s.ioLba.toNat = x.lba + done
  at_left : s.ioBlocksLeft.toNat = left
  more : left ≠ 0
  total : done + left = x.cnt
  room : x.lba + x.cnt ≤ 2 ^ 32
  calls : done = x.blocksDone
  sameCard : s.card = x.before
  tagged : s.cbw.tag = x.cbw.tag
  sensed : s.sense = sense
  sent : x.sent = x.before.window (512 * x.lba) (512 * done)
  nothingStored : x.stored = []
  noFailure : x.sdFailed = false
  ledger : Plan.read.Ledger x

theorem AboutToRead.calls_exact {done left : Nat} (about : AboutToRead sense done left x s) :
    done = 32 * x.sdDone := by
  have total := about.total
  have more := about.more
  have calls := about.calls
  unfold Account.blocksDone at calls
  omega

theorem stands_mscContinueRead (done left : Nat) (about : AboutToRead sense done left x s)
    (sd : SdOutcome) : Stands full sense .read (x.course (mscContinueRead sd s)) := by
  have total := about.total
  have room := about.room
  have exact := about.calls_exact
  have ledger := about.ledger
  cases sd with
  | ok =>
      have reading := reading_mscContinueRead about.at_lba about.at_left (by omega)
      have size := nextChunk_size_toNat s.ioBlocksLeft
      rw [about.at_left] at size
      have calls : done + min 32 left = (x.grow (mscContinueRead .ok s)).blocksDone := by
        simp [Account.blocksDone, mscContinueRead, sdRead, Action.sdDone, List.countP_cons]
        omega
      rw [about.sameCard] at reading
      refine ⟨.reading rfl ⟨reading, by simp; omega, room, calls, about.tagged, about.sensed,
        about.sent, about.nothingStored, ?_⟩, ?_⟩
      · simp [mscContinueRead, sdRead, Action.sdFailed, about.noFailure]
      · rw [Plan.Ledger, account_course, ← calls]
        simp [mscContinueRead, sdRead, Action.queued, Action.sends, Action.awaited,
          Action.sdDone, List.countP_cons, ledger.1, ledger.2.1, ledger.2.2, ← about.calls, size]
        omega
  | fail residue =>
      change Stands full sense .read (x.course (_, .sdRead _ _ false :: _))
      rw [course_cons _ _ _ _ rfl]
      refine stands_mscSendCsw about.tagged ?_ ?_ ?_ ?_
      · simp [Plan.fails, Action.sdFailed]
      · simp [Plan.senseAfter, Action.sdFailed, MscState.sense]
      · refine ⟨?_, about.nothingStored, about.sameCard, ?_⟩
        · simpa [Account.blocksDone, mscSendCsw, Action.sdDone, about.calls] using about.sent
        · simp [mscSendCsw, Action.sdFailed]
      · simpa [Plan.Ledger, Account.blocksDone, Action.queued, Action.sends, Action.awaited,
          Action.sdDone] using ledger

/-- `done` blocks are stored and `left` are not; nothing is awaited. -/
structure ChunkTaken (full : Prop) (sense : Sense) (done left : Nat) (x : Account)
    (s : MscState) : Prop where
  at_left : s.ioBlocksLeft.toNat = left
  total : done + left = x.cnt
  room : x.lba + x.cnt ≤ 2 ^ 32
  calls : done = x.blocksDone
  tagged : s.cbw.tag = x.cbw.tag
  sensed : s.sense = sense
  nothingSent : x.sent = []
  received : x.stored.length ≤ 512 * done
  whole : full → x.stored.length = 512 * done
  exact : full → s.card = x.before.overlay (512 * x.lba) x.stored
  noFailure : x.sdFailed = false
  nothingQueued : x.queuedIn = 0 ∧ x.sends = 0
  armed : x.armedOut = 512 * done

/-- The next of the `left` blocks are about to be awaited. -/
structure AboutToWrite (full : Prop) (sense : Sense) (done left : Nat) (x : Account)
    (s : MscState) : Prop extends ChunkTaken full sense done left x s where
  at_lba : s.ioLba.toNat = x.lba + done
  more : left ≠ 0

theorem AboutToWrite.calls_exact {done left : Nat} (about : AboutToWrite full sense done left x s) :
    done = 32 * x.sdDone := by
  have total := about.total
  have more := about.more
  have calls := about.calls
  unfold Account.blocksDone at calls
  omega

/-- After the last chunk comes the status. -/
theorem stands_of_lastChunk {done : Nat} (taken : ChunkTaken full sense done 0 x s) :
    Stands full sense .write (x.course (mscSendCsw 0 s)) := by
  have total := taken.total
  have calls := taken.calls
  have all : x.cnt ≤ 32 * x.sdDone := by
    unfold Account.blocksDone at calls
    omega
  have sameDone : (x.grow (mscSendCsw 0 s)).blocksDone = done := by
    simpa [Account.blocksDone, mscSendCsw, Action.sdDone] using calls.symm
  have noFailure : (x.grow (mscSendCsw 0 s)).sdFailed = false := by
    simp [mscSendCsw, Action.sdFailed, taken.noFailure]
  refine stands_mscSendCsw taken.tagged ?_ ?_ ?_ ?_
  · simp [Plan.fails, taken.noFailure]
  · simp [Plan.senseAfter, taken.noFailure, taken.sensed]
  · refine
      { nothingSent := taken.nothingSent, bounded := ?_, all := ?_, stopped := ?_, whole := ?_,
        good := fun isFull _ => taken.exact isFull, partWay := ?_ }
    · rw [sameDone]
      exact taken.received
    · intro _
      simpa [mscSendCsw, Action.sdDone] using all
    · simp [noFailure]
    · rw [sameDone]
      exact taken.whole
    · simp [noFailure]
  · refine ⟨taken.nothingQueued.1, taken.nothingQueued.2, ?_⟩
    rw [taken.armed]
    omega

theorem stands_mscArmWriteChunk (done left : Nat)
    (about : AboutToWrite full sense done left x s) :
    Stands full sense .write (x.course (mscArmWriteChunk s)) := by
  have total := about.total
  have calls := about.calls_exact
  have size := nextChunk_size_toNat s.ioBlocksLeft
  rw [about.at_left] at size
  refine ⟨.writing rfl ⟨writing_mscArmWriteChunk about.at_lba about.at_left, total,
    about.room, about.more, ?_, about.tagged, about.sensed, about.nothingSent, about.received,
    about.whole, about.exact, ?_⟩, ?_, ?_, ?_⟩
  · simpa [mscArmWriteChunk, Action.sdDone] using calls
  · simpa [mscArmWriteChunk, Action.sdFailed] using about.noFailure
  · simpa [mscArmWriteChunk, Action.queued] using about.nothingQueued.1
  · simpa [mscArmWriteChunk, Action.sends] using about.nothingQueued.2
  · simp [mscArmWriteChunk, Action.awaited, Action.sdDone, about.armed, size]
    omega

end Helpers

/-! ### The wrapper arrives -/

section Opened

variable {full : Prop} {info : SdDevInfo} {v : ValidCbw} {sd : SdOutcome} {s : MscState}

/-- A reply is cut to what the host asked for. -/
theorem mscSendData_cut {data : List UInt8} (short : data.length < 512) (s : MscState) :
    ∃ len : UInt32, (mscSendData data s).2 = [.transmit .xferBuf len] ∧
      len.toNat = min data.length s.cbw.dataLength.toNat ∧
      (mscSendData data s).1.source .xferBuf len.toNat = data.take s.cbw.dataLength.toNat := by
  have whole : (UInt32.ofNat data.length).toNat = data.length := by
    rw [UInt32.toNat_ofNat']
    omega
  have cut : (if UInt32.ofNat data.length > s.cbw.dataLength then s.cbw.dataLength
      else UInt32.ofNat data.length).toNat = min data.length s.cbw.dataLength.toNat := by
    split
    · rename_i longer
      rw [gt_iff_lt, UInt32.lt_iff_toNat_lt, whole] at longer
      omega
    · rename_i fits
      rw [gt_iff_lt, UInt32.lt_iff_toNat_lt, whole] at fits
      omega
  refine ⟨_, rfl, cut, ?_⟩
  have taken : data.take (min data.length s.cbw.dataLength.toNat) =
      data.take s.cbw.dataLength.toNat := by
    rw [Nat.min_comm, ← List.take_take, List.take_length]
  have length : (data.take s.cbw.dataLength.toNat).length =
      min data.length s.cbw.dataLength.toNat := by
    rw [List.length_take, Nat.min_comm]
  have filled := Store.window_overlay_same s.xferBuf 0 (data.take s.cbw.dataLength.toNat)
  rw [length, ← taken, ← cut] at filled
  rw [← taken, ← cut]
  exact filled

theorem stands_mscSendData {data : List UInt8} {clears : Bool} {cbw : Cbw}
    (short : data.length < 512) (tagged : s.cbw.tag = cbw.tag)
    (asked : s.cbw.dataLength = cbw.dataLength) :
    Stands full s.sense (.reply data clears)
      ((Account.begun cbw s.card).course (mscSendData data (s.cleared clears))) := by
  have same : (s.cleared clears).cbw = s.cbw := by cases clears <;> rfl
  have sameCard : (s.cleared clears).card = s.card := by cases clears <;> rfl
  have sensed : (s.cleared clears).sense = if clears then (0, 0) else s.sense := by
    cases clears <;> rfl
  obtain ⟨len, actions, cut, source⟩ := mscSendData_cut short (s.cleared clears)
  rw [same, asked] at cut source
  refine ⟨.replying rfl ⟨rfl, rfl, ⟨len, ?_, source⟩, ?_, sensed, rfl, rfl, sameCard, ?_⟩,
    ?_, ?_, ?_⟩
  · rw [outstanding_course, actions]
    rfl
  · exact (congrArg Cbw.tag same).trans tagged
  · simp only [account_course, Account.sdFailed_grow, actions]
    rfl
  · simp only [account_course, Account.queuedIn_grow, actions]
    simpa [Action.queued, Account.queuedIn, Account.begun, Account.dataLength] using cut
  · simp only [account_course, Account.sends_grow, actions]
    rfl
  · simp only [account_course, Account.armedOut_grow, actions]
    rfl

theorem stands_start {plan : Plan} (planned : v.cbw.plan info s.sense = plan) :
    Stands full s.sense plan
      ((Account.begun v.cbw s.card).course (plan.start sd (s.received .cbw v.cbw.wire))) := by
  have tagged := tag_received v.cbw s
  cases plan with
  | good => exact stands_mscSendCsw tagged rfl rfl ⟨rfl, rfl, rfl, rfl⟩ ⟨rfl, rfl, rfl⟩
  | bad left => exact stands_mscSendCsw tagged rfl rfl ⟨rfl, rfl, rfl, rfl⟩ ⟨rfl, rfl, rfl⟩
  | reply data clears =>
      exact stands_mscSendData (plan_reply_length planned) tagged (dataLength_received v.cbw s)
  | read =>
      obtain ⟨some_blocks, inRange⟩ := plan_io_inv planned (.inl rfl)
      have positive : v.cbw.cnt.toNat ≠ 0 := fun zero => some_blocks (UInt32.toNat.inj zero)
      apply stands_mscContinueRead 0 v.cbw.cnt.toNat
      refine ⟨?_, ?_, positive, Nat.zero_add _, ?_, ?_, rfl, tagged, rfl, rfl, rfl, rfl, ?_⟩
      · exact congrArg UInt32.toNat (lba_received v.cbw s)
      · exact congrArg UInt32.toNat (cnt_received v.cbw s)
      · exact Nat.le_trans inRange info.blockCount_le
      · exact (Account.blocksDone_begun _ _).symm
      · exact ⟨by rw [Account.blocksDone_begun]; rfl, rfl, rfl⟩
  | write =>
      obtain ⟨some_blocks, inRange⟩ := plan_io_inv planned (.inr rfl)
      have positive : v.cbw.cnt.toNat ≠ 0 := fun zero => some_blocks (UInt32.toNat.inj zero)
      apply stands_mscArmWriteChunk 0 v.cbw.cnt.toNat
      refine ⟨⟨?_, Nat.zero_add _, ?_, ?_, tagged, rfl, rfl, Nat.le_refl _, fun _ => rfl, ?_, rfl,
        ⟨rfl, rfl⟩, rfl⟩, ?_, positive⟩
      · exact congrArg UInt32.toNat (cnt_received v.cbw s)
      · exact Nat.le_trans inRange info.blockCount_le
      · exact (Account.blocksDone_begun _ _).symm
      · intro _
        exact (Store.overlay_nil _ _).symm
      · exact congrArg UInt32.toNat (lba_received v.cbw s)

theorem stands_opened (full : Prop) (state : s.botState = .idle) :
    Stands full s.sense (v.cbw.plan info s.sense) (opened info v sd s) := by
  rw [opened, mscDataOut_wire info sd v.signed state, mscCmdDispatch_eq_start, plan_received]
  exact stands_start rfl

end Opened

/-! ### One completed transfer -/

/-- An OUT transfer that brings all it was armed for. -/
def Whole (c : Course) : BulkEvent → Prop
  | .out bytes _ =>
      ∃ len, c.bus.outstanding = [.bulkOut .xferBuf len] ∧ bytes.length = len.toNat
  | .in_ _ => True

section Steps

variable {full : Prop} {sense : Sense} {plan : Plan} {info : SdDevInfo} {c next : Course}
variable {event : BulkEvent} {sd : SdOutcome} {len : UInt32}

/-- Each stage has one transfer outstanding. -/
theorem Stage.armed_cases (stage : Stage full sense plan c) :
    (∃ len, c.bus.outstanding = [.bulkIn .xferBuf len] ∧
      ((∃ data clears, plan = .reply data clears ∧ Replying sense data clears c) ∨
        (plan = .read ∧ ∃ done chunk left, ReadingOn sense done chunk left c))) ∨
    (∃ len, c.bus.outstanding = [.bulkOut .xferBuf len] ∧
      plan = .write ∧ ∃ done left, WritingOn full sense done left c) ∨
    (c.bus.outstanding = [.bulkIn .csw cswLength] ∧ Finished full sense plan c) := by
  cases stage with
  | replying is replying =>
      obtain ⟨len, armed, _⟩ := replying.armed
      exact .inl ⟨len, armed, .inl ⟨_, _, is, replying⟩⟩
  | reading is reading =>
      obtain ⟨len, armed, _⟩ := reading.reading.armed
      exact .inl ⟨len, armed, .inr ⟨is, _, _, _, reading⟩⟩
  | writing is writing =>
      obtain ⟨len, armed, _⟩ := writing.writing.armed
      exact .inr (.inl ⟨len, armed, is, _, _, writing⟩)
  | finished finished => exact .inr (.inr ⟨finished.armed, finished⟩)

/-- What is on its way when an IN data transfer is outstanding. -/
theorem Stage.in_pending (stage : Stage full sense plan c)
    (pending : c.bus.outstanding = [.bulkIn .xferBuf len]) :
    (∃ data clears, plan = .reply data clears ∧ Replying sense data clears c) ∨
      (plan = .read ∧ ∃ done chunk left, ReadingOn sense done chunk left c) := by
  rcases stage.armed_cases with ⟨_, _, sending⟩ | ⟨_, armed, _⟩ | ⟨armed, _⟩
  · exact sending
  · simp [armed] at pending
  · simp [armed] at pending

theorem Stage.in_state (stage : Stage full sense plan c)
    (pending : c.bus.outstanding = [.bulkIn .xferBuf len]) : c.bus.dev.botState = .dataIn := by
  rcases stage.in_pending pending with ⟨_, _, _, replying⟩ | ⟨_, _, _, _, reading⟩
  · exact replying.state
  · exact reading.reading.state

/-- An OUT data transfer is outstanding for a chunk only. -/
theorem Stage.out_pending (stage : Stage full sense plan c)
    (pending : c.bus.outstanding = [.bulkOut .xferBuf len]) :
    plan = .write ∧ ∃ done left, WritingOn full sense done left c := by
  rcases stage.armed_cases with ⟨_, armed, _⟩ | ⟨_, _, awaiting⟩ | ⟨armed, _⟩
  · simp [armed] at pending
  · exact awaiting
  · simp [armed] at pending

/-- At the status no other stage is left. -/
theorem Stage.at_status (stage : Stage full sense plan c)
    (pending : c.bus.outstanding = [.bulkIn .csw cswLength]) : Finished full sense plan c := by
  rcases stage.armed_cases with ⟨_, armed, _⟩ | ⟨_, armed, _⟩ | ⟨_, finished⟩
  · simp [armed] at pending
  · simp [armed] at pending
  · exact finished

/-- No wrapper is awaited during a command. -/
theorem Stage.not_idle (stage : Stage full sense plan c) :
    c.bus.outstanding ≠ [.bulkOut .cbw cbwLength] := by
  intro pending
  rcases stage.armed_cases with ⟨_, armed, _⟩ | ⟨_, armed, _⟩ | ⟨armed, _⟩
  all_goals simp [armed] at pending

theorem stands_of_replying {data : List UInt8} {clears : Bool}
    (replying : Replying sense data clears c) (ledger : (Plan.reply data clears).Ledger c.account)
    (pending : c.bus.outstanding = [.bulkIn .xferBuf len]) :
    Stands full sense (.reply data clears)
      ((c.account.moved (c.bus.dev.source .xferBuf len.toNat) []).course
        (mscDataIn mscEpNum sd c.bus.dev)) := by
  obtain ⟨len', armed, source⟩ := replying.armed
  have same : len = len' := by simpa [armed] using pending.symm
  rw [mscDataIn_last sd replying.state replying.drained, same, source]
  refine stands_mscSendCsw replying.tagged ?_ ?_ ?_ ledger
  · simp [Plan.fails, replying.noFailure]
  · rw [replying.sensed]
    cases clears <;> rfl
  · refine ⟨?_, ?_, replying.sameCard, ?_⟩
    · simp [replying.nothingSent]
    · simp [replying.nothingStored]
    · simp [mscSendCsw, Action.sdFailed, replying.noFailure]

theorem stands_of_reading {done chunk left : Nat} (on : ReadingOn sense done chunk left c)
    (ledger : Plan.read.Ledger c.account) (pending : c.bus.outstanding = [.bulkIn .xferBuf len]) :
    Stands full sense .read
      ((c.account.moved (c.bus.dev.source .xferBuf len.toNat) []).course
        (mscDataIn mscEpNum sd c.bus.dev)) := by
  have reading := on.reading
  obtain ⟨len', armed, size⟩ := reading.armed
  have same : len = len' := by simpa [armed] using pending.symm
  have source : c.bus.dev.source .xferBuf len.toNat =
      c.account.before.window (512 * (c.account.lba + done)) (512 * chunk) := by
    rw [same, size]
    exact reading.buffer
  have sent : (c.account.moved (c.bus.dev.source .xferBuf len.toNat) []).sent =
      c.account.before.window (512 * c.account.lba) (512 * (done + chunk)) := by
    rw [Account.sent_moved, on.sent, source, Nat.mul_add 512 done, Store.window_add, Nat.mul_add]
  have total := on.total
  have calls := on.calls
  by_cases last : left = 0
  · have drained : c.bus.dev.ioBlocksLeft = 0 := UInt32.toNat.inj (reading.blocksLeft.trans last)
    rw [mscDataIn_last sd reading.state drained]
    refine stands_mscSendCsw on.tagged ?_ ?_ ?_ ledger
    · simp [Plan.fails, on.noFailure]
    · simp [Plan.senseAfter, on.noFailure, on.sensed]
    · refine ⟨?_, ?_, reading.sameCard, ?_⟩
      · simpa [Account.blocksDone, mscSendCsw, Action.sdDone, calls] using sent
      · simp [on.nothingStored]
      · intro _
        unfold Account.blocksDone at calls
        simp [mscSendCsw, Action.sdDone]
        omega
  · have more : c.bus.dev.ioBlocksLeft ≠ 0 := by
      intro drained
      exact last (by rw [← reading.blocksLeft, drained]; rfl)
    rw [mscDataIn_more sd reading.state more]
    apply stands_mscContinueRead (done + chunk) left
    refine ⟨?_, reading.blocksLeft, last, total, on.room, calls, reading.sameCard, on.tagged,
      on.sensed, sent, ?_, on.noFailure, ledger⟩
    · rw [reading.next last, Nat.add_assoc]
      rfl
    · simp [on.nothingStored]

section WritingStep

variable {done left : Nat} {bytes : List UInt8}

/-- A chunk that the card takes is on record. -/
theorem chunkTaken_of_writing (on : WritingOn full sense done left c)
    (ledger : Plan.write.Ledger c.account) (pending : c.bus.outstanding = [.bulkOut .xferBuf len])
    (fits : bytes.length ≤ receiveLimit len) (whole : full → bytes.length = len.toNat)
    (lba size : UInt32) (data : List UInt8) :
    ChunkTaken full sense (done + min 32 left) (left - min 32 left)
      ((c.account.moved [] bytes).logged (.sdWrite lba size data true))
      (c.bus.dev.received .xferBuf bytes).chunkWritten := by
  have writing := on.writing
  obtain ⟨len', armed, size⟩ := writing.armed
  have same : len = len' := by simpa [armed] using pending.symm
  subst same
  rw [receiveLimit_blocks size] at fits
  have total := on.total
  have calls := on.calls
  have received := on.received
  refine ⟨?_, ?_, on.room, ?_, on.tagged, on.sensed, ?_, ?_, ?_, ?_, ?_, ⟨?_, ?_⟩, ?_⟩
  · exact writing.rest
  · simp
    omega
  · simp [Account.blocksDone, Action.sdDone]
    omega
  · simp [on.nothingSent]
  · simp
    omega
  · intro isFull
    have full_length := whole isFull
    have before := on.whole isFull
    simp
    omega
  · intro isFull
    have all : bytes.length = 512 * min 32 c.bus.dev.ioBlocksLeft.toNat := by
      rw [whole isFull, size, writing.blocksLeft]
    rw [card_chunkWritten writing.chunk all, on.exact isFull, writing.at_lba, Nat.mul_add,
      ← on.whole isFull, Store.overlay_append]
    simp
  · simp [on.noFailure, Action.sdFailed]
  · simpa [Action.queued] using ledger.1
  · simpa [Action.sends] using ledger.2.1
  · simp [Action.awaited, ledger.2.2]
    omega

/-- A chunk that the card takes: the status, or the next chunk. -/
theorem stands_of_writing_ok (on : WritingOn full sense done left c)
    (ledger : Plan.write.Ledger c.account) (pending : c.bus.outstanding = [.bulkOut .xferBuf len])
    (fits : bytes.length ≤ receiveLimit len) (whole : full → bytes.length = len.toNat) :
    Stands full sense .write
      ((c.account.moved [] bytes).course
        (mscDataOut info mscEpNum (UInt32.ofNat bytes.length) .ok
          (c.bus.dev.received .xferBuf bytes))) := by
  have writing := on.writing
  have total := on.total
  have room := on.room
  rw [mscDataOut_dataOut_ok (by simpa using writing.state), MscState.handOver,
    course_cons _ _ _ _ rfl]
  have taken := chunkTaken_of_writing on ledger pending fits whole
  have rest := (taken 0 0 []).at_left
  by_cases drained : (c.bus.dev.received .xferBuf bytes).chunkWritten.ioBlocksLeft = 0
  · rw [afterChunk_last drained]
    have none_left : left - min 32 left = 0 := by
      rw [← rest, drained]
      rfl
    simp only [none_left] at taken
    exact stands_of_lastChunk (taken _ _ _)
  · have more : left - min 32 left ≠ 0 := by
      intro none_left
      exact drained (UInt32.toNat.inj (rest.trans none_left))
    have next_lba : (c.bus.dev.ioLba + c.bus.dev.ioChunkBlocks).toNat =
        c.account.lba + (done + min 32 left) := by
      rw [writing.next_lba (by omega) more, Nat.add_assoc]
    rw [afterChunk_more drained]
    exact stands_mscArmWriteChunk _ _ ⟨taken _ _ _, next_lba, more⟩

/-- A chunk that the card refuses: the blocks before it are stored, and its own
hold anything. -/
theorem stands_of_writing_fail (on : WritingOn full sense done left c)
    (ledger : Plan.write.Ledger c.account) (residue : Store UInt8) :
    Stands full sense .write
      ((c.account.moved [] []).course
        (mscDataOut info mscEpNum (UInt32.ofNat bytes.length) (.fail residue)
          (c.bus.dev.received .xferBuf bytes))) := by
  have writing := on.writing
  have total := on.total
  have calls := on.calls
  have more := on.more
  have size := writing.size_toNat
  have blocksDone : c.account.blocksDone = done := by
    unfold Account.blocksDone
    omega
  rw [mscDataOut_dataOut_fail (by simpa using writing.state), MscState.handOver,
    course_cons _ _ _ _ rfl]
  refine stands_mscSendCsw on.tagged ?_ ?_ ?_ ?_
  · simp [Plan.fails, Action.sdFailed]
  · simp [Plan.senseAfter, Action.sdFailed, MscState.sense]
  · refine
      { nothingSent := ?_, bounded := ?_, all := ?_, stopped := ?_, whole := ?_, good := ?_,
        partWay := ?_ }
    · simp [on.nothingSent]
    · have before := on.received
      simp [Account.blocksDone, mscSendCsw, Action.sdDone]
      omega
    · simp [mscSendCsw, Action.sdFailed]
    · intro _
      simp [mscSendCsw, Action.sdDone]
      omega
    · intro isFull
      have before := on.whole isFull
      simp [Account.blocksDone, mscSendCsw, Action.sdDone]
      omega
    · simp [mscSendCsw, Action.sdFailed]
    · intro isFull _
      have same : ∀ action (result : MscState × List Action), action.sdDone = false →
          result.2.countP Action.sdDone = 0 →
            (((c.account.moved [] []).logged action).grow result).blocksDone = done := by
        intro action result notDone noneDone
        simpa [Account.blocksDone, notDone, noneDone] using blocksDone
      refine ⟨residue.window 0 (512 * min 32 left), ?_, ?_⟩
      · rw [same _ _ rfl rfl, Store.window_length]
        simp
        omega
      · have failed : ((c.bus.dev.received .xferBuf bytes).chunkFailed residue).card =
            c.bus.dev.card.overlay (512 * c.bus.dev.ioLba.toNat)
              (residue.window 0 (c.bus.dev.ioChunkBlocks * blockBytes).toNat) := rfl
        rw [size, writing.at_lba, on.exact isFull] at failed
        rw [same _ _ rfl rfl, Account.stored_grow, Account.stored_logged, Account.stored_moved,
          List.append_nil]
        exact failed
  · refine ⟨?_, ?_, ?_⟩
    · simpa [Action.queued] using ledger.1
    · simpa [Action.sends] using ledger.2.1
    · simpa [Action.awaited, Action.sdDone] using ledger.2.2

end WritingStep

/-- One completed transfer. -/
theorem stands_step (stands : Stands full sense plan c) (step : DataStep info c event next)
    (whole : full → Whole c event) : Stands full sense plan next := by
  rcases stands with ⟨stage, ledger⟩
  cases step with
  | in_ pending =>
      rcases stage.in_pending pending with ⟨_, _, rfl, replying⟩ | ⟨rfl, _, _, _, reading⟩
      · exact stands_of_replying replying ledger pending
      · exact stands_of_reading reading ledger pending
  | out pending fits =>
      rename_i len bytes sd
      obtain ⟨rfl, _, _, writing⟩ := stage.out_pending pending
      cases sd with
      | fail residue => exact stands_of_writing_fail writing ledger residue
      | ok =>
          refine stands_of_writing_ok writing ledger pending fits ?_
          intro isFull
          obtain ⟨len', armed, all⟩ := whole isFull
          have same : len = len' := by simpa [pending] using armed
          rw [same, all]

end Steps

/-! ### Runs of the data phase -/

section Runs

variable {full : Prop} {sense : Sense} {plan : Plan} {info : SdDevInfo} {c next finish : Course}

theorem stands_run {events : List BulkEvent} (run : Run (DataStep info) c events finish)
    (stands : Stands False sense plan c) : Stands False sense plan finish := by
  apply run.invariant (Stands False sense plan) _ stands
  intro state event next before step
  exact stands_step before step False.elim

theorem stands_wholeRun {events : List BulkEvent}
    (run : Run (Guarded Whole (DataStep info)) c events finish)
    (stands : Stands full sense plan c) :
    Stands full sense plan finish := by
  apply run.guarded_invariant (Stands full sense plan) _ stands
  intro state event next before whole step
  exact stands_step before step fun _ => whole

theorem stands_fullStep {supply : Supply} (stands : Stands full sense plan c)
    (step : FullStep info c supply next) : Stands full sense plan next := by
  apply stands_step stands step
  intro _
  unfold FullStep at step
  generalize happened : supply.event c.bus = event at step
  cases step with
  | in_ pending => trivial
  | out pending fits =>
      simp only [Supply.event, pending, BulkEvent.out.injEq] at happened
      rcases happened with ⟨rfl, rfl⟩
      exact ⟨_, pending, Store.window_length _ _ _⟩

/-- The wrapper and the card it found stay on record. -/
theorem cbw_step {event : BulkEvent} (step : DataStep info c event next) :
    next.account.cbw = c.account.cbw ∧ next.account.before = c.account.before := by
  cases step <;> exact ⟨rfl, rfl⟩

theorem cbw_run {events : List BulkEvent} (run : Run (DataStep info) c events finish) :
    finish.account.cbw = c.account.cbw ∧ finish.account.before = c.account.before := by
  apply run.invariant fun d : Course =>
    d.account.cbw = c.account.cbw ∧ d.account.before = c.account.before
  · intro state event next before step
    obtain ⟨sameCbw, sameCard⟩ := cbw_step step
    exact ⟨sameCbw.trans before.1, sameCard.trans before.2⟩
  · exact ⟨rfl, rfl⟩

/-- Completions in full are completions. -/
theorem dataRun_of_fullRun {supplies : List Supply} (run : Run (FullStep info) c supplies finish) :
    ∃ events, Run (DataStep info) c events finish := by
  induction run with
  | nil state => exact ⟨[], .nil state⟩
  | cons first rest ih =>
      obtain ⟨events, run⟩ := ih
      exact ⟨_, .cons first run⟩

/-- How many transfers the data phase can still take. -/
def MscState.rank (s : MscState) : Nat :=
  match s.botState with
  | .dataIn => s.ioBlocksLeft.toNat + 1
  | .dataOut => s.ioBlocksLeft.toNat
  | .idle | .csw => 0

theorem rank_mscContinueRead {s : MscState} (sd : SdOutcome) (more : s.ioBlocksLeft ≠ 0) :
    (mscContinueRead sd s).1.rank < s.ioBlocksLeft.toNat + 1 := by
  have positive : s.ioBlocksLeft.toNat ≠ 0 := fun zero => more (UInt32.toNat.inj zero)
  cases sd with
  | ok =>
      change (s.ioBlocksLeft - nextChunk s.ioBlocksLeft).toNat + 1 < _
      rw [sub_nextChunk_toNat]
      omega
  | fail residue => exact Nat.succ_pos _

theorem rank_afterChunk (s : MscState) : s.afterChunk.1.rank ≤ s.ioBlocksLeft.toNat := by
  unfold MscState.afterChunk
  split
  · exact Nat.le_refl _
  · exact Nat.zero_le _

/-- Every completed data transfer leaves fewer to come. -/
theorem rank_step {event : BulkEvent} (stage : Stage full sense plan c)
    (step : DataStep info c event next) : next.bus.dev.rank < c.bus.dev.rank := by
  cases step with
  | in_ pending =>
      rename_i len sd
      have state := stage.in_state pending
      have rank : c.bus.dev.rank = c.bus.dev.ioBlocksLeft.toNat + 1 := by
        simp [MscState.rank, state]
      rw [rank, dev_course]
      by_cases drained : c.bus.dev.ioBlocksLeft = 0
      · rw [mscDataIn_last sd state drained]
        exact Nat.succ_pos _
      · rw [mscDataIn_more sd state drained]
        exact rank_mscContinueRead sd drained
  | out pending fits =>
      rename_i len bytes sd
      obtain ⟨_, done, left, on⟩ := stage.out_pending pending
      have state := on.writing.state
      have rank : c.bus.dev.rank = left := by
        simp [MscState.rank, state, on.writing.blocksLeft]
      have more := on.more
      have received : (c.bus.dev.received .xferBuf bytes).botState = .dataOut := by
        simpa using state
      rw [rank, dev_course]
      cases sd with
      | fail residue =>
          rw [mscDataOut_dataOut_fail received]
          exact Nat.pos_of_ne_zero more
      | ok =>
          rw [mscDataOut_dataOut_ok received]
          refine Nat.lt_of_le_of_lt (rank_afterChunk _) ?_
          change (c.bus.dev.ioBlocksLeft - c.bus.dev.ioChunkBlocks).toNat < left
          rw [on.writing.rest]
          omega

/-- Until the status comes, the outstanding transfer can complete in full. -/
theorem fullStep_exists (info : SdDevInfo) (stage : Stage full sense plan c) (supply : Supply) :
    Finished full sense plan c ∨ ∃ next, FullStep info c supply next := by
  unfold FullStep
  rcases stage.armed_cases with ⟨len, armed, _⟩ | ⟨len, armed, _⟩ | ⟨_, finished⟩
  · have event : supply.event c.bus = .in_ supply.sd := by simp [Supply.event, armed]
    rw [event]
    exact .inr ⟨_, .in_ armed⟩
  · have event : supply.event c.bus = .out (supply.host.window 0 len.toNat) supply.sd := by
      simp [Supply.event, armed]
    have fits : (supply.host.window 0 len.toNat).length ≤ receiveLimit len := by
      rw [Store.window_length]
      exact le_receiveLimit len
    rw [event]
    exact .inr ⟨_, .out armed fits⟩
  · exact .inl finished

/-- Whatever the host and the card supply, the status comes. The induction is
on the transfers that the data phase can still take. -/
theorem stands_finishes (info : SdDevInfo) (rank : Nat) :
    ∀ {c : Course}, c.bus.dev.rank = rank → Stands full sense plan c →
      ∀ supply : Nat → Supply, ∃ n finish,
        Run (FullStep info) c ((List.range n).map supply) finish ∧
          Stands full sense plan finish ∧ Finished full sense plan finish := by
  induction rank using Nat.strongRecOn with
  | _ rank ih =>
      intro c ranked stands supply
      rcases fullStep_exists info stands.1 (supply 0) with finished | ⟨next, step⟩
      · exact ⟨0, c, .nil c, stands, finished⟩
      · have lower := rank_step stands.1 step
        rw [ranked] at lower
        obtain ⟨n, finish, run, after⟩ :=
          ih _ lower rfl (stands_fullStep stands step) fun k => supply (k + 1)
        refine ⟨n + 1, finish, ?_, after⟩
        rw [List.range_succ_eq_map, List.map_cons, List.map_map]
        exact .cons step run

/-! ### A card that works -/

theorem sdFailed_afterChunk (s : MscState) :
    s.afterChunk.2.any Action.sdFailed = false := by
  unfold MscState.afterChunk
  split <;> rfl

theorem noFailure_opened {v : ValidCbw} {s : MscState} (state : s.botState = .idle) :
    (opened info v .ok s).account.sdFailed = false := by
  rw [opened, mscDataOut_wire info .ok v.signed state, mscCmdDispatch_eq_start, account_course,
    Account.sdFailed_grow]
  cases (s.received .cbw v.cbw.wire).cbw.plan info (s.received .cbw v.cbw.wire).sense <;> rfl

/-- A transfer whose SD call succeeds records no failure. -/
theorem noFailure_step {event : BulkEvent} (works : event.sd = .ok)
    (stage : Stage full sense plan c) (step : DataStep info c event next)
    (none_yet : c.account.sdFailed = false) : next.account.sdFailed = false := by
  cases step with
  | in_ pending =>
      rename_i len sd
      change sd = .ok at works
      subst works
      simp only [account_course, Account.sdFailed_grow, Account.sdFailed_moved, none_yet,
        Bool.false_or]
      by_cases drained : c.bus.dev.ioBlocksLeft = 0
      · rw [mscDataIn_last .ok (stage.in_state pending) drained]
        rfl
      · rw [mscDataIn_more .ok (stage.in_state pending) drained]
        rfl
  | out pending fits =>
      rename_i len bytes sd
      change sd = .ok at works
      subst works
      obtain ⟨_, done, left, on⟩ := stage.out_pending pending
      simp only [account_course, Account.sdFailed_grow, Account.sdFailed_moved, none_yet,
        Bool.false_or]
      rw [mscDataOut_dataOut_ok (by simpa using on.writing.state)]
      exact sdFailed_afterChunk _

theorem noFailure_fullRun {supplies : List Supply} (run : Run (FullStep info) c supplies finish)
    (works : ∀ supply ∈ supplies, supply.sd = .ok) (stands : Stands full sense plan c)
    (none_yet : c.account.sdFailed = false) : finish.account.sdFailed = false := by
  induction run with
  | nil => exact none_yet
  | @cons state middle finish supply supplies first rest ih =>
      have ok : (supply.event state.bus).sd = .ok :=
        (sd_event _ _).trans (works supply List.mem_cons_self)
      apply ih
      · intro later member
        exact works later (List.mem_cons_of_mem _ member)
      · exact stands_fullStep stands first
      · exact noFailure_step ok stands.1 first none_yet

/-- Over a card that works, the status comes without a failure. -/
theorem stands_finishes_ok (info : SdDevInfo) (stands : Stands full sense plan c)
    (none_yet : c.account.sdFailed = false) :
    ∃ events finish, Run (DataStep info) c events finish ∧ Stands full sense plan finish ∧
      Finished full sense plan finish ∧ finish.account.sdFailed = false := by
  obtain ⟨n, finish, run, after, finished⟩ :=
    stands_finishes info _ rfl stands fun _ => { sd := .ok, host := fun _ => 0 }
  have noFailure := noFailure_fullRun run (by simp) stands none_yet
  obtain ⟨events, dataRun⟩ := dataRun_of_fullRun run
  exact ⟨events, finish, dataRun, after, finished, noFailure⟩

end Runs

end Mp257Fsbl.Usb.Msc
