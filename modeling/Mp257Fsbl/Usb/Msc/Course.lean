/-
Module: Mp257Fsbl.Usb.Msc.Course
Purpose: One command from its wrapper to its status: how the dispatcher lets it
  go on, and what a run of its data phase moves.
Trusted boundary: `Cbw.plan` is proved equal to the dispatcher; `Account` only
  records
Main exports: Plan, Cbw.plan, mscCmdDispatch_eq_start, Account, Course, opened,
  DataStep, FullStep
-/
import Mp257Fsbl.Usb.Msc.Transport
import Mp257Fsbl.Usb.Msc.Wire

namespace Mp257Fsbl.Usb.Msc

open Mp257Fsbl.Foundation
open Mp257Fsbl.Sd

/-! ### What the dispatcher decides -/

/-- A sense key with its additional sense code. -/
abbrev Sense := UInt8 × UInt8

def MscState.sense (s : MscState) : Sense := (s.senseKey, s.senseAsc)

/-- The ways a command goes on. -/
inductive Plan where
  /-- Straight to a CSW of status 0. -/
  | good
  /-- Straight to a CSW of status 1, leaving `sense`. -/
  | bad (sense : Sense)
  /-- An IN reply; `clears` when it also clears the sense. -/
  | reply (data : List UInt8) (clears : Bool)
  | read
  | write
deriving Repr, DecidableEq

namespace Cbw

/-- A block command: nothing to do, out of range, or `io`. -/
def planIo (info : SdDevInfo) (io : Plan) (cbw : Cbw) : Plan :=
  if cbw.cnt = 0 then .good
  else if cbw.lba.toNat + cbw.cnt.toNat > info.blockCount then .bad (0x05, 0x21)
  else io

/-- What becomes of the command when `sense` is pending. -/
def plan (info : SdDevInfo) (sense : Sense) (cbw : Cbw) : Plan :=
  match Scsi.ofByte (cbw.cb 0) with
  | some .testUnitReady | some .startStop | some .mediumRemoval => .good
  | some .inquiry => .reply inq false
  | some .readCapacity10 => .reply (cap info) false
  | some .readFormatCap => .reply (fmt info) false
  | some .modeSense6 => .reply sense6 false
  | some .requestSense => .reply (sns sense.1 sense.2) true
  | some .read10 => cbw.planIo info .read
  | some .write10 => cbw.planIo info .write
  | none => .bad (0x05, 0x20)

end Cbw

namespace MscState

/-- The block counters of a READ(10) or WRITE(10). -/
def aimed (s : MscState) : MscState := { s with ioLba := s.cbw.lba, ioBlocksLeft := s.cbw.cnt }

/-- The sense as a reply leaves it. -/
def cleared (clears : Bool) (s : MscState) : MscState :=
  if clears then { s with senseKey := 0, senseAsc := 0 } else s

end MscState

def Plan.start (sd : SdOutcome) (s : MscState) : Plan → MscState × List Action
  | .good => mscSendCsw 0 s
  | .bad sense => mscFail sense.1 sense.2 s
  | .reply data clears => mscSendData data (s.cleared clears)
  | .read => mscContinueRead sd s.aimed
  | .write => mscArmWriteChunk s.aimed

/-- The dispatcher takes the decision and starts what it decided. -/
theorem mscCmdDispatch_eq_start (info : SdDevInfo) (sd : SdOutcome) (s : MscState) :
    mscCmdDispatch info sd s = (s.cbw.plan info s.sense).start sd s := by
  unfold mscCmdDispatch Cbw.plan
  cases opcode : Scsi.ofByte (s.cbw.cb 0) with
  | none => rfl
  | some command =>
      cases command
      case read10 | write10 =>
        simp only [mscDispatchIo, Cbw.planIo]
        split
        · rfl
        · split <;> rfl
      all_goals rfl

theorem plan_received (info : SdDevInfo) (sense : Sense) (cbw : Cbw) (s : MscState) :
    (s.received .cbw cbw.wire).cbw.plan info sense = cbw.plan info sense := by
  simp only [Cbw.plan, Cbw.planIo, cb_received cbw s (i := 0) (by omega), cnt_received,
    lba_received]

section PlanInversion

variable {info : SdDevInfo} {sense : Sense} {cbw : Cbw}

/-- A block command that goes on has blocks, all on the card. -/
theorem planIo_inv {io io' : Plan} (planned : cbw.planIo info io = io')
    (goes_on : io' = .read ∨ io' = .write) :
    io = io' ∧ cbw.cnt ≠ 0 ∧ cbw.lba.toNat + cbw.cnt.toNat ≤ info.blockCount := by
  unfold Cbw.planIo at planned
  split at planned
  · rcases goes_on with rfl | rfl <;> cases planned
  · split at planned
    · rcases goes_on with rfl | rfl <;> cases planned
    · rename_i some_blocks inRange
      exact ⟨planned, some_blocks, Nat.not_lt.mp inRange⟩

theorem plan_io_inv {io : Plan} (planned : cbw.plan info sense = io)
    (goes_on : io = .read ∨ io = .write) :
    cbw.cnt ≠ 0 ∧ cbw.lba.toNat + cbw.cnt.toNat ≤ info.blockCount := by
  unfold Cbw.plan at planned
  split at planned
  case h_9 | h_10 => exact (planIo_inv planned goes_on).2
  all_goals rcases goes_on with rfl | rfl <;> cases planned

theorem plan_reply_length {data : List UInt8} {clears : Bool}
    (planned : cbw.plan info sense = .reply data clears) : data.length < 512 := by
  unfold Cbw.plan at planned
  split at planned
  case h_9 | h_10 =>
    unfold Cbw.planIo at planned
    split at planned
    · cases planned
    · split at planned <;> cases planned
  all_goals cases planned
  · decide
  · exact cap_length info
  · exact fmt_length info
  · decide
  · exact sns_length _ _

end PlanInversion

/-! ### The record of a command -/

/-- What is recorded of one command. Nothing in the class reads it. -/
structure Account where
  /-- The wrapper that the host sent. -/
  cbw : Cbw
  /-- The card when the wrapper arrived. -/
  before : Store UInt8
  /-- What the callbacks have done since. -/
  log : List Action
  /-- The bytes of the completed IN data transfers. -/
  sent : List UInt8
  /-- The bytes received in the OUT data transfers that the card then took. -/
  stored : List UInt8
  /-- The card now. -/
  after : Store UInt8

namespace Account

def begun (cbw : Cbw) (card : Store UInt8) : Account where
  cbw := cbw
  before := card
  log := []
  sent := []
  stored := []
  after := card

/-- A data transfer has moved these bytes. -/
def moved (sent stored : List UInt8) (x : Account) : Account :=
  { x with sent := x.sent ++ sent, stored := x.stored ++ stored }

/-- An SD call has been made. -/
def logged (action : Action) (x : Account) : Account := { x with log := x.log ++ [action] }

/-- A callback has run. -/
def grow (result : MscState × List Action) (x : Account) : Account :=
  { x with log := x.log ++ result.2, after := result.1.card }

end Account

/-- A command under way. -/
structure Course where
  bus : Bus
  account : Account

/-- The course after a callback that ran while nothing was outstanding. -/
def Account.course (result : MscState × List Action) (x : Account) : Course :=
  { bus := .after [] result, account := x.grow result }

@[simp] theorem account_course (result : MscState × List Action) (x : Account) :
    (x.course result).account = x.grow result := rfl

@[simp] theorem dev_course (result : MscState × List Action) (x : Account) :
    (x.course result).bus.dev = result.1 := rfl

@[simp] theorem outstanding_course (result : MscState × List Action) (x : Account) :
    (x.course result).bus.outstanding = armed result.2 := rfl

theorem course_cons (s : MscState) (action : Action) (actions : List Action) (x : Account)
    (quiet : action.armed = none) :
    x.course (s, action :: actions) = (x.logged action).course (s, actions) := by
  simp [Account.course, Account.grow, Account.logged, Bus.after, armed, quiet]

/-- The wrapper of a command has arrived. -/
def opened (info : SdDevInfo) (v : ValidCbw) (sd : SdOutcome) (s : MscState) : Course :=
  (Account.begun v.cbw s.card).course
    (mscDataOut info mscEpNum (UInt32.ofNat v.cbw.wire.length) sd (s.received .cbw v.cbw.wire))

/-- The bytes of a chunk that the card takes. -/
def takenBytes (bytes : List UInt8) : SdOutcome → List UInt8
  | .ok => bytes
  | .fail _ => []

/-- A data transfer completes: an IN transfer with all its bytes, an OUT
transfer with any number of bytes up to its length. -/
inductive DataStep (info : SdDevInfo) : Step Course BulkEvent where
  | out {c : Course} {len : UInt32} {bytes : List UInt8} {sd : SdOutcome}
      (pending : c.bus.outstanding = [.bulkOut .xferBuf len])
      (fits : bytes.length ≤ receiveLimit len) :
      DataStep info c (.out bytes sd)
        ((c.account.moved [] (takenBytes bytes sd)).course
          (mscDataOut info mscEpNum (UInt32.ofNat bytes.length) sd
            (c.bus.dev.received .xferBuf bytes)))
  | in_ {c : Course} {len : UInt32} {sd : SdOutcome}
      (pending : c.bus.outstanding = [.bulkIn .xferBuf len]) :
      DataStep info c (.in_ sd)
        ((c.account.moved (c.bus.dev.source .xferBuf len.toNat) []).course
          (mscDataIn mscEpNum sd c.bus.dev))

/-- The record adds nothing to what the bus does. -/
theorem dataStep_bulkStep {behind : Behind} {info : SdDevInfo} {c next : Course}
    {event : BulkEvent} (step : DataStep info c event next) :
    BulkStep behind info c.bus event next.bus := by
  cases step with
  | out pending fits => exact .out_alone pending fits Buffer.noConfusion
  | in_ pending => exact .in_alone pending

/-- A completion in full: the outcome of the SD call it may cause, and where
the host takes the bytes of an OUT transfer from. -/
structure Supply where
  sd : SdOutcome
  host : Store UInt8

def Supply.event (bus : Bus) (supply : Supply) : BulkEvent :=
  match bus.outstanding with
  | [.bulkOut _ len] => .out (supply.host.window 0 len.toNat) supply.sd
  | _ => .in_ supply.sd

/-- The outcome of the SD call that the completion may cause. -/
def BulkEvent.sd : BulkEvent → SdOutcome
  | .out _ sd => sd
  | .in_ sd => sd

theorem sd_event (bus : Bus) (supply : Supply) : (supply.event bus).sd = supply.sd := by
  unfold Supply.event
  split <;> rfl

/-- The outstanding data transfer completes in full. -/
def FullStep (info : SdDevInfo) : Step Course Supply :=
  fun c supply next => DataStep info c (supply.event c.bus) next

/-! ### Sums over the record -/

namespace Action

/-- The data bytes that an action queues for the host. -/
def queued : Action → Nat
  | .transmit .csw _ => 0
  | .transmit _ len => len.toNat
  | _ => 0

/-- Whether the action arms an IN data transfer. -/
def sends : Action → Bool
  | .transmit .csw _ => false
  | .transmit _ _ => true
  | _ => false

/-- The bytes that an action arms the OUT endpoint for. -/
def awaited : Action → Nat
  | .receive _ len => len.toNat
  | _ => 0

/-- A successful SD call. -/
def sdDone : Action → Bool
  | .sdRead _ _ success => success
  | .sdWrite _ _ _ success => success
  | _ => false

/-- A failed SD call. -/
def sdFailed : Action → Bool
  | .sdRead _ _ success => !success
  | .sdWrite _ _ _ success => !success
  | _ => false

end Action

namespace Account

def queuedIn (x : Account) : Nat := (x.log.map Action.queued).sum
def sends (x : Account) : Nat := x.log.countP Action.sends
def armedOut (x : Account) : Nat := (x.log.map Action.awaited).sum
def sdDone (x : Account) : Nat := x.log.countP Action.sdDone
def sdFailed (x : Account) : Bool := x.log.any Action.sdFailed

section Grow

variable (x : Account) (result : MscState × List Action) (action : Action)
variable (sent stored : List UInt8)

@[simp] theorem cbw_grow : (x.grow result).cbw = x.cbw := rfl
@[simp] theorem before_grow : (x.grow result).before = x.before := rfl
@[simp] theorem sent_grow : (x.grow result).sent = x.sent := rfl
@[simp] theorem stored_grow : (x.grow result).stored = x.stored := rfl
@[simp] theorem after_grow : (x.grow result).after = result.1.card := rfl

@[simp] theorem queuedIn_grow :
    (x.grow result).queuedIn = x.queuedIn + (result.2.map Action.queued).sum := by
  simp [queuedIn, grow]

@[simp] theorem sends_grow :
    (x.grow result).sends = x.sends + result.2.countP Action.sends := by
  simp [sends, grow]

@[simp] theorem armedOut_grow :
    (x.grow result).armedOut = x.armedOut + (result.2.map Action.awaited).sum := by
  simp [armedOut, grow]

@[simp] theorem sdDone_grow :
    (x.grow result).sdDone = x.sdDone + result.2.countP Action.sdDone := by
  simp [sdDone, grow]

@[simp] theorem sdFailed_grow :
    (x.grow result).sdFailed = (x.sdFailed || result.2.any Action.sdFailed) := by
  simp [sdFailed, grow]

@[simp] theorem cbw_logged : (x.logged action).cbw = x.cbw := rfl
@[simp] theorem before_logged : (x.logged action).before = x.before := rfl
@[simp] theorem sent_logged : (x.logged action).sent = x.sent := rfl
@[simp] theorem stored_logged : (x.logged action).stored = x.stored := rfl

@[simp] theorem queuedIn_logged : (x.logged action).queuedIn = x.queuedIn + action.queued := by
  simp [queuedIn, logged]

@[simp] theorem sends_logged :
    (x.logged action).sends = x.sends + if action.sends then 1 else 0 := by
  simp [sends, logged, List.countP_singleton]

@[simp] theorem armedOut_logged :
    (x.logged action).armedOut = x.armedOut + action.awaited := by
  simp [armedOut, logged]

@[simp] theorem sdDone_logged :
    (x.logged action).sdDone = x.sdDone + if action.sdDone then 1 else 0 := by
  simp [sdDone, logged, List.countP_singleton]

@[simp] theorem sdFailed_logged :
    (x.logged action).sdFailed = (x.sdFailed || action.sdFailed) := by
  simp [sdFailed, logged]

@[simp] theorem cbw_moved : (x.moved sent stored).cbw = x.cbw := rfl
@[simp] theorem before_moved : (x.moved sent stored).before = x.before := rfl
@[simp] theorem sent_moved : (x.moved sent stored).sent = x.sent ++ sent := rfl
@[simp] theorem stored_moved : (x.moved sent stored).stored = x.stored ++ stored := rfl
@[simp] theorem queuedIn_moved : (x.moved sent stored).queuedIn = x.queuedIn := rfl
@[simp] theorem sends_moved : (x.moved sent stored).sends = x.sends := rfl
@[simp] theorem armedOut_moved : (x.moved sent stored).armedOut = x.armedOut := rfl
@[simp] theorem sdDone_moved : (x.moved sent stored).sdDone = x.sdDone := rfl
@[simp] theorem sdFailed_moved : (x.moved sent stored).sdFailed = x.sdFailed := rfl

end Grow

end Account

end Mp257Fsbl.Usb.Msc
