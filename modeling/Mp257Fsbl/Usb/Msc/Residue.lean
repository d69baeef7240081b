/-
Module: Mp257Fsbl.Usb.Msc.Residue
Purpose: The data a command moves, against the residue of its status.
Trusted boundary: none
Main exports: Account.movedBytes, Cbw.transferred, csw_residue
-/
import Mp257Fsbl.Usb.Msc.Stages

namespace Mp257Fsbl.Usb.Msc

open Mp257Fsbl.Foundation
open Mp257Fsbl.Sd

/-- The data bytes sent to the host, or received and stored on the card. -/
def Account.movedBytes (x : Account) : Nat := x.sent.length + x.stored.length

/-- The bytes that the command block and `calls` successful SD calls move. -/
def Cbw.transferred (info : SdDevInfo) (calls : Nat) (cbw : Cbw) : Nat :=
  match Scsi.ofByte (cbw.cb 0) with
  | some .testUnitReady | some .startStop | some .mediumRemoval | none => 0
  | some .inquiry => min 36 cbw.dataLength.toNat
  | some .requestSense => min 18 cbw.dataLength.toNat
  | some .modeSense6 => min 4 cbw.dataLength.toNat
  | some .readFormatCap => min 12 cbw.dataLength.toNat
  | some .readCapacity10 => min 8 cbw.dataLength.toNat
  | some .read10 | some .write10 =>
      if cbw.lba.toNat + cbw.cnt.toNat ≤ info.blockCount then
        512 * min cbw.cnt.toNat (32 * calls)
      else 0

/-- The same, by what the dispatcher decides. -/
def Plan.transferred (x : Account) : Plan → Nat
  | .good | .bad _ => 0
  | .reply data _ => min data.length x.dataLength
  | .read | .write => 512 * x.blocksDone

section Transferred

variable {info : SdDevInfo} {x : Account}

theorem planIo_transferred {io : Plan} (moves : io.transferred x = 512 * x.blocksDone) :
    (x.cbw.planIo info io).transferred x =
      if x.cbw.lba.toNat + x.cbw.cnt.toNat ≤ info.blockCount then
        512 * min x.cbw.cnt.toNat (32 * x.sdDone)
      else 0 := by
  unfold Cbw.planIo
  split
  · rename_i nothing
    simp [Plan.transferred, nothing]
  · split
    · rename_i outOfRange
      rw [if_neg (Nat.not_le.mpr outOfRange)]
      rfl
    · rename_i inRange
      rw [if_pos (Nat.not_lt.mp inRange), moves]
      rfl

theorem plan_transferred (info : SdDevInfo) (x : Account) (sense : Sense) :
    (x.cbw.plan info sense).transferred x = x.cbw.transferred info x.sdDone := by
  unfold Cbw.plan Cbw.transferred
  cases opcode : Scsi.ofByte (x.cbw.cb 0) with
  | none => rfl
  | some command =>
      cases command
      case read10 | write10 => exact planIo_transferred rfl
      all_goals rfl

/-- Only a WRITE(10) receives data. -/
theorem opcode_of_plan_write {cbw : Cbw} {sense : Sense} (write : cbw.plan info sense = .write) :
    Scsi.ofByte (cbw.cb 0) = some .write10 := by
  unfold Cbw.plan at write
  split at write
  case h_10 opcode => exact opcode
  case h_9 =>
    unfold Cbw.planIo at write
    split at write
    · cases write
    · split at write <;> cases write
  all_goals cases write

end Transferred

section Status

variable {full : Prop} {sense : Sense} {plan : Plan} {c : Course}

theorem movedBytes_le (finished : Finished full sense plan c) :
    c.account.movedBytes ≤ plan.transferred c.account := by
  have moved := finished.moved
  unfold Account.movedBytes
  cases plan with
  | good | bad left =>
      obtain ⟨sent, stored, _⟩ := moved
      simp [sent, stored]
  | reply data clears =>
      obtain ⟨sent, stored, _⟩ := moved
      simp [sent, stored, Plan.transferred]
  | read =>
      obtain ⟨sent, stored, _⟩ := moved
      simp [sent, stored, Plan.transferred]
  | write => simpa [moved.nothingSent, Plan.transferred] using moved.bounded

theorem movedBytes_eq (finished : Finished full sense plan c) (isFull : plan = .write → full) :
    c.account.movedBytes = plan.transferred c.account := by
  have moved := finished.moved
  unfold Account.movedBytes
  cases plan with
  | good | bad left =>
      obtain ⟨sent, stored, _⟩ := moved
      simp [sent, stored, Plan.transferred]
  | reply data clears =>
      obtain ⟨sent, stored, _⟩ := moved
      simp [sent, stored, Plan.transferred, Nat.min_comm]
  | read =>
      obtain ⟨sent, stored, _⟩ := moved
      simp [sent, stored, Plan.transferred]
  | write => simpa [moved.nothingSent, Plan.transferred] using moved.whole (isFull rfl)

end Status

/-- From any state that awaits a wrapper, however the data phase of a valid
wrapper goes: the residue of its status is zero, so where the host asked for
enough it is the length asked for less the bytes moved exactly when all of them
were; and the bytes moved are those of the command block and its successful SD
calls, for a WRITE(10) as far as the host sent them. -/
theorem csw_residue (info : SdDevInfo) (v : ValidCbw) {s : MscState} (idle : s.botState = .idle)
    {sd : SdOutcome} {events : List BulkEvent} {c : Course}
    (run : Run (DataStep info) (opened info v sd s) events c)
    (status : c.bus.outstanding = [.bulkIn .csw cswLength]) :
    c.bus.dev.csw.dataResidue = 0 ∧
      (c.account.movedBytes ≤ v.cbw.dataLength.toNat →
        (c.bus.dev.csw.dataResidue.toNat = v.cbw.dataLength.toNat - c.account.movedBytes ↔
          c.account.movedBytes = v.cbw.dataLength.toNat)) ∧
      c.account.movedBytes ≤ v.cbw.transferred info c.account.sdDone ∧
      ((Scsi.ofByte (v.cbw.cb 0) = some .write10 →
          Run (Guarded Whole (DataStep info)) (opened info v sd s) events c) →
        c.account.movedBytes = v.cbw.transferred info c.account.sdDone) := by
  have finished := (stands_run run (stands_opened _ idle)).1.at_status status
  have same : c.account.cbw = v.cbw := (cbw_run run).1
  have none_left : c.bus.dev.csw.dataResidue = 0 := by rw [finished.csw]
  have transferred := plan_transferred info c.account s.sense
  rw [same] at transferred
  refine ⟨none_left, ?_, ?_, ?_⟩
  · intro enough
    rw [none_left, UInt32.toNat_zero]
    omega
  · rw [← transferred]
    exact movedBytes_le finished
  · intro whole
    rw [← transferred]
    by_cases write : Scsi.ofByte (v.cbw.cb 0) = some .write10
    · have fullFinish :=
        (stands_wholeRun (whole write) (stands_opened True idle)).1.at_status status
      exact movedBytes_eq fullFinish fun _ => trivial
    · exact movedBytes_eq finished fun planned => write (opcode_of_plan_write planned)

/-- An INQUIRY for `asked` bytes. -/
def inquiryFor (asked : UInt8) : Cbw :=
  .ofBytes [0x55, 0x53, 0x42, 0x43, 1, 0, 0, 0, asked, 0, 0, 0, 0x80, 0, 6, 0x12, 0, 0, 0, asked]

/-- The reply of the class to the first INQUIRY after its start. -/
def inquiryCourse (asked : UInt8) (signed : (inquiryFor asked).signature = cbwSignature) :
    Course :=
  opened .smallest { cbw := inquiryFor asked, signed := signed } .ok (mscInit (.boot fun _ => 0)).1

/-- The course once the host has collected a reply of `len` bytes. -/
def inquiryCollected (asked : UInt8) (len : UInt32)
    (signed : (inquiryFor asked).signature = cbwSignature) : Course :=
  let c := inquiryCourse asked signed
  (c.account.moved (c.bus.dev.source .xferBuf len.toNat) []).course
    (mscDataIn mscEpNum .ok c.bus.dev)

/-- All that the host asked for is sent. -/
theorem csw_residue_fullInquiry :
    (inquiryCollected 36 36 (by decide)).bus.dev.csw.dataResidue.toNat =
      36 - (inquiryCollected 36 36 (by decide)).account.movedBytes := by
  have pending : (inquiryCourse 36 (by decide)).bus.outstanding = [.bulkIn .xferBuf 36] := by
    decide
  have moved : (inquiryCollected 36 36 (by decide)).account.movedBytes = 36 := by decide
  have length : (inquiryFor 36).dataLength.toNat = 36 := by decide
  have step : DataStep .smallest (inquiryCourse 36 (by decide)) (.in_ .ok)
      (inquiryCollected 36 36 (by decide)) := .in_ pending
  have exact := csw_residue .smallest { cbw := inquiryFor 36, signed := by decide } rfl
    (.single step) rfl
  rw [length] at exact
  exact (exact.2.1 (Nat.le_of_eq moved)).mpr moved

/-- An operating system asks for 255 bytes and gets 36: the status says that
nothing is missing. -/
theorem csw_shortInquiry_residue :
    Run (DataStep .smallest) (inquiryCourse 255 (by decide)) [.in_ .ok]
        (inquiryCollected 255 36 (by decide)) ∧
      (inquiryCollected 255 36 (by decide)).bus.outstanding = [.bulkIn .csw cswLength] ∧
      (inquiryFor 255).dataLength = 255 ∧
      (inquiryCollected 255 36 (by decide)).account.movedBytes = 36 ∧
      (inquiryCollected 255 36 (by decide)).bus.dev.csw.dataResidue.toNat ≠ 255 - 36 := by
  have pending : (inquiryCourse 255 (by decide)).bus.outstanding = [.bulkIn .xferBuf 36] := by
    decide
  exact ⟨.single (.in_ pending), rfl, by decide, by decide, by decide⟩

end Mp257Fsbl.Usb.Msc
