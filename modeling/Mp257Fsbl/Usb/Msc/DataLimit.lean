/-
Module: Mp257Fsbl.Usb.Msc.DataLimit
Purpose: When the data phase of a command stays within the length and the
  direction that its wrapper declares.
Trusted boundary: none
Main exports: DataLimited, Cbw.WithinRequest, dataRun_limited_iff
-/
import Mp257Fsbl.Usb.Msc.Stages

namespace Mp257Fsbl.Usb.Msc

open Mp257Fsbl.Foundation
open Mp257Fsbl.Sd

/-- What has been armed for data stays within what the host asked for. -/
structure DataLimited (x : Account) : Prop where
  queued : x.queuedIn ≤ x.cbw.dataLength.toNat
  silent : x.cbw.dataLength = 0 ∨ ¬ x.cbw.DeviceToHost →
    ∀ buffer len, .transmit buffer len ∈ x.log → buffer = .csw
  armed : x.armedOut ≤ x.cbw.dataLength.toNat
  undirected : x.cbw.DeviceToHost → x.armedOut = 0

/-- The declarations leave room for what the command block makes the class
move. -/
def Cbw.WithinRequest (info : SdDevInfo) (cbw : Cbw) : Prop :=
  match Scsi.ofByte (cbw.cb 0) with
  | some .testUnitReady | some .startStop | some .mediumRemoval | none => True
  | some .inquiry | some .requestSense | some .modeSense6 | some .readFormatCap
  | some .readCapacity10 => cbw.dataLength ≠ 0 ∧ cbw.DeviceToHost
  | some .read10 =>
      cbw.cnt ≠ 0 → cbw.lba.toNat + cbw.cnt.toNat ≤ info.blockCount →
        512 * cbw.cnt.toNat ≤ cbw.dataLength.toNat ∧ cbw.DeviceToHost
  | some .write10 =>
      cbw.cnt ≠ 0 → cbw.lba.toNat + cbw.cnt.toNat ≤ info.blockCount →
        512 * cbw.cnt.toNat ≤ cbw.dataLength.toNat ∧ ¬ cbw.DeviceToHost

/-- The same, by what the dispatcher decides. -/
def Plan.WithinRequest (cbw : Cbw) : Plan → Prop
  | .good | .bad _ => True
  | .reply _ _ => cbw.dataLength ≠ 0 ∧ cbw.DeviceToHost
  | .read => 512 * cbw.cnt.toNat ≤ cbw.dataLength.toNat ∧ cbw.DeviceToHost
  | .write => 512 * cbw.cnt.toNat ≤ cbw.dataLength.toNat ∧ ¬ cbw.DeviceToHost

section Condition

variable {info : SdDevInfo} {cbw : Cbw}

theorem planIo_withinRequest {io : Plan} :
    (cbw.planIo info io).WithinRequest cbw ↔
      (cbw.cnt ≠ 0 → cbw.lba.toNat + cbw.cnt.toNat ≤ info.blockCount →
        io.WithinRequest cbw) := by
  unfold Cbw.planIo
  split
  · rename_i nothing
    simp [Plan.WithinRequest, nothing]
  · rename_i some_blocks
    split
    · rename_i outOfRange
      simp [Plan.WithinRequest, Nat.not_le.mpr outOfRange]
    · rename_i inRange
      simp [some_blocks, Nat.not_lt.mp inRange]

theorem plan_withinRequest (sense : Sense) :
    (cbw.plan info sense).WithinRequest cbw ↔ cbw.WithinRequest info := by
  unfold Cbw.plan Cbw.WithinRequest
  cases opcode : Scsi.ofByte (cbw.cb 0) with
  | none => exact Iff.rfl
  | some command =>
      cases command
      case read10 | write10 => exact planIo_withinRequest
      all_goals exact Iff.rfl

end Condition

section Books

variable {plan : Plan} {x : Account}

theorem sends_eq_zero_iff :
    x.sends = 0 ↔ ∀ buffer len, .transmit buffer len ∈ x.log → buffer = .csw := by
  rw [Account.sends, List.countP_eq_zero]
  constructor
  · intro none_ buffer len member
    have quiet := none_ _ member
    cases buffer <;> simp [Action.sends] at quiet ⊢
  · intro only action member
    cases action with
    | transmit buffer len => simp [only buffer len member, Action.sends]
    | _ => simp [Action.sends]

/-- Books in order of a command that fits stay within the request. -/
theorem limited_of_ledger (ledger : plan.Ledger x) (within : plan.WithinRequest x.cbw)
    (some_blocks : plan = .read → x.cbw.cnt ≠ 0) : DataLimited x := by
  cases plan with
  | good | bad left =>
      obtain ⟨queued, sends, armed⟩ := ledger
      exact ⟨by omega, fun _ => sends_eq_zero_iff.mp sends, by omega, fun _ => armed⟩
  | reply data clears =>
      obtain ⟨queued, _, armed⟩ := ledger
      obtain ⟨some_data, direction⟩ := within
      have asked : x.dataLength = x.cbw.dataLength.toNat := rfl
      refine ⟨by omega, ?_, by omega, fun _ => armed⟩
      rintro (nothing | outward)
      · exact absurd nothing some_data
      · exact absurd direction outward
  | read =>
      obtain ⟨queued, _, armed⟩ := ledger
      obtain ⟨room, direction⟩ := within
      have some_of : x.blocksDone ≤ x.cbw.cnt.toNat := Nat.min_le_left _ _
      refine ⟨by omega, ?_, by omega, fun _ => armed⟩
      rintro (nothing | outward)
      · have none_ : x.cbw.cnt.toNat = 0 := by
          rw [nothing, UInt32.toNat_zero] at room
          omega
        exact absurd (UInt32.toNat.inj none_) (some_blocks rfl)
      · exact absurd direction outward
  | write =>
      obtain ⟨queued, sends, armed⟩ := ledger
      obtain ⟨room, direction⟩ := within
      have some_of : min x.cnt (32 * (x.sdDone + 1)) ≤ x.cbw.cnt.toNat := Nat.min_le_left _ _
      exact ⟨by omega, fun _ => sends_eq_zero_iff.mp sends, by omega,
        fun inward => absurd inward direction⟩

/-- The direction that the books of a limited command show. -/
theorem DataLimited.sends_inward (limited : DataLimited x) (sends : x.sends ≠ 0) :
    x.cbw.dataLength ≠ 0 ∧ x.cbw.DeviceToHost := by
  refine ⟨fun nothing => ?_, Classical.byContradiction fun outward => ?_⟩
  · exact sends (sends_eq_zero_iff.mpr (limited.silent (.inl nothing)))
  · exact sends (sends_eq_zero_iff.mpr (limited.silent (.inr outward)))

end Books

section Limits

variable {info : SdDevInfo} {v : ValidCbw} {s : MscState}

theorem cbw_of_run {sd : SdOutcome} {events : List BulkEvent} {c : Course}
    (run : Run (DataStep info) (opened info v sd s) events c) : c.account.cbw = v.cbw :=
  (cbw_run run).1

/-- A command that fits keeps every run of its data phase within the request. -/
theorem limited_of_withinRequest (idle : s.botState = .idle) (within : v.cbw.WithinRequest info)
    {sd : SdOutcome} {events : List BulkEvent} {c : Course}
    (run : Run (DataStep info) (opened info v sd s) events c) : DataLimited c.account := by
  have stands := stands_run run (stands_opened _ idle)
  apply limited_of_ledger stands.2
  · rw [cbw_of_run run, plan_withinRequest]
    exact within
  · intro planned
    rw [cbw_of_run run]
    exact (plan_io_inv planned (.inl rfl)).1

/-- The run over a card that works moves all that the command block asks for. -/
theorem withinRequest_of_limited (idle : s.botState = .idle)
    (limited : ∀ sd events c, Run (DataStep info) (opened info v sd s) events c →
      DataLimited c.account) : v.cbw.WithinRequest info := by
  rw [← plan_withinRequest s.sense]
  have stands : Stands False s.sense (v.cbw.plan info s.sense) (opened info v .ok s) :=
    stands_opened _ idle
  obtain ⟨events, finish, run, after, finished, noFailure⟩ :=
    stands_finishes_ok info stands (noFailure_opened idle)
  have same := cbw_of_run run
  have whole := limited _ _ _ run
  have first := limited _ _ _ (.nil (opened info v .ok s))
  cases planned : v.cbw.plan info s.sense with
  | good | bad left => trivial
  | reply data clears =>
      rw [planned] at stands
      exact first.sends_inward (by rw [stands.2.2.1]; exact Nat.one_ne_zero)
  | read =>
      obtain ⟨some_blocks, _⟩ := plan_io_inv planned (.inl rfl)
      have positive : v.cbw.cnt.toNat ≠ 0 := fun zero => some_blocks (UInt32.toNat.inj zero)
      rw [planned] at after finished
      obtain ⟨queued, sends, _⟩ := after.2
      have all := finished.moved.2.2.2 noFailure
      have counted : finish.account.cnt = v.cbw.cnt.toNat := by rw [Account.cnt, same]
      have inward := whole.sends_inward (by omega)
      have room := whole.queued
      rw [same] at inward room
      unfold Account.blocksDone at queued
      exact ⟨by omega, inward.2⟩
  | write =>
      obtain ⟨some_blocks, _⟩ := plan_io_inv planned (.inr rfl)
      have positive : v.cbw.cnt.toNat ≠ 0 := fun zero => some_blocks (UInt32.toNat.inj zero)
      rw [planned] at after finished
      obtain ⟨_, _, armed⟩ := after.2
      have all := finished.moved.all noFailure
      have counted : finish.account.cnt = v.cbw.cnt.toNat := by rw [Account.cnt, same]
      have room := whole.armed
      have undirected := whole.undirected
      rw [same] at room undirected
      refine ⟨by omega, ?_⟩
      intro inward
      have none_ := undirected inward
      omega

/-- From any state that awaits a wrapper: every run of the data phase of a valid
wrapper stays within the length and the direction it declares exactly when its
declarations leave room for what its command block asks for. -/
theorem dataRun_limited_iff (info : SdDevInfo) (v : ValidCbw) {s : MscState}
    (idle : s.botState = .idle) :
    (∀ sd events c, Run (DataStep info) (opened info v sd s) events c →
      DataLimited c.account) ↔ v.cbw.WithinRequest info := by
  constructor
  · exact withinRequest_of_limited idle
  · intro within sd events c run
    exact limited_of_withinRequest idle within run

end Limits

/-- An INQUIRY for 36 bytes. -/
def fullInquiry : ValidCbw where
  cbw := .ofBytes
    [0x55, 0x53, 0x42, 0x43, 1, 0, 0, 0, 36, 0, 0, 0, 0x80, 0, 6, 0x12, 0, 0, 0, 36]
  signed := by decide

/-- Its reply is queued, and stays within the 36 bytes asked for. -/
theorem dataRun_limited_iff_inquiry :
    let c := opened .smallest fullInquiry .ok (mscInit (.boot fun _ => 0)).1
    c.account.queuedIn = 36 ∧ DataLimited c.account := by
  have within : fullInquiry.cbw.dataLength ≠ 0 ∧ fullInquiry.cbw.DeviceToHost := by decide
  exact ⟨by decide, (dataRun_limited_iff .smallest fullInquiry rfl).mpr within .ok [] _ (.nil _)⟩

/-- A READ(10) of the first two blocks in a wrapper that asks for 512 bytes. -/
def longRead : ValidCbw where
  cbw := .ofBytes
    [0x55, 0x53, 0x42, 0x43, 1, 0, 0, 0, 0, 2, 0, 0, 0x80, 0, 10, 0x28, 0, 0, 0, 0, 0, 0, 0, 2]
  signed := by decide

/-- The class queues both blocks for the host. -/
theorem dataRun_longRead_exceeds :
    let c := opened .smallest longRead .ok (mscInit (.boot fun _ => 0)).1
    longRead.cbw.dataLength = 512 ∧ longRead.cbw.DeviceToHost ∧ c.account.queuedIn = 1024 ∧
      ¬ DataLimited c.account := by
  have queued : (opened .smallest longRead .ok
      (mscInit (.boot fun _ => 0)).1).account.queuedIn = 1024 := by decide
  refine ⟨by decide, by decide, queued, ?_⟩
  intro limited
  have room := limited.queued
  rw [queued] at room
  exact absurd room (by decide)

end Mp257Fsbl.Usb.Msc
