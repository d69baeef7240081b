/-
Module: Mp257Fsbl.Sd.Enumerate
Purpose: The enumeration, command by command, does what the enumeration by
  groups of commands does.
Trusted boundary: none
Main exports: SameDevice, Shows, glueAfter, sdInit_refines, reachable_refines
-/
import Mp257Fsbl.Sd.Reachable

namespace Mp257Fsbl.Sd

open Mp257Fsbl.Foundation Mmc

variable {W α : Type} {bus : Bus W} {depth rounds : Nat}

/-! ### What leaves the published device alone -/

/-- The type and the size of the card are as they were. -/
def SameDevice (host after : SdHost W) : Prop :=
  after.mmcDevType = host.mmcDevType ∧ after.geometry = host.geometry

instance : Std.Refl (SameDevice (W := W)) := ⟨fun _ => ⟨rfl, rfl⟩⟩

instance : IsTrans (SdHost W) SameDevice :=
  ⟨fun _ _ _ first second => ⟨second.1.trans first.1, second.2.trans first.2⟩⟩

theorem same_sendCmd (cmd : MmcCmd) : Call.Steps SameDevice (sendCmd bus depth cmd) := by
  intro host result after run
  have survives : Survives bus cmd (SameDevice host) :=
    ⟨fun _ _ here => here, fun _ _ here => here, fun _ here => here⟩
  exact (sendCmd_ensures survives depth host ⟨rfl, rfl⟩ result after run).1

theorem same_mmcSendCmd (idx arg rType : UInt32) :
    Call.Steps SameDevice (mmcSendCmd bus depth idx arg rType) :=
  (same_sendCmd _).bind fun _ => .pure _

theorem same_prepare (size : UInt64) :
    Call.Steps SameDevice (stm32Sdmmc2Prepare bus depth size : Call (SdHost W) Int) := by
  refine (Call.Steps.read _).bind fun dataCtrl => (Call.Steps.guard _).bind fun _ => ?_
  refine Call.Steps.bind (.update fun host => ⟨rfl, rfl⟩) fun _ => ?_
  refine (same_sendCmd _).bind fun answer => ?_
  refine .ite (.pure _) ?_
  exact Call.Steps.bind (.update fun host => ⟨rfl, rfl⟩) fun _ => .pure _

theorem same_waitState (goOn : Int → Bool) :
    Call.Steps SameDevice (waitState bus depth rounds goOn) := by
  have state (retries : Nat) (last : UInt32) :
      Call.Steps SameDevice (mmcDeviceStateFrom bus depth retries last) := by
    induction retries generalizing last with
    | zero => exact .pure _
    | succ retries ih =>
        refine (Call.Steps.read _).bind fun rca => (same_mmcSendCmd _ _ _).bind fun answer => ?_
        exact .ite (.pure _) (.ite (ih _) (.pure _))
  exact .repeatUntil ((state _ _).bind fun ret => .pure _) rounds

theorem same_leaveLoop (errors : UInt32) (sample : Sample) :
    Call.Steps SameDevice (leaveLoop bus depth errors sample) := by
  have stop : Call.Steps SameDevice (stopTransfer bus depth : Call (SdHost W) Int) :=
    (same_sendCmd _).bind fun _ => .pure _
  have leaves : Call.Steps SameDevice
      (if stops errors sample then stopTransfer bus depth else Pure.pure 0 : Call (SdHost W) Int) :=
    .ite stop (.pure _)
  exact .ite (Call.Steps.bind (.update fun host => ⟨rfl, rfl⟩) fun _ => leaves) leaves

theorem same_readBlocks (memory : Store UInt32) (size : UInt64) :
    Call.Steps SameDevice (stm32Sdmmc2ReadBlocks bus depth memory size) := by
  refine Call.Steps.bind (fun host drained after ran => ?_) fun drained => ?_
  · cases ran
    exact ⟨rfl, rfl⟩
  · dsimp only
    split
    · exact .stuck
    · refine (same_leaveLoop _ _).bind fun stop => ?_
      split
      · exact .stuck
      · exact .pure _

theorem same_acmd51 (retries : Nat) : Call.Steps SameDevice (acmd51 bus depth retries) := by
  induction retries with
  | zero => exact (same_mmcSendCmd _ _ _).bind fun _ => .pure _
  | succ retries ih => exact (same_mmcSendCmd _ _ _).bind fun _ => .ite ih (.pure _)

theorem same_mmcSdSwitch (busWidth : UInt32) :
    Call.Steps SameDevice (mmcSdSwitch bus depth rounds busWidth) := by
  have scr : Call.Steps SameDevice (readScr bus depth) :=
    (Call.Steps.read _).bind fun _ => (same_readBlocks _ _).bind fun _ =>
      Call.Steps.bind (.update fun host => ⟨rfl, rfl⟩) fun _ => .pure _
  refine (same_prepare _).bind fun ret => .ite (.pure _) ?_
  refine (Call.Steps.read _).bind fun rca => (same_mmcSendCmd _ _ _).bind fun app => ?_
  refine .ite (.pure _) ((same_acmd51 _).bind fun ret => .ite (.pure _) ?_)
  refine scr.bind fun ret => .ite (.pure _) ?_
  refine (Call.Steps.read _).bind fun width => (Call.Steps.read _).bind fun rca => ?_
  refine (same_mmcSendCmd _ _ _).bind fun app => .ite (.pure _) ?_
  refine (same_mmcSendCmd _ _ _).bind fun set => .ite (.pure _) ?_
  exact (same_waitState _).bind fun ret => .pure _

theorem same_setIos (width : UInt32) :
    Call.Steps SameDevice (stm32Sdmmc2SetIos width : Call (SdHost W) Int) := by
  unfold stm32Sdmmc2SetIos
  split
  · exact .stuck
  · exact Call.Steps.bind (.update fun host => ⟨rfl, rfl⟩) fun _ => .pure _

theorem same_mmcSetIos (busWidth : UInt32) :
    Call.Steps SameDevice (mmcSetIos bus depth rounds busWidth) := by
  have extCsd (cmd value : UInt32) :
      Call.Steps SameDevice (mmcSetExtCsd bus depth rounds cmd value) :=
    (same_mmcSendCmd _ _ _).bind fun _ => .ite (.pure _)
      ((same_waitState _).bind fun _ => .pure _)
  refine (Call.Steps.read _).bind fun devType => .ite ?_ ?_
  · exact (same_mmcSdSwitch _).bind fun ret => .ite (.pure _) (same_setIos _)
  · refine (Call.Steps.read _).bind fun csd => .ite ?_ (same_setIos _)
    exact (extCsd _ _).bind fun ret => .ite (.pure _) (same_setIos _)

theorem same_setRelativeAddr : Call.Steps SameDevice (setRelativeAddr bus depth) := by
  refine (Call.Steps.read _).bind fun devType => .ite ?_ ?_
  · refine Call.Steps.bind (.update fun host => ⟨rfl, rfl⟩) fun _ => ?_
    refine (Call.Steps.read _).bind fun rca => ?_
    exact (same_mmcSendCmd _ _ _).bind fun _ => .pure _
  · refine (same_mmcSendCmd _ _ _).bind fun answer => .ite (.pure _) ?_
    exact Call.Steps.bind (.update fun host => ⟨rfl, rfl⟩) fun _ => .pure _

theorem same_identifyCard (busWidth : UInt32) :
    Call.Steps SameDevice (identifyCard bus depth rounds busWidth) := by
  refine (same_mmcSendCmd _ _ _).bind fun answer => .ite (.pure _) ?_
  refine same_setRelativeAddr.bind fun ret => .ite (.pure _) ?_
  refine (Call.Steps.read _).bind fun rca => (same_mmcSendCmd _ _ _).bind fun csd => ?_
  refine .ite (.pure _) (Call.Steps.bind (.update fun host => ⟨rfl, rfl⟩) fun _ => ?_)
  refine (Call.Steps.read _).bind fun rca => (same_mmcSendCmd _ _ _).bind fun select => ?_
  refine .ite (.pure _) ((same_waitState _).bind fun ret => ?_)
  exact .ite (.pure _) (same_mmcSetIos _)

/-! ### The calls between enumerations -/

theorem same_closeTransfer (goOn : Int → Bool) (size : UInt64) :
    Call.Steps SameDevice (closeTransfer bus depth rounds goOn size) := by
  refine (same_waitState _).bind fun ret => .ite (.pure _) (.ite ?_ (.pure _))
  exact (same_mmcSendCmd _ _ _).bind fun _ => .pure _

theorem same_openTransfer (cmdIdx : UInt32) (arg : SdHost W → UInt32) (size : UInt64) :
    Call.Steps SameDevice (openTransfer bus depth cmdIdx arg size) := by
  have counted : Call.Steps SameDevice (setBlockCount bus depth size) :=
    .ite ((same_mmcSendCmd _ _ _).bind fun _ => .pure _) (.pure _)
  refine (same_prepare _).bind fun ret => .ite (.pure _) (counted.bind fun ret => ?_)
  refine .ite (.pure _) ((Call.Steps.read _).bind fun arg => ?_)
  exact (same_mmcSendCmd _ _ _).bind fun _ => .pure _

theorem same_writeBlocks (buffer : List UInt32) (size : UInt64) :
    Call.Steps SameDevice (stm32Sdmmc2WriteBlocks bus depth buffer size) := by
  refine Call.Steps.bind (fun host samples after ran => ?_) fun samples => ?_
  · cases ran
    exact ⟨rfl, rfl⟩
  · split
    · exact .stuck
    · refine Call.Steps.bind (.update fun host => ⟨rfl, rfl⟩) fun _ => ?_
      split
      · exact .stuck
      · refine (same_leaveLoop _ _).bind fun stop => ?_
        split
        · exact .pure _
        · exact .stuck

theorem same_sdRead (lba : UInt32) (memory : Store UInt32) (size : UInt32) :
    Call.Steps SameDevice (Mmc.sdRead bus depth rounds lba memory size) := by
  refine Call.Steps.bind ?_ fun result => .pure _
  refine (Call.Steps.guard _).bind fun _ => (same_openTransfer _ _ _).bind fun ret => ?_
  refine .ite (.pure _) ((same_readBlocks _ _).bind fun result => .ite (.pure _) ?_)
  exact (same_closeTransfer _ _).bind fun ret => .pure _

theorem same_sdWrite (lba : UInt32) (aligned : Bool) (buffer : List UInt32) (size : UInt32) :
    Call.Steps SameDevice (Mmc.sdWrite bus depth rounds lba aligned buffer size) := by
  have writes : Call.Steps SameDevice
      (mmcWriteBlocks bus depth rounds lba aligned buffer size.toUInt64) := by
    refine (Call.Steps.guard _).bind fun _ => (same_openTransfer _ _ _).bind fun ret => ?_
    refine .ite (.pure _) ((same_writeBlocks _ _).bind fun ret => .ite (.pure _) ?_)
    exact (same_closeTransfer _ _).bind fun ret => .pure _
  refine Call.Steps.bind (.update fun host => ⟨rfl, rfl⟩) fun _ => writes.bind fun done => ?_
  exact Call.Steps.bind (.update fun host => ⟨rfl, rfl⟩) fun _ => .pure _

/-! ### Refinement -/

/-- The driver has published what the glue shows. -/
def Shows (glue : SdGlue) (host : SdHost W) : Prop :=
  host.mmcDevType = glue.mmcDevType ∧ host.geometry.deviceSize = glue.info.deviceSize

theorem Shows.of_same {glue : SdGlue} {host after : SdHost W} (shows : Shows glue host)
    (same : SameDevice host after) : Shows glue after :=
  ⟨same.1.trans shows.1, by rw [same.2, shows.2]⟩

/-- What ACMD41 settles, where it is sent. -/
def settledType (highCapacity : Option Bool) (before : MmcDeviceType) : MmcDeviceType :=
  match highCapacity with
  | some true => .isSdHc
  | some false => .isSd
  | none => before

/-- Behind the voltage: the type has been settled once, or an error has left it. -/
def VoltageDone (host : SdHost W) (ret : Int) (after : SdHost W) : Prop :=
  after.geometry = host.geometry ∧
    ∃ highCapacity, after.mmcDevType = settledType highCapacity host.mmcDevType ∧
      (ret ≠ 0 → after.mmcDevType = host.mmcDevType)

theorem VoltageDone.of_same {host after : SdHost W} {ret : Int} (same : SameDevice host after) :
    VoltageDone host ret after := ⟨same.2, none, same.1, fun _ => same.1⟩

section

variable (host : SdHost W)

theorem sends_same (idx arg rType : UInt32) : Call.Ensures (SameDevice host)
    (mmcSendCmd bus depth idx arg rType) fun _ => SameDevice host := by
  intro before here answer after ran
  exact IsTrans.trans host before after here (same_mmcSendCmd _ _ _ _ _ _ ran)

theorem stays_done (ret : Int) : Call.Ensures (SameDevice host)
    (pure ret : Call (SdHost W) Int) (VoltageDone host) :=
  Call.Ensures.pure fun _ here => .of_same here

theorem sdSendOpCondFrom_ensures (n : Nat) :
    Call.Ensures (SameDevice host) (sdSendOpCondFrom bus depth n) (VoltageDone host) := by
  have voltage : Call.Ensures (SameDevice host) (Call.read SdHost.ocrVoltage)
      fun _ => SameDevice host := Call.Ensures.read fun _ here => here
  induction n with
  | zero => exact stays_done host _
  | succ n ih =>
      refine (sends_same host 55 0 _).bind fun app => ?_
      refine Call.Ensures.ite (fun _ => stays_done host _) fun _ => ?_
      refine voltage.bind fun volts => (sends_same host 41 _ _).bind fun answer => ?_
      refine Call.Ensures.ite (fun _ => stays_done host _) fun _ => ?_
      refine Call.Ensures.ite (fun _ => ?_) fun _ => ih
      intro before here ret after ran
      cases ran
      have done : (SdHost.opCond answer.2.r0 before).mmcDevType =
          settledType (some (decide (answer.2.r0 &&& ocrHcs ≠ 0))) host.mmcDevType := by
        by_cases high : answer.2.r0 &&& ocrHcs ≠ 0 <;> simp [SdHost.opCond, settledType, high]
      exact ⟨here.2, _, done, fun nonzero => absurd rfl nonzero⟩

theorem identifyVoltage_ensures (card : host.mmcDevType ≠ .isEmmc) :
    Call.Ensures (SameDevice host) (identifyVoltage bus depth) (VoltageDone host) := by
  have starts : Call.Ensures (SameDevice host) stm32Sdmmc2Init fun _ => SameDevice host :=
    Call.Ensures.update fun before here => ⟨here.1, here.2⟩
  have type : Call.Ensures (SameDevice host) (Call.read SdHost.mmcDevType)
      fun devType after => SameDevice host after ∧ devType = host.mmcDevType :=
    Call.Ensures.read fun before here => ⟨here, here.1⟩
  have asks : Call.Ensures (SameDevice host) (do
      let answer ← mmcSendCmd bus depth 8 (vhs2736V ||| cmd8CheckPattern) mmcResponseR5
      if answer.1 = 0 ∧ answer.2.r0 &&& 0xFF = cmd8CheckPattern then sdSendOpCond bus depth
      else pure answer.1) (VoltageDone host) := by
    refine (sends_same host 8 _ _).bind fun answer => ?_
    exact Call.Ensures.ite (fun _ => sdSendOpCondFrom_ensures host _) fun _ => stays_done host _
  refine starts.bind fun _ => (sends_same host 0 0 0).bind fun idle => ?_
  refine Call.Ensures.ite (fun _ => stays_done host _) fun _ => type.bind fun devType => ?_
  refine Call.Ensures.ite (fun emmc before here => ?_) fun _ => ?_
  · exact absurd (here.2.symm.trans emmc) card
  · exact asks.weaken (fun _ here => here.1) fun _ _ done => done

end

/-- The extended register counts for an eMMC only. -/
theorem mmcFillDeviceInfo_card {devType : MmcDeviceType} (card : devType ≠ .isEmmc)
    (csd : BitVec 128) (nbBlocks : UInt32) :
    Sd.mmcFillDeviceInfo devType csd nbBlocks = Sd.mmcFillDeviceInfo devType csd 0 := by
  cases devType with
  | isEmmc => exact absurd rfl card
  | isSd => rfl
  | isSdHc => rfl

/-- `mmc_fill_device_info` of an SD card that returns has decoded the register and
published its size. -/
theorem mmcFillDeviceInfo_run {host after : SdHost W} {ret : Int}
    (card : host.mmcDevType ≠ .isEmmc)
    (ran : Mmc.mmcFillDeviceInfo bus depth rounds host = some (ret, after)) :
    ret = 0 ∧ after.mmcDevType = host.mmcDevType ∧ MmcCsd.speedIdx host.mmcCsd ≠ 0 ∧
      Sd.mmcFillDeviceInfo host.mmcDevType host.mmcCsd 0 = some after.geometry := by
  have skipped : readGeometry bus depth rounds host = some (0, host) := by
    rw [readGeometry, Call.bind_of_some (Call.read_apply _ host), if_neg card]
    rfl
  rw [Mmc.mmcFillDeviceInfo, Call.bind_of_some skipped, if_neg (by decide)] at ran
  rw [Call.bind_of_some (Call.read_apply _ host), Call.bind_of_some (Call.read_apply _ host),
    Call.bind_of_some (Call.read_apply _ host), mmcFillDeviceInfo_card card] at ran
  cases filled : Sd.mmcFillDeviceInfo host.mmcDevType host.mmcCsd 0 with
  | none =>
      rw [filled] at ran
      cases ran
  | some geometry =>
      rw [filled] at ran
      obtain ⟨_, published, update, rest⟩ := Call.bind_eq_some ran
      cases update
      obtain ⟨_, sized, checked, rest⟩ := Call.bind_eq_some rest
      rw [Call.guard_apply] at checked
      split at checked
      · rename_i speed
        cases checked
        cases rest
        exact ⟨rfl, rfl, by simpa using speed, rfl⟩
      · cases checked

theorem settledType_card {highCapacity : Option Bool} {before : MmcDeviceType}
    (card : before ≠ .isEmmc) : settledType highCapacity before ≠ .isEmmc := by
  cases highCapacity with
  | none => exact card
  | some high => cases high <;> simp [settledType]

/-! The four ways through the enumeration by groups. -/

section

variable {outcome : SdInitOutcome} {glue : SdGlue}

theorem mmcEnumerate_resetFails (failed : outcome.reset ≠ 0) :
    Sd.mmcEnumerate outcome glue = (some outcome.reset, glue) := by
  rw [Sd.mmcEnumerate, if_pos failed]

theorem mmcEnumerate_identifyFails (reset : outcome.reset = 0) (failed : outcome.identify ≠ 0) :
    Sd.mmcEnumerate outcome glue =
      (some outcome.identify, { glue with mmcDevType := outcome.devType glue }) := by
  rw [Sd.mmcEnumerate, if_neg (not_not.mpr reset)]
  exact if_pos failed

theorem mmcEnumerate_decodes {filled : MmcDeviceInfo} (reset : outcome.reset = 0)
    (identify : outcome.identify = 0)
    (computed : Sd.mmcFillDeviceInfo (outcome.devType glue) outcome.csd 0 = some filled)
    (speed : MmcCsd.speedIdx outcome.csd ≠ 0) :
    (Sd.mmcEnumerate outcome glue).1 = some 0 ∧
      (Sd.mmcEnumerate outcome glue).2.mmcDevType = outcome.devType glue ∧
      (Sd.mmcEnumerate outcome glue).2.info.deviceSize = filled.deviceSize := by
  have disabled : isSdCmd6Enabled = false := rfl
  rw [Sd.mmcEnumerate, if_neg (not_not.mpr reset)]
  dsimp only
  rw [if_neg (not_not.mpr identify)]
  split
  · rename_i rejected
    rw [computed] at rejected
    cases rejected
  · rename_i found decoded
    obtain rfl : filled = found := Option.some.inj (computed.symm.trans decoded)
    simp only [speed, if_false, disabled, Bool.false_eq_true, false_and, and_self]

end

/-- Every enumeration that returns, whatever the bus answers, is one by groups of
commands. -/
theorem mmcEnumerate_refines {host after : SdHost W} {ret : Int} {busWidth : UInt32} {glue : SdGlue}
    (shows : Shows glue host) (card : host.mmcDevType ≠ .isEmmc)
    (ran : Mmc.mmcEnumerate bus depth rounds busWidth host = some (ret, after)) :
    ∃ outcome, outcome.vddio1Ready = true ∧ (Sd.mmcEnumerate outcome glue).1 = some ret ∧
      Shows (Sd.mmcEnumerate outcome glue).2 after := by
  obtain ⟨reset, typed, first, ran⟩ := Call.bind_eq_some ran
  obtain ⟨geometry, highCapacity, settled, error⟩ :=
    identifyVoltage_ensures host card host ⟨rfl, rfl⟩ reset typed first
  rw [Call.ite_apply] at ran
  split at ran
  · -- An error before CMD2 leaves the glue as it is.
    rename_i failed
    cases ran
    refine ⟨⟨true, ret, none, 0, 0, 0⟩, rfl, ?_⟩
    rw [mmcEnumerate_resetFails failed]
    exact ⟨rfl, (error failed).trans shows.1, by rw [geometry, shows.2]⟩
  · obtain ⟨identify, known, second, ran⟩ := Call.bind_eq_some ran
    have same := same_identifyCard busWidth typed identify known second
    have type : known.mmcDevType = settledType highCapacity glue.mmcDevType := by
      rw [same.1, settled, shows.1]
    have size : known.geometry.deviceSize = glue.info.deviceSize := by
      rw [same.2, geometry, shows.2]
    rw [Call.ite_apply] at ran
    split at ran
    · -- The type is settled, and the size is the one from before.
      rename_i failed
      cases ran
      refine ⟨⟨true, 0, highCapacity, ret, 0, 0⟩, rfl, ?_⟩
      rw [mmcEnumerate_identifyFails rfl failed]
      exact ⟨rfl, type, size⟩
    · obtain ⟨zero, filled, third, ran⟩ := Call.bind_eq_some ran
      have knownCard : known.mmcDevType ≠ .isEmmc := by
        rw [type]
        exact settledType_card (shows.1 ▸ card)
      obtain ⟨rfl, sameType, speed, decoded⟩ := mmcFillDeviceInfo_run knownCard third
      have disabled : isSdCmd6Enabled = false := rfl
      rw [if_neg (by decide), Call.bind_of_some (Call.read_apply _ filled), disabled,
        if_neg (by simp)] at ran
      cases ran
      rw [type] at decoded
      obtain ⟨ok, devType, deviceSize⟩ :=
        @mmcEnumerate_decodes ⟨true, 0, highCapacity, 0, known.mmcCsd, 0⟩ glue _ rfl rfl
          decoded speed
      exact ⟨_, rfl, ok, by rw [devType, sameType, type]; rfl, deviceSize.symm⟩

/-- Every `sd_init` that returns, whatever the bus answers, is one by groups of
commands. -/
theorem sdInit_refines {host after : SdHost W} {ret : Int} {vddio1Ready : Bool} {glue : SdGlue}
    (shows : Shows glue host) (card : host.mmcDevType ≠ .isEmmc)
    (ran : Mmc.sdInit bus depth rounds vddio1Ready host = some (ret, after)) :
    ∃ outcome, (Sd.sdInit outcome glue).1 = some ret ∧ Shows (Sd.sdInit outcome glue).2 after := by
  rw [Mmc.sdInit, Call.ite_apply] at ran
  split at ran
  · obtain ⟨_, powered, first, ran⟩ := Call.bind_eq_some ran
    have same : SameDevice host powered := by
      cases first
      exact ⟨rfl, rfl⟩
    have stillCard : powered.mmcDevType ≠ .isEmmc := by
      rw [same.1]
      exact card
    obtain ⟨outcome, ready, ok, shown⟩ :=
      mmcEnumerate_refines (shows.of_same same) stillCard ran
    refine ⟨outcome, ?_⟩
    rw [Sd.sdInit, ready, if_pos rfl]
    exact ⟨ok, shown⟩
  · cases ran
    exact ⟨⟨false, 0, none, 0, 0, 0⟩, rfl, shows⟩

/-- The glue behind a list of enumerations by groups of commands. -/
def glueAfter (outcomes : List SdInitOutcome) : SdGlue :=
  outcomes.foldl (fun glue outcome => (Sd.sdInit outcome glue).2) .reset

theorem glueAfter_concat (outcomes : List SdInitOutcome) (outcome : SdInitOutcome) :
    glueAfter (outcomes ++ [outcome]) = (Sd.sdInit outcome (glueAfter outcomes)).2 := by
  rw [glueAfter, List.foldl_append]
  rfl

theorem Reachable.shows {host : SdHost W} (reachable : Reachable bus host) :
    ∃ outcomes, Shows (glueAfter outcomes) host := by
  induction reachable with
  | reset world => exact ⟨[], rfl, rfl⟩
  | @call host after depth rounds call ret reached run ih =>
      obtain ⟨outcomes, shows⟩ := ih
      cases call with
      | init vddio1Ready =>
          obtain ⟨outcome, _, shown⟩ := sdInit_refines shows reached.sound.not_emmc run
          refine ⟨outcomes ++ [outcome], ?_⟩
          rw [glueAfter_concat]
          exact shown
      | read lba memory size =>
          obtain ⟨answer, read, first, rest⟩ := Call.bind_eq_some run
          cases rest
          exact ⟨outcomes, shows.of_same (same_sdRead lba memory size host answer after first)⟩
      | write lba aligned buffer size =>
          have same := same_sdWrite lba aligned buffer size host ret after run
          exact ⟨outcomes, shows.of_same same⟩

/-- In every run of the three calls, whatever the bus answers, the published device
is one that enumerations by groups of commands publish, and the next `sd_init` that
returns is one more of them, with its value. -/
theorem reachable_refines {host : SdHost W} (reachable : Reachable bus host) :
    ∃ outcomes, Shows (glueAfter outcomes) host ∧
      ∀ depth rounds vddio1Ready ret after,
        Mmc.sdInit bus depth rounds vddio1Ready host = some (ret, after) →
          ∃ outcome, (Sd.sdInit outcome (glueAfter outcomes)).1 = some ret ∧
            Shows (glueAfter (outcomes ++ [outcome])) after := by
  obtain ⟨outcomes, shows⟩ := reachable.shows
  refine ⟨outcomes, shows, fun depth rounds vddio1Ready ret after ran => ?_⟩
  obtain ⟨outcome, ok, shown⟩ := sdInit_refines shows reachable.sound.not_emmc ran
  refine ⟨outcome, ok, ?_⟩
  rw [glueAfter_concat]
  exact shown

theorem reachable_refines_noEcho :
    ∃ host, Mmc.sdInit noEchoBus 0 1 true (.reset ()) = some (0, host) ∧
      ∃ outcomes, Shows (glueAfter outcomes) host := by
  obtain ⟨⟨ret, host⟩, ran, same⟩ := Option.map_eq_some_iff.mp noEcho_init
  obtain rfl : ret = 0 := (Prod.mk.inj same).1
  have call : (SdCall.init true).run noEchoBus 0 1 (.reset ()) = some (0, host) := ran
  obtain ⟨outcomes, shows, _⟩ := reachable_refines (.call (.reset ()) call)
  exact ⟨host, ran, outcomes, shows⟩

end Mp257Fsbl.Sd
