/-
Module: Mp257Fsbl.Sd.Reachable
Purpose: The invariants of the card stack over whole runs of its three calls.
Trusted boundary: none
Main exports: SdCall, Reachable, reachable_dataPrepared,
  reachable_addresses_agree_iff
-/
import Mp257Fsbl.Sd.Protocol

namespace Mp257Fsbl.Sd

open Mp257Fsbl.Foundation Mmc

variable {W α β : Type} {bus : Bus W} {pending : Bool} {depth rounds : Nat}

/-! ### Code that keeps what holds between commands -/

def KeepsSound (pending : Bool) (code : Call (SdHost W) α) : Prop :=
  Call.Ensures (Sound pending) code fun _ => Sound pending

namespace KeepsSound

theorem pure (a : α) : KeepsSound pending (Pure.pure a : Call (SdHost W) α) :=
  Call.Ensures.pure fun _ here => here

theorem read (field : SdHost W → α) : KeepsSound pending (Call.read field) :=
  Call.Ensures.read fun _ here => here

theorem guard (holds : Bool) : KeepsSound (W := W) pending (Call.guard holds) :=
  Call.Ensures.guard fun _ here _ => here

theorem update {change : SdHost W → SdHost W}
    (keeps : ∀ host, Sound pending host → Sound pending (change host)) :
    KeepsSound pending (Call.update change) := Call.Ensures.update keeps

theorem bind {code : Call (SdHost W) α} {next : α → Call (SdHost W) β}
    (first : KeepsSound pending code) (rest : ∀ a, KeepsSound pending (next a)) :
    KeepsSound pending (code >>= next) := Call.Ensures.bind first rest

theorem ite {c : Prop} [Decidable c] {code other : Call (SdHost W) α}
    (yes : KeepsSound pending code) (no : KeepsSound pending other) :
    KeepsSound pending (if c then code else other) :=
  Call.Ensures.ite (fun _ => yes) fun _ => no

/-- `if (ret != 0) return ret;`. -/
theorem orReturn {code : Call (SdHost W) Int} {next : Call (SdHost W) Int}
    (first : KeepsSound pending code) (rest : KeepsSound pending next) :
    KeepsSound pending (code >>= fun ret => if ret ≠ 0 then Pure.pure ret else next) :=
  first.bind fun ret => ite (pure ret) rest

end KeepsSound

theorem keeps_plain {idx : UInt32} (arg rType : UInt32) (small : idx &&& 0x3F = idx)
    (plain : preparedDir idx = none ∧ idx ≠ 6) :
    KeepsSound pending (mmcSendCmd bus depth idx arg rType) :=
  mmcSendCmd_plain arg rType small plain

theorem keeps_mmcDeviceStateFrom (retries : Nat) (last : UInt32) :
    KeepsSound pending (mmcDeviceStateFrom bus depth retries last) := by
  induction retries generalizing last with
  | zero => exact .pure _
  | succ retries ih =>
      refine (KeepsSound.read _).bind fun rca => ?_
      refine (keeps_plain rca _ (by decide) (by decide)).bind fun answer => ?_
      exact .ite (.pure _) (.ite (ih _) (.pure _))

theorem keeps_waitState (goOn : Int → Bool) :
    KeepsSound pending (waitState bus depth rounds goOn) := by
  apply Call.Ensures.repeatUntil
  refine Call.Ensures.bind (keeps_mmcDeviceStateFrom _ _) fun ret => Call.Ensures.pure ?_
  intro host here
  split <;> exact here

theorem keeps_stopTransfer : KeepsSound pending (stopTransfer bus depth) :=
  stopTransfer_ensures (survives_plain (by decide) (by decide)) depth

theorem keeps_leaveLoop (errors : UInt32) (sample : Sample) :
    KeepsSound pending (leaveLoop bus depth errors sample) := by
  have leaves : KeepsSound pending
      (if stops errors sample then stopTransfer bus depth else Pure.pure 0) :=
    .ite keeps_stopTransfer (.pure _)
  refine KeepsSound.ite (KeepsSound.bind (.update fun host here => ?_) fun _ => leaves) leaves
  exact here.of_same here.prepared ⟨rfl, rfl, rfl⟩

theorem keeps_readBlocks (memory : Store UInt32) (size : UInt64) :
    KeepsSound pending (stm32Sdmmc2ReadBlocks bus depth memory size) := by
  refine KeepsSound.bind (fun host here drained after ran => ?_) fun drained => ?_
  · cases ran
    exact here.of_same here.prepared ⟨rfl, rfl, rfl⟩
  · dsimp only
    split
    · exact Call.Ensures.stuck
    · refine (keeps_leaveLoop _ _).bind fun stop => ?_
      split
      · exact Call.Ensures.stuck
      · exact .pure _

theorem keeps_writeBlocks (buffer : List UInt32) (size : UInt64) :
    KeepsSound pending (stm32Sdmmc2WriteBlocks bus depth buffer size) := by
  refine KeepsSound.bind (fun host here samples after ran => ?_) fun samples => ?_
  · cases ran
    exact here.of_same here.prepared ⟨rfl, rfl, rfl⟩
  · split
    · exact Call.Ensures.stuck
    · refine KeepsSound.bind (.update fun host here => ?_) fun _ => ?_
      · exact here.of_same here.prepared ⟨rfl, rfl, rfl⟩
      · split
        · exact Call.Ensures.stuck
        · refine (keeps_leaveLoop _ _).bind fun stop => ?_
          split
          · exact .pure _
          · exact Call.Ensures.stuck

/-! ### Commands behind `prepare` -/

/-- `prepare`, and code that needs the path it has prepared. -/
theorem keeps_prepared {next : Call (SdHost W) Int} (size : UInt64)
    (rest : Call.Ensures (SoundPath pending (if pending then 0 else sdmmcDctrlrDtdir)) next
      fun _ => Sound pending) :
    KeepsSound pending (stm32Sdmmc2Prepare bus depth size >>= fun ret =>
      if ret ≠ 0 then pure ret else next) := by
  refine (prepare_ensures size).bind fun ret => ?_
  refine Call.Ensures.ite (fun _ => Call.Ensures.pure fun _ here => here.1) fun ok => ?_
  exact rest.weaken (fun _ here => ⟨here.1, here.2 (not_not.mp ok)⟩) fun _ _ here => here

/-- Code that keeps the path, in front of code that keeps what is without it. -/
theorem ensures_orReturn {dir : UInt32} {code next : Call (SdHost W) Int}
    (first : Call.Ensures (SoundPath pending dir) code fun _ => SoundPath pending dir)
    (rest : Call.Ensures (SoundPath pending dir) next fun _ => Sound pending) :
    Call.Ensures (SoundPath pending dir)
      (code >>= fun ret => if ret ≠ 0 then pure ret else next) fun _ => Sound pending := by
  refine first.bind fun ret => Call.Ensures.ite (fun _ => ?_) fun _ => rest
  exact Call.Ensures.pure fun _ here => here.toSound

theorem ensures_acmd51 (retries : Nat) :
    Call.Ensures (SoundPath false sdmmcDctrlrDtdir) (acmd51 bus depth retries)
      fun _ => SoundPath false sdmmcDctrlrDtdir := by
  have once : Call.Ensures (SoundPath false sdmmcDctrlrDtdir)
      (mmcSendCmd bus depth 51 0 mmcResponseR1) fun _ => SoundPath false sdmmcDctrlrDtdir :=
    mmcSendCmd_path 0 _ (by decide) (.inr rfl)
  induction retries with
  | zero => exact once.bind fun _ => Call.Ensures.pure fun _ here => here
  | succ retries ih =>
      refine once.bind fun answer => Call.Ensures.ite (fun _ => ih) fun _ => ?_
      exact Call.Ensures.pure fun _ here => here

theorem keeps_readScr : KeepsSound pending (readScr bus depth) := by
  refine (KeepsSound.read _).bind fun scr => (keeps_readBlocks _ _).bind fun result => ?_
  refine KeepsSound.bind (.update fun host here => ?_) fun _ => .pure _
  exact here.of_same here.prepared ⟨rfl, rfl, rfl⟩

/-- Code that looks at the type: it is never that of an eMMC. -/
theorem keeps_card {next : MmcDeviceType → Call (SdHost W) Int}
    (rest : ∀ devType, devType ≠ .isEmmc → KeepsSound pending (next devType)) :
    KeepsSound pending (Call.read SdHost.mmcDevType >>= next) := by
  intro host here ret after run
  rw [Call.bind_of_some (Call.read_apply _ host)] at run
  exact rest _ here.not_emmc host here ret after run

/-- ACMD6 and the wait behind it. -/
theorem keeps_setBusWidth (arg : UInt32) :
    KeepsSound pending (do
      let rca ← rcaArg
      let app ← mmcSendCmd bus depth 55 rca mmcResponseR5
      if app.1 ≠ 0 then pure app.1
      else
        let set ← mmcSendCmd bus depth 6 arg mmcResponseR1
        if set.1 ≠ 0 then pure set.1
        else
          let ret ← waitState bus depth rounds (· ≠ mmcStatePrg)
          pure (if ret < 0 then ret else 0)) := by
  refine (KeepsSound.read _).bind fun rca => (mmcSendCmd_app _ _).bind fun app => ?_
  refine Call.Ensures.ite (fun _ => Call.Ensures.pure fun _ here => here.1) fun ok => ?_
  have rest : Call.Ensures (SoundSwitch pending) (do
      let set ← mmcSendCmd bus depth 6 arg mmcResponseR1
      if set.1 ≠ 0 then pure set.1
      else
        let ret ← waitState bus depth rounds (· ≠ mmcStatePrg)
        pure (if ret < 0 then ret else 0)) fun _ => Sound pending := by
    refine (mmcSendCmd_switch _ _).bind fun set => KeepsSound.ite (.pure _) ?_
    exact (keeps_waitState _).bind fun ret => .pure _
  exact rest.weaken (fun _ here => ⟨here.1, .inl (here.2 (not_not.mp ok))⟩) fun _ _ here => here

theorem keeps_mmcSdSwitch (busWidth : UInt32) :
    KeepsSound false (mmcSdSwitch bus depth rounds busWidth) := by
  have rcaPath : Call.Ensures (SoundPath false sdmmcDctrlrDtdir) (rcaArg : Call (SdHost W) UInt32)
      fun _ => SoundPath false sdmmcDctrlrDtdir := Call.Ensures.read fun _ here => here
  have readsScr : KeepsSound false (readScr bus depth) := keeps_readScr
  apply keeps_prepared
  refine rcaPath.bind fun rca => (mmcSendCmd_path _ _ (by decide) (.inl rfl)).bind ?_
  rintro ⟨ret, resp⟩
  refine Call.Ensures.ite (fun _ => ?_) fun _ => ?_
  · exact Call.Ensures.pure fun _ here => here.toSound
  · apply ensures_orReturn (ensures_acmd51 _)
    refine Call.Ensures.weaken (readsScr.orReturn ?_) (fun _ here => here.toSound) fun _ _ here =>
      here
    exact (KeepsSound.read _).bind fun _ => keeps_setBusWidth _

theorem keeps_setIos (width : UInt32) :
    KeepsSound pending (stm32Sdmmc2SetIos width : Call (SdHost W) Int) := by
  unfold stm32Sdmmc2SetIos
  split
  · exact Call.Ensures.stuck
  · refine KeepsSound.bind (.update fun host here => ?_) fun _ => .pure _
    exact here.of_same here.prepared ⟨rfl, rfl, rfl⟩

theorem keeps_mmcSetIos (busWidth : UInt32) :
    KeepsSound false (mmcSetIos bus depth rounds busWidth) := by
  refine keeps_card fun devType card => ?_
  rw [if_pos card]
  exact (keeps_mmcSdSwitch _).orReturn (keeps_setIos _)

/-! ### Enumeration -/

theorem Sound.of_framework {host after : SdHost W} (sound : Sound pending host)
    (same : after.requests = host.requests ∧ after.writePending = host.writePending ∧
      after.mmcOcrValue = host.mmcOcrValue ∧ after.mmcDevType = host.mmcDevType) :
    Sound pending after := by
  refine sound.of_same ?_ same.2
  rw [same.1]
  exact sound.prepared

theorem keeps_mmcFillDeviceInfo :
    KeepsSound pending (Mmc.mmcFillDeviceInfo bus depth rounds) := by
  have geometry : KeepsSound pending (readGeometry bus depth rounds) := by
    refine keeps_card fun devType card => ?_
    rw [if_neg card]
    exact .pure _
  refine geometry.orReturn ?_
  refine (KeepsSound.read _).bind fun devType => ?_
  refine (KeepsSound.read _).bind fun csd => (KeepsSound.read _).bind fun nbBlocks => ?_
  split
  · exact Call.Ensures.stuck
  · refine KeepsSound.bind (.update fun host here => here.of_framework ⟨rfl, rfl, rfl, rfl⟩)
      fun _ => (KeepsSound.guard _).bind fun _ => ?_
    exact KeepsSound.bind (.update fun host here => here.of_framework ⟨rfl, rfl, rfl, rfl⟩)
      fun _ => .pure _

/-- The answer of ACMD41 settles the type. -/
theorem keeps_sdSendOpCondFrom (n : Nat) :
    KeepsSound pending (sdSendOpCondFrom bus depth n) := by
  induction n with
  | zero => exact .pure _
  | succ n ih =>
      refine (keeps_plain _ _ (by decide) (by decide)).bind fun app => .ite (.pure _) ?_
      refine (KeepsSound.read _).bind fun voltage => ?_
      refine (keeps_plain _ _ (by decide) (by decide)).bind fun answer => .ite (.pure _) ?_
      refine Call.Ensures.ite (fun up => ?_) fun _ => ih
      refine KeepsSound.bind (.update fun host here => ?_) fun _ => .pure _
      exact ⟨here.prepared, here.pending, .inr ⟨up, rfl⟩⟩

theorem keeps_identifyVoltage : KeepsSound pending (identifyVoltage bus depth) := by
  refine KeepsSound.bind (.update fun host here => here.of_framework ⟨rfl, rfl, rfl, rfl⟩)
    fun _ => ?_
  refine (keeps_plain _ _ (by decide) (by decide)).bind fun reset => .ite (.pure _) ?_
  refine keeps_card fun devType card => ?_
  rw [if_neg card]
  refine (keeps_plain _ _ (by decide) (by decide)).bind fun answer => ?_
  exact .ite (keeps_sdSendOpCondFrom _) (.pure _)

theorem keeps_setRelativeAddr : KeepsSound pending (setRelativeAddr bus depth) := by
  refine keeps_card fun devType card => ?_
  rw [if_neg card]
  refine (keeps_plain _ _ (by decide) (by decide)).bind fun answer => .ite (.pure _) ?_
  exact KeepsSound.bind (.update fun host here => here.of_framework ⟨rfl, rfl, rfl, rfl⟩)
    fun _ => .pure _

theorem keeps_identifyCard (busWidth : UInt32) :
    KeepsSound false (identifyCard bus depth rounds busWidth) := by
  refine (keeps_plain _ _ (by decide) (by decide)).bind fun answer => .ite (.pure _) ?_
  refine keeps_setRelativeAddr.orReturn ?_
  refine (KeepsSound.read _).bind fun rca => ?_
  refine (keeps_plain _ _ (by decide) (by decide)).bind fun csd => .ite (.pure _) ?_
  refine KeepsSound.bind (.update fun host here => here.of_framework ⟨rfl, rfl, rfl, rfl⟩)
    fun _ => ?_
  refine (KeepsSound.read _).bind fun rca => ?_
  refine (keeps_plain _ _ (by decide) (by decide)).bind fun select => .ite (.pure _) ?_
  exact (keeps_waitState _).bind fun ret => .ite (.pure _) (keeps_mmcSetIos _)

theorem keeps_mmcEnumerate (busWidth : UInt32) :
    KeepsSound false (Mmc.mmcEnumerate bus depth rounds busWidth) := by
  refine keeps_identifyVoltage.orReturn ?_
  refine (keeps_identifyCard _).orReturn ?_
  refine keeps_mmcFillDeviceInfo.orReturn ?_
  have disabled : isSdCmd6Enabled = false := rfl
  refine (KeepsSound.read _).bind fun devType => ?_
  simp only [disabled, Bool.false_eq_true, false_and, if_false]
  exact .pure _

/-! ### Transfers -/

/-- `prepare` and the data command, in the direction that is pending. -/
theorem keeps_openTransfer {cmdIdx : UInt32} (arg : SdHost W → UInt32) (size : UInt64)
    (small : cmdIdx &&& 0x3F = cmdIdx)
    (data : preparedDir cmdIdx = some (if pending then 0 else sdmmcDctrlrDtdir)) :
    KeepsSound pending (openTransfer bus depth cmdIdx arg size) := by
  refine keeps_prepared size ?_
  have counted : Call.Ensures (SoundPath pending (if pending then 0 else sdmmcDctrlrDtdir))
      (setBlockCount bus depth size)
      fun _ => SoundPath pending (if pending then 0 else sdmmcDctrlrDtdir) := by
    have disabled : isCmd23Enabled = false := rfl
    rw [setBlockCount, disabled]
    exact Call.Ensures.pure fun _ here => here
  have readArg : Call.Ensures (SoundPath pending (if pending then 0 else sdmmcDctrlrDtdir))
      (Call.read arg) fun _ => SoundPath pending (if pending then 0 else sdmmcDctrlrDtdir) :=
    Call.Ensures.read fun _ here => here
  refine ensures_orReturn counted ?_
  refine readArg.bind fun arg => (mmcSendCmd_path _ _ small (.inr data)).bind fun answer => ?_
  exact Call.Ensures.pure fun _ here => here.toSound

theorem keeps_closeTransfer (goOn : Int → Bool) (size : UInt64) :
    KeepsSound pending (closeTransfer bus depth rounds goOn size) := by
  refine (keeps_waitState _).bind fun ret => .ite (.pure _) (.ite ?_ (.pure _))
  exact (keeps_plain _ _ (by decide) (by decide)).bind fun answer => .pure _

theorem keeps_sdRead (lba : UInt32) (memory : Store UInt32) (size : UInt32) :
    KeepsSound false (Mmc.sdRead bus depth rounds lba memory size) := by
  have data : preparedDir (blockCmd 17 18 size.toUInt64) =
      some (if false = true then 0 else sdmmcDctrlrDtdir) := by
    have disabled : isCmd23Enabled = false := rfl
    rw [blockCmd, disabled]
    simp only [Bool.false_eq_true, if_false]
    split <;> rfl
  have small : blockCmd 17 18 size.toUInt64 &&& 0x3F = blockCmd 17 18 size.toUInt64 := by
    unfold blockCmd
    repeat' split
    all_goals decide
  refine KeepsSound.bind ?_ fun result => .pure _
  refine (KeepsSound.guard _).bind fun _ => ?_
  refine (keeps_openTransfer _ _ small data).bind fun ret => .ite (.pure _) ?_
  refine (keeps_readBlocks _ _).bind fun result => .ite (.pure _) ?_
  exact (keeps_closeTransfer _ _).bind fun ret => .pure _

theorem keeps_sdWrite (lba : UInt32) (aligned : Bool) (buffer : List UInt32) (size : UInt32) :
    KeepsSound false (Mmc.sdWrite bus depth rounds lba aligned buffer size) := by
  have data : preparedDir (blockCmd 24 25 size.toUInt64) =
      some (if true = true then 0 else sdmmcDctrlrDtdir) := by
    have disabled : isCmd23Enabled = false := rfl
    rw [blockCmd, disabled]
    simp only [Bool.false_eq_true, if_false]
    split <;> rfl
  have small : blockCmd 24 25 size.toUInt64 &&& 0x3F = blockCmd 24 25 size.toUInt64 := by
    unfold blockCmd
    repeat' split
    all_goals decide
  have writes : Call.Ensures (Sound true)
      (mmcWriteBlocks bus depth rounds lba aligned buffer size.toUInt64) fun _ => Sound true := by
    refine (KeepsSound.guard _).bind fun _ => ?_
    refine (keeps_openTransfer _ _ small data).bind fun ret => .ite (.pure _) ?_
    refine (keeps_writeBlocks _ _).bind fun ret => .ite (.pure _) ?_
    exact (keeps_closeTransfer _ _).bind fun ret => .pure _
  have starts : Call.Ensures (Sound false)
      (Call.update fun host : SdHost W => { host with writePending := true })
      fun _ => Sound true :=
    Call.Ensures.update fun host here => ⟨here.prepared, rfl, here.settled⟩
  have ends : Call.Ensures (Sound true)
      (Call.update fun host : SdHost W => { host with writePending := false })
      fun _ => Sound false :=
    Call.Ensures.update fun host here => ⟨here.prepared, rfl, here.settled⟩
  refine starts.bind fun _ => writes.bind fun done => ends.bind fun _ => ?_
  exact Call.Ensures.pure fun _ here => here

/-! ### Runs -/

/-- A call of the glue, as the rest of the program makes it. -/
inductive SdCall where
  | init (vddio1Ready : Bool)
  | read (lba : UInt32) (memory : Store UInt32) (size : UInt32)
  | write (lba : UInt32) (aligned : Bool) (buffer : List UInt32) (size : UInt32)

def SdCall.run (bus : Bus W) (depth rounds : Nat) : SdCall → Call (SdHost W) Int
  | .init vddio1Ready => Mmc.sdInit bus depth rounds vddio1Ready
  | .read lba memory size => do
      let (ret, _) ← Mmc.sdRead bus depth rounds lba memory size
      pure ret
  | .write lba aligned buffer size => Mmc.sdWrite bus depth rounds lba aligned buffer size

/-- The states between calls that return, from the initial state on. -/
inductive Reachable (bus : Bus W) : SdHost W → Prop where
  | reset (world : W) : Reachable bus (.reset world)
  | call {host after : SdHost W} {depth rounds : Nat} {call : SdCall} {ret : Int} :
      Reachable bus host → call.run bus depth rounds host = some (ret, after) →
        Reachable bus after

theorem keeps_run (call : SdCall) : KeepsSound false (call.run bus depth rounds) := by
  cases call with
  | init vddio1Ready =>
      refine KeepsSound.ite ?_ (.pure _)
      exact KeepsSound.bind (.update fun host here => here.of_framework ⟨rfl, rfl, rfl, rfl⟩)
        fun _ => keeps_mmcEnumerate _
  | read lba memory size => exact (keeps_sdRead lba memory size).bind fun result => .pure _
  | write lba aligned buffer size => exact keeps_sdWrite lba aligned buffer size

theorem Reachable.sound {host : SdHost W} (reachable : Reachable bus host) :
    Sound false host := by
  induction reachable with
  | reset world => exact ⟨.nil, rfl, .inl ⟨rfl, rfl⟩⟩
  | @call host after depth rounds call ret _ run ih => exact keeps_run call host ih ret after run

/-- In every run, whatever the bus answers, each command that goes out with data finds
the data path set up for its own direction with the block length of the last CMD16,
or cleared where a transfer has been stopped since; or it is a CMD6 that finds it off. -/
theorem reachable_dataPrepared {host : SdHost W} (reachable : Reachable bus host) :
    DataPrepared host.requests := reachable.sound.prepared

/-- Only block zero has the same address in blocks and in bytes. -/
theorem mul_blockSize_eq_iff (lba : UInt32) : lba * 512 = lba ↔ lba = 0 := by
  rw [← UInt32.toNat_inj, ← UInt32.toNat_inj, UInt32.toNat_mul]
  have bound := lba.toNat_lt
  simp
  omega

/-- In every run, a read and a write of a block send the same address exactly
where ACMD41 has settled the type, or for block zero. -/
theorem reachable_addresses_agree_iff {host : SdHost W} (reachable : Reachable bus host)
    (lba : UInt32) : readArg host lba = writeArg host lba ↔ host.mmcOcrValue ≠ 0 ∨ lba = 0 := by
  rcases reachable.sound.settled with ⟨never, typed⟩ | ⟨up, typed⟩
  · -- The read goes by the type, the write by the register that was never set.
    have byteMode : host.mmcOcrValue &&& ocrAccessModeMask = ocrByteMode := by
      rw [never]
      decide
    have read : readArg host lba = lba := by simp [readArg, typed]
    have write : writeArg host lba = lba * 512 := by simp [writeArg, byteMode]
    rw [read, write, eq_comm, mul_blockSize_eq_iff, never]
    simp
  · have some_value : host.mmcOcrValue ≠ 0 := by
      intro zero
      rw [zero] at up
      exact up (by decide)
    have agree : readArg host lba = writeArg host lba := by
      unfold readArg writeArg
      rw [typed]
      by_cases high : host.mmcOcrValue &&& ocrHcs ≠ 0
      · -- The capacity bit is one of the two bits of the access mode.
        have blockMode : host.mmcOcrValue &&& ocrAccessModeMask ≠ ocrByteMode := by
          intro byteMode
          apply high
          have inside : ocrHcs = ocrAccessModeMask &&& ocrHcs := by decide
          rw [inside, ← UInt32.and_assoc, byteMode]
          decide
        simp [blockMode]
      · simp [high]
    simp [agree, some_value]

/-- A bus that answers every command with the same response. -/
def echoBus (resp : Resp) : Bus Unit where
  request := fun _ _ => (⟨[⟨sdmmcStarCmdrend ||| sdmmcStarCmdsent, false⟩], resp⟩, ())
  drain := fun _ _ => (([⟨⟨sdmmcStarDataend, false⟩, 0, 0⟩], fun _ => 0), ())
  feed := fun _ _ => ([⟨sdmmcStarDataend, false⟩], ())
  fed := fun _ _ _ => ()

/-- A bus that answers every command with the state `tran` of a card that does not
echo the check pattern. -/
def noEchoBus : Bus Unit := echoBus ⟨0x40000932, 0, 0, 0⟩

theorem noEcho_init :
    (Mmc.sdInit noEchoBus 0 1 true (.reset ())).map (fun run => (run.1, run.2.mmcOcrValue)) =
      some (0, 0) := by
  decide +kernel

theorem reachable_dataPrepared_noEcho :
    ∃ host, Mmc.sdInit noEchoBus 0 1 true (.reset ()) = some (0, host) ∧
      DataPrepared host.requests := by
  obtain ⟨⟨ret, host⟩, ran, same⟩ := Option.map_eq_some_iff.mp noEcho_init
  obtain rfl : ret = 0 := (Prod.mk.inj same).1
  have call : (SdCall.init true).run noEchoBus 0 1 (.reset ()) = some (0, host) := ran
  exact ⟨host, ran, reachable_dataPrepared (.call (.reset ()) call)⟩

/-- Behind an enumeration that succeeds without ACMD41, the two addresses of block
one differ. -/
theorem reachable_addresses_agree_iff_noEcho :
    ∃ host, Mmc.sdInit noEchoBus 0 1 true (.reset ()) = some (0, host) ∧
      readArg host 1 ≠ writeArg host 1 := by
  obtain ⟨⟨ret, host⟩, ran, same⟩ := Option.map_eq_some_iff.mp noEcho_init
  obtain ⟨rfl, unset⟩ : ret = 0 ∧ host.mmcOcrValue = 0 := Prod.mk.inj same
  have call : (SdCall.init true).run noEchoBus 0 1 (.reset ()) = some (0, host) := ran
  refine ⟨host, ran, fun agree => ?_⟩
  have settled := (reachable_addresses_agree_iff (.call (.reset ()) call) 1).mp agree
  rw [unset] at settled
  exact absurd settled (by decide)

end Mp257Fsbl.Sd
