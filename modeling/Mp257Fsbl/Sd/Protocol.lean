/-
Module: Mp257Fsbl.Sd.Protocol
Purpose: What holds of every run of the card stack, whatever the bus answers: how
  the data path is set up for each data command, and which addresses are sent.
Trusted boundary: none
Main exports: sendCmd_ensures, PathPrepared, FindsPath, DataPrepared, Sound,
  SoundPath, SoundSwitch, prepare_ensures
-/
import Mp257Fsbl.Foundation.Log
import Mp257Fsbl.Sd.Mmc
import Mp257Fsbl.Sd.Retry

namespace Mp257Fsbl.Sd

open Mp257Fsbl.Foundation

variable {W : Type} {bus : Bus W}

/-! ### Invariants of one command -/

/-- What the driver does between the requests of one command keeps `inv`: the
command itself, CMD12, and the end of a failed request. -/
structure Survives (bus : Bus W) (cmd : MmcCmd) (inv : SdHost W → Prop) : Prop where
  sent : ∀ host waited, inv host → inv (host.answered bus cmd waited)
  stop : ∀ host waited, inv host → inv (host.answered bus cmdStop waited)
  ended : ∀ host, inv host → inv host.endRequest

/-- A zero return comes straight from a request that was answered. -/
def EndsAnswered (bus : Bus W) (cmd : MmcCmd) (inv : SdHost W → Prop) (ret : Int)
    (after : SdHost W) : Prop :=
  ret = 0 → cmd.cmdIdx ≠ 1 → cmd.cmdIdx ≠ 13 →
    ∃ between waited, inv between ∧ after = between.answered bus cmd waited

/-- The command in another round of its retries. -/
def SameCmd (cmd cmd' : MmcCmd) : Prop := ∃ resp, cmd' = { cmd with respData := resp }

section Invariant

variable {cmd : MmcCmd} {inv : SdHost W → Prop}

theorem sendCmdReq_ensures (survives : Survives bus cmd inv) {stop : Call (SdHost W) Int}
    (stops : Call.Ensures inv stop fun _ => inv) :
    Call.Ensures inv (sendCmdReq bus stop cmd) fun result after =>
      inv after ∧ SameCmd cmd result.2 ∧
        (result.1 = 0 →
          ∃ between waited, inv between ∧ after = between.answered bus cmd waited) := by
  intro host here result after run
  rw [sendCmdReq_eq] at run
  split at run
  · cases run
  · rename_i waited _
    have sent := survives.sent host waited here
    dsimp only at run
    split at run
    · cases run
      exact ⟨sent, ⟨_, rfl⟩, fun _ => ⟨host, waited, here, rfl⟩⟩
    · rename_i failed
      split at run
      · obtain ⟨stopped, ran, ended⟩ := Option.map_eq_some_iff.mp run
        cases ended
        have kept := stops _ (survives.ended _ sent) _ _ ran
        refine ⟨kept, ⟨cmd.respData, rfl⟩, fun zero => ?_⟩
        simp only at zero
        split at zero
        · rename_i nonzero
          exact absurd zero nonzero
        · exact absurd zero failed
      · cases run
        exact ⟨survives.ended _ sent, ⟨cmd.respData, rfl⟩, fun zero => absurd zero failed⟩

theorem Survives.congr {cmd' : MmcCmd} (survives : Survives bus cmd inv) (same : SameCmd cmd cmd') :
    Survives bus cmd' inv := by
  obtain ⟨resp, rfl⟩ := same
  exact ⟨survives.sent, survives.stop, survives.ended⟩

theorem retryCmd_ensures {req : MmcCmd → Call (SdHost W) (Int × MmcCmd)}
    (once : ∀ cmd', SameCmd cmd cmd' → Call.Ensures inv (req cmd') fun result after =>
      inv after ∧ SameCmd cmd' result.2 ∧
        (result.1 = 0 → ∃ between waited, inv between ∧ after = between.answered bus cmd' waited))
    (rounds : Nat) {err : Int} (failed : rounds = 0 → err ≠ 0) :
    ∀ cmd', SameCmd cmd cmd' → Call.Ensures inv (retryCmd req rounds err cmd')
      fun result after => inv after ∧ EndsAnswered bus cmd inv result.1 after := by
  induction rounds generalizing err with
  | zero =>
      intro cmd' _ host here result after run
      cases run
      exact ⟨here, fun zero => absurd zero (failed rfl)⟩
  | succ rounds ih =>
      intro cmd' same host here result after run
      rw [retryCmd] at run
      obtain ⟨⟨ret, next⟩, between, first, rest⟩ := Call.bind_eq_some run
      obtain ⟨kept, same', ended⟩ := once cmd' same host here _ _ first
      obtain ⟨resp, rfl⟩ := same
      obtain ⟨resp', rfl⟩ := same'
      simp only [Call.ite_apply, Call.pure_apply] at rest
      split at rest
      · rename_i zero
        cases rest
        exact ⟨kept, fun _ _ _ => ended zero⟩
      · rename_i nonzero
        split at rest
        · rename_i framework
          cases rest
          refine ⟨kept, fun _ one thirteen => ?_⟩
          exact absurd framework (not_or.mpr ⟨one, thirteen⟩)
        · exact ih (fun _ => nonzero) _ ⟨resp', rfl⟩ between kept result after rest

/-- An invariant that the command and CMD12 keep holds whenever the command
returns, however often it is retried and stopped. -/
theorem sendCmd_ensures (survives : Survives bus cmd inv) (depth : Nat) :
    Call.Ensures inv (sendCmd bus depth cmd) fun result after =>
      inv after ∧ EndsAnswered bus cmd inv result.1 after := by
  have stopSurvives : Survives bus cmdStop inv := ⟨survives.stop, survives.stop, survives.ended⟩
  have each (depth : Nat) : ∀ {cmd : MmcCmd}, Survives bus cmd inv →
      Call.Ensures inv (sendCmdReqAt bus depth cmd) fun result after =>
        inv after ∧ SameCmd cmd result.2 ∧
          (result.1 = 0 →
            ∃ between waited, inv between ∧ after = between.answered bus cmd waited) := by
    induction depth with
    | zero =>
        intro cmd survives
        exact sendCmdReq_ensures survives Call.Ensures.stuck
    | succ depth ih =>
        intro cmd survives
        refine sendCmdReq_ensures survives ?_
        have stopped : Call.Ensures inv (retryCmd (sendCmdReqAt bus depth) 3 0 cmdStop)
            fun result after => inv after ∧ EndsAnswered bus cmdStop inv result.1 after :=
          retryCmd_ensures (fun cmd' same => ih (stopSurvives.congr same)) 3 (by simp) cmdStop
            ⟨_, rfl⟩
        exact stopped.bind fun result => Call.Ensures.pure fun after here => here.1
  exact retryCmd_ensures (fun cmd' same => each depth (survives.congr same)) 3 (by simp) cmd
    ⟨_, rfl⟩

/-- A stop keeps what CMD12 keeps. -/
theorem stopTransfer_ensures (survives : Survives bus cmdStop inv) (depth : Nat) :
    Call.Ensures inv (stopTransfer bus depth) fun _ => inv :=
  (sendCmd_ensures survives depth).bind fun _ => Call.Ensures.pure fun _ here => here.1

end Invariant

/-! ### The data path of each data command -/

/-- The command of a request. -/
def Request.idx (request : Request) : UInt32 := request.regs.cmdr &&& 0x3F

/-- The request goes out as a command with data. -/
def Request.HasData (request : Request) : Prop := request.regs.cmdr &&& sdmmcCmdrCmdtrans ≠ 0

/-- The direction in SDMMC_DCTRLR for the commands that are sent behind `prepare`:
the writes, and the reads with ACMD51. -/
def preparedDir (idx : UInt32) : Option UInt32 :=
  if idx = 24 ∨ idx = 25 then some 0
  else if idx = 17 ∨ idx = 18 ∨ idx = 51 then some sdmmcDctrlrDtdir
  else none

/-- The requests behind the last CMD16. -/
def sinceBlocklen (requests : List Request) : List Request :=
  (requests.reverse.takeWhile fun request => request.idx ≠ 16).reverse

/-- A transfer has been stopped since the last CMD16. -/
def StoppedSince (requests : List Request) : Prop :=
  ∃ request ∈ sinceBlocklen requests, request.idx = 12

instance (requests : List Request) : Decidable (StoppedSince requests) :=
  inferInstanceAs (Decidable (∃ request ∈ sinceBlocklen requests, request.idx = 12))

/-- The argument of a CMD16. -/
def Request.blocklen (request : Request) : Option UInt32 :=
  if request.idx = 16 then some request.regs.argr else none

/-- The block length that the last CMD16 gave the card. -/
abbrev lastBlocklen : List Request → Option UInt32 := latest Request.blocklen

/-- `SDMMC_DCTRLR` as it is set up for blocks of some length in a direction. -/
def preparedDctrlr (dir len : UInt32) : UInt32 := dir ||| ctz len <<< 4

/-- The data path is prepared in this direction, or has been cleared by a stop; its
blocks are those of the last CMD16, and as long as SDMMC_DLENR makes them. -/
def PathPrepared (dir : UInt32) (before : List Request) (regs : SdmmcRegs) : Prop :=
  lastBlocklen before = some (min regs.dlenr 512) ∧
    regs.dctrlr = if StoppedSince before then 0 else preparedDctrlr dir (min regs.dlenr 512)

/-- The data path behind a request that goes out with data. Apart from the commands
sent behind `prepare`, that is CMD6 alone, with the data path off. -/
def FindsPath (before : List Request) (request : Request) : Prop :=
  match preparedDir request.idx with
  | some dir => PathPrepared dir before request.regs
  | none => request.idx = 6 ∧ request.regs.dctrlr = 0

/-- Every request with data finds its data path. -/
def DataPrepared (requests : List Request) : Prop :=
  ∀ before request after, requests = before ++ request :: after →
    request.HasData → FindsPath before request

theorem sinceBlocklen_append (requests : List Request) (request : Request) :
    sinceBlocklen (requests ++ [request]) =
      if request.idx = 16 then [] else sinceBlocklen requests ++ [request] := by
  unfold sinceBlocklen
  rw [List.reverse_append, List.reverse_singleton, List.singleton_append, List.takeWhile_cons]
  by_cases blocklen : request.idx = 16
  · simp [blocklen]
  · simp [blocklen]

theorem stoppedSince_append (requests : List Request) (request : Request) :
    StoppedSince (requests ++ [request]) ↔
      request.idx ≠ 16 ∧ (StoppedSince requests ∨ request.idx = 12) := by
  unfold StoppedSince
  rw [sinceBlocklen_append]
  by_cases blocklen : request.idx = 16
  · simp [blocklen]
  · simp [blocklen, or_and_right, exists_or]

theorem DataPrepared.nil : DataPrepared [] := by
  intro before request after same
  simp at same

theorem DataPrepared.append {requests : List Request} {request : Request}
    (prepared : DataPrepared requests) (here : request.HasData → FindsPath requests request) :
    DataPrepared (requests ++ [request]) := by
  intro before sent after same data
  rcases List.eq_nil_or_concat after with rfl | ⟨earlier, last, rfl⟩
  · obtain ⟨rfl, lasts⟩ := List.append_inj' same rfl
    obtain rfl : request = sent := by simpa using lasts
    exact here data
  · rw [List.concat_eq_append, ← List.cons_append, ← List.append_assoc] at same
    obtain ⟨same, -⟩ := List.append_inj' same rfl
    exact prepared before sent earlier same data

/-! ### What the driver keeps -/

/-- What holds between the commands of a run. -/
structure Sound (pending : Bool) (host : SdHost W) : Prop where
  prepared : DataPrepared host.requests
  pending : host.writePending = pending
  /-- ACMD41 has never settled the type, or the type is what its answer said. -/
  settled : (host.mmcOcrValue = 0 ∧ host.mmcDevType = .isSdHc) ∨
    (host.mmcOcrValue &&& ocrPowerup ≠ 0 ∧
      host.mmcDevType = if host.mmcOcrValue &&& Mmc.ocrHcs ≠ 0 then .isSdHc else .isSd)

theorem Sound.not_emmc {pending : Bool} {host : SdHost W} (sound : Sound pending host) :
    host.mmcDevType ≠ .isEmmc := by
  rcases sound.settled with ⟨-, never⟩ | ⟨-, typed⟩
  · rw [never]
    decide
  · rw [typed]
    split <;> decide

/-- The same with the data path prepared. -/
structure SoundPath (pending : Bool) (dir : UInt32) (host : SdHost W) : Prop
    extends Sound pending host where
  path : PathPrepared dir host.requests host.regs

/-- The same where CMD6 is to come: as an application command, or with the data path
off. -/
structure SoundSwitch (pending : Bool) (host : SdHost W) : Prop extends Sound pending host where
  switch : host.nextCmdIsAcmd = true ∨ host.regs.dctrlr = 0

theorem Sound.of_same {pending : Bool} {host after : SdHost W} (sound : Sound pending host)
    (prepared : DataPrepared after.requests)
    (same : after.writePending = host.writePending ∧ after.mmcOcrValue = host.mmcOcrValue ∧
      after.mmcDevType = host.mmcDevType) : Sound pending after where
  prepared := prepared
  pending := same.1.trans sound.pending
  settled := by
    rw [same.2.1, same.2.2]
    exact sound.settled

theorem uint32_or_and (a b mask : UInt32) : (a ||| b) &&& mask = a &&& mask ||| b &&& mask := by
  apply UInt32.toBitVec_inj.mp
  ext bit inside
  simp only [UInt32.toBitVec_and, UInt32.toBitVec_or, BitVec.getElem_and, BitVec.getElem_or,
    Bool.and_or_distrib_right]

/-- The command index stays readable in SDMMC_CMDR. -/
theorem cmdReg_idx (devType : MmcDeviceType) (acmd : Bool) {cmd : MmcCmd}
    (small : cmd.cmdIdx &&& 0x3F = cmd.cmdIdx) :
    cmdReg devType acmd cmd &&& 0x3F = cmd.cmdIdx := by
  have response : waitresp cmd &&& 0x3F = 0 := by
    unfold waitresp
    split
    · split
      · decide
      · split <;> decide
    · decide
  have transfer : transferBits devType acmd cmd.cmdIdx &&& 0x3F = 0 := by
    unfold transferBits
    repeat' split
    all_goals decide
  unfold cmdReg
  rw [uint32_or_and, uint32_or_and, uint32_or_and, response, transfer, small]
  have enable : sdmmcCmdrCpsmen &&& 0x3F = 0 := by decide
  rw [enable]
  simp

/-- Only the switch over the index makes a command one with data. -/
theorem cmdReg_cmdtrans (devType : MmcDeviceType) (acmd : Bool) {cmd : MmcCmd}
    (small : cmd.cmdIdx &&& 0x3F = cmd.cmdIdx) :
    cmdReg devType acmd cmd &&& sdmmcCmdrCmdtrans =
      transferBits devType acmd cmd.cmdIdx &&& sdmmcCmdrCmdtrans := by
  have response : waitresp cmd &&& sdmmcCmdrCmdtrans = 0 := by
    unfold waitresp
    split
    · split
      · decide
      · split <;> decide
    · decide
  have index : cmd.cmdIdx &&& sdmmcCmdrCmdtrans = 0 := by
    rw [← small, UInt32.and_assoc]
    have apart : (0x3F : UInt32) &&& sdmmcCmdrCmdtrans = 0 := by decide
    rw [apart, UInt32.and_zero]
  unfold cmdReg
  rw [uint32_or_and, uint32_or_and, uint32_or_and, response, index]
  have enable : sdmmcCmdrCpsmen &&& sdmmcCmdrCmdtrans = 0 := by decide
  rw [enable]
  simp

/-- The request that one command logs. -/
theorem answered_eq (bus : Bus W) (cmd : MmcCmd) (waited : Bool × UInt32) (host : SdHost W) :
    ∃ sent : Request, (host.answered bus cmd waited).requests = host.requests ++ [sent] ∧
      sent.regs = (host.program cmd).regs ∧
      (host.answered bus cmd waited).regs = (host.program cmd).regs :=
  ⟨_, rfl, rfl, rfl⟩

/-! ### Which commands go out with data -/

section Transfer

variable {devType : MmcDeviceType} {idx dir : UInt32}

theorem preparedDir_cases (found : preparedDir idx = some dir) :
    (idx = 24 ∨ idx = 25) ∨ idx = 17 ∨ idx = 18 ∨ idx = 51 := by
  unfold preparedDir at found
  split at found
  · exact .inl ‹_›
  · split at found
    · exact .inr ‹_›
    · cases found

theorem transferBits_prepared (acmd : Bool) (found : preparedDir idx = some dir) :
    transferBits devType acmd idx = sdmmcCmdrCmdtrans := by
  rcases preparedDir_cases found with (rfl | rfl) | rfl | rfl | rfl <;> simp [transferBits]

/-- Only CMD8 for an eMMC and CMD6 are besides. -/
theorem transferBits_plain (card : devType ≠ .isEmmc) (acmd : Bool)
    (plain : preparedDir idx = none) (notSwitch : idx ≠ 6) :
    transferBits devType acmd idx &&& sdmmcCmdrCmdtrans = 0 := by
  have none_ : ¬ (idx = 24 ∨ idx = 25 ∨ idx = 17 ∨ idx = 18 ∨ idx = 51) := by
    rintro (rfl | rfl | rfl | rfl | rfl) <;> exact absurd plain (by decide)
  simp only [transferBits, notSwitch, card, none_, if_false]
  split
  · decide
  · split <;> decide

/-- CMD6 behind CMD55 is none with data. -/
theorem transferBits_acmd6 : transferBits devType true 6 &&& sdmmcCmdrCmdtrans = 0 := by
  simp [transferBits]

end Transfer

section Survive

variable {cmd : MmcCmd} {pending : Bool} {dir : UInt32} {host : SdHost W}

theorem sent_idx {sent : Request} (small : cmd.cmdIdx &&& 0x3F = cmd.cmdIdx)
    (regs : sent.regs = (host.program cmd).regs) : sent.idx = cmd.cmdIdx := by
  rw [Request.idx, regs]
  exact cmdReg_idx _ _ small

theorem sent_hasData {sent : Request} (small : cmd.cmdIdx &&& 0x3F = cmd.cmdIdx)
    (regs : sent.regs = (host.program cmd).regs) :
    sent.HasData ↔ transferBits host.mmcDevType host.nextCmdIsAcmd cmd.cmdIdx &&&
      sdmmcCmdrCmdtrans ≠ 0 := by
  rw [Request.HasData, regs, ← cmdReg_cmdtrans _ _ small]
  rfl

theorem lastBlocklen_append {requests : List Request} {sent : Request} (other : sent.idx ≠ 16) :
    lastBlocklen (requests ++ [sent]) = lastBlocklen requests := by
  simp [Request.blocklen, other]

/-- A command without data, other than CMD55, turns the data path off. -/
theorem program_dctrlr (small : cmd.cmdIdx &&& 0x3F = cmd.cmdIdx) (other : cmd.cmdIdx ≠ 55)
    (none_ : transferBits host.mmcDevType host.nextCmdIsAcmd cmd.cmdIdx &&&
      sdmmcCmdrCmdtrans = 0) : (host.program cmd).regs.dctrlr = 0 := by
  rw [← cmdReg_cmdtrans _ _ small] at none_
  simp [SdHost.program, none_, other]

theorem endRequest_sound (sound : Sound pending host) : Sound pending host.endRequest :=
  sound.of_same sound.prepared ⟨rfl, rfl, rfl⟩

/-- Commands without data. -/
theorem answered_sound (small : cmd.cmdIdx &&& 0x3F = cmd.cmdIdx)
    (plain : preparedDir cmd.cmdIdx = none ∧ cmd.cmdIdx ≠ 6) (sound : Sound pending host)
    (waited : Bool × UInt32) : Sound pending (host.answered bus cmd waited) := by
  obtain ⟨sent, grown, regs, -⟩ := answered_eq bus cmd waited host
  refine sound.of_same ?_ ⟨rfl, rfl, rfl⟩
  rw [grown]
  refine sound.prepared.append fun data => ?_
  rw [sent_hasData small regs] at data
  exact absurd (transferBits_plain sound.not_emmc _ plain.1 plain.2) data

theorem survives_plain (small : cmd.cmdIdx &&& 0x3F = cmd.cmdIdx)
    (plain : preparedDir cmd.cmdIdx = none ∧ cmd.cmdIdx ≠ 6) :
    Survives bus cmd (Sound pending) where
  sent _ waited sound := answered_sound small plain sound waited
  stop _ waited sound := answered_sound (by decide) (by decide) sound waited
  ended _ sound := endRequest_sound sound

/-- CMD55, or a data command in the prepared direction, leaves the data path alone. -/
theorem answered_path (small : cmd.cmdIdx &&& 0x3F = cmd.cmdIdx)
    (fits : cmd.cmdIdx = 55 ∨ preparedDir cmd.cmdIdx = some dir)
    (sound : SoundPath pending dir host) (waited : Bool × UInt32) :
    SoundPath pending dir (host.answered bus cmd waited) := by
  obtain ⟨sent, grown, regs, regs'⟩ := answered_eq bus cmd waited host
  have idx := sent_idx small regs
  have apart : cmd.cmdIdx ≠ 12 ∧ cmd.cmdIdx ≠ 16 := by
    rcases fits with app | found
    · rw [app]
      decide
    · rcases preparedDir_cases found with (same | same) | same | same | same <;>
        rw [same] <;> decide
  have keeps : (host.program cmd).regs.dctrlr = host.regs.dctrlr := by
    rcases fits with app | found
    · simp [SdHost.program, app]
    · have marked : cmdReg host.mmcDevType host.nextCmdIsAcmd cmd &&& sdmmcCmdrCmdtrans ≠ 0 := by
        rw [cmdReg_cmdtrans _ _ small, transferBits_prepared _ found]
        decide
      simp [SdHost.program, marked]
  have path : PathPrepared dir host.requests (host.program cmd).regs := by
    rw [PathPrepared, keeps]
    exact sound.path
  have prepared : DataPrepared (host.answered bus cmd waited).requests := by
    rw [grown]
    refine sound.prepared.append fun data => ?_
    rw [sent_hasData small regs] at data
    rcases fits with app | found
    · rw [app] at data
      exact absurd (transferBits_plain sound.not_emmc _ (by decide) (by decide)) data
    · rw [FindsPath, idx, found, regs]
      exact path
  refine ⟨sound.toSound.of_same prepared ⟨rfl, rfl, rfl⟩, ?_⟩
  have other : sent.idx ≠ 16 := by rw [idx]; exact apart.2
  have same : StoppedSince (host.requests ++ [sent]) ↔ StoppedSince host.requests := by
    rw [stoppedSince_append, idx]
    simp [apart]
  rw [PathPrepared, regs', grown, lastBlocklen_append other]
  simp only [same]
  exact path

theorem stop_dctrlr (host : SdHost W) : (host.program cmdStop).regs.dctrlr = 0 := by
  apply program_dctrlr (by decide) (by decide)
  have stop : transferBits host.mmcDevType host.nextCmdIsAcmd cmdStop.cmdIdx =
      sdmmcCmdrCmdstop := by simp [transferBits, cmdStop]
  rw [stop]
  decide

/-- CMD12 clears the data path. -/
theorem answered_stop (sound : SoundPath pending dir host) (waited : Bool × UInt32) :
    SoundPath pending dir (host.answered bus cmdStop waited) := by
  obtain ⟨sent, grown, regs, regs'⟩ := answered_eq bus cmdStop waited host
  have idx : sent.idx = 12 := sent_idx (by decide) regs
  have other : sent.idx ≠ 16 := by rw [idx]; decide
  refine ⟨answered_sound (by decide) (by decide) sound.toSound waited, ?_⟩
  have stopped : StoppedSince (host.answered bus cmdStop waited).requests := by
    rw [grown, stoppedSince_append, idx]
    exact ⟨by decide, .inr rfl⟩
  rw [PathPrepared, regs', if_pos stopped, grown, lastBlocklen_append other]
  exact ⟨sound.path.1, stop_dctrlr host⟩

theorem survives_path (small : cmd.cmdIdx &&& 0x3F = cmd.cmdIdx)
    (fits : cmd.cmdIdx = 55 ∨ preparedDir cmd.cmdIdx = some dir) :
    Survives bus cmd (SoundPath pending dir : SdHost W → Prop) where
  sent _ waited sound := answered_path small fits sound waited
  stop _ waited sound := answered_stop sound waited
  ended _ sound := ⟨endRequest_sound sound.toSound, sound.path⟩

/-- CMD6 as an application command turns the data path off; again, without another
CMD55, it goes out with data and finds it off. -/
theorem answered_switch (switch : cmd.cmdIdx = 6) (sound : SoundSwitch pending host)
    (waited : Bool × UInt32) : SoundSwitch pending (host.answered bus cmd waited) := by
  obtain ⟨sent, grown, regs, regs'⟩ := answered_eq bus cmd waited host
  have small : cmd.cmdIdx &&& 0x3F = cmd.cmdIdx := by rw [switch]; decide
  have off : (host.program cmd).regs.dctrlr = 0 := by
    rcases sound.switch with app | off
    · apply program_dctrlr small (by simp [switch])
      rw [switch, app]
      exact transferBits_acmd6
    · simp only [SdHost.program]
      split
      · rfl
      · exact off
  refine ⟨sound.toSound.of_same ?_ ⟨rfl, rfl, rfl⟩, .inr (by rw [regs', off])⟩
  rw [grown]
  refine sound.prepared.append fun _ => ?_
  rw [FindsPath, sent_idx small regs, switch, regs]
  exact ⟨rfl, off⟩

theorem survives_switch (switch : cmd.cmdIdx = 6) :
    Survives bus cmd (SoundSwitch pending : SdHost W → Prop) where
  sent _ waited sound := answered_switch switch sound waited
  stop host waited sound :=
    ⟨answered_sound (by decide) (by decide) sound.toSound waited, .inr (stop_dctrlr host)⟩
  ended _ sound := ⟨endRequest_sound sound.toSound, sound.switch⟩

end Survive

/-! ### The commands of the framework -/

section Commands

variable {pending : Bool} {dir : UInt32} {depth : Nat}

theorem mmcSendCmd_plain {idx : UInt32} (arg rType : UInt32) (small : idx &&& 0x3F = idx)
    (plain : preparedDir idx = none ∧ idx ≠ 6) :
    Call.Ensures (Sound pending) (Mmc.mmcSendCmd bus depth idx arg rType) fun _ => Sound pending :=
  (sendCmd_ensures (survives_plain small plain) depth).bind fun _ =>
    Call.Ensures.pure fun _ here => here.1

/-- CMD55, and a data command in the prepared direction, keep the data path. -/
theorem mmcSendCmd_path {idx : UInt32} (arg rType : UInt32) (small : idx &&& 0x3F = idx)
    (fits : idx = 55 ∨ preparedDir idx = some dir) :
    Call.Ensures (SoundPath pending dir) (Mmc.mmcSendCmd bus depth idx arg rType)
      fun _ => SoundPath pending dir :=
  (sendCmd_ensures (survives_path small fits) depth).bind fun _ =>
    Call.Ensures.pure fun _ here => here.1

/-- A CMD55 that is answered makes the next command one of the application. -/
theorem mmcSendCmd_app (arg rType : UInt32) :
    Call.Ensures (Sound pending) (Mmc.mmcSendCmd bus depth 55 arg rType) fun result after =>
      Sound pending after ∧ (result.1 = 0 → after.nextCmdIsAcmd = true) := by
  have small : (55 : UInt32) &&& 0x3F = 55 := by decide
  have plain : preparedDir 55 = none ∧ (55 : UInt32) ≠ 6 := by decide
  refine (sendCmd_ensures (survives_plain small plain) depth).bind fun result =>
    Call.Ensures.pure fun after here => ⟨here.1, fun zero => ?_⟩
  obtain ⟨between, waited, -, rfl⟩ := here.2 zero (by simp) (by simp)
  rfl

/-- CMD6 behind it. -/
theorem mmcSendCmd_switch (arg rType : UInt32) :
    Call.Ensures (SoundSwitch pending) (Mmc.mmcSendCmd bus depth 6 arg rType)
      fun _ => Sound pending :=
  (sendCmd_ensures (survives_switch rfl) depth).bind fun _ =>
    Call.Ensures.pure fun _ here => here.1.toSound

/-- The block length of a transfer, from what goes into SDMMC_DLENR. -/
theorem argSize_eq {size : UInt64} (fits : size ≤ 0xFFFFFFFF) :
    (if size > 512 then 512 else size.toUInt32) = min size.toUInt32 512 := by
  have whole : size.toUInt32.toNat = size.toNat := by
    have bound := UInt64.le_iff_toNat_le.mp fits
    rw [UInt64.toNat_toUInt32]
    apply Nat.mod_eq_of_lt
    simp at bound
    omega
  by_cases large : size > 512
  · have above := UInt64.lt_iff_toNat_lt.mp large
    have not_le : ¬ size.toUInt32 ≤ 512 := by
      rw [UInt32.le_iff_toNat_le, whole]
      simp at above ⊢
      omega
    rw [if_pos large, instMinUInt32]
    exact (if_neg not_le).symm
  · have below := mt UInt64.lt_iff_toNat_lt.mpr large
    have le : size.toUInt32 ≤ 512 := by
      rw [UInt32.le_iff_toNat_le, whole]
      simp at below ⊢
      omega
    rw [if_neg large, instMinUInt32]
    exact (if_pos le).symm

/-- Behind CMD16 the data path is off, nothing has been stopped, and the card has
its argument. -/
theorem answered_blocklen (bus : Bus W) (arg rType : UInt32) (waited : Bool × UInt32)
    (host : SdHost W) :
    (host.answered bus ⟨16, arg, rType, .zero⟩ waited).regs.dctrlr = 0 ∧
      ¬ StoppedSince (host.answered bus ⟨16, arg, rType, .zero⟩ waited).requests ∧
      lastBlocklen (host.answered bus ⟨16, arg, rType, .zero⟩ waited).requests = some arg := by
  obtain ⟨sent, grown, regs, regs'⟩ := answered_eq bus ⟨16, arg, rType, .zero⟩ waited host
  have small : (16 : UInt32) &&& 0x3F = 16 := by decide
  have idx : sent.idx = 16 := sent_idx small regs
  refine ⟨?_, ?_, ?_⟩
  · rw [regs']
    exact program_dctrlr small (by simp) (by simp [transferBits])
  · rw [grown, stoppedSince_append]
    exact fun stopped => stopped.1 idx
  · have argument : sent.regs.argr = arg := by
      rw [regs]
      simp [SdHost.program, argReg]
    rw [grown]
    simp [Request.blocklen, idx, argument]

/-- What `stm32_sdmmc2_prepare` sets up for its caller's direction. -/
theorem prepare_ensures (size : UInt64) :
    Call.Ensures (Sound pending) (stm32Sdmmc2Prepare bus depth size : Call (SdHost W) Int)
      fun ret after => Sound pending after ∧
        (ret = 0 →
          PathPrepared (if pending then 0 else sdmmcDctrlrDtdir) after.requests after.regs) := by
  intro host sound ret after run
  rw [stm32Sdmmc2Prepare, Call.bind_of_some (Call.read_apply _ host)] at run
  obtain ⟨_, checked, guarded, run⟩ := Call.bind_eq_some run
  rw [Call.guard_apply] at guarded
  split at guarded
  · rename_i sized
    cases guarded
    rw [decide_eq_true_eq] at sized
    rw [Call.bind_of_some (Call.update_apply _ _)] at run
    obtain ⟨⟨ret', cmd⟩, sent, first, rest⟩ := Call.bind_eq_some run
    have off : Sound pending host.dataOff := sound.of_same sound.prepared ⟨rfl, rfl, rfl⟩
    have small : (16 : UInt32) &&& 0x3F = 16 := by decide
    have plain : preparedDir 16 = none ∧ (16 : UInt32) ≠ 6 := by decide
    obtain ⟨kept, ended⟩ := sendCmd_ensures (survives_plain small plain) depth _ off _ _ first
    simp only [Call.ite_apply, Call.pure_apply] at rest
    split at rest
    · rename_i failed
      cases rest
      exact ⟨kept, fun zero => absurd zero failed⟩
    · rename_i ok
      rw [Call.bind_of_some (Call.update_apply _ _)] at rest
      cases rest
      refine ⟨kept.of_same kept.prepared ⟨rfl, rfl, rfl⟩, fun _ => ?_⟩
      obtain ⟨between, waited, -, last⟩ := ended (not_not.mp ok) (by simp) (by simp)
      have blocklen := answered_blocklen bus
        (if size > 512 then 512 else size.toUInt32) mmcResponseR1 waited between
      rw [← last, argSize_eq sized.2] at blocklen
      rw [argSize_eq sized.2, PathPrepared]
      refine ⟨blocklen.2.2, ?_⟩
      simp only [SdHost.dataOn, blocklen.1, blocklen.2.1, if_false, preparedDctrlr, sound.pending]
      simp
  · cases guarded

end Commands

end Mp257Fsbl.Sd
