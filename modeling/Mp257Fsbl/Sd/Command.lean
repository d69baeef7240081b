/-
Module: Mp257Fsbl.Sd.Command
Purpose: The driver of the SD controller: one request on the command line, its
  retries, the stop of a transfer, and the data path around the polled loops.
Trusted boundary: human-reviewed model of stm32_sdmmc2.c without DMA; how the
  controller answers a request and feeds its FIFO are inputs
Main exports: SdHost, Bus, MmcCmd, sendCmdReq, sendCmd, stopTransfer,
  stm32Sdmmc2Prepare, stm32Sdmmc2SetIos, stm32Sdmmc2ReadBlocks, stm32Sdmmc2WriteBlocks
-/
import Mp257Fsbl.Foundation.Calls
import Mp257Fsbl.Sd.Card
import Mp257Fsbl.Sd.ReadFifo

namespace Mp257Fsbl.Sd

open Mp257Fsbl.Foundation

/-! ### Registers and commands -/

def sdmmcCmdrCmdtrans : UInt32 := 0x40
def sdmmcCmdrCmdstop : UInt32 := 0x80
def sdmmcCmdrWaitresp : UInt32 := 0x300
def sdmmcCmdrWaitrespShort : UInt32 := 0x100
def sdmmcCmdrWaitrespShortNocrc : UInt32 := 0x200
def sdmmcCmdrCpsmen : UInt32 := 0x1000

def sdmmcDctrlrDtdir : UInt32 := 0x2
def sdmmcDctrlrClearMask : UInt32 := 0xFF
def sdmmcDctrlrFiforst : UInt32 := 0x2000

def sdmmcStarCcrcfail : UInt32 := 0x1
def sdmmcStarCtimeout : UInt32 := 0x4
def sdmmcStarCmdrend : UInt32 := 0x40
def sdmmcStarCmdsent : UInt32 := 0x80

def ocrPowerup : UInt32 := 0x80000000
def ocr3233 : UInt32 := 0x100000
def ocr3334 : UInt32 := 0x200000

def mmcRsp48 : UInt32 := 0x1
def mmcRsp136 : UInt32 := 0x2
def mmcRspCrc : UInt32 := 0x4
def mmcRspBusy : UInt32 := 0x10

def mmcResponseR1 : UInt32 := 0xD
def mmcResponseR1b : UInt32 := 0x1D
def mmcResponseR2 : UInt32 := 0x7
def mmcResponseR3 : UInt32 := 0x1
def mmcResponseR5 : UInt32 := 0xD
def mmcResponseR6 : UInt32 := 0xD

/-- `resp_data`, and the four response registers. -/
structure Resp where
  r0 : UInt32
  r1 : UInt32
  r2 : UInt32
  r3 : UInt32
deriving Repr, DecidableEq

def Resp.zero : Resp := ⟨0, 0, 0, 0⟩

/-- `struct mmc_cmd`. -/
structure MmcCmd where
  cmdIdx : UInt32
  cmdArg : UInt32
  respType : UInt32
  respData : Resp
deriving Repr, DecidableEq

/-- The registers of the controller as the driver last wrote them. -/
structure SdmmcRegs where
  power : UInt32
  clkcr : UInt32
  argr : UInt32
  cmdr : UInt32
  dtimer : UInt32
  dlenr : UInt32
  dctrlr : UInt32
deriving Repr, DecidableEq

/-- A command on the bus: the registers that describe it, what the driver made
of the answer, and whether the data path was active at the last status. -/
structure Request where
  regs : SdmmcRegs
  err : Int
  active : Bool
deriving Repr, DecidableEq

/-- The static state of the driver, of the framework over it and of the glue,
with the rest of the world. -/
structure SdHost (W : Type) where
  regs : SdmmcRegs
  nextCmdIsAcmd : Bool
  /-- `sdmmc2_write_pending`. -/
  writePending : Bool
  /-- `sd_dev_info`. -/
  mmcDevType : MmcDeviceType
  geometry : MmcDeviceInfo
  maxBusFreq : UInt32
  ocrVoltage : UInt32
  mmcOcrValue : UInt32
  mmcCsd : BitVec 128
  rca : UInt32
  /-- `scr`, `mmc_ext_csd` and `sd_switch_func_status` by words. -/
  scr : Store UInt32
  mmcExtCsd : Store UInt32
  sdSwitchFuncStatus : Store UInt32
  /-- The commands sent so far, oldest first. -/
  requests : List Request
  world : W

/-- The static state as it is initialised. -/
def SdHost.reset {W : Type} (world : W) : SdHost W where
  regs := ⟨0, 0, 0, 0, 0, 0, 0⟩
  nextCmdIsAcmd := false
  writePending := false
  mmcDevType := .isSdHc
  geometry := { blockSize := 0, deviceSize := 0 }
  maxBusFreq := 0
  ocrVoltage := 0
  mmcOcrValue := 0
  mmcCsd := 0
  rca := 0
  scr := fun _ => 0
  mmcExtCsd := fun _ => 0
  sdSwitchFuncStatus := fun _ => 0
  requests := []
  world := world

/-- How one request goes: the status words read in the wait for it with the
clock, and the response registers. -/
structure RequestEnv where
  samples : List Sample
  resp : Resp

/-- What the controller, the bus and the card do. -/
structure Bus (W : Type) where
  /-- SDMMC_CMDR has been written. -/
  request : SdmmcRegs → W → RequestEnv × W
  /-- A polled read: what its passes read, and the words of the FIFO. -/
  drain : SdmmcRegs → W → (List DrainSample × Store UInt32) × W
  /-- A polled write: what its passes read. -/
  feed : SdmmcRegs → W → List Sample × W
  /-- The words that a polled write has pushed. -/
  fed : SdmmcRegs → List UInt32 → W → W

section

variable {W : Type}

/-! ### One request -/

def flagsCmd (cmd : MmcCmd) : UInt32 :=
  sdmmcStarCtimeout |||
    (if cmd.respType = 0 then sdmmcStarCmdsent else 0) |||
    (if cmd.respType &&& mmcRsp48 ≠ 0 then
      if cmd.respType &&& mmcRsp136 ≠ 0 then sdmmcStarCmdrend
      else if cmd.respType &&& mmcRspCrc ≠ 0 then sdmmcStarCmdrend ||| sdmmcStarCcrcfail
      else sdmmcStarCmdrend
    else 0)

def waitresp (cmd : MmcCmd) : UInt32 :=
  if cmd.respType &&& mmcRsp48 ≠ 0 then
    if cmd.respType &&& mmcRsp136 ≠ 0 then sdmmcCmdrWaitresp
    else if cmd.respType &&& mmcRspCrc ≠ 0 then sdmmcCmdrWaitrespShort
    else sdmmcCmdrWaitrespShortNocrc
  else 0

/-- What the switch over `cmd_idx` adds to `cmd_reg`. -/
def transferBits (devType : MmcDeviceType) (nextCmdIsAcmd : Bool) (idx : UInt32) : UInt32 :=
  if idx = 6 then if devType = .isSdHc ∧ ¬ nextCmdIsAcmd then sdmmcCmdrCmdtrans else 0
  else if idx = 8 then if devType = .isEmmc then sdmmcCmdrCmdtrans else 0
  else if idx = 12 then sdmmcCmdrCmdstop
  else if idx = 24 ∨ idx = 25 ∨ idx = 17 ∨ idx = 18 ∨ idx = 51 then sdmmcCmdrCmdtrans
  else 0

def cmdReg (devType : MmcDeviceType) (nextCmdIsAcmd : Bool) (cmd : MmcCmd) : UInt32 :=
  cmd.cmdIdx ||| sdmmcCmdrCpsmen ||| waitresp cmd ||| transferBits devType nextCmdIsAcmd cmd.cmdIdx

def argReg (cmd : MmcCmd) : UInt32 :=
  if cmd.cmdIdx = 1 then cmd.cmdArg ||| ocrPowerup
  else if cmd.cmdIdx = 41 then cmd.cmdArg ||| (ocr3233 ||| ocr3334)
  else cmd.cmdArg

/-- Everything that is programmed up to the write of SDMMC_CMDR. -/
def SdHost.program (cmd : MmcCmd) (host : SdHost W) : SdHost W :=
  let reg := cmdReg host.mmcDevType host.nextCmdIsAcmd cmd
  let nextCmdIsAcmd : Bool := cmd.cmdIdx == 55
  { host with
    nextCmdIsAcmd
    regs :=
      { host.regs with
        -- CMD55 is skipped, as the next command could be data related.
        dctrlr := if reg &&& sdmmcCmdrCmdtrans = 0 ∧ ¬ nextCmdIsAcmd then 0 else host.regs.dctrlr
        dtimer := if cmd.respType &&& mmcRspBusy ≠ 0 then 0xFFFFFFFF else host.regs.dtimer
        argr := argReg cmd
        cmdr := reg } }

/-- The wait for `flags_cmd`: whether the clock ended it, and the last status. -/
def pollCmd (flags : UInt32) : List Sample → Option (Bool × UInt32)
  | [] => none
  | sample :: samples =>
      if sample.status &&& flags ≠ 0 then some (false, sample.status)
      else if sample.elapsed then some (true, sample.status)
      else pollCmd flags samples

/-- `err` behind the wait. -/
def reqError (waited : Bool × UInt32) : Int :=
  if waited.1 then -etimedout
  else if waited.2 &&& sdmmcStarCtimeout ≠ 0 then -etimedout
  else if waited.2 &&& sdmmcStarCcrcfail ≠ 0 then -eio
  else 0

/-- `resp_data` from the response registers. -/
def respond (cmd : MmcCmd) (resp : Resp) : Resp :=
  if waitresp cmd = 0 then cmd.respData
  else if waitresp cmd = sdmmcCmdrWaitresp then
    -- The CSD comes the other way round.
    if cmd.cmdIdx = 9 then ⟨resp.r3, resp.r2, resp.r1, resp.r0⟩ else resp
  else { cmd.respData with r0 := resp.r0 }

def SdHost.logged (waited : Bool × UInt32) (host : SdHost W) : SdHost W :=
  { host with
    requests := host.requests ++ [
      { regs := host.regs
        err := reqError waited
        active := waited.2 &&& sdmmcStarDpsmact ≠ 0 }] }

/-- `mmio_clrbits_32(base + SDMMC_CMDR, SDMMC_CMDR_CMDTRANS)`. -/
def SdHost.endRequest (host : SdHost W) : SdHost W :=
  { host with regs := { host.regs with cmdr := host.regs.cmdr &&& ~~~sdmmcCmdrCmdtrans } }

def request (bus : Bus W) : Call (SdHost W) RequestEnv := fun host =>
  let answered := bus.request host.regs host.world
  some (answered.1, { host with world := answered.2 })

/-- `stm32_sdmmc2_send_cmd_req`: its value and the command with its response.
`stop` is `stm32_sdmmc2_stop_transfer`. -/
def sendCmdReq (bus : Bus W) (stop : Call (SdHost W) Int) (cmd : MmcCmd) :
    Call (SdHost W) (Int × MmcCmd) := do
  Call.update (SdHost.program cmd)
  let env ← request bus
  match pollCmd (flagsCmd cmd) env.samples with
  | none => Call.stuck
  | some waited =>
      Call.update (SdHost.logged waited)
      if reqError waited = 0 then
        pure (0, { cmd with respData := respond cmd env.resp })
      else
        Call.update SdHost.endRequest
        if waited.2 &&& sdmmcStarDpsmact ≠ 0 then
          let ret ← stop
          pure (if ret ≠ 0 then ret else reqError waited, cmd)
        else pure (reqError waited, cmd)

/-- The loop of `stm32_sdmmc2_send_cmd` with so many rounds left. -/
def retryCmd (req : MmcCmd → Call (SdHost W) (Int × MmcCmd)) :
    Nat → Int → MmcCmd → Call (SdHost W) (Int × MmcCmd)
  | 0, err, cmd => pure (err, cmd)
  | rounds + 1, _, cmd => do
      let (err, cmd) ← req cmd
      if err = 0 then pure (0, cmd)
      -- The framework retries these two.
      else if cmd.cmdIdx = 1 ∨ cmd.cmdIdx = 13 then pure (0, cmd)
      else retryCmd req rounds err cmd

/-- The command of `stm32_sdmmc2_stop_transfer`. -/
def cmdStop : MmcCmd := ⟨12, 0, mmcResponseR1b, .zero⟩

/-- One request, where stops may be nested so deep. -/
def sendCmdReqAt (bus : Bus W) : Nat → MmcCmd → Call (SdHost W) (Int × MmcCmd)
  | 0 => sendCmdReq bus Call.stuck
  | depth + 1 =>
      sendCmdReq bus do
        let (ret, _) ← retryCmd (sendCmdReqAt bus depth) 3 0 cmdStop
        pure ret

/-- `stm32_sdmmc2_send_cmd`. -/
def sendCmd (bus : Bus W) (depth : Nat) (cmd : MmcCmd) : Call (SdHost W) (Int × MmcCmd) :=
  retryCmd (sendCmdReqAt bus depth) 3 0 cmd

/-- `stm32_sdmmc2_stop_transfer`. -/
def stopTransfer (bus : Bus W) (depth : Nat) : Call (SdHost W) Int := do
  let (ret, _) ← sendCmd bus depth cmdStop
  pure ret

/-! ### Set-up -/

def sdmmcClkcrHwfcEn : UInt32 := 0x20000
def sdmmcClkcrNegedge : UInt32 := 0x10000
def sdmmcClkcrWidbus4 : UInt32 := 0x4000
def sdmmcClkcrWidbus8 : UInt32 := 0x8000
def sdmmcPowerPwrctrl : UInt32 := 0x3

/-- `sdmmc2_params.clk_rate` and `max_freq`. -/
def clkRate : UInt32 := 64000000
def maxFreq : UInt32 := 25000000

def divRoundUp (val div : UInt32) : UInt32 := (val + div - 1) / div

/-- `stm32_sdmmc2_init`: the registers it leaves, behind its power cycle. -/
def stm32Sdmmc2Init : Call (SdHost W) Unit :=
  Call.update fun host =>
    { host with
      regs :=
        { host.regs with
          clkcr := sdmmcClkcrHwfcEn ||| divRoundUp clkRate (min maxFreq 400000 * 2) |||
            sdmmcClkcrNegedge
          power := sdmmcPowerPwrctrl } }

/-- `MMC_BUS_WIDTH_1`, `MMC_BUS_WIDTH_4` and `MMC_BUS_WIDTH_8` in SDMMC_CLKCR; another
width panics. -/
def busCfg (width : UInt32) : Option UInt32 :=
  if width = 0 then some 0
  else if width = 1 then some sdmmcClkcrWidbus4
  else if width = 2 then some sdmmcClkcrWidbus8
  else none

def busFreq (devType : MmcDeviceType) (maxBusFreq : UInt32) : UInt32 :=
  if devType = .isEmmc then if maxBusFreq ≥ 52000000 then 52000000 else 26000000
  else if maxBusFreq ≥ 50000000 then 50000000 else 25000000

/-- `stm32_sdmmc2_set_ios`. -/
def stm32Sdmmc2SetIos (width : UInt32) : Call (SdHost W) Int :=
  match busCfg width with
  | none => Call.stuck
  | some cfg => do
      Call.update fun host =>
        let freq := min maxFreq (busFreq host.mmcDevType host.maxBusFreq)
        { host with
          regs :=
            { host.regs with
              clkcr := sdmmcClkcrHwfcEn ||| divRoundUp clkRate (freq * 2) ||| cfg |||
                sdmmcClkcrNegedge } }
      pure 0

/-! ### The data path -/

/-- `__builtin_ctz`, of an argument that is not zero. -/
def ctz (n : UInt32) : UInt32 := UInt32.ofNat ((List.range 32).findIdx fun i => n.toNat.testBit i)

def SdHost.dataOff (host : SdHost W) : SdHost W :=
  { host with regs := { host.regs with dtimer := 0, dlenr := 0, dctrlr := 0 } }

/-- The data command to come: `data_ctrl` goes into the cleared SDMMC_DCTRLR. -/
def SdHost.dataOn (size : UInt64) (argSize : UInt32) (dataCtrl : UInt32) (host : SdHost W) :
    SdHost W :=
  { host with
    regs :=
      { host.regs with
        dtimer := 0xFFFFFFFF
        dlenr := size.toUInt32
        dctrlr :=
          host.regs.dctrlr &&& ~~~sdmmcDctrlrClearMask ||| (dataCtrl ||| ctz argSize <<< 4) } }

/-- `stm32_sdmmc2_prepare`. -/
def stm32Sdmmc2Prepare (bus : Bus W) (depth : Nat) (size : UInt64) : Call (SdHost W) Int := do
  let dataCtrl ← Call.read fun host => if host.writePending then 0 else sdmmcDctrlrDtdir
  Call.guard (size ≠ 0 ∧ size ≤ 0xFFFFFFFF)
  let argSize : UInt32 := if size > 512 then 512 else size.toUInt32
  Call.update SdHost.dataOff
  let (ret, _) ← sendCmd bus depth ⟨16, argSize, mmcResponseR1, .zero⟩
  if ret ≠ 0 then pure ret
  else
    Call.update (SdHost.dataOn size argSize dataCtrl)
    pure 0

/-- The status that a polled read saw last. -/
def lastDrained (events : List DrainEvent) : Option DrainSample :=
  events.reverse.findSome? fun
    | .status sample => some sample
    | .pop => none

def lastFed (events : List FeedEvent) : Option Sample :=
  events.reverse.findSome? fun
    | .status sample => some sample
    | .push _ => none

/-- An exit that calls `stm32_sdmmc2_stop_transfer`. -/
def stops (errors : UInt32) (sample : Sample) : Bool :=
  sample.status &&& errors ≠ 0 ∨ sample.elapsed ∨ sample.status &&& sdmmcStarDpsmact ≠ 0

/-- What an exit does behind the last status: reset the FIFO after an error, and
stop the transfer where it asks for that. The result is that of the stop. -/
def leaveLoop (bus : Bus W) (depth : Nat) (errors : UInt32) (sample : Sample) :
    Call (SdHost W) Int := do
  if sample.status &&& errors ≠ 0 then
    Call.update fun host => { host with regs := { host.regs with dctrlr := sdmmcDctrlrFiforst } }
  if stops errors sample then stopTransfer bus depth else pure 0

/-- `stm32_sdmmc2_read`: its value and the memory at `buf`, by words. -/
def stm32Sdmmc2ReadBlocks (bus : Bus W) (depth : Nat) (memory : Store UInt32) (size : UInt64) :
    Call (SdHost W) (Int × Store UInt32) := do
  let (samples, fifo) ← fun host =>
    let drained := bus.drain host.regs host.world
    some (drained.1, { host with world := drained.2 })
  match lastDrained (stm32Sdmmc2Read 0 samples fifo memory size).2.events with
  | none => Call.stuck
  | some sample =>
      let stop ← leaveLoop bus depth readErrorFlags sample.toSample
      match stm32Sdmmc2Read stop samples fifo memory size with
      | (none, _) => Call.stuck
      | (some code, drain) => pure (code, drain.memory)

/-- `stm32_sdmmc2_write` of the words at `buf`. -/
def stm32Sdmmc2WriteBlocks (bus : Bus W) (depth : Nat) (buffer : List UInt32) (size : UInt64) :
    Call (SdHost W) Int := do
  let samples ← fun host =>
    let feeding := bus.feed host.regs host.world
    some (feeding.1, { host with world := feeding.2 })
  match stm32Sdmmc2Write 0 samples buffer size with
  | none => Call.stuck
  | some (_, feed) =>
      Call.update fun host =>
        { host with world := bus.fed host.regs (pushedWords feed.events) host.world }
      match lastFed feed.events with
      | none => Call.stuck
      | some sample =>
          let stop ← leaveLoop bus depth errorFlags sample
          match stm32Sdmmc2Write stop samples buffer size with
          | some (some code, _) => pure code
          | _ => Call.stuck

end

end Mp257Fsbl.Sd
