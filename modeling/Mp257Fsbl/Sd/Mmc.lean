/-
Module: Mp257Fsbl.Sd.Mmc
Purpose: The card framework over the driver: enumeration step by step, the
  transfers of blocks, and the glue that the rest of the program calls.
Trusted boundary: human-reviewed model of mmc.c and sd_glue.c; the functions of
  mmc.c that nothing calls are left out
Main exports: mmcSendCmd, mmcDeviceState, waitState, mmcSetIos,
  mmcFillDeviceInfo, sdSendOpCond, mmcEnumerate, mmcReadBlocks, mmcWriteBlocks,
  Mmc.sdInit, Mmc.sdRead, Mmc.sdWrite
-/
import Mp257Fsbl.Sd.Command
import Mp257Fsbl.Sd.Init

namespace Mp257Fsbl.Sd.Mmc

open Mp257Fsbl.Foundation

def ocrHcs : UInt32 := 0x40000000
def ocrByteMode : UInt32 := 0
def ocrSectorMode : UInt32 := 0x40000000
def ocrAccessModeMask : UInt32 := 0x60000000
def ocrVddMin2v7 : UInt32 := 0xFF8000
def ocrVddMin1v7 : UInt32 := 0x80

def cmd8CheckPattern : UInt32 := 0xAA
def vhs2736V : UInt32 := 0x100

def statusReadyForData : UInt32 := 0x100
def statusSwitchError : UInt32 := 0x80

def mmcStateTran : Int := 4
def mmcStateData : Int := 5
def mmcStateRcv : Int := 6
def mmcStatePrg : Int := 7

def sdScrBusWidth4 : UInt32 := 0x400

def mmcBusWidth4 : UInt32 := 1
def mmcBusWidth8 : UInt32 := 2

def mmcDefaultMaxRetries : Nat := 5
def sendOpCondMaxRetries : Nat := 100

/-- `MMC_GET_STATE`. -/
def mmcGetState (status : UInt32) : Int := ((status >>> 9) &&& 0xF).toNat

/-- `MMC_FLAG_CMD23`. -/
def mmcFlagCmd23 : BitVec 32 := 0x1

def isCmd23Enabled : Bool := sdParamsFlags &&& mmcFlagCmd23 != 0

section

variable {W : Type} (bus : Bus W) (depth rounds : Nat)

/-! ### Commands -/

/-- `mmc_send_cmd`; its callers look at the response where it returns zero. -/
def mmcSendCmd (idx arg rType : UInt32) : Call (SdHost W) (Int × Resp) := do
  let (ret, cmd) ← sendCmd bus depth ⟨idx, arg, rType, .zero⟩
  pure (ret, cmd.respData)

/-- The argument of the commands that address the card. -/
def rcaArg : Call (SdHost W) UInt32 := Call.read fun host => host.rca <<< 16

/-- The loop of `mmc_device_state` with so many retries left and the last
response. -/
def mmcDeviceStateFrom : Nat → UInt32 → Call (SdHost W) Int
  | 0, _ => pure (-eio)
  | retries + 1, last => do
      let rca ← rcaArg
      let (ret, resp) ← mmcSendCmd bus depth 13 rca mmcResponseR1
      if ret = 0 ∧ resp.r0 &&& statusSwitchError ≠ 0 then pure (-eio)
      else
        -- After an error the condition of the loop sees the response before it.
        let last := if ret = 0 then resp.r0 else last
        if last &&& statusReadyForData = 0 then mmcDeviceStateFrom retries last
        else pure (mmcGetState last)

def mmcDeviceState : Call (SdHost W) Int := mmcDeviceStateFrom bus depth mmcDefaultMaxRetries 0

/-- `do ret = mmc_device_state() … while` the state is not one to go on with; an
error ends the loop too. -/
def waitState (goOn : Int → Bool) : Call (SdHost W) Int :=
  repeatUntil (do
    let ret ← mmcDeviceState bus depth
    pure (if ret < 0 ∨ goOn ret then some ret else none)) rounds

/-! ### Bus width and speed -/

/-- The loop over ACMD51 in `mmc_sd_switch`. -/
def acmd51 : Nat → Call (SdHost W) Int
  | 0 => do
      let (ret, _) ← mmcSendCmd bus depth 51 0 mmcResponseR1
      pure ret
  | retries + 1 => do
      let (ret, _) ← mmcSendCmd bus depth 51 0 mmcResponseR1
      if ret ≠ 0 then acmd51 retries else pure 0

/-- `ops->read(0, (uintptr_t)&scr, sizeof(scr))`. -/
def readScr : Call (SdHost W) Int := do
  let scr ← Call.read SdHost.scr
  let (ret, scr) ← stm32Sdmmc2ReadBlocks bus depth scr 8
  Call.update fun host => { host with scr }
  pure ret

/-- `mmc_sd_switch`. -/
def mmcSdSwitch (busWidth : UInt32) : Call (SdHost W) Int := do
  let ret ← stm32Sdmmc2Prepare bus depth 8
  if ret ≠ 0 then pure ret
  else
    let rca ← rcaArg
    let (ret, _) ← mmcSendCmd bus depth 55 rca mmcResponseR5
    if ret ≠ 0 then pure ret
    else
      let ret ← acmd51 bus depth mmcDefaultMaxRetries
      if ret ≠ 0 then pure ret
      else
        let ret ← readScr bus depth
        if ret ≠ 0 then pure ret
        else
          let scr ← Call.read SdHost.scr
          let busWidthArg : UInt32 :=
            if scr 0 &&& sdScrBusWidth4 ≠ 0 ∧ busWidth = mmcBusWidth4 then 2 else 0
          let rca ← rcaArg
          let (ret, _) ← mmcSendCmd bus depth 55 rca mmcResponseR5
          if ret ≠ 0 then pure ret
          else
            let (ret, _) ← mmcSendCmd bus depth 6 busWidthArg mmcResponseR1
            if ret ≠ 0 then pure ret
            else
              let ret ← waitState bus depth rounds (· ≠ mmcStatePrg)
              pure (if ret < 0 then ret else 0)

/-- `mmc_set_ext_csd`. -/
def mmcSetExtCsd (extCmd value : UInt32) : Call (SdHost W) Int := do
  let arg := (0x3000000 : UInt32) ||| (extCmd &&& 0xFF) <<< 16 ||| (value &&& 0xFF) <<< 8 ||| 1
  let (ret, _) ← mmcSendCmd bus depth 6 arg mmcResponseR1b
  if ret ≠ 0 then pure ret
  else
    let ret ← waitState bus depth rounds (· ≠ mmcStatePrg)
    pure (if ret < 0 then ret else 0)

/-- `mmc_csd.spec_vers`. -/
def specVers (csd : BitVec 128) : Nat := (csd.extractLsb' 122 4).toNat

/-- `mmc_set_ios`. -/
def mmcSetIos (busWidth : UInt32) : Call (SdHost W) Int := do
  let devType ← Call.read SdHost.mmcDevType
  if devType ≠ .isEmmc then
    let width := if busWidth = mmcBusWidth8 then mmcBusWidth4 else busWidth
    let ret ← mmcSdSwitch bus depth rounds width
    if ret ≠ 0 then pure ret else stm32Sdmmc2SetIos width
  else
    let csd ← Call.read SdHost.mmcCsd
    if specVers csd = 4 then
      let ret ← mmcSetExtCsd bus depth rounds 183 busWidth
      if ret ≠ 0 then pure ret else stm32Sdmmc2SetIos busWidth
    else stm32Sdmmc2SetIos busWidth

def tranSpeedBase : List UInt32 := [0, 10, 12, 13, 15, 20, 26, 30, 35, 40, 45, 52, 55, 60, 70, 80]
def sdTranSpeedBase : List UInt32 :=
  [0, 10, 12, 13, 15, 20, 25, 30, 35, 40, 45, 50, 55, 60, 70, 80]

/-- `max_bus_freq` from the speed of the card. -/
def busFreqOf (devType : MmcDeviceType) (csd : BitVec 128) : UInt32 :=
  let table := if devType = .isEmmc then tranSpeedBase else sdTranSpeedBase
  let unit := MmcCsd.tranSpeed csd % 8
  table.getD (MmcCsd.speedIdx csd) 0 * 10 ^ unit * 10000

/-- The sector count of an eMMC, read with its extended CSD; a value that is not
zero ends `mmc_fill_device_info`. -/
def readExtCsd : Call (SdHost W) Int := do
  Call.update fun host => { host with geometry := { host.geometry with blockSize := blockSize } }
  let ret ← stm32Sdmmc2Prepare bus depth 512
  if ret ≠ 0 then pure ret
  else
    let (ret, _) ← mmcSendCmd bus depth 8 0 mmcResponseR1
    if ret ≠ 0 then pure ret
    else
      let extCsd ← Call.read SdHost.mmcExtCsd
      let (ret, mmcExtCsd) ← stm32Sdmmc2ReadBlocks bus depth extCsd 512
      Call.update fun host => { host with mmcExtCsd }
      if ret ≠ 0 then pure ret
      else
        let ret ← waitState bus depth rounds (· = mmcStateTran)
        pure (if ret < 0 then ret else 0)

/-- The register that the switch of `mmc_fill_device_info` reads first, if any. -/
def readGeometry : Call (SdHost W) Int := do
  let devType ← Call.read SdHost.mmcDevType
  if devType = .isEmmc then readExtCsd bus depth rounds else pure 0

/-- `mmc_fill_device_info`. -/
def mmcFillDeviceInfo : Call (SdHost W) Int := do
  let ret ← readGeometry bus depth rounds
  if ret ≠ 0 then pure ret
  else
    let devType ← Call.read SdHost.mmcDevType
    let csd ← Call.read SdHost.mmcCsd
    -- CMD_EXTCSD_SEC_CNT is byte 212.
    let nbBlocks ← Call.read fun host => host.mmcExtCsd 53
    match Sd.mmcFillDeviceInfo devType csd nbBlocks with
    | none => Call.stuck
    | some geometry =>
        Call.update fun host => { host with geometry }
        Call.guard (MmcCsd.speedIdx csd ≠ 0)
        Call.update fun host => { host with maxBusFreq := busFreqOf devType csd }
        pure 0

/-- `sd_switch`. -/
def sdSwitch (mode group func : UInt32) : Call (SdHost W) Int := do
  let ret ← stm32Sdmmc2Prepare bus depth 64
  if ret ≠ 0 then pure ret
  else
    let shift := (group - 1) * 4
    let arg := (mode ||| 0xFFFFFF) &&& ~~~((0xF : UInt32) <<< shift) ||| func <<< shift
    let (ret, _) ← mmcSendCmd bus depth 6 arg mmcResponseR1
    if ret ≠ 0 then pure ret
    else
      let status ← Call.read SdHost.sdSwitchFuncStatus
      let (ret, sdSwitchFuncStatus) ← stm32Sdmmc2ReadBlocks bus depth status 64
      Call.update fun host => { host with sdSwitchFuncStatus }
      pure ret

/-- The switch to high speed at the end of `mmc_enumerate`. -/
def highSpeed (busWidth : UInt32) : Call (SdHost W) Int := do
  let ret ← sdSwitch bus depth 0 1 1
  if ret ≠ 0 then pure ret
  else
    -- Bit 9 of `support_g1`.
    let support ← Call.read fun host => host.sdSwitchFuncStatus 3 &&& 0x200
    if support = 0 then pure 0
    else
      let ret ← sdSwitch bus depth 0x80000000 1 1
      if ret ≠ 0 then pure ret
      else
        -- Bit 0 of `sel_g2_g1`.
        let selected ← Call.read fun host => host.sdSwitchFuncStatus 4 &&& 0x1
        if selected = 0 then pure 0
        else
          Call.update fun host => { host with maxBusFreq := 50000000 }
          stm32Sdmmc2SetIos busWidth

/-! ### Enumeration -/

/-- `mmc_ocr_value = resp_data[0]`, and the type it chooses. -/
def SdHost.opCond (ocr : UInt32) (host : SdHost W) : SdHost W :=
  { host with
    mmcOcrValue := ocr
    mmcDevType := if ocr &&& ocrHcs ≠ 0 then .isSdHc else .isSd }

/-- The loop of `sd_send_op_cond` with so many rounds left. -/
def sdSendOpCondFrom : Nat → Call (SdHost W) Int
  | 0 => pure (-eio)
  | n + 1 => do
      let (ret, _) ← mmcSendCmd bus depth 55 0 mmcResponseR1
      if ret ≠ 0 then pure ret
      else
        let voltage ← Call.read SdHost.ocrVoltage
        let (ret, resp) ← mmcSendCmd bus depth 41 (ocrHcs ||| voltage) mmcResponseR3
        if ret ≠ 0 then pure ret
        else if resp.r0 &&& ocrPowerup ≠ 0 then
          Call.update (SdHost.opCond resp.r0)
          pure 0
        else sdSendOpCondFrom n

def sdSendOpCond : Call (SdHost W) Int := sdSendOpCondFrom bus depth sendOpCondMaxRetries

/-- The loop of `mmc_send_op_cond` with so many rounds left. -/
def mmcSendOpCondFrom : Nat → Call (SdHost W) Int
  | 0 => pure (-eio)
  | n + 1 => do
      let (ret, resp) ← mmcSendCmd bus depth 1 (ocrSectorMode ||| ocrVddMin2v7 ||| ocrVddMin1v7)
        mmcResponseR3
      if ret ≠ 0 then pure ret
      else if resp.r0 &&& ocrPowerup ≠ 0 then
        Call.update fun host => { host with mmcOcrValue := resp.r0 }
        pure 0
      else mmcSendOpCondFrom n

def mmcSendOpCond : Call (SdHost W) Int := mmcSendOpCondFrom bus depth sendOpCondMaxRetries

/-- The first part of `mmc_enumerate`, up to CMD2. -/
def identifyVoltage : Call (SdHost W) Int := do
  stm32Sdmmc2Init
  let (ret, _) ← mmcSendCmd bus depth 0 0 0
  if ret ≠ 0 then pure ret
  else
    let devType ← Call.read SdHost.mmcDevType
    if devType = .isEmmc then mmcSendOpCond bus depth
    else
      let (ret, resp) ← mmcSendCmd bus depth 8 (vhs2736V ||| cmd8CheckPattern) mmcResponseR5
      if ret = 0 ∧ resp.r0 &&& 0xFF = cmd8CheckPattern then sdSendOpCond bus depth
      else pure ret

/-- CMD3: the address of the card is fixed for an eMMC and else its own. -/
def setRelativeAddr : Call (SdHost W) Int := do
  let devType ← Call.read SdHost.mmcDevType
  if devType = .isEmmc then
    Call.update fun host => { host with rca := 6 }
    let rca ← rcaArg
    let (ret, _) ← mmcSendCmd bus depth 3 rca mmcResponseR1
    pure ret
  else
    let (ret, resp) ← mmcSendCmd bus depth 3 0 mmcResponseR6
    if ret ≠ 0 then pure ret
    else
      Call.update fun host => { host with rca := (resp.r0 &&& 0xFFFF0000) >>> 16 }
      pure 0

/-- `memcpy(&mmc_csd, &resp_data, sizeof(resp_data))`. -/
def csdOf (resp : Resp) : BitVec 128 :=
  (resp.r3.toBitVec ++ resp.r2.toBitVec ++ resp.r1.toBitVec ++ resp.r0.toBitVec).cast (by decide)

/-- From CMD2 to the bus width. -/
def identifyCard (busWidth : UInt32) : Call (SdHost W) Int := do
  let (ret, _) ← mmcSendCmd bus depth 2 0 mmcResponseR2
  if ret ≠ 0 then pure ret
  else
    let ret ← setRelativeAddr bus depth
    if ret ≠ 0 then pure ret
    else
      let rca ← rcaArg
      let (ret, resp) ← mmcSendCmd bus depth 9 rca mmcResponseR2
      if ret ≠ 0 then pure ret
      else
        Call.update fun host => { host with mmcCsd := csdOf resp }
        let rca ← rcaArg
        let (ret, _) ← mmcSendCmd bus depth 7 rca mmcResponseR1
        if ret ≠ 0 then pure ret
        else
          let ret ← waitState bus depth rounds (· = mmcStateTran)
          if ret < 0 then pure ret else mmcSetIos bus depth rounds busWidth

/-- `mmc_enumerate`. -/
def mmcEnumerate (busWidth : UInt32) : Call (SdHost W) Int := do
  let ret ← identifyVoltage bus depth
  if ret ≠ 0 then pure ret
  else
    let ret ← identifyCard bus depth rounds busWidth
    if ret ≠ 0 then pure ret
    else
      let ret ← mmcFillDeviceInfo bus depth rounds
      if ret ≠ 0 then pure ret
      else
        let devType ← Call.read SdHost.mmcDevType
        if isSdCmd6Enabled ∧ devType = .isSdHc then highSpeed bus depth busWidth else pure 0

/-! ### Transfers -/

/-- `cmd_arg` of a read. -/
def readArg (host : SdHost W) (lba : UInt32) : UInt32 :=
  if host.mmcOcrValue &&& ocrAccessModeMask = ocrByteMode ∧ host.mmcDevType ≠ .isSdHc then
    lba * 512
  else lba

/-- `cmd_arg` of a write. -/
def writeArg (host : SdHost W) (lba : UInt32) : UInt32 :=
  if host.mmcOcrValue &&& ocrAccessModeMask = ocrByteMode then lba * 512 else lba

/-- The commands that move one block and more than one. -/
def blockCmd (single multiple : UInt32) (size : UInt64) : UInt32 :=
  if isCmd23Enabled then multiple else if size > 512 then multiple else single

/-- CMD23, where it is enabled. -/
def setBlockCount (size : UInt64) : Call (SdHost W) Int :=
  if isCmd23Enabled then do
    let (ret, _) ← mmcSendCmd bus depth 23 (size / 512).toUInt32 mmcResponseR1
    pure ret
  else pure 0

/-- What both directions do between `prepare` and the data. -/
def openTransfer (cmdIdx : UInt32) (arg : SdHost W → UInt32) (size : UInt64) :
    Call (SdHost W) Int := do
  let ret ← stm32Sdmmc2Prepare bus depth size
  if ret ≠ 0 then pure ret
  else
    let ret ← setBlockCount bus depth size
    if ret ≠ 0 then pure ret
    else
      let arg ← Call.read arg
      let (ret, _) ← mmcSendCmd bus depth cmdIdx arg mmcResponseR1
      pure ret

/-- What both directions do behind the data. -/
def closeTransfer (goOn : Int → Bool) (size : UInt64) : Call (SdHost W) Int := do
  let ret ← waitState bus depth rounds goOn
  if ret < 0 then pure ret
  else if ¬ isCmd23Enabled ∧ size > 512 then
    let (ret, _) ← mmcSendCmd bus depth 12 0 mmcResponseR1b
    pure ret
  else pure 0

/-- `mmc_read_blocks`: the bytes read, and the memory at `buf` by words. -/
def mmcReadBlocks (lba : UInt32) (memory : Store UInt32) (size : UInt64) :
    Call (SdHost W) (UInt64 × Store UInt32) := do
  Call.guard (size ≠ 0 ∧ size % 512 = 0)
  let ret ← openTransfer bus depth (blockCmd 17 18 size) (readArg · lba) size
  if ret ≠ 0 then pure (0, memory)
  else
    let (ret, memory) ← stm32Sdmmc2ReadBlocks bus depth memory size
    if ret ≠ 0 then pure (0, memory)
    else
      let ret ← closeTransfer bus depth rounds
        (fun state => state = mmcStateTran ∨ state = mmcStateData) size
      pure (if ret ≠ 0 then 0 else size, memory)

/-- `mmc_write_blocks`: the bytes written, from a buffer that starts at a
multiple of 512 or does not. -/
def mmcWriteBlocks (lba : UInt32) (aligned : Bool) (buffer : List UInt32) (size : UInt64) :
    Call (SdHost W) UInt64 := do
  Call.guard (size ≠ 0 ∧ aligned ∧ size % 512 = 0)
  let ret ← openTransfer bus depth (blockCmd 24 25 size) (writeArg · lba) size
  if ret ≠ 0 then pure 0
  else
    let ret ← stm32Sdmmc2WriteBlocks bus depth buffer size
    if ret ≠ 0 then pure 0
    else
      let ret ← closeTransfer bus depth rounds
        (fun state => state = mmcStateTran ∨ state = mmcStateRcv) size
      pure (if ret ≠ 0 then 0 else size)

/-! ### The glue -/

/-- `sd_init`, where VDDIO1 becomes ready in time or does not. -/
def sdInit (vddio1Ready : Bool) : Call (SdHost W) Int := do
  if vddio1Ready then
    Call.update fun host => { host with ocrVoltage := ocr3233 ||| ocr3334 }
    mmcEnumerate bus depth rounds mmcBusWidth4
  else pure (-1)

/-- `sd_read`: its value, and the memory at `buf` by words. -/
def sdRead (lba : UInt32) (memory : Store UInt32) (size : UInt32) :
    Call (SdHost W) (Int × Store UInt32) := do
  let (done, memory) ← mmcReadBlocks bus depth rounds lba memory size.toUInt64
  pure (if done = size.toUInt64 then 0 else -1, memory)

/-- `sd_write`. -/
def sdWrite (lba : UInt32) (aligned : Bool) (buffer : List UInt32) (size : UInt32) :
    Call (SdHost W) Int := do
  Call.update fun host => { host with writePending := true }
  let done ← mmcWriteBlocks bus depth rounds lba aligned buffer size.toUInt64
  Call.update fun host => { host with writePending := false }
  pure (if done = size.toUInt64 then 0 else -1)

end

end Mp257Fsbl.Sd.Mmc
