/-
Module: Mp257Fsbl.Usb.Control.Driver
Purpose: Endpoint zero in the DWC3 driver: the descriptors of SETUP, data and
  status stages, the endpoint commands, and the events that the driver handles.
Trusted boundary: human-reviewed model of usb_dwc3.c for endpoint zero
Main exports: SetupPacket, ControlEp, Dwc3, usbDwc3EpStartXfer, dwc3Ep0OutStart,
  dwc3HandleEpEvent, dwc3HandleDevEvent, dwc3HandleEvent
-/
import Mp257Fsbl.Usb.Core
import Mp257Fsbl.Usb.Dwc3

namespace Mp257Fsbl.Usb.Control

/-! ### Setup packets -/

/-- The eight bytes of a SETUP transaction. -/
abbrev SetupPacket := Vector UInt8 8

def le16 (low high : UInt8) : UInt16 := low.toUInt16 + (high.toUInt16 <<< 8)

/-- The request that `usb_core_setup_stage` copies out of the packet. -/
def SetupPacket.req (psetup : SetupPacket) : UsbSetupReq where
  bmRequest := psetup[0]
  bRequest := psetup[1]
  value := le16 psetup[2] psetup[3]
  index := le16 psetup[4] psetup[5]
  length := le16 psetup[6] psetup[7]

/-- `__HAL_PCD_SETUP_REQ_LEN`. -/
def SetupPacket.reqLen (addr : SetupPacket) : UInt16 := le16 addr[6] addr[7]

/-- `__HAL_PCD_SETUP_REQ_DATA_DIR_IN`. -/
def SetupPacket.dataDirIn (addr : SetupPacket) : UInt8 := addr[0] &&& 0x80

/-! ### The state of endpoint zero -/

/-- `EP_DIR_*`: the physical endpoints 0 and 1. -/
inductive Dir where
  | dirOut
  | dirIn
deriving Repr, DecidableEq

/-- `usb_dwc3_ep0state_t`. -/
inductive Ep0State where
  | setupCompleted
  | setupQueued
deriving Repr, DecidableEq

/-- `USB_DWC3_TRBCTL_CONTROL_*`. -/
inductive ControlCtl where
  | setup
  | status2
  | status3
  | data
deriving Repr, DecidableEq

/-- What a pointer of endpoint zero points to; the bytes are those in the buffer
of the caller when the transfer is started. -/
inductive Ep0Buffer where
  | null
  /-- `setup_addr`. -/
  | setup
  | bounce
  | data (bytes : List UInt8)
deriving Repr, DecidableEq

/-- `usb_dwc3_trb_t`; the bits that every descriptor of endpoint zero has set are
left out. -/
structure ControlTrb where
  bp : Ep0Buffer
  size : UInt32
  ctl : ControlCtl
  hwo : Bool
deriving Repr, DecidableEq

/-- `struct usbd_ep` and `usb_dwc3_endpoint_t` of one direction. -/
structure ControlEp where
  maxpacket : UInt32
  xferBuff : Ep0Buffer
  xferLen : UInt32
  xferCount : UInt32
  isStall : Bool
  trb : ControlTrb
  trbFlag : ControlCtl
  reqQueued : Bool
  rescIdx : UInt8
  dmaAddr : Ep0Buffer
  xferDestBuff : Ep0Buffer
  xferDestLen : UInt32
deriving Repr, DecidableEq

/-- `USB_DWC3_DEPCMD_*` on endpoint zero. -/
inductive EpCmd where
  | startTransfer (dir : Dir)
  | endTransfer (dir : Dir) (rescIdx : UInt8)
  | setStall (dir : Dir)
  | setEpConfig (dir : Dir) (maxPacket : UInt32)
deriving Repr, DecidableEq

/-- How a command ends and the resource index in its register. -/
structure CmdAnswer where
  status : UsbStatus
  rescIdx : UInt8
deriving Repr, DecidableEq

/-- `dwc3_handle_t` for endpoint zero, with the copy of the packet in the PCD
handle, the device address in DCFG and the commands issued so far. -/
structure Dwc3 where
  ep0State : Ep0State
  outEp : ControlEp
  inEp : ControlEp
  setupAddr : SetupPacket
  pcdSetup : SetupPacket
  devAddr : UInt8
  cmds : List EpCmd

def Dwc3.ep (h : Dwc3) : Dir → ControlEp
  | .dirOut => h.outEp
  | .dirIn => h.inEp

def Dwc3.setEp (h : Dwc3) (dir : Dir) (ep : ControlEp) : Dwc3 :=
  match dir with
  | .dirOut => { h with outEp := ep }
  | .dirIn => { h with inEp := ep }

/-! ### Commands and transfers

`answer` is how the controller ends a command behind those already issued. -/

section

variable (answer : List EpCmd → EpCmd → CmdAnswer)

def dwc3ExecuteDepCmd (cmd : EpCmd) (h : Dwc3) : CmdAnswer × Dwc3 :=
  (answer h.cmds cmd, { h with cmds := h.cmds ++ [cmd] })

/-- `dwc3_ep_start_xfer`. -/
def dwc3EpStartXfer (dir : Dir) (h : Dwc3) : UsbStatus × Dwc3 :=
  let ep := h.ep dir
  let trb : ControlTrb :=
    { bp := ep.dmaAddr, size := trbSizeLength ep.xferLen, ctl := ep.trbFlag, hwo := true }
  let ep := { ep with trb, reqQueued := true }
  let (done, h) := dwc3ExecuteDepCmd answer (.startTransfer dir) (h.setEp dir ep)
  if done.status ≠ .ok then (done.status, h.setEp dir { ep with reqQueued := false })
  else (done.status, h.setEp dir { ep with rescIdx := done.rescIdx })

/-- `usb_dwc3_ep_start_xfer`. -/
def usbDwc3EpStartXfer (dir : Dir) (h : Dwc3) : UsbStatus × Dwc3 :=
  let ep := h.ep dir
  let len := ep.xferLen
  let ep :=
    if dir = .dirIn then ep
    else if len ≠ 0 ∧ len < ep.maxpacket then
      { ep with
        xferDestBuff := ep.xferBuff
        xferDestLen := ep.xferLen
        xferBuff := .bounce
        xferLen := alignMultiple len ep.maxpacket }
    else { ep with xferLen := alignMultiple len ep.maxpacket }
  let ep :=
    { ep with
      dmaAddr := ep.xferBuff
      trbFlag :=
        if len = 0 then if h.setupAddr.reqLen = 0 then .status2 else .status3 else .data }
  dwc3EpStartXfer answer dir (h.setEp dir ep)

/-- `dwc3_ep0_out_start`. -/
def dwc3Ep0OutStart (h : Dwc3) : UsbStatus × Dwc3 :=
  dwc3EpStartXfer answer .dirOut
    { h with outEp := { h.outEp with dmaAddr := .setup, xferLen := 8, trbFlag := .setup } }

/-- `usb_dwc3_ep0_out_start`. -/
def usbDwc3Ep0OutStart (h : Dwc3) : UsbStatus × Dwc3 :=
  dwc3Ep0OutStart answer { h with ep0State := .setupQueued }

/-- `dwc3_ep_stop_xfer`. -/
def dwc3EpStopXfer (dir : Dir) (h : Dwc3) : UsbStatus × Dwc3 :=
  if ¬ (h.ep dir).reqQueued then (.fail, h)
  else
    let (done, h) := dwc3ExecuteDepCmd answer (.endTransfer dir (h.ep dir).rescIdx) h
    let ep := h.ep dir
    let h :=
      h.setEp dir
        { ep with xferCount := ep.xferLen - trbSizeLength ep.trb.size, reqQueued := false }
    (done.status, if dir = .dirOut then { h with ep0State := .setupCompleted } else h)

/-- `usb_dwc3_ep_set_stall`. -/
def usbDwc3EpSetStall (dir : Dir) (h : Dwc3) : UsbStatus × Dwc3 :=
  if (h.ep dir).isStall then (.ok, h)
  else
    let (done, h) :=
      dwc3ExecuteDepCmd answer (.setStall dir) (h.setEp dir { h.ep dir with isStall := true })
    (done.status, h)

/-- `dwc3_epaddr_set_stall` on `EP0_OUT`, as all its callers have it. -/
def dwc3EpaddrSetStall (h : Dwc3) : UsbStatus × Dwc3 :=
  if h.outEp.isStall then (.ok, h)
  else
    let (done, h) :=
      dwc3ExecuteDepCmd answer (.setStall .dirOut)
        { h with outEp := { h.outEp with isStall := true } }
    if done.status ≠ .ok then (done.status, h)
    else dwc3Ep0OutStart answer { h with ep0State := .setupQueued }

/-! ### Endpoint events -/

/-- The control-only status of XFERNOTREADY. -/
inductive NotReady where
  | ctrlData
  | ctrlStatus
  | other
deriving Repr, DecidableEq

/-- `dwc3_handle_ep0_xfernotready_event`. -/
def dwc3HandleEp0XfernotreadyEvent (dir : Dir) (status : NotReady) (h : Dwc3) :
    UsbAction × Dwc3 :=
  if h.setupAddr.reqLen = 0 then
    match status with
    | .ctrlStatus => (.setup h.setupAddr.req, { h with pcdSetup := h.setupAddr })
    | .ctrlData => (.nothing, (dwc3EpaddrSetStall answer h).2)
    | .other => (.nothing, h)
  else
    match status with
    | .ctrlStatus => (if dir = .dirIn then .dataOut 0 else .dataIn 0, h)
    | .ctrlData =>
        -- a data stage in the wrong direction
        match dir with
        | .dirIn =>
            if h.setupAddr.dataDirIn = 0 then
              (.nothing, (dwc3EpaddrSetStall answer (dwc3EpStopXfer answer .dirOut h).2).2)
            else (.nothing, h)
        | .dirOut =>
            if h.setupAddr.dataDirIn ≠ 0 then
              (.nothing, (dwc3EpaddrSetStall answer (dwc3EpStopXfer answer .dirIn h).2).2)
            else (.nothing, h)
    | .other => (.nothing, h)

/-- The SETUP descriptor again, behind a status stage. -/
def dwc3Requeue (h : Dwc3) : Dwc3 :=
  (dwc3Ep0OutStart answer { h with ep0State := .setupQueued }).2

/-- XFERCOMPLETE of endpoint zero in `dwc3_handle_ep_event`. -/
def dwc3HandleEp0Complete (dir : Dir) (h : Dwc3) : UsbAction × Dwc3 :=
  match dir with
  | .dirIn =>
      let ep := h.inEp
      let ep :=
        { ep with xferCount := ep.xferLen - trbSizeLength ep.trb.size, reqQueued := false }
      let h := { h with inEp := ep }
      -- a packet that is not sent completely
      let h := if ep.xferLen ≠ ep.xferCount then (dwc3EpaddrSetStall answer h).2 else h
      if ep.xferLen = 0 then (.dataIn 0, dwc3Requeue answer h) else (.nothing, h)
  | .dirOut =>
      let ep := h.outEp
      let ep :=
        { ep with xferCount := ep.xferLen - trbSizeLength ep.trb.size, reqQueued := false }
      if h.ep0State = .setupQueued then
        let h := { h with outEp := { ep with isStall := false }, ep0State := .setupCompleted }
        -- without a data stage the request waits for XFERNOTREADY
        if h.setupAddr.reqLen ≠ 0 then
          (.setup h.setupAddr.req, { h with pcdSetup := h.setupAddr })
        else (.nothing, h)
      else
        let ep := if ep.xferBuff = .bounce then { ep with xferBuff := ep.xferDestBuff } else ep
        let h := { h with outEp := ep }
        if ep.xferLen = 0 then (.dataOut 0, dwc3Requeue answer h) else (.nothing, h)

/-- XFERNOTREADY of endpoint zero in `dwc3_handle_ep_event`. -/
def dwc3HandleEp0NotReady (dir : Dir) (status : NotReady) (h : Dwc3) : UsbAction × Dwc3 :=
  if h.ep0State = .setupQueued then (.nothing, (dwc3EpaddrSetStall answer h).2)
  else dwc3HandleEp0XfernotreadyEvent answer dir status h

/-- `dwc3_read_ep_evt_type`. -/
def dwc3ReadEpEvtType (event : UInt32) : UInt32 := (event >>> 6) &&& 0xF

/-- `dwc3_read_ep_evt_epnum`. -/
def dwc3ReadEpEvtEpnum (event : UInt32) : UInt32 := (event >>> 1) &&& 0x1F

/-- `dwc3_read_ep_evt_status`. -/
def dwc3ReadEpEvtStatus (event : UInt32) : NotReady :=
  if (event >>> 12) &&& 0xF = 1 then .ctrlData
  else if (event >>> 12) &&& 0xF = 2 then .ctrlStatus
  else .other

/-- `dwc3_handle_ep_event`; the transfers of the other endpoints are apart. -/
def dwc3HandleEpEvent (event : UInt32) (h : Dwc3) : UsbAction × Dwc3 :=
  let type := dwc3ReadEpEvtType event
  let phyEpnum := dwc3ReadEpEvtEpnum event
  let dir : Dir := if phyEpnum &&& 1 ≠ 0 then .dirIn else .dirOut
  let epNum := (phyEpnum / 2).toUInt8
  if type = 1 then
    if epNum = 0 then dwc3HandleEp0Complete answer dir h
    else (if dir = .dirIn then .dataIn epNum else .dataOut epNum, h)
  else if type = 3 ∧ epNum = 0 then
    dwc3HandleEp0NotReady answer dir (dwc3ReadEpEvtStatus event) h
  else (.nothing, h)

/-! ### Device events -/

/-- `USB_DWC3_DEVICE_EVENT_*`. -/
inductive DeviceEvent where
  | disconnect
  | reset
  | connectDone
  | linkStatusChange
  | wakeup
  | hiberReq
  | eopf
  | sof
  | l1suspend
  | erraticError
  | cmdCmpl
  | overflow
  | l1wakeup
deriving Repr, DecidableEq

/-- `dwc3_read_dev_evt_type`: zero, which is DISCONNECT, for every type that its
switch leaves out. -/
def dwc3ReadDevEvtType (event : UInt32) : DeviceEvent :=
  match ((event >>> 8) &&& 0xF).toNat with
  | 0 => .disconnect
  | 1 => .reset
  | 2 => .connectDone
  | 3 => .linkStatusChange
  | 4 => .wakeup
  | 5 => .hiberReq
  | 6 => .eopf
  | 7 => .sof
  | 9 => .erraticError
  | 10 => .cmdCmpl
  | 11 => .overflow
  | _ => .disconnect

/-- The packet size of endpoint zero for the speed in DSTS. -/
def ep0Mps (dsts : UInt32) : UInt32 :=
  match (dsts &&& 7).toNat with
  | 4 => 512
  | 0 => 64
  | 3 => 64
  | 1 => 64
  | 2 => 8
  | _ => 512

/-- `USB_DWC3_DEVICE_EVENT_RESET` in `dwc3_handle_dev_event`; no endpoint but zero
is ever stalled. -/
def dwc3HandleReset (h : Dwc3) : Dwc3 :=
  let h :=
    if h.ep0State ≠ .setupQueued then
      (dwc3EpaddrSetStall answer (dwc3EpStopXfer answer .dirOut h).2).2
    else h
  { (dwc3EpStopXfer answer .dirIn h).2 with devAddr := 0 }

/-- `USB_DWC3_DEVICE_EVENT_CONNECT_DONE` in `dwc3_handle_dev_event`. -/
def dwc3HandleConnectDone (mps : UInt32) (h : Dwc3) : UsbAction × Dwc3 :=
  let (done, h) := dwc3ExecuteDepCmd answer (.setEpConfig .dirOut mps) h
  if done.status ≠ .ok then (.nothing, h)
  else
    let (done, h) := dwc3ExecuteDepCmd answer (.setEpConfig .dirIn mps) h
    if done.status ≠ .ok then (.nothing, h)
    else
      (.enumDone,
        { h with
          outEp := { h.outEp with maxpacket := mps }
          inEp := { h.inEp with maxpacket := mps } })

/-- `dwc3_handle_dev_event`. -/
def dwc3HandleDevEvent (dsts event : UInt32) (h : Dwc3) : UsbAction × Dwc3 :=
  match dwc3ReadDevEvtType event with
  | .disconnect => (.disconnect, h)
  | .reset => (.reset, dwc3HandleReset answer h)
  | .connectDone => dwc3HandleConnectDone answer (ep0Mps dsts) h
  | .wakeup | .l1wakeup => (.resume, h)
  | .eopf => (.suspend, h)
  | .l1suspend => (.lpm, h)
  | .linkStatusChange | .hiberReq | .sof | .erraticError | .cmdCmpl | .overflow => (.nothing, h)

/-- `dwc3_is_ep_event`. -/
def dwc3IsEpEvent (event : UInt32) : Prop := event &&& 1 = 0

instance (event : UInt32) : Decidable (dwc3IsEpEvent event) :=
  inferInstanceAs (Decidable (_ = _))

/-- What `usb_dwc3_it_handler` makes of an event; each word is an event of an
endpoint or of the device. -/
def dwc3HandleEvent (dsts event : UInt32) (h : Dwc3) : UsbAction × Dwc3 :=
  if dwc3IsEpEvent event then dwc3HandleEpEvent answer event h
  else dwc3HandleDevEvent answer dsts event h

end

end Mp257Fsbl.Usb.Control
