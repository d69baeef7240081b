/-
Module: Mp257Fsbl.Usb.Control.Device
Purpose: Endpoint zero in the device core: the stages of control transfers over
  the driver, what the device makes of an event, and the mass-storage device.
Trusted boundary: human-reviewed model of usb_device.c and usb_msc.c for endpoint
  zero
Main exports: Device, usbCoreTransmitEp0, usbCoreReceiveEp0, usbCoreCtlError,
  usbCoreDataIn0, usbCoreDataOut0, perform, runCore, handleAction, handleEvent,
  mscDesc
-/
import Mp257Fsbl.Usb.Control.Driver
import Mp257Fsbl.Usb.Msc.Port

namespace Mp257Fsbl.Usb.Control

variable {σ α : Type}

/-- `USBD_EP0_*`. -/
inductive CoreEp0State where
  | idle
  | setup
  | dataIn
  | dataOut
  | statusIn
  | statusOut
  | stall
deriving Repr, DecidableEq

/-- `struct usb_endpoint`. -/
structure UsbEndpoint where
  totalLength : UInt32
  remLength : UInt32
  maxpacket : UInt32
deriving Repr, DecidableEq

/-- The driver, the members of `struct usb_handle` for endpoint zero, the rest of
the handle, and the class. -/
structure Device (σ : Type) where
  dwc3 : Dwc3
  ep0State : CoreEp0State
  ep0DataLen : UInt32
  epIn : UsbEndpoint
  epOut : UsbEndpoint
  handle : UsbHandle
  dev : σ

/-! ### Stages -/

section

variable (answer : List EpCmd → EpCmd → CmdAnswer)

/-- `usb_core_receive` on endpoint zero. -/
def usbCoreReceive (buf : Ep0Buffer) (len : UInt32) (d : Device σ) : Device σ :=
  let ep := { d.dwc3.outEp with xferBuff := buf, xferLen := len, xferCount := 0 }
  { d with dwc3 := (usbDwc3EpStartXfer answer .dirOut { d.dwc3 with outEp := ep }).2 }

/-- `usb_core_transmit` on endpoint zero. -/
def usbCoreTransmit (buf : Ep0Buffer) (len : UInt32) (d : Device σ) : Device σ :=
  let ep := { d.dwc3.inEp with xferBuff := buf, xferLen := len, xferCount := 0 }
  { d with dwc3 := (usbDwc3EpStartXfer answer .dirIn { d.dwc3 with inEp := ep }).2 }

def usbCoreReceiveEp0 (buf : Ep0Buffer) (len : UInt32) (d : Device σ) : Device σ :=
  usbCoreReceive answer buf len
    { d with
      ep0State := if len ≠ 0 then .dataOut else .statusOut
      epOut := { d.epOut with totalLength := len, remLength := len } }

def usbCoreTransmitEp0 (buf : Ep0Buffer) (len : UInt32) (d : Device σ) : Device σ :=
  usbCoreTransmit answer buf len
    { d with
      ep0State := if len ≠ 0 then .dataIn else .statusIn
      epIn := { d.epIn with totalLength := len, remLength := len } }

/-- `usb_core_set_stall` on endpoint zero. -/
def usbCoreSetStall (dir : Dir) (d : Device σ) : Device σ :=
  let h := (usbDwc3EpSetStall answer dir d.dwc3).2
  { d with dwc3 := if dir = .dirOut then (usbDwc3Ep0OutStart answer h).2 else h }

def usbCoreCtlError (d : Device σ) : Device σ :=
  usbCoreSetStall answer .dirOut (usbCoreSetStall answer .dirIn d)

/-- `usb_core_data_out` on endpoint zero, for a class without `ep0_rx_ready`. -/
def usbCoreDataOut0 (d : Device σ) : Device σ :=
  if d.ep0State = .dataOut then
    if d.epOut.remLength > d.epOut.maxpacket then
      let rem := d.epOut.remLength - d.epOut.maxpacket
      usbCoreReceive answer d.dwc3.outEp.xferBuff (min rem d.epOut.maxpacket)
        { d with epOut := { d.epOut with remLength := rem } }
    else usbCoreTransmitEp0 answer .null 0 d
  else d

/-- `usb_core_data_in` on endpoint zero, for a class without `ep0_tx_sent`. -/
def usbCoreDataIn0 (d : Device σ) : Device σ :=
  if d.ep0State = .dataIn then
    if d.epIn.remLength > d.epIn.maxpacket then
      let rem := d.epIn.remLength - d.epIn.maxpacket
      usbCoreReceive answer .null 0
        (usbCoreTransmit answer d.dwc3.inEp.xferBuff rem
          { d with epIn := { d.epIn with remLength := rem } })
    else if d.epIn.totalLength % d.epIn.maxpacket = 0 ∧ d.epIn.maxpacket ≤ d.epIn.totalLength ∧
        d.epIn.totalLength < d.ep0DataLen then
      -- the last packet is a whole one: send an empty packet
      usbCoreReceive answer .null 0 { usbCoreTransmit answer .null 0 d with ep0DataLen := 0 }
    else usbCoreReceiveEp0 answer .null 0 d
  else d

/-! ### Events -/

/-- What a callback of the class does to endpoint zero. -/
inductive Ep0Call where
  | transmit (data : List UInt8)
  | ctlError
deriving Repr, DecidableEq

/-- `usb_core_transmit_ep0` on a buffer with these bytes. -/
def sendEp0 (data : List UInt8) (d : Device σ) : Device σ :=
  usbCoreTransmitEp0 answer (if data = [] then .null else .data data)
    (UInt32.ofNat data.length) d

variable (ep0Call : α → Option Ep0Call)

/-- What the core does outside its own state, done. -/
def perform (d : Device σ) : CoreAction α → Device σ
  | .byClass action =>
      match ep0Call action with
      | some (.transmit data) => sendEp0 answer data d
      | some .ctlError => usbCoreCtlError answer d
      | none => d
  | .transmitEp0 data => sendEp0 answer data d
  | .ctlError => usbCoreCtlError answer d
  | .setStall epAddr =>
      usbCoreSetStall answer (if epAddr &&& 0x80 = 0x80 then .dirIn else .dirOut) d
  | .setAddress address => { d with dwc3 := { d.dwc3 with devAddr := address } }

variable (cls : UsbClass σ α)

/-- The members that `usb_core_setup_stage` sets first. -/
def beginSetup (action : UsbAction) (d : Device σ) : Device σ :=
  match action with
  | .setup req => { d with ep0State := .setup, ep0DataLen := req.length.toUInt32 }
  | _ => d

/-- The core without the stages of endpoint zero. -/
def runCore (action : UsbAction) (d : Device σ) : Device σ :=
  let handled := usbCoreHandleIt cls action d.handle d.dev
  handled.actions.foldl (perform answer ep0Call)
    { d with handle := handled.handle, dev := handled.dev }

/-- The core's part of `usb_core_handle_it`. -/
def handleAction (action : UsbAction) (d : Device σ) : Device σ :=
  if action = .dataIn 0 then usbCoreDataIn0 answer d
  else if action = .dataOut 0 then usbCoreDataOut0 answer d
  else runCore answer ep0Call cls action (beginSetup action d)

/-- `usb_core_handle_it` on the next event. -/
def handleEvent (dsts event : UInt32) (d : Device σ) : Device σ :=
  let (action, dwc3) := dwc3HandleEvent answer dsts event d.dwc3
  handleAction answer ep0Call cls action { d with dwc3 }

/-! ### Start -/

/-- `USB_MAX_EP0_SIZE`. -/
def usbMaxEp0Size : UInt32 := 64

/-- One direction of endpoint zero before `usb_dwc3_init_driver`. -/
def ControlEp.zero : ControlEp where
  maxpacket := usbMaxEp0Size
  xferBuff := .null
  xferLen := 0
  xferCount := 0
  isStall := false
  trb := { bp := .null, size := 0, ctl := .setup, hwo := false }
  trbFlag := .setup
  reqQueued := false
  rescIdx := 0
  dmaAddr := .null
  xferDestBuff := .null
  xferDestLen := 0

/-- The driver behind `usb_dwc3_init_driver` and `usb_dwc3_start_device`. -/
def Dwc3.started : Dwc3 :=
  (dwc3Ep0OutStart answer
    { ep0State := .setupQueued
      outEp := .zero
      inEp := .zero
      setupAddr := Vector.replicate 8 0
      pcdSetup := Vector.replicate 8 0
      devAddr := 0
      cmds := [] }).2

/-- The device behind `usb_core_start`. -/
def Device.started (desc : UInt16 → Option (List UInt8)) (dev : σ) : Device σ where
  dwc3 := Dwc3.started answer
  ep0State := .idle
  ep0DataLen := 0
  epIn := { totalLength := 0, remLength := 0, maxpacket := usbMaxEp0Size }
  epOut := { totalLength := 0, remLength := 0, maxpacket := usbMaxEp0Size }
  handle := .registered desc
  dev := dev

end

/-! ### The mass-storage device -/

/-- What the calls of the class do to endpoint zero. -/
def mscEp0Call : Msc.Action → Option Ep0Call
  | .transmitEp0 data => some (.transmit data)
  | .ctlError => some .ctlError
  | _ => none

def mscDeviceDesc : List UInt8 :=
  [0x12, 0x01, 0x00, 0x02, 0x00, 0x00, 0x00, 0x40, 0x83, 0x04, 0x20, 0x57, 0x00, 0x02, 0x01, 0x02,
    0x03, 0x01]

def mscConfigDesc : List UInt8 :=
  [0x09, 0x02, 0x20, 0x00, 0x01, 0x01, 0x00, 0xC0, 0x32,
    0x09, 0x04, 0x00, 0x00, 0x02, 0x08, 0x06, 0x50, 0x00,
    0x07, 0x05, 0x81, 0x02, 0x00, 0x02, 0x00,
    0x07, 0x05, 0x01, 0x02, 0x00, 0x02, 0x00]

def mscLangIdDesc : List UInt8 := [0x04, 0x03, 0x09, 0x04]

def mscQualifierDesc : List UInt8 := [0x0A, 0x06, 0x00, 0x02, 0x00, 0x00, 0x00, 0x40, 0x01, 0x00]

/-- The loop of `msc_string_desc` from the offset `n` of its 64-byte buffer. -/
def mscStringBody : (n : Nat) → (ascii : List UInt8) → List UInt8
  | _, [] => []
  | n, c :: ascii => if n < 62 then c :: 0 :: mscStringBody (n + 2) ascii else []

def mscStringDesc (ascii : List UInt8) : List UInt8 :=
  let body := mscStringBody 2 ascii
  UInt8.ofNat (2 + body.length) :: 0x03 :: body

def ascii (text : String) : List UInt8 := text.toList.map fun c => UInt8.ofNat c.toNat

/-- `msc_desc`: the descriptor for the value of a request. -/
def mscDesc (value : UInt16) : Option (List UInt8) :=
  match (value >>> 8).toNat with
  | 1 => some mscDeviceDesc
  | 2 => some mscConfigDesc
  | 3 =>
      match (lobyte value).toNat with
      | 0 => some mscLangIdDesc
      | 1 => some (mscStringDesc (ascii "STMicroelectronics"))
      | 2 => some (mscStringDesc (ascii "MP257 FSBL SD card"))
      | 3 => some (mscStringDesc (ascii "002600224C42501400313951"))
      | 4 => some (mscStringDesc (ascii "MSC Config"))
      | 5 => some (mscStringDesc (ascii "MSC Interface"))
      | _ => some (mscStringDesc (ascii "MSC"))
  | 6 => some mscQualifierDesc
  | _ => none

theorem mscStringBody_length (n : Nat) (ascii : List UInt8) :
    (mscStringBody n ascii).length ≤ 63 - n := by
  induction ascii generalizing n with
  | nil => exact Nat.zero_le _
  | cons c ascii ih =>
      rw [mscStringBody]
      split
      · have rest := ih (n + 2)
        simp only [List.length_cons]
        omega
      · exact Nat.zero_le _

/-- Every descriptor has a byte and less than a packet. -/
theorem mscDesc_small {value : UInt16} {pbuf : List UInt8} (found : mscDesc value = some pbuf) :
    pbuf ≠ [] ∧ pbuf.length < 64 := by
  have string (ascii : List UInt8) :
      mscStringDesc ascii ≠ [] ∧ (mscStringDesc ascii).length < 64 := by
    have body := mscStringBody_length 2 ascii
    refine ⟨List.cons_ne_nil _ _, ?_⟩
    simp only [mscStringDesc, List.length_cons]
    omega
  unfold mscDesc at found
  split at found
  · cases found
    decide
  · cases found
    decide
  · split at found <;> cases found
    · decide
    all_goals exact string _
  · cases found
    decide
  · cases found

end Mp257Fsbl.Usb.Control
