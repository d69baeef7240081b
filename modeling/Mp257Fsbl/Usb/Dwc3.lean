/-
Module: Mp257Fsbl.Usb.Dwc3
Purpose: Transfers of the DWC3 driver: from the request of the core through the
  transfer descriptor to the completion event, with the bounce buffer for
  requests shorter than a packet.
Trusted boundary: human-reviewed model of usb_dwc3.c and of the controller
Main exports: UsbdEp, Dwc3Ep, usbDwc3EpStartXfer, usbCoreReceive,
  controllerReceive, xferComplete
-/
import Mathlib.Algebra.Order.Ring.Nat
import Mp257Fsbl.Utils.Memory

namespace Mp257Fsbl.Usb

open Mp257Fsbl.Foundation
open Mp257Fsbl.Utils

/-- `USB3_MAX_PACKET_SIZE`: the size of every bounce buffer. -/
def usb3MaxPacketSize : Nat := 512

/-- `CACHE_LINE_SIZE`. -/
def cacheLineSize : Nat := 64

/-- `USBD_EP_TYPE_*`. -/
inductive EpType where
  | ctrl
  | isoc
  | bulk
  | intr
deriving Repr, DecidableEq

/-- `USB_DWC3_TRBCTL_*`, as far as transfers use them. -/
inductive TrbCtl where
  | normal
  | controlStatus2
  | controlStatus3
  | controlData
  | isochronousFirst
deriving Repr, DecidableEq

/-- `struct usbd_ep`. Buffers are addresses; zero is the null pointer. -/
structure UsbdEp where
  num : Nat
  isIn : Bool
  type : EpType
  maxpacket : UInt32
  xferBuff : Nat
  xferLen : UInt32
  xferCount : UInt32
deriving Repr, DecidableEq

/-- `usb_dwc3_trb_t`: the buffer pointer is in one piece and the control bits
that the driver sets are apart. -/
structure Trb where
  bp : Nat
  size : UInt32
  ctl : TrbCtl
  ispImi : Bool
  ioc : Bool
  lst : Bool
  hwo : Bool
deriving Repr, DecidableEq

/-- `usb_dwc3_endpoint_t` with its descriptor; the flag bits are apart. -/
structure Dwc3Ep where
  trb : Trb
  trbFlag : TrbCtl
  reqQueued : Bool
  isocStartPending : Bool
  isocStarted : Bool
  bounceBuf : Nat
  dmaAddr : Nat
  xferDestBuff : Nat
  xferDestLen : UInt32
deriving Repr, DecidableEq

/-- `enum usb_status`. -/
inductive UsbStatus where
  | ok
  | fail
  | timeout
deriving Repr, DecidableEq

/-- `ALIGN_MULTIPLE`. -/
def alignMultiple (x a : UInt32) : UInt32 := a * (x / a + if x % a ≠ 0 then 1 else 0)

/-- `DWC3_TRB_SIZE_LENGTH`. -/
def trbSizeLength (n : UInt32) : UInt32 := n &&& 0x00ffffff

/-! ### Starting a transfer

`depCmd` is the answer of the endpoint command, `enabled` the bit of the
endpoint in DALEPENA and `setupReqLen` the length field of the last SETUP. -/

/-- `dwc3_ep_start_xfer`. -/
def dwc3EpStartXfer (depCmd : UsbStatus) (ep : UsbdEp) (dwc3Ep : Dwc3Ep) :
    UsbStatus × Dwc3Ep :=
  if ep.type = .isoc ∧ ¬ dwc3Ep.isocStartPending ∧ ¬ dwc3Ep.isocStarted then
    (.ok, { dwc3Ep with isocStartPending := true })
  else
    let starts := ep.type = .isoc ∧ ¬ dwc3Ep.isocStarted
    let queued :=
      { dwc3Ep with
        isocStartPending := if ep.type = .isoc then false else dwc3Ep.isocStartPending
        isocStarted := if starts then true else dwc3Ep.isocStarted
        reqQueued := true
        trb :=
          { bp := dwc3Ep.dmaAddr
            size := trbSizeLength ep.xferLen
            ctl := dwc3Ep.trbFlag
            ispImi := ep.num = 0
            ioc := true
            lst := ep.type ≠ .isoc
            hwo := true } }
    match depCmd with
    | .ok => (.ok, queued)
    | refused =>
        (refused,
          { queued with
            reqQueued := false
            isocStarted := if starts then false else queued.isocStarted })

/-- `usb_dwc3_ep_start_xfer`. -/
def usbDwc3EpStartXfer (enabled : Bool) (setupReqLen : UInt16) (depCmd : UsbStatus)
    (ep : UsbdEp) (dwc3Ep : Dwc3Ep) : UsbStatus × UsbdEp × Dwc3Ep :=
  let len := ep.xferLen
  if ¬ enabled ∧ ep.num ≠ 0 then (.fail, ep, dwc3Ep)
  else
    let (ep, dwc3Ep) :=
      if ep.isIn then (ep, dwc3Ep)
      else if len ≠ 0 ∧ len < ep.maxpacket then
        ({ ep with xferBuff := dwc3Ep.bounceBuf, xferLen := alignMultiple len ep.maxpacket },
          { dwc3Ep with xferDestBuff := ep.xferBuff, xferDestLen := ep.xferLen })
      else ({ ep with xferLen := alignMultiple len ep.maxpacket }, dwc3Ep)
    let dwc3Ep :=
      { dwc3Ep with
        -- the mapping of `api_mapdmaaddr` is the identity
        dmaAddr := ep.xferBuff
        trbFlag :=
          if ep.num = 0 then
            if len = 0 then if setupReqLen = 0 then .controlStatus2 else .controlStatus3
            else .controlData
          else if ep.type = .intr ∨ ep.type = .bulk then .normal
          else .isochronousFirst }
    let (status, dwc3Ep) := dwc3EpStartXfer depCmd ep dwc3Ep
    (status, ep, dwc3Ep)

/-- `usb_core_receive` on an endpoint other than zero. -/
def usbCoreReceive (enabled : Bool) (depCmd : UsbStatus) (buf : Nat) (len : UInt32)
    (ep : UsbdEp) (dwc3Ep : Dwc3Ep) : UsbStatus × UsbdEp × Dwc3Ep :=
  usbDwc3EpStartXfer enabled 0 depCmd
    { ep with xferBuff := buf, xferLen := len, xferCount := 0, isIn := false } dwc3Ep

/-! ### Completing it -/

/-- The controller puts one packet where the descriptor points and writes back
how much room is left. -/
def controllerReceive (packet : List UInt8) (dwc3Ep : Dwc3Ep) (memory : Store UInt8) :
    Dwc3Ep × Store UInt8 :=
  ({ dwc3Ep with
      trb :=
        { dwc3Ep.trb with
          size := dwc3Ep.trb.size - UInt32.ofNat packet.length
          hwo := false } },
    memory.overlay dwc3Ep.trb.bp packet)

/-- The XFERCOMPLETE branch of `dwc3_handle_ep_event` for an OUT endpoint other
than zero. -/
def xferComplete (ep : UsbdEp) (dwc3Ep : Dwc3Ep) (memory : Store UInt8) :
    UsbdEp × Dwc3Ep × Store UInt8 :=
  if ep.type = .isoc then (ep, dwc3Ep, memory)
  else
    let ep := { ep with xferCount := ep.xferLen - trbSizeLength dwc3Ep.trb.size }
    let dwc3Ep := { dwc3Ep with reqQueued := false }
    if ep.xferBuff = dwc3Ep.bounceBuf then
      ({ ep with xferBuff := dwc3Ep.xferDestBuff }, dwc3Ep,
        memcpy ep.xferCount.toNat dwc3Ep.xferDestBuff ep.xferBuff memory)
    else (ep, dwc3Ep, memory)

/-! ### A transfer shorter than a packet -/

section Bounced

variable {ep : UsbdEp} {dwc3Ep : Dwc3Ep}

theorem dwc3EpStartXfer_of_not_isoc (notIsoc : ep.type ≠ .isoc) :
    dwc3EpStartXfer .ok ep dwc3Ep =
      (.ok,
        { dwc3Ep with
          reqQueued := true
          trb :=
            { bp := dwc3Ep.dmaAddr
              size := trbSizeLength ep.xferLen
              ctl := dwc3Ep.trbFlag
              ispImi := ep.num = 0
              ioc := true
              lst := true
              hwo := true } }) := by
  simp [dwc3EpStartXfer, notIsoc]

/-- The descriptor of a short receive points to the bounce buffer and has room
for whole packets. -/
theorem usbDwc3EpStartXfer_bounced (out : ep.isIn = false) (bulk : ep.type = .bulk)
    (numbered : ep.num ≠ 0) (short : ep.xferLen ≠ 0 ∧ ep.xferLen < ep.maxpacket) :
    ∃ started,
      usbDwc3EpStartXfer true 0 .ok ep dwc3Ep =
        (.ok,
          { ep with
            xferBuff := dwc3Ep.bounceBuf
            xferLen := alignMultiple ep.xferLen ep.maxpacket },
          started) ∧
      started.trb.bp = dwc3Ep.bounceBuf ∧
      started.trb.size = trbSizeLength (alignMultiple ep.xferLen ep.maxpacket) ∧
      started.bounceBuf = dwc3Ep.bounceBuf ∧ started.xferDestBuff = ep.xferBuff := by
  simp only [usbDwc3EpStartXfer, not_true_eq_false, false_and, if_false, out, Bool.false_eq_true,
    if_pos short, numbered, bulk, or_true, if_true]
  rw [dwc3EpStartXfer_of_not_isoc (by simp)]
  exact ⟨_, rfl, rfl, rfl, rfl, rfl⟩

/-- The completion copies what was received out of the bounce buffer. -/
theorem xferComplete_bounced (notIsoc : ep.type ≠ .isoc) (bounced : ep.xferBuff = dwc3Ep.bounceBuf)
    (memory : Store UInt8) :
    (xferComplete ep dwc3Ep memory).2.2 =
      memcpy (ep.xferLen - trbSizeLength dwc3Ep.trb.size).toNat dwc3Ep.xferDestBuff ep.xferBuff
        memory := by
  simp [xferComplete, notIsoc, bounced]

end Bounced

/-! ### Lengths -/

theorem trbSizeLength_toNat (n : UInt32) : (trbSizeLength n).toNat = n.toNat % 2 ^ 24 := by
  rw [trbSizeLength, UInt32.toNat_and]
  exact Nat.and_two_pow_sub_one_eq_mod n.toNat 24

/-- Room for `room` bytes, `length` of them used, read back as a count. -/
theorem xferCount_toNat {room : UInt32} {length : Nat} (small : room.toNat < 2 ^ 24)
    (fits : length ≤ room.toNat) :
    (room - trbSizeLength (trbSizeLength room - UInt32.ofNat length)).toNat = length := by
  have armed : trbSizeLength room = room := by
    apply UInt32.toNat.inj
    rw [trbSizeLength_toNat, Nat.mod_eq_of_lt small]
  have used : (UInt32.ofNat length).toNat = length := by
    rw [UInt32.toNat_ofNat']
    omega
  have left : (room - UInt32.ofNat length).toNat = room.toNat - length := by
    rw [UInt32.toNat_sub_of_le _ _ (by rw [UInt32.le_iff_toNat_le, used]; exact fits), used]
  have residual : (trbSizeLength (room - UInt32.ofNat length)).toNat = room.toNat - length := by
    rw [trbSizeLength_toNat, left, Nat.mod_eq_of_lt (by omega)]
  rw [armed, UInt32.toNat_sub_of_le _ _ (by rw [UInt32.le_iff_toNat_le, residual]; omega),
    residual]
  omega

end Mp257Fsbl.Usb
