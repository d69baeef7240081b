/-
Module: Mp257Fsbl.Usb.Msc.Reception
Purpose: Which bytes of memory the reception of a CBW changes.
Trusted boundary: none
Main exports: Layout, CbwEndpoint, CbwEndpoint.receive, reception_frame_iff
-/
import Mp257Fsbl.Usb.Dwc3
import Mp257Fsbl.Usb.Msc.Class

namespace Mp257Fsbl.Usb.Msc

open Mp257Fsbl.Foundation
open Mp257Fsbl.Utils

/-- Where the linker put `cbw` and the bounce buffer of its endpoint: both on
cache lines of their own, and apart. -/
structure Layout where
  cbw : Nat
  bounceBuf : Nat
  cbw_aligned : cacheLineSize ∣ cbw
  bounceBuf_aligned : cacheLineSize ∣ bounceBuf
  apart : cbw + cbwLength.toNat ≤ bounceBuf ∨ bounceBuf + usb3MaxPacketSize ≤ cbw

/-- The OUT endpoint of the class as `msc_init` opened it. The rest of its two
records is arbitrary. -/
structure CbwEndpoint (layout : Layout) where
  ep : UsbdEp
  dwc3Ep : Dwc3Ep
  num_eq : ep.num = mscEpNum.toNat
  bulk : ep.type = .bulk
  maxpacket_eq : ep.maxpacket.toNat = mscMpsHs
  bounceBuf_eq : dwc3Ep.bounceBuf = layout.bounceBuf

variable {layout : Layout}

/-- `msc_arm_cbw` arms the receive, `packet` arrives and completes it. -/
def CbwEndpoint.receive (endpoint : CbwEndpoint layout) (packet : List UInt8)
    (memory : Store UInt8) : Store UInt8 :=
  let (_, ep, dwc3Ep) :=
    usbCoreReceive true .ok layout.cbw cbwLength endpoint.ep endpoint.dwc3Ep
  let (dwc3Ep, memory) := controllerReceive packet dwc3Ep memory
  (xferComplete ep dwc3Ep memory).2.2

/-- The packet goes to the bounce buffer, and all of it from there to `cbw`. -/
theorem CbwEndpoint.receive_eq (endpoint : CbwEndpoint layout) {packet : List UInt8}
    (fits : packet.length ≤ mscMpsHs) (memory : Store UInt8) :
    endpoint.receive packet memory =
      memcpy packet.length layout.cbw layout.bounceBuf
        (memory.overlay layout.bounceBuf packet) := by
  have maxpacket : endpoint.ep.maxpacket = 512 :=
    UInt32.toNat.inj (endpoint.maxpacket_eq.trans rfl)
  have numbered : endpoint.ep.num ≠ 0 := by
    rw [endpoint.num_eq]
    decide
  have short : cbwLength ≠ 0 ∧ cbwLength < endpoint.ep.maxpacket := by
    rw [maxpacket]
    decide
  have aligned : alignMultiple cbwLength endpoint.ep.maxpacket = 512 := by
    rw [maxpacket]
    decide
  let requested : UsbdEp :=
    { endpoint.ep with
      xferBuff := layout.cbw, xferLen := cbwLength, xferCount := 0, isIn := false }
  obtain ⟨started, outcome, bp, size, bounceBuf, destination⟩ :
      ∃ started, usbDwc3EpStartXfer true 0 .ok requested endpoint.dwc3Ep = _ ∧ _ :=
    usbDwc3EpStartXfer_bounced rfl endpoint.bulk numbered short
  let armedEp : UsbdEp :=
    { requested with
      xferBuff := endpoint.dwc3Ep.bounceBuf
      xferLen := alignMultiple cbwLength endpoint.ep.maxpacket }
  have notIsoc : armedEp.type ≠ .isoc := by
    simp [armedEp, requested, endpoint.bulk]
  have count : (alignMultiple cbwLength endpoint.ep.maxpacket -
      trbSizeLength (started.trb.size - UInt32.ofNat packet.length)).toNat = packet.length := by
    rw [size, aligned]
    exact xferCount_toNat (by decide) fits
  simp only [receive, usbCoreReceive]
  rw [outcome]
  have bounced : armedEp.xferBuff = (controllerReceive packet started memory).1.bounceBuf :=
    bounceBuf.symm
  refine (xferComplete_bounced notIsoc bounced _).trans ?_
  simp only [controllerReceive, bp, destination, endpoint.bounceBuf_eq]
  rw [count]
  simp only [armedEp, requested, endpoint.bounceBuf_eq]

/-- The byte after `cbw` belongs neither to it nor to the bounce buffer. -/
theorem Layout.after_cbw (layout : Layout) :
    layout.cbw + 31 < layout.bounceBuf ∨
      layout.bounceBuf + usb3MaxPacketSize ≤ layout.cbw + 31 := by
  rcases layout.cbw_aligned with ⟨i, cbw⟩
  rcases layout.bounceBuf_aligned with ⟨j, bounceBuf⟩
  have apart := layout.apart
  have length : cbwLength.toNat = 31 := by decide
  rw [length] at apart
  simp only [cacheLineSize, usb3MaxPacketSize] at *
  omega

/-- Nothing but `cbw` and the bounce buffer changes, whatever memory holds,
exactly when the packet is no longer than a CBW. -/
theorem reception_frame_iff (endpoint : CbwEndpoint layout) (packet : List UInt8)
    (fits : packet.length ≤ mscMpsHs) :
    (∀ (memory : Store UInt8) (address : Nat),
      (address < layout.cbw ∨ layout.cbw + cbwLength.toNat ≤ address) →
      (address < layout.bounceBuf ∨ layout.bounceBuf + usb3MaxPacketSize ≤ address) →
        endpoint.receive packet memory address = memory address) ↔
      packet.length ≤ cbwLength.toNat := by
  have cbw_length : cbwLength.toNat = 31 := by decide
  have whole : usb3MaxPacketSize = mscMpsHs := rfl
  have apart := layout.apart
  constructor
  · intro framed
    by_contra long
    have inside : 31 < packet.length := by omega
    -- a memory whose byte after `cbw` differs from what the packet brings
    have same := framed (fun _ => packet[31] + 1) (layout.cbw + 31) (.inr (by omega))
      layout.after_cbw
    rw [endpoint.receive_eq fits, memcpy_inside inside (by omega),
      Store.overlay_inside inside] at same
    have changed : packet[31].toNat ≠ (packet[31] + 1).toNat := by
      rw [UInt8.toNat_add]
      have bound := packet[31].toNat_lt
      change packet[31].toNat ≠ (packet[31].toNat + 1) % 2 ^ 8
      omega
    exact changed (congrArg UInt8.toNat same)
  · intro short memory address notCbw notBounce
    rw [endpoint.receive_eq fits, memcpy_outside (by omega), Store.overlay_outside (by omega)]

/-! ### A packet that is too long -/

/-- `cbw` at address zero and the bounce buffer behind it. -/
def Layout.adjacent : Layout where
  cbw := 0
  bounceBuf := 64
  cbw_aligned := ⟨0, rfl⟩
  bounceBuf_aligned := ⟨1, rfl⟩
  apart := .inl (by decide)

/-- The endpoint as `usb_dwc3_init_driver` and `msc_init` leave it. -/
def CbwEndpoint.opened : CbwEndpoint .adjacent where
  ep :=
    { num := 1, isIn := false, type := .bulk, maxpacket := 512,
      xferBuff := 0, xferLen := 0, xferCount := 0 }
  dwc3Ep :=
    { trb :=
        { bp := 0, size := 0, ctl := .normal, ispImi := false, ioc := false, lst := false,
          hwo := false }
      trbFlag := .normal
      reqQueued := false
      isocStartPending := false
      isocStarted := false
      bounceBuf := 64
      dmaAddr := 0
      xferDestBuff := 0
      xferDestLen := 0 }
  num_eq := rfl
  bulk := rfl
  maxpacket_eq := rfl
  bounceBuf_eq := rfl

theorem reception_frame_iff_cbw :
    CbwEndpoint.opened.receive (List.replicate 31 0xFF) (fun _ => 0) 31 = 0 :=
  (reception_frame_iff .opened (List.replicate 31 0xFF) (by decide)).mpr (by decide)
    (fun _ => 0) 31 (.inr (by decide)) (.inl (by decide))

/-- One byte too many is written behind `cbw`, short of the bounce buffer. -/
theorem reception_longPacket_overruns :
    Layout.adjacent.cbw + cbwLength.toNat ≤ 31 ∧ 31 < Layout.adjacent.bounceBuf ∧
      CbwEndpoint.opened.receive (List.replicate 32 0xFF) (fun _ => 0) 31 = 0xFF := by
  refine ⟨by decide, by decide, ?_⟩
  rw [CbwEndpoint.opened.receive_eq (by decide)]
  decide

end Mp257Fsbl.Usb.Msc
