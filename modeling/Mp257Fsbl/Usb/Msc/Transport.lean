/-
Module: Mp257Fsbl.Usb.Msc.Transport
Purpose: The class and a host that follows the Bulk-Only Transport, packet by
  packet on the two bulk pipes.
Trusted boundary: human-reviewed statement of the transport's host side
Main exports: Wrapper, HostPhase, Transport, TransportEvent, TransportStep,
  InPhase
-/
import Mp257Fsbl.Usb.Msc.Host

namespace Mp257Fsbl.Usb.Msc

open Mp257Fsbl.Foundation
open Mp257Fsbl.Sd

/-! ### The host -/

namespace Cbw

/-- Bit 7 of `bmCBWFlags`. -/
def DeviceToHost (cbw : Cbw) : Prop := cbw.flags &&& 0x80 = 0x80

instance (cbw : Cbw) : Decidable cbw.DeviceToHost :=
  inferInstanceAs (Decidable (_ = _))

/-- The declared length and direction agree with the command block. A reply
may be declared with any length; what the class does not know declares what it
likes. -/
def Agrees (cbw : Cbw) : Prop :=
  match Scsi.ofByte (cbw.cb 0) with
  | some .testUnitReady | some .startStop | some .mediumRemoval => cbw.dataLength = 0
  | some .inquiry | some .requestSense | some .modeSense6 | some .readFormatCap
  | some .readCapacity10 => cbw.DeviceToHost
  | some .read10 => cbw.dataLength.toNat = 512 * cbw.cnt.toNat ∧ cbw.DeviceToHost
  | some .write10 => cbw.dataLength.toNat = 512 * cbw.cnt.toNat ∧ ¬ cbw.DeviceToHost
  | none => True

end Cbw

/-- A valid wrapper whose declarations agree with its command block. -/
structure Wrapper where
  cbw : Cbw
  signed : cbw.signature = cbwSignature
  agrees : cbw.Agrees

def Wrapper.packet (wrapper : Wrapper) : List UInt8 := wrapper.cbw.window 0 cbwLength.toNat

/-- What the host does next: send a wrapper, move the rest of the data, or read
the status of the command with this tag. -/
inductive HostPhase where
  | ready
  | dataOut (tag : UInt32) (left : Nat)
  | dataIn (tag : UInt32) (left : Nat)
  | status (tag : UInt32)
deriving Repr, DecidableEq

/-- The phase that follows the wrapper. -/
def Cbw.phase (cbw : Cbw) : HostPhase :=
  if cbw.dataLength = 0 then .status cbw.tag
  else if cbw.DeviceToHost then .dataIn cbw.tag cbw.dataLength.toNat
  else .dataOut cbw.tag cbw.dataLength.toNat

namespace HostPhase

/-- After an OUT packet of `size` bytes. -/
def afterOut (tag : UInt32) (left size : Nat) : HostPhase :=
  if left ≤ size then .status tag else .dataOut tag (left - size)

/-- After an IN packet of `size` bytes; a short packet ends the data phase. -/
def afterIn (tag : UInt32) (left size : Nat) : HostPhase :=
  if size < mscMpsHs ∨ left ≤ size then .status tag else .dataIn tag (left - size)

end HostPhase

/-! ### Packets

A transfer moves in packets of 512 bytes; it completes at its length or at a
shorter packet. -/

/-- The class, the bytes that the outstanding transfer has moved so far, and
the host. -/
structure Transport where
  bus : Bus
  moved : List UInt8
  host : HostPhase

/-- The bytes an IN transfer of `len` bytes sends. -/
def MscState.source (s : MscState) (buffer : Buffer) (len : Nat) : List UInt8 :=
  match buffer with
  | .cbw => s.cbw.window 0 len
  | .csw => s.csw.bytes.take len
  | .xferBuf => s.xferBuf.window 0 len

namespace Transport

/-- The device accepts an OUT packet when an OUT transfer is outstanding. -/
def outPacket (info : SdDevInfo) (packet : List UInt8) (sd : SdOutcome) (host : HostPhase)
    (t : Transport) : Option Transport :=
  match t.bus.outstanding with
  | [.bulkOut buffer len] =>
      let moved := t.moved ++ packet
      if packet.length < mscMpsHs ∨ receiveLimit len ≤ moved.length then
        some
          { bus := completeOut info [] buffer moved sd t.bus.dev
            moved := []
            host := host }
      else some { bus := t.bus, moved := moved, host := host }
  | _ => none

/-- The next packet of the outstanding IN transfer. -/
def nextPacket (t : Transport) : Option (List UInt8) :=
  match t.bus.outstanding with
  | [.bulkIn buffer len] =>
      some (((t.bus.dev.source buffer len.toNat).drop t.moved.length).take mscMpsHs)
  | _ => none

/-- The device sends `packet` from the outstanding IN transfer. -/
def inPacket (packet : List UInt8) (sd : SdOutcome) (host : HostPhase) (t : Transport) :
    Option Transport :=
  match t.bus.outstanding with
  | [.bulkIn _ len] =>
      let moved := t.moved ++ packet
      if len.toNat ≤ moved.length then
        some
          { bus := completeIn [] sd t.bus.dev
            moved := []
            host := host }
      else some { bus := t.bus, moved := moved, host := host }
  | _ => none

end Transport

/-- One packet, with the outcome of the SD call that its completion may make. -/
inductive TransportEvent where
  | command (wrapper : Wrapper) (sd : SdOutcome)
  | outData (packet : List UInt8) (sd : SdOutcome)
  | inData (packet : List UInt8) (sd : SdOutcome)
  | status (packet : List UInt8) (sd : SdOutcome)

/-- The host moves; a packet that the device does not take blocks it. -/
inductive TransportStep (info : SdDevInfo) : Step Transport TransportEvent where
  | command {t next : Transport} {wrapper : Wrapper} {sd : SdOutcome}
      (phase : t.host = .ready)
      (moved : t.outPacket info wrapper.packet sd wrapper.cbw.phase = some next) :
      TransportStep info t (.command wrapper sd) next
  | outData {t next : Transport} {tag : UInt32} {left : Nat} {packet : List UInt8}
      {sd : SdOutcome} (phase : t.host = .dataOut tag left)
      (size : packet.length = min mscMpsHs left)
      (moved : t.outPacket info packet sd (.afterOut tag left packet.length) = some next) :
      TransportStep info t (.outData packet sd) next
  | inData {t next : Transport} {tag : UInt32} {left : Nat} {packet : List UInt8}
      {sd : SdOutcome} (phase : t.host = .dataIn tag left)
      (sent : t.nextPacket = some packet)
      (moved : t.inPacket packet sd (.afterIn tag left packet.length) = some next) :
      TransportStep info t (.inData packet sd) next
  | status {t next : Transport} {tag : UInt32} {packet : List UInt8} {sd : SdOutcome}
      (phase : t.host = .status tag) (sent : t.nextPacket = some packet)
      (moved : t.inPacket packet sd .ready = some next) :
      TransportStep info t (.status packet sd) next

/-- Host and device do the same thing: a wrapper is awaited when the host is
about to send one, data moves in the direction the host moves it, and the
status the host is about to read is that of its command. -/
def InPhase (t : Transport) : Prop :=
  match t.host with
  | .ready =>
      t.bus.dev.botState = .idle ∧ t.bus.outstanding = [.bulkOut .cbw cbwLength] ∧ t.moved = []
  | .dataOut _ _ =>
      t.bus.dev.botState = .dataOut ∧ ∃ len, t.bus.outstanding = [.bulkOut .xferBuf len]
  | .dataIn _ _ =>
      t.bus.dev.botState = .dataIn ∧ ∃ len, t.bus.outstanding = [.bulkIn .xferBuf len]
  | .status tag =>
      t.bus.dev.botState = .csw ∧ t.bus.outstanding = [.bulkIn .csw cswLength] ∧ t.moved = [] ∧
        t.bus.dev.csw.signature = cswSignature ∧ t.bus.dev.csw.tag = tag

end Mp257Fsbl.Usb.Msc
