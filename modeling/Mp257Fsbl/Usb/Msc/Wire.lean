/-
Module: Mp257Fsbl.Usb.Msc.Wire
Purpose: Valid command wrappers, whatever they ask for, and what the class sees
  of them.
Trusted boundary: human-reviewed statement of a valid wrapper
Main exports: ValidCbw, Cbw.wire, received_wire, completeOut_wire
-/
import Mp257Fsbl.Usb.Msc.Bus

namespace Mp257Fsbl.Usb.Msc

open Mp257Fsbl.Foundation
open Mp257Fsbl.Sd

/-- The 31 bytes that the host sends. -/
def Cbw.wire (cbw : Cbw) : List UInt8 := cbw.window 0 cbwLength.toNat

/-- The wrapper with these bytes, and zeros after them. -/
def Cbw.ofBytes (bytes : List UInt8) : Cbw := fun i => (bytes[i]?).getD 0

/-- A wrapper with the right signature. Everything else in it is arbitrary. -/
structure ValidCbw where
  cbw : Cbw
  signed : cbw.signature = cbwSignature

section OnTheWire

variable (cbw : Cbw) (s : MscState)

@[simp] theorem wire_length : cbw.wire.length = 31 := Store.window_length _ _ _

theorem wire_fits : cbw.wire.length ≤ receiveLimit cbwLength := by
  rw [wire_length]
  decide

theorem delivered_wire (behind : Behind) :
    s.delivered behind .cbw cbw.wire = some (s.received .cbw cbw.wire) :=
  delivered_of_fits behind s fun _ => Nat.le_of_eq (wire_length cbw)

/-- The class sees the wrapper that the host sent. -/
theorem received_wire {i : Nat} (inside : i < 31) :
    (s.received .cbw cbw.wire).cbw i = cbw i := by
  have whole : cbw.wire.take cbwLength.toNat = cbw.wire :=
    List.take_of_length_le (by simp [cbwLength])
  have here := Store.overlay_window s.cbw cbw 0 0 inside
  simp only [MscState.received, whole, Nat.zero_add] at here ⊢
  exact here

theorem le32_received {offset : Nat} (inside : offset + 3 < 31) :
    le32 (s.received .cbw cbw.wire).cbw offset = le32 cbw offset := by
  rw [le32, le32, received_wire cbw s inside, received_wire cbw s (by omega),
    received_wire cbw s (by omega), received_wire cbw s (by omega)]

theorem cb_received {i : Nat} (inside : i < 16) :
    (s.received .cbw cbw.wire).cbw.cb i = cbw.cb i :=
  received_wire cbw s (by omega)

theorem signature_received : (s.received .cbw cbw.wire).cbw.signature = cbw.signature :=
  le32_received cbw s (by omega)

theorem tag_received : (s.received .cbw cbw.wire).cbw.tag = cbw.tag :=
  le32_received cbw s (by omega)

theorem dataLength_received : (s.received .cbw cbw.wire).cbw.dataLength = cbw.dataLength :=
  le32_received cbw s (by omega)

theorem cnt_received : (s.received .cbw cbw.wire).cbw.cnt = cbw.cnt := by
  rw [Cbw.cnt, Cbw.cnt, cb_received cbw s (by omega), cb_received cbw s (by omega)]

theorem lba_received : (s.received .cbw cbw.wire).cbw.lba = cbw.lba := by
  rw [Cbw.lba, Cbw.lba, cb_received cbw s (by omega), cb_received cbw s (by omega),
    cb_received cbw s (by omega), cb_received cbw s (by omega)]

/-- A valid wrapper that arrives while one is awaited is dispatched. -/
theorem mscDataOut_wire {cbw : Cbw} {s : MscState} (info : SdDevInfo) (sd : SdOutcome)
    (signed : cbw.signature = cbwSignature) (state : s.botState = .idle) :
    mscDataOut info mscEpNum (UInt32.ofNat cbw.wire.length) sd (s.received .cbw cbw.wire) =
      mscCmdDispatch info sd (s.received .cbw cbw.wire) := by
  have counted : UInt32.ofNat cbw.wire.length = cbwLength := by
    rw [wire_length]
    rfl
  simp only [mscDataOut, ne_eq, not_true_eq_false, if_false, received_botState, state, counted,
    signature_received, signed, and_self, if_true]

theorem completeOut_wire {cbw : Cbw} {s : MscState} (info : SdDevInfo) (others : List Transfer)
    (sd : SdOutcome) (signed : cbw.signature = cbwSignature) (state : s.botState = .idle) :
    completeOut info others .cbw cbw.wire sd s =
      .after others (mscCmdDispatch info sd (s.received .cbw cbw.wire)) := by
  rw [completeOut, mscDataOut_wire info sd signed state]

end OnTheWire

end Mp257Fsbl.Usb.Msc
