/-
Module: Mp257Fsbl.Usb.Control.Requests
Purpose: What endpoint zero shows the controller, and what a request makes of it
  on the mass-storage device.
Trusted boundary: human-reviewed choice of the members of endpoint zero
Main exports: Ep0View, Effect, Ep0View.after, mscSmall, requestEffects,
  effects_setup
-/
import Mp257Fsbl.Usb.Control.Listening

namespace Mp257Fsbl.Usb.Control

open Mp257Fsbl.Foundation
open Mp257Fsbl.Sd

variable {σ α : Type} {answer : List EpCmd → EpCmd → CmdAnswer}

/-! ### What endpoint zero shows -/

/-- The members of endpoint zero on which the stages of a transfer depend. -/
structure Ep0View where
  ep0State : Ep0State
  setupAddr : SetupPacket
  stalled : Bool
  outTrb : ControlTrb
  outLen : UInt32
  inTrb : ControlTrb
  inLen : UInt32
  inQueued : Bool
  /-- The transfers started in the IN direction. -/
  inStarts : Nat
  core : CoreEp0State

def Device.view (d : Device σ) : Ep0View where
  ep0State := d.dwc3.ep0State
  setupAddr := d.dwc3.setupAddr
  stalled := d.dwc3.outEp.isStall
  outTrb := d.dwc3.outEp.trb
  outLen := d.dwc3.outEp.xferLen
  inTrb := d.dwc3.inEp.trb
  inLen := d.dwc3.inEp.xferLen
  inQueued := d.dwc3.inEp.reqQueued
  inStarts := d.dwc3.cmds.count (.startTransfer .dirIn)
  core := d.ep0State

/-- The descriptor that waits for a SETUP packet. -/
def setupTrb : ControlTrb := { bp := .setup, size := 8, ctl := .setup, hwo := true }

/-- The driver waits for a SETUP packet again. -/
def Ep0View.requeued (v : Ep0View) : Ep0View :=
  { v with ep0State := .setupQueued, outTrb := setupTrb, outLen := 8 }

/-- What a call does to endpoint zero. -/
inductive Effect where
  | send (data : List UInt8)
  | setStall (dir : Dir)
deriving Repr, DecidableEq

/-- The stage of a reply. -/
def Ep0View.stage (v : Ep0View) (data : List UInt8) : ControlCtl :=
  if data = [] then if v.setupAddr.reqLen = 0 then .status2 else .status3 else .data

def Ep0View.after (v : Ep0View) : Effect → Ep0View
  | .send data =>
      { v with
        inTrb :=
          { bp := if data = [] then .null else .data data
            size := UInt32.ofNat data.length
            ctl := v.stage data
            hwo := true }
        inLen := UInt32.ofNat data.length
        inQueued := true
        inStarts := v.inStarts + 1
        core := if data = [] then .statusIn else .dataIn }
  | .setStall .dirOut => { v.requeued with stalled := true }
  | .setStall .dirIn => v

section

variable {h : Dwc3}

/-- A SETUP descriptor that is queued. -/
theorem view_outStart (obeys : Obeys answer) (d : Device σ) {h : Dwc3}
    (queued : h.ep0State = .setupQueued) :
    ({ d with dwc3 := (dwc3Ep0OutStart answer h).2 } : Device σ).view =
      ({ d with dwc3 := h } : Device σ).view.requeued := by
  unfold dwc3Ep0OutStart
  obtain ⟨_, _, started, begun⟩ := @startXfer_out answer
    { h with outEp := { h.outEp with dmaAddr := .setup, xferLen := 8, trbFlag := .setup } }
  have size : trbSizeLength 8 = 8 := by decide
  rw [started, begun obeys]
  simp [Device.view, Ep0View.requeued, ControlEp.started, setupTrb, queued, size]

theorem view_requeue (obeys : Obeys answer) (d : Device σ) :
    ({ d with dwc3 := dwc3Requeue answer d.dwc3 } : Device σ).view = d.view.requeued :=
  view_outStart obeys d rfl

theorem view_setStall_in (d : Device σ) : (usbCoreSetStall answer .dirIn d).view = d.view := by
  unfold usbCoreSetStall usbDwc3EpSetStall dwc3ExecuteDepCmd
  dsimp only
  rw [if_neg nofun]
  split
  · rfl
  · simp [Device.view, Dwc3.setEp, Dwc3.ep]

theorem view_setStall_out (obeys : Obeys answer) (d : Device σ) :
    (usbCoreSetStall answer .dirOut d).view = d.view.after (.setStall .dirOut) := by
  unfold usbCoreSetStall usbDwc3Ep0OutStart
  dsimp only
  rw [if_pos rfl]
  refine (view_outStart obeys d rfl).trans ?_
  unfold usbDwc3EpSetStall dwc3ExecuteDepCmd
  split
  · rename_i stalled
    have same : d.dwc3.outEp.isStall = true := stalled
    simp [Device.view, Ep0View.requeued, Ep0View.after, same]
  · simp [Device.view, Ep0View.requeued, Ep0View.after, Dwc3.setEp, Dwc3.ep]

theorem view_setStall (obeys : Obeys answer) (dir : Dir) (d : Device σ) :
    (usbCoreSetStall answer dir d).view = d.view.after (.setStall dir) := by
  cases dir with
  | dirOut => exact view_setStall_out obeys d
  | dirIn => exact view_setStall_in d

theorem view_ctlError (obeys : Obeys answer) (d : Device σ) :
    (usbCoreCtlError answer d).view = d.view.after (.setStall .dirOut) := by
  rw [usbCoreCtlError, view_setStall_out obeys, view_setStall_in]

theorem view_send (obeys : Obeys answer) {data : List UInt8} (small : data.length < 64)
    (d : Device σ) : (sendEp0 answer data d).view = d.view.after (.send data) := by
  have len := Listening.length_toNat small
  have empty_iff : UInt32.ofNat data.length = 0 ↔ data = [] := by
    rw [← UInt32.toNat_inj, len, UInt32.toNat_zero, List.length_eq_zero_iff]
  have size : trbSizeLength (UInt32.ofNat data.length) = UInt32.ofNat data.length := by
    rw [← UInt32.toNat_inj, trbSizeLength_toNat, len]
    exact Nat.mod_eq_of_lt (Nat.lt_trans small (by decide))
  unfold sendEp0 usbCoreTransmitEp0 usbCoreTransmit
  dsimp only
  obtain ⟨_, _, started, begun⟩ := @epStartXfer_in answer
    { d.dwc3 with
      inEp :=
        { d.dwc3.inEp with
          xferBuff := if data = [] then .null else .data data
          xferLen := UInt32.ofNat data.length
          xferCount := 0 } }
  rw [started, begun obeys]
  by_cases empty : data = []
  · have none : trbSizeLength 0 = 0 := by decide
    simp [Device.view, Ep0View.after, Ep0View.stage, Dwc3.stage, empty, none]
    rfl
  · have nonzero : ¬ UInt32.ofNat data.length = 0 := fun zero => empty (empty_iff.mp zero)
    simp [Device.view, Ep0View.after, Ep0View.stage, Dwc3.stage, size, empty, nonzero]

end

/-! ### The mass-storage class -/

/-- The effect of a call on endpoint zero. -/
def effect : CoreAction Msc.Action → Option Effect
  | .byClass action =>
      match mscEp0Call action with
      | some (.transmit data) => some (.send data)
      | some .ctlError => some (.setStall .dirOut)
      | none => none
  | .transmitEp0 data => some (.send data)
  | .ctlError => some (.setStall .dirOut)
  | .setStall epAddr => some (.setStall (if epAddr &&& 0x80 = 0x80 then .dirIn else .dirOut))
  | .setAddress _ => none

theorem view_perform (obeys : Obeys answer) (d : Device Msc.MscState)
    {action : CoreAction Msc.Action} (small : SmallAction mscEp0Call action) :
    (perform answer mscEp0Call d action).view = (effect action).elim d.view d.view.after := by
  cases action with
  | byClass action =>
      unfold perform effect
      dsimp only
      cases call : mscEp0Call action with
      | none => rfl
      | some made =>
          cases made with
          | transmit data => exact view_send obeys (small data call) d
          | ctlError => exact view_ctlError obeys d
  | transmitEp0 data => exact view_send obeys small d
  | ctlError => exact view_ctlError obeys d
  | setStall epAddr => exact view_setStall obeys _ d
  | setAddress address => rfl

theorem view_performAll (obeys : Obeys answer) {actions : List (CoreAction Msc.Action)}
    (small : AllSmall mscEp0Call actions) (d : Device Msc.MscState) :
    (actions.foldl (perform answer mscEp0Call) d).view =
      (actions.filterMap effect).foldl Ep0View.after d.view := by
  induction actions generalizing d with
  | nil => rfl
  | cons action actions ih =>
      obtain ⟨first, rest⟩ := List.forall_mem_cons.mp small
      rw [List.foldl_cons, ih rest, view_perform obeys d first]
      cases made : effect action with
      | none => simp [made]
      | some made' => simp [made]

/-- Performing a call leaves the handle and the class alone. -/
theorem perform_rest (d : Device Msc.MscState) (action : CoreAction Msc.Action) :
    (perform answer mscEp0Call d action).handle = d.handle ∧
      (perform answer mscEp0Call d action).dev = d.dev := by
  cases action with
  | byClass action =>
      unfold perform
      dsimp only
      cases mscEp0Call action with
      | none => exact ⟨rfl, rfl⟩
      | some made => cases made <;> exact ⟨rfl, rfl⟩
  | _ => exact ⟨rfl, rfl⟩

theorem performAll_rest (actions : List (CoreAction Msc.Action)) (d : Device Msc.MscState) :
    (actions.foldl (perform answer mscEp0Call) d).handle = d.handle ∧
      (actions.foldl (perform answer mscEp0Call) d).dev = d.dev := by
  induction actions generalizing d with
  | nil => exact ⟨rfl, rfl⟩
  | cons action actions ih =>
      obtain ⟨handle, dev⟩ := perform_rest d action
      obtain ⟨handles, devs⟩ := ih (perform answer mscEp0Call d action)
      exact ⟨handles.trans handle, devs.trans dev⟩

/-- Calls that leave endpoint zero alone. -/
def Quiet (actions : List Msc.Action) : Prop := ∀ action ∈ actions, mscEp0Call action = none

theorem Quiet.cons {action : Msc.Action} {actions : List Msc.Action}
    (first : mscEp0Call action = none) (rest : Quiet actions) : Quiet (action :: actions) :=
  List.forall_mem_cons.mpr ⟨first, rest⟩

theorem Quiet.nil : Quiet [] := nofun

theorem Quiet.small {actions : List Msc.Action} (quiet : Quiet actions) :
    AllSmall mscEp0Call (actions.map .byClass) := by
  intro action member
  obtain ⟨made, inside, rfl⟩ := List.mem_map.mp member
  intro data call
  rw [quiet made inside] at call
  cases call

theorem Quiet.effects {actions : List Msc.Action} (quiet : Quiet actions) :
    (actions.map .byClass).filterMap effect = [] := by
  induction actions with
  | nil => rfl
  | cons action actions ih =>
      obtain ⟨first, rest⟩ := List.forall_mem_cons.mp quiet
      simp [effect, first, ih rest]

section

open Msc

variable (info : SdDevInfo) (xferCount : UInt32) (sd : SdOutcome) (s : MscState)

theorem quiet_armCbw : Quiet (mscArmCbw s).2 := .cons rfl .nil

theorem quiet_sendCsw (status : UInt8) : Quiet (mscSendCsw status s).2 := .cons rfl .nil

theorem quiet_fail (key asc : UInt8) : Quiet (mscFail key asc s).2 := quiet_sendCsw _ _

theorem quiet_sendData (data : List UInt8) : Quiet (mscSendData data s).2 := .cons rfl .nil

theorem quiet_continueRead : Quiet (mscContinueRead sd s).2 := by
  unfold mscContinueRead
  dsimp only
  split
  · exact .cons rfl (quiet_fail _ _ _)
  · exact .cons rfl (.cons rfl .nil)

theorem quiet_armWriteChunk : Quiet (mscArmWriteChunk s).2 := .cons rfl .nil

theorem quiet_dispatchIo {start : MscState → MscState × List Action}
    (quiet : ∀ s, Quiet (start s).2) : Quiet (mscDispatchIo info start s).2 := by
  unfold mscDispatchIo
  split
  · exact quiet_sendCsw _ _
  · split
    · exact quiet_fail _ _ _
    · exact quiet _

theorem quiet_cmdDispatch : Quiet (mscCmdDispatch info sd s).2 := by
  unfold mscCmdDispatch
  cases Scsi.ofByte (s.cbw.cb 0) with
  | none => exact quiet_fail _ _ _
  | some scsi =>
      cases scsi with
      | read10 => exact quiet_dispatchIo info s fun s => quiet_continueRead sd s
      | write10 => exact quiet_dispatchIo info s fun s => quiet_armWriteChunk s
      | testUnitReady | startStop | mediumRemoval => exact quiet_sendCsw _ _
      | _ => exact quiet_sendData _ _

theorem quiet_init : Quiet (mscInit s).2 := .cons rfl (.cons rfl (quiet_armCbw _))

theorem quiet_dataIn (epnum : UInt8) : Quiet (mscDataIn epnum sd s).2 := by
  unfold mscDataIn
  split
  · exact .nil
  · cases s.botState with
    | dataIn =>
        dsimp only
        split
        · exact quiet_continueRead sd s
        · exact quiet_sendCsw _ _
    | csw => exact quiet_armCbw s
    | _ => exact .nil

theorem quiet_dataOut (epnum : UInt8) : Quiet (mscDataOut info epnum xferCount sd s).2 := by
  unfold mscDataOut
  split
  · exact .nil
  · cases s.botState with
    | idle =>
        dsimp only
        split
        · exact quiet_cmdDispatch info sd s
        · exact quiet_fail _ _ _
    | dataOut =>
        dsimp only
        split
        · exact .cons rfl (quiet_fail _ _ _)
        · dsimp only
          split
          · exact .cons rfl (quiet_armWriteChunk _)
          · exact .cons rfl (quiet_sendCsw _ _)
    | _ => exact .nil

/-- A request of the class type. -/
def IsClassReq (req : UsbSetupReq) : Prop := req.bmRequest &&& 0x60 = 0x20

instance (req : UsbSetupReq) : Decidable (IsClassReq req) :=
  inferInstanceAs (Decidable (_ = _))

theorem mscSetup_calls (req : UsbSetupReq) :
    (mscSetup ⟨req.bmRequest, req.bRequest⟩ s).2 =
      if IsClassReq req ∧ req.bRequest = 0xFE then [.transmitEp0 [0]]
      else if IsClassReq req ∧ req.bRequest = 0xFF then [.receive .cbw cbwLength]
      else [.ctlError] := by
  unfold mscSetup
  by_cases isClass : IsClassReq req
  · have same : req.bmRequest &&& 0x60 = 0x20 := isClass
    by_cases lun : req.bRequest = 0xFE
    · simp [isClass, same, lun]
    · by_cases reset : req.bRequest = 0xFF
      · simp [isClass, same, reset, mscArmCbw]
      · simp [same, lun, reset]
  · have other : ¬ req.bmRequest &&& 0x60 = 0x20 := isClass
    simp [isClass, other]

theorem mscSmall : SmallClass mscEp0Call (mscClass info xferCount sd) where
  init _ s := (quiet_init s).small
  deInit _ _ := Quiet.nil.small
  setup req s := by
    have calls := mscSetup_calls s req
    simp only [mscClass]
    rw [calls]
    intro action member
    obtain ⟨made, inside, rfl⟩ := List.mem_map.mp member
    intro data call
    have short : data = [0] := by
      split at inside
      · cases List.mem_singleton.mp inside
        cases call
        rfl
      · split at inside
        · cases List.mem_singleton.mp inside
          cases call
        · cases List.mem_singleton.mp inside
          cases call
    rw [short]
    decide
  dataIn epnum s := (quiet_dataIn sd s epnum).small
  dataOut epnum s := (quiet_dataOut info xferCount sd s epnum).small

end

/-! ### Requests -/

/-- The data stage, if any, is to the host. -/
def DirIn (req : UsbSetupReq) : Prop := req.bmRequest &&& 0x80 ≠ 0

instance (req : UsbSetupReq) : Decidable (DirIn req) := inferInstanceAs (Decidable (_ ≠ _))

def HasAddress (h : UsbHandle) : Prop := h.devState = .addressed ∨ h.devState = .configured

instance (h : UsbHandle) : Decidable (HasAddress h) := inferInstanceAs (Decidable (_ ∨ _))

/-- A SET_CONFIGURATION that is taken. -/
def SetsConfig (h : UsbHandle) (req : UsbSetupReq) : Prop :=
  lobyte req.value ≤ usbdMaxNumConfiguration ∧ HasAddress h

instance (h : UsbHandle) (req : UsbSetupReq) : Decidable (SetsConfig h req) :=
  inferInstanceAs (Decidable (_ ∧ _))

/-- A SET_ADDRESS that is taken. -/
def SetsAddress (h : UsbHandle) (req : UsbSetupReq) : Prop :=
  req.index = 0 ∧ req.length = 0 ∧ h.devState = .default

instance (h : UsbHandle) (req : UsbSetupReq) : Decidable (SetsAddress h req) :=
  inferInstanceAs (Decidable (_ ∧ _ ∧ _))

/-- What `usb_core_get_status` sends. -/
def statusBytes (h : UsbHandle) : List UInt8 := [if h.devRemoteWakeup ≠ 0 then 3 else 1, 0]

/-- The effects of a request of the class, with those of the core behind it. -/
def interfaceEffects (req : UsbSetupReq) : List Effect :=
  (if IsClassReq req ∧ req.bRequest = 0xFE then [.send [0]]
    else if IsClassReq req ∧ req.bRequest = 0xFF then []
    else [.setStall .dirOut]) ++ if req.length = 0 then [.send []] else []

/-- The effects of a request on endpoint zero. -/
def requestEffects (h : UsbHandle) (req : UsbSetupReq) : List Effect :=
  if req.recipient = 0 then
    if req.bRequest = 0x06 then
      match h.desc req.value with
      | none => [.setStall .dirOut]
      | some pbuf =>
          if pbuf ≠ [] ∧ req.length ≠ 0 then [.send (pbuf.take req.length.toNat)] else []
    else if req.bRequest = 0x09 then
      if SetsConfig h req then [.send []] else [.setStall .dirOut]
    else if req.bRequest = 0x00 then
      if HasAddress h then [.send (statusBytes h)] else [.setStall .dirOut]
    else if req.bRequest = 0x05 then
      if SetsAddress h req then [.send []] else [.setStall .dirOut]
    else [.setStall .dirOut]
  else if req.recipient = 1 then
    if ReachesClass h req then interfaceEffects req else [.setStall .dirOut]
  else [.setStall (if DirIn req then .dirIn else .dirOut)]

section

variable (info : SdDevInfo) (xferCount : UInt32) (sd : SdOutcome) (s : Msc.MscState)
  (h : UsbHandle) (req : UsbSetupReq)

theorem effects_setConfig :
    (usbCoreSetConfig (Msc.mscClass info xferCount sd) req h s).actions.filterMap effect =
      if SetsConfig h req then [.send []] else [.setStall .dirOut] := by
  unfold usbCoreSetConfig
  dsimp only
  by_cases outside : lobyte req.value > usbdMaxNumConfiguration
  · rw [if_pos outside, if_neg fun sets => UInt8.not_lt.mpr sets.1 outside]
    rfl
  · have inside : lobyte req.value ≤ usbdMaxNumConfiguration := UInt8.not_lt.mp outside
    rw [if_neg outside]
    cases state : h.devState with
    | addressed =>
        have sets : SetsConfig h req := ⟨inside, .inl state⟩
        dsimp only
        rw [if_pos sets]
        split <;> rfl
    | configured =>
        have sets : SetsConfig h req := ⟨inside, .inr state⟩
        dsimp only
        rw [if_pos sets]
        split
        · rfl
        · split <;> rfl
    | _ =>
        have refused : ¬ SetsConfig h req := fun sets => by
          simp [SetsConfig, HasAddress, state] at sets
        rw [if_neg refused]
        rfl

theorem effects_getStatus :
    (usbCoreGetStatus h s : Handled Msc.MscState Msc.Action).actions.filterMap effect =
      if HasAddress h then [.send (statusBytes h)] else [.setStall .dirOut] := by
  unfold usbCoreGetStatus
  by_cases has : HasAddress h
  · rw [if_neg fun neither => has.elim neither.1 neither.2, if_pos has]
    rfl
  · rw [if_pos (not_or.mp has), if_neg has]
    rfl

theorem effects_setAddress :
    (usbCoreSetAddress req h s : Handled Msc.MscState Msc.Action).actions.filterMap effect =
      if SetsAddress h req then [.send []] else [.setStall .dirOut] := by
  unfold usbCoreSetAddress
  by_cases plain : req.index = 0 ∧ req.length = 0
  · rw [if_neg fun either => either.elim (· plain.1) (· plain.2)]
    by_cases state : h.devState = .default
    · have sets : SetsAddress h req := ⟨plain.1, plain.2, state⟩
      rw [if_neg (not_not_intro state), if_pos sets]
      rfl
    · have refused : ¬ SetsAddress h req := fun sets => state sets.2.2
      rw [if_pos state, if_neg refused]
      rfl
  · have refused : ¬ SetsAddress h req := fun sets => plain ⟨sets.1, sets.2.1⟩
    have either : req.index ≠ 0 ∨ req.length ≠ 0 := by simpa only [not_and_or] using plain
    rw [if_pos either, if_neg refused]
    rfl

theorem effects_devReq (device : req.recipient = 0) :
    (usbCoreDevReq (Msc.mscClass info xferCount sd) req h s).actions.filterMap effect =
      requestEffects h req := by
  unfold requestEffects usbCoreDevReq
  rw [if_pos device]
  split
  · unfold usbCoreGetDesc
    cases h.desc req.value with
    | none => rfl
    | some pbuf =>
        dsimp only
        split <;> rfl
  · split
    · exact effects_setConfig info xferCount sd s h req
    · split
      · exact effects_getStatus s h
      · split
        · exact effects_setAddress s h req
        · rfl

theorem effects_itfReq (interface : req.recipient = 1) :
    (usbCoreItfReq (Msc.mscClass info xferCount sd) req h s).actions.filterMap effect =
      if ReachesClass h req then interfaceEffects req else [.setStall .dirOut] := by
  unfold usbCoreItfReq
  by_cases configured : h.devState = .configured
  · by_cases inRange : lobyte req.index ≤ usbdMaxNumInterfaces
    · have calls := mscSetup_calls s req
      have reaches : ReachesClass h req := ⟨interface, configured, inRange⟩
      rw [if_neg (not_not_intro configured), if_pos inRange, if_pos reaches]
      simp only [Msc.mscClass]
      rw [calls, List.filterMap_append, interfaceEffects]
      congr 1
      · split
        · rfl
        · split <;> rfl
      · split <;> rfl
    · have refused : ¬ ReachesClass h req := fun reaches => inRange reaches.2.2
      rw [if_neg (not_not_intro configured), if_neg inRange, if_neg refused]
      rfl
  · have refused : ¬ ReachesClass h req := fun reaches => configured reaches.2.1
    rw [if_pos configured, if_neg refused]
    rfl

theorem dirIn_mask (bmRequest : UInt8) :
    bmRequest &&& 0x80 &&& 0x80 = 0x80 ↔ bmRequest &&& 0x80 ≠ 0 := by
  have all : ∀ x : BitVec 8, x &&& 0x80#8 &&& 0x80#8 = 0x80#8 ↔ x &&& 0x80#8 ≠ 0#8 := by decide
  rw [← UInt8.toBitVec_inj, ne_eq, ← UInt8.toBitVec_inj]
  exact all bmRequest.toBitVec

theorem effects_setup :
    (usbCoreHandleIt (Msc.mscClass info xferCount sd) (.setup req) h s).actions.filterMap effect =
      requestEffects h req := by
  unfold usbCoreHandleIt usbCoreSetupStage
  dsimp only
  by_cases device : req.recipient = 0
  · rw [if_pos device]
    exact effects_devReq info xferCount sd s h req device
  · rw [if_neg device, requestEffects, if_neg device]
    by_cases interface : req.recipient = 1
    · rw [if_pos interface, if_pos interface]
      exact effects_itfReq info xferCount sd s h req interface
    · rw [if_neg interface, if_neg interface]
      have mask := dirIn_mask req.bmRequest
      by_cases dirIn : DirIn req
      · simp [effect, mask.mpr dirIn, dirIn]
      · have low : ¬ req.bmRequest &&& 0x80 &&& 0x80 = 0x80 := fun all => dirIn (mask.mp all)
        simp [effect, low, dirIn]

end

end Mp257Fsbl.Usb.Control
