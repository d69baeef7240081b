/-
Module: Mp257Fsbl.Usb.Core
Purpose: The device core of usb_device.c: the device states, the control requests
  and the upcalls to a class.
Trusted boundary: human-reviewed model of usb_device.c
Main exports: UsbHandle, UsbClass, UsbAction, usbCoreHandleIt, StartsClass,
  StopsClass, ReachesClass, handleIt_of_starts, handleIt_of_reaches,
  handleIt_of_neither
-/
import Mathlib.Init

namespace Mp257Fsbl.Usb

def usbdMaxNumInterfaces : UInt8 := 1
def usbdMaxNumConfiguration : UInt8 := 1

/-- `USBD_STATE_*`; a member that nothing has written yet holds none of them. -/
inductive DevState where
  | unset
  | default
  | addressed
  | configured
  | suspended
deriving Repr, DecidableEq

/-- `enum pcd_lpm_state`. -/
inductive LpmState where
  | l0
  | l1
  | l2
  | l3
deriving Repr, DecidableEq

/-- `struct usb_setup_req`. -/
structure UsbSetupReq where
  bmRequest : UInt8
  bRequest : UInt8
  value : UInt16
  index : UInt16
  length : UInt16
deriving Repr, DecidableEq

/-- `LOBYTE`. -/
def lobyte (x : UInt16) : UInt8 := x.toUInt8

/-- The members of `struct usb_handle`, and of the PCD handle behind it, that the
core's decisions read. `desc` is what the descriptor callbacks return for the
value of a request; `none` is a request that no callback serves. -/
structure UsbHandle where
  devState : DevState
  devOldState : DevState
  devConfig : UInt32
  devRemoteWakeup : UInt32
  lpmState : LpmState
  desc : UInt16 → Option (List UInt8)

/-- The handle after `register_usb_driver` and `register_platform`. -/
def UsbHandle.registered (desc : UInt16 → Option (List UInt8)) : UsbHandle where
  devState := .default
  devOldState := .unset
  devConfig := 0
  devRemoteWakeup := 0
  lpmState := .l0
  desc := desc

/-- `struct usb_class` without the callbacks that are null here: functions of the
class's own state, with what they do outside it. -/
structure UsbClass (σ : Type) (α : Type) where
  init : UInt8 → σ → UInt8 × σ × List α
  deInit : UInt8 → σ → σ × List α
  setup : UsbSetupReq → σ → σ × List α
  dataIn : UInt8 → σ → σ × List α
  dataOut : UInt8 → σ → σ × List α

/-- What a call of the core does outside its state. -/
inductive CoreAction (α : Type) where
  /-- Done by a callback of the class. -/
  | byClass (action : α)
  | transmitEp0 (data : List UInt8)
  | ctlError
  | setStall (epAddr : UInt8)
  | setAddress (address : UInt8)
deriving Repr, DecidableEq

/-- Where a call of the core leaves its handle and the class. -/
structure Handled (σ : Type) (α : Type) where
  handle : UsbHandle
  dev : σ
  actions : List (CoreAction α)

variable {σ : Type} {α : Type}

/-- What the class has done in a call. -/
def classActions (actions : List (CoreAction α)) : List α :=
  actions.filterMap fun
    | .byClass action => some action
    | _ => none

@[simp] theorem classActions_nil : classActions ([] : List (CoreAction α)) = [] := rfl

@[simp] theorem classActions_append (front back : List (CoreAction α)) :
    classActions (front ++ back) = classActions front ++ classActions back :=
  List.filterMap_append

@[simp] theorem classActions_byClass (actions : List α) :
    classActions (actions.map .byClass) = actions := by
  induction actions with
  | nil => rfl
  | cons action actions ih => exact congrArg (action :: ·) ih

@[simp] theorem classActions_cons_transmitEp0 (data : List UInt8) (rest : List (CoreAction α)) :
    classActions (.transmitEp0 data :: rest) = classActions rest := rfl

@[simp] theorem classActions_cons_ctlError (rest : List (CoreAction α)) :
    classActions (.ctlError :: rest) = classActions rest := rfl

@[simp] theorem classActions_cons_setStall (epAddr : UInt8) (rest : List (CoreAction α)) :
    classActions (.setStall epAddr :: rest) = classActions rest := rfl

@[simp] theorem classActions_cons_setAddress (address : UInt8) (rest : List (CoreAction α)) :
    classActions (.setAddress address :: rest) = classActions rest := rfl

/-! ### Standard device requests -/

def usbCoreCtlError (h : UsbHandle) (s : σ) : Handled σ α := ⟨h, s, [.ctlError]⟩

/-- The zero-length status stage. -/
def usbCoreSendStatus (h : UsbHandle) (s : σ) : Handled σ α := ⟨h, s, [.transmitEp0 []]⟩

def usbCoreGetDesc (req : UsbSetupReq) (h : UsbHandle) (s : σ) : Handled σ α :=
  match h.desc req.value with
  | none => usbCoreCtlError h s
  | some pbuf =>
      if pbuf ≠ [] ∧ req.length ≠ 0 then ⟨h, s, [.transmitEp0 (pbuf.take req.length.toNat)]⟩
      else ⟨h, s, []⟩

/-- The start of the class at the end of the two branches that configure. -/
def usbCoreStartClass (cls : UsbClass σ α) (cfgidx : UInt8) (h : UsbHandle) (s : σ) :
    Handled σ α :=
  let (status, started, actions) := cls.init cfgidx s
  ⟨h, started, actions.map .byClass ++ if status ≠ 0 then [.ctlError] else [.transmitEp0 []]⟩

def usbCoreSetConfig (cls : UsbClass σ α) (req : UsbSetupReq) (h : UsbHandle) (s : σ) :
    Handled σ α :=
  let cfgidx := lobyte req.value
  if cfgidx > usbdMaxNumConfiguration then usbCoreCtlError h s
  else
    match h.devState with
    | .addressed =>
        if cfgidx ≠ 0 then
          usbCoreStartClass cls cfgidx
            { h with devConfig := cfgidx.toUInt32, devState := .configured } s
        else usbCoreSendStatus h s
    | .configured =>
        if cfgidx = 0 then
          let closed := cls.deInit cfgidx s
          ⟨{ h with devState := .addressed, devConfig := cfgidx.toUInt32 }, closed.1,
            closed.2.map .byClass ++ [.transmitEp0 []]⟩
        else if cfgidx.toUInt32 ≠ h.devConfig then
          -- clear the old configuration, then set the new one
          let closed := cls.deInit h.devConfig.toUInt8 s
          let started :=
            usbCoreStartClass cls cfgidx { h with devConfig := cfgidx.toUInt32 } closed.1
          { started with actions := closed.2.map .byClass ++ started.actions }
        else usbCoreSendStatus h s
    | .unset | .default | .suspended => usbCoreCtlError h s

def usbCoreGetStatus (h : UsbHandle) (s : σ) : Handled σ α :=
  if h.devState ≠ .addressed ∧ h.devState ≠ .configured then usbCoreCtlError h s
  else ⟨h, s, [.transmitEp0 [if h.devRemoteWakeup ≠ 0 then 3 else 1, 0]]⟩

def usbCoreSetAddress (req : UsbSetupReq) (h : UsbHandle) (s : σ) : Handled σ α :=
  if req.index ≠ 0 ∨ req.length ≠ 0 then usbCoreCtlError h s
  else if h.devState ≠ .default then usbCoreCtlError h s
  else
    let devAddr := (req.value &&& 0x7F).toUInt8
    ⟨{ h with devState := if devAddr ≠ 0 then .addressed else .default }, s,
      [.setAddress devAddr, .transmitEp0 []]⟩

def usbCoreDevReq (cls : UsbClass σ α) (req : UsbSetupReq) (h : UsbHandle) (s : σ) :
    Handled σ α :=
  if req.bRequest = 0x06 then usbCoreGetDesc req h s
  else if req.bRequest = 0x09 then usbCoreSetConfig cls req h s
  else if req.bRequest = 0x00 then usbCoreGetStatus h s
  else if req.bRequest = 0x05 then usbCoreSetAddress req h s
  else usbCoreCtlError h s

def usbCoreItfReq (cls : UsbClass σ α) (req : UsbSetupReq) (h : UsbHandle) (s : σ) :
    Handled σ α :=
  if h.devState ≠ .configured then usbCoreCtlError h s
  else if lobyte req.index ≤ usbdMaxNumInterfaces then
    let served := cls.setup req s
    ⟨h, served.1,
      served.2.map .byClass ++ if req.length = 0 then [.transmitEp0 []] else []⟩
  else usbCoreCtlError h s

/-- `USB_REQ_RECIPIENT_*` under its mask. -/
def UsbSetupReq.recipient (req : UsbSetupReq) : UInt8 := req.bmRequest &&& 0x1F

def usbCoreSetupStage (cls : UsbClass σ α) (req : UsbSetupReq) (h : UsbHandle) (s : σ) :
    Handled σ α :=
  if req.recipient = 0 then usbCoreDevReq cls req h s
  else if req.recipient = 1 then usbCoreItfReq cls req h s
  else ⟨h, s, [.setStall (req.bmRequest &&& 0x80)]⟩

/-! ### Events -/

/-- `usb_core_data_out` on an endpoint other than zero. -/
def usbCoreDataOut (cls : UsbClass σ α) (epnum : UInt8) (h : UsbHandle) (s : σ) :
    Handled σ α :=
  if h.devState = .configured then
    let served := cls.dataOut epnum s
    ⟨h, served.1, served.2.map .byClass⟩
  else ⟨h, s, []⟩

/-- `usb_core_data_in` on an endpoint other than zero. -/
def usbCoreDataIn (cls : UsbClass σ α) (epnum : UInt8) (h : UsbHandle) (s : σ) :
    Handled σ α :=
  if h.devState = .configured then
    let served := cls.dataIn epnum s
    ⟨h, served.1, served.2.map .byClass⟩
  else ⟨h, s, []⟩

def usbCoreSuspend (h : UsbHandle) : UsbHandle :=
  { h with devOldState := h.devState, devState := .suspended }

def usbCoreResume (h : UsbHandle) : UsbHandle := { h with devState := h.devOldState }

def usbCoreDisconnect (cls : UsbClass σ α) (h : UsbHandle) (s : σ) : Handled σ α :=
  let closed := cls.deInit h.devConfig.toUInt8 s
  ⟨{ h with devState := .default }, closed.1, closed.2.map .byClass⟩

/-- `enum usb_action`, as far as the interrupt handler of the driver returns it;
the data stages are those of the endpoints other than zero. -/
inductive UsbAction where
  | nothing
  | dataOut (epnum : UInt8)
  | dataIn (epnum : UInt8)
  | setup (req : UsbSetupReq)
  | enumDone
  | reset
  | resume
  | suspend
  | lpm
  | disconnect
deriving Repr, DecidableEq

def usbCoreHandleIt (cls : UsbClass σ α) (action : UsbAction) (h : UsbHandle) (s : σ) :
    Handled σ α :=
  match action with
  | .dataOut epnum => usbCoreDataOut cls epnum h s
  | .dataIn epnum => usbCoreDataIn cls epnum h s
  | .setup req => usbCoreSetupStage cls req h s
  | .reset => ⟨{ h with devState := .default }, s, []⟩
  | .resume =>
      if h.lpmState = .l1 then ⟨{ h with lpmState := .l0 }, s, []⟩
      else ⟨usbCoreResume h, s, []⟩
  | .suspend => ⟨usbCoreSuspend h, s, []⟩
  | .lpm =>
      if h.lpmState = .l0 then ⟨{ h with lpmState := .l1 }, s, []⟩
      else ⟨usbCoreSuspend h, s, []⟩
  | .disconnect => usbCoreDisconnect cls h s
  | .nothing | .enumDone => ⟨h, s, []⟩

/-- The endpoint of a completed transfer. -/
def UsbAction.endpoint : UsbAction → Option UInt8
  | .dataOut epnum | .dataIn epnum => some epnum
  | _ => none

/-! ### What a control event does to the class -/

/-- A SET_CONFIGURATION that starts the class. -/
def StartsClass (h : UsbHandle) (req : UsbSetupReq) : Prop :=
  req.recipient = 0 ∧ req.bRequest = 0x09 ∧ lobyte req.value ≠ 0 ∧
    lobyte req.value ≤ usbdMaxNumConfiguration ∧
    (h.devState = .addressed ∨
      (h.devState = .configured ∧ (lobyte req.value).toUInt32 ≠ h.devConfig))

instance (h : UsbHandle) (req : UsbSetupReq) : Decidable (StartsClass h req) :=
  inferInstanceAs (Decidable (_ ∧ _ ∧ _ ∧ _ ∧ _))

/-- A SET_CONFIGURATION that stops the class and leaves it stopped. -/
def StopsClass (h : UsbHandle) (req : UsbSetupReq) : Prop :=
  req.recipient = 0 ∧ req.bRequest = 0x09 ∧ lobyte req.value = 0 ∧ h.devState = .configured

instance (h : UsbHandle) (req : UsbSetupReq) : Decidable (StopsClass h req) :=
  inferInstanceAs (Decidable (_ ∧ _ ∧ _ ∧ _))

/-- A request that the core hands to the class. -/
def ReachesClass (h : UsbHandle) (req : UsbSetupReq) : Prop :=
  req.recipient = 1 ∧ h.devState = .configured ∧ lobyte req.index ≤ usbdMaxNumInterfaces

instance (h : UsbHandle) (req : UsbSetupReq) : Decidable (ReachesClass h req) :=
  inferInstanceAs (Decidable (_ ∧ _ ∧ _))

section Control

variable (cls : UsbClass σ α) {req : UsbSetupReq} {h : UsbHandle} (s : σ)

/-- Where the class is when a configuration starts it: untouched, or stopped by
the change of configuration. -/
def Stopped (result : σ × List α) : Prop :=
  result = (s, []) ∨ ∃ cfgidx, result = cls.deInit cfgidx s

theorem startClass_dev (cfgidx : UInt8) :
    (usbCoreStartClass cls cfgidx h s).dev = (cls.init cfgidx s).2.1 := rfl

theorem startClass_actions (cfgidx : UInt8) :
    classActions (usbCoreStartClass cls cfgidx h s).actions = (cls.init cfgidx s).2.2 := by
  simp only [usbCoreStartClass, classActions_append, classActions_byClass]
  split <;> simp

theorem handleIt_of_starts (starts : StartsClass h req) :
    ∃ stopped, Stopped cls s stopped ∧
      (usbCoreHandleIt cls (.setup req) h s).dev =
        (cls.init (lobyte req.value) stopped.1).2.1 ∧
      classActions (usbCoreHandleIt cls (.setup req) h s).actions =
        stopped.2 ++ (cls.init (lobyte req.value) stopped.1).2.2 := by
  obtain ⟨device, request, nonzero, inRange, from_⟩ := starts
  have handled : usbCoreHandleIt cls (.setup req) h s = usbCoreSetConfig cls req h s := by
    simp [usbCoreHandleIt, usbCoreSetupStage, device, usbCoreDevReq, request]
  have inside : ¬ lobyte req.value > usbdMaxNumConfiguration := UInt8.not_lt.mpr inRange
  rw [handled]
  rcases from_ with addressed | ⟨configured, changes⟩
  · refine ⟨(s, []), .inl rfl, ?_, ?_⟩
    · simp [usbCoreSetConfig, inside, addressed, nonzero, startClass_dev]
    · simp [usbCoreSetConfig, inside, addressed, nonzero, startClass_actions]
  · refine ⟨cls.deInit h.devConfig.toUInt8 s, .inr ⟨_, rfl⟩, ?_, ?_⟩
    · simp [usbCoreSetConfig, inside, configured, nonzero, changes, startClass_dev]
    · simp [usbCoreSetConfig, inside, configured, nonzero, changes, startClass_actions]

theorem handleIt_of_reaches (reaches : ReachesClass h req) :
    (usbCoreHandleIt cls (.setup req) h s).dev = (cls.setup req s).1 ∧
      classActions (usbCoreHandleIt cls (.setup req) h s).actions = (cls.setup req s).2 := by
  obtain ⟨interface, configured, inRange⟩ := reaches
  have handled : usbCoreHandleIt cls (.setup req) h s = usbCoreItfReq cls req h s := by
    simp [usbCoreHandleIt, usbCoreSetupStage, interface]
  rw [handled]
  constructor
  · simp [usbCoreItfReq, configured, inRange]
  · simp only [usbCoreItfReq, configured, ne_eq, not_true_eq_false, if_false, inRange, if_true,
      classActions_append, classActions_byClass]
    split <;> simp

/-- What the class has undergone in a call. -/
def Handled.classResult (handled : Handled σ α) : σ × List α :=
  (handled.dev, classActions handled.actions)

theorem stopped_ctlError : Stopped cls s (usbCoreCtlError h s).classResult := .inl rfl

theorem stopped_sendStatus : Stopped cls s (usbCoreSendStatus h s).classResult := .inl rfl

theorem setConfig_of_not_starts (device : req.recipient = 0) (request : req.bRequest = 0x09)
    (not_started : ¬ StartsClass h req) :
    Stopped cls s (usbCoreSetConfig cls req h s).classResult := by
  by_cases outside : lobyte req.value > usbdMaxNumConfiguration
  · simpa only [usbCoreSetConfig, outside, if_true] using stopped_ctlError cls s
  · have inside : lobyte req.value ≤ usbdMaxNumConfiguration := UInt8.not_lt.mp outside
    simp only [usbCoreSetConfig, outside, if_false]
    cases state : h.devState
    case addressed =>
      by_cases zero : lobyte req.value = 0
      · simpa only [ne_eq, zero, not_true_eq_false, if_false] using stopped_sendStatus cls s
      · exact absurd ⟨device, request, zero, inside, .inl state⟩ not_started
    case configured =>
      by_cases zero : lobyte req.value = 0
      · refine .inr ⟨lobyte req.value, ?_⟩
        simp [zero, Handled.classResult]
      · by_cases changes : (lobyte req.value).toUInt32 ≠ h.devConfig
        · exact absurd ⟨device, request, zero, inside, .inr ⟨state, changes⟩⟩ not_started
        · simpa only [zero, if_false, changes] using stopped_sendStatus cls s
    all_goals exact stopped_ctlError cls s

theorem devReq_of_not_starts (device : req.recipient = 0) (not_started : ¬ StartsClass h req) :
    Stopped cls s (usbCoreDevReq cls req h s).classResult := by
  unfold usbCoreDevReq
  split
  · unfold usbCoreGetDesc
    split
    · exact stopped_ctlError cls s
    · split <;> exact .inl rfl
  · split
    · rename_i request
      exact setConfig_of_not_starts cls s device request not_started
    · split
      · unfold usbCoreGetStatus
        split <;> exact .inl rfl
      · split
        · unfold usbCoreSetAddress
          split
          · exact stopped_ctlError cls s
          · split <;> exact .inl rfl
        · exact stopped_ctlError cls s

theorem setupStage_of_neither (not_started : ¬ StartsClass h req)
    (not_reached : ¬ ReachesClass h req) :
    Stopped cls s (usbCoreSetupStage cls req h s).classResult := by
  unfold usbCoreSetupStage
  split
  · rename_i device
    exact devReq_of_not_starts cls s device not_started
  · split
    · rename_i interface
      unfold usbCoreItfReq
      split
      · exact stopped_ctlError cls s
      · rename_i configured
        split
        · rename_i inRange
          exact absurd ⟨interface, Decidable.of_not_not configured, inRange⟩ not_reached
        · exact stopped_ctlError cls s
    · exact .inl rfl

/-- Every other control event leaves the class alone, or stops it. -/
theorem handleIt_of_neither {action : UsbAction} (control : action.endpoint = none)
    (not_started : ∀ req, action = .setup req → ¬ StartsClass h req)
    (not_reached : ∀ req, action = .setup req → ¬ ReachesClass h req) :
    Stopped cls s (usbCoreHandleIt cls action h s).classResult := by
  cases action with
  | dataOut epnum => cases control
  | dataIn epnum => cases control
  | setup req => exact setupStage_of_neither cls s (not_started req rfl) (not_reached req rfl)
  | reset => exact .inl rfl
  | suspend => exact .inl rfl
  | nothing => exact .inl rfl
  | enumDone => exact .inl rfl
  | resume =>
      unfold usbCoreHandleIt
      dsimp only
      split <;> exact .inl rfl
  | lpm =>
      unfold usbCoreHandleIt
      dsimp only
      split <;> exact .inl rfl
  | disconnect =>
      refine .inr ⟨h.devConfig.toUInt8, ?_⟩
      simp [usbCoreHandleIt, usbCoreDisconnect, Handled.classResult]

/-- A transfer that completes while the device is not configured is dropped. -/
theorem dataOut_of_not_configured (epnum : UInt8) (other : h.devState ≠ .configured) :
    usbCoreHandleIt cls (.dataOut epnum) h s = ⟨h, s, []⟩ := if_neg other

theorem dataIn_of_not_configured (epnum : UInt8) (other : h.devState ≠ .configured) :
    usbCoreHandleIt cls (.dataIn epnum) h s = ⟨h, s, []⟩ := if_neg other

theorem dataOut_of_configured (epnum : UInt8) (configured : h.devState = .configured) :
    usbCoreHandleIt cls (.dataOut epnum) h s =
      ⟨h, (cls.dataOut epnum s).1, (cls.dataOut epnum s).2.map .byClass⟩ := if_pos configured

theorem dataIn_of_configured (epnum : UInt8) (configured : h.devState = .configured) :
    usbCoreHandleIt cls (.dataIn epnum) h s =
      ⟨h, (cls.dataIn epnum s).1, (cls.dataIn epnum s).2.map .byClass⟩ := if_pos configured

end Control

end Mp257Fsbl.Usb
