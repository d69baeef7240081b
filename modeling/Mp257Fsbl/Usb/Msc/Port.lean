/-
Module: Mp257Fsbl.Usb.Msc.Port
Purpose: The class behind the device core: bulk completions, control requests
  and bus events in any order, with the transfers they leave outstanding.
Trusted boundary: human-reviewed model of the registration of `msc_class` and of
  the transfers that a bus reset ends
Main exports: mscClass, Armed, Port, PortEvent, PortStep
-/
import Mp257Fsbl.Usb.Core
import Mp257Fsbl.Usb.Msc.Bus

namespace Mp257Fsbl.Usb.Msc

open Mp257Fsbl.Foundation
open Mp257Fsbl.Sd

/-- `msc_class`, with what its callbacks read from outside their state. -/
def mscClass (info : SdDevInfo) (xferCount : UInt32) (sd : SdOutcome) :
    UsbClass MscState Action where
  init := fun _ s => (0, mscInit s)
  deInit := fun _ s => mscDeInit s
  setup := fun req s => mscSetup ⟨req.bmRequest, req.bRequest⟩ s
  dataIn := fun epnum s => mscDataIn epnum sd s
  dataOut := fun epnum s => mscDataOut info epnum xferCount sd s

/-! ### Outstanding transfers -/

/-- An outstanding transfer, with the number of the command that was the latest
when it was armed. -/
structure Armed where
  transfer : Transfer
  owner : Nat
deriving Repr, DecidableEq

def Transfer.isOut : Transfer → Bool
  | .bulkOut _ _ => true
  | .bulkIn _ _ => false

/-- The transfers outstanding on `MSC_EP_OUT`. -/
def outs (transfers : List Armed) : List Armed := transfers.filter (·.transfer.isOut)

/-- The transfers outstanding on `MSC_EP_IN`. -/
def ins (transfers : List Armed) : List Armed := transfers.filter (!·.transfer.isOut)

@[simp] theorem outs_nil : outs [] = [] := rfl

@[simp] theorem ins_nil : ins [] = [] := rfl

@[simp] theorem outs_append (front back : List Armed) :
    outs (front ++ back) = outs front ++ outs back := List.filter_append ..

@[simp] theorem ins_append (front back : List Armed) :
    ins (front ++ back) = ins front ++ ins back := List.filter_append ..

section Endpoints

variable (buffer : Buffer) (len : UInt32) (owner : Nat) (rest : List Armed)

@[simp] theorem outs_cons_out :
    outs (⟨.bulkOut buffer len, owner⟩ :: rest) = ⟨.bulkOut buffer len, owner⟩ :: outs rest := rfl

@[simp] theorem outs_cons_in : outs (⟨.bulkIn buffer len, owner⟩ :: rest) = outs rest := rfl

@[simp] theorem ins_cons_out : ins (⟨.bulkOut buffer len, owner⟩ :: rest) = ins rest := rfl

@[simp] theorem ins_cons_in :
    ins (⟨.bulkIn buffer len, owner⟩ :: rest) = ⟨.bulkIn buffer len, owner⟩ :: ins rest := rfl

end Endpoints

/-- A transfer is on one of the two endpoints. -/
theorem eq_nil_of_endpoints {transfers : List Armed} (no_out : outs transfers = [])
    (no_in : ins transfers = []) : transfers = [] := by
  cases transfers with
  | nil => rfl
  | cons first rest =>
      obtain ⟨transfer, owner⟩ := first
      cases transfer with
      | bulkOut buffer len => simp at no_out
      | bulkIn buffer len => simp at no_in

/-- The transfers that a call of the core has armed for command `owner`. -/
def armedFor (owner : Nat) (actions : List Action) : List Armed :=
  (armed actions).map (⟨·, owner⟩)

/-! ### The port -/

/-- The device as the host sees it. The last three members record the history:
how many packets were taken in `BOT_IDLE`; whether the class has been restarted
and no packet has come since; and whether the packet after some restart was
dropped. -/
structure Port where
  handle : UsbHandle
  dev : MscState
  outstanding : List Armed
  served : Nat
  recovered : Bool
  missed : Bool

/-- The device after `register_usb_driver`, before anything on the bus. -/
def Port.boot (desc : UInt16 → Option (List UInt8)) (card : Store UInt8) : Port where
  handle := .registered desc
  dev := .boot card
  outstanding := []
  served := 0
  recovered := false
  missed := false

namespace Port

/-- The packet that comes now is taken as a command wrapper. -/
def TakesWrapper (p : Port) : Prop :=
  p.handle.devState = .configured ∧ p.dev.botState = .idle

instance (p : Port) : Decidable p.TakesWrapper := inferInstanceAs (Decidable (_ ∧ _))

/-- Completion of an OUT transfer that brought `bytes` and left the class as `dev`. -/
def outDone (info : SdDevInfo) (others : List Armed) (bytes : List UInt8) (dev : MscState)
    (sd : SdOutcome) (p : Port) : Port :=
  let served := if p.TakesWrapper then p.served + 1 else p.served
  let handled := usbCoreHandleIt (mscClass info (UInt32.ofNat bytes.length) sd)
    (.dataOut mscEpNum) p.handle dev
  { handle := handled.handle
    dev := handled.dev
    outstanding := others ++ armedFor served (classActions handled.actions)
    served := served
    recovered := false
    missed := p.missed || p.recovered && p.handle.devState != .configured }

/-- Completion of an IN transfer. -/
def inDone (info : SdDevInfo) (others : List Armed) (sd : SdOutcome) (p : Port) : Port :=
  let handled := usbCoreHandleIt (mscClass info 0 sd) (.dataIn mscEpNum) p.handle p.dev
  { p with
    handle := handled.handle
    dev := handled.dev
    outstanding := others ++ armedFor p.served (classActions handled.actions) }

end Port

/-- A BOT reset that reaches the class. -/
def BotReset (h : UsbHandle) (req : UsbSetupReq) : Prop :=
  ReachesClass h req ∧ req.bmRequest &&& 0x60 = 0x20 ∧ req.bRequest = 0xFF

instance (h : UsbHandle) (req : UsbSetupReq) : Decidable (BotReset h req) :=
  inferInstanceAs (Decidable (_ ∧ _ ∧ _))

/-- A request after which the class waits for a wrapper again. -/
def Restarts (h : UsbHandle) : UsbAction → Prop
  | .setup req => StartsClass h req ∨ BotReset h req
  | _ => False

instance (h : UsbHandle) : DecidablePred (Restarts h)
  | .setup _ => inferInstanceAs (Decidable (_ ∨ _))
  | .nothing | .dataOut _ | .dataIn _ | .enumDone | .reset | .resume | .suspend | .lpm
  | .disconnect => inferInstanceAs (Decidable False)

/-- An event after which the host has to configure the device again. -/
def Unconfigures (h : UsbHandle) : UsbAction → Prop
  | .setup req => StopsClass h req
  | .reset | .disconnect => True
  | _ => False

instance (h : UsbHandle) : DecidablePred (Unconfigures h)
  | .setup _ => inferInstanceAs (Decidable (StopsClass _ _))
  | .reset | .disconnect => inferInstanceAs (Decidable True)
  | .nothing | .dataOut _ | .dataIn _ | .enumDone | .resume | .suspend | .lpm =>
      inferInstanceAs (Decidable False)

/-- What the driver leaves outstanding when it reports an event: a bus reset
ends the transfers on all endpoints. -/
def kept (action : UsbAction) (outstanding : List Armed) : List Armed :=
  if action = .reset then [] else outstanding

/-- An event that completes no bulk transfer. -/
def Port.control (info : SdDevInfo) (action : UsbAction) (p : Port) : Port :=
  let handled := usbCoreHandleIt (mscClass info 0 .ok) action p.handle p.dev
  { p with
    handle := handled.handle
    dev := handled.dev
    outstanding :=
      kept action p.outstanding ++ armedFor p.served (classActions handled.actions)
    recovered :=
      if Restarts p.handle action then true
      else if Unconfigures p.handle action then false
      else p.recovered }

/-- What happens on the bus: an OUT transfer completes with the bytes received,
an IN transfer completes, or something else is reported to the core. -/
inductive PortEvent where
  | out (bytes : List UInt8) (sd : SdOutcome)
  | in_ (sd : SdOutcome)
  | control (action : UsbAction)

/-- Any outstanding transfer may complete, and any request or bus event may come
at any time. -/
inductive PortStep (behind : Behind) (info : SdDevInfo) : Step Port PortEvent where
  | out {p : Port} {before after : List Armed} {buffer : Buffer} {len : UInt32} {owner : Nat}
      {bytes : List UInt8} {sd : SdOutcome} {dev : MscState}
      (pending : p.outstanding = before ++ ⟨.bulkOut buffer len, owner⟩ :: after)
      (fits : bytes.length ≤ receiveLimit len)
      (delivered : p.dev.delivered behind buffer bytes = some dev) :
      PortStep behind info p (.out bytes sd) (p.outDone info (before ++ after) bytes dev sd)
  | in_ {p : Port} {before after : List Armed} {buffer : Buffer} {len : UInt32} {owner : Nat}
      {sd : SdOutcome}
      (pending : p.outstanding = before ++ ⟨.bulkIn buffer len, owner⟩ :: after) :
      PortStep behind info p (.in_ sd) (p.inDone info (before ++ after) sd)
  | control {p : Port} {action : UsbAction} (noTransfer : action.endpoint = none) :
      PortStep behind info p (.control action) (p.control info action)

end Mp257Fsbl.Usb.Msc
