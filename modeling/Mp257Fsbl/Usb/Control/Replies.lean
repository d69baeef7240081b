/-
Module: Mp257Fsbl.Usb.Control.Replies
Purpose: Which control requests the mass-storage device answers, and with what.
Trusted boundary: human-reviewed statement of what a proper reply is
Main exports: Reply, Reply.Suits, Replied, Unanswered, respond, setup_view,
  setup_answered_iff, reachable_listens
-/
import Mp257Fsbl.Usb.Control.Requests

namespace Mp257Fsbl.Usb.Control

open Mp257Fsbl.Foundation
open Mp257Fsbl.Sd

variable {answer : List EpCmd → EpCmd → CmdAnswer}

/-! ### Replies -/

/-- What the host gets for a request. -/
inductive Reply where
  | stall
  | ack
  | data (bytes : List UInt8)
deriving Repr, DecidableEq

def Reply.effect : Reply → Effect
  | .stall => .setStall .dirOut
  | .ack => .send []
  | .data bytes => .send bytes

/-- A reply in the stages of the request. -/
def Reply.Suits (req : UsbSetupReq) : Reply → Prop
  | .stall => True
  | .ack => req.length = 0
  | .data bytes =>
      req.length ≠ 0 ∧ DirIn req ∧ bytes ≠ [] ∧ bytes.length ≤ req.length.toNat

/-- The controller can give the host this reply: it has been told to stall and waits
for the next SETUP, or one transfer has been started for the stage that the host is
in. `inStarts` is how many were started before. -/
inductive Replied (req : UsbSetupReq) (inStarts : Nat) (v : Ep0View) : Reply → Prop where
  | stall (waits : v.ep0State = .setupQueued) (setup : v.outTrb = setupTrb)
      (stalled : v.stalled = true) (starts : v.inStarts = inStarts) :
      Replied req inStarts v .stall
  | ack (noData : req.length = 0) (busy : v.ep0State = .setupCompleted)
      (started : v.inTrb = { bp := .null, size := 0, ctl := .status2, hwo := true })
      (starts : v.inStarts = inStarts + 1) : Replied req inStarts v .ack
  | data {bytes : List UInt8} (suits : (Reply.data bytes).Suits req)
      (busy : v.ep0State = .setupCompleted)
      (started : v.inTrb =
        { bp := .data bytes, size := UInt32.ofNat bytes.length, ctl := .data, hwo := true })
      (starts : v.inStarts = inStarts + 1) : Replied req inStarts v (.data bytes)

/-- The requests that are not answered: none of the stages they have ends. -/
inductive Unanswered (h : UsbHandle) (req : UsbSetupReq) : Prop where
  | descriptor {pbuf : List UInt8} (device : req.recipient = 0) (request : req.bRequest = 0x06)
      (found : h.desc req.value = some pbuf)
      (unread : pbuf = [] ∨ req.length = 0 ∨ ¬ DirIn req)
  | configuration (device : req.recipient = 0) (request : req.bRequest = 0x09)
      (sets : SetsConfig h req) (unread : req.length ≠ 0)
  | status (device : req.recipient = 0) (request : req.bRequest = 0x00)
      (address : HasAddress h) (unread : req.length.toNat < 2 ∨ ¬ DirIn req)
  | maxLun (reaches : ReachesClass h req) (isClass : IsClassReq req)
      (request : req.bRequest = 0xFE) (unread : req.length = 0 ∨ ¬ DirIn req)
  | botReset (reaches : ReachesClass h req) (isClass : IsClassReq req)
      (request : req.bRequest = 0xFF) (unread : req.length ≠ 0)
  | unknown (reaches : ReachesClass h req)
      (refused : ¬ (IsClassReq req ∧ (req.bRequest = 0xFE ∨ req.bRequest = 0xFF)))
      (unread : req.length = 0)
  | endpoint (device : req.recipient ≠ 0) (interface : req.recipient ≠ 1) (inward : DirIn req)

/-- The reply to a request. -/
def respond (h : UsbHandle) (req : UsbSetupReq) : Reply :=
  if req.recipient = 0 then
    if req.bRequest = 0x06 then
      match h.desc req.value with
      | none => .stall
      | some pbuf => .data (pbuf.take req.length.toNat)
    else if req.bRequest = 0x09 then if SetsConfig h req then .ack else .stall
    else if req.bRequest = 0x00 then if HasAddress h then .data (statusBytes h) else .stall
    else if req.bRequest = 0x05 then if SetsAddress h req then .ack else .stall
    else .stall
  else if ReachesClass h req ∧ IsClassReq req then
    if req.bRequest = 0xFE then .data [0] else if req.bRequest = 0xFF then .ack else .stall
  else .stall

section

variable {h : UsbHandle} {req : UsbSetupReq}

theorem length_pos (nonzero : req.length ≠ 0) : req.length.toNat ≠ 0 := fun zero =>
  nonzero (UInt16.toNat_inj.mp zero)

theorem answered_device (device : req.recipient = 0) (answered : ¬ Unanswered h req) :
    requestEffects h req = [(respond h req).effect] ∧ (respond h req).Suits req := by
  unfold requestEffects respond
  rw [if_pos device, if_pos device]
  by_cases getDesc : req.bRequest = 0x06
  · rw [if_pos getDesc, if_pos getDesc]
    cases found : h.desc req.value with
    | none => exact ⟨rfl, trivial⟩
    | some pbuf =>
        have read : ¬ (pbuf = [] ∨ req.length = 0 ∨ ¬ DirIn req) := fun unread =>
          answered (.descriptor device getDesc found unread)
        obtain ⟨bytes, length, inward⟩ : pbuf ≠ [] ∧ req.length ≠ 0 ∧ DirIn req := by
          simpa only [not_or, not_not] using read
        have some_bytes : pbuf.take req.length.toNat ≠ [] := by
          simp [List.take_eq_nil_iff, bytes, length_pos length]
        exact ⟨if_pos ⟨bytes, length⟩, length, inward, some_bytes, List.length_take_le ..⟩
  rw [if_neg getDesc, if_neg getDesc]
  by_cases setConfig : req.bRequest = 0x09
  · rw [if_pos setConfig, if_pos setConfig]
    by_cases sets : SetsConfig h req
    · have length : req.length = 0 := by
        by_contra unread
        exact answered (.configuration device setConfig sets unread)
      rw [if_pos sets, if_pos sets]
      exact ⟨rfl, length⟩
    · rw [if_neg sets, if_neg sets]
      exact ⟨rfl, trivial⟩
  rw [if_neg setConfig, if_neg setConfig]
  by_cases getStatus : req.bRequest = 0x00
  · rw [if_pos getStatus, if_pos getStatus]
    by_cases address : HasAddress h
    · have read : ¬ (req.length.toNat < 2 ∨ ¬ DirIn req) := fun unread =>
        answered (.status device getStatus address unread)
      obtain ⟨length, inward⟩ : 2 ≤ req.length.toNat ∧ DirIn req := by
        simpa only [not_or, not_not, Nat.not_lt] using read
      have nonzero : req.length ≠ 0 := by
        intro zero
        rw [zero] at length
        cases length
      rw [if_pos address, if_pos address]
      exact ⟨rfl, nonzero, inward, List.cons_ne_nil _ _, length⟩
    · rw [if_neg address, if_neg address]
      exact ⟨rfl, trivial⟩
  rw [if_neg getStatus, if_neg getStatus]
  by_cases setAddress : req.bRequest = 0x05
  · rw [if_pos setAddress, if_pos setAddress]
    by_cases sets : SetsAddress h req
    · rw [if_pos sets, if_pos sets]
      exact ⟨rfl, sets.2.1⟩
    · rw [if_neg sets, if_neg sets]
      exact ⟨rfl, trivial⟩
  · rw [if_neg setAddress, if_neg setAddress]
    exact ⟨rfl, trivial⟩

theorem answered_class (reaches : ReachesClass h req) (answered : ¬ Unanswered h req) :
    requestEffects h req = [(respond h req).effect] ∧ (respond h req).Suits req := by
  have device : ¬ req.recipient = 0 := by simp [reaches.1]
  unfold requestEffects respond
  rw [if_neg device, if_neg device, if_pos reaches.1, if_pos reaches, interfaceEffects]
  by_cases isClass : IsClassReq req
  · have served : ReachesClass h req ∧ IsClassReq req := ⟨reaches, isClass⟩
    by_cases maxLun : req.bRequest = 0xFE
    · have read : ¬ (req.length = 0 ∨ ¬ DirIn req) := fun unread =>
        answered (.maxLun reaches isClass maxLun unread)
      obtain ⟨length, inward⟩ : req.length ≠ 0 ∧ DirIn req := by
        simpa only [not_or, not_not] using read
      rw [if_pos ⟨isClass, maxLun⟩, if_neg length, if_pos served, if_pos maxLun]
      exact ⟨rfl, length, inward, List.cons_ne_nil _ _, Nat.pos_of_ne_zero (length_pos length)⟩
    · have otherLun : ¬ (IsClassReq req ∧ req.bRequest = 0xFE) := fun both => maxLun both.2
      rw [if_neg otherLun]
      by_cases botReset : req.bRequest = 0xFF
      · have length : req.length = 0 := by
          by_contra unread
          exact answered (.botReset reaches isClass botReset unread)
        rw [if_pos ⟨isClass, botReset⟩, if_pos length, if_pos served, if_neg maxLun,
          if_pos botReset]
        exact ⟨rfl, length⟩
      · have otherReset : ¬ (IsClassReq req ∧ req.bRequest = 0xFF) := fun both =>
          botReset both.2
        have length : req.length ≠ 0 := fun unread =>
          answered (.unknown reaches (fun both => both.2.elim maxLun botReset) unread)
        rw [if_neg otherReset, if_neg length, if_pos served, if_neg maxLun, if_neg botReset]
        exact ⟨rfl, trivial⟩
  · have otherLun : ¬ (IsClassReq req ∧ req.bRequest = 0xFE) := fun both => isClass both.1
    have otherReset : ¬ (IsClassReq req ∧ req.bRequest = 0xFF) := fun both => isClass both.1
    have unserved : ¬ (ReachesClass h req ∧ IsClassReq req) := fun both => isClass both.2
    have length : req.length ≠ 0 := fun unread =>
      answered (.unknown reaches (fun both => isClass both.1) unread)
    rw [if_neg otherLun, if_neg otherReset, if_neg length, if_neg unserved]
    exact ⟨rfl, trivial⟩

/-- A request that is answered has one effect, and it suits. -/
theorem effects_answered (answered : ¬ Unanswered h req) :
    requestEffects h req = [(respond h req).effect] ∧ (respond h req).Suits req := by
  by_cases device : req.recipient = 0
  · exact answered_device device answered
  by_cases reaches : ReachesClass h req
  · exact answered_class reaches answered
  have refused : respond h req = .stall := by
    rw [respond, if_neg device, if_neg fun both => reaches both.1]
  rw [refused, requestEffects, if_neg device]
  by_cases interface : req.recipient = 1
  · rw [if_pos interface, if_neg reaches]
    exact ⟨rfl, trivial⟩
  · have outward : ¬ DirIn req := fun inward => answered (.endpoint device interface inward)
    rw [if_neg interface, if_neg outward]
    exact ⟨rfl, trivial⟩

end

/-! ### What the controller is told -/

section

variable {req : UsbSetupReq} {v : Ep0View} {reply : Reply}

theorem replied_of_suits (completed : v.ep0State = .setupCompleted)
    (length : v.setupAddr.reqLen = req.length) (suits : reply.Suits req) :
    Replied req v.inStarts (v.after reply.effect) reply := by
  cases reply with
  | stall => exact .stall rfl rfl rfl rfl
  | ack =>
      have noData : req.length = 0 := suits
      refine .ack noData completed ?_ rfl
      simp [Reply.effect, Ep0View.after, Ep0View.stage, length, noData]
  | data bytes =>
      have some_bytes : bytes ≠ [] := suits.2.2.1
      refine .data suits completed ?_ rfl
      simp [Reply.effect, Ep0View.after, Ep0View.stage, some_bytes]

theorem not_replied_same (completed : v.ep0State = .setupCompleted) :
    ¬ Replied req v.inStarts v reply := by
  intro replied
  cases replied with
  | stall waits =>
      rw [completed] at waits
      cases waits
  | ack _ _ _ starts => exact absurd starts (Nat.ne_add_one _)
  | data _ _ _ starts => exact absurd starts (Nat.ne_add_one _)

/-- One transfer is the reply that it carries. -/
theorem replied_send {data : List UInt8}
    (replied : Replied req v.inStarts (v.after (.send data)) reply) :
    reply.effect = .send data ∧ reply.Suits req := by
  cases replied with
  | stall _ _ _ starts => exact absurd starts.symm (Nat.ne_add_one _)
  | ack noData _ started =>
      have empty : data = [] := by
        by_contra some_bytes
        simp [Ep0View.after, some_bytes] at started
      rw [empty]
      exact ⟨rfl, noData⟩
  | @data bytes suits _ started =>
      have same : data = bytes := by
        by_cases empty : data = []
        · simp [Ep0View.after, empty] at started
        · simpa [Ep0View.after, empty] using congrArg ControlTrb.bp started
      rw [same]
      exact ⟨rfl, suits⟩

/-- Neither a second transfer nor one behind a stall. -/
theorem not_replied_twice {first : Effect} {data : List UInt8}
    (acts : first ≠ .setStall .dirIn) :
    ¬ Replied req v.inStarts ((v.after first).after (.send data)) reply := by
  intro replied
  cases first with
  | send bytes =>
      cases replied with
      | stall _ _ _ starts =>
          have more : v.inStarts + 1 + 1 = v.inStarts := starts
          omega
      | ack _ _ _ starts => exact absurd (Nat.succ.inj starts).symm (Nat.ne_add_one _)
      | data _ _ _ starts => exact absurd (Nat.succ.inj starts).symm (Nat.ne_add_one _)
  | setStall dir =>
      cases dir with
      | dirIn => exact acts rfl
      | dirOut =>
          cases replied with
          | stall _ _ _ starts => exact absurd starts.symm (Nat.ne_add_one _)
          | ack _ busy => cases busy
          | data _ busy => cases busy

variable {h : UsbHandle}

/-- Whatever the controller is told of an unanswered request is no reply. -/
theorem not_replied_unanswered (completed : v.ep0State = .setupCompleted)
    (unanswered : Unanswered h req) :
    ¬ Replied req v.inStarts ((requestEffects h req).foldl Ep0View.after v) reply := by
  intro replied
  cases unanswered with
  | @descriptor pbuf device request found unread =>
      rw [requestEffects, if_pos device, if_pos request, found] at replied
      dsimp only at replied
      by_cases sends : pbuf ≠ [] ∧ req.length ≠ 0
      · rw [if_pos sends] at replied
        obtain ⟨sent, suits⟩ := replied_send replied
        have outward : ¬ DirIn req := (unread.resolve_left sends.1).resolve_left sends.2
        cases reply with
        | stall => cases sent
        | ack => exact sends.2 suits
        | data bytes => exact outward suits.2.1
      · rw [if_neg sends] at replied
        exact not_replied_same completed replied
  | configuration device request sets unread =>
      have other : ¬ req.bRequest = 0x06 := by simp [request]
      rw [requestEffects, if_pos device, if_neg other, if_pos request, if_pos sets] at replied
      obtain ⟨sent, suits⟩ := replied_send replied
      cases reply with
      | stall => cases sent
      | ack => exact unread suits
      | data bytes => exact suits.2.2.1 (Effect.send.inj sent)
  | status device request address unread =>
      have other : ¬ req.bRequest = 0x06 := by simp [request]
      have other' : ¬ req.bRequest = 0x09 := by simp [request]
      rw [requestEffects, if_pos device, if_neg other, if_neg other', if_pos request,
        if_pos address] at replied
      obtain ⟨sent, suits⟩ := replied_send replied
      cases reply with
      | stall => cases sent
      | ack => cases sent
      | data bytes =>
          obtain ⟨_, inward, _, fits⟩ := suits
          rw [Effect.send.inj sent] at fits
          have short : req.length.toNat < 2 := unread.resolve_right (not_not_intro inward)
          exact Nat.not_lt.mpr fits short
  | maxLun reaches isClass request unread =>
      have device : ¬ req.recipient = 0 := by simp [reaches.1]
      rw [requestEffects, if_neg device, if_pos reaches.1, if_pos reaches, interfaceEffects,
        if_pos ⟨isClass, request⟩] at replied
      by_cases length : req.length = 0
      · rw [if_pos length] at replied
        have acts : Effect.send [0] ≠ .setStall .dirIn := by simp
        exact not_replied_twice acts replied
      · rw [if_neg length] at replied
        obtain ⟨sent, suits⟩ := replied_send replied
        cases reply with
        | stall => cases sent
        | ack => cases sent
        | data bytes => exact unread.elim length (· suits.2.1)
  | botReset reaches isClass request unread =>
      have device : ¬ req.recipient = 0 := by simp [reaches.1]
      have other : ¬ (IsClassReq req ∧ req.bRequest = 0xFE) := by simp [request]
      rw [requestEffects, if_neg device, if_pos reaches.1, if_pos reaches, interfaceEffects,
        if_neg other, if_pos ⟨isClass, request⟩, if_neg unread] at replied
      exact not_replied_same completed replied
  | unknown reaches refused unread =>
      have device : ¬ req.recipient = 0 := by simp [reaches.1]
      have otherLun : ¬ (IsClassReq req ∧ req.bRequest = 0xFE) := fun both =>
        refused ⟨both.1, .inl both.2⟩
      have otherReset : ¬ (IsClassReq req ∧ req.bRequest = 0xFF) := fun both =>
        refused ⟨both.1, .inr both.2⟩
      rw [requestEffects, if_neg device, if_pos reaches.1, if_pos reaches, interfaceEffects,
        if_neg otherLun, if_neg otherReset, if_pos unread] at replied
      have acts : Effect.setStall .dirOut ≠ .setStall .dirIn := by simp
      exact not_replied_twice acts replied
  | endpoint device interface inward =>
      rw [requestEffects, if_neg device, if_neg interface, if_pos inward] at replied
      exact not_replied_same completed replied

end

/-! ### The mass-storage device -/

section

variable (info : SdDevInfo) (xferCount : UInt32) (sd : SdOutcome)

theorem core_view (obeys : Obeys answer) (d : Device Msc.MscState)
    (smallDesc : SmallDesc d.handle.desc) (action : UsbAction) :
    (runCore answer mscEp0Call (Msc.mscClass info xferCount sd) action d).view =
      ((usbCoreHandleIt (Msc.mscClass info xferCount sd) action d.handle d.dev).actions.filterMap
        effect).foldl Ep0View.after d.view := by
  have small := smallHandled_handleIt (mscSmall info xferCount sd) smallDesc action d.dev
  exact view_performAll obeys small.actions _

/-- What a request makes of endpoint zero. -/
theorem setup_view (obeys : Obeys answer) (d : Device Msc.MscState)
    (smallDesc : SmallDesc d.handle.desc) (req : UsbSetupReq) :
    (handleAction answer mscEp0Call (Msc.mscClass info xferCount sd) (.setup req) d).view =
      (requestEffects d.handle req).foldl Ep0View.after { d.view with core := .setup } := by
  have begun := core_view info xferCount sd obeys (beginSetup (.setup req) d) smallDesc
    (.setup req)
  have notIn : UsbAction.setup req ≠ .dataIn 0 := by simp
  have notOut : UsbAction.setup req ≠ .dataOut 0 := by simp
  rw [handleAction, if_neg notIn, if_neg notOut, begun, effects_setup]
  rfl

/-- A request is answered exactly if it is not one of those that are left without an
end of their stages. -/
theorem setup_answered_iff (obeys : Obeys answer) (d : Device Msc.MscState)
    (smallDesc : SmallDesc d.handle.desc) (completed : d.dwc3.ep0State = .setupCompleted) :
    (∃ reply, Replied d.dwc3.setupAddr.req d.view.inStarts
        (handleAction answer mscEp0Call (Msc.mscClass info xferCount sd)
          (.setup d.dwc3.setupAddr.req) d).view reply) ↔
      ¬ Unanswered d.handle d.dwc3.setupAddr.req := by
  have begun : ({ d.view with core := .setup } : Ep0View).ep0State = .setupCompleted := completed
  rw [setup_view info xferCount sd obeys d smallDesc]
  constructor
  · rintro ⟨reply, replied⟩ unanswered
    exact not_replied_unanswered begun unanswered replied
  · intro answered
    obtain ⟨one, suits⟩ := effects_answered answered
    rw [one]
    exact ⟨_, replied_of_suits begun rfl suits⟩

end

/-- GET_DESCRIPTOR of the device, for 64 bytes. -/
def getDeviceDesc : SetupPacket := #v[0x80, 0x06, 0x00, 0x01, 0x00, 0x00, 0x40, 0x00]

/-- A controller that ends every command well. -/
def obedient (_ : List EpCmd) (_ : EpCmd) : CmdAnswer := ⟨.ok, 0⟩

/-- The started device with a request in its buffer. -/
def requested (packet : SetupPacket) : Device Msc.MscState :=
  let d := Device.started obedient mscDesc (.boot fun _ => 0)
  { d with dwc3 := { d.dwc3 with setupAddr := packet, ep0State := .setupCompleted } }

theorem setup_answered_iff_descriptor :
    (∃ reply, Replied getDeviceDesc.req (requested getDeviceDesc).view.inStarts
        (handleAction obedient mscEp0Call (Msc.mscClass .smallest 0 .ok)
          (.setup getDeviceDesc.req) (requested getDeviceDesc)).view reply) ↔
      ¬ Unanswered (requested getDeviceDesc).handle getDeviceDesc.req :=
  setup_answered_iff .smallest 0 .ok (fun _ _ => rfl) (requested getDeviceDesc)
    (fun _ _ found => (mscDesc_small found).2) rfl

/-! ### Runs -/

/-- The mass-storage class with what it reads from outside. -/
def mscWith (outside : SdDevInfo × UInt32 × SdOutcome) : UsbClass Msc.MscState Msc.Action :=
  Msc.mscClass outside.1 outside.2.1 outside.2.2

/-- In any order of packets, completions and events, whatever the controller answers
to the commands. -/
theorem reachable_listens {dev : Msc.MscState}
    {labels : List (BusEvent (SdDevInfo × UInt32 × SdOutcome))} {d : Device Msc.MscState}
    (run : Run (DeviceStep answer mscEp0Call mscWith) (Device.started answer mscDesc dev)
      labels d) :
    Listening mscDesc d := by
  refine run.invariant (Listening mscDesc) ?_ (listening_started mscDesc dev)
  intro state label next listening step
  have small (outside : SdDevInfo × UInt32 × SdOutcome) :
      SmallClass mscEp0Call (mscWith outside) := mscSmall outside.1 outside.2.1 outside.2.2
  exact listening.step small (fun _ _ found => (mscDesc_small found).2) step

/-- A SETUP packet comes and is handled. -/
theorem reachable_listens_descriptor :
    ∃ d, Run (DeviceStep obedient mscEp0Call mscWith)
        (Device.started obedient mscDesc (.boot fun _ => 0))
        [.packet getDeviceDesc, .complete .dirOut 0, .handle (.smallest, 0, .ok) 0 0x40] d ∧
      Listening mscDesc d :=
  ⟨_, .cons .packet (.cons .complete (.cons .handle (.nil _))),
    reachable_listens (.cons .packet (.cons .complete (.cons .handle (.nil _))))⟩

end Mp257Fsbl.Usb.Control
