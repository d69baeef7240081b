/-
Module: Mp257Fsbl.Usb.Control.Link
Purpose: The host, the controller and the device in control transfers: their steps
  in any order, with bus resets at any time, and the phases that they go through.
Trusted boundary: human-reviewed model of the host and of the controller
Main exports: Stage, Host, Link, Conforming, LinkEvent, LinkStep, Phase,
  Phase.performed, Phase.handled
-/
import Mp257Fsbl.Usb.Control.Stages

namespace Mp257Fsbl.Usb.Control

open Mp257Fsbl.Foundation

variable {answer : List EpCmd → EpCmd → CmdAnswer}

/-! ### The host -/

/-- The stages of a control transfer behind its SETUP. -/
inductive Stage where
  | dataIn
  | dataOut
  | statusIn
  /-- Behind these bytes. -/
  | statusOut (bytes : List UInt8)
deriving Repr, DecidableEq

/-- What the controller reports where the host asks in a stage. -/
def Stage.notReady : Stage → Word
  | .dataIn => .notReady .dirIn .ctrlData
  | .dataOut => .notReady .dirOut .ctrlData
  | .statusIn => .notReady .dirIn .ctrlStatus
  | .statusOut _ => .notReady .dirOut .ctrlStatus

def SetupPacket.firstStage (packet : SetupPacket) : Stage :=
  if packet.reqLen = 0 then .statusIn else if packet.dataDirIn ≠ 0 then .dataIn else .dataOut

/-- A transfer in one of its stages; `asked` where the controller has reported that
the host wants to go on. -/
inductive Host where
  | idle
  | busy (packet : SetupPacket) (stage : Stage) (asked : Bool)
deriving Repr, DecidableEq

/-- A request that is answered in every state of the device. -/
structure Conforming (req : UsbSetupReq) : Prop where
  descriptor : req.recipient = 0 → req.bRequest = 0x06 → req.length ≠ 0 ∧ DirIn req
  configuration : req.recipient = 0 → req.bRequest = 0x09 → req.length = 0
  status : req.recipient = 0 → req.bRequest = 0x00 → 2 ≤ req.length.toNat ∧ DirIn req
  maxLun : req.recipient = 1 → IsClassReq req → req.bRequest = 0xFE → req.length ≠ 0 ∧ DirIn req
  botReset : req.recipient = 1 → IsClassReq req → req.bRequest = 0xFF → req.length = 0
  unknown : req.recipient = 1 →
    ¬ (IsClassReq req ∧ (req.bRequest = 0xFE ∨ req.bRequest = 0xFF)) → req.length ≠ 0
  endpoint : req.recipient ≠ 0 → req.recipient ≠ 1 → ¬ DirIn req

theorem Conforming.answered {h : UsbHandle} {req : UsbSetupReq} (conforming : Conforming req)
    (desc : h.desc = mscDesc) : ¬ Unanswered h req := by
  intro unanswered
  cases unanswered with
  | descriptor device request found unread =>
      obtain ⟨length, inward⟩ := conforming.descriptor device request
      have bytes := (mscDesc_small (desc ▸ found)).1
      exact (unread.resolve_left bytes).elim length (· inward)
  | configuration device request sets unread =>
      exact unread (conforming.configuration device request)
  | status device request address unread =>
      obtain ⟨length, inward⟩ := conforming.status device request
      exact unread.elim (Nat.not_lt.mpr length) (· inward)
  | maxLun reaches isClass request unread =>
      obtain ⟨length, inward⟩ := conforming.maxLun reaches.1 isClass request
      exact unread.elim length (· inward)
  | botReset reaches isClass request unread =>
      exact unread (conforming.botReset reaches.1 isClass request)
  | unknown reaches refused unread => exact conforming.unknown reaches.1 refused unread
  | endpoint device interface inward => exact conforming.endpoint device interface inward

/-! ### The link -/

/-- The device, the events that it has not handled, the host, and how each transfer
that is over has ended for the host; `none` where a bus reset has ended it. -/
structure Link where
  device : Device Msc.MscState
  events : List Word
  host : Host
  log : List (SetupPacket × Option Reply)

def Host.pending : Host → List (SetupPacket × Option Reply)
  | .idle => []
  | .busy packet _ _ => [(packet, none)]

/-- Every SETUP of the host, with what has come of it so far. -/
def Link.history (link : Link) : List (SetupPacket × Option Reply) := link.log ++ link.host.pending

def Link.started (answer : List EpCmd → EpCmd → CmdAnswer) (dev : Msc.MscState) : Link where
  device := .started answer mscDesc dev
  events := []
  host := .idle
  log := []

/-- The controller has moved all of a descriptor. -/
def Device.moved (dir : Dir) (d : Device Msc.MscState) : Device Msc.MscState :=
  { d with
    dwc3 :=
      d.dwc3.setEp dir
        { d.dwc3.ep dir with trb := { (d.dwc3.ep dir).trb with size := 0, hwo := false } } }

def Device.stored (packet : SetupPacket) (d : Device Msc.MscState) : Device Msc.MscState :=
  { d with dwc3 := { d.dwc3 with setupAddr := packet } }

inductive LinkEvent where
  | setup (packet : SetupPacket)
  | ask
  | data
  | ack
  | closed
  | stalled
  | reset
  | other (word : UInt32)
  | poll (outside : Outside) (dsts : UInt32)

def ControlTrb.IsStatus (trb : ControlTrb) : Prop := trb.ctl = .status2 ∨ trb.ctl = .status3

/-- The host, the controller and the device take steps in any order. The controller
takes a SETUP where a descriptor waits for one, moves data and status over the
descriptors of transfers that are active, and answers STALL from the command on to
the next SETUP. -/
inductive LinkStep (answer : List EpCmd → EpCmd → CmdAnswer) : Step Link LinkEvent where
  | setup {link : Link} {packet : SetupPacket} (idle : link.host = .idle)
      (conforming : Conforming packet.req) (owned : link.device.dwc3.outEp.trb.hwo = true)
      (waits : link.device.dwc3.outEp.trb.ctl = .setup) :
      LinkStep answer link (.setup packet)
        { link with
          device := (link.device.stored packet).moved .dirOut
          events := link.events ++ [.complete .dirOut]
          host := .busy packet packet.firstStage false }
  | ask {link : Link} {packet : SetupPacket} {stage : Stage}
      (busy : link.host = .busy packet stage false) :
      LinkStep answer link .ask
        { link with
          events := link.events ++ [stage.notReady]
          host := .busy packet stage true }
  | data {link : Link} {packet : SetupPacket} {asked : Bool} {bytes : List UInt8}
      (busy : link.host = .busy packet .dataIn asked)
      (active : link.device.dwc3.inEp.reqQueued = true)
      (owned : link.device.dwc3.inEp.trb.hwo = true)
      (ctl : link.device.dwc3.inEp.trb.ctl = .data)
      (bp : link.device.dwc3.inEp.trb.bp = .data bytes) :
      LinkStep answer link .data
        { link with
          device := link.device.moved .dirIn
          events := link.events ++ [.complete .dirIn]
          host :=
            .busy packet (.statusOut (bytes.take link.device.dwc3.inEp.trb.size.toNat)) false }
  | ack {link : Link} {packet : SetupPacket} {asked : Bool}
      (busy : link.host = .busy packet .statusIn asked)
      (active : link.device.dwc3.inEp.reqQueued = true)
      (owned : link.device.dwc3.inEp.trb.hwo = true)
      (status : link.device.dwc3.inEp.trb.IsStatus) :
      LinkStep answer link .ack
        { device := link.device.moved .dirIn
          events := link.events ++ [.complete .dirIn]
          host := .idle
          log := link.log ++ [(packet, some .ack)] }
  | closed {link : Link} {packet : SetupPacket} {asked : Bool} {bytes : List UInt8}
      (busy : link.host = .busy packet (.statusOut bytes) asked)
      (owned : link.device.dwc3.outEp.trb.hwo = true)
      (status : link.device.dwc3.outEp.trb.IsStatus) :
      LinkStep answer link .closed
        { device := link.device.moved .dirOut
          events := link.events ++ [.complete .dirOut]
          host := .idle
          log := link.log ++ [(packet, some (.data bytes))] }
  | stalled {link : Link} {packet : SetupPacket} {stage : Stage} {asked : Bool}
      (busy : link.host = .busy packet stage asked)
      (stalled : link.device.dwc3.outEp.isStall = true)
      (since : link.device.dwc3.outEp.trb.hwo = true) :
      LinkStep answer link .stalled
        { link with host := .idle, log := link.log ++ [(packet, some .stall)] }
  | reset {link : Link} :
      LinkStep answer link .reset
        { link with events := link.events ++ [.reset], host := .idle, log := link.history }
  | other {link : Link} {word : UInt32} (other : Other word) :
      LinkStep answer link (.other word) { link with events := link.events ++ [.other word other] }
  | poll {link : Link} {outside : Outside} {dsts : UInt32} {word : Word} {rest : List Word}
      (next : link.events = word :: rest) :
      LinkStep answer link (.poll outside dsts)
        { link with device := link.device.handled answer outside dsts word, events := rest }

/-! ### Phases -/

/-- The device waits for a SETUP packet. -/
structure Waiting (v : Ep0View) : Prop where
  queued : v.ep0State = .setupQueued
  trb : v.outTrb = setupTrb
  idle : v.inQueued = false

/-- The device is behind the SETUP packet of a request. -/
structure Engaged (packet : SetupPacket) (v : Ep0View) : Prop where
  completed : v.ep0State = .setupCompleted
  stored : v.setupAddr = packet
  clear : v.stalled = false
  used : v.outTrb.hwo = false

/-- Events that a device behind a transfer makes nothing of. -/
def Stale (v : Ep0View) : Word → Prop
  | .reset => True
  | .notReady _ _ => v.stalled = true
  | _ => False

def AllStale (v : Ep0View) (words : List Word) : Prop := ∀ word ∈ words, Stale v word

def AllResets (words : List Word) : Prop := ∀ word ∈ words, word = .reset

def AllEarly (words : List Word) : Prop := ∀ word ∈ words, word = Stage.dataIn.notReady

/-- The event of a host that has asked. -/
def asks (stage : Stage) (asked : Bool) : List Word := if asked then [stage.notReady] else []

/-- Where the host and the device are in a transfer, with the reply that has been
decided and the events of endpoint zero not yet handled. -/
inductive Phase : Host → Option Reply → List Word → Ep0View → Prop where
  | waiting {words : List Word} {v : Ep0View} (waits : Waiting v) (stale : AllStale v words) :
      Phase .idle none words v
  | taken {packet : SetupPacket} {asked : Bool} {before : List Word} {v : Ep0View}
      (conforming : Conforming packet.req) (queued : v.ep0State = .setupQueued)
      (stored : v.setupAddr = packet) (used : v.outTrb.hwo = false) (idle : v.inQueued = false)
      (stale : AllStale v before) :
      Phase (.busy packet packet.firstStage asked) none
        (before ++ .complete .dirOut :: asks packet.firstStage asked) v
  | begun {packet : SetupPacket} {asked : Bool} {v : Ep0View}
      (conforming : Conforming packet.req) (engaged : Engaged packet v)
      (noData : packet.reqLen = 0) (idle : v.inQueued = false) :
      Phase (.busy packet .statusIn asked) none (asks .statusIn asked) v
  | acking {packet : SetupPacket} {v : Ep0View} (engaged : Engaged packet v)
      (active : v.inQueued = true) (owned : v.inTrb.hwo = true) (status : v.inTrb.IsStatus)
      (empty : v.inLen = 0) (core : v.core = .statusIn) :
      Phase (.busy packet .statusIn true) (some .ack) [] v
  | acked {packet : SetupPacket} {words : List Word} {v : Ep0View} (engaged : Engaged packet v)
      (moved : v.inTrb.size = 0) (empty : v.inLen = 0) (core : v.core = .statusIn)
      (resets : AllResets words) : Phase .idle none (.complete .dirIn :: words) v
  | sending {packet : SetupPacket} {asked : Bool} {bytes : List UInt8} {words : List Word}
      {v : Ep0View} (engaged : Engaged packet v) (some_length : packet.reqLen ≠ 0)
      (inward : packet.dataDirIn ≠ 0) (active : v.inQueued = true) (owned : v.inTrb.hwo = true)
      (ctl : v.inTrb.ctl = .data) (bp : v.inTrb.bp = .data bytes)
      (size : v.inTrb.size.toNat = bytes.length) (some_bytes : v.inLen ≠ 0)
      (core : v.core = .dataIn) (early : AllEarly words) :
      Phase (.busy packet .dataIn asked) (some (.data bytes)) words v
  | sent {packet : SetupPacket} {asked : Bool} {bytes : List UInt8} {before : List Word}
      {v : Ep0View} (engaged : Engaged packet v) (some_length : packet.reqLen ≠ 0)
      (inward : packet.dataDirIn ≠ 0) (moved : v.inTrb.size = 0) (some_bytes : v.inLen ≠ 0)
      (core : v.core = .dataIn) (early : AllEarly before) :
      Phase (.busy packet (.statusOut bytes) asked) (some (.data bytes))
        (before ++ .complete .dirIn :: asks (.statusOut bytes) asked) v
  | read {packet : SetupPacket} {asked : Bool} {bytes : List UInt8} {v : Ep0View}
      (engaged : Engaged packet v) (some_length : packet.reqLen ≠ 0) (idle : v.inQueued = false)
      (core : v.core = .dataIn) :
      Phase (.busy packet (.statusOut bytes) asked) (some (.data bytes))
        (asks (.statusOut bytes) asked) v
  | closing {packet : SetupPacket} {bytes : List UInt8} {v : Ep0View}
      (completed : v.ep0State = .setupCompleted) (clear : v.stalled = false)
      (owned : v.outTrb.hwo = true) (ctl : v.outTrb.ctl = .status3) (empty : v.outLen = 0)
      (idle : v.inQueued = false)
      (core : v.core = .statusOut) :
      Phase (.busy packet (.statusOut bytes) true) (some (.data bytes)) [] v
  | closed {words : List Word} {v : Ep0View} (completed : v.ep0State = .setupCompleted)
      (used : v.outTrb.hwo = false) (empty : v.outLen = 0) (idle : v.inQueued = false)
      (core : v.core = .statusOut) (resets : AllResets words) :
      Phase .idle none (.complete .dirOut :: words) v
  | refused {packet : SetupPacket} {stage : Stage} {asked : Bool} {words : List Word}
      {v : Ep0View} (waits : Waiting v) (stalled : v.stalled = true) (stale : AllStale v words) :
      Phase (.busy packet stage asked) (some .stall) words v

theorem firstStage_of_noData {packet : SetupPacket} (noData : packet.reqLen = 0) :
    packet.firstStage = .statusIn := if_pos noData

theorem firstStage_of_inward {packet : SetupPacket} (some_length : packet.reqLen ≠ 0)
    (inward : packet.dataDirIn ≠ 0) : packet.firstStage = .dataIn := by
  rw [SetupPacket.firstStage, if_neg some_length, if_pos inward]

theorem stale_asks {v : Ep0View} (stalled : v.stalled = true) (stage : Stage) (asked : Bool) :
    AllStale v (asks stage asked) := by
  cases asked with
  | false => exact nofun
  | true =>
      refine List.forall_mem_singleton.mpr ?_
      cases stage <;> exact stalled

theorem early_asks (asked : Bool) : AllEarly (asks .dataIn asked) := by
  cases asked with
  | false => exact nofun
  | true => exact List.forall_mem_singleton.mpr rfl

theorem Engaged.sent {packet : SetupPacket} {v : Ep0View} (engaged : Engaged packet v)
    (data : List UInt8) : Engaged packet (v.after (.send data)) :=
  ⟨engaged.completed, engaged.stored, engaged.clear, engaged.used⟩

/-- Where the device and the host are once a request has been performed. -/
theorem Phase.performed {packet : SetupPacket} {h : UsbHandle} {v : Ep0View} {asked : Bool}
    {words : List Word} (conforming : Conforming packet.req) (desc : h.desc = mscDesc)
    (engaged : Engaged packet v) (idle : v.inQueued = false)
    (status : packet.reqLen = 0 → asked = true ∧ words = [])
    (data : packet.reqLen ≠ 0 → words = asks packet.firstStage asked) :
    Phase (.busy packet packet.firstStage asked) (some (respond h packet.req)) words
      ((requestEffects h packet.req).foldl Ep0View.after v) := by
  obtain ⟨one, suits⟩ := effects_answered (conforming.answered desc)
  rw [one]
  cases reply : respond h packet.req with
  | stall =>
      refine .refused ⟨rfl, rfl, idle⟩ rfl ?_
      by_cases noData : packet.reqLen = 0
      · rw [(status noData).2]
        exact nofun
      · rw [data noData]
        exact stale_asks rfl _ _
  | ack =>
      rw [reply] at suits
      have noData : packet.reqLen = 0 := suits
      obtain ⟨rfl, rfl⟩ := status noData
      have stage : v.stage [] = .status2 := by
        rw [Ep0View.stage, if_pos rfl, engaged.stored, if_pos noData]
      rw [firstStage_of_noData noData]
      exact .acking (engaged.sent []) rfl rfl (.inl stage) rfl rfl
  | data bytes =>
      rw [reply] at suits
      obtain ⟨some_length, inward, some_bytes, fits⟩ := suits
      have small : bytes.length < 2 ^ 32 :=
        Nat.lt_of_le_of_lt fits (Nat.lt_trans (UInt16.toNat_lt _) (by decide))
      have len : (UInt32.ofNat bytes.length).toNat = bytes.length := by
        rw [UInt32.toNat_ofNat']
        exact Nat.mod_eq_of_lt small
      have nonzero : UInt32.ofNat bytes.length ≠ 0 := by
        intro zero
        rw [zero] at len
        exact some_bytes (List.length_eq_zero_iff.mp len.symm)
      rw [data some_length, firstStage_of_inward some_length inward]
      refine .sending (engaged.sent bytes) some_length inward rfl rfl ?_ ?_ len nonzero ?_
        (early_asks asked)
      · exact if_neg some_bytes
      · exact if_neg some_bytes
      · exact if_neg some_bytes

/-! ### The device in its phases -/

/-- What the core has undergone. -/
inductive CoreEvent where
  | request (packet : SetupPacket) (reply : Reply)
  | event (action : UsbAction)

/-- The device as the host should see it: each request is performed at once, with its
reply. -/
inductive CoreStep : Step CoreState CoreEvent where
  | request {core : CoreState} {outside : Outside} {packet : SetupPacket} :
      CoreStep core (.request packet (respond core.handle packet.req))
        (core.after outside (.setup packet.req))
  | event {core : CoreState} {outside : Outside} {action : UsbAction}
      (elsewhere : Elsewhere action) :
      CoreStep core (.event action) (core.after outside action)

def replies (events : List CoreEvent) : List (SetupPacket × Reply) :=
  events.filterMap fun
    | .request packet reply => some (packet, reply)
    | .event _ => none

/-- The reply that is decided and that the host has not got. -/
def settled : Host → Option Reply → List (SetupPacket × Reply)
  | .idle, _ => []
  | .busy packet _ _, done => done.toList.map (packet, ·)

/-- From one phase the device gets to another, with what the core does on the way. -/
def Proceeds (host : Host) (done : Option Reply) (words : List Word) (core : CoreState)
    (d' : Device Msc.MscState) : Prop :=
  ∃ events done', Run CoreStep core events d'.coreState ∧ Phase host done' words d'.view ∧
    settled host done' = settled host done ++ replies events

section

variable {host : Host} {done : Option Reply} {word : Word} {words : List Word}
  {d : Device Msc.MscState} {dsts : UInt32} {action : UsbAction} {v : Ep0View}

/-- An event that is nothing to the transfer. -/
theorem Proceeds.event (obeys : Obeys answer) (listening : Listening mscDesc d)
    (outside : Outside) (reports : Reports answer dsts word d action v)
    (elsewhere : Elsewhere action) (phase : Phase host done words v) :
    Proceeds host done words d.coreState (d.handled answer outside dsts word) := by
  have smallDesc : SmallDesc d.handle.desc :=
    listening.desc ▸ fun _ _ found => (mscDesc_small found).2
  obtain ⟨view, core⟩ := handled_event obeys smallDesc outside reports elsewhere
  refine ⟨[.event action], done, ?_, view ▸ phase, (List.append_nil _).symm⟩
  rw [core]
  exact .single (.event elsewhere)

/-- The end of a stage. -/
theorem Proceeds.stage {d' : Device Msc.MscState} (core : d'.coreState = d.coreState)
    (phase : Phase host done words d'.view) : Proceeds host done words d.coreState d' :=
  ⟨[], done, core ▸ .nil _, phase, (List.append_nil _).symm⟩

theorem Elsewhere.nothing : Elsewhere .nothing := ⟨nofun, nofun, nofun⟩

theorem Elsewhere.reset : Elsewhere .reset := ⟨nofun, nofun, nofun⟩

/-- The request is performed. -/
theorem Proceeds.request (obeys : Obeys answer) (listening : Listening mscDesc d)
    (outside : Outside) {packet : SetupPacket} {asked : Bool}
    (conforming : Conforming packet.req)
    (reports : Reports answer dsts word d (.setup packet.req) v) (engaged : Engaged packet v)
    (idle : v.inQueued = false) (status : packet.reqLen = 0 → asked = true ∧ words = [])
    (data : packet.reqLen ≠ 0 → words = asks packet.firstStage asked) :
    Proceeds (.busy packet packet.firstStage asked) none words d.coreState
      (d.handled answer outside dsts word) := by
  have smallDesc : SmallDesc d.handle.desc :=
    listening.desc ▸ fun _ _ found => (mscDesc_small found).2
  have begun : Engaged packet { v with core := .setup } :=
    ⟨engaged.completed, engaged.stored, engaged.clear, engaged.used⟩
  obtain ⟨view, core⟩ := handled_setup obeys smallDesc outside reports
  have performed := Phase.performed conforming listening.desc begun idle status data
  refine ⟨[.request packet (respond d.handle packet.req)], some (respond d.handle packet.req), ?_,
    view ▸ performed, rfl⟩
  rw [core]
  exact .single .request

/-- A stale event. -/
theorem Proceeds.stale (obeys : Obeys answer) (listening : Listening mscDesc d)
    (outside : Outside) (queued : d.view.ep0State = .setupQueued) (idle : d.view.inQueued = false)
    (stale : Stale d.view word) (phase : Phase host done words d.view) :
    Proceeds host done words d.coreState (d.handled answer outside dsts word) := by
  cases word with
  | reset =>
      exact .event obeys listening outside (reports_reset_queued dsts queued idle) .reset phase
  | notReady dir status =>
      exact .event obeys listening outside (reports_stale dsts dir status queued stale) .nothing
        phase
  | complete dir => exact stale.elim
  | other word other => exact stale.elim

/-- The device handles the next event of a phase. -/
theorem Phase.handled (obeys : Obeys answer) (listening : Listening mscDesc d)
    (outside : Outside) (dsts : UInt32) {all : List Word} (next : all = word :: words)
    (phase : Phase host done all d.view) :
    Proceeds host done words d.coreState (d.handled answer outside dsts word) := by
  cases phase with
  | waiting waits stale =>
      obtain ⟨first, rest⟩ := List.forall_mem_cons.mp (next ▸ stale)
      exact .stale obeys listening outside waits.queued waits.idle first (.waiting waits rest)
  | refused waits stalled stale =>
      obtain ⟨first, rest⟩ := List.forall_mem_cons.mp (next ▸ stale)
      exact .stale obeys listening outside waits.queued waits.idle first
        (.refused waits stalled rest)
  | @taken packet asked before _ conforming queued stored used idle stale =>
      cases before with
      | cons first rest =>
          obtain ⟨rfl, rfl⟩ := List.cons.inj next
          obtain ⟨one, others⟩ := List.forall_mem_cons.mp stale
          exact .stale obeys listening outside queued idle one
            (.taken conforming queued stored used idle others)
      | nil =>
          obtain ⟨rfl, rfl⟩ := List.cons.inj next
          have reports := @reports_taken _ answer dsts d queued
          have engaged : Engaged packet
              { d.view with ep0State := .setupCompleted, stalled := false } :=
            ⟨rfl, stored, rfl, used⟩
          have same : d.dwc3.setupAddr = packet := stored
          rw [same] at reports
          by_cases noData : packet.reqLen = 0
          · rw [if_pos noData] at reports
            rw [firstStage_of_noData noData]
            exact .event obeys listening outside reports .nothing
              (.begun conforming engaged noData idle)
          · rw [if_neg noData] at reports
            exact .request obeys listening outside conforming reports engaged idle
              (fun zero => absurd zero noData) fun _ => rfl
  | @begun packet asked _ conforming engaged noData idle =>
      cases asked with
      | false => cases next
      | true =>
          obtain ⟨rfl, rfl⟩ := List.cons.inj next
          have same : d.dwc3.setupAddr = packet := engaged.stored
          have reports := @reports_asked _ answer dsts d engaged.completed (same ▸ noData)
          rw [same] at reports
          have proceeds := @Proceeds.request answer _ [] d dsts _ obeys listening outside packet
            true conforming reports engaged idle (fun _ => ⟨rfl, rfl⟩)
            fun some_length => absurd noData some_length
          rw [firstStage_of_noData noData] at proceeds
          exact proceeds
  | acking => cases next
  | closing => cases next
  | acked engaged moved empty core resets =>
      obtain ⟨rfl, rfl⟩ := List.cons.inj next
      have reports := @reports_acked _ answer dsts d obeys empty moved
      have idle : d.ep0State ≠ .dataIn := by
        have state : d.ep0State = .statusIn := core
        simp [state]
      obtain ⟨view, core⟩ := handled_done outside reports (.inl ⟨rfl, idle⟩)
      refine .stage core ?_
      rw [view]
      exact .waiting ⟨rfl, rfl, rfl⟩ fun word member => (resets word member) ▸ trivial
  | closed completed used empty idle core resets =>
      obtain ⟨rfl, rfl⟩ := List.cons.inj next
      have reports := @reports_closed _ answer dsts d obeys completed empty
      have noData : d.ep0State ≠ .dataOut := by
        have state : d.ep0State = .statusOut := core
        simp [state]
      obtain ⟨view, core⟩ := handled_done outside reports (.inr ⟨rfl, noData⟩)
      refine .stage core ?_
      rw [view]
      exact .waiting ⟨rfl, rfl, idle⟩ fun word member => (resets word member) ▸ trivial
  | @sending packet asked bytes _ _ engaged some_length inward active owned ctl bp size some_bytes
      core early =>
      obtain ⟨first, rest⟩ := List.forall_mem_cons.mp (next ▸ early)
      have same : d.dwc3.setupAddr = packet := engaged.stored
      have reports := @reports_early _ answer dsts d engaged.completed (same ▸ some_length)
        (same ▸ inward)
      rw [first]
      exact .event obeys listening outside reports .nothing
        (.sending engaged some_length inward active owned ctl bp size some_bytes core rest)
  | @sent packet asked bytes before _ engaged some_length inward moved some_bytes core early =>
      cases before with
      | cons first rest =>
          obtain ⟨rfl, rfl⟩ := List.cons.inj next
          obtain ⟨one, others⟩ := List.forall_mem_cons.mp early
          have same : d.dwc3.setupAddr = packet := engaged.stored
          have reports := @reports_early _ answer dsts d engaged.completed (same ▸ some_length)
            (same ▸ inward)
          rw [one]
          exact .event obeys listening outside reports .nothing
            (.sent engaged some_length inward moved some_bytes core others)
      | nil =>
          obtain ⟨rfl, rfl⟩ := List.cons.inj next
          have reports := @reports_sent _ answer dsts d some_bytes moved
          exact .event obeys listening outside reports .nothing
            (.read ⟨engaged.completed, engaged.stored, engaged.clear, engaged.used⟩ some_length rfl
              core)
  | @read packet asked bytes _ engaged some_length idle core =>
      cases asked with
      | false => cases next
      | true =>
          obtain ⟨rfl, rfl⟩ := List.cons.inj next
          have same : d.dwc3.setupAddr = packet := engaged.stored
          have reports :
              Reports answer dsts (Stage.statusOut bytes).notReady d (.dataIn 0) d.view :=
            reports_read dsts engaged.completed (same ▸ some_length)
          obtain ⟨view, kept⟩ := handled_read obeys listening outside reports core
            (engaged.stored.symm ▸ some_length)
          refine .stage kept ?_
          rw [view]
          exact .closing engaged.completed engaged.clear rfl rfl rfl idle rfl

end

end Mp257Fsbl.Usb.Control
