/-
Module: Mp257Fsbl.Usb.Control.Listening
Purpose: What the descriptors of endpoint zero can be in any order of events: a
  SETUP descriptor wherever the driver waits for one, and no data but replies
  shorter than a packet.
Trusted boundary: human-reviewed statement of what the controller writes back
Main exports: Keeps, SmallClass, BusEvent, DeviceStep, Listening,
  Listening.step
-/
import Mp257Fsbl.Foundation.Transition
import Mp257Fsbl.Usb.Control.Device

namespace Mp257Fsbl.Usb.Control

open Mp257Fsbl.Foundation

variable {σ α κ : Type} {answer : List EpCmd → EpCmd → CmdAnswer}

/-! ### What the driver leaves as it is -/

/-- The controller ends every command well. -/
def Obeys (answer : List EpCmd → EpCmd → CmdAnswer) : Prop :=
  ∀ cmds cmd, (answer cmds cmd).status = .ok

/-- The descriptor of a transfer of this endpoint. -/
def ControlEp.started (ep : ControlEp) : ControlTrb :=
  { bp := ep.dmaAddr, size := trbSizeLength ep.xferLen, ctl := ep.trbFlag, hwo := true }

theorem startXfer_out (h : Dwc3) :
    ∃ reqQueued rescIdx, (dwc3EpStartXfer answer .dirOut h).2 =
        { h with
          outEp := { h.outEp with trb := h.outEp.started, reqQueued, rescIdx }
          cmds := h.cmds ++ [.startTransfer .dirOut] } ∧
      (Obeys answer → reqQueued = true) := by
  unfold dwc3EpStartXfer dwc3ExecuteDepCmd
  dsimp only
  split
  · rename_i failed
    exact ⟨_, _, rfl, fun obeys => absurd (obeys _ _) failed⟩
  · exact ⟨_, _, rfl, fun _ => rfl⟩

theorem startXfer_in (h : Dwc3) :
    ∃ reqQueued rescIdx, (dwc3EpStartXfer answer .dirIn h).2 =
        { h with
          inEp := { h.inEp with trb := h.inEp.started, reqQueued, rescIdx }
          cmds := h.cmds ++ [.startTransfer .dirIn] } ∧
      (Obeys answer → reqQueued = true) := by
  unfold dwc3EpStartXfer dwc3ExecuteDepCmd
  dsimp only
  split
  · rename_i failed
    exact ⟨_, _, rfl, fun obeys => absurd (obeys _ _) failed⟩
  · exact ⟨_, _, rfl, fun _ => rfl⟩

/-- The stage that a transfer of so many bytes is. -/
def Dwc3.stage (h : Dwc3) (len : UInt32) : ControlCtl :=
  if len = 0 then if h.setupAddr.reqLen = 0 then .status2 else .status3 else .data

theorem epStartXfer_in (h : Dwc3) :
    ∃ reqQueued rescIdx, (usbDwc3EpStartXfer answer .dirIn h).2 =
        { h with
          inEp :=
            { h.inEp with
              dmaAddr := h.inEp.xferBuff
              trbFlag := h.stage h.inEp.xferLen
              trb :=
                { bp := h.inEp.xferBuff
                  size := trbSizeLength h.inEp.xferLen
                  ctl := h.stage h.inEp.xferLen
                  hwo := true }
              reqQueued, rescIdx }
          cmds := h.cmds ++ [.startTransfer .dirIn] } ∧
      (Obeys answer → reqQueued = true) :=
  @startXfer_in answer
    { h with
      inEp := { h.inEp with dmaAddr := h.inEp.xferBuff, trbFlag := h.stage h.inEp.xferLen } }

theorem alignMultiple_zero (a : UInt32) : alignMultiple 0 a = 0 := by
  have divided : (0 : UInt32) / a = 0 := by
    rw [← UInt32.toNat_inj, UInt32.toNat_div]
    exact Nat.zero_div _
  have left : (0 : UInt32) % a = 0 := by
    rw [← UInt32.toNat_inj, UInt32.toNat_mod]
    exact Nat.zero_mod _
  simp [alignMultiple, divided, left]

/-- The status stage in the OUT direction. -/
theorem epStartXfer_out {h : Dwc3} (empty : h.outEp.xferLen = 0) :
    ∃ reqQueued rescIdx, (usbDwc3EpStartXfer answer .dirOut h).2 =
        { h with
          outEp :=
            { h.outEp with
              dmaAddr := h.outEp.xferBuff
              trbFlag := h.stage 0
              trb := { bp := h.outEp.xferBuff, size := 0, ctl := h.stage 0, hwo := true }
              reqQueued, rescIdx }
          cmds := h.cmds ++ [.startTransfer .dirOut] } ∧
      (Obeys answer → reqQueued = true) := by
  have started := @startXfer_out answer
    { h with
      outEp := { h.outEp with xferLen := 0, dmaAddr := h.outEp.xferBuff, trbFlag := h.stage 0 } }
  have len : alignMultiple 0 h.outEp.maxpacket = 0 := alignMultiple_zero _
  simpa [usbDwc3EpStartXfer, Dwc3.ep, Dwc3.setEp, empty, len, ControlEp.started, Dwc3.stage,
    trbSizeLength] using started

/-- A descriptor for the next SETUP packet, or one that the controller has used. -/
structure ControlTrb.IsSetup (trb : ControlTrb) : Prop where
  ctl : trb.ctl = .setup
  bp : trb.bp = .setup
  size : trb.hwo = true → trb.size = 8

/-- The OUT direction: a SETUP descriptor wherever the driver says that one is
queued, and never one for data. -/
structure Dwc3.OutOk (h : Dwc3) : Prop where
  queued : h.ep0State = .setupQueued → h.outEp.trb.IsSetup
  noData : h.outEp.trb.ctl ≠ .data

/-- From the first to the second state the driver keeps the OUT direction sound and
starts no transfer in the IN direction. -/
structure Keeps (h h' : Dwc3) : Prop where
  out : h.OutOk → h'.OutOk
  trb : h'.inEp.trb = h.inEp.trb
  xferLen : h'.inEp.xferLen = h.inEp.xferLen

namespace Keeps

variable {h h' h'' : Dwc3}

theorem refl (h : Dwc3) : Keeps h h := ⟨id, rfl, rfl⟩

theorem trans (first : Keeps h h') (second : Keeps h' h'') : Keeps h h'' where
  out := second.out ∘ first.out
  trb := second.trb.trans first.trb
  xferLen := second.xferLen.trans first.xferLen

/-- A state that differs in other members, or waits no more for a SETUP. -/
theorem of_same (out : h'.outEp.trb = h.outEp.trb)
    (state : h'.ep0State = .setupQueued → h.ep0State = .setupQueued)
    (trb : h'.inEp.trb = h.inEp.trb) (xferLen : h'.inEp.xferLen = h.inEp.xferLen) :
    Keeps h h' where
  out ok :=
    { queued := fun queued => out ▸ ok.queued (state queued)
      noData := out ▸ ok.noData }
  trb := trb
  xferLen := xferLen

end Keeps

theorem outStart_ok (h : Dwc3) : (dwc3Ep0OutStart answer h).2.OutOk := by
  unfold dwc3Ep0OutStart
  obtain ⟨_, _, started, _⟩ := @startXfer_out answer
    { h with outEp := { h.outEp with dmaAddr := .setup, xferLen := 8, trbFlag := .setup } }
  have size : trbSizeLength 8 = 8 := by decide
  rw [started]
  exact ⟨fun _ => ⟨rfl, rfl, fun _ => size⟩, nofun⟩

theorem keeps_outStart (h : Dwc3) : Keeps h (dwc3Ep0OutStart answer h).2 := by
  refine ⟨fun _ => outStart_ok h, ?_, ?_⟩
  all_goals
    unfold dwc3Ep0OutStart
    obtain ⟨_, _, started, _⟩ := @startXfer_out answer
      { h with outEp := { h.outEp with dmaAddr := .setup, xferLen := 8, trbFlag := .setup } }
    rw [started]

/-- Waiting for a SETUP again, behind whatever came before. -/
theorem keeps_queue {h h' : Dwc3} (trb : h'.inEp.trb = h.inEp.trb)
    (xferLen : h'.inEp.xferLen = h.inEp.xferLen) : Keeps h (dwc3Ep0OutStart answer h').2 := by
  have kept := @keeps_outStart answer h'
  exact ⟨fun _ => outStart_ok h', kept.trb.trans trb, kept.xferLen.trans xferLen⟩

theorem keeps_requeue (h : Dwc3) : Keeps h (dwc3Requeue answer h) := keeps_queue rfl rfl

theorem keeps_stopXfer (dir : Dir) (h : Dwc3) : Keeps h (dwc3EpStopXfer answer dir h).2 := by
  unfold dwc3EpStopXfer dwc3ExecuteDepCmd
  split
  · exact .refl h
  · cases dir with
    | dirOut => exact .of_same rfl nofun rfl rfl
    | dirIn => exact .of_same rfl id rfl rfl

theorem keeps_epSetStall (dir : Dir) (h : Dwc3) : Keeps h (usbDwc3EpSetStall answer dir h).2 := by
  unfold usbDwc3EpSetStall dwc3ExecuteDepCmd
  split
  · exact .refl h
  · cases dir with
    | dirOut => exact .of_same rfl id rfl rfl
    | dirIn => exact .of_same rfl id rfl rfl

theorem keeps_epaddrSetStall (h : Dwc3) : Keeps h (dwc3EpaddrSetStall answer h).2 := by
  unfold dwc3EpaddrSetStall dwc3ExecuteDepCmd
  split
  · exact .refl h
  · dsimp only
    split
    · exact .of_same rfl id rfl rfl
    · exact keeps_queue rfl rfl

/-! ### What the driver makes of an event -/

/-- The core is only asked to end a data stage where no SETUP is queued, or where
the last transfer was empty. -/
def EndsData (h : Dwc3) (result : UsbAction × Dwc3) : Prop :=
  result.1 = .dataIn 0 → result.2.ep0State = .setupCompleted ∨ h.inEp.xferLen = 0

theorem keeps_complete (dir : Dir) (h : Dwc3) :
    Keeps h (dwc3HandleEp0Complete answer dir h).2 ∧
      EndsData h (dwc3HandleEp0Complete answer dir h) := by
  cases dir with
  | dirIn =>
      have counted (reqQueued : Bool) (xferCount : UInt32) :
          Keeps h { h with inEp := { h.inEp with xferCount, reqQueued } } :=
        .of_same rfl id rfl rfl
      unfold dwc3HandleEp0Complete
      dsimp only
      by_cases empty : h.inEp.xferLen = 0
      · rw [if_pos empty]
        refine ⟨?_, fun _ => .inr empty⟩
        split
        · exact ((counted _ _).trans (keeps_epaddrSetStall _)).trans (keeps_requeue _)
        · exact (counted _ _).trans (keeps_requeue _)
      · rw [if_neg empty]
        refine ⟨?_, nofun⟩
        split
        · exact (counted _ _).trans (keeps_epaddrSetStall _)
        · exact counted _ _
  | dirOut =>
      unfold dwc3HandleEp0Complete
      dsimp only
      split
      · split
        · exact ⟨.of_same rfl nofun rfl rfl, nofun⟩
        · exact ⟨.of_same rfl nofun rfl rfl, nofun⟩
      · by_cases bounced : h.outEp.xferBuff = .bounce
        · rw [if_pos bounced]
          split
          · exact ⟨keeps_queue rfl rfl, nofun⟩
          · exact ⟨.of_same rfl id rfl rfl, nofun⟩
        · rw [if_neg bounced]
          split
          · exact ⟨keeps_queue rfl rfl, nofun⟩
          · exact ⟨.of_same rfl id rfl rfl, nofun⟩

theorem keeps_notReady (dir : Dir) (status : NotReady) (h : Dwc3) :
    Keeps h (dwc3HandleEp0NotReady answer dir status h).2 ∧
      EndsData h (dwc3HandleEp0NotReady answer dir status h) := by
  unfold dwc3HandleEp0NotReady
  split
  · exact ⟨keeps_epaddrSetStall h, nofun⟩
  · rename_i busy
    have completed : h.ep0State = .setupCompleted := by
      cases state : h.ep0State with
      | setupCompleted => rfl
      | setupQueued => exact absurd state busy
    have stopped (dir : Dir) :
        Keeps h (dwc3EpaddrSetStall answer (dwc3EpStopXfer answer dir h).2).2 :=
      (keeps_stopXfer dir h).trans (keeps_epaddrSetStall _)
    unfold dwc3HandleEp0XfernotreadyEvent
    split
    · cases status with
      | ctrlData => exact ⟨keeps_epaddrSetStall h, nofun⟩
      | ctrlStatus => exact ⟨.of_same rfl id rfl rfl, nofun⟩
      | other => exact ⟨.refl h, nofun⟩
    · cases status with
      | ctrlData =>
          cases dir with
          | dirIn =>
              dsimp only
              split
              · exact ⟨stopped _, nofun⟩
              · exact ⟨.refl h, nofun⟩
          | dirOut =>
              dsimp only
              split
              · exact ⟨stopped _, nofun⟩
              · exact ⟨.refl h, nofun⟩
      | ctrlStatus => exact ⟨.refl h, fun _ => .inl completed⟩
      | other => exact ⟨.refl h, nofun⟩

theorem keeps_epEvent (event : UInt32) (h : Dwc3) :
    Keeps h (dwc3HandleEpEvent answer event h).2 ∧
      EndsData h (dwc3HandleEpEvent answer event h) := by
  unfold dwc3HandleEpEvent
  dsimp only
  split
  · split
    · exact keeps_complete _ h
    · rename_i other
      refine ⟨.refl h, fun zero => ?_⟩
      dsimp only at zero
      split at zero
      · exact absurd (UsbAction.dataIn.inj zero) other
      · cases zero
  · split
    · exact keeps_notReady _ _ h
    · exact ⟨.refl h, nofun⟩

theorem keeps_reset (h : Dwc3) : Keeps h (dwc3HandleReset answer h) := by
  have stopIn (h : Dwc3) (devAddr : UInt8) :
      Keeps h { (dwc3EpStopXfer answer .dirIn h).2 with devAddr } :=
    (keeps_stopXfer .dirIn h).trans (.of_same rfl id rfl rfl)
  unfold dwc3HandleReset
  dsimp only
  split
  · exact ((keeps_stopXfer .dirOut h).trans (keeps_epaddrSetStall _)).trans (stopIn _ _)
  · exact stopIn _ _

theorem keeps_connectDone (mps : UInt32) (h : Dwc3) :
    Keeps h (dwc3HandleConnectDone answer mps h).2 ∧
      EndsData h (dwc3HandleConnectDone answer mps h) := by
  unfold dwc3HandleConnectDone dwc3ExecuteDepCmd
  dsimp only
  split
  · exact ⟨.of_same rfl id rfl rfl, nofun⟩
  · split
    · exact ⟨.of_same rfl id rfl rfl, nofun⟩
    · exact ⟨.of_same rfl id rfl rfl, nofun⟩

theorem keeps_handleEvent (dsts event : UInt32) (h : Dwc3) :
    Keeps h (dwc3HandleEvent answer dsts event h).2 ∧
      EndsData h (dwc3HandleEvent answer dsts event h) := by
  unfold dwc3HandleEvent
  split
  · exact keeps_epEvent event h
  · unfold dwc3HandleDevEvent
    cases dwc3ReadDevEvtType event with
    | reset => exact ⟨keeps_reset h, nofun⟩
    | connectDone => exact keeps_connectDone _ h
    | _ => exact ⟨.refl h, nofun⟩

/-! ### Replies -/

section

variable (ep0Call : α → Option Ep0Call)

/-- No reply of a packet or more. -/
def SmallAction : CoreAction α → Prop
  | .byClass action => ∀ data, ep0Call action = some (.transmit data) → data.length < 64
  | .transmitEp0 data => data.length < 64
  | _ => True

def AllSmall (actions : List (CoreAction α)) : Prop :=
  ∀ action ∈ actions, SmallAction ep0Call action

/-- A class whose callbacks have no reply of a packet or more. -/
structure SmallClass (cls : UsbClass σ α) : Prop where
  init : ∀ cfgidx s, AllSmall ep0Call ((cls.init cfgidx s).2.2.map .byClass)
  deInit : ∀ cfgidx s, AllSmall ep0Call ((cls.deInit cfgidx s).2.map .byClass)
  setup : ∀ req s, AllSmall ep0Call ((cls.setup req s).2.map .byClass)
  dataIn : ∀ epnum s, AllSmall ep0Call ((cls.dataIn epnum s).2.map .byClass)
  dataOut : ∀ epnum s, AllSmall ep0Call ((cls.dataOut epnum s).2.map .byClass)

/-- Small descriptors. -/
def SmallDesc (desc : UInt16 → Option (List UInt8)) : Prop :=
  ∀ value pbuf, desc value = some pbuf → pbuf.length < 64

variable {ep0Call}

theorem AllSmall.nil : AllSmall ep0Call [] := nofun

theorem AllSmall.append {first second : List (CoreAction α)} (one : AllSmall ep0Call first)
    (two : AllSmall ep0Call second) : AllSmall ep0Call (first ++ second) :=
  List.forall_mem_append.mpr ⟨one, two⟩

theorem AllSmall.single {action : CoreAction α} (small : SmallAction ep0Call action) :
    AllSmall ep0Call [action] := List.forall_mem_singleton.mpr small

/-- The actions of the core are small, and it keeps its descriptors. -/
structure SmallHandled (ep0Call : α → Option Ep0Call) (h : UsbHandle) (handled : Handled σ α) :
    Prop where
  actions : AllSmall ep0Call handled.actions
  desc : handled.handle.desc = h.desc

variable {cls : UsbClass σ α} {h : UsbHandle}

theorem smallHandled_ctlError (s : σ) : SmallHandled ep0Call h (Usb.usbCoreCtlError h s) :=
  ⟨List.forall_mem_singleton.mpr trivial, rfl⟩

theorem smallHandled_sendStatus (s : σ) : SmallHandled ep0Call h (usbCoreSendStatus h s) :=
  ⟨.single (Nat.zero_lt_succ _), rfl⟩

theorem smallHandled_startClass (small : SmallClass ep0Call cls) (cfgidx : UInt8)
    {h' : UsbHandle} (desc : h'.desc = h.desc) (s : σ) :
    SmallHandled ep0Call h (usbCoreStartClass cls cfgidx h' s) := by
  refine ⟨(small.init cfgidx s).append ?_, desc⟩
  split
  · exact .single trivial
  · exact .single (Nat.zero_lt_succ _)

theorem smallHandled_setConfig (small : SmallClass ep0Call cls) (req : UsbSetupReq) (s : σ) :
    SmallHandled ep0Call h (usbCoreSetConfig cls req h s) := by
  unfold usbCoreSetConfig
  dsimp only
  split
  · exact smallHandled_ctlError s
  · cases h.devState with
    | addressed =>
        dsimp only
        split
        · exact smallHandled_startClass small _ (by rfl) s
        · exact smallHandled_sendStatus s
    | configured =>
        dsimp only
        split
        · exact ⟨(small.deInit _ s).append (.single (Nat.zero_lt_succ _)), rfl⟩
        · split
          · have started := @smallHandled_startClass σ α ep0Call cls h small (lobyte req.value)
              { h with devConfig := (lobyte req.value).toUInt32 } rfl
              (cls.deInit h.devConfig.toUInt8 s).1
            exact ⟨(small.deInit _ s).append started.actions, started.desc⟩
          · exact smallHandled_sendStatus s
    | _ => exact smallHandled_ctlError s

theorem smallHandled_devReq (small : SmallClass ep0Call cls) (smallDesc : SmallDesc h.desc)
    (req : UsbSetupReq) (s : σ) : SmallHandled ep0Call h (usbCoreDevReq cls req h s) := by
  unfold usbCoreDevReq
  split
  · unfold usbCoreGetDesc
    split
    · exact smallHandled_ctlError s
    · rename_i pbuf found
      split
      · have short := smallDesc _ pbuf found
        have within := List.length_take_le' req.length.toNat pbuf
        exact ⟨.single (Nat.lt_of_le_of_lt within short), rfl⟩
      · exact ⟨.nil, rfl⟩
  · split
    · exact smallHandled_setConfig small req s
    · split
      · unfold usbCoreGetStatus
        split
        · exact smallHandled_ctlError s
        · refine ⟨.single ?_, rfl⟩
          exact (by decide : 2 < 64)
      · split
        · unfold usbCoreSetAddress
          split
          · exact smallHandled_ctlError s
          · split
            · exact smallHandled_ctlError s
            · have status : AllSmall ep0Call [.transmitEp0 []] := .single (Nat.zero_lt_succ _)
              exact ⟨List.forall_mem_cons.mpr ⟨trivial, status⟩, rfl⟩
        · exact smallHandled_ctlError s

theorem smallHandled_setup (small : SmallClass ep0Call cls) (smallDesc : SmallDesc h.desc)
    (req : UsbSetupReq) (s : σ) : SmallHandled ep0Call h (usbCoreSetupStage cls req h s) := by
  unfold usbCoreSetupStage
  split
  · exact smallHandled_devReq small smallDesc req s
  · split
    · unfold usbCoreItfReq
      split
      · exact smallHandled_ctlError s
      · split
        · refine ⟨(small.setup req s).append ?_, rfl⟩
          split
          · exact .single (Nat.zero_lt_succ _)
          · exact .nil
        · exact smallHandled_ctlError s
    · exact ⟨.single trivial, rfl⟩

theorem smallHandled_handleIt (small : SmallClass ep0Call cls) (smallDesc : SmallDesc h.desc)
    (action : UsbAction) (s : σ) :
    SmallHandled ep0Call h (usbCoreHandleIt cls action h s) := by
  cases action with
  | dataOut epnum =>
      unfold usbCoreHandleIt usbCoreDataOut
      dsimp only
      split
      · exact ⟨small.dataOut epnum s, rfl⟩
      · exact ⟨.nil, rfl⟩
  | dataIn epnum =>
      unfold usbCoreHandleIt usbCoreDataIn
      dsimp only
      split
      · exact ⟨small.dataIn epnum s, rfl⟩
      · exact ⟨.nil, rfl⟩
  | setup req => exact smallHandled_setup small smallDesc req s
  | disconnect => exact ⟨small.deInit _ s, rfl⟩
  | resume =>
      unfold usbCoreHandleIt
      dsimp only
      split <;> exact ⟨.nil, rfl⟩
  | lpm =>
      unfold usbCoreHandleIt
      dsimp only
      split <;> exact ⟨.nil, rfl⟩
  | _ => exact ⟨.nil, rfl⟩

end

/-! ### The core -/

/-- What holds of endpoint zero in every order of events. -/
structure Listening (desc : UInt16 → Option (List UInt8)) (d : Device σ) : Prop where
  out : d.dwc3.OutOk
  /-- A data stage that the core has begun is one packet of the IN direction. -/
  dataIn : d.ep0State = .dataIn → d.dwc3.inEp.xferLen ≠ 0 ∧ d.epIn.totalLength < 64 ∧
    d.epIn.remLength = d.epIn.totalLength
  noDataOut : d.ep0State ≠ .dataOut
  packet : d.epIn.maxpacket = 64
  /-- A data descriptor is for the bytes of a reply. -/
  inData : d.dwc3.inEp.trb.hwo = true → d.dwc3.inEp.trb.ctl = .data →
    ∃ bytes, d.dwc3.inEp.trb.bp = .data bytes ∧ d.dwc3.inEp.trb.size.toNat = bytes.length ∧
      bytes.length < 64
  desc : d.handle.desc = desc

namespace Listening

variable {desc : UInt16 → Option (List UInt8)} {d : Device σ}

theorem of_keeps (listening : Listening desc d) {h : Dwc3} (keeps : Keeps d.dwc3 h) :
    Listening desc { d with dwc3 := h } where
  out := keeps.out listening.out
  dataIn state := ⟨keeps.xferLen ▸ (listening.dataIn state).1, (listening.dataIn state).2⟩
  noDataOut := listening.noDataOut
  packet := listening.packet
  inData owned := by
    dsimp only at owned ⊢
    rw [keeps.trb] at owned ⊢
    exact listening.inData owned
  desc := listening.desc

theorem setStall (listening : Listening desc d) (dir : Dir) :
    Listening desc (usbCoreSetStall answer dir d) := by
  have stalled := @keeps_epSetStall answer dir d.dwc3
  unfold usbCoreSetStall
  dsimp only
  split
  · exact listening.of_keeps (stalled.trans (keeps_queue rfl rfl))
  · exact listening.of_keeps stalled

theorem ctlError (listening : Listening desc d) : Listening desc (usbCoreCtlError answer d) :=
  (listening.setStall .dirIn).setStall .dirOut

theorem length_toNat {data : List UInt8} (small : data.length < 64) :
    (UInt32.ofNat data.length).toNat = data.length := by
  rw [UInt32.toNat_ofNat']
  exact Nat.mod_eq_of_lt (Nat.lt_trans small (by decide))

theorem send (listening : Listening desc d) {data : List UInt8} (small : data.length < 64) :
    Listening desc (sendEp0 answer data d) := by
  have len := length_toNat small
  have empty_iff : UInt32.ofNat data.length = 0 ↔ data = [] := by
    rw [← UInt32.toNat_inj, len, UInt32.toNat_zero, List.length_eq_zero_iff]
  have size : (trbSizeLength (UInt32.ofNat data.length)).toNat = data.length := by
    rw [trbSizeLength_toNat, len]
    exact Nat.mod_eq_of_lt (Nat.lt_trans small (by decide))
  have short : UInt32.ofNat data.length < 64 := by
    rw [UInt32.lt_iff_toNat_lt, len]
    exact small
  unfold sendEp0 usbCoreTransmitEp0 usbCoreTransmit
  dsimp only
  obtain ⟨_, _, started, _⟩ := @epStartXfer_in answer
    { d.dwc3 with
      inEp :=
        { d.dwc3.inEp with
          xferBuff := if data = [] then .null else .data data
          xferLen := UInt32.ofNat data.length
          xferCount := 0 } }
  rw [started]
  by_cases empty : data = []
  · have zero := empty_iff.mpr empty
    refine ⟨⟨listening.out.queued, listening.out.noData⟩, ?_, ?_, listening.packet, ?_,
      listening.desc⟩
    · simp [zero]
    · simp [zero]
    · intro _ data
      simp only [Dwc3.stage, zero, if_true] at data
      split at data <;> cases data
  · have nonzero : ¬ UInt32.ofNat data.length = 0 := fun zero => empty (empty_iff.mp zero)
    refine ⟨⟨listening.out.queued, listening.out.noData⟩, fun _ => ⟨nonzero, short, rfl⟩, ?_,
      listening.packet, fun _ _ => ⟨data, if_neg empty, size, small⟩, listening.desc⟩
    simp [nonzero]

/-- The status stage behind data takes the OUT direction, while no SETUP is queued. -/
theorem receiveStatus (listening : Listening desc d)
    (completed : d.dwc3.ep0State = .setupCompleted) :
    Listening desc (usbCoreReceiveEp0 answer .null 0 d) := by
  unfold usbCoreReceiveEp0 usbCoreReceive
  dsimp only
  obtain ⟨_, _, started, _⟩ := @epStartXfer_out answer
    { d.dwc3 with outEp := { d.dwc3.outEp with xferBuff := .null, xferLen := 0, xferCount := 0 } }
    rfl
  rw [started]
  refine ⟨⟨?_, ?_⟩, ?_, ?_, listening.packet, listening.inData, listening.desc⟩
  · intro queued
    rw [completed] at queued
    cases queued
  · simp only [Dwc3.stage, if_true]
    split <;> nofun
  · simp
  · simp

theorem dataOut0 (listening : Listening desc d) : Listening desc (usbCoreDataOut0 answer d) := by
  rw [usbCoreDataOut0, if_neg listening.noDataOut]
  exact listening

theorem dataIn0 (listening : Listening desc d)
    (ends : d.dwc3.ep0State = .setupCompleted ∨ d.dwc3.inEp.xferLen = 0) :
    Listening desc (usbCoreDataIn0 answer d) := by
  unfold usbCoreDataIn0
  split
  · rename_i state
    obtain ⟨nonzero, small, whole⟩ := listening.dataIn state
    have completed := ends.resolve_right nonzero
    have one : ¬ d.epIn.remLength > d.epIn.maxpacket := by
      rw [whole, listening.packet]
      exact UInt32.not_lt.mpr (UInt32.le_of_lt small)
    have short : ¬ d.epIn.maxpacket ≤ d.epIn.totalLength := by
      rw [listening.packet]
      exact UInt32.not_le.mpr small
    rw [if_neg one, if_neg fun all => short all.2.1]
    exact listening.receiveStatus completed
  · exact listening

variable {ep0Call : α → Option Ep0Call}

theorem performed (listening : Listening desc d) {action : CoreAction α}
    (small : SmallAction ep0Call action) :
    Listening desc (perform answer ep0Call d action) := by
  cases action with
  | byClass action =>
      unfold perform
      dsimp only
      cases call : ep0Call action with
      | none => exact listening
      | some effect =>
          cases effect with
          | transmit data => exact listening.send (small data call)
          | ctlError => exact listening.ctlError
  | transmitEp0 data => exact listening.send small
  | ctlError => exact listening.ctlError
  | setStall epAddr => exact listening.setStall _
  | setAddress address => exact listening.of_keeps (.of_same rfl id rfl rfl)

theorem performedAll {actions : List (CoreAction α)} (small : AllSmall ep0Call actions)
    {d : Device σ} (listening : Listening desc d) :
    Listening desc (actions.foldl (perform answer ep0Call) d) := by
  induction actions generalizing d with
  | nil => exact listening
  | cons action actions ih =>
      obtain ⟨first, rest⟩ := List.forall_mem_cons.mp small
      exact ih rest (listening.performed first)

variable {cls : UsbClass σ α}

theorem begun (listening : Listening desc d) (action : UsbAction) :
    Listening desc (beginSetup action d) := by
  cases action with
  | setup req =>
      exact ⟨listening.out, nofun, nofun, listening.packet, listening.inData, listening.desc⟩
  | _ => exact listening

theorem core (listening : Listening desc d) (small : SmallClass ep0Call cls)
    (smallDesc : SmallDesc desc) (action : UsbAction) :
    Listening desc (runCore answer ep0Call cls action d) := by
  have handled := @smallHandled_handleIt σ α ep0Call cls d.handle small
    (listening.desc ▸ smallDesc) action d.dev
  exact performedAll handled.actions
    ⟨listening.out, listening.dataIn, listening.noDataOut, listening.packet, listening.inData,
      handled.desc.trans listening.desc⟩

theorem handled (listening : Listening desc d) (small : SmallClass ep0Call cls)
    (smallDesc : SmallDesc desc) {action : UsbAction}
    (ends : action = .dataIn 0 → d.dwc3.ep0State = .setupCompleted ∨ d.dwc3.inEp.xferLen = 0) :
    Listening desc (handleAction answer ep0Call cls action d) := by
  unfold handleAction
  split
  · rename_i dataIn
    exact listening.dataIn0 (ends dataIn)
  · split
    · exact listening.dataOut0
    · exact (listening.begun action).core small smallDesc action

theorem event (listening : Listening desc d) (small : SmallClass ep0Call cls)
    (smallDesc : SmallDesc desc) (dsts event : UInt32) :
    Listening desc (handleEvent answer ep0Call cls dsts event d) := by
  obtain ⟨keeps, ends⟩ := @keeps_handleEvent answer dsts event d.dwc3
  unfold handleEvent
  refine (listening.of_keeps keeps).handled small smallDesc fun dataIn => ?_
  dsimp only at dataIn ⊢
  rw [keeps.xferLen]
  exact ends dataIn

end Listening

/-! ### Runs -/

/-- What happens to endpoint zero: the controller stores a SETUP packet, it is done
with a descriptor and says how much of the buffer is left, or the device handles an
event while the class is as given. -/
inductive BusEvent (κ : Type) where
  | packet (bytes : SetupPacket)
  | complete (dir : Dir) (left : UInt32)
  | handle (outside : κ) (dsts event : UInt32)

/-- The steps in any order, with any events. -/
inductive DeviceStep (answer : List EpCmd → EpCmd → CmdAnswer) (ep0Call : α → Option Ep0Call)
    (cls : κ → UsbClass σ α) : Step (Device σ) (BusEvent κ) where
  | packet {d : Device σ} {bytes : SetupPacket} :
      DeviceStep answer ep0Call cls d (.packet bytes)
        { d with dwc3 := { d.dwc3 with setupAddr := bytes } }
  | complete {d : Device σ} {dir : Dir} {left : UInt32} :
      DeviceStep answer ep0Call cls d (.complete dir left)
        { d with
          dwc3 :=
            d.dwc3.setEp dir
              { d.dwc3.ep dir with
                trb := { (d.dwc3.ep dir).trb with size := left, hwo := false } } }
  | handle {d : Device σ} {outside : κ} {dsts event : UInt32} :
      DeviceStep answer ep0Call cls d (.handle outside dsts event)
        (handleEvent answer ep0Call (cls outside) dsts event d)

theorem Listening.step {desc : UInt16 → Option (List UInt8)} {ep0Call : α → Option Ep0Call}
    {cls : κ → UsbClass σ α} (small : ∀ outside, SmallClass ep0Call (cls outside))
    (smallDesc : SmallDesc desc) {d d' : Device σ} {label : BusEvent κ}
    (listening : Listening desc d) (step : DeviceStep answer ep0Call cls d label d') :
    Listening desc d' := by
  cases step with
  | packet => exact listening.of_keeps (.of_same rfl id rfl rfl)
  | @complete _ dir left =>
      cases dir with
      | dirOut =>
          refine ⟨⟨fun queued => ?_, listening.out.noData⟩, listening.dataIn, listening.noDataOut,
            listening.packet, listening.inData, listening.desc⟩
          have waits := listening.out.queued queued
          exact ⟨waits.ctl, waits.bp, nofun⟩
      | dirIn =>
          exact ⟨⟨listening.out.queued, listening.out.noData⟩, listening.dataIn,
            listening.noDataOut, listening.packet, nofun, listening.desc⟩
  | handle => exact listening.event (small _) smallDesc _ _

theorem listening_started (desc : UInt16 → Option (List UInt8)) (dev : σ) :
    Listening desc (Device.started answer desc dev) where
  out := outStart_ok _
  dataIn := nofun
  noDataOut := nofun
  packet := rfl
  inData := by
    have kept := @keeps_outStart answer
      { ep0State := .setupQueued
        outEp := .zero
        inEp := .zero
        setupAddr := Vector.replicate 8 0
        pcdSetup := Vector.replicate 8 0
        devAddr := 0
        cmds := [] }
    intro owned
    rw [show (Device.started answer desc dev).dwc3.inEp.trb = _ from kept.trb] at owned
    cases owned
  desc := rfl

end Mp257Fsbl.Usb.Control
