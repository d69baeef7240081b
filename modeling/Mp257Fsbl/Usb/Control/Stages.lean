/-
Module: Mp257Fsbl.Usb.Control.Stages
Purpose: What the device makes of each event in each stage of a control transfer.
Trusted boundary: human-reviewed event words of endpoint zero
Main exports: Word, Word.bits, Reports, reports_taken, reports_closed, reports_acked,
  reports_sent, reports_stale, reports_asked, reports_reset, handled_event,
  handled_setup, handled_read, handled_done
-/
import Mp257Fsbl.Usb.Control.Replies

namespace Mp257Fsbl.Usb.Control

open Mp257Fsbl.Foundation
open Mp257Fsbl.Sd

variable {σ : Type} {answer : List EpCmd → EpCmd → CmdAnswer}

/-! ### Event words -/

/-- A word that neither is a transfer event of endpoint zero nor a bus reset. -/
def Other (word : UInt32) : Prop :=
  (dwc3IsEpEvent word → (dwc3ReadEpEvtEpnum word / 2).toUInt8 ≠ 0 ∨
    (dwc3ReadEpEvtType word ≠ 1 ∧ dwc3ReadEpEvtType word ≠ 3)) ∧
  (¬ dwc3IsEpEvent word → dwc3ReadDevEvtType word ≠ .reset)

instance (word : UInt32) : Decidable (Other word) :=
  inferInstanceAs (Decidable ((_ → _ ∨ (_ ∧ _)) ∧ (¬ _ → _ ≠ _)))

/-- What the controller writes to its event buffer. -/
inductive Word where
  | complete (dir : Dir)
  | notReady (dir : Dir) (status : NotReady)
  | reset
  | other (word : UInt32) (other : Other word)

def Dir.bit : Dir → UInt32
  | .dirOut => 0
  | .dirIn => 2

def NotReady.bits : NotReady → UInt32
  | .ctrlData => 0x1000
  | .ctrlStatus => 0x2000
  | .other => 0

def Word.bits : Word → UInt32
  | .complete dir => 0x40 ||| dir.bit
  | .notReady dir status => 0xC0 ||| dir.bit ||| status.bits
  | .reset => 0x101
  | .other word _ => word

/-- The driver reports an event to the core, with this view behind it. -/
structure Reports (answer : List EpCmd → EpCmd → CmdAnswer) (dsts : UInt32) (word : Word)
    (d : Device σ) (action : UsbAction) (v : Ep0View) : Prop where
  action : (dwc3HandleEvent answer dsts word.bits d.dwc3).1 = action
  view : ({ d with dwc3 := (dwc3HandleEvent answer dsts word.bits d.dwc3).2 } : Device σ).view = v

section

variable (dsts : UInt32) (h : Dwc3)

theorem handleEvent_complete (dir : Dir) :
    dwc3HandleEvent answer dsts (Word.complete dir).bits h =
      dwc3HandleEp0Complete answer dir h := by
  cases dir with
  | dirOut =>
      have isEp : dwc3IsEpEvent (Word.complete .dirOut).bits := by decide
      have type : dwc3ReadEpEvtType (Word.complete .dirOut).bits = 1 := by decide
      have epnum : dwc3ReadEpEvtEpnum (Word.complete .dirOut).bits = 0 := by decide
      rw [dwc3HandleEvent, if_pos isEp, dwc3HandleEpEvent, type, epnum]
      rfl
  | dirIn =>
      have isEp : dwc3IsEpEvent (Word.complete .dirIn).bits := by decide
      have type : dwc3ReadEpEvtType (Word.complete .dirIn).bits = 1 := by decide
      have epnum : dwc3ReadEpEvtEpnum (Word.complete .dirIn).bits = 1 := by decide
      rw [dwc3HandleEvent, if_pos isEp, dwc3HandleEpEvent, type, epnum]
      rfl

theorem handleEvent_notReady (dir : Dir) (status : NotReady) :
    dwc3HandleEvent answer dsts (Word.notReady dir status).bits h =
      dwc3HandleEp0NotReady answer dir status h := by
  have isEp : dwc3IsEpEvent (Word.notReady dir status).bits := by
    cases dir <;> cases status <;> decide
  have type : dwc3ReadEpEvtType (Word.notReady dir status).bits = 3 := by
    cases dir <;> cases status <;> decide
  have asked : dwc3ReadEpEvtStatus (Word.notReady dir status).bits = status := by
    cases dir <;> cases status <;> decide
  rw [dwc3HandleEvent, if_pos isEp, dwc3HandleEpEvent, type, asked]
  cases dir with
  | dirOut =>
      have epnum : dwc3ReadEpEvtEpnum (Word.notReady .dirOut status).bits = 0 := by
        cases status <;> decide
      rw [epnum]
      rfl
  | dirIn =>
      have epnum : dwc3ReadEpEvtEpnum (Word.notReady .dirIn status).bits = 1 := by
        cases status <;> decide
      rw [epnum]
      rfl

theorem handleEvent_reset :
    dwc3HandleEvent answer dsts Word.reset.bits h = (.reset, dwc3HandleReset answer h) := by
  have isDev : ¬ dwc3IsEpEvent Word.reset.bits := by decide
  have type : dwc3ReadDevEvtType Word.reset.bits = .reset := by decide
  rw [dwc3HandleEvent, if_neg isDev, dwc3HandleDevEvent, type]

end

/-! ### The driver -/

section

variable (dsts : UInt32) {d : Device σ}

/-- A SETUP packet has come; without a data stage the request waits. -/
theorem reports_taken (queued : d.dwc3.ep0State = .setupQueued) :
    Reports answer dsts (.complete .dirOut) d
      (if d.dwc3.setupAddr.reqLen = 0 then .nothing else .setup d.dwc3.setupAddr.req)
      { d.view with ep0State := .setupCompleted, stalled := false } := by
  by_cases empty : d.dwc3.setupAddr.reqLen = 0
  · constructor
    · rw [handleEvent_complete, dwc3HandleEp0Complete]
      simp [queued, empty]
    · rw [handleEvent_complete, dwc3HandleEp0Complete]
      simp [queued, empty, Device.view]
  · constructor
    · rw [handleEvent_complete, dwc3HandleEp0Complete]
      simp [queued, empty]
    · rw [handleEvent_complete, dwc3HandleEp0Complete]
      simp [queued, empty, Device.view]

/-- The status stage of a request that had data to send has ended. -/
theorem reports_closed (obeys : Obeys answer) (completed : d.dwc3.ep0State = .setupCompleted)
    (empty : d.dwc3.outEp.xferLen = 0) :
    Reports answer dsts (.complete .dirOut) d (.dataOut 0) d.view.requeued := by
  have busy : ¬ d.dwc3.ep0State = .setupQueued := by simp [completed]
  have requeued (xferBuff : Ep0Buffer) (xferCount : UInt32) :
      ({ d with
        dwc3 := dwc3Requeue answer
          { d.dwc3 with
            outEp := { d.dwc3.outEp with xferBuff, xferCount, reqQueued := false } } } :
        Device σ).view = d.view.requeued :=
    view_requeue obeys
      { d with
        dwc3 :=
          { d.dwc3 with
            outEp := { d.dwc3.outEp with xferBuff, xferCount, reqQueued := false } } }
  by_cases bounced : d.dwc3.outEp.xferBuff = .bounce
  · constructor
    · rw [handleEvent_complete, dwc3HandleEp0Complete]
      simp [busy, empty, bounced]
    · rw [handleEvent_complete, dwc3HandleEp0Complete]
      simpa [busy, empty, bounced] using requeued d.dwc3.outEp.xferDestBuff _
  · constructor
    · rw [handleEvent_complete, dwc3HandleEp0Complete]
      simp [busy, empty, bounced]
    · rw [handleEvent_complete, dwc3HandleEp0Complete]
      simpa [busy, empty, bounced] using requeued d.dwc3.outEp.xferBuff _

theorem trbSizeLength_zero : trbSizeLength 0 = 0 := by decide

/-- The status stage of a request without data has ended. -/
theorem reports_acked (obeys : Obeys answer) (empty : d.dwc3.inEp.xferLen = 0)
    (moved : d.dwc3.inEp.trb.size = 0) :
    Reports answer dsts (.complete .dirIn) d (.dataIn 0)
      { d.view.requeued with inQueued := false } := by
  have requeued :
      ({ d with
        dwc3 := dwc3Requeue answer
          { d.dwc3 with
            inEp := { d.dwc3.inEp with xferLen := 0, xferCount := 0, reqQueued := false } } } :
        Device σ).view =
        { d.view.requeued with inLen := 0, inQueued := false } :=
    view_requeue obeys
      { d with
        dwc3 :=
          { d.dwc3 with
            inEp := { d.dwc3.inEp with xferLen := 0, xferCount := 0, reqQueued := false } } }
  have len : ({ d.view.requeued with inQueued := false } : Ep0View) =
      { d.view.requeued with inLen := 0, inQueued := false } := by
    simp [Ep0View.requeued, Device.view, empty]
  constructor
  · rw [handleEvent_complete, dwc3HandleEp0Complete]
    simp [empty]
  · rw [handleEvent_complete, dwc3HandleEp0Complete, len]
    simpa [empty, moved, trbSizeLength_zero] using requeued

/-- The host has read the data. -/
theorem reports_sent (some_bytes : d.dwc3.inEp.xferLen ≠ 0) (moved : d.dwc3.inEp.trb.size = 0) :
    Reports answer dsts (.complete .dirIn) d .nothing { d.view with inQueued := false } := by
  constructor
  · rw [handleEvent_complete, dwc3HandleEp0Complete]
    simp [some_bytes]
  · rw [handleEvent_complete, dwc3HandleEp0Complete]
    simp [some_bytes, moved, trbSizeLength_zero, Device.view]

/-- The host has asked in a stage that has been refused. -/
theorem reports_stale (dir : Dir) (status : NotReady) (queued : d.dwc3.ep0State = .setupQueued)
    (stalled : d.dwc3.outEp.isStall = true) :
    Reports answer dsts (.notReady dir status) d .nothing d.view := by
  constructor
  · rw [handleEvent_notReady, dwc3HandleEp0NotReady, if_pos queued]
  · rw [handleEvent_notReady, dwc3HandleEp0NotReady, if_pos queued, dwc3EpaddrSetStall,
      if_pos stalled]

/-- The host has asked for the status of a request without data. -/
theorem reports_asked (completed : d.dwc3.ep0State = .setupCompleted)
    (empty : d.dwc3.setupAddr.reqLen = 0) :
    Reports answer dsts (.notReady .dirIn .ctrlStatus) d (.setup d.dwc3.setupAddr.req) d.view := by
  have busy : ¬ d.dwc3.ep0State = .setupQueued := by simp [completed]
  constructor
  · rw [handleEvent_notReady, dwc3HandleEp0NotReady, if_neg busy, dwc3HandleEp0XfernotreadyEvent,
      if_pos empty]
  · rw [handleEvent_notReady, dwc3HandleEp0NotReady, if_neg busy, dwc3HandleEp0XfernotreadyEvent,
      if_pos empty]
    rfl

/-- The host has asked for data before there was any. -/
theorem reports_early (completed : d.dwc3.ep0State = .setupCompleted)
    (some_length : d.dwc3.setupAddr.reqLen ≠ 0) (inward : d.dwc3.setupAddr.dataDirIn ≠ 0) :
    Reports answer dsts (.notReady .dirIn .ctrlData) d .nothing d.view := by
  have busy : ¬ d.dwc3.ep0State = .setupQueued := by simp [completed]
  constructor
  · rw [handleEvent_notReady, dwc3HandleEp0NotReady, if_neg busy, dwc3HandleEp0XfernotreadyEvent,
      if_neg some_length]
    exact congrArg Prod.fst (if_neg inward)
  · rw [handleEvent_notReady, dwc3HandleEp0NotReady, if_neg busy, dwc3HandleEp0XfernotreadyEvent,
      if_neg some_length]
    exact congrArg (fun made : UsbAction × Dwc3 => ({ d with dwc3 := made.2 } : Device σ).view)
      (if_neg inward)

/-- The host has asked for the status behind data. -/
theorem reports_read (completed : d.dwc3.ep0State = .setupCompleted)
    (some_length : d.dwc3.setupAddr.reqLen ≠ 0) :
    Reports answer dsts (.notReady .dirOut .ctrlStatus) d (.dataIn 0) d.view := by
  have busy : ¬ d.dwc3.ep0State = .setupQueued := by simp [completed]
  constructor
  · rw [handleEvent_notReady, dwc3HandleEp0NotReady, if_neg busy, dwc3HandleEp0XfernotreadyEvent,
      if_neg some_length]
    rfl
  · rw [handleEvent_notReady, dwc3HandleEp0NotReady, if_neg busy, dwc3HandleEp0XfernotreadyEvent,
      if_neg some_length]

/-- A bus reset between transfers. -/
theorem reports_reset_queued (queued : d.dwc3.ep0State = .setupQueued)
    (idle : d.dwc3.inEp.reqQueued = false) : Reports answer dsts .reset d .reset d.view := by
  have waits : ¬ d.dwc3.ep0State ≠ .setupQueued := not_not_intro queued
  have noTransfer : ¬ (d.dwc3.ep .dirIn).reqQueued = true := by simp [Dwc3.ep, idle]
  constructor
  · rw [handleEvent_reset]
  · rw [handleEvent_reset, dwc3HandleReset]
    dsimp only
    rw [if_neg waits, dwc3EpStopXfer, if_pos noTransfer]
    rfl

theorem view_stop_out {h : Dwc3} (completed : h.ep0State = .setupCompleted) :
    ({ d with dwc3 := (dwc3EpStopXfer answer .dirOut h).2 } : Device σ).view =
      ({ d with dwc3 := h } : Device σ).view := by
  unfold dwc3EpStopXfer dwc3ExecuteDepCmd
  split
  · rfl
  · simp [Device.view, Dwc3.setEp, Dwc3.ep, completed]

theorem view_stop_in (h : Dwc3) :
    ({ d with dwc3 := (dwc3EpStopXfer answer .dirIn h).2 } : Device σ).view =
      { ({ d with dwc3 := h } : Device σ).view with inQueued := false } := by
  unfold dwc3EpStopXfer dwc3ExecuteDepCmd
  split
  · rename_i none
    have idle : h.inEp.reqQueued = false := Bool.eq_false_of_not_eq_true none
    simp [Device.view, idle]
  · simp [Device.view, Dwc3.setEp, Dwc3.ep]

theorem view_epaddrSetStall (obeys : Obeys answer) {h : Dwc3} (clear : h.outEp.isStall = false) :
    ({ d with dwc3 := (dwc3EpaddrSetStall answer h).2 } : Device σ).view =
      { ({ d with dwc3 := h } : Device σ).view.requeued with stalled := true } := by
  unfold dwc3EpaddrSetStall dwc3ExecuteDepCmd
  rw [if_neg (ne_true_of_eq_false clear)]
  dsimp only
  rw [if_neg (not_not_intro (obeys _ _))]
  have waiting := view_outStart obeys d
    (h := { h with
      outEp := { h.outEp with isStall := true }, cmds := h.cmds ++ [.setStall .dirOut]
      ep0State := .setupQueued }) rfl
  rw [waiting]
  simp [Device.view, Ep0View.requeued]

/-- A bus reset in a transfer. -/
theorem reports_reset (obeys : Obeys answer) (completed : d.dwc3.ep0State = .setupCompleted)
    (clear : d.dwc3.outEp.isStall = false) :
    Reports answer dsts .reset d .reset
      { d.view.requeued with stalled := true, inQueued := false } := by
  have busy : d.dwc3.ep0State ≠ .setupQueued := by simp [completed]
  constructor
  · rw [handleEvent_reset]
  · rw [handleEvent_reset, dwc3HandleReset]
    dsimp only
    rw [if_pos busy]
    have stopped := @view_stop_out σ answer d d.dwc3 completed
    have stillClear : (dwc3EpStopXfer answer .dirOut d.dwc3).2.outEp.isStall = false :=
      (congrArg Ep0View.stalled stopped).trans clear
    have refused := @view_epaddrSetStall σ answer d obeys _ stillClear
    have ended := @view_stop_in σ answer d
      (dwc3EpaddrSetStall answer (dwc3EpStopXfer answer .dirOut d.dwc3).2).2
    rw [refused, stopped] at ended
    exact ended

/-- Neither a request nor the end of a data stage. -/
structure Elsewhere (action : UsbAction) : Prop where
  dataIn : action ≠ .dataIn 0
  dataOut : action ≠ .dataOut 0
  setup : ∀ req, action ≠ .setup req

/-- An event of another endpoint. -/
theorem epEvent_elsewhere {word : UInt32} (h : Dwc3)
    (elsewhere : (dwc3ReadEpEvtEpnum word / 2).toUInt8 ≠ 0 ∨
      (dwc3ReadEpEvtType word ≠ 1 ∧ dwc3ReadEpEvtType word ≠ 3)) :
    ∃ action, dwc3HandleEpEvent answer word h = (action, h) ∧ Elsewhere action := by
  unfold dwc3HandleEpEvent
  dsimp only
  split
  · rename_i complete
    have epNum := elsewhere.resolve_right fun both => both.1 complete
    rw [if_neg epNum]
    refine ⟨_, rfl, ?_⟩
    split
    · exact ⟨fun same => epNum (UsbAction.dataIn.inj same), by simp, by simp⟩
    · exact ⟨by simp, fun same => epNum (UsbAction.dataOut.inj same), by simp⟩
  · split
    · rename_i notReady
      exact absurd notReady.2 (elsewhere.resolve_right fun both => both.2 notReady.1)
    · exact ⟨_, rfl, by simp, by simp, by simp⟩

/-- An event of the device that is no reset. -/
theorem devEvent_elsewhere (obeys : Obeys answer) {word : UInt32}
    (noReset : dwc3ReadDevEvtType word ≠ .reset) :
    Elsewhere (dwc3HandleDevEvent answer dsts word d.dwc3).1 ∧
      ({ d with dwc3 := (dwc3HandleDevEvent answer dsts word d.dwc3).2 } : Device σ).view =
        d.view := by
  unfold dwc3HandleDevEvent
  cases event : dwc3ReadDevEvtType word with
  | reset => exact absurd event noReset
  | connectDone =>
      unfold dwc3HandleConnectDone dwc3ExecuteDepCmd
      dsimp only
      rw [if_neg (not_not_intro (obeys _ _)), if_neg (not_not_intro (obeys _ _))]
      exact ⟨⟨by simp, by simp, by simp⟩, by simp [Device.view]⟩
  | _ => exact ⟨⟨by simp, by simp, by simp⟩, rfl⟩

/-- An event that is not one of endpoint zero. -/
theorem reports_other (obeys : Obeys answer) {word : UInt32} (other : Other word) :
    ∃ action, Reports answer dsts (.other word other) d action d.view ∧ Elsewhere action := by
  by_cases isEp : dwc3IsEpEvent word
  · obtain ⟨action, made, elsewhere⟩ := @epEvent_elsewhere answer word d.dwc3 (other.1 isEp)
    have handled : dwc3HandleEvent answer dsts word d.dwc3 = (action, d.dwc3) := by
      rw [dwc3HandleEvent, if_pos isEp, made]
    refine ⟨action, ⟨congrArg Prod.fst handled, ?_⟩, elsewhere⟩
    rw [Word.bits, handled]
  · obtain ⟨elsewhere, same⟩ := @devEvent_elsewhere σ answer dsts d obeys word (other.2 isEp)
    have handled : dwc3HandleEvent answer dsts word d.dwc3 =
        dwc3HandleDevEvent answer dsts word d.dwc3 := by
      rw [dwc3HandleEvent, if_neg isEp]
    refine ⟨_, ⟨congrArg Prod.fst handled, ?_⟩, elsewhere⟩
    rw [Word.bits, handled]
    exact same

end

/-! ### The core -/

/-- The core and the class, without the stages of endpoint zero. -/
structure CoreState where
  handle : UsbHandle
  dev : Msc.MscState

def Device.coreState (d : Device Msc.MscState) : CoreState := ⟨d.handle, d.dev⟩

/-- What the core reads from outside. -/
abbrev Outside := SdDevInfo × UInt32 × SdOutcome

/-- `usb_core_handle_it` with the stages of endpoint zero at once. -/
def CoreState.after (outside : Outside) (action : UsbAction) (core : CoreState) : CoreState :=
  let handled := usbCoreHandleIt (mscWith outside) action core.handle core.dev
  ⟨handled.handle, handled.dev⟩

theorem runCore_coreState (outside : Outside) (action : UsbAction) (d : Device Msc.MscState) :
    (runCore answer mscEp0Call (mscWith outside) action d).coreState =
      d.coreState.after outside action := by
  unfold runCore Device.coreState
  dsimp only
  obtain ⟨handle, dev⟩ := @performAll_rest answer
    (usbCoreHandleIt (mscWith outside) action d.handle d.dev).actions
    { d with
      handle := (usbCoreHandleIt (mscWith outside) action d.handle d.dev).handle
      dev := (usbCoreHandleIt (mscWith outside) action d.handle d.dev).dev }
  rw [handle, dev]
  rfl

theorem effects_event (outside : Outside) {action : UsbAction} (h : UsbHandle) (s : Msc.MscState)
    (elsewhere : Elsewhere action) :
    (usbCoreHandleIt (mscWith outside) action h s).actions.filterMap effect = [] := by
  cases action with
  | setup req => exact absurd rfl (elsewhere.setup req)
  | dataOut epnum =>
      unfold usbCoreHandleIt usbCoreDataOut
      dsimp only
      split
      · exact (quiet_dataOut outside.1 outside.2.1 outside.2.2 s epnum).effects
      · rfl
  | dataIn epnum =>
      unfold usbCoreHandleIt usbCoreDataIn
      dsimp only
      split
      · exact (quiet_dataIn outside.2.2 s epnum).effects
      · rfl
  | resume =>
      unfold usbCoreHandleIt
      dsimp only
      split <;> rfl
  | lpm =>
      unfold usbCoreHandleIt
      dsimp only
      split <;> rfl
  | _ => rfl

section

variable {dsts : UInt32} {word : Word} {d : Device Msc.MscState} {action : UsbAction}
  {v : Ep0View}

/-- The device behind an event. -/
def Device.handled (answer : List EpCmd → EpCmd → CmdAnswer) (outside : Outside) (dsts : UInt32)
    (word : Word) (d : Device Msc.MscState) : Device Msc.MscState :=
  handleEvent answer mscEp0Call (mscWith outside) dsts word.bits d

/-- An event that is not for endpoint zero leaves it alone. -/
theorem handled_event (obeys : Obeys answer) (smallDesc : SmallDesc d.handle.desc)
    (outside : Outside) (reports : Reports answer dsts word d action v)
    (elsewhere : Elsewhere action) :
    (d.handled answer outside dsts word).view = v ∧
      (d.handled answer outside dsts word).coreState = d.coreState.after outside action := by
  unfold Device.handled handleEvent
  dsimp only
  rw [reports.action, handleAction, if_neg elsewhere.dataIn, if_neg elsewhere.dataOut]
  have begun (d : Device Msc.MscState) : beginSetup action d = d := by
    cases action with
    | setup req => exact absurd rfl (elsewhere.setup req)
    | _ => rfl
  rw [begun]
  refine ⟨?_, runCore_coreState outside action _⟩
  have core := core_view outside.1 outside.2.1 outside.2.2 obeys
    { d with dwc3 := (dwc3HandleEvent answer dsts word.bits d.dwc3).2 } smallDesc action
  have none := effects_event outside d.handle d.dev elsewhere
  exact (core.trans (congrArg (List.foldl _ _) none)).trans reports.view

/-- A request is performed in its only event. -/
theorem handled_setup (obeys : Obeys answer) (smallDesc : SmallDesc d.handle.desc)
    (outside : Outside) {req : UsbSetupReq}
    (reports : Reports answer dsts word d (.setup req) v) :
    (d.handled answer outside dsts word).view =
        (requestEffects d.handle req).foldl Ep0View.after { v with core := .setup } ∧
      (d.handled answer outside dsts word).coreState =
        d.coreState.after outside (.setup req) := by
  unfold Device.handled handleEvent
  dsimp only
  rw [reports.action]
  constructor
  · have seen := setup_view outside.1 outside.2.1 outside.2.2 obeys
      { d with dwc3 := (dwc3HandleEvent answer dsts word.bits d.dwc3).2 } smallDesc req
    rw [reports.view] at seen
    exact seen
  · have notIn : UsbAction.setup req ≠ .dataIn 0 := by simp
    have notOut : UsbAction.setup req ≠ .dataOut 0 := by simp
    rw [handleAction, if_neg notIn, if_neg notOut, runCore_coreState]
    rfl

/-- The status stage behind data that the host has read. -/
theorem handled_read (obeys : Obeys answer) {desc : UInt16 → Option (List UInt8)}
    (listening : Listening desc d) (outside : Outside)
    (reports : Reports answer dsts word d (.dataIn 0) v) (reading : d.ep0State = .dataIn)
    (some_length : v.setupAddr.reqLen ≠ 0) :
    (d.handled answer outside dsts word).view =
        { v with
          outTrb := { bp := .null, size := 0, ctl := .status3, hwo := true }
          outLen := 0
          core := .statusOut } ∧
      (d.handled answer outside dsts word).coreState = d.coreState := by
  obtain ⟨_, small, whole⟩ := listening.dataIn reading
  have one : ¬ d.epIn.remLength > d.epIn.maxpacket := by
    rw [whole, listening.packet]
    exact UInt32.not_lt.mpr (UInt32.le_of_lt small)
  have short : ¬ d.epIn.maxpacket ≤ d.epIn.totalLength := by
    rw [listening.packet]
    exact UInt32.not_le.mpr small
  unfold Device.handled handleEvent
  dsimp only
  rw [reports.action, handleAction, if_pos rfl, usbCoreDataIn0, if_pos reading, if_neg one,
    if_neg fun all => short all.2.1]
  refine ⟨?_, rfl⟩
  rw [← reports.view] at some_length ⊢
  generalize (dwc3HandleEvent answer dsts word.bits d.dwc3).2 = h at some_length ⊢
  have stage : h.stage 0 = .status3 := by
    rw [Dwc3.stage, if_pos rfl]
    exact if_neg some_length
  unfold usbCoreReceiveEp0 usbCoreReceive
  dsimp only
  obtain ⟨_, _, started, begun⟩ := @epStartXfer_out answer
    { h with outEp := { h.outEp with xferBuff := .null, xferLen := 0, xferCount := 0 } } rfl
  have same : ({ h with
      outEp := { h.outEp with xferBuff := .null, xferLen := 0, xferCount := 0 } } : Dwc3).stage 0 =
      .status3 := stage
  rw [started, begun obeys, same]
  simp [Device.view]

/-- A stage that leaves nothing more to do. -/
theorem handled_done (outside : Outside)
    (reports : Reports answer dsts word d action v)
    (done : (action = .dataIn 0 ∧ d.ep0State ≠ .dataIn) ∨
      (action = .dataOut 0 ∧ d.ep0State ≠ .dataOut)) :
    (d.handled answer outside dsts word).view = v ∧
      (d.handled answer outside dsts word).coreState = d.coreState := by
  unfold Device.handled handleEvent
  dsimp only
  rw [reports.action]
  rcases done with ⟨rfl, idle⟩ | ⟨rfl, idle⟩
  · rw [handleAction, if_pos rfl, usbCoreDataIn0, if_neg idle]
    exact ⟨reports.view, rfl⟩
  · have notIn : UsbAction.dataOut 0 ≠ .dataIn 0 := by simp
    rw [handleAction, if_neg notIn, if_pos rfl, usbCoreDataOut0, if_neg idle]
    exact ⟨reports.view, rfl⟩

end

end Mp257Fsbl.Usb.Control
