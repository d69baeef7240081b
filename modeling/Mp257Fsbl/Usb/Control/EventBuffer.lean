/-
Module: Mp257Fsbl.Usb.Control.EventBuffer
Purpose: The event buffer in memory, with its read position and the count of the
  controller, in the place of the list of events.
Trusted boundary: human-reviewed model of the interrupt handler of usb_dwc3.c and of
  how the controller writes the buffer
Main exports: EventBuffer, usbDwc3ItHandler, Holds, Buffered, BufferedStep,
  buffered_refines, buffered_agrees
-/
import Mp257Fsbl.Foundation.Circular
import Mp257Fsbl.Usb.Control.Transfers

namespace Mp257Fsbl.Usb.Control

open Mp257Fsbl.Foundation

variable {answer : List EpCmd → EpCmd → CmdAnswer}

/-! ### The buffer -/

/-- `USB_DWC3_EVENT_BUFFER_SIZE`. -/
def eventBufferSize : UInt32 := 2048

/-- `USB_DWC3_EVENT_SIZE`. -/
def eventSize : UInt32 := 4

/-- `intbuffers` of the one interrupt in use, by words, and GEVNTCOUNT. -/
structure EventBuffer where
  cells : Store UInt32
  evtbufferpos : UInt32
  count : UInt32

def EventBuffer.empty : EventBuffer where
  cells := fun _ => 0
  evtbufferpos := 0
  count := 0

/-- `__HAL_PCD_READ_EVENT`. -/
def EventBuffer.readEvent (buffer : EventBuffer) : UInt32 :=
  buffer.cells (buffer.evtbufferpos / eventSize).toNat

/-- `__HAL_PCD_INCR_EVENT_POS`. -/
def EventBuffer.incrEventPos (incr : UInt32) (buffer : EventBuffer) : EventBuffer :=
  { buffer with evtbufferpos := (buffer.evtbufferpos + incr) % eventBufferSize }

/-- `dwc3_read_intr_count`. -/
def EventBuffer.readIntrCount (buffer : EventBuffer) : UInt32 := buffer.count &&& 0xFFFC

/-- `dwc3_ack_evt_count`. -/
def EventBuffer.ackEvtCount (evtCount : UInt32) (buffer : EventBuffer) : EventBuffer :=
  { buffer with count := buffer.count - evtCount }

/-- The controller writes an event behind those not yet acknowledged. -/
def EventBuffer.put (word : UInt32) (buffer : EventBuffer) : EventBuffer :=
  let pos := (buffer.evtbufferpos + buffer.count) % eventBufferSize
  { buffer with
    cells := buffer.cells.overlay (pos / eventSize).toNat [word]
    count := buffer.count + eventSize }

/-- There is room for one more event. -/
def EventBuffer.Room (buffer : EventBuffer) : Prop := buffer.count < eventBufferSize

instance (buffer : EventBuffer) : Decidable buffer.Room := inferInstanceAs (Decidable (_ < _))

/-- `usb_dwc3_it_handler`. -/
def usbDwc3ItHandler (answer : List EpCmd → EpCmd → CmdAnswer) (dsts : UInt32)
    (buffer : EventBuffer) (h : Dwc3) : UsbAction × EventBuffer × Dwc3 :=
  if buffer.readIntrCount = 0 then (.nothing, buffer, h)
  else
    let (action, h) := dwc3HandleEvent answer dsts buffer.readEvent h
    (action, (buffer.incrEventPos eventSize).ackEvtCount eventSize, h)

/-! ### What the buffer holds -/

/-- The buffer holds these events, oldest first. -/
structure Holds (buffer : EventBuffer) (events : List UInt32) : Prop where
  aligned : buffer.evtbufferpos.toNat % 4 = 0
  inside : buffer.evtbufferpos.toNat < 2048
  count : buffer.count.toNat = 4 * events.length
  fits : events.length ≤ 512
  cells : Segment 512 buffer.cells (buffer.evtbufferpos.toNat / 4) events

theorem holds_empty : Holds .empty [] where
  aligned := rfl
  inside := by decide
  count := rfl
  fits := Nat.zero_le _
  cells := .nil

namespace Holds

variable {buffer : EventBuffer} {events : List UInt32} {word : UInt32}

theorem intrCount (holds : Holds buffer events) :
    buffer.readIntrCount = 0 ↔ events = [] := by
  have fits := holds.fits
  -- the mask keeps a multiple of four below 2^16
  have kept : 4 * events.length &&& 0xFFFC = 4 * events.length := by
    have shifted : (events.length &&& 2 ^ 14 - 1) <<< 2 = _ := Nat.shiftLeft_and_distrib
    rw [Nat.and_two_pow_sub_one_eq_mod, Nat.mod_eq_of_lt (by omega), Nat.shiftLeft_eq,
      Nat.mul_comm] at shifted
    exact shifted.symm
  have value : buffer.readIntrCount.toNat = 4 * events.length := by
    rw [EventBuffer.readIntrCount, UInt32.toNat_and, holds.count]
    exact kept
  rw [← UInt32.toNat_inj, value, UInt32.toNat_zero, ← List.length_eq_zero_iff]
  omega

theorem put (holds : Holds buffer events) (room : buffer.Room) :
    Holds (buffer.put word) (events ++ [word]) := by
  have less : 4 * events.length < 2048 := holds.count ▸ UInt32.lt_iff_toNat_lt.mp room
  have inside := holds.inside
  have aligned := holds.aligned
  have index : ((buffer.evtbufferpos + buffer.count) % eventBufferSize / eventSize).toNat =
      (buffer.evtbufferpos.toNat / 4 + events.length) % 512 := by
    rw [UInt32.toNat_div, UInt32.toNat_mod, UInt32.toNat_add, holds.count]
    change (_ % 2 ^ 32) % 2048 / 4 = _
    omega
  refine ⟨aligned, inside, ?_, ?_, ?_⟩
  · rw [EventBuffer.put, List.length_append, List.length_singleton, UInt32.toNat_add, holds.count]
    change (_ + 4) % 2 ^ 32 = _
    omega
  · rw [List.length_append, List.length_singleton]
    omega
  · rw [EventBuffer.put, index]
    exact holds.cells.write (by omega) word

theorem readEvent (holds : Holds buffer (word :: events)) : buffer.readEvent = word := by
  have inside := holds.inside
  have index : (buffer.evtbufferpos / eventSize).toNat =
      buffer.evtbufferpos.toNat / 4 % 512 := by
    rw [UInt32.toNat_div]
    change _ / 4 = _
    omega
  rw [EventBuffer.readEvent, index]
  exact holds.cells.first

theorem next (holds : Holds buffer (word :: events)) :
    Holds ((buffer.incrEventPos eventSize).ackEvtCount eventSize) events := by
  have inside := holds.inside
  have aligned := holds.aligned
  have count := holds.count
  have fits := holds.fits
  rw [List.length_cons] at count fits
  have pos : ((buffer.evtbufferpos + eventSize) % eventBufferSize).toNat =
      (buffer.evtbufferpos.toNat + 4) % 2048 := by
    rw [UInt32.toNat_mod, UInt32.toNat_add]
    change (_ + 4) % 2 ^ 32 % 2048 = _
    omega
  have index : (buffer.evtbufferpos.toNat + 4) % 2048 / 4 =
      (buffer.evtbufferpos.toNat / 4 + 1) % 512 := by
    omega
  refine ⟨?_, ?_, ?_, Nat.le_of_succ_le fits, ?_⟩
  · rw [EventBuffer.ackEvtCount, EventBuffer.incrEventPos, pos]
    omega
  · rw [EventBuffer.ackEvtCount, EventBuffer.incrEventPos, pos]
    omega
  · have enough : eventSize ≤ buffer.count := by
      rw [UInt32.le_iff_toNat_le, count]
      exact Nat.le_mul_of_pos_right 4 (Nat.succ_pos _)
    rw [EventBuffer.ackEvtCount, EventBuffer.incrEventPos, UInt32.toNat_sub_of_le _ _ enough, count]
    exact Nat.add_sub_cancel ..
  · rw [EventBuffer.ackEvtCount, EventBuffer.incrEventPos, pos, index]
    exact holds.cells.rest

end Holds

/-! ### The link over the buffer -/

/-- The link with the event buffer in the place of the list of events. -/
structure Buffered where
  device : Device Msc.MscState
  buffer : EventBuffer
  host : Host
  log : List (SetupPacket × Option Reply)

namespace Buffered

def started (answer : List EpCmd → EpCmd → CmdAnswer) (dev : Msc.MscState) : Buffered where
  device := .started answer mscDesc dev
  buffer := .empty
  host := .idle
  log := []

/-- The link between two events. -/
def link (b : Buffered) : Link := { device := b.device, events := [], host := b.host, log := b.log }

def history (b : Buffered) : List (SetupPacket × Option Reply) := b.log ++ b.host.pending

/-- `usb_core_handle_it`, whether or not there is an event. -/
def poll (answer : List EpCmd → EpCmd → CmdAnswer) (outside : Outside) (dsts : UInt32)
    (b : Buffered) : Buffered :=
  let (action, buffer, dwc3) := usbDwc3ItHandler answer dsts b.buffer b.device.dwc3
  { b with
    device := handleAction answer mscEp0Call (mscWith outside) action { b.device with dwc3 }
    buffer }

end Buffered

/-- A step of the host or of the controller, which writes the event that it reports, if
any, where there is room; or the device looks for an event. -/
inductive BufferedStep (answer : List EpCmd → EpCmd → CmdAnswer) : Step Buffered LinkEvent where
  | silent {b : Buffered} {label : LinkEvent} {link' : Link}
      (step : LinkStep answer b.link label link') (none : link'.events = []) :
      BufferedStep answer b label
        { device := link'.device, buffer := b.buffer, host := link'.host, log := link'.log }
  | report {b : Buffered} {label : LinkEvent} {link' : Link} {word : Word}
      (step : LinkStep answer b.link label link') (one : link'.events = [word])
      (room : b.buffer.Room) :
      BufferedStep answer b label
        { device := link'.device
          buffer := b.buffer.put word.bits
          host := link'.host
          log := link'.log }
  | poll {b : Buffered} {outside : Outside} {dsts : UInt32} :
      BufferedStep answer b (.poll outside dsts) (b.poll answer outside dsts)

/-- The buffer holds the events of the link. -/
structure Refines (b : Buffered) (link : Link) : Prop where
  device : b.device = link.device
  host : b.host = link.host
  log : b.log = link.log
  holds : Holds b.buffer (link.events.map Word.bits)

theorem refines_started (dev : Msc.MscState) :
    Refines (.started answer dev) (.started answer dev) := ⟨rfl, rfl, rfl, holds_empty⟩

/-- What the host and the controller do, they do in front of any events. -/
theorem LinkStep.frame {link link' : Link} {label : LinkEvent}
    (step : LinkStep answer { link with events := [] } label link') :
    LinkStep answer link label { link' with events := link.events ++ link'.events } := by
  cases step with
  | setup idle conforming owned waits => exact .setup idle conforming owned waits
  | ask busy => exact .ask busy
  | data busy active owned ctl bp => exact .data busy active owned ctl bp
  | ack busy active owned status => exact .ack busy active owned status
  | closed busy owned status => exact .closed busy owned status
  | stalled busy stalled since =>
      rw [List.append_nil]
      exact .stalled busy stalled since
  | reset => exact .reset
  | other other => exact .other other
  | poll next => cases next

theorem poll_empty {b : Buffered} (empty : b.buffer.readIntrCount = 0) (outside : Outside)
    (dsts : UInt32) : b.poll answer outside dsts = b := by
  rw [Buffered.poll, usbDwc3ItHandler, if_pos empty]
  rfl

theorem Refines.step {b b' : Buffered} {link : Link} {label : LinkEvent}
    (refines : Refines b link) (step : BufferedStep answer b label b') :
    ∃ labels link', Run (LinkStep answer) link labels link' ∧ Refines b' link' := by
  have same : b.link = { link with events := [] } := by
    rw [Buffered.link, refines.device, refines.host, refines.log]
  cases step with
  | silent step none =>
      rw [same] at step
      refine ⟨_, _, .single step.frame, rfl, rfl, rfl, ?_⟩
      rw [none, List.append_nil]
      exact refines.holds
  | report step one room =>
      rw [same] at step
      refine ⟨_, _, .single step.frame, rfl, rfl, rfl, ?_⟩
      rw [one, List.map_append]
      exact refines.holds.put room
  | @poll _ outside dsts =>
      cases events : link.events with
      | nil =>
          have holds := refines.holds
          rw [events] at holds
          rw [poll_empty (holds.intrCount.mpr rfl)]
          exact ⟨[], link, .nil link, refines⟩
      | cons word rest =>
          have holds := refines.holds
          rw [events, List.map_cons] at holds
          have some_event : ¬ b.buffer.readIntrCount = 0 := fun zero =>
            List.cons_ne_nil _ _ (holds.intrCount.mp zero)
          refine ⟨[.poll outside dsts], _, .single (.poll events), ?_⟩
          rw [Buffered.poll, usbDwc3ItHandler, if_neg some_event, holds.readEvent, refines.device]
          exact ⟨rfl, refines.host, refines.log, holds.next⟩

theorem buffered_refines {b b' : Buffered} {link : Link} {labels : List LinkEvent}
    (refines : Refines b link) (run : Run (BufferedStep answer) b labels b') :
    ∃ labels' link', Run (LinkStep answer) link labels' link' ∧ Refines b' link' := by
  induction run generalizing link with
  | nil => exact ⟨[], link, .nil link, refines⟩
  | cons first _ ih =>
      obtain ⟨one, middle, before, refines⟩ := refines.step first
      obtain ⟨others, link', after, refines⟩ := ih refines
      exact ⟨one ++ others, link', before.append after, refines⟩

/-- On the same terms, the transfers of the host agree with the requests performed also
where the events go through the buffer, over any number of its rounds. -/
theorem buffered_agrees (obeys : Obeys answer) {dev : Msc.MscState} {labels : List LinkEvent}
    {b : Buffered} (run : Run (BufferedStep answer) (.started answer dev) labels b) :
    ∃ events, Run CoreStep ⟨.registered mscDesc, dev⟩ events b.device.coreState ∧
      Agrees b.history (replies events) := by
  obtain ⟨labels', link, linked, refines⟩ := buffered_refines (refines_started dev) run
  obtain ⟨events, core, reached⟩ := (run_linked obeys linked).linked
  have history : b.history = link.history := by
    rw [Buffered.history, Link.history, refines.host, refines.log]
  exact ⟨events, refines.device ▸ core, history ▸ reached.agrees⟩

theorem buffered_agrees_descriptor :
    ∃ b, Run (BufferedStep obedient) (.started obedient (.boot fun _ => 0))
        (.setup getDeviceDesc :: descriptorSteps) b ∧
      b.history = [(getDeviceDesc, some (.data mscDeviceDesc))] ∧
      ∃ events, Run CoreStep ⟨.registered mscDesc, .boot fun _ => 0⟩ events b.device.coreState ∧
        Agrees b.history (replies events) := by
  have run : Run (BufferedStep obedient) (.started obedient (.boot fun _ => 0))
      (.setup getDeviceDesc :: descriptorSteps) _ :=
    .cons (.report (.setup rfl conforming_getDeviceDesc rfl rfl) rfl (by decide))
      (.cons .poll
        (.cons (.report (@LinkStep.data obedient _ _ _ mscDeviceDesc rfl rfl rfl rfl rfl) rfl
          (by decide))
          (.cons .poll (.cons (.report (.ask rfl) rfl (by decide)) (.cons .poll
            (.cons (.report (.closed rfl rfl (.inr rfl)) rfl (by decide))
              (.cons .poll (.nil _))))))))
  exact ⟨_, run, rfl, buffered_agrees (fun _ _ => rfl) run⟩

end Mp257Fsbl.Usb.Control
