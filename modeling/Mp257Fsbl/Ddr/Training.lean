/-
Module: Mp257Fsbl.Ddr.Training
Purpose: What the training of the PHY returns, against the messages that the
  firmware sends: in every interleaving, and in time.
Trusted boundary: none
Main exports: Reading, verdict, Stopped, Fair, gExecfw_agrees, gExecfw_ends_iff
-/
import Mp257Fsbl.Ddr.Mailbox

namespace Mp257Fsbl.Ddr

open Mp257Fsbl.Foundation
open Mp257Fsbl.Foundation.Interleaved

/-! ### The messages of a training -/

/-- What the next message is. -/
inductive Reading where
  | major
  | length
  | words (behind : Nat)

/-- Behind the length of a stream, or one of its words. -/
def Reading.after : Nat → Reading
  | 0 => .major
  | left + 1 => .words left

/-- How a training ends by its messages, and the messages behind its end. -/
def verdict : Reading → List Message → Option (Bool × List Message)
  | _, [] => none
  | .major, message :: rest =>
      if message.low = 0x07 then some (true, rest)
      else if message.low = 0xFF then some (false, rest)
      else verdict (if message.low = 0x08 then .length else .major) rest
  | .length, message :: rest => verdict (.after message.low.toNat) rest
  | .words left, _ :: rest => verdict (.after left) rest

/-- The major message that tells how the training has ended. -/
def lastMajor (trained : Bool) : UInt32 :=
  if trained then fwMajMsgTrainingSuccess else fwMajMsgTrainingFailed

/-! ### The values of messages -/

theorem streamLength (low high : UInt16) :
    ((low.toUInt32 ||| high.toUInt32 <<< 16) &&& 0xFFFF).toNat = low.toNat := by
  have mask : (0xFFFF : UInt32).toNat = 2 ^ 16 - 1 := rfl
  rw [UInt32.toNat_and, mask, Nat.and_two_pow_sub_one_eq_mod, UInt32.toNat_or,
    Nat.or_mod_two_pow]
  simp [Nat.shiftLeft_eq]

theorem major_eq_iff (low value : UInt16) : low.toUInt32 = value.toUInt32 ↔ low = value :=
  UInt16.toUInt32_inj

/-! ### The accesses of one message -/

section

variable {message : Message} {rest : List Message} {s : Mailbox}

theorem Offered.stays (s : Mailbox) (move : Move) (offered : Offered message rest s) :
    Offered message rest (s.move move) :=
  (offered.move move).symm ▸ offered

theorem Running.shadow {α : Type} (here : Running (Offered message rest) s) (part : Message → α)
    (moment : Moment) :
    part (s.advance moment).shadow = part message ∧
      Running (Offered message rest) (s.advance moment) :=
  have still := here.advance Offered.stays moment
  ⟨congrArg part still.2.shadow, still⟩

theorem Running.acknowledge (here : Running (Offered message rest) s) (moment : Moment) :
    Running (Acknowledged rest) { s.advance moment with dctWriteProt := (0 : UInt16) &&& 1 = 1 } :=
  have still := here.advance Offered.stays moment
  ⟨still.1, rfl, still.2.left⟩

theorem Running.complete (here : Running (TakenBack rest) s) (moment : Moment) :
    Running (Between rest) { s.advance moment with dctWriteProt := (1 : UInt16) &&& 1 = 1 } :=
  have still := here.advance (fun _ move back => back.move move) moment
  ⟨still.1, rfl, .inl ⟨still.2.back, still.2.left⟩⟩

end

/-! ### One message, in every interleaving -/

section

variable {allowed : Moment → Prop} {failed : Int → Mailbox → Prop}
  (tooLate : ∀ moment s, allowed moment → moment.late = true → s.microReset = 0 → failed (-1) s)
  {message : Message} {messages rest : List Message}

include tooLate

theorem wait_keeps {phase : Mailbox → Prop} {finish : Unit → Mailbox → Prop} {state : Bool}
    (keeps : ∀ s move, phase s → phase (s.move move))
    (found : ∀ s, Running phase s → s.uctWriteProtShadow = state → finish () s) :
    Upholds allowed (Running phase) (waitUctwriteprotshadow state) finish failed := by
  apply Upholds.poll
  · exact fun moment s here => here.advance keeps moment
  · exact fun moment s here stops => found s here ((uctShadowRegs_stops moment s state).mp stops)
  · exact fun moment s kind late here => tooLate moment s kind late here.1

theorem waitOffer_ensures :
    Upholds allowed (Running (Between (message :: rest))) (waitUctwriteprotshadow false)
      (fun _ => Running (Offered message rest)) failed :=
  wait_keeps tooLate (fun _ move between => between.move move)
    fun _ here shown => ⟨here.1, here.2.offered shown⟩

/-- Nothing is offered behind the last message. -/
theorem waitOffer_none :
    Upholds allowed (Running (Between [])) (waitUctwriteprotshadow false) (fun _ _ => False)
      failed := by
  apply wait_keeps tooLate (fun _ move between => between.move move)
  intro s here shown
  rcases here.2.next with ⟨hidden, _⟩ | ⟨_, same⟩
  · rw [shown] at hidden
    cases hidden
  · cases same

omit tooLate in
theorem readShadow_ensures {α : Type} (part : Message → α) :
    Upholds allowed (Running (Offered message rest)) (readCsr fun s => part s.shadow)
      (fun value s => value = part message ∧ Running (Offered message rest) s) failed :=
  Upholds.access fun moment _ here => here.shadow part moment

theorem ackMessageReceipt_ensures :
    Upholds allowed (Running (Offered message rest)) ackMessageReceipt
      (fun _ => Running (Between rest)) failed := by
  have acknowledge : Upholds allowed (Running (Offered message rest)) (writeDctWriteProt 0)
      (fun _ => Running (Acknowledged rest)) failed :=
    Upholds.access fun moment _ here => here.acknowledge moment
  have taken : Upholds allowed (Running (Acknowledged rest)) (waitUctwriteprotshadow true)
      (fun _ => Running (TakenBack rest)) failed :=
    wait_keeps tooLate (fun _ move acknowledged => acknowledged.move move)
      fun _ here back => ⟨here.1, here.2.closed, back, here.2.left⟩
  have complete : Upholds allowed (Running (TakenBack rest)) (writeDctWriteProt 1)
      (fun _ => Running (Between rest)) failed :=
    Upholds.access fun moment _ here => here.complete moment
  exact acknowledge.bind fun _ => taken.bind fun _ => complete

theorem getMajorMessage_ensures :
    Upholds allowed (Running (Between (message :: rest))) getMajorMessage
      (fun value s => value = message.low.toUInt32 ∧ Running (Between rest) s) failed := by
  apply (waitOffer_ensures tooLate).bind
  intro _
  apply (readShadow_ensures Message.low).bind
  intro low
  apply Upholds.given
  rintro rfl
  apply (ackMessageReceipt_ensures tooLate).bind
  exact fun _ => Upholds.pure fun s here => ⟨rfl, here⟩

theorem getStreamingMessage_ensures :
    Upholds allowed (Running (Between (message :: rest))) getStreamingMessage
      (fun value s => (value &&& 0xFFFF).toNat = message.low.toNat ∧ Running (Between rest) s)
      failed := by
  apply (waitOffer_ensures tooLate).bind
  intro _
  apply (readShadow_ensures Message.low).bind
  intro low
  apply Upholds.given
  rintro rfl
  apply (readShadow_ensures Message.high).bind
  intro high
  apply Upholds.given
  rintro rfl
  apply (ackMessageReceipt_ensures tooLate).bind
  exact fun _ => Upholds.pure fun s here => ⟨streamLength message.low message.high, here⟩

theorem getMajorMessage_none :
    Upholds allowed (Running (Between [])) getMajorMessage (fun _ _ => False) failed :=
  (waitOffer_none tooLate).bind fun _ => Upholds.never

theorem getStreamingMessage_none :
    Upholds allowed (Running (Between [])) getStreamingMessage (fun _ _ => False) failed :=
  (waitOffer_none tooLate).bind fun _ => Upholds.never

/-! ### The loop, in every interleaving -/

theorem readStream_ensures (left : Nat) (messages : List Message) :
    Upholds allowed (Running (Between messages)) (readStream left)
      (fun _ s => ∃ rest, verdict (.after left) messages = verdict .major rest ∧
        Running (Between rest) s) failed := by
  induction left generalizing messages with
  | zero => exact Upholds.pure fun s here => ⟨messages, rfl, here⟩
  | succ left ih =>
      cases messages with
      | nil => exact (getStreamingMessage_none tooLate).bind fun _ => Upholds.never
      | cons message rest =>
          apply (getStreamingMessage_ensures tooLate).bind
          intro _
          apply Upholds.given
          intro _
          exact ih rest

theorem streamBehind_ensures (message : Message) (messages : List Message) :
    Upholds allowed (Running (Between messages)) (streamBehind message.low.toUInt32)
      (fun _ s => ∃ rest, (verdict (if message.low = 0x08 then .length else .major) messages =
        verdict .major rest ∧ (message.low ≠ 0x08 → rest = messages)) ∧
          Running (Between rest) s) failed := by
  have starts : message.low.toUInt32 = fwMajMsgStartStreaming ↔ message.low = 0x08 :=
    major_eq_iff message.low 0x08
  by_cases start : message.low = 0x08
  · rw [streamBehind, if_pos (starts.mpr start), if_pos start]
    cases messages with
    | nil => exact (getStreamingMessage_none tooLate).bind fun _ => Upholds.never
    | cons length rest =>
        apply (getStreamingMessage_ensures tooLate).bind
        intro readData
        apply Upholds.given
        intro same
        rw [same]
        apply (readStream_ensures tooLate length.low.toNat rest).weaken (fun _ here => here)
        rintro _ s ⟨behind, read, here⟩
        exact ⟨behind, ⟨read, fun other => absurd start other⟩, here⟩
  · rw [streamBehind, if_neg (mt starts.mp start), if_neg start]
    exact Upholds.pure fun s here => ⟨messages, ⟨rfl, fun _ => rfl⟩, here⟩

theorem majorLoop_ensures (passes : Nat) (messages : List Message) :
    Upholds allowed (Running (Between messages)) (majorLoop passes)
      (fun value s => ∃ trained rest, (verdict .major messages = some (trained, rest) ∧
        value = lastMajor trained) ∧ Running (Between rest) s) failed := by
  induction passes generalizing messages with
  | zero => exact Upholds.stuck
  | succ passes ih =>
      cases messages with
      | nil => exact (getMajorMessage_none tooLate).bind fun _ => Upholds.never
      | cons message messages =>
          apply (getMajorMessage_ensures tooLate).bind
          intro value
          apply Upholds.given
          rintro rfl
          apply (streamBehind_ensures tooLate message messages).bind
          intro _
          apply Upholds.ofSome
          intro rest
          apply Upholds.given
          rintro ⟨read, same⟩
          have success : message.low.toUInt32 = fwMajMsgTrainingSuccess ↔ message.low = 0x07 :=
            major_eq_iff message.low 0x07
          have failure : message.low.toUInt32 = fwMajMsgTrainingFailed ↔ message.low = 0xFF :=
            major_eq_iff message.low 0xFF
          by_cases trained : message.low = 0x07
          · rw [if_neg fun goesOn => goesOn.1 (success.mpr trained)]
            obtain rfl := same (by rw [trained]; decide)
            apply Upholds.pure
            intro s here
            refine ⟨true, rest, ⟨?_, success.mpr trained⟩, here⟩
            rw [verdict, if_pos trained]
          by_cases gaveUp : message.low = 0xFF
          · rw [if_neg fun goesOn => goesOn.2 (failure.mpr gaveUp)]
            obtain rfl := same (by rw [gaveUp]; decide)
            apply Upholds.pure
            intro s here
            refine ⟨false, rest, ⟨?_, failure.mpr gaveUp⟩, here⟩
            rw [verdict, if_neg trained, if_pos gaveUp]
          · rw [if_pos ⟨mt success.mp trained, mt failure.mp gaveUp⟩]
            apply (ih rest).weaken (fun _ here => here)
            rintro value s ⟨trained', behind, ⟨ends, same⟩, here⟩
            refine ⟨trained', behind, ⟨?_, same⟩, here⟩
            rw [verdict, if_neg trained, if_neg gaveUp, read, ends]

theorem waitfwdone_ensures
    (gaveUp : ∀ rest s, verdict .major messages = some (false, rest) →
      Running (Between rest) s → failed (-1) s) :
    Upholds allowed (Running (Between messages)) ddrphyPhyinitUsercustomGWaitfwdone
      (fun _ s => ∃ rest, verdict .major messages = some (true, rest) ∧
        Running (Between rest) s) failed := by
  intro moments
  refine ((majorLoop_ensures tooLate moments.length messages).bind ?_) moments
  intro value
  apply Upholds.ofSome
  intro trained
  apply Upholds.ofSome
  intro rest
  apply Upholds.given
  rintro ⟨ends, rfl⟩
  cases trained with
  | true => exact Upholds.pure fun s here => ⟨rest, ends, here⟩
  | false => exact Upholds.fail fun s here => gaveUp rest s ends here

end

/-! ### The training, in every interleaving -/

/-- The microcontroller is held, with these messages to send once it runs. -/
structure Stopped (messages : List Message) (s : Mailbox) : Prop where
  held : s.microReset ≠ 0
  between : Between messages s

section

variable {messages : List Message} {s : Mailbox}

theorem Stopped.select (stopped : Stopped messages s) (moment : Moment) (value : UInt16) :
    Stopped messages { s.advance moment with microContMuxSel := value } := by
  rw [advance_held moment stopped.held]
  exact ⟨stopped.held, stopped.between.ready, stopped.between.next⟩

theorem Stopped.hold (stopped : Stopped messages s) (moment : Moment) {value : UInt16}
    (held : value ≠ 0) : Stopped messages { s.advance moment with microReset := value } := by
  rw [advance_held moment stopped.held]
  exact ⟨held, stopped.between.ready, stopped.between.next⟩

theorem Stopped.start (stopped : Stopped messages s) (moment : Moment) :
    Running (Between messages) { s.advance moment with microReset := 0 } := by
  rw [advance_held moment stopped.held]
  exact ⟨rfl, stopped.between.ready, stopped.between.next⟩

theorem Running.halt (here : Running (Between messages) s) (moment : Moment) (value : UInt16) :
    Between messages { s.advance moment with microReset := value } :=
  have still := here.advance (fun _ move between => between.move move) moment
  ⟨still.2.ready, still.2.next⟩

end

section

variable {allowed : Moment → Prop} {failed : Int → Mailbox → Prop} {messages : List Message}

theorem gExecfw_ensures
    (tooLate : ∀ moment s, allowed moment → moment.late = true → s.microReset = 0 → failed (-1) s)
    (gaveUp : ∀ rest s, verdict .major messages = some (false, rest) →
      Running (Between rest) s → failed (-1) s) :
    Upholds allowed (Stopped messages) ddrphyPhyinitGExecfw
      (fun _ s => ∃ rest, verdict .major messages = some (true, rest) ∧ Between rest s ∧
        s.microReset = csrStalltomicroMask) failed := by
  have selected (value : UInt16) : Upholds allowed (Stopped messages) (writeMicroContMuxSel value)
      (fun _ => Stopped messages) failed :=
    Upholds.access fun moment _ stopped => stopped.select moment value
  have held {value : UInt16} (nonzero : value ≠ 0) : Upholds allowed (Stopped messages)
      (writeMicroReset value) (fun _ => Stopped messages) failed :=
    Upholds.access fun moment _ stopped => stopped.hold moment nonzero
  have started : Upholds allowed (Stopped messages) (writeMicroReset 0)
      (fun _ => Running (Between messages)) failed :=
    Upholds.access fun moment _ stopped => stopped.start moment
  have halted {rest : List Message} (value : UInt16) : Upholds allowed (Running (Between rest))
      (writeMicroReset value) (fun _ s => Between rest s ∧ s.microReset = value) failed :=
    Upholds.access fun moment _ here => ⟨here.halt moment value, rfl⟩
  apply (selected _).bind
  intro _
  apply (held (by decide)).bind
  intro _
  apply (held (by decide)).bind
  intro _
  apply started.bind
  intro _
  apply (waitfwdone_ensures tooLate gaveUp).bind
  intro _
  apply Upholds.ofSome
  intro rest
  apply Upholds.given
  intro ends
  exact (halted _).weaken (fun _ here => here) fun _ s here => ⟨rest, ends, here⟩

end

section

variable {messages : List Message} {s : Mailbox}

/-- Whatever the order of the accesses of both sides: where the training returns, it
returns what the messages say, has taken each of them up to its end once and none
behind it, and has halted the microcontroller exactly if it has trained. -/
theorem gExecfw_agrees (stopped : Stopped messages s) {moments rest : List Moment}
    {result : Except Int Unit} {final : Mailbox}
    (run : ddrphyPhyinitGExecfw moments s = some (result, rest, final)) :
    (result = .ok () → ∃ left, verdict .major messages = some (true, left) ∧
      Between left final ∧ final.microReset = csrStalltomicroMask) ∧
    ∀ code, result = .error code → code = -1 ∧ final.microReset = 0 ∧
      ((∃ moment ∈ moments, moment.late = true) ∨
        ∃ left, verdict .major messages = some (false, left) ∧ Between left final) := by
  have ensures := @gExecfw_ensures (· ∈ moments)
    (fun code t => code = -1 ∧ t.microReset = 0 ∧ ((∃ moment ∈ moments, moment.late = true) ∨
      ∃ left, verdict .major messages = some (false, left) ∧ Between left t)) messages
    (fun moment t inside late runs => ⟨rfl, runs, .inl ⟨moment, inside, late⟩⟩)
    (fun left t ends here => ⟨rfl, here.1, .inr ⟨left, ends, here.2⟩⟩)
  have ended := (ensures moments s (fun _ inside => inside) stopped result rest final run).2
  cases result with
  | ok value =>
      refine ⟨fun _ => ended, fun code same => ?_⟩
      cases same
  | error code =>
      refine ⟨fun same => ?_, fun code' same => ?_⟩
      · cases same
      · cases same
        exact ended

/-- A stream of two words, which are no major messages, in front of the verdict. -/
def streamedMessages : List Message :=
  [⟨0x08, 0⟩, ⟨2, 5⟩, ⟨0xFF, 0⟩, ⟨0x07, 1⟩, ⟨0x07, 0⟩, ⟨3, 3⟩]

/-- The mailbox behind a reset of the PHY. -/
def stoppedMailbox : Mailbox where
  uctWriteProtShadow := true
  dctWriteProt := true
  shadow := ⟨0, 0⟩
  microContMuxSel := 1
  microReset := 9
  left := streamedMessages

theorem stoppedMailbox_stopped : Stopped streamedMessages stoppedMailbox :=
  ⟨by decide, rfl, .inl ⟨rfl, rfl⟩⟩

/-- The firmware moves whenever it can. -/
def promptMoment : Moment := ⟨[.retract, .offer], 0xABCC, false⟩

def trainedMailbox : Mailbox :=
  { stoppedMailbox with
    uctWriteProtShadow := false, shadow := ⟨3, 3⟩, microReset := 1, left := [] }

theorem gExecfw_agrees_streamed :
    ∃ left, verdict .major streamedMessages = some (true, left) ∧ Between left trainedMailbox ∧
      trainedMailbox.microReset = csrStalltomicroMask := by
  have run : ddrphyPhyinitGExecfw (slice (fun _ => promptMoment) 0 33) stoppedMailbox =
      some (.ok (), [], trainedMailbox) := rfl
  exact (gExecfw_agrees stoppedMailbox_stopped run).1 rfl

end

/-! ### In time -/

/-- A firmware that offers and takes back again and again, and a clock that no wait
runs out of. -/
structure Fair (schedule : Nat → Moment) : Prop where
  punctual : ∀ k, (schedule k).late = false
  offers : ∀ start, ∃ k, start ≤ k ∧ .offer ∈ (schedule k).moves
  retracts : ∀ start, ∃ k, start ≤ k ∧ .retract ∈ (schedule k).moves

section

variable {schedule : Nat → Moment} (fair : Fair schedule) {message : Message}
  {messages rest left : List Message}

include fair

theorem wait_comes {phase other : Mailbox → Prop} {finish : Unit → Mailbox → Prop} {turn : Move}
    {state : Bool} (again : ∀ start, ∃ k, start ≤ k ∧ turn ∈ (schedule k).moves)
    (keeps : ∀ s move, phase s → phase (s.move move))
    (turns : ∀ s, phase s → other (s.move turn))
    (stays : ∀ s move, other s → other (s.move move))
    (shows : ∀ s, other s → s.uctWriteProtShadow = state)
    (found : ∀ s, Running phase s → s.uctWriteProtShadow = state → finish () s) :
    Comes schedule (Running phase) (waitUctwriteprotshadow state) finish := by
  apply Comes.poll
  · exact fun moment s here => here.advance keeps moment
  · exact fun moment s here stops => found s here ((uctShadowRegs_stops moment s state).mp stops)
  · exact fair.punctual
  · intro start
    obtain ⟨k, behind, inside⟩ := again start
    refine ⟨k, behind, fun s here => (uctShadowRegs_stops _ _ state).mpr ?_⟩
    exact shows _ (here.turns keeps turns stays inside)

theorem waitOffer_comes :
    Comes schedule (Running (Between (message :: rest))) (waitUctwriteprotshadow false)
      (fun _ => Running (Offered message rest)) :=
  wait_comes fair fair.offers (fun _ move between => between.move move)
    (fun _ between => between.offer) Offered.stays (fun _ offered => offered.shown)
    fun _ here shown => ⟨here.1, here.2.offered shown⟩

omit fair in
theorem readShadow_comes {α : Type} (part : Message → α) :
    Comes schedule (Running (Offered message rest)) (readCsr fun s => part s.shadow)
      (fun value s => value = part message ∧ Running (Offered message rest) s) :=
  Comes.access fun moment _ here => here.shadow part moment

theorem ackMessageReceipt_comes :
    Comes schedule (Running (Offered message rest)) ackMessageReceipt
      (fun _ => Running (Between rest)) := by
  have acknowledge : Comes schedule (Running (Offered message rest)) (writeDctWriteProt 0)
      (fun _ => Running (Acknowledged rest)) :=
    Comes.access fun moment _ here => here.acknowledge moment
  have taken : Comes schedule (Running (Acknowledged rest)) (waitUctwriteprotshadow true)
      (fun _ => Running (TakenBack rest)) :=
    wait_comes fair fair.retracts (fun _ move acknowledged => acknowledged.move move)
      (fun _ acknowledged => acknowledged.retract) (fun _ move back => back.move move)
      (fun _ back => back.back) fun _ here back => ⟨here.1, here.2.closed, back, here.2.left⟩
  have complete : Comes schedule (Running (TakenBack rest)) (writeDctWriteProt 1)
      (fun _ => Running (Between rest)) :=
    Comes.access fun moment _ here => here.complete moment
  exact acknowledge.bind fun _ => taken.bind fun _ => complete

theorem getMajorMessage_comes :
    Comes schedule (Running (Between (message :: rest))) getMajorMessage
      (fun value s => value = message.low.toUInt32 ∧ Running (Between rest) s) := by
  apply (waitOffer_comes fair).bind
  intro _
  apply (readShadow_comes Message.low).bind
  intro low
  apply Comes.given
  rintro rfl
  apply (ackMessageReceipt_comes fair).bind
  exact fun _ => Comes.pure fun s here => ⟨rfl, here⟩

theorem getStreamingMessage_comes :
    Comes schedule (Running (Between (message :: rest))) getStreamingMessage
      (fun value s => (value &&& 0xFFFF).toNat = message.low.toNat ∧
        Running (Between rest) s) := by
  apply (waitOffer_comes fair).bind
  intro _
  apply (readShadow_comes Message.low).bind
  intro low
  apply Comes.given
  rintro rfl
  apply (readShadow_comes Message.high).bind
  intro high
  apply Comes.given
  rintro rfl
  apply (ackMessageReceipt_comes fair).bind
  exact fun _ => Comes.pure fun s here => ⟨streamLength message.low message.high, here⟩

/-- What comes behind a stream, where the messages hold the whole of it. -/
structure Behind (reading : Reading) (messages rest : List Message) : Prop where
  same : verdict reading messages = verdict .major rest
  shorter : rest.length ≤ messages.length

theorem readStream_comes (count : Nat) (messages : List Message)
    (whole : (verdict (.after count) messages).isSome = true) :
    Comes schedule (Running (Between messages)) (readStream count)
      (fun _ s => ∃ rest, Behind (.after count) messages rest ∧ Running (Between rest) s) := by
  induction count generalizing messages with
  | zero => exact Comes.pure fun s here => ⟨messages, ⟨rfl, Nat.le_refl _⟩, here⟩
  | succ count ih =>
      cases messages with
      | nil => cases whole
      | cons message rest =>
          apply (getStreamingMessage_comes fair).bind
          intro _
          apply Comes.given
          intro _
          apply (ih rest whole).weaken (fun _ here => here)
          rintro _ s ⟨behind, ⟨same, shorter⟩, here⟩
          exact ⟨behind, ⟨same, Nat.le_succ_of_le shorter⟩, here⟩

theorem streamBehind_comes (message : Message) (messages : List Message)
    (whole : message.low = 0x08 → (verdict .length messages).isSome = true) :
    Comes schedule (Running (Between messages)) (streamBehind message.low.toUInt32)
      (fun _ s => ∃ rest,
        (Behind (if message.low = 0x08 then .length else .major) messages rest ∧
          (message.low ≠ 0x08 → rest = messages)) ∧ Running (Between rest) s) := by
  have starts : message.low.toUInt32 = fwMajMsgStartStreaming ↔ message.low = 0x08 :=
    major_eq_iff message.low 0x08
  by_cases start : message.low = 0x08
  · rw [streamBehind, if_pos (starts.mpr start), if_pos start]
    have whole := whole start
    cases messages with
    | nil => cases whole
    | cons length rest =>
        apply (getStreamingMessage_comes fair).bind
        intro readData
        apply Comes.given
        intro same
        rw [same]
        apply (readStream_comes fair length.low.toNat rest whole).weaken (fun _ here => here)
        rintro _ s ⟨behind, ⟨read, shorter⟩, here⟩
        exact ⟨behind, ⟨⟨read, Nat.le_succ_of_le shorter⟩, fun other => absurd start other⟩,
          here⟩
  · rw [streamBehind, if_neg (mt starts.mp start), if_neg start]
    exact Comes.pure fun s here => ⟨messages, ⟨⟨rfl, Nat.le_refl _⟩, fun _ => rfl⟩, here⟩

omit fair in
/-- One pass of the loop, in front of the others. -/
theorem majorLoop_pass {passes one two three start : Nat} {value : UInt32} {s t u final : Mailbox}
    {result : UInt32} (got : Ends getMajorMessage (slice schedule start one) s (.ok value) t)
    (read : Ends (streamBehind value) (slice schedule (start + one) two) t (.ok ()) u)
    (goesOn : Ends (if value ≠ fwMajMsgTrainingSuccess ∧ value ≠ fwMajMsgTrainingFailed then
        majorLoop passes else pure value)
      (slice schedule (start + (one + two)) three) u (.ok result) final) :
    Ends (majorLoop (passes + 1)) (slice schedule start (one + two + three)) s (.ok result)
      final := by
  rw [slice_add, slice_add, List.append_assoc]
  exact got.bind (read.bind goesOn)

omit fair in
theorem getMajorMessage_takes {moments : List Moment} {s t : Mailbox}
    {result : Except Int UInt32} (ends : Ends getMajorMessage moments s result t) :
    0 < moments.length := by
  cases moments with
  | nil => cases ends []
  | cons moment moments => exact Nat.succ_pos _

/-- The loop comes to the verdict of the messages, if it has passes enough. -/
theorem majorLoop_ends (bound : Nat) (messages : List Message) (small : messages.length ≤ bound)
    {trained : Bool} (ends : verdict .major messages = some (trained, left)) (start : Nat)
    (s : Mailbox) (here : Running (Between messages) s) :
    ∃ count t, (∀ passes, count ≤ passes → Ends (majorLoop passes) (slice schedule start count) s
      (.ok (lastMajor trained)) t) ∧ Running (Between left) t := by
  induction bound generalizing messages start s with
  | zero =>
      rw [List.length_eq_zero_iff.mp (Nat.le_zero.mp small)] at ends
      cases ends
  | succ bound ih =>
      cases messages with
      | nil => cases ends
      | cons message messages =>
          obtain ⟨one, _, t, got, rfl, here⟩ := getMajorMessage_comes fair start s here
          have some_moment : 0 < one := slice_length schedule start one ▸ getMajorMessage_takes got
          have success : message.low.toUInt32 = fwMajMsgTrainingSuccess ↔ message.low = 0x07 :=
            major_eq_iff message.low 0x07
          have failure : message.low.toUInt32 = fwMajMsgTrainingFailed ↔ message.low = 0xFF :=
            major_eq_iff message.low 0xFF
          have whole (starts : message.low = 0x08) :
              (verdict .length messages).isSome = true := by
            have trained : message.low ≠ 0x07 := by rw [starts]; decide
            have gaveUp : message.low ≠ 0xFF := by rw [starts]; decide
            rw [verdict, if_neg trained, if_neg gaveUp, if_pos starts] at ends
            rw [ends]
            rfl
          obtain ⟨two, _, u, read, rest, ⟨⟨behind, shorter⟩, same⟩, later⟩ :=
            streamBehind_comes fair message messages whole (start + one) t here
          have compose {three : Nat} {final : Mailbox}
              (goesOn : ∀ passes, three ≤ passes →
                Ends (if message.low.toUInt32 ≠ fwMajMsgTrainingSuccess ∧
                    message.low.toUInt32 ≠ fwMajMsgTrainingFailed then majorLoop passes
                  else pure message.low.toUInt32)
                (slice schedule (start + (one + two)) three) u (.ok (lastMajor trained)) final)
              (passes : Nat) (enough : one + two + three ≤ passes) :
              Ends (majorLoop passes) (slice schedule start (one + two + three)) s
                (.ok (lastMajor trained)) final := by
            obtain ⟨passes, rfl⟩ : ∃ less, passes = less + 1 := ⟨passes - 1, by omega⟩
            exact majorLoop_pass got read (goesOn passes (by omega))
          by_cases success' : message.low = 0x07
          · rw [verdict, if_pos success'] at ends
            cases ends
            obtain rfl := same (by rw [success']; decide)
            refine ⟨one + two + 0, u, compose fun passes _ => ?_, later⟩
            rw [if_neg fun goesOn => goesOn.1 (success.mpr success'), success.mpr success']
            exact Ends.pure _ _
          by_cases failure' : message.low = 0xFF
          · rw [verdict, if_neg success', if_pos failure'] at ends
            cases ends
            obtain rfl := same (by rw [failure']; decide)
            refine ⟨one + two + 0, u, compose fun passes _ => ?_, later⟩
            rw [if_neg fun goesOn => goesOn.2 (failure.mpr failure'), failure.mpr failure']
            exact Ends.pure _ _
          · rw [verdict, if_neg success', if_neg failure', behind] at ends
            have shorter' : rest.length ≤ bound :=
              Nat.le_trans shorter (Nat.le_of_succ_le_succ small)
            obtain ⟨three, final, loop, here⟩ :=
              ih rest shorter' ends (start + (one + two)) u later
            refine ⟨one + two + three, final, compose fun passes enough => ?_, here⟩
            rw [if_pos ⟨mt success.mp success', mt failure.mp failure'⟩]
            exact loop passes enough

/-- What `ddrphy_phyinit_g_execfw` returns for a verdict. -/
def resultOf (trained : Bool) : Except Int Unit := if trained then .ok () else .error (-1)

theorem waitfwdone_ends {trained : Bool}
    (ends : verdict .major messages = some (trained, left)) :
    EndsAs schedule (Running (Between messages)) ddrphyPhyinitUsercustomGWaitfwdone
      (resultOf trained) := by
  intro start s here
  obtain ⟨count, t, loop, -⟩ :=
    majorLoop_ends fair messages.length messages (Nat.le_refl _) ends start s here
  refine ⟨count, t, fun rest => ?_⟩
  have enough : count ≤ (slice schedule start count ++ rest).length := by
    rw [List.length_append, slice_length]
    exact Nat.le_add_right _ _
  have looped := loop _ enough
  have finished : Ends (checkTrained (lastMajor trained)) [] t (resultOf trained) t := by
    cases trained with
    | true => exact Ends.pure () t
    | false => exact Ends.fail (-1) t
  have both := looped.bind finished rest
  rw [List.append_nil] at both
  exact both

theorem gExecfw_ends {trained : Bool} (ends : verdict .major messages = some (trained, left)) :
    EndsAs schedule (Stopped messages) ddrphyPhyinitGExecfw (resultOf trained) := by
  have selected (value : UInt16) : Comes schedule (Stopped messages) (writeMicroContMuxSel value)
      (fun _ => Stopped messages) :=
    Comes.access fun moment _ stopped => stopped.select moment value
  have held {value : UInt16} (nonzero : value ≠ 0) : Comes schedule (Stopped messages)
      (writeMicroReset value) (fun _ => Stopped messages) :=
    Comes.access fun moment _ stopped => stopped.hold moment nonzero
  have started : Comes schedule (Stopped messages) (writeMicroReset 0)
      (fun _ => Running (Between messages)) :=
    Comes.access fun moment _ stopped => stopped.start moment
  apply EndsAs.behind (selected _)
  intro _
  apply EndsAs.behind (held (by decide))
  intro _
  apply EndsAs.behind (held (by decide))
  intro _
  apply EndsAs.behind started
  intro _ start s here
  obtain ⟨count, t, ended⟩ := waitfwdone_ends fair ends start s here
  cases trained with
  | true =>
      let last := t.advance (schedule (start + count))
      refine ⟨count + 1, { last with microReset := csrStalltomicroMask }, ?_⟩
      rw [slice_add]
      exact ended.bind fun _ => rfl
  | false => exact ⟨count, t, ended.bind_error⟩

/-- With a fair firmware and in time, the training returns exactly if the messages
come to a verdict, and it returns that verdict. -/
theorem gExecfw_ends_iff {s : Mailbox} (stopped : Stopped messages s)
    (result : Except Int Unit) :
    (∃ count rest final,
      ddrphyPhyinitGExecfw (slice schedule 0 count) s = some (result, rest, final)) ↔
      ∃ trained left, verdict .major messages = some (trained, left) ∧
        result = resultOf trained := by
  constructor
  · rintro ⟨count, rest, final, run⟩
    obtain ⟨trained, gaveUp⟩ := gExecfw_agrees stopped run
    cases result with
    | ok value =>
        obtain ⟨left, ends, -⟩ := trained rfl
        exact ⟨true, left, ends, rfl⟩
    | error code =>
        obtain ⟨rfl, -, late | ⟨left, ends, -⟩⟩ := gaveUp code rfl
        · obtain ⟨moment, inside, late⟩ := late
          obtain ⟨k, rfl⟩ := mem_slice inside
          rw [fair.punctual k] at late
          cases late
        · exact ⟨false, left, ends, rfl⟩
  · rintro ⟨trained, left, ends, rfl⟩
    obtain ⟨count, final, ended⟩ := gExecfw_ends fair ends 0 s stopped
    have run := ended []
    rw [List.append_nil] at run
    exact ⟨count, [], final, run⟩

omit fair in
theorem promptFair : Fair fun _ => promptMoment where
  punctual _ := rfl
  offers start := ⟨start, Nat.le_refl _, by decide⟩
  retracts start := ⟨start, Nat.le_refl _, by decide⟩

omit fair in
theorem gExecfw_ends_iff_streamed :
    ∃ count rest final, ddrphyPhyinitGExecfw (slice (fun _ => promptMoment) 0 count)
      stoppedMailbox = some (.ok (), rest, final) :=
  (gExecfw_ends_iff promptFair stoppedMailbox_stopped (.ok ())).mpr
    ⟨true, [⟨3, 3⟩], rfl, rfl⟩

end

end Mp257Fsbl.Ddr
