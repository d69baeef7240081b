/-
Module: Mp257Fsbl.Ddr.Mailbox
Purpose: The training of the PHY: its microcontroller is started, reports through
  a mailbox of four phases, and is halted once it has trained.
Trusted boundary: human-reviewed model of ddrphy_phyinit_g_execfw.c and
  ddrphy_phyinit_usercustom_g_waitfwdone.c; the firmware is any sender that keeps
  to the four phases
Main exports: Message, Mailbox, Moment, getMajorMessage, getStreamingMessage,
  ddrphyPhyinitUsercustomGWaitfwdone, ddrphyPhyinitGExecfw
-/
import Mp257Fsbl.Foundation.Interleaved

namespace Mp257Fsbl.Ddr

open Mp257Fsbl.Foundation

/-! ### The mailbox and the firmware -/

/-- The two shadow registers of a message. -/
structure Message where
  low : UInt16
  high : UInt16
deriving Repr, DecidableEq

/-- The registers that the code shares with the microcontroller, and the messages
that the firmware has not offered yet. -/
structure Mailbox where
  uctWriteProtShadow : Bool
  dctWriteProt : Bool
  shadow : Message
  microContMuxSel : UInt16
  microReset : UInt16
  left : List Message
deriving Repr, DecidableEq

/-- What the firmware does by itself. -/
inductive Move where
  | scribble (message : Message)
  | offer
  | retract
deriving Repr, DecidableEq

/-- One move of the firmware. A message that is offered stays until it is
acknowledged, it is taken back behind the acknowledge, and the next one waits for
the end of the four phases. -/
def Mailbox.move (s : Mailbox) : Move → Mailbox
  | .scribble message =>
      if s.uctWriteProtShadow ∨ ¬ s.dctWriteProt then { s with shadow := message } else s
  | .offer =>
      if s.uctWriteProtShadow ∧ s.dctWriteProt then
        match s.left with
        | [] => s
        | message :: rest =>
            { s with uctWriteProtShadow := false, shadow := message, left := rest }
      else s
  | .retract =>
      if ¬ s.uctWriteProtShadow ∧ ¬ s.dctWriteProt then { s with uctWriteProtShadow := true }
      else s

/-- What happens up to an access: the moves of the firmware, the other bits of
UctShadowRegs, and whether the time of a wait has run out. -/
structure Moment where
  moves : List Move
  noise : UInt16
  late : Bool

/-- The microcontroller runs while nothing holds it. -/
def Mailbox.advance (moment : Moment) (s : Mailbox) : Mailbox :=
  if s.microReset = 0 then moment.moves.foldl Mailbox.move s else s

def bit (b : Bool) : UInt16 := if b then 1 else 0

def Mailbox.uctShadowRegs (moment : Moment) (s : Mailbox) : UInt16 :=
  (moment.noise &&& 0xFFFE) ||| bit s.uctWriteProtShadow

/-! ### The code -/

/-- Code over the mailbox, with its return values other than zero as errors. -/
abbrev TrainingCode := Interleaved Moment Mailbox Int

def readCsr {α : Type} (csr : Mailbox → α) : TrainingCode α :=
  .access Mailbox.advance fun s => (csr s, s)

def writeDctWriteProt (value : UInt16) : TrainingCode Unit :=
  .access Mailbox.advance fun s => ((), { s with dctWriteProt := value &&& 1 = 1 })

def writeMicroContMuxSel (value : UInt16) : TrainingCode Unit :=
  .access Mailbox.advance fun s => ((), { s with microContMuxSel := value })

def writeMicroReset (value : UInt16) : TrainingCode Unit :=
  .access Mailbox.advance fun s => ((), { s with microReset := value })

/-- `wait_uctwriteprotshadow`: a value read late does not count. -/
def waitUctwriteprotshadow (state : Bool) : TrainingCode Unit :=
  .pollUntil Mailbox.advance Moment.late
    (fun moment s => s.uctShadowRegs moment &&& 1 = bit state) (-1)

/-- `ack_message_receipt`. -/
def ackMessageReceipt : TrainingCode Unit := do
  writeDctWriteProt 0
  waitUctwriteprotshadow true
  writeDctWriteProt 1

/-- `get_major_message`. -/
def getMajorMessage : TrainingCode UInt32 := do
  waitUctwriteprotshadow false
  let messageNumber ← readCsr (·.shadow.low)
  ackMessageReceipt
  pure messageNumber.toUInt32

/-- `get_streaming_message`. -/
def getStreamingMessage : TrainingCode UInt32 := do
  waitUctwriteprotshadow false
  let lowerPart ← readCsr (·.shadow.low)
  let upperPart ← readCsr (·.shadow.high)
  ackMessageReceipt
  pure (lowerPart.toUInt32 ||| upperPart.toUInt32 <<< 16)

def fwMajMsgTrainingSuccess : UInt32 := 0x07
def fwMajMsgStartStreaming : UInt32 := 0x08
def fwMajMsgTrainingFailed : UInt32 := 0xFF

/-- The words behind the length of a stream. -/
def readStream : Nat → TrainingCode Unit
  | 0 => pure ()
  | left + 1 => do
      let _ ← getStreamingMessage
      readStream left

/-- A stream, where the major message says that one follows. -/
def streamBehind (fwMajorMessage : UInt32) : TrainingCode Unit :=
  if fwMajorMessage = fwMajMsgStartStreaming then do
    let readData ← getStreamingMessage
    readStream (readData &&& 0xFFFF).toNat
  else pure ()

/-- The loop over major messages, for so many passes. -/
def majorLoop : Nat → TrainingCode UInt32
  | 0 => .stuck
  | passes + 1 => do
      let fwMajorMessage ← getMajorMessage
      streamBehind fwMajorMessage
      if fwMajorMessage ≠ fwMajMsgTrainingSuccess ∧ fwMajorMessage ≠ fwMajMsgTrainingFailed then
        majorLoop passes
      else pure fwMajorMessage

/-- The return value behind the loop. -/
def checkTrained (fwMajorMessage : UInt32) : TrainingCode Unit :=
  if fwMajorMessage = fwMajMsgTrainingFailed then .fail (-1) else pure ()

/-- Each pass takes moments, so that there are no more passes than moments. -/
def ddrphyPhyinitUsercustomGWaitfwdone : TrainingCode Unit := fun moments =>
  (majorLoop moments.length >>= checkTrained) moments

def csrStalltomicroMask : UInt16 := 0x1
def csrResettomicroMask : UInt16 := 0x8

def ddrphyPhyinitGExecfw : TrainingCode Unit := do
  writeMicroContMuxSel csrStalltomicroMask
  writeMicroReset (csrResettomicroMask ||| csrStalltomicroMask)
  writeMicroReset csrStalltomicroMask
  writeMicroReset 0
  ddrphyPhyinitUsercustomGWaitfwdone
  writeMicroReset csrStalltomicroMask

/-! ### Phases of the mailbox -/

/-- Between two messages: these are the ones that the code has not got yet, the
first of which may be on offer. -/
structure Between (messages : List Message) (s : Mailbox) : Prop where
  ready : s.dctWriteProt = true
  next : (s.uctWriteProtShadow = true ∧ s.left = messages) ∨
    (s.uctWriteProtShadow = false ∧ s.shadow :: s.left = messages)

structure Offered (message : Message) (rest : List Message) (s : Mailbox) : Prop where
  ready : s.dctWriteProt = true
  shown : s.uctWriteProtShadow = false
  shadow : s.shadow = message
  left : s.left = rest

/-- Acknowledged, and perhaps taken back. -/
structure Acknowledged (rest : List Message) (s : Mailbox) : Prop where
  closed : s.dctWriteProt = false
  left : s.left = rest

structure TakenBack (rest : List Message) (s : Mailbox) : Prop where
  closed : s.dctWriteProt = false
  back : s.uctWriteProtShadow = true
  left : s.left = rest

/-- The microcontroller runs. -/
def Running (phase : Mailbox → Prop) (s : Mailbox) : Prop := s.microReset = 0 ∧ phase s

section

variable {s : Mailbox} {message : Message} {messages rest : List Message} {moves : List Move}

theorem move_microReset (s : Mailbox) (move : Move) : (s.move move).microReset = s.microReset := by
  cases move with
  | scribble message =>
      rw [Mailbox.move]
      split <;> rfl
  | offer =>
      rw [Mailbox.move]
      split
      · split <;> rfl
      · rfl
  | retract =>
      rw [Mailbox.move]
      split <;> rfl

theorem Offered.move (offered : Offered message rest s) (move : Move) : s.move move = s := by
  have shown := offered.shown
  have ready := offered.ready
  cases move <;> simp [Mailbox.move, shown, ready]

theorem Between.offered (between : Between (message :: rest) s)
    (shown : s.uctWriteProtShadow = false) : Offered message rest s := by
  rcases between.next with ⟨hidden, _⟩ | ⟨_, same⟩
  · rw [shown] at hidden
    cases hidden
  · obtain ⟨here, left⟩ := List.cons.inj same
    exact ⟨between.ready, shown, here, left⟩

theorem Offered.between (offered : Offered message rest s) : Between (message :: rest) s := by
  refine ⟨offered.ready, .inr ⟨offered.shown, ?_⟩⟩
  rw [offered.shadow, offered.left]

theorem Between.offer (between : Between (message :: rest) s) :
    Offered message rest (s.move .offer) := by
  rcases between.next with ⟨hidden, left⟩ | ⟨shown, _⟩
  · rw [Mailbox.move, if_pos ⟨hidden, between.ready⟩, left]
    exact ⟨between.ready, rfl, rfl, rfl⟩
  · have offered := between.offered shown
    rw [offered.move]
    exact offered

theorem Between.move (between : Between messages s) (move : Move) :
    Between messages (s.move move) := by
  rcases between.next with ⟨hidden, left⟩ | ⟨shown, same⟩
  · cases move with
    | scribble message =>
        rw [Mailbox.move, if_pos (.inl hidden)]
        exact ⟨between.ready, .inl ⟨hidden, left⟩⟩
    | offer =>
        cases messages with
        | nil =>
            rw [Mailbox.move, if_pos ⟨hidden, between.ready⟩, left]
            exact between
        | cons message rest => exact between.offer.between
    | retract =>
        rw [Mailbox.move, if_neg (not_and_of_not_left _ (not_not_intro hidden))]
        exact between
  · subst same
    rw [(between.offered shown).move]
    exact between

theorem Acknowledged.move (acknowledged : Acknowledged rest s) (move : Move) :
    Acknowledged rest (s.move move) := by
  have closed := acknowledged.closed
  have left := acknowledged.left
  cases move with
  | scribble message =>
      have free : s.uctWriteProtShadow ∨ ¬ s.dctWriteProt := by simp [closed]
      rw [Mailbox.move, if_pos free]
      exact ⟨closed, left⟩
  | offer =>
      have waits : ¬ (s.uctWriteProtShadow ∧ s.dctWriteProt) := by simp [closed]
      rw [Mailbox.move, if_neg waits]
      exact acknowledged
  | retract =>
      rw [Mailbox.move]
      split <;> exact ⟨closed, left⟩

theorem TakenBack.acknowledged (back : TakenBack rest s) : Acknowledged rest s :=
  ⟨back.closed, back.left⟩

theorem TakenBack.move (back : TakenBack rest s) (move : Move) : TakenBack rest (s.move move) := by
  obtain ⟨closed, left⟩ := back.acknowledged.move move
  refine ⟨closed, ?_, left⟩
  have here := back.back
  have zero := back.closed
  cases move <;> simp [Mailbox.move, here, zero]

theorem Acknowledged.retract (acknowledged : Acknowledged rest s) :
    TakenBack rest (s.move .retract) := by
  obtain ⟨closed, left⟩ := acknowledged.move .retract
  refine ⟨closed, ?_, left⟩
  have zero := acknowledged.closed
  cases back : s.uctWriteProtShadow <;> simp [Mailbox.move, back, zero]

end

/-! ### Up to an access -/

section

variable {phase other : Mailbox → Prop} {s : Mailbox}

theorem foldl_phase (keeps : ∀ s move, phase s → phase (s.move move)) (moves : List Move)
    (here : phase s) : phase (moves.foldl Mailbox.move s) := by
  induction moves generalizing s with
  | nil => exact here
  | cons move moves ih => exact ih (keeps s move here)

/-- A move that leads on, among moves that do not lead back. -/
theorem foldl_turns {turn : Move} (keeps : ∀ s move, phase s → phase (s.move move))
    (turns : ∀ s, phase s → other (s.move turn))
    (stays : ∀ s move, other s → other (s.move move)) {moves : List Move} (inside : turn ∈ moves)
    (here : phase s) : other (moves.foldl Mailbox.move s) := by
  induction moves generalizing s with
  | nil => cases inside
  | cons move moves ih =>
      rcases List.mem_cons.mp inside with rfl | later
      · exact foldl_phase stays moves (turns s here)
      · exact ih later (keeps s move here)

theorem foldl_microReset (moves : List Move) (s : Mailbox) :
    (moves.foldl Mailbox.move s).microReset = s.microReset := by
  induction moves generalizing s with
  | nil => rfl
  | cons move moves ih => exact (ih (s.move move)).trans (move_microReset s move)

theorem Running.advance (keeps : ∀ s move, phase s → phase (s.move move)) (moment : Moment)
    (here : Running phase s) : Running phase (s.advance moment) := by
  rw [Mailbox.advance, if_pos here.1]
  exact ⟨(foldl_microReset moment.moves s).trans here.1, foldl_phase keeps moment.moves here.2⟩

theorem Running.turns {turn : Move} (keeps : ∀ s move, phase s → phase (s.move move))
    (turns : ∀ s, phase s → other (s.move turn))
    (stays : ∀ s move, other s → other (s.move move)) {moment : Moment}
    (inside : turn ∈ moment.moves) (here : Running phase s) : other (s.advance moment) := by
  rw [Mailbox.advance, if_pos here.1]
  exact foldl_turns keeps turns stays inside here.2

/-- A microcontroller that is held does nothing. -/
theorem advance_held (moment : Moment) (held : s.microReset ≠ 0) : s.advance moment = s :=
  if_neg held

/-- The other bits of the register do not count. -/
theorem mask_bit (noise value : UInt16) : (noise &&& 0xFFFE ||| value) &&& 1 = value &&& 1 := by
  apply UInt16.toBitVec_inj.mp
  ext i inside
  cases i with
  | zero => simp
  | succ i => simp

theorem uctShadowRegs_bit (moment : Moment) (s : Mailbox) :
    s.uctShadowRegs moment &&& 1 = bit s.uctWriteProtShadow := by
  rw [Mailbox.uctShadowRegs, mask_bit]
  cases s.uctWriteProtShadow <;> rfl

theorem uctShadowRegs_stops (moment : Moment) (s : Mailbox) (state : Bool) :
    decide (s.uctShadowRegs moment &&& 1 = bit state) = true ↔ s.uctWriteProtShadow = state := by
  rw [decide_eq_true_iff, uctShadowRegs_bit]
  cases s.uctWriteProtShadow <;> cases state <;> decide

end

end Mp257Fsbl.Ddr
