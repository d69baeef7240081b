/-
Module: Mp257Fsbl.Usb.Msc.BlockDevice
Purpose: Over a card that always works, the class is a block device: what any
  session of READ(10) and WRITE(10) commands shows the host is what an array of
  blocks would show.
Trusted boundary: the abstract machine `Disk` states the purpose
Main exports: Report, Disk.exec, serve, DeviceStep, session_refines_disk
-/
import Mp257Fsbl.Usb.Msc.Host

namespace Mp257Fsbl.Usb.Msc

open Mp257Fsbl.Foundation
open Mp257Fsbl.Sd

/-! ### The abstract machine -/

/-- What the host and the console see of one command. -/
structure Report where
  inData : List UInt8
  completions : Nat
  csw : Csw
  readCount : UInt64
  writeCount : UInt64
deriving Repr, DecidableEq

/-- An array of blocks. -/
abbrev Disk := Store (List UInt8)

namespace Disk

variable {info : SdDevInfo}

/-- A read shows the blocks it names; a write replaces them. -/
def exec (command : IoCommand info) (disk : Disk) : Disk × Report :=
  let chunks := (command.cnt.toNat + 31) / 32
  let csw : Csw :=
    { signature := cswSignature, tag := command.tag, dataResidue := 0, status := 0 }
  match command.op with
  | .read10 =>
      (disk,
        { inData := (disk.window command.lba.toNat command.cnt.toNat).flatten
          completions := chunks
          csw := csw
          readCount := command.cnt.toUInt64
          writeCount := 0 })
  | .write10 blocks =>
      (disk.overlay command.lba.toNat blocks,
        { inData := []
          completions := chunks
          csw := csw
          readCount := 0
          writeCount := command.cnt.toUInt64 })

/-- The commands of a session with what each one shows. -/
def session (disk : Disk) : List (IoCommand info) → List (IoCommand info × Report)
  | [] => []
  | command :: commands =>
      (command, (exec command disk).2) :: session (exec command disk).1 commands

/-- The array after a session. -/
def afterSession (disk : Disk) : List (IoCommand info) → Disk
  | [] => disk
  | command :: commands => afterSession (exec command disk).1 commands

end Disk

/-! ### The host at work on the bus -/

/-- The bus and the host's two data streams within one command. -/
structure Exchange where
  bus : Bus
  toSend : List UInt8
  received : List UInt8

/-- One full data completion: the host takes all of an IN transfer, or fills
an OUT transfer with its next bytes. No other transfer is a data transfer. -/
def dataCompletion (info : SdDevInfo) (x : Exchange) : Option Exchange :=
  match x.bus.outstanding with
  | [.bulkIn .xferBuf len] =>
      some
        { bus := completeIn [] .ok x.bus.dev
          toSend := x.toSend
          received := x.received ++ x.bus.dev.xferBuf.window 0 len.toNat }
  | [.bulkOut .xferBuf len] =>
      some
        { bus := completeOut info [] .xferBuf (x.toSend.take len.toNat) .ok x.bus.dev
          toSend := x.toSend.drop len.toNat
          received := x.received }
  | _ => none

def dataCompletions (info : SdDevInfo) : Nat → Exchange → Option Exchange
  | 0, x => some x
  | n + 1, x => (dataCompletion info x).bind (dataCompletions info n)

/-- The host collects the CSW and looks at the counters. -/
def collectCsw (start : MscState) (completions : Nat) (x : Exchange) : Option (Bus × Report) :=
  match x.bus.outstanding with
  | [.bulkIn .csw len] =>
      if len = cswLength ∧ x.toSend = [] then
        some
          (completeIn [] .ok x.bus.dev,
            { inData := x.received
              completions := completions
              csw := x.bus.dev.csw
              readCount := x.bus.dev.mscReadCount - start.mscReadCount
              writeCount := x.bus.dev.mscWriteCount - start.mscWriteCount })
      else none
  | _ => none

/-- The exchange once the device has received the CBW of a command. -/
def accept (info : SdDevInfo) (command : IoCommand info) (dev : MscState) : Exchange :=
  { bus := completeOut info [] .cbw command.packet .ok dev
    toSend := command.payload
    received := [] }

/-- One command from its CBW to its CSW with exactly `completions` data
completions in between. -/
def serve (info : SdDevInfo) (command : IoCommand info) (completions : Nat) (bus : Bus) :
    Option (Bus × Report) :=
  match bus.outstanding with
  | [.bulkOut .cbw _] =>
      (dataCompletions info completions (accept info command bus.dev)).bind
        (collectCsw bus.dev completions)
  | _ => none

/-- The device as a step relation: a command and what it showed. -/
def DeviceStep (info : SdDevInfo) : Step Bus (IoCommand info × Report) :=
  fun bus label next => serve info label.1 label.2.completions bus = some (next, label.2)

/-- Waiting for a CBW. Everything else in the class is arbitrary. -/
def Idle (bus : Bus) : Prop :=
  bus.dev.botState = .idle ∧ bus.outstanding = [.bulkOut .cbw cbwLength]

/-! ### Counting completions

A bus that offers a CSW offers no data transfer, so the number of data
completions of a command is determined. -/

theorem dataCompletions_add (info : SdDevInfo) (m n : Nat) (x : Exchange) :
    dataCompletions info (m + n) x =
      (dataCompletions info m x).bind (dataCompletions info n) := by
  induction m generalizing x with
  | zero => simp [dataCompletions]
  | succ m ih =>
      rw [Nat.succ_add, dataCompletions, dataCompletions]
      cases dataCompletion info x with
      | none => rfl
      | some next => simpa using ih next

theorem not_data_of_collectCsw {info : SdDevInfo} {start : MscState} {completions : Nat}
    {x : Exchange} {result : Bus × Report}
    (collected : collectCsw start completions x = some result) (n : Nat) :
    dataCompletions info (n + 1) x = none := by
  unfold collectCsw at collected
  split at collected
  · rename_i len armed
    simp [dataCompletions, dataCompletion, armed]
  · cases collected

theorem completions_unique {info : SdDevInfo} {start : MscState} {x first second : Exchange}
    {m n : Nat} {one two : Bus × Report} (firstReached : dataCompletions info m x = some first)
    (secondReached : dataCompletions info n x = some second)
    (firstCsw : collectCsw start m first = some one)
    (secondCsw : collectCsw start n second = some two) : m = n := by
  rcases Nat.lt_trichotomy m n with less | same | greater
  · obtain ⟨k, rfl⟩ := Nat.exists_eq_add_of_lt less
    rw [Nat.add_assoc, dataCompletions_add, firstReached, Option.bind_some,
      not_data_of_collectCsw firstCsw] at secondReached
    cases secondReached
  · exact same
  · obtain ⟨k, rfl⟩ := Nat.exists_eq_add_of_lt greater
    rw [Nat.add_assoc, dataCompletions_add, secondReached, Option.bind_some,
      not_data_of_collectCsw secondCsw] at firstReached
    cases firstReached

/-- A command is served in one way only. -/
theorem serve_deterministic {info : SdDevInfo} {command : IoCommand info} {m n : Nat}
    {bus : Bus} {first second : Bus × Report} (one : serve info command m bus = some first)
    (two : serve info command n bus = some second) : first = second := by
  unfold serve at one two
  split at one
  · rename_i len waiting
    simp only [waiting] at two
    obtain ⟨x, reached, collected⟩ := Option.bind_eq_some_iff.mp one
    obtain ⟨y, reached', collected'⟩ := Option.bind_eq_some_iff.mp two
    have same := completions_unique reached reached' collected collected'
    subst same
    rw [one] at two
    exact Option.some.inj two
  · cases one

/-! ### The data phases -/

/-- The exchange is over but for the CSW. -/
structure AtCsw (tag : UInt32) (card : Store UInt8) (readCount writeCount : UInt64)
    (received : List UInt8) (x : Exchange) : Prop where
  state : x.bus.dev.botState = .csw
  armed : x.bus.outstanding = [.bulkIn .csw cswLength]
  csw : x.bus.dev.csw =
    { signature := cswSignature, tag := tag, dataResidue := 0, status := 0 }
  sameCard : x.bus.dev.card = card
  readCount_eq : x.bus.dev.mscReadCount = readCount
  writeCount_eq : x.bus.dev.mscWriteCount = writeCount
  sentAll : x.toSend = []
  received_eq : x.received = received

/-- `chunk` blocks from `lba` on are in the buffer and on their way to the
host, with `left` more blocks to come after them. -/
structure Reading (card : Store UInt8) (lba chunk left : Nat) (bus : Bus) : Prop where
  state : bus.dev.botState = .dataIn
  armed : ∃ len, bus.outstanding = [.bulkIn .xferBuf len] ∧ len.toNat = 512 * chunk
  sameCard : bus.dev.card = card
  buffer : bus.dev.xferBuf.window 0 (512 * chunk) = card.window (512 * lba) (512 * chunk)
  blocksLeft : bus.dev.ioBlocksLeft.toNat = left
  next : left ≠ 0 → bus.dev.ioLba.toNat = lba + chunk

theorem reading_mscContinueRead {s : MscState} {lba left : Nat} (at_lba : s.ioLba.toNat = lba)
    (at_left : s.ioBlocksLeft.toNat = left) (addresses : lba + left ≤ 2 ^ 32) :
    Reading s.card lba (min 32 left) (left - min 32 left)
      (.after [] (mscContinueRead .ok s)) := by
  have chunk := nextChunk_toNat s.ioBlocksLeft
  have size := nextChunk_size_toNat s.ioBlocksLeft
  rw [at_left] at chunk size
  refine ⟨rfl, ⟨_, rfl, size⟩, rfl, ?_, ?_, ?_⟩
  · change (s.xferBuf.overlay 0 (s.card.window (blockSize * s.ioLba.toNat)
      (nextChunk s.ioBlocksLeft * blockBytes).toNat)).window 0 (512 * min 32 left) = _
    rw [size, at_lba, blockSize]
    simpa using Store.window_overlay_same s.xferBuf 0
      (s.card.window (512 * lba) (512 * min 32 left))
  · change (s.ioBlocksLeft - nextChunk s.ioBlocksLeft).toNat = left - min 32 left
    rw [sub_nextChunk_toNat, at_left]
  · intro more
    change (s.ioLba + nextChunk s.ioBlocksLeft).toNat = lba + min 32 left
    rw [UInt32.toNat_add, chunk, at_lba]
    omega

/-- The blocks of a chunk as they enter a 64-bit counter. -/
theorem nextChunk_toUInt64 {blocksLeft : UInt32} {left : Nat}
    (at_left : blocksLeft.toNat = left) :
    (nextChunk blocksLeft).toUInt64 = UInt64.ofNat (min 32 left) := by
  apply UInt64.toNat.inj
  rw [UInt32.toNat_toUInt64, nextChunk_toNat, at_left, UInt64.toNat_ofNat']
  omega

/-- A chunk and what is left after it count as what was left before it. -/
theorem counts_add {count blocks : UInt64} {chunk left : Nat}
    (counted : blocks = UInt64.ofNat chunk) (fits : chunk ≤ left) :
    count + blocks + UInt64.ofNat (left - chunk) = count + UInt64.ofNat left := by
  rw [counted, UInt64.add_assoc, ← UInt64.ofNat_add, Nat.add_sub_of_le fits]

/-- The IN data phase. The induction is on the blocks not yet read. -/
theorem readPhase (info : SdDevInfo) {card : Store UInt8} {tag : UInt32} (left : Nat) :
    ∀ {lba chunk : Nat} {x : Exchange}, Reading card lba chunk left x.bus →
      x.bus.dev.cbw.tag = tag → x.toSend = [] → lba + chunk + left ≤ 2 ^ 32 →
      ∃ y, dataCompletions info ((left + 31) / 32 + 1) x = some y ∧
        AtCsw tag card (x.bus.dev.mscReadCount + UInt64.ofNat left) x.bus.dev.mscWriteCount
          (x.received ++ card.window (512 * lba) (512 * (chunk + left))) y := by
  induction left using Nat.strongRecOn with
  | _ left ih =>
      intro lba chunk x reading tagged nothing addresses
      rcases reading.armed with ⟨len, armed, size⟩
      have taken : dataCompletion info x =
          some { bus := completeIn [] .ok x.bus.dev
                 toSend := []
                 received := x.received ++ card.window (512 * lba) (512 * chunk) } := by
        simp only [dataCompletion, armed, nothing, size, reading.buffer]
      by_cases last : left = 0
      · subst last
        have drained : x.bus.dev.ioBlocksLeft = 0 := UInt32.toNat.inj reading.blocksLeft
        have finish := completeIn_last [] .ok reading.state drained
        refine ⟨_, by rw [dataCompletions, taken]; rfl, ?_⟩
        rw [finish]
        exact ⟨rfl, rfl, by rw [← tagged]; rfl, reading.sameCard, (UInt64.add_zero _).symm, rfl,
          rfl, rfl⟩
      · have more : x.bus.dev.ioBlocksLeft ≠ 0 := by
          intro drained
          exact last (by rw [← reading.blocksLeft, drained]; rfl)
        have continued := completeIn_more [] .ok reading.state more
        have further := reading_mscContinueRead (reading.next last) reading.blocksLeft
          (by omega)
        rw [reading.sameCard] at further
        obtain ⟨y, reached, atCsw⟩ := ih (left - min 32 left) (by omega)
          (x := { bus := completeIn [] .ok x.bus.dev
                  toSend := []
                  received := x.received ++ card.window (512 * lba) (512 * chunk) })
          (continued ▸ further) (by rw [continued]; exact tagged) rfl (by omega)
        have counted : (left + 31) / 32 + 1 = ((left - min 32 left + 31) / 32 + 1) + 1 := by omega
        refine ⟨y, by rw [counted, dataCompletions, taken]; exact reached, ?_⟩
        have readAll : (completeIn [] .ok x.bus.dev).dev.mscReadCount +
            UInt64.ofNat (left - min 32 left) = x.bus.dev.mscReadCount + UInt64.ofNat left := by
          rw [continued]
          exact counts_add (nextChunk_toUInt64 reading.blocksLeft) (Nat.min_le_right 32 left)
        have wroteNone : (completeIn [] .ok x.bus.dev).dev.mscWriteCount =
            x.bus.dev.mscWriteCount := by
          rw [continued]
          rfl
        have joined : x.received ++ card.window (512 * lba) (512 * chunk) ++
            card.window (512 * (lba + chunk)) (512 * (min 32 left + (left - min 32 left))) =
              x.received ++ card.window (512 * lba) (512 * (chunk + left)) := by
          rw [Nat.add_sub_of_le (Nat.min_le_right 32 left), Nat.mul_add 512 chunk left,
            Store.window_add, List.append_assoc, Nat.mul_add 512 lba chunk]
        rw [readAll, wroteNone, joined] at atCsw
        exact atCsw

/-- The next chunk of the `left` blocks from `lba` on is awaited. -/
structure Writing (card : Store UInt8) (lba left : Nat) (bus : Bus) : Prop where
  state : bus.dev.botState = .dataOut
  armed : ∃ len, bus.outstanding = [.bulkOut .xferBuf len] ∧ len.toNat = 512 * min 32 left
  sameCard : bus.dev.card = card
  chunk : bus.dev.ioChunkBlocks = nextChunk bus.dev.ioBlocksLeft
  blocksLeft : bus.dev.ioBlocksLeft.toNat = left
  at_lba : bus.dev.ioLba.toNat = lba

section Writing

variable {card : Store UInt8} {lba left : Nat} {bus : Bus}

theorem Writing.chunk_toNat (writing : Writing card lba left bus) :
    bus.dev.ioChunkBlocks.toNat = min 32 left := by
  rw [writing.chunk, nextChunk_toNat, writing.blocksLeft]

theorem Writing.size_toNat (writing : Writing card lba left bus) :
    (bus.dev.ioChunkBlocks * blockBytes).toNat = 512 * min 32 left := by
  rw [writing.chunk, nextChunk_size_toNat, writing.blocksLeft]

/-- What is left after the awaited chunk. -/
theorem Writing.rest (writing : Writing card lba left bus) :
    (bus.dev.ioBlocksLeft - bus.dev.ioChunkBlocks).toNat = left - min 32 left := by
  rw [writing.chunk, sub_nextChunk_toNat, writing.blocksLeft]

/-- The address of the chunk after it does not wrap. -/
theorem Writing.next_lba (writing : Writing card lba left bus) (room : lba + left ≤ 2 ^ 32)
    (more : left - min 32 left ≠ 0) :
    (bus.dev.ioLba + bus.dev.ioChunkBlocks).toNat = lba + min 32 left := by
  rw [UInt32.toNat_add, writing.chunk_toNat, writing.at_lba]
  omega

end Writing

theorem writing_mscArmWriteChunk {s : MscState} {lba left : Nat} (at_lba : s.ioLba.toNat = lba)
    (at_left : s.ioBlocksLeft.toNat = left) :
    Writing s.card lba left (.after [] (mscArmWriteChunk s)) := by
  have size := nextChunk_size_toNat s.ioBlocksLeft
  rw [at_left] at size
  exact ⟨rfl, ⟨_, rfl, size⟩, rfl, rfl, at_left, at_lba⟩

/-- A full chunk that arrives is stored as it came. -/
theorem card_chunkWritten {s : MscState} {bytes : List UInt8}
    (chunk : s.ioChunkBlocks = nextChunk s.ioBlocksLeft)
    (full : bytes.length = 512 * min 32 s.ioBlocksLeft.toNat) :
    (s.received .xferBuf bytes).chunkWritten.card =
      s.card.overlay (512 * s.ioLba.toNat) bytes := by
  have size : (s.ioChunkBlocks * blockBytes).toNat = bytes.length := by
    rw [chunk, nextChunk_size_toNat, full]
  change s.card.overlay (blockSize * s.ioLba.toNat)
    ((s.xferBuf.overlay 0 bytes).window 0 (s.ioChunkBlocks * blockBytes).toNat) = _
  rw [size, Store.window_overlay_same, blockSize]

/-- The OUT data phase. The induction is on the blocks not yet written. -/
theorem writePhase (info : SdDevInfo) {tag : UInt32} (left : Nat) :
    ∀ {card : Store UInt8} {lba : Nat} {x : Exchange}, Writing card lba left x.bus →
      x.bus.dev.cbw.tag = tag → x.toSend.length = 512 * left → left ≠ 0 →
      lba + left ≤ 2 ^ 32 →
      ∃ y, dataCompletions info ((left + 31) / 32) x = some y ∧
        AtCsw tag (card.overlay (512 * lba) x.toSend) x.bus.dev.mscReadCount
          (x.bus.dev.mscWriteCount + UInt64.ofNat left) x.received y := by
  induction left using Nat.strongRecOn with
  | _ left ih =>
      intro card lba x writing tagged whole some_left addresses
      rcases writing.armed with ⟨len, armed, size⟩
      have full : (x.toSend.take len.toNat).length = 512 * min 32 x.bus.dev.ioBlocksLeft.toNat := by
        rw [List.length_take, size, whole, writing.blocksLeft]
        omega
      have completed := completeOut_chunk_ok info (x.toSend.take len.toNat) writing.state
      have cardAfter := card_chunkWritten writing.chunk full
      rw [writing.sameCard, writing.at_lba] at cardAfter
      have taken : dataCompletion info x =
          some { bus := completeOut info [] .xferBuf (x.toSend.take len.toNat) .ok x.bus.dev
                 toSend := x.toSend.drop len.toNat
                 received := x.received } := by
        simp only [dataCompletion, armed]
      have rest := writing.rest
      have counted : (left + 31) / 32 = (left - min 32 left + 31) / 32 + 1 := by omega
      have wrote : x.bus.dev.mscWriteCount + x.bus.dev.ioChunkBlocks.toUInt64 +
          UInt64.ofNat (left - min 32 left) = x.bus.dev.mscWriteCount + UInt64.ofNat left :=
        counts_add (writing.chunk ▸ nextChunk_toUInt64 writing.blocksLeft)
          (Nat.min_le_right 32 left)
      by_cases last : left ≤ 32
      · have none_left : left - min 32 left = 0 := by omega
        have drained : x.bus.dev.ioBlocksLeft - x.bus.dev.ioChunkBlocks = 0 :=
          UInt32.toNat.inj (rest.trans none_left)
        have all : len.toNat = x.toSend.length := by omega
        rw [afterChunk_last drained] at completed
        rw [all, List.take_length] at completed cardAfter
        rw [all, List.take_length, List.drop_length] at taken
        rw [none_left] at counted wrote
        refine ⟨_, by rw [counted, dataCompletions, taken]; rfl, ?_⟩
        rw [completed]
        exact ⟨rfl, rfl, by rw [← tagged]; rfl, cardAfter, rfl,
          by rw [← wrote]; exact (UInt64.add_zero _).symm, rfl, rfl⟩
      · have more : x.bus.dev.ioBlocksLeft - x.bus.dev.ioChunkBlocks ≠ 0 := by
          intro drained
          rw [drained, UInt32.toNat_zero] at rest
          omega
        rw [afterChunk_more more] at completed
        have next_lba := writing.next_lba addresses (by omega)
        have further := writing_mscArmWriteChunk
          (s := (x.bus.dev.received .xferBuf (x.toSend.take len.toNat)).chunkWritten)
          next_lba rest
        obtain ⟨y, reached, atCsw⟩ := ih (left - min 32 left) (by omega)
          (x := { bus := completeOut info [] .xferBuf (x.toSend.take len.toNat) .ok x.bus.dev
                  toSend := x.toSend.drop len.toNat
                  received := x.received })
          (completed ▸ further) (by rw [completed]; exact tagged)
          (by rw [List.length_drop, size, whole]; omega) (by omega) (by omega)
        refine ⟨y, by rw [counted, dataCompletions, taken]; exact reached, ?_⟩
        have joined : (card.overlay (512 * lba) (x.toSend.take len.toNat)).overlay
            (512 * (lba + min 32 left)) (x.toSend.drop len.toNat) =
              card.overlay (512 * lba) x.toSend := by
          have place : 512 * (lba + min 32 left) =
              512 * lba + (x.toSend.take len.toNat).length := by
            rw [full, writing.blocksLeft, Nat.mul_add]
          rw [place, Store.overlay_append, List.take_append_drop]
        rw [cardAfter, joined, completed] at atCsw
        rw [← wrote]
        exact atCsw

/-! ### One command -/

/-- The branch the dispatcher takes on the opcode. -/
def IoOp.start : IoOp → MscState → MscState × List Action
  | .read10 => mscContinueRead .ok
  | .write10 _ => mscArmWriteChunk

/-- The class once it has decoded the wrapper of a command. -/
def decoded {info : SdDevInfo} (command : IoCommand info) (s : MscState) : MscState :=
  { s.received .cbw command.packet with
    ioLba := command.lba
    ioBlocksLeft := command.cnt.toUInt32 }

theorem accept_bus {info : SdDevInfo} (command : IoCommand info) {s : MscState}
    (state : s.botState = .idle) :
    (accept info command s).bus = .after [] (command.op.start (decoded command s)) := by
  have length : UInt32.ofNat command.packet.length = cbwLength := by
    rw [command.packet_length]
    rfl
  have counted : command.cnt.toUInt32.toNat = command.cnt.toNat := by simp
  have some_blocks : command.cnt.toUInt32 ≠ 0 := by
    intro none_
    have nonempty := command.nonempty
    rw [← counted, none_] at nonempty
    exact absurd nonempty (by decide)
  have inRange : ¬ command.lba.toNat + command.cnt.toUInt32.toNat > info.blockCount := by
    rw [counted]
    exact Nat.not_lt.mpr command.inRange
  have dispatch : ∀ start, mscDispatchIo info start (s.received .cbw command.packet) =
      start (decoded command s) := by
    intro start
    rw [mscDispatchIo, command.received_cnt, command.received_lba, if_neg some_blocks,
      if_neg inRange, decoded]
  simp only [accept, completeOut, mscDataOut, ne_eq, not_true_eq_false, if_false,
    received_botState, state, length, command.received_signature, and_self, if_true,
    mscCmdDispatch, command.received_opcode]
  cases command.op with
  | read10 => exact congrArg (Bus.after []) (dispatch _)
  | write10 blocks => exact congrArg (Bus.after []) (dispatch _)

theorem flatten_length {size : Nat} {blocks : List (List UInt8)}
    (whole : ∀ block ∈ blocks, block.length = size) :
    blocks.flatten.length = size * blocks.length := by
  rw [List.length_flatten, List.map_congr_left whole]
  simp [Nat.mul_comm]

/-- From the wrapper to the CSW, the class does to the card and shows the host
what the abstract machine does. -/
theorem dataPhase {info : SdDevInfo} (command : IoCommand info) {s : MscState}
    (state : s.botState = .idle) {disk : Disk} {report : Report}
    (exec : Disk.exec command (s.card.blocks blockSize) = (disk, report)) :
    ∃ y card, dataCompletions info report.completions (accept info command s) = some y ∧
      AtCsw command.tag card (s.mscReadCount + report.readCount)
        (s.mscWriteCount + report.writeCount) report.inData y ∧
      report.csw =
        { signature := cswSignature, tag := command.tag, dataResidue := 0, status := 0 } ∧
      card.blocks blockSize = disk := by
  have bus := accept_bus command state
  have nonempty := command.nonempty
  have addresses : command.lba.toNat + command.cnt.toNat ≤ 2 ^ 32 :=
    Nat.le_trans command.inRange info.blockCount_le
  have at_lba : (decoded command s).ioLba.toNat = command.lba.toNat := rfl
  have at_left : (decoded command s).ioBlocksLeft.toNat = command.cnt.toNat :=
    UInt16.toNat_toUInt32 command.cnt
  have tagged : (decoded command s).cbw.tag = command.tag := command.received_tag s
  have counted : UInt64.ofNat command.cnt.toNat = command.cnt.toUInt64 := by simp
  cases op : command.op with
  | read10 =>
      simp only [Disk.exec, op, Prod.mk.injEq] at exec
      rcases exec with ⟨rfl, rfl⟩
      simp only [op, IoOp.start] at bus
      have nothing : (accept info command s).toSend = [] := by
        simp [accept, IoCommand.payload, op, IoOp.blocks]
      have tag_kept : (accept info command s).bus.dev.cbw.tag = command.tag := by
        rw [bus]
        exact tagged
      have reading := reading_mscContinueRead at_lba at_left addresses
      obtain ⟨y, reached, atCsw⟩ := readPhase info (command.cnt.toNat - min 32 command.cnt.toNat)
        (x := accept info command s) (bus ▸ reading) tag_kept
        nothing (by omega)
      have chunks : (command.cnt.toNat - min 32 command.cnt.toNat + 31) / 32 + 1 =
          (command.cnt.toNat + 31) / 32 := by omega
      have whole : min 32 command.cnt.toNat + (command.cnt.toNat - min 32 command.cnt.toNat) =
          command.cnt.toNat := by omega
      have readAll : (accept info command s).bus.dev.mscReadCount +
          UInt64.ofNat (command.cnt.toNat - min 32 command.cnt.toNat) =
            s.mscReadCount + command.cnt.toUInt64 := by
        rw [bus, ← counted]
        exact counts_add (nextChunk_toUInt64 at_left) (Nat.min_le_right 32 command.cnt.toNat)
      rw [chunks] at reached
      rw [readAll, whole, bus] at atCsw
      refine ⟨y, s.card, reached, ?_, rfl, rfl⟩
      rw [Store.flatten_window_blocks, UInt64.add_zero]
      exact atCsw
  | write10 blocks =>
      simp only [Disk.exec, op, Prod.mk.injEq] at exec
      rcases exec with ⟨rfl, rfl⟩
      simp only [op, IoOp.start] at bus
      have tag_kept : (accept info command s).bus.dev.cbw.tag = command.tag := by
        rw [bus]
        exact tagged
      have writing := writing_mscArmWriteChunk at_lba at_left
      have carries := command.carries
      rw [op] at carries
      rcases carries with ⟨many, whole⟩
      have payload : (accept info command s).toSend = blocks.flatten := by
        simp [accept, IoCommand.payload, op, IoOp.blocks]
      obtain ⟨y, reached, atCsw⟩ := writePhase info command.cnt.toNat
        (x := accept info command s) (bus ▸ writing) tag_kept
        (by rw [payload, flatten_length whole, many, blockSize]) (by omega) addresses
      rw [bus, counted, payload] at atCsw
      refine ⟨y, _, reached, ?_, rfl, Store.blocks_overlay s.card _ blocks whole⟩
      rw [UInt64.add_zero]
      exact atCsw

theorem serve_spec {info : SdDevInfo} (command : IoCommand info) {bus : Bus} (idle : Idle bus) :
    ∃ next,
      DeviceStep info bus
        (command, (Disk.exec command (bus.dev.card.blocks blockSize)).2) next ∧
      Idle next ∧
      next.dev.card.blocks blockSize =
        (Disk.exec command (bus.dev.card.blocks blockSize)).1 := by
  rcases idle with ⟨state, waiting⟩
  generalize exec : Disk.exec command (bus.dev.card.blocks blockSize) = outcome
  rcases outcome with ⟨disk, report⟩
  obtain ⟨y, card, reached, atCsw, csw, same⟩ := dataPhase command state exec
  have rearmed := completeIn_csw [] .ok atCsw.state
  have seen : collectCsw bus.dev report.completions y =
      some (completeIn [] .ok y.bus.dev, report) := by
    simp only [collectCsw, atCsw.armed, atCsw.sentAll, atCsw.received_eq, atCsw.csw,
      atCsw.readCount_eq, atCsw.writeCount_eq, and_self, if_true, ← csw]
    rw [UInt64.add_comm, UInt64.add_sub_cancel, UInt64.add_comm, UInt64.add_sub_cancel]
  refine ⟨completeIn [] .ok y.bus.dev, ?_, ?_, ?_⟩
  · simp [DeviceStep, serve, waiting, reached, seen]
  · rw [rearmed]
    exact ⟨rfl, rfl⟩
  · have kept : (completeIn [] .ok y.bus.dev).dev.card = card := by
      rw [rearmed]
      exact atCsw.sameCard
    rw [kept, same]

/-! ### Sessions -/

theorem idle_mscInit (s : MscState) : Idle (.after [] (mscInit s)) := ⟨rfl, rfl⟩

theorem card_mscInit (s : MscState) : (Bus.after [] (mscInit s)).dev.card = s.card := rfl

theorem session_exists {info : SdDevInfo} (commands : List (IoCommand info)) :
    ∀ {bus : Bus}, Idle bus →
      ∃ finish, Run (DeviceStep info) bus
        (Disk.session (bus.dev.card.blocks blockSize) commands) finish := by
  induction commands with
  | nil =>
      intro bus _
      exact ⟨bus, .nil bus⟩
  | cons command commands ih =>
      intro bus idle
      obtain ⟨next, served, nextIdle, stored⟩ := serve_spec command idle
      obtain ⟨finish, rest⟩ := ih nextIdle
      rw [stored] at rest
      exact ⟨finish, .cons served rest⟩

theorem session_unique {info : SdDevInfo} {bus finish : Bus}
    {labels : List (IoCommand info × Report)} (run : Run (DeviceStep info) bus labels finish)
    (idle : Idle bus) :
    labels = Disk.session (bus.dev.card.blocks blockSize) (labels.map Prod.fst) ∧ Idle finish ∧
      finish.dev.card.blocks blockSize =
        Disk.afterSession (bus.dev.card.blocks blockSize) (labels.map Prod.fst) := by
  induction run with
  | nil => exact ⟨rfl, idle, rfl⟩
  | @cons state middle finish label labels first rest ih =>
      obtain ⟨next, served, nextIdle, stored⟩ := serve_spec label.1 idle
      have same := serve_deterministic first served
      simp only [Prod.mk.injEq] at same
      rcases same with ⟨rfl, shown⟩
      obtain ⟨sameLabels, finishIdle, sameDisk⟩ := ih nextIdle
      rw [stored] at sameLabels sameDisk
      rw [List.map_cons, Disk.session, Disk.afterSession, ← sameLabels, ← shown]
      exact ⟨rfl, finishIdle, sameDisk⟩

/-- Whatever the statics and the card hold when the class starts, every session
of block commands can be run, in one way only, and it shows the host and leaves
on the card what the array of blocks shows and holds. -/
theorem session_refines_disk (info : SdDevInfo) (s : MscState)
    (commands : List (IoCommand info)) :
    (∃ finish, Run (DeviceStep info) (.after [] (mscInit s))
      (Disk.session (s.card.blocks blockSize) commands) finish) ∧
    ∀ labels finish, Run (DeviceStep info) (.after [] (mscInit s)) labels finish →
      labels.map Prod.fst = commands →
        labels = Disk.session (s.card.blocks blockSize) commands ∧ Idle finish ∧
          finish.dev.card.blocks blockSize =
            Disk.afterSession (s.card.blocks blockSize) commands := by
  rw [← card_mscInit s]
  refine ⟨session_exists commands (idle_mscInit s), ?_⟩
  intro labels finish run sent
  subst sent
  exact session_unique run (idle_mscInit s)

/-- A block command on the first block of the smallest card. -/
def firstBlock (op : IoOp) (flags : UInt8) (direction : flags &&& 0x80 = op.direction)
    (carries : op.Carries 1) : IoCommand .smallest where
  op := op
  tag := 1
  lba := 0
  cnt := 1
  flags := flags
  lun := 0
  cbLength := 10
  cdb1 := 0
  cdb6 := 0
  cdbTail := List.replicate 7 0
  cdbTail_length := rfl
  nonempty := by decide
  inRange := by decide
  direction := direction
  carries := carries

/-- Writing the first block and reading it back. -/
theorem session_refines_disk_writeThenRead :
    ∃ write read labels finish,
      Run (DeviceStep .smallest) (.after [] (mscInit (.boot fun _ => 0))) labels finish ∧
        labels.map Prod.fst = [write, read] ∧
        write.op = .write10 [List.replicate blockSize 0xAB] ∧ read.op = .read10 ∧
        labels.map (fun label => label.2.inData) = [[], List.replicate blockSize 0xAB] ∧
        Idle finish := by
  let write := firstBlock (.write10 [List.replicate blockSize 0xAB]) 0 rfl ⟨rfl, by simp⟩
  let read := firstBlock .read10 0x80 rfl trivial
  obtain ⟨⟨finish, run⟩, only⟩ :=
    session_refines_disk .smallest (.boot fun _ => 0) [write, read]
  obtain ⟨_, idle, _⟩ := only _ finish run rfl
  have seen : (Disk.session (Store.blocks blockSize (MscState.boot fun _ => 0).card)
      [write, read]).map (fun label => label.2.inData) =
        [[], List.replicate blockSize 0xAB] := by
    simp [Disk.session, Disk.exec, write, read, firstBlock, Store.window, Store.overlay]
  exact ⟨write, read, _, finish, run, rfl, rfl, rfl, seen, idle⟩

end Mp257Fsbl.Usb.Msc
