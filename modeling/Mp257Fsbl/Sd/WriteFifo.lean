/-
Module: Mp257Fsbl.Sd.WriteFifo
Purpose: The polled block write: which words it feeds to the FIFO, when, and
  what its zero return stands for.
Trusted boundary: human-reviewed model of stm32_sdmmc2_write; status words, the
  clock and the result of CMD12 are inputs
Main exports: Sample, Feed, fillFifo, writePass, stm32Sdmmc2Write, FedInOrder,
  stm32Sdmmc2Write_fedInOrder
-/
import Mathlib.Algebra.Order.Ring.Nat
import Mathlib.Data.List.Infix

namespace Mp257Fsbl.Sd

/-! ### The loop -/

def sdmmcStarDcrcfail : UInt32 := 0x0002
def sdmmcStarDtimeout : UInt32 := 0x0008
def sdmmcStarTxunderr : UInt32 := 0x0010
def sdmmcStarDataend : UInt32 := 0x0100
def sdmmcStarDpsmact : UInt32 := 0x1000
def sdmmcStarTxfifohe : UInt32 := 0x4000

def sdmmcFifoSize : Nat := 1024

def eio : Int := 5
def etimedout : Int := 110

def errorFlags : UInt32 := sdmmcStarTxunderr ||| sdmmcStarDcrcfail ||| sdmmcStarDtimeout
def writeFlags : UInt32 := errorFlags ||| sdmmcStarDataend

/-- What one pass reads: `SDMMC_STAR`, and `timeout_elapsed`. -/
structure Sample where
  status : UInt32
  elapsed : Bool
deriving Repr, DecidableEq

/-- The accesses of the loop to the controller. -/
inductive FeedEvent where
  | status (sample : Sample)
  | push (word : UInt32)
deriving Repr, DecidableEq

/-- `buffer`, as the words from it to the end of the caller's buffer, with
`remaining` and the accesses made so far. -/
structure Feed where
  buffer : List UInt32
  remaining : UInt64
  events : List FeedEvent
deriving Repr, DecidableEq

/-- The inner loop with so many rounds left; `none` is a read behind the end of
the buffer. -/
def fillFifo : Nat → Feed → Option Feed
  | 0, feed => some feed
  | rounds + 1, feed =>
      if feed.remaining = 0 then some feed
      else
        match feed.buffer with
        | [] => none
        | word :: buffer =>
            fillFifo rounds
              { buffer
                remaining := feed.remaining - 4
                events := feed.events ++ [.push word] }

/-- What a pass feeds behind its two error exits. -/
def fillPass (sample : Sample) (feed : Feed) : Option Feed :=
  if feed.remaining ≠ 0 ∧ sample.status &&& sdmmcStarTxfifohe ≠ 0 then
    -- half-empty: room for SDMMC_FIFO_SIZE / 2 bytes
    fillFifo (sdmmcFifoSize / 2 / 4) feed
  else some feed

/-- One pass of the outer loop: go on polling (`none`), or return a code. `stop`
is what `stm32_sdmmc2_stop_transfer` returns where it is called. -/
def writePass (stop : Int) (sample : Sample) (feed : Feed) : Option (Option Int × Feed) :=
  let feed := { feed with events := feed.events ++ [.status sample] }
  if sample.status &&& errorFlags ≠ 0 then some (some (if stop ≠ 0 then stop else -eio), feed)
  else if sample.elapsed then some (some (if stop ≠ 0 then stop else -etimedout), feed)
  else
    (fillPass sample feed).map fun feed =>
      if sample.status &&& writeFlags = 0 then (none, feed)
      else if sample.status &&& sdmmcStarDpsmact ≠ 0 then (some stop, feed)
      else (some 0, feed)

/-- The outer loop on the samples it has got so far. -/
def writeLoop (stop : Int) : List Sample → Feed → Option (Option Int × Feed)
  | [], feed => some (none, feed)
  | sample :: samples, feed =>
      (writePass stop sample feed).bind fun
        | (none, feed) => writeLoop stop samples feed
        | (some code, feed) => some (some code, feed)

def stm32Sdmmc2Write (stop : Int) (samples : List Sample) (buffer : List UInt32)
    (size : UInt64) : Option (Option Int × Feed) :=
  writeLoop stop samples { buffer, remaining := size, events := [] }

/-! ### What the controller sees -/

def pushedWords : List FeedEvent → List UInt32
  | [] => []
  | .status _ :: events => pushedWords events
  | .push word :: events => word :: pushedWords events

@[simp] theorem pushedWords_append (first second : List FeedEvent) :
    pushedWords (first ++ second) = pushedWords first ++ pushedWords second := by
  induction first with
  | nil => rfl
  | cons event events ih =>
      cases event with
      | status sample => exact ih
      | push word => exact congrArg (word :: ·) ih

@[simp] theorem pushedWords_push (words : List UInt32) :
    pushedWords (words.map .push) = words := by
  induction words with
  | nil => rfl
  | cons word words ih => exact congrArg (word :: ·) ih

/-- A status read and the words pushed before the next one. -/
def batchEvents (batch : Sample × List UInt32) : List FeedEvent :=
  .status batch.1 :: batch.2.map .push

/-- A batch fits in half the FIFO, and is pushed only at a status that says so
and reports no error. -/
def BatchAllowed (batch : Sample × List UInt32) : Prop :=
  batch.2.length ≤ sdmmcFifoSize / 8 ∧
    (batch.2 ≠ [] →
      batch.1.status &&& sdmmcStarTxfifohe ≠ 0 ∧ batch.1.status &&& errorFlags = 0)

/-- The last status read ends the data without an error, and where it asks for a
stop, the stop succeeded. -/
def EndedWell (stop : Int) (batches : List (Sample × List UInt32)) : Prop :=
  ∃ last, batches.getLast? = some last ∧ last.1.status &&& sdmmcStarDataend ≠ 0 ∧
    last.1.status &&& errorFlags = 0 ∧ (last.1.status &&& sdmmcStarDpsmact ≠ 0 → stop = 0)

/-! ### The loop keeps count -/

/-- `remaining` is the size of what is left of the buffer. -/
def Feed.Counted (feed : Feed) : Prop := feed.remaining.toNat = 4 * feed.buffer.length

theorem Feed.Counted.step {word : UInt32} {buffer : List UInt32} {remaining : UInt64}
    {events : List FeedEvent} (counted : Feed.Counted ⟨word :: buffer, remaining, events⟩)
    (later : List FeedEvent) : Feed.Counted ⟨buffer, remaining - 4, later⟩ := by
  have whole : remaining.toNat = 4 * (buffer.length + 1) := counted
  have four : (4 : UInt64) ≤ remaining := by
    apply UInt64.le_iff_toNat_le.mpr
    rw [whole]
    simp
  have less : (remaining - 4).toNat = 4 * buffer.length := by
    rw [UInt64.toNat_sub_of_le _ _ four, whole]
    simp
    omega
  exact less

/-- The inner loop pushes the next words, as many as it has rounds or as are
left, and reads nothing behind the buffer. -/
theorem fillFifo_spec (rounds : Nat) {feed : Feed} (counted : feed.Counted) :
    ∃ words after, feed.buffer = words ++ after.buffer ∧ words.length ≤ rounds ∧
      fillFifo rounds feed = some after ∧ after.events = feed.events ++ words.map .push ∧
      after.Counted := by
  induction rounds generalizing feed with
  | zero => exact ⟨[], feed, rfl, Nat.le_refl 0, rfl, by simp, counted⟩
  | succ rounds ih =>
      rw [fillFifo]
      by_cases finished : feed.remaining = 0
      · exact ⟨[], feed, rfl, Nat.zero_le _, if_pos finished, by simp, counted⟩
      · obtain ⟨buffer, remaining, events⟩ := feed
        cases buffer with
        | nil =>
            have zero : remaining.toNat = 0 := counted
            exact absurd (UInt64.toNat_inj.mp zero) finished
        | cons word buffer =>
            obtain ⟨words, after, split, few, filled, pushed, counted⟩ :=
              ih (counted.step (events ++ [.push word]))
            refine ⟨word :: words, after, ?_, ?_, ?_, ?_, counted⟩
            · exact congrArg (word :: ·) split
            · exact Nat.succ_le_succ few
            · exact (if_neg finished).trans filled
            · rw [pushed]
              simp

/-- What the error exits return is never zero. -/
theorem stop_or_error_ne_zero (stop : Int) {error : Int} (nonzero : error ≠ 0) :
    (if stop ≠ 0 then stop else -error) ≠ 0 := by
  split
  · assumption
  · omega

/-- A batch without words is allowed at any status. -/
theorem batchAllowed_nil (sample : Sample) : BatchAllowed (sample, []) :=
  ⟨Nat.zero_le _, fun some_word => absurd rfl some_word⟩

/-- A pass behind its error exits pushes an allowed batch. -/
theorem fillPass_spec (sample : Sample) {feed : Feed} (counted : feed.Counted)
    (clean : sample.status &&& errorFlags = 0) :
    ∃ words after, feed.buffer = words ++ after.buffer ∧ BatchAllowed (sample, words) ∧
      fillPass sample feed = some after ∧ after.events = feed.events ++ words.map .push ∧
        after.Counted := by
  by_cases fills : feed.remaining ≠ 0 ∧ sample.status &&& sdmmcStarTxfifohe ≠ 0
  · obtain ⟨words, after, split, few, filled, pushed, counted⟩ :=
      fillFifo_spec (sdmmcFifoSize / 2 / 4) counted
    exact ⟨words, after, split, ⟨few, fun _ => ⟨fills.2, clean⟩⟩, (if_pos fills).trans filled,
      pushed, counted⟩
  · exact ⟨[], feed, rfl, batchAllowed_nil sample, if_neg fills, by simp, counted⟩

/-- Without an error, the loop ends only at the end of the data. -/
theorem dataend_of_flags {status : UInt32} (clean : status &&& errorFlags = 0)
    (ends : status &&& writeFlags ≠ 0) : status &&& sdmmcStarDataend ≠ 0 := by
  intro none_
  apply ends
  have split : status &&& writeFlags = status &&& errorFlags ||| status &&& sdmmcStarDataend := by
    apply UInt32.toBitVec_inj.mp
    ext bit inside
    simp only [writeFlags, UInt32.toBitVec_and, UInt32.toBitVec_or, BitVec.getElem_and,
      BitVec.getElem_or, Bool.and_or_distrib_left]
  rw [split, clean, none_]
  rfl

/-- One pass reads a status and pushes an allowed batch of the next words. -/
theorem writePass_spec (stop : Int) (sample : Sample) {feed : Feed} (counted : feed.Counted) :
    ∃ words code after, writePass stop sample feed = some (code, after) ∧
      feed.buffer = words ++ after.buffer ∧
      after.events = feed.events ++ batchEvents (sample, words) ∧ after.Counted ∧
      BatchAllowed (sample, words) ∧ (code = some 0 → EndedWell stop [(sample, words)]) := by
  have read : Feed.Counted { feed with events := feed.events ++ [.status sample] } := counted
  rw [writePass]
  by_cases failed : sample.status &&& errorFlags ≠ 0
  · refine ⟨[], _, _, if_pos failed, rfl, rfl, read, batchAllowed_nil sample, ?_⟩
    intro zero
    exact absurd (Option.some.inj zero) (stop_or_error_ne_zero stop (by decide))
  · have clean : sample.status &&& errorFlags = 0 := Decidable.not_not.mp failed
    rw [if_neg failed]
    by_cases late : sample.elapsed = true
    · refine ⟨[], _, _, if_pos late, rfl, rfl, read, batchAllowed_nil sample, ?_⟩
      intro zero
      exact absurd (Option.some.inj zero) (stop_or_error_ne_zero stop (by decide))
    · obtain ⟨words, after, split, allowed, filled, pushed, counted⟩ :=
        fillPass_spec sample read clean
      have events : after.events = feed.events ++ batchEvents (sample, words) := by
        rw [pushed, batchEvents, List.append_assoc]
        rfl
      rw [if_neg late, filled, Option.map_some]
      by_cases more : sample.status &&& writeFlags = 0
      · refine ⟨words, none, after, congrArg some (if_pos more), split, events, counted, allowed,
          ?_⟩
        intro zero
        cases zero
      · have ended := dataend_of_flags clean more
        rw [if_neg more]
        by_cases active : sample.status &&& sdmmcStarDpsmact ≠ 0
        · refine ⟨words, some stop, after, congrArg some (if_pos active), split, events, counted,
            allowed, ?_⟩
          intro zero
          exact ⟨_, rfl, ended, clean, fun _ => Option.some.inj zero⟩
        · refine ⟨words, some 0, after, congrArg some (if_neg active), split, events, counted,
            allowed, ?_⟩
          intro zero
          exact ⟨_, rfl, ended, clean, fun stops => absurd stops active⟩

theorem writeLoop_spec (stop : Int) (samples : List Sample) {feed : Feed}
    (counted : feed.Counted) :
    ∃ batches code after, writeLoop stop samples feed = some (code, after) ∧
      feed.buffer = batches.flatMap Prod.snd ++ after.buffer ∧
      after.events = feed.events ++ batches.flatMap batchEvents ∧
      (∀ batch ∈ batches, BatchAllowed batch) ∧ (code = some 0 → EndedWell stop batches) := by
  induction samples generalizing feed with
  | nil =>
      refine ⟨[], none, feed, rfl, rfl, by simp, by simp, ?_⟩
      intro zero
      cases zero
  | cons sample samples ih =>
      obtain ⟨words, code, after, passed, split, events, counted, allowed, ended⟩ :=
        writePass_spec stop sample counted
      rw [writeLoop, passed, Option.bind_some]
      cases code with
      | some code =>
          refine ⟨[(sample, words)], some code, after, rfl, ?_, ?_, ?_, ended⟩
          · simpa using split
          · simpa using events
          · simpa using allowed
      | none =>
          obtain ⟨batches, code, finish, looped, split', events', allowed', ended'⟩ := ih counted
          refine ⟨(sample, words) :: batches, code, finish, looped, ?_, ?_, ?_, ?_⟩
          · rw [split, split', List.flatMap_cons, List.append_assoc]
          · rw [events', events, List.flatMap_cons, List.append_assoc]
          · exact List.forall_mem_cons.mpr ⟨allowed, allowed'⟩
          · intro zero
            obtain ⟨last, found, well⟩ := ended' zero
            refine ⟨last, ?_, well⟩
            rw [List.getLast?_cons, found]
            rfl

/-! ### What a write feeds -/

/-- The controller ends the data only once it has received all the bytes
programmed in `DLEN`. -/
def DataendTruthful (dlen : Nat) (events : List FeedEvent) : Prop :=
  ∀ before sample, before ++ [.status sample] <+: events →
    sample.status &&& sdmmcStarDataend ≠ 0 → 4 * (pushedWords before).length = dlen

/-- What is asked of a write of this buffer that has got so far, whether it
returned a code or still polls. -/
structure FedInOrder (buffer : List UInt32) (stop : Int) (code : Option Int)
    (events : List FeedEvent) : Prop where
  /-- At every moment a prefix of the buffer has been pushed. -/
  inOrder : ∀ moment, moment <+: events → pushedWords moment <+: buffer
  /-- Words are pushed in allowed batches, and a zero return ends the last well. -/
  batched : ∃ batches, events = batches.flatMap batchEvents ∧
    (∀ batch ∈ batches, BatchAllowed batch) ∧ (code = some 0 → EndedWell stop batches)
  /-- Where the controller tells the truth, a zero return means every word. -/
  complete : code = some 0 → DataendTruthful (4 * buffer.length) events →
    pushedWords events = buffer

theorem pushedWords_batches (batches : List (Sample × List UInt32)) :
    pushedWords (batches.flatMap batchEvents) = batches.flatMap Prod.snd := by
  induction batches with
  | nil => rfl
  | cons batch batches ih =>
      rw [List.flatMap_cons, List.flatMap_cons, pushedWords_append, ih]
      simp [batchEvents, pushedWords]

/-- Where the last status ends the data, nothing is missing at it. -/
theorem length_of_endedWell {stop : Int} {batches : List (Sample × List UInt32)} {dlen : Nat}
    (well : EndedWell stop batches)
    (truthful : DataendTruthful dlen (batches.flatMap batchEvents)) :
    dlen ≤ 4 * (pushedWords (batches.flatMap batchEvents)).length := by
  obtain ⟨last, found, ended, -, -⟩ := well
  obtain ⟨earlier, rfl⟩ := List.getLast?_eq_some_iff.mp found
  have whole : (earlier ++ [last]).flatMap batchEvents =
      earlier.flatMap batchEvents ++ [.status last.1] ++ last.2.map .push := by
    simp [batchEvents]
  have received := truthful (earlier.flatMap batchEvents) last.1
    (whole ▸ List.prefix_append _ _) ended
  rw [whole, pushedWords_append, pushedWords_append, List.length_append, List.length_append]
  omega

/-- For every buffer, every sequence of status words and every result of the
stop, the write never reads behind the buffer, feeds the FIFO the buffer's words
in order and in allowed batches, and returns zero only where the data ended well. -/
theorem stm32Sdmmc2Write_fedInOrder (stop : Int) (samples : List Sample) (buffer : List UInt32)
    (size : UInt64) (whole : size.toNat = 4 * buffer.length) :
    ∃ code feed, stm32Sdmmc2Write stop samples buffer size = some (code, feed) ∧
      FedInOrder buffer stop code feed.events := by
  have counted : Feed.Counted { buffer, remaining := size, events := [] } := whole
  obtain ⟨batches, code, feed, looped, split, events, allowed, ended⟩ :=
    writeLoop_spec stop samples counted
  have split : buffer = batches.flatMap Prod.snd ++ feed.buffer := split
  have events : feed.events = batches.flatMap batchEvents := events
  have fed : pushedWords feed.events <+: buffer := by
    rw [events, pushedWords_batches, split]
    exact List.prefix_append _ _
  refine ⟨code, feed, looped, ?_, ⟨batches, events, allowed, ended⟩, ?_⟩
  · rintro moment ⟨later, cut⟩
    apply List.IsPrefix.trans _ fed
    rw [← cut, pushedWords_append]
    exact List.prefix_append _ _
  · intro zero truthful
    rw [events] at truthful
    have enough := length_of_endedWell (ended zero) truthful
    rw [← events] at enough
    exact fed.eq_of_length_le (by omega)

/-- Two words, the second status ending the data. -/
theorem stm32Sdmmc2Write_two_words :
    ∃ code feed, stm32Sdmmc2Write 0 [⟨0x4000, false⟩, ⟨0x0100, false⟩] [0xAA, 0xBB] 8 =
        some (code, feed) ∧ FedInOrder [0xAA, 0xBB] 0 code feed.events :=
  stm32Sdmmc2Write_fedInOrder 0 [⟨0x4000, false⟩, ⟨0x0100, false⟩] [0xAA, 0xBB] 8 rfl

end Mp257Fsbl.Sd
