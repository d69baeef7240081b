/-
Module: Mp257Fsbl.Sd.ReadFifo
Purpose: The polled block read: which words it takes from the FIFO, where they
  go, and when a zero return means that all of them were taken.
Trusted boundary: human-reviewed model of stm32_sdmmc2_read without DMA; status
  words, the data counter, the clock and the result of CMD12 are inputs
Main exports: DrainSample, Drain, readPass, stm32Sdmmc2Read, Drain.Copies,
  HonestFifo, CaughtUp, stm32Sdmmc2Read_delivers_iff
-/
import Mp257Fsbl.Foundation.Store
import Mp257Fsbl.Sd.WriteFifo

namespace Mp257Fsbl.Sd

open Mp257Fsbl.Foundation

/-! ### The loop -/

def sdmmcStarRxoverr : UInt32 := 0x0020
def sdmmcStarDbckend : UInt32 := 0x0400
def sdmmcStarRxfifohf : UInt32 := 0x8000
def sdmmcStarRxfifoe : UInt32 := 0x80000

def readErrorFlags : UInt32 := sdmmcStarRxoverr ||| sdmmcStarDcrcfail ||| sdmmcStarDtimeout

/-- The `flags` that end the loop: a single block also ends at its own end. -/
def readFlags (size : UInt64) : UInt32 :=
  if size ≤ 512 then readErrorFlags ||| sdmmcStarDataend ||| sdmmcStarDbckend
  else readErrorFlags ||| sdmmcStarDataend

/-- What one pass reads: the status, the clock and `SDMMC_DCNTR`. -/
structure DrainSample extends Sample where
  dcntr : UInt32
  /-- The words that have come in from the card by then. The code does not see
  this number. -/
  arrived : Nat
deriving Repr, DecidableEq

inductive DrainEvent where
  | status (sample : DrainSample)
  | pop
deriving Repr, DecidableEq

/-- The memory from `buf` on by words, how many of them `buffer` has passed, and
the accesses to the controller so far. -/
structure Drain where
  memory : Store UInt32
  popped : Nat
  events : List DrainEvent

/-- `*buffer = mmio_read_32(fifo_reg); buffer++`, where the FIFO gives the words
of `fifo` one after the other. -/
def popFifo (fifo : Store UInt32) (drain : Drain) : Drain where
  memory := drain.memory.overlay drain.popped [fifo drain.popped]
  popped := drain.popped + 1
  events := drain.events ++ [.pop]

/-- The inner loop with so many rounds left. -/
def popBurst (fifo : Store UInt32) : Nat → Drain → Drain
  | 0, drain => drain
  | rounds + 1, drain => popBurst fifo rounds (popFifo fifo drain)

/-- How many words a pass behind its error exits takes. -/
def poppedBy (size : UInt64) (sample : DrainSample) : Nat :=
  if size.toNat < sdmmcFifoSize / 2 then
    if sample.dcntr > 0 ∧ sample.status &&& sdmmcStarRxfifoe = 0 then 1 else 0
  else if sample.status &&& sdmmcStarRxfifohf ≠ 0 then sdmmcFifoSize / 2 / 4
  else 0

/-- One pass of the outer loop: go on polling (`none`), or return a code. `stop`
is what `stm32_sdmmc2_stop_transfer` returns where it is called. -/
def readPass (stop : Int) (fifo : Store UInt32) (size : UInt64) (sample : DrainSample)
    (drain : Drain) : Option Int × Drain :=
  let drain := { drain with events := drain.events ++ [.status sample] }
  if sample.status &&& readErrorFlags ≠ 0 then (some (if stop ≠ 0 then stop else -eio), drain)
  else if sample.elapsed then (some (if stop ≠ 0 then stop else -etimedout), drain)
  else
    let drain := popBurst fifo (poppedBy size sample) drain
    if sample.status &&& readFlags size = 0 then (none, drain)
    else if sample.status &&& sdmmcStarDpsmact ≠ 0 then (some stop, drain)
    else (some 0, drain)

/-- The outer loop on the samples it has got so far. -/
def readLoop (stop : Int) (fifo : Store UInt32) (size : UInt64) :
    List DrainSample → Drain → Option Int × Drain
  | [], drain => (none, drain)
  | sample :: samples, drain =>
      match readPass stop fifo size sample drain with
      | (none, drain) => readLoop stop fifo size samples drain
      | (some code, drain) => (some code, drain)

def stm32Sdmmc2Read (stop : Int) (samples : List DrainSample) (fifo memory : Store UInt32)
    (size : UInt64) : Option Int × Drain :=
  readLoop stop fifo size samples { memory, popped := 0, events := [] }

/-! ### What a read takes -/

def pops : List DrainEvent → Nat
  | [] => 0
  | .status _ :: events => pops events
  | .pop :: events => pops events + 1

@[simp] theorem pops_append (first second : List DrainEvent) :
    pops (first ++ second) = pops first + pops second := by
  induction first with
  | nil => simp [pops]
  | cons event events ih =>
      cases event with
      | status sample => exact ih
      | pop => simp only [List.cons_append, pops, ih]; omega

@[simp] theorem pops_replicate (n : Nat) : pops (List.replicate n .pop) = n := by
  induction n with
  | zero => rfl
  | succ n ih => simp only [List.replicate_succ, pops, ih]

/-- The first words of the FIFO are in memory, in order, and nothing else has
changed. -/
structure Drain.Copies (fifo before : Store UInt32) (drain : Drain) : Prop where
  memory : drain.memory = before.overlay 0 (fifo.window 0 drain.popped)
  popped : drain.popped = pops drain.events

section Loop

variable {fifo before : Store UInt32} {drain : Drain}

theorem Drain.Copies.pop (copies : drain.Copies fifo before) :
    (popFifo fifo drain).Copies fifo before where
  memory := by
    have split := fifo.window_add 0 drain.popped 1
    have adjacent := before.overlay_append 0 (fifo.window 0 drain.popped)
      (fifo.window (0 + drain.popped) 1)
    have last : fifo.window (0 + drain.popped) 1 = [fifo drain.popped] := by simp [Store.window]
    rw [Store.window_length, Nat.zero_add, ← copies.memory] at adjacent
    rw [Nat.zero_add] at last
    simp only [popFifo]
    rw [split, Nat.zero_add, ← adjacent, last]
  popped := by simp [popFifo, copies.popped, pops]

/-- A burst takes the next words. -/
theorem popBurst_spec (rounds : Nat) (copies : drain.Copies fifo before) :
    (popBurst fifo rounds drain).Copies fifo before ∧
      (popBurst fifo rounds drain).events = drain.events ++ List.replicate rounds .pop := by
  induction rounds generalizing drain with
  | zero => exact ⟨copies, by simp [popBurst]⟩
  | succ rounds ih =>
      obtain ⟨copied, events⟩ := ih copies.pop
      refine ⟨copied, events.trans ?_⟩
      simp [popFifo, List.replicate_succ]

theorem Drain.Copies.read (copies : drain.Copies fifo before) (sample : DrainSample) :
    Drain.Copies fifo before { drain with events := drain.events ++ [.status sample] } where
  memory := copies.memory
  popped := by simp [copies.popped, pops]

/-- A pass that reads the status `sample` takes its words or stops with an error. -/
def PassEvents (size : UInt64) (sample : DrainSample) (taken : List DrainEvent) : Prop :=
  taken = .status sample :: List.replicate (poppedBy size sample) .pop ∨ taken = [.status sample]

/-- A zero return that the code does not get from CMD12 comes behind a status
without an error that ends the loop. -/
def EndsRead (stop : Int) (size : UInt64) (sample : DrainSample) : Prop :=
  sample.status &&& readErrorFlags = 0 ∧ sample.status &&& readFlags size ≠ 0 ∧
    (sample.status &&& sdmmcStarDpsmact ≠ 0 → stop = 0)

theorem readPass_spec (stop : Int) (size : UInt64) (sample : DrainSample)
    (copies : drain.Copies fifo before) :
    ∃ taken, PassEvents size sample taken ∧
      (readPass stop fifo size sample drain).2.Copies fifo before ∧
      (readPass stop fifo size sample drain).2.events = drain.events ++ taken ∧
      ((readPass stop fifo size sample drain).1 = some 0 →
        EndsRead stop size sample ∧
          taken = .status sample :: List.replicate (poppedBy size sample) .pop) := by
  have read := copies.read sample
  obtain ⟨copied, events⟩ := popBurst_spec (poppedBy size sample) read
  have events : (popBurst fifo (poppedBy size sample)
      { drain with events := drain.events ++ [.status sample] }).events =
        drain.events ++ (.status sample :: List.replicate (poppedBy size sample) .pop) := by
    rw [events, List.append_assoc]
    rfl
  unfold readPass
  dsimp only
  split
  · refine ⟨[.status sample], .inr rfl, read, rfl, fun zero => ?_⟩
    exact absurd (Option.some.inj zero) (stop_or_error_ne_zero stop (by decide))
  · rename_i clean
    have clean : sample.status &&& readErrorFlags = 0 := Decidable.not_not.mp clean
    split
    · refine ⟨[.status sample], .inr rfl, read, rfl, fun zero => ?_⟩
      exact absurd (Option.some.inj zero) (stop_or_error_ne_zero stop (by decide))
    · split
      · exact ⟨_, .inl rfl, copied, events, nofun⟩
      · rename_i ends
        split
        · rename_i active
          refine ⟨_, .inl rfl, copied, events, fun zero => ⟨⟨clean, ends, fun _ => ?_⟩, rfl⟩⟩
          exact Option.some.inj zero
        · rename_i idle
          exact ⟨_, .inl rfl, copied, events,
            fun _ => ⟨⟨clean, ends, fun on => absurd on idle⟩, rfl⟩⟩

/-- The loop copies the words it takes, pass by pass, and a zero return comes
behind the last pass. -/
theorem readLoop_spec (stop : Int) (size : UInt64) (samples : List DrainSample)
    (copies : drain.Copies fifo before) :
    ∃ passes : List (DrainSample × List DrainEvent),
      (∀ pass ∈ passes, PassEvents size pass.1 pass.2) ∧
      (readLoop stop fifo size samples drain).2.Copies fifo before ∧
      (readLoop stop fifo size samples drain).2.events =
        drain.events ++ passes.flatMap Prod.snd ∧
      ((readLoop stop fifo size samples drain).1 = some 0 →
        ∃ earlier sample, EndsRead stop size sample ∧
          passes.flatMap Prod.snd =
            earlier ++ .status sample :: List.replicate (poppedBy size sample) .pop) := by
  induction samples generalizing drain with
  | nil => exact ⟨[], nofun, copies, by simp [readLoop], nofun⟩
  | cons sample samples ih =>
      obtain ⟨taken, pass, copied, events, ended⟩ := readPass_spec stop size sample copies
      rw [readLoop]
      cases result : readPass stop fifo size sample drain with
      | mk code after =>
          rw [result] at copied events ended
          cases code with
          | some code =>
              refine ⟨[(sample, taken)], by simpa using pass, copied, by simpa using events, ?_⟩
              intro zero
              obtain ⟨ends, burst⟩ := ended zero
              exact ⟨[], sample, ends, by simpa using burst⟩
          | none =>
              obtain ⟨passes, each, copied, events', ended'⟩ := ih copied
              refine ⟨(sample, taken) :: passes, List.forall_mem_cons.mpr ⟨pass, each⟩, copied,
                ?_, ?_⟩
              · rw [events', events, List.flatMap_cons, List.append_assoc]
              · intro zero
                obtain ⟨earlier, last, ends, split⟩ := ended' zero
                refine ⟨taken ++ earlier, last, ends, ?_⟩
                rw [List.flatMap_cons, split, List.append_assoc]

end Loop

/-! ### An honest FIFO -/

/-- What the controller promises about one status, where so many words of `total`
have been taken before it: nothing is taken or has come in that the card does
not send, the half-full and the empty flag compare what waits, and the end flags
mean that everything has come in. -/
structure HonestStatus (total : Nat) (size : UInt64) (sample : DrainSample) (taken : Nat) :
    Prop where
  waiting : taken ≤ sample.arrived
  sent : sample.arrived ≤ total
  halfFull : sample.status &&& sdmmcStarRxfifohf ≠ 0 ↔ taken + sdmmcFifoSize / 8 ≤ sample.arrived
  empty : sample.status &&& sdmmcStarRxfifoe ≠ 0 ↔ sample.arrived = taken
  ended : sample.status &&& readErrorFlags = 0 → sample.status &&& readFlags size ≠ 0 →
    sample.arrived = total

/-- The controller keeps its promise at every status that the loop reads. -/
def HonestFifo (total : Nat) (size : UInt64) (events : List DrainEvent) : Prop :=
  ∀ earlier sample, earlier ++ [.status sample] <+: events →
    HonestStatus total size sample (pops earlier)

/-- At the last status read, at most half a FIFO waits. -/
def CaughtUp (events : List DrainEvent) : Prop :=
  ∀ earlier sample n, events = earlier ++ .status sample :: List.replicate n .pop →
    sample.arrived ≤ pops earlier + sdmmcFifoSize / 8

/-- A pass takes only words that wait. -/
theorem poppedBy_le {total taken : Nat} {size : UInt64} {sample : DrainSample}
    (honest : HonestStatus total size sample taken) :
    taken + poppedBy size sample ≤ sample.arrived := by
  have waiting := honest.waiting
  have quarter : sdmmcFifoSize / 2 / 4 = sdmmcFifoSize / 8 := by decide
  unfold poppedBy
  split
  · split
    · rename_i pending
      have some_word : sample.arrived ≠ taken := fun none_ => honest.empty.mpr none_ pending.2
      omega
    · exact waiting
  · split
    · rename_i full
      have full := honest.halfFull.mp full
      omega
    · exact waiting

theorem HonestFifo.of_append {total : Nat} {size : UInt64} {first second : List DrainEvent}
    (honest : HonestFifo total size (first ++ second)) : HonestFifo total size first :=
  fun earlier sample cut => honest earlier sample (cut.trans (List.prefix_append _ _))

/-- Pass by pass, no more is taken than the card sends. -/
theorem pops_le {total : Nat} {size : UInt64} (passes : List (DrainSample × List DrainEvent))
    (each : ∀ pass ∈ passes, PassEvents size pass.1 pass.2)
    (honest : HonestFifo total size (passes.flatMap Prod.snd)) :
    pops (passes.flatMap Prod.snd) ≤ total := by
  induction passes using List.reverseRecOn with
  | nil => exact Nat.zero_le _
  | append_singleton passes last ih =>
      have whole : (passes ++ [last]).flatMap Prod.snd = passes.flatMap Prod.snd ++ last.2 := by
        simp
      rw [whole] at honest ⊢
      rcases each last (by simp) with burst | alone
      · have status := honest (passes.flatMap Prod.snd) last.1 (by
          rw [burst]
          exact ⟨List.replicate (poppedBy size last.1) .pop, by simp⟩)
        have few := poppedBy_le status
        have sent := status.sent
        rw [burst, pops_append]
        simp only [pops, pops_replicate]
        omega
      · rw [alone, pops_append]
        exact ih (fun pass member => each pass (by simp [member])) honest.of_append

/-- Where blocks are read, a pass takes a whole burst or nothing. -/
theorem dvd_poppedBy {size : UInt64} (blocks : 512 ≤ size.toNat) (sample : DrainSample) :
    sdmmcFifoSize / 8 ∣ poppedBy size sample := by
  unfold poppedBy
  rw [if_neg (by simp only [sdmmcFifoSize]; omega)]
  split
  · exact Nat.dvd_refl _
  · exact Nat.dvd_zero _

theorem dvd_pops {size : UInt64} (blocks : 512 ≤ size.toNat)
    (passes : List (DrainSample × List DrainEvent))
    (each : ∀ pass ∈ passes, PassEvents size pass.1 pass.2) :
    sdmmcFifoSize / 8 ∣ pops (passes.flatMap Prod.snd) := by
  induction passes with
  | nil => exact Nat.dvd_zero _
  | cons first passes ih =>
      have rest := ih fun pass member => each pass (List.mem_cons_of_mem _ member)
      rw [List.flatMap_cons, pops_append]
      refine Nat.dvd_add ?_ rest
      rcases each first List.mem_cons_self with burst | alone
      · rw [burst]
        simp only [pops, pops_replicate]
        exact dvd_poppedBy blocks first.1
      · rw [alone]
        exact Nat.dvd_zero _

/-- The last status of a trace and what is before it. -/
theorem last_status_unique {earlier earlier' : List DrainEvent} {sample sample' : DrainSample}
    {n n' : Nat}
    (same : earlier ++ .status sample :: List.replicate n .pop =
      earlier' ++ .status sample' :: List.replicate n' .pop) :
    earlier = earlier' ∧ sample = sample' := by
  induction n generalizing n' with
  | zero =>
      cases n' with
      | zero => simpa using List.append_inj' same rfl
      | succ n' =>
          rw [List.replicate_succ', ← List.cons_append, ← List.append_assoc] at same
          exact absurd (List.append_inj' same rfl).2 (by simp)
  | succ n ih =>
      rw [List.replicate_succ', ← List.cons_append, ← List.append_assoc] at same
      cases n' with
      | zero => exact absurd (List.append_inj' same rfl).2 (by simp)
      | succ n' =>
          rw [List.replicate_succ', ← List.cons_append, ← List.append_assoc] at same
          exact ih (List.append_inj' same rfl).1

/-- Whatever the status words, the clock and CMD12 do, a read of blocks leaves in
memory what it took from the FIFO, in order. Where the controller keeps its
promise, that is never more than was asked for; and where the read returns zero
then, it is all of it exactly if the last status was read while at most half a
FIFO was waiting. -/
theorem stm32Sdmmc2Read_delivers_iff (stop : Int) (samples : List DrainSample)
    (fifo memory : Store UInt32) (size : UInt64) (blocks : 512 ∣ size.toNat)
    (some_block : 0 < size.toNat) :
    (stm32Sdmmc2Read stop samples fifo memory size).2.memory =
        memory.overlay 0
          (fifo.window 0 (stm32Sdmmc2Read stop samples fifo memory size).2.popped) ∧
      (HonestFifo (size.toNat / 4) size
          (stm32Sdmmc2Read stop samples fifo memory size).2.events →
        (stm32Sdmmc2Read stop samples fifo memory size).2.popped ≤ size.toNat / 4 ∧
          ((stm32Sdmmc2Read stop samples fifo memory size).1 = some 0 →
            ((stm32Sdmmc2Read stop samples fifo memory size).2.popped = size.toNat / 4 ↔
              CaughtUp (stm32Sdmmc2Read stop samples fifo memory size).2.events))) := by
  have start : Drain.Copies fifo memory { memory, popped := 0, events := [] } :=
    ⟨by simp, rfl⟩
  obtain ⟨passes, each, copied, events, ended⟩ := readLoop_spec stop size samples start
  rw [List.nil_append] at events
  rw [stm32Sdmmc2Read, events]
  have large : 512 ≤ size.toNat := Nat.le_of_dvd some_block blocks
  refine ⟨copied.memory, fun honest => ⟨?_, ?_⟩⟩
  · rw [copied.popped, events]
    exact pops_le passes each honest
  · intro zero
    obtain ⟨earlier, sample, ends, split⟩ := ended zero
    have whole := dvd_pops large passes each
    rw [copied.popped, events, split]
    rw [split] at honest whole
    have status := honest earlier sample
      ⟨List.replicate (poppedBy size sample) .pop, by simp⟩
    have all := status.ended ends.1 ends.2.1
    have caughtUp : CaughtUp (earlier ++ .status sample ::
        List.replicate (poppedBy size sample) .pop) ↔
          sample.arrived ≤ pops earlier + sdmmcFifoSize / 8 := by
      constructor
      · intro caughtUp
        exact caughtUp earlier sample _ rfl
      · intro few earlier' sample' n same
        obtain ⟨rfl, rfl⟩ := last_status_unique same
        exact few
    have burst := dvd_poppedBy large sample
    have few := poppedBy_le status
    have halfFull := status.halfFull
    rw [caughtUp, all, pops_append]
    rw [pops_append] at whole
    simp only [pops, pops_replicate] at whole ⊢
    -- What is taken and what is asked for are whole numbers of bursts.
    have before := (Nat.dvd_add_left burst).mp whole
    have taken : poppedBy size sample =
        if sample.status &&& sdmmcStarRxfifohf ≠ 0 then sdmmcFifoSize / 8 else 0 := by
      unfold poppedBy
      rw [if_neg (by simp only [sdmmcFifoSize]; omega)]
      rfl
    rw [all] at halfFull few
    rw [taken] at few ⊢
    simp only [sdmmcFifoSize] at before few halfFull ⊢
    split
    · rename_i full
      rw [if_pos full] at few
      have full := halfFull.mp full
      omega
    · rename_i empty
      have less : ¬ pops earlier + 1024 / 8 ≤ size.toNat / 4 := mt halfFull.mpr empty
      omega

/-- Two blocks that have both come in when the end of the data is read: the read
returns zero behind the first. -/
theorem stm32Sdmmc2Read_delivers_iff_twoWaiting :
    let run :=
      stm32Sdmmc2Read 0 [⟨⟨0x8100, false⟩, 0, 256⟩] (fun k => UInt32.ofNat k) (fun _ => 0) 1024
    run.1 = some 0 ∧ run.2.popped ≠ 256 := by
  intro run
  have read : Drain.Copies (fun k => UInt32.ofNat k) (fun _ => 0)
      ⟨fun _ => 0, 0, [.status ⟨⟨0x8100, false⟩, 0, 256⟩]⟩ := ⟨by simp, rfl⟩
  have ran : run.2.events = .status ⟨⟨0x8100, false⟩, 0, 256⟩ :: List.replicate 128 .pop :=
    (popBurst_spec 128 read).2
  have honest : HonestFifo 256 1024 run.2.events := by
    intro earlier sample ⟨later, cut⟩
    rw [ran] at cut
    cases earlier with
    | nil =>
        obtain ⟨rfl⟩ : sample = _ := by simpa using (List.cons.inj cut).1
        constructor <;> decide
    | cons event earlier =>
        have tail := (List.cons.inj cut).2
        have member : DrainEvent.status sample ∈ List.replicate 128 DrainEvent.pop := by
          rw [← tail]
          simp
        exact absurd (List.eq_of_mem_replicate member) nofun
  have spec := stm32Sdmmc2Read_delivers_iff 0 [⟨⟨0x8100, false⟩, 0, 256⟩]
    (fun k => UInt32.ofNat k) (fun _ => 0) 1024 (by decide) (by decide)
  refine ⟨rfl, fun all => ?_⟩
  have few := ((spec.2 honest).2 rfl).mp all [] _ 128 ran
  exact absurd few (by decide)

end Mp257Fsbl.Sd
