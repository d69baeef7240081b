/-
Module: Mp257Fsbl.Boot.Chunks
Purpose: load_region chunk by chunk: what it copies where its addresses do not
  wrap, and an address that it never reaches where they do.
Trusted boundary: none
Main exports: lastChunk, Unwrapped, AtChunk, ReadsSucceed, copied,
  loadRegion_whole, loadRegion_stops, loadRegion_none, loadRegion_unreached,
  loadRegion_wrapped
-/
import Mp257Fsbl.Boot.Load

namespace Mp257Fsbl.Boot

open Mp257Fsbl.Foundation
open Mp257Fsbl.Sd

/-- The first block of the last chunk. -/
def lastChunk (n : UInt32) : Nat := (n.toNat - 1) / 2048 * 2048

/-- Neither the address nor the block number of a chunk wraps. -/
structure Unwrapped (n lba dest : UInt32) : Prop where
  dest : dest.toNat + 512 * lastChunk n < 2 ^ 32
  lba : lba.toNat + lastChunk n < 2 ^ 32

instance (n lba dest : UInt32) : Decidable (Unwrapped n lba dest) :=
  decidable_of_iff
    (dest.toNat + 512 * lastChunk n < 2 ^ 32 ∧ lba.toNat + lastChunk n < 2 ^ 32)
    ⟨fun both => ⟨both.1, both.2⟩, fun unwrapped => ⟨unwrapped.dest, unwrapped.lba⟩⟩

/-- `done` at the head of the loop: whole chunks, or everything. -/
structure AtChunk (n done : UInt32) : Prop where
  le : done.toNat ≤ n.toNat
  whole : done.toNat % 2048 = 0 ∨ done = n

/-! ### Words -/

section Words

variable {n lba dest done : UInt32}

theorem sub_done_toNat (le : done.toNat ≤ n.toNat) : (n - done).toNat = n.toNat - done.toNat :=
  UInt32.toNat_sub_of_le _ _ (UInt32.le_iff_toNat_le.mpr le)

theorem loadChunk_size_toNat (left : UInt32) :
    (loadChunk left * sdBlockSize).toNat = 512 * min 2048 left.toNat := by
  have chunk := loadChunk_toNat left
  have size : sdBlockSize.toNat = 512 := rfl
  rw [UInt32.toNat_mul, chunk, size]
  omega

/-- The next value of `done`. -/
theorem next_done_toNat (le : done.toNat ≤ n.toNat) :
    (done + loadChunk (n - done)).toNat =
      done.toNat + min 2048 (n.toNat - done.toNat) := by
  have chunk := loadChunk_toNat (n - done)
  have bound := n.toNat_lt
  rw [sub_done_toNat le] at chunk
  rw [UInt32.toNat_add, chunk]
  omega

theorem AtChunk.start (at_ : AtChunk n done) (more : done < n) : done.toNat % 2048 = 0 :=
  at_.whole.resolve_right (UInt32.ne_of_lt more)

theorem AtChunk.next (at_ : AtChunk n done) (more : done < n) :
    AtChunk n (done + loadChunk (n - done)) := by
  have le := at_.le
  have next := next_done_toNat le
  have less : done.toNat < n.toNat := UInt32.lt_iff_toNat_lt.mp more
  have start := at_.start more
  refine ⟨by omega, ?_⟩
  by_cases full : 2048 ≤ n.toNat - done.toNat
  · left
    omega
  · right
    apply UInt32.toNat.inj
    omega

theorem AtChunk.le_last (at_ : AtChunk n done) (more : done < n) :
    done.toNat ≤ lastChunk n := by
  have less : done.toNat < n.toNat := UInt32.lt_iff_toNat_lt.mp more
  have start := at_.start more
  simp only [lastChunk]
  omega

/-- The address of a chunk, as it is computed. -/
theorem chunk_address (dest done : UInt32) :
    (dest + done * sdBlockSize).toNat = (dest.toNat + 512 * done.toNat) % 2 ^ 32 := by
  have size : sdBlockSize.toNat = 512 := rfl
  rw [UInt32.toNat_add, UInt32.toNat_mul, size]
  omega

/-- The address of a chunk that does not wrap. -/
theorem Unwrapped.address (unwrapped : Unwrapped n lba dest) (before : done.toNat ≤ lastChunk n) :
    (dest + done * sdBlockSize).toNat = dest.toNat + 512 * done.toNat := by
  have bound := unwrapped.dest
  rw [chunk_address]
  exact Nat.mod_eq_of_lt (by omega)

theorem Unwrapped.block (unwrapped : Unwrapped n lba dest) (before : done.toNat ≤ lastChunk n) :
    (lba + done).toNat = lba.toNat + done.toNat := by
  have bound := unwrapped.lba
  rw [UInt32.toNat_add]
  omega

end Words

/-! ### One read -/

theorem sdReadAt_ok (card : Store UInt8) (lba size : UInt32) (address : Nat)
    (memory : Store UInt8) :
    sdReadAt .ok card lba size address memory =
      (true, memory.overlay address (card.window (512 * lba.toNat) size.toNat)) := by
  have copied := Store.window_overlay_same (fun i => memory (address + i)) 0
    (card.window (512 * lba.toNat) size.toNat)
  rw [Store.window_length] at copied
  simp only [sdReadAt, sdRead, blockSize, copied]

theorem sdReadAt_fail (residue card : Store UInt8) (lba size : UInt32) (address : Nat)
    (memory : Store UInt8) :
    sdReadAt (.fail residue) card lba size address memory =
      (false, memory.overlay address (residue.window 0 size.toNat)) := by
  have left := Store.window_overlay_same (fun i => memory (address + i)) 0
    (residue.window 0 size.toNat)
  rw [Store.window_length] at left
  simp only [sdReadAt, sdRead, left]

/-- Whatever its outcome, a read writes its destination only. -/
theorem sdReadAt_outside (outcome : SdOutcome) (card : Store UInt8) (lba size : UInt32)
    {start address : Nat} (memory : Store UInt8)
    (outside : address < start ∨ start + size.toNat ≤ address) :
    (sdReadAt outcome card lba size start memory).2 address = memory address := by
  cases outcome with
  | ok =>
      rw [sdReadAt_ok]
      exact Store.overlay_outside (by simpa using outside)
  | fail residue =>
      rw [sdReadAt_fail]
      exact Store.overlay_outside (by simpa using outside)

/-! ### One chunk of the loop -/

section Loop

variable {reads : UInt32 → SdOutcome} {card : Store UInt8} {n lba dest done stop : UInt32}

theorem loadRegion_end (memory : Store UInt8) :
    loadRegion reads card n lba dest n memory = (none, memory) := by
  rw [loadRegion, if_neg (UInt32.lt_irrefl n)]

theorem loadRegion_ok (memory : Store UInt8) (more : done < n) (ok : reads done = .ok) :
    loadRegion reads card n lba dest done memory =
      loadRegion reads card n lba dest (done + loadChunk (n - done))
        (memory.overlay (dest + done * sdBlockSize).toNat
          (card.window (512 * (lba + done).toNat) (512 * min 2048 (n - done).toNat))) := by
  rw [loadRegion, if_pos more, ok]
  simp only [sdReadAt_ok, if_true, loadChunk_size_toNat]

theorem loadRegion_fail {residue : Store UInt8} (memory : Store UInt8) (more : done < n)
    (fails : reads done = .fail residue) :
    loadRegion reads card n lba dest done memory =
      (some (lba + done),
        memory.overlay (dest + done * sdBlockSize).toNat
          (residue.window 0 (512 * min 2048 (n - done).toNat))) := by
  rw [loadRegion, if_pos more, fails]
  simp only [sdReadAt_fail, loadChunk_size_toNat, Bool.false_eq_true, if_false]

/-! ### Whole runs -/

/-- Every chunk that starts in the range is read. -/
def ReadsSucceed (reads : UInt32 → SdOutcome) (from_ upto : Nat) : Prop :=
  ∀ start : UInt32, from_ ≤ start.toNat → start.toNat < upto → start.toNat % 2048 = 0 →
    reads start = .ok

/-- The memory with the blocks of the range copied to their addresses. -/
def copied (card : Store UInt8) (lba dest from_ upto : Nat) (memory : Store UInt8) :
    Store UInt8 :=
  memory.overlay (dest + 512 * from_) (card.window (512 * (lba + from_)) (512 * (upto - from_)))

@[simp] theorem copied_none (card : Store UInt8) (lba dest at_ : Nat) (memory : Store UInt8) :
    copied card lba dest at_ at_ memory = memory := by
  simp [copied]

theorem copied_append (card : Store UInt8) (lba dest : Nat) {from_ mid upto : Nat}
    (memory : Store UInt8) (first : from_ ≤ mid) (second : mid ≤ upto) :
    copied card lba dest mid upto (copied card lba dest from_ mid memory) =
      copied card lba dest from_ upto memory := by
  have start : dest + 512 * mid =
      dest + 512 * from_ + (card.window (512 * (lba + from_)) (512 * (mid - from_))).length := by
    rw [Store.window_length]
    omega
  have next : 512 * (lba + mid) = 512 * (lba + from_) + 512 * (mid - from_) := by omega
  have total : 512 * (upto - from_) = 512 * (mid - from_) + 512 * (upto - mid) := by omega
  rw [copied, copied, start, Store.overlay_append, next, ← Store.window_add, ← total, copied]

/-- A block in the range is at its address. -/
theorem copied_inside (card : Store UInt8) (lba dest : Nat) {upto block byte : Nat}
    (memory : Store UInt8) (inside : block < upto) (small : byte < 512) :
    copied card lba dest 0 upto memory (dest + 512 * block + byte) =
      card (512 * (lba + block) + byte) := by
  have cell := Store.overlay_window memory card dest (512 * lba)
    (show 512 * block + byte < 512 * upto by omega)
  rw [← Nat.add_assoc, ← Nat.add_assoc, ← Nat.mul_add] at cell
  simpa [copied] using cell

theorem copied_outside (card : Store UInt8) (lba dest : Nat) {upto address : Nat}
    (memory : Store UInt8) (outside : address < dest ∨ dest + 512 * upto ≤ address) :
    copied card lba dest 0 upto memory address = memory address :=
  Store.overlay_outside (by simpa using outside)

/-- Where the reads between two heads of the loop succeed, the loop gets from
the one to the other; where nothing wraps it has copied what lies between. -/
theorem loadRegion_reaches (memory : Store UInt8) (here : AtChunk n done) (there : AtChunk n stop)
    (le : done.toNat ≤ stop.toNat) (succeed : ReadsSucceed reads done.toNat stop.toNat) :
    ∃ later, loadRegion reads card n lba dest done memory =
        loadRegion reads card n lba dest stop later ∧
      (Unwrapped n lba dest →
        later = copied card lba.toNat dest.toNat done.toNat stop.toNat memory) := by
  -- The measure is what is left before `stop`.
  induction left : stop.toNat - done.toNat using Nat.strong_induction_on
    generalizing done memory with
  | _ left ih =>
      rcases Nat.eq_or_lt_of_le le with same | before
      · have same : done = stop := UInt32.toNat.inj same
        subst same
        exact ⟨memory, rfl, fun _ => (copied_none ..).symm⟩
      · have more : done < n := UInt32.lt_iff_toNat_lt.mpr (by have := there.le; omega)
        have start := here.start more
        have ok : reads done = .ok := succeed done (Nat.le_refl _) before start
        have next := next_done_toNat here.le
        have passes : (done + loadChunk (n - done)).toNat ≤ stop.toNat := by
          rcases there.whole with whole | same
          · omega
          · have end_ : stop.toNat = n.toNat := congrArg UInt32.toNat same
            omega
        have some_read : done.toNat < (done + loadChunk (n - done)).toNat := by
          have := there.le
          omega
        obtain ⟨later, runs, copies⟩ := ih _ (by omega)
          (memory.overlay (dest + done * sdBlockSize).toNat
            (card.window (512 * (lba + done).toNat) (512 * min 2048 (n - done).toNat)))
          (here.next more) passes
          (fun at_ after => succeed at_ (Nat.le_trans (Nat.le_of_lt some_read) after)) rfl
        refine ⟨later, (loadRegion_ok memory more ok).trans runs, fun unwrapped => ?_⟩
        have inside := here.le_last more
        have cnt : min 2048 (n - done).toNat =
            (done + loadChunk (n - done)).toNat - done.toNat := by
          rw [sub_done_toNat here.le]
          omega
        rw [copies unwrapped, unwrapped.address inside, unwrapped.block inside, cnt]
        exact copied_append card _ _ memory (Nat.le_of_lt some_read) passes

/-- No chunk reaches above the 32-bit addresses where that address lies as
many bytes into a chunk as `dest`. -/
theorem loadRegion_unreached {address : Nat} (memory : Store UInt8) (here : AtChunk n done)
    (above : 2 ^ 32 ≤ address) (aligned : address % 2 ^ 20 = dest.toNat % 2 ^ 20) :
    (loadRegion reads card n lba dest done memory).2 address = memory address := by
  induction left : n.toNat - done.toNat using Nat.strong_induction_on
    generalizing done memory with
  | _ left ih =>
      by_cases more : done < n
      · have start := here.start more
        have next := next_done_toNat here.le
        have less : done.toNat < n.toNat := UInt32.lt_iff_toNat_lt.mp more
        have chunk : (dest + done * sdBlockSize).toNat % 2 ^ 20 = dest.toNat % 2 ^ 20 := by
          rw [chunk_address]
          omega
        have low := (dest + done * sdBlockSize).toNat_lt
        have short := loadChunk_size_toNat (n - done)
        have kept := sdReadAt_outside (reads done) card (lba + done)
          (loadChunk (n - done) * sdBlockSize) memory
          (show address < (dest + done * sdBlockSize).toNat ∨
            (dest + done * sdBlockSize).toNat + (loadChunk (n - done) * sdBlockSize).toNat
              ≤ address by right; omega)
        rw [loadRegion, if_pos more]
        dsimp only
        split
        · rw [ih _ (by omega) _ (here.next more) rfl, kept]
        · exact kept
      · rw [loadRegion, if_neg more]

end Loop

/-! ### Runs from the first block -/

section FirstBlock

variable {reads : UInt32 → SdOutcome} {card memory : Store UInt8} {n lba dest stop : UInt32}

theorem atChunk_zero (n : UInt32) : AtChunk n 0 := ⟨Nat.zero_le _, .inl rfl⟩

theorem atChunk_end (n : UInt32) : AtChunk n n := ⟨Nat.le_refl _, .inr rfl⟩

theorem loadRegion_whole (unwrapped : Unwrapped n lba dest)
    (succeed : ReadsSucceed reads 0 n.toNat) :
    loadRegion reads card n lba dest 0 memory =
      (none, copied card lba.toNat dest.toNat 0 n.toNat memory) := by
  obtain ⟨later, runs, copies⟩ := @loadRegion_reaches reads card n lba dest 0 n memory
    (atChunk_zero n) (atChunk_end n) (Nat.zero_le _) succeed
  rw [runs, loadRegion_end, copies unwrapped]
  rfl

/-- The run up to the first read that fails. -/
theorem loadRegion_stops {residue : Store UInt8} (unwrapped : Unwrapped n lba dest)
    (inside : stop < n) (start : stop.toNat % 2048 = 0)
    (succeed : ReadsSucceed reads 0 stop.toNat) (fails : reads stop = .fail residue) :
    loadRegion reads card n lba dest 0 memory =
      (some (lba + stop),
        (copied card lba.toNat dest.toNat 0 stop.toNat memory).overlay
          (dest.toNat + 512 * stop.toNat)
          (residue.window 0 (512 * min 2048 (n.toNat - stop.toNat)))) := by
  have le : stop.toNat ≤ n.toNat := Nat.le_of_lt (UInt32.lt_iff_toNat_lt.mp inside)
  have there : AtChunk n stop := ⟨le, .inl start⟩
  obtain ⟨later, runs, copies⟩ := @loadRegion_reaches reads card n lba dest 0 stop memory
    (atChunk_zero n) there (Nat.zero_le _) succeed
  rw [runs, loadRegion_fail later inside fails, copies unwrapped,
    unwrapped.address (there.le_last inside), sub_done_toNat le]
  rfl

/-- A run that ends without a failure has read every chunk. -/
theorem loadRegion_none {done : UInt32} (here : AtChunk n done)
    (end_ : (loadRegion reads card n lba dest done memory).1 = none) :
    ReadsSucceed reads done.toNat n.toNat := by
  induction left : n.toNat - done.toNat using Nat.strong_induction_on
    generalizing done memory with
  | _ left ih =>
      intro start after before whole
      have more : done < n := UInt32.lt_iff_toNat_lt.mpr (Nat.lt_of_le_of_lt after before)
      have aligned := here.start more
      have next := next_done_toNat here.le
      cases read : reads done with
      | fail residue =>
          rw [loadRegion_fail memory more read] at end_
          cases end_
      | ok =>
          rcases Nat.eq_or_lt_of_le after with same | later
          · rw [← UInt32.toNat.inj same]
            exact read
          · rw [loadRegion_ok memory more read] at end_
            exact ih _ (by omega) (here.next more) end_ rfl start (by omega) before whole

theorem loadRegion_ok_end (n lba dest : UInt32) (card memory : Store UInt8) :
    (loadRegion (fun _ => .ok) card n lba dest 0 memory).1 = none := by
  obtain ⟨later, runs, _⟩ := @loadRegion_reaches (fun _ => .ok) card n lba dest 0 n memory
    (atChunk_zero n) (atChunk_end n) (Nat.zero_le _) fun _ _ _ _ => rfl
  rw [runs, loadRegion_end]

/-- The first cells of the last chunk are the card's at the 32-bit block number. -/
theorem loadRegion_last (some_blocks : lastChunk n < n.toNat)
    (address : dest.toNat + 512 * lastChunk n < 2 ^ 32) :
    (loadRegion (fun _ => .ok) card n lba dest 0 memory).2 (dest.toNat + 512 * lastChunk n) =
      card (512 * ((lba.toNat + lastChunk n) % 2 ^ 32)) := by
  have bound := n.toNat_lt
  obtain ⟨last, value⟩ : ∃ last : UInt32, last.toNat = lastChunk n :=
    ⟨UInt32.ofNat (lastChunk n),
      UInt32.toNat_ofNat_of_lt' (show lastChunk n < 2 ^ 32 by omega)⟩
  have inside : last < n := UInt32.lt_iff_toNat_lt.mpr (value ▸ some_blocks)
  have there : AtChunk n last :=
    ⟨by omega, .inl (by rw [value]; simp only [lastChunk]; omega)⟩
  obtain ⟨later, runs, _⟩ := @loadRegion_reaches (fun _ => .ok) card n lba dest 0 last memory
    (atChunk_zero n) there (Nat.zero_le _) fun _ _ _ _ => rfl
  have left : (n - last).toNat = n.toNat - lastChunk n := value ▸ sub_done_toNat there.le
  have ends : last + loadChunk (n - last) = n := by
    apply UInt32.toNat.inj
    rw [next_done_toNat there.le, value]
    simp only [lastChunk] at some_blocks ⊢
    omega
  have start : (dest + last * sdBlockSize).toNat = dest.toNat + 512 * lastChunk n := by
    rw [chunk_address, value]
    exact Nat.mod_eq_of_lt address
  rw [runs, loadRegion_ok later inside rfl, ends, loadRegion_end, start, UInt32.toNat_add, value]
  exact Store.overlay_window later card (dest.toNat + 512 * lastChunk n) _
    (show 0 < 512 * min 2048 (n - last).toNat by omega)

/-- Zeroes up to block 2^32, ones after. -/
def onesBeyond : Store UInt8 := fun cell => if cell < 512 * 2 ^ 32 then 0 else 1

/-- Where an address or a block number wraps, there are a card and a memory
with which a block is missing although every read succeeds. -/
theorem loadRegion_wrapped (wrapped : ¬ Unwrapped n lba dest) :
    ∃ card memory, ∃ block < n.toNat,
      (loadRegion (fun _ => .ok) card n lba dest 0 memory).2 (dest.toNat + 512 * block) ≠
        card (512 * (lba.toNat + block)) := by
  have low := dest.toNat_lt
  have lba_low := lba.toNat_lt
  have some_blocks : lastChunk n < n.toNat := by
    simp only [lastChunk]
    by_contra none_
    exact wrapped ⟨by simp only [lastChunk]; omega, by simp only [lastChunk]; omega⟩
  by_cases address : dest.toNat + 512 * lastChunk n < 2 ^ 32
  · have block : 2 ^ 32 ≤ lba.toNat + lastChunk n := by
      by_contra small
      exact wrapped ⟨address, by omega⟩
    refine ⟨onesBeyond, fun _ => 0, lastChunk n, some_blocks, ?_⟩
    rw [loadRegion_last some_blocks address, onesBeyond, onesBeyond, if_pos (by omega),
      if_neg (by omega)]
    exact UInt8.zero_ne_one
  · refine ⟨fun _ => 1, fun _ => 0, lastChunk n, some_blocks, ?_⟩
    rw [loadRegion_unreached _ (atChunk_zero n) (by omega) (by simp only [lastChunk]; omega)]
    exact UInt8.zero_ne_one

end FirstBlock

end Mp257Fsbl.Boot
