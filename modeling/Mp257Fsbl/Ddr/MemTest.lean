/-
Module: Mp257Fsbl.Ddr.MemTest
Purpose: The memory tests of stm32mp_ddr_test.c over a memory whose decoding and
  data lines need not be sound, and what each of them finds out.
Trusted boundary: human-reviewed model of stm32mp_ddr_test.c
Main exports: Wiring, stm32mpDdrTestDataBus, stm32mpDdrTestAddrBus, stm32mpDdrCheckSize,
  testDataBus_spec, testAddrBus_spec, checkSize_spec
-/
import Mathlib.Algebra.Order.Ring.Nat
import Mathlib.Data.Nat.Bitwise
import Mathlib.Logic.Function.Basic

namespace Mp257Fsbl.Ddr

/-! ### The tests -/

def stm32mpDdrBase : UInt64 := 0x80000000
def stm32mpDdrMaxSize : UInt64 := 0x100000000

def ddrPattern : UInt64 := 0xAAAAAAAAAAAAAAAA
def ddrAntipattern : UInt64 := 0x5555555555555555

/-- How a memory of words is wired: the cell an address selects, and the word
that comes back for the one stored. -/
structure Wiring (κ : Type) where
  cell : UInt64 → κ
  back : UInt64 → UInt64

/-- The word stored in each cell. -/
abbrev Content (κ : Type) := κ → UInt64

variable {κ : Type} [DecidableEq κ]

def mmioWritePattern (wiring : Wiring κ) (addr value : UInt64) (mem : Content κ) : Content κ :=
  Function.update mem (wiring.cell addr) value

omit [DecidableEq κ] in
/-- The word read at an address. -/
def mmioReadPattern (wiring : Wiring κ) (addr : UInt64) (mem : Content κ) : UInt64 :=
  wiring.back (mem (wiring.cell addr))

def stm32mpDdrTestRwAccess (wiring : Wiring κ) (mem : Content κ) : UInt64 × Content κ :=
  let savedValue := mmioReadPattern wiring stm32mpDdrBase mem
  let mem := mmioWritePattern wiring stm32mpDdrBase ddrPattern mem
  if mmioReadPattern wiring stm32mpDdrBase mem ≠ ddrPattern then (stm32mpDdrBase, mem)
  else (0, mmioWritePattern wiring stm32mpDdrBase savedValue mem)

/-- The values of a variable that is shifted left by one while it meets a mask,
for so many rounds at most. -/
def shifted (mask : UInt64) : Nat → UInt64 → List UInt64
  | 0, _ => []
  | rounds + 1, value =>
      if value &&& mask ≠ 0 then value :: shifted mask rounds (value <<< 1) else []

/-- The loop of the data bus test over the patterns. -/
def testPatterns (wiring : Wiring κ) : List UInt64 → Content κ → UInt64 × Content κ
  | [], mem => (0, mem)
  | pattern :: patterns, mem =>
      let mem := mmioWritePattern wiring stm32mpDdrBase pattern mem
      if mmioReadPattern wiring stm32mpDdrBase mem ≠ pattern then (stm32mpDdrBase, mem)
      else testPatterns wiring patterns mem

/-- `pattern != 0` is `pattern` meeting the mask of all bits. -/
def dataPatterns : List UInt64 := shifted 0xFFFFFFFFFFFFFFFF 64 1

def stm32mpDdrTestDataBus (wiring : Wiring κ) (mem : Content κ) : UInt64 × Content κ :=
  testPatterns wiring dataPatterns mem

/-- The power-of-two offsets below the size, from the second word on. -/
def testOffsets (size : UInt64) : List UInt64 := shifted (size - 1) 64 8

/-- The loop of the address bus test for address bits stuck low or shorted, over
what is left of the offsets. -/
def testStuckLow (wiring : Wiring κ) (offsets : List UInt64) :
    List UInt64 → Content κ → UInt64 × Content κ
  | [], mem => (0, mem)
  | testoffset :: testoffsets, mem =>
      let mem := mmioWritePattern wiring (stm32mpDdrBase + testoffset) ddrAntipattern mem
      if mmioReadPattern wiring stm32mpDdrBase mem ≠ ddrPattern then (stm32mpDdrBase, mem)
      else
        match offsets.find? fun offset =>
            mmioReadPattern wiring (stm32mpDdrBase + offset) mem ≠ ddrPattern ∧
              offset ≠ testoffset with
        | some offset => (stm32mpDdrBase + offset, mem)
        | none =>
            testStuckLow wiring offsets testoffsets
              (mmioWritePattern wiring (stm32mpDdrBase + testoffset) ddrPattern mem)

def stm32mpDdrTestAddrBus (wiring : Wiring κ) (size : UInt64) (mem : Content κ) :
    UInt64 × Content κ :=
  let offsets := testOffsets size
  -- the default pattern at each of the power-of-two offsets
  let mem := offsets.foldl
    (fun mem offset => mmioWritePattern wiring (stm32mpDdrBase + offset) ddrPattern mem) mem
  -- address bits stuck high
  let mem := mmioWritePattern wiring (stm32mpDdrBase + 0) ddrAntipattern mem
  match offsets.find? fun offset =>
      mmioReadPattern wiring (stm32mpDdrBase + offset) mem ≠ ddrPattern with
  | some offset => (stm32mpDdrBase + offset, mem)
  | none =>
      testStuckLow wiring offsets offsets
        (mmioWritePattern wiring (stm32mpDdrBase + 0) ddrPattern mem)

/-- The loop of the size check, for so many rounds at most. -/
def checkSizeFrom (wiring : Wiring κ) : Nat → UInt64 → Content κ → UInt64 × Content κ
  | 0, offset, mem => (offset, mem)
  | rounds + 1, offset, mem =>
      if offset < stm32mpDdrMaxSize then
        let mem := mmioWritePattern wiring (stm32mpDdrBase + offset) ddrAntipattern mem
        if mmioReadPattern wiring stm32mpDdrBase mem ≠ ddrPattern then (offset, mem)
        else checkSizeFrom wiring rounds (offset <<< 1) mem
      else (offset, mem)

def stm32mpDdrCheckSize (wiring : Wiring κ) (mem : Content κ) : UInt64 × Content κ :=
  checkSizeFrom wiring 64 8 (mmioWritePattern wiring stm32mpDdrBase ddrPattern mem)

/-! ### Powers of two -/

/-- The word with one bit. -/
def bitWord (k : Nat) : UInt64 := UInt64.ofNat (2 ^ k)

theorem bitWord_toNat {k : Nat} (inside : k < 64) : (bitWord k).toNat = 2 ^ k := by
  rw [bitWord, UInt64.toNat_ofNat', Nat.mod_eq_of_lt (Nat.pow_lt_pow_right (by omega) inside)]

theorem bitWord_and (k : Nat) (mask : UInt64) :
    bitWord k &&& mask ≠ 0 ↔ mask.toNat.testBit k = true := by
  have bits (i : Nat) : (bitWord k &&& mask).toNat.testBit i =
      (decide (i < 64) && decide (k = i) && mask.toNat.testBit i) := by
    rw [UInt64.toNat_and, Nat.testBit_and, bitWord, UInt64.toNat_ofNat', Nat.testBit_mod_two_pow,
      Nat.testBit_two_pow]
  constructor
  · intro meets
    have some_ : (bitWord k &&& mask).toNat ≠ 0 := fun zero => meets (UInt64.toNat_inj.mp zero)
    obtain ⟨i, high⟩ := Nat.exists_testBit_of_ne_zero some_
    rw [bits] at high
    simp only [Bool.and_eq_true, decide_eq_true_eq] at high
    obtain ⟨⟨-, rfl⟩, high⟩ := high
    exact high
  · intro high zero
    have inside : k < 64 := by
      by_contra outside
      have small : mask.toNat < 2 ^ k :=
        Nat.lt_of_lt_of_le mask.toNat_lt (Nat.pow_le_pow_right (by omega) (by omega))
      rw [Nat.testBit_lt_two_pow small] at high
      cases high
    have here := bits k
    rw [zero] at here
    simp [inside, high] at here

theorem bitWord_shiftLeft (k : Nat) : bitWord k <<< 1 = bitWord (k + 1) := by
  apply UInt64.toNat_inj.mp
  rw [UInt64.toNat_shiftLeft, bitWord, bitWord, UInt64.toNat_ofNat', UInt64.toNat_ofNat',
    Nat.pow_succ]
  simp [Nat.shiftLeft_eq, Nat.pow_succ]

/-- A shifted bit goes through the bits of the mask that follow on each other. -/
theorem shifted_bitWord (mask : UInt64) (rounds k : Nat) :
    ∃ n ≤ rounds, shifted mask rounds (bitWord k) =
        (List.range n).map (fun i => bitWord (k + i)) ∧
      (∀ i < n, mask.toNat.testBit (k + i) = true) ∧
      (n < rounds → mask.toNat.testBit (k + n) = false) := by
  induction rounds generalizing k with
  | zero => exact ⟨0, Nat.le_refl 0, rfl, nofun, nofun⟩
  | succ rounds ih =>
      by_cases high : mask.toNat.testBit k = true
      · obtain ⟨n, le, listed, highs, low⟩ := ih (k + 1)
        refine ⟨n + 1, Nat.succ_le_succ le, ?_, ?_, ?_⟩
        · rw [shifted, if_pos ((bitWord_and k mask).mpr high), bitWord_shiftLeft, listed,
            List.range_succ_eq_map, List.map_cons, List.map_map]
          simp [Function.comp_def, Nat.add_assoc, Nat.add_comm 1]
        · intro i inside
          cases i with
          | zero => exact high
          | succ i =>
              have next := highs i (Nat.lt_of_succ_lt_succ inside)
              rwa [Nat.add_assoc, Nat.add_comm 1] at next
        · intro more
          have next := low (Nat.lt_of_succ_lt_succ more)
          rwa [Nat.add_assoc, Nat.add_comm 1] at next
      · refine ⟨0, Nat.zero_le _, ?_, nofun, fun _ => by simpa using high⟩
        rw [shifted, if_neg (mt (bitWord_and k mask).mp high)]
        rfl

theorem dataPatterns_eq : dataPatterns = (List.range 64).map bitWord := by
  obtain ⟨n, le, listed, -, low⟩ := shifted_bitWord 0xFFFFFFFFFFFFFFFF 64 0
  have all : n = 64 := by
    by_contra fewer
    have less : n < 64 := by omega
    have bit := low less
    rw [show (0xFFFFFFFFFFFFFFFF : UInt64).toNat = 2 ^ 64 - 1 from rfl,
      Nat.testBit_two_pow_sub_one] at bit
    simp [less] at bit
  have listed : dataPatterns = (List.range n).map fun i => bitWord (0 + i) := listed
  simpa only [Nat.zero_add, all] using listed

/-- How many offsets the address bus test probes. -/
def probedLines (size : UInt64) : Nat := (testOffsets size).length

theorem testOffsets_eq (size : UInt64) :
    testOffsets size = (List.range (probedLines size)).map fun i => bitWord (3 + i) := by
  obtain ⟨n, -, listed, -, -⟩ := shifted_bitWord (size - 1) 64 3
  have listed : testOffsets size = (List.range n).map fun i => bitWord (3 + i) := listed
  have lines : probedLines size = n := by rw [probedLines, listed]; simp
  rw [lines, listed]

theorem probedLines_le (size : UInt64) : probedLines size ≤ 61 := by
  obtain ⟨n, -, listed, highs, -⟩ := shifted_bitWord (size - 1) 64 3
  have listed : testOffsets size = (List.range n).map fun i => bitWord (3 + i) := listed
  rw [probedLines, listed, List.length_map, List.length_range]
  by_contra more
  have high := highs 61 (by omega)
  rw [Nat.testBit_lt_two_pow (size - 1).toNat_lt] at high
  cases high

/-- A memory of `2 ^ n` words has `n` address lines. -/
theorem probedLines_pow {n : Nat} (fits : n ≤ 60) : probedLines (bitWord (3 + n)) = n := by
  obtain ⟨m, -, listed, highs, low⟩ := shifted_bitWord (bitWord (3 + n) - 1) 64 3
  have listed : testOffsets (bitWord (3 + n)) =
      (List.range m).map fun i => bitWord (3 + i) := listed
  have mask : (bitWord (3 + n) - 1).toNat = 2 ^ (3 + n) - 1 := by
    have whole : (bitWord (3 + n)).toNat = 2 ^ (3 + n) := bitWord_toNat (by omega)
    rw [UInt64.toNat_sub_of_le, whole]
    · rfl
    · rw [UInt64.le_iff_toNat_le, whole]
      exact Nat.one_le_two_pow
  rw [mask] at highs low
  simp only [Nat.testBit_two_pow_sub_one, decide_eq_true_eq, decide_eq_false_iff_not] at highs low
  rw [probedLines, listed, List.length_map, List.length_range]
  apply Nat.le_antisymm
  · by_contra more
    have last := highs n (by omega)
    omega
  · by_contra fewer
    have next := low (by omega)
    omega

/-! ### What the tests find out -/

variable {wiring : Wiring κ} {mem : Content κ}

theorem read_after_write (wiring : Wiring κ) (mem : Content κ) (addr value other : UInt64) :
    mmioReadPattern wiring other (mmioWritePattern wiring addr value mem) =
      wiring.back (if wiring.cell other = wiring.cell addr then value
        else mem (wiring.cell other)) := by
  simp only [mmioReadPattern, mmioWritePattern, Function.update_apply]

theorem testPatterns_spec (patterns : List UInt64) (mem : Content κ) :
    (testPatterns wiring patterns mem).1 = 0 ↔
      ∀ pattern ∈ patterns, wiring.back pattern = pattern := by
  induction patterns generalizing mem with
  | nil => simp [testPatterns]
  | cons pattern patterns ih =>
      rw [testPatterns, read_after_write, if_pos rfl]
      by_cases comes : wiring.back pattern = pattern
      · rw [if_neg (not_not_intro comes), ih, List.forall_mem_cons]
        exact (and_iff_right comes).symm
      · rw [if_pos comes, List.forall_mem_cons]
        have nonzero : stm32mpDdrBase ≠ 0 := by decide
        exact iff_of_false nonzero fun all => comes all.1

/-- The data bus test passes exactly where every single bit comes back. -/
theorem testDataBus_spec (wiring : Wiring κ) (mem : Content κ) :
    (stm32mpDdrTestDataBus wiring mem).1 = 0 ↔
      ∀ k < 64, wiring.back (bitWord k) = bitWord k := by
  rw [stm32mpDdrTestDataBus, testPatterns_spec, dataPatterns_eq]
  simp

/-- Where an offset from the start of the memory lands. -/
def Wiring.lands (wiring : Wiring κ) (offset : UInt64) : κ := wiring.cell (stm32mpDdrBase + offset)

/-- What the address test asks of the data lines. -/
structure Wiring.TellsPatterns (wiring : Wiring κ) : Prop where
  pattern : wiring.back ddrPattern = ddrPattern
  antipattern : wiring.back ddrAntipattern ≠ ddrPattern

/-- The probed offsets hold the default pattern. -/
def Patterned (wiring : Wiring κ) (offsets : List UInt64) (mem : Content κ) : Prop :=
  ∀ offset ∈ offsets, mem (wiring.lands offset) = ddrPattern

variable {offsets : List UInt64}

theorem Patterned.write (patterned : Patterned wiring offsets mem) (offset : UInt64) :
    Patterned wiring (offset :: offsets)
      (mmioWritePattern wiring (stm32mpDdrBase + offset) ddrPattern mem) := by
  intro other member
  simp only [mmioWritePattern, Function.update_apply]
  split
  · rfl
  · rename_i elsewhere
    rcases List.mem_cons.mp member with rfl | member
    · exact absurd rfl elsewhere
    · exact patterned other member

/-- Writing the pattern back over the antipattern leaves nothing of it. -/
theorem write_write (wiring : Wiring κ) (mem : Content κ) (addr first second : UInt64) :
    mmioWritePattern wiring addr second (mmioWritePattern wiring addr first mem) =
      mmioWritePattern wiring addr second mem :=
  Function.update_idem _ _ _

/-- With the antipattern at one offset, the others still read the pattern where
they land elsewhere, and only there. -/
theorem read_antipattern (tells : wiring.TellsPatterns) (patterned : Patterned wiring offsets mem)
    {offset : UInt64} (member : offset ∈ offsets) (probed : UInt64) :
    mmioReadPattern wiring (stm32mpDdrBase + offset)
        (mmioWritePattern wiring (stm32mpDdrBase + probed) ddrAntipattern mem) = ddrPattern ↔
      wiring.lands offset ≠ wiring.lands probed := by
  rw [read_after_write]
  by_cases same : wiring.lands offset = wiring.lands probed
  · have same' : wiring.cell (stm32mpDdrBase + offset) =
        wiring.cell (stm32mpDdrBase + probed) := same
    rw [if_pos same']
    exact iff_of_false tells.antipattern (not_not_intro same)
  · have apart : wiring.cell (stm32mpDdrBase + offset) ≠ wiring.cell (stm32mpDdrBase + probed) :=
      same
    have kept : mem (wiring.cell (stm32mpDdrBase + offset)) = ddrPattern := patterned offset member
    rw [if_neg apart, kept]
    exact iff_of_true tells.pattern same

theorem fill_patterned (offsets : List UInt64) {done : List UInt64}
    (patterned : Patterned wiring done mem) :
    Patterned wiring (offsets ++ done)
      (offsets.foldl
        (fun mem offset => mmioWritePattern wiring (stm32mpDdrBase + offset) ddrPattern mem)
        mem) := by
  induction offsets generalizing mem done with
  | nil => exact patterned
  | cons offset offsets ih =>
      have rest := ih (patterned.write offset)
      intro other member
      apply rest other
      simp only [List.mem_append, List.mem_cons] at member ⊢
      tauto

/-- Two offsets that land in one cell, the first of them at the address
returned. -/
def Collides (wiring : Wiring κ) (offsets : List UInt64) (addr : UInt64) : Prop :=
  ∃ one ∈ offsets, ∃ other ∈ offsets, one ≠ other ∧ wiring.lands one = wiring.lands other ∧
    addr = stm32mpDdrBase + one

/-- No two offsets land in one cell. -/
def Distinct (wiring : Wiring κ) (offsets : List UInt64) : Prop :=
  ∀ one ∈ offsets, ∀ other ∈ offsets, wiring.lands one = wiring.lands other → one = other

theorem testStuckLow_spec (tells : wiring.TellsPatterns) (nonzero : 0 ∉ offsets)
    {testoffsets : List UInt64} (inside : ∀ probed ∈ testoffsets, probed ∈ offsets)
    (patterned : Patterned wiring (0 :: offsets) mem) :
    ((testStuckLow wiring offsets testoffsets mem).1 = 0 ∧
        ∀ probed ∈ testoffsets, ∀ other ∈ 0 :: offsets,
          wiring.lands other = wiring.lands probed → other = probed) ∨
      Collides wiring (0 :: offsets) (testStuckLow wiring offsets testoffsets mem).1 := by
  induction testoffsets generalizing mem with
  | nil => exact .inl ⟨rfl, nofun⟩
  | cons probed testoffsets ih =>
      obtain ⟨member, inside⟩ := List.forall_mem_cons.mp inside
      have atBase := read_antipattern tells patterned (List.mem_cons_self ..) probed
      rw [UInt64.add_zero] at atBase
      rw [testStuckLow]
      by_cases base : wiring.lands 0 = wiring.lands probed
      · rw [if_pos fun reads => atBase.mp reads base]
        refine .inr ⟨0, List.mem_cons_self .., probed, List.mem_cons_of_mem _ member, ?_, base,
          (UInt64.add_zero _).symm⟩
        rintro rfl
        exact nonzero member
      · rw [if_neg (not_not_intro (atBase.mpr base))]
        split
        · rename_i offset found
          have reads := List.find?_some found
          have offsetMember := List.mem_of_find?_eq_some found
          simp only [decide_eq_true_eq] at reads
          have same : wiring.lands offset = wiring.lands probed := by
            by_contra apart
            exact reads.1 ((read_antipattern tells patterned
              (List.mem_cons_of_mem _ offsetMember) probed).mpr apart)
          exact .inr ⟨offset, List.mem_cons_of_mem _ offsetMember, probed,
            List.mem_cons_of_mem _ member, reads.2, same, rfl⟩
        · rename_i none_
          rw [write_write]
          have again : Patterned wiring (0 :: offsets)
              (mmioWritePattern wiring (stm32mpDdrBase + probed) ddrPattern mem) :=
            fun other here => patterned.write probed other (List.mem_cons_of_mem _ here)
          rcases ih inside again with ⟨zero, distinct⟩ | collides
          · refine .inl ⟨zero, List.forall_mem_cons.mpr ⟨?_, distinct⟩⟩
            intro other otherMember same
            rcases List.mem_cons.mp otherMember with rfl | otherMember
            · exact absurd same base
            · by_contra ne
              have reads := List.find?_eq_none.mp none_ other otherMember
              simp only [decide_eq_true_eq, not_and, not_not] at reads
              apply ne
              apply reads
              intro same'
              exact (read_antipattern tells patterned (List.mem_cons_of_mem _ otherMember)
                probed).mp same' same
          · exact .inr collides

theorem zero_notMem_testOffsets (size : UInt64) : 0 ∉ testOffsets size := by
  rw [testOffsets_eq]
  intro member
  obtain ⟨i, inside, zero⟩ := List.mem_map.mp member
  have lines := probedLines_le size
  have inside := List.mem_range.mp inside
  have value := bitWord_toNat (k := 3 + i) (by omega)
  rw [zero] at value
  have positive := Nat.two_pow_pos (3 + i)
  simp at value
  omega

/-- The address bus test returns zero where no two of the probed offsets land in
one cell, and else the address of one that does not land alone. -/
theorem testAddrBus_spec (tells : wiring.TellsPatterns) (size : UInt64) (mem : Content κ) :
    ((stm32mpDdrTestAddrBus wiring size mem).1 = 0 ∧ Distinct wiring (0 :: testOffsets size)) ∨
      Collides wiring (0 :: testOffsets size) (stm32mpDdrTestAddrBus wiring size mem).1 := by
  have nonzero := zero_notMem_testOffsets size
  rw [stm32mpDdrTestAddrBus]
  generalize testOffsets size = offsets at nonzero
  have none_yet : Patterned wiring [] mem := nofun
  have filled := fill_patterned offsets none_yet
  rw [List.append_nil] at filled
  split
  · rename_i offset found
    have reads := List.find?_some found
    have member := List.mem_of_find?_eq_some found
    simp only [decide_eq_true_eq] at reads
    have same : wiring.lands offset = wiring.lands 0 := by
      by_contra apart
      exact reads ((read_antipattern tells filled member 0).mpr apart)
    refine .inr ⟨offset, List.mem_cons_of_mem _ member, 0, List.mem_cons_self .., ?_, same, rfl⟩
    rintro rfl
    exact nonzero member
  · rename_i none_
    rw [write_write]
    rcases testStuckLow_spec tells nonzero (fun _ member => member) (filled.write 0) with
      ⟨zero, distinct⟩ | collides
    · refine .inl ⟨zero, ?_⟩
      intro one oneMember other otherMember same
      rcases List.mem_cons.mp otherMember with rfl | otherMember
      · rcases List.mem_cons.mp oneMember with rfl | oneMember
        · rfl
        · exact (distinct one oneMember 0 (List.mem_cons_self ..) same.symm).symm
      · exact distinct other otherMember one oneMember same
    · exact .inr collides

omit [DecidableEq κ] in
/-- No probed offset is at address zero. -/
theorem Collides.ne_zero {size addr : UInt64}
    (collides : Collides wiring (0 :: testOffsets size) addr) : addr ≠ 0 := by
  obtain ⟨offset, member, -, -, -, -, rfl⟩ := collides
  intro zero
  have zero := congrArg UInt64.toNat zero
  rw [UInt64.toNat_add] at zero
  rcases List.mem_cons.mp member with rfl | member
  · exact absurd zero (by decide)
  · rw [testOffsets_eq] at member
    obtain ⟨i, inside, rfl⟩ := List.mem_map.mp member
    have lines := probedLines_le size
    have inside := List.mem_range.mp inside
    have top : 2 ^ (3 + i) ≤ 2 ^ 63 := Nat.pow_le_pow_right (by omega) (by omega)
    have positive := Nat.two_pow_pos (3 + i)
    rw [bitWord_toNat (by omega), show stm32mpDdrBase.toNat = 2 ^ 31 from rfl,
      UInt64.toNat_zero] at zero
    omega

/-- The address bus test passes exactly where no two probed offsets land in one
cell. -/
theorem testAddrBus_iff (tells : wiring.TellsPatterns) (size : UInt64) (mem : Content κ) :
    (stm32mpDdrTestAddrBus wiring size mem).1 = 0 ↔ Distinct wiring (0 :: testOffsets size) := by
  rcases testAddrBus_spec tells size mem with ⟨zero, distinct⟩ | collides
  · exact iff_of_true zero distinct
  · refine iff_of_false collides.ne_zero fun distinct => ?_
    obtain ⟨one, member, other, member', ne, same, -⟩ := collides
    exact ne (distinct one member other member' same)

/-! ### The size -/

theorem bitWord_lt_maxSize {m : Nat} (le : m ≤ 29) :
    bitWord (3 + m) < stm32mpDdrMaxSize ↔ m < 29 := by
  rw [UInt64.lt_iff_toNat_lt, bitWord_toNat (by omega),
    show stm32mpDdrMaxSize.toNat = 2 ^ (3 + 29) from rfl, Nat.pow_lt_pow_iff_right (by omega)]
  omega

/-- The size check ends at the first power of two that lands where the memory
starts, and at four gigabytes at the latest. -/
theorem checkSizeFrom_spec (tells : wiring.TellsPatterns) {rounds m : Nat} (le : m ≤ 29)
    (enough : 29 - m < rounds) (base : mem (wiring.lands 0) = ddrPattern) :
    ∃ last, m ≤ last ∧ last ≤ 29 ∧
      (checkSizeFrom wiring rounds (bitWord (3 + m)) mem).1 = bitWord (3 + last) ∧
      (∀ i, m ≤ i → i < last → wiring.lands (bitWord (3 + i)) ≠ wiring.lands 0) ∧
      (last < 29 → wiring.lands (bitWord (3 + last)) = wiring.lands 0) := by
  induction rounds generalizing m mem with
  | zero => omega
  | succ rounds ih =>
      have patterned : Patterned wiring [0] mem := by
        intro other member
        rw [List.mem_singleton.mp member]
        exact base
      have atBase := read_antipattern tells patterned (List.mem_singleton_self 0) (bitWord (3 + m))
      rw [UInt64.add_zero] at atBase
      rw [checkSizeFrom]
      by_cases more : m < 29
      · rw [if_pos ((bitWord_lt_maxSize le).mpr more)]
        by_cases same : wiring.lands 0 = wiring.lands (bitWord (3 + m))
        · rw [if_pos fun reads => atBase.mp reads same]
          exact ⟨m, Nat.le_refl m, le, rfl, fun i above below => by omega, fun _ => same.symm⟩
        · rw [if_neg (not_not_intro (atBase.mpr same)), bitWord_shiftLeft]
          have kept : mmioWritePattern wiring (stm32mpDdrBase + bitWord (3 + m)) ddrAntipattern mem
              (wiring.lands 0) = ddrPattern := by
            simp only [mmioWritePattern, Function.update_apply]
            exact (if_neg same).trans base
          obtain ⟨last, above, below, value, apart, found⟩ :=
            ih (m := m + 1) (by omega) (by omega) kept
          refine ⟨last, by omega, below, value, fun i here there => ?_, found⟩
          rcases Nat.eq_or_lt_of_le here with rfl | later
          · exact Ne.symm same
          · exact apart i later there
      · have all : m = 29 := by omega
        rw [if_neg (mt (bitWord_lt_maxSize le).mp more)]
        exact ⟨m, Nat.le_refl m, le, rfl, fun i above below => by omega, fun less => by omega⟩

theorem checkSize_spec (tells : wiring.TellsPatterns) (mem : Content κ) :
    ∃ last ≤ 29, (stm32mpDdrCheckSize wiring mem).1 = bitWord (3 + last) ∧
      (∀ i < last, wiring.lands (bitWord (3 + i)) ≠ wiring.lands 0) ∧
      (last < 29 → wiring.lands (bitWord (3 + last)) = wiring.lands 0) := by
  have base :
      mmioWritePattern wiring stm32mpDdrBase ddrPattern mem (wiring.lands 0) = ddrPattern := by
    simp only [mmioWritePattern, Wiring.lands, UInt64.add_zero, Function.update_self]
  have enough : 29 - 0 < 64 := by decide
  obtain ⟨last, -, below, value, apart, found⟩ :=
    checkSizeFrom_spec tells (Nat.zero_le 29) enough base
  exact ⟨last, below, value, fun i inside => apart i (Nat.zero_le i) inside, found⟩

end Mp257Fsbl.Ddr
