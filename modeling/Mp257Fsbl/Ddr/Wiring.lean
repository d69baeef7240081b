/-
Module: Mp257Fsbl.Ddr.Wiring
Purpose: Memories whose address and data lines are shorted into nets: which of
  them pass the memory tests, and which of them ddr_init accepts.
Trusted boundary: human-reviewed fault model of the lines
Main exports: Device, dataBus_passes_iff, addrBus_passes_iff, checkSize_measures,
  ddrInit_accepts_iff
-/
import Mp257Fsbl.Ddr.Init
import Mp257Fsbl.Ddr.MemTest
import Mp257Fsbl.Foundation.Nets

namespace Mp257Fsbl.Ddr

open Mp257Fsbl.Foundation

/-! ### The memory -/

/-- A memory of `2 ^ d` words behind `d` address lines and 64 data lines, each
bus with its lines shorted into nets. -/
structure Device (d : Nat) (ν μ : Type) where
  address : Nets (Fin d) ν
  data : Nets (Fin 64) μ

/-- The address lines for a word. -/
def addressLines (d word : Nat) (line : Fin d) : Bool := word.testBit line

/-- The data lines for a word. -/
def dataLines (word : UInt64) (line : Fin 64) : Bool := word.toNat.testBit line

variable {d : Nat} {ν μ : Type} [DecidableEq ν] [DecidableEq μ]

def Device.wiring (device : Device d ν μ) : Wiring (Fin d → Bool) where
  cell addr := device.address.carry (addressLines d ((addr - stm32mpDdrBase).toNat / 8))
  back word := UInt64.ofNat (Nat.ofBits (device.data.carry (dataLines word)))

/-- The offset of a word. -/
def wordOffset (word : Nat) : UInt64 := UInt64.ofNat (8 * word)

/-! ### The data lines -/

theorem dataLines_bitWord {k : Nat} (inside : k < 64) :
    dataLines (bitWord k) = probe ⟨k, inside⟩ := by
  funext line
  simp only [dataLines, probe, bitWord_toNat inside, Nat.testBit_two_pow, Fin.ext_iff]
  exact decide_eq_decide.mpr eq_comm

theorem back_toNat (device : Device d ν μ) (word : UInt64) :
    (device.wiring.back word).toNat = Nat.ofBits (device.data.carry (dataLines word)) := by
  rw [Device.wiring, UInt64.toNat_ofNat', Nat.mod_eq_of_lt (Nat.ofBits_lt_two_pow _)]

/-- A word comes back exactly where its lines do. -/
theorem back_eq_iff (device : Device d ν μ) (word : UInt64) :
    device.wiring.back word = word ↔ device.data.carry (dataLines word) = dataLines word := by
  rw [← UInt64.toNat_inj, back_toNat]
  constructor
  · intro same
    funext line
    rw [dataLines, ← same, Nat.testBit_ofBits_lt _ _ line.isLt]
  · intro same
    rw [same]
    apply Nat.eq_of_testBit_eq
    intro i
    by_cases inside : i < 64
    · rw [Nat.testBit_ofBits_lt _ _ inside, dataLines]
    · have small : word.toNat < 2 ^ i :=
        Nat.lt_of_lt_of_le word.toNat_lt (Nat.pow_le_pow_right (by omega) (by omega))
      rw [Nat.testBit_ofBits_ge _ _ (by omega), Nat.testBit_lt_two_pow small]

/-- The data bus test passes exactly where every word comes back. -/
theorem dataBus_passes_iff (device : Device d ν μ) (mem : Content (Fin d → Bool)) :
    (stm32mpDdrTestDataBus device.wiring mem).1 = 0 ↔ ∀ word, device.wiring.back word = word := by
  rw [testDataBus_spec]
  constructor
  · intro bits
    have probes (line : Fin 64) : device.data.carry (probe line) = probe line := by
      have bit := (back_eq_iff device _).mp (bits line line.isLt)
      rwa [dataLines_bitWord line.isLt] at bit
    have all := Nets.carry_probe_iff.mp probes
    exact fun word => (back_eq_iff device word).mpr (all _)
  · exact fun all k _ => all (bitWord k)

/-- Where every word comes back, the patterns of the address test tell cells
apart. -/
theorem tellsPatterns_of_back {κ : Type} {wiring : Wiring κ}
    (sound : ∀ word, wiring.back word = word) : wiring.TellsPatterns where
  pattern := sound _
  antipattern := by
    rw [sound]
    decide

/-! ### The address lines -/

theorem wordOffset_toNat {word : Nat} (fits : word < 2 ^ 61) :
    (wordOffset word).toNat = 8 * word := by
  rw [wordOffset, UInt64.toNat_ofNat', Nat.mod_eq_of_lt (by omega)]

theorem lands_wordOffset (device : Device d ν μ) {word : Nat} (fits : word < 2 ^ 61) :
    device.wiring.lands (wordOffset word) = device.address.carry (addressLines d word) := by
  have back : stm32mpDdrBase + wordOffset word - stm32mpDdrBase = wordOffset word := by
    rw [UInt64.add_comm, UInt64.add_sub_cancel]
  rw [Wiring.lands, Device.wiring]
  simp only [back, wordOffset_toNat fits]
  rw [Nat.mul_div_cancel_left _ (by omega)]

theorem wordOffset_pow (k : Nat) : wordOffset (2 ^ k) = bitWord (3 + k) := by
  rw [wordOffset, bitWord, Nat.pow_add]

theorem addressLines_pow {k : Nat} (inside : k < d) :
    addressLines d (2 ^ k) = probe ⟨k, inside⟩ := by
  funext line
  simp only [addressLines, probe, Nat.testBit_two_pow, Fin.ext_iff]
  exact decide_eq_decide.mpr eq_comm

/-- A power of two beyond the lines drives none of them. -/
theorem addressLines_beyond {k : Nat} (beyond : d ≤ k) : addressLines d (2 ^ k) = idle := by
  funext line
  simp only [addressLines, idle, Nat.testBit_two_pow, decide_eq_false_iff_not]
  omega

theorem addressLines_zero : addressLines d 0 = idle := by
  funext line
  simp [addressLines, idle]

/-- No two of the first words land in one cell. -/
def WordsApart {κ : Type} (wiring : Wiring κ) (n : Nat) : Prop :=
  ∀ first second : Nat, first < 2 ^ n → second < 2 ^ n →
    wiring.lands (wordOffset first) = wiring.lands (wordOffset second) → first = second

/-- The offsets probed are those of the first word and of the powers of two. -/
theorem mem_probes_iff {size offset : UInt64} :
    offset ∈ 0 :: testOffsets size ↔
      offset = wordOffset 0 ∨ ∃ k < probedLines size, offset = wordOffset (2 ^ k) := by
  rw [List.mem_cons, testOffsets_eq, List.mem_map]
  simp only [List.mem_range, wordOffset_pow]
  constructor
  · rintro (rfl | ⟨k, inside, rfl⟩)
    · exact .inl rfl
    · exact .inr ⟨k, inside, rfl⟩
  · rintro (rfl | ⟨k, inside, rfl⟩)
    · exact .inl rfl
    · exact .inr ⟨k, inside, rfl⟩

theorem wordOffset_inj {first second : Nat} (one : first < 2 ^ 61) (two : second < 2 ^ 61)
    (same : wordOffset first = wordOffset second) : first = second := by
  have same := congrArg UInt64.toNat same
  rw [wordOffset_toNat one, wordOffset_toNat two] at same
  omega

theorem pow_lt_of_probed {size : UInt64} {k : Nat} (inside : k < probedLines size) :
    2 ^ k < 2 ^ 61 :=
  Nat.pow_lt_pow_right (by omega) (Nat.lt_of_lt_of_le inside (probedLines_le size))

/-- A memory whose probes are told apart has a line for each of them. -/
theorem lines_of_distinct {device : Device d ν μ} {size : UInt64}
    (distinct : Distinct device.wiring (0 :: testOffsets size)) : probedLines size ≤ d := by
  by_contra more
  have inside : d < probedLines size := by omega
  have fits := pow_lt_of_probed inside
  have same : device.wiring.lands (wordOffset (2 ^ d)) = device.wiring.lands (wordOffset 0) := by
    rw [lands_wordOffset device fits, lands_wordOffset device (by omega),
      addressLines_beyond (Nat.le_refl d), addressLines_zero]
  have zero := distinct _ (mem_probes_iff.mpr (.inr ⟨d, inside, rfl⟩)) _
    (mem_probes_iff.mpr (.inl rfl)) same
  have positive := Nat.two_pow_pos d
  have none_ := wordOffset_inj fits (by omega) zero
  omega

theorem separates_of_distinct {device : Device d ν μ} {size : UInt64}
    (distinct : Distinct device.wiring (0 :: testOffsets size)) :
    device.address.Separates fun line => (line : Nat) < probedLines size := by
  have lands (line : Fin d) (inside : (line : Nat) < probedLines size) :
      device.wiring.lands (wordOffset (2 ^ (line : Nat))) = device.address.carry (probe line) := by
    rw [lands_wordOffset device (pow_lt_of_probed inside), addressLines_pow line.isLt]
  have probed (line : Fin d) (inside : (line : Nat) < probedLines size) :=
    mem_probes_iff.mpr (.inr ⟨line, inside, rfl⟩)
  refine ⟨fun line inside same => ?_, fun line inside other inside' same => ?_⟩
  · have atZero : device.wiring.lands (wordOffset 0) = device.address.carry idle := by
      rw [lands_wordOffset device (by omega), addressLines_zero]
    have zero := distinct _ (probed line inside) _ (mem_probes_iff.mpr (.inl rfl))
      ((lands line inside).trans (same.trans atZero.symm))
    have positive := Nat.two_pow_pos (line : Nat)
    have none_ := wordOffset_inj (pow_lt_of_probed inside) (by omega) zero
    omega
  · have one := distinct _ (probed other inside') _ (probed line inside)
      ((lands other inside').trans (same.trans (lands line inside).symm))
    have powers := wordOffset_inj (pow_lt_of_probed inside') (pow_lt_of_probed inside) one
    exact Fin.ext (Nat.pow_right_injective (Nat.le_refl 2) powers)

/-- Whatever the lines, the probes are told apart exactly where all the words
are. -/
theorem distinct_iff (device : Device d ν μ) (size : UInt64) :
    Distinct device.wiring (0 :: testOffsets size) ↔
      WordsApart device.wiring (probedLines size) := by
  have le := probedLines_le size
  have top : 2 ^ probedLines size ≤ 2 ^ 61 := Nat.pow_le_pow_right (by omega) le
  constructor
  · intro distinct first second one two same
    have enough := lines_of_distinct distinct
    have only {word : Nat} (below : word < 2 ^ probedLines size) :
        DrivesOnly (fun line : Fin d => (line : Nat) < probedLines size) (addressLines d word) := by
      intro line high
      by_contra beyond
      have small : word < 2 ^ (line : Nat) :=
        Nat.lt_of_lt_of_le below (Nat.pow_le_pow_right (by omega) (by omega))
      rw [addressLines, Nat.testBit_lt_two_pow small] at high
      cases high
    rw [lands_wordOffset device (by omega), lands_wordOffset device (by omega)] at same
    have lines := (separates_of_distinct distinct).injective (only one) (only two) same
    apply Nat.eq_of_testBit_eq
    intro i
    by_cases inside : i < d
    · exact congrFun lines ⟨i, inside⟩
    · have low {word : Nat} (below : word < 2 ^ probedLines size) : word.testBit i = false :=
        Nat.testBit_lt_two_pow
          (Nat.lt_of_lt_of_le below (Nat.pow_le_pow_right (by omega) (by omega)))
      rw [low one, low two]
  · intro apart one oneProbed other otherProbed same
    have word {offset : UInt64} (member : offset ∈ 0 :: testOffsets size) :
        ∃ word < 2 ^ probedLines size, offset = wordOffset word := by
      rcases mem_probes_iff.mp member with rfl | ⟨k, inside, rfl⟩
      · exact ⟨0, Nat.two_pow_pos _, rfl⟩
      · exact ⟨2 ^ k, Nat.pow_lt_pow_right (by omega) inside, rfl⟩
    obtain ⟨first, below, rfl⟩ := word oneProbed
    obtain ⟨second, below', rfl⟩ := word otherProbed
    rw [apart first second below below' same]

/-- Behind a data bus test that passed, the address bus test passes exactly
where no two words of the lines probed share a cell. -/
theorem addrBus_probes_iff (device : Device d ν μ) (size : UInt64)
    (mem : Content (Fin d → Bool)) (passed : (stm32mpDdrTestDataBus device.wiring mem).1 = 0) :
    (stm32mpDdrTestAddrBus device.wiring size (stm32mpDdrTestDataBus device.wiring mem).2).1 = 0 ↔
      WordsApart device.wiring (probedLines size) := by
  have sound := (dataBus_passes_iff device mem).mp passed
  rw [testAddrBus_iff (tellsPatterns_of_back sound), distinct_iff]

/-- Over `2 ^ n` words these are all of them. -/
theorem addrBus_passes_iff (device : Device d ν μ) {n : Nat} (fits : n ≤ 60)
    (mem : Content (Fin d → Bool)) (passed : (stm32mpDdrTestDataBus device.wiring mem).1 = 0) :
    (stm32mpDdrTestAddrBus device.wiring (bitWord (3 + n))
        (stm32mpDdrTestDataBus device.wiring mem).2).1 = 0 ↔
      WordsApart device.wiring n := by
  rw [addrBus_probes_iff device _ mem passed, probedLines_pow fits]

/-- Three address lines without a fault. -/
def soundDevice : Device 3 (Fin 3) (Fin 64) := ⟨Nets.separate, Nets.separate⟩

theorem soundDevice_back (word : UInt64) : soundDevice.wiring.back word = word := by
  rw [back_eq_iff]
  exact Nets.carry_separate _

theorem addrBus_passes_iff_sound :
    let cleared := (stm32mpDdrTestDataBus soundDevice.wiring fun _ => 0).2
    (stm32mpDdrTestAddrBus soundDevice.wiring (bitWord (3 + 3)) cleared).1 = 0 ↔
      WordsApart soundDevice.wiring 3 := by
  refine addrBus_passes_iff _ (by decide) _ ?_
  rw [dataBus_passes_iff]
  exact soundDevice_back

/-! ### The size -/

/-- The size check measures a memory whose words have cells of their own: its
size in bytes, or four gigabytes where it is larger. -/
theorem checkSize_measures (device : Device d ν μ) (mem : Content (Fin d → Bool))
    (sound : ∀ word, device.wiring.back word = word)
    (apart : Function.Injective device.address.carry) :
    (stm32mpDdrCheckSize device.wiring mem).1.toNat = min (8 * 2 ^ d) 0x100000000 := by
  obtain ⟨last, le, value, fresh, found⟩ := checkSize_spec (tellsPatterns_of_back sound) mem
  have lands {k : Nat} (inside : k ≤ 29) : device.wiring.lands (bitWord (3 + k)) =
      device.address.carry (addressLines d (2 ^ k)) := by
    have fits : 2 ^ k ≤ 2 ^ 29 := Nat.pow_le_pow_right (by omega) inside
    rw [← wordOffset_pow, lands_wordOffset device (by omega)]
  have atZero : device.wiring.lands 0 = device.address.carry idle := by
    have fits : 0 < 2 ^ 61 := by decide
    have zero := lands_wordOffset device fits
    rwa [addressLines_zero] at zero
  have upper : last ≤ d := by
    by_contra beyond
    apply fresh d (by omega)
    rw [lands (by omega), addressLines_beyond (Nat.le_refl d), atZero]
  have lower : last < 29 → d ≤ last := by
    intro early
    by_contra below
    have same := found early
    rw [lands (by omega), addressLines_pow (by omega), atZero] at same
    have high := congrFun (apart same) ⟨last, by omega⟩
    rw [probe_self] at high
    cases high
  rw [value, bitWord_toNat (by omega), Nat.pow_add]
  rcases Nat.lt_or_ge last 29 with early | late
  · have all : last = d := Nat.le_antisymm upper (lower early)
    have small : 2 ^ d ≤ 2 ^ 29 := Nat.pow_le_pow_right (by omega) (by omega)
    rw [all, Nat.min_eq_left (by omega)]
  · have all : last = 29 := Nat.le_antisymm le late
    have large : 2 ^ 29 ≤ 2 ^ d := Nat.pow_le_pow_right (by omega) (by omega)
    rw [all, Nat.min_eq_right (by omega)]

/-- A memory of 64 bytes. -/
theorem checkSize_measures_small :
    (stm32mpDdrCheckSize soundDevice.wiring fun _ => 0).1.toNat = min (8 * 2 ^ 3) 0x100000000 := by
  apply checkSize_measures _ _ soundDevice_back
  intro first second same
  have carried (lines : Fin 3 → Bool) : soundDevice.address.carry lines = lines :=
    Nets.carry_separate lines
  rwa [carried, carried] at same

/-! ### ddr_init -/

/-- What the tests leave in the memory. -/
def contentAfter (device : Device d ν μ) (mem : Content (Fin d → Bool)) :
    Content (Fin d → Bool) :=
  let data := stm32mpDdrTestDataBus device.wiring mem
  let addr := stm32mpDdrTestAddrBus device.wiring (UInt64.ofNat ddrMemSize) data.2
  if data.1 ≠ 0 then data.2
  else if addr.1 ≠ 0 then addr.2
  else (stm32mpDdrCheckSize device.wiring addr.2).2

/-- The bytes read of a memory of words. -/
def bytesRead (wiring : Wiring (Fin d → Bool)) (mem : Content (Fin d → Bool)) : Store UInt8 :=
  fun addr =>
    ((mmioReadPattern wiring (UInt64.ofNat addr) mem) >>> UInt64.ofNat (8 * (addr % 8))).toUInt8

/-- One `ddr_init` on a memory: PLL2 and the training end as they do, the tests
find out what they find out. -/
def Device.outcome (device : Device d ν μ) (pll2 : Int) (trained : Bool)
    (mem : Content (Fin d → Bool)) : DdrOutcome :=
  let data := stm32mpDdrTestDataBus device.wiring mem
  let addr := stm32mpDdrTestAddrBus device.wiring (UInt64.ofNat ddrMemSize) data.2
  { pll2, trained
    dataBus := data.1
    addrBus := addr.1
    checkSize := (stm32mpDdrCheckSize device.wiring addr.2).1.toNat
    memory := bytesRead device.wiring (contentAfter device mem) }

theorem probedLines_ddrMemSize : probedLines (UInt64.ofNat ddrMemSize) = 29 :=
  probedLines_pow (n := 29) (by omega)

/-- Behind the bus tests the size check cannot fail. -/
theorem checkSize_of_apart {device : Device d ν μ} (tells : device.wiring.TellsPatterns)
    (apart : WordsApart device.wiring 29) (mem : Content (Fin d → Bool)) :
    ddrMemSize ≤ (stm32mpDdrCheckSize device.wiring mem).1.toNat := by
  obtain ⟨last, le, value, -, found⟩ := checkSize_spec tells mem
  rcases Nat.lt_or_ge last 29 with early | late
  · have same := found early
    rw [← wordOffset_pow] at same
    have zero := apart (2 ^ last) 0 (Nat.pow_lt_pow_right (by omega) early) (by omega) same
    have positive := Nat.two_pow_pos last
    omega
  · have all : last = 29 := Nat.le_antisymm le late
    rw [value, all, bitWord_toNat (by omega)]
    exact Nat.le_refl _

/-- `ddr_init` accepts a memory exactly where PLL2 locks, the training ends, every
word comes back as it was written and no two words of the four gigabytes share a
cell. -/
theorem ddrInit_accepts_iff (device : Device d ν μ) (pll2 : Int) (trained : Bool)
    (mem : Content (Fin d → Bool)) (priv : DdrPriv) :
    (∃ after, ddrInit (device.outcome pll2 trained mem) priv = some (0, after)) ↔
      pll2 = 0 ∧ trained = true ∧ (∀ word, device.wiring.back word = word) ∧
        WordsApart device.wiring 29 := by
  have passes : (device.outcome pll2 trained mem).Passes ↔
      pll2 = 0 ∧ trained = true ∧ (∀ word, device.wiring.back word = word) ∧
        WordsApart device.wiring 29 := by
    rw [← dataBus_passes_iff device mem]
    constructor
    · rintro ⟨locked, ends, data, addr, -⟩
      refine ⟨locked, ends, data, ?_⟩
      rw [← probedLines_ddrMemSize]
      exact (addrBus_probes_iff device _ mem data).mp addr
    · rintro ⟨locked, ends, data, apart⟩
      have tells := tellsPatterns_of_back ((dataBus_passes_iff device mem).mp data)
      refine ⟨locked, ends, data, ?_, checkSize_of_apart tells apart _⟩
      apply (addrBus_probes_iff device _ mem data).mpr
      rwa [probedLines_ddrMemSize]
  rw [← passes]
  constructor
  · rintro ⟨after, returned⟩
    rcases ddrInit_cases returned with ⟨unlocked, zero, -⟩ | ⟨-, -, -, zero⟩
    · exact absurd zero.symm unlocked
    · exact zero.mp rfl
  · intro passed
    obtain ⟨⟨ret, after⟩, returned⟩ := ddrInit_returns priv (.inr passed.2.1)
    rcases ddrInit_cases returned with ⟨unlocked, -, -⟩ | ⟨-, -, -, zero⟩
    · exact absurd passed.1 unlocked
    · exact ⟨after, (zero.mpr passed) ▸ returned⟩

end Mp257Fsbl.Ddr
