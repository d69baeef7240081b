/-
Module: Mp257Fsbl.Sd.Card
Purpose: The SD card as its users see it: the capacity that enumeration
  publishes and the two block transfers with their possible failures.
Trusted boundary: human-reviewed model of sd_glue.c and mmc.c
Main exports: mmcFillDeviceInfo, SdDevInfo, SdDevInfo.blockCount_le, SdOutcome,
  sdRead, sdWrite
-/
import Mp257Fsbl.Foundation.Store
import Mathlib.Algebra.Order.Ring.Nat
import Mathlib.Tactic.Linarith

namespace Mp257Fsbl.Sd

open Mp257Fsbl.Foundation

/-- `MMC_BLOCK_SIZE`, `SD_BLOCK_SIZE` and `BLOCK_SIZE` of the three users. -/
def blockSize : Nat := 512

/-! ### Capacity

The card-specific data register is kept as its 128 raw bits. The two layouts
`struct mmc_csd_emmc` and `struct mmc_csd_sd_v2` are overlays on the same
register, so each field is an extraction at its bit offset. -/

inductive MmcDeviceType where
  | isEmmc
  | isSd
  | isSdHc
deriving Repr, DecidableEq

/-- The fields of `struct mmc_device_info` that carry the geometry. -/
structure MmcDeviceInfo where
  blockSize : Nat
  deviceSize : Nat
deriving Repr, DecidableEq

namespace MmcCsd

def readBlLen (csd : BitVec 128) : Nat := (csd.extractLsb' 80 4).toNat
def cSizeMult (csd : BitVec 128) : Nat := (csd.extractLsb' 47 3).toNat
def cSizeLow (csd : BitVec 128) : Nat := (csd.extractLsb' 62 2).toNat
def cSizeHigh (csd : BitVec 128) : Nat := (csd.extractLsb' 64 10).toNat
def tranSpeed (csd : BitVec 128) : Nat := (csd.extractLsb' 96 8).toNat
def csdStructure (csd : BitVec 128) : Nat := (csd.extractLsb' 126 2).toNat

/-- The `speed_idx` of `mmc_fill_device_info`, bits 6 to 3 of the speed. -/
def speedIdx (csd : BitVec 128) : Nat := tranSpeed csd / 8 % 16

end MmcCsd

namespace MmcCsdSdV2

def cSizeLow (csd : BitVec 128) : Nat := (csd.extractLsb' 48 16).toNat
def cSizeHigh (csd : BitVec 128) : Nat := (csd.extractLsb' 64 6).toNat

end MmcCsdSdV2

/-- The switch of `mmc_fill_device_info` over the type. `nbBlocks` is the sector count
read from the extended CSD of an eMMC; `none` is a failed `assert`, which
panics. -/
def mmcFillDeviceInfo (devType : MmcDeviceType) (csd : BitVec 128) (nbBlocks : UInt32) :
    Option MmcDeviceInfo :=
  match devType with
  | .isEmmc =>
      some { blockSize := blockSize, deviceSize := (nbBlocks.toNat * blockSize) % 2 ^ 64 }
  | .isSd =>
      let size := 2 ^ MmcCsd.readBlLen csd
      let cSize := MmcCsd.cSizeHigh csd * 4 + MmcCsd.cSizeLow csd
      if cSize = 0xFFF then none
      else
        some
          { blockSize := size
            deviceSize := ((cSize + 1) * 2 ^ (MmcCsd.cSizeMult csd + 2) * size) % 2 ^ 64 }
  | .isSdHc =>
      if MmcCsd.csdStructure csd = 1 then
        let cSize := MmcCsdSdV2.cSizeHigh csd * 2 ^ 16 + MmcCsdSdV2.cSizeLow csd
        some { blockSize := blockSize, deviceSize := ((cSize + 1) * 2 ^ 19) % 2 ^ 64 }
      else none

/-- The size of a standard-capacity card fits well into 64 bits. -/
theorem MmcCsd.size_le (csd : BitVec 128) :
    (MmcCsd.cSizeHigh csd * 4 + MmcCsd.cSizeLow csd + 1) * 2 ^ (MmcCsd.cSizeMult csd + 2) *
      2 ^ MmcCsd.readBlLen csd ≤ 2 ^ 36 := by
  have high : MmcCsd.cSizeHigh csd < 2 ^ 10 := (csd.extractLsb' 64 10).isLt
  have low : MmcCsd.cSizeLow csd < 2 ^ 2 := (csd.extractLsb' 62 2).isLt
  have mult : MmcCsd.cSizeMult csd < 2 ^ 3 := (csd.extractLsb' 47 3).isLt
  have len : MmcCsd.readBlLen csd < 2 ^ 4 := (csd.extractLsb' 80 4).isLt
  have cells : MmcCsd.cSizeHigh csd * 4 + MmcCsd.cSizeLow csd + 1 ≤ 2 ^ 12 := by omega
  have multiplier : 2 ^ (MmcCsd.cSizeMult csd + 2) ≤ 2 ^ 9 :=
    Nat.pow_le_pow_right (by decide) (by omega)
  have block : 2 ^ MmcCsd.readBlLen csd ≤ 2 ^ 15 :=
    Nat.pow_le_pow_right (by decide) (by omega)
  calc
    _ ≤ 2 ^ 12 * 2 ^ 9 * 2 ^ 15 := Nat.mul_le_mul (Nat.mul_le_mul cells multiplier) block
    _ = 2 ^ 36 := by decide

section Filled

variable {devType : MmcDeviceType} {csd : BitVec 128} {nbBlocks : UInt32} {info : MmcDeviceInfo}

/-- No register content makes the driver publish more than 2 TiB. -/
theorem mmcFillDeviceInfo_deviceSize_le
    (filled : mmcFillDeviceInfo devType csd nbBlocks = some info) :
    info.deviceSize ≤ 2 ^ 41 := by
  cases devType with
  | isEmmc =>
      simp only [mmcFillDeviceInfo, Option.some.injEq] at filled
      subst filled
      have bound : nbBlocks.toNat < 2 ^ 32 := nbBlocks.toNat_lt
      simp only [blockSize]
      omega
  | isSd =>
      simp only [mmcFillDeviceInfo] at filled
      split at filled
      · cases filled
      · simp only [Option.some.injEq] at filled
        subst filled
        exact Nat.le_trans (Nat.mod_le _ _) (Nat.le_trans (MmcCsd.size_le csd) (by decide))
  | isSdHc =>
      simp only [mmcFillDeviceInfo] at filled
      split at filled
      · simp only [Option.some.injEq] at filled
        subst filled
        have high : MmcCsdSdV2.cSizeHigh csd < 2 ^ 6 := (csd.extractLsb' 64 6).isLt
        have low : MmcCsdSdV2.cSizeLow csd < 2 ^ 16 := (csd.extractLsb' 48 16).isLt
        simp only
        omega
      · cases filled

/-- What the driver publishes for an SD card is not zero. -/
theorem mmcFillDeviceInfo_deviceSize_ne_zero (card : devType ≠ .isEmmc)
    (filled : mmcFillDeviceInfo devType csd nbBlocks = some info) : info.deviceSize ≠ 0 := by
  cases devType with
  | isEmmc => exact absurd rfl card
  | isSd =>
      simp only [mmcFillDeviceInfo] at filled
      split at filled
      · cases filled
      · simp only [Option.some.injEq] at filled
        subst filled
        have bound := MmcCsd.size_le csd
        have positive : 0 < (MmcCsd.cSizeHigh csd * 4 + MmcCsd.cSizeLow csd + 1) *
            2 ^ (MmcCsd.cSizeMult csd + 2) * 2 ^ MmcCsd.readBlLen csd := by positivity
        rw [Nat.mod_eq_of_lt (by omega)]
        exact Nat.pos_iff_ne_zero.mp positive
  | isSdHc =>
      simp only [mmcFillDeviceInfo] at filled
      split at filled
      · simp only [Option.some.injEq] at filled
        subst filled
        have high : MmcCsdSdV2.cSizeHigh csd < 2 ^ 6 := (csd.extractLsb' 64 6).isLt
        have low : MmcCsdSdV2.cSizeLow csd < 2 ^ 16 := (csd.extractLsb' 48 16).isLt
        simp only
        omega
      · cases filled

end Filled

/-- The static `sd_dev_info`: its size is zero until an enumeration has
published what `mmc_fill_device_info` computed. -/
structure SdDevInfo where
  deviceSize : Nat
  published : deviceSize = 0 ∨ ∃ devType csd nbBlocks info,
    mmcFillDeviceInfo devType csd nbBlocks = some info ∧ info.deviceSize = deviceSize

namespace SdDevInfo

/-- `sd_size_bytes`. -/
def sdSizeBytes (info : SdDevInfo) : Nat := info.deviceSize

/-- The number of whole blocks, as every user of `sd_size_bytes` computes it. -/
def blockCount (info : SdDevInfo) : Nat := info.sdSizeBytes / blockSize

/-- Block addresses of any card the driver accepts fit 32 bits. -/
theorem blockCount_le (info : SdDevInfo) : info.blockCount ≤ 2 ^ 32 := by
  have size : info.deviceSize ≤ 2 ^ 41 := by
    rcases info.published with zero | ⟨_, _, _, filled, computed, same⟩
    · omega
    · rw [← same]
      exact mmcFillDeviceInfo_deviceSize_le computed
  simp only [blockCount, sdSizeBytes, blockSize]
  omega

/-- The smallest high-capacity card: `c_size` is zero, 1024 blocks. -/
def smallest : SdDevInfo where
  deviceSize := 2 ^ 19
  published :=
    .inr ⟨.isSdHc, 1#128 <<< 126, 0, { blockSize := 512, deviceSize := 2 ^ 19 }, by decide, rfl⟩

/-- The largest one: all bits of `c_size` are set, 2^32 blocks. -/
def largest : SdDevInfo where
  deviceSize := 2 ^ 41
  published :=
    .inr ⟨.isSdHc, 1#128 <<< 126 ||| 0x3FFFFF#128 <<< 48, 0,
      { blockSize := 512, deviceSize := 2 ^ 41 }, by decide, rfl⟩

end SdDevInfo

/-! ### Block transfers

One call of `sd_read` or `sd_write` either moves all its bytes or fails and
leaves anything at all in the range it was writing. The card is addressed by
byte: block `k` is the bytes from `512 * k` on. -/

/-- What the hardware makes of one transfer. -/
inductive SdOutcome where
  | ok
  /-- The transfer fails; `residue` is what its destination holds afterwards. -/
  | fail (residue : Store UInt8)

/-- `sd_read` into a buffer: success and the buffer afterwards. -/
def sdRead (outcome : SdOutcome) (card : Store UInt8) (lba size : UInt32)
    (buffer : Store UInt8) : Bool × Store UInt8 :=
  match outcome with
  | .ok => (true, buffer.overlay 0 (card.window (blockSize * lba.toNat) size.toNat))
  | .fail residue => (false, buffer.overlay 0 (residue.window 0 size.toNat))

/-- `sd_write` from a buffer: success and the card afterwards. -/
def sdWrite (outcome : SdOutcome) (card : Store UInt8) (lba size : UInt32)
    (buffer : Store UInt8) : Bool × Store UInt8 :=
  match outcome with
  | .ok => (true, card.overlay (blockSize * lba.toNat) (buffer.window 0 size.toNat))
  | .fail residue =>
      (false, card.overlay (blockSize * lba.toNat) (residue.window 0 size.toNat))

end Mp257Fsbl.Sd
