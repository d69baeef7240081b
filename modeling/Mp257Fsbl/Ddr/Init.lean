/-
Module: Mp257Fsbl.Ddr.Init
Purpose: ddr_init step by step: what it returns and when it publishes the
  memory size.
Trusted boundary: human-reviewed model of ddr_init and ddr_get_size
Main exports: DdrOutcome, ddrInit, DdrOutcome.Passes, ddrInit_cases, ddrInit_returns
-/
import Mp257Fsbl.Foundation.Store

namespace Mp257Fsbl.Ddr

open Mp257Fsbl.Foundation

/-- `ddr_config.info.size`, the `DDR_MEM_SIZE` of the board. -/
def ddrMemSize : Nat := 0x100000000

/-- What the hardware makes of one `ddr_init`. -/
structure DdrOutcome where
  /-- The value of `rcc_pll2_init`. -/
  pll2 : Int
  /-- `stm32mp2_ddr_init` brings the controller and the PHY up; else it
  panics. -/
  trained : Bool
  /-- The address at which the data-bus test fails, or zero. -/
  dataBus : UInt64
  /-- The address at which the address-bus test fails, or zero. -/
  addrBus : UInt64
  /-- The value of `stm32mp_ddr_check_size`. -/
  checkSize : Nat
  /-- What training and the tests leave in the memory. -/
  memory : Store UInt8

/-- `ddr_priv.info.size` and the memory. -/
structure DdrPriv where
  size : Nat
  memory : Store UInt8

/-- `ddr_init`; `none` where it panics. -/
def ddrInit (outcome : DdrOutcome) (priv : DdrPriv) : Option (Int × DdrPriv) :=
  if outcome.pll2 ≠ 0 then some (outcome.pll2, priv)
  else if outcome.trained = false then none
  else
    -- The size is published before the first test.
    let published : DdrPriv := { size := ddrMemSize, memory := outcome.memory }
    if outcome.dataBus ≠ 0 then some (-1, published)
    else if outcome.addrBus ≠ 0 then some (-1, published)
    else if outcome.checkSize < ddrMemSize then some (-1, published)
    else some (0, published)

namespace DdrOutcome

/-- Every step of `ddr_init` succeeds. -/
def Passes (outcome : DdrOutcome) : Prop :=
  outcome.pll2 = 0 ∧ outcome.trained = true ∧ outcome.dataBus = 0 ∧ outcome.addrBus = 0 ∧
    ddrMemSize ≤ outcome.checkSize

/-- A healthy memory. -/
def good : DdrOutcome where
  pll2 := 0
  trained := true
  dataBus := 0
  addrBus := 0
  checkSize := ddrMemSize
  memory := fun _ => 0

theorem good_passes : good.Passes := ⟨rfl, rfl, rfl, rfl, Nat.le_refl _⟩

end DdrOutcome

variable {outcome : DdrOutcome} {priv after : DdrPriv} {ret : Int}

/-- One `ddr_init` either stops at PLL2 and changes nothing, or publishes the
size and returns zero exactly when every step succeeds. -/
theorem ddrInit_cases (returned : ddrInit outcome priv = some (ret, after)) :
    (outcome.pll2 ≠ 0 ∧ ret = outcome.pll2 ∧ after = priv) ∨
      (outcome.pll2 = 0 ∧ outcome.trained = true ∧ after.size = ddrMemSize ∧
        (ret = 0 ↔ outcome.Passes)) := by
  unfold ddrInit at returned
  split at returned
  · rename_i unlocked
    cases returned
    exact .inl ⟨unlocked, rfl, rfl⟩
  · rename_i locked
    have locked : outcome.pll2 = 0 := not_not.mp locked
    split at returned
    · cases returned
    · rename_i trained
      have trained : outcome.trained = true := by simpa using trained
      refine .inr ⟨locked, trained, ?_⟩
      split at returned
      · cases returned
        simp [DdrOutcome.Passes, *]
      · split at returned
        · cases returned
          simp [DdrOutcome.Passes, *]
        · split at returned
          · cases returned
            simp [DdrOutcome.Passes, *]
          · cases returned
            simp_all [DdrOutcome.Passes]

/-- `ddr_init` returns unless training panics. -/
theorem ddrInit_returns (priv : DdrPriv)
    (returns : outcome.pll2 ≠ 0 ∨ outcome.trained = true) :
    ∃ result, ddrInit outcome priv = some result := by
  unfold ddrInit
  split
  · exact ⟨_, rfl⟩
  · rename_i locked
    simp only [returns.resolve_left locked, Bool.true_eq_false, if_false]
    split
    · exact ⟨_, rfl⟩
    · split
      · exact ⟨_, rfl⟩
      · split <;> exact ⟨_, rfl⟩

end Mp257Fsbl.Ddr
