/-
Module: Mp257Fsbl.Sd.Init
Purpose: sd_init and the enumeration under it: which steps can fail, and when
  the capacity is published.
Trusted boundary: human-reviewed model of sd_glue.c, stm32_sdmmc2_mmc_init and
  mmc_enumerate
Main exports: SdGlue, SdInitOutcome, sdInit, SdInitOutcome.good
-/
import Mp257Fsbl.Sd.Card

namespace Mp257Fsbl.Sd

/-- The static `sd_dev_info` with the type the last enumeration settled on. -/
structure SdGlue where
  mmcDevType : MmcDeviceType
  info : SdDevInfo

/-- The initialiser of `sd_dev_info`. -/
def SdGlue.reset : SdGlue where
  mmcDevType := .isSdHc
  info := { deviceSize := 0, published := .inl rfl }

/-- `sd_params.flags`, which the initialiser of `sd_params` does not mention. -/
def sdParamsFlags : BitVec 32 := 0

/-- `MMC_FLAG_SD_CMD6`. -/
def mmcFlagSdCmd6 : BitVec 32 := 0x2

def isSdCmd6Enabled : Bool := sdParamsFlags &&& mmcFlagSdCmd6 != 0

/-- What the hardware makes of one `sd_init`. A group of commands is given by
the first nonzero value that one of them returns, or zero. -/
structure SdInitOutcome where
  /-- VDDIO1 is valid already or reports ready in time. -/
  vddio1Ready : Bool
  /-- CMD0, CMD8 and, where CMD8 echoes the check pattern, ACMD41. -/
  reset : Int
  /-- Bit OCR_HCS of the answer to ACMD41; `none` where CMD8 does not echo. -/
  highCapacity : Option Bool
  /-- CMD2, CMD3, CMD9, CMD7, CMD13 and the bus width. -/
  identify : Int
  csd : BitVec 128
  /-- The switch to high speed. -/
  highSpeed : Int

/-- The type that ACMD41 settles on; without it the type stays. -/
def SdInitOutcome.devType (outcome : SdInitOutcome) (glue : SdGlue) : MmcDeviceType :=
  match outcome.highCapacity with
  | some true => .isSdHc
  | some false => .isSd
  | none => glue.mmcDevType

/-- `mmc_enumerate`: its value, or `none` where an assertion of
`mmc_fill_device_info` fails, and `sd_dev_info` as the call leaves it. -/
def mmcEnumerate (outcome : SdInitOutcome) (glue : SdGlue) : Option Int × SdGlue :=
  if outcome.reset ≠ 0 then (some outcome.reset, glue)
  else
    let devType := outcome.devType glue
    let typed := { glue with mmcDevType := devType }
    if outcome.identify ≠ 0 then (some outcome.identify, typed)
    else
      match computed : mmcFillDeviceInfo devType outcome.csd 0 with
      | none => (none, typed)
      | some filled =>
          let info : SdDevInfo :=
            { deviceSize := filled.deviceSize
              published := .inr ⟨devType, outcome.csd, 0, filled, computed, rfl⟩ }
          let sized := { typed with info := info }
          -- The size is published before the speed is looked at.
          if MmcCsd.speedIdx outcome.csd = 0 then (none, sized)
          else
            (some (if isSdCmd6Enabled ∧ devType = .isSdHc then outcome.highSpeed else 0), sized)

/-- `sd_init`. -/
def sdInit (outcome : SdInitOutcome) (glue : SdGlue) : Option Int × SdGlue :=
  if outcome.vddio1Ready then mmcEnumerate outcome glue else (some (-1), glue)

/-- Every step succeeds on the smallest high-capacity card, at 25 MHz. -/
def SdInitOutcome.good : SdInitOutcome where
  vddio1Ready := true
  reset := 0
  highCapacity := some true
  identify := 0
  csd := 1#128 <<< 126 ||| 0x32#128 <<< 96
  highSpeed := 0

theorem sdInit_good (glue : SdGlue) :
    sdInit .good glue = (some 0, { mmcDevType := .isSdHc, info := SdDevInfo.smallest }) := rfl

/-! ### What one call does -/

/-- The call gets as far as publishing a size: every command succeeds and the
register decodes. -/
def SdInitOutcome.Publishes (outcome : SdInitOutcome) (glue : SdGlue) : Prop :=
  outcome.vddio1Ready = true ∧ outcome.reset = 0 ∧ outcome.identify = 0 ∧
    (mmcFillDeviceInfo (outcome.devType glue) outcome.csd 0).isSome

instance (outcome : SdInitOutcome) (glue : SdGlue) : Decidable (outcome.Publishes glue) :=
  inferInstanceAs (Decidable (_ ∧ _))

/-- No assertion stops the call: where every command succeeds, the register
decodes and names a speed. -/
def SdInitOutcome.Returns (outcome : SdInitOutcome) (glue : SdGlue) : Prop :=
  outcome.vddio1Ready = true → outcome.reset = 0 → outcome.identify = 0 →
    outcome.Publishes glue ∧ MmcCsd.speedIdx outcome.csd ≠ 0

/-- One call either leaves the size alone and does not return zero, or
publishes a size and then stops at the speed or returns zero. -/
theorem sdInit_cases (outcome : SdInitOutcome) (glue : SdGlue) :
    (¬ outcome.Publishes glue ∧ (sdInit outcome glue).1 ≠ some 0 ∧
        (sdInit outcome glue).2.info = glue.info) ∨
      (outcome.Publishes glue ∧
        (sdInit outcome glue).1 = (if MmcCsd.speedIdx outcome.csd = 0 then none else some 0) ∧
        (outcome.devType glue ≠ .isEmmc → (sdInit outcome glue).2.info.sdSizeBytes ≠ 0)) := by
  unfold sdInit
  split
  · rename_i ready
    dsimp only [mmcEnumerate]
    split
    · rename_i failed
      exact .inl ⟨fun publishes => failed publishes.2.1, by simpa using failed, rfl⟩
    · rename_i reset
      have reset : outcome.reset = 0 := not_not.mp reset
      split
      · rename_i failed
        exact .inl ⟨fun publishes => failed publishes.2.2.1, by simpa using failed, rfl⟩
      · rename_i identified
        have identified : outcome.identify = 0 := not_not.mp identified
        split
        · rename_i rejected
          refine .inl ⟨?_, by simp, rfl⟩
          intro publishes
          exact absurd publishes.2.2.2 (by simp [rejected])
        · rename_i filled computed
          have publishes : outcome.Publishes glue :=
            ⟨ready, reset, identified, by simp [computed]⟩
          have disabled : isSdCmd6Enabled = false := rfl
          refine .inr ⟨publishes, ?_, ?_⟩
          · split <;> simp [*]
          · intro card
            have sized := mmcFillDeviceInfo_deviceSize_ne_zero card computed
            split <;> exact sized
  · rename_i unready
    exact .inl ⟨fun publishes => unready publishes.1, by simp, rfl⟩

/-- The driver is never asked to take the card for an eMMC. -/
theorem sdInit_mmcDevType {outcome : SdInitOutcome} {glue : SdGlue}
    (card : glue.mmcDevType ≠ .isEmmc) :
    outcome.devType glue ≠ .isEmmc ∧ (sdInit outcome glue).2.mmcDevType ≠ .isEmmc := by
  have settled : outcome.devType glue ≠ .isEmmc := by
    unfold SdInitOutcome.devType
    split
    · decide
    · decide
    · exact card
  refine ⟨settled, ?_⟩
  dsimp only [sdInit, mmcEnumerate]
  split
  · split
    · exact card
    · split
      · exact settled
      · split
        · exact settled
        · split <;> exact settled
  · exact card

theorem sdInit_returns_iff (outcome : SdInitOutcome) (glue : SdGlue) :
    (sdInit outcome glue).1 ≠ none ↔ outcome.Returns glue := by
  rcases sdInit_cases outcome glue with ⟨silent, _, _⟩ | ⟨publishes, ret, _⟩
  · -- Without a size the call returns unless the register does not decode.
    dsimp only [sdInit, mmcEnumerate]
    split
    · rename_i ready
      split
      · rename_i failed
        simp [SdInitOutcome.Returns, failed]
      · split
        · rename_i failed
          simp [SdInitOutcome.Returns, failed]
        · rename_i reset identified
          simp only [ne_eq, not_not] at reset identified
          split
          · simp [SdInitOutcome.Returns, ready, reset, identified, silent]
          · rename_i filled computed
            exact absurd ⟨ready, reset, identified, by simp [computed]⟩ silent
    · rename_i unready
      simp [SdInitOutcome.Returns, unready]
  · rw [ret]
    simp [SdInitOutcome.Returns, publishes, publishes.1, publishes.2.1, publishes.2.2.1]

end Mp257Fsbl.Sd
