/-
Module: Mp257Fsbl.Pmic.Sequence
Purpose: Under which bus errors pmic_init_rails keeps the power-on sequence of
  the LPDDR4 supplies.
Trusted boundary: none
Main exports: Writes, Sequenced, pmicInitRails_sequenced_iff
-/
import Mp257Fsbl.Pmic.Rails

namespace Mp257Fsbl.Pmic

open Mp257Fsbl.Foundation

/-- A write of the register was issued. -/
def Writes (reg : BitVec 8) (accesses : List PmicAccess) : Prop :=
  ∃ val ok, PmicAccess.write reg val ok ∈ accesses

/-- The updates that have to come before vdd2/vddq is enabled: the voltage of
vdd1, that of vdd2, and the enable bit of vdd1. -/
def beforeVdd2 : List (Field (BitVec 8) 8) :=
  [⟨ldo3MainCr, ldoVoltMask, ldoIdx vdd1DdrMv <<< 1⟩,
   ⟨buck6MainCr1, buckVoltMask, buckLowIdx vdd2DdrMv⟩,
   ⟨ldo3MainCr, railEn, railEn⟩]

/-- The enable of BUCK6 is written only if those updates returned zero. -/
def Sequenced (finish : Bringup) : Prop :=
  Writes (buck6MainCr1 + 1) finish.pmic.accesses →
    ∀ field ∈ beforeVdd2, (field, 0) ∈ finish.updates

/-! ### What is written -/

/-- An update writes its register unless its read fails. -/
theorem Outcome.writes_accesses (outcome : Outcome) (field : Field (BitVec 8) 8)
    (old reg : BitVec 8) :
    Writes reg (outcome.accesses field old) ↔ field.reg = reg ∧ outcome ≠ .readFails := by
  cases outcome <;> simp [Writes, Outcome.accesses, eq_comm]

theorem writes_append (reg : BitVec 8) (first second : List PmicAccess) :
    Writes reg (first ++ second) ↔ Writes reg first ∨ Writes reg second := by
  simp [Writes, exists_or]

/-- A list of updates writes a register where one of the updates does. -/
theorem Bringup.writes_updateAll (outcomes : Nat → Outcome) (b : Bringup)
    (fields : List (Field (BitVec 8) 8)) (reg : BitVec 8) :
    Writes reg (b.updateAll outcomes fields).pmic.accesses ↔
      Writes reg b.pmic.accesses ∨
        ∃ numbered ∈ fields.zipIdx b.updates.length,
          numbered.1.reg = reg ∧ outcomes numbered.2 ≠ .readFails := by
  induction fields generalizing b with
  | nil => simp [updateAll]
  | cons field fields ih =>
      rw [updateAll_cons, ih, update_length]
      simp only [update, pmicUpdate_eq, writes_append, Outcome.writes_accesses,
        List.zipIdx_cons, List.exists_mem_cons_iff, or_assoc]

/-- The enable of BUCK6 is written unless the read of its own update fails. -/
theorem pmicInitRails_writes (outcomes : Nat → Outcome) (regs : BitVec 8 → BitVec 8) :
    Writes (buck6MainCr1 + 1) (pmicInitRails outcomes (.ofRegs regs)).pmic.accesses ↔
      outcomes 14 ≠ .readFails := by
  rw [pmicInitRails_eq, Bringup.writes_updateAll]
  simp [Writes, Stpmic2.ofRegs, targets, buck6MainCr1]

theorem targets_nodup : targets.Nodup := by decide

/-- The update of a target returned zero exactly where it was done. -/
theorem pmicInitRails_updated {field : Field (BitVec 8) 8} {k : Nat}
    (place : targets[k]? = some field) (outcomes : Nat → Outcome) (regs : BitVec 8 → BitVec 8) :
    (field, 0) ∈ (pmicInitRails outcomes (.ofRegs regs)).updates ↔ outcomes k = .done := by
  rw [pmicInitRails_eq, Bringup.updateAll_updates, List.nil_append, List.mem_map]
  constructor
  · rintro ⟨⟨other, i⟩, member, same⟩
    obtain ⟨rfl, code⟩ := Prod.mk.inj same
    have found : targets[i]? = some other := List.mem_zipIdx_iff_getElem?.mp member
    obtain ⟨inside, -⟩ := List.getElem?_eq_some_iff.mp found
    have index : i = k := (List.getElem?_inj inside targets_nodup).mp (found.trans place.symm)
    rw [← index]
    exact Outcome.code_eq_zero.mp code
  · intro done
    refine ⟨(field, k), List.mem_zipIdx_iff_getElem?.mpr place, ?_⟩
    rw [Outcome.code_eq_zero.mpr done]

/-- The bring-up keeps the sequence exactly where the read of the BUCK6 enable
register fails, or none of the three updates before it fails: a failed update is
noted in `err` and the next one is made all the same. -/
theorem pmicInitRails_sequenced_iff (outcomes : Nat → Outcome) (regs : BitVec 8 → BitVec 8) :
    Sequenced (pmicInitRails outcomes (.ofRegs regs)) ↔
      outcomes 14 = .readFails ∨
        outcomes 11 = .done ∧ outcomes 12 = .done ∧ outcomes 13 = .done := by
  have updated : (∀ field ∈ beforeVdd2,
      (field, 0) ∈ (pmicInitRails outcomes (.ofRegs regs)).updates) ↔
        outcomes 11 = .done ∧ outcomes 12 = .done ∧ outcomes 13 = .done := by
    have vdd1 : targets[11]? = some ⟨ldo3MainCr, ldoVoltMask, ldoIdx vdd1DdrMv <<< 1⟩ := rfl
    have vdd2 : targets[12]? = some ⟨buck6MainCr1, buckVoltMask, buckLowIdx vdd2DdrMv⟩ := rfl
    have enable : targets[13]? = some ⟨ldo3MainCr, railEn, railEn⟩ := rfl
    simp only [beforeVdd2, List.forall_mem_cons, List.not_mem_nil, false_implies, implies_true,
      and_true, pmicInitRails_updated vdd1, pmicInitRails_updated vdd2,
      pmicInitRails_updated enable]
  rw [Sequenced, pmicInitRails_writes, updated, or_iff_not_imp_left]

/-- With every register zero and the read of LDO3 failing as vdd1 is to be
enabled, vdd2 is enabled all the same. -/
theorem pmicInitRails_not_sequenced :
    ¬ Sequenced (pmicInitRails (fun n => if n = 13 then .readFails else .done)
      (.ofRegs fun _ => 0)) := by
  intro sequenced
  have issued : Writes (buck6MainCr1 + 1)
      (pmicInitRails (fun n => if n = 13 then .readFails else .done)
        (.ofRegs fun _ => 0)).pmic.accesses := by
    rw [pmicInitRails_writes]
    decide
  have enabled := sequenced issued ⟨ldo3MainCr, railEn, railEn⟩ (by decide)
  have place : targets[13]? = some ⟨ldo3MainCr, railEn, railEn⟩ := rfl
  rw [pmicInitRails_updated place] at enabled
  exact absurd enabled (by decide)

end Mp257Fsbl.Pmic
