/-
Module: Mp257Fsbl.Pmic.Rails
Purpose: pmic_init_rails on the registers of the PMIC, with every access able to
  fail, as a list of attempted field updates.
Trusted boundary: human-reviewed model of pmic.c; a failed access changes nothing
Main exports: Rail, rails, Stpmic2, Outcome, pmicUpdate, pmicInitRails, targets,
  pmicInitRails_touches
-/
import Mp257Fsbl.Foundation.Masked

namespace Mp257Fsbl.Pmic

open Mp257Fsbl.Foundation

/-! ### Registers and rails -/

def buck1MainCr1 : BitVec 8 := 0x20
def buck2MainCr1 : BitVec 8 := 0x25
def buck3MainCr1 : BitVec 8 := 0x2A
def buck4MainCr1 : BitVec 8 := 0x2F
def buck5MainCr1 : BitVec 8 := 0x34
def buck6MainCr1 : BitVec 8 := 0x39
def buck7MainCr1 : BitVec 8 := 0x3E

def ldo1MainCr : BitVec 8 := 0x4C
def ldo2MainCr : BitVec 8 := 0x4F
def ldo3MainCr : BitVec 8 := 0x52
def ldo4MainCr : BitVec 8 := 0x55
def ldo5MainCr : BitVec 8 := 0x58
def ldo7MainCr : BitVec 8 := 0x5E
def ldo8MainCr : BitVec 8 := 0x61

def buckVoltMask : BitVec 8 := 0x7F
def ldoVoltMask : BitVec 8 := 0x3E
def ldoBypass : BitVec 8 := 0x40
def railEn : BitVec 8 := 0x01

def buckLowIdx (mv : Nat) : BitVec 8 := BitVec.ofNat 8 ((mv - 500) / 10)
def ldoIdx (mv : Nat) : BitVec 8 := BitVec.ofNat 8 ((mv - 900) / 100)

def vdd1DdrMv : Nat := 1800
def vdd2DdrMv : Nat := 1100

inductive RailKind where
  | buck
  | ldo
  | ldoFixed
deriving Repr, DecidableEq

/-- A row of the table, without the columns that only `pmic_print_rails` reads. -/
structure Rail where
  cr : BitVec 8
  kind : RailKind
  alwaysOn : Bool
deriving Repr, DecidableEq

def rails : List Rail :=
  [⟨buck1MainCr1, .buck, true⟩,
   ⟨buck2MainCr1, .buck, true⟩,
   ⟨buck3MainCr1, .buck, true⟩,
   ⟨buck4MainCr1, .buck, true⟩,
   ⟨buck5MainCr1, .buck, true⟩,
   ⟨buck6MainCr1, .buck, false⟩,
   ⟨buck7MainCr1, .buck, true⟩,
   ⟨ldo1MainCr, .ldoFixed, true⟩,
   ⟨ldo2MainCr, .ldo, true⟩,
   ⟨ldo3MainCr, .ldo, false⟩,
   ⟨ldo4MainCr, .ldoFixed, true⟩,
   ⟨ldo5MainCr, .ldo, false⟩,
   ⟨ldo7MainCr, .ldo, true⟩,
   ⟨ldo8MainCr, .ldo, true⟩]

def railEnCr (r : Rail) : BitVec 8 := if r.kind = .buck then r.cr + 1 else r.cr

/-! ### The PMIC -/

/-- An access as it is issued, and whether the bus completes it. -/
inductive PmicAccess where
  | read (reg : BitVec 8) (ok : Bool)
  | write (reg val : BitVec 8) (ok : Bool)
deriving Repr, DecidableEq

def PmicAccess.ok : PmicAccess → Bool
  | .read _ ok => ok
  | .write _ _ ok => ok

/-- The registers, and the accesses issued so far. -/
structure Stpmic2 where
  regs : BitVec 8 → BitVec 8
  accesses : List PmicAccess

def Stpmic2.ofRegs (regs : BitVec 8 → BitVec 8) : Stpmic2 := { regs, accesses := [] }

def pmicRead (ok : Bool) (reg : BitVec 8) (pmic : Stpmic2) : Option (BitVec 8) × Stpmic2 :=
  (if ok then some (pmic.regs reg) else none,
    { pmic with accesses := pmic.accesses ++ [.read reg ok] })

def pmicWrite (ok : Bool) (reg val : BitVec 8) (pmic : Stpmic2) : Int32 × Stpmic2 :=
  (if ok then 0 else -1,
    { regs := if ok then Function.update pmic.regs reg val else pmic.regs
      accesses := pmic.accesses ++ [.write reg val ok] })

/-- What the bus does with the two accesses of an update. After a failed read
there is no write. -/
inductive Outcome where
  | done
  | readFails
  | writeFails
deriving Repr, DecidableEq

def pmicUpdate (outcome : Outcome) (reg val mask : BitVec 8) (pmic : Stpmic2) : Int32 × Stpmic2 :=
  match pmicRead (outcome ≠ .readFails) reg pmic with
  | (none, pmic) => (-1, pmic)
  | (some v, pmic) =>
      pmicWrite (outcome ≠ .writeFails) reg ((v &&& ~~~mask) ||| (val &&& mask)) pmic

/-- `err` and the PMIC, with the updates called so far and the codes they
returned; no code reads the list. -/
structure Bringup where
  err : Int32
  pmic : Stpmic2
  updates : List (Field (BitVec 8) 8 × Int32)

/-- `err |= pmic_update(reg, val, mask)`, under the next outcome. -/
def Bringup.update (outcomes : Nat → Outcome) (b : Bringup) (reg val mask : BitVec 8) :
    Bringup :=
  let (code, pmic) := pmicUpdate (outcomes b.updates.length) reg val mask b.pmic
  { err := b.err ||| code
    pmic
    updates := b.updates ++ [({ reg, mask, val }, code)] }

def Bringup.enableAlwaysOn (outcomes : Nat → Outcome) (b : Bringup) (r : Rail) : Bringup :=
  if r.alwaysOn then b.update outcomes (railEnCr r) railEn railEn else b

/-- The last `err` is the value returned. -/
def pmicInitRails (outcomes : Nat → Outcome) (pmic : Stpmic2) : Bringup :=
  let b := rails.foldl (Bringup.enableAlwaysOn outcomes) { err := 0, pmic, updates := [] }
  let b := b.update outcomes ldo3MainCr (ldoIdx vdd1DdrMv <<< 1) ldoVoltMask
  let b := b.update outcomes buck6MainCr1 (buckLowIdx vdd2DdrMv) buckVoltMask
  let b := b.update outcomes ldo3MainCr railEn railEn
  b.update outcomes (buck6MainCr1 + 1) railEn railEn

/-! ### Updates as attempts -/

/-- The fields of a list with what becomes of their updates, numbered from `n`. -/
def tried (outcomes : Nat → Outcome) (n : Nat) :
    List (Field (BitVec 8) 8) → List (Field (BitVec 8) 8 × Bool)
  | [] => []
  | field :: fields => (field, outcomes n = .done) :: tried outcomes (n + 1) fields

def Bringup.updateAll (outcomes : Nat → Outcome) (b : Bringup)
    (fields : List (Field (BitVec 8) 8)) : Bringup :=
  fields.foldl (fun b field => b.update outcomes field.reg field.val field.mask) b

/-- What an update returns. -/
def Outcome.code (outcome : Outcome) : Int32 := if outcome = .done then 0 else -1

theorem Outcome.code_eq_zero {outcome : Outcome} : outcome.code = 0 ↔ outcome = .done := by
  cases outcome <;> decide

/-- The accesses an update makes of a PMIC that reads so. -/
def Outcome.accesses (outcome : Outcome) (field : Field (BitVec 8) 8) (old : BitVec 8) :
    List PmicAccess :=
  match outcome with
  | .done => [.read field.reg true, .write field.reg (merge old field.val field.mask) true]
  | .readFails => [.read field.reg false]
  | .writeFails =>
      [.read field.reg true, .write field.reg (merge old field.val field.mask) false]

/-- One update is one attempt at its field. -/
theorem pmicUpdate_eq (outcome : Outcome) (field : Field (BitVec 8) 8) (pmic : Stpmic2) :
    pmicUpdate outcome field.reg field.val field.mask pmic =
      (outcome.code,
        { regs := attempts [(field, outcome = .done)] pmic.regs
          accesses := pmic.accesses ++ outcome.accesses field (pmic.regs field.reg) }) := by
  cases outcome <;>
    simp [pmicUpdate, pmicRead, pmicWrite, Outcome.code, Outcome.accesses, attempts,
      Field.set, merge]

/-- An access of the update fails exactly where the update does. -/
theorem Outcome.accesses_ok (outcome : Outcome) (field : Field (BitVec 8) 8) (old : BitVec 8) :
    (∀ access ∈ outcome.accesses field old, access.ok) ↔ outcome = .done := by
  cases outcome <;> simp [Outcome.accesses, PmicAccess.ok]

section

variable (outcomes : Nat → Outcome)

@[simp] theorem Bringup.update_length (b : Bringup) (reg val mask : BitVec 8) :
    (b.update outcomes reg val mask).updates.length = b.updates.length + 1 := by
  simp [Bringup.update]

theorem Bringup.updateAll_cons (b : Bringup) (field : Field (BitVec 8) 8)
    (fields : List (Field (BitVec 8) 8)) :
    b.updateAll outcomes (field :: fields) =
      (b.update outcomes field.reg field.val field.mask).updateAll outcomes fields := rfl

/-- A list of updates is a list of attempts. -/
theorem Bringup.updateAll_regs (b : Bringup) (fields : List (Field (BitVec 8) 8)) :
    (b.updateAll outcomes fields).pmic.regs =
      attempts (tried outcomes b.updates.length fields) b.pmic.regs := by
  induction fields generalizing b with
  | nil => rfl
  | cons field fields ih =>
      rw [updateAll_cons, ih, update_length]
      have split : tried outcomes b.updates.length (field :: fields) =
          [(field, decide (outcomes b.updates.length = .done))] ++
            tried outcomes (b.updates.length + 1) fields := rfl
      rw [split, attempts_append]
      simp only [update, pmicUpdate_eq]

/-- The codes returned are those of the outcomes. -/
theorem Bringup.updateAll_updates (b : Bringup) (fields : List (Field (BitVec 8) 8)) :
    (b.updateAll outcomes fields).updates =
      b.updates ++ (fields.zipIdx b.updates.length).map fun numbered =>
        (numbered.1, (outcomes numbered.2).code) := by
  induction fields generalizing b with
  | nil => simp [updateAll]
  | cons field fields ih =>
      rw [updateAll_cons, ih, update_length]
      simp [update, pmicUpdate_eq]

/-- The accumulated error is zero where every update is done. -/
theorem Bringup.updateAll_err (b : Bringup) (fields : List (Field (BitVec 8) 8)) :
    (b.updateAll outcomes fields).err = 0 ↔
      b.err = 0 ∧ ∀ attempt ∈ tried outcomes b.updates.length fields, attempt.2 = true := by
  induction fields generalizing b with
  | nil => simp [updateAll, tried]
  | cons field fields ih =>
      rw [updateAll_cons, ih, update_length]
      simp [update, pmicUpdate_eq, tried, Int32.or_eq_zero_iff, Outcome.code_eq_zero, and_assoc]

/-- The accesses all succeed where every update is done. -/
theorem Bringup.updateAll_accesses (b : Bringup) (fields : List (Field (BitVec 8) 8)) :
    (∀ access ∈ (b.updateAll outcomes fields).pmic.accesses, access.ok) ↔
      (∀ access ∈ b.pmic.accesses, access.ok) ∧
        ∀ attempt ∈ tried outcomes b.updates.length fields, attempt.2 = true := by
  induction fields generalizing b with
  | nil => simp [updateAll, tried]
  | cons field fields ih =>
      rw [updateAll_cons, ih, update_length]
      have first := Outcome.accesses_ok (outcomes b.updates.length) field
        (b.pmic.regs field.reg)
      simp only [update, pmicUpdate_eq, tried, List.mem_append, or_imp, forall_and, first,
        List.forall_mem_cons, decide_eq_true_eq, and_assoc]

end

/-! ### The whole bring-up -/

/-- The fields the bring-up is for: the enable bit of every always-on rail, then
the voltage of LDO3 and of BUCK6, and their enable bits. -/
def targets : List (Field (BitVec 8) 8) :=
  [⟨0x21, 0x01, 1⟩, ⟨0x26, 0x01, 1⟩, ⟨0x2B, 0x01, 1⟩, ⟨0x30, 0x01, 1⟩, ⟨0x35, 0x01, 1⟩,
   ⟨0x3F, 0x01, 1⟩, ⟨0x4C, 0x01, 1⟩, ⟨0x4F, 0x01, 1⟩, ⟨0x55, 0x01, 1⟩, ⟨0x5E, 0x01, 1⟩,
   ⟨0x61, 0x01, 1⟩, ⟨0x52, 0x3E, 9 <<< 1⟩, ⟨0x39, 0x7F, 60⟩, ⟨0x52, 0x01, 1⟩, ⟨0x3A, 0x01, 1⟩]

/-- The enable bit of a rail. -/
def Rail.enable (r : Rail) : Field (BitVec 8) 8 where
  reg := railEnCr r
  mask := railEn
  val := railEn

/-- The loop over the table updates the always-on rails. -/
theorem foldl_enableAlwaysOn (outcomes : Nat → Outcome) (table : List Rail) (b : Bringup) :
    table.foldl (Bringup.enableAlwaysOn outcomes) b =
      b.updateAll outcomes ((table.filter (·.alwaysOn)).map Rail.enable) := by
  induction table generalizing b with
  | nil => rfl
  | cons r table ih =>
      rw [List.foldl_cons, ih]
      cases always : r.alwaysOn with
      | true =>
          rw [List.filter_cons_of_pos always, List.map_cons,
            Bringup.updateAll_cons]
          simp [Bringup.enableAlwaysOn, always, Rail.enable]
      | false => simp [Bringup.enableAlwaysOn, always]

/-- The bring-up is the update of the targets in turn. -/
theorem pmicInitRails_eq (outcomes : Nat → Outcome) (pmic : Stpmic2) :
    pmicInitRails outcomes pmic =
      Bringup.updateAll outcomes { err := 0, pmic, updates := [] } targets := by
  have table : targets = (rails.filter (·.alwaysOn)).map Rail.enable ++
      [⟨ldo3MainCr, ldoVoltMask, ldoIdx vdd1DdrMv <<< 1⟩,
       ⟨buck6MainCr1, buckVoltMask, buckLowIdx vdd2DdrMv⟩,
       ⟨ldo3MainCr, railEn, railEn⟩,
       ⟨buck6MainCr1 + 1, railEn, railEn⟩] := by decide
  rw [table, Bringup.updateAll, List.foldl_append]
  simp only [pmicInitRails, foldl_enableAlwaysOn, Bringup.updateAll, List.foldl_cons,
    List.foldl_nil]

theorem targets_apart : targets.Pairwise Field.Apart := by decide

theorem tried_fst (outcomes : Nat → Outcome) (n : Nat) (fields : List (Field (BitVec 8) 8)) :
    (tried outcomes n fields).map Prod.fst = fields := by
  induction fields generalizing n with
  | nil => rfl
  | cons field fields ih => simp [tried, ih]

/-- Every target is tried, and nothing else. -/
theorem mem_iff_tried {outcomes : Nat → Outcome} {n : Nat}
    {fields : List (Field (BitVec 8) 8)} {field : Field (BitVec 8) 8} :
    field ∈ fields ↔ ∃ done, (field, done) ∈ tried outcomes n fields := by
  conv => lhs; rw [← tried_fst outcomes n fields]
  simp

/-- All updates are done where all outcomes are. -/
theorem tried_done_iff (outcomes : Nat → Outcome) (n : Nat) (fields : List (Field (BitVec 8) 8)) :
    (∀ attempt ∈ tried outcomes n fields, attempt.2 = true) ↔
      ∀ k < fields.length, outcomes (n + k) = .done := by
  induction fields generalizing n with
  | nil => simp [tried]
  | cons field fields ih =>
      have later : (∀ k < fields.length, outcomes (n + 1 + k) = .done) ↔
          ∀ k < fields.length, outcomes (n + (k + 1)) = .done := by
        simp only [Nat.add_assoc, Nat.add_comm 1]
      rw [tried, List.forall_mem_cons, ih, decide_eq_true_eq, later, List.length_cons,
        Nat.forall_lt_succ_left, Nat.add_zero]

/-- The voltage bits of a rail. -/
def Rail.voltage (r : Rail) : Field (BitVec 8) 8 where
  reg := r.cr
  mask := if r.kind = .buck then buckVoltMask else ldoVoltMask
  val := 0

/-- The bypass bit of an LDO. -/
def Rail.bypass (r : Rail) : Field (BitVec 8) 8 where
  reg := r.cr
  mask := ldoBypass
  val := 0

/-- A bring-up that tells the truth and touches the targets alone, where the
updates of the targets come out so. -/
structure TouchesTargets (outcomes : Nat → Outcome) (before : BitVec 8 → BitVec 8)
    (finish : Bringup) : Prop where
  complete : finish.err = 0 ↔ ∀ k < targets.length, outcomes k = .done
  truthful : finish.err = 0 ↔ ∀ access ∈ finish.pmic.accesses, access.ok
  frame : ∀ other : Field (BitVec 8) 8, (∀ target ∈ targets, target.Apart other) →
    other.get finish.pmic.regs = other.get before
  target : ∀ target ∈ targets,
    target.get finish.pmic.regs = target.get before ∨ target.Holds finish.pmic.regs
  success : finish.err = 0 → ∀ target ∈ targets, target.Holds finish.pmic.regs
  voltages : ∀ r ∈ rails, r.alwaysOn →
    r.voltage.get finish.pmic.regs = r.voltage.get before
  bypasses : ∀ r ∈ rails, r.kind ≠ .buck →
    r.bypass.get finish.pmic.regs = r.bypass.get before

/-- No target shares a bit with the voltage of an always-on rail. -/
theorem targets_apart_voltage :
    ∀ r ∈ rails, r.alwaysOn → ∀ target ∈ targets, target.Apart r.voltage := by decide

/-- No target shares a bit with the bypass of an LDO. -/
theorem targets_apart_bypass :
    ∀ r ∈ rails, r.kind ≠ .buck → ∀ target ∈ targets, target.Apart r.bypass := by decide

section

variable (outcomes : Nat → Outcome) (regs : BitVec 8 → BitVec 8)

/-- The registers the bring-up leaves are those of the attempts at the targets. -/
theorem pmicInitRails_regs :
    (pmicInitRails outcomes (.ofRegs regs)).pmic.regs =
      attempts (tried outcomes 0 targets) regs := by
  rw [pmicInitRails_eq, Bringup.updateAll_regs]
  rfl

theorem pmicInitRails_err :
    (pmicInitRails outcomes (.ofRegs regs)).err = 0 ↔
      ∀ attempt ∈ tried outcomes 0 targets, attempt.2 = true := by
  rw [pmicInitRails_eq, Bringup.updateAll_err]
  simp

theorem pmicInitRails_accesses :
    (∀ access ∈ (pmicInitRails outcomes (.ofRegs regs)).pmic.accesses, access.ok) ↔
      ∀ attempt ∈ tried outcomes 0 targets, attempt.2 = true := by
  rw [pmicInitRails_eq, Bringup.updateAll_accesses]
  simp [Stpmic2.ofRegs]

/-- What the bring-up makes of one target. -/
theorem pmicInitRails_target {target : Field (BitVec 8) 8} {done : Bool}
    (member : (target, done) ∈ tried outcomes 0 targets) :
    if done then target.Holds (pmicInitRails outcomes (.ofRegs regs)).pmic.regs
    else target.get (pmicInitRails outcomes (.ofRegs regs)).pmic.regs = target.get regs := by
  have apart : (tried outcomes 0 targets).Pairwise fun first second =>
      first.1.Apart second.1 := by
    apply List.pairwise_map.mp
    rw [tried_fst]
    exact targets_apart
  rw [pmicInitRails_regs]
  exact attempts_field apart member regs

/-- Bits apart from the targets are left alone. -/
theorem pmicInitRails_frame {other : Field (BitVec 8) 8}
    (apart : ∀ target ∈ targets, target.Apart other) :
    other.get (pmicInitRails outcomes (.ofRegs regs)).pmic.regs = other.get regs := by
  rw [pmicInitRails_regs]
  apply attempts_apart
  intro attempt member
  exact apart attempt.1 (mem_iff_tried.mpr ⟨attempt.2, member⟩)

/-- Whatever the PMIC holds and whichever accesses fail, the bring-up returns
zero exactly where none failed, sets nothing but the targets, and sets all of
them where it returns zero. -/
theorem pmicInitRails_touches :
    TouchesTargets outcomes regs (pmicInitRails outcomes (.ofRegs regs)) where
  complete := by
    rw [pmicInitRails_err, tried_done_iff]
    simp only [Nat.zero_add]
  truthful := by rw [pmicInitRails_err, pmicInitRails_accesses]
  frame other apart := pmicInitRails_frame outcomes regs apart
  target target member := by
    obtain ⟨done, attempt⟩ := mem_iff_tried.mp member
    have left := pmicInitRails_target outcomes regs attempt
    cases done with
    | true => exact .inr left
    | false => exact .inl left
  success zero target member := by
    obtain ⟨done, attempt⟩ := mem_iff_tried.mp member
    have all_done := (pmicInitRails_err outcomes regs).mp zero _ attempt
    have left := pmicInitRails_target outcomes regs attempt
    rw [if_pos all_done] at left
    exact left
  voltages r member always :=
    pmicInitRails_frame outcomes regs (targets_apart_voltage r member always)
  bypasses r member ldo :=
    pmicInitRails_frame outcomes regs (targets_apart_bypass r member ldo)

end

end Mp257Fsbl.Pmic
