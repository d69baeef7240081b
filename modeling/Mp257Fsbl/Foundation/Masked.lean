/-
Module: Mp257Fsbl.Foundation.Masked
Purpose: Bit fields of a register file, and lists of attempted updates of them:
  what an update sets, what it leaves alone, and what is left after a list of
  attempts some of which fail.
Trusted boundary: none
Main exports: merge, Field, Field.Apart, attempts, attempts_apart, attempts_field
-/
import Mathlib.Data.List.Basic
import Mathlib.Logic.Function.Basic

namespace Mp257Fsbl.Foundation

variable {ι : Type*} {w : Nat}

/-- Replace the bits under a mask. -/
def merge (old val mask : BitVec w) : BitVec w := (old &&& ~~~mask) ||| (val &&& mask)

theorem getElem_merge (old val mask : BitVec w) (bit : Nat) (inside : bit < w) :
    (merge old val mask)[bit] = if mask[bit] then val[bit] else old[bit] := by
  simp only [merge, BitVec.getElem_or, BitVec.getElem_and, BitVec.getElem_not]
  cases mask[bit] <;> simp

/-- Under the mask the new value is the one given. -/
@[simp] theorem merge_and_mask (old val mask : BitVec w) :
    merge old val mask &&& mask = val &&& mask := by
  ext bit inside
  simp only [BitVec.getElem_and, getElem_merge]
  cases mask[bit] <;> simp

/-- Bits apart from the mask keep their value. -/
theorem merge_and_of_disjoint {mask other : BitVec w} (disjoint : mask &&& other = 0)
    (old val : BitVec w) : merge old val mask &&& other = old &&& other := by
  ext bit inside
  have apart : (mask[bit] && other[bit]) = false := by
    rw [← BitVec.getElem_and, disjoint]
    exact BitVec.getElem_zero inside
  simp only [BitVec.getElem_and, getElem_merge]
  cases masked : mask[bit] with
  | false => simp
  | true =>
      rw [masked, Bool.true_and] at apart
      simp [apart]

/-- Bits under the mask have the value given. -/
theorem merge_and_of_inside {mask other : BitVec w} (inside : mask &&& other = other)
    (old val : BitVec w) : merge old val mask &&& other = val &&& other := by
  calc
    merge old val mask &&& other = merge old val mask &&& mask &&& other := by
      rw [BitVec.and_assoc, inside]
    _ = val &&& mask &&& other := by rw [merge_and_mask]
    _ = val &&& other := by rw [BitVec.and_assoc, inside]

theorem or_and_eq_zero {val set mask : BitVec w} (off : val &&& mask = 0)
    (apart : set &&& mask = 0) : (val ||| set) &&& mask = 0 := by
  ext bit inside
  have first : (val &&& mask)[bit] = (0 : BitVec w)[bit] := by rw [off]
  have second : (set &&& mask)[bit] = (0 : BitVec w)[bit] := by rw [apart]
  simp only [BitVec.getElem_and, BitVec.getElem_or] at first second ⊢
  rw [Bool.and_or_distrib_right, first, second, Bool.or_self]

theorem and_not_and_self (val mask : BitVec w) : val &&& ~~~mask &&& mask = 0 := by
  rw [BitVec.and_assoc]
  simp

theorem or_and_self (val mask : BitVec w) : (val ||| mask) &&& mask = mask := by
  ext bit inside
  simp only [BitVec.getElem_and, BitVec.getElem_or]
  cases mask[bit] <;> simp

/-! ### Fields -/

/-- The bits of a register under a mask, and a value for them. -/
structure Field (ι : Type*) (w : Nat) where
  reg : ι
  mask : BitVec w
  val : BitVec w
deriving DecidableEq

namespace Field

/-- What the register file holds in the field's bits. -/
def get (field : Field ι w) (regs : ι → BitVec w) : BitVec w := regs field.reg &&& field.mask

/-- The field holds its value. -/
def Holds (field : Field ι w) (regs : ι → BitVec w) : Prop :=
  field.get regs = field.val &&& field.mask

/-- The two fields share no bit. -/
def Apart (first second : Field ι w) : Prop :=
  first.reg ≠ second.reg ∨ first.mask &&& second.mask = 0

instance [DecidableEq ι] (first second : Field ι w) : Decidable (first.Apart second) :=
  inferInstanceAs (Decidable (_ ∨ _))

theorem Apart.symm {first second : Field ι w} (apart : first.Apart second) :
    second.Apart first := by
  cases apart with
  | inl registers => exact .inl registers.symm
  | inr masks => exact .inr (by rw [BitVec.and_comm]; exact masks)

variable [DecidableEq ι]

/-- The read-modify-write that gives the field its value. -/
def set (field : Field ι w) (regs : ι → BitVec w) : ι → BitVec w :=
  Function.update regs field.reg (merge (regs field.reg) field.val field.mask)

theorem holds_set (field : Field ι w) (regs : ι → BitVec w) : field.Holds (field.set regs) := by
  simp [Holds, get, set]

/-- Setting a field leaves every field apart from it alone. -/
theorem get_set_of_apart {field other : Field ι w} (apart : field.Apart other)
    (regs : ι → BitVec w) : other.get (field.set regs) = other.get regs := by
  simp only [get, set]
  by_cases same : other.reg = field.reg
  · rw [same, Function.update_self]
    exact merge_and_of_disjoint (apart.resolve_left fun differ => differ same.symm) _ _
  · rw [Function.update_of_ne same]

end Field

/-! ### Attempts -/

variable [DecidableEq ι]

/-- Set the fields in turn, except where the attempt fails. -/
def attempts : List (Field ι w × Bool) → (ι → BitVec w) → (ι → BitVec w)
  | [], regs => regs
  | (field, true) :: rest, regs => attempts rest (field.set regs)
  | (_, false) :: rest, regs => attempts rest regs

theorem attempts_append (first second : List (Field ι w × Bool)) (regs : ι → BitVec w) :
    attempts (first ++ second) regs = attempts second (attempts first regs) := by
  induction first generalizing regs with
  | nil => rfl
  | cons attempt rest ih =>
      obtain ⟨field, done⟩ := attempt
      cases done with
      | true => exact ih (field.set regs)
      | false => exact ih regs

/-- The frame: a field apart from all that were tried is unchanged. -/
theorem attempts_apart {tried : List (Field ι w × Bool)} {other : Field ι w}
    (apart : ∀ attempt ∈ tried, attempt.1.Apart other) (regs : ι → BitVec w) :
    other.get (attempts tried regs) = other.get regs := by
  induction tried generalizing regs with
  | nil => rfl
  | cons attempt rest ih =>
      obtain ⟨field, done⟩ := attempt
      have others : ∀ attempt ∈ rest, attempt.1.Apart other := fun attempt member =>
        apart attempt (List.mem_cons_of_mem _ member)
      cases done with
      | true =>
          have first : field.Apart other := apart _ List.mem_cons_self
          simp only [attempts]
          rw [ih others, Field.get_set_of_apart first]
      | false => exact ih others regs

/-- Of fields apart from one another, each holds its value where its attempt
succeeds and is unchanged where it fails. -/
theorem attempts_field {tried : List (Field ι w × Bool)}
    (apart : tried.Pairwise fun first second => first.1.Apart second.1)
    {field : Field ι w} {done : Bool} (member : (field, done) ∈ tried) (regs : ι → BitVec w) :
    if done then field.Holds (attempts tried regs)
    else field.get (attempts tried regs) = field.get regs := by
  induction tried generalizing regs with
  | nil => cases member
  | cons attempt rest ih =>
      obtain ⟨before, after⟩ := List.pairwise_cons.mp apart
      cases List.mem_cons.mp member with
      | inl same =>
          subst same
          have kept := attempts_apart fun attempt member => (before attempt member).symm
          cases done with
          | true =>
              simp only [attempts, if_true, Field.Holds]
              rw [kept]
              exact field.holds_set regs
          | false =>
              simp only [attempts, Bool.false_eq_true, if_false]
              exact kept regs
      | inr later =>
          obtain ⟨first, tried⟩ := attempt
          cases tried with
          | false => exact ih after later regs
          | true =>
              have unchanged := Field.get_set_of_apart (before _ later) regs
              have rest := ih after later (first.set regs)
              rw [unchanged] at rest
              exact rest

end Mp257Fsbl.Foundation
