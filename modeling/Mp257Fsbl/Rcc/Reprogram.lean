/-
Module: Mp257Fsbl.Rcc.Reprogram
Purpose: The dividers of a PLL are written only while it is stopped: the order of
  the register accesses of both PLL bring-ups, for every answer of the hardware.
Trusted boundary: none
Main exports: InOrder, Pll1Stopped, Pll2Stopped, Reprogrammed,
  pll_reprogrammed_stopped
-/
import Mathlib.Order.Basic
import Mp257Fsbl.Foundation.Log
import Mp257Fsbl.Foundation.Masked
import Mp257Fsbl.Rcc.Pll

namespace Mp257Fsbl.Rcc

open Mp257Fsbl.Foundation

abbrev Log := List (Access Nat Word)

/-! ### What an access does -/

def Sets (ctl : Nat) (en : Word) : Access Nat Word → Prop
  | .read _ _ => False
  | .write addr val => addr = ctl ∧ val &&& en ≠ 0

def Clears (ctl : Nat) (en : Word) : Access Nat Word → Prop
  | .read _ _ => False
  | .write addr val => addr = ctl ∧ val &&& en = 0

def Reads (addr : Nat) (as : Word → Bool) : Access Nat Word → Prop
  | .read other val => other = addr ∧ as val = true
  | .write _ _ => False

def Writes (addrs : List Nat) : Access Nat Word → Prop
  | .read _ _ => False
  | .write addr _ => addr ∈ addrs

/-- The enable bit was cleared when `ready` held, and has not been set since. -/
def Cleared (ctl : Nat) (en : Word) (ready : Log → Prop) : Log → Prop :=
  Since (fun before access => ready before ∧ Clears ctl en access)
    fun access => ¬ Sets ctl en access

/-- A register was read so when `ready` held, and the enable bit has not been set
since. -/
def Observed (ctl : Nat) (en : Word) (addr : Nat) (as : Word → Bool) (ready : Log → Prop) :
    Log → Prop :=
  Since (fun before access => ready before ∧ Reads addr as access)
    fun access => ¬ Sets ctl en access

/-! ### A driver that keeps the order -/

section

variable (dividers : List Nat) (stopped : Log → Prop)

def InOrder (log : Log) : Prop :=
  EveryEntry (fun before access => Writes dividers access → stopped before) log

/-- The order has been kept and the log is as it should be. -/
def At (stage : ClockRegs → Log → Prop) (s : Traced Nat Word ClockRegs) : Prop :=
  InOrder dividers stopped s.trace ∧ stage s.state s.trace

/-- A code was given up with, and the order has been kept. -/
def GaveUp (code : Int) (s : Traced Nat Word ClockRegs) : Prop :=
  code ≠ 0 ∧ InOrder dividers stopped s.trace

variable {dividers stopped}

theorem InOrder.nil : InOrder dividers stopped [] := everyEntry_nil _

theorem InOrder.read {log : Log} (earlier : InOrder dividers stopped log) (addr : Nat)
    (val : Word) : InOrder dividers stopped (log ++ [.read addr val]) :=
  everyEntry_append_single.mpr ⟨earlier, fun writes => writes.elim⟩

theorem InOrder.write {log : Log} (earlier : InOrder dividers stopped log) {addr : Nat}
    (allowed : addr ∈ dividers → stopped log) (val : Word) :
    InOrder dividers stopped (log ++ [.write addr val]) :=
  everyEntry_append_single.mpr ⟨earlier, allowed⟩

/-- A read-modify-write, with what it makes of the stage. -/
theorem at_modify {addr : Nat} {change : Word → Word} {x : Word}
    {stage next : ClockRegs → Log → Prop}
    (allowed : addr ∈ dividers → ∀ regs log val, stage regs log →
      stopped (log ++ [.read addr val]))
    (transfer : ∀ regs log, stage regs log →
      let val := (clockDevice.read addr x regs).1
      next (clockDevice.write addr (change val) regs)
        (log ++ [.read addr val] ++ [.write addr (change val)])) :
    Triple (At dividers stopped stage) (mmioModify clockDevice addr change x)
      (fun _ => At dividers stopped next) (GaveUp dividers stopped) := by
  apply Triple.mmioModify
  rintro s ⟨ordered, here⟩
  constructor
  · apply (ordered.read addr _).write
    intro divider
    exact allowed divider _ _ _ here
  · exact transfer s.state s.trace here

/-- A wait, with what its reads make of the stage. -/
theorem at_waitFor {addr : Nat} {stop : Word → Bool} {env : Nat → Word} {tries : Nat}
    {code : Int} {stage next : ClockRegs → Log → Prop} (nonzero : code ≠ 0)
    (again : ∀ regs log val, stage regs log → stage regs (log ++ [.read addr val]))
    (found : ∀ regs log val, stage regs log → stop val = true →
      next regs (log ++ [.read addr val])) :
    Triple (At dividers stopped stage) (waitFor clockDevice addr stop env tries code)
      (fun _ => At dividers stopped next) (GaveUp dividers stopped) := by
  apply Triple.waitFor
  · rintro s x ⟨ordered, here⟩
    split
    · rename_i stops
      exact ⟨ordered.read addr _, found _ _ _ here stops⟩
    · exact ⟨ordered.read addr _, again _ _ _ here⟩
  · rintro s ⟨ordered, -⟩
    exact ⟨nonzero, ordered⟩

/-! ### Stages -/

/-- Accesses that set no enable bit and write no divider keep the stage. -/
def Kept (keep : Access Nat Word → Prop) (stage : Log → Prop) : Prop :=
  ∀ log access, keep access → stage log → stage (log ++ [access])

theorem kept_since (start : Log → Access Nat Word → Prop) (keep : Access Nat Word → Prop) :
    Kept keep (Since start keep) := fun _ _ keeps since => since.snoc keeps

theorem kept_true (keep : Access Nat Word → Prop) : Kept keep fun _ => True :=
  fun _ _ _ _ => trivial

theorem kept_exists (keep meets : Access Nat Word → Prop) :
    Kept keep fun log => ∃ access ∈ log, meets access := by
  rintro log last - ⟨access, member, holds⟩
  exact ⟨access, List.mem_append_left _ member, holds⟩

theorem kept_and {keep : Access Nat Word → Prop} {first second : Log → Prop}
    (one : Kept keep first) (two : Kept keep second) :
    Kept keep fun log => first log ∧ second log :=
  fun log access keeps here => ⟨one log access keeps here.1, two log access keeps here.2⟩

/-- The register holds a clear enable bit, and the log is as it should be. -/
def Off (ctl : Nat) (en : Word) (stage : Log → Prop) (regs : ClockRegs) (log : Log) : Prop :=
  regs ctl &&& en = 0 ∧ stage log

/-- A stage of the log alone. -/
def Any (stage : Log → Prop) (_ : ClockRegs) (log : Log) : Prop := stage log

variable {ctl : Nat} {en : Word}

/-- The enable bit reads back as it was written. -/
theorem clockDevice_read_and (control : statusBits ctl &&& en = 0) (x : Word) (regs : ClockRegs) :
    (clockDevice.read ctl x regs).1 &&& en = regs ctl &&& en :=
  merge_and_of_disjoint control (regs ctl) x

/-- A wait while the enable bit is clear. -/
theorem off_waitFor {addr : Nat} {stop : Word → Bool} {env : Nat → Word} {tries : Nat}
    {code : Int} {stage : Log → Prop} (nonzero : code ≠ 0)
    (kept : Kept (fun access => ¬ Sets ctl en access) stage) :
    Triple (At dividers stopped (Off ctl en stage))
      (waitFor clockDevice addr stop env tries code)
      (fun _ => At dividers stopped (Off ctl en (Observed ctl en addr stop stage)))
      (GaveUp dividers stopped) := by
  apply at_waitFor nonzero
  · rintro regs log val ⟨off, here⟩
    exact ⟨off, kept _ _ (fun sets => sets) here⟩
  · rintro regs log val ⟨off, here⟩ stops
    exact ⟨off, Since.now ⟨here, rfl, stops⟩⟩

/-- A read-modify-write that leaves the enable bit clear. A divider may be
written where the stage is the one to do so. -/
theorem off_modify {addr : Nat} {change : Word → Word} {x : Word} {stage : Log → Prop}
    (control : statusBits ctl &&& en = 0)
    (kept : Kept (fun access => ¬ Sets ctl en access) stage)
    (allowed : addr ∈ dividers → ∀ log, stage log → stopped log)
    (off : addr = ctl → ∀ val : Word, val &&& en = 0 → change val &&& en = 0) :
    Triple (At dividers stopped (Off ctl en stage)) (mmioModify clockDevice addr change x)
      (fun _ => At dividers stopped
        (Off ctl en fun log => stage log ∧ ∃ access ∈ log, Writes [addr] access))
      (GaveUp dividers stopped) := by
  apply at_modify
  · rintro divider regs log val ⟨-, here⟩
    exact allowed divider _ (kept _ _ (fun sets => sets) here)
  · rintro regs log ⟨clear, here⟩ val
    have written : addr = ctl → change val &&& en = 0 := by
      intro same
      apply off same
      subst same
      rw [← clear]
      exact clockDevice_read_and control x regs
    have quiet : ¬ Sets ctl en (.write addr (change val)) :=
      fun sets => sets.2 (written sets.1)
    refine ⟨?_, kept _ _ quiet (kept _ _ (fun sets => sets) here), .write addr (change val),
      by simp, List.mem_singleton_self addr⟩
    by_cases same : ctl = addr
    · simpa [clockDevice, same] using written same.symm
    · simpa [clockDevice, same] using clear

/-- Clearing the enable bit. -/
theorem any_clrbits {x : Word} {stage : Log → Prop} (control : ctl ∉ dividers)
    (kept : Kept (fun access => ¬ Writes dividers access) stage) :
    Triple (At dividers stopped (Any stage)) (mmioClrbits32 clockDevice ctl en x)
      (fun _ => At dividers stopped (Off ctl en (Cleared ctl en stage)))
      (GaveUp dividers stopped) := by
  apply at_modify (fun divider => absurd divider control)
  intro regs log here val
  constructor
  · simpa [clockDevice] using and_not_and_self val en
  · exact Since.now ⟨kept _ _ (fun writes => writes) here, rfl, and_not_and_self val en⟩

/-- A read-modify-write of another register than the dividers. -/
theorem any_modify {addr : Nat} {change : Word → Word} {x : Word} {stage : Log → Prop}
    (other : addr ∉ dividers) (kept : Kept (fun access => ¬ Writes dividers access) stage) :
    Triple (At dividers stopped (Any stage)) (mmioModify clockDevice addr change x)
      (fun _ => At dividers stopped (Any stage)) (GaveUp dividers stopped) := by
  apply at_modify (fun divider => absurd divider other)
  intro regs log here val
  exact kept _ _ other (kept _ _ (fun writes => writes) here)

/-- A wait at a stage of the log alone. -/
theorem any_waitFor {addr : Nat} {stop : Word → Bool} {env : Nat → Word} {tries : Nat}
    {code : Int} {stage next : Log → Prop} (nonzero : code ≠ 0)
    (kept : Kept (fun access => ¬ Writes dividers access) stage)
    (found : ∀ log val, stage log → stop val = true → next (log ++ [.read addr val])) :
    Triple (At dividers stopped (Any stage)) (waitFor clockDevice addr stop env tries code)
      (fun _ => At dividers stopped (Any next)) (GaveUp dividers stopped) :=
  at_waitFor nonzero (fun _ _ _ here => kept _ _ (fun writes => writes) here)
    fun _ _ _ here stops => found _ _ here stops

theorem any_wait {addr : Nat} {stop : Word → Bool} {env : Nat → Word} {tries : Nat}
    {code : Int} {stage : Log → Prop} (nonzero : code ≠ 0)
    (kept : Kept (fun access => ¬ Writes dividers access) stage) :
    Triple (At dividers stopped (Any stage)) (waitFor clockDevice addr stop env tries code)
      (fun _ => At dividers stopped (Any stage)) (GaveUp dividers stopped) :=
  any_waitFor nonzero kept fun _ _ here _ => kept _ _ (fun writes => writes) here

theorem off_keep {addr : Nat} {change : Word → Word} {x : Word} {stage : Log → Prop}
    (control : statusBits ctl &&& en = 0)
    (kept : Kept (fun access => ¬ Sets ctl en access) stage)
    (allowed : addr ∈ dividers → ∀ log, stage log → stopped log)
    (off : addr = ctl → ∀ val : Word, val &&& en = 0 → change val &&& en = 0) :
    Triple (At dividers stopped (Off ctl en stage)) (mmioModify clockDevice addr change x)
      (fun _ => At dividers stopped (Off ctl en stage)) (GaveUp dividers stopped) :=
  (off_modify control kept allowed off).afterAs
    fun _ _ here => ⟨here.1, here.2.1, here.2.2.1⟩

/-- Setting the enable bit ends the stage; what nothing can undo stays. -/
theorem off_setbits {x : Word} {stage past : Log → Prop} (control : ctl ∉ dividers) (bit : en ≠ 0)
    (implied : ∀ log, stage log → past log) (kept : Kept (fun _ => True) past) :
    Triple (At dividers stopped (Off ctl en stage)) (mmioSetbits32 clockDevice ctl en x)
      (fun _ => At dividers stopped
        (Any fun log => past log ∧ ∃ access ∈ log, Sets ctl en access))
      (GaveUp dividers stopped) := by
  apply at_modify (fun divider => absurd divider control)
  rintro regs log ⟨-, here⟩ val
  refine ⟨kept _ _ trivial (kept _ _ trivial (implied _ here)), .write ctl (val ||| en), by simp,
    rfl, ?_⟩
  rw [or_and_self]
  exact bit

end

/-! ### PLL2 -/

def pll2Dividers : List Nat := [rccPll2cfgr2, rccPll2cfgr6, rccPll2cfgr7]

/-- PLL2 has been switched off, then reported stopped, then ready to change. -/
def Pll2Stopped : Log → Prop :=
  Observed rccPll2cfgr1 pllCfgr1Pllen rccPll2cfgr1 (fun v => v &&& pllCfgr1Ckrefst ≠ 0)
    (Observed rccPll2cfgr1 pllCfgr1Pllen rccPll2cfgr1 (fun v => v &&& pllCfgr1Pllrdy = 0)
      (Cleared rccPll2cfgr1 pllCfgr1Pllen fun _ => True))

/-- The last access reads the lock, behind the write that switched PLL2 on. -/
def Pll2Locked (log : Log) : Prop :=
  ∃ front val, log = front ++ [.read rccPll2cfgr1 val] ∧ val &&& pllCfgr1Pllrdy ≠ 0 ∧
    ∃ access ∈ front, Sets rccPll2cfgr1 pllCfgr1Pllen access

theorem rccPll2Init_triple (env : Pll2Env Word) :
    Triple (At pll2Dividers Pll2Stopped (Any fun _ => True)) (rccPll2Init clockDevice env)
      (fun _ => At pll2Dividers Pll2Stopped (Any Pll2Locked))
      (GaveUp pll2Dividers Pll2Stopped) := by
  have control : statusBits rccPll2cfgr1 &&& pllCfgr1Pllen = 0 := by decide
  have outside : rccPll2cfgr1 ∉ pll2Dividers := by decide
  have stopped : Kept (fun access => ¬ Sets rccPll2cfgr1 pllCfgr1Pllen access) Pll2Stopped :=
    kept_since _ _
  have modify {addr : Nat} {change : Word → Word} {x : Word} (other : addr ≠ rccPll2cfgr1) :
      Triple (At pll2Dividers Pll2Stopped (Off rccPll2cfgr1 pllCfgr1Pllen Pll2Stopped))
        (mmioModify clockDevice addr change x)
        (fun _ => At pll2Dividers Pll2Stopped (Off rccPll2cfgr1 pllCfgr1Pllen Pll2Stopped))
        (GaveUp pll2Dividers Pll2Stopped) :=
    off_keep control stopped (fun _ _ here => here) fun same => absurd same other
  -- the HSE, and PLL2 off
  refine (any_modify (by decide) (kept_true _)).bind fun _ => ?_
  refine (any_wait (by decide) (kept_true _)).bind fun _ => ?_
  refine (any_clrbits outside (kept_true _)).bind fun _ => ?_
  refine (off_waitFor (by decide) (kept_since _ _)).bind fun _ => ?_
  -- the reference
  refine (off_keep control (kept_since _ _) (fun divider => absurd divider (by decide))
    fun same => absurd same (by decide)).bind fun _ => ?_
  refine (off_waitFor (by decide) (kept_since _ _)).bind fun _ => ?_
  -- the dividers
  refine (modify (by decide)).bind fun _ => ?_
  refine (modify (by decide)).bind fun _ => ?_
  refine (modify (by decide)).bind fun _ => ?_
  refine (modify (by decide)).bind fun _ => ?_
  refine (off_keep control stopped (fun _ _ here => here)
    fun _ _ off => or_and_eq_zero off (by decide)).bind fun _ => ?_
  refine (modify (by decide)).bind fun _ => ?_
  refine (modify (by decide)).bind fun _ => ?_
  refine (modify (by decide)).bind fun _ => ?_
  refine (modify (by decide)).bind fun _ => ?_
  refine (modify (by decide)).bind fun _ => ?_
  refine (modify (by decide)).bind fun _ => ?_
  -- PLL2 on, and its lock
  refine (off_setbits outside (by decide) (fun _ _ => trivial) (kept_true _)).bind fun _ => ?_
  apply any_waitFor (by decide) (kept_and (kept_true _) (kept_exists _ _))
  intro log val on locked
  exact ⟨log, val, rfl, by simpa using locked, on.2⟩

/-! ### PLL1 -/

def pll1Dividers : List Nat := [a35SsPllFreq1, a35SsPllFreq2]

/-- The cluster has been seen on the bypass clock. -/
def Pll1Parked (log : Log) : Prop :=
  ∃ access ∈ log, Reads a35SsChgclkreq (fun v => v &&& a35ChgclkreqAck ≠ 0) access

/-- With the cluster parked PLL1 has been powered down, then reported unlocked. -/
def Pll1Stopped : Log → Prop :=
  Observed a35SsPllEnable a35PllEnablePd a35SsPllEnable (fun v => v &&& a35PllEnableLockp = 0)
    (Cleared a35SsPllEnable a35PllEnablePd Pll1Parked)

/-- The lock has been read behind the writes of the dividers. -/
def Pll1Locked : Log → Prop :=
  Since
    (fun before access => Reads a35SsPllEnable (fun v => v &&& a35PllEnableLockp ≠ 0) access ∧
      (∃ earlier ∈ before, Writes [a35SsPllFreq1] earlier) ∧
      ∃ earlier ∈ before, Writes [a35SsPllFreq2] earlier)
    fun access => ¬ Writes pll1Dividers access

/-- The last access reads the cluster off the bypass clock, with PLL1 locked. -/
def Pll1Switched (log : Log) : Prop :=
  ∃ front val, log = front ++ [.read a35SsChgclkreq val] ∧ val &&& a35ChgclkreqAck = 0 ∧
    Pll1Locked front

/-- The switch to the bypass clock ends with the cluster seen on it. -/
theorem a35Bypass_triple {stopped : Log → Prop} (env : Pll1Env Word) :
    Triple (At pll1Dividers stopped (Any fun _ => True)) (a35Bypass clockDevice env)
      (fun _ => At pll1Dividers stopped (Any Pll1Parked)) (GaveUp pll1Dividers stopped) := by
  have outside : a35SsChgclkreq ∉ pll1Dividers := by decide
  have divsel : Triple (At pll1Dividers stopped (Any fun _ => True))
      (a35ClearDivsel clockDevice env) (fun _ => At pll1Dividers stopped (Any fun _ => True))
      (GaveUp pll1Dividers stopped) := by
    have read : Triple (At pll1Dividers stopped (Any fun _ => True))
        (mmioRead clockDevice a35SsChgclkreq env.divsel)
        (fun _ => At pll1Dividers stopped (Any fun _ => True)) (GaveUp pll1Dividers stopped) :=
      Triple.mmioRead clockDevice fun s here => ⟨here.1.read _ _, trivial⟩
    apply read.bind
    intro req
    by_cases set : req &&& a35ChgclkreqDivsel ≠ 0
    · rw [if_pos set]
      apply (any_modify outside (kept_true _)).bind
      intro _
      exact any_wait (by decide) (kept_true _)
    · rw [if_neg set]
      exact Triple.pure fun s here => here
  have read : Triple (At pll1Dividers stopped (Any fun _ => True))
      (mmioRead clockDevice a35SsChgclkreq env.parked)
      (fun req => At pll1Dividers stopped
        (Any fun log => req &&& a35ChgclkreqAck ≠ 0 → Pll1Parked log))
      (GaveUp pll1Dividers stopped) := by
    apply Triple.mmioRead
    intro s here
    refine ⟨here.1.read _ _, fun parked => ⟨_, List.mem_append_right _ List.mem_cons_self, rfl, ?_⟩⟩
    simpa using parked
  apply read.bind
  intro req
  by_cases running : req &&& a35ChgclkreqAck = 0
  · rw [if_pos running]
    have start : Triple
        (At pll1Dividers stopped (Any fun log => req &&& a35ChgclkreqAck ≠ 0 → Pll1Parked log))
        (a35ClearDivsel clockDevice env) (fun _ => At pll1Dividers stopped (Any fun _ => True))
        (GaveUp pll1Dividers stopped) :=
      divsel.weaken (fun s here => ⟨here.1, trivial⟩) (fun _ _ here => here)
        (fun _ _ here => here)
    apply start.bind
    intro _
    apply (any_modify outside (kept_true _)).bind
    intro _
    apply any_waitFor (by decide) (kept_true _)
    intro log val _ acked
    exact ⟨_, List.mem_append_right _ List.mem_cons_self, rfl, acked⟩
  · rw [if_neg running]
    exact Triple.pure fun s here => ⟨here.1, here.2 running⟩

theorem rccA35Pll1Init_triple (env : Pll1Env Word) :
    Triple (At pll1Dividers Pll1Stopped (Any fun _ => True)) (rccA35Pll1Init clockDevice env)
      (fun _ => At pll1Dividers Pll1Stopped (Any Pll1Switched))
      (GaveUp pll1Dividers Pll1Stopped) := by
  have control : statusBits a35SsPllEnable &&& a35PllEnablePd = 0 := by decide
  have outside : a35SsPllEnable ∉ pll1Dividers := by decide
  have stopped : Kept (fun access => ¬ Sets a35SsPllEnable a35PllEnablePd access) Pll1Stopped :=
    kept_since _ _
  -- the HSE, and the cluster on the bypass clock
  refine (any_modify (by decide) (kept_true _)).bind fun _ => ?_
  refine (any_wait (by decide) (kept_true _)).bind fun _ => ?_
  refine (a35Bypass_triple env).bind fun _ => ?_
  -- PLL1 off
  refine (any_modify outside (kept_exists _ _)).bind fun _ => ?_
  refine (any_clrbits outside (kept_exists _ _)).bind fun _ => ?_
  refine (off_waitFor (by decide) (kept_since _ _)).bind fun _ => ?_
  -- the reference and the dividers
  refine (off_keep control stopped (fun _ _ here => here)
    fun same => absurd same (by decide)).bind fun _ => ?_
  refine (off_keep control stopped (fun _ _ here => here)
    fun same => absurd same (by decide)).bind fun _ => ?_
  refine (off_modify control stopped (fun _ _ here => here)
    fun same => absurd same (by decide)).bind fun _ => ?_
  refine (off_keep control (kept_and stopped (kept_exists _ _)) (fun _ _ here => here.1)
    fun same => absurd same (by decide)).bind fun _ => ?_
  refine (off_modify control (kept_and stopped (kept_exists _ _)) (fun _ _ here => here.1)
    fun same => absurd same (by decide)).bind fun _ => ?_
  -- PLL1 on, and its lock
  refine (off_setbits outside (by decide) (fun _ here => ⟨here.1.2, here.2⟩)
    (kept_and (kept_exists _ _) (kept_exists _ _))).bind fun _ => ?_
  have locked : Triple
      (At pll1Dividers Pll1Stopped (Any fun log =>
        ((∃ access ∈ log, Writes [a35SsPllFreq1] access) ∧
          ∃ access ∈ log, Writes [a35SsPllFreq2] access) ∧
        ∃ access ∈ log, Sets a35SsPllEnable a35PllEnablePd access))
      (waitFor clockDevice a35SsPllEnable (fun v => v &&& a35PllEnableLockp ≠ 0) env.lock
        divTimeout (-4))
      (fun _ => At pll1Dividers Pll1Stopped (Any Pll1Locked))
      (GaveUp pll1Dividers Pll1Stopped) := by
    apply any_waitFor (by decide)
      (kept_and (kept_and (kept_exists _ _) (kept_exists _ _)) (kept_exists _ _))
    intro log val here stops
    exact Since.now ⟨⟨rfl, stops⟩, here.1⟩
  refine locked.bind fun _ => ?_
  refine (any_modify outside (kept_since _ _)).bind fun _ => ?_
  refine (any_modify (by decide) (kept_since _ _)).bind fun _ => ?_
  apply any_waitFor (by decide) (kept_since _ _)
  intro log val here released
  exact ⟨log, val, rfl, by simpa using released, here⟩

/-! ### Both bring-ups -/

theorem rccPll2Init_within (env : Pll2Env Word) :
    AccessesWithin (rccPll2Init clockDevice env) (4 * divTimeout + 30) := by
  apply AccessesWithin.mono
  · apply AccessesWithin.modify_then
    apply AccessesWithin.wait_then
    apply AccessesWithin.modify_then
    apply AccessesWithin.wait_then
    apply AccessesWithin.modify_then
    apply AccessesWithin.wait_then
    iterate 12 apply AccessesWithin.modify_then
    exact AccessesWithin.waitFor _ _ _ _ _ _
  · omega

theorem a35Bypass_within (env : Pll1Env Word) :
    AccessesWithin (a35Bypass clockDevice env) (2 * divTimeout + 6) := by
  have divsel : AccessesWithin (a35ClearDivsel clockDevice env) (divTimeout + 3) := by
    apply AccessesWithin.mono
    · apply (AccessesWithin.mmioRead clockDevice _ _).bind
      intro req
      apply AccessesWithin.ite
      · apply AccessesWithin.modify_then
        exact AccessesWithin.waitFor _ _ _ _ _ _
      · exact AccessesWithin.pure _
    · omega
  apply AccessesWithin.mono
  · apply (AccessesWithin.mmioRead clockDevice _ _).bind
    intro req
    apply AccessesWithin.ite
    · apply divsel.bind
      intro _
      apply AccessesWithin.modify_then
      exact AccessesWithin.waitFor _ _ _ _ _ _
    · exact AccessesWithin.pure _
  · omega

theorem rccA35Pll1Init_within (env : Pll1Env Word) :
    AccessesWithin (rccA35Pll1Init clockDevice env) (6 * divTimeout + 30) := by
  apply AccessesWithin.mono
  · apply AccessesWithin.modify_then
    apply AccessesWithin.wait_then
    apply (a35Bypass_within env).bind
    intro _
    iterate 2 apply AccessesWithin.modify_then
    apply AccessesWithin.wait_then
    iterate 6 apply AccessesWithin.modify_then
    apply AccessesWithin.wait_then
    iterate 2 apply AccessesWithin.modify_then
    exact AccessesWithin.waitFor _ _ _ _ _ _
  · omega

/-- A bring-up that ends, writes the dividers only where it may, and reports
success only where the PLL is ready. -/
structure Reprogrammed (dividers : List Nat) (stopped ready : Log → Prop) (bound : Nat)
    (run : Except Int Unit × Traced Nat Word ClockRegs) : Prop where
  inOrder : InOrder dividers stopped run.2.trace
  success : returned run.1 = 0 → ready run.2.trace
  ends : run.2.trace.length ≤ bound

/-- From a triple to the whole run. -/
theorem reprogrammed_of_triple {dividers : List Nat} {stopped ready : Log → Prop} {bound : Nat}
    {code : Driver Nat Word ClockRegs Int Unit}
    (triple : Triple (At dividers stopped (Any fun _ => True)) code
      (fun _ => At dividers stopped (Any ready)) (GaveUp dividers stopped))
    (within : AccessesWithin code bound) (regs : ClockRegs) :
    Reprogrammed dividers stopped ready bound (code { state := regs, trace := [] }) := by
  have few := within { state := regs, trace := [] }
  rw [List.length_nil, Nat.zero_add] at few
  have start : At dividers stopped (Any fun _ => True) { state := regs, trace := [] } :=
    ⟨InOrder.nil, trivial⟩
  rcases triple.ends start with ⟨_, s, run, ordered, done⟩ | ⟨e, s, run, nonzero, ordered⟩
  · rw [run] at few ⊢
    exact ⟨ordered, fun _ => done, few⟩
  · rw [run] at few ⊢
    exact ⟨ordered, fun zero => absurd zero nonzero, few⟩

/-- For every content of the registers and every answer of the status bits, both
bring-ups end after a bounded number of accesses, write a divider only to a
stopped PLL, and return zero only where the PLL has been seen ready. -/
theorem pll_reprogrammed_stopped (regs : ClockRegs) (env1 : Pll1Env Word) (env2 : Pll2Env Word) :
    Reprogrammed pll1Dividers Pll1Stopped Pll1Switched (6 * divTimeout + 30)
        (rccA35Pll1Init clockDevice env1 { state := regs, trace := [] }) ∧
      Reprogrammed pll2Dividers Pll2Stopped Pll2Locked (4 * divTimeout + 30)
        (rccPll2Init clockDevice env2 { state := regs, trace := [] }) :=
  ⟨reprogrammed_of_triple (rccA35Pll1Init_triple env1) (rccA35Pll1Init_within env1) regs,
    reprogrammed_of_triple (rccPll2Init_triple env2) (rccPll2Init_within env2) regs⟩

end Mp257Fsbl.Rcc
