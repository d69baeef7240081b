/-
Module: Mp257Fsbl.Rcc.Bypass
Purpose: Whether a failed rcc_a35_pll1_init leaves the request for the bypass clock
  set, against a cluster that follows the request at any later time.
Trusted boundary: human-reviewed model of CHGCLKREQ, where software alone changes REQ
  and ACK follows it
Main exports: BypassEnv, BypassState, bypassDevice, KeepsBypass, ReachesRelease,
  rccA35Pll1Init_keepsBypass_iff
-/
import Mp257Fsbl.Foundation.Masked
import Mp257Fsbl.Rcc.Pll

namespace Mp257Fsbl.Rcc

open Mp257Fsbl.Foundation

/-! ### The cluster -/

/-- What the hardware does up to a read: the other status bits, and whether the
cluster has followed REQ. -/
structure BypassEnv where
  status : Word
  follows : Bool

structure BypassState where
  regs : ClockRegs
  ack : Bool

/-- The bit REQ as it was last written. -/
def BypassState.req (s : BypassState) : Bool := s.regs a35SsChgclkreq &&& a35ChgclkreqReq ≠ 0

/-- The cluster after a time in which it may have followed REQ. -/
def BypassState.settle (s : BypassState) (follows : Bool) : BypassState :=
  { s with ack := if follows then s.req else s.ack }

/-- CHGCLKREQ shows the bit ACK of the cluster; all else is as in `clockDevice`. -/
def bypassDevice : Device Nat Word BypassEnv BypassState where
  read addr env s :=
    if addr = a35SsChgclkreq then
      let s := s.settle env.follows
      let status := merge env.status (if s.ack then a35ChgclkreqAck else 0) a35ChgclkreqAck
      ((clockDevice.read addr status s.regs).1, s)
    else ((clockDevice.read addr env.status s.regs).1, s)
  write addr val s := { s with regs := clockDevice.write addr val s.regs }

/-- At the start REQ and ACK agree. -/
def BypassState.start (regs : ClockRegs) : BypassState where
  regs := regs
  ack := regs a35SsChgclkreq &&& a35ChgclkreqReq ≠ 0

/-- A read has shown the cluster on the bypass clock. -/
def Established (trace : List (Access Nat Word)) : Prop :=
  ∃ val, .read a35SsChgclkreq val ∈ trace ∧ val &&& a35ChgclkreqAck ≠ 0

/-- A negative return behind an established bypass leaves REQ set. -/
def KeepsBypass (run : Except Int Unit × Traced Nat Word BypassState) : Prop :=
  returned run.1 < 0 → Established run.2.trace → run.2.state.req = true

/-! ### When the last wait is reached -/

section

variable (env : Pll1Env BypassEnv) (regs : ClockRegs)

def HseComes : Prop := ∃ k < divTimeout, (env.hse k).status &&& ocrdyHserdy ≠ 0

/-- The cluster is on the bypass clock, or withdraws the divider select where it
is set and then follows the request. -/
def BypassComes : Prop :=
  regs a35SsChgclkreq &&& a35ChgclkreqReq ≠ 0 ∨
    (regs a35SsChgclkreq &&& a35ChgclkreqDivsel ≠ 0 →
      ∃ k < divTimeout, (env.divselack k).status &&& a35ChgclkreqDivselack = 0) ∧
    ∃ k < divTimeout, (env.ack k).follows = true

def UnlockComes : Prop := ∃ k < divTimeout, (env.unlock k).status &&& a35PllEnableLockp = 0

def LockComes : Prop := ∃ k < divTimeout, (env.lock k).status &&& a35PllEnableLockp ≠ 0

/-- All waits before the last one end well. -/
def ReachesRelease : Prop :=
  HseComes env ∧ BypassComes env regs ∧ UnlockComes env ∧ LockComes env

/-- The cluster leaves the bypass clock within the last wait. -/
def ReleaseComes : Prop := ∃ k < divTimeout, (env.release k).follows = true

end

/-! ### Reads -/

/-- A status bit is what the hardware says. -/
theorem clockDevice_read_status {addr : Nat} {bit : Word} (inside : statusBits addr &&& bit = bit)
    (status : Word) (regs : ClockRegs) :
    (clockDevice.read addr status regs).1 &&& bit = status &&& bit :=
  merge_and_of_inside inside (regs addr) status

/-- A control bit reads back. -/
theorem clockDevice_read_control {addr : Nat} {bit : Word} (apart : statusBits addr &&& bit = 0)
    (status : Word) (regs : ClockRegs) :
    (clockDevice.read addr status regs).1 &&& bit = regs addr &&& bit :=
  merge_and_of_disjoint apart (regs addr) status

theorem bypassDevice_read_other {addr : Nat} (other : addr ≠ a35SsChgclkreq) (env : BypassEnv)
    (s : BypassState) :
    bypassDevice.read addr env s = ((clockDevice.read addr env.status s.regs).1, s) := if_neg other

theorem bypassDevice_read_ack (env : BypassEnv) (s : BypassState) :
    (bypassDevice.read a35SsChgclkreq env s).1 &&& a35ChgclkreqAck ≠ 0 ↔
      (s.settle env.follows).ack = true := by
  have shown : (bypassDevice.read a35SsChgclkreq env s).1 &&& a35ChgclkreqAck =
      (if (s.settle env.follows).ack then a35ChgclkreqAck else 0) &&& a35ChgclkreqAck :=
    (clockDevice_read_status (by decide) _ _).trans (merge_and_mask _ _ _)
  rw [shown]
  cases (s.settle env.follows).ack <;> decide

theorem bypassDevice_read_divsel (env : BypassEnv) (s : BypassState) :
    (bypassDevice.read a35SsChgclkreq env s).1 &&& a35ChgclkreqDivsel =
      s.regs a35SsChgclkreq &&& a35ChgclkreqDivsel :=
  clockDevice_read_control (by decide) _ _

theorem bypassDevice_read_req (env : BypassEnv) (s : BypassState) :
    (bypassDevice.read a35SsChgclkreq env s).1 &&& a35ChgclkreqReq =
      s.regs a35SsChgclkreq &&& a35ChgclkreqReq :=
  clockDevice_read_control (by decide) _ _

theorem bypassDevice_read_divselack (env : BypassEnv) (s : BypassState) :
    (bypassDevice.read a35SsChgclkreq env s).1 &&& a35ChgclkreqDivselack =
      env.status &&& a35ChgclkreqDivselack :=
  (clockDevice_read_status (by decide) _ _).trans (merge_and_of_disjoint (by decide) _ _)

@[simp] theorem bypassDevice_write_ack (addr : Nat) (val : Word) (s : BypassState) :
    (bypassDevice.write addr val s).ack = s.ack := rfl

@[simp] theorem bypassDevice_write_self (addr : Nat) (val : Word) (s : BypassState) :
    (bypassDevice.write addr val s).regs addr = val := if_pos rfl

theorem bypassDevice_write_other {addr other : Nat} (differ : other ≠ addr) (val : Word)
    (s : BypassState) : (bypassDevice.write addr val s).regs other = s.regs other := if_neg differ

theorem established_snoc (trace : List (Access Nat Word)) (access : Access Nat Word) :
    Established (trace ++ [access]) ↔
      Established trace ∨
        ∃ val, access = .read a35SsChgclkreq val ∧ val &&& a35ChgclkreqAck ≠ 0 := by
  simp only [Established, List.mem_append, List.mem_singleton, or_and_right, exists_or, eq_comm]

/-! ### Stages -/

/-- What a stage says of CHGCLKREQ, of the cluster, and of what has been read. -/
abbrev Stage := Word → Bool → Prop → Prop

def Shows (stage : Stage) (s : Traced Nat Word BypassState) : Prop :=
  stage (s.state.regs a35SsChgclkreq) s.state.ack (Established s.trace)

/-- The request is set and the cluster has been seen on the bypass clock. -/
def Parked : Stage := fun req ack seen => req &&& a35ChgclkreqReq ≠ 0 ∧ ack = true ∧ seen

/-- The request has been withdrawn, and the cluster has not followed yet. -/
def Released : Stage := fun req ack seen => req &&& a35ChgclkreqReq = 0 ∧ ack = true ∧ seen

/-- The request is set, and the cluster has not followed yet. -/
def Asking : Stage := fun req ack seen => req &&& a35ChgclkreqReq ≠ 0 ∧ ack = false ∧ ¬ seen

/-- There is no request, and the cluster runs. -/
def Running : Stage := fun req ack seen => req &&& a35ChgclkreqReq = 0 ∧ ack = false ∧ ¬ seen

section

variable {stage : Stage} {failed : Int → Traced Nat Word BypassState → Prop} {addr : Nat}

theorem established_other (other : addr ≠ a35SsChgclkreq) (trace : List (Access Nat Word))
    (val : Word) : Established (trace ++ [.read addr val]) ↔ Established trace := by
  rw [established_snoc]
  constructor
  · rintro (seen | ⟨_, same, -⟩)
    · exact seen
    · cases same
      exact absurd rfl other
  · exact Or.inl

theorem established_write (trace : List (Access Nat Word)) (val : Word) :
    Established (trace ++ [.write addr val]) ↔ Established trace := by
  rw [established_snoc]
  simp

/-- Reads of other registers say nothing of the cluster. -/
theorem shows_read_other (other : addr ≠ a35SsChgclkreq) (s : Traced Nat Word BypassState)
    (env : BypassEnv) (here : Shows stage s) :
    Shows stage (s.afterRead bypassDevice addr env) := by
  have seen := propext (established_other other s.trace
    (clockDevice.read addr env.status s.state.regs).1)
  simp only [Shows, Traced.afterRead, bypassDevice_read_other other, seen]
  exact here

/-- Nor do read-modify-writes of them. -/
theorem shows_modify_other (other : addr ≠ a35SsChgclkreq) {change : Word → Word}
    {env : BypassEnv} :
    Triple (Shows stage) (mmioModify bypassDevice addr change env) (fun _ => Shows stage)
      failed := by
  apply Triple.mmioModify
  intro s here
  have read := shows_read_other other s env here
  simp only [Shows, Traced.afterWrite, propext (established_write _ _), bypassDevice_write_ack,
    bypassDevice_write_other other.symm]
  exact read

/-- A wait for a status bit of another register. -/
theorem shows_wait_other (happened : BypassEnv → Prop) (other : addr ≠ a35SsChgclkreq)
    {stop : Word → Bool}
    (decides : ∀ env regs, stop (clockDevice.read addr env.status regs).1 = true ↔ happened env)
    {env : Nat → BypassEnv} {code : Int} :
    Triple (Shows stage) (waitFor bypassDevice addr stop env divTimeout code)
      (fun _ s => Shows stage s ∧ ∃ k < divTimeout, happened (env k))
      (fun e s => e = code ∧ Shows stage s ∧ ∀ k < divTimeout, ¬ happened (env k)) := by
  apply Triple.waitFor_env
  · intro s x _
    rw [bypassDevice_read_other other]
    exact decides x s.state.regs
  · exact fun s x here _ => shows_read_other other s x here
  · exact fun s x here _ => shows_read_other other s x here

/-! Accesses to CHGCLKREQ itself. -/

/-- The cluster with this request, after a time in which it may have followed. -/
def settled (follows : Bool) (req : Word) (ack : Bool) : Bool :=
  if follows then req &&& a35ChgclkreqReq ≠ 0 else ack

/-- A read shows the cluster as it has settled. -/
theorem shows_read_chg {next : Stage} {env : BypassEnv} {s : Traced Nat Word BypassState}
    (step : ∀ req ack seen, stage req ack seen →
      next req (settled env.follows req ack) (seen ∨ settled env.follows req ack = true))
    (here : Shows stage s) : Shows next (s.afterRead bypassDevice a35SsChgclkreq env) := by
  have ack_eq : (s.state.settle env.follows).ack =
      settled env.follows (s.state.regs a35SsChgclkreq) s.state.ack := rfl
  have seen : Established (s.afterRead bypassDevice a35SsChgclkreq env).trace ↔
      Established s.trace ∨
        settled env.follows (s.state.regs a35SsChgclkreq) s.state.ack = true := by
    rw [Traced.afterRead, established_snoc, ← ack_eq, ← bypassDevice_read_ack]
    simp
  rw [Shows, propext seen]
  exact step _ _ _ here

/-- So does the read of a read-modify-write, whose write then changes the request. -/
theorem shows_modify_chg {next : Stage} {change : Word → Word} {env : BypassEnv}
    (step : ∀ req ack seen val, stage req ack seen →
      val &&& a35ChgclkreqReq = req &&& a35ChgclkreqReq →
      next (change val) (settled env.follows req ack)
        (seen ∨ settled env.follows req ack = true)) :
    Triple (Shows stage) (mmioModify bypassDevice a35SsChgclkreq change env)
      (fun _ => Shows next) failed := by
  apply Triple.mmioModify
  intro s here
  have read := bypassDevice_read_req env s.state
  generalize (bypassDevice.read a35SsChgclkreq env s.state).1 = val at read ⊢
  have kept : Shows (fun req ack seen => stage req ack seen ∧
      val &&& a35ChgclkreqReq = req &&& a35ChgclkreqReq) s := ⟨here, read⟩
  have shown : Shows (fun _ => next (change val)) (s.afterRead bypassDevice a35SsChgclkreq env) :=
    shows_read_chg (fun req ack seen here => step req ack seen val here.1 here.2) kept
  simp only [Shows, Traced.afterWrite, propext (established_write _ _), bypassDevice_write_ack,
    bypassDevice_write_self]
  exact shown

/-- A wait of which each read shows the cluster. -/
theorem shows_wait_chg (happened : BypassEnv → Prop) {next : Stage} {stop : Word → Bool}
    (decides : ∀ s x, Shows stage s →
      (stop (bypassDevice.read a35SsChgclkreq x s.state).1 = true ↔ happened x))
    (found : ∀ x req ack seen, stage req ack seen → happened x →
      next req (settled x.follows req ack) (seen ∨ settled x.follows req ack = true))
    (again : ∀ x req ack seen, stage req ack seen → ¬ happened x →
      stage req (settled x.follows req ack) (seen ∨ settled x.follows req ack = true))
    {env : Nat → BypassEnv} {code : Int} :
    Triple (Shows stage) (waitFor bypassDevice a35SsChgclkreq stop env divTimeout code)
      (fun _ s => Shows next s ∧ ∃ k < divTimeout, happened (env k))
      (fun e s => e = code ∧ Shows stage s ∧ ∀ k < divTimeout, ¬ happened (env k)) := by
  apply Triple.waitFor_env bypassDevice decides
  · intro s x here now
    exact shows_read_chg (fun req ack seen here => found x req ack seen here now) here
  · intro s x here later
    exact shows_read_chg (fun req ack seen here => again x req ack seen here later) here

end

/-! ### The switch to the bypass clock -/

section

variable (env : Pll1Env BypassEnv) (regs : ClockRegs)

/-- Nothing has been done to the cluster. -/
def Fresh : Stage := fun req ack seen =>
  req = regs a35SsChgclkreq ∧ ack = decide (req &&& a35ChgclkreqReq ≠ 0) ∧ ¬ seen

/-- There is no request, with the divider select as it was. -/
def FreshRunning : Stage := fun req ack seen =>
  req = regs a35SsChgclkreq ∧ Running req ack seen

theorem settled_running {follows : Bool} {req : Word} {ack : Bool} {seen : Prop}
    (here : Running req ack seen) : settled follows req ack = false := by
  obtain ⟨clear, run, -⟩ := here
  cases follows with
  | true => simpa [settled] using clear
  | false => exact run

/-- The cluster cannot change while REQ and ACK agree. -/
theorem running_read {follows : Bool} {req : Word} {ack : Bool} {seen : Prop}
    (here : Running req ack seen) :
    Running req (settled follows req ack) (seen ∨ settled follows req ack = true) := by
  rw [settled_running here]
  exact ⟨here.1, rfl, by simpa using here.2.2⟩

/-- The divider select is withdrawn while the cluster runs. -/
theorem clearDivsel_triple :
    Triple (Shows (FreshRunning regs)) (a35ClearDivsel bypassDevice env)
      (fun _ s => Shows Running s ∧ (regs a35SsChgclkreq &&& a35ChgclkreqDivsel ≠ 0 →
        ∃ k < divTimeout, (env.divselack k).status &&& a35ChgclkreqDivselack = 0))
      (fun e s => e < 0 ∧ Shows Running s ∧ ¬ (regs a35SsChgclkreq &&& a35ChgclkreqDivsel ≠ 0 →
        ∃ k < divTimeout, (env.divselack k).status &&& a35ChgclkreqDivselack = 0)) := by
  have read : Triple (Shows (FreshRunning regs))
      (mmioRead bypassDevice a35SsChgclkreq env.divsel)
      (fun val s => Shows Running s ∧
        val &&& a35ChgclkreqDivsel = regs a35SsChgclkreq &&& a35ChgclkreqDivsel)
      (fun (_ : Int) _ => False) := by
    apply Triple.mmioRead
    intro s here
    refine ⟨shows_read_chg (fun _ _ _ here => running_read here.2) here, ?_⟩
    rw [bypassDevice_read_divsel, here.1]
  apply read.sure.bind
  intro val
  apply Triple.given
  intro same
  by_cases set : val &&& a35ChgclkreqDivsel ≠ 0
  · rw [if_pos set]
    have withdrawn : Triple (Shows Running)
        (mmioClrbits32 bypassDevice a35SsChgclkreq a35ChgclkreqDivsel (env.update 1))
        (fun _ => Shows Running) (fun (_ : Int) _ => False) := by
      apply shows_modify_chg
      intro req ack seen val here kept
      obtain ⟨-, ack_eq, seen_eq⟩ := @running_read (env.update 1).follows _ _ _ here
      refine ⟨?_, ack_eq, seen_eq⟩
      rw [BitVec.and_assoc, BitVec.and_comm _ a35ChgclkreqReq, ← BitVec.and_assoc, kept, here.1]
      exact BitVec.zero_and
    apply withdrawn.sure.bind
    intro _
    have waited := @shows_wait_chg Running
      (fun x => x.status &&& a35ChgclkreqDivselack = 0) Running
      (fun v => v &&& a35ChgclkreqDivselack = 0)
      (fun s x _ => by rw [← bypassDevice_read_divselack x s.state]; simp)
      (fun x _ _ _ here _ => running_read here) (fun x _ _ _ here _ => running_read here)
      env.divselack (-2)
    refine waited.endsAs (fun _ s here => ⟨here.1, fun _ => here.2⟩) ?_
    rintro e s ⟨rfl, here, never⟩
    refine ⟨by decide, here, fun comes => ?_⟩
    obtain ⟨k, inside, now⟩ := comes (same ▸ set)
    exact never k inside now
  · rw [if_neg set]
    exact Triple.pure fun s here => ⟨here, fun other => absurd (same.symm ▸ other) set⟩

/-- A set request, or none that the cluster could follow. -/
theorem settled_asking {follows : Bool} {req : Word} {ack : Bool} {seen : Prop}
    (here : Asking req ack seen) : settled follows req ack = follows := by
  obtain ⟨set, run, -⟩ := here
  cases follows with
  | true => simpa [settled] using set
  | false => exact run

/-- Asking leaves the cluster parked where it follows in time, and asking where it
does not. -/
theorem ack_triple :
    Triple (Shows Asking)
      (waitFor bypassDevice a35SsChgclkreq (fun v => v &&& a35ChgclkreqAck ≠ 0) env.ack
        divTimeout (-3))
      (fun _ s => Shows Parked s ∧ ∃ k < divTimeout, (env.ack k).follows = true)
      (fun e s => e = -3 ∧ Shows Asking s ∧ ∀ k < divTimeout, ¬ (env.ack k).follows = true) := by
  apply shows_wait_chg (fun x => x.follows = true)
  · intro s x here
    have ack_eq : (s.state.settle x.follows).ack = x.follows := settled_asking here
    rw [← ack_eq, ← bypassDevice_read_ack]
    simp
  · intro x req ack seen here now
    rw [settled_asking here, now]
    exact ⟨here.1, rfl, Or.inr rfl⟩
  · intro x req ack seen here later
    rw [settled_asking here]
    exact ⟨here.1, by simpa using later, by simpa [later] using here.2.2⟩

/-- The first check finds out whether there is a request. -/
theorem parked_triple :
    Triple (Shows (Fresh regs)) (mmioRead bypassDevice a35SsChgclkreq env.parked)
      (fun val s =>
        if val &&& a35ChgclkreqAck = 0 then
          Shows (FreshRunning regs) s ∧ regs a35SsChgclkreq &&& a35ChgclkreqReq = 0
        else Shows Parked s ∧ regs a35SsChgclkreq &&& a35ChgclkreqReq ≠ 0)
      (fun (_ : Int) _ => False) := by
  apply Triple.mmioRead
  intro s here
  obtain ⟨same, agree, unseen⟩ := here
  have shown := bypassDevice_read_ack env.parked s.state
  have settles : (s.state.settle env.parked.follows).ack = s.state.ack := by
    rw [agree]
    cases env.parked.follows with
    | true => rfl
    | false => exact agree
  rw [settles, agree, decide_eq_true_iff] at shown
  by_cases request : s.state.regs a35SsChgclkreq &&& a35ChgclkreqReq = 0
  · have quiet : (bypassDevice.read a35SsChgclkreq env.parked s.state).1 &&& a35ChgclkreqAck = 0 :=
      Decidable.not_not.mp fun other => shown.mp other request
    have running : Shows (FreshRunning regs) s :=
      ⟨same, request, by rw [agree]; simpa using request, unseen⟩
    rw [if_pos quiet, ← same]
    exact ⟨shows_read_chg (fun req ack seen here => ⟨here.1, running_read here.2⟩) running, request⟩
  · rw [if_neg (shown.mpr request), ← same]
    refine ⟨⟨request, ?_, ?_⟩, request⟩
    · exact settles.trans (agree.trans (by simpa using request))
    · exact (established_snoc _ _).mpr (Or.inr ⟨_, rfl, shown.mpr request⟩)

/-- The switch ends with the cluster parked where the hardware does its part; where
it gives up, the request is set if the cluster has been seen parked. -/
theorem a35Bypass_stages :
    Triple (Shows (Fresh regs)) (a35Bypass bypassDevice env)
      (fun _ s => Shows Parked s ∧ BypassComes env regs)
      (fun e s => e < 0 ∧ ¬ BypassComes env regs ∧ (Established s.trace → s.state.req = true)) := by
  apply (parked_triple env regs).sure.bind
  intro val
  by_cases running : val &&& a35ChgclkreqAck = 0
  · simp only [running, if_true]
    apply Triple.given
    intro noRequest
    have unseen {s : Traced Nat Word BypassState} (here : Shows Running s) :
        Established s.trace → s.state.req = true := fun seen => absurd seen here.2.2
    refine ((clearDivsel_triple env regs).failedAs ?_).bind fun _ => ?_
    · rintro e s ⟨negative, here, never⟩
      refine ⟨negative, ?_, unseen here⟩
      rintro (request | ⟨comes, -⟩)
      · exact request noRequest
      · exact never comes
    apply Triple.given
    intro withdrawn
    have asked : Triple (Shows Running)
        (mmioSetbits32 bypassDevice a35SsChgclkreq a35ChgclkreqReq (env.update 2))
        (fun _ => Shows Asking) (fun (_ : Int) _ => False) := by
      apply shows_modify_chg
      intro req ack seen val here _
      obtain ⟨-, ack_eq, seen_eq⟩ := @running_read (env.update 2).follows _ _ _ here
      refine ⟨?_, ack_eq, seen_eq⟩
      rw [or_and_self]
      decide
    apply asked.sure.bind
    intro _
    refine (ack_triple env).endsAs (fun _ s here => ⟨here.1, Or.inr ⟨withdrawn, here.2⟩⟩) ?_
    rintro e s ⟨rfl, here, never⟩
    refine ⟨by decide, ?_, fun _ => by simpa [BypassState.req] using here.1⟩
    rintro (request | ⟨-, k, inside, now⟩)
    · exact request noRequest
    · exact never k inside now
  · simp only [running, if_false]
    exact Triple.pure fun s here => ⟨here.1, Or.inl here.2⟩

/-! ### The whole bring-up -/

/-- What a code given up with stands for: either the last wait was not reached, and
the request is set if the cluster has been seen parked; or the last wait ran out,
and the request is withdrawn. -/
def GaveUpOn (e : Int) (s : Traced Nat Word BypassState) : Prop :=
  e < 0 ∧
    (¬ ReachesRelease env regs ∧ (Established s.trace → s.state.req = true) ∨
      ReachesRelease env regs ∧ ¬ ReleaseComes env ∧ Established s.trace ∧ s.state.req = false)

/-- Parked, the request stays set through the waits for PLL1. -/
theorem pll_wait_triple {addr : Nat} (happened : BypassEnv → Prop)
    (other : addr ≠ a35SsChgclkreq) {stop : Word → Bool}
    (decides : ∀ env regs, stop (clockDevice.read addr env.status regs).1 = true ↔ happened env)
    (reads : Nat → BypassEnv) {code : Int} (negative : code < 0)
    (needed : ReachesRelease env regs → ∃ k < divTimeout, happened (reads k)) :
    Triple (Shows Parked) (waitFor bypassDevice addr stop reads divTimeout code)
      (fun _ s => Shows Parked s ∧ ∃ k < divTimeout, happened (reads k)) (GaveUpOn env regs) := by
  refine (shows_wait_other happened other decides).failedAs ?_
  rintro e s ⟨rfl, here, never⟩
  refine ⟨negative, Or.inl ⟨fun reaches => ?_, fun _ => by simpa [BypassState.req] using here.1⟩⟩
  obtain ⟨k, inside, now⟩ := needed reaches
  exact never k inside now

/-- The last wait leaves the request withdrawn, whether or not it runs out. -/
theorem release_triple :
    Triple (Shows Released)
      (waitFor bypassDevice a35SsChgclkreq (fun v => v &&& a35ChgclkreqAck = 0) env.release
        divTimeout (-5))
      (fun _ _ => ReleaseComes env)
      (fun e s => e = -5 ∧ Shows Released s ∧ ¬ ReleaseComes env) := by
  have follows_eq {follows : Bool} {req : Word} {ack : Bool} {seen : Prop}
      (here : Released req ack seen) : settled follows req ack = !follows := by
    obtain ⟨clear, still, -⟩ := here
    cases follows with
    | true => simpa [settled] using clear
    | false => exact still
  have waited := @shows_wait_chg Released (fun x => x.follows = true) (fun _ _ _ => True)
    (fun v => v &&& a35ChgclkreqAck = 0)
    (by
      intro s x here
      have ack_eq : (s.state.settle x.follows).ack = !x.follows := follows_eq here
      have shown := bypassDevice_read_ack x s.state
      rw [ack_eq] at shown
      cases followed : x.follows <;> simpa [followed] using shown)
    (fun _ _ _ _ _ _ => trivial)
    (by
      intro x req ack seen here later
      rw [follows_eq here]
      exact ⟨here.1, by simpa using later, Or.inl here.2.2⟩)
    env.release (-5)
  refine waited.endsAs (fun _ _ here => here.2) ?_
  rintro e s ⟨rfl, here, never⟩
  exact ⟨rfl, here, fun comes => by
    obtain ⟨k, inside, now⟩ := comes
    exact never k inside now⟩

theorem rccA35Pll1Init_stages :
    Triple (Shows (Fresh regs)) (rccA35Pll1Init bypassDevice env)
      (fun _ _ => ReleaseComes env) (GaveUpOn env regs) := by
  have hseInside : statusBits rccOcrdyr &&& ocrdyHserdy = ocrdyHserdy := by decide
  have lockInside : statusBits a35SsPllEnable &&& a35PllEnableLockp = a35PllEnableLockp := by
    decide
  -- the HSE
  refine Triple.bind (shows_modify_other (by decide)) fun _ => ?_
  have hse := @shows_wait_other (Fresh regs) rccOcrdyr
    (fun x => x.status &&& ocrdyHserdy ≠ 0) (by decide) (fun v => v &&& ocrdyHserdy ≠ 0)
    (fun x regs => by rw [← clockDevice_read_status hseInside x.status regs]; simp)
    env.hse (-1)
  refine (hse.failedAs ?_).bind fun _ => ?_
  · rintro e s ⟨rfl, here, never⟩
    refine ⟨by decide, Or.inl ⟨?_, fun seen => absurd seen here.2.2⟩⟩
    rintro ⟨⟨k, inside, now⟩, -⟩
    exact never k inside now
  apply Triple.given
  intro hseComes
  -- the bypass clock
  refine ((a35Bypass_stages env regs).failedAs ?_).bind fun _ => ?_
  · rintro e s ⟨negative, never, set⟩
    exact ⟨negative, Or.inl ⟨fun reaches => never reaches.2.1, set⟩⟩
  apply Triple.given
  intro bypassComes
  -- PLL1 off
  refine Triple.bind (shows_modify_other (by decide)) fun _ => ?_
  refine Triple.bind (shows_modify_other (by decide)) fun _ => ?_
  refine (pll_wait_triple env regs (fun x => x.status &&& a35PllEnableLockp = 0) (by decide)
    (fun x regs => by rw [← clockDevice_read_status lockInside x.status regs]; simp)
    env.unlock (by decide) (fun reaches => reaches.2.2.1)).bind fun _ => ?_
  apply Triple.given
  intro unlockComes
  -- the reference and the dividers
  refine Triple.bind (shows_modify_other (by decide)) fun _ => ?_
  refine Triple.bind (shows_modify_other (by decide)) fun _ => ?_
  refine Triple.bind (shows_modify_other (by decide)) fun _ => ?_
  refine Triple.bind (shows_modify_other (by decide)) fun _ => ?_
  refine Triple.bind (shows_modify_other (by decide)) fun _ => ?_
  -- PLL1 on
  refine Triple.bind (shows_modify_other (by decide)) fun _ => ?_
  refine (pll_wait_triple env regs (fun x => x.status &&& a35PllEnableLockp ≠ 0) (by decide)
    (fun x regs => by rw [← clockDevice_read_status lockInside x.status regs]; simp)
    env.lock (by decide) (fun reaches => reaches.2.2.2)).bind fun _ => ?_
  apply Triple.given
  intro lockComes
  refine Triple.bind (shows_modify_other (by decide)) fun _ => ?_
  -- the request is withdrawn
  have withdrawn : Triple (Shows Parked)
      (mmioClrbits32 bypassDevice a35SsChgclkreq a35ChgclkreqReq (env.update 12))
      (fun _ => Shows Released) (GaveUpOn env regs) := by
    apply shows_modify_chg
    intro req ack seen val here _
    refine ⟨and_not_and_self _ _, ?_, Or.inl here.2.2⟩
    cases (env.update 12).follows with
    | true => simpa [settled] using here.1
    | false => exact here.2.1
  refine withdrawn.bind fun _ => ?_
  refine (release_triple env).failedAs ?_
  rintro e s ⟨rfl, here, never⟩
  exact ⟨by decide, Or.inr ⟨⟨hseComes, bypassComes, unlockComes, lockComes⟩, never, here.2.2,
    by simpa [BypassState.req] using here.1⟩⟩

theorem fresh_start : Shows (Fresh regs) { state := .start regs, trace := [] } :=
  ⟨rfl, rfl, fun ⟨_, member, _⟩ => nomatch member⟩

/-- The request is gone where the last wait runs out. -/
theorem rccA35Pll1Init_releases (reaches : ReachesRelease env regs)
    (never : ¬ ReleaseComes env) :
    ¬ KeepsBypass (rccA35Pll1Init bypassDevice env { state := .start regs, trace := [] }) := by
  rcases (rccA35Pll1Init_stages env regs).ends (fresh_start regs) with
    ⟨_, s, -, comes⟩ | ⟨e, s, run, negative, ends⟩
  · exact absurd comes never
  · rcases ends with ⟨short, -⟩ | ⟨-, -, seen, clear⟩
    · exact absurd reaches short
    · intro keeps
      rw [run] at keeps
      have set := keeps negative seen
      rw [clear] at set
      cases set

/-- It is kept everywhere else. -/
theorem rccA35Pll1Init_keeps (comes : ReachesRelease env regs → ReleaseComes env) :
    KeepsBypass (rccA35Pll1Init bypassDevice env { state := .start regs, trace := [] }) := by
  rcases (rccA35Pll1Init_stages env regs).ends (fresh_start regs) with
    ⟨done, s, run, -⟩ | ⟨e, s, run, -, ends⟩
  · rw [run]
    intro negative
    have zero : returned (.ok done) = 0 := rfl
    rw [zero] at negative
    exact absurd negative (Int.lt_irrefl 0)
  · rw [run]
    intro _
    rcases ends with ⟨-, set⟩ | ⟨reaches, never, -, -⟩
    · exact set
    · exact absurd (comes reaches) never

/-- From a state in which REQ and ACK agree, REQ is still set at every negative
return behind an established bypass, exactly where the last wait, if it is reached,
does not run out. -/
theorem rccA35Pll1Init_keepsBypass_iff :
    KeepsBypass (rccA35Pll1Init bypassDevice env { state := .start regs, trace := [] }) ↔
      (ReachesRelease env regs → ReleaseComes env) := by
  constructor
  · intro keeps reaches
    by_contra never
    exact rccA35Pll1Init_releases env regs reaches never keeps
  · exact rccA35Pll1Init_keeps env regs

end

/-! ### A cluster that follows too late -/

/-- The cluster is on the bypass clock, the HSE is ready, and PLL1 unlocks and locks
at once; the cluster does not leave the bypass clock within the last wait. -/
def lateEnv : Pll1Env BypassEnv where
  hse _ := { status := ocrdyHserdy, follows := true }
  parked := { status := 0, follows := true }
  divsel := { status := 0, follows := true }
  divselack _ := { status := 0, follows := true }
  ack _ := { status := 0, follows := true }
  unlock _ := { status := 0, follows := true }
  lock _ := { status := a35PllEnableLockp, follows := true }
  release _ := { status := 0, follows := false }
  update _ := { status := 0, follows := false }

def parkedRegs : ClockRegs := fun addr => if addr = a35SsChgclkreq then a35ChgclkreqReq else 0

theorem rccA35Pll1Init_late :
    ¬ KeepsBypass (rccA35Pll1Init bypassDevice lateEnv
      { state := .start parkedRegs, trace := [] }) := by
  have some_time : 0 < divTimeout := by decide
  apply rccA35Pll1Init_releases
  · refine ⟨⟨0, some_time, by decide⟩, Or.inl (by decide), ⟨0, some_time, by decide⟩,
      ⟨0, some_time, by decide⟩⟩
  · rintro ⟨_, _, follows⟩
    cases follows

end Mp257Fsbl.Rcc
