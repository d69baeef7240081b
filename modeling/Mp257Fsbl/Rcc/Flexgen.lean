/-
Module: Mp257Fsbl.Rcc.Flexgen
Purpose: The routing of a flexgen channel, which is tried a few times and read back,
  and what rcc_bus_clk_init reports of it.
Trusted boundary: human-reviewed model of flexgen_to_hsi, flexgen_to_pll4 and
  rcc_bus_clk_init; every read is an input
Main exports: Route, flexgenRoute, flexgenToPll4, rccBusClkInit, ReportsTruthfully,
  rccBusClkInit_reports_iff
-/
import Mp257Fsbl.Rcc.Pll

namespace Mp257Fsbl.Rcc

open Mp257Fsbl.Foundation

/-! ### Registers -/

def rccXbar0cfgr : Nat := rccBase + 0x1018
def rccPrediv0cfgr : Nat := rccBase + 0x1118
def rccFindiv0cfgr : Nat := rccBase + 0x1224
def rccPredivsr1 : Nat := rccBase + 0x1218
def rccPredivsr2 : Nat := rccBase + 0x121C
def rccFindivsr1 : Nat := rccBase + 0x1324
def rccFindivsr2 : Nat := rccBase + 0x1328
def rccPll4cfgr1 : Nat := rccBase + 0x1360

def xbarSelMask : Word := 0xF
def xbarEn : Word := 0x40
def xbarSts : Word := 0x80
def predivMask : Word := 0x3FF
def findivMask : Word := 0x3F
def findivEn : Word := 0x40

def xbarSrcHsiKer : Word := 0x8
def xbarSrcPll4 : Word := 0x0

/-- A channel, with the final divider and the source it is to have. -/
structure Route where
  channel : Nat
  findivVal : Word
  source : Word

namespace Route

variable (route : Route)

def prediv : Nat := rccPrediv0cfgr + 4 * route.channel
def findiv : Nat := rccFindiv0cfgr + 4 * route.channel
def xbar : Nat := rccXbar0cfgr + 4 * route.channel
def presr : Nat := if route.channel < 32 then rccPredivsr1 else rccPredivsr2
def finsr : Nat := if route.channel < 32 then rccFindivsr1 else rccFindivsr2
def bit : Word := 1 <<< (route.channel &&& 31)

end Route

/-! ### Routing -/

/-- The inputs of one attempt: of the waits and of the read-modify-writes, which
are numbered, and of the three reads back. -/
structure AttemptEnv (ξ : Type) where
  busy : Nat → Nat → ξ
  update : Nat → ξ
  prediv : ξ
  findiv : ξ
  xbar : ξ

section

variable {ξ σ : Type} (dev : Device Nat Word ξ σ)

/-- A wait that goes on where it runs out. -/
def waitStatusClear (sr : Nat) (bit : Word) (env : Nat → ξ) : Driver Nat Word σ Int Unit := do
  let _ ← poll dev sr (fun v => v &&& bit = 0) env divTimeout

def flexgenAttempt (route : Route) (env : AttemptEnv ξ) : Driver Nat Word σ Int Unit := do
  waitStatusClear dev route.presr route.bit (env.busy 0)
  mmioClrsetbits32 dev route.prediv predivMask 0 (env.update 0)
  waitStatusClear dev route.presr route.bit (env.busy 1)
  waitStatusClear dev route.finsr route.bit (env.busy 2)
  mmioClrsetbits32 dev route.findiv findivMask route.findivVal (env.update 1)
  waitStatusClear dev route.finsr route.bit (env.busy 3)
  waitStatusClear dev route.xbar xbarSts (env.busy 4)
  mmioClrsetbits32 dev route.xbar xbarSelMask route.source (env.update 2)
  mmioSetbits32 dev route.xbar xbarEn (env.update 3)
  waitStatusClear dev route.xbar xbarSts (env.busy 5)
  mmioSetbits32 dev route.findiv findivEn (env.update 4)

/-- Whether the channel reads back otherwise than asked for. The second and third
read are made only where the one before is as asked for. -/
def flexgenStale (route : Route) (env : AttemptEnv ξ) : Driver Nat Word σ Int Bool := do
  let prediv ← mmioRead dev route.prediv env.prediv
  if prediv &&& predivMask ≠ 0 then pure true
  else
    let findiv ← mmioRead dev route.findiv env.findiv
    if findiv &&& findivMask ≠ route.findivVal then pure true
    else
      let xbar ← mmioRead dev route.xbar env.xbar
      pure (xbar &&& xbarSelMask ≠ route.source)

/-- The loop of the routing functions. The counter is looked at before the
channel, so that the last attempt is not read back. -/
def flexgenRoute (route : Route) : (env : Nat → AttemptEnv ξ) → (retry : Nat) →
    Driver Nat Word σ Int Unit
  | _, 0 => pure ()
  | env, retry + 1 => do
      flexgenAttempt dev route (env 0)
      if retry ≠ 0 then
        if ← flexgenStale dev route (env 0) then
          flexgenRoute route (fun k => env (k + 1)) retry

def flexgenToHsi (channel : Nat) (env : Nat → AttemptEnv ξ) : Driver Nat Word σ Int Unit :=
  flexgenRoute dev { channel := channel, findivVal := 0, source := xbarSrcHsiKer } env 100

def flexgenToPll4 (channel : Nat) (findivVal : Word) (env : Nat → AttemptEnv ξ) :
    Driver Nat Word σ Int Unit :=
  flexgenRoute dev { channel := channel, findivVal := findivVal, source := xbarSrcPll4 } env 3

/-- The inputs of the switch of the bus clock. -/
structure BusClkEnv (ξ : Type) where
  pll4 : ξ
  attempt : Nat → AttemptEnv ξ

def rccBusClkInit (env : BusClkEnv ξ) : Driver Nat Word σ Int Unit := do
  let cfgr1 ← mmioRead dev rccPll4cfgr1 env.pll4
  if cfgr1 &&& pllCfgr1Pllrdy = 0 then Driver.fail (-1)
  else flexgenToPll4 dev 2 1 env.attempt

end

/-! ### Every read is an input -/

/-- A register reads as whatever the input says. -/
def inputDevice : Device Nat Word Word Unit where
  read _ val s := (val, s)
  write _ _ s := s

/-- Behind the last write, the channel has been read as the route asks for. -/
def ReadBack (route : Route) (trace : List (Access Nat Word)) : Prop :=
  (∃ val, .read route.prediv val ∈ lastReads trace ∧ val &&& predivMask = 0) ∧
    (∃ val, .read route.findiv val ∈ lastReads trace ∧ val &&& findivMask = route.findivVal) ∧
    ∃ val, .read route.xbar val ∈ lastReads trace ∧ val &&& xbarSelMask = route.source

/-- The reads back of an attempt are as asked for. -/
def AttemptEnv.Shows (env : AttemptEnv Word) (route : Route) : Prop :=
  env.prediv &&& predivMask = 0 ∧ env.findiv &&& findivMask = route.findivVal ∧
    env.xbar &&& xbarSelMask = route.source

/-! ### One attempt -/

section

variable {before : Traced Nat Word Unit → Prop} {failed : Int → Traced Nat Word Unit → Prop}

theorem waitStatusClear_any {sr : Nat} {bit : Word} {env : Nat → Word} :
    Triple before (waitStatusClear inputDevice sr bit env) (fun _ _ => True) failed := by
  have polled : Triple (fun _ => True)
      (poll inputDevice sr (fun v => v &&& bit = 0) env divTimeout) (fun _ _ => True) failed := by
    apply Triple.poll inputDevice
    · intro s x _
      split <;> trivial
    · exact fun _ _ => trivial
  apply (polled.weaken (fun _ _ => trivial) (fun _ _ _ => trivial) fun _ _ gaveUp => gaveUp).bind
  exact fun _ => Triple.pure fun _ _ => trivial

theorem mmioModify_last {addr : Nat} {change : Word → Word} {env : Word} :
    Triple before (mmioModify inputDevice addr change env)
      (fun _ s => lastReads s.trace = []) failed := by
  apply Triple.mmioModify
  intro s _
  exact lastReads_write _ _ _

/-- An attempt ends with a write. -/
theorem flexgenAttempt_last (route : Route) (env : AttemptEnv Word) :
    Triple before (flexgenAttempt inputDevice route env)
      (fun _ s => lastReads s.trace = []) failed := by
  apply Triple.bind waitStatusClear_any
  intro _
  apply Triple.bind mmioModify_last
  intro _
  apply Triple.bind waitStatusClear_any
  intro _
  apply Triple.bind waitStatusClear_any
  intro _
  apply Triple.bind mmioModify_last
  intro _
  apply Triple.bind waitStatusClear_any
  intro _
  apply Triple.bind waitStatusClear_any
  intro _
  apply Triple.bind mmioModify_last
  intro _
  apply Triple.bind mmioModify_last
  intro _
  apply Triple.bind waitStatusClear_any
  intro _
  exact mmioModify_last

theorem mmioRead_last {addr : Nat} {env : Word} {reads : List (Access Nat Word)} :
    Triple (fun s => lastReads s.trace = reads) (mmioRead inputDevice addr env)
      (fun val s => lastReads s.trace = reads ++ [.read addr val] ∧ val = env) failed := by
  apply Triple.mmioRead
  rintro s rfl
  exact ⟨lastReads_read _ _ _, rfl⟩

/-- The reads behind an attempt find out whether the channel is as asked for. -/
theorem flexgenStale_shows (route : Route) (env : AttemptEnv Word) :
    Triple (fun s => lastReads s.trace = []) (flexgenStale inputDevice route env)
      (fun stale s =>
        if stale then ¬ env.Shows route else ReadBack route s.trace ∧ env.Shows route)
      failed := by
  apply mmioRead_last.bind
  intro val
  apply Triple.given
  rintro rfl
  by_cases prediv : env.prediv &&& predivMask = 0
  · rw [if_neg (not_not_intro prediv)]
    apply mmioRead_last.bind
    intro val
    apply Triple.given
    rintro rfl
    by_cases findiv : env.findiv &&& findivMask = route.findivVal
    · rw [if_neg (not_not_intro findiv)]
      apply mmioRead_last.bind
      intro val
      apply Triple.given
      rintro rfl
      apply Triple.pure
      intro s reads
      by_cases xbar : env.xbar &&& xbarSelMask = route.source
      · have shown : env.Shows route := ⟨prediv, findiv, xbar⟩
        have back : ReadBack route s.trace := by
          refine ⟨⟨env.prediv, ?_, prediv⟩, ⟨env.findiv, ?_, findiv⟩, env.xbar, ?_, xbar⟩
          all_goals simp [reads]
        simpa [xbar] using ⟨back, shown⟩
      · have other : ¬ env.Shows route := fun shown => xbar shown.2.2
        simpa [xbar] using other
    · rw [if_pos findiv]
      exact Triple.pure fun s _ shown => findiv shown.2.1
  · rw [if_pos prediv]
    exact Triple.pure fun s _ shown => prediv shown.1

/-! ### The loop -/

theorem readBack_none {route : Route} {trace : List (Access Nat Word)}
    (none : lastReads trace = []) : ¬ ReadBack route trace := by
  rintro ⟨⟨_, member, -⟩, -⟩
  rw [none] at member
  cases member

/-- The loop ends with the channel read back exactly where one of its attempts but
the last is. The induction is on the attempts left, over every input. -/
theorem flexgenRoute_readBack (route : Route) (env : Nat → AttemptEnv Word) (retry : Nat) :
    Triple before (flexgenRoute inputDevice route env (retry + 1))
      (fun _ s => ReadBack route s.trace ↔ ∃ k < retry, (env k).Shows route) failed := by
  induction retry generalizing env before with
  | zero =>
      apply (flexgenAttempt_last route (env 0)).bind
      intro _
      apply Triple.pure
      intro s none
      exact iff_of_false (readBack_none none) fun ⟨k, less, _⟩ => Nat.not_lt_zero k less
  | succ retry ih =>
      apply (flexgenAttempt_last route (env 0)).bind
      intro _
      rw [if_pos (Nat.succ_ne_zero retry)]
      apply (flexgenStale_shows route (env 0)).bind
      intro stale
      cases stale with
      | false =>
          apply Triple.pure
          intro s shown
          have shown : ReadBack route s.trace ∧ (env 0).Shows route := shown
          exact iff_of_true shown.1 ⟨0, Nat.zero_lt_succ _, shown.2⟩
      | true =>
          intro s other
          have other : ¬ (env 0).Shows route := other
          have later := @ih (fun _ => True) (fun k => env (k + 1)) s trivial
          have shift : (∃ k < retry, (env (k + 1)).Shows route) ↔
              ∃ k < retry + 1, (env k).Shows route := by
            constructor
            · rintro ⟨k, less, shown⟩
              exact ⟨k + 1, Nat.succ_lt_succ less, shown⟩
            · rintro ⟨k, less, shown⟩
              cases k with
              | zero => exact absurd shown other
              | succ k => exact ⟨k, Nat.lt_of_succ_lt_succ less, shown⟩
          rw [shift] at later
          exact later

theorem flexgenToPll4_readBack (channel : Nat) (findivVal : Word) (env : Nat → AttemptEnv Word) :
    Triple before (flexgenToPll4 inputDevice channel findivVal env)
      (fun _ s => ReadBack { channel, findivVal, source := xbarSrcPll4 } s.trace ↔
        ∃ k < 2, (env k).Shows { channel, findivVal, source := xbarSrcPll4 }) failed :=
  flexgenRoute_readBack _ env 2

end

/-! ### How many accesses -/

section

variable {ξ σ : Type} (dev : Device Nat Word ξ σ)

theorem waitStatusClear_within (sr : Nat) (bit : Word) (env : Nat → ξ) :
    AccessesWithin (waitStatusClear dev sr bit env) divTimeout :=
  (AccessesWithin.poll dev sr _ env divTimeout).bind fun _ => AccessesWithin.pure ()

theorem flexgenAttempt_within (route : Route) (env : AttemptEnv ξ) :
    AccessesWithin (flexgenAttempt dev route env) (6 * divTimeout + 10) := by
  have wait {sr : Nat} {bit : Word} {reads : Nat → ξ} {bound : Nat}
      {next : Unit → Driver Nat Word σ Int Unit} (rest : AccessesWithin (next ()) bound) :
      AccessesWithin (waitStatusClear dev sr bit reads >>= next) (divTimeout + bound) :=
    (waitStatusClear_within dev sr bit reads).bind fun _ => rest
  apply AccessesWithin.mono
  · apply wait
    apply AccessesWithin.modify_then
    iterate 2 apply wait
    apply AccessesWithin.modify_then
    iterate 2 apply wait
    iterate 2 apply AccessesWithin.modify_then
    apply wait
    exact AccessesWithin.mmioModify _ _ _ _
  · omega

theorem flexgenStale_within (route : Route) (env : AttemptEnv ξ) :
    AccessesWithin (flexgenStale dev route env) 3 := by
  apply AccessesWithin.mono
  · apply (AccessesWithin.mmioRead dev _ _).bind
    intro prediv
    apply AccessesWithin.ite (AccessesWithin.pure true)
    apply (AccessesWithin.mmioRead dev _ _).bind
    intro findiv
    apply AccessesWithin.ite (AccessesWithin.pure true)
    apply (AccessesWithin.mmioRead dev _ _).bind
    intro xbar
    exact AccessesWithin.pure _
  · omega

theorem flexgenRoute_within (route : Route) (env : Nat → AttemptEnv ξ) (retry : Nat) :
    AccessesWithin (flexgenRoute dev route env retry) (retry * (6 * divTimeout + 13)) := by
  induction retry generalizing env with
  | zero => exact (AccessesWithin.pure ()).mono (Nat.zero_le _)
  | succ retry ih =>
      have again (stale : Bool) : AccessesWithin
          (if stale then flexgenRoute dev route (fun k => env (k + 1)) retry else pure ())
          (max (retry * (6 * divTimeout + 13)) 0) :=
        AccessesWithin.ite (ih _) (AccessesWithin.pure ())
      have stale := (flexgenStale_within dev route (env 0)).bind again
      apply AccessesWithin.mono
      · apply (flexgenAttempt_within dev route (env 0)).bind
        intro _
        exact AccessesWithin.ite stale (AccessesWithin.pure ())
      · rw [Nat.add_mul retry 1, Nat.one_mul, Nat.max_eq_left (Nat.zero_le _)]
        generalize retry * (6 * divTimeout + 13) = rest
        omega

theorem rccBusClkInit_within (env : BusClkEnv ξ) :
    AccessesWithin (rccBusClkInit dev env) (3 * (6 * divTimeout + 13) + 1) := by
  apply AccessesWithin.mono
  · apply (AccessesWithin.mmioRead dev _ _).bind
    intro cfgr1
    exact AccessesWithin.ite (AccessesWithin.fail _) (flexgenRoute_within dev _ _ _)
  · omega

end

/-! ### The switch of the bus clock -/

/-- The DDR bus on PLL4, by two. -/
def icnDdr : Route where
  channel := 2
  findivVal := 1
  source := xbarSrcPll4

/-- The switch ends, and returns zero where the channel has been read back as it
is to be, a negative value elsewhere. -/
structure ReportsTruthfully (run : Except Int Unit × Traced Nat Word Unit) : Prop where
  result : returned run.1 = 0 ∧ ReadBack icnDdr run.2.trace ∨ returned run.1 < 0
  ends : run.2.trace.length ≤ 3 * (6 * divTimeout + 13) + 1

/-- PLL4 does not run, or one of the first two attempts is read back as asked for. -/
def BusClkEnv.Settles (env : BusClkEnv Word) : Prop :=
  env.pll4 &&& pllCfgr1Pllrdy = 0 ∨ ∃ k < 2, (env.attempt k).Shows icnDdr

theorem rccBusClkInit_stopped {env : BusClkEnv Word}
    (stopped : env.pll4 &&& pllCfgr1Pllrdy = 0) (s : Traced Nat Word Unit) :
    returned (rccBusClkInit inputDevice env s).1 = -1 := by
  have gaveUp : rccBusClkInit inputDevice env s =
      (.error (-1), s.afterRead inputDevice rccPll4cfgr1 env.pll4) := by
    simp [rccBusClkInit, Bind.bind, mmioRead, inputDevice, Driver.fail, stopped]
  rw [gaveUp]
  rfl

/-- With PLL4 running, zero is returned whether or not the channel was read back. -/
theorem rccBusClkInit_running {env : BusClkEnv Word}
    (running : env.pll4 &&& pllCfgr1Pllrdy ≠ 0) (s : Traced Nat Word Unit) :
    returned (rccBusClkInit inputDevice env s).1 = 0 ∧
      (ReadBack icnDdr (rccBusClkInit inputDevice env s).2.trace ↔
        ∃ k < 2, (env.attempt k).Shows icnDdr) := by
  have routed := @flexgenToPll4_readBack (fun _ => True) (fun _ _ => False) 2 1 env.attempt
  have same : rccBusClkInit inputDevice env s =
      flexgenToPll4 inputDevice 2 1 env.attempt
        (s.afterRead inputDevice rccPll4cfgr1 env.pll4) := by
    have ready : (if env.pll4 &&& pllCfgr1Pllrdy = 0 then Driver.fail (-1)
        else flexgenToPll4 inputDevice 2 1 env.attempt) =
          flexgenToPll4 inputDevice 2 1 env.attempt := if_neg running
    exact congrFun ready _
  rcases routed.ends trivial with ⟨_, t, run, back⟩ | ⟨_, _, _, never⟩
  · rw [same, run]
    exact ⟨rfl, back⟩
  · exact never.elim

/-- For every value read, the result is truthful exactly where PLL4 does not run or
one of the first two attempts is read back as asked for. -/
theorem rccBusClkInit_reports_iff (env : BusClkEnv Word) :
    ReportsTruthfully (rccBusClkInit inputDevice env { state := (), trace := [] }) ↔
      env.Settles := by
  have few := rccBusClkInit_within inputDevice env { state := (), trace := [] }
  rw [List.length_nil, Nat.zero_add] at few
  by_cases stopped : env.pll4 &&& pllCfgr1Pllrdy = 0
  · refine iff_of_true ⟨Or.inr ?_, few⟩ (Or.inl stopped)
    rw [rccBusClkInit_stopped stopped]
    decide
  · obtain ⟨zero, back⟩ := rccBusClkInit_running stopped { state := (), trace := [] }
    constructor
    · rintro ⟨⟨-, shown⟩ | negative, -⟩
      · exact Or.inr (back.mp shown)
      · rw [zero] at negative
        exact absurd negative (Int.lt_irrefl 0)
    · rintro (never | shown)
      · exact absurd never stopped
      · exact ⟨Or.inl ⟨zero, back.mpr shown⟩, few⟩

/-- PLL4 runs, the waits end at once, and the divider in front never takes the
value written. -/
def stuckEnv : BusClkEnv Word where
  pll4 := 0x01000000
  attempt _ :=
    { busy := fun _ _ => 0
      update := fun _ => 1
      prediv := 1
      findiv := 1
      xbar := 0x40 }

/-- A stuck channel is reported as switched. -/
theorem rccBusClkInit_stuck :
    ¬ ReportsTruthfully (rccBusClkInit inputDevice stuckEnv { state := (), trace := [] }) := by
  have running : stuckEnv.pll4 &&& pllCfgr1Pllrdy ≠ 0 := by decide
  obtain ⟨zero, back⟩ := rccBusClkInit_running running { state := (), trace := [] }
  rintro ⟨⟨-, shown⟩ | negative, -⟩
  · obtain ⟨_, _, prediv, _⟩ := back.mp shown
    have nonzero : (1 : Word) &&& predivMask ≠ 0 := by decide
    exact nonzero prediv
  · rw [zero] at negative
    exact absurd negative (Int.lt_irrefl 0)

end Mp257Fsbl.Rcc
