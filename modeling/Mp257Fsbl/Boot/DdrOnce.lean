/-
Module: Mp257Fsbl.Boot.DdrOnce
Purpose: Whether ddr_init, whose tests destroy the memory, is left alone once
  DDR is in use, over every sequence of commands.
Trusted boundary: none
Main exports: DdrInUse, NeverAgain, Command.TakesDdr, DdrFirst, boardRun_ddrOnce
-/
import Mp257Fsbl.Boot.DdrRule
import Mp257Fsbl.Foundation.Log

namespace Mp257Fsbl.Boot

open Mp257Fsbl.Foundation
open Mp257Fsbl.Sd
open Mp257Fsbl.Ddr

/-- A `ddr_init` that returned zero, or a `load_region` that reads at least one
block into the memory. -/
def BoardAction.HoldsDdr : BoardAction → Prop
  | .ddrInit ret => ret = 0
  | .loadRegion n _ _ => n ≠ 0
  | _ => False

/-- DDR is initialised or holds a loaded block. -/
def DdrInUse (log : List BoardAction) : Prop := ∃ action ∈ log, action.HoldsDdr

/-- No `ddr_init` returned after DDR was in use. -/
abbrev NeverAgain : List BoardAction → Prop :=
  EveryEntry fun before action => action.ddrReturn ≠ none → ¬ DdrInUse before

/-- The `ddr_init` that the command makes, if any, finds DDR unused. -/
def CallsUnused (board : Board) (command : Command) : Prop :=
  ∀ outcome, command.ddrCall board = some outcome → ¬ DdrInUse board.log

/-! ### The condition -/

/-- The card is up already, or this `sd_init` brings it up. -/
def Board.CardReady (board : Board) (outcome : SdInitOutcome) : Prop :=
  board.sd.info.sdSizeBytes ≠ 0 ∨
    outcome.Publishes board.sd ∧ MmcCsd.speedIdx outcome.csd ≠ 0

/-- `load_sd` or `boot` takes DDR into use: it initialises DDR, or it finds a
size published, finds the card ready and loads something. -/
def Command.TakesDdr (board : Board) : Command → Prop
  | .loadSd argc arg1 _ _ hw _ =>
      if board.ddr.size = 0 then hw.ddr.Passes
      else board.CardReady hw.sd ∧ (argc ≥ 1 → arg1 ≠ 0)
  | .boot _ _ hw _ _ =>
      if board.ddr.size = 0 then hw.ddr.Passes else board.CardReady hw.sd
  | _ => False

/-- The `ddr` command with its own flag clear. -/
def Command.InitsDdr (board : Board) : Command → Prop
  | .ddr _ => board.cmdDdrDone = false
  | _ => False

/-- No `ddr` with its own flag clear comes behind a `load_sd` or `boot` that
takes DDR into use; `taken` tells whether one did before these commands. -/
def DdrFirst : Prop → Board → List Command → Prop
  | _, _, [] => True
  | taken, board, command :: rest =>
      (taken → ¬ command.InitsDdr board) ∧
        DdrFirst (taken ∨ command.TakesDdr board) (command.run board) rest

/-! ### The log -/

theorem ddrInUse_append_single {log : List BoardAction} {action : BoardAction} :
    DdrInUse (log ++ [action]) ↔ DdrInUse log ∨ action.HoldsDdr := by
  constructor
  · rintro ⟨entry, member, holds⟩
    rcases List.mem_append.mp member with earlier | last
    · exact .inl ⟨entry, earlier, holds⟩
    · rw [List.mem_singleton] at last
      exact .inr (last ▸ holds)
  · rintro (⟨entry, earlier, holds⟩ | holds)
    · exact ⟨entry, List.mem_append_left _ earlier, holds⟩
    · exact ⟨action, by simp, holds⟩

/-! ### The invariant -/

/-- DDR in use has its size published, and `ddr_init` has left it alone. -/
structure Settled (board : Board) : Prop where
  never : NeverAgain board.log
  sized : DdrInUse board.log → board.ddr.size ≠ 0

/-- The size is published. -/
structure Sized (board : Board) : Prop where
  settled : Settled board
  size : board.ddr.size ≠ 0

section Actions

variable {board : Board} {action : BoardAction}

theorem Settled.did (settled : Settled board) (quiet : ¬ action.UsesDdr)
    (other : action.ddrReturn = none) : Settled (board.did action) where
  never := everyEntry_append_single.mpr ⟨settled.never, fun calls => absurd other calls⟩
  sized := by
    intro used
    rcases ddrInUse_append_single.mp used with earlier | holds
    · exact settled.sized earlier
    · cases action with
      | ddrInit ret => cases other
      | loadRegion n lba dest => exact absurd trivial quiet
      | _ => exact holds.elim

theorem Sized.did (sized : Sized board) (other : action.ddrReturn = none) :
    Sized (board.did action) where
  settled :=
    { never := everyEntry_append_single.mpr
        ⟨sized.settled.never, fun calls => absurd other calls⟩
      sized := fun _ => sized.size }
  size := sized.size

theorem Settled.of_same {other : Board} (settled : Settled board) (log : other.log = board.log)
    (size : other.ddr.size = board.ddr.size) : Settled other := by
  constructor
  · rw [log]
    exact settled.never
  · rw [log, size]
    exact settled.sized

theorem Settled.panic (settled : Settled board) : Settled board.panic :=
  Settled.of_same (settled.did (by simp [BoardAction.UsesDdr]) rfl) rfl rfl

/-- The first `ddr_init` publishes the size where it returns zero. -/
theorem settled_ddrInit (settled : Settled board) {outcome : DdrOutcome}
    (unused : ¬ DdrInUse board.log) :
    Settled (board.ddrInit outcome).2 ∧
      ((board.ddrInit outcome).1 = some 0 → Sized (board.ddrInit outcome).2) := by
  unfold Board.ddrInit
  cases called : Ddr.ddrInit outcome board.ddr with
  | none => exact ⟨settled.panic, by simp⟩
  | some result =>
      rcases result with ⟨ret, priv⟩
      have published : ret = 0 → priv.size ≠ 0 := by
        intro zero
        rcases ddrInit_cases called with ⟨unlocked, rfl, _⟩ | ⟨_, _, size, _⟩
        · exact absurd zero unlocked
        · rw [size]
          decide
      have after : Settled ({ board with ddr := priv }.did (.ddrInit ret)) := by
        constructor
        · exact everyEntry_append_single.mpr ⟨settled.never, fun _ => unused⟩
        · intro used
          rcases ddrInUse_append_single.mp used with earlier | zero
          · exact absurd earlier unused
          · exact published zero
      refine ⟨after, ?_⟩
      intro zero
      exact ⟨after, published (Option.some.inj zero)⟩

end Actions

/-- The commands leave DDR alone, as long as it is not in use where they
initialise it. -/
theorem settled_rule : DdrRule (fun _ board => ¬ DdrInUse board.log) Settled Sized where
  kept := Sized.settled
  sized settled size := ⟨settled, size⟩
  kept_same := Settled.of_same
  up_same sized log size := ⟨sized.settled.of_same log size, by rw [size]; exact sized.size⟩
  kept_did := Settled.did
  up_did := Sized.did
  ddrInit settled unused := settled_ddrInit settled unused

/-! ### What a command makes of DDR

Apart from `ddr` itself, which `cmdDdr_inUse` is about, a command gains what it
takes into use and leaves the flag of `ddr` alone. -/

/-- DDR is in use after as before, or because `gains` holds. -/
structure DdrAfter (gains : Prop) (board next : Board) : Prop where
  inUse : DdrInUse next.log ↔ DdrInUse board.log ∨ gains
  flag : next.cmdDdrDone = board.cmdDdrDone

section Effects

variable {board middle next : Board} {gains more : Prop}

theorem DdrAfter.refl (board : Board) : DdrAfter False board board where
  inUse := (or_iff_left not_false).symm
  flag := rfl

theorem DdrAfter.trans (first : DdrAfter gains board middle) (second : DdrAfter more middle next) :
    DdrAfter (gains ∨ more) board next where
  inUse := by rw [second.inUse, first.inUse, or_assoc]
  flag := second.flag.trans first.flag

theorem DdrAfter.congr (after : DdrAfter gains board next) (same : gains ↔ more) :
    DdrAfter more board next where
  inUse := by rw [after.inUse, same]
  flag := after.flag

/-- What follows without taking DDR into use adds nothing. -/
theorem DdrAfter.then (after : DdrAfter gains board middle) (rest : DdrAfter False middle next) :
    DdrAfter gains board next :=
  (after.trans rest).congr (or_iff_left not_false)

/-- Nothing but the log and the flag matters. -/
theorem DdrAfter.same (after : DdrAfter gains board middle) (log : next.log = middle.log)
    (flag : next.cmdDdrDone = middle.cmdDdrDone) : DdrAfter gains board next where
  inUse := by rw [log, after.inUse]
  flag := flag.trans after.flag

theorem DdrAfter.did (after : DdrAfter gains board middle) (action : BoardAction) :
    DdrAfter (gains ∨ action.HoldsDdr) board (middle.did action) :=
  after.trans ⟨ddrInUse_append_single, rfl⟩

theorem DdrAfter.quiet (after : DdrAfter gains board middle) {action : BoardAction}
    (silent : ¬ action.HoldsDdr) : DdrAfter gains board (middle.did action) :=
  (after.did action).congr (or_iff_left silent)

theorem DdrAfter.say (after : DdrAfter gains board middle) (report : Report) :
    DdrAfter gains board (middle.say report) := after.quiet not_false

theorem DdrAfter.panic (after : DdrAfter gains board middle) :
    DdrAfter gains board middle.panic := by
  have panicked : DdrAfter gains board (middle.did .panicked) := after.quiet not_false
  exact panicked.same rfl rfl

theorem ddrInit_ddrAfter (board : Board) (outcome : DdrOutcome) :
    DdrAfter outcome.Passes board (board.ddrInit outcome).2 ∧
      ((board.ddrInit outcome).1 = some 0 ↔ outcome.Passes) := by
  unfold Board.ddrInit
  cases called : Ddr.ddrInit outcome board.ddr with
  | none =>
      have fails : ¬ outcome.Passes := by
        intro passes
        obtain ⟨result, returned⟩ := ddrInit_returns board.ddr (.inr passes.2.1)
        rw [called] at returned
        cases returned
      exact ⟨(DdrAfter.refl board).panic.congr (by simp [fails]), by simp [fails]⟩
  | some result =>
      rcases result with ⟨ret, priv⟩
      have zero : ret = 0 ↔ outcome.Passes := by
        rcases ddrInit_cases called with ⟨unlocked, rfl, _⟩ | ⟨_, _, _, returned⟩
        · exact iff_of_false unlocked fun passes => unlocked passes.1
        · exact returned
      have after : DdrAfter (False ∨ ret = 0) board
          ({ board with ddr := priv }.did (.ddrInit ret)) := by
        apply DdrAfter.did _ (.ddrInit ret)
        exact (DdrAfter.refl board).same rfl rfl
      exact ⟨after.congr (by simpa using zero), by simpa using zero⟩

theorem sdInit_ddrAfter (board : Board) (outcome : SdInitOutcome) :
    DdrAfter False board (board.sdInit outcome).2 ∧
      ((board.sdInit outcome).1 = some 0 ↔
        outcome.Publishes board.sd ∧ MmcCsd.speedIdx outcome.csd ≠ 0) := by
  have returns : (Sd.sdInit outcome board.sd).1 = some 0 ↔
      outcome.Publishes board.sd ∧ MmcCsd.speedIdx outcome.csd ≠ 0 := by
    rcases sdInit_cases outcome board.sd with ⟨silent, failed, _⟩ | ⟨publishes, ret, _⟩
    · simp [silent, failed]
    · simp [ret, publishes]
  have touched : ∀ glue, DdrAfter False board { board with sd := glue } :=
    fun _ => (DdrAfter.refl board).same rfl rfl
  unfold Board.sdInit
  rcases called : Sd.sdInit outcome board.sd with ⟨_ | ret, glue⟩
  · rw [called] at returns
    have asserts : DdrAfter False board ({ board with sd := glue }.did .sdInitAsserts) :=
      (touched glue).quiet not_false
    exact ⟨asserts.panic, returns⟩
  · rw [called] at returns
    exact ⟨(touched glue).quiet not_false, returns⟩

theorem ensureSd_ddrAfter (board : Board) (outcome : SdInitOutcome) :
    DdrAfter False board (board.ensureSd outcome).2 ∧
      ((board.ensureSd outcome).1 = some 0 ↔ board.CardReady outcome) := by
  unfold Board.ensureSd Board.CardReady
  split
  · rename_i empty
    have called := sdInit_ddrAfter board outcome
    simpa [empty] using called
  · rename_i sized
    exact ⟨.refl board, by simp [sized]⟩

theorem ensureDdr_ddrAfter (board : Board) (outcome : DdrOutcome) :
    DdrAfter (board.ddr.size = 0 ∧ outcome.Passes) board (board.ensureDdr outcome).2 ∧
      ((board.ensureDdr outcome).1 = some 0 ↔ (board.ddr.size = 0 → outcome.Passes)) := by
  unfold Board.ensureDdr
  split
  · rename_i unsized
    have called := ddrInit_ddrAfter board outcome
    simpa [unsized] using called
  · rename_i sized
    exact ⟨(DdrAfter.refl board).congr (by simp [sized]), by simp [sized]⟩

theorem ensureDdr_sd (board : Board) (outcome : DdrOutcome) :
    (board.ensureDdr outcome).2.sd = board.sd := by
  unfold Board.ensureDdr Board.ddrInit
  split
  · split <;> rfl
  · rfl

/-- `boot_ensure_hw` takes DDR into use where it initialises it. -/
theorem bootEnsureHw_ddrAfter (board : Board) (hw : HwOutcome) :
    DdrAfter (board.ddr.size = 0 ∧ hw.ddr.Passes) board (board.bootEnsureHw hw).2 ∧
      ((board.bootEnsureHw hw).1 = true ↔
        (board.ddr.size = 0 → hw.ddr.Passes) ∧ board.CardReady hw.sd) := by
  obtain ⟨first, passed⟩ := ensureDdr_ddrAfter board hw.ddr
  have same := ensureDdr_sd board hw.ddr
  unfold Board.bootEnsureHw
  rcases ddr : board.ensureDdr hw.ddr with ⟨_ | ret, middle⟩
  · rw [ddr] at first passed
    exact ⟨first, by simp [← passed]⟩
  · rw [ddr] at first passed same
    by_cases zero : ret = 0
    · subst zero
      obtain ⟨second, ready⟩ := ensureSd_ddrAfter middle hw.sd
      have ready : (middle.ensureSd hw.sd).1 = some 0 ↔ board.CardReady hw.sd := by
        rw [ready, Board.CardReady, same]
        rfl
      simp only [ne_eq, not_true_eq_false, if_false, ← passed, true_and, ← ready]
      rcases sd : middle.ensureSd hw.sd with ⟨_ | ret, last⟩
      · rw [sd] at second
        exact ⟨first.then second, by simp⟩
      · rw [sd] at second
        by_cases good : ret = 0
        · simp only [good, not_true_eq_false, if_false]
          exact ⟨first.then second, by simp⟩
        · simp only [good, not_false_eq_true, if_true]
          exact ⟨(first.then second).say _, by simp [good]⟩
    · have failed : ¬ (board.ddr.size = 0 → hw.ddr.Passes) := by
        rw [← passed]
        simpa using zero
      simp only [ne_eq, zero, not_false_eq_true, if_true]
      exact ⟨first.say _, by simp [failed]⟩

theorem loadRegion_ddrAfter (board : Board) (reads : UInt32 → SdOutcome) (n lba dest : UInt32) :
    DdrAfter (n ≠ 0) board (board.loadRegion reads n lba dest).2 := by
  have called : DdrAfter (n ≠ 0) board (board.did (.loadRegion n lba dest)) :=
    ((DdrAfter.refl board).did (.loadRegion n lba dest)).congr (by simp [BoardAction.HoldsDdr])
  unfold Board.loadRegion
  split
  · exact called.same rfl rfl
  · apply DdrAfter.say
    exact called.same rfl rfl

/-! ### Commands -/

theorem cmdDdr_inUse (board : Board) (outcome : DdrOutcome) :
    ((board.cmdDdr outcome).cmdDdrDone = true ↔
        board.cmdDdrDone = true ∨ outcome.Passes) ∧
      (DdrInUse (board.cmdDdr outcome).log ↔
        DdrInUse board.log ∨ board.cmdDdrDone = false ∧ outcome.Passes) := by
  unfold Board.cmdDdr
  split
  · rename_i already
    have after := (DdrAfter.refl board).say (.ddrAlready (Board.megabytes board.ddr.size))
    rw [after.flag, after.inUse]
    simp [already]
  · rename_i fresh
    obtain ⟨called, zero⟩ := ddrInit_ddrAfter board outcome
    rcases init : board.ddrInit outcome with ⟨_ | ret, middle⟩
    · rw [init] at called zero
      have failed : ¬ outcome.Passes := by simpa using zero.symm
      have flag : middle.cmdDdrDone = board.cmdDdrDone := called.flag
      simp [called.inUse, failed, flag]
    · rw [init] at called zero
      have zero : ret = 0 ↔ outcome.Passes := by simpa using zero
      by_cases passes : ret = 0
      · have after := (DdrAfter.refl { middle with cmdDdrDone := true }).say .ddrOk
        simp only [passes, if_true]
        rw [after.flag, after.inUse]
        simp [called.inUse, zero.mp passes, fresh]
      · have after := called.say .ddrFailed
        simp only [passes, if_false]
        rw [after.flag, after.inUse]
        simp [mt zero.mpr passes]

theorem sdReadMbr_ddrAfter (board : Board) (read : SdOutcome) :
    DdrAfter False board (board.sdReadMbr read) := by
  simp only [Board.sdReadMbr]
  split <;> exact DdrAfter.say (.refl board) _

theorem cmdSd_ddrAfter (board : Board) (init : SdInitOutcome) (read : SdOutcome) :
    DdrAfter False board (board.cmdSd init read) := by
  unfold Board.cmdSd
  split
  · exact sdReadMbr_ddrAfter board read
  · have called := (sdInit_ddrAfter board init).1
    apply Board.handler_rule (P := DdrAfter False board) called
    intro ret
    split
    · exact called.say _
    · have marked : DdrAfter False board { (board.sdInit init).2 with cmdSdDone := true } :=
        called.same rfl rfl
      exact marked.then (sdReadMbr_ddrAfter _ read)

theorem cmdSdw_ddrAfter (board : Board) (init : SdInitOutcome) (outcomes : SelfTestOutcomes) :
    DdrAfter False board (board.cmdSdw init outcomes) := by
  have called := (ensureSd_ddrAfter board init).1
  apply Board.handler_rule (P := DdrAfter False board) called
  intro ret
  split
  · exact called.say _
  · apply DdrAfter.say
    exact called.same rfl rfl

theorem usbMscStart_ddrAfter (board : Board) (outcome : UsbOutcome) :
    DdrAfter False board (board.usbMscStart outcome).2 := by
  have called := (ensureSd_ddrAfter board outcome.sd).1
  unfold Board.usbMscStart
  split
  all_goals
    rename_i middle ensured
    rw [ensured] at called
  · exact called
  · split
    · exact called
    · split
      · exact called.panic
      · split
        · apply DdrAfter.panic
          exact called.same rfl rfl
        · exact called.same rfl rfl

theorem cmdUsb_ddrAfter (board : Board) (outcome : UsbOutcome) :
    DdrAfter False board (board.cmdUsb outcome) := by
  have called := usbMscStart_ddrAfter board outcome
  unfold Board.cmdUsb
  split
  all_goals
    rename_i middle started
    rw [started] at called
  · exact called
  · exact called.say _
  · have exported : DdrAfter False board (middle.did .usbExport) := called.quiet not_false
    apply DdrAfter.say
    exact exported.same rfl rfl

theorem cmdJump_ddrAfter (board : Board) (argc : Nat) (arg1 : UInt32) (payload : Payload) :
    DdrAfter False board (board.cmdJump argc arg1 payload) := by
  have jumped : DdrAfter False board
      (board.did (.jump (if argc ≥ 1 then arg1 else bootKernelAddr))) :=
    (DdrAfter.refl board).quiet not_false
  unfold Board.cmdJump
  cases payload with
  | none => exact jumped.same rfl rfl
  | some result =>
      apply DdrAfter.say
      exact jumped.same rfl rfl

/-- Behind a `boot_ensure_hw` that succeeds, the gain is what is loaded, unless
DDR is initialised here anyway. -/
theorem ensured_gains {board : Board} {hw : HwOutcome} {loads : Prop}
    (up : (board.bootEnsureHw hw).1 = true) :
    (board.ddr.size = 0 ∧ hw.ddr.Passes) ∨ loads ↔
      if board.ddr.size = 0 then hw.ddr.Passes else board.CardReady hw.sd ∧ loads := by
  obtain ⟨passes, ready⟩ := (bootEnsureHw_ddrAfter board hw).2.mp up
  by_cases unsized : board.ddr.size = 0
  · simp [unsized, passes unsized]
  · simp [unsized, ready]

/-- Where it fails, nothing is loaded. -/
theorem unensured_gains {board : Board} {hw : HwOutcome} (loads : Prop)
    (down : (board.bootEnsureHw hw).1 = false) :
    board.ddr.size = 0 ∧ hw.ddr.Passes ↔
      if board.ddr.size = 0 then hw.ddr.Passes else board.CardReady hw.sd ∧ loads := by
  by_cases unsized : board.ddr.size = 0
  · simp [unsized]
  · have unready : ¬ board.CardReady hw.sd := by
      intro ready
      have up := (bootEnsureHw_ddrAfter board hw).2.mpr ⟨fun empty => absurd empty unsized, ready⟩
      rw [down] at up
      cases up
    simp [unsized, unready]

theorem cmdLoadSd_ddrAfter (board : Board) (argc : Nat) (arg1 arg2 arg3 : UInt32)
    (hw : HwOutcome) (reads : UInt32 → SdOutcome) :
    DdrAfter ((Command.loadSd argc arg1 arg2 arg3 hw reads).TakesDdr board) board
      (board.cmdLoadSd argc arg1 arg2 arg3 hw reads) := by
  have ensured := (bootEnsureHw_ddrAfter board hw).1
  have blocks : (if argc ≥ 1 then arg1 else bootKernelBlocks) ≠ 0 ↔ (argc ≥ 1 → arg1 ≠ 0) := by
    split
    · simp [*]
    · simp [*, bootKernelBlocks]
  unfold Board.cmdLoadSd
  rcases called : board.bootEnsureHw hw with ⟨_ | _, middle⟩
  · rw [called] at ensured
    exact ensured.congr (unensured_gains _ (by rw [called]))
  · rw [called] at ensured
    have loaded := fun n lba dest => loadRegion_ddrAfter middle reads n lba dest
    have gained := fun lba dest =>
      ((ensured.trans (loaded _ lba dest)).congr (or_congr_right blocks)).congr
        (ensured_gains (by rw [called]))
    apply Board.success_rule (P := DdrAfter _ board) (gained _ _)
    intro _
    exact (gained _ _).say _

/-- A `load_region` that fails had something to load. -/
theorem loadRegion_failed {board : Board} {reads : UInt32 → SdOutcome} {n lba dest : UInt32}
    (failed : (board.loadRegion reads n lba dest).1 = false) : n ≠ 0 := by
  rintro rfl
  simp [Board.loadRegion, loadRegion_zero] at failed

theorem cmdBoot_ddrAfter (board : Board) (argc : Nat) (arg1 : UInt32) (hw : HwOutcome)
    (kernelReads dtbReads : UInt32 → SdOutcome) :
    DdrAfter ((Command.boot argc arg1 hw kernelReads dtbReads).TakesDdr board) board
      (board.cmdBoot argc arg1 hw kernelReads dtbReads) := by
  have ensured := (bootEnsureHw_ddrAfter board hw).1
  unfold Board.cmdBoot
  rcases called : board.bootEnsureHw hw with ⟨_ | _, middle⟩
  · rw [called] at ensured
    refine ensured.congr ((unensured_gains True (by rw [called])).trans ?_)
    simp [Command.TakesDdr]
  · rw [called] at ensured
    have loads : ∀ {more : Prop} {next : Board}, more → DdrAfter more middle next →
        DdrAfter ((Command.boot argc arg1 hw kernelReads dtbReads).TakesDdr board) board next := by
      intro more next holds loaded
      refine (ensured.trans loaded).congr ((ensured_gains (by rw [called])).trans ?_)
      simp [Command.TakesDdr, holds]
    have kernel := loadRegion_ddrAfter middle kernelReads
      (if argc ≥ 1 then arg1 else bootKernelBlocks) bootKernelLba bootKernelAddr
    simp only
    rcases loaded : middle.loadRegion kernelReads
        (if argc ≥ 1 then arg1 else bootKernelBlocks) bootKernelLba bootKernelAddr with
      ⟨_ | _, second⟩
    · rw [loaded] at kernel
      exact loads (loadRegion_failed (by rw [loaded])) kernel
    · rw [loaded] at kernel
      have dtb := kernel.trans (loadRegion_ddrAfter second dtbReads bootDtbBlocks bootDtbLba
        bootDtbAddr)
      have both := loads (.inr (by decide : bootDtbBlocks ≠ 0)) dtb
      apply Board.success_rule (P := DdrAfter _ board) both
      intro _
      have entered : DdrAfter _ board (Board.did (.dropToEl2 bootDtbAddr bootKernelAddr) _) :=
        both.quiet not_false
      exact entered.same rfl rfl

end Effects

/-! ### Every run -/

/-- What is known along the run: DDR is in use because of a `load_sd` or `boot`
before, or because of `ddr`, which then has its flag set. -/
structure Tracks (taken : Prop) (board : Board) : Prop where
  settled : Settled board
  inUse : DdrInUse board.log ↔ taken ∨ board.cmdDdrDone = true

section Tracked

variable {taken : Prop} {board : Board} {command : Command}

theorem Tracks.after {next : Board} (tracks : Tracks taken board) (settled : Settled next)
    {gains : Prop} (after : DdrAfter gains board next) : Tracks (taken ∨ gains) next where
  settled := settled
  inUse := by rw [after.inUse, after.flag, tracks.inUse, or_right_comm]

/-- A command with an unused DDR before its `ddr_init` keeps track. -/
theorem Tracks.run (tracks : Tracks taken board) (unused : CallsUnused board command) :
    Tracks (taken ∨ command.TakesDdr board) (command.run board) := by
  have settled : Settled (command.run board) := settled_rule.run tracks.settled unused
  cases command with
  | ddr outcome =>
      obtain ⟨flag, inUse⟩ := cmdDdr_inUse board outcome
      refine ⟨settled, ?_⟩
      simp only [Command.run, Command.TakesDdr, or_false]
      rw [flag, inUse, tracks.inUse]
      cases board.cmdDdrDone <;> simp
  | loadSd argc arg1 arg2 arg3 hw reads =>
      exact tracks.after settled (cmdLoadSd_ddrAfter board argc arg1 arg2 arg3 hw reads)
  | boot argc arg1 hw kernelReads dtbReads =>
      exact tracks.after settled (cmdBoot_ddrAfter board argc arg1 hw kernelReads dtbReads)
  | sd init read => exact tracks.after settled (cmdSd_ddrAfter board init read)
  | sdw init outcomes => exact tracks.after settled (cmdSdw_ddrAfter board init outcomes)
  | usb outcome => exact tracks.after settled (cmdUsb_ddrAfter board outcome)
  | jump argc arg1 payload => exact tracks.after settled (cmdJump_ddrAfter board argc arg1 payload)

/-- Only `ddr` can find DDR in use. -/
theorem Tracks.callsUnused_iff (tracks : Tracks taken board) :
    CallsUnused board command ↔ (taken → ¬ command.InitsDdr board) := by
  have ensured : board.ddr.size = 0 → ¬ DdrInUse board.log :=
    fun unsized used => tracks.settled.sized used unsized
  unfold CallsUnused
  cases command with
  | ddr outcome =>
      simp only [Command.ddrCall, Command.InitsDdr]
      by_cases done : board.cmdDdrDone = true
      · simp [done]
      · simp [done, tracks.inUse]
  | loadSd argc arg1 arg2 arg3 hw reads =>
      simp only [Command.ddrCall, Option.ite_none_right_eq_some, Command.InitsDdr,
        not_false_eq_true, implies_true, iff_true]
      exact fun outcome call => ensured call.1
  | boot argc arg1 hw kernelReads dtbReads =>
      simp only [Command.ddrCall, Option.ite_none_right_eq_some, Command.InitsDdr,
        not_false_eq_true, implies_true, iff_true]
      exact fun outcome call => ensured call.1
  | sd | sdw | usb | jump => simp [Command.ddrCall, Command.InitsDdr]

/-- Along a run, every `ddr_init` finds DDR unused exactly when the commands
meet the condition, and then DDR is settled at the end. -/
theorem Tracks.ddrFirst_iff {commands : List Command} {finish : Board}
    (tracks : Tracks taken board) (run : Run BoardStep board commands finish) :
    (Run (Guarded CallsUnused BoardStep) board commands finish ↔
        DdrFirst taken board commands) ∧
      (DdrFirst taken board commands → Settled finish) := by
  induction run generalizing taken with
  | nil board => exact ⟨iff_of_true (.nil board) trivial, fun _ => tracks.settled⟩
  | cons step rest ih =>
      obtain ⟨_, rfl⟩ := boardStep_iff.mp step
      constructor
      · constructor
        · intro guarded
          cases guarded with
          | cons first others =>
              obtain ⟨_, rfl⟩ := boardStep_iff.mp first.2
              exact ⟨tracks.callsUnused_iff.mp first.1,
                (ih (tracks.run first.1)).1.mp others⟩
        · rintro ⟨first, others⟩
          have unused := tracks.callsUnused_iff.mpr first
          exact .cons ⟨unused, step⟩ ((ih (tracks.run unused)).1.mpr others)
      · rintro ⟨first, others⟩
        exact (ih (tracks.run (tracks.callsUnused_iff.mpr first))).2 others

end Tracked

theorem tracks_reset (card memory : Store UInt8) : Tracks False (.reset card memory) := by
  have unused : ¬ DdrInUse (Board.reset card memory).log := by
    rintro ⟨_, member, _⟩
    cases member
  refine ⟨⟨everyEntry_nil _, fun used => absurd used unused⟩, iff_of_false unused ?_⟩
  simp [Board.reset]

/-- `load_sd` without arguments on a healthy board. -/
def loadKernel : Command := .loadSd 0 0 0 0 { ddr := .good, sd := .good } fun _ => .ok

/-- `ddr` with its flag clear initialises DDR whatever it holds. -/
theorem run_ddr_again {board : Board} (fresh : board.cmdDdrDone = false)
    (used : DdrInUse board.log) : ¬ NeverAgain ((Command.ddr .good).run board).log := by
  intro never
  have log : ((Command.ddr .good).run board).log =
      board.log ++ [.ddrInit 0] ++ [.printed .ddrOk] := by
    simp [Command.run, Board.cmdDdr, Board.ddrInit, Ddr.ddrInit, fresh, DdrOutcome.good,
      Board.say, Board.did]
  rw [log] at never
  exact (everyEntry_append_single.mp (everyEntry_append_single.mp never).1).2
    (by simp [BoardAction.ddrReturn]) used

end Mp257Fsbl.Boot
