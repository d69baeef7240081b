/-
Module: Mp257Fsbl.Boot.DdrGate
Purpose: Whether images are loaded and Linux is entered only behind a
  successful ddr_init, over every sequence of commands.
Trusted boundary: none
Main exports: DdrUp, TellsTruth, HonestSize, Gated, boardRun_ddrUp
-/
import Mp257Fsbl.Boot.DdrRule
import Mp257Fsbl.Foundation.Log

namespace Mp257Fsbl.Boot

open Mp257Fsbl.Foundation
open Mp257Fsbl.Sd
open Mp257Fsbl.Ddr

/-- What the most recent `ddr_init` of the log returned. -/
abbrev lastDdrInit : List BoardAction → Option Int := latest BoardAction.ddrReturn

/-- Whenever DDR was used, the most recent `ddr_init` had returned zero. -/
abbrev DdrUp : List BoardAction → Prop :=
  EveryEntry fun before action => action.UsesDdr → lastDdrInit before = some 0

/-- The call leaves a nonzero size behind only if it returns zero: it passes
every step, or it stops at PLL2 with no size published before. -/
def TellsTruth (outcome : DdrOutcome) (priv : DdrPriv) : Prop :=
  if outcome.pll2 = 0 then outcome.trained = true → outcome.Passes else priv.size = 0

/-- The `ddr_init` that the command makes, if any, tells the truth. -/
def HonestSize (board : Board) (command : Command) : Prop :=
  ∀ outcome, command.ddrCall board = some outcome → TellsTruth outcome board.ddr

/-! ### The invariant -/

/-- A published size stands for a successful `ddr_init`. -/
structure Gated (board : Board) : Prop where
  up : DdrUp board.log
  sized : board.ddr.size ≠ 0 → lastDdrInit board.log = some 0

/-- DDR may be used now. -/
structure Ready (board : Board) : Prop where
  up : DdrUp board.log
  last : lastDdrInit board.log = some 0

theorem Ready.gated {board : Board} (ready : Ready board) : Gated board where
  up := ready.up
  sized := by
    intro _
    exact ready.last

section Actions

variable {board : Board} {action : BoardAction}

/-- Any action but another `ddr_init` is safe while DDR is up. -/
theorem Ready.did (ready : Ready board) (other : action.ddrReturn = none) :
    Ready (board.did action) where
  up := everyEntry_append_single.mpr ⟨ready.up, fun _ => ready.last⟩
  last := by simpa [Board.did, other] using ready.last

theorem Gated.did (gated : Gated board) (quiet : ¬ action.UsesDdr)
    (other : action.ddrReturn = none) : Gated (board.did action) where
  up := everyEntry_append_single.mpr ⟨gated.up, fun uses => absurd uses quiet⟩
  sized := by
    intro sized
    simpa [Board.did, other] using gated.sized sized

/-- Nothing but the log and the size matters. -/
theorem Gated.of_same {other : Board} (gated : Gated board) (log : other.log = board.log)
    (size : other.ddr.size = board.ddr.size) : Gated other := by
  constructor
  · rw [log]
    exact gated.up
  · rw [log, size]
    exact gated.sized

theorem Ready.of_same {other : Board} (ready : Ready board) (log : other.log = board.log) :
    Ready other := by
  constructor
  · rw [log]
    exact ready.up
  · rw [log]
    exact ready.last

theorem Gated.panic (gated : Gated board) : Gated board.panic :=
  Gated.of_same (gated.did (by simp [BoardAction.UsesDdr]) rfl) rfl rfl

/-- An honest `ddr_init` keeps the gate, and opens it where it returns zero. -/
theorem gated_ddrInit (gated : Gated board) {outcome : DdrOutcome}
    (truth : TellsTruth outcome board.ddr) :
    Gated (board.ddrInit outcome).2 ∧
      ((board.ddrInit outcome).1 = some 0 → Ready (board.ddrInit outcome).2) := by
  unfold Board.ddrInit
  cases called : Ddr.ddrInit outcome board.ddr with
  | none => exact ⟨gated.panic, by simp⟩
  | some result =>
      rcases result with ⟨ret, priv⟩
      have up : DdrUp (board.log ++ [.ddrInit ret]) :=
        everyEntry_append_single.mpr ⟨gated.up, by simp [BoardAction.UsesDdr]⟩
      have last : lastDdrInit (board.log ++ [.ddrInit ret]) = some ret := by
        simp [BoardAction.ddrReturn]
      refine ⟨⟨up, ?_⟩, ?_⟩
      · intro sized
        rcases ddrInit_cases called with ⟨unlocked, rfl, rfl⟩ | ⟨locked, trained, size, returned⟩
        · simp only [TellsTruth, unlocked, if_false] at truth
          exact absurd truth sized
        · simp only [TellsTruth, locked, if_true] at truth
          exact last.trans (congrArg some (returned.mpr (truth trained)))
      · intro zero
        cases zero
        exact ⟨up, last⟩

end Actions

/-- The commands keep the gate, as long as `ddr_init` tells the truth. -/
theorem gated_rule : DdrRule (fun outcome board => TellsTruth outcome board.ddr) Gated Ready where
  kept := Ready.gated
  sized gated sized := ⟨gated.up, gated.sized sized⟩
  kept_same := Gated.of_same
  up_same ready log _ := ready.of_same log
  kept_did := Gated.did
  up_did := Ready.did
  ddrInit gated truth := gated_ddrInit gated truth

/-! ### Where the condition fails -/

section Dishonest

variable {board : Board}

/-- A dishonest `ddr_init` returns an error and leaves a size behind. -/
theorem ddrInit_dishonest {outcome : DdrOutcome} (lie : ¬ TellsTruth outcome board.ddr) :
    ∃ ret next, board.ddrInit outcome = (some ret, next) ∧ ret ≠ 0 ∧
      next.ddr.size ≠ 0 ∧ lastDdrInit next.log = some ret ∧ next.atPrompt = board.atPrompt := by
  have returns : ∃ ret priv, Ddr.ddrInit outcome board.ddr = some (ret, priv) ∧ ret ≠ 0 ∧
      priv.size ≠ 0 := by
    by_cases locked : outcome.pll2 = 0
    · simp only [TellsTruth, locked, if_true, Classical.not_imp] at lie
      rcases lie with ⟨trained, fails⟩
      obtain ⟨⟨ret, priv⟩, called⟩ := ddrInit_returns board.ddr (.inr trained)
      rcases ddrInit_cases called with ⟨unlocked, _⟩ | ⟨_, _, size, returned⟩
      · exact absurd locked unlocked
      · exact ⟨ret, priv, called, mt returned.mp fails, by rw [size]; decide⟩
    · simp only [TellsTruth, locked, if_false] at lie
      exact ⟨outcome.pll2, board.ddr, by simp [Ddr.ddrInit, locked], locked, lie⟩
  rcases returns with ⟨ret, priv, called, failed, sized⟩
  refine ⟨ret, { board with ddr := priv }.did (.ddrInit ret), by simp [Board.ddrInit, called],
    failed, sized, ?_, rfl⟩
  simp [Board.did, BoardAction.ddrReturn]

theorem bootEnsureHw_dishonest {hw : HwOutcome} (unsized : board.ddr.size = 0)
    (lie : ¬ TellsTruth hw.ddr board.ddr) :
    ∃ ret next, board.bootEnsureHw hw = (false, next) ∧ ret ≠ 0 ∧
      next.ddr.size ≠ 0 ∧ lastDdrInit next.log = some ret ∧ next.atPrompt = board.atPrompt := by
  obtain ⟨ret, middle, called, failed, sized, last, prompt⟩ := ddrInit_dishonest lie
  refine ⟨ret, middle.say .ddrInitFailed, ?_, failed, sized, ?_, prompt⟩
  · simp [Board.bootEnsureHw, Board.ensureDdr, unsized, called, failed]
  · simpa [Board.say, Board.did, BoardAction.ddrReturn] using last

/-- A command that breaks the condition returns to the prompt with a size
published and DDR down. -/
theorem run_dishonest {command : Command} (lie : ¬ HonestSize board command) :
    (command.run board).ddr.size ≠ 0 ∧ lastDdrInit (command.run board).log ≠ some 0 ∧
      (command.run board).atPrompt = board.atPrompt := by
  simp only [HonestSize, not_forall] at lie
  rcases lie with ⟨outcome, call, lie⟩
  cases command with
  | ddr own =>
      simp only [Command.ddrCall] at call
      split at call
      · cases call
      · rename_i fresh
        cases call
        obtain ⟨ret, next, called, failed, sized, last, prompt⟩ := ddrInit_dishonest lie
        have after : Command.run (.ddr outcome) board = next.say .ddrFailed := by
          simp [Command.run, Board.cmdDdr, fresh, called, failed]
        rw [after]
        refine ⟨sized, ?_, prompt⟩
        simpa [Board.say, Board.did, BoardAction.ddrReturn, last] using failed
  | loadSd argc arg1 arg2 arg3 hw reads =>
      simp only [Command.ddrCall] at call
      split at call
      · rename_i unsized
        cases call
        obtain ⟨ret, next, called, failed, sized, last, prompt⟩ :=
          bootEnsureHw_dishonest unsized lie
        have after : Command.run (.loadSd argc arg1 arg2 arg3 hw reads) board = next := by
          simp [Command.run, Board.cmdLoadSd, called]
        rw [after]
        exact ⟨sized, by simpa [last] using failed, prompt⟩
      · cases call
  | boot argc arg1 hw kernelReads dtbReads =>
      simp only [Command.ddrCall] at call
      split at call
      · rename_i unsized
        cases call
        obtain ⟨ret, next, called, failed, sized, last, prompt⟩ :=
          bootEnsureHw_dishonest unsized lie
        have after : Command.run (.boot argc arg1 hw kernelReads dtbReads) board = next := by
          simp [Command.run, Board.cmdBoot, called]
        rw [after]
        exact ⟨sized, by simpa [last] using failed, prompt⟩
      · cases call
  | sd | sdw | usb | jump => cases call

/-- A `load_sd` of no blocks on a healthy board. -/
def loadNothing : Command :=
  .loadSd 1 0 0 0 { ddr := .good, sd := .good } fun _ => .ok

/-- With a size published and DDR down, `load_sd` goes on to load. -/
theorem loadNothing_usesDdr (prompt : board.atPrompt = true) (sized : board.ddr.size ≠ 0)
    (down : lastDdrInit board.log ≠ some 0) :
    ∃ finish, BoardStep board loadNothing finish ∧ ¬ DdrUp finish.log := by
  obtain ⟨middle, ensured, same⟩ : ∃ middle,
      board.bootEnsureHw { ddr := .good, sd := .good } = (true, middle) ∧
        lastDdrInit middle.log = lastDdrInit board.log := by
    by_cases empty : board.sd.info.sdSizeBytes = 0
    · refine ⟨{ board with sd := { mmcDevType := .isSdHc, info := .smallest } }.did (.sdInit 0),
        ?_, ?_⟩
      · simp [Board.bootEnsureHw, Board.ensureDdr, Board.ensureSd, Board.sdInit, sized, empty,
          sdInit_good]
      · simp [Board.did, BoardAction.ddrReturn]
    · refine ⟨board, ?_, rfl⟩
      simp [Board.bootEnsureHw, Board.ensureDdr, Board.ensureSd, sized, empty]
  refine ⟨loadNothing.run board, by simp [Partial, prompt], ?_⟩
  intro up
  have loaded : (loadNothing.run board).log =
      middle.log ++ [.loadRegion 0 bootKernelLba bootKernelAddr] ++
        [.printed (.loaded 0 bootKernelLba bootKernelAddr 0)] := by
    simp only [loadNothing, Command.run, Board.cmdLoadSd, ensured]
    simp [Board.loadRegion, loadRegion_zero, Board.say, Board.did, checksum]
  rw [loaded] at up
  exact down (same ▸ (everyEntry_append_single.mp (everyEntry_append_single.mp up).1).2 trivial)

end Dishonest

/-! ### Every run -/

theorem gated_reset (card memory : Store UInt8) : Gated (.reset card memory) where
  up := everyEntry_nil _
  sized := fun sized => absurd rfl sized

/-- In every run in which no failing `ddr_init` leaves a size behind, images
are loaded and Linux is entered only behind a successful `ddr_init`; and any
command that breaks the condition can be followed by a `load_sd` that loads
without one. -/
theorem boardRun_ddrUp {card memory : Store UInt8} {commands : List Command} {board : Board}
    (run : Run (Guarded HonestSize BoardStep) (.reset card memory) commands board) :
    DdrUp board.log ∧
      ∀ command next, BoardStep board command next → ¬ HonestSize board command →
        ∃ finish, BoardStep next loadNothing finish ∧ ¬ DdrUp finish.log := by
  have gated : Gated board := by
    apply run.guarded_invariant Gated _ (gated_reset card memory)
    intro state command next gated honest taken
    obtain ⟨_, rfl⟩ := boardStep_iff.mp taken
    exact gated_rule.run gated honest
  refine ⟨gated.up, ?_⟩
  intro command next taken lie
  obtain ⟨prompt, rfl⟩ := boardStep_iff.mp taken
  obtain ⟨sized, down, same⟩ := run_dishonest lie
  exact loadNothing_usesDdr (same.trans prompt) sized down

/-- The `boot` command without arguments on a healthy board. -/
def bootLinux : Command :=
  .boot 0 0 { ddr := .good, sd := .good } (fun _ => .ok) fun _ => .ok

theorem boardRun_ddrUp_boot :
    DdrUp
      (bootLinux.run ((Command.ddr .good).run (.reset (fun _ => 0) fun _ => 0))).log := by
  have run : Run (Guarded HonestSize BoardStep) (.reset (fun _ => 0) fun _ => 0)
      [.ddr .good, bootLinux]
      (bootLinux.run ((Command.ddr .good).run (.reset (fun _ => 0) fun _ => 0))) := by
    refine .cons ⟨?_, boardStep_iff.mpr ⟨rfl, rfl⟩⟩
      (.single ⟨?_, boardStep_iff.mpr ⟨rfl, rfl⟩⟩)
    · intro outcome call
      cases call
      exact fun _ => DdrOutcome.good_passes
    · intro outcome call
      cases call
  exact (boardRun_ddrUp run).1

/-- A data line of the memory is broken. -/
def dataBusFails : DdrOutcome := { DdrOutcome.good with dataBus := 0x80000000 }

/-- `ddr` reports the failed test; the next `load_sd` loads all the same. -/
theorem boardRun_dataBusFails_loads :
    ∃ board, Run BoardStep (.reset (fun _ => 0) fun _ => 0) [.ddr dataBusFails, loadNothing] board ∧
      ¬ DdrUp board.log := by
  have lie : ¬ HonestSize (.reset (fun _ => 0) fun _ => 0) (.ddr dataBusFails) := by
    intro honest
    have passes : dataBusFails.Passes := honest dataBusFails rfl rfl
    exact absurd passes.2.2.1 (by decide)
  obtain ⟨sized, down, prompt⟩ := run_dishonest lie
  obtain ⟨board, taken, notUp⟩ := loadNothing_usesDdr prompt sized down
  exact ⟨board, .cons (boardStep_iff.mpr ⟨rfl, rfl⟩) (.single taken), notUp⟩

end Mp257Fsbl.Boot
