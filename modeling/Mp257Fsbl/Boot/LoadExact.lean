/-
Module: Mp257Fsbl.Boot.LoadExact
Purpose: What load_sd reports against what it has put into memory, and the
  arguments for which the two agree.
Trusted boundary: none
Main exports: HoldsBlocks, WritesOnly, LoadsExactly, cmdLoadSd_exact_iff
-/
import Mathlib.Algebra.BigOperators.Group.Finset.Basic
import Mp257Fsbl.Boot.Board
import Mp257Fsbl.Boot.Chunks

namespace Mp257Fsbl.Boot

open Mp257Fsbl.Foundation
open Mp257Fsbl.Sd

/-! ### What is promised -/

/-- The first `count` blocks from `lba` on are at their addresses from `dest`
on; neither the block numbers nor the addresses wrap. -/
def HoldsBlocks (card memory : Store UInt8) (lba dest count : Nat) : Prop :=
  ∀ block < count, ∀ byte < 512,
    memory (dest + 512 * block + byte) = card (512 * (lba + block) + byte)

/-- Only the first `count` blocks from `dest` on differ. -/
def WritesOnly (before after : Store UInt8) (dest count : Nat) : Prop :=
  ∀ address, address < dest ∨ dest + 512 * count ≤ address → after address = before address

/-- The little-endian word at an address. -/
def loadedWord (memory : Store UInt8) (address : Nat) : Nat :=
  (memory (address + 3)).toNat * 2 ^ 24 + (memory (address + 2)).toNat * 2 ^ 16 +
    (memory (address + 1)).toNat * 2 ^ 8 + (memory address).toNat

/-- The values `cmd_load_sd` works with. -/
structure LoadArgs where
  n : UInt32
  lba : UInt32
  dest : UInt32

/-- The arguments as typed, or the defaults. -/
def loadSdArgs (argc : Nat) (arg1 arg2 arg3 : UInt32) : LoadArgs where
  n := if argc ≥ 1 then arg1 else bootKernelBlocks
  lba := if argc ≥ 2 then arg2 else bootKernelLba
  dest := if argc ≥ 3 then arg3 else bootKernelAddr

/-- What was logged since `ready`. -/
def Board.since (ready after : Board) : List BoardAction := after.log.drop ready.log.length

/-- The promise of `load_sd`: `ready` is the board after `boot_ensure_hw`,
`after` the one after the command. -/
structure LoadsExactly (args : LoadArgs) (reads : UInt32 → SdOutcome) (ready after : Board) :
    Prop where
  /-- What the `loaded` line says is what happened. -/
  loaded : ∀ n lba dest sum, .printed (.loaded n lba dest sum) ∈ ready.since after →
    (n = args.n ∧ lba = args.lba ∧ dest = args.dest) ∧
      HoldsBlocks ready.card after.ddr.memory lba.toNat dest.toNat n.toNat ∧
      WritesOnly ready.ddr.memory after.ddr.memory dest.toNat n.toNat ∧
      sum.toNat =
        (∑ i ∈ Finset.range (128 * n.toNat),
          loadedWord after.ddr.memory (dest.toNat + 4 * i)) % 2 ^ 32
  /-- The first read that fails is reported, with the chunks before it loaded. -/
  failed : .loadRegion args.n args.lba args.dest ∈ ready.since after →
    ∀ stop residue, stop < args.n → stop.toNat % 2048 = 0 → ReadsSucceed reads 0 stop.toNat →
      reads stop = .fail residue →
        HoldsBlocks ready.card after.ddr.memory args.lba.toNat args.dest.toNat stop.toNat ∧
          WritesOnly ready.ddr.memory after.ddr.memory args.dest.toNat
            (min args.n.toNat (stop.toNat + 2048)) ∧
          (∃ block, block.toNat = args.lba.toNat + stop.toNat ∧
            .printed (.loadReadFailed block) ∈ ready.since after) ∧
          ∀ n lba dest sum, .printed (.loaded n lba dest sum) ∉ ready.since after

/-! ### The sum -/

theorem checksum_toNat (memory : Store UInt8) (dest words : Nat) :
    (checksum memory dest words).toNat =
      (∑ i ∈ Finset.range words, loadedWord memory (dest + 4 * i)) % 2 ^ 32 := by
  induction words with
  | zero => rfl
  | succ words ih =>
      rw [checksum, UInt32.toNat_add, ih, Finset.sum_range_succ, word32_toNat, Nat.mod_add_mod]
      rfl

/-- The word count does not wrap where the addresses do not. -/
theorem Unwrapped.words {n lba dest : UInt32} (unwrapped : Unwrapped n lba dest) :
    (n * (sdBlockSize / 4)).toNat = 128 * n.toNat := by
  have bound := unwrapped.dest
  have small := n.toNat_lt
  have size : (sdBlockSize / 4).toNat = 128 := rfl
  simp only [lastChunk] at bound
  rw [UInt32.toNat_mul, size]
  omega

/-! ### The command -/

section Command

variable {board ready : Board} {hw : HwOutcome} {reads : UInt32 → SdOutcome} {argc : Nat}
  {arg1 arg2 arg3 : UInt32} {args : LoadArgs}

/-- Where the hardware does not come up, nothing is loaded. -/
theorem cmdLoadSd_not_ready (down : board.bootEnsureHw hw = (false, ready)) :
    board.cmdLoadSd argc arg1 arg2 arg3 hw reads = ready := by
  simp [Board.cmdLoadSd, down]

theorem cmdLoadSd_ok {memory : Store UInt8} (given : loadSdArgs argc arg1 arg2 arg3 = args)
    (up : board.bootEnsureHw hw = (true, ready))
    (runs : Boot.loadRegion reads ready.card args.n args.lba args.dest 0 ready.ddr.memory =
      (none, memory)) :
    (board.cmdLoadSd argc arg1 arg2 arg3 hw reads).ddr.memory = memory ∧
      ready.since (board.cmdLoadSd argc arg1 arg2 arg3 hw reads) =
        [.loadRegion args.n args.lba args.dest,
          .printed (.loaded args.n args.lba args.dest
            (checksum memory args.dest.toNat (args.n * (sdBlockSize / 4)).toNat))] := by
  subst given
  simp only [loadSdArgs] at runs
  simp [Board.since, Board.cmdLoadSd, up, Board.loadRegion, runs, Board.say, Board.did, loadSdArgs]

theorem cmdLoadSd_fail {block : UInt32} {memory : Store UInt8}
    (given : loadSdArgs argc arg1 arg2 arg3 = args)
    (up : board.bootEnsureHw hw = (true, ready))
    (runs : Boot.loadRegion reads ready.card args.n args.lba args.dest 0 ready.ddr.memory =
      (some block, memory)) :
    (board.cmdLoadSd argc arg1 arg2 arg3 hw reads).ddr.memory = memory ∧
      ready.since (board.cmdLoadSd argc arg1 arg2 arg3 hw reads) =
        [.loadRegion args.n args.lba args.dest, .printed (.loadReadFailed block)] := by
  subst given
  simp only [loadSdArgs] at runs
  simp [Board.since, Board.cmdLoadSd, up, Board.loadRegion, runs, Board.say, Board.did, loadSdArgs]

/-- Up to a read that fails, where nothing wraps. -/
theorem failed_of_unwrapped (given : loadSdArgs argc arg1 arg2 arg3 = args)
    (unwrapped : Unwrapped args.n args.lba args.dest)
    (up : board.bootEnsureHw hw = (true, ready)) {stop : UInt32} {residue : Store UInt8}
    (inside : stop < args.n) (start : stop.toNat % 2048 = 0)
    (succeed : ReadsSucceed reads 0 stop.toNat) (fails : reads stop = .fail residue) :
    let after := board.cmdLoadSd argc arg1 arg2 arg3 hw reads
    HoldsBlocks ready.card after.ddr.memory args.lba.toNat args.dest.toNat stop.toNat ∧
      WritesOnly ready.ddr.memory after.ddr.memory args.dest.toNat
        (min args.n.toNat (stop.toNat + 2048)) ∧
      ready.since after = [.loadRegion args.n args.lba args.dest,
        .printed (.loadReadFailed (args.lba + stop))] ∧
      (args.lba + stop).toNat = args.lba.toNat + stop.toNat := by
  have le : stop.toNat ≤ args.n.toNat := Nat.le_of_lt (UInt32.lt_iff_toNat_lt.mp inside)
  have before : stop.toNat ≤ lastChunk args.n := AtChunk.le_last ⟨le, .inl start⟩ inside
  obtain ⟨memory, lines⟩ := cmdLoadSd_fail given up
    (loadRegion_stops unwrapped inside start succeed fails)
  refine ⟨?_, ?_, lines, unwrapped.block before⟩
  · intro block loaded byte small
    rw [memory, Store.overlay_before (by omega)]
    exact copied_inside ready.card _ _ _ loaded small
  · intro address outside
    rw [memory, Store.overlay_outside (by rw [Store.window_length]; omega)]
    exact copied_outside ready.card _ _ _ (by omega)

/-- Where nothing wraps, `load_sd` loads what it reports. -/
theorem loadsExactly_of_unwrapped (given : loadSdArgs argc arg1 arg2 arg3 = args)
    (unwrapped : Unwrapped args.n args.lba args.dest) (board : Board) (hw : HwOutcome)
    (reads : UInt32 → SdOutcome) :
    LoadsExactly args reads (board.bootEnsureHw hw).2
      (board.cmdLoadSd argc arg1 arg2 arg3 hw reads) := by
  rcases up : board.bootEnsureHw hw with ⟨_ | _, ready⟩
  · rw [cmdLoadSd_not_ready up]
    have nothing : ready.since ready = [] := List.drop_length
    constructor
    · intro n lba dest sum printed
      rw [nothing] at printed
      cases printed
    · intro called
      rw [nothing] at called
      cases called
  · constructor
    · intro n lba dest sum printed
      rcases runs : Boot.loadRegion reads ready.card args.n args.lba args.dest 0
        ready.ddr.memory with ⟨_ | block, memory⟩
      · obtain ⟨after, lines⟩ := cmdLoadSd_ok given up runs
        have succeed := @loadRegion_none reads ready.card ready.ddr.memory args.n args.lba
          args.dest 0 (atChunk_zero args.n) (by rw [runs])
        have whole := @loadRegion_whole reads ready.card ready.ddr.memory args.n args.lba
          args.dest unwrapped succeed
        have copy : memory = _ := congrArg Prod.snd (runs.symm.trans whole)
        rw [lines] at printed
        simp only [List.mem_cons, reduceCtorEq, BoardAction.printed.injEq, Report.loaded.injEq,
          List.not_mem_nil, or_false, false_or] at printed
        obtain ⟨rfl, rfl, rfl, rfl⟩ := printed
        rw [after]
        refine ⟨⟨rfl, rfl, rfl⟩, ?_, ?_, ?_⟩
        · intro block inside byte small
          rw [copy]
          exact copied_inside ready.card _ _ _ inside small
        · intro address outside
          rw [copy]
          exact copied_outside ready.card _ _ _ outside
        · rw [checksum_toNat, unwrapped.words]
      · obtain ⟨_, lines⟩ := cmdLoadSd_fail given up runs
        simp [lines] at printed
    · intro _ stop residue inside start succeed fails
      obtain ⟨holds, only, lines, value⟩ :=
        failed_of_unwrapped given unwrapped up inside start succeed fails
      refine ⟨holds, only, ⟨args.lba + stop, value, ?_⟩, ?_⟩
      · rw [lines]
        exact .tail _ (.head _)
      · intro n lba dest sum printed
        simp [lines] at printed

end Command

/-! ### The arguments that work -/

/-- A board on which DDR and a card with a block of every number are up. -/
def upBoard (card memory : Store UInt8) : Board :=
  { Board.reset card memory with
    ddr := { size := Ddr.ddrMemSize, memory := memory }
    sd := { mmcDevType := .isSdHc, info := .largest } }

theorem upBoard_ready (card memory : Store UInt8) (hw : HwOutcome) :
    (upBoard card memory).bootEnsureHw hw = (true, upBoard card memory) := by
  have sized : SdDevInfo.largest.sdSizeBytes ≠ 0 := by decide
  have ddr : Ddr.ddrMemSize ≠ 0 := by decide
  simp [Board.bootEnsureHw, Board.ensureDdr, Board.ensureSd, upBoard, sized, ddr]

/-- Where something wraps, some board is told of a load that did not happen. -/
theorem not_loadsExactly_of_wrapped {argc : Nat} {arg1 arg2 arg3 : UInt32} {args : LoadArgs}
    (given : loadSdArgs argc arg1 arg2 arg3 = args)
    (wrapped : ¬ Unwrapped args.n args.lba args.dest) (hw : HwOutcome) :
    ∃ board : Board, ¬ LoadsExactly args (fun _ => .ok) (board.bootEnsureHw hw).2
      (board.cmdLoadSd argc arg1 arg2 arg3 hw fun _ => .ok) := by
  obtain ⟨card, memory, block, inside, differs⟩ := loadRegion_wrapped wrapped
  have up := upBoard_ready card memory hw
  obtain ⟨after, lines⟩ := cmdLoadSd_ok given up
    (Prod.ext (loadRegion_ok_end args.n args.lba args.dest card memory) rfl)
  refine ⟨upBoard card memory, fun exact_ => differs ?_⟩
  rw [up] at exact_
  have printed := lines ▸ List.mem_cons_of_mem _ List.mem_cons_self
  obtain ⟨_, holds, _⟩ := exact_.loaded _ _ _ _ printed
  have there := holds block inside 0 (by omega)
  rw [after] at there
  exact there

/-- On every board, with every outcome of every read, `load_sd` loads exactly
what it reports: this holds exactly for the arguments with which neither the
address nor the block number of the last chunk wraps. -/
theorem cmdLoadSd_exact_iff (argc : Nat) (arg1 arg2 arg3 : UInt32) :
    (∀ (board : Board) (hw : HwOutcome) (reads : UInt32 → SdOutcome),
      LoadsExactly (loadSdArgs argc arg1 arg2 arg3) reads (board.bootEnsureHw hw).2
        (board.cmdLoadSd argc arg1 arg2 arg3 hw reads)) ↔
      Unwrapped (loadSdArgs argc arg1 arg2 arg3).n (loadSdArgs argc arg1 arg2 arg3).lba
        (loadSdArgs argc arg1 arg2 arg3).dest := by
  constructor
  · intro all
    by_contra wrapped
    obtain ⟨board, inexact⟩ := not_loadsExactly_of_wrapped rfl wrapped ⟨.good, .good⟩
    exact inexact (all board _ _)
  · intro unwrapped board hw reads
    exact loadsExactly_of_unwrapped rfl unwrapped board hw reads

/-- `load_sd 2049 0 0xFFF00000`: the second chunk goes to address zero and not
to 2^32. -/
theorem cmdLoadSd_wraps :
    let board := upBoard (fun _ => 1) fun _ => 0
    let after := board.cmdLoadSd 3 2049 0 0xFFF00000 ⟨.good, .good⟩ fun _ => .ok
    (∃ sum, .printed (.loaded 2049 0 0xFFF00000 sum) ∈ board.since after) ∧
      after.ddr.memory (0xFFF00000 + 512 * 2048) = 0 ∧
      ¬ LoadsExactly (loadSdArgs 3 2049 0 0xFFF00000) (fun _ => .ok)
        (board.bootEnsureHw ⟨.good, .good⟩).2 after := by
  intro board after
  have up := upBoard_ready (fun _ => 1) (fun _ => 0) ⟨.good, .good⟩
  obtain ⟨memory, lines⟩ := @cmdLoadSd_ok _ _ _ (fun _ => .ok) 3 2049 0 0xFFF00000
    ⟨2049, 0, 0xFFF00000⟩ _ rfl up (Prod.ext (loadRegion_ok_end _ _ _ _ _) rfl)
  have printed : ∃ sum, .printed (.loaded 2049 0 0xFFF00000 sum) ∈ board.since after :=
    ⟨_, lines ▸ List.mem_cons_of_mem _ List.mem_cons_self⟩
  have missing : after.ddr.memory (0xFFF00000 + 512 * 2048) = 0 := by
    rw [memory]
    exact loadRegion_unreached _ (atChunk_zero 2049) (by decide) (by decide)
  refine ⟨printed, missing, fun exact_ => ?_⟩
  rw [up] at exact_
  obtain ⟨sum, line⟩ := printed
  obtain ⟨_, holds, _⟩ := exact_.loaded _ _ _ _ line
  have there := holds 2048 (by decide) 0 (by decide)
  exact absurd (missing.symm.trans there) UInt8.zero_ne_one

end Mp257Fsbl.Boot
