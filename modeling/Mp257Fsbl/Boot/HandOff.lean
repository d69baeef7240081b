/-
Module: Mp257Fsbl.Boot.HandOff
Purpose: What the memory holds when boot leaves for EL2, and the kernel sizes for
  which kernel and device tree are both intact then.
Trusted boundary: none
Main exports: KernelIntact, cmdBoot_intact_iff
-/
import Mp257Fsbl.Boot.LoadExact

namespace Mp257Fsbl.Boot

open Mp257Fsbl.Foundation
open Mp257Fsbl.Sd

/-! ### What is promised -/

/-- Kernel and device tree are where the hand-off expects them. -/
structure KernelIntact (card memory : Store UInt8) (kernelBlocks : UInt32) : Prop where
  kernel : HoldsBlocks card memory 262144 0x84000000 kernelBlocks.toNat
  dtb : HoldsBlocks card memory 327680 0x86000000 512

/-- The `kernel_blocks` that `cmd_boot` works with. -/
def bootBlocks (argc : Nat) (arg1 : UInt32) : UInt32 := if argc ≥ 1 then arg1 else bootKernelBlocks

/-- The largest kernel whose last chunk starts below 2^32. -/
def largestKernel : Nat := 4063232

theorem unwrapped_kernel_iff (kernelBlocks : UInt32) :
    Unwrapped kernelBlocks bootKernelLba bootKernelAddr ↔ kernelBlocks.toNat ≤ largestKernel := by
  have lba : bootKernelLba.toNat = 262144 := rfl
  have addr : bootKernelAddr.toNat = 0x84000000 := rfl
  constructor
  · intro unwrapped
    have bound := unwrapped.dest
    rw [addr, lastChunk] at bound
    simp only [largestKernel]
    omega
  · intro small
    simp only [largestKernel] at small
    constructor
    · rw [addr, lastChunk]
      omega
    · rw [lba, lastChunk]
      omega

theorem unwrapped_dtb : Unwrapped bootDtbBlocks bootDtbLba bootDtbAddr := by decide

/-! ### The two loads -/

section Loads

variable {board ready : Board} {hw : HwOutcome} {kernelReads dtbReads : UInt32 → SdOutcome}
  {argc : Nat} {arg1 dtb kernel : UInt32}

theorem cmdBoot_not_ready (down : board.bootEnsureHw hw = (false, ready)) :
    board.cmdBoot argc arg1 hw kernelReads dtbReads = ready := by
  simp [Board.cmdBoot, down]

/-- Where both loads end without a failure, the memory at the hand-off is what
the second leaves on top of the first. -/
theorem cmdBoot_loads {loaded memory : Store UInt8}
    (up : board.bootEnsureHw hw = (true, ready))
    (first : Boot.loadRegion kernelReads ready.card (bootBlocks argc arg1) bootKernelLba
      bootKernelAddr 0 ready.ddr.memory = (none, loaded))
    (second : Boot.loadRegion dtbReads ready.card bootDtbBlocks bootDtbLba bootDtbAddr 0 loaded =
      (none, memory)) :
    (board.cmdBoot argc arg1 hw kernelReads dtbReads).card = ready.card ∧
      (board.cmdBoot argc arg1 hw kernelReads dtbReads).ddr.memory = memory ∧
      ready.since (board.cmdBoot argc arg1 hw kernelReads dtbReads) =
        [.loadRegion (bootBlocks argc arg1) bootKernelLba bootKernelAddr,
          .loadRegion bootDtbBlocks bootDtbLba bootDtbAddr,
          .dropToEl2 bootDtbAddr bootKernelAddr] := by
  simp only [bootBlocks] at first
  simp [Board.since, Board.cmdBoot, up, Board.loadRegion, first, second, Board.did, bootBlocks]

/-- The hand-off is reached only past two loads that ended without a failure. -/
theorem cmdBoot_reached (up : board.bootEnsureHw hw = (true, ready))
    (reached : .dropToEl2 dtb kernel ∈
      ready.since (board.cmdBoot argc arg1 hw kernelReads dtbReads)) :
    ∃ loaded memory,
      Boot.loadRegion kernelReads ready.card (bootBlocks argc arg1) bootKernelLba bootKernelAddr 0
        ready.ddr.memory = (none, loaded) ∧
      Boot.loadRegion dtbReads ready.card bootDtbBlocks bootDtbLba bootDtbAddr 0 loaded =
        (none, memory) := by
  rcases first : Boot.loadRegion kernelReads ready.card (bootBlocks argc arg1) bootKernelLba
    bootKernelAddr 0 ready.ddr.memory with ⟨_ | block, loaded⟩
  · rcases second : Boot.loadRegion dtbReads ready.card bootDtbBlocks bootDtbLba bootDtbAddr 0
      loaded with ⟨_ | block, memory⟩
    · exact ⟨loaded, memory, rfl, second⟩
    · simp only [bootBlocks] at first
      simp [Board.since, Board.cmdBoot, up, Board.loadRegion, first, second, Board.say,
        Board.did] at reached
  · simp only [bootBlocks] at first
    simp [Board.since, Board.cmdBoot, up, Board.loadRegion, first, Board.say, Board.did] at reached

end Loads

/-! ### One load on top of the other -/

/-- Copying blocks to where they belong leaves in place what is there. -/
theorem HoldsBlocks.copied {card memory : Store UInt8} {lba dest count : Nat}
    (holds : HoldsBlocks card memory lba dest count) (offset upto : Nat) :
    HoldsBlocks card (copied card (lba + offset) (dest + 512 * offset) 0 upto memory) lba dest
      count := by
  intro block inside byte small
  by_cases again : offset ≤ block ∧ block < offset + upto
  · obtain ⟨later, rfl⟩ := Nat.exists_eq_add_of_le again.1
    rw [Nat.mul_add, ← Nat.add_assoc dest, ← Nat.add_assoc lba]
    exact copied_inside card _ _ memory (by omega) small
  · rw [copied_outside card _ _ memory (by omega)]
    exact holds block inside byte small

/-- The device tree lies on kernel block 65536, which is the same block of the
card. -/
theorem kernelIntact_copied (card memory : Store UInt8) (kernelBlocks : UInt32) :
    KernelIntact card
      (copied card bootDtbLba.toNat bootDtbAddr.toNat 0 bootDtbBlocks.toNat
        (copied card bootKernelLba.toNat bootKernelAddr.toNat 0 kernelBlocks.toNat memory))
      kernelBlocks := by
  constructor
  · have kernel : HoldsBlocks card
        (copied card 262144 0x84000000 0 kernelBlocks.toNat memory) 262144 0x84000000
        kernelBlocks.toNat := fun _ inside _ small => copied_inside card _ _ memory inside small
    exact kernel.copied 65536 512
  · intro block inside byte small
    exact copied_inside card _ _ _ inside small

/-! ### The kernel sizes that work -/

/-- A kernel too large: the card has it, both loads report no failure, and the
first byte of its last chunk is not in the memory. -/
theorem cmdBoot_wrapped {argc : Nat} {arg1 : UInt32}
    (wrapped : ¬ Unwrapped (bootBlocks argc arg1) bootKernelLba bootKernelAddr) (hw : HwOutcome) :
    let board := upBoard (fun _ => 1) fun _ => 0
    let after := board.cmdBoot argc arg1 hw (fun _ => .ok) fun _ => .ok
    .dropToEl2 bootDtbAddr bootKernelAddr ∈ board.since after ∧
      ¬ KernelIntact after.card after.ddr.memory (bootBlocks argc arg1) := by
  intro board after
  have up := upBoard_ready (fun _ => 1) (fun _ => 0) hw
  have dtbReads : ReadsSucceed (fun _ => .ok) 0 bootDtbBlocks.toNat := fun _ _ _ _ => rfl
  obtain ⟨card, memory, lines⟩ := @cmdBoot_loads board board hw (fun _ => .ok) (fun _ => .ok)
    argc arg1 _ _ up (Prod.ext (loadRegion_ok_end _ _ _ _ _) rfl)
    (loadRegion_whole unwrapped_dtb dtbReads)
  refine ⟨by rw [lines]; simp, fun intact => ?_⟩
  have large : largestKernel < (bootBlocks argc arg1).toNat :=
    Nat.lt_of_not_le fun small => wrapped ((unwrapped_kernel_iff _).mpr small)
  simp only [largestKernel] at large
  have addr : bootKernelAddr.toNat = 0x84000000 := rfl
  have there := intact.kernel (lastChunk (bootBlocks argc arg1))
    (by simp only [lastChunk]; omega) 0 (by omega)
  -- Neither load reaches the address: it is past the device tree, and past 2^32.
  have above : 2 ^ 32 ≤ 0x84000000 + 512 * lastChunk (bootBlocks argc arg1) := by
    simp only [lastChunk]
    omega
  have dtbEnd : bootDtbAddr.toNat + 512 * bootDtbBlocks.toNat ≤ 2 ^ 32 := by decide
  have unreached := @loadRegion_unreached (fun _ => .ok) board.card (bootBlocks argc arg1)
    bootKernelLba bootKernelAddr 0 _ board.ddr.memory (atChunk_zero _) above
    (by rw [addr]; simp only [lastChunk]; omega)
  rw [card, memory, Nat.add_zero, copied_outside _ _ _ _ (by omega)] at there
  exact absurd (unreached.symm.trans there) UInt8.zero_ne_one

/-- At the hand-off kernel and device tree are both intact, on every board and
with every outcome of every read: this holds exactly for the kernels whose last
chunk starts below 2^32. -/
theorem cmdBoot_intact_iff (argc : Nat) (arg1 : UInt32) :
    (∀ (board : Board) (hw : HwOutcome) (kernelReads dtbReads : UInt32 → SdOutcome)
        (dtb kernel : UInt32),
      .dropToEl2 dtb kernel ∈ (board.bootEnsureHw hw).2.since
          (board.cmdBoot argc arg1 hw kernelReads dtbReads) →
        KernelIntact (board.cmdBoot argc arg1 hw kernelReads dtbReads).card
          (board.cmdBoot argc arg1 hw kernelReads dtbReads).ddr.memory
          (bootBlocks argc arg1)) ↔
      (bootBlocks argc arg1).toNat ≤ largestKernel := by
  rw [← unwrapped_kernel_iff]
  constructor
  · intro all
    by_contra wrapped
    obtain ⟨reached, broken⟩ := cmdBoot_wrapped wrapped ⟨.good, .good⟩
    have up := upBoard_ready (fun _ => 1) (fun _ => 0) ⟨.good, .good⟩
    exact broken (all _ _ _ _ _ _ (by rw [up]; exact reached))
  · intro unwrapped board hw kernelReads dtbReads dtb kernel reached
    rcases up : board.bootEnsureHw hw with ⟨_ | _, ready⟩
    · rw [up, cmdBoot_not_ready up] at reached
      simp [Board.since] at reached
    · rw [up] at reached
      obtain ⟨loaded, memory, first, second⟩ := cmdBoot_reached up reached
      obtain ⟨card, left, _⟩ := cmdBoot_loads up first second
      have kernelRead := @loadRegion_none kernelReads ready.card ready.ddr.memory _ bootKernelLba
        bootKernelAddr 0 (atChunk_zero (bootBlocks argc arg1)) (by rw [first])
      have dtbRead := @loadRegion_none dtbReads ready.card loaded _ bootDtbLba bootDtbAddr 0
        (atChunk_zero bootDtbBlocks) (by rw [second])
      rw [loadRegion_whole unwrapped kernelRead] at first
      rw [loadRegion_whole unwrapped_dtb dtbRead] at second
      obtain ⟨_, rfl⟩ := Prod.mk.injEq .. ▸ first
      obtain ⟨_, rfl⟩ := Prod.mk.injEq .. ▸ second
      rw [card, left]
      exact kernelIntact_copied ready.card ready.ddr.memory (bootBlocks argc arg1)

/-- `boot 4063233`: the block after the largest kernel goes to address zero. -/
theorem cmdBoot_kernel_wraps :
    let board := upBoard (fun _ => 1) fun _ => 0
    let after := board.cmdBoot 1 4063233 ⟨.good, .good⟩ (fun _ => .ok) fun _ => .ok
    .dropToEl2 bootDtbAddr bootKernelAddr ∈
        (board.bootEnsureHw ⟨.good, .good⟩).2.since after ∧
      ¬ KernelIntact after.card after.ddr.memory 4063233 := by
  intro board after
  rw [upBoard_ready]
  exact @cmdBoot_wrapped 1 4063233 (by decide) ⟨.good, .good⟩

end Mp257Fsbl.Boot
