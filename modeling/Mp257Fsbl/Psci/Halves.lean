/-
Module: Mp257Fsbl.Psci.Halves
Purpose: Which 32-bit PSCI calls read the upper halves of their argument
  registers.
Trusted boundary: none
Main exports: Smc32, SameLow, IgnoresUpperHalves, psciSmc_ignoresUpperHalves_iff
-/
import Mp257Fsbl.Psci.Smc

namespace Mp257Fsbl.Psci

/-- Bit 30 of the identifier is clear: a call of the 32-bit convention. -/
def Smc32 (fid : UInt64) : Prop := fid.toUInt32 &&& 0x40000000 = 0

/-- Two values of a register that a 32-bit caller cannot tell apart. -/
def SameLow (a b : UInt64) : Prop := a.toUInt32 = b.toUInt32

/-- Both calls return the same and leave the same state. -/
def IgnoresUpperHalves (fid a1 a2 a3 b1 b2 b3 : UInt64) (s : PsciState) : Prop :=
  psciSmc fid a1 a2 a3 s = psciSmc fid b1 b2 b3 s

/-! ### What the masks keep -/

/-- The affinity fields lie in the lower half. -/
theorem affinity_of_sameLow {a b : UInt64} (same : SameLow a b) :
    a &&& 0xFFFFFF = b &&& 0xFFFFFF := by
  have masked (x : UInt64) : (x &&& 0xFFFFFF).toNat = x.toNat % 2 ^ 24 :=
    Nat.and_two_pow_sub_one_eq_mod x.toNat 24
  have low := congrArg UInt32.toNat same
  simp only [UInt64.toNat_toUInt32] at low
  apply UInt64.toNat_inj.mp
  rw [masked a, masked b]
  omega

theorem cpuOnRefusal_of_sameLow {a b : UInt64} (same : SameLow a b) (s : PsciState) :
    cpuOnRefusal a s = cpuOnRefusal b s := by
  simp only [cpuOnRefusal, affinity_of_sameLow same]

theorem affinityInfo_of_sameLow {a b : UInt64} (same : SameLow a b) (s : PsciState) :
    affinityInfo a s = affinityInfo b s := by
  simp only [affinityInfo, affinity_of_sameLow same]

/-! ### The identifiers -/

/-- The word of an identifier. -/
def PsciFid.word : PsciFid → UInt32
  | .version => 0x84000000
  | .cpuSuspend32 => 0x84000001
  | .cpuSuspend64 => 0xC4000001
  | .cpuOff => 0x84000002
  | .cpuOn32 => 0x84000003
  | .cpuOn64 => 0xC4000003
  | .affinity32 => 0x84000004
  | .affinity64 => 0xC4000004
  | .migInfoType => 0x84000006
  | .features => 0x8400000A
  | .setSuspendMode => 0x8400000F

theorem PsciFid.ofWord_word (id : PsciFid) : PsciFid.ofWord id.word = some id := by
  cases id <;> rfl

theorem of_ite_some {α : Type} {c : Prop} [Decidable c] {a b : α} {rest : Option α}
    (found : (if c then some a else rest) = some b) : c ∧ a = b ∨ rest = some b := by
  by_cases holds : c
  · rw [if_pos holds] at found
    exact Or.inl ⟨holds, Option.some.inj found⟩
  · rw [if_neg holds] at found
    exact Or.inr found

theorem PsciFid.word_of_ofWord {fid : UInt32} {id : PsciFid}
    (known : PsciFid.ofWord fid = some id) : fid = id.word := by
  unfold PsciFid.ofWord at known
  repeat
    rcases of_ite_some known with ⟨here, rfl⟩ | known
    · exact here
  cases known

theorem PsciFid.ofWord_eq_some {fid : UInt32} {id : PsciFid} :
    PsciFid.ofWord fid = some id ↔ fid = id.word :=
  ⟨PsciFid.word_of_ofWord, fun word => word ▸ PsciFid.ofWord_word id⟩

/-- No 64-bit call is of the 32-bit convention. -/
theorem Smc32.not_cpuOn64 {fid : UInt64} (narrow : Smc32 fid) :
    PsciFid.ofWord fid.toUInt32 ≠ some .cpuOn64 := by
  intro wide
  rw [Smc32, PsciFid.word_of_ofWord wide] at narrow
  exact absurd narrow (by decide)

/-! ### The two handlers that read whole registers -/

/-- The code a CPU_ON returns depends on the lower halves alone. -/
theorem cpuOn_result_eq {a1 b1 : UInt64} (same : SameLow a1 b1) (a2 a3 b2 b3 : UInt64)
    (s : PsciState) : (cpuOn a1 a2 a3 s).1 = (cpuOn b1 b2 b3 s).1 := by
  simp only [cpuOn, ← cpuOnRefusal_of_sameLow same]
  cases cpuOnRefusal a1 s <;> rfl

/-- An accepted CPU_ON puts whole registers into the mailbox. -/
theorem cpuOn_state_eq_iff {a1 b1 : UInt64} (same : SameLow a1 b1) (a2 a3 b2 b3 : UInt64)
    (s : PsciState) :
    (cpuOn a1 a2 a3 s).2 = (cpuOn b1 b2 b3 s).2 ↔
      (a1 &&& 0xFFFFFF = 1 → s.core1On = 0 → a2 = b2 ∧ a3 = b3) := by
  simp only [cpuOn, ← cpuOnRefusal_of_sameLow same]
  by_cases target : a1 &&& 0xFFFFFF = 1
  · by_cases off : s.core1On = 0
    · simp [cpuOnRefusal, target, off]
    · simp [cpuOnRefusal, target, off]
  · simp [cpuOnRefusal, target]

/-- SET_SUSPEND_MODE compares a whole register with zero. -/
theorem suspendMode_eq_iff (a1 b1 : UInt64) :
    (if a1 = 0 then (0 : UInt64) else psciRetNotSupported.toUInt64) =
        (if b1 = 0 then 0 else psciRetNotSupported.toUInt64) ↔
      (a1 = 0 ↔ b1 = 0) := by
  have differ : (0 : UInt64) ≠ psciRetNotSupported.toUInt64 := by decide
  by_cases first : a1 = 0 <;> by_cases second : b1 = 0 <;>
    simp [first, second, differ, differ.symm]

/-- A 32-bit call ignores the upper halves of its registers exactly where it is
no CPU_ON that is accepted with an entry or a context differing there, and no
SET_SUSPEND_MODE with a mode that is zero on one side only. -/
theorem psciSmc_ignoresUpperHalves_iff (fid a1 a2 a3 b1 b2 b3 : UInt64) (s : PsciState)
    (narrow : Smc32 fid) (same1 : SameLow a1 b1) :
    IgnoresUpperHalves fid a1 a2 a3 b1 b2 b3 s ↔
      (fid.toUInt32 = 0x84000003 → a1 &&& 0xFFFFFF = 1 → s.core1On = 0 → a2 = b2 ∧ a3 = b3) ∧
        (fid.toUInt32 = 0x8400000F → (a1 = 0 ↔ b1 = 0)) := by
  have on_word : fid.toUInt32 = 0x84000003 ↔ PsciFid.ofWord fid.toUInt32 = some .cpuOn32 :=
    (@PsciFid.ofWord_eq_some _ .cpuOn32).symm
  have mode_word :
      fid.toUInt32 = 0x8400000F ↔ PsciFid.ofWord fid.toUInt32 = some .setSuspendMode :=
    (@PsciFid.ofWord_eq_some _ .setSuspendMode).symm
  have not_wide := narrow.not_cpuOn64
  rw [on_word, mode_word]
  simp only [IgnoresUpperHalves, psciSmc]
  cases known : PsciFid.ofWord fid.toUInt32 with
  | none => simp
  | some id =>
      cases id with
      | cpuOn64 => exact absurd known not_wide
      | cpuOn32 =>
          have results := cpuOn_result_eq same1 a2 a3 b2 b3 s
          have states := cpuOn_state_eq_iff same1 a2 a3 b2 b3 s
          simp [results, states]
      | affinity32 => simp [affinityInfo_of_sameLow same1]
      | affinity64 => simp [affinityInfo_of_sameLow same1]
      | features =>
          have word : a1.toUInt32 = b1.toUInt32 := same1
          simp [word]
      | setSuspendMode =>
          have modes := suspendMode_eq_iff a1 b1
          simp [modes]
      | version => simp
      | cpuSuspend32 => simp
      | cpuSuspend64 => simp
      | cpuOff => simp
      | migInfoType => simp

/-- A CPU_ON of the 32-bit convention whose caller leaves bit 32 of the entry
register set starts core 1 four gigabytes above where it was asked to. -/
theorem psciSmc_reads_upper_half :
    Smc32 0x84000003 ∧ SameLow 0x180000000 0x80000000 ∧
      ¬ IgnoresUpperHalves 0x84000003 1 0x180000000 0 1 0x80000000 0 .boot := by
  refine ⟨rfl, rfl, ?_⟩
  intro ignored
  have entries := congrArg (fun after => after.2.psciPenEntry) ignored
  exact absurd entries (by decide)

/-- AFFINITY_INFO with dirty upper halves. -/
theorem psciSmc_ignoresUpperHalves_affinity :
    IgnoresUpperHalves 0x84000004 0xFF00000001 0x100000000 0 1 0 0 .boot :=
  (psciSmc_ignoresUpperHalves_iff 0x84000004 0xFF00000001 0x100000000 0 1 0 0 .boot rfl rfl).mpr
    ⟨fun call => absurd call (by decide), fun call => absurd call (by decide)⟩

end Mp257Fsbl.Psci
