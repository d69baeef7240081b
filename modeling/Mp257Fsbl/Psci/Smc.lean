/-
Module: Mp257Fsbl.Psci.Smc
Purpose: The PSCI calls of psci.c, each as one atomic step on the availability
  flag and the holding-pen mailbox.
Trusted boundary: human-reviewed model of psci.c and of psci_pen_return
Main exports: PsciState, SmcResult, psciSmc
-/
import Mathlib.Init

namespace Mp257Fsbl.Psci

/-- `core1_on` and the mailbox of the holding pen. -/
structure PsciState where
  core1On : UInt32
  psciPenEntry : UInt64
  psciPenCtx : UInt64
deriving Repr, DecidableEq

/-- The mailbox is in the loaded image and `core1_on` in the zeroed BSS. -/
def PsciState.boot : PsciState where
  core1On := 0
  psciPenEntry := 0
  psciPenCtx := 0

def psciRetNotSupported : Int64 := -1
def psciRetInvalidParams : Int64 := -2
def psciRetAlreadyOn : Int64 := -4

/-- What an SMC does to its caller: a value in `x0`, or the pen. -/
inductive SmcResult where
  | returns (x0 : UInt64)
  | parked
deriving Repr, DecidableEq

/-- The checks of `cpu_on` before it writes anything. -/
def cpuOnRefusal (mpidr : UInt64) (s : PsciState) : Option Int64 :=
  if mpidr &&& 0xFFFFFF ≠ 1 then some psciRetInvalidParams
  else if s.core1On ≠ 0 then some psciRetAlreadyOn
  else none

def cpuOn (mpidr entry ctx : UInt64) (s : PsciState) : Int64 × PsciState :=
  match cpuOnRefusal mpidr s with
  | some refusal => (refusal, s)
  | none => (0, { s with psciPenCtx := ctx, psciPenEntry := entry, core1On := 1 })

def affinityInfo (mpidr : UInt64) (s : PsciState) : Int64 :=
  let aff := mpidr &&& 0xFFFFFF
  if aff = 0 then 0
  else if aff = 1 then if s.core1On ≠ 0 then 0 else 1
  else psciRetInvalidParams

/-- The function identifiers of the source. -/
inductive PsciFid where
  | version
  | cpuSuspend32
  | cpuSuspend64
  | cpuOff
  | cpuOn32
  | cpuOn64
  | affinity32
  | affinity64
  | migInfoType
  | features
  | setSuspendMode
deriving Repr, DecidableEq

/-- The identifier as the `switch` statements read it. -/
def PsciFid.ofWord (fid : UInt32) : Option PsciFid :=
  if fid = 0x84000000 then some .version
  else if fid = 0x84000001 then some .cpuSuspend32
  else if fid = 0xC4000001 then some .cpuSuspend64
  else if fid = 0x84000002 then some .cpuOff
  else if fid = 0x84000003 then some .cpuOn32
  else if fid = 0xC4000003 then some .cpuOn64
  else if fid = 0x84000004 then some .affinity32
  else if fid = 0xC4000004 then some .affinity64
  else if fid = 0x84000006 then some .migInfoType
  else if fid = 0x8400000A then some .features
  else if fid = 0x8400000F then some .setSuspendMode
  else none

def features (fid : UInt32) : Int64 :=
  match PsciFid.ofWord fid with
  | some .cpuSuspend32 | some .cpuSuspend64 | none => psciRetNotSupported
  | some _ => 0

/-- `psci_pen_return`, up to the branch into the pen. -/
def psciPenReturn (s : PsciState) : PsciState := { s with psciPenEntry := 0 }

def psciSmc (fid a1 a2 a3 : UInt64) (s : PsciState) : SmcResult × PsciState :=
  match PsciFid.ofWord fid.toUInt32 with
  | some .version => (.returns 0x00010000, s)
  | some .cpuOn32 | some .cpuOn64 =>
      let (result, s) := cpuOn a1 a2 a3 s
      (.returns result.toUInt64, s)
  | some .cpuOff => (.parked, psciPenReturn { s with core1On := 0 })
  | some .affinity32 | some .affinity64 => (.returns (affinityInfo a1 s).toUInt64, s)
  | some .migInfoType => (.returns 2, s)
  | some .setSuspendMode =>
      (.returns (if a1 = 0 then 0 else psciRetNotSupported.toUInt64), s)
  | some .features => (.returns (features a1.toUInt32).toUInt64, s)
  | some .cpuSuspend32 | some .cpuSuspend64 | none =>
      (.returns psciRetNotSupported.toUInt64, s)

end Mp257Fsbl.Psci
