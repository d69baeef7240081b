/-
Module: Mp257Fsbl.Foundation.Driver
Purpose: Code that drives a device through its registers: the accesses it makes,
  bounded polling, and triples for what it does to the device and to the trace.
Trusted boundary: none
Main exports: Access, Device, Traced, Driver, mmioRead, mmioWrite, poll, Triple,
  Triple.bind, Triple.poll, Triple.waitFor_env, Triple.poll_shows, AccessesWithin, lastReads
-/
import Mathlib.Logic.Basic

namespace Mp257Fsbl.Foundation

/-- An access to a register, with the value read or written. -/
inductive Access (ι ν : Type) where
  | read (addr : ι) (val : ν)
  | write (addr : ι) (val : ν)
deriving Repr, DecidableEq

/-- What a device makes of accesses. A read also depends on what the
environment has done up to it. -/
structure Device (ι ν ξ σ : Type) where
  read : ι → ξ → σ → ν × σ
  write : ι → ν → σ → σ

/-- The state of a device with the accesses made of it, oldest first. -/
structure Traced (ι ν σ : Type) where
  state : σ
  trace : List (Access ι ν)

/-- Code that drives a device: it gives a value, or gives up with a code. -/
def Driver (ι ν σ ε α : Type) := Traced ι ν σ → Except ε α × Traced ι ν σ

namespace Driver

variable {ι ν σ ε α β : Type}

instance : Monad (Driver ι ν σ ε) where
  pure a := fun s => (.ok a, s)
  bind x f := fun s =>
    match x s with
    | (.ok a, s) => f a s
    | (.error code, s) => (.error code, s)

/-- Give up. -/
def fail (code : ε) : Driver ι ν σ ε α := fun s => (.error code, s)

end Driver

section

variable {ι ν ξ σ ε : Type} (dev : Device ι ν ξ σ)

/-- The device and the trace after a read. -/
def Traced.afterRead (s : Traced ι ν σ) (addr : ι) (env : ξ) : Traced ι ν σ where
  state := (dev.read addr env s.state).2
  trace := s.trace ++ [.read addr (dev.read addr env s.state).1]

/-- The device and the trace after a write. -/
def Traced.afterWrite (s : Traced ι ν σ) (addr : ι) (val : ν) : Traced ι ν σ where
  state := dev.write addr val s.state
  trace := s.trace ++ [.write addr val]

def mmioRead (addr : ι) (env : ξ) : Driver ι ν σ ε ν :=
  fun s => (.ok (dev.read addr env s.state).1, s.afterRead dev addr env)

def mmioWrite (addr : ι) (val : ν) : Driver ι ν σ ε Unit :=
  fun s => (.ok (), s.afterWrite dev addr val)

/-- A read-modify-write. -/
def mmioModify (addr : ι) (change : ν → ν) (env : ξ) : Driver ι ν σ ε Unit := do
  let val ← mmioRead dev addr env
  mmioWrite dev addr (change val)

/-- Read until the value is one to stop at, at most so many times: the value
stopped at, or `none`. -/
def poll (addr : ι) (stop : ν → Bool) : (env : Nat → ξ) → (tries : Nat) →
    Driver ι ν σ ε (Option ν)
  | _, 0 => pure none
  | env, tries + 1 => do
      let val ← mmioRead dev addr (env 0)
      if stop val then pure (some val) else poll addr stop (fun k => env (k + 1)) tries

/-- Poll, and give up with the code where the polling runs out. -/
def waitFor (addr : ι) (stop : ν → Bool) (env : Nat → ξ) (tries : Nat) (code : ε) :
    Driver ι ν σ ε Unit := do
  match ← poll dev addr stop env tries with
  | some _ => pure ()
  | none => Driver.fail code

end

/-! ### Triples -/

section

variable {ι ν ξ σ ε α β : Type}

/-- From a state that meets `before`, the code gives a value as `after` says or
gives up as `failed` says. -/
def Triple (before : Traced ι ν σ → Prop) (code : Driver ι ν σ ε α)
    (after : α → Traced ι ν σ → Prop) (failed : ε → Traced ι ν σ → Prop) : Prop :=
  ∀ s, before s →
    match code s with
    | (.ok a, s) => after a s
    | (.error e, s) => failed e s

variable {before : Traced ι ν σ → Prop} {code : Driver ι ν σ ε α}
  {after : α → Traced ι ν σ → Prop} {failed : ε → Traced ι ν σ → Prop}

/-- The two ways a run ends. -/
theorem Triple.ends {s : Traced ι ν σ} (triple : Triple before code after failed)
    (start : before s) :
    (∃ a t, code s = (.ok a, t) ∧ after a t) ∨ ∃ e t, code s = (.error e, t) ∧ failed e t := by
  have one := triple s start
  cases result : code s with
  | mk value t =>
      rw [result] at one
      cases value with
      | ok a => exact Or.inl ⟨a, t, rfl, one⟩
      | error e => exact Or.inr ⟨e, t, rfl, one⟩

theorem Triple.pure {a : α} (holds : ∀ s, before s → after a s) :
    Triple before (Pure.pure a) after failed := holds

theorem Triple.fail {e : ε} (holds : ∀ s, before s → failed e s) :
    Triple before (Driver.fail e) after failed := holds

theorem Triple.bind {next : α → Driver ι ν σ ε β} {finish : β → Traced ι ν σ → Prop}
    (first : Triple before code after failed)
    (rest : ∀ a, Triple (after a) (next a) finish failed) :
    Triple before (code >>= next) finish failed := by
  intro s holds
  simp only [Bind.bind]
  rcases first.ends holds with ⟨a, t, run, here⟩ | ⟨e, t, run, gaveUp⟩
  · rw [run]
    exact rest a t here
  · rw [run]
    exact gaveUp

/-- A driver of two parts, in front of the rest. -/
theorem Triple.bind_bind {γ : Type} {second : Driver ι ν σ ε β} {next : β → Driver ι ν σ ε γ}
    {between : β → Traced ι ν σ → Prop} {finish : γ → Traced ι ν σ → Prop}
    (first : Triple before (code >>= fun _ => second) between failed)
    (rest : ∀ b, Triple (between b) (next b) finish failed) :
    Triple before (code >>= fun _ => second >>= next) finish failed := by
  have same : (code >>= fun _ => second >>= next) = (code >>= fun _ => second) >>= next := by
    funext s
    simp only [Bind.bind]
    cases code s with
    | mk value s' =>
        cases value with
        | ok a => rfl
        | error e => rfl
  rw [same]
  exact first.bind rest

theorem Triple.weaken {weaker : Traced ι ν σ → Prop} {more : α → Traced ι ν σ → Prop}
    {worse : ε → Traced ι ν σ → Prop} (triple : Triple before code after failed)
    (pre : ∀ s, weaker s → before s) (post : ∀ a s, after a s → more a s)
    (gaveUp : ∀ e s, failed e s → worse e s) : Triple weaker code more worse := by
  intro s holds
  rcases triple.ends (pre s holds) with ⟨a, t, run, here⟩ | ⟨e, t, run, never⟩
  · rw [run]
    exact post a t here
  · rw [run]
    exact gaveUp e t never

section

variable {more : α → Traced ι ν σ → Prop} {worse : ε → Traced ι ν σ → Prop}

theorem Triple.endsAs (triple : Triple before code after failed)
    (post : ∀ a s, after a s → more a s) (gaveUp : ∀ e s, failed e s → worse e s) :
    Triple before code more worse := triple.weaken (fun _ here => here) post gaveUp

theorem Triple.failedAs (triple : Triple before code after failed)
    (gaveUp : ∀ e s, failed e s → worse e s) : Triple before code after worse :=
  triple.endsAs (fun _ _ here => here) gaveUp

theorem Triple.afterAs (triple : Triple before code after failed)
    (post : ∀ a s, after a s → more a s) : Triple before code more failed :=
  triple.endsAs post fun _ _ gaveUp => gaveUp

/-- Code that does not fail goes with any code that may. -/
theorem Triple.sure (triple : Triple before code after fun _ _ => False) :
    Triple before code after failed := triple.failedAs fun _ _ never => never.elim

end

/-- A fact that does not depend on the state may be assumed. -/
theorem Triple.given {fact : Prop} (triple : fact → Triple before code after failed) :
    Triple (fun s => before s ∧ fact) code after failed :=
  fun s holds => triple holds.2 s holds.1

/-- A fact about the device holds of some state. -/
theorem Triple.ofState {here : σ → Prop}
    (triple : ∀ s, here s → Triple (fun t => t.state = s) code after failed) :
    Triple (fun t => here t.state) code after failed :=
  fun t holds => triple t.state holds t rfl

variable (dev : Device ι ν ξ σ)

theorem Triple.mmioRead {addr : ι} {env : ξ} {val : ν → Traced ι ν σ → Prop}
    (holds : ∀ s, before s → val (dev.read addr env s.state).1 (s.afterRead dev addr env)) :
    Triple before (Foundation.mmioRead dev addr env) val failed := holds

theorem Triple.mmioWrite {addr : ι} {val : ν} {finish : Unit → Traced ι ν σ → Prop}
    (holds : ∀ s, before s → finish () (s.afterWrite dev addr val)) :
    Triple before (Foundation.mmioWrite dev addr val) finish failed := holds

theorem Triple.mmioModify {addr : ι} {change : ν → ν} {env : ξ}
    {finish : Unit → Traced ι ν σ → Prop}
    (holds : ∀ s, before s → finish ()
      ((s.afterRead dev addr env).afterWrite dev addr (change (dev.read addr env s.state).1))) :
    Triple before (Foundation.mmioModify dev addr change env) finish failed := holds

/-- Polling under an invariant of the reads that do not stop it. -/
theorem Triple.poll {addr : ι} {stop : ν → Bool} {found : Option ν → Traced ι ν σ → Prop}
    (onRead : ∀ s x, before s →
      if stop (dev.read addr x s.state).1 then
        found (some (dev.read addr x s.state).1) (s.afterRead dev addr x)
      else before (s.afterRead dev addr x))
    (out : ∀ s, before s → found none s) (env : Nat → ξ) (tries : Nat) :
    Triple before (Foundation.poll dev addr stop env tries) found failed := by
  induction tries generalizing env with
  | zero => exact out
  | succ tries ih =>
      intro s holds
      have step := onRead s (env 0) holds
      simp only [Foundation.poll, Bind.bind, Foundation.mmioRead]
      by_cases stops : stop (dev.read addr (env 0) s.state).1 = true
      · rw [if_pos stops] at step ⊢
        exact step
      · rw [if_neg stops] at step ⊢
        exact ih (fun k => env (k + 1)) _ step

theorem Triple.waitFor {addr : ι} {stop : ν → Bool} {finish : Unit → Traced ι ν σ → Prop} {e : ε}
    (onRead : ∀ s x, before s →
      if stop (dev.read addr x s.state).1 then finish () (s.afterRead dev addr x)
      else before (s.afterRead dev addr x))
    (out : ∀ s, before s → failed e s) (env : Nat → ξ) (tries : Nat) :
    Triple before (Foundation.waitFor dev addr stop env tries e) finish failed := by
  have polled : Triple before (Foundation.poll dev addr stop env tries)
      (fun found s => if found.isSome then finish () s else before s) failed := by
    apply Triple.poll dev _ (fun s holds => by simpa using holds)
    intro s x holds
    simpa using onRead s x holds
  apply polled.bind
  intro found
  cases found with
  | some val => exact fun s holds => holds
  | none => exact fun s holds => out s (by simpa using holds)

end

/-! ### Waits for the environment -/

section

variable {ι ν ξ σ ε : Type} (dev : Device ι ν ξ σ) {before : Traced ι ν σ → Prop}

/-- A wait that the environment alone decides ends well exactly where one of its
reads comes after the environment has done what is waited for. -/
theorem Triple.waitFor_env {addr : ι} {stop : ν → Bool} {happened : ξ → Prop}
    {finish : Traced ι ν σ → Prop}
    (decides : ∀ s x, before s → (stop (dev.read addr x s.state).1 = true ↔ happened x))
    (found : ∀ s x, before s → happened x → finish (s.afterRead dev addr x))
    (again : ∀ s x, before s → ¬ happened x → before (s.afterRead dev addr x))
    (env : Nat → ξ) (tries : Nat) (e : ε) :
    Triple before (Foundation.waitFor dev addr stop env tries e)
      (fun _ s => finish s ∧ ∃ k < tries, happened (env k))
      (fun code s => code = e ∧ before s ∧ ∀ k < tries, ¬ happened (env k)) := by
  have polled : Triple before (Foundation.poll dev addr stop env tries)
      (fun val s => if val.isSome then finish s ∧ ∃ k < tries, happened (env k)
        else before s ∧ ∀ k < tries, ¬ happened (env k)) (fun (_ : ε) _ => False) := by
    induction tries generalizing env with
    | zero => exact fun s holds => ⟨holds, fun k none => absurd none (Nat.not_lt_zero k)⟩
    | succ tries ih =>
        intro s holds
        simp only [Foundation.poll, Bind.bind, Foundation.mmioRead]
        by_cases stops : stop (dev.read addr (env 0) s.state).1 = true
        · have now := (decides s (env 0) holds).mp stops
          simp only [stops, if_true]
          exact ⟨found s (env 0) holds now, 0, Nat.zero_lt_succ _, now⟩
        · have not_now : ¬ happened (env 0) := fun now => stops ((decides s (env 0) holds).mpr now)
          simp only [stops, Bool.false_eq_true, if_false]
          have rest := ih (fun k => env (k + 1)) _ (again s (env 0) holds not_now)
          revert rest
          cases Foundation.poll dev addr stop (fun k => env (k + 1)) tries
            (s.afterRead dev addr (env 0)) with
          | mk value s' =>
              cases value with
              | error e => exact id
              | ok val =>
                  dsimp only
                  cases val with
                  | some val =>
                      rintro ⟨done, k, inside, now⟩
                      exact ⟨done, k + 1, Nat.succ_lt_succ inside, now⟩
                  | none =>
                      rintro ⟨still, never⟩
                      refine ⟨still, fun k inside => ?_⟩
                      cases k with
                      | zero => exact not_now
                      | succ k => exact never k (Nat.lt_of_succ_lt_succ inside)
  apply polled.sure.bind
  intro val
  cases val with
  | some val => exact fun s holds => holds
  | none => exact fun s holds => ⟨rfl, holds⟩

end

/-! ### Registers that show the device -/

section

variable {ι ν ξ σ ε : Type} (dev : Device ι ν ξ σ) (addr : ι)

/-- The device after so many reads of a register. -/
def Device.afterReads (env : Nat → ξ) (s : σ) : Nat → σ
  | 0 => s
  | n + 1 => (dev.read addr (env n) (Device.afterReads env s n)).2

theorem Device.afterReads_shift (env : Nat → ξ) (s : σ) (n : Nat) :
    dev.afterReads addr env s (n + 1) =
      dev.afterReads addr (fun k => env (k + 1)) (dev.read addr (env 0) s).2 n := by
  induction n with
  | zero => rfl
  | succ n ih => rw [Device.afterReads, ih, Device.afterReads]

/-- The reads that polling makes: the first of them that shows what is waited
for, or all of them. -/
structure PollEnds (shown : Nat → Bool) (tries reads : Nat) (found : Bool) : Prop where
  within : reads ≤ tries
  early : ∀ j, 0 < j → j < reads → shown j = false
  last : if found then 0 < reads ∧ shown reads = true
    else reads = tries ∧ (0 < tries → shown tries = false)

theorem PollEnds.succ {shown : Nat → Bool} {tries reads : Nat} {found : Bool}
    (first : shown 1 = false) (positive : found = true → 0 < reads)
    (rest : PollEnds (fun k => shown (k + 1)) tries reads found) :
    PollEnds shown (tries + 1) (reads + 1) found := by
  refine ⟨Nat.succ_le_succ rest.within, ?_, ?_⟩
  · intro j some_read less
    obtain ⟨k, rfl⟩ : ∃ k, j = k + 1 := ⟨j - 1, by omega⟩
    cases k with
    | zero => exact first
    | succ k => exact rest.early (k + 1) (Nat.succ_pos k) (Nat.lt_of_succ_lt_succ less)
  · have last := rest.last
    cases found with
    | true => exact ⟨Nat.succ_pos reads, last.2⟩
    | false =>
        refine ⟨congrArg Nat.succ last.1, fun _ => ?_⟩
        cases tries with
        | zero => exact first
        | succ tries => exact last.2 (Nat.succ_pos tries)

/-- Polling a register that shows the state it leaves the device in. -/
theorem Triple.poll_shows {view : σ → ν}
    (shows : ∀ x s, (dev.read addr x s).1 = view (dev.read addr x s).2) (stop : ν → Bool)
    (env : Nat → ξ) (tries : Nat) (s : σ) :
    Triple (fun t => t.state = s) (Foundation.poll dev addr stop env tries)
      (fun found t => ∃ reads, t.state = dev.afterReads addr env s reads ∧
        (∀ val, found = some val → val = view t.state) ∧
        PollEnds (fun k => stop (view (dev.afterReads addr env s k))) tries reads found.isSome)
      (fun (_ : ε) _ => False) := by
  induction tries generalizing env s with
  | zero =>
      apply Triple.pure
      rintro t rfl
      refine ⟨0, rfl, nofun, Nat.le_refl 0, fun j _ less => absurd less (Nat.not_lt_zero j), ?_⟩
      exact ⟨rfl, fun none => absurd none (Nat.lt_irrefl 0)⟩
  | succ tries ih =>
      have read : Triple (fun t => t.state = s) (Foundation.mmioRead dev addr (env 0))
          (fun val t => t.state = (dev.read addr (env 0) s).2 ∧
            val = view (dev.read addr (env 0) s).2) (fun (_ : ε) _ => False) := by
        apply Triple.mmioRead
        rintro t rfl
        exact ⟨rfl, shows _ _⟩
      apply read.bind
      intro val
      apply Triple.given
      rintro rfl
      by_cases stops : stop (view (dev.read addr (env 0) s).2) = true
      · rw [if_pos stops]
        apply Triple.pure
        intro t here
        refine ⟨1, here, ?_, Nat.succ_le_succ (Nat.zero_le tries), ?_, Nat.one_pos, stops⟩
        · intro val same
          cases same
          rw [here]
        · intro j some_read less
          omega
      · rw [if_neg stops]
        apply (ih (fun k => env (k + 1)) (dev.read addr (env 0) s).2).afterAs
        rintro found t ⟨reads, here, value, ends⟩
        have shift (k : Nat) := dev.afterReads_shift addr env s k
        refine ⟨reads + 1, here.trans (shift reads).symm, value, PollEnds.succ ?_ ?_ ?_⟩
        · simpa [Device.afterReads] using stops
        · intro some_found
          have last := ends.last
          rw [some_found, if_pos rfl] at last
          exact last.1
        · simpa only [shift] using ends

end

/-! ### How many accesses -/

section

variable {ι ν ξ σ ε α β : Type}

/-- The code makes at most so many accesses, whatever it reads. -/
def AccessesWithin (code : Driver ι ν σ ε α) (bound : Nat) : Prop :=
  ∀ s, (code s).2.trace.length ≤ s.trace.length + bound

theorem AccessesWithin.pure (a : α) : AccessesWithin (Pure.pure a : Driver ι ν σ ε α) 0 :=
  fun _ => Nat.le_refl _

theorem AccessesWithin.fail (e : ε) : AccessesWithin (Driver.fail e : Driver ι ν σ ε α) 0 :=
  fun _ => Nat.le_refl _

theorem AccessesWithin.bind {code : Driver ι ν σ ε α} {next : α → Driver ι ν σ ε β}
    {first second : Nat} (one : AccessesWithin code first)
    (rest : ∀ a, AccessesWithin (next a) second) :
    AccessesWithin (code >>= next) (first + second) := by
  intro s
  have here := one s
  simp only [Bind.bind]
  cases result : code s with
  | mk value s' =>
      rw [result] at here
      cases value with
      | ok a =>
          have later := rest a s'
          dsimp only at here ⊢
          omega
      | error e =>
          dsimp only at here ⊢
          omega

theorem AccessesWithin.mono {code : Driver ι ν σ ε α} {bound more : Nat}
    (within : AccessesWithin code bound) (le : bound ≤ more) : AccessesWithin code more :=
  fun s => Nat.le_trans (within s) (Nat.add_le_add_left le _)

theorem AccessesWithin.ite {one two : Driver ι ν σ ε α} {first second : Nat} {c : Prop}
    [Decidable c] (yes : AccessesWithin one first) (no : AccessesWithin two second) :
    AccessesWithin (if c then one else two) (max first second) := by
  split
  · exact yes.mono (Nat.le_max_left _ _)
  · exact no.mono (Nat.le_max_right _ _)

variable (dev : Device ι ν ξ σ)

theorem AccessesWithin.mmioRead (addr : ι) (env : ξ) :
    AccessesWithin (Foundation.mmioRead dev addr env : Driver ι ν σ ε ν) 1 := by
  intro s
  simp [Foundation.mmioRead, Traced.afterRead]

theorem AccessesWithin.mmioWrite (addr : ι) (val : ν) :
    AccessesWithin (Foundation.mmioWrite dev addr val : Driver ι ν σ ε Unit) 1 := by
  intro s
  simp [Foundation.mmioWrite, Traced.afterWrite]

theorem AccessesWithin.mmioModify (addr : ι) (change : ν → ν) (env : ξ) :
    AccessesWithin (Foundation.mmioModify dev addr change env : Driver ι ν σ ε Unit) 2 :=
  (mmioRead dev addr env).bind fun val => mmioWrite dev addr (change val)

theorem AccessesWithin.poll (addr : ι) (stop : ν → Bool) (env : Nat → ξ) (tries : Nat) :
    AccessesWithin (Foundation.poll dev addr stop env tries : Driver ι ν σ ε (Option ν))
      tries := by
  induction tries generalizing env with
  | zero => exact .pure none
  | succ tries ih =>
      have rest (val : ν) : AccessesWithin
          (if stop val then Pure.pure (some val)
            else Foundation.poll dev addr stop (fun k => env (k + 1)) tries :
            Driver ι ν σ ε (Option ν)) tries := by
        split
        · exact (AccessesWithin.pure _).mono (Nat.zero_le _)
        · exact ih _
      exact ((mmioRead dev addr (env 0)).bind rest).mono (by omega)

theorem AccessesWithin.waitFor (addr : ι) (stop : ν → Bool) (env : Nat → ξ) (tries : Nat)
    (e : ε) : AccessesWithin (Foundation.waitFor dev addr stop env tries e) tries := by
  have rest (found : Option ν) : AccessesWithin
      (match found with
        | some _ => Pure.pure ()
        | none => Driver.fail e : Driver ι ν σ ε Unit) 0 := by
    cases found with
    | some val => exact .pure ()
    | none => exact .fail e
  exact (poll dev addr stop env tries).bind rest

/-! In front of the rest of a driver. -/

theorem AccessesWithin.modify_then (addr : ι) (change : ν → ν) (env : ξ)
    {next : Unit → Driver ι ν σ ε α} {bound : Nat} (rest : AccessesWithin (next ()) bound) :
    AccessesWithin (Foundation.mmioModify dev addr change env >>= next) (2 + bound) :=
  (mmioModify dev addr change env).bind fun _ => rest

theorem AccessesWithin.wait_then (addr : ι) (stop : ν → Bool) (env : Nat → ξ) (tries : Nat)
    (e : ε) {next : Unit → Driver ι ν σ ε α} {bound : Nat}
    (rest : AccessesWithin (next ()) bound) :
    AccessesWithin (Foundation.waitFor dev addr stop env tries e >>= next) (tries + bound) :=
  (waitFor dev addr stop env tries e).bind fun _ => rest

end

/-! ### Since the last write -/

section

variable {ι ν : Type}

def Access.isRead : Access ι ν → Bool
  | .read _ _ => true
  | .write _ _ => false

/-- The reads behind the last write, oldest first. -/
def lastReads (trace : List (Access ι ν)) : List (Access ι ν) :=
  (trace.reverse.takeWhile Access.isRead).reverse

@[simp] theorem lastReads_write (trace : List (Access ι ν)) (addr : ι) (val : ν) :
    lastReads (trace ++ [.write addr val]) = [] := by
  simp [lastReads, Access.isRead]

@[simp] theorem lastReads_read (trace : List (Access ι ν)) (addr : ι) (val : ν) :
    lastReads (trace ++ [.read addr val]) = lastReads trace ++ [.read addr val] := by
  simp [lastReads, List.takeWhile_cons, Access.isRead]

end

end Mp257Fsbl.Foundation
