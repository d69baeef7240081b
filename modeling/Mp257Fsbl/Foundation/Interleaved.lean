/-
Module: Mp257Fsbl.Foundation.Interleaved
Purpose: Code that shares registers with a peer, which may move before each of
  its accesses: what holds in every interleaving, and what comes about in a fair one.
Trusted boundary: none
Main exports: Interleaved, access, pollUntil, Upholds, Upholds.bind, Upholds.poll,
  Ends, slice, Comes, Comes.bind, Comes.poll, EndsAs
-/
import Mathlib.Data.List.Basic

namespace Mp257Fsbl.Foundation

/-- Code that takes one moment for each access: it ends with a value or an error
and the moments left over, or the moments run out while it is still at work. -/
def Interleaved (μ σ ε α : Type) := List μ → σ → Option (Except ε α × List μ × σ)

namespace Interleaved

variable {μ σ ε α β : Type}

/-- The rest of the code, behind a part that has ended so. -/
def andThen (next : α → Interleaved μ σ ε β) :
    Except ε α × List μ × σ → Option (Except ε β × List μ × σ)
  | (.ok a, moments, s) => next a moments s
  | (.error e, moments, s) => some (.error e, moments, s)

instance : Monad (Interleaved μ σ ε) where
  pure a := fun moments s => some (.ok a, moments, s)
  bind code next := fun moments s => (code moments s).bind (andThen next)

def fail (e : ε) : Interleaved μ σ ε α := fun moments s => some (.error e, moments, s)

/-- Never ends. -/
def stuck : Interleaved μ σ ε α := fun _ _ => none

section

variable (advance : μ → σ → σ)

/-- An access, behind what the peer does up to it. -/
def access (act : σ → α × σ) : Interleaved μ σ ε α
  | [], _ => none
  | moment :: moments, s =>
      some (.ok (act (advance moment s)).1, moments, (act (advance moment s)).2)

/-- Read until the value is one to stop at; a late read ends the wait with an
error, whatever it has read. -/
def pollUntil (late : μ → Bool) (stop : μ → σ → Bool) (e : ε) : Interleaved μ σ ε Unit
  | [], _ => none
  | moment :: moments, s =>
      if late moment then some (.error e, moments, advance moment s)
      else if stop moment (advance moment s) then some (.ok (), moments, advance moment s)
      else pollUntil late stop e moments (advance moment s)

end

/-! ### Every interleaving -/

/-- Wherever the code ends, with moments of the kind allowed, it gives a value as
`after` says or an error as `failed` says. -/
def Upholds (allowed : μ → Prop) (before : σ → Prop) (code : Interleaved μ σ ε α)
    (after : α → σ → Prop) (failed : ε → σ → Prop) : Prop :=
  ∀ moments s, (∀ moment ∈ moments, allowed moment) → before s →
    ∀ result rest t, code moments s = some (result, rest, t) →
      (∀ moment ∈ rest, allowed moment) ∧
        match result with
        | .ok a => after a t
        | .error e => failed e t

section

variable {allowed : μ → Prop} {before : σ → Prop} {code : Interleaved μ σ ε α}
  {after : α → σ → Prop} {failed : ε → σ → Prop}

theorem Upholds.pure {a : α} (holds : ∀ s, before s → after a s) :
    Upholds allowed before (Pure.pure a : Interleaved μ σ ε α) after failed := by
  intro moments s kind start result rest t run
  cases run
  exact ⟨kind, holds s start⟩

theorem Upholds.fail {e : ε} (holds : ∀ s, before s → failed e s) :
    Upholds allowed before (Interleaved.fail e : Interleaved μ σ ε α) after failed := by
  intro moments s kind start result rest t run
  cases run
  exact ⟨kind, holds s start⟩

theorem Upholds.stuck : Upholds allowed before (Interleaved.stuck : Interleaved μ σ ε α) after
    failed := by
  intro moments s _ _ result rest t run
  cases run

theorem Upholds.bind {next : α → Interleaved μ σ ε β} {finish : β → σ → Prop}
    (first : Upholds allowed before code after failed)
    (second : ∀ a, Upholds allowed (after a) (next a) finish failed) :
    Upholds allowed before (code >>= next) finish failed := by
  intro moments s kind start result rest t run
  obtain ⟨⟨value, middle, u⟩, ended, run⟩ := Option.bind_eq_some_iff.mp run
  obtain ⟨kind, here⟩ := first moments s kind start value middle u ended
  cases value with
  | ok a => exact second a middle u kind here result rest t run
  | error e =>
      cases run
      exact ⟨kind, here⟩

theorem Upholds.weaken {weaker : σ → Prop} {more : α → σ → Prop}
    (upheld : Upholds allowed before code after failed) (pre : ∀ s, weaker s → before s)
    (post : ∀ a s, after a s → more a s) : Upholds allowed weaker code more failed := by
  intro moments s kind start result rest t run
  obtain ⟨kind, here⟩ := upheld moments s kind (pre s start) result rest t run
  refine ⟨kind, ?_⟩
  cases result with
  | ok a => exact post a t here
  | error e => exact here

/-- A fact that does not depend on the state may be assumed. -/
theorem Upholds.given {fact : Prop} (upheld : fact → Upholds allowed before code after failed) :
    Upholds allowed (fun s => fact ∧ before s) code after failed :=
  fun moments s kind start => upheld start.1 moments s kind start.2

theorem Upholds.ofSome {ι : Type} {here : ι → σ → Prop}
    (upheld : ∀ i, Upholds allowed (here i) code after failed) :
    Upholds allowed (fun s => ∃ i, here i s) code after failed := by
  rintro moments s kind ⟨i, start⟩
  exact upheld i moments s kind start

theorem Upholds.never : Upholds allowed (fun _ => False) code after failed :=
  fun _ _ _ start => start.elim

variable {advance : μ → σ → σ}

theorem Upholds.access {act : σ → α × σ}
    (holds : ∀ moment s, before s →
      after (act (advance moment s)).1 (act (advance moment s)).2) :
    Upholds allowed before (Interleaved.access advance act) after failed := by
  intro moments s kind start result rest t run
  cases moments with
  | nil => cases run
  | cons moment moments =>
      cases run
      exact ⟨fun moment inside => kind moment (List.mem_cons_of_mem _ inside),
        holds moment s start⟩

/-- Polling under an invariant that the peer keeps. -/
theorem Upholds.poll {late : μ → Bool} {stop : μ → σ → Bool} {e : ε} {finish : Unit → σ → Prop}
    (keeps : ∀ moment s, before s → before (advance moment s))
    (found : ∀ moment s, before s → stop moment s = true → finish () s)
    (tooLate : ∀ moment s, allowed moment → late moment = true → before s → failed e s) :
    Upholds allowed before (pollUntil advance late stop e) finish failed := by
  intro moments
  induction moments with
  | nil =>
      intro s _ _ result rest t run
      cases run
  | cons moment moments ih =>
      intro s kind start result rest t run
      obtain ⟨this, others⟩ := List.forall_mem_cons.mp kind
      have here := keeps moment s start
      rw [pollUntil] at run
      split at run
      · rename_i isLate
        cases run
        exact ⟨others, tooLate moment _ this isLate here⟩
      · split at run
        · rename_i stops
          cases run
          exact ⟨others, found moment _ here stops⟩
        · exact ih _ others here result rest t run

end

/-! ### Fair interleavings -/

/-- The code ends so with the last of these moments. -/
def Ends (code : Interleaved μ σ ε α) (moments : List μ) (s : σ) (result : Except ε α) (t : σ) :
    Prop :=
  ∀ rest, code (moments ++ rest) s = some (result, rest, t)

theorem Ends.pure (a : α) (s : σ) : Ends (Pure.pure a : Interleaved μ σ ε α) [] s (.ok a) s :=
  fun _ => rfl

theorem Ends.fail (e : ε) (s : σ) :
    Ends (Interleaved.fail e : Interleaved μ σ ε α) [] s (.error e) s :=
  fun _ => rfl

theorem Ends.bind {code : Interleaved μ σ ε α} {next : α → Interleaved μ σ ε β}
    {first second : List μ} {s t u : σ} {a : α} {result : Except ε β}
    (one : Ends code first s (.ok a) t) (two : Ends (next a) second t result u) :
    Ends (code >>= next) (first ++ second) s result u := by
  intro rest
  have here : code (first ++ (second ++ rest)) s = some (.ok a, second ++ rest, t) :=
    one (second ++ rest)
  change (code (first ++ second ++ rest) s).bind (andThen next) = _
  rw [List.append_assoc, here]
  exact two rest

theorem Ends.bind_error {code : Interleaved μ σ ε α} {next : α → Interleaved μ σ ε β}
    {moments : List μ} {s t : σ} {e : ε} (gaveUp : Ends code moments s (.error e) t) :
    Ends (code >>= next) moments s (.error e) t := by
  intro rest
  change (code (moments ++ rest) s).bind (andThen next) = _
  rw [gaveUp rest]
  rfl

/-- So many moments of a schedule, from a place on. -/
def slice (schedule : Nat → μ) (start : Nat) : Nat → List μ
  | 0 => []
  | count + 1 => schedule start :: slice schedule (start + 1) count

theorem slice_add (schedule : Nat → μ) (start one two : Nat) :
    slice schedule start (one + two) =
      slice schedule start one ++ slice schedule (start + one) two := by
  induction one generalizing start with
  | zero => rw [Nat.zero_add, slice, List.nil_append, Nat.add_zero]
  | succ one ih =>
      have shift : start + 1 + one = start + (one + 1) := by omega
      rw [Nat.succ_add, slice, slice, ih, shift, List.cons_append]

theorem slice_length (schedule : Nat → μ) (start count : Nat) :
    (slice schedule start count).length = count := by
  induction count generalizing start with
  | zero => rfl
  | succ count ih => rw [slice, List.length_cons, ih]

theorem mem_slice {schedule : Nat → μ} {start count : Nat} {moment : μ}
    (inside : moment ∈ slice schedule start count) : ∃ k, moment = schedule k := by
  induction count generalizing start with
  | zero => cases inside
  | succ count ih =>
      rcases List.mem_cons.mp inside with rfl | later
      · exact ⟨start, rfl⟩
      · exact ih later

/-- From any place of the schedule the code comes to a value as `after` says. -/
def Comes (schedule : Nat → μ) (before : σ → Prop) (code : Interleaved μ σ ε α)
    (after : α → σ → Prop) : Prop :=
  ∀ start s, before s →
    ∃ count a t, Ends code (slice schedule start count) s (.ok a) t ∧ after a t

section

variable {schedule : Nat → μ} {before : σ → Prop} {code : Interleaved μ σ ε α}
  {after : α → σ → Prop}

theorem Comes.pure {a : α} (holds : ∀ s, before s → after a s) :
    Comes schedule before (Pure.pure a : Interleaved μ σ ε α) after :=
  fun _ s start => ⟨0, a, s, Ends.pure a s, holds s start⟩

theorem Comes.bind {next : α → Interleaved μ σ ε β} {finish : β → σ → Prop}
    (first : Comes schedule before code after)
    (second : ∀ a, Comes schedule (after a) (next a) finish) :
    Comes schedule before (code >>= next) finish := by
  intro start s holds
  obtain ⟨one, a, t, ends, here⟩ := first start s holds
  obtain ⟨two, b, u, ends', ending⟩ := second a (start + one) t here
  refine ⟨one + two, b, u, ?_, ending⟩
  rw [slice_add]
  exact ends.bind ends'

theorem Comes.given {fact : Prop} (comes : fact → Comes schedule before code after) :
    Comes schedule (fun s => fact ∧ before s) code after :=
  fun start s holds => comes holds.1 start s holds.2

theorem Comes.weaken {weaker : σ → Prop} {more : α → σ → Prop}
    (comes : Comes schedule before code after) (pre : ∀ s, weaker s → before s)
    (post : ∀ a s, after a s → more a s) : Comes schedule weaker code more := by
  intro start s holds
  obtain ⟨count, a, t, ends, here⟩ := comes start s (pre s holds)
  exact ⟨count, a, t, ends, post a t here⟩

/-- From any place of the schedule the code ends with this. -/
def EndsAs (schedule : Nat → μ) (before : σ → Prop) (code : Interleaved μ σ ε α)
    (result : Except ε α) : Prop :=
  ∀ start s, before s → ∃ count t, Ends code (slice schedule start count) s result t

theorem EndsAs.behind {next : α → Interleaved μ σ ε β} {result : Except ε β}
    (first : Comes schedule before code after)
    (second : ∀ a, EndsAs schedule (after a) (next a) result) :
    EndsAs schedule before (code >>= next) result := by
  intro start s holds
  obtain ⟨one, a, t, ends, here⟩ := first start s holds
  obtain ⟨two, u, ends'⟩ := second a (start + one) t here
  refine ⟨one + two, u, ?_⟩
  rw [slice_add]
  exact ends.bind ends'

variable {advance : μ → σ → σ}

theorem Comes.access {act : σ → α × σ}
    (holds : ∀ moment s, before s →
      after (act (advance moment s)).1 (act (advance moment s)).2) :
    Comes schedule before (Interleaved.access advance act : Interleaved μ σ ε α) after :=
  fun start s here => ⟨1, _, _, fun _ => rfl, holds (schedule start) s here⟩

/-- Polling for what the peer does again and again. -/
theorem Comes.poll {late : μ → Bool} {stop : μ → σ → Bool} {e : ε} {finish : Unit → σ → Prop}
    (keeps : ∀ moment s, before s → before (advance moment s))
    (found : ∀ moment s, before s → stop moment s = true → finish () s)
    (punctual : ∀ k, late (schedule k) = false)
    (comes : ∀ start, ∃ k, start ≤ k ∧
      ∀ s, before s → stop (schedule k) (advance (schedule k) s) = true) :
    Comes schedule before (pollUntil advance late stop e) finish := by
  intro start s holds
  obtain ⟨last, behind, stops⟩ := comes start
  obtain ⟨distance, rfl⟩ : ∃ distance, last = start + distance := ⟨last - start, by omega⟩
  clear behind
  induction distance generalizing start s with
  | zero =>
      refine ⟨1, (), advance (schedule start) s, fun rest => ?_, ?_⟩
      · have now := stops s holds
        rw [Nat.add_zero] at now
        change pollUntil advance late stop e (schedule start :: rest) s = _
        rw [pollUntil, punctual, if_neg Bool.false_ne_true, if_pos now]
      · exact found _ _ (keeps _ s holds) (stops s holds)
  | succ distance ih =>
      by_cases now : stop (schedule start) (advance (schedule start) s) = true
      · refine ⟨1, (), advance (schedule start) s, fun rest => ?_, ?_⟩
        · change pollUntil advance late stop e (schedule start :: rest) s = _
          rw [pollUntil, punctual, if_neg Bool.false_ne_true, if_pos now]
        · exact found _ _ (keeps _ s holds) now
      · have shift : start + (distance + 1) = start + 1 + distance := by omega
        rw [shift] at stops
        obtain ⟨count, a, t, ends, here⟩ := ih (start + 1) _ (keeps _ s holds) stops
        refine ⟨count + 1, a, t, fun rest => ?_, here⟩
        change pollUntil advance late stop e
          (schedule start :: (slice schedule (start + 1) count ++ rest)) s = _
        rw [pollUntil, punctual, if_neg Bool.false_ne_true, if_neg now]
        exact ends rest

end

end Interleaved

end Mp257Fsbl.Foundation
