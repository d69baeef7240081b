/-
Module: Mp257Fsbl.Foundation.Queue
Purpose: Queues of bounded capacity that drop what does not fit, and the
  account of what they return.
Trusted boundary: none
Main exports: QueueCall, Queue, Queue.call, accepted, exec_accounts
-/
import Mp257Fsbl.Foundation.Transition

namespace Mp257Fsbl.Foundation

variable {α : Type*}

inductive QueueCall (α : Type*) where
  | put (x : α)
  | take
deriving Repr, DecidableEq

/-- What is stored, oldest first, and what has been returned. -/
structure Queue (α : Type*) where
  stored : List α
  returned : List α

namespace Queue

def empty : Queue α where
  stored := []
  returned := []

/-- A full queue drops what is put; an empty one has nothing to return. -/
def call (capacity : Nat) : QueueCall α → Queue α → Option (Queue α)
  | .put x, queue =>
      some
        (if queue.stored.length < capacity then { queue with stored := queue.stored ++ [x] }
        else queue)
  | .take, queue =>
      match queue.stored with
      | [] => none
      | x :: rest => some { stored := rest, returned := queue.returned ++ [x] }

end Queue

/-- Of what is put, what finds room in a queue that stores `n` at first. -/
def accepted (capacity : Nat) : (n : Nat) → List (QueueCall α) → List α
  | _, [] => []
  | n, .put x :: calls =>
      if n < capacity then x :: accepted capacity (n + 1) calls else accepted capacity n calls
  | n, .take :: calls => accepted capacity (n - 1) calls

/-- Nothing is lost, invented or reordered but what found no room. -/
theorem exec_accounts {capacity : Nat} {calls : List (QueueCall α)} :
    ∀ {queue after : Queue α}, exec (Queue.call capacity) calls queue = some after →
      after.returned ++ after.stored =
        queue.returned ++ queue.stored ++ accepted capacity queue.stored.length calls := by
  induction calls with
  | nil =>
      intro queue after done
      cases done
      exact (List.append_nil _).symm
  | cons call calls ih =>
      intro queue after done
      obtain ⟨middle, first, rest⟩ := Option.bind_eq_some_iff.mp done
      rw [ih rest]
      cases call with
      | put x =>
          cases first
          by_cases room : queue.stored.length < capacity
          · simp [accepted, room]
          · simp [accepted, room]
      | take =>
          cases stored : queue.stored with
          | nil => simp [Queue.call, stored] at first
          | cons x kept =>
              simp only [Queue.call, stored, Option.some.injEq] at first
              subst first
              simp [accepted]

end Mp257Fsbl.Foundation
