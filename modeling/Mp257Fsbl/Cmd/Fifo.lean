/-
Module: Mp257Fsbl.Cmd.Fifo
Purpose: The receive ring against a queue of 63 characters, over any calls of
  console_push and console_rx_get.
Trusted boundary: none
Main exports: RingCall, Ring, Ring.call, Queues, ring_simulates, ring_fifo
-/
import Mp257Fsbl.Cmd.Console
import Mp257Fsbl.Foundation.Queue

namespace Mp257Fsbl.Cmd

open Mp257Fsbl.Foundation

inductive RingCall where
  | push (c : UInt8)
  | get
deriving Repr, DecidableEq

/-- The statics of console.c and what `console_rx_get` has returned. -/
structure Ring where
  console : Console
  returned : List UInt8

def Ring.reset : Ring where
  console := .reset
  returned := []

/-- `console_rx_get` is called only where `console_rx_empty` is false. -/
def Ring.call : RingCall → Ring → Option Ring
  | .push c, ring => some { ring with console := consolePush c ring.console }
  | .get, ring =>
      if consoleRxEmpty ring.console then none
      else
        let got := consoleRxGet ring.console
        some { console := got.2, returned := ring.returned ++ [got.1] }

/-- One slot stays free. -/
def ringCapacity : Nat := rxbufSize - 1

/-- What a call does to the queue: NUL and Ctrl-C are not put. -/
def RingCall.onQueue : RingCall → List (QueueCall UInt8)
  | .push c => if enqueued c then [.put c] else []
  | .get => [.take]

/-- The ring holds what the queue stores. -/
structure Queues (ring : Ring) (queue : Queue UInt8) : Prop where
  holds : Holds ring.console queue.stored
  returned : ring.returned = queue.returned

theorem queues_reset : Queues .reset .empty where
  holds := holds_empty rfl
  returned := rfl

/-- With no slot to spare, an ordinary byte only sets the key flag. -/
theorem push_full {console : Console} {list : List UInt8} {c : UInt8}
    (holds : Holds console list) (full : list.length = ringCapacity)
    (ordinary : enqueued c = true) : consolePush c console = { console with keyFlag := true } := by
  have head := holds.head
  have tail := console.tail_lt
  have taken : (console.rxHead + 1) % rxbufSize = console.rxTail := by
    rw [full] at head
    simp only [ringCapacity, rxbufSize] at head tail ⊢
    omega
  simp only [enqueued, Bool.and_eq_true, bne_iff_ne] at ordinary
  simp only [consolePush, ordinary.1, ordinary.2, if_false, ne_eq, taken, not_true_eq_false]

theorem holds_push_full {console : Console} {list : List UInt8} {c : UInt8}
    (holds : Holds console list) (full : list.length = ringCapacity)
    (ordinary : enqueued c = true) : Holds (consolePush c console) list := by
  rw [push_full holds full ordinary]
  exact ⟨holds.short, holds.head, holds.cells⟩

/-- Whatever is pushed, the ring holds a list. -/
theorem holds_push_any {console : Console} {list : List UInt8} (holds : Holds console list)
    (c : UInt8) : ∃ after, Holds (consolePush c console) after := by
  cases ordinary : enqueued c with
  | false => exact ⟨list, holds_push_other holds ordinary⟩
  | true =>
      by_cases room : list.length + 1 < rxbufSize
      · exact ⟨list ++ [c], holds_push holds room ordinary⟩
      · have short := holds.short
        have full : list.length = ringCapacity := by
          simp only [ringCapacity, rxbufSize] at room short ⊢
          omega
        exact ⟨list, holds_push_full holds full ordinary⟩

/-- Every call does to the ring what it does to the queue. -/
theorem ring_call_simulates (call : RingCall) (ring : Ring) (queue : Queue UInt8)
    (queues : Queues ring queue) :
    Option.Rel Queues (ring.call call) (exec (Queue.call ringCapacity) call.onQueue queue) := by
  have short := queues.holds.short
  cases call with
  | push c =>
      cases ordinary : enqueued c with
      | false =>
          simp only [RingCall.onQueue, ordinary]
          exact .some ⟨holds_push_other queues.holds ordinary, queues.returned⟩
      | true =>
          simp only [RingCall.onQueue, ordinary, if_true, exec, Queue.call, Option.bind_some]
          by_cases room : queue.stored.length < ringCapacity
          · rw [if_pos room]
            have spare : queue.stored.length + 1 < rxbufSize := Nat.add_lt_of_lt_sub room
            exact .some ⟨holds_push queues.holds spare ordinary, queues.returned⟩
          · rw [if_neg room]
            have full : queue.stored.length = ringCapacity := by
              simp only [ringCapacity, rxbufSize] at room short ⊢
              omega
            exact .some ⟨holds_push_full queues.holds full ordinary, queues.returned⟩
  | get =>
      have empty := rxEmpty_iff queues.holds
      simp only [RingCall.onQueue, exec, Queue.call, Ring.call]
      cases stored : queue.stored with
      | nil =>
          rw [if_pos (empty.mpr stored)]
          exact .none
      | cons c rest =>
          have more : ¬ consoleRxEmpty ring.console = true := by simp [empty, stored]
          rw [if_neg more]
          have holds := queues.holds
          rw [stored] at holds
          obtain ⟨oldest, holds⟩ := holds_rxGet holds
          exact .some ⟨holds, by simp only [queues.returned, oldest]⟩

/-- Over any calls the ring is the queue. -/
theorem ring_simulates (calls : List RingCall) :
    Option.Rel Queues (exec Ring.call calls .reset)
      (exec (Queue.call ringCapacity) (calls.flatMap RingCall.onQueue) .empty) :=
  exec_simulates RingCall.onQueue Queues ring_call_simulates calls queues_reset

/-- What has been returned, and then what is stored, is what has been pushed
without NUL, Ctrl-C and what was pushed on 63 stored characters. -/
theorem ring_fifo {calls : List RingCall} {ring : Ring}
    (done : exec Ring.call calls .reset = some ring) :
    ∃ stored, Holds ring.console stored ∧ stored.length ≤ 63 ∧
      ring.returned ++ stored = accepted 63 0 (calls.flatMap RingCall.onQueue) ∧
      (consoleRxEmpty ring.console = true ↔ stored = []) ∧
      (consoleRxEmpty ring.console = true →
        ring.returned = accepted 63 0 (calls.flatMap RingCall.onQueue)) ∧
      ring.console.rxHead < 64 ∧ ring.console.rxTail < 64 ∧
      ∀ c, enqueued c = true → stored.length = 63 →
        Holds (consolePush c ring.console) stored ∧
          (consolePush c ring.console).rxBuf = ring.console.rxBuf ∧
          (consolePush c ring.console).rxHead = ring.console.rxHead ∧
          (consolePush c ring.console).rxTail = ring.console.rxTail := by
  have related := ring_simulates calls
  rw [done] at related
  generalize ran : exec (Queue.call ringCapacity) (calls.flatMap RingCall.onQueue) .empty = after
    at related
  cases related with
  | @some _ queue queues =>
      have empty := rxEmpty_iff queues.holds
      have accounts : ring.returned ++ queue.stored =
          accepted 63 0 (calls.flatMap RingCall.onQueue) := by
        rw [queues.returned]
        exact exec_accounts ran
      refine ⟨queue.stored, queues.holds, Nat.le_of_lt_succ queues.holds.short, accounts, empty, ?_,
        ring.console.head_lt, ring.console.tail_lt, ?_⟩
      · intro drained
        rwa [empty.mp drained, List.append_nil] at accounts
      · intro c ordinary full
        refine ⟨holds_push_full queues.holds full ordinary, ?_⟩
        rw [push_full queues.holds full ordinary]
        exact ⟨rfl, rfl, rfl⟩

theorem ring_fifo_pair :
    ∃ ring, exec Ring.call [.push 0x61, .push 0x03, .get, .push 0x62] .reset = some ring ∧
      ∃ stored, ring.returned ++ stored = [0x61, 0x62] := by
  refine ⟨_, rfl, ?_⟩
  obtain ⟨stored, _, _, accounts, _⟩ :=
    @ring_fifo [.push 0x61, .push 0x03, .get, .push 0x62] _ rfl
  exact ⟨stored, accounts⟩

end Mp257Fsbl.Cmd
