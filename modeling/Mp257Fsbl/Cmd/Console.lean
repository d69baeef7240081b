/-
Module: Mp257Fsbl.Cmd.Console
Purpose: The receive ring and the interrupt flag of console.c, and the list
  that the ring holds.
Trusted boundary: human-reviewed model of console.c
Main exports: Console, consolePush, consoleRxGet, consoleInterrupted, Holds,
  holds_push, holds_rxGet
-/
import Mp257Fsbl.Foundation.Circular

namespace Mp257Fsbl.Cmd

open Mp257Fsbl.Foundation

def rxbufSize : Nat := 64

/-- The statics of console.c. The indices are only ever set to a remainder. -/
structure Console where
  rxBuf : Store UInt8
  rxHead : Nat
  rxTail : Nat
  interruptFlag : Bool
  keyFlag : Bool
  head_lt : rxHead < rxbufSize
  tail_lt : rxTail < rxbufSize

/-- Out of reset. -/
def Console.reset : Console where
  rxBuf := fun _ => 0
  rxHead := 0
  rxTail := 0
  interruptFlag := false
  keyFlag := false
  head_lt := by decide
  tail_lt := by decide

theorem wrap_lt (i : Nat) : i % rxbufSize < rxbufSize := Nat.mod_lt i (by decide)

def consolePush (c : UInt8) (console : Console) : Console :=
  if c = 0x00 then console
  else if c = 0x03 then { console with interruptFlag := true }
  else
    let next := (console.rxHead + 1) % rxbufSize
    if next ≠ console.rxTail then
      { console with
        rxBuf := console.rxBuf.overlay console.rxHead [c]
        rxHead := next
        head_lt := wrap_lt _
        keyFlag := true }
    else { console with keyFlag := true }

def consoleInterrupted (console : Console) : Bool × Console :=
  if console.interruptFlag then (true, { console with interruptFlag := false })
  else (false, console)

def consoleRxEmpty (console : Console) : Bool := console.rxTail == console.rxHead

/-- Undefined where the ring is empty, as in the source. -/
def consoleRxGet (console : Console) : UInt8 × Console :=
  (console.rxBuf console.rxTail,
    { console with rxTail := (console.rxTail + 1) % rxbufSize, tail_lt := wrap_lt _ })

/-! ### The list in the ring -/

/-- The bytes that `console_push` puts into the ring. -/
def enqueued (c : UInt8) : Bool := c != 0x00 && c != 0x03

/-- The ring holds the list, oldest byte first. One slot stays free. -/
structure Holds (console : Console) (list : List UInt8) : Prop where
  short : list.length < rxbufSize
  head : (console.rxTail + list.length) % rxbufSize = console.rxHead
  cells : Segment rxbufSize console.rxBuf console.rxTail list

section Ring

variable {console : Console} {list : List UInt8}

theorem holds_empty (same : console.rxTail = console.rxHead) : Holds console [] where
  short := by decide
  head := by
    rw [List.length_nil, Nat.add_zero, ← same]
    exact Nat.mod_eq_of_lt console.tail_lt
  cells := Segment.nil

/-- Empty means nothing stored. -/
theorem rxEmpty_iff (holds : Holds console list) : consoleRxEmpty console = true ↔ list = [] := by
  have head := holds.head
  have short := holds.short
  have tail := console.tail_lt
  simp only [consoleRxEmpty, beq_iff_eq, ← List.length_eq_zero_iff]
  simp only [rxbufSize] at head short tail
  omega

/-- With a slot to spare, an ordinary byte goes to the end of the list. -/
theorem holds_push {c : UInt8} (holds : Holds console list) (room : list.length + 1 < rxbufSize)
    (ordinary : enqueued c = true) : Holds (consolePush c console) (list ++ [c]) := by
  have head := holds.head
  have tail := console.tail_lt
  have next : (console.rxHead + 1) % rxbufSize =
      (console.rxTail + (list.length + 1)) % rxbufSize := by
    rw [← head, Nat.mod_add_mod, Nat.add_assoc]
  have free : (console.rxHead + 1) % rxbufSize ≠ console.rxTail := by
    rw [next]
    simp only [rxbufSize] at room tail ⊢
    omega
  simp only [enqueued, Bool.and_eq_true, bne_iff_ne] at ordinary
  simp only [consolePush, ordinary.1, ordinary.2, if_false, ne_eq, free, not_false_eq_true, if_true]
  refine ⟨by simpa using room, ?_, ?_⟩
  · simpa using next.symm
  · change Segment rxbufSize (console.rxBuf.overlay console.rxHead [c]) console.rxTail (list ++ [c])
    rw [← head]
    exact holds.cells.write holds.short c

/-- NUL and Ctrl-C do not enter the ring. -/
theorem holds_push_other {c : UInt8} (holds : Holds console list) (other : enqueued c = false) :
    Holds (consolePush c console) list := by
  unfold consolePush
  split
  · exact holds
  · split
    · exact ⟨holds.short, holds.head, holds.cells⟩
    · simp_all [enqueued]

/-- The oldest byte comes out first. -/
theorem holds_rxGet {c : UInt8} (holds : Holds console (c :: list)) :
    (consoleRxGet console).1 = c ∧ Holds (consoleRxGet console).2 list := by
  have short := holds.short
  have head := holds.head
  rw [List.length_cons] at short head
  constructor
  · have oldest := holds.cells.first
    rwa [Nat.mod_eq_of_lt console.tail_lt] at oldest
  · refine ⟨by omega, ?_, holds.cells.rest⟩
    change ((console.rxTail + 1) % rxbufSize + list.length) % rxbufSize = console.rxHead
    rw [Nat.mod_add_mod, ← head]
    congr 1
    omega

theorem push_interruptFlag (console : Console) (c : UInt8) :
    (consolePush c console).interruptFlag = (console.interruptFlag || c == 0x03) := by
  unfold consolePush
  split
  · rename_i null
    subst null
    simp
  · split
    · rename_i ctrlC
      simp [ctrlC]
    · rename_i other
      simp only
      split <;> simp [other]

end Ring

end Mp257Fsbl.Cmd
