/-
Module: Mp257Fsbl.Cmd.Editor
Purpose: The line editor of cmd.c: prompt, history, completion, escape
  sequences and command dispatch, byte by byte.
Trusted boundary: human-reviewed model of cmd.c up to cmd_poll; what the editor
  prints is left out, and handlers are named, not run
Main exports: Editor, Executed, Dispatch, executeCommand, cmdTabCompletion,
  tryHandleEscape, cmdByte, cmdList
-/
import Mp257Fsbl.Utils.CString

namespace Mp257Fsbl.Cmd

open Mp257Fsbl.Utils

def cmdMaxLen : Nat := 32
def historySize : Int := 8

/-- A command name with its terminator, as the table points to it. -/
def cString (text : List Char) : List UInt8 := text.map (fun c => UInt8.ofNat c.toNat) ++ [0]

/-- The names of `cmd_list`. -/
def cmdList : List (List UInt8) :=
  [cString ['h', 'e', 'l', 'p'],
    cString ['p', 'm', 'i', 'c'],
    cString ['d', 'd', 'r'],
    cString ['s', 'd'],
    cString ['s', 'd', 'w'],
    cString ['u', 's', 'b'],
    cString ['l', 'o', 'a', 'd', '_', 's', 'd'],
    cString ['j', 'u', 'm', 'p'],
    cString ['b', 'o', 'o', 't']]

/-- What `execute_command` makes of a nonempty line. -/
inductive Dispatch where
  | unknown
  | ambiguous
  | handler (name : List UInt8) (argc : Nat) (arg1 arg2 arg3 : UInt32)
deriving Repr, DecidableEq

/-- A nonempty line given to `execute_command`, and what it made of it. -/
structure Executed where
  line : List UInt8
  dispatch : Dispatch
deriving Repr, DecidableEq

/-- The statics of cmd.c and, at the end, the lines executed so far. -/
structure Editor where
  lineBuf : List UInt8
  lineLen : Nat
  history : List (List UInt8)
  historyHead : Int
  historyCount : Int
  historyIndex : Int
  escState : Nat
  executed : List Executed
deriving Repr, DecidableEq

/-! Every operation gives `none` where it reads or writes outside `line_buf`, a
history slot, a command name or the history array. -/

/-- `array[i] = cell`. -/
def writeAt {α : Type} (array : List α) (i : Nat) (cell : α) : Option (List α) :=
  if i < array.length then some (array.set i cell) else none

namespace Editor

/-- The characters on the line being edited. -/
def line (e : Editor) : List UInt8 := e.lineBuf.take e.lineLen

def cmdPrompt (e : Editor) : Editor :=
  { e with lineLen := 0, lineBuf := List.replicate cmdMaxLen 0 }

/-- `line_load`, whose `line_erase` ends in `cmd_prompt`. -/
def lineLoad (src : List UInt8) (e : Editor) : Option Editor := do
  let e := e.cmdPrompt
  let copied ← strncpy src cmdMaxLen
  let lineBuf ← writeAt copied (cmdMaxLen - 1) 0
  let lineLen ← strlen lineBuf
  return { e with lineBuf := lineBuf, lineLen := lineLen }

/-! ### History

The indices are nonnegative wherever `%` is applied to them. -/

/-- `history[i]`. -/
def historySlot (i : Int) (e : Editor) : Option (List UInt8) :=
  if 0 ≤ i then e.history[i.toNat]? else none

/-- `history_add` on `line_buf`, as `cmd_poll` calls it. -/
def historyAdd (e : Editor) : Option Editor := do
  let lineBuf ← writeAt e.lineBuf e.lineLen 0
  let e := { e with lineBuf := lineBuf }
  let first ← deref e.lineBuf
  if first = 0 then return e
  else
    let copied ← strncpy e.lineBuf cmdMaxLen
    let slot ← writeAt copied (cmdMaxLen - 1) 0
    let history ← if 0 ≤ e.historyHead then writeAt e.history e.historyHead.toNat slot else none
    return { e with
      history := history
      historyHead := (e.historyHead + 1) % historySize
      historyCount := if e.historyCount < historySize then e.historyCount + 1 else e.historyCount
      historyIndex := -1 }

def historyPrev (e : Editor) : Option Editor := do
  if e.historyCount = 0 then return e
  else
    let index :=
      if e.historyIndex < 0 then (e.historyHead - 1 + historySize) % historySize
      else
        let oldest := (e.historyHead - e.historyCount + historySize) % historySize
        if e.historyIndex ≠ oldest then (e.historyIndex - 1 + historySize) % historySize
        else e.historyIndex
    let slot ← e.historySlot index
    lineLoad slot { e with historyIndex := index }

def historyNext (e : Editor) : Option Editor := do
  if e.historyIndex < 0 then return e
  else
    let index := (e.historyIndex + 1) % historySize
    if index = e.historyHead then lineLoad [0] { e with historyIndex := -1 }
    else
      let slot ← e.historySlot index
      lineLoad slot { e with historyIndex := index }

end Editor

/-! ### Arguments -/

def myIsspace (c : UInt8) : Bool :=
  c == 0x20 || c == 0x0C || c == 0x0A || c == 0x0D || c == 0x09 || c == 0x0B

/-- `while (*p && my_isspace(*p)) p++`. -/
def skipSpace : List UInt8 → Option (List UInt8) := skipWhile myIsspace

/-- `while (*p && !my_isspace(*p)) p++`. -/
def skipWord : List UInt8 → Option (List UInt8) := skipWhile fun c => c != 0 && !myIsspace c

/-- The start of the integer behind an optional `name=`. -/
def skipNamePrefix (p : List UInt8) : Option (List UInt8) := do
  let q ← skipWhile (fun c => isUpper c || isLower c || c == 0x5F) p
  let c ← deref q
  return if q.length ≠ p.length ∧ c = 0x3D then q.drop 1 else p

/-- The loop of `parse_args_uint32` with `n` rounds to go: the count and the
values stored, the last of them possibly by the round that stops it. -/
def parseArgsFrom : (n : Nat) → (p : List UInt8) → Option (Nat × List UInt32)
  | 0, _ => some (0, [])
  | n + 1, p => do
      let c ← deref p
      if c = 0 then return (0, [])
      else
        let p ← skipNamePrefix p
        let (val, rest) ← strtoul p 0
        if rest.length = p.length then return (0, [val.toUInt32])
        else
          let next ← skipSpace rest
          let (count, args) ← parseArgsFrom n next
          return (count + 1, val.toUInt32 :: args)

/-- `parse_args_uint32` on `line_buf`. -/
def parseArgsUint32 (lineBuf : List UInt8) : Option (Nat × List UInt32) := do
  let p ← skipWord lineBuf
  let p ← skipSpace p
  parseArgsFrom 3 p

/-! ### Dispatch -/

/-- The loop of `execute_command`: `found` and `match`. -/
def selectCommand (lineBuf : List UInt8) (cmdLen : Nat) :
    (cmds : List (List UInt8)) → (found : Nat) → (matched : Option (List UInt8)) →
      Option (Nat × Option (List UInt8))
  | [], found, matched => some (found, matched)
  | name :: cmds, found, matched => do
      let order ← strncmp lineBuf name cmdLen
      if order = 0 then
        let next ← name[cmdLen]?
        -- An exact name match always wins over prefix matches.
        if next = 0 then return (1, some name)
        else selectCommand lineBuf cmdLen cmds (found + 1) (some name)
      else selectCommand lineBuf cmdLen cmds found matched

/-- What `execute_command` does with the nonempty line in `line_buf`. -/
def dispatchLine (cmds : List (List UInt8)) (lineBuf : List UInt8) (lineLen : Nat) :
    Option Dispatch := do
  let space ← strchr lineBuf 0x20
  let cmdLen := space.getD lineLen
  let (found, matched) ← selectCommand lineBuf cmdLen cmds 0 none
  match found, matched with
  | 1, some name =>
      let (argc, args) ← parseArgsUint32 lineBuf
      return .handler name argc (args.getD 0 0) (args.getD 1 0) (args.getD 2 0)
  | 0, _ => return .unknown
  | _, _ => return .ambiguous

namespace Editor

def executeCommand (cmds : List (List UInt8)) (e : Editor) : Option Editor := do
  if e.lineLen = 0 then return e.cmdPrompt
  else
    let lineBuf ← writeAt e.lineBuf e.lineLen 0
    let dispatch ← dispatchLine cmds lineBuf e.lineLen
    let entry : Executed := { line := lineBuf.take e.lineLen, dispatch := dispatch }
    return cmdPrompt { e with lineBuf := lineBuf, executed := e.executed ++ [entry] }

/-! ### Completion -/

/-- The loop that appends the rest of a name, with `n` characters to go. -/
def completeFrom (name : List UInt8) : (n : Nat) → (e : Editor) → Option Editor
  | 0, e => some e
  | n + 1, e => do
      let c ← name[e.lineLen]?
      let lineBuf ← writeAt e.lineBuf e.lineLen c
      completeFrom name n { e with lineBuf := lineBuf, lineLen := e.lineLen + 1 }

def cmdTabCompletion (cmds : List (List UInt8)) (e : Editor) : Option Editor := do
  let matching ← cmds.filterM fun name => do
    let order ← strncmp e.lineBuf name e.lineLen
    return order == 0
  match matching with
  | [name] =>
      let len ← strlen name
      completeFrom name (len - e.lineLen) e
  | _ => return e

/-! ### Input -/

/-- `try_handle_escape`: whether the byte is consumed, and the editor. -/
def tryHandleEscape (byte : UInt8) (e : Editor) : Option (Bool × Editor) := do
  if e.escState = 1 then
    if byte = 0x5B then return (true, { e with escState := 2 })
    else return (true, { e with escState := 0 })
  else if e.escState = 2 then
    let e ←
      if byte = 0x41 then e.historyPrev
      else if byte = 0x42 then e.historyNext
      else some e
    return (true, { e with escState := 0 })
  else if byte = 0x1B then return (true, { e with escState := 1 })
  else return (false, e)

/-- One round of the loop of `cmd_poll`. -/
def cmdByte (cmds : List (List UInt8)) (byte : UInt8) (e : Editor) : Option Editor := do
  let (handled, e) ← e.tryHandleEscape byte
  if handled then return e
  else if byte = 0x0D ∨ byte = 0x0A then
    let e ← e.historyAdd
    e.executeCommand cmds
  else if byte = 0x08 ∨ byte = 0x7F then
    if e.lineLen > 0 then
      let lineLen := e.lineLen - 1
      let lineBuf ← writeAt e.lineBuf lineLen 0
      return { e with lineBuf := lineBuf, lineLen := lineLen }
    else return e
  else if 0x20 ≤ byte ∧ byte ≤ 0x7E then
    if e.lineLen < cmdMaxLen - 1 then
      let lineBuf ← writeAt e.lineBuf e.lineLen byte
      return { e with lineBuf := lineBuf, lineLen := e.lineLen + 1 }
    else return e
  else if byte = 0x09 then e.cmdTabCompletion cmds
  else if byte = 0x0C then return e.cmdPrompt
  else return e

/-- The statics after `cmd_init`. -/
def reset : Editor where
  lineBuf := List.replicate cmdMaxLen 0
  lineLen := 0
  history := List.replicate 8 (List.replicate cmdMaxLen 0)
  historyHead := 0
  historyCount := 0
  historyIndex := -1
  escState := 0
  executed := []

end Editor

end Mp257Fsbl.Cmd
