/-
Module: Mp257Fsbl.Boot.Board
Purpose: The console commands that touch DDR, the SD card and USB, as steps of
  one board state with a log of what they did.
Trusted boundary: human-reviewed model of the command handlers of cmd.c and
  boot.c; the payload of jump and the USB traffic are inputs
Main exports: Board, BoardAction, Board.handler_rule, Board.success_rule, Command,
  Command.run, BoardStep
-/
import Mp257Fsbl.Boot.Load
import Mp257Fsbl.Ddr.Init
import Mp257Fsbl.Foundation.Transition
import Mp257Fsbl.Sd.Init
import Mp257Fsbl.Sd.SelfTest

namespace Mp257Fsbl.Boot

open Mp257Fsbl.Foundation
open Mp257Fsbl.Sd
open Mp257Fsbl.Ddr

/-! ### State -/

def bootKernelLba : UInt32 := 262144
def bootKernelBlocks : UInt32 := 49152
def bootKernelAddr : UInt32 := 0x84000000
def bootDtbLba : UInt32 := 327680
def bootDtbBlocks : UInt32 := 512
def bootDtbAddr : UInt32 := 0x86000000

/-- The line a command ends with, by what it reports. -/
inductive Report where
  | ddrAlready (mb : UInt32)
  | ddrOk
  | ddrFailed
  | ddrInitFailed
  | sdInitFailed
  | sdReadFailed
  | sdMbr (mb : UInt32) (sig510 sig511 : UInt8) (ok : Bool)
  | selfTest (exit : SelfTestExit)
  | usbStartFailed
  | usbStopped
  | loadReadFailed (block : UInt32)
  | loaded (n lba dest sum : UInt32)
  | jumpReturned (ret : UInt64)
deriving Repr, DecidableEq

/-- What the commands do, in the order they do it. -/
inductive BoardAction where
  | ddrInit (ret : Int)
  | sdInit (ret : Int)
  /-- An assertion of `sd_init` fails; a panic follows. -/
  | sdInitAsserts
  | loadRegion (n lba dest : UInt32)
  | jump (addr : UInt32)
  | usbExport
  | dropToEl2 (dtb kernel : UInt32)
  | printed (report : Report)
  /-- `panic` or a failed `assert`: the call never returns. -/
  | panicked
deriving Repr, DecidableEq

/-- The `State` field of the USB driver handle. -/
inductive HalPcdState where
  | reset
  | ready
  | busy
deriving Repr, DecidableEq

/-- The static state behind the commands, the card and the memory. `atPrompt`
is lost where a command does not return. -/
structure Board where
  ddr : DdrPriv
  cmdDdrDone : Bool
  sd : SdGlue
  cmdSdDone : Bool
  pcdState : HalPcdState
  card : Store UInt8
  atPrompt : Bool
  log : List BoardAction

namespace Board

/-- Out of reset, with whatever is on the card and in the memory. -/
def reset (card memory : Store UInt8) : Board where
  ddr := { size := 0, memory := memory }
  cmdDdrDone := false
  sd := .reset
  cmdSdDone := false
  pcdState := .reset
  card := card
  atPrompt := true
  log := []

def did (action : BoardAction) (board : Board) : Board :=
  { board with log := board.log ++ [action] }

def say (report : Report) (board : Board) : Board := board.did (.printed report)

def panic (board : Board) : Board := { board.did .panicked with atPrompt := false }

/-! ### Bring-up

A call gives its return value, or `none` where it does not return. -/

def ddrInit (outcome : DdrOutcome) (board : Board) : Option Int × Board :=
  match Ddr.ddrInit outcome board.ddr with
  | none => (none, board.panic)
  | some (ret, priv) => (some ret, { board with ddr := priv }.did (.ddrInit ret))

def sdInit (outcome : SdInitOutcome) (board : Board) : Option Int × Board :=
  match Sd.sdInit outcome board.sd with
  | (none, glue) => (none, ({ board with sd := glue }.did .sdInitAsserts).panic)
  | (some ret, glue) => (some ret, { board with sd := glue }.did (.sdInit ret))

/-- `sd_init` where `sd_size_bytes` is zero, as `boot_ensure_hw`, `cmd_sdw` and
`usb_msc_start` have it. -/
def ensureSd (outcome : SdInitOutcome) (board : Board) : Option Int × Board :=
  if board.sd.info.sdSizeBytes = 0 then board.sdInit outcome else (some 0, board)

/-- `ddr_init` where `ddr_get_size` is zero. -/
def ensureDdr (outcome : DdrOutcome) (board : Board) : Option Int × Board :=
  if board.ddr.size = 0 then board.ddrInit outcome else (some 0, board)

end Board

/-- What the hardware makes of `boot_ensure_hw`. -/
structure HwOutcome where
  ddr : DdrOutcome
  sd : SdInitOutcome

namespace Board

/-- `boot_ensure_hw`; true where it returns zero. -/
def bootEnsureHw (hw : HwOutcome) (board : Board) : Bool × Board :=
  match board.ensureDdr hw.ddr with
  | (none, board) => (false, board)
  | (some ret, board) =>
      if ret ≠ 0 then (false, board.say .ddrInitFailed)
      else
        match board.ensureSd hw.sd with
        | (none, board) => (false, board)
        | (some ret, board) =>
            if ret ≠ 0 then (false, board.say .sdInitFailed) else (true, board)

/-- `load_region`; true where it returns zero. -/
def loadRegion (reads : UInt32 → SdOutcome) (n lba dest : UInt32) (board : Board) :
    Bool × Board :=
  let called := board.did (.loadRegion n lba dest)
  match Boot.loadRegion reads board.card n lba dest 0 board.ddr.memory with
  | (none, memory) => (true, { called with ddr := { called.ddr with memory := memory } })
  | (some block, memory) =>
      (false, { called with ddr := { called.ddr with memory := memory } }.say
        (.loadReadFailed block))

/-! ### Handlers -/

/-- `size / (1024 * 1024)` as the handlers print it. -/
def megabytes (size : Nat) : UInt32 := UInt32.ofNat (size / (1024 * 1024))

def cmdDdr (outcome : DdrOutcome) (board : Board) : Board :=
  if board.cmdDdrDone then board.say (.ddrAlready (megabytes board.ddr.size))
  else
    match board.ddrInit outcome with
    | (none, board) => board
    | (some ret, board) =>
        if ret = 0 then { board with cmdDdrDone := true }.say .ddrOk else board.say .ddrFailed

/-- The read of the MBR, with which `cmd_sd` ends. -/
def sdReadMbr (read : SdOutcome) (board : Board) : Board :=
  let result := sdRead read board.card 0 512 fun _ => 0
  if result.1 then
    let sig510 := result.2 510
    let sig511 := result.2 511
    board.say
      (.sdMbr (megabytes board.sd.info.sdSizeBytes) sig510 sig511
        (sig510 == 0x55 && sig511 == 0xAA))
  else board.say .sdReadFailed

def cmdSd (init : SdInitOutcome) (read : SdOutcome) (board : Board) : Board :=
  if board.cmdSdDone then board.sdReadMbr read
  else
    match board.sdInit init with
    | (none, board) => board
    | (some ret, board) =>
        if ret ≠ 0 then board.say .sdInitFailed
        else { board with cmdSdDone := true }.sdReadMbr read

/-- The buffers of the self test are overwritten before they are read, so they
start as zeroes here. -/
def cmdSdw (init : SdInitOutcome) (outcomes : SelfTestOutcomes) (board : Board) : Board :=
  match board.ensureSd init with
  | (none, board) => board
  | (some ret, board) =>
      if ret ≠ 0 then board.say .sdInitFailed
      else
        let zeroes : Store UInt8 := fun _ => 0
        let result :=
          selfTest outcomes board.sd.info.lastBlock zeroes zeroes zeroes board.card
        { board with card := result.2 }.say (.selfTest result.1)

end Board

/-- One `usb` command: the outcomes of its bring-up, and the card when a key
ends the session. -/
structure UsbOutcome where
  sd : SdInitOutcome
  /-- `dwc3_core_init` and `dwc3_dev_init` succeed; else they end in a panic. -/
  coreInit : Bool
  /-- The value of `usb_core_start` is `USBD_OK`. -/
  start : Bool
  card : Store UInt8

namespace Board

/-- `usb_msc_start`; the value tells whether it returns zero, and is `none`
where it does not return. -/
def usbMscStart (outcome : UsbOutcome) (board : Board) : Option Bool × Board :=
  match board.ensureSd outcome.sd with
  | (none, board) => (none, board)
  | (some ret, board) =>
      if ret ≠ 0 then (some false, board)
      -- The assertion of `usb_dwc3_init_driver`.
      else if board.pcdState ≠ .reset then (none, board.panic)
      else if outcome.coreInit = false then (none, { board with pcdState := .busy }.panic)
      else (some outcome.start, { board with pcdState := .ready })

def cmdUsb (outcome : UsbOutcome) (board : Board) : Board :=
  match board.usbMscStart outcome with
  | (none, board) => board
  | (some false, board) => board.say .usbStartFailed
  | (some true, board) => ({ board.did .usbExport with card := outcome.card }).say .usbStopped

def cmdLoadSd (argc : Nat) (arg1 arg2 arg3 : UInt32) (hw : HwOutcome)
    (reads : UInt32 → SdOutcome) (board : Board) : Board :=
  let n := if argc ≥ 1 then arg1 else bootKernelBlocks
  let lba := if argc ≥ 2 then arg2 else bootKernelLba
  let dest := if argc ≥ 3 then arg3 else bootKernelAddr
  match board.bootEnsureHw hw with
  | (false, board) => board
  | (true, board) =>
      match board.loadRegion reads n lba dest with
      | (false, board) => board
      | (true, board) =>
          let nWords := n * (sdBlockSize / 4)
          board.say (.loaded n lba dest (checksum board.ddr.memory dest.toNat nWords.toNat))

end Board

/-- The called program: its value and the memory it leaves, or `none` where it
never returns. -/
abbrev Payload := Option (UInt64 × Store UInt8)

namespace Board

def cmdJump (argc : Nat) (arg1 : UInt32) (payload : Payload) (board : Board) : Board :=
  let addr := if argc ≥ 1 then arg1 else bootKernelAddr
  let called := board.did (.jump addr)
  match payload with
  | none => { called with atPrompt := false }
  | some (ret, memory) =>
      { called with ddr := { called.ddr with memory := memory } }.say (.jumpReturned ret)

def cmdBoot (argc : Nat) (arg1 : UInt32) (hw : HwOutcome)
    (kernelReads dtbReads : UInt32 → SdOutcome) (board : Board) : Board :=
  let kernelBlocks := if argc ≥ 1 then arg1 else bootKernelBlocks
  match board.bootEnsureHw hw with
  | (false, board) => board
  | (true, board) =>
      match board.loadRegion kernelReads kernelBlocks bootKernelLba bootKernelAddr with
      | (false, board) => board
      | (true, board) =>
          match board.loadRegion dtbReads bootDtbBlocks bootDtbLba bootDtbAddr with
          | (false, board) => board
          | (true, board) =>
              { board.did (.dropToEl2 bootDtbAddr bootKernelAddr) with atPrompt := false }

end Board

/-! ### Handler rules

What holds where a call ends, and of what the handler makes of it, holds where
the handler ends. -/

namespace Board

/-- The rule for a handler that goes on from a call that may not return. -/
theorem handler_rule {P : Board → Prop} {result : Option Int × Board}
    {onward : Int → Board → Board} :
    P result.2 → (∀ ret, P (onward ret result.2)) →
      P
        (match result with
        | (none, board) => board
        | (some ret, board) => onward ret board) := by
  intro ended goesOn
  rcases result with ⟨_ | ret, board⟩
  · exact ended
  · exact goesOn ret

/-- The rule for a handler that goes on from a call that succeeds. -/
theorem success_rule {P : Board → Prop} {result : Bool × Board} {onward : Board → Board} :
    P result.2 → (result.1 = true → P (onward result.2)) →
      P
        (match result with
        | (false, board) => board
        | (true, board) => onward board) := by
  intro ended goesOn
  rcases result with ⟨_ | _, board⟩
  · exact ended
  · exact goesOn rfl

end Board

/-! ### Runs -/

/-- A command as typed, with what the hardware makes of it. -/
inductive Command where
  | ddr (outcome : DdrOutcome)
  | sd (init : SdInitOutcome) (read : SdOutcome)
  | sdw (init : SdInitOutcome) (outcomes : SelfTestOutcomes)
  | usb (outcome : UsbOutcome)
  | loadSd (argc : Nat) (arg1 arg2 arg3 : UInt32) (hw : HwOutcome) (reads : UInt32 → SdOutcome)
  | jump (argc : Nat) (arg1 : UInt32) (payload : Payload)
  | boot (argc : Nat) (arg1 : UInt32) (hw : HwOutcome) (kernelReads dtbReads : UInt32 → SdOutcome)

def Command.run : Command → Board → Board
  | .ddr outcome => Board.cmdDdr outcome
  | .sd init read => Board.cmdSd init read
  | .sdw init outcomes => Board.cmdSdw init outcomes
  | .usb outcome => Board.cmdUsb outcome
  | .loadSd argc arg1 arg2 arg3 hw reads => Board.cmdLoadSd argc arg1 arg2 arg3 hw reads
  | .jump argc arg1 payload => Board.cmdJump argc arg1 payload
  | .boot argc arg1 hw kernelReads dtbReads => Board.cmdBoot argc arg1 hw kernelReads dtbReads

/-- The prompt takes one command at a time. -/
abbrev BoardStep : Step Board Command :=
  Partial fun command board => if board.atPrompt then some (command.run board) else none

theorem boardStep_iff {board next : Board} {command : Command} :
    BoardStep board command next ↔ board.atPrompt = true ∧ next = command.run board := by
  simp only [Partial, Option.ite_none_right_eq_some, Option.some.injEq]
  exact and_congr_right fun _ => eq_comm

end Mp257Fsbl.Boot
