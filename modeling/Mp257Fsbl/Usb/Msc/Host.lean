/-
Module: Mp257Fsbl.Usb.Msc.Host
Purpose: Block commands as a host encodes them, and how the class decodes
  what it received.
Trusted boundary: human-reviewed statement of the wrappers a host sends
Main exports: IoOp, IoCommand, IoCommand.packet
-/
import Mp257Fsbl.Usb.Msc.Bus

namespace Mp257Fsbl.Usb.Msc

open Mp257Fsbl.Foundation
open Mp257Fsbl.Sd

/-- The big-endian bytes of a 16-bit word. -/
def be16Bytes (word : UInt16) : List UInt8 := [(word >>> 8).toUInt8, word.toUInt8]

/-- A block command: WRITE(10) carries the blocks to store. -/
inductive IoOp where
  | read10
  | write10 (blocks : List (List UInt8))
deriving Repr, DecidableEq

namespace IoOp

def opcode : IoOp → UInt8
  | .read10 => 0x28
  | .write10 _ => 0x2A

/-- Bit 7 of `bmCBWFlags`: device-to-host for a read. -/
def direction : IoOp → UInt8
  | .read10 => 0x80
  | .write10 _ => 0

def blocks : IoOp → List (List UInt8)
  | .read10 => []
  | .write10 blocks => blocks

/-- A WRITE(10) of `cnt` blocks carries that many whole blocks. -/
def Carries (cnt : Nat) : IoOp → Prop
  | .read10 => True
  | .write10 blocks => blocks.length = cnt ∧ ∀ block ∈ blocks, block.length = blockSize

end IoOp

/-- A READ(10) or WRITE(10) of at least one block inside the card, in a CBW
whose length and direction agree with it. The bytes that mean nothing to the
class are arbitrary. -/
structure IoCommand (info : SdDevInfo) where
  op : IoOp
  tag : UInt32
  lba : UInt32
  cnt : UInt16
  flags : UInt8
  lun : UInt8
  cbLength : UInt8
  cdb1 : UInt8
  cdb6 : UInt8
  cdbTail : List UInt8
  cdbTail_length : cdbTail.length = 7
  nonempty : 1 ≤ cnt.toNat
  inRange : lba.toNat + cnt.toNat ≤ info.blockCount
  direction : flags &&& 0x80 = op.direction
  carries : op.Carries cnt.toNat

namespace IoCommand

variable {info : SdDevInfo}

/-- The 31 bytes on the wire. -/
def packet (command : IoCommand info) : List UInt8 :=
  le32Bytes cbwSignature ++ le32Bytes command.tag ++
    le32Bytes (blockBytes * command.cnt.toUInt32) ++
    [command.flags, command.lun, command.cbLength, command.op.opcode, command.cdb1] ++
    be32Bytes command.lba ++ [command.cdb6] ++ be16Bytes command.cnt ++ command.cdbTail

/-- The bytes of the OUT data phase. -/
def payload (command : IoCommand info) : List UInt8 := command.op.blocks.flatten

@[simp] theorem packet_length (command : IoCommand info) : command.packet.length = 31 := by
  simp [packet, le32Bytes, be32Bytes, be16Bytes, command.cdbTail_length]

variable (command : IoCommand info) (s : MscState)

theorem received_signature :
    (s.received .cbw command.packet).cbw.signature = cbwSignature :=
  word32_of_bytes cbwSignature

theorem received_tag : (s.received .cbw command.packet).cbw.tag = command.tag :=
  word32_of_bytes command.tag

theorem received_lba : (s.received .cbw command.packet).cbw.lba = command.lba :=
  word32_of_bytes command.lba

theorem received_cnt : (s.received .cbw command.packet).cbw.cnt = command.cnt.toUInt32 :=
  word16_of_bytes command.cnt

theorem received_opcode :
    (s.received .cbw command.packet).cbw.cb 0 = command.op.opcode := rfl

end IoCommand

end Mp257Fsbl.Usb.Msc
