import NpuStack.Field
import NpuStack.Instruction.Opcode
import NpuStack.Instruction.Operand
import NpuStack.LittleEndian

/-! Instruction words: opcode in the top byte, flags below it, 48 operand bits.
`encode` and `decode` go between a word and its three parts. -/

set_option autoImplicit false

namespace NpuStack

inductive Flag where
  | last
  | irq
  | chain
  | async
  | relu
  | bias
  | quant
  | accum
  deriving DecidableEq, Repr

namespace Flag

def index : Flag → Nat
  | .last => 0
  | .irq => 1
  | .chain => 2
  | .async => 3
  | .relu => 4
  | .bias => 5
  | .quant => 6
  | .accum => 7

def mask (flag : Flag) : UInt8 := .ofNat (1 <<< flag.index)

def all : List Flag := [.last, .irq, .chain, .async, .relu, .bias, .quant, .accum]

end Flag

structure Instruction where
  word : UInt64
  deriving DecidableEq, Repr, Inhabited

namespace Instruction

def opcodeField : Field := ⟨56, 8⟩
def flagsField : Field := ⟨48, 8⟩
def operandField : Field := ⟨0, 48⟩

def byteSize : Nat := 8

def opcodeByte (inst : Instruction) : UInt8 := .ofNat (opcodeField.get inst.word)
def opcode (inst : Instruction) : Opcode := .ofByte inst.opcodeByte
def flags (inst : Instruction) : UInt8 := .ofNat (flagsField.get inst.word)
def operand (inst : Instruction) : UInt64 := .ofNat (operandField.get inst.word)

/-- The word with the given parts; operand bits above the field are dropped. -/
def encode (op : Opcode) (flags : UInt8) (operand : UInt64) : Instruction where
  word := packFields [opcodeField.place op.toByte.toNat, flagsField.place flags.toNat,
    operandField.place operand.toNat]

def decode (inst : Instruction) : Opcode × UInt8 × UInt64 := (inst.opcode, inst.flags, inst.operand)

def hasFlag (inst : Instruction) (flag : Flag) : Bool := inst.flags &&& flag.mask != 0

def isLast (inst : Instruction) : Bool := inst.hasFlag .last

def nop : Instruction := encode .nop 0 0

def halt : Instruction := encode .halt Flag.last.mask 0

def sync : Instruction := encode .sync 0 0
def waitDma : Instruction := encode .waitDma 0 0
def clearAcc : Instruction := encode .clearAcc 0 0

def loopStart (count : UInt32) : Instruction := encode .loopStart 0 (LoopOperand.pack ⟨count⟩)
def loopEnd (target : UInt32) : Instruction := encode .loopEnd 0 (LoopOperand.pack ⟨target⟩)

/-- A transfer instruction; the operand keeps the low bits of each field. -/
def transfer (op : Opcode) (src dst len : UInt32) : Instruction :=
  encode op 0 (DmaOperand.pack ⟨src, dst, len⟩)

def loadWeight (addr count : UInt32) : Instruction :=
  encode .loadWeight 0 (LoadWeightOperand.pack ⟨addr, count⟩)

def compute (flags : UInt8) : Instruction := encode .compute flags 0
def drain (addr : UInt32) : Instruction := encode .drain 0 addr.toUInt64

def pool (op : Opcode) (operand : PoolOperand) : Instruction := encode op 0 operand.pack
def eltwise (op : Opcode) (flags : UInt8) : Instruction := encode op flags 0

def text (inst : Instruction) : String :=
  Text.padRight 14 inst.opcode.text ++ " flags=" ++ Text.hexMarkedFixed 2 inst.flags.toNat
    ++ " operand=" ++ Text.hexMarkedFixed 12 inst.operand.toNat

def rawText (inst : Instruction) : String :=
  "Instruction(" ++ Text.hexMarkedFixed 16 inst.word.toNat ++ ")"

def toBytes (inst : Instruction) : List UInt8 := LittleEndian.encode byteSize inst.word.toNat

end Instruction

end NpuStack
