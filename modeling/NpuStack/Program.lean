import NpuStack.Compiler.Error
import NpuStack.Instruction.Basic

/-! Programs: instruction sequences that never grow past a bound. Adding to a
full program is an error, and nothing is ever cut off. -/

set_option autoImplicit false

namespace NpuStack

structure Program where
  instructions : Array Instruction
  bound : Nat
  size_le : instructions.size ≤ bound
  deriving DecidableEq, Repr

namespace Program

def empty (bound : Nat) : Program := ⟨#[], bound, Nat.zero_le _⟩

def size (program : Program) : Nat := program.instructions.size

def ofArray (instructions : Array Instruction) (bound : Nat) : Except CompileError Program :=
  if h : instructions.size ≤ bound then .ok ⟨instructions, bound, h⟩
  else .error (.sequenceOverflow bound)

/-- Instructions with their own number as bound. -/
def exact (instructions : Array Instruction) : Program := ⟨instructions, instructions.size, Nat.le_refl _⟩

@[inline] def push (program : Program) (inst : Instruction) : Except CompileError Program :=
  if h : program.instructions.size < program.bound then
    .ok ⟨program.instructions.push inst, program.bound, by
      simp only [Array.size_push]
      omega⟩
  else .error (.sequenceOverflow program.bound)

def words (program : Program) : List UInt64 := program.instructions.toList.map Instruction.word

def imageOf (instructions : Array Instruction) : ByteArray :=
  ⟨⟨instructions.toList.flatMap Instruction.toBytes⟩⟩

def toBytes (program : Program) : ByteArray := imageOf program.instructions

def lines : (index : Nat) → List Instruction → List String
  | _, [] => []
  | index, inst :: rest =>
    (Text.padLeft 4 (toString index) ++ ": " ++ inst.text ++ "\n") :: lines (index + 1) rest

def listing (program : Program) : String := String.join (lines 0 program.instructions.toList)

/-- Body start and iteration count of the first hardware loop; zeros if there is none. -/
def firstLoop (instructions : Array Instruction) : UInt32 × UInt32 :=
  match instructions.findIdx? (·.opcode == .loopStart) with
  | some index =>
    (.ofNat (min (index + 1) (UInt32.size - 1)),
      match instructions[index]? with
      | some inst => (LoopOperand.unpack inst.operand).value
      | none => 0)
  | none => (0, 0)

end Program

end NpuStack
