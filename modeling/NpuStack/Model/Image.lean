import NpuStack.Model.Header
import NpuStack.Program

/-! Model files: header, instructions, weights and bias. `Image.parse` checks
everything that a file promises, and `Draft.build` writes files that it accepts. -/

set_option autoImplicit false

namespace NpuStack.Model

structure Image where
  header : Header
  program : Program
  weights : ByteArray
  bias : ByteArray

/-- Read `count` instructions from index `index` on; each must be an operation. -/
def readInstructions (code : ByteArray) :
    (count : Nat) → (index : Nat) → Array Instruction → Attempt Fault (Array Instruction)
  | 0, _, read => .ok read
  | count + 1, index, read => do
    let inst : Instruction := ⟨.ofNat (← LittleEndian.readWithin code (8 * index) 8)⟩
    if inst.opcode.isUnassigned then Failure.report (.unassignedOpcode inst.opcodeByte index)
    else readInstructions code count (index + 1) (read.push inst)

def Image.cut (header : Header) (body : ByteArray) : Attempt Fault Image := do
  let codeStop ← Checked.mul64 header.instCount.toUInt64 8
  let weightStop ← Checked.add64 codeStop header.weightBytes.toUInt64
  let code ← Checked.slice body 0 codeStop.toNat
  let instructions ← readInstructions code header.instCount.toNat 0 #[]
  let weights ← Checked.slice body codeStop.toNat weightStop.toNat
  let bias ← Checked.slice body weightStop.toNat body.size
  return { header, program := .exact instructions, weights, bias }

/-- Read a whole file. The faults are looked for in a fixed order: header, length, checksum, and
last the instructions from the first to the last. -/
def Image.parse (data : ByteArray) : Attempt Fault Image := do
  let header ← Header.parse data
  let present ← Checked.subSize data.size headerBytes
  let declared ← header.bodyLength
  if present < declared.toNat then Failure.report (.truncated declared.toNat present)
  let body ← Checked.slice data headerBytes (headerBytes + declared.toNat)
  if header.checksum ≠ 0 ∧ checksum body ≠ header.checksum then
    Failure.report (.checksumMismatch (checksum body) header.checksum)
  Image.cut header body

def Image.toBytes (image : Image) : ByteArray :=
  image.header.toBytes ++ image.program.toBytes ++ image.weights ++ image.bias

structure Draft where
  instructions : Array Instruction := #[]
  weights : ByteArray := .empty
  bias : ByteArray := .empty
  layerCount : UInt16 := 0
  inputBytes : UInt32 := 0
  outputBytes : UInt32 := 0
  workspaceBytes : UInt32 := 0
  hasChecksum : Bool := false

namespace Draft

/-- Append the instructions of one more layer; the count stays at its largest value. -/
def layer (draft : Draft) (instructions : Array Instruction) : Draft :=
  { draft with
    instructions := draft.instructions ++ instructions
    layerCount := if draft.layerCount = 0xFFFF then 0xFFFF else draft.layerCount + 1 }

def body (draft : Draft) : ByteArray :=
  Program.imageOf draft.instructions ++ draft.weights ++ draft.bias

/-- The size of a section, named if it does not fit a header field. -/
def sectionSize (size : Nat) (what : String) : Except String UInt32 :=
  if size < UInt32.size then .ok (.ofNat size) else .error what

def build (draft : Draft) : Except String ByteArray := do
  let weightBytes ← sectionSize draft.weights.size "weights"
  let instCount ← sectionSize draft.instructions.size "instruction stream"
  let body := draft.body
  let sum := if draft.hasChecksum then checksum body else 0
  let biasBytes ← sectionSize draft.bias.size "bias"
  let header : Header := {
    layerCount := draft.layerCount
    weightBytes
    instCount
    inputBytes := draft.inputBytes
    outputBytes := draft.outputBytes
    workspaceBytes := draft.workspaceBytes
    checksum := sum
    biasBytes }
  return header.toBytes ++ body

end Draft

end NpuStack.Model
