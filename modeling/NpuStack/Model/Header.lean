import NpuStack.LittleEndian
import NpuStack.Text.Digits

/-! The header of a model file: 64 bytes of little-endian fields that say how
long the sections after it are. -/

set_option autoImplicit false

namespace NpuStack.Model

def magic : UInt32 := 0x4E505545

def newestVersion : UInt16 := 0x0100

def headerBytes : Nat := 64

/-- Sum of the bytes, modulo the size of a word. -/
def checksum (body : ByteArray) : UInt32 :=
  body.data.foldl (fun sum byte => sum + byte.toUInt32) 0

structure Header where
  version : UInt16 := newestVersion
  layerCount : UInt16 := 0
  weightBytes : UInt32 := 0
  instCount : UInt32 := 0
  inputBytes : UInt32 := 0
  outputBytes : UInt32 := 0
  workspaceBytes : UInt32 := 0
  /-- Checksum of the body; zero if it has none. -/
  checksum : UInt32 := 0
  biasBytes : UInt32 := 0
  deriving DecidableEq, Repr

inductive Fault where
  | shortHeader (size : Nat)
  | badMagic (found : UInt32)
  | newerVersion (found : UInt16)
  | truncated (declared present : Nat)
  | checksumMismatch (actual declared : UInt32)
  | unassignedOpcode (byte : UInt8) (index : Nat)
  deriving DecidableEq, Repr

namespace Fault

/-- The fault lies in an instruction and not in the file around it. -/
def isOperation : Fault → Bool
  | .unassignedOpcode _ _ => true
  | _ => false

def message : Fault → String
  | .shortHeader size =>
    toString size ++ " bytes is shorter than the " ++ toString headerBytes ++ "-byte header"
  | .badMagic found =>
    "bad magic " ++ Text.hexMarkedFixed 8 found.toNat ++ ", expected "
      ++ Text.hexMarkedFixed 8 magic.toNat
  | .newerVersion found =>
    "format version " ++ Text.hexMarkedFixed 4 found.toNat ++ " is newer than supported "
      ++ Text.hexMarkedFixed 4 newestVersion.toNat
  | .truncated declared present =>
    "truncated body: header declares " ++ toString declared ++ " bytes, " ++ toString present
      ++ " present"
  | .checksumMismatch actual declared =>
    "checksum " ++ Text.hexMarkedFixed 8 actual.toNat ++ " does not match header "
      ++ Text.hexMarkedFixed 8 declared.toNat
  | .unassignedOpcode byte index =>
    "unrecognized opcode " ++ Text.hexMarkedFixed 2 byte.toNat ++ " at instruction "
      ++ toString index

end Fault

namespace Header

def bodyLength (header : Header) : Checked UInt64 := do
  let code ← Checked.mul64 header.instCount.toUInt64 8
  let payload ← Checked.add64 code header.weightBytes.toUInt64
  Checked.add64 payload header.biasBytes.toUInt64

def parse (data : ByteArray) : Attempt Fault Header := do
  if data.size < headerBytes then Failure.report (.shortHeader data.size)
  let head ← Checked.slice data 0 headerBytes
  let found := UInt32.ofNat (← LittleEndian.readWithin head 0 4)
  if found ≠ magic then Failure.report (.badMagic found)
  let version := UInt16.ofNat (← LittleEndian.readWithin head 4 2)
  if newestVersion < version then Failure.report (.newerVersion version)
  return {
    version
    layerCount := .ofNat (← LittleEndian.readWithin head 6 2)
    weightBytes := .ofNat (← LittleEndian.readWithin head 8 4)
    instCount := .ofNat (← LittleEndian.readWithin head 12 4)
    inputBytes := .ofNat (← LittleEndian.readWithin head 16 4)
    outputBytes := .ofNat (← LittleEndian.readWithin head 20 4)
    workspaceBytes := .ofNat (← LittleEndian.readWithin head 24 4)
    checksum := .ofNat (← LittleEndian.readWithin head 28 4)
    biasBytes := .ofNat (← LittleEndian.readWithin head 32 4) }

/-- The header as it stands in a file; the reserved bytes are zero. -/
def toBytes (header : Header) : ByteArray :=
  ByteArray.mk <| Array.mk <|
    LittleEndian.encode 4 magic.toNat
      ++ LittleEndian.encode 2 header.version.toNat
      ++ LittleEndian.encode 2 header.layerCount.toNat
      ++ LittleEndian.encode 4 header.weightBytes.toNat
      ++ LittleEndian.encode 4 header.instCount.toNat
      ++ LittleEndian.encode 4 header.inputBytes.toNat
      ++ LittleEndian.encode 4 header.outputBytes.toNat
      ++ LittleEndian.encode 4 header.workspaceBytes.toNat
      ++ LittleEndian.encode 4 header.checksum.toNat
      ++ LittleEndian.encode 4 header.biasBytes.toNat
      ++ List.replicate 28 0

end Header

end NpuStack.Model
