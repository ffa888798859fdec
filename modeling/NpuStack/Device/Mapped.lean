import NpuStack.FileFault
import NpuStack.FlatMemory
import NpuStack.Host.Bus
import NpuStack.Profile

/-! A core behind memory maps. All windows are views of one flat memory, which
starts out as zero; registers are little-endian words in it. -/

set_option autoImplicit false

namespace NpuStack

/-- A mapped window: whole pages from an aligned physical address on. -/
structure Mapping where
  phys : UInt64
  size : Nat
  deriving DecidableEq, Repr

namespace Mapping

def pageBytes : Nat := 4096

/-- Map a window; its size is rounded up to whole pages. The device has room for so many bytes of one
window, or cannot be mapped at all. -/
def create (phys : UInt64) (size : UInt64) (room : Except FileFault Nat) :
    Attempt HostError Mapping := do
  if phys.toNat % pageBytes ≠ 0 then
    Failure.report (.invalidParam
      ("window base " ++ Text.hexMarked phys.toNat ++ " is not page aligned"))
  if size = 0 then Failure.report (.invalidParam "window size is 0")
  let pages := (size.toNat + pageBytes - 1) / pageBytes
  if UInt64.size ≤ pages * pageBytes then .error (.trap .mulOverflow)
  let refuse (fault : FileFault) : Attempt HostError Mapping :=
    Failure.report (.notReady
      ("mmap of " ++ Text.hexMarked phys.toNat ++ " failed: " ++ fault.message))
  match room with
  | .error fault => refuse fault
  | .ok limit => if limit < pages * pageBytes then refuse .noMemory else return ⟨phys, pages * pageBytes⟩

/-- The memory address of a register offset: a whole word inside the window. -/
def wordAddress (mapping : Mapping) (offset : UInt64) : Checked Nat :=
  if UInt64.size ≤ offset.toNat + 4 then .error .addOverflow
  else if offset.toNat + 4 ≤ mapping.size ∧ offset.toNat % 4 = 0 then
    .ok (mapping.phys.toNat + offset.toNat)
  else .error .offsetOutOfBounds

def rangeAddress (mapping : Mapping) (offset : UInt64) (len : Nat) : Except HostError Nat :=
  if offset.toNat + len ≤ mapping.size then .ok (mapping.phys.toNat + offset.toNat)
  else .error (.invalidParam
    ("range " ++ Text.hexMarked offset.toNat ++ "+" ++ Text.hexMarked len ++ " outside "
      ++ Text.hexMarked mapping.size ++ "-byte window"))

section Access

variable (mapping : Mapping) (memory : FlatMemory) (offset : UInt64)

def readWord : Checked UInt32 := do
  return memory.readWord (← mapping.wordAddress offset)

def writeWord (value : UInt32) : Checked FlatMemory := do
  return memory.writeWord (← mapping.wordAddress offset) value

def copyIn (data : ByteArray) : Except HostError FlatMemory := do
  return memory.write (← mapping.rangeAddress offset data.size) data

def copyOut (slice : ByteArray) : Except HostError Unit × ByteArray :=
  match mapping.rangeAddress offset slice.size with
  | .ok addr => (.ok (), memory.read addr slice.size)
  | .error cause => (.error cause, slice)

end Access

/-- The window as a record; its place in the host's memory is left out. -/
def text (mapping : Mapping) : String :=
  "MappedRegion \x7b ptr: _, size: " ++ toString mapping.size ++ ", phys: "
    ++ Text.hexMarked mapping.phys.toNat ++ " \x7d"

end Mapping

inductive MemoryNode where
  /-- Zero-filled memory with room for so many bytes of one window. -/
  | memory (room : Nat)
  /-- Opening fails. -/
  | unopenable (fault : FileFault)
  /-- Opening works and mapping fails. -/
  | unmappable (fault : FileFault)
  deriving DecidableEq, Repr

def MemoryNode.opened (path : String) : MemoryNode → Attempt HostError (Except FileFault Nat)
  | .memory room => pure (.ok room)
  | .unmappable fault => pure (.error fault)
  | .unopenable fault =>
    Failure.report (.notReady
      ("cannot open " ++ path ++ ": " ++ fault.message ++ " (root or a UIO node required)"))

structure MapLayout where
  registers : UInt32 := AddressMap.registers
  instructions : UInt32 × UInt64 := (AddressMap.instructions, 8192)
  weights : UInt32 × UInt64 := (AddressMap.weights, 262144)
  activations : UInt32 × UInt64 := (AddressMap.activations, 262144)
  staging : UInt32 × UInt64 := (AddressMap.staging, 1048576)
  deriving DecidableEq, Repr

structure MappedCore where
  memory : FlatMemory
  registers : Mapping
  /-- Bus base and mapping of each window, the staging window last. -/
  windows : List (UInt32 × Mapping)
  /-- Size that was asked for the staging window, before it was rounded up. -/
  stagingBytes : Nat

namespace MappedCore

def mapWindow (room : Except FileFault Nat) (window : UInt32 × UInt64) :
    Attempt HostError (UInt32 × Mapping) := do
  return (window.1, ← Mapping.create window.1.toUInt64 window.2 room)

def create (path : String) (node : MemoryNode) (layout : MapLayout) :
    Attempt HostError MappedCore := do
  let room ← node.opened path
  let registers ← Mapping.create layout.registers.toUInt64 (.ofNat Register.windowBytes) room
  let windows ←
    [layout.instructions, layout.weights, layout.activations, layout.staging].mapM (mapWindow room)
  return {
    memory := {}
    registers
    windows
    stagingBytes := layout.staging.2.toNat }

/-- The first window that holds a range of bus addresses, and the position of the range in it. -/
def locate? (windows : List (UInt32 × Mapping)) (addr : UInt32) (len : Nat) :
    Option (Mapping × UInt64) :=
  windows.findSome? fun (base, mapping) =>
    if base ≤ addr ∧ (addr - base).toNat + len ≤ mapping.size then
      some (mapping, (addr - base).toUInt64)
    else none

def registerAddress (core : MappedCore) (reg : Register) : Nat :=
  core.registers.phys.toNat + reg.offset

instance : Bus MappedCore where
  read reg core := (core.memory.readWord (core.registerAddress reg), core)
  write reg value core :=
    let addr := core.registerAddress reg
    { core with memory := core.memory.writeWord addr value }
  store addr data core :=
    let ⟨memory, registers, windows, stagingBytes⟩ := core
    match locate? windows addr data.size with
    | some (mapping, offset) =>
      match mapping.copyIn memory offset data with
      | .ok memory => .ok ⟨memory, registers, windows, stagingBytes⟩
      | .error cause => .error cause
    | none => .error (.unmapped addr data.size)
  load addr slice core :=
    match locate? core.windows addr slice.size with
    | some (mapping, offset) => mapping.copyOut core.memory offset slice
    | none => (.error (.unmapped addr slice.size), slice)
  stagingBase core := (core.windows.getLast?.map Prod.fst).getD 0
  stagingBytes core := core.stagingBytes
  patience _ := 0

instance : OffsetAccess MappedCore where
  readAt offset core :=
    (core.registers.readWord core.memory offset, core)
  writeAt offset value core :=
    match core.registers.writeWord core.memory offset value with
    | .ok memory => (.ok (), { core with memory })
    | .error cause => (.error cause, core)

end MappedCore

end NpuStack
