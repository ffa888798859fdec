import NpuStack.Trap

/-! Hardware profiles: geometry of the array of processing elements and
capacities of the on-chip buffers. The geometry is what the CONFIG register
reports; the buffers are those of the synthesis. -/

set_option autoImplicit false

namespace NpuStack

namespace AddressMap

/-- Bus address of the register block; the buffers follow. -/
def registers : UInt32 := 0x40000000
def instructions : UInt32 := 0x40100000
def weights : UInt32 := 0x40200000
def activations : UInt32 := 0x40300000
def staging : UInt32 := 0x80000000

def stagingBytes : Nat := 1024 * 1024

end AddressMap

/-- The CONFIG word of a geometry: rows above columns. -/
def configWord (rows cols : UInt16) : UInt32 := (rows.toUInt32 <<< 16) ||| cols.toUInt32

structure Profile where
  /-- Rows of processing elements: input channels in one tile. -/
  peRows : UInt16
  /-- Columns of processing elements: output channels in one tile. -/
  peCols : UInt16
  instEntries : UInt32
  weightBytes : UInt32
  actBytes : UInt32
  deriving DecidableEq, Repr

namespace Profile

/-- Sixteen by sixteen elements, 1024 instructions and buffers of 256 KiB. -/
def reference : Profile := ⟨16, 16, 1024, 262144, 262144⟩

def maxDimension : UInt16 := 64

def ofConfig (config : UInt32) : Profile :=
  { reference with peRows := (config >>> 16).toUInt16, peCols := config.toUInt16 }

def config (profile : Profile) : UInt32 := configWord profile.peRows profile.peCols

def peCount (profile : Profile) : UInt32 := profile.peRows.toUInt32 * profile.peCols.toUInt32

def instBytes (profile : Profile) : Checked UInt32 := Checked.mul32 profile.instEntries 8

def isPlausible (profile : Profile) : Bool :=
  0 < profile.peRows && profile.peRows ≤ maxDimension
    && 0 < profile.peCols && profile.peCols ≤ maxDimension

end Profile

end NpuStack
