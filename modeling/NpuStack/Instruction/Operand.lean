import NpuStack.Field

/-! Typed operands. An instruction has 48 operand bits, and each kind of
operation divides them into its own fields. `pack` keeps the low bits of every
field; `unpack` reads the fields back from any word. -/

set_option autoImplicit false

namespace NpuStack

structure DmaOperand where
  src : UInt32
  dst : UInt32
  len : UInt32
  deriving DecidableEq, Repr

namespace DmaOperand

def srcField : Field := ⟨0, 18⟩
def dstField : Field := ⟨18, 16⟩
def lenField : Field := ⟨34, 14⟩

def maxSrc : UInt32 := 0x3FFFF
def maxDst : UInt32 := 0xFFFF
def maxLen : UInt32 := 0x3FFF

/-- Every field holds its value unchanged. -/
def fits (x : DmaOperand) : Bool := x.src ≤ maxSrc && x.dst ≤ maxDst && x.len ≤ maxLen

def pack (x : DmaOperand) : UInt64 :=
  packFields [srcField.place x.src.toNat, dstField.place x.dst.toNat, lenField.place x.len.toNat]

def pack? (x : DmaOperand) : Option UInt64 := if x.fits then some x.pack else none

def unpack (word : UInt64) : DmaOperand where
  src := .ofNat (srcField.get word)
  dst := .ofNat (dstField.get word)
  len := .ofNat (lenField.get word)

end DmaOperand

structure LoadWeightOperand where
  addr : UInt32
  count : UInt32
  deriving DecidableEq, Repr

namespace LoadWeightOperand

def addrField : Field := ⟨0, 24⟩
def countField : Field := ⟨24, 24⟩

def pack (x : LoadWeightOperand) : UInt64 :=
  packFields [addrField.place x.addr.toNat, countField.place x.count.toNat]

def unpack (word : UInt64) : LoadWeightOperand where
  addr := .ofNat (addrField.get word)
  count := .ofNat (countField.get word)

end LoadWeightOperand

structure PoolOperand where
  kernelH : UInt8
  kernelW : UInt8
  strideH : UInt8
  strideW : UInt8
  deriving DecidableEq, Repr

namespace PoolOperand

def kernelHField : Field := ⟨0, 8⟩
def kernelWField : Field := ⟨8, 8⟩
def strideHField : Field := ⟨16, 8⟩
def strideWField : Field := ⟨24, 8⟩

def pack (x : PoolOperand) : UInt64 :=
  packFields [kernelHField.place x.kernelH.toNat, kernelWField.place x.kernelW.toNat,
    strideHField.place x.strideH.toNat, strideWField.place x.strideW.toNat]

def unpack (word : UInt64) : PoolOperand where
  kernelH := .ofNat (kernelHField.get word)
  kernelW := .ofNat (kernelWField.get word)
  strideH := .ofNat (strideHField.get word)
  strideW := .ofNat (strideWField.get word)

end PoolOperand

structure ConvOperand where
  kernelH : UInt8
  kernelW : UInt8
  strideH : UInt8
  strideW : UInt8
  padH : UInt8
  padW : UInt8
  deriving DecidableEq, Repr

namespace ConvOperand

def kernelHField : Field := ⟨0, 4⟩
def kernelWField : Field := ⟨4, 4⟩
def strideHField : Field := ⟨8, 4⟩
def strideWField : Field := ⟨12, 4⟩
def padHField : Field := ⟨16, 4⟩
def padWField : Field := ⟨20, 4⟩

def pack (x : ConvOperand) : UInt64 :=
  packFields [kernelHField.place x.kernelH.toNat, kernelWField.place x.kernelW.toNat,
    strideHField.place x.strideH.toNat, strideWField.place x.strideW.toNat,
    padHField.place x.padH.toNat, padWField.place x.padW.toNat]

def unpack (word : UInt64) : ConvOperand where
  kernelH := .ofNat (kernelHField.get word)
  kernelW := .ofNat (kernelWField.get word)
  strideH := .ofNat (strideHField.get word)
  strideW := .ofNat (strideWField.get word)
  padH := .ofNat (padHField.get word)
  padW := .ofNat (padWField.get word)

end ConvOperand

structure FcOperand where
  inputs : UInt16
  outputs : UInt16
  deriving DecidableEq, Repr

namespace FcOperand

def inputsField : Field := ⟨0, 16⟩
def outputsField : Field := ⟨16, 16⟩

def pack (x : FcOperand) : UInt64 :=
  packFields [inputsField.place x.inputs.toNat, outputsField.place x.outputs.toNat]

def unpack (word : UInt64) : FcOperand where
  inputs := .ofNat (inputsField.get word)
  outputs := .ofNat (outputsField.get word)

end FcOperand

structure LoopOperand where
  value : UInt32
  deriving DecidableEq, Repr

namespace LoopOperand

def valueField : Field := ⟨0, 32⟩

def pack (x : LoopOperand) : UInt64 := packFields [valueField.place x.value.toNat]

def unpack (word : UInt64) : LoopOperand where
  value := .ofNat (valueField.get word)

end LoopOperand

end NpuStack
