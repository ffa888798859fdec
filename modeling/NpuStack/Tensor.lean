import NpuStack.Text.Digits
import NpuStack.Trap

/-! Tensors: where they live, their shape and their element type. -/

set_option autoImplicit false

namespace NpuStack

inductive ElementType where
  | int8
  | int16
  | fp16
  | fp32
  deriving DecidableEq, Repr

namespace ElementType

def byteSize : ElementType → UInt64
  | .int8 => 1
  | .int16 => 2
  | .fp16 => 2
  | .fp32 => 4

def name : ElementType → String
  | .int8 => "Int8"
  | .int16 => "Int16"
  | .fp16 => "Fp16"
  | .fp32 => "Fp32"

def all : List ElementType := [.int8, .int16, .fp16, .fp32]

end ElementType

inductive Layout where
  | nchw
  | nhwc
  deriving DecidableEq, Repr

namespace Layout

def name : Layout → String
  | .nchw => "Nchw"
  | .nhwc => "Nhwc"

def all : List Layout := [.nchw, .nhwc]

end Layout

structure Tensor where
  addr : UInt32
  batch : UInt32
  channels : UInt32
  height : UInt32
  width : UInt32
  elementType : ElementType := .int8
  layout : Layout := .nchw
  scale : Int32 := 0
  zeroPoint : Int8 := 0
  deriving DecidableEq, Repr

namespace Tensor

def absent : Tensor := ⟨0, 0, 0, 0, 0, .int8, .nchw, 0, 0⟩

def single (addr channels height width : UInt32) : Tensor :=
  ⟨addr, 1, channels, height, width, .int8, .nchw, 0, 0⟩

/-- Number of elements, multiplied from the batch inwards. -/
def elements (t : Tensor) : Checked UInt64 := do
  let planes ← Checked.mul64 t.batch.toUInt64 t.channels.toUInt64
  let rows ← Checked.mul64 planes t.height.toUInt64
  Checked.mul64 rows t.width.toUInt64

def byteSize (t : Tensor) : Checked UInt64 := do
  Checked.mul64 (← t.elements) t.elementType.byteSize

/-- Elements of one channel; two extents always fit. -/
def plane (t : Tensor) : UInt64 := t.height.toUInt64 * t.width.toUInt64

def text (t : Tensor) : String :=
  "[" ++ toString t.batch.toNat ++ ", " ++ toString t.channels.toNat ++ ", "
    ++ toString t.height.toNat ++ ", " ++ toString t.width.toNat ++ "] "
    ++ t.elementType.name ++ " " ++ t.layout.name ++ " @ " ++ Text.hexMarkedFixed 8 t.addr.toNat

end Tensor

end NpuStack
