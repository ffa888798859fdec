import NpuStack.Compiler.Error
import NpuStack.Layer.Kind
import NpuStack.Tensor

/-! Layers: one operation of a network with its tensors and parameters, and
the check that they belong together. -/

set_option autoImplicit false

namespace NpuStack

structure ConvParams where
  kernelH : UInt8
  kernelW : UInt8
  strideH : UInt8 := 1
  strideW : UInt8 := 1
  padTop : UInt8 := 0
  padBottom : UInt8 := 0
  padLeft : UInt8 := 0
  padRight : UInt8 := 0
  dilationH : UInt8 := 1
  dilationW : UInt8 := 1
  groups : UInt8 := 1
  deriving DecidableEq, Repr

namespace ConvParams

def square (k : UInt8) : ConvParams := { kernelH := k, kernelW := k }

def withStride (p : ConvParams) (stride : UInt8) : ConvParams :=
  { p with strideH := stride, strideW := stride }

def withPadding (p : ConvParams) (pad : UInt8) : ConvParams :=
  { p with padTop := pad, padBottom := pad, padLeft := pad, padRight := pad }

def kernelWord (p : ConvParams) : UInt32 := (p.kernelH.toUInt32 <<< 8) ||| p.kernelW.toUInt32

def strideWord (p : ConvParams) : UInt32 := (p.strideH.toUInt32 <<< 8) ||| p.strideW.toUInt32

def paddingWord (p : ConvParams) : UInt32 :=
  (p.padTop.toUInt32 <<< 24) ||| (p.padBottom.toUInt32 <<< 16)
    ||| (p.padLeft.toUInt32 <<< 8) ||| p.padRight.toUInt32

/-- Weights of one output channel; 48 bits always hold them. -/
def weightsPerOutput (p : ConvParams) (channels : UInt32) : UInt64 :=
  channels.toUInt64 * p.kernelH.toUInt64 * p.kernelW.toUInt64

end ConvParams

structure PoolParams where
  kernelH : UInt8 := 0
  kernelW : UInt8 := 0
  strideH : UInt8 := 0
  strideW : UInt8 := 0
  deriving DecidableEq, Repr

namespace PoolParams

def square (k stride : UInt8) : PoolParams := ⟨k, k, stride, stride⟩

def operand (p : PoolParams) : PoolOperand := ⟨p.kernelH, p.kernelW, p.strideH, p.strideW⟩

end PoolParams

structure OutputQuant where
  scale : Int32 := 0
  zeroPoint : Int8 := 0
  weightZeroPoint : Int8 := 0
  shift : UInt8 := 0
  round : RoundMode := .nearest
  deriving DecidableEq, Repr

structure Layer where
  kind : LayerKind
  input : Tensor
  output : Tensor
  activation : Activation := .none
  /-- The second operand of an elementwise layer. -/
  second : Option Tensor := none
  weight : Tensor := .absent
  bias : Tensor := .absent
  conv : ConvParams := .square 1
  pool : PoolParams := {}
  quant : OutputQuant := {}
  deriving DecidableEq, Repr

inductive LayerFault where
  | notPooling (kind : LayerKind)
  | emptyInput
  | emptyOutput
  | zeroKernel
  | zeroStride
  | zeroWindow
  | missingSecond
  | unequalInputs (first second : UInt64)
  deriving DecidableEq, Repr

def LayerFault.message : LayerFault → String
  | .notPooling kind => kind.name ++ " is not a pooling kind"
  | .emptyInput => "input tensor is empty"
  | .emptyOutput => "output tensor is empty"
  | .zeroKernel => "kernel size must be non-zero"
  | .zeroStride => "stride must be non-zero"
  | .zeroWindow => "pool window and stride must be non-zero"
  | .missingSecond => "elementwise layer needs a second input"
  | .unequalInputs first second =>
    "elementwise inputs differ in size: " ++ toString first.toNat ++ " vs "
      ++ toString second.toNat ++ " bytes"

def LayerFault.toError (fault : LayerFault) : CompileError := .invalidLayer fault.message

namespace Layer

def conv2d (input output weight : Tensor) (conv : ConvParams) : Layer :=
  { kind := .conv2d, input, output, weight, conv }

def depthwiseConv2d (input output weight : Tensor) (conv : ConvParams) : Layer :=
  { kind := .depthwiseConv2d, input, output, weight, conv }

def fullyConnected (input output weight : Tensor) : Layer :=
  { kind := .fullyConnected, input, output, weight }

def pooling (kind : LayerKind) (input output : Tensor) (pool : PoolParams) :
    Except LayerFault Layer :=
  if kind.isPool then .ok { kind, input, output, pool } else .error (.notPooling kind)

def elementwise (op : EltwiseOp) (first second output : Tensor) : Layer :=
  { kind := .eltwise op, input := first, output, second := some second }

/-- Check that a layer is consistent for its kind: tensors are not empty, windows and strides move,
and the operands of an elementwise layer have one size. -/
def validate (layer : Layer) : Attempt LayerFault Unit := do
  if (← layer.input.elements) = 0 then Failure.report .emptyInput
  if (← layer.output.elements) = 0 then Failure.report .emptyOutput
  match layer.kind with
  | .conv2d | .depthwiseConv2d =>
    if layer.conv.kernelH = 0 ∨ layer.conv.kernelW = 0 then Failure.report .zeroKernel
    if layer.conv.strideH = 0 ∨ layer.conv.strideW = 0 then Failure.report .zeroStride
  | .maxPool | .avgPool =>
    if layer.pool.kernelH = 0 ∨ layer.pool.kernelW = 0 ∨ layer.pool.strideH = 0
        ∨ layer.pool.strideW = 0 then
      Failure.report .zeroWindow
  | .eltwise _ =>
    match layer.second with
    | none => Failure.report .missingSecond
    | some second =>
      let secondBytes ← second.byteSize
      let firstBytes ← layer.input.byteSize
      if secondBytes ≠ firstBytes then Failure.report (.unequalInputs firstBytes secondBytes)
  | _ => pure ()

/-- A fully connected layer as the convolution of one pixel that it is. -/
def flattened (layer : Layer) : Checked Layer := do
  let rows ← Checked.mul32 layer.input.channels layer.input.height
  let features ← Checked.mul32 rows layer.input.width
  return { layer with
    kind := .conv2d
    conv := .square 1
    input := { layer.input with channels := features, height := 1, width := 1 }
    output := { layer.output with height := 1, width := 1 } }

end Layer

end NpuStack
