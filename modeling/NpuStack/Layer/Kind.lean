import NpuStack.Instruction.Basic

/-! Kinds of layers and the codes by which registers and instructions name them. -/

set_option autoImplicit false

namespace NpuStack

inductive EltwiseOp where
  | add
  | sub
  | mul
  | max
  | min
  deriving DecidableEq, Repr

namespace EltwiseOp

def opcode : EltwiseOp → Opcode
  | .add => .add
  | .sub => .sub
  | .mul => .mul
  | .max => .max
  | .min => .min

def name : EltwiseOp → String
  | .add => "Add"
  | .sub => "Sub"
  | .mul => "Mul"
  | .max => "Max"
  | .min => "Min"

end EltwiseOp

inductive LayerKind where
  | conv2d
  | depthwiseConv2d
  | fullyConnected
  | maxPool
  | avgPool
  | globalAvgPool
  | globalMaxPool
  | eltwise (op : EltwiseOp)
  | concat
  | softmax
  | batchNorm
  | reshape
  deriving DecidableEq, Repr

namespace LayerKind

def name : LayerKind → String
  | .conv2d => "Conv2d"
  | .depthwiseConv2d => "DepthwiseConv2d"
  | .fullyConnected => "FullyConnected"
  | .maxPool => "MaxPool"
  | .avgPool => "AvgPool"
  | .globalAvgPool => "GlobalAvgPool"
  | .globalMaxPool => "GlobalMaxPool"
  | .eltwise op => "Eltwise(" ++ op.name ++ ")"
  | .concat => "Concat"
  | .softmax => "Softmax"
  | .batchNorm => "BatchNorm"
  | .reshape => "Reshape"

def all : List LayerKind :=
  [.conv2d, .depthwiseConv2d, .fullyConnected, .maxPool, .avgPool, .globalAvgPool, .globalMaxPool,
   .eltwise .add, .eltwise .sub, .eltwise .mul, .eltwise .max, .eltwise .min,
   .concat, .softmax, .batchNorm, .reshape]

/-- Value of the layer type register; kinds without a code of their own count as elementwise. -/
def typeCode : LayerKind → UInt32
  | .conv2d => 0
  | .depthwiseConv2d => 1
  | .fullyConnected => 2
  | .maxPool | .avgPool | .globalAvgPool | .globalMaxPool => 3
  | .eltwise _ | .concat | .batchNorm | .reshape => 4
  | .softmax => 5

/-- Value of the pooling type register; global maximum pooling counts as maximum pooling. -/
def poolCode : LayerKind → UInt32
  | .maxPool | .globalMaxPool => 1
  | .avgPool => 2
  | .globalAvgPool => 3
  | _ => 0

def poolOpcode? : LayerKind → Option Opcode
  | .maxPool => some .maxPool
  | .avgPool => some .avgPool
  | .globalAvgPool => some .globalAvgPool
  | .globalMaxPool => some .globalMaxPool
  | _ => none

def isPool (kind : LayerKind) : Bool := kind.poolOpcode?.isSome

def eltwiseOp? : LayerKind → Option EltwiseOp
  | .eltwise op => some op
  | _ => none

end LayerKind

inductive Activation where
  | none
  | relu
  | relu6
  | sigmoid
  | tanh
  | leakyRelu
  | swish
  | gelu
  deriving DecidableEq, Repr

namespace Activation

def name : Activation → String
  | .none => "None"
  | .relu => "Relu"
  | .relu6 => "Relu6"
  | .sigmoid => "Sigmoid"
  | .tanh => "Tanh"
  | .leakyRelu => "LeakyRelu"
  | .swish => "Swish"
  | .gelu => "Gelu"

def all : List Activation := [.none, .relu, .relu6, .sigmoid, .tanh, .leakyRelu, .swish, .gelu]

def typeCode : Activation → UInt32
  | .none => 0
  | .relu => 1
  | .relu6 => 2
  | .sigmoid => 3
  | .tanh => 4
  | .leakyRelu => 5
  | .swish => 6
  | .gelu => 7

/-- Instruction flags that fuse an activation. Only the rectifiers can be fused; the clip at six
comes from the activation type register. -/
def fusionFlags : Activation → UInt8
  | .relu | .relu6 => Flag.relu.mask
  | _ => 0

end Activation

inductive RoundMode where
  | nearest
  | floor
  | truncate
  deriving DecidableEq, Repr

namespace RoundMode

def name : RoundMode → String
  | .nearest => "Nearest"
  | .floor => "Floor"
  | .truncate => "Truncate"

def all : List RoundMode := [.nearest, .floor, .truncate]

end RoundMode

end NpuStack
