import NpuStack.Text.Digits

/-! Opcodes. Each occupies one byte; bytes are grouped into families by range,
and a byte without an operation is kept as it is, so that every byte is an
opcode and every opcode is a byte. -/

set_option autoImplicit false

namespace NpuStack

inductive Family where
  | control
  | dma
  | compute
  | activation
  | pooling
  | elementwise
  | normalization
  | quantization
  | reshape
  deriving DecidableEq, Repr

/-- The family that owns a byte, whether or not an operation is assigned to it. -/
def Family.ofByte? (byte : UInt8) : Option Family :=
  if byte < 0x10 then some .control
  else if byte < 0x20 then some .dma
  else if byte < 0x40 then some .compute
  else if byte < 0x50 then some .activation
  else if byte < 0x60 then some .pooling
  else if byte < 0x70 then some .elementwise
  else if byte < 0x80 then some .normalization
  else if byte < 0x90 then some .quantization
  else if byte < 0xA0 then some .reshape
  else none

def Family.name : Family → String
  | .control => "Control"
  | .dma => "Dma"
  | .compute => "Compute"
  | .activation => "Activation"
  | .pooling => "Pooling"
  | .elementwise => "Elementwise"
  | .normalization => "Normalization"
  | .quantization => "Quantization"
  | .reshape => "Reshape"

/-- Operations of the core, and the bytes that are none. -/
inductive Opcode where
  | nop
  | halt
  | sync
  | waitDma
  | waitPe
  | irq
  | loopStart
  | loopEnd
  | branch
  | jump
  | dmaLoadW
  | dmaLoadA
  | dmaStore
  | dmaCopy
  | dmaFill
  | dma2dLoad
  | dma2dStore
  | conv
  | dwConv
  | gemm
  | fc
  | matmul
  | mac
  | clearAcc
  | loadWeight
  | compute
  | drain
  | relu
  | relu6
  | sigmoid
  | tanh
  | leakyRelu
  | swish
  | gelu
  | maxPool
  | avgPool
  | globalAvgPool
  | globalMaxPool
  | add
  | sub
  | mul
  | div
  | max
  | min
  | abs
  | batchNorm
  | layerNorm
  | softmax
  | quantize
  | dequantize
  | requantize
  | scale
  | biasAdd
  | reshape
  | transpose
  | concat
  | split
  | pad
  | unassigned (byte : UInt8)
  deriving DecidableEq, Repr

namespace Opcode

def ofByte (byte : UInt8) : Opcode :=
  match byte with
  | 0x00 => .nop
  | 0x01 => .halt
  | 0x02 => .sync
  | 0x03 => .waitDma
  | 0x04 => .waitPe
  | 0x05 => .irq
  | 0x06 => .loopStart
  | 0x07 => .loopEnd
  | 0x08 => .branch
  | 0x09 => .jump
  | 0x10 => .dmaLoadW
  | 0x11 => .dmaLoadA
  | 0x12 => .dmaStore
  | 0x13 => .dmaCopy
  | 0x14 => .dmaFill
  | 0x15 => .dma2dLoad
  | 0x16 => .dma2dStore
  | 0x20 => .conv
  | 0x21 => .dwConv
  | 0x22 => .gemm
  | 0x23 => .fc
  | 0x24 => .matmul
  | 0x25 => .mac
  | 0x26 => .clearAcc
  | 0x27 => .loadWeight
  | 0x28 => .compute
  | 0x29 => .drain
  | 0x40 => .relu
  | 0x41 => .relu6
  | 0x42 => .sigmoid
  | 0x43 => .tanh
  | 0x44 => .leakyRelu
  | 0x45 => .swish
  | 0x46 => .gelu
  | 0x50 => .maxPool
  | 0x51 => .avgPool
  | 0x52 => .globalAvgPool
  | 0x53 => .globalMaxPool
  | 0x60 => .add
  | 0x61 => .sub
  | 0x62 => .mul
  | 0x63 => .div
  | 0x64 => .max
  | 0x65 => .min
  | 0x66 => .abs
  | 0x70 => .batchNorm
  | 0x71 => .layerNorm
  | 0x72 => .softmax
  | 0x80 => .quantize
  | 0x81 => .dequantize
  | 0x82 => .requantize
  | 0x83 => .scale
  | 0x84 => .biasAdd
  | 0x90 => .reshape
  | 0x91 => .transpose
  | 0x92 => .concat
  | 0x93 => .split
  | 0x94 => .pad
  | byte => .unassigned byte

def toByte : Opcode → UInt8
  | .nop => 0x00
  | .halt => 0x01
  | .sync => 0x02
  | .waitDma => 0x03
  | .waitPe => 0x04
  | .irq => 0x05
  | .loopStart => 0x06
  | .loopEnd => 0x07
  | .branch => 0x08
  | .jump => 0x09
  | .dmaLoadW => 0x10
  | .dmaLoadA => 0x11
  | .dmaStore => 0x12
  | .dmaCopy => 0x13
  | .dmaFill => 0x14
  | .dma2dLoad => 0x15
  | .dma2dStore => 0x16
  | .conv => 0x20
  | .dwConv => 0x21
  | .gemm => 0x22
  | .fc => 0x23
  | .matmul => 0x24
  | .mac => 0x25
  | .clearAcc => 0x26
  | .loadWeight => 0x27
  | .compute => 0x28
  | .drain => 0x29
  | .relu => 0x40
  | .relu6 => 0x41
  | .sigmoid => 0x42
  | .tanh => 0x43
  | .leakyRelu => 0x44
  | .swish => 0x45
  | .gelu => 0x46
  | .maxPool => 0x50
  | .avgPool => 0x51
  | .globalAvgPool => 0x52
  | .globalMaxPool => 0x53
  | .add => 0x60
  | .sub => 0x61
  | .mul => 0x62
  | .div => 0x63
  | .max => 0x64
  | .min => 0x65
  | .abs => 0x66
  | .batchNorm => 0x70
  | .layerNorm => 0x71
  | .softmax => 0x72
  | .quantize => 0x80
  | .dequantize => 0x81
  | .requantize => 0x82
  | .scale => 0x83
  | .biasAdd => 0x84
  | .reshape => 0x90
  | .transpose => 0x91
  | .concat => 0x92
  | .split => 0x93
  | .pad => 0x94
  | .unassigned byte => byte

def isUnassigned : Opcode → Bool
  | .unassigned _ => true
  | _ => false

/-- The family of an operation; an unassigned byte has none. -/
def family? (op : Opcode) : Option Family :=
  if op.isUnassigned then none else Family.ofByte? op.toByte

def mnemonic : Opcode → String
  | .nop => "NOP"
  | .halt => "HALT"
  | .sync => "SYNC"
  | .waitDma => "WAIT_DMA"
  | .waitPe => "WAIT_PE"
  | .irq => "IRQ"
  | .loopStart => "LOOP_START"
  | .loopEnd => "LOOP_END"
  | .branch => "BRANCH"
  | .jump => "JUMP"
  | .dmaLoadW => "DMA_LOAD_W"
  | .dmaLoadA => "DMA_LOAD_A"
  | .dmaStore => "DMA_STORE"
  | .dmaCopy => "DMA_COPY"
  | .dmaFill => "DMA_FILL"
  | .dma2dLoad => "DMA_2D_LOAD"
  | .dma2dStore => "DMA_2D_STORE"
  | .conv => "CONV"
  | .dwConv => "DWCONV"
  | .gemm => "GEMM"
  | .fc => "FC"
  | .matmul => "MATMUL"
  | .mac => "MAC"
  | .clearAcc => "CLEAR_ACC"
  | .loadWeight => "LOAD_WEIGHT"
  | .compute => "COMPUTE"
  | .drain => "DRAIN"
  | .relu => "RELU"
  | .relu6 => "RELU6"
  | .sigmoid => "SIGMOID"
  | .tanh => "TANH"
  | .leakyRelu => "LEAKY_RELU"
  | .swish => "SWISH"
  | .gelu => "GELU"
  | .maxPool => "MAXPOOL"
  | .avgPool => "AVGPOOL"
  | .globalAvgPool => "GLOBAL_AVGPOOL"
  | .globalMaxPool => "GLOBAL_MAXPOOL"
  | .add => "ADD"
  | .sub => "SUB"
  | .mul => "MUL"
  | .div => "DIV"
  | .max => "MAX"
  | .min => "MIN"
  | .abs => "ABS"
  | .batchNorm => "BATCHNORM"
  | .layerNorm => "LAYERNORM"
  | .softmax => "SOFTMAX"
  | .quantize => "QUANTIZE"
  | .dequantize => "DEQUANTIZE"
  | .requantize => "REQUANTIZE"
  | .scale => "SCALE"
  | .biasAdd => "BIAS_ADD"
  | .reshape => "RESHAPE"
  | .transpose => "TRANSPOSE"
  | .concat => "CONCAT"
  | .split => "SPLIT"
  | .pad => "PAD"
  | .unassigned _ => "UNKNOWN"

/-- The name in listings, which keeps an unassigned byte visible. -/
def text : Opcode → String
  | .unassigned byte => "UNKNOWN(" ++ Text.hexMarkedFixed 2 byte.toNat ++ ")"
  | op => op.mnemonic

def all : List Opcode := (List.range 256).map fun byte => ofByte (UInt8.ofNat byte)

def ofMnemonic? (name : String) : Option Opcode :=
  all.find? fun op => !op.isUnassigned && op.mnemonic.toLower == name.toLower

end Opcode

end NpuStack
