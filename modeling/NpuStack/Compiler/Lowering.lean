import NpuStack.Compiler.Tiling
import NpuStack.Program

/-! Lowering of one layer to a program.

A convolution clears the accumulators and, for each tile of output channels,
loads the weights of the tile, waits for them, computes tile after tile of input
channels, drains the result and clears again. Only the last computation of a
tile carries the fused activation. Pooling and elementwise layers move their
inputs in, run one operation and move the result out. A long transfer becomes
several instructions before one wait. -/

set_option autoImplicit false

namespace NpuStack

inductive LoweringFault where
  | tooLarge (what : String) (value : UInt64)
  | addressOverflow (what : String)
  | outOfRange (src dst : UInt32)
  | emptyArray
  deriving DecidableEq, Repr

def LoweringFault.message : LoweringFault → String
  | .tooLarge what value => what ++ " " ++ toString value.toNat ++ " exceeds 32 bits"
  | .addressOverflow what => what ++ " overflows 32 bits"
  | .outOfRange src dst =>
    "DMA " ++ Text.hexMarked src.toNat ++ " -> " ++ Text.hexMarked dst.toNat
      ++ " outside operand range (src <= " ++ Text.hexMarked DmaOperand.maxSrc.toNat
      ++ ", dst <= " ++ Text.hexMarked DmaOperand.maxDst.toNat ++ ")"
  | .emptyArray => "PE array has a zero dimension"

def LoweringFault.toError (fault : LoweringFault) : CompileError := .invalidLayer fault.message

abbrev Lowering (α : Type) := Attempt CompileError α

namespace Lowering

def refuse {α : Type} (fault : LoweringFault) : Lowering α := Failure.report fault.toError

/-- A size or offset that has to fit a 32-bit address. -/
def narrow (value : UInt64) (what : String) : Lowering UInt32 :=
  if value.toNat < UInt32.size then pure value.toUInt32 else refuse (.tooLarge what value)

def offsetAddress (base offset : UInt32) (what : String) : Lowering UInt32 :=
  if base.toNat + offset.toNat < UInt32.size then pure (base + offset)
  else refuse (.addressOverflow what)

def push (program : Program) (inst : Instruction) : Lowering Program :=
  match program.push inst with
  | .ok longer => pure longer
  | .error cause => Failure.report cause

/-- Append the transfer of the bytes from `done` on, at most `fuel` instructions. -/
def pushChunks (op : Opcode) (src dst len : UInt32) :
    (fuel : Nat) → (done : UInt32) → Program → Lowering Program
  | 0, _, program => pure program
  | fuel + 1, done, program => do
    let rest ← Checked.sub32 len done
    let chunk := min rest DmaOperand.maxLen
    let source ← offsetAddress src done "DMA source"
    let destination ← offsetAddress dst done "DMA destination"
    if !(DmaOperand.mk source destination chunk).fits then
      refuse (.outOfRange source destination)
    let program ← push program (.transfer op source destination chunk)
    let done ← Checked.add32 done chunk
    if len ≤ done then pure program else pushChunks op src dst len fuel done program

def pushTransfer (op : Opcode) (src dst len : UInt32) (program : Program) : Lowering Program :=
  pushChunks op src dst len (transferCount len.toUInt64).toNat 0 program

/-- Append the computations of one output tile: `remaining` input tiles from `tile` on. -/
def pushInputTiles (inTiles count : UInt32) (fuse : UInt8) :
    (remaining : Nat) → (tile : UInt32) → Program → Lowering Program
  | 0, _, program => pure program
  | remaining + 1, tile, program => do
    let program ← push program (.loadWeight 0 count)
    let last ← Checked.sub32 inTiles 1
    let program ← push program (.compute (if tile = last then fuse else 0))
    pushInputTiles inTiles count fuse remaining (tile + 1) program

def pushOutputTile (target : Target) (layer : Layer) (tiling : Tiling) (tile : UInt32)
    (program : Program) : Lowering Program := do
  let perOutput := layer.conv.weightsPerOutput layer.input.channels
  let first ← Checked.mul32 tile target.peCols
  let stop ← Checked.add32 first target.peCols
  let count ← Checked.sub32 (min stop layer.output.channels) first
  let weightOffset ← narrow (← Checked.mul64 first.toUInt64 perOutput) "weight offset"
  let weightBytes ← narrow (← Checked.mul64 count.toUInt64 perOutput) "weight tile size"
  let weightAddr ← offsetAddress layer.weight.addr weightOffset "weight address"
  let program ← pushTransfer .dmaLoadW weightAddr 0 weightBytes program
  let program ← push program .waitDma
  let program ← pushInputTiles tiling.inTiles count layer.activation.fusionFlags
    tiling.inTiles.toNat 0 program
  let outputOffset ← narrow (← Checked.mul64 first.toUInt64 layer.output.plane) "output offset"
  let outputAddr ← offsetAddress layer.output.addr outputOffset "output address"
  let program ← push program (.drain outputAddr)
  if tile.toNat + 1 < tiling.outTiles.toNat then push program .clearAcc else pure program

/-- Append `remaining` tiles of output channels from `tile` on. -/
def pushOutputTiles (target : Target) (layer : Layer) (tiling : Tiling) :
    (remaining : Nat) → (tile : UInt32) → Program → Lowering Program
  | 0, _, program => pure program
  | remaining + 1, tile, program => do
    let program ← pushOutputTile target layer tiling tile program
    pushOutputTiles target layer tiling remaining (tile + 1) program

def convolution (target : Target) (layer : Layer) : Lowering Program := do
  let tiling ← Tiling.ofLayer target layer
  let program ← push (.empty target.convBound) .clearAcc
  let program ← pushOutputTiles target layer tiling tiling.outTiles.toNat 0 program
  push program .halt

def pooling (target : Target) (layer : Layer) (op : Opcode) : Lowering Program := do
  let inputBytes ← narrow (← layer.input.byteSize) "input size"
  let outputBytes ← narrow (← layer.output.byteSize) "output size"
  let program ← pushTransfer .dmaLoadA layer.input.addr 0 inputBytes (.empty target.simpleBound)
  let program ← push program .waitDma
  let program ← push program (.pool op layer.pool.operand)
  let program ← pushTransfer .dmaStore 0 layer.output.addr outputBytes program
  let program ← push program .waitDma
  push program .halt

def elementwise (target : Target) (layer : Layer) (op : EltwiseOp) (second : Tensor) :
    Lowering Program := do
  let inputBytes ← narrow (← layer.input.byteSize) "input size"
  let outputBytes ← narrow (← layer.output.byteSize) "output size"
  let program ← pushTransfer .dmaLoadA layer.input.addr 0 inputBytes (.empty target.simpleBound)
  let program ← push program .waitDma
  let program ← pushTransfer .dmaLoadA second.addr inputBytes inputBytes program
  let program ← push program .waitDma
  let program ← push program (.eltwise op.opcode layer.activation.fusionFlags)
  let program ← pushTransfer .dmaStore 0 layer.output.addr outputBytes program
  let program ← push program .waitDma
  push program .halt

def unsupported (layer : Layer) : Lowering Program :=
  Failure.report (.unsupportedLayer layer.kind.name)

def check (layer : Layer) : Lowering Unit :=
  match layer.validate with
  | .ok () => pure ()
  | .error (.trap cause) => .error (.trap cause)
  | .error (.error fault) => Failure.report fault.toError

end Lowering

def Layer.compile (target : Target) (layer : Layer) : Lowering Program := do
  Lowering.check layer
  if target.peRows = 0 ∨ target.peCols = 0 then Lowering.refuse .emptyArray
  match layer.kind with
  | .conv2d | .depthwiseConv2d => Lowering.convolution target layer
  | .fullyConnected => Lowering.convolution target (← layer.flattened)
  | .maxPool => Lowering.pooling target layer .maxPool
  | .avgPool => Lowering.pooling target layer .avgPool
  | .globalAvgPool => Lowering.pooling target layer .globalAvgPool
  | .globalMaxPool => Lowering.pooling target layer .globalMaxPool
  | .eltwise op =>
    match layer.second with
    | some second => Lowering.elementwise target layer op second
    | none => Failure.report LayerFault.missingSecond.toError
  | .concat | .softmax | .batchNorm | .reshape => Lowering.unsupported layer

end NpuStack
