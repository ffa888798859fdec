import NpuStack.Instruction.Operand
import NpuStack.Layer.Basic
import NpuStack.Profile

/-! Tiling of convolutions: output channels are split over the columns of
processing elements and input channels over the rows. -/

set_option autoImplicit false

namespace NpuStack

structure Target where
  peRows : UInt32
  peCols : UInt32
  /-- Most instructions of a convolution or fully connected layer. -/
  convBound : Nat := 256
  /-- Most instructions of a pooling or elementwise layer. -/
  simpleBound : Nat := 32
  deriving DecidableEq, Repr

namespace Target

def ofProfile (profile : Profile) : Target :=
  { peRows := profile.peRows.toUInt32, peCols := profile.peCols.toUInt32 }

def reference : Target := ofProfile .reference

end Target

/-- Transfer instructions that a number of bytes needs; an empty transfer still takes one. -/
def transferCount (bytes : UInt64) : UInt64 :=
  let longest := DmaOperand.maxLen.toUInt64
  max 1 (if bytes % longest = 0 then bytes / longest else bytes / longest + 1)

structure Tiling where
  /-- Tiles of output channels. -/
  outTiles : UInt32
  /-- Tiles of input channels for each tile of output channels. -/
  inTiles : UInt32
  /-- Output channels in the last tile. -/
  lastCount : UInt32
  /-- Weight transfers of all tiles, at most the largest 32-bit number. -/
  weightLoads : UInt32
  deriving DecidableEq, Repr

namespace Tiling

/-- Length of the program for a tiling. Each tile of outputs waits, drains and clears once, and each
tile of inputs below it loads and computes; a halt ends the program. -/
def instructionCount (t : Tiling) : Nat :=
  t.outTiles.toNat * (3 + 2 * t.inTiles.toNat) + t.weightLoads.toNat + 1

def instructionCount64 (t : Tiling) : Checked UInt64 := do
  let tiles ← Checked.mul64 t.outTiles.toUInt64 (3 + 2 * t.inTiles.toUInt64)
  let loads ← Checked.add64 tiles t.weightLoads.toUInt64
  Checked.add64 loads 1

def ofLayer (target : Target) (layer : Layer) : Checked Tiling := do
  let outChannels := layer.output.channels
  let inChannels := layer.input.channels
  let outTiles ← Checked.divCeil32 outChannels target.peCols
  let inTiles ← Checked.divCeil32 inChannels target.peRows
  let rest := outChannels % target.peCols
  let lastCount := if rest = 0 then min target.peCols outChannels else rest
  let perOutput := layer.conv.weightsPerOutput inChannels
  let fullTile := transferCount (← Checked.mul64 target.peCols.toUInt64 perOutput)
  let fullTiles := if outTiles = 0 then 0 else outTiles - 1
  let before ← Checked.mul64 fullTiles.toUInt64 fullTile
  let lastTile := transferCount (← Checked.mul64 lastCount.toUInt64 perOutput)
  let loads ← Checked.add64 before lastTile
  return {
    outTiles
    inTiles
    lastCount
    weightLoads := if loads.toNat < UInt32.size then loads.toUInt32 else 0xFFFFFFFF }

end Tiling

end NpuStack
