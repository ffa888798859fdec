import NpuStack.Host.Bus
import NpuStack.Register.Bits
import NpuStack.Text.Binary64

/-! Performance counters: those of the hardware and those that the host keeps. -/

set_option autoImplicit false

namespace NpuStack

structure Counters where
  totalCycles : UInt64 := 0
  computeCycles : UInt64 := 0
  stallCycles : UInt64 := 0
  macOps : UInt64 := 0
  instructions : UInt64 := 0
  /-- Layers that the host ran to their end. -/
  layers : UInt64 := 0
  /-- Transfers that the host started. -/
  transfers : UInt64 := 0
  deriving DecidableEq, Repr

namespace Counters

def busyCycles (total stalled : UInt64) : UInt64 := if stalled ≤ total then total - stalled else 0

/-- Part of the cycles that did useful work; zero if none were counted. -/
def utilization (c : Counters) : Text.Binary64 :=
  if c.totalCycles = 0 then .zero
  else (Text.Binary64.ofNat (busyCycles c.totalCycles c.stallCycles).toNat).div
    (.ofNat c.totalCycles.toNat)

def text (c : Counters) : String :=
  "cycles:       " ++ toString c.totalCycles.toNat ++ " (" ++ toString c.stallCycles.toNat
    ++ " stalled)\n"
    ++ "MAC ops:      " ++ toString c.macOps.toNat ++ "\n"
    ++ "instructions: " ++ toString c.instructions.toNat ++ "\n"
    ++ "layers:       " ++ toString c.layers.toNat ++ "\n"
    ++ "DMA:          " ++ toString c.transfers.toNat ++ "\n"
    ++ "utilization:  " ++ (c.utilization.mul (.ofNat 100)).onePlace ++ "%"

variable {β : Type} [Bus β]

/-- The hardware counters; what the host keeps is left at zero. -/
def sample : LinkM β Counters := do
  let totalCycles ← Link.readPair .perfCyclesLo .perfCyclesHi
  let stallCycles := (← Link.read .perfStallCnt).toUInt64
  let macOps ← Link.readPair .perfMacLo .perfMacHi
  let instructions := (← Link.read .perfInstCnt).toUInt64
  return {
    totalCycles
    computeCycles := busyCycles totalCycles stallCycles
    stallCycles
    macOps
    instructions }

def resetHardware : LinkM β Unit := do
  Link.write .perfCtrl PerfCtrl.reset
  Link.delay 10
  Link.write .perfCtrl PerfCtrl.enable

end Counters

end NpuStack
