import NpuStack.Device.Window
import NpuStack.Host.Bus
import NpuStack.Instruction.Basic
import NpuStack.Profile
import NpuStack.Register.Bits

/-! A simulated core.

Starting it walks the program to its halt, charges the counters and reports
completion at once, or after a scripted number of looks at the status. Transfers
copy between the four memory windows. Faults, hangs and latency are scripted,
and every register write is logged. -/

set_option autoImplicit false

namespace NpuStack

structure DeviceMemory where
  instructions : Window
  weights : Window
  activations : Window
  staging : Window

namespace DeviceMemory

inductive Region where
  | instructions
  | weights
  | activations
  | staging
  deriving DecidableEq, Repr

def zeroed (profile : Profile) : Checked DeviceMemory := do
  let instBytes ← profile.instBytes
  return {
    instructions := ⟨AddressMap.instructions, instBytes.toNat, {}⟩
    weights := ⟨AddressMap.weights, profile.weightBytes.toNat, {}⟩
    activations := ⟨AddressMap.activations, profile.actBytes.toNat, {}⟩
    staging := ⟨AddressMap.staging, AddressMap.stagingBytes, {}⟩ }

/-- The first window that holds a whole range, and the position of the range in it. -/
def locate? (memory : DeviceMemory) (addr : UInt32) (len : Nat) : Option (Region × Nat) :=
  ((memory.instructions.locate? addr len).map (Region.instructions, ·)) <|>
  ((memory.weights.locate? addr len).map (Region.weights, ·)) <|>
  ((memory.activations.locate? addr len).map (Region.activations, ·)) <|>
  ((memory.staging.locate? addr len).map (Region.staging, ·))

def window (memory : DeviceMemory) : Region → Window
  | .instructions => memory.instructions
  | .weights => memory.weights
  | .activations => memory.activations
  | .staging => memory.staging

def writeAt (memory : DeviceMemory) (region : Region) (offset : Nat) (data : ByteArray) :
    DeviceMemory :=
  let ⟨instructions, weights, activations, staging⟩ := memory
  match region with
  | .instructions => ⟨instructions.write offset data, weights, activations, staging⟩
  | .weights => ⟨instructions, weights.write offset data, activations, staging⟩
  | .activations => ⟨instructions, weights, activations.write offset data, staging⟩
  | .staging => ⟨instructions, weights, activations, staging.write offset data⟩

def load? (memory : DeviceMemory) (addr : UInt32) (len : Nat) : Option ByteArray :=
  match memory.locate? addr len with
  | some (region, offset) => some ((memory.window region).read offset len)
  | none => none

def store? (memory : DeviceMemory) (addr : UInt32) (data : ByteArray) : Option DeviceMemory :=
  match memory.locate? addr data.size with
  | some (region, offset) => some (memory.writeAt region offset data)
  | none => none

/-- Copy a range; the bytes written are those from before the copy. -/
def copy? (memory : DeviceMemory) (src dst : UInt32) (len : Nat) : Option DeviceMemory :=
  match memory.locate? src len, memory.locate? dst len with
  | some (source, sourceOffset), some (target, targetOffset) =>
    let bytes := (memory.window source).read sourceOffset len
    some (memory.writeAt target targetOffset bytes)
  | _, _ => none

end DeviceMemory

structure Tally where
  retired : Nat := 0
  computes : Nat := 0
  dmaWaits : Nat := 0
  deriving DecidableEq, Repr

namespace Tally

def retire (tally : Tally) (op : Opcode) : Tally :=
  { retired := tally.retired + 1
    computes := if op = .compute then tally.computes + 1 else tally.computes
    dmaWaits := if op = .waitDma then tally.dmaWaits + 1 else tally.dmaWaits }

/-- The opcode of an instruction in a memory window: the last byte of its word. -/
def opcodeAt (window : Window) (index : Nat) : Opcode := .ofByte (window.bytes.byte (8 * index + 7))

/-- Run `count` instructions of a memory window from index `index` on, up to a halt or to the last
whole word. -/
def run (window : Window) : (count : Nat) → (index : Nat) → Tally → Tally
  | 0, _, tally => tally
  | count + 1, index, tally =>
    if window.size < 8 * (index + 1) then tally
    else
      let op := opcodeAt window index
      let tally := tally.retire op
      if op = .halt then tally else run window count (index + 1) tally

def stall (tally : Tally) : Nat := tally.dmaWaits * 8

def cycles (tally : Tally) : Nat := tally.retired * 4 + tally.computes * 16 + tally.stall

end Tally

structure Simulator where
  registers : RegisterFile
  profile : Profile
  memory : DeviceMemory
  /-- Register writes since the start or the last clearing, oldest first. -/
  log : Array (Register × UInt32) := #[]
  /-- Code with which the next started program fails. -/
  fault : Option UInt32 := none
  /-- The next transfer fails. -/
  dmaFault : Bool := false
  /-- Transfers never end. -/
  dmaHang : Bool := false
  /-- Started programs never end. -/
  hang : Bool := false
  /-- Looks at the status that a program takes to complete. -/
  latency : UInt32 := 0
  /-- Looks left until completion shows. -/
  pending : UInt32 := 0
  statusReads : UInt64 := 0

namespace Simulator

def version : UInt32 := 0x00010000

def idleStatus : UInt32 := Status.word Status.idle 2
def runningStatus : UInt32 := Status.word Status.busy 4
def doneStatus : UInt32 := Status.word (Status.done ||| Status.idle) 6
def errorStatus : UInt32 := Status.word Status.error 7

def ofProfile (profile : Profile) : Checked Simulator := do
  let memory ← DeviceMemory.zeroed profile
  return {
    registers :=
      ((RegisterFile.zero.set .version version).set .config profile.config).set .status idleStatus
    profile
    memory }

def peek (sim : Simulator) (reg : Register) : UInt32 := sim.registers.get reg

/-- Set a register behind the back of the core: no effects and no log. -/
def poke (sim : Simulator) (reg : Register) (value : UInt32) : Simulator :=
  { sim with registers := sim.registers.set reg value }

def writesTo (sim : Simulator) (reg : Register) : List UInt32 :=
  (sim.log.toList.filter (·.1 == reg)).map (·.2)

def clearLog (sim : Simulator) : Simulator := { sim with log := #[] }

def nonzero (sim : Simulator) : List (Register × UInt32) :=
  (Register.all.map fun reg => (reg, sim.peek reg)).filter (·.2 != 0)

def raiseIrq (sim : Simulator) (bits : UInt32) : Simulator :=
  sim.poke .irqStatus (sim.peek .irqStatus ||| bits)

/-- Add to a 32-bit counter; an amount that does not fit counts as the largest that does. -/
def addCounter (sim : Simulator) (reg : Register) (amount : Nat) : Simulator :=
  sim.poke reg (sim.peek reg + .ofNat (min amount (UInt32.size - 1)))

def addCounterPair (sim : Simulator) (low high : Register) (amount : Nat) : Simulator :=
  let value := (((sim.peek high).toUInt64 <<< 32) ||| (sim.peek low).toUInt64) + .ofNat amount
  (sim.poke low value.toUInt32).poke high (value >>> 32).toUInt32

/-- Charge a program to the counters, if they are enabled. -/
def charge (sim : Simulator) (tally : Tally) : Simulator :=
  if sim.peek .perfCtrl &&& PerfCtrl.enable != 0 then
    let macs := tally.computes * sim.profile.peCount.toNat
    let sim := sim.addCounterPair .perfCyclesLo .perfCyclesHi tally.cycles
    let sim := sim.addCounterPair .perfMacLo .perfMacHi macs
    let sim := sim.addCounter .perfInstCnt tally.retired
    sim.addCounter .perfStallCnt tally.stall
  else sim

def runProgram (sim : Simulator) : Simulator :=
  if sim.hang then sim.poke .status runningStatus
  else
    match sim.fault with
    | some code =>
      let sim := { sim with fault := none }
      ((sim.poke .errorCode code).poke .status errorStatus).raiseIrq Irq.error
    | none =>
      let tally := Tally.run sim.memory.instructions (sim.peek .instSize).toNat 0 {}
      let sim := sim.charge tally
      let sim := sim.poke .instPtr (.ofNat (min tally.retired (UInt32.size - 1)))
      let sim := (sim.poke .status doneStatus).raiseIrq Irq.done
      { sim with pending := sim.latency }

/-- Effect of a write to the control register: reset and abort make the core idle, and win over a
start. -/
def onCtrl (sim : Simulator) (value : UInt32) : Simulator :=
  if value &&& (Ctrl.reset ||| Ctrl.abort) != 0 then
    let sim := { sim with pending := 0 }
    (sim.poke .errorCode 0).poke .status idleStatus
  else if value &&& Ctrl.start != 0 then
    (sim.poke .ctrl (value &&& ~~~Ctrl.start)).runProgram
  else sim

/-- Perform the transfer described by the registers. A strided one copies its length in one piece. -/
def runTransfer (sim : Simulator) : Simulator :=
  let copied :=
    if sim.dmaFault then none
    else sim.memory.copy? (sim.peek .dmaSrc) (sim.peek .dmaDst) (sim.peek .dmaLen).toNat
  let sim := { sim with dmaFault := false }
  match copied with
  | some memory =>
    let sim := { sim with memory }
    ((sim.poke .dmaStatus DmaStatus.done).addCounter .perfDmaCnt 1).raiseIrq Irq.dmaDone
  | none => (sim.poke .dmaStatus DmaStatus.error).raiseIrq Irq.dmaError

/-- Effect of a write to the transfer control register; an abort wins over a start. -/
def onDmaCtrl (sim : Simulator) (value : UInt32) : Simulator :=
  if value &&& DmaCtrl.abort != 0 then sim.poke .dmaStatus 0
  else if value &&& DmaCtrl.start != 0 then
    let sim := sim.poke .dmaCtrl (value &&& ~~~DmaCtrl.start)
    if sim.dmaHang then sim.poke .dmaStatus DmaStatus.busy else sim.runTransfer
  else sim

def counterRegisters : List Register :=
  [.perfCyclesLo, .perfCyclesHi, .perfInstCnt, .perfMacLo, .perfMacHi, .perfStallCnt, .perfDmaCnt]

def onPerfCtrl (sim : Simulator) (value : UInt32) : Simulator :=
  if value &&& PerfCtrl.reset != 0 then
    counterRegisters.foldl (fun sim reg => sim.poke reg 0) sim
  else sim

/-- Write a register: logged, then stored, then acted on. Some registers are read only, and writing
ones to the interrupt status clears them. -/
def write (sim : Simulator) (reg : Register) (value : UInt32) : Simulator :=
  let sim := { sim with log := sim.log.push (reg, value) }
  match reg with
  | .version | .config | .status | .dmaStatus => sim
  | .irqStatus => sim.poke reg (sim.peek reg &&& ~~~value)
  | .ctrl => (sim.poke reg value).onCtrl value
  | .dmaCtrl => (sim.poke reg value).onDmaCtrl value
  | .perfCtrl => (sim.poke reg value).onPerfCtrl value
  | reg => sim.poke reg value

/-- Read a register. While completion is pending the status shows a running core, one look less
each time, and the completion interrupt is hidden. -/
def read (sim : Simulator) (reg : Register) : UInt32 × Simulator :=
  match reg with
  | .status =>
    let sim := { sim with statusReads := sim.statusReads + 1 }
    if 0 < sim.pending then (runningStatus, { sim with pending := sim.pending - 1 })
    else (sim.peek .status, sim)
  | .irqStatus =>
    if 0 < sim.pending then (sim.peek .irqStatus &&& ~~~Irq.done, sim)
    else (sim.peek .irqStatus, sim)
  | reg => (sim.peek reg, sim)

/-- Read at a byte offset. Only the exact offset of a register acts as that register; any other
reads the stored word around it, and past the window there is nothing. -/
def readAt (sim : Simulator) (offset : UInt64) : UInt32 × Simulator :=
  match Register.ofOffset? offset.toNat with
  | some reg => sim.read reg
  | none => (sim.registers.words.toArray.getD (offset.toNat / 4) 0, sim)

def writeAt (sim : Simulator) (offset : UInt64) (value : UInt32) : Simulator :=
  match Register.ofOffset? offset.toNat with
  | some reg => sim.write reg value
  | none => sim

instance : Bus Simulator where
  read reg sim := sim.read reg
  write reg value sim := sim.write reg value
  store addr data sim :=
    match sim.memory.store? addr data with
    | some memory => .ok { sim with memory }
    | none => .error (.unmapped addr data.size)
  load addr slice sim :=
    match sim.memory.load? addr slice.size with
    | some bytes => (.ok (), bytes)
    | none => (.error (.unmapped addr slice.size), slice)
  stagingBase _ := AddressMap.staging
  stagingBytes _ := AddressMap.stagingBytes
  patience sim := sim.pending.toNat

instance : OffsetAccess Simulator where
  readAt offset sim :=
    let (value, sim) := sim.readAt offset
    (.ok value, sim)
  writeAt offset value sim := (.ok (), sim.writeAt offset value)

end Simulator

end NpuStack
