import NpuStack.Host.Clock
import NpuStack.Register

/-! The interface between host and device: registers by name, bytes by bus
address, and a staging window that transfers can reach. A bus may answer a read
with any value and may change by being read. -/

set_option autoImplicit false

namespace NpuStack

class Bus (β : Type) where
  read : Register → β → UInt32 × β
  write : Register → UInt32 → β → β
  /-- Copy bytes to a bus address; the bus is unchanged if it refuses. -/
  store : UInt32 → ByteArray → β → Except HostError β
  /-- Fill a slice from a bus address; the slice comes back with either answer. -/
  load : UInt32 → ByteArray → β → Except HostError Unit × ByteArray
  stagingBase : β → UInt32
  stagingBytes : β → Nat
  /-- Reads after which an unanswered poll will never be answered. -/
  patience : β → Nat

/-- Access by byte offset, which may miss every register. -/
class OffsetAccess (β : Type) where
  readAt : UInt64 → β → Checked UInt32 × β
  writeAt : UInt64 → UInt32 → β → Checked Unit × β

structure Link (β : Type) where
  bus : β
  clock : Clock

/-- Operations that may report an error or trap. A failing operation keeps what it did. -/
abbrev Act (σ α : Type) := ExceptT (Failure HostError) (StateM σ) α

abbrev LinkM (β α : Type) := Act (Link β) α

abbrev SliceM (σ α : Type) := Act (σ × ByteArray) α

section Actions

variable {σ α : Type}

/-- Run an operation and give its reported error as a value; a trap goes on. -/
def attempt (action : Act σ α) : Act σ (Except HostError α) := fun state =>
  match action state with
  | (.ok value, state) => (.ok (.ok value), state)
  | (.error (.error cause), state) => (.ok (.error cause), state)
  | (.error (.trap cause), state) => (.error (.trap cause), state)

/-- Lend a slice to an operation, which gives it back with its value. -/
def lend (slice : ByteArray) (action : SliceM σ α) : Act σ (α × ByteArray) := fun state =>
  match action (state, slice) with
  | (.ok value, state, slice) => (.ok (value, slice), state)
  | (.error cause, state, _) => (.error cause, state)

end Actions

namespace Link

variable {β α : Type}

def delay (microseconds : UInt64) : LinkM β Unit := fun link =>
  let ⟨bus, clock⟩ := link
  (.ok (), ⟨bus, clock.delay microseconds⟩)

variable [Bus β]

def read (reg : Register) : LinkM β UInt32 := fun link =>
  let ⟨bus, clock⟩ := link
  let (value, bus) := Bus.read reg bus
  (.ok value, ⟨bus, clock⟩)

def write (reg : Register) (value : UInt32) : LinkM β Unit := fun link =>
  let ⟨bus, clock⟩ := link
  (.ok (), ⟨Bus.write reg value bus, clock⟩)

def setBits (reg : Register) (mask : UInt32) : LinkM β Unit := do
  let value ← read reg
  write reg (value ||| mask)

def clearBits (reg : Register) (mask : UInt32) : LinkM β Unit := do
  let value ← read reg
  write reg (value &&& ~~~mask)

def testBits (reg : Register) (mask : UInt32) : LinkM β Bool := do
  let value ← read reg
  return value &&& mask != 0

/-- A counter in two registers, low half first. -/
def readPair (low high : Register) : LinkM β UInt64 := do
  let lowWord ← read low
  let highWord ← read high
  return (highWord.toUInt64 <<< 32) ||| lowWord.toUInt64

def poll (interval timeout : UInt64) (probe : Probe β α) : LinkM β α := fun link =>
  let ⟨bus, clock⟩ := link
  let patience := Bus.patience bus
  let (result, clock, bus) := probe.poll interval timeout patience clock bus
  (result, ⟨bus, clock⟩)

def store (addr : UInt32) (data : ByteArray) : LinkM β Unit := fun link =>
  match Bus.store addr data link.bus with
  | .ok bus => (.ok (), { link with bus })
  | .error cause => (.error (.error cause), link)

def load (addr : UInt32) : SliceM (Link β) Unit := fun (link, slice) =>
  let (answer, slice) := Bus.load addr slice link.bus
  (answer.mapError .error, link, slice)

def stage (data : ByteArray) : LinkM β UInt32 := do
  let bus := (← get).bus
  let capacity := Bus.stagingBytes bus
  if capacity < data.size then
    throw (.error (.overflow "staging window" (.ofNat data.size) (.ofNat capacity)))
  let addr := Bus.stagingBase bus
  store addr data
  return addr

end Link

end NpuStack
