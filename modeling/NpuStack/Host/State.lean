import NpuStack.Host.Counters
import NpuStack.Host.Transfer
import NpuStack.Profile

/-! The host side of one accelerator: configuration, execution context and the
monad of its operations. -/

set_option autoImplicit false

namespace NpuStack

/-- States of a run. Their codes are those of the status register. -/
inductive RunState where
  | reset
  | init
  | idle
  | loading
  | running
  | draining
  | done
  | error
  deriving DecidableEq, Repr

namespace RunState

def code : RunState → UInt8
  | .reset => 0
  | .init => 1
  | .idle => 2
  | .loading => 3
  | .running => 4
  | .draining => 5
  | .done => 6
  | .error => 7

def ofCode? : UInt8 → Option RunState
  | 0 => some .reset
  | 1 => some .init
  | 2 => some .idle
  | 3 => some .loading
  | 4 => some .running
  | 5 => some .draining
  | 6 => some .done
  | 7 => some .error
  | _ => none

def name : RunState → String
  | .reset => "reset"
  | .init => "init"
  | .idle => "idle"
  | .loading => "loading"
  | .running => "running"
  | .draining => "draining"
  | .done => "done"
  | .error => "error"

def label : RunState → String
  | .reset => "Reset"
  | .init => "Init"
  | .idle => "Idle"
  | .loading => "Loading"
  | .running => "Running"
  | .draining => "Draining"
  | .done => "Done"
  | .error => "Error"

def isInitialized : RunState → Bool
  | .reset | .init => false
  | _ => true

def isActive : RunState → Bool
  | .running | .draining => true
  | _ => false

end RunState

structure Config where
  instAddr : UInt32
  instEntries : UInt32
  weightAddr : UInt32
  weightBytes : UInt32
  actAddr : UInt32
  /-- Size of the activation buffer; the upper half holds outputs. -/
  actBytes : UInt32
  irq : Bool := false
  perf : Bool := true
  pollInterval : UInt64 := 10
  /-- Deadline of a layer run; zero waits forever. -/
  runTimeout : UInt64 := 1000000
  deriving DecidableEq, Repr

namespace Config

def ofProfile (profile : Profile) : Config where
  instAddr := AddressMap.instructions
  instEntries := profile.instEntries
  weightAddr := AddressMap.weights
  weightBytes := profile.weightBytes
  actAddr := AddressMap.activations
  actBytes := profile.actBytes

def reference : Config := ofProfile .reference

def withIrq (config : Config) : Config := { config with irq := true }

def outputAddr (config : Config) : Checked UInt32 := Checked.add32 config.actAddr (config.actBytes / 2)

/-- Every buffer has room, and the activation buffer has two halves. -/
def isUsable (config : Config) : Bool :=
  config.instEntries != 0 && config.weightBytes != 0 && 2 ≤ config.actBytes

def irqMask (config : Config) : UInt32 := if config.irq then Irq.served else 0

def interval (config : Config) : UInt64 := max config.pollInterval 1

end Config

structure Context where
  state : RunState := .reset
  /-- Code of the last failure. -/
  lastError : Option Int := none
  instPtr : UInt32 := 0
  instCount : UInt32 := 0
  loopCount : UInt32 := 0
  loopStart : UInt32 := 0
  currentLayer : UInt32 := 0
  totalLayers : UInt32 := 0
  perf : Counters := {}
  deriving DecidableEq, Repr

structure Host (β : Type) where
  link : Link β
  config : Config := .reference
  context : Context := {}
  engine : Engine := { interval := Config.reference.pollInterval }
  /-- Completions are reported to a listener. -/
  listening : Bool := false

abbrev HostM (β α : Type) := Act (Host β) α

namespace Host

variable {β α : Type}

def ofBus (bus : β) : Host β := { link := ⟨bus, .start⟩ }

def onLink (action : LinkM β α) : HostM β α := fun host =>
  let ⟨link, config, context, engine, listening⟩ := host
  let (result, link) := action link
  (result, ⟨link, config, context, engine, listening⟩)

def onHost (action : HostM β α) : SliceM (Host β) α := fun (host, slice) =>
  let (result, host) := action host
  (result, host, slice)

def getConfig : HostM β Config := fun host => (.ok host.config, host)

def getContext : HostM β Context := fun host => (.ok host.context, host)

def modifyContext (change : Context → Context) : HostM β Unit := fun host =>
  let ⟨link, config, context, engine, listening⟩ := host
  (.ok (), ⟨link, config, change context, engine, listening⟩)

def setState (state : RunState) : HostM β Unit := modifyContext ({ · with state })

def raise (cause : HostError) : HostM β α := fun host => (.error (.error cause), host)

def checked (value : Checked α) : HostM β α := fun host =>
  match value with
  | .ok value => (.ok value, host)
  | .error cause => (.error (.trap cause), host)

def note (cause : HostError) : HostM β Unit :=
  modifyContext ({ · with lastError := some cause.statusCode })

def fail (cause : HostError) : HostM β α := do
  note cause
  raise cause

def noting (action : HostM β α) : HostM β α := do
  match ← attempt action with
  | .ok value => return value
  | .error cause => fail cause

def ensureInitialized : HostM β Unit := do
  if !(← getContext).state.isInitialized then raise .notInitialized

/-- Loads and starts are accepted when idle, loading or done. -/
def ensureLoadable (operation : String) : HostM β Unit := do
  match (← getContext).state with
  | .reset | .init => raise .notInitialized
  | .running | .draining => raise (.busy operation)
  | .error => raise (.invalidState "error, reset or abort required")
  | .idle | .loading | .done => pure ()

section Registers

variable [Bus β]

def read (reg : Register) : HostM β UInt32 := onLink (Link.read reg)
def write (reg : Register) (value : UInt32) : HostM β Unit := onLink (Link.write reg value)
def setBits (reg : Register) (mask : UInt32) : HostM β Unit := onLink (Link.setBits reg mask)
def clearBits (reg : Register) (mask : UInt32) : HostM β Unit := onLink (Link.clearBits reg mask)
def testBits (reg : Register) (mask : UInt32) : HostM β Bool := onLink (Link.testBits reg mask)

end Registers

def delay (microseconds : UInt64) : HostM β Unit := onLink (Link.delay microseconds)

end Host

end NpuStack
