import NpuStack.Compiler.Lowering
import NpuStack.Host.Bringup
import NpuStack.Host.Loading

/-! Running of programs: start, completion by polling or by interrupt, output,
and a layer from its description to its counters. -/

set_option autoImplicit false

namespace NpuStack

inductive Completion where
  | done (perf : Counters)
  | failed (cause : HostError)
  deriving DecidableEq, Repr

namespace Host

variable {β : Type} [Bus β]

def start : HostM β Unit := do
  ensureLoadable "start"
  write .instPtr 0
  modifyContext ({ · with instPtr := 0, currentLayer := 0 })
  write .irqStatus Irq.clearAll
  setState .running
  setBits .ctrl Ctrl.start

/-- One look at the status while waiting for the end of a program; an error comes first. -/
def completionProbe : Probe β Unit := fun bus =>
  let (status, bus) := Bus.read .status bus
  if status &&& Status.error != 0 then
    let (code, bus) := Bus.read .errorCode bus
    (some (.error (.hwFault code)), bus)
  else if status &&& (Status.done ||| Status.idle) != 0 then (some (.ok ()), bus)
  else (none, bus)

def complete : HostM β Unit := do
  let instPtr ← read .instPtr
  modifyContext ({ · with instPtr })
  refreshCounters
  setState .done

/-- Act on the answer of a poll for the end of a program. A fault leads to the error state, a timeout
leaves the state alone. -/
def conclude : Except HostError Unit → HostM β Unit
  | .ok () => complete
  | .error (.hwFault code) => do
    setState .error
    fail (.hwFault code)
  | .error cause => fail cause

/-- Poll until the program ends; a timeout of zero waits forever. -/
def wait (timeout : UInt64) : HostM β Unit := do
  ensureInitialized
  let interval := (← getConfig).interval
  conclude (← attempt (onLink (Link.poll interval timeout completionProbe)))

def isDone : HostM β Bool := do
  if (← getContext).state.isInitialized then testBits .status Status.done else return false

/-- Take over a fault that is pending, and tell of it behind what was told before. -/
def serveFault (pending : UInt32) (listening : Bool) (told : List Completion) :
    HostM β (UInt32 × List Completion) := do
  if pending &&& Irq.error != 0 then
    let cause := HostError.hwFault (← read .errorCode)
    setState .error
    note cause
    if listening then return (pending, told ++ [.failed cause])
  return (pending, told)

/-- Serve an interrupt: acknowledge what is pending, take over completion and fault in this order,
and give the pending bits with what the listener is told. -/
def handleIrq : HostM β (UInt32 × List Completion) := do
  let pending ← read .irqStatus
  if pending = 0 then return (0, [])
  write .irqStatus pending
  let listening := (← get).listening
  let mut told : List Completion := []
  if pending &&& Irq.done != 0 then
    complete
    if listening then told := [.done (← getContext).perf]
  serveFault pending listening told

/-- Install or remove the listener; the answer says whether there was one. -/
def setListening (listening : Bool) : HostM β Bool := fun host =>
  (.ok host.listening, { host with listening })

def outputSize : HostM β UInt32 := read .actOutSize

/-- How much output a buffer can be given: at most as much as the core has produced and the staging
window holds. -/
def readableBytes (buffer : ByteArray) : HostM β Nat := do
  ensureInitialized
  if buffer.isEmpty then raise (.invalidParam "output buffer is empty")
  if (← getContext).state.isActive then raise (.busy "read output")
  let available := (← outputSize).toNat
  return min (min buffer.size available) (Bus.stagingBytes (← get).link.bus)

def replaceFront (buffer bytes : ByteArray) : ByteArray := bytes.copySlice 0 buffer 0 bytes.size

def fillFront (addr : UInt32) (size : Nat) : SliceM (Host β) Unit := fun (host, slice) =>
  let (result, link, front) := Link.load addr (host.link, slice.extract 0 size)
  (result, { host with link }, replaceFront slice front)

/-- Transfer output to the staging window and copy it from there to the start of the slice. -/
def drainOutput (size : Nat) : SliceM (Host β) Unit := do
  let src ← onHost (read .actOutBase)
  let staging := Bus.stagingBase (← get).1.link.bus
  onHost (transfer (.linear .actOut src staging (.ofNat size)))
  fillFront staging size

/-- Read output into the start of the slice. A failure leads back to the state before. -/
def readOutput : SliceM (Host β) Nat := do
  let buffer := (← get).2
  let size ← onHost (readableBytes buffer)
  if size = 0 then return 0
  let before := (← onHost getContext).state
  onHost (setState .draining)
  match ← attempt (drainOutput size) with
  | .ok () =>
    onHost (setState .done)
    return size
  | .error cause =>
    onHost (setState before)
    onHost (raise cause)

/-- Write the registers that describe a layer. The pooling type is written for pooling kinds only. -/
def configureLayer (layer : Layer) : HostM β Unit := do
  write .layerType layer.kind.typeCode
  write .layerInCh layer.input.channels
  write .layerOutCh layer.output.channels
  write .layerInH layer.input.height
  write .layerInW layer.input.width
  write .layerOutH layer.output.height
  write .layerOutW layer.output.width
  write .layerKernel layer.conv.kernelWord
  write .layerStride layer.conv.strideWord
  write .layerPadding layer.conv.paddingWord
  write .layerActType layer.activation.typeCode
  if layer.kind.isPool then write .layerPoolType layer.kind.poolCode
  write .layerQuantScale layer.quant.scale.toUInt32
  write .layerQuantZero layer.quant.zeroPoint.toUInt8.toUInt32

/-- Compile a layer for the geometry that the core reports. -/
def compileLayer (layer : Layer) : HostM β Program := do
  let info ← hardwareInfo
  match layer.compile (.ofProfile info.profile) with
  | .ok program => return program
  | .error (.trap cause) => checked (.error cause)
  | .error (.error cause) => raise (.compile cause)

def compileAndRun (layer : Layer) : HostM β Counters := do
  ensureLoadable "compile and run"
  let program ← compileLayer layer
  configureLayer layer
  loadInstructions program.instructions
  start
  wait (← getConfig).runTimeout
  modifyContext fun context =>
    { context with perf := { context.perf with layers := context.perf.layers + 1 } }
  return (← getContext).perf

end Host

end NpuStack
