import NpuStack.Host.State

/-! Life of the host: initialisation, stop, abort, reset, and the counters. -/

set_option autoImplicit false

namespace NpuStack.Host

variable {β : Type} [Bus β]

def idleTimeout : UInt64 := 10000

def resetPulse : UInt64 := 10

def idleProbe : Probe β Unit := fun bus =>
  let (status, bus) := Bus.read .status bus
  if status &&& Status.idle != 0 then (some (.ok ()), bus)
  else if status &&& Status.error != 0 then
    let (code, bus) := Bus.read .errorCode bus
    (some (.error (.hwFault code)), bus)
  else (none, bus)

def waitIdle (timeout : UInt64) : HostM β Unit := do
  let interval := (← getConfig).interval
  onLink (Link.poll interval timeout idleProbe)

def programBuffers : HostM β Unit := do
  let config ← getConfig
  write .instBase config.instAddr
  write .weightBase config.weightAddr
  write .actInBase config.actAddr
  write .actOutBase (← checked config.outputAddr)
  write .irqEn config.irqMask

def install (config : Config) : HostM β Unit := fun host =>
  (.ok (), { host with
    config
    context := { state := .init }
    engine := { interval := config.pollInterval } })

def init (config : Config) : HostM β Unit := do
  if (← getContext).state.isActive then raise (.busy "init")
  if !config.isUsable then raise (.invalidParam "buffer sizes must be non-zero")
  install config
  programBuffers
  if config.perf then write .perfCtrl (PerfCtrl.enable ||| PerfCtrl.reset)
  setState .idle

def forgetTransfers : HostM β Unit := fun host =>
  (.ok (), { host with engine := host.engine.forget })

/-- Abort the program without resetting the core. The host is idle afterwards even if the core does
not say so in time. -/
def stop : HostM β Unit := do
  ensureInitialized
  setBits .ctrl Ctrl.abort
  let result ← attempt (waitIdle idleTimeout)
  clearBits .ctrl Ctrl.abort
  setState .idle
  match result with
  | .ok () => pure ()
  | .error cause => raise cause

def abort : HostM β Unit := do
  ensureInitialized
  setBits .ctrl Ctrl.reset
  delay resetPulse
  clearBits .ctrl Ctrl.reset
  delay resetPulse
  match ← attempt (waitIdle idleTimeout) with
  | .error cause =>
    setState .error
    fail cause
  | .ok () =>
    setBits .ctrl Ctrl.enable
    setState .idle

/-- Take the hardware counters into the context, next to what the host counts itself. -/
def refreshCounters : HostM β Unit := do
  let sampled ← onLink Counters.sample
  fun host =>
    (.ok (), { host with context := { host.context with
      perf := { sampled with
        layers := host.context.perf.layers
        transfers := host.engine.started } } })

def perf : HostM β Counters := do
  refreshCounters
  return (← getContext).perf

def resetCounters : HostM β Unit := do
  onLink Counters.resetHardware
  modifyContext ({ · with perf := {} })
  forgetTransfers

def reset : HostM β Unit := do
  setBits .ctrl Ctrl.reset
  delay resetPulse
  write .ctrl Ctrl.enable
  write .irqStatus Irq.clearAll
  programBuffers
  resetCounters
  modifyContext ({ · with lastError := none, state := .idle })

/-- Stop and forget the execution; nothing to do before the first initialisation. -/
def deinit : HostM β Unit := do
  if (← getContext).state.isInitialized then
    let _ ← attempt stop
    write .irqEn 0
    modifyContext fun _ => {}
    forgetTransfers

end NpuStack.Host
