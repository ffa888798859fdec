import NpuStack.Host.Lifecycle

/-! Bring-up and diagnostics: identity of the core, boot, self-test, sleep. -/

set_option autoImplicit false

namespace NpuStack

structure HardwareInfo where
  version : UInt32
  profile : Profile
  deriving DecidableEq, Repr

def HardwareInfo.text (info : HardwareInfo) : String :=
  "EdgeNPU v" ++ toString (info.version >>> 16).toNat ++ "."
    ++ toString (info.version &&& 0xFFFF).toNat ++ " (" ++ toString info.profile.peRows.toNat
    ++ "x" ++ toString info.profile.peCols.toNat ++ " PEs)"

namespace Host

variable {β : Type} [Bus β]

def hardwareInfo : HostM β HardwareInfo := do
  let version ← read .version
  let config ← read .config
  return { version, profile := .ofConfig config }

def verifyHardware : HostM β HardwareInfo := do
  let info ← hardwareInfo
  if info.version = 0 ∨ info.version = 0xFFFFFFFF then raise (.hwFault info.version)
  if !info.profile.isPlausible then raise (.hwFault info.profile.config)
  return info

/-- Registers that are safe to scribble on, with the patterns to write. -/
def testPatterns : List (Register × UInt32) :=
  [(.instBase, 0xA5A5A5A5), (.dmaSrc, 0x1000), (.dmaDst, 0x2000), (.dmaLen, 256),
   (.irqEn, Irq.done)]

/-- Write the patterns until one does not read back, and give its register. -/
def firstMismatch : List (Register × UInt32) → HostM β (Option Register)
  | [] => return none
  | (reg, pattern) :: rest => do
    write reg pattern
    if (← read reg) ≠ pattern then return some reg
    firstMismatch rest

def readAll : List Register → HostM β (List (Register × UInt32))
  | [] => return []
  | reg :: rest => do
    let value ← read reg
    return (reg, value) :: (← readAll rest)

def writeAll : List (Register × UInt32) → HostM β Unit
  | [] => return ()
  | (reg, value) :: rest => do
    write reg value
    writeAll rest

def clearAccumulators : HostM β Unit := do
  setBits .peCtrl PeCtrl.clearAcc
  delay 1
  clearBits .peCtrl PeCtrl.clearAcc

/-- Write and read back the test patterns, then restore what was there. The fault code is the offset
of the first register that failed. -/
def selfTest : HostM β Unit := do
  let saved ← readAll (testPatterns.map Prod.fst)
  let failed ← firstMismatch testPatterns
  writeAll saved
  clearAccumulators
  if let some reg := failed then raise (.hwFault (.ofNat reg.offset))

/-- Registers that are zeroed at boot once interrupts are off and the engine is stopped. -/
def transferRegisters : List Register := [.dmaSrc, .dmaDst, .dmaLen, .dmaSrcStride, .dmaDstStride]

def bufferRegisters : List Register :=
  [.instBase, .instSize, .instPtr, .weightBase, .weightSize, .actInBase, .actInSize, .actOutBase,
   .actOutSize]

/-- Reset, verify, clear and enable the core, then test it. The host stays uninitialised. -/
def boot : HostM β HardwareInfo := do
  setBits .ctrl Ctrl.reset
  delay resetPulse
  clearBits .ctrl Ctrl.reset
  delay resetPulse
  waitIdle idleTimeout
  let info ← verifyHardware
  write .irqEn 0
  write .irqStatus Irq.clearAll
  write .dmaCtrl DmaCtrl.abort
  delay 1
  write .dmaCtrl 0
  writeAll (transferRegisters.map (·, 0))
  write .peCtrl 0
  clearAccumulators
  writeAll (bufferRegisters.map (·, 0))
  write .perfCtrl PerfCtrl.reset
  delay 1
  write .perfCtrl PerfCtrl.enable
  setBits .ctrl Ctrl.enable
  selfTest
  return info

def hardwareState : HostM β (Option RunState) := do
  let status ← read .status
  return RunState.ofCode? (Status.stateField status)

def sleep : HostM β Unit := do
  clearBits .ctrl Ctrl.enable
  write .perfCtrl 0
  write .irqEn 0

def wake : HostM β Unit := do
  setBits .ctrl Ctrl.enable
  write .perfCtrl PerfCtrl.enable
  if (← getConfig).irq ∧ (← getContext).state ≠ .reset then write .irqEn Irq.served
  waitIdle idleTimeout

end Host

end NpuStack
