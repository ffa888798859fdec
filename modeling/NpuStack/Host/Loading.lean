import NpuStack.Host.Lifecycle
import NpuStack.Model.Image

/-! Loading of programs, weights, inputs and whole models. What a call refuses
it refuses before it touches the device. -/

set_option autoImplicit false

namespace NpuStack.Host

variable {β : Type} [Bus β]

/-- Largest weight load that is copied without a transfer. -/
def directLimit : Nat := 1024

/-- Longest wait for a transfer of a load or of an output. -/
def transferTimeout : UInt64 := 1000000

def startTransfer (d : Descriptor) : HostM β Unit := do
  let engine := (← get).engine
  let engine ← onLink (engine.start d)
  fun host => (.ok (), { host with engine })

def waitTransfer (timeout : UInt64) : HostM β Unit := do
  let engine := (← get).engine
  onLink (engine.wait timeout)

def transfer (d : Descriptor) : HostM β Unit := do
  noting (startTransfer d)
  noting (waitTransfer transferTimeout)

def dmaTransfer (d : Descriptor) (timeout : UInt64) : HostM β Unit := do
  ensureInitialized
  startTransfer d
  waitTransfer timeout

def loadInstructions (instructions : Array Instruction) : HostM β Unit := do
  ensureLoadable "load instructions"
  if instructions.isEmpty then raise (.invalidParam "instruction count is 0")
  let config ← getConfig
  let capacity := config.instEntries.toNat
  if capacity < instructions.size then
    fail (.overflow "instruction buffer" (.ofNat (instructions.size * 8)) (.ofNat (capacity * 8)))
  let count := UInt32.ofNat instructions.size
  onLink (Link.store config.instAddr (Program.imageOf instructions))
  write .instSize count
  write .instPtr 0
  let (loopStart, loopCount) := Program.firstLoop instructions
  modifyContext ({ · with
    instCount := count
    instPtr := 0
    loopStart
    loopCount
    state := .loading })

/-- Copy weights into their buffer at an offset: small loads directly, larger ones by a transfer
from the staging window. -/
def loadWeights (data : ByteArray) (offset : UInt32) : HostM β Unit := do
  ensureLoadable "load weights"
  if data.isEmpty then raise (.invalidParam "weight data is empty")
  let config ← getConfig
  let stop := offset.toNat + data.size
  if config.weightBytes.toNat < stop then
    fail (.overflow "weight buffer" (.ofNat stop) config.weightBytes.toUInt64)
  let dst ← checked (Checked.add32 config.weightAddr offset)
  if directLimit < data.size then
    let src ← onLink (Link.stage data)
    transfer (.linear .weight src dst (.ofNat data.size))
  else
    onLink (Link.store dst data)
  write .weightSize (.ofNat stop)
  setState .loading

/-- Transfer an input into the lower half of the activation buffer. -/
def loadInput (data : ByteArray) : HostM β Unit := do
  ensureLoadable "load input"
  if data.isEmpty then raise (.invalidParam "input data is empty")
  let config ← getConfig
  let capacity := config.actBytes / 2
  if capacity.toNat < data.size then
    fail (.overflow "activation input" (.ofNat data.size) capacity.toUInt64)
  let len := UInt32.ofNat data.size
  let src ← onLink (Link.stage data)
  transfer (.linear .actIn src config.actAddr len)
  write .actInSize len
  setState .loading

/-- Forget a program that was loaded in part, so that nothing appears loaded. -/
def discardProgram : HostM β Unit := do
  write .instSize 0
  write .weightSize 0
  modifyContext ({ · with
    instCount := 0
    instPtr := 0
    loopStart := 0
    loopCount := 0
    totalLayers := 0
    state := .idle })

/-- Copy the sections of a model; the bias follows the weights. -/
def copyImage (image : Model.Image) : HostM β Unit := do
  if !image.program.instructions.isEmpty then loadInstructions image.program.instructions
  if !image.weights.isEmpty then loadWeights image.weights 0
  if !image.bias.isEmpty then loadWeights image.bias image.header.weightBytes

def readModel (data : ByteArray) : HostM β Model.Image :=
  match Model.Image.parse data with
  | .ok image => return image
  | .error (.error fault) => fail (.ofModelFault fault)
  | .error (.trap cause) => checked (.error cause)

/-- Check a model and load it as a whole. A copy that fails half-way leaves nothing loaded. -/
def loadModel (data : ByteArray) : HostM β Model.Header := do
  ensureLoadable "load model"
  let image ← readModel data
  let header := image.header
  let config ← getConfig
  if config.instEntries < header.instCount then
    fail (.overflow "instruction buffer" (header.instCount.toUInt64 * 8)
      (config.instEntries.toUInt64 * 8))
  let payload := header.weightBytes.toUInt64 + header.biasBytes.toUInt64
  if config.weightBytes.toUInt64 < payload then
    fail (.overflow "weight buffer" payload config.weightBytes.toUInt64)
  match ← attempt (copyImage image) with
  | .error cause =>
    discardProgram
    fail cause
  | .ok () =>
    modifyContext ({ · with totalLayers := header.layerCount.toUInt32 })
    return header

end NpuStack.Host
