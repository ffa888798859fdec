import NpuStack.Host.Bus
import NpuStack.Register.Bits

/-! Transfers. The engine has one slot: a start first waits, for a bounded time,
for the transfer before it, and touches no register until the slot is free. -/

set_option autoImplicit false

namespace NpuStack

inductive Channel where
  /-- From the host to the weight buffer. -/
  | weight
  /-- From the host to the activation buffer. -/
  | actIn
  /-- From the activation buffer to the host. -/
  | actOut
  deriving DecidableEq, Repr

namespace Channel

def select : Channel → UInt32
  | .weight => 0
  | .actIn => 1
  | .actOut => 2

def name : Channel → String
  | .weight => "Weight"
  | .actIn => "ActIn"
  | .actOut => "ActOut"

def all : List Channel := [.weight, .actIn, .actOut]

end Channel

/-- A request for one transfer. Shape and strides are those of a two-dimensional one. -/
structure Descriptor where
  channel : Channel
  src : UInt32
  dst : UInt32
  len : UInt32
  srcStride : UInt16 := 0
  dstStride : UInt16 := 0
  width : UInt16 := 0
  height : UInt16 := 0
  elementBytes : UInt8 := 1
  flags : UInt8 := 0
  deriving DecidableEq, Repr

inductive DescriptorFault where
  | zeroLength
  | shapeWithoutMode
  | shapeMismatch (width height : UInt16) (elementBytes : UInt8) (len : UInt32)
  deriving DecidableEq, Repr

def DescriptorFault.message : DescriptorFault → String
  | .zeroLength => "DMA length is 0"
  | .shapeWithoutMode => "DMA strides or shape set without the 2D flag"
  | .shapeMismatch width height elementBytes len =>
    "2D DMA shape " ++ toString width.toNat ++ "x" ++ toString height.toNat ++ "x"
      ++ toString elementBytes.toNat ++ " = "
      ++ toString (width.toNat * height.toNat * elementBytes.toNat)
      ++ " bytes disagrees with length " ++ toString len.toNat

namespace Descriptor

def flag2d : UInt8 := 0x1

def flagIrq : UInt8 := 0x2

def linear (channel : Channel) (src dst len : UInt32) : Descriptor := { channel, src, dst, len }

/-- Rows of elements; the length follows from the shape. -/
def strided (channel : Channel) (src dst : UInt32) (width height : UInt16) (elementBytes : UInt8)
    (srcStride dstStride : UInt16) : Checked Descriptor := do
  let area ← Checked.mul32 width.toUInt32 height.toUInt32
  let len ← Checked.mul32 area elementBytes.toUInt32
  return { channel, src, dst, len, srcStride, dstStride, width, height, elementBytes, flags := flag2d }

def withIrq (d : Descriptor) : Descriptor := { d with flags := d.flags ||| flagIrq }

def is2d (d : Descriptor) : Bool := d.flags &&& flag2d != 0

def wantsIrq (d : Descriptor) : Bool := d.flags &&& flagIrq != 0

/-- Check a descriptor: it moves something, and its shape is absent or agrees with its length. -/
def validate (d : Descriptor) : Except DescriptorFault Unit :=
  if d.len = 0 then .error .zeroLength
  else if d.is2d then
    if d.width.toNat * d.height.toNat * d.elementBytes.toNat = d.len.toNat then .ok ()
    else .error (.shapeMismatch d.width d.height d.elementBytes d.len)
  else if d.srcStride ≠ 0 ∨ d.dstStride ≠ 0 ∨ d.width ≠ 0 ∨ d.height ≠ 0 then
    .error .shapeWithoutMode
  else .ok ()

def controlWord (d : Descriptor) : UInt32 :=
  DmaCtrl.start ||| DmaCtrl.channel d.channel.select
    ||| (if d.is2d then DmaCtrl.mode2d else 0)
    ||| (if d.wantsIrq then DmaCtrl.irqEnable else 0)

end Descriptor

structure Engine where
  /-- Transfers started. -/
  started : UInt64 := 0
  /-- Microseconds between looks at the engine. -/
  interval : UInt64 := 0
  deriving DecidableEq, Repr

namespace Engine

def slotTimeout : UInt64 := 100000

def forget (engine : Engine) : Engine := { engine with started := 0 }

def pollInterval (engine : Engine) : UInt64 := max engine.interval 1

variable {β : Type} [Bus β]

def isBusy : LinkM β Bool := Link.testBits .dmaStatus DmaStatus.busy

/-- One look at the engine; an end is an end even if it also shows an error. -/
def probe : Probe β Unit := fun bus =>
  let (status, bus) := Bus.read .dmaStatus bus
  if status &&& DmaStatus.done != 0 then (some (.ok ()), bus)
  else if status &&& DmaStatus.error != 0 then
    (some (.error (.dma ("engine reported error (status " ++ Text.hexMarked status.toNat ++ ")"))),
      bus)
  else (none, bus)

def wait (engine : Engine) (timeout : UInt64) : LinkM β Unit :=
  Link.poll engine.pollInterval timeout probe

/-- Wait for the slot; outlasting the wait means that the engine is busy. -/
def waitForSlot (engine : Engine) : LinkM β Unit := fun link =>
  match wait engine slotTimeout link with
  | (.error (.error (.timeout _)), link) => (.error (.error (.busy "start DMA")), link)
  | other => other

/-- Write a descriptor to a free slot, its control word last, and count the transfer. -/
def request (engine : Engine) (d : Descriptor) : LinkM β Engine := do
  Link.write .dmaSrc d.src
  Link.write .dmaDst d.dst
  Link.write .dmaLen d.len
  if d.is2d then
    Link.write .dmaSrcStride d.srcStride.toUInt32
    Link.write .dmaDstStride d.dstStride.toUInt32
  Link.write .dmaCtrl d.controlWord
  return { engine with started := engine.started + 1 }

def start (engine : Engine) (d : Descriptor) : LinkM β Engine := do
  match d.validate with
  | .error fault => throw (.error (.invalidParam fault.message))
  | .ok () => pure ()
  if ← isBusy then waitForSlot engine
  request engine d

end Engine

end NpuStack
