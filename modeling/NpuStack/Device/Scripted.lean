import NpuStack.Host.Bus

/-! A device that answers every read with a fixed value and ignores what is
written, except for keeping a log of it. -/

set_option autoImplicit false

namespace NpuStack

structure Scripted where
  /-- Answers of single registers. -/
  answers : List (Register × UInt32) := []
  /-- Answer of every other register. -/
  answer : UInt32 := 0
  stagingBase : UInt32 := 0
  stagingBytes : Nat := 0
  log : Array (Register × UInt32) := #[]

namespace Scripted

def filler : UInt8 := 0xEE

def value (device : Scripted) (reg : Register) : UInt32 :=
  (device.answers.lookup reg).getD device.answer

def write (device : Scripted) (reg : Register) (value : UInt32) : Scripted :=
  { device with log := device.log.push (reg, value) }

instance : Bus Scripted where
  read reg device := (device.value reg, device)
  write reg value device := device.write reg value
  store _ _ device := .ok device
  load _ slice _ := (.ok (), ByteArray.mk (Array.replicate slice.size filler))
  stagingBase device := device.stagingBase
  stagingBytes device := device.stagingBytes
  patience _ := 0

instance : OffsetAccess Scripted where
  readAt offset device :=
    match Register.ofOffset? offset.toNat with
    | some reg => (.ok (device.value reg), device)
    | none => (.ok device.answer, device)
  writeAt offset value device :=
    match Register.ofOffset? offset.toNat with
    | some reg => (.ok (), device.write reg value)
    | none => (.ok (), device)

end Scripted

end NpuStack
