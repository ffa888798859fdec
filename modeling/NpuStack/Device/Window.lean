import NpuStack.FlatMemory

/-! Windows of device memory: bytes at consecutive bus addresses. -/

set_option autoImplicit false

namespace NpuStack

structure Window where
  base : UInt32
  size : Nat
  /-- Bytes by their offset in the window. -/
  bytes : FlatMemory := {}

namespace Window

/-- Position of a range in the window, if the window holds all of it. -/
def locate? (window : Window) (addr : UInt32) (len : Nat) : Option Nat :=
  if window.base ≤ addr ∧ (addr - window.base).toNat + len ≤ window.size then
    some (addr - window.base).toNat
  else none

def read (window : Window) (offset len : Nat) : ByteArray := window.bytes.read offset len

def write (window : Window) (offset : Nat) (data : ByteArray) : Window :=
  let ⟨base, size, bytes⟩ := window
  ⟨base, size, bytes.write offset data⟩

end Window

end NpuStack
