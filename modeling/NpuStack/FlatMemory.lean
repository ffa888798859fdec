import Std.Data.HashMap
import NpuStack.LittleEndian

/-! Byte memory in which every address holds zero until it is written. Only
written bytes take room, so a memory may be as large as its addresses allow. -/

set_option autoImplicit false

namespace NpuStack

structure FlatMemory where
  cells : Std.HashMap Nat UInt8 := {}

namespace FlatMemory

def byte (memory : FlatMemory) (addr : Nat) : UInt8 := memory.cells.getD addr 0

def read (memory : FlatMemory) (addr len : Nat) : ByteArray :=
  ByteArray.mk (Array.ofFn fun index : Fin len => memory.byte (addr + index))

def writeList (memory : FlatMemory) (addr : Nat) : List UInt8 → FlatMemory
  | [] => memory
  | byte :: rest => writeList ⟨memory.cells.insert addr byte⟩ (addr + 1) rest

def write (memory : FlatMemory) (addr : Nat) (data : ByteArray) : FlatMemory :=
  memory.writeList addr data.data.toList

def number (memory : FlatMemory) (addr width : Nat) : Nat :=
  LittleEndian.decode (memory.read addr width).data.toList

def readWord (memory : FlatMemory) (addr : Nat) : UInt32 := .ofNat (memory.number addr 4)

def writeWord (memory : FlatMemory) (addr : Nat) (value : UInt32) : FlatMemory :=
  memory.writeList addr (LittleEndian.encode 4 value.toNat)

end FlatMemory

end NpuStack
