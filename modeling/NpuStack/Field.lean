/-! Bit fields of a 64-bit word. A field is a value: reading it, placing a
number in it, and the law that fields apart from each other do not mix are said
once here, for the instruction word and for every operand format. -/

set_option autoImplicit false

namespace NpuStack

/-- The bits `[offset, offset + width)` of a word. -/
structure Field where
  offset : Nat
  width : Nat
  deriving DecidableEq, Repr

namespace Field

def get (f : Field) (word : UInt64) : Nat := (word.toNat >>> f.offset) % (1 <<< f.width)

/-- The contribution of a number to a word; what exceeds the field is dropped. -/
def place (f : Field) (value : Nat) : Nat := (value % (1 <<< f.width)) <<< f.offset

end Field

def packFields (contributions : List Nat) : UInt64 := .ofNat (contributions.foldr (· + ·) 0)

end NpuStack
