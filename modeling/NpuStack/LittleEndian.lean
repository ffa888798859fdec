import NpuStack.Trap

/-! Little-endian numbers in byte strings. -/

set_option autoImplicit false

namespace NpuStack.LittleEndian

/-- The low `width` bytes of a value, least significant first. -/
def encode : (width : Nat) → (value : Nat) → List UInt8
  | 0, _ => []
  | width + 1, value => UInt8.ofNat value :: encode width (value / 256)

def decode : List UInt8 → Nat
  | [] => 0
  | byte :: rest => byte.toNat + 256 * decode rest

@[simp] theorem length_encode (width value : Nat) : (encode width value).length = width := by
  induction width generalizing value with
  | zero => rfl
  | succ width ih => simp [encode, ih]

theorem encode_decode (bytes : List UInt8) : encode bytes.length (decode bytes) = bytes := by
  induction bytes with
  | nil => rfl
  | cons byte rest ih =>
    have small := byte.toNat_lt
    have low : UInt8.ofNat (byte.toNat + 256 * decode rest) = byte := by
      apply UInt8.toNat_inj.mp
      simp only [UInt8.toNat_ofNat']
      omega
    have high : (byte.toNat + 256 * decode rest) / 256 = decode rest := by omega
    simp only [List.length_cons, decode, encode, low, high, ih]

/-- The number stored in `width` bytes at an offset; bytes past the end are absent. -/
def read (data : ByteArray) (offset width : Nat) : Nat :=
  decode (data.extract offset (offset + width)).data.toList

/-- The number stored in `width` bytes at an offset, all of which have to be there. -/
def readWithin (data : ByteArray) (offset width : Nat) : Checked Nat := do
  let field ← Checked.slice data offset (offset + width)
  return decode field.data.toList

end NpuStack.LittleEndian
