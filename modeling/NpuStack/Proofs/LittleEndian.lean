import NpuStack.LittleEndian
import NpuStack.Proofs.Checked
import Mathlib.Algebra.Order.Ring.Nat

/-! Little-endian numbers and records of them: what is written is read back, and
the bytes that were read are written again. -/

set_option autoImplicit false

namespace NpuStack.LittleEndian

variable {data : ByteArray} {offset width : Nat}

theorem decode_encode (width value : Nat) : decode (encode width value) = value % 256 ^ width := by
  induction width generalizing value with
  | zero => simp [encode, decode, Nat.mod_one]
  | succ width ih =>
    have split : value % 256 ^ (width + 1) = value % 256 + 256 * (value / 256 % 256 ^ width) := by
      rw [Nat.pow_succ', Nat.mod_mul]
    simp only [encode, decode, ih, UInt8.toNat_ofNat', split]

theorem decode_lt (bytes : List UInt8) : decode bytes < 256 ^ bytes.length := by
  induction bytes with
  | nil => decide
  | cons byte rest ih =>
    have small := byte.toNat_lt
    simp only [decode, List.length_cons, Nat.pow_succ]
    omega

theorem extract_append (bytes : ByteArray) {first second third : Nat} (left : first ≤ second)
    (right : second ≤ third) :
    bytes.extract first second ++ bytes.extract second third = bytes.extract first third := by
  rw [ByteArray.extract_append_extract, Nat.min_eq_left left, Nat.max_eq_right right]

theorem read_lt (data : ByteArray) (offset width : Nat) : read data offset width < 256 ^ width := by
  have bound := decode_lt (data.extract offset (offset + width)).data.toList
  have short : (data.extract offset (offset + width)).data.toList.length ≤ width := by
    show (data.extract offset (offset + width)).size ≤ width
    rw [ByteArray.size_extract]
    omega
  exact Nat.lt_of_lt_of_le bound (Nat.pow_le_pow_right (by decide) short)

theorem toNat_half (data : ByteArray) (offset : Nat) :
    (UInt16.ofNat (read data offset 2)).toNat = read data offset 2 :=
  UInt16.toNat_ofNat_of_lt' (read_lt data offset 2)

theorem toNat_word (data : ByteArray) (offset : Nat) :
    (UInt32.ofNat (read data offset 4)).toNat = read data offset 4 :=
  UInt32.toNat_ofNat_of_lt' (read_lt data offset 4)

theorem encode_read (inside : offset + width ≤ data.size) :
    encode width (read data offset width) = (data.extract offset (offset + width)).data.toList := by
  have length : (data.extract offset (offset + width)).data.toList.length = width := by
    show (data.extract offset (offset + width)).size = width
    rw [ByteArray.size_extract]
    omega
  have again := encode_decode (data.extract offset (offset + width)).data.toList
  rwa [length] at again

theorem read_extract {start stop : Nat} (inside : start + offset + width ≤ stop) :
    read (data.extract start stop) offset width = read data (start + offset) width := by
  unfold read
  rw [ByteArray.extract_extract, Nat.min_eq_left (by omega), Nat.add_assoc]

theorem readWithin_eq (inside : offset + width ≤ data.size) :
    readWithin data offset width = .ok (read data offset width) := by
  rw [readWithin, Checked.slice_eq (Nat.le_add_right _ _) inside]
  rfl

theorem readWithin_extract {stop : Nat} (long : stop ≤ data.size) (inside : offset + width ≤ stop) :
    readWithin (data.extract 0 stop) offset width = .ok (read data offset width) := by
  rw [readWithin_eq (by rw [ByteArray.size_extract]; omega), read_extract (by omega), Nat.zero_add]

theorem read_append_encode (before after : List UInt8) {value : Nat} (small : value < 256 ^ width) :
    read ⟨⟨before ++ (encode width value ++ after)⟩⟩ before.length width = value := by
  have cut : (ByteArray.extract ⟨⟨before ++ (encode width value ++ after)⟩⟩ before.length
      (before.length + width)).data.toList = encode width value := by
    rw [ByteArray.data_extract, Array.toList_extract, List.extract_eq_take_drop]
    simp
  rw [read, cut, decode_encode, Nat.mod_eq_of_lt small]

def encodeRecord (fields : List (Nat × Nat)) : List UInt8 :=
  fields.flatMap fun field => encode field.1 field.2

def readRecord (data : ByteArray) : (offset : Nat) → (widths : List Nat) → List (Nat × Nat)
  | _, [] => []
  | offset, width :: rest => (width, read data offset width) :: readRecord data (offset + width) rest

theorem readRecord_encodeRecord {fields : List (Nat × Nat)}
    (small : ∀ field ∈ fields, field.2 < 256 ^ field.1) (before after : List UInt8) :
    readRecord ⟨⟨before ++ (encodeRecord fields ++ after)⟩⟩ before.length (fields.map Prod.fst) =
      fields := by
  induction fields generalizing before with
  | nil => rfl
  | cons field rest ih =>
    obtain ⟨width, value⟩ := field
    have here := small (width, value) List.mem_cons_self
    have later := ih (fun field member => small field (List.mem_cons_of_mem _ member))
      (before ++ encode width value)
    simp only [encodeRecord, List.flatMap_cons, List.map_cons, readRecord, List.append_assoc,
      List.length_append, length_encode] at later ⊢
    rw [read_append_encode before _ here, later]

theorem encodeRecord_readRecord {widths : List Nat} (inside : offset + widths.sum ≤ data.size) :
    encodeRecord (readRecord data offset widths) =
      (data.extract offset (offset + widths.sum)).data.toList := by
  induction widths generalizing offset with
  | nil => simp [readRecord, encodeRecord]
  | cons width rest ih =>
    rw [List.sum_cons] at inside ⊢
    have later := @ih (offset + width) (by omega)
    simp only [encodeRecord] at later ⊢
    rw [readRecord, List.flatMap_cons, later, encode_read (by omega), ← Array.toList_append,
      ← ByteArray.data_append, extract_append data (by omega) (by omega), Nat.add_assoc]

end NpuStack.LittleEndian
