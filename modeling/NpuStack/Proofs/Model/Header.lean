import NpuStack.Model.Header
import NpuStack.Proofs.LittleEndian

/-! Headers as records of little-endian fields: an accepted header is read back
from its bytes, and it is written as it stood in the file. -/

set_option autoImplicit false

namespace NpuStack

namespace Model.Header

open LittleEndian

variable {data : ByteArray} {header : Header}

def bodyBytes (header : Header) : Nat :=
  header.instCount.toNat * 8 + header.weightBytes.toNat + header.biasBytes.toNat

/-- No header declares more than a machine word can hold. -/
theorem toNat_length {size : Nat} (small : size ≤ header.bodyBytes) :
    (UInt64.ofNat size).toNat = size := by
  have count := header.instCount.toNat_lt
  have weights := header.weightBytes.toNat_lt
  have bias := header.biasBytes.toNat_lt
  unfold bodyBytes at small
  exact UInt64.toNat_ofNat_of_lt' (show _ < 2 ^ 64 by omega)

theorem payload_le (header : Header) :
    header.instCount.toNat * 8 + header.weightBytes.toNat ≤ header.bodyBytes :=
  Nat.le_add_right _ _

theorem code_le (header : Header) : header.instCount.toNat * 8 ≤ header.bodyBytes :=
  Nat.le_trans (Nat.le_add_right _ _) header.payload_le

theorem code_eq (header : Header) :
    Checked.mul64 header.instCount.toUInt64 8 = .ok (.ofNat (header.instCount.toNat * 8)) := by
  rw [Checked.mul64_eq_ok, toNat_length header.code_le]
  rfl

theorem payload_eq (header : Header) :
    Checked.add64 (.ofNat (header.instCount.toNat * 8)) header.weightBytes.toUInt64 =
      .ok (.ofNat (header.instCount.toNat * 8 + header.weightBytes.toNat)) := by
  rw [Checked.add64_eq_ok, toNat_length header.code_le, toNat_length header.payload_le]
  rfl

theorem bodyLength_eq (header : Header) : header.bodyLength = .ok (.ofNat header.bodyBytes) := by
  have last : Checked.add64 (.ofNat (header.instCount.toNat * 8 + header.weightBytes.toNat))
      header.biasBytes.toUInt64 = .ok (.ofNat header.bodyBytes) := by
    rw [Checked.add64_eq_ok, toNat_length header.payload_le, toNat_length (Nat.le_refl _)]
    rfl
  rw [bodyLength, header.code_eq]
  show Checked.add64 (.ofNat (header.instCount.toNat * 8)) _ >>= _ = _
  rw [header.payload_eq]
  exact last

def widths : List Nat := [4, 2, 2, 4, 4, 4, 4, 4, 4, 4]

def fields (header : Header) : List (Nat × Nat) :=
  widths.zip [magic.toNat, header.version.toNat, header.layerCount.toNat, header.weightBytes.toNat,
    header.instCount.toNat, header.inputBytes.toNat, header.outputBytes.toNat,
    header.workspaceBytes.toNat, header.checksum.toNat, header.biasBytes.toNat]

theorem fields_small (header : Header) : ∀ field ∈ header.fields, field.2 < 256 ^ field.1 := by
  simp only [fields, widths, List.zip_cons_cons, List.zip_nil_right, List.forall_mem_cons]
  exact ⟨magic.toNat_lt, header.version.toNat_lt, header.layerCount.toNat_lt,
    header.weightBytes.toNat_lt, header.instCount.toNat_lt, header.inputBytes.toNat_lt,
    header.outputBytes.toNat_lt, header.workspaceBytes.toNat_lt, header.checksum.toNat_lt,
    header.biasBytes.toNat_lt, nofun⟩

theorem toBytes_eq (header : Header) :
    header.toBytes = ⟨⟨encodeRecord header.fields ++ List.replicate 28 0⟩⟩ := by
  simp only [toBytes, encodeRecord, fields, widths, List.zip_cons_cons, List.zip_nil_right,
    List.flatMap_cons, List.flatMap_nil, List.append_nil, List.append_assoc]

@[simp] theorem size_toBytes (header : Header) : header.toBytes.size = headerBytes := by
  simp only [toBytes, ByteArray.size, List.size_toArray, List.length_append, length_encode,
    List.length_replicate]
  rfl

/-- The header whose fields stand in a file, right or wrong. -/
def declared (data : ByteArray) : Header where
  version := .ofNat (read data 4 2)
  layerCount := .ofNat (read data 6 2)
  weightBytes := .ofNat (read data 8 4)
  instCount := .ofNat (read data 12 4)
  inputBytes := .ofNat (read data 16 4)
  outputBytes := .ofNat (read data 20 4)
  workspaceBytes := .ofNat (read data 24 4)
  checksum := .ofNat (read data 28 4)
  biasBytes := .ofNat (read data 32 4)

/-- No field is read from behind the end: after the first check every slice lies in the header. -/
theorem parse_eq (data : ByteArray) : parse data =
    if data.size < headerBytes then .error (.error (.shortHeader data.size))
    else if UInt32.ofNat (read data 0 4) ≠ magic then
      .error (.error (.badMagic (.ofNat (read data 0 4))))
    else if newestVersion < (declared data).version then
      .error (.error (.newerVersion (declared data).version))
    else .ok (declared data) := by
  unfold parse
  by_cases short : data.size < headerBytes
  · rw [if_pos short, if_pos short]
    rfl
  · have long : headerBytes ≤ data.size := Nat.le_of_not_lt short
    rw [if_neg short, if_neg short]
    simp (disch := decide) only [Checked.slice_eq (Nat.zero_le _) long, readWithin_extract long,
      liftM_ok_bind]
    rfl

theorem readRecord_eq_fields : readRecord data 0 widths = header.fields ↔
    UInt32.ofNat (read data 0 4) = magic ∧ declared data = header := by
  simp only [readRecord, fields, widths, List.zip_cons_cons, List.zip_nil_right, List.cons.injEq,
    Prod.mk.injEq, true_and, and_true, Nat.zero_add, Nat.reduceAdd]
  constructor
  · rintro ⟨marked, version, layers, weights, count, input, output, workspace, sum, bias⟩
    simp only [declared, marked, version, layers, weights, count, input, output, workspace, sum, bias,
      UInt16.ofNat_toNat, UInt32.ofNat_toNat, and_self]
  · rintro ⟨marked, rfl⟩
    simp only [declared, ← marked, toNat_half, toNat_word, and_self]

/-- A header is accepted if there is room for it, it is not too new and its fields are those of the
file. -/
theorem parse_eq_ok : parse data = .ok header ↔
    headerBytes ≤ data.size ∧ header.version ≤ newestVersion ∧
      readRecord data 0 widths = header.fields := by
  rw [readRecord_eq_fields, parse_eq]
  split
  case isTrue short => simp [short]
  case isFalse long =>
    split
    case isTrue unmarked => simp [unmarked]
    case isFalse marked =>
      split
      case isTrue newer =>
        refine ⟨nofun, ?_⟩
        rintro ⟨_, old, _, rfl⟩
        exact absurd newer (UInt16.not_lt.mpr old)
      case isFalse old =>
        constructor
        · intro ok
          cases ok
          exact ⟨Nat.le_of_not_lt long, UInt16.not_lt.mp old, not_not.mp marked, rfl⟩
        · rintro ⟨_, _, _, rfl⟩
          rfl

theorem eq_declared (ok : parse data = .ok header) : header = declared data :=
  (readRecord_eq_fields.mp (parse_eq_ok.mp ok).2.2).2.symm

/-- A header is read back from in front of any bytes. -/
theorem parse_toBytes_append (header : Header) (old : header.version ≤ newestVersion)
    (rest : ByteArray) : parse (header.toBytes ++ rest) = .ok header := by
  refine parse_eq_ok.mpr ⟨?_, old, ?_⟩
  · rw [ByteArray.size_append, size_toBytes]
    omega
  · have whole : header.toBytes ++ rest =
        ⟨⟨[] ++ (encodeRecord header.fields ++ (List.replicate 28 0 ++ rest.data.toList))⟩⟩ := by
      rw [toBytes_eq]
      apply ByteArray.ext
      apply Array.ext'
      simp
    rw [whole]
    exact readRecord_encodeRecord header.fields_small [] _

/-- An accepted header is the bytes it was read from, up to the reserved ones. -/
theorem toBytes_of_parse (ok : parse data = .ok header) :
    header.toBytes = data.extract 0 36 ++ ⟨⟨List.replicate 28 0⟩⟩ := by
  obtain ⟨long, _, record⟩ := parse_eq_ok.mp ok
  have inside : 0 + widths.sum ≤ data.size := Nat.le_trans (by decide) long
  have bytes := encodeRecord_readRecord inside
  rw [record] at bytes
  rw [toBytes_eq, bytes]
  apply ByteArray.ext
  apply Array.ext'
  simp [widths]

end Model.Header

namespace Model

/-- The number that a checksum is the low word of. -/
def byteSum (bytes : ByteArray) : Nat := (bytes.data.toList.map UInt8.toNat).sum

theorem checksum_eq (body : ByteArray) : checksum body = .ofNat (byteSum body) := by
  have step (bytes : List UInt8) (sum : Nat) :
      bytes.foldl (fun sum byte => sum + byte.toUInt32) (UInt32.ofNat sum) =
        .ofNat (sum + (bytes.map UInt8.toNat).sum) := by
    induction bytes generalizing sum with
    | nil => simp
    | cons byte rest ih =>
      rw [List.foldl_cons, List.map_cons, List.sum_cons, ← Nat.add_assoc, ← ih, UInt32.ofNat_add,
        UInt32.ofNat_uInt8ToNat]
  rw [checksum, ← Array.foldl_toList, byteSum]
  exact (step _ 0).trans (congrArg UInt32.ofNat (Nat.zero_add _))

end Model

end NpuStack
