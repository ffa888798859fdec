import NpuStack.Model.Image
import NpuStack.Proofs.Model.Header

/-! Sections of a model file: they have the sizes that the header gives, and
end to end they are the body of the file. -/

set_option autoImplicit false

namespace NpuStack

/-- A word is stored as the bytes it was read from. -/
theorem Instruction.toBytes_read {body : ByteArray} {offset : Nat} (inside : offset + 8 ≤ body.size) :
    toBytes ⟨.ofNat (LittleEndian.read body offset 8)⟩ =
      (body.extract offset (offset + 8)).data.toList := by
  unfold toBytes
  rw [UInt64.toNat_ofNat_of_lt' (LittleEndian.read_lt body offset 8)]
  exact LittleEndian.encode_read inside

namespace Model

variable {data body : ByteArray} {image : Image}

theorem size_body {size : Nat} (long : size ≤ data.size - headerBytes) :
    (data.extract headerBytes (headerBytes + size)).size = size := by
  rw [ByteArray.size_extract]
  omega

def wordAt (body : ByteArray) (index : Nat) : Instruction := ⟨.ofNat (LittleEndian.read body (8 * index) 8)⟩

theorem readInstructions_succ {count index : Nat} (room : 8 * index + 8 ≤ body.size)
    (read : Array Instruction) : readInstructions body (count + 1) index read =
      if (wordAt body index).opcode.isUnassigned then
        .error (.error (.unassignedOpcode (wordAt body index).opcodeByte index))
      else readInstructions body count (index + 1) (read.push (wordAt body index)) := by
  rw [readInstructions, LittleEndian.readWithin_eq room, liftM_ok_bind]
  rfl

/-- No instruction is read from behind the last one. -/
theorem readInstructions_extract {count index stop : Nat} (room : 8 * (index + count) ≤ stop)
    (inside : stop ≤ body.size) (read : Array Instruction) :
    readInstructions (body.extract 0 stop) count index read = readInstructions body count index read := by
  induction count generalizing index read with
  | zero => rfl
  | succ count ih =>
    have same : wordAt (body.extract 0 stop) index = wordAt body index := by
      rw [wordAt, wordAt, LittleEndian.read_extract (by omega), Nat.zero_add]
    rw [readInstructions_succ (by rw [ByteArray.size_extract]; omega),
      readInstructions_succ (by omega), same, @ih (index + 1) (by omega)]

/-- Reading appends the instructions of a stretch of the body, byte for byte. -/
theorem readInstructions_eq_ok {count index : Nat} {read result : Array Instruction}
    (ok : readInstructions body count index read = .ok result) (room : 8 * (index + count) ≤ body.size) :
    result.size = read.size + count ∧
    Program.imageOf result = Program.imageOf read ++ body.extract (8 * index) (8 * (index + count)) := by
  induction count generalizing index read with
  | zero =>
    cases ok
    exact ⟨rfl, by simp⟩
  | succ count ih =>
    rw [readInstructions_succ (by omega)] at ok
    split at ok
    · cases ok
    · -- The word that was pushed stands for the eight bytes before the stretch of the rest.
      obtain ⟨size, stored⟩ := ih ok (by omega)
      refine ⟨by simpa [Nat.add_assoc, Nat.add_comm 1] using size, ?_⟩
      have pushed (inst : Instruction) :
          Program.imageOf (read.push inst) = Program.imageOf read ++ ⟨⟨inst.toBytes⟩⟩ := by
        apply ByteArray.ext
        apply Array.ext'
        simp [Program.imageOf]
      have first : (wordAt body index).toBytes = _ := Instruction.toBytes_read (by omega)
      have joined : body.extract (8 * index) (8 * index + 8) ++
          body.extract (8 * (index + 1)) (8 * (index + 1 + count)) =
          body.extract (8 * index) (8 * (index + (count + 1))) := by
        rw [Nat.mul_succ, LittleEndian.extract_append body (Nat.le_add_right _ 8) (by omega)]
        congr 1
        omega
      rw [stored, pushed, first, ByteArray.append_assoc, ← joined]

/-- A body of the declared size is cut inside of its bounds. -/
theorem Image.cut_eq {header : Header} (size : body.size = header.bodyBytes) :
    Image.cut header body = do
      let instructions ← readInstructions body header.instCount.toNat 0 #[]
      let weightStart := header.instCount.toNat * 8
      let weightStop := weightStart + header.weightBytes.toNat
      return {
        header
        program := .exact instructions
        weights := body.extract weightStart weightStop
        bias := body.extract weightStop body.size } := by
  have code := header.code_le
  have payload := header.payload_le
  rw [Image.cut, header.code_eq, liftM_ok_bind, header.payload_eq, liftM_ok_bind,
    Header.toNat_length code, Header.toNat_length payload, Checked.slice_eq (Nat.zero_le _) (by omega),
    liftM_ok_bind, readInstructions_extract (by omega) (by omega),
    Checked.slice_eq (Nat.le_add_right _ _) (by omega), Checked.slice_eq (by omega) (Nat.le_refl _)]
  rfl

/-- A file is read as one chain of checks, each with its fault. -/
theorem Image.parse_eq (data : ByteArray) : Image.parse data = Header.parse data >>= fun header =>
    let body := data.extract headerBytes (headerBytes + header.bodyBytes)
    if data.size - headerBytes < header.bodyBytes then
      .error (.error (.truncated header.bodyBytes (data.size - headerBytes)))
    else if header.checksum ≠ 0 ∧ checksum body ≠ header.checksum then
      .error (.error (.checksumMismatch (checksum body) header.checksum))
    else Image.cut header body := by
  unfold Image.parse
  cases read : Header.parse data with
  | error fault => rfl
  | ok header =>
    have ⟨long, _, _⟩ := Header.parse_eq_ok.mp read
    have present : Checked.subSize data.size headerBytes = .ok (data.size - headerBytes) := if_pos long
    show (liftM (Checked.subSize data.size headerBytes) >>= _ : Attempt Fault Image) = ite _ _ _
    rw [present, liftM_ok_bind, header.bodyLength_eq, liftM_ok_bind,
      Header.toNat_length (Nat.le_refl _)]
    by_cases short : data.size - headerBytes < header.bodyBytes
    · rw [if_pos short, if_pos short]
      rfl
    · rw [if_neg short, if_neg short, Checked.slice_eq (Nat.le_add_right _ _) (by omega), liftM_ok_bind]
      rfl

theorem Image.parse_eq_ok_cut : Image.parse data = .ok image ↔ ∃ header : Header,
    Header.parse data = .ok header ∧ header.bodyBytes ≤ data.size - headerBytes ∧
    (header.checksum = 0 ∨
      checksum (data.extract headerBytes (headerBytes + header.bodyBytes)) = header.checksum) ∧
    Image.cut header (data.extract headerBytes (headerBytes + header.bodyBytes)) = .ok image := by
  rw [Image.parse_eq, bind_eq_ok]
  refine exists_congr fun header => and_congr_right fun _ => ?_
  dsimp only
  rw [← not_lt, or_iff_not_imp_left]
  split
  case isTrue short => simp [short]
  case isFalse long =>
    split
    case isTrue mismatch => simp [mismatch]
    case isFalse agree =>
      have agree' := not_and_not_right.mp agree
      exact ⟨fun ok => ⟨long, agree', ok⟩, fun ok => ok.2.2⟩

/-- The sections of a body, which is nothing but them. -/
structure Image.Sections (body : ByteArray) (image : Image) : Prop where
  instructions : image.program.instructions.size = image.header.instCount.toNat
  weights : image.weights.size = image.header.weightBytes.toNat
  bias : image.bias.size = image.header.biasBytes.toNat
  whole : image.program.toBytes ++ (image.weights ++ image.bias) = body

theorem Image.sections_of_cut {header : Header} (ok : Image.cut header body = .ok image)
    (size : body.size = header.bodyBytes) : image.header = header ∧ Image.Sections body image := by
  rw [Image.cut_eq size] at ok
  obtain ⟨instructions, read, same⟩ := bind_eq_ok.mp ok
  cases same
  unfold Header.bodyBytes at size
  obtain ⟨count, stored⟩ := readInstructions_eq_ok read (by omega)
  refine ⟨rfl, ?_, ?_, ?_, ?_⟩ <;> dsimp only
  · exact count.trans (Nat.zero_add _)
  · rw [ByteArray.size_extract]
    omega
  · rw [ByteArray.size_extract]
    omega
  · have code : Program.imageOf instructions = body.extract 0 (header.instCount.toNat * 8) := by
      rw [stored, Nat.zero_add, Nat.mul_comm 8 header.instCount.toNat]
      exact ByteArray.empty_append
    have rest := LittleEndian.extract_append body (Nat.le_add_right (header.instCount.toNat * 8)
      header.weightBytes.toNat) (show _ ≤ body.size by omega)
    have all := LittleEndian.extract_append body (Nat.zero_le (header.instCount.toNat * 8))
      (show _ ≤ body.size by omega)
    show Program.imageOf instructions ++ _ = _
    rw [code, rest, all, ByteArray.extract_zero_size]

theorem Image.sections_of_parse (ok : Image.parse data = .ok image) :
    Image.Sections (data.extract headerBytes (headerBytes + image.header.bodyBytes)) image := by
  obtain ⟨header, _, long, _, ok⟩ := Image.parse_eq_ok_cut.mp ok
  obtain ⟨same, sections⟩ := Image.sections_of_cut ok (size_body long)
  rw [same]
  exact sections

end Model

end NpuStack
