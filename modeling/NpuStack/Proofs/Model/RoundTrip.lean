import NpuStack.Proofs.Model.Image
import NpuStack.Proofs.Simulator.Fetch

/-! Images and files: an image is read from exactly the files that hold its header
and body, and it is written again as it stood there. -/

set_option autoImplicit false

namespace NpuStack.Model

section Instructions

variable {body : ByteArray}

/-- Instructions are read back from the bytes that store them, whatever stands around. -/
theorem readInstructions_image {code : List Instruction} {index : Nat}
    (assigned : ∀ inst ∈ code, inst.opcode.isUnassigned = false) (before after : List UInt8)
    (place : before.length = 8 * index) (read : Array Instruction) :
    readInstructions ⟨⟨before ++ (code.flatMap Instruction.toBytes ++ after)⟩⟩ code.length index read =
      .ok (read ++ code.toArray) := by
  induction code generalizing index before read with
  | nil => simp [readInstructions]
  | cons inst rest ih =>
    have here := assigned inst List.mem_cons_self
    have word : wordAt ⟨⟨before ++ (inst.toBytes ++ (rest.flatMap Instruction.toBytes ++ after))⟩⟩
        index = inst := by
      have stored : LittleEndian.read ⟨⟨before ++ (inst.toBytes ++ _)⟩⟩ before.length 8 = _ :=
        LittleEndian.read_append_encode before (rest.flatMap Instruction.toBytes ++ after)
          inst.word.toNat_lt
      rw [wordAt, ← place, stored, UInt64.ofNat_toNat]
    -- The word joins the bytes before, so that they still end at the index of the next one.
    have room : 8 * index + 8 ≤ ByteArray.size ⟨⟨before ++ (inst.toBytes ++
        (rest.flatMap Instruction.toBytes ++ after))⟩⟩ := by
      show _ ≤ (before ++ (inst.toBytes ++ _)).length
      rw [List.length_append, List.length_append, inst.length_toBytes, place]
      omega
    have later := @ih (index + 1) (fun inst member => assigned inst (List.mem_cons_of_mem _ member))
      (before ++ inst.toBytes)
      (by rw [List.length_append, inst.length_toBytes, place, Nat.mul_succ]) (read.push inst)
    rw [List.append_assoc] at later
    rw [List.flatMap_cons, List.append_assoc, List.length_cons, readInstructions_succ room, word,
      if_neg (Bool.eq_false_iff.mp here), later]
    simp

theorem assigned_of_readInstructions {count index : Nat} {read result : Array Instruction}
    (ok : readInstructions body count index read = .ok result) (room : 8 * (index + count) ≤ body.size)
    (assigned : ∀ inst ∈ read, inst.opcode.isUnassigned = false) :
    ∀ inst ∈ result, inst.opcode.isUnassigned = false := by
  induction count generalizing index read with
  | zero =>
    cases ok
    exact assigned
  | succ count ih =>
    rw [readInstructions_succ (by omega)] at ok
    split at ok
    case isTrue => cases ok
    case isFalse known =>
      apply ih ok (by omega)
      intro inst member
      obtain member | rfl := Array.mem_push.mp member
      · exact assigned inst member
      · exact eq_false_of_ne_true known

end Instructions

/-- An image that may stand for a body: the sections are the body and every promise of the header
about it is kept. -/
structure Image.Accepted (body : ByteArray) (image : Image) : Prop extends Image.Sections body image where
  version : image.header.version ≤ newestVersion
  sum : image.header.checksum = 0 ∨ checksum body = image.header.checksum
  assigned : ∀ inst ∈ image.program.instructions, inst.opcode.isUnassigned = false
  bound : image.program = .exact image.program.instructions

variable {data body : ByteArray} {image : Image}

theorem Image.Sections.size (sections : Image.Sections body image) :
    body.size = image.header.bodyBytes := by
  have code := Program.size_imageOf image.program.instructions
  rw [← sections.whole, ByteArray.size_append, ByteArray.size_append, Program.toBytes, code,
    sections.instructions, sections.weights, sections.bias, Header.bodyBytes, Nat.add_assoc]

/-- A body is cut back into the sections it was put together from. -/
theorem Image.cut_of_accepted (accepted : Image.Accepted body image) :
    Image.cut image.header body = .ok image := by
  have code : image.program.toBytes.size = image.header.instCount.toNat * 8 := by
    rw [← accepted.instructions]
    exact Program.size_imageOf _
  have read : readInstructions body image.header.instCount.toNat 0 #[] =
      .ok image.program.instructions := by
    have stored : body = ⟨⟨[] ++ (image.program.instructions.toList.flatMap Instruction.toBytes ++
        (image.weights ++ image.bias).data.toList)⟩⟩ := by
      rw [← accepted.whole]
      apply ByteArray.ext
      apply Array.ext'
      simp [Program.toBytes, Program.imageOf]
    rw [stored, ← accepted.instructions, ← Array.length_toList,
      readInstructions_image (fun inst member => accepted.assigned inst (Array.mem_toList_iff.mp member))
        [] _ rfl]
    simp
  have weights : body.extract (image.header.instCount.toNat * 8)
      (image.header.instCount.toNat * 8 + image.header.weightBytes.toNat) = image.weights := by
    rw [← accepted.whole, ← code, ← accepted.weights]
    exact (ByteArray.extract_append_size_add (i := 0)).trans (ByteArray.extract_append_eq_left rfl)
  have bias : body.extract (image.header.instCount.toNat * 8 + image.header.weightBytes.toNat)
      body.size = image.bias := by
    rw [← accepted.whole, ← code, ← accepted.weights, ← ByteArray.append_assoc,
      ByteArray.extract_append_eq_right] <;> simp
  have program := accepted.bound
  rw [Image.cut_eq accepted.toSections.size, read]
  simp only [bind, Except.bind, pure, Except.pure, weights, bias, ← program]

/-- An image is read from a file exactly if the file has its header and its body. -/
theorem Image.parse_eq_ok : Image.parse data = .ok image ↔
    Header.parse data = .ok image.header ∧ headerBytes + image.header.bodyBytes ≤ data.size ∧
    Image.Accepted (data.extract headerBytes (headerBytes + image.header.bodyBytes)) image := by
  rw [Image.parse_eq_ok_cut]
  constructor
  · rintro ⟨header, read, long, sum, ok⟩
    have ⟨room, version, _⟩ := Header.parse_eq_ok.mp read
    obtain ⟨rfl, sections⟩ := Image.sections_of_cut ok (size_body long)
    rw [Image.cut_eq (size_body long)] at ok
    obtain ⟨instructions, listed, same⟩ := bind_eq_ok.mp ok
    have program : .exact instructions = image.program := congrArg Image.program (Except.ok.inj same)
    refine ⟨read, by omega, sections, version, sum, ?_, ?_⟩
    · rw [← program]
      refine assigned_of_readInstructions listed ?_ nofun
      rw [size_body long, Nat.zero_add, Nat.mul_comm]
      exact image.header.code_le
    · rw [← program]
      rfl
  · rintro ⟨read, long, accepted⟩
    exact ⟨image.header, read, by omega, accepted.sum, Image.cut_of_accepted accepted⟩

/-- An image is read back from its header and body, whatever follows them. -/
theorem Image.parse_of_accepted (accepted : Image.Accepted body image) (extra : ByteArray) :
    Image.parse (image.header.toBytes ++ body ++ extra) = .ok image := by
  have size := accepted.toSections.size
  have found : (image.header.toBytes ++ body ++ extra).extract headerBytes
      (headerBytes + image.header.bodyBytes) = body := by
    rw [ByteArray.append_assoc, ← size, ← image.header.size_toBytes]
    exact (ByteArray.extract_append_size_add (i := 0)).trans (ByteArray.extract_append_eq_left rfl)
  rw [Image.parse_eq_ok, found]
  refine ⟨?_, ?_, accepted⟩
  · rw [ByteArray.append_assoc]
    exact image.header.parse_toBytes_append accepted.version _
  · simp [size]

section Reencoding

theorem Image.toBytes_eq (image : Image) : image.toBytes =
    image.header.toBytes ++ (image.program.toBytes ++ (image.weights ++ image.bias)) := by
  simp [Image.toBytes, ByteArray.append_assoc]

def reencode (data : ByteArray) : Attempt Fault ByteArray := do
  let image ← Image.parse data
  return image.toBytes

/-- What was read is written as it stood, without the bytes after the body and with the reserved
bytes cleared; reading that again changes nothing. -/
theorem Image.parse_reencoded (ok : Image.parse data = .ok image) :
    64 + image.header.bodyBytes ≤ data.size ∧
    image.toBytes = data.extract 0 36 ++ ⟨⟨List.replicate 28 0⟩⟩ ++
      data.extract 64 (64 + image.header.bodyBytes) ∧
    Image.parse image.toBytes = .ok image ∧
    reencode data = .ok image.toBytes ∧ reencode image.toBytes = .ok image.toBytes := by
  obtain ⟨read, long, accepted⟩ := Image.parse_eq_ok.mp ok
  have bytes : image.toBytes = image.header.toBytes ++
      data.extract headerBytes (headerBytes + image.header.bodyBytes) := by
    rw [Image.toBytes_eq, accepted.whole]
  have again : Image.parse image.toBytes = .ok image := by
    have whole := Image.parse_of_accepted accepted ByteArray.empty
    rwa [ByteArray.append_empty, ← bytes] at whole
  refine ⟨long, ?_, again, ?_, ?_⟩
  · rw [bytes, Header.toBytes_of_parse read]
    rfl
  · rw [reencode, ok]
    rfl
  · rw [reencode, again]
    rfl

/-- A checked model with reserved bytes in use and two bytes after its body. -/
def strayFile : ByteArray := ⟨⟨[0x45, 0x55, 0x50, 0x4E, 0x00, 0x01, 0x01, 0x00, 0x02, 0x00, 0x00, 0x00,
  0x01, 0x00, 0x00, 0x00, 0x40, 0x00, 0x00, 0x00, 0x10, 0x00, 0x00, 0x00, 0x00, 0x00, 0x00, 0x00,
  0x0E, 0x00, 0x00, 0x00, 0x01, 0x00, 0x00, 0x00] ++ List.replicate 28 0xAA ++
  [0x00, 0x00, 0x00, 0x00, 0x00, 0x00, 0x01, 0x01, 0x01, 0x02, 0x09, 0xBB, 0xCC]⟩⟩

def strayImage : Image where
  header := {
    layerCount := 1
    weightBytes := 2
    instCount := 1
    inputBytes := 64
    outputBytes := 16
    checksum := 14
    biasBytes := 1 }
  program := .exact #[.halt]
  weights := ⟨#[1, 2]⟩
  bias := ⟨#[9]⟩

theorem strayFile_reencoded : Image.parse strayFile = .ok strayImage ∧
    strayImage.toBytes = strayFile.extract 0 36 ++ ⟨⟨List.replicate 28 0⟩⟩ ++ strayFile.extract 64 75 ∧
    Image.parse strayImage.toBytes = .ok strayImage ∧
    reencode strayFile = .ok strayImage.toBytes ∧
    reencode strayImage.toBytes = .ok strayImage.toBytes := by
  have ok : Image.parse strayFile = .ok strayImage := rfl
  exact ⟨ok, (Image.parse_reencoded ok).2⟩

end Reencoding

end NpuStack.Model
