import NpuStack.Host.Error
import NpuStack.Proofs.Model.RoundTrip

/-! The grammar of model files as a list of checks in order: a file is accepted if
all of them hold, and otherwise the first that fails names the fault. -/

set_option autoImplicit false

namespace NpuStack.Model

open LittleEndian

section Checks

def declaredCount (data : ByteArray) : Nat := read data 12 4

/-- The size of the body that the header of a file gives, exact however large its fields are. -/
def declaredBytes (data : ByteArray) : Nat := 8 * declaredCount data + read data 8 4 + read data 32 4

def declaredBody (data : ByteArray) : ByteArray := data.extract 64 (64 + declaredBytes data)

def opcodeAt (data : ByteArray) (index : Nat) : UInt8 := data.data.getD (64 + 8 * index + 7) 0

def IsUnassigned (data : ByteArray) (index : Nat) : Prop :=
  (Opcode.ofByte (opcodeAt data index)).isUnassigned = true

instance (data : ByteArray) (index : Nat) : Decidable (IsUnassigned data index) :=
  inferInstanceAs (Decidable (_ = _))

/-- What a file must satisfy, in the order in which it is looked at. -/
inductive Check where
  | header
  | magic
  | version
  | length
  | checksum
  | opcodes
  deriving DecidableEq, Repr

namespace Check

def order : List Check := [.header, .magic, .version, .length, .checksum, .opcodes]

def Accepts (data : ByteArray) : Check → Prop
  | .header => 64 ≤ data.size
  | .magic => read data 0 4 = 0x4E505545
  | .version => read data 4 2 ≤ 0x0100
  | .length => declaredBytes data ≤ data.size - 64
  | .checksum => read data 28 4 = 0 ∨ byteSum (declaredBody data) % 2 ^ 32 = read data 28 4
  | .opcodes => ∀ index < declaredCount data, ¬IsUnassigned data index

instance (data : ByteArray) : (check : Check) → Decidable (check.Accepts data)
  | .header => inferInstanceAs (Decidable (_ ≤ _))
  | .magic => inferInstanceAs (Decidable (_ = _))
  | .version => inferInstanceAs (Decidable (_ ≤ _))
  | .length => inferInstanceAs (Decidable (_ ≤ _))
  | .checksum => inferInstanceAs (Decidable (_ ∨ _))
  | .opcodes => inferInstanceAs (Decidable (∀ index < _, ¬IsUnassigned data index))

def firstFailed? (data : ByteArray) : Option Check := order.find? fun check => ¬check.Accepts data

def Reports (data : ByteArray) : Check → Fault → Prop
  | .header, fault => fault = .shortHeader data.size
  | .magic, fault => fault = .badMagic (.ofNat (read data 0 4))
  | .version, fault => fault = .newerVersion (.ofNat (read data 4 2))
  | .length, fault => fault = .truncated (declaredBytes data) (data.size - 64)
  | .checksum, fault =>
    fault = .checksumMismatch (.ofNat (byteSum (declaredBody data))) (.ofNat (read data 28 4))
  | .opcodes, fault => ∃ index < declaredCount data, IsUnassigned data index ∧
    (∀ earlier < index, ¬IsUnassigned data earlier) ∧
    fault = .unassignedOpcode (opcodeAt data index) index

def hostError : Check → String → HostError
  | .opcodes => .invalidOp
  | _ => .invalidModel

/-- The results that checks in a row decide: there is an image if all hold, and otherwise the first
that fails reports its fault. -/
inductive Decide (data : ByteArray) : List Check → Attempt Fault Image → Prop where
  | accepted (image : Image) : Decide data [] (.ok image)
  | refused {check : Check} {checks : List Check} {fault : Fault} (fails : ¬check.Accepts data)
      (reported : check.Reports data fault) : Decide data (check :: checks) (.error (.error fault))
  | passed {check : Check} {checks : List Check} {result : Attempt Fault Image}
      (holds : check.Accepts data) (later : Decide data checks result) :
      Decide data (check :: checks) result

theorem Decide.passes {data : ByteArray} {checks : List Check} {image : Image}
    (decided : Decide data checks (.ok image)) : ∀ check ∈ checks, check.Accepts data := by
  generalize result : Except.ok image = answer at decided
  induction decided with
  | accepted => nofun
  | refused => cases result
  | passed holds _ ih => exact List.forall_mem_cons.mpr ⟨holds, ih result⟩

theorem Decide.failed {data : ByteArray} {checks : List Check} {failure : Failure Fault}
    (decided : Decide data checks (.error failure)) : ∃ check fault, failure = .error fault ∧
      (checks.find? fun check => ¬check.Accepts data) = some check ∧ check.Reports data fault := by
  generalize result : Except.error failure = answer at decided
  induction decided with
  | accepted => cases result
  | refused fails reported =>
    cases result
    exact ⟨_, _, rfl, List.find?_cons_of_pos (by simpa using fails), reported⟩
  | passed holds _ ih =>
    rw [List.find?_cons_of_neg (by simpa using holds)]
    exact ih result

theorem Decide.cons {data : ByteArray} {check : Check} {checks : List Check} {fault : Fault}
    {next : Attempt Fault Image} (reported : check.Reports data fault)
    (later : check.Accepts data → Decide data checks next) :
    Decide data (check :: checks) (if ¬check.Accepts data then .error (.error fault) else next) := by
  split
  case isTrue fails => exact .refused fails reported
  case isFalse holds => exact .passed (not_not.mp holds) (later (not_not.mp holds))

theorem mem_order (check : Check) : check ∈ order := by cases check <;> decide

theorem firstFailed?_eq_none {data : ByteArray} :
    firstFailed? data = none ↔ ∀ check : Check, check.Accepts data := by
  rw [firstFailed?, List.find?_eq_none]
  constructor
  · intro none check
    simpa using none check check.mem_order
  · intro all check _
    simpa using all check

/-- A check has one fault to report. -/
theorem Reports.unique {data : ByteArray} {check : Check} {fault other : Fault}
    (reported : check.Reports data fault) (again : check.Reports data other) : fault = other := by
  cases check with
  | opcodes =>
    obtain ⟨index, _, offends, least, rfl⟩ := reported
    obtain ⟨index', _, offends', least', rfl⟩ := again
    have same : index = index' := by
      apply Nat.le_antisymm
      · exact Nat.le_of_not_lt fun lt => least index' lt offends'
      · exact Nat.le_of_not_lt fun lt => least' index lt offends
    rw [same]
  | _ => exact reported.trans again.symm

theorem Reports.hostError {data : ByteArray} {check : Check} {fault : Fault}
    (reported : check.Reports data fault) :
    HostError.ofModelFault fault = check.hostError fault.message := by
  cases check with
  | opcodes =>
    obtain ⟨index, _, _, _, rfl⟩ := reported
    rfl
  | _ => rw [reported]; rfl

end Check

end Checks

section Opcodes

variable {data body : ByteArray} {count index offender : Nat}

theorem readInstructions_of_assigned (read : Array Instruction) (room : 8 * (index + count) ≤ body.size)
    (assigned : ∀ next < count, (wordAt body (index + next)).opcode.isUnassigned = false) :
    ∃ result, readInstructions body count index read = .ok result := by
  induction count generalizing index read with
  | zero => exact ⟨read, rfl⟩
  | succ count ih =>
    have here : (wordAt body index).opcode.isUnassigned = false := assigned 0 (Nat.succ_pos count)
    obtain ⟨result, ok⟩ := @ih (index + 1) (read.push (wordAt body index)) (by omega) fun next small => by
      rw [Nat.add_assoc, Nat.add_comm 1]
      exact assigned (next + 1) (Nat.succ_lt_succ small)
    exact ⟨result, by rw [readInstructions_succ (by omega), if_neg (Bool.eq_false_iff.mp here), ok]⟩

/-- Reading stops at the first word that is no operation. -/
theorem readInstructions_of_offender (read : Array Instruction) (room : 8 * (index + count) ≤ body.size)
    (inside : offender < count)
    (offends : (wordAt body (index + offender)).opcode.isUnassigned = true)
    (least : ∀ earlier < offender, (wordAt body (index + earlier)).opcode.isUnassigned = false) :
    readInstructions body count index read =
      .error (.error (.unassignedOpcode (wordAt body (index + offender)).opcodeByte
        (index + offender))) := by
  induction count generalizing index read offender with
  | zero => cases inside
  | succ count ih =>
    cases offender with
    | zero =>
      rw [readInstructions_succ (by omega)]
      exact if_pos offends
    | succ offender =>
      have here : (wordAt body index).opcode.isUnassigned = false := least 0 (Nat.succ_pos offender)
      have shift (next : Nat) : index + 1 + next = index + (next + 1) := by omega
      rw [← shift] at offends ⊢
      have later := @ih (index + 1) offender (read.push (wordAt body index))
        (by omega) (Nat.lt_of_succ_lt_succ inside) offends fun earlier small => by
          rw [shift]
          exact least (earlier + 1) (Nat.succ_lt_succ small)
      rw [readInstructions_succ (by omega), if_neg (Bool.eq_false_iff.mp here), later]

theorem opcodeByte_wordAt (inside : 8 * index + 8 ≤ body.size) :
    (wordAt body index).opcodeByte = body.data.getD (8 * index + 7) 0 := by
  have opcode := (wordAt body index).toBytes_opcode
  have bytes : (wordAt body index).toBytes = _ := Instruction.toBytes_read inside
  rw [bytes, Array.getElem?_toList, ByteArray.data_extract, Array.getElem?_extract,
    if_pos (by rw [ByteArray.size_data]; omega)] at opcode
  rw [Array.getD_eq_getD_getElem?, opcode, Option.getD_some]

end Opcodes

section Parsing

variable {data : ByteArray}

theorem word_eq_iff {number offset : Nat} :
    UInt32.ofNat number = .ofNat (read data offset 4) ↔ number % 2 ^ 32 = read data offset 4 := by
  rw [← UInt32.toNat_inj, toNat_word, UInt32.toNat_ofNat']

theorem Header.bodyBytes_declared (data : ByteArray) : (declared data).bodyBytes = declaredBytes data := by
  unfold bodyBytes declared declaredBytes declaredCount
  simp only [toNat_word]
  rw [Nat.mul_comm]

theorem Header.parse_declared (data : ByteArray) : Header.parse data =
    if ¬Check.header.Accepts data then .error (.error (.shortHeader data.size))
    else if ¬Check.magic.Accepts data then .error (.error (.badMagic (.ofNat (read data 0 4))))
    else if ¬Check.version.Accepts data then .error (.error (.newerVersion (.ofNat (read data 4 2))))
    else .ok (declared data) := by
  have short : data.size < headerBytes ↔ ¬Check.header.Accepts data := Nat.not_le.symm
  have marked : UInt32.ofNat (read data 0 4) ≠ magic ↔ ¬Check.magic.Accepts data := by
    rw [ne_eq, ← UInt32.toNat_inj, toNat_word]
    rfl
  have newer : newestVersion < (declared data).version ↔ ¬Check.version.Accepts data := by
    rw [UInt16.lt_iff_toNat_lt, declared, toNat_half]
    exact Nat.not_le.symm
  rw [Header.parse_eq]
  simp only [short, marked, newer]
  rfl

theorem opcode_wordAt (long : declaredBytes data ≤ data.size - 64) {index : Nat}
    (inside : index < declaredCount data) :
    (wordAt (declaredBody data) index).opcodeByte = opcodeAt data index := by
  have room : 8 * index + 8 ≤ declaredBytes data := by
    unfold declaredBytes
    omega
  have size : (declaredBody data).size = declaredBytes data := size_body long
  rw [opcodeByte_wordAt (by omega), opcodeAt, declaredBody, ByteArray.data_extract]
  simp only [Array.getD_eq_getD_getElem?, Array.getElem?_extract]
  rw [if_pos (by rw [ByteArray.size_data]; omega), ← Nat.add_assoc]

/-- The body of a file with the right length is refused only for its first word that is no
operation. -/
theorem Check.decide_cut (long : Check.length.Accepts data) :
    Check.Decide data [.opcodes] (Image.cut (Header.declared data) (declaredBody data)) := by
  have unassigned {index : Nat} (inside : index < declaredCount data) :
      (wordAt (declaredBody data) (0 + index)).opcode.isUnassigned = true ↔ IsUnassigned data index := by
    rw [Nat.zero_add, Instruction.opcode, opcode_wordAt long inside]
    rfl
  have count : (Header.declared data).instCount.toNat = declaredCount data := toNat_word data 12
  have size : (declaredBody data).size = (Header.declared data).bodyBytes := by
    rw [Header.bodyBytes_declared]
    exact size_body long
  have room : 8 * (0 + declaredCount data) ≤ (declaredBody data).size := by
    rw [size, ← count, Nat.zero_add, Nat.mul_comm]
    exact (Header.declared data).code_le
  rw [Image.cut_eq size, count]
  by_cases all : Check.opcodes.Accepts data
  · obtain ⟨result, ok⟩ := readInstructions_of_assigned #[] room fun index inside =>
      Bool.eq_false_iff.mpr fun offends => all index inside ((unassigned inside).mp offends)
    rw [ok]
    exact .passed all (.accepted _)
  · have some : ∃ index, index < declaredCount data ∧ IsUnassigned data index := by
      simpa [Check.Accepts] using all
    -- The least such index is where reading stops.
    obtain ⟨inside, offends⟩ := Nat.find_spec some
    have least (earlier : Nat) (before : earlier < Nat.find some) : ¬IsUnassigned data earlier :=
      fun offends => Nat.find_min some before ⟨Nat.lt_trans before inside, offends⟩
    have stops := readInstructions_of_offender #[] room inside ((unassigned inside).mpr offends)
      fun earlier before => Bool.eq_false_iff.mpr fun offends =>
        least earlier before ((unassigned (Nat.lt_trans before inside)).mp offends)
    rw [stops, Nat.zero_add, opcode_wordAt long inside]
    exact .refused all ⟨_, inside, offends, least, rfl⟩

theorem Image.parse_declared (data : ByteArray) : Image.parse data =
    if ¬Check.header.Accepts data then .error (.error (.shortHeader data.size))
    else if ¬Check.magic.Accepts data then .error (.error (.badMagic (.ofNat (read data 0 4))))
    else if ¬Check.version.Accepts data then .error (.error (.newerVersion (.ofNat (read data 4 2))))
    else if ¬Check.length.Accepts data then
      .error (.error (.truncated (declaredBytes data) (data.size - 64)))
    else if ¬Check.checksum.Accepts data then
      .error (.error (.checksumMismatch (.ofNat (byteSum (declaredBody data)))
        (.ofNat (read data 28 4))))
    else Image.cut (Header.declared data) (declaredBody data) := by
  have short : data.size - headerBytes < (Header.declared data).bodyBytes ↔
      ¬Check.length.Accepts data := by
    rw [Header.bodyBytes_declared]
    exact Nat.not_le.symm
  have mismatch : (Header.declared data).checksum ≠ 0 ∧
      checksum (declaredBody data) ≠ (Header.declared data).checksum ↔ ¬Check.checksum.Accepts data := by
    have zero : UInt32.ofNat (read data 28 4) = 0 ↔ read data 28 4 = 0 := by
      rw [← UInt32.toNat_inj, toNat_word]
      rfl
    rw [checksum_eq]
    show ¬UInt32.ofNat (read data 28 4) = 0 ∧ ¬_ = UInt32.ofNat (read data 28 4) ↔ ¬(_ ∨ _)
    rw [zero, word_eq_iff, not_or]
  have body : data.extract headerBytes (headerBytes + (Header.declared data).bodyBytes) =
      declaredBody data := by
    rw [Header.bodyBytes_declared]
    rfl
  rw [Image.parse_eq, Header.parse_declared]
  split
  · rfl
  · split
    · rfl
    · split
      · rfl
      · simp only [bind, Except.bind, short, body, mismatch]
        rw [Header.bodyBytes_declared, checksum_eq]
        rfl

theorem Check.decide_parse (data : ByteArray) : Check.Decide data Check.order (Image.parse data) := by
  rw [Image.parse_declared]
  refine .cons rfl fun _ => .cons rfl fun _ => .cons rfl fun _ => .cons rfl fun long =>
    .cons rfl fun _ => ?_
  exact Check.decide_cut long

theorem Header.parse_extract {stop : Nat} (room : 64 ≤ stop) (inside : stop ≤ data.size) :
    Header.parse (data.extract 0 stop) = Header.parse data := by
  have size : (data.extract 0 stop).size = stop := by
    rw [ByteArray.size_extract]
    omega
  have field {offset width : Nat} (before : offset + width ≤ 36) :
      read (data.extract 0 stop) offset width = read data offset width := by
    rw [read_extract (by omega), Nat.zero_add]
  have same : declared (data.extract 0 stop) = declared data := by
    simp (disch := decide) only [declared, field]
  have short : ¬stop < headerBytes := Nat.not_lt.mpr room
  have short' : ¬data.size < headerBytes := Nat.not_lt.mpr (Nat.le_trans room inside)
  rw [Header.parse_eq, Header.parse_eq, size, if_neg short, if_neg short', same, field (by decide)]

/-- Nothing after the declared body is looked at. -/
theorem Image.parse_extract (data : ByteArray) :
    Image.parse (data.extract 0 (64 + declaredBytes data)) = Image.parse data := by
  by_cases long : 64 + declaredBytes data ≤ data.size
  · rw [Image.parse_eq, Image.parse_eq, Header.parse_extract (Nat.le_add_right _ _) long]
    cases read : Header.parse data with
    | error fault => simp only [bind, Except.bind]
    | ok header =>
      have declared : header.bodyBytes = declaredBytes data := by
        rw [Header.eq_declared read, Header.bodyBytes_declared]
      have body : (data.extract 0 (64 + declaredBytes data)).extract headerBytes
          (headerBytes + declaredBytes data) =
            data.extract headerBytes (headerBytes + declaredBytes data) := by
        rw [ByteArray.extract_extract, Nat.zero_add, Nat.zero_add]
        exact congrArg _ (Nat.min_self _)
      have short : ¬data.size - headerBytes < declaredBytes data := by
        unfold headerBytes
        omega
      have short' : ¬(data.extract 0 (64 + declaredBytes data)).size - headerBytes <
          declaredBytes data := by
        rw [ByteArray.size_extract]
        unfold headerBytes
        omega
      simp only [bind, Except.bind, declared]
      rw [if_neg short, if_neg short', body]
  · -- The body is cut short, so that all of the file comes before its end.
    have all : data.extract 0 (64 + declaredBytes data) = data := by
      apply ByteArray.ext
      rw [ByteArray.data_extract]
      apply Array.extract_eq_self_of_le
      rw [ByteArray.size_data]
      omega
    rw [all]

theorem Check.accepts_iff (data : ByteArray) :
    (∃ image, Image.parse data = .ok image) ↔ ∀ check : Check, check.Accepts data := by
  have decided := Check.decide_parse data
  constructor
  · rintro ⟨image, ok⟩ check
    rw [ok] at decided
    exact decided.passes check check.mem_order
  · intro all
    cases result : Image.parse data with
    | ok image => exact ⟨image, rfl⟩
    | error failure =>
      rw [result] at decided
      obtain ⟨check, _, _, found, _⟩ := decided.failed
      exact absurd ((firstFailed?_eq_none.mpr all).symm.trans found) nofun

theorem Check.refuses_iff (data : ByteArray) (fault : Fault) :
    Image.parse data = .error (.error fault) ↔
      ∃ check, Check.firstFailed? data = some check ∧ check.Reports data fault := by
  constructor
  · intro error
    have decided := Check.decide_parse data
    rw [error] at decided
    obtain ⟨check, _, same, failed⟩ := decided.failed
    cases same
    exact ⟨check, failed⟩
  · rintro ⟨check, first, reported⟩
    cases result : Image.parse data with
    | ok image =>
      have all := (Check.accepts_iff data).mp ⟨image, result⟩
      rw [firstFailed?_eq_none.mpr all] at first
      cases first
    | error failure =>
      have decided := Check.decide_parse data
      rw [result] at decided
      obtain ⟨check', other, rfl, first', reported'⟩ := decided.failed
      cases first.symm.trans first'
      rw [reported.unique reported']

/-- Every slice lies in its bytes and every length in its word. -/
theorem Image.parse_ne_trap (data : ByteArray) (cause : Trap) : Image.parse data ≠ .error (.trap cause) := by
  intro trapped
  have decided := Check.decide_parse data
  rw [trapped] at decided
  obtain ⟨_, _, other, _⟩ := decided.failed
  cases other

/-- A file is accepted if it passes every check. Otherwise the first check that fails names the
fault, which is an invalid operation only for an opcode. No slice or length traps on the way, and
the bytes after the declared body do not matter. -/
theorem Image.parse_follows_checks (data : ByteArray) :
    ((∃ image, Image.parse data = .ok image) ↔ ∀ check : Check, check.Accepts data) ∧
    (∀ fault, Image.parse data = .error (.error fault) ↔
      ∃ check, Check.firstFailed? data = some check ∧ check.Reports data fault) ∧
    (∀ (check : Check) (fault : Fault), check.Reports data fault →
      HostError.ofModelFault fault = check.hostError fault.message) ∧
    (∀ cause, Image.parse data ≠ .error (.trap cause)) ∧
    Image.parse (data.extract 0 (64 + declaredBytes data)) = Image.parse data :=
  ⟨Check.accepts_iff data, Check.refuses_iff data, fun _ _ => Check.Reports.hostError,
    Image.parse_ne_trap data, Image.parse_extract data⟩

end Parsing

end NpuStack.Model
