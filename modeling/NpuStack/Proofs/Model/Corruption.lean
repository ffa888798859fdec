import NpuStack.Host.Error
import NpuStack.Proofs.Model.Draft

/-! Damage to the body of a model file. The checksum is a sum, so a file that carries one is refused
exactly if the changes of its bytes do not cancel out. A body whose own sum is zero cannot be
protected, because that is also the mark of a file without a checksum. -/

set_option autoImplicit false

namespace NpuStack.Model

section Changes

def bodyOf (file : ByteArray) : ByteArray := file.extract headerBytes file.size

def withBody (file body : ByteArray) : ByteArray := file.extract 0 headerBytes ++ body

/-- One byte replaced; a place behind the end is ignored. -/
def replaceByte (bytes : ByteArray) (index : Nat) (byte : UInt8) : ByteArray :=
  ⟨bytes.data.setIfInBounds index byte⟩

def drift (before after : ByteArray) : Int :=
  (before.data.toList.zipWith (fun old new => (new.toNat : Int) - old.toNat) after.data.toList).sum

variable {before after body : ByteArray}

theorem bodyOf_append (header : Header) (body : ByteArray) : bodyOf (header.toBytes ++ body) = body :=
  ByteArray.extract_append_eq_right header.size_toBytes.symm ByteArray.size_append

theorem withBody_append (header : Header) (body other : ByteArray) :
    withBody (header.toBytes ++ body) other = header.toBytes ++ other := by
  rw [withBody, ByteArray.extract_append_eq_left header.size_toBytes.symm]

theorem replaceByte_append (header : Header) (body : ByteArray) (index : Nat) (byte : UInt8) :
    replaceByte (header.toBytes ++ body) (headerBytes + index) byte =
      header.toBytes ++ replaceByte body index byte := by
  have length : header.toBytes.data.toList.length = headerBytes := header.size_toBytes
  have behind : header.toBytes.data.toList.length ≤ headerBytes + index := by omega
  apply ByteArray.ext
  apply Array.ext'
  show ((header.toBytes ++ body).data.setIfInBounds (headerBytes + index) byte).toList =
    (header.toBytes ++ ⟨body.data.setIfInBounds index byte⟩).data.toList
  rw [Array.toList_setIfInBounds, ByteArray.data_append, ByteArray.data_append, Array.toList_append,
    Array.toList_append, Array.toList_setIfInBounds, List.set_append_right _ _ behind, length,
    Nat.add_sub_cancel_left]

theorem read_checksum {data : ByteArray} {header : Header} (ok : Header.parse data = .ok header) :
    LittleEndian.read data 28 4 = header.checksum.toNat := by
  rw [Header.eq_declared ok]
  exact (LittleEndian.toNat_word data 28).symm

theorem drift_eq (same : after.size = before.size) :
    drift before after = (byteSum after : Int) - byteSum before := by
  have lists (old new : List UInt8) (same : new.length = old.length) :
      (old.zipWith (fun old new => (new.toNat : Int) - old.toNat) new).sum =
        ((new.map UInt8.toNat).sum : Int) - (old.map UInt8.toNat).sum := by
    induction old generalizing new with
    | nil => simp [List.length_eq_zero_iff.mp same]
    | cons first rest ih =>
      obtain ⟨byte, others, rfl⟩ := List.exists_cons_of_length_eq_add_one same
      have later := ih others (Nat.succ.inj same)
      simp only [List.zipWith_cons_cons, List.sum_cons, List.map_cons, later]
      omega
  exact lists _ _ same

/-- Two bodies have one checksum exactly if the changes cancel out. -/
theorem checksum_eq_iff_drift (same : after.size = before.size) :
    checksum after = checksum before ↔ (UInt32.size : Int) ∣ drift before after := by
  rw [checksum_eq, checksum_eq, ← UInt32.toNat_inj, UInt32.toNat_ofNat', UInt32.toNat_ofNat',
    drift_eq same]
  show byteSum after % 4294967296 = byteSum before % 4294967296 ↔ ((4294967296 : Nat) : Int) ∣ _
  omega

theorem size_replaceByte (bytes : ByteArray) (index : Nat) (byte : UInt8) :
    (replaceByte bytes index byte).size = bytes.size :=
  Array.size_setIfInBounds

theorem byteSum_replaceByte {index : Nat} (inside : index < body.size) (byte : UInt8) :
    byteSum (replaceByte body index byte) + (body.data.getD index 0).toNat =
      byteSum body + byte.toNat := by
  have lists (bytes : List UInt8) (index : Nat) (inside : index < bytes.length) :
      ((bytes.set index byte).map UInt8.toNat).sum + (bytes.getD index 0).toNat =
        (bytes.map UInt8.toNat).sum + byte.toNat := by
    induction bytes generalizing index with
    | nil => cases inside
    | cons first rest ih =>
      cases index with
      | zero =>
        simp only [List.set_cons_zero, List.map_cons, List.sum_cons, List.getD_cons_zero]
        omega
      | succ index =>
        have later := ih index (Nat.lt_of_succ_lt_succ inside)
        simp only [List.set_cons_succ, List.map_cons, List.sum_cons, List.getD_cons_succ]
        omega
  have placed := lists body.data.toList index inside
  rw [← Array.toList_setIfInBounds, List.getD_eq_getElem?_getD, Array.getElem?_toList,
    ← Array.getD_eq_getD_getElem?] at placed
  exact placed

/-- A single byte cannot make up for its own change. -/
theorem checksum_replaceByte_ne {index : Nat} {byte : UInt8} (inside : index < body.size)
    (other : byte ≠ body.data.getD index 0) :
    checksum (replaceByte body index byte) ≠ checksum body := by
  rw [ne_eq, checksum_eq_iff_drift (size_replaceByte body index byte),
    drift_eq (size_replaceByte body index byte)]
  have sums := byteSum_replaceByte inside byte
  have small := byte.toNat_lt
  have small' := (body.data.getD index 0).toNat_lt
  have apart : byte.toNat ≠ (body.data.getD index 0).toNat := fun same => other (UInt8.toNat_inj.mp same)
  show ¬((4294967296 : Nat) : Int) ∣ _
  omega

end Changes

section Refusal

def Refused (data : ByteArray) : Prop :=
  ∃ fault reason, Image.parse data = .error (.error fault) ∧
    HostError.ofModelFault fault = .invalidModel reason

variable {data body : ByteArray} {header : Header}

theorem refused_iff : Refused data ↔
    ∃ fault, Image.parse data = .error (.error fault) ∧ fault.isOperation = false := by
  refine exists_congr fun fault => ?_
  rw [exists_and_left]
  refine and_congr_right fun _ => ?_
  cases operation : fault.isOperation <;> simp [HostError.ofModelFault, operation]

theorem isOperation_of_readInstructions {count index : Nat} {read : Array Instruction} {fault : Fault}
    (error : readInstructions body count index read = .error (.error fault))
    (room : 8 * (index + count) ≤ body.size) : fault.isOperation = true := by
  induction count generalizing index read with
  | zero => cases error
  | succ count ih =>
    rw [readInstructions_succ (by omega)] at error
    split at error
    · cases error
      rfl
    · exact ih error (by omega)

/-- Sections are cut without looking at the file around them. -/
theorem isOperation_of_cut {fault : Fault} (error : Image.cut header body = .error (.error fault))
    (size : body.size = header.bodyBytes) : fault.isOperation = true := by
  rw [Image.cut_eq size] at error
  have room : 8 * (0 + header.instCount.toNat) ≤ body.size := by
    rw [size, Nat.zero_add, Nat.mul_comm]
    exact header.code_le
  cases read : readInstructions body header.instCount.toNat 0 #[] with
  | ok instructions =>
    rw [read] at error
    cases error
  | error other =>
    rw [read] at error
    cases error
    exact isOperation_of_readInstructions read room

/-- Behind a good header and a body of its length, the checksum comes before any instruction. -/
theorem Image.parse_toBytes_append (old : header.version ≤ newestVersion)
    (size : body.size = header.bodyBytes) : Image.parse (header.toBytes ++ body) =
      if header.checksum ≠ 0 ∧ checksum body ≠ header.checksum then
        .error (.error (.checksumMismatch (checksum body) header.checksum))
      else Image.cut header body := by
  have found : (header.toBytes ++ body).extract headerBytes (headerBytes + header.bodyBytes) = body := by
    rw [← size]
    apply ByteArray.extract_append_eq_right
    · exact header.size_toBytes.symm
    · rw [header.size_toBytes]
  have long : ¬(header.toBytes ++ body).size - headerBytes < header.bodyBytes := by
    rw [ByteArray.size_append, header.size_toBytes]
    omega
  rw [Image.parse_eq, header.parse_toBytes_append old]
  simp only [bind, Except.bind]
  rw [if_neg long, found]

theorem refused_toBytes_append_iff (old : header.version ≤ newestVersion)
    (size : body.size = header.bodyBytes) : Refused (header.toBytes ++ body) ↔
      header.checksum ≠ 0 ∧ checksum body ≠ header.checksum := by
  rw [refused_iff, Image.parse_toBytes_append old size]
  split
  case isTrue mismatch => exact iff_of_true ⟨_, rfl, rfl⟩ mismatch
  case isFalse agree =>
    refine iff_of_false ?_ agree
    rintro ⟨fault, error, other⟩
    rw [isOperation_of_cut error size] at other
    cases other

end Refusal

namespace Draft

variable {draft : Draft} {file changed : ByteArray}

theorem build_eq_ok : draft.build = .ok file ↔
    draft.Fits ∧ file = draft.image.header.toBytes ++ draft.body := by
  have small {size : Nat} {what : String} {word : UInt32} (ok : sectionSize size what = .ok word) :
      size < UInt32.size := by
    unfold sectionSize at ok
    split at ok
    case isTrue small => exact small
    case isFalse => cases ok
  constructor
  · intro built
    obtain ⟨_, weights, rest⟩ := bind_eq_ok.mp built
    obtain ⟨_, code, rest⟩ := bind_eq_ok.mp rest
    obtain ⟨_, bias, _⟩ := bind_eq_ok.mp rest
    have fits : draft.Fits := ⟨small code, small weights, small bias⟩
    exact ⟨fits, Except.ok.inj (built.symm.trans (build_eq fits))⟩
  · rintro ⟨fits, rfl⟩
    exact build_eq fits

/-- Under the header of a draft a body of the same length is refused for its sum alone. -/
theorem refused_append_iff (fits : draft.Fits) (size : changed.size = draft.body.size) :
    Refused (draft.image.header.toBytes ++ changed) ↔
      draft.image.header.checksum ≠ 0 ∧ checksum changed ≠ draft.image.header.checksum :=
  refused_toBytes_append_iff (UInt16.le_refl _) (size.trans (sections_image fits).size)

theorem checksum_of_hasChecksum (asked : draft.hasChecksum = true) :
    draft.image.header.checksum = checksum draft.body :=
  if_pos asked

/-- A draft whose checksum is zero is written as if it had none. -/
theorem build_of_checksum_zero (fits : draft.Fits) (absent : draft.image.header.checksum = 0) :
    { draft with hasChecksum := false }.build = .ok (draft.image.header.toBytes ++ draft.body) := by
  have fits' : { draft with hasChecksum := false }.Fits := ⟨fits.instructions, fits.weights, fits.bias⟩
  have header : { draft with hasChecksum := false }.image.header = draft.image.header := by
    show { draft.image.header with checksum := 0 } = draft.image.header
    rw [← absent]
  rw [build_eq fits', header]
  rfl

def unprotected (calls : List Call) : List Call :=
  calls.filter fun
    | .withChecksum => false
    | _ => true

/-- Leaving the checksum out changes nothing else of a draft. -/
theorem ofCalls_unprotected (calls : List Call) :
    ofCalls (unprotected calls) = { ofCalls calls with hasChecksum := false } := by
  induction calls using List.reverseRecOn with
  | nil => rfl
  | append_singleton calls call ih =>
    have step (calls : List Call) (call : Call) :
        ofCalls (calls ++ [call]) = (ofCalls calls).apply call := by simp [ofCalls]
    have kept : unprotected (calls ++ [call]) = unprotected calls ++ unprotected [call] :=
      List.filter_append calls [call]
    rw [step, kept]
    cases call with
    | withChecksum =>
      show ofCalls (unprotected calls ++ []) = _
      rw [List.append_nil, ih]
      rfl
    | _ =>
      show ofCalls (unprotected calls ++ [_]) = _
      rw [step, ih]
      rfl

/-- A file built with a checksum is refused for every change of a single byte of its body, and for
any change of the same length exactly if the differences do not cancel out. If the sum of the body is
itself zero, none is written, and every body is read as if none had been asked for. -/
theorem damage_detected {calls : List Call} {file : ByteArray} (asked : requestsChecksum calls = true)
    (built : (ofCalls calls).build = .ok file) :
    (byteSum (bodyOf file) % UInt32.size ≠ 0 →
      (∀ (index : Nat) (byte : UInt8), index < (bodyOf file).size →
        byte ≠ (bodyOf file).data.getD index 0 → Refused (replaceByte file (headerBytes + index) byte)) ∧
      ∀ changed : ByteArray, changed.size = (bodyOf file).size →
        (Refused (withBody file changed) ↔ ¬(UInt32.size : Int) ∣ drift (bodyOf file) changed)) ∧
    (byteSum (bodyOf file) % UInt32.size = 0 →
      LittleEndian.read file 28 4 = 0 ∧
      ∃ plain, (ofCalls (unprotected calls)).build = .ok plain ∧
        ∀ changed : ByteArray, Image.parse (withBody file changed) = Image.parse (withBody plain changed) ∧
          (changed.size = (bodyOf file).size → ¬Refused (withBody file changed))) := by
  obtain ⟨fits, rfl⟩ := build_eq_ok.mp built
  have sum : (ofCalls calls).image.header.checksum = checksum (ofCalls calls).body :=
    checksum_of_hasChecksum (by rw [ofCalls_eq]; exact asked)
  have zero : byteSum (ofCalls calls).body % UInt32.size = 0 ↔ (ofCalls calls).image.header.checksum = 0 := by
    rw [sum, checksum_eq, ← UInt32.toNat_inj, UInt32.toNat_ofNat']
    rfl
  rw [bodyOf_append]
  simp only [replaceByte_append, withBody_append]
  constructor
  · intro guarded
    have present := mt zero.mpr guarded
    constructor
    · intro index byte inside other
      rw [refused_append_iff fits (size_replaceByte _ _ _)]
      refine ⟨present, ?_⟩
      rw [sum]
      exact checksum_replaceByte_ne inside other
    · intro changed size
      rw [refused_append_iff fits size, sum, ne_eq (checksum changed), checksum_eq_iff_drift size]
      exact and_iff_right (sum ▸ present)
  · intro unguarded
    have absent := zero.mp unguarded
    have plain := build_of_checksum_zero fits absent
    rw [← ofCalls_unprotected] at plain
    refine ⟨?_, _, plain, fun changed => ⟨?_, fun size => ?_⟩⟩
    · rw [read_checksum (Header.parse_toBytes_append _ (UInt16.le_refl _) _), absent]
      rfl
    · rw [withBody_append]
    · rw [refused_append_iff fits size]
      exact fun mismatch => mismatch.1 absent

/-- A model whose bytes add up to fifty. -/
def guardedCalls : List Call := [.layer #[.clearAcc, .halt], .withChecksum, .weights ⟨#[1, 2, 3, 4]⟩]

/-- A model of zeros, which asks for a checksum in vain. -/
def blankCalls : List Call := [.withChecksum, .layer #[.nop]]

/-- An opcode that becomes unassigned is reported as damage and weights that change places are not
noticed; in the model of zeros the opcode is not noticed as damage either. -/
theorem guardedCalls_damage : requestsChecksum guardedCalls = true ∧ requestsChecksum blankCalls = true ∧
    ∃ guarded blank, (ofCalls guardedCalls).build = .ok guarded ∧ (ofCalls blankCalls).build = .ok blank ∧
    byteSum (bodyOf guarded) = 50 ∧ Refused (replaceByte guarded (headerBytes + 7) 0xFE) ∧
    ¬Refused (withBody guarded (replaceByte (replaceByte (bodyOf guarded) 16 2) 17 1)) ∧
    byteSum (bodyOf blank) = 0 ∧ LittleEndian.read blank 28 4 = 0 ∧
    ¬Refused (withBody blank (replaceByte (bodyOf blank) 7 0xFE)) := by
  have guarded : (ofCalls guardedCalls).build = _ := build_eq ⟨by decide, by decide, by decide⟩
  have blank : (ofCalls blankCalls).build = _ := build_eq ⟨by decide, by decide, by decide⟩
  have detected := (damage_detected rfl guarded).1
  have missed := (damage_detected rfl blank).2
  refine ⟨rfl, rfl, _, _, guarded, blank, ?_⟩
  rw [bodyOf_append] at detected missed ⊢
  rw [bodyOf_append]
  obtain ⟨single, several⟩ := detected (by decide)
  obtain ⟨field, _, _, plain⟩ := missed (by decide)
  refine ⟨by decide, single 7 0xFE (by decide) (by decide), ?_, by decide, field, ?_⟩
  · rw [several _ (by decide)]
    decide
  · exact (plain _).2 (by decide)

end Draft

end NpuStack.Model
