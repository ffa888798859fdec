import NpuStack.Cli.Number
import NpuStack.Program
import NpuStack.Proofs.Encoding
import Mathlib.Data.List.Nodup

/-! Listings as a faithful notation. Every line is read back as the parts of its instruction, lines end
where they seem to, and so a listing stands for one program only. -/

set_option autoImplicit false

namespace NpuStack

namespace Text

open Cli (digitValue? readDigits readUnsigned readWord)

theorem hexDigit_cases {value : Nat} (small : value < 16) :
    digitValue? 16 (hexDigit value) = some value ∧
      hexDigit value ∉ ['+', '_', ' ', '\n'] := by
  revert value
  decide

@[simp] theorem length_hexDigits (width value : Nat) : (hexDigits width value).length = width := by
  induction width generalizing value with
  | zero => rfl
  | succ width ih => simp [hexDigits, ih]

theorem mem_hexDigits {width value : Nat} {c : Char} (member : c ∈ hexDigits width value) :
    c ∉ ['+', '_', ' ', '\n'] := by
  induction width generalizing value with
  | zero => cases member
  | succ width ih =>
    obtain earlier | last := List.mem_append.mp member
    · exact ih earlier
    · rw [List.mem_singleton.mp last]
      exact (hexDigit_cases (Nat.mod_lt value (by decide))).2

/-- Digits of a fixed width are read before whatever follows them. -/
theorem readDigits_hexDigits {limit width value : Nat} (small : value % 16 ^ width < limit)
    (rest : List Char) : readDigits 16 limit 0 (hexDigits width value ++ rest) =
      readDigits 16 limit (value % 16 ^ width) rest := by
  induction width generalizing value rest with
  | zero => simp [hexDigits, Nat.mod_one]
  | succ width ih =>
    have split : value % 16 ^ (width + 1) = value % 16 + 16 * (value / 16 % 16 ^ width) := by
      rw [Nat.pow_succ', Nat.mod_mul]
    have next : value / 16 % 16 ^ width * 16 + value % 16 = value % 16 ^ (width + 1) := by omega
    have digit := (hexDigit_cases (Nat.mod_lt value (by decide))).1
    rw [hexDigits, List.append_assoc, List.singleton_append, ih (by omega), readDigits, digit]
    dsimp only
    rw [next, if_neg (by omega)]

theorem toList_hexMarkedFixed (width value : Nat) :
    (hexMarkedFixed width value).toList = '0' :: 'x' :: hexDigits width value := by
  simp [hexMarkedFixed, hexFixed]

/-- A number with its mark is read back as a word. -/
theorem readWord_hexMarkedFixed {width value : Nat} (wide : 0 < width) (fits : value < 16 ^ width)
    (small : value < UInt64.size) : readWord (hexMarkedFixed width value) = .ok (.ofNat value) := by
  have clean : (hexDigits width value).filter (· != '_') = hexDigits width value := by
    rw [List.filter_eq_self]
    intro c member
    have plain := mem_hexDigits member
    simp only [List.mem_cons, not_or] at plain
    simpa using plain.2.1
  have digits : readUnsigned 16 UInt64.size (hexDigits width value) =
      readDigits 16 UInt64.size 0 (hexDigits width value) := by
    unfold readUnsigned
    split
    case h_1 none =>
      have length := length_hexDigits width value
      rw [none, List.length_nil] at length
      omega
    case h_2 sign => exact absurd List.mem_cons_self (mem_hexDigits (sign ▸ List.mem_cons_self))
    case h_3 sign => exact absurd List.mem_cons_self (mem_hexDigits (sign ▸ List.mem_cons_self))
    case h_4 => rfl
  have whole : readDigits 16 UInt64.size 0 (hexDigits width value ++ []) = _ :=
    readDigits_hexDigits (by rwa [Nat.mod_eq_of_lt fits]) []
  rw [List.append_nil, Nat.mod_eq_of_lt fits] at whole
  unfold readWord
  rw [toList_hexMarkedFixed]
  show (readUnsigned 16 UInt64.size ((hexDigits width value).filter (· != '_'))).map UInt64.ofNat = _
  rw [clean, digits, whole]
  rfl

theorem hexDigits_inj {width value other : Nat} (fits : value < 16 ^ width) (fits' : other < 16 ^ width)
    (same : hexDigits width value = hexDigits width other) : value = other := by
  have read {number : Nat} (fits : number < 16 ^ width) :
      readDigits 16 (16 ^ width) 0 (hexDigits width number ++ []) = .ok number := by
    rw [readDigits_hexDigits (by rwa [Nat.mod_eq_of_lt fits]), Nat.mod_eq_of_lt fits]
    rfl
  have values := read fits
  rw [same, read fits'] at values
  exact (Except.ok.inj values).symm

end Text

namespace Opcode

def operations : List Opcode :=
  [.nop, .halt, .sync, .waitDma, .waitPe, .irq, .loopStart, .loopEnd, .branch, .jump, .dmaLoadW, .dmaLoadA,
   .dmaStore, .dmaCopy, .dmaFill, .dma2dLoad, .dma2dStore, .conv, .dwConv, .gemm, .fc, .matmul, .mac,
   .clearAcc, .loadWeight, .compute, .drain, .relu, .relu6, .sigmoid, .tanh, .leakyRelu, .swish, .gelu,
   .maxPool, .avgPool, .globalAvgPool, .globalMaxPool, .add, .sub, .mul, .div, .max, .min, .abs,
   .batchNorm, .layerNorm, .softmax, .quantize, .dequantize, .requantize, .scale, .biasAdd, .reshape,
   .transpose, .concat, .split, .pad]

theorem mem_operations {op : Opcode} (assigned : op.isUnassigned = false) : op ∈ operations := by
  cases op with
  | unassigned byte => cases assigned
  | _ => decide

theorem mnemonics_nodup : (operations.map mnemonic).Nodup := by decide +kernel

/-- Mnemonics fit their column and are made of letters, digits and underscores. -/
theorem mnemonics_plain : ∀ op ∈ operations, op.mnemonic.toList.length ≤ 14 ∧
    op.mnemonic.toList.all (fun c => c.isAlphanum || c == '_') := by
  decide +kernel

theorem text_of_assigned {op : Opcode} (assigned : op.isUnassigned = false) : op.text = op.mnemonic := by
  cases op with
  | unassigned byte => cases assigned
  | _ => rfl

theorem toList_text_unassigned (byte : UInt8) : (unassigned byte).text.toList =
    ['U', 'N', 'K', 'N', 'O', 'W', 'N', '(', '0', 'x'] ++ (Text.hexDigits 2 byte.toNat ++ [')']) := by
  simp [text, Text.toList_hexMarkedFixed]

theorem isAlphanum_of_assigned {op : Opcode} (assigned : op.isUnassigned = false) {c : Char}
    (member : c ∈ op.text.toList) : (c.isAlphanum || c == '_') = true := by
  rw [text_of_assigned assigned] at member
  exact List.all_eq_true.mp (mnemonics_plain op (mem_operations assigned)).2 c member

/-- A name fits its column. -/
theorem length_text_le (op : Opcode) : op.text.toList.length ≤ 14 := by
  cases assigned : op.isUnassigned with
  | false =>
    rw [text_of_assigned assigned]
    exact (mnemonics_plain op (mem_operations assigned)).1
  | true =>
    rw [eq_unassigned assigned, toList_text_unassigned]
    simp

/-- A name holds neither a blank nor a line end. -/
theorem mem_text {op : Opcode} {c : Char} (member : c ∈ op.text.toList) : c ≠ ' ' ∧ c ≠ '\n' := by
  cases assigned : op.isUnassigned with
  | false =>
    have allowed := isAlphanum_of_assigned assigned member
    constructor <;> rintro rfl <;> exact absurd allowed (by decide)
  | true =>
    rw [eq_unassigned assigned, toList_text_unassigned, List.mem_append, List.mem_append] at member
    obtain frame | digit | close := member
    · have plain : ['U', 'N', 'K', 'N', 'O', 'W', 'N', '(', '0', 'x'].all
          (fun c => c != ' ' && c != '\n') = true := by decide
      simpa using List.all_eq_true.mp plain c frame
    · have plain := Text.mem_hexDigits digit
      simp only [List.mem_cons, not_or] at plain
      exact ⟨plain.2.2.1, plain.2.2.2.1⟩
    · rw [List.mem_singleton.mp close]
      decide

theorem text_injective : Function.Injective text := by
  -- Only the names of unassigned bytes have parentheses.
  have apart {op : Opcode} {byte : UInt8} (assigned : op.isUnassigned = false) :
      op.text ≠ (unassigned byte).text := by
    intro same
    have member : '(' ∈ op.text.toList := by simp [same, toList_text_unassigned]
    exact absurd (isAlphanum_of_assigned assigned member) (by decide)
  intro op other same
  cases assigned : op.isUnassigned with
  | false =>
    cases assigned' : other.isUnassigned with
    | false =>
      rw [text_of_assigned assigned, text_of_assigned assigned'] at same
      exact List.inj_on_of_nodup_map mnemonics_nodup (mem_operations assigned)
        (mem_operations assigned') same
    | true =>
      rw [eq_unassigned assigned'] at same
      exact absurd same (apart assigned)
  | true =>
    cases assigned' : other.isUnassigned with
    | false =>
      rw [eq_unassigned assigned] at same
      exact absurd same.symm (apart assigned')
    | true =>
      rw [eq_unassigned assigned, eq_unassigned assigned'] at same ⊢
      have digits := congrArg String.toList same
      rw [toList_text_unassigned, toList_text_unassigned] at digits
      have bytes := Text.hexDigits_inj op.toByte.toNat_lt other.toByte.toNat_lt
        (List.append_cancel_right (List.append_cancel_left digits))
      rw [UInt8.toNat_inj.mp bytes]

theorem ofByte_mem_all (byte : UInt8) : ofByte byte ∈ all :=
  List.mem_map.mpr ⟨byte.toNat, List.mem_range.mpr byte.toNat_lt, by rw [UInt8.ofNat_toNat]⟩

def ofText? (name : List Char) : Option Opcode := all.find? fun op => op.text.toList == name

theorem ofText?_text (byte : UInt8) : ofText? (ofByte byte).text.toList = some (ofByte byte) := by
  unfold ofText?
  cases found : all.find? fun op => op.text.toList == (ofByte byte).text.toList with
  | none => exact absurd BEq.rfl (List.find?_eq_none.mp found _ (ofByte_mem_all byte))
  | some other =>
    have named := List.find?_some found
    rw [text_injective (String.toList_inj.mp (beq_iff_eq.mp named))]

end Opcode

namespace Instruction

def parts (inst : Instruction) : UInt8 × UInt8 × UInt64 := (inst.opcodeByte, inst.flags, inst.operand)

theorem parts_injective : Function.Injective parts := by
  intro inst other same
  obtain ⟨byte, rest⟩ := Prod.mk.inj same
  obtain ⟨flags, operand⟩ := Prod.mk.inj rest
  rw [← inst.encode_parts, ← other.encode_parts, opcode, opcode, byte, flags, operand]

end Instruction

namespace Listing

/-- What a line of a listing says after its number: a name, flags in the column from 21 and an operand
in the column from 34. -/
def readEntry (entry : List Char) : Option (UInt8 × UInt8 × UInt64) := do
  let op ← Opcode.ofText? (entry.takeWhile (· != ' '))
  let flags ← (Cli.readWord (String.ofList ((entry.drop 21).take 4))).toOption
  let operand ← (Cli.readWord (String.ofList ((entry.drop 34).take 14))).toOption
  return (op.toByte, flags.toUInt8, operand)

/-- The parts that a line shows; the number in front of the colon is passed over. -/
def readLine (line : List Char) : Option (UInt8 × UInt8 × UInt64) :=
  readEntry ((line.dropWhile (· != ':')).drop 2)

def line (index : Nat) (inst : Instruction) : List Char :=
  (Text.padLeft 4 (toString index) ++ ": " ++ inst.text).toList

/-- The five columns after the colon. -/
theorem toList_text (inst : Instruction) : inst.text.toList =
    (Text.padRight 14 inst.opcode.text).toList ++ (" flags=".toList ++
      ((Text.hexMarkedFixed 2 inst.flags.toNat).toList ++ (" operand=".toList ++
        (Text.hexMarkedFixed 12 inst.operand.toNat).toList))) := by
  simp only [Instruction.text, String.toList_append, List.append_assoc]

theorem toList_padRight (width : Nat) (text : String) : (Text.padRight width text).toList =
    text.toList ++ List.replicate (width - text.toList.length) ' ' := by
  rw [Text.padRight, String.toList_append, String.toList_ofList, String.length_toList]

theorem takeWhile_name {name : List Char} (compact : ∀ c ∈ name, c ≠ ' ') (blanks : Nat)
    (rest : List Char) : (name ++ (List.replicate blanks ' ' ++ ' ' :: rest)).takeWhile (· != ' ') = name := by
  rw [List.takeWhile_append_of_pos (by simpa using compact)]
  cases blanks <;> simp [List.replicate_succ]

/-- Columns of fixed width are found by counting. -/
theorem take_drop_columns {name label flags label' operand : List Char} (nameSize : name.length = 14)
    (labelSize : label.length = 7) (flagSize : flags.length = 4) (labelSize' : label'.length = 9)
    (operandSize : operand.length = 14) :
    ((name ++ (label ++ (flags ++ (label' ++ operand)))).drop 21).take 4 = flags ∧
      ((name ++ (label ++ (flags ++ (label' ++ operand)))).drop 34).take 14 = operand := by
  have before : (name ++ label).length = 21 := by
    rw [List.length_append]
    omega
  have before' : (name ++ label ++ flags ++ label').length = 34 := by
    simp only [List.length_append]
    omega
  constructor
  · rw [← List.append_assoc, ← before, List.drop_left, ← flagSize, List.take_left]
  · rw [← List.append_assoc, ← List.append_assoc, ← List.append_assoc, ← before', List.drop_left,
      ← operandSize, List.take_length]

theorem readEntry_text (inst : Instruction) : readEntry inst.text.toList = some inst.parts := by
  have pad := toList_padRight 14 inst.opcode.text
  have short := inst.opcode.length_text_le
  have nameSize : (Text.padRight 14 inst.opcode.text).toList.length = 14 := by
    rw [pad, List.length_append, List.length_replicate]
    omega
  have size (width value : Nat) : (Text.hexMarkedFixed width value).toList.length = width + 2 := by
    simp [Text.toList_hexMarkedFixed]
  have name : inst.text.toList.takeWhile (· != ' ') = inst.opcode.text.toList := by
    rw [toList_text, pad, List.append_assoc]
    exact takeWhile_name (fun c member => (Opcode.mem_text member).1) _ _
  have columns := take_drop_columns nameSize (rfl : " flags=".toList.length = 7)
    (size 2 inst.flags.toNat) (rfl : " operand=".toList.length = 9) (size 12 inst.operand.toNat)
  rw [← toList_text] at columns
  have byte : Opcode.ofText? inst.opcode.text.toList = some inst.opcode := Opcode.ofText?_text _
  have small : inst.operand.toNat < 16 ^ 12 := by
    rw [Instruction.toNat_operand]
    exact Instruction.operandField.get_lt inst.word
  rw [readEntry, name, columns.1, columns.2, byte, String.ofList_toList, String.ofList_toList,
    Text.readWord_hexMarkedFixed (by decide) inst.flags.toNat_lt
      (Nat.lt_of_lt_of_le inst.flags.toNat_lt (by decide)),
    Text.readWord_hexMarkedFixed (by decide) small inst.operand.toNat_lt]
  show some (inst.opcode.toByte, (UInt64.ofNat inst.flags.toNat).toUInt8, UInt64.ofNat inst.operand.toNat) = _
  rw [Instruction.opcode, Opcode.toByte_ofByte, UInt64.ofNat_uInt8ToNat, UInt8.toUInt8_toUInt64,
    UInt64.ofNat_toNat]
  rfl

theorem mem_number {index : Nat} {c : Char} (member : c ∈ (Text.padLeft 4 (toString index)).toList) :
    c = ' ' ∨ c.isDigit = true := by
  rw [Text.padLeft, String.toList_append, String.toList_ofList, List.mem_append] at member
  obtain blank | digit := member
  · exact .inl (List.eq_of_mem_replicate blank)
  · rw [Nat.toString_eq_repr, Nat.toList_repr] at digit
    exact .inr (Nat.isDigit_of_mem_toDigits (by decide) (by decide) digit)

theorem line_eq (index : Nat) (inst : Instruction) :
    line index inst = (Text.padLeft 4 (toString index)).toList ++ ':' :: ' ' :: inst.text.toList := by
  simp [line]

theorem readLine_line (index : Nat) (inst : Instruction) : readLine (line index inst) = some inst.parts := by
  have number : ∀ c ∈ (Text.padLeft 4 (toString index)).toList, (c != ':') = true := by
    intro c member
    obtain rfl | digit := mem_number member
    · decide
    · rw [bne_iff_ne]
      rintro rfl
      cases digit
  rw [readLine, line_eq, List.dropWhile_append_of_pos number]
  exact readEntry_text inst

/-- A line does not end before its end. -/
theorem newline_notMem_line (index : Nat) (inst : Instruction) : '\n' ∉ line index inst := by
  have number : '\n' ∉ (Text.padLeft 4 (toString index)).toList := by
    intro member
    obtain blank | digit := mem_number member
    · exact absurd blank (by decide)
    · exact absurd digit (by decide)
  have name : '\n' ∉ inst.opcode.text.toList := fun member => (Opcode.mem_text member).2 rfl
  have blanks (count : Nat) : '\n' ∉ List.replicate count ' ' := fun member =>
    absurd (List.eq_of_mem_replicate member) (by decide)
  have digits (width value : Nat) : '\n' ∉ (Text.hexMarkedFixed width value).toList := by
    rw [Text.toList_hexMarkedFixed, List.mem_cons, List.mem_cons]
    rintro (zero | mark | digit)
    · exact absurd zero (by decide)
    · exact absurd mark (by decide)
    · exact Text.mem_hexDigits digit (by decide)
  rw [line_eq, toList_text, toList_padRight]
  simp only [List.mem_append, List.mem_cons, not_or]
  exact ⟨number, by decide, by decide, ⟨name, blanks _⟩, by decide, digits _ _, by decide, digits _ _⟩

end Listing

namespace Program

open Listing

theorem lines_cons (index : Nat) (inst : Instruction) (rest : List Instruction) :
    lines index (inst :: rest) = (String.ofList (line index inst) ++ "\n") :: lines (index + 1) rest := by
  rw [line, String.ofList_toList]
  rfl

def rows (index : Nat) (code : List Instruction) : List (List Char) :=
  (code.zipIdx index).map fun entry => line entry.2 entry.1

theorem splitOn_lines (index : Nat) (code : List Instruction) :
    (String.join (lines index code)).toList.splitOn '\n' = rows index code ++ [[]] := by
  induction code generalizing index with
  | nil => rfl
  | cons inst rest ih =>
    have here : (String.join (lines index (inst :: rest))).toList =
        line index inst ++ '\n' :: (String.join (lines (index + 1) rest)).toList := by
      simp [lines_cons]
    rw [here, List.splitOn_append_cons_self_of_not_mem (newline_notMem_line index inst), ih]
    rfl

theorem map_readLine_rows (index : Nat) (code : List Instruction) :
    (rows index code).map readLine = code.map fun inst => some inst.parts := by
  induction code generalizing index with
  | nil => rfl
  | cons inst rest ih =>
    show readLine (line index inst) :: (rows (index + 1) rest).map readLine = _
    rw [readLine_line, ih]
    rfl

/-- Programs have the same listing exactly if they have the same words. A listing has one line for
each instruction, ended by a line end, from which the parts of the instruction are read back. -/
theorem listing_lossless (program other : Program) :
    (program.listing = other.listing ↔ program.words = other.words) ∧
    ∃ rows : List (List Char), program.listing.toList.splitOn '\n' = rows ++ [[]] ∧
      rows.length = program.size ∧
      rows.map readLine = program.instructions.toList.map fun inst =>
        some (inst.opcodeByte, inst.flags, inst.operand) := by
  have same : program.listing = other.listing ↔ program.words = other.words := by
    constructor
    · intro listings
      have split := congrArg (fun text => text.toList.splitOn '\n') listings
      simp only [listing, splitOn_lines] at split
      have read := congrArg (List.map readLine) (List.append_cancel_right split)
      rw [map_readLine_rows, map_readLine_rows] at read
      have code := List.map_injective_iff.mpr
        ((Option.some_injective _).comp Instruction.parts_injective) read
      rw [words, code]
      rfl
    · intro words
      have code := List.map_injective_iff.mpr (fun _ _ => congrArg Instruction.mk) words
      rw [listing, code]
      rfl
  refine ⟨same, rows 0 program.instructions.toList, splitOn_lines _ _, ?_, map_readLine_rows _ _⟩
  simp [rows, size]

end Program

end NpuStack
