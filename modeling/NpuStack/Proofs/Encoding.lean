import NpuStack.Proofs.Codec

/-! Instruction words and their parts correspond one to one. Every word has an
opcode, flags and an operand of 48 bits, and is the only word with these parts;
operand bits above the field reach neither flags nor opcode. -/

set_option autoImplicit false

namespace NpuStack

namespace Opcode

/-- An operation, or a byte that no operation has. -/
def Genuine (op : Opcode) : Prop :=
  op.isUnassigned = true → ∀ other : Opcode, other.isUnassigned = false → other.toByte ≠ op.toByte

theorem toByte_ofByte (byte : UInt8) : (ofByte byte).toByte = byte := by
  unfold ofByte
  split <;> rfl

theorem eq_unassigned {op : Opcode} (none : op.isUnassigned = true) : op = .unassigned op.toByte := by
  cases op with
  | unassigned byte => rfl
  | _ => cases none

theorem genuine_ofByte (byte : UInt8) : (ofByte byte).Genuine := by
  intro none other operation same
  -- The byte of an operation is read as that operation.
  rw [toByte_ofByte] at same
  rw [← same, ofByte_toByte operation, operation] at none
  cases none

theorem ofByte_toByte_of_genuine {op : Opcode} (genuine : op.Genuine) : ofByte op.toByte = op := by
  cases none : op.isUnassigned with
  | false => exact ofByte_toByte none
  | true =>
    have unread : (ofByte op.toByte).isUnassigned = true := by
      by_contra operation
      exact genuine none _ (Bool.eq_false_iff.mpr operation) (toByte_ofByte op.toByte)
    rw [eq_unassigned unread, toByte_ofByte, ← eq_unassigned none]

end Opcode

/-- A flag is tested by its own bit of the flag byte. -/
theorem Flag.and_mask_bne_zero (flag : Flag) (flags : UInt8) :
    (flags &&& flag.mask != 0) = flags.toNat.testBit flag.index := by
  have mask : flag.mask.toBitVec = BitVec.twoPow 8 flag.index := by cases flag <;> rfl
  have present : BitVec.twoPow 8 flag.index ≠ 0#8 := by cases flag <;> decide
  rw [Bool.eq_iff_iff, bne_iff_ne, ne_eq, ← UInt8.toBitVec_inj, UInt8.toBitVec_and, mask,
    BitVec.and_twoPow]
  show ¬(if flags.toNat.testBit flag.index = true then BitVec.twoPow 8 flag.index else 0#8) = 0#8 ↔ _
  split
  case isTrue set => exact ⟨fun _ => set, fun _ => present⟩
  case isFalse clear => exact ⟨fun differs => absurd rfl differs, fun set => absurd set clear⟩

namespace Instruction

theorem fields_contiguous : Field.Contiguous 0 fields := by decide

theorem toNat_operand (inst : Instruction) : inst.operand.toNat = operandField.get inst.word := by
  have small := operandField.get_lt inst.word
  exact UInt64.toNat_ofNat_of_lt' (small.trans (by decide))

theorem toNat_flags (inst : Instruction) : inst.flags.toNat = flagsField.get inst.word :=
  UInt8.toNat_ofNat_of_lt' (flagsField.get_lt inst.word)

theorem toNat_opcodeByte (inst : Instruction) : inst.opcodeByte.toNat = opcodeField.get inst.word :=
  UInt8.toNat_ofNat_of_lt' (opcodeField.get_lt inst.word)

/-- The parts of a word are put together to that word. -/
theorem encode_parts (inst : Instruction) : encode inst.opcode inst.flags inst.operand = inst := by
  have parts : [inst.operand.toNat, inst.flags.toNat, inst.opcode.toByte.toNat] =
      fields.map (·.get inst.word) := by
    rw [toNat_operand, toNat_flags, opcode, Opcode.toByte_ofByte, toNat_opcodeByte]
    rfl
  -- The three fields leave no bit of the word out.
  have whole : inst.word.toNat % 2 ^ Field.span fields = inst.word.toNat :=
    Nat.mod_eq_of_lt inst.word.toNat_lt
  have word : (encode inst.opcode inst.flags inst.operand).word = inst.word := by
    rw [word_encode, parts, Field.packFields_eq, fields_contiguous.sum_get, whole, UInt64.ofNat_toNat]
  exact congrArg Instruction.mk word

theorem decode_encode {op : Opcode} (genuine : op.Genuine) (flags : UInt8) (operand : UInt64) :
    decode (encode op flags operand) = (op, flags, .ofNat (operand.toNat % 2 ^ 48)) := by
  unfold decode
  rw [opcode, opcodeByte_encode, Opcode.ofByte_toByte_of_genuine genuine, flags_encode, operand_encode]

theorem hasFlag_encode (op : Opcode) (flags : UInt8) (operand : UInt64) (flag : Flag) :
    (encode op flags operand).hasFlag flag = flags.toNat.testBit flag.index := by
  rw [hasFlag, flags_encode, Flag.and_mask_bne_zero]

/-- Words and their parts are the same thing: a word is encoded from what it decodes to, which is an
opcode and 48 bits, and parts are decoded from what they are encoded to, the operand up to 48 bits. A
flag of an encoded word is the bit of that flag, whatever opcode and operand are. -/
theorem codec_bijective :
    (∀ inst : Instruction, encode inst.decode.1 inst.decode.2.1 inst.decode.2.2 = inst ∧
      inst.decode.1.Genuine ∧ inst.decode.2.2.toNat < 2 ^ 48) ∧
    (∀ (op : Opcode) (flags : UInt8) (operand : UInt64), op.Genuine →
      decode (encode op flags operand) = (op, flags, .ofNat (operand.toNat % 2 ^ 48))) ∧
    ∀ (op : Opcode) (flags : UInt8) (operand : UInt64) (flag : Flag),
      (encode op flags operand).hasFlag flag = flags.toNat.testBit flag.index := by
  refine ⟨fun inst => ⟨inst.encode_parts, Opcode.genuine_ofByte _, ?_⟩, ?_, hasFlag_encode⟩
  · rw [decode, toNat_operand]
    exact operandField.get_lt inst.word
  · intro op flags operand genuine
    exact decode_encode genuine flags operand

/-- A byte without an operation comes back, with an operand that is cut and flags that are not. -/
theorem unassigned_round_trip : (Opcode.unassigned 0xEE).Genuine ∧
    decode (encode (.unassigned 0xEE) 0xA5 0xFFFF123456789ABC) =
      (.unassigned 0xEE, 0xA5, 0x123456789ABC) := by
  have genuine : (Opcode.unassigned 0xEE).Genuine := Opcode.genuine_ofByte 0xEE
  exact ⟨genuine, codec_bijective.2.1 _ _ _ genuine⟩

end Instruction

end NpuStack
