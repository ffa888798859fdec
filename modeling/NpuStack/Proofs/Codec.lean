import NpuStack.Instruction.Basic
import NpuStack.Proofs.Field

/-! Reading instructions back: opcode, flags and operand of an encoded word, and
of every instruction that a program is built from. -/

set_option autoImplicit false

namespace NpuStack

theorem Opcode.ofByte_toByte {op : Opcode} (assigned : op.isUnassigned = false) :
    ofByte op.toByte = op := by
  cases op with
  | unassigned byte => cases assigned
  | _ => rfl

namespace Instruction

def fields : List Field := [operandField, flagsField, opcodeField]

theorem fields_stacked : Field.Stacked fields := by decide

theorem word_encode (op : Opcode) (flags : UInt8) (operand : UInt64) :
    (encode op flags operand).word =
      packFields (List.zipWith Field.place fields
        [operand.toNat, flags.toNat, op.toByte.toNat]) := by
  have swapped (a b c : Nat) : packFields [a, b, c] = packFields [c, b, a] := by
    rw [Field.packFields_eq, Field.packFields_eq]
    congr 1
    simp only [List.sum_cons, List.sum_nil]
    omega
  exact swapped _ _ _

theorem opcodeByte_encode (op : Opcode) (flags : UInt8) (operand : UInt64) :
    (encode op flags operand).opcodeByte = op.toByte := by
  have held : opcodeField.get (encode op flags operand).word = op.toByte.toNat % 2 ^ 8 := by
    rw [word_encode]
    exact Field.get_packFields fields_stacked _ 2 rfl rfl
  rw [opcodeByte, held, Nat.mod_eq_of_lt op.toByte.toNat_lt, UInt8.ofNat_toNat]

theorem opcode_encode {op : Opcode} {flags : UInt8} {operand : UInt64}
    (assigned : op.isUnassigned = false) : (encode op flags operand).opcode = op := by
  rw [opcode, opcodeByte_encode, Opcode.ofByte_toByte assigned]

theorem flags_encode (op : Opcode) (flags : UInt8) (operand : UInt64) :
    (encode op flags operand).flags = flags := by
  have held : flagsField.get (encode op flags operand).word = flags.toNat % 2 ^ 8 := by
    rw [word_encode]
    exact Field.get_packFields fields_stacked _ 1 rfl rfl
  rw [Instruction.flags, held, Nat.mod_eq_of_lt flags.toNat_lt, UInt8.ofNat_toNat]

theorem operand_encode (op : Opcode) (flags : UInt8) (operand : UInt64) :
    (encode op flags operand).operand = .ofNat (operand.toNat % 2 ^ 48) := by
  have held : operandField.get (encode op flags operand).word = operand.toNat % 2 ^ 48 := by
    rw [word_encode]
    exact Field.get_packFields fields_stacked _ 0 rfl rfl
  rw [Instruction.operand, held]

/-- A field of the operand bits reads the same in the instruction as in the operand. -/
theorem get_operand_encode {f : Field} (inOperand : f.stop ≤ 48) (op : Opcode) (flags : UInt8)
    (operand : UInt64) : f.get (encode op flags operand).operand = f.get operand := by
  rw [operand_encode, Field.get_ofNat (by omega), Field.mod_div_mod inOperand, Field.get_eq]

theorem operand_drain (addr : UInt32) : (drain addr).operand = addr.toUInt64 := by
  have small := addr.toNat_lt
  rw [drain, operand_encode, UInt32.toNat_toUInt64, Nat.mod_eq_of_lt (by omega)]
  apply UInt64.toNat_inj.mp
  rw [UInt64.toNat_ofNat', UInt32.toNat_toUInt64, Nat.mod_eq_of_lt (by omega)]

section Builders

variable (addr count : UInt32) (flags : UInt8)

@[simp] theorem opcode_clearAcc : clearAcc.opcode = .clearAcc := opcode_encode rfl
@[simp] theorem opcode_waitDma : waitDma.opcode = .waitDma := opcode_encode rfl
@[simp] theorem opcode_halt : halt.opcode = .halt := opcode_encode rfl
@[simp] theorem opcode_loadWeight : (loadWeight addr count).opcode = .loadWeight := opcode_encode rfl
@[simp] theorem opcode_compute : (compute flags).opcode = .compute := opcode_encode rfl
@[simp] theorem opcode_drain : (drain addr).opcode = .drain := opcode_encode rfl

@[simp] theorem flags_clearAcc : clearAcc.flags = 0 := flags_encode _ _ _
@[simp] theorem flags_waitDma : waitDma.flags = 0 := flags_encode _ _ _
@[simp] theorem flags_halt : halt.flags = Flag.last.mask := flags_encode _ _ _
@[simp] theorem flags_loadWeight : (loadWeight addr count).flags = 0 := flags_encode _ _ _
@[simp] theorem flags_compute : (compute flags).flags = flags := flags_encode _ _ _
@[simp] theorem flags_drain : (drain addr).flags = 0 := flags_encode _ _ _

end Builders

theorem opcode_transfer {op : Opcode} (assigned : op.isUnassigned = false) (src dst len : UInt32) :
    (transfer op src dst len).opcode = op := opcode_encode assigned

@[simp] theorem flags_transfer (op : Opcode) (src dst len : UInt32) :
    (transfer op src dst len).flags = 0 := flags_encode _ _ _

theorem opcode_pool {op : Opcode} (assigned : op.isUnassigned = false) (operand : PoolOperand) :
    (pool op operand).opcode = op := opcode_encode assigned

@[simp] theorem flags_pool (op : Opcode) (operand : PoolOperand) : (pool op operand).flags = 0 :=
  flags_encode _ _ _

theorem opcode_eltwise {op : Opcode} (assigned : op.isUnassigned = false) (flags : UInt8) :
    (eltwise op flags).opcode = op := opcode_encode assigned

@[simp] theorem flags_eltwise (op : Opcode) (flags : UInt8) : (eltwise op flags).flags = flags :=
  flags_encode _ _ _

end Instruction

end NpuStack
