import NpuStack.Proofs.Codec
import Mathlib.Data.List.Forall2

/-! Typed operands there and back. Every kind of operand lays its values side by
side from the lowest bit of the word up, so that one argument serves all of them:
a value that is too wide loses its own upper bits and touches no other value. -/

set_option autoImplicit false

namespace NpuStack

/-- A kind of operand: its values stand in consecutive fields from the lowest bit up, inside the
operand bits of an instruction. -/
structure Format (α : Type) where
  pack : α → UInt64
  unpack : UInt64 → α
  fields : List Field
  /-- The values of an operand, one for each field. -/
  values : α → List Nat
  values_injective : Function.Injective values
  values_unpack : ∀ word, values (unpack word) = fields.map (·.get word)
  length_values : ∀ x, (values x).length = fields.length := by intro; rfl
  pack_eq : ∀ x, pack x = packFields (List.zipWith Field.place fields (values x)) := by intro; rfl
  contiguous : Field.Contiguous 0 fields := by decide
  inOperand : Field.span fields ≤ 48 := by decide

def Fit (values widths : List Nat) : Prop :=
  List.Forall₂ (fun value width => value < 2 ^ width) values widths

theorem reduced_eq_iff {values widths : List Nat} (length : values.length = widths.length) :
    List.zipWith (fun value width => value % 2 ^ width) values widths = values ↔ Fit values widths := by
  induction values generalizing widths with
  | nil =>
    obtain rfl : widths = [] := List.length_eq_zero_iff.mp length.symm
    exact ⟨fun _ => .nil, fun _ => rfl⟩
  | cons value values ih =>
    cases widths with
    | nil => cases length
    | cons width widths =>
      rw [List.zipWith_cons_cons, List.cons.injEq, ih (Nat.succ.inj length)]
      unfold Fit
      rw [List.forall₂_cons]
      refine and_congr_left fun _ => ⟨fun same => ?_, Nat.mod_eq_of_lt⟩
      rw [← same]
      exact Nat.mod_lt _ (Nat.two_pow_pos _)

/-- Packing loses the upper bits of values that are too wide, and unpacking the bits above all values;
nothing else is lost, in the operand alone or in an instruction that carries it. -/
structure Faithful {α : Type} (pack : α → UInt64) (unpack : UInt64 → α) (widths : List Nat)
    (values : α → List Nat) : Prop where
  distinct : Function.Injective values
  below : ∀ x, (pack x).toNat < 2 ^ 48
  reduced : ∀ x, values (unpack (pack x)) =
    List.zipWith (fun value width => value % 2 ^ width) (values x) widths
  identity : ∀ x, unpack (pack x) = x ↔ Fit (values x) widths
  restricted : ∀ word, (pack (unpack word)).toNat = word.toNat % 2 ^ widths.sum
  carried : ∀ op flags x, Fit (values x) widths →
    unpack (Instruction.encode op flags (pack x)).decode.2.2 = x

namespace Format

variable {α : Type} (format : Format α)

def widths : List Nat := format.fields.map Field.width

theorem sum_lt (values : List Nat) :
    (List.zipWith Field.place format.fields values).sum < 2 ^ 48 := by
  have bound := format.contiguous.sum_add_le values
  have inOperand : 2 ^ (0 + Field.span format.fields) ≤ 2 ^ 48 :=
    Nat.pow_le_pow_right (by decide) ((Nat.zero_add _).trans_le format.inOperand)
  omega

theorem toNat_pack (x : α) : (format.pack x).toNat =
    (List.zipWith Field.place format.fields (format.values x)).sum := by
  have small := format.sum_lt (format.values x)
  rw [format.pack_eq, Field.packFields_eq, UInt64.toNat_ofNat', Nat.mod_eq_of_lt (by omega)]

theorem values_unpack_pack (x : α) : format.values (format.unpack (format.pack x)) =
    List.zipWith (fun value width => value % 2 ^ width) (format.values x) format.widths := by
  have stacked := format.contiguous.stacked <| (Nat.zero_add _).trans_le <|
    format.inOperand.trans (show 48 ≤ 64 by decide)
  rw [format.values_unpack, format.pack_eq, Field.map_get_packFields stacked (format.length_values x),
    widths, List.zipWith_map_right]

theorem unpack_pack_iff (x : α) :
    format.unpack (format.pack x) = x ↔ Fit (format.values x) format.widths := by
  have length : (format.values x).length = format.widths.length :=
    (format.length_values x).trans (List.length_map _).symm
  rw [← format.values_injective.eq_iff, values_unpack_pack, reduced_eq_iff length]

theorem toNat_pack_unpack (word : UInt64) :
    (format.pack (format.unpack word)).toNat = word.toNat % 2 ^ format.widths.sum := by
  rw [toNat_pack, format.values_unpack, format.contiguous.sum_get]
  rfl

/-- An operand reads the same in the instruction that carries it. -/
theorem unpack_operand_encode (op : Opcode) (flags : UInt8) (word : UInt64) :
    format.unpack (Instruction.encode op flags word).operand = format.unpack word := by
  apply format.values_injective
  rw [format.values_unpack, format.values_unpack]
  apply List.map_congr_left
  intro f member
  have inside := (format.contiguous.bounds f member).2
  rw [Nat.zero_add] at inside
  exact Instruction.get_operand_encode (inside.trans format.inOperand) op flags word

theorem faithful : Faithful format.pack format.unpack format.widths format.values where
  distinct := format.values_injective
  below x := format.toNat_pack x ▸ format.sum_lt _
  reduced := format.values_unpack_pack
  identity := format.unpack_pack_iff
  restricted := format.toNat_pack_unpack
  carried op flags x fits :=
    (format.unpack_operand_encode op flags _).trans ((format.unpack_pack_iff x).mpr fits)

end Format

namespace Field

variable {f : Field}

theorem get_lt_of_le {bits : Nat} (narrow : f.width ≤ bits) (word : UInt64) : f.get word < 2 ^ bits :=
  (f.get_lt word).trans_le (Nat.pow_le_pow_right (by decide) narrow)

theorem toNat_get32 (narrow : f.width ≤ 32) (word : UInt64) :
    (UInt32.ofNat (f.get word)).toNat = f.get word :=
  UInt32.toNat_ofNat_of_lt' (get_lt_of_le narrow word)

theorem toNat_get16 (narrow : f.width ≤ 16) (word : UInt64) :
    (UInt16.ofNat (f.get word)).toNat = f.get word :=
  UInt16.toNat_ofNat_of_lt' (get_lt_of_le narrow word)

theorem toNat_get8 (narrow : f.width ≤ 8) (word : UInt64) :
    (UInt8.ofNat (f.get word)).toNat = f.get word :=
  UInt8.toNat_ofNat_of_lt' (get_lt_of_le narrow word)

end Field

def DmaOperand.format : Format DmaOperand where
  pack := pack
  unpack := unpack
  fields := [srcField, dstField, lenField]
  values x := [x.src.toNat, x.dst.toNat, x.len.toNat]
  values_injective x y same := by
    cases x
    cases y
    simpa [UInt32.toNat_inj] using same
  values_unpack _ := by
    simp (disch := decide) only [unpack, Field.toNat_get32]
    rfl

def LoadWeightOperand.format : Format LoadWeightOperand where
  pack := pack
  unpack := unpack
  fields := [addrField, countField]
  values x := [x.addr.toNat, x.count.toNat]
  values_injective x y same := by
    cases x
    cases y
    simpa [UInt32.toNat_inj] using same
  values_unpack _ := by
    simp (disch := decide) only [unpack, Field.toNat_get32]
    rfl

def PoolOperand.format : Format PoolOperand where
  pack := pack
  unpack := unpack
  fields := [kernelHField, kernelWField, strideHField, strideWField]
  values x := [x.kernelH.toNat, x.kernelW.toNat, x.strideH.toNat, x.strideW.toNat]
  values_injective x y same := by
    cases x
    cases y
    simpa [UInt8.toNat_inj] using same
  values_unpack _ := by
    simp (disch := decide) only [unpack, Field.toNat_get8]
    rfl

def ConvOperand.format : Format ConvOperand where
  pack := pack
  unpack := unpack
  fields := [kernelHField, kernelWField, strideHField, strideWField, padHField, padWField]
  values x := [x.kernelH.toNat, x.kernelW.toNat, x.strideH.toNat, x.strideW.toNat, x.padH.toNat,
    x.padW.toNat]
  values_injective x y same := by
    cases x
    cases y
    simpa [UInt8.toNat_inj] using same
  values_unpack _ := by
    simp (disch := decide) only [unpack, Field.toNat_get8]
    rfl

def FcOperand.format : Format FcOperand where
  pack := pack
  unpack := unpack
  fields := [inputsField, outputsField]
  values x := [x.inputs.toNat, x.outputs.toNat]
  values_injective x y same := by
    cases x
    cases y
    simpa [UInt16.toNat_inj] using same
  values_unpack _ := by
    simp (disch := decide) only [unpack, Field.toNat_get16]
    rfl

def LoopOperand.format : Format LoopOperand where
  pack := pack
  unpack := unpack
  fields := [valueField]
  values x := [x.value.toNat]
  values_injective x y same := by
    cases x
    cases y
    simpa [UInt32.toNat_inj] using same
  values_unpack _ := by
    simp (disch := decide) only [unpack, Field.toNat_get32]
    rfl

namespace DmaOperand

theorem fits_iff (x : DmaOperand) :
    x.fits = true ↔ x.src.toNat ≤ 0x3FFFF ∧ x.dst.toNat ≤ 0xFFFF ∧ x.len.toNat ≤ 0x3FFF := by
  simp only [fits, Bool.and_eq_true, decide_eq_true_eq, UInt32.le_iff_toNat_le, and_assoc]
  exact Iff.rfl

theorem fits_iff_fit (x : DmaOperand) :
    x.fits = true ↔ Fit [x.src.toNat, x.dst.toNat, x.len.toNat] [18, 16, 14] := by
  simp only [fits_iff, Fit, List.forall₂_cons, List.forall₂_nil_left_iff, and_true]
  omega

theorem unpack_pack {x : DmaOperand} (fits : x.fits = true) : unpack x.pack = x :=
  (format.unpack_pack_iff x).mpr (x.fits_iff_fit.mp fits)

/-- A transfer instruction whose operand fits reads back as that operand. -/
theorem unpack_transfer {x : DmaOperand} (fits : x.fits = true) (op : Opcode) :
    unpack (Instruction.transfer op x.src x.dst x.len).operand = x :=
  (format.unpack_operand_encode op 0 x.pack).trans (unpack_pack fits)

theorem pack?_eq_some_iff {x : DmaOperand} {word : UInt64} :
    x.pack? = some word ↔ x.fits = true ∧ x.pack = word := by
  unfold pack?
  split
  case isTrue fits => simp [fits]
  case isFalse wide => simp [wide]

end DmaOperand

theorem PoolOperand.unpack_pack (x : PoolOperand) : unpack x.pack = x :=
  (format.unpack_pack_iff x).mpr <| .cons x.kernelH.toNat_lt <| .cons x.kernelW.toNat_lt <|
    .cons x.strideH.toNat_lt <| .cons x.strideW.toNat_lt .nil

/-- A weight load within 24 bits of columns reads back its number of columns. -/
theorem LoadWeightOperand.count_unpack_loadWeight {addr count : UInt32} (small : count.toNat < 2 ^ 24) :
    (unpack (Instruction.loadWeight addr count).operand).count = count := by
  have carried : unpack (Instruction.loadWeight addr count).operand = unpack (pack ⟨addr, count⟩) :=
    format.unpack_operand_encode .loadWeight 0 _
  have values : [(unpack (pack ⟨addr, count⟩)).addr.toNat, (unpack (pack ⟨addr, count⟩)).count.toNat] =
      [addr.toNat % 2 ^ 24, count.toNat % 2 ^ 24] := format.values_unpack_pack ⟨addr, count⟩
  simp only [List.cons.injEq] at values
  rw [carried, ← UInt32.toNat_inj, values.2.1, Nat.mod_eq_of_lt small]

/-- No kind of operand mixes its values: each comes back up to its own width, alone and in an
instruction. The checked packing of a transfer succeeds exactly if the operand comes back as it was. -/
theorem operands_faithful :
    Faithful DmaOperand.pack DmaOperand.unpack [18, 16, 14]
      (fun x => [x.src.toNat, x.dst.toNat, x.len.toNat]) ∧
    Faithful LoadWeightOperand.pack LoadWeightOperand.unpack [24, 24]
      (fun x => [x.addr.toNat, x.count.toNat]) ∧
    Faithful PoolOperand.pack PoolOperand.unpack [8, 8, 8, 8]
      (fun x => [x.kernelH.toNat, x.kernelW.toNat, x.strideH.toNat, x.strideW.toNat]) ∧
    Faithful ConvOperand.pack ConvOperand.unpack [4, 4, 4, 4, 4, 4]
      (fun x => [x.kernelH.toNat, x.kernelW.toNat, x.strideH.toNat, x.strideW.toNat, x.padH.toNat,
        x.padW.toNat]) ∧
    Faithful FcOperand.pack FcOperand.unpack [16, 16] (fun x => [x.inputs.toNat, x.outputs.toNat]) ∧
    Faithful LoopOperand.pack LoopOperand.unpack [32] (fun x => [x.value.toNat]) ∧
    ∀ x : DmaOperand, (x.fits = true ↔ Fit [x.src.toNat, x.dst.toNat, x.len.toNat] [18, 16, 14]) ∧
      ((∃ word, x.pack? = some word) ↔ x.fits = true) ∧
      ∀ word, x.pack? = some word → DmaOperand.unpack word = x := by
  refine ⟨DmaOperand.format.faithful, LoadWeightOperand.format.faithful, PoolOperand.format.faithful,
    ConvOperand.format.faithful, FcOperand.format.faithful, LoopOperand.format.faithful, fun x => ?_⟩
  refine ⟨x.fits_iff_fit, ⟨?_, fun fits => ⟨x.pack, DmaOperand.pack?_eq_some_iff.mpr ⟨fits, rfl⟩⟩⟩, ?_⟩
  · rintro ⟨word, packed⟩
    exact (DmaOperand.pack?_eq_some_iff.mp packed).1
  · intro word packed
    obtain ⟨fits, rfl⟩ := DmaOperand.pack?_eq_some_iff.mp packed
    exact DmaOperand.unpack_pack fits

/-- The largest values of a transfer, side by side in all 48 bits. -/
theorem widest_transfer_carried :
    Fit [0x3FFFF, 0xFFFF, 0x3FFF] [18, 16, 14] ∧
    DmaOperand.unpack (Instruction.encode .dmaLoadW 0xFF
      (DmaOperand.pack ⟨0x3FFFF, 0xFFFF, 0x3FFF⟩)).decode.2.2 = ⟨0x3FFFF, 0xFFFF, 0x3FFF⟩ := by
  have fits : Fit [0x3FFFF, 0xFFFF, 0x3FFF] [18, 16, 14] := by simp [Fit]
  exact ⟨fits, operands_faithful.1.carried _ _ ⟨0x3FFFF, 0xFFFF, 0x3FFF⟩ fits⟩

end NpuStack
