import NpuStack.Proofs.Lowering.Shape

/-! A convolution's program cut at its clearings: what stands between a clearing
and the next one, or the halt, is one tile of output channels. -/

set_option autoImplicit false

namespace NpuStack.Lowering

section Opcodes

theorem assigned_of_family {op : Opcode} {family : Family} (found : op.family? = some family) :
    op.isUnassigned = false := by
  unfold Opcode.family? at found
  split at found
  case isTrue => cases found
  case isFalse assigned => exact Bool.eq_false_iff.mpr assigned

theorem family_poolOpcode {kind : LayerKind} {op : Opcode} (pools : kind.poolOpcode? = some op) :
    op.family? = some .pooling := by
  cases kind <;> cases pools <;> rfl

theorem family_eltwise (op : EltwiseOp) : op.opcode.family? = some .elementwise := by
  cases op <;> rfl

theorem opcode_transferOf {op : Opcode} (assigned : op.isUnassigned = false) (x : DmaOperand) :
    (transferOf op x).opcode = op :=
  Instruction.opcode_transfer assigned _ _ _

@[simp] theorem opcode_transferOf_dmaLoadW (x : DmaOperand) :
    (transferOf .dmaLoadW x).opcode = .dmaLoadW :=
  opcode_transferOf rfl x

@[simp] theorem flags_transferOf (op : Opcode) (x : DmaOperand) : (transferOf op x).flags = 0 :=
  Instruction.flags_transfer _ _ _ _

theorem mem_transfers {op : Opcode} {src dst len : Nat} {inst : Instruction} :
    inst ∈ transfers op src dst len ↔
      ∃ k < chunkCount len, inst = transferOf op (chunk src dst len k) := by
  simp [transfers, eq_comm]

theorem mem_computations {inTiles : Nat} {count : UInt32} {fuse : UInt8} {inst : Instruction}
    (member : inst ∈ computations inTiles count fuse) :
    inst = .loadWeight 0 count ∨ inst = .compute fuse ∨ inst = .compute 0 := by
  simp only [computations, List.mem_flatMap, List.mem_range, List.mem_cons, List.not_mem_nil,
    or_false] at member
  obtain ⟨tile, _, same | same⟩ := member
  · exact .inl same
  · split at same
    · exact .inr (.inl same)
    · exact .inr (.inr same)

theorem opcode_mem_computations {inTiles : Nat} {count : UInt32} {fuse : UInt8} {inst : Instruction}
    (member : inst ∈ computations inTiles count fuse) :
    inst.opcode = .loadWeight ∨ inst.opcode = .compute := by
  rcases mem_computations member with rfl | rfl | rfl <;> simp

end Opcodes

def endsTile (inst : Instruction) : Bool := inst.opcode == .clearAcc || inst.opcode == .halt

/-- The parts between a clearing and the next clearing or halt. -/
def outputTiles (code : List Instruction) : List (List Instruction) :=
  (code.splitOnP endsTile).tail.dropLast

theorem endsTile_clearAcc : endsTile .clearAcc = true := by simp [endsTile]

theorem endsTile_halt : endsTile .halt = true := by simp [endsTile]

theorem splitOnP_tiles {tiles : List (List Instruction)} {before : List Instruction}
    (inner : ∀ tile ∈ tiles, ∀ inst ∈ tile, endsTile inst = false)
    (plain : ∀ inst ∈ before, endsTile inst = false) :
    (before ++ (tiles.flatMap (Instruction.clearAcc :: ·) ++ [Instruction.halt])).splitOnP endsTile =
      before :: (tiles ++ [[]]) := by
  induction tiles generalizing before with
  | nil => exact List.splitOnP_append_cons_of_forall_mem plain _ endsTile_halt []
  | cons tile tiles ih =>
    -- The first clearing ends `before`; the tile behind it is what precedes the next cut.
    rw [List.flatMap_cons, List.cons_append, List.cons_append, List.append_assoc,
      List.splitOnP_append_cons_of_forall_mem plain _ endsTile_clearAcc,
      ih (fun other member => inner other (List.mem_cons_of_mem tile member))
        (inner tile List.mem_cons_self)]
    rfl

theorem outputTiles_cleared {tiles : List (List Instruction)}
    (inner : ∀ tile ∈ tiles, ∀ inst ∈ tile, endsTile inst = false) :
    outputTiles (tiles.flatMap (Instruction.clearAcc :: ·) ++ [Instruction.halt]) = tiles := by
  have split := splitOnP_tiles inner (fun inst member => absurd member List.not_mem_nil)
  rw [List.nil_append] at split
  rw [outputTiles, split, List.tail_cons, List.dropLast_concat]

variable {target : Target} {shape : Layer}

theorem mem_outputTile {inTiles tile : Nat} {inst : Instruction}
    (member : inst ∈ outputTile target shape inTiles tile) :
    inst ∈ transfers .dmaLoadW (tileWeights target shape tile) 0
      (tileWidth target shape tile * perChannel shape) ∨
    inst = .waitDma ∨
    inst ∈ computations inTiles (.ofNat (tileWidth target shape tile))
      shape.activation.fusionFlags ∨
    inst = .drain (.ofNat (tileOutput target shape tile)) := by
  simpa only [outputTile, List.mem_append, List.mem_singleton, or_assoc] using member

theorem endsTile_outputTile {inTiles tile : Nat} {inst : Instruction}
    (member : inst ∈ outputTile target shape inTiles tile) : endsTile inst = false := by
  rcases mem_outputTile member with load | rfl | step | rfl
  · obtain ⟨k, _, rfl⟩ := mem_transfers.mp load
    simp [endsTile]
  · simp [endsTile]
  · rcases mem_computations step with rfl | rfl | rfl <;> simp [endsTile]
  · simp [endsTile]

def tilesOf (target : Target) (shape : Layer) : List (List Instruction) :=
  (List.range (outCount target shape)).map (outputTile target shape (inCount target shape))

theorem ConvolutionCode.code_tiles {code : List Instruction}
    (conv : ConvolutionCode target shape code) :
    code = (tilesOf target shape).flatMap (Instruction.clearAcc :: ·) ++ [Instruction.halt] := by
  rw [conv.code_eq, clearedTiles, ← List.range_eq_range', tilesOf, List.flatMap_map]

theorem ConvolutionCode.outputTiles_eq {code : List Instruction}
    (conv : ConvolutionCode target shape code) : outputTiles code = tilesOf target shape := by
  rw [conv.code_tiles]
  apply outputTiles_cleared
  intro part member inst inside
  obtain ⟨tile, _, rfl⟩ := List.mem_map.mp member
  exact endsTile_outputTile inside

/-- Three channels each way: two elements a side leave a partial tile in both directions. -/
def partialTiles : Layer :=
  .conv2d { addr := 0, batch := 1, channels := 3, height := 1, width := 2 }
    { addr := 64, batch := 1, channels := 3, height := 1, width := 2 }
    { addr := 128, batch := 3, channels := 3, height := 1, width := 1 } (.square 1)

theorem partialTiles_compiles :
    ∃ program, partialTiles.compile { peRows := 2, peCols := 2 } = .ok program :=
  ⟨_, rfl⟩

end NpuStack.Lowering
