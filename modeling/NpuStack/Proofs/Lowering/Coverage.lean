import NpuStack.Proofs.Lowering.Tiles

/-! What the transfers of a compiled program move, read off its instruction
words: every weight of a convolution once and in order, and the whole of every
other tensor. -/

set_option autoImplicit false

namespace NpuStack.Lowering

section Ranges

/-- Ranges, as start and length, that follow one another from `start` to `stop`. -/
def Consecutive : (ranges : List (Nat × Nat)) → (start stop : Nat) → Prop
  | [], start, stop => start = stop
  | (first, len) :: rest, start, stop => first = start ∧ Consecutive rest (start + len) stop

theorem Consecutive.append {first second : List (Nat × Nat)} {start middle stop : Nat}
    (left : Consecutive first start middle) (right : Consecutive second middle stop) :
    Consecutive (first ++ second) start stop := by
  induction first generalizing start with
  | nil =>
    cases left
    exact right
  | cons range first ih => exact ⟨left.1, ih left.2⟩

/-- Parts that each reach from one bound to the next reach from the first bound to the last. -/
theorem consecutive_flatMap {ranges : Nat → List (Nat × Nat)} {bound : Nat → Nat} {count : Nat}
    (each : ∀ k < count, Consecutive (ranges k) (bound k) (bound (k + 1))) :
    Consecutive ((List.range count).flatMap ranges) (bound 0) (bound count) := by
  induction count with
  | zero => rfl
  | succ count ih =>
    rw [List.range_succ, List.flatMap_append, List.flatMap_singleton]
    exact (ih fun k below => each k (by omega)).append (each count (Nat.lt_succ_self count))

theorem Consecutive.le {ranges : List (Nat × Nat)} {start stop : Nat}
    (consecutive : Consecutive ranges start stop) : start ≤ stop := by
  induction ranges generalizing start with
  | nil => exact Nat.le_of_eq consecutive
  | cons range ranges ih =>
    have := ih consecutive.2
    omega

def holding (byte : Nat) (ranges : List (Nat × Nat)) : Nat :=
  ranges.countP fun range => range.1 ≤ byte && byte < range.1 + range.2

theorem Consecutive.holding_eq {ranges : List (Nat × Nat)} {start stop : Nat}
    (consecutive : Consecutive ranges start stop) (byte : Nat) :
    holding byte ranges = if start ≤ byte ∧ byte < stop then 1 else 0 := by
  induction ranges generalizing start with
  | nil =>
    obtain rfl : start = stop := consecutive
    rw [if_neg (by omega)]
    rfl
  | cons range ranges ih =>
    obtain ⟨first, len⟩ := range
    obtain ⟨rfl, rest⟩ := consecutive
    have further := rest.le
    have later := ih rest
    unfold holding at later ⊢
    -- A byte is in the first range or behind it, never both.
    rw [List.countP_cons, later]
    simp only [Bool.and_eq_true, decide_eq_true_eq]
    split <;> split <;> split <;> omega

end Ranges

section Decoding

def decoded {α : Type} (op : Opcode) (read : Instruction → α) (code : List Instruction) : List α :=
  (code.filter (·.opcode == op)).map read

def moved (op : Opcode) : List Instruction → List DmaOperand :=
  decoded op fun inst => .unpack inst.operand

def loadedColumns : List Instruction → List UInt32 :=
  decoded .loadWeight fun inst => (LoadWeightOperand.unpack inst.operand).count

def drained : List Instruction → List UInt64 := decoded .drain (·.operand)

def sources (operands : List DmaOperand) : List (Nat × Nat) :=
  operands.map fun x => (x.src.toNat, x.len.toNat)

def destinations (operands : List DmaOperand) : List (Nat × Nat) :=
  operands.map fun x => (x.dst.toNat, x.len.toNat)

/-- The operands move one range of bytes to another, in order and with nothing left out. -/
structure Carries (operands : List DmaOperand) (src dst len : Nat) : Prop where
  sources : Consecutive (sources operands) src (src + len)
  destinations : Consecutive (destinations operands) dst (dst + len)

section

variable {α : Type} {op : Opcode} {read : Instruction → α}

theorem decoded_append (first second : List Instruction) :
    decoded op read (first ++ second) = decoded op read first ++ decoded op read second := by
  simp [decoded]

theorem decoded_flatMap {β : Type} (items : List β) (code : β → List Instruction) :
    decoded op read (items.flatMap code) = items.flatMap fun item => decoded op read (code item) := by
  induction items with
  | nil => rfl
  | cons item items ih => rw [List.flatMap_cons, List.flatMap_cons, decoded_append, ih]

theorem decoded_of_ne {code : List Instruction} (other : ∀ inst ∈ code, inst.opcode ≠ op) :
    decoded op read code = [] := by
  rw [decoded, List.map_eq_nil_iff, List.filter_eq_nil_iff]
  intro inst member
  simpa using other inst member

theorem decoded_singleton_of_ne {inst : Instruction} (other : inst.opcode ≠ op) :
    decoded op read [inst] = [] :=
  decoded_of_ne (by simpa using other)

theorem decoded_of_eq {code : List Instruction} (same : ∀ inst ∈ code, inst.opcode = op) :
    decoded op read code = code.map read := by
  rw [decoded, List.filter_eq_self.mpr]
  intro inst member
  simpa using same inst member

end

def chunkStart (start len k : Nat) : Nat := start + min len (k * longest)

theorem chunkStart_step {len k : Nat} (below : k < chunkCount len) (start : Nat) :
    chunkStart start len k = start + k * longest ∧
    chunkStart start len (k + 1) = chunkStart start len k + min longest (len - k * longest) := by
  have reached := chunk_reached below
  unfold chunkStart
  rw [Nat.add_mul]
  omega

theorem opcode_mem_transfers {op : Opcode} {src dst len : Nat} (assigned : op.isUnassigned = false)
    {inst : Instruction} (member : inst ∈ transfers op src dst len) : inst.opcode = op := by
  obtain ⟨k, _, rfl⟩ := mem_transfers.mp member
  exact opcode_transferOf assigned _

theorem decoded_transfers_of_ne {α : Type} {op move : Opcode} {read : Instruction → α}
    (src dst len : Nat) (assigned : move.isUnassigned = false) (other : move ≠ op) :
    decoded op read (transfers move src dst len) = [] := by
  apply decoded_of_ne
  intro inst member
  rw [opcode_mem_transfers assigned member]
  exact other

theorem moved_transfers {op : Opcode} {src dst len : Nat} (assigned : op.isUnassigned = false)
    (fits : TransferFits src dst len) :
    moved op (transfers op src dst len) = (List.range (chunkCount len)).map (chunk src dst len) := by
  unfold moved
  rw [decoded_of_eq fun inst => opcode_mem_transfers assigned, transfers, List.map_map]
  apply List.map_congr_left
  intro k member
  exact DmaOperand.unpack_transfer (chunk_fits len (fits k (List.mem_range.mp member))) op

theorem chunkStart_chunkCount (start len : Nat) :
    chunkStart start len (chunkCount len) = start + len := by
  obtain ⟨last, count⟩ := Nat.exists_eq_succ_of_ne_zero (chunkCount_pos len).ne'
  have := (chunkCount_le_iff len last).mp (by omega)
  unfold chunkStart
  rw [count, Nat.min_eq_left this]

theorem consecutive_chunks {start len : Nat} {range : Nat → Nat × Nat}
    (each : ∀ k < chunkCount len, range k = (start + k * longest, min longest (len - k * longest))) :
    Consecutive ((List.range (chunkCount len)).map range) start (start + len) := by
  -- Part by part, as for the tiles of a convolution.
  have reach : Consecutive ((List.range (chunkCount len)).flatMap fun k => [range k])
      (chunkStart start len 0) (chunkStart start len (chunkCount len)) := by
    apply consecutive_flatMap
    intro k below
    obtain ⟨here, next⟩ := chunkStart_step below start
    rw [each k below]
    exact ⟨here.symm, next.symm⟩
  rw [chunkStart_chunkCount, ← List.map_eq_flatMap] at reach
  simpa [chunkStart] using reach

/-- The instructions of a transfer that fits carry all of its bytes. -/
theorem carries_transfers {op : Opcode} {src dst len : Nat} (assigned : op.isUnassigned = false)
    (fits : TransferFits src dst len) : Carries (moved op (transfers op src dst len)) src dst len := by
  rw [moved_transfers assigned fits]
  constructor
  · unfold sources
    rw [List.map_map]
    apply consecutive_chunks
    intro k below
    obtain ⟨srcNumber, _, lenNumber⟩ := chunk_toNat len (fits k below)
    rw [Function.comp_apply, srcNumber, lenNumber]
  · unfold destinations
    rw [List.map_map]
    apply consecutive_chunks
    intro k below
    obtain ⟨_, dstNumber, lenNumber⟩ := chunk_toNat len (fits k below)
    rw [Function.comp_apply, dstNumber, lenNumber]

end Decoding

section Convolutions

variable {target : Target} {shape : Layer} {code : List Instruction}

structure TileCovers (target : Target) (shape : Layer) (tile : Nat) (part : List Instruction) :
    Prop where
  weights : Carries (moved .dmaLoadW part)
    (shape.weight.addr.toNat + tile * target.peCols.toNat * perChannel shape) 0
    (min target.peCols.toNat (shape.output.channels.toNat - tile * target.peCols.toNat)
      * perChannel shape)
  loads : loadedColumns part ≠ []
  columns : ∀ count ∈ loadedColumns part, count.toNat =
    min target.peCols.toNat (shape.output.channels.toNat - tile * target.peCols.toNat)

structure Coverage (target : Target) (shape : Layer) (code : List Instruction) : Prop where
  weights : Consecutive (sources (moved .dmaLoadW code)) shape.weight.addr.toNat
    (shape.weight.addr.toNat + shape.output.channels.toNat * perChannel shape)
  once : ∀ byte, holding byte (sources (moved .dmaLoadW code)) =
    if shape.weight.addr.toNat ≤ byte ∧ byte < shape.weight.addr.toNat
      + shape.output.channels.toNat * perChannel shape then 1 else 0
  tiles : (outputTiles code).length = shape.output.channels.toNat ⌈/⌉ target.peCols.toNat
  tile : ∀ tile part, (outputTiles code)[tile]? = some part → TileCovers target shape tile part
  columns : ((List.range (outputTiles code).length).map fun tile =>
    min target.peCols.toNat (shape.output.channels.toNat - tile * target.peCols.toNat)).sum =
      shape.output.channels.toNat
  drains : (drained code).map (·.toNat) = (List.range (outputTiles code).length).map fun tile =>
    shape.output.addr.toNat
      + tile * target.peCols.toNat * (shape.output.height.toNat * shape.output.width.toNat)

/-- The widths of the first tiles add up to the channels they reach. -/
theorem sum_tileWidth (count : Nat) : ((List.range count).map (tileWidth target shape)).sum =
    min shape.output.channels.toNat (count * target.peCols.toNat) := by
  induction count with
  | zero => simp
  | succ count ih =>
    -- The width is cut off by the same minimum as the sum, so each tile adds what is left.
    rw [List.range_succ, List.map_append, List.sum_append, ih, List.map_singleton,
      List.sum_singleton, tileWidth, tileStart, Nat.add_mul]
    omega

/-- Start of a tile's weights, or the end of all weights behind the last tile. -/
def weightBound (target : Target) (shape : Layer) (tile : Nat) : Nat :=
  shape.weight.addr.toNat
    + min shape.output.channels.toNat (tile * target.peCols.toNat) * perChannel shape

theorem weightBound_step (columns : 0 < target.peCols.toNat) {tile : Nat}
    (below : tile < outCount target shape) :
    weightBound target shape tile = tileWeights target shape tile ∧
    weightBound target shape (tile + 1) =
      tileWeights target shape tile + tileWidth target shape tile * perChannel shape := by
  have inside := (lt_outCount_iff columns tile).mp below
  have here : min shape.output.channels.toNat (tile * target.peCols.toNat) =
      tile * target.peCols.toNat := by omega
  have next : min shape.output.channels.toNat ((tile + 1) * target.peCols.toNat) =
      tile * target.peCols.toNat + tileWidth target shape tile := by
    unfold tileWidth tileStart
    rw [Nat.add_mul]
    omega
  unfold weightBound tileWeights
  rw [here, next, Nat.add_mul, Nat.add_assoc]
  exact ⟨rfl, rfl⟩

/-- The width of a tile whose weights fit leaves room in the count of a weight load. -/
theorem TileFits.tileWidth_lt {tile : Nat} (fits : TileFits target shape tile)
    (weights : 0 < perChannel shape) : tileWidth target shape tile < 2 ^ 24 := by
  -- The last part of the transfer starts below 2 ^ 16 on the device, and a weight takes a byte.
  obtain ⟨_, start⟩ := transferFits_iff.mp fits.weights
  have covered := len_le_chunks (tileWidth target shape tile * perChannel shape)
  have wider := Nat.le_mul_of_pos_right (tileWidth target shape tile) weights
  have whole : longest = 16383 := rfl
  omega

/-- The three readings of one tile. -/
theorem decoded_outputTile {α : Type} {op : Opcode} {read : Instruction → α} (inTiles tile : Nat)
    (other : op ≠ .waitDma) :
    decoded op read (outputTile target shape inTiles tile) =
      decoded op read (transfers .dmaLoadW (tileWeights target shape tile) 0
        (tileWidth target shape tile * perChannel shape)) ++
      decoded op read (computations inTiles (.ofNat (tileWidth target shape tile))
        shape.activation.fusionFlags) ++
      decoded op read [.drain (.ofNat (tileOutput target shape tile))] := by
  have wait : decoded op read [.waitDma] = [] :=
    decoded_singleton_of_ne (by simpa using other.symm)
  unfold outputTile
  rw [decoded_append, decoded_append, decoded_append, wait, List.append_nil]

theorem decoded_computations_of_ne {α : Type} {op : Opcode} {read : Instruction → α} (inTiles : Nat)
    (count : UInt32) (fuse : UInt8) (other : op ≠ .loadWeight ∧ op ≠ .compute) :
    decoded op read (computations inTiles count fuse) = [] := by
  apply decoded_of_ne
  intro inst member
  rcases opcode_mem_computations member with found | found
  · rw [found]
    exact other.1.symm
  · rw [found]
    exact other.2.symm

theorem moved_outputTile (inTiles tile : Nat) :
    moved .dmaLoadW (outputTile target shape inTiles tile) =
      moved .dmaLoadW (transfers .dmaLoadW (tileWeights target shape tile) 0
        (tileWidth target shape tile * perChannel shape)) := by
  unfold moved
  rw [decoded_outputTile inTiles tile (by decide), decoded_computations_of_ne _ _ _ (by decide),
    decoded_singleton_of_ne (by simp), List.append_nil, List.append_nil]

theorem loadedColumns_computations {count : UInt32} (small : count.toNat < 2 ^ 24) (inTiles : Nat)
    (fuse : UInt8) : loadedColumns (computations inTiles count fuse) = List.replicate inTiles count := by
  have pair (flags : UInt8) : loadedColumns [.loadWeight 0 count, .compute flags] = [count] := by
    simp [loadedColumns, decoded, LoadWeightOperand.count_unpack_loadWeight small]
  unfold loadedColumns at pair ⊢
  unfold computations
  simp only [decoded_flatMap, pair]
  rw [← List.map_eq_flatMap, List.map_const', List.length_range]

theorem loadedColumns_outputTile (inTiles : Nat) {tile : Nat} (fits : TileFits target shape tile)
    (weights : 0 < perChannel shape) :
    loadedColumns (outputTile target shape inTiles tile) =
      List.replicate inTiles (.ofNat (tileWidth target shape tile)) := by
  have small := fits.tileWidth_lt weights
  have number : (UInt32.ofNat (tileWidth target shape tile)).toNat = tileWidth target shape tile :=
    UInt32.toNat_ofNat_of_lt' (by unfold UInt32.size; omega)
  have columns := loadedColumns_computations (number ▸ small) inTiles shape.activation.fusionFlags
  unfold loadedColumns at columns ⊢
  rw [decoded_outputTile inTiles tile (by decide), columns,
    decoded_transfers_of_ne _ _ _ rfl (by decide), decoded_singleton_of_ne (by simp), List.nil_append,
    List.append_nil]

theorem drained_outputTile (inTiles tile : Nat) :
    drained (outputTile target shape inTiles tile) =
      [(UInt32.ofNat (tileOutput target shape tile)).toUInt64] := by
  unfold drained
  rw [decoded_outputTile inTiles tile (by decide), decoded_transfers_of_ne _ _ _ rfl (by decide),
    decoded_computations_of_ne _ _ _ (by decide), decoded_of_eq (by simp), List.map_singleton,
    Instruction.operand_drain]
  rfl

theorem tileCovers_outputTile {inTiles tile : Nat} (some : 0 < inTiles)
    (fits : TileFits target shape tile) (weights : 0 < perChannel shape) :
    TileCovers target shape tile (outputTile target shape inTiles tile) := by
  have columns := loadedColumns_outputTile inTiles fits weights
  have small := fits.tileWidth_lt weights
  refine ⟨?_, ?_, ?_⟩
  · rw [moved_outputTile]
    exact carries_transfers rfl fits.weights
  · rw [columns]
    simpa using some.ne'
  · intro count member
    rw [columns] at member
    rw [List.eq_of_mem_replicate member, UInt32.toNat_ofNat_of_lt' (by unfold UInt32.size; omega)]
    rfl

/-- A reading of the whole program is that of its tiles, one after the other. -/
theorem ConvolutionCode.decoded_eq {α : Type} {op : Opcode} {read : Instruction → α}
    (conv : ConvolutionCode target shape code) (other : op ≠ .clearAcc ∧ op ≠ .halt) :
    decoded op read code = (List.range (outCount target shape)).flatMap fun tile =>
      decoded op read (outputTile target shape (inCount target shape) tile) := by
  have clear (rest : List Instruction) :
      decoded op read (Instruction.clearAcc :: rest) = decoded op read rest := by
    simp [decoded, other.1.symm]
  have halt : decoded op read [Instruction.halt] = [] :=
    decoded_singleton_of_ne (by simpa using other.2.symm)
  rw [conv.code_tiles, decoded_append, halt, List.append_nil, decoded_flatMap, tilesOf,
    List.flatMap_map]
  simp only [clear]

theorem ConvolutionCode.consecutive_weights (conv : ConvolutionCode target shape code) :
    Consecutive (sources (moved .dmaLoadW code)) shape.weight.addr.toNat
      (shape.weight.addr.toNat + shape.output.channels.toNat * perChannel shape) := by
  -- Tile by tile: the weights of a tile end where those of the next begin.
  have reach : Consecutive ((List.range (outCount target shape)).flatMap fun tile =>
        sources (moved .dmaLoadW (outputTile target shape (inCount target shape) tile)))
      (weightBound target shape 0) (weightBound target shape (outCount target shape)) := by
    apply consecutive_flatMap
    intro tile below
    obtain ⟨here, next⟩ := weightBound_step conv.columns below
    rw [here, next, moved_outputTile]
    exact (carries_transfers rfl (conv.fits tile below).weights).sources
  have all : weightBound target shape (outCount target shape) =
      shape.weight.addr.toNat + shape.output.channels.toNat * perChannel shape := by
    have last := mt (lt_outCount_iff conv.columns (outCount target shape)).mpr (Nat.lt_irrefl _)
    unfold weightBound
    rw [Nat.min_eq_left (by omega)]
  have first : weightBound target shape 0 = shape.weight.addr.toNat := by simp [weightBound]
  rw [all, first] at reach
  unfold moved sources at reach ⊢
  rwa [conv.decoded_eq (by decide), List.map_flatMap]

theorem ConvolutionCode.drained_eq (conv : ConvolutionCode target shape code) :
    (drained code).map (·.toNat) =
      (List.range (outCount target shape)).map (tileOutput target shape) := by
  have each (tile : Nat) : decoded .drain (·.operand)
      (outputTile target shape (inCount target shape) tile) = [_] := drained_outputTile _ tile
  unfold drained
  rw [conv.decoded_eq (by decide)]
  simp only [each]
  rw [← List.map_eq_flatMap, List.map_map]
  apply List.map_congr_left
  intro tile member
  rw [Function.comp_apply, UInt32.toNat_toUInt64]
  exact UInt32.toNat_ofNat_of_lt' (conv.fits tile (List.mem_range.mp member)).output

theorem ConvolutionCode.coverage (conv : ConvolutionCode target shape code) :
    Coverage target shape code := by
  have length : (outputTiles code).length = outCount target shape := by
    rw [conv.outputTiles_eq, tilesOf, List.length_map, List.length_range]
  refine ⟨conv.consecutive_weights, conv.consecutive_weights.holding_eq, length, ?_, ?_, ?_⟩
  · intro tile part found
    rw [conv.outputTiles_eq, tilesOf, List.getElem?_map, Option.map_eq_some_iff] at found
    obtain ⟨index, here, rfl⟩ := found
    obtain ⟨below, rfl⟩ := List.getElem?_eq_some_iff.mp here
    rw [List.getElem_range]
    rw [List.length_range] at below
    exact tileCovers_outputTile (ceilDiv_pos conv.inputs conv.rows) (conv.fits tile below) conv.weights
  · have last := mt (lt_outCount_iff conv.columns (outCount target shape)).mpr (Nat.lt_irrefl _)
    rw [length]
    exact (sum_tileWidth _).trans (Nat.min_eq_left (by omega))
  · rw [length]
    exact conv.drained_eq

end Convolutions

section Simple

def PoolingMoves (layer : Layer) (code : List Instruction) : Prop :=
  ∃ inputBytes outputBytes : UInt64,
    layer.input.byteSize = .ok inputBytes ∧ layer.output.byteSize = .ok outputBytes ∧
    Carries (moved .dmaLoadA code) layer.input.addr.toNat 0 inputBytes.toNat ∧
    Carries (moved .dmaStore code) 0 layer.output.addr.toNat outputBytes.toNat

/-- An elementwise program brings in both inputs, the second behind the first, and takes out the
whole output. -/
def ElementwiseMoves (layer : Layer) (second : Tensor) (code : List Instruction) : Prop :=
  ∃ inputBytes outputBytes : UInt64,
    layer.input.byteSize = .ok inputBytes ∧ layer.output.byteSize = .ok outputBytes ∧
    (∃ former latter, moved .dmaLoadA code = former ++ latter ∧
      Carries former layer.input.addr.toNat 0 inputBytes.toNat ∧
      Carries latter second.addr.toNat inputBytes.toNat inputBytes.toNat) ∧
    Carries (moved .dmaStore code) 0 layer.output.addr.toNat outputBytes.toNat

variable {target : Target} {layer : Layer} {program : Program}

theorem moved_append (move : Opcode) (first second : List Instruction) :
    moved move (first ++ second) = moved move first ++ moved move second :=
  decoded_append first second

theorem moved_operation {move op : Opcode} {inst : Instruction} (moves : move.family? = some .dma)
    (opcode : inst.opcode = op) (other : op.family? ≠ some .dma) : moved move [inst] = [] := by
  apply decoded_singleton_of_ne
  rw [opcode]
  rintro rfl
  exact other moves

theorem moved_load_store (src dst len : Nat) :
    moved .dmaLoadA (transfers .dmaStore src dst len) = [] :=
  decoded_transfers_of_ne src dst len rfl (by decide)

theorem moved_store_load (src dst len : Nat) :
    moved .dmaStore (transfers .dmaLoadA src dst len) = [] :=
  decoded_transfers_of_ne src dst len rfl (by decide)

theorem moved_quiet (move : Opcode) (moves : move.family? = some .dma) :
    moved move [.waitDma] = [] ∧ moved move [.halt] = [] :=
  ⟨moved_operation moves Instruction.opcode_waitDma (by decide),
    moved_operation moves Instruction.opcode_halt (by decide)⟩

theorem pooling_moves {op : Opcode} (pools : op.family? = some .pooling)
    (ok : pooling target layer op = .ok program) :
    PoolingMoves layer program.instructions.toList := by
  obtain ⟨inputBytes, outputBytes, inputSize, outputSize, loads, stores, code⟩ := pooling_code ok
  have opcode := Instruction.opcode_pool (assigned_of_family pools) layer.pool.operand
  have pool (move : Opcode) (moves : move.family? = some .dma) :
      moved move [.pool op layer.pool.operand] = [] :=
    moved_operation moves opcode (by rw [pools]; decide)
  refine ⟨inputBytes, outputBytes, inputSize, outputSize, ?_, ?_⟩
  · obtain ⟨wait, halt⟩ := moved_quiet .dmaLoadA rfl
    rw [code, poolingCode]
    simp only [moved_append, wait, halt, pool .dmaLoadA rfl, List.append_nil, moved_load_store]
    exact carries_transfers rfl loads
  · obtain ⟨wait, halt⟩ := moved_quiet .dmaStore rfl
    rw [code, poolingCode]
    simp only [moved_append, wait, halt, pool .dmaStore rfl, List.append_nil, List.nil_append,
      moved_store_load]
    exact carries_transfers rfl stores

theorem elementwise_moves {op : EltwiseOp} {second : Tensor}
    (ok : elementwise target layer op second = .ok program) :
    ElementwiseMoves layer second program.instructions.toList := by
  obtain ⟨inputBytes, outputBytes, inputSize, outputSize, loads, loads', stores, code⟩ :=
    elementwise_code ok
  have family := family_eltwise op
  have opcode := Instruction.opcode_eltwise (assigned_of_family family) layer.activation.fusionFlags
  have combine (move : Opcode) (moves : move.family? = some .dma) :
      moved move [.eltwise op.opcode layer.activation.fusionFlags] = [] :=
    moved_operation moves opcode (by rw [family]; decide)
  refine ⟨inputBytes, outputBytes, inputSize, outputSize,
    ⟨moved .dmaLoadA (transfers .dmaLoadA _ _ _), moved .dmaLoadA (transfers .dmaLoadA _ _ _), ?_,
      carries_transfers rfl loads, carries_transfers rfl loads'⟩, ?_⟩
  · obtain ⟨wait, halt⟩ := moved_quiet .dmaLoadA rfl
    rw [code, elementwiseCode]
    simp only [moved_append, wait, halt, combine .dmaLoadA rfl, List.append_nil, moved_load_store]
  · obtain ⟨wait, halt⟩ := moved_quiet .dmaStore rfl
    rw [code, elementwiseCode]
    simp only [moved_append, wait, halt, combine .dmaStore rfl, List.append_nil, List.nil_append,
      moved_store_load]
    exact carries_transfers rfl stores

end Simple

/-- What a compiled program moves is decided by its layer: nothing is cut off by an operand. -/
theorem compile_coverage {target : Target} {layer : Layer} {program : Program}
    (ok : layer.compile target = .ok program) :
    (layer.kind.convolves = true → ∃ shape, layer.convolution? = some shape ∧
      Coverage target shape program.instructions.toList) ∧
    (layer.kind.isPool = true → PoolingMoves layer program.instructions.toList) ∧
    (∀ op second, layer.kind = .eltwise op → layer.second = some second →
      ElementwiseMoves layer second program.instructions.toList) := by
  obtain ⟨_, _, ways⟩ := compile_cases ok
  refine ⟨fun convolves => ?_, fun pools => ?_, fun op second kind given => ?_⟩
  · obtain ⟨shape, shaped, conv⟩ := compile_convolution convolves ok
    exact ⟨shape, shaped, conv.coverage⟩
  · rcases ways with ⟨shape, shaped, _⟩ | ⟨op, found, ok⟩ | ⟨op, second, kind, _⟩
    · rcases convolution?_cases shaped with ⟨kind | kind, _⟩ | ⟨kind, _⟩
      all_goals
        rw [kind] at pools
        cases pools
    · exact pooling_moves (family_poolOpcode found) ok
    · rw [kind] at pools
      cases pools
  · rcases ways with ⟨shape, shaped, _⟩ | ⟨op', found, _⟩ | ⟨op', second', kind', given', ok⟩
    · rcases convolution?_cases shaped with ⟨kind' | kind', _⟩ | ⟨kind', _⟩
      all_goals
        rw [kind] at kind'
        cases kind'
    · rw [kind] at found
      cases found
    · rw [given] at given'
      cases given'
      exact elementwise_moves ok

theorem partialTiles_coverage :
    ∃ program, partialTiles.compile { peRows := 2, peCols := 2 } = .ok program ∧
      Coverage { peRows := 2, peCols := 2 } partialTiles program.instructions.toList := by
  obtain ⟨program, ok⟩ := partialTiles_compiles
  obtain ⟨shape, shaped, covers⟩ := (compile_coverage ok).1 rfl
  cases shaped
  exact ⟨program, ok, covers⟩

end NpuStack.Lowering
