import NpuStack.Proofs.Lowering.Growth
import NpuStack.Proofs.Lowering.Tiles

/-! Which convolutions are compiled. The tiles of a layer are checked one by one
while the program is written, but the first tile decides about the destination of
every transfer and the last one about sources and results. -/

set_option autoImplicit false

namespace NpuStack.Lowering

variable {target : Target} {shape : Layer}

section Addresses

theorem chunkCount_mono {len more : Nat} (le : len ≤ more) : chunkCount len ≤ chunkCount more := by
  have some := chunkCount_pos more
  have covered := len_le_chunks more
  have := (chunkCount_le_iff len (chunkCount more - 1)).mpr (by rw [Nat.add_mul]; omega)
  omega

def lastSource (target : Target) (shape : Layer) (tile : Nat) : Nat :=
  tileWeights target shape tile +
    (chunkCount (tileWidth target shape tile * perChannel shape) - 1) * longest

/-- The weights of a full tile end before those of the next begin. -/
theorem lastSource_le {tile last : Nat} (columns : 0 < target.peCols.toNat) (later : tile < last)
    (below : last < outCount target shape) :
    lastSource target shape tile ≤ tileWeights target shape last := by
  have full := tileWidth_full columns (show tile + 1 < outCount target shape by omega)
  have reached := chunk_reached (Nat.sub_lt (chunkCount_pos
    (tileWidth target shape tile * perChannel shape)) Nat.one_pos)
  have start : tileStart target tile + target.peCols.toNat ≤ tileStart target last := by
    have := Nat.mul_le_mul_right target.peCols.toNat (show tile + 1 ≤ last from later)
    rwa [Nat.add_mul, Nat.one_mul] at this
  have weights := Nat.mul_le_mul_right (perChannel shape) start
  rw [Nat.add_mul] at weights
  unfold lastSource tileWeights
  rw [full] at reached ⊢
  omega

theorem tileWidth_le (target : Target) (shape : Layer) (tile : Nat) :
    tileWidth target shape tile ≤ tileWidth target shape 0 := by
  unfold tileWidth tileStart
  omega

/-- The addresses of all tiles are in range if the farthest ones are. -/
theorem tilesFit_iff (layer : Computable target shape) : TilesFit target shape ↔
    (chunkCount (tileWidth target shape 0 * perChannel shape) - 1) * longest ≤ 0xFFFF ∧
    lastSource target shape (outCount target shape - 1) ≤ 0x3FFFF ∧
    tileOutput target shape (outCount target shape - 1) < UInt32.size := by
  have some := layer.outCount_pos
  constructor
  · intro fits
    obtain ⟨_, destination⟩ := transferFits_iff.mp (fits 0 some).weights
    have last := fits (outCount target shape - 1) (by omega)
    rw [Nat.zero_add] at destination
    exact ⟨destination, (transferFits_iff.mp last.weights).1, last.output⟩
  · rintro ⟨destination, source, output⟩ tile below
    refine ⟨transferFits_iff.mpr ⟨?_, ?_⟩, ?_⟩
    · by_cases later : tile < outCount target shape - 1
      · have before := lastSource_le layer.columns later (Nat.sub_lt some Nat.one_pos)
        exact (before.trans (Nat.le_add_right _ _)).trans source
      · rwa [show tile = outCount target shape - 1 by omega]
    · have fewer := chunkCount_mono
        (Nat.mul_le_mul_right (perChannel shape) (tileWidth_le target shape tile))
      have shorter := Nat.mul_le_mul_right longest (Nat.sub_le_sub_right fewer 1)
      omega
    · have start : tileStart target tile ≤ tileStart target (outCount target shape - 1) :=
        Nat.mul_le_mul_right _ (by omega)
      exact (Nat.add_le_add_left (Nat.mul_le_mul_right _ start) _).trans_lt output

end Addresses

section Lengths

def plannedLoads (target : Target) (shape : Layer) : Nat :=
  (outCount target shape - 1) * chunkCount (target.peCols.toNat * perChannel shape)
    + chunkCount (tileWidth target shape (outCount target shape - 1) * perChannel shape)

/-- All tiles but the last are alike. -/
theorem tilesLength_eq (columns : 0 < target.peCols.toNat) (inTiles : Nat) {start count : Nat}
    (total : start + (count + 1) = outCount target shape) :
    tilesLength target shape inTiles start (count + 1) = (count + 1) * (3 + 2 * inTiles) +
      (count * chunkCount (target.peCols.toNat * perChannel shape)
        + chunkCount (tileWidth target shape (outCount target shape - 1) * perChannel shape)) := by
  induction count generalizing start with
  | zero =>
    rw [tilesLength_succ, tileLength, show start = outCount target shape - 1 by omega]
    show _ + 0 = _
    omega
  | succ count ih =>
    rw [tilesLength_succ, tileLength, tileWidth_full columns (by omega), ih (by omega)]
    rw [Nat.add_mul (count + 1) 1, Nat.add_mul count 1 (chunkCount _)]
    omega

/-- A layer whose addresses are in range has few tiles and few transfers in each. -/
theorem plannedLoads_lt (layer : Computable target shape) (fits : TilesFit target shape) :
    plannedLoads target shape < UInt32.size - 1 := by
  have some := layer.outCount_pos
  have loads (tile : Nat) (below : tile < outCount target shape) :
      chunkCount (tileWidth target shape tile * perChannel shape) ≤ 5 := by
    have destination := (transferFits_iff.mp (fits tile below).weights).2
    unfold longest at destination
    omega
  have last := loads (outCount target shape - 1) (by omega)
  -- Every tile has a column and every column a weight, all below the limit of a source.
  have place := (fits (outCount target shape - 1) (by omega)).bounds.1
  have tiles : outCount target shape - 1 ≤ 0x3FFFF := by
    have channels := Nat.le_mul_of_pos_right (outCount target shape - 1) layer.columns
    have weights := Nat.le_mul_of_pos_right (tileStart target (outCount target shape - 1)) layer.weights
    unfold tileWeights at place
    unfold tileStart at place weights
    omega
  have full : (outCount target shape - 1) * chunkCount (target.peCols.toNat * perChannel shape) ≤
      0x3FFFF * 5 := by
    by_cases several : 1 < outCount target shape
    · have first := loads 0 some
      rw [tileWidth_full layer.columns several] at first
      exact Nat.mul_le_mul tiles first
    · rw [show outCount target shape - 1 = 0 by omega]
      omega
  unfold plannedLoads UInt32.size
  omega

end Lengths

section Planning

/-- The products of a plan fit their words: the weights of a full tile, hence those of the last one,
and the transfers of all full tiles. -/
structure ProductsFit (target : Target) (shape : Layer) : Prop where
  full : target.peCols.toNat * perChannel shape < UInt64.size
  loads : (outCount target shape - 1) * chunkCount (target.peCols.toNat * perChannel shape) <
    UInt64.size

/-- The numbers of a plan, as they are without a limit. Only the number of transfers can be cut. -/
structure Plans (target : Target) (shape : Layer) (tiling : Tiling) : Prop where
  outTiles : tiling.outTiles.toNat = outCount target shape
  inTiles : tiling.inTiles.toNat = inCount target shape
  lastCount : tiling.lastCount.toNat = tileWidth target shape (outCount target shape - 1)
  weightLoads : tiling.weightLoads.toNat = min (plannedLoads target shape) (UInt32.size - 1)

theorem tileWidth_last (layer : Computable target shape) :
    tileWidth target shape (outCount target shape - 1) =
      if shape.output.channels.toNat % target.peCols.toNat = 0 then
        min target.peCols.toNat shape.output.channels.toNat
      else shape.output.channels.toNat % target.peCols.toNat := by
  have some := layer.outputs
  have parts := Nat.div_add_mod shape.output.channels.toNat target.peCols.toNat
  have below := Nat.mod_lt shape.output.channels.toNat layer.columns
  unfold tileWidth tileStart outCount
  rw [ceilDiv_eq_ite layer.columns]
  split
  case isTrue whole =>
    rw [Nat.sub_mul, Nat.mul_comm, Nat.one_mul]
    omega
  case isFalse =>
    rw [Nat.add_sub_cancel, Nat.mul_comm]
    omega

theorem toNat_lastCount (layer : Computable target shape) :
    (if shape.output.channels % target.peCols = 0 then min target.peCols shape.output.channels
      else shape.output.channels % target.peCols).toNat =
      tileWidth target shape (outCount target shape - 1) := by
  have even : shape.output.channels % target.peCols = 0 ↔
      shape.output.channels.toNat % target.peCols.toNat = 0 := by
    rw [← UInt32.toNat_inj, UInt32.toNat_mod]
    rfl
  rw [tileWidth_last layer, toNat_ite, toNat_min, UInt32.toNat_mod]
  simp only [even]

/-- The plan of a layer, whose number of transfers is all that is left to compute. -/
theorem ofLayer_eq (rows : 0 < target.peRows.toNat) (layer : Computable target shape)
    (products : ProductsFit target shape) :
    ∃ (outTiles inTiles lastCount : UInt32) (before last : UInt64),
      outTiles.toNat = outCount target shape ∧ inTiles.toNat = inCount target shape ∧
      lastCount.toNat = tileWidth target shape (outCount target shape - 1) ∧
      before.toNat + last.toNat = plannedLoads target shape ∧
      Tiling.ofLayer target shape = do
        let loads ← Checked.add64 before last
        return {
          outTiles, inTiles, lastCount
          weightLoads := if loads.toNat < UInt32.size then loads.toUInt32 else 0xFFFFFFFF } := by
  obtain ⟨outTiles, outOk, outNumber⟩ :=
    Checked.exists_divCeil32 (a := shape.output.channels) layer.columns
  obtain ⟨inTiles, inOk, inNumber⟩ := Checked.exists_divCeil32 (a := shape.input.channels) rows
  have outNumber' : outCount target shape = outTiles.toNat := outNumber
  have lastNumber := toNat_lastCount layer
  have perOutput := toNat_weightsPerOutput shape
  -- A full tile, the full tiles and the last tile.
  have fullFits := products.full
  rw [← perOutput, ← UInt32.toNat_toUInt64] at fullFits
  obtain ⟨full, fullOk, fullNumber⟩ := Checked.exists_mul64 fullFits
  have fullCount := toNat_transferCount full
  rw [← fullNumber, UInt32.toNat_toUInt64, perOutput] at fullCount
  have beforeFits := products.loads
  rw [← fullCount, outNumber', ← toNat_pred, ← UInt32.toNat_toUInt64] at beforeFits
  obtain ⟨before, beforeOk, beforeNumber⟩ := Checked.exists_mul64 beforeFits
  have narrower := tileWidth_le_columns target shape (outCount target shape - 1)
  have lastFits := (Nat.mul_le_mul_right (perChannel shape) narrower).trans_lt products.full
  rw [← perOutput, ← lastNumber, ← UInt32.toNat_toUInt64] at lastFits
  obtain ⟨last, lastOk, lastNumber'⟩ := Checked.exists_mul64 lastFits
  refine ⟨outTiles, inTiles, _, before, transferCount last, outNumber.symm, inNumber.symm,
    lastNumber, ?_, ?_⟩
  · unfold plannedLoads
    rw [toNat_transferCount, ← lastNumber', ← beforeNumber, UInt32.toNat_toUInt64, toNat_pred,
      UInt32.toNat_toUInt64, fullCount, lastNumber, perOutput, outNumber']
  · simp only [Tiling.ofLayer, outOk, inOk, fullOk, beforeOk, lastOk, bind, Except.bind]

/-- A plan is made unless the number of transfers overflows its word. -/
theorem ofLayer_cases (rows : 0 < target.peRows.toNat) (layer : Computable target shape)
    (products : ProductsFit target shape) :
    (plannedLoads target shape < UInt64.size ∧
      ∃ tiling, Tiling.ofLayer target shape = .ok tiling ∧ Plans target shape tiling) ∨
    UInt64.size ≤ plannedLoads target shape ∧ Tiling.ofLayer target shape = .error .addOverflow := by
  obtain ⟨outTiles, inTiles, lastCount, before, last, outNumber, inNumber, lastNumber, loadNumber,
    plan⟩ := ofLayer_eq rows layer products
  by_cases fits : before.toNat + last.toNat < UInt64.size
  · have ok : Checked.add64 before last = .ok (before + last) := if_pos fits
    have total := Checked.add64_eq_ok.mp ok
    rw [loadNumber] at total
    rw [ok] at plan
    refine .inl ⟨by omega, _, plan, outNumber, inNumber, lastNumber, ?_⟩
    show (if _ then _ else _ : UInt32).toNat = _
    rw [toNat_ite, total]
    split
    case isTrue small =>
      rw [UInt64.toNat_toUInt32, Nat.mod_eq_of_lt small]
      omega
    case isFalse large =>
      have most : (0xFFFFFFFF : UInt32).toNat = UInt32.size - 1 := rfl
      omega
  · have trapped : Checked.add64 before last = .error .addOverflow := if_neg fits
    rw [trapped] at plan
    exact .inr ⟨by omega, plan⟩

end Planning

section Compiling

/-- What is asked of a layer: that its program is short enough and that the farthest destination,
source and result can be addressed. -/
structure Accepted (target : Target) (layer : Layer) (tiling : Tiling) : Prop where
  length : tiling.instructionCount ≤ target.convBound
  destination : ((min target.peCols.toNat layer.output.channels.toNat * perChannel layer) ⌈/⌉ longest
    - 1) * longest ≤ 0xFFFF
  source : layer.weight.addr.toNat
    + (tiling.outTiles.toNat - 1) * target.peCols.toNat * perChannel layer
    + ((tiling.lastCount.toNat * perChannel layer) ⌈/⌉ longest - 1) * longest ≤ 0x3FFFF
  output : layer.output.addr.toNat + (tiling.outTiles.toNat - 1) * target.peCols.toNat
    * (layer.output.height.toNat * layer.output.width.toNat) ≤ 0xFFFFFFFF

structure Decided (target : Target) (layer : Layer) (tiling : Tiling) : Prop where
  accepted : (∃ program, layer.compile target = .ok program) ↔ Accepted target layer tiling
  length (program : Program) :
    layer.compile target = .ok program → program.size = tiling.instructionCount
  refused : (∃ program, layer.compile target = .ok program) ∨
    (∃ reason, layer.compile target = .error (.error (.invalidLayer reason))) ∨
    layer.compile target = .error (.error (.sequenceOverflow target.convBound))

theorem convolution?_self (kind : shape.kind = .conv2d ∨ shape.kind = .depthwiseConv2d) :
    shape.convolution? = some shape ∧ shape.kind.convolves = true := by
  rcases kind with kind | kind <;> simp [Layer.convolution?, LayerKind.convolves, kind]

theorem array_present (rows : 0 < target.peRows.toNat) (columns : 0 < target.peCols.toNat) :
    ¬(target.peRows = 0 ∨ target.peCols = 0) :=
  not_or.mpr ⟨ne_zero_of_toNat_pos rows, ne_zero_of_toNat_pos columns⟩

theorem compile_eq_shaped {layer : Layer} (rows : 0 < target.peRows.toNat)
    (columns : 0 < target.peCols.toNat) (valid : layer.validate = .ok ())
    (shaped : layer.convolution? = some shape) : layer.compile target = convolution target shape := by
  rw [compile_eq_of_shaped valid shaped, if_neg (array_present rows columns)]

theorem compile_eq_convolution (rows : 0 < target.peRows.toNat) (columns : 0 < target.peCols.toNat)
    (kind : shape.kind = .conv2d ∨ shape.kind = .depthwiseConv2d) (valid : shape.validate = .ok ()) :
    shape.compile target = convolution target shape :=
  compile_eq_shaped rows columns valid (convolution?_self kind).1

/-- A valid convolution can be computed on an array that has a column. -/
theorem computable_of_validate (columns : 0 < target.peCols.toNat)
    (kind : shape.kind = .conv2d ∨ shape.kind = .depthwiseConv2d) (valid : shape.validate = .ok ()) :
    Computable target shape := by
  obtain ⟨_, outputs, weights⟩ := convolution?_positive valid (convolution?_self kind).1
  refine ⟨columns, outputs, weights, ?_⟩
  simp only [Layer.validate, bind_eq_ok, liftM_eq_ok, ite_report_eq_ok] at valid
  obtain ⟨_, _, _, count, counted, present, _⟩ := valid
  have range := count.toNat_lt
  have positive : 0 < count.toNat := Nat.pos_of_ne_zero fun zero => present (UInt64.toNat_inj.mp zero)
  rw [elements_eq_ok counted, Nat.mul_assoc, Nat.mul_assoc] at range positive
  exact (Nat.le_mul_of_pos_left _ (Nat.pos_of_mul_pos_right positive)).trans_lt range

theorem calm_zero (products : ProductsFit target shape) : TileCalm target shape 0 := by
  have start : tileStart target 0 = 0 := Nat.zero_mul _
  have narrower := tileWidth_le_columns target shape 0
  refine ⟨?_, ?_, ?_, (Nat.mul_le_mul_right _ narrower).trans_lt products.full, ?_⟩
  all_goals rw [start]
  · exact Nat.zero_le _
  · exact (Nat.zero_add _).trans_lt target.peCols.toNat_lt
  all_goals
    rw [Nat.zero_mul]
    decide

theorem chunkCount_eq {len : Nat} (some : 0 < len) : chunkCount len = len ⌈/⌉ longest :=
  Nat.max_eq_right (ceilDiv_pos some (by decide))

/-- The length that a plan foretells is that of the program it leads to. -/
theorem Plans.instructionCount_eq {tiling : Tiling} (plans : Plans target shape tiling)
    (layer : Computable target shape) (fits : TilesFit target shape) :
    tiling.instructionCount =
      tilesLength target shape (inCount target shape) 0 (outCount target shape) + 1 := by
  have some := layer.outCount_pos
  have few := plannedLoads_lt layer fits
  have loads : tiling.weightLoads.toNat = plannedLoads target shape := by
    rw [plans.weightLoads]
    omega
  obtain ⟨count, total⟩ : ∃ count, outCount target shape = count + 1 :=
    ⟨outCount target shape - 1, by omega⟩
  have length := tilesLength_eq layer.columns (inCount target shape)
    ((Nat.zero_add (count + 1)).trans total.symm)
  unfold Tiling.instructionCount
  rw [plans.outTiles, plans.inTiles, loads, plannedLoads, total, length, total]
  rfl

theorem Plans.accepted_iff {tiling : Tiling} (plans : Plans target shape tiling)
    (layer : Computable target shape) : Accepted target shape tiling ↔ TilesFit target shape ∧
      tilesLength target shape (inCount target shape) 0 (outCount target shape) + 1 ≤
        target.convBound := by
  have some := layer.outCount_pos
  have first : tileWidth target shape 0 = min target.peCols.toNat shape.output.channels.toNat := by
    unfold tileWidth tileStart
    rw [Nat.zero_mul, Nat.sub_zero]
  have loads {tile : Nat} (below : tile < outCount target shape) :
      chunkCount (tileWidth target shape tile * perChannel shape) =
        (tileWidth target shape tile * perChannel shape) ⌈/⌉ longest := by
    have inside := (lt_outCount_iff layer.columns tile).mp below
    have columns := layer.columns
    refine chunkCount_eq (Nat.mul_pos ?_ layer.weights)
    unfold tileWidth tileStart
    omega
  have conditions := tilesFit_iff layer
  unfold lastSource tileOutput tileWeights tileStart at conditions
  rw [loads some, loads (Nat.sub_lt some Nat.one_pos), first, ← plans.lastCount, ← plans.outTiles]
    at conditions
  constructor
  · rintro ⟨length, destination, source, output⟩
    have fits := conditions.mpr ⟨destination, source, by unfold UInt32.size; omega⟩
    exact ⟨fits, (plans.instructionCount_eq layer fits).symm.trans_le length⟩
  · rintro ⟨fits, length⟩
    obtain ⟨destination, source, output⟩ := conditions.mp fits
    exact ⟨(plans.instructionCount_eq layer fits).trans_le length, destination, source,
      Nat.le_of_lt_succ output⟩

section Layers

variable {tiling : Tiling} (rows : 0 < target.peRows.toNat) (columns : 0 < target.peCols.toNat)
  (kind : shape.kind = .conv2d ∨ shape.kind = .depthwiseConv2d) (valid : shape.validate = .ok ())
  (products : ProductsFit target shape)
include rows columns kind valid products

theorem compile_grows (planned : Tiling.ofLayer target shape = .ok tiling) :
    Grows (.empty target.convBound) (TilesFit target shape)
      (tilesLength target shape (inCount target shape) 0 (outCount target shape) + 1)
      (shape.compile target) := by
  rw [compile_eq_convolution rows columns kind valid]
  exact convolution_grows (computable_of_validate columns kind valid) planned (calm_zero products)

/-- A layer with a plan is decided. -/
theorem decided_of_plans (planned : Tiling.ofLayer target shape = .ok tiling)
    (plans : Plans target shape tiling) : Decided target shape tiling := by
  have layer := computable_of_validate columns kind valid
  have grows := compile_grows rows columns kind valid products planned
  -- A program is made only if all its addresses fit, and then it is as long as planned.
  have sound (program : Program) (ok : shape.compile target = .ok program) :
      TilesFit target shape ∧ program.size = tiling.instructionCount ∧
        program.bound = target.convBound := by
    obtain ⟨self, convolves⟩ := convolution?_self kind
    obtain ⟨shape', shaped, code⟩ := compile_convolution convolves ok
    cases self.symm.trans shaped
    obtain ⟨bound, size⟩ := grows.length_eq ok
    rw [plans.instructionCount_eq layer code.fits]
    exact ⟨code.fits, size.trans (Nat.zero_add _), bound⟩
  refine ⟨?_, fun program ok => (sound program ok).2.1, grows.ok_or_refused⟩
  rw [plans.accepted_iff layer]
  constructor
  · rintro ⟨program, ok⟩
    obtain ⟨fits, size, bound⟩ := sound program ok
    refine ⟨fits, ?_⟩
    rw [← plans.instructionCount_eq layer fits, ← size, ← bound]
    exact program.size_le
  · rintro ⟨fits, room⟩
    exact grows.exists_ok fits ((Nat.zero_add _).trans_le room)

end Layers

/-- A valid convolution is decided by its plan exactly if the transfers of its weights can be counted:
where their number overflows, compiling stops without an answer. -/
theorem compile_decided_iff {layer : Layer}
    (kind : layer.kind = .conv2d ∨ layer.kind = .depthwiseConv2d) (rows : 0 < target.peRows.toNat)
    (columns : 0 < target.peCols.toNat) (valid : layer.validate = .ok ())
    (products : ProductsFit target layer) :
    ((∃ tiling, Tiling.ofLayer target layer = .ok tiling ∧ Decided target layer tiling) ↔
      plannedLoads target layer < UInt64.size) ∧
    (UInt64.size ≤ plannedLoads target layer →
      layer.compile target = .error (.trap .addOverflow)) := by
  have computable := computable_of_validate columns kind valid
  rcases ofLayer_cases rows computable products with ⟨few, tiling, planned, plans⟩ | ⟨many, trapped⟩
  · refine ⟨⟨fun _ => few, fun _ => ⟨tiling, planned, ?_⟩⟩, fun many => by omega⟩
    exact decided_of_plans rows columns kind valid products planned plans
  · refine ⟨⟨?_, fun few => by omega⟩, fun _ => ?_⟩
    · rintro ⟨tiling, planned, _⟩
      rw [trapped] at planned
      cases planned
    · rw [compile_eq_convolution rows columns kind valid, convolution, trapped]
      rfl

/-- The bound is the exact length of the program. -/
theorem partialTiles_decided :
    ∃ tiling, Tiling.ofLayer { peRows := 2, peCols := 2, convBound := 17 } partialTiles = .ok tiling ∧
      Decided { peRows := 2, peCols := 2, convBound := 17 } partialTiles tiling ∧
      tiling.instructionCount = 17 := by
  have products : ProductsFit { peRows := 2, peCols := 2, convBound := 17 } partialTiles :=
    ⟨by decide, by decide⟩
  have decides := compile_decided_iff (.inl rfl) (by decide) (by decide) rfl products
  obtain ⟨tiling, planned, decided⟩ := decides.1.mpr (by decide)
  refine ⟨tiling, planned, decided, ?_⟩
  cases planned
  rfl

/-- More weights than a word can count, although a full tile and all full tiles can be counted. -/
def vastLayer : Layer :=
  .conv2d { addr := 0, batch := 1, channels := 4294967295, height := 1, width := 1 }
    { addr := 0, batch := 1, channels := 1082130432, height := 1, width := 1 }
    { addr := 0, batch := 1, channels := 1, height := 1, width := 1 } (.square 255)

theorem vastLayer_undecided : vastLayer.validate = .ok () ∧
    ProductsFit { peRows := 16, peCols := 65536 } vastLayer ∧
    vastLayer.compile { peRows := 16, peCols := 65536 } = .error (.trap .addOverflow) :=
  ⟨rfl, ⟨by decide, by decide⟩, rfl⟩

end Compiling

end NpuStack.Lowering
