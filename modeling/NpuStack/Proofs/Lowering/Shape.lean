import NpuStack.Proofs.Lowering.Steps

/-! The instructions of a compiled layer, written out. Three kinds of program
come out of the compiler: tiled convolutions, pooling and elementwise ones. -/

set_option autoImplicit false

namespace NpuStack

def LayerKind.convolves : LayerKind → Bool
  | .conv2d | .depthwiseConv2d | .fullyConnected => true
  | _ => false

/-- The convolution that a layer is lowered as; a fully connected layer is flattened first. -/
def Layer.convolution? (layer : Layer) : Option Layer :=
  match layer.kind with
  | .conv2d | .depthwiseConv2d => some layer
  | .fullyConnected => layer.flattened.toOption
  | _ => none

namespace Lowering

def outCount (target : Target) (shape : Layer) : Nat :=
  shape.output.channels.toNat ⌈/⌉ target.peCols.toNat

def inCount (target : Target) (shape : Layer) : Nat :=
  shape.input.channels.toNat ⌈/⌉ target.peRows.toNat

theorem lt_outCount_iff {target : Target} {shape : Layer} (columns : 0 < target.peCols.toNat)
    (tile : Nat) :
    tile < outCount target shape ↔ tile * target.peCols.toNat < shape.output.channels.toNat := by
  unfold outCount
  rw [← Nat.not_le, ceilDiv_le_iff_le_mul columns, Nat.not_le, Nat.mul_comm]

theorem tileWidth_le_columns (target : Target) (shape : Layer) (tile : Nat) :
    tileWidth target shape tile ≤ target.peCols.toNat := Nat.min_le_left _ _

/-- Only the last tile may be narrower than the array. -/
theorem tileWidth_full {target : Target} {shape : Layer} (columns : 0 < target.peCols.toNat)
    {tile : Nat} (next : tile + 1 < outCount target shape) :
    tileWidth target shape tile = target.peCols.toNat := by
  have inside := (lt_outCount_iff columns (tile + 1)).mp next
  rw [Nat.add_mul] at inside
  unfold tileWidth tileStart
  omega

section Validation

theorem elements_eq_ok {t : Tensor} {count : UInt64} (ok : t.elements = .ok count) :
    count.toNat = t.batch.toNat * t.channels.toNat * t.height.toNat * t.width.toNat := by
  simp only [Tensor.elements, bind_eq_ok, Checked.mul64_eq_ok, UInt32.toNat_toUInt64] at ok
  obtain ⟨planes, planeNumber, rows, rowNumber, countNumber⟩ := ok
  rw [← countNumber, ← rowNumber, ← planeNumber]

theorem check_eq_ok {layer : Layer} : check layer = .ok () ↔ layer.validate = .ok () := by
  unfold check
  split
  case h_1 valid => exact ⟨fun _ => valid, fun _ => rfl⟩
  case h_2 cause invalid =>
    rw [invalid]
    exact ⟨fun h => (by cases h), fun h => (by cases h)⟩
  case h_3 fault invalid =>
    rw [invalid]
    exact ⟨fun h => (by cases h), fun h => (by cases h)⟩

structure Extents (t : Tensor) : Prop where
  channels : 0 < t.channels.toNat
  height : 0 < t.height.toNat
  width : 0 < t.width.toNat

theorem extents_of_elements {t : Tensor} {count : UInt64} (ok : t.elements = .ok count)
    (present : ¬count = 0) : Extents t := by
  have positive : 0 < count.toNat := by
    apply Nat.pos_of_ne_zero
    intro zero
    exact present (UInt64.toNat_inj.mp zero)
  rw [elements_eq_ok ok] at positive
  -- A product is positive only if every factor is.
  have rows := Nat.pos_of_mul_pos_right positive
  have planes := Nat.pos_of_mul_pos_right rows
  exact ⟨Nat.pos_of_mul_pos_left planes, Nat.pos_of_mul_pos_left rows,
    Nat.pos_of_mul_pos_left positive⟩

theorem validate_extents {layer : Layer} (valid : layer.validate = .ok ()) :
    Extents layer.input ∧ Extents layer.output := by
  simp only [Layer.validate, bind_eq_ok, liftM_eq_ok, ite_report_eq_ok] at valid
  obtain ⟨inputs, inputCount, inputPresent, outputs, outputCount, outputPresent, _⟩ := valid
  exact ⟨extents_of_elements inputCount inputPresent, extents_of_elements outputCount outputPresent⟩

theorem pos_of_ne_zero {byte : UInt8} (present : ¬byte = 0) : 0 < byte.toNat := by
  apply Nat.pos_of_ne_zero
  intro zero
  exact present (UInt8.toNat_inj.mp zero)

theorem validate_kernel {layer : Layer} (valid : layer.validate = .ok ())
    (kind : layer.kind = .conv2d ∨ layer.kind = .depthwiseConv2d) :
    0 < layer.conv.kernelH.toNat ∧ 0 < layer.conv.kernelW.toNat := by
  rcases kind with kind | kind
  all_goals
    simp only [Layer.validate, bind_eq_ok, liftM_eq_ok, ite_report_eq_ok, kind] at valid
    obtain ⟨_, _, _, _, _, _, kernel, _⟩ := valid
    exact ⟨pos_of_ne_zero fun zero => kernel (.inl zero), pos_of_ne_zero fun zero => kernel (.inr zero)⟩

end Validation

section Dispatch

variable {target : Target} {layer : Layer} {program : Program}

/-- The three ways of compiling. -/
theorem compile_cases (ok : layer.compile target = .ok program) :
    layer.validate = .ok () ∧ (0 < target.peRows.toNat ∧ 0 < target.peCols.toNat) ∧
    ((∃ shape, layer.convolution? = some shape ∧ convolution target shape = .ok program) ∨
      (∃ op, layer.kind.poolOpcode? = some op ∧ pooling target layer op = .ok program) ∨
      ∃ op second, layer.kind = .eltwise op ∧ layer.second = some second ∧
        elementwise target layer op second = .ok program) := by
  simp only [Layer.compile, refuse, bind_eq_ok, ite_report_eq_ok, not_or] at ok
  obtain ⟨⟨⟩, valid, ⟨rows, columns⟩, ok⟩ := ok
  have positive {n : UInt32} (present : ¬n = 0) : 0 < n.toNat := by
    apply Nat.pos_of_ne_zero
    intro zero
    exact present (UInt32.toNat_inj.mp zero)
  refine ⟨check_eq_ok.mp valid, ⟨positive rows, positive columns⟩, ?_⟩
  cases kind : layer.kind with
  | conv2d | depthwiseConv2d =>
    simp only [kind] at ok
    exact .inl ⟨layer, by simp [Layer.convolution?, kind], ok⟩
  | fullyConnected =>
    simp only [kind, bind_eq_ok, liftM_eq_ok] at ok
    obtain ⟨shape, flattened, ok⟩ := ok
    exact .inl ⟨shape, by simp [Layer.convolution?, kind, flattened, Except.toOption], ok⟩
  | maxPool | avgPool | globalAvgPool | globalMaxPool =>
    simp only [kind] at ok
    exact .inr (.inl ⟨_, rfl, ok⟩)
  | eltwise op =>
    simp only [kind] at ok
    cases given : layer.second with
    | none =>
      simp only [given] at ok
      cases ok
    | some second =>
      simp only [given] at ok
      exact .inr (.inr ⟨op, second, rfl, rfl, ok⟩)
  | concat | softmax | batchNorm | reshape =>
    simp only [kind] at ok
    cases ok

end Dispatch

section Convolutions

/-- A fully connected layer as a convolution: one pixel, one weight for each input feature. -/
theorem flattened_eq_ok {layer shape : Layer} (ok : layer.flattened = .ok shape) :
    shape.input.channels.toNat =
      layer.input.channels.toNat * layer.input.height.toNat * layer.input.width.toNat ∧
    shape = { layer with
      kind := .conv2d
      conv := .square 1
      input := { layer.input with channels := shape.input.channels, height := 1, width := 1 }
      output := { layer.output with height := 1, width := 1 } } := by
  simp only [Layer.flattened, bind_eq_ok, Checked.mul32_eq_ok, pure_eq_ok] at ok
  obtain ⟨rows, rowNumber, features, featureNumber, rfl⟩ := ok
  exact ⟨by rw [← featureNumber, ← rowNumber], rfl⟩

theorem Tiling.counts {target : Target} {shape : Layer} {tiling : Tiling}
    (ok : Tiling.ofLayer target shape = .ok tiling) :
    tiling.outTiles.toNat = outCount target shape ∧ tiling.inTiles.toNat = inCount target shape := by
  simp only [Tiling.ofLayer, bind_eq_ok, Checked.divCeil32_eq_ok, pure_eq_ok] at ok
  obtain ⟨outTiles, ⟨_, outNumber⟩, inTiles, ⟨_, inNumber⟩, _, _, _, _, _, _, _, _, rfl⟩ := ok
  exact ⟨outNumber.symm, inNumber.symm⟩

structure ConvolutionCode (target : Target) (shape : Layer) (code : List Instruction) : Prop where
  rows : 0 < target.peRows.toNat
  columns : 0 < target.peCols.toNat
  inputs : 0 < shape.input.channels.toNat
  outputs : 0 < shape.output.channels.toNat
  weights : 0 < perChannel shape
  fits : ∀ tile < outCount target shape, TileFits target shape tile
  code_eq : code =
    clearedTiles (inCount target shape) 0 (outCount target shape) target shape ++ [.halt]
  planned : ∃ tiling, Tiling.ofLayer target shape = .ok tiling ∧
    tiling.outTiles.toNat = outCount target shape ∧ tiling.inTiles.toNat = inCount target shape

theorem convolution_code {target : Target} {shape : Layer} {program : Program}
    (rows : 0 < target.peRows.toNat) (columns : 0 < target.peCols.toNat)
    (inputs : 0 < shape.input.channels.toNat) (outputs : 0 < shape.output.channels.toNat)
    (weights : 0 < perChannel shape) (ok : convolution target shape = .ok program) :
    ConvolutionCode target shape program.instructions.toList := by
  simp only [convolution, bind_eq_ok, liftM_eq_ok] at ok
  obtain ⟨tiling, planned, cleared, clear, tiled, tiles, halt⟩ := ok
  obtain ⟨outNumber, inNumber⟩ := Tiling.counts planned
  have some : 0 < outCount target shape := ceilDiv_pos outputs columns
  obtain ⟨remaining, count⟩ : ∃ remaining, tiling.outTiles.toNat = remaining + 1 :=
    ⟨tiling.outTiles.toNat - 1, by omega⟩
  rw [count] at tiles
  obtain ⟨fits, added, appended, clears⟩ := pushOutputTiles_appended (by simp [count]) tiles
  rw [← count, outNumber, inNumber, UInt32.toNat_zero] at clears
  have all := ((push_appended clear).append appended).append (push_appended halt)
  refine ⟨rows, columns, inputs, outputs, weights, fun tile below => ?_, ?_,
    ⟨tiling, planned, outNumber, inNumber⟩⟩
  · exact fits tile (Nat.zero_le tile) (by omega)
  · rw [all.instructions, ← clears]
    exact List.nil_append _

theorem convolution?_cases {layer shape : Layer} (shaped : layer.convolution? = some shape) :
    (layer.kind = .conv2d ∨ layer.kind = .depthwiseConv2d) ∧ shape = layer ∨
    layer.kind = .fullyConnected ∧ layer.flattened = .ok shape := by
  unfold Layer.convolution? at shaped
  split at shaped
  case h_1 kind =>
    cases shaped
    exact .inl ⟨.inl kind, rfl⟩
  case h_2 kind =>
    cases shaped
    exact .inl ⟨.inr kind, rfl⟩
  case h_3 kind =>
    cases flattened : layer.flattened with
    | error cause => simp [flattened, Except.toOption] at shaped
    | ok flat =>
      simp only [flattened, Except.toOption, Option.some.injEq] at shaped
      exact .inr ⟨kind, by rw [shaped]⟩
  case h_4 => cases shaped

/-- A valid layer that convolves is compiled as its convolution, unless the array has no elements. -/
theorem compile_eq_of_shaped {target : Target} {layer shape : Layer} (valid : layer.validate = .ok ())
    (shaped : layer.convolution? = some shape) :
    layer.compile target =
      if target.peRows = 0 ∨ target.peCols = 0 then refuse .emptyArray
      else convolution target shape := by
  unfold Layer.compile
  rw [check_eq_ok.mpr valid]
  show (if _ then refuse .emptyArray >>= _ else _) = _
  rcases convolution?_cases shaped with ⟨kind | kind, rfl⟩ | ⟨kind, flattened⟩
  · rw [kind]
    rfl
  · rw [kind]
    rfl
  · rw [kind]
    dsimp only
    rw [flattened]
    rfl

/-- Inputs, outputs and weights of a valid layer's convolution are there. -/
theorem convolution?_positive {layer shape : Layer} (valid : layer.validate = .ok ())
    (shaped : layer.convolution? = some shape) :
    0 < shape.input.channels.toNat ∧ 0 < shape.output.channels.toNat ∧ 0 < perChannel shape := by
  obtain ⟨input, output⟩ := validate_extents valid
  rcases convolution?_cases shaped with ⟨kind, rfl⟩ | ⟨_, flattened⟩
  · obtain ⟨kernelH, kernelW⟩ := validate_kernel valid kind
    exact ⟨input.channels, output.channels,
      Nat.mul_pos (Nat.mul_pos input.channels kernelH) kernelW⟩
  · obtain ⟨features, same⟩ := flattened_eq_ok flattened
    have inputs : 0 < shape.input.channels.toNat := by
      rw [features]
      exact Nat.mul_pos (Nat.mul_pos input.channels input.height) input.width
    refine ⟨inputs, ?_, ?_⟩
    · rw [same]
      exact output.channels
    · have kernel : shape.conv = .square 1 := by rw [same]
      unfold perChannel
      rw [kernel]
      exact Nat.mul_pos (Nat.mul_pos inputs (by decide)) (by decide)

theorem convolution?_activation {layer shape : Layer} (shaped : layer.convolution? = some shape) :
    shape.activation = layer.activation := by
  rcases convolution?_cases shaped with ⟨_, rfl⟩ | ⟨_, flattened⟩
  · rfl
  · rw [(flattened_eq_ok flattened).2]

/-- A layer that convolves compiles to the code of its convolution. -/
theorem compile_convolution {target : Target} {layer : Layer} {program : Program}
    (convolves : layer.kind.convolves = true) (ok : layer.compile target = .ok program) :
    ∃ shape, layer.convolution? = some shape ∧
      ConvolutionCode target shape program.instructions.toList := by
  obtain ⟨valid, ⟨rows, columns⟩, ways⟩ := compile_cases ok
  rcases ways with ⟨shape, shaped, ok⟩ | ⟨op, pools, _⟩ | ⟨op, second, kind, _⟩
  · obtain ⟨inputs, outputs, weights⟩ := convolution?_positive valid shaped
    exact ⟨shape, shaped, convolution_code rows columns inputs outputs weights ok⟩
  · -- A kind has an opcode for pooling or convolves, never both.
    cases kind : layer.kind <;> simp [kind, LayerKind.convolves, LayerKind.poolOpcode?] at convolves pools
  · simp [kind, LayerKind.convolves] at convolves

end Convolutions

section Simple

variable {target : Target} {layer : Layer} {program : Program}

/-- Every instruction of a transfer starts inside the ranges of its operand. -/
def TransferFits (src dst len : Nat) : Prop := ∀ k < chunkCount len, StartsInRange src dst k

/-- The last instruction of a transfer reaches farthest. -/
theorem transferFits_iff {src dst len : Nat} :
    TransferFits src dst len ↔ StartsInRange src dst (chunkCount len - 1) := by
  have some := chunkCount_pos len
  refine ⟨fun fits => fits _ (by omega), fun ⟨srcRange, dstRange⟩ k below => ?_⟩
  have earlier : k * longest ≤ (chunkCount len - 1) * longest := Nat.mul_le_mul_right _ (by omega)
  unfold StartsInRange
  omega

def poolingCode (layer : Layer) (op : Opcode) (inputBytes outputBytes : Nat) : List Instruction :=
  transfers .dmaLoadA layer.input.addr.toNat 0 inputBytes ++ [.waitDma]
    ++ [.pool op layer.pool.operand]
    ++ transfers .dmaStore 0 layer.output.addr.toNat outputBytes ++ [.waitDma]
    ++ [.halt]

theorem pooling_code {op : Opcode} (ok : pooling target layer op = .ok program) :
    ∃ inputBytes outputBytes : UInt64,
      layer.input.byteSize = .ok inputBytes ∧ layer.output.byteSize = .ok outputBytes ∧
      TransferFits layer.input.addr.toNat 0 inputBytes.toNat ∧
      TransferFits 0 layer.output.addr.toNat outputBytes.toNat ∧
      program.instructions.toList = poolingCode layer op inputBytes.toNat outputBytes.toNat := by
  simp only [pooling, bind_eq_ok, liftM_eq_ok, narrow_eq_ok] at ok
  obtain ⟨inputBytes, inputSize, input, inputNumber, outputBytes, outputSize, output, outputNumber,
    loaded, load, waited, wait, pooled, pool, stored, store, settled, settle, halt⟩ := ok
  obtain ⟨load, loadFits⟩ := pushTransfer_appended load
  obtain ⟨store, storeFits⟩ := pushTransfer_appended store
  rw [← inputNumber, UInt32.toNat_zero] at load loadFits
  rw [← outputNumber, UInt32.toNat_zero] at store storeFits
  refine ⟨inputBytes, outputBytes, inputSize, outputSize, loadFits, storeFits, ?_⟩
  have all := ((((load.append (push_appended wait)).append (push_appended pool)).append store).append
    (push_appended settle)).append (push_appended halt)
  exact all.instructions.trans (List.nil_append _)

def elementwiseCode (layer : Layer) (op : EltwiseOp) (second : Tensor)
    (inputBytes outputBytes : Nat) : List Instruction :=
  transfers .dmaLoadA layer.input.addr.toNat 0 inputBytes ++ [.waitDma]
    ++ transfers .dmaLoadA second.addr.toNat inputBytes inputBytes ++ [.waitDma]
    ++ [.eltwise op.opcode layer.activation.fusionFlags]
    ++ transfers .dmaStore 0 layer.output.addr.toNat outputBytes ++ [.waitDma]
    ++ [.halt]

theorem elementwise_code {op : EltwiseOp} {second : Tensor}
    (ok : elementwise target layer op second = .ok program) :
    ∃ inputBytes outputBytes : UInt64,
      layer.input.byteSize = .ok inputBytes ∧ layer.output.byteSize = .ok outputBytes ∧
      TransferFits layer.input.addr.toNat 0 inputBytes.toNat ∧
      TransferFits second.addr.toNat inputBytes.toNat inputBytes.toNat ∧
      TransferFits 0 layer.output.addr.toNat outputBytes.toNat ∧
      program.instructions.toList =
        elementwiseCode layer op second inputBytes.toNat outputBytes.toNat := by
  simp only [elementwise, bind_eq_ok, liftM_eq_ok, narrow_eq_ok] at ok
  obtain ⟨inputBytes, inputSize, input, inputNumber, outputBytes, outputSize, output, outputNumber,
    loaded, load, waited, wait, loaded', load', waited', wait', combined, combine, stored, store,
    settled, settle, halt⟩ := ok
  obtain ⟨load, loadFits⟩ := pushTransfer_appended load
  obtain ⟨load', loadFits'⟩ := pushTransfer_appended load'
  obtain ⟨store, storeFits⟩ := pushTransfer_appended store
  rw [← inputNumber] at load loadFits load' loadFits'
  rw [UInt32.toNat_zero] at load loadFits
  rw [← outputNumber, UInt32.toNat_zero] at store storeFits
  refine ⟨inputBytes, outputBytes, inputSize, outputSize, loadFits, loadFits', storeFits, ?_⟩
  have all := ((((((load.append (push_appended wait)).append load').append
    (push_appended wait')).append (push_appended combine)).append store).append
    (push_appended settle)).append (push_appended halt)
  exact all.instructions.trans (List.nil_append _)

end Simple

end Lowering

end NpuStack
