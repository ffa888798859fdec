import NpuStack.Proofs.Lowering.Acceptance

/-! A fully connected layer and the convolution of one pixel that it is. The two are
validated by different rules and reach the tiling loop on different ways; they are
valid together and compile to the same answer. -/

set_option autoImplicit false

namespace NpuStack

def Tensor.volume (t : Tensor) : Nat :=
  t.batch.toNat * t.channels.toNat * t.height.toNat * t.width.toNat

structure Tensor.Occupied (t : Tensor) : Prop where
  present : 0 < t.volume
  counted : t.volume < UInt64.size

/-- What validation asks of a layer beyond its tensors, as far as the window goes. -/
def Layer.Slides (layer : Layer) : Prop :=
  match layer.kind with
  | .conv2d | .depthwiseConv2d =>
    layer.conv.kernelH ≠ 0 ∧ layer.conv.kernelW ≠ 0 ∧ layer.conv.strideH ≠ 0
      ∧ layer.conv.strideW ≠ 0
  | .maxPool | .avgPool =>
    layer.pool.kernelH ≠ 0 ∧ layer.pool.kernelW ≠ 0 ∧ layer.pool.strideH ≠ 0
      ∧ layer.pool.strideW ≠ 0
  | .eltwise _ => False
  | _ => True

namespace Lowering

variable {layer shape : Layer}

section Validity

/-- The products on the way to the volume are not above it. -/
theorem occupied_iff {t : Tensor} :
    t.Occupied ↔ ∃ count, t.elements = .ok count ∧ ¬count = 0 := by
  constructor
  · rintro ⟨present, counted⟩
    have width : 0 < t.width.toNat := Nat.pos_of_mul_pos_left present
    have height : 0 < t.height.toNat := Nat.pos_of_mul_pos_left (Nat.pos_of_mul_pos_right present)
    have rowsFit := (Nat.le_mul_of_pos_right _ width).trans_lt counted
    have planesFit := (Nat.le_mul_of_pos_right _ height).trans_lt rowsFit
    simp only [← UInt32.toNat_toUInt64] at planesFit rowsFit
    obtain ⟨planes, planesOk, planesNumber⟩ := Checked.exists_mul64 planesFit
    rw [planesNumber] at rowsFit
    obtain ⟨rows, rowsOk, rowsNumber⟩ := Checked.exists_mul64 rowsFit
    have volume : t.volume = rows.toNat * t.width.toUInt64.toNat := by
      rw [← rowsNumber, ← planesNumber]
      simp only [UInt32.toNat_toUInt64]
      rfl
    rw [volume] at present counted
    obtain ⟨count, countOk, countNumber⟩ := Checked.exists_mul64 counted
    have ok : t.elements = .ok count := by
      simp only [Tensor.elements, bind_eq_ok]
      exact ⟨planes, planesOk, rows, rowsOk, countOk⟩
    refine ⟨count, ok, ?_⟩
    rintro rfl
    rw [countNumber] at present
    exact Nat.lt_irrefl 0 present
  · rintro ⟨count, ok, present⟩
    have volume : count.toNat = t.volume := elements_eq_ok ok
    constructor
    · rw [← volume]
      exact Nat.pos_of_ne_zero fun zero => present (UInt64.toNat_inj.mp zero)
    · rw [← volume]
      exact count.toNat_lt

/-- A layer whose window slides is valid as soon as its tensors have elements. -/
theorem validate_iff_of_slides (slides : layer.Slides) :
    layer.validate = .ok () ↔ layer.input.Occupied ∧ layer.output.Occupied := by
  simp only [occupied_iff, Layer.validate, bind_eq_ok, liftM_eq_ok, ite_report_eq_ok]
  constructor
  · rintro ⟨inputs, inputOk, inputPresent, outputs, outputOk, outputPresent, _⟩
    exact ⟨⟨inputs, inputOk, inputPresent⟩, outputs, outputOk, outputPresent⟩
  · rintro ⟨⟨inputs, inputOk, inputPresent⟩, outputs, outputOk, outputPresent⟩
    refine ⟨inputs, inputOk, inputPresent, outputs, outputOk, outputPresent, ?_⟩
    unfold Layer.Slides at slides
    cases kind : layer.kind with rw [kind] at slides
    | conv2d | depthwiseConv2d =>
      obtain ⟨kernelH, kernelW, strideH, strideW⟩ := slides
      exact (if_neg (not_or.mpr ⟨kernelH, kernelW⟩)).trans
        (if_neg (not_or.mpr ⟨strideH, strideW⟩))
    | maxPool | avgPool =>
      obtain ⟨kernelH, kernelW, strideH, strideW⟩ := slides
      exact if_neg (by simp only [kernelH, kernelW, strideH, strideW, or_self, not_false_eq_true])
    | eltwise op => exact slides.elim
    | _ => rfl

/-- A kernel of one pixel slides by itself. -/
theorem validate_iff_occupied
    (plain : layer.kind = .fullyConnected ∨ layer.kind = .conv2d ∧ layer.conv = .square 1) :
    layer.validate = .ok () ↔ layer.input.Occupied ∧ layer.output.Occupied := by
  apply validate_iff_of_slides
  unfold Layer.Slides
  rcases plain with kind | ⟨kind, conv⟩
  · rw [kind]
    trivial
  · rw [kind, conv]
    exact ⟨by decide, by decide, by decide, by decide⟩

end Validity

section Shape

theorem mul32_one (n : UInt32) : Checked.mul32 n 1 = .ok n :=
  Checked.mul32_eq_ok.mpr (Nat.mul_one _)

theorem exists_flattened (width : 0 < layer.input.width.toNat)
    (fits : layer.input.channels.toNat * layer.input.height.toNat * layer.input.width.toNat
      < UInt32.size) :
    ∃ shape, layer.flattened = .ok shape := by
  obtain ⟨rows, rowsOk, rowsNumber⟩ :=
    Checked.exists_mul32 ((Nat.le_mul_of_pos_right _ width).trans_lt fits)
  rw [rowsNumber] at fits
  obtain ⟨features, featuresOk, _⟩ := Checked.exists_mul32 fits
  simp only [Layer.flattened, bind_eq_ok, pure_eq_ok]
  exact ⟨_, rows, rowsOk, features, featuresOk, rfl⟩

/-- What has one pixel already keeps its shape. -/
theorem flattened_fixed (ok : layer.flattened = .ok shape) : shape.flattened = .ok shape := by
  rw [(flattened_eq_ok ok).2]
  simp only [Layer.flattened, mul32_one]
  rfl

/-- Flattening keeps the volume of the input and shrinks that of the output to its channels. -/
theorem flattened_occupied (ok : layer.flattened = .ok shape) (input : layer.input.Occupied)
    (output : layer.output.Occupied) : shape.input.Occupied ∧ shape.output.Occupied := by
  obtain ⟨features, same⟩ := flattened_eq_ok ok
  have inputVolume : shape.input.volume = layer.input.volume := by
    have kept : shape.input.volume = layer.input.batch.toNat * shape.input.channels.toNat * 1 * 1 := by
      rw [same]
      rfl
    rw [kept, features, Nat.mul_one, Nat.mul_one, ← Nat.mul_assoc, ← Nat.mul_assoc]
    rfl
  have outputVolume : shape.output.volume = layer.output.batch.toNat * layer.output.channels.toNat := by
    have kept : shape.output.volume =
        layer.output.batch.toNat * layer.output.channels.toNat * 1 * 1 := by
      rw [same]
      rfl
    rw [kept, Nat.mul_one, Nat.mul_one]
  have present := output.present
  have width : 0 < layer.output.width.toNat := Nat.pos_of_mul_pos_left present
  have height : 0 < layer.output.height.toNat :=
    Nat.pos_of_mul_pos_left (Nat.pos_of_mul_pos_right present)
  refine ⟨⟨inputVolume ▸ input.present, inputVolume ▸ input.counted⟩, ?_, ?_⟩
  · rw [outputVolume]
    exact Nat.pos_of_mul_pos_right (Nat.pos_of_mul_pos_right present)
  · rw [outputVolume]
    exact (Nat.le_mul_of_pos_right _ height).trans_lt
      ((Nat.le_mul_of_pos_right _ width).trans_lt output.counted)

end Shape

def varied (layer : Layer) (conv : ConvParams) (height width : UInt32) : Layer :=
  { layer with conv, output := { layer.output with height, width } }

/-- A fully connected layer is compiled as its flattened form. -/
theorem compile_flattened {target : Target} (kind : layer.kind = .fullyConnected)
    (flattened : layer.flattened = .ok shape) (valid : layer.validate = .ok ())
    (shapeValid : shape.validate = .ok ()) : layer.compile target = shape.compile target := by
  have shapeKind : shape.kind = .conv2d := by rw [(flattened_eq_ok flattened).2]
  have shaped : layer.convolution? = some shape := by
    simp [Layer.convolution?, kind, flattened, Except.toOption]
  rw [compile_eq_of_shaped valid shaped,
    compile_eq_of_shaped shapeValid (convolution?_self (.inl shapeKind)).1]

/-- A convolution stands in for a fully connected layer on a target, and nothing else of the layer
counts. -/
structure StandsIn (target : Target) (layer shape : Layer) : Prop where
  flattened : layer.flattened = .ok shape
  features : shape.input.channels.toNat =
    layer.input.channels.toNat * layer.input.height.toNat * layer.input.width.toNat
  kind : shape.kind = .conv2d
  valid : shape.validate = .ok ()
  compiled : layer.compile target = shape.compile target
  parameters (conv : ConvParams) : ({ layer with conv } : Layer).compile target = layer.compile target
  extent (conv : ConvParams) (height width : UInt32) :
    (varied layer conv height width).validate = .ok () →
    (varied layer conv height width).compile target = layer.compile target
  fixed : shape.flattened = .ok shape

theorem flattened_standsIn (target : Target) (kind : layer.kind = .fullyConnected)
    (valid : layer.validate = .ok ())
    (fits : layer.input.channels.toNat * layer.input.height.toNat * layer.input.width.toNat
      < UInt32.size) :
    ∃ shape, StandsIn target layer shape := by
  obtain ⟨input, output⟩ := (validate_iff_occupied (.inl kind)).mp valid
  obtain ⟨shape, flattened⟩ := exists_flattened (validate_extents valid).1.width fits
  obtain ⟨features, same⟩ := flattened_eq_ok flattened
  have shapeKind : shape.kind = .conv2d := by rw [same]
  have shapeConv : shape.conv = .square 1 := by rw [same]
  have shapeValid : shape.validate = .ok () :=
    (validate_iff_occupied (.inr ⟨shapeKind, shapeConv⟩)).mpr (flattened_occupied flattened input output)
  have compiled := @compile_flattened layer shape target kind flattened valid shapeValid
  -- Flattening drops all that varies, so the other layers have the same flattened form.
  have extent (conv : ConvParams) (height width : UInt32)
      (variedValid : (varied layer conv height width).validate = .ok ()) :
      (varied layer conv height width).compile target = layer.compile target :=
    (@compile_flattened (varied layer conv height width) shape target kind flattened variedValid
      shapeValid).trans compiled.symm
  have parameters (conv : ConvParams) :
      ({ layer with conv } : Layer).compile target = layer.compile target := by
    apply extent conv layer.output.height layer.output.width
    refine (validate_iff_occupied ?_).mpr ⟨input, output⟩
    exact .inl kind
  exact ⟨shape, flattened, features, shapeKind, shapeValid, compiled, parameters, extent,
    flattened_fixed flattened⟩

def denseLayer : Layer :=
  { Layer.fullyConnected { Tensor.single 0 3 4 5 with batch := 2 }
      { Tensor.single 0 7 2 1 with batch := 2 } (.single 64 7 60 1) with
    activation := .relu, conv := .square 0 }

/-- The parameters of its convolution would be refused in a convolution. -/
theorem denseLayer_standsIn :
    ({ denseLayer with kind := .conv2d } : Layer).validate ≠ .ok () ∧
    (∃ program, denseLayer.compile .reference = .ok program) ∧
    ∃ shape, StandsIn .reference denseLayer shape ∧ shape.input.channels.toNat = 60 := by
  obtain ⟨shape, standsIn⟩ := @flattened_standsIn denseLayer .reference rfl rfl (by decide)
  exact ⟨by decide, ⟨_, rfl⟩, shape, standsIn, standsIn.features⟩

end Lowering

end NpuStack
