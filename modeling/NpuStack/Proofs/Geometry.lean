import NpuStack.Cli.Command
import NpuStack.Proofs.Lowering.Flattening

/-! The geometry of layers described by arguments. Each kind has its rule for the shape
of the output; the arguments from which a layer can be built are those whose window
fits the padded input and whose input can be addressed, and what is built agrees with
validation. -/

set_option autoImplicit false

namespace NpuStack

namespace Tensor

variable {addr channels height width : UInt32} {count : UInt64}

theorem volume_single :
    (single addr channels height width).volume =
      channels.toNat * height.toNat * width.toNat := by
  show 1 * channels.toNat * height.toNat * width.toNat = _
  rw [Nat.one_mul]

/-- Two extents never overflow, so the last product decides. -/
theorem elements_single_eq_ok :
    (single addr channels height width).elements = .ok count ↔
      channels.toNat * height.toNat * width.toNat = count.toNat := by
  constructor
  · intro ok
    exact volume_single.symm.trans (Lowering.elements_eq_ok ok).symm
  · intro number
    have area : channels.toNat * height.toNat < UInt64.size :=
      Nat.mul_lt_mul'' channels.toNat_lt height.toNat_lt
    simp only [← UInt32.toNat_toUInt64] at area number
    obtain ⟨rows, rowsOk, rowsNumber⟩ := Checked.exists_mul64 area
    rw [rowsNumber] at number
    simp only [elements, bind_eq_ok]
    exact ⟨channels.toUInt64, Checked.mul64_eq_ok.mpr (Nat.one_mul _), rows, rowsOk,
      Checked.mul64_eq_ok.mpr number⟩

/-- An element takes a byte. -/
theorem byteSize_single :
    (single addr channels height width).byteSize =
      (single addr channels height width).elements := by
  have unit (n : UInt64) : Checked.mul64 n 1 = .ok n := Checked.mul64_eq_ok.mpr (Nat.mul_one _)
  show ((single addr channels height width).elements >>= fun n => Checked.mul64 n 1) = _
  simp only [unit]
  exact bind_pure _

theorem occupied_single :
    (single addr channels height width).Occupied ↔
      channels ≠ 0 ∧ height ≠ 0 ∧ width ≠ 0
        ∧ (single addr channels height width).volume < UInt64.size := by
  have present : 0 < (single addr channels height width).volume ↔
      channels ≠ 0 ∧ height ≠ 0 ∧ width ≠ 0 := by
    have nonzero (word : UInt32) : word ≠ 0 ↔ word.toNat ≠ 0 := not_congr UInt32.toNat_inj.symm
    simp only [volume_single, Nat.pos_iff_ne_zero, Nat.mul_ne_zero_iff, nonzero, and_assoc]
  constructor
  · rintro ⟨positive, counted⟩
    obtain ⟨channels, height, width⟩ := present.mp positive
    exact ⟨channels, height, width, counted⟩
  · rintro ⟨channels, height, width, counted⟩
    exact ⟨present.mpr ⟨channels, height, width⟩, counted⟩

end Tensor

/-- How a window moves along one axis of a padded input. -/
structure Layer.Sweep where
  kernel : Nat
  stride : Nat
  /-- On both sides together. -/
  padding : Nat

namespace Layer.Sweep

/-- As many positions of the window as fit along an extent: the last one does, and there is no room
for the next. -/
structure Positions (sweep : Sweep) (extent count : Nat) : Prop where
  first : 1 ≤ count
  last : (count - 1) * sweep.stride + sweep.kernel ≤ extent + sweep.padding
  next : extent + sweep.padding < count * sweep.stride + sweep.kernel

/-- The window lies within the padded extent, and a word holds that. -/
structure Admits (sweep : Sweep) (extent : Nat) : Prop where
  within : sweep.kernel ≤ extent + sweep.padding
  range : extent + sweep.padding < UInt32.size

/-- The quotient of the room behind the first position by the stride counts the others. -/
theorem positions_div {sweep : Sweep} {extent : Nat} (moves : 0 < sweep.stride)
    (within : sweep.kernel ≤ extent + sweep.padding) :
    sweep.Positions extent ((extent + sweep.padding - sweep.kernel) / sweep.stride + 1) := by
  have quotient := Nat.div_add_mod' (extent + sweep.padding - sweep.kernel) sweep.stride
  have rest := Nat.mod_lt (extent + sweep.padding - sweep.kernel) moves
  constructor
  · exact Nat.le_add_left 1 _
  · rw [Nat.add_sub_cancel]
    omega
  · rw [Nat.add_mul, Nat.one_mul]
    omega

end Layer.Sweep

def Layer.sweeps? (layer : Layer) : Option (Sweep × Sweep) :=
  let conv := layer.conv
  let pool := layer.pool
  match layer.kind with
  | .conv2d | .depthwiseConv2d =>
    some (⟨conv.kernelH.toNat, conv.strideH.toNat, conv.padTop.toNat + conv.padBottom.toNat⟩,
      ⟨conv.kernelW.toNat, conv.strideW.toNat, conv.padLeft.toNat + conv.padRight.toNat⟩)
  | .maxPool | .avgPool =>
    some (⟨pool.kernelH.toNat, pool.strideH.toNat, 0⟩, ⟨pool.kernelW.toNat, pool.strideW.toNat, 0⟩)
  | _ => none

namespace Cli.LayerArgs

variable {args : LayerArgs} {layer : Layer} {extent count : UInt32}

/-- The padding under a window that moves over the input; kinds that reduce the whole input to a
pixel have none. -/
def windowPad? (args : LayerArgs) : Option UInt8 :=
  match args.kind with
  | .conv | .dwconv => some args.pad
  | .maxpool | .avgpool => some 0
  | .fc | .gap | .gmp => none

/-- Only kinds with weights across channels choose their number. -/
def outputChannels (args : LayerArgs) : UInt32 :=
  match args.kind with
  | .conv | .fc => args.outChannels
  | _ => args.inChannels

def input (args : LayerArgs) : Tensor := .single 0 args.inChannels args.height args.width

def sweep (args : LayerArgs) (pad : UInt8) : Layer.Sweep :=
  ⟨args.kernel.toNat, args.stride.toNat, pad.toNat + pad.toNat⟩

section Extents

theorem toNat_twice (pad : UInt8) : (2 * pad.toUInt32).toNat = pad.toNat + pad.toNat := by
  have range := pad.toNat_lt
  rw [UInt32.toNat_mul, UInt8.toNat_toUInt32, ← Nat.two_mul]
  exact Nat.mod_eq_of_lt (by show 2 * pad.toNat < _; omega)

theorem outputExtent_eq_ok {pad : UInt8} :
    args.outputExtent extent pad.toUInt32 = .ok count ↔
      ∃ padded : UInt32, extent.toNat + (pad.toNat + pad.toNat) = padded.toNat
        ∧ args.kernel.toNat ≤ padded.toNat
        ∧ (padded - args.kernel.toUInt32) / args.stride.toUInt32 + 1 = count := by
  simp only [outputExtent, bind_eq_ok, liftM_eq_ok, ite_report_eq_ok, pure_eq_ok,
    Checked.add32_eq_ok, toNat_twice, UInt32.lt_iff_toNat_lt, UInt8.toNat_toUInt32, Nat.not_lt]

theorem exists_outputExtent {pad : UInt8} :
    (∃ count, args.outputExtent extent pad.toUInt32 = .ok count) ↔
      (args.sweep pad).Admits extent.toNat := by
  simp only [outputExtent_eq_ok]
  constructor
  · rintro ⟨_, padded, number, within, _⟩
    exact ⟨number ▸ within, number ▸ padded.toNat_lt⟩
  · rintro ⟨within, range⟩
    have number := (UInt32.toNat_ofNat_of_lt' range).symm
    exact ⟨_, _, number, number ▸ within, rfl⟩

/-- A window takes part of the extent, so the number of its positions stays in range. -/
theorem positions_of_outputExtent {pad : UInt8} (kernel : args.kernel ≠ 0)
    (stride : args.stride ≠ 0) (ok : args.outputExtent extent pad.toUInt32 = .ok count) :
    (args.sweep pad).Positions extent.toNat count.toNat := by
  obtain ⟨padded, number, within, rfl⟩ := outputExtent_eq_ok.mp ok
  have kernelPos := Lowering.pos_of_ne_zero kernel
  have stridePos := Lowering.pos_of_ne_zero stride
  have room : (padded - args.kernel.toUInt32).toNat = padded.toNat - args.kernel.toNat :=
    UInt32.toNat_sub_of_le _ _ (UInt32.le_iff_toNat_le.mpr within)
  have positions : ((padded - args.kernel.toUInt32) / args.stride.toUInt32 + 1).toNat =
      (padded.toNat - args.kernel.toNat) / args.stride.toNat + 1 := by
    have small := Nat.div_le_self (padded.toNat - args.kernel.toNat) args.stride.toNat
    have range := padded.toNat_lt
    have one : (1 : UInt32).toNat = 1 := rfl
    rw [UInt32.toNat_add, UInt32.toNat_div, room, UInt8.toNat_toUInt32, one,
      Nat.mod_eq_of_lt (by omega)]
  rw [positions, ← number]
  rw [← number] at within
  exact Layer.Sweep.positions_div stridePos within

theorem narrow_eq_ok {value : UInt64} {what : String} {word : UInt32} :
    narrow value what = .ok word ↔ value.toNat = word.toNat := by
  unfold narrow
  split
  case isTrue fits =>
    have number : value.toUInt32.toNat = value.toNat := Nat.mod_eq_of_lt fits
    rw [pure_eq_ok, ← UInt32.toNat_inj, number]
  case isFalse large =>
    exact ⟨fun h => (by cases h), fun h => absurd (h ▸ word.toNat_lt) large⟩

end Extents

section Building

def output (args : LayerArgs) (addr : UInt32) : Attempt Report Tensor :=
  match args.windowPad? with
  | some pad => args.windowed addr args.outputChannels pad.toUInt32
  | none => pure (.single addr args.outputChannels 1 1)

def pooling (args : LayerArgs) (kind : LayerKind) (output : Tensor) (pool : PoolParams) : Layer :=
  { kind, input := args.input, output, pool }

/-- The layer over its output, without its activation; a feature is an element of the input. -/
def layerOnto (args : LayerArgs) (features : UInt32) (output : Tensor) : Layer :=
  let area := args.kernel.toUInt32 * args.kernel.toUInt32
  let conv := ((ConvParams.square args.kernel).withStride args.stride).withPadding args.pad
  match args.kind with
  | .conv => .conv2d args.input output (.single 0 args.outChannels args.inChannels area) conv
  | .dwconv =>
    .depthwiseConv2d args.input output (.single 0 args.inChannels args.inChannels area) conv
  | .fc => .fullyConnected args.input output (.single 0 args.outChannels features 1)
  | .maxpool => args.pooling .maxPool output (.square args.kernel args.stride)
  | .avgpool => args.pooling .avgPool output (.square args.kernel args.stride)
  | .gap => args.pooling .globalAvgPool output {}
  | .gmp => args.pooling .globalMaxPool output {}

theorem poolingOf_eq_ok {kind : LayerKind} {output : Tensor} {params : PoolParams}
    (isPool : kind.isPool) :
    poolingOf kind args.input output params = .ok layer ↔ args.pooling kind output params = layer := by
  have built : Layer.pooling kind args.input output params = .ok (args.pooling kind output params) :=
    if_pos isPool
  rw [poolingOf, built]
  exact pure_eq_ok

/-- A number that passes through a wide word to a narrow one is the narrow one's. -/
theorem exists_narrowed {number : Nat} {holds : UInt32 → Prop} :
    (∃ wide : UInt64, number = wide.toNat ∧ ∃ word : UInt32, wide.toNat = word.toNat ∧ holds word) ↔
      ∃ word : UInt32, number = word.toNat ∧ holds word := by
  constructor
  · rintro ⟨wide, same, word, narrowed, held⟩
    exact ⟨word, same.trans narrowed, held⟩
  · rintro ⟨word, same, held⟩
    exact ⟨word.toUInt64, same.trans word.toNat_toUInt64.symm, word, word.toNat_toUInt64, held⟩

theorem plain_eq_ok :
    args.plain = .ok layer ↔
      args.stride ≠ 0 ∧ args.kernel ≠ 0 ∧ ∃ addr : UInt32,
        args.inChannels.toNat * args.height.toNat * args.width.toNat = addr.toNat
          ∧ ∃ output, args.output addr = .ok output ∧ args.layerOnto addr output = layer := by
  simp only [plain, bind_eq_ok, liftM_eq_ok, ite_report_eq_ok, narrow_eq_ok, Tensor.byteSize_single,
    Tensor.elements_single_eq_ok, exists_narrowed, not_or, and_assoc]
  refine and_congr_right fun _ => and_congr_right fun _ => exists_congr fun addr =>
    and_congr_right fun number => ?_
  unfold output windowPad? outputChannels layerOnto
  cases kind : args.kind with
    simp only [bind_eq_ok, liftM_eq_ok, pure_eq_ok, narrow_eq_ok, Tensor.elements_single_eq_ok,
      exists_narrowed, exists_eq_left']
  | conv | dwconv => rfl
  | maxpool | avgpool => exact exists_congr fun _ => and_congr_right fun _ => poolingOf_eq_ok rfl
  | gap | gmp => exact poolingOf_eq_ok rfl
  | fc =>
    -- The features are narrowed from the number that the address was narrowed from.
    constructor
    · rintro ⟨features, same, built⟩
      rwa [UInt32.toNat_inj.mp (same.symm.trans number)] at built
    · intro built
      exact ⟨addr, number, built⟩

/-- The activation is all that is added. -/
theorem layer_eq_ok :
    args.layer = .ok layer ↔
      ∃ plain, args.plain = .ok plain
        ∧ (if args.relu then { plain with activation := .relu } else plain) = layer := by
  simp only [LayerArgs.layer, bind_eq_ok, pure_eq_ok]

theorem layerOnto_spec (kernel : args.kernel ≠ 0) (stride : args.stride ≠ 0) (features : UInt32)
    (output : Tensor) :
    (args.layerOnto features output).input = args.input
      ∧ (args.layerOnto features output).output = output
      ∧ (args.layerOnto features output).sweeps? =
        args.windowPad?.map (fun pad => (args.sweep pad, args.sweep pad))
      ∧ (args.layerOnto features output).Slides := by
  unfold layerOnto windowPad?
  cases args.kind with
  | conv | dwconv | maxpool | avgpool => exact ⟨rfl, rfl, rfl, kernel, kernel, stride, stride⟩
  | fc | gap | gmp => exact ⟨rfl, rfl, rfl, trivial⟩

theorem windowed_eq_ok {addr channels pad : UInt32} {output : Tensor} :
    args.windowed addr channels pad = .ok output ↔
      ∃ height, args.outputExtent args.height pad = .ok height
        ∧ ∃ width, args.outputExtent args.width pad = .ok width
          ∧ .single addr channels height width = output := by
  simp only [windowed, bind_eq_ok, pure_eq_ok]

theorem exists_output {addr : UInt32} :
    (∃ output, args.output addr = .ok output) ↔
      ∀ pad, args.windowPad? = some pad →
        (args.sweep pad).Admits args.height.toNat ∧ (args.sweep pad).Admits args.width.toNat := by
  unfold output
  split
  case h_1 pad window =>
    simp only [window, Option.some.injEq, forall_eq', ← exists_outputExtent, windowed_eq_ok]
    constructor
    · rintro ⟨_, height, heightOk, width, widthOk, _⟩
      exact ⟨⟨height, heightOk⟩, width, widthOk⟩
    · rintro ⟨⟨height, heightOk⟩, width, widthOk⟩
      exact ⟨_, height, heightOk, width, widthOk, rfl⟩
  case h_2 pixel =>
    refine ⟨fun _ pad window => ?_, fun _ => ⟨_, rfl⟩⟩
    rw [pixel] at window
    cases window

end Building

structure Buildable (args : LayerArgs) : Prop where
  kernel : args.kernel ≠ 0
  stride : args.stride ≠ 0
  addressable : args.input.volume < UInt32.size
  admits : ∀ pad, args.windowPad? = some pad →
    (args.sweep pad).Admits args.height.toNat ∧ (args.sweep pad).Admits args.width.toNat

theorem exists_layer : (∃ layer, args.layer = .ok layer) ↔ args.Buildable := by
  simp only [layer_eq_ok, plain_eq_ok]
  constructor
  · rintro ⟨_, _, ⟨stride, kernel, addr, number, output, ok, _⟩, _⟩
    refine ⟨kernel, stride, ?_, exists_output.mp ⟨output, ok⟩⟩
    rw [input, Tensor.volume_single, number]
    exact addr.toNat_lt
  · rintro ⟨kernel, stride, addressable, admits⟩
    rw [input, Tensor.volume_single] at addressable
    obtain ⟨output, ok⟩ := exists_output.mpr admits
    exact ⟨_, _, ⟨stride, kernel, _, (UInt32.toNat_ofNat_of_lt' addressable).symm, output, ok, rfl⟩,
      rfl⟩

structure Consistent (args : LayerArgs) (layer : Layer) : Prop where
  kernel : args.kernel ≠ 0
  stride : args.stride ≠ 0
  input : layer.input = args.input
  windows : ∀ pad, args.windowPad? = some pad →
    layer.sweeps? = some (args.sweep pad, args.sweep pad)
      ∧ (args.sweep pad).Positions layer.input.height.toNat layer.output.height.toNat
      ∧ (args.sweep pad).Positions layer.input.width.toNat layer.output.width.toNat
  pixel : args.windowPad? = none →
    layer.sweeps? = none ∧ layer.output.height = 1 ∧ layer.output.width = 1
  channels : layer.output.channels = args.outputChannels
  /-- The output starts at the first byte behind the input. -/
  adjoining : layer.input.byteSize = .ok layer.output.addr.toUInt64
  valid : layer.validate = .ok () ↔
    args.inChannels ≠ 0 ∧ args.height ≠ 0 ∧ args.width ≠ 0 ∧ args.outputChannels ≠ 0
      ∧ layer.output.volume < UInt64.size

section Consistency

theorem output_spec (kernel : args.kernel ≠ 0) (stride : args.stride ≠ 0) {addr : UInt32}
    {output : Tensor} (ok : args.output addr = .ok output) :
    ∃ height width, output = .single addr args.outputChannels height width
      ∧ height ≠ 0 ∧ width ≠ 0
      ∧ (∀ pad, args.windowPad? = some pad →
        (args.sweep pad).Positions args.height.toNat height.toNat
          ∧ (args.sweep pad).Positions args.width.toNat width.toNat)
      ∧ (args.windowPad? = none → height = 1 ∧ width = 1) := by
  unfold LayerArgs.output at ok
  split at ok
  case h_1 pad window =>
    obtain ⟨height, heightOk, width, widthOk, rfl⟩ := windowed_eq_ok.mp ok
    have rows := positions_of_outputExtent kernel stride heightOk
    have columns := positions_of_outputExtent kernel stride widthOk
    refine ⟨height, width, rfl, ne_zero_of_toNat_pos rows.first,
      ne_zero_of_toNat_pos columns.first, ?_, ?_⟩
    · rintro pad' window'
      cases window.symm.trans window'
      exact ⟨rows, columns⟩
    · intro pixel
      cases window.symm.trans pixel
  case h_2 pixel =>
    cases pure_eq_ok.mp ok
    refine ⟨1, 1, rfl, by decide, by decide, ?_, fun _ => ⟨rfl, rfl⟩⟩
    intro pad window
    cases pixel.symm.trans window

/-- A layer has its input from the arguments, its output where the input ends and a window that
moves. -/
theorem layer_spec (ok : args.layer = .ok layer) :
    args.kernel ≠ 0 ∧ args.stride ≠ 0 ∧ layer.input = args.input
      ∧ layer.sweeps? = args.windowPad?.map (fun pad => (args.sweep pad, args.sweep pad))
      ∧ layer.Slides
      ∧ ∃ addr : UInt32, args.input.volume = addr.toNat ∧ args.output addr = .ok layer.output := by
  obtain ⟨plain, plainOk, rfl⟩ := layer_eq_ok.mp ok
  obtain ⟨stride, kernel, addr, number, output, outputOk, rfl⟩ := plain_eq_ok.mp plainOk
  obtain ⟨sameInput, sameOutput, carried, slides⟩ := layerOnto_spec kernel stride addr output
  rw [← Tensor.volume_single] at number
  rw [← sameOutput] at outputOk
  split
  case isTrue => exact ⟨kernel, stride, sameInput, carried, slides, addr, number, outputOk⟩
  case isFalse => exact ⟨kernel, stride, sameInput, carried, slides, addr, number, outputOk⟩

/-- A layer is built exactly from arguments whose padded input admits the window and whose input is
addressable; its output has the window positions that fit and lies right behind the input, and it
is valid unless an extent is zero or the output is too large to count. -/
theorem layer_consistent (args : LayerArgs) :
    ((∃ layer, args.layer = .ok layer) ↔ args.Buildable)
      ∧ ∀ layer, args.layer = .ok layer → args.Consistent layer := by
  refine ⟨exists_layer, fun layer ok => ?_⟩
  obtain ⟨kernel, stride, sameInput, carried, slides, addr, number, outputOk⟩ := layer_spec ok
  obtain ⟨height, width, sameOutput, someRows, someColumns, windows, pixel⟩ :=
    output_spec kernel stride outputOk
  constructor
  case kernel => exact kernel
  case stride => exact stride
  case input => exact sameInput
  case windows =>
    intro pad window
    rw [carried, window, sameInput, sameOutput]
    exact ⟨rfl, windows pad window⟩
  case pixel =>
    intro none
    rw [carried, none, sameOutput]
    exact ⟨rfl, pixel none⟩
  case channels => rw [sameOutput]; rfl
  case adjoining =>
    rw [sameInput, sameOutput]
    refine Tensor.byteSize_single.trans (Tensor.elements_single_eq_ok.mpr ?_)
    rw [← Tensor.volume_single]
    exact number.trans (UInt32.toNat_toUInt64 _).symm
  case valid =>
    have counted : args.input.volume < UInt64.size := by
      rw [number]
      exact addr.toNat_lt.trans (by decide)
    rw [Lowering.validate_iff_of_slides slides, sameInput, sameOutput, Tensor.occupied_single]
    constructor
    · rintro ⟨occupied, channels, _, _, outputCounted⟩
      obtain ⟨inChannels, rows, columns, _⟩ := Tensor.occupied_single.mp occupied
      exact ⟨inChannels, rows, columns, channels, outputCounted⟩
    · rintro ⟨inChannels, rows, columns, channels, outputCounted⟩
      exact ⟨Tensor.occupied_single.mpr ⟨inChannels, rows, columns, counted⟩, channels, someRows,
        someColumns, outputCounted⟩

/-- A stride beyond the kernel, on rows that leave room behind the last window and columns that
have one window only. -/
def strided : LayerArgs :=
  { inChannels := 3, outChannels := 8, height := 9, width := 5, stride := 5, pad := 1, relu := true }

theorem strided_consistent :
    ∃ layer, strided.layer = .ok layer ∧ layer.output = .single 135 8 2 1
      ∧ strided.Consistent layer :=
  ⟨_, rfl, rfl, (layer_consistent strided).2 _ rfl⟩

end Consistency

end Cli.LayerArgs

end NpuStack
