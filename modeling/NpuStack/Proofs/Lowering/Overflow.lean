import NpuStack.Proofs.Lowering.Acceptance

/-! Where compiling a convolution can overflow. Validation, flattening and the plan
may; the loop over tiles never does, although it checks none of its sums and
products by itself. What keeps them small is the tile before: its transfers have
passed the check of their ranges. -/

set_option autoImplicit false

namespace NpuStack.Lowering

variable {target : Target} {layer shape : Layer} {tiling : Tiling}

/-- An operation is out of range before the first instruction is written. -/
inductive Unplanned (target : Target) (layer : Layer) (cause : Trap) : Prop where
  | validation (stops : layer.validate = .error (.trap cause))
  | flattening (valid : layer.validate = .ok ()) (kind : layer.kind = .fullyConnected)
      (stops : layer.flattened = .error cause)
  | planning {shape : Layer} (valid : layer.validate = .ok ())
      (shaped : layer.convolution? = some shape) (stops : Tiling.ofLayer target shape = .error cause)

section Planned

/-- A plan that was made has met no product out of range. -/
theorem productsFit_of_planned (planned : Tiling.ofLayer target shape = .ok tiling) :
    ProductsFit target shape := by
  simp only [Tiling.ofLayer, bind_eq_ok, Checked.divCeil32_eq_ok, Checked.mul64_eq_ok,
    UInt32.toNat_toUInt64, toNat_weightsPerOutput, toNat_transferCount, toNat_pred] at planned
  obtain ⟨outTiles, ⟨_, outNumber⟩, _, _, full, fullNumber, before, beforeNumber, _⟩ := planned
  have tiles : outCount target shape = outTiles.toNat := outNumber
  constructor
  · rw [fullNumber]
    exact full.toNat_lt
  · rw [tiles, fullNumber, beforeNumber]
    exact before.toNat_lt

/-- The convolution of a valid layer can be computed on an array that has a column. -/
theorem computable_of_shaped (columns : 0 < target.peCols.toNat) (valid : layer.validate = .ok ())
    (shaped : layer.convolution? = some shape) : Computable target shape := by
  rcases convolution?_cases shaped with ⟨kind, rfl⟩ | ⟨_, flattened⟩
  · exact computable_of_validate columns kind valid
  · obtain ⟨_, outputs, weights⟩ := convolution?_positive valid shaped
    refine ⟨columns, outputs, weights, ?_⟩
    -- A flattened layer has one pixel for each output channel.
    have pixel : shape.output.height.toNat * shape.output.width.toNat = 1 := by
      rw [(flattened_eq_ok flattened).2]
      rfl
    rw [pixel, Nat.mul_one]
    exact shape.output.channels.toNat_lt.trans (by decide)

end Planned

section Compiling

variable (rows : 0 < target.peRows.toNat) (columns : 0 < target.peCols.toNat)
  (valid : layer.validate = .ok ())
include rows columns valid

/-- Once there is a plan, compiling comes back. -/
theorem compile_returns (shaped : layer.convolution? = some shape)
    (planned : Tiling.ofLayer target shape = .ok tiling) (cause : Trap) :
    layer.compile target ≠ .error (.trap cause) := by
  have grows := convolution_grows (computable_of_shaped columns valid shaped) planned
    (calm_zero (productsFit_of_planned planned))
  rw [compile_eq_shaped rows columns valid shaped]
  rcases grows.ok_or_refused with ⟨program, run⟩ | ⟨reason, run⟩ | run
  all_goals
    rw [run]
    nofun

theorem compile_unplanned (shaped : layer.convolution? = some shape) {cause : Trap}
    (stops : Tiling.ofLayer target shape = .error cause) :
    layer.compile target = .error (.trap cause) := by
  rw [compile_eq_shaped rows columns valid shaped, convolution, stops]
  rfl

theorem compile_unflattened (kind : layer.kind = .fullyConnected) {cause : Trap}
    (stops : layer.flattened = .error cause) : layer.compile target = .error (.trap cause) := by
  unfold Layer.compile
  rw [check_eq_ok.mpr valid, kind]
  show (if _ then _ else liftM layer.flattened >>= _) = _
  rw [if_neg (array_present rows columns), stops]
  rfl

end Compiling

theorem check_eq_trap {cause : Trap} :
    check layer = .error (.trap cause) ↔ layer.validate = .error (.trap cause) := by
  unfold check
  cases layer.validate with
  | ok => simp [pure, Except.pure]
  | error failure => cases failure <;> simp [Failure.report]

/-- Nothing follows a check that fails. -/
theorem compile_unchecked {failure : Failure CompileError} (stops : check layer = .error failure) :
    layer.compile target = .error failure := by
  unfold Layer.compile
  rw [stops]
  rfl

/-- A layer that convolves has a convolution unless flattening it overflows. -/
theorem shaped_or_unflattened (convolves : layer.kind.convolves = true) :
    (∃ shape, layer.convolution? = some shape) ∨
      layer.kind = .fullyConnected ∧ ∃ cause, layer.flattened = .error cause := by
  unfold Layer.convolution?
  cases kind : layer.kind with
  | conv2d | depthwiseConv2d => exact .inl ⟨layer, rfl⟩
  | fullyConnected =>
    cases flattened : layer.flattened with
    | ok shape => exact .inl ⟨shape, rfl⟩
    | error cause => exact .inr ⟨rfl, cause, rfl⟩
  | _ =>
    rw [kind] at convolves
    cases convolves

section Tiles

/-- The loop over output tiles with its last round apart. -/
theorem pushOutputTiles_succ (count : Nat) (tile : UInt32) (program : Program) :
    pushOutputTiles target shape tiling (count + 1) tile program =
      pushOutputTiles target shape tiling count tile program >>=
        pushOutputTile target shape tiling (tile + .ofNat count) := by
  induction count generalizing tile program with
  | zero =>
    show (pushOutputTile target shape tiling tile program >>= pure) = _
    rw [bind_pure, show tile + .ofNat 0 = tile from UInt32.add_zero tile]
    rfl
  | succ count ih =>
    have index : tile + 1 + .ofNat count = tile + .ofNat (count + 1) := by
      rw [UInt32.ofNat_add, UInt32.add_assoc, UInt32.add_comm (UInt32.ofNat count)]
      rfl
    have rest : pushOutputTiles target shape tiling (count + 1) (tile + 1) = fun longer =>
        pushOutputTiles target shape tiling count (tile + 1) longer >>=
          pushOutputTile target shape tiling (tile + .ofNat (count + 1)) := by
      funext longer
      rw [ih, index]
    show (pushOutputTile target shape tiling tile program >>=
      pushOutputTiles target shape tiling (count + 1) (tile + 1)) = _
    rw [rest, ← bind_assoc]
    rfl

/-- The loop over tiles comes to a tile: all tiles before it have been written. -/
structure Reached (target : Target) (layer shape : Layer) (tiling : Tiling) (tile : Nat) : Prop where
  valid : layer.validate = .ok ()
  shaped : layer.convolution? = some shape
  planned : Tiling.ofLayer target shape = .ok tiling
  below : tile < tiling.outTiles.toNat
  written : ∃ program, (push (.empty target.convBound) .clearAcc >>=
    pushOutputTiles target shape tiling tile 0) = .ok program

/-- The operations of a tile stay inside their words: those that place it, the step back from the
number of input tiles, and in every round of its transfer the bytes that are left and those that are
done. -/
structure InRange (target : Target) (shape : Layer) (tiling : Tiling) (tile : Nat) : Prop
    extends TileCalm target shape tile where
  inputs : 1 ≤ tiling.inTiles.toNat
  rounds : ∀ len : UInt32, len.toNat = tileWidth target shape tile * perChannel shape →
    ∀ round < chunkCount len.toNat, round * longest ≤ len.toNat ∧
      round * longest + min (len.toNat - round * longest) longest < UInt32.size

/-- The first tile starts at zero, and every other one follows a tile whose addresses fit. -/
theorem Reached.calm (columns : 0 < target.peCols.toNat) {tile : Nat}
    (reached : Reached target layer shape tiling tile) : TileCalm target shape tile := by
  obtain ⟨valid, shaped, planned, below, program, written⟩ := reached
  obtain ⟨outNumber, _⟩ := Tiling.counts planned
  cases tile with
  | zero => exact calm_zero (productsFit_of_planned planned)
  | succ tile =>
    obtain ⟨cleared, _, written⟩ := bind_eq_ok.mp written
    rw [pushOutputTiles_succ, UInt32.zero_add] at written
    obtain ⟨before, _, written⟩ := bind_eq_ok.mp written
    have range := tiling.outTiles.toNat_lt
    have index : (UInt32.ofNat tile).toNat = tile :=
      UInt32.toNat_ofNat_of_lt' (show tile < 2 ^ 32 by omega)
    obtain ⟨fits, _⟩ := pushOutputTile_appended written
    rw [index] at fits
    exact fits.calm_succ (computable_of_shaped columns valid shaped) (outNumber ▸ below)

theorem Reached.inRange (rows : 0 < target.peRows.toNat) (columns : 0 < target.peCols.toNat)
    {tile : Nat} (reached : Reached target layer shape tiling tile) :
    InRange target shape tiling tile where
  toTileCalm := reached.calm columns
  inputs := by
    obtain ⟨inputs, _⟩ := convolution?_positive reached.valid reached.shaped
    rw [(Tiling.counts reached.planned).2]
    exact ceilDiv_pos inputs rows
  rounds len _ round below := by
    have start := chunk_reached below
    have range := len.toNat_lt
    refine ⟨start, ?_⟩
    unfold UInt32.size
    omega

end Tiles

/-- Compiling a convolution on an array with elements stops without an answer exactly if its
validation, its flattening or its plan does, and at the same operation. In every tile that is reached
all operations stay inside their words. -/
theorem compile_trap_iff_unplanned (convolves : layer.kind.convolves = true)
    (rows : 0 < target.peRows.toNat) (columns : 0 < target.peCols.toNat) :
    (∀ cause, layer.compile target = .error (.trap cause) ↔ Unplanned target layer cause) ∧
    ((∀ cause, ¬Unplanned target layer cause) →
      (∃ program, layer.compile target = .ok program) ∨
        ∃ error, layer.compile target = .error (.error error)) ∧
    ∀ shape tiling tile, Reached target layer shape tiling tile →
      InRange target shape tiling tile := by
  have traps (cause : Trap) :
      layer.compile target = .error (.trap cause) ↔ Unplanned target layer cause := by
    constructor
    · intro stopped
      cases checked : check layer with
      | error failure =>
        rw [compile_unchecked checked] at stopped
        cases stopped
        exact .validation (check_eq_trap.mp checked)
      | ok =>
        have valid := check_eq_ok.mp checked
        rcases shaped_or_unflattened convolves with ⟨shape, shaped⟩ | ⟨kind, other, stops⟩
        · cases planned : Tiling.ofLayer target shape with
          | ok tiling => exact absurd stopped (compile_returns rows columns valid shaped planned cause)
          | error other =>
            rw [compile_unplanned rows columns valid shaped planned] at stopped
            cases stopped
            exact .planning valid shaped planned
        · rw [compile_unflattened rows columns valid kind stops] at stopped
          cases stopped
          exact .flattening valid kind stops
    · intro unplanned
      cases unplanned with
      | validation stops => exact compile_unchecked (check_eq_trap.mpr stops)
      | flattening valid kind stops => exact compile_unflattened rows columns valid kind stops
      | planning valid shaped stops => exact compile_unplanned rows columns valid shaped stops
  refine ⟨traps, fun planned => ?_, fun shape tiling tile reached => reached.inRange rows columns⟩
  cases run : layer.compile target with
  | ok program => exact .inl ⟨program, rfl⟩
  | error failure =>
    cases failure with
    | error error => exact .inr ⟨error, rfl⟩
    | trap cause => exact absurd ((traps cause).mp run) (planned cause)

def wideLayer : Layer :=
  .conv2d (.single 0 1 1 1) (.single 0 0xFFFFFFFF 1 1) (.single 0 1 1 1) (.square 1)

def wideArray : Target := { peRows := 1, peCols := 0x80000000 }

/-- The second tile would end past the last word, but it is never reached: the weights of the first
are refused. -/
theorem wideLayer_refused :
    outCount wideArray wideLayer = 2 ∧ ¬TileCalm wideArray wideLayer 1 ∧
    ∃ error, wideLayer.compile wideArray = .error (.error error) := by
  have planned (cause : Trap) : ¬Unplanned wideArray wideLayer cause := by
    intro unplanned
    cases unplanned with
    | validation stops => cases stops
    | flattening _ kind _ => cases kind
    | planning _ shaped stops =>
      cases shaped
      cases stops
  obtain ⟨_, returns, _⟩ :=
    @compile_trap_iff_unplanned wideArray wideLayer rfl (by decide) (by decide)
  refine ⟨by decide, fun calm => absurd calm.stop (by decide), ?_⟩
  rcases returns planned with ⟨program, ok⟩ | refused
  · cases ok
  · exact refused

end NpuStack.Lowering
