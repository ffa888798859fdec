import NpuStack.Proofs.Lowering.Shape

/-! How far a lowering gets. A step that meets no trap makes its program longer by
a number of instructions that is known beforehand; it is refused only if an
address leaves its field or the program is full. -/

set_option autoImplicit false

namespace NpuStack

def CompileError.Refuses (bound : Nat) : CompileError → Prop
  | .invalidLayer _ => True
  | .sequenceOverflow full => full = bound
  | .unsupportedLayer _ => False

namespace Lowering

/-- A step that adds `count` instructions if a condition holds and they have room, and is refused
otherwise. -/
inductive Grows (program : Program) (fits : Prop) (count : Nat) : Lowering Program → Prop where
  | grown {longer : Program} (bound : longer.bound = program.bound)
      (size : longer.size = program.size + count) : Grows program fits count (.ok longer)
  | refused {cause : CompileError} (refuses : cause.Refuses program.bound)
      (short : ¬(fits ∧ program.size + count ≤ program.bound)) :
      Grows program fits count (.error (.error cause))

namespace Grows

variable {program : Program} {fits more : Prop} {count further : Nat} {run : Lowering Program}

theorem pure (program : Program) (fits : Prop) : Grows program fits 0 (Pure.pure program) :=
  .grown rfl rfl

/-- A step that is refused for a reason of the layer. -/
theorem refuse (fault : LoweringFault) (unfit : ¬fits) :
    Grows program fits count (Lowering.refuse fault) :=
  .refused trivial fun both => unfit both.1

theorem bind {next : Program → Lowering Program} (first : Grows program fits count run)
    (rest : ∀ longer, run = .ok longer → Grows longer fits further (next longer)) :
    Grows program fits (count + further) (run >>= next) := by
  cases first with
  | @grown longer bound size =>
    have second := rest longer rfl
    show Grows program fits (count + further) (next longer)
    generalize next longer = result at second ⊢
    cases second with
    | grown bound' size' => exact .grown (bound'.trans bound) (by omega)
    | refused refuses short =>
      rw [bound] at refuses short
      exact .refused refuses fun both => short ⟨both.1, by omega⟩
  | refused refuses short => exact .refused refuses fun both => short ⟨both.1, by omega⟩

theorem imp (grows : Grows program fits count run) (weaker : more → fits) :
    Grows program more count run := by
  cases grows with
  | grown bound size => exact .grown bound size
  | refused refuses short => exact .refused refuses fun both => short ⟨weaker both.1, both.2⟩

theorem length_eq {longer : Program} (grows : Grows program fits count run) (ok : run = .ok longer) :
    longer.bound = program.bound ∧ longer.size = program.size + count := by
  subst ok
  cases grows with
  | grown bound size => exact ⟨bound, size⟩

theorem exists_ok (grows : Grows program fits count run) (holds : fits)
    (room : program.size + count ≤ program.bound) : ∃ longer, run = .ok longer := by
  cases grows with
  | grown bound size => exact ⟨_, rfl⟩
  | refused refuses short => exact absurd ⟨holds, room⟩ short

theorem ok_or_refused (grows : Grows program fits count run) : (∃ longer, run = .ok longer) ∨
    (∃ reason, run = .error (.error (.invalidLayer reason))) ∨
    run = .error (.error (.sequenceOverflow program.bound)) := by
  cases grows with
  | grown bound size => exact .inl ⟨_, rfl⟩
  | @refused cause refuses short =>
    cases cause with
    | invalidLayer reason => exact .inr (.inl ⟨reason, rfl⟩)
    | sequenceOverflow full =>
      have same : full = program.bound := refuses
      exact .inr (.inr (by rw [same]))
    | unsupportedLayer kind => exact refuses.elim

section Values

variable {α : Type}

theorem checked {number : Checked α} {value : α} {next : α → Lowering Program}
    (ok : number = .ok value) (rest : Grows program fits count (next value)) :
    Grows program fits count ((liftM number : Lowering α) >>= next) := by
  rw [ok]
  exact rest

/-- A narrowing is passed by numbers that the condition keeps small. -/
theorem narrowed {value : UInt64} {what : String} {next : UInt32 → Lowering Program}
    (small : fits → value.toNat < UInt32.size)
    (rest : ∀ result, value.toNat = result.toNat → Grows program fits count (next result)) :
    Grows program fits count (narrow value what >>= next) := by
  by_cases inside : value.toNat < UInt32.size
  · have ok : narrow value what = .ok value.toUInt32 := if_pos inside
    rw [ok]
    exact rest _ (narrow_eq_ok.mp ok)
  · have refused : narrow value what = Lowering.refuse (.tooLarge what value) := if_neg inside
    rw [refused]
    exact refuse _ fun holds => inside (small holds)

/-- A product that its words hold and that the condition keeps small. -/
theorem scaled {a : UInt32} {y : UInt64} {factor : Nat} {what : String}
    {next : UInt32 → Lowering Program} (number : y.toNat = factor)
    (calm : a.toNat * factor < UInt64.size) (small : fits → a.toNat * factor < UInt32.size)
    (rest : ∀ result, a.toNat * factor = result.toNat → Grows program fits count (next result)) :
    Grows program fits count ((liftM (Checked.mul64 a.toUInt64 y) : Lowering UInt64) >>= fun product =>
      narrow product what >>= next) := by
  rw [← number, ← UInt32.toNat_toUInt64] at calm small rest
  obtain ⟨product, ok, productNumber⟩ := Checked.exists_mul64 calm
  rw [productNumber] at small rest
  exact checked ok (narrowed small rest)

theorem offset {base distance : UInt32} {what : String} {next : UInt32 → Lowering Program}
    (small : fits → base.toNat + distance.toNat < UInt32.size)
    (rest : ∀ result, base.toNat + distance.toNat = result.toNat →
      Grows program fits count (next result)) :
    Grows program fits count (offsetAddress base distance what >>= next) := by
  by_cases inside : base.toNat + distance.toNat < UInt32.size
  · obtain ⟨result, ok, number⟩ := exists_offsetAddress what inside
    rw [ok]
    exact rest result number
  · have refused : offsetAddress base distance what = Lowering.refuse (.addressOverflow what) :=
      if_neg inside
    rw [refused]
    exact refuse _ fun holds => inside (small holds)

end Values

end Grows

theorem push_grows (program : Program) (inst : Instruction) (fits : Prop) :
    Grows program fits 1 (push program inst) := by
  unfold push Program.push
  split
  case h_1 longer found =>
    split at found
    · cases found
      exact .grown rfl (Array.size_push _)
    · cases found
  case h_2 cause found =>
    split at found
    · cases found
    case isFalse full =>
      cases found
      exact .refused rfl fun both => full both.2

section Transfers

/-- The splitting loop from its `k`-th round on. -/
theorem pushChunks_grows {op : Opcode} {src dst len done : UInt32} {fuel k : Nat} {program : Program}
    (reached : done.toNat = k * longest) (left : k + fuel = chunkCount len.toNat) :
    Grows program (TransferFits src.toNat dst.toNat len.toNat) fuel
      (pushChunks op src dst len fuel done program) := by
  induction fuel generalizing k done program with
  | zero => exact .pure program _
  | succ fuel ih =>
    have below : k < chunkCount len.toNat := by omega
    obtain ⟨rest, ok, restNumber⟩ :=
      Checked.exists_sub32 (reached.trans_le (chunk_reached below))
    refine .checked ok ?_
    refine .offset (fun fits => ?_) fun source sourceNumber => ?_
    · have := (fits k below).1
      unfold UInt32.size
      omega
    refine .offset (fun fits => ?_) fun destination destinationNumber => ?_
    · have := (fits k below).2
      unfold UInt32.size
      omega
    have operand := chunk_eq reached restNumber sourceNumber destinationNumber
    split
    case isTrue wide =>
      refine .refuse _ fun fits => ?_
      rw [operand, chunk_fits len.toNat (fits k below)] at wide
      cases wide
    case isFalse =>
      rw [Nat.add_comm fuel 1]
      refine (push_grows program _ _).bind fun longer _ => ?_
      obtain ⟨done', ok', moved⟩ := exists_moved reached restNumber
      refine .checked ok' ?_
      split
      case isTrue finished =>
        -- The loop ends early only when the last counted round has been made.
        have covered := UInt32.le_iff_toNat_le.mp finished
        obtain rfl : fuel = 0 := by
          have := (chunkCount_le_iff len.toNat k).mpr (by omega)
          omega
        exact .pure longer _
      case isFalse unfinished =>
        have short := mt UInt32.le_iff_toNat_le.mpr unfinished
        exact ih (k := k + 1) (by omega) (by omega)

theorem pushTransfer_grows (op : Opcode) (src dst len : UInt32) (program : Program) :
    Grows program (TransferFits src.toNat dst.toNat len.toNat) (chunkCount len.toNat)
      (pushTransfer op src dst len program) := by
  unfold pushTransfer
  rw [toNat_transferCount, UInt32.toNat_toUInt64]
  exact pushChunks_grows (k := 0) (by simp) (by simp)

end Transfers

section Tiles

theorem pushInputTiles_grows {inTiles count tile : UInt32} {fuse : UInt8} {remaining : Nat}
    (program : Program) (fits : Prop) (left : tile.toNat + remaining = inTiles.toNat) :
    Grows program fits (2 * remaining) (pushInputTiles inTiles count fuse remaining tile program) := by
  induction remaining generalizing tile program with
  | zero => exact .pure program fits
  | succ remaining ih =>
    have one : (1 : UInt32).toNat = 1 := rfl
    have range := inTiles.toNat_lt
    have following : (tile + 1).toNat = tile.toNat + 1 := by
      rw [UInt32.toNat_add, one, Nat.mod_eq_of_lt (by omega)]
    obtain ⟨last, ok, _⟩ := Checked.exists_sub32 (a := inTiles) (b := 1) (by omega)
    rw [show 2 * (remaining + 1) = 1 + (1 + 2 * remaining) by omega]
    refine (push_grows program _ fits).bind fun loaded _ => ?_
    refine .checked ok ?_
    refine (push_grows loaded _ fits).bind fun computed _ => ?_
    exact ih computed (by omega)

variable {target : Target} {shape : Layer}

structure TileCalm (target : Target) (shape : Layer) (tile : Nat) : Prop where
  start : tileStart target tile ≤ shape.output.channels.toNat
  stop : tileStart target tile + target.peCols.toNat < UInt32.size
  weights : tileStart target tile * perChannel shape < UInt64.size
  bytes : tileWidth target shape tile * perChannel shape < UInt64.size
  output : tileStart target tile * (shape.output.height.toNat * shape.output.width.toNat) < UInt64.size

/-- Instructions of a tile, with the clearing that follows it or stands before the first. -/
def tileLength (target : Target) (shape : Layer) (inTiles tile : Nat) : Nat :=
  chunkCount (tileWidth target shape tile * perChannel shape) + (3 + 2 * inTiles)

def tilesLength (target : Target) (shape : Layer) (inTiles start count : Nat) : Nat :=
  ((List.range' start count).map (tileLength target shape inTiles)).sum

theorem tilesLength_succ (inTiles start count : Nat) :
    tilesLength target shape inTiles start (count + 1) =
      tileLength target shape inTiles start + tilesLength target shape inTiles (start + 1) count := by
  rw [tilesLength, List.range'_succ, List.map_cons, List.sum_cons, tilesLength]

theorem tilesLength_pos (target : Target) (shape : Layer) (inTiles start count : Nat) :
    0 < tilesLength target shape inTiles start (count + 1) := by
  rw [tilesLength_succ, tileLength]
  omega

def TilesFit (target : Target) (shape : Layer) : Prop :=
  ∀ tile < outCount target shape, TileFits target shape tile

theorem TileFits.bounds {tile : Nat} (fits : TileFits target shape tile) :
    tileWeights target shape tile ≤ 0x3FFFF ∧
    tileWidth target shape tile * perChannel shape ≤ 0xFFFF + longest := by
  obtain ⟨srcRange, dstRange⟩ := transferFits_iff.mp fits.weights
  have covered := len_le_chunks (tileWidth target shape tile * perChannel shape)
  omega

theorem pushOutputTile_grows {tile : UInt32} (tiling : Tiling) (program : Program)
    (calm : TileCalm target shape tile.toNat) :
    Grows program (TileFits target shape tile.toNat)
      (chunkCount (tileWidth target shape tile.toNat * perChannel shape)
        + (1 + (2 * tiling.inTiles.toNat
          + (1 + if tile.toNat + 1 < tiling.outTiles.toNat then 1 else 0))))
      (pushOutputTile target shape tiling tile program) := by
  obtain ⟨begins, ends, weightsCalm, bytesCalm, outputCalm⟩ := calm
  have whole : longest = 16383 := rfl
  have words : UInt32.size = 2 ^ 32 := rfl
  -- The channels of the tile.
  obtain ⟨first, ok, start⟩ := Checked.exists_mul32 (show tileStart target tile.toNat < _ by omega)
  refine .checked ok ?_
  have start' : tileStart target tile.toNat = first.toNat := start
  rw [start'] at begins ends weightsCalm outputCalm
  obtain ⟨stop, ok, stopNumber⟩ := Checked.exists_add32 ends
  refine .checked ok ?_
  obtain ⟨count, ok, width⟩ := Checked.exists_sub32
    (show first.toNat ≤ (min stop shape.output.channels).toNat by rw [toNat_min]; omega)
  refine .checked ok ?_
  have width' : count.toNat = tileWidth target shape tile.toNat := by
    rw [toNat_min, ← stopNumber] at width
    unfold tileWidth
    omega
  rw [← width'] at bytesCalm
  -- Where its weights are and how many there are.
  have place (fits : TileFits target shape tile.toNat) :
      shape.weight.addr.toNat + first.toNat * perChannel shape ≤ 0x3FFFF ∧
      count.toNat * perChannel shape ≤ 0xFFFF + longest := by
    have bounds := fits.bounds
    unfold tileWeights at bounds
    rwa [start', ← width'] at bounds
  refine .scaled (toNat_weightsPerOutput shape) weightsCalm (fun fits => ?_) fun distance weights => ?_
  · have := place fits
    omega
  refine .scaled (toNat_weightsPerOutput shape) bytesCalm (fun fits => ?_) fun len bytes => ?_
  · have := place fits
    omega
  refine .offset (fun fits => ?_) fun source sourceNumber => ?_
  · have := place fits
    omega
  -- The load of the weights, and the computations.
  have transfer := pushTransfer_grows .dmaLoadW source 0 len program
  rw [← bytes, width'] at transfer
  refine (transfer.imp fun fits => ?_).bind fun loaded _ => ?_
  · have source' : source.toNat = tileWeights target shape tile.toNat := by
      unfold tileWeights
      rw [start', weights, sourceNumber]
    rw [source']
    exact fits.weights
  refine (push_grows loaded _ _).bind fun waited _ => ?_
  refine (pushInputTiles_grows waited _ (by simp)).bind fun computed _ => ?_
  -- Where its results go.
  have drains (fits : TileFits target shape tile.toNat) : shape.output.addr.toNat +
      first.toNat * (shape.output.height.toNat * shape.output.width.toNat) < UInt32.size := by
    have output := fits.output
    unfold tileOutput at output
    rwa [start'] at output
  refine .scaled (toNat_plane shape.output) outputCalm (fun fits => ?_) fun distance results => ?_
  · have := drains fits
    omega
  refine .offset (fun fits => results ▸ drains fits) fun _ _ => ?_
  refine (push_grows computed _ _).bind fun drained _ => ?_
  split
  · exact push_grows drained _ _
  · exact .pure drained _

/-- A layer with weights and a column to compute on, whose output can be counted. -/
structure Computable (target : Target) (shape : Layer) : Prop where
  columns : 0 < target.peCols.toNat
  outputs : 0 < shape.output.channels.toNat
  weights : 0 < perChannel shape
  area : shape.output.channels.toNat * (shape.output.height.toNat * shape.output.width.toNat)
    < UInt64.size

theorem Computable.outCount_pos (layer : Computable target shape) : 0 < outCount target shape :=
  ceilDiv_pos layer.outputs layer.columns

/-- A tile that fits leaves room for the arithmetic of the next one. -/
theorem TileFits.calm_succ {tile : Nat} (fits : TileFits target shape tile)
    (layer : Computable target shape) (next : tile + 1 < outCount target shape) :
    TileCalm target shape (tile + 1) := by
  obtain ⟨place, bytes⟩ := fits.bounds
  have inside := (lt_outCount_iff layer.columns (tile + 1)).mp next
  have full := tileWidth_full layer.columns next
  rw [full] at bytes
  unfold tileWeights at place
  have step : tileStart target (tile + 1) = tileStart target tile + target.peCols.toNat := by
    unfold tileStart
    rw [Nat.add_mul, Nat.one_mul]
  have weights : tileStart target (tile + 1) * perChannel shape ≤ 0x3FFFF + 0xFFFF + longest := by
    rw [step, Nat.add_mul]
    omega
  -- Every channel has a weight, so the channels are no more than the weights.
  have channels := Nat.le_mul_of_pos_right (tileStart target (tile + 1)) layer.weights
  have whole : longest = 16383 := rfl
  have area := layer.area
  unfold UInt64.size at area
  refine ⟨inside.le, ?_, ?_, ?_, ?_⟩
  · unfold UInt32.size
    omega
  · unfold UInt64.size
    omega
  · have := Nat.mul_le_mul_right (perChannel shape) (tileWidth_le_columns target shape (tile + 1))
    unfold UInt64.size
    omega
  · exact (Nat.mul_le_mul_right _ inside.le).trans_lt layer.area

/-- The loop over output tiles. The first clearing is not its own, so it adds one instruction less. -/
theorem pushOutputTiles_grows {tiling : Tiling} {tile : UInt32} {remaining : Nat}
    (program : Program) (layer : Computable target shape)
    (planned : tiling.outTiles.toNat = outCount target shape)
    (left : tile.toNat + (remaining + 1) = tiling.outTiles.toNat)
    (calm : TileCalm target shape tile.toNat) :
    Grows program (TilesFit target shape)
      (tilesLength target shape tiling.inTiles.toNat tile.toNat (remaining + 1) - 1)
      (pushOutputTiles target shape tiling (remaining + 1) tile program) := by
  induction remaining generalizing tile program with
  | zero =>
    have only := (pushOutputTile_grows tiling program calm).imp
      fun (fits : TilesFit target shape) => fits tile.toNat (by omega)
    rw [if_neg (by omega)] at only
    have length : tilesLength target shape tiling.inTiles.toNat tile.toNat 1 - 1 =
        chunkCount (tileWidth target shape tile.toNat * perChannel shape)
          + (1 + (2 * tiling.inTiles.toNat + (1 + 0))) + 0 := by
      rw [tilesLength_succ, tileLength]
      show _ + 0 - 1 = _
      omega
    rw [length]
    exact only.bind fun longer _ => .pure longer _
  | succ remaining ih =>
    have first := (pushOutputTile_grows tiling program calm).imp
      fun (fits : TilesFit target shape) => fits tile.toNat (by omega)
    rw [if_pos (by omega)] at first
    have range := tiling.outTiles.toNat_lt
    have one : (1 : UInt32).toNat = 1 := rfl
    have following : (tile + 1).toNat = tile.toNat + 1 := by
      rw [UInt32.toNat_add, one, Nat.mod_eq_of_lt (by omega)]
    have length : tilesLength target shape tiling.inTiles.toNat tile.toNat (remaining + 1 + 1) - 1 =
        chunkCount (tileWidth target shape tile.toNat * perChannel shape)
          + (1 + (2 * tiling.inTiles.toNat + (1 + 1)))
          + (tilesLength target shape tiling.inTiles.toNat (tile + 1).toNat (remaining + 1) - 1) := by
      have := tilesLength_pos target shape tiling.inTiles.toNat (tile.toNat + 1) remaining
      rw [tilesLength_succ, tileLength, following]
      omega
    rw [length]
    refine first.bind fun longer pushed => ih longer (by omega) ?_
    -- The next tile is reached only if this one fits.
    obtain ⟨fits, _⟩ := pushOutputTile_appended pushed
    rw [following]
    exact fits.calm_succ layer (by omega)

/-- The whole program of a convolution. -/
theorem convolution_grows {tiling : Tiling} (layer : Computable target shape)
    (planned : Tiling.ofLayer target shape = .ok tiling) (calm : TileCalm target shape 0) :
    Grows (.empty target.convBound) (TilesFit target shape)
      (tilesLength target shape (inCount target shape) 0 (outCount target shape) + 1)
      (convolution target shape) := by
  obtain ⟨outNumber, inNumber⟩ := Tiling.counts planned
  have some := layer.outCount_pos
  obtain ⟨remaining, count⟩ : ∃ remaining, outCount target shape = remaining + 1 :=
    ⟨outCount target shape - 1, by omega⟩
  have positive := tilesLength_pos target shape (inCount target shape) 0 remaining
  rw [← count] at positive
  rw [show tilesLength target shape (inCount target shape) 0 (outCount target shape) + 1 =
    1 + ((tilesLength target shape (inCount target shape) 0 (outCount target shape) - 1) + 1) by omega]
  refine .checked planned ?_
  refine (push_grows _ _ _).bind fun cleared _ => ?_
  refine Grows.bind ?_ fun tiled _ => push_grows tiled _ _
  have loop := pushOutputTiles_grows cleared layer outNumber
    (show (0 : UInt32).toNat + (remaining + 1) = _ by simp [outNumber, count]) calm
  rw [outNumber]
  rwa [UInt32.toNat_zero, inNumber, ← count] at loop

end Tiles

end Lowering

end NpuStack
