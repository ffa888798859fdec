import NpuStack.Compiler.Lowering
import NpuStack.Proofs.Checked
import NpuStack.Proofs.Operand

/-! What the steps of a lowering append. Addresses and sizes are natural numbers
here: a step that succeeds has met no overflow, so nothing wraps. -/

set_option autoImplicit false

namespace NpuStack.Lowering

/-- A longer program: the same bound and more instructions behind the old ones. -/
structure Appended (program : Program) (added : List Instruction) (longer : Program) : Prop where
  bound : longer.bound = program.bound
  instructions : longer.instructions.toList = program.instructions.toList ++ added

theorem Appended.nil (program : Program) : Appended program [] program := ⟨rfl, by simp⟩

theorem Appended.append {first second third : Program} {added more : List Instruction}
    (left : Appended first added second) (right : Appended second more third) :
    Appended first (added ++ more) third :=
  ⟨right.bound.trans left.bound, by rw [right.instructions, left.instructions, List.append_assoc]⟩

theorem narrow_eq_ok {value : UInt64} {what : String} {result : UInt32} :
    narrow value what = .ok result ↔ value.toNat = result.toNat := by
  show (if _ then Except.ok _ else Except.error _) = _ ↔ _
  rw [ite_eq_ok, ← UInt32.toNat_inj, UInt64.toNat_toUInt32]
  exact wrapped_iff result.toNat_lt

theorem offsetAddress_eq_ok {base offset result : UInt32} {what : String} :
    offsetAddress base offset what = .ok result ↔ base.toNat + offset.toNat = result.toNat := by
  show (if _ then Except.ok _ else Except.error _) = _ ↔ _
  rw [ite_eq_ok, ← UInt32.toNat_inj, UInt32.toNat_add]
  exact wrapped_iff result.toNat_lt

theorem exists_offsetAddress {base offset : UInt32} (what : String)
    (fits : base.toNat + offset.toNat < UInt32.size) :
    ∃ result, offsetAddress base offset what = .ok result ∧
      base.toNat + offset.toNat = result.toNat :=
  have ok : offsetAddress base offset what = .ok (base + offset) := if_pos fits
  ⟨_, ok, offsetAddress_eq_ok.mp ok⟩

theorem push_appended {program longer : Program} {inst : Instruction}
    (ok : push program inst = .ok longer) : Appended program [inst] longer := by
  unfold push Program.push at ok
  split at ok
  case h_1 _ found =>
    split at found
    · cases found
      cases ok
      exact ⟨rfl, by simp⟩
    · cases found
  case h_2 => cases ok

section Transfers

def longest : Nat := 16383

/-- Instructions of a transfer; an empty one still takes an instruction. -/
def chunkCount (len : Nat) : Nat := max 1 (len ⌈/⌉ longest)

theorem chunkCount_pos (len : Nat) : 0 < chunkCount len := Nat.le_max_left _ _

theorem chunkCount_le_iff (len k : Nat) : chunkCount len ≤ k + 1 ↔ len ≤ (k + 1) * longest := by
  unfold chunkCount
  rw [max_le_iff, ceilDiv_le_iff_le_mul (by decide)]
  exact ⟨fun h => Nat.mul_comm longest _ ▸ h.2, fun h => ⟨by omega, Nat.mul_comm longest _ ▸ h⟩⟩

theorem chunk_reached {len k : Nat} (below : k < chunkCount len) : k * longest ≤ len := by
  cases k with
  | zero => omega
  | succ k =>
    have := mt (chunkCount_le_iff len k).mpr (by omega)
    omega

theorem len_le_chunks (len : Nat) : len ≤ (chunkCount len - 1) * longest + longest := by
  have some := chunkCount_pos len
  have covered := (chunkCount_le_iff len (chunkCount len - 1)).mp (by omega)
  rwa [Nat.add_mul, Nat.one_mul] at covered

theorem toNat_transferCount (bytes : UInt64) :
    (transferCount bytes).toNat = chunkCount bytes.toNat := by
  have whole : DmaOperand.maxLen.toUInt64.toNat = longest := rfl
  have one : (1 : UInt64).toNat = 1 := rfl
  have rest : bytes % DmaOperand.maxLen.toUInt64 = 0 ↔ bytes.toNat % longest = 0 := by
    rw [← UInt64.toNat_inj, UInt64.toNat_mod]; rfl
  have rounded (quotient : UInt64) : (max 1 quotient).toNat = max 1 quotient.toNat := by
    show (if 1 ≤ quotient then quotient else 1).toNat = _
    simp only [max_def, UInt64.le_iff_toNat_le, one]
    split <;> rfl
  unfold transferCount chunkCount
  rw [rounded, ceilDiv_eq_ite (by decide)]
  simp only [rest]
  split
  case isTrue => rw [UInt64.toNat_div, whole]
  case isFalse inexact =>
    have small := quotient_lt inexact
    have range := bytes.toNat_lt
    rw [UInt64.toNat_add, UInt64.toNat_div, whole, one, Nat.mod_eq_of_lt (by omega)]

def chunk (src dst len k : Nat) : DmaOperand where
  src := .ofNat (src + k * longest)
  dst := .ofNat (dst + k * longest)
  len := .ofNat (min longest (len - k * longest))

def transferOf (op : Opcode) (x : DmaOperand) : Instruction := .transfer op x.src x.dst x.len

def transfers (op : Opcode) (src dst len : Nat) : List Instruction :=
  (List.range (chunkCount len)).map fun k => transferOf op (chunk src dst len k)

def StartsInRange (src dst k : Nat) : Prop :=
  src + k * longest ≤ 0x3FFFF ∧ dst + k * longest ≤ 0xFFFF

theorem chunk_toNat (len : Nat) {src dst k : Nat} (inRange : StartsInRange src dst k) :
    (chunk src dst len k).src.toNat = src + k * longest ∧
    (chunk src dst len k).dst.toNat = dst + k * longest ∧
    (chunk src dst len k).len.toNat = min longest (len - k * longest) := by
  obtain ⟨srcRange, dstRange⟩ := inRange
  have shortest : min longest (len - k * longest) ≤ longest := Nat.min_le_left _ _
  have width : longest = 16383 := rfl
  refine ⟨UInt32.toNat_ofNat_of_lt' ?_, UInt32.toNat_ofNat_of_lt' ?_, UInt32.toNat_ofNat_of_lt' ?_⟩
  all_goals
    unfold UInt32.size
    omega

theorem chunk_fits (len : Nat) {src dst k : Nat} (inRange : StartsInRange src dst k) :
    (chunk src dst len k).fits = true := by
  obtain ⟨srcNumber, dstNumber, lenNumber⟩ := chunk_toNat len inRange
  rw [DmaOperand.fits_iff, srcNumber, dstNumber, lenNumber]
  exact ⟨inRange.1, inRange.2, Nat.min_le_left _ _⟩

theorem chunk_eq {src dst len done rest source destination : UInt32} {k : Nat}
    (reached : done.toNat = k * longest) (restNumber : done.toNat + rest.toNat = len.toNat)
    (sourceNumber : src.toNat + done.toNat = source.toNat)
    (destinationNumber : dst.toNat + done.toNat = destination.toNat) :
    DmaOperand.mk source destination (min rest DmaOperand.maxLen) =
      chunk src.toNat dst.toNat len.toNat k := by
  have shorter : min rest DmaOperand.maxLen = .ofNat (min longest (len.toNat - k * longest)) := by
    have whole : DmaOperand.maxLen.toNat = longest := rfl
    rw [show len.toNat - k * longest = rest.toNat by omega, ← whole, Nat.min_comm, ← toNat_min,
      UInt32.ofNat_toNat]
  unfold chunk
  rw [← reached, sourceNumber, destinationNumber, UInt32.ofNat_toNat, UInt32.ofNat_toNat, reached,
    shorter]

/-- A round moves on by one part, or to the end of the transfer. -/
theorem exists_moved {len done rest : UInt32} {k : Nat} (reached : done.toNat = k * longest)
    (restNumber : done.toNat + rest.toNat = len.toNat) :
    ∃ done', Checked.add32 done (min rest DmaOperand.maxLen) = .ok done' ∧
      done'.toNat = min len.toNat ((k + 1) * longest) := by
  have sum : done.toNat + (min rest DmaOperand.maxLen).toNat =
      min len.toNat ((k + 1) * longest) := by
    have whole : DmaOperand.maxLen.toNat = longest := rfl
    rw [toNat_min, whole, ← Nat.add_min_add_left, restNumber, reached, ← Nat.succ_mul]
  obtain ⟨done', added, doneNumber⟩ := Checked.exists_add32
    (sum.trans_lt (Nat.lt_of_le_of_lt (Nat.min_le_left _ _) len.toNat_lt))
  exact ⟨done', added, doneNumber.symm.trans sum⟩

/-- One round of the splitting loop. -/
theorem pushChunks_round {op : Opcode} {src dst len done : UInt32} {fuel k : Nat}
    {program longer : Program} (reached : done.toNat = k * longest)
    (ok : pushChunks op src dst len (fuel + 1) done program = .ok longer) :
    ∃ next done', StartsInRange src.toNat dst.toNat k ∧
      Appended program [transferOf op (chunk src.toNat dst.toNat len.toNat k)] next ∧
      done'.toNat = k * longest + min longest (len.toNat - k * longest) ∧
      (if len ≤ done' then pure next else pushChunks op src dst len fuel done' next) =
        .ok longer := by
  simp only [pushChunks, refuse, bind_eq_ok, liftM_eq_ok, ite_report_eq_ok, Checked.sub32_eq_ok,
    Checked.add32_eq_ok, offsetAddress_eq_ok] at ok
  obtain ⟨rest, restNumber, source, sourceNumber, destination, destinationNumber, fits, next,
    pushed, done', doneNumber, ok⟩ := ok
  -- The checked sums are those of the operand that the `k`-th part should have.
  have operand := chunk_eq reached restNumber sourceNumber destinationNumber
  have here : StartsInRange src.toNat dst.toNat k := by
    rw [Bool.not_eq_true, Bool.not_eq_false'] at fits
    obtain ⟨srcRange, dstRange, _⟩ := (DmaOperand.fits_iff _).mp fits
    unfold StartsInRange
    rw [← reached, sourceNumber, destinationNumber]
    exact ⟨srcRange, dstRange⟩
  refine ⟨next, done', here, ?_, ?_, ok⟩
  · rw [← operand]
    exact push_appended pushed
  · have length : min rest DmaOperand.maxLen = _ := congrArg DmaOperand.len operand
    rw [← doneNumber, reached, length, (chunk_toNat len.toNat here).2.2]

/-- The splitting loop from its `k`-th round on. -/
theorem pushChunks_appended {op : Opcode} {src dst len done : UInt32} {fuel k : Nat}
    {program longer : Program} (reached : done.toNat = k * longest)
    (left : k + fuel = chunkCount len.toNat)
    (ok : pushChunks op src dst len fuel done program = .ok longer) :
    Appended program
      ((List.range' k fuel).map fun k => transferOf op (chunk src.toNat dst.toNat len.toNat k))
      longer ∧
    ∀ later, k ≤ later → later < k + fuel → StartsInRange src.toNat dst.toNat later := by
  induction fuel generalizing k done program with
  | zero =>
    obtain rfl := pure_eq_ok.mp ok
    exact ⟨.nil _, fun later start below => by omega⟩
  | succ fuel ih =>
    obtain ⟨next, done', here, first, moved, ok⟩ := pushChunks_round reached ok
    rw [List.range'_succ, List.map_cons]
    split at ok
    case isTrue finished =>
      -- The loop ends early only when the last counted round has been made.
      obtain rfl := pure_eq_ok.mp ok
      have covered := UInt32.le_iff_toNat_le.mp finished
      obtain rfl : fuel = 0 := by
        have := (chunkCount_le_iff len.toNat k).mpr (by rw [Nat.add_mul]; omega)
        omega
      exact ⟨first, fun later start below => by rwa [show later = k by omega]⟩
    case isFalse unfinished =>
      have short := mt UInt32.le_iff_toNat_le.mpr unfinished
      have reached' : done'.toNat = (k + 1) * longest := by
        rw [Nat.add_mul]
        omega
      obtain ⟨rest, ranges⟩ := ih reached' (by omega) ok
      refine ⟨first.append rest, fun later start below => ?_⟩
      by_cases same : later = k
      · rwa [same]
      · exact ranges later (by omega) (by omega)

theorem pushTransfer_appended {op : Opcode} {src dst len : UInt32} {program longer : Program}
    (ok : pushTransfer op src dst len program = .ok longer) :
    Appended program (transfers op src.toNat dst.toNat len.toNat) longer ∧
    ∀ k < chunkCount len.toNat, StartsInRange src.toNat dst.toNat k := by
  unfold pushTransfer at ok
  rw [toNat_transferCount, UInt32.toNat_toUInt64] at ok
  obtain ⟨appended, ranges⟩ := pushChunks_appended (k := 0) (by simp) (by simp) ok
  refine ⟨?_, fun k below => ranges k (Nat.zero_le k) (by omega)⟩
  rwa [← List.range_eq_range'] at appended

end Transfers

section Tiles

/-- The computations of one output tile; the last carries the fused activation. -/
def computations (inTiles : Nat) (count : UInt32) (fuse : UInt8) : List Instruction :=
  (List.range inTiles).flatMap fun tile =>
    [.loadWeight 0 count, .compute (if tile + 1 = inTiles then fuse else 0)]

theorem pushInputTiles_appended {inTiles count tile : UInt32} {fuse : UInt8} {remaining : Nat}
    {program longer : Program} (left : tile.toNat + remaining = inTiles.toNat)
    (ok : pushInputTiles inTiles count fuse remaining tile program = .ok longer) :
    Appended program ((List.range' tile.toNat remaining).flatMap fun tile =>
      [.loadWeight 0 count, .compute (if tile + 1 = inTiles.toNat then fuse else 0)]) longer := by
  induction remaining generalizing tile program with
  | zero =>
    obtain rfl := pure_eq_ok.mp ok
    exact .nil _
  | succ remaining ih =>
    simp only [pushInputTiles, bind_eq_ok, liftM_eq_ok, Checked.sub32_eq_ok] at ok
    obtain ⟨loaded, pushed, last, lastNumber, computed, pushed', ok⟩ := ok
    have one : (1 : UInt32).toNat = 1 := rfl
    have range := inTiles.toNat_lt
    have isLast : tile = last ↔ tile.toNat + 1 = inTiles.toNat := by
      rw [← UInt32.toNat_inj]
      omega
    have following : (tile + 1).toNat = tile.toNat + 1 := by
      rw [UInt32.toNat_add, one, Nat.mod_eq_of_lt (by omega)]
    have rest := ih (by omega) ok
    simp only [isLast] at pushed'
    rw [following] at rest
    rw [List.range'_succ, List.flatMap_cons]
    exact ((push_appended pushed).append (push_appended pushed')).append rest

theorem pushComputations_appended {inTiles count : UInt32} {fuse : UInt8} {program longer : Program}
    (ok : pushInputTiles inTiles count fuse inTiles.toNat 0 program = .ok longer) :
    Appended program (computations inTiles.toNat count fuse) longer := by
  have appended := pushInputTiles_appended (by simp) ok
  rwa [UInt32.toNat_zero, ← List.range_eq_range'] at appended

def perChannel (shape : Layer) : Nat :=
  shape.input.channels.toNat * shape.conv.kernelH.toNat * shape.conv.kernelW.toNat

theorem toNat_weightsPerOutput (shape : Layer) :
    (shape.conv.weightsPerOutput shape.input.channels).toNat = perChannel shape := by
  have rows : shape.input.channels.toNat * shape.conv.kernelH.toNat ≤ 2 ^ 32 * 2 ^ 8 :=
    Nat.mul_le_mul shape.input.channels.toNat_lt.le shape.conv.kernelH.toNat_lt.le
  have all : perChannel shape ≤ 2 ^ 32 * 2 ^ 8 * 2 ^ 8 :=
    Nat.mul_le_mul rows shape.conv.kernelW.toNat_lt.le
  unfold perChannel at all ⊢
  rw [ConvParams.weightsPerOutput, UInt64.toNat_mul, UInt64.toNat_mul, UInt32.toNat_toUInt64,
    UInt8.toNat_toUInt64, UInt8.toNat_toUInt64, Nat.mod_eq_of_lt (Nat.lt_of_le_of_lt rows (by decide)),
    Nat.mod_eq_of_lt (Nat.lt_of_le_of_lt all (by decide))]

theorem toNat_plane (t : Tensor) : t.plane.toNat = t.height.toNat * t.width.toNat := by
  have height := Nat.le_sub_one_of_lt t.height.toNat_lt
  have width := Nat.le_sub_one_of_lt t.width.toNat_lt
  have area := Nat.mul_le_mul height width
  rw [Tensor.plane, UInt64.toNat_mul, UInt32.toNat_toUInt64, UInt32.toNat_toUInt64,
    Nat.mod_eq_of_lt (by omega)]

variable (target : Target) (shape : Layer)

def tileStart (tile : Nat) : Nat := tile * target.peCols.toNat

def tileWidth (tile : Nat) : Nat :=
  min target.peCols.toNat (shape.output.channels.toNat - tileStart target tile)

def tileWeights (tile : Nat) : Nat :=
  shape.weight.addr.toNat + tileStart target tile * perChannel shape

def tileOutput (tile : Nat) : Nat :=
  shape.output.addr.toNat
    + tileStart target tile * (shape.output.height.toNat * shape.output.width.toNat)

def outputTile (inTiles tile : Nat) : List Instruction :=
  transfers .dmaLoadW (tileWeights target shape tile) 0 (tileWidth target shape tile * perChannel shape)
    ++ [.waitDma]
    ++ computations inTiles (.ofNat (tileWidth target shape tile)) shape.activation.fusionFlags
    ++ [.drain (.ofNat (tileOutput target shape tile))]

structure TileFits (tile : Nat) : Prop where
  weights : ∀ k < chunkCount (tileWidth target shape tile * perChannel shape),
    StartsInRange (tileWeights target shape tile) 0 k
  output : tileOutput target shape tile < UInt32.size

variable {target shape}

theorem pushOutputTile_appended {tiling : Tiling} {tile : UInt32} {program longer : Program}
    (ok : pushOutputTile target shape tiling tile program = .ok longer) :
    TileFits target shape tile.toNat ∧
    Appended program (outputTile target shape tiling.inTiles.toNat tile.toNat
      ++ if tile.toNat + 1 < tiling.outTiles.toNat then [.clearAcc] else []) longer := by
  simp only [pushOutputTile, bind_eq_ok, liftM_eq_ok, Checked.mul32_eq_ok, Checked.add32_eq_ok,
    Checked.sub32_eq_ok, Checked.mul64_eq_ok, narrow_eq_ok, offsetAddress_eq_ok,
    UInt32.toNat_toUInt64, toNat_weightsPerOutput, toNat_plane] at ok
  obtain ⟨first, start, stop, stopNumber, count, width, _, offset', weightOffset, offset,
    _, bytes', weightBytes, bytes, weightAddr, addr, loaded, load, waited, wait, computed, compute,
    _, place', outputOffset, place, outputAddr, output, drained, drain, ok⟩ := ok
  have width' : count.toNat = tileWidth target shape tile.toNat := by
    rw [toNat_min, ← stopNumber] at width
    unfold tileWidth tileStart
    omega
  have weights' : weightAddr.toNat = tileWeights target shape tile.toNat := by
    rw [← addr, ← offset, ← offset', ← start]
    rfl
  have bytes' : weightBytes.toNat = tileWidth target shape tile.toNat * perChannel shape := by
    rw [← bytes, ← bytes', width']
  have output' : outputAddr.toNat = tileOutput target shape tile.toNat := by
    rw [← output, ← place, ← place', ← start]
    rfl
  obtain ⟨load, ranges⟩ := pushTransfer_appended load
  rw [weights', bytes', UInt32.toNat_zero] at load ranges
  have body : Appended program (outputTile target shape tiling.inTiles.toNat tile.toNat) drained := by
    unfold outputTile
    rw [← width', ← output', UInt32.ofNat_toNat, UInt32.ofNat_toNat, width']
    exact ((load.append (push_appended wait)).append (pushComputations_appended compute)).append
      (push_appended drain)
  refine ⟨⟨ranges, output' ▸ outputAddr.toNat_lt⟩, body.append ?_⟩
  split at ok
  case isTrue more =>
    rw [if_pos more]
    exact push_appended ok
  case isFalse last =>
    rw [if_neg last]
    obtain rfl := pure_eq_ok.mp ok
    exact .nil _

/-- The tiles of output channels, each behind a clearing of the accumulators. -/
def clearedTiles (inTiles start count : Nat) (target : Target) (shape : Layer) : List Instruction :=
  (List.range' start count).flatMap fun tile => .clearAcc :: outputTile target shape inTiles tile

/-- The loop over output tiles appends what follows the first clearing. -/
theorem pushOutputTiles_appended {tiling : Tiling} {tile : UInt32} {remaining : Nat}
    {program longer : Program} (left : tile.toNat + (remaining + 1) = tiling.outTiles.toNat)
    (ok : pushOutputTiles target shape tiling (remaining + 1) tile program = .ok longer) :
    (∀ later, tile.toNat ≤ later → later < tiling.outTiles.toNat → TileFits target shape later) ∧
    ∃ added, Appended program added longer ∧
      .clearAcc :: added =
        clearedTiles tiling.inTiles.toNat tile.toNat (remaining + 1) target shape := by
  -- The last tile has no clearing behind it; every other one provides that of its successor.
  induction remaining generalizing tile program with
  | zero =>
    simp only [pushOutputTiles, bind_eq_ok] at ok
    obtain ⟨next, pushed, ok⟩ := ok
    obtain rfl := pure_eq_ok.mp ok
    obtain ⟨fits, appended⟩ := pushOutputTile_appended pushed
    rw [if_neg (by omega), List.append_nil] at appended
    refine ⟨fun later start below => by rwa [show later = tile.toNat by omega], _, appended, ?_⟩
    simp [clearedTiles]
  | succ remaining ih =>
    rw [pushOutputTiles, bind_eq_ok] at ok
    obtain ⟨next, pushed, ok⟩ := ok
    obtain ⟨fits, appended⟩ := pushOutputTile_appended pushed
    rw [if_pos (by omega)] at appended
    have range := tiling.outTiles.toNat_lt
    have one : (1 : UInt32).toNat = 1 := rfl
    have following : (tile + 1).toNat = tile.toNat + 1 := by
      rw [UInt32.toNat_add, one, Nat.mod_eq_of_lt (by omega)]
    obtain ⟨laterFits, added, rest, clears⟩ := ih (by omega) ok
    rw [following] at laterFits clears
    refine ⟨fun later start below => ?_, _, appended.append rest, ?_⟩
    · by_cases same : later = tile.toNat
      · rwa [same]
      · exact laterFits later (by omega) below
    · unfold clearedTiles at clears ⊢
      rw [List.range'_succ, List.flatMap_cons, ← clears]
      simp

end Tiles

end NpuStack.Lowering
