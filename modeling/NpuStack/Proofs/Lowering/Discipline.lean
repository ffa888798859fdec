import NpuStack.Proofs.Lowering.Tiles

/-! The discipline of compiled programs. No operation runs while a transfer may
be under way, the halt comes once and last, and a convolution accumulates the
same number of computations between clearing and drain in every tile. -/

set_option autoImplicit false

namespace NpuStack.Lowering

section Settling

def nextPending (pending : Bool) (inst : Instruction) : Bool :=
  if inst.opcode.family? = some .dma then true
  else if inst.opcode = .waitDma then false
  else pending

def needsSettled (op : Opcode) : Bool :=
  op = .loadWeight || op = .compute || op = .drain || op = .halt
    || op.family? = some .pooling || op.family? = some .elementwise

/-- A scan from the start: no transfer may be under way where an operation relies on it. -/
def Settled : (pending : Bool) → List Instruction → Prop
  | _, [] => True
  | pending, inst :: rest =>
    (needsSettled inst.opcode = true → pending = false) ∧ Settled (nextPending pending inst) rest

structure Passes (before : Bool) (code : List Instruction) (after : Bool) : Prop where
  settled : Settled before code
  final : code.foldl nextPending before = after

theorem settled_append {pending : Bool} {first second : List Instruction} :
    Settled pending (first ++ second) ↔
      Settled pending first ∧ Settled (first.foldl nextPending pending) second := by
  induction first generalizing pending with
  | nil => simp [Settled]
  | cons inst rest ih => simp only [List.cons_append, Settled, ih, List.foldl_cons, and_assoc]

theorem Passes.append {a b c : Bool} {first second : List Instruction} (left : Passes a first b)
    (right : Passes b second c) : Passes a (first ++ second) c := by
  refine ⟨settled_append.mpr ⟨left.settled, ?_⟩, ?_⟩
  · rw [left.final]
    exact right.settled
  · rw [List.foldl_append, left.final, right.final]

theorem Passes.nil (pending : Bool) : Passes pending [] pending := ⟨trivial, rfl⟩

theorem Passes.flatMap {α : Type} {pending : Bool} {items : List α} {code : α → List Instruction}
    (each : ∀ item ∈ items, Passes pending (code item) pending) :
    Passes pending (items.flatMap code) pending := by
  induction items with
  | nil => exact .nil pending
  | cons item items ih =>
    rw [List.flatMap_cons]
    exact (each item List.mem_cons_self).append
      (ih fun other member => each other (List.mem_cons_of_mem item member))

/-- An operation that neither starts nor awaits transfers runs when all is settled. -/
theorem passes_operation {inst : Instruction} {op : Opcode} (opcode : inst.opcode = op)
    (plain : op.family? ≠ some .dma ∧ op ≠ .waitDma) : Passes false [inst] false := by
  subst opcode
  exact ⟨⟨fun _ => rfl, trivial⟩, by simp [nextPending, plain.1, plain.2]⟩

theorem passes_wait (pending : Bool) : Passes pending [.waitDma] false := by
  constructor
  · simp [Settled, needsSettled, show Opcode.waitDma.family? = some .control from rfl]
  · simp [nextPending, show Opcode.waitDma.family? = some .control from rfl]

theorem needsSettled_dma {op : Opcode} (move : op.family? = some .dma) :
    needsSettled op = false := by
  rw [Bool.eq_false_iff]
  intro needs
  simp only [needsSettled, Bool.or_eq_true, decide_eq_true_eq] at needs
  rcases needs with ((((rfl | rfl) | rfl) | rfl) | pool) | combine
  case inl.inr =>
    rw [move] at pool
    cases pool
  case inr =>
    rw [move] at combine
    cases combine
  all_goals exact absurd move (by decide)

theorem passes_transfer {op : Opcode} (move : op.family? = some .dma) (pending : Bool)
    (x : DmaOperand) : Passes pending [transferOf op x] true := by
  have opcode := opcode_transferOf (assigned_of_family move) x
  constructor
  · simp [Settled, opcode, needsSettled_dma move]
  · simp [nextPending, opcode, move]

theorem passes_transfers {op : Opcode} (move : op.family? = some .dma) (pending : Bool)
    (src dst len : Nat) : Passes pending (transfers op src dst len) true := by
  obtain ⟨more, count⟩ : ∃ more, chunkCount len = more + 1 :=
    Nat.exists_eq_succ_of_ne_zero (chunkCount_pos len).ne'
  unfold transfers
  rw [count, List.range_succ_eq_map, List.map_cons, List.map_map, List.map_eq_flatMap]
  -- The first part raises the bit, and the others find it raised.
  refine (passes_transfer move pending _).append (Passes.flatMap fun k _ => ?_)
  exact passes_transfer move true _

end Settling

section Ending

structure Inner (inst : Instruction) : Prop where
  continues : inst.opcode ≠ .halt
  unmarked : inst.isLast = false
  recognised : inst.opcode.isUnassigned = false

structure Disciplined (code : List Instruction) : Prop where
  settled : Settled false code
  halts : ∃ inst, code.getLast? = some inst ∧ inst.opcode = .halt
  once : code.countP (·.opcode == .halt) = 1
  marked : ∀ inst ∈ code, inst.isLast = true ↔ inst.opcode = .halt
  recognised : ∀ inst ∈ code, inst.opcode.isUnassigned = false

theorem inner_of_opcode {inst : Instruction} {op : Opcode} (opcode : inst.opcode = op)
    (ordinary : op ≠ .halt ∧ op.isUnassigned = false) (flags : inst.flags &&& 1 = 0) :
    Inner inst := by
  subst opcode
  refine ⟨ordinary.1, ?_, ordinary.2⟩
  unfold Instruction.isLast Instruction.hasFlag
  rw [show Flag.last.mask = 1 from rfl, flags]
  rfl

theorem disciplined_of_body {body : List Instruction} (settles : Passes false body false)
    (inner : ∀ inst ∈ body, Inner inst) : Disciplined (body ++ [.halt]) where
  settled := (settles.append (passes_operation Instruction.opcode_halt (by decide))).settled
  halts := ⟨.halt, by simp, Instruction.opcode_halt⟩
  once := by
    have none : body.countP (·.opcode == .halt) = 0 := by
      rw [List.countP_eq_zero]
      intro inst member
      simpa using (inner inst member).continues
    rw [List.countP_append, none]
    simp
  marked inst member := by
    rcases List.mem_append.mp member with member | member
    · have plain := inner inst member
      simp [plain.unmarked, plain.continues]
    · rw [List.mem_singleton.mp member]
      decide +kernel
  recognised inst member := by
    rcases List.mem_append.mp member with member | member
    · exact (inner inst member).recognised
    · rw [List.mem_singleton.mp member, Instruction.opcode_halt]
      rfl

theorem inner_wait : Inner .waitDma :=
  inner_of_opcode Instruction.opcode_waitDma (by decide) (by simp)

theorem inner_transfers {op : Opcode} (move : op.family? = some .dma) {src dst len : Nat}
    {inst : Instruction} (member : inst ∈ transfers op src dst len) : Inner inst := by
  have assigned := assigned_of_family move
  obtain ⟨k, _, rfl⟩ := mem_transfers.mp member
  refine inner_of_opcode (opcode_transferOf assigned _) ⟨?_, assigned⟩ (by simp)
  rintro rfl
  exact absurd move (by decide)

theorem fusionFlags_unmarked (activation : Activation) : activation.fusionFlags &&& 1 = 0 := by
  cases activation <;> rfl

end Ending

section Accumulation

/-- Every computation stands right behind a load of weights. -/
def Fed (code : List Instruction) : Prop :=
  ∀ before inst after, code = before ++ inst :: after → inst.opcode = .compute →
    ∃ load, before.getLast? = some load ∧ load.opcode = .loadWeight

/-- One accumulation: `steps` computations and a drain at the end, with the fused activation on
the last computation and no flag anywhere else. -/
structure Accumulates (steps : Nat) (fuse : UInt8) (tile : List Instruction) : Prop where
  computes : tile.countP (·.opcode == .compute) = steps
  drains : tile.countP (·.opcode == .drain) = 1
  ending : ∃ body last drain, tile = body ++ [last, drain] ∧
    last.opcode = .compute ∧ last.flags = fuse ∧ drain.opcode = .drain ∧ drain.flags = 0 ∧
    ∀ inst ∈ body, inst.flags = 0

theorem fed_nil : Fed [] := by
  intro before inst after same
  simp at same

theorem Fed.append {first second : List Instruction} (left : Fed first) (right : Fed second) :
    Fed (first ++ second) := by
  intro before inst after same computes
  rcases List.append_eq_append_iff.mp same with ⟨middle, rfl, inSecond⟩ | ⟨middle, inFirst, rest⟩
  · obtain ⟨load, found, loads⟩ := right middle inst after inSecond computes
    exact ⟨load, by rw [List.getLast?_append, found]; rfl, loads⟩
  · cases middle with
    | nil =>
      obtain ⟨_, found, _⟩ := right [] inst after rest.symm computes
      cases found
    | cons head middle =>
      obtain rfl : inst = head := (List.cons.inj rest).1
      exact left before inst middle inFirst computes

theorem Fed.flatMap {α : Type} {items : List α} {code : α → List Instruction}
    (each : ∀ item ∈ items, Fed (code item)) : Fed (items.flatMap code) := by
  induction items with
  | nil => exact fed_nil
  | cons item items ih =>
    rw [List.flatMap_cons]
    exact (each item List.mem_cons_self).append
      (ih fun other member => each other (List.mem_cons_of_mem item member))

theorem fed_of_none {code : List Instruction} (idle : ∀ inst ∈ code, inst.opcode ≠ .compute) :
    Fed code := by
  rintro before inst after rfl computes
  exact absurd computes (idle inst (by simp))

theorem fed_computation (count : UInt32) (flags : UInt8) :
    Fed [.loadWeight 0 count, .compute flags] := by
  intro before inst after same computes
  match before with
  | [] =>
    rw [← (List.cons.inj same).1, Instruction.opcode_loadWeight] at computes
    cases computes
  | [load] =>
    rw [← (List.cons.inj same).1]
    exact ⟨_, rfl, Instruction.opcode_loadWeight _ _⟩
  | _ :: _ :: rest => simp at same

variable {target : Target} {shape : Layer}

theorem computations_succ (more : Nat) (count : UInt32) (fuse : UInt8) :
    computations (more + 1) count fuse =
      (List.range more).flatMap (fun _ => [.loadWeight 0 count, .compute 0])
        ++ [.loadWeight 0 count, .compute fuse] := by
  unfold computations
  rw [List.range_succ, List.flatMap_append, List.flatMap_singleton, if_pos rfl]
  refine congrArg (· ++ _) (List.flatMap_congr fun tile member => ?_)
  have below := List.mem_range.mp member
  rw [if_neg (by omega)]

theorem countP_computations (inTiles : Nat) (count : UInt32) (fuse : UInt8) :
    (computations inTiles count fuse).countP (·.opcode == .compute) = inTiles := by
  unfold computations
  rw [List.countP_flatMap]
  simp [Function.comp_def]

theorem countP_computations_of_ne {op : Opcode} (loads : op ≠ .loadWeight) (computes : op ≠ .compute)
    (inTiles : Nat) (count : UInt32) (fuse : UInt8) :
    (computations inTiles count fuse).countP (·.opcode == op) = 0 := by
  rw [List.countP_eq_zero]
  intro inst member
  rcases opcode_mem_computations member with found | found
  · simpa [found] using loads.symm
  · simpa [found] using computes.symm

theorem countP_outputTile (op : Opcode) (inTiles tile : Nat) (distinct : op ≠ .dmaLoadW) :
    (outputTile target shape inTiles tile).countP (·.opcode == op) =
      (if op = .waitDma then 1 else 0) + (computations inTiles (.ofNat (tileWidth target shape tile))
        shape.activation.fusionFlags).countP (·.opcode == op) + if op = .drain then 1 else 0 := by
  have loads : (transfers .dmaLoadW (tileWeights target shape tile) 0
      (tileWidth target shape tile * perChannel shape)).countP (·.opcode == op) = 0 := by
    rw [List.countP_eq_zero]
    intro inst member
    obtain ⟨k, _, rfl⟩ := mem_transfers.mp member
    simpa using distinct.symm
  unfold outputTile
  rw [List.countP_append, List.countP_append, List.countP_append, loads]
  simp [List.countP_singleton, eq_comm (a := Opcode.waitDma), eq_comm (a := Opcode.drain)]

def tileBody (target : Target) (shape : Layer) (more tile : Nat) : List Instruction :=
  transfers .dmaLoadW (tileWeights target shape tile) 0 (tileWidth target shape tile * perChannel shape)
    ++ [.waitDma]
    ++ (List.range more).flatMap
      (fun _ => [.loadWeight 0 (.ofNat (tileWidth target shape tile)), .compute 0])
    ++ [.loadWeight 0 (.ofNat (tileWidth target shape tile))]

theorem outputTile_succ (more tile : Nat) :
    outputTile target shape (more + 1) tile = tileBody target shape more tile
      ++ [.compute shape.activation.fusionFlags, .drain (.ofNat (tileOutput target shape tile))] := by
  rw [outputTile, computations_succ, tileBody]
  simp only [List.append_assoc, List.cons_append, List.nil_append]

theorem flags_tileBody {more tile : Nat} {inst : Instruction}
    (member : inst ∈ tileBody target shape more tile) : inst.flags = 0 := by
  simp only [tileBody, List.mem_append, List.mem_flatMap, List.mem_cons, List.not_mem_nil,
    or_false] at member
  rcases member with ((load | rfl) | ⟨_, _, rfl | rfl⟩) | rfl
  case inl.inl.inl =>
    obtain ⟨k, _, rfl⟩ := mem_transfers.mp load
    exact flags_transferOf _ _
  all_goals simp

theorem accumulates_outputTile (inTiles tile : Nat) (some : 0 < inTiles) :
    Accumulates inTiles shape.activation.fusionFlags (outputTile target shape inTiles tile) := by
  refine ⟨?_, ?_, ?_⟩
  · rw [countP_outputTile .compute inTiles tile (by decide), countP_computations]
    simp
  · rw [countP_outputTile .drain inTiles tile (by decide),
      countP_computations_of_ne (by decide) (by decide)]
    rfl
  · obtain ⟨more, rfl⟩ := Nat.exists_eq_succ_of_ne_zero some.ne'
    exact ⟨_, _, _, outputTile_succ more tile, Instruction.opcode_compute _,
      Instruction.flags_compute _, Instruction.opcode_drain _, Instruction.flags_drain _,
      fun inst member => flags_tileBody member⟩

theorem fed_outputTile (inTiles tile : Nat) : Fed (outputTile target shape inTiles tile) := by
  unfold outputTile
  refine ((Fed.append (fed_of_none ?_) (fed_of_none ?_)).append (Fed.flatMap fun _ _ => ?_)).append
    (fed_of_none ?_)
  · intro inst member
    obtain ⟨k, _, rfl⟩ := mem_transfers.mp member
    simp
  · simp
  · exact fed_computation _ _
  · simp

theorem passes_outputTile (inTiles tile : Nat) :
    Passes false (outputTile target shape inTiles tile) false := by
  unfold outputTile
  refine (((passes_transfers (by decide) false _ _ _).append (passes_wait true)).append
    (Passes.flatMap fun _ _ => ?_)).append (passes_operation (Instruction.opcode_drain _) (by decide))
  exact (passes_operation (Instruction.opcode_loadWeight _ _) (by decide)).append
    (passes_operation (Instruction.opcode_compute _) (by decide))

theorem inner_outputTile {inTiles tile : Nat} {inst : Instruction}
    (member : inst ∈ outputTile target shape inTiles tile) : Inner inst := by
  rcases mem_outputTile member with load | rfl | step | rfl
  · exact inner_transfers (by decide) load
  · exact inner_wait
  · rcases mem_computations step with rfl | rfl | rfl
    · exact inner_of_opcode (Instruction.opcode_loadWeight _ _) (by decide) (by simp)
    · refine inner_of_opcode (Instruction.opcode_compute _) (by decide) ?_
      rw [Instruction.flags_compute, fusionFlags_unmarked]
    · exact inner_of_opcode (Instruction.opcode_compute _) (by decide) (by simp)
  · exact inner_of_opcode (Instruction.opcode_drain _) (by decide) (by simp)

end Accumulation

section Programs

variable {target : Target} {shape : Layer} {code : List Instruction}

/-- The accumulations of a convolution, one after the other, each behind a clearing. -/
structure Tiled (steps : Nat) (fuse : UInt8) (code : List Instruction) : Prop where
  starts : ∃ inst, code.head? = some inst ∧ inst.opcode = .clearAcc
  parts : code = (outputTiles code).flatMap (Instruction.clearAcc :: ·) ++ [Instruction.halt]
  cleared : ∀ inst ∈ code, inst.opcode = .clearAcc → inst.flags = 0
  fed : Fed code
  accumulates : ∀ tile ∈ outputTiles code, Accumulates steps fuse tile

/-- What is counted in every tile, and is no clearing and no halt, is counted once for each tile. -/
theorem ConvolutionCode.countP_code {op : Opcode} {number : Nat}
    (conv : ConvolutionCode target shape code) (inner : op ≠ .clearAcc ∧ op ≠ .halt)
    (each : ∀ tile, (outputTile target shape (inCount target shape) tile).countP (·.opcode == op) = number) :
    code.countP (·.opcode == op) = outCount target shape * number := by
  rw [conv.code_tiles, List.countP_append, List.countP_flatMap, tilesOf, List.map_map]
  simp [Function.comp_def, each, inner.1.symm, inner.2.symm]

theorem ConvolutionCode.countP_compute (conv : ConvolutionCode target shape code) :
    code.countP (·.opcode == .compute) = outCount target shape * inCount target shape := by
  apply conv.countP_code (by decide)
  intro tile
  rw [countP_outputTile .compute _ tile (by decide), countP_computations]
  simp

theorem ConvolutionCode.countP_waitDma (conv : ConvolutionCode target shape code) :
    code.countP (·.opcode == .waitDma) = outCount target shape := by
  rw [conv.countP_code (by decide) fun tile => ?_, Nat.mul_one]
  rw [countP_outputTile .waitDma _ tile (by decide), countP_computations_of_ne (by decide) (by decide)]
  rfl

theorem ConvolutionCode.disciplined (conv : ConvolutionCode target shape code) :
    Disciplined code := by
  rw [conv.code_tiles]
  apply disciplined_of_body
  · apply Passes.flatMap
    intro part member
    obtain ⟨tile, _, rfl⟩ := List.mem_map.mp member
    exact (passes_operation Instruction.opcode_clearAcc (by decide)).append (passes_outputTile _ _)
  · intro inst member
    obtain ⟨part, member, inside⟩ := List.mem_flatMap.mp member
    obtain ⟨tile, _, rfl⟩ := List.mem_map.mp member
    rcases List.mem_cons.mp inside with rfl | inside
    · exact inner_of_opcode Instruction.opcode_clearAcc (by decide) (by simp)
    · exact inner_outputTile inside

theorem ConvolutionCode.tiled (conv : ConvolutionCode target shape code) :
    Tiled (inCount target shape) shape.activation.fusionFlags code := by
  have parts := conv.code_tiles
  have tiles := conv.outputTiles_eq
  have inputs : 0 < inCount target shape := ceilDiv_pos conv.inputs conv.rows
  have outputs : 0 < outCount target shape := ceilDiv_pos conv.outputs conv.columns
  refine ⟨⟨.clearAcc, ?_, Instruction.opcode_clearAcc⟩, by rw [tiles]; exact parts, ?_, ?_, ?_⟩
  · obtain ⟨more, count⟩ := Nat.exists_eq_succ_of_ne_zero outputs.ne'
    rw [parts, tilesOf, count, List.range_succ_eq_map, List.map_cons, List.flatMap_cons]
    rfl
  · intro inst member clears
    rw [parts] at member
    rcases List.mem_append.mp member with member | member
    · obtain ⟨part, member, inside⟩ := List.mem_flatMap.mp member
      obtain ⟨tile, _, rfl⟩ := List.mem_map.mp member
      rcases List.mem_cons.mp inside with rfl | inside
      · exact Instruction.flags_clearAcc
      · have := endsTile_outputTile inside
        simp [endsTile, clears] at this
    · rw [List.mem_singleton.mp member, Instruction.opcode_halt] at clears
      cases clears
  · rw [parts]
    refine (Fed.flatMap fun part member => ?_).append (fed_of_none (by simp))
    obtain ⟨tile, _, rfl⟩ := List.mem_map.mp member
    have clear : Fed [Instruction.clearAcc] := fed_of_none (by simp)
    exact clear.append (fed_outputTile _ tile)
  · intro part member
    rw [tiles] at member
    obtain ⟨tile, _, rfl⟩ := List.mem_map.mp member
    exact accumulates_outputTile _ tile inputs

def onData (family : Family) : Bool := family = .pooling || family = .elementwise

theorem operation_of_family {op : Opcode} {family : Family} (found : op.family? = some family)
    (data : onData family = true) :
    (op.family? ≠ some .dma ∧ op ≠ .waitDma) ∧ op ≠ .halt ∧ op.isUnassigned = false := by
  refine ⟨⟨?_, ?_⟩, ?_, assigned_of_family found⟩
  · rw [found]
    rintro ⟨⟩
    cases data
  all_goals
    rintro rfl
    cases found
    cases data

theorem disciplined_poolingCode {layer : Layer} {op : Opcode} (inputBytes outputBytes : Nat)
    (pools : layer.kind.poolOpcode? = some op) :
    Disciplined (poolingCode layer op inputBytes outputBytes) := by
  obtain ⟨plain, ordinary⟩ := operation_of_family (family_poolOpcode pools) rfl
  have opcode := Instruction.opcode_pool ordinary.2 layer.pool.operand
  apply disciplined_of_body
  · exact ((((passes_transfers (by decide) false _ _ _).append (passes_wait true)).append
      (passes_operation opcode plain)).append
      (passes_transfers (by decide) false _ _ _)).append (passes_wait true)
  · intro inst member
    simp only [List.mem_append, List.mem_singleton] at member
    rcases member with (((load | rfl) | rfl) | store) | rfl
    · exact inner_transfers (by decide) load
    · exact inner_wait
    · exact inner_of_opcode opcode ordinary (by simp)
    · exact inner_transfers (by decide) store
    · exact inner_wait

theorem disciplined_elementwiseCode (layer : Layer) (op : EltwiseOp) (second : Tensor)
    (inputBytes outputBytes : Nat) :
    Disciplined (elementwiseCode layer op second inputBytes outputBytes) := by
  obtain ⟨plain, ordinary⟩ := operation_of_family (family_eltwise op) rfl
  have opcode := Instruction.opcode_eltwise ordinary.2 layer.activation.fusionFlags
  apply disciplined_of_body
  · exact ((((((passes_transfers (by decide) false _ _ _).append (passes_wait true)).append
      (passes_transfers (by decide) false _ _ _)).append (passes_wait true)).append
      (passes_operation opcode plain)).append
      (passes_transfers (by decide) false _ _ _)).append (passes_wait true)
  · intro inst member
    simp only [List.mem_append, List.mem_singleton] at member
    rcases member with (((((load | rfl) | load) | rfl) | rfl) | store) | rfl
    · exact inner_transfers (by decide) load
    · exact inner_wait
    · exact inner_transfers (by decide) load
    · exact inner_wait
    · refine inner_of_opcode opcode ordinary ?_
      rw [Instruction.flags_eltwise, fusionFlags_unmarked]
    · exact inner_transfers (by decide) store
    · exact inner_wait

theorem disciplined_of_compile {target : Target} {layer : Layer} {program : Program}
    (ok : layer.compile target = .ok program) : Disciplined program.instructions.toList := by
  obtain ⟨valid, ⟨rows, columns⟩, ways⟩ := compile_cases ok
  rcases ways with ⟨shape, shaped, ok⟩ | ⟨op, pools, ok⟩ | ⟨op, second, _, _, ok⟩
  · obtain ⟨inputs, outputs, weights⟩ := convolution?_positive valid shaped
    exact (convolution_code rows columns inputs outputs weights ok).disciplined
  · obtain ⟨inputBytes, outputBytes, _, _, _, _, code⟩ := pooling_code ok
    rw [code]
    exact disciplined_poolingCode _ _ pools
  · obtain ⟨inputBytes, outputBytes, _, _, _, _, _, code⟩ := elementwise_code ok
    rw [code]
    exact disciplined_elementwiseCode layer op second _ _

theorem compile_disciplined {target : Target} {layer : Layer} {program : Program}
    (ok : layer.compile target = .ok program) :
    Disciplined program.instructions.toList ∧
    (layer.kind.convolves = true → ∃ shape, layer.convolution? = some shape ∧
      Tiled (shape.input.channels.toNat ⌈/⌉ target.peRows.toNat) layer.activation.fusionFlags
        program.instructions.toList) := by
  refine ⟨disciplined_of_compile ok, fun convolves => ?_⟩
  obtain ⟨shape, shaped, conv⟩ := compile_convolution convolves ok
  refine ⟨shape, shaped, ?_⟩
  rw [← convolution?_activation shaped]
  exact conv.tiled

theorem partialTiles_disciplined :
    ∃ program, partialTiles.compile { peRows := 2, peCols := 2 } = .ok program ∧
      Disciplined program.instructions.toList ∧ Tiled 2 0 program.instructions.toList := by
  obtain ⟨program, ok⟩ := partialTiles_compiles
  obtain ⟨disciplined, tiled⟩ := compile_disciplined ok
  obtain ⟨shape, shaped, tiled⟩ := tiled rfl
  cases shaped
  exact ⟨program, ok, disciplined, tiled⟩

end Programs

end NpuStack.Lowering
