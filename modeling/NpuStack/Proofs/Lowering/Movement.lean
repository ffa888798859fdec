import NpuStack.Proofs.Lowering.Coverage

/-! Programs of pooling and elementwise layers as movements of bytes. A transfer
copies between the memory of the host and that of the activations, and what the
operation does to the activations is left open. However many instructions a
transfer takes, together they are one copy. -/

set_option autoImplicit false

namespace NpuStack.Lowering

section Copying

/-- Bytes with a range replaced: `len` of them from `dst` on are those of the source from `src` on. -/
def copied (source bytes : Nat → UInt8) (src dst len : Nat) : Nat → UInt8 := fun i =>
  if dst ≤ i ∧ i < dst + len then source (src + (i - dst)) else bytes i

variable {source bytes : Nat → UInt8} {src dst len i : Nat}

theorem copied_inside (below : i < len) : copied source bytes src dst len (dst + i) = source (src + i) := by
  unfold copied
  rw [if_pos (by omega), Nat.add_sub_cancel_left]

theorem copied_outside (outside : i < dst ∨ dst + len ≤ i) :
    copied source bytes src dst len i = bytes i :=
  if_neg (by omega)

theorem copied_zero : copied source bytes src dst 0 = bytes := by
  funext i
  exact copied_outside (by omega)

/-- A copy that goes on where another one ended. -/
theorem copied_copied (former latter : Nat) :
    copied source (copied source bytes src dst former) (src + former) (dst + former) latter =
      copied source bytes src dst (former + latter) := by
  funext i
  unfold copied
  by_cases second : dst + former ≤ i ∧ i < dst + former + latter
  · rw [if_pos second, if_pos (by omega)]
    congr 1
    omega
  · rw [if_neg second]
    by_cases first : dst ≤ i ∧ i < dst + former
    · rw [if_pos first, if_pos (by omega)]
    · rw [if_neg first, if_neg (by omega)]

end Copying

section Machine

/-- The memories that the transfers of a program go between, without an end. -/
structure Memories where
  host : Nat → UInt8
  activations : Nat → UInt8

inductive Direction where
  | load
  | store

def Direction.opcode : Direction → Opcode
  | .load => .dmaLoadA
  | .store => .dmaStore

def Direction.ofOpcode? : Opcode → Option Direction
  | .dmaLoadA => some .load
  | .dmaStore => some .store
  | _ => none

def Memories.copy (memories : Memories) (direction : Direction) (src dst len : Nat) : Memories :=
  match direction with
  | .load => { memories with activations := copied memories.host memories.activations src dst len }
  | .store => { memories with host := copied memories.activations memories.host src dst len }

def Memories.operated (memories : Memories) (operate : (Nat → UInt8) → Nat → UInt8) : Memories :=
  { memories with activations := operate memories.activations }

def operates (inst : Instruction) : Bool :=
  inst.opcode.family? != some .control && inst.opcode.family? != some .dma

variable (operate : (Nat → UInt8) → Nat → UInt8)

/-- The effect of an instruction word; the effect of an operation is given. -/
def step (memories : Memories) (inst : Instruction) : Memories :=
  match Direction.ofOpcode? inst.opcode with
  | some direction =>
    let x := DmaOperand.unpack inst.operand
    memories.copy direction x.src.toNat x.dst.toNat x.len.toNat
  | none =>
    if operates inst then memories.operated operate else memories

def run (code : List Instruction) (memories : Memories) : Memories := code.foldl (step operate) memories

variable {operate}

theorem Direction.family_ofOpcode {op : Opcode} {direction : Direction}
    (known : ofOpcode? op = some direction) : op.family? = some .dma := by
  cases op <;> cases known <;> rfl

theorem run_append (first second : List Instruction) (memories : Memories) :
    run operate (first ++ second) memories = run operate second (run operate first memories) :=
  List.foldl_append

theorem run_cons (inst : Instruction) (code : List Instruction) (memories : Memories) :
    run operate (inst :: code) memories = run operate code (step operate memories inst) := rfl

theorem run_nil (memories : Memories) : run operate [] memories = memories := rfl

theorem Memories.copy_zero (memories : Memories) (direction : Direction) (src dst : Nat) :
    memories.copy direction src dst 0 = memories := by
  cases direction <;> simp only [copy, copied_zero]

theorem Memories.copy_copy (memories : Memories) (direction : Direction)
    (src dst former latter : Nat) :
    (memories.copy direction src dst former).copy direction (src + former) (dst + former) latter =
      memories.copy direction src dst (former + latter) := by
  cases direction <;> simp only [copy, copied_copied]

theorem step_transferOf (direction : Direction) {x : DmaOperand} (fits : x.fits = true)
    (memories : Memories) :
    step operate memories (transferOf direction.opcode x) =
      memories.copy direction x.src.toNat x.dst.toNat x.len.toNat := by
  have opcode : (transferOf direction.opcode x).opcode = direction.opcode :=
    opcode_transferOf (by cases direction <;> rfl) x
  have known : Direction.ofOpcode? direction.opcode = some direction := by cases direction <;> rfl
  unfold step
  rw [opcode, known]
  dsimp only
  rw [transferOf, DmaOperand.unpack_transfer fits]

theorem step_waitDma (memories : Memories) : step operate memories .waitDma = memories := by
  unfold step operates
  rw [Instruction.opcode_waitDma]
  rfl

theorem run_waited (code : List Instruction) (memories : Memories) :
    run operate (code ++ [.waitDma]) memories = run operate code memories := by
  rw [run_append, run_cons, run_nil, step_waitDma]

theorem step_operation {inst : Instruction} {family : Family}
    (found : inst.opcode.family? = some family) (control : family ≠ .control) (dma : family ≠ .dma)
    (memories : Memories) : step operate memories inst = memories.operated operate := by
  have other : Direction.ofOpcode? inst.opcode = none := by
    cases known : Direction.ofOpcode? inst.opcode with
    | none => rfl
    | some direction =>
      rw [Direction.family_ofOpcode known] at found
      cases found
      exact absurd rfl dma
  have performed : operates inst = true := by simp [operates, found, control, dma]
  unfold step
  rw [other]
  exact if_pos performed

/-- The instructions of a transfer that fits are one copy. -/
theorem run_transfers (direction : Direction) {src dst len : Nat} (fits : TransferFits src dst len)
    (memories : Memories) :
    run operate (transfers direction.opcode src dst len) memories =
      memories.copy direction src dst len := by
  -- The first `count` instructions copy the bytes up to the start of the next.
  have upTo (count : Nat) (atMost : count ≤ chunkCount len) :
      run operate ((List.range count).map fun k => transferOf direction.opcode (chunk src dst len k))
        memories = memories.copy direction src dst (chunkStart 0 len count) := by
    induction count with
    | zero =>
      rw [chunkStart, Nat.zero_mul, Nat.min_zero, Memories.copy_zero]
      exact run_nil memories
    | succ count ih =>
      obtain ⟨here, next⟩ := chunkStart_step atMost 0
      obtain ⟨srcNumber, dstNumber, lenNumber⟩ := chunk_toNat len (fits count atMost)
      rw [Nat.zero_add] at here
      rw [List.range_succ, List.map_append, run_append, ih (Nat.le_of_lt atMost), List.map_singleton,
        run_cons, run_nil, step_transferOf direction (chunk_fits len (fits count atMost)), srcNumber,
        dstNumber, lenNumber, next, ← here, Memories.copy_copy]
  have whole := upTo (chunkCount len) (Nat.le_refl _)
  rwa [chunkStart_chunkCount, Nat.zero_add] at whole

end Machine

section Layers

def operands (layer : Layer) : List Tensor :=
  match layer.kind, layer.second with
  | .eltwise _, some second => [layer.input, second]
  | _, _ => [layer.input]

/-- The operands of a layer stand in the activations one behind the other, and nothing else has
changed. -/
structure Gathered (layer : Layer) (size : Nat) (before ready : Memories) : Prop where
  operand (k : Nat) (tensor : Tensor) : (operands layer)[k]? = some tensor → ∀ i < size,
    ready.activations (k * size + i) = before.host (tensor.addr.toNat + i)
  others (i : Nat) : (operands layer).length * size ≤ i → ready.activations i = before.activations i
  host : ready.host = before.host

/-- The first activations stand at the output of a layer, and nothing else has changed. -/
structure Returned (layer : Layer) (size : Nat) (done after : Memories) : Prop where
  output (i : Nat) : i < size → after.host (layer.output.addr.toNat + i) = done.activations i
  others (i : Nat) : i < layer.output.addr.toNat ∨ layer.output.addr.toNat + size ≤ i →
    after.host i = done.host i
  activations : after.activations = done.activations

/-- The operation of a layer with its parameters: a window, or the flags of the activation that is
fused with it. -/
inductive Performs (layer : Layer) (inst : Instruction) : Prop where
  | pooling {op : Opcode} (kind : layer.kind.poolOpcode? = some op) (opcode : inst.opcode = op)
      (window : PoolOperand.unpack inst.operand = layer.pool.operand) (flags : inst.flags = 0)
  | elementwise {op : EltwiseOp} (kind : layer.kind = .eltwise op) (opcode : inst.opcode = op.opcode)
      (flags : inst.flags = layer.activation.fusionFlags)

/-- A program that brings in the operands of its layer, performs one operation and takes out the
result. All other instructions are transfers and waits. -/
structure Movement (layer : Layer) (inputBytes outputBytes : Nat) (loads : List Instruction)
    (operation : Instruction) (stores : List Instruction) : Prop where
  performs : Performs layer operation
  transfers : ∀ inst ∈ loads ++ stores, inst.opcode ∈ [.dmaLoadA, .dmaStore, .waitDma]
  gathered (operate : (Nat → UInt8) → Nat → UInt8) (before : Memories) :
    Gathered layer inputBytes before (run operate loads before)
  returned (operate : (Nat → UInt8) → Nat → UInt8) (before : Memories) :
    Returned layer outputBytes ((run operate loads before).operated operate)
      (run operate (loads ++ operation :: stores ++ [.waitDma]) before)

variable {operate : (Nat → UInt8) → Nat → UInt8} {layer : Layer} {size src dst : Nat}

theorem run_load (fits : TransferFits src dst size) (memories : Memories) :
    run operate (transfers .dmaLoadA src dst size ++ [.waitDma]) memories =
      memories.copy .load src dst size := by
  rw [run_waited]
  exact run_transfers .load fits memories

theorem returned_store {operation : Instruction} {family : Family}
    (found : operation.opcode.family? = some family) (control : family ≠ .control)
    (dma : family ≠ .dma) (fits : TransferFits 0 layer.output.addr.toNat size)
    (loads : List Instruction) (before : Memories) :
    Returned layer size ((run operate loads before).operated operate)
      (run operate (loads ++ operation :: transfers .dmaStore 0 layer.output.addr.toNat size
        ++ [.waitDma]) before) := by
  have all : run operate (loads ++ operation :: transfers .dmaStore 0 layer.output.addr.toNat size
      ++ [.waitDma]) before =
        ((run operate loads before).operated operate).copy .store 0 layer.output.addr.toNat size := by
    rw [run_waited, run_append, run_cons, step_operation found control dma]
    exact run_transfers .store fits _
  rw [all]
  refine ⟨fun i below => ?_, fun i outside => copied_outside outside, rfl⟩
  refine (copied_inside below).trans ?_
  rw [Nat.zero_add]

theorem gathered_one (one : operands layer = [layer.input]) (before : Memories) :
    Gathered layer size before (before.copy .load layer.input.addr.toNat 0 size) := by
  refine ⟨fun k tensor found i below => ?_, fun i outside => copied_outside ?_, rfl⟩
  · rw [one] at found
    obtain ⟨rfl, rfl⟩ : k = 0 ∧ layer.input = tensor := by simpa [List.getElem?_singleton] using found
    rw [Nat.zero_mul]
    exact copied_inside below
  · rw [one] at outside
    have behind : 1 * size ≤ i := outside
    omega

theorem gathered_two {second : Tensor} (two : operands layer = [layer.input, second])
    (before : Memories) :
    Gathered layer size before ((before.copy .load layer.input.addr.toNat 0 size).copy .load
      second.addr.toNat size size) := by
  refine ⟨fun k tensor found i below => ?_, fun i outside => ?_, rfl⟩
  · rw [two] at found
    match k with
    | 0 =>
      cases found
      rw [Nat.zero_mul]
      -- The second copy begins behind the first.
      refine (copied_outside (by omega)).trans ?_
      exact copied_inside below
    | 1 =>
      cases found
      rw [Nat.one_mul]
      exact copied_inside below
  · rw [two] at outside
    have behind : 2 * size ≤ i := outside
    exact (copied_outside (by omega)).trans (copied_outside (by omega))

end Layers

section Programs

variable {target : Target} {layer : Layer} {program : Program}

theorem opcode_mem_waited (direction : Direction) {src dst size : Nat} {inst : Instruction}
    (member : inst ∈ transfers direction.opcode src dst size ++ [.waitDma]) :
    inst.opcode ∈ [.dmaLoadA, .dmaStore, .waitDma] := by
  rcases List.mem_append.mp member with transfer | wait
  · rw [opcode_mem_transfers (by cases direction <;> rfl) transfer]
    cases direction <;> simp [Direction.opcode]
  · simp [List.mem_singleton.mp wait]

theorem regrouped (loads stores : List Instruction) (operation wait halt : Instruction) :
    loads ++ [operation] ++ stores ++ [wait] ++ [halt] =
      loads ++ operation :: stores ++ [wait, halt] := by
  simp

def Moves (layer : Layer) (code : List Instruction) : Prop :=
  ∃ (inputBytes outputBytes : UInt64) (loads : List Instruction) (operation : Instruction)
    (stores : List Instruction),
    layer.input.byteSize = .ok inputBytes ∧ layer.output.byteSize = .ok outputBytes ∧
    code = loads ++ operation :: stores ++ [.waitDma, .halt] ∧
    Movement layer inputBytes.toNat outputBytes.toNat loads operation stores

theorem pooling_movement {op : Opcode} (kind : layer.kind.poolOpcode? = some op)
    (ok : pooling target layer op = .ok program) : Moves layer program.instructions.toList := by
  obtain ⟨inputBytes, outputBytes, inputSize, outputSize, loads, stores, code⟩ := pooling_code ok
  rw [poolingCode, regrouped] at code
  have family := family_poolOpcode kind
  have opcode := Instruction.opcode_pool (assigned_of_family family) layer.pool.operand
  have found : (Instruction.pool op layer.pool.operand).opcode.family? = some .pooling := by
    rw [opcode, family]
  have window : PoolOperand.unpack (Instruction.pool op layer.pool.operand).operand =
      layer.pool.operand :=
    (PoolOperand.format.unpack_operand_encode op 0 _).trans (PoolOperand.unpack_pack _)
  have one : operands layer = [layer.input] := by
    unfold operands
    split
    case h_1 elementwise _ =>
      rw [elementwise] at kind
      cases kind
    case h_2 => rfl
  refine ⟨inputBytes, outputBytes, _, _, _, inputSize, outputSize, code, ?_⟩
  refine ⟨.pooling kind opcode window (Instruction.flags_pool _ _), ?_, ?_, ?_⟩
  · intro inst member
    rcases List.mem_append.mp member with load | store
    · exact opcode_mem_waited .load load
    · exact opcode_mem_waited .store (List.mem_append_left _ store)
  · intro operate before
    rw [run_load loads]
    exact gathered_one one before
  · intro operate before
    exact returned_store found (by decide) (by decide) stores _ before

theorem elementwise_movement {op : EltwiseOp} {second : Tensor} (kind : layer.kind = .eltwise op)
    (given : layer.second = some second) (ok : elementwise target layer op second = .ok program) :
    Moves layer program.instructions.toList := by
  obtain ⟨inputBytes, outputBytes, inputSize, outputSize, loads, loads', stores, code⟩ :=
    elementwise_code ok
  rw [elementwiseCode, regrouped] at code
  have family := family_eltwise op
  have opcode := Instruction.opcode_eltwise (assigned_of_family family) layer.activation.fusionFlags
  have found : (Instruction.eltwise op.opcode layer.activation.fusionFlags).opcode.family? =
      some .elementwise := by
    rw [opcode, family]
  have two : operands layer = [layer.input, second] := by simp only [operands, kind, given]
  refine ⟨inputBytes, outputBytes, _, _, _, inputSize, outputSize, code, ?_⟩
  refine ⟨.elementwise kind opcode (Instruction.flags_eltwise _ _), ?_, ?_, ?_⟩
  · intro inst member
    rcases List.mem_append.mp member with load | store
    · rw [List.append_assoc] at load
      rcases List.mem_append.mp load with load | load
      · exact opcode_mem_waited .load load
      · exact opcode_mem_waited .load load
    · exact opcode_mem_waited .store (List.mem_append_left _ store)
  · intro operate before
    rw [List.append_assoc, run_append, run_load loads, run_load loads']
    exact gathered_two two before
  · intro operate before
    exact returned_store found (by decide) (by decide) stores _ before

end Programs

/-- A pooling or elementwise program moves whole tensors: just before its only operation the operands
stand in the activations, and after the last wait the activations that the operation left stand at
the output. -/
theorem compile_movement {target : Target} {layer : Layer} {program : Program}
    (simple : layer.kind.isPool = true ∨ layer.kind.eltwiseOp?.isSome = true)
    (ok : layer.compile target = .ok program) : Moves layer program.instructions.toList := by
  obtain ⟨_, _, ways⟩ := compile_cases ok
  rcases ways with ⟨shape, shaped, _⟩ | ⟨op, kind, ok⟩ | ⟨op, second, kind, given, ok⟩
  · rcases convolution?_cases shaped with ⟨kind | kind, _⟩ | ⟨kind, _⟩
    all_goals
      rw [kind] at simple
      rcases simple with pools | combines
      · cases pools
      · cases combines
  · exact pooling_movement kind ok
  · exact elementwise_movement kind given ok

/-- Batches of sixteen-bit elements, each tensor too long for one transfer. -/
def pairedLayer : Layer :=
  let tensor (addr : UInt32) : Tensor :=
    { Tensor.single addr 10 25 20 with batch := 2, elementType := .int16 }
  { Layer.elementwise .mul (tensor 0x8000) (tensor 0x20000) (tensor 0x1000) with activation := .relu }

theorem pairedLayer_movement :
    ∃ program loads operation stores, pairedLayer.compile .reference = .ok program ∧
      program.instructions.toList = loads ++ operation :: stores ++ [.waitDma, .halt] ∧
      operation.opcode = .mul ∧ operation.flags = Flag.relu.mask ∧
      ∀ before : Memories, ∀ i < 20000,
        (run id loads before).activations (20000 + i) = before.host (0x20000 + i) ∧
        (run id (loads ++ operation :: stores ++ [.waitDma]) before).host (0x1000 + i) =
          before.host (0x8000 + i) := by
  obtain ⟨program, ok⟩ : ∃ program, pairedLayer.compile .reference = .ok program := ⟨_, rfl⟩
  obtain ⟨_, _, loads, operation, stores, input, output, code, movement⟩ :=
    compile_movement (.inr rfl) ok
  cases input
  cases output
  obtain ⟨opcode, flags⟩ : operation.opcode = .mul ∧ operation.flags = Flag.relu.mask := by
    cases movement.performs with
    | pooling kind => cases kind
    | elementwise kind opcode flags =>
      cases kind
      exact ⟨opcode, flags⟩
  refine ⟨program, loads, operation, stores, ok, code, opcode, flags, fun before i below => ⟨?_, ?_⟩⟩
  · exact (movement.gathered id before).operand 1 _ rfl i below
  · have first := (movement.gathered id before).operand 0 _ rfl i below
    rw [Nat.zero_mul, Nat.zero_add] at first
    exact ((movement.returned id before).output i below).trans first

end NpuStack.Lowering
