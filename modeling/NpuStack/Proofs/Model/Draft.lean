import NpuStack.Proofs.Model.RoundTrip

/-! Drafts: whatever a sequence of requests asked for is in the file that is
built, and is read back from it. -/

set_option autoImplicit false

namespace NpuStack.Model

namespace Draft

inductive Call where
  | layer (instructions : Array Instruction)
  | weights (bytes : ByteArray)
  | bias (bytes : ByteArray)
  | ioSizes (input output : UInt32)
  | workspace (bytes : UInt32)
  | withChecksum

def apply (draft : Draft) : Call → Draft
  | .layer instructions => draft.layer instructions
  | .weights bytes => { draft with weights := bytes }
  | .bias bytes => { draft with bias := bytes }
  | .ioSizes input output => { draft with inputBytes := input, outputBytes := output }
  | .workspace bytes => { draft with workspaceBytes := bytes }
  | .withChecksum => { draft with hasChecksum := true }

def ofCalls (calls : List Call) : Draft := calls.foldl apply {}

section Requested

variable (calls : List Call)

def requestedCode : List Instruction :=
  calls.flatMap fun
    | .layer instructions => instructions.toList
    | _ => []

def requestedLayers : Nat :=
  calls.countP fun
    | .layer _ => true
    | _ => false

/-- Of several requests for the same thing, the last one counts. -/
def last {α : Type} (select : Call → Option α) (default : α) : α :=
  (calls.filterMap select).getLastD default

def requestedWeights : ByteArray :=
  last calls (fun | .weights bytes => some bytes | _ => none) .empty

def requestedBias : ByteArray :=
  last calls (fun | .bias bytes => some bytes | _ => none) .empty

def requestedSizes : UInt32 × UInt32 :=
  last calls (fun | .ioSizes input output => some (input, output) | _ => none) (0, 0)

def requestedWorkspace : UInt32 :=
  last calls (fun | .workspace bytes => some bytes | _ => none) 0

def requestsChecksum : Bool :=
  calls.any fun
    | .withChecksum => true
    | _ => false

end Requested

@[simp] theorem last_concat {α : Type} (calls : List Call) (call : Call) (select : Call → Option α)
    (default : α) : last (calls ++ [call]) select default =
      (select call).getD (last calls select default) := by
  unfold last
  cases chosen : select call <;> simp [List.filterMap_append, chosen]

/-- The count of layers stays at the largest half word. -/
theorem count_layer (count : Nat) :
    (if UInt16.ofNat (min count 65535) = 0xFFFF then 0xFFFF else UInt16.ofNat (min count 65535) + 1) =
      UInt16.ofNat (min (count + 1) 65535) := by
  have full : UInt16.ofNat (min count 65535) = 0xFFFF ↔ 65535 ≤ count := by
    have small : min count 65535 < UInt16.size := Nat.lt_of_le_of_lt (Nat.min_le_right _ _) (by decide)
    rw [← UInt16.toNat_inj, UInt16.toNat_ofNat_of_lt' small]
    exact min_eq_right_iff
  simp only [full]
  split
  case isTrue many => rw [Nat.min_eq_right (by omega)]; rfl
  case isFalse few =>
    rw [Nat.min_eq_left (by omega), Nat.min_eq_left (by omega), UInt16.ofNat_add]
    rfl

/-- A draft is what the requests asked for. -/
theorem ofCalls_eq (calls : List Call) : ofCalls calls = {
    instructions := (requestedCode calls).toArray
    weights := requestedWeights calls
    bias := requestedBias calls
    layerCount := .ofNat (min (requestedLayers calls) 65535)
    inputBytes := (requestedSizes calls).1
    outputBytes := (requestedSizes calls).2
    workspaceBytes := requestedWorkspace calls
    hasChecksum := requestsChecksum calls } := by
  -- From the end, where the request stands that overrides those before it.
  induction calls using List.reverseRecOn with
  | nil => rfl
  | append_singleton calls call ih =>
    have step : ofCalls (calls ++ [call]) = (ofCalls calls).apply call := by simp [ofCalls]
    rw [step, ih]
    cases call with
    | layer instructions =>
      simpa [apply, layer, requestedCode, requestedLayers, requestedWeights, requestedBias,
        requestedSizes, requestedWorkspace, requestsChecksum] using count_layer (requestedLayers calls)
    | _ => simp [apply, requestedCode, requestedLayers, requestedWeights, requestedBias, requestedSizes,
        requestedWorkspace, requestsChecksum]

section Built

variable {draft : Draft}

/-- Every section has a size that its header field can hold. -/
structure Fits (draft : Draft) : Prop where
  instructions : draft.instructions.size < UInt32.size
  weights : draft.weights.size < UInt32.size
  bias : draft.bias.size < UInt32.size

def image (draft : Draft) : Image where
  header := {
    layerCount := draft.layerCount
    weightBytes := .ofNat draft.weights.size
    instCount := .ofNat draft.instructions.size
    inputBytes := draft.inputBytes
    outputBytes := draft.outputBytes
    workspaceBytes := draft.workspaceBytes
    checksum := if draft.hasChecksum then checksum draft.body else 0
    biasBytes := .ofNat draft.bias.size }
  program := .exact draft.instructions
  weights := draft.weights
  bias := draft.bias

theorem build_eq (fits : draft.Fits) : draft.build = .ok (draft.image.header.toBytes ++ draft.body) := by
  have size {bytes : Nat} (small : bytes < UInt32.size) (what : String) :
      sectionSize bytes what = .ok (.ofNat bytes) := if_pos small
  rw [build, size fits.weights, size fits.instructions, size fits.bias]
  rfl

theorem sections_image (fits : draft.Fits) : Image.Sections draft.body draft.image where
  instructions := (UInt32.toNat_ofNat_of_lt' fits.instructions).symm
  weights := (UInt32.toNat_ofNat_of_lt' fits.weights).symm
  bias := (UInt32.toNat_ofNat_of_lt' fits.bias).symm
  whole := ByteArray.append_assoc.symm

/-- A draft of operations keeps all that its header promises. -/
theorem accepted_image (fits : draft.Fits)
    (assigned : ∀ inst ∈ draft.instructions, inst.opcode.isUnassigned = false) :
    Image.Accepted draft.body draft.image where
  toSections := sections_image fits
  version := UInt16.le_refl _
  sum := by
    show (if draft.hasChecksum then checksum draft.body else 0) = 0 ∨
      _ = if draft.hasChecksum then checksum draft.body else 0
    split
    case isTrue => exact .inr rfl
    case isFalse => exact .inl rfl
  assigned := assigned
  bound := rfl

end Built

/-- Whatever was asked for is read back from the file that was built, with anything after it. -/
theorem parse_build (calls : List Call)
    (assigned : ∀ inst ∈ requestedCode calls, inst.opcode.isUnassigned = false)
    (code : (requestedCode calls).length < UInt32.size)
    (weights : (requestedWeights calls).size < UInt32.size)
    (bias : (requestedBias calls).size < UInt32.size) :
    ∃ file image, (ofCalls calls).build = .ok file ∧
    (∀ extra, Image.parse (file ++ extra) = .ok image) ∧
    image.program.instructions.toList = requestedCode calls ∧
    image.weights = requestedWeights calls ∧
    image.bias = requestedBias calls ∧
    image.header = {
      version := 0x0100
      layerCount := .ofNat (min (requestedLayers calls) 65535)
      weightBytes := .ofNat (requestedWeights calls).size
      instCount := .ofNat (requestedCode calls).length
      inputBytes := (requestedSizes calls).1
      outputBytes := (requestedSizes calls).2
      workspaceBytes := requestedWorkspace calls
      checksum :=
        if requestsChecksum calls then .ofNat (byteSum (file.extract 64 file.size)) else 0
      biasBytes := .ofNat (requestedBias calls).size } := by
  have draft := ofCalls_eq calls
  have fits : (ofCalls calls).Fits := by
    rw [draft]
    exact ⟨code, weights, bias⟩
  have accepted : Image.Accepted (ofCalls calls).body (ofCalls calls).image := by
    apply accepted_image fits
    rw [draft]
    intro inst member
    exact assigned inst (List.mem_toArray.mp member)
  have body : ((ofCalls calls).image.header.toBytes ++ (ofCalls calls).body).extract 64
      ((ofCalls calls).image.header.toBytes ++ (ofCalls calls).body).size = (ofCalls calls).body := by
    apply ByteArray.extract_append_eq_right
    · exact (Header.size_toBytes _).symm
    · exact ByteArray.size_append
  refine ⟨_, _, build_eq fits, Image.parse_of_accepted accepted, ?_⟩
  rw [body, ← checksum_eq, draft]
  exact ⟨rfl, rfl, rfl, rfl⟩

def revisedCalls : List Call :=
  [.layer #[.clearAcc, .waitDma], .weights ⟨#[7]⟩, .withChecksum, .layer #[.halt],
    .weights ⟨#[1, 2, 3, 4]⟩, .bias ⟨#[9, 9]⟩, .ioSizes 64 16]

theorem revisedCalls_parsed :
    (∀ inst ∈ requestedCode revisedCalls, inst.opcode.isUnassigned = false) ∧
    ∃ file image, (ofCalls revisedCalls).build = .ok file ∧
    (∀ extra, Image.parse (file ++ extra) = .ok image) ∧
    image.program.instructions.toList = [.clearAcc, .waitDma, .halt] ∧
    image.weights = ⟨#[1, 2, 3, 4]⟩ ∧ image.bias = ⟨#[9, 9]⟩ ∧
    image.header.layerCount = 2 ∧ image.header.inputBytes = 64 ∧ image.header.outputBytes = 16 := by
  have assigned : ∀ inst ∈ requestedCode revisedCalls, inst.opcode.isUnassigned = false := by decide
  obtain ⟨file, image, built, parsed, code, weights, bias, header⟩ :=
    parse_build revisedCalls assigned (by decide) (by decide) (by decide)
  refine ⟨assigned, file, image, built, parsed, code, weights, bias, ?_⟩
  rw [header]
  exact ⟨rfl, rfl, rfl⟩

end Draft

end NpuStack.Model
