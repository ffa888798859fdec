import NpuStack.Proofs.Loading

/-! What a model leaves of the one that was loaded before it. A section that the
new model has replaces the old one. A section that it lacks is not loaded at
all, and then the old sizes and the old loop stay announced. -/

set_option autoImplicit false

namespace NpuStack

/-- The first loop of a program: where its body starts and how often it is run, or zeros. -/
inductive FirstLoop (code : List Instruction) : UInt32 → UInt32 → Prop where
  | absent : (∀ inst ∈ code, inst.opcode ≠ .loopStart) → FirstLoop code 0 0
  | found {skipped rest : List Instruction} {inst : Instruction} {start : UInt32} :
    code = skipped ++ inst :: rest → (∀ other ∈ skipped, other.opcode ≠ .loopStart) →
    inst.opcode = .loopStart → start.toNat = skipped.length + 1 →
    FirstLoop code start (LoopOperand.unpack inst.operand).value

theorem Program.firstLoop_spec {instructions : Array Instruction}
    (small : instructions.size < UInt32.size) :
    FirstLoop instructions.toList (firstLoop instructions).1 (firstLoop instructions).2 := by
  unfold firstLoop
  cases search : instructions.findIdx? (·.opcode == .loopStart) with
  | none =>
    rw [Array.findIdx?_eq_none_iff] at search
    exact .absent fun inst member => by simpa using search inst (Array.mem_toList_iff.mp member)
  | some index =>
    obtain ⟨inside, here, earlier⟩ := Array.findIdx?_eq_some_iff_getElem.mp search
    have cut : instructions.toList =
        instructions.toList.take index ++ instructions[index] :: instructions.toList.drop (index + 1) := by
      rw [← Array.getElem_toList, List.getElem_cons_drop, List.take_append_drop]
    simp only [Array.getElem?_eq_getElem inside]
    refine .found cut (fun other member => ?_) (by simpa using here) ?_
    · obtain ⟨position, below, rfl⟩ := List.mem_take_iff_getElem.mp member
      simpa using earlier position (by omega)
    · rw [Nat.min_eq_left (by omega), UInt32.toNat_ofNat_of_lt' (by omega), List.length_take,
        Array.length_toList, Nat.min_eq_left (by omega)]

theorem firstLoop_nil {start count : UInt32} : FirstLoop [] start count ↔ start = 0 ∧ count = 0 := by
  constructor
  · intro loop
    cases loop with
    | absent => exact ⟨rfl, rfl⟩
    | found cut => simp at cut
  · rintro ⟨rfl, rfl⟩
    exact .absent nofun

structure Announcement where
  instCount : UInt32
  instSize : UInt32
  loopStart : UInt32
  loopCount : UInt32
  deriving DecidableEq

def Announcement.none : Announcement := ⟨0, 0, 0, 0⟩

def Host.announcement (host : Host Simulator) : Announcement where
  instCount := host.context.instCount
  instSize := host.link.bus.peek .instSize
  loopStart := host.context.loopStart
  loopCount := host.context.loopCount

structure Announcement.Describes (announcement : Announcement) (image : Model.Image) : Prop where
  instCount : announcement.instCount = image.header.instCount
  instSize : announcement.instSize = image.header.instCount
  loop : FirstLoop image.program.instructions.toList announcement.loopStart announcement.loopCount

structure Replaces (image : Model.Image) (host : Host Simulator) : Prop where
  program : host.announcement.Describes image
  weights : (host.link.bus.peek .weightSize).toNat =
    image.header.weightBytes.toNat + image.header.biasBytes.toNat

section Sections

variable {image : Model.Image} {body : ByteArray} {host first second last : Host Simulator}

theorem WeightsLoaded.announcement {data : ByteArray} {offset : UInt32}
    (loaded : WeightsLoaded data offset first second) : second.announcement = first.announcement := by
  unfold Host.announcement
  rw [loaded.context, loaded.registers.registers .instSize (by decide)]

theorem ProgramLoaded.announcement {instructions : Array Instruction}
    (loaded : ProgramLoaded instructions host first) :
    first.announcement = ⟨.ofNat instructions.size, .ofNat instructions.size,
      (Program.firstLoop instructions).1, (Program.firstLoop instructions).2⟩ := by
  unfold Host.announcement
  rw [loaded.context, loaded.size]

/-- Weights and bias leave alone what is announced of the program. -/
theorem ImageCopied.announcement (copied : ImageCopied image host first second last) :
    last.announcement = if image.program.instructions.isEmpty then host.announcement else
      ⟨.ofNat image.program.instructions.size, .ofNat image.program.instructions.size,
        (Program.firstLoop image.program.instructions).1,
        (Program.firstLoop image.program.instructions).2⟩ := by
  have weights := copied.weights.keeps Host.announcement (·.announcement)
  have bias := copied.bias.keeps Host.announcement (·.announcement)
  rw [bias, weights]
  cases empty : image.program.instructions.isEmpty with
  | true => rw [copied.program.skipped empty, if_pos rfl]
  | false => exact (copied.program.loaded empty).announcement

/-- The last section that is loaded announces the end of all before it. -/
theorem ImageCopied.weightSize (copied : ImageCopied image host first second last)
    (sections : image.Sections body) : last.link.bus.peek .weightSize =
      if image.header.weightBytes = 0 ∧ image.header.biasBytes = 0 then host.link.bus.peek .weightSize
      else .ofNat (image.header.weightBytes.toNat + image.header.biasBytes.toNat) := by
  have program := copied.program.keeps (·.link.bus.peek .weightSize) fun loaded =>
    loaded.registers.registers .weightSize (by decide)
  have weights : image.weights.isEmpty = (image.header.weightBytes.toNat == 0) := by
    rw [← sections.weights]
    rfl
  have bias : image.bias.isEmpty = (image.header.biasBytes.toNat == 0) := by
    rw [← sections.bias]
    rfl
  have copiedWeights := copied.weights
  have copiedBias := copied.bias
  rw [weights] at copiedWeights
  rw [bias] at copiedBias
  -- The bias comes last and ends where both sections end, so it is looked at first.
  by_cases noBias : image.header.biasBytes = 0
  · rw [copiedBias.skipped (by simp [noBias])]
    by_cases noWeights : image.header.weightBytes = 0
    · rw [copiedWeights.skipped (by simp [noWeights]), if_pos ⟨noWeights, noBias⟩]
      exact program
    · have size := (copiedWeights.loaded (by simpa [← UInt32.toNat_inj] using noWeights)).size
      rw [if_neg fun both => noWeights both.1, size, sections.weights, noBias]
      simp
  · have size := (copiedBias.loaded (by simpa [← UInt32.toNat_inj] using noBias)).size
    rw [if_neg fun both => noBias both.2, size, sections.bias]

theorem ImageCopied.describes_iff (copied : ImageCopied image host first second last)
    (sections : image.Sections body) : last.announcement.Describes image ↔
      (image.header.instCount = 0 → host.announcement = .none) := by
  rw [copied.announcement]
  by_cases absent : image.header.instCount = 0
  · -- No program is loaded, so the announcement is the one from before.
    have empty : image.program.instructions = #[] := by
      apply Array.eq_empty_of_size_eq_zero
      rw [sections.instructions, absent]
      rfl
    rw [if_pos (Array.isEmpty_iff.mpr empty)]
    constructor
    · rintro ⟨count, size, loop⟩ _
      rw [empty] at loop
      obtain ⟨start, times⟩ := firstLoop_nil.mp loop
      rcases announced : host.announcement with ⟨instCount, instSize, loopStart, loopCount⟩
      simp_all [Announcement.none]
    · intro unannounced
      rw [unannounced absent]
      exact ⟨absent.symm, absent.symm, by rw [empty]; exact firstLoop_nil.mpr ⟨rfl, rfl⟩⟩
  · have size : UInt32.ofNat image.program.instructions.size = image.header.instCount := by
      rw [sections.instructions, UInt32.ofNat_toNat]
    have small : image.program.instructions.size < UInt32.size := by
      rw [sections.instructions]
      exact UInt32.toNat_lt _
    have present : ¬image.program.instructions.isEmpty = true := by
      intro none
      rw [Array.isEmpty_iff.mp none] at size
      exact absent size.symm
    rw [if_neg present]
    exact ⟨fun _ zero => absurd zero absent, fun _ => ⟨size, size, Program.firstLoop_spec small⟩⟩

theorem ImageCopied.weightSize_iff (copied : ImageCopied image host first second last)
    (sections : image.Sections body)
    (room : image.header.weightBytes.toNat + image.header.biasBytes.toNat < UInt32.size) :
    (last.link.bus.peek .weightSize).toNat =
        image.header.weightBytes.toNat + image.header.biasBytes.toNat ↔
      (image.header.weightBytes = 0 → image.header.biasBytes = 0 →
        host.link.bus.peek .weightSize = 0) := by
  rw [copied.weightSize sections]
  by_cases absent : image.header.weightBytes = 0 ∧ image.header.biasBytes = 0
  · rw [if_pos absent, absent.1, absent.2]
    simp [← UInt32.toNat_inj]
  · rw [if_neg absent, UInt32.toNat_ofNat_of_lt' room]
    exact ⟨fun _ weights bias => absurd ⟨weights, bias⟩ absent, fun _ => rfl⟩

end Sections

theorem wlp_loadModel_copied {host : Host Simulator} (loadable : host.state.loadable = true)
    (data : ByteArray) :
    wlp (Operation.loadModel data).perform (fun reply after => ∃ image first second last,
      Model.Admitted host.config data image ∧ ImageCopied image host first second last ∧
      reply = .header image.header ∧ after = last.layered image.header.layerCount) (fun _ _ => True)
      host := by
  show wlp (Reply.header <$> Host.loadModel data) _ _ _
  rw [wlp_map]
  rcases Model.unloadable_or_admitted host.config data with ⟨cause, unloadable⟩ | ⟨image, admitted⟩
  · unfold wlp
    rw [Host.loadModel_unloadable loadable unloadable]
    trivial
  · have anything : Tolerated host.config host.link.clock host.link.bus.Stalls fun _ => True :=
      ⟨fun _ _ => trivial, fun _ _ _ _ => trivial⟩
    have copies := Host.wp_copyImage_tolerated image anything
    refine (Host.wp_loadModel loadable admitted copies).wlp.imp ?_ fun _ _ _ => trivial
    rintro _ _ ⟨rfl, last, ⟨first, second, copied⟩, rfl⟩
    exact ⟨image, first, second, last, admitted, copied, rfl, rfl⟩

/-- A model that is loaded replaces what was loaded before it exactly if nothing was announced of the
sections that it lacks. -/
theorem loadModel_replaces_iff {host after : Host Simulator} {data : ByteArray} {header : Model.Header}
    (loadable : host.state.loadable = true)
    (step : (Operation.loadModel data).Step host (.ok (.header header)) after) :
    ∃ image, Model.Image.parse data = .ok image ∧ image.header = header ∧
      (Replaces image after ↔
        (header.instCount = 0 → host.announcement = .none) ∧
        (header.weightBytes = 0 → header.biasBytes = 0 → host.link.bus.peek .weightSize = 0)) := by
  -- The layers that are counted at the end are no part of an announcement.
  obtain ⟨image, first, second, last, admitted, copied, same, rfl⟩ :=
    step.of_wlp (wlp_loadModel_copied loadable data)
  cases same
  have sections := Model.Image.sections_of_parse admitted.parsed
  have room := Nat.lt_of_le_of_lt admitted.payload (UInt32.toNat_lt _)
  have program := copied.describes_iff sections
  have weights := copied.weightSize_iff sections room
  refine ⟨image, admitted.parsed, rfl, fun replaces => ?_, fun unannounced => ?_⟩
  · exact ⟨program.mp replaces.program, weights.mp replaces.weights⟩
  · exact ⟨program.mpr unannounced.1, weights.mpr unannounced.2⟩

section Example

def loadedHost : Host Simulator := ((Operation.loadModel smallModel).perform smallHost).2

def shortModel : ByteArray :=
  Model.Header.toBytes { instCount := 1, weightBytes := 1 } ++ Program.imageOf #[.halt] ++ ⟨#[9]⟩

def bareModel : ByteArray := Model.Header.toBytes {}

/-- The loop of the first model is gone with it. -/
theorem shortModel_replaces :
    ∃ header after image, (Operation.loadModel shortModel).Step loadedHost (.ok (.header header)) after ∧
      Model.Image.parse shortModel = .ok image ∧ Replaces image after := by
  have run : loadedHost.state.loadable = true ∧
      ((Operation.loadModel shortModel).perform loadedHost).1.isOk = true ∧
      (Model.Image.parse shortModel).toOption.map
        (fun image => (image.header.instCount, image.header.weightBytes)) = some (1, 1) := by
    decide +kernel
  obtain ⟨loadable, ok, sizes⟩ := run
  obtain ⟨reply, step⟩ := Operation.exists_reply _ _ ok
  obtain ⟨image, _, _, _, _, _, rfl, _⟩ := step.of_wlp (wlp_loadModel_copied loadable shortModel)
  obtain ⟨image', parsed, same, replaces⟩ := loadModel_replaces_iff loadable step
  refine ⟨_, _, image', step, parsed, replaces.mpr ?_⟩
  -- Neither section is missing, so nothing is asked of the host before.
  rw [parsed] at sizes
  simp only [Except.toOption, Option.map_some, Option.some.injEq, Prod.mk.injEq] at sizes
  rw [← same, sizes.1, sizes.2]
  exact ⟨fun absent => absurd absent (by decide), fun absent => absurd absent (by decide)⟩

/-- After a model without instructions the program of the model before is still announced. -/
theorem bareModel_not_replaces :
    ¬∀ (host after : Host Simulator) (data : ByteArray) (header : Model.Header),
      Reachable (fun sim => Simulator.ofProfile smallProfile = .ok sim) (fun _ _ => False) host →
      host.state.loadable = true →
      (Operation.loadModel data).Step host (.ok (.header header)) after →
      ∃ image, Model.Image.parse data = .ok image ∧ Replaces image after := by
  intro replaced
  have run : ((Operation.loadModel smallModel).perform smallHost).1.isOk = true ∧
      loadedHost.state.loadable = true ∧
      ((Operation.loadModel bareModel).perform loadedHost).1.isOk = true ∧
      ((Operation.loadModel bareModel).perform loadedHost).2.context.instCount = 2 ∧
      (Model.Image.parse bareModel).toOption.map (·.header.instCount) = some 0 := by
    decide +kernel
  obtain ⟨first, loadable, second, stale, none⟩ := run
  obtain ⟨_, loaded⟩ := Operation.exists_reply _ _ first
  obtain ⟨reply, step⟩ := Operation.exists_reply _ _ second
  obtain ⟨_, _, _, _, _, _, rfl, _⟩ := step.of_wlp (wlp_loadModel_copied loadable bareModel)
  obtain ⟨image, parsed, replaces⟩ :=
    replaced loadedHost _ _ _ (.step (smallHost_reachable _) loaded) loadable step
  have count : (2 : UInt32) = image.header.instCount := stale.symm.trans replaces.program.instCount
  have zero : image.header.instCount = 0 := by simpa [parsed, Except.toOption] using none
  rw [zero] at count
  cases count

end Example

end NpuStack
