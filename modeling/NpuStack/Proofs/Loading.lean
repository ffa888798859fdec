import NpuStack.Proofs.Accounting
import NpuStack.Proofs.Host.Fault
import NpuStack.Proofs.Simulator.Engine
import NpuStack.Proofs.Simulator.Loading

/-! Loading a model as a whole: either nothing appears loaded, or every section
stands in its buffer and all other bytes are as they were. Only a transfer that
stalls when the clock is about to stop keeps the answer back. -/

set_option autoImplicit false

namespace NpuStack

open DeviceMemory (Region Apart)

/-- Outside the staging window nothing but a stretch of one window has changed. -/
structure Laid (region : Region) (offset : Nat) (bytes : List UInt8) (before after : DeviceMemory) :
    Prop where
  layout : after.layout = before.layout
  target : after.contents region = overlay (before.contents region) offset bytes
  others : ∀ other, other ≠ region → other ≠ .staging → after.contents other = before.contents other

section Buffers

variable {region : Region} {offset : Nat} {data : ByteArray} {dst : UInt32}
  {before after : DeviceMemory}

theorem Laid.nothing (region : Region) (offset : Nat) (memory : DeviceMemory) :
    Laid region offset [] memory memory :=
  ⟨rfl, (overlay_nil _ _).symm, fun _ _ _ => rfl⟩

theorem laid_writeAt (memory : DeviceMemory) (region : Region) (offset : Nat) (data : ByteArray) :
    Laid region offset data.data.toList memory (memory.writeAt region offset data) where
  layout := DeviceMemory.layout_writeAt _ _ _ _
  target := by rw [DeviceMemory.contents_writeAt, Function.update_self]
  others other distinct _ := by rw [DeviceMemory.contents_writeAt, Function.update_of_ne distinct]

theorem Delivered.laid (delivered : Delivered dst data before after) (apart : Apart before.layout)
    (staging : before.layout .staging = ⟨AddressMap.staging, AddressMap.stagingBytes⟩)
    (covers : (before.layout region).Covers dst data.size offset) (occupied : 0 < data.size)
    (buffer : region ≠ .staging) : Laid region offset data.data.toList before after := by
  cases delivered with
  | direct stored =>
    rw [DeviceMemory.store?_eq apart covers occupied] at stored
    cases stored
    exact laid_writeAt _ _ _ _
  | staged room stored copied =>
    have source : (before.layout .staging).Covers AddressMap.staging data.size 0 := by
      rw [staging]
      exact ⟨rfl, by simpa using room⟩
    rw [DeviceMemory.store?_eq apart source occupied] at stored
    cases stored
    rw [DeviceMemory.copy?_staged apart covers source occupied] at copied
    cases copied
    -- The write to the staging window is not seen from any buffer.
    have first := laid_writeAt before .staging 0 data
    have second := laid_writeAt (before.writeAt .staging 0 data) region offset data
    exact {
      layout := second.layout.trans first.layout
      target := by rw [second.target, first.others region buffer buffer]
      others := fun other distinct outside =>
        (second.others other distinct outside).trans (first.others other outside outside) }

end Buffers

/-- A host that is configured for the windows of its core. -/
structure Fitted (profile : Profile) (host : Host Simulator) : Prop where
  config : host.config = .ofProfile profile
  layout : host.link.bus.memory.layout = profile.layout

theorem Profile.covers_staging (profile : Profile) {len : Nat} (fits : len ≤ AddressMap.stagingBytes) :
    (profile.layout .staging).Covers AddressMap.staging len 0 :=
  ⟨rfl, by rw [Nat.zero_add]; exact fits⟩

theorem not_isEmpty_of_pos {data : ByteArray} (some : 0 < data.size) : ¬data.isEmpty = true := by
  simpa [ByteArray.isEmpty] using Nat.ne_of_gt some

section Sections

variable {profile : Profile} (apart : Apart profile.layout) {before after : Host Simulator}
  (fitted : Fitted profile before)
include apart fitted

theorem Fitted.store_program {instructions : Array Instruction} (occupied : 0 < instructions.size)
    (fits : instructions.size ≤ profile.instEntries.toNat) :
    before.link.bus.memory.store? before.config.instAddr (Program.imageOf instructions) =
      some (before.link.bus.memory.writeAt .instructions 0 (Program.imageOf instructions)) := by
  have covers : (before.link.bus.memory.layout .instructions).Covers before.config.instAddr
      (Program.imageOf instructions).size 0 := by
    rw [fitted.layout, fitted.config, Program.size_imageOf]
    exact ⟨rfl, Nat.le_trans (Nat.le_of_eq (Nat.zero_add _)) (Nat.mul_le_mul_right 8 fits)⟩
  rw [← fitted.layout] at apart
  exact DeviceMemory.store?_eq apart covers (by rw [Program.size_imageOf]; omega)

omit apart in
theorem Fitted.covers_weights {data : ByteArray} {offset dst : UInt32}
    (address : Checked.add32 before.config.weightAddr offset = .ok dst)
    (fits : offset.toNat + data.size ≤ profile.weightBytes.toNat) :
    (before.link.bus.memory.layout .weights).Covers dst data.size offset.toNat := by
  rw [fitted.config] at address
  rw [fitted.layout]
  exact ⟨(Checked.add32_eq_ok.mp address).symm, fits⟩

theorem ProgramLoaded.laid {instructions : Array Instruction}
    (loaded : ProgramLoaded instructions before after) (occupied : 0 < instructions.size)
    (fits : instructions.size ≤ profile.instEntries.toNat) :
    Laid .instructions 0 (Program.imageOf instructions).data.toList before.link.bus.memory
      after.link.bus.memory := by
  have stored := loaded.stored
  rw [fitted.store_program apart occupied fits] at stored
  rw [← Option.some.inj stored]
  exact laid_writeAt _ _ _ _

theorem WeightsLoaded.laid {data : ByteArray} {offset : UInt32}
    (loaded : WeightsLoaded data offset before after) (occupied : 0 < data.size)
    (fits : offset.toNat + data.size ≤ profile.weightBytes.toNat) :
    Laid .weights offset.toNat data.data.toList before.link.bus.memory after.link.bus.memory := by
  obtain ⟨dst, address, delivered⟩ := loaded.delivered
  have covers := fitted.covers_weights address fits
  have staging : before.link.bus.memory.layout .staging = _ := congrFun fitted.layout .staging
  rw [← fitted.layout] at apart
  exact delivered.laid apart staging covers occupied (by decide)

omit apart fitted in
theorem Copied.laid {empty : Bool} {load : Host Simulator → Host Simulator → Prop} {region : Region}
    {offset : Nat} {bytes : List UInt8} (copied : Copied empty load before after)
    (none : empty = true → bytes = [])
    (loaded : empty = false → load before after →
      Laid region offset bytes before.link.bus.memory after.link.bus.memory) :
    Laid region offset bytes before.link.bus.memory after.link.bus.memory := by
  cases known : empty with
  | true =>
    rw [copied.skipped known, none known]
    exact .nothing _ _ _
  | false => exact loaded known (copied.loaded known)

theorem Copied.laid_program {instructions : Array Instruction}
    (copied : Copied instructions.isEmpty (ProgramLoaded instructions) before after)
    (fits : instructions.size ≤ profile.instEntries.toNat) :
    Laid .instructions 0 (Program.imageOf instructions).data.toList before.link.bus.memory
      after.link.bus.memory := by
  refine copied.laid (fun none => ?_) fun some loaded => ?_
  · rw [Array.isEmpty_iff.mp none]
    rfl
  · exact loaded.laid apart fitted (by simpa [Nat.pos_iff_ne_zero] using some) fits

theorem Copied.laid_weights {data : ByteArray} {offset : UInt32}
    (copied : Copied data.isEmpty (WeightsLoaded data offset) before after)
    (fits : offset.toNat + data.size ≤ profile.weightBytes.toNat) :
    Laid .weights offset.toNat data.data.toList before.link.bus.memory after.link.bus.memory := by
  have size : data.isEmpty = (data.size == 0) := rfl
  rw [size] at copied
  refine copied.laid (fun none => ?_) fun some loaded => ?_
  · exact List.eq_nil_of_length_eq_zero (eq_of_beq none)
  · exact loaded.laid apart fitted (by simpa [Nat.pos_iff_ne_zero] using some) fits

theorem Fitted.programFits {instructions : Array Instruction} (loadable : before.state.loadable = true)
    (some : instructions.isEmpty = false) (fits : instructions.size ≤ profile.instEntries.toNat) :
    ProgramFits instructions before where
  loadable := loadable
  occupied := some
  entries := by
    rw [fitted.config]
    exact fits
  stored := by
    rw [fitted.store_program apart (by simpa [Nat.pos_iff_ne_zero] using some) fits]
    nofun

theorem Fitted.weightsFit {data : ByteArray} {offset : UInt32}
    (loadable : before.state.loadable = true) (some : data.isEmpty = false)
    (direct : data.size ≤ Host.directLimit)
    (fits : offset.toNat + data.size ≤ profile.weightBytes.toNat) : WeightsFit data offset before where
  loadable := loadable
  occupied := some
  room := by
    rw [fitted.config]
    exact fits
  direct := direct
  stored dst address := by
    have size : (data.size == 0) = false := some
    rw [← fitted.layout] at apart
    rw [DeviceMemory.store?_eq apart (fitted.covers_weights address fits)
      (by simpa [Nat.pos_iff_ne_zero] using size)]
    nofun

end Sections

section Loads

variable {before after : Host Simulator} {instructions : Array Instruction} {data : ByteArray}
  {offset : UInt32}

theorem ProgramLoaded.layout (loaded : ProgramLoaded instructions before after) :
    after.link.bus.memory.layout = before.link.bus.memory.layout :=
  DeviceMemory.layout_store? loaded.stored

theorem WeightsLoaded.layout (loaded : WeightsLoaded data offset before after) :
    after.link.bus.memory.layout = before.link.bus.memory.layout := by
  obtain ⟨dst, _, delivered⟩ := loaded.delivered
  cases delivered with
  | direct stored => exact DeviceMemory.layout_store? stored
  | staged _ stored copied =>
    exact (DeviceMemory.layout_copy? copied).trans (DeviceMemory.layout_store? stored)

theorem ProgramLoaded.state (loaded : ProgramLoaded instructions before after) :
    after.state = .loading :=
  congrArg (·.state) loaded.context

theorem WeightsLoaded.state (loaded : WeightsLoaded data offset before after) :
    after.state = .loading :=
  congrArg (·.state) loaded.context

theorem Copied.state {empty : Bool} {load : Host Simulator → Host Simulator → Prop}
    (copied : Copied empty load before after) (loads : load before after → after.state = .loading) :
    after.state = if empty then before.state else .loading := by
  cases known : empty with
  | true => rw [copied.skipped known, if_pos rfl]
  | false => exact loads (copied.loaded known)

theorem Copied.loadable {empty : Bool} {load : Host Simulator → Host Simulator → Prop}
    (copied : Copied empty load before after) (loads : load before after → after.state = .loading)
    (loadable : before.state.loadable = true) : after.state.loadable = true := by
  rw [copied.state loads]
  split
  · exact loadable
  · rfl

theorem Copied.fitted {profile : Profile} {empty : Bool}
    {load : Host Simulator → Host Simulator → Prop} (copied : Copied empty load before after)
    (fitted : Fitted profile before) (config : load before after → after.config = before.config)
    (layout : load before after → after.link.bus.memory.layout = before.link.bus.memory.layout) :
    Fitted profile after where
  config := (copied.keeps (·.config) config).trans fitted.config
  layout := (copied.keeps (·.link.bus.memory.layout) layout).trans fitted.layout

end Loads

section Model

variable {profile : Profile} {host first second last : Host Simulator} {data : ByteArray}
  {image : Model.Image}

structure Filled (image : Model.Image) (before after : DeviceMemory) : Prop where
  instructions : after.contents .instructions = overlay (before.contents .instructions) 0
    (image.program.words.flatMap fun word => LittleEndian.encode 8 word.toNat)
  weights : after.contents .weights =
    overlay (before.contents .weights) 0 (image.weights.data.toList ++ image.bias.data.toList)
  activations : after.contents .activations = before.contents .activations

structure Model.Image.FitsIn (image : Model.Image) (profile : Profile) : Prop where
  program : image.program.instructions.size ≤ profile.instEntries.toNat
  weights : (0 : UInt32).toNat + image.weights.size ≤ profile.weightBytes.toNat
  bias : image.header.weightBytes.toNat + image.bias.size ≤ profile.weightBytes.toNat

theorem Model.Admitted.fitsIn (admitted : Model.Admitted host.config data image)
    (fitted : Fitted profile host) : image.FitsIn profile := by
  have sections := Model.Image.sections_of_parse admitted.parsed
  have entries := UInt32.le_iff_toNat_le.mp admitted.program
  have payload := admitted.payload
  rw [fitted.config] at entries payload
  constructor
  · rw [sections.instructions]
    exact entries
  · rw [sections.weights, UInt32.toNat_zero, Nat.zero_add]
    exact Nat.le_trans (Nat.le_add_right _ _) payload
  · rw [sections.bias]
    exact payload

theorem ImageCopied.filled (copied : ImageCopied image host first second last)
    (admitted : Model.Admitted host.config data image) (apart : Apart profile.layout)
    (fitted : Fitted profile host) : Filled image host.link.bus.memory last.link.bus.memory := by
  have sections := Model.Image.sections_of_parse admitted.parsed
  have fits := admitted.fitsIn fitted
  have program := copied.program.laid_program apart fitted fits.program
  -- The configuration and the windows go on from each section to the next.
  have fittedFirst := copied.program.fitted fitted (·.config) (·.layout)
  have weights := copied.weights.laid_weights apart fittedFirst fits.weights
  have fittedSecond := copied.weights.fitted fittedFirst (·.config) (·.layout)
  have bias := copied.bias.laid_weights apart fittedSecond fits.bias
  have words : (Program.imageOf image.program.instructions).data.toList =
      image.program.words.flatMap fun word => LittleEndian.encode 8 word.toNat := by
    rw [Program.words, List.flatMap_map]
    rfl
  have start : image.header.weightBytes.toNat = 0 + image.weights.data.toList.length := by
    rw [Nat.zero_add]
    exact sections.weights.symm
  constructor
  · rw [bias.others _ (by decide) (by decide), weights.others _ (by decide) (by decide),
      program.target, words]
  · rw [bias.target, weights.target, program.others _ (by decide) (by decide), start]
    exact overlay_append _ 0 _ _
  · rw [bias.others _ (by decide) (by decide), weights.others _ (by decide) (by decide),
      program.others _ (by decide) (by decide)]

theorem ImageCopied.state (copied : ImageCopied image host first second last)
    {body : ByteArray} (sections : image.Sections body) :
    last.state = if image.header.bodyBytes = 0 then host.state else .loading := by
  have program := copied.program.state (·.state)
  have weights := copied.weights.state (·.state)
  have bias := copied.bias.state (·.state)
  have counts : image.program.instructions.isEmpty = (image.header.instCount.toNat == 0) ∧
      image.weights.isEmpty = (image.header.weightBytes.toNat == 0) ∧
      image.bias.isEmpty = (image.header.biasBytes.toNat == 0) := by
    rw [← sections.instructions, ← sections.weights, ← sections.bias]
    exact ⟨rfl, rfl, rfl⟩
  rw [bias, weights, program, counts.1, counts.2.1, counts.2.2]
  simp only [Model.Header.bodyBytes, beq_iff_eq]
  grind

/-- A model stands in the buffers, and the bytes around it are the old ones. -/
structure ModelLoaded (data : ByteArray) (image : Model.Image) (before after : Host Simulator) :
    Prop where
  sections : image.Sections (data.extract Model.headerBytes
    (Model.headerBytes + image.header.bodyBytes))
  filled : Filled image before.link.bus.memory after.link.bus.memory
  layers : after.context.totalLayers = image.header.layerCount.toUInt32
  state : after.state = if image.header.bodyBytes = 0 then before.state else .loading
  lastError : after.context.lastError = before.context.lastError

theorem ImageCopied.modelLoaded (copied : ImageCopied image host first second last)
    (admitted : Model.Admitted host.config data image) (apart : Apart profile.layout)
    (fitted : Fitted profile host) :
    ModelLoaded data image host (last.layered image.header.layerCount) where
  sections := Model.Image.sections_of_parse admitted.parsed
  filled := copied.filled admitted apart fitted
  layers := rfl
  state := copied.state (Model.Image.sections_of_parse admitted.parsed)
  lastError := by
    have program : first.context.lastError = host.context.lastError :=
      copied.program.keeps (·.context.lastError) fun loaded => by rw [loaded.context]
    have weights : second.context.lastError = first.context.lastError :=
      copied.weights.keeps (·.context.lastError) fun loaded => by rw [loaded.context]
    have bias : last.context.lastError = second.context.lastError :=
      copied.bias.keeps (·.context.lastError) fun loaded => by rw [loaded.context]
    exact (bias.trans weights).trans program

end Model

section Outcomes

variable (data : ByteArray) (host : Host Simulator) (answer : Except HostError Reply)
  (after : Host Simulator)

/-- The bytes are no model, or too large a one: the whole link is as it was, and so is the context
but for the code of the error. -/
def Rejected : Prop :=
  ∃ cause, Model.Unloadable host.config data cause ∧ answer = .error cause ∧ after = host.noted cause

def Abandoned : Prop :=
  ∃ image cause, Model.Admitted host.config data image ∧ answer = .error cause ∧ Cleared cause after

def Installed : Prop :=
  ∃ image, Model.Admitted host.config data image ∧ answer = .ok (.header image.header) ∧
    ModelLoaded data image host after

variable {data host answer after}

theorem Rejected.not_abandoned (rejected : Rejected data host answer after) :
    ¬Abandoned data host answer after := by
  obtain ⟨_, unloadable, _⟩ := rejected
  rintro ⟨_, _, admitted, _⟩
  exact admitted.not_unloadable unloadable

theorem Installed.answer_ne_error (installed : Installed data host answer after) (cause : HostError) :
    answer ≠ .error cause := by
  obtain ⟨_, _, rfl, _⟩ := installed
  nofun

end Outcomes

section Whole

variable {profile : Profile} {host : Host Simulator}

/-- The staging window ends the room of the weight buffer, so an address in it never overflows. -/
theorem tolerated_of_apart (apart : Apart profile.layout) {clock : Clock} {waits : Prop}
    {stop : Trap → Prop} (late : waits →
      UInt64.size ≤ clock.now.toNat + Host.transferTimeout.toNat → stop .endlessWait) :
    Tolerated (.ofProfile profile) clock waits stop where
  late := late
  outside offset inside cause overflow := by
    have below : AddressMap.weights.toNat + profile.weightBytes.toNat ≤ AddressMap.staging.toNat := by
      by_contra beyond
      have held : (profile.layout .weights).Contains AddressMap.staging.toNat :=
        ⟨show AddressMap.weights.toNat ≤ AddressMap.staging.toNat by decide, Nat.lt_of_not_le beyond⟩
      have staged : (profile.layout .staging).Contains AddressMap.staging.toNat :=
        ⟨Nat.le_refl _, Nat.lt_add_of_pos_right (show 0 < AddressMap.stagingBytes by decide)⟩
      cases apart _ _ _ held staged
    have last : AddressMap.staging.toNat < UInt32.size := by decide
    have fits : AddressMap.weights.toNat + offset.toNat < UInt32.size := by
      have : offset.toNat ≤ profile.weightBytes.toNat := inside
      omega
    have sum : Checked.add32 AddressMap.weights offset = .ok (AddressMap.weights + offset) := if_pos fits
    cases sum.symm.trans overflow

theorem wp_loadModel_outcome (apart : Apart profile.layout) (fitted : Fitted profile host)
    (loadable : host.state.loadable = true) (data : ByteArray) :
    wp (Operation.loadModel data).perform (fun reply after => Installed data host (.ok reply) after)
      (fun cause after => Rejected data host (.error cause) after ∨
        Abandoned data host (.error cause) after)
      (fun _ => host.link.bus.Stalls ∧
        UInt64.size ≤ host.link.clock.now.toNat + Host.transferTimeout.toNat) host := by
  show wp (Reply.header <$> Host.loadModel data) _ _ _ _
  rw [wp_map]
  rcases Model.unloadable_or_admitted host.config data with ⟨cause, unloadable⟩ | ⟨image, admitted⟩
  · unfold wp
    rw [Host.loadModel_unloadable loadable unloadable]
    exact .inl ⟨cause, unloadable, rfl, rfl⟩
  · have tolerated : Tolerated host.config host.link.clock host.link.bus.Stalls fun _ =>
        host.link.bus.Stalls ∧
          UInt64.size ≤ host.link.clock.now.toNat + Host.transferTimeout.toNat := by
      rw [fitted.config]
      exact tolerated_of_apart apart And.intro
    have copies := Host.wp_copyImage_tolerated image tolerated
    refine (Host.wp_loadModel loadable admitted copies).imp ?_ fun cause after failed =>
      .inr ⟨image, cause, admitted, rfl, failed.1⟩
    rintro _ _ ⟨rfl, last, ⟨first, second, copied⟩, rfl⟩
    exact ⟨image, admitted, rfl, copied.modelLoaded admitted apart fitted⟩

variable {data : ByteArray} {image : Model.Image}

theorem wp_loadWeights_direct {offset : UInt32} (apart : Apart profile.layout)
    (fitted : Fitted profile host) (loadable : host.state.loadable = true)
    (some : data.isEmpty = false) (direct : data.size ≤ Host.directLimit)
    (fits : offset.toNat + data.size ≤ profile.weightBytes.toNat) :
    wp (Host.loadWeights data offset) (fun _ after => WeightsLoaded data offset host after)
      (fun _ _ => False) (fun _ => False) host := by
  have tolerated : Tolerated host.config host.link.clock
      (Host.directLimit < data.size ∧ host.link.bus.Stalls) fun _ => False := by
    rw [fitted.config]
    exact tolerated_of_apart apart fun waits => absurd waits.1 (Nat.not_lt.mpr direct)
  exact Host.wp_loadWeights _ _ tolerated fun unfit =>
    absurd (fitted.weightsFit apart loadable some direct fits) unfit

/-- Without a transfer the device has no part in the copy, so nothing makes it fail. -/
theorem wp_copyImage_direct (apart : Apart profile.layout) (fitted : Fitted profile host)
    (loadable : host.state.loadable = true) (fits : image.FitsIn profile)
    (weights : image.weights.size ≤ Host.directLimit) (bias : image.bias.size ≤ Host.directLimit) :
    wp (Host.copyImage image)
      (fun _ after => ∃ first second, ImageCopied image host first second after)
      (fun _ _ => False) (fun _ => False) host := by
  refine Host.wp_copyImage (fun some => ?_) (fun first program some => ?_)
    fun first second program copied some => ?_
  · exact Host.wp_loadInstructions _ fun unfit =>
      absurd (fitted.programFits apart loadable some fits.program) unfit
  all_goals
    have fittedFirst := program.fitted fitted (·.config) (·.layout)
    have loadableFirst := program.loadable (·.state) loadable
  · exact wp_loadWeights_direct apart fittedFirst loadableFirst some weights fits.weights
  · exact wp_loadWeights_direct apart (copied.fitted fittedFirst (·.config) (·.layout))
      (copied.loadable (·.state) loadableFirst) some bias fits.bias

theorem exists_step_direct (apart : Apart profile.layout) (fitted : Fitted profile host)
    (loadable : host.state.loadable = true) (admitted : Model.Admitted host.config data image)
    (weights : image.weights.size ≤ Host.directLimit) (bias : image.bias.size ≤ Host.directLimit) :
    ∃ after, (Operation.loadModel data).Step host (.ok (.header image.header)) after := by
  have copies := wp_copyImage_direct apart fitted loadable (admitted.fitsIn fitted) weights bias
  have loads : wp (Operation.loadModel data).perform (fun reply _ => reply = .header image.header)
      (fun _ _ => False) (fun _ => False) host := by
    show wp (Reply.header <$> Host.loadModel data) _ _ _ _
    rw [wp_map]
    exact (Host.wp_loadModel loadable admitted copies).imp (fun _ _ done => congrArg _ done.1)
      fun _ _ failed => failed.2.elim fun _ never => never
  obtain ⟨answer, after, step⟩ := Operation.Step.exists_of_wp loads fun _ never => never
  have ended := step.of_wlp loads.wlp
  cases answer with
  | error cause => exact ended.elim
  | ok reply => exact ⟨after, ended ▸ step⟩

def smallModel : ByteArray :=
  Model.Header.toBytes { layerCount := 1, instCount := 2, weightBytes := 4, biasBytes := 2 }
    ++ Program.imageOf #[.loopStart 3, .halt] ++ ⟨#[1, 2, 3, 4, 5, 6]⟩

theorem smallHost_reachable (altered : Simulator → Simulator → Prop) :
    Reachable (fun sim => Simulator.ofProfile smallProfile = .ok sim) altered smallHost := by
  have initialised : (Operation.init (.ofProfile smallProfile)).Step (.ofBus smallCore)
      (.ok .finished) smallHost := .of_value rfl
  exact .step (.start rfl) initialised

theorem smallProfile_apart : Apart smallProfile.layout := by
  apply DeviceMemory.apart_of_ordered
  intro first second
  cases first <;> cases second <;> decide

section Endless

variable (apart : Apart profile.layout) (fitted : Fitted profile host)
  (loadable : host.state.loadable = true) (stranded : host.Stranded)
include apart fitted loadable stranded

theorem endless_loadWeights {offset : UInt32} (large : Host.directLimit < data.size)
    (staged : data.size ≤ AddressMap.stagingBytes)
    (fits : offset.toNat + data.size ≤ profile.weightBytes.toNat) :
    Endless (Host.loadWeights data offset) host := by
  have occupied : 0 < data.size := Nat.zero_lt_of_lt large
  have room : offset.toNat + data.size ≤ host.config.weightBytes.toNat := by
    rw [fitted.config]
    exact fits
  have reached : Tolerated host.config host.link.clock False fun _ => False := by
    rw [fitted.config]
    exact tolerated_of_apart apart nofun
  have source := profile.covers_staging staged
  rw [← fitted.layout] at apart source
  have stored := DeviceMemory.store?_eq apart source occupied
  let memory := host.link.bus.memory.writeAt .staging 0 data
  have still : Host.Stranded { host with link := ⟨{ host.link.bus with memory }, host.link.clock⟩ } :=
    ⟨stranded.free, stranded.hangs, stranded.late⟩
  have length := ofNat_staged_ne_zero staged occupied
  refine Host.wp_ensureLoadable (fun refused => absurd loadable refused) (wp_guard (fun empty => ?_)
    fun _ => ?_)
  · exact absurd empty (not_isEmpty_of_pos occupied)
  rw [wp_bind, Host.wp_getConfig]
  refine wp_guard (fun long => absurd long (Nat.not_lt.mpr room)) fun _ => ?_
  rw [wp_bind]
  refine Host.wp_checked (fun dst _ => ?_) fun cause outside =>
    (reached.outside offset (by omega) cause outside).elim
  rw [if_pos large, wp_bind, Host.wp_onLink]
  refine ((Link.yields_stage staged stored).imp ?_).wp
  rintro _ _ ⟨rfl, rfl⟩
  exact (still.endless_transfer (Descriptor.validate_linear _ _ _ length)
    (Descriptor.is2d_linear _ _ _ _)).bind _

/-- A model without a program, whose weights are copied at once. -/
theorem endless_loadModel (admitted : Model.Admitted host.config data image)
    (bare : image.program.instructions.isEmpty = true) (large : Host.directLimit < image.weights.size)
    (staged : image.weights.size ≤ AddressMap.stagingBytes) :
    Endless (Operation.loadModel data).perform host := by
  have weights := endless_loadWeights apart fitted loadable stranded large staged
    (admitted.fitsIn fitted).weights
  have some : image.weights.isEmpty = false :=
    eq_false_of_ne_true (not_isEmpty_of_pos (Nat.zero_lt_of_lt large))
  have copy : Endless (Host.copyImage image) host := by
    unfold Host.copyImage
    rw [bare, some]
    exact weights.bind _
  show Endless (Reply.header <$> Host.loadModel data) host
  rw [Endless, wp_map]
  exact (Host.wp_loadModel loadable admitted copy).imp (fun _ _ done => done.2.elim fun _ never => never.1)
    fun _ _ failed => failed.2.elim fun _ never => never

end Endless

/-- A host on the reference core that waits half of its time between two looks, and whose next program
is going to hang. -/
def hangingHost : Host Simulator :=
  let slow : Config := { Config.reference with pollInterval := 0x8000000000000000 }
  let idle := ((Operation.init slow).perform (.ofBus referenceCore)).2
  let host := ((Operation.loadInstructions #[.halt]).perform idle).2
  { host with link := ⟨{ host.link.bus with hang := true }, host.link.clock⟩ }

/-- A program that hangs has been waited for until the clock stood still, and was stopped then. -/
def outwaitedHost : Host Simulator :=
  let started := (Operation.start.perform hangingHost).2
  (Operation.stop.perform ((Operation.wait 0xFFFFFFFFFFFFFFFF).perform started).2).2

theorem outwaitedHost_reachable {altered : Simulator → Simulator → Prop}
    (scripts : ∀ sim hang, altered sim { sim with hang }) :
    Reachable (fun sim => Simulator.ofProfile .reference = .ok sim) altered outwaitedHost := by
  let slow : Config := { Config.reference with pollInterval := 0x8000000000000000 }
  let idle := ((Operation.init slow).perform (.ofBus referenceCore)).2
  let started := (Operation.start.perform hangingHost).2
  let waited := ((Operation.wait 0xFFFFFFFFFFFFFFFF).perform started).2
  have back : Operation.comesBack ((Operation.init slow).perform (.ofBus referenceCore)).1 = true ∧
      Operation.comesBack ((Operation.loadInstructions #[.halt]).perform idle).1 = true ∧
      Operation.comesBack (Operation.start.perform hangingHost).1 = true ∧
      Operation.comesBack ((Operation.wait 0xFFFFFFFFFFFFFFFF).perform started).1 = true ∧
      Operation.comesBack (Operation.stop.perform waited).1 = true := by
    decide +kernel
  obtain ⟨_, initialised⟩ := (Operation.init slow).exists_step (.ofBus referenceCore) back.1
  obtain ⟨_, loaded⟩ := (Operation.loadInstructions #[.halt]).exists_step idle back.2.1
  have hanging : Reachable (fun sim => Simulator.ofProfile .reference = .ok sim) altered hangingHost :=
    .alter (.step (.step (.start rfl) initialised) loaded) (scripts _ true)
  obtain ⟨_, launched⟩ := Operation.start.exists_step hangingHost back.2.2.1
  obtain ⟨_, outwaited⟩ := (Operation.wait 0xFFFFFFFFFFFFFFFF).exists_step started back.2.2.2.1
  obtain ⟨_, stopped⟩ := Operation.stop.exists_step waited back.2.2.2.2
  exact .step (.step (.step hanging launched) outwaited) stopped

def largeImage : Model.Image where
  header := { weightBytes := 1025 }
  program := .exact #[]
  weights := ⟨Array.replicate 1025 1⟩
  bias := .empty

theorem largeImage_accepted : largeImage.Accepted (⟨Array.replicate 1025 1⟩ : ByteArray) where
  instructions := rfl
  weights := Array.size_replicate
  bias := rfl
  whole := by
    show ByteArray.empty ++ (⟨Array.replicate 1025 1⟩ ++ ByteArray.empty) = _
    simp
  version := by decide
  sum := .inl rfl
  assigned := nofun
  bound := rfl

/-- The clock has stood still ever since, and the engine hangs in its next transfer. -/
def strandedHost : Host Simulator :=
  let bus := { outwaitedHost.link.bus with hang := false, dmaHang := true }
  ((Operation.init .reference).perform { outwaitedHost with link := ⟨bus, outwaitedHost.link.clock⟩ }).2

theorem exists_stranded :
    ∃ host : Host Simulator,
      Reachable (fun sim => Simulator.ofProfile .reference = .ok sim)
        (fun before after => after.memory.layout = before.memory.layout) host ∧
      host.config = .reference ∧ host.state = .idle ∧ host.Stranded := by
  let bus := { outwaitedHost.link.bus with hang := false, dmaHang := true }
  let hung : Host Simulator := { outwaitedHost with link := ⟨bus, outwaitedHost.link.clock⟩ }
  have known : Operation.comesBack ((Operation.init .reference).perform hung).1 = true ∧
      strandedHost.config = .reference ∧ strandedHost.state = .idle ∧
      strandedHost.link.clock.now = 0xFFFFFFFFFFFFFFFF ∧
      strandedHost.link.bus.peek .dmaStatus &&& DmaStatus.busy = 0 ∧
      strandedHost.link.bus.dmaHang = true := by
    decide +kernel
  obtain ⟨back, config, idle, clock, free, hangs⟩ := known
  obtain ⟨_, initialised⟩ := (Operation.init .reference).exists_step hung back
  have scripts (sim : Simulator) (hang dmaHang : Bool) :
      ({ sim with hang, dmaHang } : Simulator).memory.layout = sim.memory.layout := rfl
  have waiting : Reachable (fun sim => Simulator.ofProfile .reference = .ok sim)
      (fun before after => after.memory.layout = before.memory.layout) hung :=
    .alter (outwaitedHost_reachable fun _ _ => rfl) (scripts _ false true)
  exact ⟨strandedHost, .step waiting initialised, config, idle, free, hangs, by rw [clock]; decide⟩

end Whole

end NpuStack
