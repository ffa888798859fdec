import NpuStack.Proofs.Host.Refusal
import NpuStack.Proofs.Model.Grammar
import NpuStack.Proofs.Simulator.Memory
import NpuStack.Proofs.Simulator.Transfer

/-! Loads into the simulated core: what a load that succeeds has done to the
registers, the buffers and the context, section by section and for a whole
model. Faults, hangs and a busy engine make a load fail and never show in one
that succeeds. -/

set_option autoImplicit false

namespace NpuStack

structure ProgramLoaded (instructions : Array Instruction) (before after : Host Simulator) : Prop where
  config : after.config = before.config
  clock : after.link.clock = before.link.clock
  context : after.context = { before.context with
    instCount := .ofNat instructions.size
    instPtr := 0
    loopStart := (Program.firstLoop instructions).1
    loopCount := (Program.firstLoop instructions).2
    state := .loading }
  size : after.link.bus.peek .instSize = .ofNat instructions.size
  registers : Simulator.Frame [.instSize, .instPtr] before.link.bus after.link.bus
  stalls : after.link.bus.Stalls → before.link.bus.Stalls
  stored : before.link.bus.memory.store? before.config.instAddr (Program.imageOf instructions) =
    some after.link.bus.memory

/-- Bytes reach their address directly or by way of the staging window. -/
inductive Delivered (dst : UInt32) (data : ByteArray) (before after : DeviceMemory) : Prop where
  | direct : before.store? dst data = some after → Delivered dst data before after
  | staged {between : DeviceMemory} : data.size ≤ AddressMap.stagingBytes →
    before.store? AddressMap.staging data = some between →
    between.copy? AddressMap.staging dst data.size = some after → Delivered dst data before after

/-- Weights stand in their buffer at an offset, and the buffer is announced up to their end. -/
structure WeightsLoaded (data : ByteArray) (offset : UInt32) (before after : Host Simulator) : Prop where
  config : after.config = before.config
  clock : after.link.clock = before.link.clock
  context : after.context = { before.context with state := .loading }
  size : after.link.bus.peek .weightSize = .ofNat (offset.toNat + data.size)
  registers : Simulator.Frame (.weightSize :: Simulator.requestRegisters) before.link.bus after.link.bus
  stalls : after.link.bus.Stalls → before.link.bus.Stalls
  delivered : ∃ dst, Checked.add32 before.config.weightAddr offset = .ok dst ∧
    Delivered dst data before.link.bus.memory after.link.bus.memory

/-- The traps that loads may run into: a wait at the end of time if there is a transfer to wait for,
and a weight buffer that goes past the last address. -/
structure Tolerated (config : Config) (clock : Clock) (waits : Prop) (stop : Trap → Prop) : Prop where
  late : waits → UInt64.size ≤ clock.now.toNat + Host.transferTimeout.toNat → stop .endlessWait
  outside : ∀ offset : UInt32, offset.toNat ≤ config.weightBytes.toNat →
    ∀ cause, Checked.add32 config.weightAddr offset = .error cause → stop cause

structure ProgramFits (instructions : Array Instruction) (host : Host Simulator) : Prop where
  loadable : host.state.loadable = true
  occupied : instructions.isEmpty = false
  entries : instructions.size ≤ host.config.instEntries.toNat
  stored : host.link.bus.memory.store? host.config.instAddr (Program.imageOf instructions) ≠ none

/-- Weights that nothing keeps from being loaded: they need no transfer. -/
structure WeightsFit (data : ByteArray) (offset : UInt32) (host : Host Simulator) : Prop where
  loadable : host.state.loadable = true
  occupied : data.isEmpty = false
  room : offset.toNat + data.size ≤ host.config.weightBytes.toNat
  direct : data.size ≤ Host.directLimit
  stored : ∀ dst, Checked.add32 host.config.weightAddr offset = .ok dst →
    host.link.bus.memory.store? dst data ≠ none

namespace Host

variable {report : HostError → Host Simulator → Prop} {stop : Trap → Prop} {host : Host Simulator}

theorem wp_ensureLoadable {α : Type} {operation : String} {next : Unit → HostM Simulator α}
    {value : α → Host Simulator → Prop}
    (refused : host.state.loadable ≠ true → ∀ cause after, report cause after)
    (accepted : wp (next ()) value report stop host) :
    wp (ensureLoadable operation >>= next) value report stop host := by
  unfold wp at accepted ⊢
  rw [ensureLoadable_bind]
  cases refusal : host.state.refusal? operation with
  | none => exact accepted
  | some cause =>
    refine refused (fun loadable => ?_) _ _
    cases (RunState.refusal?_eq_none.mpr loadable).symm.trans refusal

theorem wp_loadInstructions (instructions : Array Instruction)
    (reports : ¬ProgramFits instructions host → ∀ cause after, report cause after) :
    wp (loadInstructions instructions) (fun _ after => ProgramLoaded instructions host after)
      report stop host := by
  refine wp_ensureLoadable (fun refused => reports fun fit => refused fit.loadable)
    (wp_guard (fun empty => reports (fun fit => ?_) _ _) fun _ => ?_)
  · exact Bool.false_ne_true (fit.occupied.symm.trans empty)
  rw [wp_bind, wp_getConfig]
  refine wp_guard (fun long => reports (fun fit => Nat.not_lt.mpr fit.entries long) _ _) fun _ => ?_
  rw [wp_bind, wp_onLink]
  refine (Link.wp_store _ _ fun outside cause _ =>
    reports (fun fit => fit.stored outside) cause _).imp ?_ fun _ _ known => known
  rintro _ _ ⟨memory, stored, rfl⟩
  let sized := Simulator.write { host.link.bus with memory } .instSize (.ofNat instructions.size)
  have filled := (Simulator.frame_store stored).mono (List.nil_subset [.instSize, .instPtr])
  have announced : Simulator.Written [.instSize, .instPtr] { host.link.bus with memory }
      (sized.write .instPtr 0) :=
    ((Simulator.Written.refl _ _).write .instSize rfl (by decide) _).write .instPtr rfl (by decide) 0
  have size : (sized.write .instPtr 0).peek .instSize = .ofNat instructions.size :=
    (Simulator.peek_poke_of_ne _ _ (by decide)).trans (Simulator.peek_poke_same _ _ _)
  rcases loop : Program.firstLoop instructions with ⟨loopStart, loopCount⟩
  exact {
    config := rfl
    clock := rfl
    context := by rw [loop]
    size
    registers := filled.trans announced.frame
    stalls := announced.stalls (by decide)
    stored := stored }

/-- The end of every load of weights. -/
theorem wp_announceWeights {data : ByteArray} {offset : UInt32} {bus : Simulator} {engine : Engine}
    (registers : Simulator.Frame Simulator.requestRegisters host.link.bus bus)
    (stalls : bus.Stalls → host.link.bus.Stalls)
    (delivered : ∃ dst, Checked.add32 host.config.weightAddr offset = .ok dst ∧
      Delivered dst data host.link.bus.memory bus.memory) :
    wp (do
      write .weightSize (.ofNat (offset.toNat + data.size))
      setState .loading) (fun _ after => WeightsLoaded data offset host after) report stop
      { host with link := ⟨bus, host.link.clock⟩, engine } := by
  let announced := bus.write .weightSize (.ofNat (offset.toNat + data.size))
  have written : Simulator.Written [.weightSize] bus announced :=
    (Simulator.Written.refl _ _).write .weightSize rfl (by decide) _
  exact {
    config := rfl
    clock := rfl
    context := rfl
    size := Simulator.peek_poke_same _ _ _
    registers := (registers.mono (by decide)).trans (written.frame.mono (by decide))
    stalls := fun stalled => stalls (written.stalls (by decide) stalled)
    delivered := delivered }

theorem wp_loadWeights (data : ByteArray) (offset : UInt32)
    (tolerated : Tolerated host.config host.link.clock
      (directLimit < data.size ∧ host.link.bus.Stalls) stop)
    (reports : ¬WeightsFit data offset host → ∀ cause after, report cause after) :
    wp (loadWeights data offset) (fun _ after => WeightsLoaded data offset host after)
      report stop host := by
  refine wp_ensureLoadable (fun refused => reports fun fit => refused fit.loadable)
    (wp_guard (fun empty => reports (fun fit => ?_) _ _) fun _ => ?_)
  · exact Bool.false_ne_true (fit.occupied.symm.trans empty)
  rw [wp_bind, wp_getConfig]
  refine wp_guard (fun long => reports (fun fit => Nat.not_lt.mpr fit.room long) _ _) fun fits => ?_
  rw [wp_bind]
  refine wp_checked (fun dst address => ?_) (tolerated.outside offset (by omega))
  split
  case isTrue large =>
    -- The staging window is filled first; the transfer then starts from that memory.
    have failed (cause : HostError) (after : Host Simulator) : report cause after :=
      reports (fun fit => Nat.not_lt.mpr fit.direct large) cause after
    rw [wp_bind, wp_onLink]
    refine (Link.wp_stage data).imp ?_ fun cause _ _ => failed cause _
    rintro _ _ ⟨rfl, room, memory, stored, rfl⟩
    have len := toNat_ofNat_staged room
    have filled := (Simulator.frame_store stored).mono (List.nil_subset Simulator.requestRegisters)
    let staged : Host Simulator := { host with link := ⟨{ host.link.bus with memory }, host.link.clock⟩ }
    rw [wp_bind]
    have late (stalled : staged.link.bus.Stalls) := tolerated.late ⟨large, stalled⟩
    refine (wp_transfer staged (Descriptor.is2d_linear _ _ _ _) late).imp ?_
      fun cause after _ => failed cause after
    rintro _ _ ⟨bus, engine, rfl, requested, copied, moving⟩
    refine wp_announceWeights (filled.trans requested) (fun stalled => absurd stalled moving) ⟨dst, address, .staged room stored ?_⟩
    rw [← len]
    exact copied
  case isFalse =>
    rw [wp_bind, wp_onLink]
    refine (Link.wp_store _ _ fun outside cause _ =>
      reports (fun fit => fit.stored dst address outside) cause _).imp ?_ fun _ _ known => known
    rintro _ _ ⟨memory, stored, rfl⟩
    have filled := (Simulator.frame_store stored).mono (List.nil_subset Simulator.requestRegisters)
    exact wp_announceWeights filled (fun stalled => stalled) ⟨dst, address, .direct stored⟩

end Host

/-- A section of a model: skipped if it is empty, else loaded. -/
structure Copied (empty : Bool) (load : Host Simulator → Host Simulator → Prop)
    (before after : Host Simulator) : Prop where
  skipped : empty = true → after = before
  loaded : empty = false → load before after

structure ImageCopied (image : Model.Image) (before first second after : Host Simulator) : Prop where
  program : Copied image.program.instructions.isEmpty (ProgramLoaded image.program.instructions)
    before first
  weights : Copied image.weights.isEmpty (WeightsLoaded image.weights 0) first second
  bias : Copied image.bias.isEmpty (WeightsLoaded image.bias image.header.weightBytes) second after

/-- What a load keeps is kept by a section. -/
theorem Copied.keeps {γ : Type} (f : Host Simulator → γ) {empty : Bool}
    {load : Host Simulator → Host Simulator → Prop} {before after : Host Simulator}
    (copied : Copied empty load before after) (kept : load before after → f after = f before) :
    f after = f before := by
  cases known : empty with
  | true => rw [copied.skipped known]
  | false => exact kept (copied.loaded known)

theorem Copied.stalls {empty : Bool} {load : Host Simulator → Host Simulator → Prop}
    {before after : Host Simulator} (copied : Copied empty load before after)
    (kept : load before after → after.link.bus.Stalls → before.link.bus.Stalls)
    (stalled : after.link.bus.Stalls) : before.link.bus.Stalls := by
  cases known : empty with
  | true => rwa [← copied.skipped known]
  | false => exact kept (copied.loaded known) stalled

namespace Host

variable {report : HostError → Host Simulator → Prop} {stop : Trap → Prop} {host : Host Simulator}

/-- A section and what follows it. -/
theorem wp_section {α : Type} {empty : Bool} {load : Host Simulator → Host Simulator → Prop}
    {action : HostM Simulator Unit} {next : Unit → HostM Simulator α}
    {value : α → Host Simulator → Prop}
    (loads : empty = false → wp action (fun _ after => load host after) report stop host)
    (rest : ∀ between, Copied empty load host between → wp (next ()) value report stop between) :
    wp (if (!empty) = true then action >>= next else next ()) value report stop host := by
  cases empty with
  | true => exact rest host ⟨fun _ => rfl, nofun⟩
  | false =>
    refine wp_guard (fun _ => (loads rfl).imp (fun _ between loaded => ?_) fun _ _ known => known) nofun
    exact rest between ⟨nofun, fun _ => loaded⟩

theorem wp_copyImage {image : Model.Image}
    (program : image.program.instructions.isEmpty = false →
      wp (loadInstructions image.program.instructions)
        (fun _ after => ProgramLoaded image.program.instructions host after) report stop host)
    (weights : ∀ first, Copied image.program.instructions.isEmpty
      (ProgramLoaded image.program.instructions) host first → image.weights.isEmpty = false →
      wp (loadWeights image.weights 0) (fun _ after => WeightsLoaded image.weights 0 first after)
        report stop first)
    (bias : ∀ first second, Copied image.program.instructions.isEmpty
      (ProgramLoaded image.program.instructions) host first →
      Copied image.weights.isEmpty (WeightsLoaded image.weights 0) first second →
      image.bias.isEmpty = false →
      wp (loadWeights image.bias image.header.weightBytes)
        (fun _ after => WeightsLoaded image.bias image.header.weightBytes second after)
        report stop second) :
    wp (copyImage image) (fun _ after => ∃ first second, ImageCopied image host first second after)
      report stop host := by
  unfold copyImage
  refine wp_section program fun first programCopied => ?_
  refine wp_section (weights first programCopied) fun second weightsCopied => ?_
  have last : wp (if (!image.bias.isEmpty) = true then
      loadWeights image.bias image.header.weightBytes >>= pure else pure ())
      (fun _ after => ∃ first second, ImageCopied image host first second after) report stop second :=
    wp_section (bias first second programCopied weightsCopied) fun _ biasCopied =>
      ⟨first, second, programCopied, weightsCopied, biasCopied⟩
  rwa [bind_pure] at last

/-- Whatever a load reports, the copy ends there. -/
theorem wp_copyImage_tolerated (image : Model.Image)
    (tolerated : Tolerated host.config host.link.clock host.link.bus.Stalls stop) :
    wp (copyImage image) (fun _ after => ∃ first second, ImageCopied image host first second after)
      (fun _ _ => True) stop host := by
  -- Whatever a section does, the next one starts with the same configuration and clock, and with an
  -- engine that stalls only if it did before.
  refine wp_copyImage (fun _ => wp_loadInstructions _ fun _ _ _ => trivial) (fun first program _ => ?_)
    fun first second program weights _ => ?_
  all_goals
    rw [← program.keeps (·.config) (·.config), ← program.keeps (·.link.clock) (·.clock)] at tolerated
    have before := program.stalls (·.stalls)
  · exact wp_loadWeights _ _ ⟨fun waits => tolerated.late (before waits.2), tolerated.outside⟩
      fun _ _ _ => trivial
  · rw [← weights.keeps (·.config) (·.config), ← weights.keeps (·.link.clock) (·.clock)] at tolerated
    have between := weights.stalls (·.stalls)
    exact wp_loadWeights _ _ ⟨fun waits => tolerated.late (before (between waits.2)), tolerated.outside⟩
      fun _ _ _ => trivial

end Host

structure Model.Admitted (config : Config) (data : ByteArray) (image : Model.Image) : Prop where
  parsed : Model.Image.parse data = .ok image
  program : image.header.instCount ≤ config.instEntries
  payload : image.header.weightBytes.toNat + image.header.biasBytes.toNat ≤ config.weightBytes.toNat

theorem Model.unloadable_or_admitted (config : Config) (data : ByteArray) :
    (∃ cause, Model.Unloadable config data cause) ∨ ∃ image, Model.Admitted config data image := by
  rcases parsed : Model.Image.parse data with (cause | fault) | image
  · exact absurd parsed (Model.Image.parse_ne_trap data cause)
  · exact .inl ⟨_, .malformed parsed⟩
  · by_cases program : config.instEntries < image.header.instCount
    · exact .inl ⟨_, .program parsed program⟩
    · by_cases payload : config.weightBytes.toNat <
          image.header.weightBytes.toNat + image.header.biasBytes.toNat
      · exact .inl ⟨_, .payload parsed (UInt32.not_lt.mp program) payload⟩
      · exact .inr ⟨image, parsed, UInt32.not_lt.mp program, Nat.le_of_not_lt payload⟩

theorem Model.Admitted.not_unloadable {config : Config} {data : ByteArray} {image : Model.Image}
    {cause : HostError} (admitted : Model.Admitted config data image) :
    ¬Model.Unloadable config data cause := by
  intro unloadable
  cases unloadable with
  | malformed parsed => cases admitted.parsed.symm.trans parsed
  | program parsed long =>
    cases admitted.parsed.symm.trans parsed
    exact absurd long (UInt32.not_lt.mpr admitted.program)
  | payload parsed _ long =>
    cases admitted.parsed.symm.trans parsed
    exact absurd long (Nat.not_lt.mpr admitted.payload)

structure Cleared (cause : HostError) (host : Host Simulator) : Prop where
  instSize : host.link.bus.peek .instSize = 0
  weightSize : host.link.bus.peek .weightSize = 0
  state : host.state = .idle
  lastError : host.context.lastError = some cause.statusCode
  instCount : host.context.instCount = 0
  instPtr : host.context.instPtr = 0
  loopStart : host.context.loopStart = 0
  loopCount : host.context.loopCount = 0
  totalLayers : host.context.totalLayers = 0

namespace Host

variable {report : HostError → Host Simulator → Prop} {stop : Trap → Prop} {host : Host Simulator}
  {data : ByteArray} {image : Model.Image}

def layered (host : Host Simulator) (layers : UInt16) : Host Simulator :=
  { host with context := { host.context with totalLayers := layers.toUInt32 } }

theorem wp_discardProgram (cause : HostError) (host : Host Simulator) :
    wp (discardProgram >>= fun _ => fail cause : HostM Simulator Model.Header) (fun _ _ => False)
      (fun reported after => reported = cause ∧ Cleared cause after) stop host := by
  have instSize : ((host.link.bus.write .instSize 0).write .weightSize 0).peek .instSize = 0 :=
    (Simulator.peek_poke_of_ne _ _ (by decide)).trans (Simulator.peek_poke_same _ _ _)
  have weightSize : ((host.link.bus.write .instSize 0).write .weightSize 0).peek .weightSize = 0 :=
    Simulator.peek_poke_same _ _ _
  exact ⟨rfl, instSize, weightSize, rfl, rfl, rfl, rfl, rfl, rfl, rfl⟩

theorem wp_loadModel {copied : Host Simulator → Prop} (loadable : host.state.loadable = true)
    (admitted : Model.Admitted host.config data image)
    (copies : wp (copyImage image) (fun _ => copied) report stop host) :
    wp (loadModel data) (fun header after => header = image.header ∧
      ∃ last, copied last ∧ after = last.layered image.header.layerCount)
      (fun cause after => Cleared cause after ∧ ∃ left, report cause left) stop host := by
  have room : ¬host.config.weightBytes.toUInt64 <
      image.header.weightBytes.toUInt64 + image.header.biasBytes.toUInt64 := by
    rw [UInt64.lt_iff_toNat_lt, toNat_payload, UInt32.toNat_toUInt64]
    exact Nat.not_lt.mpr admitted.payload
  refine wp_ensureLoadable (fun refused => absurd loadable refused) ?_
  have read : readModel data host = (.ok image, host) := by
    unfold readModel
    rw [admitted.parsed]
    rfl
  rw [wp_bind]
  refine (yields_of_eq read ?_).wp
  rw [wp_bind, wp_getConfig]
  refine wp_guard (fun long => absurd long (UInt32.not_lt.mpr admitted.program)) fun _ =>
    wp_guard (fun long => absurd long room) fun _ => ?_
  rw [wp_bind, wp_attempt]
  refine copies.imp (fun _ last copied => ?_) fun cause left reported => ?_
  · exact ⟨rfl, last, copied, rfl⟩
  · -- Wherever the copy stopped, all that it announced is taken back.
    refine (wp_discardProgram cause left).imp (fun _ _ never => never.elim) ?_
    rintro _ _ ⟨rfl, cleared⟩
    exact ⟨cleared, left, reported⟩

end Host

end NpuStack
