import NpuStack.Proofs.Agreement
import NpuStack.Proofs.Launch
import NpuStack.Proofs.Simulator.Engine

/-! Recovery by a reset. Whatever went wrong, a reset makes a core usable again
once its faults and hangs are over, with one exception: the transfer engine is not
part of what is reset, so a transfer that hung keeps its slot for good. -/

set_option autoImplicit false

namespace NpuStack

structure Work where
  program : Array Instruction
  weights : ByteArray
  offset : UInt32
  input : ByteArray
  timeout : UInt64

namespace Work

/-- No part is empty, and each fits its buffer and the staging window. -/
structure Fits (profile : Profile) (work : Work) : Prop where
  program : 0 < work.program.size ∧ work.program.size ≤ profile.instEntries.toNat
  weights : 0 < work.weights.size ∧
    work.offset.toNat + work.weights.size ≤ profile.weightBytes.toNat
  input : 0 < work.input.size ∧ work.input.size ≤ profile.actBytes.toNat / 2
  staged : work.weights.size ≤ AddressMap.stagingBytes ∧ work.input.size ≤ AddressMap.stagingBytes

def operations (work : Work) : List Operation :=
  [.loadInstructions work.program, .loadWeights work.weights work.offset, .loadInput work.input, .start,
   .wait work.timeout]

end Work

inductive Succeed {β : Type} [Bus β] : Host β → List Operation → Host β → Prop where
  | nil {host : Host β} : Succeed host [] host
  | cons {before middle after : Host β} {op : Operation} {reply : Reply} {rest : List Operation} :
    op.Step before (.ok reply) middle → Succeed middle rest after → Succeed before (op :: rest) after

namespace Simulator

variable {profile : Profile} {engine : UInt32 → Prop} {sim : Simulator} {d : Descriptor}

/-- A core that can be given work: in order, with its windows in place and nothing scripted. The
status of its engine is looked at apart. -/
structure Serviceable (profile : Profile) (engine : UInt32 → Prop) (sim : Simulator) : Prop where
  order : InOrder profile 0 sim
  layout : sim.memory.layout = profile.layout
  script : sim.script = {}
  engine : engine (sim.peek .dmaStatus)

def Free (word : UInt32) : Prop := word &&& DmaStatus.busy = 0

theorem stable_serviceable (profile : Profile) (engine : UInt32 → Prop) :
    Link.Stable (fun reg => reg ≠ .ctrl ∧ .dmaStatus ∉ changedBy reg)
      fun link : Link Simulator => Serviceable profile engine link.bus := by
  have order := stable_inOrder profile 0
  have layout := stable_layout profile.layout
  have status : Link.Stable (.dmaStatus ∉ changedBy ·)
      fun link : Link Simulator => engine (link.bus.peek .dmaStatus) :=
    stable_word .dmaStatus engine fun sim reg value apart held => by
      rwa [(frame_changedBy sim reg value).registers .dmaStatus apart]
  exact {
    read := fun link reg held => ⟨order.read link reg held.order, layout.read link reg held.layout,
      stable_script.read link reg held.script, status.read link reg held.engine⟩
    write := fun link reg value inside held => ⟨order.write link reg value inside.1 held.order,
      layout.write link reg value trivial held.layout,
      stable_script.write link reg value trivial held.script,
      status.write link reg value inside.2 held.engine⟩
    store := fun link addr data bus stored held => ⟨order.store link addr data bus stored held.order,
      layout.store link addr data bus stored held.layout,
      stable_script.store link addr data bus stored held.script,
      status.store link addr data bus stored held.engine⟩
    time := fun _ _ held => held }

/-- A transfer that ends leaves the slot free for the next one. -/
theorem Serviceable.requested (served : Serviceable profile engine sim)
    (done : (sim.requested d).peek .dmaStatus = DmaStatus.done) :
    Serviceable profile Free (sim.requested d) where
  order := served.order.of_altered ((frame_requested sim d).altered (by decide))
  layout := by
    simp only [Simulator.requested, described, layout_write]
    exact served.layout
  script := script_write (script_write (script_write (script_write served.script _ _) _ _) _ _) _ _
  engine := by
    rw [done]
    rfl

end Simulator

namespace Host

variable {profile : Profile} {engine : UInt32 → Prop} {host : Host Simulator}

structure Serviceable (profile : Profile) (engine : UInt32 → Prop) (host : Host Simulator) : Prop where
  config : host.config = .ofProfile profile
  loadable : host.state.loadable = true
  core : host.link.bus.Serviceable profile engine

section Maintained

variable {α : Type}

theorem maintains_write {reg : Register} (plain : reg ≠ .ctrl ∧ .dmaStatus ∉ Simulator.changedBy reg)
    (value : UInt32) : Maintains (Serviceable profile engine) (write reg value) :=
  fun host served => ⟨served.config, served.loadable,
    (Simulator.stable_serviceable profile engine).write host.link reg value plain served.core⟩

theorem maintains_setLoading : Maintains (Serviceable profile engine) (setState .loading) :=
  fun _ served => ⟨served.config, rfl, served.core⟩

theorem maintains_ensureLoadable (operation : String) :
    Maintains (Serviceable profile engine) (ensureLoadable operation) :=
  fun _ served => yields_of_eq (ensureLoadable_eq served.loadable operation) served

theorem Serviceable.stored {addr : UInt32} {data : ByteArray} {memory : DeviceMemory}
    (served : Serviceable profile engine host)
    (stored : host.link.bus.memory.store? addr data = some memory) :
    Serviceable profile engine
      { host with link := ⟨{ host.link.bus with memory }, host.link.clock⟩ } := by
  have kept : Bus.store addr data host.link.bus = .ok { host.link.bus with memory } := by
    simp only [Bus.store, stored]
  exact ⟨served.config, served.loadable,
    (Simulator.stable_serviceable profile engine).store host.link addr data _ kept served.core⟩

theorem maintains_store {region : DeviceMemory.Region} {addr : UInt32} {data : ByteArray} {offset : Nat}
    (covers : (profile.layout region).Covers addr data.size offset) :
    Maintains (Serviceable profile engine) (onLink (Link.store addr data)) := by
  intro host served
  rw [← served.core.layout] at covers
  obtain ⟨memory, stored⟩ := Option.ne_none_iff_exists'.mp (DeviceMemory.store?_ne_none covers)
  rw [yields_onLink]
  refine (Link.yields_store stored).imp ?_
  rintro _ _ rfl
  exact served.stored stored

theorem maintains_stage {data : ByteArray} {next : UInt32 → HostM Simulator α}
    (fits : data.size ≤ AddressMap.stagingBytes)
    (rest : Maintains (Serviceable profile engine) (next AddressMap.staging)) :
    Maintains (Serviceable profile engine) (onLink (Link.stage data) >>= next) := by
  intro host served
  have source := profile.covers_staging fits
  rw [← served.core.layout] at source
  obtain ⟨memory, stored⟩ := Option.ne_none_iff_exists'.mp (DeviceMemory.store?_ne_none source)
  rw [yields_bind, yields_onLink]
  refine (Link.yields_stage fits stored).imp ?_
  rintro _ _ ⟨rfl, rfl⟩
  exact rest _ (served.stored stored)

/-- A transfer from the staging window ends well if its target exists and the slot is free. -/
theorem maintains_transfer {region : DeviceMemory.Region} {dst : UInt32} {len offset : Nat}
    (channel : Channel) (some : 0 < len) (fits : len ≤ AddressMap.stagingBytes)
    (covers : (profile.layout region).Covers dst len offset) :
    Maintains (Serviceable profile Simulator.Free)
      (transfer (.linear channel AddressMap.staging dst (.ofNat len))) := by
  intro host served
  have length := toNat_ofNat_staged fits
  have occupied := ofNat_staged_ne_zero fits some
  have valid := Descriptor.validate_linear channel AddressMap.staging dst occupied
  have source := profile.covers_staging fits
  rw [← served.core.layout] at covers source
  have copied : host.link.bus.memory.copy? AddressMap.staging dst (UInt32.ofNat len).toNat ≠ none := by
    rw [length]
    exact DeviceMemory.copy?_ne_none source covers
  have done := Simulator.done_requested
    (d := .linear channel AddressMap.staging dst (.ofNat len))
    (congrArg Script.dmaHang served.core.script) (congrArg Script.dmaFault served.core.script) copied
  refine (yields_transfer valid (Descriptor.is2d_linear _ _ _ _) served.core.engine done).imp ?_
  rintro _ _ ⟨engine, rfl⟩
  exact ⟨served.config, served.loadable, served.core.requested done⟩

theorem maintains_loadInstructions {instructions : Array Instruction} (some : 0 < instructions.size)
    (fits : instructions.size ≤ profile.instEntries.toNat) :
    Maintains (Serviceable profile engine) (loadInstructions instructions) := by
  have room : instructions.size * 8 ≤ profile.instEntries.toNat * 8 := Nat.mul_le_mul_right 8 fits
  have covers : (profile.layout .instructions).Covers AddressMap.instructions
      (Program.imageOf instructions).size 0 :=
    ⟨rfl, by rw [Nat.zero_add, Program.size_imageOf]; exact room⟩
  refine .bind (maintains_ensureLoadable _) fun _ => .skip (by simpa using Nat.ne_of_gt some) ?_
  refine maintains_settings (fun _ served => served.config) ?_
  refine .skip (Nat.not_lt.mpr fits) (.bind (maintains_store covers) fun _ => ?_)
  refine .bind (maintains_write (by decide) _) fun _ => .bind (maintains_write (by decide) _) fun _ => ?_
  rcases Program.firstLoop instructions with ⟨loopStart, loopCount⟩
  exact fun _ served => ⟨served.config, rfl, served.core⟩

theorem maintains_loadWeights {data : ByteArray} {offset : UInt32} (some : 0 < data.size)
    (fits : offset.toNat + data.size ≤ profile.weightBytes.toNat)
    (staged : data.size ≤ AddressMap.stagingBytes)
    (reached : AddressMap.weights.toNat + offset.toNat < UInt32.size) :
    Maintains (Serviceable profile Simulator.Free) (loadWeights data offset) := by
  obtain ⟨dst, address⟩ : ∃ dst, Checked.add32 AddressMap.weights offset = .ok dst :=
    ⟨.ofNat (AddressMap.weights.toNat + offset.toNat),
      Checked.add32_eq_ok.mpr (UInt32.toNat_ofNat_of_lt' reached).symm⟩
  have covers : (profile.layout .weights).Covers dst data.size offset.toNat :=
    ⟨(Checked.add32_eq_ok.mp address).symm, fits⟩
  have finish (stop : UInt32) : Maintains (Serviceable profile Simulator.Free) (do
      write .weightSize stop
      setState .loading) :=
    .bind (maintains_write (by decide) _) fun _ => maintains_setLoading
  refine .bind (maintains_ensureLoadable _) fun _ => .skip (not_isEmpty_of_pos some) ?_
  refine maintains_settings (fun _ served => served.config) ?_
  refine .skip (Nat.not_lt.mpr fits) (maintains_checked address ?_)
  -- Long weights are staged and transferred, short ones are stored in place.
  split
  · exact maintains_stage staged (.bind (maintains_transfer .weight some staged covers) fun _ => finish _)
  · exact .bind (maintains_store covers) fun _ => finish _

theorem maintains_loadInput {data : ByteArray} (some : 0 < data.size)
    (fits : data.size ≤ profile.actBytes.toNat / 2) (staged : data.size ≤ AddressMap.stagingBytes) :
    Maintains (Serviceable profile Simulator.Free) (loadInput data) := by
  have covers : (profile.layout .activations).Covers AddressMap.activations data.size 0 :=
    ⟨rfl, by show 0 + _ ≤ profile.actBytes.toNat; omega⟩
  refine .bind (maintains_ensureLoadable _) fun _ => .skip (not_isEmpty_of_pos some) ?_
  refine maintains_settings (fun _ served => served.config) ?_
  refine .skip (Nat.not_lt.mpr (by rw [UInt32.toNat_div]; exact fits)) ?_
  exact maintains_stage staged (.bind (maintains_transfer .actIn some staged covers) fun _ =>
    .bind (maintains_write (by decide) _) fun _ => maintains_setLoading)

end Maintained

/-- A core with nothing scripted runs whatever is loaded to its end. -/
theorem yields_run (served : Serviceable profile engine host) (timeout : UInt64) :
    yields start (fun _ started => yields (wait timeout) (fun _ after => after.state = .done) started)
      host := by
  have script := served.core.script
  obtain ⟨ready, run, written, _⟩ := Simulator.exists_ready served.core.order.lowered
  have off : ready.script = {} := by
    rw [written.rest]
    exact script
  have ended := Simulator.runProgram_of_sound (congrArg Script.hang off) (congrArg Script.fault off)
  have status : host.link.bus.launched.peek .status = Simulator.doneStatus := by
    rw [run, Simulator.peek_runProgram_of_sound (congrArg Script.hang off) (congrArg Script.fault off),
      Simulator.status_finish]
  have prompt : host.link.bus.launched.pending = 0 := by
    have same : (ready.finish ready.tally).script = ready.script := ready.script_charge ready.tally
    rw [run, ended]
    exact congrArg Script.latency (same.trans off)
  refine (yields_start served.loadable).imp ?_
  rintro _ _ ⟨context, rfl, running, _⟩
  have initialized : context.state.isInitialized = true := by
    rw [running]
    rfl
  refine (yields_wait initialized status fun look below => ?_).imp ?_
  · rw [prompt] at below
    exact absurd below (Nat.not_lt_zero look)
  · rintro _ _ ⟨_, _, context, rfl, done, _⟩
    exact done

/-- Work that fits is done. -/
theorem Serviceable.succeed {work : Work} (served : Serviceable profile Simulator.Free host)
    (fits : work.Fits profile)
    (reached : AddressMap.weights.toNat + work.offset.toNat < UInt32.size) :
    ∃ after, Succeed host work.operations after ∧ after.state = .done := by
  have program : Maintains (Serviceable profile Simulator.Free) (loadInstructions work.program) :=
    maintains_loadInstructions fits.program.1 fits.program.2
  have weights := maintains_loadWeights fits.weights.1 fits.weights.2 fits.staged.1 reached
  have input := maintains_loadInput fits.input.1 fits.input.2 fits.staged.2
  obtain ⟨_, first, one, served⟩ :=
    (Operation.loadInstructions work.program).exists_ok rfl (program host served)
  obtain ⟨_, second, two, served⟩ :=
    (Operation.loadWeights work.weights work.offset).exists_ok rfl (weights first served)
  obtain ⟨_, third, three, served⟩ := (Operation.loadInput work.input).exists_ok rfl (input second served)
  obtain ⟨_, fourth, four, waits⟩ := Operation.start.exists_ok rfl (yields_run served work.timeout)
  obtain ⟨_, last, five, done⟩ := (Operation.wait work.timeout).exists_ok rfl waits
  exact ⟨last, .cons one (.cons two (.cons three (.cons four (.cons five .nil)))), done⟩

section Jammed

/-- An input always needs a transfer, and no transfer is started any more. -/
theorem turns_loadInput (data : ByteArray) : Turns Jammed (fun _ => False) (loadInput data) := by
  have stable := jammed_stable .notes
  refine .bind (preserves_ensureLoadable _) fun _ => .guard (preserves_raise _) fun _ =>
    .bind preserves_getConfig fun _ => .guard (stable.preserves_fail _) fun _ => ?_
  exact .bind (preserves_onLink fun host => (stable.link host).preserves_stage _) fun _ =>
    .never_bind (turns_transfer _)

/-- Weights that need no transfer are loaded and leave the engine as it is. -/
theorem preserves_jammed_loadWeights (data : ByteArray) (offset : UInt32) :
    Preserves Jammed (loadWeights data offset) :=
  preserves_loadWeights (jammed_stable .progress) nofun (by decide)
    (fun d host jammed => (turns_transfer d host jammed).imp (fun _ _ no => no.elim) fun _ _ still => still)
    data offset

theorem not_succeed_of_jammed {after : Host Simulator} {work : Work} (jammed : host.Jammed) :
    ¬Succeed host work.operations after := by
  intro succeed
  obtain _ | ⟨one, _ | ⟨two, _ | ⟨three, _⟩⟩⟩ := succeed
  have stable := (jammed_stable .whole).mono (by decide : ∀ reg ∈ [Register.instSize, .instPtr], _)
  have loaded := one.preserves stable.guarded jammed
  -- Weights that are few enough need no transfer, so only the input is sure to fail.
  have weighted := two.of_action rfl (preserves_jammed_loadWeights _ _ _ loaded)
  exact three.of_action rfl (turns_loadInput _ _ weighted)

end Jammed

/-- Weights whose address is past the last one are never loaded. -/
theorem wlp_loadWeights_address (config : host.config = .ofProfile profile) (data : ByteArray)
    (offset : UInt32) :
    wlp (loadWeights data offset)
      (fun _ _ => AddressMap.weights.toNat + offset.toNat < UInt32.size) (fun _ _ => True) host := by
  refine wlp_accepted (fun _ => wlp_guard (fun _ => trivial) fun _ => ?_) fun _ _ => trivial
  rw [wlp_bind, wlp_getConfig, config]
  refine wlp_guard (fun _ => trivial) fun _ => ?_
  rw [wlp_bind, wlp_checked]
  intro dst address
  have sum : AddressMap.weights.toNat + offset.toNat = dst.toNat := Checked.add32_eq_ok.mp address
  exact wlp_of_fact (sum ▸ dst.toNat_lt) _ _

theorem Serviceable.addressable {work : Work} {after : Host Simulator}
    (served : Serviceable profile engine host) (fits : work.Fits profile)
    (succeed : Succeed host work.operations after) :
    AddressMap.weights.toNat + work.offset.toNat < UInt32.size := by
  obtain _ | ⟨one, _ | ⟨two, _⟩⟩ := succeed
  have program : Maintains (Serviceable profile engine) (loadInstructions work.program) :=
    maintains_loadInstructions fits.program.1 fits.program.2
  have loaded := one.of_action rfl (program.preserves _ served)
  exact two.of_action rfl (wlp_loadWeights_address loaded.config _ _)

/-- The output half of the activation buffer starts inside the addresses, whatever its size. -/
theorem exists_outputAddr (profile : Profile) :
    ∃ address, (Config.ofProfile profile).outputAddr = .ok address := by
  have room : AddressMap.activations.toNat + (profile.actBytes / 2).toNat < UInt32.size := by
    have half : (profile.actBytes / 2).toNat = profile.actBytes.toNat / 2 := UInt32.toNat_div _ _
    have bound := profile.actBytes.toNat_lt
    have base : AddressMap.activations.toNat = 0x40300000 := rfl
    simp only [UInt32.size]
    omega
  exact ⟨.ofNat _, Checked.add32_eq_ok.mpr (UInt32.toNat_ofNat_of_lt' room).symm⟩

theorem yields_reset (config : host.config = .ofProfile profile) :
    yields reset (fun _ after => after.config = .ofProfile profile ∧ after.state = .idle) host := by
  obtain ⟨address, found⟩ := exists_outputAddr profile
  have write (reg : Register) (value : UInt32) :
      Maintains (fun host : Host Simulator => host.config = .ofProfile profile) (write reg value) :=
    fun _ config => config
  have buffers : Maintains (fun host : Host Simulator => host.config = .ofProfile profile)
      programBuffers :=
    maintains_settings (fun _ config => config) (.bind (write _ _) fun _ => .bind (write _ _) fun _ =>
      .bind (write _ _) fun _ => maintains_checked found (.bind (write _ _) fun _ => write _ _))
  have counters : Maintains (fun host : Host Simulator => host.config = .ofProfile profile)
      resetCounters :=
    .bind (fun _ config => config) fun _ => .bind (fun _ config => config) fun _ _ config => config
  have whole : Maintains (fun host : Host Simulator => host.config = .ofProfile profile) reset :=
    .bind (fun _ config => config) fun _ => .bind (fun _ config => config) fun _ =>
      .bind (write _ _) fun _ => .bind (write _ _) fun _ => .bind buffers fun _ => .bind counters fun _ =>
      fun _ config => config
  exact (whole host config).and (wlp_reset host)

end Host

section Recovery

variable {profile : Profile} {host : Host Simulator}

/-- Between operations the windows are in place and the engine shows one of its words. -/
theorem Reachable.rescripted
    (reached : Reachable (fun sim => Simulator.ofProfile profile = .ok sim) Simulator.Rescripted host) :
    Simulator.InOrder profile 0 host.link.bus ∧ host.link.bus.memory.layout = profile.layout ∧
      host.link.bus.peek .dmaStatus ∈ Simulator.engineWords := by
  refine ⟨?_, ?_, ?_⟩
  · exact reached.kept (Simulator.guarded_inOrder profile)
      (fun _ _ built => Simulator.inOrder_ofProfile built) fun _ _ change order =>
        order.of_altered change.altered
  · refine reached.kept (Simulator.stable_layout profile.layout).guarded
      (fun _ _ built => Simulator.layout_ofProfile built) fun link bus change held => ?_
    cases change <;> exact held
  · refine reached.kept Simulator.stable_engine.guarded
      (fun _ _ built => Simulator.engine_ofProfile built) fun link bus change held => ?_
    dsimp only
    rw [change.frame.registers .dmaStatus (by decide)]
    exact held

/-- A reset succeeds, and leaves everything in order but the engine, which it does not touch. -/
theorem exists_reset (order : Simulator.InOrder profile 0 host.link.bus)
    (layout : host.link.bus.memory.layout = profile.layout) (script : host.link.bus.script = {})
    (config : host.config = .ofProfile profile) :
    ∃ recovered, Operation.reset.Step host (.ok .finished) recovered ∧
      recovered.Serviceable profile (· = host.link.bus.peek .dmaStatus) := by
  obtain ⟨_, recovered, step, config, idle⟩ :=
    Operation.reset.exists_ok rfl (Host.yields_reset config)
  refine ⟨recovered, step, config, ?_, ?_, ?_, ?_, ?_⟩
  · rw [idle]
    rfl
  · exact step.preserves (Host.guarded_of_link
      ((Simulator.guarded_inOrder profile).mono fun _ _ => trivial) _) order
  · exact step.preserves (Host.guarded_of_link
      ((Simulator.stable_layout profile.layout).guarded.mono fun _ _ => trivial) _) layout
  · exact step.preserves (Host.guarded_of_link
      (Simulator.stable_script.guarded.mono fun _ _ => trivial) _) script
  · have stable := Simulator.stable_peek .dmaStatus (host.link.bus.peek .dmaStatus)
    exact step.preserves (Host.guarded_of_link
      (stable.guarded.mono (by dsimp only [Operation.registers]; decide)) _) rfl

/-- What a reset is worth once nothing is scripted any more: whatever has happened before, work that
fits is done afterwards, unless a transfer hung and still has the slot of the engine. Only weights
past the last address are left out. -/
theorem reset_recovers_iff
    (reached : Reachable (fun sim => Simulator.ofProfile profile = .ok sim) Simulator.Rescripted host)
    (config : host.config = .ofProfile profile) (script : host.link.bus.script = {}) :
    ∃ recovered, Operation.reset.Step host (.ok .finished) recovered ∧
      ∀ work : Work, work.Fits profile →
        ((∃ after, Succeed recovered work.operations after ∧ after.state = .done) ↔
          host.link.bus.peek .dmaStatus &&& DmaStatus.busy = 0 ∧
          AddressMap.weights.toNat + work.offset.toNat < UInt32.size) := by
  obtain ⟨order, layout, words⟩ := reached.rescripted
  obtain ⟨recovered, step, served⟩ := exists_reset order layout script config
  refine ⟨recovered, step, fun work fits => ⟨?_, ?_⟩⟩
  · rintro ⟨after, succeed, _⟩
    refine ⟨?_, served.addressable fits succeed⟩
    by_contra taken
    -- Of the words that the engine can show, only one has the slot taken, and a reset keeps it.
    have busy := Simulator.eq_busy_of_taken words taken
    exact Host.not_succeed_of_jammed (served.core.engine.trans busy) succeed
  · rintro ⟨free, address⟩
    refine Host.Serviceable.succeed ⟨served.config, served.loadable, ?_⟩ fits address
    have core := served.core
    exact ⟨core.order, core.layout, core.script, core.engine ▸ free⟩

end Recovery

section Example

def smallWork : Work := ⟨#[.halt], ⟨#[1]⟩, 0, ⟨#[1]⟩, 1000⟩

theorem smallWork_fits : smallWork.Fits .reference :=
  ⟨by decide, by decide, by decide, by decide⟩

theorem referenceHost_reachable :
    Reachable (fun sim => Simulator.ofProfile .reference = .ok sim) Simulator.Rescripted referenceHost := by
  obtain ⟨⟨_, initialised⟩, _⟩ := haltHost_loaded
  exact .step (.start rfl) initialised

def Simulator.unscripted (sim : Simulator) : Simulator :=
  { sim with fault := none, dmaFault := false, dmaHang := false, hang := false, latency := 0 }

/-- A program hangs and is given up; the state of the host is still that of a run. -/
theorem hung_core_recovers :
    ∃ hung recovered after : Host Simulator, hung.state = .running ∧
      Operation.reset.Step hung (.ok .finished) recovered ∧
      Succeed recovered smallWork.operations after ∧ after.state = .done := by
  let hanging : Host Simulator :=
    { referenceHost with link.bus := { referenceHost.link.bus with hang := true } }
  let started := (Operation.start.perform hanging).2
  let waited := ((Operation.wait 1).perform started).2
  let hung : Host Simulator := { waited with link.bus := waited.link.bus.unscripted }
  have run : Operation.comesBack (Operation.start.perform hanging).1 = true ∧
      Operation.comesBack ((Operation.wait 1).perform started).1 = true ∧
      hung.config = .ofProfile .reference ∧ hung.state = .running ∧
      hung.link.bus.peek .dmaStatus &&& DmaStatus.busy = 0 := by
    decide +kernel
  obtain ⟨_, starts⟩ := Operation.exists_step _ _ run.1
  obtain ⟨_, waits⟩ := Operation.exists_step _ _ run.2.1
  have reached : Reachable (fun sim => Simulator.ofProfile .reference = .ok sim) Simulator.Rescripted hung :=
    .alter (.step (.step (.alter referenceHost_reachable (.script _ _ _ _ _)) starts) waits)
      (.script _ _ _ _ _)
  obtain ⟨recovered, resets, works⟩ := reset_recovers_iff reached run.2.2.1 rfl
  obtain ⟨after, succeed, done⟩ := (works smallWork smallWork_fits).mpr ⟨run.2.2.2.2, by decide⟩
  exact ⟨hung, recovered, after, run.2.2.2.1, resets, succeed, done⟩

/-- A transfer hangs and is given up. Nothing is scripted any more when the core is reset, but the
slot of the engine is still taken. -/
theorem recovery_not_whole :
    ¬∀ host recovered : Host Simulator,
      Reachable (fun sim => Simulator.ofProfile .reference = .ok sim) Simulator.Rescripted host →
      host.config = .ofProfile .reference → host.link.bus.script = {} →
      Operation.reset.Step host (.ok .finished) recovered →
      ∃ after, Succeed recovered smallWork.operations after ∧ after.state = .done := by
  intro usable
  let hanging : Host Simulator :=
    { referenceHost with link.bus := { referenceHost.link.bus with dmaHang := true } }
  let moving : Operation := .dmaTransfer (.linear .weight AddressMap.staging AddressMap.weights 4) 1
  let waited := (moving.perform hanging).2
  let stuck : Host Simulator := { waited with link.bus := waited.link.bus.unscripted }
  have run : Operation.comesBack (moving.perform hanging).1 = true ∧
      stuck.config = .ofProfile .reference ∧ stuck.link.bus.peek .dmaStatus = DmaStatus.busy := by
    decide +kernel
  obtain ⟨_, moves⟩ := Operation.exists_step _ _ run.1
  have reached : Reachable (fun sim => Simulator.ofProfile .reference = .ok sim) Simulator.Rescripted stuck :=
    .alter (.step (.alter referenceHost_reachable (.script _ _ _ _ _)) moves) (.script _ _ _ _ _)
  obtain ⟨order, layout, _⟩ := reached.rescripted
  obtain ⟨recovered, resets, served⟩ := exists_reset order layout rfl run.2.1
  obtain ⟨after, succeed, _⟩ := usable stuck recovered reached run.2.1 rfl resets
  exact Host.not_succeed_of_jammed (served.core.engine.trans run.2.2) succeed

end Example

end NpuStack
