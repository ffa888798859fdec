import NpuStack.Proofs.Host.Effects
import NpuStack.Proofs.Lowering.Discipline
import NpuStack.Proofs.Simulator.Run

/-! A layer from its description to its counters: on the simulated core, what
compiles and fits is run to its end, and the counters grow by what the program
holds. -/

set_option autoImplicit false

namespace NpuStack

theorem Lowering.Disciplined.runsOn {code : List Instruction} (disciplined : Disciplined code) :
    Tally.RunsOn code := by
  obtain ⟨last, found, halts⟩ := disciplined.halts
  have once := disciplined.once
  obtain ⟨body, rfl⟩ := List.getLast?_eq_some_iff.mp found
  have inner : body.countP (·.opcode == .halt) = 0 := by
    simpa [List.countP_append, halts] using once
  rw [List.countP_eq_zero] at inner
  clear found once disciplined
  -- The last instruction may halt and nothing before it does.
  induction body with
  | nil => exact ⟨fun _ => rfl, trivial⟩
  | cons inst body ih =>
    have goesOn : inst.opcode ≠ .halt := by simpa using inner inst List.mem_cons_self
    exact ⟨fun stops => absurd stops goesOn,
      ih fun other member => inner other (List.mem_cons_of_mem inst member)⟩

namespace Simulator

def reading (sim : Simulator) : Counters :=
  let totalCycles := sim.pair .perfCyclesLo .perfCyclesHi
  let stallCycles := (sim.peek .perfStallCnt).toUInt64
  { totalCycles
    computeCycles := Counters.busyCycles totalCycles stallCycles
    stallCycles
    macOps := sim.pair .perfMacLo .perfMacHi
    instructions := (sim.peek .perfInstCnt).toUInt64 }

end Simulator

/-- What a run of a program leaves, relative to the host before it. -/
structure Accounted (profile : Profile) (code : List Instruction) (before after : Host Simulator) :
    Prop where
  done : after.state = .done
  pointer : (after.link.bus.peek .instPtr).toNat = code.length
  instructions : after.link.bus.peek .perfInstCnt =
    before.link.bus.peek .perfInstCnt + .ofNat code.length
  stalls : after.link.bus.peek .perfStallCnt =
    before.link.bus.peek .perfStallCnt + .ofNat (8 * waitCount code)
  macs : after.link.bus.pair .perfMacLo .perfMacHi = before.link.bus.pair .perfMacLo .perfMacHi +
    .ofNat (computeCount code * (profile.peRows.toNat * profile.peCols.toNat))
  cycles : after.link.bus.pair .perfCyclesLo .perfCyclesHi =
    before.link.bus.pair .perfCyclesLo .perfCyclesHi +
      .ofNat (4 * code.length + 16 * computeCount code + 8 * waitCount code)
  perf : after.context.perf = { after.link.bus.reading with
    layers := before.context.perf.layers + 1
    transfers := before.engine.started }

namespace Host

theorem ensureLoadable_eq {β : Type} {host : Host β} (loadable : host.state.loadable = true)
    (operation : String) : ensureLoadable operation host = (.ok (), host) := by
  obtain ⟨link, config, ⟨state, _⟩, engine, listening⟩ := host
  cases state with
  | idle | loading | done => rfl
  | reset | init | running | draining | error => cases loadable

variable {host : Host Simulator}

theorem ensureInitialized_eq (initialized : host.state.isInitialized = true) :
    ensureInitialized host = (.ok (), host) := by
  show (if !host.state.isInitialized then raise .notInitialized else pure () : HostM Simulator Unit)
    host = _
  rw [initialized]
  rfl

theorem compileLayer_eq {profile : Profile} {layer : Layer} {program : Program}
    (config : host.link.bus.peek .config = profile.config)
    (compiled : layer.compile (.ofProfile profile) = .ok program) :
    compileLayer layer host = (.ok program, host) := by
  have target : Target.ofProfile (.ofConfig (host.link.bus.peek .config)) = .ofProfile profile := by
    rw [config, Target.ofProfile, profile.ofConfig_config.1, profile.ofConfig_config.2]
    rfl
  obtain ⟨info, asked, reported⟩ : ∃ info, hardwareInfo host = (.ok info, host) ∧
      info.profile = .ofConfig (host.link.bus.peek .config) := ⟨_, rfl, rfl⟩
  unfold compileLayer
  rw [act_bind, asked]
  dsimp only
  rw [reported, target, compiled]
  rfl

theorem yields_configureLayer (layer : Layer) :
    yields (configureLayer layer) (fun _ after => ∃ sim,
      Simulator.Written layerRegisters host.link.bus sim ∧
      after = { host with link := ⟨sim, host.link.clock⟩ }) host := by
  refine maintains_configureLayer (fun reg member value => ?_) layer host
    ⟨host.link.bus, .refl _ _, rfl⟩
  have plain : Simulator.isPlain reg = true := by
    revert reg
    decide
  rintro _ ⟨sim, written, rfl⟩
  exact ⟨sim.write reg value, written.write reg plain member value, rfl⟩

theorem yields_loadInstructions {profile : Profile} {instructions : Array Instruction}
    (order : Simulator.InOrder profile 0 host.link.bus) (config : host.config = .ofProfile profile)
    (loadable : host.state.loadable = true) (some : 0 < instructions.size)
    (fits : instructions.size ≤ profile.instEntries.toNat) :
    yields (loadInstructions instructions) (fun _ after => ∃ context,
      after = { host with link := ⟨host.link.bus.holding instructions, host.link.clock⟩, context } ∧
      context.state = .loading ∧ context.perf = host.context.perf) host := by
  -- The image starts at the base of the instruction buffer, so no other window is asked.
  have window : host.link.bus.memory.locate? AddressMap.instructions
      (Program.imageOf instructions).size = .some (.instructions, 0) := by
    have room : instructions.size * 8 ≤ profile.instEntries.toNat * 8 := Nat.mul_le_mul_right 8 fits
    simp [DeviceMemory.locate?, Window.locate?, order.base, order.size, Program.size_imageOf, room]
  have address : host.config.instAddr = AddressMap.instructions := config ▸ rfl
  have capacity : host.config.instEntries = profile.instEntries := config ▸ rfl
  have stored : onLink (Link.store host.config.instAddr (Program.imageOf instructions)) host =
      (.ok (), { host with link := ⟨{ host.link.bus with
        memory := host.link.bus.memory.writeAt .instructions 0 (Program.imageOf instructions) },
        host.link.clock⟩ }) := by
    rw [onLink_eq, address]
    simp only [Link.store, Bus.store, DeviceMemory.store?, window]
  have occupied : ¬instructions.isEmpty = true := by simpa using Nat.ne_of_gt some
  unfold loadInstructions
  rw [yields_bind]
  refine yields_of_eq (ensureLoadable_eq loadable _) (yields_skip occupied ?_)
  rw [yields_bind]
  refine yields_of_eq rfl (yields_skip (by rw [capacity]; omega) ?_)
  rw [yields_bind]
  refine yields_of_eq stored ?_
  rcases Program.firstLoop instructions with ⟨loopStart, loopCount⟩
  exact ⟨_, rfl, rfl, rfl⟩

theorem yields_start (loadable : host.state.loadable = true) :
    yields start (fun _ after => ∃ context,
      after = { host with link := ⟨host.link.bus.launched, host.link.clock⟩, context } ∧
      context.state = .running ∧ context.perf = host.context.perf) host := by
  unfold start
  rw [yields_bind]
  refine yields_of_eq (ensureLoadable_eq loadable _) ?_
  exact ⟨_, rfl, rfl, rfl⟩

theorem yields_wait {timeout : UInt64} (initialized : host.state.isInitialized = true)
    (status : host.link.bus.peek .status = Simulator.doneStatus)
    (timely : ∀ look < host.link.bus.pending.toNat,
      look * host.config.interval.toNat < timeout.toNat) :
    yields (wait timeout) (fun _ after => ∃ reads clock context,
      after = { host with
        link := ⟨{ host.link.bus with pending := 0, statusReads := reads }, clock⟩
        context } ∧
      context.state = .done ∧
      context.perf = { host.link.bus.reading with
        layers := host.context.perf.layers
        transfers := host.engine.started }) host := by
  obtain ⟨reads, answers⟩ := Simulator.answers_completion status
  obtain ⟨clock, polled⟩ := Link.poll_answers answers timely
  have ended : attempt (onLink (Link.poll host.config.interval timeout completionProbe)) host =
      (.ok (.ok ()), { host with
        link := ⟨{ host.link.bus with pending := 0, statusReads := reads }, clock⟩ }) := by
    rw [attempt, onLink_eq, polled]
  unfold wait
  rw [yields_bind]
  refine yields_of_eq (ensureInitialized_eq initialized) ?_
  rw [yields_bind]
  refine yields_of_eq rfl ?_
  rw [yields_bind]
  exact yields_of_eq ended ⟨reads, clock, _, rfl, rfl, rfl⟩

theorem accounted_of_finished {profile : Profile} {code : List Instruction} {sim : Simulator}
    {context : Context} {reads : UInt64} {clock : Clock}
    (finished : Simulator.Finished code host.link.bus sim)
    (geometry : host.link.bus.profile = profile) (room : code.length < UInt32.size)
    (done : context.state = .done)
    (sampled : context.perf = { sim.reading with
      layers := host.context.perf.layers
      transfers := host.engine.started }) :
    Accounted profile code host { host with
      link := ⟨{ sim with pending := 0, statusReads := reads }, clock⟩
      context := { context with perf := { context.perf with layers := context.perf.layers + 1 } } } := by
  have charged := finished.charged
  have elements : host.link.bus.profile.peCount.toNat =
      profile.peRows.toNat * profile.peCols.toNat := by
    rw [geometry]
    exact profile.toNat_peCount
  have cycles : (Tally.ofCode code).cycles =
      4 * code.length + 16 * computeCount code + 8 * waitCount code := by
    show code.length * 4 + computeCount code * 16 + waitCount code * 8 = _
    omega
  exact {
    done
    pointer := by
      show (sim.peek .instPtr).toNat = code.length
      rw [finished.pointer, UInt32.toNat_ofNat_of_lt' room]
    instructions := charged.instructions
    stalls := Nat.mul_comm 8 (waitCount code) ▸ charged.stalls
    macs := elements ▸ charged.macs
    cycles := cycles ▸ charged.cycles
    perf := by
      show { context.perf with layers := context.perf.layers + 1 } = _
      rw [sampled]
      rfl }

theorem yields_compileAndRun {profile : Profile} {layer : Layer} {program : Program}
    (order : Simulator.InOrder profile 0 host.link.bus) (config : host.config = .ofProfile profile)
    (loadable : host.state.loadable = true) (running : host.link.bus.hang = false)
    (sound : host.link.bus.fault = none)
    (enabled : host.link.bus.peek .perfCtrl &&& PerfCtrl.enable ≠ 0)
    (timely : ∀ look < host.link.bus.latency.toNat,
      look * host.config.interval.toNat < host.config.runTimeout.toNat)
    (compiled : layer.compile (.ofProfile profile) = .ok program)
    (fits : program.size ≤ profile.instEntries.toNat) :
    yields (compileAndRun layer) (fun counters after => counters = after.context.perf ∧
      Accounted profile program.instructions.toList host after) host := by
  have disciplined := Lowering.disciplined_of_compile compiled
  have some : 0 < program.instructions.size := by
    obtain ⟨last, found, _⟩ := disciplined.halts
    exact List.length_pos_of_mem (List.mem_of_getLast? found)
  unfold compileAndRun
  rw [yields_bind]
  refine yields_of_eq (ensureLoadable_eq loadable _) ?_
  rw [yields_bind]
  refine yields_of_eq (compileLayer_eq order.config compiled) ?_
  rw [yields_bind]
  refine (yields_configureLayer layer).imp ?_
  rintro _ _ ⟨sim, written, rfl⟩
  -- What the core will have done is known from here; the rest is how the host gets there.
  have finished := Simulator.finished_launched order running sound enabled written fits
    disciplined.runsOn
  let described : Host Simulator := { host with link := ⟨sim, host.link.clock⟩ }
  have inOrder : Simulator.InOrder profile 0 described.link.bus :=
    order.of_altered (written.frame.altered (by decide))
  rw [yields_bind]
  refine (yields_loadInstructions inOrder config loadable some fits).imp ?_
  rintro _ _ ⟨context, rfl, loading, perf⟩
  rw [yields_bind]
  refine (yields_start (by show context.state.loadable = true; rw [loading]; rfl)).imp ?_
  rintro _ _ ⟨started, rfl, runs, perf'⟩
  rw [yields_bind]
  refine yields_of_eq rfl ?_
  rw [yields_bind]
  refine (yields_wait (by show started.state.isInitialized = true; rw [runs]; rfl) finished.status
    (finished.pending ▸ timely)).imp ?_
  rintro _ _ ⟨reads, clock, ended, rfl, done, sampled⟩
  have room : program.instructions.toList.length < UInt32.size :=
    Nat.lt_of_le_of_lt fits profile.instEntries.toNat_lt
  refine ⟨rfl, accounted_of_finished finished order.geometry room done ?_⟩
  exact sampled.trans (by rw [perf', perf])

end Host

/-- A layer that compiles and fits is run to its end on a core in any state that it can be left in,
and the counters grow by what its program holds. -/
theorem compileAndRun_accounted {profile : Profile} {host : Host Simulator} {layer : Layer}
    {program : Program}
    (reached : Reachable (fun sim => Simulator.ofProfile profile = .ok sim) Simulator.Altered host)
    (config : host.config = .ofProfile profile) (loadable : host.state.loadable = true)
    (running : host.link.bus.hang = false) (sound : host.link.bus.fault = none)
    (enabled : host.link.bus.peek .perfCtrl &&& PerfCtrl.enable ≠ 0)
    (timely : ∀ look < host.link.bus.latency.toNat,
      look * host.config.interval.toNat < host.config.runTimeout.toNat)
    (compiled : layer.compile (.ofProfile profile) = .ok program)
    (fits : program.size ≤ profile.instEntries.toNat) :
    (∃ after, (Operation.compileAndRun layer).Step host (.ok (.counters after.context.perf)) after ∧
      Accounted profile program.instructions.toList host after) ∧
    (layer.kind.convolves = true → ∃ shape tiling, layer.convolution? = some shape ∧
      Tiling.ofLayer (.ofProfile profile) shape = .ok tiling ∧
      computeCount program.instructions.toList = tiling.outTiles.toNat * tiling.inTiles.toNat ∧
      waitCount program.instructions.toList = tiling.outTiles.toNat) := by
  refine ⟨?_, fun convolves => ?_⟩
  · have run := Host.yields_compileAndRun reached.inOrder config loadable running sound enabled timely
      compiled fits
    have performed : yields (Operation.compileAndRun layer).perform (fun reply after =>
        reply = .counters after.context.perf ∧
        Accounted profile program.instructions.toList host after) host := by
      show yields (Reply.counters <$> Host.compileAndRun layer) _ host
      rw [yields_map]
      exact run.imp fun _ _ known => ⟨congrArg Reply.counters known.1, known.2⟩
    obtain ⟨_, after, step, rfl, accounted⟩ := Operation.Step.of_yields performed
    exact ⟨after, step, accounted⟩
  · obtain ⟨shape, shaped, conv⟩ := Lowering.compile_convolution convolves compiled
    obtain ⟨tiling, planned, outTiles, inTiles⟩ := conv.planned
    refine ⟨shape, tiling, shaped, planned, ?_, ?_⟩
    · rw [outTiles, inTiles]
      exact conv.countP_compute
    · rw [outTiles]
      exact conv.countP_waitDma

def smallProfile : Profile := ⟨2, 2, 64, 256, 256⟩

def smallCore : Simulator := (Simulator.ofProfile smallProfile).toOption.get rfl

def smallHost : Host Simulator :=
  ((Operation.init (.ofProfile smallProfile)).perform (.ofBus smallCore)).2

def Simulator.delayed (sim : Simulator) (latency : UInt32) : Simulator := { sim with latency }

theorem Simulator.altered_delayed (sim : Simulator) (latency : UInt32) :
    Altered sim (sim.delayed latency) :=
  ⟨rfl, rfl, rfl, rfl, rfl⟩

theorem Simulator.peek_delayed (sim : Simulator) (latency : UInt32) (reg : Register) :
    (sim.delayed latency).peek reg = sim.peek reg :=
  rfl

/-- The host of the small core, which shows the end of a program at the fourth look. -/
def slowHost : Host Simulator :=
  { smallHost with link := ⟨smallHost.link.bus.delayed 3, smallHost.link.clock⟩ }

theorem slowHost_reachable :
    Reachable (fun sim => Simulator.ofProfile smallProfile = .ok sim) Simulator.Altered slowHost := by
  have started : Reachable (fun sim => Simulator.ofProfile smallProfile = .ok sim)
      Simulator.Altered (.ofBus smallCore) := .start rfl
  have initialised : (Operation.init (.ofProfile smallProfile)).Step (.ofBus smallCore)
      (.ok .finished) smallHost := .of_value rfl
  exact .alter (.step started initialised) (smallHost.link.bus.altered_delayed 3)

theorem slowHost_enabled : slowHost.link.bus.peek .perfCtrl &&& PerfCtrl.enable ≠ 0 := by
  obtain ⟨sim, last⟩ : ∃ sim : Simulator,
      smallHost.link.bus = sim.write .perfCtrl (PerfCtrl.enable ||| PerfCtrl.reset) := ⟨_, rfl⟩
  have word : slowHost.link.bus.peek .perfCtrl = PerfCtrl.enable ||| PerfCtrl.reset := by
    rw [← sim.peek_perfCtrl_write (PerfCtrl.enable ||| PerfCtrl.reset), ← last]
    exact smallHost.link.bus.peek_delayed 3 .perfCtrl
  rw [word]
  decide

theorem partialTiles_accounted :
    ∃ program after, Lowering.partialTiles.compile (.ofProfile smallProfile) = .ok program ∧
      (Operation.compileAndRun Lowering.partialTiles).Step slowHost
        (.ok (.counters after.context.perf)) after ∧
      Accounted smallProfile program.instructions.toList slowHost after ∧
      computeCount program.instructions.toList = 4 ∧ waitCount program.instructions.toList = 2 := by
  obtain ⟨program, compiled, fits⟩ : ∃ program,
      Lowering.partialTiles.compile (.ofProfile smallProfile) = .ok program ∧ program.size ≤ 64 :=
    ⟨_, rfl, by decide⟩
  have timely : ∀ look < 3, look * 10 < 1000000 := by omega
  obtain ⟨⟨after, step, accounted⟩, tiles⟩ := compileAndRun_accounted slowHost_reachable rfl rfl rfl rfl
    slowHost_enabled timely compiled fits
  obtain ⟨shape, tiling, shaped, planned, computes, waits⟩ := tiles rfl
  cases shaped
  cases planned
  exact ⟨program, after, compiled, step, accounted, computes, waits⟩

end NpuStack
