import NpuStack.Proofs.Accounting
import NpuStack.Proofs.Host.Refusal

/-! Layers that cannot be run. Whether a layer compiles and whether its program
has room in the instruction buffer are both settled without the device, but only
the first is asked before the registers of the layer are written. -/

set_option autoImplicit false

namespace NpuStack

/-- Errors that follow from the layer, the geometry and the configuration. -/
def HostError.isForeseeable : HostError → Bool
  | .compile _ | .overflow _ _ _ => true
  | _ => false

def Layer.description (layer : Layer) : List (Register × UInt32) :=
  [(.layerType, layer.kind.typeCode), (.layerInCh, layer.input.channels),
   (.layerOutCh, layer.output.channels), (.layerInH, layer.input.height),
   (.layerInW, layer.input.width), (.layerOutH, layer.output.height),
   (.layerOutW, layer.output.width), (.layerKernel, layer.conv.kernelWord),
   (.layerStride, layer.conv.strideWord), (.layerPadding, layer.conv.paddingWord),
   (.layerActType, layer.activation.typeCode)] ++
  (if layer.kind.isPool then [(.layerPoolType, layer.kind.poolCode)] else []) ++
  [(.layerQuantScale, layer.quant.scale.toUInt32),
   (.layerQuantZero, layer.quant.zeroPoint.toUInt8.toUInt32)]

theorem Layer.description_plain (layer : Layer) :
    ∀ entry ∈ layer.description, Simulator.isPlain entry.1 = true := by
  unfold description
  cases layer.kind.isPool <;> simp [Simulator.isPlain]

namespace Simulator

def writeAll (sim : Simulator) (entries : List (Register × UInt32)) : Simulator :=
  entries.foldl (fun sim entry => sim.write entry.1 entry.2) sim

theorem log_write (sim : Simulator) {reg : Register} (plain : isPlain reg = true) (value : UInt32) :
    (sim.write reg value).log = sim.log.push (reg, value) := by
  obtain ⟨stored, run⟩ := sim.write_of_plain plain value
  rw [run]

theorem log_writeAll (sim : Simulator) {entries : List (Register × UInt32)}
    (plain : ∀ entry ∈ entries, isPlain entry.1 = true) :
    (sim.writeAll entries).log.toList = sim.log.toList ++ entries := by
  induction entries generalizing sim with
  | nil => simp [writeAll]
  | cons entry entries ih =>
    have rest := ih (sim.write entry.1 entry.2) fun other member =>
      plain other (List.mem_cons_of_mem entry member)
    have first := sim.log_write (plain entry List.mem_cons_self) entry.2
    show (writeAll (sim.write entry.1 entry.2) entries).log.toList = _
    rw [rest, first]
    simp

end Simulator

namespace Host

variable {layer : Layer} {host : Host Simulator}

def target (host : Host Simulator) : Target :=
  .ofProfile (.ofConfig (host.link.bus.peek .config))

def described (host : Host Simulator) (layer : Layer) : Host Simulator :=
  { host with link := ⟨host.link.bus.writeAll layer.description, host.link.clock⟩ }

theorem configureLayer_eq (layer : Layer) (host : Host Simulator) :
    configureLayer layer host = (.ok (), host.described layer) := by
  unfold configureLayer described Layer.description
  cases layer.kind.isPool <;> rfl

/-- Compiling asks the core for its geometry and leaves the host as it is. -/
theorem compileLayer_run (layer : Layer) (host : Host Simulator) :
    compileLayer layer host = match layer.compile host.target with
      | .ok program => (.ok program, host)
      | .error (.trap cause) => (.error (.trap cause), host)
      | .error (.error cause) => (.error (.error (.compile cause)), host) := by
  obtain ⟨info, asked, reported⟩ : ∃ info, hardwareInfo host = (.ok info, host) ∧
      .ofProfile info.profile = host.target := ⟨_, rfl, rfl⟩
  unfold compileLayer
  rw [act_bind, asked]
  dsimp only
  rw [reported]
  rcases layer.compile host.target with (cause | cause) | program <;> rfl

def programOverflow (config : Config) (size : Nat) : HostError :=
  .overflow "instruction buffer" (.ofNat (size * 8)) (.ofNat (config.instEntries.toNat * 8))

/-- The ends of a run that could be foreseen to fail. -/
inductive Foreseen (layer : Layer) (host : Host Simulator) : HostError → Host Simulator → Prop where
  | uncompiled {cause : CompileError} : layer.compile host.target = .error (.error cause) →
    Foreseen layer host (.compile cause) host
  | oversized {program : Program} : layer.compile host.target = .ok program →
    host.config.instEntries.toNat < program.size →
    Foreseen layer host (programOverflow host.config program.size)
      ((host.described layer).noted (programOverflow host.config program.size))

theorem wlp_ensureLoadable {α : Type} {operation : String} {next : Unit → HostM Simulator α}
    {value : α → Host Simulator → Prop} {report : HostError → Host Simulator → Prop}
    (go : wlp (next ()) value report host)
    (stop : ∀ cause, host.state.refusal? operation = some cause → report cause host) :
    wlp (ensureLoadable operation >>= next) value report host := by
  unfold wlp at go ⊢
  rw [ensureLoadable_bind]
  cases refusal : host.state.refusal? operation with
  | none => exact go
  | some cause => exact stop cause refusal

theorem refusal_unforeseeable {operation : String} {s : RunState} {cause : HostError}
    (refusal : s.refusal? operation = some cause) : cause.isForeseeable = false := by
  cases s <;> cases refusal <;> rfl

theorem wlp_store_unforeseeable (addr : UInt32) (data : ByteArray) (link : Link Simulator) :
    wlp (Link.store addr data) (fun _ _ => True) (fun cause _ => cause.isForeseeable = false) link := by
  unfold wlp Link.store
  simp only [Bus.store]
  cases link.bus.memory.store? addr data with
  | none => rfl
  | some memory => trivial

/-- Loading foresees one failure, and notes it before it does anything. -/
theorem wlp_loadInstructions_foreseeable (instructions : Array Instruction) (host : Host Simulator) :
    wlp (loadInstructions instructions) (fun _ _ => True) (fun cause after =>
      cause.isForeseeable = true → host.config.instEntries.toNat < instructions.size ∧
        cause = programOverflow host.config instructions.size ∧ after = host.noted cause) host := by
  refine wlp_ensureLoadable (wlp_guard (fun _ => nofun) fun _ => ?_) fun cause refusal foreseeable => ?_
  · rw [wlp_bind, wlp_getConfig]
    refine wlp_guard (fun long _ => ⟨long, rfl, rfl⟩) fun _ => ?_
    rw [wlp_bind, wlp_onLink]
    refine (wlp_store_unforeseeable _ _ host.link).imp (fun _ _ _ => ?_) fun cause _ plain foreseeable => ?_
    · rcases Program.firstLoop instructions with ⟨loopStart, loopCount⟩
      trivial
    · simp [plain] at foreseeable
  · simp [refusal_unforeseeable refusal] at foreseeable

/-- A run that fails foreseeably has not compiled, or has described a layer that it cannot load. -/
theorem wlp_compileAndRun_foreseen (layer : Layer) (host : Host Simulator) :
    wlp (compileAndRun layer) (fun _ _ => True) (fun cause after =>
      cause.isForeseeable = true → Foreseen layer host cause after) host := by
  refine wlp_ensureLoadable ?_ fun cause refusal foreseeable => ?_
  · rw [wlp_bind]
    unfold wlp
    rw [compileLayer_run]
    rcases compiled : layer.compile host.target with (cause | cause) | program
    · trivial
    · exact fun _ => .uncompiled compiled
    · show wlp (configureLayer layer >>= _) _ _ host
      rw [wlp_bind]
      unfold wlp
      rw [configureLayer_eq]
      show wlp (loadInstructions program.instructions >>= _) _ _ (host.described layer)
      rw [wlp_bind]
      refine ((wlp_loadInstructions_foreseeable _ _).and (loads_loadInstructions _ _)).imp
        (fun _ loaded known => ?_) fun cause after known foreseeable => ?_
      · -- From here on only the core and the clock can end the run.
        have loading : loaded.state = .loading := known.2.2
        rw [wlp_bind]
        refine (wlp_start loaded).imp (fun _ started running => ?_) fun _ _ refused => ?_
        · rw [wlp_bind, wlp_getConfig, wlp_bind]
          refine (wlp_wait _ started).imp (fun _ _ _ => trivial) fun cause _ ended foreseeable => ?_
          rcases ended with ⟨off, _⟩ | ⟨_, ⟨⟨code, rfl⟩, _⟩ | ⟨rfl, _⟩⟩
          · rw [running.2] at off
            cases off
          · cases foreseeable
          · cases foreseeable
        · rw [loading] at refused
          cases refused.1
      · obtain ⟨long, rfl, rfl⟩ := known.1 foreseeable
        exact .oversized compiled long
  · simp [refusal_unforeseeable refusal] at foreseeable

end Host

/-- A run that could be foreseen to fail has written no register exactly if the program has room. Then
the layer does not compile, and the host is as it was. Otherwise the layer stands in the registers. -/
theorem compileAndRun_unwritten_iff {host after : Host Simulator} {layer : Layer} {cause : HostError}
    (step : (Operation.compileAndRun layer).Step host (.error cause) after)
    (foreseeable : cause.isForeseeable = true) :
    (after.link.bus.log = host.link.bus.log ↔
      ∀ program, layer.compile host.target = .ok program →
        program.size ≤ host.config.instEntries.toNat) ∧
    (∀ reason, cause = .compile reason → after = host) ∧
    (∀ what requested capacity, cause = .overflow what requested capacity →
      after.link.bus.log.toList = host.link.bus.log.toList ++ layer.description) := by
  have performed : wlp (Operation.compileAndRun layer).perform (fun _ _ => True)
      (fun cause after => cause.isForeseeable = true → Host.Foreseen layer host cause after) host := by
    show wlp (Reply.counters <$> Host.compileAndRun layer) _ _ host
    rw [wlp_map]
    exact Host.wlp_compileAndRun_foreseen layer host
  cases step.of_wlp performed foreseeable with
  | uncompiled failed =>
    refine ⟨⟨fun _ program compiled => ?_, fun _ => rfl⟩, fun _ _ => rfl, nofun⟩
    rw [failed] at compiled
    cases compiled
  | oversized compiled long =>
    have log := host.link.bus.log_writeAll layer.description_plain
    refine ⟨⟨fun same => ?_, fun fits => ?_⟩, nofun, fun _ _ _ _ => log⟩
    · have unwritten : (host.link.bus.writeAll layer.description).log = host.link.bus.log := same
      rw [unwritten, List.self_eq_append_right] at log
      simp [Layer.description] at log
    · exact absurd (fits _ compiled) (Nat.not_le.mpr long)

section Example

/-- The buffers of the small core, of which the host uses only four instructions. -/
def crampedConfig : Config := { Config.ofProfile smallProfile with instEntries := 4 }

def crampedHost : Host Simulator := ((Operation.init crampedConfig).perform (.ofBus smallCore)).2

theorem crampedHost_reachable :
    Reachable (fun sim => Simulator.ofProfile smallProfile = .ok sim) (fun _ _ => False) crampedHost := by
  have initialised : (Operation.init crampedConfig).Step (.ofBus smallCore) (.ok .finished)
      crampedHost := .of_value rfl
  exact .step (.start rfl) initialised

theorem crampedHost_overflows : (Operation.compileAndRun Lowering.partialTiles).Step crampedHost
    (.error (Host.programOverflow crampedConfig 17))
    ((Operation.compileAndRun Lowering.partialTiles).perform crampedHost).2 :=
  .of_report rfl

/-- The layer stands in the registers of a core that has no room for its program. A layer that is not
supported leaves no trace. -/
theorem crampedHost_described :
    (∃ cause after, (Operation.compileAndRun Lowering.partialTiles).Step crampedHost (.error cause) after ∧
      after.link.bus.log.toList =
        crampedHost.link.bus.log.toList ++ Lowering.partialTiles.description) ∧
    ∃ cause after, (Operation.compileAndRun { Lowering.partialTiles with kind := .softmax }).Step
      crampedHost (.error cause) after ∧ after.link.bus.log = crampedHost.link.bus.log := by
  have refused : (Operation.compileAndRun { Lowering.partialTiles with kind := .softmax }).Step
      crampedHost (.error (.compile (.unsupportedLayer "Softmax"))) _ := .of_report rfl
  have written := (compileAndRun_unwritten_iff crampedHost_overflows rfl).2.2
  have unwritten := (compileAndRun_unwritten_iff refused rfl).2.1
  exact ⟨⟨_, _, crampedHost_overflows, written _ _ _ rfl⟩, _, _, refused, by rw [unwritten _ rfl]⟩

/-- A program that does not fit is refused when the layer has been written to the registers. -/
theorem oversized_layer_written :
    ¬∀ (host after : Host Simulator) (layer : Layer) (cause : HostError),
      Reachable (fun sim => Simulator.ofProfile smallProfile = .ok sim) (fun _ _ => False) host →
      host.config.isUsable = true → (Operation.compileAndRun layer).Step host (.error cause) after →
      cause.isForeseeable = true → after.link.bus.log = host.link.bus.log := by
  intro unwritten
  have grown : ((Operation.compileAndRun Lowering.partialTiles).perform crampedHost).2.link.bus.log.size =
      crampedHost.link.bus.log.size + 13 := by
    decide +kernel
  rw [unwritten crampedHost _ _ _ crampedHost_reachable rfl crampedHost_overflows rfl] at grown
  omega

end Example

end NpuStack
