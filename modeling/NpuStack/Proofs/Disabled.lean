import NpuStack.Proofs.Agreement
import NpuStack.Proofs.Conservation

/-! Disabled counters. A host that is initialised without counters leaves them
off and at zero through every program, sleep and abort. A reset or a wake-up does
not ask for the configuration, and turns them on. -/

set_option autoImplicit false

namespace NpuStack

namespace Simulator

variable {sim after : Simulator} {reg : Register}

structure Uncounted (sim : Simulator) : Prop where
  disabled : sim.peek .perfCtrl &&& PerfCtrl.enable = 0
  zero : ∀ reg ∈ charged, sim.peek reg = 0

/-- A write to the control register runs the program, or touches no counter at all. -/
theorem write_ctrl_cases (sim : Simulator) (value : UInt32) :
    Frame [.ctrl, .errorCode, .status] sim (sim.write .ctrl value) ∨
    ∃ started, Frame [.ctrl] sim started ∧ sim.write .ctrl value = started.runProgram := by
  let logged : Simulator := { sim with log := sim.log.push (.ctrl, value) }
  have same : Frame [.ctrl] sim logged := ⟨rfl, rfl, rfl, fun _ _ => rfl⟩
  have stored : Frame [.ctrl] sim (logged.poke .ctrl value) := same.poke _ (by decide)
  have wider : Frame [.ctrl, .errorCode, .status] sim (logged.poke .ctrl value) :=
    stored.mono (by decide)
  show Frame _ sim (onCtrl (logged.poke .ctrl value) value) ∨
    ∃ started : Simulator, _ ∧ onCtrl (logged.poke .ctrl value) value = started.runProgram
  unfold onCtrl
  split
  · have settled : Frame [.ctrl, .errorCode, .status] sim
        { logged.poke .ctrl value with pending := 0 } :=
      ⟨wider.profile, wider.base, wider.size, wider.registers⟩
    exact .inl ((settled.poke _ (by decide)).poke _ (by decide))
  · split
    · exact .inr ⟨_, stored.poke _ (by decide), rfl⟩
    · exact .inl wider

namespace Uncounted

theorem of_frame {touched : List Register} (uncounted : Uncounted sim) (frame : Frame touched sim after)
    (apart : ∀ reg ∈ .perfCtrl :: charged, reg ∉ touched) : Uncounted after := by
  obtain ⟨control, counters⟩ := List.forall_mem_cons.mp apart
  refine ⟨?_, fun reg counter => ?_⟩
  · rw [frame.registers _ control]
    exact uncounted.disabled
  · rw [frame.registers _ (counters reg counter)]
    exact uncounted.zero reg counter

/-- Nothing is charged for a program while the counters are off. -/
theorem runProgram (uncounted : Uncounted sim) : Uncounted sim.runProgram := by
  by_cases idle : sim.hang = true ∨ sim.fault.isSome = true
  · exact uncounted.of_frame (frame_runProgram_idle idle) (by decide)
  · obtain ⟨running, sound⟩ : sim.hang = false ∧ sim.fault = none := by simpa using idle
    have free : sim.charge sim.tally = sim := if_neg (by simp [uncounted.disabled])
    have ended : Frame [.instPtr, .status, .irqStatus] sim (sim.finish sim.tally) := by
      rw [finish, free]
      exact (((Frame.refl _ _).poke _ (by decide)).poke _ (by decide)).raiseIrq _ (by decide)
    have shown : Frame [.instPtr, .status, .irqStatus] sim sim.runProgram := by
      rw [runProgram_of_sound running sound]
      generalize sim.finish sim.tally = final at ended
      exact ⟨ended.profile, ended.base, ended.size, ended.registers⟩
    exact uncounted.of_frame shown (by decide)

theorem write (uncounted : Uncounted sim) (outside : reg ∉ .perfCtrl :: counterRegisters)
    (value : UInt32) : Uncounted (sim.write reg value) := by
  by_cases control : reg = .ctrl
  · subst control
    rcases sim.write_ctrl_cases value with frame | ⟨started, frame, run⟩
    · exact uncounted.of_frame frame (by decide)
    · rw [run]
      exact (uncounted.of_frame frame (by decide)).runProgram
  · refine uncounted.of_frame (frame_write sim value control) ?_
    cases reg <;> first | exact absurd (by decide) outside | decide

theorem disable (uncounted : Uncounted sim) : Uncounted (sim.write .perfCtrl 0) := by
  have frame : Frame [.perfCtrl] sim (sim.write .perfCtrl 0) := by
    have logged : Frame [.perfCtrl] sim { sim with log := sim.log.push (.perfCtrl, 0) } :=
      ⟨rfl, rfl, rfl, fun _ _ => rfl⟩
    exact logged.poke 0 (by decide)
  refine ⟨?_, fun reg counter => ?_⟩
  · rw [peek_perfCtrl_write]
    decide
  · have other : reg ∉ [Register.perfCtrl] := by
      intro same
      rw [List.mem_singleton.mp same] at counter
      exact absurd counter (by decide)
    rw [frame.registers reg other]
    exact uncounted.zero reg counter

theorem fresh {profile : Profile} (built : ofProfile profile = .ok sim) : Uncounted sim := by
  have zero : ∀ reg ∈ .perfCtrl :: charged, sim.peek reg = 0 := by
    intro reg counter
    refine peek_ofProfile built ?_
    revert reg
    decide
  obtain ⟨control, counters⟩ := List.forall_mem_cons.mp zero
  exact ⟨by rw [control]; decide, counters⟩

end Uncounted

theorem stable_uncounted :
    Link.Stable (· ∉ .perfCtrl :: counterRegisters) fun link : Link Simulator => link.bus.Uncounted where
  read link reg uncounted := uncounted.of_frame (frame_read link.bus reg) (by decide)
  write _ _ value outside uncounted := uncounted.write outside value
  store link addr data after stored uncounted := by
    obtain ⟨memory, found, rfl⟩ := exists_memory stored
    exact uncounted.of_frame (frame_store found) (by decide)
  time _ _ uncounted := uncounted

def Counting (sim : Simulator) : Prop := sim.peek .perfCtrl &&& PerfCtrl.enable ≠ 0

theorem counting_write (sim : Simulator) {value : UInt32} (enables : value &&& PerfCtrl.enable ≠ 0) :
    Counting (sim.write .perfCtrl value) := by
  unfold Counting
  rwa [peek_perfCtrl_write]

theorem stable_counting :
    Link.Stable (.perfCtrl ∉ changedBy ·) fun link : Link Simulator => link.bus.Counting :=
  stable_word .perfCtrl (· &&& PerfCtrl.enable ≠ 0) fun sim reg value apart held => by
    rwa [(frame_changedBy sim reg value).registers .perfCtrl apart]

end Simulator

namespace Host

def Uncounted (host : Host Simulator) : Prop := host.link.bus.Uncounted

def Counting (host : Host Simulator) : Prop := host.link.bus.Counting

theorem Counting.not_uncounted {host : Host Simulator} (counting : host.Counting) : ¬host.Uncounted :=
  fun uncounted => counting uncounted.disabled

theorem stable_uncounted (scope : Scope) :
    Stable (· ∉ .perfCtrl :: Simulator.counterRegisters) scope Uncounted where
  link _ := Simulator.stable_uncounted
  memory _ _ _ _ _ _ held := held

theorem stable_counting (scope : Scope) :
    Stable (.perfCtrl ∉ Simulator.changedBy ·) scope Counting where
  link _ := Simulator.stable_counting
  memory _ _ _ _ _ _ held := held

theorem preserves_uncounted_sleep : Preserves Uncounted sleep := by
  have stable := stable_uncounted .notes
  have off : Preserves Uncounted (write .perfCtrl 0) := fun _ uncounted =>
    Simulator.Uncounted.disable uncounted
  exact .bind (stable.preserves_clearBits (by decide) _) fun _ => .bind off fun _ =>
    stable.preserves_write (by decide) _

/-- Whatever a wake-up answers, it has turned the counters on before it waits. -/
theorem wlp_wake_counting (host : Host Simulator) :
    wlp wake (fun _ => Counting) (fun _ => Counting) host := by
  have stable := stable_counting .notes
  have rest : Preserves Counting (do
      if (← getConfig).irq ∧ (← getContext).state ≠ .reset then write .irqEn Irq.served
      waitIdle idleTimeout) :=
    .bind preserves_getConfig fun _ => .bind preserves_getContext fun _ =>
      .guard (stable.preserves_write (by decide) _) fun _ => preserves_waitIdle stable.link _
  unfold wake
  rw [wlp_bind]
  show wlp (write .perfCtrl PerfCtrl.enable >>= _) _ _ _
  rw [wlp_bind]
  exact rest _ (Simulator.counting_write _ (by decide))

theorem wlp_resetCounters_counting (host : Host Simulator) :
    wlp resetCounters (fun _ => Counting) (fun _ => Counting) host := by
  have enable (link : Link Simulator) : wlp (Link.write .perfCtrl PerfCtrl.enable)
      (fun _ link => link.bus.Counting) (fun _ link => link.bus.Counting) link :=
    Simulator.counting_write _ (by decide)
  have hardware : wlp (onLink Counters.resetHardware) (fun _ => Counting) (fun _ => Counting) host := by
    rw [wlp_onLink]
    exact (silent_writeLink _ _).goes_on fun _ _ => (silent_delayLink _).goes_on fun _ => enable
  unfold resetCounters
  rw [wlp_bind]
  exact hardware.imp (fun _ _ counting => counting) fun _ _ counting => counting

theorem wlp_reset_counting (host : Host Simulator) :
    wlp reset (fun _ => Counting) (fun _ => Counting) host := by
  refine (silent_setBits _ _).goes_on fun _ _ => (silent_delay _).goes_on fun _ _ =>
    (silent_write _ _).goes_on fun _ _ => (silent_write _ _).goes_on fun _ _ =>
    silent_programBuffers.goes_on fun _ after => ?_
  rw [wlp_bind]
  exact (wlp_resetCounters_counting after).imp (fun _ _ counting => counting) fun _ _ counting => counting

/-- A host that is initialised turns the counters on if it is told to. -/
theorem wlp_init_counting {config : Config} {host : Host Simulator} (uncounted : host.Uncounted) :
    wlp (init config) (fun _ after => if config.perf then after.Counting else after.Uncounted)
      (fun _ => Uncounted) host := by
  have stable := stable_uncounted .whole
  have buffers : Preserves Uncounted programBuffers := stable.preserves_programBuffers (by decide)
  unfold init
  rw [wlp_bind, wlp_getContext]
  refine wlp_guard (fun _ => uncounted) fun _ => wlp_guard (fun _ => uncounted) fun _ => ?_
  let placed : Host Simulator := { host with
    config, context := { state := .init }, engine := { interval := config.pollInterval } }
  have same : placed.Uncounted := uncounted
  rw [wlp_bind]
  show wlp (programBuffers >>= _) _ _ placed
  rw [wlp_bind]
  refine (silent_programBuffers.wlp_of_preserves buffers same).imp (fun _ after still => ?_)
    fun _ _ no => no.elim
  cases config.perf with
  | true => exact Simulator.counting_write _ (by decide)
  | false => exact still

/-- A boot turns the counters on, or fails before it gets there. -/
theorem turns_boot_counting : Turns Uncounted Counting boot := by
  have stable := stable_uncounted .notes
  refine stable.turns_boot (stable_counting .notes) (by decide) (by decide) silent_selfTest ?_
  exact .bind (stable.preserves_writeAll _ (by decide)) fun _ _ _ => Simulator.counting_write _ (by decide)

end Host

namespace Operation

/-- Operations that turn the counters on. Of these only the initialisation asks for the
configuration. -/
def Enables (op : Operation) (answer : Except HostError Reply) : Prop :=
  match op with
  | .reset | .wake | .resetCounters => True
  | .boot => answer.isOk = true
  | .init config => config.perf = true ∧ answer.isOk = true
  | _ => False

variable {op : Operation} {before after : Host Simulator} {answer : Except HostError Reply}

/-- An action that leaves the counters on, whether it gives a value or reports an error. -/
theorem Step.counting {α : Type} {action : HostM Simulator α} {wrap : α → Reply}
    (step : op.Step before answer after) (performs : op.perform = wrap <$> action)
    (known : wlp action (fun _ => Host.Counting) (fun _ => Host.Counting) before) : ¬after.Uncounted := by
  have counting := step.of_outcome performs known
  cases answer <;> exact Host.Counting.not_uncounted counting

/-- Operations that leave the control of the counters alone. -/
theorem uncounted_of_apart (uncounted : before.Uncounted) (step : op.Step before answer after)
    (apart : ∀ reg ∈ op.registers, reg ∉ .perfCtrl :: Simulator.counterRegisters) : after.Uncounted :=
  step.preserves ((Host.stable_uncounted op.scope.opened).mono apart).guarded uncounted

theorem uncounted_init {config : Config} (uncounted : before.Uncounted)
    (step : (init config).Step before answer after) :
    after.Uncounted ↔ ¬(init config).Enables answer := by
  have ended := step.of_outcome rfl (Host.wlp_init_counting uncounted)
  cases answer with
  | error cause => simpa [Enables, Except.isOk, Except.toBool] using ended
  | ok reply =>
    cases on : config.perf with
    | false => simpa [Enables, on] using ended
    | true =>
      have counting : after.Counting := by simpa [on] using ended
      simpa [Enables, on, Except.isOk, Except.toBool] using counting.not_uncounted

theorem uncounted_boot (uncounted : before.Uncounted) (step : boot.Step before answer after) :
    after.Uncounted ↔ ¬boot.Enables answer := by
  have ended := step.of_outcome rfl (Host.turns_boot_counting before uncounted)
  cases answer with
  | error cause => simpa [Enables, Except.isOk, Except.toBool] using ended
  | ok reply =>
    simpa [Enables, Except.isOk, Except.toBool] using Host.Counting.not_uncounted ended

theorem uncounted_step_iff (uncounted : before.Uncounted) (step : op.Step before answer after) :
    after.Uncounted ↔ ¬op.Enables answer := by
  cases op with
  | init config => exact uncounted_init uncounted step
  | boot => exact uncounted_boot uncounted step
  | sleep =>
    have still := step.of_preserves (Host.preserves_uncounted_sleep.map _) uncounted
    simp [Enables, still]
  | wake =>
    have counting := step.counting rfl (Host.wlp_wake_counting before)
    simp [Enables, counting]
  | reset =>
    have counting := step.counting rfl (Host.wlp_reset_counting before)
    simp [Enables, counting]
  | resetCounters =>
    have counting := step.counting rfl (Host.wlp_resetCounters_counting before)
    simp [Enables, counting]
  | _ =>
    have still := uncounted_of_apart uncounted step (by dsimp only [registers]; decide)
    simp [Enables, still]

end Operation

def Happening.Enables : Happening → Prop
  | .call op answer => op.Enables answer
  | _ => False

theorem Signal.uncounted_act (signal : Signal) {sim : Simulator} (uncounted : sim.Uncounted) :
    (signal.act sim).Uncounted := by
  cases signal with
  | program => exact uncounted.runProgram
  | transfer => exact uncounted.of_frame (Simulator.frame_runTransfer sim) (by decide)
  | interrupt bits =>
    have raised := (Simulator.Frame.refl [.irqStatus] sim).raiseIrq bits (by decide)
    exact uncounted.of_frame raised (by decide)
  | script => exact ⟨uncounted.disabled, uncounted.zero⟩

theorem Happens.uncounted_iff {before after : Host Simulator} {happening : Happening}
    (happens : Happens before happening after) (uncounted : before.Uncounted) :
    after.Uncounted ↔ ¬happening.Enables := by
  cases happening with
  | signal signal =>
    obtain ⟨clock, rfl⟩ := happens
    have still : Host.Uncounted { before with link := ⟨signal.act before.link.bus, clock⟩ } :=
      signal.uncounted_act uncounted
    simp [Happening.Enables, still]
  | look =>
    cases happens
    have still : Host.Uncounted { before with
        link := ⟨(before.link.bus.read .status).2, before.link.clock⟩ } :=
      Simulator.stable_uncounted.read before.link .status uncounted
    simp [Happening.Enables, still]
  | call op answer => exact Operation.uncounted_step_iff uncounted happens

/-- A host that is initialised without counters has none, and keeps them off and at zero exactly as
long as nothing turns them on. Apart from a boot, a reset of the counters and another initialisation,
a reset and a wake-up do that too, whatever the host was told. -/
theorem uncounted_until_enabled {profile : Profile} {sim : Simulator} {clock : Clock} {config : Config}
    {answer : Except HostError Reply} {first after : Host Simulator} {passages : List Passage}
    (built : Simulator.ofProfile profile = .ok sim) (off : config.perf = false)
    (begun : (Operation.init config).Step { link := ⟨sim, clock⟩ } answer first)
    (history : History first passages after) :
    first.Uncounted ∧
    ((∀ passage ∈ passages, passage.after.Uncounted) ↔
      ∀ passage ∈ passages, ¬passage.happening.Enables) := by
  have fresh : Host.Uncounted { link := ⟨sim, clock⟩ } := .fresh built
  have started : first.Uncounted :=
    (Operation.uncounted_step_iff fresh begun).mpr fun enables => by simp [Operation.Enables, off] at enables
  exact ⟨started, history.stays_iff (fun _ => Happens.uncounted_iff) started⟩

section Example

def mutedConfig : Config := { Config.reference with perf := false }

def mutedHost : Host Simulator := ((Operation.init mutedConfig).perform (.ofBus referenceCore)).2

def mutedHaltHost : Host Simulator := ((Operation.loadInstructions #[.halt]).perform mutedHost).2

theorem mutedHaltHost_loaded :
    (∃ answer, (Operation.init mutedConfig).Step (.ofBus referenceCore) answer mutedHost) ∧
    ∃ answer, (Operation.loadInstructions #[.halt]).Step mutedHost answer mutedHaltHost := by
  have back : Operation.comesBack
        ((Operation.init mutedConfig).perform (.ofBus referenceCore)).1 = true ∧
      Operation.comesBack ((Operation.loadInstructions #[.halt]).perform mutedHost).1 = true := by
    decide +kernel
  exact ⟨Operation.exists_step _ _ back.1, Operation.exists_step _ _ back.2⟩

/-- A program is run and the core put to sleep, with the counters off all the time. -/
theorem muted_halt_uncounted :
    ∃ passages after, History mutedHost passages after ∧ passages.length = 4 ∧ mutedHost.Uncounted ∧
      ∀ passage ∈ passages, passage.after.Uncounted := by
  let started := (Operation.start.perform mutedHaltHost).2
  let finished := ((Operation.wait 1000).perform started).2
  let asleep := (Operation.sleep.perform finished).2
  have back : Operation.comesBack (Operation.start.perform mutedHaltHost).1 = true ∧
      Operation.comesBack ((Operation.wait 1000).perform started).1 = true ∧
      Operation.comesBack (Operation.sleep.perform finished).1 = true := by
    decide +kernel
  obtain ⟨⟨_, initialised⟩, ⟨_, loaded⟩⟩ := mutedHaltHost_loaded
  obtain ⟨_, start⟩ : ∃ answer, Operation.start.Step mutedHaltHost answer started :=
    Operation.exists_step _ _ back.1
  obtain ⟨_, wait⟩ : ∃ answer, (Operation.wait 1000).Step started answer finished :=
    Operation.exists_step _ _ back.2.1
  obtain ⟨_, sleep⟩ : ∃ answer, Operation.sleep.Step finished answer asleep :=
    Operation.exists_step _ _ back.2.2
  clear_value started finished asleep
  have history : History mutedHost _ asleep :=
    .call loaded (.call start (.call wait (.call sleep .nil)))
  have built : Simulator.ofProfile .reference = .ok referenceCore := rfl
  have known := uncounted_until_enabled built rfl initialised history
  have whole := known.2.mpr (by simp [Happening.Enables, Operation.Enables])
  exact ⟨_, _, history, rfl, known.1, whole⟩

/-- The counters of a core that is woken are on, although its host was told to do without them. -/
theorem uncounted_not_kept :
    ¬∀ (first after : Host Simulator) (answer : Except HostError Reply) (passages : List Passage),
      (Operation.init mutedConfig).Step (.ofBus referenceCore) answer first →
      History first passages after →
      (∀ passage ∈ passages, ∀ op answer, passage.happening = .call op answer →
        op ≠ .boot ∧ op ≠ .resetCounters ∧ ∀ config, op ≠ .init config) →
      after.Uncounted := by
  intro kept
  let awake := (Operation.wake.perform mutedHaltHost).2
  have run : Operation.comesBack (Operation.wake.perform mutedHaltHost).1 = true ∧
      awake.link.bus.peek .perfCtrl &&& PerfCtrl.enable ≠ 0 := by
    decide +kernel
  obtain ⟨⟨_, initialised⟩, ⟨_, loaded⟩⟩ := mutedHaltHost_loaded
  obtain ⟨_, wake⟩ : ∃ answer, Operation.wake.Step mutedHaltHost answer awake :=
    Operation.exists_step _ _ run.1
  have history : History mutedHost _ awake := .call loaded (.call wake .nil)
  have uncounted := kept _ _ _ _ initialised history (by simp)
  exact run.2 uncounted.disabled

end Example

end NpuStack
