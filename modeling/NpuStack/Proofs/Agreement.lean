import NpuStack.Proofs.Host.Fault
import NpuStack.Proofs.Simulator.History
import NpuStack.Proofs.Simulator.Run

/-! Host and core on the size of the loaded program: the count in the context and
the size register. Loads and discards write both. Three operations clear only
one of them, and these alone can set host and core at odds. -/

set_option autoImplicit false

namespace NpuStack

theorem Tally.retired_run_le (window : Window) (count index : Nat) (tally : Tally) :
    (Tally.run window count index tally).retired ≤ tally.retired + count := by
  induction count generalizing index tally with
  | zero => exact Nat.le_refl _
  | succ count ih =>
    unfold run
    split
    · omega
    · dsimp only
      split
      · simp [retire]
      · have rest := ih (index + 1) (tally.retire (opcodeAt window index))
        simp only [retire] at rest ⊢
        omega

namespace Simulator

variable {sim : Simulator}

theorem apart_instSize {reg : Register} (other : reg ≠ .instSize) : .instSize ∉ changedBy reg := by
  cases reg <;> first | exact absurd rfl other | decide

theorem read_write_plain {reg : Register} (plain : isPlain reg = true) (other : reg ≠ .irqStatus)
    (sim : Simulator) (value : UInt32) : ((sim.write reg value).read reg).1 = value := by
  cases reg with
  | version | config | status | dmaStatus | ctrl | dmaCtrl | perfCtrl => cases plain
  | irqStatus => exact absurd rfl other
  | _ => exact peek_poke_same _ _ _

/-- A core at the start of its program goes no further than the announced size. -/
theorem instPtr_runProgram (rewound : sim.peek .instPtr = 0) :
    sim.runProgram.peek .instPtr ≤ sim.peek .instSize := by
  have stays {after : Simulator} (same : after.peek .instPtr = sim.peek .instPtr) :
      after.peek .instPtr ≤ sim.peek .instSize := by
    rw [same, rewound]
    exact UInt32.zero_le
  cases hang : sim.hang with
  | true =>
    rw [runProgram, if_pos hang]
    exact stays (peek_poke_of_ne _ _ (by decide))
  | false =>
    cases fault : sim.fault with
    | some code =>
      rw [runProgram, if_neg (by simp [hang]), fault]
      refine stays ?_
      show (poke (poke (poke _ _ _) _ _) _ _).peek .instPtr = _
      rw [peek_poke_of_ne _ _ (by decide), peek_poke_of_ne _ _ (by decide),
        peek_poke_of_ne _ _ (by decide)]
      rfl
    | none =>
      have retired : sim.tally.retired ≤ (sim.peek .instSize).toNat := by
        simpa [tally] using
          Tally.retired_run_le sim.memory.instructions (sim.peek .instSize).toNat 0 {}
      have small : (sim.peek .instSize).toNat < UInt32.size := UInt32.toNat_lt _
      rw [peek_runProgram_of_sound hang fault, instPtr_finish sim (by omega), UInt32.le_iff_toNat_le,
        UInt32.toNat_ofNat_of_lt' (by omega)]
      exact retired

theorem instPtr_onCtrl (rewound : sim.peek .instPtr = 0) (value : UInt32) :
    (sim.onCtrl value).peek .instPtr ≤ sim.peek .instSize := by
  unfold onCtrl
  split
  · dsimp only
    rw [peek_poke_of_ne _ _ (by decide), peek_poke_of_ne _ _ (by decide)]
    show sim.peek .instPtr ≤ _
    rw [rewound]
    exact UInt32.zero_le
  · split
    · rw [← peek_poke_of_ne sim (value &&& ~~~Ctrl.start) (show .ctrl ≠ .instSize by decide)]
      exact instPtr_runProgram ((peek_poke_of_ne _ _ (by decide)).trans rewound)
    · rw [rewound]
      exact UInt32.zero_le

theorem instPtr_launched (sim : Simulator) : sim.launched.peek .instPtr ≤ sim.peek .instSize := by
  let value := sim.rewound.peek .ctrl ||| Ctrl.start
  let logged : Simulator := { sim.rewound with log := sim.rewound.log.push (.ctrl, value) }
  let stored := logged.poke .ctrl value
  have rewound : Frame [.instPtr, .irqStatus, .ctrl] sim sim.rewound :=
    ((Written.refl _ sim).rewound (by decide)).frame
  have same : Frame [.ctrl] sim.rewound logged := ⟨rfl, rfl, rfl, fun _ _ => rfl⟩
  have raised : Frame [.ctrl] sim.rewound stored := same.poke value (by decide)
  have first : stored.peek .instPtr = 0 := by
    rw [raised.registers .instPtr (by decide)]
    exact (peek_poke_of_ne _ _ (by decide)).trans (peek_poke_same _ _ _)
  rw [← rewound.registers .instSize (by decide), ← raised.registers .instSize (by decide)]
  exact instPtr_onCtrl first value

end Simulator

namespace Host

/-- The host counts as many instructions as the core has been told of. -/
def Agrees (host : Host Simulator) : Prop := host.link.bus.peek .instSize = host.context.instCount

theorem stable_size (word : UInt32) (scope : Scope) :
    Stable (· ≠ .instSize) scope fun host : Host Simulator => host.link.bus.peek .instSize = word where
  link _ := (Simulator.stable_peek .instSize word).mono fun _ other => Simulator.apart_instSize other
  memory _ _ _ _ _ _ held := held

theorem stable_agrees : Stable (· ≠ .instSize) .progress Agrees where
  link host := (stable_size host.context.instCount .progress).link host
  memory _ _ _ _ _ same held := held.trans same.extent.1.symm

theorem stable_count (count : UInt32) :
    Stable (fun _ => True) .progress fun host : Host Simulator => host.context.instCount = count where
  link _ := ⟨fun _ _ held => held, fun _ _ _ _ held => held, fun _ _ _ _ _ held => held,
    fun _ _ held => held⟩
  memory _ _ _ _ _ same held := same.extent.1.trans held

section Loading

theorem preserves_agrees_loadInstructions (instructions : Array Instruction) :
    Preserves Agrees (loadInstructions instructions) := by
  refine .bind (preserves_ensureLoadable _) fun _ => .guard (preserves_raise _) fun _ =>
    .bind preserves_getConfig fun config => .guard (stable_agrees.preserves_fail _) fun _ =>
    .bind (preserves_onLink fun host => (stable_agrees.link host).preserves_store _ _) fun _ => ?_
  -- The register and the count are written one after the other, with nothing in between to fail.
  intro host _
  show ((host.link.bus.write .instSize _).write .instPtr 0).peek .instSize = UInt32.ofNat instructions.size
  exact (Simulator.peek_poke_of_ne _ _ (by decide)).trans (Simulator.peek_poke_same _ _ _)

theorem preserves_agrees_loadWeights (data : ByteArray) (offset : UInt32) :
    Preserves Agrees (loadWeights data offset) :=
  preserves_loadWeights stable_agrees nofun (by decide) (stable_agrees.preserves_transfer
    (stable_agrees.preserves_startTransfer rfl (by decide))) data offset

theorem preserves_agrees_loadModel (data : ByteArray) : Preserves Agrees (loadModel data) := by
  have discard : Preserves Agrees discardProgram := by
    intro host _
    show ((host.link.bus.write .instSize 0).write .weightSize 0).peek .instSize = 0
    exact (Simulator.peek_poke_of_ne _ _ (by decide)).trans (Simulator.peek_poke_same _ _ _)
  exact preserves_loadModel_of_copy stable_agrees (preserves_copyImage preserves_agrees_loadInstructions
    preserves_agrees_loadWeights) discard (fun _ _ agrees => agrees) data

theorem preserves_agrees_compileAndRun (layer : Layer) : Preserves Agrees (compileAndRun layer) :=
  have guarded : Guarded (· ≠ .instSize) .progress Agrees fun _ => Agrees := stable_agrees.guarded
  .bind (preserves_ensureLoadable _) fun _ =>
    .bind (stable_agrees.preserves_compileLayer layer) fun _ =>
    .bind (stable_agrees.preserves_configureLayer (by decide) layer) fun _ =>
    .bind (preserves_agrees_loadInstructions _) fun _ =>
    .bind (preserves_start guarded nofun (by decide)) fun _ =>
    .bind preserves_getConfig fun _ => .bind (preserves_wait stable_agrees nofun _) fun _ =>
    .bind (fun _ agrees => agrees) fun _ => .bind preserves_getContext fun _ => .pure _

end Loading

section Clearing

/-- The context starts afresh; the core is told nothing of it. -/
theorem wlp_init_count (config : Config) (host : Host Simulator) :
    wlp (init config) (fun _ after => after.context.instCount = 0)
      (fun _ after => after.context.instCount = host.context.instCount) host := by
  unfold init
  rw [wlp_bind, wlp_getContext]
  refine wlp_guard (fun _ => rfl) fun _ => wlp_guard (fun _ => rfl) fun _ => ?_
  rw [wlp_bind]
  show wlp (programBuffers >>= _) _ _ { host with
    config, context := { state := .init }, engine := { interval := config.pollInterval } }
  rw [wlp_bind]
  have buffers := (stable_count 0).preserves_programBuffers fun _ _ => trivial
  refine (silent_programBuffers.wlp_of_preserves buffers rfl).imp (fun _ after none => ?_)
    fun _ _ no => no.elim
  exact wlp_guard (fun _ => none) fun _ => none

theorem wlp_deinit_count (host : Host Simulator) :
    wlp deinit
      (fun _ after => after.context.instCount =
        if host.state.isInitialized then 0 else host.context.instCount)
      (fun _ _ => False) host := by
  unfold deinit
  rw [wlp_bind, wlp_getContext]
  split
  · rw [wlp_bind, wlp_attempt]
    exact (wlp_stop host).imp (fun _ _ _ => rfl) fun _ _ _ => rfl
  · rfl

end Clearing

section Boot

variable {β : Type} [Bus β]

theorem silent_writeAll (entries : List (Register × UInt32)) :
    Silent (writeAll entries : HostM β Unit) := by
  induction entries with
  | nil => exact fun _ => trivial
  | cons entry entries ih => exact .bind (silent_write _ _) fun _ => ih

theorem silent_readAll (registers : List Register) :
    Silent (readAll registers : HostM β (List (Register × UInt32))) := by
  induction registers with
  | nil => exact fun _ => trivial
  | cons reg registers ih =>
    exact .bind (fun _ => trivial) fun _ => .bind ih fun _ _ => trivial

theorem silent_clearAccumulators : Silent (clearAccumulators : HostM β Unit) :=
  .bind (fun _ => trivial) fun _ => .bind (fun _ => trivial) fun _ _ => trivial

/-- Registers that are only stored give back what was written. -/
theorem wlp_firstMismatch (patterns : List (Register × UInt32))
    (plain : ∀ entry ∈ patterns, Simulator.isPlain entry.1 = true ∧ entry.1 ≠ .irqStatus)
    (host : Host Simulator) :
    wlp (firstMismatch patterns) (fun failed _ => failed = none) (fun _ _ => False) host := by
  induction patterns generalizing host with
  | nil => rfl
  | cons entry patterns ih =>
    rw [List.forall_mem_cons] at plain
    let written : Host Simulator :=
      { host with link := ⟨host.link.bus.write entry.1 entry.2, host.link.clock⟩ }
    have echo : wlp (read entry.1) (fun value _ => value = entry.2) (fun _ _ => False) written :=
      Simulator.read_write_plain plain.1.1 plain.1.2 host.link.bus entry.2
    unfold firstMismatch
    rw [wlp_bind]
    show wlp (read entry.1 >>= _) _ _ written
    rw [wlp_bind]
    refine echo.imp (fun value after same => ?_) fun _ _ no => no
    rw [if_neg (not_not_intro same)]
    exact ih plain.2 after

/-- The self-test finds nothing wrong with the simulated core. -/
theorem silent_selfTest : Silent (selfTest : HostM Simulator Unit) := by
  have plain : ∀ entry ∈ testPatterns, Simulator.isPlain entry.1 = true ∧ entry.1 ≠ .irqStatus := by
    decide
  refine .bind (silent_readAll _) fun saved host => ?_
  rw [wlp_bind]
  refine (wlp_firstMismatch testPatterns plain host).imp (fun failed after passed => ?_)
    fun _ _ no => no
  have restored : Silent (do
      writeAll saved
      clearAccumulators
      pure () : HostM Simulator Unit) :=
    .bind (silent_writeAll _) fun _ => .bind silent_clearAccumulators fun _ _ => trivial
  subst passed
  exact restored after

/-- A boot leads to what it clears the buffers and the counters to, or fails before it gets there. -/
theorem Stable.turns_boot {kept good : Host β → Prop} {early late : Register → Prop}
    (stable : Stable early .notes kept) (later : Stable late .notes good)
    (first : ∀ reg ∈ bootRegisters, reg ∉ .perfCtrl :: bufferRegisters → early reg)
    (last : ∀ reg ∈ .ctrl :: scratchRegisters, late reg) (passes : Silent (selfTest : HostM β Unit))
    (clears : Turns kept good (do
      writeAll (bufferRegisters.map (·, 0))
      write .perfCtrl PerfCtrl.reset
      delay 1
      write .perfCtrl PerfCtrl.enable)) : Turns kept good boot := by
  have write (reg : Register) (member : reg ∈ bootRegisters) (apart : reg ∉ .perfCtrl :: bufferRegisters)
      (value : UInt32) := stable.preserves_write (first reg member apart) value
  have control : early .ctrl := first _ (by decide) (by decide)
  have transfers : Preserves kept (writeAll (transferRegisters.map (·, 0))) := by
    have listed : ∀ reg ∈ transferRegisters, reg ∈ bootRegisters ∧ reg ∉ .perfCtrl :: bufferRegisters := by
      decide
    apply stable.preserves_writeAll
    rw [List.map_map, Function.comp_def, List.map_id']
    exact fun reg member => first reg (listed reg member).1 (listed reg member).2
  obtain ⟨again, scratch⟩ := List.forall_mem_cons.mp last
  unfold boot
  refine .bind (stable.preserves_setBits control _) fun _ => .bind (stable.preserves_delay _) fun _ =>
    .bind (stable.preserves_clearBits control _) fun _ => .bind (stable.preserves_delay _) fun _ =>
    .bind (preserves_waitIdle stable.link _) fun _ => .bind stable.preserves_verifyHardware fun info => ?_
  refine .bind (write _ (by decide) (by decide) _) fun _ =>
    .bind (write _ (by decide) (by decide) _) fun _ =>
    .bind (write _ (by decide) (by decide) _) fun _ => .bind (stable.preserves_delay _) fun _ =>
    .bind (write _ (by decide) (by decide) _) fun _ => .bind transfers fun _ =>
    .bind (write _ (by decide) (by decide) _) fun _ =>
    .bind (stable.preserves_clearAccumulators (first _ (by decide) (by decide))) fun _ => ?_
  -- From here on nothing is reported.
  have silent : Silent (do
      setBits .ctrl Ctrl.enable
      selfTest
      pure info : HostM β HardwareInfo) :=
    .bind (silent_setBits _ _) fun _ => .bind passes fun _ _ => trivial
  have settled := clears.settle (fun _ => silent) fun _ =>
    .bind (later.preserves_setBits again _) fun _ =>
    .bind (later.preserves_selfTest scratch) fun _ => .pure _
  simpa only [bind_assoc] using settled

/-- Boot clears the size on its way. -/
theorem turns_boot_size (word : UInt32) :
    Turns (fun host : Host Simulator => host.link.bus.peek .instSize = word)
      (fun host => host.link.bus.peek .instSize = 0) boot := by
  have stable := stable_size word .notes
  have cleared := stable_size 0 .notes
  refine stable.turns_boot cleared (by decide) (by decide) silent_selfTest ?_
  have size : Turns (fun host : Host Simulator => host.link.bus.peek .instSize = word)
      (fun host => host.link.bus.peek .instSize = 0) (write .instSize 0) :=
    fun _ _ => Simulator.peek_poke_same _ _ _
  have buffers : Turns (fun host : Host Simulator => host.link.bus.peek .instSize = word)
      (fun host => host.link.bus.peek .instSize = 0) (writeAll (bufferRegisters.map (·, 0))) :=
    .bind (stable.preserves_write (by decide) _) fun _ =>
      size.settle (fun _ => silent_writeAll _) fun _ => cleared.preserves_writeAll _ (by decide)
  refine buffers.settle (fun _ => ?_) fun _ => ?_
  · exact .bind (silent_write _ _) fun _ => .bind (silent_delay _) fun _ => silent_write _ _
  · exact .bind (cleared.preserves_write (by decide) _) fun _ => .bind (cleared.preserves_delay _) fun _ =>
      cleared.preserves_write (by decide) _

end Boot

theorem wlp_start_pointer (host : Host Simulator) :
    wlp start (fun _ after => after.link.bus.peek .instPtr ≤ host.link.bus.peek .instSize)
      (fun _ _ => True) host :=
  wlp_accepted (fun _ => Simulator.instPtr_launched host.link.bus) fun _ _ => trivial

theorem agrees_fresh {profile : Profile} {sim : Simulator} {clock : Clock}
    (built : Simulator.ofProfile profile = .ok sim) : Agrees { link := ⟨sim, clock⟩ } :=
  Simulator.peek_ofProfile built (by decide)

end Host

namespace Operation

/-- Operations that clear the count or the register, and not both, while a program is loaded. -/
def Severs (op : Operation) (answer : Except HostError Reply) (before : Host Simulator) : Prop :=
  before.context.instCount ≠ 0 ∧
  match op with
  | .init _ | .boot => answer.isOk = true
  | .deinit => before.state.isInitialized = true
  | _ => False

variable {op : Operation} {before after : Host Simulator} {answer : Except HostError Reply}

theorem agrees_of_apart (apart : .instSize ∉ op.registers) (narrow : op.extent ≠ .whole) :
    Preserves Host.Agrees op.perform := by
  have within : Host.Stable (· ∈ op.registers) .progress Host.Agrees :=
    Host.stable_agrees.mono fun reg member same => apart (same ▸ member)
  have stable : Host.Stable (· ∈ op.registers) op.scope.opened Host.Agrees := within.narrow narrow
  exact preserves_perform stable.guarded

theorem agrees_of_preserves (agrees : before.Agrees) (step : op.Step before answer after)
    (preserves : Preserves Host.Agrees op.perform) : after.Agrees :=
  step.of_preserves preserves agrees

/-- The core is told nothing by the operation. -/
theorem size_of_apart (agrees : before.Agrees) (apart : .instSize ∉ op.registers)
    (step : op.Step before answer after) :
    after.link.bus.peek .instSize = before.context.instCount := by
  have stable := (Host.stable_size before.context.instCount op.scope.opened).mono
    fun reg (member : reg ∈ op.registers) same => apart (same ▸ member)
  exact step.preserves stable.guarded agrees

theorem agrees_init {config : Config} (agrees : before.Agrees)
    (step : (init config).Step before answer after) :
    after.Agrees ↔ ¬(init config).Severs answer before := by
  have size := size_of_apart agrees (by dsimp only [registers]; decide) step
  have known : wlp (init config).perform (fun _ after => after.context.instCount = 0)
      (fun _ after => after.context.instCount = before.context.instCount) before := by
    rw [perform, wlp_map]
    exact Host.wlp_init_count config before
  have count := step.of_wlp known
  unfold Host.Agrees
  cases answer <;> simp_all [Severs, Except.isOk, Except.toBool]

theorem agrees_deinit (agrees : before.Agrees) (step : deinit.Step before answer after) :
    after.Agrees ↔ ¬deinit.Severs answer before := by
  have size := size_of_apart agrees (by decide) step
  have known : wlp deinit.perform
      (fun _ after => after.context.instCount =
        if before.state.isInitialized then 0 else before.context.instCount)
      (fun _ _ => False) before := by
    rw [perform, wlp_map]
    exact Host.wlp_deinit_count before
  have count := step.of_wlp known
  unfold Host.Agrees
  cases answer with
  | error cause => exact count.elim
  | ok reply =>
    dsimp only at count
    rw [size, count]
    cases on : before.state.isInitialized <;> simp [Severs, on]

theorem agrees_boot (agrees : before.Agrees) (step : boot.Step before answer after) :
    after.Agrees ↔ ¬boot.Severs answer before := by
  have narrow : boot.extent ≠ .whole := by decide
  have stable : Host.Stable (· ∈ boot.registers) boot.scope.opened
      fun host : Host Simulator => host.context.instCount = before.context.instCount :=
    ((Host.stable_count before.context.instCount).mono fun _ _ => trivial).narrow narrow
  have count := step.preserves stable.guarded rfl
  have known : wlp boot.perform (fun _ after => after.link.bus.peek .instSize = 0)
      (fun _ after => after.link.bus.peek .instSize = before.context.instCount) before := by
    rw [perform, wlp_map]
    exact Host.turns_boot_size _ before agrees
  have size := step.of_wlp known
  unfold Host.Agrees
  cases answer with
  | error cause => simp_all [Severs, Except.isOk, Except.toBool]
  | ok reply =>
    dsimp only at size
    rw [size, count]
    simp [Severs, Except.isOk, Except.toBool, eq_comm]

theorem agrees_step_iff (agrees : before.Agrees) (step : op.Step before answer after) :
    after.Agrees ↔ ¬op.Severs answer before := by
  cases op with
  | init config => exact agrees_init agrees step
  | deinit => exact agrees_deinit agrees step
  | boot => exact agrees_boot agrees step
  | loadInstructions instructions =>
    have preserves := (Host.preserves_agrees_loadInstructions instructions).map fun _ => Reply.finished
    simp [Severs, agrees_of_preserves agrees step preserves]
  | loadModel data =>
    have preserves := (Host.preserves_agrees_loadModel data).map Reply.header
    simp [Severs, agrees_of_preserves agrees step preserves]
  | compileAndRun layer =>
    have preserves := (Host.preserves_agrees_compileAndRun layer).map Reply.counters
    simp [Severs, agrees_of_preserves agrees step preserves]
  | _ =>
    have still := agrees_of_preserves agrees step
      (agrees_of_apart (by dsimp only [registers]; decide) (by dsimp only [extent]; decide))
    simp [Severs, still]

end Operation

def Happening.Severs (before : Host Simulator) : Happening → Prop
  | .call op answer => op.Severs answer before
  | _ => False

theorem Signal.size_act (signal : Signal) (sim : Simulator) :
    (signal.act sim).peek .instSize = sim.peek .instSize := by
  cases signal with
  | program => exact (Simulator.frame_runProgram sim).registers .instSize (by decide)
  | transfer => exact (Simulator.frame_runTransfer sim).registers .instSize (by decide)
  | interrupt bits => exact Simulator.peek_poke_of_ne _ _ (by decide)
  | script => rfl

theorem Happens.agrees_iff {before after : Host Simulator} {happening : Happening}
    (happens : Happens before happening after) (agrees : before.Agrees) :
    after.Agrees ↔ ¬happening.Severs before := by
  cases happening with
  | signal signal =>
    obtain ⟨clock, rfl⟩ := happens
    have still : Host.Agrees { before with link := ⟨signal.act before.link.bus, clock⟩ } :=
      (signal.size_act before.link.bus).trans agrees
    simp [Happening.Severs, still]
  | look =>
    cases happens
    have same := (Simulator.frame_read before.link.bus .status).registers .instSize (by decide)
    have still : Host.Agrees { before with
        link := ⟨(before.link.bus.read .status).2, before.link.clock⟩ } := same.trans agrees
    simp [Happening.Severs, still]
  | call op answer => exact Operation.agrees_step_iff agrees happens

/-- Host and core agree along a history exactly as long as nobody clears one side only while a
program is loaded, and till then a start executes no more than what the host has counted. -/
theorem agrees_until_severed {profile : Profile} {sim : Simulator} {clock : Clock}
    {after : Host Simulator} {passages : List Passage} (built : Simulator.ofProfile profile = .ok sim)
    (history : History { link := ⟨sim, clock⟩ } passages after) :
    ((∀ passage ∈ passages, passage.after.Agrees) ↔
      ∀ passage ∈ passages, ¬passage.happening.Severs passage.before) ∧
    ((∀ passage ∈ passages, ¬passage.happening.Severs passage.before) →
      ∀ passage ∈ passages, ∀ reply, passage.happening = .call .start (.ok reply) →
      passage.after.link.bus.peek .instPtr ≤ passage.before.context.instCount) := by
  have fresh : Host.Agrees { link := ⟨sim, clock⟩ } := Host.agrees_fresh built
  have stays := history.stays_iff (fun _ => Happens.agrees_iff) fresh
  refine ⟨stays, fun whole passage member reply called => ?_⟩
  have along := history.kept (fun passage member _ _ => stays.mpr whole passage member) fresh
  have agrees := along.2 passage member
  have step := history.happens passage member
  rw [called] at step
  have known : wlp Operation.start.perform
      (fun _ after => after.link.bus.peek .instPtr ≤ passage.before.link.bus.peek .instSize)
      (fun _ _ => True) passage.before := by
    rw [Operation.perform, wlp_map]
    exact Host.wlp_start_pointer passage.before
  rw [← agrees]
  exact Operation.Step.of_wlp step known

section Example

def referenceHost : Host Simulator :=
  ((Operation.init .reference).perform (.ofBus referenceCore)).2

def haltHost : Host Simulator :=
  ((Operation.loadInstructions #[.halt]).perform referenceHost).2

theorem haltHost_loaded :
    (∃ answer, (Operation.init .reference).Step (.ofBus referenceCore) answer referenceHost) ∧
    ∃ answer, (Operation.loadInstructions #[.halt]).Step referenceHost answer haltHost := by
  have back : Operation.comesBack
        ((Operation.init .reference).perform (.ofBus referenceCore)).1 = true ∧
      Operation.comesBack ((Operation.loadInstructions #[.halt]).perform referenceHost).1 = true := by
    decide +kernel
  exact ⟨Operation.exists_step _ _ back.1, Operation.exists_step _ _ back.2⟩

/-- A program is loaded once and started twice. -/
theorem halt_agrees :
    ∃ passages after, History (.ofBus referenceCore) passages after ∧ passages.length = 5 ∧
      ∀ passage ∈ passages, passage.after.Agrees ∧ ∀ reply,
        passage.happening = .call .start (.ok reply) →
        passage.after.link.bus.peek .instPtr ≤ passage.before.context.instCount := by
  let started := (Operation.start.perform haltHost).2
  let finished := ((Operation.wait 1000).perform started).2
  let again := (Operation.start.perform finished).2
  have back : Operation.comesBack (Operation.start.perform haltHost).1 = true ∧
      Operation.comesBack ((Operation.wait 1000).perform started).1 = true ∧
      Operation.comesBack (Operation.start.perform finished).1 = true := by
    decide +kernel
  obtain ⟨⟨_, initialised⟩, ⟨_, loaded⟩⟩ := haltHost_loaded
  obtain ⟨_, start⟩ : ∃ answer, Operation.start.Step haltHost answer started :=
    Operation.exists_step _ _ back.1
  obtain ⟨_, wait⟩ : ∃ answer, (Operation.wait 1000).Step started answer finished :=
    Operation.exists_step _ _ back.2.1
  obtain ⟨_, restart⟩ : ∃ answer, Operation.start.Step finished answer again :=
    Operation.exists_step _ _ back.2.2
  clear_value started finished again
  have history : History (.ofBus referenceCore) _ again :=
    .call initialised (.call loaded (.call start (.call wait (.call restart .nil))))
  have built : Simulator.ofProfile .reference = .ok referenceCore := rfl
  have known := agrees_until_severed built history
  have whole := known.1.mpr (by simp [Happening.Severs, Operation.Severs, Host.ofBus])
  exact ⟨_, _, history, rfl, fun passage member =>
    ⟨whole passage member, known.2 (known.1.mp whole) passage member⟩⟩

/-- Once the host has been deinitialised, only the core still has a program. -/
theorem agreement_not_kept :
    ¬∀ host : Host Simulator,
      Reachable (fun sim => Simulator.ofProfile .reference = .ok sim) (fun _ _ => False) host →
      host.Agrees := by
  intro kept
  let forgetful := (Operation.deinit.perform haltHost).2
  have run : Operation.comesBack (Operation.deinit.perform haltHost).1 = true ∧
      forgetful.context.instCount = 0 ∧ forgetful.link.bus.peek .instSize = 1 := by
    decide +kernel
  obtain ⟨⟨_, initialised⟩, ⟨_, loaded⟩⟩ := haltHost_loaded
  obtain ⟨_, forgotten⟩ : ∃ answer, Operation.deinit.Step haltHost answer forgetful :=
    Operation.exists_step _ _ run.1
  have agrees := kept forgetful (.step (.step (.step (.start rfl) initialised) loaded) forgotten)
  unfold Host.Agrees at agrees
  rw [run.2.1, run.2.2] at agrees
  exact absurd agrees (by decide)

end Example

end NpuStack
