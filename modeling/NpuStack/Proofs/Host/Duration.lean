import Mathlib.Algebra.Order.Ring.Nat
import NpuStack.Device.Scripted
import NpuStack.Proofs.Host.Operation
import NpuStack.Proofs.Host.Timing
import NpuStack.Proofs.Lowering.Traps
import NpuStack.Proofs.Model.Grammar

/-! How long each operation takes. The engine looks at the device as often as the
host does, so every loop of an operation adds its deadline and one interval. -/

set_option autoImplicit false

namespace NpuStack

namespace Host

variable {β α : Type} {kept : Host β → Prop} {bound : Nat}

abbrev Takes (kept : Host β → Prop) (bound : Nat) (action : HostM β α) : Prop :=
  NpuStack.Takes (fun host => host.link.clock) kept bound action

/-- A property that depends on the configuration and on the interval of the engine only. -/
def Steady (kept : Host β → Prop) : Prop :=
  ∀ (host : Host β) link context started listening, kept host →
    kept { host with link, context, engine := { host.engine with started }, listening }

/-- The configuration is known, and the engine looks at the device as often as the host. -/
structure Configured (settings : Config) (host : Host β) : Prop where
  config : host.config = settings
  interval : host.engine.interval = settings.pollInterval

theorem Configured.steady (config : Config) : Steady fun host : Host β => Configured config host :=
  fun _ _ _ _ _ held => ⟨held.config, held.interval⟩

theorem takes_getConfig : Takes kept 0 (getConfig : HostM β Config) :=
  .still (fun _ held => held) (fun _ => rfl) fun _ => nofun

theorem takes_getContext : Takes kept 0 (getContext : HostM β Context) :=
  .still (fun _ held => held) (fun _ => rfl) fun _ => nofun

theorem takes_get : Takes kept 0 (get : HostM β (Host β)) :=
  .still (fun _ held => held) (fun _ => rfl) fun _ => nofun

theorem takes_raise (cause : HostError) : Takes kept 0 (raise cause : HostM β α) :=
  .still (fun _ held => held) (fun _ => rfl) fun _ => nofun

theorem takes_checked {number : Checked α} (prompt : number.Prompt) :
    Takes kept 0 (checked number : HostM β α) := by
  cases number with
  | ok value => exact .still (fun _ held => held) (fun _ => rfl) fun _ => nofun
  | error cause =>
    refine .still (fun _ held => held) (fun _ => rfl) fun _ endless => prompt ?_
    cases endless
    rfl

abbrev SliceTakes (kept : Host β → Prop) (bound : Nat) (action : SliceM (Host β) α) : Prop :=
  NpuStack.Takes (fun state => state.1.link.clock) (fun state => kept state.1) bound action

theorem takes_onHost {action : HostM β α} (takes : Takes kept bound action) :
    SliceTakes kept bound (onHost action) :=
  fun state held => takes state.1 held

theorem takes_ensureInitialized : Takes kept 0 (ensureInitialized : HostM β Unit) :=
  .step takes_getContext fun _ => .ite (takes_raise _) (.pure _)

theorem takes_ensureLoadable (operation : String) :
    Takes kept 0 (ensureLoadable operation : HostM β Unit) := by
  refine .step takes_getContext fun context => ?_
  split
  all_goals first | exact takes_raise _ | exact .pure _

theorem startTransfer_eq [Bus β] (d : Descriptor) (host : Host β) : startTransfer d host =
    match host.engine.start d host.link with
    | (.ok engine, link) => (.ok (), { host with link, engine })
    | (.error cause, link) => (.error cause, { host with link }) := by
  have current : (get : HostM β (Host β)) host = (.ok host, host) := rfl
  unfold startTransfer
  rw [act_bind, current]
  dsimp only
  rw [act_bind, onLink_eq]
  generalize host.engine.start d host.link = run
  rcases run with ⟨cause | engine, link⟩
  · rfl
  · rfl

section Steady

variable (steady : Steady kept)
include steady

theorem takes_onLink {action : LinkM β α} (takes : Link.Takes bound action) :
    Takes kept bound (onLink action) :=
  fun host held => ⟨steady host _ host.context host.engine.started host.listening held,
    (takes host.link trivial).2⟩

theorem takes_modifyContext (change : Context → Context) : Takes kept 0 (modifyContext change) :=
  .still (fun host held => steady host host.link _ host.engine.started host.listening held)
    (fun _ => rfl) fun _ => nofun

theorem takes_fail (cause : HostError) : Takes kept 0 (fail cause : HostM β α) :=
  .step (takes_modifyContext steady _) fun _ => takes_raise cause

theorem takes_noting {action : HostM β α} (takes : Takes kept bound action) :
    Takes kept bound (noting action) := by
  refine .last takes.attempt fun result => ?_
  cases result with
  | error cause => exact takes_fail steady cause
  | ok value => exact .pure value

theorem takes_delay (microseconds : UInt64) : Takes kept microseconds.toNat (delay microseconds) :=
  takes_onLink steady (Link.takes_delay microseconds)

theorem takes_forgetTransfers : Takes kept 0 (forgetTransfers : HostM β Unit) :=
  .still (fun host held => steady host host.link host.context 0 host.listening held) (fun _ => rfl)
    fun _ => nofun

variable [Bus β]

theorem takes_read (reg : Register) : Takes kept 0 (read reg) :=
  takes_onLink steady (Link.takes_read reg)

theorem takes_write (reg : Register) (value : UInt32) : Takes kept 0 (write reg value) :=
  takes_onLink steady (Link.takes_write reg value)

theorem takes_setBits (reg : Register) (mask : UInt32) : Takes kept 0 (setBits reg mask) :=
  takes_onLink steady (Link.takes_setBits reg mask)

theorem takes_clearBits (reg : Register) (mask : UInt32) : Takes kept 0 (clearBits reg mask) :=
  takes_onLink steady (Link.takes_clearBits reg mask)

theorem takes_programBuffers : Takes kept 0 programBuffers :=
  .step takes_getConfig fun _ => .step (takes_write steady _ _) fun _ =>
    .step (takes_write steady _ _) fun _ => .step (takes_write steady _ _) fun _ =>
    .step (takes_checked (Checked.prompt_add32 _ _)) fun _ => .step (takes_write steady _ _) fun _ =>
    takes_write steady _ _

theorem takes_refreshCounters : Takes kept 0 refreshCounters := by
  have sample : Link.Takes 0 (Counters.sample : LinkM β Counters) :=
    .step (Link.takes_readPair _ _) fun _ => .step (Link.takes_read _) fun _ =>
      .step (Link.takes_readPair _ _) fun _ => .step (Link.takes_read _) fun _ => .pure _
  refine .step (takes_onLink steady sample) fun sampled => ?_
  exact .still (fun host held => steady host host.link _ host.engine.started host.listening held)
    (fun _ => rfl) fun _ => nofun

theorem takes_resetCounters : Takes kept 10 resetCounters := by
  have pulse : Link.Takes 10 (Counters.resetHardware : LinkM β Unit) :=
    .step (Link.takes_write _ _) fun _ => .bind (Link.takes_delay 10) fun _ => Link.takes_write _ _
  exact .bind (takes_onLink steady pulse) fun _ => .step (takes_modifyContext steady _) fun _ =>
    takes_forgetTransfers steady

theorem takes_hardwareInfo : Takes kept 0 hardwareInfo :=
  .step (takes_read steady _) fun _ => .step (takes_read steady _) fun _ => .pure _

theorem takes_verifyHardware : Takes kept 0 verifyHardware :=
  .step (takes_hardwareInfo steady) fun _ => .guard (takes_raise _) fun _ =>
    .guard (takes_raise _) fun _ => .pure _

theorem takes_readAll (registers : List Register) : Takes kept 0 (readAll registers) := by
  induction registers with
  | nil => exact .pure _
  | cons reg registers ih => exact .step (takes_read steady _) fun _ => .step ih fun _ => .pure _

theorem takes_writeAll (entries : List (Register × UInt32)) : Takes kept 0 (writeAll entries) := by
  induction entries with
  | nil => exact .pure _
  | cons entry entries ih => exact .step (takes_write steady _ _) fun _ => ih

theorem takes_firstMismatch (patterns : List (Register × UInt32)) :
    Takes kept 0 (firstMismatch patterns) := by
  induction patterns with
  | nil => exact .pure _
  | cons entry patterns ih =>
    exact .step (takes_write steady _ _) fun _ => .step (takes_read steady _) fun _ =>
      .ite (.pure _) ih

theorem takes_clearAccumulators : Takes kept 1 clearAccumulators :=
  .step (takes_setBits steady _ _) fun _ => .last (takes_delay steady 1) fun _ =>
    takes_clearBits steady _ _

theorem takes_selfTest : Takes kept 1 selfTest := by
  refine .step (takes_readAll steady _) fun _ => .step (takes_firstMismatch steady _) fun failed =>
    .step (takes_writeAll steady _) fun _ => .last (takes_clearAccumulators steady) fun _ => ?_
  cases failed with
  | none => exact .pure _
  | some reg => exact takes_raise _

theorem takes_loadInstructions (instructions : Array Instruction) :
    Takes kept 0 (loadInstructions instructions) :=
  .step (takes_ensureLoadable _) fun _ => .guard (takes_raise _) fun _ => .step takes_getConfig fun _ =>
    .guard (takes_fail steady _) fun _ => .step (takes_onLink steady (Link.takes_store _ _)) fun _ =>
    .step (takes_write steady _ _) fun _ => .step (takes_write steady _ _) fun _ =>
    takes_modifyContext steady _

theorem takes_start : Takes kept 0 start :=
  .step (takes_ensureLoadable _) fun _ => .step (takes_write steady _ _) fun _ =>
    .step (takes_modifyContext steady _) fun _ => .step (takes_write steady _ _) fun _ =>
    .step (takes_modifyContext steady _) fun _ => takes_setBits steady _ _

theorem takes_complete : Takes kept 0 complete :=
  .step (takes_read steady _) fun _ => .step (takes_modifyContext steady _) fun _ =>
    .step (takes_refreshCounters steady) fun _ => takes_modifyContext steady _

theorem takes_handleIrq : Takes kept 0 handleIrq := by
  have fault (pending : UInt32) (listening : Bool) (told : List Completion) :
      Takes kept 0 (serveFault pending listening told) :=
    .ite (.step (takes_read steady _) fun _ => .step (takes_modifyContext steady _) fun _ =>
      .step (takes_modifyContext steady _) fun _ => .ite (.pure _) (.pure _)) (.pure _)
  refine .step (takes_read steady _) fun pending => .ite (.pure _) ?_
  refine .step (takes_write steady _ _) fun _ => .step takes_get fun host => .ite ?_ ?_
  · exact .step (takes_complete steady) fun _ =>
      .ite (.step takes_getContext fun _ => fault _ _ _) (fault _ _ _)
  · exact fault _ _ _

omit [Bus β] in
theorem takes_readModel (data : ByteArray) : Takes kept 0 (readModel data) := by
  unfold readModel
  split
  · exact .pure _
  · exact takes_fail steady _
  case h_3 cause stopped => exact absurd stopped (Model.Image.parse_ne_trap data cause)

theorem takes_readableBytes (buffer : ByteArray) : Takes kept 0 (readableBytes buffer) :=
  .step takes_ensureInitialized fun _ => .guard (takes_raise _) fun _ => .step takes_getContext fun _ =>
    .guard (takes_raise _) fun _ => .step (takes_read steady _) fun _ => .step takes_get fun _ => .pure _

theorem takes_fillFront (addr : UInt32) (size : Nat) : SliceTakes kept 0 (fillFront addr size) := by
  refine .still (fun state held => steady state.1 _ _ state.1.engine.started _ held) (fun _ => rfl)
    fun state => ?_
  show Except.mapError _ (Bus.load addr (state.2.extract 0 size) state.1.link.bus).1 ≠ _
  cases (Bus.load addr (state.2.extract 0 size) state.1.link.bus).1 with
  | error cause => exact nofun
  | ok _ => exact nofun

theorem takes_configureLayer (layer : Layer) : Takes kept 0 (configureLayer layer) := by
  unfold configureLayer
  iterate 11 refine .step (takes_write steady _ _) fun _ => ?_
  exact .guard (takes_write steady _ _) fun _ => .step (takes_write steady _ _) fun _ =>
    takes_write steady _ _

theorem takes_compileLayer (layer : Layer) : Takes kept 0 (compileLayer layer) := by
  refine .step (takes_hardwareInfo steady) fun info => ?_
  have prompt := Lowering.prompt_compile (.ofProfile info.profile) layer
  split
  · exact .pure _
  case h_2 cause stopped =>
    refine takes_checked fun endless => prompt ?_
    rw [stopped]
    cases endless
    rfl
  · exact takes_raise _

theorem takes_reset : Takes kept (10 + 10) reset :=
  .step (takes_setBits steady _ _) fun _ => .bind (takes_delay steady resetPulse) fun _ =>
    .step (takes_write steady _ _) fun _ => .step (takes_write steady _ _) fun _ =>
    .step (takes_programBuffers steady) fun _ => .last (takes_resetCounters steady) fun _ =>
    takes_modifyContext steady _

end Steady

section Configured

variable [Bus β] {config : Config}

omit [Bus β] in
theorem Configured.pollInterval {host : Host β} (held : Configured config host) :
    host.engine.pollInterval = config.interval := by
  rw [Engine.pollInterval, held.interval, Config.interval]

omit [Bus β] in
/-- A configured host finds the settings it knows. -/
theorem takes_settings {next : Config → HostM β α}
    (rest : Takes (Configured config) bound (next config)) :
    Takes (Configured config) bound (getConfig >>= next) := by
  intro host held
  have found : (getConfig >>= next) host = next config host := by
    rw [← held.config]
    rfl
  rw [found]
  exact rest host held

theorem takes_poll (timeout : UInt64) (probe : Probe β α) :
    Takes (Configured config) (Probe.longest config.interval timeout)
      (onLink (Link.poll config.interval timeout probe)) :=
  takes_onLink (Configured.steady config) (Link.takes_poll (Probe.interval_ne_zero _) timeout probe)

theorem takes_waitIdle :
    Takes (Configured config) (10000 + config.interval.toNat) (waitIdle idleTimeout : HostM β Unit) := by
  have most : Probe.longest config.interval idleTimeout = 10000 + config.interval.toNat - 1 :=
    Probe.longest_of_finite _ (by decide)
  exact takes_settings ((takes_poll idleTimeout idleProbe).mono (by omega))

theorem takes_stop : Takes (Configured config) (10000 + config.interval.toNat) (stop : HostM β Unit) := by
  have steady := Configured.steady (β := β) config
  refine .step takes_ensureInitialized fun _ => .step (takes_setBits steady _ _) fun _ =>
    .last takes_waitIdle.attempt fun result => .step (takes_clearBits steady _ _) fun _ =>
    .step (takes_modifyContext steady _) fun _ => ?_
  cases result with
  | error cause => exact takes_raise cause
  | ok _ => exact .pure _

theorem takes_abort :
    Takes (Configured config) (10 + (10 + (10000 + config.interval.toNat))) (abort : HostM β Unit) := by
  have steady := Configured.steady (β := β) config
  refine .step takes_ensureInitialized fun _ => .step (takes_setBits steady _ _) fun _ =>
    .bind (takes_delay steady resetPulse) fun _ => .step (takes_clearBits steady _ _) fun _ =>
    .bind (takes_delay steady resetPulse) fun _ => .last takes_waitIdle.attempt fun result => ?_
  cases result with
  | error cause => exact .step (takes_modifyContext steady _) fun _ => takes_fail steady cause
  | ok _ => exact .step (takes_setBits steady _ _) fun _ => takes_modifyContext steady _

theorem takes_deinit :
    Takes (Configured config) (10000 + config.interval.toNat) (deinit : HostM β Unit) := by
  have steady := Configured.steady (β := β) config
  refine .step takes_getContext fun _ => .ite ?_ (Takes.mono (.pure _) (Nat.zero_le _))
  exact .last takes_stop.attempt fun _ => .step (takes_write steady _ _) fun _ =>
    .step (takes_modifyContext steady _) fun _ => takes_forgetTransfers steady

theorem takes_boot :
    Takes (Configured config) (10 + (10 + (10000 + config.interval.toNat +
      (1 + (1 + (1 + 1))))))
      (boot : HostM β HardwareInfo) := by
  have steady := Configured.steady (β := β) config
  refine .step (takes_setBits steady _ _) fun _ => .bind (takes_delay steady resetPulse) fun _ =>
    .step (takes_clearBits steady _ _) fun _ => .bind (takes_delay steady resetPulse) fun _ =>
    .bind takes_waitIdle fun _ => .step (takes_verifyHardware steady) fun info => ?_
  refine .step (takes_write steady _ _) fun _ => .step (takes_write steady _ _) fun _ =>
    .step (takes_write steady _ _) fun _ => .bind (takes_delay steady 1) fun _ =>
    .step (takes_write steady _ _) fun _ => .step (takes_writeAll steady _) fun _ =>
    .step (takes_write steady _ _) fun _ => ?_
  exact .bind (takes_clearAccumulators steady) fun _ => .step (takes_writeAll steady _) fun _ =>
    .step (takes_write steady _ _) fun _ => .bind (takes_delay steady 1) fun _ =>
    .step (takes_write steady _ _) fun _ => .step (takes_setBits steady _ _) fun _ =>
    .last (takes_selfTest steady) fun _ => .pure _

theorem takes_sleep : Takes (Configured config) 0 (sleep : HostM β Unit) := by
  have steady := Configured.steady (β := β) config
  exact .step (takes_clearBits steady _ _) fun _ => .step (takes_write steady _ _) fun _ =>
    takes_write steady _ _

theorem takes_wake :
    Takes (Configured config) (10000 + config.interval.toNat) (wake : HostM β Unit) := by
  have steady := Configured.steady (β := β) config
  exact .step (takes_setBits steady _ _) fun _ => .step (takes_write steady _ _) fun _ =>
    .step takes_getConfig fun _ => .step takes_getContext fun _ =>
    .guard (takes_write steady _ _) fun _ => takes_waitIdle

theorem takes_wait (timeout : UInt64) :
    Takes (Configured config) (Probe.longest config.interval timeout)
      (wait timeout : HostM β Unit) := by
  have steady := Configured.steady (β := β) config
  refine .step takes_ensureInitialized fun _ => takes_settings ?_
  refine .last (takes_poll timeout completionProbe).attempt fun result => ?_
  unfold conclude
  split
  · exact takes_complete steady
  · exact .step (takes_modifyContext steady _) fun _ => takes_fail steady _
  · exact takes_fail steady _

theorem takes_startTransfer (d : Descriptor) :
    Takes (Configured config) (Probe.longest config.interval Engine.slotTimeout)
      (startTransfer d : HostM β Unit) := by
  have steady := Configured.steady (β := β) config
  intro host held
  have lapse := (Link.takes_engineStart host.engine d host.link trivial).2
  have given := host.engine.gives_start d host.link
  rw [held.pollInterval] at lapse
  unfold wlp at given
  rw [startTransfer_eq]
  generalize host.engine.start d host.link = run at lapse given ⊢
  rcases run with ⟨cause | engine, link⟩
  · refine ⟨steady host link host.context host.engine.started host.listening held, fun room => ?_⟩
    obtain ⟨ends, forward, within⟩ := lapse room
    refine ⟨fun endless => ends ?_, forward, within⟩
    cases endless
    rfl
  · obtain ⟨started, rfl⟩ := given
    refine ⟨steady host link host.context started host.listening held, fun room => ?_⟩
    exact ⟨nofun, (lapse room).forward, (lapse room).within⟩

theorem takes_waitTransfer (timeout : UInt64) :
    Takes (Configured config) (Probe.longest config.interval timeout)
      (waitTransfer timeout : HostM β Unit) := by
  intro host held
  have wait : Link.Takes _ (host.engine.wait timeout : LinkM β Unit) :=
    Link.takes_engineWait host.engine timeout
  rw [held.pollInterval] at wait
  exact takes_onLink (Configured.steady config) wait host held

/-- One wait for the slot and one for the transfer. -/
theorem takes_transfer (d : Descriptor) :
    Takes (Configured config) (1100000 + 2 * config.interval.toNat) (transfer d : HostM β Unit) := by
  have steady := Configured.steady (β := β) config
  have slot : Probe.longest config.interval Engine.slotTimeout = 100000 + config.interval.toNat - 1 :=
    Probe.longest_of_finite _ (by decide)
  have rest : Probe.longest config.interval transferTimeout = 1000000 + config.interval.toNat - 1 :=
    Probe.longest_of_finite _ (by decide)
  exact .mono (.bind (takes_noting steady (takes_startTransfer d)) fun _ =>
    takes_noting steady (takes_waitTransfer _)) (by omega)

theorem takes_dmaTransfer (d : Descriptor) (timeout : UInt64) :
    Takes (Configured config) (Probe.longest config.interval Engine.slotTimeout +
      Probe.longest config.interval timeout) (dmaTransfer d timeout : HostM β Unit) :=
  .step takes_ensureInitialized fun _ => .bind (takes_startTransfer d) fun _ =>
    takes_waitTransfer timeout

theorem takes_loadWeights (data : ByteArray) (offset : UInt32) :
    Takes (Configured config) (1100000 + 2 * config.interval.toNat)
      (loadWeights data offset : HostM β Unit) := by
  have steady := Configured.steady (β := β) config
  have finish (stop : UInt32) : Takes (Configured config) 0 (do
      write .weightSize stop
      setState .loading : HostM β Unit) :=
    .step (takes_write steady _ _) fun _ => takes_modifyContext steady _
  refine .step (takes_ensureLoadable _) fun _ => .guard (takes_raise _) fun _ =>
    .step takes_getConfig fun _ => .guard (takes_fail steady _) fun _ =>
    .step (takes_checked (Checked.prompt_add32 _ _)) fun _ => .ite ?_ ?_
  · exact .step (takes_onLink steady (Link.takes_stage _)) fun _ =>
      .last (takes_transfer _) fun _ => finish _
  · exact .mono (.step (takes_onLink steady (Link.takes_store _ _)) fun _ => finish _) (Nat.zero_le _)

theorem takes_loadInput (data : ByteArray) :
    Takes (Configured config) (1100000 + 2 * config.interval.toNat)
      (loadInput data : HostM β Unit) := by
  have steady := Configured.steady (β := β) config
  exact .step (takes_ensureLoadable _) fun _ => .guard (takes_raise _) fun _ =>
    .step takes_getConfig fun _ => .guard (takes_fail steady _) fun _ =>
    .step (takes_onLink steady (Link.takes_stage _)) fun _ => .last (takes_transfer _) fun _ =>
    .step (takes_write steady _ _) fun _ => takes_modifyContext steady _

theorem takes_copyImage (image : Model.Image) :
    Takes (Configured config)
      (1100000 + 2 * config.interval.toNat + (1100000 + 2 * config.interval.toNat))
      (copyImage image : HostM β Unit) := by
  have steady := Configured.steady (β := β) config
  have bias : Takes (Configured config) (1100000 + 2 * config.interval.toNat)
      (if !image.bias.isEmpty then loadWeights image.bias image.header.weightBytes
        else pure () : HostM β Unit) :=
    .ite (takes_loadWeights _ _) (Takes.mono (.pure _) (Nat.zero_le _))
  refine .guard (takes_loadInstructions steady _) fun _ => .ite ?_ ?_
  · exact .bind (takes_loadWeights _ _) fun _ => bias
  · exact bias.mono (Nat.le_add_left _ _)

theorem takes_loadModel (data : ByteArray) :
    Takes (Configured config)
      (1100000 + 2 * config.interval.toNat + (1100000 + 2 * config.interval.toNat))
      (loadModel data : HostM β Model.Header) := by
  have steady := Configured.steady (β := β) config
  refine .step (takes_ensureLoadable _) fun _ => .step (takes_readModel steady data) fun _ =>
    .step takes_getConfig fun _ => .guard (takes_fail steady _) fun _ =>
    .guard (takes_fail steady _) fun _ => .last (takes_copyImage _).attempt fun result => ?_
  cases result with
  | error cause =>
    exact .step (.step (takes_write steady _ _) fun _ => .step (takes_write steady _ _) fun _ =>
      takes_modifyContext steady _) fun _ => takes_fail steady cause
  | ok _ => exact .step (takes_modifyContext steady _) fun _ => .pure _

theorem takes_readOutput : SliceTakes (Configured config) (1100000 + 2 * config.interval.toNat)
    (readOutput : SliceM (Host β) Nat) := by
  have steady := Configured.steady (β := β) config
  have setState (s : RunState) : SliceTakes (Configured config) 0
      (onHost (setState s) : SliceM (Host β) Unit) := takes_onHost (takes_modifyContext steady _)
  have current : SliceTakes (Configured config) 0 (get : SliceM (Host β) (Host β × ByteArray)) :=
    .still (fun _ held => held) (fun _ => rfl) fun _ => nofun
  have drain (size : Nat) : SliceTakes (Configured config) (1100000 + 2 * config.interval.toNat)
      (drainOutput size : SliceM (Host β) Unit) :=
    .step (takes_onHost (takes_read steady _)) fun _ => .step current fun _ =>
      .last (takes_onHost (takes_transfer _)) fun _ => takes_fillFront steady _ _
  refine .step current fun _ => .step (takes_onHost (takes_readableBytes steady _)) fun _ =>
    .ite (Takes.mono (.pure _) (Nat.zero_le _)) ?_
  refine .step (takes_onHost takes_getContext) fun _ => .step (setState _) fun _ =>
    .last (drain _).attempt fun result => ?_
  cases result with
  | error cause => exact .step (setState _) fun _ => takes_onHost (takes_raise cause)
  | ok _ => exact .step (setState _) fun _ => .pure _

theorem takes_compileAndRun (layer : Layer) :
    Takes (Configured config) (Probe.longest config.interval config.runTimeout)
      (compileAndRun layer : HostM β Counters) := by
  have steady := Configured.steady (β := β) config
  exact .step (takes_ensureLoadable _) fun _ => .step (takes_compileLayer steady layer) fun _ =>
    .step (takes_configureLayer steady layer) fun _ => .step (takes_loadInstructions steady _) fun _ =>
    .step (takes_start steady) fun _ => takes_settings (.last (takes_wait _) fun _ =>
    .step (takes_modifyContext steady _) fun _ => .step takes_getContext fun _ => .pure _)

/-- An installed configuration sets the pace of the engine, too. -/
theorem takes_init (config : Config) :
    Takes (fun host => ∃ settings, Configured settings host) 0 (init config : HostM β Unit) := by
  have steady : Steady fun host : Host β => ∃ settings, Configured settings host :=
    fun host link context started listening ⟨settings, held⟩ =>
      ⟨settings, Configured.steady settings host link context started listening held⟩
  have install : Takes (fun host => ∃ settings, Configured settings host) 0
      (install config : HostM β Unit) :=
    .still (fun _ _ => ⟨config, rfl, rfl⟩) (fun _ => rfl) fun _ => nofun
  exact .step takes_getContext fun _ => .guard (takes_raise _) fun _ => .guard (takes_raise _) fun _ =>
    .step install fun _ => .step (takes_programBuffers steady) fun _ =>
    .guard (takes_write steady _ _) fun _ => takes_modifyContext steady _

end Configured

end Host

namespace Operation

variable {β : Type} [Bus β]

def deadline? (config : Config) : Operation → Option UInt64
  | .wait timeout | .dmaTransfer _ timeout => some timeout
  | .compileAndRun _ => some config.runTimeout
  | _ => none

def allowance (config : Config) : Operation → Nat
  | .wait timeout => Probe.longest config.interval timeout
  | .compileAndRun _ => Probe.longest config.interval config.runTimeout
  | .dmaTransfer _ timeout =>
    Probe.longest config.interval Engine.slotTimeout + Probe.longest config.interval timeout
  | .loadWeights _ _ | .loadInput _ | .readOutput _ => 1100000 + 2 * config.interval.toNat
  | .loadModel _ => 1100000 + 2 * config.interval.toNat + (1100000 + 2 * config.interval.toNat)
  | .stop | .abort | .boot | .wake | .deinit => 10000 + 25 + config.interval.toNat
  | .reset => 20
  | .resetCounters => 10
  | .selfTest => 1
  | _ => 0

theorem takes_perform (config : Config) {op : Operation} (other : ∀ config, op ≠ .init config) :
    Host.Takes (Host.Configured config) (op.allowance config) (op.perform : HostM β Reply) := by
  have steady := Host.Configured.steady (β := β) config
  cases op with
  | init config => exact absurd rfl (other config)
  | deinit => exact (Host.takes_deinit.map _).mono (by dsimp only [allowance]; omega)
  | boot => exact (Host.takes_boot.map _).mono (by dsimp only [allowance]; omega)
  | selfTest => exact (Host.takes_selfTest steady).map _
  | verifyHardware => exact (Host.takes_verifyHardware steady).map _
  | hardwareInfo => exact (Host.takes_hardwareInfo steady).map _
  | hardwareState => exact (Takes.step (Host.takes_read steady _) fun _ => .pure _).map _
  | sleep => exact Host.takes_sleep.map _
  | wake => exact (Host.takes_wake.map _).mono (by dsimp only [allowance]; omega)
  | loadInstructions instructions => exact (Host.takes_loadInstructions steady _).map _
  | loadWeights data offset => exact (Host.takes_loadWeights _ _).map _
  | loadInput data => exact (Host.takes_loadInput _).map _
  | loadModel data => exact (Host.takes_loadModel _).map _
  | start => exact (Host.takes_start steady).map _
  | wait timeout => exact (Host.takes_wait _).map _
  | isDone =>
    exact (Takes.step Host.takes_getContext fun _ =>
      .ite (Host.takes_onLink steady (Link.takes_testBits _ _)) (.pure _)).map _
  | stop => exact (Host.takes_stop.map _).mono (by dsimp only [allowance]; omega)
  | abort => exact (Host.takes_abort.map _).mono (by dsimp only [allowance]; omega)
  | reset => exact (Host.takes_reset steady).map _
  | handleIrq => exact (Host.takes_handleIrq steady).map _
  | outputSize => exact (Host.takes_read steady _).map _
  | readOutput buffer => exact (Takes.lend Host.takes_readOutput).map _
  | perf =>
    exact (Takes.step (Host.takes_refreshCounters steady) fun _ =>
      .step Host.takes_getContext fun _ => .pure _).map _
  | resetCounters => exact (Host.takes_resetCounters steady).map _
  | configureLayer layer => exact (Host.takes_configureLayer steady _).map _
  | dmaTransfer d timeout => exact (Host.takes_dmaTransfer _ _).map _
  | compileAndRun layer => exact (Host.takes_compileAndRun _).map _
  | setListening listening =>
    exact Takes.map _ (.still (fun host held => steady host _ _ _ listening held) (fun _ => rfl)
      fun _ => nofun)

/-- A host whose engine keeps the pace of its configuration: the operation ends in time, and the
engine still keeps the pace. -/
theorem perform_lapses (op : Operation) {host : Host β} (held : host.Configured host.config) :
    (op.perform host).2.Configured (op.perform host).2.config ∧
    (host.link.clock.now.toNat + op.allowance host.config < UInt64.size →
      Lapses (op.allowance host.config) host.link.clock (op.perform host).1
        (op.perform host).2.link.clock) := by
  have current {after : Host β} {settings : Config} (held : after.Configured settings) :
      after.Configured after.config := by
    rw [held.config]
    exact held
  by_cases init : ∃ config, op = .init config
  · obtain ⟨config, rfl⟩ := init
    obtain ⟨⟨_, kept⟩, lapse⟩ := (Host.takes_init config).map (fun _ => Reply.finished) host ⟨_, held⟩
    exact ⟨current kept, lapse⟩
  · obtain ⟨kept, lapse⟩ := takes_perform host.config (fun config same => init ⟨config, same⟩) host held
    exact ⟨current kept, lapse⟩

end Operation

theorem Reachable.configured {β : Type} [Bus β] {fresh : β → Prop} {altered : β → β → Prop}
    {host : Host β} (reached : Reachable fresh altered host) : host.Configured host.config := by
  induction reached with
  | start => exact ⟨rfl, rfl⟩
  | @step op _ _ _ _ step ih =>
    rw [step.after_eq]
    exact (op.perform_lapses ih).1
  | alter _ _ ih => exact ⟨ih.config, ih.interval⟩

theorem Config.interval_pos (config : Config) : 0 < config.interval.toNat :=
  Nat.pos_of_ne_zero fun zero => Probe.interval_ne_zero config.pollInterval (UInt64.toNat_inj.mp zero)

theorem Config.interval_le {config : Config} {pace : Nat} (positive : 0 < pace)
    (brisk : config.pollInterval.toNat ≤ pace) : config.interval.toNat ≤ pace := by
  show (if config.pollInterval ≤ 1 then 1 else config.pollInterval).toNat ≤ pace
  split
  · exact positive
  · exact brisk

/-- There is room for an operation on a clock that has not run for too long. -/
theorem Operation.allowance_lt {config : Config} {op : Operation}
    (brisk : config.interval.toNat ≤ 2 ^ 32)
    (bounded : ∀ timeout ∈ op.deadline? config, timeout ≠ 0 ∧ timeout.toNat ≤ 2 ^ 62) :
    2 ^ 62 + op.allowance config < UInt64.size := by
  have finite (timeout : UInt64) (chosen : op.deadline? config = some timeout) :
      Probe.longest config.interval timeout < 2 ^ 62 + 2 ^ 32 := by
    obtain ⟨finite, bound⟩ := bounded timeout chosen
    rw [Probe.longest_of_finite _ finite]
    have := config.interval_pos
    omega
  have slot : Probe.longest config.interval Engine.slotTimeout = 100000 + config.interval.toNat - 1 :=
    Probe.longest_of_finite _ (by decide)
  have size : UInt64.size = 2 ^ 64 := rfl
  cases op with
  | wait timeout =>
    have := finite timeout rfl
    dsimp only [allowance]
    omega
  | compileAndRun layer =>
    have := finite config.runTimeout rfl
    dsimp only [allowance]
    omega
  | dmaTransfer d timeout =>
    have := finite timeout rfl
    dsimp only [allowance]
    omega
  | _ =>
    dsimp only [allowance]
    omega

/-- However the device behaves, every operation with a deadline ends, and it takes no longer than it
is allowed to. A wait is over before one interval has passed since its deadline. -/
theorem operations_end_in_time {β : Type} [Bus β] {fresh : β → Prop} {altered : β → β → Prop}
    {host : Host β} (reached : Reachable fresh altered host) (op : Operation)
    (early : host.link.clock.now.toNat ≤ 2 ^ 62) (brisk : host.config.pollInterval.toNat ≤ 2 ^ 32)
    (bounded : ∀ timeout ∈ op.deadline? host.config, timeout ≠ 0 ∧ timeout.toNat ≤ 2 ^ 62) :
    (op.perform host).1 ≠ .error (.trap .endlessWait) ∧
    host.link.clock.now.toNat ≤ (op.perform host).2.link.clock.now.toNat ∧
    (op.perform host).2.link.clock.now.toNat ≤
      host.link.clock.now.toNat + op.allowance host.config ∧
    ∀ timeout, op = .wait timeout → (op.perform host).2.link.clock.now.toNat <
      host.link.clock.now.toNat + timeout.toNat + host.config.interval.toNat := by
  have room := Operation.allowance_lt (Config.interval_le (by decide) brisk) bounded
  obtain ⟨ends, forward, within⟩ := (op.perform_lapses reached.configured).2 (by omega)
  refine ⟨ends, forward, within, ?_⟩
  rintro timeout rfl
  have longest : Probe.longest host.config.interval timeout =
      timeout.toNat + host.config.interval.toNat - 1 :=
    Probe.longest_of_finite _ (bounded timeout rfl).1
  have := host.config.interval_pos
  dsimp only [Operation.allowance] at within
  omega

/-- A host of a device that answers zero to everything. Its interval of zero counts as one, and its
clock has been running for long. -/
def muteHost : Host Scripted :=
  ((Operation.init { Config.reference with pollInterval := 0 }).perform
    { link := ⟨{}, ⟨0x4000000000000000⟩⟩ }).2

/-- A wait for a mute device gives up in time. -/
theorem mute_wait_ends :
    Host.config muteHost = { Config.reference with pollInterval := 0 } ∧
    (∀ reg, muteHost.link.bus.value reg = 0) ∧
    ∃ after, (Operation.wait 5).Step muteHost (.error (.timeout 5)) after ∧
      after.link.clock.now.toNat < muteHost.link.clock.now.toNat + 5 + 1 := by
  have installed : Operation.comesBack ((Operation.init { Config.reference with pollInterval := 0 }).perform
      ({ link := ⟨{}, ⟨0x4000000000000000⟩⟩ } : Host Scripted)).1 = true := by
    decide +kernel
  have given : ((Operation.wait 5).perform muteHost).1 = .error (.error (.timeout 5)) := rfl
  obtain ⟨_, step⟩ := Operation.exists_step _ _ installed
  have reached : Reachable (fun _ => True) (fun _ _ => False) muteHost := .step (.start trivial) step
  have deadline : ∀ timeout ∈ (Operation.wait 5).deadline? muteHost.config,
      timeout ≠ 0 ∧ timeout.toNat ≤ 2 ^ 62 := by
    intro timeout chosen
    obtain rfl : 5 = timeout := Option.some.inj chosen
    decide
  have ends := operations_end_in_time reached (.wait 5) (by decide +kernel) (by decide +kernel) deadline
  exact ⟨rfl, fun _ => rfl, _, .of_report given, ends.2.2.2 5 rfl⟩

end NpuStack
