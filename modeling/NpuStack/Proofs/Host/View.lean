import NpuStack.Proofs.Host.Operation

/-! What an operation cannot see. A view forgets a part of the bus that no access
depends on; whatever a host does on the bus it does on the view, so a run may be
observed without being disturbed. -/

set_option autoImplicit false

namespace NpuStack

/-- Every access does on the view what it does on the bus. -/
structure Bus.View {β γ : Type} [Bus β] [Bus γ] (view : β → γ) : Prop where
  read : ∀ reg bus, Bus.read reg (view bus) = ((Bus.read reg bus).1, view (Bus.read reg bus).2)
  write : ∀ reg value bus, Bus.write reg value (view bus) = view (Bus.write reg value bus)
  store : ∀ addr data bus, Bus.store addr data (view bus) = (Bus.store addr data bus).map view
  load : ∀ addr slice bus, Bus.load addr slice (view bus) = Bus.load addr slice bus
  stagingBase : ∀ bus, Bus.stagingBase (view bus) = Bus.stagingBase bus
  stagingBytes : ∀ bus, Bus.stagingBytes (view bus) = Bus.stagingBytes bus
  patience : ∀ bus, Bus.patience (view bus) = Bus.patience bus

section Calculus

variable {σ τ α γ : Type}

/-- One action does on the view of a state what another does on the state. -/
def Mirrors (view : σ → τ) (action : Act σ α) (image : Act τ α) : Prop :=
  ∀ state, image (view state) = ((action state).1, view (action state).2)

namespace Mirrors

variable {view : σ → τ} {action : Act σ α} {image : Act τ α}

theorem pure (result : α) : Mirrors view (Pure.pure result) (Pure.pure result) := fun _ => rfl

theorem report (cause : Failure HostError) : Mirrors view (throw cause : Act σ α) (throw cause) :=
  fun _ => rfl

theorem bind {first : Act σ α} {first' : Act τ α} {next : α → Act σ γ} {next' : α → Act τ γ}
    (left : Mirrors view first first') (right : ∀ result, Mirrors view (next result) (next' result)) :
    Mirrors view (first >>= next) (first' >>= next') := by
  intro state
  rw [act_bind, act_bind, left state]
  rcases first state with ⟨cause | result, middle⟩
  · rfl
  · exact right result middle

theorem map (f : α → γ) (mirrors : Mirrors view action image) :
    Mirrors view (f <$> action) (f <$> image) := by
  rw [map_eq_pure_bind, map_eq_pure_bind]
  exact mirrors.bind fun _ => pure _

theorem ite {choice : Prop} [Decidable choice] {second : Act σ α} {second' : Act τ α}
    (left : Mirrors view action image) (right : Mirrors view second second') :
    Mirrors view (if choice then action else second) (if choice then image else second') := by
  split
  · exact left
  · exact right

/-- A step that is taken or skipped, and what follows it. -/
theorem guard {choice : Prop} [Decidable choice] {first : Act σ Unit} {first' : Act τ Unit}
    {next : Unit → Act σ α} {next' : Unit → Act τ α} (left : Mirrors view first first')
    (right : ∀ result, Mirrors view (next result) (next' result)) :
    Mirrors view (if choice then first >>= next else next ())
      (if choice then first' >>= next' else next' ()) :=
  ite (left.bind right) (right ())

/-- What depends on the state has to depend on what the view keeps. -/
theorem get_bind {next : σ → Act σ α} {next' : τ → Act τ α}
    (rest : ∀ state, Mirrors view (next state) (next' (view state))) :
    Mirrors view (get >>= next) (get >>= next') :=
  fun state => rest state state

theorem attempt (mirrors : Mirrors view action image) :
    Mirrors view (NpuStack.attempt action) (NpuStack.attempt image) := by
  intro state
  unfold NpuStack.attempt
  rw [mirrors state]
  rcases action state with ⟨(cause | cause) | result, after⟩ <;> rfl

def Sliced (view : σ → τ) (action : SliceM σ α) (image : SliceM τ α) : Prop :=
  Mirrors (fun state => (view state.1, state.2)) action image

theorem lend {slice : ByteArray} {action : SliceM σ α} {image : SliceM τ α}
    (mirrors : Sliced view action image) :
    Mirrors view (NpuStack.lend slice action) (NpuStack.lend slice image) := by
  intro state
  unfold NpuStack.lend
  rw [mirrors (state, slice)]
  rcases action (state, slice) with ⟨cause | result, after, slice⟩ <;> rfl

end Mirrors

end Calculus

section Views

variable {β γ α : Type} {view : β → γ}

def Link.map (view : β → γ) (link : Link β) : Link γ := ⟨view link.bus, link.clock⟩

def Host.map (view : β → γ) (host : Host β) : Host γ where
  link := host.link.map view
  config := host.config
  context := host.context
  engine := host.engine
  listening := host.listening

def Probe.Mirrors (view : β → γ) (probe : Probe β α) (image : Probe γ α) : Prop :=
  ∀ bus, image (view bus) = ((probe bus).1, view (probe bus).2)

theorem Probe.Mirrors.loop {probe : Probe β α} {image : Probe γ α} (mirrors : Probe.Mirrors view probe image)
    (interval timeout started : UInt64) (fuel : Nat) (clock : Clock) (bus : β) :
    image.loop interval timeout started fuel clock (view bus) =
      let run := probe.loop interval timeout started fuel clock bus
      (run.1, run.2.1, view run.2.2) := by
  induction fuel generalizing clock bus with
  | zero => rfl
  | succ fuel ih =>
    unfold Probe.loop
    rw [mirrors bus]
    rcases probe bus with ⟨_ | _ | value, after⟩
    · dsimp only
      split
      · rfl
      · exact ih (clock.delay interval) after
    · rfl
    · rfl

variable [Bus β] [Bus γ]

theorem Bus.View.engineProbe (seen : Bus.View view) :
    Probe.Mirrors view Engine.probe Engine.probe := by
  intro bus
  unfold Engine.probe
  rw [seen.read]
  dsimp only
  split
  · rfl
  · split <;> rfl

theorem Bus.View.idleProbe (seen : Bus.View view) :
    Probe.Mirrors view Host.idleProbe Host.idleProbe := by
  intro bus
  unfold Host.idleProbe
  rw [seen.read]
  dsimp only
  split
  · rfl
  · rw [seen.read]
    split <;> rfl

theorem Bus.View.completionProbe (seen : Bus.View view) :
    Probe.Mirrors view Host.completionProbe Host.completionProbe := by
  intro bus
  unfold Host.completionProbe
  rw [seen.read]
  dsimp only
  split
  · rw [seen.read]
  · split <;> rfl

end Views

namespace Link

variable {β γ α : Type} {view : β → γ}

abbrev Mirrors (view : β → γ) (action : LinkM β α) (image : LinkM γ α) : Prop :=
  NpuStack.Mirrors (Link.map view) action image

theorem mirrors_delay (microseconds : UInt64) :
    Mirrors view (delay microseconds) (delay microseconds) := fun _ => rfl

variable [Bus β] [Bus γ] (seen : Bus.View view)
include seen

theorem mirrors_read (reg : Register) : Mirrors view (read reg) (read reg) := by
  intro link
  simp only [read, Link.map, seen.read]

theorem mirrors_write (reg : Register) (value : UInt32) :
    Mirrors view (write reg value) (write reg value) := by
  intro link
  simp only [write, Link.map, seen.write]

theorem mirrors_setBits (reg : Register) (mask : UInt32) :
    Mirrors view (setBits reg mask) (setBits reg mask) :=
  .bind (mirrors_read seen _) fun _ => mirrors_write seen _ _

theorem mirrors_clearBits (reg : Register) (mask : UInt32) :
    Mirrors view (clearBits reg mask) (clearBits reg mask) :=
  .bind (mirrors_read seen _) fun _ => mirrors_write seen _ _

theorem mirrors_testBits (reg : Register) (mask : UInt32) :
    Mirrors view (testBits reg mask) (testBits reg mask) :=
  .bind (mirrors_read seen _) fun _ => .pure _

theorem mirrors_readPair (low high : Register) :
    Mirrors view (readPair low high) (readPair low high) :=
  .bind (mirrors_read seen _) fun _ => .bind (mirrors_read seen _) fun _ => .pure _

theorem mirrors_store (addr : UInt32) (data : ByteArray) :
    Mirrors view (store addr data) (store addr data) := by
  intro link
  unfold store
  dsimp only [Link.map]
  rw [seen.store]
  cases Bus.store addr data link.bus <;> rfl

theorem mirrors_load (addr : UInt32) :
    Mirrors.Sliced (Link.map view) (load addr) (load addr) := by
  rintro ⟨link, slice⟩
  unfold load
  dsimp only [Link.map]
  rw [seen.load]

theorem mirrors_stage (data : ByteArray) : Mirrors view (stage data) (stage data) := by
  unfold stage
  refine .get_bind fun link => ?_
  dsimp only [Link.map]
  rw [seen.stagingBytes, seen.stagingBase]
  exact .guard (.report _) fun _ => .bind (mirrors_store seen _ _) fun _ => .pure _

theorem mirrors_poll {probe : Probe β α} {image : Probe γ α}
    (mirrors : Probe.Mirrors view probe image) (interval timeout : UInt64) :
    Mirrors view (poll interval timeout probe) (poll interval timeout image) := by
  intro link
  unfold poll Probe.poll
  dsimp only [Link.map]
  rw [seen.patience, mirrors.loop]

theorem mirrors_engineWait (engine : Engine) (timeout : UInt64) :
    Mirrors view (engine.wait timeout) (engine.wait timeout) :=
  mirrors_poll seen seen.engineProbe _ _

theorem mirrors_waitForSlot (engine : Engine) :
    Mirrors view engine.waitForSlot engine.waitForSlot := by
  intro link
  unfold Engine.waitForSlot
  rw [mirrors_engineWait seen]
  rcases engine.wait Engine.slotTimeout link with ⟨(cause | cause) | result, after⟩
  · rfl
  · cases cause <;> rfl
  · rfl

theorem mirrors_engineRequest (engine : Engine) (d : Descriptor) :
    Mirrors view (engine.request d) (engine.request d) := by
  have write (reg : Register) (value : UInt32) := mirrors_write seen reg value
  have go : Mirrors view
      (do Link.write .dmaCtrl d.controlWord; return { engine with started := engine.started + 1 })
      (do Link.write .dmaCtrl d.controlWord; return { engine with started := engine.started + 1 }) :=
    .bind (write _ _) fun _ => .pure _
  exact .bind (write _ _) fun _ => .bind (write _ _) fun _ => .bind (write _ _) fun _ =>
    .ite (.bind (write _ _) fun _ => .bind (write _ _) fun _ => go) go

theorem mirrors_engineStart (engine : Engine) (d : Descriptor) :
    Mirrors view (engine.start d) (engine.start d) := by
  unfold Engine.start
  split
  · exact fun _ => rfl
  · exact .bind (mirrors_testBits seen _ _) fun busy => .guard (mirrors_waitForSlot seen engine) fun _ =>
      mirrors_engineRequest seen engine d

theorem mirrors_sample : Mirrors view Counters.sample Counters.sample :=
  .bind (mirrors_readPair seen _ _) fun _ => .bind (mirrors_read seen _) fun _ =>
    .bind (mirrors_readPair seen _ _) fun _ => .bind (mirrors_read seen _) fun _ => .pure _

theorem mirrors_resetHardware : Mirrors view Counters.resetHardware Counters.resetHardware :=
  .bind (mirrors_write seen _ _) fun _ => .bind (mirrors_delay _) fun _ => mirrors_write seen _ _

end Link

namespace Host

variable {β γ α : Type} {view : β → γ}

abbrev Mirrors (view : β → γ) (action : HostM β α) (image : HostM γ α) : Prop :=
  NpuStack.Mirrors (Host.map view) action image

theorem mirrors_onLink {action : LinkM β α} {image : LinkM γ α} (mirrors : Link.Mirrors view action image) :
    Mirrors view (onLink action) (onLink image) := by
  intro host
  rw [onLink_eq, onLink_eq]
  dsimp only [Host.map]
  rw [mirrors host.link]

abbrev Sliced (view : β → γ) (action : SliceM (Host β) α) (image : SliceM (Host γ) α) : Prop :=
  NpuStack.Mirrors.Sliced (Host.map view) action image

theorem mirrors_onHost {action : HostM β α} {image : HostM γ α} (mirrors : Mirrors view action image) :
    Sliced view (onHost action) (onHost image) := by
  rintro ⟨host, slice⟩
  rw [onHost_eq, onHost_eq, mirrors host]

theorem mirrors_getConfig : Mirrors view getConfig getConfig := fun _ => rfl

theorem mirrors_getContext : Mirrors view getContext getContext := fun _ => rfl

theorem mirrors_modifyContext (change : Context → Context) :
    Mirrors view (modifyContext change) (modifyContext change) := fun _ => rfl

theorem mirrors_raise (cause : HostError) : Mirrors (α := α) view (raise cause) (raise cause) :=
  fun _ => rfl

theorem mirrors_checked (value : Checked α) : Mirrors view (checked value) (checked value) := by
  intro host
  cases value <;> rfl

theorem mirrors_fail (cause : HostError) : Mirrors (α := α) view (fail cause) (fail cause) :=
  .bind (mirrors_modifyContext _) fun _ => mirrors_raise cause

theorem mirrors_noting {action : HostM β α} {image : HostM γ α} (mirrors : Mirrors view action image) :
    Mirrors view (noting action) (noting image) := by
  refine .bind (mirrors.attempt) fun result => ?_
  cases result with
  | error cause => exact mirrors_fail cause
  | ok value => exact .pure value

theorem mirrors_ensureInitialized : Mirrors view ensureInitialized ensureInitialized :=
  .bind mirrors_getContext fun _ => .ite (mirrors_raise _) (.pure _)

theorem mirrors_ensureLoadable (operation : String) :
    Mirrors view (ensureLoadable operation) (ensureLoadable operation) := by
  refine .bind mirrors_getContext fun context => ?_
  split
  all_goals first | exact mirrors_raise _ | exact .pure _

theorem mirrors_forgetTransfers : Mirrors view forgetTransfers forgetTransfers := fun _ => rfl

theorem mirrors_delay (microseconds : UInt64) :
    Mirrors view (delay microseconds) (delay microseconds) :=
  mirrors_onLink (Link.mirrors_delay _)

variable [Bus β] [Bus γ] (seen : Bus.View view)
include seen

theorem mirrors_read (reg : Register) : Mirrors view (read reg) (read reg) :=
  mirrors_onLink (Link.mirrors_read seen _)

theorem mirrors_write (reg : Register) (value : UInt32) :
    Mirrors view (write reg value) (write reg value) :=
  mirrors_onLink (Link.mirrors_write seen _ _)

theorem mirrors_setBits (reg : Register) (mask : UInt32) :
    Mirrors view (setBits reg mask) (setBits reg mask) :=
  mirrors_onLink (Link.mirrors_setBits seen _ _)

theorem mirrors_clearBits (reg : Register) (mask : UInt32) :
    Mirrors view (clearBits reg mask) (clearBits reg mask) :=
  mirrors_onLink (Link.mirrors_clearBits seen _ _)

theorem mirrors_waitIdle (timeout : UInt64) : Mirrors view (waitIdle timeout) (waitIdle timeout) :=
  .bind mirrors_getConfig fun _ => mirrors_onLink (Link.mirrors_poll seen seen.idleProbe _ _)

theorem mirrors_programBuffers : Mirrors view programBuffers programBuffers :=
  .bind mirrors_getConfig fun _ => .bind (mirrors_write seen _ _) fun _ =>
    .bind (mirrors_write seen _ _) fun _ => .bind (mirrors_write seen _ _) fun _ =>
    .bind (mirrors_checked _) fun _ => .bind (mirrors_write seen _ _) fun _ => mirrors_write seen _ _

theorem mirrors_init (config : Config) : Mirrors view (init config) (init config) := by
  have install : Mirrors view (install config) (install config) := fun _ => rfl
  exact .bind mirrors_getContext fun _ => .guard (mirrors_raise _) fun _ =>
    .guard (mirrors_raise _) fun _ => .bind install fun _ => .bind (mirrors_programBuffers seen) fun _ =>
    .guard (mirrors_write seen _ _) fun _ => mirrors_modifyContext _

theorem mirrors_stop : Mirrors view stop stop := by
  refine .bind mirrors_ensureInitialized fun _ => .bind (mirrors_setBits seen _ _) fun _ =>
    .bind (mirrors_waitIdle seen _).attempt fun result =>
    .bind (mirrors_clearBits seen _ _) fun _ => .bind (mirrors_modifyContext _) fun _ => ?_
  cases result with
  | error cause => exact mirrors_raise cause
  | ok _ => exact .pure _

theorem mirrors_abort : Mirrors view abort abort := by
  refine .bind mirrors_ensureInitialized fun _ => .bind (mirrors_setBits seen _ _) fun _ =>
    .bind (mirrors_delay _) fun _ => .bind (mirrors_clearBits seen _ _) fun _ =>
    .bind (mirrors_delay _) fun _ => .bind (mirrors_waitIdle seen _).attempt fun result => ?_
  cases result with
  | error cause => exact .bind (mirrors_modifyContext _) fun _ => mirrors_fail cause
  | ok _ => exact .bind (mirrors_setBits seen _ _) fun _ => mirrors_modifyContext _

theorem mirrors_refreshCounters : Mirrors view refreshCounters refreshCounters :=
  .bind (mirrors_onLink (Link.mirrors_sample seen)) fun _ _ => rfl

theorem mirrors_perf : Mirrors view perf perf :=
  .bind (mirrors_refreshCounters seen) fun _ => .bind mirrors_getContext fun _ => .pure _

theorem mirrors_resetCounters : Mirrors view resetCounters resetCounters :=
  .bind (mirrors_onLink (Link.mirrors_resetHardware seen)) fun _ =>
    .bind (mirrors_modifyContext _) fun _ => mirrors_forgetTransfers

theorem mirrors_reset : Mirrors view reset reset :=
  .bind (mirrors_setBits seen _ _) fun _ => .bind (mirrors_delay _) fun _ =>
    .bind (mirrors_write seen _ _) fun _ => .bind (mirrors_write seen _ _) fun _ =>
    .bind (mirrors_programBuffers seen) fun _ => .bind (mirrors_resetCounters seen) fun _ =>
    mirrors_modifyContext _

theorem mirrors_deinit : Mirrors view deinit deinit :=
  .bind mirrors_getContext fun _ => .ite (.bind (mirrors_stop seen).attempt fun _ =>
    .bind (mirrors_write seen _ _) fun _ => .bind (mirrors_modifyContext _) fun _ =>
    mirrors_forgetTransfers) (.pure _)

theorem mirrors_hardwareInfo : Mirrors view hardwareInfo hardwareInfo :=
  .bind (mirrors_read seen _) fun _ => .bind (mirrors_read seen _) fun _ => .pure _

theorem mirrors_verifyHardware : Mirrors view verifyHardware verifyHardware :=
  .bind (mirrors_hardwareInfo seen) fun _ => .guard (mirrors_raise _) fun _ =>
    .guard (mirrors_raise _) fun _ => .pure _

theorem mirrors_firstMismatch (patterns : List (Register × UInt32)) :
    Mirrors view (firstMismatch patterns) (firstMismatch patterns) := by
  induction patterns with
  | nil => exact .pure _
  | cons entry patterns ih =>
    exact .bind (mirrors_write seen _ _) fun _ => .bind (mirrors_read seen _) fun _ =>
      .ite (.pure _) ih

theorem mirrors_readAll (registers : List Register) :
    Mirrors view (readAll registers) (readAll registers) := by
  induction registers with
  | nil => exact .pure _
  | cons reg registers ih => exact .bind (mirrors_read seen _) fun _ => .bind ih fun _ => .pure _

theorem mirrors_writeAll (entries : List (Register × UInt32)) :
    Mirrors view (writeAll entries) (writeAll entries) := by
  induction entries with
  | nil => exact .pure _
  | cons entry entries ih => exact .bind (mirrors_write seen _ _) fun _ => ih

theorem mirrors_clearAccumulators : Mirrors view clearAccumulators clearAccumulators :=
  .bind (mirrors_setBits seen _ _) fun _ => .bind (mirrors_delay _) fun _ => mirrors_clearBits seen _ _

theorem mirrors_selfTest : Mirrors view selfTest selfTest := by
  refine .bind (mirrors_readAll seen _) fun _ => .bind (mirrors_firstMismatch seen _) fun failed =>
    .bind (mirrors_writeAll seen _) fun _ => .bind (mirrors_clearAccumulators seen) fun _ => ?_
  cases failed with
  | none => exact .pure _
  | some reg => exact mirrors_raise _

theorem mirrors_boot : Mirrors view boot boot := by
  refine .bind (mirrors_setBits seen _ _) fun _ => .bind (mirrors_delay _) fun _ =>
    .bind (mirrors_clearBits seen _ _) fun _ => .bind (mirrors_delay _) fun _ =>
    .bind (mirrors_waitIdle seen _) fun _ => .bind (mirrors_verifyHardware seen) fun info => ?_
  refine .bind (mirrors_write seen _ _) fun _ => .bind (mirrors_write seen _ _) fun _ =>
    .bind (mirrors_write seen _ _) fun _ => .bind (mirrors_delay _) fun _ =>
    .bind (mirrors_write seen _ _) fun _ => .bind (mirrors_writeAll seen _) fun _ =>
    .bind (mirrors_write seen _ _) fun _ => ?_
  exact .bind (mirrors_clearAccumulators seen) fun _ => .bind (mirrors_writeAll seen _) fun _ =>
    .bind (mirrors_write seen _ _) fun _ => .bind (mirrors_delay _) fun _ =>
    .bind (mirrors_write seen _ _) fun _ => .bind (mirrors_setBits seen _ _) fun _ =>
    .bind (mirrors_selfTest seen) fun _ => .pure _

theorem mirrors_sleep : Mirrors view sleep sleep :=
  .bind (mirrors_clearBits seen _ _) fun _ => .bind (mirrors_write seen _ _) fun _ =>
    mirrors_write seen _ _

theorem mirrors_wake : Mirrors view wake wake :=
  .bind (mirrors_setBits seen _ _) fun _ => .bind (mirrors_write seen _ _) fun _ =>
    .bind mirrors_getConfig fun _ => .bind mirrors_getContext fun _ =>
    .guard (mirrors_write seen _ _) fun _ => mirrors_waitIdle seen _

theorem mirrors_startTransfer (d : Descriptor) : Mirrors view (startTransfer d) (startTransfer d) :=
  .get_bind fun host => .bind (mirrors_onLink (Link.mirrors_engineStart seen host.engine d)) fun _ _ => rfl

theorem mirrors_waitTransfer (timeout : UInt64) :
    Mirrors view (waitTransfer timeout) (waitTransfer timeout) :=
  .get_bind fun host => mirrors_onLink (Link.mirrors_engineWait seen host.engine timeout)

theorem mirrors_transfer (d : Descriptor) : Mirrors view (transfer d) (transfer d) :=
  .bind (mirrors_noting (mirrors_startTransfer seen d)) fun _ =>
    mirrors_noting (mirrors_waitTransfer seen _)

theorem mirrors_dmaTransfer (d : Descriptor) (timeout : UInt64) :
    Mirrors view (dmaTransfer d timeout) (dmaTransfer d timeout) :=
  .bind mirrors_ensureInitialized fun _ => .bind (mirrors_startTransfer seen d) fun _ =>
    mirrors_waitTransfer seen timeout

theorem mirrors_loadInstructions (instructions : Array Instruction) :
    Mirrors view (loadInstructions instructions) (loadInstructions instructions) :=
  .bind (mirrors_ensureLoadable _) fun _ => .guard (mirrors_raise _) fun _ =>
    .bind mirrors_getConfig fun _ => .guard (mirrors_fail _) fun _ =>
    .bind (mirrors_onLink (Link.mirrors_store seen _ _)) fun _ =>
    .bind (mirrors_write seen _ _) fun _ => .bind (mirrors_write seen _ _) fun _ =>
    mirrors_modifyContext _

theorem mirrors_loadWeights (data : ByteArray) (offset : UInt32) :
    Mirrors view (loadWeights data offset) (loadWeights data offset) := by
  have finish (stop : UInt32) : Mirrors view (do write .weightSize stop; setState .loading)
      (do write .weightSize stop; setState .loading) :=
    .bind (mirrors_write seen _ _) fun _ => mirrors_modifyContext _
  refine .bind (mirrors_ensureLoadable _) fun _ => .guard (mirrors_raise _) fun _ =>
    .bind mirrors_getConfig fun _ => .guard (mirrors_fail _) fun _ =>
    .bind (mirrors_checked _) fun _ => .ite ?_ ?_
  · exact .bind (mirrors_onLink (Link.mirrors_stage seen _)) fun _ =>
      .bind (mirrors_transfer seen _) fun _ => finish _
  · exact .bind (mirrors_onLink (Link.mirrors_store seen _ _)) fun _ => finish _

theorem mirrors_loadInput (data : ByteArray) : Mirrors view (loadInput data) (loadInput data) :=
  .bind (mirrors_ensureLoadable _) fun _ => .guard (mirrors_raise _) fun _ =>
    .bind mirrors_getConfig fun _ => .guard (mirrors_fail _) fun _ =>
    .bind (mirrors_onLink (Link.mirrors_stage seen _)) fun _ => .bind (mirrors_transfer seen _) fun _ =>
    .bind (mirrors_write seen _ _) fun _ => mirrors_modifyContext _

theorem mirrors_copyImage (image : Model.Image) : Mirrors view (copyImage image) (copyImage image) := by
  have bias : Mirrors view
      (if !image.bias.isEmpty then loadWeights image.bias image.header.weightBytes else pure ())
      (if !image.bias.isEmpty then loadWeights image.bias image.header.weightBytes else pure ()) :=
    .ite (mirrors_loadWeights seen _ _) (.pure _)
  exact .guard (mirrors_loadInstructions seen _) fun _ =>
    .ite (.bind (mirrors_loadWeights seen _ _) fun _ => bias) bias

theorem mirrors_loadModel (data : ByteArray) : Mirrors view (loadModel data) (loadModel data) := by
  have read : Mirrors view (readModel data) (readModel data) := by
    unfold readModel
    split
    · exact .pure _
    · exact mirrors_fail _
    · exact mirrors_checked _
  refine .bind (mirrors_ensureLoadable _) fun _ => .bind read fun image =>
    .bind mirrors_getConfig fun _ => .guard (mirrors_fail _) fun _ => .guard (mirrors_fail _) fun _ =>
    .bind (mirrors_copyImage seen _).attempt fun result => ?_
  cases result with
  | error cause =>
    exact .bind (.bind (mirrors_write seen _ _) fun _ => .bind (mirrors_write seen _ _) fun _ =>
      mirrors_modifyContext _) fun _ => mirrors_fail cause
  | ok _ => exact .bind (mirrors_modifyContext _) fun _ => .pure _

theorem mirrors_start : Mirrors view start start :=
  .bind (mirrors_ensureLoadable _) fun _ => .bind (mirrors_write seen _ _) fun _ =>
    .bind (mirrors_modifyContext _) fun _ => .bind (mirrors_write seen _ _) fun _ =>
    .bind (mirrors_modifyContext _) fun _ => mirrors_setBits seen _ _

theorem mirrors_complete : Mirrors view complete complete :=
  .bind (mirrors_read seen _) fun _ => .bind (mirrors_modifyContext _) fun _ =>
    .bind (mirrors_refreshCounters seen) fun _ => mirrors_modifyContext _

theorem mirrors_conclude (answer : Except HostError Unit) :
    Mirrors view (conclude answer) (conclude answer) := by
  unfold conclude
  split
  · exact mirrors_complete seen
  · exact .bind (mirrors_modifyContext _) fun _ => mirrors_fail _
  · exact mirrors_fail _

theorem mirrors_wait (timeout : UInt64) : Mirrors view (wait timeout) (wait timeout) :=
  .bind mirrors_ensureInitialized fun _ => .bind mirrors_getConfig fun _ =>
    .bind (mirrors_onLink (Link.mirrors_poll seen seen.completionProbe _ _)).attempt fun _ =>
    mirrors_conclude seen _

theorem mirrors_handleIrq : Mirrors view handleIrq handleIrq := by
  unfold handleIrq
  refine .bind (mirrors_read seen _) fun pending => .ite (.pure _) ?_
  refine .bind (mirrors_write seen _ _) fun _ => .get_bind fun host => ?_
  have fault (told : List Completion) : Mirrors view (serveFault pending host.listening told)
      (serveFault pending host.listening told) :=
    .ite (.bind (mirrors_read seen _) fun _ => .bind (mirrors_modifyContext _) fun _ =>
      .bind (mirrors_modifyContext _) fun _ => .ite (.pure _) (.pure _)) (.pure _)
  refine .ite (.bind (mirrors_complete seen) fun _ => ?_) (fault _)
  exact .ite (.bind mirrors_getContext fun _ => fault _) (fault _)

theorem mirrors_fillFront (addr : UInt32) (size : Nat) :
    Sliced view (fillFront addr size) (fillFront addr size) := by
  rintro ⟨host, slice⟩
  unfold fillFront
  dsimp only [Host.map]
  rw [Link.mirrors_load seen addr (host.link, slice.extract 0 size)]
  rcases Link.load addr (host.link, slice.extract 0 size) with ⟨result, link, front⟩
  rfl

theorem mirrors_drainOutput (size : Nat) : Sliced view (drainOutput size) (drainOutput size) := by
  unfold drainOutput
  refine .bind (mirrors_onHost (mirrors_read seen _)) fun src => .get_bind fun state => ?_
  dsimp only [Host.map, Link.map]
  rw [seen.stagingBase]
  exact .bind (mirrors_onHost (mirrors_transfer seen _)) fun _ => mirrors_fillFront seen _ _

theorem mirrors_readableBytes (buffer : ByteArray) :
    Mirrors view (readableBytes buffer) (readableBytes buffer) := by
  unfold readableBytes
  refine .bind mirrors_ensureInitialized fun _ => .guard (mirrors_raise _) fun _ =>
    .bind mirrors_getContext fun _ => .guard (mirrors_raise _) fun _ =>
    .bind (mirrors_read seen _) fun _ => .get_bind fun host => ?_
  dsimp only [Host.map, Link.map]
  rw [seen.stagingBytes]
  exact .pure _

theorem mirrors_readOutput : Sliced view readOutput readOutput := by
  have state (s : RunState) : Sliced view (onHost (setState s)) (onHost (setState s)) :=
    mirrors_onHost (mirrors_modifyContext _)
  unfold readOutput
  refine .get_bind fun _ => .bind (mirrors_onHost (mirrors_readableBytes seen _)) fun size =>
    .ite (.pure _) (.bind (mirrors_onHost mirrors_getContext) fun _ => .bind (state _) fun _ =>
    .bind (mirrors_drainOutput seen _).attempt fun result => ?_)
  cases result with
  | error cause => exact .bind (state _) fun _ => mirrors_onHost (mirrors_raise cause)
  | ok _ => exact .bind (state _) fun _ => .pure _

theorem mirrors_configureLayer (layer : Layer) :
    Mirrors view (configureLayer layer) (configureLayer layer) := by
  unfold configureLayer
  iterate 11 refine .bind (mirrors_write seen _ _) fun _ => ?_
  exact .guard (mirrors_write seen _ _) fun _ => .bind (mirrors_write seen _ _) fun _ =>
    mirrors_write seen _ _

theorem mirrors_compileLayer (layer : Layer) :
    Mirrors view (compileLayer layer) (compileLayer layer) := by
  refine .bind (mirrors_hardwareInfo seen) fun info => ?_
  split
  · exact .pure _
  · exact mirrors_checked _
  · exact mirrors_raise _

theorem mirrors_compileAndRun (layer : Layer) :
    Mirrors view (compileAndRun layer) (compileAndRun layer) :=
  .bind (mirrors_ensureLoadable _) fun _ => .bind (mirrors_compileLayer seen layer) fun _ =>
    .bind (mirrors_configureLayer seen layer) fun _ => .bind (mirrors_loadInstructions seen _) fun _ =>
    .bind (mirrors_start seen) fun _ => .bind mirrors_getConfig fun _ => .bind (mirrors_wait seen _) fun _ =>
    .bind (mirrors_modifyContext _) fun _ => .bind mirrors_getContext fun _ => .pure _

end Host

namespace Operation

variable {β γ : Type} [Bus β] [Bus γ] {view : β → γ}

/-- No operation tells a bus from its view. -/
theorem mirrors_perform (seen : Bus.View view) (op : Operation) :
    Host.Mirrors view op.perform op.perform := by
  cases op with
  | init config => exact (Host.mirrors_init seen config).map _
  | deinit => exact (Host.mirrors_deinit seen).map _
  | boot => exact (Host.mirrors_boot seen).map _
  | selfTest => exact (Host.mirrors_selfTest seen).map _
  | verifyHardware => exact (Host.mirrors_verifyHardware seen).map _
  | hardwareInfo => exact (Host.mirrors_hardwareInfo seen).map _
  | hardwareState => exact (Mirrors.bind (Host.mirrors_read seen _) fun _ => .pure _).map _
  | sleep => exact (Host.mirrors_sleep seen).map _
  | wake => exact (Host.mirrors_wake seen).map _
  | loadInstructions instructions => exact (Host.mirrors_loadInstructions seen _).map _
  | loadWeights data offset => exact (Host.mirrors_loadWeights seen _ _).map _
  | loadInput data => exact (Host.mirrors_loadInput seen _).map _
  | loadModel data => exact (Host.mirrors_loadModel seen _).map _
  | start => exact (Host.mirrors_start seen).map _
  | wait timeout => exact (Host.mirrors_wait seen _).map _
  | isDone =>
    exact (Mirrors.bind Host.mirrors_getContext fun _ =>
      .ite (Host.mirrors_onLink (Link.mirrors_testBits seen _ _)) (.pure _)).map _
  | stop => exact (Host.mirrors_stop seen).map _
  | abort => exact (Host.mirrors_abort seen).map _
  | reset => exact (Host.mirrors_reset seen).map _
  | handleIrq => exact (Host.mirrors_handleIrq seen).map _
  | outputSize => exact (Host.mirrors_read seen _).map _
  | readOutput buffer => exact (Mirrors.lend (Host.mirrors_readOutput seen)).map _
  | perf => exact (Host.mirrors_perf seen).map _
  | resetCounters => exact (Host.mirrors_resetCounters seen).map _
  | configureLayer layer => exact (Host.mirrors_configureLayer seen _).map _
  | dmaTransfer d timeout => exact (Host.mirrors_dmaTransfer seen _ _).map _
  | compileAndRun layer => exact (Host.mirrors_compileAndRun seen _).map _
  | setListening listening => exact Mirrors.map _ fun _ => rfl

/-- The steps of a host on the view are the steps on the bus. -/
theorem step_map_iff (seen : Bus.View view) {op : Operation} {before : Host β}
    {answer : Except HostError Reply} {image : Host γ} :
    op.Step (before.map view) answer image ↔
      ∃ after, op.Step before answer after ∧ after.map view = image := by
  have same := (mirrors_perform seen op).attempt before
  unfold Step
  rw [same]
  constructor
  · intro step
    injection step with value last
    exact ⟨_, Prod.ext value rfl, last⟩
  · rintro ⟨after, step, rfl⟩
    rw [step]

end Operation

section Reachable

variable {β γ : Type} [Bus β] [Bus γ] {view : β → γ} {fresh : β → Prop} {altered : β → β → Prop}
  {fresh' : γ → Prop} {altered' : γ → γ → Prop}

/-- A host that is reached on a bus is reached on its view. -/
theorem Reachable.map (seen : Bus.View view) (first : ∀ bus, fresh bus → fresh' (view bus))
    (change : ∀ bus after, altered bus after → altered' (view bus) (view after)) {host : Host β}
    (reached : Reachable fresh altered host) : Reachable fresh' altered' (host.map view) := by
  induction reached with
  | start built => exact .start (first _ built)
  | step _ step ih => exact .step ih ((Operation.step_map_iff seen).mpr ⟨_, step, rfl⟩)
  | alter _ alters ih => exact .alter ih (change _ _ alters)

/-- Every run on the view is the view of a run on the bus. -/
theorem Reachable.exists_map (seen : Bus.View view)
    (first : ∀ image, fresh' image → ∃ bus, fresh bus ∧ view bus = image)
    (change : ∀ bus image, altered' (view bus) image → ∃ after, altered bus after ∧ view after = image)
    {image : Host γ} (reached : Reachable fresh' altered' image) :
    ∃ host, Reachable fresh altered host ∧ host.map view = image := by
  induction reached with
  | start built =>
    obtain ⟨bus, made, rfl⟩ := first _ built
    exact ⟨_, .start made, rfl⟩
  | step _ step ih =>
    obtain ⟨host, reached, rfl⟩ := ih
    obtain ⟨after, step, same⟩ := (Operation.step_map_iff seen).mp step
    exact ⟨after, .step reached step, same⟩
  | @alter _ _ clock _ alters ih =>
    obtain ⟨host, reached, rfl⟩ := ih
    obtain ⟨bus, alike, rfl⟩ := change _ _ alters
    exact ⟨{ host with link := ⟨bus, clock⟩ }, .alter reached alike, rfl⟩

end Reachable

/-- A bus whose writes are observed: what is known after each write depends on the write and on the
bus before it. -/
structure Watched {β κ : Type} (note : Register → UInt32 → β → κ → κ) where
  bus : β
  known : κ

namespace Watched

variable {β κ : Type} [Bus β] {note : Register → UInt32 → β → κ → κ}

instance : Bus (Watched note) where
  read reg watched :=
    let (value, bus) := Bus.read reg watched.bus
    (value, ⟨bus, watched.known⟩)
  write reg value watched :=
    ⟨Bus.write reg value watched.bus, note reg value watched.bus watched.known⟩
  store addr data watched := (Bus.store addr data watched.bus).map (⟨·, watched.known⟩)
  load addr slice watched := Bus.load addr slice watched.bus
  stagingBase watched := Bus.stagingBase watched.bus
  stagingBytes watched := Bus.stagingBytes watched.bus
  patience watched := Bus.patience watched.bus

/-- To be observed makes no difference. -/
theorem view_bus : Bus.View (Watched.bus : Watched note → β) where
  read _ _ := rfl
  write _ _ _ := rfl
  store addr data watched := by
    show Bus.store addr data watched.bus =
      ((Bus.store addr data watched.bus).map (⟨·, watched.known⟩)).map Watched.bus
    cases Bus.store addr data watched.bus <;> rfl
  load _ _ _ := rfl
  stagingBase _ := rfl
  stagingBytes _ := rfl
  patience _ := rfl

theorem exists_bus {addr : UInt32} {data : ByteArray} {before after : Watched note}
    (stored : Bus.store addr data before = .ok after) :
    ∃ bus, Bus.store addr data before.bus = .ok bus ∧ after = ⟨bus, before.known⟩ := by
  simp only [Bus.store] at stored
  cases kept : Bus.store addr data before.bus with
  | error cause =>
    rw [kept] at stored
    cases stored
  | ok bus =>
    rw [kept] at stored
    cases stored
    exact ⟨bus, rfl, rfl⟩

def Fresh (fresh : β → Prop) (nothing : κ) (watched : Watched note) : Prop :=
  fresh watched.bus ∧ watched.known = nothing

/-- What happens to the bus between operations is not noted. -/
def Altered (altered : β → β → Prop) (before after : Watched note) : Prop :=
  altered before.bus after.bus ∧ after.known = before.known

end Watched

section Watched

variable {β κ : Type} [Bus β] {note : Register → UInt32 → β → κ → κ} {nothing : κ} {fresh : β → Prop}
  {altered : β → β → Prop}

theorem Reachable.unwatched {watched : Host (Watched note)}
    (reached : Reachable (Watched.Fresh fresh nothing) (Watched.Altered altered) watched) :
    Reachable fresh altered (watched.map Watched.bus) :=
  reached.map Watched.view_bus (fun _ built => built.1) fun _ _ change => change.1

/-- Every run can be observed from its start. -/
theorem Reachable.watched {host : Host β} (reached : Reachable fresh altered host)
    (note : Register → UInt32 → β → κ → κ) (nothing : κ) :
    ∃ watched : Host (Watched note),
      Reachable (Watched.Fresh fresh nothing) (Watched.Altered altered) watched ∧
      watched.map Watched.bus = host :=
  reached.exists_map Watched.view_bus (fun bus built => ⟨⟨bus, nothing⟩, ⟨built, rfl⟩, rfl⟩)
    fun watched bus change => ⟨⟨bus, watched.known⟩, ⟨change, rfl⟩, rfl⟩

end Watched

end NpuStack
