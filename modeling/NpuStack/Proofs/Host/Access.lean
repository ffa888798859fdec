import NpuStack.Proofs.Host.Outcome

/-! What outlasts an access to the device. A property that survives single
reads and stores, the passing of time and writes to some registers survives
everything that is built from them and writes no other register. -/

set_option autoImplicit false

namespace NpuStack

variable {β : Type} [Bus β]

/-- A property of the link that single accesses cannot end, as long as they write to `writable`
registers only. -/
structure Link.Stable (writable : Register → Prop) (kept : Link β → Prop) : Prop where
  read : ∀ link reg, kept link → kept { link with bus := (Bus.read reg link.bus).2 }
  write : ∀ link reg value, writable reg → kept link →
    kept { link with bus := Bus.write reg value link.bus }
  store : ∀ link addr data bus, Bus.store addr data link.bus = .ok bus → kept link →
    kept { link with bus }
  time : ∀ link clock, kept link → kept { link with clock }

def Engine.registers : List Register :=
  [.dmaSrc, .dmaDst, .dmaLen, .dmaSrcStride, .dmaDstStride, .dmaCtrl]

def Probe.OnlyReads {α : Type} (probe : Probe β α) : Prop :=
  ∀ kept : β → Prop, (∀ bus reg, kept bus → kept (Bus.read reg bus).2) →
    ∀ bus, kept bus → kept (probe bus).2

namespace Link.Stable

variable {α : Type} {writable : Register → Prop} {kept : Link β → Prop}
  (stable : Link.Stable writable kept)
include stable

theorem mono {narrower : Register → Prop} (within : ∀ reg, narrower reg → writable reg) :
    Link.Stable narrower kept where
  read := stable.read
  write link reg value inside held := stable.write link reg value (within reg inside) held
  store := stable.store
  time := stable.time

theorem preserves_read (reg : Register) : Preserves kept (Link.read reg) :=
  fun link held => stable.read link reg held

theorem preserves_write {reg : Register} (inside : writable reg) (value : UInt32) :
    Preserves kept (Link.write reg value) :=
  fun link held => stable.write link reg value inside held

theorem preserves_delay (microseconds : UInt64) : Preserves kept (Link.delay microseconds) :=
  fun link held => stable.time link _ held

theorem preserves_setBits {reg : Register} (inside : writable reg) (mask : UInt32) :
    Preserves kept (Link.setBits reg mask) :=
  .bind (stable.preserves_read reg) fun _ => stable.preserves_write inside _

theorem preserves_clearBits {reg : Register} (inside : writable reg) (mask : UInt32) :
    Preserves kept (Link.clearBits reg mask) :=
  .bind (stable.preserves_read reg) fun _ => stable.preserves_write inside _

theorem preserves_testBits (reg : Register) (mask : UInt32) :
    Preserves kept (Link.testBits reg mask) :=
  .bind (stable.preserves_read reg) fun _ => .pure _

theorem preserves_readPair (low high : Register) : Preserves kept (Link.readPair low high) :=
  .bind (stable.preserves_read low) fun _ => .bind (stable.preserves_read high) fun _ => .pure _

theorem preserves_store (addr : UInt32) (data : ByteArray) :
    Preserves kept (Link.store addr data) := by
  intro link held
  unfold wlp Link.store
  cases stored : Bus.store addr data link.bus with
  | error cause => exact held
  | ok bus => exact stable.store link addr data bus stored held

theorem preserves_stage (data : ByteArray) : Preserves kept (Link.stage data) := by
  unfold Link.stage
  refine .bind .get fun link => .guard (.throw _) fun _ => ?_
  exact .bind (stable.preserves_store _ data) fun _ => .pure _

/-- A poll is looks and delays. -/
theorem kept_loop {probe : Probe β α} (reads : probe.OnlyReads) (interval timeout started : UInt64)
    (fuel : Nat) (clock : Clock) (bus : β) (held : kept ⟨bus, clock⟩) :
    kept ⟨(probe.loop interval timeout started fuel clock bus).2.2,
      (probe.loop interval timeout started fuel clock bus).2.1⟩ := by
  have look (clock : Clock) (bus : β) (held : kept ⟨bus, clock⟩) : kept ⟨(probe bus).2, clock⟩ :=
    reads (fun bus => kept ⟨bus, clock⟩) (fun bus reg held => stable.read ⟨bus, clock⟩ reg held)
      bus held
  induction fuel generalizing clock bus with
  | zero => exact held
  | succ fuel ih =>
    have looked := look clock bus held
    unfold Probe.loop
    split
    case h_1 seen => rwa [seen] at looked
    case h_2 seen => rwa [seen] at looked
    case h_3 seen =>
      rw [seen] at looked
      split
      · exact looked
      · exact ih _ _ (stable.time _ _ looked)

theorem preserves_poll {probe : Probe β α} (reads : probe.OnlyReads) (interval timeout : UInt64) :
    Preserves kept (Link.poll interval timeout probe) :=
  .of_state fun link held => stable.kept_loop reads interval timeout link.clock.now
    (Probe.budget interval timeout (Bus.patience link.bus)) link.clock link.bus held

theorem preserves_engineWait (engine : Engine) (timeout : UInt64) :
    Preserves kept (engine.wait timeout) := by
  apply stable.preserves_poll
  intro kept reads bus held
  have read := reads bus .dmaStatus held
  unfold Engine.probe
  dsimp only
  split
  · exact read
  · split <;> exact read

theorem preserves_waitForSlot (engine : Engine) : Preserves kept engine.waitForSlot := by
  intro link held
  have waited := stable.preserves_engineWait engine Engine.slotTimeout link held
  unfold wlp at waited ⊢
  unfold Engine.waitForSlot
  generalize engine.wait Engine.slotTimeout link = run at waited ⊢
  rcases run with ⟨(cause | cause) | result, after⟩
  case error.error => cases cause <;> exact waited
  all_goals exact waited

theorem preserves_engineRequest (inside : ∀ reg ∈ Engine.registers, writable reg) (engine : Engine)
    (d : Descriptor) : Preserves kept (engine.request d) := by
  have write (reg : Register) (member : reg ∈ Engine.registers) (value : UInt32) :=
    stable.preserves_write (inside reg member) value
  have go : Preserves kept (do
      Link.write .dmaCtrl d.controlWord
      return { engine with started := engine.started + 1 }) :=
    .bind (write _ (by decide) _) fun _ => .pure _
  refine .bind (write _ (by decide) _) fun _ => .bind (write _ (by decide) _) fun _ =>
    .bind (write _ (by decide) _) fun _ => .ite ?_ go
  exact .bind (write _ (by decide) _) fun _ => .bind (write _ (by decide) _) fun _ => go

theorem preserves_engineStart (inside : ∀ reg ∈ Engine.registers, writable reg) (engine : Engine)
    (d : Descriptor) : Preserves kept (engine.start d) := by
  unfold Engine.start
  split
  · exact .throw_bind _ _
  · exact .bind (stable.preserves_testBits _ _) fun busy =>
      .guard (stable.preserves_waitForSlot engine) fun _ => stable.preserves_engineRequest inside engine d

theorem preserves_sample : Preserves kept Counters.sample :=
  .bind (stable.preserves_readPair _ _) fun _ => .bind (stable.preserves_read _) fun _ =>
    .bind (stable.preserves_readPair _ _) fun _ => .bind (stable.preserves_read _) fun _ => .pure _

theorem preserves_resetHardware (inside : writable .perfCtrl) :
    Preserves kept Counters.resetHardware :=
  .bind (stable.preserves_write inside _) fun _ => .bind (stable.preserves_delay _) fun _ =>
    stable.preserves_write inside _

end Link.Stable

inductive Context.Extent where
  /-- The remembered error and the counters. -/
  | notes
  /-- All but what is known of the loaded program. -/
  | progress
  | whole
  deriving DecidableEq

namespace Context.Extent

def Allows : Extent → Context → Context → Prop
  | .notes, before, after => after = { before with lastError := after.lastError, perf := after.perf }
  | .progress, before, after =>
    after.instCount = before.instCount ∧ after.loopCount = before.loopCount ∧
      after.loopStart = before.loopStart ∧ after.totalLayers = before.totalLayers
  | .whole, _, _ => True

theorem allows_notes (extent : Extent) (context : Context) (lastError : Option Int) (perf : Counters) :
    extent.Allows context { context with lastError, perf } := by
  cases extent with
  | notes => rfl
  | progress => exact ⟨rfl, rfl, rfl, rfl⟩
  | whole => trivial

theorem allows_progress {extent : Extent} (wide : extent ≠ .notes) {before after : Context}
    (same : Extent.progress.Allows before after) : extent.Allows before after := by
  cases extent with
  | notes => exact absurd rfl wide
  | progress => exact same
  | whole => trivial

theorem progress_of_allows {extent : Extent} (narrow : extent ≠ .whole) {before after : Context}
    (allowed : extent.Allows before after) : Extent.progress.Allows before after := by
  cases extent with
  | notes =>
    have same : after = { before with lastError := after.lastError, perf := after.perf } := allowed
    refine ⟨?_, ?_, ?_, ?_⟩ <;> rw [same]
  | progress => exact allowed
  | whole => exact absurd rfl narrow

end Context.Extent

/-- How much of the host's memory is at stake. Its books are the count of layers it has run and the
count of transfers it has started. -/
structure Host.Scope where
  extent : Context.Extent
  books : Bool

namespace Host.Scope

abbrev notes : Scope := ⟨.notes, true⟩
abbrev progress : Scope := ⟨.progress, true⟩
abbrev whole : Scope := ⟨.whole, true⟩

abbrev opened (scope : Scope) : Scope := ⟨scope.extent, true⟩

structure Allows (scope : Scope) (before after : Context × Engine) : Prop where
  extent : scope.extent.Allows before.1 after.1
  books : scope.books = false →
    after.1.perf.layers = before.1.perf.layers ∧ after.2.started = before.2.started

variable {scope : Scope} {before after : Context} {engine : Engine}

/-- A change of the context that is not entered in the books. -/
theorem allows_of_extent (allowed : scope.extent.Allows before after)
    (same : after.perf.layers = before.perf.layers) : scope.Allows (before, engine) (after, engine) :=
  ⟨allowed, fun _ => ⟨same, rfl⟩⟩

theorem allows_of_books {engine' : Engine} (books : scope.books = true)
    (allowed : scope.extent.Allows before after) : scope.Allows (before, engine) (after, engine') :=
  ⟨allowed, fun closed => Bool.noConfusion (books.symm.trans closed)⟩

theorem allows_notes (scope : Scope) (context : Context) (lastError : Option Int) {perf : Counters}
    (same : perf.layers = context.perf.layers) :
    scope.Allows (context, engine) ({ context with lastError, perf }, engine) :=
  allows_of_extent (scope.extent.allows_notes context lastError perf) same

theorem allows_progress (wide : scope.extent ≠ .notes) (same : Context.Extent.progress.Allows before after)
    (layers : after.perf.layers = before.perf.layers) :
    scope.Allows (before, engine) (after, engine) :=
  allows_of_extent (Context.Extent.allows_progress wide same) layers

theorem allows_whole (whole : scope.extent = .whole) (same : after.perf.layers = before.perf.layers) :
    scope.Allows (before, engine) (after, engine) :=
  allows_of_extent (whole ▸ trivial) same

end Host.Scope

/-- A property of the host that single accesses cannot end, nor can changes of its memory within a
scope. -/
structure Host.Stable (writable : Register → Prop) (scope : Host.Scope) (kept : Host β → Prop) :
    Prop where
  link : ∀ host : Host β, Link.Stable writable fun link => kept { host with link }
  memory : ∀ (host : Host β) config context engine listening,
    scope.Allows (host.context, host.engine) (context, engine) →
    kept host → kept { host with config, context, engine, listening }

namespace Host

variable {α : Type} {writable : Register → Prop} {scope : Scope} {kept : Host β → Prop}

theorem Stable.narrow (stable : Stable writable .progress kept) (narrow : scope.extent ≠ .whole) :
    Stable writable scope kept where
  link := stable.link
  memory host _ context _ _ allowed held := stable.memory host _ context _ _
    (Scope.allows_of_books rfl (Context.Extent.progress_of_allows narrow allowed.extent)) held

theorem onlyReads_idleProbe : (idleProbe : Probe β Unit).OnlyReads := by
  intro kept reads bus held
  have read := reads bus .status held
  unfold idleProbe
  dsimp only
  split
  · exact read
  · split
    · exact reads _ .errorCode read
    · exact read

theorem onlyReads_completionProbe : (completionProbe : Probe β Unit).OnlyReads := by
  intro kept reads bus held
  have read := reads bus .status held
  unfold completionProbe
  dsimp only
  split
  · exact reads _ .errorCode read
  · split <;> exact read

def placementRegisters : List Register := [.instBase, .weightBase, .actInBase, .actOutBase, .irqEn]

def scratchRegisters : List Register := .peCtrl :: testPatterns.map Prod.fst

def layerRegisters : List Register :=
  [.layerType, .layerInCh, .layerOutCh, .layerInH, .layerInW, .layerOutH, .layerOutW, .layerKernel,
   .layerStride, .layerPadding, .layerActType, .layerPoolType, .layerQuantScale, .layerQuantZero]

theorem maintains_configureLayer
    (writes : ∀ reg ∈ layerRegisters, ∀ value, Maintains kept (write reg value)) (layer : Layer) :
    Maintains kept (configureLayer layer) := by
  unfold configureLayer
  iterate 11 refine .bind (writes _ (by decide) _) fun _ => ?_
  refine .guard (writes _ (by decide) _) fun _ => ?_
  exact .bind (writes _ (by decide) _) fun _ => writes _ (by decide) _

/-- A wait for an idle core has to do with the link only. -/
theorem preserves_waitIdle
    (stable : ∀ host : Host β, Link.Stable writable fun link => kept { host with link })
    (timeout : UInt64) : Preserves kept (waitIdle timeout) :=
  .bind preserves_getConfig fun _ =>
    preserves_onLink fun host => (stable host).preserves_poll onlyReads_idleProbe _ timeout

namespace Stable

variable (stable : Stable writable scope kept)
include stable

theorem mono {narrower : Register → Prop} (within : ∀ reg, narrower reg → writable reg) :
    Stable narrower scope kept where
  link host := (stable.link host).mono within
  memory := stable.memory

theorem preserves_read (reg : Register) : Preserves kept (Host.read reg) :=
  preserves_onLink fun host => (stable.link host).preserves_read reg

theorem preserves_write {reg : Register} (inside : writable reg) (value : UInt32) :
    Preserves kept (Host.write reg value) :=
  preserves_onLink fun host => (stable.link host).preserves_write inside value

theorem preserves_setBits {reg : Register} (inside : writable reg) (mask : UInt32) :
    Preserves kept (Host.setBits reg mask) :=
  preserves_onLink fun host => (stable.link host).preserves_setBits inside mask

theorem preserves_clearBits {reg : Register} (inside : writable reg) (mask : UInt32) :
    Preserves kept (Host.clearBits reg mask) :=
  preserves_onLink fun host => (stable.link host).preserves_clearBits inside mask

theorem preserves_testBits (reg : Register) (mask : UInt32) :
    Preserves kept (Host.testBits reg mask) :=
  preserves_onLink fun host => (stable.link host).preserves_testBits reg mask

theorem preserves_delay (microseconds : UInt64) : Preserves kept (Host.delay microseconds) :=
  preserves_onLink fun host => (stable.link host).preserves_delay microseconds

theorem preserves_poll {probe : Probe β α} (reads : probe.OnlyReads) (interval timeout : UInt64) :
    Preserves kept (onLink (Link.poll interval timeout probe)) :=
  preserves_onLink fun host => (stable.link host).preserves_poll reads interval timeout

theorem preserves_modifyContext {change : Context → Context}
    (allowed : ∀ context engine, scope.Allows (context, engine) (change context, engine)) :
    Preserves kept (modifyContext change) :=
  fun host held => stable.memory host _ _ _ _ (allowed host.context host.engine) held

theorem preserves_note (cause : HostError) : Preserves kept (note cause) :=
  stable.preserves_modifyContext fun context _ => scope.allows_notes context _ rfl

theorem preserves_fail (cause : HostError) : Preserves kept (fail cause : HostM β α) :=
  .bind (stable.preserves_note cause) fun _ => preserves_raise cause

theorem preserves_noting {action : HostM β α} (preserves : Preserves kept action) :
    Preserves kept (noting action) := by
  refine .bind (preserves_attempt preserves) fun result => ?_
  cases result with
  | error cause => exact stable.preserves_fail cause
  | ok value => exact .pure value

theorem preserves_programBuffers (inside : ∀ reg ∈ placementRegisters, writable reg) :
    Preserves kept programBuffers := by
  have write (reg : Register) (member : reg ∈ placementRegisters) (value : UInt32) :=
    stable.preserves_write (inside reg member) value
  exact .bind preserves_getConfig fun _ => .bind (write _ (by decide) _) fun _ =>
    .bind (write _ (by decide) _) fun _ => .bind (write _ (by decide) _) fun _ =>
    .bind (preserves_checked _) fun _ => .bind (write _ (by decide) _) fun _ => write _ (by decide) _

theorem preserves_refreshCounters : Preserves kept refreshCounters := by
  refine .bind (preserves_onLink fun host => (stable.link host).preserves_sample) fun sampled => ?_
  exact fun host held => stable.memory host _ _ _ _
    (scope.allows_notes host.context host.context.lastError rfl) held

theorem preserves_perf : Preserves kept perf :=
  .bind stable.preserves_refreshCounters fun _ => .bind preserves_getContext fun _ => .pure _

theorem preserves_forgetTransfers (books : scope.books = true) : Preserves kept forgetTransfers :=
  fun host held => stable.memory host _ _ _ _ (Scope.allows_of_books books
    (scope.extent.allows_notes host.context host.context.lastError host.context.perf)) held

theorem preserves_resetCounters (books : scope.books = true) (inside : writable .perfCtrl) :
    Preserves kept resetCounters :=
  .bind (preserves_onLink fun host => (stable.link host).preserves_resetHardware inside) fun _ =>
    .bind (stable.preserves_modifyContext fun context _ => Scope.allows_of_books books
      (scope.extent.allows_notes context context.lastError _))
      fun _ => stable.preserves_forgetTransfers books

/-- A transfer is entered in the books as it is started. -/
theorem preserves_startTransfer (books : scope.books = true)
    (inside : ∀ reg ∈ Engine.registers, writable reg) (d : Descriptor) :
    Preserves kept (startTransfer d) := by
  refine .bind .get fun host => ?_
  refine .bind (preserves_onLink fun other => (stable.link other).preserves_engineStart inside _ d) ?_
  exact fun engine other held => stable.memory other _ _ _ _ (Scope.allows_of_books books
    (scope.extent.allows_notes other.context other.context.lastError other.context.perf)) held

theorem preserves_waitTransfer (timeout : UInt64) : Preserves kept (waitTransfer timeout) :=
  .bind .get fun _ => preserves_onLink fun host => (stable.link host).preserves_engineWait _ timeout

theorem preserves_transfer (launch : ∀ d, Preserves kept (startTransfer d)) (d : Descriptor) :
    Preserves kept (transfer d) :=
  .bind (stable.preserves_noting (launch d)) fun _ =>
    stable.preserves_noting (stable.preserves_waitTransfer _)

theorem preserves_dmaTransfer (launch : ∀ d, Preserves kept (startTransfer d)) (d : Descriptor)
    (timeout : UInt64) : Preserves kept (dmaTransfer d timeout) :=
  .bind preserves_ensureInitialized fun _ => .bind (launch d) fun _ =>
    stable.preserves_waitTransfer timeout

omit stable in
theorem preserves_fillFront (addr : UInt32) (size : Nat) :
    Preserves (fun state => kept state.1) (fillFront addr size) :=
  .of_state fun _ held => held

theorem preserves_drainOutput (launch : ∀ d, Preserves kept (startTransfer d)) (size : Nat) :
    Preserves (fun state => kept state.1) (drainOutput size) :=
  .bind (preserves_onHost (stable.preserves_read _)) fun _ => .bind .get fun _ =>
    .bind (preserves_onHost (stable.preserves_transfer launch _)) fun _ => preserves_fillFront _ _

theorem preserves_isDone : Preserves kept isDone :=
  .bind preserves_getContext fun _ => .ite (stable.preserves_testBits _ _) (.pure _)

theorem preserves_configureLayer (inside : ∀ reg ∈ layerRegisters, writable reg) (layer : Layer) :
    Preserves kept (configureLayer layer) := by
  have writes (reg : Register) (member : reg ∈ layerRegisters) (value : UInt32) :
      Maintains kept (write reg value) :=
    fun host held => (stable.link host).write host.link reg value (inside reg member) held
  exact (maintains_configureLayer writes layer).preserves

theorem preserves_hardwareInfo : Preserves kept hardwareInfo :=
  .bind (stable.preserves_read _) fun _ => .bind (stable.preserves_read _) fun _ => .pure _

theorem preserves_verifyHardware : Preserves kept verifyHardware :=
  .bind stable.preserves_hardwareInfo fun _ => .guard (preserves_raise _) fun _ =>
    .guard (preserves_raise _) fun _ => .pure _

theorem preserves_hardwareState : Preserves kept hardwareState :=
  .bind (stable.preserves_read _) fun _ => .pure _

theorem preserves_compileLayer (layer : Layer) : Preserves kept (compileLayer layer) := by
  refine .bind stable.preserves_hardwareInfo fun info => ?_
  split
  · exact .pure _
  · exact preserves_checked _
  · exact preserves_raise _

theorem preserves_firstMismatch (patterns : List (Register × UInt32))
    (inside : ∀ reg ∈ patterns.map Prod.fst, writable reg) :
    Preserves kept (firstMismatch patterns) := by
  induction patterns with
  | nil => exact .pure _
  | cons entry patterns ih =>
    rw [List.map_cons, List.forall_mem_cons] at inside
    have first := stable.preserves_write inside.1 entry.2
    exact .bind first fun _ => .bind (stable.preserves_read _) fun _ => .ite (.pure _) (ih inside.2)

/-- What is read is kept under the register it was read from. -/
theorem wlp_readAll (registers : List Register) {host : Host β} (held : kept host) :
    wlp (readAll registers) (fun saved after => saved.map Prod.fst = registers ∧ kept after)
      (fun _ => kept) host := by
  induction registers generalizing host with
  | nil => exact ⟨rfl, held⟩
  | cons reg registers ih =>
    unfold readAll
    rw [wlp_bind]
    refine (stable.preserves_read reg host held).imp (fun value after held => ?_) fun _ _ held => held
    rw [wlp_bind]
    exact (ih held).imp (fun saved _ ⟨same, held⟩ => ⟨congrArg (reg :: ·) same, held⟩)
      fun _ _ held => held

theorem preserves_writeAll (entries : List (Register × UInt32))
    (inside : ∀ reg ∈ entries.map Prod.fst, writable reg) : Preserves kept (writeAll entries) := by
  induction entries with
  | nil => exact .pure _
  | cons entry entries ih =>
    rw [List.map_cons, List.forall_mem_cons] at inside
    exact .bind (stable.preserves_write inside.1 entry.2) fun _ => ih inside.2

theorem preserves_clearAccumulators (inside : writable .peCtrl) : Preserves kept clearAccumulators :=
  .bind (stable.preserves_setBits inside _) fun _ => .bind (stable.preserves_delay _) fun _ =>
    stable.preserves_clearBits inside _

theorem preserves_selfTest (inside : ∀ reg ∈ scratchRegisters, writable reg) :
    Preserves kept selfTest := by
  obtain ⟨accumulators, patterns⟩ := List.forall_mem_cons.mp inside
  intro host held
  unfold selfTest
  rw [wlp_bind]
  refine (stable.wlp_readAll _ held).imp (fun saved after ⟨same, held⟩ => ?_) fun _ _ held => held
  refine Preserves.bind (stable.preserves_firstMismatch _ patterns) (fun failed => ?_) after held
  refine .bind (stable.preserves_writeAll saved (same ▸ patterns)) fun _ =>
    .bind (stable.preserves_clearAccumulators accumulators) fun _ => ?_
  cases failed with
  | none => exact .pure _
  | some reg => exact preserves_raise _

end Stable

end Host

end NpuStack
