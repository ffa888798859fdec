import NpuStack.Proofs.Host.Access
import NpuStack.Proofs.Host.Operation

/-! Invariants: what every operation of the host leaves in order on the device
and in its context. Each operation has a footprint, the registers that it writes
and the part of the context that it changes. The control register is the only
one that needs care: operations raise a bit in it, wait, and lower the bit
again. -/

set_option autoImplicit false

namespace NpuStack

variable {β : Type} [Bus β]

/-- A property of the link between operations, and what is left of it while a control bit is
raised. The control register is written in a few ways only. -/
structure Link.Guarded (writable : Register → Prop) (kept : Link β → Prop)
    (raised : UInt32 → Link β → Prop) : Prop where
  stable : Link.Stable (fun reg => writable reg ∧ reg ≠ .ctrl) kept
  pulsing : ∀ mask, Link.Stable (fun reg => writable reg ∧ reg ≠ .ctrl) (raised mask)
  start : writable .ctrl → ∀ link, kept link → kept (Link.setBits .ctrl Ctrl.start link).2
  enable : writable .ctrl → ∀ link, kept link → kept (Link.setBits .ctrl Ctrl.enable link).2
  disable : writable .ctrl → ∀ link, kept link → kept (Link.clearBits .ctrl Ctrl.enable link).2
  lift : writable .ctrl → ∀ link mask, kept link → raised mask (Link.setBits .ctrl mask link).2
  lower : writable .ctrl → ∀ link mask, raised mask link → kept (Link.clearBits .ctrl mask link).2
  release : writable .ctrl → ∀ link mask, raised mask link →
    kept (Link.write .ctrl Ctrl.enable link).2

namespace Link

variable {writable : Register → Prop} {kept : Link β → Prop} {raised : UInt32 → Link β → Prop}

theorem Guarded.mono {narrower : Register → Prop} (guarded : Guarded writable kept raised)
    (within : ∀ reg, narrower reg → writable reg) : Guarded narrower kept raised where
  stable := guarded.stable.mono fun reg inside => ⟨within reg inside.1, inside.2⟩
  pulsing mask := (guarded.pulsing mask).mono fun reg inside => ⟨within reg inside.1, inside.2⟩
  start inside := guarded.start (within _ inside)
  enable inside := guarded.enable (within _ inside)
  disable inside := guarded.disable (within _ inside)
  lift inside := guarded.lift (within _ inside)
  lower inside := guarded.lower (within _ inside)
  release inside := guarded.release (within _ inside)

/-- What every write outlasts needs no care. -/
theorem Stable.guarded (stable : Stable writable kept) : Guarded writable kept fun _ => kept := by
  have others := stable.mono fun (reg : Register) (inside : writable reg ∧ reg ≠ .ctrl) => inside.1
  have control (inside : writable .ctrl) (link : Link β) (value : UInt32) (held : kept link) :=
    stable.write _ .ctrl value inside (stable.read link .ctrl held)
  exact {
    stable := others
    pulsing := fun _ => others
    start := fun inside link held => control inside link _ held
    enable := fun inside link held => control inside link _ held
    disable := fun inside link held => control inside link _ held
    lift := fun inside link _ held => control inside link _ held
    lower := fun inside link _ held => control inside link _ held
    release := fun inside link _ held => stable.write link .ctrl _ inside held }

end Link

/-- A property of the host between operations, and what is left of it while a control bit is
raised. The engine's control register is written to stop a transfer or, with an entry in the books,
to start one. -/
structure Host.Guarded (writable : Register → Prop) (scope : Host.Scope) (kept : Host β → Prop)
    (raised : UInt32 → Host β → Prop) : Prop where
  link : ∀ host : Host β, Link.Guarded (fun reg => writable reg ∧ reg ≠ .dmaCtrl)
    (fun link => kept { host with link }) fun mask link => raised mask { host with link }
  memory : ∀ (host : Host β) config context engine listening,
    scope.Allows (host.context, host.engine) (context, engine) →
    kept host → kept { host with config, context, engine, listening }
  halt : writable .dmaCtrl → ∀ value, value &&& DmaCtrl.start = 0 →
    Preserves kept (Host.write .dmaCtrl value)
  launch : (∀ reg ∈ Engine.registers, writable reg) → ∀ d, Preserves kept (Host.startTransfer d)

namespace Host

variable {α : Type} {writable : Register → Prop} {scope : Scope} {kept : Host β → Prop}
  {raised : UInt32 → Host β → Prop}

theorem guarded_of_link {kept : Link β → Prop} {raised : UInt32 → Link β → Prop}
    (guarded : Link.Guarded writable kept raised) (scope : Scope) :
    Guarded writable scope (fun host : Host β => kept host.link)
      fun mask host => raised mask host.link := by
  have stable : Stable (fun reg => writable reg ∧ reg ≠ .ctrl) scope.opened
      fun host : Host β => kept host.link := ⟨fun _ => guarded.stable, fun _ _ _ _ _ _ held => held⟩
  exact {
    link := fun _ => guarded.mono fun _ => And.left
    memory := fun _ _ _ _ _ _ held => held
    halt := fun inside _ _ => stable.preserves_write ⟨inside, by decide⟩ _
    launch := fun inside => stable.preserves_startTransfer rfl fun reg member =>
      ⟨inside reg member, fun same => absurd (same ▸ member) (by decide)⟩ }

theorem Stable.guarded (stable : Stable writable scope.opened kept) :
    Guarded writable scope kept fun _ => kept where
  link host := (stable.link host).guarded.mono fun _ => And.left
  memory host _ _ _ _ allowed held := stable.memory host _ _ _ _ ⟨allowed.extent, nofun⟩ held
  halt inside value _ := stable.preserves_write inside value
  launch := stable.preserves_startTransfer rfl

theorem Guarded.stable (guarded : Guarded writable scope kept raised) :
    Stable (fun reg => (writable reg ∧ reg ≠ .dmaCtrl) ∧ reg ≠ .ctrl) scope kept where
  link host := (guarded.link host).stable
  memory := guarded.memory

/-- Registers other than the two that control the core and the engine. -/
theorem apart_of_listed {registers part : List Register} (inside : ∀ reg ∈ registers, writable reg)
    (listed : part ⊆ registers) (control : .ctrl ∉ part) (engine : .dmaCtrl ∉ part) :
    ∀ reg ∈ part, (writable reg ∧ reg ≠ .dmaCtrl) ∧ reg ≠ .ctrl :=
  fun reg member => ⟨⟨inside reg (listed member), fun same => engine (same ▸ member)⟩,
    fun same => control (same ▸ member)⟩

section Loading

variable (stable : Stable writable scope kept)
include stable

theorem preserves_setState (wide : scope.extent ≠ .notes) (s : RunState) : Preserves kept (setState s) :=
  stable.preserves_modifyContext fun _ _ => Scope.allows_progress wide ⟨rfl, rfl, rfl, rfl⟩ rfl

theorem preserves_loadInstructions (whole : scope.extent = .whole)
    (inside : ∀ reg ∈ [Register.instSize, .instPtr], writable reg) (instructions : Array Instruction) :
    Preserves kept (loadInstructions instructions) := by
  refine .bind (preserves_ensureLoadable _) fun _ => .guard (preserves_raise _) fun _ =>
    .bind preserves_getConfig fun config => .guard (stable.preserves_fail _) fun _ => ?_
  refine .bind (preserves_onLink fun host => (stable.link host).preserves_store _ _) fun _ =>
    .bind (stable.preserves_write (inside _ (by simp)) _) fun _ =>
    .bind (stable.preserves_write (inside _ (by simp)) _) fun _ => ?_
  exact stable.preserves_modifyContext fun _ _ => Scope.allows_whole whole rfl

theorem preserves_loadWeights (wide : scope.extent ≠ .notes) (size : writable .weightSize)
    (moves : ∀ d, Preserves kept (transfer d)) (data : ByteArray) (offset : UInt32) :
    Preserves kept (loadWeights data offset) := by
  have finish (stop : UInt32) : Preserves kept (do
      write .weightSize stop
      setState .loading) :=
    .bind (stable.preserves_write size _) fun _ => preserves_setState stable wide _
  refine .bind (preserves_ensureLoadable _) fun _ => .guard (preserves_raise _) fun _ =>
    .bind preserves_getConfig fun config => .guard (stable.preserves_fail _) fun _ =>
    .bind (preserves_checked _) fun dst => .ite ?_ ?_
  · exact .bind (preserves_onLink fun host => (stable.link host).preserves_stage _) fun src =>
      .bind (moves _) fun _ => finish _
  · exact .bind (preserves_onLink fun host => (stable.link host).preserves_store _ _) fun _ => finish _

theorem preserves_loadInput (wide : scope.extent ≠ .notes) (size : writable .actInSize)
    (moves : ∀ d, Preserves kept (transfer d)) (data : ByteArray) : Preserves kept (loadInput data) := by
  refine .bind (preserves_ensureLoadable _) fun _ => .guard (preserves_raise _) fun _ =>
    .bind preserves_getConfig fun config => .guard (stable.preserves_fail _) fun _ => ?_
  exact .bind (preserves_onLink fun host => (stable.link host).preserves_stage _) fun src =>
    .bind (moves _) fun _ => .bind (stable.preserves_write size _) fun _ =>
    preserves_setState stable wide _

omit stable in
/-- A model is copied by the loads of its sections. -/
theorem preserves_copyImage
    (program : ∀ instructions, Preserves kept (loadInstructions instructions))
    (weights : ∀ data offset, Preserves kept (loadWeights data offset)) (image : Model.Image) :
    Preserves kept (copyImage image) :=
  .guard (program _) fun _ => .guard (weights _ _) fun _ => .ite (weights _ _) (.pure _)

theorem preserves_readModel (data : ByteArray) : Preserves kept (readModel data) := by
  unfold readModel
  split
  · exact .pure _
  · exact stable.preserves_fail _
  · exact preserves_checked _

theorem preserves_discardProgram (whole : scope.extent = .whole) (program : writable .instSize)
    (weights : writable .weightSize) : Preserves kept discardProgram :=
  .bind (stable.preserves_write program _) fun _ => .bind (stable.preserves_write weights _) fun _ =>
    stable.preserves_modifyContext fun _ _ => Scope.allows_whole whole rfl

theorem preserves_loadModel_of_copy (copy : ∀ image, Preserves kept (copyImage image))
    (discard : Preserves kept discardProgram)
    (announce : ∀ totalLayers, Preserves kept (modifyContext ({ · with totalLayers })))
    (data : ByteArray) : Preserves kept (loadModel data) := by
  refine .bind (preserves_ensureLoadable _) fun _ => .bind (preserves_readModel stable _) fun image =>
    .bind preserves_getConfig fun _ => .guard (stable.preserves_fail _) fun _ =>
    .guard (stable.preserves_fail _) fun _ => .bind (preserves_attempt (copy _)) fun result => ?_
  cases result with
  | error cause => exact .bind discard fun _ => stable.preserves_fail cause
  | ok _ => exact .bind (announce _) fun _ => .pure _

end Loading

section Running

variable (stable : Stable writable scope kept)
include stable

theorem preserves_complete (wide : scope.extent ≠ .notes) : Preserves kept complete := by
  have change (instPtr : UInt32) : Preserves kept (modifyContext ({ · with instPtr })) :=
    stable.preserves_modifyContext fun _ _ => Scope.allows_progress wide ⟨rfl, rfl, rfl, rfl⟩ rfl
  exact .bind (stable.preserves_read _) fun _ => .bind (change _) fun _ =>
    .bind stable.preserves_refreshCounters fun _ => preserves_setState stable wide _

theorem preserves_conclude (wide : scope.extent ≠ .notes) (answer : Except HostError Unit) :
    Preserves kept (conclude answer) := by
  unfold conclude
  split
  · exact preserves_complete stable wide
  · exact .bind (preserves_setState stable wide _) fun _ => stable.preserves_fail _
  · exact stable.preserves_fail _

theorem preserves_wait (wide : scope.extent ≠ .notes) (timeout : UInt64) : Preserves kept (wait timeout) :=
  .bind preserves_ensureInitialized fun _ => .bind preserves_getConfig fun _ =>
    .bind (preserves_attempt (stable.preserves_poll onlyReads_completionProbe _ _)) fun _ =>
    preserves_conclude stable wide _

theorem preserves_serveFault (wide : scope.extent ≠ .notes) (pending : UInt32) (listening : Bool)
    (told : List Completion) : Preserves kept (serveFault pending listening told) :=
  .ite (.bind (stable.preserves_read _) fun _ => .bind (preserves_setState stable wide _) fun _ =>
    .bind (stable.preserves_note _) fun _ => .ite (.pure _) (.pure _)) (.pure _)

theorem preserves_handleIrq (wide : scope.extent ≠ .notes) (inside : writable .irqStatus) :
    Preserves kept handleIrq := by
  have fault (pending : UInt32) := preserves_serveFault stable wide pending
  refine .bind (stable.preserves_read _) fun pending => .ite (.pure _) ?_
  refine .bind (stable.preserves_write inside _) fun _ => .bind .get fun host => .ite ?_ ?_
  · exact .bind (preserves_complete stable wide) fun _ =>
      .ite (.bind preserves_getContext fun _ => fault _ _ _) (fault _ _ _)
  · exact fault _ _ _

theorem preserves_readableBytes (buffer : ByteArray) : Preserves kept (readableBytes buffer) :=
  .bind preserves_ensureInitialized fun _ => .guard (preserves_raise _) fun _ =>
    .bind preserves_getContext fun _ => .guard (preserves_raise _) fun _ =>
    .bind (stable.preserves_read _) fun _ => .bind .get fun _ => .pure _

theorem preserves_readOutput (wide : scope.extent ≠ .notes)
    (launch : ∀ d, Preserves kept (startTransfer d)) :
    Preserves (fun state => kept state.1) readOutput := by
  have state (s : RunState) := preserves_onHost (preserves_setState stable wide s)
  refine .bind .get fun _ => .bind (preserves_onHost (preserves_readableBytes stable _)) fun size =>
    .ite (.pure _) ?_
  refine .bind (preserves_onHost preserves_getContext) fun context => .bind (state _) fun _ =>
    .bind (preserves_attempt (stable.preserves_drainOutput launch _)) fun result => ?_
  cases result with
  | error cause => exact .bind (state _) fun _ => preserves_onHost (preserves_raise cause)
  | ok _ => exact .bind (state _) fun _ => .pure _

theorem preserves_init (whole : scope.extent = .whole) (books : scope.books = true)
    (inside : ∀ reg ∈ .perfCtrl :: placementRegisters, writable reg) (config : Config) :
    Preserves kept (init config) := by
  obtain ⟨counters, buffers⟩ := List.forall_mem_cons.mp inside
  have wide : scope.extent ≠ .notes := whole ▸ nofun
  have install : Preserves kept (install config) :=
    fun host held => stable.memory host _ _ _ _ (Scope.allows_of_books books (whole ▸ trivial)) held
  exact .bind preserves_getContext fun _ => .guard (preserves_raise _) fun _ =>
    .guard (preserves_raise _) fun _ => .bind install fun _ =>
    .bind (stable.preserves_programBuffers buffers) fun _ =>
    .guard (stable.preserves_write counters _) fun _ => preserves_setState stable wide _

end Running

def bootRegisters : List Register :=
  [.ctrl, .irqEn, .irqStatus, .dmaCtrl, .peCtrl, .perfCtrl] ++ transferRegisters ++ bufferRegisters

section Guarded

variable (guarded : Guarded writable scope kept raised)
include guarded

theorem preserves_write_apart {reg : Register} (inside : writable reg)
    (apart : reg ∉ [Register.ctrl, .dmaCtrl]) (value : UInt32) : Preserves kept (write reg value) := by
  simp only [List.mem_cons, List.not_mem_nil, or_false, not_or] at apart
  exact guarded.stable.preserves_write ⟨⟨inside, apart.2⟩, apart.1⟩ value

theorem preserves_start (wide : scope.extent ≠ .notes)
    (inside : ∀ reg ∈ [Register.ctrl, .instPtr, .irqStatus], writable reg) : Preserves kept start := by
  have go : Preserves kept (setBits .ctrl Ctrl.start) :=
    fun host held => (guarded.link host).start ⟨inside _ (by simp), by decide⟩ host.link held
  have rewind : Preserves kept (modifyContext ({ · with instPtr := 0, currentLayer := 0 })) :=
    guarded.stable.preserves_modifyContext fun _ _ => Scope.allows_progress wide ⟨rfl, rfl, rfl, rfl⟩ rfl
  exact .bind (preserves_ensureLoadable _) fun _ =>
    .bind (preserves_write_apart guarded (inside _ (by simp)) (by decide) _) fun _ =>
    .bind rewind fun _ =>
    .bind (preserves_write_apart guarded (inside _ (by simp)) (by decide) _) fun _ =>
    .bind (preserves_setState guarded.stable wide _) fun _ => go

theorem preserves_enable (inside : writable .ctrl) : Preserves kept (setBits .ctrl Ctrl.enable) :=
  fun host held => (guarded.link host).enable ⟨inside, by decide⟩ host.link held

theorem preserves_resetPulse (inside : writable .ctrl) : Preserves kept (do
    setBits .ctrl Ctrl.reset
    delay resetPulse
    clearBits .ctrl Ctrl.reset) := by
  intro host held
  have guards := guarded.link host
  have control : writable .ctrl ∧ Register.ctrl ≠ .dmaCtrl := ⟨inside, by decide⟩
  exact guards.lower control _ _ ((guards.pulsing _).time _ _ (guards.lift control host.link _ held))

/-- Boot starts with a reset pulse and writes the control register once more, to enable the core. -/
theorem preserves_boot (inside : ∀ reg ∈ bootRegisters, writable reg) : Preserves kept boot := by
  have stable := guarded.stable
  have write (reg : Register) (member : reg ∈ bootRegisters) (apart : reg ∉ [Register.ctrl, .dmaCtrl])
      (value : UInt32) := preserves_write_apart guarded (inside reg member) apart value
  have halt := guarded.halt (inside .dmaCtrl (by decide))
  have zero (registers : List Register) (listed : registers ⊆ bootRegisters)
      (control : .ctrl ∉ registers) (engine : .dmaCtrl ∉ registers) :
      Preserves kept (writeAll (registers.map (·, 0))) := by
    apply stable.preserves_writeAll
    rw [List.map_map, Function.comp_def, List.map_id']
    exact apart_of_listed inside listed control engine
  have accumulators :=
    stable.preserves_clearAccumulators ⟨⟨inside .peCtrl (by decide), by decide⟩, by decide⟩
  unfold boot
  refine .bind_three (preserves_resetPulse guarded (inside _ (by decide))) fun _ =>
    .bind (stable.preserves_delay _) fun _ => .bind (preserves_waitIdle stable.link _) fun _ =>
    .bind stable.preserves_verifyHardware fun info => ?_
  refine .bind (write _ (by decide) (by decide) _) fun _ =>
    .bind (write _ (by decide) (by decide) _) fun _ =>
    .bind (halt _ (by decide)) fun _ => .bind (stable.preserves_delay _) fun _ =>
    .bind (halt _ (by decide)) fun _ =>
    .bind (zero transferRegisters (by decide) (by decide) (by decide)) fun _ => ?_
  refine .bind (write _ (by decide) (by decide) _) fun _ => .bind accumulators fun _ =>
    .bind (zero bufferRegisters (by decide) (by decide) (by decide)) fun _ =>
    .bind (write _ (by decide) (by decide) _) fun _ => .bind (stable.preserves_delay _) fun _ =>
    .bind (write _ (by decide) (by decide) _) fun _ => ?_
  exact .bind (preserves_enable guarded (inside _ (by decide))) fun _ =>
    .bind (stable.preserves_selfTest (apart_of_listed inside (by decide) (by decide) (by decide))) fun _ => .pure _

theorem preserves_sleep (inside : ∀ reg ∈ [Register.ctrl, .perfCtrl, .irqEn], writable reg) :
    Preserves kept sleep := by
  have disable : Preserves kept (clearBits .ctrl Ctrl.enable) :=
    fun host held => (guarded.link host).disable ⟨inside _ (by simp), by decide⟩ host.link held
  exact .bind disable fun _ =>
    .bind (preserves_write_apart guarded (inside _ (by simp)) (by decide) _) fun _ =>
    preserves_write_apart guarded (inside _ (by simp)) (by decide) _

theorem preserves_wake (inside : ∀ reg ∈ [Register.ctrl, .perfCtrl, .irqEn], writable reg) :
    Preserves kept wake := by
  refine .bind (preserves_enable guarded (inside _ (by simp))) fun _ =>
    .bind (preserves_write_apart guarded (inside _ (by simp)) (by decide) _) fun _ =>
    .bind preserves_getConfig fun _ => .bind preserves_getContext fun _ => ?_
  exact .guard (preserves_write_apart guarded (inside _ (by simp)) (by decide) _) fun _ =>
    preserves_waitIdle guarded.stable.link _

theorem preserves_stop (wide : scope.extent ≠ .notes) (inside : writable .ctrl) : Preserves kept stop := by
  have control : writable .ctrl ∧ Register.ctrl ≠ .dmaCtrl := ⟨inside, by decide⟩
  have waiting := preserves_waitIdle (fun host => (guarded.link host).pulsing Ctrl.abort) idleTimeout
  refine .bind preserves_ensureInitialized fun _ host held => ?_
  rw [wlp_bind]
  show wlp (attempt (waitIdle idleTimeout) >>= _) _ _ _
  rw [wlp_bind]
  -- The wait reports nothing from here, so the bit is lowered in every case.
  refine ((silent_attempt _).wlp_of_preserves (preserves_attempt waiting)
    ((guarded.link host).lift control host.link _ held)).imp (fun result waited raised => ?_)
    fun _ _ no => no.elim
  have lowered := (guarded.link waited).lower control _ _ raised
  have idle := guarded.memory { waited with link := (Link.clearBits .ctrl Ctrl.abort waited.link).2 }
    waited.config { waited.context with state := .idle } waited.engine waited.listening
    (Scope.allows_progress wide ⟨rfl, rfl, rfl, rfl⟩ rfl) lowered
  cases result <;> exact idle

theorem preserves_abort (wide : scope.extent ≠ .notes) (inside : writable .ctrl) : Preserves kept abort := by
  have stable := guarded.stable
  refine .bind preserves_ensureInitialized fun _ =>
    .bind_three (preserves_resetPulse guarded inside) fun _ =>
    .bind (stable.preserves_delay _) fun _ =>
    .bind (preserves_attempt (preserves_waitIdle stable.link _)) fun result => ?_
  cases result with
  | error cause => exact .bind (preserves_setState stable wide _) fun _ => stable.preserves_fail cause
  | ok _ => exact .bind (preserves_enable guarded inside) fun _ => preserves_setState stable wide _

def modelRegisters : List Register := .instSize :: .instPtr :: .weightSize :: Engine.registers

theorem preserves_loadModel (whole : scope.extent = .whole) (inside : ∀ reg ∈ modelRegisters, writable reg)
    (data : ByteArray) : Preserves kept (loadModel data) := by
  have stable := guarded.stable
  have sizes := apart_of_listed inside (show [Register.instSize, .instPtr, .weightSize] ⊆ _ by decide)
    (by decide) (by decide)
  have moves := stable.preserves_transfer (guarded.launch fun reg member =>
    inside reg ((show Engine.registers ⊆ modelRegisters by decide) member))
  have program := preserves_loadInstructions stable whole
    (apart_of_listed inside (by decide) (by decide) (by decide))
  have weights := preserves_loadWeights stable (whole ▸ nofun) (sizes _ (by simp)) moves
  exact preserves_loadModel_of_copy stable (preserves_copyImage program weights)
    (preserves_discardProgram stable whole (sizes _ (by simp)) (sizes _ (by simp)))
    (fun _ => stable.preserves_modifyContext fun _ _ => Scope.allows_whole whole rfl) data

def resetRegisters : List Register := .ctrl :: .irqStatus :: .perfCtrl :: placementRegisters

theorem preserves_reset (wide : scope.extent ≠ .notes) (books : scope.books = true) (inside : ∀ reg ∈ resetRegisters, writable reg) :
    Preserves kept reset := by
  have stable := guarded.stable
  have control : writable .ctrl ∧ Register.ctrl ≠ .dmaCtrl := ⟨inside _ (by decide), by decide⟩
  have pulse : Preserves kept (do
      setBits .ctrl Ctrl.reset
      delay resetPulse
      write .ctrl Ctrl.enable) := by
    intro host held
    have guards := guarded.link host
    exact guards.release control _ _
      ((guards.pulsing _).time _ _ (guards.lift control host.link _ held))
  have buffers := apart_of_listed inside (show placementRegisters ⊆ _ by decide) (by decide) (by decide)
  have forget : Preserves kept (modifyContext ({ · with lastError := none, state := .idle })) :=
    stable.preserves_modifyContext fun _ _ => Scope.allows_progress wide ⟨rfl, rfl, rfl, rfl⟩ rfl
  exact .bind_three pulse fun _ =>
    .bind (preserves_write_apart guarded (inside _ (by decide)) (by decide) _) fun _ =>
    .bind (stable.preserves_programBuffers buffers) fun _ =>
    .bind (stable.preserves_resetCounters books ⟨⟨inside _ (by decide), by decide⟩, by decide⟩)
      fun _ => forget

theorem preserves_deinit (whole : scope.extent = .whole) (books : scope.books = true)
    (inside : ∀ reg ∈ [Register.ctrl, .irqEn], writable reg) : Preserves kept deinit := by
  have stable := guarded.stable
  have wide : scope.extent ≠ .notes := whole ▸ nofun
  exact .bind preserves_getContext fun _ => .ite
    (.bind (preserves_attempt (preserves_stop guarded wide (inside _ (by simp)))) fun _ =>
      .bind (preserves_write_apart guarded (inside _ (by simp)) (by decide) _) fun _ =>
      .bind (stable.preserves_modifyContext fun _ _ => Scope.allows_of_books books (whole ▸ trivial))
      fun _ => stable.preserves_forgetTransfers books) (.pure _)

def runRegisters : List Register := .ctrl :: .instSize :: .instPtr :: .irqStatus :: layerRegisters

/-- A run keeps a property up to the entry of the layer in the books. -/
theorem turns_compileAndRun {there : Host β → Prop} (whole : scope.extent = .whole)
    (inside : ∀ reg ∈ runRegisters, writable reg)
    (enter : Turns kept there (modifyContext fun context =>
      { context with perf := { context.perf with layers := context.perf.layers + 1 } }))
    (layer : Layer) : Turns kept there (compileAndRun layer) := by
  have stable := guarded.stable
  have wide : scope.extent ≠ .notes := whole ▸ nofun
  have program := preserves_loadInstructions stable whole
    (apart_of_listed inside (by decide) (by decide) (by decide))
  have configure := stable.preserves_configureLayer
    (apart_of_listed inside (by decide) (by decide) (by decide))
  have starting : [Register.ctrl, .instPtr, .irqStatus] ⊆ runRegisters := by decide
  exact .bind (preserves_ensureLoadable _) fun _ => .bind (stable.preserves_compileLayer layer) fun _ =>
    .bind (configure layer) fun _ => .bind (program _) fun _ =>
    .bind (preserves_start guarded wide fun reg member => inside reg (starting member)) fun _ =>
    .bind preserves_getConfig fun _ => .bind (preserves_wait stable wide _) fun _ =>
    enter.settle (fun _ _ => trivial) fun _ => .bind preserves_getContext fun _ => .pure _

end Guarded

end Host

namespace Operation

def registers : Operation → List Register
  | .init _ => .perfCtrl :: Host.placementRegisters
  | .deinit => [.ctrl, .irqEn]
  | .boot => Host.bootRegisters
  | .selfTest => Host.scratchRegisters
  | .sleep | .wake => [.ctrl, .perfCtrl, .irqEn]
  | .loadInstructions _ => [.instSize, .instPtr]
  | .loadWeights _ _ => .weightSize :: Engine.registers
  | .loadInput _ => .actInSize :: Engine.registers
  | .loadModel _ => Host.modelRegisters
  | .start => [.ctrl, .instPtr, .irqStatus]
  | .stop | .abort => [.ctrl]
  | .reset => Host.resetRegisters
  | .handleIrq => [.irqStatus]
  | .readOutput _ | .dmaTransfer _ _ => Engine.registers
  | .resetCounters => [.perfCtrl]
  | .configureLayer _ => Host.layerRegisters
  | .compileAndRun _ => Host.runRegisters
  | _ => []

def extent : Operation → Context.Extent
  | .init _ | .deinit | .loadInstructions _ | .loadModel _ | .compileAndRun _ => .whole
  | .loadWeights _ _ | .loadInput _ | .start | .wait _ | .stop | .abort | .reset | .handleIrq
  | .readOutput _ => .progress
  | _ => .notes

/-- Operations that have the host write in its books by itself, apart from the transfers. -/
def posts : Operation → Bool
  | .init _ | .deinit | .reset | .resetCounters | .compileAndRun _ => true
  | _ => false

def scope (op : Operation) : Host.Scope := ⟨op.extent, op.posts⟩

variable {op : Operation} {kept : Host β → Prop} {raised : UInt32 → Host β → Prop}

/-- An operation writes the registers of its footprint only, and changes its part of the memory. -/
theorem preserves_perform (guarded : Host.Guarded (· ∈ op.registers) op.scope kept raised) :
    Preserves kept op.perform := by
  have stable := guarded.stable
  have apart {registers : List Register} (control : .ctrl ∉ registers) (engine : .dmaCtrl ∉ registers) :=
    Host.apart_of_listed (fun _ member => member) (List.Subset.refl registers) control engine
  cases op with
  | init config => exact (Host.preserves_init stable rfl rfl (apart (by decide) (by decide)) config).map _
  | deinit => exact (Host.preserves_deinit guarded rfl rfl fun _ member => member).map _
  | boot => exact (Host.preserves_boot guarded fun _ member => member).map _
  | selfTest => exact (stable.preserves_selfTest (apart (by decide) (by decide))).map _
  | verifyHardware => exact stable.preserves_verifyHardware.map _
  | hardwareInfo => exact stable.preserves_hardwareInfo.map _
  | hardwareState => exact stable.preserves_hardwareState.map _
  | sleep => exact (Host.preserves_sleep guarded fun _ member => member).map _
  | wake => exact (Host.preserves_wake guarded fun _ member => member).map _
  | loadInstructions instructions =>
    exact (Host.preserves_loadInstructions stable rfl (apart (by decide) (by decide)) _).map _
  | loadWeights data offset =>
    have moves := stable.preserves_transfer (guarded.launch fun _ => List.mem_cons_of_mem _)
    exact (Host.preserves_loadWeights stable nofun ⟨⟨List.mem_cons_self, by decide⟩, by decide⟩ moves _ _).map _
  | loadInput data =>
    have moves := stable.preserves_transfer (guarded.launch fun _ => List.mem_cons_of_mem _)
    exact (Host.preserves_loadInput stable nofun ⟨⟨List.mem_cons_self, by decide⟩, by decide⟩ moves _).map _
  | loadModel data =>
    exact (Host.preserves_loadModel guarded rfl (fun _ member => member) _).map _
  | start => exact (Host.preserves_start guarded nofun fun _ member => member).map _
  | wait timeout => exact (Host.preserves_wait stable nofun _).map _
  | isDone => exact stable.preserves_isDone.map _
  | stop => exact (Host.preserves_stop guarded nofun (List.mem_singleton_self _)).map _
  | abort => exact (Host.preserves_abort guarded nofun (List.mem_singleton_self _)).map _
  | reset => exact (Host.preserves_reset guarded nofun rfl fun _ member => member).map _
  | handleIrq =>
    exact (Host.preserves_handleIrq stable nofun (apart (by decide) (by decide) _ List.mem_cons_self)).map _
  | outputSize => exact (stable.preserves_read _).map _
  | readOutput buffer =>
    exact (preserves_lend (Host.preserves_readOutput stable nofun
      (guarded.launch fun _ member => member))).map _
  | perf => exact stable.preserves_perf.map _
  | resetCounters => exact (stable.preserves_resetCounters rfl (by decide)).map _
  | configureLayer layer =>
    exact (stable.preserves_configureLayer (apart (by decide) (by decide)) _).map _
  | dmaTransfer d timeout =>
    exact (stable.preserves_dmaTransfer (guarded.launch fun _ member => member) _ _).map _
  | compileAndRun layer =>
    have run : Preserves kept (Host.compileAndRun layer) :=
      Host.turns_compileAndRun guarded rfl (fun _ member => member)
        (stable.preserves_modifyContext fun _ _ => Host.Scope.allows_of_books rfl trivial) layer
    exact run.map _
  | setListening listening =>
    exact fun host held => guarded.memory host _ _ _ listening
      (Host.Scope.allows_notes _ host.context host.context.lastError rfl) held

theorem Step.preserves {before after : Host β} {answer : Except HostError Reply}
    (step : op.Step before answer after)
    (guarded : Host.Guarded (· ∈ op.registers) op.scope kept raised) (held : kept before) :
    kept after :=
  step.of_preserves (preserves_perform guarded) held

end Operation

/-- A guarded property holds between operations if it holds at first and outlasts every change
behind the host's back. -/
theorem Reachable.kept {fresh : β → Prop} {altered : β → β → Prop} {host : Host β}
    {kept : Link β → Prop} {raised : UInt32 → Link β → Prop}
    (guarded : Link.Guarded (fun _ => True) kept raised)
    (first : ∀ bus clock, fresh bus → kept ⟨bus, clock⟩)
    (outlasts : ∀ link bus, altered link.bus bus → kept link → kept { link with bus })
    (reached : Reachable fresh altered host) : kept host.link := by
  -- Induction on the history of the host; a step keeps what its operation preserves.
  induction reached with
  | start new => exact first _ _ new
  | step _ step ih =>
    exact step.preserves (Host.guarded_of_link (guarded.mono fun _ _ => trivial) _) ih
  | @alter host bus clock _ change ih =>
    exact guarded.stable.time _ clock (outlasts host.link bus change ih)

end NpuStack
