import NpuStack.Proofs.Host.StateMachine

/-! Calls that are refused. A refused call hands back the host it was given,
with the whole of its link, and at most remembers the code of the error. -/

set_option autoImplicit false

namespace NpuStack

namespace Host

variable {β α γ : Type}

def noted (host : Host β) (cause : HostError) : Host β :=
  { host with context := { host.context with lastError := some cause.statusCode } }

/-- The link is part of the host, so neither a register nor memory nor the clock has been touched. -/
def Refuses (action : HostM β α) (cause : HostError) (host : Host β) : Prop :=
  ∃ after, action host = (.error (.error cause), after) ∧ (after = host ∨ after = host.noted cause)

def Refused (action : HostM β α) (host : Host β) : Prop := ∃ cause, Refuses action cause host

section Calculus

variable {host : Host β} {cause : HostError}

theorem fail_eq (cause : HostError) (host : Host β) :
    (fail cause : HostM β α) host = (.error (.error cause), host.noted cause) := rfl

theorem refuses_raise : Refuses (raise cause : HostM β α) cause host := ⟨host, rfl, .inl rfl⟩

theorem refuses_fail : Refuses (fail cause : HostM β α) cause host := ⟨_, fail_eq cause host, .inr rfl⟩

theorem Refuses.bind {first : HostM β α} (refuses : Refuses first cause host) (next : α → HostM β γ) :
    Refuses (first >>= next) cause host := by
  obtain ⟨after, run, rest⟩ := refuses
  exact ⟨after, by rw [act_bind, run], rest⟩

theorem Refuses.map {action : HostM β α} (refuses : Refuses action cause host) (f : α → γ) :
    Refuses (f <$> action) cause host := by
  rw [map_eq_pure_bind]
  exact refuses.bind _

theorem Refused.map {action : HostM β α} (refused : Refused action host) (f : α → γ) :
    Refused (f <$> action) host :=
  refused.imp fun _ refuses => refuses.map f

theorem Refused.guard {choice : Prop} [Decidable choice] {first : HostM β Unit}
    {next : Unit → HostM β α} (taken : choice → Refused first host)
    (skipped : ¬choice → Refused (next ()) host) :
    Refused (if choice then first >>= next else next ()) host := by
  split
  case isTrue holds => exact (taken holds).imp fun _ refuses => refuses.bind _
  case isFalse fails => exact skipped fails

end Calculus

end Host

def RunState.refusal? (operation : String) : RunState → Option HostError
  | .reset | .init => some .notInitialized
  | .running | .draining => some (.busy operation)
  | .error => some (.invalidState "error, reset or abort required")
  | .idle | .loading | .done => none

theorem RunState.refusal?_eq_none {operation : String} {s : RunState} :
    s.refusal? operation = none ↔ s.loadable = true := by
  cases s <;> simp [refusal?, loadable]

namespace Host

variable {β α : Type} {host : Host β} {cause : HostError}

theorem ensureLoadable_bind (operation : String) (next : Unit → HostM β α) (host : Host β) :
    (ensureLoadable operation >>= next) host =
      match host.state.refusal? operation with
      | some cause => (.error (.error cause), host)
      | none => next () host := by
  obtain ⟨link, config, ⟨state⟩, engine, listening⟩ := host
  cases state <;> rfl

theorem refuses_state {operation : String} (wrong : host.state.refusal? operation = some cause)
    (next : Unit → HostM β α) : Refuses (ensureLoadable operation >>= next) cause host :=
  ⟨host, by rw [ensureLoadable_bind, wrong], .inl rfl⟩

theorem refused_ensureLoadable {operation : String} {next : Unit → HostM β α}
    (go : host.state.loadable = true → Refused (next ()) host) :
    Refused (ensureLoadable operation >>= next) host := by
  cases wrong : host.state.refusal? operation with
  | some cause => exact ⟨cause, refuses_state wrong next⟩
  | none =>
    obtain ⟨cause, after, run, rest⟩ := go (RunState.refusal?_eq_none.mp wrong)
    exact ⟨cause, after, by rw [ensureLoadable_bind, wrong]; exact run, rest⟩

/-- A host that takes no loads is in one of the states with an error of their own. -/
theorem refused_of_state {operation : String} (refused : host.state.loadable = false)
    (next : Unit → HostM β α) : Refused (ensureLoadable operation >>= next) host :=
  refused_ensureLoadable fun loadable => by simp [refused] at loadable

theorem refused_getConfig {next : Config → HostM β α} (go : Refused (next host.config) host) :
    Refused (getConfig >>= next) host := go

theorem refused_getContext {next : Context → HostM β α} (go : Refused (next host.context) host) :
    Refused (getContext >>= next) host := go

end Host

/-- Sizes of sections add up without wrapping. -/
theorem toNat_payload (weights bias : UInt32) :
    (weights.toUInt64 + bias.toUInt64).toNat = weights.toNat + bias.toNat := by
  have small := weights.toNat_lt
  have small' := bias.toNat_lt
  rw [UInt64.toNat_add, UInt32.toNat_toUInt64, UInt32.toNat_toUInt64]
  omega

/-- A model that no host with this configuration copies, and the error it gets. The checks have an
order: the bytes, the instructions, the weights with the bias. -/
inductive Model.Unloadable (config : Config) (data : ByteArray) : HostError → Prop where
  | malformed {fault : Model.Fault} : Model.Image.parse data = .error (.error fault) →
    Unloadable config data (.ofModelFault fault)
  | program {image : Model.Image} : Model.Image.parse data = .ok image →
    config.instEntries < image.header.instCount →
    Unloadable config data (.overflow "instruction buffer" (image.header.instCount.toUInt64 * 8)
      (config.instEntries.toUInt64 * 8))
  | payload {image : Model.Image} : Model.Image.parse data = .ok image →
    image.header.instCount ≤ config.instEntries →
    config.weightBytes.toNat < image.header.weightBytes.toNat + image.header.biasBytes.toNat →
    Unloadable config data (.overflow "weight buffer"
      (image.header.weightBytes.toUInt64 + image.header.biasBytes.toUInt64)
      config.weightBytes.toUInt64)

namespace Host

variable {β : Type} [Bus β] {host : Host β} {cause : HostError}

omit [Bus β] in
theorem readModel_bind {α : Type} (data : ByteArray) (next : Model.Image → HostM β α) (host : Host β) :
    (readModel data >>= next) host =
      match Model.Image.parse data with
      | .ok image => next image host
      | .error (.error fault) => (.error (.error (.ofModelFault fault)), host.noted (.ofModelFault fault))
      | .error (.trap cause) => (.error (.trap cause), host) := by
  unfold readModel
  rcases Model.Image.parse data with (fault | cause) | image <;> rfl

theorem loadModel_unloadable {data : ByteArray} (loadable : host.state.loadable = true)
    (unloadable : Model.Unloadable host.config data cause) :
    loadModel data host = (.error (.error cause), host.noted cause) := by
  unfold loadModel
  rw [ensureLoadable_bind, RunState.refusal?_eq_none.mpr loadable]
  cases unloadable with
  | malformed parsed =>
    rw [readModel_bind, parsed]
  | program parsed long =>
    rw [readModel_bind, parsed]
    show (if _ then fail _ >>= _ else _ : HostM β _) host = _
    rw [if_pos long]
    rfl
  | payload parsed short long =>
    have larger : host.config.weightBytes.toUInt64 < _ :=
      UInt64.lt_iff_toNat_lt.mpr (by rw [toNat_payload, UInt32.toNat_toUInt64]; exact long)
    rw [readModel_bind, parsed]
    show (if _ then fail _ >>= _ else if _ then fail _ >>= _ else _ : HostM β _) host = _
    rw [if_neg (UInt32.not_lt.mpr short), if_pos larger]
    rfl

end Host

namespace Operation

def guard? : Operation → Option String
  | .init _ => some "init"
  | .start => some "start"
  | .loadInstructions _ => some "load instructions"
  | .loadWeights _ _ => some "load weights"
  | .loadInput _ => some "load input"
  | .loadModel _ => some "load model"
  | _ => none

/-- What a call is refused for: the state, an argument that is empty or too large for its buffer, a
file that is no model, a configuration without buffers. -/
inductive Ground (config : Config) (s : RunState) : Operation → Prop where
  | active {wanted : Config} : s.isActive = true → Ground config s (.init wanted)
  | state {op : Operation} : op.guard?.isSome = true → (∀ wanted, op ≠ .init wanted) →
    s.loadable = false → Ground config s op
  | noBuffers {wanted : Config} :
    wanted.instEntries = 0 ∨ wanted.weightBytes = 0 ∨ wanted.actBytes / 2 = 0 →
    Ground config s (.init wanted)
  | noInstructions {instructions : Array Instruction} : instructions.size = 0 →
    Ground config s (.loadInstructions instructions)
  | noWeights {data : ByteArray} {offset : UInt32} : data.size = 0 →
    Ground config s (.loadWeights data offset)
  | noInput {data : ByteArray} : data.size = 0 → Ground config s (.loadInput data)
  | program {instructions : Array Instruction} : config.instEntries.toNat < instructions.size →
    Ground config s (.loadInstructions instructions)
  | weights {data : ByteArray} {offset : UInt32} :
    config.weightBytes.toNat < offset.toNat + data.size → Ground config s (.loadWeights data offset)
  | input {data : ByteArray} : config.actBytes.toNat / 2 < data.size →
    Ground config s (.loadInput data)
  | malformed {data : ByteArray} {fault : Model.Fault} : Model.Image.parse data = .error (.error fault) →
    Ground config s (.loadModel data)
  | modelProgram {data : ByteArray} {image : Model.Image} : Model.Image.parse data = .ok image →
    config.instEntries < image.header.instCount → Ground config s (.loadModel data)
  | modelPayload {data : ByteArray} {image : Model.Image} : Model.Image.parse data = .ok image →
    config.weightBytes.toNat < image.header.weightBytes.toNat + image.header.biasBytes.toNat →
    Ground config s (.loadModel data)

theorem exists_unloadable {config : Config} {s : RunState} {data : ByteArray}
    (ground : Ground config s (.loadModel data)) :
    s.loadable = false ∨ ∃ cause, Model.Unloadable config data cause := by
  cases ground with
  | state _ _ refused => exact .inl refused
  | malformed parsed => exact .inr ⟨_, .malformed parsed⟩
  | modelProgram parsed long => exact .inr ⟨_, .program parsed long⟩
  | modelPayload parsed long =>
    rename_i image
    -- Both sections may be too large; the instructions are looked at first.
    by_cases program : config.instEntries < image.header.instCount
    · exact .inr ⟨_, .program parsed program⟩
    · exact .inr ⟨_, .payload parsed (UInt32.not_lt.mp program) long⟩

variable {β : Type} [Bus β] {host : Host β}

theorem refused_init {wanted : Config} (ground : Ground host.config host.state (.init wanted)) :
    Host.Refused (Host.init wanted) host := by
  refine Host.refused_getContext (.guard (fun _ => ⟨_, Host.refuses_raise⟩) fun free =>
    .guard (fun _ => ⟨_, Host.refuses_raise⟩) fun usable => ?_)
  cases ground with
  | active busy => exact absurd busy free
  | state _ other _ => exact absurd rfl (other wanted)
  | noBuffers none =>
    simp only [Config.isUsable, Bool.not_eq_true', Bool.not_eq_false, Bool.and_eq_true, bne_iff_ne,
      decide_eq_true_eq] at usable
    obtain ⟨⟨entries, bytes⟩, halves⟩ := usable
    rcases none with empty | empty | empty
    · exact absurd empty entries
    · exact absurd empty bytes
    · have quotient := congrArg UInt32.toNat empty
      rw [UInt32.toNat_div] at quotient
      have := UInt32.le_iff_toNat_le.mp halves
      simp only [UInt32.reduceToNat] at this quotient
      omega

theorem refused_loadInstructions {instructions : Array Instruction}
    (ground : Ground host.config host.state (.loadInstructions instructions)) :
    Host.Refused (Host.loadInstructions instructions) host := by
  refine Host.refused_ensureLoadable fun loadable => .guard (fun _ => ⟨_, Host.refuses_raise⟩)
    fun occupied => Host.refused_getConfig (.guard (fun _ => ⟨_, Host.refuses_fail⟩) fun short => ?_)
  cases ground with
  | state _ _ refused => simp [refused] at loadable
  | noInstructions empty => exact absurd (by simpa using empty) occupied
  | program long => exact absurd long short

theorem refused_loadWeights {data : ByteArray} {offset : UInt32}
    (ground : Ground host.config host.state (.loadWeights data offset)) :
    Host.Refused (Host.loadWeights data offset) host := by
  refine Host.refused_ensureLoadable fun loadable => .guard (fun _ => ⟨_, Host.refuses_raise⟩)
    fun occupied => Host.refused_getConfig (.guard (fun _ => ⟨_, Host.refuses_fail⟩) fun short => ?_)
  cases ground with
  | state _ _ refused => simp [refused] at loadable
  | noWeights empty => exact absurd (by simpa [ByteArray.isEmpty] using empty) occupied
  | weights long => exact absurd long short

theorem refused_loadInput {data : ByteArray}
    (ground : Ground host.config host.state (.loadInput data)) :
    Host.Refused (Host.loadInput data) host := by
  refine Host.refused_ensureLoadable fun loadable => .guard (fun _ => ⟨_, Host.refuses_raise⟩)
    fun occupied => Host.refused_getConfig (.guard (fun _ => ⟨_, Host.refuses_fail⟩) fun short => ?_)
  cases ground with
  | state _ _ refused => simp [refused] at loadable
  | noInput empty => exact absurd (by simpa [ByteArray.isEmpty] using empty) occupied
  | input long =>
    rw [UInt32.toNat_div] at short
    exact absurd long short

theorem refused_loadModel {data : ByteArray}
    (ground : Ground host.config host.state (.loadModel data)) :
    Host.Refused (Host.loadModel data) host := by
  cases loadable : host.state.loadable with
  | false => exact Host.refused_of_state loadable _
  | true =>
    rcases exists_unloadable ground with refused | ⟨cause, unloadable⟩
    · simp [refused] at loadable
    · exact ⟨cause, _, Host.loadModel_unloadable loadable unloadable, .inr rfl⟩

theorem refused_of_ground {op : Operation} (ground : op.Ground host.config host.state) :
    Host.Refused op.perform host := by
  cases op with
  | init wanted => exact (refused_init ground).map _
  | start =>
    cases ground with
    | state _ _ refused => exact (Host.refused_of_state refused _).map _
  | loadInstructions instructions => exact (refused_loadInstructions ground).map _
  | loadWeights data offset => exact (refused_loadWeights ground).map _
  | loadInput data => exact (refused_loadInput ground).map _
  | loadModel data => exact (refused_loadModel ground).map _
  | _ =>
    cases ground with
    | state named _ _ => cases named

/-- In the wrong state the error follows from the state alone, whatever the arguments are. -/
theorem refuses_in_state {op : Operation} {name : String} {cause : HostError}
    (named : op.guard? = some name) (other : ∀ wanted, op ≠ .init wanted)
    (wrong : host.state.refusal? name = some cause) : Host.Refuses op.perform cause host := by
  cases op with
  | init wanted => exact absurd rfl (other wanted)
  | start | loadInstructions | loadWeights | loadInput | loadModel =>
    cases named
    exact (Host.refuses_state wrong _).map _
  | _ => cases named

theorem refuses_init {wanted : Config} (active : host.state.isActive = true) :
    Host.Refuses (Host.init wanted) (.busy "init") host := by
  show Host.Refuses (if host.state.isActive then Host.raise _ >>= _ else _) _ host
  rw [if_pos active]
  exact Host.refuses_raise.bind _

theorem refuses_running {op : Operation} {name : String} (named : op.guard? = some name)
    (running : host.state = .running) : Host.Refuses op.perform (.busy name) host := by
  cases op with
  | init wanted =>
    cases named
    exact (refuses_init (congrArg RunState.isActive running)).map _
  | _ => exact refuses_in_state named (by rintro _ ⟨⟩) (by rw [running]; rfl)

end Operation

variable {β : Type} [Bus β]

/-- On every bus and in every state, what is refused leaves the host as it was, up to the remembered
code. A running host refuses as busy, a faulted one for its state. -/
theorem refused_untouched (host : Host β) (op : Operation) :
    (op.Ground host.config host.state → ∃ cause, Host.Refuses op.perform cause host) ∧
    (∀ name, op.guard? = some name → host.state = .running →
      Host.Refuses op.perform (.busy name) host) ∧
    (∀ name, op.guard? = some name → (∀ wanted, op ≠ .init wanted) → host.state = .error →
      Host.Refuses op.perform (.invalidState "error, reset or abort required") host) := by
  refine ⟨Operation.refused_of_ground, fun name named running => ?_, fun name named other faulted => ?_⟩
  · exact Operation.refuses_running named running
  · exact Operation.refuses_in_state named other (by rw [faulted]; rfl)

/-- One byte more than the weight buffer has room for, and a second start. -/
theorem refused_at_boundary :
    (Operation.Ground idleHost.config idleHost.state (.loadWeights ⟨#[1, 2]⟩ 262143) ∧
      ∃ cause, Host.Refuses (Operation.loadWeights ⟨#[1, 2]⟩ 262143).perform cause idleHost) ∧
    ((Operation.start.perform idleHost).2.state = .running ∧
      Host.Refuses Operation.start.perform (.busy "start") (Operation.start.perform idleHost).2) := by
  have ground : Operation.Ground idleHost.config idleHost.state (.loadWeights ⟨#[1, 2]⟩ 262143) :=
    .weights (by decide)
  have running : (Operation.start.perform idleHost).2.state = .running := rfl
  exact ⟨⟨ground, (refused_untouched _ _).1 ground⟩,
    running, (refused_untouched _ _).2.1 "start" rfl running⟩

end NpuStack
