import NpuStack.Proofs.Host.Outcome

/-! The operations of the host as data, and the hosts that are seen between
them. -/

set_option autoImplicit false

namespace NpuStack

inductive Operation where
  | init (config : Config)
  | deinit
  | boot
  | selfTest
  | verifyHardware
  | hardwareInfo
  | hardwareState
  | sleep
  | wake
  | loadInstructions (instructions : Array Instruction)
  | loadWeights (data : ByteArray) (offset : UInt32)
  | loadInput (data : ByteArray)
  | loadModel (data : ByteArray)
  | start
  | wait (timeout : UInt64)
  | isDone
  | stop
  | abort
  | reset
  | handleIrq
  | outputSize
  | readOutput (buffer : ByteArray)
  | perf
  | resetCounters
  | configureLayer (layer : Layer)
  | dmaTransfer (d : Descriptor) (timeout : UInt64)
  | compileAndRun (layer : Layer)
  | setListening (listening : Bool)

inductive Reply where
  | finished
  | info (info : HardwareInfo)
  | state (state : Option RunState)
  | header (header : Model.Header)
  | flag (value : Bool)
  /-- Pending interrupts, and what the listener was told. -/
  | served (pending : UInt32) (told : List Completion)
  | word (value : UInt32)
  | output (size : Nat) (buffer : ByteArray)
  | counters (counters : Counters)

namespace Operation

variable {β : Type} [Bus β]

def perform : Operation → HostM β Reply
  | .init config => (fun _ => .finished) <$> Host.init config
  | .deinit => (fun _ => .finished) <$> Host.deinit
  | .boot => .info <$> Host.boot
  | .selfTest => (fun _ => .finished) <$> Host.selfTest
  | .verifyHardware => .info <$> Host.verifyHardware
  | .hardwareInfo => .info <$> Host.hardwareInfo
  | .hardwareState => .state <$> Host.hardwareState
  | .sleep => (fun _ => .finished) <$> Host.sleep
  | .wake => (fun _ => .finished) <$> Host.wake
  | .loadInstructions instructions => (fun _ => .finished) <$> Host.loadInstructions instructions
  | .loadWeights data offset => (fun _ => .finished) <$> Host.loadWeights data offset
  | .loadInput data => (fun _ => .finished) <$> Host.loadInput data
  | .loadModel data => .header <$> Host.loadModel data
  | .start => (fun _ => .finished) <$> Host.start
  | .wait timeout => (fun _ => .finished) <$> Host.wait timeout
  | .isDone => .flag <$> Host.isDone
  | .stop => (fun _ => .finished) <$> Host.stop
  | .abort => (fun _ => .finished) <$> Host.abort
  | .reset => (fun _ => .finished) <$> Host.reset
  | .handleIrq => (fun answer => .served answer.1 answer.2) <$> Host.handleIrq
  | .outputSize => .word <$> Host.outputSize
  | .readOutput buffer => (fun answer => .output answer.1 answer.2) <$> lend buffer Host.readOutput
  | .perf => .counters <$> Host.perf
  | .resetCounters => (fun _ => .finished) <$> Host.resetCounters
  | .configureLayer layer => (fun _ => .finished) <$> Host.configureLayer layer
  | .dmaTransfer d timeout => (fun _ => .finished) <$> Host.dmaTransfer d timeout
  | .compileAndRun layer => .counters <$> Host.compileAndRun layer
  | .setListening listening => .flag <$> Host.setListening listening

/-- An operation that comes back, with a value or a reported error. -/
def Step (op : Operation) (before : Host β) (answer : Except HostError Reply) (after : Host β) :
    Prop :=
  attempt op.perform before = (.ok answer, after)

theorem Step.of_wlp {op : Operation} {before after : Host β} {answer : Except HostError Reply}
    {value : Reply → Host β → Prop} {report : HostError → Host β → Prop}
    (step : Step op before answer after) (known : wlp op.perform value report before) :
    match answer with
    | .ok reply => value reply after
    | .error cause => report cause after := by
  have ended := known.of_attempt step
  cases answer <;> exact ended

/-- An operation that is made of an action ends as the action does. -/
theorem Step.of_outcome {α : Type} {op : Operation} {before after : Host β}
    {answer : Except HostError Reply} {action : HostM β α} {wrap : α → Reply} {value : Host β → Prop}
    {report : HostError → Host β → Prop} (step : op.Step before answer after)
    (performs : op.perform = wrap <$> action) (known : wlp action (fun _ => value) report before) :
    match answer with
    | .ok _ => value after
    | .error cause => report cause after := by
  have all : wlp op.perform (fun _ => value) report before := by
    rw [performs, wlp_map]
    exact known
  have ended := step.of_wlp all
  cases answer <;> exact ended

theorem Step.of_preserves {op : Operation} {before after : Host β} {answer : Except HostError Reply}
    {kept : Host β → Prop} (step : op.Step before answer after) (preserves : Preserves kept op.perform)
    (held : kept before) : kept after := by
  have known := step.of_wlp (preserves before held)
  cases answer <;> exact known

/-- What holds after every value of an action holds after the operation that is made of it. -/
theorem Step.of_action {α : Type} {op : Operation} {before after : Host β} {reply : Reply}
    {action : HostM β α} {wrap : α → Reply} {kept : Host β → Prop} {report : HostError → Host β → Prop}
    (step : op.Step before (.ok reply) after) (performs : op.perform = wrap <$> action)
    (known : wlp action (fun _ => kept) report before) : kept after :=
  step.of_outcome performs known

theorem Step.after_eq {op : Operation} {before after : Host β} {answer : Except HostError Reply}
    (step : op.Step before answer after) : after = (op.perform before).2 := by
  unfold Step attempt at step
  split at step
  case h_1 run =>
    cases step
    rw [run]
  case h_2 run =>
    cases step
    rw [run]
  case h_3 => cases step

theorem Step.of_yields {op : Operation} {host : Host β} {value : Reply → Host β → Prop}
    (known : yields op.perform value host) :
    ∃ reply after, op.Step host (.ok reply) after ∧ value reply after := by
  unfold yields at known
  unfold Step attempt
  split at known
  case h_1 reply after run =>
    rw [run]
    exact ⟨reply, after, rfl, known⟩
  case h_2 => exact known.elim

theorem Step.of_value {op : Operation} {host : Host β} {reply : Reply}
    (value : (op.perform host).1 = .ok reply) : op.Step host (.ok reply) (op.perform host).2 := by
  unfold Step attempt
  generalize op.perform host = run at value ⊢
  obtain ⟨result, after⟩ := run
  cases value
  rfl

theorem Step.of_report {op : Operation} {host : Host β} {cause : HostError}
    (report : (op.perform host).1 = .error (.error cause)) :
    op.Step host (.error cause) (op.perform host).2 := by
  unfold Step attempt
  generalize op.perform host = run at report ⊢
  obtain ⟨result, after⟩ := run
  cases report
  rfl

/-- An operation that wraps the values of an action steps as the action ends. -/
theorem step_iff_of_map {α : Type} {op : Operation} {action : HostM β α} {wrap : α → Reply}
    (performs : op.perform = wrap <$> action) {host after : Host β} {answer : Except HostError Reply} :
    op.Step host answer after ↔
      match action host with
      | (.ok value, last) => answer = .ok (wrap value) ∧ after = last
      | (.error (.error cause), last) => answer = .error cause ∧ after = last
      | (.error (.trap _), _) => False := by
  unfold Step attempt
  rw [performs, map_eq_pure_bind, act_bind]
  rcases action host with ⟨(cause | cause) | value, last⟩
  · constructor
    · intro same
      cases same
    · exact False.elim
  · constructor
    · intro same
      cases same
      exact ⟨rfl, rfl⟩
    · rintro ⟨rfl, rfl⟩
      rfl
  · constructor
    · intro same
      cases same
      exact ⟨rfl, rfl⟩
    · rintro ⟨rfl, rfl⟩
      rfl

theorem exists_ok (op : Operation) {α : Type} {action : HostM β α} {wrap : α → Reply}
    (performs : op.perform = wrap <$> action) {host : Host β} {value : α → Host β → Prop}
    (known : yields action value host) :
    ∃ result after, op.Step host (.ok (wrap result)) after ∧ value result after := by
  unfold yields at known
  split at known
  case h_1 result after run =>
    exact ⟨result, after, (step_iff_of_map performs).mpr (by rw [run]; exact ⟨rfl, rfl⟩), known⟩
  case h_2 => exact known.elim

def comesBack {α : Type} : Attempt HostError α → Bool
  | .error (.trap _) => false
  | _ => true

theorem exists_step (op : Operation) (host : Host β) (back : comesBack (op.perform host).1 = true) :
    ∃ answer, op.Step host answer (op.perform host).2 := by
  unfold Step attempt
  generalize op.perform host = run at back ⊢
  rcases run with ⟨(cause | cause) | reply, after⟩
  · cases back
  · exact ⟨_, rfl⟩
  · exact ⟨_, rfl⟩

theorem exists_reply (op : Operation) (host : Host β) (ok : (op.perform host).1.isOk = true) :
    ∃ reply, op.Step host (.ok reply) (op.perform host).2 := by
  cases result : (op.perform host).1 with
  | error cause =>
    rw [result] at ok
    cases ok
  | ok reply => exact ⟨reply, .of_value result⟩

end Operation

/-- The hosts seen between operations. A host starts on a bus that is `fresh`; between operations
time may pass and the bus may be `altered`. -/
inductive Reachable {β : Type} [Bus β] (fresh : β → Prop) (altered : β → β → Prop) : Host β → Prop where
  | start {bus : β} {clock : Clock} : fresh bus → Reachable fresh altered { link := ⟨bus, clock⟩ }
  | step {op : Operation} {before after : Host β} {answer : Except HostError Reply} :
    Reachable fresh altered before → op.Step before answer after → Reachable fresh altered after
  | alter {host : Host β} {bus : β} {clock : Clock} : Reachable fresh altered host →
    altered host.link.bus bus → Reachable fresh altered { host with link := ⟨bus, clock⟩ }

theorem Reachable.mono {β : Type} [Bus β] {fresh : β → Prop} {altered wider : β → β → Prop} {host : Host β}
    (reached : Reachable fresh altered host) (allowed : ∀ bus after, altered bus after → wider bus after) :
    Reachable fresh wider host := by
  induction reached with
  | start new => exact .start new
  | step _ step ih => exact .step ih step
  | alter _ change ih => exact .alter ih (allowed _ _ change)

end NpuStack
