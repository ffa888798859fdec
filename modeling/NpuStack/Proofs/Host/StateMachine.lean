import NpuStack.Device.Scripted
import NpuStack.Proofs.Host.Effects
import NpuStack.Proofs.Host.Invariant

/-! The state machine of the host. Every operation has an effect on the state
that follows from its answer alone, and the transient states are never seen
between operations. -/

set_option autoImplicit false

namespace NpuStack

def RunState.settled : RunState → Bool
  | .init | .draining => false
  | _ => true

namespace Operation

def Effect (s : RunState) (answer : Except HostError Reply) (t : RunState) : Operation → Prop
  | .init _ => answer.isOk = true ∧ s.isActive = false ∧ t = .idle ∨ answer.isOk = false ∧ t = s
  | .deinit => t = if s.isInitialized then .reset else s
  | .loadInstructions _ | .loadWeights _ _ | .loadInput _ =>
    answer.isOk = true ∧ s.loadable = true ∧ t = .loading ∨ answer.isOk = false ∧ t = s
  | .loadModel _ =>
    answer.isOk = true ∧ s.loadable = true ∧ (t = s ∨ t = .loading) ∨
      answer.isOk = false ∧ (t = s ∨ s.loadable = true ∧ t = .idle)
  | .start => answer.isOk = true ∧ s.loadable = true ∧ t = .running ∨ answer.isOk = false ∧ t = s
  | .wait _ =>
    s.isInitialized = true ∧ (answer.isOk = true ∧ t = .done ∨
      (∃ code, answer = .error (.hwFault code)) ∧ t = .error) ∨ answer.isOk = false ∧ t = s
  | .stop => s.isInitialized = true ∧ t = .idle ∨ s.isInitialized = false ∧ t = s
  | .abort =>
    s.isInitialized = true ∧ (answer.isOk = true ∧ t = .idle ∨ answer.isOk = false ∧ t = .error) ∨
      s.isInitialized = false ∧ t = s
  | .reset => t = .idle
  | .handleIrq => ∃ pending told, answer = .ok (.served pending told) ∧ t = Host.servedState pending s
  | .readOutput _ => t = s ∨ s.isActive = false ∧ t = .done
  | .compileAndRun _ =>
    s.loadable = true ∧ (answer.isOk = true ∧ t = .done ∨
      (∃ code, answer = .error (.hwFault code)) ∧ t = .error ∨
      (∃ timeout, answer = .error (.timeout timeout)) ∧ t = .running) ∨ answer.isOk = false ∧ t = s
  | _ => t = s

variable {β : Type} [Bus β] {before after : Host β} {answer : Except HostError Reply}

theorem effect_of_wlp {op : Operation}
    (known : wlp op.perform (fun reply after => op.Effect before.state (.ok reply) after.state)
      (fun cause after => op.Effect before.state (.error cause) after.state) before)
    (step : op.Step before answer after) : op.Effect before.state answer after.state := by
  have result := step.of_wlp known
  cases answer <;> exact result

theorem wlp_state {op : Operation} (narrow : op.extent = .notes) (host : Host β) :
    wlp op.perform (fun _ after => after.state = host.state) (fun _ after => after.state = host.state)
      host := by
  have stable : Host.Stable (· ∈ op.registers) op.scope.opened
      fun other : Host β => other.state = host.state := by
    rw [show op.scope.opened = .notes from congrArg (Host.Scope.mk · true) narrow]
    exact (Host.stable_state host.state).mono fun _ _ => trivial
  exact preserves_perform stable.guarded host rfl

theorem step_effect {op : Operation} (step : op.Step before answer after) :
    op.Effect before.state answer after.state := by
  refine effect_of_wlp ?_ step
  cases op with
  | init config =>
    rw [perform, wlp_map]
    exact (Host.wlp_init config before).imp (fun _ _ done => .inl ⟨rfl, done⟩)
      fun _ _ here => .inr ⟨rfl, here⟩
  | deinit =>
    rw [perform, wlp_map]
    exact (Host.wlp_deinit before).imp (fun _ _ here => here) fun _ _ no => no.elim
  | loadInstructions instructions =>
    rw [perform, wlp_map]
    exact (Host.loads_loadInstructions instructions before).imp (fun _ _ done => .inl ⟨rfl, done⟩)
      fun _ _ here => .inr ⟨rfl, here⟩
  | loadWeights data offset =>
    rw [perform, wlp_map]
    exact (Host.loads_loadWeights data offset before).imp (fun _ _ done => .inl ⟨rfl, done⟩)
      fun _ _ here => .inr ⟨rfl, here⟩
  | loadInput data =>
    rw [perform, wlp_map]
    exact (Host.loads_loadInput data before).imp (fun _ _ done => .inl ⟨rfl, done⟩)
      fun _ _ here => .inr ⟨rfl, here⟩
  | loadModel data =>
    rw [perform, wlp_map]
    exact (Host.wlp_loadModel data before).imp (fun _ _ done => .inl ⟨rfl, done⟩)
      fun _ _ here => .inr ⟨rfl, here⟩
  | start =>
    rw [perform, wlp_map]
    exact (Host.wlp_start before).imp (fun _ _ done => .inl ⟨rfl, done⟩)
      fun _ _ refused => .inr ⟨rfl, refused.2⟩
  | wait timeout =>
    rw [perform, wlp_map]
    refine (Host.wlp_wait timeout before).imp (fun _ _ done => .inl ⟨done.1, .inl ⟨rfl, done.2⟩⟩)
      fun cause after ended => ?_
    rcases ended with ⟨_, here⟩ | ⟨on, ⟨⟨code, rfl⟩, here⟩ | ⟨_, here⟩⟩
    · exact .inr ⟨rfl, here⟩
    · exact .inl ⟨on, .inr ⟨⟨code, rfl⟩, here⟩⟩
    · exact .inr ⟨rfl, here⟩
  | stop =>
    rw [perform, wlp_map]
    exact (Host.wlp_stop before).imp (fun _ _ done => .inl done) fun _ _ => Or.symm
  | abort =>
    rw [perform, wlp_map]
    refine (Host.wlp_abort before).imp (fun _ _ done => .inl ⟨done.1, .inl ⟨rfl, done.2⟩⟩)
      fun cause after ended => ?_
    rcases ended with off | ⟨on, here⟩
    · exact .inr off
    · exact .inl ⟨on, .inr ⟨rfl, here⟩⟩
  | reset =>
    rw [perform, wlp_map]
    exact (Host.wlp_reset before).imp (fun _ _ here => here) fun _ _ no => no.elim
  | handleIrq =>
    rw [perform, wlp_map]
    exact (Host.wlp_handleIrq before).imp (fun answer _ here => ⟨answer.1, answer.2, rfl, here⟩)
      fun _ _ no => no.elim
  | readOutput buffer =>
    rw [perform, wlp_map, wlp_lend]
    exact (Host.wlp_readOutput before buffer).imp (fun _ _ => Or.imp And.right And.right)
      fun _ _ here => .inl here
  | compileAndRun layer =>
    rw [perform, wlp_map]
    refine (Host.wlp_compileAndRun layer before).imp
      (fun _ _ done => .inl ⟨done.1, .inl ⟨rfl, done.2⟩⟩) fun cause after ended => ?_
    rcases ended with here | ⟨loadable, ⟨⟨code, rfl⟩, here⟩ | ⟨⟨timeout, rfl⟩, here⟩⟩
    · exact .inr ⟨rfl, here⟩
    · exact .inl ⟨loadable, .inr (.inl ⟨⟨code, rfl⟩, here⟩)⟩
    · exact .inl ⟨loadable, .inr (.inr ⟨⟨timeout, rfl⟩, here⟩)⟩
  | boot | sleep | wake | selfTest | verifyHardware | hardwareInfo | hardwareState | isDone
  | outputSize | perf | resetCounters | configureLayer | dmaTransfer | setListening =>
    -- These change nothing of the context that a state is part of.
    exact wlp_state rfl before

def targets : Operation → List RunState
  | .init _ | .stop | .reset => [.idle]
  | .deinit => [.reset]
  | .loadInstructions _ | .loadWeights _ _ | .loadInput _ => [.loading]
  | .loadModel _ => [.loading, .idle]
  | .start => [.running]
  | .wait _ | .handleIrq => [.done, .error]
  | .abort => [.idle, .error]
  | .readOutput _ => [.done]
  | .compileAndRun _ => [.done, .error, .running]
  | _ => []

variable {op : Operation} {s t : RunState}

theorem servedState_cases (pending : UInt32) (s : RunState) :
    pending &&& Irq.error ≠ 0 ∧ Host.servedState pending s = .error ∨
    pending &&& Irq.error = 0 ∧ pending &&& Irq.done ≠ 0 ∧ Host.servedState pending s = .done ∨
    Host.servedState pending s = s := by
  unfold Host.servedState
  split
  case isTrue fault => exact .inl ⟨by simpa using fault, rfl⟩
  case isFalse sound =>
    split
    case isTrue done => exact .inr (.inl ⟨by simpa using sound, by simpa using done, rfl⟩)
    case isFalse => exact .inr (.inr rfl)

theorem Effect.mem_targets (effect : op.Effect s answer t) (moved : t ≠ s) : t ∈ op.targets := by
  cases op with
  | init config =>
    rcases effect with ⟨_, _, rfl⟩ | ⟨_, here⟩
    · simp [targets]
    · exact absurd here moved
  | deinit =>
    have here : t = if s.isInitialized then .reset else s := effect
    split at here
    · simp [targets, here]
    · exact absurd here moved
  | loadInstructions | loadWeights | loadInput | start =>
    rcases effect with ⟨_, _, rfl⟩ | ⟨_, here⟩
    · simp [targets]
    · exact absurd here moved
  | loadModel data =>
    rcases effect with ⟨_, _, here | rfl⟩ | ⟨_, here | ⟨_, rfl⟩⟩
    · exact absurd here moved
    · simp [targets]
    · exact absurd here moved
    · simp [targets]
  | wait timeout =>
    rcases effect with ⟨_, ⟨_, rfl⟩ | ⟨_, rfl⟩⟩ | ⟨_, here⟩
    · simp [targets]
    · simp [targets]
    · exact absurd here moved
  | stop =>
    rcases effect with ⟨_, rfl⟩ | ⟨_, here⟩
    · simp [targets]
    · exact absurd here moved
  | abort =>
    rcases effect with ⟨_, ⟨_, rfl⟩ | ⟨_, rfl⟩⟩ | ⟨_, here⟩
    · simp [targets]
    · simp [targets]
    · exact absurd here moved
  | reset =>
    obtain rfl : t = .idle := effect
    simp [targets]
  | handleIrq =>
    obtain ⟨pending, told, _, rfl⟩ := effect
    rcases servedState_cases pending s with ⟨_, here⟩ | ⟨_, _, here⟩ | here
    · simp [targets, here]
    · simp [targets, here]
    · exact absurd here moved
  | readOutput buffer =>
    rcases effect with here | ⟨_, rfl⟩
    · exact absurd here moved
    · simp [targets]
  | compileAndRun layer =>
    rcases effect with ⟨_, ⟨_, rfl⟩ | ⟨_, rfl⟩ | ⟨_, rfl⟩⟩ | ⟨_, here⟩
    · simp [targets]
    · simp [targets]
    · simp [targets]
    · exact absurd here moved
  | _ => exact absurd effect moved

end Operation

structure Transition (op : Operation) (answer : Except HostError Reply) (s t : RunState) : Prop where
  settled : s.settled = true ∧ t.settled = true
  toRunning : s ≠ .running → t = .running →
    op = .start ∧ answer.isOk = true ∨
    ∃ layer timeout, op = .compileAndRun layer ∧ answer = .error (.timeout timeout)
  toLoading : s ≠ .loading → t = .loading → answer.isOk = true ∧
    ((∃ instructions, op = .loadInstructions instructions) ∨
      (∃ data offset, op = .loadWeights data offset) ∨
      (∃ data, op = .loadInput data) ∨ ∃ data, op = .loadModel data)
  fromRunning : s = .running → t ≠ .running →
    (∃ timeout, op = .wait timeout ∧ (answer.isOk = true ∧ t = .done ∨
      ∃ code, answer = .error (.hwFault code) ∧ t = .error)) ∨
    (op = .handleIrq ∧ ∃ pending told, answer = .ok (.served pending told) ∧
      (pending &&& Irq.error ≠ 0 ∧ t = .error ∨
        pending &&& Irq.error = 0 ∧ pending &&& Irq.done ≠ 0 ∧ t = .done)) ∨
    ((op = .stop ∨ op = .reset) ∧ t = .idle) ∨
    (op = .abort ∧ (answer.isOk = true ∧ t = .idle ∨ answer.isOk = false ∧ t = .error)) ∨
    (op = .deinit ∧ t = .reset)
  unchanged : (op = .boot ∨ op = .selfTest ∨ op = .sleep ∨ op = .wake ∨ op = .perf ∨
    op = .resetCounters ∨ (∃ layer, op = .configureLayer layer) ∨
    ∃ d timeout, op = .dmaTransfer d timeout) → t = s

namespace Operation

variable {op : Operation} {answer : Except HostError Reply} {s t : RunState}

theorem settled_of_mem_targets (target : t ∈ op.targets) : t.settled = true := by
  cases op <;> simp only [targets, List.mem_cons, List.not_mem_nil, or_false] at target
  all_goals rcases target with rfl | rfl | rfl <;> rfl

theorem Effect.settled (effect : op.Effect s answer t) (here : s.settled = true) :
    t.settled = true := by
  by_cases same : t = s
  · rwa [same]
  · exact settled_of_mem_targets (effect.mem_targets same)

theorem Effect.toRunning (effect : op.Effect s answer .running) (new : s ≠ .running) :
    op = .start ∧ answer.isOk = true ∨
    ∃ layer timeout, op = .compileAndRun layer ∧ answer = .error (.timeout timeout) := by
  have target := effect.mem_targets new.symm
  cases op with
  | start =>
    rcases effect with ⟨ok, _⟩ | ⟨_, here⟩
    · exact .inl ⟨rfl, ok⟩
    · exact absurd here new.symm
  | compileAndRun layer =>
    rcases effect with ⟨_, ⟨_, here⟩ | ⟨_, here⟩ | ⟨⟨timeout, late⟩, _⟩⟩ | ⟨_, here⟩
    · cases here
    · cases here
    · exact .inr ⟨layer, timeout, rfl, late⟩
    · exact absurd here new.symm
  | _ => simp [targets] at target

theorem Effect.toLoading (effect : op.Effect s answer .loading) (new : s ≠ .loading) :
    answer.isOk = true ∧
    ((∃ instructions, op = .loadInstructions instructions) ∨
      (∃ data offset, op = .loadWeights data offset) ∨
      (∃ data, op = .loadInput data) ∨ ∃ data, op = .loadModel data) := by
  have target := effect.mem_targets new.symm
  cases op with
  | loadInstructions instructions =>
    rcases effect with ⟨ok, _⟩ | ⟨_, here⟩
    · exact ⟨ok, .inl ⟨instructions, rfl⟩⟩
    · exact absurd here new.symm
  | loadWeights data offset =>
    rcases effect with ⟨ok, _⟩ | ⟨_, here⟩
    · exact ⟨ok, .inr (.inl ⟨data, offset, rfl⟩)⟩
    · exact absurd here new.symm
  | loadInput data =>
    rcases effect with ⟨ok, _⟩ | ⟨_, here⟩
    · exact ⟨ok, .inr (.inr (.inl ⟨data, rfl⟩))⟩
    · exact absurd here new.symm
  | loadModel data =>
    rcases effect with ⟨ok, _⟩ | ⟨_, here | ⟨_, here⟩⟩
    · exact ⟨ok, .inr (.inr (.inr ⟨data, rfl⟩))⟩
    · exact absurd here new.symm
    · cases here
  | _ => simp [targets] at target

theorem Effect.fromRunning (effect : op.Effect .running answer t) (left : t ≠ .running) :
    (∃ timeout, op = .wait timeout ∧ (answer.isOk = true ∧ t = .done ∨
      ∃ code, answer = .error (.hwFault code) ∧ t = .error)) ∨
    (op = .handleIrq ∧ ∃ pending told, answer = .ok (.served pending told) ∧
      (pending &&& Irq.error ≠ 0 ∧ t = .error ∨
        pending &&& Irq.error = 0 ∧ pending &&& Irq.done ≠ 0 ∧ t = .done)) ∨
    ((op = .stop ∨ op = .reset) ∧ t = .idle) ∨
    (op = .abort ∧ (answer.isOk = true ∧ t = .idle ∨ answer.isOk = false ∧ t = .error)) ∨
    (op = .deinit ∧ t = .reset) := by
  cases op with
  | wait timeout =>
    rcases effect with ⟨_, done | ⟨⟨code, fault⟩, here⟩⟩ | ⟨_, here⟩
    · exact .inl ⟨timeout, rfl, .inl done⟩
    · exact .inl ⟨timeout, rfl, .inr ⟨code, fault, here⟩⟩
    · exact absurd here left
  | handleIrq =>
    obtain ⟨pending, told, served, here⟩ := effect
    rcases servedState_cases pending .running with ⟨fault, there⟩ | ⟨sound, done, there⟩ | there
    · exact .inr (.inl ⟨rfl, pending, told, served, .inl ⟨fault, here.trans there⟩⟩)
    · exact .inr (.inl ⟨rfl, pending, told, served, .inr ⟨sound, done, here.trans there⟩⟩)
    · exact absurd (here.trans there) left
  | stop =>
    rcases effect with ⟨_, here⟩ | ⟨_, here⟩
    · exact .inr (.inr (.inl ⟨.inl rfl, here⟩))
    · exact absurd here left
  | reset => exact .inr (.inr (.inl ⟨.inr rfl, effect⟩))
  | abort =>
    rcases effect with ⟨_, ended⟩ | ⟨_, here⟩
    · exact .inr (.inr (.inr (.inl ⟨rfl, ended⟩)))
    · exact absurd here left
  | deinit => exact .inr (.inr (.inr (.inr ⟨rfl, effect⟩)))
  | init | loadInstructions | loadWeights | loadInput | start =>
    -- A running host is active and takes no load, so only a refusal is left.
    rcases effect with ⟨_, refused, _⟩ | ⟨_, here⟩
    · cases refused
    · exact absurd here left
  | loadModel data =>
    rcases effect with ⟨_, refused, _⟩ | ⟨_, here | ⟨refused, _⟩⟩
    · cases refused
    · exact absurd here left
    · cases refused
  | readOutput buffer =>
    rcases effect with here | ⟨refused, _⟩
    · exact absurd here left
    · cases refused
  | compileAndRun layer =>
    rcases effect with ⟨refused, _⟩ | ⟨_, here⟩
    · cases refused
    · exact absurd here left
  | _ => exact absurd effect left

theorem Effect.unchanged (effect : op.Effect s answer t) (none : op.targets = []) : t = s := by
  by_cases same : t = s
  · exact same
  · have target := effect.mem_targets same
    rw [none] at target
    cases target

end Operation

theorem transition_of_effect {op : Operation} {answer : Except HostError Reply} {s t : RunState}
    (effect : op.Effect s answer t) (settled : s.settled = true) : Transition op answer s t where
  settled := ⟨settled, effect.settled settled⟩
  toRunning := by
    rintro new rfl
    exact effect.toRunning new
  toLoading := by
    rintro new rfl
    exact effect.toLoading new
  fromRunning := by
    rintro rfl left
    exact effect.fromRunning left
  unchanged := by
    intro quiet
    apply effect.unchanged
    rcases quiet with rfl | rfl | rfl | rfl | rfl | rfl | ⟨layer, rfl⟩ | ⟨d, timeout, rfl⟩ <;> rfl

variable {β : Type} [Bus β]

/-- Whatever the bus is and does, no transient state shows between operations. -/
theorem Reachable.settled {fresh : β → Prop} {altered : β → β → Prop} {host : Host β}
    (reached : Reachable fresh altered host) : host.state.settled = true := by
  induction reached with
  | start _ => rfl
  | step _ step ih => exact (Operation.step_effect step).settled ih
  | alter _ _ ih => exact ih

/-- The state machine of a host on any bus, which may answer and change as it likes. -/
theorem step_transition {op : Operation} {before after : Host β} {answer : Except HostError Reply}
    (reached : Reachable (fun _ => True) (fun _ _ => True) before) (step : op.Step before answer after) :
    Transition op answer before.state after.state :=
  transition_of_effect (Operation.step_effect step) reached.settled

def idleHost : Host Scripted := ((Operation.init .reference).perform (Host.ofBus {})).2

theorem start_transition :
    Reachable (fun _ => True) (fun _ _ => True) idleHost ∧
    Operation.start.Step idleHost (.ok .finished) (Operation.start.perform idleHost).2 ∧
    Transition .start (.ok .finished) .idle .running := by
  have initialised : (Operation.init .reference).Step (Host.ofBus {}) (.ok .finished) idleHost :=
    .of_value rfl
  have started : Operation.start.Step idleHost (.ok .finished) (Operation.start.perform idleHost).2 :=
    .of_value rfl
  have reached : Reachable (fun _ => True) (fun _ _ => True) idleHost :=
    .step (.start trivial) initialised
  exact ⟨reached, started, step_transition reached started⟩

end NpuStack
