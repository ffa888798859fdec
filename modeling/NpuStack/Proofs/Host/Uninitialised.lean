import NpuStack.Proofs.Host.Fault
import NpuStack.Proofs.Host.Refusal

/-! The host before it is initialised, over whole runs. What needs an initialised
host is refused and leaves it alone. Of the rest only the service of an interrupt
moves the state: it looks at the device, which may still have news of a program
from before. -/

set_option autoImplicit false

namespace NpuStack

namespace Operation

def initialises : Operation → Bool
  | .init _ | .reset => true
  | _ => false

def needsInitialised : Operation → Bool
  | .loadInstructions _ | .loadWeights _ _ | .loadInput _ | .loadModel _ | .start | .wait _ | .stop
  | .abort | .readOutput _ | .dmaTransfer _ _ | .compileAndRun _ => true
  | _ => false

/-- News of a program has been served, a completion or a fault. -/
def Concludes : Operation → Except HostError Reply → Prop
  | .handleIrq, .ok (.served pending _) => pending &&& Irq.done ≠ 0 ∨ pending &&& Irq.error ≠ 0
  | _, _ => False

end Operation

variable {β : Type}

theorem Host.refuses_uninitialised {α : Type} {host : Host β} (off : host.state.isInitialized = false)
    (next : Unit → HostM β α) : Refuses (ensureInitialized >>= next) .notInitialized host := by
  have refused : (ensureInitialized : HostM β Unit) host = (.error (.error .notInitialized), host) := by
    unfold ensureInitialized
    rw [act_bind]
    show (if (!host.state.isInitialized) = true then raise .notInitialized else pure () : HostM β Unit)
      host = _
    rw [off]
    rfl
  exact Refuses.bind ⟨host, refused, .inl rfl⟩ next

theorem Host.refuses_output_uninitialised [Bus β] {host : Host β}
    (off : host.state.isInitialized = false) (buffer : ByteArray) :
    Refuses (lend buffer readOutput) .notInitialized host := by
  obtain ⟨after, run, untouched⟩ : Refuses (readableBytes buffer) .notInitialized host :=
    refuses_uninitialised off _
  refine ⟨after, ?_, untouched⟩
  have ended : readOutput (host, buffer) = (.error (.error .notInitialized), after, buffer) := by
    unfold readOutput
    rw [act_bind]
    show (onHost (readableBytes buffer) >>= _) (host, buffer) = _
    rw [act_bind, onHost_eq, run]
  unfold lend
  rw [ended]

variable [Bus β]

namespace Operation

variable {op : Operation} {before after : Host β} {answer : Except HostError Reply}

theorem Step.of_refuses {cause : HostError} (step : op.Step before answer after)
    (refuses : Host.Refuses op.perform cause before) :
    answer = .error cause ∧ (after = before ∨ after = before.noted cause) := by
  obtain ⟨left, run, untouched⟩ := refuses
  unfold Step attempt at step
  rw [run] at step
  cases step
  exact ⟨rfl, untouched⟩

theorem refuses_before_init (off : before.state = .reset) (needs : op.needsInitialised = true) :
    Host.Refuses op.perform .notInitialized before := by
  have refused : before.state.isInitialized = false := congrArg RunState.isInitialized off
  have unloadable (operation : String) :
      before.state.refusal? operation = some .notInitialized := congrArg (·.refusal? operation) off
  cases op with
  | loadInstructions | loadWeights | loadInput | loadModel | start | compileAndRun =>
    exact (Host.refuses_state (unloadable _) _).map _
  | wait | stop | abort | dmaTransfer => exact (Host.refuses_uninitialised refused _).map _
  | readOutput buffer => exact (Host.refuses_output_uninitialised refused buffer).map _
  | _ => cases needs

theorem notInitialized_before_init (off : before.state = .reset) (step : op.Step before answer after)
    (needs : op.needsInitialised = true) : answer = .error .notInitialized :=
  (step.of_refuses (refuses_before_init off needs)).1

/-- One operation on a host that is not initialised. -/
theorem uninitialised_iff (off : before.state = .reset) (plain : op.initialises = false)
    (step : op.Step before answer after) : after.state = .reset ↔ ¬op.Concludes answer := by
  have effect := step_effect step
  rw [off] at effect
  cases needs : op.needsInitialised with
  | true =>
    obtain ⟨rfl, untouched⟩ := step.of_refuses (refuses_before_init off needs)
    have still : after.state = .reset := by
      rcases untouched with rfl | rfl
      · exact off
      · exact off
    cases op <;> simp [still, Concludes]
  | false =>
    cases op with
    | init | reset => cases plain
    | handleIrq =>
      obtain ⟨pending, told, rfl, here⟩ := effect
      rw [here]
      unfold Host.servedState Concludes
      by_cases fault : pending &&& Irq.error = 0
      · by_cases done : pending &&& Irq.done = 0 <;> simp [fault, done]
      · simp [fault]
    | loadInstructions | loadWeights | loadInput | loadModel | start | compileAndRun | wait | stop | abort
    | readOutput | dmaTransfer => cases needs
    | _ =>
      have still : after.state = .reset := effect
      simp [still, Concludes]

end Operation

/-- A host that is not initialised stays so, through a run without a call that initialises it,
exactly as long as no interrupt serves news of a program. Till then whatever needs an initialised
host is refused for that reason. -/
theorem uninitialised_until_served {altered : β → β → Prop} {host after : Host β}
    {events : List Event} (run : Run altered host events after) (off : host.state = .reset)
    (plain : ∀ event ∈ events, event.op.initialises = false) :
    ((∀ event ∈ events, event.state = .reset) ↔
      ∀ event ∈ events, ¬event.op.Concludes event.answer) ∧
    ((∀ event ∈ events, ¬event.op.Concludes event.answer) → after.state = .reset ∧
      ∀ event ∈ events, event.op.needsInitialised = true →
        event.answer = .error .notInitialized) := by
  have stays := run.stays_iff Operation.uninitialised_iff off plain
  refine ⟨stays, fun quiet => ?_⟩
  exact run.while_state
    (fun op answer => op.needsInitialised = true → answer = .error .notInitialized)
    Operation.notInitialized_before_init off (stays.mpr quiet)

section Example

/-- A program has run on the reference core and the host has seen its end in the status; then the
host was deinitialised. The interrupt is still pending. -/
def spentHost : Host Simulator :=
  let idle := ((Operation.init .reference).perform (.ofBus referenceCore)).2
  let started := (Operation.start.perform idle).2
  (Operation.deinit.perform ((Operation.wait 1000).perform started).2).2

theorem spentHost_reachable :
    Reachable (fun sim => Simulator.ofProfile .reference = .ok sim) Simulator.Rescripted spentHost := by
  let idle := ((Operation.init .reference).perform (.ofBus referenceCore)).2
  let started := (Operation.start.perform idle).2
  let finished := ((Operation.wait 1000).perform started).2
  have back : Operation.comesBack
        ((Operation.init .reference).perform (.ofBus referenceCore)).1 = true ∧
      Operation.comesBack (Operation.start.perform idle).1 = true ∧
      Operation.comesBack ((Operation.wait 1000).perform started).1 = true ∧
      Operation.comesBack (Operation.deinit.perform finished).1 = true := by
    decide +kernel
  obtain ⟨_, first⟩ := Operation.exists_step _ _ back.1
  obtain ⟨_, second⟩ := Operation.exists_step _ _ back.2.1
  obtain ⟨_, third⟩ := Operation.exists_step _ _ back.2.2.1
  obtain ⟨_, last⟩ := Operation.exists_step _ _ back.2.2.2
  exact .step (.step (.step (.step (.start rfl) first) second) third) last

/-- Booting the core takes the interrupt away, and then serving interrupts has no effect either. -/
theorem start_refused_after_boot :
    ∃ events after, Run Simulator.Rescripted spentHost events after ∧
      events.map Event.op = [.boot, .handleIrq, .start] ∧ after.state = .reset ∧
      ∀ event ∈ events, event.op.needsInitialised = true → event.answer = .error .notInitialized := by
  let booted := (Operation.boot.perform spentHost).2
  let served := (Operation.handleIrq.perform booted).2
  let refused := (Operation.start.perform served).2
  have ran : (Operation.comesBack (Operation.boot.perform spentHost).1 = true ∧
      Operation.comesBack (Operation.handleIrq.perform booted).1 = true ∧
      Operation.comesBack (Operation.start.perform served).1 = true) ∧
      spentHost.state = .reset ∧ booted.state = .reset ∧ served.state = .reset ∧
      refused.state = .reset := by
    decide +kernel
  obtain ⟨back, off⟩ := ran
  obtain ⟨_, boot⟩ : ∃ answer, Operation.boot.Step spentHost answer booted :=
    Operation.exists_step _ _ back.1
  obtain ⟨_, serve⟩ : ∃ answer, Operation.handleIrq.Step booted answer served :=
    Operation.exists_step _ _ back.2.1
  obtain ⟨_, start⟩ : ∃ answer, Operation.start.Step served answer refused :=
    Operation.exists_step _ _ back.2.2
  -- From here on it does not matter how the hosts were computed.
  clear_value booted served refused
  have run : Run Simulator.Rescripted spentHost _ refused := .step boot (.step serve (.step start .nil))
  have known := uninitialised_until_served run off.1 (by simp [Operation.initialises])
  exact ⟨_, _, run, rfl, known.2 (known.1.mp (by simpa using off.2))⟩

/-- The interrupt of the program from before, once served, makes the host done. -/
theorem uninitialised_not_kept :
    ¬∀ (host after : Host Simulator) (op : Operation) (answer : Except HostError Reply),
      Reachable (fun sim => Simulator.ofProfile .reference = .ok sim) Simulator.Rescripted host →
      host.state = .reset → op.initialises = false → op.Step host answer after →
      after.state = .reset := by
  intro kept
  have run : spentHost.state = .reset ∧
      Operation.comesBack (Operation.handleIrq.perform spentHost).1 = true ∧
      (Operation.handleIrq.perform spentHost).2.state = .done := by
    decide +kernel
  obtain ⟨_, served⟩ := Operation.exists_step _ _ run.2.1
  have still := kept _ _ _ _ spentHost_reachable run.1 rfl served
  rw [run.2.2] at still
  cases still

end Example

end NpuStack
