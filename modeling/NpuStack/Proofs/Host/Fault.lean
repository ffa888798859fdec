import NpuStack.Device.Simulator
import NpuStack.Proofs.Host.StateMachine

/-! The error state over whole runs. Loads and starts stay refused until the
host leaves it, and it is left by recovery, or by an answer that takes a program
for finished: such answers look at the device and not at the state. -/

set_option autoImplicit false

namespace NpuStack

namespace Operation

def recovers : Operation → Bool
  | .init _ | .deinit | .stop | .abort | .reset => true
  | _ => false

def commits : Operation → Bool
  | .loadInstructions _ | .loadWeights _ _ | .loadInput _ | .loadModel _ | .start
  | .compileAndRun _ => true
  | _ => false

/-- Answers after which the host counts a program as finished, in whatever state it was. -/
def Resumes : Operation → Except HostError Reply → Prop
  | .wait _, .ok _ => True
  | .handleIrq, .ok (.served pending _) => pending &&& Irq.error = 0 ∧ pending &&& Irq.done ≠ 0
  | .readOutput _, .ok (.output size _) => 0 < size
  | _, _ => False

end Operation

section Step

variable {β : Type} [Bus β]

namespace Operation

variable {op : Operation} {before after : Host β} {answer : Except HostError Reply}

theorem faulted_readOutput {buffer : ByteArray} (faulted : before.state = .error)
    (step : (readOutput buffer).Step before answer after) :
    after.state = .error ∧ ¬(readOutput buffer).Resumes answer ∨
      after.state = .done ∧ (readOutput buffer).Resumes answer := by
  have known : wlp (readOutput buffer).perform
      (fun reply after => ∃ size output, reply = .output size output ∧
        (size = 0 ∧ after.state = .error ∨ 0 < size ∧ after.state = .done))
      (fun _ after => after.state = .error) before := by
    rw [perform, wlp_map, wlp_lend, ← faulted]
    exact (Host.wlp_readOutput before buffer).imp
      (fun size _ here => ⟨_, _, rfl, here.imp_right fun read => ⟨read.1, read.2.2⟩⟩)
      fun _ _ here => here
  have result := step.of_wlp known
  cases answer with
  | error cause => exact .inl ⟨result, id⟩
  | ok reply =>
    obtain ⟨size, output, rfl, ⟨rfl, here⟩ | ⟨some, here⟩⟩ := result
    · exact .inl ⟨here, Nat.lt_irrefl 0⟩
    · exact .inr ⟨here, some⟩

omit [Bus β] in
theorem faulted_handleIrq (effect : handleIrq.Effect .error answer after.state) :
    after.state = .error ∧ ¬handleIrq.Resumes answer ∨
      after.state = .done ∧ handleIrq.Resumes answer := by
  obtain ⟨pending, told, rfl, here⟩ := effect
  rw [here]
  unfold Host.servedState Resumes
  by_cases fault : pending &&& Irq.error = 0
  · by_cases done : pending &&& Irq.done = 0 <;> simp [fault, done]
  · simp [fault]

/-- One operation on a faulted host. -/
theorem faulted_step (faulted : before.state = .error) (plain : op.recovers = false)
    (step : op.Step before answer after) :
    after.state = .error ∧ ¬op.Resumes answer ∨ after.state = .done ∧ op.Resumes answer := by
  have effect := step_effect step
  rw [faulted] at effect
  cases op with
  | init | deinit | stop | abort | reset => cases plain
  | handleIrq => exact faulted_handleIrq effect
  | readOutput buffer => exact faulted_readOutput faulted step
  | wait timeout =>
    rcases effect with ⟨_, ⟨ok, here⟩ | ⟨⟨code, rfl⟩, here⟩⟩ | ⟨failed, here⟩
    · cases answer with
      | ok reply => exact .inr ⟨here, trivial⟩
      | error cause => cases ok
    · exact .inl ⟨here, id⟩
    · cases answer with
      | ok reply => cases failed
      | error cause => exact .inl ⟨here, id⟩
  | loadInstructions | loadWeights | loadInput | start =>
    -- The error state takes no loads, so a value is out of the question.
    rcases effect with ⟨_, loadable, _⟩ | ⟨_, here⟩
    · cases loadable
    · exact .inl ⟨here, id⟩
  | loadModel data =>
    rcases effect with ⟨_, loadable, _⟩ | ⟨_, here | ⟨loadable, _⟩⟩
    · cases loadable
    · exact .inl ⟨here, id⟩
    · cases loadable
  | compileAndRun layer =>
    rcases effect with ⟨loadable, _⟩ | ⟨_, here⟩
    · cases loadable
    · exact .inl ⟨here, id⟩
  | _ => exact .inl ⟨effect, id⟩

theorem faulted_iff (faulted : before.state = .error) (plain : op.recovers = false)
    (step : op.Step before answer after) : after.state = .error ↔ ¬op.Resumes answer := by
  rcases faulted_step faulted plain step with ⟨still, quiet⟩ | ⟨done, resumes⟩
  · simp [still, quiet]
  · simp [done, resumes]

theorem faulted_commits (faulted : before.state = .error) (commits : op.commits = true)
    (step : op.Step before answer after) : answer.isOk = false := by
  have effect := step_effect step
  rw [faulted] at effect
  cases op with
  | loadInstructions | loadWeights | loadInput | loadModel | start =>
    rcases effect with ⟨_, loadable, _⟩ | ⟨failed, _⟩
    · cases loadable
    · exact failed
  | compileAndRun layer =>
    rcases effect with ⟨loadable, _⟩ | ⟨failed, _⟩
    · cases loadable
    · exact failed
  | _ => cases commits

end Operation

end Step

structure Event where
  op : Operation
  answer : Except HostError Reply
  state : RunState

/-- Operations one after another. Between them time may pass and the bus may be `altered`. -/
inductive Run {β : Type} [Bus β] (altered : β → β → Prop) : Host β → List Event → Host β → Prop where
  | nil {host : Host β} : Run altered host [] host
  | step {op : Operation} {before middle after : Host β} {answer : Except HostError Reply}
    {events : List Event} : op.Step before answer middle → Run altered middle events after →
    Run altered before (⟨op, answer, middle.state⟩ :: events) after
  | alter {host after : Host β} {bus : β} {clock : Clock} {events : List Event} :
    altered host.link.bus bus → Run altered { host with link := ⟨bus, clock⟩ } events after →
    Run altered host events after

section Run

variable {β : Type} [Bus β] {altered : β → β → Prop} {host after : Host β} {events : List Event}

/-- A run stays in a state exactly as long as no answer in it is one that leaves the state. -/
theorem Run.stays_iff (run : Run altered host events after) {s : RunState}
    {allowed : Operation → Prop} {leaves : Operation → Except HostError Reply → Prop}
    (one : ∀ {op : Operation} {before after : Host β} {answer : Except HostError Reply},
      before.state = s → allowed op → op.Step before answer after →
      (after.state = s ↔ ¬leaves op answer))
    (here : host.state = s) (within : ∀ event ∈ events, allowed event.op) :
    (∀ event ∈ events, event.state = s) ↔ ∀ event ∈ events, ¬leaves event.op event.answer := by
  induction run with
  | nil => simp
  | step step _ ih =>
    rw [List.forall_mem_cons] at within
    rw [List.forall_mem_cons, List.forall_mem_cons]
    constructor
    · rintro ⟨still, rest⟩
      exact ⟨(one here within.1 step).mp still, (ih still within.2).mp rest⟩
    · rintro ⟨plain, rest⟩
      have still := (one here within.1 step).mpr plain
      exact ⟨still, (ih still within.2).mpr rest⟩
  | alter _ _ ih => exact ih here within

/-- What is known of single answers in a state holds of a run that stays there. -/
theorem Run.while_state (run : Run altered host events after) {s : RunState}
    (fact : Operation → Except HostError Reply → Prop)
    (one : ∀ {op : Operation} {before after : Host β} {answer : Except HostError Reply},
      before.state = s → op.Step before answer after → fact op answer)
    (here : host.state = s) (stays : ∀ event ∈ events, event.state = s) :
    after.state = s ∧ ∀ event ∈ events, fact event.op event.answer := by
  induction run with
  | nil => exact ⟨here, by simp⟩
  | step step _ ih =>
    rw [List.forall_mem_cons] at stays ⊢
    have rest := ih stays.1 stays.2
    exact ⟨rest.1, one here step, rest.2⟩
  | alter _ _ ih => exact ih here stays

theorem Run.plain_of_stays (run : Run altered host events after) (faulted : host.state = .error)
    (unrecovered : ∀ event ∈ events, event.op.recovers = false)
    (stays : ∀ event ∈ events, event.state = .error) :
    ∀ event ∈ events, ¬event.op.Resumes event.answer :=
  (run.stays_iff Operation.faulted_iff faulted unrecovered).mp stays

theorem Run.faulted_of_plain (run : Run altered host events after) (faulted : host.state = .error)
    (unrecovered : ∀ event ∈ events, event.op.recovers = false)
    (plain : ∀ event ∈ events, ¬event.op.Resumes event.answer) :
    after.state = .error ∧ ∀ event ∈ events, event.state = .error ∧
      (event.op.commits = true → event.answer.isOk = false) := by
  have stays := (run.stays_iff Operation.faulted_iff faulted unrecovered).mpr plain
  have known := run.while_state (fun op answer => op.commits = true → answer.isOk = false)
    (fun here step commits => Operation.faulted_commits here commits step) faulted stays
  exact ⟨known.1, fun event member => ⟨stays event member, known.2 event member⟩⟩

/-- A faulted host stays faulted through a run without recovery exactly as long as no answer takes a
program for finished, and till then every load and every start is refused. -/
theorem fault_terminal_iff (run : Run altered host events after) (faulted : host.state = .error)
    (unrecovered : ∀ event ∈ events, event.op.recovers = false) :
    ((∀ event ∈ events, event.state = .error) ↔ ∀ event ∈ events, ¬event.op.Resumes event.answer) ∧
    ((∀ event ∈ events, ¬event.op.Resumes event.answer) → after.state = .error ∧
      ∀ event ∈ events, event.op.commits = true → event.answer.isOk = false) := by
  refine ⟨⟨run.plain_of_stays faulted unrecovered, fun plain event member => ?_⟩, fun plain => ?_⟩
  · exact ((run.faulted_of_plain faulted unrecovered plain).2 event member).1
  · have known := run.faulted_of_plain faulted unrecovered plain
    exact ⟨known.1, fun event member => (known.2 event member).2⟩

end Run

/-- Faults, hangs and latency are scripted anew, or interrupts are raised. -/
inductive Simulator.Rescripted (sim : Simulator) : Simulator → Prop where
  | script (fault : Option UInt32) (dmaFault dmaHang hang : Bool) (latency : UInt32) :
    Rescripted sim { sim with fault, dmaFault, dmaHang, hang, latency }
  | interrupt (bits : UInt32) : Rescripted sim (sim.raiseIrq bits)

section Example

theorem reference_builds : (Simulator.ofProfile .reference).toOption.isSome = true := rfl

def referenceCore : Simulator := (Simulator.ofProfile .reference).toOption.get reference_builds

def armedHost : Host Simulator :=
  let host := ((Operation.init .reference).perform (.ofBus referenceCore)).2
  { host with link := ⟨{ host.link.bus with fault := some 0x77 }, host.link.clock⟩ }

def faultedHost : Host Simulator :=
  ((Operation.wait 1000).perform (Operation.start.perform armedHost).2).2

/-- The core has been booted behind the back of the faulted host. -/
def bootedHost : Host Simulator := (Operation.boot.perform faultedHost).2

theorem faultedHost_reachable :
    Reachable (fun sim => Simulator.ofProfile .reference = .ok sim) Simulator.Rescripted
      faultedHost := by
  have initialised : (Operation.init .reference).Step
      (.ofBus referenceCore) (.ok .finished) _ := .of_value rfl
  have armed : Reachable (fun sim => Simulator.ofProfile .reference = .ok sim) Simulator.Rescripted
      armedHost := .alter (.step (.start rfl) initialised) (.script (some 0x77) false false false 0)
  have back : Operation.comesBack (Operation.start.perform armedHost).1 = true ∧
      Operation.comesBack ((Operation.wait 1000).perform (Operation.start.perform armedHost).2).1 = true := by
    decide +kernel
  obtain ⟨_, started⟩ := Operation.start.exists_step armedHost back.1
  obtain ⟨_, waited⟩ := (Operation.wait 1000).exists_step _ back.2
  exact .step (.step armed started) waited

/-- A start is refused, and again after the core has been put to sleep. -/
theorem start_refused_after_fault :
    ∃ events after, Run Simulator.Rescripted faultedHost events after ∧
      events.map Event.op = [.start, .sleep, .start] ∧ after.state = .error ∧
      ∀ event ∈ events, event.op.commits = true → event.answer.isOk = false := by
  let refusedHost := (Operation.start.perform faultedHost).2
  let asleepHost := (Operation.sleep.perform refusedHost).2
  have back : Operation.comesBack (Operation.start.perform faultedHost).1 = true ∧
      Operation.comesBack (Operation.sleep.perform refusedHost).1 = true ∧
      Operation.comesBack (Operation.start.perform asleepHost).1 = true ∧ faultedHost.state = .error := by
    decide +kernel
  obtain ⟨_, refused⟩ := Operation.start.exists_step faultedHost back.1
  obtain ⟨_, asleep⟩ := Operation.sleep.exists_step refusedHost back.2.1
  obtain ⟨_, again⟩ := Operation.start.exists_step asleepHost back.2.2.1
  have last : Run Simulator.Rescripted asleepHost _ _ := .step again .nil
  have run := Run.step refused (.step asleep last)
  have known := fault_terminal_iff run back.2.2.2 (by simp [Operation.recovers])
  exact ⟨_, _, run, rfl, known.2 (by simp [Operation.Resumes])⟩

/-- Booting the core leaves the host faulted and the device idle, so that a wait then takes a program
for finished that has failed. -/
theorem fault_not_terminal :
    ¬∀ (host after : Host Simulator) (op : Operation) (answer : Except HostError Reply),
      Reachable (fun sim => Simulator.ofProfile .reference = .ok sim) Simulator.Rescripted host →
      host.state = .error → op.recovers = false → op.Step host answer after →
      after.state = .error := by
  intro terminal
  have run : Operation.comesBack (Operation.boot.perform faultedHost).1 = true ∧
      Operation.comesBack ((Operation.wait 1000).perform bootedHost).1 = true ∧ bootedHost.state = .error ∧
      ((Operation.wait 1000).perform bootedHost).2.state = .done := by
    decide +kernel
  obtain ⟨_, booted⟩ := Operation.boot.exists_step faultedHost run.1
  obtain ⟨_, waited⟩ := (Operation.wait 1000).exists_step bootedHost run.2.1
  have reached : Reachable _ Simulator.Rescripted bootedHost := faultedHost_reachable.step booted
  have still := terminal _ _ _ _ reached run.2.2.1 rfl waited
  rw [run.2.2.2] at still
  cases still

end Example

end NpuStack
