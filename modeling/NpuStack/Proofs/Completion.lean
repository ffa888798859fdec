import NpuStack.Proofs.Loading
import NpuStack.Proofs.Simulator.Interrupt

/-! The two ways to learn of the end of a program: to look at the status, or to
serve the interrupt. A start takes back what was pending before it, so both tell
of the same program, and the host makes the same of them. -/

set_option autoImplicit false

namespace NpuStack

namespace Simulator

variable {sim : Simulator} {status irq : UInt32}

structure Shows (status irq : UInt32) (sim : Simulator) : Prop where
  status : sim.peek .status = status
  irq : sim.peek .irqStatus = irq
  prompt : sim.pending = 0

theorem Shows.visible (shows : Shows status irq sim) : sim.visible = irq := by
  rw [visible_eq, shows.prompt]
  exact shows.irq

theorem Shows.read_status (shows : Shows status irq sim) :
    sim.read .status = (status, { sim with statusReads := sim.statusReads + 1 }) := by
  rw [← shows.status]
  exact if_neg (by simp [shows.prompt])

section Launch

/-- Raised and taken back, a start leaves no trace in a control word. -/
theorem Lowered.restored {word : UInt32} (lowered : Lowered 0 word) :
    (word ||| Ctrl.start) &&& ~~~Ctrl.start = word := by
  have clear : word &&& pulses = 0 := lowered
  rw [and_eq_zero_iff] at clear
  rw [eq_iff_hasBit]
  intro i
  cases start : hasBit Ctrl.start i with
  | false => simp [start]
  | true =>
    -- The start is one of the pulses, and these are all down.
    have pulse : hasBit pulses i = true := by simp [pulses, start]
    simp [start, clear i pulse]

/-- The core when its program starts to run: only the pointer and the interrupts have been touched,
and both are at zero. -/
theorem exists_ready (lowered : Lowered 0 (sim.peek .ctrl)) :
    ∃ ready : Simulator, sim.launched = ready.runProgram ∧
      Written [.instPtr, .irqStatus] sim ready ∧
      ready.peek .instPtr = 0 ∧ ready.peek .irqStatus = 0 := by
  let value := sim.rewound.peek .ctrl ||| Ctrl.start
  let logged : Simulator := { sim.rewound with log := sim.rewound.log.push (.ctrl, value) }
  let ready := (logged.poke .ctrl value).poke .ctrl (value &&& ~~~Ctrl.start)
  have rewound : Written [.instPtr, .irqStatus] sim sim.rewound :=
    (Written.refl _ sim).rewound (by decide)
  have control : sim.rewound.peek .ctrl = sim.peek .ctrl := rewound.registers .ctrl (by decide)
  have registers (reg : Register) : ready.peek reg = sim.rewound.peek reg := by
    by_cases same : reg = .ctrl
    · rw [same, peek_poke_same]
      exact (control ▸ lowered).restored
    · rw [peek_poke_of_ne _ _ (Ne.symm same), peek_poke_of_ne _ _ (Ne.symm same)]
      rfl
  refine ⟨ready, onCtrl_start (control ▸ lowered), ⟨rfl, fun reg outside => ?_⟩, ?_, ?_⟩
  · exact (registers reg).trans (rewound.registers reg outside)
  · rw [registers]
    exact (peek_poke_of_ne _ _ (by decide)).trans (peek_poke_same _ _ _)
  · rw [registers]
    exact (peek_poke_same _ _ _).trans UInt32.and_zero

/-- The core when its program starts to run: no interrupt is left, and all scripts are as before. -/
theorem exists_cleared (lowered : Lowered 0 (sim.peek .ctrl)) :
    ∃ cleared : Simulator, sim.launched = cleared.runProgram ∧ cleared.peek .irqStatus = 0 ∧
      cleared = { sim with registers := cleared.registers, log := cleared.log } := by
  obtain ⟨ready, run, written, _, nothing⟩ := exists_ready lowered
  exact ⟨ready, run, nothing, written.rest⟩

variable (lowered : Lowered 0 (sim.peek .ctrl))
include lowered

theorem irq_launched : sim.launched.peek .irqStatus = sim.programIrq := by
  obtain ⟨cleared, run, nothing, rest⟩ := exists_cleared lowered
  have hang : cleared.hang = sim.hang := congrArg (·.hang) rest
  have fault : cleared.fault = sim.fault := congrArg (·.fault) rest
  rw [run, irq_runProgram, nothing, UInt32.zero_or, programIrq, programIrq, hang, fault]

variable (prompt : sim.latency = 0 ∧ sim.pending = 0)
include prompt

theorem shows_hanging (hangs : sim.hang = true) : Shows runningStatus 0 sim.launched := by
  have irq : sim.launched.peek .irqStatus = 0 := by simp [irq_launched lowered, programIrq, hangs]
  obtain ⟨cleared, run, _, rest⟩ := exists_cleared lowered
  have hang : cleared.hang = true := (congrArg (·.hang) rest).trans hangs
  refine ⟨?_, irq, ?_⟩
  · rw [run, runProgram, if_pos hang, peek_poke_same]
  · rw [run, runProgram, if_pos hang]
    exact (congrArg (·.pending) rest).trans prompt.2

theorem shows_fault {code : UInt32} (ends : sim.hang = false) (failing : sim.fault = some code) :
    Shows errorStatus Irq.error sim.launched := by
  have irq : sim.launched.peek .irqStatus = Irq.error := by
    simp [irq_launched lowered, programIrq, ends, failing]
  obtain ⟨cleared, run, _, rest⟩ := exists_cleared lowered
  have hang : cleared.hang = false := (congrArg (·.hang) rest).trans ends
  have fault : cleared.fault = some code := (congrArg (·.fault) rest).trans failing
  have last : sim.launched = ((({ cleared with fault := none } : Simulator).poke .errorCode code).poke
      .status errorStatus).raiseIrq Irq.error := by
    rw [run, runProgram, if_neg (by simp [hang]), fault]
  refine ⟨?_, irq, ?_⟩
  · rw [last, raiseIrq, peek_poke_of_ne _ _ (by decide), peek_poke_same]
  · rw [last]
    exact (congrArg (·.pending) rest).trans prompt.2

theorem shows_done (ends : sim.hang = false) (sound : sim.fault = none) :
    Shows doneStatus Irq.done sim.launched := by
  have completes : sim.programIrq = Irq.done := by simp [programIrq, ends, sound]
  have irq := (irq_launched lowered).trans completes
  obtain ⟨cleared, run, _, rest⟩ := exists_cleared lowered
  have hang : cleared.hang = false := (congrArg (·.hang) rest).trans ends
  have fault : cleared.fault = none := (congrArg (·.fault) rest).trans sound
  refine ⟨?_, irq, ?_⟩
  · rw [run, peek_runProgram_of_sound hang fault]
    exact status_finish cleared cleared.tally
  · rw [run, pending_runProgram (by simp [programIrq, hang, fault])]
    exact (congrArg (·.latency) rest).trans prompt.1

end Launch

end Simulator

namespace Host

variable {host : Host Simulator} {timeout : UInt64}

section Waiting

theorem attempt_poll {α : Type} {probe : Probe Simulator α} {answer : Except HostError α}
    {bus : Simulator} (look : probe host.link.bus = (some answer, bus)) (interval timeout : UInt64) :
    attempt (onLink (Link.poll interval timeout probe)) host =
      (.ok answer, { host with link := ⟨bus, host.link.clock⟩ }) := by
  unfold attempt
  rw [onLink_eq]
  unfold Link.poll
  dsimp only
  rw [Probe.poll_answered look]
  cases answer <;> rfl

def looked (host : Host Simulator) : Host Simulator :=
  { host with link := ⟨{ host.link.bus with statusReads := host.link.bus.statusReads + 1 },
    host.link.clock⟩ }

def expired (host : Host Simulator) (timeout : UInt64) : Context :=
  { host.context with lastError := some (HostError.timeout timeout).statusCode }

variable (initialized : host.state.isInitialized = true) {irq : UInt32}
include initialized

theorem wait_eq (timeout : UInt64) : wait timeout host =
    (attempt (onLink (Link.poll host.config.interval timeout completionProbe)) >>= conclude) host := by
  unfold wait
  rw [act_bind, ensureInitialized_eq initialized]
  dsimp only
  rw [act_bind]
  rfl

theorem wait_done (shows : Simulator.Shows Simulator.doneStatus irq host.link.bus) :
    wait timeout host = (.ok (), { host.looked with context := host.completed }) := by
  have look : completionProbe host.link.bus = (some (.ok ()), host.looked.link.bus) := by
    simp only [completionProbe, Bus.read, shows.read_status]
    rfl
  rw [wait_eq initialized, act_bind, attempt_poll look]
  exact complete_eq _

theorem wait_fault (shows : Simulator.Shows Simulator.errorStatus irq host.link.bus) :
    wait timeout host = (.error (.error (.hwFault (host.link.bus.peek .errorCode))),
      { host.looked with context := host.faulted (host.link.bus.peek .errorCode) }) := by
  have look : completionProbe host.link.bus =
      (some (.error (.hwFault (host.link.bus.peek .errorCode))), host.looked.link.bus) := by
    simp only [completionProbe, Bus.read, shows.read_status]
    rfl
  rw [wait_eq initialized, act_bind, attempt_poll look]
  rfl

/-- A program that does not end is waited for until the deadline, if the clock can get there. -/
theorem wait_hanging (shows : Simulator.Shows Simulator.runningStatus irq host.link.bus)
    (finite : timeout ≠ 0) :
    ∃ link, wait timeout host =
      if host.link.clock.now.toNat + timeout.toNat < UInt64.size then
        (.error (.error (.timeout timeout)), { host with link, context := host.expired timeout })
      else (.error (.trap .endlessWait), { host with link }) := by
  have unanswered (sim : Simulator) (shows : Simulator.Shows Simulator.runningStatus irq sim) :
      ∃ next, completionProbe sim = (none, next) ∧
        Simulator.Shows Simulator.runningStatus irq next := by
    refine ⟨{ sim with statusReads := sim.statusReads + 1 }, ?_, shows.status, shows.irq, shows.prompt⟩
    simp only [completionProbe, Bus.read, shows.read_status]
    rfl
  have positive : host.config.interval ≠ 0 := Probe.interval_ne_zero _
  obtain ⟨link, poll⟩ := Link.poll_quiet unanswered shows positive finite
  refine ⟨link, ?_⟩
  rw [wait_eq initialized, act_bind, attempt, onLink_eq, poll]
  by_cases room : host.link.clock.now.toNat + timeout.toNat < UInt64.size
  · simp only [room, ↓reduceIte]
    rfl
  · simp only [room, ↓reduceIte]

end Waiting

theorem start_ok {started : Host Simulator} {reply : Reply}
    (launch : Operation.start.Step host (.ok reply) started) :
    started.link.bus = host.link.bus.launched ∧ started.listening = host.listening ∧
      started.state = .running := by
  have known : wlp Operation.start.perform (fun _ after =>
      after.link.bus = host.link.bus.launched ∧ after.listening = host.listening ∧
      after.state = .running) (fun _ _ => True) host := by
    rw [Operation.perform, wlp_map]
    exact wlp_accepted (fun _ => ⟨rfl, rfl, rfl⟩) fun _ _ => trivial
  exact Operation.Step.of_wlp launch known

end Host

/-- What a wait answers and what a served interrupt tells are the same end of a program. -/
structure SameEnd (waited : Except HostError Reply) (polled : Host Simulator)
    (told : List Completion) (served : Host Simulator) : Prop where
  context : polled.context = served.context
  clock : polled.link.clock = served.link.clock
  ended : waited.isOk = true ∨ ∃ code, waited = .error (.hwFault code)
  done : waited.isOk = true ↔ ∃ perf, told = [.done perf]
  counters : ∀ perf, told = [.done perf] → perf = served.context.perf
  fault : ∀ code, waited = .error (.hwFault code) ↔ told = [.failed (.hwFault code)]

namespace Host

variable {host : Host Simulator} {timeout : UInt64}
  (initialized : host.state.isInitialized = true) (listening : host.listening = true)
include initialized

section Ended

include listening

theorem sameEnd_done (shows : Simulator.Shows Simulator.doneStatus Irq.done host.link.bus) :
    ∃ waited polled, (Operation.wait timeout).Step host waited polled ∧
      SameEnd waited polled host.tidings host.served := by
  have told := tidings_done listening shows.visible
  have served := served_done shows.visible
  refine ⟨.ok .finished, { host.looked with context := host.completed }, ?_, ?_⟩
  · rw [Operation.step_iff_of_map rfl, wait_done initialized shows]
    exact ⟨rfl, rfl⟩
  · rw [told, served]
    exact {
      context := rfl
      clock := rfl
      ended := .inl rfl
      done := ⟨fun _ => ⟨_, rfl⟩, fun _ => rfl⟩
      counters := by simp
      fault := by simp }

theorem sameEnd_fault (shows : Simulator.Shows Simulator.errorStatus Irq.error host.link.bus) :
    ∃ waited polled, (Operation.wait timeout).Step host waited polled ∧
      SameEnd waited polled host.tidings host.served := by
  have told := tidings_fault listening shows.visible
  have served := served_fault shows.visible
  refine ⟨.error (.hwFault (host.link.bus.peek .errorCode)),
    { host.looked with context := host.faulted (host.link.bus.peek .errorCode) }, ?_, ?_⟩
  · rw [Operation.step_iff_of_map rfl, wait_fault initialized shows]
    exact ⟨rfl, rfl⟩
  · rw [told, served]
    exact {
      context := rfl
      clock := rfl
      ended := .inr ⟨_, rfl⟩
      done := by simp [Except.isOk, Except.toBool]
      counters := by simp
      fault := by simp }

end Ended

theorem wait_hanging_step (shows : Simulator.Shows Simulator.runningStatus 0 host.link.bus)
    (finite : timeout ≠ 0) :
    if host.link.clock.now.toNat + timeout.toNat < UInt64.size then
      ∃ polled, (Operation.wait timeout).Step host (.error (.timeout timeout)) polled ∧
        polled.state = host.state
    else ∀ waited polled, ¬(Operation.wait timeout).Step host waited polled := by
  obtain ⟨link, run⟩ := wait_hanging initialized shows finite
  split
  case isTrue room =>
    rw [if_pos room] at run
    refine ⟨{ host with link, context := host.expired timeout }, ?_, rfl⟩
    rw [Operation.step_iff_of_map rfl, run]
    exact ⟨rfl, rfl⟩
  case isFalse late =>
    rw [if_neg late] at run
    intro waited polled step
    rw [Operation.step_iff_of_map rfl, run] at step
    exact step

end Host

/-- To wait for a program and to serve its interrupt come to the same. A program that hangs raises no
interrupt, and is waited for until the deadline if the clock can get there. -/
theorem wait_meets_interrupt {profile : Profile} {host started : Host Simulator} {reply : Reply}
    {timeout : UInt64}
    (reached : Reachable (fun sim => Simulator.ofProfile profile = .ok sim) Simulator.Altered host)
    (listening : host.listening = true)
    (prompt : host.link.bus.latency = 0 ∧ host.link.bus.pending = 0)
    (launch : Operation.start.Step host (.ok reply) started) (finite : timeout ≠ 0) :
    (host.link.bus.hang = false → ∃ waited polled pending told served,
      (Operation.wait timeout).Step started waited polled ∧
      Operation.handleIrq.Step started (.ok (.served pending told)) served ∧
      SameEnd waited polled told served) ∧
    (host.link.bus.hang = true →
      started.state = .running ∧ Operation.handleIrq.Step started (.ok (.served 0 [])) started ∧
      if started.link.clock.now.toNat + timeout.toNat < UInt64.size then
        ∃ polled, (Operation.wait timeout).Step started (.error (.timeout timeout)) polled ∧
          polled.state = .running
      else ∀ waited polled, ¬(Operation.wait timeout).Step started waited polled) := by
  have lowered := reached.inOrder.lowered
  obtain ⟨bus, hears, running⟩ := Host.start_ok launch
  have initialized : started.state.isInitialized = true := by
    rw [running]
    rfl
  have serve := started.handleIrq_step.mpr ⟨rfl, rfl⟩
  -- The start has left no other interrupt, so status and interrupts show the same script.
  constructor
  · intro ends
    have same : ∃ waited polled, (Operation.wait timeout).Step started waited polled ∧
        SameEnd waited polled started.tidings started.served := by
      cases failing : host.link.bus.fault with
      | none =>
        have shows := Simulator.shows_done lowered prompt ends failing
        exact Host.sameEnd_done initialized (hears.trans listening) (bus ▸ shows)
      | some code =>
        have shows := Simulator.shows_fault lowered prompt ends failing
        exact Host.sameEnd_fault initialized (hears.trans listening) (bus ▸ shows)
    obtain ⟨waited, polled, wait, same⟩ := same
    exact ⟨waited, polled, _, _, _, wait, serve, same⟩
  · intro hangs
    have shows : Simulator.Shows Simulator.runningStatus 0 started.link.bus :=
      bus ▸ Simulator.shows_hanging lowered prompt hangs
    have wait := Host.wait_hanging_step initialized shows finite
    rw [running] at wait
    refine ⟨running, ?_, wait⟩
    rw [Host.handleIrq_step, Host.served, Host.tidings, shows.visible]
    simp

section Example

/-- A core whose next program fails, while an earlier completion has not been served. -/
def Simulator.failing (sim : Simulator) : Simulator :=
  { sim.raiseIrq Irq.done with fault := some 0x77 }

theorem Simulator.altered_failing (sim : Simulator) : Altered sim sim.failing := by
  have frame : Frame [.irqStatus] sim (sim.raiseIrq Irq.done) :=
    (Frame.refl _ sim).raiseIrq _ (by decide)
  exact ⟨rfl, rfl, rfl, frame.registers .config (by decide), frame.registers .ctrl (by decide)⟩

def attendedHost : Host Simulator :=
  ((Operation.setListening true).perform
    ((Operation.loadInstructions #[.halt]).perform smallHost).2).2

theorem attendedHost_reachable (altered : Simulator → Simulator → Prop) :
    Reachable (fun sim => Simulator.ofProfile smallProfile = .ok sim) altered attendedHost := by
  have loads : Operation.comesBack ((Operation.loadInstructions #[.halt]).perform smallHost).1 = true := by
    decide +kernel
  obtain ⟨_, loaded⟩ := Operation.exists_step _ _ loads
  have listens : (Operation.setListening true).Step _ (.ok (.flag false)) attendedHost := .of_value rfl
  exact .step (.step (smallHost_reachable altered) loaded) listens

/-- The interrupt of an earlier program is pending when one that fails is started. -/
theorem failing_meets_interrupt :
    ∃ (host started polled served : Host Simulator) (reply : Reply),
      host.link.bus.peek .irqStatus = Irq.done ∧ Operation.start.Step host (.ok reply) started ∧
      (Operation.wait 1).Step started (.error (.hwFault 0x77)) polled ∧
      Operation.handleIrq.Step started (.ok (.served Irq.error [.failed (.hwFault 0x77)])) served ∧
      polled.context = served.context ∧ polled.link.clock = served.link.clock := by
  let host : Host Simulator :=
    { attendedHost with link := ⟨attendedHost.link.bus.failing, attendedHost.link.clock⟩ }
  let started := (Operation.start.perform host).2
  have run : (Operation.start.perform host).1.isOk = true ∧ host.listening = true ∧
      host.link.bus.peek .irqStatus = Irq.done ∧ started.link.bus.visible = Irq.error ∧
      (Host.wait 1 started).1 = .error (.error (.hwFault 0x77)) := by
    decide +kernel
  have reached : Reachable (fun sim => Simulator.ofProfile smallProfile = .ok sim) Simulator.Altered host :=
    .alter (attendedHost_reachable _) attendedHost.link.bus.altered_failing
  obtain ⟨reply, launch⟩ : ∃ reply, Operation.start.Step host (.ok reply) started :=
    Operation.exists_reply _ _ run.1
  obtain ⟨waited, polled, pending, told, served, wait, serve, same⟩ :=
    (wait_meets_interrupt reached run.2.1 ⟨rfl, rfl⟩ launch (show (1 : UInt64) ≠ 0 by decide)).1 rfl
  have pends : pending = Irq.error := by
    have answer := (started.handleIrq_step.mp serve).1
    exact (Reply.served.inj (Except.ok.inj answer)).1.trans run.2.2.2.1
  have failed : waited = .error (.hwFault 0x77) := by
    rw [Operation.step_iff_of_map rfl] at wait
    rcases ended : Host.wait 1 started with ⟨result, last⟩
    obtain rfl : result = .error (.error (.hwFault 0x77)) :=
      (congrArg Prod.fst ended).symm.trans run.2.2.2.2
    rw [ended] at wait
    exact wait.1
  have tells := (same.fault 0x77).mp failed
  rw [pends, tells] at serve
  rw [failed] at wait
  exact ⟨host, started, polled, served, reply, run.2.2.1, launch, wait, serve, same.context, same.clock⟩

/-- Somebody listens to a host whose clock has stood still since an earlier program was waited for. -/
def lateHost : Host Simulator :=
  ((Operation.setListening true).perform outwaitedHost).2

/-- A program that hangs is not given up where the clock cannot reach the deadline. -/
theorem wait_may_not_expire :
    ¬∀ (profile : Profile) (host started : Host Simulator) (reply : Reply) (timeout : UInt64),
      Reachable (fun sim => Simulator.ofProfile profile = .ok sim) Simulator.Altered host →
      host.listening = true → host.link.bus.latency = 0 ∧ host.link.bus.pending = 0 →
      Operation.start.Step host (.ok reply) started → timeout ≠ 0 → host.link.bus.hang = true →
      ∃ polled, (Operation.wait timeout).Step started (.error (.timeout timeout)) polled := by
  intro expires
  let started := (Operation.start.perform lateHost).2
  have known : (Operation.start.perform lateHost).1.isOk = true ∧ lateHost.listening = true ∧
      (lateHost.link.bus.latency = 0 ∧ lateHost.link.bus.pending = 0) ∧
      lateHost.link.bus.hang = true ∧ started.link.clock.now = 0xFFFFFFFFFFFFFFFF := by
    decide +kernel
  obtain ⟨ok, listening, prompt, hangs, clock⟩ := known
  obtain ⟨reply, launch⟩ : ∃ reply, Operation.start.Step lateHost (.ok reply) started :=
    Operation.exists_reply _ _ ok
  have listens : (Operation.setListening true).Step outwaitedHost (.ok (.flag false)) lateHost :=
    .of_value rfl
  have scripts (sim : Simulator) (hang : Bool) : Simulator.Altered sim { sim with hang } :=
    ⟨rfl, rfl, rfl, rfl, rfl⟩
  have reached := (outwaitedHost_reachable scripts).step listens
  obtain ⟨bus, _, running⟩ := Host.start_ok launch
  have shows : Simulator.Shows Simulator.runningStatus 0 started.link.bus :=
    bus ▸ Simulator.shows_hanging reached.inOrder.lowered prompt hangs
  have late := Host.wait_hanging_step (running ▸ rfl) shows (show (1 : UInt64) ≠ 0 by decide)
  rw [clock, if_neg (by decide)] at late
  obtain ⟨polled, wait⟩ := expires .reference lateHost started reply 1 reached listening prompt launch
    (by decide) hangs
  exact late _ polled wait

end Example

end NpuStack
