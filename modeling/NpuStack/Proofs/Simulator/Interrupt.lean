import NpuStack.Proofs.Accounting

/-! Interrupts of the simulated core: what of them is visible, and what a host
does when it serves them. -/

set_option autoImplicit false

namespace NpuStack

namespace Simulator

/-- The interrupts that a read shows: all but a completion that is still held back. -/
def visible (sim : Simulator) : UInt32 := (sim.read .irqStatus).1

theorem read_irqStatus (sim : Simulator) :
    sim.read .irqStatus =
      (if 0 < sim.pending then sim.peek .irqStatus &&& ~~~Irq.done else sim.peek .irqStatus, sim) := by
  show (if _ then _ else _) = _
  split <;> rfl

theorem visible_eq (sim : Simulator) : sim.visible =
    if 0 < sim.pending then sim.peek .irqStatus &&& ~~~Irq.done else sim.peek .irqStatus :=
  congrArg Prod.fst sim.read_irqStatus

@[simp] theorem irq_raiseIrq (sim : Simulator) (bits : UInt32) :
    (sim.raiseIrq bits).peek .irqStatus = sim.peek .irqStatus ||| bits :=
  peek_poke_same _ _ _

def programIrq (sim : Simulator) : UInt32 :=
  if sim.hang then 0 else if sim.fault.isSome then Irq.error else Irq.done

theorem irq_runProgram (sim : Simulator) :
    sim.runProgram.peek .irqStatus = sim.peek .irqStatus ||| sim.programIrq := by
  unfold programIrq
  cases hang : sim.hang with
  | true =>
    rw [runProgram, if_pos hang, peek_poke_of_ne _ _ (by decide), if_pos rfl, UInt32.or_zero]
  | false =>
    cases fault : sim.fault with
    | none =>
      have charged := (frame_charge sim sim.tally).registers .irqStatus (by decide)
      rw [peek_runProgram_of_sound hang fault, finish, irq_raiseIrq, peek_poke_of_ne _ _ (by decide),
        peek_poke_of_ne _ _ (by decide), charged]
      rfl
    | some code =>
      rw [runProgram, if_neg (by simp [hang]), fault]
      dsimp only
      rw [irq_raiseIrq, peek_poke_of_ne _ _ (by decide), peek_poke_of_ne _ _ (by decide)]
      rfl

/-- A completed program is held back for as many looks as are scripted. -/
theorem pending_runProgram {sim : Simulator} (completes : sim.programIrq = Irq.done) :
    sim.runProgram.pending = sim.latency := by
  unfold programIrq at completes
  split at completes
  · cases completes
  case isFalse ends =>
    split at completes
    · cases completes
    case isFalse sound =>
      have latency := latency_finish sim sim.tally
      rw [runProgram_of_sound (by simpa using ends) (by simpa using sound)]
      generalize sim.finish sim.tally = final at latency ⊢
      exact latency

def transferIrq (sim : Simulator) : UInt32 :=
  if sim.dmaFault = false ∧
      (sim.memory.copy? (sim.peek .dmaSrc) (sim.peek .dmaDst) (sim.peek .dmaLen).toNat).isSome then
    Irq.dmaDone
  else Irq.dmaError

theorem irq_runTransfer (sim : Simulator) :
    sim.runTransfer.peek .irqStatus = sim.peek .irqStatus ||| sim.transferIrq := by
  unfold runTransfer transferIrq
  dsimp only
  cases sim.dmaFault with
  | true =>
    rw [if_pos rfl, if_neg (by simp)]
    dsimp only
    rw [irq_raiseIrq, peek_poke_of_ne _ _ (by decide)]
    rfl
  | false =>
    rw [if_neg (by decide)]
    split
    case h_1 memory found =>
      rw [if_pos (by simp [found]), irq_raiseIrq, addCounter, peek_poke_of_ne _ _ (by decide),
        peek_poke_of_ne _ _ (by decide)]
      rfl
    case h_2 missing =>
      rw [if_neg (by simp [missing]), irq_raiseIrq, peek_poke_of_ne _ _ (by decide)]
      rfl

def raisedBy : Register → UInt32
  | .ctrl => Irq.done ||| Irq.error
  | .dmaCtrl => Irq.dmaDone ||| Irq.dmaError
  | _ => 0

theorem programIrq_within (sim : Simulator) :
    raisedBy .ctrl &&& sim.programIrq = sim.programIrq := by
  unfold programIrq
  split
  · rfl
  · split <;> rfl

theorem transferIrq_within (sim : Simulator) :
    raisedBy .dmaCtrl &&& sim.transferIrq = sim.transferIrq := by
  unfold transferIrq
  split <;> rfl

theorem irq_onCtrl (sim : Simulator) (value : UInt32) :
    ∃ more, raisedBy .ctrl &&& more = more ∧
      (sim.onCtrl value).peek .irqStatus = sim.peek .irqStatus ||| more := by
  -- A reset and an abort raise nothing, a start what its program ends with.
  unfold onCtrl
  split
  · refine ⟨0, UInt32.and_zero, ?_⟩
    dsimp only
    rw [peek_poke_of_ne _ _ (by decide), peek_poke_of_ne _ _ (by decide), UInt32.or_zero]
    rfl
  · split
    · let started := sim.poke .ctrl (value &&& ~~~Ctrl.start)
      refine ⟨started.programIrq, started.programIrq_within, ?_⟩
      rw [irq_runProgram, peek_poke_of_ne _ _ (by decide)]
    · exact ⟨0, UInt32.and_zero, UInt32.or_zero.symm⟩

theorem irq_onDmaCtrl (sim : Simulator) (value : UInt32) :
    ∃ more, raisedBy .dmaCtrl &&& more = more ∧
      (sim.onDmaCtrl value).peek .irqStatus = sim.peek .irqStatus ||| more := by
  unfold onDmaCtrl
  split
  · refine ⟨0, UInt32.and_zero, ?_⟩
    rw [peek_poke_of_ne _ _ (by decide), UInt32.or_zero]
  · split
    · dsimp only
      split
      · refine ⟨0, UInt32.and_zero, ?_⟩
        rw [peek_poke_of_ne _ _ (by decide), peek_poke_of_ne _ _ (by decide), UInt32.or_zero]
      · let started := sim.poke .dmaCtrl (value &&& ~~~DmaCtrl.start)
        refine ⟨started.transferIrq, started.transferIrq_within, ?_⟩
        rw [irq_runTransfer, peek_poke_of_ne _ _ (by decide)]
    · exact ⟨0, UInt32.and_zero, UInt32.or_zero.symm⟩

/-- A write to any other register than the interrupt status takes nothing back. -/
theorem irq_write (sim : Simulator) {reg : Register} (other : reg ≠ .irqStatus) (value : UInt32) :
    ∃ more, raisedBy reg &&& more = more ∧
      (sim.write reg value).peek .irqStatus = sim.peek .irqStatus ||| more := by
  by_cases control : reg = .ctrl
  · subst control
    obtain ⟨more, within, raised⟩ := irq_onCtrl
      (({ sim with log := sim.log.push (.ctrl, value) } : Simulator).poke .ctrl value) value
    rw [peek_poke_of_ne _ _ (by decide)] at raised
    exact ⟨more, within, raised⟩
  · by_cases transfer : reg = .dmaCtrl
    · subst transfer
      obtain ⟨more, within, raised⟩ := irq_onDmaCtrl
        (({ sim with log := sim.log.push (.dmaCtrl, value) } : Simulator).poke .dmaCtrl value) value
      rw [peek_poke_of_ne _ _ (by decide)] at raised
      exact ⟨more, within, raised⟩
    · have apart : .irqStatus ∉ touchedBy reg := by
        revert other control transfer
        cases reg <;> decide
      refine ⟨0, UInt32.and_zero, ?_⟩
      rw [(sim.frame_write value control).registers _ apart, UInt32.or_zero]

def Latched (bits : UInt32) (sim : Simulator) : Prop := sim.peek .irqStatus &&& bits = bits

def Lacks (bits : UInt32) (sim : Simulator) : Prop := sim.peek .irqStatus &&& bits = 0

theorem stable_holds (bits : UInt32) :
    Link.Stable (· ≠ .irqStatus) fun link : Link Simulator => link.bus.Latched bits := by
  refine stable_word .irqStatus (· &&& bits = bits) fun sim reg value other held => ?_
  obtain ⟨more, _, raised⟩ := sim.irq_write other value
  rw [raised]
  exact or_and_of_subset held more

theorem stable_lacks (bits : UInt32) :
    Link.Stable (raisedBy · &&& bits = 0) fun link : Link Simulator => link.bus.Lacks bits := by
  refine stable_word .irqStatus (· &&& bits = 0) fun sim reg value apart held => ?_
  rw [and_eq_zero_iff] at apart held ⊢
  intro i inside
  by_cases status : reg = .irqStatus
  · subst status
    have acknowledged : (sim.write .irqStatus value).peek .irqStatus =
        sim.peek .irqStatus &&& ~~~value := peek_poke_same _ _ _
    simp [acknowledged, held i inside]
  · obtain ⟨more, within, raised⟩ := sim.irq_write status value
    have outside : hasBit more i = false := by
      cases set : hasBit more i with
      | false => rfl
      | true => exact (and_eq_right_iff.mp within i set).symm.trans (apart i inside)
    simp [raised, held i inside, outside]

end Simulator

namespace Host

def completed (host : Host Simulator) : Context :=
  { host.context with
    instPtr := host.link.bus.peek .instPtr
    perf := { host.link.bus.reading with
      layers := host.context.perf.layers
      transfers := host.engine.started }
    state := .done }

def faulted (host : Host Simulator) (code : UInt32) : Context :=
  { host.context with state := .error, lastError := some (HostError.hwFault code).statusCode }

theorem complete_eq (host : Host Simulator) :
    complete host = (.ok (), { host with context := host.completed }) := rfl

def acknowledged (host : Host Simulator) : Host Simulator :=
  { host with link := ⟨host.link.bus.write .irqStatus host.link.bus.visible, host.link.clock⟩ }

/-- What a program leaves outlasts the acknowledgement. -/
theorem acknowledged_completed (host : Host Simulator) : host.acknowledged.completed = host.completed := by
  have frame : Simulator.Frame [.irqStatus] host.link.bus host.acknowledged.link.bus :=
    Simulator.frame_changedBy _ .irqStatus _
  unfold completed Simulator.reading
  rw [frame.registers .instPtr (by decide), frame.registers .perfStallCnt (by decide),
    frame.registers .perfInstCnt (by decide), frame.pair (by decide), frame.pair (by decide)]
  rfl

/-- The host once it has served what it sees: a completion first, then a fault. -/
def served (host : Host Simulator) : Host Simulator :=
  let pending := host.link.bus.visible
  if pending = 0 then host
  else
    let finished :=
      if pending &&& Irq.done != 0 then
        { host.acknowledged with context := host.acknowledged.completed }
      else host.acknowledged
    if pending &&& Irq.error != 0 then
      { finished with context := finished.faulted (host.link.bus.peek .errorCode) }
    else finished

def tidings (host : Host Simulator) : List Completion :=
  if host.listening then
    (if host.link.bus.visible &&& Irq.done != 0 then [.done host.served.context.perf] else []) ++
    if host.link.bus.visible &&& Irq.error != 0 then
      [.failed (.hwFault (host.link.bus.peek .errorCode))] else []
  else []

theorem read_irqStatus (host : Host Simulator) :
    read .irqStatus host = (.ok host.link.bus.visible, host) := by
  have same : (host.link.bus.read .irqStatus).2 = host.link.bus :=
    congrArg Prod.snd host.link.bus.read_irqStatus
  show (Except.ok host.link.bus.visible,
    { host with link := ⟨(host.link.bus.read .irqStatus).2, host.link.clock⟩ }) = _
  rw [same]

theorem handleIrq_eq (host : Host Simulator) :
    handleIrq host = (.ok (host.link.bus.visible, host.tidings), host.served) := by
  have code : host.acknowledged.link.bus.peek .errorCode = host.link.bus.peek .errorCode :=
    Simulator.peek_poke_of_ne _ _ (by decide)
  unfold handleIrq
  rw [act_bind, read_irqStatus]
  dsimp only
  unfold tidings served
  dsimp only
  rw [← code]
  obtain ⟨link, config, context, engine, listening⟩ := host
  by_cases none : link.bus.visible = 0
  · rw [if_pos none, none]
    cases listening <;> rfl
  · -- Once it is known what is pending and whether anybody listens, the run is a straight line.
    simp only [none, ↓reduceIte]
    unfold serveFault
    rw [act_bind]
    cases link.bus.visible &&& Irq.done != 0 <;> cases link.bus.visible &&& Irq.error != 0 <;>
      cases listening <;> rfl

theorem handleIrq_step (host : Host Simulator) {answer : Except HostError Reply}
    {after : Host Simulator} : Operation.handleIrq.Step host answer after ↔
      answer = .ok (.served host.link.bus.visible host.tidings) ∧ after = host.served := by
  rw [Operation.step_iff_of_map rfl, handleIrq_eq]

section Served

theorem served_of_unseen {host : Host Simulator} (unseen : host.link.bus.visible = 0) :
    host.served = host :=
  if_pos unseen

theorem tidings_of_unseen {host : Host Simulator} (unseen : host.link.bus.visible = 0) :
    host.tidings = [] := by
  rw [tidings, unseen]
  simp

theorem link_served {host : Host Simulator} (seen : host.link.bus.visible ≠ 0) :
    host.served.link = host.acknowledged.link := by
  unfold served
  dsimp only
  rw [if_neg seen]
  split <;> split <;> rfl

/-- What has been seen is taken back, and nothing else. -/
theorem irq_served (host : Host Simulator) : host.served.link.bus.peek .irqStatus =
    host.link.bus.peek .irqStatus &&& ~~~host.link.bus.visible := by
  by_cases unseen : host.link.bus.visible = 0
  · rw [served_of_unseen unseen, unseen, UInt32.not_zero, UInt32.and_neg_one]
  · rw [link_served unseen]
    exact Simulator.peek_poke_same _ _ _

theorem pending_served (host : Host Simulator) :
    host.served.link.bus.pending = host.link.bus.pending := by
  by_cases unseen : host.link.bus.visible = 0
  · rw [served_of_unseen unseen]
  · rw [link_served unseen]
    rfl

theorem visible_served (host : Host Simulator) : host.served.link.bus.visible = 0 := by
  rw [Simulator.visible_eq, pending_served, irq_served, Simulator.visible_eq]
  split
  case isTrue =>
    -- The completion is still pending, but it is masked in the second read as it was in the first.
    rw [eq_iff_hasBit]
    intro i
    cases held : hasBit (host.link.bus.peek .irqStatus) i <;> simp [held]
  case isFalse => exact UInt32.and_not_self

end Served

theorem served_done {host : Host Simulator} (seen : host.link.bus.visible = Irq.done) :
    host.served = { host.acknowledged with context := host.completed } := by
  rw [← acknowledged_completed, served, seen]
  rfl

theorem served_fault {host : Host Simulator} (seen : host.link.bus.visible = Irq.error) :
    host.served =
      { host.acknowledged with context := host.faulted (host.link.bus.peek .errorCode) } := by
  rw [served, seen]
  rfl

theorem tidings_done {host : Host Simulator} (listening : host.listening = true)
    (seen : host.link.bus.visible = Irq.done) : host.tidings = [.done host.completed.perf] := by
  rw [tidings, if_pos listening, seen, served_done seen]
  rfl

theorem tidings_fault {host : Host Simulator} (listening : host.listening = true)
    (seen : host.link.bus.visible = Irq.error) :
    host.tidings = [.failed (.hwFault (host.link.bus.peek .errorCode))] := by
  rw [tidings, if_pos listening, seen]
  rfl

end Host

end NpuStack
