import NpuStack.Proofs.Simulator.History
import NpuStack.Proofs.Simulator.Interrupt

/-! Delivery of interrupts. Whatever the core does and whoever looks at it, an
interrupt that has been raised is given to the host once: it is not lost while
others are served or while it is held back, and it is not given again. -/

set_option autoImplicit false

namespace NpuStack

namespace Signal

def raised : Signal → Simulator → UInt32
  | .program, sim => sim.programIrq
  | .transfer, sim => sim.transferIrq
  | .interrupt bits, _ => bits
  | .script _ _ _ _ _, _ => 0

theorem irq_act (signal : Signal) (sim : Simulator) :
    (signal.act sim).peek .irqStatus = sim.peek .irqStatus ||| signal.raised sim := by
  cases signal with
  | program => exact sim.irq_runProgram
  | transfer => exact sim.irq_runTransfer
  | interrupt bits => exact sim.irq_raiseIrq bits
  | script => exact UInt32.or_zero.symm

/-- Only the end of a program changes for how long completion is held back. -/
theorem pending_act {signal : Signal} {sim : Simulator} (apart : signal.raised sim &&& Irq.done = 0) :
    (signal.act sim).pending = sim.pending := by
  cases signal with
  | program =>
    show sim.runProgram.pending = sim.pending
    unfold Simulator.runProgram
    split
    · rfl
    case isFalse ends =>
      split
      · rfl
      case h_2 sound =>
        simp [raised, Simulator.programIrq, ends, sound, Irq.done] at apart
  | transfer =>
    show sim.runTransfer.pending = sim.pending
    unfold Simulator.runTransfer
    dsimp only
    split <;> rfl
  | interrupt | script => rfl

end Signal

/-- A look takes one off what completion is held back for. -/
theorem Simulator.pending_look (sim : Simulator) :
    (sim.read .status).2.pending.toNat = sim.pending.toNat - 1 := by
  show (if 0 < sim.pending then _ else _ : UInt32 × Simulator).2.pending.toNat = _
  split
  case isTrue waiting =>
    have positive : 0 < sim.pending.toNat := UInt32.lt_iff_toNat_lt.mp waiting
    have one : (1 : UInt32) ≤ sim.pending := UInt32.le_iff_toNat_le.mpr positive
    exact UInt32.toNat_sub_of_le _ _ one
  case isFalse shown =>
    have zero : sim.pending.toNat = 0 := by
      have least := mt UInt32.lt_iff_toNat_lt.mpr shown
      exact Nat.eq_zero_of_not_pos least
    show sim.pending.toNat = sim.pending.toNat - 1
    rw [zero]

/-- One service: the host is given what is visible, the listener is told of a completion first and of
a fault then, and a second service finds nothing. -/
structure Served (before : Host Simulator) (pending : UInt32) (told : List Completion)
    (after : Host Simulator) : Prop where
  seen : pending = if 0 < before.link.bus.pending then before.link.bus.peek .irqStatus &&& ~~~Irq.done
    else before.link.bus.peek .irqStatus
  told : told = if before.listening = true then
      (if pending &&& Irq.done ≠ 0 then [.done after.context.perf] else []) ++
      (if pending &&& Irq.error ≠ 0 then [.failed (.hwFault (before.link.bus.peek .errorCode))] else [])
    else []
  cleared : after.link.bus.peek .irqStatus = before.link.bus.peek .irqStatus &&& ~~~pending
  held : after.link.bus.pending = before.link.bus.pending
  again : Operation.handleIrq.Step after (.ok (.served 0 [])) after

theorem Host.served_all (host : Host Simulator) :
    Served host host.link.bus.visible host.tidings host.served where
  seen := host.link.bus.visible_eq
  told := by
    unfold tidings
    simp only [bne_iff_ne]
  cleared := host.irq_served
  held := host.pending_served
  again := by
    have unseen := host.visible_served
    rw [handleIrq_step, unseen, tidings_of_unseen unseen, served_of_unseen unseen]
    exact ⟨rfl, rfl⟩

def Operation.clears : Operation → Bool
  | .start | .compileAndRun _ | .reset | .boot => true
  | _ => false

theorem Operation.irqStatus_not_mem {op : Operation} (keeps : op.clears = false)
    (other : op ≠ .handleIrq) : .irqStatus ∉ op.registers := by
  cases op with
  | start | compileAndRun | reset | boot => cases keeps
  | handleIrq => exact absurd rfl other
  | _ =>
    dsimp only [registers]
    decide

namespace Happening

def isLook : Happening → Bool
  | .look => true
  | _ => false

def isService : Happening → Bool
  | .call .handleIrq _ => true
  | _ => false

def given : Happening → UInt32
  | .call .handleIrq (.ok (.served pending _)) => pending
  | _ => 0

def givesDone (happening : Happening) : Bool := happening.given &&& Irq.done != 0

def clears : Happening → Bool
  | .call op _ => op.clears
  | _ => false

def Raises (bits : UInt32) (before : Host Simulator) : Happening → Prop
  | .signal event => event.raised before.link.bus &&& bits ≠ 0
  | .look => False
  | .call op _ => ∃ reg ∈ op.registers, Simulator.raisedBy reg &&& bits ≠ 0

/-- The host does nothing but serve, and no program completes. -/
def Calm (before : Host Simulator) : Happening → Prop
  | .signal event => event.raised before.link.bus &&& Irq.done = 0
  | .look => True
  | .call op _ => op = .handleIrq

end Happening

namespace Happens

variable {before after : Host Simulator} {happening : Happening}
  (happens : Happens before happening after)
include happens

theorem service (serves : happening.isService = true) :
    happening = .call .handleIrq (.ok (.served before.link.bus.visible before.tidings)) ∧
      after = before.served := by
  cases happening with
  | signal | look => cases serves
  | call op answer =>
    cases op with
    | handleIrq =>
      obtain ⟨rfl, rfl⟩ := before.handleIrq_step.mp happens
      exact ⟨rfl, rfl⟩
    | _ => cases serves

theorem holds {bits : UInt32} (keeps : happening.clears = false) (apart : happening.given &&& bits = 0)
    (held : before.link.bus.Latched bits) : after.link.bus.Latched bits := by
  cases happening with
  | signal signal =>
    obtain ⟨clock, rfl⟩ := happens
    show (signal.act before.link.bus).peek .irqStatus &&& bits = bits
    rw [signal.irq_act]
    exact or_and_of_subset held _
  | look =>
    cases happens
    exact (Simulator.stable_holds bits).read before.link .status held
  | call op answer =>
    by_cases service : op = .handleIrq
    · -- A service takes back what it gives, and these bits are not given.
      subst service
      obtain ⟨rfl, rfl⟩ := before.handleIrq_step.mp happens
      show before.served.link.bus.peek .irqStatus &&& bits = bits
      rw [before.irq_served]
      exact and_not_of_disjoint held apart
    · -- No other operation that is left writes the interrupt status, and other writes only add to it.
      have outside := Operation.irqStatus_not_mem keeps service
      have stable := (Simulator.stable_holds bits).mono fun (reg : Register)
        (inside : reg ∈ op.registers) same => outside (same ▸ inside)
      exact Operation.Step.preserves happens (Host.guarded_of_link stable.guarded _) held

theorem lacks {bits : UInt32} (quiet : ¬happening.Raises bits before)
    (held : before.link.bus.Lacks bits) : after.link.bus.Lacks bits := by
  cases happening with
  | signal signal =>
    obtain ⟨clock, rfl⟩ := happens
    have apart : signal.raised before.link.bus &&& bits = 0 := not_not.mp quiet
    show (signal.act before.link.bus).peek .irqStatus &&& bits = 0
    rw [signal.irq_act, or_and_distrib, held, apart, UInt32.or_zero]
  | look =>
    cases happens
    exact (Simulator.stable_lacks bits).read before.link .status held
  | call op answer =>
    have apart : ∀ reg ∈ op.registers, Simulator.raisedBy reg &&& bits = 0 := by
      intro reg inside
      by_contra raised
      exact quiet ⟨reg, inside, raised⟩
    have stable := (Simulator.stable_lacks bits).mono apart
    exact Operation.Step.preserves happens (Host.guarded_of_link stable.guarded _) held

/-- Nothing is given that is not pending. -/
theorem given_of_lacks {bits : UInt32} (held : before.link.bus.Lacks bits) :
    happening.given &&& bits = 0 := by
  by_cases serves : happening.isService = true
  · rw [(happens.service serves).1]
    show before.link.bus.visible &&& bits = 0
    rw [Simulator.visible_eq, and_eq_zero_iff]
    intro i inside
    have clear := and_eq_zero_iff.mp held i inside
    split <;> simp [clear]
  · unfold Happening.given
    split
    · exact absurd rfl serves
    · exact UInt32.zero_and

theorem pending_of_calm (calm : happening.Calm before) : after.link.bus.pending.toNat =
    before.link.bus.pending.toNat - if happening.isLook = true then 1 else 0 := by
  cases happening with
  | signal signal =>
    obtain ⟨clock, rfl⟩ := happens
    exact congrArg UInt32.toNat (signal.pending_act calm)
  | look =>
    cases happens
    exact before.link.bus.pending_look
  | call op answer =>
    cases calm
    obtain ⟨rfl, rfl⟩ := before.handleIrq_step.mp happens
    exact congrArg UInt32.toNat before.pending_served

end Happens

theorem and_done {word : UInt32} (set : word &&& Irq.done ≠ 0) : word &&& Irq.done = Irq.done := by
  apply UInt32.toNat_inj.mp
  have parity : (word &&& Irq.done).toNat = word.toNat % 2 := by
    rw [UInt32.toNat_and]
    exact Nat.and_one_is_mod _
  have odd : (word &&& Irq.done).toNat ≠ 0 := fun zero => set (UInt32.toNat_inj.mp zero)
  show (word &&& Irq.done).toNat = 1
  omega

namespace Simulator

variable {sim : Simulator}

/-- A pending completion is seen as soon as it is not held back any more. -/
theorem visible_done_iff (due : sim.Latched Irq.done) :
    sim.visible &&& Irq.done ≠ 0 ↔ sim.pending.toNat = 0 := by
  rw [visible_eq]
  split
  case isTrue waiting =>
    have positive : 0 < sim.pending.toNat := UInt32.lt_iff_toNat_lt.mp waiting
    have hidden : sim.peek .irqStatus &&& ~~~Irq.done &&& Irq.done = 0 := by
      rw [UInt32.and_assoc, UInt32.not_and_self, UInt32.and_zero]
    simp only [hidden, ne_eq, not_true_eq_false, false_iff]
    omega
  case isFalse shown =>
    have least := mt UInt32.lt_iff_toNat_lt.mpr shown
    rw [due]
    exact ⟨fun _ => Nat.eq_zero_of_not_pos least, fun _ => by decide⟩

end Simulator

theorem Host.lacks_served {host : Host Simulator} {bits : UInt32}
    (seen : host.link.bus.visible &&& bits = bits) : host.served.link.bus.Lacks bits := by
  unfold Simulator.Lacks
  rw [irq_served, and_eq_zero_iff]
  intro i inside
  simp [and_eq_right_iff.mp seen i inside]

namespace Happening

variable {before : Host Simulator} {happening : Happening}

theorem isService_of_given {bits : UInt32} (given : happening.given &&& bits ≠ 0) :
    happening.isService = true := by
  unfold Happening.given at given
  split at given
  · rfl
  · exact absurd UInt32.zero_and given

theorem Calm.clears (calm : happening.Calm before) : happening.clears = false := by
  cases happening with
  | signal | look => rfl
  | call op answer =>
    cases calm
    rfl

theorem Calm.not_raises (calm : happening.Calm before) : ¬happening.Raises Irq.done before := by
  cases happening with
  | signal event => exact not_not.mpr calm
  | look => exact id
  | call op answer =>
    cases calm
    rintro ⟨reg, member, raised⟩
    cases List.mem_singleton.mp member
    exact raised rfl

end Happening

/-- Where no element is preceded by another of its kind there is at most one. -/
theorem countP_le_one {α : Type} {kind : α → Bool} {elements : List α}
    (first : ∀ earlier element later, elements = earlier ++ element :: later →
      kind element = true → ∀ other ∈ earlier, kind other = false) : elements.countP kind ≤ 1 := by
  induction elements with
  | nil => exact Nat.zero_le 1
  | cons head tail ih =>
    cases found : kind head with
    | false =>
      rw [List.countP_cons_of_neg (by simp [found])]
      refine ih fun earlier element later split holds other member => ?_
      exact first (head :: earlier) element later (by simp [split]) holds other (by simp [member])
    | true =>
      have others : tail.countP kind = 0 := by
        rw [List.countP_eq_zero]
        intro element member holds
        obtain ⟨earlier, later, split⟩ := List.append_of_mem member
        have none := first (head :: earlier) element later (by simp [split]) holds head (by simp)
        exact absurd (found.symm.trans none) (by decide)
      rw [List.countP_cons_of_pos found, others]

namespace History

variable {host after : Host Simulator} {passages earlier later : List Passage} {passage : Passage}

theorem holds {bits : UInt32} (history : History host passages after)
    (keeps : ∀ passage ∈ passages,
      passage.happening.clears = false ∧ passage.happening.given &&& bits = 0)
    (held : host.link.bus.Latched bits) : after.link.bus.Latched bits := by
  induction history with
  | nil => exact held
  | cons happens _ ih =>
    rw [List.forall_mem_cons] at keeps
    exact ih keeps.2 (happens.holds keeps.1.1 keeps.1.2 held)

theorem lacks {bits : UInt32} (history : History host passages after)
    (quiet : ∀ passage ∈ passages, ¬passage.happening.Raises bits passage.before)
    (held : host.link.bus.Lacks bits) :
    after.link.bus.Lacks bits ∧ ∀ passage ∈ passages, passage.happening.given &&& bits = 0 := by
  induction history with
  | nil => exact ⟨held, by simp⟩
  | cons happens _ ih =>
    rw [List.forall_mem_cons] at quiet ⊢
    obtain ⟨last, rest⟩ := ih quiet.2 (happens.lacks quiet.1 held)
    exact ⟨last, happens.given_of_lacks held, rest⟩

section Calm

theorem pending_of_calm (history : History host passages after)
    (calm : ∀ passage ∈ passages, passage.happening.Calm passage.before) :
    after.link.bus.pending.toNat =
      host.link.bus.pending.toNat - passages.countP (·.happening.isLook) := by
  induction history with
  | nil => rfl
  | cons happens _ ih =>
    rw [List.forall_mem_cons] at calm
    rw [ih calm.2, happens.pending_of_calm calm.1, List.countP_cons]
    dsimp only
    omega

variable (history : History host passages after)
  (calm : ∀ passage ∈ passages, passage.happening.Calm passage.before)
  (due : host.link.bus.Latched Irq.done)
include history calm due

/-- A completion that is held back is given at the first service that follows enough looks. -/
theorem givesDone_iff (split : passages = earlier ++ passage :: later)
    (serves : passage.happening.isService = true) :
    passage.happening.givesDone = true ↔
      host.link.bus.pending.toNat ≤ earlier.countP (·.happening.isLook) ∧
      ∀ other ∈ earlier, other.happening.givesDone = false := by
  subst split
  obtain ⟨start, happens, _⟩ := history.cut
  have calm : ∀ other ∈ earlier, other.happening.Calm other.before :=
    fun other member => calm other (by simp [member])
  by_cases ungiven : ∀ other ∈ earlier, other.happening.givesDone = false
  · have still : passage.before.link.bus.Latched Irq.done :=
      start.holds (fun other member => ⟨(calm other member).clears, by
        simpa [Happening.givesDone] using ungiven other member⟩) due
    have left := start.pending_of_calm calm
    have given : passage.happening.given = passage.before.link.bus.visible := by
      rw [(happens.service serves).1]
      rfl
    rw [Happening.givesDone, given, bne_iff_ne, Simulator.visible_done_iff still, and_iff_left ungiven]
    omega
  · -- Once it has been given it is not pending, and calm happenings do not raise it again.
    have nothing : passage.happening.given &&& Irq.done = 0 := by
      obtain ⟨other, member, given⟩ : ∃ other ∈ earlier, other.happening.given &&& Irq.done ≠ 0 := by
        simpa [Happening.givesDone] using ungiven
      obtain ⟨first, rest, rfl⟩ := List.append_of_mem member
      obtain ⟨_, delivers, onward⟩ := start.cut
      obtain ⟨called, last⟩ := delivers.service (Happening.isService_of_given given)
      rw [called] at given
      have lacking : other.after.link.bus.Lacks Irq.done := last ▸ Host.lacks_served (and_done given)
      have quiet : ∀ passage ∈ rest, ¬passage.happening.Raises Irq.done passage.before :=
        fun passage inside => (calm passage (by simp [inside])).not_raises
      exact happens.given_of_lacks (onward.lacks quiet lacking).1
    constructor
    · intro given
      simp [Happening.givesDone, nothing] at given
    · exact fun both => absurd both.2 ungiven

theorem countP_givesDone :
    passages.countP (·.happening.givesDone) ≤ 1 ∧
    (passages.countP (·.happening.givesDone) = 1 ↔ ∃ earlier passage later,
      passages = earlier ++ passage :: later ∧ passage.happening.isService = true ∧
      host.link.bus.pending.toNat ≤ earlier.countP (·.happening.isLook)) := by
  have once : passages.countP (·.happening.givesDone) ≤ 1 := by
    apply countP_le_one
    intro earlier passage later split gives
    have serves := Happening.isService_of_given (bne_iff_ne.mp gives)
    exact ((history.givesDone_iff calm due split serves).mp gives).2
  refine ⟨once, ?_⟩
  have some : passages.countP (·.happening.givesDone) = 1 ↔
      ∃ passage ∈ passages, passage.happening.givesDone = true := by
    rw [← List.countP_pos_iff]
    omega
  rw [some]
  constructor
  · rintro ⟨passage, member, gives⟩
    obtain ⟨earlier, later, split⟩ := List.append_of_mem member
    have serves := Happening.isService_of_given (bne_iff_ne.mp gives)
    exact ⟨earlier, passage, later, split, serves, ((history.givesDone_iff calm due split serves).mp gives).1⟩
  · rintro ⟨earlier, passage, later, split, serves, enough⟩
    by_cases before : ∀ other ∈ earlier, other.happening.givesDone = false
    · have gives := (history.givesDone_iff calm due split serves).mpr ⟨enough, before⟩
      exact ⟨passage, by simp [split], gives⟩
    · obtain ⟨other, member, gives⟩ : ∃ other ∈ earlier, other.happening.givesDone = true := by
        simpa using before
      exact ⟨other, by simp [split, member], gives⟩

end Calm

end History

structure Delivery (host : Host Simulator) (passages : List Passage) (after : Host Simulator) :
    Prop where
  answered : ∃ pending told last, Operation.handleIrq.Step after (.ok (.served pending told)) last
  served : ∀ passage ∈ passages, ∀ answer, passage.happening = .call .handleIrq answer →
    ∃ pending told, answer = .ok (.served pending told) ∧
      Served passage.before pending told passage.after
  raised : ∀ passage ∈ passages, ∀ signal, passage.happening = .signal signal →
    passage.after.link.bus.peek .irqStatus =
      passage.before.link.bus.peek .irqStatus ||| signal.raised passage.before.link.bus
  delayed : ∀ passage ∈ passages, passage.happening = .signal .program →
    passage.before.link.bus.programIrq = Irq.done →
    passage.after.link.bus.pending = passage.before.link.bus.latency
  /-- A pending interrupt stays until it is given, unless everything is taken back. -/
  kept : ∀ bits, host.link.bus.Latched bits → (∀ passage ∈ passages,
      passage.happening.clears = false ∧ passage.happening.given &&& bits = 0) →
    after.link.bus.Latched bits
  /-- An interrupt is not given before it is raised, so not twice either. -/
  fresh : ∀ bits, host.link.bus.Lacks bits →
    (∀ passage ∈ passages, ¬passage.happening.Raises bits passage.before) →
    after.link.bus.Lacks bits ∧ ∀ passage ∈ passages, passage.happening.given &&& bits = 0
  /-- A completion that is held back is given at the first service after enough looks, and at no
  other. -/
  hidden : host.link.bus.Latched Irq.done →
    (∀ passage ∈ passages, passage.happening.Calm passage.before) →
    (∀ earlier passage later, passages = earlier ++ passage :: later →
      passage.happening.isService = true → (passage.happening.givesDone = true ↔
        host.link.bus.pending.toNat ≤ earlier.countP (·.happening.isLook) ∧
        ∀ other ∈ earlier, other.happening.givesDone = false)) ∧
    passages.countP (·.happening.givesDone) ≤ 1 ∧
    (passages.countP (·.happening.givesDone) = 1 ↔ ∃ earlier passage later,
      passages = earlier ++ passage :: later ∧ passage.happening.isService = true ∧
      host.link.bus.pending.toNat ≤ earlier.countP (·.happening.isLook))

/-- Whatever happens in whatever order, no interrupt is lost and none is given twice. A history may
start at any moment, so this holds from every raise of an interrupt on. -/
theorem interrupts_delivered {host after : Host Simulator} {passages : List Passage}
    (history : History host passages after) : Delivery host passages after where
  answered := ⟨_, _, _, after.handleIrq_step.mpr ⟨rfl, rfl⟩⟩
  served passage member answer called := by
    have step := history.happens passage member
    rw [called] at step
    obtain ⟨rfl, last⟩ := passage.before.handleIrq_step.mp step
    exact ⟨_, _, rfl, last ▸ passage.before.served_all⟩
  raised passage member signal sent := by
    have acts := history.happens passage member
    rw [sent] at acts
    obtain ⟨clock, last⟩ := acts
    rw [last]
    exact signal.irq_act _
  delayed passage member runs completes := by
    have acts := history.happens passage member
    rw [runs] at acts
    obtain ⟨clock, last⟩ := acts
    rw [last]
    exact Simulator.pending_runProgram completes
  kept _ held keeps := history.holds keeps held
  fresh _ lacking quiet := history.lacks quiet lacking
  hidden due calm :=
    ⟨fun _ _ _ split serves => history.givesDone_iff calm due split serves,
      history.countP_givesDone calm due⟩

/-- A program has completed and will show it at the fourth look. A transfer ends and is served; the
completion is given at the first service after three looks, and not at the next. -/
theorem slow_completion_delivered :
    ∃ (host after : Host Simulator) (passages : List Passage), History host passages after ∧
      host.link.bus.Latched Irq.done ∧ host.link.bus.pending = 3 ∧
      passages.countP (·.happening.isService) = 3 ∧
      passages.countP (·.happening.givesDone) = 1 := by
  obtain ⟨host, due, held⟩ : ∃ host : Host Simulator,
      host.link.bus.Latched Irq.done ∧ host.link.bus.pending = 3 := by
    refine ⟨{ slowHost with link := ⟨slowHost.link.bus.runProgram, slowHost.link.clock⟩ }, ?_⟩
    unfold Simulator.Latched
    decide +kernel
  let copied : Host Simulator := { host with link := ⟨host.link.bus.runTransfer, host.link.clock⟩ }
  let look (host : Host Simulator) : Host Simulator :=
    { host with link := ⟨(host.link.bus.read .status).2, host.link.clock⟩ }
  let shown := look (look (look copied.served))
  have transfer : Happens host (.signal .transfer) copied := ⟨_, rfl⟩
  have watch (host : Host Simulator) : Happens host .look (look host) := rfl
  have serve (host : Host Simulator) : Happens host (.call .handleIrq
      (.ok (.served host.link.bus.visible host.tidings))) host.served :=
    host.handleIrq_step.mpr ⟨rfl, rfl⟩
  have history := History.cons transfer (.cons (serve copied) (.cons (watch _) (.cons (watch _)
    (.cons (watch _) (.cons (serve shown) (.cons (serve shown.served) .nil))))))
  have apart : host.link.bus.transferIrq &&& Irq.done = 0 := by
    unfold Simulator.transferIrq
    split <;> rfl
  have known := (interrupts_delivered history).hidden due (by
    simp only [List.forall_mem_cons]
    exact ⟨apart, rfl, trivial, trivial, trivial, rfl, rfl, List.forall_mem_nil _⟩)
  have enough : host.link.bus.pending.toNat ≤ 3 := by
    rw [held]
    decide
  refine ⟨host, _, _, history, due, held, rfl, known.2.2.mpr ?_⟩
  exact ⟨[_, _, _, _, _], _, [_], rfl, rfl, enough⟩

end NpuStack
