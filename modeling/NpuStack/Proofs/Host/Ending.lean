import NpuStack.Proofs.Host.Operation
import NpuStack.Proofs.Host.Polling

/-! How operations end. `wp` is `wlp` with a condition on traps as well, so an
operation that meets it with no trap allowed comes back. -/

set_option autoImplicit false

namespace NpuStack

section Calculus

variable {σ α γ : Type}

def wp (action : Act σ α) (value : α → σ → Prop) (report : HostError → σ → Prop) (stop : Trap → Prop)
    (state : σ) : Prop :=
  match action state with
  | (.ok result, after) => value result after
  | (.error (.error cause), after) => report cause after
  | (.error (.trap cause), _) => stop cause

variable {value : α → σ → Prop} {report : HostError → σ → Prop} {stop : Trap → Prop} {state : σ}

theorem wp_bind {value : γ → σ → Prop} (first : Act σ α) (next : α → Act σ γ) :
    wp (first >>= next) value report stop state ↔
      wp first (fun result => wp (next result) value report stop) report stop state := by
  unfold wp
  rw [act_bind]
  rcases first state with ⟨(cause | cause) | result, after⟩ <;> rfl

theorem wp_map {value : γ → σ → Prop} (f : α → γ) (action : Act σ α) :
    wp (f <$> action) value report stop state ↔
      wp action (fun result => value (f result)) report stop state := by
  rw [map_eq_pure_bind, wp_bind]
  rfl

theorem wp.imp {value' : α → σ → Prop} {report' : HostError → σ → Prop} {action : Act σ α}
    (known : wp action value report stop state)
    (values : ∀ result after, value result after → value' result after)
    (reports : ∀ cause after, report cause after → report' cause after) :
    wp action value' report' stop state := by
  unfold wp at known ⊢
  split at known
  case h_1 => exact values _ _ known
  case h_2 => exact reports _ _ known
  case h_3 => exact known

theorem wp.wlp {action : Act σ α} (known : wp action value report stop state) :
    wlp action value report state := by
  unfold wp at known
  unfold NpuStack.wlp
  split
  case h_1 run => rwa [run] at known
  case h_2 run => rwa [run] at known
  case h_3 => trivial

/-- Operations that do the same, each from its own state, lead to the same. -/
theorem wp_of_eq {action other : Act σ α} {before : σ} (run : action state = other before)
    (known : wp other value report stop before) : wp action value report stop state := by
  unfold wp
  rwa [run]

theorem yields.wp {action : Act σ α} (known : yields action value state) :
    wp action value report stop state := by
  unfold yields at known
  unfold NpuStack.wp
  split at known
  case h_1 run =>
    rw [run]
    exact known
  case h_2 => exact known.elim

/-- A step that is taken or skipped, and what follows it. -/
theorem wp_guard {choice : Prop} [Decidable choice] {first : Act σ Unit} {next : Unit → Act σ α}
    (taken : choice → wp first (fun _ => wp (next ()) value report stop) report stop state)
    (skipped : ¬choice → wp (next ()) value report stop state) :
    wp (if choice then first >>= next else next ()) value report stop state := by
  split
  case isTrue holds =>
    rw [wp_bind]
    exact taken holds
  case isFalse fails => exact skipped fails

theorem wp_attempt {value : Except HostError α → σ → Prop} (action : Act σ α) :
    wp (attempt action) value report stop state ↔
      wp action (fun result => value (.ok result)) (fun cause => value (.error cause)) stop state := by
  unfold wp attempt
  rcases action state with ⟨(cause | cause) | result, after⟩ <;> rfl

abbrev Endless (action : Act σ α) (state : σ) : Prop :=
  wp action (fun _ _ => False) (fun _ _ => False) (· = .endlessWait) state

namespace Endless

variable {first : Act σ α} {next : α → Act σ γ}

theorem bind (endless : Endless first state) (next : α → Act σ γ) : Endless (first >>= next) state := by
  rw [Endless, wp_bind]
  exact endless.imp (fun _ _ no => no.elim) fun _ _ no => no

theorem after (known : yields first (fun result => Endless (next result)) state) :
    Endless (first >>= next) state := by
  rw [Endless, wp_bind]
  exact known.wp

end Endless

/-- Where no trap is allowed an operation comes back. -/
theorem exists_attempt_of_wp {action : Act σ α} (known : wp action value report stop state)
    (never : ∀ cause, ¬stop cause) : ∃ answer after, attempt action state = (.ok answer, after) := by
  unfold wp at known
  unfold attempt
  generalize action state = run at known ⊢
  rcases run with ⟨(cause | cause) | result, after⟩
  · exact absurd known (never cause)
  · exact ⟨.error cause, after, rfl⟩
  · exact ⟨.ok result, after, rfl⟩

end Calculus

namespace Host

variable {β α : Type} {value : α → Host β → Prop} {report : HostError → Host β → Prop}
  {stop : Trap → Prop} {host : Host β}

theorem wp_get {value : Host β → Host β → Prop} :
    wp (get : HostM β (Host β)) value report stop host ↔ value host host := Iff.rfl

theorem wp_getConfig {value : Config → Host β → Prop} :
    wp getConfig value report stop host ↔ value host.config host := Iff.rfl

theorem wp_setState {value : Unit → Host β → Prop} (s : RunState) :
    wp (setState s) value report stop host ↔ value () { host with context.state := s } := Iff.rfl

theorem wp_onLink (action : LinkM β α) : wp (onLink action) value report stop host ↔
    wp action (fun result link => value result { host with link })
      (fun cause link => report cause { host with link }) stop host.link := by
  unfold wp
  rw [onLink_eq]
  rcases action host.link with ⟨(cause | cause) | result, link⟩ <;> rfl

theorem wp_onHost {value : α → Host β × ByteArray → Prop} {report : HostError → Host β × ByteArray → Prop}
    {slice : ByteArray} (action : HostM β α) : wp (onHost action) value report stop (host, slice) ↔
      wp action (fun result after => value result (after, slice))
        (fun cause after => report cause (after, slice)) stop host := by
  unfold wp
  rw [onHost_eq]
  rcases action host with ⟨(cause | cause) | result, after⟩ <;> rfl

theorem wp_checked {number : Checked α} (values : ∀ result, number = .ok result → value result host)
    (stops : ∀ cause, number = .error cause → stop cause) :
    wp (checked number) value report stop host := by
  cases number with
  | error cause => exact stops cause rfl
  | ok result => exact values result rfl

theorem endless_noting {action : HostM β α} (endless : Endless action host) :
    Endless (noting action) host := by
  refine Endless.bind ?_ _
  rw [Endless, wp_attempt]
  exact endless

/-- Recording an error changes nothing for the values. -/
theorem wp_noting {fact : Prop} {action : HostM β α}
    (known : wp action value (fun _ _ => fact) stop host) :
    wp (noting action) value (fun _ _ => fact) stop host := by
  unfold noting
  rw [wp_bind, wp_attempt]
  exact known.imp (fun _ _ held => held) fun _ _ held => held

end Host

namespace Link

variable {β α : Type} [Bus β] {value : α → Link β → Prop} {stop : Trap → Prop} {link : Link β}

/-- A poll of a device that a look leaves as it is. The first look decides: it answers, or only the
deadline ends the poll, and a clock at its last reading never gets there. -/
theorem wp_poll {probe : Probe β α} {interval timeout : UInt64}
    (still : (probe link.bus).2 = link.bus) (positive : interval ≠ 0) (finite : timeout ≠ 0)
    (answered : ∀ result, (probe link.bus).1 = some (.ok result) → value result link)
    (late : (probe link.bus).1 = none →
      UInt64.size ≤ link.clock.now.toNat + timeout.toNat → stop .endlessWait) :
    wp (Link.poll interval timeout probe) value (fun _ _ => True) stop link := by
  obtain ⟨bus, clock⟩ := link
  unfold wp Link.poll
  dsimp only at still answered late ⊢
  rcases look : probe bus with ⟨seen, after⟩
  rw [look] at still answered late
  obtain rfl := still.symm
  cases seen with
  | some answer =>
    rw [Probe.poll_answered look]
    cases answer with
    | error cause => trivial
    | ok result => exact answered result rfl
  | none =>
    -- A quiet device stays quiet. Unless the clock stops first, the looks reach the deadline.
    have unanswered : ∀ device, device = bus → ∃ next, probe device = (none, next) ∧ next = bus := by
      rintro _ rfl
      exact ⟨_, look, rfl⟩
    obtain ⟨clock', _, run, rfl⟩ := Probe.poll_quiet unanswered rfl positive finite (Bus.patience bus)
    by_cases room : clock.now.toNat + timeout.toNat < UInt64.size
    · rw [run, if_pos room]
      trivial
    · rw [run, if_neg room]
      exact late rfl (Nat.le_of_not_lt room)

end Link

theorem Operation.Step.exists_of_wp {β : Type} [Bus β] {op : Operation} {host : Host β}
    {value : Reply → Host β → Prop} {report : HostError → Host β → Prop} {stop : Trap → Prop}
    (known : wp op.perform value report stop host) (never : ∀ cause, ¬stop cause) :
    ∃ answer after, op.Step host answer after :=
  exists_attempt_of_wp known never

theorem Operation.not_step_of_endless {β : Type} [Bus β] {op : Operation} {host after : Host β}
    {answer : Except HostError Reply} (endless : Endless op.perform host) : ¬op.Step host answer after := by
  intro step
  have never := step.of_wlp endless.wlp
  cases answer <;> exact never

end NpuStack
