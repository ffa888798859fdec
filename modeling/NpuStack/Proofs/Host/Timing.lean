import NpuStack.Proofs.Host.Outcome
import NpuStack.Proofs.Host.Polling

/-! How long the host is kept waiting. A device may answer what it likes; time
passes in delays and between the looks of a poll, and a poll ends one interval
after its deadline at the latest. -/

set_option autoImplicit false

namespace NpuStack

theorem Clock.toNat_delay {clock : Clock} {microseconds : UInt64}
    (room : clock.now.toNat + microseconds.toNat < UInt64.size) :
    (clock.delay microseconds).now.toNat = clock.now.toNat + microseconds.toNat := by
  rw [delay, if_pos room, UInt64.toNat_add]
  exact Nat.mod_eq_of_lt room

section Calculus

variable {σ α γ : Type}

structure Lapses (bound : Nat) (before : Clock) (result : Attempt HostError α) (after : Clock) :
    Prop where
  ends : result ≠ .error (.trap .endlessWait)
  forward : before.now.toNat ≤ after.now.toNat
  within : after.now.toNat ≤ before.now.toNat + bound

/-- An action takes no longer than its bound, as long as the clock has room for it. A property of the
state outlasts the action in any case. -/
def Takes (clock : σ → Clock) (kept : σ → Prop) (bound : Nat) (action : Act σ α) : Prop :=
  ∀ state, kept state → kept (action state).2 ∧
    ((clock state).now.toNat + bound < UInt64.size →
      Lapses bound (clock state) (action state).1 (clock (action state).2))

namespace Takes

variable {clock : σ → Clock} {kept : σ → Prop} {bound more : Nat} {action : Act σ α}

theorem mono (takes : Takes clock kept bound action) (wider : bound ≤ more) :
    Takes clock kept more action := by
  intro state held
  obtain ⟨kept, lapse⟩ := takes state held
  refine ⟨kept, fun room => ?_⟩
  obtain ⟨ends, forward, within⟩ := lapse (by omega)
  exact ⟨ends, forward, by omega⟩

/-- Nothing waits where the clock stands still. -/
theorem still (outlasts : ∀ state, kept state → kept (action state).2)
    (stands : ∀ state, clock (action state).2 = clock state)
    (ends : ∀ state, (action state).1 ≠ .error (.trap .endlessWait)) :
    Takes clock kept 0 action :=
  fun state held => ⟨outlasts state held, fun _ =>
    ⟨ends state, Nat.le_of_eq (by rw [stands]), Nat.le_of_eq (by rw [stands]; rfl)⟩⟩

theorem pure (result : α) : Takes clock kept 0 (Pure.pure result) :=
  still (fun _ held => held) (fun _ => rfl) fun _ => nofun

theorem report (cause : HostError) : Takes clock kept 0 (throw (.error cause) : Act σ α) :=
  still (fun _ held => held) (fun _ => rfl) fun _ => nofun

theorem report_bind (cause : HostError) (next : α → Act σ γ) :
    Takes clock kept 0 (throw (.error cause) >>= next) :=
  still (fun _ held => held) (fun _ => rfl) fun _ => nofun

theorem bind {first : Act σ α} {next : α → Act σ γ} (left : Takes clock kept bound first)
    (right : ∀ result, Takes clock kept more (next result)) :
    Takes clock kept (bound + more) (first >>= next) := by
  intro state held
  obtain ⟨here, lapse⟩ := left state held
  rw [act_bind]
  rcases run : first state with ⟨cause | result, middle⟩
  · rw [run] at here lapse
    refine ⟨here, fun room => ?_⟩
    obtain ⟨ends, forward, within⟩ := lapse (by omega)
    refine ⟨fun endless => ends ?_, forward, by dsimp only at within ⊢; omega⟩
    cases endless
    rfl
  · rw [run] at here lapse
    obtain ⟨there, further⟩ := right result middle here
    refine ⟨there, fun room => ?_⟩
    -- What the first part leaves of the clock is enough for the second.
    have first := lapse (by omega)
    have second := further (by have := first.within; dsimp only at this; omega)
    exact ⟨second.ends, Nat.le_trans first.forward second.forward, by
      have := first.within; have := second.within; dsimp only at *; omega⟩

theorem map (f : α → γ) (takes : Takes clock kept bound action) :
    Takes clock kept bound (f <$> action) := by
  rw [map_eq_pure_bind]
  exact takes.bind fun _ => pure _

theorem ite {choice : Prop} [Decidable choice] {first second : Act σ α}
    (left : Takes clock kept bound first) (right : Takes clock kept bound second) :
    Takes clock kept bound (if choice then first else second) := by
  split
  · exact left
  · exact right

/-- A step that takes no time, and what follows it. -/
theorem step {first : Act σ α} {next : α → Act σ γ} (left : Takes clock kept 0 first)
    (right : ∀ result, Takes clock kept bound (next result)) :
    Takes clock kept bound (first >>= next) :=
  (left.bind right).mono (Nat.le_of_eq (Nat.zero_add bound))

/-- A step that is followed by what takes no time. -/
theorem last {first : Act σ α} {next : α → Act σ γ} (left : Takes clock kept bound first)
    (right : ∀ result, Takes clock kept 0 (next result)) : Takes clock kept bound (first >>= next) :=
  left.bind right

/-- A step that takes no time is taken or skipped. -/
theorem guard {choice : Prop} [Decidable choice] {first : Act σ Unit} {next : Unit → Act σ α}
    (left : Takes clock kept 0 first) (right : ∀ result, Takes clock kept bound (next result)) :
    Takes clock kept bound (if choice then first >>= next else next ()) :=
  ite (left.step right) (right ())

/-- A step before what takes no time is taken or skipped. -/
theorem guard_last {choice : Prop} [Decidable choice] {first : Act σ Unit} {next : Unit → Act σ α}
    (left : Takes clock kept bound first) (right : ∀ result, Takes clock kept 0 (next result)) :
    Takes clock kept bound (if choice then first >>= next else next ()) :=
  ite (left.last right) ((right ()).mono (Nat.zero_le bound))

theorem attempt (takes : Takes clock kept bound action) :
    Takes clock kept bound (NpuStack.attempt action) := by
  intro state held
  have known := takes state held
  unfold NpuStack.attempt
  generalize action state = run at known ⊢
  rcases run with ⟨(cause | cause) | result, after⟩
  · refine ⟨known.1, fun room => ⟨fun endless => (known.2 room).ends ?_, (known.2 room).forward,
      (known.2 room).within⟩⟩
    cases endless
    rfl
  all_goals exact ⟨known.1, fun room => ⟨nofun, (known.2 room).forward, (known.2 room).within⟩⟩

theorem lend {slice : ByteArray} {action : SliceM σ α}
    (takes : Takes (fun state => clock state.1) (fun state => kept state.1) bound action) :
    Takes clock kept bound (NpuStack.lend slice action) := by
  intro state held
  have known := takes (state, slice) held
  unfold NpuStack.lend
  generalize action (state, slice) = run at known ⊢
  rcases run with ⟨cause | result, after, slice⟩
  · refine ⟨known.1, fun room => ⟨fun endless => (known.2 room).ends ?_, (known.2 room).forward,
      (known.2 room).within⟩⟩
    cases endless
    rfl
  · exact ⟨known.1, fun room => ⟨nofun, (known.2 room).forward, (known.2 room).within⟩⟩

end Takes

def Gives (value : α → Prop) (action : Act σ α) : Prop :=
  ∀ state, wlp action (fun result _ => value result) (fun _ _ => True) state

namespace Gives

variable {value : γ → Prop}

theorem bind {first : Act σ α} {next : α → Act σ γ} (last : ∀ result, Gives value (next result)) :
    Gives value (first >>= next) := by
  intro state
  rw [wlp_bind]
  unfold wlp
  split
  · exact last _ _
  · trivial
  · trivial

theorem ite {choice : Prop} [Decidable choice] {first second : Act σ γ} (left : Gives value first)
    (right : Gives value second) : Gives value (if choice then first else second) := by
  split
  · exact left
  · exact right

/-- A step that is taken or skipped, and what follows it. -/
theorem guard {choice : Prop} [Decidable choice] {first : Act σ Unit} {next : Unit → Act σ γ}
    (last : ∀ result, Gives value (next result)) :
    Gives value (if choice then first >>= next else next ()) :=
  ite (bind last) (last ())

end Gives

end Calculus

namespace Probe

variable {σ α : Type} {interval timeout started : UInt64} {clock : Clock}

/-- Whatever the looks show, a poll ends before one interval has passed since its deadline. -/
theorem loop_lapses (probe : Probe σ α) {fuel : Nat} (finite : timeout ≠ 0)
    (room : started.toNat + timeout.toNat + interval.toNat ≤ UInt64.size)
    (later : started.toNat ≤ clock.now.toNat)
    (early : clock.now.toNat < started.toNat + timeout.toNat + interval.toNat)
    (enough : started.toNat + timeout.toNat ≤ clock.now.toNat + fuel * interval.toNat) (device : σ) :
    let run := probe.loop interval timeout started (fuel + 1) clock device
    run.1 ≠ .error (.trap .endlessWait) ∧ clock.now.toNat ≤ run.2.1.now.toNat ∧
      run.2.1.now.toNat < started.toNat + timeout.toNat + interval.toNat := by
  have since (clock : Clock) (later : started.toNat ≤ clock.now.toNat) :
      timeout ≤ clock.since started ↔ started.toNat + timeout.toNat ≤ clock.now.toNat := by
    have ordered : started ≤ clock.now := UInt64.le_iff_toNat_le.mpr later
    rw [Clock.since, if_pos ordered, UInt64.le_iff_toNat_le, UInt64.toNat_sub_of_le _ _ ordered]
    omega
  -- Induction on the looks that are left; they are enough to bring the clock to the deadline.
  induction fuel generalizing clock device with
  | zero =>
    have late : timeout ≤ clock.since started := (since clock later).mpr (by omega)
    unfold loop
    split
    · exact ⟨by simp, Nat.le_refl _, early⟩
    · exact ⟨by simp, Nat.le_refl _, early⟩
    · rw [if_pos ⟨finite, late⟩]
      exact ⟨by simp, Nat.le_refl _, early⟩
  | succ fuel ih =>
    unfold loop
    split
    · exact ⟨by simp, Nat.le_refl _, early⟩
    · exact ⟨by simp, Nat.le_refl _, early⟩
    · split
      · exact ⟨by simp, Nat.le_refl _, early⟩
      case h_3.isFalse pending =>
        have before : clock.now.toNat < started.toNat + timeout.toNat := by
          rw [not_and, since clock later] at pending
          exact Nat.lt_of_not_le (pending finite)
        have moved : (clock.delay interval).now.toNat = clock.now.toNat + interval.toNat :=
          Clock.toNat_delay (by omega)
        rw [Nat.succ_mul] at enough
        obtain ⟨ends, forward, within⟩ :=
          @ih (clock.delay interval) (by omega) (by omega) (by omega) _
        exact ⟨ends, by omega, within⟩

/-- The longest that a poll can take. Without a deadline it may take all the time there is. -/
def longest (interval timeout : UInt64) : Nat :=
  if timeout = 0 then UInt64.size else timeout.toNat + interval.toNat - 1

theorem longest_of_finite (interval : UInt64) (finite : timeout ≠ 0) :
    longest interval timeout = timeout.toNat + interval.toNat - 1 :=
  if_neg finite

end Probe

namespace Link

variable {β α : Type}

abbrev Takes (bound : Nat) (action : LinkM β α) : Prop :=
  NpuStack.Takes Link.clock (fun _ => True) bound action

theorem takes_delay (microseconds : UInt64) :
    Takes microseconds.toNat (delay microseconds : LinkM β Unit) := by
  refine fun link _ => ⟨trivial, fun room => ⟨nofun, ?_, ?_⟩⟩
  all_goals
    show _ ≤ _
    have moved : (delay microseconds link).2.clock.now.toNat =
        link.clock.now.toNat + microseconds.toNat := Clock.toNat_delay room
    omega

variable [Bus β]

theorem takes_read (reg : Register) : Takes 0 (read reg : LinkM β UInt32) :=
  .still (fun _ _ => trivial) (fun _ => rfl) fun _ => nofun

theorem takes_write (reg : Register) (value : UInt32) : Takes 0 (write reg value : LinkM β Unit) :=
  .still (fun _ _ => trivial) (fun _ => rfl) fun _ => nofun

theorem takes_setBits (reg : Register) (mask : UInt32) : Takes 0 (setBits reg mask : LinkM β Unit) :=
  .step (takes_read _) fun _ => takes_write _ _

theorem takes_clearBits (reg : Register) (mask : UInt32) :
    Takes 0 (clearBits reg mask : LinkM β Unit) :=
  .step (takes_read _) fun _ => takes_write _ _

theorem takes_testBits (reg : Register) (mask : UInt32) : Takes 0 (testBits reg mask : LinkM β Bool) :=
  .step (takes_read _) fun _ => .pure _

theorem takes_readPair (low high : Register) : Takes 0 (readPair low high : LinkM β UInt64) :=
  .step (takes_read _) fun _ => .step (takes_read _) fun _ => .pure _

theorem takes_store (addr : UInt32) (data : ByteArray) : Takes 0 (store addr data : LinkM β Unit) := by
  refine .still (fun _ _ => trivial) (fun link => ?_) fun link => ?_
  all_goals
    unfold store
    cases Bus.store addr data link.bus
  · rfl
  · rfl
  · exact nofun
  · exact nofun

theorem takes_stage (data : ByteArray) : Takes 0 (stage data : LinkM β UInt32) := by
  have get : Takes 0 (get : LinkM β (Link β)) := .still (fun _ _ => trivial) (fun _ => rfl) fun _ => nofun
  exact .step get fun _ => .guard (.report _) fun _ => .step (takes_store _ _) fun _ => .pure _

/-- The time of a poll does not depend on what the device answers. -/
theorem takes_poll {interval : UInt64} (positive : interval ≠ 0) (timeout : UInt64)
    (probe : Probe β α) : Takes (Probe.longest interval timeout) (poll interval timeout probe) := by
  refine fun link _ => ⟨trivial, fun room => ?_⟩
  unfold Probe.longest at room
  split at room
  case isTrue => omega
  case isFalse finite =>
    rw [Probe.longest_of_finite interval finite]
    have step : 0 < interval.toNat :=
      Nat.pos_of_ne_zero fun zero => positive (UInt64.toNat_inj.mp zero)
    let fuel := (timeout.toNat + interval.toNat - 1) / interval.toNat + Bus.patience link.bus
    have enough : link.clock.now.toNat + timeout.toNat ≤
        link.clock.now.toNat + fuel * interval.toNat := by
      have looks := Nat.lt_div_mul_add (a := timeout.toNat + interval.toNat - 1) step
      have more : (timeout.toNat + interval.toNat - 1) / interval.toNat * interval.toNat ≤
          fuel * interval.toNat := Nat.mul_le_mul_right _ (Nat.le_add_right _ _)
      omega
    have lapse := probe.loop_lapses finite (by omega) (Nat.le_refl _) (by omega) enough link.bus
    rw [← Probe.budget_succ] at lapse
    have within : (poll interval timeout probe link).2.clock.now.toNat <
        link.clock.now.toNat + timeout.toNat + interval.toNat := lapse.2.2
    exact ⟨lapse.1, lapse.2.1, by omega⟩

theorem takes_engineWait (engine : Engine) (timeout : UInt64) :
    Takes (Probe.longest engine.pollInterval timeout) (engine.wait timeout : LinkM β Unit) :=
  takes_poll (Probe.interval_ne_zero _) timeout _

theorem takes_waitForSlot (engine : Engine) :
    Takes (Probe.longest engine.pollInterval Engine.slotTimeout)
      (engine.waitForSlot : LinkM β Unit) := by
  refine fun link held => ⟨trivial, fun room => ?_⟩
  obtain ⟨ends, forward, within⟩ := (takes_engineWait engine Engine.slotTimeout link held).2 room
  unfold Engine.waitForSlot
  generalize engine.wait Engine.slotTimeout link = run at ends forward within ⊢
  rcases run with ⟨(cause | cause) | result, after⟩
  case error.error => cases cause <;> exact ⟨nofun, forward, within⟩
  all_goals exact ⟨ends, forward, within⟩

theorem takes_engineRequest (engine : Engine) (d : Descriptor) :
    Takes 0 (engine.request d : LinkM β Engine) := by
  have go : Takes 0 (do
      write .dmaCtrl d.controlWord
      return { engine with started := engine.started + 1 } : LinkM β Engine) :=
    .step (takes_write _ _) fun _ => .pure _
  exact .step (takes_write _ _) fun _ => .step (takes_write _ _) fun _ => .step (takes_write _ _) fun _ =>
    .ite (.step (takes_write _ _) fun _ => .step (takes_write _ _) fun _ => go) go

theorem takes_engineStart (engine : Engine) (d : Descriptor) :
    Takes (Probe.longest engine.pollInterval Engine.slotTimeout)
      (engine.start d : LinkM β Engine) := by
  unfold Engine.start
  split
  · exact (Takes.report_bind _ _).mono (Nat.zero_le _)
  · exact .step (takes_testBits _ _) fun busy => .guard_last (takes_waitForSlot engine) fun _ =>
      takes_engineRequest engine d

end Link

/-- A transfer that has been started is counted; the engine looks as often as before. -/
theorem Engine.gives_start {β : Type} [Bus β] (engine : Engine) (d : Descriptor) :
    Gives (fun after => ∃ started, after = { engine with started }) (engine.start d : LinkM β Engine) := by
  have go : Gives (fun after => ∃ started, after = { engine with started }) (do
      Link.write .dmaCtrl d.controlWord
      return { engine with started := engine.started + 1 } : LinkM β Engine) :=
    .bind fun _ _ => ⟨_, rfl⟩
  have request : Gives (fun after => ∃ started, after = { engine with started })
      (engine.request d : LinkM β Engine) :=
    .bind fun _ => .bind fun _ => .bind fun _ => .ite (.bind fun _ => .bind fun _ => go) go
  unfold Engine.start
  split
  · exact fun _ => trivial
  · exact .bind fun busy => .guard fun _ => request

end NpuStack
