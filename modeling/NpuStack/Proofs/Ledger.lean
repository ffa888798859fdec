import NpuStack.Device.Scripted
import NpuStack.Proofs.Host.Effects
import NpuStack.Proofs.Host.View
import NpuStack.Proofs.Simulator.Transfer

/-! The ledger of a host. It counts the layers it has run and the transfers it
has started by itself, next to what the hardware counts. Both counts are right:
they are those of somebody who reads the answers of all calls and watches the
control register of the transfer engine. -/

set_option autoImplicit false

namespace NpuStack

variable {β : Type} [Bus β]

section Watching

def countStart (reg : Register) (value : UInt32) (_ : β) (count : Nat) : Nat :=
  if reg = .dmaCtrl ∧ value &&& DmaCtrl.start ≠ 0 then count + 1 else count

/-- A bus with somebody who counts the transfers that are started on it. -/
abbrev Attended (β : Type) := Watched (countStart (β := β))

/-- The books of a host: so many layers, and all transfers that were seen to start since a time when
there were `base` fewer. -/
def Host.Tallies (layers base : UInt64) (host : Host (Attended β)) : Prop :=
  host.context.perf.layers = layers ∧ host.engine.started = base + .ofNat host.link.bus.known

theorem stable_known (good : Nat → Prop) :
    Link.Stable (· ≠ .dmaCtrl) fun link : Link (Attended β) => good link.bus.known where
  read _ _ held := held
  write link reg value other held := by
    show good (countStart reg value link.bus.bus link.bus.known)
    rwa [countStart, if_neg (fun start => other start.1)]
  store link addr data after stored held := by
    obtain ⟨bus, _, rfl⟩ := Watched.exists_bus stored
    exact held
  time _ _ held := held

/-- A start is refused for its descriptor or for the slot, and is a request otherwise. -/
theorem wlp_engineStart {engine : Engine} {d : Descriptor} {value : Engine → Link β → Prop}
    {report : HostError → Link β → Prop} {link : Link β}
    (invalid : ∀ fault : DescriptorFault, report (.invalidParam fault.message) link)
    (free : wlp Engine.isBusy (fun busy after => if busy then
      wlp engine.waitForSlot (fun _ => wlp (engine.request d) value report) report after
      else wlp (engine.request d) value report after) report link) :
    wlp (engine.start d) value report link := by
  unfold Engine.start
  split
  case h_1 => exact invalid _
  case h_2 =>
    rw [wlp_bind]
    refine free.imp (fun busy after rest => wlp_guard (fun held => ?_) fun idle => ?_) fun _ _ known => known
    · rwa [if_pos held] at rest
    · rwa [if_neg idle] at rest

/-- A transfer is seen to start exactly when the engine counts it. -/
theorem wlp_engineStart_known (engine : Engine) (d : Descriptor) {link : Link (Attended β)} {count : Nat}
    (held : link.bus.known = count) :
    wlp (engine.start d)
      (fun started after => started.started = engine.started + 1 ∧ after.bus.known = count + 1)
      (fun _ after => after.bus.known = count) link := by
  have stable : Link.Stable (· ≠ .dmaCtrl) fun link : Link (Attended β) => link.bus.known = count :=
    stable_known (· = count)
  have write (reg : Register) (other : reg ≠ .dmaCtrl) (value : UInt32) :=
    stable.preserves_write other value
  have go (link : Link (Attended β)) (held : link.bus.known = count) : wlp (do
      Link.write .dmaCtrl d.controlWord
      return { engine with started := engine.started + 1 })
      (fun started after => started.started = engine.started + 1 ∧ after.bus.known = count + 1)
      (fun _ after => after.bus.known = count) link := by
    refine ⟨rfl, ?_⟩
    show countStart .dmaCtrl d.controlWord link.bus.bus link.bus.known = count + 1
    rw [countStart, if_pos ⟨rfl, d.controlWord_starts.2⟩, held]
  -- Everything up to the last write leaves the count alone.
  have request (link : Link (Attended β)) (held : link.bus.known = count) : wlp (engine.request d)
      (fun started after => started.started = engine.started + 1 ∧ after.bus.known = count + 1)
      (fun _ after => after.bus.known = count) link := by
    refine (write .dmaSrc (by decide) _).goes_on held fun _ _ held =>
      (write .dmaDst (by decide) _).goes_on held fun _ _ held =>
      (write .dmaLen (by decide) _).goes_on held fun _ _ held => ?_
    split
    · exact (write .dmaSrcStride (by decide) _).goes_on held fun _ _ held =>
        (write .dmaDstStride (by decide) _).goes_on held fun _ _ held => go _ held
    · exact go _ held
  refine wlp_engineStart (fun _ => held) ?_
  refine (stable.preserves_testBits _ _ link held).imp (fun busy after held => ?_) fun _ _ held => held
  split
  · exact (stable.preserves_waitForSlot engine after held).imp (fun _ _ held => request _ held)
      fun _ _ held => held
  · exact request after held

theorem silent_engineRequest (engine : Engine) (d : Descriptor) :
    Silent (engine.request d : LinkM β Engine) := by
  have write (reg : Register) (value : UInt32) : Silent (Link.write reg value : LinkM β Unit) :=
    Host.silent_writeLink reg value
  refine .bind (write _ _) fun _ => .bind (write _ _) fun _ => .bind (write _ _) fun _ => ?_
  split
  · exact .bind (write _ _) fun _ => .bind (write _ _) fun _ => .bind (write _ _) fun _ _ => trivial
  · exact .bind (write _ _) fun _ _ => trivial

/-- A start is not refused for lack of time: to outlast the wait for the slot is to find the engine
busy. -/
theorem wlp_engineStart_cause (engine : Engine) (d : Descriptor) (link : Link β) :
    wlp (engine.start d) (fun _ _ => True) (fun cause _ => ∀ time, cause ≠ .timeout time) link := by
  have slot (link : Link β) :
      wlp engine.waitForSlot (fun _ _ => True) (fun cause _ => ∀ time, cause ≠ .timeout time) link := by
    unfold wlp Engine.waitForSlot
    generalize engine.wait Engine.slotTimeout link = run
    rcases run with ⟨(cause | cause) | result, after⟩
    case error.error =>
      cases cause <;>
      · intro time same
        cases same
    all_goals trivial
  have request (link : Link β) : wlp (engine.request d) (fun _ _ => True)
      (fun cause _ => ∀ time, cause ≠ .timeout time) link :=
    (silent_engineRequest engine d link).imp (fun _ _ _ => trivial) fun _ _ no => no.elim
  refine wlp_engineStart (fun fault time same => by cases same) ?_
  show if _ then _ else _
  split
  · exact (slot _).imp (fun _ after _ => request after) fun _ _ other => other
  · exact request _

/-- A start is counted together with its write, or refused without either. -/
theorem Host.wlp_startTransfer_known (d : Descriptor) (host : Host (Attended β)) :
    wlp (startTransfer d)
      (fun _ after => after.context = host.context ∧ after.engine.started = host.engine.started + 1 ∧
        after.link.bus.known = host.link.bus.known + 1)
      (fun cause after => (∀ time, cause ≠ .timeout time) ∧ after.context = host.context ∧
        after.engine = host.engine ∧ after.link.bus.known = host.link.bus.known) host := by
  unfold startTransfer
  rw [wlp_bind, wlp_get, wlp_bind, wlp_onLink]
  exact ((wlp_engineStart_known host.engine d rfl).and (wlp_engineStart_cause host.engine d host.link)).imp
    (fun _ _ counted => ⟨rfl, counted.1.1, counted.1.2⟩) fun _ _ refused => ⟨refused.2, rfl, rfl, refused.1⟩

/-- The books stay in order as long as the host does not write in them by itself. -/
theorem Host.guarded_tallies (layers base : UInt64) (writable : Register → Prop) {scope : Scope}
    (closed : scope.books = false) :
    Guarded writable scope (Tallies layers base : Host (Attended β) → Prop)
      fun _ => Tallies layers base where
  link host := (stable_known fun count => host.context.perf.layers = layers ∧
    host.engine.started = base + .ofNat count).guarded.mono fun _ => And.right
  memory host _ _ _ _ allowed held :=
    have ⟨layers, started⟩ := allowed.books closed
    ⟨layers.trans held.1, started.trans held.2⟩
  halt _ value idle := by
    intro host held
    refine ⟨held.1, ?_⟩
    show host.engine.started =
      base + .ofNat (countStart .dmaCtrl value host.link.bus.bus host.link.bus.known)
    rw [countStart, if_neg (fun start => start.2 idle)]
    exact held.2
  launch _ d := by
    intro host held
    refine (wlp_startTransfer_known d host).imp (fun _ after counted => ?_) fun _ after refused => ?_
    · obtain ⟨context, started, known⟩ := counted
      refine ⟨(congrArg (·.perf.layers) context).trans held.1, ?_⟩
      rw [started, known, held.2, UInt64.ofNat_add, UInt64.add_assoc]
      rfl
    · obtain ⟨_, context, engine, known⟩ := refused
      refine ⟨(congrArg (·.perf.layers) context).trans held.1, ?_⟩
      rw [engine, known]
      exact held.2

/-- One transfer at the caller's request is started once, unless it is refused. -/
theorem Host.wlp_dmaTransfer_known (d : Descriptor) (timeout : UInt64) (host : Host (Attended β)) :
    wlp (dmaTransfer d timeout) (fun _ after => after.link.bus.known = host.link.bus.known + 1)
      (fun cause after => after.link.bus.known = host.link.bus.known + 1 ∨
        (∀ time, cause ≠ .timeout time) ∧ after.link.bus.known = host.link.bus.known) host := by
  have waits : Preserves (fun after : Host (Attended β) =>
      after.link.bus.known = host.link.bus.known + 1) (waitTransfer timeout) :=
    .bind .get fun _ => preserves_onLink fun _ =>
      (stable_known (· = host.link.bus.known + 1)).preserves_engineWait _ timeout
  unfold dmaTransfer ensureInitialized
  rw [wlp_bind, wlp_bind, wlp_getContext]
  split
  case isTrue =>
    refine .inr ⟨?_, rfl⟩
    intro time same
    cases same
  case isFalse =>
    show wlp (startTransfer d >>= _) _ _ host
    rw [wlp_bind]
    refine (wlp_startTransfer_known d host).imp (fun _ after counted => ?_)
      fun _ _ refused => .inr ⟨refused.1, refused.2.2.2⟩
    exact (waits after counted.2.2).imp (fun _ _ known => known) fun _ _ known => .inl known

theorem Host.tallies_compileAndRun (layers base : UInt64) (layer : Layer) :
    Turns (Tallies layers base : Host (Attended β) → Prop) (Tallies (layers + 1) base)
      (compileAndRun layer) := by
  have guarded : Guarded (fun _ => True) ⟨.whole, false⟩ (Tallies layers base) _ :=
    guarded_tallies (β := β) layers base _ rfl
  refine turns_compileAndRun guarded rfl (fun _ _ => trivial) (fun host held => ?_) layer
  exact And.intro (congrArg (· + 1) held.1) held.2

end Watching

section Clearing

namespace Host

def Blank (host : Host β) : Prop := host.context.perf.layers = 0 ∧ host.engine.started = 0

theorem wlp_resetCounters_blank (host : Host β) :
    wlp resetCounters (fun _ => Blank) (fun _ _ => False) host :=
  ⟨rfl, rfl⟩

theorem wlp_reset_blank (host : Host β) : wlp reset (fun _ => Blank) (fun _ _ => False) host := by
  unfold reset
  rw [wlp_bind]
  show wlp (programBuffers >>= _) _ _ _
  rw [wlp_bind]
  exact (silent_programBuffers _).imp (fun _ _ _ => ⟨rfl, rfl⟩) fun _ _ no => no

theorem wlp_deinit_blank (host : Host β) :
    wlp deinit
      (fun _ after => host.state.isInitialized = true ∧ after.Blank ∨
        host.state.isInitialized = false ∧ after = host)
      (fun _ _ => False) host := by
  unfold deinit
  rw [wlp_bind, wlp_getContext]
  split
  case isTrue on =>
    rw [wlp_bind]
    exact (silent_attempt stop host).imp (fun _ _ _ => .inl ⟨on, rfl, rfl⟩) fun _ _ no => no
  case isFalse off => exact .inr ⟨Bool.eq_false_iff.mpr off, rfl⟩

theorem wlp_init_blank (config : Config) (host : Host β) :
    wlp (init config) (fun _ => Blank) (fun _ after => after = host) host := by
  have write (reg : Register) (value : UInt32) : Preserves (Blank : Host β → Prop) (write reg value) :=
    fun _ blank => blank
  have buffers : Preserves (Blank : Host β → Prop) programBuffers :=
    .bind preserves_getConfig fun _ => .bind (write _ _) fun _ => .bind (write _ _) fun _ =>
      .bind (write _ _) fun _ => .bind (preserves_checked _) fun _ => .bind (write _ _) fun _ => write _ _
  let placed : Host β := { host with
    config, context := { state := .init }, engine := { interval := config.pollInterval } }
  have blank : placed.Blank := ⟨rfl, rfl⟩
  unfold init
  rw [wlp_bind, wlp_getContext]
  -- Both refusals come before anything is replaced.
  refine wlp_guard (fun _ => rfl) fun _ => wlp_guard (fun _ => rfl) fun _ => ?_
  rw [wlp_bind]
  show wlp (programBuffers >>= _) _ _ placed
  rw [wlp_bind]
  refine (silent_programBuffers.wlp_of_preserves buffers blank).imp (fun _ after blank => ?_)
    fun _ _ no => no.elim
  exact wlp_guard (fun _ => blank) fun _ => blank

end Host

end Clearing

structure Entry where
  op : Operation
  answer : Except HostError Reply
  /-- The host was initialised when it was called. -/
  initialised : Bool
  /-- Transfers that were started meanwhile. -/
  starts : Nat

namespace Entry

def clears (entry : Entry) : Bool :=
  match entry.op with
  | .init _ => entry.answer.isOk
  | .deinit => entry.initialised
  | .reset | .resetCounters => true
  | _ => false

def completes (entry : Entry) : Bool :=
  match entry.op with
  | .compileAndRun _ => entry.answer.isOk
  | _ => false

def isTransfer (entry : Entry) : Bool :=
  match entry.op with
  | .dmaTransfer _ _ => true
  | _ => false

/-- The transfer was started once, or refused. It was not refused if it came to its end or was given
up. -/
def Once (entry : Entry) : Prop :=
  match entry.answer with
  | .ok _ | .error (.timeout _) => entry.starts = 1
  | .error _ => entry.starts ≤ 1

def ofStep (op : Operation) (answer : Except HostError Reply) (before after : Host (Attended β)) :
    Entry where
  op
  answer
  initialised := before.state.isInitialized
  starts := after.link.bus.known - before.link.bus.known

end Entry

/-- The calls of a run, newest first. -/
abbrev Ledger := List Entry

namespace Ledger

def layers : Ledger → Nat
  | [] => 0
  | entry :: earlier =>
    if entry.clears then 0 else layers earlier + if entry.completes then 1 else 0

def transfers : Ledger → Nat
  | [] => 0
  | entry :: earlier => if entry.clears then 0 else transfers earlier + entry.starts

variable (entry : Entry) (earlier : Ledger)

theorem ofNat_layers_cons :
    UInt64.ofNat (layers (entry :: earlier)) =
      if entry.clears then 0 else .ofNat (layers earlier) + if entry.completes then 1 else 0 := by
  rw [layers, apply_ite UInt64.ofNat, UInt64.ofNat_add, apply_ite UInt64.ofNat]
  rfl

theorem ofNat_transfers_cons :
    UInt64.ofNat (transfers (entry :: earlier)) =
      if entry.clears then 0 else .ofNat (transfers earlier) + .ofNat entry.starts := by
  rw [transfers, apply_ite UInt64.ofNat, UInt64.ofNat_add]
  rfl

end Ledger

/-- A run of a host from its start, on a bus that somebody watches, with the calls it is made of. -/
inductive Booked (altered : β → β → Prop) : Ledger → Host (Attended β) → Prop where
  | start {bus : β} {clock : Clock} : Booked altered [] { link := ⟨⟨bus, 0⟩, clock⟩ }
  | call {ledger : Ledger} {op : Operation} {before after : Host (Attended β)}
    {answer : Except HostError Reply} : Booked altered ledger before → op.Step before answer after →
    Booked altered (.ofStep op answer before after :: ledger) after
  | alter {ledger : Ledger} {host : Host (Attended β)} {bus : β} {clock : Clock} :
    Booked altered ledger host → altered host.link.bus.bus bus →
    Booked altered ledger { host with link := ⟨⟨bus, host.link.bus.known⟩, clock⟩ }

section Books

variable {op : Operation} {before after : Host (Attended β)} {answer : Except HostError Reply}

/-- What has been seen is not forgotten. -/
theorem Operation.Step.known_le (step : op.Step before answer after) :
    before.link.bus.known ≤ after.link.bus.known := by
  have stable : Link.Stable (fun _ => True)
      fun link : Link (Attended β) => before.link.bus.known ≤ link.bus.known := {
    read := fun _ _ held => held
    write := fun link reg value _ held => by
      show _ ≤ countStart reg value link.bus.bus link.bus.known
      unfold countStart
      split
      · exact Nat.le_succ_of_le held
      · exact held
    store := fun link addr data after stored held => by
      obtain ⟨bus, _, rfl⟩ := Watched.exists_bus stored
      exact held
    time := fun _ _ held => held }
  exact step.preserves (Host.guarded_of_link (stable.mono fun _ _ => trivial).guarded _) (Nat.le_refl _)

/-- What is in the books after a call, if it follows from what was in them before and from what was
seen meanwhile. -/
def Host.Posted (entry : Entry) (before after : Host (Attended β)) : Prop :=
  after.context.perf.layers =
    (if entry.clears then 0 else before.context.perf.layers + if entry.completes then 1 else 0) ∧
  after.engine.started = if entry.clears then 0 else before.engine.started + .ofNat entry.starts

omit [Bus β] in
theorem Host.tallies_now (host : Host (Attended β)) :
    host.Tallies host.context.perf.layers (host.engine.started - .ofNat host.link.bus.known) :=
  ⟨rfl, (UInt64.sub_add_cancel _ _).symm⟩

omit [Bus β] in
theorem Host.Posted.of_tallies {entry : Entry} {layers : UInt64} (kept : entry.clears = false)
    (starts : entry.starts = after.link.bus.known - before.link.bus.known)
    (forward : before.link.bus.known ≤ after.link.bus.known)
    (counted : layers = before.context.perf.layers + if entry.completes then 1 else 0)
    (tallies : after.Tallies layers (before.engine.started - .ofNat before.link.bus.known)) :
    before.Posted entry after := by
  -- The base stands for what was started before anybody watched, and cancels.
  have sum : after.link.bus.known = before.link.bus.known + entry.starts := by omega
  refine ⟨by rw [kept]; exact tallies.1.trans counted, ?_⟩
  rw [kept, tallies.2, sum, UInt64.ofNat_add, ← UInt64.add_assoc, UInt64.sub_add_cancel]
  rfl

omit [Bus β] in
theorem Host.Posted.of_blank {entry : Entry} (clears : entry.clears = true) (blank : after.Blank) :
    before.Posted entry after := by
  refine ⟨?_, ?_⟩
  · rw [clears]
    exact blank.1
  · rw [clears]
    exact blank.2

omit [Bus β] in
theorem Host.Posted.same (kept : (Entry.ofStep op answer before before).clears = false)
    (none : (Entry.ofStep op answer before before).completes = false) :
    before.Posted (.ofStep op answer before before) before :=
  .of_tallies kept rfl (Nat.le_refl _) (by rw [none]; exact (UInt64.add_zero _).symm) before.tallies_now

/-- One call: whatever it answers, the books are right again. -/
theorem Operation.Step.posted (step : op.Step before answer after) :
    before.Posted (.ofStep op answer before after) after := by
  have forward := step.known_le
  have now := before.tallies_now
  -- Four calls may clear the books and one enters a layer. No other call touches them by itself.
  cases op with
  | init config =>
    have ended := step.of_outcome rfl (Host.wlp_init_blank config before)
    cases answer with
    | ok reply => exact .of_blank rfl ended
    | error cause =>
      cases ended
      exact .same rfl rfl
  | deinit =>
    have ended := step.of_outcome rfl (Host.wlp_deinit_blank before)
    cases answer with
    | ok reply =>
      rcases ended with ⟨on, blank⟩ | ⟨off, rfl⟩
      · exact .of_blank on blank
      · exact .same off rfl
    | error cause => exact ended.elim
  | reset =>
    have ended := step.of_outcome rfl (Host.wlp_reset_blank before)
    cases answer with
    | ok reply => exact .of_blank rfl ended
    | error cause => exact ended.elim
  | resetCounters =>
    have ended := step.of_outcome rfl (Host.wlp_resetCounters_blank before)
    cases answer with
    | ok reply => exact .of_blank rfl ended
    | error cause => exact ended.elim
  | compileAndRun layer =>
    have ended := step.of_outcome rfl (Host.tallies_compileAndRun _ _ layer before now)
    cases answer with
    | ok reply => exact .of_tallies rfl rfl forward rfl ended
    | error cause => exact .of_tallies rfl rfl forward (UInt64.add_zero _).symm ended
  | _ =>
    have still := step.preserves (Host.guarded_tallies _ _ _ rfl) now
    exact .of_tallies rfl rfl forward (UInt64.add_zero _).symm still

/-- Every run: the books of the host are those of its observer. -/
theorem Booked.books {altered : β → β → Prop} {ledger : Ledger} {host : Host (Attended β)}
    (booked : Booked altered ledger host) :
    host.context.perf.layers = .ofNat ledger.layers ∧ host.engine.started = .ofNat ledger.transfers := by
  -- Induction on the run: both sides are posted the same entry, and nothing for a change of the bus.
  induction booked with
  | start => exact ⟨rfl, rfl⟩
  | @call ledger op before after answer _ step ih =>
    obtain ⟨layers, started⟩ := step.posted
    rw [ih.1] at layers
    rw [ih.2] at started
    exact ⟨layers.trans (Ledger.ofNat_layers_cons _ _).symm,
      started.trans (Ledger.ofNat_transfers_cons _ _).symm⟩
  | alter _ _ ih => exact ih

/-- One call that asks for a transfer. -/
theorem Operation.Step.once (step : op.Step before answer after)
    (asks : (Entry.ofStep op answer before after).isTransfer = true) :
    (Entry.ofStep op answer before after).Once := by
  cases op with
  | dmaTransfer d timeout =>
    have ended := step.of_outcome rfl (Host.wlp_dmaTransfer_known d timeout before)
    unfold Entry.Once Entry.ofStep
    dsimp only
    split
    · dsimp only at ended
      omega
    · rcases ended with started | ⟨other, _⟩
      · omega
      · exact absurd rfl (other _)
    · dsimp only at ended
      omega
  | _ => cases asks

theorem Booked.once {altered : β → β → Prop} {ledger : Ledger} {host : Host (Attended β)}
    (booked : Booked altered ledger host) : ∀ entry ∈ ledger, entry.isTransfer = true → entry.Once := by
  induction booked with
  | start => exact fun _ member => nomatch member
  | call _ step ih =>
    intro entry member asks
    rcases List.mem_cons.mp member with rfl | earlier
    · exact step.once asks
    · exact ih entry earlier asks
  | alter _ _ ih => exact ih

/-- Every run can be booked. -/
theorem Reachable.exists_booked {altered : β → β → Prop} {host : Host β}
    (reached : Reachable (fun _ => True) altered host) :
    ∃ ledger watched, Booked altered ledger watched ∧ watched.map Watched.bus = host := by
  induction reached with
  | start _ => exact ⟨[], _, .start, rfl⟩
  | step _ step ih =>
    obtain ⟨ledger, watched, booked, rfl⟩ := ih
    -- The call is answered on the watched bus as on the bus itself.
    obtain ⟨after, step, same⟩ := (Operation.step_map_iff Watched.view_bus).mp step
    exact ⟨_, after, .call booked step, same⟩
  | @alter _ bus clock _ change ih =>
    obtain ⟨ledger, watched, booked, rfl⟩ := ih
    exact ⟨ledger, { watched with link := ⟨⟨bus, watched.link.bus.known⟩, clock⟩ }, .alter booked change, rfl⟩

/-- What is booked is a run. -/
theorem Booked.reachable {altered : β → β → Prop} {ledger : Ledger} {watched : Host (Attended β)}
    (booked : Booked altered ledger watched) :
    Reachable (fun _ => True) altered (watched.map Watched.bus) := by
  induction booked with
  | start => exact .start trivial
  | call _ step ih => exact .step ih ((Operation.step_map_iff Watched.view_bus).mpr ⟨_, step, rfl⟩)
  | alter _ change ih => exact .alter ih change

/-- What the counters show of the books. -/
theorem Host.yields_perf (host : Host β) :
    yields perf (fun counters _ => counters.layers = host.context.perf.layers ∧
      counters.transfers = host.engine.started) host :=
  ⟨rfl, rfl⟩

end Books

/-- The books are right. On every bus and after every run, the counters are given, and show the layers
that were run to their end and the transfers that were started since the books were last cleared,
as somebody counts them who reads the answers of the calls and watches the transfer engine. -/
theorem books_match_calls {altered : β → β → Prop} {host : Host β}
    (reached : Reachable (fun _ => True) altered host) :
    (∃ ledger watched, Booked altered ledger watched ∧ watched.map Watched.bus = host) ∧
    ∀ ledger watched, Booked altered ledger watched → watched.map Watched.bus = host →
      (∃ counters after, Operation.perf.Step host (.ok (.counters counters)) after ∧
        counters.layers = .ofNat ledger.layers ∧ counters.transfers = .ofNat ledger.transfers) ∧
      ∀ entry ∈ ledger, entry.isTransfer = true → entry.Once := by
  refine ⟨reached.exists_booked, fun ledger watched booked same => ⟨?_, booked.once⟩⟩
  obtain ⟨counters, after, step, layers, transfers⟩ := Operation.perf.exists_ok rfl host.yields_perf
  cases same
  exact ⟨counters, after, step, layers.trans booked.books.1, transfers.trans booked.books.2⟩

/-- A device whose transfers all fail and whose programs all end at once. -/
def brittleDevice : Scripted where
  answers := [(.status, Status.done), (.config, 0x00100010), (.dmaStatus, DmaStatus.error)]

def pixelPool : Layer where
  kind := .maxPool
  input := { addr := 0, batch := 1, channels := 1, height := 1, width := 1 }
  output := { addr := 64, batch := 1, channels := 1, height := 1, width := 1 }
  pool := .square 1 1

def brittleHost : Host (Attended Scripted) :=
  ((Operation.init .reference).perform (Host.ofBus ⟨brittleDevice, 0⟩)).2

def failedTransfer : Operation := .dmaTransfer (.linear .weight 0 64 4) 10

def failedHost : Host (Attended Scripted) := (failedTransfer.perform brittleHost).2

def pooledHost : Host (Attended Scripted) := ((Operation.compileAndRun pixelPool).perform failedHost).2

theorem failed_transfer_counted :
    Reachable (fun _ => True) (fun _ _ => False) (pooledHost.map Watched.bus) ∧
    (∃ reason, failedTransfer.Step brittleHost (.error (.dma reason)) failedHost) ∧
    ∃ counters after, Operation.perf.Step (pooledHost.map Watched.bus) (.ok (.counters counters)) after ∧
      counters.layers = 1 ∧ counters.transfers = 1 := by
  have initialised : (Operation.init .reference).Step (Host.ofBus ⟨brittleDevice, 0⟩) (.ok .finished)
      brittleHost := .of_value rfl
  have failed : ∃ reason, failedTransfer.Step brittleHost (.error (.dma reason)) failedHost :=
    ⟨_, .of_report rfl⟩
  have pooled : (Operation.compileAndRun pixelPool).Step failedHost
      (.ok (.counters pooledHost.context.perf)) pooledHost := .of_value rfl
  obtain ⟨reason, transferred⟩ := failed
  have booked : Booked (fun _ _ => False) _ pooledHost :=
    .call (.call (.call .start initialised) transferred) pooled
  obtain ⟨counted, _⟩ := (books_match_calls booked.reachable).2 _ _ booked rfl
  exact ⟨booked.reachable, ⟨reason, transferred⟩, counted⟩

end NpuStack
