import NpuStack.Proofs.Host.Deadline
import NpuStack.Proofs.Launch

/-! Waiting in parts. Every look at the status of a core that holds its completion
back is one look less to come, whichever wait takes it. So waits that are given up
add up, and the program ends as if it had been waited for at once. -/

set_option autoImplicit false

namespace NpuStack

open Probe (intervals)

namespace Simulator

variable {sim : Simulator}

def glanced (sim : Simulator) (looks : Nat) : Simulator :=
  { sim with
    statusReads := sim.statusReads + .ofNat looks
    pending := .ofNat (sim.pending.toNat - looks) }

theorem toNat_pending_glanced (sim : Simulator) (looks : Nat) :
    (sim.glanced looks).pending.toNat = sim.pending.toNat - looks :=
  UInt32.toNat_ofNat_of_lt' (Nat.lt_of_le_of_lt (Nat.sub_le _ _) sim.pending.toNat_lt)

theorem glanced_zero (sim : Simulator) : sim.glanced 0 = sim := by
  have reads : sim.statusReads + .ofNat 0 = sim.statusReads := UInt64.add_zero _
  have same : UInt32.ofNat (sim.pending.toNat - 0) = sim.pending := UInt32.ofNat_toNat
  unfold glanced
  rw [reads, same]

theorem glanced_glanced (sim : Simulator) (first second : Nat) :
    (sim.glanced first).glanced second = sim.glanced (first + second) := by
  have reads : sim.statusReads + .ofNat first + .ofNat second =
      sim.statusReads + .ofNat (first + second) := by
    rw [UInt64.add_assoc, UInt64.ofNat_add]
  have left : (sim.glanced first).pending.toNat - second = sim.pending.toNat - (first + second) := by
    rw [toNat_pending_glanced, Nat.sub_sub]
  unfold glanced at left ⊢
  dsimp only at left ⊢
  rw [reads, left]

theorem read_status_eq (sim : Simulator) : sim.read .status =
    (if 0 < sim.pending then runningStatus else sim.peek .status, sim.glanced 1) := by
  have positive : 0 < sim.pending ↔ 1 ≤ sim.pending.toNat := UInt32.lt_iff_toNat_lt
  show (if 0 < sim.pending then _ else _) = _
  by_cases held : 0 < sim.pending
  · have one : (1 : UInt32) ≤ sim.pending := UInt32.le_iff_toNat_le.mpr (positive.mp held)
    have less : sim.pending - 1 = .ofNat (sim.pending.toNat - 1) := by
      rw [← UInt32.toNat_inj, UInt32.toNat_sub_of_le _ _ one]
      exact (sim.toNat_pending_glanced 1).symm
    rw [if_pos held, if_pos held, less]
    rfl
  · have none : sim.pending = .ofNat (sim.pending.toNat - 1) := by
      have zero : sim.pending.toNat = 0 := by
        rw [positive] at held
        omega
      rw [← UInt32.toNat_inj, zero]
      rfl
    rw [if_neg held, if_neg held]
    unfold glanced
    rw [← none]
    rfl

/-- A program has ended, but the core may still hold the news back. -/
def Over (sim : Simulator) : Prop := sim.peek .status = doneStatus

theorem Over.glanced (past : Over sim) (looks : Nat) : Over (sim.glanced looks) := past

theorem completionProbe_eq (past : Over sim) : Host.completionProbe sim =
    (if 0 < sim.pending then none else some (.ok ()), sim.glanced 1) := by
  unfold Host.completionProbe
  simp only [Bus.read, read_status_eq]
  rw [past]
  split <;> rfl

theorem after_completionProbe (past : Over sim) (looks : Nat) :
    Host.completionProbe.after looks sim = sim.glanced looks := by
  induction looks generalizing sim with
  | zero => exact sim.glanced_zero.symm
  | succ looks ih =>
    show Host.completionProbe.after looks (Host.completionProbe sim).2 = _
    rw [completionProbe_eq past]
    exact (ih (past.glanced 1)).trans ((sim.glanced_glanced 1 looks).trans (by rw [Nat.add_comm]))

/-- A completion that is held back is told after as many looks. -/
theorem firstAnswer_completionProbe (past : Over sim) :
    Host.completionProbe.FirstAnswer (sim.pending.toNat + 1) (.ok ()) sim := by
  have shown (earlier : Nat) : Host.completionProbe.answer? earlier sim =
      if earlier < sim.pending.toNat then none else some (.ok ()) := by
    have positive : 0 < (sim.glanced earlier).pending ↔ earlier < sim.pending.toNat := by
      rw [UInt32.lt_iff_toNat_lt, toNat_pending_glanced]
      exact Nat.sub_pos_iff_lt
    unfold Probe.answer?
    rw [after_completionProbe past, completionProbe_eq (past.glanced earlier)]
    simp only [positive]
  refine ⟨Nat.succ_pos _, fun earlier below => ?_, ?_⟩
  · rw [shown, if_pos (by omega)]
  · rw [shown, if_neg (by omega)]

end Simulator

theorem Config.one_le_interval (config : Config) : 1 ≤ config.interval := Probe.one_le_interval _

namespace Host

variable {host : Host Simulator} {timeout : UInt64}

def glanced (host : Host Simulator) (looks : Nat) (clock : Clock) : Host Simulator :=
  { host with link := ⟨host.link.bus.glanced looks, clock⟩ }

def finished (host : Host Simulator) (clock : Clock) : Host Simulator :=
  { host.glanced (host.link.bus.pending.toNat + 1) clock with context := host.completed }

def gaveUp (host : Host Simulator) (timeout : UInt64) (clock : Clock) : Host Simulator :=
  { host.glanced (intervals host.config.interval timeout + 1) clock with
    context := host.expired timeout }

section Wait

/-- A clock that can be moved by whole intervals can be moved to the deadline. -/
theorem timeout_le_of_room (room : host.link.clock.now.toNat +
      intervals host.config.interval timeout * host.config.interval.toNat < UInt64.size) :
    timeout.toNat ≤ UInt64.size - 1 - host.link.clock.now.toNat := by
  have reached := (Probe.intervals_le_iff host.config.one_le_interval).mp
    (Nat.le_refl (intervals host.config.interval timeout))
  omega

variable (initialized : host.state.isInitialized = true) (past : host.link.bus.Over)
  (room : host.link.clock.now.toNat + intervals host.config.interval timeout *
    host.config.interval.toNat < UInt64.size)
include initialized past room

theorem wait_completes (soon : host.link.bus.pending.toNat ≤ intervals host.config.interval timeout) :
    ∃ clock : Clock, clock.now.toNat = host.link.clock.now.toNat +
        host.link.bus.pending.toNat * host.config.interval.toNat ∧
      wait timeout host = (.ok (), host.finished clock) := by
  have far := timeout_le_of_room room
  obtain ⟨clock, reading, poll⟩ := Link.poll_first_answer host.config.one_le_interval far
    (Simulator.firstAnswer_completionProbe past) (Nat.succ_le_succ soon)
  have short := Nat.mul_le_mul_right host.config.interval.toNat soon
  rw [Nat.add_sub_cancel] at reading
  refine ⟨clock, by omega, ?_⟩
  rw [wait_eq initialized, act_bind, attempt, onLink_eq, poll, Simulator.after_completionProbe past]
  exact complete_eq _

theorem wait_gives_up (finite : 1 ≤ timeout)
    (late : intervals host.config.interval timeout < host.link.bus.pending.toNat) :
    ∃ clock : Clock, clock.now.toNat = host.link.clock.now.toNat +
        intervals host.config.interval timeout * host.config.interval.toNat ∧
      wait timeout host = (.error (.error (.timeout timeout)), host.gaveUp timeout clock) := by
  have far := timeout_le_of_room room
  have unheard (looks : Nat) (answer : Except HostError Unit)
      (first : completionProbe.FirstAnswer looks answer host.link.bus) :
      intervals host.config.interval timeout + 1 < looks := by
    rw [first.unique (Simulator.firstAnswer_completionProbe past)]
    exact Nat.succ_lt_succ late
  obtain ⟨clock, reading, poll⟩ := Link.poll_expires host.config.one_le_interval far finite unheard
  refine ⟨clock, by omega, ?_⟩
  rw [wait_eq initialized, act_bind, attempt, onLink_eq, poll, Simulator.after_completionProbe past]
  rfl

theorem wait_step_of_soon
    (soon : host.link.bus.pending.toNat ≤ intervals host.config.interval timeout) :
    ∃ clock : Clock, clock.now.toNat = host.link.clock.now.toNat +
        host.link.bus.pending.toNat * host.config.interval.toNat ∧
      ∀ answer after, (Operation.wait timeout).Step host answer after ↔
        answer = .ok .finished ∧ after = host.finished clock := by
  obtain ⟨clock, reading, run⟩ := wait_completes initialized past room soon
  refine ⟨clock, reading, fun answer after => ?_⟩
  rw [Operation.step_iff_of_map rfl, run]

theorem wait_step_of_late (finite : 1 ≤ timeout)
    (late : intervals host.config.interval timeout < host.link.bus.pending.toNat) :
    ∃ clock : Clock, clock.now.toNat = host.link.clock.now.toNat +
        intervals host.config.interval timeout * host.config.interval.toNat ∧
      ∀ answer after, (Operation.wait timeout).Step host answer after ↔
        answer = .error (.timeout timeout) ∧ after = host.gaveUp timeout clock := by
  obtain ⟨clock, reading, run⟩ := wait_gives_up initialized past room finite late
  refine ⟨clock, reading, fun answer after => ?_⟩
  rw [Operation.step_iff_of_map rfl, run]

end Wait

end Host

inductive GivenUp : Host Simulator → List UInt64 → Host Simulator → Prop where
  | nil {host : Host Simulator} : GivenUp host [] host
  | cons {before middle after : Host Simulator} {timeout : UInt64} {rest : List UInt64} :
    (Operation.wait timeout).Step before (.error (.timeout timeout)) middle →
    GivenUp middle rest after → GivenUp before (timeout :: rest) after

def spentIntervals (interval : UInt64) : List UInt64 → Nat
  | [] => 0
  | timeout :: rest => intervals interval timeout + spentIntervals interval rest

/-- Each wait takes one look more than it has intervals. -/
def spentLooks (interval : UInt64) : List UInt64 → Nat
  | [] => 0
  | timeout :: rest => intervals interval timeout + 1 + spentLooks interval rest

namespace Host

variable {host after : Host Simulator} {timeouts : List UInt64}

def resigned (host : Host Simulator) (timeouts : List UInt64) (clock : Clock) : Host Simulator :=
  { host.glanced (spentLooks host.config.interval timeouts) clock with
    context := { host.context with
      lastError := if timeouts.isEmpty then host.context.lastError else some (-3) } }

theorem resigned_nil (host : Host Simulator) : host.resigned [] host.link.clock = host := by
  unfold resigned glanced
  rw [spentLooks, Simulator.glanced_zero]
  rfl

theorem resigned_cons (host : Host Simulator) (timeout : UInt64) (rest : List UInt64)
    (between clock : Clock) :
    (host.gaveUp timeout between).resigned rest clock = host.resigned (timeout :: rest) clock := by
  have bus := host.link.bus.glanced_glanced (intervals host.config.interval timeout + 1)
    (spentLooks host.config.interval rest)
  have code : (if rest.isEmpty then some (HostError.timeout timeout).statusCode else some (-3)) =
      some (-3) := by
    split <;> rfl
  unfold resigned gaveUp glanced expired
  dsimp only
  rw [bus, code]
  rfl

theorem toNat_pending_gaveUp (host : Host Simulator) (timeout : UInt64) (clock : Clock) :
    (host.gaveUp timeout clock).link.bus.pending.toNat =
      host.link.bus.pending.toNat - (intervals host.config.interval timeout + 1) :=
  host.link.bus.toNat_pending_glanced _

end Host

/-- So many intervals have passed, with one look at the status more. -/
structure Polled (interval : UInt64) (count : Nat) (before after : Host Simulator) : Prop where
  clock : after.link.clock.now.toNat = before.link.clock.now.toNat + count * interval.toNat
  reads : after.link.bus.statusReads = before.link.bus.statusReads + .ofNat (count + 1)

namespace GivenUp

variable {host after : Host Simulator} {timeouts : List UInt64}
  (initialized : host.state.isInitialized = true) (past : host.link.bus.Over)
  (finite : ∀ timeout ∈ timeouts, 1 ≤ timeout)
  (room : host.link.clock.now.toNat +
    spentIntervals host.config.interval timeouts * host.config.interval.toNat < UInt64.size)
include initialized past finite room

/-- Waits are given up as long as there are more looks to come than they take. -/
theorem spent (run : GivenUp host timeouts after) :
    spentLooks host.config.interval timeouts ≤ host.link.bus.pending.toNat ∧
    ∃ clock : Clock, clock.now.toNat = host.link.clock.now.toNat +
        spentIntervals host.config.interval timeouts * host.config.interval.toNat ∧
      after = host.resigned timeouts clock := by
  induction run with
  | @nil host =>
    refine ⟨Nat.zero_le _, host.link.clock, by simp [spentIntervals], ?_⟩
    exact host.resigned_nil.symm
  | @cons host middle after timeout rest step _ ih =>
    obtain ⟨first, others⟩ := List.forall_mem_cons.mp finite
    rw [spentIntervals, Nat.add_mul] at room ⊢
    rcases Nat.lt_or_ge (intervals host.config.interval timeout) host.link.bus.pending.toNat with
      late | soon
    · obtain ⟨between, reading, steps⟩ :=
        Host.wait_step_of_late initialized past (by omega) first late
      obtain ⟨_, rfl⟩ := (steps _ _).mp step
      have left := host.toNat_pending_gaveUp timeout between
      -- What the first wait leaves of the latency and of the clock is there for the others.
      obtain ⟨held, clock, last, same⟩ := ih initialized past others (by
        show between.now.toNat + _ < _
        rw [reading, Nat.add_assoc]
        exact room)
      have fewer : spentLooks host.config.interval rest ≤
        (host.gaveUp timeout between).link.bus.pending.toNat := held
      refine ⟨?_, clock, ?_, same.trans (host.resigned_cons timeout rest between clock)⟩
      · rw [spentLooks]
        omega
      · rw [last, ← Nat.add_assoc]
        exact congrArg (· + _) reading
    · obtain ⟨_, _, steps⟩ := Host.wait_step_of_soon initialized past (by omega) soon
      cases ((steps _ _).mp step).1

theorem exists_of_held (held : spentLooks host.config.interval timeouts ≤ host.link.bus.pending.toNat) :
    ∃ after, GivenUp host timeouts after := by
  induction timeouts generalizing host with
  | nil => exact ⟨host, .nil⟩
  | cons timeout rest ih =>
    obtain ⟨first, others⟩ := List.forall_mem_cons.mp finite
    rw [spentIntervals, Nat.add_mul] at room
    rw [spentLooks] at held
    obtain ⟨between, reading, steps⟩ :=
      Host.wait_step_of_late initialized past (by omega) first (by omega)
    have left := host.toNat_pending_gaveUp timeout between
    have roomRest : between.now.toNat +
        spentIntervals host.config.interval rest * host.config.interval.toNat < UInt64.size := by
      rw [reading, Nat.add_assoc]
      exact room
    have heldRest : spentLooks host.config.interval rest ≤
        (host.gaveUp timeout between).link.bus.pending.toNat := by
      omega
    obtain ⟨after, run⟩ := @ih (host.gaveUp timeout between) initialized past others roomRest heldRest
    exact ⟨after, .cons ((steps _ _).mpr ⟨rfl, rfl⟩) run⟩

/-- The wait after those that were given up has what they have left. -/
theorem next (run : GivenUp host timeouts after) {timeout : UInt64} (last : 1 ≤ timeout)
    (further : host.link.clock.now.toNat + (intervals host.config.interval timeout +
      spentIntervals host.config.interval timeouts) * host.config.interval.toNat < UInt64.size) :
    if host.link.bus.pending.toNat ≤
        spentLooks host.config.interval timeouts + intervals host.config.interval timeout then
      ∃ done, (Operation.wait timeout).Step after (.ok .finished) done ∧
        Polled host.config.interval
          (host.link.bus.pending.toNat - spentLooks host.config.interval timeouts) after done ∧
        done.context = { host.completed with lastError := after.context.lastError }
    else
      ∃ later, (Operation.wait timeout).Step after (.error (.timeout timeout)) later ∧
        Polled host.config.interval (intervals host.config.interval timeout) after later ∧
        later.state = host.state ∧ later.context.lastError = some (-3) := by
  obtain ⟨_, clock, reading, rfl⟩ := run.spent initialized past finite room
  have left : (host.resigned timeouts clock).link.bus.pending.toNat =
      host.link.bus.pending.toNat - spentLooks host.config.interval timeouts :=
    host.link.bus.toNat_pending_glanced _
  have here : clock.now.toNat +
      intervals host.config.interval timeout * host.config.interval.toNat < UInt64.size := by
    rw [Nat.add_mul] at further
    omega
  split
  case isTrue soon =>
    have soon : (host.resigned timeouts clock).link.bus.pending.toNat ≤
        intervals host.config.interval timeout := by omega
    obtain ⟨_, time, steps⟩ :=
      @Host.wait_step_of_soon (host.resigned timeouts clock) timeout initialized past here soon
    rw [left] at time
    refine ⟨_, (steps _ _).mpr ⟨rfl, rfl⟩, ⟨time, ?_⟩, rfl⟩
    rw [← left]
    rfl
  case isFalse late =>
    have late : intervals host.config.interval timeout <
        (host.resigned timeouts clock).link.bus.pending.toNat := by omega
    obtain ⟨_, time, steps⟩ :=
      @Host.wait_step_of_late (host.resigned timeouts clock) timeout initialized past here last late
    exact ⟨_, (steps _ _).mpr ⟨rfl, rfl⟩, ⟨time, rfl⟩, rfl, rfl⟩

end GivenUp

theorem Simulator.over_launched {sim : Simulator} (lowered : Lowered 0 (sim.peek .ctrl))
    (ends : sim.hang = false) (sound : sim.fault = none) :
    Over sim.launched ∧ sim.launched.pending = sim.latency := by
  have completes : sim.programIrq = Irq.done := by simp [programIrq, ends, sound]
  have status : sim.ending = doneStatus := by simp [ending, ends, sound]
  obtain ⟨cleared, run, _, rest⟩ := exists_cleared lowered
  have same : cleared.programIrq = sim.programIrq := by
    rw [rest]
    rfl
  refine ⟨(runOnce_launched lowered).status.trans status, ?_⟩
  rw [run, pending_runProgram (same.trans completes)]
  exact congrArg (·.latency) rest

/-- Waits that are given up share the latency of the program with the wait that meets its end. This
takes the host to the same results whatever the waits were. -/
theorem waits_share_latency {profile : Profile} {host started : Host Simulator} {reply : Reply}
    (reached : Reachable (fun sim => Simulator.ofProfile profile = .ok sim) Simulator.Altered host)
    (ends : host.link.bus.hang = false) (sound : host.link.bus.fault = none)
    (launch : Operation.start.Step host (.ok reply) started) {earlier : List UInt64} {timeout : UInt64}
    (finite : ∀ time ∈ timeout :: earlier, 1 ≤ time)
    (room : started.link.clock.now.toNat + spentIntervals started.config.interval (timeout :: earlier) *
      started.config.interval.toNat < UInt64.size) :
    let interval := started.config.interval
    let latency := host.link.bus.latency.toNat
    let spent := spentLooks interval earlier
    ((∃ waiting, GivenUp started earlier waiting) ↔ spent ≤ latency) ∧
    ∀ waiting, GivenUp started earlier waiting →
      if latency ≤ spent + intervals interval timeout then
        ∃ after, (Operation.wait timeout).Step waiting (.ok .finished) after ∧
          Polled interval (latency - spent) waiting after ∧
          after.context = { started.completed with lastError := waiting.context.lastError }
      else
        ∃ after, (Operation.wait timeout).Step waiting (.error (.timeout timeout)) after ∧
          Polled interval (intervals interval timeout) waiting after ∧
          after.state = .running ∧ after.context.lastError = some (-3) := by
  intro interval latency spent
  obtain ⟨bus, _, running⟩ := Host.start_ok launch
  obtain ⟨past, pending⟩ := Simulator.over_launched reached.inOrder.lowered ends sound
  rw [← bus] at past pending
  have initialized : started.state.isInitialized = true := by
    rw [running]
    rfl
  have held : started.link.bus.pending.toNat = latency := congrArg UInt32.toNat pending
  obtain ⟨last, others⟩ := List.forall_mem_cons.mp finite
  rw [spentIntervals] at room
  have before : started.link.clock.now.toNat + spentIntervals started.config.interval earlier *
      started.config.interval.toNat < UInt64.size := by
    rw [Nat.add_mul] at room
    omega
  constructor
  · constructor
    · rintro ⟨waiting, run⟩
      exact held ▸ (run.spent initialized past others before).1
    · intro enough
      exact GivenUp.exists_of_held initialized past others before (held ▸ enough)
  · intro waiting run
    have next := run.next initialized past others before last room
    rwa [held, running] at next

/-- Two waits of three intervals and of one take six of seven looks, and the last look is left to a
wait that is shorter than an interval. -/
theorem three_waits_share_latency :
    ∃ (host started waiting after : Host Simulator) (reply : Reply),
      host.link.bus.latency = 7 ∧ Operation.start.Step host (.ok reply) started ∧
      GivenUp started [25, 1] waiting ∧ (Operation.wait 5).Step waiting (.ok .finished) after ∧
      Polled 10 1 waiting after ∧ after.state = .done ∧
      after.context.lastError = waiting.context.lastError := by
  let host : Host Simulator :=
    { attendedHost with link.bus := { attendedHost.link.bus with latency := 7 } }
  let started := (Operation.start.perform host).2
  have run : (Operation.start.perform host).1.isOk = true ∧ started.config.interval = 10 ∧
      started.link.clock.now = 0 := by
    decide +kernel
  obtain ⟨ok, interval, clock⟩ := run
  obtain ⟨reply, launch⟩ : ∃ reply, Operation.start.Step host (.ok reply) started :=
    Operation.exists_reply _ _ ok
  have slow : Simulator.Altered attendedHost.link.bus host.link.bus :=
    (Simulator.Rescripted.script _ _ _ _ _).altered
  have reached : Reachable (fun sim => Simulator.ofProfile smallProfile = .ok sim) Simulator.Altered
      host := .alter (attendedHost_reachable _) slow
  have finite : ∀ time ∈ [(5 : UInt64), 25, 1], 1 ≤ time := by
    simp only [List.mem_cons, List.not_mem_nil, or_false]
    rintro time (rfl | rfl | rfl) <;> decide
  have room : started.link.clock.now.toNat + spentIntervals started.config.interval [5, 25, 1] *
      started.config.interval.toNat < UInt64.size := by
    rw [interval, clock]
    decide
  obtain ⟨possible, next⟩ := waits_share_latency reached rfl rfl launch finite room
  rw [interval] at possible next
  obtain ⟨waiting, waits⟩ := possible.mpr (by decide)
  obtain ⟨after, step, polled, context⟩ := (if_pos (by decide)).mp (next waiting waits)
  refine ⟨host, started, waiting, after, reply, rfl, launch, waits, step, polled, ?_, ?_⟩
  · exact congrArg Context.state context
  · rw [context]

end NpuStack
