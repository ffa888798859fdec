import NpuStack.Proofs.Host.Polling

/-! When a poll ends. Its looks at the device are one interval apart: the first
answer ends it, or the first unanswered look at the deadline or after it. Without
a deadline only an answer does. -/

set_option autoImplicit false

namespace NpuStack

namespace Clock

theorem toNat_delay_eq (clock : Clock) (microseconds : UInt64) :
    (clock.delay microseconds).now.toNat =
      min (clock.now.toNat + microseconds.toNat) (UInt64.size - 1) := by
  unfold delay
  split
  case isTrue fits =>
    rw [UInt64.toNat_add, Nat.mod_eq_of_lt fits]
    exact (Nat.min_eq_left (Nat.le_sub_one_of_lt fits)).symm
  case isFalse full =>
    have last : (0xFFFFFFFFFFFFFFFF : UInt64).toNat = UInt64.size - 1 := rfl
    exact last.trans (Nat.min_eq_right (by omega)).symm

def ticked (clock : Clock) (interval : UInt64) : Nat → Clock
  | 0 => clock
  | count + 1 => (clock.delay interval).ticked interval count

theorem toNat_ticked (clock : Clock) (interval : UInt64) (count : Nat) :
    (clock.ticked interval count).now.toNat =
      min (clock.now.toNat + count * interval.toNat) (UInt64.size - 1) := by
  induction count generalizing clock with
  | zero =>
    have last : clock.now.toNat < UInt64.size := clock.now.toNat_lt
    rw [Nat.zero_mul, Nat.add_zero]
    exact (Nat.min_eq_left (Nat.le_sub_one_of_lt last)).symm
  | succ count ih =>
    -- A clock that has stopped at its last reading stays there.
    rw [ticked, ih, toNat_delay_eq, Nat.succ_mul]
    omega

end Clock

namespace Probe

variable {σ α : Type}

def after (probe : Probe σ α) : Nat → σ → σ
  | 0, device => device
  | looks + 1, device => probe.after looks (probe device).2

def answer? (probe : Probe σ α) (earlier : Nat) (device : σ) : Option (Except HostError α) :=
  (probe (probe.after earlier device)).1

/-- Of so many looks the last one is answered, and no other. -/
structure FirstAnswer (probe : Probe σ α) (looks : Nat) (answer : Except HostError α) (device : σ) :
    Prop where
  some : 1 ≤ looks
  quiet : ∀ earlier < looks - 1, probe.answer? earlier device = none
  answered : probe.answer? (looks - 1) device = .some answer

def intervals (interval timeout : UInt64) : Nat :=
  (timeout.toNat + interval.toNat - 1) / interval.toNat

/-- How a poll has ended: its result, after a number of looks with one interval between any two. -/
structure EndsAfter (probe : Probe σ α) (interval : UInt64) (clock : Clock) (device : σ) (looks : Nat)
    (result : Attempt HostError α) (run : Attempt HostError α × Clock × σ) : Prop where
  result : run.1 = result
  clock : run.2.1.now.toNat =
    min (clock.now.toNat + (looks - 1) * interval.toNat) (UInt64.size - 1)
  device : run.2.2 = probe.after looks device

variable {probe : Probe σ α} {interval timeout started : UInt64} {clock : Clock} {device : σ}
  {looks fuel patience : Nat}

theorem after_succ (probe : Probe σ α) (looks : Nat) (device : σ) :
    probe.after (looks + 1) device = (probe (probe.after looks device)).2 := by
  induction looks generalizing device with
  | zero => rfl
  | succ looks ih => exact ih _

/-- Looks that are all unanswered, unless one of them is the first to be answered. -/
theorem quiet_of_late (late : ∀ looks answer, probe.FirstAnswer looks answer device → fuel < looks) :
    ∀ earlier < fuel, probe.answer? earlier device = none := by
  intro earlier
  induction earlier using Nat.strongRecOn with
  | ind earlier ih =>
    intro inside
    cases shown : probe.answer? earlier device with
    | none => rfl
    | some answer =>
      have first : probe.FirstAnswer (earlier + 1) answer device :=
        ⟨Nat.succ_pos _, fun before below => ih before below (Nat.lt_trans below inside), shown⟩
      exact absurd (late _ _ first) (Nat.not_lt.mpr inside)

theorem FirstAnswer.unique {other : Nat} {answer reply : Except HostError α}
    (first : probe.FirstAnswer looks answer device) (second : probe.FirstAnswer other reply device) :
    looks = other := by
  have before := first.some
  have behind := second.some
  rcases Nat.lt_trichotomy looks other with less | same | more
  · have silent := second.quiet (looks - 1) (by omega)
    rw [first.answered] at silent
    cases silent
  · exact same
  · have silent := first.quiet (other - 1) (by omega)
    rw [second.answered] at silent
    cases silent

section Intervals

theorem one_le_interval (interval : UInt64) : 1 ≤ max interval 1 :=
  UInt64.le_iff_toNat_le.mpr (Nat.pos_of_ne_zero fun zero =>
    interval_ne_zero interval (UInt64.toNat_inj.mp zero))

theorem intervals_le_iff (positive : 1 ≤ interval) {count : Nat} :
    intervals interval timeout ≤ count ↔ timeout.toNat ≤ count * interval.toNat := by
  have step : 0 < interval.toNat := UInt64.le_iff_toNat_le.mp positive
  unfold intervals
  rw [Nat.div_le_iff_le_mul_add_pred step, Nat.mul_comm]
  omega

/-- The deadline is passed as soon as its intervals are. -/
theorem late_iff (positive : 1 ≤ interval)
    (room : timeout.toNat ≤ UInt64.size - 1 - clock.now.toNat) {count : Nat} :
    timeout ≤ (clock.ticked interval count).since clock.now ↔ intervals interval timeout ≤ count := by
  have reading := clock.toNat_ticked interval count
  have last : clock.now.toNat < UInt64.size := clock.now.toNat_lt
  have later : clock.now ≤ (clock.ticked interval count).now :=
    UInt64.le_iff_toNat_le.mpr (by omega)
  rw [Clock.since, if_pos later, UInt64.le_iff_toNat_le, UInt64.toNat_sub_of_le _ _ later, reading,
    intervals_le_iff positive]
  omega

end Intervals

section Loop

/-- Looks that are unanswered and before the deadline are passed over. -/
theorem loop_ticks (quiet : ∀ earlier < looks, probe.answer? earlier device = none)
    (early : ∀ earlier < looks,
      ¬(timeout ≠ 0 ∧ timeout ≤ (clock.ticked interval earlier).since started)) :
    probe.loop interval timeout started (fuel + looks) clock device =
      probe.loop interval timeout started fuel (clock.ticked interval looks)
        (probe.after looks device) := by
  induction looks generalizing clock device with
  | zero => rfl
  | succ looks ih =>
    have silent : (probe device).1 = none := quiet 0 (Nat.succ_pos _)
    have look : probe device = (none, (probe device).2) := Prod.ext silent rfl
    have soon : ¬(timeout ≠ 0 ∧ timeout ≤ clock.since started) := early 0 (Nat.succ_pos _)
    rw [← Nat.add_assoc, loop, look]
    dsimp only
    rw [if_neg soon]
    exact ih (fun earlier below => quiet (earlier + 1) (Nat.succ_lt_succ below))
      fun earlier below => early (earlier + 1) (Nat.succ_lt_succ below)

theorem loop_answered {answer : Except HostError α}
    (first : probe.FirstAnswer looks answer device) (enough : looks ≤ fuel)
    (early : ∀ earlier < looks - 1,
      ¬(timeout ≠ 0 ∧ timeout ≤ (clock.ticked interval earlier).since started)) :
    probe.EndsAfter interval clock device looks (answer.mapError .error)
      (probe.loop interval timeout started fuel clock device) := by
  obtain ⟨some, quiet, answered⟩ := first
  obtain ⟨earlier, rfl⟩ : ∃ earlier, looks = earlier + 1 := ⟨looks - 1, by omega⟩
  obtain ⟨more, rfl⟩ : ∃ more, fuel = more + 1 + earlier := ⟨fuel - (earlier + 1), by omega⟩
  rw [Nat.add_sub_cancel] at quiet answered early
  have look : probe (probe.after earlier device) =
      (.some answer, probe.after (earlier + 1) device) :=
    Prod.ext answered (after_succ probe earlier device).symm
  rw [loop_ticks quiet early, loop, look]
  cases answer <;> exact ⟨rfl, Clock.toNat_ticked _ _ _, rfl⟩

theorem loop_expired (quiet : ∀ earlier < looks + 1, probe.answer? earlier device = none)
    (early : ∀ earlier < looks,
      ¬(timeout ≠ 0 ∧ timeout ≤ (clock.ticked interval earlier).since started))
    (late : timeout ≠ 0 ∧ timeout ≤ (clock.ticked interval looks).since started)
    (enough : looks < fuel) :
    probe.EndsAfter interval clock device (looks + 1) (.error (.error (.timeout timeout)))
      (probe.loop interval timeout started fuel clock device) := by
  obtain ⟨more, rfl⟩ : ∃ more, fuel = more + 1 + looks := ⟨fuel - (looks + 1), by omega⟩
  have look : probe (probe.after looks device) = (none, probe.after (looks + 1) device) :=
    Prod.ext (quiet looks (Nat.lt_succ_self _)) (after_succ probe looks device).symm
  rw [loop_ticks (fun earlier below => quiet earlier (Nat.lt_succ_of_lt below)) early, loop, look]
  dsimp only
  rw [if_pos late]
  exact ⟨rfl, Clock.toNat_ticked _ _ _, rfl⟩

end Loop

section Poll

theorem budget_eq (interval timeout : UInt64) (patience : Nat) :
    budget interval timeout patience = intervals interval timeout + 1 + patience := rfl

variable (positive : 1 ≤ interval) (room : timeout.toNat ≤ UInt64.size - 1 - clock.now.toNat)
include positive room

theorem poll_first_answer {answer : Except HostError α}
    (first : probe.FirstAnswer looks answer device) (timely : looks ≤ intervals interval timeout + 1) :
    probe.EndsAfter interval clock device looks (answer.mapError .error)
      (probe.poll interval timeout patience clock device) := by
  refine loop_answered first (by rw [budget_eq]; omega) fun earlier below late => ?_
  have := (late_iff positive room).mp late.2
  omega

theorem poll_expires (finite : 1 ≤ timeout)
    (late : ∀ looks answer, probe.FirstAnswer looks answer device →
      intervals interval timeout + 1 < looks) :
    probe.EndsAfter interval clock device (intervals interval timeout + 1)
      (.error (.error (.timeout timeout))) (probe.poll interval timeout patience clock device) := by
  have given : timeout ≠ 0 := by
    rintro rfl
    exact absurd finite (by decide)
  refine loop_expired (quiet_of_late late) (fun earlier below passed => ?_)
    ⟨given, (late_iff positive room).mpr (Nat.le_refl _)⟩ (by rw [budget_eq]; omega)
  exact Nat.not_le.mpr below ((late_iff positive room).mp passed.2)

end Poll

section Endless

theorem budget_zero (positive : 1 ≤ interval) (patience : Nat) :
    budget interval 0 patience = patience + 1 := by
  have none : intervals interval 0 = 0 := Nat.le_zero.mp ((intervals_le_iff positive).mpr (by simp))
  rw [budget_eq, none]
  omega

theorem poll_first_answer_endless {answer : Except HostError α} (positive : 1 ≤ interval)
    (first : probe.FirstAnswer looks answer device) (borne : looks ≤ patience + 1) :
    probe.EndsAfter interval clock device looks (answer.mapError .error)
      (probe.poll interval 0 patience clock device) :=
  loop_answered first (by rwa [budget_zero positive]) fun _ _ late => late.1 rfl

theorem poll_endless (positive : 1 ≤ interval)
    (late : ∀ looks answer, probe.FirstAnswer looks answer device → patience + 1 < looks) :
    (probe.poll interval 0 patience clock device).1 = .error (.trap .endlessWait) := by
  unfold poll
  rw [budget_zero positive, ← Nat.zero_add (patience + 1),
    loop_ticks (quiet_of_late late) fun _ _ passed => passed.1 rfl]
  rfl

end Endless

/-- A poll with a deadline is over at its first answer, if this comes with the first look at the
deadline or after it at the latest, and else at that look. A poll without a deadline is over at its
first answer, and as long as there is none it goes on for as many looks as it is given. -/
theorem poll_ends_in_time (probe : Probe σ α) {interval : UInt64} (positive : 1 ≤ interval)
    (clock : Clock) (device : σ) (patience : Nat) :
    (∀ timeout : UInt64, 1 ≤ timeout → timeout.toNat ≤ UInt64.size - 1 - clock.now.toNat →
      (∀ looks answer, probe.FirstAnswer looks answer device →
        looks ≤ intervals interval timeout + 1 →
        probe.EndsAfter interval clock device looks (answer.mapError .error)
          (probe.poll interval timeout patience clock device)) ∧
      ((∀ looks answer, probe.FirstAnswer looks answer device →
          intervals interval timeout + 1 < looks) →
        probe.EndsAfter interval clock device (intervals interval timeout + 1)
          (.error (.error (.timeout timeout)))
          (probe.poll interval timeout patience clock device) ∧
        clock.now.toNat + timeout.toNat ≤
          (probe.poll interval timeout patience clock device).2.1.now.toNat ∧
        (probe.poll interval timeout patience clock device).2.1.now.toNat <
          clock.now.toNat + timeout.toNat + interval.toNat)) ∧
    (∀ looks answer, probe.FirstAnswer looks answer device → looks ≤ patience + 1 →
      probe.EndsAfter interval clock device looks (answer.mapError .error)
        (probe.poll interval 0 patience clock device)) ∧
    ((∀ looks answer, probe.FirstAnswer looks answer device → patience + 1 < looks) →
      (probe.poll interval 0 patience clock device).1 = .error (.trap .endlessWait)) := by
  refine ⟨fun timeout finite room => ⟨fun looks answer => poll_first_answer positive room,
    fun late => ?_⟩, fun looks answer => poll_first_answer_endless positive, poll_endless positive⟩
  have ended := @poll_expires _ _ probe interval timeout clock device patience positive room finite late
  have reading := ended.clock
  have last : clock.now.toNat < UInt64.size := clock.now.toNat_lt
  rw [Nat.add_sub_cancel] at reading
  refine ⟨ended, ?_, ?_⟩
  · have reached := (intervals_le_iff positive).mp (Nat.le_refl (intervals interval timeout))
    omega
  · have short : (intervals interval timeout - 1) * interval.toNat < timeout.toNat := by
      have some : 0 < timeout.toNat := UInt64.le_iff_toNat_le.mp finite
      rw [← Nat.not_le, ← intervals_le_iff positive]
      intro fewer
      have none : intervals interval timeout = 0 := by omega
      have := (intervals_le_iff positive).mp (Nat.le_of_eq none)
      omega
    rw [Nat.sub_mul, Nat.one_mul] at short
    omega

def countdown : Probe Nat Unit := fun left => (if left = 0 then some (.ok ()) else none, left - 1)

/-- Three intervals of three microseconds reach a deadline of seven, although the clock stops there.
An answer to the fourth look is in time, one to the fifth is not, unless there is no deadline. -/
theorem countdown_ends_in_time :
    let clock : Clock := ⟨18446744073709551608⟩
    countdown.FirstAnswer 4 (.ok ()) 3 ∧ countdown.FirstAnswer 5 (.ok ()) 4 ∧
    countdown.EndsAfter 3 clock 3 4 (.ok ()) (countdown.poll 3 7 0 clock 3) ∧
    countdown.EndsAfter 3 clock 4 4 (.error (.error (.timeout 7))) (countdown.poll 3 7 0 clock 4) ∧
    countdown.EndsAfter 3 clock 4 5 (.ok ()) (countdown.poll 3 0 4 clock 4) := by
  intro clock
  have silent : (∀ earlier < 3, (countdown.answer? earlier 3).isNone = true) ∧
      ∀ earlier < 4, (countdown.answer? earlier 4).isNone = true := by decide
  have soon : countdown.FirstAnswer 4 (.ok ()) 3 :=
    ⟨by decide, fun earlier below => Option.isNone_iff_eq_none.mp (silent.1 earlier below), rfl⟩
  have later : countdown.FirstAnswer 5 (.ok ()) 4 :=
    ⟨by decide, fun earlier below => Option.isNone_iff_eq_none.mp (silent.2 earlier below), rfl⟩
  have late (looks : Nat) (answer : Except HostError Unit)
      (first : countdown.FirstAnswer looks answer 4) : intervals 3 7 + 1 < looks := by
    refine Nat.lt_of_not_le fun early => ?_
    have inside : looks - 1 < 4 := by
      have : intervals 3 7 + 1 = 4 := rfl
      have := first.some
      omega
    have none := silent.2 _ inside
    rw [first.answered] at none
    cases none
  obtain ⟨deadline, _, _⟩ := poll_ends_in_time countdown (show 1 ≤ 3 by decide) clock 3 0
  obtain ⟨passed, _, _⟩ := poll_ends_in_time countdown (show 1 ≤ 3 by decide) clock 4 0
  obtain ⟨_, patient, _⟩ := poll_ends_in_time countdown (show 1 ≤ 3 by decide) clock 4 4
  exact ⟨soon, later, (deadline 7 (by decide) (by decide)).1 4 _ soon (by decide),
    ((passed 7 (by decide) (by decide)).2 late).1, patient 5 _ later (by decide)⟩

end Probe

namespace Link

variable {β α : Type} [Bus β] {probe : Probe β α} {interval timeout : UInt64} {link : Link β}
  {looks : Nat}

/-- A poll over a link, by how it ends. -/
theorem poll_of_ends {result : Attempt HostError α}
    (ended : probe.EndsAfter interval link.clock link.bus looks result
      (probe.poll interval timeout (Bus.patience link.bus) link.clock link.bus)) :
    ∃ clock : Clock, clock.now.toNat =
        min (link.clock.now.toNat + (looks - 1) * interval.toNat) (UInt64.size - 1) ∧
      poll interval timeout probe link = (result, ⟨probe.after looks link.bus, clock⟩) := by
  obtain ⟨answer, reading, device⟩ := ended
  refine ⟨_, reading, ?_⟩
  rw [← answer, ← device]
  rfl

variable (positive : 1 ≤ interval) (room : timeout.toNat ≤ UInt64.size - 1 - link.clock.now.toNat)
include positive room

theorem poll_first_answer {answer : Except HostError α} (first : probe.FirstAnswer looks answer link.bus)
    (timely : looks ≤ Probe.intervals interval timeout + 1) :
    ∃ clock : Clock, clock.now.toNat =
        min (link.clock.now.toNat + (looks - 1) * interval.toNat) (UInt64.size - 1) ∧
      poll interval timeout probe link =
        (answer.mapError .error, ⟨probe.after looks link.bus, clock⟩) :=
  poll_of_ends (Probe.poll_first_answer positive room first timely)

theorem poll_expires (finite : 1 ≤ timeout)
    (late : ∀ looks answer, probe.FirstAnswer looks answer link.bus →
      Probe.intervals interval timeout + 1 < looks) :
    ∃ clock : Clock, clock.now.toNat =
        min (link.clock.now.toNat + Probe.intervals interval timeout * interval.toNat)
          (UInt64.size - 1) ∧
      poll interval timeout probe link = (.error (.error (.timeout timeout)),
        ⟨probe.after (Probe.intervals interval timeout + 1) link.bus, clock⟩) :=
  poll_of_ends (Probe.poll_expires positive room finite late)

end Link

end NpuStack
