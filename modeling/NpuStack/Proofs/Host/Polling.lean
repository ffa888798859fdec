import NpuStack.Host.Bus

/-! What a poll can end with: an answer of its probe, or its deadline. A probe
that answers before the deadline has the last word. -/

set_option autoImplicit false

namespace NpuStack

/-- Time does not run faster than it is let pass. -/
theorem Clock.since_delay_le (clock : Clock) (earlier microseconds : UInt64) :
    ((clock.delay microseconds).since earlier).toNat ≤
      (clock.since earlier).toNat + microseconds.toNat := by
  have reading : (clock.delay microseconds).now.toNat ≤ clock.now.toNat + microseconds.toNat := by
    unfold delay
    split
    · rw [UInt64.toNat_add]
      exact Nat.mod_le _ _
    case isFalse full =>
      have last : (0xFFFFFFFFFFFFFFFF : UInt64).toNat < UInt64.size := UInt64.toNat_lt _
      show (0xFFFFFFFFFFFFFFFF : UInt64).toNat ≤ _
      omega
  unfold since
  split
  case isTrue later =>
    rw [UInt64.toNat_sub_of_le _ _ later]
    split
    case isTrue known =>
      have := UInt64.le_iff_toNat_le.mp known
      rw [UInt64.toNat_sub_of_le _ _ known]
      omega
    case isFalse unknown =>
      have := UInt64.lt_iff_toNat_lt.mp (UInt64.not_le.mp unknown)
      rw [UInt64.toNat_zero]
      omega
  case isFalse => exact Nat.zero_le _

/-- A clock that has not reached its last reading moves by what it is let pass. -/
theorem Clock.le_since_delay (clock : Clock) {earlier microseconds : UInt64} {limit : Nat}
    (later : earlier ≤ clock.now) (room : earlier.toNat + limit < UInt64.size) :
    earlier ≤ (clock.delay microseconds).now ∧
    min limit ((clock.since earlier).toNat + microseconds.toNat) ≤
      ((clock.delay microseconds).since earlier).toNat := by
  have ordered := UInt64.le_iff_toNat_le.mp later
  have reading : min (earlier.toNat + limit) (clock.now.toNat + microseconds.toNat) ≤
      (clock.delay microseconds).now.toNat := by
    unfold delay
    split
    case isTrue fits =>
      rw [UInt64.toNat_add, Nat.mod_eq_of_lt fits]
      exact Nat.min_le_right _ _
    case isFalse =>
      have last : (0xFFFFFFFFFFFFFFFF : UInt64).toNat + 1 = UInt64.size := rfl
      show _ ≤ (0xFFFFFFFFFFFFFFFF : UInt64).toNat
      omega
  have still : earlier ≤ (clock.delay microseconds).now := by
    rw [UInt64.le_iff_toNat_le]
    omega
  refine ⟨still, ?_⟩
  rw [since, if_pos later, since, if_pos still, UInt64.toNat_sub_of_le _ _ later,
    UInt64.toNat_sub_of_le _ _ still]
  omega

namespace Probe

variable {σ α : Type} {probe : Probe σ α}

/-- A configured interval is raised to one, so that time passes between two looks. -/
theorem interval_ne_zero (interval : UInt64) : max interval 1 ≠ 0 := by
  show (if interval ≤ 1 then 1 else interval) ≠ 0
  split
  case isTrue => decide
  case isFalse more =>
    intro zero
    exact more (zero ▸ by decide)

theorem budget_succ (interval timeout : UInt64) (patience : Nat) :
    budget interval timeout patience =
      (timeout.toNat + interval.toNat - 1) / interval.toNat + patience + 1 :=
  Nat.add_right_comm _ _ _

/-- A poll that is answered at the first look takes no time. -/
theorem poll_answered {answer : Except HostError α} {device next : σ}
    (look : probe device = (some answer, next)) (interval timeout : UInt64) (patience : Nat)
    (clock : Clock) : probe.poll interval timeout patience clock device =
      (answer.mapError .error, clock, next) := by
  unfold poll
  rw [budget_succ, loop, look]
  cases answer <;> rfl

theorem loop_cause {fails : HostError → Prop}
    (known : ∀ device cause, (probe device).1 = some (.error cause) → fails cause)
    {interval timeout started : UInt64} {fuel : Nat} {clock : Clock} {device : σ} {cause : HostError}
    (failed : (probe.loop interval timeout started fuel clock device).1 = .error (.error cause)) :
    fails cause ∨ cause = .timeout timeout := by
  induction fuel generalizing clock device with
  | zero => cases failed
  | succ fuel ih =>
    unfold loop at failed
    split at failed
    case h_1 => cases failed
    case h_2 answer seen =>
      cases failed
      exact .inl (known device cause (congrArg Prod.fst seen))
    case h_3 =>
      split at failed
      · cases failed
        exact .inr rfl
      · exact ih failed

section Quiet

variable {quiet : σ → Prop} {device : σ} {interval timeout started : UInt64} {fuel : Nat}
  {clock : Clock}
  (unanswered : ∀ device, quiet device → ∃ next, probe device = (none, next) ∧ quiet next)
include unanswered

/-- A look at the deadline or after it is the last one, and the looks are enough to get there. -/
theorem loop_expires (here : quiet device) (finite : timeout ≠ 0) (later : started ≤ clock.now)
    (room : started.toNat + timeout.toNat < UInt64.size)
    (enough : timeout.toNat ≤ (clock.since started).toNat + fuel * interval.toNat) :
    ∃ clock' device', probe.loop interval timeout started (fuel + 1) clock device =
      (.error (.error (.timeout timeout)), clock', device') ∧ quiet device' := by
  obtain ⟨next, look, still⟩ := unanswered device here
  induction fuel generalizing clock device next with
  | zero =>
    have late : timeout ≤ clock.since started := UInt64.le_iff_toNat_le.mpr (by omega)
    exact ⟨clock, next, by rw [loop, look]; exact if_pos ⟨finite, late⟩, still⟩
  | succ fuel ih =>
    rw [loop, look]
    dsimp only
    split
    · exact ⟨clock, next, rfl, still⟩
    · obtain ⟨after, moved⟩ := clock.le_since_delay later room
      obtain ⟨further, again, silent⟩ := unanswered next still
      rw [Nat.succ_mul] at enough
      exact ih still after (by omega) further again silent

/-- A deadline past the last reading of the clock is never reached. -/
theorem loop_endless (here : quiet device) (far : UInt64.size ≤ started.toNat + timeout.toNat) :
    ∃ clock' device', probe.loop interval timeout started fuel clock device =
      (.error (.trap .endlessWait), clock', device') ∧ quiet device' := by
  induction fuel generalizing clock device with
  | zero => exact ⟨clock, device, rfl, here⟩
  | succ fuel ih =>
    obtain ⟨next, look, still⟩ := unanswered device here
    have early : ¬(timeout ≠ 0 ∧ timeout ≤ clock.since started) := by
      rintro ⟨_, late⟩
      have late := UInt64.le_iff_toNat_le.mp late
      have last : clock.now.toNat < UInt64.size := clock.now.toNat_lt
      unfold Clock.since at late
      split at late
      case isTrue later =>
        have ordered := UInt64.le_iff_toNat_le.mp later
        rw [UInt64.toNat_sub_of_le _ _ later] at late
        omega
      case isFalse earlier =>
        have behind := UInt64.lt_iff_toNat_lt.mp (UInt64.not_le.mp earlier)
        have first : started.toNat < UInt64.size := started.toNat_lt
        rw [UInt64.toNat_zero] at late
        omega
    rw [loop, look]
    dsimp only
    rw [if_neg early]
    exact ih still

/-- A poll that is never answered ends at its deadline, if the clock can get there. -/
theorem poll_quiet (here : quiet device) (positive : interval ≠ 0) (finite : timeout ≠ 0)
    (patience : Nat) :
    ∃ clock' device', probe.poll interval timeout patience clock device =
      (.error (if clock.now.toNat + timeout.toNat < UInt64.size then .error (.timeout timeout)
        else .trap .endlessWait), clock', device') ∧ quiet device' := by
  let fuel := (timeout.toNat + interval.toNat - 1) / interval.toNat + patience
  unfold Probe.poll
  rw [budget_succ]
  split
  case isTrue room =>
    have step : 0 < interval.toNat :=
      Nat.pos_of_ne_zero fun zero => positive (UInt64.toNat_inj.mp zero)
    have enough : timeout.toNat ≤ (clock.since clock.now).toNat + fuel * interval.toNat := by
      have whole := Nat.div_add_mod (timeout.toNat + interval.toNat - 1) interval.toNat
      have rest := Nat.mod_lt (timeout.toNat + interval.toNat - 1) step
      have more : (timeout.toNat + interval.toNat - 1) / interval.toNat * interval.toNat ≤
          fuel * interval.toNat := Nat.mul_le_mul_right _ (Nat.le_add_right _ _)
      rw [Nat.mul_comm] at whole
      omega
    exact loop_expires unanswered here finite (UInt64.le_refl _) room enough
  case isFalse far => exact loop_endless unanswered here (Nat.le_of_not_lt far)

end Quiet

/-- A device that leaves a number of looks unanswered and then gives a value. -/
inductive Answers (probe : Probe σ α) (value : α) (after : σ) : (looks : Nat) → σ → Prop where
  | now {device : σ} : probe device = (some (.ok value), after) → Answers probe value after 0 device
  | later {device next : σ} {looks : Nat} : probe device = (none, next) →
    Answers probe value after looks next → Answers probe value after (looks + 1) device

theorem loop_answers {value : α} {device after : σ} {looks fuel : Nat}
    {interval timeout started : UInt64} {clock : Clock}
    (answers : probe.Answers value after looks device) (enough : looks < fuel)
    (timely : ∀ look < looks,
      (clock.since started).toNat + look * interval.toNat < timeout.toNat) :
    ∃ clock', probe.loop interval timeout started fuel clock device = (.ok value, clock', after) := by
  obtain ⟨fuel, rfl⟩ : ∃ more, fuel = more + 1 := ⟨fuel - 1, by omega⟩
  induction answers generalizing fuel clock with
  | now answer => exact ⟨clock, by rw [loop, answer]⟩
  | @later device next looks unanswered _ ih =>
    have early : ¬(timeout ≠ 0 ∧ timeout ≤ clock.since started) := by
      intro late
      have := UInt64.le_iff_toNat_le.mp late.2
      have := timely 0 (Nat.succ_pos looks)
      omega
    obtain ⟨fuel, rfl⟩ : ∃ more, fuel = more + 1 := ⟨fuel - 1, by omega⟩
    rw [loop, unanswered]
    dsimp only
    rw [if_neg early]
    refine ih (fun look below => ?_) fuel (by omega)
    -- The clock moved by one interval at most, so the next look is as late as this one allowed.
    have moved := clock.since_delay_le started interval
    have := timely (look + 1) (Nat.succ_lt_succ below)
    rw [Nat.succ_mul] at this
    omega

end Probe

/-- A poll of a device that answers within its patience and before the deadline. -/
theorem Link.poll_answers {β α : Type} [Bus β] {probe : Probe β α} {value : α} {link : Link β}
    {after : β} {interval timeout : UInt64}
    (answers : probe.Answers value after (Bus.patience link.bus) link.bus)
    (timely : ∀ look < Bus.patience link.bus, look * interval.toNat < timeout.toNat) :
    ∃ clock, Link.poll interval timeout probe link = (.ok value, ⟨after, clock⟩) := by
  have early : ∀ look < Bus.patience link.bus,
      (link.clock.since link.clock.now).toNat + look * interval.toNat < timeout.toNat := by
    simpa [Clock.since] using timely
  have enough : Bus.patience link.bus < Probe.budget interval timeout (Bus.patience link.bus) :=
    Nat.lt_add_of_pos_left (Nat.succ_pos _)
  obtain ⟨clock, run⟩ := Probe.loop_answers answers enough early
  refine ⟨clock, ?_⟩
  unfold Link.poll Probe.poll
  dsimp only
  rw [run]

/-- A poll of a device that is never heard of. -/
theorem Link.poll_quiet {β α : Type} [Bus β] {probe : Probe β α} {quiet : β → Prop} {link : Link β}
    {interval timeout : UInt64}
    (unanswered : ∀ device, quiet device → ∃ next, probe device = (none, next) ∧ quiet next)
    (here : quiet link.bus) (positive : interval ≠ 0) (finite : timeout ≠ 0) :
    ∃ after, Link.poll interval timeout probe link =
      (.error (if link.clock.now.toNat + timeout.toNat < UInt64.size then .error (.timeout timeout)
        else .trap .endlessWait), after) := by
  obtain ⟨bus, clock⟩ := link
  obtain ⟨clock', device, run, _⟩ := Probe.poll_quiet unanswered here positive finite (Bus.patience bus)
  refine ⟨⟨device, clock'⟩, ?_⟩
  unfold Link.poll
  dsimp only
  rw [run]

end NpuStack
