import Mathlib.Algebra.Order.Ring.Nat
import NpuStack.Proofs.Host.View
import NpuStack.Proofs.Launch

/-! What the counters of a core owe to each other. One path charges them all, so
they always show the counts of the programs that were run while they were
enabled, until more instructions have been retired than they can hold. -/

set_option autoImplicit false

namespace NpuStack

namespace Tally

def plus (first second : Tally) : Tally where
  retired := first.retired + second.retired
  computes := first.computes + second.computes
  dmaWaits := first.dmaWaits + second.dmaWaits

/-- No instruction is counted both as a computation and as a wait. -/
def Distinct (tally : Tally) : Prop := tally.computes + tally.dmaWaits ≤ tally.retired

variable {tally first second : Tally}

theorem Distinct.plus (left : first.Distinct) (right : second.Distinct) :
    (first.plus second).Distinct := by
  simp only [Distinct, Tally.plus] at *
  omega

theorem Distinct.retire (distinct : tally.Distinct) (op : Opcode) : (tally.retire op).Distinct := by
  simp only [Distinct, Tally.retire] at *
  by_cases compute : op = .compute
  · subst compute
    simp
    omega
  · by_cases wait : op = .waitDma
    · subst wait
      simp
      omega
    · simp [compute, wait]
      omega

theorem Distinct.run (distinct : tally.Distinct) (window : Window) (count index : Nat) :
    (Tally.run window count index tally).Distinct := by
  induction count generalizing index tally with
  | zero => exact distinct
  | succ count ih =>
    unfold Tally.run
    split
    · exact distinct
    · dsimp only
      split
      · exact distinct.retire _
      · exact ih (distinct.retire _) _

theorem Distinct.stall_le (distinct : tally.Distinct) : tally.stall ≤ 8 * tally.retired := by
  simp only [Distinct, Tally.stall] at *
  omega

end Tally

namespace Simulator

variable {sim after : Simulator} {tally first second : Tally} {profile : Profile} {retired : Nat}

structure Counts (tally : Tally) (sim : Simulator) : Prop where
  cycles : sim.pair .perfCyclesLo .perfCyclesHi = .ofNat tally.cycles
  macs : sim.pair .perfMacLo .perfMacHi = .ofNat (tally.computes * sim.profile.peCount.toNat)
  instructions : sim.peek .perfInstCnt = .ofNat tally.retired
  stalls : sim.peek .perfStallCnt = .ofNat tally.stall

theorem Counts.of_frame {touched : List Register} (counts : Counts tally sim)
    (frame : Frame touched sim after) (apart : ∀ reg ∈ charged, reg ∉ touched) :
    Counts tally after where
  cycles := (frame.pair ⟨apart _ (by decide), apart _ (by decide)⟩).trans counts.cycles
  macs := by
    rw [frame.pair ⟨apart _ (by decide), apart _ (by decide)⟩, frame.profile]
    exact counts.macs
  instructions := (frame.registers _ (apart _ (by decide))).trans counts.instructions
  stalls := (frame.registers _ (apart _ (by decide))).trans counts.stalls

theorem Counts.plus (counts : Counts first sim) (charged : Charged second sim after)
    (geometry : after.profile = sim.profile) : Counts (first.plus second) after where
  cycles := by
    have sum : (first.plus second).cycles = first.cycles + second.cycles := by
      simp only [Tally.cycles, Tally.stall, Tally.plus]
      omega
    rw [charged.cycles, counts.cycles, sum, UInt64.ofNat_add]
  macs := by
    rw [charged.macs, counts.macs, geometry, Tally.plus, Nat.add_mul, UInt64.ofNat_add]
  instructions := by
    rw [charged.instructions, counts.instructions, Tally.plus, UInt32.ofNat_add]
  stalls := by
    have sum : (first.plus second).stall = first.stall + second.stall := Nat.add_mul _ _ _
    rw [charged.stalls, counts.stalls, sum, UInt32.ofNat_add]

theorem counts_nothing (zero : ∀ reg ∈ charged, sim.peek reg = 0) : Counts {} sim where
  cycles := by
    rw [pair, zero _ (by decide), zero _ (by decide)]
    rfl
  macs := by
    rw [pair, zero _ (by decide), zero _ (by decide), Nat.zero_mul]
    rfl
  instructions := zero _ (by decide)
  stalls := zero _ (by decide)

theorem peek_zeroed (registers : List Register) (sim : Simulator) (reg : Register) :
    (registers.foldl (fun sim reg => sim.poke reg 0) sim).peek reg =
      if reg ∈ registers then 0 else sim.peek reg := by
  induction registers generalizing sim with
  | nil => simp
  | cons first registers ih =>
    rw [List.foldl_cons, ih]
    by_cases same : first = reg
    · simp [same]
    · simp [peek_poke_of_ne _ _ same, Ne.symm same]

theorem frame_runProgram_idle (idle : sim.hang ∨ sim.fault.isSome) :
    Frame [.status, .errorCode, .irqStatus] sim sim.runProgram := by
  have same := Frame.refl [.status, .errorCode, .irqStatus] sim
  cases hang : sim.hang with
  | true =>
    rw [runProgram, if_pos hang]
    exact same.poke _ (by decide)
  | false =>
    obtain ⟨code, failing⟩ : ∃ code, sim.fault = some code := by
      simpa [hang, Option.isSome_iff_exists] using idle
    have cleared : Frame [.status, .errorCode, .irqStatus] sim { sim with fault := none } :=
      ⟨rfl, rfl, rfl, fun _ _ => rfl⟩
    rw [runProgram, if_neg (by simp [hang]), failing]
    exact ((cleared.poke _ (by decide)).poke _ (by decide)).raiseIrq _ (by decide)

end Simulator

/-- What has been run since the counters were reset. -/
structure Meter where
  /-- Instructions retired. -/
  retired : Nat := 0
  /-- What was run while the counters were enabled. -/
  counted : Tally := {}

namespace Simulator

variable {sim after : Simulator} {tally first second : Tally} {profile : Profile} {meter : Meter}

/-- A run of the loaded program, unless the core hangs or fails. -/
def meterRun (sim : Simulator) (meter : Meter) : Meter :=
  if sim.hang ∨ sim.fault.isSome then meter
  else {
    retired := meter.retired + sim.tally.retired
    counted :=
      if sim.peek .perfCtrl &&& PerfCtrl.enable ≠ 0 then meter.counted.plus sim.tally
      else meter.counted }

/-- What a write runs. A start that comes with a reset or an abort runs nothing. -/
def metered (reg : Register) (value : UInt32) (sim : Simulator) (meter : Meter) : Meter :=
  match reg with
  | .ctrl =>
    if value &&& (Ctrl.reset ||| Ctrl.abort) = 0 ∧ value &&& Ctrl.start ≠ 0 then sim.meterRun meter
    else meter
  | .perfCtrl => if value &&& PerfCtrl.reset ≠ 0 then {} else meter
  | _ => meter

/-- As long as the counters can hold what has been run, they show it. -/
structure Balanced (profile : Profile) (meter : Meter) (sim : Simulator) : Prop where
  geometry : sim.profile = profile
  distinct : meter.counted.Distinct
  bound : meter.counted.retired ≤ meter.retired
  counts : meter.retired < 2 ^ 29 → Counts meter.counted sim

namespace Balanced

theorem of_frame {touched : List Register} (balanced : Balanced profile meter sim)
    (frame : Frame touched sim after) (apart : ∀ reg ∈ charged, reg ∉ touched) :
    Balanced profile meter after :=
  ⟨frame.profile.trans balanced.geometry, balanced.distinct, balanced.bound,
    fun few => (balanced.counts few).of_frame frame apart⟩

theorem charge (balanced : Balanced profile meter sim) (distinct : tally.Distinct) :
    Balanced profile
      { retired := meter.retired + tally.retired
        counted := if sim.peek .perfCtrl &&& PerfCtrl.enable ≠ 0 then meter.counted.plus tally
          else meter.counted }
      (sim.charge tally) := by
  have bound := balanced.bound
  by_cases enabled : sim.peek .perfCtrl &&& PerfCtrl.enable ≠ 0
  · have frame := frame_charge sim tally
    rw [if_pos enabled]
    refine ⟨frame.profile.trans balanced.geometry, balanced.distinct.plus distinct,
      Nat.add_le_add_right bound _, fun few => ?_⟩
    dsimp only at few
    -- A program that fits the meter fits the counters, and so do its stalls.
    have stall := distinct.stall_le
    have charged : Charged tally sim (sim.charge tally) :=
      charged_charge enabled (by simp only [UInt32.size]; omega) (by simp only [UInt32.size]; omega)
    exact (balanced.counts (by omega)).plus charged frame.profile
  · have same : sim.charge tally = sim := if_neg (by simpa using enabled)
    rw [if_neg enabled, same]
    exact ⟨balanced.geometry, balanced.distinct, Nat.le_add_right_of_le bound,
      fun few => balanced.counts (by dsimp only at few; omega)⟩

theorem runProgram (balanced : Balanced profile meter sim) :
    Balanced profile (sim.meterRun meter) sim.runProgram := by
  unfold meterRun
  split
  case isTrue idle => exact balanced.of_frame (frame_runProgram_idle idle) (by decide)
  case isFalse runs =>
    obtain ⟨running, sound⟩ : sim.hang = false ∧ sim.fault = none := by simpa using runs
    have distinct : sim.tally.Distinct := .run (show Tally.Distinct {} from Nat.le_refl 0) _ _ _
    have ended : Frame [.instPtr, .status, .irqStatus] (sim.charge sim.tally)
        (sim.finish sim.tally) :=
      (((Frame.refl _ _).poke _ (by decide)).poke _ (by decide)).raiseIrq _ (by decide)
    have shown : Frame [.instPtr, .status, .irqStatus] (sim.charge sim.tally) sim.runProgram := by
      rw [runProgram_of_sound running sound]
      exact ⟨ended.profile, ended.base, ended.size, ended.registers⟩
    exact (balanced.charge distinct).of_frame shown (by decide)

theorem ctrl (balanced : Balanced profile meter sim) (value : UInt32) :
    Balanced profile (metered .ctrl value sim meter) (sim.write .ctrl value) := by
  let logged : Simulator := { sim with log := sim.log.push (.ctrl, value) }
  have same : Frame [.ctrl] sim logged := ⟨rfl, rfl, rfl, fun _ _ => rfl⟩
  have stored := same.poke value (List.mem_singleton_self _)
  show Balanced profile _ ((logged.poke .ctrl value).onCtrl value)
  by_cases calm : value &&& (Ctrl.reset ||| Ctrl.abort) = 0
  · by_cases start : value &&& Ctrl.start = 0
    · rw [metered, if_neg (fun run => run.2 start), onCtrl, if_neg (by simp [calm]),
        if_neg (by simp [start])]
      exact balanced.of_frame stored (by decide)
    · -- The start is taken back before the program runs, which makes no difference to the meter.
      let started := (logged.poke .ctrl value).poke .ctrl (value &&& ~~~Ctrl.start)
      have frame : Frame [.ctrl] sim started := stored.poke _ (List.mem_singleton_self _)
      have tally : started.tally = sim.tally := by
        unfold Simulator.tally
        rw [frame.registers .instSize (by decide)]
        rfl
      have alike : started.meterRun meter = sim.meterRun meter := by
        unfold meterRun
        rw [tally, frame.registers .perfCtrl (by decide)]
        rfl
      rw [metered, if_pos ⟨calm, start⟩, onCtrl, if_neg (by simp [calm]), if_pos (by simpa using start),
        ← alike]
      exact (balanced.of_frame frame (by decide)).runProgram
  · rw [metered, if_neg (fun run => calm run.1), onCtrl, if_pos (by simpa using calm)]
    have cleared : Frame [.ctrl, .errorCode, .status] sim
        { logged.poke .ctrl value with pending := 0 } :=
      have wider := stored.mono (List.cons_subset_cons _ (List.nil_subset _))
      ⟨wider.profile, wider.base, wider.size, wider.registers⟩
    exact balanced.of_frame ((cleared.poke _ (by decide)).poke _ (by decide)) (by decide)

/-- Counters at zero, and nothing to be shown. -/
theorem nothing (geometry : sim.profile = profile) (zero : ∀ reg ∈ charged, sim.peek reg = 0) :
    Balanced profile {} sim :=
  ⟨geometry, Nat.le_refl 0, Nat.le_refl 0, fun _ => counts_nothing zero⟩

theorem perfCtrl (balanced : Balanced profile meter sim) (value : UInt32) :
    Balanced profile (metered .perfCtrl value sim meter) (sim.write .perfCtrl value) := by
  let logged : Simulator := { sim with log := sim.log.push (.perfCtrl, value) }
  have same : Frame [.perfCtrl] sim logged := ⟨rfl, rfl, rfl, fun _ _ => rfl⟩
  have stored := same.poke value (List.mem_singleton_self _)
  show Balanced profile _ ((logged.poke .perfCtrl value).onPerfCtrl value)
  by_cases reset : value &&& PerfCtrl.reset = 0
  · rw [metered, if_neg (fun clears => clears reset), onPerfCtrl, if_neg (by simp [reset])]
    exact balanced.of_frame stored (by decide)
  · rw [metered, if_pos reset]
    apply nothing
    · exact ((frame_onPerfCtrl _ value).profile.trans stored.profile).trans balanced.geometry
    · intro reg counter
      rw [onPerfCtrl, if_pos (by simpa using reset), peek_zeroed,
        if_pos ((by decide : charged ⊆ counterRegisters) counter)]

theorem write (balanced : Balanced profile meter sim) {reg : Register}
    (outside : reg ∉ counterRegisters) (value : UInt32) :
    Balanced profile (metered reg value sim meter) (sim.write reg value) := by
  by_cases control : reg = .ctrl
  · subst control
    exact balanced.ctrl value
  · by_cases counters : reg = .perfCtrl
    · subst counters
      exact balanced.perfCtrl value
    · have still : metered reg value sim meter = meter := by
        unfold metered
        split
        · exact absurd rfl control
        · exact absurd rfl counters
        · rfl
      have apart : ∀ other ∈ charged, other ∉ touchedBy reg := by
        cases reg <;> first | exact absurd rfl counters | exact absurd (by decide) outside | decide
      rw [still]
      exact balanced.of_frame (frame_write sim value control) apart

theorem fresh (built : ofProfile profile = .ok sim) : Balanced profile {} sim := by
  refine nothing (inOrder_ofProfile built).geometry fun reg counter => peek_ofProfile built ?_
  revert reg
  decide

end Balanced

/-- No access to a metered core upsets the balance, unless it writes a counter. -/
theorem stable_balanced (profile : Profile) :
    Link.Stable (· ∉ counterRegisters) fun link : Link (Watched metered) =>
      Balanced profile link.bus.known link.bus.bus where
  read link reg balanced := balanced.of_frame (frame_read link.bus.bus reg) (by decide)
  write _ _ value outside balanced := balanced.write outside value
  store link addr data after stored balanced := by
    obtain ⟨bus, kept, rfl⟩ := Watched.exists_bus stored
    obtain ⟨memory, found, rfl⟩ := exists_memory kept
    exact balanced.of_frame (frame_store found) (by decide)
  time _ _ balanced := balanced

end Simulator

structure Counters.Conserved (profile : Profile) (computes : Nat) (counters : Counters) : Prop where
  macs : counters.macOps.toNat = computes * (profile.peRows.toNat * profile.peCols.toNat)
  cycles : counters.totalCycles.toNat =
    4 * counters.instructions.toNat + 16 * computes + counters.stallCycles.toNat
  computes : computes ≤ counters.instructions.toNat
  stalls : 8 ∣ counters.stallCycles.toNat ∧
    counters.stallCycles.toNat ≤ 8 * counters.instructions.toNat
  /-- No cycle is lost when the stalls are taken off. -/
  busy : counters.computeCycles.toNat + counters.stallCycles.toNat = counters.totalCycles.toNat

theorem Counters.toNat_busyCycles {total stalled : UInt64} (within : stalled.toNat ≤ total.toNat) :
    (busyCycles total stalled).toNat + stalled.toNat = total.toNat := by
  have ordered : stalled ≤ total := UInt64.le_iff_toNat_le.mpr within
  rw [busyCycles, if_pos ordered, UInt64.toNat_sub_of_le _ _ ordered]
  omega

theorem Simulator.Balanced.conserved {sim : Simulator} {profile : Profile} {meter : Meter}
    (balanced : Balanced profile meter sim) (few : meter.retired < 2 ^ 29) :
    sim.reading.Conserved profile meter.counted.computes := by
  obtain ⟨geometry, distinct, bound, counts⟩ := balanced
  replace counts := counts few
  generalize meter.counted = tally at distinct bound counts ⊢
  have stall := distinct.stall_le
  have computed : tally.computes ≤ tally.retired := Nat.le_of_add_right_le distinct
  have product : tally.computes * profile.peCount.toNat < 2 ^ 29 * 2 ^ 32 :=
    Nat.mul_lt_mul'' (by omega) profile.peCount.toNat_lt
  -- Below the limit no counter has wrapped around.
  have cycles : sim.reading.totalCycles.toNat = tally.cycles := by
    have total : tally.cycles = tally.retired * 4 + tally.computes * 16 + tally.stall := rfl
    show (sim.pair .perfCyclesLo .perfCyclesHi).toNat = _
    rw [counts.cycles, UInt64.toNat_ofNat_of_lt' (by simp only [UInt64.size]; omega)]
  have macs : sim.reading.macOps.toNat = tally.computes * profile.peCount.toNat := by
    show (sim.pair .perfMacLo .perfMacHi).toNat = _
    rw [counts.macs, geometry, UInt64.toNat_ofNat_of_lt' (by simp only [UInt64.size]; omega)]
  have instructions : sim.reading.instructions.toNat = tally.retired := by
    show (sim.peek .perfInstCnt).toUInt64.toNat = _
    rw [UInt32.toNat_toUInt64, counts.instructions,
      UInt32.toNat_ofNat_of_lt' (by simp only [UInt32.size]; omega)]
  have stalls : sim.reading.stallCycles.toNat = tally.stall := by
    show (sim.peek .perfStallCnt).toUInt64.toNat = _
    rw [UInt32.toNat_toUInt64, counts.stalls,
      UInt32.toNat_ofNat_of_lt' (by simp only [UInt32.size]; omega)]
  have total : tally.cycles = 4 * tally.retired + 16 * tally.computes + tally.stall := by
    unfold Tally.cycles
    omega
  exact {
    macs := by rw [macs, Profile.toNat_peCount]
    cycles := by rw [cycles, instructions, stalls, total]
    computes := by rw [instructions]; exact computed
    stalls := by rw [stalls, instructions]; exact ⟨Nat.dvd_mul_left 8 tally.dmaWaits, stall⟩
    busy := Counters.toNat_busyCycles
      (show sim.reading.stallCycles.toNat ≤ sim.reading.totalCycles.toNat by omega) }

/-- No operation writes a counter. -/
theorem Operation.counters_not_mem (op : Operation) :
    ∀ reg ∈ op.registers, reg ∉ Simulator.counterRegisters := by
  cases op <;> (dsimp only [registers]; decide)

section Metered

variable {profile : Profile}

abbrev ReachableMetered (profile : Profile) : Host (Watched Simulator.metered) → Prop :=
  Reachable (Watched.Fresh (fun sim => Simulator.ofProfile profile = .ok sim) {})
    (Watched.Altered Simulator.Rescripted)

/-- Whatever a host does, its counters show what the meter shows. -/
theorem Reachable.balanced {host : Host (Watched Simulator.metered)}
    (reached : ReachableMetered profile host) :
    Simulator.Balanced profile host.link.bus.known host.link.bus.bus := by
  induction reached with
  | start built =>
    obtain ⟨built, nothing⟩ := built
    dsimp only
    rw [nothing]
    exact .fresh built
  | @step op _ _ _ _ step ih =>
    have guarded := (Simulator.stable_balanced profile).guarded.mono op.counters_not_mem
    exact step.preserves (Host.guarded_of_link guarded _) ih
  | alter _ change ih =>
    obtain ⟨change, same⟩ := change
    dsimp only
    rw [same]
    exact ih.of_frame change.frame (by decide)

/-- The conservation law of the counters. A meter on the core disturbs no run; as long as it shows
fewer instructions since the reset than the counters can hold, what the host samples adds up. -/
theorem counters_conserved {host : Host Simulator}
    (reached : Reachable (fun sim => Simulator.ofProfile profile = .ok sim) Simulator.Rescripted host) :
    (∃ metered, ReachableMetered profile metered ∧ metered.map Watched.bus = host) ∧
    ∀ metered, ReachableMetered profile metered → metered.map Watched.bus = host →
      metered.link.bus.known.retired < 2 ^ 29 →
      ∃ counters, Counters.sample host.link = (.ok counters, host.link) ∧
        counters.Conserved profile metered.link.bus.known.counted.computes := by
  refine ⟨reached.watched _ _, ?_⟩
  rintro metered watched rfl few
  exact ⟨_, rfl, (Reachable.balanced watched).conserved few⟩

end Metered

section Example

/-- Nothing is metered as long as the control register is left alone. -/
theorem Simulator.stable_unmetered :
    Link.Stable (· ≠ .ctrl) fun link : Link (Watched metered) => link.bus.known = {} where
  read _ _ nothing := nothing
  write link reg value other nothing := by
    show metered reg value link.bus.bus link.bus.known = {}
    rw [nothing]
    unfold metered
    split
    · exact absurd rfl other
    · split <;> rfl
    · rfl
  store link addr data after stored nothing := by
    obtain ⟨bus, _, rfl⟩ := Watched.exists_bus stored
    exact nothing
  time _ _ nothing := nothing

def waitAndCompute : Array Instruction := #[.waitDma, .compute 0, .halt]

theorem Simulator.Ready.tally_eq {code : List Instruction} {sim : Simulator} (ready : Ready code sim)
    (runsOn : Tally.RunsOn code) : sim.tally = .ofCode code := by
  unfold tally
  rw [ready.size]
  exact Tally.run_eq_ofCode ready.loaded runsOn

theorem Simulator.Ready.meterRun_eq {code : List Instruction} {sim : Simulator} (ready : Ready code sim)
    (runsOn : Tally.RunsOn code) (meter : Meter) :
    sim.meterRun meter = {
      retired := meter.retired + (Tally.ofCode code).retired
      counted := meter.counted.plus (.ofCode code) } := by
  have runs : ¬(sim.hang ∨ sim.fault.isSome) := by simp [ready.running, ready.sound]
  rw [meterRun, if_neg runs, if_pos ready.enabled, ready.tally_eq runsOn]

/-- A start is metered when its bit is raised. -/
theorem Host.known_start {host : Host (Watched Simulator.metered)} (loadable : host.state.loadable = true) :
    (Operation.start.perform host).2.link.bus.known =
      Simulator.metered .ctrl (host.link.bus.bus.rewound.peek .ctrl ||| Ctrl.start)
        host.link.bus.bus.rewound host.link.bus.known := by
  show (((fun _ => Reply.finished) <$> start) host).2.link.bus.known = _
  rw [map_eq_pure_bind, act_bind, start, act_bind, ensureLoadable_eq loadable]
  rfl

/-- Three instructions are retired, and the counters know of them. -/
theorem computation_conserved :
    ∃ (metered : Host (Watched Simulator.metered)) (counters : Counters),
      metered.link.bus.known.retired = 3 ∧
      Counters.sample (metered.map Watched.bus).link = (.ok counters, (metered.map Watched.bus).link) ∧
      counters.Conserved smallProfile 1 := by
  have order : Simulator.InOrder smallProfile 0 smallHost.link.bus := (smallHost_reachable _).inOrder
  have new : smallHost.link.bus.hang = false ∧ smallHost.link.bus.fault = none ∧
      smallHost.link.bus.peek .perfCtrl &&& PerfCtrl.enable ≠ 0 := by
    decide +kernel
  have runsOn : Tally.RunsOn waitAndCompute.toList := by
    simp [waitAndCompute, Tally.RunsOn, Instruction.opcode_waitDma, Instruction.opcode_compute]
  have ready : Simulator.Ready waitAndCompute.toList
      (smallHost.link.bus.holding waitAndCompute).rewound :=
    Simulator.ready_preparation order new.1 new.2.1 new.2.2 (.refl Host.layerRegisters _) (by decide)
  -- The plain run, and the metered run that it is a view of.
  have inits : (Operation.init (.ofProfile smallProfile)).Step
      ((Host.ofBus ⟨smallCore, {}⟩ : Host (Watched Simulator.metered)).map Watched.bus)
      (.ok .finished) smallHost := .of_value rfl
  obtain ⟨_, loaded, loads, _, holds, loading, _⟩ :=
    (Operation.loadInstructions waitAndCompute).exists_ok rfl
      (Host.yields_loadInstructions order rfl (by decide +kernel) (by decide) (by decide))
  have loadable : loaded.state.loadable = true := by
    rw [holds]
    exact congrArg RunState.loadable loading
  obtain ⟨_, host, starts, _⟩ := Operation.start.exists_ok rfl (Host.yields_start loadable)
  obtain ⟨first, one, same⟩ := (Operation.step_map_iff Watched.view_bus).mp inits
  rw [← same] at loads
  obtain ⟨second, two, rfl⟩ := (Operation.step_map_iff Watched.view_bus).mp loads
  obtain ⟨third, three, rfl⟩ := (Operation.step_map_iff Watched.view_bus).mp starts
  have reached : ReachableMetered smallProfile third :=
    .step (.step (.step (.start ⟨rfl, rfl⟩) one) two) three
  -- Neither the initialisation nor the load writes the control register.
  have nothing : second.link.bus.known = {} := by
    have stable := Simulator.stable_unmetered.guarded
    have before : first.link.bus.known = {} :=
      one.preserves (Host.guarded_of_link (stable.mono (by dsimp only [Operation.registers]; decide)) _) rfl
    exact two.preserves
      (Host.guarded_of_link (stable.mono (by dsimp only [Operation.registers]; decide)) _) before
  have core : second.link.bus.bus = smallHost.link.bus.holding waitAndCompute :=
    congrArg (fun host => host.link.bus) holds
  have metered : third.link.bus.known = {
      retired := 3
      counted := .plus {} (.ofCode waitAndCompute.toList) } := by
    have calm := ready.lowered.lift Ctrl.start
    rw [three.after_eq, Host.known_start loadable, core, nothing, Simulator.metered,
      if_pos ⟨calm, by decide +kernel⟩, ready.meterRun_eq runsOn]
    rfl
  have few : third.link.bus.known.retired < 2 ^ 29 := by
    rw [metered]
    decide
  obtain ⟨counters, sampled, conserved⟩ :=
    (counters_conserved (Reachable.unwatched reached)).2 third reached rfl few
  rw [metered] at conserved
  exact ⟨third, counters, by rw [metered], sampled, conserved⟩

end Example

end NpuStack
