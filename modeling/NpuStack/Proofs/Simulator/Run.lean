import NpuStack.Proofs.Host.Polling
import NpuStack.Proofs.Simulator.Control
import NpuStack.Proofs.Simulator.Fetch

/-! One run of the simulated core: from a loaded program and a raised start to
the registers it leaves, for every program that is loaded whole. -/

set_option autoImplicit false

namespace NpuStack.Simulator

def pair (sim : Simulator) (low high : Register) : UInt64 := joined (sim.peek low) (sim.peek high)

section Counters

variable (sim : Simulator) {low high other : Register}

theorem frame_addCounterPair (amount : Nat) :
    Frame [low, high] sim (sim.addCounterPair low high amount) :=
  (Frame.refl _ sim).addCounterPair amount (by simp) (by simp)

theorem pair_addCounterPair (apart : low ≠ high) (amount : Nat) :
    (sim.addCounterPair low high amount).pair low high = sim.pair low high + .ofNat amount := by
  have halves := joined_halves (sim.pair low high + .ofNat amount)
  unfold addCounterPair pair
  dsimp only
  rw [peek_poke_same, peek_poke_of_ne _ _ apart.symm, peek_poke_same]
  exact halves

theorem peek_addCounter (amount : Nat) (small : amount < UInt32.size) :
    (sim.addCounter low amount).peek low = sim.peek low + .ofNat amount := by
  rw [addCounter, peek_poke_same, Nat.min_eq_left (by omega)]

theorem Frame.pair {sim after : Simulator} {touched : List Register} (frame : Frame touched sim after)
    (apart : low ∉ touched ∧ high ∉ touched) : after.pair low high = sim.pair low high := by
  unfold Simulator.pair
  rw [frame.registers low apart.1, frame.registers high apart.2]

end Counters

structure Charged (tally : Tally) (before after : Simulator) : Prop where
  cycles : after.pair .perfCyclesLo .perfCyclesHi =
    before.pair .perfCyclesLo .perfCyclesHi + .ofNat tally.cycles
  macs : after.pair .perfMacLo .perfMacHi =
    before.pair .perfMacLo .perfMacHi + .ofNat (tally.computes * before.profile.peCount.toNat)
  instructions : after.peek .perfInstCnt = before.peek .perfInstCnt + .ofNat tally.retired
  stalls : after.peek .perfStallCnt = before.peek .perfStallCnt + .ofNat tally.stall

theorem charged_charge {sim : Simulator} {tally : Tally}
    (enabled : sim.peek .perfCtrl &&& PerfCtrl.enable ≠ 0) (retired : tally.retired < UInt32.size)
    (stall : tally.stall < UInt32.size) : Charged tally sim (sim.charge tally) := by
  -- Each addition is seen through the later ones, and sees the counter of the start.
  let cycled := sim.addCounterPair .perfCyclesLo .perfCyclesHi tally.cycles
  let computed := cycled.addCounterPair .perfMacLo .perfMacHi
    (tally.computes * sim.profile.peCount.toNat)
  let retiredAll := computed.addCounter .perfInstCnt tally.retired
  have last : sim.charge tally = retiredAll.addCounter .perfStallCnt tally.stall :=
    if_pos (bne_iff_ne.mpr enabled)
  have first : Frame [.perfCyclesLo, .perfCyclesHi] sim cycled := frame_addCounterPair sim _
  have second : Frame [.perfMacLo, .perfMacHi] cycled computed := frame_addCounterPair cycled _
  have third : Frame [.perfInstCnt] computed retiredAll :=
    (Frame.refl _ _).addCounter _ (by decide)
  have fourth : Frame [.perfStallCnt] retiredAll (sim.charge tally) :=
    last ▸ (Frame.refl _ _).addCounter _ (by decide)
  constructor
  · rw [fourth.pair (by decide), third.pair (by decide), second.pair (by decide)]
    exact sim.pair_addCounterPair (by decide) _
  · rw [fourth.pair (by decide), third.pair (by decide), ← first.pair (by decide)]
    exact cycled.pair_addCounterPair (by decide) _
  · rw [fourth.registers _ (by decide), ← first.registers _ (by decide),
      ← second.registers _ (by decide)]
    exact computed.peek_addCounter _ retired
  · rw [last, peek_addCounter _ _ stall, third.registers _ (by decide), second.registers _ (by decide),
      first.registers _ (by decide)]

theorem Charged.of_frame {tally : Tally} {before first last after : Simulator}
    {early late : List Register} (charged : Charged tally first last)
    (start : Frame early before first) (finish : Frame late last after)
    (apart : ∀ reg ∈ Simulator.charged, reg ∉ early ∧ reg ∉ late) : Charged tally before after := by
  have opened {low high : Register} (counts : low ∈ Simulator.charged ∧ high ∈ Simulator.charged) :
      first.pair low high = before.pair low high :=
    start.pair ⟨(apart low counts.1).1, (apart high counts.2).1⟩
  have closed {low high : Register} (counts : low ∈ Simulator.charged ∧ high ∈ Simulator.charged) :
      after.pair low high = last.pair low high :=
    finish.pair ⟨(apart low counts.1).2, (apart high counts.2).2⟩
  constructor
  · rw [closed (by decide), charged.cycles, opened (by decide)]
  · rw [closed (by decide), charged.macs, opened (by decide), start.profile]
  · rw [finish.registers _ (apart _ (by decide)).2, charged.instructions,
      start.registers _ (apart _ (by decide)).1]
  · rw [finish.registers _ (apart _ (by decide)).2, charged.stalls,
      start.registers _ (apart _ (by decide)).1]

structure Ready (code : List Instruction) (sim : Simulator) : Prop where
  running : sim.hang = false
  sound : sim.fault = none
  lowered : Lowered 0 (sim.peek .ctrl)
  loaded : Loaded sim.memory.instructions 0 code
  size : (sim.peek .instSize).toNat = code.length
  room : code.length * 8 < UInt32.size
  enabled : sim.peek .perfCtrl &&& PerfCtrl.enable ≠ 0

/-- A core that has run a program to its end and will say so after its latency. -/
structure Finished (code : List Instruction) (before after : Simulator) : Prop where
  charged : Charged (.ofCode code) before after
  pointer : after.peek .instPtr = .ofNat code.length
  status : after.peek .status = doneStatus
  pending : after.pending = before.latency

theorem onCtrl_start {sim : Simulator} {ctrl : UInt32} (lowered : Lowered 0 ctrl) :
    sim.onCtrl (ctrl ||| Ctrl.start) =
      (sim.poke .ctrl ((ctrl ||| Ctrl.start) &&& ~~~Ctrl.start)).runProgram := by
  -- A reset or an abort would win over the start, but neither is raised.
  have others : (ctrl ||| Ctrl.start) &&& (Ctrl.reset ||| Ctrl.abort) = 0 := lowered.lift Ctrl.start
  have clear : ctrl &&& Ctrl.start = 0 := by
    calc ctrl &&& Ctrl.start = ctrl &&& (pulses &&& ~~~0) &&& Ctrl.start := by
          rw [UInt32.and_assoc]
          rfl
      _ = 0 := by rw [lowered, UInt32.zero_and]
  have start : (ctrl ||| Ctrl.start) &&& Ctrl.start ≠ 0 := by
    rw [or_and_distrib, clear]
    decide
  rw [onCtrl, if_neg (by simp [others]), if_pos (by simpa using start)]

theorem latency_finish (sim : Simulator) (tally : Tally) :
    (sim.finish tally).latency = sim.latency := by
  unfold finish charge
  split <;> rfl

theorem status_finish (sim : Simulator) (tally : Tally) :
    (sim.finish tally).peek .status = doneStatus := by
  rw [finish, raiseIrq, peek_poke_of_ne _ _ (by decide), peek_poke_same]

theorem instPtr_finish (sim : Simulator) {tally : Tally} (small : tally.retired < UInt32.size) :
    (sim.finish tally).peek .instPtr = .ofNat tally.retired := by
  rw [finish, raiseIrq, peek_poke_of_ne _ _ (by decide), peek_poke_of_ne _ _ (by decide),
    peek_poke_same, Nat.min_eq_left (by omega)]

theorem finished_finish {code : List Instruction} {sim : Simulator} {tally : Tally}
    (counted : tally = .ofCode code) (room : code.length * 8 < UInt32.size)
    (enabled : sim.peek .perfCtrl &&& PerfCtrl.enable ≠ 0) :
    Finished code sim { sim.finish tally with pending := (sim.finish tally).latency } := by
  have retired : tally.retired = code.length := congrArg (·.retired) counted
  have stall : tally.stall < UInt32.size := by
    have waits : waitCount code ≤ code.length := List.countP_le_length
    rw [counted]
    show waitCount code * 8 < UInt32.size
    omega
  have ended : Frame [.instPtr, .status, .irqStatus] (sim.charge tally) (sim.finish tally) :=
    (((Frame.refl _ _).poke _ (by decide)).poke _ (by decide)).raiseIrq _ (by decide)
  have charged : Charged tally sim (sim.finish tally) :=
    (charged_charge enabled (by omega) stall).of_frame (.refl [] sim) ended (by decide)
  have pointer : (sim.finish tally).peek .instPtr = .ofNat code.length :=
    retired ▸ instPtr_finish sim (by omega)
  have status := status_finish sim tally
  have latency := latency_finish sim tally
  -- From here on only these facts about the end are needed.
  generalize sim.finish tally = final at charged pointer status latency
  rw [counted] at charged
  exact ⟨⟨charged.cycles, charged.macs, charged.instructions, charged.stalls⟩, pointer, status, latency⟩

theorem finished_start {code : List Instruction} {sim : Simulator} (ready : Ready code sim)
    (runsOn : Tally.RunsOn code) :
    Finished code sim (sim.write .ctrl (sim.peek .ctrl ||| Ctrl.start)) := by
  let value := sim.peek .ctrl ||| Ctrl.start
  let logged : Simulator := { sim with log := sim.log.push (.ctrl, value) }
  let started := (logged.poke .ctrl value).poke .ctrl (value &&& ~~~Ctrl.start)
  have same : Frame [.ctrl] sim logged := ⟨rfl, rfl, rfl, fun _ _ => rfl⟩
  have frame : Frame [.ctrl] sim started := (same.poke _ (by decide)).poke _ (by decide)
  have tally : started.tally = .ofCode code := by
    have count : (started.peek .instSize).toNat = code.length :=
      (congrArg UInt32.toNat (frame.registers .instSize (by decide))).trans ready.size
    unfold Simulator.tally
    rw [count]
    exact Tally.run_eq_ofCode ready.loaded runsOn
  -- The start is taken back before the program runs, so it does not show in the end.
  have run : sim.write .ctrl value =
      { started.finish started.tally with pending := (started.finish started.tally).latency } :=
    (onCtrl_start ready.lowered).trans (runProgram_of_sound ready.running ready.sound)
  have enabled : started.peek .perfCtrl &&& PerfCtrl.enable ≠ 0 := by
    rw [frame.registers .perfCtrl (by decide)]
    exact ready.enabled
  have finished := finished_finish tally ready.room enabled
  rw [← run] at finished
  exact {
    charged := finished.charged.of_frame frame (.refl [] _) (by decide)
    pointer := finished.pointer
    status := finished.status
    pending := finished.pending }

/-- The end of a finished program is seen after as many looks as are pending. -/
theorem answers_completion {sim : Simulator} (status : sim.peek .status = doneStatus) :
    ∃ reads, Probe.Answers Host.completionProbe () { sim with pending := 0, statusReads := reads }
      sim.pending.toNat sim := by
  -- Each look takes one off what is pending.
  generalize looks : sim.pending.toNat = count
  induction count generalizing sim with
  | zero =>
    have ended : sim.pending = 0 := UInt32.toNat_inj.mp looks
    have look : sim.read .status =
        (doneStatus, { sim with pending := 0, statusReads := sim.statusReads + 1 }) := by
      rw [← status, ← ended]
      exact if_neg (by simp [ended])
    refine ⟨sim.statusReads + 1, .now ?_⟩
    simp only [Host.completionProbe, Bus.read, look]
    rfl
  | succ count ih =>
    let next : Simulator := { sim with pending := sim.pending - 1, statusReads := sim.statusReads + 1 }
    have waiting : 1 ≤ sim.pending := by
      rw [UInt32.le_iff_toNat_le, looks]
      exact Nat.succ_le_succ (Nat.zero_le count)
    have look : sim.read .status = (runningStatus, next) :=
      if_pos (UInt32.lt_iff_toNat_lt.mpr (by rw [looks]; exact Nat.succ_pos count))
    have fewer : next.pending.toNat = count := by
      show (sim.pending - 1).toNat = count
      rw [UInt32.toNat_sub_of_le _ _ waiting, looks]
      rfl
    have unanswered : Host.completionProbe sim = (none, next) := by
      simp only [Host.completionProbe, Bus.read, look]
      rfl
    obtain ⟨reads, answers⟩ := ih (show next.peek .status = doneStatus from status) fewer
    exact ⟨reads, .later unanswered answers⟩

section Preparation

/-- Plain writes: nothing but registers and the log is different. -/
structure Written (touched : List Register) (before after : Simulator) : Prop where
  rest : after = { before with registers := after.registers, log := after.log }
  registers : ∀ reg, reg ∉ touched → after.peek reg = before.peek reg

def isPlain : Register → Bool
  | .version | .config | .status | .dmaStatus | .ctrl | .dmaCtrl | .perfCtrl => false
  | _ => true

theorem write_of_plain (sim : Simulator) {reg : Register} (plain : isPlain reg = true) (value : UInt32) :
    ∃ stored, sim.write reg value =
      { sim.poke reg stored with log := sim.log.push (reg, value) } := by
  cases reg with
  | version | config | status | dmaStatus | ctrl | dmaCtrl | perfCtrl => cases plain
  | _ => exact ⟨_, rfl⟩

theorem Written.refl (touched : List Register) (sim : Simulator) : Written touched sim sim :=
  ⟨rfl, fun _ _ => rfl⟩

theorem Written.write {touched : List Register} {before after : Simulator}
    (written : Written touched before after) (reg : Register) (plain : isPlain reg = true)
    (inside : reg ∈ touched) (value : UInt32) : Written touched before (after.write reg value) := by
  obtain ⟨stored, run⟩ := after.write_of_plain plain value
  rw [run]
  constructor
  · rw [written.rest]
    rfl
  · intro other outside
    have apart : reg ≠ other := fun same => outside (same ▸ inside)
    exact (after.peek_poke_of_ne stored apart).trans (written.registers other outside)

theorem Written.frame {touched : List Register} {before after : Simulator}
    (written : Written touched before after) : Frame touched before after := by
  have rest := written.rest
  exact ⟨congrArg (·.profile) rest, congrArg (·.memory.instructions.base) rest,
    congrArg (·.memory.instructions.size) rest, written.registers⟩

def storing (sim : Simulator) (instructions : Array Instruction) : Simulator :=
  { sim with memory := sim.memory.writeAt .instructions 0 (Program.imageOf instructions) }

def holding (sim : Simulator) (instructions : Array Instruction) : Simulator :=
  ((sim.storing instructions).write .instSize (.ofNat instructions.size)).write .instPtr 0

def rewound (sim : Simulator) : Simulator := (sim.write .instPtr 0).write .irqStatus Irq.clearAll

def launched (sim : Simulator) : Simulator :=
  sim.rewound.write .ctrl (sim.rewound.peek .ctrl ||| Ctrl.start)

def preparation : List Register := Host.layerRegisters ++ [.instSize, .instPtr, .irqStatus]

theorem Written.rewound {touched : List Register} {before after : Simulator}
    (written : Written touched before after) (inside : .instPtr ∈ touched ∧ .irqStatus ∈ touched) :
    Written touched before after.rewound :=
  (written.write .instPtr rfl inside.1 0).write .irqStatus rfl inside.2 Irq.clearAll

variable {sim configured : Simulator} {profile : Profile} {instructions : Array Instruction}

theorem frame_preparation (written : Written Host.layerRegisters sim configured) :
    Frame preparation sim (configured.holding instructions).rewound := by
  have described : Frame preparation sim configured := written.frame.mono (by decide)
  have loaded : Frame preparation configured (configured.storing instructions) := frame_memory _
  have same := Written.refl preparation (configured.storing instructions)
  have sized := same.write .instSize rfl (by decide) (.ofNat instructions.size)
  have prepared := (sized.write .instPtr rfl (by decide) 0).rewound (by decide)
  exact (described.trans loaded).trans prepared.frame

theorem ready_preparation (order : InOrder profile 0 sim) (running : sim.hang = false)
    (sound : sim.fault = none) (enabled : sim.peek .perfCtrl &&& PerfCtrl.enable ≠ 0)
    (written : Written Host.layerRegisters sim configured)
    (fits : instructions.size ≤ profile.instEntries.toNat) :
    Ready instructions.toList (configured.holding instructions).rewound := by
  have frame : Frame preparation sim (configured.holding instructions).rewound :=
    frame_preparation written
  have entries := order.room
  have count : (configured.holding instructions).rewound.peek .instSize = .ofNat instructions.size := by
    -- Nothing is written to the size after it is set.
    have same := Written.refl [.instPtr, .irqStatus]
      ((configured.storing instructions).write .instSize (.ofNat instructions.size))
    have later := (same.write .instPtr rfl (by decide) 0).rewound (by decide)
    exact (later.registers .instSize (by decide)).trans (peek_poke_same _ _ _)
  have window : configured.memory.instructions.size = profile.instEntries.toNat * 8 :=
    written.frame.size.trans order.size
  exact {
    running := (congrArg (·.hang) written.rest).trans running
    sound := (congrArg (·.fault) written.rest).trans sound
    lowered := frame.registers .ctrl (by decide) ▸ order.lowered
    loaded := loaded_image configured.memory.instructions (by omega)
    size := by
      rw [count, UInt32.toNat_ofNat_of_lt' (by omega), Array.length_toList]
    room := by
      rw [Array.length_toList]
      omega
    enabled := by
      rw [frame.registers .perfCtrl (by decide)]
      exact enabled }

theorem finished_launched (order : InOrder profile 0 sim) (running : sim.hang = false)
    (sound : sim.fault = none) (enabled : sim.peek .perfCtrl &&& PerfCtrl.enable ≠ 0)
    (written : Written Host.layerRegisters sim configured)
    (fits : instructions.size ≤ profile.instEntries.toNat) (runsOn : Tally.RunsOn instructions.toList) :
    Finished instructions.toList sim (configured.holding instructions).launched := by
  have ready := ready_preparation order running sound enabled written fits
  have finished := finished_start ready runsOn
  exact {
    charged := finished.charged.of_frame (frame_preparation written) (.refl [] _) (by decide)
    pointer := finished.pointer
    status := finished.status
    pending := finished.pending.trans (congrArg (·.latency) written.rest) }

end Preparation

end NpuStack.Simulator
