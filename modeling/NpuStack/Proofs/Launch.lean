import NpuStack.Proofs.Completion
import NpuStack.Proofs.Host.Fault

/-! A start is one run of the program. Every other pulse of the control register
has been taken back by the time an operation ends, so nothing is left there that
the core would obey in place of the start. -/

set_option autoImplicit false

namespace NpuStack

namespace Simulator

variable {sim after : Simulator}

theorem Rescripted.frame (change : Rescripted sim after) : Frame [.irqStatus] sim after := by
  cases change with
  | script => exact ⟨rfl, rfl, rfl, fun _ _ => rfl⟩
  | interrupt bits => exact (Frame.refl _ sim).raiseIrq bits (by decide)

/-- Faults, hangs, latency and raised interrupts are no business of the control register. -/
theorem Rescripted.altered (change : Rescripted sim after) : Altered sim after :=
  change.frame.altered (by decide)

def ending (sim : Simulator) : UInt32 :=
  if sim.hang then runningStatus else if sim.fault.isSome then errorStatus else doneStatus

theorem ending_ne_idle (sim : Simulator) : sim.ending ≠ idleStatus := by
  unfold ending
  split
  · decide
  · split <;> decide

theorem status_runProgram (sim : Simulator) : sim.runProgram.peek .status = sim.ending := by
  cases hang : sim.hang with
  | true => simp [runProgram, ending, hang]
  | false =>
    cases fault : sim.fault with
    | none =>
      rw [peek_runProgram_of_sound hang fault, status_finish]
      simp [ending, hang, fault]
    | some code =>
      simp only [runProgram, hang, fault, raiseIrq]
      simp [peek_poke_of_ne, ending, hang, fault]

/-- A program has been run once, from its first instruction on. Of the core that was there before,
only the pointer and the interrupts have been touched. -/
structure RunOnce (before after : Simulator) : Prop where
  run : ∃ ready : Simulator, Written [.instPtr, .irqStatus] before ready ∧
    ready.peek .instPtr = 0 ∧ ready.peek .irqStatus = 0 ∧ after = ready.runProgram
  status : after.peek .status = before.ending
  shown : (after.read .status).1 = if 0 < after.pending then runningStatus else before.ending

theorem runOnce_launched (lowered : Lowered 0 (sim.peek .ctrl)) : RunOnce sim sim.launched := by
  obtain ⟨ready, run, written, rewound, cleared⟩ := exists_ready lowered
  have script : ready.ending = sim.ending := by
    rw [written.rest]
    rfl
  have status : sim.launched.peek .status = sim.ending := by
    rw [run, status_runProgram, script]
  refine ⟨⟨ready, written, rewound, cleared, run⟩, status, ?_⟩
  rw [← status]
  -- While results are held back the status is not looked up at all.
  by_cases busy : 0 < sim.launched.pending
  · simp [read, busy]
  · simp [read, busy, peek]

end Simulator

/-- Between operations no start, reset or abort is raised in the control register, so that a start
runs its program once and the status shows what the script makes of it. -/
theorem start_runs_once {profile : Profile} {host : Host Simulator}
    (reached : Reachable (fun sim => Simulator.ofProfile profile = .ok sim) Simulator.Altered host) :
    host.link.bus.peek .ctrl &&& (Ctrl.start ||| Ctrl.reset ||| Ctrl.abort) = 0 ∧
    ∀ reply after, Operation.start.Step host (.ok reply) after →
      Simulator.RunOnce host.link.bus after.link.bus ∧
      after.link.bus.peek .status ≠ Simulator.idleStatus ∧
      (after.link.bus.read .status).1 ≠ Simulator.idleStatus := by
  have lowered := reached.inOrder.lowered
  refine ⟨lowered, fun reply after launch => ?_⟩
  have once : Simulator.RunOnce host.link.bus after.link.bus := by
    rw [(Host.start_ok launch).1]
    exact Simulator.runOnce_launched lowered
  refine ⟨once, ?_, ?_⟩
  · rw [once.status]
    exact host.link.bus.ending_ne_idle
  · rw [once.shown]
    split
    · decide
    · exact host.link.bus.ending_ne_idle

/-- A program that hangs is given up and aborted; the next one fails, and runs once. -/
theorem restart_runs_once :
    ∃ (host after : Host Simulator) (reply : Reply),
      host.context.state = .idle ∧ Operation.start.Step host (.ok reply) after ∧
      host.link.bus.peek .ctrl &&& (Ctrl.start ||| Ctrl.reset ||| Ctrl.abort) = 0 ∧
      Simulator.RunOnce host.link.bus after.link.bus ∧
      after.link.bus.peek .status = Simulator.errorStatus := by
  let hanging : Host Simulator :=
    { attendedHost with link.bus := { attendedHost.link.bus with hang := true } }
  let started := (Operation.start.perform hanging).2
  let waited := ((Operation.wait 1).perform started).2
  let aborted := (Operation.abort.perform waited).2
  let host : Host Simulator :=
    { aborted with link.bus := { aborted.link.bus with hang := false, fault := some 0x77 } }
  have run : Operation.comesBack (Operation.start.perform hanging).1 = true ∧
      Operation.comesBack ((Operation.wait 1).perform started).1 = true ∧
      Operation.comesBack (Operation.abort.perform waited).1 = true ∧
      host.context.state = .idle ∧ (Operation.start.perform host).1.isOk = true := by
    decide +kernel
  obtain ⟨_, starts⟩ := Operation.exists_step _ _ run.1
  obtain ⟨_, waits⟩ := Operation.exists_step _ _ run.2.1
  obtain ⟨_, aborts⟩ := Operation.exists_step _ _ run.2.2.1
  obtain ⟨reply, launch⟩ := Operation.exists_reply _ _ run.2.2.2.2
  have hangs : Simulator.Altered attendedHost.link.bus hanging.link.bus :=
    (Simulator.Rescripted.script _ _ _ _ _).altered
  have fails : Simulator.Altered aborted.link.bus host.link.bus :=
    (Simulator.Rescripted.script _ _ _ _ _).altered
  have reached : Reachable (fun sim => Simulator.ofProfile smallProfile = .ok sim) Simulator.Altered host :=
    .alter (.step (.step (.step (.alter (attendedHost_reachable _) hangs) starts) waits) aborts) fails
  obtain ⟨lowered, once⟩ := start_runs_once reached
  have ran := (once _ _ launch).1
  exact ⟨host, _, reply, run.2.2.2.1, launch, lowered, ran, ran.status⟩

end NpuStack
