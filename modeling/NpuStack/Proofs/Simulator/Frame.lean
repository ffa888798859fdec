import NpuStack.Device.Simulator

/-! What an access to the simulated core leaves alone: the geometry, the place
of the instruction buffer, and every register it does not name. -/

set_option autoImplicit false

namespace NpuStack.Simulator

@[simp] theorem peek_poke_same (sim : Simulator) (reg : Register) (value : UInt32) :
    (sim.poke reg value).peek reg = value :=
  RegisterFile.get_set_same _ _ _

theorem peek_poke_of_ne (sim : Simulator) {reg other : Register} (value : UInt32)
    (apart : reg ≠ other) : (sim.poke reg value).peek other = sim.peek other :=
  RegisterFile.get_set_of_ne _ _ apart

structure Frame (touched : List Register) (before after : Simulator) : Prop where
  profile : after.profile = before.profile
  base : after.memory.instructions.base = before.memory.instructions.base
  size : after.memory.instructions.size = before.memory.instructions.size
  registers : ∀ reg, reg ∉ touched → after.peek reg = before.peek reg

namespace Frame

variable {touched more : List Register} {first second third : Simulator}

theorem refl (touched : List Register) (sim : Simulator) : Frame touched sim sim :=
  ⟨rfl, rfl, rfl, fun _ _ => rfl⟩

theorem mono (frame : Frame touched first second) (wider : touched ⊆ more) :
    Frame more first second :=
  ⟨frame.profile, frame.base, frame.size,
    fun reg outside => frame.registers reg fun inside => outside (wider inside)⟩

theorem trans (left : Frame touched first second) (right : Frame touched second third) :
    Frame touched first third :=
  ⟨right.profile.trans left.profile, right.base.trans left.base, right.size.trans left.size,
    fun reg outside => (right.registers reg outside).trans (left.registers reg outside)⟩

/-- A register of the frame is set. -/
theorem poke (frame : Frame touched first second) {reg : Register} (value : UInt32)
    (inside : reg ∈ touched) : Frame touched first (second.poke reg value) := by
  refine ⟨frame.profile, frame.base, frame.size, fun other outside => ?_⟩
  have apart : reg ≠ other := fun same => outside (same ▸ inside)
  rw [peek_poke_of_ne second value apart]
  exact frame.registers other outside

theorem raiseIrq (frame : Frame touched first second) (bits : UInt32)
    (inside : .irqStatus ∈ touched) : Frame touched first (second.raiseIrq bits) :=
  frame.poke _ inside

theorem addCounter (frame : Frame touched first second) {reg : Register} (amount : Nat)
    (inside : reg ∈ touched) : Frame touched first (second.addCounter reg amount) :=
  frame.poke _ inside

theorem addCounterPair (frame : Frame touched first second) {low high : Register} (amount : Nat)
    (insideLow : low ∈ touched) (insideHigh : high ∈ touched) :
    Frame touched first (second.addCounterPair low high amount) :=
  (frame.poke _ insideLow).poke _ insideHigh

end Frame

theorem writeAt_instructions (memory : DeviceMemory) (region : DeviceMemory.Region) (offset : Nat)
    (data : ByteArray) :
    (memory.writeAt region offset data).instructions.base = memory.instructions.base ∧
    (memory.writeAt region offset data).instructions.size = memory.instructions.size := by
  cases region <;> exact ⟨rfl, rfl⟩

theorem frame_memory {sim : Simulator} {region : DeviceMemory.Region} {offset : Nat}
    {data : ByteArray} (touched : List Register) :
    Frame touched sim { sim with memory := sim.memory.writeAt region offset data } :=
  have place := writeAt_instructions sim.memory region offset data
  ⟨rfl, place.1, place.2, fun _ _ => rfl⟩

theorem frame_store {sim : Simulator} {addr : UInt32} {data : ByteArray} {memory : DeviceMemory}
    (stored : sim.memory.store? addr data = some memory) : Frame [] sim { sim with memory } := by
  unfold DeviceMemory.store? at stored
  split at stored
  · cases stored
    exact frame_memory []
  · cases stored

/-- A store to the bus changes the memory only. -/
theorem exists_memory {sim after : Simulator} {addr : UInt32} {data : ByteArray}
    (stored : Bus.store addr data sim = .ok after) :
    ∃ memory, sim.memory.store? addr data = some memory ∧ after = { sim with memory } := by
  simp only [Bus.store] at stored
  split at stored
  case h_1 memory found =>
    cases stored
    exact ⟨memory, found, rfl⟩
  case h_2 => cases stored

def transferRegisters : List Register := [.dmaCtrl, .dmaStatus, .perfDmaCnt, .irqStatus]

theorem frame_copy {sim : Simulator} {src dst : UInt32} {len : Nat} {memory : DeviceMemory}
    (copied : sim.memory.copy? src dst len = some memory) : Frame [] sim { sim with memory } := by
  unfold DeviceMemory.copy? at copied
  split at copied
  · cases copied
    exact frame_memory []
  · cases copied

theorem frame_runTransfer (sim : Simulator) : Frame transferRegisters sim sim.runTransfer := by
  unfold runTransfer
  dsimp only
  split
  case h_1 memory found =>
    split at found
    · cases found
    · have place := frame_copy found
      have copied : Frame transferRegisters sim { sim with memory, dmaFault := false } :=
        ⟨rfl, place.base, place.size, fun _ _ => rfl⟩
      exact ((copied.poke _ (by decide)).addCounter _ (by decide)).raiseIrq _ (by decide)
  case h_2 =>
    have failed : Frame transferRegisters sim { sim with dmaFault := false } :=
      ⟨rfl, rfl, rfl, fun _ _ => rfl⟩
    exact (failed.poke _ (by decide)).raiseIrq _ (by decide)

theorem frame_onDmaCtrl (sim : Simulator) (value : UInt32) :
    Frame transferRegisters sim (sim.onDmaCtrl value) := by
  have same := Frame.refl transferRegisters sim
  unfold onDmaCtrl
  split
  · exact same.poke _ (by decide)
  · split
    · have started : Frame transferRegisters sim
          (sim.poke .dmaCtrl (value &&& ~~~DmaCtrl.start)) := same.poke _ (by decide)
      dsimp only
      split
      · exact started.poke _ (by decide)
      · exact started.trans (frame_runTransfer _)
    · exact same

theorem frame_onPerfCtrl (sim : Simulator) (value : UInt32) :
    Frame counterRegisters sim (sim.onPerfCtrl value) := by
  -- Zeroing some of the counters stays inside the frame, whichever they are.
  have zero (registers : List Register) (inside : registers ⊆ counterRegisters) (other : Simulator)
      (frame : Frame counterRegisters sim other) :
      Frame counterRegisters sim (registers.foldl (fun sim reg => sim.poke reg 0) other) := by
    induction registers generalizing other with
    | nil => exact frame
    | cons reg registers ih =>
      rw [List.cons_subset] at inside
      exact ih inside.2 _ (frame.poke 0 inside.1)
  unfold onPerfCtrl
  split
  · exact zero counterRegisters (List.Subset.refl _) sim (.refl _ sim)
  · exact .refl _ sim

theorem peek_perfCtrl_write (sim : Simulator) (value : UInt32) :
    (sim.write .perfCtrl value).peek .perfCtrl = value :=
  ((frame_onPerfCtrl _ value).registers .perfCtrl (by decide)).trans (peek_poke_same _ _ _)

/-- Registers that change when one other than the control register is written. -/
def touchedBy : Register → List Register
  | .version | .config | .status | .dmaStatus => []
  | .dmaCtrl => transferRegisters
  | .perfCtrl => .perfCtrl :: counterRegisters
  | reg => [reg]

theorem frame_write (sim : Simulator) {reg : Register} (value : UInt32) (other : reg ≠ .ctrl) :
    Frame (touchedBy reg) sim (sim.write reg value) := by
  have logged (touched : List Register) :
      Frame touched sim { sim with log := sim.log.push (reg, value) } :=
    ⟨rfl, rfl, rfl, fun _ _ => rfl⟩
  cases reg with
  | ctrl => exact absurd rfl other
  | version | config | status | dmaStatus => exact logged []
  | dmaCtrl => exact ((logged _).poke _ (by decide)).trans (frame_onDmaCtrl _ value)
  | perfCtrl =>
    exact ((logged _).poke _ (by decide)).trans ((frame_onPerfCtrl _ value).mono (by decide))
  | _ => exact (logged _).poke _ (List.mem_singleton_self _)

theorem frame_read (sim : Simulator) (reg : Register) : Frame [] sim (sim.read reg).2 := by
  unfold read
  split
  · dsimp only
    split <;> exact ⟨rfl, rfl, rfl, fun _ _ => rfl⟩
  · split <;> exact .refl [] sim
  · exact .refl [] sim

def charged : List Register :=
  [.perfCyclesLo, .perfCyclesHi, .perfMacLo, .perfMacHi, .perfInstCnt, .perfStallCnt]

theorem frame_charge (sim : Simulator) (tally : Tally) : Frame charged sim (sim.charge tally) := by
  unfold charge
  split
  · exact ((((Frame.refl _ sim).addCounterPair _ (by decide) (by decide)).addCounterPair _ (by decide)
      (by decide)).addCounter _ (by decide)).addCounter _ (by decide)
  · exact .refl _ sim

def programRegisters : List Register :=
  [.status, .errorCode, .irqStatus, .instPtr, .perfCyclesLo, .perfCyclesHi, .perfMacLo, .perfMacHi,
   .perfInstCnt, .perfStallCnt]

def tally (sim : Simulator) : Tally :=
  Tally.run sim.memory.instructions (sim.peek .instSize).toNat 0 {}

def finish (sim : Simulator) (tally : Tally) : Simulator :=
  (((sim.charge tally).poke .instPtr (.ofNat (min tally.retired (UInt32.size - 1)))).poke .status
    doneStatus).raiseIrq Irq.done

theorem runProgram_of_sound {sim : Simulator} (running : sim.hang = false) (sound : sim.fault = none) :
    sim.runProgram =
      { sim.finish sim.tally with pending := (sim.finish sim.tally).latency } := by
  unfold runProgram
  rw [if_neg (by simp [running]), sound]
  rfl

theorem peek_runProgram_of_sound {sim : Simulator} (running : sim.hang = false)
    (sound : sim.fault = none) (reg : Register) :
    sim.runProgram.peek reg = (sim.finish sim.tally).peek reg := by
  rw [runProgram_of_sound running sound]
  generalize sim.finish sim.tally = final
  rfl

theorem frame_finish (sim : Simulator) (tally : Tally) :
    Frame programRegisters sim (sim.finish tally) := by
  have charged : Frame programRegisters sim (sim.charge tally) := (frame_charge sim tally).mono (by decide)
  exact ((charged.poke _ (by decide)).poke _ (by decide)).raiseIrq _ (by decide)

theorem frame_runProgram (sim : Simulator) : Frame programRegisters sim sim.runProgram := by
  have same := Frame.refl programRegisters sim
  cases hang : sim.hang with
  | true =>
    unfold runProgram
    rw [if_pos hang]
    exact same.poke _ (by decide)
  | false =>
    cases fault : sim.fault with
    | none =>
      have ended := frame_finish sim sim.tally
      rw [runProgram_of_sound hang fault]
      exact ⟨ended.profile, ended.base, ended.size, ended.registers⟩
    | some code =>
      have cleared : Frame programRegisters sim { sim with fault := none } :=
        ⟨rfl, rfl, rfl, fun _ _ => rfl⟩
      unfold runProgram
      rw [if_neg (by simp [hang]), fault]
      exact ((cleared.poke _ (by decide)).poke _ (by decide)).raiseIrq _ (by decide)

end NpuStack.Simulator
