import NpuStack.Proofs.Checked
import NpuStack.Proofs.Host.Invariant
import NpuStack.Proofs.Simulator.Frame
import NpuStack.Proofs.Word

/-! The simulated core between operations: it keeps the geometry it was built
with, and no start, reset or abort is left raised in its control register. -/

set_option autoImplicit false

namespace NpuStack.Simulator

def pulses : UInt32 := Ctrl.start ||| Ctrl.reset ||| Ctrl.abort

/-- No pulse of a control word is raised, other than those of a mask. -/
def Lowered (mask word : UInt32) : Prop := word &&& (pulses &&& ~~~mask) = 0

namespace Lowered

variable {mask word other : UInt32}

theorem and (lowered : Lowered mask word) (other : UInt32) : Lowered mask (word &&& other) := by
  unfold Lowered at lowered ⊢
  rw [UInt32.and_comm word, UInt32.and_assoc, lowered, UInt32.and_zero]

theorem or (left : Lowered mask word) (right : Lowered mask other) : Lowered mask (word ||| other) := by
  unfold Lowered at left right ⊢
  rw [or_and_distrib, left, right, UInt32.or_self]

theorem self (mask : UInt32) : Lowered mask mask := by
  unfold Lowered
  rw [UInt32.and_comm pulses, ← UInt32.and_assoc, UInt32.and_not_self, UInt32.zero_and]

theorem lift (lowered : Lowered 0 word) (mask : UInt32) : Lowered mask (word ||| mask) := by
  refine or ?_ (self mask)
  unfold Lowered at lowered ⊢
  rw [UInt32.not_zero, UInt32.and_neg_one] at lowered
  rw [← UInt32.and_assoc, lowered, UInt32.zero_and]

theorem lower (lowered : Lowered mask word) : Lowered 0 (word &&& ~~~mask) := by
  unfold Lowered at lowered ⊢
  rw [UInt32.not_zero, UInt32.and_neg_one, UInt32.and_assoc, UInt32.and_comm (~~~mask), lowered]

theorem enable : Lowered 0 Ctrl.enable := rfl

end Lowered

/-- A core as its profile describes it, with no bit raised other than those of a mask. -/
structure InOrder (profile : Profile) (mask : UInt32) (sim : Simulator) : Prop where
  geometry : sim.profile = profile
  config : sim.peek .config = profile.config
  base : sim.memory.instructions.base = AddressMap.instructions
  size : sim.memory.instructions.size = profile.instEntries.toNat * 8
  room : profile.instEntries.toNat * 8 < UInt32.size
  lowered : Lowered mask (sim.peek .ctrl)

/-- A change that leaves alone what no operation of the host changes, and the control register.
Scripts, memories and all other registers may be different. -/
structure Altered (before after : Simulator) : Prop where
  profile : after.profile = before.profile
  base : after.memory.instructions.base = before.memory.instructions.base
  size : after.memory.instructions.size = before.memory.instructions.size
  config : after.peek .config = before.peek .config
  ctrl : after.peek .ctrl = before.peek .ctrl

variable {profile : Profile} {mask : UInt32} {sim after : Simulator} {touched : List Register}

theorem Frame.altered (frame : Frame touched sim after)
    (apart : .config ∉ touched ∧ .ctrl ∉ touched) : Altered sim after where
  profile := frame.profile
  base := frame.base
  size := frame.size
  config := frame.registers _ apart.1
  ctrl := frame.registers _ apart.2

theorem InOrder.of_altered (order : InOrder profile mask sim) (change : Altered sim after) :
    InOrder profile mask after where
  geometry := change.profile.trans order.geometry
  config := change.config.trans order.config
  base := change.base.trans order.base
  size := change.size.trans order.size
  room := order.room
  lowered := change.ctrl ▸ order.lowered

theorem touchedBy_apart {reg : Register} (other : reg ≠ .ctrl) :
    .config ∉ touchedBy reg ∧ .ctrl ∉ touchedBy reg := by
  cases reg <;> first | exact absurd rfl other | decide

theorem stable_inOrder (profile : Profile) (mask : UInt32) :
    Link.Stable (· ≠ .ctrl) fun link : Link Simulator => InOrder profile mask link.bus where
  read link reg order := order.of_altered ((frame_read link.bus reg).altered (by decide))
  write link reg value other order :=
    order.of_altered ((frame_write link.bus value other).altered (touchedBy_apart other))
  store link addr data bus stored order := by
    obtain ⟨memory, found, rfl⟩ := exists_memory stored
    exact order.of_altered ((frame_store found).altered (by decide))
  time _ _ order := order

section Writes

/-- What stays in the control register: a start is taken back once it is carried out. -/
def storedCtrl (value : UInt32) : UInt32 :=
  if value &&& (Ctrl.reset ||| Ctrl.abort) != 0 then value
  else if value &&& Ctrl.start != 0 then value &&& ~~~Ctrl.start else value

theorem frame_onCtrl (sim : Simulator) (value : UInt32) :
    Frame (.ctrl :: programRegisters) sim (sim.onCtrl value) := by
  have same (touched : List Register) : Frame touched sim { sim with pending := 0 } :=
    ⟨rfl, rfl, rfl, fun _ _ => rfl⟩
  unfold onCtrl
  split
  · exact ((same _).poke _ (by decide)).poke _ (by decide)
  · split
    · exact ((Frame.refl _ sim).poke _ (by decide)).trans ((frame_runProgram _).mono (by decide))
    · exact .refl _ sim

theorem frame_write_ctrl (sim : Simulator) (value : UInt32) :
    Frame (.ctrl :: programRegisters) sim (sim.write .ctrl value) := by
  have logged : Frame (.ctrl :: programRegisters) sim
      { sim with log := sim.log.push (.ctrl, value) } := ⟨rfl, rfl, rfl, fun _ _ => rfl⟩
  exact (logged.poke _ (by decide)).trans (frame_onCtrl _ value)

def changedBy : Register → List Register
  | .ctrl => .ctrl :: programRegisters
  | reg => touchedBy reg

theorem frame_changedBy (sim : Simulator) (reg : Register) (value : UInt32) :
    Frame (changedBy reg) sim (sim.write reg value) := by
  unfold changedBy
  split
  · exact frame_write_ctrl sim value
  case h_2 other => exact frame_write sim value other

/-- What a register is known for outlasts reads, stores and time; only writes are at stake. -/
theorem stable_word (reg : Register) (good : UInt32 → Prop) {writable : Register → Prop}
    (write : ∀ (sim : Simulator) other value, writable other → good (sim.peek reg) →
      good ((sim.write other value).peek reg)) :
    Link.Stable writable fun link : Link Simulator => good (link.bus.peek reg) where
  read link other held := by
    rw [← (frame_read link.bus other).registers reg List.not_mem_nil] at held
    exact held
  write link other value inside held := write link.bus other value inside held
  store link addr data bus stored held := by
    obtain ⟨memory, _, rfl⟩ := exists_memory stored
    exact held
  time _ _ held := held

/-- A register keeps its word while none is written that changes it. -/
theorem stable_peek (reg : Register) (word : UInt32) :
    Link.Stable (reg ∉ changedBy ·) fun link : Link Simulator => link.bus.peek reg = word :=
  stable_word reg (· = word) fun sim other value apart held =>
    ((frame_changedBy sim other value).registers reg apart).trans held

theorem peek_ctrl_write (sim : Simulator) (value : UInt32) :
    (sim.write .ctrl value).peek .ctrl = storedCtrl value := by
  show (onCtrl (poke _ .ctrl value) value).peek .ctrl = storedCtrl value
  unfold onCtrl storedCtrl
  split
  · show (poke (poke _ .errorCode 0) .status idleStatus).peek .ctrl = value
    rw [peek_poke_of_ne _ _ (by decide), peek_poke_of_ne _ _ (by decide)]
    exact peek_poke_same _ _ _
  · split
    · rw [(frame_runProgram _).registers .ctrl (by decide), peek_poke_same]
    · rw [peek_poke_same]

theorem lowered_storedCtrl {word : UInt32} (lowered : Lowered mask word) :
    Lowered mask (storedCtrl word) := by
  unfold storedCtrl
  split
  · exact lowered
  · split
    · exact lowered.and _
    · exact lowered

theorem lowered_storedCtrl_of_start {word : UInt32} (lowered : Lowered Ctrl.start word) :
    Lowered 0 (storedCtrl word) := by
  -- With the start masked out, the pulses are the reset and the abort.
  have others : word &&& (Ctrl.reset ||| Ctrl.abort) = 0 := lowered
  unfold storedCtrl
  rw [if_neg (by simp [others])]
  split
  · exact lowered.lower
  case isFalse absent =>
    have start : word &&& Ctrl.start = 0 := by simpa using absent
    show word &&& (Ctrl.start ||| (Ctrl.reset ||| Ctrl.abort)) = 0
    rw [UInt32.and_comm, or_and_distrib, UInt32.and_comm, start, UInt32.and_comm, others]
    rfl

theorem InOrder.write_ctrl {raised value : UInt32} (order : InOrder profile mask sim)
    (lowered : Lowered raised (storedCtrl value)) :
    InOrder profile raised (sim.write .ctrl value) := by
  have frame := frame_write_ctrl sim value
  exact {
    geometry := frame.profile.trans order.geometry
    config := (frame.registers .config (by decide)).trans order.config
    base := frame.base.trans order.base
    size := frame.size.trans order.size
    room := order.room
    lowered := peek_ctrl_write sim value ▸ lowered }

end Writes

theorem guarded_inOrder (profile : Profile) :
    Link.Guarded (fun _ => True) (fun link : Link Simulator => InOrder profile 0 link.bus)
      fun mask link => InOrder profile mask link.bus where
  stable := (stable_inOrder profile 0).mono fun _ other => other.2
  pulsing mask := (stable_inOrder profile mask).mono fun _ other => other.2
  start _ _ order := order.write_ctrl (lowered_storedCtrl_of_start (order.lowered.lift _))
  enable _ _ order := order.write_ctrl (lowered_storedCtrl (order.lowered.or .enable))
  disable _ _ order := order.write_ctrl (lowered_storedCtrl (order.lowered.and _))
  lift _ _ mask order := order.write_ctrl (lowered_storedCtrl (order.lowered.lift mask))
  lower _ _ _ order := order.write_ctrl (lowered_storedCtrl order.lowered.lower)
  release _ _ _ order := order.write_ctrl (lowered_storedCtrl .enable)

/-- A core that has just been switched on shows its identity and nothing else. -/
theorem peek_ofProfile (built : ofProfile profile = .ok sim) {reg : Register}
    (apart : reg ∉ [.version, .config, .status]) : sim.peek reg = 0 := by
  obtain ⟨memory, _, same⟩ := bind_eq_ok.mp built
  cases same
  simp only [List.mem_cons, List.not_mem_nil, or_false, not_or] at apart
  have zero : RegisterFile.zero.get reg = 0 := by simp [RegisterFile.zero, RegisterFile.get]
  rw [← zero]
  exact (RegisterFile.get_set_of_ne _ _ (Ne.symm apart.2.2)).trans
    ((RegisterFile.get_set_of_ne _ _ (Ne.symm apart.2.1)).trans
      (RegisterFile.get_set_of_ne _ _ (Ne.symm apart.1)))

theorem inOrder_ofProfile (built : ofProfile profile = .ok sim) : InOrder profile 0 sim := by
  obtain ⟨memory, zeroed, same⟩ := bind_eq_ok.mp built
  cases same
  obtain ⟨instBytes, counted, same⟩ := bind_eq_ok.mp zeroed
  cases same
  have bytes : profile.instEntries.toNat * 8 = instBytes.toNat := Checked.mul32_eq_ok.mp counted
  have ctrl := peek_ofProfile built (show .ctrl ∉ _ by decide)
  exact {
    geometry := rfl
    config := by simp [peek]
    base := rfl
    size := bytes.symm
    room := bytes ▸ instBytes.toNat_lt
    lowered := by rw [ctrl]; exact UInt32.zero_and }

end NpuStack.Simulator

namespace NpuStack

/-- Between operations the simulated core is in order. -/
theorem Reachable.inOrder {profile : Profile} {host : Host Simulator}
    (reached : Reachable (fun sim => Simulator.ofProfile profile = .ok sim) Simulator.Altered host) :
    Simulator.InOrder profile 0 host.link.bus :=
  reached.kept (Simulator.guarded_inOrder profile) (fun _ _ built => Simulator.inOrder_ofProfile built)
    fun _ _ change order => order.of_altered change

end NpuStack
