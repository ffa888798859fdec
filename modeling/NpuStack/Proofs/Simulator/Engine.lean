import NpuStack.Proofs.Simulator.Memory
import NpuStack.Proofs.Simulator.Transfer

/-! The transfer engine of the simulated core. Unless a transfer is scripted to
hang or to fail it ends at once, and the next one finds the slot free; one that
hangs keeps the slot until the engine itself is told to let go. -/

set_option autoImplicit false

namespace NpuStack

structure Script where
  fault : Option UInt32 := none
  dmaFault : Bool := false
  dmaHang : Bool := false
  hang : Bool := false
  latency : UInt32 := 0

namespace Simulator

variable {sim : Simulator} {d : Descriptor}

def script (sim : Simulator) : Script := ⟨sim.fault, sim.dmaFault, sim.dmaHang, sim.hang, sim.latency⟩

section Script

theorem script_charge (sim : Simulator) (tally : Tally) : (sim.charge tally).script = sim.script := by
  unfold charge
  split <;> rfl

theorem script_runProgram (off : sim.script = {}) : sim.runProgram.script = {} := by
  rw [runProgram_of_sound (congrArg Script.hang off) (congrArg Script.fault off)]
  exact (script_charge sim sim.tally).trans off

theorem script_runTransfer (off : sim.script = {}) : sim.runTransfer.script = {} := by
  have whole : sim.dmaFault = false := congrArg Script.dmaFault off
  have same : sim.runTransfer.script = { sim.script with dmaFault := false } := by
    unfold runTransfer
    dsimp only
    split <;> rfl
  rw [same, off]

theorem script_write (off : sim.script = {}) (reg : Register) (value : UInt32) :
    (sim.write reg value).script = {} := by
  cases reg with
  | ctrl =>
    show (onCtrl _ value).script = {}
    unfold onCtrl
    split
    · exact off
    · split
      · exact script_runProgram off
      · exact off
  | dmaCtrl =>
    show (onDmaCtrl _ value).script = {}
    unfold onDmaCtrl
    split
    · exact off
    · split
      · dsimp only
        split
        · exact off
        · exact script_runTransfer off
      · exact off
  | perfCtrl =>
    show (onPerfCtrl _ value).script = {}
    unfold onPerfCtrl
    split <;> exact off
  | _ => exact off

theorem script_read (sim : Simulator) (reg : Register) : (sim.read reg).2.script = sim.script := by
  unfold read
  split
  · dsimp only
    split <;> rfl
  · split <;> rfl
  · rfl

/-- What is not scripted does not begin to be by itself. -/
theorem stable_script :
    Link.Stable (fun _ => True) fun link : Link Simulator => link.bus.script = {} where
  read link reg off := (script_read link.bus reg).trans off
  write _ reg value _ off := script_write off reg value
  store link addr data bus stored off := by
    obtain ⟨memory, _, rfl⟩ := exists_memory stored
    exact off
  time _ _ off := off

end Script

section Status

def engineWords : List UInt32 := [0, DmaStatus.busy, DmaStatus.done, DmaStatus.error]

theorem eq_busy_of_taken {word : UInt32} (known : word ∈ engineWords)
    (taken : word &&& DmaStatus.busy ≠ 0) : word = DmaStatus.busy := by
  simp only [engineWords, List.mem_cons, List.not_mem_nil, or_false] at known
  rcases known with rfl | rfl | rfl | rfl
  case inr.inl => rfl
  all_goals exact absurd (by decide) taken

theorem engine_runTransfer (sim : Simulator) : sim.runTransfer.peek .dmaStatus ∈ engineWords := by
  rcases status_runTransfer sim with ended | ended <;> simp [ended, engineWords]

theorem engine_onDmaCtrl (known : sim.peek .dmaStatus ∈ engineWords) (value : UInt32) :
    (sim.onDmaCtrl value).peek .dmaStatus ∈ engineWords := by
  unfold onDmaCtrl
  split
  · simp [engineWords]
  · split
    · dsimp only
      split
      · simp [engineWords]
      · exact engine_runTransfer _
    · exact known

theorem stable_engine :
    Link.Stable (fun _ => True) fun link : Link Simulator => link.bus.peek .dmaStatus ∈ engineWords := by
  refine stable_word .dmaStatus (· ∈ engineWords) fun sim reg value _ known => ?_
  by_cases control : reg = .dmaCtrl
  · subst control
    refine engine_onDmaCtrl ?_ value
    rw [peek_poke_of_ne _ _ (by decide)]
    exact known
  · have apart : .dmaStatus ∉ changedBy reg := by
      cases reg <;> first | exact absurd rfl control | decide
    rw [(frame_changedBy sim reg value).registers .dmaStatus apart]
    exact known

theorem engine_ofProfile {profile : Profile} (built : ofProfile profile = .ok sim) :
    sim.peek .dmaStatus ∈ engineWords := by
  rw [peek_ofProfile built (by decide)]
  decide

/-- A transfer that nothing disturbs ends as soon as it is started. -/
theorem done_requested (moving : sim.dmaHang = false) (whole : sim.dmaFault = false)
    (copied : sim.memory.copy? d.src d.dst d.len.toNat ≠ none) :
    (sim.requested d).peek .dmaStatus = DmaStatus.done := by
  obtain ⟨started, written, source, target, length, run⟩ := exists_started sim d
  have rest := written.rest
  have memory : started.memory = sim.memory := congrArg (·.memory) rest
  have still : started.dmaHang = false := (congrArg (·.dmaHang) rest).trans moving
  have sound : started.dmaFault = false := (congrArg (·.dmaFault) rest).trans whole
  rw [run, still, if_neg Bool.false_ne_true]
  unfold runTransfer
  rw [sound, source, target, length, memory]
  cases found : sim.memory.copy? d.src d.dst d.len.toNat with
  | none => exact absurd found copied
  | some copy => simp [raiseIrq, addCounter, peek_poke_of_ne]

end Status

/-- A transfer that is asked for will be made: the slot is free, and the engine is not scripted to
hang or to fail. -/
structure EngineReady (sim : Simulator) : Prop where
  free : sim.peek .dmaStatus &&& DmaStatus.busy = 0
  moving : sim.dmaHang = false
  sound : sim.dmaFault = false

end Simulator

namespace DeviceMemory

variable {memory : DeviceMemory} {region : Region} {src dst addr : UInt32} {len offset : Nat}
  {data : ByteArray}

/-- A range that lies in some window is found, in that window or in one that is asked before it. -/
theorem locate?_ne_none (covers : (memory.layout region).Covers addr len offset) :
    memory.locate? addr len ≠ none := by
  have here : (memory.window region).locate? addr len = some offset :=
    Window.locate?_eq_some.mpr covers
  have asked : memory.locate? addr len =
      (((memory.window .instructions).locate? addr len).map (Region.instructions, ·) <|>
      ((memory.window .weights).locate? addr len).map (Region.weights, ·) <|>
      ((memory.window .activations).locate? addr len).map (Region.activations, ·) <|>
      ((memory.window .staging).locate? addr len).map (Region.staging, ·)) := rfl
  rw [asked]
  cases region <;> simp [here]

theorem store?_ne_none (covers : (memory.layout region).Covers addr data.size offset) :
    memory.store? addr data ≠ none := by
  unfold store?
  split
  · exact Option.some_ne_none _
  case h_2 missed => exact absurd missed (locate?_ne_none covers)

theorem copy?_ne_none {other : Region} {position : Nat}
    (source : (memory.layout other).Covers src len position)
    (target : (memory.layout region).Covers dst len offset) : memory.copy? src dst len ≠ none := by
  obtain ⟨here, found⟩ := Option.ne_none_iff_exists'.mp (locate?_ne_none source)
  obtain ⟨there, placed⟩ := Option.ne_none_iff_exists'.mp (locate?_ne_none target)
  rw [copy?, found, placed]
  exact Option.some_ne_none _

end DeviceMemory

namespace Link

variable {link : Link Simulator} {d : Descriptor} {addr : UInt32} {data : ByteArray}
  {memory : DeviceMemory}

theorem yields_store (stored : link.bus.memory.store? addr data = some memory) :
    yields (Link.store addr data) (fun _ after => after = ⟨{ link.bus with memory }, link.clock⟩)
      link := by
  have run : Link.store addr data link = (.ok (), ⟨{ link.bus with memory }, link.clock⟩) := by
    simp only [Link.store, Bus.store, stored]
  exact yields_of_eq run rfl

theorem yields_stage (room : data.size ≤ AddressMap.stagingBytes)
    (stored : link.bus.memory.store? AddressMap.staging data = some memory) :
    yields (Link.stage data) (fun addr after => addr = AddressMap.staging ∧
      after = ⟨{ link.bus with memory }, link.clock⟩) link := by
  unfold Link.stage
  rw [yields_bind]
  refine yields_of_eq rfl (yields_skip (Nat.not_lt.mpr room) ?_)
  rw [yields_bind]
  exact (yields_store stored).imp fun _ _ same => ⟨rfl, same⟩

theorem yields_engineStart (engine : Engine) (valid : d.validate = .ok ()) (linear : d.is2d = false)
    (free : link.bus.peek .dmaStatus &&& DmaStatus.busy = 0) :
    yields (engine.start d) (fun _ after => after = ⟨link.bus.requested d, link.clock⟩) link := by
  unfold Engine.start
  rw [valid]
  dsimp only
  rw [yields_bind]
  show yields (if (link.bus.peek .dmaStatus &&& DmaStatus.busy != 0) = true then _ >>= _ else _) _ link
  exact yields_skip (by simp [free]) (yields_of_eq (request_linear engine linear link) rfl)

theorem yields_engineWait (engine : Engine) (timeout : UInt64)
    (done : link.bus.peek .dmaStatus &&& DmaStatus.done ≠ 0) :
    yields (engine.wait timeout) (fun _ after => after = link) link := by
  have look : Engine.probe link.bus = (some (.ok ()), link.bus) := if_pos (by simpa using done)
  have run : engine.wait timeout link = (.ok (), link) := by
    unfold Engine.wait Link.poll
    dsimp only
    rw [Probe.poll_answered look]
    rfl
  exact yields_of_eq run rfl

/-- The slot is taken by a transfer that does not end. -/
def Jammed (link : Link Simulator) : Prop := link.bus.peek .dmaStatus = DmaStatus.busy

theorem jammed_stable : Link.Stable (.dmaStatus ∉ Simulator.changedBy ·) Jammed :=
  Simulator.stable_peek .dmaStatus DmaStatus.busy

/-- A look at a jammed engine shows nothing, however often it is taken. -/
theorem engineWait_jammed (engine : Engine) (jammed : link.Jammed) {timeout : UInt64}
    (finite : timeout ≠ 0) : ∃ after, engine.wait timeout link =
      (.error (if link.clock.now.toNat + timeout.toNat < UInt64.size then .error (.timeout timeout)
        else .trap .endlessWait), after) := by
  have unanswered (bus : Simulator) (busy : bus.peek .dmaStatus = DmaStatus.busy) :
      ∃ next : Simulator, Engine.probe bus = (none, next) ∧ next.peek .dmaStatus = DmaStatus.busy := by
    have shown : Bus.read .dmaStatus bus = (DmaStatus.busy, bus) := by
      rw [← busy]
      rfl
    refine ⟨bus, ?_, busy⟩
    unfold Engine.probe
    rw [shown]
    rfl
  exact Link.poll_quiet unanswered jammed (Probe.interval_ne_zero engine.interval) finite

theorem turns_waitForSlot (engine : Engine) :
    Turns Jammed (fun _ => False) (engine.waitForSlot : LinkM Simulator Unit) := by
  intro link jammed
  have still := jammed_stable.preserves_waitForSlot engine link jammed
  have finite : Engine.slotTimeout ≠ 0 := by decide
  obtain ⟨after, waited⟩ := engineWait_jammed engine jammed finite
  generalize Engine.slotTimeout.toNat = limit at waited
  unfold wlp Engine.waitForSlot at still ⊢
  rw [waited] at still ⊢
  by_cases early : link.clock.now.toNat + limit < UInt64.size
  · rw [if_pos early] at still ⊢
    exact still
  · rw [if_neg early]
    trivial

theorem turns_engineStart (engine : Engine) (d : Descriptor) :
    Turns Jammed (fun _ => False) (engine.start d : LinkM Simulator Engine) := by
  intro link jammed
  unfold Engine.start
  dsimp only
  split
  · exact jammed
  · rw [wlp_bind]
    show wlp (if (link.bus.peek .dmaStatus &&& DmaStatus.busy != 0) = true then _ >>= _ else _) _ _ link
    refine wlp_guard (fun _ => ?_) fun free => ?_
    · exact (turns_waitForSlot engine link jammed).imp (fun _ _ no => no.elim) fun _ _ held => held
    · rw [jammed] at free
      exact absurd rfl free

end Link

namespace Host

variable {host : Host Simulator} {d : Descriptor}

theorem yields_startTransfer (valid : d.validate = .ok ()) (linear : d.is2d = false)
    (free : host.link.bus.peek .dmaStatus &&& DmaStatus.busy = 0) :
    yields (startTransfer d) (fun _ after => ∃ engine,
      after = { host with link := ⟨host.link.bus.requested d, host.link.clock⟩, engine }) host := by
  unfold startTransfer
  rw [yields_bind]
  refine yields_of_eq rfl ?_
  rw [yields_bind, yields_onLink]
  refine (Link.yields_engineStart host.engine valid linear free).imp fun engine link same => ?_
  rw [same]
  exact ⟨engine, rfl⟩

theorem yields_waitTransfer (timeout : UInt64)
    (done : host.link.bus.peek .dmaStatus &&& DmaStatus.done ≠ 0) :
    yields (waitTransfer timeout) (fun _ after => after = host) host := by
  unfold waitTransfer
  rw [yields_bind]
  refine yields_of_eq rfl ?_
  rw [yields_onLink]
  refine (Link.yields_engineWait host.engine timeout done).imp fun _ link same => ?_
  rw [same]

/-- A transfer that nothing disturbs, from its start to its end. -/
theorem yields_transfer (valid : d.validate = .ok ()) (linear : d.is2d = false)
    (free : host.link.bus.peek .dmaStatus &&& DmaStatus.busy = 0)
    (done : (host.link.bus.requested d).peek .dmaStatus = DmaStatus.done) :
    yields (transfer d) (fun _ after => ∃ engine,
      after = { host with link := ⟨host.link.bus.requested d, host.link.clock⟩, engine }) host := by
  unfold transfer
  rw [yields_bind]
  refine (yields_noting (yields_startTransfer valid linear free)).imp fun _ asked started => ?_
  have ended : asked.link.bus.peek .dmaStatus &&& DmaStatus.done ≠ 0 := by
    obtain ⟨engine, same⟩ := started
    rw [same, done]
    decide
  exact yields_noting ((yields_waitTransfer _ ended).imp fun _ _ same => same ▸ started)

/-- The engine makes the copy that it is asked for. -/
theorem yields_linear {src dst len : UInt32} (channel : Channel)
    (ready : host.link.bus.EngineReady) (occupied : len ≠ 0)
    (found : host.link.bus.memory.copy? src dst len.toNat ≠ none) :
    yields (transfer (.linear channel src dst len)) (fun _ after =>
      after.config = host.config ∧ after.context = host.context ∧
      Simulator.Frame Simulator.requestRegisters host.link.bus after.link.bus ∧
      host.link.bus.memory.copy? src dst len.toNat = some after.link.bus.memory) host := by
  have done : (host.link.bus.requested (.linear channel src dst len)).peek .dmaStatus =
      DmaStatus.done :=
    Simulator.done_requested ready.moving ready.sound found
  have copied : host.link.bus.memory.copy? src dst len.toNat =
      some (host.link.bus.requested (.linear channel src dst len)).memory := by
    apply Simulator.copied_requested (d := .linear channel src dst len)
    rw [done]
    decide
  refine (yields_transfer (Descriptor.validate_linear channel src dst occupied)
    (Descriptor.is2d_linear _ _ _ _) ready.free done).imp ?_
  rintro _ _ ⟨engine, rfl⟩
  exact ⟨rfl, rfl, Simulator.frame_requested _ _, copied⟩

section Jammed

def Jammed (host : Host Simulator) : Prop := host.link.Jammed

theorem jammed_stable (scope : Host.Scope) :
    Host.Stable (.dmaStatus ∉ Simulator.changedBy ·) scope Jammed where
  link _ := Link.jammed_stable
  memory _ _ _ _ _ _ held := held

theorem turns_startTransfer (d : Descriptor) : Turns Jammed (fun _ => False) (startTransfer d) := by
  refine .bind .get fun now => .never_bind fun host jammed => ?_
  rw [wlp_onLink]
  exact Link.turns_engineStart now.engine d host.link jammed

theorem turns_noting {α : Type} {action : HostM Simulator α} (never : Turns Jammed (fun _ => False) action) :
    Turns Jammed (fun _ => False) (noting action) := by
  intro host jammed
  unfold noting
  rw [wlp_bind, wlp_attempt]
  exact (never host jammed).imp (fun _ _ no => no.elim) fun _ _ still => still

theorem turns_transfer (d : Descriptor) : Turns Jammed (fun _ => False) (transfer d) :=
  .never_bind (turns_noting (turns_startTransfer d))

theorem endless_waitTransfer {timeout : UInt64} (jammed : host.Jammed) (finite : timeout ≠ 0)
    (late : UInt64.size ≤ host.link.clock.now.toNat + timeout.toNat) :
    Endless (waitTransfer timeout) host := by
  obtain ⟨after, waited⟩ := Link.engineWait_jammed host.engine jammed finite
  rw [if_neg (Nat.not_lt.mpr late)] at waited
  unfold waitTransfer
  rw [Endless, wp_bind, wp_get, wp_onLink]
  unfold wp
  rw [waited]

/-- The engine hangs in its next transfer, and the clock cannot reach the deadline of it. -/
structure Stranded (host : Host Simulator) : Prop where
  free : host.link.bus.peek .dmaStatus &&& DmaStatus.busy = 0
  hangs : host.link.bus.dmaHang = true
  late : UInt64.size ≤ host.link.clock.now.toNat + transferTimeout.toNat

/-- A transfer that hangs jams the engine, and nothing ends the wait for it. -/
theorem Stranded.endless_transfer (stranded : host.Stranded) (valid : d.validate = .ok ())
    (linear : d.is2d = false) : Endless (transfer d) host := by
  refine Endless.after ((yields_noting (yields_startTransfer valid linear stranded.free)).imp ?_)
  rintro _ _ ⟨engine, rfl⟩
  have jammed : (host.link.bus.requested d).peek .dmaStatus = DmaStatus.busy := by
    have shown := Simulator.status_requested host.link.bus d
    rwa [if_pos stranded.hangs] at shown
  exact endless_noting (endless_waitTransfer jammed (by decide) stranded.late)

end Jammed

end Host

end NpuStack
