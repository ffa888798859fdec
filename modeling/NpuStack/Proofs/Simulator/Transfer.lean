import NpuStack.Proofs.Host.Ending
import NpuStack.Proofs.Simulator.Run

/-! Transfers of the simulated core, seen from the host. A transfer that ends
well has made its copy, has touched no other register than its own, and has
taken no time; one that hangs is given up at its deadline. -/

set_option autoImplicit false

namespace NpuStack

theorem Descriptor.controlWord_starts (d : Descriptor) :
    d.controlWord &&& DmaCtrl.abort = 0 ∧ d.controlWord &&& DmaCtrl.start ≠ 0 := by
  unfold controlWord
  cases d.channel <;> cases d.is2d <;> cases d.wantsIrq <;> decide

theorem Descriptor.is2d_linear (channel : Channel) (src dst len : UInt32) :
    (linear channel src dst len).is2d = false := by
  show ((0 : UInt8) &&& flag2d != 0) = false
  decide

theorem Descriptor.validate_linear (channel : Channel) (src dst : UInt32) {len : UInt32}
    (occupied : len ≠ 0) : (linear channel src dst len).validate = .ok () := by
  have some : (linear channel src dst len).len ≠ 0 := occupied
  rw [validate, if_neg some, is2d_linear]
  simp [linear]

section Staged

variable {len : Nat} (fits : len ≤ AddressMap.stagingBytes)
include fits

/-- What the staging window holds can be counted by a word. -/
theorem toNat_ofNat_staged : (UInt32.ofNat len).toNat = len :=
  UInt32.toNat_ofNat_of_lt' (Nat.lt_of_le_of_lt fits (by decide))

theorem ofNat_staged_ne_zero (occupied : 0 < len) : UInt32.ofNat len ≠ 0 :=
  ne_zero_of_toNat_pos (by rwa [toNat_ofNat_staged fits])

end Staged

namespace Simulator

def described (sim : Simulator) (d : Descriptor) : Simulator :=
  ((sim.write .dmaSrc d.src).write .dmaDst d.dst).write .dmaLen d.len

/-- The core once a transfer in one piece has been asked for. -/
def requested (sim : Simulator) (d : Descriptor) : Simulator :=
  (sim.described d).write .dmaCtrl d.controlWord

def requestRegisters : List Register := [.dmaSrc, .dmaDst, .dmaLen] ++ transferRegisters

variable (sim : Simulator) (d : Descriptor)

theorem written_described : Written [.dmaSrc, .dmaDst, .dmaLen] sim (sim.described d) :=
  (((Written.refl _ sim).write .dmaSrc rfl (by decide) _).write .dmaDst rfl (by decide) _).write
    .dmaLen rfl (by decide) _

theorem frame_requested : Frame requestRegisters sim (sim.requested d) :=
  ((written_described sim d).frame.mono (by decide)).trans
    ((frame_write _ _ (by decide)).mono (by decide))

variable {sim d}

theorem copied_of_done (done : sim.runTransfer.peek .dmaStatus &&& DmaStatus.done ≠ 0) :
    sim.memory.copy? (sim.peek .dmaSrc) (sim.peek .dmaDst) (sim.peek .dmaLen).toNat =
      some sim.runTransfer.memory := by
  unfold runTransfer at done ⊢
  dsimp only at done ⊢
  split at done
  case h_1 memory found =>
    split at found
    · cases found
    · rw [found]
      rfl
  case h_2 missed =>
    -- The status shows an error and nothing else.
    rw [raiseIrq, peek_poke_of_ne _ _ (by decide), peek_poke_same] at done
    exact absurd rfl done

variable (sim d) in
/-- The control word starts the transfer that the registers describe. -/
theorem exists_started : ∃ started : Simulator, Written requestRegisters sim started ∧
    started.peek .dmaSrc = d.src ∧ started.peek .dmaDst = d.dst ∧ started.peek .dmaLen = d.len ∧
    sim.requested d =
      if started.dmaHang then started.poke .dmaStatus DmaStatus.busy else started.runTransfer := by
  obtain ⟨noAbort, start⟩ := d.controlWord_starts
  have described := written_described sim d
  let logged : Simulator :=
    { sim.described d with log := (sim.described d).log.push (.dmaCtrl, d.controlWord) }
  let started := (logged.poke .dmaCtrl d.controlWord).poke .dmaCtrl (d.controlWord &&& ~~~DmaCtrl.start)
  have registers (reg : Register) (other : .dmaCtrl ≠ reg) :
      started.peek reg = (sim.described d).peek reg := by
    rw [peek_poke_of_ne _ _ other, peek_poke_of_ne _ _ other]
    rfl
  have written : Written requestRegisters sim started := by
    refine ⟨?_, fun reg outside => ?_⟩
    · have same : started =
          { sim.described d with registers := started.registers, log := started.log } := rfl
      rw [same, described.rest]
    · have apart : .dmaCtrl ≠ reg := fun same => outside (same ▸ by decide)
      exact (registers reg apart).trans (described.registers reg fun inside =>
        outside (List.mem_append_left _ inside))
  refine ⟨started, written, ?_, ?_, ?_, ?_⟩
  · exact (((registers .dmaSrc (by decide)).trans (peek_poke_of_ne _ _ (by decide))).trans
      (peek_poke_of_ne _ _ (by decide))).trans (peek_poke_same _ _ _)
  · exact ((registers .dmaDst (by decide)).trans (peek_poke_of_ne _ _ (by decide))).trans
      (peek_poke_same _ _ _)
  · exact (registers .dmaLen (by decide)).trans (peek_poke_same _ _ _)
  · show onDmaCtrl _ d.controlWord = _
    rw [onDmaCtrl, if_neg (by simp [noAbort]), if_pos (by simpa using start)]

theorem copied_requested (done : (sim.requested d).peek .dmaStatus &&& DmaStatus.done ≠ 0) :
    sim.memory.copy? d.src d.dst d.len.toNat = some (sim.requested d).memory := by
  obtain ⟨started, written, source, target, length, run⟩ := exists_started sim d
  -- A transfer that hangs shows busy and one that fails shows an error; only a copy shows its end.
  rw [run] at done ⊢
  split at done
  · rw [peek_poke_same] at done
    exact absurd rfl done
  case isFalse running =>
    have memory : started.memory = sim.memory := congrArg (·.memory) written.rest
    rw [if_neg running, ← copied_of_done done, source, target, length, memory]

/-- A transfer would have to be waited for: one is under way, or the engine hangs in the next. -/
def Stalls (sim : Simulator) : Prop :=
  sim.dmaHang = true ∨ sim.peek .dmaStatus &&& DmaStatus.busy ≠ 0

theorem Written.stalls {touched : List Register} {before after : Simulator}
    (written : Written touched before after) (outside : .dmaStatus ∉ touched) (stalled : after.Stalls) :
    before.Stalls := by
  have same : after.dmaHang = before.dmaHang := congrArg (·.dmaHang) written.rest
  rwa [Stalls, same, written.registers .dmaStatus outside] at stalled

theorem status_runTransfer (sim : Simulator) :
    sim.runTransfer.peek .dmaStatus = DmaStatus.done ∨ sim.runTransfer.peek .dmaStatus = DmaStatus.error := by
  unfold runTransfer
  dsimp only
  split
  · simp [raiseIrq, addCounter, peek_poke_of_ne]
  · simp [raiseIrq, peek_poke_of_ne]

variable (sim d) in
/-- Once it is asked for, a transfer hangs or is over. -/
theorem status_requested :
    if sim.dmaHang then (sim.requested d).peek .dmaStatus = DmaStatus.busy
    else (sim.requested d).peek .dmaStatus = DmaStatus.done ∨
      (sim.requested d).peek .dmaStatus = DmaStatus.error := by
  obtain ⟨started, written, _, _, _, run⟩ := exists_started sim d
  have same : started.dmaHang = sim.dmaHang := congrArg (·.dmaHang) written.rest
  rw [run, same]
  split
  · exact peek_poke_same _ _ _
  · exact status_runTransfer started

variable (sim) in
theorem probe_eq : Engine.probe sim =
    (if sim.peek .dmaStatus &&& DmaStatus.done != 0 then (some (.ok ()), sim)
    else if sim.peek .dmaStatus &&& DmaStatus.error != 0 then
      (some (.error (.dma ("engine reported error (status "
        ++ Text.hexMarked (sim.peek .dmaStatus).toNat ++ ")"))), sim)
    else (none, sim)) := rfl

theorem hangs_of_unanswered (quiet : (Engine.probe (sim.requested d)).1 = none) : sim.dmaHang = true := by
  by_contra moving
  have ended := status_requested sim d
  rw [if_neg moving] at ended
  generalize sim.requested d = after at ended quiet
  rw [probe_eq] at quiet
  rcases ended with done | failed
  · rw [done] at quiet
    cases quiet
  · rw [failed] at quiet
    cases quiet

variable (sim d) in
theorem dmaHang_requested : (sim.requested d).dmaHang = sim.dmaHang := by
  obtain ⟨started, written, _, _, _, run⟩ := exists_started sim d
  have same : started.dmaHang = sim.dmaHang := congrArg (·.dmaHang) written.rest
  rw [run, ← same]
  split
  · rfl
  · unfold runTransfer
    dsimp only
    split <;> rfl

section Done

variable (done : (sim.requested d).peek .dmaStatus &&& DmaStatus.done ≠ 0)
include done

theorem moving_of_done : sim.dmaHang = false := by
  have shown := status_requested sim d
  split at shown
  case isTrue =>
    rw [shown] at done
    exact absurd rfl done
  case isFalse moving => exact eq_false_of_ne_true moving

/-- A transfer that has ended well leaves nothing to wait for. -/
theorem not_stalls_requested : ¬(sim.requested d).Stalls := by
  have moving := moving_of_done done
  have shown := status_requested sim d
  rw [moving, if_neg Bool.false_ne_true] at shown
  rintro (hangs | taken)
  · rw [dmaHang_requested, moving] at hangs
    cases hangs
  · rcases shown with shown | shown
    · rw [shown] at taken
      exact taken rfl
    · rw [shown] at done
      exact done rfl

end Done

end Simulator

namespace Link

variable {stop : Trap → Prop} {link : Link Simulator}

theorem wp_store {report : HostError → Link Simulator → Prop} (addr : UInt32) (data : ByteArray)
    (reports : link.bus.memory.store? addr data = none → ∀ cause after, report cause after) :
    wp (Link.store addr data) (fun _ after => ∃ memory,
      link.bus.memory.store? addr data = some memory ∧
      after = ⟨{ link.bus with memory }, link.clock⟩) report stop link := by
  unfold wp Link.store
  simp only [Bus.store]
  cases stored : link.bus.memory.store? addr data with
  | none => exact reports stored _ _
  | some memory => exact ⟨memory, rfl, rfl⟩

theorem wp_stage (data : ByteArray) :
    wp (Link.stage data) (fun addr after => addr = AddressMap.staging ∧
      data.size ≤ AddressMap.stagingBytes ∧ ∃ memory,
        link.bus.memory.store? AddressMap.staging data = some memory ∧
        after = ⟨{ link.bus with memory }, link.clock⟩) (fun _ _ => True) stop link := by
  unfold Link.stage
  rw [wp_bind]
  refine wp_guard (fun _ => trivial) fun fits => ?_
  rw [wp_bind]
  exact (wp_store AddressMap.staging data fun _ _ _ => trivial).imp
    (fun _ _ stored => ⟨rfl, Nat.le_of_not_lt fits, stored⟩) fun _ _ _ => trivial

theorem wp_engineWait (engine : Engine) {timeout : UInt64} (finite : timeout ≠ 0)
    (late : (Engine.probe link.bus).1 = none →
      UInt64.size ≤ link.clock.now.toNat + timeout.toNat → stop .endlessWait) :
    wp (engine.wait timeout) (fun _ after => after = link ∧
      link.bus.peek .dmaStatus &&& DmaStatus.done ≠ 0) (fun _ _ => True) stop link := by
  refine wp_poll ?_ (Probe.interval_ne_zero _) finite (fun _ answered => ⟨rfl, ?_⟩) late
  · rw [Simulator.probe_eq]
    split
    · rfl
    · split <;> rfl
  · rw [Simulator.probe_eq] at answered
    split at answered
    case isTrue done => simpa using done
    case isFalse => split at answered <;> cases answered

theorem wp_waitForSlot (engine : Engine)
    (late : UInt64.size ≤ link.clock.now.toNat + Engine.slotTimeout.toNat → stop .endlessWait) :
    wp engine.waitForSlot (fun _ after => after = link ∧
      link.bus.peek .dmaStatus &&& DmaStatus.done ≠ 0) (fun _ _ => True) stop link := by
  have waited := wp_engineWait engine (by decide) fun _ => late
  unfold wp at waited ⊢
  unfold Engine.waitForSlot
  generalize engine.wait Engine.slotTimeout link = run at waited ⊢
  rcases run with ⟨(cause | cause) | result, after⟩
  case error.error => cases cause <;> trivial
  case error.trap => exact waited
  case ok => exact waited

theorem request_linear (engine : Engine) {d : Descriptor} (linear : d.is2d = false)
    (link : Link Simulator) : engine.request d link =
      (.ok { engine with started := engine.started + 1 }, ⟨link.bus.requested d, link.clock⟩) := by
  unfold Engine.request
  rw [linear]
  rfl

theorem wp_engineStart (engine : Engine) {d : Descriptor} (linear : d.is2d = false)
    (late : link.bus.peek .dmaStatus &&& DmaStatus.busy ≠ 0 →
      UInt64.size ≤ link.clock.now.toNat + Engine.slotTimeout.toNat → stop .endlessWait) :
    wp (engine.start d) (fun _ after => after = ⟨link.bus.requested d, link.clock⟩) (fun _ _ => True)
      stop link := by
  have request (other : Link Simulator) (same : other = link) : wp (engine.request d)
      (fun _ after => after = ⟨link.bus.requested d, link.clock⟩) (fun _ _ => True) stop other := by
    rw [same]
    exact (yields_of_eq (request_linear engine linear link) rfl).wp
  unfold Engine.start
  split
  · trivial
  · -- A look at the status leaves the core as it is, and so does the wait for the slot.
    rw [wp_bind]
    show wp (if (link.bus.peek .dmaStatus &&& DmaStatus.busy != 0) = true then
      engine.waitForSlot >>= _ else _) _ _ _ link
    refine wp_guard (fun taken => ?_) fun _ => request link rfl
    exact (wp_waitForSlot engine (late (by simpa using taken))).imp (fun _ _ ended => request _ ended.1) fun _ _ _ => trivial

end Link

namespace Host

variable {host : Host Simulator} {stop : Trap → Prop} {d : Descriptor}

theorem wp_startTransfer (linear : d.is2d = false)
    (late : host.link.bus.peek .dmaStatus &&& DmaStatus.busy ≠ 0 →
      UInt64.size ≤ host.link.clock.now.toNat + Engine.slotTimeout.toNat → stop .endlessWait) :
    wp (startTransfer d) (fun _ after => ∃ engine, after = { host with
      link := ⟨host.link.bus.requested d, host.link.clock⟩, engine }) (fun _ _ => True) stop host := by
  unfold startTransfer
  rw [wp_bind, wp_get, wp_bind, wp_onLink]
  refine (Link.wp_engineStart host.engine linear late).imp (fun engine link same => ?_)
    fun _ _ _ => trivial
  rw [same]
  exact ⟨engine, rfl⟩

theorem wp_waitTransfer {timeout : UInt64} (finite : timeout ≠ 0)
    (late : (Engine.probe host.link.bus).1 = none →
      UInt64.size ≤ host.link.clock.now.toNat + timeout.toNat → stop .endlessWait) :
    wp (waitTransfer timeout) (fun _ after => after = host ∧
      host.link.bus.peek .dmaStatus &&& DmaStatus.done ≠ 0) (fun _ _ => True) stop host := by
  unfold waitTransfer
  rw [wp_bind, wp_get, wp_onLink]
  refine (Link.wp_engineWait host.engine finite late).imp (fun _ link ended => ?_) fun _ _ _ => trivial
  rw [ended.1]
  exact ⟨rfl, ended.2⟩

theorem wp_transfer (host : Host Simulator) (linear : d.is2d = false)
    (late : host.link.bus.Stalls →
      UInt64.size ≤ host.link.clock.now.toNat + transferTimeout.toNat → stop .endlessWait) :
    wp (transfer d) (fun _ after => ∃ bus engine,
      after = { host with link := ⟨bus, host.link.clock⟩, engine } ∧
      Simulator.Frame Simulator.requestRegisters host.link.bus bus ∧
      host.link.bus.memory.copy? d.src d.dst d.len.toNat = some bus.memory ∧ ¬bus.Stalls)
      (fun _ _ => True) stop host := by
  have slotLate : host.link.bus.peek .dmaStatus &&& DmaStatus.busy ≠ 0 →
      UInt64.size ≤ host.link.clock.now.toNat + Engine.slotTimeout.toNat → stop .endlessWait := by
    intro taken reached
    have shorter : Engine.slotTimeout.toNat ≤ transferTimeout.toNat := by decide
    exact late (.inr taken) (by omega)
  unfold transfer
  rw [wp_bind]
  refine (wp_noting (wp_startTransfer linear slotLate)).imp ?_ fun _ _ _ => trivial
  rintro _ asked ⟨engine, same⟩
  have clock : asked.link.clock = host.link.clock := by rw [same]
  have bus : asked.link.bus = host.link.bus.requested d := by rw [same]
  rw [← clock] at late
  have answered (quiet : (Engine.probe asked.link.bus).1 = none) : host.link.bus.Stalls := by
    rw [bus] at quiet
    exact .inl (Simulator.hangs_of_unanswered quiet)
  refine wp_noting ((wp_waitTransfer (by decide) fun quiet => late (answered quiet)).imp ?_
    fun _ _ _ => trivial)
  rintro _ _ ⟨rfl, done⟩
  rw [same] at done ⊢
  exact ⟨_, engine, rfl, Simulator.frame_requested _ d, Simulator.copied_requested done,
    Simulator.not_stalls_requested done⟩

end Host

end NpuStack
