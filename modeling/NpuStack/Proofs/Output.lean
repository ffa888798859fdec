import NpuStack.Proofs.Host.Slot
import NpuStack.Proofs.Recovery

/-! Reading output. The engine copies it to the staging window, from where it is
read. All of it arrives and nothing else is touched, or the caller keeps what was
there before; which of the two is decided by the engine and the source alone. -/

set_option autoImplicit false

namespace NpuStack

namespace DeviceMemory

variable {memory after : DeviceMemory} {src dst : UInt32} {len : Nat} {bytes : ByteArray}

theorem size_of_load? (found : memory.load? src len = some bytes) : bytes.size = len := by
  unfold load? at found
  split at found
  · cases found
    exact Array.size_ofFn
  · cases found

section Copy

variable {region : Region} {offset : Nat} (apart : Apart memory.layout)
  (covers : (memory.layout region).Covers dst len offset) (occupied : 0 < len)
include apart covers occupied

/-- A copy puts what the source holds where the target lies. -/
theorem copy?_eq (src : UInt32) : memory.copy? src dst len =
    (memory.load? src len).map (memory.writeAt region offset) := by
  rw [copy?, load?, locate?_eq apart covers occupied]
  cases memory.locate? src len <;> rfl

theorem load?_writeAt (held : bytes.size = len) :
    (memory.writeAt region offset bytes).load? dst len = some bytes := by
  rw [← layout_writeAt memory region offset bytes] at apart covers
  rw [load?, locate?_eq apart covers occupied]
  dsimp only
  rw [window_writeAt_same, ← held, Window.read_write_same]

end Copy

end DeviceMemory

namespace Simulator

variable {sim : Simulator} {d : Descriptor}

/-- The engine takes a request: its slot is free, or a look finds it so. -/
def TakesRequest (sim : Simulator) : Prop :=
  sim.peek .dmaStatus &&& DmaStatus.busy = 0 ∨ sim.peek .dmaStatus &&& DmaStatus.done ≠ 0

def CarriesOut (sim : Simulator) (d : Descriptor) : Prop :=
  sim.TakesRequest ∧ (sim.requested d).peek .dmaStatus &&& DmaStatus.done ≠ 0

/-- What is at an address can be had through the engine: it takes requests, is not scripted to hang or
to fail, and there is something at the address. -/
structure Delivers (sim : Simulator) (src : UInt32) (len : Nat) : Prop where
  taken : sim.TakesRequest
  moving : sim.dmaHang = false
  sound : sim.dmaFault = false
  mapped : sim.memory.load? src len ≠ none

/-- Only a transfer that nothing disturbs shows its end. -/
theorem undisturbed_of_done (done : (sim.requested d).peek .dmaStatus &&& DmaStatus.done ≠ 0) :
    sim.dmaHang = false ∧ sim.dmaFault = false := by
  have moving := moving_of_done done
  refine ⟨moving, ?_⟩
  obtain ⟨started, written, _, _, _, run⟩ := exists_started sim d
  rw [← congrArg (·.dmaHang) written.rest] at moving
  rw [← congrArg (·.dmaFault) written.rest]
  rw [run, moving, if_neg Bool.false_ne_true] at done
  cases fault : started.dmaFault with
  | false => rfl
  | true =>
    rw [runTransfer, fault, if_pos rfl, raiseIrq, peek_poke_of_ne _ _ (by decide), peek_poke_same]
      at done
    exact absurd rfl done

theorem carriesOut_iff_delivers (apart : DeviceMemory.Apart sim.memory.layout)
    (covers : (sim.memory.layout .staging).Covers d.dst d.len.toNat 0) (occupied : 0 < d.len.toNat) :
    sim.CarriesOut d ↔ sim.Delivers d.src d.len.toNat := by
  have copy := DeviceMemory.copy?_eq apart covers occupied d.src
  constructor
  · rintro ⟨taken, done⟩
    obtain ⟨moving, sound⟩ := undisturbed_of_done done
    refine ⟨taken, moving, sound, fun missing => ?_⟩
    have copied := copied_requested done
    rw [copy, missing] at copied
    cases copied
  · rintro ⟨taken, moving, sound, mapped⟩
    have found : sim.memory.copy? d.src d.dst d.len.toNat ≠ none := by
      rwa [copy, ne_eq, Option.map_eq_none_iff]
    refine ⟨taken, ?_⟩
    rw [done_requested moving sound found]
    decide

theorem written_linear (linear : d.is2d = false) : Bus.written d.writes sim = sim.requested d := by
  unfold Descriptor.writes
  rw [linear]
  rfl

end Simulator

namespace Link

variable {link : Link Simulator} {d : Descriptor} {stop : Trap → Prop}

theorem yields_waitForSlot (engine : Engine) (done : link.bus.peek .dmaStatus &&& DmaStatus.done ≠ 0) :
    yields engine.waitForSlot (fun _ after => after = link) link := by
  have waited := yields_engineWait engine Engine.slotTimeout done
  unfold yields at waited ⊢
  unfold Engine.waitForSlot
  generalize engine.wait Engine.slotTimeout link = run at waited ⊢
  rcases run with ⟨cause | result, after⟩
  case error => exact waited.elim
  case ok => exact waited

/-- A request is made as soon as the slot is free, and not at all if it stays taken. -/
theorem wp_engineStart_taken (engine : Engine) (valid : d.validate = .ok ()) (linear : d.is2d = false)
    (late : UInt64.size ≤ link.clock.now.toNat + Engine.slotTimeout.toNat → stop .endlessWait) :
    wp (engine.start d)
      (fun _ after => link.bus.TakesRequest ∧ after = ⟨link.bus.requested d, link.clock⟩)
      (fun _ _ => ¬link.bus.TakesRequest) stop link := by
  have request (taken : link.bus.TakesRequest) : wp (engine.request d)
      (fun _ after => link.bus.TakesRequest ∧ after = ⟨link.bus.requested d, link.clock⟩)
      (fun _ _ => ¬link.bus.TakesRequest) stop link := by
    unfold wp
    rw [Engine.request_eq, Simulator.written_linear linear]
    exact ⟨taken, rfl⟩
  by_cases free : link.bus.peek .dmaStatus &&& DmaStatus.busy = 0
  case pos =>
    have idle : ¬Engine.Finds DmaStatus.busy 0 link.bus := fun held => held free
    exact wp_of_eq (Engine.start_free valid idle) (request (.inl free))
  case neg =>
    have held : Engine.Finds DmaStatus.busy 0 link.bus := free
    refine wp_of_eq (Engine.start_held valid held) ?_
    rw [wp_bind]
    by_cases done : link.bus.peek .dmaStatus &&& DmaStatus.done ≠ 0
    case pos =>
      exact ((yields_waitForSlot engine done).imp fun _ _ same => same ▸ request (.inr done)).wp
    case neg =>
      exact (wp_waitForSlot engine late).imp (fun _ _ ended => absurd ended.2 done)
        fun _ _ _ taken => taken.elim free done

end Link

namespace Host

variable {host : Host Simulator} {d : Descriptor} {stop : Trap → Prop}

theorem wp_startTransfer_taken (valid : d.validate = .ok ()) (linear : d.is2d = false)
    (late : UInt64.size ≤ host.link.clock.now.toNat + Engine.slotTimeout.toNat → stop .endlessWait) :
    wp (startTransfer d) (fun _ after => host.link.bus.TakesRequest ∧ ∃ engine, after = { host with
        link := ⟨host.link.bus.requested d, host.link.clock⟩, engine })
      (fun _ _ => ¬host.link.bus.TakesRequest) stop host := by
  unfold startTransfer
  rw [wp_bind, wp_get, wp_bind, wp_onLink]
  refine (Link.wp_engineStart_taken host.engine valid linear late).imp ?_ fun _ _ refused => refused
  rintro engine _ ⟨taken, rfl⟩
  exact ⟨taken, engine, rfl⟩

theorem wp_waitTransfer_done {timeout : UInt64} (finite : timeout ≠ 0)
    (late : UInt64.size ≤ host.link.clock.now.toNat + timeout.toNat → stop .endlessWait) :
    wp (waitTransfer timeout)
      (fun _ after => after = host ∧ host.link.bus.peek .dmaStatus &&& DmaStatus.done ≠ 0)
      (fun _ _ => ¬host.link.bus.peek .dmaStatus &&& DmaStatus.done ≠ 0) stop host := by
  by_cases done : host.link.bus.peek .dmaStatus &&& DmaStatus.done ≠ 0
  case pos => exact ((yields_waitTransfer timeout done).imp fun _ _ same => ⟨same, done⟩).wp
  case neg => exact (wp_waitTransfer finite fun _ => late).imp (fun _ _ ended => ended) fun _ _ _ => done

/-- A transfer succeeds exactly if the engine carries it out. -/
theorem wp_transfer_carried (host : Host Simulator) (valid : d.validate = .ok ())
    (linear : d.is2d = false)
    (late : UInt64.size ≤ host.link.clock.now.toNat + transferTimeout.toNat → stop .endlessWait) :
    wp (transfer d) (fun _ after => host.link.bus.CarriesOut d ∧ ∃ engine, after = { host with
        link := ⟨host.link.bus.requested d, host.link.clock⟩, engine })
      (fun _ _ => ¬host.link.bus.CarriesOut d) stop host := by
  have slotLate (reached : UInt64.size ≤ host.link.clock.now.toNat + Engine.slotTimeout.toNat) :
      stop .endlessWait := by
    have shorter : Engine.slotTimeout.toNat ≤ transferTimeout.toNat := by decide
    exact late (by omega)
  unfold transfer
  rw [wp_bind]
  have started := wp_noting (wp_startTransfer_taken valid linear slotLate)
  refine started.imp ?_ fun _ _ refused carries => refused carries.1
  rintro _ asked ⟨taken, engine, same⟩
  have clock : asked.link.clock = host.link.clock := by rw [same]
  have bus : asked.link.bus = host.link.bus.requested d := by rw [same]
  rw [← clock] at late
  refine (wp_noting (wp_waitTransfer_done (by decide) late)).imp ?_ fun _ _ undone carries => ?_
  · rintro _ _ ⟨rfl, done⟩
    rw [bus] at done
    exact ⟨⟨taken, done⟩, engine, same⟩
  · rw [bus] at undone
    exact undone carries.2

section Reading

variable {size : Nat} (apart : DeviceMemory.Apart host.link.bus.memory.layout)
  (covers : (host.link.bus.memory.layout .staging).Covers AddressMap.staging size 0)
  (occupied : 0 < size) (fits : size ≤ AddressMap.stagingBytes)
  (late : UInt64.size ≤ host.link.clock.now.toNat + transferTimeout.toNat → stop .endlessWait)
include apart covers occupied fits late

theorem wp_transfer_output (src : UInt32) :
    wp (transfer (.linear .actOut src AddressMap.staging (.ofNat size)))
      (fun _ after => host.link.bus.Delivers src size ∧
        ∃ bytes, host.link.bus.memory.load? src size = some bytes ∧
          after.link.bus.memory = host.link.bus.memory.writeAt .staging 0 bytes)
      (fun _ _ => ¬host.link.bus.Delivers src size) stop host := by
  obtain ⟨d, described⟩ : ∃ d, d = Descriptor.linear .actOut src AddressMap.staging (.ofNat size) :=
    ⟨_, rfl⟩
  have source : d.src = src := by rw [described]; rfl
  have target : d.dst = AddressMap.staging := by rw [described]; rfl
  have length : d.len.toNat = size := by
    rw [described]
    exact toNat_ofNat_staged fits
  have some := ofNat_staged_ne_zero fits occupied
  have valid : d.validate = .ok () := described ▸ Descriptor.validate_linear _ _ _ some
  have linear : d.is2d = false := described ▸ Descriptor.is2d_linear _ _ _ _
  rw [← target, ← length] at covers
  rw [← length] at occupied
  have carried := Simulator.carriesOut_iff_delivers apart covers occupied
  have copy := DeviceMemory.copy?_eq apart covers occupied d.src
  rw [source, length] at carried
  rw [← described]
  refine (wp_transfer_carried host valid linear late).imp ?_ fun _ _ refused delivers =>
    refused (carried.mpr delivers)
  rintro _ asked ⟨carries, engine, same⟩
  have copied := Simulator.copied_requested carries.2
  rw [copy, source, length] at copied
  obtain ⟨bytes, found, written⟩ := Option.map_eq_some_iff.mp copied
  refine ⟨carried.mp carries, bytes, found, ?_⟩
  rw [written, same]

/-- The slice is filled behind the transfer, and only once that has ended well. -/
theorem wp_drainOutput {buffer : ByteArray} (room : size ≤ buffer.size) :
    wp (drainOutput size) (fun _ after =>
        host.link.bus.Delivers (host.link.bus.peek .actOutBase) size ∧
        ∃ bytes, host.link.bus.memory.load? (host.link.bus.peek .actOutBase) size = some bytes ∧
          after.1.link.bus.memory = host.link.bus.memory.writeAt .staging 0 bytes ∧
          after.2 = replaceFront buffer bytes)
      (fun _ after => ¬host.link.bus.Delivers (host.link.bus.peek .actOutBase) size ∧ after.2 = buffer)
      stop (host, buffer) := by
  have look : wp (Host.read .actOutBase)
      (fun word after => word = host.link.bus.peek .actOutBase ∧ after = host) (fun _ _ => False) stop
      host := ⟨rfl, rfl⟩
  have length : (buffer.extract 0 size).size = size := by
    rw [ByteArray.size_extract]
    omega
  unfold drainOutput
  rw [wp_bind, wp_onHost]
  refine look.imp ?_ fun _ _ no => no.elim
  rintro _ _ ⟨rfl, rfl⟩
  rw [wp_bind]
  show wp (onHost (transfer (.linear .actOut _ AddressMap.staging _)) >>= _) _ _ _ _
  rw [wp_bind, wp_onHost]
  refine (wp_transfer_output apart covers occupied fits late _).imp ?_ fun _ _ refused => ⟨refused, rfl⟩
  rintro _ asked ⟨delivers, bytes, found, written⟩
  have loaded := DeviceMemory.load?_writeAt apart covers occupied
    (DeviceMemory.size_of_load? found)
  rw [← written] at loaded
  have filled : Link.load AddressMap.staging (asked.link, buffer.extract 0 size) =
      (.ok (), asked.link, bytes) := by
    simp only [Link.load, Bus.load, length, loaded]
    rfl
  show wp (fillFront AddressMap.staging size) _ _ _ _
  unfold wp fillFront
  simp only [filled]
  exact ⟨delivers, bytes, found, written, rfl⟩

end Reading

def readable (host : Host Simulator) (buffer : ByteArray) : Nat :=
  min (min buffer.size (host.link.bus.peek .actOutSize).toNat) AddressMap.stagingBytes

section Output

variable {buffer : ByteArray} (initialized : host.state.isInitialized = true)
  (inactive : host.state.isActive = false) (occupied : 0 < buffer.size)
include initialized inactive occupied

theorem readableBytes_eq : readableBytes buffer host = (.ok (host.readable buffer), host) := by
  have calm : ¬host.context.state.isActive = true := by simpa using inactive
  have look : outputSize host = (.ok (host.link.bus.peek .actOutSize), host) := rfl
  unfold readableBytes
  rw [act_bind, ensureInitialized_eq initialized]
  dsimp only
  rw [if_neg (not_isEmpty_of_pos occupied), act_bind]
  simp only [getContext]
  rw [if_neg calm, act_bind, look]
  rfl

/-- A read that is not refused is decided by how much there is to read. -/
theorem readOutput_eq : readOutput (host, buffer) =
    (if host.readable buffer = 0 then pure 0 else do
      onHost (setState .draining)
      match ← attempt (drainOutput (host.readable buffer)) with
      | .ok () =>
        onHost (setState .done)
        return host.readable buffer
      | .error cause =>
        onHost (setState host.state)
        onHost (raise cause) : SliceM (Host Simulator) Nat) (host, buffer) := by
  unfold readOutput
  rw [act_bind]
  show (onHost (readableBytes buffer) >>= _) (host, buffer) = _
  rw [act_bind, onHost_eq, readableBytes_eq initialized inactive occupied]
  dsimp only
  by_cases nothing : host.readable buffer = 0
  · rw [if_pos nothing, if_pos nothing]
  · rw [if_neg nothing, if_neg nothing]
    rfl

theorem readOutput_nothing (nothing : host.readable buffer = 0) :
    readOutput (host, buffer) = (.ok 0, host, buffer) := by
  rw [readOutput_eq initialized inactive occupied, if_pos nothing]
  rfl

/-- Output is read as a whole if the core delivers it, and not at all otherwise. -/
theorem wp_readOutput (some : 0 < host.readable buffer)
    (apart : DeviceMemory.Apart host.link.bus.memory.layout)
    (covers : (host.link.bus.memory.layout .staging).Covers AddressMap.staging (host.readable buffer) 0)
    (late : UInt64.size ≤ host.link.clock.now.toNat + transferTimeout.toNat → stop .endlessWait) :
    wp readOutput
      (fun count after => count = host.readable buffer ∧
        host.link.bus.Delivers (host.link.bus.peek .actOutBase) (host.readable buffer) ∧
        ∃ bytes, host.link.bus.memory.load? (host.link.bus.peek .actOutBase) (host.readable buffer) =
            .some bytes ∧
          after.1.link.bus.memory = host.link.bus.memory.writeAt .staging 0 bytes ∧
          after.1.state = .done ∧ after.2 = replaceFront buffer bytes)
      (fun _ after => ¬host.link.bus.Delivers (host.link.bus.peek .actOutBase) (host.readable buffer) ∧
        after.1.state = host.state ∧ after.2 = buffer) stop (host, buffer) := by
  have fits : host.readable buffer ≤ AddressMap.stagingBytes := Nat.min_le_right _ _
  have room : host.readable buffer ≤ buffer.size := (Nat.min_le_left _ _).trans (Nat.min_le_left _ _)
  refine wp_of_eq (readOutput_eq initialized inactive occupied) ?_
  rw [if_neg (Nat.ne_of_gt some), wp_bind, wp_onHost, wp_setState, wp_bind, wp_attempt]
  have drained := @wp_drainOutput { host with context.state := .draining } stop _ apart covers some
    fits late _ room
  refine drained.imp ?_ fun _ _ refused => ?_
  · rintro _ _ ⟨delivers, bytes, found, written, filled⟩
    exact ⟨rfl, delivers, bytes, found, written, rfl, filled⟩
  · exact ⟨refused.1, rfl, refused.2⟩

end Output

theorem toList_replaceFront (buffer bytes : ByteArray) : (replaceFront buffer bytes).data.toList =
    bytes.data.toList ++ buffer.data.toList.drop bytes.size := by
  have pieces : (replaceFront buffer bytes).data = buffer.data.extract 0 0 ++
      bytes.data.extract 0 (0 + bytes.size) ++
      buffer.data.extract (0 + min bytes.size (bytes.data.size - 0)) buffer.data.size := rfl
  have front : bytes.data.toList.take bytes.size = bytes.data.toList := List.take_length
  have back : (buffer.data.toList.drop bytes.size).take (buffer.size - bytes.size) =
      buffer.data.toList.drop bytes.size := List.take_of_length_le (by simp)
  rw [pieces]
  simp [front, back]

/-- A read of output comes back, with an answer and with the caller's buffer. -/
def Reads (host : Host Simulator) (buffer : ByteArray) (answer : Except HostError Nat)
    (after : Host Simulator) (filled : ByteArray) : Prop :=
  attempt readOutput (host, buffer) = (.ok answer, after, filled)

end Host

theorem RunState.inactive_of_settled {state : RunState} (settled : state.settled = true)
    (still : state ≠ .running) : state.isActive = false := by
  cases state with
  | running => exact absurd rfl still
  | draining => cases settled
  | _ => rfl

/-- Output is read as a whole or not at all. What decides is whether the core delivers it, and only a
clock that is about to stop can keep the answer back. -/
theorem readOutput_exact {profile : Profile} {host : Host Simulator} {buffer : ByteArray}
    (reached : Reachable (fun sim => Simulator.ofProfile profile = .ok sim)
      (fun before after => after.memory.layout = before.memory.layout) host)
    (apart : DeviceMemory.Apart profile.layout) (initialized : host.state.isInitialized = true)
    (still : host.state ≠ .running) (occupied : 0 < buffer.size) :
    let src := host.link.bus.peek .actOutBase
    let size := min (min buffer.size (host.link.bus.peek .actOutSize).toNat) AddressMap.stagingBytes
    (size = 0 → host.Reads buffer (.ok 0) host buffer) ∧
    (0 < size →
      (∀ answer after filled, host.Reads buffer answer after filled →
        match answer with
        | .ok count => count = size ∧ host.link.bus.Delivers src size ∧
          ∃ bytes, host.link.bus.memory.load? src size = some bytes ∧ bytes.size = size ∧
            filled.data.toList = bytes.data.toList ++ buffer.data.toList.drop size ∧
            after.link.bus.memory = host.link.bus.memory.writeAt .staging 0 bytes ∧
            (∀ region, region ≠ .staging →
              after.link.bus.memory.window region = host.link.bus.memory.window region) ∧
            after.state = .done
        | .error _ =>
          ¬host.link.bus.Delivers src size ∧ after.state = host.state ∧ filled = buffer) ∧
      (host.link.clock.now.toNat + Host.transferTimeout.toNat < UInt64.size →
        ∃ answer after filled, host.Reads buffer answer after filled)) := by
  intro src size
  have inactive := RunState.inactive_of_settled reached.settled still
  have layout := reached.layout
  have covers := profile.covers_staging (show size ≤ AddressMap.stagingBytes from Nat.min_le_right _ _)
  rw [← layout] at apart covers
  constructor
  · intro nothing
    unfold Host.Reads attempt
    rw [Host.readOutput_nothing initialized inactive occupied nothing]
  · intro some
    have outcome (stop : Trap → Prop) := @Host.wp_readOutput host stop buffer initialized inactive
      occupied some apart covers
    refine ⟨fun answer after filled reads => ?_, fun room => ?_⟩
    · have known := (outcome (fun _ => True) fun _ => trivial).wlp.of_attempt reads
      cases answer with
      | error cause => exact known
      | ok count =>
        obtain ⟨rfl, delivers, bytes, found, written, done, same⟩ := known
        have length := DeviceMemory.size_of_load? found
        refine ⟨rfl, delivers, bytes, found, length, ?_, written, fun region other => ?_, done⟩
        · dsimp only at same
          rw [same, Host.toList_replaceFront, length]
          rfl
        · rw [written, DeviceMemory.window_writeAt_of_ne _ _ _ _ other]
    · have back := outcome (fun _ => False) fun late => absurd room (Nat.not_lt.mpr late)
      obtain ⟨answer, ⟨after, filled⟩, ended⟩ := exists_attempt_of_wp back fun _ no => no
      exact ⟨answer, after, filled, ended⟩

namespace Simulator

def finished (sim : Simulator) (hang : Bool) : Simulator :=
  let memory := sim.memory.writeAt .activations 8 ⟨#[1, 2, 3]⟩
  ({ sim with memory, dmaHang := hang }.poke .actOutBase (AddressMap.activations + 8)).poke .actOutSize 3

theorem peek_finished (sim : Simulator) (hang : Bool) :
    (sim.finished hang).peek .actOutBase = AddressMap.activations + 8 ∧
    (sim.finished hang).peek .actOutSize = 3 ∧
    (sim.finished hang).peek .dmaStatus = sim.peek .dmaStatus := by
  unfold finished
  refine ⟨?_, peek_poke_same _ _ _, ?_⟩
  · rw [peek_poke_of_ne _ _ (by decide), peek_poke_same]
  · rw [peek_poke_of_ne _ _ (by decide), peek_poke_of_ne _ _ (by decide)]
    rfl

theorem load?_finished {sim : Simulator} (hang : Bool)
    (layout : sim.memory.layout = smallProfile.layout) :
    (sim.finished hang).memory.load? (AddressMap.activations + 8) 3 = some ⟨#[1, 2, 3]⟩ := by
  have apart := smallProfile_apart
  have covers : (smallProfile.layout .activations).Covers (AddressMap.activations + 8) 3 8 :=
    ⟨by decide, by decide⟩
  rw [← layout] at apart covers
  exact DeviceMemory.load?_writeAt apart covers (by decide) rfl

end Simulator

/-- A longer buffer is filled from its start; an engine that hangs leaves it and the state alone. -/
theorem readOutput_fills_start :
    (∃ (host after : Host Simulator) (filled : ByteArray),
      host.Reads ⟨#[9, 9, 9, 9, 9]⟩ (.ok 3) after filled ∧
      filled.data.toList = [1, 2, 3, 9, 9] ∧ host.state = .loading ∧ after.state = .done) ∧
    ∃ (host after : Host Simulator) (cause : HostError),
      host.Reads ⟨#[9, 9, 9, 9, 9]⟩ (.error cause) after ⟨#[9, 9, 9, 9, 9]⟩ ∧
      host.state = .loading ∧ after.state = .loading := by
  obtain ⟨first, reached, loading, clock, status, sound⟩ : ∃ host : Host Simulator,
      Reachable (fun sim => Simulator.ofProfile smallProfile = .ok sim)
        (fun before after => after.memory.layout = before.memory.layout) host ∧
      host.state = .loading ∧ host.link.clock.now = 0 ∧ host.link.bus.peek .dmaStatus = 0 ∧
      host.link.bus.dmaFault = false :=
    ⟨attendedHost, attendedHost_reachable _, by decide +kernel⟩
  let host (hang : Bool) : Host Simulator :=
    { first with link.bus := first.link.bus.finished hang }
  have size : min (min (ByteArray.mk #[9, 9, 9, 9, 9]).size (3 : UInt32).toNat)
      AddressMap.stagingBytes = 3 := by decide
  have reads (hang : Bool) := (@readOutput_exact smallProfile (host hang) ⟨#[9, 9, 9, 9, 9]⟩
    (.alter reached (DeviceMemory.layout_writeAt _ _ _ _)) smallProfile_apart
    (congrArg RunState.isInitialized loading) (by rw [loading]; decide) (by decide)).2
  have room : first.link.clock.now.toNat + Host.transferTimeout.toNat < UInt64.size := by
    rw [clock]
    decide
  have found (hang : Bool) := Simulator.load?_finished hang reached.layout
  constructor
  · obtain ⟨base, count, engine⟩ := first.link.bus.peek_finished false
    have delivers : (host false).link.bus.Delivers (AddressMap.activations + 8) 3 :=
      ⟨.inl (by rw [engine, status]; rfl), rfl, sound, by rw [found false]; exact Option.some_ne_none _⟩
    have outcome := reads false
    rw [base, count, size] at outcome
    obtain ⟨ended, back⟩ := outcome (by decide)
    obtain ⟨answer, after, filled, read⟩ := back room
    have known := ended answer after filled read
    cases answer with
    | error cause => exact absurd delivers known.1
    | ok count =>
      obtain ⟨rfl, _, bytes, loaded, _, contents, _, _, done⟩ := known
      cases loaded.symm.trans (found false)
      exact ⟨host false, after, filled, read, contents, loading, done⟩
  · obtain ⟨base, count, _⟩ := first.link.bus.peek_finished true
    have outcome := reads true
    rw [base, count, size] at outcome
    obtain ⟨ended, back⟩ := outcome (by decide)
    obtain ⟨answer, after, filled, read⟩ := back room
    have known := ended answer after filled read
    cases answer with
    | ok count => cases known.2.1.moving
    | error cause =>
      obtain ⟨_, kept, rfl⟩ := known
      exact ⟨host true, after, cause, read, loading, kept.trans loading⟩

end NpuStack
