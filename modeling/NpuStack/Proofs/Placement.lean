import NpuStack.Proofs.Loading
import NpuStack.Proofs.Recovery

/-! Where loaded bytes stand. Short weights are stored in place; long weights and
every input go through the staging window and are copied by the transfer engine.
The buffers afterwards do not tell which way was taken. -/

set_option autoImplicit false

namespace NpuStack

open DeviceMemory (Region Apart)

/-- Bytes have reached a buffer, by either way, and nothing has been said about them yet. -/
structure Arrived (region : Region) (offset : Nat) (data : ByteArray) (before after : Host Simulator) :
    Prop where
  config : after.config = before.config
  context : after.context = before.context
  registers : Simulator.Frame Simulator.requestRegisters before.link.bus after.link.bus
  buffers : Laid region offset data.data.toList before.link.bus.memory after.link.bus.memory

/-- Bytes stand in a buffer and are announced by a register, and the host goes on loading. -/
structure Placed (region : Region) (offset : Nat) (data : ByteArray) (register : Register)
    (before after : Host Simulator) : Prop where
  buffers : Laid region offset data.data.toList before.link.bus.memory after.link.bus.memory
  announced : (after.link.bus.peek register).toNat = offset + data.size
  registers : Simulator.Frame (register :: Simulator.requestRegisters) before.link.bus after.link.bus
  state : after.state = .loading

section Arrival

variable {profile : Profile} {host : Host Simulator} {region : Region} {dst : UInt32} {offset : Nat}
  {data : ByteArray} (fitted : Fitted profile host) (apart : Apart profile.layout)
  (covers : (profile.layout region).Covers dst data.size offset) (occupied : 0 < data.size)
  (buffer : region ≠ .staging)
include fitted apart covers occupied buffer

theorem Fitted.laid {after : DeviceMemory} (delivered : Delivered dst data host.link.bus.memory after) :
    Laid region offset data.data.toList host.link.bus.memory after := by
  rw [← fitted.layout] at apart covers
  exact delivered.laid apart (congrFun fitted.layout .staging) covers occupied buffer

theorem Fitted.yields_store : yields (Host.onLink (Link.store dst data))
    (fun _ after => Arrived region offset data host after) host := by
  have target := covers
  rw [← fitted.layout] at target
  obtain ⟨memory, stored⟩ := Option.ne_none_iff_exists'.mp (DeviceMemory.store?_ne_none target)
  rw [Host.yields_onLink]
  refine (Link.yields_store stored).imp ?_
  rintro _ _ rfl
  refine ⟨rfl, rfl, (Simulator.frame_store stored).mono (List.nil_subset _), ?_⟩
  exact fitted.laid apart covers occupied buffer (.direct stored)

/-- By way of the staging window, with what follows. -/
theorem Fitted.yields_staged {α : Type} {value : α → Host Simulator → Prop}
    {next : Unit → HostM Simulator α} (channel : Channel) (room : data.size ≤ AddressMap.stagingBytes)
    (ready : host.link.bus.EngineReady)
    (rest : ∀ after, Arrived region offset data host after → yields (next ()) value after) :
    yields (Host.onLink (Link.stage data) >>= fun src =>
      Host.transfer (.linear channel src dst (.ofNat data.size)) >>= next) value host := by
  have length := toNat_ofNat_staged room
  have some := ofNat_staged_ne_zero room occupied
  have source := profile.covers_staging room
  have target := covers
  rw [← fitted.layout] at source target
  obtain ⟨memory, stored⟩ := Option.ne_none_iff_exists'.mp (DeviceMemory.store?_ne_none source)
  have filled := (Simulator.frame_store stored).mono (List.nil_subset Simulator.requestRegisters)
  let staged : Host Simulator := { host with link := ⟨{ host.link.bus with memory }, host.link.clock⟩ }
  have still : staged.link.bus.EngineReady := ⟨ready.free, ready.moving, ready.sound⟩
  -- Staging moves no window, so the copy finds its source and its target.
  have found : staged.link.bus.memory.copy? AddressMap.staging dst (UInt32.ofNat data.size).toNat ≠
      none := by
    rw [← DeviceMemory.layout_store? stored] at source target
    rw [length]
    exact DeviceMemory.copy?_ne_none source target
  have moved := Host.yields_linear channel still some found
  rw [yields_bind, Host.yields_onLink]
  refine (Link.yields_stage room stored).imp ?_
  rintro _ _ ⟨rfl, rfl⟩
  rw [yields_bind]
  refine moved.imp ?_
  rintro _ after ⟨config, context, registers, copied⟩
  rw [length] at copied
  exact rest after ⟨config, context, filled.trans registers,
    fitted.laid apart covers occupied buffer (.staged room stored copied)⟩

end Arrival

/-- The last steps of a load. -/
theorem Arrived.placed {region : Region} {offset : Nat} {data : ByteArray} {host after : Host Simulator}
    {register : Register} {value : UInt32} (arrived : Arrived region offset data host after)
    (plain : Simulator.isPlain register = true)
    (kept : ∀ sim : Simulator, (sim.write register value).peek register = value)
    (number : value.toNat = offset + data.size) :
    yields (do
      Host.write register value
      Host.setState .loading) (fun _ last => Placed region offset data register host last) after := by
  have written : Simulator.Written [register] after.link.bus (after.link.bus.write register value) :=
    (Simulator.Written.refl _ _).write register plain (List.mem_singleton.mpr rfl) value
  have memory : (after.link.bus.write register value).memory = after.link.bus.memory :=
    congrArg (·.memory) written.rest
  exact {
    buffers := by
      show Laid _ _ _ _ (after.link.bus.write register value).memory
      rw [memory]
      exact arrived.buffers
    announced := (congrArg UInt32.toNat (kept after.link.bus)).trans number
    registers := (arrived.registers.mono (List.subset_cons_self _ _)).trans
      (written.frame.mono (List.cons_subset_cons _ (List.nil_subset _)))
    state := rfl }

section Loads

variable {profile : Profile} {host : Host Simulator} {data : ByteArray}
  (fitted : Fitted profile host) (apart : Apart profile.layout) (loadable : host.state.loadable = true)
  (ready : host.link.bus.EngineReady) (occupied : 0 < data.size)
  (room : data.size ≤ AddressMap.stagingBytes)
include fitted apart loadable ready occupied room

theorem Fitted.yields_loadWeights {offset : UInt32}
    (fits : offset.toNat + data.size ≤ profile.weightBytes.toNat) :
    yields (Host.loadWeights data offset)
      (fun _ after => Placed .weights offset.toNat data .weightSize host after) host := by
  obtain ⟨dst, address⟩ : ∃ dst, Checked.add32 AddressMap.weights offset = .ok dst := by
    cases sum : Checked.add32 AddressMap.weights offset with
    | ok dst => exact ⟨dst, rfl⟩
    | error cause =>
      -- The windows are apart, so the buffer ends before the addresses do.
      have tolerated : Tolerated (.ofProfile profile) host.link.clock False fun _ => False :=
        tolerated_of_apart apart fun never => never.elim
      exact (tolerated.outside offset (Nat.le_of_add_right_le fits) cause sum).elim
  have covers : (profile.layout .weights).Covers dst data.size offset.toNat :=
    ⟨(Checked.add32_eq_ok.mp address).symm, fits⟩
  have number : (UInt32.ofNat (offset.toNat + data.size)).toNat = offset.toNat + data.size :=
    UInt32.toNat_ofNat_of_lt' (Nat.lt_of_le_of_lt fits profile.weightBytes.toNat_lt)
  have last (after : Host Simulator) (arrived : Arrived .weights offset.toNat data host after) :
      yields (do
        Host.write .weightSize (.ofNat (offset.toNat + data.size))
        Host.setState .loading)
        (fun _ last => Placed .weights offset.toNat data .weightSize host last) after :=
    arrived.placed rfl (fun _ => Simulator.peek_poke_same _ _ _) number
  unfold Host.loadWeights
  rw [yields_bind]
  refine yields_of_eq (Host.ensureLoadable_eq loadable _) (yields_skip (not_isEmpty_of_pos occupied) ?_)
  rw [yields_bind]
  refine yields_of_eq rfl ?_
  rw [fitted.config]
  refine yields_skip (Nat.not_lt.mpr fits) ?_
  show yields (Host.checked (Checked.add32 AddressMap.weights offset) >>= _) _ _
  rw [yields_bind, address]
  refine yields_of_eq rfl ?_
  split
  · exact fitted.yields_staged apart covers occupied (by decide) .weight room ready last
  · rw [yields_bind]
    exact (fitted.yields_store apart covers occupied (by decide)).imp fun _ => last

theorem Fitted.yields_loadInput (fits : data.size ≤ profile.actBytes.toNat / 2) :
    yields (Host.loadInput data)
      (fun _ after => Placed .activations 0 data .actInSize host after) host := by
  have covers : (profile.layout .activations).Covers AddressMap.activations data.size 0 :=
    ⟨rfl, by show 0 + _ ≤ profile.actBytes.toNat; omega⟩
  have number : (UInt32.ofNat data.size).toNat = 0 + data.size := by
    rw [Nat.zero_add]
    exact toNat_ofNat_staged room
  unfold Host.loadInput
  rw [yields_bind]
  refine yields_of_eq (Host.ensureLoadable_eq loadable _) (yields_skip (not_isEmpty_of_pos occupied) ?_)
  rw [yields_bind]
  refine yields_of_eq rfl ?_
  rw [fitted.config]
  refine yields_skip (Nat.not_lt.mpr (by rw [UInt32.toNat_div]; exact fits)) ?_
  refine fitted.yields_staged apart covers occupied (by decide) .actIn room ready fun after arrived => ?_
  exact arrived.placed rfl (fun _ => Simulator.peek_poke_same _ _ _) number

end Loads

structure OutputKept (before after : Host Simulator) : Prop where
  base : after.link.bus.peek .actOutBase = before.link.bus.peek .actOutBase
  bytes : ∃ start, before.config.outputAddr = .ok start ∧
    ∀ i, start.toNat ≤ before.config.actAddr.toNat + i →
      after.link.bus.memory.contents .activations i = before.link.bus.memory.contents .activations i

theorem Placed.outputKept {profile : Profile} {data : ByteArray} {host after : Host Simulator}
    (placed : Placed .activations 0 data .actInSize host after)
    (config : host.config = .ofProfile profile) (fits : data.size ≤ profile.actBytes.toNat / 2) :
    OutputKept host after where
  base := placed.registers.registers .actOutBase (by decide)
  bytes := by
    obtain ⟨start, address⟩ := Host.exists_outputAddr profile
    have half : (profile.actBytes / 2).toNat = profile.actBytes.toNat / 2 := UInt32.toNat_div _ _
    have sum : AddressMap.activations.toNat + (profile.actBytes / 2).toNat = start.toNat :=
      Checked.add32_eq_ok.mp address
    rw [config]
    refine ⟨start, address, fun i behind => ?_⟩
    rw [placed.buffers.target]
    have later : AddressMap.activations.toNat + (profile.actBytes / 2).toNat ≤
        AddressMap.activations.toNat + i := sum.trans_le behind
    have length : data.data.toList.length = data.size := rfl
    exact overlay_outside _ _ (by omega)

section Whole

variable {profile : Profile} {host : Host Simulator} {data : ByteArray}

/-- Bytes that fit are loaded, and only their range of one buffer changes, whichever way they take.
Weights are announced up to their end, and an input stays in its half of the activation buffer. -/
theorem loads_placed
    (reached : Reachable (fun sim => Simulator.ofProfile profile = .ok sim)
      (fun before after => after.memory.layout = before.memory.layout) host)
    (config : host.config = .ofProfile profile) (apart : Apart profile.layout)
    (loadable : host.state.loadable = true) (ready : host.link.bus.EngineReady)
    (occupied : 0 < data.size) (room : data.size ≤ AddressMap.stagingBytes) :
    (∀ offset : UInt32, offset.toNat + data.size ≤ profile.weightBytes.toNat →
      ∃ after, (Operation.loadWeights data offset).Step host (.ok .finished) after ∧
        Placed .weights offset.toNat data .weightSize host after) ∧
    (data.size ≤ profile.actBytes.toNat / 2 →
      ∃ after, (Operation.loadInput data).Step host (.ok .finished) after ∧
        Placed .activations 0 data .actInSize host after ∧ OutputKept host after) := by
  have fitted : Fitted profile host := ⟨config, reached.layout⟩
  constructor
  · intro offset fits
    obtain ⟨_, after, step, placed⟩ := (Operation.loadWeights data offset).exists_ok rfl
      (fitted.yields_loadWeights apart loadable ready occupied room fits)
    exact ⟨after, step, placed⟩
  · intro fits
    obtain ⟨_, after, step, placed⟩ := (Operation.loadInput data).exists_ok rfl
      (fitted.yields_loadInput apart loadable ready occupied room fits)
    exact ⟨after, step, placed, placed.outputKept config fits⟩

theorem referenceProfile_apart : Apart Profile.reference.layout := by
  apply DeviceMemory.apart_of_ordered
  intro first second
  cases first <;> cases second <;> decide

def longWeights : ByteArray := ⟨⟨List.replicate 1025 7⟩⟩

theorem toList_longWeights : longWeights.data.toList = List.replicate 1025 7 := rfl

theorem size_longWeights : longWeights.size = 1025 := List.length_replicate

/-- The last byte goes to its place and the next one is kept, although the offset is odd. -/
theorem longWeights_placed :
    Host.directLimit < longWeights.size ∧
    ∃ after, (Operation.loadWeights longWeights 3).Step referenceHost (.ok .finished) after ∧
      after.link.bus.memory.contents .weights 1027 = 7 ∧
      after.link.bus.memory.contents .weights 1028 =
        referenceHost.link.bus.memory.contents .weights 1028 ∧
      (after.link.bus.peek .weightSize).toNat = 1028 ∧ after.state = .loading := by
  obtain ⟨⟨_, initialised⟩, _⟩ := haltHost_loaded
  have start : referenceHost.state.loadable = true ∧
      referenceHost.link.bus.peek .dmaStatus &&& DmaStatus.busy = 0 ∧
      referenceHost.link.bus.dmaHang = false ∧ referenceHost.link.bus.dmaFault = false := by
    decide +kernel
  obtain ⟨loadable, free, moving, sound⟩ := start
  have size := size_longWeights
  obtain ⟨weights, _⟩ := @loads_placed .reference referenceHost longWeights
    (.step (.start rfl) initialised) rfl referenceProfile_apart loadable ⟨free, moving, sound⟩
    (by rw [size]; decide) (by rw [size]; decide)
  obtain ⟨after, step, placed⟩ := weights 3 (by rw [size]; decide)
  refine ⟨by rw [size]; decide, after, step, ?_, ?_, ?_, placed.state⟩
  · have last : 1024 < (List.replicate 1025 (7 : UInt8)).length := by rw [List.length_replicate]; decide
    rw [placed.buffers.target, toList_longWeights]
    exact (overlay_inside _ 3 last).trans (List.getElem_replicate last)
  · rw [placed.buffers.target, toList_longWeights]
    refine overlay_outside _ _ (.inr ?_)
    rw [List.length_replicate]
    decide
  · rw [placed.announced, size]
    rfl

end Whole

end NpuStack
