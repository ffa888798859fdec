import NpuStack.Proofs.Loading
import NpuStack.Proofs.Simulator.Engine

/-! The windows of the simulated core as one memory. If no address belongs to
two windows, stores, loads and transfers act on a single map from addresses to
bytes; a range that no window holds as a whole is refused and nothing changes. -/

set_option autoImplicit false

namespace NpuStack

inductive Access where
  | store (addr : UInt32) (data : ByteArray)
  | stage (data : ByteArray)
  | load (addr : UInt32) (slice : ByteArray)
  /-- The ends and the length of a transfer, then the control word of the engine. -/
  | transfer (src dst len control : UInt32)

inductive Response where
  | stored
  | staged (addr : UInt32)
  | loaded (bytes : ByteArray)
  /-- Status of the engine. -/
  | engine (status : UInt32)

namespace Access

variable {β : Type} [Bus β]

def perform : Access → LinkM β Response
  | .store addr data => (fun _ => .stored) <$> Link.store addr data
  | .stage data => .staged <$> Link.stage data
  | .load addr slice => (fun answer => .loaded answer.2) <$> lend slice (Link.load addr)
  | .transfer src dst len control => do
    Link.write .dmaSrc src
    Link.write .dmaDst dst
    Link.write .dmaLen len
    Link.write .dmaCtrl control
    return .engine (← Link.read .dmaStatus)

/-- Accesses one after another. One that fails does not keep the others from being made. -/
def performAll : List Access → Link β → List (Attempt HostError Response) × Link β
  | [], link => ([], link)
  | access :: rest, link =>
    let (answer, link) := access.perform link
    let (answers, link) := performAll rest link
    (answer :: answers, link)

/-- Everything but a transfer, which needs an engine. -/
def direct : Access → Bool
  | .transfer .. => false
  | _ => true

end Access

namespace DeviceMemory

def Region.all : List Region := [.instructions, .weights, .activations, .staging]

theorem Region.mem_all (region : Region) : region ∈ all := by
  cases region <;> decide

def Inside (layout : Region → Span) (addr : UInt32) (len : Nat) : Prop :=
  ∃ region ∈ Region.all, (layout region).base.toNat ≤ addr.toNat ∧
    addr.toNat + len ≤ (layout region).base.toNat + (layout region).size

instance (layout : Region → Span) (addr : UInt32) (len : Nat) : Decidable (Inside layout addr len) :=
  inferInstanceAs (Decidable (∃ region ∈ Region.all, _))

theorem inside_iff {layout : Region → Span} {addr : UInt32} {len : Nat} :
    Inside layout addr len ↔ ∃ region offset, (layout region).Covers addr len offset := by
  unfold Span.Covers
  constructor
  · rintro ⟨region, _, above, below⟩
    exact ⟨region, addr.toNat - (layout region).base.toNat, by omega, by omega⟩
  · rintro ⟨region, offset, address, room⟩
    exact ⟨region, region.mem_all, by omega, by omega⟩

end DeviceMemory

/-- One memory with a byte at every address, beside the status of an engine that copies in it. -/
structure Flat where
  bytes : Nat → UInt8 := fun _ => 0
  status : UInt32 := 0

namespace Flat

open DeviceMemory

def range (bytes : Nat → UInt8) (addr len : Nat) : ByteArray :=
  ByteArray.mk (Array.ofFn fun index : Fin len => bytes (addr + index))

def write (flat : Flat) (addr : UInt32) (data : ByteArray) : Flat :=
  { flat with bytes := overlay flat.bytes addr.toNat data.data.toList }

/-- Copy a range; the bytes written are those from before the copy. -/
def copy (layout : Region → Span) (src dst len : UInt32) (flat : Flat) : Flat :=
  if Inside layout src len.toNat ∧ Inside layout dst len.toNat then
    { flat.write dst (range flat.bytes src.toNat len.toNat) with status := DmaStatus.done }
  else { flat with status := DmaStatus.error }

/-- What a control word asks of the engine; an abort wins over a start. -/
def transfer (layout : Region → Span) (src dst len control : UInt32) (flat : Flat) : Flat :=
  if control &&& DmaCtrl.abort ≠ 0 then { flat with status := 0 }
  else if control &&& DmaCtrl.start ≠ 0 then flat.copy layout src dst len
  else flat

def step (layout : Region → Span) (flat : Flat) : Access → Attempt HostError Response × Flat
  | .store addr data =>
    if Inside layout addr data.size then (.ok .stored, flat.write addr data)
    else (.error (.error (.unmapped addr data.size)), flat)
  | .stage data =>
    if data.size ≤ AddressMap.stagingBytes then
      (.ok (.staged AddressMap.staging), flat.write AddressMap.staging data)
    else
      (.error (.error (.overflow "staging window" (.ofNat data.size)
        (.ofNat AddressMap.stagingBytes))), flat)
  | .load addr slice =>
    if Inside layout addr slice.size then
      (.ok (.loaded (range flat.bytes addr.toNat slice.size)), flat)
    else (.error (.error (.unmapped addr slice.size)), flat)
  | .transfer src dst len control =>
    let flat := flat.transfer layout src dst len control
    (.ok (.engine flat.status), flat)

def run (layout : Region → Span) : List Access → Flat → List (Attempt HostError Response) × Flat
  | [], flat => ([], flat)
  | access :: rest, flat =>
    let (answer, flat) := flat.step layout access
    let (answers, flat) := run layout rest flat
    (answer :: answers, flat)

theorem size_range (bytes : Nat → UInt8) (addr len : Nat) : (range bytes addr len).size = len :=
  Array.size_ofFn

end Flat

section Serving

open DeviceMemory

variable {β : Type} [Bus β] {layout : Region → Span} {seen : Flat → β → Prop} {flat : Flat}
  {link : Link β}

/-- What a bus stores and loads goes through one memory, as far as it has windows for it. -/
structure Bus.Serves (layout : Region → Span) (seen : Flat → β → Prop) : Prop where
  store_inside {flat : Flat} {bus : β} {addr : UInt32} {data : ByteArray} (holds : seen flat bus)
    (inside : Inside layout addr data.size) :
    ∃ after, Bus.store addr data bus = .ok after ∧ seen (flat.write addr data) after
  store_outside {flat : Flat} {bus : β} {addr : UInt32} {data : ByteArray} (holds : seen flat bus)
    (outside : ¬Inside layout addr data.size) :
    Bus.store addr data bus = .error (.unmapped addr data.size)
  load {flat : Flat} {bus : β} (holds : seen flat bus) (addr : UInt32) (slice : ByteArray) :
    Bus.load addr slice bus =
      if Inside layout addr slice.size then (.ok (), Flat.range flat.bytes addr.toNat slice.size)
      else (.error (.unmapped addr slice.size), slice)
  stagingBase {flat : Flat} {bus : β} (holds : seen flat bus) :
    Bus.stagingBase bus = AddressMap.staging
  stagingBytes {flat : Flat} {bus : β} (holds : seen flat bus) :
    Bus.stagingBytes bus = AddressMap.stagingBytes
  staging {len : Nat} (fits : len ≤ AddressMap.stagingBytes) : Inside layout AddressMap.staging len

namespace Access

/-- The staging window is at hand for whatever fits into it. -/
theorem stage_eq (data : ByteArray) (link : Link β) : Link.stage data link =
    if data.size ≤ Bus.stagingBytes link.bus then
      match Link.store (Bus.stagingBase link.bus) data link with
      | (.ok _, after) => (.ok (Bus.stagingBase link.bus), after)
      | (.error cause, after) => (.error cause, after)
    else (.error (.error (.overflow "staging window" (.ofNat data.size)
      (.ofNat (Bus.stagingBytes link.bus)))), link) := by
  by_cases fits : data.size ≤ Bus.stagingBytes link.bus
  · have room : ¬Bus.stagingBytes link.bus < data.size := Nat.not_lt.mpr fits
    unfold Link.stage
    rw [if_pos fits, act_bind]
    show (if Bus.stagingBytes link.bus < data.size then _ else _ : LinkM β UInt32) link = _
    rw [if_neg room]
    show (Link.store (Bus.stagingBase link.bus) data >>= fun _ => pure _) link = _
    rw [act_bind]
    rcases Link.store (Bus.stagingBase link.bus) data link with ⟨_ | _, _⟩ <;> rfl
  · have full : Bus.stagingBytes link.bus < data.size := Nat.lt_of_not_le fits
    unfold Link.stage
    rw [if_neg fits, act_bind]
    show (if Bus.stagingBytes link.bus < data.size then _ else _ : LinkM β UInt32) link = _
    rw [if_pos full]
    rfl

/-- Without the engine, an access gives the answer of the memory and leaves the bus looking like it. -/
theorem step_serves (serves : Bus.Serves layout seen) (holds : seen flat link.bus) {access : Access}
    (direct : access.direct = true) :
    (access.perform link).1 = (flat.step layout access).1 ∧
    seen (flat.step layout access).2 (access.perform link).2.bus := by
  cases access with
  | store addr data =>
    rw [perform, Flat.step, map_eq_pure_bind, act_bind, Link.store]
    by_cases inside : Inside layout addr data.size
    · obtain ⟨bus, stored, after⟩ := serves.store_inside holds inside
      rw [stored, if_pos inside]
      exact ⟨rfl, after⟩
    · rw [serves.store_outside holds inside, if_neg inside]
      exact ⟨rfl, holds⟩
  | stage data =>
    rw [perform, Flat.step, map_eq_pure_bind, act_bind, stage_eq, serves.stagingBytes holds,
      serves.stagingBase holds, Link.store]
    by_cases fits : data.size ≤ AddressMap.stagingBytes
    · -- What fits lies in the staging window, from its first byte on.
      obtain ⟨bus, stored, after⟩ := serves.store_inside holds (serves.staging fits)
      rw [if_pos fits, if_pos fits, stored]
      exact ⟨rfl, after⟩
    · rw [if_neg fits, if_neg fits]
      exact ⟨rfl, holds⟩
  | load addr slice =>
    rw [perform, Flat.step, map_eq_pure_bind, act_bind, lend, Link.load, serves.load holds]
    by_cases inside : Inside layout addr slice.size
    · rw [if_pos inside, if_pos inside]
      exact ⟨rfl, holds⟩
    · rw [if_neg inside, if_neg inside]
      exact ⟨rfl, holds⟩
  | transfer => cases direct

/-- A run answers as the memory does if every step of it does. -/
theorem run_of_step {allowed : Access → Prop}
    (step : ∀ {flat : Flat} {link : Link β} {access : Access}, allowed access → seen flat link.bus →
      (access.perform link).1 = (flat.step layout access).1 ∧
      seen (flat.step layout access).2 (access.perform link).2.bus)
    (holds : seen flat link.bus) {accesses : List Access} (all : ∀ access ∈ accesses, allowed access) :
    (performAll accesses link).1 = (flat.run layout accesses).1 ∧
    seen (flat.run layout accesses).2 (performAll accesses link).2.bus := by
  induction accesses generalizing flat link with
  | nil => exact ⟨rfl, holds⟩
  | cons access rest ih =>
    obtain ⟨first, others⟩ := List.forall_mem_cons.mp all
    obtain ⟨answer, after⟩ := step first holds
    obtain ⟨answers, last⟩ := ih after others
    exact ⟨congrArg₂ List.cons answer answers, last⟩

end Access

end Serving

namespace DeviceMemory

variable {memory : DeviceMemory} {bytes : Nat → UInt8} {region : Region} {addr src dst : UInt32}
  {len offset : Nat} {data : ByteArray}

/-- Every byte of every window is the byte of one map at its address. -/
def Matches (memory : DeviceMemory) (bytes : Nat → UInt8) : Prop :=
  ∀ region offset, offset < (memory.layout region).size →
    memory.contents region offset = bytes ((memory.layout region).base.toNat + offset)

theorem covers_of_locate? (found : memory.locate? addr len = some (region, offset)) :
    (memory.layout region).Covers addr len offset := by
  apply Window.locate?_eq_some.mp
  simp only [locate?, Option.orElse_eq_orElse, Option.orElse_eq_or, Option.or_eq_some_iff,
    Option.map_eq_some_iff, Prod.mk.injEq, exists_eq_right_right, Option.map_eq_none_iff] at found
  -- Whichever window answered, the position is the one it gave.
  rcases found with ⟨here, rfl⟩ | ⟨_, ⟨here, rfl⟩ | ⟨_, ⟨here, rfl⟩ | ⟨_, here, rfl⟩⟩⟩
  all_goals exact here

theorem locate?_eq_none_iff : memory.locate? addr len = none ↔ ¬Inside memory.layout addr len := by
  rw [inside_iff]
  constructor
  · rintro missed ⟨region, offset, covers⟩
    exact locate?_ne_none covers missed
  · intro outside
    cases found : memory.locate? addr len with
    | none => rfl
    | some place => exact absurd ⟨place.1, place.2, covers_of_locate? found⟩ outside

theorem exists_locate? (inside : Inside memory.layout addr len) : ∃ region offset,
    memory.locate? addr len = some (region, offset) ∧ (memory.layout region).Covers addr len offset := by
  cases found : memory.locate? addr len with
  | none => exact absurd inside (locate?_eq_none_iff.mp found)
  | some place => exact ⟨place.1, place.2, rfl, covers_of_locate? found⟩

theorem Matches.read (holds : memory.Matches bytes) (covers : (memory.layout region).Covers addr len offset) :
    (memory.window region).read offset len = Flat.range bytes addr.toNat len := by
  obtain ⟨address, room⟩ := covers
  unfold Window.read FlatMemory.read Flat.range
  congr 2
  funext index
  have inWindow : offset + index < (memory.layout region).size := by omega
  have same := holds region (offset + index) inWindow
  rw [← Nat.add_assoc, ← address] at same
  exact same

/-- A write to one window is a write to the map: no other window has a byte there. -/
theorem Matches.writeAt (apart : Apart memory.layout) (holds : memory.Matches bytes)
    (covers : (memory.layout region).Covers addr data.size offset) :
    (memory.writeAt region offset data).Matches (overlay bytes addr.toNat data.data.toList) := by
  obtain ⟨address, room⟩ := covers
  have length : data.data.toList.length = data.size := rfl
  intro other position inside
  rw [layout_writeAt] at inside ⊢
  have before := holds other position inside
  rw [contents_writeAt]
  by_cases same : other = region
  · subst same
    -- Offset and address differ by the base, on both sides.
    have below : (memory.layout other).base.toNat + position < addr.toNat ↔ position < offset := by omega
    have distance : (memory.layout other).base.toNat + position - addr.toNat = position - offset := by
      omega
    rw [Function.update_self, overlay, overlay, distance, before]
    simp only [below]
  · rw [Function.update_of_ne same, before, overlay]
    -- The address of another window is not among those that are written.
    by_cases below : (memory.layout other).base.toNat + position < addr.toNat
    · rw [if_pos below]
    · have behind : data.size ≤ (memory.layout other).base.toNat + position - addr.toNat := by
        by_contra inRange
        refine same (apart other region ((memory.layout other).base.toNat + position) ?_ ?_)
        · exact ⟨by omega, by omega⟩
        · exact ⟨by omega, by omega⟩
      rw [if_neg below, List.getElem?_eq_none (by rw [length]; exact behind)]
      rfl

theorem store?_matches (apart : Apart memory.layout) (holds : memory.Matches bytes)
    (inside : Inside memory.layout addr data.size) : ∃ after, memory.store? addr data = some after ∧
      after.layout = memory.layout ∧ after.Matches (overlay bytes addr.toNat data.data.toList) := by
  obtain ⟨region, offset, found, covers⟩ := exists_locate? inside
  refine ⟨memory.writeAt region offset data, by rw [store?, found], layout_writeAt _ _ _ _, ?_⟩
  exact holds.writeAt apart covers

theorem copy?_matches (apart : Apart memory.layout) (holds : memory.Matches bytes)
    (source : Inside memory.layout src len) (target : Inside memory.layout dst len) :
    ∃ after, memory.copy? src dst len = some after ∧ after.layout = memory.layout ∧
      after.Matches (overlay bytes dst.toNat (Flat.range bytes src.toNat len).data.toList) := by
  obtain ⟨here, start, found, covers⟩ := exists_locate? source
  obtain ⟨there, place, placed, room⟩ := exists_locate? target
  have taken := holds.read covers
  refine ⟨memory.writeAt there place ((memory.window here).read start len), ?_,
    layout_writeAt _ _ _ _, ?_⟩
  · rw [copy?, found, placed]
  · rw [taken]
    apply holds.writeAt apart
    rw [Flat.size_range]
    exact room

theorem copy?_eq_none (outside : ¬(Inside memory.layout src len ∧ Inside memory.layout dst len)) :
    memory.copy? src dst len = none := by
  unfold copy?
  split
  case h_1 found placed =>
    exact absurd ⟨inside_iff.mpr ⟨_, _, covers_of_locate? found⟩,
      inside_iff.mpr ⟨_, _, covers_of_locate? placed⟩⟩ outside
  case h_2 => rfl

end DeviceMemory

namespace Simulator

open DeviceMemory

variable {sim : Simulator} {layout : Region → Span} {flat : Flat}

structure Flattened (layout : Region → Span) (flat : Flat) (sim : Simulator) : Prop where
  layout : sim.memory.layout = layout
  script : sim.script = {}
  status : sim.peek .dmaStatus = flat.status
  bytes : sim.memory.Matches flat.bytes

/-- What the engine does when nothing is scripted: the copy, and the status that tells of it. -/
theorem runTransfer_eq (whole : sim.dmaFault = false) :
    let copied := sim.memory.copy? (sim.peek .dmaSrc) (sim.peek .dmaDst) (sim.peek .dmaLen).toNat
    sim.runTransfer.memory = copied.getD sim.memory ∧
    sim.runTransfer.peek .dmaStatus = if copied.isSome then DmaStatus.done else DmaStatus.error := by
  intro copied
  have found : (if sim.dmaFault then none else copied) = copied := by simp [whole]
  unfold runTransfer
  dsimp only
  rw [found]
  cases copied with
  | none => exact ⟨rfl, by simp [raiseIrq, peek_poke_of_ne]⟩
  | some memory => exact ⟨rfl, by simp [raiseIrq, addCounter, peek_poke_of_ne]⟩

theorem Flattened.runTransfer (apart : Apart layout) (flattened : Flattened layout flat sim) :
    Flattened layout (flat.copy layout (sim.peek .dmaSrc) (sim.peek .dmaDst) (sim.peek .dmaLen))
      sim.runTransfer := by
  obtain ⟨rfl, script, status, holds⟩ := flattened
  obtain ⟨memory, ended⟩ := runTransfer_eq (congrArg Script.dmaFault script)
  have off := script_runTransfer script
  have place := layout_runTransfer sim
  unfold Flat.copy
  split
  case isTrue inside =>
    obtain ⟨after, copied, _, held⟩ := copy?_matches apart holds inside.1 inside.2
    rw [copied] at memory ended
    exact ⟨place, off, ended, memory ▸ held⟩
  case isFalse outside =>
    rw [copy?_eq_none outside] at memory ended
    exact ⟨place, off, ended, memory ▸ holds⟩

/-- Registers and log do not matter, but for the status of the engine. -/
theorem Flattened.of_written {touched : List Register} {after : Simulator}
    (flattened : Flattened layout flat sim) (written : Written touched sim after)
    (apart : .dmaStatus ∉ touched) : Flattened layout flat after := by
  have rest := written.rest
  have memory : after.memory = sim.memory := congrArg (·.memory) rest
  exact {
    layout := memory ▸ flattened.layout
    script := (congrArg Simulator.script rest).trans flattened.script
    status := (written.registers _ apart).trans flattened.status
    bytes := memory ▸ flattened.bytes }

theorem written_poke (sim : Simulator) (reg : Register) (value : UInt32)
    (log : Array (Register × UInt32)) : Written [reg] sim (poke { sim with log } reg value) := by
  refine ⟨rfl, fun other outside => ?_⟩
  exact peek_poke_of_ne _ _ fun same => outside (same ▸ List.mem_singleton_self reg)

theorem Flattened.transfer (apart : Apart layout) (flattened : Flattened layout flat sim)
    (src dst len control : UInt32) :
    Flattened layout (flat.transfer layout src dst len control)
      ((((sim.write .dmaSrc src).write .dmaDst dst).write .dmaLen len).write .dmaCtrl control) := by
  let aimed := sim.described (.linear .weight src dst len)
  let stored := poke { aimed with log := aimed.log.push (.dmaCtrl, control) } .dmaCtrl control
  let started := stored.poke .dmaCtrl (control &&& ~~~DmaCtrl.start)
  have aimedFlat : Flattened layout flat aimed :=
    flattened.of_written (written_described sim _) (by decide)
  have storedFlat : Flattened layout flat stored :=
    aimedFlat.of_written (written_poke aimed .dmaCtrl control _) (by decide)
  have startedFlat : Flattened layout flat started :=
    storedFlat.of_written (written_poke stored .dmaCtrl _ stored.log) (by decide)
  show Flattened layout _ (stored.onDmaCtrl control)
  unfold onDmaCtrl Flat.transfer
  by_cases abort : control &&& DmaCtrl.abort ≠ 0
  · rw [if_pos abort, if_pos (bne_iff_ne.mpr abort)]
    exact ⟨storedFlat.layout, storedFlat.script, peek_poke_same _ _ _, storedFlat.bytes⟩
  · rw [if_neg abort, if_neg (fun set => abort (bne_iff_ne.mp set))]
    by_cases start : control &&& DmaCtrl.start ≠ 0
    · -- The engine finds the ends and the length that were written.
      have registers : started.peek .dmaSrc = src ∧ started.peek .dmaDst = dst ∧
          started.peek .dmaLen = len := by
        simp [started, stored, aimed, described, Descriptor.linear, write, peek, poke]
      have moving : started.dmaHang = false := congrArg Script.dmaHang startedFlat.script
      have ran := startedFlat.runTransfer apart
      rw [registers.1, registers.2.1, registers.2.2] at ran
      rw [if_pos start, if_pos (bne_iff_ne.mpr start)]
      show Flattened layout _ (if started.dmaHang then _ else started.runTransfer)
      rw [moving]
      exact ran
    · rw [if_neg start, if_neg (fun set => start (bne_iff_ne.mp set))]
      exact storedFlat

theorem flattened_ofProfile {profile : Profile} (built : ofProfile profile = .ok sim) :
    Flattened profile.layout {} sim := by
  have layout := layout_ofProfile built
  have status := peek_ofProfile built (show .dmaStatus ∉ _ by decide)
  obtain ⟨memory, zeroed, same⟩ := bind_eq_ok.mp built
  cases same
  obtain ⟨instBytes, counted, same⟩ := bind_eq_ok.mp zeroed
  cases same
  refine ⟨layout, rfl, status, fun region offset _ => ?_⟩
  -- Every window starts without a written byte.
  cases region <;> exact Std.HashMap.getD_empty

/-- The simulated core serves the memory that it looks like. -/
theorem serves_flattened (apart : Apart layout)
    (staging : layout .staging = ⟨AddressMap.staging, AddressMap.stagingBytes⟩) :
    Bus.Serves layout (Flattened layout) where
  store_inside := by
    rintro flat sim addr data ⟨rfl, script, status, holds⟩ inside
    obtain ⟨memory, stored, place, held⟩ := store?_matches apart holds inside
    refine ⟨{ sim with memory }, ?_, place, script, status, held⟩
    simp only [Bus.store]
    rw [stored]
  store_outside := by
    rintro flat sim addr data ⟨rfl, script, status, holds⟩ outside
    simp only [Bus.store, store?]
    rw [locate?_eq_none_iff.mpr outside]
  load := by
    rintro flat sim ⟨rfl, script, status, holds⟩ addr slice
    simp only [Bus.load, load?]
    by_cases inside : Inside sim.memory.layout addr slice.size
    · obtain ⟨region, offset, found, covers⟩ := exists_locate? inside
      rw [if_pos inside, found, ← holds.read covers]
    · rw [if_neg inside, locate?_eq_none_iff.mpr inside]
  stagingBase _ := rfl
  stagingBytes _ := rfl
  staging fits := by
    refine inside_iff.mpr ⟨.staging, 0, ?_⟩
    rw [staging]
    exact ⟨rfl, (Nat.zero_add _).trans_le fits⟩

end Simulator

namespace Access

open DeviceMemory Simulator

variable {layout : Region → Span} {flat : Flat} {link : Link Simulator}

/-- One access gives the answer of the flat memory and leaves the core looking like it. -/
theorem step_flat (apart : Apart layout)
    (staging : layout .staging = ⟨AddressMap.staging, AddressMap.stagingBytes⟩)
    (flattened : Flattened layout flat link.bus) (access : Access) :
    (access.perform link).1 = (flat.step layout access).1 ∧
    Flattened layout (flat.step layout access).2 (access.perform link).2.bus := by
  cases access with
  | store | stage | load => exact step_serves (serves_flattened apart staging) flattened rfl
  | transfer src dst len control =>
    have after := flattened.transfer apart src dst len control
    exact ⟨congrArg (Except.ok ∘ Response.engine) after.status, after⟩

theorem run_flat (apart : Apart layout)
    (staging : layout .staging = ⟨AddressMap.staging, AddressMap.stagingBytes⟩)
    (flattened : Flattened layout flat link.bus) (accesses : List Access) :
    (performAll accesses link).1 = (flat.run layout accesses).1 ∧
    Flattened layout (flat.run layout accesses).2 (performAll accesses link).2.bus :=
  run_of_step (fun _ held => step_flat apart staging held _) flattened fun _ _ => trivial

end Access

/-- In a layout without overlaps no window reaches beyond the last address. -/
theorem Profile.inside_le {profile : Profile} (apart : DeviceMemory.Apart profile.layout) {addr : UInt32}
    {len : Nat} (inside : DeviceMemory.Inside profile.layout addr len) :
    addr.toNat + len ≤ UInt32.size := by
  obtain ⟨region, _, _, below⟩ := inside
  have bases : (profile.layout region).base.toNat ≤ AddressMap.staging.toNat := by
    cases region with
    | instructions => exact show AddressMap.instructions.toNat ≤ AddressMap.staging.toNat by decide
    | weights => exact show AddressMap.weights.toNat ≤ AddressMap.staging.toNat by decide
    | activations => exact show AddressMap.activations.toNat ≤ AddressMap.staging.toNat by decide
    | staging => exact Nat.le_refl _
  have limit : AddressMap.staging.toNat + AddressMap.stagingBytes ≤ UInt32.size := by decide
  by_cases last : region = .staging
  · subst last
    exact below.trans limit
  · -- The staging window is the last one, so another that went on would meet its first byte.
    by_contra beyond
    have meets : (profile.layout .staging).Contains AddressMap.staging.toNat :=
      ⟨Nat.le_refl _, Nat.lt_add_of_pos_right (show 0 < AddressMap.stagingBytes by decide)⟩
    exact last (apart region .staging AddressMap.staging.toNat ⟨bases, by omega⟩ meets)

/-- The memory of the simulated core is one map from addresses to bytes, whatever is done to it: every
access is answered as the map answers it, and every byte of every window is the byte of the map. A
range that goes beyond the last address is in no window. -/
theorem memory_flat {profile : Profile} {sim : Simulator} (built : Simulator.ofProfile profile = .ok sim)
    (apart : DeviceMemory.Apart profile.layout) (clock : Clock) (accesses : List Access) :
    let after := Access.performAll accesses ⟨sim, clock⟩
    let flat := Flat.run profile.layout accesses {}
    after.1 = flat.1 ∧ after.2.bus.memory.layout = profile.layout ∧
    after.2.bus.memory.Matches flat.2.bytes ∧
    ∀ addr len, DeviceMemory.Inside profile.layout addr len → addr.toNat + len ≤ UInt32.size := by
  intro after flat
  let link : Link Simulator := ⟨sim, clock⟩
  have fresh : Simulator.Flattened profile.layout {} link.bus := Simulator.flattened_ofProfile built
  obtain ⟨answers, last⟩ := Access.run_flat apart rfl fresh accesses
  exact ⟨answers, last.layout, last.bytes, fun _ _ => Profile.inside_le apart⟩

/-- Bytes are staged and sent to the weights, then copied two places up, over themselves. -/
def overlapping : List Access :=
  [.stage ⟨#[1, 2, 3, 4]⟩, .transfer AddressMap.staging AddressMap.weights 4 DmaCtrl.start,
    .transfer AddressMap.weights (AddressMap.weights + 2) 4 DmaCtrl.start, .load AddressMap.weights ⟨#[9, 9, 9, 9, 9, 9, 9]⟩,
    .store (AddressMap.weights + 254) ⟨#[7, 8, 9]⟩, .load (AddressMap.weights + 254) ⟨#[9, 9]⟩]

/-- The copy reads what was there before it, and a store that does not fit leaves no byte behind. -/
theorem overlapping_flat :
    (Access.performAll overlapping ⟨smallCore, .start⟩).1 =
      [.ok (.staged AddressMap.staging), .ok (.engine DmaStatus.done), .ok (.engine DmaStatus.done),
        .ok (.loaded ⟨#[1, 2, 1, 2, 3, 4, 0]⟩),
        .error (.error (.unmapped (AddressMap.weights + 254) 3)), .ok (.loaded ⟨#[0, 0]⟩)] :=
  have built : Simulator.ofProfile smallProfile = .ok smallCore := rfl
  (memory_flat built smallProfile_apart .start overlapping).1.trans rfl

end NpuStack
