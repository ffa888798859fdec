import NpuStack.Device.Mapped
import NpuStack.Proofs.Simulator.Flat

/-! The mapped core beside the simulated one. Its windows are mapped at their own
bus addresses, so they are views of one memory whether they overlap or not. They
are whole pages: a window that ends inside a page takes more than was asked, but
what the simulated core accepts has the same answer on both. -/

set_option autoImplicit false

namespace NpuStack

open DeviceMemory

section Pages

def Span.paged (span : Span) : Span :=
  { span with
    size := (span.size + Mapping.pageBytes - 1) / Mapping.pageBytes * Mapping.pageBytes }

theorem Span.size_le_paged (span : Span) : span.size ≤ span.paged.size := by
  simp only [paged, Mapping.pageBytes]
  omega

theorem Span.paged_lt {span : Span} {limit : Nat} (small : span.size ≤ limit) :
    span.paged.size < limit + Mapping.pageBytes := by
  simp only [paged, Mapping.pageBytes]
  omega

theorem Span.paged_eq {span : Span} (whole : Mapping.pageBytes ∣ span.size) : span.paged = span := by
  have same : span.paged.size = span.size := by
    simp only [paged, Mapping.pageBytes] at whole ⊢
    omega
  exact congrArg (Span.mk span.base) same

def DeviceMemory.paged (layout : Region → Span) (region : Region) : Span := (layout region).paged

theorem Inside.paged {layout : Region → Span} {addr : UInt32} {len : Nat}
    (inside : Inside layout addr len) : Inside (paged layout) addr len := by
  obtain ⟨region, listed, above, below⟩ := inside
  exact ⟨region, listed, above, below.trans (Nat.add_le_add_left (layout region).size_le_paged _)⟩

end Pages

section Widening

theorem Flat.run_cons (layout : Region → Span) (flat : Flat) (access : Access) (rest : List Access) :
    flat.run layout (access :: rest) =
      ((flat.step layout access).1 :: ((flat.step layout access).2.run layout rest).1,
        ((flat.step layout access).2.run layout rest).2) := rfl

variable {narrow wide : Region → Span}
  (wider : ∀ {addr len}, Inside narrow addr len → Inside wide addr len)
include wider

/-- What a memory accepts is accepted with the same answer where more is accepted. -/
theorem Flat.step_wider {flat : Flat} {access : Access} (direct : access.direct = true)
    (ok : (flat.step narrow access).1.isOk = true) :
    flat.step wide access = flat.step narrow access := by
  cases access with
  | store addr data =>
    by_cases inside : Inside narrow addr data.size
    · rw [step, step, if_pos inside, if_pos (wider inside)]
    · rw [step, if_neg inside] at ok
      cases ok
  | stage data => rfl
  | load addr slice =>
    by_cases inside : Inside narrow addr slice.size
    · rw [step, step, if_pos inside, if_pos (wider inside)]
    · rw [step, if_neg inside] at ok
      cases ok
  | transfer => cases direct

theorem Flat.run_wider {flat : Flat} {accesses : List Access}
    (direct : ∀ access ∈ accesses, access.direct = true)
    (ok : ∀ answer ∈ (flat.run narrow accesses).1, answer.isOk = true) :
    flat.run wide accesses = flat.run narrow accesses := by
  induction accesses generalizing flat with
  | nil => rfl
  | cons access rest ih =>
    obtain ⟨first, others⟩ := List.forall_mem_cons.mp direct
    rw [run_cons] at ok
    obtain ⟨answered, later⟩ := List.forall_mem_cons.mp ok
    rw [run_cons, run_cons, step_wider wider first answered, ih others later]

end Widening

namespace Mapping

def ofSpan (span : Span) : Mapping := ⟨span.base.toUInt64, span.size⟩

theorem create_eq (span : Span) {room : Nat} (aligned : span.base.toNat % pageBytes = 0)
    (occupied : 0 < span.size) (small : span.size ≤ UInt32.size) (enough : span.paged.size ≤ room) :
    create span.base.toUInt64 (.ofNat span.size) (.ok room) = .ok (ofSpan span.paged) := by
  have bounded := Span.paged_lt small
  have number : (UInt64.ofNat span.size).toNat = span.size :=
    UInt64.toNat_ofNat_of_lt (small.trans_lt (by decide))
  have present : ¬UInt64.ofNat span.size = 0 := by
    intro zero
    rw [zero, UInt64.toNat_zero] at number
    omega
  have fits : ¬UInt64.size ≤ span.paged.size := by
    unfold UInt32.size pageBytes at bounded
    unfold UInt64.size
    omega
  unfold create
  rw [UInt32.toNat_toUInt64, if_neg (not_not.mpr aligned), if_neg present, number]
  show (if UInt64.size ≤ span.paged.size then _
    else if room < span.paged.size then _ else Except.ok _) = _
  rw [if_neg fits, if_neg (Nat.not_lt.mpr enough)]
  rfl

section Access

variable {mapping : Mapping} {memory : FlatMemory} {offset : UInt64}

/-- The check of a copy passes whatever was found in the window. -/
theorem copyIn_eq {data : ByteArray} (inside : offset.toNat + data.size ≤ mapping.size) :
    mapping.copyIn memory offset data =
      .ok (memory.write (mapping.phys.toNat + offset.toNat) data) := by
  rw [copyIn, rangeAddress, if_pos inside]
  rfl

theorem copyOut_eq {slice : ByteArray} (inside : offset.toNat + slice.size ≤ mapping.size) :
    mapping.copyOut memory offset slice =
      (.ok (), memory.read (mapping.phys.toNat + offset.toNat) slice.size) := by
  rw [copyOut, rangeAddress, if_pos inside]

end Access

end Mapping

namespace MappedCore

variable {layout : Region → Span} {flat : Flat} {core : MappedCore}

def windowsOf (layout : Region → Span) : List (UInt32 × Mapping) :=
  Region.all.map fun region => ((layout region).base, .ofSpan (layout region))

structure Flattened (layout : Region → Span) (flat : Flat) (core : MappedCore) : Prop where
  windows : core.windows = windowsOf layout
  stagingBytes : core.stagingBytes = AddressMap.stagingBytes
  bytes : core.memory.byte = flat.bytes

section Lookup

variable {addr : UInt32} {len : Nat}

theorem offset_iff {base : UInt32} {size : Nat} :
    base ≤ addr ∧ (addr - base).toNat + len ≤ size ↔
      base.toNat ≤ addr.toNat ∧ addr.toNat + len ≤ base.toNat + size := by
  rw [UInt32.le_iff_toNat_le]
  refine and_congr_right fun above => ?_
  rw [UInt32.toNat_sub_of_le _ _ (UInt32.le_iff_toNat_le.mpr above)]
  omega

theorem locate?_eq_none : locate? (windowsOf layout) addr len = none ↔ ¬Inside layout addr len := by
  simp only [locate?, windowsOf, List.findSome?_eq_none_iff, List.forall_mem_map, Inside,
    Mapping.ofSpan, offset_iff, ite_eq_right_iff, reduceCtorEq, imp_false, not_exists, not_and]

/-- A range is found at its own address. -/
theorem locate?_eq_some {mapping : Mapping} {offset : UInt64}
    (found : locate? (windowsOf layout) addr len = some (mapping, offset)) :
    offset.toNat + len ≤ mapping.size ∧ mapping.phys.toNat + offset.toNat = addr.toNat := by
  obtain ⟨window, listed, here⟩ := List.exists_of_findSome?_eq_some found
  obtain ⟨region, _, rfl⟩ := List.mem_map.mp listed
  dsimp only at here
  split at here
  case isTrue inside =>
    cases here
    have above := UInt32.le_iff_toNat_le.mp inside.1
    rw [UInt32.toNat_toUInt64]
    refine ⟨inside.2, ?_⟩
    show (layout region).base.toUInt64.toNat + _ = _
    rw [UInt32.toNat_toUInt64, UInt32.toNat_sub_of_le _ _ inside.1]
    omega
  case isFalse => cases here

theorem exists_locate? (inside : Inside layout addr len) : ∃ mapping offset,
    locate? (windowsOf layout) addr len = some (mapping, offset) ∧
    offset.toNat + len ≤ mapping.size ∧ mapping.phys.toNat + offset.toNat = addr.toNat := by
  cases found : locate? (windowsOf layout) addr len with
  | none => exact absurd inside (locate?_eq_none.mp found)
  | some place => exact ⟨place.1, place.2, rfl, locate?_eq_some found⟩

end Lookup

/-- The mapped core serves the memory that it looks like; its windows may overlap. -/
theorem serves_flattened (base : (layout .staging).base = AddressMap.staging)
    (size : AddressMap.stagingBytes ≤ (layout .staging).size) :
    Bus.Serves layout (Flattened layout) where
  store_inside := by
    rintro flat ⟨memory, registers, windows, bytes⟩ addr data ⟨rfl, staging, held⟩ inside
    obtain ⟨mapping, offset, found, within, address⟩ := exists_locate? inside
    refine ⟨⟨memory.write addr.toNat data, registers, windowsOf layout, bytes⟩, ?_, rfl, staging, ?_⟩
    · simp only [Bus.store, found, Mapping.copyIn_eq within, address]
    · show (memory.write addr.toNat data).byte = overlay flat.bytes addr.toNat data.data.toList
      rw [FlatMemory.write, FlatMemory.byte_writeList_eq, ← held]
  store_outside := by
    rintro flat ⟨memory, registers, windows, bytes⟩ addr data ⟨rfl, staging, held⟩ outside
    simp only [Bus.store, locate?_eq_none.mpr outside]
  load := by
    rintro flat ⟨memory, registers, windows, bytes⟩ ⟨rfl, staging, held⟩ addr slice
    by_cases inside : Inside layout addr slice.size
    · obtain ⟨mapping, offset, found, within, address⟩ := exists_locate? inside
      simp only [Bus.load, found, Mapping.copyOut_eq within, address, if_pos inside]
      rw [← held]
      rfl
    · simp only [Bus.load, locate?_eq_none.mpr inside, if_neg inside]
  stagingBase := by
    rintro flat ⟨memory, registers, windows, bytes⟩ ⟨rfl, staging, held⟩
    exact base
  stagingBytes flattened := flattened.stagingBytes
  staging fits := ⟨.staging, Region.mem_all _, by rw [base], by rw [base]; omega⟩

end MappedCore

section Creation

def Profile.mapLayout (profile : Profile) (registers : UInt32) : MapLayout :=
  let window (region : Region) := ((profile.layout region).base, .ofNat (profile.layout region).size)
  { registers
    instructions := window .instructions
    weights := window .weights
    activations := window .activations
    staging := window .staging }

theorem Profile.base_aligned (profile : Profile) (region : Region) :
    (profile.layout region).base.toNat % Mapping.pageBytes = 0 := by
  cases region with
  | instructions => exact show AddressMap.instructions.toNat % Mapping.pageBytes = 0 by decide
  | weights => exact show AddressMap.weights.toNat % Mapping.pageBytes = 0 by decide
  | activations => exact show AddressMap.activations.toNat % Mapping.pageBytes = 0 by decide
  | staging => exact show AddressMap.staging.toNat % Mapping.pageBytes = 0 by decide

theorem mapM_map_eq_ok {α β γ ε : Type} {f : β → Except ε γ} {place : α → β} {result : α → γ}
    {items : List α} (each : ∀ item ∈ items, f (place item) = .ok (result item)) :
    (items.map place).mapM f = .ok (items.map result) := by
  induction items with
  | nil => rfl
  | cons item rest ih =>
    obtain ⟨first, others⟩ := List.forall_mem_cons.mp each
    rw [List.map_cons, List.mapM_cons, first, ih others]
    rfl

variable {profile : Profile} (apart : Apart profile.layout)
include apart

theorem Profile.end_le (region : Region) :
    (profile.layout region).base.toNat + (profile.layout region).size ≤ UInt32.size :=
  Profile.inside_le apart ⟨region, region.mem_all, Nat.le_refl _, Nat.le_refl _⟩

theorem Simulator.exists_ofProfile : ∃ sim, ofProfile profile = .ok sim := by
  have room : 0x40100000 + profile.instEntries.toNat * 8 ≤ UInt32.size :=
    Profile.end_le apart .instructions
  obtain ⟨bytes, ok, _⟩ := Checked.exists_mul32 (a := profile.instEntries) (b := 8)
    (show profile.instEntries.toNat * 8 < UInt32.size by omega)
  unfold ofProfile zeroed Profile.instBytes
  rw [ok]
  exact ⟨_, rfl⟩

namespace MappedCore

variable {registers : UInt32} {room : Nat} (occupied : ∀ region, 0 < (profile.layout region).size)
  (enough : ∀ region, (paged profile.layout region).size ≤ room)
include occupied enough

theorem mapWindow_mapLayout (registers : UInt32) :
    [(profile.mapLayout registers).instructions, (profile.mapLayout registers).weights,
      (profile.mapLayout registers).activations, (profile.mapLayout registers).staging].mapM
        (mapWindow (.ok room)) = .ok (windowsOf (paged profile.layout)) := by
  have listed : [(profile.mapLayout registers).instructions, (profile.mapLayout registers).weights,
      (profile.mapLayout registers).activations, (profile.mapLayout registers).staging] =
      Region.all.map fun region =>
        ((profile.layout region).base, UInt64.ofNat (profile.layout region).size) := rfl
  rw [listed]
  refine mapM_map_eq_ok fun region _ => ?_
  have below := Profile.end_le apart region
  rw [mapWindow, Mapping.create_eq _ (profile.base_aligned region) (occupied region) (by omega)
    (enough region)]
  rfl

/-- A core that was mapped just now holds nothing but zeros. -/
theorem exists_create (aligned : registers.toNat % Mapping.pageBytes = 0) (path : String) :
    ∃ core, create path (.memory room) (profile.mapLayout registers) = .ok core ∧
      Flattened (paged profile.layout) {} core := by
  -- The page of the registers takes no more than the staging window.
  have page : (Span.mk registers Register.windowBytes).paged.size ≤ room := by
    refine Nat.le_trans ?_ (enough .staging)
    show Span.size (Span.paged ⟨0, Register.windowBytes⟩) ≤
      Span.size (Span.paged ⟨0, AddressMap.stagingBytes⟩)
    decide
  have registersOk := Mapping.create_eq ⟨registers, Register.windowBytes⟩ aligned
    (show 0 < Register.windowBytes by decide) (show Register.windowBytes ≤ UInt32.size by decide) page
  have windowsOk := mapWindow_mapLayout apart occupied enough registers
  let core : MappedCore :=
    { memory := {}
      registers := .ofSpan (Span.paged ⟨registers, Register.windowBytes⟩)
      windows := windowsOf (paged profile.layout)
      stagingBytes := (UInt64.ofNat AddressMap.stagingBytes).toNat }
  have fresh : Flattened (paged profile.layout) {} core :=
    ⟨rfl, UInt64.toNat_ofNat_of_lt (by decide), funext fun _ => Std.HashMap.getD_empty⟩
  refine ⟨core, ?_, fresh⟩
  have placed : (profile.mapLayout registers).registers = registers := rfl
  rw [create, MemoryNode.opened, placed]
  simp only [bind, Except.bind, pure, Except.pure, registersOk, windowsOk]
  rfl

end MappedCore

end Creation

section Runs

variable {profile : Profile} {accesses : List Access} (clock : Clock)

theorem Simulator.answers_eq {sim : Simulator} (built : ofProfile profile = .ok sim)
    (apart : Apart profile.layout) :
    (Access.performAll accesses ⟨sim, clock⟩).1 = (Flat.run profile.layout accesses {}).1 :=
  let link : Link Simulator := ⟨sim, clock⟩
  have fresh : Flattened profile.layout {} link.bus := flattened_ofProfile built
  (Access.run_flat apart rfl fresh accesses).1

theorem MappedCore.answers_eq {core : MappedCore} (fresh : Flattened (paged profile.layout) {} core)
    (direct : ∀ access ∈ accesses, access.direct = true) :
    (Access.performAll accesses ⟨core, clock⟩).1 = (Flat.run (paged profile.layout) accesses {}).1 :=
  let link : Link MappedCore := ⟨core, clock⟩
  have fresh : Flattened (paged profile.layout) {} link.bus := fresh
  have serves : Bus.Serves (paged profile.layout) (Flattened (paged profile.layout)) :=
    serves_flattened rfl (profile.layout .staging).size_le_paged
  (Access.run_of_step (fun allowed held => Access.step_serves serves held allowed) fresh direct).1

end Runs

/-- Stores, stagings and loads have the same answers from a mapped core as from a simulated one with
the same windows, if the windows are whole pages. If they are not, every run that the simulated core
accepts still has the same answers. -/
theorem mapped_answers_eq {profile : Profile} {registers : UInt32} {room : Nat}
    (apart : Apart profile.layout) (occupied : ∀ region, 0 < (profile.layout region).size)
    (aligned : registers.toNat % Mapping.pageBytes = 0)
    (enough : ∀ region, (paged profile.layout region).size ≤ room) (path : String) :
    ∃ sim core, Simulator.ofProfile profile = .ok sim ∧
      MappedCore.create path (.memory room) (profile.mapLayout registers) = .ok core ∧
      ∀ (clock clock' : Clock) (accesses : List Access),
        (∀ access ∈ accesses, access.direct = true) →
        let simulated := (Access.performAll accesses ⟨sim, clock⟩).1
        let mapped := (Access.performAll accesses ⟨core, clock'⟩).1
        ((∀ region, Mapping.pageBytes ∣ (profile.layout region).size) → mapped = simulated) ∧
        ((∀ answer ∈ simulated, answer.isOk = true) → mapped = simulated) := by
  obtain ⟨sim, built⟩ := Simulator.exists_ofProfile apart
  obtain ⟨core, created, fresh⟩ := MappedCore.exists_create apart occupied enough aligned path
  refine ⟨sim, core, built, created, fun clock clock' accesses direct => ?_⟩
  -- Both are flat memories, one over the windows and one over the pages that hold them.
  dsimp only
  rw [Simulator.answers_eq clock built apart, MappedCore.answers_eq clock' fresh direct]
  refine ⟨fun whole => ?_, fun accepted => ?_⟩
  · have same : paged profile.layout = profile.layout :=
      funext fun region => Span.paged_eq (whole region)
    rw [same]
  · rw [Flat.run_wider Inside.paged direct accepted]

/-- The last bytes of a window that ends inside a page, and some that are staged. -/
def brimming : List Access :=
  [.store (AddressMap.weights + 254) ⟨#[7, 8]⟩, .stage ⟨#[1, 2, 3]⟩,
    .load AddressMap.staging ⟨#[9, 9, 9, 9]⟩, .load (AddressMap.weights + 253) ⟨#[9, 9, 9]⟩]

/-- The windows of the reference profile are whole pages; those of the small one are not. -/
theorem pages_whole_and_broken :
    (∃ sim core, Simulator.ofProfile .reference = .ok sim ∧
      MappedCore.create "/dev/mem" (.memory AddressMap.stagingBytes)
        (Profile.reference.mapLayout AddressMap.registers) = .ok core ∧
      ∀ accesses : List Access, (∀ access ∈ accesses, access.direct = true) →
        (Access.performAll accesses ⟨core, .start⟩).1 = (Access.performAll accesses ⟨sim, .start⟩).1) ∧
    ∃ core, MappedCore.create "/dev/mem" (.memory AddressMap.stagingBytes)
        (smallProfile.mapLayout AddressMap.registers) = .ok core ∧
      (Access.performAll brimming ⟨core, .start⟩).1 = [.ok .stored, .ok (.staged AddressMap.staging),
        .ok (.loaded ⟨#[1, 2, 3, 0]⟩), .ok (.loaded ⟨#[0, 7, 8]⟩)] := by
  constructor
  · have apart : Apart Profile.reference.layout := by
      apply apart_of_ordered
      intro first second
      cases first <;> cases second <;> decide
    obtain ⟨sim, core, built, created, agree⟩ := mapped_answers_eq apart
      (fun region => by cases region <;> decide) (show AddressMap.registers.toNat % _ = 0 by decide)
      (show ∀ region, _ ≤ AddressMap.stagingBytes from fun region => by cases region <;> decide)
      "/dev/mem"
    refine ⟨sim, core, built, created, fun accesses direct => ?_⟩
    exact (agree .start .start accesses direct).1 fun region => by cases region <;> decide
  · obtain ⟨sim, core, built, created, agree⟩ := mapped_answers_eq smallProfile_apart
      (fun region => by cases region <;> decide) (show AddressMap.registers.toNat % _ = 0 by decide)
      (show ∀ region, _ ≤ AddressMap.stagingBytes from fun region => by cases region <;> decide)
      "/dev/mem"
    have simulated := (Simulator.answers_eq .start built smallProfile_apart : _ =
      (Flat.run smallProfile.layout brimming {}).1)
    refine ⟨core, created, ((agree .start .start brimming (by decide)).2 ?_).trans simulated⟩
    rw [simulated]
    decide

end NpuStack
