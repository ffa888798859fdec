import NpuStack.Proofs.Checked
import NpuStack.Proofs.Host.Invariant
import NpuStack.Proofs.Simulator.Frame
import Mathlib.Logic.Function.Basic

/-! Contents of the memory windows. A write lays bytes over what a window held.
In a layout without overlaps an address belongs to one window, so that bytes
sent through the staging window arrive as if they were written directly. The
windows themselves stay where the profile has put them. -/

set_option autoImplicit false

namespace NpuStack

def overlay (contents : Nat → UInt8) (addr : Nat) (bytes : List UInt8) (index : Nat) : UInt8 :=
  if index < addr then contents index else bytes[index - addr]?.getD (contents index)

section Overlay

variable (contents : Nat → UInt8) (addr : Nat)

theorem overlay_nil : overlay contents addr [] = contents := by
  funext index
  simp [overlay]

theorem overlay_append (first second : List UInt8) :
    overlay (overlay contents addr first) (addr + first.length) second =
      overlay contents addr (first ++ second) := by
  funext index
  unfold overlay
  by_cases below : index < addr
  · simp [below, Nat.lt_add_right first.length below]
  · by_cases inFirst : index < addr + first.length
    · have position : index - addr < first.length := by omega
      simp [below, inFirst, List.getElem?_append_left position]
    · have position : first.length ≤ index - addr := by omega
      simp [below, inFirst, List.getElem?_append_right position, List.getElem?_eq_none position,
        Nat.sub_add_eq]

/-- Nothing of the old contents is left where bytes were laid. -/
theorem overlay_inside {bytes : List UInt8} {index : Nat} (inside : index < bytes.length) :
    overlay contents addr bytes (addr + index) = bytes[index] := by
  have notBelow : ¬addr + index < addr := by omega
  simp [overlay, notBelow, List.getElem?_eq_getElem inside]

theorem overlay_outside {bytes : List UInt8} {index : Nat}
    (outside : index < addr ∨ addr + bytes.length ≤ index) :
    overlay contents addr bytes index = contents index := by
  unfold overlay
  split
  · rfl
  · rw [List.getElem?_eq_none (by omega)]
    rfl

end Overlay

theorem FlatMemory.byte_insert (memory : FlatMemory) (addr : Nat) (value : UInt8) :
    FlatMemory.byte ⟨memory.cells.insert addr value⟩ = overlay memory.byte addr [value] := by
  funext index
  unfold byte overlay
  rw [Std.HashMap.getD_insert]
  rcases Nat.lt_trichotomy index addr with below | same | above
  · simp [below, Nat.ne_of_gt below]
  · simp [same]
  · have later : [value][index - addr]? = none := List.getElem?_eq_none (by simp; omega)
    simp [Nat.ne_of_lt above, Nat.not_lt_of_gt above, later]

theorem FlatMemory.byte_writeList_eq (memory : FlatMemory) (addr : Nat) (bytes : List UInt8) :
    (memory.writeList addr bytes).byte = overlay memory.byte addr bytes := by
  induction bytes generalizing memory addr with
  | nil => exact (overlay_nil _ addr).symm
  | cons first rest ih =>
    -- One byte is an overlay of its own, and the rest is laid right behind it.
    rw [writeList, ih, byte_insert]
    exact overlay_append memory.byte addr [first] rest

theorem Window.read_write_same (window : Window) (offset : Nat) (data : ByteArray) :
    (window.write offset data).read offset data.size = data := by
  apply ByteArray.ext
  apply Array.ext
  · exact Array.size_ofFn
  · intro index _ inside
    have inData : index < data.data.toList.length := inside
    calc ((window.write offset data).read offset data.size).data[index]
        = (window.bytes.writeList offset data.data.toList).byte (offset + index) :=
          Array.getElem_ofFn _
      _ = data.data.toList[index] := by rw [FlatMemory.byte_writeList_eq, overlay_inside _ _ inData]
      _ = data.data[index] := Array.getElem_toList _

structure Span where
  base : UInt32
  size : Nat

namespace Span

def Contains (span : Span) (addr : Nat) : Prop :=
  span.base.toNat ≤ addr ∧ addr < span.base.toNat + span.size

/-- A range lies in the span, `offset` bytes from its base. -/
def Covers (span : Span) (addr : UInt32) (len offset : Nat) : Prop :=
  addr.toNat = span.base.toNat + offset ∧ offset + len ≤ span.size

theorem Covers.holds {span : Span} {addr : UInt32} {len offset : Nat}
    (covers : span.Covers addr len offset) (occupied : 0 < len) : span.Contains addr.toNat := by
  obtain ⟨address, room⟩ := covers
  unfold Contains
  omega

end Span

theorem Window.locate?_eq_some {window : Window} {addr : UInt32} {len offset : Nat} :
    window.locate? addr len = some offset ↔ Span.Covers ⟨window.base, window.size⟩ addr len offset := by
  unfold locate? Span.Covers
  by_cases above : window.base ≤ addr
  · have distance := UInt32.toNat_sub_of_le _ _ above
    have ordered := UInt32.le_iff_toNat_le.mp above
    simp only [above, distance, true_and]
    constructor
    · intro found
      split at found
      · cases found
        omega
      · cases found
    · rintro ⟨address, room⟩
      have same : addr.toNat - window.base.toNat = offset := by omega
      rw [same, if_pos room]
  · have ordered := UInt32.lt_iff_toNat_lt.mp (UInt32.not_le.mp above)
    constructor
    · intro found
      rw [if_neg fun both => above both.1] at found
      cases found
    · rintro ⟨address, _⟩
      dsimp only at address
      omega

namespace DeviceMemory

/-- No address belongs to two windows. -/
def Apart (layout : Region → Span) : Prop :=
  ∀ first second addr, (layout first).Contains addr → (layout second).Contains addr → first = second

theorem apart_of_ordered {layout : Region → Span}
    (ordered : ∀ first second, first = second ∨
      (layout first).base.toNat + (layout first).size ≤ (layout second).base.toNat ∨
      (layout second).base.toNat + (layout second).size ≤ (layout first).base.toNat) :
    Apart layout := by
  intro first second addr here there
  unfold Span.Contains at here there
  rcases ordered first second with same | before | behind
  · exact same
  · omega
  · omega

def layout (memory : DeviceMemory) (region : Region) : Span :=
  ⟨(memory.window region).base, (memory.window region).size⟩

def contents (memory : DeviceMemory) (region : Region) : Nat → UInt8 :=
  (memory.window region).bytes.byte

section Writing

variable (memory : DeviceMemory) (region : Region) (offset : Nat) (data : ByteArray)

theorem window_writeAt_same :
    (memory.writeAt region offset data).window region = (memory.window region).write offset data := by
  cases region <;> rfl

theorem window_writeAt_of_ne {other : Region} (apart : other ≠ region) :
    (memory.writeAt region offset data).window other = memory.window other := by
  cases region <;> cases other <;> first | rfl | exact absurd rfl apart

theorem layout_writeAt : (memory.writeAt region offset data).layout = memory.layout := by
  funext other
  by_cases same : other = region
  · rw [same, layout, window_writeAt_same]
    rfl
  · rw [layout, window_writeAt_of_ne _ _ _ _ same]
    rfl

theorem contents_writeAt : (memory.writeAt region offset data).contents =
    Function.update memory.contents region
      (overlay (memory.contents region) offset data.data.toList) := by
  funext other
  by_cases same : other = region
  · rw [same, Function.update_self, contents, window_writeAt_same]
    exact FlatMemory.byte_writeList_eq _ _ _
  · rw [Function.update_of_ne same, contents, window_writeAt_of_ne _ _ _ _ same]
    rfl

end Writing

variable {memory after : DeviceMemory} {region : Region} {src dst addr : UInt32} {len offset : Nat}
  {data : ByteArray}

theorem layout_store? (stored : memory.store? addr data = some after) :
    after.layout = memory.layout := by
  unfold store? at stored
  split at stored
  · cases stored
    exact layout_writeAt _ _ _ _
  · cases stored

theorem layout_copy? (copied : memory.copy? src dst len = some after) :
    after.layout = memory.layout := by
  unfold copy? at copied
  split at copied
  · cases copied
    exact layout_writeAt _ _ _ _
  · cases copied

section Apart

variable (apart : Apart memory.layout)
include apart

/-- The windows are asked in turn, and only one of them can hold a range that is not empty. -/
theorem locate?_eq (covers : (memory.layout region).Covers addr len offset) (occupied : 0 < len) :
    memory.locate? addr len = some (region, offset) := by
  have here : (memory.window region).locate? addr len = some offset :=
    Window.locate?_eq_some.mpr covers
  have elsewhere (other : Region) (distinct : other ≠ region) :
      (memory.window other).locate? addr len = none := by
    rw [Option.eq_none_iff_forall_ne_some]
    intro position found
    have also : (memory.layout other).Covers addr len position := Window.locate?_eq_some.mp found
    exact distinct (apart other region addr.toNat (also.holds occupied) (covers.holds occupied))
  have asked : memory.locate? addr len =
      (((memory.window .instructions).locate? addr len).map (Region.instructions, ·) <|>
      ((memory.window .weights).locate? addr len).map (Region.weights, ·) <|>
      ((memory.window .activations).locate? addr len).map (Region.activations, ·) <|>
      ((memory.window .staging).locate? addr len).map (Region.staging, ·)) := rfl
  rw [asked]
  cases region <;> simp [here, elsewhere]

theorem store?_eq (covers : (memory.layout region).Covers addr data.size offset)
    (occupied : 0 < data.size) :
    memory.store? addr data = some (memory.writeAt region offset data) := by
  rw [store?, locate?_eq apart covers occupied]

/-- Bytes that were put at the start of the staging window are copied from there. -/
theorem copy?_staged (target : (memory.layout region).Covers dst data.size offset)
    (source : (memory.layout .staging).Covers src data.size 0) (occupied : 0 < data.size) :
    (memory.writeAt .staging 0 data).copy? src dst data.size =
      some ((memory.writeAt .staging 0 data).writeAt region offset data) := by
  -- Staging moves no window, so source and target are found where they were.
  have same := layout_writeAt memory .staging 0 data
  rw [← same] at apart target source
  have staged : ((memory.writeAt .staging 0 data).window .staging).read 0 data.size = data := by
    rw [window_writeAt_same]
    exact Window.read_write_same _ 0 data
  rw [copy?, locate?_eq apart source occupied, locate?_eq apart target occupied]
  simp only [staged]

end Apart

end DeviceMemory

def Profile.layout (profile : Profile) : DeviceMemory.Region → Span
  | .instructions => ⟨AddressMap.instructions, profile.instEntries.toNat * 8⟩
  | .weights => ⟨AddressMap.weights, profile.weightBytes.toNat⟩
  | .activations => ⟨AddressMap.activations, profile.actBytes.toNat⟩
  | .staging => ⟨AddressMap.staging, AddressMap.stagingBytes⟩

namespace Simulator

section Layout

variable (sim : Simulator) (value : UInt32)

theorem memory_runProgram : sim.runProgram.memory = sim.memory := by
  unfold runProgram charge
  split
  · rfl
  · split
    · rfl
    · dsimp only
      split <;> rfl

theorem memory_onCtrl : (sim.onCtrl value).memory = sim.memory := by
  unfold onCtrl
  split
  · rfl
  · split
    · exact memory_runProgram _
    · rfl

theorem layout_runTransfer : sim.runTransfer.memory.layout = sim.memory.layout := by
  unfold runTransfer
  dsimp only
  split
  case h_1 memory found =>
    split at found
    · cases found
    · exact DeviceMemory.layout_copy? found
  case h_2 => rfl

theorem layout_onDmaCtrl : (sim.onDmaCtrl value).memory.layout = sim.memory.layout := by
  unfold onDmaCtrl
  split
  · rfl
  · split
    · dsimp only
      split
      · rfl
      · exact layout_runTransfer _
    · rfl

theorem layout_write (reg : Register) : (sim.write reg value).memory.layout = sim.memory.layout := by
  cases reg with
  | ctrl => exact congrArg DeviceMemory.layout (memory_onCtrl _ value)
  -- The only write that reaches memory: a transfer copies inside the windows.
  | dmaCtrl => exact layout_onDmaCtrl _ value
  | perfCtrl =>
    show (onPerfCtrl _ value).memory.layout = _
    unfold onPerfCtrl
    split <;> rfl
  | _ => rfl

theorem memory_read (reg : Register) : (sim.read reg).2.memory = sim.memory := by
  unfold read
  split
  · dsimp only
    split <;> rfl
  · split <;> rfl
  · rfl

end Layout

theorem stable_layout (layout : DeviceMemory.Region → Span) :
    Link.Stable (fun _ => True) fun link : Link Simulator => link.bus.memory.layout = layout where
  read link reg held := (congrArg DeviceMemory.layout (memory_read link.bus reg)).trans held
  write link reg value _ held := (layout_write link.bus value reg).trans held
  store link addr data bus stored held := by
    obtain ⟨memory, found, rfl⟩ := exists_memory stored
    exact (DeviceMemory.layout_store? found).trans held
  time _ _ held := held

theorem layout_ofProfile {profile : Profile} {sim : Simulator} (built : ofProfile profile = .ok sim) :
    sim.memory.layout = profile.layout := by
  obtain ⟨memory, zeroed, same⟩ := bind_eq_ok.mp built
  cases same
  obtain ⟨instBytes, counted, same⟩ := bind_eq_ok.mp zeroed
  cases same
  have bytes : profile.instEntries.toNat * 8 = instBytes.toNat := Checked.mul32_eq_ok.mp counted
  funext region
  cases region with
  | instructions => exact congrArg (Span.mk AddressMap.instructions) bytes.symm
  | weights | activations | staging => rfl

end Simulator

/-- Between operations the windows lie where they were built, whatever else has changed. -/
theorem Reachable.layout {profile : Profile} {host : Host Simulator}
    (reached : Reachable (fun sim => Simulator.ofProfile profile = .ok sim)
      (fun before after => after.memory.layout = before.memory.layout) host) :
    host.link.bus.memory.layout = profile.layout :=
  reached.kept (Simulator.stable_layout profile.layout).guarded
    (fun _ _ built => Simulator.layout_ofProfile built) fun _ _ same held => same.trans held

end NpuStack
