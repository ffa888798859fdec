import NpuStack.Device.Simulator
import NpuStack.Program
import NpuStack.Proofs.Field

/-! From a program in the instruction buffer to what its run counts: the image
is stored byte by byte, and the core reads the opcode of each word from it. -/

set_option autoImplicit false

namespace NpuStack

section Memory

variable (memory : FlatMemory) {addr index : Nat}

theorem FlatMemory.byte_writeList_of_lt (before : index < addr) (bytes : List UInt8) :
    (memory.writeList addr bytes).byte index = memory.byte index := by
  induction bytes generalizing memory addr with
  | nil => rfl
  | cons first rest ih =>
    rw [writeList, ih _ (Nat.lt_succ_of_lt before)]
    simp [byte, Std.HashMap.getD_insert, Nat.ne_of_gt before]

theorem FlatMemory.byte_writeList {bytes : List UInt8} {value : UInt8}
    (found : bytes[index]? = some value) :
    (memory.writeList addr bytes).byte (addr + index) = value := by
  induction bytes generalizing memory addr index with
  | nil => cases found
  | cons first rest ih =>
    cases index with
    | zero =>
      cases found
      -- Later bytes go to higher addresses and leave this one alone.
      show (writeList _ (addr + 1) rest).byte addr = value
      rw [byte_writeList_of_lt _ (Nat.lt_succ_self addr)]
      simp [byte]
    | succ index =>
      rw [writeList, show addr + (index + 1) = addr + 1 + index by omega]
      exact ih _ found

end Memory

section Image

theorem Instruction.length_toBytes (inst : Instruction) : inst.toBytes.length = 8 :=
  LittleEndian.length_encode 8 _

theorem Instruction.toBytes_opcode (inst : Instruction) :
    inst.toBytes[7]? = some inst.opcodeByte := by
  have small := inst.word.toNat_lt
  have top : inst.word.toNat / 256 / 256 / 256 / 256 / 256 / 256 / 256 =
      Instruction.opcodeField.get inst.word := by
    rw [Field.get_eq]
    show _ = inst.word.toNat / 2 ^ 56 % 2 ^ 8
    omega
  exact congrArg (fun byte => some (UInt8.ofNat byte)) top

theorem Program.image_opcode {code : List Instruction} {index : Nat} {inst : Instruction}
    (found : code[index]? = some inst) :
    (code.flatMap Instruction.toBytes)[8 * index + 7]? = some inst.opcodeByte := by
  induction code generalizing index with
  | nil => cases found
  | cons first rest ih =>
    have eight := first.length_toBytes
    rw [List.flatMap_cons]
    cases index with
    | zero =>
      cases found
      rw [List.getElem?_append_left (by omega)]
      exact inst.toBytes_opcode
    | succ index =>
      rw [List.getElem?_append_right (by omega), ← ih found, eight]
      congr 1

theorem Program.size_imageOf (instructions : Array Instruction) :
    (imageOf instructions).size = instructions.size * 8 := by
  show (instructions.toList.flatMap Instruction.toBytes).length = _
  rw [List.length_flatMap, funext Instruction.length_toBytes, List.map_const', List.sum_replicate_nat,
    Array.length_toList]

end Image

/-- A window that holds a program from a word on, as far as the core reads it. -/
structure Loaded (window : Window) (index : Nat) (code : List Instruction) : Prop where
  room : 8 * (index + code.length) ≤ window.size
  opcodes : ∀ offset inst, code[offset]? = some inst →
    Tally.opcodeAt window (index + offset) = inst.opcode

theorem Loaded.tail {window : Window} {index : Nat} {first : Instruction} {rest : List Instruction}
    (loaded : Loaded window index (first :: rest)) : Loaded window (index + 1) rest where
  room := by
    have := loaded.room
    rw [List.length_cons] at this
    omega
  opcodes offset inst found := by
    rw [Nat.add_right_comm]
    exact loaded.opcodes (offset + 1) inst found

theorem loaded_image (window : Window) {instructions : Array Instruction}
    (room : instructions.size * 8 ≤ window.size) :
    Loaded (window.write 0 (Program.imageOf instructions)) 0 instructions.toList where
  room := by
    show 8 * (0 + instructions.size) ≤ window.size
    omega
  opcodes offset inst found := by
    have stored : (window.bytes.writeList 0 _).byte (0 + (8 * offset + 7)) = inst.opcodeByte :=
      window.bytes.byte_writeList (Program.image_opcode found)
    rw [Nat.zero_add] at stored ⊢
    exact congrArg Opcode.ofByte stored

def computeCount (code : List Instruction) : Nat := code.countP (·.opcode == .compute)

def waitCount (code : List Instruction) : Nat := code.countP (·.opcode == .waitDma)

namespace Tally

def ofCode (code : List Instruction) : Tally where
  retired := code.length
  computes := computeCount code
  dmaWaits := waitCount code

def retireAll (tally : Tally) (code : List Instruction) : Tally :=
  code.foldl (fun tally inst => tally.retire inst.opcode) tally

/-- Only the last instruction may halt. -/
def RunsOn : List Instruction → Prop
  | [] => True
  | inst :: rest => (inst.opcode = .halt → rest = []) ∧ RunsOn rest

/-- The core retires a loaded program to its end. -/
theorem run_loaded {window : Window} {index : Nat} {code : List Instruction}
    (loaded : Loaded window index code) (runsOn : RunsOn code) (tally : Tally) :
    run window code.length index tally = tally.retireAll code := by
  induction code generalizing index tally with
  | nil => rfl
  | cons inst rest ih =>
    have opcode : opcodeAt window index = inst.opcode := loaded.opcodes 0 inst rfl
    have room := loaded.room
    rw [List.length_cons] at room ⊢
    rw [run, if_neg (by omega)]
    dsimp only
    rw [opcode]
    split
    case isTrue halts =>
      -- A halt stands at the end, so stopping here loses nothing.
      rw [runsOn.1 halts]
      rfl
    case isFalse => exact ih loaded.tail runsOn.2 _

theorem retireAll_eq (tally : Tally) (code : List Instruction) :
    tally.retireAll code =
      { retired := tally.retired + code.length
        computes := tally.computes + computeCount code
        dmaWaits := tally.dmaWaits + waitCount code } := by
  induction code generalizing tally with
  | nil => rfl
  | cons inst rest ih =>
    rw [retireAll, List.foldl_cons, ← retireAll, ih]
    simp only [retire, computeCount, waitCount, List.length_cons, List.countP_cons, beq_iff_eq]
    congr 1
    · omega
    · split <;> omega
    · split <;> omega

/-- A loaded program is counted whole. -/
theorem run_eq_ofCode {window : Window} {code : List Instruction} (loaded : Loaded window 0 code)
    (runsOn : RunsOn code) : run window code.length 0 {} = ofCode code := by
  rw [run_loaded loaded runsOn, retireAll_eq]
  simp [ofCode]

end Tally

end NpuStack
