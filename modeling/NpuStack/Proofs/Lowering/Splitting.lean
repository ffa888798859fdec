import NpuStack.Proofs.Lowering.Coverage
import NpuStack.Proofs.Lowering.Growth

/-! How a transfer is split. The loop makes a round for each instruction, and a
round checks the addresses before the room that is left. So the first part that
starts out of range and the first that has no room compete, the former winning
a tie, and the transfer is whole only if there is neither. -/

set_option autoImplicit false

namespace NpuStack.Lowering

section Loop

/-- One round of the splitting loop: the part from `done` on. -/
def pushChunk (op : Opcode) (src dst len done : UInt32) (program : Program) :
    Lowering (UInt32 × Program) := do
  let rest ← Checked.sub32 len done
  let chunk := min rest DmaOperand.maxLen
  let source ← offsetAddress src done "DMA source"
  let destination ← offsetAddress dst done "DMA destination"
  if !(DmaOperand.mk source destination chunk).fits then
    refuse (.outOfRange source destination)
  let program ← push program (.transfer op source destination chunk)
  let done ← Checked.add32 done chunk
  return (done, program)

/-- The splitting loop with no limit on its rounds: from `done` on it ends in so many rounds. -/
inductive EndsIn (op : Opcode) (src dst len : UInt32) :
    (rounds : Nat) → (done : UInt32) → Program → Lowering Program → Prop where
  | stopped {done : UInt32} {program : Program} {cause : Failure CompileError}
      (failed : pushChunk op src dst len done program = .error cause) :
      EndsIn op src dst len 1 done program (.error cause)
  | finished {done done' : UInt32} {program longer : Program}
      (pushed : pushChunk op src dst len done program = .ok (done', longer)) (all : len ≤ done') :
      EndsIn op src dst len 1 done program (.ok longer)
  | resumed {rounds : Nat} {done done' : UInt32} {program longer : Program}
      {result : Lowering Program}
      (pushed : pushChunk op src dst len done program = .ok (done', longer)) (more : ¬len ≤ done')
      (rest : EndsIn op src dst len rounds done' longer result) :
      EndsIn op src dst len (rounds + 1) done program result

variable {op : Opcode} {src dst len done : UInt32} {program : Program}

theorem pushChunks_succ (fuel : Nat) : pushChunks op src dst len (fuel + 1) done program =
    pushChunk op src dst len done program >>= fun (done', longer) =>
      if len ≤ done' then pure longer else pushChunks op src dst len fuel done' longer := by
  simp only [pushChunks, pushChunk, bind_assoc]
  refine bind_congr fun rest => bind_congr fun source => bind_congr fun destination => ?_
  split
  case isTrue => rfl
  case isFalse => simp only [bind_assoc, pure_bind]

/-- A limit that the loop does not reach has no effect on it. -/
theorem EndsIn.pushChunks_eq {rounds fuel : Nat} {result : Lowering Program}
    (ends : EndsIn op src dst len rounds done program result) (enough : rounds ≤ fuel) :
    pushChunks op src dst len fuel done program = result := by
  induction ends generalizing fuel with
  | stopped failed =>
    obtain ⟨fuel, rfl⟩ := Nat.exists_eq_add_of_le' enough
    rw [pushChunks_succ, failed]
    rfl
  | finished pushed all =>
    obtain ⟨fuel, rfl⟩ := Nat.exists_eq_add_of_le' enough
    rw [pushChunks_succ, pushed]
    exact if_pos all
  | @resumed rounds _ _ _ _ _ pushed more _ ih =>
    obtain ⟨fuel, rfl⟩ := Nat.exists_eq_add_of_le' (Nat.le_of_add_left_le enough)
    rw [pushChunks_succ, pushed]
    exact (if_neg more).trans (ih (by omega))

theorem EndsIn.pushTransfer_eq {rounds : Nat} {result : Lowering Program}
    (ends : EndsIn op src dst len rounds 0 program result) (few : rounds ≤ chunkCount len.toNat) :
    pushTransfer op src dst len program = result := by
  unfold pushTransfer
  rw [toNat_transferCount, UInt32.toNat_toUInt64]
  exact ends.pushChunks_eq few

end Loop

section Rounds

instance (src dst k : Nat) : Decidable (StartsInRange src dst k) :=
  inferInstanceAs (Decidable (_ ∧ _))

theorem push_of_room {program : Program} (room : program.size < program.bound) (inst : Instruction) :
    ∃ longer, push program inst = .ok longer ∧ Appended program [inst] longer := by
  obtain ⟨longer, ok⟩ := (push_grows program inst True).exists_ok trivial room
  exact ⟨longer, ok, push_appended ok⟩

theorem push_of_full {program : Program} (full : ¬program.size < program.bound) (inst : Instruction) :
    push program inst = Failure.report (.sequenceOverflow program.bound) := by
  have refused : program.push inst = .error (.sequenceOverflow program.bound) := dif_neg full
  unfold push
  rw [refused]

theorem Appended.size_eq {program longer : Program} {added : List Instruction}
    (appended : Appended program added longer) : longer.size = program.size + added.length := by
  have length := congrArg List.length appended.instructions
  rwa [List.length_append, Array.length_toList, Array.length_toList] at length

/-- Behind parts that start in range no address wraps: one step is far shorter than a word. -/
theorem start_lt_size {src dst : UInt32} {k : Nat}
    (before : ∀ j < k, StartsInRange src.toNat dst.toNat j) :
    src.toNat + k * longest < UInt32.size ∧ dst.toNat + k * longest < UInt32.size := by
  cases k with
  | zero =>
    rw [Nat.zero_mul]
    exact ⟨src.toNat_lt, dst.toNat_lt⟩
  | succ k =>
    obtain ⟨srcRange, dstRange⟩ := before k (Nat.lt_succ_self k)
    have width : longest = 16383 := rfl
    rw [Nat.add_mul]
    unfold UInt32.size
    omega

theorem fits_iff_startsInRange {src dst k : Nat} {source destination : UInt32} (rest : UInt32)
    (sourceNumber : source.toNat = src + k * longest)
    (destinationNumber : destination.toNat = dst + k * longest) :
    (DmaOperand.mk source destination (min rest DmaOperand.maxLen)).fits = true ↔
      StartsInRange src dst k := by
  have short : (min rest DmaOperand.maxLen).toNat ≤ 0x3FFF := by
    rw [toNat_min]
    exact Nat.min_le_right _ _
  rw [DmaOperand.fits_iff, sourceNumber, destinationNumber]
  exact ⟨fun ⟨srcRange, dstRange, _⟩ => ⟨srcRange, dstRange⟩,
    fun ⟨srcRange, dstRange⟩ => ⟨srcRange, dstRange, short⟩⟩

/-- What the `k`-th round does once the earlier parts were in range. -/
theorem pushChunk_eq {src dst len done : UInt32} {k : Nat} (op : Opcode) (program : Program)
    (reached : done.toNat = k * longest) (below : k < chunkCount len.toNat)
    (before : ∀ j < k, StartsInRange src.toNat dst.toNat j) :
    ∃ source destination done' : UInt32, source.toNat = src.toNat + k * longest ∧
      destination.toNat = dst.toNat + k * longest ∧
      done'.toNat = min len.toNat ((k + 1) * longest) ∧
      pushChunk op src dst len done program =
        if StartsInRange src.toNat dst.toNat k then
          push program (transferOf op (chunk src.toNat dst.toNat len.toNat k)) >>= fun longer =>
            pure (done', longer)
        else refuse (.outOfRange source destination) := by
  obtain ⟨srcSmall, dstSmall⟩ := start_lt_size before
  rw [← reached] at srcSmall dstSmall
  obtain ⟨rest, subtracted, restNumber⟩ :=
    Checked.exists_sub32 (reached.trans_le (chunk_reached below))
  obtain ⟨source, sourced, sourceNumber⟩ := exists_offsetAddress "DMA source" srcSmall
  obtain ⟨destination, aimed, destinationNumber⟩ := exists_offsetAddress "DMA destination" dstSmall
  obtain ⟨done', added, moved⟩ := exists_moved reached restNumber
  rw [← chunk_eq reached restNumber sourceNumber destinationNumber]
  rw [reached] at sourceNumber destinationNumber
  have fits := fits_iff_startsInRange rest sourceNumber.symm destinationNumber.symm
  refine ⟨source, destination, done', sourceNumber.symm, destinationNumber.symm, moved, ?_⟩
  -- No sum has wrapped, so the only check that can fail is that of the operand.
  unfold pushChunk
  rw [subtracted, sourced, aimed]
  show (if _ then _ else push program _ >>= fun longer =>
    (liftM (Checked.add32 done (min rest DmaOperand.maxLen)) : Lowering UInt32) >>= _) = _
  rw [added]
  by_cases inside : StartsInRange src.toNat dst.toNat k
  · rw [if_pos inside, fits.mpr inside]
    rfl
  · rw [if_neg inside, Bool.eq_false_iff.mpr (mt fits.mp inside)]
    rfl

end Rounds

section Runs

variable {op : Opcode} {src dst len : UInt32} {k : Nat} {program : Program}

/-- The loop stands before its `k`-th round. The parts before it are in the program, and its end from
here on is its end from the start. -/
structure Reaches (op : Opcode) (src dst len : UInt32) (program : Program) (k : Nat) (done : UInt32)
    (longer : Program) : Prop where
  moved : done.toNat = k * longest
  appended : Appended program
    ((List.range k).map fun j => transferOf op (chunk src.toNat dst.toNat len.toNat j)) longer
  endsIn {rounds : Nat} {result : Lowering Program} :
    EndsIn op src dst len rounds done longer result →
      EndsIn op src dst len (k + rounds) 0 program result

namespace Reaches

variable {done : UInt32} {longer : Program}

theorem zero (op : Opcode) (src dst len : UInt32) (program : Program) :
    Reaches op src dst len program 0 0 program where
  moved := by simp
  appended := .nil program
  endsIn ends := by rwa [Nat.zero_add]

theorem size_eq (reaches : Reaches op src dst len program k done longer) :
    longer.size = program.size + k := by
  rw [reaches.appended.size_eq, List.length_map, List.length_range]

/-- A round whose part is in range and has room. -/
theorem exists_pushed (reaches : Reaches op src dst len program k done longer)
    (below : k < chunkCount len.toNat) (inside : ∀ j ≤ k, StartsInRange src.toNat dst.toNat j)
    (room : program.size + k < program.bound) :
    ∃ done' longer', done'.toNat = min len.toNat ((k + 1) * longest) ∧
      Appended longer [transferOf op (chunk src.toNat dst.toNat len.toNat k)] longer' ∧
      pushChunk op src dst len done longer = .ok (done', longer') := by
  obtain ⟨_, _, done', _, _, moved, round⟩ := pushChunk_eq op longer
    reaches.moved below fun j earlier => inside j (by omega)
  have room' : longer.size < longer.bound := by
    rw [reaches.size_eq, reaches.appended.bound]
    exact room
  obtain ⟨longer', pushed, appended⟩ := push_of_room room'
    (transferOf op (chunk src.toNat dst.toNat len.toNat k))
  rw [if_pos (inside k (Nat.le_refl k)), pushed] at round
  exact ⟨done', longer', moved, appended, round⟩

theorem succ (reaches : Reaches op src dst len program k done longer)
    (below : k + 1 < chunkCount len.toNat) (inside : ∀ j ≤ k, StartsInRange src.toNat dst.toNat j)
    (room : program.size + k < program.bound) :
    ∃ done' longer', Reaches op src dst len program (k + 1) done' longer' := by
  obtain ⟨done', longer', moved, appended, round⟩ :=
    reaches.exists_pushed (by omega) inside room
  -- Another part is counted only if this one leaves bytes over, so the loop goes on.
  have short := mt (chunkCount_le_iff len.toNat k).mpr (by omega)
  refine ⟨done', longer', by omega, ?_, fun {rounds result} ends => ?_⟩
  · rw [List.range_succ, List.map_append]
    exact reaches.appended.append appended
  · have more : ¬len ≤ done' := by
      rw [UInt32.le_iff_toNat_le]
      omega
    have resumed := reaches.endsIn (.resumed round more ends)
    rwa [show k + (rounds + 1) = k + 1 + rounds by omega] at resumed

end Reaches

/-- The loop gets to every round whose earlier parts are in range and have room. -/
theorem exists_reaches (op : Opcode) (program : Program) (below : k < chunkCount len.toNat)
    (before : ∀ j < k, StartsInRange src.toNat dst.toNat j)
    (room : program.size + k ≤ program.bound) :
    ∃ done longer, Reaches op src dst len program k done longer := by
  induction k with
  | zero => exact ⟨0, program, .zero op src dst len program⟩
  | succ k ih =>
    obtain ⟨done, longer, reaches⟩ := ih (by omega) (fun j earlier => before j (by omega)) (by omega)
    exact reaches.succ below (fun j earlier => before j (by omega)) (by omega)

def firstOutside? (src dst count : Nat) : Option Nat :=
  (List.range count).find? fun k => !decide (StartsInRange src dst k)

theorem firstOutside?_eq_some {src dst count k : Nat} : firstOutside? src dst count = some k ↔
    ¬StartsInRange src dst k ∧ k < count ∧ ∀ j < k, StartsInRange src dst j := by
  simp [firstOutside?, List.find?_range_eq_some]

theorem firstOutside?_eq_none {src dst count : Nat} :
    firstOutside? src dst count = none ↔ ∀ k < count, StartsInRange src dst k := by
  simp [firstOutside?]

/-- Up to the last part with room all are in range, if the first that is not comes later. -/
theorem startsInRange_of_later {src dst count room k : Nat}
    (later : ∀ first, firstOutside? src dst count = some first → room < first) (below : k < count)
    (roomy : k ≤ room) : StartsInRange src dst k := by
  cases found : firstOutside? src dst count with
  | none => exact firstOutside?_eq_none.mp found k below
  | some first =>
    have := later first found
    exact (firstOutside?_eq_some.mp found).2.2 k (by omega)

theorem endsIn_outside (op : Opcode) (program : Program)
    (first : firstOutside? src.toNat dst.toNat (chunkCount len.toNat) = some k)
    (room : program.size + k ≤ program.bound) :
    ∃ source destination : UInt32, source.toNat = src.toNat + k * longest ∧
      destination.toNat = dst.toNat + k * longest ∧
      EndsIn op src dst len (k + 1) 0 program (refuse (.outOfRange source destination)) := by
  obtain ⟨outside, below, before⟩ := firstOutside?_eq_some.mp first
  obtain ⟨done, longer, reaches⟩ := exists_reaches op program below before room
  obtain ⟨source, destination, _, sourceNumber, destinationNumber, _, round⟩ :=
    pushChunk_eq op longer reaches.moved below before
  rw [if_neg outside] at round
  exact ⟨source, destination, sourceNumber, destinationNumber, reaches.endsIn (.stopped round)⟩

theorem endsIn_of_short (op : Opcode) (short : program.bound - program.size < chunkCount len.toNat)
    (inside : ∀ j ≤ program.bound - program.size, StartsInRange src.toNat dst.toNat j) :
    EndsIn op src dst len (program.bound - program.size + 1) 0 program
      (Failure.report (.sequenceOverflow program.bound)) := by
  have size : program.size ≤ program.bound := program.size_le
  obtain ⟨done, longer, reaches⟩ := exists_reaches op program short
    (fun j earlier => inside j (Nat.le_of_lt earlier)) (by omega)
  obtain ⟨_, _, done', _, _, _, round⟩ := pushChunk_eq op longer reaches.moved
    short fun j earlier => inside j (Nat.le_of_lt earlier)
  have full : ¬longer.size < longer.bound := by
    rw [reaches.size_eq, reaches.appended.bound]
    omega
  rw [if_pos (inside _ (Nat.le_refl _)), push_of_full full, reaches.appended.bound] at round
  exact reaches.endsIn (.stopped round)

theorem endsIn_whole (op : Opcode) (fits : TransferFits src.toNat dst.toNat len.toNat)
    (room : program.size + chunkCount len.toNat ≤ program.bound) :
    ∃ longer, EndsIn op src dst len (chunkCount len.toNat) 0 program (.ok longer) := by
  obtain ⟨last, count⟩ := Nat.exists_eq_succ_of_ne_zero (chunkCount_pos len.toNat).ne'
  have below : last < chunkCount len.toNat := by omega
  obtain ⟨done, longer, reaches⟩ := exists_reaches op program below
    (fun j earlier => fits j (by omega)) (by omega)
  obtain ⟨done', longer', moved, _, round⟩ :=
    reaches.exists_pushed below (fun j earlier => fits j (by omega)) (by omega)
  have covered := (chunkCount_le_iff len.toNat last).mp (by omega)
  have all : len ≤ done' := by
    rw [UInt32.le_iff_toNat_le]
    omega
  rw [count]
  exact ⟨longer', reaches.endsIn (.finished round all)⟩

end Runs

section Outcome

theorem Consecutive.sum_eq {ranges : List (Nat × Nat)} {start stop : Nat}
    (consecutive : Consecutive ranges start stop) : start + (ranges.map Prod.snd).sum = stop := by
  induction ranges generalizing start with
  | nil => exact consecutive
  | cons range ranges ih =>
    rw [List.map_cons, List.sum_cons, ← Nat.add_assoc]
    exact ih consecutive.2

structure Parts (op : Opcode) (src dst len : Nat) (code : List Instruction) : Prop where
  count : code.length = chunkCount len
  opcode : ∀ inst ∈ code, inst.opcode = op ∧ inst.flags = 0
  operand : ∀ k inst, code[k]? = some inst →
    (DmaOperand.unpack inst.operand).src.toNat = src + k * longest ∧
    (DmaOperand.unpack inst.operand).dst.toNat = dst + k * longest ∧
    (DmaOperand.unpack inst.operand).len.toNat = min longest (len - k * longest)
  total : (code.map fun inst => (DmaOperand.unpack inst.operand).len.toNat).sum = len

theorem parts_transfers {op : Opcode} {src dst len : Nat} (assigned : op.isUnassigned = false)
    (fits : TransferFits src dst len) : Parts op src dst len (transfers op src dst len) where
  count := by simp [transfers]
  opcode inst member := by
    obtain ⟨k, _, rfl⟩ := mem_transfers.mp member
    exact ⟨opcode_transferOf assigned _, flags_transferOf _ _⟩
  operand k inst found := by
    simp only [transfers, List.getElem?_map, Option.map_eq_some_iff, List.getElem?_eq_some_iff,
      List.length_range, List.getElem_range] at found
    obtain ⟨_, ⟨below, rfl⟩, rfl⟩ := found
    rw [transferOf, DmaOperand.unpack_transfer (chunk_fits len (fits _ below))]
    exact chunk_toNat len (fits _ below)
  total := by
    have carried := (carries_transfers assigned fits).sources.sum_eq
    rw [moved, decoded_of_eq fun inst => opcode_mem_transfers assigned, sources, List.map_map,
      List.map_map] at carried
    exact Nat.add_left_cancel carried

structure Splitting (op : Opcode) (src dst len : UInt32) (program : Program) : Prop where
  counted : (transferCount len.toUInt64).toNat = chunkCount len.toNat
  /-- The loop would come to this end without a limit, too. -/
  ends : ∃ rounds ≤ chunkCount len.toNat,
    EndsIn op src dst len rounds 0 program (pushTransfer op src dst len program)
  accepted : (∃ longer, pushTransfer op src dst len program = .ok longer) ↔
    src.toNat + (chunkCount len.toNat - 1) * longest ≤ 262143 ∧
    dst.toNat + (chunkCount len.toNat - 1) * longest ≤ 65535 ∧
    program.size + chunkCount len.toNat ≤ program.bound
  appended : ∀ longer, pushTransfer op src dst len program = .ok longer →
    ∃ added, Appended program added longer ∧ Parts op src.toNat dst.toNat len.toNat added
  /-- A part out of range is refused where the program has room for the parts before it. -/
  outside : ∀ k, firstOutside? src.toNat dst.toNat (chunkCount len.toNat) = some k →
    k ≤ program.bound - program.size →
    ∃ source destination : UInt32, source.toNat = src.toNat + k * longest ∧
      destination.toNat = dst.toNat + k * longest ∧
      pushTransfer op src dst len program = refuse (.outOfRange source destination)
  /-- The bound is met where a part without room comes before any part out of range. -/
  full : (¬∃ longer, pushTransfer op src dst len program = .ok longer) →
    (∀ k, firstOutside? src.toNat dst.toNat (chunkCount len.toNat) = some k →
      program.bound - program.size < k) →
    pushTransfer op src dst len program = Failure.report (.sequenceOverflow program.bound)

section Cases

variable {op : Opcode} {src dst len : UInt32} {program : Program}

theorem pushTransfer_accepted : (∃ longer, pushTransfer op src dst len program = .ok longer) ↔
    TransferFits src.toNat dst.toNat len.toNat ∧
      program.size + chunkCount len.toNat ≤ program.bound := by
  have grows := pushTransfer_grows op src dst len program
  constructor
  · rintro ⟨longer, ok⟩
    obtain ⟨bound, size⟩ := grows.length_eq ok
    refine ⟨(pushTransfer_appended ok).2, ?_⟩
    rw [← size, ← bound]
    exact longer.size_le
  · rintro ⟨fits, room⟩
    exact grows.exists_ok fits room

section Full

variable (refused : ¬∃ longer, pushTransfer op src dst len program = .ok longer)
  (later : ∀ k, firstOutside? src.toNat dst.toNat (chunkCount len.toNat) = some k →
    program.bound - program.size < k)

include refused later

/-- A transfer that is neither whole nor out of range in time runs out of room. -/
theorem room_lt_chunkCount : program.bound - program.size < chunkCount len.toNat := by
  have size : program.size ≤ program.bound := program.size_le
  by_contra roomy
  refine refused (pushTransfer_accepted.mpr ⟨fun k below => ?_, by omega⟩)
  exact startsInRange_of_later later below (by omega)

theorem endsIn_full : EndsIn op src dst len (program.bound - program.size + 1) 0 program
    (Failure.report (.sequenceOverflow program.bound)) := by
  have short := room_lt_chunkCount refused later
  exact endsIn_of_short op short fun k roomy => startsInRange_of_later later (by omega) roomy

end Full

/-- The loop ends by itself, in no more rounds than are counted beforehand. -/
theorem pushTransfer_ends : ∃ rounds ≤ chunkCount len.toNat,
    EndsIn op src dst len rounds 0 program (pushTransfer op src dst len program) := by
  have size : program.size ≤ program.bound := program.size_le
  -- The result is the one that the loop has come to, whichever of its three ends that is.
  have settle {rounds : Nat} {result : Lowering Program} (few : rounds ≤ chunkCount len.toNat)
      (ends : EndsIn op src dst len rounds 0 program result) : ∃ rounds ≤ chunkCount len.toNat,
        EndsIn op src dst len rounds 0 program (pushTransfer op src dst len program) :=
    ⟨rounds, few, by rwa [ends.pushTransfer_eq few]⟩
  by_cases whole : ∃ longer, pushTransfer op src dst len program = .ok longer
  · obtain ⟨fits, room⟩ := pushTransfer_accepted.mp whole
    obtain ⟨_, ends⟩ := endsIn_whole op fits room
    exact settle (Nat.le_refl _) ends
  by_cases early : ∃ k, firstOutside? src.toNat dst.toNat (chunkCount len.toNat) = some k ∧
      k ≤ program.bound - program.size
  · obtain ⟨k, first, roomy⟩ := early
    obtain ⟨_, _, _, _, ends⟩ := endsIn_outside op program first (by omega)
    exact settle (firstOutside?_eq_some.mp first).2.1 ends
  · have later : ∀ k, firstOutside? src.toNat dst.toNat (chunkCount len.toNat) = some k →
        program.bound - program.size < k := fun k first =>
      Nat.lt_of_not_le fun roomy => early ⟨k, first, roomy⟩
    exact settle (room_lt_chunkCount whole later) (endsIn_full whole later)

end Cases

/-- Splitting always ends. It appends the whole transfer if the last part is in range and all parts
have room; otherwise the first part that fails a check decides, and addresses are checked first. -/
theorem pushTransfer_splits {op : Opcode} (moves : op ∈ [Opcode.dmaLoadW, .dmaLoadA, .dmaStore])
    (src dst len : UInt32) (program : Program) : Splitting op src dst len program where
  counted := by rw [toNat_transferCount, UInt32.toNat_toUInt64]
  ends := pushTransfer_ends
  accepted := by
    rw [pushTransfer_accepted, transferFits_iff, ← and_assoc]
    rfl
  appended longer ok := by
    have assigned : op.isUnassigned = false := by
      simp only [List.mem_cons, List.not_mem_nil, or_false] at moves
      rcases moves with rfl | rfl | rfl <;> rfl
    obtain ⟨appended, fits⟩ := pushTransfer_appended ok
    exact ⟨_, appended, parts_transfers assigned fits⟩
  outside k first roomy := by
    have size : program.size ≤ program.bound := program.size_le
    obtain ⟨source, destination, sourceNumber, destinationNumber, ends⟩ :=
      endsIn_outside op program first (by omega)
    exact ⟨source, destination, sourceNumber, destinationNumber,
      ends.pushTransfer_eq (firstOutside?_eq_some.mp first).2.1⟩
  full refused later :=
    (endsIn_full refused later).pushTransfer_eq (room_lt_chunkCount refused later)

/-- Three parts, the last out of range. A program with room for the other two reports the range and
one with less room its bound; a byte less leaves two parts, which reach both limits. -/
theorem range_before_room :
    (∃ source destination : UInt32, source.toNat = 32766 ∧ destination.toNat = 81918 ∧
      pushTransfer .dmaStore 0 0xC000 32767 (.empty 2) = refuse (.outOfRange source destination)) ∧
    pushTransfer .dmaStore 0 0xC000 32767 (.empty 1) = Failure.report (.sequenceOverflow 1) ∧
    ∃ longer, pushTransfer .dmaStore 0 0xC000 32766 (.empty 2) = .ok longer := by
  have moves : Opcode.dmaStore ∈ [Opcode.dmaLoadW, .dmaLoadA, .dmaStore] := by decide
  refine ⟨(pushTransfer_splits moves 0 0xC000 32767 (.empty 2)).outside 2 (by decide) (by decide),
    (pushTransfer_splits moves 0 0xC000 32767 (.empty 1)).full ?_ ?_,
    (pushTransfer_splits moves 0 0xC000 32766 (.empty 2)).accepted.mpr (by decide)⟩
  · rw [(pushTransfer_splits moves 0 0xC000 32767 (.empty 1)).accepted]
    decide
  · intro k first
    have last : firstOutside? (0 : UInt32).toNat (0xC000 : UInt32).toNat
        (chunkCount (32767 : UInt32).toNat) = some 2 := by decide
    rw [last] at first
    cases first
    decide

end Outcome

end NpuStack.Lowering
