import NpuStack.Host.Bringup
import NpuStack.Proofs.Host.Outcome
import NpuStack.Proofs.Word
import Mathlib.Logic.Function.Basic

/-! The self-test on defective registers. Where registers are storage that is read through stuck bits,
the test names the first register that loses its pattern, and it leaves nothing behind: what was read
before is read again, although it was saved and restored through the same stuck bits. -/

set_option autoImplicit false

namespace NpuStack

/-- Bits that a register gives in place of those it was told to keep. -/
structure StuckBits where
  /-- Bits outside read as zero. -/
  kept : UInt32
  /-- Bits that read as one. -/
  forced : UInt32

namespace StuckBits

def none : StuckBits := ⟨0xFFFFFFFF, 0⟩

def seen (stuck : StuckBits) (stored : UInt32) : UInt32 := (stored &&& stuck.kept) ||| stuck.forced

theorem seen_none (stored : UInt32) : none.seen stored = stored := by
  rw [seen, none, UInt32.or_zero]
  exact UInt32.and_neg_one

/-- Seen once more through the same bits, a word is the same. -/
theorem seen_seen (stuck : StuckBits) (stored : UInt32) :
    stuck.seen (stuck.seen stored) = stuck.seen stored := by
  rw [eq_iff_hasBit]
  intro i
  simp only [seen, hasBit_and, hasBit_or]
  cases hasBit stored i <;> cases hasBit stuck.kept i <;> cases hasBit stuck.forced i <;> rfl

end StuckBits

/-- A bus whose registers are storage, each read through stuck bits of its own. -/
structure Bus.Storage (β : Type) [Bus β] where
  stuck : Register → StuckBits
  stored : β → Register → UInt32
  read_eq : ∀ reg bus, (Bus.read reg bus).1 = (stuck reg).seen (stored bus reg)
  stored_read : ∀ reg bus, stored (Bus.read reg bus).2 = stored bus
  stored_write : ∀ reg value bus,
    stored (Bus.write reg value bus) = Function.update (stored bus) reg value

namespace Bus.Storage

variable {β : Type} [Bus β] (storage : Bus.Storage β)

def ReadsBack (entry : Register × UInt32) : Prop := (storage.stuck entry.1).seen entry.2 = entry.2

instance (entry : Register × UInt32) : Decidable (storage.ReadsBack entry) :=
  inferInstanceAs (Decidable (_ = _))

def Holds (words : Register → UInt32) (host : Host β) : Prop := storage.stored host.link.bus = words

def HoldsOutside (registers : List Register) (words : Register → UInt32) (host : Host β) : Prop :=
  ∀ reg, reg ∉ registers → storage.stored host.link.bus reg = words reg

variable {words : Register → UInt32}

theorem leads_read (reg : Register) : Leads (storage.Holds words)
    (fun value host => value = (storage.stuck reg).seen (words reg) ∧ storage.Holds words host)
    (Host.read reg) := by
  intro host held
  have value := storage.read_eq reg host.link.bus
  have same := storage.stored_read reg host.link.bus
  rw [held] at value same
  exact ⟨value, same⟩

theorem leads_write (reg : Register) (value : UInt32) : Leads (storage.Holds words)
    (fun _ => storage.Holds (Function.update words reg value)) (Host.write reg value) := by
  intro host held
  have stored := storage.stored_write reg value host.link.bus
  rw [held] at stored
  exact stored

theorem leads_readAll (list : List Register) : Leads (storage.Holds words)
    (fun saved host => saved = list.map (fun reg => (reg, (storage.stuck reg).seen (words reg))) ∧
      storage.Holds words host) (Host.readAll list) := by
  induction list with
  | nil => exact fun _ held => ⟨rfl, held⟩
  | cons reg rest ih =>
    exact (storage.leads_read reg).bind_value (ih.bind_value (.pure fun _ held => ⟨rfl, held⟩))

/-- The patterns are written up to the first that is lost, and nothing else is changed. -/
theorem leads_firstMismatch (patterns : List (Register × UInt32)) : Leads (storage.Holds words)
    (fun failed host => failed = (patterns.find? fun entry => ¬storage.ReadsBack entry).map Prod.fst ∧
      storage.HoldsOutside (patterns.map Prod.fst) words host) (Host.firstMismatch patterns) := by
  induction patterns generalizing words with
  | nil => exact fun _ held => ⟨rfl, fun reg _ => congrFun held reg⟩
  | cons entry rest ih =>
    obtain ⟨reg, pattern⟩ := entry
    have wider {host : Host β}
        (held : storage.HoldsOutside (rest.map Prod.fst) (Function.update words reg pattern) host) :
        storage.HoldsOutside (((reg, pattern) :: rest).map Prod.fst) words host := by
      intro other outside
      rw [List.map_cons, List.mem_cons, not_or] at outside
      rw [held other outside.2, Function.update_of_ne outside.1]
    refine (storage.leads_write reg pattern).bind fun _ => (storage.leads_read reg).bind_value ?_
    rw [Function.update_self]
    split
    case isTrue lost =>
      rw [List.find?_cons_of_pos (by exact decide_eq_true lost)]
      exact .pure fun host held => ⟨rfl, wider fun other _ => congrFun held other⟩
    case isFalse back =>
      rw [List.find?_cons_of_neg (by exact decide_eq_true_iff.not.mpr back)]
      exact fun host held => (ih host held).imp fun _ _ found => ⟨found.1, wider found.2⟩

/-- Registers are put back one by one. -/
theorem leads_writeAll (list : List Register) : Leads (storage.HoldsOutside list words)
    (fun _ => storage.Holds words) (Host.writeAll (list.map fun reg => (reg, words reg))) := by
  induction list with
  | nil => exact fun _ held => funext fun reg => held reg List.not_mem_nil
  | cons reg rest ih =>
    have step : Leads (storage.HoldsOutside (reg :: rest) words)
        (fun _ => storage.HoldsOutside rest words) (Host.write reg (words reg)) := by
      intro host held other outside
      show storage.stored (Bus.write reg (words reg) host.link.bus) other = words other
      rw [storage.stored_write]
      by_cases same : other = reg
      · rw [same, Function.update_self]
      · rw [Function.update_of_ne same]
        exact held other (by simp [same, outside])
    exact step.bind fun _ => ih

theorem leads_delay (microseconds : UInt64) : Leads (storage.Holds words)
    (fun _ => storage.Holds words) (Host.delay microseconds) :=
  fun _ held => held

/-- A healthy register is read, changed and written. -/
theorem leads_update {reg : Register} (healthy : storage.stuck reg = .none) (change : UInt32 → UInt32) :
    Leads (storage.Holds words)
      (fun _ => storage.Holds (Function.update words reg (change (words reg)))) (do
        let value ← Host.read reg
        Host.write reg (change value)) := by
  have read : Leads (storage.Holds words) _ (Host.read reg) := storage.leads_read reg
  rw [healthy, StuckBits.seen_none] at read
  exact read.bind_value (storage.leads_write reg _)

theorem leads_clearAccumulators (healthy : storage.stuck .peCtrl = .none) :
    Leads (storage.Holds words) (fun _ => storage.Holds
      (Function.update words .peCtrl (words .peCtrl &&& ~~~PeCtrl.clearAcc))) Host.clearAccumulators := by
  have pulse : (words .peCtrl ||| PeCtrl.clearAcc) &&& ~~~PeCtrl.clearAcc =
      words .peCtrl &&& ~~~PeCtrl.clearAcc := by
    rw [or_and_distrib, UInt32.and_not_self, UInt32.or_zero]
  have set : Leads (storage.Holds words) _ (Host.setBits .peCtrl PeCtrl.clearAcc) :=
    fun host held => storage.leads_update healthy (· ||| PeCtrl.clearAcc) host held
  have clear : Leads (storage.Holds (Function.update words .peCtrl (words .peCtrl ||| PeCtrl.clearAcc))) _
      (Host.clearBits .peCtrl PeCtrl.clearAcc) :=
    fun host held => storage.leads_update healthy (· &&& ~~~PeCtrl.clearAcc) host held
  rw [Function.update_self, pulse, Function.update_idem] at clear
  exact set.bind fun _ => (storage.leads_delay 1).bind fun _ => clear

/-- The words of a tested device: as they were seen before, and with the accumulators released. -/
def tested (words : Register → UInt32) : Register → UInt32 :=
  Function.update (fun reg => (storage.stuck reg).seen (words reg)) .peCtrl
    (words .peCtrl &&& ~~~PeCtrl.clearAcc)

/-- A self-test up to its report. -/
def findings : HostM β (Option Register) := do
  let saved ← Host.readAll (Host.testPatterns.map Prod.fst)
  let failed ← Host.firstMismatch Host.testPatterns
  Host.writeAll saved
  Host.clearAccumulators
  return failed

theorem selfTest_eq : (Host.selfTest : HostM β Unit) = findings >>= fun failed =>
    if let some reg := failed then Host.raise (.hwFault (.ofNat reg.offset)) else pure () := by
  simp only [findings, bind_assoc, pure_bind]
  rfl

theorem leads_findings
    (healthy : ∀ reg, reg ∉ Host.testPatterns.map Prod.fst → storage.stuck reg = .none) :
    Leads (storage.Holds words)
      (fun failed host =>
        failed = (Host.testPatterns.find? fun entry => ¬storage.ReadsBack entry).map Prod.fst ∧
        storage.Holds (storage.tested words) host) findings := by
  have array := healthy .peCtrl (by decide)
  have restored : Leads (storage.HoldsOutside (Host.testPatterns.map Prod.fst) words)
      (fun _ => storage.Holds fun reg => (storage.stuck reg).seen (words reg))
      (Host.writeAll ((Host.testPatterns.map Prod.fst).map fun reg =>
        (reg, (storage.stuck reg).seen (words reg)))) := fun host held =>
    storage.leads_writeAll (Host.testPatterns.map Prod.fst) host fun reg outside => by
      rw [held reg outside, healthy reg outside, StuckBits.seen_none]
  have released : Leads (storage.Holds fun reg => (storage.stuck reg).seen (words reg))
      (fun _ => storage.Holds (storage.tested words)) Host.clearAccumulators := by
    have pulse : Leads (storage.Holds fun reg => (storage.stuck reg).seen (words reg)) _ _ :=
      storage.leads_clearAccumulators array
    rwa [array, StuckBits.seen_none] at pulse
  refine (storage.leads_readAll _).bind_value ((storage.leads_firstMismatch _).bind_value ?_)
  exact restored.bind fun _ => released.bind fun _ => .pure fun _ held => ⟨rfl, held⟩

/-- A tested device is read as before, with the accumulators released. -/
theorem read_tested (array : storage.stuck .peCtrl = .none) {before after : β}
    (held : storage.stored after = storage.tested (storage.stored before)) :
    (∀ reg, reg ≠ .peCtrl → (Bus.read reg after).1 = (Bus.read reg before).1) ∧
    (Bus.read .peCtrl after).1 = (Bus.read .peCtrl before).1 &&& ~~~PeCtrl.clearAcc := by
  constructor
  · intro reg other
    rw [storage.read_eq, storage.read_eq, held, tested, Function.update_of_ne other, StuckBits.seen_seen]
  · rw [storage.read_eq, storage.read_eq, held, tested, Function.update_self, array, StuckBits.seen_none,
      StuckBits.seen_none]

/-- A self-test succeeds exactly if every register reads back its pattern, and otherwise names the
first that does not. Either way every register is read as before, but for the accumulators, which are
released. -/
theorem selfTest_finds_first
    (healthy : ∀ reg, reg ∉ [.instBase, .dmaSrc, .dmaDst, .dmaLen, .irqEn] → storage.stuck reg = .none)
    (host : Host β) :
    ∃ result after, Host.selfTest host = (result, after) ∧
      (result = .ok () ↔ ∀ entry ∈ Host.testPatterns, storage.ReadsBack entry) ∧
      (∀ earlier entry later, Host.testPatterns = earlier ++ entry :: later →
        (∀ other ∈ earlier, storage.ReadsBack other) → ¬storage.ReadsBack entry →
        result = .error (.error (.hwFault (.ofNat entry.1.offset)))) ∧
      (∀ reg, reg ≠ .peCtrl → (Bus.read reg after.link.bus).1 = (Bus.read reg host.link.bus).1) ∧
      (Bus.read .peCtrl after.link.bus).1 =
        (Bus.read .peCtrl host.link.bus).1 &&& ~~~PeCtrl.clearAcc := by
  have found := storage.leads_findings healthy host rfl
  unfold yields at found
  split at found
  case h_2 => exact found.elim
  case h_1 failed after run =>
    obtain ⟨rfl, held⟩ := found
    have reads := storage.read_tested (healthy .peCtrl (by decide)) held
    rw [selfTest_eq, act_bind, run]
    cases first : Host.testPatterns.find? fun entry => ¬storage.ReadsBack entry with
    | none =>
      have back : ∀ entry ∈ Host.testPatterns, storage.ReadsBack entry := by
        simpa using List.find?_eq_none.mp first
      refine ⟨_, _, rfl, iff_of_true rfl back, ?_, reads⟩
      intro earlier entry later listed _ lost
      exact absurd (back entry (by simp [listed])) lost
    | some entry =>
      have lost : ¬storage.ReadsBack entry := by simpa using List.find?_some first
      refine ⟨_, _, rfl, iff_of_false nofun fun back => ?_, ?_, reads⟩
      · exact lost (back entry (List.mem_of_find?_eq_some first))
      · intro earlier other later listed before lost
        have same : Host.testPatterns.find? (fun entry => ¬storage.ReadsBack entry) = some other :=
          List.find?_eq_some_iff_append.mpr ⟨by simpa using lost, earlier, later, listed, by simpa using before⟩
        cases first.symm.trans same
        rfl

end Bus.Storage

structure Cells (stuck : Register → StuckBits) where
  words : Register → UInt32

namespace Cells

instance (stuck : Register → StuckBits) : Bus (Cells stuck) where
  read reg cells := ((stuck reg).seen (cells.words reg), cells)
  write reg value cells := ⟨Function.update cells.words reg value⟩
  store addr data _ := .error (.unmapped addr data.size)
  load addr slice _ := (.error (.unmapped addr slice.size), slice)
  stagingBase _ := 0
  stagingBytes _ := 0
  patience _ := 0

def storage (stuck : Register → StuckBits) : Bus.Storage (Cells stuck) where
  stuck := stuck
  stored := words
  read_eq _ _ := rfl
  stored_read _ _ := rfl
  stored_write _ _ _ := rfl

/-- Two registers lose their pattern, and a third one shows more than it holds. -/
def defects : Register → StuckBits
  | .instBase => ⟨0xFFFFFFFF, 0x1⟩
  | .dmaDst => ⟨0xFFFFDFFF, 0⟩
  | .irqEn => ⟨0xFFFFFFFF, 0x8⟩
  | _ => .none

theorem defects_found : (∀ reg, reg ∉ [.instBase, .dmaSrc, .dmaDst, .dmaLen, .irqEn] → defects reg = .none) ∧
    ∃ after, Host.selfTest (Host.ofBus (⟨fun _ => 0x3232⟩ : Cells defects)) =
        (.error (.error (.hwFault 0x40C)), after) ∧
      (Bus.read .instBase after.link.bus).1 = 0x3233 ∧ (Bus.read .dmaDst after.link.bus).1 = 0x1232 ∧
      (Bus.read .irqEn after.link.bus).1 = 0x323A ∧ (Bus.read .peCtrl after.link.bus).1 = 0x3230 := by
  have healthy : ∀ reg, reg ∉ [.instBase, .dmaSrc, .dmaDst, .dmaLen, .irqEn] → defects reg = .none := by
    intro reg outside
    unfold defects
    split <;> simp_all
  obtain ⟨result, after, run, _, first, reads, array⟩ :=
    (storage defects).selfTest_finds_first healthy (Host.ofBus ⟨fun _ => 0x3232⟩)
  have named := first [(.instBase, 0xA5A5A5A5), (.dmaSrc, 0x1000)] (.dmaDst, 0x2000)
    [(.dmaLen, 256), (.irqEn, Irq.done)] rfl (by decide) (by decide)
  rw [named] at run
  refine ⟨healthy, after, run, ?_, ?_, ?_, array⟩
  · exact reads .instBase (by decide)
  · exact reads .dmaDst (by decide)
  · exact reads .irqEn (by decide)

end Cells

end NpuStack
