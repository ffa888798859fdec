import NpuStack.Proofs.Conservation
import NpuStack.Proofs.Launch

/-! Boot erases history. Whatever a core has been through, it comes out of a boot
with the same registers as any other core of its geometry. Only the description
of the last layer is left as it was. -/

set_option autoImplicit false

namespace NpuStack

/-- Words that have been put into registers, newest first. -/
abbrev Journal := List (Register × UInt32)

namespace Simulator

variable {sim : Simulator} {journal : Journal} {reg : Register} {word value : UInt32}

def Recorded (journal : Journal) (sim : Simulator) : Prop :=
  ∀ reg word, journal.lookup reg = some word → sim.peek reg = word

theorem recorded_of_forall (held : ∀ entry ∈ journal, sim.peek entry.1 = entry.2) :
    Recorded journal sim := by
  intro reg word found
  obtain ⟨earlier, later, rfl, _⟩ := List.lookup_eq_some_iff.mp found
  exact held (reg, word) (by simp)

structure Known (journal : Journal) (sim : Simulator) : Prop where
  settled : sim.pending = 0
  words : Recorded journal sim

namespace Known

theorem logged (known : Known journal sim) (log : Array (Register × UInt32)) :
    Known journal { sim with log } :=
  ⟨known.settled, known.words⟩

theorem poke (known : Known journal sim) (reg : Register) (word : UInt32) :
    Known ((reg, word) :: journal) (sim.poke reg word) := by
  refine ⟨known.settled, fun other found latest => ?_⟩
  by_cases same : other = reg
  · subst same
    rw [List.lookup_cons_self] at latest
    cases latest
    exact peek_poke_same _ _ _
  · rw [List.lookup_cons, beq_false_of_ne same] at latest
    rw [peek_poke_of_ne _ _ (Ne.symm same)]
    exact known.words other found latest

/-- With nothing pending, a look changes nothing that is known and shows what is there. -/
theorem read (known : Known journal sim) (reg : Register) :
    (sim.read reg).1 = sim.peek reg ∧ Known journal (sim.read reg).2 := by
  have settled : ¬0 < sim.pending := by
    rw [known.settled]
    decide
  unfold Simulator.read
  split
  · dsimp only
    rw [if_neg settled]
    exact ⟨rfl, known.settled, known.words⟩
  · rw [if_neg settled]
    exact ⟨rfl, known⟩
  · exact ⟨rfl, known⟩

theorem write_plain (known : Known journal sim) (plain : isPlain reg = true) (other : reg ≠ .irqStatus)
    (value : UInt32) : Known ((reg, value) :: journal) (sim.write reg value) := by
  cases reg with
  | version | config | status | dmaStatus | ctrl | dmaCtrl | perfCtrl => cases plain
  | irqStatus => exact absurd rfl other
  | _ => exact (known.logged _).poke _ value

theorem write_clearAll (known : Known journal sim) :
    Known ((.irqStatus, 0) :: journal) (sim.write .irqStatus Irq.clearAll) := by
  have none : sim.peek .irqStatus &&& ~~~Irq.clearAll = 0 := UInt32.and_zero
  have cleared := (known.logged (sim.log.push (.irqStatus, Irq.clearAll))).poke .irqStatus 0
  rw [← none] at cleared
  rwa [← none]

/-- A control word that resets nothing and starts nothing is only stored. -/
theorem write_ctrl (known : Known journal sim) (calm : value &&& pulses = 0) :
    Known ((.ctrl, value) :: journal) (sim.write .ctrl value) := by
  have others : value &&& (Ctrl.reset ||| Ctrl.abort) = 0 := by
    rw [and_eq_zero_iff] at calm ⊢
    exact fun i raised => calm i ((by decide : ∀ i, hasBit (Ctrl.reset ||| Ctrl.abort) i = true →
      hasBit pulses i = true) i raised)
  have start : value &&& Ctrl.start = 0 := by
    rw [and_eq_zero_iff] at calm ⊢
    exact fun i raised => calm i ((by decide : ∀ i, hasBit Ctrl.start i = true →
      hasBit pulses i = true) i raised)
  have stored := (known.logged (sim.log.push (.ctrl, value))).poke .ctrl value
  show Known _ (onCtrl _ value)
  rwa [onCtrl, if_neg (by simp [others]), if_neg (by simp [start])]

/-- A reset settles whatever was pending. -/
theorem write_reset (words : Recorded journal sim) (resets : value &&& Ctrl.reset ≠ 0) :
    Known ((.status, idleStatus) :: (.errorCode, 0) :: (.ctrl, value) :: journal)
      (sim.write .ctrl value) := by
  have raised : value &&& (Ctrl.reset ||| Ctrl.abort) ≠ 0 := by
    intro none
    rw [and_eq_zero_iff] at none
    exact resets (and_eq_zero_iff.mpr fun i inside => none i (by simp [inside]))
  have settled : Known journal { sim with log := sim.log.push (.ctrl, value), pending := 0 } :=
    ⟨rfl, words⟩
  have stored := ((settled.poke .ctrl value).poke .errorCode 0).poke .status idleStatus
  show Known _ (onCtrl _ value)
  rwa [onCtrl, if_pos (by simpa using raised)]

theorem write_dmaAbort (known : Known journal sim) :
    Known ((.dmaStatus, 0) :: (.dmaCtrl, DmaCtrl.abort) :: journal)
      (sim.write .dmaCtrl DmaCtrl.abort) :=
  ((known.logged _).poke .dmaCtrl DmaCtrl.abort).poke .dmaStatus 0

theorem write_dmaCtrl (known : Known journal sim) :
    Known ((.dmaCtrl, 0) :: journal) (sim.write .dmaCtrl 0) :=
  (known.logged _).poke .dmaCtrl 0

theorem pokeAll (known : Known journal sim) (registers : List Register) :
    Known ((registers.map (·, 0)).reverse ++ journal)
      (registers.foldl (fun sim reg => sim.poke reg 0) sim) := by
  induction registers generalizing sim journal with
  | nil => exact known
  | cons reg registers ih =>
    rw [List.map_cons, List.reverse_cons, List.append_assoc]
    exact ih (known.poke reg 0)

theorem write_perfReset (known : Known journal sim) :
    Known ((counterRegisters.map (·, 0)).reverse ++ (.perfCtrl, PerfCtrl.reset) :: journal)
      (sim.write .perfCtrl PerfCtrl.reset) := by
  have stored := (known.logged (sim.log.push (.perfCtrl, PerfCtrl.reset))).poke .perfCtrl PerfCtrl.reset
  show Known _ (onPerfCtrl _ _)
  rw [onPerfCtrl, if_pos (by decide)]
  exact stored.pokeAll counterRegisters

theorem write_perfEnable (known : Known journal sim) :
    Known ((.perfCtrl, PerfCtrl.enable) :: journal) (sim.write .perfCtrl PerfCtrl.enable) :=
  (known.logged _).poke .perfCtrl PerfCtrl.enable

end Known

end Simulator

namespace Host

open Simulator (Known)

variable {journal : Journal} {reg : Register} {word mask : UInt32}

def Noted (journal : Journal) (host : Host Simulator) : Prop := host.link.bus.Known journal

theorem leads_read (held : journal.lookup reg = some word) :
    Leads (Noted journal) (fun value host => value = word ∧ Noted journal host) (read reg) := by
  intro host known
  have look := Known.read known reg
  exact ⟨look.1.trans (known.words reg word held), look.2⟩

theorem leads_delay (microseconds : UInt64) :
    Leads (Noted journal) (fun _ => Noted journal) (delay microseconds) :=
  fun _ known => known

theorem leads_effect {later : Journal} {value : UInt32}
    (effect : ∀ {sim : Simulator}, sim.Known journal → (sim.write reg value).Known later) :
    Leads (Noted journal) (fun _ => Noted later) (write reg value) :=
  fun _ known => effect known

theorem leads_write (plain : Simulator.isPlain reg = true ∧ reg ≠ .irqStatus) (value : UInt32) :
    Leads (Noted journal) (fun _ => Noted ((reg, value) :: journal)) (write reg value) :=
  leads_effect fun known => known.write_plain plain.1 plain.2 value

/-- A register that is known is changed in a known way. -/
theorem leads_update (held : journal.lookup reg = some word) (change : UInt32 → UInt32)
    (stores : Leads (Noted journal) (fun _ => Noted ((reg, change word) :: journal))
      (write reg (change word))) :
    Leads (Noted journal) (fun _ => Noted ((reg, change word) :: journal)) (do
      let value ← read reg
      write reg (change value)) :=
  (leads_read held).bind_value stores

theorem leads_setBits (held : journal.lookup reg = some word)
    (stores : Leads (Noted journal) (fun _ => Noted ((reg, word ||| mask) :: journal))
      (write reg (word ||| mask))) :
    Leads (Noted journal) (fun _ => Noted ((reg, word ||| mask) :: journal)) (setBits reg mask) :=
  fun host known => leads_update held (· ||| mask) stores host known

theorem leads_clearBits (held : journal.lookup reg = some word)
    (stores : Leads (Noted journal) (fun _ => Noted ((reg, word &&& ~~~mask) :: journal))
      (write reg (word &&& ~~~mask))) :
    Leads (Noted journal) (fun _ => Noted ((reg, word &&& ~~~mask) :: journal)) (clearBits reg mask) :=
  fun host known => leads_update held (· &&& ~~~mask) stores host known

/-- An idle core is not waited for. -/
theorem leads_waitIdle (idle : journal.lookup .status = some Simulator.idleStatus) (timeout : UInt64) :
    Leads (Noted journal) (fun _ => Noted journal) (waitIdle timeout) := by
  intro host known
  have look := Known.read known .status
  have shown : (host.link.bus.read .status).1 = Simulator.idleStatus :=
    look.1.trans (known.words _ _ idle)
  have answered : idleProbe host.link.bus = (some (.ok ()), (host.link.bus.read .status).2) := by
    show (if (host.link.bus.read .status).1 &&& Status.idle != 0 then _ else _) = _
    rw [shown]
    rfl
  have run : Link.poll host.config.interval timeout idleProbe host.link =
      (.ok (), ⟨(host.link.bus.read .status).2, host.link.clock⟩) := by
    unfold Link.poll
    dsimp only
    rw [Probe.poll_answered answered]
    rfl
  unfold waitIdle
  rw [yields_bind]
  refine yields_of_eq rfl ?_
  rw [yields_onLink]
  exact yields_of_eq run look.2

theorem leads_writeAll (entries : Journal)
    (plain : ∀ entry ∈ entries, Simulator.isPlain entry.1 = true ∧ entry.1 ≠ .irqStatus) :
    Leads (Noted journal) (fun _ => Noted (entries.reverse ++ journal)) (writeAll entries) := by
  induction entries generalizing journal with
  | nil => exact fun _ known => known
  | cons entry entries ih =>
    rw [List.forall_mem_cons] at plain
    rw [List.reverse_cons, List.append_assoc]
    exact (leads_write plain.1 entry.2).bind fun _ => ih plain.2

theorem leads_readAll (saved : Journal)
    (held : (saved.map fun entry => journal.lookup entry.1) = saved.map fun entry => some entry.2) :
    Leads (Noted journal) (fun read host => read = saved ∧ Noted journal host)
      (readAll (saved.map Prod.fst)) := by
  induction saved with
  | nil => exact fun _ known => ⟨rfl, known⟩
  | cons entry saved ih =>
    rw [List.map_cons, List.map_cons, List.cons.injEq] at held
    exact (leads_read held.1).bind_value ((ih held.2).bind_value (.pure fun _ known => ⟨rfl, known⟩))

/-- Every pattern is read back. -/
theorem leads_firstMismatch (patterns : Journal)
    (plain : ∀ entry ∈ patterns, Simulator.isPlain entry.1 = true ∧ entry.1 ≠ .irqStatus) :
    Leads (Noted journal) (fun failed host => failed = none ∧ Noted (patterns.reverse ++ journal) host)
      (firstMismatch patterns) := by
  induction patterns generalizing journal with
  | nil => exact fun _ known => ⟨rfl, known⟩
  | cons entry patterns ih =>
    rw [List.forall_mem_cons] at plain
    rw [List.reverse_cons, List.append_assoc]
    refine (leads_write plain.1 entry.2).bind fun _ =>
      (leads_read List.lookup_cons_self).bind_value ?_
    rw [if_neg (not_not_intro rfl)]
    exact ih plain.2

/-- The accumulators are reset while nothing else of the array is controlled. -/
theorem leads_clearAccumulators (off : journal.lookup .peCtrl = some 0) :
    Leads (Noted journal) (fun _ => Noted ((.peCtrl, 0) :: (.peCtrl, PeCtrl.clearAcc) :: journal))
      clearAccumulators := by
  have plain : Simulator.isPlain .peCtrl = true ∧ Register.peCtrl ≠ .irqStatus := by decide
  exact (leads_setBits off (leads_write plain _)).bind fun _ => (leads_delay 1).bind fun _ =>
    leads_clearBits List.lookup_cons_self (leads_write plain _)

theorem leads_selfTest (saved : Journal) (listed : testPatterns.map Prod.fst = saved.map Prod.fst)
    (held : (saved.map fun entry => journal.lookup entry.1) = saved.map fun entry => some entry.2)
    (plain : ∀ entry ∈ saved, Simulator.isPlain entry.1 = true ∧ entry.1 ≠ .irqStatus)
    (off : (saved.reverse ++ (testPatterns.reverse ++ journal)).lookup .peCtrl = some 0) :
    Leads (Noted journal) (fun _ => Noted ((.peCtrl, 0) :: (.peCtrl, PeCtrl.clearAcc) ::
      (saved.reverse ++ (testPatterns.reverse ++ journal)))) selfTest := by
  unfold selfTest
  rw [listed]
  refine (leads_readAll saved held).bind_value ?_
  refine (leads_firstMismatch testPatterns (by decide)).bind_value ?_
  exact (leads_writeAll saved plain).bind fun _ =>
    (leads_clearAccumulators off).bind fun _ => .pure fun _ known => known

theorem leads_verifyHardware {version config : UInt32} (answers : version ≠ 0 ∧ version ≠ 0xFFFFFFFF)
    (trusted : (Profile.ofConfig config).isPlausible = true)
    (known : journal.lookup .version = some version ∧ journal.lookup .config = some config) :
    Leads (Noted journal)
      (fun info host => info = ⟨version, .ofConfig config⟩ ∧ Noted journal host) verifyHardware := by
  have identity : Leads (Noted journal)
      (fun info host => info = ⟨version, .ofConfig config⟩ ∧ Noted journal host) hardwareInfo :=
    (leads_read known.1).bind_value ((leads_read known.2).bind_value (.pure fun _ noted => ⟨rfl, noted⟩))
  refine identity.bind_value ?_
  rw [if_neg (by simp [answers])]
  dsimp only
  rw [if_neg (by simp [trusted])]
  exact .pure fun _ noted => ⟨rfl, noted⟩

end Host

namespace Simulator

/-- Registers that no operation changes and that are zero from the start. -/
def unusedRegisters : List Register :=
  [.debugCtrl, .instCtrl, .weightCtrl, .actCtrl, .peStatus, .peConfig]

def identity (profile : Profile) : Journal :=
  (.version, version) :: (.config, profile.config) :: unusedRegisters.map (·, 0)

/-- What every register holds after a boot, the description of a layer apart. -/
def bootWord (profile : Profile) : Register → UInt32
  | .ctrl => Ctrl.enable
  | .status => idleStatus
  | .version => version
  | .config => profile.config
  | .perfCtrl => PerfCtrl.enable
  | _ => 0

structure Booted (profile : Profile) (sim : Simulator) : Prop where
  registers : ∀ reg ∉ Host.layerRegisters, sim.peek reg = bootWord profile reg
  settled : sim.pending = 0

end Simulator

namespace Host

open Simulator (Known)

theorem leads_boot {profile : Profile} {word : UInt32} (control : word = 0 ∨ word = Ctrl.enable)
    (trusted : (Profile.ofConfig profile.config).isPlausible = true) :
    Leads (fun host : Host Simulator => host.link.bus.Recorded ((.ctrl, word) :: Simulator.identity profile))
      (fun info (host : Host Simulator) => info = ⟨Simulator.version, .ofConfig profile.config⟩ ∧
        host.link.bus.Booted profile) boot := by
  have resets : (word ||| Ctrl.reset) &&& Ctrl.reset ≠ 0 := by rcases control with rfl | rfl <;> decide
  have calm : (word ||| Ctrl.reset) &&& ~~~Ctrl.reset &&& Simulator.pulses = 0 := by
    rcases control with rfl | rfl <;> decide
  have enabled : (word ||| Ctrl.reset) &&& ~~~Ctrl.reset ||| Ctrl.enable = Ctrl.enable := by
    rcases control with rfl | rfl <;> decide
  have pulse : Leads (fun host : Host Simulator =>
      host.link.bus.Recorded ((.ctrl, word) :: Simulator.identity profile))
      (fun _ => Noted ((.status, Simulator.idleStatus) :: (.errorCode, 0) ::
        (.ctrl, word ||| Ctrl.reset) :: (.ctrl, word) :: Simulator.identity profile))
      (setBits .ctrl Ctrl.reset) := by
    intro host shows
    have found : host.link.bus.peek .ctrl = word := shows _ _ List.lookup_cons_self
    rw [← found] at shows resets ⊢
    exact Known.write_reset shows resets
  unfold boot
  -- The reset, after which an idle core is identified.
  refine pulse.bind fun _ => (leads_delay _).bind fun _ =>
    (leads_clearBits rfl (leads_effect fun known => known.write_ctrl calm)).bind fun _ =>
    (leads_delay _).bind fun _ => (leads_waitIdle rfl _).bind fun _ =>
    (leads_verifyHardware (by decide) trusted ⟨rfl, rfl⟩).bind_value ?_
  -- Interrupts, transfers, the array and the buffers are cleared one after the other.
  refine (leads_write (by decide) _).bind fun _ => (leads_effect Known.write_clearAll).bind fun _ =>
    (leads_effect Known.write_dmaAbort).bind fun _ => (leads_delay _).bind fun _ =>
    (leads_effect Known.write_dmaCtrl).bind fun _ =>
    (leads_writeAll _ (by decide)).bind fun _ => (leads_write (by decide) _).bind fun _ =>
    (leads_clearAccumulators rfl).bind fun _ => (leads_writeAll _ (by decide)).bind fun _ => ?_
  refine (leads_effect Known.write_perfReset).bind fun _ => (leads_delay _).bind fun _ =>
    (leads_effect Known.write_perfEnable).bind fun _ =>
    (leads_setBits rfl (leads_effect fun known => known.write_ctrl (by rw [enabled]; decide))).bind fun _ => ?_
  rw [enabled]
  -- By now the registers under test are zero, and zero is what the test restores.
  refine (leads_selfTest (testPatterns.map fun entry => (entry.1, 0)) rfl rfl (by decide) rfl).bind
    fun _ => .pure fun host known => ⟨rfl, fun reg outside => known.words reg _ ?_, known.settled⟩
  cases reg <;> first | rfl | exact absurd (by decide) outside

end Host

section Control

variable {mask other word : UInt32}

def Within (mask word : UInt32) : Prop := ∀ i, hasBit word i = true → hasBit mask i = true

namespace Within

theorem and (within : Within mask word) (other : UInt32) : Within mask (word &&& other) := by
  intro i set
  rw [hasBit_and, Bool.and_eq_true] at set
  exact within i set.1

theorem lift (within : Within mask word) (other : UInt32) : Within (mask ||| other) (word ||| other) := by
  intro i set
  rw [hasBit_or, Bool.or_eq_true] at set ⊢
  exact set.imp (within i) id

theorem lower (within : Within (mask ||| other) word) : Within mask (word &&& ~~~other) := by
  intro i set
  rw [hasBit_and, hasBit_not, Bool.and_eq_true, Bool.not_eq_true'] at set
  simpa [set.2] using within i set.1

theorem enable (within : Within Ctrl.enable word) : Within Ctrl.enable (word ||| Ctrl.enable) := by
  intro i set
  rw [hasBit_or, Bool.or_eq_true] at set
  exact set.elim (within i) id

/-- A control word with no other bit than the one that enables the core. -/
theorem cases (within : Within Ctrl.enable word) : word = 0 ∨ word = Ctrl.enable := by
  have only : ∀ i, hasBit Ctrl.enable i = true → i = 0 := by decide
  cases first : hasBit word 0 with
  | false =>
    refine .inl (eq_iff_hasBit.mpr fun i => ?_)
    rw [hasBit_zero, Bool.eq_false_iff]
    intro set
    rw [only i (within i set), first] at set
    cases set
  | true =>
    refine .inr (eq_iff_hasBit.mpr fun i => Bool.eq_iff_iff.mpr ⟨within i, fun set => ?_⟩)
    rw [only i set]
    exact first

end Within

namespace Simulator

theorem within_storedCtrl (within : Within mask word) : Within mask (storedCtrl word) := by
  unfold storedCtrl
  split
  · exact within
  · split
    · exact within.and _
    · exact within

/-- The start is the one pulse that the core takes back by itself. -/
theorem within_storedCtrl_start (within : Within Ctrl.enable word) :
    Within Ctrl.enable (storedCtrl (word ||| Ctrl.start)) := by
  rcases within.cases with rfl | rfl
  · exact (by decide : ∀ i, hasBit (storedCtrl (0 ||| Ctrl.start)) i = true → hasBit Ctrl.enable i = true)
  · exact (by decide : ∀ i, hasBit (storedCtrl (Ctrl.enable ||| Ctrl.start)) i = true →
      hasBit Ctrl.enable i = true)

theorem stable_control (good : UInt32 → Prop) :
    Link.Stable (fun reg => True ∧ reg ≠ .ctrl) fun link : Link Simulator => good (link.bus.peek .ctrl) :=
  stable_word .ctrl good fun sim reg value inside held => by
    rwa [(frame_write sim value inside.2).registers .ctrl (touchedBy_apart inside.2).2]

theorem guarded_control :
    Link.Guarded (fun _ => True) (fun link : Link Simulator => Within Ctrl.enable (link.bus.peek .ctrl))
      fun mask link => Within (Ctrl.enable ||| mask) (link.bus.peek .ctrl) := by
  -- What is stored decides, whatever the core does next.
  have stored {mask value : UInt32} (sim : Simulator) (within : Within mask (storedCtrl value)) :
      Within mask ((sim.write .ctrl value).peek .ctrl) := by
    rwa [peek_ctrl_write]
  exact {
    stable := stable_control _
    pulsing := fun _ => stable_control _
    start := fun _ link held => stored link.bus (within_storedCtrl_start held)
    enable := fun _ link held => stored link.bus (within_storedCtrl held.enable)
    disable := fun _ link held => stored link.bus (within_storedCtrl (held.and _))
    lift := fun _ link mask held => stored link.bus (within_storedCtrl (held.lift mask))
    lower := fun _ link _ held => stored link.bus (within_storedCtrl held.lower)
    release := fun _ link _ _ => stored link.bus (within_storedCtrl fun _ set => set) }

end Simulator

end Control

section History

variable {profile : Profile} {host : Host Simulator}

/-- No operation changes what a core shows at all times. -/
theorem Operation.identity_apart (op : Operation) :
    ∀ reg ∈ .version :: .config :: Simulator.unusedRegisters, ∀ written ∈ op.registers,
      reg ∉ Simulator.changedBy written := by
  cases op <;> (dsimp only [registers]; decide)

theorem Simulator.peek_identity {sim : Simulator} (built : Simulator.ofProfile profile = .ok sim) :
    ∀ entry ∈ Simulator.identity profile, sim.peek entry.1 = entry.2 := by
  have own : sim.peek .version = Simulator.version := by
    obtain ⟨memory, _, same⟩ := bind_eq_ok.mp built
    cases same
    simp [Simulator.peek]
  refine List.forall_mem_cons.mpr ⟨own, List.forall_mem_cons.mpr ⟨(inOrder_ofProfile built).config, ?_⟩⟩
  rw [List.forall_mem_map]
  intro reg unused
  refine peek_ofProfile built ?_
  revert reg
  decide

/-- A core keeps its identity through every history. -/
theorem Reachable.peek_identity (reached : Reachable (fun sim => Simulator.ofProfile profile = .ok sim)
      (Simulator.Frame [.irqStatus]) host) :
    ∀ entry ∈ Simulator.identity profile, host.link.bus.peek entry.1 = entry.2 := by
  intro entry listed
  have member : entry.1 ∈ (Simulator.identity profile).map Prod.fst := List.mem_map_of_mem listed
  have other : entry.1 ∉ [Register.irqStatus] := by
    intro same
    rw [List.mem_singleton.mp same] at member
    exact absurd member (by decide : Register.irqStatus ∉ .version :: .config :: Simulator.unusedRegisters)
  induction reached with
  | start built => exact Simulator.peek_identity built entry listed
  | @step op _ _ _ _ step ih =>
    have guarded := (Simulator.stable_peek entry.1 entry.2).guarded.mono (op.identity_apart entry.1 member)
    exact step.preserves (Host.guarded_of_link guarded _) ih
  | alter _ change ih => exact (change.registers entry.1 other).trans ih

theorem Reachable.control
    (reached : Reachable (fun sim => Simulator.ofProfile profile = .ok sim)
      (Simulator.Frame [.irqStatus]) host) :
    Within Ctrl.enable (host.link.bus.peek .ctrl) := by
  refine reached.kept Simulator.guarded_control (fun _ _ built => ?_) fun _ _ change held => ?_
  · rw [Simulator.peek_ofProfile built (by decide)]
    exact fun i set => absurd set (by simp)
  · rwa [change.registers .ctrl (by decide)]

theorem Profile.isPlausible_ofConfig (profile : Profile) :
    (ofConfig profile.config).isPlausible = profile.isPlausible := by
  unfold isPlausible
  rw [profile.ofConfig_config.1, profile.ofConfig_config.2]

theorem Reachable.yields_boot (trusted : profile.isPlausible = true)
    (reached : Reachable (fun sim => Simulator.ofProfile profile = .ok sim)
      (Simulator.Frame [.irqStatus]) host) :
    yields Host.boot (fun info after => info = ⟨Simulator.version, .ofConfig profile.config⟩ ∧
      after.link.bus.Booted profile) host := by
  rw [← profile.isPlausible_ofConfig] at trusted
  refine Host.leads_boot reached.control.cases trusted host (Simulator.recorded_of_forall ?_)
  exact List.forall_mem_cons.mpr ⟨rfl, reached.peek_identity⟩

/-- Two cores of one geometry cannot be told apart once they are booted, whatever has happened to
them: the boot succeeds on both, answers the same, and leaves the same registers. -/
theorem boot_erases_history {first second : Profile} {left right : Host Simulator}
    (rows : second.peRows = first.peRows) (cols : second.peCols = first.peCols)
    (trusted : first.isPlausible = true)
    (leftReached : Reachable (fun sim => Simulator.ofProfile first = .ok sim)
      (Simulator.Frame [.irqStatus]) left)
    (rightReached : Reachable (fun sim => Simulator.ofProfile second = .ok sim)
      (Simulator.Frame [.irqStatus]) right) :
    ∃ info leftAfter rightAfter,
      Operation.boot.Step left (.ok (.info info)) leftAfter ∧
      Operation.boot.Step right (.ok (.info info)) rightAfter ∧
      leftAfter.link.bus.Booted first ∧ rightAfter.link.bus.Booted first ∧
      ∀ reg ∉ Host.layerRegisters, leftAfter.link.bus.peek reg = rightAfter.link.bus.peek reg := by
  have config : second.config = first.config := by rw [Profile.config, rows, cols]; rfl
  have same : second.isPlausible = true := by
    rw [← second.isPlausible_ofConfig, config, first.isPlausible_ofConfig]
    exact trusted
  obtain ⟨info, leftAfter, leftStep, rfl, leftBooted⟩ :=
    Operation.boot.exists_ok rfl (leftReached.yields_boot trusted)
  obtain ⟨info, rightAfter, rightStep, rfl, rightBooted⟩ :=
    Operation.boot.exists_ok rfl (rightReached.yields_boot same)
  -- The boot reads no more of the second profile than its geometry.
  have word : Simulator.bootWord second = Simulator.bootWord first := by
    funext reg
    unfold Simulator.bootWord
    rw [config]
  have alike : rightAfter.link.bus.Booted first :=
    ⟨fun reg outside => word ▸ rightBooted.registers reg outside, rightBooted.settled⟩
  rw [config] at rightStep
  refine ⟨_, leftAfter, rightAfter, leftStep, rightStep, leftBooted, alike, fun reg outside => ?_⟩
  exact (leftBooted.registers reg outside).trans (alike.registers reg outside).symm

def modestProfile : Profile := { Profile.reference with weightBytes := 4096 }

theorem modest_builds : (Simulator.ofProfile modestProfile).toOption.isSome = true := rfl

def modestCore : Simulator := (Simulator.ofProfile modestProfile).toOption.get modest_builds

/-- A core that has failed and a lesser one that has never been used boot alike. -/
theorem faulted_boots_like_fresh :
    faultedHost.link.bus.peek .status = Simulator.errorStatus ∧
    ∃ info failedAfter freshAfter,
      Operation.boot.Step faultedHost (.ok (.info info)) failedAfter ∧
      Operation.boot.Step (.ofBus modestCore) (.ok (.info info)) freshAfter ∧
      failedAfter.link.bus.Booted .reference ∧ freshAfter.link.bus.Booted .reference ∧
      ∀ reg ∉ Host.layerRegisters, failedAfter.link.bus.peek reg = freshAfter.link.bus.peek reg := by
  have failed := faultedHost_reachable.mono fun _ _ change => change.frame
  have fresh : Reachable (fun sim => Simulator.ofProfile modestProfile = .ok sim)
      (Simulator.Frame [.irqStatus]) (.ofBus modestCore) := .start rfl
  have rows : modestProfile.peRows = Profile.reference.peRows := rfl
  have cols : modestProfile.peCols = Profile.reference.peCols := rfl
  exact ⟨by decide +kernel, boot_erases_history rows cols (by decide) failed fresh⟩

end History

end NpuStack
