import NpuStack.Proofs.Host.Deadline
import NpuStack.Proofs.Host.Duration
import NpuStack.Proofs.Ledger

/-! The slot of the transfer engine. Somebody who asks for a transfer looks at
the engine once, and if it is taken waits for the first look that finds an end.
The request is then written as a whole, or nothing is written at all. -/

set_option autoImplicit false

namespace NpuStack

variable {β : Type} [Bus β]

def Bus.written (entries : List (Register × UInt32)) (bus : β) : β :=
  entries.foldl (fun bus entry => Bus.write entry.1 entry.2 bus) bus

/-- The writes that make up a request; its control word comes last and starts it. -/
def Descriptor.writes (d : Descriptor) : List (Register × UInt32) :=
  [(.dmaSrc, d.src), (.dmaDst, d.dst), (.dmaLen, d.len)] ++
  (if d.is2d then [(.dmaSrcStride, d.srcStride.toUInt32), (.dmaDstStride, d.dstStride.toUInt32)]
    else []) ++
  [(.dmaCtrl, d.controlWord)]

namespace Engine

section Looks

def looked : Nat → β → β
  | 0, bus => bus
  | looks + 1, bus => looked looks (Bus.read .dmaStatus bus).2

def found (earlier : Nat) (bus : β) : UInt32 := (Bus.read .dmaStatus (looked earlier bus)).1

def Finds (mask : UInt32) (earlier : Nat) (bus : β) : Prop := found earlier bus &&& mask ≠ 0

instance (mask : UInt32) (earlier : Nat) (bus : β) : Decidable (Finds mask earlier bus) :=
  inferInstanceAs (Decidable (_ ≠ _))

def FindsEnd (earlier : Nat) (bus : β) : Prop :=
  Finds DmaStatus.done earlier bus ∨ Finds DmaStatus.error earlier bus

instance (earlier : Nat) (bus : β) : Decidable (FindsEnd earlier bus) :=
  inferInstanceAs (Decidable (_ ∨ _))

/-- Looks of a wait for the slot, up to the first one at the deadline or after it. -/
def slotLooks (engine : Engine) : Nat := Probe.intervals engine.pollInterval slotTimeout + 1

/-- Of the looks that follow the first one, up to the deadline, this one is the first to find an
end. -/
structure FirstEnd (engine : Engine) (look : Nat) (bus : β) : Prop where
  follows : 1 ≤ look
  timely : look ≤ engine.slotLooks
  quiet : ∀ earlier, 1 ≤ earlier → earlier < look → ¬FindsEnd earlier bus
  ends : FindsEnd look bus

variable {engine : Engine} {bus : β}

theorem FirstEnd.unique {look other : Nat} (first : engine.FirstEnd look bus)
    (second : engine.FirstEnd other bus) : look = other := by
  rcases Nat.lt_trichotomy look other with less | same | more
  · exact absurd first.ends (second.quiet look first.follows less)
  · exact same
  · exact absurd second.ends (first.quiet other second.follows more)

theorem exists_firstEnd {look : Nat} (follows : 1 ≤ look) (timely : look ≤ engine.slotLooks)
    (ends : FindsEnd look bus) : ∃ look, engine.FirstEnd look bus := by
  induction look using Nat.strongRecOn with
  | ind look ih =>
    by_cases sooner : ∃ earlier, 1 ≤ earlier ∧ earlier < look ∧ FindsEnd earlier bus
    case pos =>
      obtain ⟨earlier, behind, below, ends⟩ := sooner
      exact ih earlier below behind (Nat.le_of_lt (Nat.lt_of_lt_of_le below timely)) ends
    case neg =>
      exact ⟨look, follows, timely, fun earlier behind below ends =>
        sooner ⟨earlier, behind, below, ends⟩, ends⟩

end Looks

section Probing

variable {bus : β} {earlier : Nat}

def complaint (status : UInt32) : String :=
  "engine reported error (status " ++ Text.hexMarked status.toNat ++ ")"

def heard (status : UInt32) : Option (Except HostError Unit) :=
  if status &&& DmaStatus.done ≠ 0 then some (.ok ())
  else if status &&& DmaStatus.error ≠ 0 then some (.error (.dma (complaint status)))
  else none

theorem probe_eq (bus : β) : probe bus = (heard (found 0 bus), looked 1 bus) := by
  unfold probe heard
  simp only [bne_iff_ne]
  split
  case isTrue done => exact Prod.ext (if_pos done).symm rfl
  case isFalse undone =>
    split
    case isTrue error => exact Prod.ext ((if_neg undone).trans (if_pos error)).symm rfl
    case isFalse quiet => exact Prod.ext ((if_neg undone).trans (if_neg quiet)).symm rfl

theorem after_probe (looks : Nat) (bus : β) : probe.after looks bus = looked looks bus := by
  induction looks generalizing bus with
  | zero => rfl
  | succ looks ih =>
    rw [Probe.after, ih, probe_eq]
    rfl

theorem answer?_probe (earlier : Nat) (bus : β) :
    probe.answer? earlier bus = heard (found earlier bus) := by
  rw [Probe.answer?, after_probe, probe_eq]
  rfl

theorem answer?_of_done (done : Finds DmaStatus.done earlier bus) :
    probe.answer? earlier bus = some (.ok ()) :=
  (answer?_probe earlier bus).trans (if_pos done)

theorem answer?_of_error (undone : ¬Finds DmaStatus.done earlier bus)
    (error : Finds DmaStatus.error earlier bus) :
    probe.answer? earlier bus = some (.error (.dma (complaint (found earlier bus)))) :=
  (answer?_probe earlier bus).trans ((if_neg undone).trans (if_pos error))

theorem answer?_eq_none (quiet : ¬FindsEnd earlier bus) : probe.answer? earlier bus = none :=
  (answer?_probe earlier bus).trans
    ((if_neg fun done => quiet (.inl done)).trans (if_neg fun error => quiet (.inr error)))

/-- The looks of the wait follow a look that the wait knows nothing of. -/
theorem FirstEnd.firstAnswer {engine : Engine} {look : Nat} (first : engine.FirstEnd look bus)
    {answer : Except HostError Unit}
    (answered : probe.answer? (look - 1) (looked 1 bus) = some answer) :
    probe.FirstAnswer look answer (looked 1 bus) where
  some := first.follows
  quiet earlier below := answer?_eq_none fun ends =>
    first.quiet (earlier + 1) (Nat.succ_pos _) (by omega) ends
  answered := answered

end Probing

/-- What becomes of a request, and after how many looks at the engine. -/
inductive Verdict (engine : Engine) (d : Descriptor) (bus : β) : Except HostError Unit → Nat → Prop where
  | invalid {fault : DescriptorFault} (faulty : d.validate = .error fault) :
    Verdict engine d bus (.error (.invalidParam fault.message)) 0
  | free (valid : d.validate = .ok ()) (idle : ¬Finds DmaStatus.busy 0 bus) :
    Verdict engine d bus (.ok ()) 1
  | freed {look : Nat} (valid : d.validate = .ok ()) (held : Finds DmaStatus.busy 0 bus)
    (first : engine.FirstEnd look bus) (done : Finds DmaStatus.done look bus) :
    Verdict engine d bus (.ok ()) (look + 1)
  | failed {look : Nat} (valid : d.validate = .ok ()) (held : Finds DmaStatus.busy 0 bus)
    (first : engine.FirstEnd look bus) (undone : ¬Finds DmaStatus.done look bus) :
    Verdict engine d bus (.error (.dma (complaint (found look bus)))) (look + 1)
  | taken (valid : d.validate = .ok ()) (held : Finds DmaStatus.busy 0 bus)
    (quiet : ∀ look, 1 ≤ look → look ≤ engine.slotLooks → ¬FindsEnd look bus) :
    Verdict engine d bus (.error (.busy "start DMA")) (engine.slotLooks + 1)

section Start

variable {engine : Engine} {d : Descriptor} {link : Link β}

theorem request_eq (engine : Engine) (d : Descriptor) (link : Link β) :
    engine.request d link = (.ok { engine with started := engine.started + 1 },
      ⟨Bus.written d.writes link.bus, link.clock⟩) := by
  unfold request Descriptor.writes
  cases d.is2d <;> rfl

theorem start_invalid {fault : DescriptorFault} (faulty : d.validate = .error fault) :
    engine.start d link = (.error (.error (.invalidParam fault.message)), link) := by
  unfold start
  rw [faulty]
  rfl

theorem start_free (valid : d.validate = .ok ()) (idle : ¬Finds DmaStatus.busy 0 link.bus) :
    engine.start d link = engine.request d ⟨looked 1 link.bus, link.clock⟩ := by
  have look : isBusy link = (.ok false, ⟨looked 1 link.bus, link.clock⟩) :=
    Prod.ext (congrArg Except.ok (bne_eq_false_iff_eq.mpr (not_not.mp idle))) rfl
  unfold start
  rw [valid]
  show ((isBusy : LinkM β Bool) >>= _) link = _
  rw [act_bind, look]
  rfl

theorem start_held (valid : d.validate = .ok ()) (held : Finds DmaStatus.busy 0 link.bus) :
    engine.start d link =
      (engine.waitForSlot >>= fun _ => engine.request d) ⟨looked 1 link.bus, link.clock⟩ := by
  have look : isBusy link = (.ok true, ⟨looked 1 link.bus, link.clock⟩) :=
    Prod.ext (congrArg Except.ok (bne_iff_ne.mpr held)) rfl
  unfold start
  rw [valid]
  show ((isBusy : LinkM β Bool) >>= _) link = _
  rw [act_bind, look]
  rfl

/-- A wait that follows a first look, by the first end that it finds. -/
theorem wait_ended {look : Nat} {answer : Except HostError Unit}
    (room : link.clock.now.toNat + slotTimeout.toNat < UInt64.size)
    (first : engine.FirstEnd look link.bus)
    (answered : probe.answer? (look - 1) (looked 1 link.bus) = some answer) :
    ∃ clock : Clock, clock.now.toNat =
        min (link.clock.now.toNat + (look - 1) * engine.pollInterval.toNat) (UInt64.size - 1) ∧
      engine.wait slotTimeout ⟨looked 1 link.bus, link.clock⟩ =
        (answer.mapError .error, ⟨looked (look + 1) link.bus, clock⟩) := by
  have early : slotTimeout.toNat ≤ UInt64.size - 1 - link.clock.now.toNat := by omega
  obtain ⟨clock, reading, run⟩ := @Link.poll_first_answer _ _ _ _ engine.pollInterval slotTimeout
    ⟨looked 1 link.bus, link.clock⟩ look (Probe.one_le_interval _) early answer
    (first.firstAnswer answered) first.timely
  rw [after_probe] at run
  exact ⟨clock, reading, run⟩

theorem wait_expired (room : link.clock.now.toNat + slotTimeout.toNat < UInt64.size)
    (quiet : ∀ look, 1 ≤ look → look ≤ engine.slotLooks → ¬FindsEnd look link.bus) :
    ∃ clock : Clock, clock.now.toNat =
        min (link.clock.now.toNat + (engine.slotLooks - 1) * engine.pollInterval.toNat)
          (UInt64.size - 1) ∧
      engine.wait slotTimeout ⟨looked 1 link.bus, link.clock⟩ =
        (.error (.error (.timeout slotTimeout)), ⟨looked (engine.slotLooks + 1) link.bus, clock⟩) := by
  have late (looks : Nat) (answer : Except HostError Unit)
      (first : probe.FirstAnswer looks answer (looked 1 link.bus)) :
      Probe.intervals engine.pollInterval slotTimeout + 1 < looks := by
    refine Nat.lt_of_not_le fun timely => ?_
    have silent : ¬FindsEnd (looks - 1) (looked 1 link.bus) := by
      have same : looks = looks - 1 + 1 := (Nat.sub_add_cancel first.some).symm
      exact same ▸ quiet looks first.some timely
    have none := answer?_eq_none silent
    rw [first.answered] at none
    cases none
  have early : slotTimeout.toNat ≤ UInt64.size - 1 - link.clock.now.toNat := by omega
  obtain ⟨clock, reading, run⟩ := @Link.poll_expires _ _ _ _ engine.pollInterval slotTimeout
    ⟨looked 1 link.bus, link.clock⟩ (Probe.one_le_interval _) early (by decide) late
  rw [after_probe] at run
  exact ⟨clock, reading, run⟩

theorem start_freed {clock : Clock} {bus : β} (valid : d.validate = .ok ())
    (held : Finds DmaStatus.busy 0 link.bus)
    (waited : engine.wait slotTimeout ⟨looked 1 link.bus, link.clock⟩ = (.ok (), ⟨bus, clock⟩)) :
    engine.start d link = (.ok { engine with started := engine.started + 1 },
      ⟨Bus.written d.writes bus, clock⟩) := by
  have free : engine.waitForSlot ⟨looked 1 link.bus, link.clock⟩ = (.ok (), ⟨bus, clock⟩) := by
    unfold waitForSlot
    rw [waited]
  rw [start_held valid held, act_bind, free]
  exact request_eq engine d ⟨bus, clock⟩

theorem start_refused {cause : HostError} {after : Link β} (valid : d.validate = .ok ())
    (held : Finds DmaStatus.busy 0 link.bus)
    (refused : engine.waitForSlot ⟨looked 1 link.bus, link.clock⟩ = (.error (.error cause), after)) :
    engine.start d link = (.error (.error cause), after) := by
  rw [start_held valid held, act_bind, refused]

end Start

namespace Verdict

variable {engine : Engine} {d : Descriptor} {bus : β} {answer : Except HostError Unit} {looks : Nat}
  (verdict : engine.Verdict d bus answer looks)
include verdict

theorem looks_eq_zero_iff : looks = 0 ↔ d.validate ≠ .ok () := by
  cases verdict with
  | invalid faulty => simp [faulty]
  | free valid _ => simp [valid]
  | freed valid _ _ _ => simp [valid]
  | failed valid _ _ _ => simp [valid]
  | taken valid _ _ => simp [valid]

theorem invalid_iff {message : String} : answer = .error (.invalidParam message) ↔
    ∃ fault, d.validate = .error fault ∧ fault.message = message := by
  cases verdict with
  | invalid faulty => simp [faulty]
  | free valid _ => simp [valid]
  | freed valid _ _ _ => simp [valid]
  | failed valid _ _ _ => simp [valid]
  | taken valid _ _ => simp [valid]

theorem busy_iff {operation : String} : answer = .error (.busy operation) ↔
    operation = "start DMA" ∧ d.validate = .ok () ∧ Finds DmaStatus.busy 0 bus ∧
      ∀ look, 1 ≤ look → look ≤ engine.slotLooks → ¬FindsEnd look bus := by
  cases verdict with
  | invalid faulty => simp [faulty]
  | free _ idle => simp [idle]
  | freed _ _ first _ =>
    constructor
    · intro same
      cases same
    · rintro ⟨_, _, _, quiet⟩
      exact absurd first.ends (quiet _ first.follows first.timely)
  | failed _ _ first _ =>
    constructor
    · intro same
      cases same
    · rintro ⟨_, _, _, quiet⟩
      exact absurd first.ends (quiet _ first.follows first.timely)
  | taken valid held quiet =>
    constructor
    · intro same
      cases same
      exact ⟨rfl, valid, held, quiet⟩
    · rintro ⟨rfl, _⟩
      rfl

theorem dma_iff {message : String} : answer = .error (.dma message) ↔
    d.validate = .ok () ∧ Finds DmaStatus.busy 0 bus ∧ ∃ look, engine.FirstEnd look bus ∧
      Finds DmaStatus.error look bus ∧ ¬Finds DmaStatus.done look bus ∧
      message = complaint (found look bus) := by
  cases verdict with
  | invalid faulty => simp [faulty]
  | free _ idle => simp [idle]
  | freed _ _ first done =>
    constructor
    · intro same
      cases same
    · rintro ⟨_, _, look, other, _, undone, _⟩
      exact absurd (first.unique other ▸ done) undone
  | failed valid held first undone =>
    constructor
    · intro same
      cases same
      exact ⟨valid, held, _, first, first.ends.resolve_left undone, undone, rfl⟩
    · rintro ⟨_, _, look, other, _, _, rfl⟩
      rw [first.unique other]
  | taken _ _ quiet =>
    constructor
    · intro same
      cases same
    · rintro ⟨_, _, look, first, _⟩
      exact absurd first.ends (quiet look first.follows first.timely)

theorem ok_iff : answer = .ok () ↔ d.validate = .ok () ∧ (¬Finds DmaStatus.busy 0 bus ∨
    ∃ look, engine.FirstEnd look bus ∧ Finds DmaStatus.done look bus) := by
  cases verdict with
  | invalid faulty => simp [faulty]
  | free valid idle => simp [valid, idle]
  | freed valid _ first done => exact ⟨fun _ => ⟨valid, .inr ⟨_, first, done⟩⟩, fun _ => rfl⟩
  | failed _ held first undone =>
    constructor
    · intro same
      cases same
    · rintro ⟨_, idle | ⟨look, other, done⟩⟩
      · exact absurd held idle
      · exact absurd (first.unique other ▸ done) undone
  | taken _ held quiet =>
    constructor
    · intro same
      cases same
    · rintro ⟨_, idle | ⟨look, first, _⟩⟩
      · exact absurd held idle
      · exact absurd first.ends (quiet look first.follows first.timely)

theorem ready (ok : answer = .ok ()) : looks = 1 ∧ ¬Finds DmaStatus.busy 0 bus ∨
    2 ≤ looks ∧ Finds DmaStatus.done (looks - 1) bus := by
  cases verdict with
  | invalid _ => cases ok
  | free _ idle => exact .inl ⟨rfl, idle⟩
  | freed _ _ first done => exact .inr ⟨Nat.succ_le_succ first.follows, done⟩
  | failed _ _ _ _ => cases ok
  | taken _ _ _ => cases ok

theorem ne_timeout (time : UInt64) : answer ≠ .error (.timeout time) := by
  rintro rfl
  cases verdict

end Verdict

end Engine

namespace Host

/-- The host after a request and so many looks at the engine: with all that belongs to a transfer,
or with nothing of it. -/
def asked (host : Host β) (d : Descriptor) (looks : Nat) (clock : Clock) : Except HostError Unit → Host β
  | .ok () => { host with
      link := ⟨Bus.written d.writes (Engine.looked looks host.link.bus), clock⟩
      engine := { host.engine with started := host.engine.started + 1 } }
  | .error _ => { host with link := ⟨Engine.looked looks host.link.bus, clock⟩ }

variable {d : Descriptor} {host : Host β} {link : Link β}

theorem attempt_startTransfer_ok {engine : Engine}
    (run : host.engine.start d host.link = (.ok engine, link)) :
    attempt (startTransfer d) host = (.ok (.ok ()), { host with link, engine }) := by
  unfold attempt
  rw [startTransfer_eq, run]

theorem attempt_startTransfer_error {cause : HostError}
    (run : host.engine.start d host.link = (.error (.error cause), link)) :
    attempt (startTransfer d) host = (.ok (.error cause), { host with link }) := by
  unfold attempt
  rw [startTransfer_eq, run]

/-- A request comes back with its verdict. Its looks are one interval apart, but for the first, which
takes no time. -/
def Judged (d : Descriptor) (host : Host β) : Prop :=
  ∃ (answer : Except HostError Unit) (looks : Nat) (clock : Clock),
    attempt (startTransfer d) host = (.ok answer, host.asked d looks clock answer) ∧
    clock.now.toNat = min (host.link.clock.now.toNat + (looks - 2) * host.engine.pollInterval.toNat)
      (UInt64.size - 1) ∧
    host.engine.Verdict d host.link.bus answer looks

theorem judged_invalid {fault : DescriptorFault} (faulty : d.validate = .error fault) :
    Judged d host :=
  ⟨_, 0, host.link.clock, attempt_startTransfer_error (Engine.start_invalid faulty),
    host.link.clock.toNat_ticked _ 0, .invalid faulty⟩

section Valid

variable (valid : d.validate = .ok ())
include valid

theorem judged_free (idle : ¬Engine.Finds DmaStatus.busy 0 host.link.bus) : Judged d host :=
  have run := (Engine.start_free valid idle).trans (Engine.request_eq host.engine d _)
  ⟨_, 1, host.link.clock, attempt_startTransfer_ok run, host.link.clock.toNat_ticked _ 0,
    .free valid idle⟩

variable (held : Engine.Finds DmaStatus.busy 0 host.link.bus)
  (room : host.link.clock.now.toNat + Engine.slotTimeout.toNat < UInt64.size)
include held room

theorem judged_ended {look : Nat} (first : host.engine.FirstEnd look host.link.bus) : Judged d host := by
  -- The wait knows nothing of the first look, so it counts one look less.
  have last : look = look - 1 + 1 := (Nat.sub_add_cancel first.follows).symm
  by_cases done : Engine.Finds DmaStatus.done look host.link.bus
  case pos =>
    have answered : Engine.probe.answer? (look - 1) (Engine.looked 1 host.link.bus) =
        some (.ok ()) := Engine.answer?_of_done (last ▸ done)
    obtain ⟨clock, reading, waited⟩ := Engine.wait_ended room first answered
    exact ⟨_, _, clock, attempt_startTransfer_ok (Engine.start_freed valid held waited), reading,
      .freed valid held first done⟩
  case neg =>
    have error := first.ends.resolve_left done
    have answered : Engine.probe.answer? (look - 1) (Engine.looked 1 host.link.bus) =
        some (.error (.dma (Engine.complaint (Engine.found (look - 1 + 1) host.link.bus)))) :=
      Engine.answer?_of_error (last ▸ done) (last ▸ error)
    rw [← last] at answered
    obtain ⟨clock, reading, waited⟩ := Engine.wait_ended room first answered
    have refused : host.engine.waitForSlot ⟨Engine.looked 1 host.link.bus, host.link.clock⟩ =
        (.error (.error (.dma (Engine.complaint (Engine.found look host.link.bus)))),
          ⟨Engine.looked (look + 1) host.link.bus, clock⟩) := by
      unfold Engine.waitForSlot
      rw [waited]
      rfl
    exact ⟨_, _, clock, attempt_startTransfer_error (Engine.start_refused valid held refused), reading,
      .failed valid held first done⟩

theorem judged_quiet (quiet : ∀ look, 1 ≤ look → look ≤ host.engine.slotLooks →
    ¬Engine.FindsEnd look host.link.bus) : Judged d host := by
  obtain ⟨clock, reading, waited⟩ := Engine.wait_expired room quiet
  have refused : host.engine.waitForSlot ⟨Engine.looked 1 host.link.bus, host.link.clock⟩ =
      (.error (.error (.busy "start DMA")),
        ⟨Engine.looked (host.engine.slotLooks + 1) host.link.bus, clock⟩) := by
    unfold Engine.waitForSlot
    rw [waited]
  exact ⟨_, _, clock, attempt_startTransfer_error (Engine.start_refused valid held refused), reading,
    .taken valid held quiet⟩

end Valid

theorem judged (d : Descriptor) (host : Host β)
    (room : host.link.clock.now.toNat + Engine.slotTimeout.toNat < UInt64.size) : Judged d host := by
  cases checked : d.validate with
  | error fault => exact judged_invalid checked
  | ok =>
    by_cases held : Engine.Finds DmaStatus.busy 0 host.link.bus
    case neg => exact judged_free checked held
    case pos =>
      by_cases ended : ∃ look, 1 ≤ look ∧ look ≤ host.engine.slotLooks ∧
        Engine.FindsEnd look host.link.bus
      case pos =>
        obtain ⟨look, follows, timely, ends⟩ := ended
        obtain ⟨look, first⟩ := Engine.exists_firstEnd follows timely ends
        exact judged_ended checked held room first
      case neg =>
        exact judged_quiet checked held room fun look follows timely ends =>
          ended ⟨look, follows, timely, ends⟩

/-- A request for a transfer is carried out as a whole or not at all, and never while another
transfer holds the slot. -/
theorem startTransfer_whole (d : Descriptor) (host : Host β)
    (room : host.link.clock.now.toNat + Engine.slotTimeout.toNat < UInt64.size) :
    ∃ (answer : Except HostError Unit) (looks : Nat) (clock : Clock),
      attempt (startTransfer d) host = (.ok answer, host.asked d looks clock answer) ∧
      clock.now.toNat = min (host.link.clock.now.toNat + (looks - 2) * host.engine.pollInterval.toNat)
        (UInt64.size - 1) ∧
      d.controlWord &&& DmaCtrl.start ≠ 0 ∧
      (answer = .ok () ↔ d.validate = .ok () ∧ (¬Engine.Finds DmaStatus.busy 0 host.link.bus ∨
        ∃ look, host.engine.FirstEnd look host.link.bus ∧
          Engine.Finds DmaStatus.done look host.link.bus)) ∧
      (answer = .ok () → looks = 1 ∧ ¬Engine.Finds DmaStatus.busy 0 host.link.bus ∨
        2 ≤ looks ∧ Engine.Finds DmaStatus.done (looks - 1) host.link.bus) ∧
      (looks = 0 ↔ d.validate ≠ .ok ()) ∧
      (∀ message, answer = .error (.invalidParam message) ↔
        ∃ fault, d.validate = .error fault ∧ fault.message = message) ∧
      (∀ operation, answer = .error (.busy operation) ↔
        operation = "start DMA" ∧ d.validate = .ok () ∧
          Engine.Finds DmaStatus.busy 0 host.link.bus ∧
          ∀ look, 1 ≤ look → look ≤ host.engine.slotLooks → ¬Engine.FindsEnd look host.link.bus) ∧
      (∀ message, answer = .error (.dma message) ↔
        d.validate = .ok () ∧ Engine.Finds DmaStatus.busy 0 host.link.bus ∧
          ∃ look, host.engine.FirstEnd look host.link.bus ∧
            Engine.Finds DmaStatus.error look host.link.bus ∧
            ¬Engine.Finds DmaStatus.done look host.link.bus ∧
            message = Engine.complaint (Engine.found look host.link.bus)) ∧
      ∀ time, answer ≠ .error (.timeout time) := by
  obtain ⟨answer, looks, clock, run, reading, verdict⟩ := judged d host room
  exact ⟨answer, looks, clock, run, reading, d.controlWord_starts.2, verdict.ok_iff, verdict.ready,
    verdict.looks_eq_zero_iff, fun _ => verdict.invalid_iff, fun _ => verdict.busy_iff,
    fun _ => verdict.dma_iff, verdict.ne_timeout⟩

end Host

/-- A device whose engine shows one status after another, and keeps a log of what is written. -/
structure Replay where
  statuses : List UInt32
  log : List (Register × UInt32) := []

namespace Replay

instance : Bus Replay where
  read _ device := (device.statuses.headD 0, { device with statuses := device.statuses.tail })
  write reg value device := { device with log := device.log ++ [(reg, value)] }
  store _ _ device := .ok device
  load _ slice _ := (.ok (), slice)
  stagingBase _ := 0
  stagingBytes _ := 0
  patience _ := 0

theorem log_looked (looks : Nat) (device : Replay) : (Engine.looked looks device).log = device.log := by
  induction looks generalizing device with
  | zero => rfl
  | succ looks ih => exact ih _

theorem log_written (entries : List (Register × UInt32)) (device : Replay) :
    (Bus.written entries device).log = device.log ++ entries := by
  induction entries generalizing device with
  | nil => exact (List.append_nil _).symm
  | cons entry entries ih => exact (ih _).trans (List.append_assoc _ [entry] entries)

def rows : Descriptor where
  channel := .weight
  src := 0x100
  dst := 0x200
  len := 6
  srcStride := 8
  dstStride := 4
  width := 3
  height := 2
  flags := Descriptor.flag2d

/-- A slot that is taken is waited for. An end frees it even if it also shows an error, and an error
alone does not. -/
theorem startTransfer_waits_for_slot :
    (∃ after : Host Replay,
      attempt (Host.startTransfer rows) (.ofBus ⟨[1, 0, 6], []⟩) = (.ok (.ok ()), after) ∧
      after.engine.started = 1 ∧ after.link.bus.log = [(.dmaSrc, 0x100), (.dmaDst, 0x200),
        (.dmaLen, 6), (.dmaSrcStride, 8), (.dmaDstStride, 4), (.dmaCtrl, rows.controlWord)]) ∧
    ∃ after : Host Replay,
      attempt (Host.startTransfer rows) (.ofBus ⟨[1, 0, 4], []⟩) =
        (.ok (.error (.dma (Engine.complaint 4))), after) ∧
      after.engine.started = 0 ∧ after.link.bus.log = [] := by
  have first (last : UInt32) (ends : Engine.FindsEnd 2 (⟨[1, 0, last], []⟩ : Replay)) :
      (Host.ofBus (⟨[1, 0, last], []⟩ : Replay)).engine.FirstEnd 2 (⟨[1, 0, last], []⟩ : Replay) := by
    have timely : 2 ≤ Engine.slotLooks { interval := 10 } := by decide
    refine ⟨by decide, timely, fun earlier follows below => ?_, ends⟩
    obtain rfl : earlier = 1 := by omega
    show ¬((0 : UInt32) &&& DmaStatus.done ≠ 0 ∨ (0 : UInt32) &&& DmaStatus.error ≠ 0)
    decide
  constructor
  · obtain ⟨answer, looks, clock, run, _, _, ok, _⟩ :=
      Host.startTransfer_whole rows (.ofBus (⟨[1, 0, 6], []⟩ : Replay)) (by decide)
    obtain rfl := ok.mpr ⟨rfl, .inr ⟨2, first 6 (by decide), by decide⟩⟩
    refine ⟨_, run, rfl, (log_written rows.writes _).trans ?_⟩
    rw [log_looked]
    rfl
  · obtain ⟨answer, looks, clock, run, _, _, _, _, _, _, _, dma, _⟩ :=
      Host.startTransfer_whole rows (.ofBus (⟨[1, 0, 4], []⟩ : Replay)) (by decide)
    obtain rfl := (dma (Engine.complaint 4)).mpr
      ⟨rfl, by decide, 2, first 4 (by decide), by decide, by decide, rfl⟩
    exact ⟨_, run, rfl, log_looked looks _⟩

end Replay

end NpuStack
