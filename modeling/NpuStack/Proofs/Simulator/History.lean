import NpuStack.Proofs.Simulator.Control

/-! Histories of a host on the simulated core: calls of its operations, what the
core does by itself and looks at its status, in any order. -/

set_option autoImplicit false

namespace NpuStack

inductive Signal where
  | program
  | transfer
  | interrupt (bits : UInt32)
  | script (fault : Option UInt32) (dmaFault dmaHang hang : Bool) (latency : UInt32)

def Signal.act : Signal → Simulator → Simulator
  | .program, sim => sim.runProgram
  | .transfer, sim => sim.runTransfer
  | .interrupt bits, sim => sim.raiseIrq bits
  | .script fault dmaFault dmaHang hang latency, sim =>
    { sim with fault, dmaFault, dmaHang, hang, latency }

inductive Happening where
  | signal (signal : Signal)
  /-- Somebody reads the status. -/
  | look
  | call (op : Operation) (answer : Except HostError Reply)

/-- Time may pass while the core is busy with itself. -/
def Happens (before : Host Simulator) : Happening → Host Simulator → Prop
  | .signal signal, after =>
    ∃ clock, after = { before with link := ⟨signal.act before.link.bus, clock⟩ }
  | .look, after =>
    after = { before with link := ⟨(before.link.bus.read .status).2, before.link.clock⟩ }
  | .call op answer, after => op.Step before answer after

structure Passage where
  before : Host Simulator
  happening : Happening
  after : Host Simulator

inductive History : Host Simulator → List Passage → Host Simulator → Prop where
  | nil {host : Host Simulator} : History host [] host
  | cons {before middle after : Host Simulator} {happening : Happening} {rest : List Passage} :
    Happens before happening middle → History middle rest after →
    History before (⟨before, happening, middle⟩ :: rest) after

namespace History

variable {host after : Host Simulator} {passages : List Passage}

theorem call {middle : Host Simulator} {op : Operation} {answer : Except HostError Reply}
    (step : op.Step host answer middle) (rest : History middle passages after) :
    History host (⟨host, .call op answer, middle⟩ :: passages) after :=
  .cons step rest

theorem happens (history : History host passages after) :
    ∀ passage ∈ passages, Happens passage.before passage.happening passage.after := by
  induction history with
  | nil => simp
  | cons happens _ ih => exact List.forall_mem_cons.mpr ⟨happens, ih⟩

/-- A history is cut at any of its passages. -/
theorem cut {earlier later : List Passage} {passage : Passage}
    (history : History host (earlier ++ passage :: later) after) :
    History host earlier passage.before ∧
    Happens passage.before passage.happening passage.after ∧ History passage.after later after := by
  induction earlier generalizing host with
  | nil =>
    cases history with
    | cons happens rest => exact ⟨.nil, happens, rest⟩
  | cons first earlier ih =>
    cases history with
    | cons happens rest =>
      obtain ⟨start, middle, finish⟩ := ih rest
      exact ⟨.cons happens start, middle, finish⟩

theorem kept {kept : Host Simulator → Prop} (history : History host passages after)
    (one : ∀ passage ∈ passages, Happens passage.before passage.happening passage.after →
      kept passage.before → kept passage.after) (first : kept host) :
    kept after ∧ ∀ passage ∈ passages, kept passage.before := by
  induction history with
  | nil => exact ⟨first, by simp⟩
  | cons happens _ ih =>
    rw [List.forall_mem_cons] at one ⊢
    have rest := ih one.2 (one.1 happens first)
    exact ⟨rest.1, first, rest.2⟩

/-- A property holds along a history exactly as long as nothing in it ends the property. -/
theorem stays_iff {good : Host Simulator → Prop} {ends : Passage → Prop}
    (history : History host passages after)
    (one : ∀ passage : Passage, Happens passage.before passage.happening passage.after →
      good passage.before → (good passage.after ↔ ¬ends passage)) (first : good host) :
    (∀ passage ∈ passages, good passage.after) ↔ ∀ passage ∈ passages, ¬ends passage := by
  induction history with
  | nil => simp
  | @cons before middle _ happening _ happens _ ih =>
    have here := one ⟨before, happening, middle⟩ happens first
    rw [List.forall_mem_cons, List.forall_mem_cons]
    constructor
    · rintro ⟨still, rest⟩
      exact ⟨here.mp still, (ih still).mp rest⟩
    · rintro ⟨plain, rest⟩
      have still := here.mpr plain
      exact ⟨still, (ih still).mpr rest⟩

end History

end NpuStack
