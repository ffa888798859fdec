import NpuStack.Host.Error

/-! Virtual time and polling.

A poll probes at once and then after every interval. With a deadline it gives
up at the first probe that fails after the deadline has passed; without one it
goes on for as long as the probe may still change its answer. -/

set_option autoImplicit false

namespace NpuStack

/-- A microsecond clock that moves only by delays and stops at its largest reading. -/
structure Clock where
  now : UInt64
  deriving DecidableEq, Repr

namespace Clock

def start : Clock := ⟨0⟩

def delay (clock : Clock) (microseconds : UInt64) : Clock :=
  if clock.now.toNat + microseconds.toNat < UInt64.size then ⟨clock.now + microseconds⟩
  else ⟨0xFFFFFFFFFFFFFFFF⟩

def delayMillis (clock : Clock) (milliseconds : UInt64) : Clock :=
  clock.delay
    (if milliseconds.toNat * 1000 < UInt64.size then milliseconds * 1000 else 0xFFFFFFFFFFFFFFFF)

/-- Time since an earlier reading; a later reading counts as now. -/
def since (clock : Clock) (earlier : UInt64) : UInt64 :=
  if earlier ≤ clock.now then clock.now - earlier else 0

end Clock

/-- One look at a device: no answer yet, or a result, and the device after it. -/
abbrev Probe (σ α : Type) := σ → Option (Except HostError α) × σ

namespace Probe

/-- Probes that a poll may need: those up to the deadline and those that a device with the given
patience may leave unanswered. -/
def budget (interval timeout : UInt64) (patience : Nat) : Nat :=
  (timeout.toNat + interval.toNat - 1) / interval.toNat + 1 + patience

variable {σ α : Type}

def loop (probe : Probe σ α) (interval timeout started : UInt64) :
    (fuel : Nat) → Clock → σ → Attempt HostError α × Clock × σ
  | 0, clock, device => (.error (.trap .endlessWait), clock, device)
  | fuel + 1, clock, device =>
    match probe device with
    | (some (.ok value), device) => (.ok value, clock, device)
    | (some (.error cause), device) => (.error (.error cause), clock, device)
    | (none, device) =>
      if timeout ≠ 0 ∧ timeout ≤ clock.since started then
        (.error (.error (.timeout timeout)), clock, device)
      else loop probe interval timeout started fuel (clock.delay interval) device

/-- Poll every `interval` until the probe answers. A `timeout` of zero is no deadline. -/
def poll (probe : Probe σ α) (interval timeout : UInt64) (patience : Nat) (clock : Clock)
    (device : σ) : Attempt HostError α × Clock × σ :=
  loop probe interval timeout clock.now (budget interval timeout patience) clock device

end Probe

end NpuStack
