/-! Computations that stop without an answer.

Machine words are checked: an operation whose exact result does not fit its
width traps at that operation, and so does division by zero. A trap is not an
error report: nothing after it runs, but what was done before it stays done.
-/

set_option autoImplicit false

namespace NpuStack

inductive Trap where
  | addOverflow
  | subOverflow
  | mulOverflow
  | divideByZero
  | offsetOutOfBounds
  | sliceOutOfBounds
  /-- A wait without a deadline on a device that never answers. -/
  | endlessWait
  deriving DecidableEq, Repr

def Trap.message : Trap → String
  | .addOverflow => "attempt to add with overflow"
  | .subOverflow => "attempt to subtract with overflow"
  | .mulOverflow => "attempt to multiply with overflow"
  | .divideByZero => "attempt to divide by zero"
  | .offsetOutOfBounds => "register offset out of bounds"
  | .sliceOutOfBounds => "range out of bounds"
  | .endlessWait => "wait never ends"

/-- An operation fails by a trap or by an error that it reports. -/
inductive Failure (ε : Type) where
  | trap (cause : Trap)
  | error (cause : ε)
  deriving DecidableEq, Repr

/-- Word arithmetic: a value, or the trap of the first operation out of range. -/
abbrev Checked (α : Type) := Except Trap α

abbrev Attempt (ε α : Type) := Except (Failure ε) α

instance {ε : Type} : MonadLift (Except Trap) (Except (Failure ε)) where
  monadLift
    | .ok value => .ok value
    | .error cause => .error (.trap cause)

def Failure.report {ε α : Type} (cause : ε) : Attempt ε α := .error (.error cause)

namespace Checked

def add32 (a b : UInt32) : Checked UInt32 :=
  if a.toNat + b.toNat < UInt32.size then .ok (a + b) else .error .addOverflow

def sub32 (a b : UInt32) : Checked UInt32 :=
  if b ≤ a then .ok (a - b) else .error .subOverflow

def mul32 (a b : UInt32) : Checked UInt32 :=
  if a.toNat * b.toNat < UInt32.size then .ok (a * b) else .error .mulOverflow

def divCeil32 (a b : UInt32) : Checked UInt32 :=
  if b = 0 then .error .divideByZero
  else .ok (if a % b = 0 then a / b else a / b + 1)

def add64 (a b : UInt64) : Checked UInt64 :=
  if a.toNat + b.toNat < UInt64.size then .ok (a + b) else .error .addOverflow

def mul64 (a b : UInt64) : Checked UInt64 :=
  if a.toNat * b.toNat < UInt64.size then .ok (a * b) else .error .mulOverflow

def subSize (a b : Nat) : Checked Nat := if b ≤ a then .ok (a - b) else .error .subOverflow

def slice (bytes : ByteArray) (start stop : Nat) : Checked ByteArray :=
  if start ≤ stop ∧ stop ≤ bytes.size then .ok (bytes.extract start stop)
  else .error .sliceOutOfBounds

end Checked

end NpuStack
