/-! Numbers on the command line. -/

set_option autoImplicit false

namespace NpuStack.Cli

inductive NumberFault where
  | empty
  | invalidDigit
  | tooLarge
  deriving DecidableEq, Repr

def NumberFault.message : NumberFault → String
  | .empty => "cannot parse integer from empty string"
  | .invalidDigit => "invalid digit found in string"
  | .tooLarge => "number too large to fit in target type"

def digitValue? (base : Nat) (c : Char) : Option Nat :=
  let value :=
    if '0' ≤ c ∧ c ≤ '9' then c.toNat - '0'.toNat
    else if 'a' ≤ c ∧ c ≤ 'f' then c.toNat - 'a'.toNat + 10
    else if 'A' ≤ c ∧ c ≤ 'F' then c.toNat - 'A'.toNat + 10
    else base
  if value < base then some value else none

/-- Read digits from the left. The first character that is no digit or that makes the number reach
the limit decides the fault. -/
def readDigits (base limit : Nat) : (value : Nat) → List Char → Except NumberFault Nat
  | value, [] => .ok value
  | value, c :: rest =>
    match digitValue? base c with
    | none => .error .invalidDigit
    | some digit =>
      let next := value * base + digit
      if limit ≤ next then .error .tooLarge else readDigits base limit next rest

def readUnsigned (base limit : Nat) : List Char → Except NumberFault Nat
  | [] => .error .empty
  | ['+'] => .error .invalidDigit
  | '+' :: rest => readDigits base limit 0 rest
  | digits => readDigits base limit 0 digits

/-- A 64-bit word: decimal, or hexadecimal after `0x`, with underscores anywhere. -/
def readWord (text : String) : Except NumberFault UInt64 :=
  let digits (chars : List Char) : List Char := chars.filter (· != '_')
  let value :=
    match text.toList with
    | '0' :: 'x' :: rest => readUnsigned 16 UInt64.size (digits rest)
    | '0' :: 'X' :: rest => readUnsigned 16 UInt64.size (digits rest)
    | chars => readUnsigned 10 UInt64.size (digits chars)
  value.map UInt64.ofNat

/-- A decimal number below a limit, with an optional sign; only zero may be negative. -/
def readBelow? (limit : Nat) (text : String) : Option Nat :=
  match text.toList with
  | ['-'] => none
  | '-' :: rest =>
    match readDigits 10 limit 0 rest with
    | .ok 0 => some 0
    | _ => none
  | chars =>
    match readUnsigned 10 limit chars with
    | .ok value => some value
    | .error _ => none

end NpuStack.Cli
