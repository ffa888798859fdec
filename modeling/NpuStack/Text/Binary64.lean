/-! Binary floating point with 53-bit significands, for values between zero and
a few hundred: the nearest such number to a quotient, its bit pattern, and its
decimal text with one place. Ties go to the even neighbour in both roundings. -/

set_option autoImplicit false

namespace NpuStack.Text

def roundDiv (num den : Nat) : Nat :=
  let low := num / den
  let twice := 2 * (num % den)
  if den < twice ∨ (twice = den ∧ low % 2 = 1) then low + 1 else low

/-- The value `significand · 2 ^ exponent`; a significand other than zero has 53 bits. -/
structure Binary64 where
  significand : Nat
  exponent : Int
  deriving DecidableEq, Repr

namespace Binary64

def zero : Binary64 := ⟨0, 0⟩

def bitLength (value : Nat) : Nat := if value = 0 then 0 else value.log2 + 1

/-- The quotient `num · 2 ^ shift / den` rounded to a whole number. -/
def scaledDiv (num den : Nat) (shift : Int) : Nat :=
  roundDiv (num <<< shift.toNat) (den <<< (-shift).toNat)

/-- The power of two by which a quotient is multiplied so that its whole part has 53 bits. -/
def scale (num den : Nat) : Int :=
  let guess : Int := 53 - ((bitLength num : Int) - (bitLength den : Int))
  if num <<< guess.toNat < den <<< ((-guess).toNat + 53) then guess else guess - 1

def nearest (num den : Nat) : Binary64 :=
  if num = 0 then zero
  else
    let shift := scale num den
    let rounded := scaledDiv num den shift
    if rounded = 1 <<< 53 then ⟨1 <<< 52, 1 - shift⟩ else ⟨rounded, -shift⟩

def numerator (x : Binary64) : Nat := x.significand <<< x.exponent.toNat

def denominator (x : Binary64) : Nat := 1 <<< (-x.exponent).toNat

def ofNat (value : Nat) : Binary64 := nearest value 1

def mul (x y : Binary64) : Binary64 :=
  nearest (x.numerator * y.numerator) (x.denominator * y.denominator)

def div (x y : Binary64) : Binary64 :=
  nearest (x.numerator * y.denominator) (x.denominator * y.numerator)

def bits (x : Binary64) : UInt64 :=
  if x.significand = 0 then 0
  else .ofNat ((x.exponent + 1075).toNat <<< 52 + (x.significand - (1 <<< 52)))

def onePlace (x : Binary64) : String :=
  let tenths := roundDiv (10 * x.numerator) x.denominator
  toString (tenths / 10) ++ "." ++ toString (tenths % 10)

end Binary64

end NpuStack.Text
