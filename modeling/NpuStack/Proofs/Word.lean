import NpuStack.Profile
import Mathlib.Algebra.Order.Ring.Nat

/-! Words as bits and as pairs of halves. -/

set_option autoImplicit false

namespace NpuStack

theorem or_and_distrib (a b c : UInt32) : (a ||| b) &&& c = a &&& c ||| b &&& c := by
  apply UInt32.toBitVec_inj.mp
  simp only [UInt32.toBitVec_and, UInt32.toBitVec_or]
  exact BitVec.and_or_distrib_right

section Bits

variable {word bits other : UInt32}

def hasBit (word : UInt32) (i : Fin 32) : Bool := word.toBitVec.getLsbD i

@[simp] theorem hasBit_and (a b : UInt32) (i : Fin 32) :
    hasBit (a &&& b) i = (hasBit a i && hasBit b i) := by
  simp [hasBit]

@[simp] theorem hasBit_or (a b : UInt32) (i : Fin 32) :
    hasBit (a ||| b) i = (hasBit a i || hasBit b i) := by
  simp [hasBit]

@[simp] theorem hasBit_not (a : UInt32) (i : Fin 32) : hasBit (~~~a) i = !hasBit a i := by
  simp [hasBit]

@[simp] theorem hasBit_zero (i : Fin 32) : hasBit 0 i = false := by
  simp [hasBit]

theorem eq_iff_hasBit {a b : UInt32} : a = b ↔ ∀ i, hasBit a i = hasBit b i := by
  constructor
  · rintro rfl i
    rfl
  · intro same
    apply UInt32.toBitVec_inj.mp
    apply BitVec.eq_of_getLsbD_eq
    intro i below
    exact same ⟨i, below⟩

/-- Some bits are all set. -/
theorem and_eq_right_iff : word &&& bits = bits ↔ ∀ i, hasBit bits i = true → hasBit word i = true := by
  simp [eq_iff_hasBit]

/-- Some bits are all clear. -/
theorem and_eq_zero_iff : word &&& bits = 0 ↔ ∀ i, hasBit bits i = true → hasBit word i = false := by
  rw [eq_iff_hasBit]
  refine forall_congr' fun i => ?_
  rw [hasBit_and, hasBit_zero]
  cases hasBit word i <;> cases hasBit bits i <;> simp

theorem or_and_of_subset (all : word &&& bits = bits) (more : UInt32) :
    (word ||| more) &&& bits = bits := by
  rw [and_eq_right_iff] at all ⊢
  intro i inside
  simp [all i inside]

theorem and_not_of_disjoint (all : word &&& bits = bits) (apart : other &&& bits = 0) :
    word &&& ~~~other &&& bits = bits := by
  rw [and_eq_right_iff] at all ⊢
  rw [and_eq_zero_iff] at apart
  intro i inside
  simp [all i inside, apart i inside]

end Bits
def joined (low high : UInt32) : UInt64 := (high.toUInt64 <<< 32) ||| low.toUInt64

theorem toNat_joined (low high : UInt32) : (joined low high).toNat = high.toNat * 2 ^ 32 + low.toNat := by
  have small := high.toNat_lt
  have shifted : (high.toUInt64 <<< 32).toNat = high.toNat <<< 32 := by
    rw [UInt64.toNat_shiftLeft, UInt32.toNat_toUInt64]
    show high.toNat <<< 32 % 2 ^ 64 = _
    rw [Nat.shiftLeft_eq]
    omega
  rw [joined, UInt64.toNat_or, shifted, UInt32.toNat_toUInt64,
    ← Nat.shiftLeft_add_eq_or_of_lt low.toNat_lt, Nat.shiftLeft_eq]

/-- A word is put together again from its halves. -/
theorem joined_halves (value : UInt64) : joined value.toUInt32 (value >>> 32).toUInt32 = value := by
  have small := value.toNat_lt
  have upper : (value >>> 32).toNat = value.toNat / 2 ^ 32 := by
    rw [UInt64.toNat_shiftRight]
    exact Nat.shiftRight_eq_div_pow value.toNat 32
  apply UInt64.toNat_inj.mp
  rw [toNat_joined, UInt64.toNat_toUInt32, UInt64.toNat_toUInt32, upper]
  omega

theorem toNat_configWord (rows cols : UInt16) :
    (configWord rows cols).toNat = rows.toNat * 2 ^ 16 + cols.toNat := by
  have small := rows.toNat_lt
  have shifted : (rows.toUInt32 <<< 16).toNat = rows.toNat <<< 16 := by
    rw [UInt32.toNat_shiftLeft, UInt16.toNat_toUInt32]
    show rows.toNat <<< 16 % 2 ^ 32 = _
    rw [Nat.shiftLeft_eq]
    omega
  rw [configWord, UInt32.toNat_or, shifted, UInt16.toNat_toUInt32,
    ← Nat.shiftLeft_add_eq_or_of_lt cols.toNat_lt, Nat.shiftLeft_eq]

/-- The geometry is read back from its word. -/
theorem Profile.ofConfig_config (profile : Profile) :
    (ofConfig profile.config).peRows = profile.peRows ∧
    (ofConfig profile.config).peCols = profile.peCols := by
  have word := toNat_configWord profile.peRows profile.peCols
  have rows := profile.peRows.toNat_lt
  have cols := profile.peCols.toNat_lt
  have upper : (profile.config >>> 16).toNat = profile.config.toNat / 2 ^ 16 := by
    rw [UInt32.toNat_shiftRight]
    exact Nat.shiftRight_eq_div_pow _ 16
  constructor
  · apply UInt16.toNat_inj.mp
    show ((profile.config >>> 16).toUInt16).toNat = _
    rw [UInt32.toNat_toUInt16, upper, config, word]
    omega
  · apply UInt16.toNat_inj.mp
    show (profile.config.toUInt16).toNat = _
    rw [UInt32.toNat_toUInt16, config, word]
    omega

theorem Profile.toNat_peCount (profile : Profile) :
    profile.peCount.toNat = profile.peRows.toNat * profile.peCols.toNat := by
  have rows := profile.peRows.toNat_lt
  have cols := profile.peCols.toNat_lt
  have product : profile.peRows.toNat * profile.peCols.toNat < 2 ^ 16 * 2 ^ 16 :=
    Nat.mul_lt_mul'' rows cols
  rw [peCount, UInt32.toNat_mul, UInt16.toNat_toUInt32, UInt16.toNat_toUInt32]
  exact Nat.mod_eq_of_lt product

end NpuStack
