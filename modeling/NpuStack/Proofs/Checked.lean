import NpuStack.Trap
import Mathlib.Algebra.Order.Floor.Div

/-! Checked words and attempts, read backwards: what a result says about the
numbers it came from. -/

set_option autoImplicit false

namespace NpuStack

section Attempts

variable {ε α γ : Type}

theorem bind_eq_ok {x : Except ε α} {f : α → Except ε γ} {result : γ} :
    (x >>= f) = .ok result ↔ ∃ value, x = .ok value ∧ f value = .ok result := by
  cases x with
  | error cause => exact ⟨fun h => (by cases h), fun ⟨_, h, _⟩ => (by cases h)⟩
  | ok value => exact ⟨fun h => ⟨value, rfl, h⟩, fun ⟨_, same, h⟩ => by cases same; exact h⟩

theorem pure_eq_ok {value result : α} : (pure value : Except ε α) = .ok result ↔ value = result :=
  ⟨fun h => by cases h; rfl, fun h => by cases h; rfl⟩

theorem liftM_eq_ok {x : Checked α} {result : α} :
    (liftM x : Attempt ε α) = .ok result ↔ x = .ok result := by
  cases x with
  | error cause => exact ⟨fun h => (by cases h), fun h => (by cases h)⟩
  | ok value => exact ⟨fun h => by cases h; rfl, fun h => by cases h; rfl⟩

theorem liftM_ok_bind {value : α} {next : α → Attempt ε γ} :
    (liftM (.ok value : Checked α) : Attempt ε α) >>= next = next value := rfl

theorem ite_eq_ok {p : Prop} [Decidable p] {value result : α} {cause : ε} :
    (if p then .ok value else .error cause : Except ε α) = .ok result ↔ p ∧ value = result := by
  split
  case isTrue holds => exact ⟨fun h => ⟨holds, by cases h; rfl⟩, fun h => by rw [h.2]⟩
  case isFalse fails => exact ⟨fun h => (by cases h), fun h => absurd h.1 fails⟩

/-- What follows a check that reports. -/
theorem ite_report_eq_ok {p : Prop} [Decidable p] {cause : ε} {unreached : α → Attempt ε γ}
    {next : Attempt ε γ} {result : γ} :
    (if p then Failure.report cause >>= unreached else next) = .ok result ↔
      ¬p ∧ next = .ok result := by
  split
  case isTrue holds => exact ⟨fun h => (by cases h), fun h => absurd holds h.1⟩
  case isFalse fails => exact ⟨fun h => ⟨fails, h⟩, And.right⟩

end Attempts

section Numbers

variable {a b : Nat}

theorem ceilDiv_pos (some : 0 < a) (positive : 0 < b) : 0 < a ⌈/⌉ b := by
  apply Nat.pos_of_ne_zero
  intro none
  have := (ceilDiv_le_iff_le_mul positive).mp (Nat.le_of_eq none)
  omega

theorem ceilDiv_eq_ite (positive : 0 < b) :
    a ⌈/⌉ b = if a % b = 0 then a / b else a / b + 1 := by
  have parts := Nat.div_add_mod a b
  have below := Nat.mod_lt a positive
  rw [Nat.ceilDiv_eq_add_pred_div]
  split
  case isTrue exact' =>
    apply Nat.div_eq_of_lt_le
    · rw [Nat.mul_comm]
      omega
    · rw [Nat.add_mul, Nat.mul_comm]
      omega
  case isFalse inexact =>
    apply Nat.div_eq_of_lt_le
    · rw [Nat.add_mul, Nat.mul_comm]
      omega
    · rw [Nat.add_mul, Nat.add_mul, Nat.mul_comm]
      omega

theorem quotient_lt (inexact : ¬a % b = 0) : a / b < a := by
  have parts := Nat.div_add_mod a b
  cases b with
  | zero => simp at inexact ⊢; omega
  | succ b =>
    have grow : 1 * (a / (b + 1)) ≤ (b + 1) * (a / (b + 1)) := Nat.mul_le_mul_right _ (by omega)
    omega

/-- A sum or product that fits a word is the word's number. -/
theorem wrapped_iff {exact' number size : Nat} (range : number < size) :
    exact' < size ∧ exact' % size = number ↔ exact' = number := by
  constructor
  · rintro ⟨fits, same⟩
    rwa [Nat.mod_eq_of_lt fits] at same
  · rintro rfl
    exact ⟨range, Nat.mod_eq_of_lt range⟩

theorem toNat_min (x y : UInt32) : (min x y).toNat = min x.toNat y.toNat := by
  show (if x ≤ y then x else y).toNat = _
  simp only [min_def, UInt32.le_iff_toNat_le]
  split <;> rfl

theorem toNat_ite {p : Prop} [Decidable p] (x y : UInt32) :
    (if p then x else y).toNat = if p then x.toNat else y.toNat := apply_ite _ _ _ _

theorem ne_zero_of_toNat_pos {x : UInt32} (positive : 0 < x.toNat) : ¬x = 0 := by
  rintro rfl
  exact Nat.lt_irrefl 0 positive

/-- Subtraction that stops at zero. -/
theorem toNat_pred {count : UInt32} :
    (if count = 0 then 0 else count - 1).toNat = count.toNat - 1 := by
  split
  case isTrue zero =>
    rw [zero]
    rfl
  case isFalse present =>
    have positive : 1 ≤ count.toNat :=
      Nat.pos_of_ne_zero fun zero => present (UInt32.toNat_inj.mp zero)
    exact UInt32.toNat_sub_of_le _ _ (UInt32.le_iff_toNat_le.mpr positive)

end Numbers

namespace Checked

theorem slice_eq {bytes : ByteArray} {start stop : Nat} (order : start ≤ stop)
    (inside : stop ≤ bytes.size) : slice bytes start stop = .ok (bytes.extract start stop) :=
  if_pos ⟨order, inside⟩

variable {a b c : UInt32}

theorem add32_eq_ok : add32 a b = .ok c ↔ a.toNat + b.toNat = c.toNat := by
  rw [add32, ite_eq_ok, ← UInt32.toNat_inj, UInt32.toNat_add]
  exact wrapped_iff c.toNat_lt

theorem mul32_eq_ok : mul32 a b = .ok c ↔ a.toNat * b.toNat = c.toNat := by
  rw [mul32, ite_eq_ok, ← UInt32.toNat_inj, UInt32.toNat_mul]
  exact wrapped_iff c.toNat_lt

theorem sub32_eq_ok : sub32 a b = .ok c ↔ b.toNat + c.toNat = a.toNat := by
  unfold sub32
  split
  case isTrue le =>
    have le' := UInt32.le_iff_toNat_le.mp le
    rw [Except.ok.injEq, ← UInt32.toNat_inj, UInt32.toNat_sub_of_le _ _ le]
    omega
  case isFalse gt =>
    have gt' := mt UInt32.le_iff_toNat_le.mpr gt
    refine ⟨fun h => (by cases h), fun h => absurd ?_ gt'⟩
    omega

/-- The quotient rounded up, when there is one. -/
theorem divCeil32_eq_ok :
    divCeil32 a b = .ok c ↔ 0 < b.toNat ∧ a.toNat ⌈/⌉ b.toNat = c.toNat := by
  have zero : b = 0 ↔ b.toNat = 0 := by rw [← UInt32.toNat_inj]; rfl
  have rest : a % b = 0 ↔ a.toNat % b.toNat = 0 := by
    rw [← UInt32.toNat_inj, UInt32.toNat_mod]; rfl
  unfold divCeil32
  split
  case isTrue absent =>
    refine ⟨fun h => (by cases h), fun ⟨positive, _⟩ => ?_⟩
    have := zero.mp absent
    omega
  case isFalse present =>
    have positive : 0 < b.toNat := Nat.pos_of_ne_zero (mt zero.mpr present)
    have rounded : (if a % b = 0 then a / b else a / b + 1).toNat = a.toNat ⌈/⌉ b.toNat := by
      rw [ceilDiv_eq_ite positive]
      simp only [rest]
      split
      case isTrue => rw [UInt32.toNat_div]
      case isFalse inexact =>
        -- A quotient with a remainder is below the dividend, so the step up stays in range.
        have small := quotient_lt inexact
        have range := a.toNat_lt
        have step : (1 : UInt32).toNat = 1 := rfl
        rw [UInt32.toNat_add, UInt32.toNat_div, step, Nat.mod_eq_of_lt (by omega)]
    rw [Except.ok.injEq, ← UInt32.toNat_inj, rounded]
    exact ⟨fun h => ⟨positive, h⟩, And.right⟩

variable {x y z : UInt64}

theorem add64_eq_ok : add64 x y = .ok z ↔ x.toNat + y.toNat = z.toNat := by
  rw [add64, ite_eq_ok, ← UInt64.toNat_inj, UInt64.toNat_add]
  exact wrapped_iff z.toNat_lt

theorem mul64_eq_ok : mul64 x y = .ok z ↔ x.toNat * y.toNat = z.toNat := by
  rw [mul64, ite_eq_ok, ← UInt64.toNat_inj, UInt64.toNat_mul]
  exact wrapped_iff z.toNat_lt

section Existence

theorem exists_add32 (fits : a.toNat + b.toNat < UInt32.size) :
    ∃ c, add32 a b = .ok c ∧ a.toNat + b.toNat = c.toNat :=
  have ok : add32 a b = .ok (a + b) := if_pos fits
  ⟨_, ok, add32_eq_ok.mp ok⟩

theorem exists_mul32 (fits : a.toNat * b.toNat < UInt32.size) :
    ∃ c, mul32 a b = .ok c ∧ a.toNat * b.toNat = c.toNat :=
  have ok : mul32 a b = .ok (a * b) := if_pos fits
  ⟨_, ok, mul32_eq_ok.mp ok⟩

theorem exists_sub32 (le : b.toNat ≤ a.toNat) : ∃ c, sub32 a b = .ok c ∧ b.toNat + c.toNat = a.toNat :=
  have ok : sub32 a b = .ok (a - b) := if_pos (UInt32.le_iff_toNat_le.mpr le)
  ⟨_, ok, sub32_eq_ok.mp ok⟩

theorem exists_mul64 (fits : x.toNat * y.toNat < UInt64.size) :
    ∃ z, mul64 x y = .ok z ∧ x.toNat * y.toNat = z.toNat :=
  have ok : mul64 x y = .ok (x * y) := if_pos fits
  ⟨_, ok, mul64_eq_ok.mp ok⟩

theorem exists_divCeil32 (positive : 0 < b.toNat) :
    ∃ c, divCeil32 a b = .ok c ∧ a.toNat ⌈/⌉ b.toNat = c.toNat :=
  have ok : divCeil32 a b = .ok _ := if_neg (ne_zero_of_toNat_pos positive)
  ⟨_, ok, (divCeil32_eq_ok.mp ok).2⟩

end Existence

end Checked

end NpuStack
