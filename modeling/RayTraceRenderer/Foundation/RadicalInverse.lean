import Mathlib.Algebra.Order.Field.Basic
import Mathlib.Data.Nat.Digits.Defs
import Mathlib.Data.Nat.Log
import Mathlib.Tactic.FieldSimp
import Mathlib.Tactic.LinearCombination
import Mathlib.Tactic.Linarith
import Mathlib.Tactic.Ring

/-! The digits of a number behind the point, in reverse.

Counting up by one carries through the last digits as long as they are the largest ones. Behind
the point the same happens to the first digits, so that the reversed number goes
up by one unit at the place of the carry and loses all places before it.
-/

set_option autoImplicit false

namespace RayTraceRenderer.RadicalInverse

variable {K : Type} [Field K]

def radicalInverse (b n : Nat) : K := Nat.ofDigits (b : K)⁻¹ (b.digits n) * (b : K)⁻¹

variable {b : Nat}

theorem radicalInverse_zero : (radicalInverse b 0 : K) = 0 := by simp [radicalInverse, Nat.ofDigits]

theorem radicalInverse_step (two : 2 ≤ b) (n : Nat) :
    (radicalInverse b n : K) = ((n % b : Nat) + radicalInverse b (n / b)) * (b : K)⁻¹ := by
  rcases Nat.eq_zero_or_pos n with rfl | positive
  · simp [radicalInverse_zero]
  · unfold radicalInverse
    rw [Nat.digits_def' two positive, Nat.ofDigits]
    ring

theorem radicalInverse_append (two : 2 ≤ b) {d : Nat} (digit : d < b) (n : Nat) :
    (radicalInverse b (b * n + d) : K) = (d + radicalInverse b n) * (b : K)⁻¹ := by
  have last : (b * n + d) % b = d := by rw [Nat.mul_add_mod, Nat.mod_eq_of_lt digit]
  have front : (b * n + d) / b = n := by
    rw [Nat.mul_add_div (by omega), Nat.div_eq_of_lt digit, Nat.add_zero]
  rw [radicalInverse_step two, last, front]

theorem radicalInverse_pow_mul (two : 2 ≤ b) (k m : Nat) :
    (radicalInverse b (b ^ k * m) : K) = (b : K)⁻¹ ^ k * radicalInverse b m := by
  induction k with
  | zero => simp
  | succ k ih =>
    have next : b ^ (k + 1) * m = b * (b ^ k * m) + 0 := by ring
    rw [next, radicalInverse_append two (by omega), ih]
    push_cast
    ring

section
variable [CharZero K]

theorem radicalInverse_pow_mul_pred (two : 2 ≤ b) (k : Nat) {m : Nat} (positive : 0 < m) :
    (radicalInverse b (b ^ k * m - 1) : K) = 1 - (b : K)⁻¹ ^ k + (b : K)⁻¹ ^ k * radicalInverse b (m - 1) := by
  have base : (b : K) ≠ 0 := Nat.cast_ne_zero.mpr (by omega)
  induction k with
  | zero => simp
  | succ k ih =>
    have rest : 0 < b ^ k * m := Nat.mul_pos (Nat.pow_pos (by omega)) positive
    have next : b ^ (k + 1) * m - 1 = b * (b ^ k * m - 1) + (b - 1) := by
      have whole : b * (b ^ k * m - 1) + b = b ^ (k + 1) * m := by
        rw [← Nat.mul_succ, Nat.succ_eq_add_one, Nat.sub_add_cancel rest]
        ring
      omega
    rw [next, radicalInverse_append two (by omega), ih, Nat.cast_sub (by omega)]
    push_cast
    linear_combination mul_inv_cancel₀ base

theorem radicalInverse_pred (two : 2 ≤ b) {m : Nat} (rough : ¬ b ∣ m) :
    (radicalInverse b m : K) = radicalInverse b (m - 1) + (b : K)⁻¹ := by
  have digit : 0 < m % b := Nat.pos_of_ne_zero fun zero => rough (Nat.dvd_of_mod_eq_zero zero)
  have whole := Nat.div_add_mod m b
  have below := Nat.mod_lt m (show b > 0 by omega)
  have before : m - 1 = b * (m / b) + (m % b - 1) := by omega
  rw [before, radicalInverse_append two (by omega), radicalInverse_step two m, Nat.cast_sub digit]
  push_cast
  ring

/-- One more: the carry goes through as many places as the next number has zeros at its end. -/
theorem radicalInverse_succ (two : 2 ≤ b) {n k m : Nat} (next : n + 1 = b ^ k * m) (rough : ¬ b ∣ m) :
    (radicalInverse b (n + 1) : K) = radicalInverse b n + (b : K)⁻¹ ^ k + (b : K)⁻¹ ^ (k + 1) - 1 := by
  have positive : 0 < m := Nat.pos_of_ne_zero fun zero => rough (zero ▸ Nat.dvd_zero b)
  have before : n = b ^ k * m - 1 := by omega
  rw [next, before, radicalInverse_pow_mul two, radicalInverse_pow_mul_pred two k positive, radicalInverse_pred two rough]
  ring

end

section
variable [LinearOrder K] [IsStrictOrderedRing K]

theorem inv_base_pos (two : 2 ≤ b) : (0 : K) < (b : K)⁻¹ := inv_pos.mpr (Nat.cast_pos.mpr (by omega))

theorem radicalInverse_nonneg (two : 2 ≤ b) (n : Nat) : (0 : K) ≤ radicalInverse b n := by
  induction n using Nat.strong_induction_on with
  | _ n ih =>
    rcases Nat.eq_zero_or_pos n with rfl | positive
    · exact radicalInverse_zero.ge
    · rw [radicalInverse_step two]
      have rest := ih (n / b) (Nat.div_lt_self positive two)
      exact mul_nonneg (add_nonneg (Nat.cast_nonneg _) rest) (inv_base_pos two).le

-- With so many digits there is a unit of the last place left below one.
theorem radicalInverse_le (two : 2 ≤ b) (digits : Nat) {n : Nat} (below : n < b ^ digits) :
    (radicalInverse b n : K) ≤ 1 - (b : K)⁻¹ ^ digits := by
  have base : (b : K) ≠ 0 := Nat.cast_ne_zero.mpr (by omega)
  induction digits generalizing n with
  | zero =>
    obtain rfl : n = 0 := by simpa using below
    simp [radicalInverse_zero]
  | succ digits ih =>
    have front : n / b < b ^ digits := Nat.div_lt_of_lt_mul (by rwa [Nat.pow_succ'] at below)
    have last : ((n % b : Nat) : K) + 1 ≤ b := by
      exact_mod_cast Nat.mod_lt n (show b > 0 by omega)
    calc (radicalInverse b n : K)
        = ((n % b : Nat) + radicalInverse b (n / b)) * (b : K)⁻¹ := radicalInverse_step two n
      _ ≤ (b - 1 + (1 - (b : K)⁻¹ ^ digits)) * (b : K)⁻¹ := by
        apply mul_le_mul_of_nonneg_right _ (inv_base_pos two).le
        linarith [ih front]
      _ = 1 - (b : K)⁻¹ ^ (digits + 1) := by linear_combination mul_inv_cancel₀ base

theorem radicalInverse_lt_one (two : 2 ≤ b) (n : Nat) : (radicalInverse b n : K) < 1 := by
  have bound : (radicalInverse b n : K) ≤ 1 - (b : K)⁻¹ ^ n := radicalInverse_le two n (Nat.lt_pow_self two)
  linarith [pow_pos (inv_base_pos (K := K) two) n]

/-- What a number leaves below the unit of its last place that is not zero is not less than the
inverse of the next power of the base. -/
theorem radicalInverse_gap (two : 2 ≤ b) {n k m : Nat} (factors : n = b ^ k * m) (positive : 0 < m) :
    ((b * n : Nat) : K)⁻¹ ≤ (b : K)⁻¹ ^ k - radicalInverse b n := by
  let digits := Nat.log b m
  have room : (radicalInverse b m : K) ≤ 1 - (b : K)⁻¹ ^ (digits + 1) :=
    radicalInverse_le two (digits + 1) (Nat.lt_pow_succ_log_self two m)
  have size : b ^ (k + (digits + 1)) ≤ b * n := by
    calc b ^ (k + (digits + 1)) = b * (b ^ k * b ^ digits) := by ring
      _ ≤ b * (b ^ k * m) :=
        Nat.mul_le_mul_left b (Nat.mul_le_mul_left (b ^ k) (Nat.pow_log_le_self b positive.ne'))
      _ = b * n := by rw [factors]
  have unit : ((b * n : Nat) : K)⁻¹ ≤ (b : K)⁻¹ ^ (k + (digits + 1)) := by
    rw [inv_pow]
    apply inv_anti₀ (pow_pos (Nat.cast_pos.mpr (by omega)) _)
    exact_mod_cast size
  rw [factors, radicalInverse_pow_mul two, ← factors]
  have scale := mul_le_mul_of_nonneg_left room (pow_pos (inv_base_pos (K := K) two) k).le
  rw [pow_add] at unit
  linarith

end

end RayTraceRenderer.RadicalInverse
