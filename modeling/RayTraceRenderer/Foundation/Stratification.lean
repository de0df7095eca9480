import Mathlib.Data.Nat.ChineseRemainder
import RayTraceRenderer.Foundation.RadicalInverse

/-! Reversed numbers fill the unit interval evenly.

The first digits behind the point are the last digits of the number. Numbers that follow each other
therefore go through all cells of one width before they come back to a cell, and bases without a
common factor do so independently of each other.
-/

set_option autoImplicit false

namespace RayTraceRenderer.RadicalInverse

open scoped Function

variable {K : Type} [Field K] {b : Nat}

def reversed (b : Nat) : Nat → Nat → Nat
  | 0, _ => 0
  | k + 1, n => n % b * b ^ k + reversed b k (n / b)

theorem reversed_succ (k n : Nat) : reversed b (k + 1) n = n % b * b ^ k + reversed b k (n / b) := rfl

theorem reversed_lt (two : 2 ≤ b) (k n : Nat) : reversed b k n < b ^ k := by
  induction k generalizing n with
  | zero => exact Nat.one_pos
  | succ k ih =>
    have digit : n % b + 1 ≤ b := Nat.mod_lt n (by omega)
    calc reversed b (k + 1) n
        < n % b * b ^ k + b ^ k := Nat.add_lt_add_left (ih (n / b)) _
      _ = (n % b + 1) * b ^ k := (Nat.succ_mul _ _).symm
      _ ≤ b * b ^ k := Nat.mul_le_mul_right _ digit
      _ = b ^ (k + 1) := (Nat.pow_succ').symm

theorem reversed_eq_iff (two : 2 ≤ b) (k n m : Nat) : reversed b k n = reversed b k m ↔ n ≡ m [MOD b ^ k] := by
  induction k generalizing n m with
  | zero => simp [reversed, Nat.modEq_one]
  | succ k ih =>
    have low := reversed_lt two k (n / b)
    have low' := reversed_lt two k (m / b)
    have parts : reversed b (k + 1) n = reversed b (k + 1) m ↔
        n % b = m % b ∧ reversed b k (n / b) = reversed b k (m / b) := by
      rw [reversed_succ, reversed_succ]
      constructor
      · intro same
        have front := congrArg (fun value => value / b ^ k) same
        simp only [Nat.mul_comm _ (b ^ k), Nat.mul_add_div (Nat.zero_lt_of_lt low), Nat.div_eq_of_lt low,
          Nat.div_eq_of_lt low', Nat.add_zero] at front
        rw [front] at same
        exact ⟨front, Nat.add_left_cancel same⟩
      · rintro ⟨front, rest⟩
        rw [front, rest]
    rw [parts, ih, Nat.ModEq, Nat.ModEq, Nat.pow_succ', Nat.mod_mul, Nat.mod_mul]
    constructor
    · rintro ⟨last, front⟩
      rw [last, front]
    · intro same
      have last := congrArg (fun value => value % b) same
      simp only [Nat.add_mul_mod_self_left, Nat.mod_mod] at last
      rw [last] at same
      exact ⟨last, Nat.eq_of_mul_eq_mul_left (by omega) (Nat.add_left_cancel same)⟩

theorem exists_reversed (two : 2 ≤ b) (k : Nat) {j : Nat} (below : j < b ^ k) : ∃ n, reversed b k n = j := by
  induction k generalizing j with
  | zero => exact ⟨0, (Nat.lt_one_iff.mp below).symm⟩
  | succ k ih =>
    have unit : 0 < b ^ k := Nat.pow_pos (by omega)
    obtain ⟨front, rest⟩ := ih (Nat.mod_lt j unit)
    have digit : j / b ^ k < b := Nat.div_lt_of_lt_mul (by rwa [Nat.pow_succ] at below)
    refine ⟨b * front + j / b ^ k, ?_⟩
    rw [reversed_succ, Nat.mul_add_mod, Nat.mod_eq_of_lt digit, Nat.mul_add_div (by omega), Nat.div_eq_of_lt digit, Nat.add_zero, rest]
    exact Nat.div_add_mod' j (b ^ k)

section
variable [CharZero K]

-- In front stand the reversed digits, behind them what the rest of the number leaves.
theorem radicalInverse_split (two : 2 ≤ b) (k n : Nat) :
    (radicalInverse b n : K) = (reversed b k n + radicalInverse b (n / b ^ k)) * (b : K)⁻¹ ^ k := by
  have base : (b : K) ≠ 0 := Nat.cast_ne_zero.mpr (by omega)
  induction k generalizing n with
  | zero => simp [reversed]
  | succ k ih =>
    have unit : (b : K) ^ k * (b : K)⁻¹ ^ k = 1 := by rw [← mul_pow, mul_inv_cancel₀ base, one_pow]
    rw [radicalInverse_step two, ih (n / b), Nat.div_div_eq_div_mul, ← Nat.pow_succ', reversed_succ]
    push_cast
    linear_combination -((n % b : Nat) : K) * (b : K)⁻¹ * unit

end

section
variable [LinearOrder K] [IsStrictOrderedRing K]

/-- The cells are as wide as a unit of the last of so many places. -/
def InCell (b k j : Nat) (value : K) : Prop := j * (b : K)⁻¹ ^ k ≤ value ∧ value < (j + 1) * (b : K)⁻¹ ^ k

theorem inCell_iff (two : 2 ≤ b) (k j n : Nat) : InCell b k j (radicalInverse b n : K) ↔ reversed b k n = j := by
  have width : (0 : K) < (b : K)⁻¹ ^ k := pow_pos (inv_base_pos two) k
  have least : (0 : K) ≤ radicalInverse b (n / b ^ k) := radicalInverse_nonneg two _
  have less : (radicalInverse b (n / b ^ k) : K) < 1 := radicalInverse_lt_one two _
  unfold InCell
  rw [radicalInverse_split two k n, mul_le_mul_iff_left₀ width, mul_lt_mul_iff_left₀ width]
  constructor
  · rintro ⟨lower, upper⟩
    have above : (j : K) < reversed b k n + 1 := by linarith
    have below : (reversed b k n : K) < j + 1 := by linarith
    have above : j < reversed b k n + 1 := by exact_mod_cast above
    have below : reversed b k n < j + 1 := by exact_mod_cast below
    omega
  · intro same
    rw [same]
    exact ⟨by linarith, by linarith⟩

theorem exists_inCell_iff (two : 2 ≤ b) (k : Nat) {j : Nat} (below : j < b ^ k) :
    ∃ r, ∀ n, InCell b k j (radicalInverse b n : K) ↔ n ≡ r [MOD b ^ k] := by
  obtain ⟨r, same⟩ := exists_reversed two k below
  refine ⟨r, fun n => ?_⟩
  rw [inCell_iff two, ← same, reversed_eq_iff two]

end

theorem existsUnique_modEq {N : Nat} (positive : 0 < N) (start r : Nat) :
    ∃! n, (start ≤ n ∧ n < start + N) ∧ n ≡ r [MOD N] := by
  have short := Nat.mod_lt (r + (N - 1) * start) positive
  have whole : start + (r + (N - 1) * start) = r + N * start := by
    obtain ⟨M, rfl⟩ : ∃ M, N = M + 1 := ⟨N - 1, by omega⟩
    rw [Nat.add_sub_cancel]
    ring
  have leaves : start + (r + (N - 1) * start) % N ≡ r [MOD N] :=
    calc start + (r + (N - 1) * start) % N
        ≡ start + (r + (N - 1) * start) [MOD N] := (Nat.mod_modEq _ _).add_left start
      _ ≡ r + N * start [MOD N] := by rw [whole]
      _ ≡ r [MOD N] := by simp [Nat.ModEq]
  refine ⟨start + (r + (N - 1) * start) % N, ⟨⟨Nat.le_add_right _ _, by omega⟩, leaves⟩, ?_⟩
  rintro n ⟨⟨first, last⟩, leaves'⟩
  obtain ⟨d, rfl⟩ := Nat.exists_eq_add_of_le first
  have same : d ≡ (r + (N - 1) * start) % N [MOD N] := Nat.ModEq.add_left_cancel' start (leaves'.trans leaves.symm)
  rw [same.eq_of_lt_of_lt (by omega) short]

/-- A base with a number of places, and a cell of that width. -/
structure Axis where
  base : Nat
  places : Nat
  cell : Nat

def Axis.cells (axis : Axis) : Nat := axis.base ^ axis.places

variable [LinearOrder K] [IsStrictOrderedRing K]

/-- Of as many numbers in a row as there are boxes one falls into a given box. -/
theorem existsUnique_box (axes : List Axis) (coprime : axes.Pairwise (Nat.Coprime on Axis.cells))
    (inside : ∀ axis ∈ axes, 2 ≤ axis.base ∧ axis.cell < axis.cells) (start : Nat) :
    ∃! n, (start ≤ n ∧ n < start + (axes.map Axis.cells).prod) ∧
      ∀ axis ∈ axes, InCell axis.base axis.places axis.cell (radicalInverse axis.base n : K) := by
  have leaves : ∀ axis : Axis, ∃ r, axis ∈ axes → ∀ n,
      InCell axis.base axis.places axis.cell (radicalInverse axis.base n : K) ↔ n ≡ r [MOD axis.cells] := by
    intro axis
    by_cases member : axis ∈ axes
    · obtain ⟨two, below⟩ := inside axis member
      obtain ⟨r, hit⟩ := exists_inCell_iff (K := K) two axis.places below
      exact ⟨r, fun _ => hit⟩
    · exact ⟨0, fun member' => absurd member' member⟩
  choose remainder hit using leaves
  have positive : 0 < (axes.map Axis.cells).prod := by
    apply Nat.pos_of_ne_zero
    intro zero
    obtain ⟨axis, listed, none⟩ := List.mem_map.mp (List.prod_eq_zero_iff.mp zero)
    have below := (inside axis listed).2
    omega
  let common := Nat.chineseRemainderOfList remainder Axis.cells axes coprime
  obtain ⟨n, ⟨row, leaves⟩, unique⟩ := existsUnique_modEq positive start common
  refine ⟨n, ⟨row, fun axis member => ?_⟩, ?_⟩
  · rw [hit axis member]
    exact ((Nat.modEq_list_map_prod_iff coprime).mp leaves axis member).trans (common.prop axis member)
  · rintro m ⟨row', inBox⟩
    apply unique m ⟨row', ?_⟩
    apply Nat.chineseRemainderOfList_modEq_unique
    intro axis member
    exact (hit axis member m).mp (inBox axis member)

end RayTraceRenderer.RadicalInverse
