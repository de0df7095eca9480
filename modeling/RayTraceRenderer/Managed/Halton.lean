import Mathlib.RingTheory.Multiplicity
import Mathlib.Tactic.NormNum
import RayTraceRenderer.Foundation.RadicalInverse

/-! The classes Halton and HaltonTool: the tables of a Halton sequence.

Number reverses the digits of an index. Next knows the reversed number only, and looks for the place
of the carry by comparing powers of the inverse base with what is left up to one.
-/

set_option autoImplicit false

namespace RayTraceRenderer.Managed

open RadicalInverse

variable {K : Type} [Field K]

structure Halton (K : Type) where
  value : K
  invBase : K

namespace Halton

/-! ## The direct generator -/

def numberLoop (b : Nat) (two : 2 ≤ b) (invBase : K) (i : Nat) (f value : K) : K :=
  if 0 < i then numberLoop b two invBase (i / b) (f * invBase) (value + f * (i % b : Nat)) else value
termination_by i
decreasing_by exact Nat.div_lt_self ‹_› two

def number (i b : Nat) (two : 2 ≤ b) : Halton K where
  value := numberLoop b two (1 / (b : K)) i (1 / (b : K)) 0
  invBase := 1 / b

theorem numberLoop_eq {b : Nat} (two : 2 ≤ b) [CharZero K] (i : Nat) (f value : K) :
    numberLoop b two (1 / (b : K)) i f value = value + f * b * radicalInverse b i := by
  have base : (b : K) ≠ 0 := Nat.cast_ne_zero.mpr (by omega)
  induction i using Nat.strong_induction_on generalizing f value with
  | _ i ih =>
    unfold numberLoop
    split
    case isTrue positive =>
      rw [ih (i / b) (Nat.div_lt_self positive two), radicalInverse_step two i]
      field_simp
      ring
    case isFalse zero =>
      obtain rfl : i = 0 := by omega
      rw [radicalInverse_zero]
      ring

theorem number_eq {b : Nat} (two : 2 ≤ b) [CharZero K] (i : Nat) :
    (number i b two : Halton K) = ⟨radicalInverse b i, (b : K)⁻¹⟩ := by
  have base : (b : K) ≠ 0 := Nat.cast_ne_zero.mpr (by omega)
  unfold number
  rw [numberLoop_eq two, one_div, zero_add, inv_mul_cancel₀ base, one_mul]

/-! ## The incremental generator -/

variable [LinearOrder K]

/-- The loop `do { hh = h; h *= inv_base; } while (h >= r)`, with the last hh and h. -/
def nextLoop (invBase r : K) : Nat → K → Option (K × K)
  | 0, _ => none
  | fuel + 1, h =>
    let hh := h
    let h := h * invBase
    if r ≤ h then nextLoop invBase r fuel h else some (hh, h)

/-- No value means that the loop is still running. -/
def next (fuel : Nat) (s : Halton K) : Option (Halton K) := do
  let r := 1 - s.value - 1 / 10000000
  if s.invBase < r then
    return { s with value := s.value + s.invBase }
  else
    let (hh, h) ← nextLoop s.invBase r fuel s.invBase
    return { s with value := s.value + (hh + h - 1) }

/-- The first power whose successor is less than what is left. -/
def CarryPlace (invBase r : K) (i : Nat) : Prop :=
  invBase ^ (i + 1) < r ∧ ∀ j < i, r ≤ invBase ^ (j + 1)

theorem nextLoop_iff (invBase r : K) (start : Nat) (pair : K × K) :
    (∃ fuel, nextLoop invBase r fuel (invBase ^ start) = some pair) ↔
      ∃ i, start ≤ i ∧ invBase ^ (i + 1) < r ∧ (∀ j < i, start ≤ j → r ≤ invBase ^ (j + 1)) ∧
        pair = (invBase ^ i, invBase ^ (i + 1)) := by
  constructor
  · rintro ⟨fuel, exited⟩
    induction fuel generalizing start with
    | zero => simp [nextLoop] at exited
    | succ fuel ih =>
      simp only [nextLoop, ← pow_succ] at exited
      split at exited
      case isTrue again =>
        obtain ⟨i, later, less, before, same⟩ := ih (start + 1) exited
        refine ⟨i, by omega, less, fun j below after => ?_, same⟩
        rcases after.eq_or_lt with rfl | after
        · exact again
        · exact before j below after
      case isFalse done =>
        exact ⟨start, le_rfl, not_le.mp done, fun j below after => by omega, (Option.some.inj exited).symm⟩
  · rintro ⟨i, later, less, before, rfl⟩
    obtain ⟨rounds, rfl⟩ := Nat.exists_eq_add_of_le later
    refine ⟨rounds + 1, ?_⟩
    clear later
    induction rounds generalizing start with
    | zero => simp only [nextLoop, Nat.add_zero, ← pow_succ, if_neg (not_le.mpr less)]
    | succ rounds ih =>
      have again := before start (by omega) le_rfl
      rw [nextLoop]
      simp only [← pow_succ, if_pos again]
      have shift : start + (rounds + 1) = start + 1 + rounds := by omega
      rw [shift] at less before ⊢
      exact ih (start + 1) less fun j below after => before j below (by omega)

theorem carryPlace_of_lt {invBase r : K} (first : invBase < r) (i : Nat) : CarryPlace invBase r i ↔ i = 0 := by
  constructor
  · rintro ⟨_, before⟩
    by_contra later
    have again := before 0 (by omega)
    rw [zero_add, pow_one] at again
    exact absurd first (not_lt.mpr again)
  · rintro rfl
    exact ⟨by rwa [zero_add, pow_one], fun j below => absurd below (Nat.not_lt_zero j)⟩

theorem carryPlace_of_le {invBase r : K} (again : r ≤ invBase) (i : Nat) : CarryPlace invBase r i ↔
    1 ≤ i ∧ invBase ^ (i + 1) < r ∧ ∀ j < i, 1 ≤ j → r ≤ invBase ^ (j + 1) := by
  constructor
  · rintro ⟨less, before⟩
    refine ⟨Nat.one_le_iff_ne_zero.mpr ?_, less, fun j below _ => before j below⟩
    rintro rfl
    rw [zero_add, pow_one] at less
    exact absurd less (not_lt.mpr again)
  · rintro ⟨-, less, before⟩
    refine ⟨less, fun j below => ?_⟩
    cases j with
    | zero => rwa [zero_add, pow_one]
    | succ j => exact before (j + 1) below (Nat.succ_pos j)

/-- A step of the incremental generator. -/
theorem next_iff (s s' : Halton K) :
    (∃ fuel, next fuel s = some s') ↔
      ∃ i, CarryPlace s.invBase (1 - s.value - 1 / 10000000) i ∧
        s' = { s with value := s.value + (s.invBase ^ i + s.invBase ^ (i + 1) - 1) } := by
  unfold next
  rcases lt_or_ge s.invBase (1 - s.value - 1 / 10000000) with first | again
  · simp only [if_pos first, carryPlace_of_lt first, exists_eq_left, pow_zero, zero_add, pow_one,
      add_sub_cancel_left]
    constructor
    · rintro ⟨_, returned⟩
      exact (Option.some.inj returned).symm
    · rintro rfl
      exact ⟨0, rfl⟩
  · have places := nextLoop_iff s.invBase (1 - s.value - 1 / 10000000) 1
    rw [pow_one] at places
    simp only [if_neg (not_lt.mpr again), carryPlace_of_le again]
    constructor
    · rintro ⟨fuel, returned⟩
      obtain ⟨pair, exited, rest⟩ := Option.bind_eq_some_iff.mp returned
      obtain ⟨i, later, less, before, rfl⟩ := (places pair).mp ⟨fuel, exited⟩
      exact ⟨i, ⟨later, less, before⟩, (Option.some.inj rest).symm⟩
    · rintro ⟨i, ⟨later, less, before⟩, rfl⟩
      obtain ⟨fuel, exited⟩ := (places _).mpr ⟨i, later, less, before, rfl⟩
      exact ⟨fuel, Option.bind_eq_some_iff.mpr ⟨_, exited, rfl⟩⟩

/-! ## Both generators -/

variable [IsStrictOrderedRing K] {b : Nat}

theorem carry_strictAnti (two : 2 ≤ b) : StrictAnti fun i : Nat => (b : K)⁻¹ ^ i + (b : K)⁻¹ ^ (i + 1) := by
  have less : (b : K)⁻¹ < 1 := inv_lt_one_of_one_lt₀ (Nat.one_lt_cast.mpr two)
  intro i j below
  apply add_lt_add
  · exact pow_lt_pow_right_of_lt_one₀ (inv_base_pos two) less below
  · exact pow_lt_pow_right_of_lt_one₀ (inv_base_pos two) less (Nat.succ_lt_succ below)

-- The loop cannot stop before the carry is over: what is left is not more than a unit there.
theorem carryPlace_iff (two : 2 ≤ b) {n k m : Nat} (successor : n + 1 = b ^ k * m) (rough : ¬ b ∣ m) :
    CarryPlace (b : K)⁻¹ (1 - radicalInverse b n - 1 / 10000000) k ↔
      radicalInverse b (n + 1) + 1 / 10000000 < (b : K)⁻¹ ^ k := by
  have counted : (radicalInverse b (n + 1) : K) = _ := radicalInverse_succ two successor rough
  have slack : (0 : K) < 1 / 10000000 := by norm_num
  constructor
  · intro place
    linarith [place.1]
  · intro room
    refine ⟨by linarith, fun j below => ?_⟩
    have less : (b : K)⁻¹ ≤ 1 := (inv_lt_one_of_one_lt₀ (Nat.one_lt_cast.mpr two)).le
    have unit : (b : K)⁻¹ ^ k ≤ (b : K)⁻¹ ^ (j + 1) := pow_le_pow_of_le_one (inv_base_pos two).le less below
    have digit : (radicalInverse b m : K) = _ := radicalInverse_pred two rough
    have after : (b : K)⁻¹ ^ (k + 1) ≤ radicalInverse b (n + 1) := by
      rw [successor, radicalInverse_pow_mul two, pow_succ]
      apply mul_le_mul_of_nonneg_left _ (pow_pos (inv_base_pos two) k).le
      rw [digit]
      linarith [radicalInverse_nonneg (K := K) two (m - 1)]
    linarith

theorem next_number (two : 2 ≤ b) {n k m : Nat} (successor : n + 1 = b ^ k * m) (rough : ¬ b ∣ m) :
    (∃ fuel, next fuel (number n b two : Halton K) = some (number (n + 1) b two)) ↔
      radicalInverse b (n + 1) + 1 / 10000000 < (b : K)⁻¹ ^ k := by
  have counted : (radicalInverse b (n + 1) : K) = _ := radicalInverse_succ two successor rough
  rw [← carryPlace_iff two successor rough, next_iff, number_eq two, number_eq two]
  constructor
  · rintro ⟨i, place, same⟩
    have values := congrArg Halton.value same
    have places : (b : K)⁻¹ ^ i + (b : K)⁻¹ ^ (i + 1) = (b : K)⁻¹ ^ k + (b : K)⁻¹ ^ (k + 1) := by
      simp only at values
      linarith
    rwa [(carry_strictAnti (K := K) two).injective places] at place
  · intro place
    refine ⟨k, place, ?_⟩
    rw [counted]
    ring_nf

theorem next_number_of_lt (two : 2 ≤ b) {n : Nat} (small : b * (n + 1) < 10000000) :
    ∃ fuel, next fuel (number n b two : Halton K) = some (number (n + 1) b two) := by
  obtain ⟨m, factors, rough⟩ :=
    (Nat.finiteMultiplicity_iff.mpr ⟨show b ≠ 1 by omega, n.succ_pos⟩).exists_eq_pow_mul_and_not_dvd
  rw [next_number two factors rough]
  have positive : 0 < m := Nat.pos_of_ne_zero fun zero => rough (zero ▸ Nat.dvd_zero b)
  have gap := radicalInverse_gap (K := K) two factors positive
  have slack : (1 / 10000000 : K) < ((b * (n + 1) : Nat) : K)⁻¹ := by
    rw [one_div]
    apply inv_strictAnti₀ (Nat.cast_pos.mpr (Nat.mul_pos (by omega) n.succ_pos))
    exact_mod_cast small
  linarith

/-- The incremental generator agrees with the direct one where the slack does not swallow what is
left below a unit at the place of the carry. -/
theorem next_number_iff (two : 2 ≤ b) (n : Nat) :
    (number (n + 1) b two : Halton K).value = radicalInverse b (n + 1) ∧
      0 ≤ (number (n + 1) b two : Halton K).value ∧ (number (n + 1) b two : Halton K).value < 1 ∧
      ((∃ fuel, next fuel (number n b two : Halton K) = some (number (n + 1) b two)) ↔
        radicalInverse b (n + 1) + 1 / 10000000 < (b : K)⁻¹ ^ multiplicity b (n + 1)) ∧
      (b * (n + 1) < 10000000 →
        ∃ fuel, next fuel (number n b two : Halton K) = some (number (n + 1) b two)) := by
  have value : (number (n + 1) b two : Halton K).value = radicalInverse b (n + 1) :=
    congrArg Halton.value (number_eq two (n + 1))
  obtain ⟨m, factors, rough⟩ :=
    (Nat.finiteMultiplicity_iff.mpr ⟨show b ≠ 1 by omega, n.succ_pos⟩).exists_eq_pow_mul_and_not_dvd
  refine ⟨value, ?_, ?_, next_number two factors rough, next_number_of_lt two⟩
  · rw [value]
    exact radicalInverse_nonneg two (n + 1)
  · rw [value]
    exact radicalInverse_lt_one two (n + 1)

theorem next_number_carry : (number 4 2 (by decide) : Halton Rat).value = radicalInverse 2 4 ∧
    ∃ fuel, next fuel (number 3 2 (by decide) : Halton Rat) = some (number 4 2 (by decide)) := by
  obtain ⟨value, _, _, _, small⟩ := next_number_iff (K := Rat) (b := 2) (by decide) 3
  exact ⟨value, small (by decide)⟩

-- Before 2 ^ 24 the digits leave less than the slack, and no power is below what is left.
theorem next_endless : ¬ ∃ fuel s', next fuel (number (2 ^ 24 - 1) 2 (by decide) : Halton Rat) = some s' := by
  rintro ⟨fuel, s', returned⟩
  obtain ⟨i, place, _⟩ := (next_iff _ _).mp ⟨fuel, returned⟩
  have digits := radicalInverse_pow_mul_pred (K := Rat) (b := 2) le_rfl 24 Nat.one_pos
  have less := place.1
  rw [number_eq, ← Nat.mul_one (2 ^ 24), digits, Nat.sub_self, radicalInverse_zero] at less
  norm_num at less
  have power : (0 : Rat) < (1 / 2) ^ (i + 1) := by positivity
  linarith

end Halton

/-! ## The tables -/

namespace HaltonTool

open Halton

variable [LinearOrder K]

def fill (fuel : Nat) : Nat → Halton K → Option (List K)
  | 0, _ => some []
  | num + 1, halton => do
    let after ← halton.next fuel
    return halton.value :: (← fill fuel num after)

def haltonNum : Nat := 2000

def initHaltonSequence (fuel : Nat) : Option (List K × List K × List K) := do
  let halton2 ← fill fuel haltonNum (number 0 2 (by decide))
  let halton3 ← fill fuel haltonNum (number 0 3 (by decide))
  let halton5 ← fill fuel haltonNum (number 0 5 (by decide))
  return (halton2, halton3, halton5)

theorem nextLoop_mono {invBase r h : K} {pair : K × K} {fuel more : Nat} (enough : fuel ≤ more)
    (exited : nextLoop invBase r fuel h = some pair) : nextLoop invBase r more h = some pair := by
  induction fuel generalizing more h with
  | zero => simp [nextLoop] at exited
  | succ fuel ih =>
    obtain ⟨rest, rfl⟩ := Nat.exists_eq_add_of_le' (Nat.one_le_of_lt enough)
    simp only [nextLoop] at exited ⊢
    split
    case isTrue again =>
      rw [if_pos again] at exited
      exact ih (Nat.le_of_succ_le_succ enough) exited
    case isFalse done => rwa [if_neg done] at exited

theorem next_mono {s s' : Halton K} {fuel more : Nat} (enough : fuel ≤ more)
    (returned : s.next fuel = some s') : s.next more = some s' := by
  unfold next at returned ⊢
  simp only at returned ⊢
  split
  case isTrue first => rwa [if_pos first] at returned
  case isFalse later =>
    rw [if_neg later] at returned
    obtain ⟨pair, exited, rest⟩ := Option.bind_eq_some_iff.mp returned
    exact Option.bind_eq_some_iff.mpr ⟨pair, nextLoop_mono enough exited, rest⟩

theorem fill_mono {s : Halton K} {table : List K} {num fuel more : Nat} (enough : fuel ≤ more)
    (filled : fill fuel num s = some table) : fill more num s = some table := by
  induction num generalizing s table with
  | zero => exact filled
  | succ num ih =>
    obtain ⟨after, returned, filled⟩ := Option.bind_eq_some_iff.mp filled
    obtain ⟨rest, filled, same⟩ := Option.bind_eq_some_iff.mp filled
    apply Option.bind_eq_some_iff.mpr
    refine ⟨after, next_mono enough returned, ?_⟩
    exact Option.bind_eq_some_iff.mpr ⟨rest, ih filled, same⟩

variable [IsStrictOrderedRing K] {b : Nat}

theorem fill_number (two : 2 ≤ b) (n num : Nat) (small : b * (n + num) < 10000000) :
    ∃ fuel, fill fuel num (number n b two : Halton K) = some ((List.range' n num).map (radicalInverse b)) := by
  induction num generalizing n with
  | zero => exact ⟨0, rfl⟩
  | succ num ih =>
    have first : b * (n + 1) ≤ b * (n + (num + 1)) := Nat.mul_le_mul_left b (by omega)
    obtain ⟨fuel, returned⟩ := next_number_of_lt (K := K) two (Nat.lt_of_le_of_lt first small)
    obtain ⟨others, filled⟩ := ih (n + 1) (by rwa [Nat.add_assoc, Nat.add_comm 1 num])
    refine ⟨max fuel others, ?_⟩
    unfold fill
    rw [next_mono (Nat.le_max_left fuel others) returned, Option.bind_eq_bind, Option.bind_some,
      fill_mono (Nat.le_max_right fuel others) filled, number_eq two]
    rfl

/-- The tables hold the radical inverses of their indices. -/
theorem initHaltonSequence_eq : ∃ fuel, initHaltonSequence (K := K) fuel =
    some ((List.range haltonNum).map (radicalInverse 2), (List.range haltonNum).map (radicalInverse 3),
      (List.range haltonNum).map (radicalInverse 5)) := by
  obtain ⟨fuel2, filled2⟩ := fill_number (K := K) (b := 2) (by decide) 0 haltonNum (by decide)
  obtain ⟨fuel3, filled3⟩ := fill_number (K := K) (b := 3) (by decide) 0 haltonNum (by decide)
  obtain ⟨fuel5, filled5⟩ := fill_number (K := K) (b := 5) (by decide) 0 haltonNum (by decide)
  refine ⟨fuel2 + fuel3 + fuel5, ?_⟩
  unfold initHaltonSequence
  rw [fill_mono (by omega) filled2, fill_mono (by omega) filled3, fill_mono (by omega) filled5]
  simp only [List.range_eq_range']
  rfl

end HaltonTool

end RayTraceRenderer.Managed
