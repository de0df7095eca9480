import Mathlib.Algebra.Order.Field.Basic
import Mathlib.Algebra.Order.Floor.Defs
import Mathlib.Algebra.Order.Round
import Mathlib.Tactic.LinearCombination
import Mathlib.Tactic.Linarith
import Mathlib.Tactic.NormNum
import Mathlib.Tactic.Ring

/-! Unity's vectors, quaternions and scalar functions, in exact arithmetic.

A C# float is an element of an ordered field. The transcendental functions are a
parameter. `v * s` and `s * v` of the source are both written `s • v`.
-/

set_option autoImplicit false

namespace RayTraceRenderer.Unity

-- The literals of the definitions. With an instance for each, a literal is the same term
-- whatever else is imported.
instance atLeastTwo_two : Nat.AtLeastTwo 2 := ⟨by decide⟩
instance atLeastTwo_four : Nat.AtLeastTwo 4 := ⟨by decide⟩
instance atLeastTwo_nine : Nat.AtLeastTwo 9 := ⟨by decide⟩
instance atLeastTwo_ten : Nat.AtLeastTwo 10 := ⟨by decide⟩
instance atLeastTwo_twentyFour : Nat.AtLeastTwo 24 := ⟨by decide⟩
instance atLeastTwo_fiftyFive : Nat.AtLeastTwo 55 := ⟨by decide⟩
instance atLeastTwo_ninetyNine : Nat.AtLeastTwo 99 := ⟨by decide⟩
instance atLeastTwo_hundred : Nat.AtLeastTwo 100 := ⟨by decide⟩
instance atLeastTwo_oneEighty : Nat.AtLeastTwo 180 := ⟨by decide⟩
instance atLeastTwo_maxByte : Nat.AtLeastTwo 255 := ⟨by decide⟩
instance atLeastTwo_threeSixty : Nat.AtLeastTwo 360 := ⟨by decide⟩
instance atLeastTwo_thousand : Nat.AtLeastTwo 1000 := ⟨by decide⟩
instance atLeastTwo_linearSlope : Nat.AtLeastTwo 1292 := ⟨by decide⟩
instance atLeastTwo_gammaScale : Nat.AtLeastTwo 1055 := ⟨by decide⟩
instance atLeastTwo_gammaThreshold : Nat.AtLeastTwo 4045 := ⟨by decide⟩
instance atLeastTwo_shininess : Nat.AtLeastTwo 8192 := ⟨by decide⟩
instance atLeastTwo_hundredThousand : Nat.AtLeastTwo 100000 := ⟨by decide⟩
instance atLeastTwo_tenMillion : Nat.AtLeastTwo 10000000 := ⟨by decide⟩
instance atLeastTwo_piDigits : Nat.AtLeastTwo 31415926 := ⟨by decide⟩

/-- The functions of UnityEngine.Mathf that field arithmetic does not give. -/
class Mathf (K : Type) where
  sqrt : K → K
  sin : K → K
  cos : K → K
  acos : K → K
  pow : K → K → K
  pi : K
  gammaToLinearSpace : K → K

variable {K : Type} [Field K]

section
variable [LinearOrder K]

def Mathf.clamp01 (value : K) : K := if value < 0 then 0 else if 1 < value then 1 else value

def Mathf.lerp (a b t : K) : K := a + (b - a) * clamp01 t

def Mathf.lerpUnclamped (a b t : K) : K := a + (b - a) * t

/-- The C# cast from float to int: toward zero, and the x64 indefinite value out of range. -/
def castInt [FloorRing K] (value : K) : Int :=
  let truncated := if 0 ≤ value then ⌊value⌋ else ⌈value⌉
  if -2 ^ 31 ≤ truncated ∧ truncated < 2 ^ 31 then truncated else -2 ^ 31

section
variable [IsStrictOrderedRing K]

theorem Mathf.clamp01_mem (value : K) : 0 ≤ clamp01 value ∧ clamp01 value ≤ 1 := by
  unfold clamp01
  split
  · exact ⟨le_rfl, zero_le_one⟩
  next nonneg =>
    split
    · exact ⟨zero_le_one, le_rfl⟩
    next le_one => exact ⟨not_lt.mp nonneg, not_lt.mp le_one⟩

theorem Mathf.clamp01_of_nonpos {value : K} (nonpos : value ≤ 0) : clamp01 value = 0 := by
  unfold clamp01
  split
  · rfl
  next nonneg =>
    rw [if_neg (not_lt.mpr (nonpos.trans zero_le_one))]
    exact le_antisymm nonpos (not_lt.mp nonneg)

omit [IsStrictOrderedRing K] in
theorem castInt_of_fits [FloorRing K] {value : K} (nonneg : 0 ≤ value) (fits : value < 2 ^ 31) :
    castInt value = ⌊value⌋ := by
  have lower : 0 ≤ ⌊value⌋ := Int.floor_nonneg.mpr nonneg
  have upper : ⌊value⌋ < 2 ^ 31 := by
    rw [Int.floor_lt]
    exact_mod_cast fits
  unfold castInt
  rw [if_pos nonneg]
  exact if_pos ⟨by omega, upper⟩

omit [IsStrictOrderedRing K] in
-- A result other than the indefinite one is the truncated value.
theorem castInt_eq_iff [FloorRing K] {value : K} {result : Int} (lower : -2 ^ 31 < result) (upper : result < 2 ^ 31) :
    castInt value = result ↔ (if 0 ≤ value then ⌊value⌋ else ⌈value⌉) = result := by
  unfold castInt
  generalize (if 0 ≤ value then ⌊value⌋ else ⌈value⌉) = truncated
  simp only
  split <;> omega

theorem castInt_eq_zero_iff [FloorRing K] {value : K} : castInt value = 0 ↔ -1 < value ∧ value < 1 := by
  rw [castInt_eq_iff (by decide) (by decide)]
  split
  next nonneg =>
    rw [Int.floor_eq_iff, Int.cast_zero, zero_add]
    constructor
    · rintro ⟨-, small⟩
      exact ⟨by linarith, small⟩
    · rintro ⟨-, small⟩
      exact ⟨nonneg, small⟩
  next negative =>
    rw [Int.ceil_eq_iff, Int.cast_zero, zero_sub]
    have below : value < 0 := not_le.mp negative
    constructor
    · rintro ⟨large, -⟩
      exact ⟨large, by linarith⟩
    · rintro ⟨large, -⟩
      exact ⟨large, below.le⟩

omit [IsStrictOrderedRing K] in
theorem castInt_nonpos [FloorRing K] {value : K} (small : value < 1) : castInt value ≤ 0 := by
  have nonpos : (if 0 ≤ value then ⌊value⌋ else ⌈value⌉) ≤ 0 := by
    split
    next nonneg =>
      have floor : ⌊value⌋ < 1 := Int.floor_lt.mpr (by exact_mod_cast small)
      omega
    next negative =>
      exact Int.ceil_le.mpr (by simpa using (not_le.mp negative).le)
  unfold castInt
  generalize (if 0 ≤ value then ⌊value⌋ else ⌈value⌉) = truncated at nonpos ⊢
  simp only
  split <;> omega

theorem castInt_eq_zero_or_one [FloorRing K] {value : K} (large : -1 < value) (small : value < 2) :
    castInt value = 0 ∨ castInt value = 1 := by
  rcases lt_or_ge value 1 with less | more
  · exact .inl (castInt_eq_zero_iff.mpr ⟨large, less⟩)
  · right
    rw [castInt_eq_iff (by decide) (by decide), if_pos (zero_le_one.trans more), Int.floor_eq_iff]
    constructor
    · exact_mod_cast more
    · rw [Int.cast_one]
      linarith

theorem castInt_eq_neg_iff [FloorRing K] {value : K} {n : Nat} (positive : 0 < n) (fits : n < 2 ^ 31) :
    castInt value = -n ↔ -((n : K) + 1) < value ∧ value ≤ -n := by
  have count : (0 : K) < n := Nat.cast_pos.mpr positive
  rw [castInt_eq_iff (by omega) (by omega)]
  split
  next nonneg =>
    have floor : 0 ≤ ⌊value⌋ := Int.floor_nonneg.mpr nonneg
    constructor
    · intro same
      omega
    · rintro ⟨-, below⟩
      linarith
  next negative =>
    rw [Int.ceil_eq_iff]
    push_cast
    constructor
    · rintro ⟨large, below⟩
      exact ⟨by linarith, below⟩
    · rintro ⟨large, below⟩
      exact ⟨by linarith, below⟩

end

end

/-- Rational functions that agree with the real ones at 0 and 1, for scenes that need no others. -/
@[reducible] def Mathf.atUnits : Mathf Rat where
  sqrt value := value
  sin _ := 0
  cos _ := 1
  acos value := 1 - value
  pow _ _ := 1
  pi := 355 / 113
  gammaToLinearSpace value := value

def Mathf.deg2Rad [Mathf K] : K := Mathf.pi * 2 / 360

def Mathf.tan [Mathf K] (value : K) : K := Mathf.sin value / Mathf.cos value

/-- Int32 arithmetic wraps. -/
def wrap32 (value : Int) : Int := (value + 2 ^ 31) % 2 ^ 32 - 2 ^ 31

theorem wrap32_of_fits {value : Int} (lower : -2 ^ 31 ≤ value) (upper : value < 2 ^ 31) :
    wrap32 value = value := by
  unfold wrap32
  omega

theorem wrap32_natCast {n : Nat} (fits : n < 2 ^ 31) : wrap32 n = n := wrap32_of_fits (by omega) (by omega)

theorem wrap32_eq_zero_iff {value : Int} (lower : -2 ^ 32 < value) (upper : value < 2 ^ 32) :
    wrap32 value = 0 ↔ value = 0 := by
  unfold wrap32
  omega

@[ext] structure Vector2 (K : Type) where
  x : K
  y : K
  deriving DecidableEq, Repr

@[ext] structure Vector3 (K : Type) where
  x : K
  y : K
  z : K
  deriving DecidableEq, Repr

namespace Vector2

instance : Add (Vector2 K) := ⟨fun a b => ⟨a.x + b.x, a.y + b.y⟩⟩
instance : SMul K (Vector2 K) := ⟨fun s a => ⟨s * a.x, s * a.y⟩⟩

@[simp] theorem add_x (a b : Vector2 K) : (a + b).x = a.x + b.x := rfl
@[simp] theorem add_y (a b : Vector2 K) : (a + b).y = a.y + b.y := rfl
@[simp] theorem smul_x (s : K) (a : Vector2 K) : (s • a).x = s * a.x := rfl
@[simp] theorem smul_y (s : K) (a : Vector2 K) : (s • a).y = s * a.y := rfl

def scale (a b : Vector2 K) : Vector2 K := ⟨a.x * b.x, a.y * b.y⟩

end Vector2

namespace Vector3

instance : Zero (Vector3 K) := ⟨⟨0, 0, 0⟩⟩
instance : Add (Vector3 K) := ⟨fun a b => ⟨a.x + b.x, a.y + b.y, a.z + b.z⟩⟩
instance : Sub (Vector3 K) := ⟨fun a b => ⟨a.x - b.x, a.y - b.y, a.z - b.z⟩⟩
instance : Neg (Vector3 K) := ⟨fun a => ⟨-a.x, -a.y, -a.z⟩⟩
instance : SMul K (Vector3 K) := ⟨fun s a => ⟨s * a.x, s * a.y, s * a.z⟩⟩

@[simp] theorem zero_x : (0 : Vector3 K).x = 0 := rfl
@[simp] theorem zero_y : (0 : Vector3 K).y = 0 := rfl
@[simp] theorem zero_z : (0 : Vector3 K).z = 0 := rfl
@[simp] theorem add_x (a b : Vector3 K) : (a + b).x = a.x + b.x := rfl
@[simp] theorem add_y (a b : Vector3 K) : (a + b).y = a.y + b.y := rfl
@[simp] theorem add_z (a b : Vector3 K) : (a + b).z = a.z + b.z := rfl
@[simp] theorem sub_x (a b : Vector3 K) : (a - b).x = a.x - b.x := rfl
@[simp] theorem sub_y (a b : Vector3 K) : (a - b).y = a.y - b.y := rfl
@[simp] theorem sub_z (a b : Vector3 K) : (a - b).z = a.z - b.z := rfl
@[simp] theorem neg_x (a : Vector3 K) : (-a).x = -a.x := rfl
@[simp] theorem neg_y (a : Vector3 K) : (-a).y = -a.y := rfl
@[simp] theorem neg_z (a : Vector3 K) : (-a).z = -a.z := rfl
@[simp] theorem smul_x (s : K) (a : Vector3 K) : (s • a).x = s * a.x := rfl
@[simp] theorem smul_y (s : K) (a : Vector3 K) : (s • a).y = s * a.y := rfl
@[simp] theorem smul_z (s : K) (a : Vector3 K) : (s • a).z = s * a.z := rfl

def up : Vector3 K := ⟨0, 1, 0⟩
def left : Vector3 K := ⟨-1, 0, 0⟩

def scale (a b : Vector3 K) : Vector3 K := ⟨a.x * b.x, a.y * b.y, a.z * b.z⟩

def dot (a b : Vector3 K) : K := a.x * b.x + a.y * b.y + a.z * b.z

def cross (a b : Vector3 K) : Vector3 K :=
  ⟨a.y * b.z - a.z * b.y, a.z * b.x - a.x * b.z, a.x * b.y - a.y * b.x⟩

def sqrMagnitude (a : Vector3 K) : K := a.dot a

def magnitude [Mathf K] (a : Vector3 K) : K := Mathf.sqrt a.sqrMagnitude

/-- Too short a vector becomes the zero vector. -/
def normalized [LinearOrder K] [Mathf K] (a : Vector3 K) : Vector3 K :=
  if 1 / 100000 < a.magnitude then a.magnitude⁻¹ • a else 0

def reflect (inDirection inNormal : Vector3 K) : Vector3 K :=
  (-2 * inNormal.dot inDirection) • inNormal + inDirection

def lerp [LinearOrder K] (a b : Vector3 K) (t : K) : Vector3 K := a + Mathf.clamp01 t • (b - a)

theorem add_smul_reaim (org dir : Vector3 K) (start step t : K) :
    org + start • dir + t • step • dir = org + (start + step * t) • dir := by
  ext <;> simp <;> ring

theorem one_smul (a : Vector3 K) : (1 : K) • a = a := by ext <;> simp

theorem smul_smul (r s : K) (a : Vector3 K) : r • s • a = (r * s) • a := by ext <;> simp [mul_assoc]

theorem add_zero_smul (a b : Vector3 K) : a + (0 : K) • b = a := by ext <;> simp

theorem dot_comm (a b : Vector3 K) : a.dot b = b.dot a := by simp only [dot, mul_comm]

theorem dot_neg (a b : Vector3 K) : a.dot (-b) = -a.dot b := by
  simp only [dot, neg_x, neg_y, neg_z]
  ring

-- A product of vectors is as long as they are oblique.
theorem dot_cross_cross (a b : Vector3 K) :
    (a.cross b).dot (a.cross b) = a.dot a * b.dot b - a.dot b * a.dot b := by
  simp only [dot, cross]
  ring

theorem dot_cross_left (a b : Vector3 K) : a.dot (a.cross b) = 0 := by
  simp only [dot, cross]
  ring

theorem dot_cross_right (a b : Vector3 K) : b.dot (a.cross b) = 0 := by
  simp only [dot, cross]
  ring

theorem dot_smul (s : K) (a b : Vector3 K) : a.dot (s • b) = s * a.dot b := by
  simp only [dot, smul_x, smul_y, smul_z]
  ring

theorem dot_add (a b c : Vector3 K) : a.dot (b + c) = a.dot b + a.dot c := by
  simp only [dot, add_x, add_y, add_z]
  ring

theorem add_dot (a b c : Vector3 K) : (a + b).dot c = a.dot c + b.dot c := by
  simp only [dot, add_x, add_y, add_z]
  ring

theorem dot_neg_neg (a b : Vector3 K) : (-a).dot (-b) = a.dot b := by simp [dot]

theorem cross_cross (a b c : Vector3 K) : a.cross (b.cross c) = (a.dot c) • b - (a.dot b) • c := by
  ext <;> simp [cross, dot] <;> ring

theorem smul_dot (s : K) (a b : Vector3 K) : (s • a).dot b = s * a.dot b := by
  simp only [dot, smul_x, smul_y, smul_z]
  ring

theorem dot_add_along {a axis : Vector3 K} (perpendicular : a.dot axis = 0) (k : K) :
    (a + k • axis).dot (a + k • axis) = a.dot a + k * k * axis.dot axis ∧
      (a + k • axis).dot axis = k * axis.dot axis := by
  have onAxis : (a + k • axis).dot axis = k * axis.dot axis := by
    rw [add_dot, perpendicular, smul_dot, zero_add]
  have onA : (a + k • axis).dot a = a.dot a := by
    rw [add_dot, smul_dot, dot_comm axis, perpendicular, mul_zero, add_zero]
  refine ⟨?_, onAxis⟩
  rw [dot_add, onA, dot_smul, onAxis]
  ring

-- A vector along a unit vector is a multiple of it.
theorem eq_smul_of_along {a b : Vector3 K} (unit : b.dot b = 1) (along : a.cross b = 0) : a = (b.dot a) • b := by
  have expand := cross_cross b a b
  rw [along, unit, one_smul] at expand
  have nothing : b.cross 0 = 0 := by ext <;> simp [cross]
  rw [nothing] at expand
  ext
  · exact (sub_eq_zero.mp (congrArg Vector3.x expand).symm)
  · exact (sub_eq_zero.mp (congrArg Vector3.y expand).symm)
  · exact (sub_eq_zero.mp (congrArg Vector3.z expand).symm)

-- What is perpendicular to two vectors is along their product.
theorem cross_of_perpendicular {a b c : Vector3 K} (acrossB : a.dot b = 0) (acrossC : a.dot c = 0) :
    a.cross (b.cross c) = 0 := by
  rw [cross_cross, acrossB, acrossC]
  ext <;> simp

section
variable [LinearOrder K] [IsStrictOrderedRing K]

theorem dot_self_nonneg (a : Vector3 K) : 0 ≤ a.dot a :=
  add_nonneg (add_nonneg (mul_self_nonneg a.x) (mul_self_nonneg a.y)) (mul_self_nonneg a.z)

theorem dot_self_pos {a : Vector3 K} (nonzero : a ≠ 0) : 0 < a.dot a := by
  apply lt_of_le_of_ne (dot_self_nonneg a)
  intro zero
  have squares : a.x * a.x + a.y * a.y + a.z * a.z = 0 := zero.symm
  have x := mul_self_nonneg a.x
  have y := mul_self_nonneg a.y
  have z := mul_self_nonneg a.z
  apply nonzero
  ext
  · exact mul_self_eq_zero.mp (by linarith)
  · exact mul_self_eq_zero.mp (by linarith)
  · exact mul_self_eq_zero.mp (by linarith)

theorem cross_eq_zero_of_along {a b c : Vector3 K} (nonzero : c ≠ 0) (alongA : a.cross c = 0) (alongB : b.cross c = 0) :
    a.cross b = 0 := by
  have length := (dot_self_pos nonzero).ne'
  have expand : (c.dot c) • a.cross b = (c.cross (a.cross c)).cross b + (-(a.dot c)) • b.cross c := by
    ext <;> simp [cross, dot] <;> ring
  have along : (c.dot c) • a.cross b = 0 := by
    rw [expand, alongA, alongB]
    ext <;> simp [cross]
  ext
  · exact (mul_eq_zero.mp (congrArg Vector3.x along)).resolve_left length
  · exact (mul_eq_zero.mp (congrArg Vector3.y along)).resolve_left length
  · exact (mul_eq_zero.mp (congrArg Vector3.z along)).resolve_left length

-- Cauchy and Schwarz, for vectors of length at most one.
theorem dot_le_one {a b : Vector3 K} (shortA : a.dot a ≤ 1)
    (shortB : b.dot b ≤ 1) : a.dot b ≤ 1 := by
  have gap := dot_self_nonneg (a - b)
  simp only [dot, sub_x, sub_y, sub_z] at *
  linarith

-- A combination with weights of a triangle of vectors in the unit ball stays there.
theorem dot_combine_le_one {a b c : Vector3 K} {p q r : K}
    (hp : 0 ≤ p) (hq : 0 ≤ q) (hr : 0 ≤ r) (total : p + q + r = 1)
    (shortA : a.dot a ≤ 1) (shortB : b.dot b ≤ 1) (shortC : c.dot c ≤ 1) :
    (p • a + q • b + r • c).dot (p • a + q • b + r • c) ≤ 1 := by
  have expand : (p • a + q • b + r • c).dot (p • a + q • b + r • c) =
      p * p * a.dot a + q * q * b.dot b + r * r * c.dot c
        + 2 * (p * q * a.dot b + p * r * a.dot c + q * r * b.dot c) := by
    simp only [dot, add_x, add_y, add_z, smul_x, smul_y, smul_z]
    ring
  have square : p * p + q * q + r * r + 2 * (p * q + p * r + q * r) = 1 := by
    linear_combination (p + q + r + 1) * total
  have aa := mul_le_mul_of_nonneg_left shortA (mul_nonneg hp hp)
  have bb := mul_le_mul_of_nonneg_left shortB (mul_nonneg hq hq)
  have cc := mul_le_mul_of_nonneg_left shortC (mul_nonneg hr hr)
  have ab := mul_le_mul_of_nonneg_left (dot_le_one shortA shortB) (mul_nonneg hp hq)
  have ac := mul_le_mul_of_nonneg_left (dot_le_one shortA shortC) (mul_nonneg hp hr)
  have bc := mul_le_mul_of_nonneg_left (dot_le_one shortB shortC) (mul_nonneg hq hr)
  rw [expand]
  linarith

end

end Vector3

structure Quaternion (K : Type) where
  x : K
  y : K
  z : K
  w : K
  deriving DecidableEq, Repr

namespace Quaternion

def identity : Quaternion K := ⟨0, 0, 0, 1⟩

def IsUnit (q : Quaternion K) : Prop := q.x * q.x + q.y * q.y + q.z * q.z + q.w * q.w = 1

instance [DecidableEq K] (q : Quaternion K) : Decidable q.IsUnit :=
  inferInstanceAs (Decidable (q.x * q.x + q.y * q.y + q.z * q.z + q.w * q.w = 1))

theorem identity_isUnit : (identity : Quaternion K).IsUnit := by simp [identity, IsUnit]

/-- The operator `rotation * point`. -/
def rotate (rotation : Quaternion K) (point : Vector3 K) : Vector3 K :=
  let x := rotation.x * 2
  let y := rotation.y * 2
  let z := rotation.z * 2
  let xx := rotation.x * x
  let yy := rotation.y * y
  let zz := rotation.z * z
  let xy := rotation.x * y
  let xz := rotation.x * z
  let yz := rotation.y * z
  let wx := rotation.w * x
  let wy := rotation.w * y
  let wz := rotation.w * z
  ⟨(1 - (yy + zz)) * point.x + (xy - wz) * point.y + (xz + wy) * point.z,
   (xy + wz) * point.x + (1 - (xx + zz)) * point.y + (yz - wx) * point.z,
   (xz - wy) * point.x + (yz + wx) * point.y + (1 - (xx + yy)) * point.z⟩

/-- The rotation by an angle in degrees about an axis. -/
def angleAxis [LinearOrder K] [Mathf K] (angle : K) (axis : Vector3 K) : Quaternion K :=
  let unit := axis.normalized
  let half := angle * Mathf.deg2Rad / 2
  ⟨unit.x * Mathf.sin half, unit.y * Mathf.sin half, unit.z * Mathf.sin half, Mathf.cos half⟩

theorem rotate_combine (q : Quaternion K) (p r s : K) (a b c : Vector3 K) :
    q.rotate (p • a + r • b + s • c) = p • q.rotate a + r • q.rotate b + s • q.rotate c := by
  ext <;> simp [rotate] <;> ring

-- A unit quaternion keeps angles and lengths.
theorem dot_rotate {q : Quaternion K} (unit : q.IsUnit) (a b : Vector3 K) :
    (q.rotate a).dot (q.rotate b) = a.dot b := by
  unfold IsUnit at unit
  let axis : Vector3 K := ⟨q.x, q.y, q.z⟩
  have factor : (q.rotate a).dot (q.rotate b) - a.dot b =
      4 * (axis.cross a).dot (axis.cross b) *
        (q.x * q.x + q.y * q.y + q.z * q.z + q.w * q.w - 1) := by
    simp only [rotate, Vector3.dot, Vector3.cross, axis]
    ring
  rw [unit, sub_self, mul_zero] at factor
  exact sub_eq_zero.mp factor

end Quaternion

end RayTraceRenderer.Unity
