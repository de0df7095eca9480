import RayTraceRenderer.Unity.Pinhole
import Mathlib.Analysis.SpecialFunctions.Pow.Real
import Mathlib.Analysis.SpecialFunctions.Trigonometric.Inverse

/-! Unity's functions over the real numbers. -/

set_option autoImplicit false

namespace RayTraceRenderer.Unity

/-- The colour function is that of sRGB. -/
noncomputable instance : Mathf ℝ where
  sqrt := Real.sqrt
  sin := Real.sin
  cos := Real.cos
  acos := Real.arccos
  pow x y := x ^ y
  pi := Real.pi
  gammaToLinearSpace value :=
    if value ≤ 4045 / 100000 then value / (1292 / 100) else ((value + 55 / 1000) / (1055 / 1000)) ^ (24 / 10 : ℝ)

theorem tan_eq (value : ℝ) : Mathf.tan value = Real.tan value := (Real.tan_eq_sin_div_cos value).symm

-- Half the field of view, in radians, is less than a right angle.
theorem tan_halfAngle_pos {degrees : ℝ} (positive : 0 < degrees) (less : degrees < 180) :
    0 < Mathf.tan (Mathf.deg2Rad * degrees / 2) := by
  have radians : Mathf.deg2Rad * degrees / 2 = Real.pi / 2 * (degrees / 180) := by
    show Real.pi * 2 / 360 * degrees / 2 = _
    ring
  rw [tan_eq, radians]
  have right := Real.pi_div_two_pos
  apply Real.tan_pos_of_pos_of_lt_pi_div_two
  · positivity
  · have part : degrees / 180 < 1 := by linarith
    exact mul_lt_of_lt_one_right right part

namespace Vector3

theorem magnitude_mul_self (a : Vector3 ℝ) : a.magnitude * a.magnitude = a.sqrMagnitude :=
  Real.mul_self_sqrt a.dot_self_nonneg

-- Long enough, a vector is scaled to its direction.
theorem normalized_of_long {a : Vector3 ℝ} (long : 1 / 100000 < a.magnitude) :
    a.normalized = a.magnitude⁻¹ • a ∧ 0 < a.magnitude⁻¹ ∧ a.normalized.dot a.normalized = 1 := by
  have positive : 0 < a.magnitude := (by norm_num : (0 : ℝ) < 1 / 100000).trans long
  have scaled : a.normalized = a.magnitude⁻¹ • a := if_pos long
  refine ⟨scaled, inv_pos.mpr positive, ?_⟩
  rw [scaled, smul_dot, dot_comm, smul_dot, ← mul_assoc]
  have square : a.dot a = a.magnitude * a.magnitude := a.magnitude_mul_self.symm
  rw [square]
  field_simp

theorem one_le_magnitude {a : Vector3 ℝ} (long : 1 ≤ a.sqrMagnitude) : 1 ≤ a.magnitude :=
  Real.one_le_sqrt.mpr long

theorem normalized_of_unit {a : Vector3 ℝ} (unit : a.dot a = 1) : a.normalized = a := by
  have one : a.magnitude = 1 := (congrArg Real.sqrt unit).trans Real.sqrt_one
  have long : 1 / 100000 < a.magnitude := by
    rw [one]
    norm_num
  rw [(normalized_of_long long).1, one, inv_one, one_smul]

theorem normalized_of_short {a : Vector3 ℝ} (short : ¬ 1 / 100000 < a.magnitude) : a.normalized = 0 := if_neg short

end Vector3

namespace Quaternion

variable {axis : Vector3 ℝ}

theorem angleAxis_isUnit (unit : axis.dot axis = 1) (angle : ℝ) : (angleAxis angle axis).IsUnit := by
  have circle := Real.sin_sq_add_cos_sq (angle * Mathf.deg2Rad / 2)
  simp only [angleAxis, Vector3.normalized_of_unit unit, IsUnit]
  simp only [Vector3.dot] at unit
  show _ + Real.cos _ * Real.cos _ = 1
  linear_combination Real.sin (angle * Mathf.deg2Rad / 2) ^ 2 * unit + circle

-- A rotation keeps its axis.
theorem angleAxis_rotate_axis (unit : axis.dot axis = 1) (angle : ℝ) : (angleAxis angle axis).rotate axis = axis := by
  simp only [angleAxis, Vector3.normalized_of_unit unit]
  ext <;> simp only [rotate] <;> ring

end Quaternion

end RayTraceRenderer.Unity
