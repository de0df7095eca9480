import RayTraceRenderer.Unity.Vector

/-! A camera at one point, and the plane of its picture at distance one.

The plane has coordinates along two of the camera's directions. A ray crosses it at the point
that its direction goes through, however long the direction is.
-/

set_option autoImplicit false

namespace RayTraceRenderer.Unity

variable {K : Type} [Field K]

/-- Directions of a camera, each of length one and perpendicular to the others. -/
structure Orthonormal (forward left up : Vector3 K) : Prop where
  forward_unit : forward.dot forward = 1
  left_unit : left.dot left = 1
  up_unit : up.dot up = 1
  forward_left : forward.dot left = 0
  forward_up : forward.dot up = 0
  left_up : left.dot up = 0

/-- The point of the plane with the given coordinates, seen from the camera. -/
def planePoint (forward left up : Vector3 K) (point : Vector2 K) : Vector3 K :=
  forward + point.x • left + point.y • up

/-- A ray with the direction, sent from the camera, crosses the plane at the point. -/
def Crosses [LinearOrder K] (forward left up dir : Vector3 K) (point : Vector2 K) : Prop :=
  ∃ t : K, 0 < t ∧ t • dir = planePoint forward left up point

section
variable {forward left up : Vector3 K}

-- The third direction is the product of the other two, up to its sign.
theorem Orthonormal.of_cross (forwardUnit : forward.dot forward = 1) (upUnit : up.dot up = 1)
    (perpendicular : forward.dot up = 0) :
    Orthonormal forward (forward.cross up) up ∧ (forward.cross up).cross forward = up := by
  have back : (forward.cross up).cross forward = (forward.dot forward) • up - (forward.dot up) • forward := by
    ext <;> simp [Vector3.dot, Vector3.cross] <;> ring
  constructor
  · refine ⟨forwardUnit, ?_, upUnit, ?_, perpendicular, ?_⟩
    · rw [Vector3.dot_cross_cross, forwardUnit, upUnit, perpendicular]
      ring
    · exact forward.dot_cross_left up
    · rw [Vector3.dot_comm, Vector3.dot_cross_right]
  · rw [back, forwardUnit, perpendicular]
    ext <;> simp

theorem Orthonormal.neg (frame : Orthonormal forward left up) : Orthonormal forward (-left) (-up) := by
  refine ⟨frame.forward_unit, ?_, ?_, ?_, ?_, ?_⟩
  · rw [Vector3.dot_neg_neg, frame.left_unit]
  · rw [Vector3.dot_neg_neg, frame.up_unit]
  · rw [Vector3.dot_neg, frame.forward_left, neg_zero]
  · rw [Vector3.dot_neg, frame.forward_up, neg_zero]
  · rw [Vector3.dot_neg_neg, frame.left_up]

theorem dot_planePoint (a : Vector3 K) (point : Vector2 K) :
    (planePoint forward left up point).dot a = forward.dot a + point.x * left.dot a + point.y * up.dot a := by
  rw [planePoint, Vector3.add_dot, Vector3.add_dot, Vector3.smul_dot, Vector3.smul_dot]

namespace Orthonormal

variable (frame : Orthonormal forward left up)
include frame

theorem planePoint_forward (point : Vector2 K) : (planePoint forward left up point).dot forward = 1 := by
  have left_forward : left.dot forward = 0 := by rw [Vector3.dot_comm, frame.forward_left]
  have up_forward : up.dot forward = 0 := by rw [Vector3.dot_comm, frame.forward_up]
  rw [dot_planePoint, frame.forward_unit, left_forward, up_forward]
  ring

theorem planePoint_left (point : Vector2 K) : (planePoint forward left up point).dot left = point.x := by
  have up_left : up.dot left = 0 := by rw [Vector3.dot_comm, frame.left_up]
  rw [dot_planePoint, frame.forward_left, frame.left_unit, up_left]
  ring

theorem planePoint_up (point : Vector2 K) : (planePoint forward left up point).dot up = point.y := by
  rw [dot_planePoint, frame.forward_up, frame.left_up, frame.up_unit]
  ring

theorem planePoint_sqrMagnitude (point : Vector2 K) :
    (planePoint forward left up point).sqrMagnitude = 1 + point.x * point.x + point.y * point.y := by
  rw [Vector3.sqrMagnitude, dot_planePoint, Vector3.dot_comm forward, Vector3.dot_comm left, Vector3.dot_comm up,
    frame.planePoint_forward, frame.planePoint_left, frame.planePoint_up]

theorem one_le_planePoint [LinearOrder K] [IsStrictOrderedRing K] (point : Vector2 K) :
    1 ≤ (planePoint forward left up point).sqrMagnitude := by
  rw [frame.planePoint_sqrMagnitude]
  linarith [mul_self_nonneg point.x, mul_self_nonneg point.y]

-- Coordinates measure the plane.
theorem sqrMagnitude_sub (a b : Vector2 K) :
    (planePoint forward left up a - planePoint forward left up b).sqrMagnitude =
      (a.x - b.x) * (a.x - b.x) + (a.y - b.y) * (a.y - b.y) := by
  have expand : (planePoint forward left up a - planePoint forward left up b).sqrMagnitude =
      (a.x - b.x) * (a.x - b.x) * left.dot left + (a.y - b.y) * (a.y - b.y) * up.dot up +
        2 * (a.x - b.x) * (a.y - b.y) * left.dot up := by
    simp only [planePoint, Vector3.sqrMagnitude, Vector3.dot, Vector3.add_x, Vector3.add_y, Vector3.add_z,
      Vector3.sub_x, Vector3.sub_y, Vector3.sub_z, Vector3.smul_x, Vector3.smul_y, Vector3.smul_z]
    ring
  rw [expand, frame.left_unit, frame.up_unit, frame.left_up]
  ring

theorem crosses_iff [LinearOrder K] [IsStrictOrderedRing K] {k : K} (positive : 0 < k) (a b : Vector2 K) :
    Crosses forward left up (k • planePoint forward left up a) b ↔ b = a := by
  constructor
  · rintro ⟨t, -, same⟩
    have along := congrArg (Vector3.dot · forward) same
    have column := congrArg (Vector3.dot · left) same
    have row := congrArg (Vector3.dot · up) same
    simp only [Vector3.smul_smul, Vector3.smul_dot, frame.planePoint_forward, frame.planePoint_left,
      frame.planePoint_up, mul_one] at along column row
    rw [along, one_mul] at column row
    exact Vector2.ext column.symm row.symm
  · rintro rfl
    refine ⟨k⁻¹, inv_pos.mpr positive, ?_⟩
    rw [Vector3.smul_smul, inv_mul_cancel₀ positive.ne', Vector3.one_smul]

end Orthonormal

end

end RayTraceRenderer.Unity
