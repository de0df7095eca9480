import RayTraceRenderer.Managed.Render
import RayTraceRenderer.Unity.Reals

/-! Where the rays of the pixels go, in both renderers.

The picture is a rectangle in the plane at distance one from the camera. Render divides it into as
many strips as there are columns and rows, and sends several rays for a pixel where it
smooths edges.
-/

set_option autoImplicit false

namespace RayTraceRenderer.Managed

open Unity Native

structure Oriented (forward up : Vector3 ℝ) : Prop where
  forward_unit : forward.dot forward = 1
  up_unit : up.dot up = 1
  perpendicular : forward.dot up = 0

def InStrip (length : ℝ) (count n : Int) (x : ℝ) : Prop :=
  n * (length / count) ≤ x + length / 2 ∧ x + length / 2 ≤ (n + 1) * (length / count)

theorem inStrip_scaled {length : ℝ} {count : Int} (positive : 0 < length) (some : 0 < count) (n : Int) (x : ℝ) :
    InStrip length count n (length * x / count) ↔ n ≤ x + count / 2 ∧ x + count / 2 ≤ n + 1 := by
  have counted : (0 : ℝ) < count := Int.cast_pos.mpr some
  have unit : 0 < length / count := div_pos positive counted
  have place : length * x / count + length / 2 = (x + count / 2) * (length / count) := by
    field_simp
  unfold InStrip
  rw [place, mul_le_mul_iff_left₀ unit, mul_le_mul_iff_left₀ unit]

namespace RenderInput

variable (input : RenderInput ℝ)

/-- The ray of a sub-sample crosses the image plane at the point. -/
def Shows (i j ax ay : Nat) (point : Vector2 ℝ) : Prop :=
  Crosses input.forward input.plane.left input.plane.up (input.primaryCall i j ax ay).rayDir point

/-- All sub-samples that Render averages into a texel cross the image plane in the strips with the
texel's column and row, counted from the left and from the bottom. -/
def SamplesInPixel : Prop :=
  ∀ i j ax ay : Nat, i < input.width → j < input.height → ax < input.splitPixel → ay < input.splitPixel →
    ∃ point, input.Shows i j ax ay point ∧
      InStrip input.plane.lengthX input.width (input.pixel (i, j)).1 (-point.x) ∧
      InStrip input.plane.lengthY input.height (input.pixel (i, j)).2 point.y

variable {input}

theorem frame (oriented : Oriented input.forward input.up) :
    Orthonormal input.forward input.plane.left input.plane.up := by
  obtain ⟨frame, back⟩ :=
    Orthonormal.of_cross oriented.forward_unit oriented.up_unit oriented.perpendicular
  have up : input.plane.up = input.up := back
  rw [up]
  exact frame

theorem rayDir_eq (oriented : Oriented input.forward input.up) (i j ax ay : Nat) :
    ∃ k : ℝ, 0 < k ∧ (input.primaryCall i j ax ay).rayDir =
      k • planePoint input.forward input.plane.left input.plane.up (input.offset i j ax ay) := by
  let seen := planePoint input.forward input.plane.left input.plane.up (input.offset i j ax ay)
  have ahead : input.target i j ax ay - input.position = seen := by
    ext <;> simp [target, seen, planePoint] <;> ring
  have long : 1 ≤ seen.sqrMagnitude := (frame oriented).one_le_planePoint _
  have far : 1 / 100000 < seen.magnitude := lt_of_lt_of_le (by norm_num) (Vector3.one_le_magnitude long)
  obtain ⟨scaled, positive, -⟩ := Vector3.normalized_of_long far
  refine ⟨seen.magnitude⁻¹, positive, ?_⟩
  rw [← scaled, ← ahead]
  rfl

theorem shows_iff (oriented : Oriented input.forward input.up) (i j ax ay : Nat) (point : Vector2 ℝ) :
    input.Shows i j ax ay point ↔ point = input.offset i j ax ay := by
  obtain ⟨k, positive, dir⟩ := rayDir_eq oriented i j ax ay
  unfold Shows
  rw [dir]
  exact (frame oriented).crosses_iff positive (input.offset i j ax ay) point

theorem part_mem {ax : Nat} (inside : ax < input.splitPixel) :
    (0 : ℝ) ≤ (ax : ℝ) / input.splitPixel ∧ (ax : ℝ) / input.splitPixel ≤ 1 := by
  have split : (0 : ℝ) < input.splitPixel := Nat.cast_pos.mpr (Nat.zero_lt_of_lt inside)
  constructor
  · positivity
  · exact (div_le_one split).mpr (Nat.cast_le.mpr inside.le)

-- Along a row a sub-sample stays in the strip of its texel.
theorem column_inStrip (positive : 0 < input.plane.lengthX) (some : 0 < input.width) (even : 2 ∣ input.width)
    (i j ay : Nat) {ax : Nat} (inside : ax < input.splitPixel) :
    InStrip input.plane.lengthX input.width (input.pixel (i, j)).1 (-(input.offset i j ax ay).x) := by
  obtain ⟨half, whole⟩ := even
  have middle : input.width.tdiv 2 = half := by rw [whole, Int.mul_tdiv_cancel_left _ two_ne_zero]
  have place : -(input.offset i j ax ay).x =
      input.plane.lengthX * -((i : ℝ) - half + ax / input.splitPixel) / input.width := by
    simp only [offset, middle]
    push_cast
    ring
  obtain ⟨lower, upper⟩ := part_mem inside
  rw [place, inStrip_scaled positive some]
  simp only [pixel, whole]
  push_cast
  constructor
  · linarith
  · linarith

-- Along a column it does where it is not moved at all.
theorem row_inStrip_iff (positive : 0 < input.plane.lengthY) (some : 0 < input.height) (even : 2 ∣ input.height)
    (i j ax : Nat) {ay : Nat} (inside : ay < input.splitPixel) :
    InStrip input.plane.lengthY input.height (input.pixel (i, j)).2 (input.offset i j ax ay).y ↔ ay = 0 := by
  obtain ⟨half, whole⟩ := even
  have middle : input.height.tdiv 2 = half := by rw [whole, Int.mul_tdiv_cancel_left _ two_ne_zero]
  have place : (input.offset i j ax ay).y =
      input.plane.lengthY * ((half : ℝ) - j + ay / input.splitPixel) / input.height := by
    simp only [offset, middle]
    push_cast
    ring
  obtain ⟨lower, upper⟩ := part_mem inside
  rw [place, inStrip_scaled positive some]
  simp only [pixel, whole]
  push_cast
  constructor
  · rintro ⟨-, below⟩
    have split : (input.splitPixel : ℝ) ≠ 0 := Nat.cast_ne_zero.mpr (Nat.zero_lt_of_lt inside).ne'
    have none : (ay : ℝ) / input.splitPixel = 0 := by linarith
    exact Nat.cast_eq_zero.mp ((div_eq_zero_iff.mp none).resolve_right split)
  · rintro rfl
    rw [Nat.cast_zero, zero_div]
    constructor
    · linarith
    · linarith

/-- In a picture with even sizes, every sub-sample is in the strips of its texel exactly where antialiasing is off. -/
theorem samplesInPixel_iff (input : RenderInput ℝ) (oriented : Oriented input.forward input.up)
    (opens : 0 < input.fieldOfView) (narrow : input.fieldOfView < 180) (wide : 0 < input.width)
    (high : 0 < input.height) (evenWidth : 2 ∣ input.width) (evenHeight : 2 ∣ input.height) :
    input.SamplesInPixel ↔ input.antiAliasing = false := by
  have tan := tan_halfAngle_pos opens narrow
  have lengthY : 0 < input.plane.lengthY := mul_pos tan two_pos
  have lengthX : 0 < input.plane.lengthX :=
    div_pos (mul_pos lengthY (Int.cast_pos.mpr wide)) (Int.cast_pos.mpr high)
  unfold SamplesInPixel
  simp only [shows_iff oriented, exists_eq_left]
  constructor
  · intro all
    by_contra smooth
    have split : input.splitPixel = 3 := if_pos (Bool.eq_true_of_not_eq_false smooth)
    have strips := all 0 0 0 1 wide high (by omega) (by omega)
    exact absurd ((row_inStrip_iff lengthY high evenHeight 0 0 0 (by omega)).mp strips.2) one_ne_zero
  · intro sharp i j ax ay _ _ column row
    have split : input.splitPixel = 1 := if_neg (Bool.eq_false_iff.mp sharp)
    have first : ay = 0 := by omega
    exact ⟨column_inStrip lengthX wide evenWidth i j ay column,
      (row_inStrip_iff lengthY high evenHeight i j ax row).mpr first⟩

end RenderInput

noncomputable def straightInput (width height : Int) (antiAliasing : Bool) : RenderInput ℝ :=
  { width, height, sampleNum := 100, antiAliasing, position := 0, forward := ⟨0, 0, 1⟩, up := ⟨0, 1, 0⟩
    fieldOfView := 90 }

theorem straight_oriented : Oriented ⟨0, 0, 1⟩ ⟨0, 1, 0⟩ := by
  constructor <;> simp [Vector3.dot]

theorem samplesInPixel_straight :
    (0 < (straightInput 4 2 false).fieldOfView ∧ (straightInput 4 2 false).fieldOfView < 180) ∧
      (straightInput 4 2 false).SamplesInPixel := by
  have opens : 0 < (straightInput 4 2 false).fieldOfView := by norm_num [straightInput]
  have narrow : (straightInput 4 2 false).fieldOfView < 180 := by norm_num [straightInput]
  refine ⟨⟨opens, narrow⟩, ?_⟩
  exact ((straightInput 4 2 false).samplesInPixel_iff straight_oriented opens narrow (by decide) (by decide)
    (by decide) (by decide)).mpr rfl

theorem lengthY_straight (width height : Int) (antiAliasing : Bool) :
    (straightInput width height antiAliasing).plane.lengthY = 2 := by
  have angle : Mathf.deg2Rad * (straightInput width height antiAliasing).fieldOfView / 2 = Real.pi / 4 := by
    show Real.pi * 2 / 360 * 90 / 2 = _
    ring
  show Mathf.tan (Mathf.deg2Rad * (straightInput width height antiAliasing).fieldOfView / 2) * 2 = 2
  rw [angle, tan_eq, Real.tan_pi_div_four, one_mul]

/-- With antialiasing, a sub-sample of the topmost row looks out of the picture. -/
theorem sample_outside :
    ∃ point, (straightInput 2 2 true).Shows 0 0 0 1 point ∧ (straightInput 2 2 true).plane.lengthY / 2 < point.y ∧
      ¬ (straightInput 2 2 true).SamplesInPixel := by
  have height : (straightInput 2 2 true).height = 2 := rfl
  have split : (straightInput 2 2 true).splitPixel = 3 := rfl
  have positive : 0 < (straightInput 2 2 true).plane.lengthY := by
    rw [lengthY_straight]
    norm_num
  refine ⟨_, (RenderInput.shows_iff straight_oriented 0 0 0 1 _).mpr rfl, ?_, ?_⟩
  · simp only [RenderInput.offset, lengthY_straight, height, split]
    norm_num
  · intro all
    obtain ⟨point, shown, -, row⟩ := all 0 0 0 1 (by decide) (by decide) (by omega) (by omega)
    rw [(RenderInput.shows_iff straight_oriented 0 0 0 1 point).mp shown] at row
    exact absurd ((RenderInput.row_inStrip_iff positive (by decide) (by decide) 0 0 0 (by omega)).mp row) one_ne_zero

/-! ## Square pixels -/

def EqualSteps (forward : Vector3 ℝ) (plane : ImagePlane ℝ) (here beside above : Vector3 ℝ) : Prop :=
  ∃ p q r, Crosses forward plane.left plane.up here p ∧ Crosses forward plane.left plane.up beside q ∧
    Crosses forward plane.left plane.up above r ∧
    (planePoint forward plane.left plane.up q - planePoint forward plane.left plane.up p).magnitude =
      (planePoint forward plane.left plane.up r - planePoint forward plane.left plane.up p).magnitude

/-- Neighbours in a row are as far apart as neighbours in a column, and the picture is as wide
and as high as their numbers say. -/
structure RenderInput.SquarePixels (input : RenderInput ℝ) : Prop where
  steps : ∀ i j ax ay : Nat, i + 1 < input.width → j + 1 < input.height → ax < input.splitPixel →
    ay < input.splitPixel → EqualSteps input.forward input.plane (input.primaryCall i j ax ay).rayDir
      (input.primaryCall (i + 1) j ax ay).rayDir (input.primaryCall i (j + 1) ax ay).rayDir
  aspect : input.plane.lengthX * input.height = input.plane.lengthY * input.width

theorem equalSteps_iff {forward : Vector3 ℝ} {plane : ImagePlane ℝ} (frame : Orthonormal forward plane.left plane.up)
    {k l m : ℝ} (here : 0 < k) (beside : 0 < l) (above : 0 < m) {p q r : Vector2 ℝ} (row : q.y = p.y)
    (column : r.x = p.x) : EqualSteps forward plane (k • planePoint forward plane.left plane.up p)
        (l • planePoint forward plane.left plane.up q) (m • planePoint forward plane.left plane.up r) ↔
      |q.x - p.x| = |r.y - p.y| := by
  have along : (planePoint forward plane.left plane.up q - planePoint forward plane.left plane.up p).magnitude =
      |q.x - p.x| := by
    rw [← Real.sqrt_mul_self_eq_abs]
    apply congrArg Real.sqrt
    rw [frame.sqrMagnitude_sub, row]
    ring
  have up : (planePoint forward plane.left plane.up r - planePoint forward plane.left plane.up p).magnitude =
      |r.y - p.y| := by
    rw [← Real.sqrt_mul_self_eq_abs]
    apply congrArg Real.sqrt
    rw [frame.sqrMagnitude_sub, column]
    ring
  unfold EqualSteps
  simp only [frame.crosses_iff here, frame.crosses_iff beside, frame.crosses_iff above, exists_and_left,
    exists_eq_left, along, up]

theorem RenderInput.squarePixels {input : RenderInput ℝ} (oriented : Oriented input.forward input.up)
    (wide : 1 ≤ input.width) (high : 1 ≤ input.height) : input.SquarePixels := by
  have width : (input.width : ℝ) ≠ 0 := Int.cast_ne_zero.mpr (by omega)
  have height : (input.height : ℝ) ≠ 0 := Int.cast_ne_zero.mpr (by omega)
  have extent : input.plane.lengthX = input.plane.lengthY * input.width / input.height := rfl
  constructor
  · intro i j ax ay _ _ _ _
    obtain ⟨k, here, dir⟩ := rayDir_eq oriented i j ax ay
    obtain ⟨l, beside, dirBeside⟩ := rayDir_eq oriented (i + 1) j ax ay
    obtain ⟨m, above, dirAbove⟩ := rayDir_eq oriented i (j + 1) ax ay
    have row : (input.offset (i + 1) j ax ay).y = (input.offset i j ax ay).y := rfl
    have column : (input.offset i (j + 1) ax ay).x = (input.offset i j ax ay).x := rfl
    rw [dir, dirBeside, dirAbove, equalSteps_iff (frame oriented) here beside above row column]
    have along : (input.offset (i + 1) j ax ay).x - (input.offset i j ax ay).x = input.plane.lengthX / input.width := by
      simp only [offset]
      push_cast
      ring
    have down : (input.offset i (j + 1) ax ay).y - (input.offset i j ax ay).y = -(input.plane.lengthY / input.height) := by
      simp only [offset]
      push_cast
      ring
    rw [along, down, abs_neg, extent]
    congr 1
    field_simp
  · rw [extent]
    field_simp

end RayTraceRenderer.Managed

namespace RayTraceRenderer.Native

open Unity Managed

structure View.SquarePixels (view : View ℝ) : Prop where
  steps : ∀ x ∈ Int.range ((-view.width).tdiv 2) (view.width.tdiv 2),
    ∀ y ∈ Int.range ((-view.height).tdiv 2) (view.height.tdiv 2), x + 1 < view.width.tdiv 2 →
      y + 1 < view.height.tdiv 2 → ∀ stack, EqualSteps view.dir view.plane (view.ray stack x y).dir
        (view.ray stack (x + 1) y).dir (view.ray stack x (y + 1)).dir
  aspect : view.plane.lengthX * view.height = view.plane.lengthY * view.width

variable {view : View ℝ}

theorem View.frame (oriented : Oriented view.dir view.up) : Orthonormal view.dir view.plane.left view.plane.up := by
  obtain ⟨frame, back⟩ :=
    Orthonormal.of_cross oriented.forward_unit oriented.up_unit oriented.perpendicular
  have up : view.plane.up = -view.up := by
    rw [← back]
    show (-view.dir.cross view.up).cross view.dir = _
    ext <;> simp [Vector3.cross] <;> ring
  rw [up]
  exact frame.neg

noncomputable def View.offset (view : View ℝ) (x y : Int) : Vector2 ℝ :=
  ⟨view.plane.lengthX * x / view.width, view.plane.lengthY * y / view.height⟩

theorem View.rayDir_eq (oriented : Oriented view.dir view.up) (stack : RTCRay ℝ) (x y : Int) :
    ∃ k : ℝ, 0 < k ∧ (view.ray stack x y).dir =
      k • planePoint view.dir view.plane.left view.plane.up (view.offset x y) := by
  let seen := planePoint view.dir view.plane.left view.plane.up (view.offset x y)
  have ahead : view.target x y - view.pos = seen := by
    ext <;> simp [target, seen, planePoint, View.offset] <;> ring
  have long : 1 ≤ seen.sqrMagnitude := (View.frame oriented).one_le_planePoint _
  refine ⟨1 / Real.sqrt seen.sqrMagnitude, ?_, ?_⟩
  · exact one_div_pos.mpr (Real.sqrt_pos.mpr (zero_lt_one.trans_le long))
  · show normalize (view.target x y - view.pos) = _
    rw [ahead]
    rfl

theorem View.equalSteps_iff (oriented : Oriented view.dir view.up) (stack : RTCRay ℝ) (x y : Int) :
    EqualSteps view.dir view.plane (view.ray stack x y).dir (view.ray stack (x + 1) y).dir
        (view.ray stack x (y + 1)).dir ↔ |view.plane.lengthX / view.width| = |view.plane.lengthY / view.height| := by
  obtain ⟨k, here, dir⟩ := View.rayDir_eq oriented stack x y
  obtain ⟨l, beside, dirBeside⟩ := View.rayDir_eq oriented stack (x + 1) y
  obtain ⟨m, above, dirAbove⟩ := View.rayDir_eq oriented stack x (y + 1)
  have row : (view.offset (x + 1) y).y = (view.offset x y).y := rfl
  have column : (view.offset x (y + 1)).x = (view.offset x y).x := rfl
  have along : (view.offset (x + 1) y).x - (view.offset x y).x = view.plane.lengthX / view.width := by
    simp only [View.offset]
    push_cast
    ring
  have up : (view.offset x (y + 1)).y - (view.offset x y).y = view.plane.lengthY / view.height := by
    simp only [View.offset]
    push_cast
    ring
  rw [dir, dirBeside, dirAbove, Managed.equalSteps_iff (View.frame oriented) here beside above row column, along, up]

-- The vertical extent is the horizontal one times the ratio of the sizes, and not divided by it.
theorem View.aspect_iff (wide : 1 ≤ view.width) (high : 1 ≤ view.height) :
    view.plane.lengthX * view.height = view.plane.lengthY * view.width ↔
      view.width = view.height ∨ Mathf.tan (view.fov / 2) = 0 := by
  have width : (0 : ℝ) < view.width := Int.cast_pos.mpr (by omega)
  have height : (0 : ℝ) < view.height := Int.cast_pos.mpr (by omega)
  have extentX : view.plane.lengthX = Mathf.tan (view.fov / 2) * 2 := rfl
  have extentY : view.plane.lengthY = view.plane.lengthX * view.width / view.height := rfl
  constructor
  · intro aspect
    have gap : view.plane.lengthX * (view.height - view.width) = 0 := by
      have scaled : view.plane.lengthX * view.height * view.height = view.plane.lengthX * view.width * view.width := by
        rw [aspect, extentY]
        field_simp
      apply (mul_eq_zero.mp (_ : view.plane.lengthX * (view.height - view.width) * (view.height + view.width) = 0)).resolve_right
      · exact (add_pos height width).ne'
      · linear_combination scaled
    rcases mul_eq_zero.mp gap with closed | same
    · rw [extentX] at closed
      exact .inr ((mul_eq_zero.mp closed).resolve_right two_ne_zero)
    · exact .inl (Int.cast_injective (sub_eq_zero.mp same)).symm
  · rintro (same | closed)
    · rw [extentY, same]
      field_simp
    · rw [extentY, extentX, closed]
      ring

theorem View.square_iff (oriented : Oriented view.dir view.up) (wide : 1 ≤ view.width) (high : 1 ≤ view.height) :
    view.SquarePixels ↔ view.width = view.height ∨ Mathf.tan (view.fov / 2) = 0 := by
  have width : (view.width : ℝ) ≠ 0 := Int.cast_ne_zero.mpr (by omega)
  have height : (view.height : ℝ) ≠ 0 := Int.cast_ne_zero.mpr (by omega)
  rw [← View.aspect_iff wide high]
  constructor
  · intro square
    exact square.aspect
  · intro aspect
    refine ⟨fun x _ y _ _ _ stack => ?_, aspect⟩
    rw [View.equalSteps_iff oriented]
    congr 1
    exact (div_eq_div_iff width height).mpr aspect

-- The tangent is that of a field of view, which is less than half a turn.
theorem tan_half_eq_zero_iff {fov : ℝ} (nonneg : 0 ≤ fov) (less : fov < Real.pi) : Mathf.tan (fov / 2) = 0 ↔ fov = 0 := by
  rw [tan_eq]
  constructor
  · intro closed
    by_contra opened
    have positive : 0 < fov / 2 := half_pos (lt_of_le_of_ne nonneg (Ne.symm opened))
    exact (Real.tan_pos_of_pos_of_lt_pi_div_two positive (by linarith)).ne' closed
  · rintro rfl
    rw [zero_div, Real.tan_zero]

/-- The pixels of Render are square, and those of RenderToImage exactly where the picture is, or where there is
no picture. -/
theorem squarePixels_iff (input : RenderInput ℝ) (view : View ℝ) (oriented : Oriented input.forward input.up)
    (orientedView : Oriented view.dir view.up) (wide : 1 ≤ input.width) (high : 1 ≤ input.height)
    (wideView : 1 ≤ view.width) (highView : 1 ≤ view.height) :
    (input.SquarePixels ∧ view.SquarePixels ↔ view.width = view.height ∨ Mathf.tan (view.fov / 2) = 0) ∧
      (0 ≤ view.fov → view.fov < Real.pi →
        (input.SquarePixels ∧ view.SquarePixels ↔ view.width = view.height ∨ view.fov = 0)) := by
  have square : input.SquarePixels ∧ view.SquarePixels ↔ view.width = view.height ∨ Mathf.tan (view.fov / 2) = 0 := by
    rw [View.square_iff orientedView wideView highView]
    constructor
    · rintro ⟨-, condition⟩
      exact condition
    · intro condition
      exact ⟨input.squarePixels oriented wide high, condition⟩
  refine ⟨square, fun nonneg less => ?_⟩
  rw [square, tan_half_eq_zero_iff nonneg less]

noncomputable def straightView (width height : Int) : View ℝ :=
  { width, height, pos := 0, dir := ⟨0, 0, 1⟩, up := ⟨0, 1, 0⟩, fov := Real.pi / 2, length := 1000 }

theorem squarePixels_straight :
    (straightInput 4 2 false).SquarePixels ∧ (straightView 4 4).SquarePixels :=
  (squarePixels_iff (straightInput 4 2 false) (straightView 4 4) straight_oriented straight_oriented (by decide)
    (by decide) (by decide) (by decide)).1.mpr (.inl rfl)

/-- Four columns and two rows: neighbours in a row are half a unit apart, and neighbours in a column two. -/
theorem straightView_stretched :
    let view := straightView 4 2
    view.plane.lengthX / view.width = 1 / 2 ∧ view.plane.lengthY / view.height = 2 ∧
      (∀ stack, ¬ EqualSteps view.dir view.plane (view.ray stack (-1) (-1)).dir (view.ray stack 0 (-1)).dir
        (view.ray stack (-1) 0).dir) ∧ ¬ view.SquarePixels := by
  intro view
  have width : (view.width : ℝ) = 4 := by norm_num [view, straightView]
  have height : (view.height : ℝ) = 2 := by norm_num [view, straightView]
  have oriented : Oriented view.dir view.up := straight_oriented
  have tan : Mathf.tan (view.fov / 2) = 1 := by
    have angle : view.fov / 2 = Real.pi / 4 := by
      show Real.pi / 2 / 2 = _
      ring
    rw [angle, tan_eq, Real.tan_pi_div_four]
  have extentX : view.plane.lengthX = 2 := by
    show Mathf.tan (view.fov / 2) * 2 = 2
    rw [tan, one_mul]
  have along : view.plane.lengthX / view.width = 1 / 2 := by
    rw [extentX, width]
    norm_num
  have up : view.plane.lengthY / view.height = 2 := by
    show view.plane.lengthX * view.width / view.height / view.height = 2
    rw [extentX, width, height]
    norm_num
  refine ⟨along, up, fun stack equal => ?_, fun square => ?_⟩
  · have same := (View.equalSteps_iff oriented stack (-1) (-1)).mp equal
    rw [along, up] at same
    norm_num at same
  · rcases (View.square_iff oriented (by decide) (by decide)).mp square with same | closed
    · exact absurd same (by decide)
    · rw [tan] at closed
      exact one_ne_zero closed

end RayTraceRenderer.Native
