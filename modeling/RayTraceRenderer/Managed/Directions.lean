import RayTraceRenderer.Managed.RayTraceTool
import RayTraceRenderer.Unity.Reals

/-! The lengths of the random directions.

Both generators set a direction together from an axis of length one and something perpendicular
to it. What is perpendicular comes from a cross product, which is as short as its
factors are oblique, and its length is not restored.
-/

set_option autoImplicit false

namespace RayTraceRenderer.Managed

open Unity

variable {K σ : Type}

/-! ## Draws -/

/-- UnityEngine.Random draws between its bounds. -/
def Random.InBounds [LE K] (random : Random K σ) : Prop :=
  ∀ min max s, min ≤ max → min ≤ ((random.range min max).run s).1 ∧ ((random.range min max).run s).1 ≤ max

/-- The draws for the directions, two for each. -/
def pairDraws [Field K] (random : Random K σ) (top : K) (num : Int) : StateM σ (List (K × K)) :=
  (List.range num.toNat).mapM fun i => do
    let disc ← HaltonTool.halton2 random i 0 1
    let angle ← HaltonTool.halton3 random i 0 top
    return (disc, angle)

section
variable {α β γ : Type}

theorem run_mapM_map (f : α → StateM σ β) (g : β → γ) (xs : List α) (s : σ) :
    (xs.mapM fun x => do return g (← f x)).run s = (((xs.mapM f).run s).1.map g, ((xs.mapM f).run s).2) := by
  induction xs generalizing s with
  | nil => rfl
  | cons x rest ih =>
    rw [List.mapM_cons, List.mapM_cons]
    let s' := ((f x).run s).2
    show (g ((f x).run s).1 :: ((rest.mapM fun x => do return g (← f x)).run s').1,
      ((rest.mapM fun x => do return g (← f x)).run s').2) = _
    rw [ih]
    rfl

theorem forall_mem_mapM {f : α → StateM σ β} {holds : β → Prop} (each : ∀ x s, holds ((f x).run s).1) (xs : List α)
    (s : σ) : ∀ y ∈ ((xs.mapM f).run s).1, holds y := by
  induction xs generalizing s with
  | nil =>
    intro y none
    cases none
  | cons x rest ih =>
    rw [List.mapM_cons]
    intro y member
    have split : y ∈ ((f x).run s).1 :: ((rest.mapM f).run ((f x).run s).2).1 := member
    rcases List.mem_cons.mp split with rfl | later
    · exact each x s
    · exact ih _ y later

end

theorem mem_pairDraws [Field K] [PartialOrder K] [IsOrderedRing K] {random : Random K σ} (bounds : random.InBounds)
    {top : K} {num : Int} {s : σ} : ∀ draw ∈ ((pairDraws random top num).run s).1, 0 ≤ draw.1 ∧ draw.1 ≤ 1 := by
  apply forall_mem_mapM
  intro i s
  exact bounds 0 1 s zero_le_one

namespace RayTraceTool

/-! ## GetRandomDirs_RoundProj -/

section
variable [Field K] [LinearOrder K] [Mathf K]

def helperAxis (faceNormal : Vector3 K) : Vector3 K :=
  if 9 / 10 < |faceNormal.dot Vector3.up| then Vector3.left else Vector3.up

def roundProjDir (faceNormal : Vector3 K) (final : K) (draw : K × K) : Vector3 K :=
  let lenght0 := Mathf.sqrt draw.1
  let pos0 := lenght0 • faceNormal.cross (helperAxis faceNormal)
  let pos1 := (Unity.Quaternion.angleAxis draw.2 faceNormal).rotate pos0
  let dir := pos1 + Mathf.sqrt (1 - lenght0 * lenght0) • faceNormal
  (Unity.Quaternion.angleAxis final faceNormal).rotate dir

def roundProjDraws (random : Random K σ) (num : Int) (s : σ) : List (K × K) :=
  ((pairDraws random 360 num).run ((random.range 0 360).run s).2).1

theorem getRandomDirsRoundProj_run (random : Random K σ) (faceNormal : Vector3 K) (num : Int) (s : σ) :
    ((getRandomDirsRoundProj random faceNormal num).run s).1 =
      (roundProjDraws random num s).map (roundProjDir faceNormal ((random.range 0 360).run s).1) := by
  have mapped := run_mapM_map (fun i => do
    let disc ← HaltonTool.halton2 random i 0 1
    let angle ← HaltonTool.halton3 random i 0 360
    return (disc, angle)) (roundProjDir faceNormal ((random.range 0 360).run s).1) (List.range num.toNat)
    ((random.range 0 360).run s).2
  exact congrArg Prod.fst mapped

end

section
variable {faceNormal : Vector3 ℝ}

theorem helperAxis_unit (faceNormal : Vector3 ℝ) : (helperAxis faceNormal).dot (helperAxis faceNormal) = 1 := by
  unfold helperAxis
  split
  · simp [Vector3.dot, Vector3.left]
  · simp [Vector3.dot, Vector3.up]

-- The rotations change neither what is along the normal nor the length of what is across it.
theorem roundProjDir_dot (unit : faceNormal.dot faceNormal = 1) (final : ℝ) {draw : ℝ × ℝ} (disc : 0 ≤ draw.1 ∧ draw.1 ≤ 1) :
    let dir := roundProjDir faceNormal final draw
    dir.dot dir = 1 - draw.1 * (faceNormal.dot (helperAxis faceNormal) * faceNormal.dot (helperAxis faceNormal)) ∧
      0 ≤ faceNormal.dot dir := by
  let lenght0 := Real.sqrt draw.1
  let height := Real.sqrt (1 - lenght0 * lenght0)
  let spin := Unity.Quaternion.angleAxis draw.2 faceNormal
  let turn := Unity.Quaternion.angleAxis final faceNormal
  let axis0 := faceNormal.cross (helperAxis faceNormal)
  have disc' : lenght0 * lenght0 = draw.1 := Real.mul_self_sqrt disc.1
  have rest : height * height = 1 - draw.1 := by
    rw [← disc']
    exact Real.mul_self_sqrt (by linarith)
  have spinUnit : spin.IsUnit := Quaternion.angleAxis_isUnit unit draw.2
  have turnUnit : turn.IsUnit := Quaternion.angleAxis_isUnit unit final
  have spinAxis : spin.rotate faceNormal = faceNormal := Quaternion.angleAxis_rotate_axis unit draw.2
  have turnAxis : turn.rotate faceNormal = faceNormal := Quaternion.angleAxis_rotate_axis unit final
  have across : (spin.rotate (lenght0 • axis0)).dot faceNormal = 0 := by
    calc (spin.rotate (lenght0 • axis0)).dot faceNormal
        = (spin.rotate (lenght0 • axis0)).dot (spin.rotate faceNormal) := by rw [spinAxis]
      _ = lenght0 * axis0.dot faceNormal := by rw [Quaternion.dot_rotate spinUnit, Vector3.smul_dot]
      _ = 0 := by rw [Vector3.dot_comm, Vector3.dot_cross_left, mul_zero]
  have flat : (spin.rotate (lenght0 • axis0)).dot (spin.rotate (lenght0 • axis0)) = draw.1 * axis0.dot axis0 := by
    rw [Quaternion.dot_rotate spinUnit, Vector3.smul_dot, Vector3.dot_smul, ← mul_assoc, disc']
  have tangent : axis0.dot axis0 =
      1 - faceNormal.dot (helperAxis faceNormal) * faceNormal.dot (helperAxis faceNormal) := by
    rw [Vector3.dot_cross_cross, unit, helperAxis_unit, one_mul]
  have shape : roundProjDir faceNormal final draw = turn.rotate (spin.rotate (lenght0 • axis0) + height • faceNormal) := rfl
  obtain ⟨length, along⟩ := Vector3.dot_add_along across height
  constructor
  · rw [shape, Quaternion.dot_rotate turnUnit, length, flat, unit, tangent]
    linear_combination rest
  · have side : faceNormal.dot (roundProjDir faceNormal final draw) = height := by
      rw [shape, Vector3.dot_comm, ← turnAxis, Quaternion.dot_rotate turnUnit, turnAxis, along, unit, mul_one]
    rw [side]
    exact Real.sqrt_nonneg _

/-- All directions are of length one, and on the side of the normal, exactly where the normal is perpendicular to
the helper axis or every disc draw is zero. -/
theorem roundProj_unit_iff (random : Random ℝ σ) (bounds : random.InBounds) (faceNormal : Vector3 ℝ)
    (unit : faceNormal.dot faceNormal = 1) (num : Int) (s : σ) :
    (∀ dir ∈ ((getRandomDirsRoundProj random faceNormal num).run s).1, dir.dot dir = 1 ∧ 0 ≤ faceNormal.dot dir) ↔
      faceNormal.dot (helperAxis faceNormal) = 0 ∨ ∀ draw ∈ roundProjDraws random num s, draw.1 = 0 := by
  have each : ∀ draw ∈ roundProjDraws random num s,
      let dir := roundProjDir faceNormal ((random.range 0 360).run s).1 draw
      dir.dot dir = 1 ∧ 0 ≤ faceNormal.dot dir ↔ faceNormal.dot (helperAxis faceNormal) = 0 ∨ draw.1 = 0 := by
    intro draw member
    obtain ⟨length, side⟩ := roundProjDir_dot unit ((random.range 0 360).run s).1 (mem_pairDraws bounds draw member)
    simp only [length, side, and_true]
    constructor
    · intro one
      have lost := sub_eq_self.mp one
      rcases mul_eq_zero.mp lost with none | square
      · exact .inr none
      · exact .inl (mul_self_eq_zero.mp square)
    · rintro (straight | none)
      · rw [straight]
        ring
      · rw [none]
        ring
  rw [getRandomDirsRoundProj_run, List.forall_mem_map]
  constructor
  · intro all
    by_contra neither
    obtain ⟨oblique, some⟩ := not_or.mp neither
    apply some
    intro draw member
    exact ((each draw member).mp (all draw member)).resolve_left oblique
  · rintro (straight | none) draw member
    · exact (each draw member).mpr (.inl straight)
    · exact (each draw member).mpr (.inr (none draw member))

def highest : Random ℝ Unit := ⟨fun _ max => pure max⟩

theorem highest_inBounds : highest.InBounds := fun _ _ _ ordered => ⟨ordered, le_rfl⟩

theorem roundProj_unit_up :
    (Vector3.up : Vector3 ℝ).dot Vector3.up = 1 ∧
      ∀ dir ∈ ((getRandomDirsRoundProj highest Vector3.up 8).run ()).1, dir.dot dir = 1 ∧ 0 ≤ Vector3.up.dot dir := by
  have unit : (Vector3.up : Vector3 ℝ).dot Vector3.up = 1 := by simp [Vector3.dot, Vector3.up]
  have helper : helperAxis (Vector3.up : Vector3 ℝ) = Vector3.left := by
    unfold helperAxis
    rw [unit, abs_one]
    exact if_pos (by norm_num)
  refine ⟨unit, (roundProj_unit_iff highest highest_inBounds Vector3.up unit 8 ()).mpr (.inl ?_)⟩
  rw [helper]
  simp [Vector3.dot, Vector3.up, Vector3.left]

/-- An oblique normal: the direction has lost sixteen parts of twenty-five of the square of its length. -/
theorem roundProj_short :
    (⟨3 / 5, 4 / 5, 0⟩ : Vector3 ℝ).dot ⟨3 / 5, 4 / 5, 0⟩ = 1 ∧
      ∃ dir, ((getRandomDirsRoundProj highest ⟨3 / 5, 4 / 5, 0⟩ 1).run ()).1 = [dir] ∧ dir.dot dir = 9 / 25 := by
  have unit : (⟨3 / 5, 4 / 5, 0⟩ : Vector3 ℝ).dot ⟨3 / 5, 4 / 5, 0⟩ = 1 := by norm_num [Vector3.dot]
  have helper : helperAxis (⟨3 / 5, 4 / 5, 0⟩ : Vector3 ℝ) = Vector3.up := by
    have upright : (⟨3 / 5, 4 / 5, 0⟩ : Vector3 ℝ).dot Vector3.up = 4 / 5 := by norm_num [Vector3.dot, Vector3.up]
    unfold helperAxis
    rw [upright, abs_of_pos (by norm_num)]
    exact if_neg (by norm_num)
  refine ⟨unit, roundProjDir ⟨3 / 5, 4 / 5, 0⟩ 360 (1, 360), rfl, ?_⟩
  obtain ⟨length, -⟩ := roundProjDir_dot unit 360 (show 0 ≤ ((1 : ℝ), (360 : ℝ)).1 ∧ ((1 : ℝ), (360 : ℝ)).1 ≤ 1 by norm_num)
  rw [length, helper]
  norm_num [Vector3.dot, Vector3.up]

end

/-! ## GetRandomDirs_BlinnPhong_Importance2 -/

section
variable [Field K] [LinearOrder K] [Mathf K]

/-- The angle between a direction and the axis of the lobe. -/
def lobeAngle (smoothness disc : K) : K :=
  let shininess := Mathf.pow 8192 smoothness
  Mathf.acos (Mathf.pow (1 - disc * (shininess + 1) / (shininess + 2)) (1 / (shininess + 1))) * (Mathf.pi * (1 / 2))

/-- The sum that is zero where an axis is perpendicular to its coordinates in turn. -/
def turned (w : Vector3 K) : K := w.x * w.y + w.y * w.z + w.z * w.x

def lobeDir (w : Vector3 K) (smoothness : K) (draw : K × K) : Vector3 K :=
  let u := (⟨w.y, w.z, w.x⟩ : Vector3 K).cross w
  let v := w.cross u
  let a := lobeAngle smoothness draw.1
  Mathf.sin a • (Mathf.cos draw.2 • u + Mathf.sin draw.2 • v) + Mathf.cos a • w

def lobeDraws (random : Random K σ) (num : Int) (s : σ) : List (K × K) :=
  ((pairDraws random (Mathf.pi * 2) num).run s).1

theorem getRandomDirsBlinnPhongImportance2_run (random : Random K σ) (faceNormal reflectDir : Vector3 K)
    (smoothness : K) (num : Int) (s : σ) :
    ((getRandomDirsBlinnPhongImportance2 random faceNormal reflectDir smoothness num).run s).1 =
      (lobeDraws random num s).map
        (lobeDir (Vector3.lerp faceNormal reflectDir smoothness).normalized smoothness) := by
  have mapped := run_mapM_map (fun i => do
    let disc ← HaltonTool.halton2 random i 0 1
    let angle ← HaltonTool.halton3 random i 0 (Mathf.pi * 2)
    return (disc, angle)) (lobeDir (Vector3.lerp faceNormal reflectDir smoothness).normalized smoothness)
    (List.range num.toNat) s
  exact congrArg Prod.fst mapped

end

section
variable {w : Vector3 ℝ}

-- Both vectors of the frame are perpendicular to the axis and equally long, but not of length one.
theorem lobeDir_dot (unit : w.dot w = 1) (smoothness : ℝ) (draw : ℝ × ℝ) :
    let dir := lobeDir w smoothness draw
    let a := lobeAngle smoothness draw.1
    dir.dot dir = 1 - Mathf.sin a * Mathf.sin a * (turned w * turned w) ∧ dir.dot w = Mathf.cos a := by
  let a := lobeAngle smoothness draw.1
  let turnedAxis : Vector3 ℝ := ⟨w.y, w.z, w.x⟩
  let u := turnedAxis.cross w
  let v := w.cross u
  let ring := Mathf.cos draw.2 • u + Mathf.sin draw.2 • v
  have turnedUnit : turnedAxis.dot turnedAxis = 1 := by
    rw [← unit]
    simp only [Vector3.dot, turnedAxis]
    ring
  have uw : u.dot w = 0 := by rw [Vector3.dot_comm, Vector3.dot_cross_right]
  have vw : v.dot w = 0 := by rw [Vector3.dot_comm, Vector3.dot_cross_left]
  have uv : u.dot v = 0 := Vector3.dot_cross_right w u
  have uu : u.dot u = 1 - turned w * turned w := by
    have oblique : turnedAxis.dot w = turned w := by
      simp only [Vector3.dot, turnedAxis, turned]
      ring
    rw [Vector3.dot_cross_cross, turnedUnit, unit, oblique, one_mul]
  have vv : v.dot v = u.dot u := by
    rw [Vector3.dot_cross_cross, unit, Vector3.dot_comm w, uw]
    ring
  have circle : Mathf.cos draw.2 * Mathf.cos draw.2 + Mathf.sin draw.2 * Mathf.sin draw.2 = 1 := by
    linear_combination Real.cos_sq_add_sin_sq draw.2
  have height : Mathf.sin a * Mathf.sin a + Mathf.cos a * Mathf.cos a = 1 := by
    linear_combination Real.sin_sq_add_cos_sq a
  have ringAxis : ring.dot w = 0 := by
    rw [Vector3.add_dot, Vector3.smul_dot, Vector3.smul_dot, uw, vw]
    simp
  have ringLength : ring.dot ring = u.dot u := by
    have apart : (Mathf.cos draw.2 • u).dot v = 0 := by rw [Vector3.smul_dot, uv, mul_zero]
    rw [(Vector3.dot_add_along apart _).1, Vector3.smul_dot, Vector3.dot_smul, vv]
    linear_combination u.dot u * circle
  have shape : lobeDir w smoothness draw = Mathf.sin a • ring + Mathf.cos a • w := rfl
  have across : (Mathf.sin a • ring).dot w = 0 := by rw [Vector3.smul_dot, ringAxis, mul_zero]
  obtain ⟨length, along⟩ := Vector3.dot_add_along across (Mathf.cos a)
  constructor
  · rw [shape, length, Vector3.smul_dot, Vector3.dot_smul, ringLength, uu, unit]
    linear_combination height
  · rw [shape, along, unit, mul_one]

-- Below a right angle, scaling by half of pi stays below a straight one.
theorem sin_scaled_eq_zero_iff {angle : ℝ} (nonneg : 0 ≤ angle) (small : angle < Real.pi / 2) :
    Real.sin (angle * (Real.pi * (1 / 2))) = 0 ↔ angle = 0 := by
  have right := Real.pi_div_two_pos
  have lower : -Real.pi < angle * (Real.pi * (1 / 2)) := by
    have product := mul_nonneg nonneg right.le
    linarith
  have upper : angle * (Real.pi * (1 / 2)) < Real.pi := by
    have product := mul_lt_mul_of_pos_right small right
    nlinarith [Real.pi_le_four]
  rw [Real.sin_eq_zero_iff_of_lt_of_lt lower upper, mul_eq_zero]
  exact or_iff_left (by positivity)

theorem arccos_rpow_eq_zero_iff {base exponent : ℝ} (positive : 0 < base) (most : base ≤ 1) (grows : 0 < exponent) :
    Real.arccos (base ^ exponent) = 0 ↔ base = 1 := by
  rw [Real.arccos_eq_zero]
  constructor
  · intro full
    apply most.antisymm
    by_contra less
    exact absurd full (not_le.mpr (Real.rpow_lt_one positive.le (not_le.mp less) grows))
  · rintro rfl
    rw [Real.one_rpow]

-- Only the draw zero gives the axis itself.
theorem sin_lobeAngle_eq_zero_iff (smoothness : ℝ) {disc : ℝ} (inside : 0 ≤ disc ∧ disc ≤ 1) :
    Mathf.sin (lobeAngle smoothness disc) = 0 ↔ disc = 0 := by
  let shininess : ℝ := (8192 : ℝ) ^ smoothness
  let base := 1 - disc * (shininess + 1) / (shininess + 2)
  have sharp : 0 < shininess := Real.rpow_pos_of_pos (by norm_num) smoothness
  have grows : 0 < 1 / (shininess + 1) := by positivity
  have slope : 0 < (shininess + 1) / (shininess + 2) := by positivity
  have part : base = 1 - disc * ((shininess + 1) / (shininess + 2)) := by rw [← mul_div_assoc]
  have positive : 0 < base := by
    have less : (shininess + 1) / (shininess + 2) < 1 := (div_lt_one (by linarith)).mpr (by linarith)
    rw [part]
    nlinarith [inside.2]
  have most : base ≤ 1 := by
    have drawn := mul_nonneg inside.1 slope.le
    linarith
  have small := Real.arccos_lt_pi_div_two.mpr (Real.rpow_pos_of_pos positive (1 / (shininess + 1)))
  show Real.sin (Real.arccos (base ^ (1 / (shininess + 1))) * (Real.pi * (1 / 2))) = 0 ↔ _
  rw [sin_scaled_eq_zero_iff (Real.arccos_nonneg _) small, arccos_rpow_eq_zero_iff positive most grows, part, sub_eq_self,
    mul_eq_zero]
  exact or_iff_left slope.ne'

theorem turned_smul (k : ℝ) (lobe : Vector3 ℝ) : turned (k • lobe) = k * k * turned lobe := by
  simp only [turned, Vector3.smul_x, Vector3.smul_y, Vector3.smul_z]
  ring

theorem lobeDir_unit_iff (lobe : Vector3 ℝ) (smoothness : ℝ) {draw : ℝ × ℝ} (inside : 0 ≤ draw.1 ∧ draw.1 ≤ 1) :
    (lobeDir lobe.normalized smoothness draw).dot (lobeDir lobe.normalized smoothness draw) = 1 ∧
        (lobeDir lobe.normalized smoothness draw).dot lobe.normalized = Mathf.cos (lobeAngle smoothness draw.1) ↔
      1 / 100000 < lobe.magnitude ∧ (turned lobe = 0 ∨ draw.1 = 0) := by
  by_cases long : 1 / 100000 < lobe.magnitude
  · obtain ⟨scaled, positive, unit⟩ := Vector3.normalized_of_long long
    obtain ⟨length, along⟩ := lobeDir_dot unit smoothness draw
    have straight : turned lobe.normalized = 0 ↔ turned lobe = 0 := by
      rw [scaled, turned_smul, mul_eq_zero]
      exact or_iff_right (mul_pos positive positive).ne'
    rw [length, along, sub_eq_self, mul_eq_zero, mul_self_eq_zero, mul_self_eq_zero, straight,
      sin_lobeAngle_eq_zero_iff smoothness inside]
    simp only [and_true, long, true_and]
    exact or_comm
  · have collapsed : lobeDir (0 : Vector3 ℝ) smoothness draw = 0 := by
      ext <;> simp [lobeDir, Vector3.cross]
    rw [Vector3.normalized_of_short long, collapsed]
    constructor
    · rintro ⟨one, -⟩
      simp [Vector3.dot] at one
    · rintro ⟨some, -⟩
      exact absurd some long

end

/-- The directions are of length one, and at their drawn angles to the axis, exactly where there is an axis and its
turned coordinates are perpendicular to it, or the direction is the axis. -/
theorem lobe_unit_iff (random : Random ℝ σ) (bounds : random.InBounds) (faceNormal reflectDir : Vector3 ℝ)
    (smoothness : ℝ) (num : Int) (s : σ) :
    let lobe := Vector3.lerp faceNormal reflectDir smoothness
    List.Forall₂
        (fun dir draw => dir.dot dir = 1 ∧ dir.dot lobe.normalized = Mathf.cos (lobeAngle smoothness draw.1))
        ((getRandomDirsBlinnPhongImportance2 random faceNormal reflectDir smoothness num).run s).1
        (lobeDraws random num s) ↔
      ∀ draw ∈ lobeDraws random num s, 1 / 100000 < lobe.magnitude ∧ (turned lobe = 0 ∨ draw.1 = 0) := by
  intro lobe
  rw [getRandomDirsBlinnPhongImportance2_run, List.forall₂_map_left_iff, List.forall₂_same]
  constructor
  · intro all draw member
    exact (lobeDir_unit_iff lobe smoothness (mem_pairDraws bounds draw member)).mp (all draw member)
  · intro all draw member
    exact (lobeDir_unit_iff lobe smoothness (mem_pairDraws bounds draw member)).mpr (all draw member)

theorem lerp_self (a : Vector3 ℝ) (t : ℝ) : Vector3.lerp a a t = a := by
  ext <;> simp [Vector3.lerp]

theorem lobe_unit_up :
    let lobe := Vector3.lerp (Vector3.up : Vector3 ℝ) Vector3.up 1
    List.Forall₂ (fun dir draw => dir.dot dir = 1 ∧ dir.dot lobe.normalized = Mathf.cos (lobeAngle 1 draw.1))
      ((getRandomDirsBlinnPhongImportance2 highest Vector3.up Vector3.up 1 8).run ()).1 (lobeDraws highest 8 ()) := by
  have unit : (Vector3.up : Vector3 ℝ).dot Vector3.up = 1 := by simp [Vector3.dot, Vector3.up]
  have long : 1 / 100000 < (Vector3.up : Vector3 ℝ).magnitude :=
    lt_of_lt_of_le (by norm_num) (Vector3.one_le_magnitude unit.ge)
  apply (lobe_unit_iff highest highest_inBounds Vector3.up Vector3.up 1 8 ()).mpr
  intro draw _
  rw [lerp_self]
  exact ⟨long, .inl (by simp [turned, Vector3.up])⟩

/-- An oblique normal, seen head on: the direction is too short. -/
theorem lobe_short :
    ∃ dir, ((getRandomDirsBlinnPhongImportance2 highest ⟨3 / 5, 4 / 5, 0⟩ ⟨3 / 5, 4 / 5, 0⟩ 0 1).run ()).1 = [dir] ∧
      dir.dot dir < 1 := by
  let normal : Vector3 ℝ := ⟨3 / 5, 4 / 5, 0⟩
  have unit : normal.dot normal = 1 := by norm_num [Vector3.dot, normal]
  have axis : (Vector3.lerp normal normal 0).normalized = normal := by
    rw [lerp_self, Vector3.normalized_of_unit unit]
  refine ⟨_, getRandomDirsBlinnPhongImportance2_run highest normal normal 0 1 (), ?_⟩
  rw [axis, (lobeDir_dot unit 0 (1, Mathf.pi * 2)).1]
  have tilted : turned normal = 12 / 25 := by norm_num [turned, normal]
  have wide : Mathf.sin (lobeAngle (0 : ℝ) 1) ≠ 0 := by
    rw [Ne, sin_lobeAngle_eq_zero_iff 0 ⟨zero_le_one, le_rfl⟩]
    exact one_ne_zero
  rw [tilted]
  have lost := mul_self_pos.mpr wide
  linarith

end RayTraceTool

end RayTraceRenderer.Managed
