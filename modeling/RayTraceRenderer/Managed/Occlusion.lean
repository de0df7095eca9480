import RayTraceRenderer.Managed.HitPoint
import RayTraceRenderer.Managed.LightLists
import RayTraceRenderer.Managed.LightPath
import RayTraceRenderer.Managed.Sampling

/-! A triangle behind a light.

The shadow ray of a light starts a little in front of the hit, and the length it is given is a little
longer than the way to the light. Its segment ends behind the light, and what stands there occludes it.
Whether its start belongs to the segment makes no difference to that.
-/

set_option autoImplicit false

namespace RayTraceRenderer.Managed

open Unity Native Recursion

variable {K : Type} [Field K] [LinearOrder K] [FloorRing K]

/-! ## Triangles that let nothing through -/

/-- A model of one triangle that is solid wherever it is sampled. -/
structure Occluder (K : Type) [Field K] [LinearOrder K] [FloorRing K] where
  rst : RST K
  corner0 : Vector3 K
  corner1 : Vector3 K
  corner2 : Vector3 K
  uv0 : Vector2 K
  uv1 : Vector2 K
  uv2 : Vector2 K
  normals : List (Vector3 K)
  material : SimpleMaterialBase K
  solid : ∀ uv, ∃ texColor, material.pointSample uv = .ok texColor ∧ 99 / 100 ≤ texColor.a

namespace Occluder

variable (occluder : Occluder K)

def model : SimpleModel K where
  rst := occluder.rst
  mesh :=
    { triangles := [0, 1, 2]
      uv := [occluder.uv0, occluder.uv1, occluder.uv2]
      vertices := [occluder.corner0, occluder.corner1, occluder.corner2]
      normals := occluder.normals }
  material := occluder.material
  lights := []

def geometry : TriangleMesh K := meshGeometry occluder.rst occluder.model.mesh.vertices occluder.model.mesh.triangles 1

/-- The line meets the stored triangle at some distance, in units of its direction. -/
def MeetsAt (pos dir : Vector3 K) (x : K) : Prop :=
  let V0 := worldPos occluder.rst occluder.corner0
  let V1 := worldPos occluder.rst occluder.corner2
  let V2 := worldPos occluder.rst occluder.corner1
  determinant V0 V1 V2 dir ≠ 0 ∧ OnTriangle V0 V1 V2 (pos + x • dir)

variable {occluder}

theorem meetsAt_reaim (occluder : Occluder K) (pos dir : Vector3 K) (start : K) {step t : K} (moving : step ≠ 0) :
    occluder.MeetsAt (pos + start • dir) (step • dir) t ↔ occluder.MeetsAt pos dir (start + step * t) := by
  unfold MeetsAt
  simp only [determinant_smul, Vector3.add_smul_reaim, ne_eq, mul_eq_zero, moving, false_or]

theorem nativeOf_add (models : List (SimpleModel K)) :
    nativeOf (models ++ [occluder.model]) = (nativeOf models).add occluder.geometry := by
  unfold nativeOf
  rw [List.foldl_append]
  rfl

omit [LinearOrder K] [FloorRing K] in
theorem nativeOf_length (models : List (SimpleModel K)) : (nativeOf models).geometries.length = models.length := by
  rw [nativeOf_geometries, List.length_map]

theorem corners_new {models : List (SimpleModel K)} {geomID primID : UInt32} (new : geomID.toNat = models.length)
    {V0 V1 V2 : Vector3 K} (resolved : ((nativeOf models).add occluder.geometry).corners geomID primID = some (V0, V1, V2)) :
    V0 = worldPos occluder.rst occluder.corner0 ∧ V1 = worldPos occluder.rst occluder.corner2 ∧
      V2 = worldPos occluder.rst occluder.corner1 := by
  have stored : ((nativeOf models).add occluder.geometry).geometries[geomID.toNat]? = some occluder.geometry := by
    rw [new, ← nativeOf_length models]
    exact List.getElem?_concat_length
  obtain ⟨t0, t1, t2, p0, p1, p2, -, ⟨index0, index1, index2⟩, ⟨corner0, corner1, corner2⟩, world⟩ :=
    corners_of_mesh stored resolved
  have last := (List.getElem?_eq_some_iff.mp index2).1
  have first : primID.toNat = 0 := by
    have three : occluder.model.mesh.triangles.length = 3 := rfl
    omega
  rw [first] at index0 index1 index2
  cases index0
  cases index1
  cases index2
  cases corner0
  cases corner1
  cases corner2
  exact world

theorem meets_of_crosses {models : List (SimpleModel K)} {ray : RayData K} {c : Crossing K}
    (crosses : Crosses ((nativeOf models).add occluder.geometry) ray c) (new : c.geomID.toNat = models.length) :
    occluder.MeetsAt ray.org ray.dir c.t := by
  rcases crosses.meets with ⟨V0, V1, V2, resolved, transversal, meets⟩
  rcases corners_new new resolved with ⟨rfl, rfl, rfl⟩
  exact ⟨transversal, c.u, c.v, crosses.inside.1, crosses.inside.2.1, crosses.inside.2.2, meets⟩

end Occluder

/-! ## Shadow rays that do not get to it -/

def Renderer.withModels (renderer : Renderer K) (models : List (SimpleModel K)) : Renderer K :=
  { renderer with scene := { renderer.scene with models }, nativeScene := nativeOf models }

section
variable {renderer : Renderer K} {models : List (SimpleModel K)} {occluder : Occluder K} {withStart : Bool}

omit [Field K] [LinearOrder K] [FloorRing K] in
-- The cast of an id is its own value or negative, so that the earlier models keep their ids.
theorem listGet_append {α : Type} (list later : List α) {id : Nat} (earlier : id < list.length) (small : id < 2 ^ 32) :
    listGet (list ++ later) (wrap32 id) = listGet list (wrap32 id) := by
  unfold listGet
  split
  next nonneg =>
    have value : (wrap32 id).toNat < list.length := by
      unfold wrap32 at nonneg ⊢
      omega
    rw [List.getElem?_append_left value]
  next => rfl

theorem texelOf_append {c : Crossing K} (earlier : c.geomID.toNat < models.length) :
    (renderer.withModels (models ++ [occluder.model])).texelOf c = (renderer.withModels models).texelOf c := by
  have selected := listGet_append models [occluder.model] earlier c.geomID.toNat_lt
  unfold Renderer.texelOf SimpleScene.surfaceOf SimpleScene.surface Renderer.withModels
  simp only [selected]

variable [IsStrictOrderedRing K]

omit [IsStrictOrderedRing K] in
-- A query that ends in front of the triangle, or starts behind it, reports what it did without it.
theorem closest_append (models : List (SimpleModel K)) (ignores : renderer.embree.IgnoresMissed (Embree.segmentOf withStart))
    {pos dir : Vector3 K} {length : K}
    (clear : ∀ t, Embree.segmentOf withStart (newRay pos dir length).toRayData t → ¬ occluder.MeetsAt pos dir t) :
    (renderer.withModels (models ++ [occluder.model])).closest pos dir length =
      (renderer.withModels models).closest pos dir length := by
  unfold Renderer.closest Renderer.withModels
  simp only [Occluder.nativeOf_add]
  apply ignores
  intro c crosses new admitted
  rw [Occluder.nativeOf_length] at new
  exact clear c.t admitted (Occluder.meets_of_crosses crosses new)

/-- The shadow ray of a line: every query covers less of it than the first. -/
theorem getLightPathColor_append (models : List (SimpleModel K))
    (reports : renderer.embree.ReportsNearest (Embree.segmentOf withStart))
    (ignores : renderer.embree.IgnoresMissed (Embree.segmentOf withStart)) {pos dir : Vector3 K} {bound : K}
    (clear : ∀ t, Embree.segmentOf withStart (newRay pos dir bound).toRayData t → ¬ occluder.MeetsAt pos dir t)
    (fuel : Nat) {start step length : K} (moving : 0 < step) (begins : 0 ≤ start) (ends : start + step * length ≤ bound) :
    (renderer.withModels (models ++ [occluder.model])).getLightPathColor fuel (pos + start • dir) (step • dir) length =
      (renderer.withModels models).getLightPathColor fuel (pos + start • dir) (step • dir) length := by
  induction fuel generalizing start step length with
  | zero => rfl
  | succ fuel ih =>
    have unseen : ∀ t, Embree.segmentOf withStart (newRay (pos + start • dir) (step • dir) length).toRayData t →
        ¬ occluder.MeetsAt (pos + start • dir) (step • dir) t := by
      intro t admitted
      rw [occluder.meetsAt_reaim pos dir start moving.ne']
      apply clear
      refine Embree.segmentOf_reaim moving ?_ ends admitted
      show 0 ≤ start + step * 0
      rw [mul_zero, add_zero]
      exact begins
    have same := closest_append models ignores unseen
    cases found : (renderer.withModels models).closest (pos + start • dir) (step • dir) length with
    | none =>
      rw [found] at same
      rw [Renderer.getLightPathColor_miss same, Renderer.getLightPathColor_miss found]
    | some hit =>
      rw [found] at same
      rcases reports.crosses (show renderer.embree.closest _ _ = some hit from found) with ⟨crosses, admitted⟩
      have nonneg : 0 ≤ hit.t := (Embree.segmentOf_le admitted).1
      have le : hit.t ≤ length := (Embree.segmentOf_le admitted).2
      have earlier : hit.geomID.toNat < models.length := by
        rcases crosses.seen with ⟨mesh, stored, -⟩
        rw [← Occluder.nativeOf_length]
        exact (List.getElem?_eq_some_iff.mp stored).1
      have forward := mul_nonneg moving.le nonneg
      have rest := mul_nonneg moving.le (sub_nonneg.mpr le)
      have ahead := ih (show 0 < 1 / 100 * step by linarith) (show 0 ≤ start + step * hit.t by linarith)
        (show start + step * hit.t + 1 / 100 * step * (length - hit.t) ≤ bound by linarith)
      rw [Renderer.getLightPathColor_hit same, Renderer.getLightPathColor_hit found, texelOf_append earlier,
        Vector3.add_smul_reaim, Vector3.smul_smul, ahead]

/-! ## A scene of nothing else -/

omit [IsStrictOrderedRing K] in
theorem getLightPathColor_empty (reports : renderer.embree.ReportsNearest (Embree.segmentOf withStart)) (fuel : Nat)
    (pos dir : Vector3 K) (length : K) :
    (renderer.withModels []).getLightPathColor (fuel + 1) pos dir length = .ok Color.white := by
  apply Renderer.getLightPathColor_miss
  cases found : (renderer.withModels []).closest pos dir length with
  | none => rfl
  | some hit =>
    rcases reports.crosses (show renderer.embree.closest _ _ = some hit from found) with ⟨crosses, -⟩
    rcases crosses.seen with ⟨mesh, stored, -⟩
    cases stored

omit [LinearOrder K] [FloorRing K] [IsStrictOrderedRing K] in
theorem SimpleScene.surface_single {scene : SimpleScene K} {model : SimpleModel K} {uv0 uv1 uv2 : Vector2 K}
    (alone : scene.models = [model]) (triangles : model.mesh.triangles = [0, 1, 2])
    (coordinates : model.mesh.uv = [uv0, uv1, uv2]) (u v : K) :
    scene.surface 0 0 u v = .ok ⟨model, 0, 1, 2, RayTraceTool.lerpVector2 uv0 uv1 uv2 u v⟩ := by
  have selected : listGet scene.models (wrap32 (0 : UInt32).toNat) = .ok model :=
    SimpleScene.listGet_model (by simp [alone]) (by simp [alone])
  have index0 : arrayGet model.mesh.triangles ((0 : UInt32) * 3 + 0).toNat = .ok 0 := by rw [triangles]; rfl
  have index1 : arrayGet model.mesh.triangles ((0 : UInt32) * 3 + 1).toNat = .ok 1 := by rw [triangles]; rfl
  have index2 : arrayGet model.mesh.triangles ((0 : UInt32) * 3 + 2).toNat = .ok 2 := by rw [triangles]; rfl
  have corner0 : arrayGet model.mesh.uv 0 = .ok uv0 := by rw [coordinates]; rfl
  have corner1 : arrayGet model.mesh.uv 1 = .ok uv1 := by rw [coordinates]; rfl
  have corner2 : arrayGet model.mesh.uv 2 = .ok uv2 := by rw [coordinates]; rfl
  unfold SimpleScene.surface
  simp only [selected, index0, index1, index2, corner0, corner1, corner2, bind, Except.bind, pure, Except.pure]

omit [IsStrictOrderedRing K] in
theorem texelOf_only (renderer : Renderer K) (occluder : Occluder K) {c : Crossing K} (geomID : c.geomID = 0) (primID : c.primID = 0) :
    ∃ texColor, (renderer.withModels [occluder.model]).texelOf c = .ok texColor ∧ 99 / 100 ≤ texColor.a := by
  obtain ⟨texColor, sampled, solid⟩ := occluder.solid
    (RayTraceTool.lerpVector2 occluder.uv0 occluder.uv1 occluder.uv2 c.v c.u)
  refine ⟨texColor, ?_, solid⟩
  have alone : (renderer.withModels [occluder.model]).scene.models = [occluder.model] := rfl
  unfold Renderer.texelOf SimpleScene.surfaceOf
  rw [geomID, primID, SimpleScene.surface_single alone rfl rfl]
  exact sampled

omit [IsStrictOrderedRing K] in
theorem Occluder.corners_only : ((nativeOf []).add occluder.geometry).corners 0 0 =
    some (worldPos occluder.rst occluder.corner0, worldPos occluder.rst occluder.corner2,
      worldPos occluder.rst occluder.corner1) := by
  have vertex : ∀ i : Nat, ∀ p, occluder.model.mesh.vertices[i]? = some p →
      occluder.geometry.vertex i = some (worldPos occluder.rst p) := by
    intro i p found
    rcases List.getElem?_eq_some_iff.mp found with ⟨bound, rfl⟩
    simp [TriangleMesh.vertex, Occluder.geometry, meshGeometry, storedMesh, toVec3f_marshal, bound]
  have stored : ((nativeOf []).add occluder.geometry).geometries[(0 : UInt32).toNat]? = some occluder.geometry := rfl
  have triangle : occluder.geometry.trianglesBuf[(0 : UInt32).toNat]? = some ⟨0, 2, 1⟩ := by
    simp [Occluder.geometry, meshGeometry, storedMesh, marshalInts, Occluder.model]
  have corner0 : occluder.geometry.vertex 0 = some (worldPos occluder.rst occluder.corner0) := vertex 0 _ rfl
  have corner1 : occluder.geometry.vertex 1 = some (worldPos occluder.rst occluder.corner1) := vertex 1 _ rfl
  have corner2 : occluder.geometry.vertex 2 = some (worldPos occluder.rst occluder.corner2) := vertex 2 _ rfl
  unfold RTCScene.corners TriangleMesh.corners
  rw [stored]
  simp only [Option.bind_eq_bind, Option.bind_some, triangle, corner0, corner2, corner1]
  rfl

omit [IsStrictOrderedRing K] in
theorem Occluder.crosses_of_meets {ray : RayData K} {x : K} (meets : occluder.MeetsAt ray.org ray.dir x)
    (sees : 1 &&& ray.mask ≠ 0) : ∃ c, Crosses ((nativeOf []).add occluder.geometry) ray c ∧ c.t = x := by
  rcases meets with ⟨transversal, u, v, nonnegU, nonnegV, total, point⟩
  have valid : (0 : UInt32) ≠ RTC_INVALID_GEOMETRY_ID := by decide
  exact ⟨⟨x, u, v, 0, 0⟩, ⟨⟨occluder.geometry, rfl, sees⟩,
    ⟨_, _, _, Occluder.corners_only, transversal, point⟩, ⟨nonnegU, nonnegV, total⟩, valid⟩, rfl⟩

section
variable {embree : Embree K} {pos dir : Vector3 K} {length : K}

omit [IsStrictOrderedRing K] in
theorem Occluder.closest_none (reports : embree.ReportsNearest (Embree.segmentOf withStart))
    (missed : embree.closest ((nativeOf []).add occluder.geometry) (newRay pos dir length).toRayData = none) {t : K}
    (meets : occluder.MeetsAt pos dir t) : ¬ Embree.segmentOf withStart (newRay pos dir length).toRayData t := by
  have sees : (1 : UInt32) &&& 0xFFFFFFFF ≠ 0 := by decide
  have meets : occluder.MeetsAt (newRay pos dir length).toRayData.org (newRay pos dir length).toRayData.dir t := meets
  rcases Occluder.crosses_of_meets meets sees with ⟨c, crosses, rfl⟩
  exact reports.missed missed crosses

omit [IsStrictOrderedRing K] in
theorem Occluder.closest_some (reports : embree.ReportsNearest (Embree.segmentOf withStart)) {hit : Hit K}
    (found : embree.closest ((nativeOf []).add occluder.geometry) (newRay pos dir length).toRayData = some hit) :
    (hit.geomID = 0 ∧ hit.primID = 0) ∧ occluder.MeetsAt pos dir hit.t ∧
      Embree.segmentOf withStart (newRay pos dir length).toRayData hit.t := by
  rcases reports.crosses found with ⟨crosses, admitted⟩
  rcases reports.registered _ _ _ found with ⟨mesh, stored, inside⟩
  have stored : [occluder.geometry][hit.geomID.toNat]? = some mesh := stored
  rcases List.getElem?_eq_some_iff.mp stored with ⟨bound, rfl⟩
  have geomID : hit.geomID.toNat = 0 := Nat.lt_one_iff.mp bound
  have primID : hit.primID.toNat = 0 := by
    simp only [geomID, List.getElem_cons_zero] at inside
    simpa [Occluder.geometry, meshGeometry, storedMesh, Occluder.model] using inside
  exact ⟨⟨UInt32.toNat_inj.mp geomID, UInt32.toNat_inj.mp primID⟩, Occluder.meets_of_crosses crosses geomID, admitted⟩

end

omit [IsStrictOrderedRing K] in
-- Alone, the triangle is met or nothing is.
theorem getLightPathColor_only (reports : renderer.embree.ReportsNearest (Embree.segmentOf withStart))
    (pos dir : Vector3 K) (length : K) :
    ∃ color, (renderer.withModels [occluder.model]).getLightPathColor 1 pos dir length = .ok color ∧
      (color = Color.white ∨ color = Color.black) ∧
      ((∃ t, occluder.MeetsAt pos dir t ∧ Embree.segmentOf withStart (newRay pos dir length).toRayData t) →
        color = Color.black) := by
  cases found : (renderer.withModels [occluder.model]).closest pos dir length with
  | none =>
    refine ⟨Color.white, Renderer.getLightPathColor_miss found 0, .inl rfl, ?_⟩
    rintro ⟨t, meets, admitted⟩
    exact absurd admitted (Occluder.closest_none reports found meets)
  | some hit =>
    obtain ⟨⟨geomID, primID⟩, -⟩ := Occluder.closest_some reports found
    obtain ⟨texColor, sampled, solid⟩ := texelOf_only renderer occluder geomID primID
    refine ⟨Color.black, ?_, .inr rfl, fun _ => rfl⟩
    rw [Renderer.getLightPathColor_hit found, sampled]
    exact if_neg (not_lt.mpr solid)

/-! ## Lights -/

variable [Mathf K] {light : Light K} {pos normal : Vector3 K}

omit [IsStrictOrderedRing K] in
def Renderer.shadow (renderer : Renderer K) (fuel : Nat) (pos : Vector3 K) (light : Light K) : Except (Stop Exn) (Color K) :=
  renderer.getLightPathColor fuel (pos + (1 / 100 : K) • lightDir light pos) (lightDir light pos) (lightLength light pos)

/-- The triangle stands in the way of the shadow ray of a light, or closely behind the light. -/
def Occludes (withStart : Bool) (occluder : Occluder K) (pos : Vector3 K) (light : Light K) : Prop :=
  let origin := pos + (1 / 100 : K) • lightDir light pos
  ∃ t, occluder.MeetsAt origin (lightDir light pos) t ∧
    Embree.segmentOf withStart (newRay origin (lightDir light pos) (lightLength light pos)).toRayData t

theorem shadow_append (models : List (SimpleModel K)) (reports : renderer.embree.ReportsNearest (Embree.segmentOf withStart))
    (ignores : renderer.embree.IgnoresMissed (Embree.segmentOf withStart)) (clear : ¬ Occludes withStart occluder pos light)
    (fuel : Nat) : (renderer.withModels (models ++ [occluder.model])).shadow fuel pos light =
      (renderer.withModels models).shadow fuel pos light := by
  have ends : 0 + 1 * lightLength light pos ≤ lightLength light pos := by
    rw [zero_add, one_mul]
  have unseen := not_exists.mp clear
  have same := getLightPathColor_append models reports ignores (fun t admitted meets => unseen t ⟨meets, admitted⟩) fuel
    one_pos le_rfl ends
  rw [Vector3.add_zero_smul, Vector3.one_smul] at same
  exact same

omit [IsStrictOrderedRing K] in
theorem shadow_only (renderer : Renderer K) (occluder : Occluder K)
    (reports : renderer.embree.ReportsNearest (Embree.segmentOf withStart)) (pos : Vector3 K) (light : Light K) :
    ∃ color, (renderer.withModels [occluder.model]).shadow 1 pos light = .ok color ∧
      (color = Color.white ∨ color = Color.black) ∧ (Occludes withStart occluder pos light → color = Color.black) :=
  getLightPathColor_only reports _ _ _

theorem occludes_point (point : light.type = .point) :
    let meets := occluder.MeetsAt pos (lightDir light pos)
    let behind := (light.transform.position - pos).magnitude + 2 / 100
    (Occludes withStart occluder pos light → ∃ x, meets x ∧ 1 / 100 ≤ x ∧ x ≤ behind) ∧
      ((∃ x, meets x ∧ 1 / 100 < x ∧ x ≤ behind) → Occludes withStart occluder pos light) := by
  intro meets behind
  have length : lightLength light pos = behind - 1 / 100 := by
    unfold lightLength
    rw [point, if_neg (by decide)]
    ring
  have shifted : ∀ t, occluder.MeetsAt (pos + (1 / 100 : K) • lightDir light pos) (lightDir light pos) t ↔
      meets (1 / 100 + t) := by
    intro t
    have reaimed := occluder.meetsAt_reaim pos (lightDir light pos) (1 / 100) (t := t) one_ne_zero
    rw [Vector3.one_smul, one_mul] at reaimed
    exact reaimed
  constructor
  · rintro ⟨t, met, admitted⟩
    have begins : 0 ≤ t := (Embree.segmentOf_le admitted).1
    have ends : t ≤ lightLength light pos := (Embree.segmentOf_le admitted).2
    exact ⟨1 / 100 + t, (shifted t).mp met, by linarith, by linarith⟩
  · rintro ⟨x, met, begins, ends⟩
    have ahead : 0 < x - 1 / 100 := by linarith
    have inside : x - 1 / 100 ≤ lightLength light pos := by linarith
    refine ⟨x - 1 / 100, (shifted _).mpr ?_, Embree.segmentOf_lt withStart ahead inside⟩
    rw [add_sub_cancel]
    exact met

-- Alone, the triangle takes light away, and all of it from a light that it occludes.
theorem contribution_only (renderer : Renderer K) (occluder : Occluder K)
    (reports : renderer.embree.ReportsNearest (Embree.segmentOf withStart)) (pos normal : Vector3 K) (light : Light K) :
    let before := renderer.withModels []
    let after := renderer.withModels [occluder.model]
    let unshadowed := before.contribution (before.getLightPathColor 1) pos normal light
    let shadowed := after.contribution (after.getLightPathColor 1) pos normal light
    shadowed.grayscale ≤ unshadowed.grayscale ∧
      (renderer.Shines pos normal light → Occludes withStart occluder pos light → shadowed.grayscale < unshadowed.grayscale) := by
  intro before after unshadowed shadowed
  by_cases shines : renderer.Shines pos normal light
  · have bright : 0 < (renderer.lightColor pos normal light).grayscale := lt_trans (by norm_num) shines.2
    have lit : unshadowed = Color.white * renderer.lightColor pos normal light :=
      Renderer.contribution_of_path shines (getLightPathColor_empty reports 0 _ _ _)
    rcases shadow_only renderer occluder reports pos light with ⟨color, traced, either, occluded⟩
    have rest : shadowed = color * renderer.lightColor pos normal light := Renderer.contribution_of_path shines traced
    rw [lit, rest, Color.white_mul]
    constructor
    · rcases either with rfl | rfl
      · rw [Color.white_mul]
      · rw [Color.black_mul_grayscale]
        exact bright.le
    · intro _ occludes
      rw [occluded occludes, Color.black_mul_grayscale]
      exact bright
  · have unlit : unshadowed = shadowed := (if_neg shines).trans (if_neg shines).symm
    exact ⟨unlit ▸ le_rfl, fun shines' => absurd shines' shines⟩

theorem getAllLightsColor_append (models : List (SimpleModel K)) (reports : renderer.embree.ReportsNearest (Embree.segmentOf withStart))
    (ignores : renderer.embree.IgnoresMissed (Embree.segmentOf withStart))
    (clear : ∀ light ∈ renderer.scene.lights, renderer.Shines pos normal light → ¬ Occludes withStart occluder pos light)
    (fuel : Nat) (model : SimpleModel K) :
    let before := renderer.withModels models
    let after := renderer.withModels (models ++ [occluder.model])
    after.getAllLightsColor (after.getLightPathColor fuel) model pos normal =
      before.getAllLightsColor (before.getLightPathColor fuel) model pos normal := by
  intro before after
  apply foldlM_congr
  intro light member acc
  rw [Renderer.addLight_eq, Renderer.addLight_eq]
  by_cases shines : renderer.Shines pos normal light
  · have same := shadow_append models reports ignores (clear light member shines) fuel
    unfold Renderer.shadow at same
    rw [same]
    rfl
  · exact (if_neg shines).trans (if_neg shines).symm

omit [IsStrictOrderedRing K] in
theorem getAllLightsColor_of_shadow (renderer : Renderer K) {fuel : Nat} (pos normal : Vector3 K)
    (traced : ∀ light ∈ renderer.scene.lights, renderer.Shines pos normal light →
      ∃ color, renderer.shadow fuel pos light = .ok color) (model : SimpleModel K) :
    renderer.getAllLightsColor (renderer.getLightPathColor fuel) model pos normal =
      .ok ((renderer.scene.lights.map (renderer.contribution (renderer.getLightPathColor fuel) pos normal)).foldl (· + ·)
        Color.black) := by
  have step : ∀ light ∈ renderer.scene.lights, ∀ acc, ∃ acc',
      renderer.addLight (renderer.getLightPathColor fuel) pos normal acc light = .ok acc' := by
    intro light member acc
    rw [Renderer.addLight_eq]
    by_cases shines : renderer.Shines pos normal light
    · rcases traced light member shines with ⟨color, found⟩
      unfold Renderer.shadow at found
      rw [if_pos shines, found]
      exact ⟨_, rfl⟩
    · exact ⟨acc, if_neg shines⟩
  rcases foldlM_returns _ step Color.black with ⟨color, returned⟩
  rw [← Renderer.addLights_eq returned]
  exact returned

/-- A light that is occluded by the triangle alone is missed. -/
theorem getAllLightsColor_only (reports : renderer.embree.ReportsNearest (Embree.segmentOf withStart))
    (member : light ∈ renderer.scene.lights) (shines : renderer.Shines pos normal light)
    (occludes : Occludes withStart occluder pos light) (model : SimpleModel K) :
    let before := renderer.withModels []
    let after := renderer.withModels [occluder.model]
    after.getAllLightsColor (after.getLightPathColor 1) model pos normal ≠
      before.getAllLightsColor (before.getLightPathColor 1) model pos normal := by
  intro before after same
  have parts := contribution_only renderer occluder reports pos normal
  have darkened : ∀ other ∈ after.scene.lights, after.Shines pos normal other →
      ∃ color, after.shadow 1 pos other = .ok color := by
    intro other _ _
    rcases shadow_only renderer occluder reports pos other with ⟨color, traced, -⟩
    exact ⟨color, traced⟩
  have clear : ∀ other ∈ before.scene.lights, before.Shines pos normal other →
      ∃ color, before.shadow 1 pos other = .ok color :=
    fun other _ _ => ⟨Color.white, getLightPathColor_empty reports 0 _ _ _⟩
  have shadowed := getAllLightsColor_of_shadow after pos normal darkened model
  have unshadowed := getAllLightsColor_of_shadow before pos normal clear model
  rw [shadowed, unshadowed, Except.ok.injEq] at same
  have equal := congrArg Color.grayscale same
  rw [Color.foldl_add_grayscale, Color.foldl_add_grayscale, List.map_map, List.map_map] at equal
  have less := List.sum_lt_sum _ _ (fun other _ => (parts other).1) ⟨light, member, (parts light).2 shines occludes⟩
  exact less.ne (add_left_cancel equal)

/-- A triangle changes the light of a point in no scene exactly where it occludes no light that gets a
shadow ray. -/
theorem getAllLightsColor_occluded_iff (renderer : Renderer K)
    (reports : renderer.embree.ReportsNearest (Embree.segmentOf withStart))
    (ignores : renderer.embree.IgnoresMissed (Embree.segmentOf withStart)) (occluder : Occluder K) (pos normal : Vector3 K) :
    ((∀ models fuel model,
      let before := renderer.withModels models
      let after := renderer.withModels (models ++ [occluder.model])
      after.getAllLightsColor (after.getLightPathColor fuel) model pos normal =
        before.getAllLightsColor (before.getLightPathColor fuel) model pos normal) ↔
      ∀ light ∈ renderer.scene.lights, renderer.Shines pos normal light → ¬ Occludes withStart occluder pos light) ∧
    ∀ light : Light K, light.type = .point →
      let meets := occluder.MeetsAt pos (lightDir light pos)
      let behind := (light.transform.position - pos).magnitude + 2 / 100
      (Occludes withStart occluder pos light → ∃ x, meets x ∧ 1 / 100 ≤ x ∧ x ≤ behind) ∧
        ((∃ x, meets x ∧ 1 / 100 < x ∧ x ≤ behind) → Occludes withStart occluder pos light) := by
  constructor
  · constructor
    · intro same light member shines occludes
      exact getAllLightsColor_only reports member shines occludes occluder.model (same [] 1 occluder.model)
    · intro clear models fuel model
      exact getAllLightsColor_append models reports ignores clear fuel model
  · intro light point
    exact occludes_point point

end

/-! ## White triangles -/

omit [LinearOrder K] [FloorRing K] in
theorem worldPos_upright (point : Vector3 K) : worldPos (rstOf upright) point = point := by
  have unit : (rstOf (upright : Transform K)).rot.IsUnit := Unity.Quaternion.identity_isUnit
  rw [worldPos_eq unit]
  ext <;> simp [rstOf, upright, Unity.Quaternion.identity, Unity.Quaternion.rotate, Vector3.scale]

omit [LinearOrder K] [FloorRing K] in
theorem blank_texels : Texels (SimpleTexture.blank : SimpleTexture K).colors 1 1 :=
  ⟨one_pos, one_pos, rfl, by decide⟩

theorem solid_of_blank [IsStrictOrderedRing K] {material : SimpleMaterial K} (blank : material.texture = .blank)
    (uv : Vector2 K) :
    ∃ texColor, (SimpleMaterialBase.mesh material).pointSample uv = .ok texColor ∧ 99 / 100 ≤ texColor.a := by
  have sampled := pointSample_eq blank_texels uv
  have white := RayTraceTool.pointSample_mem sampled
  have read : (SimpleMaterialBase.mesh material).pointSample uv =
      RayTraceTool.pointSample SimpleTexture.blank.colors (1 : Nat) (1 : Nat) uv := by
    unfold SimpleMaterialBase.pointSample SimpleMaterialBase.sample
    simp only [blank]
    rfl
  refine ⟨_, read.trans sampled, ?_⟩
  rw [List.mem_singleton.mp white]
  norm_num [Color.white]

/-! ### A lamp at a wall -/

def whitewash : SimpleMaterialBase Rat := .mesh
  { glossiness := 0, metallic := 0, texture := .blank, color := Color.white
    renderMode := .Opaque, notAdditive := Opaque.notAdditive }

def wall (z : Rat) : Occluder Rat where
  rst := rstOf upright
  corner0 := ⟨-1, -1, z⟩
  corner1 := ⟨3, -1, z⟩
  corner2 := ⟨-1, 3, z⟩
  uv0 := ⟨0, 0⟩
  uv1 := ⟨0, 0⟩
  uv2 := ⟨0, 0⟩
  normals := List.replicate 3 ⟨0, 0, -1⟩
  material := whitewash
  solid := solid_of_blank rfl

theorem wall_meetsAt (z x : Rat) : (wall z).MeetsAt 0 ⟨0, 0, 1⟩ x ↔ x = z := by
  have world : ∀ p, worldPos (wall z).rst p = p := worldPos_upright
  unfold Occluder.MeetsAt
  rw [world, world, world]
  constructor
  · rintro ⟨-, u, v, -, -, -, point⟩
    have height := congrArg Vector3.z point
    simp only [wall, barycentric, Vector3.add_z, Vector3.smul_z, Vector3.zero_z] at height
    linarith
  · rintro rfl
    refine ⟨?_, 1 / 4, 1 / 4, ?_, ?_, ?_, ?_⟩
    · simp [wall, determinant, Vector3.dot, Vector3.cross]
      norm_num
    · norm_num
    · norm_num
    · norm_num
    · ext <;> simp [wall, barycentric] <;> ring

def ceilingLamp : Light Rat := { lamp 10 with transform := ⟨⟨0, 0, 1⟩, Unity.Quaternion.identity, ⟨1, 1, 1⟩⟩ }

def lampRenderer : Renderer Rat := .over Embree.closedSegment [] [ceilingLamp] Color.black

theorem ceilingLamp_above :
    letI := Mathf.atUnits
    lightDir ceilingLamp 0 = ⟨0, 0, 1⟩ ∧ (ceilingLamp.transform.position - 0).magnitude = 1 :=
  ⟨by decide +kernel, by decide +kernel⟩

/-- A wall as far behind the lamp as the lamp is in front. -/
theorem getAllLightsColor_occluded_far :
    letI := Mathf.atUnits
    let before := lampRenderer.withModels []
    let after := lampRenderer.withModels [(wall 2).model]
    after.getAllLightsColor (after.getLightPathColor 1) (wall 2).model 0 ⟨0, 0, 1⟩ =
      before.getAllLightsColor (before.getLightPathColor 1) (wall 2).model 0 ⟨0, 0, 1⟩ := by
  let := Mathf.atUnits
  rcases ceilingLamp_above with ⟨dir, distance⟩
  have reports : lampRenderer.embree.ReportsNearest (Embree.segmentOf true) :=
    exhaustive_reportsNearest Embree.closedSegment
  have ignores : lampRenderer.embree.IgnoresMissed (Embree.segmentOf true) :=
    exhaustive_ignoresMissed Embree.closedSegment
  have unchanged := getAllLightsColor_occluded_iff lampRenderer reports ignores (wall 2) 0 ⟨0, 0, 1⟩
  refine unchanged.1.mpr ?_ [] 1 (wall 2).model
  intro light member _ occludes
  obtain rfl := List.mem_singleton.mp member
  rcases (unchanged.2 ceilingLamp rfl).1 occludes with ⟨x, meets, -, before⟩
  rw [dir, wall_meetsAt] at meets
  rw [distance, meets] at before
  norm_num at before

/-- A wall one hundredth behind the lamp. -/
theorem getAllLightsColor_occluded_near :
    letI := Mathf.atUnits
    let before := lampRenderer.withModels []
    let after := lampRenderer.withModels [(wall (101 / 100)).model]
    (ceilingLamp.transform.position - 0).magnitude = 1 ∧
      (∀ x, (wall (101 / 100)).MeetsAt 0 (lightDir ceilingLamp 0) x → 1 < x) ∧
      before.getAllLightsColor (before.getLightPathColor 1) (wall (101 / 100)).model 0 ⟨0, 0, 1⟩ =
        .ok ⟨10000 / 10201, 10000 / 10201, 10000 / 10201, 1 + 10000 / 10201⟩ ∧
      after.getAllLightsColor (after.getLightPathColor 1) (wall (101 / 100)).model 0 ⟨0, 0, 1⟩ =
        .ok ⟨0, 0, 0, 1 + 10000 / 10201⟩ := by
  let := Mathf.atUnits
  refine ⟨ceilingLamp_above.2, fun x meets => ?_, by decide +kernel, by decide +kernel⟩
  rw [ceilingLamp_above.1, wall_meetsAt] at meets
  rw [meets]
  norm_num

end RayTraceRenderer.Managed
