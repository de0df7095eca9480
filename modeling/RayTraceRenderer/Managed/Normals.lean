import RayTraceRenderer.Managed.HitPoint
import RayTraceRenderer.Managed.Tracing
import Mathlib.Data.Rat.Floor

/-! The normal of a hit and the triangle that AddMesh stored.

AddMesh scales and rotates the corners, TraceColor only rotates the normals. Scaling keeps a normal
across its triangle exactly where it only lengthens it.
-/

set_option autoImplicit false

namespace RayTraceRenderer.Managed

open Unity Native

variable {K : Type} [Field K]

/-! ## Flat triangles -/

structure TriangleAt (mesh : SimpleMesh K) (primID : Nat) (t0 t1 t2 : Int) (p0 p1 p2 n0 n1 n2 : Vector3 K) : Prop where
  indices : mesh.triangles[3 * primID]? = some t0 ∧ mesh.triangles[3 * primID + 1]? = some t1 ∧
    mesh.triangles[3 * primID + 2]? = some t2
  corners : arrayGet mesh.vertices t0 = .ok p0 ∧ arrayGet mesh.vertices t1 = .ok p1 ∧ arrayGet mesh.vertices t2 = .ok p2
  normals : arrayGet mesh.normals t0 = .ok n0 ∧ arrayGet mesh.normals t1 = .ok n1 ∧ arrayGet mesh.normals t2 = .ok n2

structure Flat (p0 p1 p2 normal : Vector3 K) : Prop where
  unit : normal.dot normal = 1
  edge1 : normal.dot (p1 - p0) = 0
  edge2 : normal.dot (p2 - p0) = 0
  area : (p1 - p0).cross (p2 - p0) ≠ 0

/-- The scale is the same on all axes along which the normal leans. -/
def ScaleAgrees (scale normal : Vector3 K) : Prop :=
  (normal.x ≠ 0 → normal.y ≠ 0 → scale.x = scale.y) ∧ (normal.y ≠ 0 → normal.z ≠ 0 → scale.y = scale.z) ∧
    (normal.z ≠ 0 → normal.x ≠ 0 → scale.z = scale.x)

-- A product of two vectors that is stretched along one of them: the scales agree or a component is zero.
theorem scaleAgrees_iff_cross (scale normal : Vector3 K) :
    ScaleAgrees scale normal ↔ (scale.scale normal).cross normal = 0 := by
  have component : ∀ s s' n n' : K, (n ≠ 0 → n' ≠ 0 → s = s') ↔ s * n * n' - s' * n' * n = 0 := by
    intro s s' n n'
    have factor : s * n * n' - s' * n' * n = (s - s') * (n * n') := by ring
    rw [factor, mul_eq_zero, mul_eq_zero, sub_eq_zero]
    tauto
  rw [ScaleAgrees, component, component, component, Vector3.ext_iff]
  simp only [Vector3.cross, Vector3.scale, Vector3.zero_x, Vector3.zero_y, Vector3.zero_z]
  tauto

section
variable [LinearOrder K] [IsStrictOrderedRing K]

-- The scaled normal stays across the edges exactly where it stays along the normal.
theorem scaled_perpendicular_iff {p0 p1 p2 normal : Vector3 K} (flat : Flat p0 p1 p2 normal) (scale : Vector3 K) :
    ((scale.scale normal).dot (p2 - p0) = 0 ∧ (scale.scale normal).dot (p1 - p0) = 0) ↔ ScaleAgrees scale normal := by
  rcases flat with ⟨unit, edge1, edge2, area⟩
  rw [scaleAgrees_iff_cross]
  constructor
  · rintro ⟨across2, across1⟩
    -- both are along the product of the edges
    exact Vector3.cross_eq_zero_of_along area (Vector3.cross_of_perpendicular across1 across2)
      (Vector3.cross_of_perpendicular edge1 edge2)
  · intro along
    have multiple := Vector3.eq_smul_of_along unit along
    have across : ∀ edge, normal.dot edge = 0 → (scale.scale normal).dot edge = 0 := by
      intro edge perpendicular
      rw [multiple, Vector3.smul_dot, perpendicular, mul_zero]
    exact ⟨across _ edge2, across _ edge1⟩

end

theorem worldPos_sub {rst : RST K} (unit : rst.rot.IsUnit) (p q : Vector3 K) :
    worldPos rst p - worldPos rst q = rst.rot.rotate (rst.scale.scale (p - q)) := by
  rw [worldPos_eq unit, worldPos_eq unit]
  ext <;> simp [Quaternion.rotate, Vector3.scale] <;> ring

theorem dot_worldPos_sub {rst : RST K} (unit : rst.rot.IsUnit) (normal p q : Vector3 K) :
    (rst.rot.rotate normal).dot (worldPos rst p - worldPos rst q) = (rst.scale.scale normal).dot (p - q) := by
  rw [worldPos_sub unit, Unity.Quaternion.dot_rotate unit]
  simp only [Vector3.dot, Vector3.scale]
  ring

theorem lerpVector3_same (normal : Vector3 K) (u v : K) : RayTraceTool.lerpVector3 normal normal normal u v = normal := by
  ext <;> simp [RayTraceTool.lerpVector3] <;> ring

/-! ## Hits -/

section
variable [LinearOrder K] {renderer : Renderer K} {model : SimpleModel K} {t0 t1 t2 : Int}
  {p0 p1 p2 n0 n1 n2 : Vector3 K}

omit [LinearOrder K] in
theorem TriangleAt.surface {scene : SimpleScene K} {geomID primID : UInt32}
    (triangle : TriangleAt model.mesh primID.toNat t0 t1 t2 p0 p1 p2 n0 n1 n2)
    (few : scene.models.length < 2 ^ 31) (held : scene.models[geomID.toNat]? = some model)
    (managed : model.mesh.triangles.length < 2 ^ 31) {u v : K} {surface : Surface K}
    (found : scene.surface geomID primID u v = .ok surface) :
    surface.model = model ∧ surface.t0 = t0 ∧ surface.t1 = t1 ∧ surface.t2 = t2 := by
  rcases triangle.indices with ⟨index0, index1, index2⟩
  have last := (List.getElem?_eq_some_iff.mp index2).1
  have entry : ∀ k : UInt32, k.toNat < 3 → ∀ t, model.mesh.triangles[3 * primID.toNat + k.toNat]? = some t →
      arrayGet model.mesh.triangles (primID * 3 + k).toNat = .ok t := by
    intro k small t stored
    rw [primID_offset (by omega), Nat.mul_comm, arrayGet_eq_ok]
    exact ⟨Int.natCast_nonneg _, stored⟩
  unfold SimpleScene.surface at found
  rw [SimpleScene.listGet_model few held] at found
  simp only [bind_eq_ok, Except.ok.injEq, exists_eq_left', entry 0 (by decide) t0 index0,
    entry 1 (by decide) t1 index1, entry 2 (by decide) t2 index2] at found
  rcases found with ⟨uv0, -, uv1, -, uv2, -, same⟩
  cases same
  exact ⟨rfl, rfl, rfl, rfl⟩

omit [LinearOrder K] in
theorem TriangleAt.corners_world {geomID primID : UInt32}
    (triangle : TriangleAt model.mesh primID.toNat t0 t1 t2 p0 p1 p2 n0 n1 n2)
    {models : List (SimpleModel K)} (held : models[geomID.toNat]? = some model) {V0 V1 V2 : Vector3 K}
    (resolved : (nativeOf models).corners geomID primID = some (V0, V1, V2)) :
    V0 = worldPos model.rst p0 ∧ V1 = worldPos model.rst p2 ∧ V2 = worldPos model.rst p1 := by
  have stored : (nativeOf models).geometries[geomID.toNat]? =
      some (meshGeometry model.rst model.mesh.vertices model.mesh.triangles 1) := by
    rw [nativeOf_geometries, List.getElem?_map, held]
    rfl
  obtain ⟨s0, s1, s2, q0, q1, q2, -, ⟨index0, index1, index2⟩, ⟨corner0, corner1, corner2⟩, world⟩ :=
    corners_of_mesh stored resolved
  rcases triangle.indices with ⟨same0, same1, same2⟩
  rcases triangle.corners with ⟨place0, place1, place2⟩
  cases index0.symm.trans same0
  cases index1.symm.trans same1
  cases index2.symm.trans same2
  cases corner0.symm.trans place0
  cases corner1.symm.trans place1
  cases corner2.symm.trans place2
  exact world

/-- The normal of a hit on a flat triangle is across both edges of the stored triangle exactly where
the scales of its mesh agree. -/
theorem hitNormal_perpendicular_iff [IsStrictOrderedRing K] [FloorRing K] (reports : renderer.embree.BarycentricHits)
    (native : renderer.nativeScene = nativeOf renderer.scene.models) (few : renderer.scene.models.length < 2 ^ 31)
    {pos dir : Vector3 K} {length : K} {hit : Hit K} (found : renderer.closest pos dir length = some hit)
    (held : renderer.scene.models[hit.geomID.toNat]? = some model) (unit : model.rst.rot.IsUnit)
    (managed : model.mesh.triangles.length < 2 ^ 31) {normal : Vector3 K}
    (triangle : TriangleAt model.mesh hit.primID.toNat t0 t1 t2 p0 p1 p2 normal normal normal)
    (flat : Flat p0 p1 p2 normal) {info : HitInfo K}
    (looked : renderer.hitInfo (renderer.intersect pos dir length) = .ok info) :
    ∃ V0 V1 V2, renderer.nativeScene.corners hit.geomID hit.primID = some (V0, V1, V2) ∧
      (info.hitNormal.dot (V1 - V0) = 0 ∧ info.hitNormal.dot (V2 - V0) = 0 ↔
        ScaleAgrees model.rst.scale normal) := by
  rcases reports _ _ _ found with ⟨V0, V1, V2, resolved, -⟩
  refine ⟨V0, V1, V2, resolved, ?_⟩
  have resolved : renderer.nativeScene.corners hit.geomID hit.primID = some (V0, V1, V2) := resolved
  rw [native] at resolved
  rcases triangle.corners_world held resolved with ⟨rfl, rfl, rfl⟩
  obtain ⟨surface, sampled, m0, m1, m2, surfaced, -, ⟨normal0, normal1, normal2⟩, rfl⟩ := renderer.hitInfo_spec found looked
  rcases triangle.surface few held managed surfaced with ⟨rfl, rfl, rfl, rfl⟩
  rcases triangle.normals with ⟨same0, same1, same2⟩
  cases normal0.symm.trans same0
  cases normal1.symm.trans same1
  cases normal2.symm.trans same2
  rw [lerpVector3_same, dot_worldPos_sub unit, dot_worldPos_sub unit]
  exact scaled_perpendicular_iff flat _

end

/-! ### A leaning triangle -/

def leaningMesh : SimpleMesh Rat where
  triangles := [0, 1, 2]
  uv := List.replicate 3 ⟨0, 0⟩
  vertices := [0, ⟨0, 0, 1⟩, ⟨4, -3, 0⟩]
  normals := List.replicate 3 ⟨3 / 5, 4 / 5, 0⟩

def leaning (scale : Vector3 Rat) : SimpleModel Rat :=
  { plainPane 0 Color.white .Opaque Opaque.notAdditive with
    rst := ⟨Unity.Quaternion.identity, scale, 0⟩
    mesh := leaningMesh }

theorem leaning_triangle : TriangleAt leaningMesh 0 0 1 2 0 ⟨0, 0, 1⟩ ⟨4, -3, 0⟩
    ⟨3 / 5, 4 / 5, 0⟩ ⟨3 / 5, 4 / 5, 0⟩ ⟨3 / 5, 4 / 5, 0⟩ where
  indices := ⟨rfl, rfl, rfl⟩
  corners := ⟨rfl, rfl, rfl⟩
  normals := ⟨rfl, rfl, rfl⟩

theorem leaning_flat : Flat (0 : Vector3 Rat) ⟨0, 0, 1⟩ ⟨4, -3, 0⟩ ⟨3 / 5, 4 / 5, 0⟩ where
  unit := by decide +kernel
  edge1 := by decide +kernel
  edge2 := by decide +kernel
  area := by decide +kernel

theorem hitNormal_perpendicular_stretched :
    let renderer := Renderer.over Embree.closedSegment [leaning ⟨2, 2, 1⟩] [] Color.black
    ∃ info V0 V1 V2, renderer.hitInfo (renderer.intersect ⟨1, -5 / 2, 1 / 4⟩ ⟨1, 1, 0⟩ 1000) = .ok info ∧
      renderer.nativeScene.corners 0 0 = some (V0, V1, V2) ∧
      info.hitNormal.dot (V1 - V0) = 0 ∧ info.hitNormal.dot (V2 - V0) = 0 := by
  intro renderer
  have found : renderer.closest ⟨1, -5 / 2, 1 / 4⟩ ⟨1, 1, 0⟩ 1000 =
      some ⟨⟨1, 1 / 4, 1 / 4, 0, 0⟩, ⟨6, 8, 0⟩⟩ := by decide +kernel
  have normal : (renderer.hitInfo (renderer.intersect ⟨1, -5 / 2, 1 / 4⟩ ⟨1, 1, 0⟩ 1000)).map HitInfo.hitNormal =
      .ok ⟨3 / 5, 4 / 5, 0⟩ := by decide +kernel
  rcases map_eq_ok.mp normal with ⟨info, looked, -⟩
  obtain ⟨V0, V1, V2, resolved, perpendicular⟩ := hitNormal_perpendicular_iff
    (exhaustive_reportsNearest Embree.closedSegment).barycentricHits rfl (by decide) found (rfl : _ = some (leaning ⟨2, 2, 1⟩))
    Unity.Quaternion.identity_isUnit (by decide) leaning_triangle leaning_flat looked
  exact ⟨info, V0, V1, V2, looked, resolved, perpendicular.mpr ⟨fun _ _ => rfl, by simp, by simp⟩⟩

/-- Twice as high as wide, and its normal is no longer across it. -/
theorem hitNormal_leans :
    let renderer := Renderer.over Embree.closedSegment [leaning ⟨1, 2, 1⟩] [] Color.black
    TriangleAt (leaning ⟨1, 2, 1⟩).mesh 0 0 1 2 0 ⟨0, 0, 1⟩ ⟨4, -3, 0⟩
        ⟨3 / 5, 4 / 5, 0⟩ ⟨3 / 5, 4 / 5, 0⟩ ⟨3 / 5, 4 / 5, 0⟩ ∧
      Flat (0 : Vector3 Rat) ⟨0, 0, 1⟩ ⟨4, -3, 0⟩ ⟨3 / 5, 4 / 5, 0⟩ ∧
      ∃ info V0 V1 V2, renderer.hitInfo (renderer.intersect ⟨0, -5 / 2, 1 / 4⟩ ⟨1, 1, 0⟩ 1000) = .ok info ∧
        renderer.nativeScene.corners 0 0 = some (V0, V1, V2) ∧ info.hitNormal.dot (V1 - V0) = -12 / 5 := by
  intro renderer
  have normal : (renderer.hitInfo (renderer.intersect ⟨0, -5 / 2, 1 / 4⟩ ⟨1, 1, 0⟩ 1000)).map HitInfo.hitNormal =
      .ok ⟨3 / 5, 4 / 5, 0⟩ := by decide +kernel
  have corners : renderer.nativeScene.corners 0 0 = some (0, ⟨4, -6, 0⟩, ⟨0, 0, 1⟩) := by decide +kernel
  rcases map_eq_ok.mp normal with ⟨info, looked, same⟩
  refine ⟨leaning_triangle, leaning_flat, info, _, _, _, looked, corners, ?_⟩
  rw [same]
  decide +kernel

end RayTraceRenderer.Managed
