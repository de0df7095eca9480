import RayTraceRenderer.Native.Batch
import RayTraceRenderer.Native.Intersector
import RayTraceRenderer.Managed.RayTraceTool
import Mathlib.Algebra.Order.Field.Rat

/-! The point that the managed side interpolates is the point that Embree hit.

AddMesh stores the corners of a triangle in the order 0, 2, 1, and every query
returns Embree's v as u and its u as v. The two exchanges cancel in the
barycentric combination, which commutes with the transform of the mesh.
-/

set_option autoImplicit false

namespace RayTraceRenderer.Managed

open Unity Native

variable {K : Type} [Field K]

theorem mulVec_eq_rotate {q : Unity.Quaternion K} (unit : q.IsUnit) (point : Vector3 K) :
    (⟨q.w, q.x, q.y, q.z⟩ : Quaternion3f K).mulVec point = q.rotate point := by
  unfold Unity.Quaternion.IsUnit at unit
  have real : q.w * q.w = 1 - (q.x * q.x + q.y * q.y + q.z * q.z) := by linear_combination unit
  ext
  · simp only [Quaternion3f.mulVec, Quaternion3f.mul, Quaternion3f.ofVector, Quaternion3f.conj,
      Quaternion3f.v, Quaternion.rotate]
    linear_combination point.x * real
  · simp only [Quaternion3f.mulVec, Quaternion3f.mul, Quaternion3f.ofVector, Quaternion3f.conj,
      Quaternion3f.v, Quaternion.rotate]
    linear_combination point.y * real
  · simp only [Quaternion3f.mulVec, Quaternion3f.mul, Quaternion3f.ofVector, Quaternion3f.conj,
      Quaternion3f.v, Quaternion.rotate]
    linear_combination point.z * real

theorem worldPos_eq {rst : RST K} (unit : rst.rot.IsUnit) (point : Vector3 K) :
    worldPos rst point = rst.rot.rotate (rst.scale.scale point) + rst.pos := by
  rw [worldPos, mulVec_eq_rotate unit]
  congr 2
  ext <;> simp only [Vector3.scale] <;> ring

-- The transform of a mesh is affine: it commutes with weights of total one.
theorem transform_lerp (rst : RST K) (p0 p1 p2 : Vector3 K) (u v : K) :
    rst.rot.rotate (rst.scale.scale (RayTraceTool.lerpVector3 p0 p1 p2 u v)) + rst.pos =
      barycentric (rst.rot.rotate (rst.scale.scale p0) + rst.pos)
        (rst.rot.rotate (rst.scale.scale p1) + rst.pos)
        (rst.rot.rotate (rst.scale.scale p2) + rst.pos) u v := by
  have scaled : rst.scale.scale (RayTraceTool.lerpVector3 p0 p1 p2 u v) =
      (1 - u - v) • rst.scale.scale p0 + u • rst.scale.scale p1 + v • rst.scale.scale p2 := by
    ext <;> simp [RayTraceTool.lerpVector3, Vector3.scale] <;> ring
  rw [scaled, Unity.Quaternion.rotate_combine]
  ext <;> simp [barycentric] <;> ring

-- Exchanging two corners and their coordinates names the same point.
theorem barycentric_exchange (V0 V1 V2 : Vector3 K) (u v : K) :
    barycentric V0 V2 V1 u v = barycentric V0 V1 V2 v u := by
  ext <;> simp [barycentric] <;> ring

def Answered (embree : Embree K) (scene : RTCScene K) (ray out : Ray K) : Prop :=
  (∃ stack, out = intersect embree scene stack ray) ∨
  ∃ packetStack rayStack rayCount rays j, j < rayCount ∧ rays j = ray ∧
    out = batchIntersect embree scene packetStack rayStack rayCount rays j

theorem Answered.answers {embree : Embree K} {scene : RTCScene K} {ray out : Ray K}
    (answered : Answered embree scene ray out) : Answers embree scene ray out := by
  rcases answered with ⟨stack, rfl⟩ | ⟨packetStack, rayStack, rayCount, rays, j, below, rfl, rfl⟩
  · exact intersect_answers stack ray
  · obtain ⟨packed, single, -⟩ := batchIntersect_answers embree scene
      packetStack rayStack rayCount rays
    by_cases inPacket : j < rayCount / 8 * 8
    · exact (packed j inPacket).toAnswers
    · obtain ⟨stack, same⟩ := single j (by omega) below
      rw [same]
      exact intersect_answers stack (rays j)

def meshGeometry (rst : RST K) (vertices : List (Vector3 K)) (triangles : List Int) (mask : UInt32) :
    TriangleMesh K :=
  storedMesh rst vertices.length triangles.length (marshalVectors vertices) (marshalInts triangles) mask

theorem corners_of_mesh {scene : RTCScene K} {rst : RST K} {vertices : List (Vector3 K)}
    {triangles : List Int} {mask geomID primID : UInt32} {V0 V1 V2 : Vector3 K}
    (stored : scene.geometries[geomID.toNat]? = some (meshGeometry rst vertices triangles mask))
    (resolved : scene.corners geomID primID = some (V0, V1, V2)) :
    ∃ t0 t1 t2 p0 p1 p2,
      (meshGeometry rst vertices triangles mask).trianglesBuf[primID.toNat]? = some ⟨t0, t2, t1⟩ ∧
      (triangles[3 * primID.toNat]? = some t0 ∧ triangles[3 * primID.toNat + 1]? = some t1 ∧
        triangles[3 * primID.toNat + 2]? = some t2) ∧
      (arrayGet vertices t0 = .ok p0 ∧ arrayGet vertices t1 = .ok p1 ∧ arrayGet vertices t2 = .ok p2) ∧
      V0 = worldPos rst p0 ∧ V1 = worldPos rst p2 ∧ V2 = worldPos rst p1 := by
  simp only [RTCScene.corners, stored, Option.bind_eq_bind, Option.bind_some,
    Option.bind_eq_some_iff] at resolved
  rcases resolved with ⟨triangle, selected, corners⟩
  simp only [TriangleMesh.corners, Option.bind_eq_bind, Option.bind_eq_some_iff, Option.pure_def,
    Option.some.injEq, Prod.mk.injEq] at corners
  rcases corners with ⟨W0, found0, W1, found1, W2, found2, rfl, rfl, rfl⟩
  obtain ⟨p0, nonneg0, vertex0, world0⟩ := storedMesh_vertex found0
  obtain ⟨p2, nonneg2, vertex2, world2⟩ := storedMesh_vertex found1
  obtain ⟨p1, nonneg1, vertex1, world1⟩ := storedMesh_vertex found2
  obtain ⟨first, second, third⟩ := storedMesh_triangle selected
  refine ⟨triangle.v0, triangle.v2, triangle.v1, p0, p1, p2, selected, ⟨first, second, third⟩, ?_,
    world0, world2, world1⟩
  simp only [arrayGet_eq_ok]
  exact ⟨⟨nonneg0, vertex0⟩, ⟨nonneg1, vertex1⟩, ⟨nonneg2, vertex2⟩⟩

theorem addMesh_stores (scene : RTCScene K) (rst : RST K) (vertices : List (Vector3 K))
    (triangles : List Int) (mask : UInt32) (later : List (TriangleMesh K)) :
    ((addMesh scene rst vertices.length triangles.length (marshalVectors vertices)
      (marshalInts triangles) mask).2.geometries ++ later)[scene.geometries.length]? =
      some (meshGeometry rst vertices triangles mask) := by
  simp [addMesh, meshGeometry]

/-- The managed corners and coordinates of a hit name the point Embree reports, and every
vertex attribute is interpolated with the weights Embree gives to the stored corners. -/
theorem lerp_hit_point (embree : Embree K) (reports : embree.BarycentricHits) (scene : RTCScene K)
    (rst : RST K) (unit : rst.rot.IsUnit) (vertices : List (Vector3 K)) (triangles : List Int)
    (mask : UInt32) (ray out : Ray K) (answered : Answered embree scene ray out) (hit : Hit K)
    (found : embree.closest scene ray.toRayData = some hit)
    (stored : scene.geometries[hit.geomID.toNat]? = some (meshGeometry rst vertices triangles mask)) :
    ∃ t0 t1 t2 p0 p1 p2,
      (triangles[3 * out.primID.toNat]? = some t0 ∧ triangles[3 * out.primID.toNat + 1]? = some t1 ∧
        triangles[3 * out.primID.toNat + 2]? = some t2) ∧
      (arrayGet vertices t0 = .ok p0 ∧ arrayGet vertices t1 = .ok p1 ∧ arrayGet vertices t2 = .ok p2) ∧
      rst.rot.rotate (rst.scale.scale (RayTraceTool.lerpVector3 p0 p1 p2 out.u out.v)) + rst.pos =
        out.pos + out.length • out.dir ∧
      ∃ triangle,
        (meshGeometry rst vertices triangles mask).trianglesBuf[hit.primID.toNat]? = some triangle ∧
        (∀ attr : Int → Vector2 K,
          RayTraceTool.lerpVector2 (attr t0) (attr t1) (attr t2) out.u out.v =
            (1 - hit.u - hit.v) • attr triangle.v0 + hit.u • attr triangle.v1 +
              hit.v • attr triangle.v2) ∧
        ∀ attr : Int → Vector3 K,
          RayTraceTool.lerpVector3 (attr t0) (attr t1) (attr t2) out.u out.v =
            (1 - hit.u - hit.v) • attr triangle.v0 + hit.u • attr triangle.v1 +
              hit.v • attr triangle.v2 := by
  rcases answered.answers with ⟨⟨pos, dir, -⟩, onHit, -⟩
  obtain ⟨-, primID, length, -, u, v⟩ := onHit hit found
  obtain ⟨V0, V1, V2, resolved, point⟩ := reports scene ray.toRayData hit found
  obtain ⟨t0, t1, t2, p0, p1, p2, selected, indices, corners, world0, world1, world2⟩ :=
    corners_of_mesh stored resolved
  rw [primID, length, u, v, pos, dir]
  refine ⟨t0, t1, t2, p0, p1, p2, indices, corners, ?_, ⟨t0, t2, t1⟩, selected, ?_, ?_⟩
  · calc rst.rot.rotate (rst.scale.scale (RayTraceTool.lerpVector3 p0 p1 p2 hit.v hit.u)) + rst.pos
        = barycentric V0 V2 V1 hit.v hit.u := by
          rw [transform_lerp, world0, world1, world2, worldPos_eq unit, worldPos_eq unit, worldPos_eq unit]
      _ = barycentric V0 V1 V2 hit.u hit.v := barycentric_exchange V0 V1 V2 hit.v hit.u
      _ = ray.pos + hit.t • ray.dir := point.symm
  · intro attr
    ext <;> simp [RayTraceTool.lerpVector2] <;> ring
  · intro attr
    ext <;> simp [RayTraceTool.lerpVector3] <;> ring

def turnedMesh : TriangleMesh Rat :=
  meshGeometry ⟨⟨0, 0, 3 / 5, 4 / 5⟩, ⟨1, 2, 1⟩, ⟨0, 0, 1⟩⟩ [⟨0, 0, 0⟩, ⟨4, 0, 0⟩, ⟨0, 1, 0⟩] [0, 1, 2] 1

def turnedRay : Ray Rat :=
  { pos := ⟨-1, 1, 0⟩, mask := 0xFFFFFFFF, dir := ⟨0, 0, 1⟩, length := 1000
    geomID := RTC_INVALID_GEOMETRY_ID, primID := RTC_INVALID_GEOMETRY_ID
    u := 0, v := 0, normal := 0, align1 := 0 }

theorem lerp_hit_point_turned :
    ∃ p0 p1 p2 : Vector3 Rat,
      let out := intersect (exhaustive Embree.closedSegment) ⟨[turnedMesh]⟩ blankStack turnedRay
      out.u ≠ out.v ∧
      (⟨0, 0, 3 / 5, 4 / 5⟩ : Unity.Quaternion Rat).rotate
          ((⟨1, 2, 1⟩ : Vector3 Rat).scale (RayTraceTool.lerpVector3 p0 p1 p2 out.u out.v)) + ⟨0, 0, 1⟩ =
        out.pos + out.length • out.dir := by
  obtain ⟨_, _, _, p0, p1, p2, -, -, point, -⟩ := lerp_hit_point (exhaustive Embree.closedSegment)
    (exhaustive_reportsNearest _).barycentricHits ⟨[turnedMesh]⟩
    ⟨⟨0, 0, 3 / 5, 4 / 5⟩, ⟨1, 2, 1⟩, ⟨0, 0, 1⟩⟩ (by decide +kernel)
    [⟨0, 0, 0⟩, ⟨4, 0, 0⟩, ⟨0, 1, 0⟩] [0, 1, 2] 1 turnedRay _ (.inl ⟨blankStack, rfl⟩)
    ⟨⟨1, 31 / 50, 17 / 100, 0, 0⟩, ⟨0, 0, 8⟩⟩ (by decide +kernel) rfl
  exact ⟨p0, p1, p2, by decide +kernel, point⟩

end RayTraceRenderer.Managed
