import RayTraceRenderer.Native.Embree
import Mathlib.Data.List.MinMax
import Mathlib.Data.Option.Basic
import Mathlib.Tactic.FieldSimp

/-! An exhaustive intersector: an executable Embree that answers exactly.

Every triangle is solved for the ray by Cramer's rule, and the nearest solution
on the segment is reported. It satisfies each assumption made of Embree, so none
of them is vacuous, and concrete scenes can be evaluated with it.
-/

set_option autoImplicit false

namespace RayTraceRenderer.Native

open Unity

/-! ## The ids of a scene -/

section
variable {K : Type}

/-- The ids in use: below the number of geometries, and short of the invalid id. -/
def geomIDs (scene : RTCScene K) : List UInt32 :=
  (List.range (min scene.geometries.length 0xFFFFFFFF)).map UInt32.ofNat

def primIDs (scene : RTCScene K) (geomID : UInt32) : List UInt32 :=
  let count := ((scene.geometries[geomID.toNat]?).map (·.trianglesBuf.length)).getD 0
  (List.range (min count 0x100000000)).map UInt32.ofNat

theorem mem_geomIDs {scene : RTCScene K} {geomID : UInt32} {mesh : TriangleMesh K}
    (stored : scene.geometries[geomID.toNat]? = some mesh) (valid : geomID ≠ RTC_INVALID_GEOMETRY_ID) :
    geomID ∈ geomIDs scene := by
  have bound := (List.getElem?_eq_some_iff.mp stored).1
  have small := geomID.toNat_lt
  have notLast : geomID.toNat ≠ 0xFFFFFFFF := fun same => valid (UInt32.toNat_inj.mp same)
  refine List.mem_map.mpr ⟨geomID.toNat, List.mem_range.mpr ?_, UInt32.ofNat_toNat⟩
  omega

theorem valid_of_mem_geomIDs {scene : RTCScene K} {geomID : UInt32} (member : geomID ∈ geomIDs scene) :
    geomID ≠ RTC_INVALID_GEOMETRY_ID := by
  obtain ⟨g, inRange, rfl⟩ := List.mem_map.mp member
  have bound := List.mem_range.mp inRange
  intro same
  have value := congrArg UInt32.toNat same
  have small : g < UInt32.size := by
    unfold UInt32.size
    omega
  rw [UInt32.toNat_ofNat_of_lt' small] at value
  change g = 0xFFFFFFFF at value
  omega

theorem mem_primIDs {scene : RTCScene K} {geomID primID : UInt32}
    {corners : Vector3 K × Vector3 K × Vector3 K} (resolved : scene.corners geomID primID = some corners) :
    primID ∈ primIDs scene geomID := by
  simp only [RTCScene.corners, Option.bind_eq_bind, Option.bind_eq_some_iff] at resolved
  rcases resolved with ⟨mesh, stored, triangle, selected, -⟩
  have bound := (List.getElem?_eq_some_iff.mp selected).1
  have small := primID.toNat_lt
  refine List.mem_map.mpr ⟨primID.toNat, List.mem_range.mpr ?_, UInt32.ofNat_toNat⟩
  simp only [stored, Option.map_some, Option.getD_some]
  omega

end

variable {K : Type} [Field K]

/-! ## One triangle -/

def solveT (V0 V1 V2 org dir : Vector3 K) : K :=
  (V2 - V0).dot ((org - V0).cross (V1 - V0)) / determinant V0 V1 V2 dir

def solveU (V0 V1 V2 org dir : Vector3 K) : K :=
  (org - V0).dot (dir.cross (V2 - V0)) / determinant V0 V1 V2 dir

def solveV (V0 V1 V2 org dir : Vector3 K) : K :=
  dir.dot ((org - V0).cross (V1 - V0)) / determinant V0 V1 V2 dir

-- Cramer's rule for the point where a ray meets the plane of a triangle.
theorem meets_iff_solve {V0 V1 V2 org dir : Vector3 K} {t u v : K}
    (transversal : determinant V0 V1 V2 dir ≠ 0) :
    org + t • dir = barycentric V0 V1 V2 u v ↔
      t = solveT V0 V1 V2 org dir ∧ u = solveU V0 V1 V2 org dir ∧ v = solveV V0 V1 V2 org dir := by
  constructor
  · intro meets
    have hx := congrArg Vector3.x meets
    have hy := congrArg Vector3.y meets
    have hz := congrArg Vector3.z meets
    simp only [barycentric, Vector3.add_x, Vector3.add_y, Vector3.add_z, Vector3.smul_x,
      Vector3.smul_y, Vector3.smul_z] at hx hy hz
    simp only [solveT, solveU, solveV, eq_div_iff transversal]
    simp only [determinant, Vector3.dot, Vector3.cross, Vector3.sub_x, Vector3.sub_y, Vector3.sub_z]
    -- Each unknown is isolated by the normal of the plane through the other two edges.
    refine ⟨?_, ?_, ?_⟩
    · linear_combination
        -((V1.y - V0.y) * (V2.z - V0.z) - (V1.z - V0.z) * (V2.y - V0.y)) * hx
        - ((V1.z - V0.z) * (V2.x - V0.x) - (V1.x - V0.x) * (V2.z - V0.z)) * hy
        - ((V1.x - V0.x) * (V2.y - V0.y) - (V1.y - V0.y) * (V2.x - V0.x)) * hz
    · linear_combination
        -(dir.y * (V2.z - V0.z) - dir.z * (V2.y - V0.y)) * hx
        - (dir.z * (V2.x - V0.x) - dir.x * (V2.z - V0.z)) * hy
        - (dir.x * (V2.y - V0.y) - dir.y * (V2.x - V0.x)) * hz
    · linear_combination
        (dir.y * (V1.z - V0.z) - dir.z * (V1.y - V0.y)) * hx
        + (dir.z * (V1.x - V0.x) - dir.x * (V1.z - V0.z)) * hy
        + (dir.x * (V1.y - V0.y) - dir.y * (V1.x - V0.x)) * hz
  · rintro ⟨rfl, rfl, rfl⟩
    ext
    · simp only [barycentric, solveT, solveU, solveV, Vector3.add_x, Vector3.smul_x]
      field_simp
      simp only [determinant, Vector3.dot, Vector3.cross, Vector3.sub_x, Vector3.sub_y, Vector3.sub_z]
      ring
    · simp only [barycentric, solveT, solveU, solveV, Vector3.add_y, Vector3.smul_y]
      field_simp
      simp only [determinant, Vector3.dot, Vector3.cross, Vector3.sub_x, Vector3.sub_y, Vector3.sub_z]
      ring
    · simp only [barycentric, solveT, solveU, solveV, Vector3.add_z, Vector3.smul_z]
      field_simp
      simp only [determinant, Vector3.dot, Vector3.cross, Vector3.sub_x, Vector3.sub_y, Vector3.sub_z]
      ring

/-! ## A scene -/

variable [LinearOrder K]

def crossingAt (scene : RTCScene K) (ray : RayData K) (geomID primID : UInt32) : Option (Crossing K) := do
  let mesh ← scene.geometries[geomID.toNat]?
  guard (mesh.mask &&& ray.mask ≠ 0)
  let (V0, V1, V2) ← scene.corners geomID primID
  guard (determinant V0 V1 V2 ray.dir ≠ 0)
  let u := solveU V0 V1 V2 ray.org ray.dir
  let v := solveV V0 V1 V2 ray.org ray.dir
  guard (0 ≤ u ∧ 0 ≤ v ∧ u + v ≤ 1)
  return ⟨solveT V0 V1 V2 ray.org ray.dir, u, v, geomID, primID⟩

def crossings (scene : RTCScene K) (ray : RayData K) : List (Crossing K) :=
  (geomIDs scene).flatMap fun geomID => (primIDs scene geomID).filterMap (crossingAt scene ray geomID)

theorem crossingAt_eq_some {scene : RTCScene K} {ray : RayData K} {geomID primID : UInt32}
    {c : Crossing K} : crossingAt scene ray geomID primID = some c ↔
      c.geomID = geomID ∧ c.primID = primID ∧
      (∃ mesh, scene.geometries[geomID.toNat]? = some mesh ∧ mesh.mask &&& ray.mask ≠ 0) ∧
      (∃ V0 V1 V2, scene.corners geomID primID = some (V0, V1, V2) ∧
        determinant V0 V1 V2 ray.dir ≠ 0 ∧
        ray.org + c.t • ray.dir = barycentric V0 V1 V2 c.u c.v) ∧
      0 ≤ c.u ∧ 0 ≤ c.v ∧ c.u + c.v ≤ 1 := by
  simp only [crossingAt, Option.bind_eq_bind, Option.bind_eq_some_iff, Option.guard_eq_some',
    Option.pure_def, Option.some.injEq]
  constructor
  · rintro ⟨mesh, geometry, _, seen, ⟨V0, V1, V2⟩, corners, _, transversal, _, inside, rfl⟩
    exact ⟨rfl, rfl, ⟨mesh, geometry, seen⟩,
      ⟨V0, V1, V2, corners, transversal, (meets_iff_solve transversal).mpr ⟨rfl, rfl, rfl⟩⟩, inside⟩
  · rintro ⟨rfl, rfl, ⟨mesh, geometry, seen⟩, ⟨V0, V1, V2, corners, transversal, meets⟩, inside⟩
    obtain ⟨t, u, v⟩ := (meets_iff_solve transversal).mp meets
    refine ⟨mesh, geometry, (), seen, (V0, V1, V2), corners, (), transversal, (), ?_, ?_⟩
    · rw [← u, ← v]
      exact inside
    · rw [← t, ← u, ← v]

theorem mem_crossings {scene : RTCScene K} {ray : RayData K} {c : Crossing K} :
    c ∈ crossings scene ray ↔ Crosses scene ray c := by
  simp only [crossings, List.mem_flatMap, List.mem_filterMap, crossingAt_eq_some]
  constructor
  · rintro ⟨geomID, used, primID, -, rfl, rfl, seen, meets, inside⟩
    exact ⟨seen, meets, inside, valid_of_mem_geomIDs used⟩
  · rintro ⟨seen, meets, inside, valid⟩
    have ⟨mesh, stored, _⟩ := seen
    have ⟨V0, V1, V2, corners, _⟩ := meets
    exact ⟨c.geomID, mem_geomIDs stored valid, c.primID, mem_primIDs corners, rfl, rfl, seen, meets, inside⟩

/-! ## The nearest crossing -/

variable (segment : RayData K → K → Prop) [∀ ray, DecidablePred (segment ray)]

def nearest (scene : RTCScene K) (ray : RayData K) : Option (Crossing K) :=
  ((crossings scene ray).filter fun c => segment ray c.t).argmin (·.t)

/-- The unnormalised geometry normal of a crossed triangle. -/
def geometryNormal (scene : RTCScene K) (c : Crossing K) : Vector3 K :=
  match scene.corners c.geomID c.primID with
  | some (V0, V1, V2) => (V2 - V0).cross (V1 - V0)
  | none => 0

def exhaustiveClosest (scene : RTCScene K) (ray : RayData K) : Option (Hit K) :=
  (nearest segment scene ray).map fun c => { c with Ng := geometryNormal scene c }

theorem nearest_crosses {scene : RTCScene K} {ray : RayData K} {c : Crossing K}
    (found : nearest segment scene ray = some c) : Crosses scene ray c ∧ segment ray c.t := by
  have member := List.argmin_mem (Option.mem_def.mpr found)
  simpa [mem_crossings] using member

def exhaustive : Embree K :=
  .ofClosest (exhaustiveClosest segment) (by
    intro scene ray hit found
    obtain ⟨c, crossed, rfl⟩ := Option.map_eq_some_iff.mp found
    exact (nearest_crosses segment crossed).1.valid)

theorem exhaustive_closest (scene : RTCScene K) (ray : RayData K) :
    (exhaustive segment).closest scene ray =
      (nearest segment scene ray).map fun c => { c with Ng := geometryNormal scene c } := rfl

theorem exhaustive_reportsNearest : (exhaustive segment).ReportsNearest segment := by
  intro scene ray
  cases crossed : nearest segment scene ray with
  | none =>
    have nothing : (exhaustive segment).closest scene ray = none := by
      rw [exhaustive_closest, crossed]
      rfl
    have empty := List.argmin_eq_none.mp crossed
    rw [nothing]
    intro c crosses admitted
    have member : c ∈ (crossings scene ray).filter fun c => segment ray c.t := by
      simpa [mem_crossings] using ⟨crosses, admitted⟩
    rw [empty] at member
    cases member
  | some c =>
    have reported : (exhaustive segment).closest scene ray =
        some { c with Ng := geometryNormal scene c } := by
      rw [exhaustive_closest, crossed]
      rfl
    obtain ⟨crosses, admitted⟩ := nearest_crosses segment crossed
    rw [reported]
    refine ⟨crosses, admitted, fun c' crosses' admitted' => ?_⟩
    have member : c' ∈ (crossings scene ray).filter fun c => segment ray c.t := by
      simpa [mem_crossings] using ⟨crosses', admitted'⟩
    exact List.le_of_mem_argmin member (Option.mem_def.mpr crossed)

/-! ### One more geometry -/

section
variable (scene : RTCScene K) (mesh : TriangleMesh K) (ray : RayData K)

omit [Field K] [LinearOrder K] in
theorem geomIDs_earlier {scene : RTCScene K} {geomID : UInt32} (used : geomID ∈ geomIDs scene) :
    geomID.toNat < scene.geometries.length := by
  obtain ⟨g, inRange, rfl⟩ := List.mem_map.mp used
  have bound := List.mem_range.mp inRange
  have small : g < UInt32.size := by
    unfold UInt32.size
    omega
  rw [UInt32.toNat_ofNat_of_lt' small]
  omega

omit [Field K] [LinearOrder K] in
theorem geomIDs_add : ∃ new, geomIDs (scene.add mesh) = geomIDs scene ++ new ∧
    ∀ geomID ∈ new, geomID.toNat = scene.geometries.length := by
  have length : (scene.add mesh).geometries.length = scene.geometries.length + 1 := by simp [RTCScene.add]
  unfold geomIDs
  rw [length]
  by_cases room : scene.geometries.length < 0xFFFFFFFF
  · have before : min scene.geometries.length 0xFFFFFFFF = scene.geometries.length := by omega
    have after : min (scene.geometries.length + 1) 0xFFFFFFFF = scene.geometries.length + 1 := by omega
    refine ⟨[UInt32.ofNat scene.geometries.length], ?_, ?_⟩
    · rw [before, after, List.range_succ, List.map_append]
      rfl
    · intro geomID last
      have small : scene.geometries.length < UInt32.size := by
        unfold UInt32.size
        omega
      rw [List.mem_singleton.mp last, UInt32.toNat_ofNat_of_lt' small]
  · have before : min scene.geometries.length 0xFFFFFFFF = 0xFFFFFFFF := by omega
    have after : min (scene.geometries.length + 1) 0xFFFFFFFF = 0xFFFFFFFF := by omega
    refine ⟨[], ?_, by simp⟩
    rw [before, after, List.append_nil]

theorem crossings_add : ∃ new, crossings (scene.add mesh) ray = crossings scene ray ++ new ∧
    ∀ c ∈ new, c.geomID.toNat = scene.geometries.length := by
  obtain ⟨ids, all, last⟩ := geomIDs_add scene mesh
  refine ⟨ids.flatMap fun geomID =>
    (primIDs (scene.add mesh) geomID).filterMap (crossingAt (scene.add mesh) ray geomID), ?_, ?_⟩
  · unfold crossings
    rw [all, List.flatMap_append]
    congr 1
    apply List.flatMap_congr
    intro geomID used
    have earlier := geomIDs_earlier used
    have same : crossingAt (scene.add mesh) ray geomID = crossingAt scene ray geomID := by
      funext primID
      unfold crossingAt
      rw [scene.add_of_lt mesh earlier, scene.corners_add mesh primID earlier]
    unfold primIDs
    rw [same, scene.add_of_lt mesh earlier]
  · intro c member
    obtain ⟨geomID, new, found⟩ := List.mem_flatMap.mp member
    obtain ⟨primID, -, crossing⟩ := List.mem_filterMap.mp found
    rw [(crossingAt_eq_some.mp crossing).1]
    exact last geomID new

end

theorem exhaustive_ignoresMissed : (exhaustive segment).IgnoresMissed segment := by
  intro scene mesh ray missed
  obtain ⟨new, all, last⟩ := crossings_add scene mesh ray
  have kept : (crossings (scene.add mesh) ray).filter (fun c => segment ray c.t) =
      (crossings scene ray).filter fun c => segment ray c.t := by
    rw [all, List.filter_append, List.append_right_eq_self, List.filter_eq_nil_iff]
    intro c member
    have crosses : Crosses (scene.add mesh) ray c := by
      rw [← mem_crossings, all]
      exact List.mem_append_right _ member
    simpa using missed c crosses (last c member)
  rw [exhaustive_closest, exhaustive_closest]
  have same : nearest segment (scene.add mesh) ray = nearest segment scene ray := by
    unfold nearest
    rw [kept]
  rw [same]
  cases found : nearest segment scene ray with
  | none => rfl
  | some c =>
    obtain ⟨stored, geometry, -⟩ := (nearest_crosses segment found).1.seen
    have earlier := (List.getElem?_eq_some_iff.mp geometry).1
    simp only [Option.map_some, geometryNormal, scene.corners_add mesh c.primID earlier]

variable {segment} {embree : Embree K}

omit [∀ ray, DecidablePred (segment ray)] in
theorem Embree.ReportsNearest.crosses (reports : embree.ReportsNearest segment) {scene : RTCScene K}
    {ray : RayData K} {hit : Hit K} (found : embree.closest scene ray = some hit) :
    Crosses scene ray hit.toCrossing ∧ segment ray hit.t := by
  have spec := reports scene ray
  rw [found] at spec
  exact ⟨spec.1, spec.2.1⟩

omit [∀ ray, DecidablePred (segment ray)] in
theorem Embree.ReportsNearest.missed (reports : embree.ReportsNearest segment) {scene : RTCScene K}
    {ray : RayData K} (nothing : embree.closest scene ray = none) {c : Crossing K}
    (crosses : Crosses scene ray c) : ¬ segment ray c.t := by
  have spec := reports scene ray
  rw [nothing] at spec
  exact spec c crosses

omit [∀ ray, DecidablePred (segment ray)] in
theorem Embree.ReportsNearest.nearest (reports : embree.ReportsNearest segment) {scene : RTCScene K}
    {ray : RayData K} {hit : Hit K} (found : embree.closest scene ray = some hit) {c : Crossing K}
    (crosses : Crosses scene ray c) (admitted : segment ray c.t) : hit.t ≤ c.t := by
  have spec := reports scene ray
  rw [found] at spec
  exact spec.2.2 c crosses admitted

omit [∀ ray, DecidablePred (segment ray)] in
theorem Embree.ReportsNearest.barycentricHits (reports : embree.ReportsNearest segment) :
    embree.BarycentricHits := by
  intro scene ray hit found
  obtain ⟨V0, V1, V2, corners, -, point⟩ := (reports.crosses found).1.meets
  exact ⟨V0, V1, V2, corners, point⟩

omit [∀ ray, DecidablePred (segment ray)] in
theorem Embree.ReportsNearest.hitsInside (reports : embree.ReportsNearest segment) :
    embree.HitsInside :=
  fun _ _ _ found => (reports.crosses found).1.inside

theorem Embree.ReportsNearest.hitsTriangles (reports : embree.ReportsNearest Embree.closedSegment) :
    embree.HitsTriangles where
  ahead _ _ _ found nonneg := nonneg.trans (reports.crosses found).2.1
  onTriangle _ _ hit found := by
    obtain ⟨⟨-, ⟨V0, V1, V2, corners, -, point⟩, inside, -⟩, -⟩ := reports.crosses found
    exact ⟨hit.geomID, hit.primID, V0, V1, V2, corners, hit.u, hit.v, inside.1, inside.2.1, inside.2.2, point⟩
  still scene ray stands := by
    cases found : embree.closest scene ray with
    | none => rfl
    | some hit =>
      obtain ⟨V0, V1, V2, -, transversal, -⟩ := (reports.crosses found).1.meets
      rw [stands] at transversal
      exact absurd (by simp [determinant, Vector3.dot, Vector3.cross]) transversal

end RayTraceRenderer.Native
