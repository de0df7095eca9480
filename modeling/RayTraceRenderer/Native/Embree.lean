import RayTraceRenderer.Unity.Vector

/-! The part of Embree's interface that the plugin uses.

Embree itself is a parameter: what it finds for a ray, and how its entry points
write the answer into the ray structure. Its Vec3f is the three-field vector of
the managed side.
-/

set_option autoImplicit false

namespace RayTraceRenderer.Native

open Unity

def RTC_INVALID_GEOMETRY_ID : UInt32 := 0xFFFFFFFF

structure RayData (K : Type) where
  org : Vector3 K
  dir : Vector3 K
  tnear : K
  tfar : K
  time : K
  mask : UInt32

structure RTCRay (K : Type) extends RayData K where
  Ng : Vector3 K
  u : K
  v : K
  geomID : UInt32
  primID : UInt32
  instID : UInt32

/-- A packet in structure-of-arrays layout; RTCRay4 and RTCRay8 are two sizes of it. -/
structure RTCRayN (K : Type) (n : Nat) where
  orgx : Fin n → K
  orgy : Fin n → K
  orgz : Fin n → K
  dirx : Fin n → K
  diry : Fin n → K
  dirz : Fin n → K
  tnear : Fin n → K
  tfar : Fin n → K
  time : Fin n → K
  mask : Fin n → UInt32
  Ngx : Fin n → K
  Ngy : Fin n → K
  Ngz : Fin n → K
  u : Fin n → K
  v : Fin n → K
  geomID : Fin n → UInt32
  primID : Fin n → UInt32
  instID : Fin n → UInt32

def RTCRayN.lane {K : Type} {n : Nat} (packet : RTCRayN K n) (i : Fin n) : RTCRay K where
  org := ⟨packet.orgx i, packet.orgy i, packet.orgz i⟩
  dir := ⟨packet.dirx i, packet.diry i, packet.dirz i⟩
  tnear := packet.tnear i
  tfar := packet.tfar i
  time := packet.time i
  mask := packet.mask i
  Ng := ⟨packet.Ngx i, packet.Ngy i, packet.Ngz i⟩
  u := packet.u i
  v := packet.v i
  geomID := packet.geomID i
  primID := packet.primID i
  instID := packet.instID i

def RTCRayN.ofLanes {K : Type} {n : Nat} (lanes : Fin n → RTCRay K) : RTCRayN K n where
  orgx i := (lanes i).org.x
  orgy i := (lanes i).org.y
  orgz i := (lanes i).org.z
  dirx i := (lanes i).dir.x
  diry i := (lanes i).dir.y
  dirz i := (lanes i).dir.z
  tnear i := (lanes i).tnear
  tfar i := (lanes i).tfar
  time i := (lanes i).time
  mask i := (lanes i).mask
  Ngx i := (lanes i).Ng.x
  Ngy i := (lanes i).Ng.y
  Ngz i := (lanes i).Ng.z
  u i := (lanes i).u
  v i := (lanes i).v
  geomID i := (lanes i).geomID
  primID i := (lanes i).primID
  instID i := (lanes i).instID

structure Triangle where
  v0 : Int
  v1 : Int
  v2 : Int
  deriving DecidableEq, Repr

/-- A geometry made by rtcNewTriangleMesh, with its two buffers. -/
structure TriangleMesh (K : Type) where
  verticesBuf : List (Vector3 K)
  trianglesBuf : List Triangle
  mask : UInt32

/-- Geometries stand in the order of their ids: a fresh scene gives out 0, 1, 2, ... -/
structure RTCScene (K : Type) where
  geometries : List (TriangleMesh K)

def RTCScene.add {K : Type} (scene : RTCScene K) (mesh : TriangleMesh K) : RTCScene K := ⟨scene.geometries ++ [mesh]⟩

theorem RTCScene.add_of_lt {K : Type} (scene : RTCScene K) (mesh : TriangleMesh K) {g : Nat}
    (earlier : g < scene.geometries.length) : (scene.add mesh).geometries[g]? = scene.geometries[g]? :=
  List.getElem?_append_left earlier

namespace TriangleMesh

variable {K : Type}

def vertex (mesh : TriangleMesh K) (index : Int) : Option (Vector3 K) :=
  if 0 ≤ index then mesh.verticesBuf[index.toNat]? else none

def corners (mesh : TriangleMesh K) (triangle : Triangle) :
    Option (Vector3 K × Vector3 K × Vector3 K) := do
  let V0 ← mesh.vertex triangle.v0
  let V1 ← mesh.vertex triangle.v1
  let V2 ← mesh.vertex triangle.v2
  return (V0, V1, V2)

end TriangleMesh

/-- Where a ray meets a triangle: the distance in units of its direction, and the
barycentric coordinates of the second and the third corner of the index buffer. -/
structure Crossing (K : Type) where
  t : K
  u : K
  v : K
  geomID : UInt32
  primID : UInt32
  deriving DecidableEq, Repr

structure Hit (K : Type) extends Crossing K where
  Ng : Vector3 K
  deriving DecidableEq, Repr

variable {K : Type} [Field K] [LinearOrder K]

def RTCScene.corners (scene : RTCScene K) (geomID primID : UInt32) :
    Option (Vector3 K × Vector3 K × Vector3 K) := do
  let mesh ← scene.geometries[geomID.toNat]?
  let triangle ← mesh.trianglesBuf[primID.toNat]?
  mesh.corners triangle

omit [Field K] [LinearOrder K] in
theorem RTCScene.corners_add (scene : RTCScene K) (mesh : TriangleMesh K) {geomID : UInt32} (primID : UInt32)
    (earlier : geomID.toNat < scene.geometries.length) :
    (scene.add mesh).corners geomID primID = scene.corners geomID primID := by
  unfold RTCScene.corners
  rw [scene.add_of_lt mesh earlier]

def barycentric (V0 V1 V2 : Vector3 K) (u v : K) : Vector3 K :=
  (1 - u - v) • V0 + u • V1 + v • V2

def OnTriangle (V0 V1 V2 point : Vector3 K) : Prop :=
  ∃ u v : K, 0 ≤ u ∧ 0 ≤ v ∧ u + v ≤ 1 ∧ point = barycentric V0 V1 V2 u v

/-- Zero exactly where the ray runs parallel to the plane of the triangle. -/
def determinant (V0 V1 V2 dir : Vector3 K) : K := (V1 - V0).dot (dir.cross (V2 - V0))

/-- The ray passes through a triangle that its mask lets it see. Length and start of
its segment play no part. -/
structure Crosses (scene : RTCScene K) (ray : RayData K) (c : Crossing K) : Prop where
  seen : ∃ mesh, scene.geometries[c.geomID.toNat]? = some mesh ∧ mesh.mask &&& ray.mask ≠ 0
  meets : ∃ V0 V1 V2, scene.corners c.geomID c.primID = some (V0, V1, V2) ∧
    determinant V0 V1 V2 ray.dir ≠ 0 ∧
    ray.org + c.t • ray.dir = barycentric V0 V1 V2 c.u c.v
  inside : 0 ≤ c.u ∧ 0 ≤ c.v ∧ c.u + c.v ≤ 1
  valid : c.geomID ≠ RTC_INVALID_GEOMETRY_ID

/-- The same line, walked from a point ahead in steps of another length. -/
def RayData.reaim (ray : RayData K) (start step tfar : K) : RayData K :=
  { ray with org := ray.org + start • ray.dir, dir := step • ray.dir, tfar := tfar }

omit [LinearOrder K] in
theorem determinant_smul (V0 V1 V2 dir : Vector3 K) (step : K) :
    determinant V0 V1 V2 (step • dir) = step * determinant V0 V1 V2 dir := by
  simp only [determinant, Vector3.dot, Vector3.cross, Vector3.smul_x, Vector3.smul_y, Vector3.smul_z]
  ring

theorem crosses_reaim_iff {scene : RTCScene K} {ray : RayData K} {start step tfar : K} {c : Crossing K}
    (moving : step ≠ 0) :
    Crosses scene (ray.reaim start step tfar) c ↔ Crosses scene ray { c with t := start + step * c.t } := by
  have point := Vector3.add_smul_reaim ray.org ray.dir start step c.t
  constructor
  · rintro ⟨seen, ⟨V0, V1, V2, corners, transversal, meets⟩, inside, valid⟩
    refine ⟨seen, ⟨V0, V1, V2, corners, ?_, ?_⟩, inside, valid⟩
    · rw [RayData.reaim, determinant_smul] at transversal
      exact right_ne_zero_of_mul transversal
    · exact point.symm.trans meets
  · rintro ⟨seen, ⟨V0, V1, V2, corners, transversal, meets⟩, inside, valid⟩
    refine ⟨seen, ⟨V0, V1, V2, corners, ?_, ?_⟩, inside, valid⟩
    · rw [RayData.reaim, determinant_smul]
      exact mul_ne_zero moving transversal
    · exact point.trans meets

/-- Embree as the plugin sees it. A miss keeps the fields named in `miss`; the other
hit fields are unspecified then. A packet with every lane valid is lane-wise. -/
structure Embree (K : Type) where
  closest : RTCScene K → RayData K → Option (Hit K)
  rtcIntersect : RTCScene K → RTCRay K → RTCRay K
  rtcIntersectN : (n : Nat) → (Fin n → Int) → RTCScene K → RTCRayN K n → RTCRayN K n
  valid : ∀ scene ray hit, closest scene ray = some hit → hit.geomID ≠ RTC_INVALID_GEOMETRY_ID
  miss : ∀ scene ray, closest scene ray.toRayData = none →
    (rtcIntersect scene ray).geomID = ray.geomID ∧ (rtcIntersect scene ray).primID = ray.primID ∧
    (rtcIntersect scene ray).tfar = ray.tfar
  hit : ∀ scene ray hit, closest scene ray.toRayData = some hit →
    (rtcIntersect scene ray).geomID = hit.geomID ∧ (rtcIntersect scene ray).primID = hit.primID ∧
    (rtcIntersect scene ray).tfar = hit.t ∧ (rtcIntersect scene ray).Ng = hit.Ng ∧
    (rtcIntersect scene ray).u = hit.u ∧ (rtcIntersect scene ray).v = hit.v
  lanes : ∀ n scene packet i,
    (rtcIntersectN n (fun _ => -1) scene packet).lane i = rtcIntersect scene (packet.lane i)

namespace Embree

def write (ray : RTCRay K) : Option (Hit K) → RTCRay K
  | none => ray
  | some hit => { ray with
      tfar := hit.t, Ng := hit.Ng, u := hit.u, v := hit.v, geomID := hit.geomID, primID := hit.primID }

/-- Entry points that write what `closest` finds and leave the whole ray alone on a miss. -/
def ofClosest (closest : RTCScene K → RayData K → Option (Hit K))
    (valid : ∀ scene ray hit, closest scene ray = some hit → hit.geomID ≠ RTC_INVALID_GEOMETRY_ID) :
    Embree K where
  closest := closest
  rtcIntersect scene ray := write ray (closest scene ray.toRayData)
  rtcIntersectN _ _ scene packet := .ofLanes fun i =>
    write (packet.lane i) (closest scene (packet.lane i).toRayData)
  valid := valid
  miss scene ray missed := by rw [missed]; exact ⟨rfl, rfl, rfl⟩
  hit scene ray hit found := by rw [found]; exact ⟨rfl, rfl, rfl, rfl, rfl, rfl⟩
  lanes _ _ _ _ := rfl

variable (embree : Embree K)

/-- A reported hit lies at the barycentric coordinates of the stored index triple. -/
def BarycentricHits : Prop :=
  ∀ scene ray hit, embree.closest scene ray = some hit →
    ∃ V0 V1 V2, scene.corners hit.geomID hit.primID = some (V0, V1, V2) ∧
      ray.org + hit.t • ray.dir = barycentric V0 V1 V2 hit.u hit.v

/-- The coordinates of a reported hit are barycentric coordinates. -/
def HitsInside : Prop :=
  ∀ scene ray hit, embree.closest scene ray = some hit →
    0 ≤ hit.u ∧ 0 ≤ hit.v ∧ hit.u + hit.v ≤ 1

/-- The ids of a reported hit are those of a triangle that was registered. -/
def HitsRegistered : Prop :=
  ∀ scene ray hit, embree.closest scene ray = some hit →
    ∃ mesh, scene.geometries[hit.geomID.toNat]? = some mesh ∧ hit.primID.toNat < mesh.trianglesBuf.length

/-- A reported hit lies ahead of the start of its ray and on a triangle of the scene, and a
ray without a direction reports none. -/
structure HitsTriangles : Prop where
  ahead : ∀ scene ray hit, embree.closest scene ray = some hit → 0 ≤ ray.tnear → 0 ≤ hit.t
  onTriangle : ∀ scene ray hit, embree.closest scene ray = some hit →
    ∃ geomID primID V0 V1 V2, scene.corners geomID primID = some (V0, V1, V2) ∧
      OnTriangle V0 V1 V2 (ray.org + hit.t • ray.dir)
  still : ∀ scene ray, ray.dir = 0 → embree.closest scene ray = none

/-- Of the crossings whose distance the segment admits, the reported one is nearest, and
there is none where nothing is reported. -/
def ReportsNearest (segment : RayData K → K → Prop) : Prop :=
  ∀ scene ray, match embree.closest scene ray with
    | none => ∀ c, Crosses scene ray c → ¬ segment ray c.t
    | some hit => Crosses scene ray hit.toCrossing ∧ segment ray hit.t ∧
        ∀ c, Crosses scene ray c → segment ray c.t → hit.t ≤ c.t

/-- A geometry that a ray does not cross on its segment does not change what is reported. -/
def IgnoresMissed (segment : RayData K → K → Prop) : Prop :=
  ∀ (scene : RTCScene K) (mesh : TriangleMesh K) (ray : RayData K),
    (∀ c, Crosses (scene.add mesh) ray c → c.geomID.toNat = scene.geometries.length → ¬ segment ray c.t) →
    embree.closest (scene.add mesh) ray = embree.closest scene ray

variable {embree} in
-- A crossing is one with the triangle of its ids.
theorem ReportsNearest.registered {segment : RayData K → K → Prop} (reports : embree.ReportsNearest segment) :
    embree.HitsRegistered := by
  intro scene ray hit found
  have nearest := reports scene ray
  rw [found] at nearest
  obtain ⟨V0, V1, V2, corners, -⟩ := nearest.1.meets
  unfold RTCScene.corners at corners
  simp only [Option.bind_eq_bind, Option.bind_eq_some_iff] at corners
  obtain ⟨mesh, geometry, triangle, stored, -⟩ := corners
  exact ⟨mesh, geometry, (List.getElem?_eq_some_iff.mp stored).1⟩

/-- The segment of rtcore_ray.h: tnear and tfar are its start and its end. -/
def closedSegment (ray : RayData K) (t : K) : Prop := ray.tnear ≤ t ∧ t ≤ ray.tfar

/-- The segment without its start. -/
def openSegment (ray : RayData K) (t : K) : Prop := ray.tnear < t ∧ t ≤ ray.tfar

instance (ray : RayData K) : DecidablePred (closedSegment ray) := fun t =>
  inferInstanceAs (Decidable (ray.tnear ≤ t ∧ t ≤ ray.tfar))

instance (ray : RayData K) : DecidablePred (openSegment ray) := fun t =>
  inferInstanceAs (Decidable (ray.tnear < t ∧ t ≤ ray.tfar))

def segmentOf (withStart : Bool) : RayData K → K → Prop := if withStart then closedSegment else openSegment

omit [Field K] in
theorem segmentOf_le {withStart : Bool} {ray : RayData K} {t : K} (admitted : segmentOf withStart ray t) :
    ray.tnear ≤ t ∧ t ≤ ray.tfar := by
  cases withStart with
  | true => exact admitted
  | false => exact ⟨admitted.1.le, admitted.2⟩

omit [Field K] in
theorem segmentOf_lt (withStart : Bool) {ray : RayData K} {t : K} (behind : ray.tnear < t) (before : t ≤ ray.tfar) :
    segmentOf withStart ray t := by
  cases withStart with
  | true => exact ⟨behind.le, before⟩
  | false => exact ⟨behind, before⟩

-- A ray that covers another one admits what the other one does.
theorem segmentOf_reaim [IsStrictOrderedRing K] {withStart : Bool} {ray ray' : RayData K} {start step t : K}
    (moving : 0 < step) (begins : ray.tnear ≤ start + step * ray'.tnear) (ends : start + step * ray'.tfar ≤ ray.tfar)
    (admitted : segmentOf withStart ray' t) : segmentOf withStart ray (start + step * t) := by
  have last := mul_le_mul_of_nonneg_left (segmentOf_le admitted).2 moving.le
  cases withStart with
  | true =>
    have first := mul_le_mul_of_nonneg_left admitted.1 moving.le
    exact ⟨by linarith, by linarith⟩
  | false =>
    have first := mul_lt_mul_of_pos_left admitted.1 moving
    exact ⟨by linarith, by linarith⟩

end Embree

end RayTraceRenderer.Native
