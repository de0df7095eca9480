import RayTraceRenderer.Native.Embree
import Mathlib.Data.List.Range

/-! The plugin's exported functions, over Embree.

A pointer parameter is a function from the index of an element. Stack variables
start with arbitrary contents, which is why every function that declares one
takes those contents.
-/

set_option autoImplicit false

namespace RayTraceRenderer.Native

open Unity

variable {K : Type} [Field K]

/-- Rotation, scale and position of a mesh; `rot` holds x, y, z and w. -/
structure RST (K : Type) where
  rot : Unity.Quaternion K
  scale : Vector3 K
  pos : Vector3 K

structure Ray (K : Type) where
  pos : Vector3 K
  mask : UInt32
  dir : Vector3 K
  length : K
  geomID : UInt32
  primID : UInt32
  u : K
  v : K
  normal : Vector3 K
  align1 : K

/-! ## Meshes -/

/-- Embree's quaternions, with the real part first. -/
structure Quaternion3f (K : Type) where
  r : K
  i : K
  j : K
  k : K

namespace Quaternion3f

omit [Field K] in
@[ext] theorem ext {a b : Quaternion3f K} (r : a.r = b.r) (i : a.i = b.i) (j : a.j = b.j)
    (k : a.k = b.k) : a = b := by
  cases a
  cases b
  simp_all

def ofVector (v : Vector3 K) : Quaternion3f K := ⟨0, v.x, v.y, v.z⟩

def conj (a : Quaternion3f K) : Quaternion3f K := ⟨a.r, -a.i, -a.j, -a.k⟩

def mul (a b : Quaternion3f K) : Quaternion3f K :=
  ⟨a.r * b.r - a.i * b.i - a.j * b.j - a.k * b.k,
   a.r * b.i + a.i * b.r + a.j * b.k - a.k * b.j,
   a.r * b.j - a.i * b.k + a.j * b.r + a.k * b.i,
   a.r * b.k + a.i * b.j - a.j * b.i + a.k * b.r⟩

def v (a : Quaternion3f K) : Vector3 K := ⟨a.i, a.j, a.k⟩

/-- The operator `a * b` on a vector. -/
def mulVec (a : Quaternion3f K) (b : Vector3 K) : Vector3 K := ((a.mul (ofVector b)).mul a.conj).v

end Quaternion3f

def toVec3f (pos : Nat → K) : Vector3 K := ⟨pos 0, pos 1, pos 2⟩

def worldPos (rst : RST K) (localPos : Vector3 K) : Vector3 K :=
  let rot : Quaternion3f K := ⟨rst.rot.w, rst.rot.x, rst.rot.y, rst.rot.z⟩
  rot.mulVec (localPos.scale rst.scale) + rst.pos

/-- What `addMesh` fills the two buffers of the new geometry with. -/
def storedMesh (rst : RST K) (vertexCount indexCount : Nat) (vertices : Nat → K)
    (triangles : Nat → Int) (mask : UInt32) : TriangleMesh K where
  verticesBuf := (List.range vertexCount).map fun i => worldPos rst (toVec3f fun k => vertices (i * 3 + k))
  trianglesBuf := (List.range (indexCount / 3)).map fun i =>
    ⟨triangles (i * 3 + 0), triangles (i * 3 + 2), triangles (i * 3 + 1)⟩
  mask := mask

def addMesh (scene : RTCScene K) (rst : RST K) (vertexCount indexCount : Nat) (vertices : Nat → K)
    (triangles : Nat → Int) (mask : UInt32) : UInt32 × RTCScene K :=
  let geomID := UInt32.ofNat scene.geometries.length
  (geomID, ⟨scene.geometries ++ [storedMesh rst vertexCount indexCount vertices triangles mask]⟩)

/-- The memory of a managed `Vector3[]` that P/Invoke hands over; callers pass its length too. -/
def marshalVectors (vectors : List (Vector3 K)) (k : Nat) : K :=
  let vector := vectors.getD (k / 3) 0
  if k % 3 = 0 then vector.x else if k % 3 = 1 then vector.y else vector.z

def marshalInts (ints : List Int) (k : Nat) : Int := ints.getD k 0

theorem toVec3f_marshal (vectors : List (Vector3 K)) (i : Nat) :
    (toVec3f fun k => marshalVectors vectors (i * 3 + k)) = vectors.getD i 0 := by
  have first : (i * 3) / 3 = i := by omega
  have second : (i * 3 + 1) / 3 = i := by omega
  have third : (i * 3 + 2) / 3 = i := by omega
  have residue : (i * 3 + 1) % 3 = 1 ∧ (i * 3 + 2) % 3 = 2 := by omega
  simp [toVec3f, marshalVectors, first, second, third, residue]

-- A vertex index that the stored buffer resolves is a managed one, moved to the world.
theorem storedMesh_vertex {rst : RST K} {vertices : List (Vector3 K)} {indexCount : Nat}
    {triangles : Nat → Int} {mask : UInt32} {index : Int} {V : Vector3 K}
    (found : (storedMesh rst vertices.length indexCount (marshalVectors vertices) triangles mask).vertex
      index = some V) :
    ∃ vertex, 0 ≤ index ∧ vertices[index.toNat]? = some vertex ∧ V = worldPos rst vertex := by
  simp only [TriangleMesh.vertex, storedMesh] at found
  split at found
  next nonneg =>
    simp only [List.getElem?_map, Option.map_eq_some_iff] at found
    rcases found with ⟨i, inRange, rfl⟩
    obtain ⟨bound, rfl⟩ := List.getElem?_eq_some_iff.mp inRange
    rw [List.length_range] at bound
    refine ⟨vertices[index.toNat], nonneg, List.getElem?_eq_getElem bound, ?_⟩
    rw [toVec3f_marshal, List.getElem_range]
    simp [List.getD_eq_getElem?_getD, bound]
  next => simp at found

-- The corner order of the index buffer: 0, 2, 1 of the managed array.
theorem storedMesh_triangle {rst : RST K} {vertexCount : Nat} {triangles : List Int}
    {vertices : Nat → K} {mask : UInt32} {primID : Nat} {triangle : Triangle}
    (found : (storedMesh rst vertexCount triangles.length vertices (marshalInts triangles)
      mask).trianglesBuf[primID]? = some triangle) :
    triangles[3 * primID]? = some triangle.v0 ∧ triangles[3 * primID + 1]? = some triangle.v2 ∧
    triangles[3 * primID + 2]? = some triangle.v1 := by
  simp only [storedMesh, List.getElem?_map, Option.map_eq_some_iff] at found
  rcases found with ⟨i, inRange, rfl⟩
  obtain ⟨bound, rfl⟩ := List.getElem?_eq_some_iff.mp inRange
  rw [List.length_range] at bound
  have last : 3 * primID + 2 < triangles.length := by omega
  have middle : 3 * primID + 1 < triangles.length := by omega
  have first : 3 * primID < triangles.length := by omega
  simp [marshalInts, Nat.mul_comm primID 3, List.getD_eq_getElem?_getD, first, middle, last]

/-! ## Rays -/

def Ray.toRayData (input : Ray K) : RayData K := ⟨input.pos, input.dir, 0, input.length, 0, input.mask⟩

/-- The fields of an answer that are copied back; Embree's u and v change places. -/
def readBack (answer : RTCRay K) (input : Ray K) : Ray K :=
  { input with
    geomID := answer.geomID
    length := answer.tfar
    normal := answer.Ng
    primID := answer.primID
    u := answer.v
    v := answer.u }

variable (embree : Embree K) (scene : RTCScene K)

def intersect (stack : RTCRay K) (input : Ray K) : Ray K :=
  let ray : RTCRay K := { stack with
    org := input.pos
    dir := input.dir
    tnear := 0
    tfar := input.length
    geomID := RTC_INVALID_GEOMETRY_ID
    primID := RTC_INVALID_GEOMETRY_ID
    instID := RTC_INVALID_GEOMETRY_ID
    mask := input.mask
    time := 0 }
  readBack (embree.rtcIntersect scene ray) input

/-- The packet that RayIntersect4 and RayIntersect8 fill: the geometry id comes from the ray. -/
def packetOf {n : Nat} (stack : RTCRayN K n) (rays : Fin n → Ray K) : RTCRayN K n :=
  { stack with
    orgx := fun i => (rays i).pos.x, orgy := fun i => (rays i).pos.y, orgz := fun i => (rays i).pos.z
    dirx := fun i => (rays i).dir.x, diry := fun i => (rays i).dir.y, dirz := fun i => (rays i).dir.z
    tnear := fun _ => 0
    tfar := fun i => (rays i).length
    geomID := fun i => (rays i).geomID
    primID := fun _ => RTC_INVALID_GEOMETRY_ID
    instID := fun _ => RTC_INVALID_GEOMETRY_ID
    mask := fun i => (rays i).mask
    time := fun _ => 0 }

/-- The n rays from `rays[base]` on are answered in one packet; the rest of memory is kept. -/
def rayIntersectN (n : Nat) (stack : RTCRayN K n) (rays : Nat → Ray K) (base : Nat) : Nat → Ray K :=
  let packet := packetOf stack fun i => rays (base + i)
  let answers := embree.rtcIntersectN n (fun _ => -1) scene packet
  fun j =>
    if h : base ≤ j ∧ j < base + n then
      readBack (answers.lane ⟨j - base, by omega⟩) (rays j)
    else rays j

def rayIntersect8 := rayIntersectN embree scene 8

def rayIntersect4 := rayIntersectN embree scene 4

def batchIntersect (packetStack : Nat → RTCRayN K 8) (rayStack : Nat → RTCRay K) (rayCount : Nat)
    (rays : Nat → Ray K) : Nat → Ray K :=
  let batchCount := rayCount / 8
  let otherCount := rayCount % 8
  let rays := (List.range batchCount).foldl
    (fun rays i => rayIntersect8 embree scene (packetStack i) rays (i * 8)) rays
  (List.range otherCount).foldl
    (fun rays i => Function.update rays (batchCount * 8 + i)
      (intersect embree scene (rayStack i) (rays (batchCount * 8 + i)))) rays

/-- An answer for a ray whatever routine gave it: a hit fills the fields Embree reports,
with u and v exchanged, and a miss keeps the length and leaves an invalid primitive. -/
structure Answers (ray out : Ray K) : Prop where
  frame : out.pos = ray.pos ∧ out.dir = ray.dir ∧ out.mask = ray.mask
  hit : ∀ hit, embree.closest scene ray.toRayData = some hit →
    out.geomID = hit.geomID ∧ out.primID = hit.primID ∧ out.length = hit.t ∧
    out.normal = hit.Ng ∧ out.u = hit.v ∧ out.v = hit.u
  miss : embree.closest scene ray.toRayData = none →
    out.primID = RTC_INVALID_GEOMETRY_ID ∧ out.length = ray.length

variable {embree scene}

theorem answers_readBack {ray : Ray K} {query : RTCRay K} (asks : query.toRayData = ray.toRayData)
    (primitive : query.primID = RTC_INVALID_GEOMETRY_ID) :
    Answers embree scene ray (readBack (embree.rtcIntersect scene query) ray) := by
  refine ⟨⟨rfl, rfl, rfl⟩, fun hit found => ?_, fun missed => ?_⟩
  · rw [← asks] at found
    obtain ⟨geomID, primID, tfar, Ng, u, v⟩ := embree.hit scene query hit found
    exact ⟨geomID, primID, tfar, Ng, v, u⟩
  · rw [← asks] at missed
    obtain ⟨geomID, primID, tfar⟩ := embree.miss scene query missed
    refine ⟨primID.trans primitive, tfar.trans ?_⟩
    exact congrArg RayData.tfar asks

theorem intersect_answers (stack : RTCRay K) (ray : Ray K) :
    Answers embree scene ray (intersect embree scene stack ray) :=
  answers_readBack rfl rfl

theorem intersect_miss {stack : RTCRay K} {ray : Ray K}
    (missed : embree.closest scene ray.toRayData = none) :
    (intersect embree scene stack ray).geomID = RTC_INVALID_GEOMETRY_ID :=
  (embree.miss scene _ missed).1

theorem intersect_valid_iff {stack : RTCRay K} {ray : Ray K} :
    (intersect embree scene stack ray).geomID = RTC_INVALID_GEOMETRY_ID ↔
      embree.closest scene ray.toRayData = none := by
  refine ⟨fun invalid => ?_, intersect_miss⟩
  cases found : embree.closest scene ray.toRayData with
  | none => rfl
  | some hit =>
    have reported := ((intersect_answers stack ray).hit hit found).1
    exact absurd (reported.symm.trans invalid) (embree.valid _ _ hit found)

/-! ## Batches -/

theorem rayIntersectN_inside {n : Nat} (stack : RTCRayN K n) (rays : Nat → Ray K) (base : Nat)
    (i : Fin n) : rayIntersectN embree scene n stack rays base (base + i) =
      readBack (embree.rtcIntersect scene ((packetOf stack fun i => rays (base + i)).lane i))
        (rays (base + i)) := by
  have position : (⟨base + i - base, by omega⟩ : Fin n) = i := Fin.ext (by simp)
  have inside : base ≤ base + i ∧ base + (i : Nat) < base + n := ⟨by omega, by omega⟩
  simp only [rayIntersectN, inside, and_self, dite_true, position, embree.lanes]

theorem rayIntersectN_outside {n : Nat} (stack : RTCRayN K n) (rays : Nat → Ray K) {base j : Nat}
    (outside : ¬ (base ≤ j ∧ j < base + n)) :
    rayIntersectN embree scene n stack rays base j = rays j := by
  simp only [rayIntersectN, outside, dite_false]

/-- A ray answered in a packet: on a miss it keeps the geometry id it came with. -/
structure PacketAnswers (embree : Embree K) (scene : RTCScene K) (ray out : Ray K) : Prop
    extends Answers embree scene ray out where
  stale : embree.closest scene ray.toRayData = none → out.geomID = ray.geomID

theorem rayIntersectN_answers {n : Nat} (stack : RTCRayN K n) (rays : Nat → Ray K) (base : Nat)
    (i : Fin n) : PacketAnswers embree scene (rays (base + i))
      (rayIntersectN embree scene n stack rays base (base + i)) := by
  rw [rayIntersectN_inside]
  refine ⟨answers_readBack rfl rfl, fun missed => ?_⟩
  exact (embree.miss scene ((packetOf stack fun i => rays (base + i)).lane i) missed).1

variable (embree scene)

-- The loop over packets, by induction on their number: rays below are answered, the rest kept.
theorem packets_answer (packetStack : Nat → RTCRayN K 8) (rays : Nat → Ray K) (count : Nat) :
    let out := (List.range count).foldl
      (fun rays i => rayIntersect8 embree scene (packetStack i) rays (i * 8)) rays
    (∀ j < count * 8, PacketAnswers embree scene (rays j) (out j)) ∧
      ∀ j, count * 8 ≤ j → out j = rays j := by
  induction count with
  | zero => exact ⟨fun j below => by omega, fun j _ => rfl⟩
  | succ count ih =>
    rcases ih with ⟨answered, kept⟩
    simp only [List.range_succ, List.foldl_append, List.foldl_cons, List.foldl_nil]
    refine ⟨fun j below => ?_, fun j above => ?_⟩
    · by_cases earlier : j < count * 8
      · rw [rayIntersect8, rayIntersectN_outside _ _ (by omega)]
        exact answered j earlier
      · obtain ⟨i, rfl⟩ : ∃ i : Fin 8, j = count * 8 + i := ⟨⟨j - count * 8, by omega⟩, by simp; omega⟩
        rw [← kept (count * 8 + i) (by omega)]
        exact rayIntersectN_answers (packetStack count) _ (count * 8) i
    · rw [rayIntersect8, rayIntersectN_outside _ _ (by omega)]
      exact kept j (by omega)

theorem singles_answer (rayStack : Nat → RTCRay K) (rays : Nat → Ray K) (base count : Nat) :
    let out := (List.range count).foldl (fun rays i => Function.update rays (base + i)
      (intersect embree scene (rayStack i) (rays (base + i)))) rays
    (∀ i < count, out (base + i) = intersect embree scene (rayStack i) (rays (base + i))) ∧
      ∀ j, ¬ (base ≤ j ∧ j < base + count) → out j = rays j := by
  induction count with
  | zero => exact ⟨fun i below => by omega, fun j _ => rfl⟩
  | succ count ih =>
    rcases ih with ⟨answered, kept⟩
    simp only [List.range_succ, List.foldl_append, List.foldl_cons, List.foldl_nil]
    refine ⟨fun i below => ?_, fun j outside => ?_⟩
    · by_cases last : i = count
      · subst i
        rw [Function.update_self, kept _ (by omega)]
      · rw [Function.update_of_ne (by omega)]
        exact answered i (by omega)
    · rw [Function.update_of_ne (by omega)]
      exact kept j (by omega)

-- What a batch leaves in memory: packets first, then single rays, then untouched rays.
theorem batchIntersect_answers (packetStack : Nat → RTCRayN K 8) (rayStack : Nat → RTCRay K)
    (rayCount : Nat) (rays : Nat → Ray K) :
    let out := batchIntersect embree scene packetStack rayStack rayCount rays
    (∀ j < rayCount / 8 * 8, PacketAnswers embree scene (rays j) (out j)) ∧
    (∀ j, rayCount / 8 * 8 ≤ j → j < rayCount → ∃ stack, out j = intersect embree scene stack (rays j)) ∧
    ∀ j, rayCount ≤ j → out j = rays j := by
  obtain ⟨packed, beyond⟩ := packets_answer embree scene packetStack rays (rayCount / 8)
  obtain ⟨single, frame⟩ := singles_answer embree scene rayStack
    ((List.range (rayCount / 8)).foldl
      (fun rays i => rayIntersect8 embree scene (packetStack i) rays (i * 8)) rays)
    (rayCount / 8 * 8) (rayCount % 8)
  refine ⟨fun j below => ?_, fun j notPacked below => ?_, fun j above => ?_⟩
  · rw [batchIntersect, frame j (by omega)]
    exact packed j below
  · obtain ⟨i, rfl⟩ : ∃ i, j = rayCount / 8 * 8 + i := ⟨j - rayCount / 8 * 8, by omega⟩
    exact ⟨rayStack i, by rw [batchIntersect, single i (by omega), beyond _ (by omega)]⟩
  · rw [batchIntersect, frame j (by omega)]
    exact beyond j (by omega)

end RayTraceRenderer.Native
