import RayTraceRenderer.Managed.Material
import RayTraceRenderer.Native.Interface
import RayTraceRenderer.Native.Intersector

/-! The scene a renderer keeps, and what it looks up there for a ray that hit. -/

set_option autoImplicit false

namespace RayTraceRenderer.Managed

open Unity Native

structure SimpleMesh (K : Type) where
  triangles : List Int
  uv : List (Vector2 K)
  vertices : List (Vector3 K)
  normals : List (Vector3 K)

structure SimpleModel (K : Type) [Field K] where
  rst : RST K
  mesh : SimpleMesh K
  material : SimpleMaterialBase K
  lights : List (Light K)

structure SimpleScene (K : Type) [Field K] where
  lights : List (Light K)
  models : List (SimpleModel K)

/-- The fields of a RayTraceRenderer that tracing reads, and the plugin behind the static
class RayTrace with the contents of the stack at its calls. -/
structure Renderer (K : Type) [Field K] [LinearOrder K] where
  scene : SimpleScene K
  ignoreMaterialColor : Bool
  lightRange : Bool
  skyColor : Color K
  embree : Embree K
  nativeScene : RTCScene K
  stack : RTCRay K

/-- `new RayTrace.Ray(pos, dir, length)` -/
def newRay {K : Type} [Field K] (pos dir : Vector3 K) (length : K) : Ray K where
  pos := pos
  mask := 0xFFFFFFFF
  dir := dir
  length := length
  geomID := 0xFFFFFFFF
  primID := 0xFFFFFFFF
  u := 0
  v := 0
  normal := 0
  align1 := 0

variable {K : Type} [Field K] [LinearOrder K]

namespace Renderer

variable (renderer : Renderer K)

/-- `RayTrace.Intersect(ref ray)` on a new ray. -/
def intersect (pos dir : Vector3 K) (length : K) : Ray K :=
  Native.intersect renderer.embree renderer.nativeScene renderer.stack (newRay pos dir length)

def closest (pos dir : Vector3 K) (length : K) : Option (Hit K) :=
  renderer.embree.closest renderer.nativeScene (newRay pos dir length).toRayData

theorem intersect_invalid_iff {pos dir : Vector3 K} {length : K} :
    (renderer.intersect pos dir length).geomID = RTC_INVALID_GEOMETRY_ID ↔
      renderer.closest pos dir length = none :=
  intersect_valid_iff

theorem intersect_hit {pos dir : Vector3 K} {length : K} {hit : Hit K}
    (found : renderer.closest pos dir length = some hit) :
    let ray := renderer.intersect pos dir length
    (ray.geomID = hit.geomID ∧ ray.primID = hit.primID) ∧ (ray.u = hit.v ∧ ray.v = hit.u) ∧
      ray.length = hit.t ∧ ray.pos + ray.length • ray.dir = pos + hit.t • dir := by
  have answers : Answers renderer.embree renderer.nativeScene (newRay pos dir length) _ :=
    intersect_answers renderer.stack _
  rcases answers with ⟨⟨origin, direction, -⟩, onHit, -⟩
  obtain ⟨geomID, primID, reach, -, u, v⟩ := onHit hit found
  refine ⟨⟨geomID, primID⟩, ⟨u, v⟩, reach, ?_⟩
  unfold Renderer.intersect
  rw [origin, direction, reach]
  rfl

end Renderer

/-- The model a ray hit, the corners of the triangle in its mesh, and the texture coordinates. -/
structure Surface (K : Type) [Field K] where
  model : SimpleModel K
  t0 : Int
  t1 : Int
  t2 : Int
  uv : Vector2 K

/-- The lookups that open both tracing methods. The product with the constant 3 is one of uints. -/
def SimpleScene.surface (scene : SimpleScene K) (geomID primID : UInt32) (u v : K) :
    Except Exn (Surface K) := do
  let model ← listGet scene.models (wrap32 geomID.toNat)
  let mesh := model.mesh
  let t0 ← arrayGet mesh.triangles (primID * 3 + 0).toNat
  let t1 ← arrayGet mesh.triangles (primID * 3 + 1).toNat
  let t2 ← arrayGet mesh.triangles (primID * 3 + 2).toNat
  let uv := RayTraceTool.lerpVector2 (← arrayGet mesh.uv t0) (← arrayGet mesh.uv t1)
    (← arrayGet mesh.uv t2) u v
  return { model, t0, t1, t2, uv }

omit [LinearOrder K] in
theorem SimpleScene.surface_model_mem {scene : SimpleScene K} {geomID primID : UInt32} {u v : K}
    {surface : Surface K} (found : scene.surface geomID primID u v = .ok surface) :
    surface.model ∈ scene.models := by
  unfold SimpleScene.surface at found
  simp only [bind_eq_ok] at found
  rcases found with ⟨model, selected, t0, -, t1, -, t2, -, uv0, -, uv1, -, uv2, -, found⟩
  rw [← Except.ok.inj found]
  exact listGet_mem selected

omit [LinearOrder K] in
-- The id of a geometry is the index of a model: a list holds fewer than 2^31.
theorem SimpleScene.listGet_model {scene : SimpleScene K} {geomID : UInt32} {model : SimpleModel K}
    (few : scene.models.length < 2 ^ 31) (held : scene.models[geomID.toNat]? = some model) :
    listGet scene.models (wrap32 geomID.toNat) = .ok model := by
  have bound : geomID.toNat < scene.models.length := (List.getElem?_eq_some_iff.mp held).1
  rw [wrap32_natCast (bound.trans few), listGet_eq_ok]
  exact ⟨Int.natCast_nonneg _, held⟩

-- Nor do the indices of a triangle overflow.
theorem primID_offset {primID k : UInt32} (inside : primID.toNat * 3 + k.toNat < 2 ^ 32) :
    (primID * 3 + k).toNat = primID.toNat * 3 + k.toNat := by
  rw [UInt32.toNat_add, UInt32.toNat_mul]
  have three : (3 : UInt32).toNat = 3 := rfl
  rw [three]
  omega

def SimpleScene.surfaceOf (scene : SimpleScene K) (c : Crossing K) : Except Exn (Surface K) :=
  scene.surface c.geomID c.primID c.v c.u

/-! ## Parallel panes

Scenes small enough to evaluate: triangles across the z axis, each of one colour.
-/

def SimpleTexture.plain (color : Color K) : SimpleTexture K where
  colors := [color]
  width := 1
  height := 1
  sized := rfl
  nonempty := by simp

def paneModel (z : K) (normal : Vector3 K) (material : SimpleMaterialBase K) : SimpleModel K where
  rst := ⟨Unity.Quaternion.identity, ⟨1, 1, 1⟩, 0⟩
  mesh :=
    { triangles := [0, 1, 2]
      uv := List.replicate 3 ⟨0, 0⟩
      vertices := [⟨-1, -1, z⟩, ⟨3, -1, z⟩, ⟨-1, 3, z⟩]
      normals := List.replicate 3 normal }
  material := material
  lights := []

/-- A pane that faces the origin, of one texel and without a material colour of its own. -/
def plainPane (z : K) (texel : Color K) (renderMode : RenderMode) (notAdditive : renderMode ≠ .Additive) :
    SimpleModel K :=
  paneModel z ⟨0, 0, -1⟩ (.mesh
    { glossiness := 0, metallic := 0, texture := .plain texel, color := Color.white, renderMode, notAdditive })

def sun (intensity : K) : Light K where
  type := .directional
  transform := ⟨0, Unity.Quaternion.identity, ⟨1, 1, 1⟩⟩
  color := Color.white
  intensity := intensity
  range := 10
  isActiveAndEnabled := true

/-- The geometries that AddMesh makes of a list of models, one after the other. -/
def nativeOf (models : List (SimpleModel K)) : RTCScene K :=
  models.foldl (fun scene model =>
    (addMesh scene model.rst model.mesh.vertices.length model.mesh.triangles.length
      (marshalVectors model.mesh.vertices) (marshalInts model.mesh.triangles) 1).2) ⟨[]⟩

omit [LinearOrder K] in
theorem nativeOf_geometries (models : List (SimpleModel K)) :
    (nativeOf models).geometries = models.map fun model =>
      storedMesh model.rst model.mesh.vertices.length model.mesh.triangles.length
        (marshalVectors model.mesh.vertices) (marshalInts model.mesh.triangles) 1 := by
  induction models using List.reverseRecOn with
  | nil => rfl
  | append_singleton models model ih =>
    rw [List.map_append, ← ih]
    unfold nativeOf
    rw [List.foldl_append]
    rfl

/-- A renderer over given models, with an Embree that answers every query exactly. -/
def Renderer.over (segment : RayData K → K → Prop) [∀ ray, DecidablePred (segment ray)]
    (models : List (SimpleModel K)) (lights : List (Light K)) (skyColor : Color K) : Renderer K where
  scene := ⟨lights, models⟩
  ignoreMaterialColor := false
  lightRange := false
  skyColor := skyColor
  embree := exhaustive segment
  nativeScene := nativeOf models
  stack :=
    { org := 0, dir := 0, tnear := 0, tfar := 0, time := 0, mask := 0, Ng := 0, u := 0, v := 0
      geomID := 0, primID := 0, instID := 0 }

end RayTraceRenderer.Managed
