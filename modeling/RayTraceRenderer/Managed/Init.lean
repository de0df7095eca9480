import RayTraceRenderer.Managed.Scene
import Mathlib.Data.List.Forall2

/-! Init: the scene as the renderer and Embree receive it.

The id that AddMesh returns is not kept. A hit is looked up in the list of models
by that id, so each call has to be followed by exactly one model.
-/

set_option autoImplicit false

namespace RayTraceRenderer.Managed

open Unity Native

variable {K : Type} [Field K] [LinearOrder K]

/-- `cullingMask` of the camera. -/
structure Camera where
  cullingMask : UInt32

structure UnityScene (K : Type) where
  camera : Option Camera
  lights : List (Light K)
  renderers : List (MeshRenderer K)
  terrains : List (Terrain K)

/-! ## Calls of AddMesh -/

structure AddMeshCall (K : Type) where
  rst : RST K
  vertexCount : Nat
  triangleCount : Nat
  vertices : List (Vector3 K)
  triangles : List Int
  mask : UInt32
  geomID : UInt32

def AddMeshCall.geometry (call : AddMeshCall K) : TriangleMesh K :=
  storedMesh call.rst call.vertexCount call.triangleCount (marshalVectors call.vertices)
    (marshalInts call.triangles) call.mask

/-- The code reads no call back: they are kept to speak about. -/
structure InitState (K : Type) [Field K] where
  scene : SimpleScene K
  textures : TextureCache K
  nativeScene : RTCScene K
  calls : List (AddMeshCall K)

def rstOf (transform : Transform K) : RST K where
  rot := transform.rotation
  scale := transform.lossyScale
  pos := transform.position

def InitState.addMesh (s : InitState K) (transform : Transform K) (vertexCount triangleCount : Nat)
    (vertices : List (Vector3 K)) (triangles : List Int) (mask : UInt32) : InitState K :=
  let rst := rstOf transform
  let (geomID, nativeScene) := Native.addMesh s.nativeScene rst vertexCount triangleCount
    (marshalVectors vertices) (marshalInts triangles) mask
  let call := { rst, vertexCount, triangleCount, vertices, triangles, mask, geomID }
  { s with nativeScene, calls := s.calls ++ [call] }

def InitState.addModel (s : InitState K) (model : SimpleModel K) : InitState K :=
  { s with scene := { s.scene with models := s.scene.models ++ [model] } }

/-! ## Mesh renderers -/

def isLayerVisible (layer cullingMask : UInt32) : Bool := ((1 <<< layer) &&& cullingMask) != 0

def RayTraceTool.getActivityLights (renderer : MeshRenderer K) (lights : List (Light K)) : List (Light K) :=
  lights.filter fun light => light.isActiveAndEnabled &&
    (if light.type ≠ .directional then (renderer.bounds.expand light.range).contains light.transform.position
      else true)

/-- `GetTriangles`: an index out of range gives no triangles. -/
def getTriangles (mesh : Mesh K) (subMeshIndex : Nat) : List Int := mesh.triangles.getD subMeshIndex []

def SimpleMesh.ofMesh (mesh : Mesh K) (subMeshIndex : Nat) : SimpleMesh K where
  triangles := getTriangles mesh subMeshIndex
  uv := mesh.uv
  vertices := mesh.vertices
  normals := mesh.normals

section
variable [Mathf K]

def SimpleModel.ofMesh (transform : Transform K) (mesh : Mesh K) (subMeshIndex : Nat)
    (mat : Option (Material K)) (textures : TextureCache K) : Except Exn (SimpleModel K × TextureCache K) :=
  match mat with
  | none => .error .nullReference
  | some mat =>
    let (material, textures) := SimpleMaterial.ofMaterial mat textures
    let model :=
      { rst := rstOf transform
        mesh := .ofMesh mesh subMeshIndex
        material := .mesh material
        lights := [] }
    .ok (model, textures)

def addSubMesh (r : MeshRenderer K) (filter : MeshFilter K) (mesh : Mesh K) (s : InitState K) (i : Nat) :
    Except Exn (InitState K) := do
  let triangles := getTriangles mesh i
  let s := s.addMesh filter.transform mesh.vertices.length triangles.length mesh.vertices triangles 1
  let (model, textures) ← SimpleModel.ofMesh r.transform mesh i (← arrayGet r.sharedMaterials i) s.textures
  let lights := RayTraceTool.getActivityLights r s.scene.lights
  return InitState.addModel { s with textures } { model with lights }

def addRenderer (cullingMask : UInt32) (s : InitState K) (r : MeshRenderer K) : Except Exn (InitState K) :=
  if r.isVisible && isLayerVisible r.layer cullingMask then
    match r.filter with
    | none => .ok s
    | some filter =>
      match filter.sharedMesh with
      | none => .ok s
      | some mesh => (List.range mesh.triangles.length).foldlM (addSubMesh r filter mesh) s
  else .ok s

end

/-! ## Terrains -/

structure VertexArrays (K : Type) where
  vertices : List (Vector3 K)
  uvs : List (Vector2 K)
  normals : List (Vector3 K)

def setVertex (data : TerrainData K) (i : Nat) (arrays : VertexArrays K) (j : Nat) :
    Except Exn (VertexArrays K) := do
  let w := data.heightmapWidth
  let h := data.heightmapHeight
  let realWidth := data.size.x * (1 + 1 / w)
  let realHeight := data.size.z * (1 + 1 / h)
  let height ← arrayGet (← arrayGet data.heights j) i
  let pos := ⟨i * realWidth / w, height * data.size.y, j * realHeight / h⟩
  let index := wrap32 (j * w + i)
  let vertices ← arraySet arrays.vertices index pos
  let uvs ← arraySet arrays.uvs index ⟨i / w, j / h⟩
  let normals ← arraySet arrays.normals index (data.interpolatedNormal (i / w) (j / h))
  return { vertices, uvs, normals }

def setTriangles (w i : Nat) (triangles : List Int) (j : Nat) : Except Exn (List Int) := do
  let index : Int := (j * (w - 1) + i) * 6
  let corner (di dj : Int) : Int := wrap32 ((i + di) + (j + dj) * w)
  let triangles ← arraySet triangles (wrap32 (index + 0)) (corner 0 0)
  let triangles ← arraySet triangles (wrap32 (index + 1)) (corner 1 1)
  let triangles ← arraySet triangles (wrap32 (index + 2)) (corner 1 0)
  let triangles ← arraySet triangles (wrap32 (index + 3)) (corner 0 0)
  let triangles ← arraySet triangles (wrap32 (index + 4)) (corner 0 1)
  arraySet triangles (wrap32 (index + 5)) (corner 1 1)

def SimpleMesh.ofTerrainData (data : TerrainData K) : Except Exn (SimpleMesh K) := do
  let w := data.heightmapWidth
  let h := data.heightmapHeight
  let vertices ← newArray (wrap32 (w * h)) 0
  let uvs ← newArray vertices.length ⟨0, 0⟩
  let normals ← newArray vertices.length 0
  let triangles ← newArray (wrap32 ((w - 1) * (h - 1) * 2 * 3)) 0
  let arrays ← (List.range w).foldlM (fun arrays i => (List.range h).foldlM (setVertex data i) arrays)
    { vertices, uvs, normals }
  let triangles ← (List.range (w - 1)).foldlM
    (fun triangles i => (List.range (h - 1)).foldlM (setTriangles w i) triangles) triangles
  return { triangles, uv := arrays.uvs, vertices := arrays.vertices, normals := arrays.normals }

section
variable [Mathf K]

def addTerrain (cullingMask : UInt32) (s : InitState K) (terrain : Terrain K) : Except Exn (InitState K) := do
  if terrain.activeInHierarchy && isLayerVisible terrain.layer cullingMask then
    let mesh ← SimpleMesh.ofTerrainData terrain.terrainData
    let s := s.addMesh terrain.transform mesh.vertices.length mesh.triangles.length mesh.vertices mesh.triangles 1
    let material ← SimpleTerrainMaterial.ofTerrainData terrain.terrainData
    let rst := rstOf terrain.transform
    return s.addModel { rst, mesh, material := .terrain material, lights := s.scene.lights }
  else return s

/-- A new Embree scene, and no textures known. -/
def InitState.fresh (lights : List (Light K)) : InitState K where
  scene := { lights, models := [] }
  textures := fun _ => none
  nativeScene := ⟨[]⟩
  calls := []

def init (world : UnityScene K) : Except Exn (InitState K) := do
  let s := InitState.fresh world.lights
  match world.camera with
  | none => return s
  | some cam =>
    let s ← world.renderers.foldlM (addRenderer cam.cullingMask) s
    world.terrains.foldlM (addTerrain cam.cullingMask) s

/-! ## Models and geometries stay in step -/

def SimpleModel.call (model : SimpleModel K) (geomID : UInt32) : AddMeshCall K where
  rst := model.rst
  vertexCount := model.mesh.vertices.length
  triangleCount := model.mesh.triangles.length
  vertices := model.mesh.vertices
  triangles := model.mesh.triangles
  mask := 1
  geomID := geomID

/-- The models determine the calls, and the calls the geometries. -/
structure InStep (s : InitState K) : Prop where
  calls : s.calls = s.scene.models.mapIdx fun g model => model.call (.ofNat g)
  geometries : s.nativeScene.geometries = s.calls.map AddMeshCall.geometry

omit [LinearOrder K] [Mathf K] in
-- A call of AddMesh and its model, whatever happens to the textures.
theorem InStep.addModel {s s' : InitState K} (before : InStep s) {transform : Transform K}
    {model : SimpleModel K} (appended : s'.scene.models = s.scene.models ++ [model])
    (placed : model.rst = rstOf transform)
    (called : s'.calls = (s.addMesh transform model.mesh.vertices.length model.mesh.triangles.length
      model.mesh.vertices model.mesh.triangles 1).calls)
    (created : s'.nativeScene = (s.addMesh transform model.mesh.vertices.length model.mesh.triangles.length
      model.mesh.vertices model.mesh.triangles 1).nativeScene) : InStep s' := by
  have id : s.nativeScene.geometries.length = s.scene.models.length := by
    rw [before.geometries, before.calls, List.length_map, List.length_mapIdx]
  constructor
  · rw [appended, called]
    simp only [InitState.addMesh, Native.addMesh, before.calls, List.mapIdx_concat, id, SimpleModel.call, placed]
  · rw [created, called]
    simp only [InitState.addMesh, Native.addMesh, List.map_append, before.geometries]
    rfl

theorem addSubMesh_inStep {r : MeshRenderer K} {filter : MeshFilter K} (found : r.filter = some filter)
    {mesh : Mesh K} {i : Nat} {s s' : InitState K} (before : InStep s)
    (returned : addSubMesh r filter mesh s i = .ok s') : InStep s' := by
  unfold addSubMesh SimpleModel.ofMesh at returned
  rw [r.attached filter found, bind_eq_ok] at returned
  rcases returned with ⟨mat, selected, returned⟩
  cases mat with
  | none => cases returned
  | some mat =>
    rw [← Except.ok.inj returned]
    exact before.addModel rfl rfl rfl rfl

-- What every submesh keeps, a renderer keeps on every path through the filters.
theorem addRenderer_keeps {inv : InitState K → Prop} {r : MeshRenderer K}
    (submesh : ∀ filter mesh i s s', r.filter = some filter → filter.sharedMesh = some mesh →
      i < mesh.triangles.length → inv s → addSubMesh r filter mesh s i = .ok s' → inv s')
    {cullingMask : UInt32} {s s' : InitState K} (before : inv s) (returned : addRenderer cullingMask s r = .ok s') :
    inv s' := by
  unfold addRenderer at returned
  split at returned
  · cases found : r.filter with
    | none =>
      simp only [found] at returned
      exact Except.ok.inj returned ▸ before
    | some filter =>
      cases shared : filter.sharedMesh with
      | none =>
        simp only [found, shared] at returned
        exact Except.ok.inj returned ▸ before
      | some mesh =>
        simp only [found, shared] at returned
        apply foldlM_keeps inv _ _ s s' before returned
        intro i member acc acc' kept added
        exact submesh filter mesh i acc acc' found shared (List.mem_range.mp member) kept added
  · exact Except.ok.inj returned ▸ before

theorem init_keeps {inv : InitState K → Prop} {world : UnityScene K} (fresh : inv (.fresh world.lights))
    (renderers : ∀ r ∈ world.renderers, ∀ mask s s', inv s → addRenderer mask s r = .ok s' → inv s')
    (terrains : ∀ terrain ∈ world.terrains, ∀ mask s s', inv s → addTerrain mask s terrain = .ok s' → inv s')
    {final : InitState K} (returned : init world = .ok final) : inv final := by
  unfold init at returned
  cases camera : world.camera with
  | none =>
    simp only [camera] at returned
    exact Except.ok.inj returned ▸ fresh
  | some cam =>
    simp only [camera, bind_eq_ok] at returned
    rcases returned with ⟨mid, first, second⟩
    have middle : inv mid := by
      apply foldlM_keeps inv _ _ _ mid fresh first
      intro r member acc acc' kept added
      exact renderers r member _ acc acc' kept added
    apply foldlM_keeps inv _ _ mid final middle second
    intro terrain member acc acc' kept added
    exact terrains terrain member _ acc acc' kept added

omit [LinearOrder K] in
theorem addTerrain_inStep {cullingMask : UInt32} {terrain : Terrain K} {s s' : InitState K}
    (before : InStep s) (returned : addTerrain cullingMask s terrain = .ok s') : InStep s' := by
  unfold addTerrain at returned
  split at returned
  · simp only [bind_eq_ok] at returned
    rcases returned with ⟨mesh, -, material, -, returned⟩
    rw [← Except.ok.inj returned]
    exact before.addModel rfl rfl rfl rfl
  · exact Except.ok.inj returned ▸ before

theorem init_inStep {world : UnityScene K} {final : InitState K} (returned : init world = .ok final) :
    InStep final := by
  have fresh : InStep (InitState.fresh world.lights) := ⟨rfl, rfl⟩
  refine init_keeps fresh ?_ ?_ returned
  · intro r _ mask s s' before added
    refine addRenderer_keeps ?_ before added
    intro filter mesh i s s' found _ _ kept returned
    exact addSubMesh_inStep found kept returned
  · intro terrain _ mask s s' before added
    exact addTerrain_inStep before added

theorem init_nativeScene {world : UnityScene K} {final : InitState K} (returned : init world = .ok final) :
    final.nativeScene = nativeOf final.scene.models := by
  have inStep := init_inStep returned
  have stored : final.nativeScene.geometries = (nativeOf final.scene.models).geometries := by
    rw [inStep.geometries, inStep.calls, nativeOf_geometries]
    apply List.ext_getElem
    · simp
    · intro g _ _
      simp [SimpleModel.call, AddMeshCall.geometry]
  cases native : final.nativeScene
  simp_all

/-- There are as many models as calls of AddMesh and as geometries. The call that created a
geometry was given what the model with the geometry's id holds, and it is that model which
the renderer looks up. -/
theorem init_models_in_step {world : UnityScene K} {final : InitState K} (returned : init world = .ok final) :
    (final.scene.models.length = final.calls.length ∧
      final.nativeScene.geometries.length = final.calls.length) ∧
    ∀ g call, final.calls[g]? = some call →
      call.geomID = .ofNat g ∧ final.nativeScene.geometries[g]? = some call.geometry ∧
      ∃ model, final.scene.models[g]? = some model ∧
        (g < 2 ^ 31 → listGet final.scene.models (wrap32 call.geomID.toNat) = .ok model) ∧
        model.mesh.triangles = call.triangles ∧ model.mesh.vertices = call.vertices ∧ model.rst = call.rst := by
  have inStep := init_inStep returned
  constructor
  · rw [inStep.geometries, inStep.calls, List.length_map, List.length_mapIdx]
    exact ⟨rfl, rfl⟩
  · intro g call recorded
    have geometry : final.nativeScene.geometries[g]? = some call.geometry := by
      rw [inStep.geometries, List.getElem?_map, recorded]
      rfl
    rw [inStep.calls, List.getElem?_mapIdx, Option.map_eq_some_iff] at recorded
    rcases recorded with ⟨model, held, rfl⟩
    refine ⟨rfl, geometry, model, held, ?_, rfl, rfl, rfl⟩
    intro small
    have id : wrap32 (UInt32.ofNat g).toNat = g := by
      have inRange : g < UInt32.size := small.trans (by decide)
      rw [UInt32.toNat_ofNat_of_lt' inRange]
      exact wrap32_of_fits (by omega) (by omega)
    rw [SimpleModel.call, id, listGet_eq_ok]
    exact ⟨Int.natCast_nonneg g, held⟩

end

/-! ## A mesh of two submeshes, and a terrain -/

def upright : Transform K := ⟨0, Unity.Quaternion.identity, ⟨1, 1, 1⟩⟩

def squareMesh : Mesh Rat where
  vertices := [⟨0, 0, 0⟩, ⟨1, 0, 0⟩, ⟨0, 1, 0⟩, ⟨1, 1, 0⟩]
  uv := List.replicate 4 ⟨0, 0⟩
  normals := List.replicate 4 ⟨0, 0, -1⟩
  triangles := [[0, 1, 2], [2, 1, 3]]

def whiteMaterial : Material K where
  mainTexture := none
  color := none
  glossiness := none
  metallic := none
  hasCutoff := true
  mode := none
  shaderName := ""

def squareRenderer (isVisible : Bool) : MeshRenderer Rat where
  layer := 0
  isVisible := isVisible
  transform := upright
  filter := some ⟨upright, some squareMesh⟩
  attached := by simp
  bounds := ⟨0, ⟨1, 1, 0⟩⟩
  sharedMaterials := [some whiteMaterial, some whiteMaterial]

def flatTerrain : Terrain Rat where
  layer := 0
  activeInHierarchy := true
  transform := upright
  terrainData :=
    { heightmapWidth := 2
      heightmapHeight := 2
      size := ⟨1, 1, 1⟩
      heights := [[0, 0], [0, 0]]
      interpolatedNormal := fun _ _ => ⟨0, 1, 0⟩
      alphamapWidth := 0
      alphamapHeight := 0
      alphamapLayers := 0
      alphamaps := []
      splatPrototypes := [] }

def mixedWorld : UnityScene Rat where
  camera := some ⟨1⟩
  lights := [sun 1]
  renderers := [squareRenderer false, squareRenderer true]
  terrains := [flatTerrain]

/-- Neither the invisible renderer nor the second submesh shifts the terrain's model. -/
theorem init_models_in_step_mixed :
    letI := Mathf.atUnits
    ∃ final, init mixedWorld = .ok final ∧ final.scene.models.length = 3 ∧
      ∃ model, final.scene.models[2]? = some model ∧ model.mesh.triangles = [0, 3, 1, 0, 2, 3] := by
  let := Mathf.atUnits
  have calls : (init mixedWorld).map (fun s => s.calls.map fun call => (call.geomID, call.triangles)) =
      .ok [(0, [0, 1, 2]), (1, [2, 1, 3]), (2, [0, 3, 1, 0, 2, 3])] := by decide +kernel
  obtain ⟨final, returned, calls⟩ := map_eq_ok.mp calls
  obtain ⟨⟨count, -⟩, held⟩ := init_models_in_step returned
  have recorded : (final.calls.map fun call => (call.geomID, call.triangles))[2]? = some (2, [0, 3, 1, 0, 2, 3]) := by
    rw [calls]
    rfl
  rw [List.getElem?_map, Option.map_eq_some_iff] at recorded
  rcases recorded with ⟨call, found, pair⟩
  obtain ⟨-, -, model, atId, -, triangles, -⟩ := held 2 call found
  have total : final.calls.length = 3 := by
    rw [← List.length_map, calls]
    rfl
  exact ⟨final, returned, count.trans total, model, atId, triangles.trans (Prod.ext_iff.mp pair).2⟩

end RayTraceRenderer.Managed
