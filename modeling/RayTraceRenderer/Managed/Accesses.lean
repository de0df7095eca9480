import RayTraceRenderer.Managed.Init
import RayTraceRenderer.Managed.Tracing
import Mathlib.Data.Rat.Floor

/-! The arrays that tracing reads at a hit, and where their indices lead.

The ids of a hit select a model and three entries of its triangle array; those entries
are indices into the texture coordinates and the normals. A mesh may be without either.
-/

set_option autoImplicit false

namespace RayTraceRenderer.Managed

open Unity Native

variable {K : Type} [Field K] [LinearOrder K]

/-! ## What Unity and Embree promise -/

/-- A managed array has fewer than 2^31 entries. -/
structure SimpleMesh.Valid (mesh : SimpleMesh K) : Prop where
  index : ∀ t ∈ mesh.triangles, 0 ≤ t ∧ t < mesh.vertices.length
  uv : mesh.uv = [] ∨ mesh.uv.length = mesh.vertices.length
  normals : mesh.normals = [] ∨ mesh.normals.length = mesh.vertices.length
  managed : mesh.triangles.length < 2 ^ 31

/-- Every submesh shares the vertices, and a height map has samples. -/
structure UnityScene.Valid (world : UnityScene K) : Prop where
  meshes : ∀ r ∈ world.renderers, ∀ filter ∈ r.filter, ∀ mesh ∈ filter.sharedMesh,
    ∀ i < mesh.triangles.length, (SimpleMesh.ofMesh mesh i).Valid
  terrains : ∀ terrain ∈ world.terrains,
    0 < terrain.terrainData.heightmapWidth ∧ 0 < terrain.terrainData.heightmapHeight

/-! ## Terrains -/

section
variable {data : TerrainData K}

def VertexArrays.Sized (arrays : VertexArrays K) (size : Nat) : Prop :=
  arrays.vertices.length = size ∧ arrays.uvs.length = size ∧ arrays.normals.length = size

/-- The index of a sample is the index of a vertex. -/
def SampleInside (width size i j : Nat) : Prop :=
  0 ≤ wrap32 (i + j * width) ∧ wrap32 (i + j * width) < size

omit [LinearOrder K] in
theorem setVertex_sized {i j size : Nat} {arrays arrays' : VertexArrays K} (sized : arrays.Sized size)
    (returned : setVertex data i arrays j = .ok arrays') :
    arrays'.Sized size ∧ SampleInside data.heightmapWidth size i j := by
  unfold setVertex at returned
  simp only [bind_eq_ok] at returned
  obtain ⟨_, -, height, -, vertices, set, uvs, setUv, normals, setNormal, same⟩ := returned
  cases same
  rcases sized with ⟨vertexCount, uvCount, normalCount⟩
  constructor
  · exact ⟨(arraySet_length set).trans vertexCount, (arraySet_length setUv).trans uvCount,
      (arraySet_length setNormal).trans normalCount⟩
  · obtain ⟨nonneg, inside, -⟩ := arraySet_eq_ok.mp set
    unfold SampleInside
    rw [← vertexCount, add_comm]
    exact ⟨nonneg, inside⟩

omit [LinearOrder K] in
theorem vertices_filled {size : Nat} {arrays arrays' : VertexArrays K} (sized : arrays.Sized size)
    (filled : (List.range data.heightmapWidth).foldlM
      (fun arrays i => (List.range data.heightmapHeight).foldlM (setVertex data i) arrays) arrays = .ok arrays') :
    arrays'.Sized size ∧
      ∀ i j, i < data.heightmapWidth → j < data.heightmapHeight → SampleInside data.heightmapWidth size i j := by
  have vertexStep : ∀ i, ∀ j ∈ List.range data.heightmapHeight, ∀ mid mid' : VertexArrays K, mid.Sized size →
      setVertex data i mid j = .ok mid' → mid'.Sized size := by
    intro i j _ mid mid' sized set
    exact (setVertex_sized sized set).1
  have columnStep : ∀ i ∈ List.range data.heightmapWidth, ∀ mid mid' : VertexArrays K, mid.Sized size →
      (List.range data.heightmapHeight).foldlM (setVertex data i) mid = .ok mid' → mid'.Sized size := by
    intro i _ mid mid' sized returned
    exact foldlM_keeps (·.Sized size) _ (vertexStep i) mid mid' sized returned
  constructor
  · exact foldlM_keeps (·.Sized size) _ columnStep _ _ sized filled
  · intro i j iInside jInside
    obtain ⟨mid, mid', kept, column⟩ :=
      foldlM_steps (·.Sized size) _ columnStep sized filled i (List.mem_range.mpr iInside)
    obtain ⟨last, last', kept', set⟩ :=
      foldlM_steps (·.Sized size) _ (vertexStep i) kept column j (List.mem_range.mpr jInside)
    exact (setVertex_sized kept' set).2

def IndicesOver (size count : Nat) (triangles : List Int) : Prop :=
  (∀ t ∈ triangles, 0 ≤ t ∧ t < size) ∧ triangles.length = count

theorem setTriangles_forall {holds : Int → Prop} {w i j : Nat} {triangles triangles' : List Int}
    (returned : setTriangles w i triangles j = .ok triangles') (before : ∀ t ∈ triangles, holds t)
    (corners : ∀ di dj : Nat, di ≤ 1 → dj ≤ 1 → holds (wrap32 ((i + di : Nat) + (j + dj : Nat) * w))) :
    (∀ t ∈ triangles', holds t) ∧ triangles'.length = triangles.length := by
  have corner00 : holds (wrap32 ((i + 0) + (j + 0) * w)) := by simpa using corners 0 0
  have corner11 : holds (wrap32 ((i + 1) + (j + 1) * w)) := by simpa using corners 1 1
  have corner10 : holds (wrap32 ((i + 1) + (j + 0) * w)) := by simpa using corners 1 0
  have corner01 : holds (wrap32 ((i + 0) + (j + 1) * w)) := by simpa using corners 0 1
  unfold setTriangles at returned
  simp only [bind_eq_ok] at returned
  obtain ⟨t0, set0, t1, set1, t2, set2, t3, set3, t4, set4, set5⟩ := returned
  have holds0 := arraySet_forall set0 before corner00
  have holds1 := arraySet_forall set1 holds0 corner11
  have holds2 := arraySet_forall set2 holds1 corner10
  have holds3 := arraySet_forall set3 holds2 corner00
  have holds4 := arraySet_forall set4 holds3 corner01
  refine ⟨arraySet_forall set5 holds4 corner11, ?_⟩
  rw [arraySet_length set5, arraySet_length set4, arraySet_length set3, arraySet_length set2,
    arraySet_length set1, arraySet_length set0]

theorem triangles_indexed {w h size count : Nat} {triangles triangles' : List Int}
    (sample : ∀ i j, i < w → j < h → SampleInside w size i j) (before : IndicesOver size count triangles)
    (indexed : (List.range (w - 1)).foldlM
      (fun triangles i => (List.range (h - 1)).foldlM (setTriangles w i) triangles) triangles = .ok triangles') :
    IndicesOver size count triangles' := by
  refine foldlM_keeps (IndicesOver size count) _ ?_ _ _ before indexed
  intro i iInside mid mid' kept returned
  refine foldlM_keeps (IndicesOver size count) _ ?_ _ _ kept returned
  intro j jInside mid mid' kept set
  rw [List.mem_range] at iInside jInside
  have corners : ∀ di dj : Nat, di ≤ 1 → dj ≤ 1 →
      0 ≤ wrap32 ((i + di : Nat) + (j + dj : Nat) * w) ∧ wrap32 ((i + di : Nat) + (j + dj : Nat) * w) < size := by
    intro di dj _ _
    exact sample (i + di) (j + dj) (by omega) (by omega)
  obtain ⟨all, length⟩ := setTriangles_forall set kept.1 corners
  exact ⟨all, length.trans kept.2⟩

omit [LinearOrder K] in
theorem ofTerrainData_valid (samples : 0 < data.heightmapWidth ∧ 0 < data.heightmapHeight) {mesh : SimpleMesh K}
    (returned : SimpleMesh.ofTerrainData data = .ok mesh) :
    mesh.Valid ∧ mesh.uv.length = mesh.vertices.length ∧ mesh.normals.length = mesh.vertices.length := by
  unfold SimpleMesh.ofTerrainData at returned
  simp only [bind_eq_ok] at returned
  obtain ⟨vertices, -, uvs, newUvs, normals, newNormals, triangles, newTriangles, arrays, filled,
    triangles', indexed, same⟩ := returned
  cases same
  have start : (⟨vertices, uvs, normals⟩ : VertexArrays K).Sized vertices.length := by
    refine ⟨rfl, ?_, ?_⟩
    · simp [(newArray_eq_ok.mp newUvs).2]
    · simp [(newArray_eq_ok.mp newNormals).2]
  obtain ⟨⟨vertexCount, uvCount, normalCount⟩, sample⟩ := vertices_filled start filled
  -- a new array holds zeros, and the first sample has index zero
  have origin : wrap32 ((0 : Nat) + (0 : Nat) * data.heightmapWidth) = 0 := by
    rw [Nat.cast_zero, zero_mul, add_zero]
    exact wrap32_of_fits (by decide) (by decide)
  have first := (sample 0 0 samples.1 samples.2).2
  rw [origin] at first
  have zeros : IndicesOver vertices.length triangles.length triangles := by
    refine ⟨fun t member => ?_, rfl⟩
    rw [(newArray_eq_ok.mp newTriangles).2] at member
    rw [List.eq_of_mem_replicate member]
    exact ⟨le_rfl, first⟩
  obtain ⟨index, count⟩ := triangles_indexed sample zeros indexed
  have managed : triangles.length < 2 ^ 31 := by
    rw [(newArray_eq_ok.mp newTriangles).2, List.length_replicate]
    unfold wrap32
    omega
  have uv : arrays.uvs.length = arrays.vertices.length := uvCount.trans vertexCount.symm
  have normal : arrays.normals.length = arrays.vertices.length := normalCount.trans vertexCount.symm
  rw [← vertexCount] at index
  exact ⟨⟨index, .inr uv, .inr normal, count.trans_lt managed⟩, uv, normal⟩

end

/-! ## The models that Init makes -/

section
variable [Mathf K]

def ModelsValid (s : InitState K) : Prop := ∀ model ∈ s.scene.models, model.mesh.Valid

omit [LinearOrder K] [Mathf K] in
theorem ModelsValid.append {s s' : InitState K} (before : ModelsValid s) {model : SimpleModel K}
    (appended : s'.scene.models = s.scene.models ++ [model]) (valid : model.mesh.Valid) : ModelsValid s' := by
  intro other member
  rw [appended] at member
  rcases List.mem_append.mp member with earlier | new
  · exact before other earlier
  · rw [List.mem_singleton.mp new]
    exact valid

theorem addSubMesh_valid {r : MeshRenderer K} {filter : MeshFilter K} {mesh : Mesh K} {i : Nat}
    (valid : (SimpleMesh.ofMesh mesh i).Valid) {s s' : InitState K} (before : ModelsValid s)
    (returned : addSubMesh r filter mesh s i = .ok s') : ModelsValid s' := by
  unfold addSubMesh SimpleModel.ofMesh at returned
  rw [bind_eq_ok] at returned
  rcases returned with ⟨mat, selected, returned⟩
  cases mat with
  | none => cases returned
  | some mat =>
    rw [← Except.ok.inj returned]
    exact before.append rfl valid

omit [LinearOrder K] in
theorem addTerrain_valid {cullingMask : UInt32} {terrain : Terrain K}
    (samples : 0 < terrain.terrainData.heightmapWidth ∧ 0 < terrain.terrainData.heightmapHeight)
    {s s' : InitState K} (before : ModelsValid s) (returned : addTerrain cullingMask s terrain = .ok s') :
    ModelsValid s' := by
  unfold addTerrain at returned
  split at returned
  · simp only [bind_eq_ok] at returned
    rcases returned with ⟨mesh, made, material, -, returned⟩
    rw [← Except.ok.inj returned]
    exact before.append rfl (ofTerrainData_valid samples made).1
  · exact Except.ok.inj returned ▸ before

theorem init_valid {world : UnityScene K} (valid : world.Valid) {final : InitState K}
    (returned : init world = .ok final) : ModelsValid final := by
  have fresh : ModelsValid (InitState.fresh world.lights) := by
    intro model none
    cases none
  refine init_keeps fresh ?_ ?_ returned
  · intro r member mask s s' before added
    refine addRenderer_keeps ?_ before added
    intro filter mesh i s s' found shared inside kept returned
    exact addSubMesh_valid (valid.meshes r member filter found mesh shared i inside) kept returned
  · intro terrain member mask s s' before added
    exact addTerrain_valid (valid.terrains terrain member) before added

end

/-! ## The lookups at a hit -/

def Renderer.showing (renderer : Renderer K) (s : InitState K) : Renderer K :=
  { renderer with scene := s.scene, nativeScene := s.nativeScene }

/-- The model, the three entries of its triangle array and the texture coordinates there
exist: what GetLightPathColor accesses. -/
def Renderer.SurfaceInRange (renderer : Renderer K) (ray : Ray K) : Prop :=
  ∃ surface, renderer.scene.surface ray.geomID ray.primID ray.u ray.v = .ok surface

/-- The normals exist too: what TraceColor accesses. -/
def Renderer.HitInRange (renderer : Renderer K) (ray : Ray K) : Prop :=
  ∃ surface, renderer.scene.surface ray.geomID ray.primID ray.u ray.v = .ok surface ∧
    ∀ t ∈ [surface.t0, surface.t1, surface.t2], ∃ normal, arrayGet surface.model.mesh.normals t = .ok normal

section
variable {model : SimpleModel K} {t : Int}

omit [LinearOrder K] in
theorem exists_arrayGet_of_index {α : Type} {array : List α} (index : 0 ≤ t ∧ t < model.mesh.vertices.length)
    (whole : array = [] ∨ array.length = model.mesh.vertices.length) :
    (∃ value, arrayGet array t = .ok value) ↔ array ≠ [] := by
  rw [exists_arrayGet_iff]
  rcases whole with rfl | same
  · simp only [List.length_nil, ne_eq, not_true, iff_false]
    omega
  · have nonempty : array ≠ [] := by
      rintro rfl
      simp only [List.length_nil] at same
      omega
    exact iff_of_true (by omega) nonempty

end

omit [LinearOrder K] in
theorem surface_of_registered {scene : SimpleScene K} {geomID primID : UInt32} {model : SimpleModel K}
    (few : scene.models.length < 2 ^ 31) (held : scene.models[geomID.toNat]? = some model)
    (managed : model.mesh.triangles.length < 2 ^ 31) (inside : primID.toNat < model.mesh.triangles.length / 3)
    (u v : K) :
    ∃ t0 t1 t2, (t0 ∈ model.mesh.triangles ∧ t1 ∈ model.mesh.triangles ∧ t2 ∈ model.mesh.triangles) ∧
      scene.surface geomID primID u v = (do
        let uv := RayTraceTool.lerpVector2 (← arrayGet model.mesh.uv t0) (← arrayGet model.mesh.uv t1)
          (← arrayGet model.mesh.uv t2) u v
        return { model, t0, t1, t2, uv }) := by
  have entry : ∀ k : UInt32, k.toNat < 3 → ∃ t ∈ model.mesh.triangles,
      arrayGet model.mesh.triangles (primID * 3 + k).toNat = .ok t := by
    intro k small
    have inRange : primID.toNat * 3 + k.toNat < model.mesh.triangles.length := by omega
    obtain ⟨t, found⟩ := exists_arrayGet_iff.mpr
      (⟨Int.natCast_nonneg _, Int.ofNat_lt.mpr inRange⟩ : 0 ≤ ((primID.toNat * 3 + k.toNat : Nat) : Int) ∧ _)
    rw [← primID_offset (by omega)] at found
    exact ⟨t, arrayGet_mem found, found⟩
  obtain ⟨t0, mem0, get0⟩ := entry 0 (by decide)
  obtain ⟨t1, mem1, get1⟩ := entry 1 (by decide)
  obtain ⟨t2, mem2, get2⟩ := entry 2 (by decide)
  refine ⟨t0, t1, t2, ⟨mem0, mem1, mem2⟩, ?_⟩
  unfold SimpleScene.surface
  rw [SimpleScene.listGet_model few held]
  simp only [get0, get1, get2, bind, Except.bind]

theorem inRange_of_registered {renderer : Renderer K} {ray : Ray K} {model : SimpleModel K}
    (few : renderer.scene.models.length < 2 ^ 31) (held : renderer.scene.models[ray.geomID.toNat]? = some model)
    (mesh : model.mesh.Valid) (inside : ray.primID.toNat < model.mesh.triangles.length / 3) :
    (renderer.SurfaceInRange ray ↔ model.mesh.uv ≠ []) ∧
      (renderer.HitInRange ray ↔ model.mesh.uv ≠ [] ∧ model.mesh.normals ≠ []) := by
  obtain ⟨t0, t1, t2, ⟨mem0, mem1, mem2⟩, lookups⟩ :=
    surface_of_registered few held mesh.managed inside ray.u ray.v
  have texture : ∀ t ∈ model.mesh.triangles,
      ((∃ uv, arrayGet model.mesh.uv t = .ok uv) ↔ model.mesh.uv ≠ []) :=
    fun t member => exists_arrayGet_of_index (mesh.index t member) mesh.uv
  have shading : ∀ t ∈ model.mesh.triangles,
      ((∃ normal, arrayGet model.mesh.normals t = .ok normal) ↔ model.mesh.normals ≠ []) :=
    fun t member => exists_arrayGet_of_index (mesh.index t member) mesh.normals
  have resolved : ∀ surface, renderer.scene.surface ray.geomID ray.primID ray.u ray.v = .ok surface →
      model.mesh.uv ≠ [] ∧ surface.model = model ∧ surface.t0 = t0 := by
    intro surface same
    rw [lookups] at same
    simp only [bind_eq_ok] at same
    obtain ⟨uv0, get0, uv1, -, uv2, -, same⟩ := same
    cases same
    exact ⟨(texture t0 mem0).mp ⟨uv0, get0⟩, rfl, rfl⟩
  have resolves : model.mesh.uv ≠ [] → ∃ uv, renderer.scene.surface ray.geomID ray.primID ray.u ray.v =
      .ok { model, t0, t1, t2, uv } := by
    intro textured
    obtain ⟨uv0, get0⟩ := (texture t0 mem0).mpr textured
    obtain ⟨uv1, get1⟩ := (texture t1 mem1).mpr textured
    obtain ⟨uv2, get2⟩ := (texture t2 mem2).mpr textured
    refine ⟨RayTraceTool.lerpVector2 uv0 uv1 uv2 ray.u ray.v, ?_⟩
    rw [lookups]
    simp only [get0, get1, get2, bind, Except.bind, pure, Except.pure]
  refine ⟨⟨?_, ?_⟩, ⟨?_, ?_⟩⟩
  · rintro ⟨surface, same⟩
    exact (resolved surface same).1
  · intro textured
    obtain ⟨uv, same⟩ := resolves textured
    exact ⟨_, same⟩
  · rintro ⟨surface, same, normals⟩
    obtain ⟨textured, rfl, rfl⟩ := resolved surface same
    exact ⟨textured, (shading _ mem0).mp (normals _ List.mem_cons_self)⟩
  · rintro ⟨textured, shaded⟩
    obtain ⟨uv, same⟩ := resolves textured
    refine ⟨_, same, fun t member => (shading t ?_).mpr shaded⟩
    simp only [List.mem_cons, List.not_mem_nil, or_false] at member
    rcases member with rfl | rfl | rfl
    · exact mem0
    · exact mem1
    · exact mem2

/-- At a hit, the lookups of GetLightPathColor are in range exactly where the mesh has texture
coordinates, and those of TraceColor where it has normals besides. -/
theorem accesses_inRange_iff [Mathf K] {world : UnityScene K} (valid : world.Valid) {final : InitState K}
    (returned : init world = .ok final) (few : final.scene.models.length < 2 ^ 31) (renderer : Renderer K)
    (registered : renderer.embree.HitsRegistered) {pos dir : Vector3 K} {length : K} {hit : Hit K}
    (found : (renderer.showing final).closest pos dir length = some hit) :
    let ray := (renderer.showing final).intersect pos dir length
    ∃ model, final.scene.models[hit.geomID.toNat]? = some model ∧
      ((renderer.showing final).SurfaceInRange ray ↔ model.mesh.uv ≠ []) ∧
      ((renderer.showing final).HitInRange ray ↔ model.mesh.uv ≠ [] ∧ model.mesh.normals ≠ []) := by
  intro ray
  obtain ⟨⟨geomID, primID⟩, -⟩ := (renderer.showing final).intersect_hit found
  obtain ⟨geometry, stored, inside⟩ := registered _ _ _ found
  have native : (renderer.showing final).nativeScene = nativeOf final.scene.models := init_nativeScene returned
  rw [native, nativeOf_geometries, List.getElem?_map, Option.map_eq_some_iff] at stored
  obtain ⟨model, held, rfl⟩ := stored
  have mesh := init_valid valid returned model (List.mem_of_getElem? held)
  have inside : ray.primID.toNat < model.mesh.triangles.length / 3 := by
    rw [primID]
    simpa [storedMesh] using inside
  have selected : (renderer.showing final).scene.models[ray.geomID.toNat]? = some model := by
    rw [geomID]
    exact held
  exact ⟨model, held, inRange_of_registered few selected mesh inside⟩

/-! ## The square, with and without texture coordinates -/

def meshWorld (mesh : Mesh Rat) : UnityScene Rat where
  camera := some ⟨1⟩
  lights := []
  renderers := [{ squareRenderer true with filter := some ⟨upright, some mesh⟩, attached := by simp [squareRenderer] }]
  terrains := []

theorem meshWorld_valid {mesh : Mesh Rat} (valid : ∀ i < mesh.triangles.length, (SimpleMesh.ofMesh mesh i).Valid) :
    (meshWorld mesh).Valid := by
  constructor
  · intro r member filter found mesh' shared
    rw [List.mem_singleton.mp member] at found
    cases found
    cases shared
    exact valid
  · intro terrain none
    cases none

theorem squareMesh_valid (uv : List (Vector2 Rat)) (whole : uv = [] ∨ uv.length = 4) :
    ∀ i < squareMesh.triangles.length, (SimpleMesh.ofMesh { squareMesh with uv } i).Valid := by
  intro i inside
  have submesh : i = 0 ∨ i = 1 := by
    have two : squareMesh.triangles.length = 2 := rfl
    omega
  have few : 3 < 2 ^ 31 := by decide
  rcases submesh with rfl | rfl
  · have index : ∀ t ∈ [0, 1, 2], 0 ≤ t ∧ t < ((4 : Nat) : Int) := by decide
    exact ⟨index, whole, .inr rfl, few⟩
  · have index : ∀ t ∈ [2, 1, 3], 0 ≤ t ∧ t < ((4 : Nat) : Int) := by decide
    exact ⟨index, whole, .inr rfl, few⟩

def blankRenderer : Renderer Rat := .over Embree.closedSegment [] [] Color.black

theorem blankRenderer_registered : blankRenderer.embree.HitsRegistered :=
  (exhaustive_reportsNearest Embree.closedSegment).registered

theorem accesses_inRange_square :
    letI := Mathf.atUnits
    ∃ final, init (meshWorld squareMesh) = .ok final ∧
      (blankRenderer.showing final).HitInRange
        ((blankRenderer.showing final).intersect ⟨1 / 4, 1 / 4, -1⟩ ⟨0, 0, 1⟩ 1000) := by
  let := Mathf.atUnits
  have facts : (init (meshWorld squareMesh)).map (fun s =>
      (s.scene.models.map fun model => (model.mesh.uv.length, model.mesh.normals.length),
        (blankRenderer.showing s).closest ⟨1 / 4, 1 / 4, -1⟩ ⟨0, 0, 1⟩ 1000)) =
      .ok ([(4, 4), (4, 4)], some ⟨⟨1, 1 / 4, 1 / 4, 0, 0⟩, ⟨0, 0, 1⟩⟩) := by decide +kernel
  obtain ⟨final, returned, all⟩ := map_eq_ok.mp facts
  simp only [Prod.mk.injEq] at all
  obtain ⟨sizes, found⟩ := all
  have few : final.scene.models.length < 2 ^ 31 := by
    rw [← List.length_map, sizes]
    decide
  obtain ⟨model, held, -, inRange⟩ := accesses_inRange_iff
    (meshWorld_valid (squareMesh_valid _ (.inr rfl))) returned few blankRenderer blankRenderer_registered found
  have held : final.scene.models[0]? = some model := held
  have listed := congrArg (fun sizes => sizes[0]?) sizes
  rw [List.getElem?_map, held] at listed
  have full : model.mesh.uv.length = 4 ∧ model.mesh.normals.length = 4 := by simpa using listed
  refine ⟨final, returned, inRange.mpr ⟨?_, ?_⟩⟩
  · exact List.ne_nil_of_length_pos (by omega)
  · exact List.ne_nil_of_length_pos (by omega)

/-- Without texture coordinates the square is hit all the same, and both methods throw. -/
theorem accesses_outOfRange :
    letI := Mathf.atUnits
    (meshWorld { squareMesh with uv := [] }).Valid ∧
    ∃ final, init (meshWorld { squareMesh with uv := [] }) = .ok final ∧
      let ray := (blankRenderer.showing final).intersect ⟨1 / 4, 1 / 4, -1⟩ ⟨0, 0, 1⟩ 1000
      ray.geomID = 0 ∧ ¬ (blankRenderer.showing final).SurfaceInRange ray ∧
        (blankRenderer.showing final).pointTexel ray = .error .indexOutOfRange ∧
        ((blankRenderer.showing final).hitInfo ray).map HitInfo.texColor = .error .indexOutOfRange := by
  let := Mathf.atUnits
  refine ⟨meshWorld_valid (squareMesh_valid _ (.inl rfl)), ?_⟩
  have facts : (init (meshWorld { squareMesh with uv := [] })).map (fun s =>
      let ray := (blankRenderer.showing s).intersect ⟨1 / 4, 1 / 4, -1⟩ ⟨0, 0, 1⟩ 1000
      (ray.geomID, ((blankRenderer.showing s).scene.surface ray.geomID ray.primID ray.u ray.v).map Surface.t0,
        (blankRenderer.showing s).pointTexel ray, ((blankRenderer.showing s).hitInfo ray).map HitInfo.texColor)) =
      .ok (0, .error .indexOutOfRange, .error .indexOutOfRange, .error .indexOutOfRange) := by decide +kernel
  obtain ⟨final, returned, all⟩ := map_eq_ok.mp facts
  simp only [Prod.mk.injEq] at all
  obtain ⟨geomID, surface, texel, info⟩ := all
  have missing : ¬ (blankRenderer.showing final).SurfaceInRange
      ((blankRenderer.showing final).intersect ⟨1 / 4, 1 / 4, -1⟩ ⟨0, 0, 1⟩ 1000) := by
    rintro ⟨found, same⟩
    rw [same] at surface
    cases surface
  exact ⟨final, returned, geomID, missing, texel, info⟩

end RayTraceRenderer.Managed
