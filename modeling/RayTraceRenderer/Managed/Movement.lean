import RayTraceRenderer.Managed.Listing

/-! A scene that stands somewhere else.

Where all objects and the camera are moved along one vector, Init makes the moved models and
geometries, every ray crosses what it crossed before, and the picture is the same.
-/

set_option autoImplicit false

namespace RayTraceRenderer.Managed

open Unity Native Recursion

variable {K σ : Type} [Field K] (shift : Vector3 K)

/-! ## What is moved -/

def UnityScene.moved (world : UnityScene K) : UnityScene K where
  camera := world.camera
  lights := world.lights.map (Light.moved shift)
  renderers := world.renderers.map (MeshRenderer.moved shift)
  terrains := world.terrains.map (Terrain.moved shift)

def rstMoved (rst : RST K) : RST K := { rst with pos := rst.pos + shift }

def SimpleModel.moved (model : SimpleModel K) : SimpleModel K :=
  { model with rst := rstMoved shift model.rst, lights := model.lights.map (Light.moved shift) }

def SimpleScene.moved (scene : SimpleScene K) : SimpleScene K where
  lights := scene.lights.map (Light.moved shift)
  models := scene.models.map (SimpleModel.moved shift)

def meshMoved (mesh : TriangleMesh K) : TriangleMesh K :=
  { mesh with verticesBuf := mesh.verticesBuf.map (· + shift) }

def nativeMoved (scene : RTCScene K) : RTCScene K := ⟨scene.geometries.map (meshMoved shift)⟩

def AddMeshCall.moved (call : AddMeshCall K) : AddMeshCall K := { call with rst := rstMoved shift call.rst }

def InitState.moved (s : InitState K) : InitState K where
  scene := s.scene.moved shift
  textures := s.textures
  nativeScene := nativeMoved shift s.nativeScene
  calls := s.calls.map (AddMeshCall.moved shift)

/-! ## Init -/

variable {shift}

theorem storedMesh_moved (rst : RST K) (vertexCount indexCount : Nat) (vertices : Nat → K) (triangles : Nat → Int)
    (mask : UInt32) : storedMesh (rstMoved shift rst) vertexCount indexCount vertices triangles mask =
      meshMoved shift (storedMesh rst vertexCount indexCount vertices triangles mask) := by
  have world : ∀ localPos, worldPos (rstMoved shift rst) localPos = worldPos rst localPos + shift := by
    intro localPos
    unfold worldPos rstMoved
    ext <;> simp [add_assoc]
  unfold storedMesh meshMoved
  simp only [world, List.map_map]
  rfl

theorem InitState.addMesh_moved (s : InitState K) (transform : Transform K) (vertexCount triangleCount : Nat)
    (vertices : List (Vector3 K)) (triangles : List Int) (mask : UInt32) :
    (s.moved shift).addMesh (transform.moved shift) vertexCount triangleCount vertices triangles mask =
      (s.addMesh transform vertexCount triangleCount vertices triangles mask).moved shift := by
  have placed : rstOf (transform.moved shift) = rstMoved shift (rstOf transform) := rfl
  unfold InitState.addMesh Native.addMesh InitState.moved nativeMoved
  simp only [placed, storedMesh_moved, List.length_map, List.map_append, List.map_cons, List.map_nil]
  rfl

theorem InitState.addModel_moved (s : InitState K) (model : SimpleModel K) :
    (s.moved shift).addModel (model.moved shift) = (s.addModel model).moved shift := by
  unfold InitState.addModel InitState.moved SimpleScene.moved
  simp only [List.map_append, List.map_cons, List.map_nil]

section
variable [LinearOrder K]

section
variable [IsStrictOrderedRing K]

theorem getActivityLights_moved (r : MeshRenderer K) (lights : List (Light K)) :
    RayTraceTool.getActivityLights (r.moved shift) (lights.map (Light.moved shift)) =
      (RayTraceTool.getActivityLights r lights).map (Light.moved shift) := by
  unfold RayTraceTool.getActivityLights
  rw [List.filter_map]
  congr 1
  apply List.filter_congr
  intro light _
  change (light.isActiveAndEnabled && if light.type ≠ .directional then
    ((r.bounds.expand light.range).moved shift).contains (light.transform.position + shift) else true) = _
  rw [Bounds.contains_moved]

variable [Mathf K]

theorem addSubMesh_moved (r : MeshRenderer K) (filter : MeshFilter K) (mesh : Mesh K) (s : InitState K) (i : Nat) :
    addSubMesh (r.moved shift) (filter.moved shift) mesh (s.moved shift) i =
      (addSubMesh r filter mesh s i).map (InitState.moved shift) := by
  have materials : (r.moved shift).sharedMaterials = r.sharedMaterials := rfl
  unfold addSubMesh SimpleModel.ofMesh
  rw [materials]
  cases arrayGet r.sharedMaterials i with
  | error why => rfl
  | ok mat =>
    cases mat with
    | none => rfl
    | some mat =>
      let triangles := getTriangles mesh i
      let added := s.addMesh filter.transform mesh.vertices.length triangles.length mesh.vertices triangles 1
      let found := SimpleMaterial.ofMaterial mat s.textures
      let model : SimpleModel K :=
        { rst := rstOf r.transform
          mesh := .ofMesh mesh i
          material := .mesh found.1
          lights := RayTraceTool.getActivityLights r s.scene.lights }
      have lights : RayTraceTool.getActivityLights (r.moved shift) (s.moved shift).scene.lights =
          (RayTraceTool.getActivityLights r s.scene.lights).map (Light.moved shift) := getActivityLights_moved r _
      let textured : InitState K := { added with textures := found.2 }
      have moved : (textured.moved shift).addModel (model.moved shift) = (textured.addModel model).moved shift :=
        InitState.addModel_moved textured model
      have called : (s.moved shift).addMesh (filter.moved shift).transform mesh.vertices.length triangles.length
          mesh.vertices triangles 1 = added.moved shift := InitState.addMesh_moved ..
      change Except.ok (InitState.addModel { (s.moved shift).addMesh (filter.moved shift).transform mesh.vertices.length
        triangles.length mesh.vertices triangles 1 with textures := found.2 } { model.moved shift with
          lights := RayTraceTool.getActivityLights (r.moved shift) (s.moved shift).scene.lights }) =
        Except.ok ((textured.addModel model).moved shift)
      rw [called, lights, ← moved]
      rfl

theorem addRenderer_moved (cullingMask : UInt32) (s : InitState K) (r : MeshRenderer K) :
    addRenderer cullingMask (s.moved shift) (r.moved shift) =
      (addRenderer cullingMask s r).map (InitState.moved shift) := by
  have shown : ((r.moved shift).isVisible && isLayerVisible (r.moved shift).layer cullingMask) =
      (r.isVisible && isLayerVisible r.layer cullingMask) := rfl
  have attached : (r.moved shift).filter = r.filter.map (MeshFilter.moved shift) := rfl
  unfold addRenderer
  rw [shown, attached]
  by_cases visible : (r.isVisible && isLayerVisible r.layer cullingMask) = true
  · simp only [visible, if_true]
    cases r.filter with
    | none => rfl
    | some filter =>
      have shared : (filter.moved shift).sharedMesh = filter.sharedMesh := rfl
      simp only [Option.map_some, shared]
      cases filter.sharedMesh with
      | none => rfl
      | some mesh =>
        have whole := foldlM_carry (InitState.moved shift) id (fun s i => addSubMesh_moved r filter mesh s i)
          (List.range mesh.triangles.length) s
        rwa [List.map_id] at whole
  · rw [if_neg visible, if_neg visible]
    rfl

end

variable [Mathf K]

omit [LinearOrder K] in
theorem addTerrain_moved (cullingMask : UInt32) (s : InitState K) (terrain : Terrain K) :
    addTerrain cullingMask (s.moved shift) (terrain.moved shift) =
      (addTerrain cullingMask s terrain).map (InitState.moved shift) := by
  have shown : ((terrain.moved shift).activeInHierarchy && isLayerVisible (terrain.moved shift).layer cullingMask) =
      (terrain.activeInHierarchy && isLayerVisible terrain.layer cullingMask) := rfl
  have data : (terrain.moved shift).terrainData = terrain.terrainData := rfl
  unfold addTerrain
  rw [shown, data]
  by_cases active : (terrain.activeInHierarchy && isLayerVisible terrain.layer cullingMask) = true
  · simp only [active, if_true]
    cases SimpleMesh.ofTerrainData terrain.terrainData with
    | error why => rfl
    | ok mesh =>
      cases SimpleTerrainMaterial.ofTerrainData terrain.terrainData with
      | error why => rfl
      | ok material =>
        let added := s.addMesh terrain.transform mesh.vertices.length mesh.triangles.length mesh.vertices mesh.triangles 1
        let model : SimpleModel K :=
          { rst := rstOf terrain.transform, mesh, material := .terrain material, lights := s.scene.lights }
        have moved : (added.moved shift).addModel (model.moved shift) = (added.addModel model).moved shift :=
          InitState.addModel_moved added model
        have called : (s.moved shift).addMesh (terrain.moved shift).transform mesh.vertices.length mesh.triangles.length
            mesh.vertices mesh.triangles 1 = added.moved shift := InitState.addMesh_moved ..
        change Except.ok (InitState.addModel ((s.moved shift).addMesh (terrain.moved shift).transform mesh.vertices.length
          mesh.triangles.length mesh.vertices mesh.triangles 1) (model.moved shift)) =
          Except.ok ((added.addModel model).moved shift)
        rw [called, moved]
  · rw [if_neg active, if_neg active]
    rfl

variable [IsStrictOrderedRing K]

/-- Init makes the moved scene of the moved objects, and throws where it threw. -/
theorem init_moved (world : UnityScene K) : init (world.moved shift) = (init world).map (InitState.moved shift) := by
  have fresh : InitState.fresh (world.moved shift).lights = (InitState.fresh world.lights).moved shift := rfl
  unfold init
  rw [fresh]
  cases camera : world.camera with
  | none =>
    have none : (world.moved shift).camera = none := camera
    rw [none]
    rfl
  | some cam =>
    have cam' : (world.moved shift).camera = some cam := camera
    have renderers := foldlM_carry (InitState.moved shift) (MeshRenderer.moved shift)
      (addRenderer_moved cam.cullingMask) world.renderers (.fresh world.lights)
    have terrains := foldlM_carry (InitState.moved shift) (Terrain.moved shift) (addTerrain_moved cam.cullingMask)
      world.terrains
    rw [cam']
    change ((world.renderers.map (MeshRenderer.moved shift)).foldlM _ _ >>= fun s =>
      (world.terrains.map (Terrain.moved shift)).foldlM _ s) =
        (world.renderers.foldlM (addRenderer cam.cullingMask) (.fresh world.lights) >>= fun s =>
          world.terrains.foldlM (addTerrain cam.cullingMask) s).map (InitState.moved shift)
    rw [renderers]
    cases world.renderers.foldlM (addRenderer cam.cullingMask) (.fresh world.lights) with
    | error why => rfl
    | ok mid => exact terrains mid

end

/-! ## Rays -/

def Renderer.moved [LinearOrder K] (shift : Vector3 K) (renderer : Renderer K) : Renderer K :=
  { renderer with scene := renderer.scene.moved shift, nativeScene := nativeMoved shift renderer.nativeScene }

def cornersMoved (shift : Vector3 K) (corners : Vector3 K × Vector3 K × Vector3 K) : Vector3 K × Vector3 K × Vector3 K :=
  (corners.1 + shift, corners.2.1 + shift, corners.2.2 + shift)

theorem meshMoved_corners (mesh : TriangleMesh K) (triangle : Triangle) :
    (meshMoved shift mesh).corners triangle = (mesh.corners triangle).map (cornersMoved shift) := by
  have vertex : ∀ index, (meshMoved shift mesh).vertex index = (mesh.vertex index).map (· + shift) := by
    intro index
    unfold TriangleMesh.vertex meshMoved
    split
    · exact List.getElem?_map ..
    · rfl
  unfold TriangleMesh.corners
  rw [vertex, vertex, vertex]
  cases mesh.vertex triangle.v0 with
  | none => rfl
  | some V0 =>
    cases mesh.vertex triangle.v1 with
    | none => rfl
    | some V1 =>
      cases mesh.vertex triangle.v2 with
      | none => rfl
      | some V2 => rfl

section
variable [LinearOrder K]

omit [LinearOrder K] in
theorem nativeMoved_corners (scene : RTCScene K) (geomID primID : UInt32) :
    (nativeMoved shift scene).corners geomID primID = (scene.corners geomID primID).map (cornersMoved shift) := by
  have geometry : (nativeMoved shift scene).geometries[geomID.toNat]? =
      (scene.geometries[geomID.toNat]?).map (meshMoved shift) := List.getElem?_map ..
  unfold RTCScene.corners
  rw [geometry]
  cases scene.geometries[geomID.toNat]? with
  | none => rfl
  | some mesh =>
    have triangles : (meshMoved shift mesh).trianglesBuf = mesh.trianglesBuf := rfl
    simp only [Option.map_some, Option.bind_eq_bind, Option.bind_some, triangles]
    cases mesh.trianglesBuf[primID.toNat]? with
    | none => rfl
    | some triangle => exact meshMoved_corners mesh triangle

/-- A moved ray crosses the moved triangles where the ray crossed them. -/
theorem crosses_moved {scene : RTCScene K} {pos dir : Vector3 K} {length : K} {c : Crossing K}
    (crosses : Crosses scene (newRay pos dir length).toRayData c) :
    Crosses (nativeMoved shift scene) (newRay (pos + shift) dir length).toRayData c := by
  obtain ⟨⟨mesh, geometry, seen⟩, ⟨V0, V1, V2, corners, transversal, meets⟩, inside, valid⟩ := crosses
  refine ⟨⟨meshMoved shift mesh, ?_, seen⟩, ⟨V0 + shift, V1 + shift, V2 + shift, ?_, ?_, ?_⟩, inside, valid⟩
  · exact (List.getElem?_map ..).trans (congrArg (Option.map (meshMoved shift)) geometry)
  · rw [nativeMoved_corners, corners]
    rfl
  · unfold determinant at transversal ⊢
    rw [Vector3.add_sub_add, Vector3.add_sub_add]
    exact transversal
  · have whole : barycentric (V0 + shift) (V1 + shift) (V2 + shift) c.u c.v = barycentric V0 V1 V2 c.u c.v + shift := by
      unfold barycentric
      ext <;> simp <;> ring
    rw [whole, ← meets]
    exact Vector3.add_swap ..

variable [FloorRing K] {renderer : Renderer K}

theorem texelOf_moved (c : Crossing K) : (renderer.moved shift).texelOf c = renderer.texelOf c := by
  have models : (renderer.moved shift).scene.models = renderer.scene.models.map (SimpleModel.moved shift) := rfl
  unfold Renderer.texelOf SimpleScene.surfaceOf SimpleScene.surface
  rw [models, listGet_map]
  cases listGet renderer.scene.models (wrap32 c.geomID.toNat) with
  | error why => rfl
  | ok model =>
    simp only [bind_assoc, pure_bind]
    rfl

theorem look_moved (c : Crossing K) : (renderer.moved shift).look c = renderer.look c := by
  have models : (renderer.moved shift).scene.models = renderer.scene.models.map (SimpleModel.moved shift) := rfl
  unfold Renderer.look SimpleScene.surfaceOf SimpleScene.surface
  rw [models, listGet_map]
  cases listGet renderer.scene.models (wrap32 c.geomID.toNat) with
  | error why => rfl
  | ok model =>
    simp only [bind_assoc, pure_bind]
    rfl

theorem carriesCrossings_moved : Renderer.CarriesCrossings shift renderer (renderer.moved shift) :=
  fun _ _ _ c crosses => ⟨c, crosses_moved crosses, rfl, texelOf_moved c, look_moved c⟩

omit [FloorRing K] in
theorem Renderer.moved_back (renderer : Renderer K) : (renderer.moved shift).moved (-shift) = renderer := by
  have lights : Light.moved (-shift) ∘ Light.moved shift = (id : Light K → Light K) := funext (Light.moved_back shift)
  have models : SimpleModel.moved (-shift) ∘ SimpleModel.moved shift = (id : SimpleModel K → SimpleModel K) := by
    funext model
    simp only [Function.comp_apply, SimpleModel.moved, rstMoved, Vector3.add_back, List.map_map, lights, List.map_id, id]
  have meshes : meshMoved (-shift) ∘ meshMoved shift = (id : TriangleMesh K → TriangleMesh K) := by
    have vertices : (fun V : Vector3 K => V + -shift) ∘ (fun V => V + shift) = id := funext fun V => Vector3.add_back V shift
    funext mesh
    simp only [Function.comp_apply, meshMoved, List.map_map, vertices, List.map_id, id]
  simp only [Renderer.moved, SimpleScene.moved, nativeMoved, List.map_map, lights, models, meshes, List.map_id]

-- The moved scene shows what the scene showed, to a camera that moved with it.
theorem Renderer.showsAs_moved {segment : RayData K → K → Prop} (reports : renderer.embree.ReportsNearest segment)
    (steady : ∀ pos dir length t, segment (newRay (pos + shift) dir length).toRayData t ↔
      segment (newRay pos dir length).toRayData t)
    (seamless : renderer.Seamless) : renderer.ShowsAs (renderer.moved shift) shift := by
  have back : Renderer.CarriesCrossings (-shift) (renderer.moved shift) renderer := by
    have carries : Renderer.CarriesCrossings (-shift) (renderer.moved shift) ((renderer.moved shift).moved (-shift)) :=
      carriesCrossings_moved
    rwa [Renderer.moved_back] at carries
  exact Renderer.showsAs_of_crossings rfl rfl (.refl _) reports reports steady carriesCrossings_moved back seamless

variable [IsStrictOrderedRing K] [Mathf K]

/-- Where everything is moved along one vector, Init returns what it did, moved, or throws what it did, and to a
camera that is moved as well the picture stays. -/
theorem Renderer.render_moved (shift : Vector3 K) (world : UnityScene K) (renderer : Renderer K)
    {segment : RayData K → K → Prop} (reports : renderer.embree.ReportsNearest segment)
    (steady : ∀ pos dir length t, segment (newRay (pos + shift) dir length).toRayData t ↔
      segment (newRay pos dir length).toRayData t) :
    init (world.moved shift) = (init world).map (InitState.moved shift) ∧
    ∀ final, init world = .ok final → (renderer.showing final).Seamless →
      ∀ (random : Random K σ) (fuel : Nat) (input : RenderInput K) (linearToGammaSpace : K → K)
        (updateProgress : K → StateM σ Bool) (s : σ) (result : Frame K × σ),
        ((renderer.showing final).render random fuel input linearToGammaSpace updateProgress).run s = .ok result ↔
          ((renderer.showing (final.moved shift)).render random fuel (input.moved shift) linearToGammaSpace
            updateProgress).run s = .ok result := by
  refine ⟨init_moved world, ?_⟩
  intro final _ seamless random fuel input linearToGammaSpace updateProgress s result
  have alike : (renderer.showing final).ShowsAs (renderer.showing (final.moved shift)) shift :=
    Renderer.showsAs_moved reports steady seamless
  exact alike.render_iff random fuel input linearToGammaSpace updateProgress s result

end

theorem render_moved_panes :
    letI := Mathf.atUnits
    let world := paneWorld [sun 0, sun 1] [paneRenderer 2, paneRenderer 4]
    init (world.moved ⟨1, 2, 3⟩) = (init world).map (InitState.moved ⟨1, 2, 3⟩) ∧
      ∃ final, init world = .ok final ∧ ∀ fuel result,
        ((blankRenderer.showing final).render Random.lowest fuel (skyInput 4 4) id fun _ => pure false).run () =
            .ok result ↔
          ((blankRenderer.showing (final.moved ⟨1, 2, 3⟩)).render Random.lowest fuel ((skyInput 4 4).moved ⟨1, 2, 3⟩) id
            fun _ => pure false).run () = .ok result := by
  let := Mathf.atUnits
  intro world
  obtain ⟨final, returned, -, seamless⟩ := paneWorld_shown [sun 0, sun 1]
  obtain ⟨same, pictures⟩ := Renderer.render_moved ⟨1, 2, 3⟩ world blankRenderer (exhaustive_reportsNearest _)
    (fun _ _ _ _ => Iff.rfl)
  exact ⟨same, final, returned, fun fuel result =>
    pictures final returned seamless Random.lowest fuel (skyInput 4 4) id _ () result⟩

end RayTraceRenderer.Managed
