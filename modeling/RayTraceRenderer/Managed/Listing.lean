import RayTraceRenderer.Managed.Likeness

/-! The order in which Unity lists the objects of a scene.

FindObjectsOfType promises none. Init appends the models in that order, and gives a texture that it
meets again the copy it made the first time. Neither shows in the picture, as long as surfaces that
meet look the same where they do.
-/

set_option autoImplicit false

namespace RayTraceRenderer.Managed

open Unity Native Recursion

variable {K σ : Type} [Field K] [LinearOrder K]

/-! ## The models of a scene, without the state that Init threads -/

/-- A model without its list of lights, which depends on the order of the lights. -/
def SimpleModel.unlisted (model : SimpleModel K) : SimpleModel K := { model with lights := [] }

/-- The textures of the materials are told apart by their pointers. -/
def UnityScene.Depicts (world : UnityScene K) (image : Int → Option (Texture2D K)) : Prop :=
  ∀ r ∈ world.renderers, ∀ mat, some mat ∈ r.sharedMaterials → ∀ texture ∈ mat.mainTexture,
    texture.texture2D = image texture.nativePtr

/-- The same objects, listed in another order. -/
structure UnityScene.Relisted (world world' : UnityScene K) : Prop where
  camera : world.camera = world'.camera
  lights : world.lights.Perm world'.lights
  renderers : world.renderers.Perm world'.renderers
  terrains : world.terrains.Perm world'.terrains

section
variable [Mathf K]

/-- Every texture in the cache is a copy of the image behind its pointer. -/
def Copied (image : Int → Option (Texture2D K)) (textures : TextureCache K) : Prop :=
  ∀ pointer texture, textures pointer = some texture → texture = .ofTexture2D (image pointer)

def submeshModel (r : MeshRenderer K) (mesh : Mesh K) (i : Nat) : Except Exn (SimpleModel K) := do
  let (model, _) ← SimpleModel.ofMesh r.transform mesh i (← arrayGet r.sharedMaterials i) fun _ => none
  return model

def rendererModels (cullingMask : UInt32) (r : MeshRenderer K) : Except Exn (List (SimpleModel K)) :=
  if r.isVisible && isLayerVisible r.layer cullingMask then
    match r.filter with
    | none => .ok []
    | some filter =>
      match filter.sharedMesh with
      | none => .ok []
      | some mesh => (List.range mesh.triangles.length).mapM (submeshModel r mesh)
  else .ok []

def terrainModels (cullingMask : UInt32) (terrain : Terrain K) : Except Exn (List (SimpleModel K)) := do
  if terrain.activeInHierarchy && isLayerVisible terrain.layer cullingMask then
    let mesh ← SimpleMesh.ofTerrainData terrain.terrainData
    let material ← SimpleTerrainMaterial.ofTerrainData terrain.terrainData
    return [{ rst := rstOf terrain.transform, mesh, material := .terrain material, lights := [] }]
  else return []

/-- The models in the order of the objects they are made of. -/
def UnityScene.models (world : UnityScene K) : Except Exn (List (SimpleModel K)) :=
  match world.camera with
  | none => .ok []
  | some cam => do
    let meshes ← world.renderers.mapM (rendererModels cam.cullingMask)
    let terrains ← world.terrains.mapM (terrainModels cam.cullingMask)
    return meshes.flatten ++ terrains.flatten

omit [LinearOrder K] in
-- A known texture is the copy that an empty cache would lead to.
theorem lookupTexture_copied {image : Int → Option (Texture2D K)} {mat : Material K}
    (depicts : ∀ texture ∈ mat.mainTexture, texture.texture2D = image texture.nativePtr)
    {textures : TextureCache K} (copied : Copied image textures) :
    (lookupTexture mat textures).1 = (lookupTexture mat fun _ => none).1 ∧
      Copied image (lookupTexture mat textures).2 := by
  unfold lookupTexture
  cases named : mat.mainTexture with
  | none => exact ⟨rfl, copied⟩
  | some mainTexture =>
    have shown := depicts mainTexture named
    simp only
    cases known : textures mainTexture.nativePtr with
    | some texture =>
      refine ⟨?_, copied⟩
      rw [copied _ texture known, shown]
    | none =>
      refine ⟨rfl, ?_⟩
      intro pointer texture found
      change Function.update textures mainTexture.nativePtr _ pointer = some texture at found
      by_cases same : pointer = mainTexture.nativePtr
      · rw [same, Function.update_self, Option.some.injEq] at found
        rw [← found, same, shown]
      · rw [Function.update_of_ne same] at found
        exact copied pointer texture found

/-! ## Init appends them -/

def InitState.unlisted (s : InitState K) : List (SimpleModel K) := s.scene.models.map SimpleModel.unlisted

variable {image : Int → Option (Texture2D K)} {cullingMask : UInt32} {s s' : InitState K}

theorem addSubMesh_appends {r : MeshRenderer K} {filter : MeshFilter K} {mesh : Mesh K} {i : Nat}
    (depicts : ∀ mat, some mat ∈ r.sharedMaterials → ∀ texture ∈ mat.mainTexture,
      texture.texture2D = image texture.nativePtr)
    (copied : Copied image s.textures) (returned : addSubMesh r filter mesh s i = .ok s') :
    Copied image s'.textures ∧ ∃ model, submeshModel r mesh i = .ok model ∧ s'.unlisted = s.unlisted ++ [model] := by
  unfold addSubMesh SimpleModel.ofMesh at returned
  unfold submeshModel SimpleModel.ofMesh
  rw [bind_eq_ok] at returned
  obtain ⟨mat, selected, returned⟩ := returned
  rw [selected]
  cases mat with
  | none => cases returned
  | some mat =>
    obtain ⟨same, copied'⟩ := lookupTexture_copied (depicts mat (arrayGet_mem selected)) copied
    have material : (SimpleMaterial.ofMaterial mat s.textures).1 = (SimpleMaterial.ofMaterial mat fun _ => none).1 := by
      unfold SimpleMaterial.ofMaterial
      simp only
      rw [same]
    let model : SimpleModel K :=
      { rst := rstOf r.transform
        mesh := .ofMesh mesh i
        material := .mesh (SimpleMaterial.ofMaterial mat fun _ => none).1
        lights := [] }
    rw [← Except.ok.inj returned]
    refine ⟨copied', model, rfl, ?_⟩
    rw [InitState.unlisted, InitState.addModel, List.map_append]
    simp only [model, ← material]
    rfl

theorem addRenderer_appends {r : MeshRenderer K}
    (depicts : ∀ mat, some mat ∈ r.sharedMaterials → ∀ texture ∈ mat.mainTexture,
      texture.texture2D = image texture.nativePtr)
    (copied : Copied image s.textures) (returned : addRenderer cullingMask s r = .ok s') :
    Copied image s'.textures ∧
      ∃ models, rendererModels cullingMask r = .ok models ∧ s'.unlisted = s.unlisted ++ models := by
  have none : Copied image s.textures ∧ ∃ models, (.ok [] : Except Exn (List (SimpleModel K))) = .ok models ∧
      s.unlisted = s.unlisted ++ models := ⟨copied, [], rfl, (List.append_nil _).symm⟩
  unfold addRenderer at returned
  unfold rendererModels
  by_cases visible : (r.isVisible && isLayerVisible r.layer cullingMask) = true
  · rw [if_pos visible] at returned ⊢
    cases found : r.filter with
    | none =>
      simp only [found] at returned
      exact Except.ok.inj returned ▸ none
    | some filter =>
      cases shared : filter.sharedMesh with
      | none =>
        simp only [found, shared] at returned
        simp only [shared]
        exact Except.ok.inj returned ▸ none
      | some mesh =>
        simp only [found, shared] at returned
        simp only [shared]
        have submesh : ∀ i ∈ List.range mesh.triangles.length, ∀ acc acc', Copied image acc.textures →
            addSubMesh r filter mesh acc i = .ok acc' → Copied image acc'.textures ∧
              ∃ new, (submeshModel r mesh i).map (fun model => [model]) = .ok new ∧
                acc'.unlisted = acc.unlisted ++ new := by
          intro i _ acc acc' kept added
          obtain ⟨kept', model, made, appended⟩ := addSubMesh_appends depicts kept added
          exact ⟨kept', [model], by rw [made]; rfl, appended⟩
        obtain ⟨copied', parts, each, appended⟩ :=
          foldlM_appends (fun s => Copied image s.textures) _ submesh copied returned
        obtain ⟨models, made, flat⟩ := mapM_singletons each
        exact ⟨copied', models, made, flat ▸ appended⟩
  · rw [if_neg visible] at returned ⊢
    exact Except.ok.inj returned ▸ none

omit [LinearOrder K] in
theorem addTerrain_appends {terrain : Terrain K} (returned : addTerrain cullingMask s terrain = .ok s') :
    s'.textures = s.textures ∧
      ∃ models, terrainModels cullingMask terrain = .ok models ∧ s'.unlisted = s.unlisted ++ models := by
  unfold addTerrain at returned
  unfold terrainModels
  by_cases active : (terrain.activeInHierarchy && isLayerVisible terrain.layer cullingMask) = true
  · simp only [active, if_true, bind_eq_ok] at returned ⊢
    obtain ⟨mesh, made, material, filled, returned⟩ := returned
    rw [← Except.ok.inj returned]
    refine ⟨rfl, _, ⟨mesh, made, material, filled, rfl⟩, ?_⟩
    rw [InitState.unlisted, InitState.addModel, List.map_append]
    rfl
  · rw [if_neg active] at returned ⊢
    rw [← Except.ok.inj returned]
    exact ⟨rfl, [], rfl, (List.append_nil _).symm⟩

/-- What Init made is the scene's models, whatever the cache held on the way. -/
theorem init_unlisted {world : UnityScene K} (depicts : world.Depicts image) {final : InitState K}
    (returned : init world = .ok final) : world.models = .ok final.unlisted := by
  unfold init at returned
  unfold UnityScene.models
  cases camera : world.camera with
  | none =>
    simp only [camera] at returned
    rw [← Except.ok.inj returned]
    rfl
  | some cam =>
    simp only [camera, bind_eq_ok] at returned ⊢
    obtain ⟨mid, first, second⟩ := returned
    have fresh : Copied image (InitState.fresh world.lights).textures := by
      intro pointer texture none
      cases none
    obtain ⟨copied, meshes, each, appended⟩ := foldlM_appends (fun s => Copied image s.textures) _
      (fun r member acc acc' kept added => addRenderer_appends (depicts r member) kept added) fresh first
    obtain ⟨-, terrains, each', appended'⟩ := foldlM_appends (fun s => Copied image s.textures) _
      (fun terrain _ acc acc' kept added => by
        obtain ⟨same, models, made, added'⟩ := addTerrain_appends added
        exact ⟨same.symm ▸ kept, models, made, added'⟩) copied second
    refine ⟨meshes, each, terrains, each', ?_⟩
    rw [appended', appended]
    rfl

/-! ## Where they exist, Init returns -/

theorem addRenderer_returns {r : MeshRenderer K} {models : List (SimpleModel K)}
    (made : rendererModels cullingMask r = .ok models) (s : InitState K) :
    ∃ s', addRenderer cullingMask s r = .ok s' := by
  unfold rendererModels at made
  unfold addRenderer
  by_cases visible : (r.isVisible && isLayerVisible r.layer cullingMask) = true
  · rw [if_pos visible] at made ⊢
    cases found : r.filter with
    | none => exact ⟨s, rfl⟩
    | some filter =>
      cases shared : filter.sharedMesh with
      | none =>
        simp only [shared]
        exact ⟨s, rfl⟩
      | some mesh =>
        simp only [found, shared] at made ⊢
        apply foldlM_returns
        intro i member acc
        obtain ⟨model, each⟩ := mapM_mem_ok made i member
        unfold submeshModel SimpleModel.ofMesh at each
        unfold addSubMesh SimpleModel.ofMesh
        rw [bind_eq_ok] at each
        obtain ⟨mat, selected, each⟩ := each
        rw [selected]
        cases mat with
        | none => cases each
        | some mat => exact ⟨_, rfl⟩
  · rw [if_neg visible]
    exact ⟨s, rfl⟩

omit [LinearOrder K] in
theorem addTerrain_returns {terrain : Terrain K} {models : List (SimpleModel K)}
    (made : terrainModels cullingMask terrain = .ok models) (s : InitState K) :
    ∃ s', addTerrain cullingMask s terrain = .ok s' := by
  unfold terrainModels at made
  unfold addTerrain
  by_cases active : (terrain.activeInHierarchy && isLayerVisible terrain.layer cullingMask) = true
  · simp only [active, if_true, bind_eq_ok] at made ⊢
    obtain ⟨mesh, shaped, material, filled, -⟩ := made
    exact ⟨_, mesh, shaped, material, filled, rfl⟩
  · rw [if_neg active]
    exact ⟨s, rfl⟩

theorem init_returns {world : UnityScene K} {models : List (SimpleModel K)} (made : world.models = .ok models) :
    ∃ final, init world = .ok final := by
  unfold UnityScene.models at made
  unfold init
  cases camera : world.camera with
  | none => exact ⟨_, rfl⟩
  | some cam =>
    simp only [camera, bind_eq_ok] at made ⊢
    obtain ⟨meshes, each, terrains, each', -⟩ := made
    have renderers : ∀ r ∈ world.renderers, ∀ s, ∃ s', addRenderer cam.cullingMask s r = .ok s' := by
      intro r member s
      obtain ⟨models, made⟩ := mapM_mem_ok each r member
      exact addRenderer_returns made s
    have plots : ∀ terrain ∈ world.terrains, ∀ s, ∃ s', addTerrain cam.cullingMask s terrain = .ok s' := by
      intro terrain member s
      obtain ⟨models, made⟩ := mapM_mem_ok each' terrain member
      exact addTerrain_returns made s
    obtain ⟨mid, first⟩ := foldlM_returns _ renderers (InitState.fresh world.lights)
    obtain ⟨final, second⟩ := foldlM_returns _ plots mid
    exact ⟨final, mid, first, second⟩

/-- In another order Init returns as well, with the same models in another order. -/
theorem init_relisted {world world' : UnityScene K} (same : world.Relisted world') (depicts : world.Depicts image)
    {final : InitState K} (returned : init world = .ok final) :
    ∃ final', init world' = .ok final' ∧ final.unlisted.Perm final'.unlisted := by
  have depicts' : world'.Depicts image := fun r member => depicts r (same.renderers.mem_iff.mpr member)
  have made := init_unlisted depicts returned
  have listed : ∃ models', world'.models = .ok models' ∧ final.unlisted.Perm models' := by
    unfold UnityScene.models at made ⊢
    rw [← same.camera]
    cases camera : world.camera with
    | none =>
      simp only [camera] at made
      exact ⟨_, made, .refl _⟩
    | some cam =>
      simp only [camera, bind_eq_ok] at made ⊢
      obtain ⟨meshes, each, terrains, each', whole⟩ := made
      obtain ⟨meshes', relisted, perm⟩ := mapM_perm same.renderers each
      obtain ⟨terrains', relisted', perm'⟩ := mapM_perm same.terrains each'
      refine ⟨_, ⟨meshes', relisted, terrains', relisted', rfl⟩, ?_⟩
      rw [← Except.ok.inj whole]
      exact perm.flatten.append perm'.flatten
  obtain ⟨models', made', perm⟩ := listed
  obtain ⟨final', returned'⟩ := init_returns made'
  have models := init_unlisted depicts' returned'
  rw [made', Except.ok.injEq] at models
  exact ⟨final', returned', models ▸ perm⟩

end

/-! ## Two renderers over the same models -/

section
variable [FloorRing K]

/-- The same settings, the same Embree and the same models, in another order. -/
structure Renderer.Rearranged (renderer renderer' : Renderer K) : Prop where
  ignoreMaterialColor : renderer.ignoreMaterialColor = renderer'.ignoreMaterialColor
  native : renderer.nativeScene = nativeOf renderer.scene.models
  native' : renderer'.nativeScene = nativeOf renderer'.scene.models
  few : renderer.scene.models.length < 2 ^ 31
  models : (renderer.scene.models.map SimpleModel.unlisted).Perm (renderer'.scene.models.map SimpleModel.unlisted)

variable {renderer renderer' : Renderer K}

omit [FloorRing K] in
theorem Renderer.Rearranged.few' (rearranged : renderer.Rearranged renderer') :
    renderer'.scene.models.length < 2 ^ 31 := by
  have lengths := rearranged.models.length_eq
  rw [List.length_map, List.length_map] at lengths
  rw [← lengths]
  exact rearranged.few

omit [FloorRing K] in
theorem Renderer.Rearranged.symm (rearranged : renderer.Rearranged renderer') : renderer'.Rearranged renderer where
  ignoreMaterialColor := rearranged.ignoreMaterialColor.symm
  native := rearranged.native'
  native' := rearranged.native
  few := rearranged.few'
  models := rearranged.models.symm

theorem texelOf_unlisted {c c' : Crossing K} {model model' : SimpleModel K}
    (found : listGet renderer.scene.models (wrap32 c.geomID.toNat) = .ok model)
    (found' : listGet renderer'.scene.models (wrap32 c'.geomID.toNat) = .ok model')
    (same : model'.unlisted = model.unlisted) (triangle : c'.primID = c.primID) (point : c'.u = c.u ∧ c'.v = c.v) :
    renderer'.texelOf c' = renderer.texelOf c := by
  unfold Renderer.texelOf SimpleScene.surfaceOf SimpleScene.surface
  rw [found, found', triangle, point.1, point.2]
  cases model
  cases model'
  cases same
  simp only [bind_assoc, pure_bind]
  rfl

theorem look_unlisted (ignore : renderer.ignoreMaterialColor = renderer'.ignoreMaterialColor)
    {c c' : Crossing K} {model model' : SimpleModel K}
    (found : listGet renderer.scene.models (wrap32 c.geomID.toNat) = .ok model)
    (found' : listGet renderer'.scene.models (wrap32 c'.geomID.toNat) = .ok model')
    (same : model'.unlisted = model.unlisted) (triangle : c'.primID = c.primID) (point : c'.u = c.u ∧ c'.v = c.v) :
    renderer'.look c' = renderer.look c := by
  unfold Renderer.look SimpleScene.surfaceOf SimpleScene.surface Renderer.surfaceColor
  rw [found, found', triangle, point.1, point.2, ignore]
  cases model
  cases model'
  cases same
  simp only [bind_assoc, pure_bind]
  rfl

theorem Renderer.Rearranged.carry (rearranged : renderer.Rearranged renderer') {ray : RayData K} {c : Crossing K}
    (crosses : Crosses renderer.nativeScene ray c) :
    ∃ c', Crosses renderer'.nativeScene ray c' ∧ c'.t = c.t ∧ renderer'.texelOf c' = renderer.texelOf c ∧
      renderer'.look c' = renderer.look c := by
  obtain ⟨⟨mesh, geometry, seen⟩, ⟨V0, V1, V2, corners, transversal, meets⟩, inside, -⟩ := crosses
  have stored := geometry
  rw [rearranged.native, nativeOf_geometries, List.getElem?_map, Option.map_eq_some_iff] at stored
  obtain ⟨model, held, made⟩ := stored
  have member := List.mem_map_of_mem (f := SimpleModel.unlisted) (List.mem_of_getElem? held)
  obtain ⟨model', listed, same⟩ := List.mem_map.mp (rearranged.models.mem_iff.mp member)
  obtain ⟨g, bound, held'⟩ := List.getElem_of_mem listed
  have small : g < 2 ^ 31 := bound.trans rearranged.few'
  have id : (UInt32.ofNat g).toNat = g := UInt32.toNat_ofNat_of_lt' (small.trans (by decide))
  have selected : renderer'.scene.models[(UInt32.ofNat g).toNat]? = some model' := by
    rw [id, List.getElem?_eq_getElem bound, held']
  have geometry' : renderer'.nativeScene.geometries[(UInt32.ofNat g).toNat]? = some mesh := by
    rw [rearranged.native', nativeOf_geometries, List.getElem?_map, selected, ← made]
    cases model
    cases model'
    cases same
    rfl
  have lookup := SimpleScene.listGet_model rearranged.few held
  have lookup' := SimpleScene.listGet_model rearranged.few' selected
  refine ⟨{ c with geomID := .ofNat g }, ⟨⟨mesh, geometry', seen⟩, ⟨V0, V1, V2, ?_, transversal, meets⟩, inside, ?_⟩,
    rfl, texelOf_unlisted lookup lookup' same rfl ⟨rfl, rfl⟩,
    look_unlisted rearranged.ignoreMaterialColor lookup lookup' same rfl ⟨rfl, rfl⟩⟩
  · unfold RTCScene.corners at corners ⊢
    rw [geometry] at corners
    rw [geometry']
    exact corners
  · intro invalid
    have value := congrArg UInt32.toNat invalid
    rw [id] at value
    have last : RTC_INVALID_GEOMETRY_ID.toNat = 2 ^ 32 - 1 := rfl
    omega

theorem Renderer.Rearranged.carriesCrossings (rearranged : renderer.Rearranged renderer') :
    Renderer.CarriesCrossings 0 renderer renderer' := by
  intro pos dir length c crosses
  rw [Vector3.add_zero_vector]
  exact rearranged.carry crosses

end

section
variable [FloorRing K] [Mathf K]

/-- The picture shows the objects of a scene, and not the order in which Unity lists them. -/
theorem Renderer.render_relisted {world world' : UnityScene K} (same : world.Relisted world')
    {image : Int → Option (Texture2D K)} (depicts : world.Depicts image) {final : InitState K}
    (returned : init world = .ok final) (few : final.scene.models.length < 2 ^ 31) (renderer : Renderer K)
    {segment : RayData K → K → Prop} (reports : renderer.embree.ReportsNearest segment)
    (seamless : (renderer.showing final).Seamless) :
    ∃ final', init world' = .ok final' ∧ ∀ (random : Random K σ) (fuel : Nat) (input : RenderInput K)
      (linearToGammaSpace : K → K) (updateProgress : K → StateM σ Bool) (s : σ) (result : Frame K × σ),
      ((renderer.showing final).render random fuel input linearToGammaSpace updateProgress).run s = .ok result ↔
        ((renderer.showing final').render random fuel input linearToGammaSpace updateProgress).run s = .ok result := by
  obtain ⟨final', returned', models⟩ := init_relisted same depicts returned
  have lights : final.scene.lights.Perm final'.scene.lights := by
    rw [(init_lists returned).1, (init_lists returned').1]
    exact same.lights
  have rearranged : (renderer.showing final).Rearranged (renderer.showing final') :=
    ⟨rfl, init_nativeScene returned, init_nativeScene returned', few, models⟩
  have unmoved : ((renderer.showing final).scene.lights.map (Light.moved 0)).Perm (renderer.showing final').scene.lights := by
    have same : Light.moved 0 = (id : Light K → Light K) := funext Light.moved_zero
    rw [same, List.map_id]
    exact lights
  have home : Renderer.CarriesCrossings (-0) (renderer.showing final') (renderer.showing final) := by
    rw [Vector3.neg_zero_vector]
    exact rearranged.symm.carriesCrossings
  have alike : (renderer.showing final).ShowsAs (renderer.showing final') 0 :=
    Renderer.showsAs_of_crossings rfl rfl unmoved reports reports (by simp only [Vector3.add_zero_vector, implies_true])
      rearranged.carriesCrossings home seamless
  refine ⟨final', returned', ?_⟩
  intro random fuel input linearToGammaSpace updateProgress s result
  have same := alike.render_iff random fuel input linearToGammaSpace updateProgress s result
  rwa [RenderInput.moved_zero] at same

end

/-! ## Two panes under two lights -/

def whiteTexel : Texture2D Rat where
  width := 1
  height := 1
  importerReadable := true
  pixels := [Color.white]
  blitted := [Color.white]
  pixels_length := rfl
  blitted_length := rfl

def paneRenderer (z : Rat) : MeshRenderer Rat where
  layer := 0
  isVisible := true
  transform := upright
  filter := some
    { transform := upright
      sharedMesh := some
        { vertices := [⟨-1, -1, z⟩, ⟨3, -1, z⟩, ⟨-1, 3, z⟩]
          uv := List.replicate 3 ⟨0, 0⟩
          normals := List.replicate 3 ⟨0, 0, -1⟩
          triangles := [[0, 1, 2]] } }
  attached := by simp
  bounds := ⟨0, ⟨3, 3, 4⟩⟩
  sharedMaterials := [some { whiteMaterial with mainTexture := some ⟨7, some whiteTexel⟩ }]

def paneWorld (lights : List (Light Rat)) (renderers : List (MeshRenderer Rat)) : UnityScene Rat where
  camera := some ⟨1⟩
  lights := lights
  renderers := renderers
  terrains := []

def whitePane (z : Rat) : SimpleModel Rat := plainPane z Color.white .Alphablend Alphablend.notAdditive

theorem paneWorld_models (lights : List (Light Rat)) :
    letI := Mathf.atUnits
    (paneWorld lights [paneRenderer 2, paneRenderer 4]).models = .ok [whitePane 2, whitePane 4] := rfl

theorem whitePane_look {renderer : Renderer Rat} (plain : renderer.ignoreMaterialColor = false) {c : Crossing Rat}
    {model : SimpleModel Rat} (held : listGet renderer.scene.models (wrap32 c.geomID.toNat) = .ok model) {z : Rat}
    (pane : model.unlisted = whitePane z) (triangle : c.primID = 0) :
    renderer.texelOf c = .ok Color.white ∧ renderer.look c = .ok
      { texColor := Color.white
        hitNormal := ⟨0, 0, -1⟩
        glossiness := 0
        metallic := 0
        renderMode := .Alphablend
        notAdditive := Alphablend.notAdditive } := by
  have surface : renderer.scene.surfaceOf c = .ok ⟨model, 0, 1, 2, ⟨0, 0⟩⟩ := by
    unfold SimpleScene.surfaceOf SimpleScene.surface
    rw [held, triangle]
    cases model
    cases pane
    have corner : RayTraceTool.lerpVector2 (⟨0, 0⟩ : Vector2 Rat) ⟨0, 0⟩ ⟨0, 0⟩ c.v c.u = ⟨0, 0⟩ := by
      ext <;> simp [RayTraceTool.lerpVector2]
    exact congrArg (fun uv => Except.ok (Surface.mk _ 0 1 2 uv)) corner
  unfold Renderer.texelOf Renderer.look
  rw [surface]
  cases model
  cases pane
  have normal : RayTraceTool.lerpVector3 (⟨0, 0, -1⟩ : Vector3 Rat) ⟨0, 0, -1⟩ ⟨0, 0, -1⟩ c.v c.u = ⟨0, 0, -1⟩ := by
    ext
    · simp [RayTraceTool.lerpVector3]
    · simp [RayTraceTool.lerpVector3]
    · simp [RayTraceTool.lerpVector3]
      ring
  have nearest : RayTraceTool.pointSample [Color.white] 1 1 (⟨0, 0⟩ : Vector2 Rat) = .ok Color.white := by
    decide +kernel
  have between : RayTraceTool.linearSample [Color.white] 1 1 (⟨0, 0⟩ : Vector2 Rat) = .ok Color.white := by
    decide +kernel
  refine ⟨nearest, ?_⟩
  refine bind_eq_ok.mpr ⟨_, rfl, bind_eq_ok.mpr ⟨Color.white, between, bind_eq_ok.mpr ⟨⟨0, 0, -1⟩, rfl, ?_⟩⟩⟩
  refine bind_eq_ok.mpr ⟨⟨0, 0, -1⟩, rfl, bind_eq_ok.mpr ⟨⟨0, 0, -1⟩, rfl, ?_⟩⟩
  rw [normal]
  have color : renderer.surfaceColor (whitePane 0).material Color.white = Color.white := by
    unfold Renderer.surfaceColor
    rw [plain]
    decide +kernel
  have rotated : Unity.Quaternion.identity.rotate (⟨0, 0, -1⟩ : Vector3 Rat) = ⟨0, 0, -1⟩ := by decide +kernel
  change Except.ok (Look.mk (renderer.surfaceColor (whitePane 0).material Color.white)
    (Unity.Quaternion.identity.rotate ⟨0, 0, -1⟩) 0 0 .Alphablend _) = _
  rw [color, rotated]

theorem panes_seamless {renderer : Renderer Rat} (plain : renderer.ignoreMaterialColor = false)
    (native : renderer.nativeScene = nativeOf renderer.scene.models) (few : renderer.scene.models.length < 2 ^ 31)
    (panes : ∀ model ∈ renderer.scene.models, ∃ z, model.unlisted = whitePane z) : renderer.Seamless := by
  have looked : ∀ (ray : RayData Rat) (c : Crossing Rat), Crosses renderer.nativeScene ray c →
      ∃ z model, listGet renderer.scene.models (wrap32 c.geomID.toNat) = .ok model ∧
        model.unlisted = whitePane z ∧ c.primID = 0 := by
    intro ray c crosses
    obtain ⟨-, ⟨V0, V1, V2, corners, -⟩, -⟩ := crosses
    unfold RTCScene.corners at corners
    simp only [Option.bind_eq_bind, Option.bind_eq_some_iff] at corners
    obtain ⟨mesh, geometry, triangle, stored, -⟩ := corners
    rw [native, nativeOf_geometries, List.getElem?_map, Option.map_eq_some_iff] at geometry
    obtain ⟨model, held, made⟩ := geometry
    obtain ⟨z, pane⟩ := panes model (List.mem_of_getElem? held)
    refine ⟨z, model, SimpleScene.listGet_model few held, pane, ?_⟩
    have single := (List.getElem?_eq_some_iff.mp stored).1
    rw [← made] at single
    cases model
    cases pane
    have first : c.primID.toNat < 1 := by simpa [storedMesh, plainPane, paneModel] using single
    apply UInt32.toNat_inj.mp
    exact Nat.lt_one_iff.mp first
  intro pos dir length c c' crosses crosses' _
  obtain ⟨z, model, held, pane, triangle⟩ := looked _ c crosses
  obtain ⟨z', model', held', pane', triangle'⟩ := looked _ c' crosses'
  obtain ⟨texel, look⟩ := whitePane_look plain held pane triangle
  obtain ⟨texel', look'⟩ := whitePane_look plain held' pane' triangle'
  rw [texel, texel', look, look']
  exact ⟨rfl, rfl⟩

theorem paneWorld_depicts (lights : List (Light Rat)) :
    (paneWorld lights [paneRenderer 2, paneRenderer 4]).Depicts fun _ => some whiteTexel := by
  intro r member mat listed texture named
  have white : mat = { whiteMaterial with mainTexture := some ⟨7, some whiteTexel⟩ } := by
    rcases List.mem_pair.mp member with near | far
    · subst near
      simpa [paneRenderer] using listed
    · subst far
      simpa [paneRenderer] using listed
  subst white
  cases named
  rfl

theorem paneWorld_shown (lights : List (Light Rat)) :
    letI := Mathf.atUnits
    ∃ final, init (paneWorld lights [paneRenderer 2, paneRenderer 4]) = .ok final ∧
      final.scene.models.length < 2 ^ 31 ∧ (blankRenderer.showing final).Seamless := by
  let := Mathf.atUnits
  have models := paneWorld_models lights
  obtain ⟨final, returned⟩ := init_returns models
  have unlisted := init_unlisted (paneWorld_depicts lights) returned
  rw [models, Except.ok.injEq] at unlisted
  have few : final.scene.models.length < 2 ^ 31 := by
    rw [← List.length_map SimpleModel.unlisted]
    change final.unlisted.length < 2 ^ 31
    rw [← unlisted]
    decide
  have panes : ∀ model ∈ final.scene.models, ∃ z, model.unlisted = whitePane z := by
    intro model member
    have listed : model.unlisted ∈ final.unlisted := List.mem_map_of_mem member
    rw [← unlisted] at listed
    rcases List.mem_pair.mp listed with near | far
    · exact ⟨2, near⟩
    · exact ⟨4, far⟩
  exact ⟨final, returned, few, panes_seamless rfl (init_nativeScene returned) few panes⟩

theorem render_relisted_panes :
    letI := Mathf.atUnits
    ∃ final, init (paneWorld [sun 0, sun 1] [paneRenderer 2, paneRenderer 4]) = .ok final ∧
      ∃ final', init (paneWorld [sun 1, sun 0] [paneRenderer 4, paneRenderer 2]) = .ok final' ∧ ∀ fuel result,
        ((blankRenderer.showing final).render Random.lowest fuel (skyInput 4 4) id fun _ => pure false).run () =
            .ok result ↔
          ((blankRenderer.showing final').render Random.lowest fuel (skyInput 4 4) id fun _ => pure false).run () =
            .ok result := by
  let := Mathf.atUnits
  obtain ⟨final, returned, few, seamless⟩ := paneWorld_shown [sun 0, sun 1]
  have same : (paneWorld [sun 0, sun 1] [paneRenderer 2, paneRenderer 4]).Relisted
      (paneWorld [sun 1, sun 0] [paneRenderer 4, paneRenderer 2]) :=
    ⟨rfl, .swap _ _ _, .swap _ _ _, .refl _⟩
  obtain ⟨final', returned', pictures⟩ := Renderer.render_relisted same (paneWorld_depicts _) returned few blankRenderer
    (exhaustive_reportsNearest _) seamless
  exact ⟨final, returned, final', returned', fun fuel result => pictures Random.lowest fuel (skyInput 4 4) id _ () result⟩

end RayTraceRenderer.Managed
