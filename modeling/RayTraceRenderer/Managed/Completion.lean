import RayTraceRenderer.Managed.Accesses
import RayTraceRenderer.Managed.LightPath
import RayTraceRenderer.Managed.Outcomes
import RayTraceRenderer.Managed.Render
import RayTraceRenderer.Managed.Termination
import RayTraceRenderer.Managed.TerrainBlend

/-! A press of the Render button that shows a picture: Init, then Render.

What Unity gives Init decides whether a lookup or a sample can throw later, and whether the
surfaces stop every shadow ray. Where neither happens, Render returns.
-/

set_option autoImplicit false

namespace RayTraceRenderer.Managed

open Unity Native Recursion

variable {K σ : Type} [Field K] [LinearOrder K]

/-! ## Materials that can be sampled -/

/-- The runtime holds no larger array of texels. -/
def SimpleTexture.Fits (texture : SimpleTexture K) : Prop := texture.width * texture.height ≤ 2 ^ 30

omit [LinearOrder K] in
theorem SimpleTexture.Fits.texels {texture : SimpleTexture K} (fits : texture.Fits) :
    Texels texture.colors texture.width texture.height := by
  have positive := List.length_pos_iff.mpr texture.nonempty
  rw [texture.sized] at positive
  exact ⟨Nat.pos_of_mul_pos_right positive, Nat.pos_of_mul_pos_left positive, texture.sized, fits⟩

/-- Every layer of a terrain has a weight map and a texture. -/
structure SimpleTerrainMaterial.Layered (material : SimpleTerrainMaterial K) : Prop where
  maps : ∀ i < material.alphamapLayers, ∃ map, material.alphamaps[i]? = some map ∧
    Shaped map material.alphamapWidth material.alphamapHeight
  textures : material.alphamapLayers ≤ material.textures.length
  fits : ∀ texture ∈ material.textures, texture.Fits

def SimpleMaterialBase.Sampleable : SimpleMaterialBase K → Prop
  | .mesh material => material.texture.Fits
  | .terrain material => material.Layered

section
variable [FloorRing K]

def Total (sampler : SimpleMaterialBase.Sampler K) : Prop :=
  ∀ (colors : List (Color K)) (w h : Nat) uv, Texels colors w h → ∃ color, sampler colors w h uv = .ok color

theorem pointSample_total : Total (RayTraceTool.pointSample : SimpleMaterialBase.Sampler K) := by
  intro colors w h uv texels
  exact ⟨_, pointSample_eq texels uv⟩

theorem linearSample_total : Total (RayTraceTool.linearSample : SimpleMaterialBase.Sampler K) := by
  intro colors w h uv texels
  obtain ⟨color, sampled, -⟩ := linearSample_channel texels uv
  exact ⟨color, sampled⟩

theorem SimpleTerrainMaterial.Layered.addLayer {material : SimpleTerrainMaterial K} (layered : material.Layered)
    {sampler : SimpleMaterialBase.Sampler K} (total : Total sampler) (uv : Vector2 K) (rlt : Color K) {i : Nat}
    (layer : i < material.alphamapLayers) :
    ∃ color, SimpleMaterialBase.addLayer sampler material uv rlt i = .ok color := by
  obtain ⟨map, stored, shaped⟩ := layered.maps i layer
  have listed : listGet material.alphamaps i = .ok map := listGet_eq_ok.mpr ⟨Int.natCast_nonneg i, stored⟩
  have textured : i < material.textures.length := layer.trans_le layered.textures
  have selected : arrayGet material.textures i = .ok material.textures[i] :=
    arrayGet_eq_ok.mpr ⟨Int.natCast_nonneg i, List.getElem?_eq_getElem textured⟩
  obtain ⟨color, sampled⟩ := total _ _ _ (uv.scale material.textures[i].scale)
    (layered.fits _ (List.getElem_mem textured)).texels
  unfold SimpleMaterialBase.addLayer SimpleMaterialBase.layerWeight
  rw [listed]
  simp only [bind, Except.bind, bilinearInterpolation_eq shaped]
  split
  · rw [selected]
    simp only
    rw [sampled]
    exact ⟨_, rfl⟩
  · exact ⟨rlt, rfl⟩

theorem SimpleMaterialBase.Sampleable.sample {material : SimpleMaterialBase K} (sampleable : material.Sampleable)
    {sampler : SimpleMaterialBase.Sampler K} (total : Total sampler) (uv : Vector2 K) :
    ∃ color, material.sample sampler uv = .ok color := by
  cases material with
  | mesh material => exact total _ _ _ uv (SimpleTexture.Fits.texels sampleable)
  | terrain material =>
    apply foldlM_returns
    intro i member rlt
    exact SimpleTerrainMaterial.Layered.addLayer sampleable total uv rlt (List.mem_range.mp member)

end

/-! ## What Init makes of complete objects -/

def FitsArray (image : Option (Texture2D K)) : Prop := ∀ texture ∈ image, texture.width * texture.height ≤ 2 ^ 30

structure Splatted (data : TerrainData K) : Prop where
  wide : 0 < data.alphamapWidth
  high : 0 < data.alphamapHeight
  managed : data.alphamapWidth * data.alphamapHeight ≤ 2 ^ 30
  layers : data.alphamapLayers ≤ data.splatPrototypes.length
  textures : ∀ prototype ∈ data.splatPrototypes, FitsArray prototype.texture

/-- Every mesh has texture coordinates and normals for its vertices, and every terrain its textures. -/
structure UnityScene.Complete (world : UnityScene K) : Prop where
  valid : world.Valid
  meshes : ∀ r ∈ world.renderers, ∀ filter ∈ r.filter, ∀ mesh ∈ filter.sharedMesh,
    mesh.uv.length = mesh.vertices.length ∧ mesh.normals.length = mesh.vertices.length
  textures : ∀ r ∈ world.renderers, ∀ mat, some mat ∈ r.sharedMaterials → ∀ texture ∈ mat.mainTexture,
    FitsArray texture.texture2D
  terrains : ∀ terrain ∈ world.terrains, Splatted terrain.terrainData

/-- What a hit on the model needs besides valid indices. -/
structure SimpleModel.Ready (model : SimpleModel K) : Prop where
  uv : model.mesh.uv.length = model.mesh.vertices.length
  normals : model.mesh.normals.length = model.mesh.vertices.length
  sampleable : model.material.Sampleable

def CacheFits (textures : TextureCache K) : Prop := ∀ pointer texture, textures pointer = some texture → texture.Fits

def AllReady (s : InitState K) : Prop := (∀ model ∈ s.scene.models, model.Ready) ∧ CacheFits s.textures

omit [LinearOrder K] in
theorem AllReady.append {s s' : InitState K} (before : AllReady s) {model : SimpleModel K}
    (appended : s'.scene.models = s.scene.models ++ [model]) (ready : model.Ready) (cached : CacheFits s'.textures) :
    AllReady s' := by
  refine ⟨?_, cached⟩
  intro other member
  rw [appended] at member
  rcases List.mem_append.mp member with earlier | new
  · exact before.1 other earlier
  · rw [List.mem_singleton.mp new]
    exact ready

section
variable [Mathf K]

omit [LinearOrder K] in
theorem ofTexture2D_fits {image : Option (Texture2D K)} (fits : FitsArray image) :
    (SimpleTexture.ofTexture2D image).Fits := by
  have small : (SimpleTexture.blank : SimpleTexture K).Fits := show 1 * 1 ≤ 2 ^ 30 by decide
  cases image with
  | none => exact small
  | some texture =>
    unfold SimpleTexture.ofTexture2D
    simp only
    split
    · exact small
    · exact fits texture rfl

omit [LinearOrder K] in
theorem lookupTexture_fits {mat : Material K} (fits : ∀ texture ∈ mat.mainTexture, FitsArray texture.texture2D)
    {textures : TextureCache K} (cached : CacheFits textures) :
    (lookupTexture mat textures).1.Fits ∧ CacheFits (lookupTexture mat textures).2 := by
  unfold lookupTexture
  cases image : mat.mainTexture with
  | none =>
    refine ⟨ofTexture2D_fits ?_, cached⟩
    intro texture none
    cases none
  | some mainTexture =>
    simp only
    cases known : textures mainTexture.nativePtr with
    | some texture => exact ⟨cached _ texture known, cached⟩
    | none =>
      have new := ofTexture2D_fits (fits mainTexture image)
      refine ⟨new, ?_⟩
      intro pointer texture found
      change Function.update textures mainTexture.nativePtr _ pointer = some texture at found
      by_cases same : pointer = mainTexture.nativePtr
      · rw [same, Function.update_self, Option.some.injEq] at found
        rw [← found]
        exact new
      · rw [Function.update_of_ne same] at found
        exact cached pointer texture found

theorem addSubMesh_ready {r : MeshRenderer K} {filter : MeshFilter K} {mesh : Mesh K} {i : Nat}
    (sized : mesh.uv.length = mesh.vertices.length ∧ mesh.normals.length = mesh.vertices.length)
    (fits : ∀ mat, some mat ∈ r.sharedMaterials → ∀ texture ∈ mat.mainTexture, FitsArray texture.texture2D)
    {s s' : InitState K} (before : AllReady s) (returned : addSubMesh r filter mesh s i = .ok s') : AllReady s' := by
  unfold addSubMesh SimpleModel.ofMesh at returned
  rw [bind_eq_ok] at returned
  obtain ⟨mat, selected, returned⟩ := returned
  cases mat with
  | none => cases returned
  | some mat =>
    obtain ⟨new, cached⟩ := lookupTexture_fits (fits mat (arrayGet_mem selected)) before.2
    rw [← Except.ok.inj returned]
    exact before.append rfl ⟨sized.1, sized.2, new⟩ cached

omit [LinearOrder K] in
theorem terrainMaterial_layered {data : TerrainData K} (splatted : Splatted data) {material : SimpleTerrainMaterial K}
    (returned : SimpleTerrainMaterial.ofTerrainData data = .ok material) : material.Layered := by
  have range (n : Nat) : (do let i ← List.range n; pure (i : Int)).length = n := by simp
  unfold SimpleTerrainMaterial.ofTerrainData at returned
  rw [bind_eq_ok] at returned
  obtain ⟨alphamaps, made, returned⟩ := returned
  cases returned
  constructor
  · intro l layer
    have stored : l < alphamaps.length := by
      rw [mapM_length made, range]
      exact layer
    refine ⟨alphamaps[l], List.getElem?_eq_getElem stored, splatted.wide, splatted.high, ?_, ?_, splatted.managed⟩
    · obtain ⟨_, columns⟩ := mapM_mem made (List.getElem_mem stored)
      exact (mapM_length columns).trans (range _)
    · intro column member
      obtain ⟨_, columns⟩ := mapM_mem made (List.getElem_mem stored)
      obtain ⟨_, cells⟩ := mapM_mem columns member
      exact (mapM_length cells).trans (range _)
  · simpa using splatted.layers
  · intro texture member
    obtain ⟨prototype, listed, same⟩ := List.mem_map.mp member
    subst same
    exact ofTexture2D_fits (splatted.textures prototype listed)

omit [LinearOrder K] in
theorem addTerrain_ready {cullingMask : UInt32} {terrain : Terrain K} (splatted : Splatted terrain.terrainData)
    (samples : 0 < terrain.terrainData.heightmapWidth ∧ 0 < terrain.terrainData.heightmapHeight)
    {s s' : InitState K} (before : AllReady s) (returned : addTerrain cullingMask s terrain = .ok s') : AllReady s' := by
  unfold addTerrain at returned
  split at returned
  · simp only [bind_eq_ok] at returned
    obtain ⟨mesh, made, material, filled, returned⟩ := returned
    rw [← Except.ok.inj returned]
    obtain ⟨-, uv, normals⟩ := ofTerrainData_valid samples made
    exact before.append rfl ⟨uv, normals, terrainMaterial_layered splatted filled⟩ before.2
  · exact Except.ok.inj returned ▸ before

theorem init_ready {world : UnityScene K} (complete : world.Complete) {final : InitState K}
    (returned : init world = .ok final) : ∀ model ∈ final.scene.models, model.Ready := by
  have fresh : AllReady (InitState.fresh world.lights) := by
    constructor
    · intro model none
      cases none
    · intro pointer texture none
      cases none
  have all : AllReady final := by
    refine init_keeps fresh ?_ ?_ returned
    · intro r member mask s s' before added
      refine addRenderer_keeps ?_ before added
      intro filter mesh i s s' found shared _ kept returned
      exact addSubMesh_ready (complete.meshes r member filter found mesh shared) (complete.textures r member) kept
        returned
    · intro terrain member mask s s' before added
      exact addTerrain_ready (complete.terrains terrain member) (complete.valid.terrains terrain member) before added
  exact all.1

end

/-! ## Tracing in a complete scene -/

/-- No texel that a shadow ray reads lets it through. -/
def SimpleMaterialBase.Solid [FloorRing K] (material : SimpleMaterialBase K) : Prop :=
  ∀ uv color, material.pointSample uv = .ok color → 99 / 100 ≤ color.a

def SimpleMaterialBase.texels : SimpleMaterialBase K → Option (List (Color K))
  | .mesh material => some material.texture.colors
  | .terrain _ => none

theorem SimpleMaterialBase.solid_of_texels [FloorRing K] {material : SimpleMaterialBase K} {texels : List (Color K)}
    (mesh : material.texels = some texels) (full : ∀ texel ∈ texels, 99 / 100 ≤ texel.a) : material.Solid := by
  intro uv color sampled
  cases material with
  | mesh material =>
    cases mesh
    exact full color (RayTraceTool.pointSample_mem sampled)
  | terrain material => cases mesh

/-- Every hit of the renderer has what the tracing methods look up. -/
structure Renderer.Looked [FloorRing K] (renderer : Renderer K) : Prop where
  info : ∀ pos dir length hit, renderer.closest pos dir length = some hit →
    ∃ info, renderer.hitInfo (renderer.intersect pos dir length) = .ok info
  texel : ∀ pos dir length hit, renderer.closest pos dir length = some hit →
    ∃ texColor, renderer.texelOf hit.toCrossing = .ok texColor

section
variable [Mathf K] {world : UnityScene K} {final : InitState K} {renderer : Renderer K}

theorem hit_inRange (valid : world.Valid) (returned : init world = .ok final)
    (few : final.scene.models.length < 2 ^ 31) (ready : ∀ model ∈ final.scene.models, model.Ready)
    (registered : renderer.embree.HitsRegistered) {pos dir : Vector3 K} {length : K} {hit : Hit K}
    (found : (renderer.showing final).closest pos dir length = some hit) :
    (renderer.showing final).HitInRange ((renderer.showing final).intersect pos dir length) := by
  obtain ⟨⟨geomID, primID⟩, -⟩ := (renderer.showing final).intersect_hit found
  obtain ⟨geometry, stored, inside⟩ := registered _ _ _ found
  have native : (renderer.showing final).nativeScene = nativeOf final.scene.models := init_nativeScene returned
  rw [native, nativeOf_geometries, List.getElem?_map, Option.map_eq_some_iff] at stored
  obtain ⟨model, held, same⟩ := stored
  have mesh := init_valid valid returned model (List.mem_of_getElem? held)
  obtain ⟨uv, normals, -⟩ := ready model (List.mem_of_getElem? held)
  rw [← same] at inside
  have triangle : hit.primID.toNat < model.mesh.triangles.length / 3 := by simpa [storedMesh] using inside
  rw [← primID] at triangle
  have selected : (renderer.showing final).scene.models[
      ((renderer.showing final).intersect pos dir length).geomID.toNat]? = some model := by
    rw [geomID]
    exact held
  -- a model with a triangle has vertices
  have vertices : 0 < model.mesh.vertices.length := by
    have first : 0 < model.mesh.triangles.length := by omega
    have index := mesh.index _ (List.getElem_mem first)
    omega
  apply (inRange_of_registered few selected mesh triangle).2.mpr
  exact ⟨List.ne_nil_of_length_pos (by omega), List.ne_nil_of_length_pos (by omega)⟩

variable [FloorRing K]

theorem showing_looked (valid : world.Valid) (returned : init world = .ok final)
    (few : final.scene.models.length < 2 ^ 31) (ready : ∀ model ∈ final.scene.models, model.Ready)
    (registered : renderer.embree.HitsRegistered) : (renderer.showing final).Looked where
  info := by
    intro pos dir length hit found
    obtain ⟨surface, resolved, normals⟩ := hit_inRange valid returned few ready registered found
    obtain ⟨sampled, sample⟩ := (ready _ (SimpleScene.surface_model_mem resolved)).sampleable.sample
      linearSample_total surface.uv
    obtain ⟨n0, normal0⟩ := normals surface.t0 (by simp)
    obtain ⟨n1, normal1⟩ := normals surface.t1 (by simp)
    obtain ⟨n2, normal2⟩ := normals surface.t2 (by simp)
    change surface.model.material.linearSample surface.uv = .ok sampled at sample
    unfold Renderer.hitInfo
    rw [resolved]
    simp only [bind, Except.bind, sample, normal0, normal1, normal2]
    exact ⟨_, rfl⟩
  texel := by
    intro pos dir length hit found
    obtain ⟨⟨geomID, primID⟩, ⟨u, v⟩, -⟩ := (renderer.showing final).intersect_hit found
    obtain ⟨surface, resolved, -⟩ := hit_inRange valid returned few ready registered found
    obtain ⟨sampled, sample⟩ := (ready _ (SimpleScene.surface_model_mem resolved)).sampleable.sample
      pointSample_total surface.uv
    rw [geomID, primID, u, v] at resolved
    refine ⟨sampled, ?_⟩
    unfold Renderer.texelOf SimpleScene.surfaceOf
    rw [resolved]
    exact sample

end

section
variable [FloorRing K] {renderer : Renderer K}

/-- The first surface stops a shadow ray. -/
theorem getLightPathColor_solid (looked : renderer.Looked)
    (solid : ∀ model ∈ renderer.scene.models, model.material.Solid) (pos dir : Vector3 K) (length : K) :
    ∃ color, ∀ fuel ≥ 1, renderer.getLightPathColor fuel pos dir length = .ok color := by
  have first : ∃ color, renderer.getLightPathColor 1 pos dir length = .ok color := by
    cases found : renderer.closest pos dir length with
    | none => exact ⟨Color.white, Renderer.getLightPathColor_miss found 0⟩
    | some hit =>
      obtain ⟨texColor, sampled⟩ := looked.texel pos dir length hit found
      have stops : ¬ texColor.a < 99 / 100 := by
        unfold Renderer.texelOf at sampled
        rw [bind_eq_ok] at sampled
        obtain ⟨surface, resolved, sampled⟩ := sampled
        exact not_lt.mpr (solid surface.model (SimpleScene.surface_model_mem resolved) _ _ sampled)
      refine ⟨Color.black, ?_⟩
      rw [Renderer.getLightPathColor_hit found, sampled]
      simp only [if_neg stops]
  obtain ⟨color, ended⟩ := first
  exact ⟨color, Renderer.getLightPathColor_stable ended (by simp)⟩

omit [FloorRing K] in
theorem addLight_returns [Mathf K] {lightPath : LightPath K}
    (total : ∀ pos dir length, ∃ color, lightPath pos dir length = .ok color) (pos normal : Vector3 K)
    (finalLightColor : Color K) (light : Light K) :
    ∃ color, renderer.addLight lightPath pos normal finalLightColor light = .ok color := by
  obtain ⟨pathColor, answered⟩ := total (pos + (1 / 100 : K) • lightDir light pos) (lightDir light pos)
    (lightLength light pos)
  unfold Renderer.addLight
  simp only [answered]
  split
  · split
    · exact ⟨_, rfl⟩
    · exact ⟨_, rfl⟩
  · exact ⟨_, rfl⟩

omit [LinearOrder K] [FloorRing K] in
theorem any_ideal : Ideal (fun _ : K => True) fun _ => True :=
  ⟨trivial, fun _ _ => trivial, fun _ _ => trivial, fun _ _ => trivial, fun _ _ _ => trivial⟩

/-- Only its bound stops TraceColor. -/
theorem traceColor_fuel [Mathf K] (looked : renderer.Looked) {lightPath : LightPath K}
    (total : ∀ pos dir length, ∃ color, lightPath pos dir length = .ok color) (random : Random K σ) (fuel : Nat)
    (call : TraceCall K) :
    Ends (traceColor renderer random lightPath fuel call) (fun _ => True) (· = .fuel) := by
  have direct : DirectLight renderer lightPath (fun _ => True) (· = .fuel) := by
    intro model pos normal
    obtain ⟨color, lit⟩ := foldlM_returns renderer.scene.lights
      (fun light _ acc => addLight_returns total pos normal acc light) Color.black
    refine ⟨fun _ _ => trivial, fun why failed => ?_⟩
    rw [Renderer.getAllLightsColor, lit] at failed
    cases failed
  have spawned : ∀ call, True → ∀ hit ∈ hitOf renderer call,
      Spawned (fun _ => True) (fun _ => True) renderer.scene.lights.length call hit :=
    fun _ _ _ _ => ⟨fun _ => trivial, trivial, fun _ => trivial, trivial⟩
  refine traceColor_ends any_ideal trivial direct rfl spawned ?_ fuel trivial
  intro startPos rayDir hit found why failed
  obtain ⟨info, known⟩ := looked.info startPos rayDir 1000 hit found
  rw [known] at failed
  cases failed

end

/-! ## Render -/

section
variable [Mathf K] {input : RenderInput K} {linearToGammaSpace : K → K}
  {trace : Nat → TraceCall K → Action σ (Stop Exn) (Color K)} {updateProgress : K → StateM σ Bool}

theorem pixelColor_settles (traced : ∀ call s, Settles (fun m => trace m call) s) (i j : Nat) (s : σ) :
    Settles (fun m => input.pixelColor linearToGammaSpace (trace m) i j) s := by
  unfold RenderInput.pixelColor
  refine Settles.bind (Settles.foldlM ?_ _ s) fun _ _ => .pure
  intro ax _ color s
  refine Settles.foldlM ?_ color s
  intro ay _ color s
  exact (traced _ s).bind fun _ _ => .pure

theorem renderColumns_settles (traced : ∀ call s, Settles (fun m => trace m call) s) (columns : List Nat)
    (frame : Frame K) (s : σ) :
    Settles (fun m => input.renderColumns linearToGammaSpace (trace m) updateProgress columns frame) s := by
  induction columns generalizing frame s with
  | nil => exact .pure
  | cons i rest ih =>
    unfold RenderInput.renderColumns
    have column : Settles (fun m => (List.range input.height.toNat).foldlM
        (input.renderPixel linearToGammaSpace (trace m) i) frame) s := by
      refine Settles.foldlM ?_ frame s
      intro j _ frame s
      unfold RenderInput.renderPixel
      exact (pixelColor_settles traced i j s).bind fun _ _ => Settles.lift.bind fun _ _ => .pure
    refine column.bind fun frame s => Settles.liftState.bind fun answer s => ?_
    cases answer with
    | true => exact .pure
    | false => exact ih _ s

theorem render_settles (traced : ∀ call s, Settles (fun m => trace m call) s) (s : σ) :
    Settles (fun m => input.render linearToGammaSpace (trace m) updateProgress) s := by
  unfold RenderInput.render
  refine Settles.liftState.bind fun _ s => Settles.lift.bind fun targetTexture s => ?_
  exact renderColumns_settles traced _ _ s

end

section
variable [FloorRing K] [Mathf K] [IsStrictOrderedRing K]

/-- A colour that the rays of a pixel returned. -/
def OwnColor (renderer : Renderer K) (random : Random K σ) (input : RenderInput K) (linearToGammaSpace : K → K)
    (fuel i j : Nat) (color : Color K) : Prop :=
  ∃ s s', (input.pixelColor linearToGammaSpace
    (traceColor renderer random (renderer.getLightPathColor fuel) fuel) i j).run s = .ok (color, s')

/-- A press of the Render button on a complete scene whose surfaces are solid shows a picture. Init
has returned; then Render returns, from some bound on the recursion on with one and the same
frame, in which every pixel of the columns it has been through shows a colour that its own rays
returned, and which has all columns unless the callback cancelled. -/
theorem Renderer.render_completes {world : UnityScene K} (complete : world.Complete) {final : InitState K}
    (returned : init world = .ok final) (few : final.scene.models.length < 2 ^ 31)
    (solid : ∀ model ∈ final.scene.models, model.material.Solid) (renderer : Renderer K)
    (hits : renderer.embree.HitsTriangles) (registered : renderer.embree.HitsRegistered) (random : Random K σ)
    (input : RenderInput K) (wide : 1 ≤ input.width) (high : 1 ≤ input.height)
    (fits : input.width * input.height < 2 ^ 31) (linearToGammaSpace : K → K) (updateProgress : K → StateM σ Bool)
    (s : σ) :
    ∃ frame s' n, input.Rendered frame ∧ (true ∉ frame.answers → frame.answers.length = input.width) ∧
      ∀ fuel ≥ n,
        ((renderer.showing final).render random fuel input linearToGammaSpace updateProgress).run s =
          .ok (frame, s') ∧
        input.Paints (OwnColor (renderer.showing final) random input linearToGammaSpace fuel) frame := by
  let shown := renderer.showing final
  have looked : shown.Looked := showing_looked complete.valid returned few (init_ready complete returned) registered
  have answers := getLightPathColor_solid looked solid
  -- every bound gives the shadow rays the same answers
  let lightPath : LightPath K := shown.getLightPathColor 1
  have same : ∀ fuel ≥ 1, shown.getLightPathColor fuel = lightPath := by
    intro fuel enough
    funext pos dir length
    obtain ⟨color, answered⟩ := answers pos dir length
    exact (answered fuel enough).trans (answered 1 le_rfl).symm
  have total : ∀ pos dir length, ∃ color, lightPath pos dir length = .ok color := by
    intro pos dir length
    obtain ⟨color, answered⟩ := answers pos dir length
    exact ⟨color, answered 1 le_rfl⟩
  have settles : Settles (fun fuel => input.render linearToGammaSpace (traceColor shown random lightPath fuel)
      updateProgress) s := by
    apply render_settles
    intro call s
    have below : WellFounded (Spawns shown) := spawns_wellFounded hits
    exact settles_run below (fun _ next s => traceColorBody_settles next s) call s
  have ends : ∀ fuel, Ends (input.render linearToGammaSpace (traceColor shown random lightPath fuel) updateProgress)
      (fun frame => input.Rendered frame ∧ input.Paints (fun i j color => ∃ s s',
        (input.pixelColor linearToGammaSpace (traceColor shown random lightPath fuel) i j).run s = .ok (color, s')) frame)
      (· = .fuel) := by
    intro fuel
    refine RenderInput.render_ends (fun i j s => ?_) wide high fits
    have stops := (RenderInput.pixelColor_ends i j :
      Ends (input.pixelColor linearToGammaSpace (traceColor shown random lightPath fuel) i j) _ _) s
    cases ended : (input.pixelColor linearToGammaSpace (traceColor shown random lightPath fuel) i j).run s with
    | ok pair => exact ⟨s, pair.2, ended⟩
    | error why =>
      rw [ended] at stops
      obtain ⟨call, s, stopped⟩ := stops
      have only := traceColor_fuel looked total random fuel call s
      rw [stopped] at only
      exact only
  obtain ⟨frame, s', rendered, n, stable⟩ := settles.returns fun fuel => (ends fuel).mono fun _ ended => ended.1
  refine ⟨frame, s', max n 1, rendered, ?_, fun fuel large => ?_⟩
  · intro going
    by_contra other
    exact going (List.mem_of_getLast? (rendered.cancelled (lt_of_le_of_ne rendered.columns other)))
  · have run := stable fuel (le_of_max_le_left large)
    unfold Renderer.render OwnColor
    rw [same fuel (le_of_max_le_right large)]
    have paints := ends fuel s
    rw [run] at paints
    exact ⟨run, paints.2⟩

end

theorem meshWorld_complete : (meshWorld squareMesh).Complete where
  valid := meshWorld_valid (squareMesh_valid _ (.inr rfl))
  meshes := by
    intro r member filter found mesh shared
    rw [List.mem_singleton.mp member] at found
    cases found
    cases shared
    exact ⟨rfl, rfl⟩
  textures := by
    intro r member mat listed texture found
    rw [List.mem_singleton.mp member] at listed
    have white : mat = whiteMaterial := by
      change some mat ∈ [some whiteMaterial, some whiteMaterial] at listed
      simpa using listed
    rw [white] at found
    cases found
  terrains := by
    intro terrain none
    cases none

theorem render_completes_square :
    letI := Mathf.atUnits
    ∃ final, init (meshWorld squareMesh) = .ok final ∧ ∃ frame n, (skyInput 4 4).Rendered frame ∧ ∀ fuel ≥ n,
      ((blankRenderer.showing final).render Random.lowest fuel (skyInput 4 4) id fun _ => pure false).run () =
        .ok (frame, ()) := by
  let := Mathf.atUnits
  have facts : (init (meshWorld squareMesh)).map (fun s => s.scene.models.map fun model => model.material.texels) =
      .ok [some [Color.white], some [Color.white]] := by decide +kernel
  obtain ⟨final, returned, all⟩ := map_eq_ok.mp facts
  have few : final.scene.models.length < 2 ^ 31 := by
    rw [← List.length_map, all]
    decide
  have solid : ∀ model ∈ final.scene.models, model.material.Solid := by
    intro model member
    have listed := List.mem_map_of_mem (f := fun model : SimpleModel Rat => model.material.texels) member
    rw [all] at listed
    have white : model.material.texels = some [Color.white] := by simpa using listed
    exact SimpleMaterialBase.solid_of_texels white (by decide +kernel)
  obtain ⟨frame, s', n, rendered, -, run⟩ := Renderer.render_completes meshWorld_complete returned few solid
    blankRenderer (exhaustive_reportsNearest _).hitsTriangles blankRenderer_registered Random.lowest (skyInput 4 4)
    (by decide) (by decide) (by decide) id (fun _ => pure false) ()
  exact ⟨final, returned, frame, n, rendered, fun fuel large => (run fuel large).1⟩

end RayTraceRenderer.Managed
