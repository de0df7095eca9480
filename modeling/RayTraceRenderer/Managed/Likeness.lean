import RayTraceRenderer.Managed.DarkLight
import RayTraceRenderer.Managed.LightLists
import RayTraceRenderer.Managed.LightPath
import RayTraceRenderer.Managed.Render
import RayTraceRenderer.Unity.Movement

/-! Renderers that look alike: what one of them returns for a picture, the other one returns.

They need not keep their models and lights in the same order, nor at the same place. Colours are added
up in exact arithmetic, so the order of the lights does not show.
-/

set_option autoImplicit false

namespace RayTraceRenderer.Managed

open Unity Native Recursion

variable {K σ : Type} [Field K] [LinearOrder K]

structure Look (K : Type) where
  texColor : Color K
  hitNormal : Vector3 K
  glossiness : K
  metallic : K
  renderMode : RenderMode
  notAdditive : renderMode ≠ .Additive

/-- A model of which only what tracing reads is left. -/
def SimpleModel.bare (glossiness metallic : K) (renderMode : RenderMode) (notAdditive : renderMode ≠ .Additive) :
    SimpleModel K where
  rst := ⟨Unity.Quaternion.identity, ⟨1, 1, 1⟩, 0⟩
  mesh := ⟨[], [], [], []⟩
  material := .mesh { glossiness, metallic, texture := .blank, color := Color.white, renderMode, notAdditive }
  lights := []

def Look.at (look : Look K) (hitPos : Vector3 K) : HitInfo K where
  model := .bare look.glossiness look.metallic look.renderMode look.notAdditive
  texColor := look.texColor
  hitPos := hitPos
  hitNormal := look.hitNormal

def SimpleMaterialBase.bare (material : SimpleMaterialBase K) : SimpleModel K :=
  .bare material.glossiness material.metallic material.getRenderMode material.getRenderMode_notAdditive

def HitInfo.bare (hit : HitInfo K) : HitInfo K := { hit with model := hit.model.material.bare }

/-! What a call and a hit are to a renderer that stands somewhere else. -/

def TraceCall.moved (shift : Vector3 K) (call : TraceCall K) : TraceCall K :=
  { call with startPos := call.startPos + shift }

def HitInfo.moved (shift : Vector3 K) (hit : HitInfo K) : HitInfo K := { hit with hitPos := hit.hitPos + shift }

def RenderInput.moved (shift : Vector3 K) (input : RenderInput K) : RenderInput K :=
  { input with position := input.position + shift }

omit [LinearOrder K] in
theorem RenderInput.moved_zero (input : RenderInput K) : input.moved 0 = input := by
  simp only [RenderInput.moved, Vector3.add_zero_vector]

omit [LinearOrder K] in
theorem RenderInput.moved_back (shift : Vector3 K) (input : RenderInput K) :
    (input.moved shift).moved (-shift) = input := by
  simp only [RenderInput.moved, Vector3.add_back]

section
variable [FloorRing K]

def Renderer.look (renderer : Renderer K) (c : Crossing K) : Except Exn (Look K) := do
  let surface ← renderer.scene.surfaceOf c
  let material := surface.model.material
  let sampled ← material.linearSample surface.uv
  let normals := surface.model.mesh.normals
  let hitNormal := RayTraceTool.lerpVector3 (← arrayGet normals surface.t0) (← arrayGet normals surface.t1)
    (← arrayGet normals surface.t2) c.v c.u
  return { texColor := renderer.surfaceColor material sampled
           hitNormal := surface.model.rst.rot.rotate hitNormal
           glossiness := material.glossiness
           metallic := material.metallic
           renderMode := material.getRenderMode
           notAdditive := material.getRenderMode_notAdditive }

theorem Renderer.hitInfo_bare {renderer : Renderer K} {pos dir : Vector3 K} {length : K} {hit : Hit K}
    (found : renderer.closest pos dir length = some hit) :
    (renderer.hitInfo (renderer.intersect pos dir length)).map HitInfo.bare =
      (renderer.look hit.toCrossing).map fun look => look.at (pos + hit.t • dir) := by
  obtain ⟨⟨geomID, primID⟩, ⟨u, v⟩, -, point⟩ := renderer.intersect_hit found
  unfold Renderer.hitInfo Renderer.look SimpleScene.surfaceOf
  rw [geomID, primID, u, v, point]
  cases renderer.scene.surface hit.geomID hit.primID hit.v hit.u with
  | error why => rfl
  | ok surface =>
    simp only [bind, Except.bind]
    cases surface.model.material.linearSample surface.uv with
    | error why => rfl
    | ok sampled =>
      cases arrayGet surface.model.mesh.normals surface.t0 with
      | error why => rfl
      | ok n0 =>
        cases arrayGet surface.model.mesh.normals surface.t1 with
        | error why => rfl
        | ok n1 =>
          cases arrayGet surface.model.mesh.normals surface.t2 with
          | error why => rfl
          | ok n2 => rfl

/-- Every query of the first renderer is answered alike by the second, where that one stands. -/
structure Renderer.ShowsAs (renderer renderer' : Renderer K) (shift : Vector3 K) : Prop where
  skyColor : renderer.skyColor = renderer'.skyColor
  lightRange : renderer.lightRange = renderer'.lightRange
  lights : (renderer.scene.lights.map (Light.moved shift)).Perm renderer'.scene.lights
  missed : ∀ pos dir length, renderer.closest pos dir length = none → renderer'.closest (pos + shift) dir length = none
  found : ∀ pos dir length hit, renderer.closest pos dir length = some hit →
    ∃ hit', renderer'.closest (pos + shift) dir length = some hit' ∧ hit'.t = hit.t ∧
      renderer'.texelOf hit'.toCrossing = renderer.texelOf hit.toCrossing ∧
      renderer'.look hit'.toCrossing = renderer.look hit.toCrossing

variable {renderer renderer' : Renderer K} {shift : Vector3 K}

-- A query has one answer, so the first renderer answers like the second.
theorem Renderer.ShowsAs.symm (alike : renderer.ShowsAs renderer' shift) : renderer'.ShowsAs renderer (-shift) where
  skyColor := alike.skyColor.symm
  lightRange := alike.lightRange.symm
  lights := by
    have back := alike.lights.symm.map (Light.moved (-shift))
    rw [List.map_map] at back
    have same : Light.moved (-shift) ∘ Light.moved shift = (id : Light K → Light K) := funext (Light.moved_back shift)
    rwa [same, List.map_id] at back
  missed := by
    intro pos dir length missed
    cases found : renderer.closest (pos + -shift) dir length with
    | none => rfl
    | some hit =>
      obtain ⟨hit', found', -⟩ := alike.found _ _ _ _ found
      rw [Vector3.sub_forth, missed] at found'
      cases found'
  found := by
    intro pos dir length hit' found'
    cases found : renderer.closest (pos + -shift) dir length with
    | none =>
      have missed := alike.missed _ _ _ found
      rw [Vector3.sub_forth, found'] at missed
      cases missed
    | some hit =>
      obtain ⟨hit'', again, distance, texel, look⟩ := alike.found _ _ _ _ found
      rw [Vector3.sub_forth, found', Option.some.injEq] at again
      subst again
      exact ⟨hit, rfl, distance.symm, texel.symm, look.symm⟩

/-! ## Crossings that correspond -/

/-- Where a ray meets two surfaces at once, they look the same. -/
def Renderer.Seamless (renderer : Renderer K) : Prop :=
  ∀ pos dir length c c', Crosses renderer.nativeScene (newRay pos dir length).toRayData c →
    Crosses renderer.nativeScene (newRay pos dir length).toRayData c' → c.t = c'.t →
      renderer.texelOf c = renderer.texelOf c' ∧ renderer.look c = renderer.look c'

/-- What a ray crosses in the first renderer, the moved ray crosses in the second. -/
def Renderer.CarriesCrossings (shift : Vector3 K) (renderer renderer' : Renderer K) : Prop :=
  ∀ pos dir length c, Crosses renderer.nativeScene (newRay pos dir length).toRayData c →
    ∃ c', Crosses renderer'.nativeScene (newRay (pos + shift) dir length).toRayData c' ∧ c'.t = c.t ∧
      renderer'.texelOf c' = renderer.texelOf c ∧ renderer'.look c' = renderer.look c

theorem Renderer.Seamless.carried (seamless : renderer.Seamless)
    (back : Renderer.CarriesCrossings (-shift) renderer' renderer) : renderer'.Seamless := by
  intro pos dir length c c' crosses crosses' level
  obtain ⟨d, earlier, distance, texel, look⟩ := back pos dir length c crosses
  obtain ⟨d', earlier', distance', texel', look'⟩ := back pos dir length c' crosses'
  have same := seamless _ dir length d d' earlier earlier' (by rw [distance, distance', level])
  rw [← texel, ← texel', ← look, ← look']
  exact same

/-- An Embree that reports a nearest crossing then answers both alike, whichever of those it picks. -/
theorem Renderer.showsAs_of_crossings (skyColor : renderer.skyColor = renderer'.skyColor)
    (lightRange : renderer.lightRange = renderer'.lightRange)
    (lights : (renderer.scene.lights.map (Light.moved shift)).Perm renderer'.scene.lights)
    {segment : RayData K → K → Prop} (reports : renderer.embree.ReportsNearest segment)
    (reports' : renderer'.embree.ReportsNearest segment)
    (steady : ∀ pos dir length t, segment (newRay (pos + shift) dir length).toRayData t ↔
      segment (newRay pos dir length).toRayData t)
    (there : Renderer.CarriesCrossings shift renderer renderer')
    (back : Renderer.CarriesCrossings (-shift) renderer' renderer) (seamless : renderer.Seamless) :
    renderer.ShowsAs renderer' shift := by
  have home : ∀ pos dir length c, Crosses renderer'.nativeScene (newRay (pos + shift) dir length).toRayData c →
      ∃ c', Crosses renderer.nativeScene (newRay pos dir length).toRayData c' ∧ c'.t = c.t := by
    intro pos dir length c crosses
    obtain ⟨c', crosses', distance, -⟩ := back _ _ _ c crosses
    rw [Vector3.add_back] at crosses'
    exact ⟨c', crosses', distance⟩
  refine ⟨skyColor, lightRange, lights, ?_, ?_⟩
  · intro pos dir length missed
    have none := reports renderer.nativeScene (newRay pos dir length).toRayData
    have nearest' := reports' renderer'.nativeScene (newRay (pos + shift) dir length).toRayData
    unfold Renderer.closest at missed ⊢
    rw [missed] at none
    cases found : renderer'.embree.closest renderer'.nativeScene (newRay (pos + shift) dir length).toRayData with
    | none => rfl
    | some hit =>
      rw [found] at nearest'
      obtain ⟨crosses, admitted, -⟩ := nearest'
      obtain ⟨c, crosses', distance⟩ := home pos dir length _ crosses
      exact absurd (distance ▸ (steady pos dir length _).mp admitted) (none c crosses')
  · intro pos dir length hit found
    have nearest := reports renderer.nativeScene (newRay pos dir length).toRayData
    have nearest' := reports' renderer'.nativeScene (newRay (pos + shift) dir length).toRayData
    unfold Renderer.closest at found ⊢
    rw [found] at nearest
    obtain ⟨crosses, admitted, first⟩ := nearest
    obtain ⟨c, crosses', distance, texel, look⟩ := there pos dir length _ crosses
    have here := (steady pos dir length _).mpr admitted
    cases found' : renderer'.embree.closest renderer'.nativeScene (newRay (pos + shift) dir length).toRayData with
    | none =>
      rw [found'] at nearest'
      exact absurd (distance ▸ here) (nearest' c crosses')
    | some hit' =>
      rw [found'] at nearest'
      obtain ⟨reported, admitted', first'⟩ := nearest'
      obtain ⟨c', returned, distance'⟩ := home pos dir length _ reported
      have level : hit'.t = hit.t := by
        apply le_antisymm
        · rw [← distance]
          exact first' c crosses' (distance ▸ here)
        · rw [← distance']
          exact first c' returned (distance' ▸ (steady pos dir length _).mp admitted')
      have alike := seamless.carried back (pos + shift) dir length hit'.toCrossing c reported crosses'
        (level.trans distance.symm)
      exact ⟨hit', rfl, level, alike.1.trans texel, alike.2.trans look⟩

/-! ## Direct light -/

theorem Renderer.ShowsAs.lightPath (alike : renderer.ShowsAs renderer' shift) (fuel : Nat) {pos dir : Vector3 K}
    {length : K} {color : Color K} (returned : renderer.getLightPathColor fuel pos dir length = .ok color) :
    renderer'.getLightPathColor fuel (pos + shift) dir length = .ok color := by
  induction fuel generalizing pos dir length color with
  | zero => cases returned
  | succ fuel ih =>
    cases found : renderer.closest pos dir length with
    | none =>
      rw [getLightPathColor_miss found] at returned
      rw [getLightPathColor_miss (alike.missed pos dir length found), returned]
    | some hit =>
      obtain ⟨hit', found', distance, texel, -⟩ := alike.found pos dir length hit found
      rw [getLightPathColor_hit found] at returned
      rw [getLightPathColor_hit found', distance, Vector3.add_swap]
      cases sampled : renderer.texelOf hit.toCrossing with
      | error why =>
        rw [sampled] at returned
        cases returned
      | ok texColor =>
        rw [texel, sampled]
        simp only [sampled] at returned ⊢
        by_cases passes : texColor.a < 99 / 100
        · simp only [passes, if_true, bind_eq_ok] at returned ⊢
          obtain ⟨aheadColor, ahead, same⟩ := returned
          exact ⟨aheadColor, ih ahead, same⟩
        · simp only [passes, if_false] at returned ⊢
          exact returned

/-- What the first answers for a segment, the second answers for the moved one. -/
def CarriesPaths (shift : Vector3 K) (lightPath lightPath' : LightPath K) : Prop :=
  ∀ pos dir length color, lightPath pos dir length = .ok color → lightPath' (pos + shift) dir length = .ok color

def CarriesCalls (shift : Vector3 K) (trace trace' : TraceCall K → Action σ (Stop Exn) (Color K)) : Prop :=
  ∀ call, Refines (trace call) (trace' (call.moved shift))

section
variable [Mathf K] {lightPath lightPath' : LightPath K}

omit [FloorRing K] in
-- Two lights one after the other add the same in either order.
theorem addLight_swap {pos normal : Vector3 K} (first second : Light K) (acc color : Color K)
    (added : (renderer.addLight lightPath pos normal acc first >>= fun mid =>
      renderer.addLight lightPath pos normal mid second) = .ok color) :
    (renderer.addLight lightPath pos normal acc second >>= fun mid =>
      renderer.addLight lightPath pos normal mid first) = .ok color := by
  rw [bind_eq_ok] at added ⊢
  obtain ⟨mid, one, two⟩ := added
  refine ⟨_, Renderer.addLight_contribution two acc, ?_⟩
  have total := Renderer.addLight_contribution two mid
  rw [two, Except.ok.injEq] at total
  have start := Renderer.addLight_contribution one acc
  rw [one, Except.ok.injEq] at start
  rw [Renderer.addLight_contribution one, total, start]
  congr 1
  ext <;> simp <;> ring

omit [FloorRing K] in
theorem lightDir_moved (light : Light K) (pos : Vector3 K) :
    lightDir (light.moved shift) (pos + shift) = lightDir light pos := by
  unfold lightDir
  simp only [Light.moved, Transform.moved, Vector3.add_sub_add]
  rfl

omit [LinearOrder K] [FloorRing K] in
theorem lightLength_moved (light : Light K) (pos : Vector3 K) :
    lightLength (light.moved shift) (pos + shift) = lightLength light pos := by
  unfold lightLength
  simp only [Light.moved, Transform.moved, Vector3.add_sub_add]

omit [FloorRing K] in
theorem foldlM_addLight (lightRange : renderer.lightRange = renderer'.lightRange)
    (paths : CarriesPaths shift lightPath lightPath') {pos normal : Vector3 K} (lights : List (Light K))
    {acc color : Color K} (returned : lights.foldlM (renderer.addLight lightPath pos normal) acc = .ok color) :
    (lights.map (Light.moved shift)).foldlM (renderer'.addLight lightPath' (pos + shift) normal) acc = .ok color := by
  have color : ∀ light, renderer'.lightColor (pos + shift) normal (light.moved shift) =
      renderer.lightColor pos normal light := by
    intro light
    unfold Renderer.lightColor Renderer.lightPower
    rw [lightRange, lightDir_moved, lightLength_moved]
    rfl
  have shines : ∀ light, renderer'.Shines (pos + shift) normal (light.moved shift) =
      renderer.Shines pos normal light := by
    intro light
    unfold Renderer.Shines
    rw [color, lightDir_moved]
  induction lights generalizing acc with
  | nil => exact returned
  | cons light rest ih =>
    rw [List.foldlM_cons, bind_eq_ok] at returned
    rw [List.map_cons, List.foldlM_cons, bind_eq_ok]
    obtain ⟨mid, first, later⟩ := returned
    refine ⟨mid, ?_, ih later⟩
    rw [Renderer.addLight_eq] at first ⊢
    by_cases bright : renderer.Shines pos normal light
    · simp only [shines, color, bright, if_true, map_eq_ok, lightDir_moved, lightLength_moved] at first ⊢
      obtain ⟨pathColor, traced, same⟩ := first
      rw [Vector3.add_swap]
      exact ⟨pathColor, paths _ _ _ _ traced, same⟩
    · simp only [shines, bright, if_false] at first ⊢
      exact first

theorem Renderer.ShowsAs.directLight (alike : renderer.ShowsAs renderer' shift)
    (paths : CarriesPaths shift lightPath lightPath') (model model' : SimpleModel K) (pos normal : Vector3 K)
    {color : Color K} (returned : renderer.getAllLightsColor lightPath model pos normal = .ok color) :
    renderer'.getAllLightsColor lightPath' model' (pos + shift) normal = .ok color := by
  have same := foldlM_addLight alike.lightRange paths renderer.scene.lights returned
  exact foldlM_perm alike.lights (fun first _ second _ => addLight_swap first second) same

/-! ## TraceColor and Render -/

variable {random : Random K σ} {lightCount : Int} {trace trace' : TraceCall K → Action σ (Stop Exn) (Color K)}
  {call : TraceCall K} {hit : HitInfo K}

omit [LinearOrder K] [FloorRing K] [Mathf K] in
theorem HitInfo.bounce_moved (hit : HitInfo K) (call : TraceCall K) (dir : Vector3 K) :
    (hit.moved shift).bounce (call.moved shift) dir = (hit.bounce call dir).moved shift := by
  unfold HitInfo.bounce TraceCall.moved HitInfo.moved
  rw [Vector3.add_swap]

omit [Mathf K] in
theorem HitInfo.transmit_moved (hit : HitInfo K) (call : TraceCall K) :
    (hit.moved shift).transmit (call.moved shift) = (hit.transmit call).moved shift := by
  unfold HitInfo.transmit HitInfo.transSample HitInfo.transFactor TraceCall.moved HitInfo.moved
  simp only
  rw [Vector3.add_swap]

omit [LinearOrder K] [FloorRing K] [Mathf K] in
theorem gather_refines (traced : CarriesCalls shift trace trace') (dirs : List (Vector3 K)) (color : Color K) :
    Refines (gather trace hit call dirs color) (gather trace' (hit.moved shift) (call.moved shift) dirs color) := by
  apply Refines.foldlM
  intro acc dir
  rw [HitInfo.bounce_moved]
  exact (traced _).bind fun _ => .refl _

theorem reflectColor_refines (traced : CarriesCalls shift trace trace') :
    Refines (reflectColor random trace hit call) (reflectColor random trace' (hit.moved shift) (call.moved shift)) := by
  have count : (hit.moved shift).reflectSample (call.moved shift) = hit.reflectSample call := rfl
  unfold reflectColor reflectedLight
  rw [count]
  refine Refines.bind ?_ fun _ => .refl _
  by_cases sampled : 0 < hit.reflectSample call
  · simp only [sampled, if_true]
    exact (Refines.refl _).bind fun dirs => (gather_refines traced dirs _).bind fun _ => .refl _
  · simp only [sampled, if_false]
    exact .refl _

theorem Renderer.ShowsAs.diffuseColor (alike : renderer.ShowsAs renderer' shift)
    (paths : CarriesPaths shift lightPath lightPath') (traced : CarriesCalls shift trace trace') :
    Refines (diffuseColor renderer random lightPath lightCount trace hit call)
      (diffuseColor renderer' random lightPath' lightCount trace' (hit.moved shift) (call.moved shift)) := by
  have count : (hit.moved shift).diffuseSample (call.moved shift) = hit.diffuseSample call := rfl
  have direct : ∀ color, renderer.getAllLightsColor lightPath hit.model hit.hitPos hit.hitNormal = .ok color →
      renderer'.getAllLightsColor lightPath' hit.model (hit.hitPos + shift) hit.hitNormal = .ok color :=
    fun color => alike.directLight paths hit.model hit.model hit.hitPos hit.hitNormal
  unfold Managed.diffuseColor diffuseLight
  rw [count]
  refine (Refines.lift direct).bind fun directColor => Refines.bind ?_ fun _ => .refl _
  by_cases sampled : 0 < hit.diffuseSample call
  · simp only [sampled, if_true]
    exact (Refines.refl _).bind fun dirs => gather_refines traced dirs _
  · simp only [sampled, if_false]
    exact .refl _

theorem Renderer.ShowsAs.traceHit (alike : renderer.ShowsAs renderer' shift)
    (paths : CarriesPaths shift lightPath lightPath') (traced : CarriesCalls shift trace trace') :
    Refines (Managed.traceHit renderer random lightPath lightCount trace call hit)
      (Managed.traceHit renderer' random lightPath' lightCount trace' (call.moved shift) (hit.moved shift)) := by
  have texColor : (hit.moved shift).texColor = hit.texColor := rfl
  unfold Managed.traceHit
  rw [texColor, HitInfo.transmit_moved]
  refine (reflectColor_refines traced).bind fun _ => (alike.diffuseColor paths traced).bind fun _ => ?_
  by_cases passes : hit.texColor.a < 99 / 100
  · simp only [passes, if_true]
    exact (traced _).bind fun _ => .refl _
  · simp only [passes, if_false]
    exact .refl _

-- Of the model nothing else is read.
theorem traceHit_bare (renderer : Renderer K) :
    traceHit renderer random lightPath lightCount trace call hit.bare =
      traceHit renderer random lightPath lightCount trace call hit := rfl

theorem Renderer.ShowsAs.traceColor (alike : renderer.ShowsAs renderer' shift) (shadowFuel fuel : Nat) :
    CarriesCalls shift (traceColor renderer random (renderer.getLightPathColor shadowFuel) fuel)
      (traceColor renderer' random (renderer'.getLightPathColor shadowFuel) fuel) := by
  have paths : CarriesPaths shift (renderer.getLightPathColor shadowFuel) (renderer'.getLightPathColor shadowFuel) :=
    fun pos dir length color => alike.lightPath shadowFuel
  have lightCount : renderer'.scene.lights.length = renderer.scene.lights.length := by
    rw [← alike.lights.length_eq, List.length_map]
  intro call
  unfold Managed.traceColor
  rw [lightCount]
  refine Refines.run (TraceCall.moved shift) ?_ fuel call
  intro trace trace' traced call
  have depth : (call.moved shift).depth = call.depth := rfl
  unfold traceColorBody
  rw [depth]
  by_cases shallow : call.depth ≤ 0
  · simp only [shallow, if_true]
    exact .refl _
  · simp only [shallow, if_false, Renderer.intersect_invalid_iff, TraceCall.moved]
    cases found : renderer.closest call.startPos call.rayDir 1000 with
    | none =>
      simp only [alike.missed _ _ _ found, if_true]
      rw [alike.skyColor]
      exact .refl _
    | some reported =>
      obtain ⟨reported', found', distance, -, look⟩ := alike.found _ _ _ reported found
      simp only [found', reduceCtorEq, if_false]
      have same := Renderer.hitInfo_bare found
      have same' := Renderer.hitInfo_bare found'
      rw [look, distance, Vector3.add_swap] at same'
      cases seen : renderer.look reported.toCrossing with
      | error why =>
        rw [seen] at same
        cases known : renderer.hitInfo (renderer.intersect call.startPos call.rayDir 1000) with
        | error why =>
          intro s value s' returned
          cases returned
        | ok hit =>
          rw [known] at same
          cases same
      | ok look =>
        rw [seen] at same same'
        obtain ⟨hit, known, bare⟩ := map_eq_ok.mp same
        obtain ⟨hit', known', bare'⟩ := map_eq_ok.mp same'
        have carried : hit'.bare = (hit.moved shift).bare := by
          rw [bare']
          change _ = (hit.bare).moved shift
          rw [bare]
          rfl
        rw [known, known']
        change Refines (Managed.traceHit _ _ _ _ _ _ hit) (Managed.traceHit _ _ _ _ _ (call.moved shift) hit')
        rw [← traceHit_bare renderer', carried, traceHit_bare]
        exact alike.traceHit paths traced

end

end

section
variable [Mathf K] {input : RenderInput K} {linearToGammaSpace : K → K} {shift : Vector3 K}
  {trace trace' : TraceCall K → Action σ (Stop Exn) (Color K)} {updateProgress : K → StateM σ Bool}

omit [LinearOrder K] in
theorem RenderInput.target_moved (i j ax ay : Nat) :
    (input.moved shift).target i j ax ay = input.target i j ax ay + shift := by
  change input.position + shift + input.forward + (input.offset i j ax ay).x • input.plane.left +
    (input.offset i j ax ay).y • input.plane.up = _
  simp only [Vector3.add_swap _ shift]
  rfl

theorem RenderInput.primaryCall_moved (i j ax ay : Nat) :
    (input.moved shift).primaryCall i j ax ay = (input.primaryCall i j ax ay).moved shift := by
  have aim : (input.moved shift).target i j ax ay - (input.moved shift).position =
      input.target i j ax ay - input.position := by
    rw [RenderInput.target_moved]
    exact Vector3.add_sub_add ..
  unfold RenderInput.primaryCall
  rw [aim]
  rfl

theorem renderPixel_refines (traced : CarriesCalls shift trace trace') (i : Nat) (frame : Frame K) (j : Nat) :
    Refines (input.renderPixel linearToGammaSpace trace i frame j)
      ((input.moved shift).renderPixel linearToGammaSpace trace' i frame j) := by
  have pixel : Refines (input.pixelColor linearToGammaSpace trace i j)
      ((input.moved shift).pixelColor linearToGammaSpace trace' i j) := by
    refine Refines.bind ?_ fun _ => .refl _
    apply Refines.foldlM
    intro color ax
    apply Refines.foldlM
    intro color ay
    rw [RenderInput.primaryCall_moved]
    exact (traced _).bind fun _ => .refl _
  exact pixel.bind fun _ => .refl _

theorem render_refines (traced : CarriesCalls shift trace trace') :
    Refines (input.render linearToGammaSpace trace updateProgress)
      ((input.moved shift).render linearToGammaSpace trace' updateProgress) := by
  have columns : ∀ (columns : List Nat) (frame : Frame K),
      Refines (input.renderColumns linearToGammaSpace trace updateProgress columns frame)
        ((input.moved shift).renderColumns linearToGammaSpace trace' updateProgress columns frame) := by
    intro columns
    induction columns with
    | nil => exact fun _ => .refl _
    | cons i rest ih =>
      intro frame
      unfold RenderInput.renderColumns
      refine (Refines.foldlM (fun frame j => renderPixel_refines traced i frame j) _ frame).bind fun frame => ?_
      refine (Refines.refl _).bind fun answer => ?_
      cases answer with
      | true => exact .refl _
      | false => exact ih _
  exact (Refines.refl _).bind fun _ => (Refines.refl _).bind fun _ => columns _ _

end

section
variable [FloorRing K] [Mathf K]

/-- Renderers that look alike paint the same picture with the same draws, each from where it stands. -/
theorem Renderer.ShowsAs.render {renderer renderer' : Renderer K} {shift : Vector3 K}
    (alike : renderer.ShowsAs renderer' shift) (random : Random K σ) (fuel : Nat) (input : RenderInput K)
    (linearToGammaSpace : K → K) (updateProgress : K → StateM σ Bool) :
    Refines (renderer.render random fuel input linearToGammaSpace updateProgress)
      (renderer'.render random fuel (input.moved shift) linearToGammaSpace updateProgress) :=
  render_refines (alike.traceColor fuel fuel)

theorem Renderer.ShowsAs.render_iff {renderer renderer' : Renderer K} {shift : Vector3 K}
    (alike : renderer.ShowsAs renderer' shift) (random : Random K σ) (fuel : Nat) (input : RenderInput K)
    (linearToGammaSpace : K → K) (updateProgress : K → StateM σ Bool) (s : σ) (result : Frame K × σ) :
    (renderer.render random fuel input linearToGammaSpace updateProgress).run s = .ok result ↔
      (renderer'.render random fuel (input.moved shift) linearToGammaSpace updateProgress).run s = .ok result := by
  constructor
  · exact alike.render random fuel input linearToGammaSpace updateProgress s result.1 result.2
  · intro returned
    have back := alike.symm.render random fuel (input.moved shift) linearToGammaSpace updateProgress
    rw [RenderInput.moved_back] at back
    exact back s result.1 result.2 returned

end

end RayTraceRenderer.Managed
