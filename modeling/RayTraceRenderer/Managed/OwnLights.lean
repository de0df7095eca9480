import RayTraceRenderer.Managed.Normals
import RayTraceRenderer.Managed.Occlusion

/-! The lights that light a model.

GetAllLightsColor goes through all lights of the scene. Whether the lights outside of a model's list
take part at a hit is a question of where they are and how bright, which no other model answers: where one
of them shines on the hit, it is missed in the scene of the model alone.
-/

set_option autoImplicit false

namespace RayTraceRenderer.Managed

open Unity Native Recursion

section
variable {K : Type} [Field K] [LinearOrder K] [FloorRing K]

/-- A traced ray hits the model there. -/
def Renderer.HitOn (renderer : Renderer K) (model : SimpleModel K) (pos normal : Vector3 K) : Prop :=
  ∃ call : TraceCall K, 0 < call.depth ∧ ∃ hit ∈ hitOf renderer call,
    hit.model = model ∧ hit.hitPos = pos ∧ hit.hitNormal = normal

/-! ## A facet

A triangle around a point, across a direction.
-/

def across (normal : Vector3 K) : Vector3 K :=
  if normal.x = 0 ∧ normal.y = 0 then ⟨1, 0, 0⟩ else ⟨-normal.y, normal.x, 0⟩

omit [FloorRing K] in
theorem across_dot (normal : Vector3 K) : (across normal).dot normal = 0 := by
  unfold across Vector3.dot
  split
  next along =>
    rw [along.1]
    ring
  next => ring

omit [FloorRing K] in
theorem across_ne_zero (normal : Vector3 K) : across normal ≠ 0 := by
  intro zero
  have x := congrArg Vector3.x zero
  have y := congrArg Vector3.y zero
  unfold across at x y
  split at x
  next => exact one_ne_zero x
  next slanted =>
    rw [if_neg slanted] at y
    exact slanted ⟨y, neg_eq_zero.mp x⟩

variable [Mathf K]

def facetMaterial : SimpleMaterial K := (SimpleMaterial.ofMaterial whiteMaterial fun _ => none).1

variable [IsStrictOrderedRing K]

/-- A white triangle with the point in its middle. -/
def facet (pos normal : Vector3 K) : Occluder K where
  rst := rstOf upright
  corner0 := pos + across normal
  corner1 := pos + normal.cross (across normal)
  corner2 := pos - across normal - normal.cross (across normal)
  uv0 := ⟨0, 0⟩
  uv1 := ⟨0, 0⟩
  uv2 := ⟨0, 0⟩
  normals := List.replicate 3 normal
  material := .mesh facetMaterial
  solid := solid_of_blank rfl

variable {pos normal : Vector3 K}

theorem facet_meetsAt_iff {org dir : Vector3 K} {x : K} :
    let a := across normal
    let b := normal.cross a
    (facet pos normal).MeetsAt org dir x ↔ determinant (pos + a) (pos - a - b) (pos + b) dir ≠ 0 ∧
      OnTriangle (pos + a) (pos - a - b) (pos + b) (org + x • dir) := by
  unfold Occluder.MeetsAt
  have world : ∀ p, worldPos (facet pos normal).rst p = p := worldPos_upright
  rw [world, world, world]
  rfl

-- It lies in the plane of its point.
theorem facet_plane {org dir : Vector3 K} {x : K} (meets : (facet pos normal).MeetsAt org dir x) :
    (org + x • dir - pos).dot normal = 0 := by
  rcases facet_meetsAt_iff.mp meets with ⟨-, u, v, -, -, -, point⟩
  have flat := across_dot normal
  rw [point]
  simp only [Vector3.dot, barycentric, Vector3.cross, Vector3.sub_x, Vector3.sub_y, Vector3.sub_z, Vector3.add_x,
    Vector3.add_y, Vector3.add_z, Vector3.smul_x, Vector3.smul_y, Vector3.smul_z] at flat ⊢
  linear_combination (1 - 2 * u - v) * flat

theorem facet_meets (upward : normal ≠ 0) : (facet pos normal).MeetsAt (pos + normal) (-normal) 1 := by
  refine facet_meetsAt_iff.mpr ⟨?_, ?_⟩
  · have value : determinant (pos + across normal) (pos - across normal - normal.cross (across normal))
        (pos + normal.cross (across normal)) (-normal) =
        3 * ((across normal).dot normal * (across normal).dot normal -
          normal.dot normal * (across normal).dot (across normal)) := by
      simp only [determinant, Vector3.dot, Vector3.cross, Vector3.sub_x, Vector3.sub_y, Vector3.sub_z, Vector3.add_x,
        Vector3.add_y, Vector3.add_z, Vector3.neg_x, Vector3.neg_y, Vector3.neg_z]
      ring
    rw [value, across_dot]
    have area := mul_pos (Vector3.dot_self_pos upward) (Vector3.dot_self_pos (across_ne_zero normal))
    linarith
  · refine ⟨1 / 3, 1 / 3, by norm_num, by norm_num, by norm_num, ?_⟩
    ext <;> simp [barycentric] <;> ring

/-! ## A scene of one facet -/

def facetMesh (pos normal : Vector3 K) : Mesh K where
  vertices := (facet pos normal).model.mesh.vertices
  uv := (facet pos normal).model.mesh.uv
  normals := (facet pos normal).normals
  triangles := [[0, 1, 2]]

/-- With the bounds of another, and so with its lights. -/
def facetRenderer (r : MeshRenderer K) (pos normal : Vector3 K) : MeshRenderer K where
  layer := 0
  isVisible := true
  transform := upright
  filter := some ⟨upright, some (facetMesh pos normal)⟩
  attached := by simp
  bounds := r.bounds
  sharedMaterials := [some whiteMaterial]

def facetWorld (r : MeshRenderer K) (lights : List (Light K)) (pos normal : Vector3 K) : UnityScene K where
  camera := some ⟨0xFFFFFFFF⟩
  lights := lights
  renderers := [facetRenderer r pos normal]
  terrains := []

def facetModel (r : MeshRenderer K) (lights : List (Light K)) (pos normal : Vector3 K) : SimpleModel K :=
  { (facet pos normal).model with lights := RayTraceTool.getActivityLights r lights }

theorem init_facetWorld (r : MeshRenderer K) (lights : List (Light K)) (pos normal : Vector3 K) :
    ∃ final, init (facetWorld r lights pos normal) = .ok final ∧
      final.scene = { lights, models := [facetModel r lights pos normal] } ∧
      final.nativeScene = (nativeOf []).add (facet pos normal).geometry := by
  obtain ⟨final, submesh, scene⟩ : ∃ final,
      addSubMesh (facetRenderer r pos normal) ⟨upright, some (facetMesh pos normal)⟩ (facetMesh pos normal)
        (.fresh lights) 0 = .ok final ∧
      final.scene = { lights, models := [facetModel r lights pos normal] } := ⟨_, rfl, rfl⟩
  have visible : ((facetRenderer r pos normal).isVisible &&
      isLayerVisible (facetRenderer r pos normal).layer 0xFFFFFFFF) = true := by
    have layer : isLayerVisible 0 0xFFFFFFFF = true := by decide
    simp only [facetRenderer, layer, Bool.and_true]
  have added : addRenderer 0xFFFFFFFF (.fresh lights) (facetRenderer r pos normal) = .ok final := by
    unfold addRenderer
    rw [if_pos visible]
    show [0].foldlM (addSubMesh (facetRenderer r pos normal) _ (facetMesh pos normal)) (.fresh lights) = .ok final
    rw [List.foldlM_cons, submesh]
    rfl
  have returned : init (facetWorld r lights pos normal) = .ok final := by
    show ([facetRenderer r pos normal].foldlM (addRenderer 0xFFFFFFFF) (.fresh lights) >>= _) = .ok final
    rw [List.foldlM_cons, added]
    rfl
  refine ⟨final, returned, scene, ?_⟩
  rw [init_nativeScene returned, scene]
  rfl

/-! ### Looking at it -/

section
variable {renderer : Renderer K} {withStart : Bool} {r : MeshRenderer K} {lights : List (Light K)} {final : InitState K}

theorem facet_hitOn (reports : renderer.embree.ReportsNearest (Embree.segmentOf withStart)) (upward : normal ≠ 0)
    (scene : final.scene = { lights, models := [facetModel r lights pos normal] })
    (native : final.nativeScene = (nativeOf []).add (facet pos normal).geometry) :
    (renderer.showing final).HitOn (facetModel r lights pos normal) pos normal := by
  let shown := renderer.showing final
  have alone : shown.scene.models = [facetModel r lights pos normal] := congrArg SimpleScene.models scene
  let call : TraceCall K := ⟨pos + normal, -normal, 0, 1⟩
  cases found : shown.closest (pos + normal) (-normal) 1000 with
  | none =>
    have missed : renderer.embree.closest ((nativeOf []).add (facet pos normal).geometry)
        (newRay (pos + normal) (-normal) 1000).toRayData = none := native ▸ found
    have admitted : Embree.segmentOf withStart (newRay (pos + normal) (-normal) 1000).toRayData 1 :=
      Embree.segmentOf_lt withStart one_pos (show (1 : K) ≤ 1000 by norm_num)
    exact absurd admitted (Occluder.closest_none reports missed (facet_meets upward))
  | some hit =>
    have reported : renderer.embree.closest ((nativeOf []).add (facet pos normal).geometry)
        (newRay (pos + normal) (-normal) 1000).toRayData = some hit := native ▸ found
    obtain ⟨⟨geomID, primID⟩, meets, -⟩ := Occluder.closest_some reports reported
    have one : hit.t = 1 := by
      have flat := facet_plane meets
      have square := Vector3.dot_self_pos upward
      have onPlane : (1 - hit.t) * normal.dot normal = 0 := by
        rw [← flat]
        simp only [Vector3.dot, Vector3.sub_x, Vector3.sub_y, Vector3.sub_z, Vector3.add_x, Vector3.add_y, Vector3.add_z,
          Vector3.smul_x, Vector3.smul_y, Vector3.smul_z, Vector3.neg_x, Vector3.neg_y, Vector3.neg_z]
        ring
      rcases mul_eq_zero.mp onPlane with near | none
      · linarith
      · exact absurd none square.ne'
    let uv := RayTraceTool.lerpVector2 (⟨0, 0⟩ : Vector2 K) ⟨0, 0⟩ ⟨0, 0⟩ hit.v hit.u
    let model := facetModel r lights pos normal
    have resolved : shown.scene.surfaceOf hit.toCrossing = .ok ⟨model, 0, 1, 2, uv⟩ := by
      unfold SimpleScene.surfaceOf
      rw [geomID, primID]
      exact SimpleScene.surface_single alone rfl rfl hit.v hit.u
    obtain ⟨texel, sampled, -⟩ := linearSample_channel blank_texels uv
    have normal0 : arrayGet model.mesh.normals 0 = .ok normal := rfl
    have normal1 : arrayGet model.mesh.normals 1 = .ok normal := rfl
    have normal2 : arrayGet model.mesh.normals 2 = .ok normal := rfl
    have looked := Renderer.hitInfo_of_surface found resolved sampled normal0 normal1 normal2
    refine ⟨call, one_pos, _, mem_hitOf_iff.mpr ⟨hit, found, looked⟩, rfl, ?_, ?_⟩
    · show pos + normal + hit.t • (-normal) = pos
      rw [one]
      ext <;> simp
    · show Unity.Quaternion.identity.rotate (RayTraceTool.lerpVector3 normal normal normal hit.v hit.u) = normal
      rw [lerpVector3_same]
      ext <;> simp [Unity.Quaternion.identity, Unity.Quaternion.rotate]

-- The facet does not stand in the light of its own point.
theorem facet_shadow (reports : renderer.embree.ReportsNearest (Embree.segmentOf withStart))
    (native : final.nativeScene = (nativeOf []).add (facet pos normal).geometry) {light : Light K}
    (front : 0 < (lightDir light pos).dot normal) : (renderer.showing final).shadow 1 pos light = .ok Color.white := by
  apply Renderer.getLightPathColor_miss
  cases found : (renderer.showing final).closest (pos + (1 / 100 : K) • lightDir light pos) (lightDir light pos)
      (lightLength light pos) with
  | none => rfl
  | some hit =>
    have reported : renderer.embree.closest ((nativeOf []).add (facet pos normal).geometry)
        (newRay (pos + (1 / 100 : K) • lightDir light pos) (lightDir light pos) (lightLength light pos)).toRayData =
        some hit := native ▸ found
    obtain ⟨-, meets, admitted⟩ := Occluder.closest_some reports reported
    have ahead : 0 ≤ hit.t := (Embree.segmentOf_le admitted).1
    have above : 0 < (1 / 100 + hit.t) * (lightDir light pos).dot normal := mul_pos (by positivity) front
    have flat := facet_plane meets
    have same : (pos + (1 / 100 : K) • lightDir light pos + hit.t • lightDir light pos - pos).dot normal =
        (1 / 100 + hit.t) * (lightDir light pos).dot normal := by
      simp only [Vector3.dot, Vector3.sub_x, Vector3.sub_y, Vector3.sub_z, Vector3.add_x, Vector3.add_y, Vector3.add_z,
        Vector3.smul_x, Vector3.smul_y, Vector3.smul_z]
      ring
    exact absurd (same.symm.trans flat) above.ne'

theorem facet_contribution (reports : renderer.embree.ReportsNearest (Embree.segmentOf withStart))
    (native : final.nativeScene = (nativeOf []).add (facet pos normal).geometry) (light : Light K) :
    ((renderer.showing final).contribution ((renderer.showing final).getLightPathColor 1) pos normal light).grayscale =
      if renderer.Shines pos normal light then (renderer.lightColor pos normal light).grayscale else 0 := by
  by_cases shines : renderer.Shines pos normal light
  · have shines' : (renderer.showing final).Shines pos normal light := shines
    rw [Renderer.contribution_of_path shines' (facet_shadow reports native shines.1), Color.white_mul, if_pos shines]
    rfl
  · rw [if_neg shines]
    have dark : (renderer.showing final).contribution ((renderer.showing final).getLightPathColor 1) pos normal light =
        Color.gray 0 := if_neg shines
    rw [dark]
    simp [Color.grayscale, Color.gray]

/-! ## Lighting with a model's own lights -/

omit [FloorRing K] [Mathf K] in
-- What is left out adds something.
theorem sum_filter_lt {α : Type} (keep : α → Bool) {value : α → K} (nonneg : ∀ a, keep a = false → 0 ≤ value a)
    {list : List α} {a : α} (member : a ∈ list) (out : keep a = false) (positive : 0 < value a) :
    ((list.filter keep).map value).sum < (list.map value).sum := by
  let dropped := list.filter fun a => !keep a
  have parts : ((list.filter keep).map value).sum + (dropped.map value).sum = (list.map value).sum := by
    rw [← List.sum_append, ← List.map_append]
    exact ((List.filter_append_perm keep list).map value).sum_eq
  have held : a ∈ dropped := by simpa [dropped, member] using out
  have all : ∀ x ∈ dropped.map value, 0 ≤ x := by
    intro x inSum
    rcases List.mem_map.mp inSum with ⟨other, inside, rfl⟩
    exact nonneg other (by simpa using (List.mem_filter.mp inside).2)
  have part := List.single_le_sum all _ (List.mem_map_of_mem held)
  linarith

theorem facet_contribution_nonneg (reports : renderer.embree.ReportsNearest (Embree.segmentOf withStart))
    (native : final.nativeScene = (nativeOf []).add (facet pos normal).geometry) (light : Light K) :
    0 ≤ ((renderer.showing final).contribution ((renderer.showing final).getLightPathColor 1) pos normal light).grayscale := by
  rw [facet_contribution reports native]
  split
  next front => exact (lt_trans (by norm_num) front.2).le
  next => rfl

theorem facet_misses (reports : renderer.embree.ReportsNearest (Embree.segmentOf withStart))
    (scene : final.scene = { lights, models := [facetModel r lights pos normal] })
    (native : final.nativeScene = (nativeOf []).add (facet pos normal).geometry) {light : Light K}
    (member : light ∈ lights) (unlisted : light ∉ RayTraceTool.getActivityLights r lights)
    (shines : renderer.Shines pos normal light) (model : SimpleModel K) :
    let shown := renderer.showing final
    let own := shown.withLights (RayTraceTool.getActivityLights r lights)
    own.getAllLightsColor (own.getLightPathColor 1) model pos normal ≠
      shown.getAllLightsColor (shown.getLightPathColor 1) model pos normal := by
  intro shown own same
  let bright := fun light => (shown.contribution (shown.getLightPathColor 1) pos normal light).grayscale
  have given : shown.scene.lights = lights := congrArg SimpleScene.lights scene
  have path : own.getLightPathColor 1 = shown.getLightPathColor 1 := shown.getLightPathColor_withLights _ 1
  have traced : ∀ other, renderer.Shines pos normal other → ∃ color, shown.shadow 1 pos other = .ok color :=
    fun other front => ⟨Color.white, facet_shadow reports native front.1⟩
  have ownTraced : ∀ other, renderer.Shines pos normal other → ∃ color, own.shadow 1 pos other = .ok color := by
    intro other front
    unfold Renderer.shadow
    rw [path]
    exact traced other front
  rw [getAllLightsColor_of_shadow own pos normal (fun other _ => ownTraced other) model,
    getAllLightsColor_of_shadow shown pos normal (fun other _ => traced other) model, given, path,
    Except.ok.injEq] at same
  have equal : ((RayTraceTool.getActivityLights r lights).map bright).sum = (lights.map bright).sum := by
    have grayscales := congrArg Color.grayscale same
    rw [Color.foldl_add_grayscale, Color.foldl_add_grayscale, List.map_map, List.map_map] at grayscales
    exact add_left_cancel grayscales
  have positive : 0 < bright light := by
    show 0 < (shown.contribution (shown.getLightPathColor 1) pos normal light).grayscale
    rw [facet_contribution reports native, if_pos shines]
    exact lt_trans (by norm_num) shines.2
  rw [getActivityLights_eq] at unlisted equal
  have out : isActivityLight r light = false := by
    simpa [member] using unlisted
  have less := sum_filter_lt (isActivityLight r) (fun other _ => facet_contribution_nonneg reports native other) member
    out positive
  exact absurd equal less.ne

end

/-- The lights outside of a list are missed at a point in no scene that Init makes exactly where none of them
shines on it, if a mesh has that list and is hit there. Every mesh has the list made for its renderer. -/
theorem getAllLightsColor_own_iff {withStart : Bool} (renderer : Renderer K)
    (reports : renderer.embree.ReportsNearest (Embree.segmentOf withStart)) (r : MeshRenderer K) (lights : List (Light K))
    (pos normal : Vector3 K) :
    ((∀ world final, world.lights = lights → init world = .ok final →
      ∀ model ∈ final.scene.models, (∃ material, model.material = .mesh material) →
        model.lights = RayTraceTool.getActivityLights r lights →
          let shown := renderer.showing final
          let own := shown.withLights model.lights
          shown.HitOn model pos normal → ∀ fuel,
            own.getAllLightsColor (own.getLightPathColor fuel) model pos normal =
              shown.getAllLightsColor (shown.getLightPathColor fuel) model pos normal) ↔
      ∀ light ∈ lights, light ∉ RayTraceTool.getActivityLights r lights → ¬ renderer.Shines pos normal light) ∧
    ∀ (world : UnityScene K) final, init world = .ok final → ∀ model ∈ final.scene.models,
      (∃ material, model.material = .mesh material) →
        ∃ r ∈ world.renderers, model.lights = RayTraceTool.getActivityLights r world.lights := by
  refine ⟨⟨?_, ?_⟩, ?_⟩
  · intro same light member unlisted shines
    obtain ⟨final, returned, scene, native⟩ := init_facetWorld r lights pos normal
    have upward : normal ≠ 0 := by
      rintro rfl
      have front := shines.1
      simp [Vector3.dot] at front
    have held : facetModel r lights pos normal ∈ final.scene.models := by
      rw [scene]
      exact List.mem_singleton_self _
    exact facet_misses reports scene native member unlisted shines _
      (same _ final rfl returned _ held ⟨_, rfl⟩ rfl (facet_hitOn reports upward scene native) 1)
  · intro clear world final lit returned model _ _ listed shown own _ fuel
    have given : shown.scene.lights = lights := (init_lists returned).1.trans lit
    rw [shown.getLightPathColor_withLights]
    show model.lights.foldlM (shown.addLight (shown.getLightPathColor fuel) pos normal) Color.black =
      shown.scene.lights.foldlM (shown.addLight (shown.getLightPathColor fuel) pos normal) Color.black
    rw [given, listed, getActivityLights_eq]
    apply foldlM_filter
    intro light member unlisted acc
    rw [Renderer.addLight_eq]
    refine if_neg (clear light member fun inList => ?_)
    rw [getActivityLights_eq, List.mem_filter, unlisted] at inList
    exact Bool.false_ne_true inList.2
  · rintro world final returned model held ⟨material, mesh⟩
    exact (init_lists returned).2 model held material mesh

end

/-! ### A facet under a disabled light -/

def disabledSun (rotation : Unity.Quaternion Rat) : Light Rat :=
  { sun 1 with transform := ⟨0, rotation, ⟨1, 1, 1⟩⟩, isActiveAndEnabled := false }

def litWorld [Mathf Rat] (lights : List (Light Rat)) : UnityScene Rat := facetWorld (squareRenderer true) lights 0 ⟨0, 0, -1⟩

def litModel [Mathf Rat] (lights : List (Light Rat)) : SimpleModel Rat :=
  facetModel (squareRenderer true) lights 0 ⟨0, 0, -1⟩

theorem litWorld_hitOn [Mathf Rat] (lights : List (Light Rat)) :
    ∃ final, init (litWorld lights) = .ok final ∧ final.scene.models = [litModel lights] ∧
      (blankRenderer.showing final).HitOn (litModel lights) 0 ⟨0, 0, -1⟩ := by
  have reports : blankRenderer.embree.ReportsNearest (Embree.segmentOf true) :=
    exhaustive_reportsNearest Embree.closedSegment
  have upward : (⟨0, 0, -1⟩ : Vector3 Rat) ≠ 0 := by decide +kernel
  obtain ⟨final, returned, scene, native⟩ := init_facetWorld (squareRenderer true) lights 0 ⟨0, 0, -1⟩
  exact ⟨final, returned, congrArg SimpleScene.models scene, facet_hitOn reports upward scene native⟩

/-- The disabled light shines from behind, so that it is not missed. -/
theorem getAllLightsColor_own_behind :
    letI := Mathf.atUnits
    let lights := [sun 1, disabledSun ⟨0, 1, 0, 0⟩]
    ∃ final, init (litWorld lights) = .ok final ∧ final.scene.models = [litModel lights] ∧
      let shown := blankRenderer.showing final
      let own := shown.withLights (litModel lights).lights
      shown.HitOn (litModel lights) 0 ⟨0, 0, -1⟩ ∧
        own.getAllLightsColor (own.getLightPathColor 1) (litModel lights) 0 ⟨0, 0, -1⟩ =
          shown.getAllLightsColor (shown.getLightPathColor 1) (litModel lights) 0 ⟨0, 0, -1⟩ := by
  let := Mathf.atUnits
  intro lights
  have reports : blankRenderer.embree.ReportsNearest (Embree.segmentOf true) :=
    exhaustive_reportsNearest Embree.closedSegment
  obtain ⟨final, returned, models, hit⟩ := litWorld_hitOn lights
  have held : litModel lights ∈ final.scene.models := models ▸ List.mem_singleton_self _
  have own := getAllLightsColor_own_iff blankRenderer reports (squareRenderer true) lights 0 ⟨0, 0, -1⟩
  refine ⟨final, returned, models, hit, own.1.mpr ?_ _ final rfl returned _ held ⟨_, rfl⟩ rfl hit 1⟩
  intro light member unlisted shines
  simp only [lights, List.mem_cons, List.not_mem_nil, or_false] at member
  rcases member with rfl | rfl
  · exact unlisted (List.mem_filter.mpr ⟨List.mem_cons_self, by decide +kernel⟩)
  · exact absurd shines.1 (by decide +kernel)

/-- The disabled light is in no list, and shines all the same. -/
theorem getAllLightsColor_disabled :
    letI := Mathf.atUnits
    let lights := [disabledSun Unity.Quaternion.identity]
    ∃ final, init (litWorld lights) = .ok final ∧ final.scene.models = [litModel lights] ∧
      (∃ material, (litModel lights).material = .mesh material) ∧ (litModel lights).lights = [] ∧
      let shown := blankRenderer.showing final
      let own := shown.withLights (litModel lights).lights
      shown.HitOn (litModel lights) 0 ⟨0, 0, -1⟩ ∧
        shown.getAllLightsColor (shown.getLightPathColor 1) (litModel lights) 0 ⟨0, 0, -1⟩ = .ok ⟨1, 1, 1, 2⟩ ∧
        own.getAllLightsColor (own.getLightPathColor 1) (litModel lights) 0 ⟨0, 0, -1⟩ = .ok Color.black := by
  let := Mathf.atUnits
  intro lights
  obtain ⟨final, returned, models, hit⟩ := litWorld_hitOn lights
  have lit : (init (litWorld lights)).map (fun s =>
      let shown := blankRenderer.showing s
      shown.getAllLightsColor (shown.getLightPathColor 1) (litModel lights) 0 ⟨0, 0, -1⟩) = .ok (.ok ⟨1, 1, 1, 2⟩) := by
    decide +kernel
  rw [returned] at lit
  exact ⟨final, returned, models, ⟨_, rfl⟩, rfl, hit, Except.ok.inj lit, rfl⟩

end RayTraceRenderer.Managed
