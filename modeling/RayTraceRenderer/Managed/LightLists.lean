import RayTraceRenderer.Managed.Accesses
import RayTraceRenderer.Managed.DarkLight
import Mathlib.Algebra.Order.BigOperators.Group.List

/-! The lights that Init lists for a model. -/

set_option autoImplicit false

namespace RayTraceRenderer.Managed

open Unity Native Recursion

/-! ## The light of a point as a sum -/

section
variable {K : Type} [Field K] [LinearOrder K] [Mathf K] (renderer : Renderer K) (lightPath : LightPath K)
  (pos normal : Vector3 K)

def Renderer.lightColor (light : Light K) : Color K :=
  renderer.lightPower light (lightLength light pos) • (lightDir light pos).dot normal • light.color

/-- In front of the surface, and not too dim for a shadow ray. -/
def Renderer.Shines (light : Light K) : Prop :=
  0 < (lightDir light pos).dot normal ∧ 4 / 1000 < (renderer.lightColor pos normal light).grayscale

instance (light : Light K) : Decidable (renderer.Shines pos normal light) :=
  inferInstanceAs (Decidable (_ ∧ _))

def Renderer.contribution (light : Light K) : Color K :=
  if renderer.Shines pos normal light then
    match lightPath (pos + (1 / 100 : K) • lightDir light pos) (lightDir light pos) (lightLength light pos) with
    | .ok pathColor => pathColor * renderer.lightColor pos normal light
    | .error _ => Color.gray 0
  else Color.gray 0

variable {renderer lightPath pos normal} {light : Light K} {lights : List (Light K)}

theorem Renderer.contribution_of_path {pathColor : Color K} (shines : renderer.Shines pos normal light)
    (traced : lightPath (pos + (1 / 100 : K) • lightDir light pos) (lightDir light pos) (lightLength light pos) =
      .ok pathColor) :
    renderer.contribution lightPath pos normal light = pathColor * renderer.lightColor pos normal light := by
  unfold Renderer.contribution
  rw [if_pos shines, traced]

theorem Renderer.addLight_eq (acc : Color K) : renderer.addLight lightPath pos normal acc light =
    if renderer.Shines pos normal light then
      (lightPath (pos + (1 / 100 : K) • lightDir light pos) (lightDir light pos) (lightLength light pos)).map
        fun pathColor => acc + pathColor * renderer.lightColor pos normal light
    else .ok acc := by
  unfold Renderer.addLight Renderer.Shines
  by_cases front : 0 < (lightDir light pos).dot normal
  · simp only [front, if_true, true_and]
    rfl
  · simp only [front, if_false, false_and]
    rfl

-- A step that returned returns from every colour, and adds the same.
theorem Renderer.addLight_contribution {acc color : Color K}
    (added : renderer.addLight lightPath pos normal acc light = .ok color) (other : Color K) :
    renderer.addLight lightPath pos normal other light =
      .ok (other + renderer.contribution lightPath pos normal light) := by
  rw [addLight_eq] at added ⊢
  unfold Renderer.contribution
  by_cases shines : renderer.Shines pos normal light
  · simp only [shines, if_true, map_eq_ok] at added ⊢
    rcases added with ⟨pathColor, traced, -⟩
    exact ⟨pathColor, traced, by rw [traced]⟩
  · simp only [shines, if_false, Color.add_gray_zero]

-- So does a loop over some of the lights of a loop that returned.
theorem Renderer.addLights_contributions {acc color : Color K}
    (added : lights.foldlM (renderer.addLight lightPath pos normal) acc = .ok color) (keep : Light K → Bool)
    (other : Color K) : (lights.filter keep).foldlM (renderer.addLight lightPath pos normal) other =
      .ok (((lights.filter keep).map (renderer.contribution lightPath pos normal)).foldl (· + ·) other) := by
  induction lights generalizing acc other with
  | nil => rfl
  | cons light lights ih =>
    rw [List.foldlM_cons, bind_eq_ok] at added
    rcases added with ⟨mid, first, rest⟩
    by_cases kept : keep light
    · rw [List.filter_cons_of_pos kept, List.foldlM_cons, addLight_contribution first]
      exact ih rest _
    · rw [List.filter_cons_of_neg kept]
      exact ih rest other

theorem Renderer.addLights_eq {color : Color K}
    (added : lights.foldlM (renderer.addLight lightPath pos normal) Color.black = .ok color) :
    color = (lights.map (renderer.contribution lightPath pos normal)).foldl (· + ·) Color.black := by
  have whole := addLights_contributions added (fun _ => true) Color.black
  rw [List.filter_true, added, Except.ok.injEq] at whole
  exact whole

end

/-! ## The lists that Init makes -/

section
variable {K : Type} [Field K] [LinearOrder K]

def isActivityLight (renderer : MeshRenderer K) (light : Light K) : Bool :=
  light.isActiveAndEnabled &&
    (if light.type ≠ .directional then (renderer.bounds.expand light.range).contains light.transform.position
      else true)

theorem getActivityLights_eq (renderer : MeshRenderer K) (lights : List (Light K)) :
    RayTraceTool.getActivityLights renderer lights = lights.filter (isActivityLight renderer) := rfl

/-- The lights are those of the world, and the models of meshes list lights for their renderers. -/
def ListsLights (world : UnityScene K) (s : InitState K) : Prop :=
  s.scene.lights = world.lights ∧ ∀ model ∈ s.scene.models, ∀ material, model.material = .mesh material →
    ∃ r ∈ world.renderers, model.lights = RayTraceTool.getActivityLights r world.lights

variable {world : UnityScene K} {s s' : InitState K}

theorem ListsLights.append (before : ListsLights world s) {model : SimpleModel K}
    (same : s'.scene.lights = s.scene.lights) (appended : s'.scene.models = s.scene.models ++ [model])
    (listed : ∀ material, model.material = .mesh material →
      ∃ r ∈ world.renderers, model.lights = RayTraceTool.getActivityLights r world.lights) : ListsLights world s' := by
  refine ⟨same.trans before.1, fun other member => ?_⟩
  rw [appended] at member
  rcases List.mem_append.mp member with earlier | new
  · exact before.2 other earlier
  · rw [List.mem_singleton.mp new]
    exact listed

variable [Mathf K]

theorem addSubMesh_lists {r : MeshRenderer K} (member : r ∈ world.renderers) {filter : MeshFilter K} {mesh : Mesh K}
    {i : Nat} (before : ListsLights world s) (returned : addSubMesh r filter mesh s i = .ok s') :
    ListsLights world s' := by
  unfold addSubMesh SimpleModel.ofMesh at returned
  rw [bind_eq_ok] at returned
  rcases returned with ⟨mat, selected, returned⟩
  cases mat with
  | none => cases returned
  | some mat =>
    rw [← Except.ok.inj returned]
    refine before.append rfl rfl fun _ _ => ⟨r, member, ?_⟩
    rw [← before.1]
    rfl

theorem addTerrain_lists {cullingMask : UInt32} {terrain : Terrain K} (before : ListsLights world s)
    (returned : addTerrain cullingMask s terrain = .ok s') : ListsLights world s' := by
  unfold addTerrain at returned
  split at returned
  · simp only [bind_eq_ok] at returned
    rcases returned with ⟨mesh, -, material, -, returned⟩
    rw [← Except.ok.inj returned]
    refine before.append rfl rfl fun material other => ?_
    cases other
  · exact Except.ok.inj returned ▸ before

theorem init_lists {final : InitState K} (returned : init world = .ok final) : ListsLights world final := by
  have fresh : ListsLights world (InitState.fresh world.lights) := by
    refine ⟨rfl, fun model none => ?_⟩
    cases none
  refine init_keeps fresh ?_ ?_ returned
  · intro r member mask s s' before added
    refine addRenderer_keeps ?_ before added
    intro filter mesh i s s' _ _ _ kept returned
    exact addSubMesh_lists member kept returned
  · intro terrain _ mask s s' before added
    exact addTerrain_lists before added

end

/-! ## Culling

The box of a renderer is enlarged by the range of a light, half of it on each side.
-/

section
variable {K : Type} [Field K] [LinearOrder K] [IsStrictOrderedRing K]

def NearBox (bounds : Bounds K) (amount : K) (point : Vector3 K) : Prop :=
  |point.x - bounds.center.x| ≤ bounds.extents.x + amount ∧ |point.y - bounds.center.y| ≤ bounds.extents.y + amount ∧
    |point.z - bounds.center.z| ≤ bounds.extents.z + amount

theorem expand_contains_iff (bounds : Bounds K) (amount : K) (point : Vector3 K) :
    (bounds.expand amount).contains point ↔ NearBox bounds (amount / 2) point := by
  have axis : ∀ center extent value : K,
      (center - (extent + amount / 2) ≤ value ∧ value ≤ center + (extent + amount / 2)) ↔
        |value - center| ≤ extent + amount / 2 := by
    intro center extent value
    rw [abs_le]
    constructor
    · rintro ⟨low, high⟩
      exact ⟨by linarith, by linarith⟩
    · rintro ⟨low, high⟩
      exact ⟨by linarith, by linarith⟩
  unfold Bounds.contains NearBox
  simp only [Bool.and_eq_true, decide_eq_true_eq]
  simp only [Bounds.expand, Vector3.sub_x, Vector3.sub_y, Vector3.sub_z, Vector3.add_x, Vector3.add_y, Vector3.add_z, ← axis]
  tauto

variable [Mathf K]

def Reaches (bounds : Bounds K) (light : Light K) : Prop :=
  ∃ p, bounds.contains p ∧ lightLength light p < light.range

theorem lightPower_pos_iff {renderer : Renderer K} (ranged : renderer.lightRange = true) {light : Light K}
    (notDirectional : light.type ≠ .directional) (intensity : 0 < light.intensity) (range : 0 < light.range) (p : Vector3 K) :
    0 < renderer.lightPower light (lightLength light p) ↔ lightLength light p < light.range := by
  have relative : 0 < 1 - lightLength light p / light.range ↔ lightLength light p < light.range := by
    rw [sub_pos, div_lt_one range]
  rw [← relative]
  unfold Renderer.lightPower
  simp only [notDirectional, if_false, ranged, if_true, range.ne']
  constructor
  · intro powerful
    by_contra far
    rw [if_neg far] at powerful
    exact lt_irrefl 0 powerful
  · intro near
    rw [if_pos near]
    exact mul_pos intensity (mul_pos near near)

/-- A point light that gets to the box of a renderer is in its list exactly where it stands no more than half
its range outside of the box on each axis. In range mode, a light gets to the points where its power is positive. -/
theorem getActivityLights_conservative_iff (r : MeshRenderer K) {lights : List (Light K)} {light : Light K}
    (member : light ∈ lights) (enabled : light.isActiveAndEnabled = true) (point : light.type = .point) :
    ((Reaches r.bounds light → light ∈ RayTraceTool.getActivityLights r lights) ↔
      (∀ p, r.bounds.contains p → light.range ≤ lightLength light p) ∨
        NearBox r.bounds (light.range / 2) light.transform.position) ∧
    ∀ renderer : Renderer K, renderer.lightRange = true → 0 < light.intensity → 0 < light.range →
      (Reaches r.bounds light ↔ ∃ p, r.bounds.contains p ∧ 0 < renderer.lightPower light (lightLength light p)) := by
  have listed : light ∈ RayTraceTool.getActivityLights r lights ↔
      NearBox r.bounds (light.range / 2) light.transform.position := by
    rw [getActivityLights_eq, List.mem_filter, and_iff_right member, isActivityLight, enabled, point, ← expand_contains_iff]
    simp
  have unreached : ¬ Reaches r.bounds light ↔ ∀ p, r.bounds.contains p → light.range ≤ lightLength light p := by
    simp only [Reaches, not_exists, not_and, not_lt]
  constructor
  · rw [listed, ← unreached, imp_iff_not_or]
  · intro renderer ranged intensity range
    have notDirectional : light.type ≠ .directional := by
      rw [point]
      decide
    simp only [Reaches, lightPower_pos_iff ranged notDirectional intensity range]

end

/-! ### A lamp beside the square -/

def lamp (range : Rat) : Light Rat where
  type := .point
  transform := ⟨⟨2, 0, 0⟩, Unity.Quaternion.identity, ⟨1, 1, 1⟩⟩
  color := Color.white
  intensity := 1
  range := range
  isActiveAndEnabled := true

/-- Half the range of three gets to the square. -/
theorem getActivityLights_conservative_square :
    lamp 3 ∈ RayTraceTool.getActivityLights (squareRenderer true) [lamp 3] := by
  let := Mathf.atUnits
  have conservative := getActivityLights_conservative_iff (squareRenderer true) (List.mem_singleton.mpr (rfl : lamp 3 = lamp 3))
    rfl rfl
  exact conservative.1.mpr (.inr (by norm_num [NearBox, lamp, squareRenderer])) ⟨⟨1, 0, 0⟩, by decide +kernel, by decide +kernel⟩

/-- A range of three halves gets to the square, half of it does not. -/
theorem getActivityLights_misses :
    letI := Mathf.atUnits
    (squareRenderer true).bounds.contains ⟨1, 0, 0⟩ = true ∧ lightLength (lamp (3 / 2)) ⟨1, 0, 0⟩ = 101 / 100 ∧
      (lamp (3 / 2)).range = 3 / 2 ∧ RayTraceTool.getActivityLights (squareRenderer true) [lamp (3 / 2)] = [] :=
  ⟨by decide +kernel, by decide +kernel, rfl, by decide +kernel⟩

end RayTraceRenderer.Managed
