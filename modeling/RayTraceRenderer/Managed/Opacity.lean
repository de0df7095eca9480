import RayTraceRenderer.Managed.LightPath

/-! Camera rays against shadow rays: whether a surface lets a ray through.

TraceColor tests the alpha of the linear sample after the material colour and the
opaque mode have changed it; GetLightPathColor tests the alpha of the point sample.
On a texture of one colour the samples agree, and only the changes are left.
-/

set_option autoImplicit false

namespace RayTraceRenderer.Managed

open Unity Native

variable {K : Type} [Field K] [LinearOrder K] [FloorRing K] {renderer : Renderer K}

def ContinuesBehind (renderer : Renderer K) (startPos rayDir : Vector3 K) : Prop :=
  ∃ hit info, renderer.closest startPos rayDir 1000 = some hit ∧
    renderer.hitInfo (renderer.intersect startPos rayDir 1000) = .ok info ∧ info.texColor.a < 99 / 100

/-- The two tests agree on a surface of one colour: the texture of an opaque material must
stop light by itself, and the material colour must not move another alpha over the bound. -/
def OpacityAgrees (ignoreMaterialColor : Bool) (material : SimpleMaterialBase K) (uv : Vector2 K)
    (constant : Color K) : Prop :=
  let alpha := (material.uniformColor uv constant).a
  if material.getRenderMode = .Opaque then 99 / 100 ≤ alpha
  else ignoreMaterialColor = true ∨ (alpha * material.getColor.a < 99 / 100 ↔ alpha < 99 / 100)

-- A terrain adds to a background of alpha one, so it stops both kinds of rays.
theorem opacityAgrees_terrain [IsStrictOrderedRing K] (ignoreMaterialColor : Bool)
    (material : SimpleTerrainMaterial K) (uv : Vector2 K) {constant : Color K} (nonneg : 0 ≤ constant.a) :
    OpacityAgrees ignoreMaterialColor (.terrain material) uv constant := by
  have added : 0 ≤ SimpleMaterialBase.usedWeight material uv (List.range material.alphamapLayers) *
      constant.a := mul_nonneg (SimpleMaterialBase.usedWeight_nonneg material uv _) nonneg
  change 99 / 100 ≤ 1 + SimpleMaterialBase.usedWeight material uv (List.range material.alphamapLayers) *
    constant.a
  linarith

omit [FloorRing K] in
-- The alpha that TraceColor tests, by render mode.
theorem surfaceColor_a (material : SimpleMaterialBase K) (sampled : Color K) :
    (renderer.surfaceColor material sampled).a =
      if material.getRenderMode = .Opaque then 1
      else if renderer.ignoreMaterialColor then sampled.a else sampled.a * material.getColor.a := by
  unfold Renderer.surfaceColor
  by_cases solid : material.getRenderMode = .Opaque
  · simp [solid]
  · cases renderer.ignoreMaterialColor <;> simp [solid]

theorem continuesBehind_iff {startPos rayDir : Vector3 K} {hit : Hit K}
    (seen : renderer.closest startPos rayDir 1000 = some hit) {info : HitInfo K}
    (looked : renderer.hitInfo (renderer.intersect startPos rayDir 1000) = .ok info) :
    ContinuesBehind renderer startPos rayDir ↔ info.texColor.a < 99 / 100 := by
  constructor
  · rintro ⟨hit', info', -, looked', passes⟩
    rw [looked] at looked'
    cases looked'
    exact passes
  · intro passes
    exact ⟨hit, info, seen, looked, passes⟩

theorem letsThrough_iff {pos dir : Vector3 K} {length : K} {hit : Hit K}
    (found : renderer.closest pos dir length = some hit) {texColor : Color K}
    (sampled : renderer.texelOf hit.toCrossing = .ok texColor) :
    LetsThrough renderer pos dir length ↔ texColor.a < 99 / 100 := by
  constructor
  · rintro ⟨hit', texColor', found', sampled', passes⟩
    rw [found] at found'
    cases found'
    rw [sampled] at sampled'
    cases sampled'
    exact passes
  · intro passes
    exact ⟨hit, texColor, found, sampled, passes⟩

theorem texelOf_congr {c c' : Crossing K} (ids : c'.geomID = c.geomID ∧ c'.primID = c.primID)
    (place : c'.u = c.u ∧ c'.v = c.v) : renderer.texelOf c' = renderer.texelOf c := by
  unfold Renderer.texelOf SimpleScene.surfaceOf
  rw [ids.1, ids.2, place.1, place.2]

theorem continues_iff_letsThrough [IsStrictOrderedRing K] (renderer : Renderer K) {startPos rayDir : Vector3 K} {hit : Hit K}
    (seen : renderer.closest startPos rayDir 1000 = some hit) {pos dir : Vector3 K} {length : K}
    {shadowHit : Hit K} (shadowed : renderer.closest pos dir length = some shadowHit)
    (ids : shadowHit.geomID = hit.geomID ∧ shadowHit.primID = hit.primID)
    (place : shadowHit.u = hit.u ∧ shadowHit.v = hit.v) {info : HitInfo K}
    (looked : renderer.hitInfo (renderer.intersect startPos rayDir 1000) = .ok info) {texColor : Color K}
    (sampled : renderer.texelOf shadowHit.toCrossing = .ok texColor) {surface : Surface K}
    (resolved : renderer.scene.surfaceOf hit.toCrossing = .ok surface) {constant : Color K}
    (uniform : surface.model.material.Uniform constant) :
    (ContinuesBehind renderer startPos rayDir ↔ LetsThrough renderer pos dir length) ↔
      OpacityAgrees renderer.ignoreMaterialColor surface.model.material surface.uv constant := by
  obtain ⟨surface', linear, n0, n1, n2, resolved', linearSampled, -, rfl⟩ := renderer.hitInfo_spec seen looked
  obtain rfl : surface = surface' := Except.ok.inj (resolved.symm.trans resolved')
  rw [continuesBehind_iff seen looked, letsThrough_iff shadowed sampled]
  rw [texelOf_congr ids place, Renderer.texelOf, resolved] at sampled
  rw [SimpleMaterialBase.linearSample_uniform uniform linearSampled,
    SimpleMaterialBase.pointSample_uniform uniform sampled]
  rw [surfaceColor_a, OpacityAgrees]
  by_cases solid : surface.model.material.getRenderMode = .Opaque
  · have stopped : ¬ (1 : K) < 99 / 100 := by norm_num
    simp only [solid, if_true, stopped, false_iff, not_lt]
  · cases ignored : renderer.ignoreMaterialColor with
    | true => simp [solid]
    | false => simp [solid]

def halfPane (renderMode : RenderMode) (notAdditive : renderMode ≠ .Additive) : Renderer Rat :=
  .over Embree.closedSegment [plainPane 1 ⟨1, 1, 1, 1 / 2⟩ renderMode notAdditive] [] Color.black

def halfPaneHit : Hit Rat := ⟨⟨1, 1 / 4, 1 / 4, 0, 0⟩, ⟨0, 0, 16⟩⟩

/-- The camera sees a wall where the light passes. -/
theorem continues_not_iff_letsThrough :
    (halfPane .Opaque Opaque.notAdditive).closest 0 ⟨0, 0, 1⟩ 1000 = some halfPaneHit ∧
    ¬ (ContinuesBehind (halfPane .Opaque Opaque.notAdditive) 0 ⟨0, 0, 1⟩ ↔
      LetsThrough (halfPane .Opaque Opaque.notAdditive) 0 ⟨0, 0, 1⟩ 1000) := by
  have seen : (halfPane .Opaque Opaque.notAdditive).closest 0 ⟨0, 0, 1⟩ 1000 = some halfPaneHit := by
    decide +kernel
  have sampled : (halfPane .Opaque Opaque.notAdditive).texelOf halfPaneHit.toCrossing = .ok ⟨1, 1, 1, 1 / 2⟩ := by
    decide +kernel
  have alpha : ((halfPane .Opaque Opaque.notAdditive).hitInfo
      ((halfPane .Opaque Opaque.notAdditive).intersect 0 ⟨0, 0, 1⟩ 1000)).map (·.texColor.a) = .ok 1 := by
    decide +kernel
  refine ⟨seen, fun agree => ?_⟩
  obtain ⟨hit, info, -, looked, passes⟩ := agree.mpr ((letsThrough_iff seen sampled).mpr (by norm_num))
  rw [looked] at alpha
  have solid : info.texColor.a = 1 := Except.ok.inj alpha
  rw [solid] at passes
  norm_num at passes

theorem continues_iff_letsThrough_blended :
    ContinuesBehind (halfPane .Alphablend Alphablend.notAdditive) 0 ⟨0, 0, 1⟩ ↔
      LetsThrough (halfPane .Alphablend Alphablend.notAdditive) 0 ⟨0, 0, 1⟩ 1000 := by
  have seen : (halfPane .Alphablend Alphablend.notAdditive).closest 0 ⟨0, 0, 1⟩ 1000 =
      some halfPaneHit := by
    decide +kernel
  have sampled : (halfPane .Alphablend Alphablend.notAdditive).texelOf halfPaneHit.toCrossing =
      .ok ⟨1, 1, 1, 1 / 2⟩ := by
    decide +kernel
  have known : ((halfPane .Alphablend Alphablend.notAdditive).hitInfo
      ((halfPane .Alphablend Alphablend.notAdditive).intersect 0 ⟨0, 0, 1⟩ 1000)).toBool = true := by
    decide +kernel
  cases looked : (halfPane .Alphablend Alphablend.notAdditive).hitInfo
      ((halfPane .Alphablend Alphablend.notAdditive).intersect 0 ⟨0, 0, 1⟩ 1000) with
  | error why =>
    rw [looked] at known
    cases known
  | ok info =>
    obtain ⟨surface, _, _, _, _, resolved, -⟩ := Renderer.hitInfo_spec seen looked
    have model : surface.model = plainPane 1 ⟨1, 1, 1, 1 / 2⟩ .Alphablend Alphablend.notAdditive :=
      List.mem_singleton.mp (SimpleScene.surface_model_mem resolved)
    have uniform : surface.model.material.Uniform ⟨1, 1, 1, 1 / 2⟩ := by
      rw [model]
      exact fun texel member => List.mem_singleton.mp member
    refine (continues_iff_letsThrough (halfPane .Alphablend Alphablend.notAdditive) seen seen ⟨rfl, rfl⟩ ⟨rfl, rfl⟩
      looked sampled resolved uniform).mpr ?_
    rw [model]
    apply Or.inr
    change (1 / 2 : Rat) * 1 < 99 / 100 ↔ (1 / 2 : Rat) < 99 / 100
    norm_num

end RayTraceRenderer.Managed
