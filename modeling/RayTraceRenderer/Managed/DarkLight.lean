import RayTraceRenderer.Managed.Tracing
import Mathlib.Data.Rat.Floor

/-! Taking away a light that emits nothing.

Such a light adds nothing to the direct light and no ray is traced for it. What it
changes is the number of lights, and with it the weight of the indirect light, which
is divided by the number of its samples plus the number of lights.
-/

set_option autoImplicit false

namespace RayTraceRenderer.Managed

open Unity Native Recursion

variable {K σ : Type} [Field K] [LinearOrder K] [FloorRing K]

def Renderer.withLights (renderer : Renderer K) (lights : List (Light K)) : Renderer K :=
  { renderer with scene := { renderer.scene with lights } }

-- Shadow rays meet models, not lights.
theorem Renderer.getLightPathColor_withLights (renderer : Renderer K) (lights : List (Light K)) (fuel : Nat) :
    (renderer.withLights lights).getLightPathColor fuel = renderer.getLightPathColor fuel := by
  funext pos dir length
  induction fuel generalizing pos dir length with
  | zero => rfl
  | succ fuel ih =>
    rw [getLightPathColor, getLightPathColor]
    simp only [ih]
    rfl

section
variable [Mathf K] [IsStrictOrderedRing K] {renderer : Renderer K} {before after : List (Light K)}
  {light : Light K}

omit [FloorRing K] in
theorem getAllLightsColor_without (lit : renderer.scene.lights = before ++ light :: after)
    (dark : light.intensity = 0) (lightPath : LightPath K) (model : SimpleModel K) (pos normal : Vector3 K) :
    (renderer.withLights (before ++ after)).getAllLightsColor lightPath model pos normal =
      renderer.getAllLightsColor lightPath model pos normal := by
  have skipped : ∀ color, (light :: after).foldlM (renderer.addLight lightPath pos normal) color =
      after.foldlM (renderer.addLight lightPath pos normal) color := by
    intro color
    rw [List.foldlM_cons, renderer.addLight_dark lightPath pos normal dark]
    rfl
  unfold Renderer.getAllLightsColor
  rw [lit, List.foldlM_append]
  simp only [skipped]
  exact List.foldlM_append

variable (random : Random K σ) (lightPath : LightPath K) (lightCount : Int)

theorem traceColorBody_without (lit : renderer.scene.lights = before ++ light :: after)
    (dark : light.intensity = 0) :
    traceColorBody (renderer.withLights (before ++ after)) random lightPath lightCount =
      traceColorBody renderer random lightPath lightCount := by
  have diffuse : ∀ trace hit call,
      diffuseColor (renderer.withLights (before ++ after)) random lightPath lightCount trace hit call =
        diffuseColor renderer random lightPath lightCount trace hit call := by
    intro trace hit call
    unfold diffuseColor
    rw [getAllLightsColor_without lit dark]
  funext trace call
  unfold traceColorBody traceHit
  simp only [diffuse]
  -- what is left of the renderer are its models, its sky and Embree
  rfl

/-! ## Where the number of lights is not seen -/

/-- Nothing is sampled at the hit of the call, if it traces one, so that the direct light is
divided by what it was multiplied with. -/
def NoDiffuse (renderer : Renderer K) (call : TraceCall K) : Prop :=
  0 < call.depth → ∀ hit ∈ hitOf renderer call, hit.diffuseSample call = 0

instance (renderer : Renderer K) : DecidablePred (NoDiffuse renderer) := fun call =>
  inferInstanceAs (Decidable (0 < call.depth → ∀ hit ∈ hitOf renderer call, hit.diffuseSample call = 0))

omit [IsStrictOrderedRing K] in
theorem diffuseColor_unsampled {hit : HitInfo K} {call : TraceCall K} (unsampled : hit.diffuseSample call = 0)
    (positive : 0 < lightCount) (fits : lightCount < 2 ^ 31)
    (trace : TraceCall K → Action σ (Stop Exn) (Color K)) :
    diffuseColor renderer random lightPath lightCount trace hit call = (do
      let directColor ← lift (renderer.getAllLightsColor lightPath hit.model hit.hitPos hit.hitNormal)
      return hit.texColor * directColor) := by
  have divisor : wrap32 (hit.diffuseSample call + lightCount) = lightCount := by
    rw [unsampled, zero_add]
    exact wrap32_of_fits (by omega) fits
  have nonzero : (lightCount : K) ≠ 0 := Int.cast_ne_zero.mpr positive.ne'
  unfold diffuseColor diffuseLight
  rw [divisor]
  simp only [unsampled, lt_irrefl, if_false, pure_bind, Color.smul_div_cancel nonzero]

omit [IsStrictOrderedRing K] in
-- Two numbers of lights give such a call the same course.
theorem traceColorBody_unsampled {lightCount lightCount' : Int} (positive : 0 < lightCount)
    (fits : lightCount < 2 ^ 31) (positive' : 0 < lightCount') (fits' : lightCount' < 2 ^ 31)
    (trace : TraceCall K → Action σ (Stop Exn) (Color K)) {call : TraceCall K}
    (unsampled : NoDiffuse renderer call) :
    traceColorBody renderer random lightPath lightCount trace call =
      traceColorBody renderer random lightPath lightCount' trace call := by
  refine traceColorBody_congr Iff.rfl fun alive hit member => ?_
  show traceHit renderer random lightPath lightCount trace call hit =
    traceHit renderer random lightPath lightCount' trace call hit
  unfold traceHit
  rw [diffuseColor_unsampled random lightPath lightCount (unsampled alive hit member) positive fits,
    diffuseColor_unsampled random lightPath lightCount' (unsampled alive hit member) positive' fits']

/-- The run without a dark light is the run with it, but for the number of lights in the weights.
Where nothing is sampled at any hit, both end the same way. -/
theorem traceColor_without_dark (renderer : Renderer K) {before after : List (Light K)} {light : Light K}
    (lit : renderer.scene.lights = before ++ light :: after) (dark : light.intensity = 0)
    (others : before ++ after ≠ []) (fits : renderer.scene.lights.length < 2 ^ 31)
    (random : Random K σ) (shadowFuel fuel : Nat) (call : TraceCall K) :
    let without := renderer.withLights (before ++ after)
    let lightPath := renderer.getLightPathColor shadowFuel
    traceColor without random (without.getLightPathColor shadowFuel) fuel call =
        run (traceColorBody renderer random lightPath (renderer.scene.lights.length - 1)) fuel call ∧
      ∀ s result, result ≠ .error .fuel →
        (runWithin (NoDiffuse renderer)
          (traceColorBody renderer random lightPath renderer.scene.lights.length) fuel call).run s = result →
        (traceColor renderer random lightPath fuel call).run s = result ∧
          (traceColor without random (without.getLightPathColor shadowFuel) fuel call).run s = result := by
  intro without lightPath
  have count : ((before ++ after).length : Int) = renderer.scene.lights.length - 1 := by
    rw [lit]
    simp
    omega
  have reduced : traceColor without random (without.getLightPathColor shadowFuel) fuel call =
      run (traceColorBody renderer random lightPath (renderer.scene.lights.length - 1)) fuel call := by
    unfold traceColor
    rw [renderer.getLightPathColor_withLights, traceColorBody_without random _ _ lit dark]
    exact congrArg (fun lightCount => run (traceColorBody renderer random lightPath lightCount) fuel call) count
  refine ⟨reduced, fun s result ends ended => ?_⟩
  have remaining := List.length_pos_of_ne_nil others
  have congruent : runWithin (NoDiffuse renderer)
        (traceColorBody renderer random lightPath renderer.scene.lights.length) fuel call =
      runWithin (NoDiffuse renderer)
        (traceColorBody renderer random lightPath (renderer.scene.lights.length - 1)) fuel call := by
    apply runWithin_congr
    intro trace next unsampled
    exact traceColorBody_unsampled random lightPath (by omega) (by omega) (by omega) (by omega) trace unsampled
  constructor
  · exact (runWithin_approximates traceColorBody_monotone (NoDiffuse renderer) fuel call).ends ends ended
  · rw [reduced]
    rw [congruent] at ended
    exact (runWithin_approximates traceColorBody_monotone (NoDiffuse renderer) fuel call).ends ends ended

end

def sunlitPane : Renderer Rat :=
  .over Embree.closedSegment [plainPane 1 Color.white .Opaque Opaque.notAdditive] [sun 0, sun 1] Color.white

/-- One diffuse sample is divided by three with the dark light, and by two without it. -/
theorem traceColor_counts_dark_light :
    letI := Mathf.atUnits
    let without := sunlitPane.withLights [sun 1]
    let call : TraceCall Rat := ⟨0, ⟨0, 0, 1⟩, 1, 2⟩
    (sunlitPane.scene.lights = [sun 0, sun 1] ∧ (sun 0 : Light Rat).intensity = 0) ∧
    (traceColor sunlitPane Random.lowest (sunlitPane.getLightPathColor 1) 3 call).run () =
      .ok (⟨4 / 3, 4 / 3, 4 / 3, 7 / 3⟩, ()) ∧
    (traceColor without Random.lowest (without.getLightPathColor 1) 3 call).run () =
      .ok (⟨3 / 2, 3 / 2, 3 / 2, 5 / 2⟩, ()) :=
  ⟨⟨rfl, rfl⟩, by decide +kernel, by decide +kernel⟩

theorem traceColor_without_dark_unsampled :
    letI := Mathf.atUnits
    let without := sunlitPane.withLights [sun 1]
    (traceColor without Random.lowest (without.getLightPathColor 1) 3 ⟨0, ⟨0, 0, 1⟩, 0, 2⟩).run () =
      .ok (⟨1, 1, 1, 2⟩, ()) := by
  let := Mathf.atUnits
  have lit : sunlitPane.scene.lights = [] ++ sun 0 :: [sun 1] := rfl
  have unchanged := (traceColor_without_dark sunlitPane lit rfl (by simp) (by decide) Random.lowest 1 3
    ⟨0, ⟨0, 0, 1⟩, 0, 2⟩).2 () (.ok (⟨1, 1, 1, 2⟩, ())) (by simp) (by decide +kernel)
  exact unchanged.2

end RayTraceRenderer.Managed
