import RayTraceRenderer.Managed.Tracing

/-! What every colour that TraceColor returns satisfies, and why it can stop.

The colours are made of black, the sky and the direct light by sums, products, weights and
quotients. A condition that these keep holds of every result, at any bound on the recursion, as
long as the divisors are admitted ones.
-/

set_option autoImplicit false

namespace RayTraceRenderer.Managed

open Unity Native Recursion

variable {K σ : Type} [Field K] [LinearOrder K]

/-- A condition on colours that sums keep, products with any colour, and admitted quotients. -/
structure Ideal (divides : K → Prop) (post : Color K → Prop) : Prop where
  black : post Color.black
  add : ∀ {first second}, post first → post second → post (first + second)
  mul : ∀ {color}, post color → ∀ factor, post (factor * color)
  smul : ∀ {color}, post color → ∀ weight : K, post (weight • color)
  div : ∀ {color}, post color → ∀ {divisor : K}, divides divisor → post (color.div divisor)

/-- The calls that a hit spawns satisfy a condition, and what it divides by is admitted. -/
structure Spawned [FloorRing K] (pre : TraceCall K → Prop) (divides : K → Prop) (lightCount : Int)
    (call : TraceCall K) (hit : HitInfo K) : Prop where
  bounce : ∀ dir, pre (hit.bounce call dir)
  transmit : pre (hit.transmit call)
  reflected : 0 < hit.reflectSample call → divides (hit.reflectSample call)
  diffuse : divides (wrap32 (hit.diffuseSample call + lightCount))

section
variable [FloorRing K] [Mathf K] {renderer : Renderer K} {random : Random K σ} {lightPath : LightPath K}
  {lightCount : Int} {trace : TraceCall K → Action σ (Stop Exn) (Color K)} {call : TraceCall K} {hit : HitInfo K}
  {pre : TraceCall K → Prop} {divides : K → Prop} {post : Color K → Prop} {stopped : Stop (Stop Exn) → Prop}

omit [LinearOrder K] [FloorRing K] [Mathf K] in
theorem gather_ends (ideal : Ideal divides post) (traced : ∀ dir, Ends (trace (hit.bounce call dir)) post stopped)
    (dirs : List (Vector3 K)) (color : Color K) (start : post color) :
    Ends (gather trace hit call dirs color) post stopped := by
  refine Ends.foldlM (fun _ acc => post acc) dirs ?_ color start
  intro _ dir _ _ acc kept
  exact (traced dir).bind fun _ traced => .pure (ideal.add kept traced)

theorem reflectColor_ends (ideal : Ideal divides post) (spawned : Spawned pre divides lightCount call hit)
    (traced : ∀ next, pre next → Ends (trace next) post stopped) :
    Ends (reflectColor random trace hit call) post stopped := by
  have light : Ends (reflectedLight random trace hit call) post stopped := by
    unfold reflectedLight
    by_cases sampled : 0 < hit.reflectSample call
    · simp only [sampled, if_true]
      refine .liftState_bind fun dirs => ?_
      refine (gather_ends ideal (fun dir => traced _ (spawned.bounce dir)) dirs _ ideal.black).bind fun _ gathered => ?_
      exact .pure (ideal.div gathered (spawned.reflected sampled))
    · simp only [sampled, if_false]
      exact .pure ideal.black
  exact light.bind fun _ lit => .pure (ideal.mul lit _)

/-- The direct light of every hit satisfies the condition, or stops the call. -/
def DirectLight (renderer : Renderer K) (lightPath : LightPath K) (post : Color K → Prop)
    (stopped : Stop (Stop Exn) → Prop) : Prop :=
  ∀ model pos normal,
    (∀ color, renderer.getAllLightsColor lightPath model pos normal = .ok color → post color) ∧
    ∀ why, renderer.getAllLightsColor lightPath model pos normal = .error why → stopped (.error why)

theorem diffuseColor_ends (ideal : Ideal divides post) (direct : DirectLight renderer lightPath post stopped)
    (spawned : Spawned pre divides lightCount call hit) (traced : ∀ next, pre next → Ends (trace next) post stopped) :
    Ends (diffuseColor renderer random lightPath lightCount trace hit call) post stopped := by
  unfold diffuseColor
  obtain ⟨lit, failing⟩ := direct hit.model hit.hitPos hit.hitNormal
  refine (Ends.lift lit failing).bind fun directColor lit => ?_
  have light : Ends (diffuseLight random trace hit call
      ((wrap32 (hit.diffuseSample call + lightCount) : K) • directColor)) post stopped := by
    unfold diffuseLight
    by_cases sampled : 0 < hit.diffuseSample call
    · simp only [sampled, if_true]
      exact .liftState_bind fun dirs =>
        gather_ends ideal (fun dir => traced _ (spawned.bounce dir)) dirs _ (ideal.smul lit _)
    · simp only [sampled, if_false]
      exact .pure (ideal.smul lit _)
  exact light.bind fun _ lit => .pure (ideal.mul (ideal.div lit spawned.diffuse) _)

omit [LinearOrder K] [FloorRing K] [Mathf K] in
theorem blend_ideal (ideal : Ideal divides post) {finaleColor transColor : Color K} (finale : post finaleColor)
    (trans : post transColor) : post (hit.blend finaleColor transColor) := by
  unfold HitInfo.blend
  cases hit.model.material.getRenderMode with
  | Opaque => exact finale
  | Alphablend => exact ideal.add (ideal.smul finale _) (ideal.smul trans _)
  | Multiply => exact ideal.mul trans _
  | Additive => exact ideal.add finale trans

theorem traceHit_ends (ideal : Ideal divides post) (direct : DirectLight renderer lightPath post stopped)
    (spawned : Spawned pre divides lightCount call hit) (traced : ∀ next, pre next → Ends (trace next) post stopped) :
    Ends (traceHit renderer random lightPath lightCount trace call hit) post stopped := by
  unfold traceHit
  refine (reflectColor_ends ideal spawned traced).bind fun reflectColor reflected => ?_
  refine (diffuseColor_ends ideal direct spawned traced).bind fun diffuseColor diffused => ?_
  have finale := ideal.add (ideal.smul reflected (hit.reflectFactor call)) (ideal.smul diffused (hit.diffuseFactor call))
  by_cases passes : hit.texColor.a < 99 / 100
  · simp only [passes, if_true]
    exact (traced _ spawned.transmit).bind fun _ trans => .pure (blend_ideal ideal finale trans)
  · simp only [passes, if_false]
    exact .pure finale

/-- Whatever the bound, TraceColor returns a colour that satisfies the condition, or stops for one of
the reasons: the bound, a lookup that throws, or the direct light. The calls are those of a
condition that every hit hands on. -/
theorem traceColor_ends (ideal : Ideal divides post) (sky : post renderer.skyColor)
    (direct : DirectLight renderer lightPath post stopped) (bounded : stopped .fuel)
    (spawns : ∀ call, pre call → ∀ hit ∈ hitOf renderer call, Spawned pre divides renderer.scene.lights.length call hit)
    (looked : ∀ startPos rayDir hit, renderer.closest startPos rayDir 1000 = some hit → ∀ why,
      renderer.hitInfo (renderer.intersect startPos rayDir 1000) = .error why → stopped (.error (.error why)))
    (fuel : Nat) {call : TraceCall K} (start : pre call) :
    Ends (traceColor renderer random lightPath fuel call) post stopped := by
  refine Ends.run pre bounded ?_ fuel start
  intro trace traced call holds
  unfold traceColorBody
  by_cases shallow : call.depth ≤ 0
  · simp only [shallow, if_true]
    exact .pure ideal.black
  · simp only [shallow, if_false, renderer.intersect_invalid_iff]
    cases found : renderer.closest call.startPos call.rayDir 1000 with
    | none => exact .pure sky
    | some reported =>
      simp only [reduceCtorEq, if_false]
      cases result : renderer.hitInfo (renderer.intersect call.startPos call.rayDir 1000) with
      | error why => exact fun _ => looked call.startPos call.rayDir reported found why result
      | ok hit =>
        have spawned := spawns call holds hit (mem_hitOf_iff.mpr ⟨reported, found, result⟩)
        exact Ends.lift_bind rfl (traceHit_ends ideal direct spawned traced)

end

end RayTraceRenderer.Managed
