import RayTraceRenderer.Foundation.Recursion
import RayTraceRenderer.Managed.Scene

/-! The recursive methods of the renderer: TraceColor and GetLightPathColor.

Neither is bounded in the source, so both are run with a bound on the depth of
the recursion. TraceColor takes the answers to its shadow rays as a parameter,
which a bounded run of GetLightPathColor is one of. A shadow ray whose bound is
reached is a failure for TraceColor, not its own bound running out.
-/

set_option autoImplicit false

namespace RayTraceRenderer.Managed

open Unity Native Recursion

variable {K σ : Type} [Field K] [LinearOrder K] [FloorRing K]

def fresnelSchlick (inCosine normalReflectance : K) : K :=
  let oneMinusCos := 1 - inCosine
  let oneMinusCosSqr := oneMinusCos * oneMinusCos
  normalReflectance + (1 - normalReflectance) * oneMinusCosSqr * oneMinusCosSqr * oneMinusCos

/-! ## Shadow rays -/

abbrev LightPath (K : Type) [Field K] :=
  Vector3 K → Vector3 K → K → Except (Stop Exn) (Color K)

def Renderer.pointTexel (renderer : Renderer K) (ray : Ray K) : Except Exn (Color K) := do
  let surface ← renderer.scene.surface ray.geomID ray.primID ray.u ray.v
  surface.model.material.pointSample surface.uv

def Renderer.getLightPathColor (renderer : Renderer K) : Nat → LightPath K
  | 0, _, _, _ => .error .fuel
  | fuel + 1, pos, dir, length => do
    let ray := renderer.intersect pos dir length
    if ray.geomID = RTC_INVALID_GEOMETRY_ID then return Color.white
    else
      let hitPos := ray.pos + ray.length • ray.dir
      let texColor ← (renderer.pointTexel ray).mapError .error
      if texColor.a < 99 / 100 then
        let aheadColor ← renderer.getLightPathColor fuel hitPos ((1 / 100 : K) • dir) (length - ray.length)
        return (1 - texColor.a) • aheadColor + texColor.a • texColor
      else return Color.black

/-! ## Direct light -/

section
variable [Mathf K]
omit [FloorRing K]

def lightDir (light : Light K) (pos : Vector3 K) : Vector3 K :=
  if light.type = .directional then -light.transform.forward
  else (light.transform.position - pos).normalized

def lightLength (light : Light K) (pos : Vector3 K) : K :=
  if light.type = .directional then 10000
  else (light.transform.position - pos).magnitude + 1 / 100

def Renderer.lightPower (renderer : Renderer K) (light : Light K) (lightLength : K) : K :=
  if light.type = .directional then light.intensity
  else if renderer.lightRange then
    -- the quotient by a range of 0 is infinite in the source, and `d` is not above 0
    if light.range = 0 then 0
    else
      let d := 1 - lightLength / light.range
      if 0 < d then light.intensity * (d * d) else 0
  else light.intensity / (lightLength * lightLength)

def Renderer.addLight (renderer : Renderer K) (lightPath : LightPath K) (pos normal : Vector3 K)
    (finalLightColor : Color K) (light : Light K) : Except (Stop Exn) (Color K) := do
  let lightDir := lightDir light pos
  if 0 < lightDir.dot normal then
    let lightLength := lightLength light pos
    let power := renderer.lightPower light lightLength
    let lightColor := power • lightDir.dot normal • light.color
    if 4 / 1000 < lightColor.grayscale then
      let pathColor ← lightPath (pos + (1 / 100 : K) • lightDir) lightDir lightLength
      return finalLightColor + pathColor * lightColor
    else return finalLightColor
  else return finalLightColor

/-- The model is not read. -/
def Renderer.getAllLightsColor (renderer : Renderer K) (lightPath : LightPath K) (_model : SimpleModel K)
    (pos normal : Vector3 K) : Except (Stop Exn) (Color K) :=
  renderer.scene.lights.foldlM (renderer.addLight lightPath pos normal) Color.black

theorem Renderer.addLight_dark [IsStrictOrderedRing K] (renderer : Renderer K) (lightPath : LightPath K)
    (pos normal : Vector3 K) {light : Light K} (dark : light.intensity = 0) (finalLightColor : Color K) :
    renderer.addLight lightPath pos normal finalLightColor light = .ok finalLightColor := by
  have power : ∀ length, renderer.lightPower light length = 0 := by
    intro length
    unfold Renderer.lightPower
    simp only [dark, zero_mul, zero_div, ite_self]
  have bound : ¬ (4 / 1000 : K) < 0 := not_lt.mpr (by positivity)
  unfold Renderer.addLight
  simp only [power]
  split
  · rw [if_neg (by simpa [Color.grayscale] using bound)]
    rfl
  · rfl

theorem Renderer.addLights_dark [IsStrictOrderedRing K] (renderer : Renderer K) (lightPath : LightPath K)
    (pos normal : Vector3 K) {lights : List (Light K)} (dark : ∀ light ∈ lights, light.intensity = 0)
    (finalLightColor : Color K) :
    lights.foldlM (renderer.addLight lightPath pos normal) finalLightColor = .ok finalLightColor := by
  induction lights with
  | nil => rfl
  | cons light lights ih =>
    rw [List.foldlM_cons, renderer.addLight_dark lightPath pos normal (dark light List.mem_cons_self)]
    exact ih fun light member => dark light (List.mem_cons_of_mem _ member)

end

/-! ## What TraceColor knows of a hit -/

/-- The texture colour as the material changes it. -/
def Renderer.surfaceColor (renderer : Renderer K) (material : SimpleMaterialBase K) (sampled : Color K) :
    Color K :=
  let texColor := if renderer.ignoreMaterialColor then sampled else sampled * material.getColor
  if material.getRenderMode = .Opaque then { texColor with a := 1 } else texColor

structure HitInfo (K : Type) [Field K] where
  model : SimpleModel K
  texColor : Color K
  hitPos : Vector3 K
  hitNormal : Vector3 K

def Renderer.hitInfo (renderer : Renderer K) (ray : Ray K) : Except Exn (HitInfo K) := do
  let surface ← renderer.scene.surface ray.geomID ray.primID ray.u ray.v
  let model := surface.model
  let sampled ← model.material.linearSample surface.uv
  let texColor := renderer.surfaceColor model.material sampled
  let hitPos := ray.pos + ray.length • ray.dir
  let hitNormal := RayTraceTool.lerpVector3 (← arrayGet model.mesh.normals surface.t0)
    (← arrayGet model.mesh.normals surface.t1) (← arrayGet model.mesh.normals surface.t2) ray.u ray.v
  return { model, texColor, hitPos, hitNormal := model.rst.rot.rotate hitNormal }

-- What is known of a hit, in terms of what Embree found.
theorem Renderer.hitInfo_spec {renderer : Renderer K} {pos dir : Vector3 K} {length : K} {hit : Hit K}
    (found : renderer.closest pos dir length = some hit) {info : HitInfo K}
    (looked : renderer.hitInfo (renderer.intersect pos dir length) = .ok info) :
    ∃ surface sampled n0 n1 n2, renderer.scene.surfaceOf hit.toCrossing = .ok surface ∧
      surface.model.material.linearSample surface.uv = .ok sampled ∧
      (arrayGet surface.model.mesh.normals surface.t0 = .ok n0 ∧
        arrayGet surface.model.mesh.normals surface.t1 = .ok n1 ∧
        arrayGet surface.model.mesh.normals surface.t2 = .ok n2) ∧
      info =
        { model := surface.model
          texColor := renderer.surfaceColor surface.model.material sampled
          hitPos := pos + hit.t • dir
          hitNormal := surface.model.rst.rot.rotate (RayTraceTool.lerpVector3 n0 n1 n2 hit.v hit.u) } := by
  obtain ⟨⟨geomID, primID⟩, ⟨u, v⟩, -, point⟩ := renderer.intersect_hit found
  unfold Renderer.hitInfo at looked
  simp only [bind_eq_ok, geomID, primID, u, v, point] at looked
  rcases looked with ⟨surface, resolved, sampled, sampledOk, n0, found0, n1, found1, n2, found2, looked⟩
  exact ⟨surface, sampled, n0, n1, n2, resolved, sampledOk, ⟨found0, found1, found2⟩, (Except.ok.inj looked).symm⟩

theorem Renderer.hitInfo_of_surface {renderer : Renderer K} {pos dir : Vector3 K} {length : K} {hit : Hit K}
    (found : renderer.closest pos dir length = some hit) {surface : Surface K} {sampled : Color K}
    {n0 n1 n2 : Vector3 K} (resolved : renderer.scene.surfaceOf hit.toCrossing = .ok surface)
    (texel : surface.model.material.linearSample surface.uv = .ok sampled)
    (normal0 : arrayGet surface.model.mesh.normals surface.t0 = .ok n0)
    (normal1 : arrayGet surface.model.mesh.normals surface.t1 = .ok n1)
    (normal2 : arrayGet surface.model.mesh.normals surface.t2 = .ok n2) :
    renderer.hitInfo (renderer.intersect pos dir length) = .ok
      { model := surface.model
        texColor := renderer.surfaceColor surface.model.material sampled
        hitPos := pos + hit.t • dir
        hitNormal := surface.model.rst.rot.rotate (RayTraceTool.lerpVector3 n0 n1 n2 hit.v hit.u) } := by
  obtain ⟨⟨geomID, primID⟩, ⟨u, v⟩, -, point⟩ := renderer.intersect_hit found
  unfold SimpleScene.surfaceOf at resolved
  unfold Renderer.hitInfo
  rw [geomID, primID, u, v, point, resolved]
  simp only [bind, Except.bind, texel, normal0, normal1, normal2]
  rfl

structure TraceCall (K : Type) where
  startPos : Vector3 K
  rayDir : Vector3 K
  sample : Int
  depth : Int

namespace HitInfo

variable (hit : HitInfo K) (call : TraceCall K)

def transFactor : K := 1 - hit.texColor.a

def normalReflectance : K :=
  Mathf.lerp (2 / 10 * hit.model.material.glossiness) 1 hit.model.material.metallic

def reflectFactor : K :=
  if 1 / 100 < hit.normalReflectance then
    fresnelSchlick ((-call.rayDir).dot hit.hitNormal) hit.normalReflectance
  else hit.normalReflectance

def diffuseFactor : K := Mathf.clamp01 (1 - hit.transFactor - hit.reflectFactor call)

def transSample : Int := castInt (call.sample * hit.texColor.grayscale * hit.transFactor)

def reflectSample : Int := castInt (call.sample * hit.reflectFactor call)

def diffuseSample : Int := castInt (call.sample * hit.texColor.grayscale * hit.diffuseFactor call)

/-- The colour behind a hit, laid under it. -/
def blend (finaleColor transColor : Color K) : Color K :=
  match hit.model.material.getRenderMode with
  | .Alphablend => hit.texColor.a • finaleColor + (1 - hit.texColor.a) • transColor
  | .Multiply => finaleColor * transColor
  | .Additive => finaleColor + transColor
  | .Opaque => finaleColor

/-- The call for a secondary ray, which leaves from above the surface. -/
def bounce (dir : Vector3 K) : TraceCall K where
  startPos := hit.hitPos + (1 / 100 : K) • hit.hitNormal
  rayDir := dir
  sample := 1
  depth := call.depth - 1

/-- The call for the transmitted ray, which leaves from behind the surface. -/
def transmit : TraceCall K where
  startPos := hit.hitPos + (1 / 100 : K) • call.rayDir
  rayDir := call.rayDir
  sample := hit.transSample call
  depth := call.depth

end HitInfo

def hitOf (renderer : Renderer K) (call : TraceCall K) : Option (HitInfo K) :=
  (renderer.closest call.startPos call.rayDir 1000).bind fun _ =>
    (renderer.hitInfo (renderer.intersect call.startPos call.rayDir 1000)).toOption

theorem mem_hitOf_iff {renderer : Renderer K} {call : TraceCall K} {hit : HitInfo K} :
    hit ∈ hitOf renderer call ↔ ∃ found, renderer.closest call.startPos call.rayDir 1000 = some found ∧
      renderer.hitInfo (renderer.intersect call.startPos call.rayDir 1000) = .ok hit := by
  unfold hitOf
  rw [Option.mem_def, Option.bind_eq_some_iff]
  cases renderer.hitInfo (renderer.intersect call.startPos call.rayDir 1000) <;> simp [Except.toOption]

/-! ## TraceColor -/

section
variable [Mathf K] (renderer : Renderer K) (random : Random K σ) (lightPath : LightPath K)
  (lightCount : Int) (trace : TraceCall K → Action σ (Stop Exn) (Color K))

def gather (hit : HitInfo K) (call : TraceCall K) (dirs : List (Vector3 K)) (finalLightColor : Color K) :
    Action σ (Stop Exn) (Color K) :=
  dirs.foldlM (fun finalLightColor dir => return finalLightColor + (← trace (hit.bounce call dir)))
    finalLightColor

def reflectedLight (hit : HitInfo K) (call : TraceCall K) : Action σ (Stop Exn) (Color K) := do
  let reflectSample := hit.reflectSample call
  if 0 < reflectSample then
    let reflectDir := call.rayDir.reflect hit.hitNormal
    let dirs ← liftState (RayTraceTool.getRandomDirsBlinnPhongImportance2 random hit.hitNormal reflectDir
      hit.model.material.glossiness reflectSample)
    let finalLightColor ← gather trace hit call dirs Color.black
    return finalLightColor.div reflectSample
  else return Color.black

def reflectColor (hit : HitInfo K) (call : TraceCall K) : Action σ (Stop Exn) (Color K) := do
  let finalLightColor ← reflectedLight random trace hit call
  return Color.lerp Color.white hit.texColor hit.model.material.metallic * finalLightColor

def diffuseLight (hit : HitInfo K) (call : TraceCall K) (finalLightColor : Color K) :
    Action σ (Stop Exn) (Color K) := do
  let diffuseSample := hit.diffuseSample call
  if 0 < diffuseSample then
    let dirs ← liftState (RayTraceTool.getRandomDirsRoundProj random hit.hitNormal diffuseSample)
    gather trace hit call dirs finalLightColor
  else return finalLightColor

/-- The light count is a parameter here; the source has `scene.lights.Length` in both places. -/
def diffuseColor (hit : HitInfo K) (call : TraceCall K) : Action σ (Stop Exn) (Color K) := do
  let divisor : K := wrap32 (hit.diffuseSample call + lightCount)
  let directColor ← lift (renderer.getAllLightsColor lightPath hit.model hit.hitPos hit.hitNormal)
  let finalLightColor ← diffuseLight random trace hit call (divisor • directColor)
  return hit.texColor * finalLightColor.div divisor

/-- TraceColor from the point on where the hit is known. -/
def traceHit (call : TraceCall K) (hit : HitInfo K) : Action σ (Stop Exn) (Color K) := do
  let reflectColor ← reflectColor random trace hit call
  let diffuseColor ← diffuseColor renderer random lightPath lightCount trace hit call
  let finaleColor := hit.reflectFactor call • reflectColor + hit.diffuseFactor call • diffuseColor
  if hit.texColor.a < 99 / 100 then
    let transColor ← trace (hit.transmit call)
    return hit.blend finaleColor transColor
  else return finaleColor

def traceColorBody (call : TraceCall K) : Action σ (Stop Exn) (Color K) := do
  if call.depth ≤ 0 then return Color.black
  else
    let ray := renderer.intersect call.startPos call.rayDir 1000
    if ray.geomID = RTC_INVALID_GEOMETRY_ID then return renderer.skyColor
    else
      let hit ← lift ((renderer.hitInfo ray).mapError .error)
      traceHit renderer random lightPath lightCount trace call hit

def traceColor (fuel : Nat) (call : TraceCall K) : Action σ (Stop Exn) (Color K) :=
  run (traceColorBody renderer random lightPath renderer.scene.lights.length) fuel call

/-! ### Calls that differ in depth -/

def TraceCall.atDepth (call : TraceCall K) (depth : Int) : TraceCall K := { call with depth }

section
variable {trace' : TraceCall K → Action σ (Stop Exn) (Color K)} {hit : HitInfo K} {call : TraceCall K}
  {depth : Int} {renderer random lightPath trace} {lightCount lightCount' : Int}

omit [FloorRing K] [LinearOrder K] [Mathf K] in
theorem gather_congr
    (bounced : ∀ dir, trace (hit.bounce call dir) = trace' (hit.bounce (call.atDepth depth) dir))
    (dirs : List (Vector3 K)) (color : Color K) :
    gather trace hit call dirs color = gather trace' hit (call.atDepth depth) dirs color := by
  unfold gather
  simp only [bounced]

theorem reflectColor_congr (bounced : 0 < hit.reflectSample call →
    ∀ dir, trace (hit.bounce call dir) = trace' (hit.bounce (call.atDepth depth) dir)) :
    reflectColor random trace hit call = reflectColor random trace' hit (call.atDepth depth) := by
  have count : hit.reflectSample (call.atDepth depth) = hit.reflectSample call := rfl
  unfold reflectColor reflectedLight
  rw [count]
  by_cases sampled : 0 < hit.reflectSample call
  · simp only [sampled, if_true, gather_congr (bounced sampled)]
    rfl
  · simp only [sampled, if_false]

theorem diffuseColor_congr (bounced : 0 < hit.diffuseSample call →
    ∀ dir, trace (hit.bounce call dir) = trace' (hit.bounce (call.atDepth depth) dir)) :
    diffuseColor renderer random lightPath lightCount trace hit call =
      diffuseColor renderer random lightPath lightCount trace' hit (call.atDepth depth) := by
  have count : hit.diffuseSample (call.atDepth depth) = hit.diffuseSample call := rfl
  unfold diffuseColor diffuseLight
  rw [count]
  by_cases sampled : 0 < hit.diffuseSample call
  · simp only [sampled, if_true, gather_congr (bounced sampled)]
  · simp only [sampled, if_false]

-- What is made of a hit depends on the rays that its counts and its alpha spawn, and on no others.
theorem traceHit_congr
    (bounced : 0 < hit.reflectSample call ∨ 0 < hit.diffuseSample call →
      ∀ dir, trace (hit.bounce call dir) = trace' (hit.bounce (call.atDepth depth) dir))
    (passed : trace (hit.transmit call) = trace' (hit.transmit (call.atDepth depth))) :
    traceHit renderer random lightPath lightCount trace call hit =
      traceHit renderer random lightPath lightCount trace' (call.atDepth depth) hit := by
  unfold traceHit
  rw [reflectColor_congr fun sampled => bounced (.inl sampled),
    diffuseColor_congr fun sampled => bounced (.inr sampled), passed]
  rfl

-- Two calls of one ray, neither or both with depth left, are the same if they are at its hit.
theorem traceColorBody_congr (alive : 0 < call.depth ↔ 0 < depth)
    (same : 0 < call.depth → ∀ hit ∈ hitOf renderer call,
      traceHit renderer random lightPath lightCount trace call hit =
        traceHit renderer random lightPath lightCount' trace' (call.atDepth depth) hit) :
    traceColorBody renderer random lightPath lightCount trace call =
      traceColorBody renderer random lightPath lightCount' trace' (call.atDepth depth) := by
  unfold traceColorBody
  by_cases shallow : call.depth ≤ 0
  · rw [if_pos shallow, if_pos (show (call.atDepth depth).depth ≤ 0 by simp only [TraceCall.atDepth]; omega)]
  · rw [if_neg shallow,
      if_neg (show ¬ (call.atDepth depth).depth ≤ 0 by simp only [TraceCall.atDepth]; omega)]
    simp only [TraceCall.atDepth, renderer.intersect_invalid_iff]
    cases found : renderer.closest call.startPos call.rayDir 1000 with
    | none => simp only [if_true]
    | some reported =>
      simp only [reduceCtorEq, if_false]
      cases looked : renderer.hitInfo (renderer.intersect call.startPos call.rayDir 1000) with
      | error why => rfl
      | ok hit => exact same (not_le.mp shallow) hit (mem_hitOf_iff.mpr ⟨reported, found, looked⟩)

end

/-! ### More values from the calls -/

section
variable {trace' : TraceCall K → Action σ (Stop Exn) (Color K)} {hit : HitInfo K} {call : TraceCall K}
  {renderer random lightPath lightCount trace}

omit [FloorRing K] [LinearOrder K] [Mathf K] in
theorem gather_monotone (agree : ∀ next, Approximates (trace next) (trace' next)) (dirs : List (Vector3 K))
    (color : Color K) :
    Approximates (gather trace hit call dirs color) (gather trace' hit call dirs color) := by
  apply Approximates.foldlM
  intro acc dir
  exact (agree _).bind fun _ => .refl _

theorem reflectColor_monotone (agree : ∀ next, Approximates (trace next) (trace' next)) :
    Approximates (reflectColor random trace hit call) (reflectColor random trace' hit call) := by
  unfold reflectColor reflectedLight
  refine Approximates.bind ?_ fun _ => .refl _
  by_cases sampled : 0 < hit.reflectSample call
  · simp only [sampled, if_true]
    exact (Approximates.refl _).bind fun dirs => (gather_monotone agree dirs _).bind fun _ => .refl _
  · simp only [sampled, if_false]
    exact .refl _

theorem diffuseColor_monotone (agree : ∀ next, Approximates (trace next) (trace' next)) :
    Approximates (diffuseColor renderer random lightPath lightCount trace hit call)
      (diffuseColor renderer random lightPath lightCount trace' hit call) := by
  unfold diffuseColor diffuseLight
  refine (Approximates.refl _).bind fun directColor => Approximates.bind ?_ fun _ => .refl _
  by_cases sampled : 0 < hit.diffuseSample call
  · simp only [sampled, if_true]
    exact (Approximates.refl _).bind fun dirs => gather_monotone agree dirs _
  · simp only [sampled, if_false]
    exact .refl _

theorem traceColorBody_monotone :
    Monotone (traceColorBody renderer random lightPath lightCount) := by
  intro trace trace' agree call
  unfold traceColorBody
  by_cases shallow : call.depth ≤ 0
  · simp only [shallow, if_true]
    exact .refl _
  · by_cases missed : (renderer.intersect call.startPos call.rayDir 1000).geomID = RTC_INVALID_GEOMETRY_ID
    · simp only [shallow, if_false, missed, if_true]
      exact .refl _
    · simp only [shallow, if_false, missed]
      apply (Approximates.refl _).bind
      intro hit
      unfold traceHit
      refine (reflectColor_monotone agree).bind fun _ => (diffuseColor_monotone agree).bind fun _ => ?_
      by_cases passes : hit.texColor.a < 99 / 100
      · simp only [passes, if_true]
        exact (agree _).bind fun _ => .refl _
      · simp only [passes, if_false]
        exact .refl _

end

end

end RayTraceRenderer.Managed
