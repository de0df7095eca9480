import RayTraceRenderer.Managed.Tracing
import Mathlib.Data.Rat.Floor

/-! Energy: without light sources, no colour exceeds what the sky and the surfaces have.

At a hit the weights of the reflected and the diffuse part add up to at most one as
long as the Fresnel reflectance stays an amount of energy. Fresnel_Schlick is given
the cosine as it is, and seen from behind that cosine is negative.
-/

set_option autoImplicit false

namespace RayTraceRenderer.Managed

open Unity Native Recursion

variable {K σ : Type} [Field K] [LinearOrder K] [IsStrictOrderedRing K]

/-! ## The Fresnel reflectance -/

omit [LinearOrder K] [IsStrictOrderedRing K] in
-- The fifth power that Fresnel_Schlick weighs the missing reflectance with.
theorem fresnelSchlick_eq (inCosine normalReflectance : K) :
    fresnelSchlick inCosine normalReflectance =
      normalReflectance + (1 - normalReflectance) * (1 - inCosine) ^ 5 := by
  simp only [fresnelSchlick]
  ring

theorem le_fresnelSchlick {inCosine normalReflectance : K} (le_one : normalReflectance ≤ 1)
    (cosine : inCosine ≤ 1) : normalReflectance ≤ fresnelSchlick inCosine normalReflectance := by
  rw [fresnelSchlick_eq]
  have power : 0 ≤ (1 - inCosine) ^ 5 := pow_nonneg (sub_nonneg.mpr cosine) 5
  have missing : 0 ≤ 1 - normalReflectance := sub_nonneg.mpr le_one
  linarith [mul_nonneg missing power]

-- The reflectance is an amount of energy exactly for a cosine of the front side.
theorem fresnelSchlick_le_one_iff {inCosine normalReflectance : K} (incomplete : normalReflectance < 1)
    (cosine : inCosine ≤ 1) : fresnelSchlick inCosine normalReflectance ≤ 1 ↔ 0 ≤ inCosine := by
  rw [fresnelSchlick_eq]
  have missing : 0 < 1 - normalReflectance := sub_pos.mpr incomplete
  have base : 0 ≤ 1 - inCosine := sub_nonneg.mpr cosine
  constructor
  · intro bounded
    have weighed : (1 - normalReflectance) * (1 - inCosine) ^ 5 ≤ (1 - normalReflectance) * 1 := by linarith
    have power := le_of_mul_le_mul_left weighed missing
    have root := (pow_le_one_iff_of_nonneg base (by norm_num)).mp power
    linarith
  · intro front
    have power : (1 - inCosine) ^ 5 ≤ 1 := pow_le_one₀ base (by linarith)
    linarith [mul_le_mul_of_nonneg_left power missing.le]

/-! ## The weights of a hit -/

def InUnit (value : K) : Prop := 0 ≤ value ∧ value ≤ 1

structure HitBounds (hit : HitInfo K) (call : TraceCall K) : Prop where
  color : hit.texColor.Within 1
  alpha : InUnit hit.texColor.a
  reflectance : InUnit hit.normalReflectance
  cosine : (-call.rayDir).dot hit.hitNormal ≤ 1

/-- The material reflects next to nothing or everything, or the hit is on the front side. -/
def FrontOrPlain (hit : HitInfo K) (call : TraceCall K) : Prop :=
  hit.normalReflectance ≤ 1 / 100 ∨ hit.normalReflectance = 1 ∨ 0 ≤ (-call.rayDir).dot hit.hitNormal

variable {hit : HitInfo K} {call : TraceCall K}

theorem normalReflectance_mem (gloss : InUnit hit.model.material.glossiness) :
    InUnit hit.normalReflectance := by
  obtain ⟨nonneg, le_one⟩ := Mathf.clamp01_mem hit.model.material.metallic
  rcases gloss with ⟨gloss_nonneg, gloss_le⟩
  unfold HitInfo.normalReflectance Mathf.lerp
  constructor
  · nlinarith
  · nlinarith

-- An interpolated normal is no longer than the vertex normals, and a rotation keeps that.
theorem hitNormal_short {n0 n1 n2 : Vector3 K} {u v : K} {rot : Unity.Quaternion K} (unit : rot.IsUnit)
    (inside : 0 ≤ u ∧ 0 ≤ v ∧ u + v ≤ 1) (unit0 : n0.dot n0 = 1) (unit1 : n1.dot n1 = 1)
    (unit2 : n2.dot n2 = 1) :
    (rot.rotate (RayTraceTool.lerpVector3 n0 n1 n2 u v)).dot
      (rot.rotate (RayTraceTool.lerpVector3 n0 n1 n2 u v)) ≤ 1 := by
  rcases inside with ⟨u_nonneg, v_nonneg, total⟩
  rw [Unity.Quaternion.dot_rotate unit]
  exact Vector3.dot_combine_le_one (by linarith) u_nonneg v_nonneg (by ring) unit0.le unit1.le unit2.le

theorem reflectFactor_nonneg (bounds : HitBounds hit call) : 0 ≤ hit.reflectFactor call := by
  unfold HitInfo.reflectFactor
  split
  · exact bounds.reflectance.1.trans (le_fresnelSchlick bounds.reflectance.2 bounds.cosine)
  · exact bounds.reflectance.1

-- The weight of the reflected part is an amount of energy exactly on the front side, or where
-- Fresnel_Schlick has nothing to add.
theorem reflectFactor_le_one_iff (bounds : HitBounds hit call) :
    hit.reflectFactor call ≤ 1 ↔ FrontOrPlain hit call := by
  unfold HitInfo.reflectFactor FrontOrPlain
  by_cases glossy : 1 / 100 < hit.normalReflectance
  · simp only [glossy, if_true, not_le.mpr glossy, false_or]
    by_cases mirror : hit.normalReflectance = 1
    · simp [mirror, fresnelSchlick]
    · simp only [mirror, false_or]
      exact fresnelSchlick_le_one_iff (lt_of_le_of_ne bounds.reflectance.2 mirror) bounds.cosine
  · simp only [glossy, if_false, not_lt.mp glossy, true_or, iff_true]
    exact bounds.reflectance.2

/-! ## Scenes without light -/

section
variable [FloorRing K]

/-- No light shines, and every colour and factor is an amount of energy. The alpha that a
sample has on an opaque material is not read. -/
structure Unlit (renderer : Renderer K) : Prop where
  lights : renderer.scene.lights ≠ []
  intensity : ∀ light ∈ renderer.scene.lights, light.intensity = 0
  sky : renderer.skyColor.Within 1
  sampled : ∀ model ∈ renderer.scene.models, ∀ uv color, model.material.linearSample uv = .ok color →
    color.Within 1 ∧ (model.material.getRenderMode ≠ .Opaque → InUnit color.a)
  tint : ∀ model ∈ renderer.scene.models, model.material.getColor.Within 1 ∧ InUnit model.material.getColor.a
  glossiness : ∀ model ∈ renderer.scene.models, InUnit model.material.glossiness
  normals : ∀ model ∈ renderer.scene.models, ∀ normal ∈ model.mesh.normals, normal.dot normal = 1
  rotation : ∀ model ∈ renderer.scene.models, model.rst.rot.IsUnit

variable {renderer : Renderer K}

theorem surfaceColor_within (renderer : Renderer K) {material : SimpleMaterialBase K} {sampled : Color K}
    (sampledIn : sampled.Within 1) (sampledAlpha : material.getRenderMode ≠ .Opaque → InUnit sampled.a)
    (tintIn : material.getColor.Within 1) (tintAlpha : InUnit material.getColor.a) :
    (renderer.surfaceColor material sampled).Within 1 ∧ InUnit (renderer.surfaceColor material sampled).a := by
  have colorIn : (if renderer.ignoreMaterialColor then sampled else sampled * material.getColor).Within 1 := by
    split
    · exact sampledIn
    · exact sampledIn.mul tintIn
  unfold Renderer.surfaceColor
  by_cases solid : material.getRenderMode = .Opaque
  · simp only [solid, if_true]
    exact ⟨⟨colorIn.r, colorIn.g, colorIn.b⟩, zero_le_one, le_rfl⟩
  · simp only [solid, if_false]
    refine ⟨colorIn, ?_⟩
    have alpha := sampledAlpha solid
    split
    · exact alpha
    · exact ⟨mul_nonneg alpha.1 tintAlpha.1, mul_le_one₀ alpha.2 tintAlpha.1 tintAlpha.2⟩

theorem texColor_within
    (sampled : ∀ model ∈ renderer.scene.models, ∀ uv color, model.material.linearSample uv = .ok color →
      color.Within 1 ∧ (model.material.getRenderMode ≠ .Opaque → InUnit color.a))
    (tint : ∀ model ∈ renderer.scene.models,
      model.material.getColor.Within 1 ∧ InUnit model.material.getColor.a) {found : Hit K}
    (closest : renderer.closest call.startPos call.rayDir 1000 = some found)
    (looked : renderer.hitInfo (renderer.intersect call.startPos call.rayDir 1000) = .ok hit) :
    hit.texColor.Within 1 ∧ InUnit hit.texColor.a := by
  obtain ⟨surface, color, n0, n1, n2, resolved, sampledOk, -, rfl⟩ := renderer.hitInfo_spec closest looked
  have model := SimpleScene.surface_model_mem resolved
  obtain ⟨sampledIn, sampledAlpha⟩ := sampled _ model _ _ sampledOk
  obtain ⟨tintIn, tintAlpha⟩ := tint _ model
  exact surfaceColor_within renderer sampledIn sampledAlpha tintIn tintAlpha

theorem hitBounds (unlit : Unlit renderer) (inside : renderer.embree.HitsInside)
    (short : call.rayDir.dot call.rayDir ≤ 1) {found : Hit K}
    (closest : renderer.closest call.startPos call.rayDir 1000 = some found)
    (looked : renderer.hitInfo (renderer.intersect call.startPos call.rayDir 1000) = .ok hit) :
    HitBounds hit call := by
  obtain ⟨color, alpha⟩ := texColor_within unlit.sampled unlit.tint closest looked
  obtain ⟨surface, sampled, n0, n1, n2, resolved, -, ⟨found0, found1, found2⟩, rfl⟩ :=
    renderer.hitInfo_spec closest looked
  have model := SimpleScene.surface_model_mem resolved
  obtain ⟨u_nonneg, v_nonneg, total⟩ := inside _ _ _ closest
  refine ⟨color, alpha, normalReflectance_mem (unlit.glossiness _ model), ?_⟩
  apply Vector3.dot_le_one
  · rwa [Vector3.dot_neg_neg]
  · exact hitNormal_short (unlit.rotation _ model) ⟨v_nonneg, u_nonneg, by linarith⟩
      (unlit.normals _ model _ (arrayGet_mem found0)) (unlit.normals _ model _ (arrayGet_mem found1))
      (unlit.normals _ model _ (arrayGet_mem found2))

/-! ## One call -/

variable [Mathf K] {random : Random K σ} {lightPath : LightPath K}
  {trace : TraceCall K → Action σ (Stop Exn) (Color K)}

theorem getAllLightsColor_unlit (unlit : Unlit renderer) (model : SimpleModel K) (pos normal : Vector3 K) :
    renderer.getAllLightsColor lightPath model pos normal = .ok Color.black :=
  renderer.addLights_dark lightPath pos normal unlit.intensity Color.black

omit [FloorRing K] [Mathf K] in
theorem gather_within (traced : ∀ next, Returns (trace next) fun color => color.Within 1)
    (dirs : List (Vector3 K)) {start : Color K} (dark : start.Within 0) :
    Returns (gather trace hit call dirs start) fun color => color.Within (dirs.length : K) := by
  unfold gather
  refine (Returns.foldlM (fun rest color => color.Within ((dirs.length : K) - (rest.length : K))) ?_
    dirs start (by simpa using dark)).mono (by simp)
  intro dir rest color soFar
  refine (traced _).bind fun bounced inside => .pure ?_
  refine (soFar.add inside).mono ?_
  rw [List.length_cons]
  push_cast
  linarith

-- The reflected part is an average; without samples there is none.
theorem reflectColor_within
    (metal : (Color.lerp Color.white hit.texColor hit.model.material.metallic).Within 1)
    (traced : ∀ next, Returns (trace next) fun color => color.Within 1) :
    Returns (reflectColor random trace hit call) fun color =>
      color.Within 1 ∧ (hit.reflectSample call ≤ 0 → color.Within 0) := by
  unfold reflectColor
  have light : Returns (reflectedLight random trace hit call) fun color =>
      color.Within 1 ∧ (hit.reflectSample call ≤ 0 → color.Within 0) := by
    unfold reflectedLight
    by_cases sampled : 0 < hit.reflectSample call
    · simp only [sampled, if_true]
      have drawn : Returns (liftState (RayTraceTool.getRandomDirsBlinnPhongImportance2 random hit.hitNormal
          (call.rayDir.reflect hit.hitNormal) hit.model.material.glossiness (hit.reflectSample call)) :
            Action σ (Stop Exn) _) fun dirs => dirs.length = (hit.reflectSample call).toNat :=
        .liftState fun s => RayTraceTool.length_getRandomDirsBlinnPhongImportance2 random _ _ _ _ s
      refine drawn.bind fun dirs count => ?_
      refine (gather_within traced dirs (Color.within_black le_rfl)).bind fun sum inside => .pure ⟨?_, ?_⟩
      · have positive : (0 : K) < hit.reflectSample call := Int.cast_pos.mpr sampled
        refine inside.div positive ?_
        rw [count]
        exact_mod_cast (Int.toNat_of_nonneg sampled.le).le
      · intro unsampled
        exact absurd sampled (not_lt.mpr unsampled)
    · simp only [sampled, if_false]
      exact .pure ⟨Color.within_black zero_le_one, fun _ => Color.within_black le_rfl⟩
  refine light.bind fun color inside => .pure ⟨metal.mul inside.1, fun unsampled => ?_⟩
  exact metal.mul (inside.2 unsampled)

omit [FloorRing K] [Mathf K] in
theorem grayscale_mem {color : Color K} (inside : color.Within 1) : InUnit color.grayscale := by
  rcases inside with ⟨⟨r, r_le⟩, ⟨g, g_le⟩, ⟨b, b_le⟩⟩
  unfold Color.grayscale
  constructor
  · positivity
  · linarith

theorem diffuseLight_within (traced : ∀ next, Returns (trace next) fun color => color.Within 1)
    (sampled : 0 < hit.diffuseSample call) {start : Color K} (dark : start.Within 0) :
    Returns (diffuseLight random trace hit call start)
      fun color => color.Within (hit.diffuseSample call : K) := by
  unfold diffuseLight
  simp only [sampled, if_true]
  have drawn : Returns (liftState (RayTraceTool.getRandomDirsRoundProj random hit.hitNormal
      (hit.diffuseSample call)) : Action σ (Stop Exn) _)
      fun dirs => dirs.length = (hit.diffuseSample call).toNat :=
    .liftState fun s => RayTraceTool.length_getRandomDirsRoundProj random _ _ s
  refine drawn.bind fun dirs count => (gather_within traced dirs dark).mono fun color inside => ?_
  apply inside.mono
  rw [count]
  exact_mod_cast (Int.toNat_of_nonneg sampled.le).le

-- The diffuse part is an average too, as long as its divisor is an Int32.
theorem diffuseColor_within (unlit : Unlit renderer) (bounds : HitBounds hit call)
    (fits : hit.diffuseSample call + renderer.scene.lights.length < 2 ^ 31)
    (traced : ∀ next, Returns (trace next) fun color => color.Within 1) :
    Returns (diffuseColor renderer random lightPath renderer.scene.lights.length trace hit call)
      fun color => color.Within 1 := by
  unfold diffuseColor
  have direct : Returns (lift (renderer.getAllLightsColor lightPath hit.model hit.hitPos hit.hitNormal) :
      Action σ (Stop Exn) _) (· = Color.black) := by
    rw [getAllLightsColor_unlit unlit]
    exact .pure rfl
  refine direct.bind fun directColor dark => ?_
  subst dark
  have start : ∀ divisor : K, (divisor • (Color.black : Color K)).Within 0 := by
    intro divisor
    constructor <;> simp [Color.black]
  by_cases sampled : 0 < hit.diffuseSample call
  · have whole : wrap32 (hit.diffuseSample call + renderer.scene.lights.length) =
        hit.diffuseSample call + renderer.scene.lights.length :=
      wrap32_of_fits (by omega) fits
    rw [whole]
    refine (diffuseLight_within traced sampled (start _)).bind fun sum inside => .pure ?_
    have positive : (0 : K) < hit.diffuseSample call := Int.cast_pos.mpr sampled
    have count : (0 : K) ≤ renderer.scene.lights.length := Nat.cast_nonneg _
    push_cast
    exact bounds.color.mul (inside.div (by linarith) (by linarith))
  · unfold diffuseLight
    simp only [sampled, if_false, pure_bind]
    exact .pure ((bounds.color.mul (start _).div_zero).mono zero_le_one)

omit [Mathf K] in
-- The weights of the two parts: at most one together on the front side; behind, only the reflected
-- part has any, and that part has no light.
theorem weighted_within (bounds : HitBounds hit call) (safe : hit.reflectSample call ≤ 0 ∨ FrontOrPlain hit call)
    {reflected diffuse : Color K} (reflectedIn : reflected.Within 1)
    (unsampled : hit.reflectSample call ≤ 0 → reflected.Within 0) (diffuseIn : diffuse.Within 1) :
    (hit.reflectFactor call • reflected + hit.diffuseFactor call • diffuse).Within 1 := by
  have nonneg := reflectFactor_nonneg bounds
  obtain ⟨factor, factor_le⟩ := Mathf.clamp01_mem (1 - hit.transFactor - hit.reflectFactor call)
  have rest : 1 - hit.transFactor - hit.reflectFactor call ≤ 1 - hit.reflectFactor call := by
    have alpha := bounds.alpha.2
    unfold HitInfo.transFactor
    linarith
  by_cases energy : hit.reflectFactor call ≤ 1
  · have total : hit.reflectFactor call + hit.diffuseFactor call ≤ 1 := by
      unfold HitInfo.diffuseFactor Mathf.clamp01
      split
      · linarith
      · split <;> linarith
    refine ((reflectedIn.smul nonneg).add (diffuseIn.smul factor)).mono ?_
    rw [mul_one, mul_one]
    exact total
  · have behind : hit.reflectSample call ≤ 0 :=
      safe.resolve_right fun front => energy ((reflectFactor_le_one_iff bounds).mpr front)
    have nothing : hit.diffuseFactor call = 0 := Mathf.clamp01_of_nonpos (by linarith [not_le.mp energy])
    have zero : (hit.diffuseFactor call • diffuse).Within 0 := by
      rw [nothing]
      exact (diffuseIn.smul le_rfl).mono (by simp)
    refine (((unsampled behind).smul nonneg).add zero).mono ?_
    simp

omit [FloorRing K] [Mathf K] in
theorem blend_within (bounds : HitBounds hit call) {front behind : Color K} (frontIn : front.Within 1)
    (behindIn : behind.Within 1) : (hit.blend front behind).Within 1 := by
  unfold HitInfo.blend
  cases mode : hit.model.material.getRenderMode with
  | Opaque => exact frontIn
  | Alphablend =>
    rcases bounds.alpha with ⟨alpha, alpha_le⟩
    refine ((frontIn.smul alpha).add (behindIn.smul (sub_nonneg.mpr alpha_le))).mono ?_
    linarith
  | Multiply => exact frontIn.mul behindIn
  | Additive => exact absurd mode hit.model.material.getRenderMode_notAdditive

theorem traceHit_within (unlit : Unlit renderer) (bounds : HitBounds hit call)
    (fits : hit.diffuseSample call + renderer.scene.lights.length < 2 ^ 31)
    (safe : hit.reflectSample call ≤ 0 ∨ FrontOrPlain hit call)
    (traced : ∀ next, Returns (trace next) fun color => color.Within 1) :
    Returns (traceHit renderer random lightPath renderer.scene.lights.length trace call hit)
      fun color => color.Within 1 := by
  unfold traceHit
  have metal := Color.within_lerp Color.within_white bounds.color hit.model.material.metallic
  refine (reflectColor_within metal traced).bind fun reflected reflectedIn => ?_
  refine (diffuseColor_within unlit bounds fits traced).bind fun diffuse diffuseIn => ?_
  have finale := weighted_within bounds safe reflectedIn.1 reflectedIn.2 diffuseIn
  by_cases passes : hit.texColor.a < 99 / 100
  · simp only [passes, if_true]
    exact (traced _).bind fun behind behindIn => .pure (blend_within bounds finale behindIn)
  · simp only [passes, if_false]
    exact .pure finale

/-! ## All calls -/

/-- What is asked of the hit of a call: a direction of length at most one, a divisor that is a
positive Int32, and a front side unless nothing is reflected there. -/
def SafeHit (renderer : Renderer K) (call : TraceCall K) (hit : HitInfo K) : Prop :=
  call.rayDir.dot call.rayDir ≤ 1 ∧
    (0 < hit.diffuseSample call + renderer.scene.lights.length ∧
      hit.diffuseSample call + renderer.scene.lights.length < 2 ^ 31) ∧
    (hit.reflectSample call ≤ 0 ∨ FrontOrPlain hit call)

-- A call whose depth is used up traces nothing.
def SafeCall (renderer : Renderer K) (call : TraceCall K) : Prop :=
  0 < call.depth → ∀ hit ∈ hitOf renderer call, SafeHit renderer call hit

instance (hit : HitInfo K) (call : TraceCall K) : Decidable (FrontOrPlain hit call) :=
  inferInstanceAs (Decidable (hit.normalReflectance ≤ 1 / 100 ∨ hit.normalReflectance = 1 ∨
    0 ≤ (-call.rayDir).dot hit.hitNormal))

instance (renderer : Renderer K) (call : TraceCall K) : DecidablePred (SafeHit renderer call) := fun hit =>
  inferInstanceAs (Decidable (call.rayDir.dot call.rayDir ≤ 1 ∧
    (0 < hit.diffuseSample call + renderer.scene.lights.length ∧
      hit.diffuseSample call + renderer.scene.lights.length < 2 ^ 31) ∧
    (hit.reflectSample call ≤ 0 ∨ FrontOrPlain hit call)))

instance (renderer : Renderer K) : DecidablePred (SafeCall renderer) := fun call =>
  inferInstanceAs (Decidable (0 < call.depth → ∀ hit ∈ hitOf renderer call, SafeHit renderer call hit))

theorem traceColorBody_within (unlit : Unlit renderer) (inside : renderer.embree.HitsInside)
    (traced : ∀ next, Returns (trace next) fun color => color.Within 1) (safe : SafeCall renderer call) :
    Returns (traceColorBody renderer random lightPath renderer.scene.lights.length trace call)
      fun color => color.Within 1 := by
  unfold traceColorBody
  by_cases shallow : call.depth ≤ 0
  · simp only [shallow, if_true]
    exact .pure (Color.within_black zero_le_one)
  · simp only [shallow, if_false, renderer.intersect_invalid_iff]
    cases found : renderer.closest call.startPos call.rayDir 1000 with
    | none => exact .pure unlit.sky
    | some reported =>
      refine (Returns.lift fun hit looked => looked).bind fun hit looked => ?_
      have looked := mapError_eq_ok.mp looked
      have member : hit ∈ hitOf renderer call := mem_hitOf_iff.mpr ⟨reported, found, looked⟩
      obtain ⟨short, ⟨-, fits⟩, front⟩ := safe (not_le.mp shallow) hit member
      exact traceHit_within unlit (hitBounds unlit inside short found looked) fits front traced

end

/-! ## One pane, seen from either side -/

def halfMetal : SimpleMaterialBase Rat := .mesh
  { glossiness := 0, metallic := 1 / 2, texture := .plain Color.white, color := Color.white
    renderMode := .Opaque, notAdditive := Opaque.notAdditive }

def metalPane (facing : Rat) : Renderer Rat :=
  .over Embree.closedSegment [paneModel 1 ⟨0, 0, facing⟩ halfMetal] [sun 0] Color.white

theorem metalPane_unlit {facing : Rat} (unit : facing * facing = 1) : Unlit (metalPane facing) := by
  have only : ∀ model ∈ (metalPane facing).scene.models, model = paneModel 1 ⟨0, 0, facing⟩ halfMetal :=
    fun model member => List.mem_singleton.mp member
  refine ⟨List.cons_ne_nil _ _, ?_, Color.within_white, ?_, ?_, ?_, ?_, ?_⟩
  · intro light member
    obtain rfl := List.mem_singleton.mp member
    rfl
  · intro model member uv color sampled
    rw [only model member] at sampled ⊢
    have uniform : halfMetal.Uniform Color.white := fun texel texelIn => List.mem_singleton.mp texelIn
    obtain rfl : color = Color.white := SimpleMaterialBase.linearSample_uniform uniform sampled
    exact ⟨Color.within_white, fun transparent => absurd rfl transparent⟩
  · intro model member
    rw [only model member]
    exact ⟨Color.within_white, zero_le_one, le_rfl⟩
  · intro model member
    rw [only model member]
    exact ⟨le_rfl, zero_le_one⟩
  · intro model member normal normalIn
    rw [only model member] at normalIn
    obtain rfl := List.eq_of_mem_replicate normalIn
    simpa [Vector3.dot] using unit
  · intro model member
    rw [only model member]
    exact Unity.Quaternion.identity_isUnit

end RayTraceRenderer.Managed
