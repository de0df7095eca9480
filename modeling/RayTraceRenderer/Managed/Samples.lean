import RayTraceRenderer.Managed.Accesses
import RayTraceRenderer.Managed.Energy

/-! The numbers of rays that a call hands out, and what is divided by them.

Three products of the sample count are truncated one by one. The reflected light is
divided by its count only where that is positive, the diffuse light by its count and
the number of lights wherever something is hit.
-/

set_option autoImplicit false

namespace RayTraceRenderer.Managed

open Unity Native

variable {K : Type} [Field K] [LinearOrder K] [FloorRing K]

def subSampleNum (sampleNum : Int) (antiAliasing : Bool) : Int :=
  let splitPixel := if antiAliasing then 3 else 1
  sampleNum.tdiv (splitPixel * splitPixel)

namespace HitInfo

variable (hit : HitInfo K) (call : TraceCall K)

/-- The part of the samples that is for diffuse rays: what transmission and reflection leave. -/
def diffuseShare : K := hit.texColor.grayscale * Mathf.clamp01 (hit.texColor.a - hit.reflectFactor call)

omit [FloorRing K] in
theorem diffuseFactor_eq : hit.diffuseFactor call = Mathf.clamp01 (hit.texColor.a - hit.reflectFactor call) := by
  unfold diffuseFactor transFactor
  congr 1
  ring

theorem diffuseSample_eq : hit.diffuseSample call = castInt (call.sample * hit.diffuseShare call) := by
  rw [diffuseSample, diffuseFactor_eq, diffuseShare, mul_assoc]

end HitInfo

/-! ## Divisors -/

structure DivisorsNonzero [Mathf K] (renderer : Renderer K) (hit : HitInfo K) (call : TraceCall K) : Prop where
  reflected : 0 < hit.reflectSample call → (hit.reflectSample call : K) ≠ 0
  diffuse : (wrap32 (hit.diffuseSample call + renderer.scene.lights.length) : K) ≠ 0
  direct : ∀ light ∈ renderer.scene.lights, light.type ≠ .directional → renderer.lightRange = false →
    lightLength light hit.hitPos * lightLength light hit.hitPos ≠ 0

/-- Without lights there is a whole diffuse sample. With lights, the diffuse samples do not
make up for their number from below zero. -/
def Sampled (lights : Nat) (amount : K) : Prop :=
  if lights = 0 then amount ≤ -1 ∨ 1 ≤ amount else amount ≤ -((lights : K) + 1) ∨ -(lights : K) < amount

section
variable [IsStrictOrderedRing K]

theorem castInt_ne_neg_iff {lights : Nat} (few : lights < 2 ^ 31) {amount : K} :
    castInt amount ≠ -lights ↔ Sampled lights amount := by
  unfold Sampled
  split
  next none =>
    rw [none, Nat.cast_zero, neg_zero, Ne, castInt_eq_zero_iff, not_and_or, not_lt, not_lt]
  next some =>
    rw [Ne, castInt_eq_neg_iff (Nat.pos_of_ne_zero some) few, not_and_or, not_lt, not_le]

omit [IsStrictOrderedRing K] in
theorem divisor_eq_zero_iff {lights : Nat} (few : lights < 2 ^ 31) (amount : K) :
    wrap32 (castInt amount + lights) = 0 ↔ castInt amount = -lights := by
  have range : -2 ^ 31 ≤ castInt amount ∧ castInt amount < 2 ^ 31 := by
    unfold castInt
    simp only
    split <;> omega
  rw [wrap32_eq_zero_iff (by omega) (by omega)]
  omega

variable [Mathf K]

omit [FloorRing K] in
-- The length of a shadow ray is longer than the distance to its light.
theorem lightLength_pos (root : ∀ value : K, 0 ≤ value → 0 ≤ Mathf.sqrt value) (light : Light K) (pos : Vector3 K) :
    0 < lightLength light pos := by
  unfold lightLength
  split
  · norm_num
  · have distance : 0 ≤ (light.transform.position - pos).magnitude := root _ (Vector3.dot_self_nonneg _)
    have margin : (0 : K) < 1 / 100 := by norm_num
    linarith

/-- No divisor at a hit is zero exactly where the diffuse samples and the lights are not
together none. -/
theorem divisors_nonzero_iff (root : ∀ value : K, 0 ≤ value → 0 ≤ Mathf.sqrt value) (renderer : Renderer K)
    (few : renderer.scene.lights.length < 2 ^ 31) (hit : HitInfo K) (call : TraceCall K) :
    DivisorsNonzero renderer hit call ↔
      Sampled renderer.scene.lights.length (call.sample * hit.diffuseShare call) := by
  have zero := divisor_eq_zero_iff few (call.sample * hit.diffuseShare call)
  rw [← hit.diffuseSample_eq call] at zero
  rw [← castInt_ne_neg_iff few, ← hit.diffuseSample_eq call]
  constructor
  · intro nonzero same
    apply nonzero.diffuse
    rw [zero.mpr same, Int.cast_zero]
  · intro other
    refine ⟨?_, ?_, ?_⟩
    · intro positive
      exact Int.cast_ne_zero.mpr positive.ne'
    · exact Int.cast_ne_zero.mpr fun same => other (zero.mp same)
    · intro light _ _ _
      have positive := lightLength_pos root light hit.hitPos
      exact (mul_pos positive positive).ne'

end

def squareCall (sample : Int) : TraceCall Rat := ⟨⟨1 / 4, 1 / 4, -1⟩, ⟨0, 0, 1⟩, sample, 3⟩

/-- Nine rays share one sample, and none of them gets it. -/
theorem square_divides_by_zero :
    letI := Mathf.atUnits
    ∃ final hit, init (meshWorld squareMesh) = .ok final ∧ final.scene.lights.length = 0 ∧
      hitOf (blankRenderer.showing final) (squareCall (subSampleNum 1 true)) = some hit ∧
      ¬ DivisorsNonzero (blankRenderer.showing final) hit (squareCall (subSampleNum 1 true)) := by
  let := Mathf.atUnits
  have facts : (init (meshWorld squareMesh)).map (fun s => (s.scene.lights.length,
      (hitOf (blankRenderer.showing s) (squareCall (subSampleNum 1 true))).map fun hit =>
        wrap32 (hit.diffuseSample (squareCall (subSampleNum 1 true)) + s.scene.lights.length))) =
      .ok (0, some 0) := by decide +kernel
  obtain ⟨final, returned, all⟩ := map_eq_ok.mp facts
  obtain ⟨dark, found⟩ := Prod.mk.inj all
  obtain ⟨hit, known, zero⟩ := Option.map_eq_some_iff.mp found
  refine ⟨final, hit, returned, dark, known, fun nonzero => nonzero.diffuse ?_⟩
  exact Int.cast_eq_zero.mpr zero

theorem divisors_nonzero_square :
    letI := Mathf.atUnits
    ∃ final hit, init (meshWorld squareMesh) = .ok final ∧
      hitOf (blankRenderer.showing final) (squareCall (subSampleNum 1 false)) = some hit ∧
      DivisorsNonzero (blankRenderer.showing final) hit (squareCall (subSampleNum 1 false)) := by
  let := Mathf.atUnits
  have facts : (init (meshWorld squareMesh)).map (fun s => (s.scene.lights.length,
      (hitOf (blankRenderer.showing s) (squareCall (subSampleNum 1 false))).map fun hit =>
        ((squareCall (subSampleNum 1 false)).sample : Rat) *
          hit.diffuseShare (squareCall (subSampleNum 1 false)))) =
      .ok (0, some 1) := by decide +kernel
  obtain ⟨final, returned, all⟩ := map_eq_ok.mp facts
  obtain ⟨dark, found⟩ := Prod.mk.inj all
  obtain ⟨hit, known, whole⟩ := Option.map_eq_some_iff.mp found
  have few : (blankRenderer.showing final).scene.lights.length < 2 ^ 31 := by
    show final.scene.lights.length < 2 ^ 31
    rw [dark]
    decide
  refine ⟨final, hit, returned, known, ?_⟩
  rw [divisors_nonzero_iff (fun _ nonneg => nonneg) _ few, whole]
  show Sampled final.scene.lights.length (1 : Rat)
  rw [dark]
  exact .inr (le_refl (1 : Rat))

/-! ## The budget -/

section
variable [IsStrictOrderedRing K] {hit : HitInfo K} {call : TraceCall K}

theorem castInt_share {sample : Int} (nonneg : 0 ≤ sample) (fits : sample < 2 ^ 31) {share : K}
    (inside : InUnit share) :
    0 ≤ castInt (sample * share) ∧ (castInt (sample * share) : K) ≤ sample * share := by
  have count : (0 : K) ≤ sample := by exact_mod_cast nonneg
  have positive : 0 ≤ (sample : K) * share := mul_nonneg count inside.1
  have small : (sample : K) * share < 2 ^ 31 := by
    have bound : (sample : K) < 2 ^ 31 := by exact_mod_cast fits
    exact (mul_le_of_le_one_right count inside.2).trans_lt bound
  rw [castInt_of_fits positive small]
  exact ⟨Int.floor_nonneg.mpr positive, Int.floor_le _⟩

omit [FloorRing K] in
-- What the three shares come to: too much where more is reflected than is not let through.
theorem shares_le {gray alpha reflected : K} (grayIn : InUnit gray) (reflectedIn : InUnit reflected) (alphaIn : InUnit alpha) :
    gray * (1 - alpha) + reflected + gray * Mathf.clamp01 (alpha - reflected) ≤
      1 + gray * max 0 (reflected - alpha) := by
  rcases le_total reflected alpha with less | more
  · have inside : Mathf.clamp01 (alpha - reflected) = alpha - reflected := by
      unfold Mathf.clamp01
      rw [if_neg (by linarith), if_neg (by linarith [alphaIn.2, reflectedIn.1])]
    rw [inside, max_eq_left (by linarith)]
    nlinarith [grayIn.2, reflectedIn.2]
  · rw [Mathf.clamp01_of_nonpos (by linarith), max_eq_right (by linarith)]
    nlinarith [grayIn.2, reflectedIn.2]

/-- At a hit seen from the front the counts are not negative, and they exceed the samples of the
call at most by what is reflected beyond alpha. -/
theorem counts_within_budget (color : hit.texColor.Within 1) (alpha : InUnit hit.texColor.a)
    (gloss : InUnit hit.model.material.glossiness) (front : InUnit ((-call.rayDir).dot hit.hitNormal))
    (nonneg : 0 ≤ call.sample) (fits : call.sample < 2 ^ 31) :
    (0 ≤ hit.transSample call ∧ 0 ≤ hit.reflectSample call ∧ 0 ≤ hit.diffuseSample call) ∧
    ((hit.transSample call + hit.reflectSample call + hit.diffuseSample call : Int) : K) ≤
      call.sample * (1 + hit.texColor.grayscale * max 0 (hit.reflectFactor call - hit.texColor.a)) ∧
    (hit.reflectFactor call ≤ hit.texColor.a →
      hit.transSample call + hit.reflectSample call + hit.diffuseSample call ≤ call.sample) := by
  have bounds : HitBounds hit call := ⟨color, alpha, normalReflectance_mem gloss, front.2⟩
  have reflected : InUnit (hit.reflectFactor call) :=
    ⟨reflectFactor_nonneg bounds, (reflectFactor_le_one_iff bounds).mpr (.inr (.inr front.1))⟩
  have gray := grayscale_mem color
  have clamped : InUnit (Mathf.clamp01 (hit.texColor.a - hit.reflectFactor call)) := Mathf.clamp01_mem _
  have passed : InUnit (1 - hit.texColor.a) := ⟨by linarith [alpha.2], by linarith [alpha.1]⟩
  obtain ⟨trans, transLe⟩ := castInt_share nonneg fits
    (⟨mul_nonneg gray.1 passed.1, mul_le_one₀ gray.2 passed.1 passed.2⟩ :
      InUnit (hit.texColor.grayscale * (1 - hit.texColor.a)))
  obtain ⟨reflect, reflectLe⟩ := castInt_share nonneg fits reflected
  obtain ⟨diffuse, diffuseLe⟩ := castInt_share nonneg fits
    (⟨mul_nonneg gray.1 clamped.1, mul_le_one₀ gray.2 clamped.1 clamped.2⟩ : InUnit (hit.diffuseShare call))
  rw [← hit.diffuseSample_eq call] at diffuse diffuseLe
  rw [← mul_assoc] at trans transLe
  have total : ((hit.transSample call + hit.reflectSample call + hit.diffuseSample call : Int) : K) ≤
      call.sample * (1 + hit.texColor.grayscale * max 0 (hit.reflectFactor call - hit.texColor.a)) := by
    have count : (0 : K) ≤ call.sample := by exact_mod_cast nonneg
    push_cast
    calc (hit.transSample call : K) + hit.reflectSample call + hit.diffuseSample call
        ≤ call.sample * hit.texColor.grayscale * (1 - hit.texColor.a) + call.sample * hit.reflectFactor call +
            call.sample * hit.diffuseShare call := add_le_add (add_le_add transLe reflectLe) diffuseLe
      _ = call.sample * (hit.texColor.grayscale * (1 - hit.texColor.a) + hit.reflectFactor call +
            hit.diffuseShare call) := by ring
      _ ≤ call.sample * (1 + hit.texColor.grayscale * max 0 (hit.reflectFactor call - hit.texColor.a)) :=
        mul_le_mul_of_nonneg_left (shares_le gray reflected alpha) count
  refine ⟨⟨trans, reflect, diffuse⟩, total, fun less => ?_⟩
  rw [max_eq_left (by linarith), mul_zero, add_zero, mul_one] at total
  exact_mod_cast total

end

def clearMetal : Renderer Rat :=
  .over Embree.closedSegment [paneModel 1 ⟨0, 0, -1⟩ (.mesh
    { glossiness := 0, metallic := 1, texture := .plain ⟨1, 1, 1, 0⟩, color := Color.white
      renderMode := .Alphablend, notAdditive := Alphablend.notAdditive })] [] Color.black

def clearCall (sample : Int) : TraceCall Rat := ⟨0, ⟨0, 0, 1⟩, sample, 3⟩

/-- All samples are let through, and all are reflected. -/
theorem clearMetal_exceeds_budget :
    ∃ hit, hitOf clearMetal (clearCall 100) = some hit ∧ hit.texColor = ⟨1, 1, 1, 0⟩ ∧
      (hit.model.material.glossiness = 0 ∧ hit.model.material.metallic = 1) ∧
      (-(clearCall 100).rayDir).dot hit.hitNormal = 1 ∧
      hit.transSample (clearCall 100) + hit.reflectSample (clearCall 100) + hit.diffuseSample (clearCall 100) = 200 := by
  have facts : (hitOf clearMetal (clearCall 100)).map (fun hit => (hit.texColor, hit.model.material.glossiness,
      hit.model.material.metallic, (-(clearCall 100).rayDir).dot hit.hitNormal,
      hit.transSample (clearCall 100) + hit.reflectSample (clearCall 100) + hit.diffuseSample (clearCall 100))) =
      some (⟨1, 1, 1, 0⟩, 0, 1, 1, 200) := by decide +kernel
  obtain ⟨hit, found, all⟩ := Option.map_eq_some_iff.mp facts
  simp only [Prod.mk.injEq] at all
  obtain ⟨color, gloss, metal, cosine, total⟩ := all
  exact ⟨hit, found, color, ⟨gloss, metal⟩, cosine, total⟩

theorem counts_within_budget_square :
    letI := Mathf.atUnits
    ∃ final hit, init (meshWorld squareMesh) = .ok final ∧
      hitOf (blankRenderer.showing final) (squareCall 100) = some hit ∧
      hit.transSample (squareCall 100) + hit.reflectSample (squareCall 100) + hit.diffuseSample (squareCall 100) ≤
        100 := by
  let := Mathf.atUnits
  have facts : (init (meshWorld squareMesh)).map (fun s =>
      (hitOf (blankRenderer.showing s) (squareCall 100)).map fun hit => (hit.texColor,
        hit.model.material.glossiness, (-(squareCall 100).rayDir).dot hit.hitNormal, hit.reflectFactor (squareCall 100))) =
      .ok (some (⟨1, 1, 1, 1⟩, 0, 1, 0)) := by decide +kernel
  obtain ⟨final, returned, all⟩ := map_eq_ok.mp facts
  obtain ⟨hit, known, same⟩ := Option.map_eq_some_iff.mp all
  simp only [Prod.mk.injEq] at same
  obtain ⟨color, gloss, cosine, reflected⟩ := same
  refine ⟨final, hit, returned, known, ?_⟩
  refine (counts_within_budget ?_ ?_ ?_ ?_ (by decide) (by decide)).2.2 ?_
  · rw [color]
    exact Color.within_white
  · rw [color]
    exact ⟨by decide, by decide⟩
  · rw [gloss]
    exact ⟨by decide, by decide⟩
  · rw [cosine]
    exact ⟨by decide, by decide⟩
  · rw [reflected, color]
    decide

end RayTraceRenderer.Managed
