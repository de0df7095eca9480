import RayTraceRenderer.Managed.Tracing
import Mathlib.Data.Rat.Floor

/-! Shadow rays: one query of GetLightPathColor, and when the method returns.

Behind a transparent surface the method starts again at the hit point itself. A
segment that contains its own start meets that surface again, at distance zero.
-/

set_option autoImplicit false

namespace RayTraceRenderer.Managed

open Unity Native Recursion

variable {K : Type} [Field K] [LinearOrder K] [FloorRing K] {renderer : Renderer K}

/-! ## One query -/

def Renderer.texelOf (renderer : Renderer K) (c : Crossing K) : Except Exn (Color K) := do
  let surface ← renderer.scene.surfaceOf c
  surface.model.material.pointSample surface.uv

theorem Renderer.getLightPathColor_miss {pos dir : Vector3 K} {length : K}
    (missed : renderer.closest pos dir length = none) (fuel : Nat) :
    renderer.getLightPathColor (fuel + 1) pos dir length = .ok Color.white := by
  rw [getLightPathColor]
  simp only [intersect_invalid_iff, missed, if_true]
  rfl

theorem Renderer.getLightPathColor_hit {pos dir : Vector3 K} {length : K} {hit : Hit K}
    (found : renderer.closest pos dir length = some hit) (fuel : Nat) :
    renderer.getLightPathColor (fuel + 1) pos dir length =
      match renderer.texelOf hit.toCrossing with
      | .error why => .error (.error why)
      | .ok texColor =>
        if texColor.a < 99 / 100 then do
          let aheadColor ← renderer.getLightPathColor fuel (pos + hit.t • dir) ((1 / 100 : K) • dir)
            (length - hit.t)
          return (1 - texColor.a) • aheadColor + texColor.a • texColor
        else .ok Color.black := by
  have reported : (renderer.intersect pos dir length).geomID ≠ RTC_INVALID_GEOMETRY_ID := by
    rw [Ne, renderer.intersect_invalid_iff, found]
    exact Option.some_ne_none hit
  obtain ⟨⟨geomID, primID⟩, ⟨u, v⟩, reach, point⟩ := renderer.intersect_hit found
  have sampled : renderer.pointTexel (renderer.intersect pos dir length) =
      renderer.texelOf hit.toCrossing := by
    unfold Renderer.pointTexel Renderer.texelOf SimpleScene.surfaceOf
    rw [geomID, primID, u, v]
  rw [getLightPathColor]
  simp only [if_neg reported, sampled, point]
  rw [reach]
  cases renderer.texelOf hit.toCrossing with
  | error why => rfl
  | ok texColor => rfl

theorem Renderer.getLightPathColor_stable {fuel : Nat} {pos dir : Vector3 K} {length : K}
    {result : Except (Stop Exn) (Color K)} (ended : renderer.getLightPathColor fuel pos dir length = result)
    (finished : result ≠ .error .fuel) :
    ∀ more ≥ fuel, renderer.getLightPathColor more pos dir length = result := by
  induction fuel generalizing pos dir length result with
  | zero => exact absurd ended.symm finished
  | succ fuel ih =>
    intro more large
    obtain ⟨more, rfl⟩ : ∃ k, more = k + 1 := ⟨more - 1, by omega⟩
    subst ended
    cases found : renderer.closest pos dir length with
    | none => rw [getLightPathColor_miss found, getLightPathColor_miss found]
    | some hit =>
      rw [getLightPathColor_hit found] at finished ⊢
      rw [getLightPathColor_hit found]
      cases sampled : renderer.texelOf hit.toCrossing with
      | error why => rfl
      | ok texColor =>
        simp only [sampled] at finished ⊢
        by_cases passes : texColor.a < 99 / 100
        · simp only [passes, if_true] at finished ⊢
          rw [ih rfl (fun stopped => finished (by rw [stopped]; rfl)) more (by omega)]
        · simp only [passes, if_false]

/-! ## The chain of queries -/

def LetsThrough (renderer : Renderer K) (pos dir : Vector3 K) (length : K) : Prop :=
  ∃ hit texColor, renderer.closest pos dir length = some hit ∧
    renderer.texelOf hit.toCrossing = .ok texColor ∧ texColor.a < 99 / 100

def Terminates (renderer : Renderer K) (pos dir : Vector3 K) (length : K) : Prop :=
  ∃ fuel, renderer.getLightPathColor fuel pos dir length ≠ .error .fuel

theorem terminates_of_stops {pos dir : Vector3 K} {length : K}
    (stops : ¬ LetsThrough renderer pos dir length) : Terminates renderer pos dir length := by
  refine ⟨1, ?_⟩
  cases found : renderer.closest pos dir length with
  | none =>
    rw [Renderer.getLightPathColor_miss found]
    simp
  | some hit =>
    rw [Renderer.getLightPathColor_hit found]
    cases sampled : renderer.texelOf hit.toCrossing with
    | error why => simp
    | ok texColor =>
      have solid : ¬ texColor.a < 99 / 100 := fun passes => stops ⟨hit, texColor, found, sampled, passes⟩
      simp [solid]

theorem Renderer.getLightPathColor_behind_iff {pos dir : Vector3 K} {length : K} {hit : Hit K}
    {texColor : Color K} (found : renderer.closest pos dir length = some hit)
    (sampled : renderer.texelOf hit.toCrossing = .ok texColor) (passes : texColor.a < 99 / 100) (fuel : Nat) :
    renderer.getLightPathColor (fuel + 1) pos dir length = .error .fuel ↔
      renderer.getLightPathColor fuel (pos + hit.t • dir) ((1 / 100 : K) • dir) (length - hit.t) =
        .error .fuel := by
  rw [Renderer.getLightPathColor_hit found]
  simp only [sampled, passes, if_true]
  cases renderer.getLightPathColor fuel (pos + hit.t • dir) ((1 / 100 : K) • dir) (length - hit.t) with
  | error why => exact Iff.rfl
  | ok aheadColor =>
    constructor
    · intro same
      cases same
    · intro same
      cases same

/-! ## A segment that contains its start -/

section
variable [IsStrictOrderedRing K]

omit [FloorRing K] in
-- A query from a hit point on the same line reports a surface at that point again.
theorem closest_again (reports : renderer.embree.ReportsNearest Embree.closedSegment)
    {pos dir : Vector3 K} {length : K} {hit : Hit K} (found : renderer.closest pos dir length = some hit)
    (step : K) (moving : step ≠ 0) :
    ∃ again, renderer.closest (pos + hit.t • dir) (step • dir) (length - hit.t) = some again ∧
      again.t = 0 ∧
      Crosses renderer.nativeScene (newRay pos dir length).toRayData { again.toCrossing with t := hit.t } := by
  obtain ⟨crosses, -, inReach⟩ := reports.crosses found
  have here : Crosses renderer.nativeScene
      ((newRay pos dir length).toRayData.reaim hit.t step (length - hit.t))
      { hit.toCrossing with t := 0 } := by
    rw [crosses_reaim_iff moving, mul_zero, add_zero]
    exact crosses
  have admitted : Embree.closedSegment
      ((newRay pos dir length).toRayData.reaim hit.t step (length - hit.t)) 0 :=
    ⟨le_rfl, sub_nonneg.mpr inReach⟩
  cases behind : renderer.closest (pos + hit.t • dir) (step • dir) (length - hit.t) with
  | none => exact absurd admitted (reports.missed behind here)
  | some again =>
    have crosses' : Crosses renderer.nativeScene
        ((newRay pos dir length).toRayData.reaim hit.t step (length - hit.t)) again.toCrossing :=
      (reports.crosses behind).1
    have nonneg : 0 ≤ again.t := (reports.crosses behind).2.1
    have zero : again.t = 0 := le_antisymm (reports.nearest behind here admitted) nonneg
    refine ⟨again, rfl, zero, ?_⟩
    rw [crosses_reaim_iff moving, zero, mul_zero, add_zero] at crosses'
    exact crosses'

-- Where such a query is let through, the next one differs in its direction only.
theorem getLightPathColor_again_iff (reports : renderer.embree.ReportsNearest Embree.closedSegment)
    {pos dir : Vector3 K} {length : K} {hit : Hit K} (found : renderer.closest pos dir length = some hit)
    {step : K} (moving : step ≠ 0)
    (through : LetsThrough renderer (pos + hit.t • dir) (step • dir) (length - hit.t)) (fuel : Nat) :
    renderer.getLightPathColor (fuel + 1) (pos + hit.t • dir) (step • dir) (length - hit.t) =
        .error .fuel ↔
      renderer.getLightPathColor fuel (pos + hit.t • dir) ((1 / 100 * step) • dir) (length - hit.t) =
        .error .fuel := by
  rcases through with ⟨again, texColor, reported, sampled, passes⟩
  obtain ⟨again', reported', zero, -⟩ := closest_again reports found step moving
  obtain rfl : again = again' := Option.some.inj (reported.symm.trans reported')
  rw [Renderer.getLightPathColor_behind_iff reported sampled passes, zero, Vector3.add_zero_smul, sub_zero,
    Vector3.smul_smul]

-- All queries after the first leave from the first hit point, each with a hundredth of the
-- direction before it; the chain ends with the first of them that is not let through.
theorem terminates_again_iff (reports : renderer.embree.ReportsNearest Embree.closedSegment)
    {pos dir : Vector3 K} {length : K} {hit : Hit K} (found : renderer.closest pos dir length = some hit)
    (step : K) (moving : step ≠ 0) :
    Terminates renderer (pos + hit.t • dir) (step • dir) (length - hit.t) ↔
      ∃ k : Nat, ¬ LetsThrough renderer (pos + hit.t • dir) (((1 / 100 : K) ^ k * step) • dir)
        (length - hit.t) := by
  have smaller : ∀ step : K, step ≠ 0 → 1 / 100 * step ≠ 0 := by
    intro step moving
    exact mul_ne_zero (by norm_num) moving
  constructor
  · rintro ⟨fuel, finished⟩
    induction fuel generalizing step with
    | zero => exact absurd rfl finished
    | succ fuel ih =>
      by_cases through : LetsThrough renderer (pos + hit.t • dir) (step • dir) (length - hit.t)
      · rw [Ne, getLightPathColor_again_iff reports found moving through] at finished
        obtain ⟨k, stops⟩ := ih _ (smaller step moving) finished
        exact ⟨k + 1, by rwa [pow_succ, mul_assoc]⟩
      · exact ⟨0, by rwa [pow_zero, one_mul]⟩
  · rintro ⟨k, stops⟩
    induction k generalizing step with
    | zero =>
      rw [pow_zero, one_mul] at stops
      exact terminates_of_stops stops
    | succ k ih =>
      by_cases through : LetsThrough renderer (pos + hit.t • dir) (step • dir) (length - hit.t)
      · obtain ⟨fuel, finished⟩ := ih _ (smaller step moving) (by rwa [← mul_assoc, ← pow_succ])
        refine ⟨fuel + 1, fun stopped => finished ?_⟩
        exact (getLightPathColor_again_iff reports found moving through fuel).mp stopped
      · exact terminates_of_stops through

def ChainStops (renderer : Renderer K) (pos dir : Vector3 K) (length : K) : Prop :=
  ∀ hit texColor, renderer.closest pos dir length = some hit →
    renderer.texelOf hit.toCrossing = .ok texColor → texColor.a < 99 / 100 →
    ∃ k : Nat, ¬ LetsThrough renderer (pos + hit.t • dir) ((1 / 100 : K) ^ (k + 1) • dir) (length - hit.t)

theorem getLightPathColor_terminates_iff (renderer : Renderer K)
    (reports : renderer.embree.ReportsNearest Embree.closedSegment) (pos dir : Vector3 K) (length : K) :
    Terminates renderer pos dir length ↔ ChainStops renderer pos dir length := by
  constructor
  · rintro ⟨fuel, finished⟩ hit texColor found sampled passes
    cases fuel with
    | zero => exact absurd rfl finished
    | succ fuel =>
      rw [Ne, Renderer.getLightPathColor_behind_iff found sampled passes] at finished
      obtain ⟨k, stops⟩ := (terminates_again_iff reports found (1 / 100) (by norm_num)).mp ⟨fuel, finished⟩
      exact ⟨k, by rwa [pow_succ]⟩
  · intro stops
    by_cases through : LetsThrough renderer pos dir length
    · obtain ⟨hit, texColor, found, sampled, passes⟩ := through
      obtain ⟨k, stops⟩ := stops hit texColor found sampled passes
      rw [pow_succ] at stops
      obtain ⟨fuel, finished⟩ := (terminates_again_iff reports found (1 / 100) (by norm_num)).mpr ⟨k, stops⟩
      refine ⟨fuel + 1, fun stopped => finished ?_⟩
      exact (Renderer.getLightPathColor_behind_iff found sampled passes fuel).mp stopped
    · exact terminates_of_stops through

-- Where every surface at the first hit point is transparent, no query is ever stopped.
theorem not_terminates_of_transparent (reports : renderer.embree.ReportsNearest Embree.closedSegment)
    {pos dir : Vector3 K} {length : K} {hit : Hit K} (found : renderer.closest pos dir length = some hit)
    (transparent : ∀ c, Crosses renderer.nativeScene (newRay pos dir length).toRayData c → c.t = hit.t →
      ∃ texColor, renderer.texelOf c = .ok texColor ∧ texColor.a < 99 / 100) :
    ¬ Terminates renderer pos dir length := by
  obtain ⟨texColor, sampled, passes⟩ := transparent hit.toCrossing (reports.crosses found).1 rfl
  have endless : ¬ Terminates renderer (pos + hit.t • dir) ((1 / 100 : K) • dir) (length - hit.t) := by
    rw [terminates_again_iff reports found (1 / 100) (by norm_num)]
    rintro ⟨k, stops⟩
    obtain ⟨again, reported, -, crosses⟩ :=
      closest_again reports found ((1 / 100) ^ k * (1 / 100)) (by positivity)
    obtain ⟨texColor', sampled', passes'⟩ := transparent _ crosses rfl
    exact stops ⟨again, texColor', reported, sampled', passes'⟩
  rintro ⟨fuel, finished⟩
  cases fuel with
  | zero => exact finished rfl
  | succ fuel =>
    rw [Ne, Renderer.getLightPathColor_behind_iff found sampled passes] at finished
    exact endless ⟨fuel, finished⟩

-- Embree has no choice at the first hit point where its surfaces look alike, as a single one does.
-- Then the method returns only if nothing is let through at all.
theorem terminates_iff_of_alike (reports : renderer.embree.ReportsNearest Embree.closedSegment)
    {pos dir : Vector3 K} {length : K} {hit : Hit K} (found : renderer.closest pos dir length = some hit)
    (alike : ∀ c, Crosses renderer.nativeScene (newRay pos dir length).toRayData c → c.t = hit.t →
      renderer.texelOf c = renderer.texelOf hit.toCrossing) :
    Terminates renderer pos dir length ↔ ¬ LetsThrough renderer pos dir length := by
  constructor
  · intro terminates through
    rcases through with ⟨hit', texColor, found', sampled, passes⟩
    obtain rfl : hit = hit' := Option.some.inj (found.symm.trans found')
    apply not_terminates_of_transparent reports found _ terminates
    intro c crosses here
    exact ⟨texColor, (alike c crosses here).trans sampled, passes⟩
  · exact terminates_of_stops

end

def onePane (texel : Color Rat) : Renderer Rat :=
  .over Embree.closedSegment [plainPane 1 texel .Alphablend Alphablend.notAdditive] [] Color.black

theorem getLightPathColor_endless :
    (onePane ⟨1 / 2, 1 / 2, 1 / 2, 1 / 2⟩).embree.ReportsNearest Embree.closedSegment ∧
    ¬ Terminates (onePane ⟨1 / 2, 1 / 2, 1 / 2, 1 / 2⟩) 0 ⟨0, 0, 1⟩ 10 := by
  have reports : (onePane ⟨1 / 2, 1 / 2, 1 / 2, 1 / 2⟩).embree.ReportsNearest Embree.closedSegment :=
    exhaustive_reportsNearest _
  have found : (onePane ⟨1 / 2, 1 / 2, 1 / 2, 1 / 2⟩).closest 0 ⟨0, 0, 1⟩ 10 =
      some ⟨⟨1, 1 / 4, 1 / 4, 0, 0⟩, ⟨0, 0, 16⟩⟩ := by decide +kernel
  have only : crossings (onePane ⟨1 / 2, 1 / 2, 1 / 2, 1 / 2⟩).nativeScene
      (newRay 0 ⟨0, 0, 1⟩ 10).toRayData = [⟨1, 1 / 4, 1 / 4, 0, 0⟩] := by decide +kernel
  refine ⟨reports, not_terminates_of_transparent reports found fun c crosses _ => ?_⟩
  rw [← mem_crossings, only, List.mem_singleton] at crosses
  subst crosses
  exact ⟨⟨1 / 2, 1 / 2, 1 / 2, 1 / 2⟩, by decide +kernel, by norm_num⟩

theorem getLightPathColor_terminates_wall : Terminates (onePane Color.white) 0 ⟨0, 0, 1⟩ 10 := by
  refine (getLightPathColor_terminates_iff (onePane Color.white) (exhaustive_reportsNearest _) 0
    ⟨0, 0, 1⟩ 10).mpr fun hit texColor found sampled passes => ?_
  have only : (onePane Color.white).closest 0 ⟨0, 0, 1⟩ 10 = some ⟨⟨1, 1 / 4, 1 / 4, 0, 0⟩, ⟨0, 0, 16⟩⟩ := by
    decide +kernel
  have solid : (onePane Color.white).texelOf ⟨1, 1 / 4, 1 / 4, 0, 0⟩ = .ok Color.white := by decide +kernel
  rw [only] at found
  cases found
  rw [solid] at sampled
  cases sampled
  exact absurd passes (by decide +kernel)

end RayTraceRenderer.Managed
