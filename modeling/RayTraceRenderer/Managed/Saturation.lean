import RayTraceRenderer.Managed.Tracing
import Mathlib.Data.Rat.Floor

/-! What the depth of a call changes.

A secondary ray is traced with one sample. Where a hit gives less than one sample to
each kind of secondary ray, such a call makes none, and what it lets through has at
most one sample again. So no secondary ray has another one behind it, and from two on
the depth is never used up.
-/

set_option autoImplicit false

namespace RayTraceRenderer.Managed

open Unity Native Recursion

variable {K σ : Type} [Field K] [LinearOrder K] [FloorRing K]

/-- Of one sample, less than one is reflected and less than one is scattered. -/
def HitInfo.Dim (hit : HitInfo K) (call : TraceCall K) : Prop :=
  hit.reflectFactor call < 1 ∧ hit.texColor.grayscale * hit.diffuseFactor call < 1

def HitInfo.Passing (hit : HitInfo K) : Prop :=
  -1 < hit.texColor.grayscale * hit.transFactor ∧ hit.texColor.grayscale * hit.transFactor < 2

def ModerateHits (renderer : Renderer K) (call : TraceCall K) : Prop :=
  ∀ hit ∈ hitOf renderer call, hit.Dim call ∧ hit.Passing

instance (renderer : Renderer K) : DecidablePred (ModerateHits renderer) := fun call =>
  inferInstanceAs (Decidable (∀ hit ∈ hitOf renderer call,
    (hit.reflectFactor call < 1 ∧ hit.texColor.grayscale * hit.diffuseFactor call < 1) ∧
      -1 < hit.texColor.grayscale * hit.transFactor ∧ hit.texColor.grayscale * hit.transFactor < 2))

/-! ## Secondary calls -/

/-- The sample counts of secondary rays and of what is let through behind them. -/
def TraceCall.Secondary (call : TraceCall K) : Prop := call.sample = 0 ∨ call.sample = 1

section
variable {hit : HitInfo K} {call : TraceCall K}

theorem secondary_share_lt (single : call.Secondary) {share : K} (less : share < 1) :
    (call.sample : K) * share < 1 := by
  rcases single with none | one
  · rw [none, Int.cast_zero, zero_mul]
    exact zero_lt_one
  · rwa [one, Int.cast_one, one_mul]

theorem reflectSample_secondary (single : call.Secondary) (dim : hit.Dim call) :
    hit.reflectSample call ≤ 0 :=
  castInt_nonpos (secondary_share_lt single dim.1)

theorem diffuseSample_secondary (single : call.Secondary) (dim : hit.Dim call) :
    hit.diffuseSample call ≤ 0 := by
  unfold HitInfo.diffuseSample
  rw [mul_assoc]
  exact castInt_nonpos (secondary_share_lt single dim.2)

theorem transmit_secondary [IsStrictOrderedRing K] (single : call.Secondary) (passing : hit.Passing) :
    (hit.transmit call).Secondary := by
  show hit.transSample call = 0 ∨ hit.transSample call = 1
  unfold HitInfo.transSample
  rw [mul_assoc]
  rcases single with none | one
  · rw [none, Int.cast_zero, zero_mul]
    exact castInt_eq_zero_or_one (by norm_num) two_pos
  · rw [one, Int.cast_one, one_mul]
    exact castInt_eq_zero_or_one passing.1 passing.2

omit [LinearOrder K] [FloorRing K] in
theorem bounce_secondary (dir : Vector3 K) : (hit.bounce call dir).Secondary := .inr rfl

theorem not_bounces (single : call.Secondary) (dim : hit.Dim call) :
    ¬ (0 < hit.reflectSample call ∨ 0 < hit.diffuseSample call) := by
  rintro (reflected | scattered)
  · exact absurd reflected (not_lt.mpr (reflectSample_secondary single dim))
  · exact absurd scattered (not_lt.mpr (diffuseSample_secondary single dim))

end

/-! ## Two depths -/

/-- Calls of one ray whose depths both suffice. -/
inductive Saturated : TraceCall K → TraceCall K → Prop
  | primary {call : TraceCall K} {depth : Int} (deep : 2 ≤ call.depth) (deep' : 2 ≤ depth) :
      Saturated call (call.atDepth depth)
  | secondary {call : TraceCall K} {depth : Int} (single : call.Secondary) (alive : 0 < call.depth)
      (alive' : 0 < depth) : Saturated call (call.atDepth depth)

theorem Saturated.moderateHits_iff {renderer : Renderer K} {call call' : TraceCall K}
    (saturated : Saturated call call') : ModerateHits renderer call ↔ ModerateHits renderer call' := by
  -- the depth is not read
  cases saturated with
  | primary deep deep' => exact Iff.rfl
  | secondary single alive alive' => exact Iff.rfl

section
variable [Mathf K] (renderer : Renderer K) (random : Random K σ) (lightPath : LightPath K) (lightCount : Int)
  (trace : TraceCall K → Action σ (Stop Exn) (Color K))

/-- TraceColor as it is without secondary rays: a call that makes one ends without a value. -/
def straightBody (call : TraceCall K) : Action σ (Stop Exn) (Color K) :=
  traceColorBody renderer random lightPath lightCount
    (fun next => if next.depth = call.depth then trace next else throw .fuel) call

variable [IsStrictOrderedRing K] {renderer random lightPath lightCount trace}
  {trace' : TraceCall K → Action σ (Stop Exn) (Color K)}

-- The rays of a primary call are saturated: a secondary ray has one depth less on both sides.
theorem traceColorBody_saturated (agree : ∀ next next', Saturated next next' → trace next = trace' next')
    {call call' : TraceCall K} (saturated : Saturated call call') (moderate : ModerateHits renderer call) :
    traceColorBody renderer random lightPath lightCount trace call =
      traceColorBody renderer random lightPath lightCount trace' call' := by
  cases saturated with
  | @primary depth deep deep' =>
    apply traceColorBody_congr (by omega)
    intro _ hit member
    apply traceHit_congr
    · intro _ dir
      apply agree
      have alive : 0 < (hit.bounce call dir).depth := Int.sub_pos.mpr (by omega)
      exact .secondary (bounce_secondary dir) alive (Int.sub_pos.mpr (by omega : 1 < depth))
    · exact agree _ _ (.primary deep deep')
  | @secondary depth single alive alive' =>
    apply traceColorBody_congr (by omega)
    intro _ hit member
    obtain ⟨dim, passing⟩ := moderate hit member
    apply traceHit_congr
    · intro bounces
      exact absurd bounces (not_bounces single dim)
    · exact agree _ _ (.secondary (transmit_secondary single passing) alive alive')

-- A secondary call hands on what it lets through, and that is a secondary call again.
theorem traceColorBody_straight (agree : ∀ next : TraceCall K, next.Secondary → trace next = trace' next)
    {call : TraceCall K} (single : call.Secondary) (moderate : ModerateHits renderer call) :
    traceColorBody renderer random lightPath lightCount trace call =
      straightBody renderer random lightPath lightCount trace' call := by
  refine traceColorBody_congr Iff.rfl fun _ hit member => ?_
  obtain ⟨dim, passing⟩ := moderate hit member
  apply traceHit_congr
  · intro bounces
    exact absurd bounces (not_bounces single dim)
  · have same : (hit.transmit call).depth = call.depth := rfl
    show trace (hit.transmit call) =
      if (hit.transmit call).depth = call.depth then trace' (hit.transmit call) else throw .fuel
    rw [if_pos same]
    exact agree _ (transmit_secondary single passing)

end

/-- Where all hits are moderate, TraceColor ends the same way for all depths from two on, and no
secondary ray, nor what is let through behind it, has secondary rays of its own. -/
theorem traceColor_saturates [IsStrictOrderedRing K] [Mathf K] (renderer : Renderer K) (random : Random K σ)
    (lightPath : LightPath K) (fuel : Nat) (call : TraceCall K) (depth : Int) (deep : 2 ≤ call.depth)
    (deep' : 2 ≤ depth) :
    let body := traceColorBody renderer random lightPath renderer.scene.lights.length
    let straight := straightBody renderer random lightPath renderer.scene.lights.length
    runWithin (ModerateHits renderer) body fuel call =
        runWithin (ModerateHits renderer) body fuel (call.atDepth depth) ∧
      (∀ s result, result ≠ .error .fuel →
        (runWithin (ModerateHits renderer) body fuel call).run s = result →
          (traceColor renderer random lightPath fuel call).run s = result ∧
            (traceColor renderer random lightPath fuel (call.atDepth depth)).run s = result) ∧
      ∀ next : TraceCall K, next.Secondary →
        runWithin (ModerateHits renderer) body fuel next =
          runWithin (ModerateHits renderer) straight fuel next := by
  intro body straight
  have same : runWithin (ModerateHits renderer) body fuel call =
      runWithin (ModerateHits renderer) body fuel (call.atDepth depth) := by
    apply runWithin_related Saturated
    · intro call call' saturated
      exact saturated.moderateHits_iff
    · intro trace trace' agree call call' saturated moderate
      exact traceColorBody_saturated agree saturated moderate
    · exact .primary deep deep'
  refine ⟨same, ?_, ?_⟩
  · intro s result ends ended
    constructor
    · exact (runWithin_approximates traceColorBody_monotone (ModerateHits renderer) fuel call).ends ends ended
    · rw [same] at ended
      exact (runWithin_approximates traceColorBody_monotone (ModerateHits renderer) fuel _).ends ends ended
  · intro next single
    apply runWithin_related fun next next' => next = next' ∧ next.Secondary
    · rintro next _ ⟨rfl, -⟩
      exact Iff.rfl
    · rintro trace trace' agree call _ ⟨rfl, single⟩ moderate
      exact traceColorBody_straight (fun next single => agree next next ⟨rfl, single⟩) single moderate
    · exact ⟨rfl, single⟩

/-! ## A pane brighter than white -/

def greyPanes (texel : Color Rat) : Renderer Rat :=
  .over Embree.closedSegment
    [plainPane 1 ⟨1 / 2, 1 / 2, 1 / 2, 1⟩ .Opaque Opaque.notAdditive,
     plainPane (-1) texel .Alphablend Alphablend.notAdditive,
     plainPane (-2) ⟨1 / 2, 1 / 2, 1 / 2, 1⟩ .Opaque Opaque.notAdditive] [sun 0] Color.white

def DullPane (renderer : Renderer K) (model : SimpleModel K) : Prop :=
  ∃ z texel renderMode notAdditive, model = plainPane z texel renderMode notAdditive ∧
    (renderer.surfaceColor model.material texel).grayscale *
      Mathf.clamp01 (renderer.surfaceColor model.material texel).a < 1

theorem dim_of_dullPanes [IsStrictOrderedRing K] {renderer : Renderer K}
    (dull : ∀ model ∈ renderer.scene.models, DullPane renderer model) (call : TraceCall K) :
    ∀ hit ∈ hitOf renderer call, hit.Dim call := by
  intro hit member
  obtain ⟨found, closest, looked⟩ := mem_hitOf_iff.mp member
  obtain ⟨surface, sampled, _, _, _, resolved, sampledOk, -, rfl⟩ := Renderer.hitInfo_spec closest looked
  obtain ⟨z, texel, renderMode, notAdditive, model, less⟩ := dull _ (SimpleScene.surface_model_mem resolved)
  have uniform : surface.model.material.Uniform texel := by
    rw [model]
    exact fun texel member => List.mem_singleton.mp member
  have color : sampled = texel := by
    rw [SimpleMaterialBase.linearSample_uniform uniform sampledOk, model]
    rfl
  subst color
  have reflected : ∀ {hit : HitInfo K}, hit.model = surface.model → hit.reflectFactor call = 0 := by
    intro hit same
    have reflectance : hit.normalReflectance = 0 := by
      rw [HitInfo.normalReflectance, same, model]
      have metallic : Mathf.clamp01 (0 : K) = 0 := Mathf.clamp01_of_nonpos le_rfl
      simp [plainPane, paneModel, SimpleMaterialBase.glossiness, SimpleMaterialBase.metallic, Mathf.lerp, metallic]
    have plain : ¬ (1 / 100 : K) < 0 := not_lt.mpr (by positivity)
    rw [HitInfo.reflectFactor, reflectance, if_neg plain]
  constructor
  · rw [reflected rfl]
    exact zero_lt_one
  · rw [HitInfo.diffuseFactor, HitInfo.transFactor, reflected rfl, sub_zero, sub_sub_cancel]
    exact less

/-- The bright pane makes two samples of one, and the second pane scatters one of the two. -/
theorem brightPane_counts_depth :
    letI := Mathf.atUnits
    let renderer := greyPanes ⟨2, 2, 2, 0⟩
    let lightPath := renderer.getLightPathColor 1
    (∀ call, ∀ hit ∈ hitOf renderer call, hit.Dim call) ∧
    (traceColor renderer Random.lowest lightPath 5 ⟨0, ⟨0, 0, 1⟩, 2, 2⟩).run () = .ok (⟨0, 0, 0, 7 / 4⟩, ()) ∧
    (traceColor renderer Random.lowest lightPath 5 ⟨0, ⟨0, 0, 1⟩, 2, 3⟩).run () =
      .ok (⟨1 / 16, 1 / 16, 1 / 16, 7 / 4⟩, ()) := by
  let := Mathf.atUnits
  refine ⟨?_, by decide +kernel, by decide +kernel⟩
  apply dim_of_dullPanes
  intro model listed
  simp only [greyPanes, Renderer.over, List.mem_cons, List.not_mem_nil, or_false] at listed
  rcases listed with rfl | rfl | rfl
  · exact ⟨_, _, _, _, rfl, by decide +kernel⟩
  · exact ⟨_, _, _, _, rfl, by decide +kernel⟩
  · exact ⟨_, _, _, _, rfl, by decide +kernel⟩

theorem traceColor_saturates_clear :
    letI := Mathf.atUnits
    let renderer := greyPanes ⟨1, 1, 1, 0⟩
    (traceColor renderer Random.lowest (renderer.getLightPathColor 1) 5 ⟨0, ⟨0, 0, 1⟩, 100, 2⟩).run () =
        .ok (⟨0, 0, 0, 101 / 51⟩, ()) ∧
      (traceColor renderer Random.lowest (renderer.getLightPathColor 1) 5 ⟨0, ⟨0, 0, 1⟩, 100, 9⟩).run () =
        .ok (⟨0, 0, 0, 101 / 51⟩, ()) := by
  let := Mathf.atUnits
  exact (traceColor_saturates (greyPanes ⟨1, 1, 1, 0⟩) Random.lowest ((greyPanes ⟨1, 1, 1, 0⟩).getLightPathColor 1) 5
    ⟨0, ⟨0, 0, 1⟩, 100, 2⟩ 9 (by decide) (by decide)).2.1 () _ (by simp) (by decide +kernel)

end RayTraceRenderer.Managed
