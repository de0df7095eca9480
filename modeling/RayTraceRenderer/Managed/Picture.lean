import RayTraceRenderer.Managed.Outcomes
import RayTraceRenderer.Managed.Render
import RayTraceRenderer.Managed.Samples

/-! Pictures of the dark: where no light shines every pixel is black.

The sums of TraceColor are sums of black, and so are their quotients, as long as nothing is divided
by zero. With a light in the scene, and colours that are amounts of energy, no divisor is zero.
-/

set_option autoImplicit false

namespace RayTraceRenderer.Managed

open Unity Native Recursion

variable {K σ : Type} [Field K] [LinearOrder K]

/-- A pixel is made of colours that its own calls returned. -/
theorem RenderInput.pixelColor_made [Mathf K] {input : RenderInput K} {linearToGammaSpace : K → K}
    {trace : TraceCall K → Action σ (Stop Exn) (Color K)} {divides : K → Prop} {post : Color K → Prop}
    {stopped : Stop (Stop Exn) → Prop} (ideal : Ideal divides post) {i j : Nat}
    (traced : ∀ ax ay, Ends (trace (input.primaryCall i j ax ay)) post stopped)
    (divisor : divides (input.splitPixel * input.splitPixel : Nat)) :
    Ends (input.pixelColor linearToGammaSpace trace i j)
      (fun shown => ∃ color, post color ∧ shown = gamma linearToGammaSpace { color with a := 1 }) stopped := by
  have inner : ∀ ax color, post color → Ends ((List.range input.splitPixel).foldlM
      (fun color ay => return color + (← trace (input.primaryCall i j ax ay))) color) post stopped := by
    intro ax color start
    refine Ends.foldlM (fun _ color => post color) _ ?_ color start
    intro _ ay _ _ color kept
    exact (traced ax ay).bind fun _ traced => .pure (ideal.add kept traced)
  have outer := Ends.foldlM (fun _ color => post color) (List.range input.splitPixel)
    (fun _ ax _ _ color kept => inner ax color kept) Color.black ideal.black
  exact outer.bind fun color kept => .pure ⟨_, ideal.div kept divisor, rfl⟩

/-! ## Scenes in the dark -/

/-- Black but for its alpha. -/
def Lightless (color : Color K) : Prop := color.r = 0 ∧ color.g = 0 ∧ color.b = 0

omit [LinearOrder K] in
theorem lightless_ideal : Ideal (· ≠ 0) (Lightless : Color K → Prop) where
  black := ⟨rfl, rfl, rfl⟩
  add := by
    rintro first second ⟨r, g, b⟩ ⟨r', g', b'⟩
    simp [Lightless, r, g, b, r', g', b']
  mul := by
    rintro color ⟨r, g, b⟩ factor
    simp [Lightless, r, g, b]
  smul := by
    rintro color ⟨r, g, b⟩ weight
    simp [Lightless, r, g, b]
  div := by
    rintro color ⟨r, g, b⟩ divisor _
    simp [Lightless, r, g, b]

section
variable [FloorRing K]

/-- There are lights, but none has an intensity, the sky is black, and the colours of textures and
materials are amounts of energy. -/
structure Dark (renderer : Renderer K) : Prop where
  lights : renderer.scene.lights ≠ []
  few : renderer.scene.lights.length < 2 ^ 31
  intensity : ∀ light ∈ renderer.scene.lights, light.intensity = 0
  sky : Lightless renderer.skyColor
  sampled : ∀ model ∈ renderer.scene.models, ∀ uv color, model.material.linearSample uv = .ok color →
    color.Within 1 ∧ (model.material.getRenderMode ≠ .Opaque → InUnit color.a)
  tint : ∀ model ∈ renderer.scene.models, model.material.getColor.Within 1 ∧ InUnit model.material.getColor.a

def TraceCall.Counted (call : TraceCall K) : Prop := 0 ≤ call.sample ∧ call.sample < 2 ^ 31

variable [IsStrictOrderedRing K] {renderer : Renderer K}

theorem Dark.spawned (dark : Dark renderer) {call : TraceCall K} (counted : call.Counted) {hit : HitInfo K}
    (member : hit ∈ hitOf renderer call) :
    Spawned TraceCall.Counted (· ≠ 0) renderer.scene.lights.length call hit := by
  obtain ⟨found, closest, looked⟩ := mem_hitOf_iff.mp member
  obtain ⟨color, alpha⟩ := texColor_within dark.sampled dark.tint closest looked
  have gray := grayscale_mem color
  have passed : InUnit hit.transFactor := ⟨sub_nonneg.mpr alpha.2, sub_le_self 1 alpha.1⟩
  have scattered : InUnit (hit.diffuseFactor call) := Mathf.clamp01_mem _
  have share : ∀ {factor : K}, InUnit factor → InUnit (hit.texColor.grayscale * factor) := fun inside =>
    ⟨mul_nonneg gray.1 inside.1, mul_le_one₀ gray.2 inside.1 inside.2⟩
  have some : 0 < renderer.scene.lights.length := List.length_pos_iff.mpr dark.lights
  constructor
  · exact fun dir => ⟨Int.one_nonneg, by simp [HitInfo.bounce]⟩
  · obtain ⟨nonneg, le⟩ := castInt_share counted.1 counted.2 (share passed)
    rw [← mul_assoc] at nonneg le
    have most : (call.sample : K) * hit.texColor.grayscale * hit.transFactor ≤ call.sample := by
      rw [mul_assoc]
      exact mul_le_of_le_one_right (Int.cast_nonneg counted.1) (share passed).2
    have fewer : hit.transSample call ≤ call.sample := Int.cast_le.mp (le.trans most)
    exact ⟨nonneg, fewer.trans_lt counted.2⟩
  · exact fun positive => Int.cast_ne_zero.mpr positive.ne'
  · have nonneg := (castInt_share counted.1 counted.2 (share scattered)).1
    rw [← mul_assoc] at nonneg
    refine Int.cast_ne_zero.mpr fun zero => ?_
    have negative := (divisor_eq_zero_iff dark.few _).mp zero
    omega

variable [Mathf K]

end

def darkPane : Renderer Rat :=
  .over Embree.closedSegment [plainPane 1 Color.white .Opaque Opaque.notAdditive] [sun 0] Color.black

theorem darkPane_dark : Dark darkPane := by
  have only : ∀ model ∈ darkPane.scene.models, model = plainPane 1 Color.white .Opaque Opaque.notAdditive :=
    fun model member => List.mem_singleton.mp member
  have uniform : (plainPane 1 (Color.white : Color Rat) .Opaque Opaque.notAdditive).material.Uniform Color.white :=
    fun texel member => List.mem_singleton.mp member
  refine ⟨List.cons_ne_nil _ _, by decide, by decide +kernel, ⟨rfl, rfl, rfl⟩, ?_, ?_⟩
  · intro model member uv color sampled
    rw [only model member] at sampled ⊢
    obtain rfl : color = Color.white := SimpleMaterialBase.linearSample_uniform uniform sampled
    exact ⟨Color.within_white, fun transparent => absurd rfl transparent⟩
  · intro model member
    rw [only model member]
    exact ⟨Color.within_white, zero_le_one, le_rfl⟩

end RayTraceRenderer.Managed
