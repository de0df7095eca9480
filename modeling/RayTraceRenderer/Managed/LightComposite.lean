import RayTraceRenderer.Foundation.Compositing
import RayTraceRenderer.Managed.LightPath

/-! What a shadow ray returns: the composite of the surfaces within its reach.

Behind a transparent surface the method starts again at the hit point, with a
hundredth of its direction and all of the length that is left. The new ray
reaches a hundredth of the way, so surfaces farther off are left out.
-/

set_option autoImplicit false

namespace RayTraceRenderer.Managed

open Unity Native Recursion Compositing

variable {K : Type} [Field K] [LinearOrder K] [FloorRing K] [IsStrictOrderedRing K] {renderer : Renderer K}

def shadow : Medium (K × Color K) (Color K) where
  clear := Color.white
  dark := Color.black
  passes layer := layer.2.a < 99 / 100
  passesDecidable layer := inferInstanceAs (Decidable (layer.2.a < 99 / 100))
  through layer behind := (1 - layer.2.a) • behind + layer.2.a • layer.2
  through_injective := by
    intro layer passes behind behind' same
    have weight : 1 - layer.2.a ≠ 0 := by
      have : layer.2.a < 99 / 100 := passes
      linarith
    ext
    · exact mul_left_cancel₀ weight (add_right_cancel (congrArg Color.r same))
    · exact mul_left_cancel₀ weight (add_right_cancel (congrArg Color.g same))
    · exact mul_left_cancel₀ weight (add_right_cancel (congrArg Color.b same))
    · exact mul_left_cancel₀ weight (add_right_cancel (congrArg Color.a same))

def reachPast (reach : K) (layer : K × Color K) : Option K :=
  if layer.1 ≤ reach then some (layer.1 + (reach - layer.1) / 100) else none

/-- The surfaces crossed strictly inside a segment, nearest first, no two at one distance. -/
structure Surfaces (renderer : Renderer K) (pos dir : Vector3 K) (length : K)
    (surfaces : List (Crossing K)) : Prop where
  sorted : surfaces.Pairwise fun c c' => c.t < c'.t
  complete : ∀ c, c ∈ surfaces ↔
    Crosses renderer.nativeScene (newRay pos dir length).toRayData c ∧ 0 < c.t ∧ c.t < length

-- What a query reports that starts `start` along a ray, with steps of length `step`, and ends
-- `reach` along it: the nearest crossing in between, in terms of the ray itself.
theorem closest_ahead (reports : renderer.embree.ReportsNearest Embree.openSegment)
    (pos dir : Vector3 K) (length start step reach : K) (forward : 0 < step) :
    match renderer.closest (pos + start • dir) (step • dir) ((reach - start) / step) with
    | none => ∀ c, Crosses renderer.nativeScene (newRay pos dir length).toRayData c → start < c.t →
        reach < c.t
    | some hit => ∃ c, Crosses renderer.nativeScene (newRay pos dir length).toRayData c ∧
        start < c.t ∧ c.t ≤ reach ∧ hit.t = (c.t - start) / step ∧
        renderer.texelOf hit.toCrossing = renderer.texelOf c ∧
        ∀ c', Crosses renderer.nativeScene (newRay pos dir length).toRayData c' → start < c'.t →
          c.t ≤ c'.t := by
  -- A crossing of the line in the coordinates of the new ray.
  have rescale : ∀ c, Crosses renderer.nativeScene (newRay pos dir length).toRayData c →
      Crosses renderer.nativeScene
        ((newRay pos dir length).toRayData.reaim start step ((reach - start) / step))
        { c with t := (c.t - start) / step } := by
    intro c crosses
    rw [crosses_reaim_iff forward.ne', mul_div_cancel₀ _ forward.ne', add_sub_cancel]
    exact crosses
  have admitted : ∀ t, start < t → t ≤ reach → Embree.openSegment
      ((newRay pos dir length).toRayData.reaim start step ((reach - start) / step))
      ((t - start) / step) := by
    intro t ahead inReach
    refine ⟨div_pos (sub_pos.mpr ahead) forward, ?_⟩
    exact (div_le_div_iff_of_pos_right forward).mpr (by linarith)
  cases found : renderer.closest (pos + start • dir) (step • dir) ((reach - start) / step) with
  | none =>
    intro c crosses ahead
    by_contra inReach
    exact reports.missed found (rescale c crosses) (admitted c.t ahead (not_lt.mp inReach))
  | some hit =>
    have crosses : Crosses renderer.nativeScene
        ((newRay pos dir length).toRayData.reaim start step ((reach - start) / step)) hit.toCrossing :=
      (reports.crosses found).1
    have ⟨positive, bounded⟩ := (reports.crosses found).2
    rw [crosses_reaim_iff forward.ne'] at crosses
    have positive : 0 < hit.t := positive
    have bounded : hit.t ≤ (reach - start) / step := bounded
    rw [le_div_iff₀ forward] at bounded
    refine ⟨_, crosses, ?_, ?_, ?_, rfl, ?_⟩
    · exact lt_add_of_pos_right start (mul_pos forward positive)
    · simp only
      linarith
    · simp only [add_sub_cancel_left]
      exact (mul_div_cancel_left₀ hit.t forward.ne').symm
    · intro c' crosses' ahead'
      simp only
      by_cases inReach : c'.t ≤ reach
      · have nearer := reports.nearest found (rescale c' crosses') (admitted c'.t ahead' inReach)
        rw [le_div_iff₀ forward] at nearer
        linarith
      · linarith

omit [FloorRing K] [IsStrictOrderedRing K] in
theorem beyond_nearest {first : Crossing K} {rest : List (Crossing K)} {start length : K}
    {line : RayData K} (sorted : (first :: rest).Pairwise fun c c' => c.t < c'.t)
    (complete : ∀ c, c ∈ first :: rest ↔
      Crosses renderer.nativeScene line c ∧ start < c.t ∧ c.t < length) (c : Crossing K) :
    c ∈ rest ↔ Crosses renderer.nativeScene line c ∧ first.t < c.t ∧ c.t < length := by
  have ordered := (List.pairwise_cons.mp sorted).1
  have ⟨_, ahead, _⟩ := (complete first).mp List.mem_cons_self
  constructor
  · intro member
    have ⟨crosses, _, inside⟩ := (complete c).mp (List.mem_cons_of_mem first member)
    exact ⟨crosses, ordered c member, inside⟩
  · rintro ⟨crosses, farther, inside⟩
    rcases List.mem_cons.mp ((complete c).mpr ⟨crosses, ahead.trans farther, inside⟩) with rfl | member
    · exact absurd farther (lt_irrefl _)
    · exact member

omit [FloorRing K] [IsStrictOrderedRing K] in
theorem eq_first {first c : Crossing K} {rest : List (Crossing K)} {start length : K} {line : RayData K}
    (sorted : (first :: rest).Pairwise fun c c' => c.t < c'.t)
    (complete : ∀ c, c ∈ first :: rest ↔
      Crosses renderer.nativeScene line c ∧ start < c.t ∧ c.t < length)
    (crosses : Crosses renderer.nativeScene line c) (ahead : start < c.t) (nearer : c.t ≤ first.t) : c = first := by
  rcases (complete first).mp List.mem_cons_self with ⟨-, -, inside⟩
  rcases List.mem_cons.mp ((complete c).mpr ⟨crosses, ahead, nearer.trans_lt inside⟩) with same | member
  · exact same
  · exact absurd ((List.pairwise_cons.mp sorted).1 c member) (not_lt.mpr nearer)

omit [FloorRing K] in
theorem next_query (pos dir : Vector3 K) (reach : K) {start step t distance : K} (forward : 0 < step)
    (hit : distance = (t - start) / step) :
    pos + start • dir + distance • step • dir = pos + t • dir ∧
      (1 / 100 : K) • step • dir = (step / 100) • dir ∧
      (reach - start) / step - distance = (t + (reach - t) / 100 - t) / (step / 100) := by
  refine ⟨?_, ?_, ?_⟩
  · rw [Vector3.add_smul_reaim, hit, mul_div_cancel₀ _ forward.ne', add_sub_cancel]
  · rw [Vector3.smul_smul, one_div_mul_eq_div]
  · rw [hit]
    field_simp
    ring

-- A query from a point of the segment on returns the walk over the surfaces ahead, by induction on
-- their number. A segment without surfaces must end before its own end point.
theorem getLightPathColor_walk (reports : renderer.embree.ReportsNearest Embree.openSegment)
    (pos dir : Vector3 K) (length : K) (tex : Crossing K → Color K) (ahead : List (Crossing K))
    (start step reach : K) (forward : 0 < step)
    (sorted : ahead.Pairwise fun c c' => c.t < c'.t)
    (complete : ∀ c, c ∈ ahead ↔
      Crosses renderer.nativeScene (newRay pos dir length).toRayData c ∧ start < c.t ∧ c.t < length)
    (short : reach ≤ length) (inside : ahead = [] → reach < length)
    (sampled : ∀ c ∈ ahead, renderer.texelOf c = .ok (tex c)) (fuel : Nat) (enough : ahead.length < fuel) :
    renderer.getLightPathColor fuel (pos + start • dir) (step • dir) ((reach - start) / step) =
      .ok (walk shadow reachPast reach (ahead.map fun c => (c.t, tex c))) := by
  induction ahead generalizing start step reach fuel with
  | nil =>
    obtain ⟨fuel, rfl⟩ : ∃ k, fuel = k + 1 := ⟨fuel - 1, by simp at enough; omega⟩
    have query := closest_ahead reports pos dir length start step reach forward
    cases found : renderer.closest (pos + start • dir) (step • dir) ((reach - start) / step) with
    | none => exact Renderer.getLightPathColor_miss found fuel
    | some hit =>
      simp only [found] at query
      rcases query with ⟨c, crosses, afterStart, inReach, -⟩
      have member := (complete c).mpr ⟨crosses, afterStart, inReach.trans_lt (inside rfl)⟩
      cases member
  | cons first rest ih =>
    obtain ⟨fuel, rfl⟩ : ∃ k, fuel = k + 1 := ⟨fuel - 1, by simp at enough; omega⟩
    have query := closest_ahead reports pos dir length start step reach forward
    rcases (complete first).mp List.mem_cons_self with ⟨firstCrosses, firstAhead, firstInside⟩
    rw [List.map_cons, walk]
    cases found : renderer.closest (pos + start • dir) (step • dir) ((reach - start) / step) with
    | none =>
      simp only [found] at query
      have outOfReach : ¬ first.t ≤ reach := not_le.mpr (query first firstCrosses firstAhead)
      rw [Renderer.getLightPathColor_miss found, reachPast, if_neg outOfReach]
      rfl
    | some hit =>
      simp only [found] at query
      rcases query with ⟨c, crosses, afterStart, inReach, distance, texel, nearest⟩
      have nearer : c.t ≤ first.t := nearest first firstCrosses firstAhead
      obtain rfl : c = first := eq_first sorted complete crosses afterStart nearer
      rw [Renderer.getLightPathColor_hit found, texel, sampled c List.mem_cons_self, reachPast,
        if_pos inReach]
      by_cases passes : (tex c).a < 99 / 100
      · have next : shadow.passes (c.t, tex c) := passes
        simp only [passes, next, if_true]
        rcases next_query pos dir reach forward distance with ⟨origin, direction, remaining⟩
        rw [origin, direction, remaining, ih c.t (step / 100) (c.t + (reach - c.t) / 100) (by positivity)
          (List.pairwise_cons.mp sorted).2 (beyond_nearest sorted complete) (by linarith)
          (fun _ => by linarith) (fun c' member => sampled c' (List.mem_cons_of_mem c member)) fuel
          (by simp at enough; omega)]
        rfl
      · have last : ¬ shadow.passes (c.t, tex c) := passes
        simp only [passes, last, if_false]
        rfl

/-- What only the end of the segment can show: a surface there leaves the light as it is. -/
def EndIsClear (renderer : Renderer K) (pos dir : Vector3 K) (length : K) : Prop :=
  ∀ hit, renderer.closest pos dir length = some hit →
    ∃ texColor, renderer.texelOf hit.toCrossing = .ok texColor ∧
      composite shadow [(hit.t, texColor)] = Color.white

def layersOf (surfaces : List (Crossing K)) (tex : Crossing K → Color K) : List (K × Color K) :=
  surfaces.map fun c => (c.t, tex c)

def ReturnsColor (renderer : Renderer K) (pos dir : Vector3 K) (length : K) (color : Color K) : Prop :=
  ∃ enough, ∀ fuel ≥ enough, renderer.getLightPathColor fuel pos dir length = .ok color

omit [IsStrictOrderedRing K] in
theorem returnsColor_iff {pos dir : Vector3 K} {length : K} {returned color : Color K} {enough : Nat}
    (settled : ∀ fuel ≥ enough, renderer.getLightPathColor fuel pos dir length = .ok returned) :
    ReturnsColor renderer pos dir length color ↔ returned = color := by
  constructor
  · rintro ⟨enough', settled'⟩
    have left := settled (max enough enough') (le_max_left _ _)
    have right := settled' (max enough enough') (le_max_right _ _)
    exact Except.ok.inj (left.symm.trans right)
  · rintro rfl
    exact ⟨enough, settled⟩

-- A surface at the very end of the segment is the last one: nothing is left of it.
theorem getLightPathColor_end (reports : renderer.embree.ReportsNearest Embree.openSegment)
    {pos dir : Vector3 K} {length : K} {hit : Hit K} (found : renderer.closest pos dir length = some hit)
    (last : hit.t = length) {texColor : Color K}
    (sampled : renderer.texelOf hit.toCrossing = .ok texColor) (fuel : Nat) :
    renderer.getLightPathColor (fuel + 2) pos dir length =
      .ok (composite shadow [(hit.t, texColor)]) := by
  rw [Renderer.getLightPathColor_hit found, sampled]
  have query := closest_ahead reports pos dir length length (1 / 100) length (by norm_num)
  rw [sub_self, zero_div] at query
  have nothing : renderer.closest (pos + length • dir) ((1 / 100 : K) • dir) 0 = none := by
    cases behind : renderer.closest (pos + length • dir) ((1 / 100 : K) • dir) 0 with
    | none => rfl
    | some hit' =>
      simp only [behind] at query
      rcases query with ⟨c, -, afterEnd, inReach, -⟩
      exact absurd afterEnd (not_lt.mpr inReach)
  by_cases passes : texColor.a < 99 / 100
  · have next : shadow.passes (hit.t, texColor) := passes
    simp only [passes, if_true, composite, next]
    rw [last, sub_self, Renderer.getLightPathColor_miss nothing]
    rfl
  · have stops : ¬ shadow.passes (hit.t, texColor) := passes
    simp only [passes, if_false, composite, stops]
    rfl

omit [FloorRing K] [IsStrictOrderedRing K] in
theorem end_of_empty (reports : renderer.embree.ReportsNearest Embree.openSegment) {pos dir : Vector3 K}
    {length : K} (crossed : Surfaces renderer pos dir length []) {hit : Hit K}
    (found : renderer.closest pos dir length = some hit) : hit.t = length := by
  obtain ⟨crosses, positive, bounded⟩ := reports.crosses found
  by_contra notLast
  have member := (crossed.complete hit.toCrossing).mpr ⟨crosses, positive, lt_of_le_of_ne bounded notLast⟩
  cases member

omit [FloorRing K] [IsStrictOrderedRing K] in
-- The surfaces of a segment, as the exhaustive search finds them.
theorem surfaces_of_crossings {pos dir : Vector3 K} {length : K} {surfaces : List (Crossing K)}
    (listed : (crossings renderer.nativeScene (newRay pos dir length).toRayData).filter
      (fun c => 0 < c.t ∧ c.t < length) = surfaces)
    (sorted : surfaces.Pairwise fun c c' => c.t < c'.t) : Surfaces renderer pos dir length surfaces := by
  refine ⟨sorted, fun c => ?_⟩
  rw [← listed, List.mem_filter, mem_crossings, decide_eq_true_eq]

theorem getLightPathColor_empty_iff (reports : renderer.embree.ReportsNearest Embree.openSegment)
    {pos dir : Vector3 K} {length : K} (crossed : Surfaces renderer pos dir length []) :
    ReturnsColor renderer pos dir length Color.white ↔ EndIsClear renderer pos dir length := by
  cases found : renderer.closest pos dir length with
  | none =>
    have settled : ∀ fuel ≥ 1, renderer.getLightPathColor fuel pos dir length = .ok Color.white := by
      intro fuel large
      obtain ⟨fuel, rfl⟩ : ∃ k, fuel = k + 1 := ⟨fuel - 1, by omega⟩
      exact Renderer.getLightPathColor_miss found fuel
    rw [returnsColor_iff settled]
    constructor
    · intro _ hit found'
      rw [found] at found'
      cases found'
    · intro _
      rfl
  | some hit =>
    have last : hit.t = length := end_of_empty reports crossed found
    cases sampled : renderer.texelOf hit.toCrossing with
    | error why =>
      constructor
      · rintro ⟨enough, settled⟩
        have returned := settled (enough + 1) (by omega)
        rw [Renderer.getLightPathColor_hit found, sampled] at returned
        cases returned
      · intro isClear
        obtain ⟨texColor, sampled', -⟩ := isClear hit found
        rw [sampled] at sampled'
        cases sampled'
    | ok texColor =>
      have settled : ∀ fuel ≥ 2, renderer.getLightPathColor fuel pos dir length =
          .ok (composite shadow [(hit.t, texColor)]) := by
        intro fuel large
        obtain ⟨fuel, rfl⟩ : ∃ k, fuel = k + 2 := ⟨fuel - 2, by omega⟩
        exact getLightPathColor_end reports found last sampled fuel
      rw [returnsColor_iff settled]
      constructor
      · intro same hit' found'
        rw [found] at found'
        cases found'
        exact ⟨texColor, sampled, same⟩
      · intro isClear
        obtain ⟨texColor', sampled', same⟩ := isClear hit found
        rw [sampled] at sampled'
        cases sampled'
        exact same

/-- The method returns the composite of all surfaces exactly where the surfaces out of its
reach compose to white, and so does a surface at the end of a segment without others. -/
theorem getLightPathColor_composite_iff (renderer : Renderer K)
    (reports : renderer.embree.ReportsNearest Embree.openSegment) (pos dir : Vector3 K) (length : K)
    (surfaces : List (Crossing K)) (crossed : Surfaces renderer pos dir length surfaces)
    (tex : Crossing K → Color K) (sampled : ∀ c ∈ surfaces, renderer.texelOf c = .ok (tex c)) :
    ReturnsColor renderer pos dir length (composite shadow (layersOf surfaces tex)) ↔
      composite shadow (missed shadow reachPast length (layersOf surfaces tex)) = Color.white ∧
        (surfaces = [] → EndIsClear renderer pos dir length) := by
  cases surfaces with
  | nil =>
    have clear : composite shadow (missed shadow reachPast length (layersOf [] tex)) = Color.white := rfl
    simp only [clear, true_and, forall_const]
    exact getLightPathColor_empty_iff reports crossed
  | cons first rest =>
    have settled := getLightPathColor_walk reports pos dir length tex (first :: rest) 0 1 length one_pos
      crossed.sorted crossed.complete le_rfl (fun empty => by cases empty) sampled
    rw [Vector3.add_zero_smul, Vector3.one_smul, sub_zero, div_one] at settled
    rw [returnsColor_iff settled]
    refine (walk_eq_composite_iff shadow reachPast _ length).trans ?_
    constructor
    · intro isClear
      exact ⟨isClear, fun empty => by cases empty⟩
    · exact And.left

/-! ## Two panes -/

def glassBeforeWall (wall : Rat) : Renderer Rat :=
  .over Embree.openSegment
    [plainPane 1 ⟨1 / 2, 1 / 2, 1 / 2, 1 / 2⟩ .Alphablend Alphablend.notAdditive,
     plainPane wall ⟨1, 1, 1, 1⟩ .Opaque Opaque.notAdditive] [] Color.black

def glassAndWall (wall : Rat) : List (Crossing Rat) := [⟨1, 1 / 4, 1 / 4, 0, 0⟩, ⟨wall, 1 / 4, 1 / 4, 1, 0⟩]

def glassAndWallColor (c : Crossing Rat) : Color Rat :=
  if c.geomID = 0 then ⟨1 / 2, 1 / 2, 1 / 2, 1 / 2⟩ else ⟨1, 1, 1, 1⟩

/-- The wall is in front of the light, and the light passes. -/
theorem getLightPathColor_loses_wall :
    (glassBeforeWall 5).embree.ReportsNearest Embree.openSegment ∧
    Surfaces (glassBeforeWall 5) 0 ⟨0, 0, 1⟩ 10 (glassAndWall 5) ∧
    (∀ c ∈ glassAndWall 5, (glassBeforeWall 5).texelOf c = .ok (glassAndWallColor c)) ∧
    ¬ ReturnsColor (glassBeforeWall 5) 0 ⟨0, 0, 1⟩ 10
      (composite shadow (layersOf (glassAndWall 5) glassAndWallColor)) := by
  refine ⟨exhaustive_reportsNearest _, surfaces_of_crossings (by decide +kernel) (by decide +kernel),
    by decide +kernel, ?_⟩
  have returned : (glassBeforeWall 5).getLightPathColor 2 0 ⟨0, 0, 1⟩ 10 =
      .ok ⟨3 / 4, 3 / 4, 3 / 4, 3 / 4⟩ := by decide +kernel
  rw [returnsColor_iff (Renderer.getLightPathColor_stable returned (by simp))]
  decide +kernel

theorem getLightPathColor_composite_close :
    ReturnsColor (glassBeforeWall (21 / 20)) 0 ⟨0, 0, 1⟩ 10
      (composite shadow (layersOf (glassAndWall (21 / 20)) glassAndWallColor)) :=
  (getLightPathColor_composite_iff (glassBeforeWall (21 / 20)) (exhaustive_reportsNearest _) 0 ⟨0, 0, 1⟩ 10
    (glassAndWall (21 / 20)) (surfaces_of_crossings (by decide +kernel) (by decide +kernel))
    glassAndWallColor (by decide +kernel)).mpr ⟨by decide +kernel, fun empty => by cases empty⟩

end RayTraceRenderer.Managed
