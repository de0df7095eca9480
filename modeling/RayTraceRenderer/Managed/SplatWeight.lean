import RayTraceRenderer.Managed.Sampling
import RayTraceRenderer.Managed.Material

/-! The weight of a terrain layer at a point.

A weight is interpolated in the layer's map the way a texture is sampled, so the map is
taken to repeat. Behind its last row and its last column the first ones follow.
-/

set_option autoImplicit false

namespace RayTraceRenderer.Managed

open Unity

/-! ## Maps -/

section
variable {K : Type} [Field K] {map : List (List K)} {w h : Nat}

structure Shaped (map : List (List K)) (w h : Nat) : Prop where
  wide : 0 < w
  high : 0 < h
  columns : map.length = w
  rows : ∀ column ∈ map, column.length = h
  managed : w * h ≤ 2 ^ 30

def column (map : List (List K)) (x : Int) : List K := map.getD x.toNat []

def cell (map : List (List K)) (x y : Int) : K := (column map x).getD y.toNat 0

omit [Field K] in
theorem Shaped.column (shaped : Shaped map w h) (x : Int) :
    arrayGet map (RayTraceTool.wrapIndex x w) = .ok (column map (x % w)) ∧ (column map (x % w)).length = h := by
  rcases shaped with ⟨wide, high, columns, rows, managed⟩
  have narrow : w ≤ 2 ^ 30 := (Nat.le_mul_of_pos_right w high).trans managed
  have left := Int.emod_nonneg x (show (w : Int) ≠ 0 by omega)
  have right := Int.emod_lt_of_pos x (show (0 : Int) < w by omega)
  have inside : (x % w).toNat < map.length := by omega
  have entry : Managed.column map (x % w) = map[(x % w).toNat] := by
    rw [Managed.column, List.getD_eq_getElem?_getD, List.getElem?_eq_getElem inside, Option.getD_some]
  rw [RayTraceTool.wrapIndex_eq_emod (by omega) (by omega), arrayGet_eq_ok, entry]
  exact ⟨⟨left, List.getElem?_eq_getElem inside⟩, rows _ (List.getElem_mem inside)⟩

theorem Shaped.cell (shaped : Shaped map w h) (x y : Int) :
    arrayGet (Managed.column map (x % w)) (RayTraceTool.wrapIndex y h) = .ok (cell map (x % w) (y % h)) := by
  have length := (shaped.column x).2
  rcases shaped with ⟨wide, high, -, -, managed⟩
  have low : h ≤ 2 ^ 30 := (Nat.le_mul_of_pos_left h wide).trans managed
  have below := Int.emod_nonneg y (show (h : Int) ≠ 0 by omega)
  have above := Int.emod_lt_of_pos y (show (0 : Int) < h by omega)
  have inside : (y % h).toNat < (Managed.column map (x % w)).length := by omega
  rw [RayTraceTool.wrapIndex_eq_emod (by omega) (by omega), arrayGet_eq_ok, Managed.cell,
    List.getD_eq_getElem?_getD, List.getElem?_eq_getElem inside, Option.getD_some]
  exact ⟨below, rfl⟩

end

section
variable {K : Type} [Field K] [LinearOrder K] [FloorRing K] {map : List (List K)} {w h : Nat}

-- The weight is interpolated along the first index of rows interpolated along the second.
theorem bilinearInterpolation_eq (shaped : Shaped map w h) (uv : Vector2 K) :
    RayTraceTool.bilinearInterpolation map w h uv =
      .ok (lerpAxis w (uv.x * w) fun x => lerpAxis h (uv.y * h) fun y => cell map x y) := by
  unfold RayTraceTool.bilinearInterpolation
  simp only [(shaped.column _).1, shaped.cell, Int.cast_natCast, bind, Except.bind]
  rfl

end

/-! ## Neighbours -/

section
variable {K : Type} [Field K] [LinearOrder K] [IsStrictOrderedRing K] [FloorRing K] {w h size : Nat} {value : K}
  {uv : Vector2 K}

def Near (size : Nat) (value : K) (i : Int) : Prop := (0 ≤ i ∧ i < size) ∧ |(i : K) - value| ≤ 1

-- Up to the last index, the entries read are neighbours.
theorem lerpAxis_near (fits : Fits value) (nonneg : 0 ≤ value) (inside : value ≤ size - 1) {entry : Int → K}
    {low high : K} (bounded : ∀ i, Near size value i → low ≤ entry i ∧ entry i ≤ high) :
    low ≤ lerpAxis size value entry ∧ lerpAxis size value entry ≤ high := by
  by_cases whole : Whole value
  · rcases whole with ⟨n, rfl⟩
    have lower : 0 ≤ n := by exact_mod_cast nonneg
    have upper : n ≤ size - 1 := by exact_mod_cast inside
    rw [lerpAxis_whole fits, Int.emod_eq_of_lt lower (by omega)]
    exact bounded n ⟨⟨lower, by omega⟩, by simp⟩
  · have lower : 0 ≤ ⌊value⌋ := Int.floor_nonneg.mpr nonneg
    have strict : (⌊value⌋ : K) < value := lt_of_le_of_ne (Int.floor_le value) fun same => whole ⟨_, same.symm⟩
    have next := Int.lt_floor_add_one value
    have upper : ⌊value⌋ < size - 1 := by
      have bound : (⌊value⌋ : K) < size - 1 := strict.trans_le inside
      exact_mod_cast bound
    rw [lerpAxis_above fits nonneg whole, Int.emod_eq_of_lt lower (by omega), Int.emod_eq_of_lt (by omega) (by omega)]
    apply lerpUnclamped_mem ⟨Int.fract_nonneg value, (Int.fract_lt_one value).le⟩
    · exact bounded _ ⟨⟨lower, by omega⟩, abs_le.mpr ⟨by linarith, by linarith⟩⟩
    · refine bounded _ ⟨⟨by omega, by omega⟩, abs_le.mpr ?_⟩
      push_cast
      exact ⟨by linarith, by linarith⟩

-- Behind the last index, the first entry counts.
theorem lerpAxis_far (fits : Fits value) (several : 2 ≤ size) (behind : (size : K) - 1 < value) (le : value ≤ size) :
    0 < lerpAxis size value (mark 0) := by
  have wide : (2 : K) ≤ size := by exact_mod_cast several
  by_cases whole : Whole value
  · rcases whole with ⟨n, rfl⟩
    have last : n = size := by
      have lower : (size : Int) - 1 < n := by exact_mod_cast behind
      have upper : n ≤ size := by exact_mod_cast le
      omega
    rw [lerpAxis_whole fits, last, Int.emod_self, mark, if_pos rfl]
    exact one_pos
  · have strict : value < size := lt_of_le_of_ne le fun same => whole ⟨size, by rw [same, Int.cast_natCast]⟩
    have floor : ⌊value⌋ = size - 1 := by
      rw [Int.floor_eq_iff]
      push_cast
      exact ⟨behind.le, by linarith⟩
    have positive : 0 < Int.fract value := by
      rw [Int.fract, floor]
      push_cast
      linarith
    rw [lerpAxis_above fits (by linarith) whole, floor, sub_add_cancel, Int.emod_self, Int.emod_eq_of_lt (by omega) (by omega)]
    have other : (mark 0 ((size : Int) - 1) : K) = 0 := if_neg (by omega)
    rw [other, mark, if_pos rfl, Mathf.lerpUnclamped]
    linarith

omit [FloorRing K] in
-- The first entry is not a neighbour there.
theorem mark_near {i : Int} (several : 2 ≤ size) (behind : (size : K) - 1 < value) (near : Near size value i) :
    mark 0 i = (0 : K) := by
  have lower := (abs_le.mp near.2).1
  have last : (size : Int) - 2 < i := by
    have bound : (size : K) - 2 < i := by linarith
    exact_mod_cast bound
  exact if_neg (by omega)

omit [IsStrictOrderedRing K] in
theorem lerpAxis_sub (size : Nat) (value : K) (entry entry' : Int → K) :
    lerpAxis size value (fun x => entry x - entry' x) = lerpAxis size value entry - lerpAxis size value entry' := by
  simp only [lerpAxis, Mathf.lerpUnclamped]
  ring

theorem lerpAxis_near_congr (fits : Fits value) (nonneg : 0 ≤ value) (inside : value ≤ size - 1)
    {entry entry' : Int → K} (same : ∀ i, Near size value i → entry i = entry' i) :
    lerpAxis size value entry = lerpAxis size value entry' := by
  have zero : ∀ i, Near size value i → (0 : K) ≤ entry i - entry' i ∧ entry i - entry' i ≤ 0 := by
    intro i near
    rw [same i near, sub_self]
    exact ⟨le_rfl, le_rfl⟩
  rcases lerpAxis_near fits nonneg inside zero with ⟨lower, upper⟩
  rw [lerpAxis_sub] at lower upper
  exact sub_eq_zero.mp (le_antisymm upper lower)

omit [FloorRing K] in
theorem scaled_fits {coordinate : K} (small : size ≤ 2 ^ 30) (inside : 0 ≤ coordinate ∧ coordinate ≤ 1) :
    Fits (coordinate * size) ∧ 0 ≤ coordinate * size ∧ coordinate * size ≤ size := by
  have bound : (size : K) ≤ 2 ^ 30 := by exact_mod_cast small
  have nonneg : 0 ≤ coordinate * size := mul_nonneg inside.1 size.cast_nonneg
  have le : coordinate * size ≤ size := mul_le_of_le_one_left size.cast_nonneg inside.2
  exact ⟨⟨by linarith, by linarith⟩, nonneg, le⟩

/-! ## Layers -/

structure LayerMap (material : SimpleTerrainMaterial K) (layer w h : Nat) (map : List (List K)) : Prop where
  width : material.alphamapWidth = w
  height : material.alphamapHeight = h
  stored : material.alphamaps[layer]? = some map
  shaped : Shaped map w h

omit [IsStrictOrderedRing K] in
theorem LayerMap.weight {material : SimpleTerrainMaterial K} {layer : Nat} {map : List (List K)}
    (layerMap : LayerMap material layer w h map) (uv : Vector2 K) :
    SimpleMaterialBase.layerWeight material uv layer =
      .ok (lerpAxis w (uv.y * w) fun x => lerpAxis h (uv.x * h) fun y => cell map x y) := by
  rcases layerMap with ⟨rfl, rfl, stored, shaped⟩
  have selected : listGet material.alphamaps layer = .ok map :=
    listGet_eq_ok.mpr ⟨Int.natCast_nonneg _, by rw [Int.toNat_natCast, stored]⟩
  unfold SimpleMaterialBase.layerWeight
  rw [selected]
  exact bilinearInterpolation_eq shaped ⟨uv.y, uv.x⟩

/-- Weights at a point are local, for all maps of a size: a weight stays between the entries around
the point, and no other entry has an influence on it. -/
def WeightsLocal (w h : Nat) (uv : Vector2 K) : Prop :=
  ∀ (material : SimpleTerrainMaterial K) layer map, LayerMap material layer w h map →
    ∃ weight, SimpleMaterialBase.layerWeight material uv layer = .ok weight ∧
      (∀ low high, (∀ i j, Near w (uv.y * w) i → Near h (uv.x * h) j → low ≤ cell map i j ∧ cell map i j ≤ high) →
        low ≤ weight ∧ weight ≤ high) ∧
      ∀ (material' : SimpleTerrainMaterial K) map', LayerMap material' layer w h map' →
        (∀ i j, Near w (uv.y * w) i → Near h (uv.x * h) j → cell map' i j = cell map i j) →
        SimpleMaterialBase.layerWeight material' uv layer = .ok weight

def plate (w h : Nat) (paint : Int → Int → K) : List (List K) :=
  (List.range w).map fun i : Nat => (List.range h).map fun j : Nat => paint (i : Int) (j : Int)

omit [Field K] [LinearOrder K] [IsStrictOrderedRing K] [FloorRing K] in
theorem plate_shaped (wide : 0 < w) (high : 0 < h) (managed : w * h ≤ 2 ^ 30) (paint : Int → Int → K) :
    Shaped (plate w h paint) w h where
  wide := wide
  high := high
  columns := by simp [plate]
  rows := by simp [plate]
  managed := managed

omit [LinearOrder K] [IsStrictOrderedRing K] [FloorRing K] in
theorem cell_plate (paint : Int → Int → K) {x y : Int} (insideX : 0 ≤ x ∧ x < w) (insideY : 0 ≤ y ∧ y < h) :
    cell (plate w h paint) x y = paint x y := by
  rcases Int.eq_ofNat_of_zero_le insideX.1 with ⟨i, rfl⟩
  rcases Int.eq_ofNat_of_zero_le insideY.1 with ⟨j, rfl⟩
  have left : i < w := Int.ofNat_lt.mp insideX.2
  have below : j < h := Int.ofNat_lt.mp insideY.2
  simp [cell, column, plate, List.getD_eq_getElem?_getD, left, below]

omit [IsStrictOrderedRing K] in
theorem LayerMap.weight_plate {material : SimpleTerrainMaterial K} {layer : Nat} {paint : Int → Int → K}
    (layerMap : LayerMap material layer w h (plate w h paint)) (uv : Vector2 K) :
    SimpleMaterialBase.layerWeight material uv layer =
      .ok (lerpAxis w (uv.y * w) fun x => lerpAxis h (uv.x * h) fun y => paint x y) := by
  rcases layerMap.shaped with ⟨wide, high, -, -, -⟩
  rw [layerMap.weight]
  congr 1
  apply lerpAxis_congr
  intro x
  apply lerpAxis_congr
  intro y
  rcases exists_residue wide x with ⟨i, left, column⟩
  rcases exists_residue high y with ⟨j, below, row⟩
  rw [column, row]
  exact cell_plate paint ⟨Int.natCast_nonneg i, by omega⟩ ⟨Int.natCast_nonneg j, by omega⟩

def plateMaterial (layer w h : Nat) (paint : Int → Int → K) : SimpleTerrainMaterial K where
  alphamapWidth := w
  alphamapHeight := h
  alphamapLayers := layer + 1
  alphamaps := List.replicate (layer + 1) (plate w h paint)
  textures := []

omit [LinearOrder K] [IsStrictOrderedRing K] [FloorRing K] in
theorem plateMaterial_layerMap (wide : 0 < w) (high : 0 < h) (managed : w * h ≤ 2 ^ 30) (layer : Nat)
    (paint : Int → Int → K) : LayerMap (plateMaterial layer w h paint) layer w h (plate w h paint) where
  width := rfl
  height := rfl
  stored := by simp [plateMaterial]
  shaped := plate_shaped wide high managed paint

omit [IsStrictOrderedRing K] in
-- Where no entry around the point counts, there is no weight.
theorem WeightsLocal.plate (weights : WeightsLocal w h uv) (wide : 0 < w) (high : 0 < h) (managed : w * h ≤ 2 ^ 30)
    (paint : Int → Int → K) (none : ∀ i j, Near w (uv.y * w) i → Near h (uv.x * h) j → paint i j = 0) :
    (lerpAxis w (uv.y * w) fun x => lerpAxis h (uv.x * h) fun y => paint x y) ≤ 0 := by
  have layerMap := plateMaterial_layerMap wide high managed 0 paint
  rcases weights _ 0 _ layerMap with ⟨weight, found, bounded, -⟩
  rw [layerMap.weight_plate] at found
  cases found
  apply (bounded 0 0 _).2
  intro i j nearY nearX
  rw [cell_plate paint nearY.1 nearX.1, none i j nearY nearX]
  exact ⟨le_rfl, le_rfl⟩

/-- Weights are local exactly up to the last row and the last column of the map. -/
theorem layerWeight_local_iff (wide : 2 ≤ w) (high : 2 ≤ h) (managed : w * h ≤ 2 ^ 30)
    (insideX : 0 ≤ uv.x ∧ uv.x ≤ 1) (insideY : 0 ≤ uv.y ∧ uv.y ≤ 1) :
    WeightsLocal w h uv ↔ uv.y * w ≤ w - 1 ∧ uv.x * h ≤ h - 1 := by
  have narrow : w ≤ 2 ^ 30 := (Nat.le_mul_of_pos_right w (by omega)).trans managed
  have low : h ≤ 2 ^ 30 := (Nat.le_mul_of_pos_left h (by omega)).trans managed
  rcases scaled_fits narrow insideY with ⟨fitsY, nonnegY, leY⟩
  rcases scaled_fits low insideX with ⟨fitsX, nonnegX, leX⟩
  constructor
  · intro weights
    constructor
    · by_contra behind
      have far := lerpAxis_far fitsY wide (not_le.mp behind) leY
      have none := weights.plate (by omega) (by omega) managed (fun x _ => mark 0 x)
        fun i _ near _ => mark_near wide (not_le.mp behind) near
      simp only [lerpAxis_const] at none
      exact not_lt.mpr none far
    · by_contra behind
      have far := lerpAxis_far fitsX high (not_le.mp behind) leX
      have none := weights.plate (by omega) (by omega) managed (fun _ y => mark 0 y)
        fun _ j _ near => mark_near high (not_le.mp behind) near
      simp only [lerpAxis_const] at none
      exact not_lt.mpr none far
  · rintro ⟨belowY, belowX⟩ material layer map layerMap
    refine ⟨_, layerMap.weight uv, ?_, ?_⟩
    · intro least greatest bounded
      apply lerpAxis_near fitsY nonnegY belowY
      intro i nearY
      apply lerpAxis_near fitsX nonnegX belowX
      intro j nearX
      exact bounded i j nearY nearX
    · intro material' map' layerMap' same
      rw [layerMap'.weight uv]
      congr 1
      apply lerpAxis_near_congr fitsY nonnegY belowY
      intro i nearY
      apply lerpAxis_near_congr fitsX nonnegX belowX
      intro j nearX
      exact same i j nearY nearX

theorem layerWeight_local_square : WeightsLocal 2 2 (⟨1 / 4, 1 / 2⟩ : Vector2 Rat) := by
  have insideX : (0 : Rat) ≤ 1 / 4 ∧ (1 / 4 : Rat) ≤ 1 := by norm_num
  have insideY : (0 : Rat) ≤ 1 / 2 ∧ (1 / 2 : Rat) ≤ 1 := by norm_num
  apply (layerWeight_local_iff le_rfl le_rfl (by decide) insideX insideY).mpr
  norm_num

/-- The first column of a map counts, the second does not. At the edge behind the second, the weight
is that of the first. -/
theorem layerWeight_opposite :
    let paint : Int → Int → Rat := fun x _ => mark 0 x
    SimpleMaterialBase.layerWeight (plateMaterial 0 2 2 paint) ⟨0, 1⟩ 0 = .ok 1 ∧
      (∀ i j, Near 2 (1 * 2 : Rat) i → Near 2 (0 * 2 : Rat) j → cell (plate 2 2 paint) i j = 0) ∧
      ¬ WeightsLocal 2 2 (⟨0, 1⟩ : Vector2 Rat) := by
  intro paint
  have behind : ((2 : Nat) : Rat) - 1 < 1 * 2 := by norm_num
  have none : ∀ i j, Near 2 (1 * 2 : Rat) i → Near 2 (0 * 2 : Rat) j → paint i j = 0 :=
    fun i _ near _ => mark_near le_rfl behind near
  have weight : SimpleMaterialBase.layerWeight (plateMaterial 0 2 2 paint) ⟨0, 1⟩ 0 = .ok 1 := by decide +kernel
  refine ⟨weight, fun i j nearY nearX => ?_, fun weights => ?_⟩
  · rw [cell_plate paint nearY.1 nearX.1, none i j nearY nearX]
  · have zero := weights.plate (by decide) (by decide) (by decide) paint none
    rw [(plateMaterial_layerMap (by decide) (by decide) (by decide) 0 paint).weight_plate, Except.ok.injEq] at weight
    rw [weight] at zero
    exact not_le.mpr one_pos zero

end

end RayTraceRenderer.Managed
