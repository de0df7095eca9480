import RayTraceRenderer.Managed.SplatWeight

/-! The indices of the samplers.

Two of them read a texture row by row, the third a two-dimensional array, and all three wrap
their coordinates by one expression. Where a truncated coordinate is the largest Int32, the
next one is the smallest, and still wrapped to an index.
-/

set_option autoImplicit false

namespace RayTraceRenderer.Managed

open Unity RayTraceTool

/-- A truncated coordinate. -/
def IsInt32 (x : Int) : Prop := -2 ^ 31 ≤ x ∧ x < 2 ^ 31

theorem wrapIndex_mem {size : Nat} (positive : 1 ≤ size) (small : size ≤ 2 ^ 14) (x : Int) :
    0 ≤ wrapIndex x size ∧ wrapIndex x size < size := by
  rw [wrapIndex_eq_emod (by omega) (by omega)]
  exact ⟨Int.emod_nonneg x (by omega), Int.emod_lt_of_pos x (by omega)⟩

section
variable {K : Type} [Field K] {colors : List (Color K)} {table : List (List K)} {w h : Nat}

theorem texelIndex_mem (texels : Texels colors w h) (x y : Int) :
    0 ≤ texelIndex w h x y ∧ texelIndex w h x y < w * h := by
  have inside := exists_arrayGet_iff.mp ⟨_, texels.read x y⟩
  rw [texels.sized, Nat.cast_mul] at inside
  exact inside

/-- The array holds, row by row, what a channel of the table holds column by column. -/
def Flattens (colors : List (Color K)) (table : List (List K)) (w h : Nat) (channel : Color.Channel) : Prop :=
  ∀ i < w, ∀ j < h, (table[i]?.bind fun column => column[j]?) = colors[j * w + i]?.map fun color => color.channel channel

theorem Flattens.cell {channel : Color.Channel} (flattens : Flattens colors table w h channel) (texels : Texels colors w h)
    (x y : Int) : cell table (x % w) (y % h) = (texel colors w (x % w) (y % h)).channel channel := by
  rcases exists_residue texels.wide x with ⟨i, left, first⟩
  rcases exists_residue texels.high y with ⟨j, below, second⟩
  have stored := List.getElem?_eq_getElem (texels.inside left below)
  have entry := flattens i left j below
  rw [stored, Option.map_some, Option.bind_eq_some_iff] at entry
  rcases entry with ⟨column, listed, value⟩
  rw [first, second, texel_natCast, stored, Managed.cell, Managed.column]
  simp only [Int.toNat_natCast, List.getD_eq_getElem?_getD, listed, value, Option.getD_some]

variable [LinearOrder K] [FloorRing K]

theorem bilinear_eq_linear {channel : Color.Channel} (texels : Texels colors w h) (shaped : Shaped table w h)
    (flattens : Flattens colors table w h channel) (uv : Vector2 K) :
    ∃ color, linearSample colors w h uv = .ok color ∧
      bilinearInterpolation table w h uv = .ok (color.channel channel) := by
  rcases linearSample_channel texels uv with ⟨color, sampled, channels⟩
  refine ⟨color, sampled, ?_⟩
  rw [bilinearInterpolation_eq shaped, channels]
  congr 1
  apply lerpAxis_congr
  intro x
  apply lerpAxis_congr
  intro y
  exact flattens.cell texels x y

/-- Every index is inside its array, and is wrapped by the Euclidean remainder. So no sample throws, and
a table is sampled like the texture it is flattened to. -/
theorem samplers_inRange (wide : 1 ≤ w ∧ w ≤ 2 ^ 14) (high : 1 ≤ h ∧ h ≤ 2 ^ 14) :
    (∀ x y, IsInt32 x → IsInt32 y → ∀ column ∈ [x, wrap32 (x + 1)], ∀ row ∈ [y, wrap32 (y + 1)],
      (0 ≤ texelIndex w h column row ∧ texelIndex w h column row < w * h) ∧
        (0 ≤ wrapIndex column w ∧ wrapIndex column w < w) ∧ 0 ≤ wrapIndex row h ∧ wrapIndex row h < h) ∧
    (∀ size ∈ [w, h], ∀ x, IsInt32 x → wrapIndex x size = x % size ∧
      (x + 1 < 2 ^ 31 → wrapIndex (wrap32 (x + 1)) size = (x + 1) % size)) ∧
    (∀ (colors : List (Color K)) uv, colors.length = w * h →
      (∃ color, linearSample colors w h uv = .ok color) ∧ ∃ color, pointSample colors w h uv = .ok color) ∧
    ∀ (colors : List (Color K)) table channel uv, colors.length = w * h → table.length = w →
      (∀ column ∈ table, column.length = h) → Flattens colors table w h channel →
        ∃ color, linearSample colors w h uv = .ok color ∧
          bilinearInterpolation table w h uv = .ok (color.channel channel) := by
  have managed : w * h ≤ 2 ^ 30 := (Nat.mul_le_mul wide.2 high.2).trans (by decide)
  have texels : ∀ colors : List (Color K), colors.length = w * h → Texels colors w h :=
    fun colors sized => ⟨wide.1, high.1, sized, managed⟩
  refine ⟨?_, ?_, ?_, ?_⟩
  · intro x y _ _ column _ row _
    have sized : (List.replicate (w * h) (Color.black : Color K)).length = w * h := List.length_replicate
    exact ⟨texelIndex_mem (texels _ sized) column row, wrapIndex_mem wide.1 wide.2 column, wrapIndex_mem high.1 high.2 row⟩
  · intro size member x int32
    have bounds : 1 ≤ size ∧ size ≤ 2 ^ 14 := by
      rcases List.mem_pair.mp member with rfl | rfl
      · exact wide
      · exact high
    have small : (size : Int) ≤ 2 ^ 30 := by omega
    refine ⟨wrapIndex_eq_emod (by omega) small, fun fits => ?_⟩
    have lower := int32.1
    rw [wrap32_of_fits (by omega) fits, wrapIndex_eq_emod (by omega) small]
  · intro colors uv sized
    rcases linearSample_channel (texels colors sized) uv with ⟨color, sampled, -⟩
    exact ⟨⟨color, sampled⟩, _, pointSample_eq (texels colors sized) uv⟩
  · intro colors table channel uv sized columns rows flattens
    exact bilinear_eq_linear (texels colors sized) ⟨wide.1, high.1, columns, rows, managed⟩ flattens uv

end

theorem samplers_inRange_table : ∃ color : Color Rat,
    linearSample [Color.gray 0, Color.gray 2, Color.gray 4, Color.gray 1, Color.gray 3, Color.gray 5] 3 2 ⟨-1 / 6, 7 / 4⟩ =
      .ok color ∧
    bilinearInterpolation [[0, 1], [2, 3], [4, 5]] 3 2 ⟨-1 / 6, 7 / 4⟩ = .ok (color.channel .g) := by
  have indices := samplers_inRange (K := Rat) (w := 3) (h := 2) (by decide) (by decide)
  exact indices.2.2.2 _ _ .g _ rfl rfl (by decide) (by unfold Flattens; decide +kernel)

end RayTraceRenderer.Managed
