import RayTraceRenderer.Managed.SplatWeight
import Mathlib.Data.Rat.Floor

/-! The blending of the layers of a terrain.

The weights of a point add up to one, since interpolation is linear and each cell's weights do. The
loop drops a layer whose weight is small, so at most that much of each layer is missing.
-/

set_option autoImplicit false

namespace RayTraceRenderer.Managed

open Unity

/-! ## Alphamaps -/

section
variable {K : Type} [Field K]

def cellWeights (terrain : TerrainData K) (x y : Int) : List K :=
  (terrain.alphamaps.getD x.toNat []).getD y.toNat []

def cellWeight (terrain : TerrainData K) (l : Nat) (x y : Int) : K := (cellWeights terrain x y).getD l 0

variable [LinearOrder K]

/-- Each cell has a weight for each layer. None is negative, and they sum to one. -/
structure Partition (terrain : TerrainData K) : Prop where
  wide : 0 < terrain.alphamapWidth
  high : 0 < terrain.alphamapHeight
  managed : terrain.alphamapWidth * terrain.alphamapHeight ≤ 2 ^ 30
  columns : terrain.alphamaps.length = terrain.alphamapWidth
  rows : ∀ column ∈ terrain.alphamaps, column.length = terrain.alphamapHeight
  layers : ∀ column ∈ terrain.alphamaps, ∀ weights ∈ column, weights.length = terrain.alphamapLayers
  nonneg : ∀ column ∈ terrain.alphamaps, ∀ weights ∈ column, ∀ weight ∈ weights, 0 ≤ weight
  unity : ∀ column ∈ terrain.alphamaps, ∀ weights ∈ column, weights.sum = 1

variable {terrain : TerrainData K}

theorem Partition.cell (partition : Partition terrain) {i j : Nat} (left : i < terrain.alphamapWidth)
    (below : j < terrain.alphamapHeight) :
    ∃ column ∈ terrain.alphamaps, cellWeights terrain i j ∈ column ∧ arrayGet terrain.alphamaps i = .ok column ∧
      arrayGet column j = .ok (cellWeights terrain i j) := by
  have atColumn : i < terrain.alphamaps.length := by rwa [partition.columns]
  have column := List.getElem_mem atColumn
  have atRow : j < terrain.alphamaps[i].length := by rwa [partition.rows _ column]
  have entry : cellWeights terrain i j = terrain.alphamaps[i][j] := by
    simp [cellWeights, List.getD_eq_getElem?_getD, atColumn, atRow]
  refine ⟨terrain.alphamaps[i], column, ?_, ?_, ?_⟩
  · rw [entry]
    exact List.getElem_mem atRow
  · exact arrayGet_eq_ok.mpr ⟨Int.natCast_nonneg i, List.getElem?_eq_getElem atColumn⟩
  · rw [entry]
    exact arrayGet_eq_ok.mpr ⟨Int.natCast_nonneg j, List.getElem?_eq_getElem atRow⟩

theorem Partition.read (partition : Partition terrain) {l i j : Nat} (layer : l < terrain.alphamapLayers)
    (left : i < terrain.alphamapWidth) (below : j < terrain.alphamapHeight) :
    (do arrayGet (← arrayGet (← arrayGet terrain.alphamaps i) j) l) = Except.ok (cellWeight terrain l i j) := by
  rcases partition.cell left below with ⟨column, member, weights, atColumn, atRow⟩
  have atLayer : l < (cellWeights terrain i j).length := by rwa [partition.layers column member _ weights]
  rw [atColumn]
  simp only [bind, Except.bind]
  rw [atRow]
  simp only [cellWeight, List.getD_eq_getElem?_getD, List.getElem?_eq_getElem atLayer, Option.getD_some]
  exact arrayGet_eq_ok.mpr ⟨Int.natCast_nonneg l, List.getElem?_eq_getElem atLayer⟩

theorem Partition.cellWeight_nonneg (partition : Partition terrain) {l i j : Nat} (left : i < terrain.alphamapWidth)
    (below : j < terrain.alphamapHeight) : 0 ≤ cellWeight terrain l i j := by
  rcases partition.cell left below with ⟨column, member, weights, -, -⟩
  unfold cellWeight
  rw [List.getD_eq_getElem?_getD]
  cases found : (cellWeights terrain i j)[l]? with
  | none => exact le_rfl
  | some weight => exact partition.nonneg column member _ weights weight (List.mem_of_getElem? found)

theorem Partition.cellWeight_sum (partition : Partition terrain) {i j : Nat} (left : i < terrain.alphamapWidth)
    (below : j < terrain.alphamapHeight) :
    ((List.range terrain.alphamapLayers).map fun l => cellWeight terrain l i j).sum = 1 := by
  rcases partition.cell left below with ⟨column, member, weights, -, -⟩
  have all : ((List.range terrain.alphamapLayers).map fun l => cellWeight terrain l i j) = cellWeights terrain i j := by
    rw [← partition.layers column member _ weights]
    apply List.ext_getElem
    · simp
    · intro l _ inside
      simp [cellWeight, List.getD_eq_getElem?_getD, inside]
  rw [all]
  exact partition.unity column member _ weights

end

/-! ## Weights -/

section
variable {K : Type} [Field K] [LinearOrder K] [FloorRing K]

theorem lerpAxis_add (size : Nat) (value : K) (entry entry' : Int → K) :
    lerpAxis size value (fun x => entry x + entry' x) = lerpAxis size value entry + lerpAxis size value entry' := by
  simp only [lerpAxis, Mathf.lerpUnclamped]
  ring

theorem lerpAxis_sum (size : Nat) (value : K) (layers : List Nat) (entry : Nat → Int → K) :
    (layers.map fun l => lerpAxis size value (entry l)).sum =
      lerpAxis size value fun x => (layers.map fun l => entry l x).sum := by
  induction layers with
  | nil => exact (lerpAxis_const size value 0).symm
  | cons l layers ih =>
    simp only [List.map_cons, List.sum_cons]
    rw [ih, lerpAxis_add]

def weightAt (terrain : TerrainData K) (uv : Vector2 K) (l : Nat) : K :=
  lerpAxis terrain.alphamapWidth (uv.y * terrain.alphamapWidth) fun x =>
    lerpAxis terrain.alphamapHeight (uv.x * terrain.alphamapHeight) fun y => cellWeight terrain l x y

variable {terrain : TerrainData K} {uv : Vector2 K}

theorem Partition.weightAt_sum (partition : Partition terrain) (uv : Vector2 K) :
    ((List.range terrain.alphamapLayers).map (weightAt terrain uv)).sum = 1 := by
  unfold weightAt
  rw [lerpAxis_sum]
  simp only [lerpAxis_sum]
  calc _ = lerpAxis terrain.alphamapWidth (uv.y * terrain.alphamapWidth) fun _ =>
        lerpAxis terrain.alphamapHeight (uv.x * terrain.alphamapHeight) fun _ => 1 := by
        apply lerpAxis_congr
        intro x
        apply lerpAxis_congr
        intro y
        rcases exists_residue partition.wide x with ⟨i, left, column⟩
        rcases exists_residue partition.high y with ⟨j, below, row⟩
        rw [column, row]
        exact partition.cellWeight_sum left below
    _ = 1 := by rw [lerpAxis_const, lerpAxis_const]

variable [IsStrictOrderedRing K]

theorem lerpAxis_nonneg {size : Nat} {value : K} (fits : Fits value) (nonneg : 0 ≤ value) {entry : Int → K}
    (entries : ∀ x : Int, 0 ≤ entry (x % size)) : 0 ≤ lerpAxis size value entry :=
  (lerpAxis_mem fits (.inr (.inl nonneg)) ⟨entries _, le_max_left _ _⟩ ⟨entries _, le_max_right _ _⟩).1

theorem Partition.weightAt_nonneg (partition : Partition terrain) (insideX : 0 ≤ uv.x ∧ uv.x ≤ 1)
    (insideY : 0 ≤ uv.y ∧ uv.y ≤ 1) (l : Nat) : 0 ≤ weightAt terrain uv l := by
  have narrow := (Nat.le_mul_of_pos_right _ partition.high).trans partition.managed
  have low := (Nat.le_mul_of_pos_left _ partition.wide).trans partition.managed
  rcases scaled_fits narrow insideY with ⟨fitsY, nonnegY, -⟩
  rcases scaled_fits low insideX with ⟨fitsX, nonnegX, -⟩
  apply lerpAxis_nonneg fitsY nonnegY
  intro x
  apply lerpAxis_nonneg fitsX nonnegX
  intro y
  rcases exists_residue partition.wide x with ⟨i, left, column⟩
  rcases exists_residue partition.high y with ⟨j, below, row⟩
  rw [column, row]
  exact partition.cellWeight_nonneg left below

/-! ## The cut-off -/

variable {material : SimpleTerrainMaterial K} {weight : Nat → K}

theorem usedWeight_le (layers : List Nat) (weights : ∀ l ∈ layers, SimpleMaterialBase.layerWeight material uv l = .ok (weight l))
    (nonneg : ∀ l, 0 ≤ weight l) : SimpleMaterialBase.usedWeight material uv layers ≤ (layers.map weight).sum := by
  induction layers with
  | nil => exact le_rfl
  | cons l layers ih =>
    have rest := ih fun l member => weights l (List.mem_cons_of_mem _ member)
    simp only [SimpleMaterialBase.usedWeight, weights l List.mem_cons_self, List.map_cons, List.sum_cons]
    split
    · linarith
    · linarith [nonneg l]

theorem le_usedWeight (layers : List Nat) (weights : ∀ l ∈ layers, SimpleMaterialBase.layerWeight material uv l = .ok (weight l)) :
    (layers.map weight).sum - 4 / 1000 * layers.length ≤ SimpleMaterialBase.usedWeight material uv layers := by
  induction layers with
  | nil => simp [SimpleMaterialBase.usedWeight]
  | cons l layers ih =>
    have rest := ih fun l member => weights l (List.mem_cons_of_mem _ member)
    simp only [SimpleMaterialBase.usedWeight, weights l List.mem_cons_self, List.map_cons, List.sum_cons,
      List.length_cons, Nat.cast_add, Nat.cast_one]
    split
    · linarith
    next dropped => linarith [not_lt.mp dropped]

/-! ## The loop over the layers -/

theorem addLayer_within {sampler : SimpleMaterialBase.Sampler K}
    (sampled : ∀ texture ∈ material.textures, ∀ color,
      sampler texture.colors texture.width texture.height (uv.scale texture.scale) = .ok color → color.Within 1)
    {rlt color : Color K} {bound : K} {l : Nat} (before : rlt.Within bound)
    (added : SimpleMaterialBase.addLayer sampler material uv rlt l = .ok color) :
    color.Within (bound + SimpleMaterialBase.usedWeight material uv [l]) := by
  obtain ⟨alpha, weight, ⟨used, texture, member, layerColor, layerSampled, rfl⟩ | ⟨dropped, rfl⟩⟩ :=
    SimpleMaterialBase.addLayer_eq_ok added
  · simp only [SimpleMaterialBase.usedWeight, weight, if_pos used, add_zero]
    have within := (sampled texture member layerColor layerSampled).smul (by linarith : 0 ≤ alpha)
    rw [mul_one] at within
    exact before.add within
  · simpa only [SimpleMaterialBase.usedWeight, weight, if_neg dropped, add_zero] using before

omit [IsStrictOrderedRing K] in
theorem usedWeight_cons (material : SimpleTerrainMaterial K) (uv : Vector2 K) (l : Nat) (layers : List Nat) :
    SimpleMaterialBase.usedWeight material uv (l :: layers) =
      SimpleMaterialBase.usedWeight material uv [l] + SimpleMaterialBase.usedWeight material uv layers := by
  simp only [SimpleMaterialBase.usedWeight]
  cases SimpleMaterialBase.layerWeight material uv l <;> simp

theorem addLayers_within {sampler : SimpleMaterialBase.Sampler K}
    (sampled : ∀ texture ∈ material.textures, ∀ color,
      sampler texture.colors texture.width texture.height (uv.scale texture.scale) = .ok color → color.Within 1)
    (layers : List Nat) {rlt color : Color K} {bound : K} (before : rlt.Within bound)
    (added : layers.foldlM (SimpleMaterialBase.addLayer sampler material uv) rlt = .ok color) :
    color.Within (bound + SimpleMaterialBase.usedWeight material uv layers) := by
  induction layers generalizing rlt bound with
  | nil =>
    cases added
    simpa [SimpleMaterialBase.usedWeight] using before
  | cons l layers ih =>
    rw [List.foldlM_cons, bind_eq_ok] at added
    rcases added with ⟨mid, first, rest⟩
    rw [usedWeight_cons, ← add_assoc]
    exact ih (addLayer_within sampled before first) rest

/-! ### Samples -/

variable {colors : List (Color K)} {w h : Nat}

omit [FloorRing K] in
theorem texel_within (within : ∀ texel ∈ colors, texel.Within 1) (x y : Int) :
    (texel colors w x y).Within 1 := by
  unfold texel
  cases found : colors[(y * w + x).toNat]? with
  | none => exact Color.within_black zero_le_one
  | some color => exact within color (List.mem_of_getElem? found)

theorem linearSample_within (texels : Texels colors w h) (within : ∀ texel ∈ colors, texel.Within 1)
    (fitsX : Fits (uv.x * w)) (fitsY : Fits (uv.y * h)) (nonnegX : 0 ≤ uv.x * w) (nonnegY : 0 ≤ uv.y * h)
    {color : Color K} (sampled : RayTraceTool.linearSample colors w h uv = .ok color) : color.Within 1 := by
  rcases linearSample_channel texels uv with ⟨_, same, channels⟩
  cases sampled.symm.trans same
  rw [Color.within_iff_channel]
  intro channel rgb
  have bounds : ∀ x y : Int, 0 ≤ (texel colors w x y).channel channel ∧ (texel colors w x y).channel channel ≤ 1 :=
    fun x y => Color.within_iff_channel.mp (texel_within within x y) channel rgb
  rw [channels]
  apply lerpAxis_mem fitsX (.inr (.inl nonnegX))
  · exact lerpAxis_mem fitsY (.inr (.inl nonnegY)) (bounds _ _) (bounds _ _)
  · exact lerpAxis_mem fitsY (.inr (.inl nonnegY)) (bounds _ _) (bounds _ _)

/-! ## Terrains -/

variable [Mathf K]

def splatTexture (terrain : TerrainData K) (prototype : SplatPrototype K) : SimpleTexture K :=
  { SimpleTexture.ofTexture2D prototype.texture with
    scale := ⟨terrain.size.x / prototype.tileSize.x, terrain.size.z / prototype.tileSize.y⟩ }

/-- Each layer has a texture, with texels between black and white, and a positive scale. -/
structure Splats (terrain : TerrainData K) : Prop where
  layers : terrain.alphamapLayers ≤ terrain.splatPrototypes.length
  texels : ∀ prototype ∈ terrain.splatPrototypes, ∀ texel ∈ (splatTexture terrain prototype).colors, texel.Within 1
  managed : ∀ prototype ∈ terrain.splatPrototypes,
    (splatTexture terrain prototype).width * (splatTexture terrain prototype).height ≤ 2 ^ 30
  scaled : ∀ prototype ∈ terrain.splatPrototypes,
    0 < (splatTexture terrain prototype).scale.x ∧ 0 < (splatTexture terrain prototype).scale.y

def blended (terrain : TerrainData K) : SimpleTerrainMaterial K where
  alphamapWidth := terrain.alphamapWidth
  alphamapHeight := terrain.alphamapHeight
  alphamapLayers := terrain.alphamapLayers
  alphamaps := (List.range terrain.alphamapLayers).map fun l =>
    plate terrain.alphamapWidth terrain.alphamapHeight (cellWeight terrain l)
  textures := terrain.splatPrototypes.map (splatTexture terrain)

omit [Field K] [LinearOrder K] [FloorRing K] [IsStrictOrderedRing K] [Mathf K] in
theorem mapM_range_cast {α : Type} {f : Int → Except Exn α} {g : Nat → α} (n : Nat)
    (each : ∀ i < n, f i = .ok (g i)) :
    (do let i ← List.range n; pure (i : Int)).mapM f = .ok ((List.range n).map g) := by
  have indices : (do let i ← List.range n; pure (i : Int)) = (List.range n).map fun i : Nat => (i : Int) :=
    List.map_eq_flatMap.symm
  rw [indices, List.mapM_map]
  exact mapM_ok (List.range n) fun i member => each i (List.mem_range.mp member)

omit [FloorRing K] [IsStrictOrderedRing K] in
theorem Partition.ofTerrainData (partition : Partition terrain) :
    SimpleTerrainMaterial.ofTerrainData terrain = .ok (blended terrain) := by
  unfold SimpleTerrainMaterial.ofTerrainData
  rw [bind_eq_ok]
  refine ⟨(blended terrain).alphamaps, ?_, rfl⟩
  apply mapM_range_cast
  intro l layer
  apply mapM_range_cast
  intro i left
  apply mapM_range_cast
  intro j below
  exact partition.read layer left below

omit [IsStrictOrderedRing K] in
theorem Partition.layerWeight (partition : Partition terrain) (uv : Vector2 K) {l : Nat}
    (layer : l < terrain.alphamapLayers) :
    SimpleMaterialBase.layerWeight (blended terrain) uv l = .ok (weightAt terrain uv l) := by
  have layerMap : LayerMap (blended terrain) l terrain.alphamapWidth terrain.alphamapHeight
      (plate terrain.alphamapWidth terrain.alphamapHeight (cellWeight terrain l)) :=
    { width := rfl
      height := rfl
      stored := by simp [blended, layer]
      shaped := plate_shaped partition.wide partition.high partition.managed (cellWeight terrain l) }
  exact layerMap.weight_plate uv

theorem Partition.usedWeight_mem (partition : Partition terrain) (insideX : 0 ≤ uv.x ∧ uv.x ≤ 1)
    (insideY : 0 ≤ uv.y ∧ uv.y ≤ 1) :
    1 - 4 / 1000 * terrain.alphamapLayers ≤
        SimpleMaterialBase.usedWeight (blended terrain) uv (List.range terrain.alphamapLayers) ∧
      SimpleMaterialBase.usedWeight (blended terrain) uv (List.range terrain.alphamapLayers) ≤ 1 := by
  have weights : ∀ l ∈ List.range terrain.alphamapLayers,
      SimpleMaterialBase.layerWeight (blended terrain) uv l = .ok (weightAt terrain uv l) :=
    fun l member => partition.layerWeight uv (List.mem_range.mp member)
  have least := le_usedWeight _ weights
  have greatest := usedWeight_le _ weights (partition.weightAt_nonneg insideX insideY)
  rw [partition.weightAt_sum, List.length_range] at least
  rw [partition.weightAt_sum] at greatest
  exact ⟨least, greatest⟩

omit [FloorRing K] [IsStrictOrderedRing K] in
theorem Splats.texture_texels (splats : Splats terrain) {texture : SimpleTexture K}
    (member : texture ∈ (blended terrain).textures) : Texels texture.colors texture.width texture.height := by
  rcases List.mem_map.mp member with ⟨prototype, listed, rfl⟩
  have sized := (splatTexture terrain prototype).sized
  have positive := List.length_pos_iff.mpr (splatTexture terrain prototype).nonempty
  rw [sized] at positive
  exact ⟨Nat.pos_of_mul_pos_right positive, Nat.pos_of_mul_pos_left positive, sized, splats.managed prototype listed⟩

omit [IsStrictOrderedRing K] in
theorem sample_returns (partition : Partition terrain) (splats : Splats terrain) {sampler : SimpleMaterialBase.Sampler K}
    (total : ∀ (colors : List (Color K)) (w h : Nat) uv, Texels colors w h → ∃ color, sampler colors w h uv = .ok color)
    (uv : Vector2 K) : ∃ color, (SimpleMaterialBase.terrain (blended terrain)).sample sampler uv = .ok color := by
  apply foldlM_returns
  intro l member rlt
  have layer : l < terrain.alphamapLayers := List.mem_range.mp member
  have textured : l < (blended terrain).textures.length := by
    simpa [blended] using layer.trans_le splats.layers
  have selected : arrayGet (blended terrain).textures l = .ok (blended terrain).textures[l] :=
    arrayGet_eq_ok.mpr ⟨Int.natCast_nonneg l, List.getElem?_eq_getElem textured⟩
  obtain ⟨color, sampled⟩ := total _ _ _ (uv.scale (blended terrain).textures[l].scale)
    (splats.texture_texels (List.getElem_mem textured))
  unfold SimpleMaterialBase.addLayer
  rw [partition.layerWeight uv layer]
  simp only [bind, Except.bind]
  split
  · rw [selected]
    simp only
    rw [sampled]
    exact ⟨_, rfl⟩
  · exact ⟨rlt, rfl⟩

theorem sample_within (partition : Partition terrain) (insideX : 0 ≤ uv.x ∧ uv.x ≤ 1) (insideY : 0 ≤ uv.y ∧ uv.y ≤ 1)
    {sampler : SimpleMaterialBase.Sampler K}
    (sampled : ∀ texture ∈ (blended terrain).textures, ∀ color,
      sampler texture.colors texture.width texture.height (uv.scale texture.scale) = .ok color → color.Within 1)
    {color : Color K} (returned : (SimpleMaterialBase.terrain (blended terrain)).sample sampler uv = .ok color) :
    color.Within 1 := by
  have within := addLayers_within sampled _ (Color.within_black le_rfl) returned
  rw [zero_add] at within
  exact within.mono (partition.usedWeight_mem insideX insideY).2

/-- Red, green and blue are those of a colour, less at most a part of them. -/
structure Dimmed (color constant : Color K) (missing : K) : Prop where
  r : constant.r * (1 - missing) ≤ color.r ∧ color.r ≤ constant.r
  g : constant.g * (1 - missing) ≤ color.g ∧ color.g ≤ constant.g
  b : constant.b * (1 - missing) ≤ color.b ∧ color.b ≤ constant.b

omit [FloorRing K] [Mathf K] in
theorem dimmed_smul {constant : Color K} {used missing : K} (bright : constant.Within 1)
    (bounds : 1 - missing ≤ used ∧ used ≤ 1) : Dimmed (Color.black + used • constant) constant missing := by
  have part : ∀ value : K, 0 ≤ value → value * (1 - missing) ≤ 0 + used * value ∧ 0 + used * value ≤ value := by
    intro value nonneg
    rw [zero_add, mul_comm used]
    exact ⟨mul_le_mul_of_nonneg_left bounds.1 nonneg, mul_le_of_le_one_right nonneg bounds.2⟩
  exact ⟨part _ bright.r.1, part _ bright.g.1, part _ bright.b.1⟩

def SplatsFit (terrain : TerrainData K) (uv : Vector2 K) : Prop :=
  ∀ prototype ∈ terrain.splatPrototypes,
    Fits (uv.x * (splatTexture terrain prototype).scale.x * (splatTexture terrain prototype).width) ∧
      Fits (uv.y * (splatTexture terrain prototype).scale.y * (splatTexture terrain prototype).height)

omit [IsStrictOrderedRing K] in
-- One colour in all textures is a colour between black and white, since there is a layer.
theorem Splats.constant_within (splats : Splats terrain) (partition : Partition terrain) {constant : Color K}
    (same : ∀ prototype ∈ terrain.splatPrototypes, ∀ texel ∈ (splatTexture terrain prototype).colors, texel = constant) :
    constant.Within 1 := by
  have some : 0 < terrain.alphamapLayers := by
    rw [pos_iff_ne_zero]
    intro none
    have sum := partition.weightAt_sum ⟨0, 0⟩
    simp [none] at sum
  rcases List.exists_mem_of_length_pos (some.trans_le splats.layers) with ⟨prototype, listed⟩
  rcases List.exists_mem_of_ne_nil _ (splatTexture terrain prototype).nonempty with ⟨texel, member⟩
  rw [← same prototype listed texel member]
  exact splats.texels prototype listed texel member

/-- A point sample of a terrain lies between black and white, and so does a linear sample as long as the
scaled coordinates fit in an Int32. Of one colour in all textures, both keep all but the cut-off of each
layer. -/
theorem terrain_blends (partition : Partition terrain) (splats : Splats terrain) (insideX : 0 ≤ uv.x ∧ uv.x ≤ 1)
    (insideY : 0 ≤ uv.y ∧ uv.y ≤ 1) :
    ∃ material, SimpleTerrainMaterial.ofTerrainData terrain = .ok material ∧
      (∃ color, (SimpleMaterialBase.terrain material).pointSample uv = .ok color ∧ color.Within 1) ∧
      (∃ color, (SimpleMaterialBase.terrain material).linearSample uv = .ok color ∧
        (SplatsFit terrain uv → color.Within 1)) ∧
      ∀ constant, (∀ prototype ∈ terrain.splatPrototypes, ∀ texel ∈ (splatTexture terrain prototype).colors,
          texel = constant) →
        ∀ color, ((SimpleMaterialBase.terrain material).pointSample uv = .ok color ∨
            (SimpleMaterialBase.terrain material).linearSample uv = .ok color) →
          Dimmed color constant (4 / 1000 * terrain.alphamapLayers) := by
  refine ⟨blended terrain, partition.ofTerrainData, ?_, ?_, ?_⟩
  · obtain ⟨color, returned⟩ := sample_returns partition splats
      (fun _ _ _ uv texels => ⟨_, pointSample_eq texels uv⟩) uv
    refine ⟨color, returned, sample_within partition insideX insideY ?_ returned⟩
    intro texture member layerColor sampled
    rcases List.mem_map.mp member with ⟨prototype, listed, rfl⟩
    exact splats.texels prototype listed _ (RayTraceTool.pointSample_mem sampled)
  · obtain ⟨color, returned⟩ := sample_returns partition splats
      (fun _ _ _ uv texels => ⟨_, (linearSample_channel texels uv).choose_spec.1⟩) uv
    refine ⟨color, returned, fun fit => sample_within partition insideX insideY ?_ returned⟩
    intro texture member layerColor sampled
    have texels := splats.texture_texels member
    rcases List.mem_map.mp member with ⟨prototype, listed, rfl⟩
    rcases fit prototype listed with ⟨fitsX, fitsY⟩
    rcases splats.scaled prototype listed with ⟨scaleX, scaleY⟩
    have nonnegX := mul_nonneg (mul_nonneg insideX.1 scaleX.le) (Nat.cast_nonneg (splatTexture terrain prototype).width)
    have nonnegY := mul_nonneg (mul_nonneg insideY.1 scaleY.le) (Nat.cast_nonneg (splatTexture terrain prototype).height)
    exact linearSample_within texels (splats.texels prototype listed) fitsX fitsY nonnegX nonnegY sampled
  · intro constant same color returned
    have uniform : (SimpleMaterialBase.terrain (blended terrain)).Uniform constant := by
      intro texture member
      rcases List.mem_map.mp member with ⟨prototype, listed, rfl⟩
      exact same prototype listed
    have blend : color = (SimpleMaterialBase.terrain (blended terrain)).uniformColor uv constant := by
      rcases returned with returned | returned
      · exact SimpleMaterialBase.pointSample_uniform uniform returned
      · exact SimpleMaterialBase.linearSample_uniform uniform returned
    rw [blend]
    exact dimmed_smul (splats.constant_within partition same) (partition.usedWeight_mem insideX insideY)

end

/-! ### A terrain of one cell and one layer -/

def chequer : Texture2D Rat where
  width := 2
  height := 1
  importerReadable := true
  pixels := [Color.gray 0, Color.gray 1]
  blitted := [Color.gray 0, Color.gray 1]
  pixels_length := rfl
  blitted_length := rfl

/-- The texture is tiled in squares of some size. -/
def chequered (tile : Rat) : TerrainData Rat where
  heightmapWidth := 2
  heightmapHeight := 2
  size := ⟨1, 1, 1⟩
  heights := [[0, 0], [0, 0]]
  interpolatedNormal _ _ := ⟨0, 1, 0⟩
  alphamapWidth := 1
  alphamapHeight := 1
  alphamapLayers := 1
  alphamaps := [[[1]]]
  splatPrototypes := [⟨some chequer, ⟨tile, tile⟩⟩]

def chequerTexture (tile : Rat) : SimpleTexture Rat where
  colors := [Color.gray 0, Color.gray 1]
  width := 2
  height := 1
  scale := ⟨1 / tile, 1 / tile⟩
  sized := rfl
  nonempty := by simp

theorem chequered_texture {tile : Rat} {prototype : SplatPrototype Rat}
    (listed : prototype ∈ (chequered tile).splatPrototypes) :
    letI := Mathf.atUnits
    splatTexture (chequered tile) prototype = chequerTexture tile := by
  cases List.mem_singleton.mp listed
  rfl

theorem chequered_partition (tile : Rat) : Partition (chequered tile) where
  wide := Nat.one_pos
  high := Nat.one_pos
  managed := Nat.one_le_two_pow
  columns := rfl
  rows := by simp [chequered]
  layers := by simp [chequered]
  nonneg := by simp [chequered]
  unity := by simp [chequered]

theorem chequered_splats {tile : Rat} (positive : 0 < tile) :
    letI := Mathf.atUnits
    Splats (chequered tile) := by
  let := Mathf.atUnits
  refine ⟨le_rfl, ?_, ?_, ?_⟩
  · intro prototype listed
    simp only [chequered_texture listed, chequerTexture, List.forall_mem_cons]
    exact ⟨Color.within_gray (by norm_num), Color.within_gray (by norm_num), by simp⟩
  · intro prototype listed
    rw [chequered_texture listed]
    norm_num [chequerTexture]
  · intro prototype listed
    rw [chequered_texture listed]
    exact ⟨one_div_pos.mpr positive, one_div_pos.mpr positive⟩

theorem terrain_blends_chequer :
    letI := Mathf.atUnits
    ∃ material, SimpleTerrainMaterial.ofTerrainData (chequered 1) = .ok material ∧
      ∃ color, (SimpleMaterialBase.terrain material).linearSample ⟨1 / 2, 1 / 2⟩ = .ok color ∧ color.Within 1 := by
  let := Mathf.atUnits
  have insideX : 0 ≤ (⟨1 / 2, 1 / 2⟩ : Vector2 Rat).x ∧ (⟨1 / 2, 1 / 2⟩ : Vector2 Rat).x ≤ 1 := by norm_num
  have insideY : 0 ≤ (⟨1 / 2, 1 / 2⟩ : Vector2 Rat).y ∧ (⟨1 / 2, 1 / 2⟩ : Vector2 Rat).y ≤ 1 := by norm_num
  obtain ⟨material, built, -, ⟨color, sampled, within⟩, -⟩ :=
    terrain_blends (chequered_partition 1) (chequered_splats one_pos) insideX insideY
  refine ⟨material, built, color, sampled, within ?_⟩
  intro prototype listed
  rw [chequered_texture listed]
  norm_num [chequerTexture, Fits]

/-- With a tile of 2^-31, the scaled coordinate at the edge of the terrain does not fit. The sample is
brighter than any colour. -/
theorem linearSample_bright :
    letI := Mathf.atUnits
    Partition (chequered (1 / 2 ^ 31)) ∧ Splats (chequered (1 / 2 ^ 31)) ∧
      ∃ material, SimpleTerrainMaterial.ofTerrainData (chequered (1 / 2 ^ 31)) = .ok material ∧
        (SimpleMaterialBase.terrain material).linearSample ⟨1, 0⟩ = .ok ⟨6442450944, 6442450944, 6442450944, 6442450945⟩ := by
  let := Mathf.atUnits
  refine ⟨chequered_partition _, chequered_splats (by norm_num), blended _, (chequered_partition _).ofTerrainData, ?_⟩
  decide +kernel

end RayTraceRenderer.Managed
