import RayTraceRenderer.Managed.RayTraceTool
import RayTraceRenderer.Unity.Objects
import Mathlib.Data.List.Infix
import Mathlib.Logic.Function.Basic

/-! Textures and materials as the renderer copies them out of Unity. -/

set_option autoImplicit false

namespace RayTraceRenderer.Managed

open Unity

variable {K : Type} [Field K]

/-! ## Textures -/

/-- Never without texels, since an unusable texture is replaced by one white texel. -/
structure SimpleTexture (K : Type) [Field K] where
  colors : List (Color K)
  width : Nat
  height : Nat
  scale : Vector2 K := ⟨1, 1⟩
  sized : colors.length = width * height
  nonempty : colors ≠ []

namespace SimpleTexture

def blank : SimpleTexture K where
  colors := [Color.white]
  width := 1
  height := 1
  sized := rfl
  nonempty := by simp

/-- A texture that cannot be read is copied by a Blit first. -/
def getPixels (texture : Texture2D K) : List (Color K) :=
  if texture.importerReadable then texture.pixels else texture.blitted

omit [Field K] in
theorem getPixels_length (texture : Texture2D K) :
    (getPixels texture).length = texture.width * texture.height := by
  unfold getPixels
  split
  · exact texture.pixels_length
  · exact texture.blitted_length

def ofTexture2D [Mathf K] : Option (Texture2D K) → SimpleTexture K
  | none => blank
  | some texture =>
    let colors := (getPixels texture).map Color.linear
    if filled : colors = [] then blank
    else
      { colors
        width := texture.width
        height := texture.height
        sized := by rw [List.length_map, getPixels_length]
        nonempty := filled }

end SimpleTexture

/-! ## Materials -/

inductive RenderMode where
  | Opaque
  | Alphablend
  | Multiply
  | Additive
  deriving DecidableEq, Repr

theorem Opaque.notAdditive : RenderMode.Opaque ≠ .Additive := by decide

theorem Alphablend.notAdditive : RenderMode.Alphablend ≠ .Additive := by decide

abbrev TextureCache (K : Type) [Field K] := Int → Option (SimpleTexture K)

/-- No branch of the constructor assigns Additive. -/
structure SimpleMaterial (K : Type) [Field K] where
  glossiness : K
  metallic : K
  texture : SimpleTexture K
  color : Color K
  renderMode : RenderMode
  notAdditive : renderMode ≠ .Additive

def shaderContains (name word : String) : Bool := decide (word.toList <:+: name.toLower.toList)

/-- A field that no branch assigns has the first value of its enumeration. -/
def renderModeOf (mat : Material K) : RenderMode :=
  if mat.hasCutoff then .Alphablend
  else if shaderContains mat.shaderName "standard" then
    if mat.mode = some 0 then .Opaque else .Opaque
  else if shaderContains mat.shaderName "multiply" then .Multiply
  else if shaderContains mat.shaderName "transparent" then .Alphablend
  else .Opaque

omit [Field K] in
theorem renderModeOf_notAdditive (mat : Material K) : renderModeOf mat ≠ .Additive := by
  unfold renderModeOf
  repeat' split
  all_goals decide

section
variable [Mathf K]

def lookupTexture (mat : Material K) (textures : TextureCache K) : SimpleTexture K × TextureCache K :=
  match mat.mainTexture with
  | none => (.ofTexture2D none, textures)
  | some mainTexture =>
    match textures mainTexture.nativePtr with
    | some texture => (texture, textures)
    | none =>
      let texture := SimpleTexture.ofTexture2D mainTexture.texture2D
      (texture, Function.update textures mainTexture.nativePtr (some texture))

def SimpleMaterial.ofMaterial (mat : Material K) (textures : TextureCache K) :
    SimpleMaterial K × TextureCache K :=
  let (texture, textures) := lookupTexture mat textures
  let material : SimpleMaterial K :=
    { glossiness := mat.glossiness.getD 0
      metallic := mat.metallic.getD 0
      texture
      color := (mat.color.map Color.linear).getD Color.white
      renderMode := renderModeOf mat
      notAdditive := renderModeOf_notAdditive mat }
  (material, textures)

end

structure SimpleTerrainMaterial (K : Type) [Field K] where
  alphamapWidth : Nat
  alphamapHeight : Nat
  alphamapLayers : Nat
  alphamaps : List (List (List K))
  textures : List (SimpleTexture K)

/-- One weight map for each layer, cut out of the three-dimensional array. -/
def SimpleTerrainMaterial.ofTerrainData [Mathf K] (terrain : TerrainData K) :
    Except Exn (SimpleTerrainMaterial K) := do
  let alphamaps ← (List.range terrain.alphamapLayers).mapM fun l =>
    (List.range terrain.alphamapWidth).mapM fun i =>
      (List.range terrain.alphamapHeight).mapM fun j => do
        arrayGet (← arrayGet (← arrayGet terrain.alphamaps i) j) l
  let textures := terrain.splatPrototypes.map fun prototype =>
    { SimpleTexture.ofTexture2D prototype.texture with
      scale := ⟨terrain.size.x / prototype.tileSize.x, terrain.size.z / prototype.tileSize.y⟩ }
  return { alphamapWidth := terrain.alphamapWidth
           alphamapHeight := terrain.alphamapHeight
           alphamapLayers := terrain.alphamapLayers
           alphamaps, textures }

inductive SimpleMaterialBase (K : Type) [Field K] where
  | mesh (material : SimpleMaterial K)
  | terrain (material : SimpleTerrainMaterial K)

namespace SimpleMaterialBase

def glossiness : SimpleMaterialBase K → K
  | .mesh material => material.glossiness
  | .terrain _ => 0

def metallic : SimpleMaterialBase K → K
  | .mesh material => material.metallic
  | .terrain _ => 0

def getColor : SimpleMaterialBase K → Color K
  | .mesh material => material.color
  | .terrain _ => Color.white

def getRenderMode : SimpleMaterialBase K → RenderMode
  | .mesh material => material.renderMode
  | .terrain _ => .Opaque

theorem getRenderMode_notAdditive (material : SimpleMaterialBase K) :
    material.getRenderMode ≠ .Additive := by
  cases material with
  | mesh material => exact material.notAdditive
  | terrain material =>
    intro same
    cases same

variable [LinearOrder K] [FloorRing K]

abbrev Sampler (K : Type) := List (Color K) → Int → Int → Vector2 K → Except Exn (Color K)

def layerWeight (material : SimpleTerrainMaterial K) (uv : Vector2 K) (i : Nat) : Except Exn K := do
  RayTraceTool.bilinearInterpolation (← listGet material.alphamaps i) material.alphamapWidth
    material.alphamapHeight ⟨uv.y, uv.x⟩

def addLayer (sampler : Sampler K) (material : SimpleTerrainMaterial K) (uv : Vector2 K) (rlt : Color K)
    (i : Nat) : Except Exn (Color K) := do
  let alpha ← layerWeight material uv i
  if 4 / 1000 < alpha then
    let texture ← arrayGet material.textures i
    let color ← sampler texture.colors texture.width texture.height (uv.scale texture.scale)
    return rlt + alpha • color
  else return rlt

/-- Both sampling methods, of both classes. -/
def sample (sampler : Sampler K) (material : SimpleMaterialBase K) (uv : Vector2 K) : Except Exn (Color K) :=
  match material with
  | .mesh material => sampler material.texture.colors material.texture.width material.texture.height uv
  | .terrain material =>
    (List.range material.alphamapLayers).foldlM (addLayer sampler material uv) Color.black

def pointSample : SimpleMaterialBase K → Vector2 K → Except Exn (Color K) := sample RayTraceTool.pointSample

def linearSample : SimpleMaterialBase K → Vector2 K → Except Exn (Color K) := sample RayTraceTool.linearSample

/-! ### Textures of one colour -/

def Uniform (material : SimpleMaterialBase K) (constant : Color K) : Prop :=
  match material with
  | .mesh material => ∀ texel ∈ material.texture.colors, texel = constant
  | .terrain material => ∀ texture ∈ material.textures, ∀ texel ∈ texture.colors, texel = constant

def usedWeight (material : SimpleTerrainMaterial K) (uv : Vector2 K) : List Nat → K
  | [] => 0
  | i :: layers =>
    match layerWeight material uv i with
    | .ok alpha => (if 4 / 1000 < alpha then alpha else 0) + usedWeight material uv layers
    | .error _ => usedWeight material uv layers

def uniformColor (material : SimpleMaterialBase K) (uv : Vector2 K) (constant : Color K) : Color K :=
  match material with
  | .mesh _ => constant
  | .terrain material =>
    Color.black + usedWeight material uv (List.range material.alphamapLayers) • constant

theorem usedWeight_nonneg [IsStrictOrderedRing K] (material : SimpleTerrainMaterial K) (uv : Vector2 K)
    (layers : List Nat) : 0 ≤ usedWeight material uv layers := by
  induction layers with
  | nil => exact le_rfl
  | cons i layers ih =>
    unfold usedWeight
    cases layerWeight material uv i with
    | error why => exact ih
    | ok alpha =>
      apply add_nonneg _ ih
      split
      · linarith
      · exact le_rfl

theorem addLayer_eq_ok {sampler : Sampler K} {material : SimpleTerrainMaterial K} {uv : Vector2 K}
    {rlt color : Color K} {i : Nat} (added : addLayer sampler material uv rlt i = .ok color) :
    ∃ alpha, layerWeight material uv i = .ok alpha ∧
      ((4 / 1000 < alpha ∧ ∃ texture ∈ material.textures, ∃ layerColor,
          sampler texture.colors texture.width texture.height (uv.scale texture.scale) = .ok layerColor ∧
            color = rlt + alpha • layerColor) ∨
        (¬ 4 / 1000 < alpha ∧ color = rlt)) := by
  unfold addLayer at added
  rw [bind_eq_ok] at added
  rcases added with ⟨alpha, weight, added⟩
  refine ⟨alpha, weight, ?_⟩
  by_cases used : 4 / 1000 < alpha
  · simp only [used, if_true, bind_eq_ok] at added
    rcases added with ⟨texture, selected, layerColor, sampled, added⟩
    exact .inl ⟨used, texture, arrayGet_mem selected, layerColor, sampled, (Except.ok.inj added).symm⟩
  · simp only [used, if_false] at added
    exact .inr ⟨used, (Except.ok.inj added).symm⟩

theorem addLayer_uniform {sampler : Sampler K} {material : SimpleTerrainMaterial K} {uv : Vector2 K}
    {constant : Color K}
    (sampled : ∀ texture ∈ material.textures, ∀ uv color,
      sampler texture.colors texture.width texture.height uv = .ok color → color = constant)
    {rlt color : Color K} {i : Nat} (added : addLayer sampler material uv rlt i = .ok color) :
    ∃ alpha, layerWeight material uv i = .ok alpha ∧
      color = rlt + (if 4 / 1000 < alpha then alpha else 0) • constant := by
  obtain ⟨alpha, weight, ⟨used, texture, member, layerColor, layerSampled, rfl⟩ | ⟨dropped, rfl⟩⟩ := addLayer_eq_ok added
  · refine ⟨alpha, weight, ?_⟩
    rw [if_pos used, sampled texture member _ layerColor layerSampled]
  · refine ⟨alpha, weight, ?_⟩
    rw [if_neg dropped]
    ext <;> simp

-- The layers a uniform terrain adds, by induction on the layers still to come.
theorem addLayers_uniform {sampler : Sampler K} {material : SimpleTerrainMaterial K} {uv : Vector2 K}
    {constant : Color K}
    (sampled : ∀ texture ∈ material.textures, ∀ uv color,
      sampler texture.colors texture.width texture.height uv = .ok color → color = constant)
    (layers : List Nat) (rlt color : Color K)
    (added : layers.foldlM (addLayer sampler material uv) rlt = .ok color) :
    color = rlt + usedWeight material uv layers • constant := by
  induction layers generalizing rlt with
  | nil =>
    cases added
    ext <;> simp [usedWeight]
  | cons i layers ih =>
    rw [List.foldlM_cons, bind_eq_ok] at added
    rcases added with ⟨mid, first, rest⟩
    obtain ⟨alpha, weight, rfl⟩ := addLayer_uniform sampled first
    rw [ih _ rest, usedWeight, weight, Color.add_smul_add]

theorem sample_uniform {sampler : Sampler K} {material : SimpleMaterialBase K} {constant : Color K}
    (uniform : material.Uniform constant)
    (faithful : ∀ colors width height uv color, (∀ texel ∈ colors, texel = constant) →
      sampler colors width height uv = .ok color → color = constant)
    {uv : Vector2 K} {color : Color K} (sampled : material.sample sampler uv = .ok color) :
    color = material.uniformColor uv constant := by
  cases material with
  | mesh material => exact faithful _ _ _ _ _ uniform sampled
  | terrain material =>
    refine addLayers_uniform (fun texture member uv color => ?_) _ _ _ sampled
    exact faithful _ _ _ uv color (uniform texture member)

theorem pointSample_uniform {material : SimpleMaterialBase K} {constant : Color K}
    (uniform : material.Uniform constant) {uv : Vector2 K} {color : Color K}
    (sampled : material.pointSample uv = .ok color) : color = material.uniformColor uv constant :=
  sample_uniform uniform
    (fun _ _ _ _ color same sampled => same color (RayTraceTool.pointSample_mem sampled)) sampled

theorem linearSample_uniform {material : SimpleMaterialBase K} {constant : Color K}
    (uniform : material.Uniform constant) {uv : Vector2 K} {color : Color K}
    (sampled : material.linearSample uv = .ok color) : color = material.uniformColor uv constant :=
  sample_uniform uniform
    (fun _ _ _ _ _ same sampled => RayTraceTool.linearSample_const same sampled) sampled

end SimpleMaterialBase

end RayTraceRenderer.Managed
