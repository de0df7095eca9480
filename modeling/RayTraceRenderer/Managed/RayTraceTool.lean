import RayTraceRenderer.Foundation.Exception
import RayTraceRenderer.Unity.Color
import Mathlib.Algebra.Order.Group.Abs

/-! The static class RayTraceTool: interpolation, texture sampling and random directions. -/

set_option autoImplicit false

namespace RayTraceRenderer.Managed

open Unity

variable {K σ : Type} [Field K] [LinearOrder K]

namespace RayTraceTool

/-! ## Interpolation over a triangle -/

def lerpVector2 (t0 t1 t2 : Vector2 K) (u v : K) : Vector2 K := (1 - u - v) • t0 + u • t1 + v • t2

def lerpVector3 (t0 t1 t2 : Vector3 K) (u v : K) : Vector3 K := (1 - u - v) • t0 + u • t1 + v • t2

/-! ## Sampling -/

/-- The index expression `((x % size) + size) % size`. -/
def wrapIndex (x size : Int) : Int := (wrap32 (x.tmod size + size)).tmod size

def texelIndex (width height x y : Int) : Int := wrap32 (wrapIndex y height * width + wrapIndex x width)

section
variable [FloorRing K]

/-- The four texels that a linear sample reads, in the order in which it reads them. -/
def linearReads (colors : List (Color K)) (width height : Int) (uv : Vector2 K) :
    Except Exn (Color K × Color K × Color K × Color K) := do
  let x := castInt (uv.x * width)
  let y := castInt (uv.y * height)
  let c00 ← arrayGet colors (texelIndex width height x y)
  let c01 ← arrayGet colors (texelIndex width height x (wrap32 (y + 1)))
  let c10 ← arrayGet colors (texelIndex width height (wrap32 (x + 1)) y)
  let c11 ← arrayGet colors (texelIndex width height (wrap32 (x + 1)) (wrap32 (y + 1)))
  return (c00, c01, c10, c11)

def linearSample (colors : List (Color K)) (width height : Int) (uv : Vector2 K) :
    Except Exn (Color K) := do
  let fx := uv.x * width - castInt (uv.x * width)
  let fy := uv.y * height - castInt (uv.y * height)
  let (c00, c01, c10, c11) ← linearReads colors width height uv
  let c0 := Color.lerpUnclamped c00 c01 fy
  let c1 := Color.lerpUnclamped c10 c11 fy
  return Color.lerpUnclamped c0 c1 fx

def pointSample (colors : List (Color K)) (width height : Int) (uv : Vector2 K) :
    Except Exn (Color K) := do
  let x := castInt (uv.x * width + 1 / 2)
  let y := castInt (uv.y * height + 1 / 2)
  arrayGet colors (texelIndex width height x y)

/-- The first index of `values` is the one of its first dimension. -/
def bilinearInterpolation (values : List (List K)) (width height : Int) (uv : Vector2 K) :
    Except Exn K := do
  let x := castInt (uv.x * width)
  let y := castInt (uv.y * height)
  let fx := uv.x * width - x
  let fy := uv.y * height - y
  let x0 := wrapIndex x width
  let x1 := wrapIndex (wrap32 (x + 1)) width
  let y0 := wrapIndex y height
  let y1 := wrapIndex (wrap32 (y + 1)) height
  let c00 ← arrayGet (← arrayGet values x0) y0
  let c01 ← arrayGet (← arrayGet values x0) y1
  let c10 ← arrayGet (← arrayGet values x1) y0
  let c11 ← arrayGet (← arrayGet values x1) y1
  let c0 := Mathf.lerpUnclamped c00 c01 fy
  let c1 := Mathf.lerpUnclamped c10 c11 fy
  return Mathf.lerpUnclamped c0 c1 fx

theorem pointSample_mem {colors : List (Color K)} {width height : Int} {uv : Vector2 K} {color : Color K}
    (sampled : pointSample colors width height uv = .ok color) : color ∈ colors :=
  arrayGet_mem sampled

theorem linearSample_const {colors : List (Color K)} {width height : Int} {uv : Vector2 K}
    {color constant : Color K} (uniform : ∀ texel ∈ colors, texel = constant)
    (sampled : linearSample colors width height uv = .ok color) : color = constant := by
  unfold linearSample at sampled
  rcases bind_eq_ok.mp sampled with ⟨texels, read, blended⟩
  unfold linearReads at read
  simp only [bind_eq_ok] at read
  rcases read with ⟨c00, h00, c01, h01, c10, h10, c11, h11, same⟩
  obtain rfl := Except.ok.inj same
  simp only at blended
  rw [uniform c00 (arrayGet_mem h00), uniform c01 (arrayGet_mem h01),
    uniform c10 (arrayGet_mem h10), uniform c11 (arrayGet_mem h11)] at blended
  simp only [Color.lerpUnclamped_self] at blended
  exact (Except.ok.inj blended).symm

end

end RayTraceTool

/-! ## Random directions -/

/-- UnityEngine.Random: a draw between two bounds, from the generator's state. -/
structure Random (K σ : Type) where
  range : K → K → StateM σ K

def Random.lowest : Random K Unit := ⟨fun min _ => pure min⟩

/-- The Halton tables are not read any more: both generators draw. -/
def HaltonTool.halton2 (random : Random K σ) (_index : Nat) (min max : K) : StateM σ K :=
  random.range min max

def HaltonTool.halton3 (random : Random K σ) (_index : Nat) (min max : K) : StateM σ K :=
  random.range min max

namespace RayTraceTool

variable [Mathf K] (random : Random K σ)

def getRandomDirsRoundProj (faceNormal : Vector3 K) (num : Int) : StateM σ (List (Vector3 K)) := do
  let axisTemp := if 9 / 10 < |faceNormal.dot Vector3.up| then Vector3.left else Vector3.up
  let axis0 := faceNormal.cross axisTemp
  let finalRot := Unity.Quaternion.angleAxis (← random.range 0 360) faceNormal
  (List.range num.toNat).mapM fun i => do
    let lenght0 := Mathf.sqrt (← HaltonTool.halton2 random i 0 1)
    let pos0 := lenght0 • axis0
    let pos1 := (Unity.Quaternion.angleAxis (← HaltonTool.halton3 random i 0 360) faceNormal).rotate pos0
    let dir := pos1 + Mathf.sqrt (1 - lenght0 * lenght0) • faceNormal
    return finalRot.rotate dir

def getRandomDirsBlinnPhongImportance2 (faceNormal reflectDir : Vector3 K) (smoothness : K) (num : Int) :
    StateM σ (List (Vector3 K)) := do
  let w := (Vector3.lerp faceNormal reflectDir smoothness).normalized
  let u := (⟨w.y, w.z, w.x⟩ : Vector3 K).cross w
  let v := w.cross u
  let shininess := Mathf.pow 8192 smoothness
  (List.range num.toNat).mapM fun i => do
    let a := Mathf.acos (Mathf.pow
      (1 - (← HaltonTool.halton2 random i 0 1) * (shininess + 1) / (shininess + 2)) (1 / (shininess + 1)))
    let a := a * (Mathf.pi * (1 / 2))
    let phi ← HaltonTool.halton3 random i 0 (Mathf.pi * 2)
    return Mathf.sin a • (Mathf.cos phi • u + Mathf.sin phi • v) + Mathf.cos a • w

theorem length_mapM {α β : Type} (f : α → StateM σ β) (xs : List α) (s : σ) :
    ((xs.mapM f).run s).1.length = xs.length := by
  induction xs generalizing s with
  | nil => rfl
  | cons x rest ih =>
    rw [List.mapM_cons]
    exact congrArg (· + 1) (ih _)

theorem length_getRandomDirsRoundProj (faceNormal : Vector3 K) (num : Int) (s : σ) :
    ((getRandomDirsRoundProj random faceNormal num).run s).1.length = num.toNat := by
  refine (length_mapM _ _ _).trans ?_
  exact List.length_range

theorem length_getRandomDirsBlinnPhongImportance2 (faceNormal reflectDir : Vector3 K) (smoothness : K)
    (num : Int) (s : σ) :
    ((getRandomDirsBlinnPhongImportance2 random faceNormal reflectDir smoothness num).run s).1.length =
      num.toNat := by
  refine (length_mapM _ _ _).trans ?_
  exact List.length_range

end RayTraceTool

end RayTraceRenderer.Managed
