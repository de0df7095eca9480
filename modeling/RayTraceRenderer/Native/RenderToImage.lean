import RayTraceRenderer.Native.Batch
import RayTraceRenderer.Unity.Color
import Mathlib.Data.Int.Range
import Mathlib.Data.List.Nodup
import Mathlib.Data.List.ProdSigma

/-! The plugin's own renderer, which writes the distance of what it sees into an image.

The loops count from minus one half of the size to plus one half, and each half is a division
that drops the remainder.
-/

set_option autoImplicit false

namespace RayTraceRenderer.Native

open Unity

variable {K : Type} [Field K]

/-! ## The image -/

/-- An Image4f. The calls of `set` are kept to speak about. -/
structure Image (K : Type) where
  width : Int
  height : Int
  data : List (Color K)
  sets : List (Int × Int)

namespace Image

def new (width height : Int) : Image K where
  width := width
  height := height
  data := List.replicate (width * height).toNat ⟨0, 0, 0, 0⟩
  sets := []

omit [Field K] in
/-- Nothing is known of a write outside the memory of the image. -/
def set (image : Image K) (x y : Int) (c : Color K) : Option (Image K) :=
  let offset := y * image.width + x
  if 0 ≤ offset ∧ offset < image.data.length then
    some { image with data := image.data.set offset.toNat c, sets := image.sets ++ [(x, y)] }
  else none

end Image

/-! ## RenderToImage -/

structure View (K : Type) where
  width : Int
  height : Int
  pos : Vector3 K
  dir : Vector3 K
  up : Vector3 K
  fov : K
  length : K

def normalize [Mathf K] (a : Vector3 K) : Vector3 K := (1 / Mathf.sqrt (a.dot a)) • a

/-- The vectors `left` and `up` of the image plane, and its extents along them. -/
structure ImagePlane (K : Type) where
  left : Vector3 K
  up : Vector3 K
  lengthX : K
  lengthY : K

section
variable [Mathf K]

def View.plane (view : View K) : ImagePlane K :=
  let left := -view.dir.cross view.up
  let lengthX := Mathf.tan (view.fov / 2) * 2
  { left
    up := left.cross view.dir
    lengthX
    lengthY := lengthX * view.width / view.height }

def View.target (view : View K) (x y : Int) : Vector3 K :=
  view.pos + view.dir + (view.plane.lengthX * x / view.width) • view.plane.left +
    (view.plane.lengthY * y / view.height) • view.plane.up

def View.ray (view : View K) (stack : RTCRay K) (x y : Int) : RTCRay K :=
  { stack with
    org := view.pos
    dir := normalize (view.target x y - view.pos)
    tnear := 0
    tfar := view.length
    geomID := RTC_INVALID_GEOMETRY_ID
    primID := RTC_INVALID_GEOMETRY_ID
    instID := RTC_INVALID_GEOMETRY_ID
    mask := 0xFFFFFFFF
    time := 0 }

variable (embree : Embree K) (scene : RTCScene K) (stack : RTCRay K) (view : View K)

def renderPixel (x : Int) (image : Image K) (y : Int) : Option (Image K) :=
  let ray := embree.rtcIntersect scene (view.ray stack x y)
  let bright := ray.tfar / view.length
  image.set (x + view.width.tdiv 2) (y + view.height.tdiv 2) ⟨bright, bright, bright, 1⟩

def renderColumn (image : Image K) (x : Int) : Option (Image K) :=
  (Int.range ((-view.height).tdiv 2) (view.height.tdiv 2)).foldlM (renderPixel embree scene stack view x) image

def renderToImage : Option (Image K) :=
  (Int.range ((-view.width).tdiv 2) (view.width.tdiv 2)).foldlM (renderColumn embree scene stack view)
    (.new view.width view.height)

def render (width height : Int) (camPos camDir camUp : Nat → K) (fovDegree length : K) : Option (Image K) :=
  renderToImage embree scene stack
    { width, height
      pos := toVec3f camPos
      dir := toVec3f camDir
      up := toVec3f camUp
      fov := fovDegree * (31415926 / 10000000) / 180
      length }

end

/-! ## Coverage -/

/-- Every pixel is set exactly once, and nothing else is. -/
def Image.SetOnce (image : Image K) : Prop :=
  ∀ x y, image.sets.count (x, y) = if (0 ≤ x ∧ x < image.width) ∧ 0 ≤ y ∧ y < image.height then 1 else 0

structure Image.SizedFor (image : Image K) (view : View K) : Prop where
  width : image.width = view.width
  height : image.height = view.height
  length : (image.data.length : Int) = view.width * view.height

section
variable {view : View K}

omit [Field K] in
theorem Image.SizedFor.set {image : Image K} (sized : image.SizedFor view) {x y : Int} (c : Color K)
    (column : 0 ≤ x ∧ x < view.width) (row : 0 ≤ y ∧ y < view.height) :
    ∃ image', image.set x y c = some image' ∧ image'.SizedFor view ∧ image'.sets = image.sets ++ [(x, y)] := by
  have start : 0 ≤ y * view.width := mul_nonneg row.1 (column.1.trans column.2.le)
  have rows : (y + 1) * view.width ≤ view.height * view.width :=
    mul_le_mul_of_nonneg_right row.2 (column.1.trans column.2.le)
  have inside : 0 ≤ y * image.width + x ∧ y * image.width + x < image.data.length := by
    rw [sized.width, sized.length]
    constructor
    · linarith [column.1]
    · linarith [column.2]
  unfold Image.set
  rw [if_pos inside]
  refine ⟨_, rfl, ⟨sized.width, sized.height, ?_⟩, rfl⟩
  rw [List.length_set]
  exact sized.length

omit [Field K] in
theorem foldlM_sets {α : Type} {f : Image K → α → Option (Image K)} {pixels : α → List (Int × Int)} {xs : List α}
    (step : ∀ x ∈ xs, ∀ image : Image K, image.SizedFor view →
      ∃ image', f image x = some image' ∧ image'.SizedFor view ∧ image'.sets = image.sets ++ pixels x)
    {image : Image K} (sized : image.SizedFor view) :
    ∃ image', xs.foldlM f image = some image' ∧ image'.SizedFor view ∧
      image'.sets = image.sets ++ xs.flatMap pixels := by
  induction xs generalizing image with
  | nil => exact ⟨image, rfl, sized, by simp⟩
  | cons x rest ih =>
    obtain ⟨mid, first, sizedMid, setsMid⟩ := step x List.mem_cons_self image sized
    obtain ⟨image', later, sized', sets'⟩ := ih (fun y member => step y (List.mem_cons_of_mem x member)) sizedMid
    refine ⟨image', ?_, sized', ?_⟩
    · rw [List.foldlM_cons, first]
      exact later
    · rw [sets', setsMid, List.flatMap_cons, List.append_assoc]

/-- The pixel coordinates a loop gives out on an axis. -/
def axis (size : Int) : List Int := (Int.range ((-size).tdiv 2) (size.tdiv 2)).map (· + size.tdiv 2)

-- An odd size leaves its last pixel out.
theorem mem_axis {size i : Int} : i ∈ axis size ↔ 0 ≤ i ∧ i < 2 * size.tdiv 2 := by
  have halves : (-size).tdiv 2 = -size.tdiv 2 := Int.neg_tdiv size 2
  simp only [axis, List.mem_map, Int.mem_range_iff, halves]
  constructor
  · rintro ⟨x, ⟨lower, upper⟩, rfl⟩
    omega
  · rintro ⟨lower, upper⟩
    exact ⟨i - size.tdiv 2, ⟨by omega, by omega⟩, by omega⟩

theorem nodup_axis (size : Int) : (axis size).Nodup := by
  unfold axis Int.range
  rw [List.map_map]
  apply List.nodup_range.map
  intro i j same
  simpa using same

theorem axis_inside {size x : Int} (nonneg : 0 ≤ size) (member : x ∈ Int.range ((-size).tdiv 2) (size.tdiv 2)) :
    0 ≤ x + size.tdiv 2 ∧ x + size.tdiv 2 < size := by
  have half : size.tdiv 2 = size / 2 := Int.tdiv_eq_ediv_of_nonneg nonneg
  have loop : x + size.tdiv 2 ∈ axis size := List.mem_map.mpr ⟨x, member, rfl⟩
  rw [mem_axis, half] at loop
  omega

variable [Mathf K] (embree : Embree K) (scene : RTCScene K) (stack : RTCRay K)

theorem renderColumn_sets (wide : 0 ≤ view.width) (high : 0 ≤ view.height) {x : Int}
    (member : x ∈ Int.range ((-view.width).tdiv 2) (view.width.tdiv 2))
    {image : Image K} (sized : image.SizedFor view) :
    ∃ image', renderColumn embree scene stack view image x = some image' ∧ image'.SizedFor view ∧
      image'.sets = image.sets ++ (axis view.height).map fun row => (x + view.width.tdiv 2, row) := by
  have step : ∀ y ∈ Int.range ((-view.height).tdiv 2) (view.height.tdiv 2), ∀ image : Image K, image.SizedFor view →
      ∃ image', renderPixel embree scene stack view x image y = some image' ∧ image'.SizedFor view ∧
        image'.sets = image.sets ++ [(x + view.width.tdiv 2, y + view.height.tdiv 2)] :=
    fun y loop image sized => sized.set _ (axis_inside wide member) (axis_inside high loop)
  obtain ⟨image', returned, sized', sets⟩ := foldlM_sets step sized
  refine ⟨image', returned, sized', ?_⟩
  rw [sets, axis, List.map_map, ← List.map_eq_flatMap]
  rfl

theorem renderToImage_sets (wide : 0 ≤ view.width) (high : 0 ≤ view.height) :
    ∃ image, renderToImage embree scene stack view = some image ∧ image.SizedFor view ∧
      image.sets = axis view.width ×ˢ axis view.height := by
  have start : (Image.new view.width view.height : Image K).SizedFor view := by
    refine ⟨rfl, rfl, ?_⟩
    simp [Image.new, mul_nonneg wide high]
  have step : ∀ x ∈ Int.range ((-view.width).tdiv 2) (view.width.tdiv 2), ∀ image : Image K, image.SizedFor view →
      ∃ image', renderColumn embree scene stack view image x = some image' ∧ image'.SizedFor view ∧
        image'.sets = image.sets ++ (axis view.height).map fun row => (x + view.width.tdiv 2, row) :=
    fun x member image sized => renderColumn_sets embree scene stack wide high member sized
  obtain ⟨image, returned, sized, sets⟩ := foldlM_sets step start
  refine ⟨image, returned, sized, ?_⟩
  have along : axis view.width ×ˢ axis view.height =
      (axis view.width).flatMap fun column => (axis view.height).map fun row => (column, row) := rfl
  have columns : axis view.width =
      (Int.range ((-view.width).tdiv 2) (view.width.tdiv 2)).map (· + view.width.tdiv 2) := rfl
  rw [sets, along, columns, List.flatMap_map]
  rfl

omit [Field K] [Mathf K] in
theorem setOnce_iff {image : Image K} (sized : image.SizedFor view) (wide : 1 ≤ view.width) (high : 1 ≤ view.height)
    (sets : image.sets = axis view.width ×ˢ axis view.height) : image.SetOnce ↔ 2 ∣ view.width ∧ 2 ∣ view.height := by
  have halfWidth : view.width.tdiv 2 = view.width / 2 := Int.tdiv_eq_ediv_of_nonneg (by omega)
  have halfHeight : view.height.tdiv 2 = view.height / 2 := Int.tdiv_eq_ediv_of_nonneg (by omega)
  have count : ∀ x y, image.sets.count (x, y) = if x ∈ axis view.width ∧ y ∈ axis view.height then 1 else 0 := by
    intro x y
    rw [sets, ((nodup_axis view.width).product (nodup_axis view.height)).count]
    simp only [List.mem_product]
  unfold Image.SetOnce
  simp only [count, mem_axis, sized.width, sized.height, halfWidth, halfHeight]
  constructor
  · intro once
    have corner := once (view.width - 1) (view.height - 1)
    rw [if_pos (show (0 ≤ view.width - 1 ∧ view.width - 1 < view.width) ∧
      0 ≤ view.height - 1 ∧ view.height - 1 < view.height by omega)] at corner
    split at corner
    · constructor <;> omega
    · cases corner
  · rintro ⟨evenWidth, evenHeight⟩ x y
    rw [Int.mul_ediv_cancel' evenWidth, Int.mul_ediv_cancel' evenHeight]

/-- RenderToImage writes into its image only, and sets each of its pixels exactly once where both sizes are even. -/
theorem renderToImage_setOnce_iff (view : View K) (wide : 1 ≤ view.width) (high : 1 ≤ view.height) :
    ∃ image, renderToImage embree scene stack view = some image ∧
      image.width = view.width ∧ image.height = view.height ∧
      (image.SetOnce ↔ 2 ∣ view.width ∧ 2 ∣ view.height) := by
  obtain ⟨image, returned, sized, sets⟩ :=
    renderToImage_sets embree scene stack (zero_le_one.trans wide) (zero_le_one.trans high)
  exact ⟨image, returned, sized.width, sized.height, setOnce_iff sized wide high sets⟩

end

def sizedView (width height : Int) : View Rat :=
  { width, height, pos := 0, dir := ⟨0, 0, 1⟩, up := Vector3.up, fov := 1, length := 1000 }

theorem renderToImage_setOnce_four_by_two :
    let := Mathf.atUnits
    1 ≤ (sizedView 4 2).width ∧ 1 ≤ (sizedView 4 2).height ∧
      ∃ image, renderToImage emptyEmbree ⟨[]⟩ blankStack (sizedView 4 2) = some image ∧ image.SetOnce := by
  let := Mathf.atUnits
  refine ⟨by decide, by decide, ?_⟩
  obtain ⟨image, returned, -, -, once⟩ :=
    renderToImage_setOnce_iff emptyEmbree ⟨[]⟩ blankStack (sizedView 4 2) (by decide) (by decide)
  exact ⟨image, returned, once.mpr (by decide)⟩

/-- Three columns: the last one stays as it was allocated. -/
theorem renderToImage_misses_column :
    let := Mathf.atUnits
    ∃ image, renderToImage emptyEmbree ⟨[]⟩ blankStack (sizedView 3 2) = some image ∧
      image.sets = [(0, 0), (0, 1), (1, 0), (1, 1)] ∧ ¬ image.SetOnce := by
  let := Mathf.atUnits
  obtain ⟨image, returned, sized, sets⟩ :=
    renderToImage_sets emptyEmbree ⟨[]⟩ blankStack (show 0 ≤ (sizedView 3 2).width by decide) (by decide)
  refine ⟨image, returned, sets, fun once => ?_⟩
  have corner := once 2 0
  rw [sets, sized.width, sized.height] at corner
  exact absurd corner (by decide)

end RayTraceRenderer.Native
