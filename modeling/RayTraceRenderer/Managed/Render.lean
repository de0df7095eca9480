import RayTraceRenderer.Foundation.Filling
import RayTraceRenderer.Managed.Tracing
import RayTraceRenderer.Native.RenderToImage
import Mathlib.Data.Rat.Floor

/-! Render: the picture, column after column.

The loops count the pixels from one corner of the picture and store them from the opposite one.
After each column the progress callback is asked whether to go on.
-/

set_option autoImplicit false

namespace RayTraceRenderer.Managed

open Unity Native Recursion Filling

variable {K σ : Type} [Field K] [LinearOrder K]

/-! ## The texture that is rendered to -/

/-- A SimpleTexture made for a size, which is not made from a Texture2D and may be empty. The
calls of SetColor are kept to speak about. -/
structure TargetTexture (K : Type) where
  colors : List (Color K)
  width : Int
  height : Int
  setColors : List ((Int × Int) × Color K)

namespace TargetTexture

omit [LinearOrder K] in
/-- The colours of the new array are all set to black. -/
def new (width height : Int) : Except Exn (TargetTexture K) := do
  let colors ← newArray (wrap32 (width * height)) Color.black
  return { colors, width, height, setColors := [] }

omit [Field K] [LinearOrder K] in
def setColor (texture : TargetTexture K) (x y : Int) (color : Color K) : Except Exn (TargetTexture K) := do
  let colors ← arraySet texture.colors (wrap32 (wrap32 (y * texture.width) + x)) color
  return { texture with colors, setColors := texture.setColors ++ [((x, y), color)] }

end TargetTexture

/-- Unity's `Color.gamma`, with the function it applies to a channel. -/
def gamma (linearToGammaSpace : K → K) (p : Color K) : Color K :=
  ⟨linearToGammaSpace p.r, linearToGammaSpace p.g, linearToGammaSpace p.b, p.a⟩

/-- The answers of the progress callback are kept to speak about. -/
structure Frame (K : Type) where
  targetTexture : TargetTexture K
  curIndex : Int
  answers : List Bool

/-! ## Primary rays -/

/-- What Render reads of the renderer's fields and of its camera. -/
structure RenderInput (K : Type) where
  width : Int
  height : Int
  sampleNum : Int
  antiAliasing : Bool
  position : Vector3 K
  forward : Vector3 K
  up : Vector3 K
  fieldOfView : K

namespace RenderInput

variable [Mathf K] (input : RenderInput K)

omit [Field K] [LinearOrder K] [Mathf K] in
def splitPixel : Nat := if input.antiAliasing then 3 else 1

omit [LinearOrder K] in
def plane : ImagePlane K :=
  let left := input.forward.cross input.up
  let lengthY := Mathf.tan (Mathf.deg2Rad * input.fieldOfView / 2) * 2
  { left
    up := left.cross input.forward
    lengthX := lengthY * input.width / input.height
    lengthY }

omit [LinearOrder K] in
/-- Where a sub-sample lies in the image plane, along its two vectors. -/
def offset (i j ax ay : Nat) : Vector2 K :=
  let x := i - input.width.tdiv 2
  let y := input.height.tdiv 2 - j
  { x := input.plane.lengthX * (x + ax / input.splitPixel) / input.width
    y := input.plane.lengthY * (y + ay / input.splitPixel) / input.height }

omit [LinearOrder K] in
def target (i j ax ay : Nat) : Vector3 K :=
  let offset := input.offset i j ax ay
  input.position + input.forward + offset.x • input.plane.left + offset.y • input.plane.up

def primaryCall (i j ax ay : Nat) : TraceCall K where
  startPos := input.position
  rayDir := (input.target i j ax ay - input.position).normalized
  sample := input.sampleNum.tdiv (input.splitPixel * input.splitPixel)
  depth := 3

/-! ## Render -/

variable (linearToGammaSpace : K → K) (trace : TraceCall K → Action σ (Stop Exn) (Color K))
  (updateProgress : K → StateM σ Bool)

def pixelColor (i j : Nat) : Action σ (Stop Exn) (Color K) := do
  let splits := List.range input.splitPixel
  let color ← splits.foldlM (fun color ax =>
    splits.foldlM (fun color ay => return color + (← trace (input.primaryCall i j ax ay))) color) Color.black
  let color := color.div (input.splitPixel * input.splitPixel : Nat)
  return gamma linearToGammaSpace { color with a := 1 }

def renderPixel (i : Nat) (frame : Frame K) (j : Nat) : Action σ (Stop Exn) (Frame K) := do
  let color ← input.pixelColor linearToGammaSpace trace i j
  let targetTexture ← lift
    ((frame.targetTexture.setColor (input.width - i - 1) (input.height - j - 1) color).mapError .error)
  return { frame with targetTexture, curIndex := frame.curIndex + 1 }

def renderColumns : List Nat → Frame K → Action σ (Stop Exn) (Frame K)
  | [], frame => pure frame
  | i :: rest, frame => do
    let frame ← (List.range input.height.toNat).foldlM (input.renderPixel linearToGammaSpace trace i) frame
    let waitNum := wrap32 (input.width * input.height)
    let answer ← liftState (updateProgress (frame.curIndex / waitNum))
    let frame := { frame with answers := frame.answers ++ [answer] }
    if answer then return frame else renderColumns rest frame

def render : Action σ (Stop Exn) (Frame K) := do
  let _answer ← liftState (updateProgress 0)
  let targetTexture ← lift ((TargetTexture.new input.width input.height).mapError .error)
  input.renderColumns linearToGammaSpace trace updateProgress (List.range input.width.toNat) ⟨targetTexture, 0, []⟩

/-! ## Coverage -/

/-- The pixel that the loops set at a column and a row. -/
def pixel (point : Nat × Nat) : Int × Int := (input.width - point.1 - 1, input.height - point.2 - 1)

def place (i j : Nat) : Nat := ((input.height - j - 1) * input.width + (input.width - i - 1)).toNat

/-- The pixels of the given points hold what SetColor was last called with, which is right for them,
and all others are black. -/
structure Painted (right : Nat → Nat → Color K → Prop) (points : List (Nat × Nat)) (answers : List Bool)
    (frame : Frame K) : Prop where
  width : frame.targetTexture.width = input.width
  length : (frame.targetTexture.colors.length : Int) = input.width * input.height
  answers : frame.answers = answers
  inside : ∀ point ∈ points, (point.1 : Int) < input.width ∧ (point.2 : Int) < input.height
  setColors : frame.targetTexture.setColors.map Prod.fst = points.map input.pixel
  stored : ∀ x y color, ((x, y), color) ∈ frame.targetTexture.setColors →
    frame.targetTexture.colors[(y * input.width + x).toNat]? = some color
  right : ∀ point color, (input.pixel point, color) ∈ frame.targetTexture.setColors → right point.1 point.2 color
  black : ∀ x y, (0 ≤ x ∧ x < input.width) → 0 ≤ y ∧ y < input.height → (x, y) ∉ points.map input.pixel →
    frame.targetTexture.colors[(y * input.width + x).toNat]? = some Color.black

/-- The frame that Render leaves when it has been through some columns: their pixels, which are the
rightmost ones, are set once each and hold the colours they were set to, and the others are black. -/
structure Rendered (frame : Frame K) : Prop where
  columns : frame.answers.length ≤ input.width
  once : ∀ x y, (frame.targetTexture.setColors.map Prod.fst).count (x, y) =
    if (input.width - frame.answers.length ≤ x ∧ x < input.width) ∧ 0 ≤ y ∧ y < input.height then 1 else 0
  stored : ∀ x y color, ((x, y), color) ∈ frame.targetTexture.setColors →
    frame.targetTexture.colors[(y * input.width + x).toNat]? = some color
  black : ∀ x y, (0 ≤ x ∧ x < input.width - frame.answers.length) → 0 ≤ y ∧ y < input.height →
    frame.targetTexture.colors[(y * input.width + x).toNat]? = some Color.black
  cancelled : frame.answers.length < input.width → frame.answers.getLast? = some true
  earlier : true ∉ frame.answers.dropLast

/-- What is right at a pixel is right in all columns that were rendered. -/
def Paints (right : Nat → Nat → Color K → Prop) (frame : Frame K) : Prop :=
  ∀ i j : Nat, i < frame.answers.length → (j : Int) < input.height →
    ∃ color, frame.targetTexture.colors[input.place i j]? = some color ∧ right i j color

section
variable {input linearToGammaSpace trace updateProgress} {right : Nat → Nat → Color K → Prop}
  {points : List (Nat × Nat)} {answers : List Bool} {frame : Frame K} {stopped : Stop (Stop Exn) → Prop}

omit [Field K] [LinearOrder K] [Mathf K] in
-- A later row begins where the one before has ended.
theorem row_before {width x y x' y' : Int} (column : x < width) (column' : 0 ≤ x' ∧ x' < width) (before : y < y') :
    y * width + x < y' * width + x' := by
  have next : (y + 1) * width ≤ y' * width := mul_le_mul_of_nonneg_right before (column'.1.trans column'.2.le)
  linarith [column'.1]

omit [Field K] [LinearOrder K] [Mathf K] in
theorem index_injective {width x y x' y' : Int} (column : 0 ≤ x ∧ x < width) (column' : 0 ≤ x' ∧ x' < width)
    (same : y * width + x = y' * width + x') : (x, y) = (x', y') := by
  rcases lt_trichotomy y y' with before | rfl | behind
  · exact absurd same (row_before column.2 column' before).ne
  · rw [add_left_cancel same]
  · exact absurd same (row_before column'.2 column behind).ne'

theorem index_fits {width height x y : Int} (column : 0 ≤ x ∧ x < width) (row : 0 ≤ y ∧ y < height) :
    0 ≤ y * width ∧ y * width + x < width * height := by
  constructor
  · exact mul_nonneg row.1 (column.1.trans column.2.le)
  · have last : y * width + x < height * width + 0 := row_before column.2 ⟨le_rfl, column.1.trans_lt column.2⟩ row.2
    linarith

omit [Field K] [LinearOrder K] [Mathf K] in
theorem pixel_injective {point point' : Nat × Nat} (same : input.pixel point = input.pixel point') : point = point' := by
  simp only [pixel, Prod.mk.injEq] at same
  exact Prod.ext (by omega) (by omega)

omit [Field K] [LinearOrder K] [Mathf K] in
theorem place_fits {i j : Nat} (column : (i : Int) < input.width) (row : (j : Int) < input.height) :
    0 ≤ (input.height - j - 1) * input.width ∧
      (input.height - j - 1) * input.width + (input.width - i - 1) < input.width * input.height :=
  index_fits ⟨by omega, by omega⟩ ⟨by omega, by omega⟩

omit [Field K] [LinearOrder K] [Mathf K] in
/-- Where the loops set a pixel the index does not overflow. -/
theorem setColor_place {texture : TargetTexture K} (width : texture.width = input.width)
    (length : (texture.colors.length : Int) = input.width * input.height)
    (fits : input.width * input.height < 2 ^ 31) {i j : Nat} (column : (i : Int) < input.width)
    (row : (j : Int) < input.height) (color : Color K) :
    input.place i j < texture.colors.length ∧
      texture.setColor (input.width - i - 1) (input.height - j - 1) color = .ok { texture with
        colors := texture.colors.set (input.place i j) color
        setColors := texture.setColors ++ [(input.pixel (i, j), color)] } := by
  obtain ⟨start, inside⟩ := place_fits column row
  have rows : wrap32 ((input.height - j - 1) * input.width) = (input.height - j - 1) * input.width :=
    wrap32_of_fits (by omega) (by omega)
  have index : wrap32 ((input.height - j - 1) * input.width + (input.width - i - 1)) =
      (input.height - j - 1) * input.width + (input.width - i - 1) := wrap32_of_fits (by omega) (by omega)
  refine ⟨by unfold place; omega, ?_⟩
  unfold TargetTexture.setColor
  rw [width, rows, index, arraySet, if_pos ⟨by omega, by omega⟩]
  rfl

omit [Field K] [LinearOrder K] [Mathf K] in
theorem place_ne {i j : Nat} (column : (i : Int) < input.width) (row : (j : Int) < input.height) {x y : Int}
    (column' : 0 ≤ x ∧ x < input.width) (row' : 0 ≤ y ∧ y < input.height) (other : (x, y) ≠ input.pixel (i, j)) :
    input.place i j ≠ (y * input.width + x).toNat := by
  intro same
  have start := (place_fits column row).1
  have start' := (index_fits column' row').1
  have equal : y * input.width + x = (input.height - j - 1) * input.width + (input.width - i - 1) := by
    unfold place at same
    omega
  exact other (index_injective column' ⟨by omega, by omega⟩ equal)

omit [LinearOrder K] [Mathf K] in
theorem Painted.setColor (painted : input.Painted right points answers frame) (fits : input.width * input.height < 2 ^ 31)
    {i j : Nat} (column : (i : Int) < input.width) (row : (j : Int) < input.height) (fresh : (i, j) ∉ points)
    {color : Color K} (good : right i j color) :
    ∃ targetTexture, frame.targetTexture.setColor (input.width - i - 1) (input.height - j - 1) color =
        .ok targetTexture ∧
      input.Painted right (points ++ [(i, j)]) answers
        { frame with targetTexture, curIndex := frame.curIndex + 1 } := by
  obtain ⟨slot, stored⟩ := setColor_place painted.width painted.length fits column row color
  refine ⟨_, stored, painted.width, ?_, painted.answers, ?_, ?_, ?_, ?_, ?_⟩
  · rw [List.length_set]
    exact painted.length
  · intro point member
    rcases List.mem_append.mp member with earlier | last
    · exact painted.inside point earlier
    · rw [List.mem_singleton.mp last]
      exact ⟨column, row⟩
  · rw [List.map_append, painted.setColors, List.map_append]
    rfl
  · intro x y shade member
    rcases List.mem_append.mp member with earlier | last
    · have listed : (x, y) ∈ points.map input.pixel := by
        rw [← painted.setColors]
        exact List.mem_map_of_mem (f := Prod.fst) earlier
      obtain ⟨point, among, same⟩ := List.mem_map.mp listed
      obtain ⟨left, below⟩ := painted.inside point among
      simp only [pixel, Prod.mk.injEq] at same
      have other : (x, y) ≠ input.pixel (i, j) := by
        intro again
        have own : input.pixel point = input.pixel (i, j) := (Prod.ext same.1 same.2).trans again
        apply fresh
        rw [← pixel_injective own]
        exact among
      rw [List.getElem?_set_ne (place_ne column row ⟨by omega, by omega⟩ ⟨by omega, by omega⟩ other)]
      exact painted.stored x y shade earlier
    · obtain ⟨same, rfl⟩ := Prod.mk.inj (List.mem_singleton.mp last)
      obtain ⟨rfl, rfl⟩ := Prod.mk.inj same
      exact List.getElem?_set_self slot
  · intro point shade member
    rcases List.mem_append.mp member with earlier | last
    · exact painted.right point shade earlier
    · obtain ⟨same, rfl⟩ := Prod.mk.inj (List.mem_singleton.mp last)
      rw [pixel_injective same]
      exact good
  · intro x y columnOther rowOther unset
    rw [List.map_append, List.mem_append, not_or] at unset
    have other : (x, y) ≠ input.pixel (i, j) := fun same => unset.2 (List.mem_singleton.mpr same)
    rw [List.getElem?_set_ne (place_ne column row columnOther rowOther other)]
    exact painted.black x y columnOther rowOther unset.1

def TraceStops (trace : TraceCall K → Action σ (Stop Exn) (Color K)) (why : Stop (Stop Exn)) : Prop :=
  ∃ call s, (trace call).run s = .error why

omit [Field K] [LinearOrder K] [Mathf K] in
theorem trace_ends (call : TraceCall K) : Ends (trace call) (fun _ => True) (TraceStops trace) := by
  intro s
  cases ended : (trace call).run s with
  | ok pair => trivial
  | error why => exact ⟨call, s, ended⟩

theorem pixelColor_ends (i j : Nat) :
    Ends (input.pixelColor linearToGammaSpace trace i j) (fun _ => True) (TraceStops trace) := by
  have inner : ∀ ax color, Ends ((List.range input.splitPixel).foldlM
      (fun color ay => return color + (← trace (input.primaryCall i j ax ay))) color) (fun _ => True)
      (TraceStops trace) := by
    intro ax color
    apply Ends.foldlM (fun _ _ => True) _ _ color trivial
    intro done ay rest _ color _
    exact (trace_ends _).bind fun _ _ => .pure trivial
  have outer := Ends.foldlM (fun _ _ => True) (List.range input.splitPixel)
    (fun _ ax _ _ color _ => inner ax color) Color.black trivial
  exact outer.bind fun _ _ => .pure trivial

theorem renderPixel_ends (colored : ∀ i j, Ends (input.pixelColor linearToGammaSpace trace i j) (right i j) stopped)
    (painted : input.Painted right points answers frame) (fits : input.width * input.height < 2 ^ 31) {i j : Nat}
    (column : (i : Int) < input.width) (row : (j : Int) < input.height) (fresh : (i, j) ∉ points) :
    Ends (input.renderPixel linearToGammaSpace trace i frame j) (input.Painted right (points ++ [(i, j)]) answers)
      stopped := by
  refine (colored i j).bind fun color good => ?_
  obtain ⟨targetTexture, stored, painted'⟩ := painted.setColor fits column row fresh good
  exact .lift_bind (mapError_eq_ok.mpr stored) (.pure painted')

omit [LinearOrder K] [Mathf K] in
theorem columnMajor_succ (k height : Nat) :
    columnMajor (k + 1) height = columnMajor k height ++ (List.range height).map fun j => (k, j) := by
  unfold columnMajor
  rw [List.range_succ]
  simp [SProd.sprod, List.product]

theorem renderColumn_ends (colored : ∀ i j, Ends (input.pixelColor linearToGammaSpace trace i j) (right i j) stopped)
    {k : Nat} (painted : input.Painted right (columnMajor k input.height.toNat) answers frame)
    (fits : input.width * input.height < 2 ^ 31) (column : (k : Int) < input.width) :
    Ends ((List.range input.height.toNat).foldlM (input.renderPixel linearToGammaSpace trace k) frame)
      (input.Painted right (columnMajor (k + 1) input.height.toNat) answers) stopped := by
  rw [columnMajor_succ]
  apply Ends.foldlM (fun done => input.Painted right
    (columnMajor k input.height.toNat ++ done.map fun j => (k, j)) answers) _ _ frame (by simpa using painted)
  intro done j rest cut frame painted
  have row : (j : Int) < input.height := by
    have member : j ∈ List.range input.height.toNat := by
      rw [cut]
      exact List.mem_append_cons_self
    rw [List.mem_range] at member
    omega
  have once : j ∉ done := by
    have nodup := List.nodup_range (n := input.height.toNat)
    rw [cut] at nodup
    exact fun before => List.disjoint_of_nodup_append nodup before List.mem_cons_self
  have fresh : (k, j) ∉ columnMajor k input.height.toNat ++ done.map fun j => (k, j) := by
    rw [List.mem_append, mem_columnMajor]
    rintro (earlier | here)
    · exact lt_irrefl k earlier.1
    · obtain ⟨j', before, same⟩ := List.mem_map.mp here
      exact once ((Prod.mk.inj same).2 ▸ before)
  rw [List.map_append, ← List.append_assoc]
  exact renderPixel_ends colored painted fits column row fresh

omit [LinearOrder K] [Mathf K] in
theorem Painted.paints {k : Nat} (painted : input.Painted right (columnMajor k input.height.toNat) answers frame)
    (size : answers.length = k) : input.Paints right frame := by
  intro i j left below
  have member : input.pixel (i, j) ∈ frame.targetTexture.setColors.map Prod.fst := by
    rw [painted.setColors]
    apply List.mem_map_of_mem
    rw [painted.answers, size] at left
    exact mem_columnMajor.mpr ⟨left, by simp only; omega⟩
  obtain ⟨⟨_, color⟩, among, rfl⟩ := List.mem_map.mp member
  exact ⟨color, painted.stored _ _ color among, painted.right (i, j) color among⟩

omit [LinearOrder K] [Mathf K] in
theorem Painted.rendered {k : Nat} (painted : input.Painted right (columnMajor k input.height.toNat) answers frame)
    (some : (k : Int) ≤ input.width) (size : answers.length = k)
    (cancelled : (k : Int) < input.width → answers.getLast? = .some true) (earlier : true ∉ answers.dropLast) :
    input.Rendered frame := by
  have member : ∀ x y, (x, y) ∈ (columnMajor k input.height.toNat).map input.pixel ↔
      (input.width - k ≤ x ∧ x < input.width) ∧ 0 ≤ y ∧ y < input.height := by
    intro x y
    simp only [List.mem_map, mem_columnMajor, pixel, Prod.mk.injEq, Prod.exists]
    constructor
    · rintro ⟨i, j, ⟨left, below⟩, rfl, rfl⟩
      omega
    · rintro ⟨column, row⟩
      exact ⟨(input.width - x - 1).toNat, (input.height - y - 1).toNat, by omega, by omega, by omega⟩
  have nodup : ((columnMajor k input.height.toNat).map input.pixel).Nodup :=
    (List.nodup_range.product List.nodup_range).map fun _ _ => pixel_injective
  have count : frame.answers.length = k := by rw [painted.answers, size]
  constructor
  · rw [count]
    exact some
  · intro x y
    rw [painted.setColors, nodup.count, count]
    simp only [member]
  · exact painted.stored
  · intro x y column row
    rw [count] at column
    apply painted.black x y ⟨column.1, by omega⟩ row
    rw [member]
    omega
  · rw [count, painted.answers]
    exact cancelled
  · rw [painted.answers]
    exact earlier

omit [LinearOrder K] [Mathf K] in
theorem Painted.answer (painted : input.Painted right points answers frame) (answer : Bool) :
    input.Painted right points (answers ++ [answer]) { frame with answers := frame.answers ++ [answer] } :=
  { painted with answers := by rw [painted.answers] }

-- The loop has not been left while the callback said nothing.
theorem renderColumns_ends (colored : ∀ i j, Ends (input.pixelColor linearToGammaSpace trace i j) (right i j) stopped)
    (fits : input.width * input.height < 2 ^ 31) (n : Nat) {k : Nat} {frame : Frame K}
    (painted : input.Painted right (columnMajor k input.height.toNat) (List.replicate k false) frame)
    (left : ((k + n : Nat) : Int) = input.width) :
    Ends (input.renderColumns linearToGammaSpace trace updateProgress (List.range' k n) frame)
      (fun frame => input.Rendered frame ∧ input.Paints right frame) stopped := by
  induction n generalizing k frame with
  | zero =>
    have rendered := painted.rendered (by omega) List.length_replicate (by omega) (by simp)
    exact .pure ⟨rendered, painted.paints List.length_replicate⟩
  | succ n ih =>
    rw [List.range'_succ]
    refine (renderColumn_ends colored painted fits (by omega)).bind fun frame painted => ?_
    refine .liftState_bind fun answer => ?_
    have answered := painted.answer answer
    cases answer with
    | true => exact .pure ⟨answered.rendered (by omega) (by simp) (by simp) (by simp), answered.paints (by simp)⟩
    | false =>
      rw [← List.replicate_succ'] at answered
      exact ih answered (by omega)

def blank (input : RenderInput K) : Frame K where
  targetTexture :=
    ⟨List.replicate (input.width * input.height).toNat Color.black, input.width, input.height, []⟩
  curIndex := 0
  answers := []

omit [LinearOrder K] [Mathf K] in
theorem blank_painted (wide : 1 ≤ input.width) (high : 1 ≤ input.height) :
    input.Painted right (columnMajor 0 input.height.toNat) [] input.blank where
  width := rfl
  length := by
    have positive : 0 < input.width * input.height := mul_pos (by omega) (by omega)
    simp [blank, positive.le]
  answers := rfl
  inside := fun point none => nomatch none
  setColors := rfl
  stored := fun x y color none => nomatch none
  right := fun point color none => nomatch none
  black := by
    intro x y column row _
    obtain ⟨start, inside⟩ := index_fits column row
    exact List.getElem?_replicate_of_lt (by omega)

theorem render_run (wide : 1 ≤ input.width) (high : 1 ≤ input.height) (fits : input.width * input.height < 2 ^ 31) (s : σ) :
    (input.render linearToGammaSpace trace updateProgress).run s =
      (input.renderColumns linearToGammaSpace trace updateProgress (List.range' 0 input.width.toNat) input.blank).run
        ((updateProgress 0).run s).2 := by
  have positive : 0 < input.width * input.height := mul_pos (by omega) (by omega)
  have made : TargetTexture.new input.width input.height = .ok input.blank.targetTexture := by
    have array := newArray_eq_ok.mpr ⟨positive.le, (rfl : List.replicate _ (Color.black : Color K) = _)⟩
    unfold TargetTexture.new
    rw [wrap32_of_fits (by omega) fits, array]
    rfl
  unfold render
  rw [List.range_eq_range', made]
  rfl

theorem render_ends (colored : ∀ i j, Ends (input.pixelColor linearToGammaSpace trace i j) (right i j) stopped)
    (wide : 1 ≤ input.width) (high : 1 ≤ input.height) (fits : input.width * input.height < 2 ^ 31) :
    Ends (input.render linearToGammaSpace trace updateProgress)
      (fun frame => input.Rendered frame ∧ input.Paints right frame) stopped := by
  intro s
  rw [render_run wide high fits]
  exact renderColumns_ends colored fits _ (blank_painted wide high) (by omega) _

end

end RenderInput

section
variable [FloorRing K] [Mathf K]

/-- `RayTraceRenderer.Render`, with a bound on the depth of TraceColor. -/
def Renderer.render (renderer : Renderer K) (random : Random K σ) (fuel : Nat) (input : RenderInput K)
    (linearToGammaSpace : K → K) (updateProgress : K → StateM σ Bool) : Action σ (Stop Exn) (Frame K) :=
  input.render linearToGammaSpace (traceColor renderer random (renderer.getLightPathColor fuel) fuel) updateProgress

/-- Whatever the progress callback answers, only a call of TraceColor can stop Render, and the pixels of
the columns it has been through are written once each and kept: all of them, where it was not
cancelled. -/
theorem Renderer.render_rendered (renderer : Renderer K) (random : Random K σ) (fuel : Nat) (input : RenderInput K)
    (linearToGammaSpace : K → K) (updateProgress : K → StateM σ Bool) (wide : 1 ≤ input.width)
    (high : 1 ≤ input.height) (fits : input.width * input.height < 2 ^ 31) :
    Ends (renderer.render random fuel input linearToGammaSpace updateProgress)
      (fun frame => input.Rendered frame ∧ (true ∉ frame.answers → frame.answers.length = input.width))
      fun why => ∃ call s,
        (traceColor renderer random (renderer.getLightPathColor fuel) fuel call).run s = .error why := by
  refine (RenderInput.render_ends (fun i j => RenderInput.pixelColor_ends i j) wide high fits :
    Ends (renderer.render random fuel input linearToGammaSpace updateProgress) _ _).mono ?_
  rintro frame ⟨rendered, -⟩
  refine ⟨rendered, fun going => ?_⟩
  by_contra other
  have last := rendered.cancelled (lt_of_le_of_ne rendered.columns other)
  exact going (List.mem_of_getLast? last)

end

def skyInput (width height : Int) : RenderInput Rat :=
  { width, height, sampleNum := 1, antiAliasing := true, position := 0, forward := ⟨0, 0, 1⟩, up := Vector3.up
    fieldOfView := 60 }

def skyRenderer : Renderer Rat := .over Embree.closedSegment [] [] Color.white

/-- The callback cancels as soon as there is something to show. -/
theorem render_rendered_sky :
    letI := Mathf.atUnits
    (1 ≤ (skyInput 3 2).width ∧ 1 ≤ (skyInput 3 2).height ∧ (skyInput 3 2).width * (skyInput 3 2).height < 2 ^ 31) ∧
      ∃ frame, (skyRenderer.render Random.lowest 1 (skyInput 3 2) id fun progress => pure (decide (0 < progress))).run () =
          .ok (frame, ()) ∧ (skyInput 3 2).Rendered frame ∧ frame.answers = [true] ∧
        frame.targetTexture.setColors.map Prod.fst = [(2, 1), (2, 0)] := by
  let := Mathf.atUnits
  have ended := skyRenderer.render_rendered Random.lowest 1 (skyInput 3 2) id
    (fun progress => pure (decide (0 < progress))) (by decide) (by decide) (by decide) ()
  have facts : ((skyRenderer.render Random.lowest 1 (skyInput 3 2) id
      fun progress => pure (decide (0 < progress))).run ()).map (fun result =>
        (result.1.answers, result.1.targetTexture.setColors.map Prod.fst)) =
      .ok ([true], [(2, 1), (2, 0)]) := by decide +kernel
  obtain ⟨⟨frame, state⟩, returned, all⟩ := map_eq_ok.mp facts
  rw [returned] at ended
  exact ⟨⟨by decide, by decide, by decide⟩, frame, returned, ended.1, congrArg Prod.fst all, congrArg Prod.snd all⟩

end RayTraceRenderer.Managed
