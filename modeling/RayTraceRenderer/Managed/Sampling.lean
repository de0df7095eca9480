import RayTraceRenderer.Foundation.Filling
import RayTraceRenderer.Managed.RayTraceTool
import Mathlib.Data.Rat.Floor

/-! The samplers of RayTraceTool, on textures that repeat.

A sampler casts each scaled coordinate to an index and wraps it, and the rest is
interpolation along two axes, one after the other. What holds of one axis is proved once.
The cast truncates toward zero: below zero it is the floor of whole numbers only.
-/

set_option autoImplicit false

namespace RayTraceRenderer.Managed

open Unity Filling

/-! ## Indices -/

-- For a size that can be added to a remainder, the index expression is the remainder itself.
theorem RayTraceTool.wrapIndex_eq_emod {x size : Int} (positive : 0 < size) (small : size ≤ 2 ^ 30) :
    wrapIndex x size = x % size := by
  have low := Int.lt_tmod_of_pos x positive
  have high := Int.tmod_lt_of_pos x positive
  unfold wrapIndex
  rw [wrap32_of_fits (by omega) (by omega), Int.tmod_eq_emod_of_nonneg (by omega), Int.add_emod_right]
  rw [Int.emod_eq_emod_iff_emod_sub_eq_zero]
  exact Int.emod_eq_zero_of_dvd Int.dvd_tmod_sub_self

theorem succ_emod_ne {size : Int} (wide : 2 ≤ size) (x : Int) : (x + 1) % size ≠ x % size := by
  intro same
  rw [Int.emod_eq_emod_iff_emod_sub_eq_zero, add_sub_cancel_left, Int.emod_eq_of_lt (by omega) (by omega)] at same
  omega

theorem exists_residue {size : Nat} (positive : 0 < size) (x : Int) : ∃ i : Nat, i < size ∧ x % size = i := by
  have nonneg := Int.emod_nonneg x (show (size : Int) ≠ 0 by omega)
  have bound := Int.emod_lt_of_pos x (show (0 : Int) < size by omega)
  rcases Int.eq_ofNat_of_zero_le nonneg with ⟨i, residue⟩
  exact ⟨i, by omega, residue⟩

section
variable {K : Type} [Field K]

def Whole (value : K) : Prop := ∃ n : Int, value = n

/-- Two coordinates a number of sizes apart. -/
def Shifted (size : Nat) (value value' : K) : Prop := ∃ m : Int, value' = value + (m * size : Int)

theorem whole_add_iff {value : K} (n : Int) : Whole (value + n) ↔ Whole value := by
  constructor
  · rintro ⟨m, same⟩
    exact ⟨m - n, by rw [Int.cast_sub, ← same, add_sub_cancel_right]⟩
  · rintro ⟨m, rfl⟩
    exact ⟨m + n, (Int.cast_add m n).symm⟩

variable {size : Nat} {value value' : K}

theorem Shifted.symm (shifted : Shifted size value value') : Shifted size value' value := by
  rcases shifted with ⟨m, rfl⟩
  exact ⟨-m, by push_cast; ring⟩

theorem Shifted.whole_iff (shifted : Shifted size value value') : Whole value' ↔ Whole value := by
  rcases shifted with ⟨m, rfl⟩
  exact whole_add_iff _

theorem shifted_scale (value : K) (m : Int) (size : Nat) : Shifted size (value * size) ((value + m) * size) :=
  ⟨m, by push_cast; ring⟩

theorem Shifted.half (shifted : Shifted size value value') : Shifted size (value + 1 / 2) (value' + 1 / 2) := by
  rcases shifted with ⟨m, rfl⟩
  exact ⟨m, by ring⟩

/-! ## Textures -/

/-- A texture of some size. The runtime holds no array of more than 2^27 colours. -/
structure Texels (colors : List (Color K)) (w h : Nat) : Prop where
  wide : 0 < w
  high : 0 < h
  sized : colors.length = w * h
  managed : w * h ≤ 2 ^ 30

def texel (colors : List (Color K)) (w : Nat) (x y : Int) : Color K :=
  (colors[(y * w + x).toNat]?).getD Color.black

variable {colors : List (Color K)} {w h : Nat}

open RayTraceTool

theorem texel_natCast (colors : List (Color K)) (w i j : Nat) :
    texel colors w i j = (colors[j * w + i]?).getD Color.black := by
  have index : ((j : Int) * w + i).toNat = j * w + i := by
    rw [← Nat.cast_mul, ← Nat.cast_add, Int.toNat_natCast]
  rw [texel, index]

omit [Field K] in
theorem Texels.inside (texels : Texels colors w h) {i j : Nat} (left : i < w) (below : j < h) :
    j * w + i < colors.length := by
  rw [texels.sized]
  nlinarith

theorem Texels.get (texels : Texels colors w h) (x y : Int) :
    arrayGet colors (y % h * w + x % w) = .ok (texel colors w (x % w) (y % h)) := by
  rcases exists_residue texels.wide x with ⟨i, left, column⟩
  rcases exists_residue texels.high y with ⟨j, below, row⟩
  have index : ((j : Int) * w + i) = (j * w + i : Nat) := by push_cast; ring
  rw [column, row, texel_natCast, index, arrayGet_eq_ok, Int.toNat_natCast,
    List.getElem?_eq_getElem (texels.inside left below)]
  exact ⟨Int.natCast_nonneg _, rfl⟩

-- Neither the wrapped coordinates nor the index made of them overflow.
theorem Texels.read (texels : Texels colors w h) (x y : Int) :
    arrayGet colors (texelIndex w h x y) = .ok (texel colors w (x % w) (y % h)) := by
  have found := texels.get x y
  rcases exists_arrayGet_iff.mp ⟨_, found⟩ with ⟨nonneg, inside⟩
  rcases texels with ⟨wide, high, sized, managed⟩
  have narrow : w ≤ 2 ^ 30 := (Nat.le_mul_of_pos_right w high).trans managed
  have low : h ≤ 2 ^ 30 := (Nat.le_mul_of_pos_left h wide).trans managed
  unfold texelIndex
  rw [wrapIndex_eq_emod (by omega) (by omega), wrapIndex_eq_emod (by omega) (by omega),
    wrap32_of_fits (by omega) (by omega)]
  exact found

/-! ### Textures to tell samples apart -/

/-- A texture without colour, as bright as is asked for in each column and row. -/
def painted (w h : Nat) (paint : Int → Int → K) : List (Color K) :=
  (rowMajor w h).map fun point => Color.gray (paint point.1 point.2)

omit [Field K] in
theorem painted_texels (wide : 0 < w) (high : 0 < h) (managed : w * h ≤ 2 ^ 30) (paint : Int → Int → K) :
    Texels (painted w h paint) w h where
  wide := wide
  high := high
  sized := by rw [painted, List.length_map, length_rowMajor, Nat.mul_comm]
  managed := managed

theorem texel_painted (wide : 0 < w) (high : 0 < h) (paint : Int → Int → K) (x y : Int) :
    texel (painted w h paint) w (x % w) (y % h) = Color.gray (paint (x % w) (y % h)) := by
  rcases exists_residue wide x with ⟨i, left, column⟩
  rcases exists_residue high y with ⟨j, below, row⟩
  have stored : (rowMajor w h)[j * w + i]? = some (i, j) :=
    getElem?_rowMajor (mem_rowMajor.mpr ⟨left, below⟩ : (i, j) ∈ rowMajor w h)
  rw [column, row, texel_natCast, painted, List.getElem?_map, stored]
  rfl

end

/-! ## Samples -/

section
variable {K : Type} [Field K] [LinearOrder K] [FloorRing K] {colors : List (Color K)} {w h size : Nat}

open RayTraceTool

def lerpAxis (size : Nat) (value : K) (entry : Int → K) : K :=
  let x := castInt value
  Mathf.lerpUnclamped (entry (x % size)) (entry (wrap32 (x + 1) % size)) (value - x)

theorem lerpAxis_const (size : Nat) (value constant : K) : lerpAxis size value (fun _ => constant) = constant := by
  simp [lerpAxis, Mathf.lerpUnclamped]

theorem lerpAxis_one (value : K) (entry : Int → K) : lerpAxis 1 value entry = entry 0 := by
  simp [lerpAxis, Mathf.lerpUnclamped]

theorem lerpAxis_congr {entry entry' : Int → K} (same : ∀ x : Int, entry (x % size) = entry' (x % size)) (value : K) :
    lerpAxis size value entry = lerpAxis size value entry' := by
  unfold lerpAxis
  simp only [same]

theorem linearReads_eq (texels : Texels colors w h) (uv : Vector2 K) :
    let x := castInt (uv.x * w)
    let y := castInt (uv.y * h)
    linearReads colors w h uv =
      .ok (texel colors w (x % w) (y % h), texel colors w (x % w) (wrap32 (y + 1) % h),
        texel colors w (wrap32 (x + 1) % w) (y % h), texel colors w (wrap32 (x + 1) % w) (wrap32 (y + 1) % h)) := by
  unfold linearReads
  simp only [texels.read, Int.cast_natCast]
  rfl

-- A sample is an interpolation along the columns of interpolations along the rows.
theorem linearSample_channel (texels : Texels colors w h) (uv : Vector2 K) :
    ∃ color, linearSample colors w h uv = .ok color ∧ ∀ channel, color.channel channel =
      lerpAxis w (uv.x * w) fun x => lerpAxis h (uv.y * h) fun y => (texel colors w x y).channel channel := by
  unfold linearSample
  rw [linearReads_eq texels]
  simp only [Int.cast_natCast]
  refine ⟨_, rfl, fun channel => ?_⟩
  simp only [Color.lerpUnclamped_channel]
  rfl

theorem linearSample_painted (wide : 0 < w) (high : 0 < h) (managed : w * h ≤ 2 ^ 30) (paint : Int → Int → K)
    (uv : Vector2 K) : linearSample (painted w h paint) w h uv =
      .ok (Color.gray (lerpAxis w (uv.x * w) fun x => lerpAxis h (uv.y * h) fun y => paint x y)) := by
  rcases linearSample_channel (painted_texels wide high managed paint) uv with ⟨color, sampled, channels⟩
  rw [sampled]
  congr 1
  apply Color.ext_channel
  intro channel
  rw [channels, Color.gray_channel]
  apply lerpAxis_congr
  intro x
  apply lerpAxis_congr
  intro y
  rw [texel_painted wide high, Color.gray_channel]

theorem pointSample_eq (texels : Texels colors w h) (uv : Vector2 K) :
    pointSample colors w h uv =
      .ok (texel colors w (castInt (uv.x * w + 1 / 2) % w) (castInt (uv.y * h + 1 / 2) % h)) := by
  unfold pointSample
  simp only [texels.read, Int.cast_natCast]

def Encloses (c00 c01 c10 c11 value : K) : Prop :=
  min (min c00 c01) (min c10 c11) ≤ value ∧ value ≤ max (max c00 c01) (max c10 c11)

/-- A linear sample lies, channel by channel, between the texels that it reads. -/
def SampleEnclosed (colors : List (Color K)) (width height : Int) (uv : Vector2 K) : Prop :=
  ∃ c00 c01 c10 c11 color, linearReads colors width height uv = .ok (c00, c01, c10, c11) ∧
    linearSample colors width height uv = .ok color ∧ ∀ channel,
      Encloses (c00.channel channel) (c01.channel channel) (c10.channel channel) (c11.channel channel)
        (color.channel channel)

end

/-! ## One axis -/

section
variable {K : Type} [Field K] [LinearOrder K] [IsStrictOrderedRing K] [FloorRing K] {size : Nat} {value value' : K}

def Fits (value : K) : Prop := -2 ^ 31 ≤ value ∧ value ≤ 2 ^ 31 - 1

theorem castInt_floor {value : K} (lower : -2 ^ 31 ≤ value) (upper : value < 2 ^ 31)
    (exact : 0 ≤ value ∨ Whole value) : castInt value = ⌊value⌋ := by
  have above : -2 ^ 31 ≤ ⌊value⌋ := Int.le_floor.mpr (by exact_mod_cast lower)
  have below : ⌊value⌋ < 2 ^ 31 := Int.floor_lt.mpr (by exact_mod_cast upper)
  have truncated : (if 0 ≤ value then ⌊value⌋ else ⌈value⌉) = ⌊value⌋ := by
    split
    · rfl
    next negative =>
      rcases exact.resolve_left negative with ⟨n, rfl⟩
      rw [Int.ceil_intCast, Int.floor_intCast]
  unfold castInt
  rw [truncated]
  exact if_pos ⟨above, below⟩

theorem castInt_above {value : K} (lower : -2 ^ 31 ≤ value) (negative : value < 0) (broken : ¬ Whole value) :
    castInt value = ⌊value⌋ + 1 := by
  have ceil : ⌈value⌉ = ⌊value⌋ + 1 := by
    rw [Int.ceil_eq_iff]
    push_cast
    have strict : (⌊value⌋ : K) ≠ value := fun same => broken ⟨_, same.symm⟩
    have floor := lt_of_le_of_ne (Int.floor_le value) strict
    have next := Int.lt_floor_add_one value
    exact ⟨by linarith, by linarith⟩
  have above : -2 ^ 31 ≤ ⌊value⌋ := Int.le_floor.mpr (by exact_mod_cast lower)
  have below : ⌊value⌋ < 0 := Int.floor_lt.mpr (by exact_mod_cast negative)
  unfold castInt
  rw [if_neg (not_le.mpr negative), ceil]
  exact if_pos ⟨by omega, by omega⟩

theorem castInt_succ_fits (fits : Fits value) (broken : ¬ Whole value) : wrap32 (castInt value + 1) = castInt value + 1 := by
  have lower : -2 ^ 31 ≤ ⌊value⌋ := Int.le_floor.mpr (by exact_mod_cast fits.1)
  have strict : (⌊value⌋ : K) < value := lt_of_le_of_ne (Int.floor_le value) fun same => broken ⟨_, same.symm⟩
  have upper : ⌊value⌋ < 2 ^ 31 - 1 := by
    have bound : (⌊value⌋ : K) < 2 ^ 31 - 1 := strict.trans_le fits.2
    exact_mod_cast bound
  rcases le_or_gt 0 value with nonneg | negative
  · rw [castInt_floor fits.1 (by linarith [fits.2]) (.inl nonneg)]
    exact wrap32_of_fits (by omega) (by omega)
  · have below : ⌊value⌋ < 0 := Int.floor_lt.mpr (by exact_mod_cast negative)
    rw [castInt_above fits.1 negative broken]
    exact wrap32_of_fits (by omega) (by omega)

omit [FloorRing K] in
theorem lerpUnclamped_mem {a b t low high : K} (inside : 0 ≤ t ∧ t ≤ 1) (first : low ≤ a ∧ a ≤ high)
    (second : low ≤ b ∧ b ≤ high) : low ≤ Mathf.lerpUnclamped a b t ∧ Mathf.lerpUnclamped a b t ≤ high := by
  unfold Mathf.lerpUnclamped
  constructor
  · nlinarith [mul_le_mul_of_nonneg_left second.1 inside.1, mul_le_mul_of_nonneg_left first.1 (sub_nonneg.mpr inside.2)]
  · nlinarith [mul_le_mul_of_nonneg_left second.2 inside.1, mul_le_mul_of_nonneg_left first.2 (sub_nonneg.mpr inside.2)]

-- At a whole number the entry there is taken, and nothing of its neighbour.
theorem lerpAxis_whole {n : Int} (fits : Fits (n : K)) (size : Nat) (entry : Int → K) :
    lerpAxis size (n : K) entry = entry (n % size) := by
  have index : castInt (n : K) = n := by
    rw [castInt_floor fits.1 (by linarith [fits.2]) (.inr ⟨n, rfl⟩), Int.floor_intCast]
  simp [lerpAxis, index, Mathf.lerpUnclamped]

-- From zero on, the weights are the parts of a whole.
theorem lerpAxis_above (fits : Fits value) (nonneg : 0 ≤ value) (broken : ¬ Whole value) (size : Nat)
    (entry : Int → K) : lerpAxis size value entry =
      Mathf.lerpUnclamped (entry (⌊value⌋ % size)) (entry ((⌊value⌋ + 1) % size)) (Int.fract value) := by
  have next := castInt_succ_fits fits broken
  have index := castInt_floor fits.1 (by linarith [fits.2]) (.inl nonneg)
  unfold lerpAxis
  simp only
  rw [next, index, Int.self_sub_floor]

-- Below zero the entries are one further on, and one weight is negative.
theorem lerpAxis_below (fits : Fits value) (negative : value < 0) (broken : ¬ Whole value) (size : Nat)
    (entry : Int → K) : lerpAxis size value entry =
      Mathf.lerpUnclamped (entry ((⌊value⌋ + 1) % size)) (entry ((⌊value⌋ + 1 + 1) % size)) (Int.fract value - 1) := by
  have next := castInt_succ_fits fits broken
  have index := castInt_above fits.1 negative broken
  have rest : value - ((⌊value⌋ + 1 : Int) : K) = Int.fract value - 1 := by
    rw [Int.cast_add, Int.cast_one, ← sub_sub, Int.self_sub_floor]
  unfold lerpAxis
  simp only
  rw [next, index, rest]

/-- Where the entry at the cast is the entry at the floor. -/
def AxisFloored (size : Nat) (value : K) : Prop := size = 1 ∨ 0 ≤ value ∨ Whole value

/-- Where the entries at the casts of two coordinates, a number of sizes apart, are the same. -/
def AxisPeriodic (size : Nat) (value value' : K) : Prop := size = 1 ∨ Whole value ∨ (0 ≤ value ↔ 0 ≤ value')

/-! ### Enclosure -/

theorem lerpAxis_mem (fits : Fits value) (floored : AxisFloored size value) {entry : Int → K} {low high : K}
    (first : low ≤ entry (castInt value % size) ∧ entry (castInt value % size) ≤ high)
    (second : low ≤ entry (wrap32 (castInt value + 1) % size) ∧ entry (wrap32 (castInt value + 1) % size) ≤ high) :
    low ≤ lerpAxis size value entry ∧ lerpAxis size value entry ≤ high := by
  by_cases one : size = 1
  · subst one
    simp only [Nat.cast_one, Int.emod_one] at first
    rw [lerpAxis_one]
    exact first
  · have index := castInt_floor fits.1 (by linarith [fits.2]) (floored.resolve_left one)
    apply lerpUnclamped_mem _ first second
    rw [index, Int.self_sub_floor]
    exact ⟨Int.fract_nonneg value, (Int.fract_lt_one value).le⟩

def mark (residue : Int) (x : Int) : K := if x = residue then 1 else 0

omit [FloorRing K] in
theorem mark_nonneg (residue x : Int) : (0 : K) ≤ mark residue x := by
  unfold mark
  split
  · exact zero_le_one
  · exact le_rfl

-- Otherwise the second entry gets a negative weight.
theorem lerpAxis_negative (fits : Fits value) (positive : 0 < size) (outside : ¬ AxisFloored size value) :
    lerpAxis size value (mark ((⌊value⌋ + 1 + 1) % size)) < 0 := by
  simp only [AxisFloored, not_or, not_le] at outside
  rcases outside with ⟨several, negative, broken⟩
  have other := succ_emod_ne (show (2 : Int) ≤ size by omega) (⌊value⌋ + 1)
  rw [lerpAxis_below fits negative broken, mark, if_neg (Ne.symm other), mark, if_pos rfl, Mathf.lerpUnclamped]
  have below := Int.fract_lt_one value
  linarith

/-! ### Repetition -/

theorem Shifted.fract_eq (shifted : Shifted size value value') : Int.fract value' = Int.fract value := by
  rcases shifted with ⟨m, rfl⟩
  exact Int.fract_add_intCast _ _

-- Both floors have the same remainder, and so have the numbers at one distance from them.
theorem Shifted.floor_emod (shifted : Shifted size value value') (k : Int) :
    (⌊value'⌋ + k) % size = (⌊value⌋ + k) % size := by
  rcases shifted with ⟨m, rfl⟩
  rw [Int.floor_add_intCast, add_right_comm, Int.add_mul_emod_self_right]

theorem lerpAxis_shifted (fits : Fits value) (fits' : Fits value') (shifted : Shifted size value value')
    (periodic : AxisPeriodic size value value') (entry : Int → K) :
    lerpAxis size value entry = lerpAxis size value' entry := by
  have sameFloor := shifted.floor_emod 0
  simp only [add_zero] at sameFloor
  by_cases whole : Whole value
  · rcases whole with ⟨n, rfl⟩
    rcases shifted.whole_iff.mpr ⟨n, rfl⟩ with ⟨n', rfl⟩
    rw [lerpAxis_whole fits, lerpAxis_whole fits']
    rw [Int.floor_intCast, Int.floor_intCast] at sameFloor
    rw [sameFloor]
  · have whole' : ¬ Whole value' := fun same => whole (shifted.whole_iff.mp same)
    rcases periodic with rfl | same | sign
    · rw [lerpAxis_one, lerpAxis_one]
    · exact absurd same whole
    · rcases le_or_gt 0 value with nonneg | negative
      · rw [lerpAxis_above fits nonneg whole, lerpAxis_above fits' (sign.mp nonneg) whole', shifted.fract_eq, sameFloor,
          shifted.floor_emod 1]
      · have negative' : value' < 0 := not_le.mp fun nonneg => not_le.mpr negative (sign.mpr nonneg)
        rw [lerpAxis_below fits negative whole, lerpAxis_below fits' negative' whole', shifted.fract_eq,
          shifted.floor_emod 1, add_assoc, add_assoc, shifted.floor_emod (1 + 1)]

-- On the two sides of zero, the entry at the floor counts in full parts or not at all.
theorem lerpAxis_apart (fits : Fits value) (fits' : Fits value') (shifted : Shifted size value value')
    (several : 2 ≤ size) (broken : ¬ Whole value) (nonneg : 0 ≤ value) (negative : value' < 0) :
    lerpAxis size value' (mark (⌊value⌋ % size)) < lerpAxis size value (mark (⌊value⌋ % size)) := by
  have broken' : ¬ Whole value' := fun same => broken (shifted.whole_iff.mp same)
  have wide : (2 : Int) ≤ size := by omega
  have small := Int.fract_lt_one value
  have next := succ_emod_ne wide ⌊value⌋
  have atFloor : lerpAxis size value (mark (⌊value⌋ % size)) = 1 - Int.fract value := by
    rw [lerpAxis_above fits nonneg broken, mark, if_pos rfl, mark, if_neg next, Mathf.lerpUnclamped]
    ring
  have behind : lerpAxis size value' (mark (⌊value⌋ % size)) =
      mark (⌊value⌋ % size) ((⌊value'⌋ + 1 + 1) % size) * (Int.fract value - 1) := by
    rw [lerpAxis_below fits' negative broken', shifted.floor_emod 1, shifted.fract_eq, Mathf.lerpUnclamped]
    have other : (mark (⌊value⌋ % size) ((⌊value⌋ + 1) % size) : K) = 0 := if_neg next
    rw [other]
    ring
  rw [atFloor, behind, mark]
  split <;> linarith

theorem lerpAxis_periodic_iff (fits : Fits value) (fits' : Fits value') (shifted : Shifted size value value')
    (positive : 0 < size) :
    (∀ entry : Int → K, lerpAxis size value entry = lerpAxis size value' entry) ↔ AxisPeriodic size value value' := by
  constructor
  · intro same
    by_contra apart
    simp only [AxisPeriodic, not_or] at apart
    rcases apart with ⟨several, broken, sign⟩
    have broken' : ¬ Whole value' := fun same => broken (shifted.whole_iff.mp same)
    rcases le_or_gt 0 value with nonneg | negative
    · have negative' : value' < 0 := not_le.mp fun nonneg' => sign (iff_of_true nonneg nonneg')
      exact (lerpAxis_apart fits fits' shifted (by omega) broken nonneg negative').ne' (same _)
    · have nonneg' : 0 ≤ value' := not_lt.mp fun negative' =>
        sign (iff_of_false (not_le.mpr negative) (not_le.mpr negative'))
      exact (lerpAxis_apart fits' fits shifted.symm (by omega) broken' nonneg' negative).ne (same _)
  · intro periodic entry
    exact lerpAxis_shifted fits fits' shifted periodic entry

/-! ### The entry of a point sample -/

theorem castInt_emod_eq_iff (lower : -2 ^ 31 ≤ value) (upper : value < 2 ^ 31) (positive : 0 < size) :
    castInt value % size = ⌊value⌋ % size ↔ AxisFloored size value := by
  constructor
  · intro same
    by_contra outside
    simp only [AxisFloored, not_or, not_le] at outside
    rcases outside with ⟨several, negative, broken⟩
    rw [castInt_above lower negative broken] at same
    exact succ_emod_ne (by omega) _ same
  · rintro (rfl | exact)
    · rw [Nat.cast_one, Int.emod_one, Int.emod_one]
    · rw [castInt_floor lower upper exact]

theorem castInt_emod_shifted_iff (lower : -2 ^ 31 ≤ value) (upper : value < 2 ^ 31) (lower' : -2 ^ 31 ≤ value')
    (upper' : value' < 2 ^ 31) (shifted : Shifted size value value') (positive : 0 < size) :
    castInt value % size = castInt value' % size ↔ AxisPeriodic size value value' := by
  have whole := shifted.whole_iff
  have sameFloor := shifted.floor_emod 0
  have sameNext := shifted.floor_emod 1
  simp only [add_zero] at sameFloor
  by_cases one : size = 1
  · subst one
    simp [AxisPeriodic]
  have next := succ_emod_ne (show (2 : Int) ≤ size by omega) ⌊value⌋
  simp only [AxisPeriodic, one, false_or]
  by_cases exact : Whole value
  · rw [castInt_floor lower upper (.inr exact), castInt_floor lower' upper' (.inr (whole.mpr exact)), sameFloor]
    simp [exact]
  have broken' : ¬ Whole value' := fun same => exact (whole.mp same)
  simp only [exact, false_or]
  rcases le_or_gt 0 value with nonneg | negative
  · rw [castInt_floor lower upper (.inl nonneg)]
    rcases le_or_gt 0 value' with nonneg' | negative'
    · rw [castInt_floor lower' upper' (.inl nonneg'), sameFloor]
      exact iff_of_true rfl (iff_of_true nonneg nonneg')
    · rw [castInt_above lower' negative' broken', sameNext]
      exact iff_of_false next.symm fun sign => not_le.mpr negative' (sign.mp nonneg)
  · rw [castInt_above lower negative exact]
    rcases le_or_gt 0 value' with nonneg' | negative'
    · rw [castInt_floor lower' upper' (.inl nonneg'), sameFloor]
      exact iff_of_false next fun sign => not_le.mpr negative (sign.mpr nonneg')
    · rw [castInt_above lower' negative' broken', sameNext]
      exact iff_of_true rfl (iff_of_false (not_le.mpr negative) (not_le.mpr negative'))

/-! ## Linear samples -/

variable {colors : List (Color K)} {w h : Nat} {uv : Vector2 K}

open RayTraceTool

theorem sampleEnclosed_of_floored (texels : Texels colors w h) (fitsX : Fits (uv.x * w)) (fitsY : Fits (uv.y * h))
    (flooredX : AxisFloored w (uv.x * w)) (flooredY : AxisFloored h (uv.y * h)) : SampleEnclosed colors w h uv := by
  rcases linearSample_channel texels uv with ⟨color, sampled, channels⟩
  refine ⟨_, _, _, _, color, linearReads_eq texels uv, sampled, fun channel => ?_⟩
  rw [channels]
  apply lerpAxis_mem fitsX flooredX
  · apply lerpAxis_mem fitsY flooredY <;> simp
  · apply lerpAxis_mem fitsY flooredY <;> simp

omit [IsStrictOrderedRing K] in
-- Where no texel is negative, an enclosed sample is not.
theorem sampleEnclosed_painted (wide : 0 < w) (high : 0 < h) (managed : w * h ≤ 2 ^ 30) {paint : Int → Int → K}
    (light : ∀ x y, 0 ≤ paint x y) (enclosed : SampleEnclosed (painted w h paint) w h uv) :
    0 ≤ lerpAxis w (uv.x * w) fun x => lerpAxis h (uv.y * h) fun y => paint x y := by
  rcases enclosed with ⟨c00, c01, c10, c11, color, read, sampled, channels⟩
  rw [linearReads_eq (painted_texels wide high managed paint)] at read
  rw [linearSample_painted wide high managed] at sampled
  simp only [texel_painted wide high] at read
  cases read
  cases sampled
  have bound := (channels .r).1
  simp only [Color.gray_channel] at bound
  refine le_trans ?_ bound
  simp [light]

theorem sampleEnclosed_iff (wide : 0 < w) (high : 0 < h) (managed : w * h ≤ 2 ^ 30) (fitsX : Fits (uv.x * w))
    (fitsY : Fits (uv.y * h)) :
    (∀ colors, colors.length = w * h → SampleEnclosed colors w h uv) ↔
      AxisFloored w (uv.x * w) ∧ AxisFloored h (uv.y * h) := by
  have sized : ∀ paint : Int → Int → K, (painted w h paint).length = w * h :=
    fun paint => (painted_texels wide high managed paint).sized
  constructor
  · intro enclosed
    constructor
    · by_contra outside
      have light : ∀ x _ : Int, (0 : K) ≤ mark ((⌊uv.x * w⌋ + 1 + 1) % w) x := fun x _ => mark_nonneg _ x
      have value := sampleEnclosed_painted wide high managed light (enclosed _ (sized _))
      simp only [lerpAxis_const] at value
      exact not_lt.mpr value (lerpAxis_negative fitsX wide outside)
    · by_contra outside
      have light : ∀ _ y : Int, (0 : K) ≤ mark ((⌊uv.y * h⌋ + 1 + 1) % h) y := fun _ y => mark_nonneg _ y
      have value := sampleEnclosed_painted wide high managed light (enclosed _ (sized _))
      simp only [lerpAxis_const] at value
      exact not_lt.mpr value (lerpAxis_negative fitsY high outside)
  · rintro ⟨flooredX, flooredY⟩ colors size
    exact sampleEnclosed_of_floored ⟨wide, high, size, managed⟩ fitsX fitsY flooredX flooredY

theorem linearSample_periodic_iff (wide : 0 < w) (high : 0 < h) (managed : w * h ≤ 2 ^ 30) {uv' : Vector2 K}
    (fitsX : Fits (uv.x * w)) (fitsY : Fits (uv.y * h)) (fitsX' : Fits (uv'.x * w)) (fitsY' : Fits (uv'.y * h))
    (shiftedX : Shifted w (uv.x * w) (uv'.x * w)) (shiftedY : Shifted h (uv.y * h) (uv'.y * h)) :
    (∀ colors, colors.length = w * h → linearSample colors w h uv' = linearSample colors w h uv) ↔
      AxisPeriodic w (uv.x * w) (uv'.x * w) ∧ AxisPeriodic h (uv.y * h) (uv'.y * h) := by
  have sized : ∀ paint : Int → Int → K, (painted w h paint).length = w * h :=
    fun paint => (painted_texels wide high managed paint).sized
  rw [← lerpAxis_periodic_iff fitsX fitsX' shiftedX wide, ← lerpAxis_periodic_iff fitsY fitsY' shiftedY high]
  constructor
  · intro same
    have values : ∀ paint : Int → Int → K,
        (lerpAxis w (uv'.x * w) fun x => lerpAxis h (uv'.y * h) fun y => paint x y) =
          lerpAxis w (uv.x * w) fun x => lerpAxis h (uv.y * h) fun y => paint x y := by
      intro paint
      have equal := same _ (sized paint)
      rw [linearSample_painted wide high managed, linearSample_painted wide high managed] at equal
      exact congrArg Color.r (Except.ok.inj equal)
    constructor
    · intro entry
      have columns := values fun x _ => entry x
      simp only [lerpAxis_const] at columns
      exact columns.symm
    · intro entry
      have rows := values fun _ y => entry y
      simp only [lerpAxis_const] at rows
      exact rows.symm
  · rintro ⟨sameX, sameY⟩ colors size
    have texels : Texels colors w h := ⟨wide, high, size, managed⟩
    rcases linearSample_channel texels uv with ⟨color, sampled, channels⟩
    rcases linearSample_channel texels uv' with ⟨color', sampled', channels'⟩
    have equal : color' = color := by
      apply Color.ext_channel
      intro channel
      rw [channels', channels, ← sameX]
      simp only [sameY]
    rw [sampled, sampled', equal]

/-- A linear sample lies between the texels it reads, for all textures of a size, exactly where
the cast is as good as the floor on both axes. It repeats with the texture exactly where the
casts of both coordinates go the same way, or it does not matter. -/
theorem linearSample_tiles_iff (wide : 0 < w) (high : 0 < h) (managed : w * h ≤ 2 ^ 30) (fitsX : Fits (uv.x * w))
    (fitsY : Fits (uv.y * h)) :
    ((∀ colors, colors.length = w * h → SampleEnclosed colors w h uv) ↔
      AxisFloored w (uv.x * w) ∧ AxisFloored h (uv.y * h)) ∧
    ∀ m n : Int, Fits ((uv.x + m) * w) → Fits ((uv.y + n) * h) →
      ((∀ colors, colors.length = w * h →
          linearSample colors w h (uv + ⟨m, n⟩) = linearSample colors w h uv) ↔
        AxisPeriodic w (uv.x * w) ((uv.x + m) * w) ∧ AxisPeriodic h (uv.y * h) ((uv.y + n) * h)) := by
  refine ⟨sampleEnclosed_iff wide high managed fitsX fitsY, fun m n fitsX' fitsY' => ?_⟩
  exact linearSample_periodic_iff wide high managed fitsX fitsY fitsX' fitsY' (shifted_scale uv.x m w)
    (shifted_scale uv.y n h)

theorem linearSample_tiles_square :
    SampleEnclosed ([Color.gray 0, Color.gray 1, Color.gray 1, Color.gray 0] : List (Color Rat)) 2 2 ⟨1 / 4, 5 / 4⟩ := by
  have fitsX : Fits ((⟨1 / 4, 5 / 4⟩ : Vector2 Rat).x * (2 : Nat)) := by norm_num [Fits]
  have fitsY : Fits ((⟨1 / 4, 5 / 4⟩ : Vector2 Rat).y * (2 : Nat)) := by norm_num [Fits]
  have tiles := (linearSample_tiles_iff (by decide) (by decide) (by decide) fitsX fitsY).1
  exact tiles.mpr ⟨.inr (.inl (by norm_num)), .inr (.inl (by norm_num))⟩ _ rfl

/-- A black and a white texel. Left of the texture a sample is darker than black, and not what it
is one texture further. -/
theorem linearSample_negative :
    let colors : List (Color Rat) := [Color.gray 0, Color.gray 1]
    linearSample colors 2 1 ⟨-1 / 8, 0⟩ = .ok (Color.gray (-1 / 4)) ∧ ¬ SampleEnclosed colors 2 1 ⟨-1 / 8, 0⟩ ∧
      linearSample colors 2 1 (⟨-1 / 8, 0⟩ + ⟨(1 : Int), (0 : Int)⟩) = .ok (Color.gray (1 / 4)) := by
  intro colors
  have dark : linearSample colors 2 1 ⟨-1 / 8, 0⟩ = .ok (Color.gray (-1 / 4)) := by decide +kernel
  have read : linearReads colors 2 1 ⟨-1 / 8, 0⟩ =
      .ok (Color.gray 0, Color.gray 0, Color.gray 1, Color.gray 1) := by decide +kernel
  refine ⟨dark, ?_, by decide +kernel⟩
  rintro ⟨c00, c01, c10, c11, color, read', sampled, channels⟩
  cases read.symm.trans read'
  cases dark.symm.trans sampled
  have bound := (channels .r).1
  norm_num [Color.gray, Color.channel] at bound

/-! ## Point samples -/

omit [IsStrictOrderedRing K] [LinearOrder K] [FloorRing K] in
variable (K) [CharZero K] in
theorem texel_injective (wide : 0 < w) (high : 0 < h) (managed : w * h ≤ 2 ^ 30) (x x' y y' : Int) :
    (∀ colors : List (Color K), colors.length = w * h →
      texel colors w (x % w) (y % h) = texel colors w (x' % w) (y' % h)) ↔ x % w = x' % w ∧ y % h = y' % h := by
  constructor
  · intro same
    have values : ∀ paint : Int → Int → K, paint (x % w) (y % h) = paint (x' % w) (y' % h) := by
      intro paint
      have equal := same _ (painted_texels wide high managed paint).sized
      rw [texel_painted wide high, texel_painted wide high] at equal
      exact congrArg Color.r equal
    exact ⟨Int.cast_injective (values fun x _ => x), Int.cast_injective (values fun _ y => y)⟩
  · rintro ⟨columns, rows⟩ colors -
    rw [columns, rows]

theorem Fits.half (fits : Fits value) : -2 ^ 31 ≤ value + 1 / 2 ∧ value + 1 / 2 < 2 ^ 31 :=
  ⟨by linarith [fits.1], by linarith [fits.2]⟩

/-- A point sample is the nearest texel, for all textures of a size, exactly where the cast of the
coordinate raised by a half is as good as the floor. It repeats with the texture exactly where the
casts go the same way, or it does not matter. -/
theorem pointSample_nearest_iff (wide : 0 < w) (high : 0 < h) (managed : w * h ≤ 2 ^ 30) (fitsX : Fits (uv.x * w))
    (fitsY : Fits (uv.y * h)) :
    ((∀ colors, colors.length = w * h → ∃ color,
        arrayGet colors (⌊uv.y * h + 1 / 2⌋ % h * w + ⌊uv.x * w + 1 / 2⌋ % w) = .ok color ∧
          pointSample colors w h uv = .ok color) ↔
      AxisFloored w (uv.x * w + 1 / 2) ∧ AxisFloored h (uv.y * h + 1 / 2)) ∧
    ∀ m n : Int, Fits ((uv.x + m) * w) → Fits ((uv.y + n) * h) →
      ((∀ colors, colors.length = w * h →
          pointSample colors w h (uv + ⟨m, n⟩) = pointSample colors w h uv) ↔
        AxisPeriodic w (uv.x * w + 1 / 2) ((uv.x + m) * w + 1 / 2) ∧
          AxisPeriodic h (uv.y * h + 1 / 2) ((uv.y + n) * h + 1 / 2)) := by
  rcases fitsX.half with ⟨lowerX, upperX⟩
  rcases fitsY.half with ⟨lowerY, upperY⟩
  constructor
  · rw [← castInt_emod_eq_iff lowerX upperX wide, ← castInt_emod_eq_iff lowerY upperY high,
      ← texel_injective K wide high managed]
    apply forall₂_congr
    intro colors size
    have texels : Texels colors w h := ⟨wide, high, size, managed⟩
    simp only [texels.get, pointSample_eq texels, Except.ok.injEq, exists_eq_left']
  · intro m n fitsX' fitsY'
    rcases fitsX'.half with ⟨lowerX', upperX'⟩
    rcases fitsY'.half with ⟨lowerY', upperY'⟩
    rw [← castInt_emod_shifted_iff lowerX upperX lowerX' upperX' (shifted_scale uv.x m w).half wide,
      ← castInt_emod_shifted_iff lowerY upperY lowerY' upperY' (shifted_scale uv.y n h).half high,
      ← texel_injective K wide high managed]
    apply forall₂_congr
    intro colors size
    have texels : Texels colors w h := ⟨wide, high, size, managed⟩
    rw [pointSample_eq texels, pointSample_eq texels, Except.ok.injEq]
    exact eq_comm

theorem pointSample_nearest_square :
    let colors : List (Color Rat) := [Color.gray 0, Color.gray 1, Color.gray (1 / 2), Color.gray 0]
    ∃ color, arrayGet colors 2 = .ok color ∧ pointSample colors 2 2 ⟨1 / 8, 5 / 4⟩ = .ok color := by
  intro colors
  have fitsX : Fits ((⟨1 / 8, 5 / 4⟩ : Vector2 Rat).x * (2 : Nat)) := by norm_num [Fits]
  have fitsY : Fits ((⟨1 / 8, 5 / 4⟩ : Vector2 Rat).y * (2 : Nat)) := by norm_num [Fits]
  have nearest := (pointSample_nearest_iff (by decide) (by decide) (by decide) fitsX fitsY).1
  have index : ⌊(⟨1 / 8, 5 / 4⟩ : Vector2 Rat).y * (2 : Nat) + 1 / 2⌋ % (2 : Nat) * (2 : Nat) +
      ⌊(⟨1 / 8, 5 / 4⟩ : Vector2 Rat).x * (2 : Nat) + 1 / 2⌋ % (2 : Nat) = 2 := by decide +kernel
  rw [index] at nearest
  exact nearest.mpr ⟨.inr (.inl (by norm_num)), .inr (.inl (by norm_num))⟩ colors rfl

/-- A black and a white texel. Left of the texture a point sample takes the texel that is not the
nearest, and that it does not take one texture further. -/
theorem pointSample_negative :
    let colors : List (Color Rat) := [Color.gray 0, Color.gray 1]
    pointSample colors 2 1 ⟨-3 / 8, 0⟩ = .ok (Color.gray 0) ∧
      arrayGet colors (⌊(0 * 1 + 1 / 2 : Rat)⌋ % 1 * 2 + ⌊(-3 / 8 * 2 + 1 / 2 : Rat)⌋ % 2) = .ok (Color.gray 1) ∧
      pointSample colors 2 1 (⟨-3 / 8, 0⟩ + ⟨(1 : Int), (0 : Int)⟩) = .ok (Color.gray 1) :=
  ⟨by decide +kernel, by decide +kernel, by decide +kernel⟩

end

end RayTraceRenderer.Managed
