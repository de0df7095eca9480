import RayTraceRenderer.Foundation.Exception
import Mathlib.Data.List.Perm.Basic
import Mathlib.Data.List.ProdSigma
import Mathlib.Data.List.Nodup
import Mathlib.Tactic.Ring

/-! Loops that fill an array, one slot after the other.

The order of the writes does not matter as long as no two of them go to one slot.
A loop over a grid may run along the columns and still fill an array row by row.
-/

set_option autoImplicit false

namespace RayTraceRenderer.Filling

variable {α β : Type}

/-! ## Writes -/

def writeAll (array : List α) (writes : List (Nat × α)) : Except Exn (List α) :=
  writes.foldlM (fun array write => arraySet array write.1 write.2) array

theorem writeAll_cons_eq_ok {array array' : List α} {slot : Nat} {value : α} {writes : List (Nat × α)} :
    writeAll array ((slot, value) :: writes) = .ok array' ↔
      slot < array.length ∧ writeAll (array.set slot value) writes = .ok array' := by
  unfold writeAll
  rw [List.foldlM_cons, bind_eq_ok]
  simp only [arraySet_eq_ok, Int.toNat_natCast]
  constructor
  · rintro ⟨mid, ⟨-, inside, rfl⟩, rest⟩
    exact ⟨Int.ofNat_lt.mp inside, rest⟩
  · rintro ⟨inside, rest⟩
    exact ⟨_, ⟨Int.natCast_nonneg _, Int.ofNat_lt.mpr inside, rfl⟩, rest⟩

theorem writeAll_length {array array' : List α} {writes : List (Nat × α)}
    (returned : writeAll array writes = .ok array') : array'.length = array.length := by
  induction writes generalizing array with
  | nil =>
    cases returned
    rfl
  | cons write writes ih =>
    rw [ih (writeAll_cons_eq_ok.mp returned).2, List.length_set]

theorem writeAll_flatMap (writes : β → List (Nat × α)) (xs : List β) (array : List α) :
    writeAll array (xs.flatMap writes) = xs.foldlM (fun array x => writeAll array (writes x)) array := by
  unfold writeAll
  induction xs generalizing array with
  | nil => rfl
  | cons x xs ih =>
    rw [List.flatMap_cons, List.foldlM_append, List.foldlM_cons]
    exact bind_congr ih

theorem exists_writeAll {array : List α} {writes : List (Nat × α)}
    (inside : ∀ write ∈ writes, write.1 < array.length) : ∃ array', writeAll array writes = .ok array' := by
  induction writes generalizing array with
  | nil => exact ⟨array, rfl⟩
  | cons write writes ih =>
    have later : ∀ next ∈ writes, next.1 < (array.set write.1 write.2).length := by
      intro next member
      rw [List.length_set]
      exact inside next (List.mem_cons_of_mem _ member)
    obtain ⟨array', returned⟩ := ih later
    exact ⟨array', writeAll_cons_eq_ok.mpr ⟨inside write List.mem_cons_self, returned⟩⟩

theorem writeAll_untouched {array array' : List α} {writes : List (Nat × α)} {slot : Nat}
    (returned : writeAll array writes = .ok array') (untouched : slot ∉ writes.map Prod.fst) :
    array'[slot]? = array[slot]? := by
  induction writes generalizing array with
  | nil =>
    cases returned
    rfl
  | cons write writes ih =>
    rw [List.map_cons, List.mem_cons, not_or] at untouched
    rw [ih (writeAll_cons_eq_ok.mp returned).2 untouched.2, List.getElem?_set_ne (Ne.symm untouched.1)]

theorem writeAll_written {array array' : List α} {writes : List (Nat × α)} {slot : Nat} {value : α}
    (returned : writeAll array writes = .ok array') (once : (writes.map Prod.fst).Nodup)
    (written : (slot, value) ∈ writes) : array'[slot]? = some value := by
  induction writes generalizing array with
  | nil => cases written
  | cons write writes ih =>
    rw [List.map_cons, List.nodup_cons] at once
    obtain ⟨inside, rest⟩ := writeAll_cons_eq_ok.mp returned
    rcases List.mem_cons.mp written with rfl | later
    · rw [writeAll_untouched rest once.1, List.getElem?_set_self inside]
    · exact ih rest once.2 later

/-! ## Filling -/

def entries (target : List α) : List (Nat × α) := target.zipIdx.map Prod.swap

theorem mem_entries {target : List α} {slot : Nat} {value : α} :
    (slot, value) ∈ entries target ↔ target[slot]? = some value := by
  unfold entries
  rw [← List.mk_mem_zipIdx_iff_getElem?]
  simp

theorem entries_slots (target : List α) : (entries target).map Prod.fst = List.range target.length := by
  unfold entries
  rw [List.map_map, List.range_eq_range', ← List.zipIdx_map_snd]
  rfl

def Fills (writes : List (Nat × α)) (target : List α) : Prop := writes.Perm (entries target)

-- Every slot is written exactly once.
theorem Fills.slots {writes : List (Nat × α)} {target : List α} (fills : Fills writes target) :
    (writes.map Prod.fst).Perm (List.range target.length) := by
  rw [← entries_slots]
  exact fills.map Prod.fst

theorem Fills.writeAll {writes : List (Nat × α)} {target array : List α} (fills : Fills writes target)
    (size : array.length = target.length) : writeAll array writes = .ok target := by
  have inside : ∀ write ∈ writes, write.1 < array.length := by
    intro write member
    rw [size, ← List.mem_range]
    exact fills.slots.mem_iff.mp (List.mem_map_of_mem member)
  obtain ⟨array', returned⟩ := exists_writeAll inside
  have once : (writes.map Prod.fst).Nodup := fills.slots.nodup_iff.mpr List.nodup_range
  rw [returned]
  congr 1
  apply List.ext_getElem?
  intro slot
  cases found : target[slot]? with
  | some value => exact writeAll_written returned once (fills.mem_iff.mpr (mem_entries.mpr found))
  | none =>
    rw [List.getElem?_eq_none_iff] at found ⊢
    rw [writeAll_length returned, size]
    exact found

/-! ## Grids -/

/-- The points of a grid of some width, one row after the other; first the column, then the row. -/
def rowMajor (width height : Nat) : List (Nat × Nat) :=
  (List.range height).flatMap fun j => (List.range width).map fun i => (i, j)

/-- The same points in the order of two nested loops, the outer one over the columns. -/
def columnMajor (width height : Nat) : List (Nat × Nat) := List.range width ×ˢ List.range height

theorem mem_rowMajor {width height : Nat} {point : Nat × Nat} :
    point ∈ rowMajor width height ↔ point.1 < width ∧ point.2 < height := by
  simp only [rowMajor, List.mem_flatMap, List.mem_map, List.mem_range]
  constructor
  · rintro ⟨j, below, i, left, rfl⟩
    exact ⟨left, below⟩
  · rintro ⟨left, below⟩
    exact ⟨point.2, below, point.1, left, rfl⟩

theorem length_rowMajor (width height : Nat) : (rowMajor width height).length = height * width := by
  simp [rowMajor, List.length_flatMap]

theorem mem_columnMajor {width height : Nat} {point : Nat × Nat} :
    point ∈ columnMajor width height ↔ point.1 < width ∧ point.2 < height := by
  rcases point with ⟨i, j⟩
  simp [columnMajor]

-- Row by row, a point is found at its row times the width plus its column.
theorem zipIdx_rowMajor (width height : Nat) :
    (rowMajor width height).zipIdx = (rowMajor width height).map fun point => (point, point.2 * width + point.1) := by
  have row : ∀ start j : Nat, ((List.range width).map fun i => (i, j)).zipIdx start =
      ((List.range width).map fun i => (i, j)).map fun point => (point, start + point.1) := by
    intro start j
    apply List.ext_getElem
    · simp
    · intro i _ _
      simp
  induction height with
  | zero => rfl
  | succ height ih =>
    have rows : rowMajor width (height + 1) =
        rowMajor width height ++ (List.range width).map fun i => (i, height) := by
      simp [rowMajor, List.range_succ]
    rw [rows, List.zipIdx_append, ih, List.map_append, length_rowMajor, Nat.zero_add, row]
    simp

theorem getElem?_rowMajor {width height : Nat} {point : Nat × Nat} (member : point ∈ rowMajor width height) :
    (rowMajor width height)[point.2 * width + point.1]? = some point := by
  rw [← List.mk_mem_zipIdx_iff_getElem?, zipIdx_rowMajor]
  exact List.mem_map_of_mem member

theorem nodup_rowMajor (width height : Nat) : (rowMajor width height).Nodup := by
  have swapped : rowMajor width height = (List.range height ×ˢ List.range width).map Prod.swap := by
    simp [rowMajor, SProd.sprod, List.product, List.map_flatMap, Function.comp_def]
  rw [swapped]
  exact (List.nodup_range.product List.nodup_range).map Prod.swap_injective

theorem columnMajor_perm (width height : Nat) : (columnMajor width height).Perm (rowMajor width height) := by
  have nodup : (columnMajor width height).Nodup := List.nodup_range.product List.nodup_range
  rw [List.perm_ext_iff_of_nodup nodup (nodup_rowMajor width height)]
  intro point
  rw [mem_columnMajor, mem_rowMajor]

theorem foldlM_columnMajor {γ : Type} (f : Nat → γ → Nat → Except Exn γ) (width height : Nat) (acc : γ) :
    (List.range width).foldlM (fun acc i => (List.range height).foldlM (f i) acc) acc =
      (columnMajor width height).foldlM (fun acc point => f point.1 acc point.2) acc := by
  unfold columnMajor
  generalize List.range width = columns
  induction columns generalizing acc with
  | nil => rfl
  | cons i columns ih =>
    rw [List.foldlM_cons, List.product_cons, List.foldlM_append, List.foldlM_map]
    exact bind_congr ih

theorem fills_rowMajor (value : Nat × Nat → α) (width height : Nat) :
    Fills ((columnMajor width height).map fun point => (point.2 * width + point.1, value point))
      ((rowMajor width height).map value) := by
  unfold Fills entries
  rw [List.zipIdx_map, zipIdx_rowMajor]
  simp only [List.map_map]
  exact (columnMajor_perm width height).map _

theorem zipIdx_flatMap {size : Nat} {block : α → List β} (sized : ∀ x, (block x).length = size) (xs : List α)
    (start : Nat) :
    (xs.flatMap block).zipIdx (start * size) =
      (xs.zipIdx start).flatMap fun entry => (block entry.1).zipIdx (entry.2 * size) := by
  induction xs generalizing start with
  | nil => rfl
  | cons x xs ih =>
    have next : start * size + size = (start + 1) * size := by ring
    rw [List.flatMap_cons, List.zipIdx_append, sized, next, ih, List.zipIdx_cons, List.flatMap_cons]

theorem fills_rowMajor_blocks {size : Nat} {block : Nat × Nat → List α} (sized : ∀ point, (block point).length = size)
    (width height : Nat) :
    Fills ((columnMajor width height).flatMap fun point =>
        ((block point).zipIdx ((point.2 * width + point.1) * size)).map Prod.swap)
      ((rowMajor width height).flatMap block) := by
  have blocks := zipIdx_flatMap sized (rowMajor width height) 0
  rw [Nat.zero_mul, zipIdx_rowMajor, List.flatMap_map] at blocks
  unfold Fills entries
  rw [blocks, List.map_flatMap]
  exact (columnMajor_perm width height).flatMap_right _

end RayTraceRenderer.Filling
