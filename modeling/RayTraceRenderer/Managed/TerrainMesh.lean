import RayTraceRenderer.Foundation.Filling
import RayTraceRenderer.Managed.Accesses

/-! The mesh that Init makes of a height map.

Two double loops fill it, along the columns. What they leave is written here point by
point and cell by cell, along the rows, as the arrays are laid out.
-/

set_option autoImplicit false

namespace RayTraceRenderer.Managed

open Unity Filling

variable {K : Type} [Field K]

/-! ## Vertices -/

section
variable (data : TerrainData K)

def HasSample (point : Nat × Nat) : Prop := ∃ row, data.heights[point.2]? = some row ∧ point.1 < row.length

def heightAt (point : Nat × Nat) : K := (data.heights.getD point.2 []).getD point.1 0

def vertexAt (point : Nat × Nat) : Vector3 K :=
  ⟨point.1 * (data.size.x * (1 + 1 / data.heightmapWidth)) / data.heightmapWidth,
   heightAt data point * data.size.y,
   point.2 * (data.size.z * (1 + 1 / data.heightmapHeight)) / data.heightmapHeight⟩

def uvAt (point : Nat × Nat) : Vector2 K := ⟨point.1 / data.heightmapWidth, point.2 / data.heightmapHeight⟩

def normalAt (point : Nat × Nat) : Vector3 K :=
  data.interpolatedNormal (point.1 / data.heightmapWidth) (point.2 / data.heightmapHeight)

end

def vertexIndex (w : Nat) (point : Nat × Nat) : Nat := point.2 * w + point.1

section
variable {data : TerrainData K}

theorem read_height {point : Nat × Nat} {height : K} :
    (∃ row, arrayGet data.heights point.2 = .ok row ∧ arrayGet row point.1 = .ok height) ↔
      HasSample data point ∧ height = heightAt data point := by
  simp only [arrayGet_eq_ok, HasSample, heightAt, Int.natCast_nonneg, true_and, Int.toNat_natCast]
  constructor
  · rintro ⟨row, found, sample⟩
    refine ⟨⟨row, found, (List.getElem?_eq_some_iff.mp sample).1⟩, ?_⟩
    simp [List.getD_eq_getElem?_getD, found, sample]
  · rintro ⟨⟨row, found, inside⟩, rfl⟩
    refine ⟨row, found, ?_⟩
    simp [List.getD_eq_getElem?_getD, found, inside]

theorem setVertex_eq_ok {point : Nat × Nat} (fits : vertexIndex data.heightmapWidth point < 2 ^ 31)
    {arrays arrays' : VertexArrays K} :
    setVertex data point.1 arrays point.2 = .ok arrays' ↔ HasSample data point ∧
      arraySet arrays.vertices (vertexIndex data.heightmapWidth point) (vertexAt data point) = .ok arrays'.vertices ∧
      arraySet arrays.uvs (vertexIndex data.heightmapWidth point) (uvAt data point) = .ok arrays'.uvs ∧
      arraySet arrays.normals (vertexIndex data.heightmapWidth point) (normalAt data point) = .ok arrays'.normals := by
  have index : wrap32 ((point.2 : Int) * data.heightmapWidth + point.1) = vertexIndex data.heightmapWidth point := by
    rw [← wrap32_natCast fits, vertexIndex, Nat.cast_add, Nat.cast_mul]
  unfold setVertex
  simp only [index, bind_eq_ok]
  constructor
  · rintro ⟨row, found, height, sample, vertices, set, uvs, setUv, normals, setNormal, same⟩
    obtain ⟨has, rfl⟩ := read_height.mp ⟨row, found, sample⟩
    cases same
    exact ⟨has, set, setUv, setNormal⟩
  · rintro ⟨has, set, setUv, setNormal⟩
    obtain ⟨row, found, sample⟩ := read_height.mpr ⟨has, rfl⟩
    exact ⟨row, found, _, sample, _, set, _, setUv, _, setNormal, rfl⟩

def vertexWrites {α : Type} (w : Nat) (value : Nat × Nat → α) (points : List (Nat × Nat)) : List (Nat × α) :=
  points.map fun point => (vertexIndex w point, value point)

-- The loop reads a sample for every point, and fills its three arrays side by side.
theorem setVertices_eq_ok {points : List (Nat × Nat)}
    (fits : ∀ point ∈ points, vertexIndex data.heightmapWidth point < 2 ^ 31) {arrays arrays' : VertexArrays K} :
    points.foldlM (fun arrays point => setVertex data point.1 arrays point.2) arrays = .ok arrays' ↔
      (∀ point ∈ points, HasSample data point) ∧
      writeAll arrays.vertices (vertexWrites data.heightmapWidth (vertexAt data) points) = .ok arrays'.vertices ∧
      writeAll arrays.uvs (vertexWrites data.heightmapWidth (uvAt data) points) = .ok arrays'.uvs ∧
      writeAll arrays.normals (vertexWrites data.heightmapWidth (normalAt data) points) = .ok arrays'.normals := by
  induction points generalizing arrays with
  | nil =>
    cases arrays
    cases arrays'
    simp [writeAll, vertexWrites, pure, Except.pure]
  | cons point points ih =>
    have later : ∀ next ∈ points, vertexIndex data.heightmapWidth next < 2 ^ 31 := by
      intro next member
      exact fits next (List.mem_cons_of_mem _ member)
    have first := fits point List.mem_cons_self
    rw [List.foldlM_cons, bind_eq_ok, List.forall_mem_cons]
    simp only [setVertex_eq_ok first, ih later, vertexWrites, List.map_cons, writeAll, List.foldlM_cons, bind_eq_ok]
    constructor
    · rintro ⟨mid, ⟨has, set, setUv, setNormal⟩, rest, vertices, uvs, normals⟩
      exact ⟨⟨has, rest⟩, ⟨_, set, vertices⟩, ⟨_, setUv, uvs⟩, ⟨_, setNormal, normals⟩⟩
    · rintro ⟨⟨has, rest⟩, ⟨vertexMid, set, vertices⟩, ⟨uvMid, setUv, uvs⟩, ⟨normalMid, setNormal, normals⟩⟩
      exact ⟨⟨vertexMid, uvMid, normalMid⟩, ⟨has, set, setUv, setNormal⟩, rest, vertices, uvs, normals⟩

def gridVertices (data : TerrainData K) : VertexArrays K :=
  let points := rowMajor data.heightmapWidth data.heightmapHeight
  { vertices := points.map (vertexAt data), uvs := points.map (uvAt data), normals := points.map (normalAt data) }

theorem vertexIndex_lt {w h : Nat} {point : Nat × Nat} (inside : point ∈ rowMajor w h) :
    vertexIndex w point < w * h := by
  have stored := (List.getElem?_eq_some_iff.mp (getElem?_rowMajor inside)).1
  rw [length_rowMajor, Nat.mul_comm h] at stored
  exact stored

theorem writeAll_vertices {α : Type} {w h : Nat} (value : Nat × Nat → α) {array : List α}
    (size : array.length = w * h) :
    writeAll array (vertexWrites w value (columnMajor w h)) = .ok ((rowMajor w h).map value) := by
  apply (fills_rowMajor value w h).writeAll
  rw [List.length_map, length_rowMajor, size, Nat.mul_comm]

theorem vertexLoop_eq_ok (fits : data.heightmapWidth * data.heightmapHeight ≤ 2 ^ 31)
    {arrays arrays' : VertexArrays K} (sized : arrays.Sized (data.heightmapWidth * data.heightmapHeight)) :
    (List.range data.heightmapWidth).foldlM
        (fun arrays i => (List.range data.heightmapHeight).foldlM (setVertex data i) arrays) arrays = .ok arrays' ↔
      (∀ point ∈ rowMajor data.heightmapWidth data.heightmapHeight, HasSample data point) ∧
        arrays' = gridVertices data := by
  have inside : ∀ point, point ∈ columnMajor data.heightmapWidth data.heightmapHeight ↔
      point ∈ rowMajor data.heightmapWidth data.heightmapHeight := by
    intro point
    exact (columnMajor_perm _ _).mem_iff
  have indices : ∀ point ∈ columnMajor data.heightmapWidth data.heightmapHeight,
      vertexIndex data.heightmapWidth point < 2 ^ 31 := by
    intro point member
    exact (vertexIndex_lt ((inside point).mp member)).trans_le fits
  rcases sized with ⟨vertexCount, uvCount, normalCount⟩
  rw [foldlM_columnMajor, setVertices_eq_ok indices, writeAll_vertices _ vertexCount, writeAll_vertices _ uvCount,
    writeAll_vertices _ normalCount]
  simp only [Except.ok.injEq, inside]
  apply and_congr_right'
  constructor
  · rintro ⟨same, sameUvs, sameNormals⟩
    cases arrays'
    subst same sameUvs sameNormals
    rfl
  · rintro rfl
    exact ⟨rfl, rfl, rfl⟩

end

/-! ## Triangles -/

def cellCorners (w : Nat) (cell : Nat × Nat) : List Int :=
  let (i, j) := cell
  [vertexIndex w (i, j), vertexIndex w (i + 1, j + 1), vertexIndex w (i + 1, j),
    vertexIndex w (i, j), vertexIndex w (i, j + 1), vertexIndex w (i + 1, j + 1)]

def cellWrites (w : Nat) (cell : Nat × Nat) : List (Nat × Int) :=
  ((cellCorners w cell).zipIdx ((cell.2 * (w - 1) + cell.1) * 6)).map Prod.swap

def triangleWrites (w h : Nat) : List (Nat × Int) := (columnMajor (w - 1) (h - 1)).flatMap (cellWrites w)

def gridTriangles (w h : Nat) : List Int := (rowMajor (w - 1) (h - 1)).flatMap (cellCorners w)

theorem length_cellCorners (w : Nat) (cell : Nat × Nat) : (cellCorners w cell).length = 6 := rfl

theorem length_gridTriangles (w h : Nat) : (gridTriangles w h).length = 6 * ((w - 1) * (h - 1)) := by
  simp only [gridTriangles, List.length_flatMap, length_cellCorners, List.map_const', List.sum_replicate,
    length_rowMajor]
  rw [smul_eq_mul]
  ring

theorem triangleWrites_fill (w h : Nat) : Fills (triangleWrites w h) (gridTriangles w h) :=
  fills_rowMajor_blocks (length_cellCorners w) (w - 1) (h - 1)

section
variable {w h : Nat}

theorem corner_inside {cell : Nat × Nat} (inside : cell ∈ rowMajor (w - 1) (h - 1)) {di dj : Nat} (right : di ≤ 1)
    (up : dj ≤ 1) : (cell.1 + di, cell.2 + dj) ∈ rowMajor w h := by
  rw [mem_rowMajor] at inside ⊢
  simp only
  omega

theorem vertices_fit (fits : 6 * ((w - 1) * (h - 1)) < 2 ^ 31) (wide : 2 ≤ w) (high : 2 ≤ h) : w * h < 2 ^ 31 := by
  obtain ⟨a, rfl⟩ : ∃ a, w = a + 2 := ⟨w - 2, by omega⟩
  obtain ⟨b, rfl⟩ : ∃ b, h = b + 2 := ⟨h - 2, by omega⟩
  have fewer : (a + 2) * (b + 2) ≤ 6 * ((a + 1) * (b + 1)) := by nlinarith
  exact fewer.trans_lt fits

theorem setTriangles_eq (fits : 6 * ((w - 1) * (h - 1)) < 2 ^ 31) {cell : Nat × Nat}
    (inside : cell ∈ rowMajor (w - 1) (h - 1)) (triangles : List Int) :
    setTriangles w cell.1 triangles cell.2 = writeAll triangles (cellWrites w cell) := by
  rcases cell with ⟨i, j⟩
  have within := mem_rowMajor.mp inside
  simp only at within
  have cellBound : j * (w - 1) + i < (w - 1) * (h - 1) := vertexIndex_lt inside
  have vertexBound : w * h < 2 ^ 31 := vertices_fit fits (by omega) (by omega)
  have slot : ∀ k : Int, 0 ≤ k → k < 6 →
      wrap32 (((j : Int) * (w - 1) + i) * 6 + k) = ((j * (w - 1) + i) * 6 + k.toNat : Nat) := by
    intro k nonneg small
    have columns : ((w - 1 : Nat) : Int) = w - 1 := by omega
    rw [← wrap32_natCast (show (j * (w - 1) + i) * 6 + k.toNat < 2 ^ 31 by omega)]
    push_cast
    rw [columns, Int.toNat_of_nonneg nonneg]
  have corner : ∀ di dj : Int, 0 ≤ di → di ≤ 1 → 0 ≤ dj → dj ≤ 1 →
      wrap32 (((i : Int) + di) + ((j : Int) + dj) * w) = vertexIndex w (i + di.toNat, j + dj.toNat) := by
    intro di dj left right below above
    have point := corner_inside inside (show di.toNat ≤ 1 by omega) (show dj.toNat ≤ 1 by omega)
    rw [← wrap32_natCast ((vertexIndex_lt point).trans vertexBound)]
    unfold vertexIndex
    push_cast
    rw [Int.toNat_of_nonneg left, Int.toNat_of_nonneg below, add_comm]
  unfold setTriangles
  simp (disch := decide) only [slot, corner]
  simp [writeAll, cellWrites, cellCorners, List.zipIdx, add_assoc]

-- The double loop over the cells makes the writes of the cells, one cell after the other.
theorem triangleLoop_eq (fits : 6 * ((w - 1) * (h - 1)) < 2 ^ 31) (triangles : List Int) :
    (List.range (w - 1)).foldlM
        (fun triangles i => (List.range (h - 1)).foldlM (setTriangles w i) triangles) triangles =
      writeAll triangles (triangleWrites w h) := by
  have cells : ∀ cell ∈ columnMajor (w - 1) (h - 1), ∀ triangles,
      setTriangles w cell.1 triangles cell.2 = writeAll triangles (cellWrites w cell) := by
    intro cell member triangles
    exact setTriangles_eq fits ((columnMajor_perm _ _).mem_iff.mp member) triangles
  rw [foldlM_columnMajor, triangleWrites, writeAll_flatMap]
  generalize columnMajor (w - 1) (h - 1) = points at cells
  induction points generalizing triangles with
  | nil => rfl
  | cons cell points ih =>
    rw [List.foldlM_cons, List.foldlM_cons, cells cell List.mem_cons_self]
    exact bind_congr fun mid => ih mid fun next member => cells next (List.mem_cons_of_mem _ member)

end

/-! ## The whole mesh -/

/-- What GetHeights promises: a row for each sample of the second direction. -/
structure HeightsSampled (data : TerrainData K) : Prop where
  rows : data.heights.length = data.heightmapHeight
  columns : ∀ row ∈ data.heights, row.length = data.heightmapWidth

def gridMesh (data : TerrainData K) : SimpleMesh K where
  triangles := gridTriangles data.heightmapWidth data.heightmapHeight
  uv := (gridVertices data).uvs
  vertices := (gridVertices data).vertices
  normals := (gridVertices data).normals

section
variable {data : TerrainData K}

omit [Field K] in
theorem HeightsSampled.hasSample (sampled : HeightsSampled data) {point : Nat × Nat}
    (inside : point ∈ rowMajor data.heightmapWidth data.heightmapHeight) : HasSample data point := by
  obtain ⟨left, below⟩ := mem_rowMajor.mp inside
  rw [← sampled.rows] at below
  refine ⟨data.heights[point.2], List.getElem?_eq_getElem below, ?_⟩
  rw [sampled.columns _ (List.getElem_mem below)]
  exact left

theorem getElem?_gridVertices {point : Nat × Nat}
    (inside : point ∈ rowMajor data.heightmapWidth data.heightmapHeight) :
    (gridMesh data).vertices[vertexIndex data.heightmapWidth point]? = some (vertexAt data point) ∧
      (gridMesh data).uv[vertexIndex data.heightmapWidth point]? = some (uvAt data point) := by
  have found := getElem?_rowMajor inside
  simp only [gridMesh, gridVertices, vertexIndex, List.getElem?_map, found, Option.map_some, and_self]

-- Where the arrays have the right sizes, the loops leave the mesh of the grid and throw nothing.
theorem ofTerrainData_eq (sampled : HeightsSampled data) (wide : 2 ≤ data.heightmapWidth) (high : 2 ≤ data.heightmapHeight)
    (fits : 6 * ((data.heightmapWidth - 1) * (data.heightmapHeight - 1)) < 2 ^ 31) :
    SimpleMesh.ofTerrainData data = .ok (gridMesh data) := by
  have vertexFits := vertices_fit fits wide high
  have entries : ((data.heightmapWidth : Int) - 1) * (data.heightmapHeight - 1) * 2 * 3 =
      (6 * ((data.heightmapWidth - 1) * (data.heightmapHeight - 1)) : Nat) := by
    rw [Nat.cast_mul, Nat.cast_mul, Nat.cast_sub (one_le_two.trans wide), Nat.cast_sub (one_le_two.trans high)]
    push_cast
    ring
  have newVertices : newArray (wrap32 (data.heightmapWidth * data.heightmapHeight)) (0 : Vector3 K) =
      .ok (List.replicate (data.heightmapWidth * data.heightmapHeight) 0) := by
    rw [← Nat.cast_mul, wrap32_natCast vertexFits]
    exact newArray_eq_ok.mpr ⟨Int.natCast_nonneg _, rfl⟩
  have newTriangles : newArray
      (wrap32 (((data.heightmapWidth : Int) - 1) * (data.heightmapHeight - 1) * 2 * 3)) (0 : Int) =
      .ok (List.replicate (6 * ((data.heightmapWidth - 1) * (data.heightmapHeight - 1))) 0) := by
    rw [entries, wrap32_natCast fits]
    exact newArray_eq_ok.mpr ⟨Int.natCast_nonneg _, rfl⟩
  have sameSize : ∀ {α : Type} (value : α),
      newArray (List.replicate (data.heightmapWidth * data.heightmapHeight) (0 : Vector3 K)).length value =
        .ok (List.replicate (data.heightmapWidth * data.heightmapHeight) value) := by
    intro α value
    rw [List.length_replicate]
    exact newArray_eq_ok.mpr ⟨Int.natCast_nonneg _, rfl⟩
  have sized : (⟨List.replicate (data.heightmapWidth * data.heightmapHeight) 0,
      List.replicate (data.heightmapWidth * data.heightmapHeight) ⟨0, 0⟩,
      List.replicate (data.heightmapWidth * data.heightmapHeight) 0⟩ : VertexArrays K).Sized
        (data.heightmapWidth * data.heightmapHeight) := by
    simp [VertexArrays.Sized]
  have filled := (vertexLoop_eq_ok vertexFits.le sized).mpr ⟨fun _ inside => sampled.hasSample inside, rfl⟩
  have indexed := (triangleWrites_fill data.heightmapWidth data.heightmapHeight).writeAll
    (List.length_replicate.trans (length_gridTriangles _ _).symm :
      (List.replicate (6 * ((data.heightmapWidth - 1) * (data.heightmapHeight - 1))) (0 : Int)).length = _)
  rw [← triangleLoop_eq fits] at indexed
  unfold SimpleMesh.ofTerrainData
  simp only [bind_eq_ok]
  exact ⟨_, newVertices, _, sameSize _, _, sameSize _, _, newTriangles, _, filled, _, indexed, rfl⟩

omit [Field K] in
theorem vertices_unwrapped (wide : 0 < data.heightmapWidth) {size : Nat}
    (size_eq : (size : Int) = wrap32 (data.heightmapWidth * data.heightmapHeight))
    (inside : ∀ i j, i < data.heightmapWidth → j < data.heightmapHeight →
      SampleInside data.heightmapWidth size i j) :
    data.heightmapWidth * data.heightmapHeight < 2 ^ 31 := by
  by_contra large
  have small : size < 2 ^ 31 := by
    unfold wrap32 at size_eq
    omega
  -- the sample whose index is the length of the arrays
  have row : size / data.heightmapWidth < data.heightmapHeight := Nat.div_lt_of_lt_mul (by omega)
  have index : ((size % data.heightmapWidth : Nat) : Int) + (size / data.heightmapWidth : Nat) * data.heightmapWidth =
      size := by
    exact_mod_cast Nat.mod_add_div' size data.heightmapWidth
  have bound := (inside _ _ (Nat.mod_lt size wide) row).2
  rw [index, wrap32_natCast small] at bound
  exact lt_irrefl _ bound

theorem ofTerrainData_vertices (wide : 0 < data.heightmapWidth) {mesh : SimpleMesh K}
    (returned : SimpleMesh.ofTerrainData data = .ok mesh) :
    mesh.vertices = (gridMesh data).vertices ∧ mesh.uv = (gridMesh data).uv := by
  unfold SimpleMesh.ofTerrainData at returned
  simp only [bind_eq_ok] at returned
  obtain ⟨vertices, newVertices, uvs, newUvs, normals, newNormals, triangles, -, arrays, filled,
    triangles', -, same⟩ := returned
  cases same
  have start : (⟨vertices, uvs, normals⟩ : VertexArrays K).Sized vertices.length := by
    refine ⟨rfl, ?_, ?_⟩
    · simp [(newArray_eq_ok.mp newUvs).2]
    · simp [(newArray_eq_ok.mp newNormals).2]
  obtain ⟨nonneg, zeros⟩ := newArray_eq_ok.mp newVertices
  have size : (vertices.length : Int) = wrap32 (data.heightmapWidth * data.heightmapHeight) := by
    rw [zeros, List.length_replicate, Int.toNat_of_nonneg nonneg]
  have unwrapped := vertices_unwrapped wide size (vertices_filled start filled).2
  rw [← Nat.cast_mul, wrap32_natCast unwrapped, Nat.cast_inj] at size
  rw [size] at start
  have whole := ((vertexLoop_eq_ok unwrapped.le start).mp filled).2
  rw [whole]
  exact ⟨rfl, rfl⟩

end

/-! ## The mesh against the terrain -/

/-- The corners of the mesh are the corners of the terrain. -/
def CornersExact (data : TerrainData K) (mesh : SimpleMesh K) : Prop :=
  let right := data.heightmapWidth - 1
  let far := data.heightmapHeight - 1
  ∀ corner position, mesh.vertices[vertexIndex data.heightmapWidth corner]? = some position →
    (corner = (0, 0) → position.x = 0 ∧ position.z = 0) ∧
    (corner = (right, 0) → position.x = data.size.x ∧ position.z = 0) ∧
    (corner = (0, far) → position.x = 0 ∧ position.z = data.size.z) ∧
    (corner = (right, far) → position.x = data.size.x ∧ position.z = data.size.z)

/-- The texture coordinates of a vertex are its position in units of the terrain. -/
def UvAgrees (data : TerrainData K) (mesh : SimpleMesh K) : Prop :=
  ∀ (t : Nat) (position : Vector3 K) (uv : Vector2 K), mesh.vertices[t]? = some position →
    mesh.uv[t]? = some uv → uv = ⟨position.x / data.size.x, position.z / data.size.z⟩

section
variable [LinearOrder K] [IsStrictOrderedRing K] {data : TerrainData K}

-- The last column stands short of the edge, by one part in the square of the width.
theorem vertexAt_last (wide : 2 ≤ data.heightmapWidth) (j : Nat) :
    (vertexAt data (data.heightmapWidth - 1, j)).x =
      data.size.x * (1 - 1 / (data.heightmapWidth * data.heightmapWidth)) := by
  have columns : (data.heightmapWidth : K) ≠ 0 := Nat.cast_ne_zero.mpr (by omega)
  simp only [vertexAt]
  rw [Nat.cast_sub (by omega)]
  field_simp
  push_cast
  ring

theorem vertexAt_short (wide : 2 ≤ data.heightmapWidth) (sizeX : 0 < data.size.x) (j : Nat) :
    (vertexAt data (data.heightmapWidth - 1, j)).x < data.size.x := by
  have columns : (0 : K) < data.heightmapWidth := Nat.cast_pos.mpr (by omega)
  have gap : 0 < 1 / ((data.heightmapWidth : K) * data.heightmapWidth) := by positivity
  rw [vertexAt_last wide]
  nlinarith

-- The texture coordinates of the second column fall behind its position.
theorem uvAt_behind (wide : 2 ≤ data.heightmapWidth) (sizeX : 0 < data.size.x) (j : Nat) :
    (uvAt data (1, j)).x < (vertexAt data (1, j)).x / data.size.x := by
  have columns : (0 : K) < data.heightmapWidth := Nat.cast_pos.mpr (by omega)
  have apart : (vertexAt data (1, j)).x / data.size.x =
      1 / data.heightmapWidth + 1 / (data.heightmapWidth * data.heightmapWidth) := by
    simp only [vertexAt, Nat.cast_one]
    field_simp
  rw [apart]
  simp only [uvAt, Nat.cast_one]
  have gap : 0 < 1 / ((data.heightmapWidth : K) * data.heightmapWidth) := by positivity
  linarith

/-- No mesh reaches the edge of its terrain, and none has the texture coordinates of its
positions. -/
theorem ofTerrainData_uncovered {mesh : SimpleMesh K} (wide : 2 ≤ data.heightmapWidth)
    (high : 2 ≤ data.heightmapHeight) (sizeX : 0 < data.size.x)
    (returned : SimpleMesh.ofTerrainData data = .ok mesh) :
    ¬ CornersExact data mesh ∧ ¬ UvAgrees data mesh := by
  obtain ⟨vertices, uvs⟩ := ofTerrainData_vertices (by omega) returned
  constructor
  · intro exact
    have corner : (data.heightmapWidth - 1, 0) ∈ rowMajor data.heightmapWidth data.heightmapHeight :=
      mem_rowMajor.mpr ⟨by simp only; omega, by simp only; omega⟩
    have stored := (getElem?_gridVertices corner).1
    rw [← vertices] at stored
    have reaches := ((exact _ _ stored).2.1 rfl).1
    exact (vertexAt_short wide sizeX 0).ne reaches
  · intro agrees
    have second : (1, 0) ∈ rowMajor data.heightmapWidth data.heightmapHeight :=
      mem_rowMajor.mpr ⟨by simp only; omega, by simp only; omega⟩
    obtain ⟨stored, storedUv⟩ := getElem?_gridVertices second
    rw [← vertices] at stored
    rw [← uvs] at storedUv
    have same := congrArg Vector2.x (agrees _ _ _ stored storedUv)
    exact (uvAt_behind wide sizeX 0).ne same

end

def ridge : TerrainData Rat :=
  { flatTerrain.terrainData with heightmapWidth := 3, heights := [[0, 1, 0], [0, 1, 0]] }

theorem ofTerrainData_uncovered_ridge :
    ∃ mesh, SimpleMesh.ofTerrainData ridge = .ok mesh ∧ ¬ CornersExact ridge mesh ∧ ¬ UvAgrees ridge mesh := by
  have made : SimpleMesh.ofTerrainData ridge = .ok (gridMesh ridge) :=
    ofTerrainData_eq ⟨rfl, by decide⟩ (by decide) (by decide) (by decide)
  exact ⟨_, made, ofTerrainData_uncovered (by decide) (by decide) (by decide) made⟩

/-- The last vertex of the flat terrain stands at three quarters, with a half as its texture
coordinates. -/
theorem ofTerrainData_uncovered_flat :
    ∃ mesh, SimpleMesh.ofTerrainData flatTerrain.terrainData = .ok mesh ∧
      mesh.vertices[3]? = some ⟨3 / 4, 0, 3 / 4⟩ ∧ mesh.uv[3]? = some ⟨1 / 2, 1 / 2⟩ ∧
      ¬ (CornersExact flatTerrain.terrainData mesh ∧ UvAgrees flatTerrain.terrainData mesh) := by
  have facts : (SimpleMesh.ofTerrainData flatTerrain.terrainData).map (fun mesh => (mesh.vertices[3]?, mesh.uv[3]?)) =
      .ok (some ⟨3 / 4, 0, 3 / 4⟩, some ⟨1 / 2, 1 / 2⟩) := by decide +kernel
  obtain ⟨mesh, made, all⟩ := map_eq_ok.mp facts
  obtain ⟨vertex, uv⟩ := Prod.mk.inj all
  refine ⟨mesh, made, vertex, uv, fun both => ?_⟩
  have same := both.2 3 _ _ vertex uv
  exact absurd same (by decide +kernel)

end RayTraceRenderer.Managed
