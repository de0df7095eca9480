import RayTraceRenderer.Managed.TerrainMesh

/-! The triangles of a height map, as a triangulation of its grid.

The two triangles of a cell share its diagonal, and cells share their sides. An edge
that is shared is traversed once in each direction, so all triangles turn the same way.
-/

set_option autoImplicit false

namespace RayTraceRenderer.Managed

open Unity Filling

variable {K : Type} [Field K]

/-! ## Edges -/

/-- The triangles of a triangle array, three entries each. -/
def triples : List Int → List (Int × Int × Int)
  | t0 :: t1 :: t2 :: rest => (t0, t1, t2) :: triples rest
  | _ => []

def edges (triangles : List Int) : List (Int × Int) :=
  (triples triangles).flatMap fun (t0, t1, t2) => [(t0, t1), (t1, t2), (t2, t0)]

abbrev GridEdge := (Nat × Nat) × (Nat × Nat)

def cellEdges (cell : Nat × Nat) : List GridEdge :=
  let (i, j) := cell
  [((i, j), (i + 1, j + 1)), ((i + 1, j + 1), (i + 1, j)), ((i + 1, j), (i, j)),
    ((i, j), (i, j + 1)), ((i, j + 1), (i + 1, j + 1)), ((i + 1, j + 1), (i, j))]

def gridEdges (w h : Nat) : List GridEdge := (rowMajor (w - 1) (h - 1)).flatMap cellEdges

def edgeIndex (w : Nat) (edge : GridEdge) : Int × Int := (vertexIndex w edge.1, vertexIndex w edge.2)

/-- An edge inside the grid: a diagonal of a cell, or a side that two cells share. -/
inductive InnerEdge (w h : Nat) : GridEdge → Prop where
  | diagonal {i j : Nat} : i + 1 < w → j + 1 < h → InnerEdge w h ((i, j), (i + 1, j + 1))
  | row {i j : Nat} : i + 1 < w → 0 < j → j + 1 < h → InnerEdge w h ((i, j), (i + 1, j))
  | column {i j : Nat} : 0 < i → i + 1 < w → j + 1 < h → InnerEdge w h ((i, j), (i, j + 1))

/-- A side of a cell on the border of the grid. -/
inductive BorderEdge (w h : Nat) : GridEdge → Prop where
  | row {i j : Nat} : i + 1 < w → j = 0 ∨ j + 1 = h → BorderEdge w h ((i, j), (i + 1, j))
  | column {i j : Nat} : i = 0 ∨ i + 1 = w → j + 1 < h → BorderEdge w h ((i, j), (i, j + 1))

section
variable {w h : Nat}

theorem edges_gridTriangles (w h : Nat) : edges (gridTriangles w h) = (gridEdges w h).map (edgeIndex w) := by
  unfold gridTriangles gridEdges
  induction rowMajor (w - 1) (h - 1) with
  | nil => rfl
  | cons cell cells ih =>
    rw [List.flatMap_cons, List.flatMap_cons, List.map_append, ← ih]
    rfl

theorem vertexIndex_inj {point point' : Nat × Nat} (inside : point ∈ rowMajor w h) (inside' : point' ∈ rowMajor w h)
    (same : vertexIndex w point = vertexIndex w point') : point = point' := by
  have stored := getElem?_rowMajor inside
  have stored' := getElem?_rowMajor inside'
  unfold vertexIndex at same
  rw [same, stored'] at stored
  exact (Option.some.inj stored).symm

theorem mem_gridEdges {edge : GridEdge} :
    edge ∈ gridEdges w h ↔ ∃ i j, (i < w - 1 ∧ j < h - 1) ∧ edge ∈ cellEdges (i, j) := by
  simp only [gridEdges, List.mem_flatMap, mem_rowMajor]
  constructor
  · rintro ⟨⟨i, j⟩, inside, member⟩
    exact ⟨i, j, inside, member⟩
  · rintro ⟨i, j, inside, member⟩
    exact ⟨(i, j), inside, member⟩

theorem gridEdges_inside {edge : GridEdge} (member : edge ∈ gridEdges w h) :
    edge.1 ∈ rowMajor w h ∧ edge.2 ∈ rowMajor w h := by
  rcases mem_gridEdges.mp member with ⟨i, j, ⟨right, up⟩, member⟩
  simp only [cellEdges, List.mem_cons, List.not_mem_nil, or_false] at member
  simp only [mem_rowMajor]
  rcases member with rfl | rfl | rfl | rfl | rfl | rfl <;> simp only <;> omega

-- A direction and an edge determine the cell that the edge is traversed for.
theorem cellEdges_disjoint {cell cell' : Nat × Nat} (different : cell ≠ cell') :
    List.Disjoint (cellEdges cell) (cellEdges cell') := by
  intro edge member member'
  apply different
  rcases cell with ⟨i, j⟩
  rcases cell' with ⟨i', j'⟩
  simp only [cellEdges, List.mem_cons, List.not_mem_nil, or_false] at member member'
  rcases member with rfl | rfl | rfl | rfl | rfl | rfl <;> simp only [Prod.mk.injEq] at member' ⊢ <;> omega

theorem gridEdges_nodup (w h : Nat) : (gridEdges w h).Nodup := by
  unfold gridEdges
  rw [List.nodup_flatMap]
  constructor
  · rintro ⟨i, j⟩ -
    simp [cellEdges]
  · exact (nodup_rowMajor _ _).imp fun different => cellEdges_disjoint different

def EdgeInside (w h : Nat) (edge : GridEdge) : Prop := edge.1 ∈ rowMajor w h ∧ edge.2 ∈ rowMajor w h

theorem EdgeInside.swap {edge : GridEdge} (inside : EdgeInside w h edge) : EdgeInside w h edge.swap :=
  And.symm inside

theorem edgeIndex_inj {edge edge' : GridEdge} (inside : EdgeInside w h edge) (inside' : EdgeInside w h edge')
    (same : edgeIndex w edge = edgeIndex w edge') : edge = edge' := by
  simp only [edgeIndex, Prod.mk.injEq, Nat.cast_inj] at same
  exact Prod.ext (vertexIndex_inj inside.1 inside'.1 same.1) (vertexIndex_inj inside.2 inside'.2 same.2)

theorem count_edges {edge : GridEdge} (inside : EdgeInside w h edge) :
    (edges (gridTriangles w h)).count (edgeIndex w edge) = if edge ∈ gridEdges w h then 1 else 0 := by
  have nodup : ((gridEdges w h).map (edgeIndex w)).Nodup := by
    apply (gridEdges_nodup w h).map_on
    intro first member second member' same
    exact edgeIndex_inj (gridEdges_inside member) (gridEdges_inside member') same
  rw [edges_gridTriangles, nodup.count]
  congr 1
  rw [List.mem_map, eq_iff_iff]
  constructor
  · rintro ⟨other, member, same⟩
    exact edgeIndex_inj (gridEdges_inside member) inside same ▸ member
  · intro member
    exact ⟨edge, member, rfl⟩

-- The cells on both sides of an inner edge traverse it, in opposite directions.
theorem InnerEdge.traversed {edge : GridEdge} (inner : InnerEdge w h edge) :
    edge ∈ gridEdges w h ∧ edge.swap ∈ gridEdges w h := by
  simp only [mem_gridEdges, cellEdges, List.mem_cons, List.not_mem_nil, or_false]
  cases inner with
  | @diagonal i j right up => exact ⟨⟨i, j, by omega, by simp⟩, ⟨i, j, by omega, by simp⟩⟩
  | @row i j right positive up =>
    obtain ⟨j, rfl⟩ : ∃ k, j = k + 1 := ⟨j - 1, by omega⟩
    exact ⟨⟨i, j, by omega, by simp⟩, ⟨i, j + 1, by omega, by simp⟩⟩
  | @column i j positive right up =>
    obtain ⟨i, rfl⟩ : ∃ k, i = k + 1 := ⟨i - 1, by omega⟩
    exact ⟨⟨i + 1, j, by omega, by simp⟩, ⟨i, j, by omega, by simp⟩⟩

-- One direction leads along the only cell at a border edge.
theorem BorderEdge.traversed_once {edge : GridEdge} (wide : 2 ≤ w) (high : 2 ≤ h) (border : BorderEdge w h edge) :
    edge ∈ gridEdges w h ∧ edge.swap ∉ gridEdges w h ∨ edge ∉ gridEdges w h ∧ edge.swap ∈ gridEdges w h := by
  simp only [mem_gridEdges, cellEdges, List.mem_cons, List.not_mem_nil, or_false]
  cases border with
  | @row i j right side =>
    rcases side with rfl | rfl
    · refine .inr ⟨?_, i, 0, by omega, by simp⟩
      rintro ⟨x, y, inside, member⟩
      simp only [Prod.mk.injEq] at member
      omega
    · obtain ⟨j, rfl⟩ : ∃ k, j = k + 1 := ⟨j - 1, by omega⟩
      refine .inl ⟨⟨i, j, by omega, by simp⟩, ?_⟩
      rintro ⟨x, y, inside, member⟩
      simp only [Prod.swap_prod_mk, Prod.mk.injEq] at member
      omega
  | @column i j side up =>
    rcases side with rfl | rfl
    · refine .inl ⟨⟨0, j, by omega, by simp⟩, ?_⟩
      rintro ⟨x, y, inside, member⟩
      simp only [Prod.swap_prod_mk, Prod.mk.injEq] at member
      omega
    · obtain ⟨i, rfl⟩ : ∃ k, i = k + 1 := ⟨i - 1, by omega⟩
      refine .inr ⟨?_, i, j, by omega, by simp⟩
      rintro ⟨x, y, inside, member⟩
      simp only [Prod.mk.injEq] at member
      omega

theorem gridEdges_cases {edge : GridEdge} (member : edge ∈ gridEdges w h) :
    ∃ side, (InnerEdge w h side ∨ BorderEdge w h side) ∧ (edge = side ∨ edge = side.swap) := by
  rcases mem_gridEdges.mp member with ⟨i, j, ⟨right, up⟩, member⟩
  have row : ∀ i j, i + 1 < w → j < h → InnerEdge w h ((i, j), (i + 1, j)) ∨ BorderEdge w h ((i, j), (i + 1, j)) := by
    intro i j right up
    by_cases inner : 0 < j ∧ j + 1 < h
    · exact .inl (.row right inner.1 inner.2)
    · exact .inr (.row right (by omega))
  have column : ∀ i j, i < w → j + 1 < h →
      InnerEdge w h ((i, j), (i, j + 1)) ∨ BorderEdge w h ((i, j), (i, j + 1)) := by
    intro i j right up
    by_cases inner : 0 < i ∧ i + 1 < w
    · exact .inl (.column inner.1 inner.2 up)
    · exact .inr (.column (by omega) up)
  simp only [cellEdges, List.mem_cons, List.not_mem_nil, or_false] at member
  rcases member with rfl | rfl | rfl | rfl | rfl | rfl
  · exact ⟨_, .inl (.diagonal (by omega) (by omega)), .inl rfl⟩
  · exact ⟨_, column (i + 1) j (by omega) (by omega), .inr rfl⟩
  · exact ⟨_, row i j (by omega) (by omega), .inr rfl⟩
  · exact ⟨_, column i j (by omega) (by omega), .inl rfl⟩
  · exact ⟨_, row i (j + 1) (by omega) (by omega), .inl rfl⟩
  · exact ⟨_, .inl (.diagonal (by omega) (by omega)), .inr rfl⟩

theorem InnerEdge.inside {edge : GridEdge} (inner : InnerEdge w h edge) : EdgeInside w h edge :=
  gridEdges_inside inner.traversed.1

theorem BorderEdge.inside {edge : GridEdge} (wide : 2 ≤ w) (high : 2 ≤ h) (border : BorderEdge w h edge) :
    EdgeInside w h edge := by
  rcases border.traversed_once wide high with ⟨along, -⟩ | ⟨-, against⟩
  · exact gridEdges_inside along
  · exact EdgeInside.swap (gridEdges_inside against)

end

/-! ## The triangulation -/

/-- A triangulation of a grid by the indices of its points: every inner edge is traversed once in
each direction, and every border edge in one direction only. -/
structure Triangulates (w h : Nat) (triangles : List Int) : Prop where
  length : triangles.length = 6 * ((w - 1) * (h - 1))
  index : ∀ t ∈ triangles, 0 ≤ t ∧ t < w * h
  inner : ∀ edge, InnerEdge w h edge →
    (edges triangles).count (edgeIndex w edge) = 1 ∧ (edges triangles).count (edgeIndex w edge.swap) = 1
  border : ∀ edge, BorderEdge w h edge →
    (edges triangles).count (edgeIndex w edge) + (edges triangles).count (edgeIndex w edge.swap) = 1
  complete : ∀ pair ∈ edges triangles, ∃ edge, (InnerEdge w h edge ∨ BorderEdge w h edge) ∧
    (pair = edgeIndex w edge ∨ pair = edgeIndex w edge.swap)

section
variable {w h : Nat}

theorem gridTriangles_named {t : Int} (member : t ∈ gridTriangles w h) :
    ∃ point ∈ rowMajor w h, t = vertexIndex w point := by
  rcases List.mem_flatMap.mp member with ⟨⟨i, j⟩, inside, member⟩
  have corner : ∀ di dj, di ≤ 1 → dj ≤ 1 → (i + di, j + dj) ∈ rowMajor w h := by
    intro di dj right up
    exact corner_inside inside right up
  simp only [cellCorners, List.mem_cons, List.not_mem_nil, or_false] at member
  rcases member with rfl | rfl | rfl | rfl | rfl | rfl
  · exact ⟨_, corner 0 0 (by decide) (by decide), rfl⟩
  · exact ⟨_, corner 1 1 (by decide) (by decide), rfl⟩
  · exact ⟨_, corner 1 0 (by decide) (by decide), rfl⟩
  · exact ⟨_, corner 0 0 (by decide) (by decide), rfl⟩
  · exact ⟨_, corner 0 1 (by decide) (by decide), rfl⟩
  · exact ⟨_, corner 1 1 (by decide) (by decide), rfl⟩

theorem gridTriangles_triangulates (wide : 2 ≤ w) (high : 2 ≤ h) : Triangulates w h (gridTriangles w h) where
  length := length_gridTriangles w h
  index t member := by
    rcases gridTriangles_named member with ⟨point, inside, rfl⟩
    have bound := vertexIndex_lt inside
    exact ⟨Int.natCast_nonneg _, by exact_mod_cast bound⟩
  inner edge inner := by
    rcases inner.traversed with ⟨along, against⟩
    rw [count_edges inner.inside, count_edges inner.inside.swap, if_pos along, if_pos against]
    exact ⟨rfl, rfl⟩
  border edge border := by
    have inside := border.inside wide high
    rw [count_edges inside, count_edges inside.swap]
    rcases border.traversed_once wide high with ⟨along, against⟩ | ⟨along, against⟩
    · rw [if_pos along, if_neg against]
    · rw [if_neg along, if_pos against]
  complete pair member := by
    rw [edges_gridTriangles] at member
    rcases List.mem_map.mp member with ⟨edge, traversed, rfl⟩
    rcases gridEdges_cases traversed with ⟨side, kind, same⟩
    exact ⟨side, kind, same.imp (congrArg _) (congrArg _)⟩

def cellTriangles (cell : Nat × Nat) : List ((Nat × Nat) × (Nat × Nat) × (Nat × Nat)) :=
  let (i, j) := cell
  [((i, j), (i + 1, j + 1), (i + 1, j)), ((i, j), (i, j + 1), (i + 1, j + 1))]

theorem cellTriangles_inside {cell p0 p1 p2 : Nat × Nat} (inside : cell ∈ rowMajor (w - 1) (h - 1))
    (member : (p0, p1, p2) ∈ cellTriangles cell) :
    p0 ∈ rowMajor w h ∧ p1 ∈ rowMajor w h ∧ p2 ∈ rowMajor w h := by
  rcases cell with ⟨i, j⟩
  simp only [cellTriangles, List.mem_cons, List.not_mem_nil, or_false, Prod.mk.injEq] at member
  simp only [mem_rowMajor] at inside ⊢
  rcases member with ⟨rfl, rfl, rfl⟩ | ⟨rfl, rfl, rfl⟩ <;> simp only <;> omega

theorem triples_gridTriangles (w h : Nat) : triples (gridTriangles w h) =
    ((rowMajor (w - 1) (h - 1)).flatMap cellTriangles).map fun (p0, p1, p2) =>
      (↑(vertexIndex w p0), ↑(vertexIndex w p1), ↑(vertexIndex w p2)) := by
  unfold gridTriangles
  induction rowMajor (w - 1) (h - 1) with
  | nil => rfl
  | cons cell cells ih =>
    rw [List.flatMap_cons, List.flatMap_cons, List.map_append, ← ih]
    rfl

end

section
variable {data : TerrainData K}

def cellArea (data : TerrainData K) : K :=
  data.size.x * (1 + 1 / data.heightmapWidth) / data.heightmapWidth *
    (data.size.z * (1 + 1 / data.heightmapHeight) / data.heightmapHeight)

/-- Twice the area of a triangle as seen from above, negative if it is seen from behind. -/
def areaAbove (p0 p1 p2 : Vector3 K) : K := ((p1 - p0).cross (p2 - p0)).y

-- Both triangles of a cell turn the same way, and cover half of it each.
theorem areaAbove_cell {cell p0 p1 p2 : Nat × Nat} (member : (p0, p1, p2) ∈ cellTriangles cell) :
    areaAbove (vertexAt data p0) (vertexAt data p1) (vertexAt data p2) = cellArea data := by
  rcases cell with ⟨i, j⟩
  simp only [cellTriangles, List.mem_cons, List.not_mem_nil, or_false, Prod.mk.injEq] at member
  rcases member with ⟨rfl, rfl, rfl⟩ | ⟨rfl, rfl, rfl⟩
  · simp only [areaAbove, cellArea, vertexAt, Vector3.cross, Vector3.sub_x, Vector3.sub_z, Nat.cast_add, Nat.cast_one]
    ring
  · simp only [areaAbove, cellArea, vertexAt, Vector3.cross, Vector3.sub_x, Vector3.sub_z, Nat.cast_add, Nat.cast_one]
    ring

theorem cellArea_pos [LinearOrder K] [IsStrictOrderedRing K] (wide : 2 ≤ data.heightmapWidth)
    (high : 2 ≤ data.heightmapHeight) (sizeX : 0 < data.size.x) (sizeZ : 0 < data.size.z) : 0 < cellArea data := by
  have columns : (0 : K) < data.heightmapWidth := Nat.cast_pos.mpr (by omega)
  have rows : (0 : K) < data.heightmapHeight := Nat.cast_pos.mpr (by omega)
  unfold cellArea
  positivity

end

/-- Init's double loops make a triangulation of the grid: the loop over the cells writes every slot
once, each index is the one of a vertex that the other loop wrote, and all triangles are seen
from the same side. -/
theorem ofTerrainData_triangulates [LinearOrder K] [IsStrictOrderedRing K] (data : TerrainData K)
    (sampled : HeightsSampled data) (wide : 2 ≤ data.heightmapWidth) (high : 2 ≤ data.heightmapHeight)
    (fits : 6 * ((data.heightmapWidth - 1) * (data.heightmapHeight - 1)) < 2 ^ 31) :
    ∃ mesh, SimpleMesh.ofTerrainData data = .ok mesh ∧
      ((∀ triangles, (List.range (data.heightmapWidth - 1)).foldlM
          (fun triangles i => (List.range (data.heightmapHeight - 1)).foldlM
            (setTriangles data.heightmapWidth i) triangles) triangles =
          writeAll triangles (triangleWrites data.heightmapWidth data.heightmapHeight)) ∧
        ((triangleWrites data.heightmapWidth data.heightmapHeight).map Prod.fst).Perm
          (List.range mesh.triangles.length)) ∧
      Triangulates data.heightmapWidth data.heightmapHeight mesh.triangles ∧
      (∀ t ∈ mesh.triangles, ∃ point ∈ rowMajor data.heightmapWidth data.heightmapHeight,
        t = vertexIndex data.heightmapWidth point ∧ mesh.vertices[t.toNat]? = some (vertexAt data point)) ∧
      ∃ area, (0 < data.size.x → 0 < data.size.z → 0 < area) ∧
        ∀ t0 t1 t2, (t0, t1, t2) ∈ triples mesh.triangles → ∃ p0 p1 p2,
          (mesh.vertices[t0.toNat]? = some p0 ∧ mesh.vertices[t1.toNat]? = some p1 ∧
            mesh.vertices[t2.toNat]? = some p2) ∧ areaAbove p0 p1 p2 = area := by
  have slots := (triangleWrites_fill data.heightmapWidth data.heightmapHeight).slots
  refine ⟨gridMesh data, ofTerrainData_eq sampled wide high fits, ⟨triangleLoop_eq fits, slots⟩,
    gridTriangles_triangulates wide high, ?_, cellArea data, cellArea_pos wide high, ?_⟩
  · intro t member
    rcases gridTriangles_named member with ⟨point, inside, rfl⟩
    exact ⟨point, inside, rfl, (getElem?_gridVertices inside).1⟩
  · intro t0 t1 t2 member
    have member : (t0, t1, t2) ∈ triples (gridTriangles data.heightmapWidth data.heightmapHeight) := member
    rw [triples_gridTriangles] at member
    rcases List.mem_map.mp member with ⟨⟨p0, p1, p2⟩, named, same⟩
    rcases List.mem_flatMap.mp named with ⟨cell, inside, named⟩
    rcases cellTriangles_inside inside named with ⟨inside0, inside1, inside2⟩
    cases same
    exact ⟨_, _, _, ⟨(getElem?_gridVertices inside0).1, (getElem?_gridVertices inside1).1,
      (getElem?_gridVertices inside2).1⟩, areaAbove_cell named⟩

theorem ofTerrainData_triangulates_ridge :
    ∃ mesh, SimpleMesh.ofTerrainData ridge = .ok mesh ∧ mesh.triangles.length = 12 ∧
      Triangulates 3 2 mesh.triangles := by
  obtain ⟨mesh, made, -, triangulates, -⟩ :=
    ofTerrainData_triangulates ridge ⟨rfl, by decide⟩ (by decide) (by decide) (by decide)
  exact ⟨mesh, made, triangulates.length, triangulates⟩

end RayTraceRenderer.Managed
