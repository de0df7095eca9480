import RayTraceRenderer.Native.Intersector
import RayTraceRenderer.Native.StoreTga

/-! RenderToImage stores a picture of distances.

A pixel is as bright as what its ray meets is far, in parts of the length of the ray. The
last column of an odd width is black, and so is the last row of an odd height.
-/

set_option autoImplicit false

namespace RayTraceRenderer.Native

open Unity Targa Embree

variable {K : Type} [Field K]

/-! ## The image -/

def depthColor [Mathf K] (embree : Embree K) (scene : RTCScene K) (stack : RTCRay K) (view : View K) (x y : Int) : Color K :=
  let ray := embree.rtcIntersect scene (view.ray stack (x - view.width.tdiv 2) (y - view.height.tdiv 2))
  let bright := ray.tfar / view.length
  ⟨bright, bright, bright, 1⟩

/-- The pixels that were set have their colours, and the others are as they were allocated. -/
structure Image.Shows (image : Image K) (view : View K) (color : Int → Int → Color K) : Prop where
  sized : image.SizedFor view
  pixels : ∀ x y : Nat, x < view.width → y < view.height →
    image.data[y * view.width.toNat + x]? = some (if ((x : Int), (y : Int)) ∈ image.sets then color x y else ⟨0, 0, 0, 0⟩)

omit [Field K] in
theorem place_inj {width x y x' y' : Nat} (column : x < width) (column' : x' < width)
    (same : y * width + x = y' * width + x') : x = x' ∧ y = y' := by
  have positive : 0 < width := Nat.zero_lt_of_lt column
  have columns := congrArg (· % width) same
  have rows := congrArg (· / width) same
  simp only [Nat.mul_comm _ width, Nat.mul_add_mod, Nat.mod_eq_of_lt column, Nat.mod_eq_of_lt column'] at columns
  simp only [Nat.mul_comm _ width, Nat.mul_add_div positive, Nat.div_eq_of_lt column, Nat.div_eq_of_lt column',
    Nat.add_zero] at rows
  exact ⟨columns, rows⟩

section
variable {view : View K} {color : Int → Int → Color K} {image image' : Image K}

theorem Image.Shows.set (shows : image.Shows view color) {x y : Int} (column : 0 ≤ x ∧ x < view.width)
    (row : 0 ≤ y ∧ y < view.height) (returned : image.set x y (color x y) = some image') : image'.Shows view color := by
  obtain ⟨next, again, sized, -⟩ := shows.sized.set (color x y) column row
  obtain rfl : next = image' := Option.some.inj (again.symm.trans returned)
  refine ⟨sized, ?_⟩
  obtain ⟨x, rfl⟩ := Int.eq_ofNat_of_zero_le column.1
  obtain ⟨y, rfl⟩ := Int.eq_ofNat_of_zero_le row.1
  intro i j inside below
  have width : (view.width.toNat : Int) = view.width := Int.toNat_of_nonneg (column.1.trans column.2.le)
  have offset : ((y : Int) * image.width + x).toNat = y * view.width.toNat + x := by
    rw [shows.sized.width, ← width, ← Nat.cast_mul, ← Nat.cast_add, Int.toNat_natCast]
    rfl
  simp only [Image.set] at returned
  split at returned
  · rename_i memory
    have set := Option.some.inj returned
    rw [← set]
    simp only
    rw [offset, List.getElem?_set, shows.pixels i j inside below]
    by_cases same : y * view.width.toNat + x = j * view.width.toNat + i
    · obtain ⟨rfl, rfl⟩ := place_inj (by omega) (by omega) same
      rw [if_pos rfl, if_pos, if_pos (List.mem_append_right _ (List.mem_singleton.mpr rfl))]
      omega
    · have other : ((i : Int), (j : Int)) ≠ ((x : Int), (y : Int)) := by
        intro pixel
        apply same
        simp only [Prod.mk.injEq, Nat.cast_inj] at pixel
        rw [pixel.1, pixel.2]
      rw [if_neg same]
      simp only [List.mem_append, List.mem_singleton, other, or_false]
  · cases returned

theorem Image.Shows.new (wide : 0 ≤ view.width) (high : 0 ≤ view.height) :
    (Image.new view.width view.height : Image K).Shows view color := by
  refine ⟨⟨rfl, rfl, ?_⟩, ?_⟩
  · simp [Image.new, mul_nonneg wide high]
  · intro x y column row
    have inside : y * view.width.toNat + x < (view.width * view.height).toNat := by
      obtain ⟨width, same⟩ := Int.eq_ofNat_of_zero_le wide
      obtain ⟨height, same'⟩ := Int.eq_ofNat_of_zero_le high
      rw [same] at column ⊢
      rw [same'] at row ⊢
      rw [← Nat.cast_mul, Int.toNat_natCast, Int.toNat_natCast]
      calc y * width + x < (y + 1) * width := by rw [Nat.add_mul, Nat.one_mul]; omega
        _ ≤ height * width := Nat.mul_le_mul_right _ (by omega)
        _ = width * height := Nat.mul_comm _ _
    unfold Image.new
    rw [List.getElem?_replicate, if_pos inside, if_neg List.not_mem_nil]

theorem foldlM_shows {α : Type} {f : Image K → α → Option (Image K)} {xs : List α}
    (step : ∀ x ∈ xs, ∀ image image', image.Shows view color → f image x = some image' → image'.Shows view color)
    (shows : image.Shows view color) (returned : xs.foldlM f image = some image') : image'.Shows view color := by
  induction xs generalizing image with
  | nil =>
    obtain rfl := Option.some.inj returned
    exact shows
  | cons x rest ih =>
    rw [List.foldlM_cons] at returned
    obtain ⟨mid, first, later⟩ := Option.bind_eq_some_iff.mp returned
    exact ih (fun y member => step y (List.mem_cons_of_mem x member)) (step x List.mem_cons_self image mid shows first) later

end

section
variable [Mathf K] (embree : Embree K) (scene : RTCScene K) (stack : RTCRay K) {view : View K}

theorem renderToImage_shows (wide : 0 ≤ view.width) (high : 0 ≤ view.height) {image : Image K}
    (returned : renderToImage embree scene stack view = some image) :
    image.Shows view (depthColor embree scene stack view) := by
  apply foldlM_shows _ (Image.Shows.new wide high) returned
  intro x column image image' shows returned
  apply foldlM_shows _ shows returned
  intro y row image image' shows returned
  have back : ∀ place half : Int, place + half - half = place := fun place half => add_sub_cancel_right place half
  apply shows.set (axis_inside wide column) (axis_inside high row)
  rw [← returned]
  unfold renderPixel depthColor
  rw [back, back]

theorem renderToImage_pixel (wide : 1 ≤ view.width) (high : 1 ≤ view.height) :
    ∃ image, renderToImage embree scene stack view = some image ∧
      image.Sized view.width.toNat view.height.toNat ∧
      ∀ x y : Nat, x < view.width → y < view.height → image.pixel x y =
        if x < 2 * (view.width / 2) ∧ y < 2 * (view.height / 2) then depthColor embree scene stack view x y
        else ⟨0, 0, 0, 0⟩ := by
  obtain ⟨image, returned, sized, sets⟩ :=
    renderToImage_sets embree scene stack (zero_le_one.trans wide) (zero_le_one.trans high)
  have shows := renderToImage_shows embree scene stack (zero_le_one.trans wide) (zero_le_one.trans high) returned
  have width : (view.width.toNat : Int) = view.width := Int.toNat_of_nonneg (zero_le_one.trans wide)
  have height : (view.height.toNat : Int) = view.height := Int.toNat_of_nonneg (zero_le_one.trans high)
  refine ⟨image, returned, ⟨sized.width.trans width.symm, sized.height.trans height.symm, ?_⟩, ?_⟩
  · have length := sized.length
    rw [← width, ← height, ← Nat.cast_mul] at length
    exact Int.ofNat_inj.mp length
  · intro x y column row
    have halfWidth : view.width.tdiv 2 = view.width / 2 := Int.tdiv_eq_ediv_of_nonneg (by omega)
    have halfHeight : view.height.tdiv 2 = view.height / 2 := Int.tdiv_eq_ediv_of_nonneg (by omega)
    have member : ((x : Int), (y : Int)) ∈ image.sets ↔ x < 2 * (view.width / 2) ∧ y < 2 * (view.height / 2) := by
      rw [sets, List.mem_product, mem_axis, mem_axis, halfWidth, halfHeight]
      simp
    unfold Image.pixel Image.get
    rw [sized.width, shows.pixels x y column row, Option.getD_some]
    simp only [member]

end

/-! ## The file -/

variable [LinearOrder K]

/-- How far a ray sees on its segment: to the nearest crossing, or to the end. -/
def Sees (segment : RayData K → K → Prop) (scene : RTCScene K) (ray : RayData K) (t : K) : Prop :=
  (∃ c, Crosses scene ray c ∧ segment ray c.t ∧ c.t = t ∧ ∀ c', Crosses scene ray c' → segment ray c'.t → t ≤ c'.t) ∨
    (∀ c, Crosses scene ray c → ¬segment ray c.t) ∧ t = ray.tfar

variable {embree : Embree K} {segment : RayData K → K → Prop}

theorem sees_tfar (reports : embree.ReportsNearest segment) (scene : RTCScene K) (ray : RTCRay K) :
    Sees segment scene ray.toRayData (embree.rtcIntersect scene ray).tfar := by
  have nearest := reports scene ray.toRayData
  cases found : embree.closest scene ray.toRayData with
  | none =>
    rw [found] at nearest
    exact .inr ⟨nearest, (embree.miss scene ray found).2.2⟩
  | some hit =>
    rw [found] at nearest
    rw [(embree.hit scene ray hit found).2.2.1]
    exact .inl ⟨hit.toCrossing, nearest.1, nearest.2.1, rfl, nearest.2.2⟩

def depthByte [FloorRing K] (length t : K) : UInt8 := UInt8.ofNat ⌊t / length * 255⌋.toNat

theorem flatten_piece {α : Type} {pieces : List (List α)} {size n : Nat} {piece : List α}
    (sized : ∀ piece ∈ pieces, piece.length = size) (place : pieces[n]? = some piece) :
    (pieces.flatten.drop (n * size)).take size = piece := by
  obtain ⟨inside, same⟩ := List.getElem?_eq_some_iff.mp place
  have before : (pieces.take n).flatten.length = n * size := by
    rw [flatten_length fun other member => sized other (List.mem_of_mem_take member),
      List.length_take_of_le inside.le]
  have cut : pieces = pieces.take n ++ piece :: pieces.drop (n + 1) := by
    rw [← same, List.getElem_cons_drop, List.take_append_drop]
  have length : piece.length = size := sized piece (List.mem_of_getElem? place)
  conv_lhs => rw [cut]
  rw [List.flatten_append, ← before, List.drop_left, List.flatten_cons, ← length, List.take_left]

section
variable [FloorRing K]

theorem stored_pixel {image : Image K} {width height : Nat} (sized : image.Sized width height) (wide : width < 2 ^ 15)
    (high : height < 2 ^ 15) {x y : Nat} (column : x < width) (row : y < height) :
    (((tgaFront width height).bytes ++ (image.picture.flatten.flatten ++ [])).drop (18 + (y * width + x) * 3)).take 3 =
      storePixel (image.pixel x y) := by
  have fits := picture_fits sized wide high
  have length : (tgaFront width height).bytes.length = 18 := rfl
  have lines : ∀ line ∈ image.picture, line.length = width := by
    intro line member
    rw [fits.columns line member, tgaFront_columns wide]
  have pixels : ∀ pixel ∈ image.picture.flatten, pixel.length = 3 := by
    intro pixel member
    obtain ⟨line, inside, present⟩ := List.mem_flatten.mp member
    rw [fits.sized line inside pixel present, tgaFront_pixelSize]
  have line : image.picture[y]? = some ((List.range width).map fun x => storePixel (image.pixel x y)) := by
    unfold Image.picture
    rw [sized.lines, sized.columns, Int.toNat_natCast, Int.toNat_natCast, List.getElem?_map, List.getElem?_range row]
    rfl
  have place : image.picture.flatten[y * width + x]? = some (storePixel (image.pixel x y)) := by
    have inside := congrArg (·[x]?) (flatten_piece lines line)
    simp only [List.getElem?_take_of_lt column, List.getElem?_drop, List.getElem?_map, List.getElem?_range column] at inside
    exact inside
  rw [List.append_nil, ← List.drop_drop, ← length, List.drop_left]
  exact flatten_piece pixels place

variable [IsStrictOrderedRing K]

theorem channel_zero : channel (0 : K) = 0 := by
  unfold channel toUchar clamp
  rw [min_eq_left zero_le_one, max_self, zero_mul, Int.floor_zero]
  rfl

theorem channel_depth {length t : K} (positive : 0 < length) (nonneg : 0 ≤ t) (inside : t ≤ length) :
    channel (t / length) = depthByte length t := by
  have part : 0 ≤ t / length ∧ t / length ≤ 1 := ⟨div_nonneg nonneg positive.le, (div_le_one positive).mpr inside⟩
  unfold channel toUchar clamp depthByte
  rw [min_eq_left part.2, max_eq_left part.1]

end

omit [Field K] in
theorem segmentOf_inside {withStart : Bool} {ray : RayData K} {t : K} (inside : segmentOf withStart ray t) :
    ray.tnear ≤ t ∧ t ≤ ray.tfar := by
  cases withStart with
  | true => exact inside
  | false => exact ⟨inside.1.le, inside.2⟩

/-- The file of RenderToImage tells of each pixel how far its ray sees, as a grey value. Where a
size is odd, the pixels of the last column or row are black. -/
theorem renderToImage_stores_depth [Mathf K] [FloorRing K] [IsStrictOrderedRing K] {withStart : Bool}
    (reports : embree.ReportsNearest (segmentOf withStart)) (scene : RTCScene K) (stack : RTCRay K) {view : View K}
    (wide : 1 ≤ view.width ∧ view.width < 2 ^ 15) (high : 1 ≤ view.height ∧ view.height < 2 ^ 15)
    (long : 0 < view.length) :
    ∃ file, (renderToImage embree scene stack view >>= storeTga) = some file ∧
      ∀ x y : Nat, x < view.width → y < view.height →
        ∃ byte, (file.drop (18 + (y * view.width.toNat + x) * 3)).take 3 = [byte, byte, byte] ∧
          if x < 2 * (view.width / 2) ∧ y < 2 * (view.height / 2) then
            ∃ t, 0 ≤ t ∧ t ≤ view.length ∧ byte = depthByte view.length t ∧
              Sees (segmentOf withStart) scene (view.ray stack (x - view.width / 2) (y - view.height / 2)).toRayData t
          else byte = 0 := by
  obtain ⟨image, returned, sized, pixels⟩ := renderToImage_pixel embree scene stack wide.1 high.1
  have columns : view.width.toNat < 2 ^ 15 := by omega
  have lines : view.height.toNat < 2 ^ 15 := by omega
  have stored : (renderToImage embree scene stack view >>= storeTga) = storeTga image := by
    rw [returned]
    rfl
  refine ⟨_, stored.trans (storeTga_eq sized columns lines), ?_⟩
  intro x y column row
  rw [stored_pixel sized columns lines (by omega) (by omega), pixels x y column row]
  split
  · have halfWidth : view.width.tdiv 2 = view.width / 2 := Int.tdiv_eq_ediv_of_nonneg (by omega)
    have halfHeight : view.height.tdiv 2 = view.height / 2 := Int.tdiv_eq_ediv_of_nonneg (by omega)
    have sees := sees_tfar reports scene (view.ray stack (x - view.width / 2) (y - view.height / 2))
    obtain ⟨t, tfar⟩ : ∃ t, (embree.rtcIntersect scene (view.ray stack (x - view.width / 2) (y - view.height / 2))).tfar = t :=
      ⟨_, rfl⟩
    have color : depthColor embree scene stack view x y = ⟨t / view.length, t / view.length, t / view.length, 1⟩ := by
      simp only [depthColor, halfWidth, halfHeight, tfar]
    rw [tfar] at sees
    have inside : 0 ≤ t ∧ t ≤ view.length := by
      rcases sees with ⟨c, -, within, rfl, -⟩ | ⟨-, rfl⟩
      · exact segmentOf_inside within
      · exact ⟨long.le, le_rfl⟩
    refine ⟨depthByte view.length t, ?_, t, inside.1, inside.2, rfl, sees⟩
    rw [color, storePixel, channel_depth long inside.1 inside.2]
  · refine ⟨0, ?_, rfl⟩
    unfold storePixel
    rw [channel_zero]

theorem renderToImage_stores_depth_four_by_two :
    let := Mathf.atUnits
    ∃ file, (renderToImage (exhaustive closedSegment) ⟨[]⟩ blankStack (sizedView 4 2) >>= storeTga) = some file ∧
      ∀ x y : Nat, x < (sizedView 4 2).width → y < (sizedView 4 2).height →
        ∃ byte, (file.drop (18 + (y * (sizedView 4 2).width.toNat + x) * 3)).take 3 = [byte, byte, byte] ∧
          if x < 2 * ((sizedView 4 2).width / 2) ∧ y < 2 * ((sizedView 4 2).height / 2) then
            ∃ t, 0 ≤ t ∧ t ≤ (sizedView 4 2).length ∧ byte = depthByte (sizedView 4 2).length t ∧
              Sees (segmentOf true) ⟨[]⟩ ((sizedView 4 2).ray blankStack (x - (sizedView 4 2).width / 2)
                (y - (sizedView 4 2).height / 2)).toRayData t
          else byte = 0 :=
  let := Mathf.atUnits
  have reports : (exhaustive (closedSegment (K := Rat))).ReportsNearest (segmentOf true) := exhaustive_reportsNearest _
  renderToImage_stores_depth reports ⟨[]⟩ blankStack ⟨by decide, by decide⟩ ⟨by decide, by decide⟩ (by decide)

end RayTraceRenderer.Native
