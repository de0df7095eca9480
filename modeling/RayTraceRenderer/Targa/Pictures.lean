import RayTraceRenderer.Targa.Loading

/-! What a texture shows of the file it was loaded from.

A file with packets is loaded like the plain file with the same pixels. The transfer order
puts the rows right; where it asks for the rows to be reversed, it is the bytes that are
reversed, and the channels of every pixel with them.
-/

set_option autoImplicit false

namespace RayTraceRenderer.Targa

open Reading RunLength

namespace Front

def columns (front : Front) : Nat := front.width.toInt.toNat

def lines (front : Front) : Nat := front.height.toInt.toNat

def pixelSize (front : Front) : Nat := front.pixelDepth.toNat / 8

/-- The image type of plain data: with a colour map, of true colour, or of grey values. -/
def Plain (front : Front) : Prop := front.imageType = 1 ∨ front.imageType = 2 ∨ front.imageType = 3

def packed (front : Front) : Front := { front with imageType := front.imageType + 8 }

variable {front : Front}

theorem WellFormed.columns_pos (wellFormed : front.WellFormed) : 0 < front.columns := by
  have wide := wellFormed.width
  unfold columns
  omega

theorem WellFormed.lines_pos (wellFormed : front.WellFormed) : 0 < front.lines := by
  have high := wellFormed.height
  unfold lines
  omega

theorem WellFormed.cast_columns (wellFormed : front.WellFormed) : (front.columns : Int) = front.width.toInt :=
  Int.toNat_of_nonneg wellFormed.width.le

theorem WellFormed.cast_lines (wellFormed : front.WellFormed) : (front.lines : Int) = front.height.toInt :=
  Int.toNat_of_nonneg wellFormed.height.le

theorem WellFormed.pixelDepth_eq (wellFormed : front.WellFormed) :
    front.pixelDepth.toNat = 8 * front.pixelSize ∧ 0 < front.pixelSize := by
  unfold pixelSize
  rcases wellFormed.pixelDepth with depth | depth | depth | depth <;> rw [depth] <;> decide

theorem WellFormed.rowed (wellFormed : front.WellFormed) :
    front.header.Rowed (front.columns * front.pixelSize) front.pixelSize where
  rowSize := by
    rw [Nat.cast_mul, wellFormed.cast_columns]
    rfl
  bytesPerPixel := rfl
  whole := Nat.dvd_mul_left _ _

theorem WellFormed.packed (wellFormed : front.WellFormed) (plain : front.Plain) : front.packed.WellFormed where
  imageID := wellFormed.imageID
  pixelDepth := wellFormed.pixelDepth
  width := wellFormed.width
  height := wellFormed.height
  colorMap := wellFormed.colorMap
  mapped := by
    have mapped : front.packed.header.imageType.ColorMapped → front.header.imageType.ColorMapped := by
      change (ImageType.ofByte (front.imageType + 8)).ColorMapped → (ImageType.ofByte front.imageType).ColorMapped
      rcases plain with type | type | type <;> rw [type] <;> decide
    exact fun needed => wellFormed.mapped (mapped needed)

theorem Plain.not_runLengthEncoded (plain : front.Plain) : ¬front.header.imageType.RunLengthEncoded := by
  change ¬(ImageType.ofByte front.imageType).RunLengthEncoded
  rcases plain with type | type | type <;> rw [type] <;> decide

theorem Plain.packed_runLengthEncoded (plain : front.Plain) : front.packed.header.imageType.RunLengthEncoded := by
  change (ImageType.ofByte (front.imageType + 8)).RunLengthEncoded
  rcases plain with type | type | type <;> rw [type] <;> decide

end Front

section
variable {front : Front}

theorem wellFormed_small : (Front.mk ⟨0, 0, 2, 0, 0, 0, 0, 0, 4, 1, 24, 32⟩ [] []).WellFormed :=
  ⟨by decide, by decide, by decide, by decide, by decide, by decide⟩

/-- The rows are transferred from the top to the bottom. -/
def Front.topDown (front : Front) : Bool := getBits front.imageDescriptor 5 1 == 1

/-- The pixels of a row are transferred from the last to the first. -/
def Front.rightToLeft (front : Front) : Bool := getBits front.imageDescriptor 4 1 == 1

theorem getBits_one (b : UInt8) (offset : Nat) : getBits b offset 1 = 0 ∨ getBits b offset 1 = 1 := by
  unfold getBits
  rw [show (1 <<< 1) - 1 = 1 from rfl, Nat.and_one_is_mod]
  omega

theorem transferOrder (front : Front) : rowsReverse front.header.firstPixelDestination = front.topDown ∧
    eachRowReverse front.header.firstPixelDestination = front.rightToLeft := by
  have vertical : front.header.verticalTransferOrder = .ofBit (getBits front.imageDescriptor 5 1) := rfl
  have horizontal : front.header.horizontalTransferOrder = .ofBit (getBits front.imageDescriptor 4 1) := rfl
  unfold TargaHeader.firstPixelDestination Front.topDown Front.rightToLeft
  rw [vertical, horizontal]
  rcases getBits_one front.imageDescriptor 5 with down | down <;>
    rcases getBits_one front.imageDescriptor 4 with left | left <;> rw [down, left] <;> decide

def exchange : Pixel → Pixel
  | first :: second :: third :: rest => third :: second :: first :: rest
  | pixel => pixel

theorem swapRedBlue_append {size : Nat} (three : 3 ≤ size) (pixels : List Pixel)
    (sized : ∀ pixel ∈ pixels, pixel.length = size) (tail : List UInt8) :
    swapRedBlue size (pixels.flatten ++ tail) =
      (swapRedBlue size tail).map fun swapped => (pixels.map exchange).flatten ++ swapped := by
  induction pixels with
  | nil =>
    rw [List.flatten_nil, List.nil_append]
    cases swapRedBlue size tail <;> rfl
  | cons pixel others ih =>
    have later := ih fun other member => sized other (List.mem_cons_of_mem pixel member)
    have length := sized pixel List.mem_cons_self
    rcases pixel with _ | ⟨first, _ | ⟨second, _ | ⟨third, rest⟩⟩⟩
    · rw [List.length_nil] at length
      omega
    · simp only [List.length_cons, List.length_nil] at length
      omega
    · simp only [List.length_cons, List.length_nil] at length
      omega
    · have others : rest.length = size - 3 := by
        simp only [List.length_cons] at length
        omega
      rw [List.flatten_cons, List.append_assoc, List.cons_append, List.cons_append, List.cons_append, swapRedBlue, ← others,
        List.drop_left, List.take_left, later]
      cases swapRedBlue size tail with
      | error fault => rfl
      | ok swapped =>
        simp [Except.map, bind, Except.bind, pure, Except.pure, exchange]

theorem swapRedBlue_nil (size : Nat) : swapRedBlue size [] = .ok [] := by rw [swapRedBlue]

theorem swapRedBlue_pixels {size : Nat} (three : 3 ≤ size) (pixels : List Pixel)
    (sized : ∀ pixel ∈ pixels, pixel.length = size) :
    swapRedBlue size pixels.flatten = .ok (pixels.map exchange).flatten := by
  have whole := swapRedBlue_append three pixels sized []
  rw [List.append_nil, swapRedBlue_nil] at whole
  rw [whole, Except.map, List.append_nil]

def channels (reversed : Bool) (pixel : Pixel) : Pixel :=
  let pixel := if reversed then pixel.reverse else pixel
  if 3 ≤ pixel.length then exchange pixel else pixel

/-- A picture as the texture has it, given what arrives of each pixel. -/
def Front.placed (front : Front) (shown : Pixel → Pixel) (picture : List (List Pixel)) : List UInt8 :=
  (if front.topDown then picture.reverse else picture).flatMap fun row =>
    (if front.rightToLeft then row.reverse else row).flatMap shown

structure Front.Fits (front : Front) (picture : List (List Pixel)) : Prop where
  lines : picture.length = front.lines
  columns : ∀ row ∈ picture, row.length = front.columns
  sized : ∀ row ∈ picture, ∀ pixel ∈ row, pixel.length = front.pixelSize

def Front.textureFormat (front : Front) : TextureFormat :=
  if front.pixelDepth = 8 then .alpha8
  else if front.pixelDepth = 16 then .rgb565
  else if front.pixelDepth = 24 then .rgb24
  else .rgba32

theorem paddingOf_aligned (wellFormed : front.WellFormed) (aligned : 4 ∣ front.columns * front.pixelSize) :
    paddingOf front.width.toInt front.pixelDepth = 0 := by
  apply paddingOf_eq_zero wellFormed.width.le wellFormed.pixelDepth
  rw [← wellFormed.cast_columns]
  exact_mod_cast aligned

/-- The pixels of a picture in order of the texture, each as it was read. -/
def Front.ordered (front : Front) (picture : List (List Pixel)) : List Pixel :=
  (if front.topDown then picture.reverse else picture).flatMap fun row =>
    (if front.rightToLeft then row.reverse else row).map fun pixel =>
      if front.rightToLeft then pixel.reverse else pixel

-- Reversing the bytes of a row reverses the bytes of its pixels, too.
theorem alignRows_pixels (picture : List (List Pixel)) :
    alignRows front.topDown front.rightToLeft 0 (picture.map List.flatten) = (front.ordered picture).flatten := by
  have rows : (if front.topDown then (picture.map List.flatten).reverse else picture.map List.flatten) =
      (if front.topDown then picture.reverse else picture).map List.flatten := by
    split
    · rw [List.map_reverse]
    · rfl
  have row : ∀ row : List Pixel, (if front.rightToLeft then row.flatten.reverse else row.flatten) =
      ((if front.rightToLeft then row.reverse else row).map fun pixel =>
        if front.rightToLeft then pixel.reverse else pixel).flatten := by
    intro row
    cases front.rightToLeft with
    | false => simp
    | true => simp [List.reverse_flatten]
  unfold alignRows Front.ordered
  rw [rows]
  generalize (if front.topDown then picture.reverse else picture) = list
  induction list with
  | nil => rfl
  | cons first rest ih =>
    rw [List.map_cons, List.flatMap_cons, ih, List.flatMap_cons, List.flatten_append, row, List.replicate_zero,
      List.append_nil]

theorem Front.Fits.ordered {picture : List (List Pixel)} (fits : front.Fits picture) :
    (front.ordered picture).length = front.lines * front.columns ∧
      ∀ pixel ∈ front.ordered picture, pixel.length = front.pixelSize := by
  have each : ∀ row ∈ (if front.topDown then picture.reverse else picture), row ∈ picture := by
    intro row member
    split at member
    · exact List.mem_reverse.mp member
    · exact member
  have lines : (if front.topDown then picture.reverse else picture).length = front.lines := by
    rw [← fits.lines]
    split
    · exact List.length_reverse
    · rfl
  unfold Front.ordered
  rw [← lines]
  generalize (if front.topDown then picture.reverse else picture) = list at each
  induction list with
  | nil => simp
  | cons row rest ih =>
    obtain ⟨count, sizes⟩ := ih fun other member => each other (List.mem_cons_of_mem row member)
    have inside := each row List.mem_cons_self
    constructor
    · have columns : (if front.rightToLeft then row.reverse else row).length = front.columns := by
        rw [← fits.columns row inside]
        split
        · exact List.length_reverse
        · rfl
      rw [List.flatMap_cons, List.length_append, count, List.length_map, columns, List.length_cons]
      ring
    · intro pixel member
      rw [List.flatMap_cons, List.mem_append] at member
      rcases member with member | member
      · obtain ⟨pixel, present, rfl⟩ := List.mem_map.mp member
        have original : pixel ∈ row := by
          split at present
          · exact List.mem_reverse.mp present
          · exact present
        have length := fits.sized row inside pixel original
        split
        · rwa [List.length_reverse]
        · exact length
      · exact sizes pixel member

theorem placed_congr {picture : List (List Pixel)} {shown shown' : Pixel → Pixel}
    (same : ∀ row ∈ picture, ∀ pixel ∈ row, shown pixel = shown' pixel) :
    front.placed shown picture = front.placed shown' picture := by
  unfold Front.placed
  apply List.flatMap_congr
  intro row member
  have inside : row ∈ picture := by
    split at member
    · exact List.mem_reverse.mp member
    · exact member
  apply List.flatMap_congr
  intro pixel present
  apply same row inside pixel
  split at present
  · exact List.mem_reverse.mp present
  · exact present

theorem placed_channels (picture : List (List Pixel)) : front.placed (channels front.rightToLeft) picture =
    ((front.ordered picture).map fun pixel => if 3 ≤ pixel.length then exchange pixel else pixel).flatten := by
  unfold Front.placed Front.ordered
  generalize (if front.topDown then picture.reverse else picture) = list
  induction list with
  | nil => rfl
  | cons row rest ih =>
    rw [List.flatMap_cons, ih, List.flatMap_cons, List.map_append, List.flatten_append, List.map_map]
    rfl

theorem exchange_length (pixel : Pixel) : (exchange pixel).length = pixel.length := by
  rcases pixel with _ | ⟨first, _ | ⟨second, _ | ⟨third, rest⟩⟩⟩ <;> rfl

theorem loadRawTextureData_pixels (graphics : Graphics) {width height : Nat} (format : TextureFormat) {pixels : List Pixel}
    (count : pixels.length = height * width) (sized : ∀ pixel ∈ pixels, pixel.length = format.bytesPerPixel) :
    RawTexture.loadRawTextureData graphics ⟨width, height, format, []⟩ pixels.flatten =
      .ok ⟨width, height, format, pixels.flatten⟩ := by
  have size : (RawTexture.mk width height format []).size = pixels.flatten.length := by
    rw [flatten_length sized, count, Nat.mul_comm height width]
    rfl
  unfold RawTexture.loadRawTextureData
  rw [size, if_neg (by simp), List.take_length]

theorem loadTexture_pixels (wellFormed : front.WellFormed) {graphics : Graphics}
    (wide : front.width.toInt ≤ graphics.maxTextureSize) (high : front.height.toInt ≤ graphics.maxTextureSize) {pixels : List Pixel}
    (count : pixels.length = front.lines * front.columns) (sized : ∀ pixel ∈ pixels, pixel.length = front.pixelSize) :
    loadTexture graphics front.header (depthFormat front.pixelDepth) pixels.flatten =
      .ok ⟨front.columns, front.lines, front.textureFormat,
        (pixels.map fun pixel => if 3 ≤ pixel.length then exchange pixel else pixel).flatten⟩ := by
  have new : ∀ format, RawTexture.new graphics front.header.width.toInt front.header.height.toInt format =
      .ok ⟨front.columns, front.lines, format, []⟩ := by
    intro format
    rw [wellFormed.cast_columns, wellFormed.cast_lines]
    exact if_pos ⟨wellFormed.width, wide, wellFormed.height, high⟩
  have plain : front.pixelSize < 3 →
      (pixels.map fun pixel => if 3 ≤ pixel.length then exchange pixel else pixel) = pixels := by
    intro small
    conv_rhs => rw [← List.map_id pixels]
    apply List.map_congr_left
    intro pixel member
    rw [sized pixel member, if_neg (not_le.mpr small), id]
  have exchanged : 3 ≤ front.pixelSize →
      (pixels.map fun pixel => if 3 ≤ pixel.length then exchange pixel else pixel) = pixels.map exchange := by
    intro large
    apply List.map_congr_left
    intro pixel member
    rw [sized pixel member, if_pos large]
  have count' : (pixels.map exchange).length = front.lines * front.columns := by rw [List.length_map, count]
  have sized' : ∀ pixel ∈ pixels.map exchange, pixel.length = front.pixelSize := by
    intro pixel member
    obtain ⟨original, inside, rfl⟩ := List.mem_map.mp member
    rw [exchange_length, sized original inside]
  unfold loadTexture Front.textureFormat
  rcases wellFormed.pixelDepth with depth | depth | depth | depth
  · have size : front.pixelSize = 1 := by rw [Front.pixelSize, depth]; rfl
    rw [depth, show depthFormat 8 = .alpha8 from rfl, new, plain (by omega)]
    rw [size] at sized
    exact loadRawTextureData_pixels _ _ count sized
  · have size : front.pixelSize = 2 := by rw [Front.pixelSize, depth]; rfl
    rw [depth, show depthFormat 16 = .rgb565 from rfl, new, plain (by omega)]
    rw [size] at sized
    exact loadRawTextureData_pixels _ _ count sized
  · have size : front.pixelSize = 3 := by rw [Front.pixelSize, depth]; rfl
    rw [depth, show depthFormat 24 = .rgb24 from rfl, new, exchanged (by omega)]
    rw [size] at sized sized'
    have swapped := swapRedBlue_pixels le_rfl pixels sized
    have loaded := loadRawTextureData_pixels graphics .rgb24 count' sized'
    simp only [bind, Except.bind, swapped]
    exact loaded
  · have size : front.pixelSize = 4 := by rw [Front.pixelSize, depth]; rfl
    rw [depth, show depthFormat 32 = .bgra32 from rfl, new, exchanged (by omega), new]
    rw [size] at sized sized'
    have swapped := swapRedBlue_pixels (by decide) pixels sized
    have loaded := loadRawTextureData_pixels graphics .rgba32 count' sized'
    simp only [bind, Except.bind, swapped]
    exact loaded

theorem Front.Fits.reads (wellFormed : front.WellFormed) (plain : front.Plain) {picture : List (List Pixel)}
    (fits : front.Fits picture) :
    Reads (loadRows front.header) picture.flatten.flatten (picture.map List.flatten) := by
  have rows : FullRows front.header (front.columns * front.pixelSize) (picture.map List.flatten) := by
    constructor
    · rw [List.length_map, fits.lines]
      exact wellFormed.cast_lines.symm
    · intro row member
      obtain ⟨pixels, inside, rfl⟩ := List.mem_map.mp member
      rw [flatten_length (fits.sized pixels inside), fits.columns pixels inside]
  rw [List.flatten_flatten]
  exact loadRows_plain wellFormed.rowed plain.not_runLengthEncoded rows

/-- Where the rows need no padding, a plain file becomes its picture. The rows and the pixels
come in the right order, and of a pixel whose row was reversed the bytes are reversed, too. -/
theorem loadTargaImage_aligned (wellFormed : front.WellFormed) (plain : front.Plain) {graphics : Graphics}
    (wide : front.width.toInt ≤ graphics.maxTextureSize) (high : front.height.toInt ≤ graphics.maxTextureSize)
    (aligned : 4 ∣ front.columns * front.pixelSize) {picture : List (List Pixel)} (fits : front.Fits picture)
    {rest : List UInt8} (free : ExtensionFree (front.bytes ++ (picture.flatten.flatten ++ rest))) :
    loadTargaImage graphics (front.bytes ++ (picture.flatten.flatten ++ rest)) =
      .ok ⟨front.columns, front.lines, front.textureFormat, front.placed (channels front.rightToLeft) picture⟩ := by
  obtain ⟨count, sized⟩ := fits.ordered
  rw [loadTargaImage_front graphics wellFormed (fits.reads wellFormed plain) free, (transferOrder front).1, (transferOrder front).2,
    paddingOf_aligned wellFormed aligned, Int.toNat_zero, alignRows_pixels, loadTexture_pixels wellFormed wide high count sized,
    placed_channels]

/-- The signature has no byte outside of ASCII at its end. -/
theorem extensionFree_of_high {bytes : List UInt8} (long : 15 ≤ bytes.length) {byte : UInt8} (high : ¬byte < 128)
    (after after' : UInt8) : ExtensionFree (bytes ++ [byte, after, after']) := by
  intro signed
  exfalso
  have start : (bytes ++ [byte, after, after']).length - footerSignatureOffsetFromEnd = bytes.length - 15 := by
    rw [List.length_append, footerSignatureOffsetFromEnd]
    simp only [List.length_cons, List.length_nil]
    omega
  have text : ((bytes ++ [byte, after, after']).drop (bytes.length - 15)).take footerSignatureByteLength =
      bytes.drop (bytes.length - 15) ++ [byte] := by
    have length : (bytes.drop (bytes.length - 15)).length = 15 := by
      rw [List.length_drop]
      omega
    rw [List.drop_append_of_le_length (Nat.sub_le _ _), show [byte, after, after'] = [byte] ++ [after, after'] from rfl,
      ← List.append_assoc]
    apply List.take_left'
    rw [List.length_append, length]
    rfl
  unfold Signed at signed
  rw [start, text] at signed
  unfold asciiText at signed
  rw [List.map_append, List.map_cons, List.map_nil, if_neg high, List.rdropWhile_concat_neg _ _ _ (by decide)] at signed
  have last := congrArg List.getLast? signed
  rw [List.getLast?_concat] at last
  revert last
  decide

theorem extensionFree_zeros (bytes : List UInt8) : ExtensionFree (bytes ++ List.replicate 18 0) := by
  intro signed
  exfalso
  have length : (bytes ++ List.replicate 18 (0 : UInt8)).length - footerSignatureOffsetFromEnd = bytes.length := by
    rw [List.length_append, List.length_replicate]
    rfl
  unfold Signed at signed
  rw [length, List.drop_left] at signed
  revert signed
  decide

-- A picture of one colour begins with that colour, whatever the transfer order.
theorem placed_replicate_head {lines columns : Nat} (high : 0 < lines) (wide : 0 < columns) {shown : Pixel → Pixel}
    {pixel : Pixel} (some : shown pixel ≠ []) :
    (front.placed shown (List.replicate lines (List.replicate columns pixel))).head? = (shown pixel).head? := by
  obtain ⟨lines, rfl⟩ := Nat.exists_eq_succ_of_ne_zero high.ne'
  obtain ⟨columns, rfl⟩ := Nat.exists_eq_succ_of_ne_zero wide.ne'
  unfold Front.placed
  rw [List.reverse_replicate, ite_self, List.replicate_succ, List.flatMap_cons, List.reverse_replicate, ite_self,
    List.replicate_succ, List.flatMap_cons, List.append_assoc]
  exact List.head?_append_of_ne_nil _ some

/-- Every picture arrives in its colours if and only if the rows go from the first pixel to the last. -/
theorem loadTargaImage_colors_iff (wellFormed : front.WellFormed) (plain : front.Plain)
    (deep : front.pixelDepth = 24 ∨ front.pixelDepth = 32) {graphics : Graphics}
    (wide : front.width.toInt ≤ graphics.maxTextureSize) (high : front.height.toInt ≤ graphics.maxTextureSize)
    (aligned : 4 ∣ front.columns * front.pixelSize) :
    (∀ picture rest, front.Fits picture → ExtensionFree (front.bytes ++ (picture.flatten.flatten ++ rest)) →
      loadTargaImage graphics (front.bytes ++ (picture.flatten.flatten ++ rest)) =
        .ok ⟨front.columns, front.lines, front.textureFormat, front.placed exchange picture⟩) ↔
      front.rightToLeft = false := by
  have size : 3 ≤ front.pixelSize := by
    unfold Front.pixelSize
    rcases deep with depth | depth <;> rw [depth] <;> decide
  constructor
  · intro shows
    by_contra reversed
    rw [Bool.not_eq_false] at reversed
    have samples : ∃ pixel : Pixel, pixel.length = front.pixelSize ∧ channels true pixel ≠ [] ∧ exchange pixel ≠ [] ∧
        (channels true pixel).head? ≠ (exchange pixel).head? := by
      unfold Front.pixelSize
      rcases deep with depth | depth
      · exact ⟨[0, 1, 2], by rw [depth]; decide, by decide⟩
      · exact ⟨[0, 1, 2, 3], by rw [depth]; decide, by decide⟩
    obtain ⟨pixel, length, some, some', differ⟩ := samples
    have fits : front.Fits (List.replicate front.lines (List.replicate front.columns pixel)) := by
      constructor
      · exact List.length_replicate
      · intro row member
        rw [List.eq_of_mem_replicate member, List.length_replicate]
      · intro row member other inside
        rw [List.eq_of_mem_replicate member] at inside
        rw [List.eq_of_mem_replicate inside, length]
    have free := extensionFree_zeros (front.bytes ++
      (List.replicate front.lines (List.replicate front.columns pixel)).flatten.flatten)
    rw [List.append_assoc] at free
    have shown := shows _ _ fits free
    rw [loadTargaImage_aligned wellFormed plain wide high aligned fits free, reversed] at shown
    have heads := congrArg List.head? (congrArg RawTexture.rawTextureData (Except.ok.inj shown))
    rw [placed_replicate_head wellFormed.lines_pos wellFormed.columns_pos some,
      placed_replicate_head wellFormed.lines_pos wellFormed.columns_pos some'] at heads
    exact differ heads
  · intro forward picture rest fits free
    have same : front.placed (channels front.rightToLeft) picture = front.placed exchange picture := by
      apply placed_congr
      intro row member pixel inside
      unfold channels
      simp only [forward, Bool.false_eq_true, if_false, fits.sized row member pixel inside]
      rw [if_pos size]
    rw [loadTargaImage_aligned wellFormed plain wide high aligned fits free, same]

theorem loadTargaImage_colors_iff_small :
    (∀ picture rest, (Front.mk ⟨0, 0, 2, 0, 0, 0, 0, 0, 4, 1, 24, 32⟩ [] []).Fits picture →
      ExtensionFree ((Front.mk ⟨0, 0, 2, 0, 0, 0, 0, 0, 4, 1, 24, 32⟩ [] []).bytes ++ (picture.flatten.flatten ++ rest)) →
      loadTargaImage ⟨16384, true⟩ ((Front.mk ⟨0, 0, 2, 0, 0, 0, 0, 0, 4, 1, 24, 32⟩ [] []).bytes ++ (picture.flatten.flatten ++ rest)) =
        .ok ⟨4, 1, .rgb24, (Front.mk ⟨0, 0, 2, 0, 0, 0, 0, 0, 4, 1, 24, 32⟩ [] []).placed exchange picture⟩) ↔
      (Front.mk ⟨0, 0, 2, 0, 0, 0, 0, 0, 4, 1, 24, 32⟩ [] []).rightToLeft = false :=
  loadTargaImage_colors_iff wellFormed_small (.inr (.inl rfl)) (.inl rfl) (by decide) (by decide) (by decide)

end

end RayTraceRenderer.Targa
