import RayTraceRenderer.Foundation.Exception
import RayTraceRenderer.Native.RenderToImage
import RayTraceRenderer.Targa.Pictures
import Mathlib.Data.Rat.Floor

/-! The file that RenderToImage leaves behind, and what the reader makes of it.

The writer stores the rows from the top to the bottom, without padding. The reader pads the
rows of what it hands to the texture, which does not expect that.
-/

set_option autoImplicit false

namespace RayTraceRenderer.Native

open Unity Targa Reading

variable {K : Type} [Field K] [LinearOrder K]

def clamp (x : K) : K := max (min x 1) 0

section
variable [FloorRing K]

/-- The cast to unsigned char, of a value that has a byte. -/
def toUchar (x : K) : UInt8 := UInt8.ofNat ⌊x⌋.toNat

def channel (x : K) : UInt8 := toUchar (clamp x * 255)

end

omit [Field K] [LinearOrder K] in
def Image.get (image : Image K) (x y : Nat) : Option (Color K) := image.data[y * image.width.toNat + x]?

variable [FloorRing K]

def storePixel (c : Color K) : List UInt8 := [channel c.b, channel c.g, channel c.r]

def storeHeader (image : Image K) : List UInt8 :=
  [0x00, 0x00, 0x02] ++ LittleEndian.bytes 2 0 ++ LittleEndian.bytes 2 0 ++ LittleEndian.bytes 2 0 ++
    LittleEndian.bytes 2 0 ++ [0x00] ++ LittleEndian.bytes 2 image.width.toNat ++
    LittleEndian.bytes 2 image.height.toNat ++ [0x18] ++ [0x20]

def storeTga (image : Image K) : Option (List UInt8) := do
  let rows ← (List.range image.height.toNat).mapM fun y =>
    (List.range image.width.toNat).mapM fun x => storePixel <$> image.get x y
  return storeHeader image ++ rows.flatten.flatten

/-! ## What is stored -/

/-- An image of a size that the header of the file can tell. -/
structure Image.Sized (image : Image K) (width height : Nat) : Prop where
  columns : image.width = width
  lines : image.height = height
  length : image.data.length = width * height

def tgaFront (width height : Nat) : Front where
  imageIDLength := 0
  colorMapType := 0
  imageType := 2
  colorMapFirstEntryIndex := 0
  colorMapLength := 0
  colorMapEntrySize := 0
  xOrigin := 0
  yOrigin := 0
  width := Int16.ofNat width
  height := Int16.ofNat height
  pixelDepth := 24
  imageDescriptor := 32
  imageID := []
  colorMap := []

omit [Field K] [LinearOrder K] [FloorRing K] in
theorem bytes_ofNat {n : Nat} (small : n < 2 ^ 15) : LittleEndian.ofInt16 (Int16.ofNat n) = LittleEndian.bytes 2 n := by
  have same : (Int16.ofNat n).toUInt16.toNat = n := by
    rw [Int16.toUInt16_ofNat', UInt16.toNat_ofNat_of_lt' (by simp only [UInt16.size]; omega)]
  unfold LittleEndian.ofInt16
  rw [same]

theorem tgaFront_wellFormed {width height : Nat} (wide : 1 ≤ width ∧ width < 2 ^ 15)
    (high : 1 ≤ height ∧ height < 2 ^ 15) : (tgaFront width height).WellFormed where
  imageID := rfl
  pixelDepth := .inr (.inr (.inl rfl))
  width := by
    change 0 < (Int16.ofNat width).toInt
    rw [Int16.toInt_ofNat_of_lt wide.2]
    exact_mod_cast wide.1
  height := by
    change 0 < (Int16.ofNat height).toInt
    rw [Int16.toInt_ofNat_of_lt high.2]
    exact_mod_cast high.1
  colorMap := rfl
  mapped := by
    intro mapped
    exact absurd mapped (by decide : ¬(ImageType.ofByte 2).ColorMapped)

def Image.pixel (image : Image K) (x y : Nat) : Color K := (image.get x y).getD ⟨0, 0, 0, 0⟩

/-- The pixels as they stand in the file. -/
def Image.picture (image : Image K) : List (List RunLength.Pixel) :=
  (List.range image.height.toNat).map fun y => (List.range image.width.toNat).map fun x => storePixel (image.pixel x y)

theorem mapM_some {α β : Type} {f : α → Option β} {g : α → β} (xs : List α) (each : ∀ x ∈ xs, f x = some (g x)) :
    xs.mapM f = some (xs.map g) := by
  induction xs with
  | nil => rfl
  | cons x rest ih =>
    rw [List.mapM_cons, each x List.mem_cons_self, ih fun y member => each y (List.mem_cons_of_mem x member)]
    rfl

theorem storeTga_eq {image : Image K} {width height : Nat} (sized : image.Sized width height)
    (wide : width < 2 ^ 15) (high : height < 2 ^ 15) :
    storeTga image = some ((tgaFront width height).bytes ++ (image.picture.flatten.flatten ++ [])) := by
  have header : storeHeader image = (tgaFront width height).bytes := by
    unfold storeHeader Front.bytes Fields.bytes tgaFront
    rw [bytes_ofNat wide, bytes_ofNat high, sized.columns, sized.lines]
    simp only [Int.toNat_natCast, List.append_assoc, List.append_nil]
    rfl
  have rows : (List.range image.height.toNat).mapM (fun y =>
      (List.range image.width.toNat).mapM fun x => storePixel <$> image.get x y) = some image.picture := by
    apply mapM_some
    intro y row
    apply mapM_some
    intro x column
    have inside : y * image.width.toNat + x < image.data.length := by
      rw [List.mem_range, sized.lines, Int.toNat_natCast] at row
      rw [List.mem_range, sized.columns, Int.toNat_natCast] at column
      rw [sized.length, sized.columns, Int.toNat_natCast]
      calc y * width + x < (y + 1) * width := by rw [Nat.add_mul, Nat.one_mul]; omega
        _ ≤ height * width := Nat.mul_le_mul_right _ row
        _ = width * height := Nat.mul_comm _ _
    unfold Image.pixel Image.get
    rw [List.getElem?_eq_getElem inside]
    rfl
  unfold storeTga
  rw [rows, header, List.append_nil]
  rfl

/-! ## Reading it back -/

def rgb (c : Color K) : List UInt8 := [channel c.r, channel c.g, channel c.b]

def Image.bottomUp (image : Image K) : List UInt8 :=
  (List.range image.height.toNat).reverse.flatMap fun y => (List.range image.width.toNat).flatMap fun x =>
    rgb (image.pixel x y)

section
variable {image : Image K} {width height : Nat}

theorem tgaFront_columns (small : width < 2 ^ 15) : (tgaFront width height).columns = width := by
  change (Int16.ofNat width).toInt.toNat = width
  rw [Int16.toInt_ofNat_of_lt small, Int.toNat_natCast]

theorem tgaFront_lines (small : height < 2 ^ 15) : (tgaFront width height).lines = height := by
  change (Int16.ofNat height).toInt.toNat = height
  rw [Int16.toInt_ofNat_of_lt small, Int.toNat_natCast]

theorem tgaFront_pixelSize (width height : Nat) : (tgaFront width height).pixelSize = 3 :=
  show (24 : UInt8).toNat / 8 = 3 by decide

theorem tgaFront_order (width height : Nat) :
    (tgaFront width height).topDown = true ∧ (tgaFront width height).rightToLeft = false :=
  show (getBits 32 5 1 == 1) = true ∧ (getBits 32 4 1 == 1) = false by decide

theorem picture_fits (sized : image.Sized width height) (wide : width < 2 ^ 15) (high : height < 2 ^ 15) :
    (tgaFront width height).Fits image.picture where
  lines := by
    rw [tgaFront_lines high, Image.picture, List.length_map, List.length_range, sized.lines, Int.toNat_natCast]
  columns := by
    intro row member
    obtain ⟨y, -, rfl⟩ := List.mem_map.mp member
    rw [tgaFront_columns wide, List.length_map, List.length_range, sized.columns, Int.toNat_natCast]
  sized := by
    intro row member pixel inside
    obtain ⟨y, -, rfl⟩ := List.mem_map.mp member
    obtain ⟨x, -, rfl⟩ := List.mem_map.mp inside
    exact (tgaFront_pixelSize width height).symm

theorem placed_picture (image : Image K) : (tgaFront width height).placed exchange image.picture = image.bottomUp := by
  unfold Front.placed Image.picture Image.bottomUp
  rw [(tgaFront_order width height).1, (tgaFront_order width height).2, if_pos rfl, ← List.map_reverse, List.flatMap_map]
  simp only [Bool.false_eq_true, if_false, List.flatMap_map]
  rfl

theorem paddingOf_tga (wide : width < 2 ^ 15) (height : Nat) :
    paddingOf (tgaFront width height).width.toInt (tgaFront width height).pixelDepth = (width % 4 : Nat) := by
  have columns : (tgaFront width height).width.toInt = width := Int16.toInt_ofNat_of_lt wide
  have depth : (tgaFront width height).pixelDepth.toNat = 24 := rfl
  unfold paddingOf strideOf
  rw [columns, depth, Int.tdiv_eq_ediv_of_nonneg (by omega)]
  omega

variable {graphics : Graphics}

/-- What is loaded of an image, before it is known whether the rows need padding. -/
theorem loadTargaImage_storeTga (sized : image.Sized width height) (wide : 1 ≤ width ∧ width < 2 ^ 15)
    (high : 1 ≤ height ∧ height < 2 ^ 15) (fits : (width : Int) ≤ graphics.maxTextureSize ∧ (height : Int) ≤ graphics.maxTextureSize)
    {file : List UInt8} (stored : storeTga image = some file) (free : ExtensionFree file) :
    loadTargaImage graphics file =
      (swapRedBlue 3 (image.picture.reverse.flatMap fun row => row.flatten ++ List.replicate (width % 4) 0)).bind
        fun swapped => RawTexture.loadRawTextureData graphics ⟨width, height, .rgb24, []⟩ swapped := by
  rw [storeTga_eq sized wide.2 high.2] at stored
  obtain rfl := Option.some.inj stored
  have wellFormed := tgaFront_wellFormed wide high
  have reads := (picture_fits sized wide.2 high.2).reads wellFormed (.inr (.inl rfl))
  have rows : alignRows true false (width % 4) (image.picture.map List.flatten) =
      image.picture.reverse.flatMap fun row => row.flatten ++ List.replicate (width % 4) 0 := by
    unfold alignRows
    rw [if_pos rfl, ← List.map_reverse, List.flatMap_map]
    rfl
  have new : ∀ format, RawTexture.new graphics (tgaFront width height).header.width.toInt
      (tgaFront width height).header.height.toInt format = .ok ⟨width, height, format, []⟩ := by
    intro format
    change RawTexture.new graphics (Int16.ofNat width).toInt (Int16.ofNat height).toInt format = _
    rw [Int16.toInt_ofNat_of_lt wide.2, Int16.toInt_ofNat_of_lt high.2]
    exact if_pos ⟨by omega, fits.1, by omega, fits.2⟩
  rw [loadTargaImage_front graphics wellFormed reads free, (transferOrder _).1, (transferOrder _).2,
    (tgaFront_order width height).1, (tgaFront_order width height).2, paddingOf_tga wide.2, Int.toNat_natCast, rows]
  unfold loadTexture
  rw [show depthFormat (tgaFront width height).pixelDepth = .rgb24 from rfl, new]
  rfl

theorem loads_of_aligned (sized : image.Sized width height) (wide : 1 ≤ width ∧ width < 2 ^ 15)
    (high : 1 ≤ height ∧ height < 2 ^ 15) (fits : (width : Int) ≤ graphics.maxTextureSize ∧ (height : Int) ≤ graphics.maxTextureSize)
    (aligned : 4 ∣ width) {file : List UInt8} (stored : storeTga image = some file) (free : ExtensionFree file) :
    loadTargaImage graphics file = .ok ⟨width, height, .rgb24, image.bottomUp⟩ := by
  have wellFormed := tgaFront_wellFormed wide high
  have fitting := picture_fits sized wide.2 high.2
  rw [storeTga_eq sized wide.2 high.2] at stored
  obtain rfl := Option.some.inj stored
  have columns := Int16.toInt_ofNat_of_lt wide.2
  have lines := Int16.toInt_ofNat_of_lt high.2
  have loaded := loadTargaImage_aligned wellFormed (.inr (.inl rfl)) (columns.trans_le fits.1) (lines.trans_le fits.2)
    (by rw [tgaFront_columns wide.2]; exact aligned.mul_right _) fitting free
  have size : ∀ row ∈ image.picture, ∀ pixel ∈ row, channels (tgaFront width height).rightToLeft pixel = exchange pixel := by
    intro row member pixel inside
    have length := fitting.sized row member pixel inside
    unfold channels
    rw [(tgaFront_order width height).2]
    simp only [Bool.false_eq_true, if_false]
    rw [length, tgaFront_pixelSize, if_pos le_rfl]
  rw [loaded, placed_congr size, placed_picture, tgaFront_columns wide.2, tgaFront_lines high.2]
  rfl

/-- A single row has its padding behind it, where three bytes make one more pixel. -/
theorem loadTargaImage_row (sized : image.Sized width 1) (wide : 1 ≤ width ∧ width < 2 ^ 15)
    (fits : (width : Int) ≤ graphics.maxTextureSize ∧ ((1 : Nat) : Int) ≤ graphics.maxTextureSize) (three : width % 4 = 3)
    {file : List UInt8} (stored : storeTga image = some file) (free : ExtensionFree file) :
    loadTargaImage graphics file =
        RawTexture.loadRawTextureData graphics ⟨width, (1 : Nat), .rgb24, []⟩ (image.bottomUp ++ [0, 0, 0]) ∧
      (RawTexture.mk width (1 : Nat) .rgb24 []).size = image.bottomUp.length := by
  have fitting := picture_fits sized wide.2 (by decide)
  have one := fitting.lines
  rw [tgaFront_lines (by decide)] at one
  obtain ⟨row, single⟩ := List.length_eq_one_iff.mp one
  have inside : row ∈ image.picture := by rw [single]; exact List.mem_singleton.mpr rfl
  have columns := fitting.columns row inside
  have pixels := fitting.sized row inside
  rw [tgaFront_columns wide.2] at columns
  rw [tgaFront_pixelSize] at pixels
  have padding : swapRedBlue 3 (List.replicate 3 0) = .ok [0, 0, 0] := by
    rw [show List.replicate 3 (0 : UInt8) = [[0, 0, 0]].flatten from rfl, swapRedBlue_pixels le_rfl _ (by simp)]
    rfl
  have shown : image.bottomUp = (row.map exchange).flatten := by
    have placed : (tgaFront width 1).placed exchange image.picture = image.bottomUp := placed_picture image
    rw [← placed, single]
    unfold Front.placed
    rw [(tgaFront_order width 1).2, List.reverse_singleton, ite_self, List.flatMap_singleton]
    simp [List.flatMap_def]
  have exchanged : ∀ pixel ∈ row.map exchange, pixel.length = 3 := by
    intro pixel member
    obtain ⟨original, present, rfl⟩ := List.mem_map.mp member
    rw [exchange_length, pixels original present]
  have length : (row.map exchange).flatten.length = width * 3 := by
    rw [flatten_length exchanged, List.length_map, columns]
  have size : (RawTexture.mk width (1 : Nat) .rgb24 []).size = width * 3 := by
    simp [RawTexture.size, TextureFormat.bytesPerPixel]
  constructor
  · rw [loadTargaImage_storeTga sized wide ⟨le_rfl, by decide⟩ fits stored free, three, single, List.reverse_singleton,
      List.flatMap_singleton, swapRedBlue_append le_rfl row pixels, padding, shown]
    rfl
  · rw [size, shown, length]

/-- One more pixel is too much data, and ignored or refused. -/
theorem loads_row_iff (sized : image.Sized width 1) (wide : 1 ≤ width ∧ width < 2 ^ 15)
    (fits : (width : Int) ≤ graphics.maxTextureSize ∧ ((1 : Nat) : Int) ≤ graphics.maxTextureSize) (three : width % 4 = 3)
    {file : List UInt8} (stored : storeTga image = some file) (free : ExtensionFree file) :
    loadTargaImage graphics file = .ok ⟨width, (1 : Nat), .rgb24, image.bottomUp⟩ ↔ graphics.ignoresExcess = true := by
  obtain ⟨loaded, size⟩ := loadTargaImage_row sized wide fits three stored free
  have more : (image.bottomUp ++ [0, 0, 0]).length = image.bottomUp.length + 3 := List.length_append
  rw [loaded]
  unfold RawTexture.loadRawTextureData
  rw [size, more]
  cases ignores : graphics.ignoresExcess with
  | true => simp
  | false => simp

variable [IsStrictOrderedRing K]

theorem channel_one : channel (1 : K) = 255 := by
  unfold channel toUchar clamp
  rw [min_self, max_eq_left zero_le_one, one_mul, Int.floor_ofNat]
  rfl

def Image.white (width height : Nat) : Image K := ⟨width, height, List.replicate (width * height) ⟨1, 1, 1, 1⟩, []⟩

omit [LinearOrder K] [FloorRing K] [IsStrictOrderedRing K] in
theorem white_pixel {x y : Nat} (column : x < width) (row : y < height) :
    (Image.white width height : Image K).pixel x y = ⟨1, 1, 1, 1⟩ := by
  have inside : y * width + x < width * height := by
    calc y * width + x < (y + 1) * width := by rw [Nat.add_mul, Nat.one_mul]; omega
      _ ≤ height * width := Nat.mul_le_mul_right _ row
      _ = width * height := Nat.mul_comm _ _
  unfold Image.pixel Image.get Image.white
  rw [Int.toNat_natCast, List.getElem?_replicate, if_pos inside, Option.getD_some]

theorem white_picture (width height : Nat) :
    (Image.white width height : Image K).picture = List.replicate height (List.replicate width [255, 255, 255]) := by
  have row : ∀ y < height, (List.range width).map (fun x => storePixel ((Image.white width height : Image K).pixel x y)) =
      List.replicate width [255, 255, 255] := by
    intro y below
    apply List.eq_replicate_iff.mpr
    refine ⟨by simp, ?_⟩
    intro pixel member
    obtain ⟨x, column, rfl⟩ := List.mem_map.mp member
    rw [white_pixel (List.mem_range.mp column) below]
    unfold storePixel
    rw [channel_one]
  apply List.eq_replicate_iff.mpr
  refine ⟨by simp [Image.picture, Image.white], ?_⟩
  intro line member
  obtain ⟨y, below, rfl⟩ := List.mem_map.mp member
  exact row y (List.mem_range.mp below)

theorem white_bottomUp (width height : Nat) : ∀ byte ∈ (Image.white width height : Image K).bottomUp, byte = 255 := by
  intro byte member
  obtain ⟨y, row, member⟩ := List.mem_flatMap.mp member
  obtain ⟨x, column, member⟩ := List.mem_flatMap.mp member
  have pixel : (Image.white width height : Image K).pixel x y = ⟨1, 1, 1, 1⟩ :=
    white_pixel (List.mem_range.mp column) (List.mem_range.mp (List.mem_reverse.mp row))
  rw [pixel] at member
  unfold rgb at member
  rw [channel_one] at member
  simpa using member

-- A zero behind whole pixels ends up in the first pixel after them, if there is one.
theorem swapRedBlue_zero {tail swapped : List UInt8} (returned : swapRedBlue 3 (0 :: tail) = .ok swapped) :
    2 ≤ tail.length ∧ ∃ third second rest, swapped = third :: second :: 0 :: rest := by
  rcases tail with _ | ⟨second, _ | ⟨third, rest⟩⟩
  · rw [swapRedBlue] at returned
    · cases returned
    all_goals simp
  · rw [swapRedBlue] at returned
    · cases returned
    all_goals simp
  · rw [swapRedBlue] at returned
    obtain ⟨later, -, same⟩ := bind_eq_ok.mp returned
    refine ⟨by simp, third, second, _, (Except.ok.inj same).symm⟩

theorem white_free (wide : 1 ≤ width) (high : 1 ≤ height) :
    ExtensionFree ((tgaFront width height).bytes ++ ((Image.white width height : Image K).picture.flatten.flatten ++ [])) := by
  have all : (Image.white width height : Image K).picture.flatten.flatten = List.replicate (height * width * 3) 255 := by
    rw [white_picture]
    simp [List.eq_replicate_iff]
  obtain ⟨most, count⟩ : ∃ most, height * width * 3 = most + 3 := by
    have some : 1 ≤ height * width := Nat.mul_pos high wide
    exact ⟨height * width * 3 - 3, by omega⟩
  rw [all, count, List.append_nil, List.replicate_add, ← List.append_assoc]
  apply extensionFree_of_high _ (by decide)
  rw [List.length_append, Front.bytes, List.append_assoc, List.length_append, Fields.bytes_length, headerByteLength]
  omega

/-- The padding of a row shows, or it is no whole pixel and the reader throws. -/
theorem white_not_loaded (wide : 1 ≤ width ∧ width < 2 ^ 15)
    (high : 1 ≤ height ∧ height < 2 ^ 15) (fits : (width : Int) ≤ graphics.maxTextureSize ∧ (height : Int) ≤ graphics.maxTextureSize)
    (padded : ¬(4 ∣ width ∨ graphics.ignoresExcess = true ∧ height = 1 ∧ width % 4 = 3)) :
    ∃ file, storeTga (Image.white width height : Image K) = some file ∧ ExtensionFree file ∧
      loadTargaImage graphics file ≠ .ok ⟨width, height, .rgb24, (Image.white width height : Image K).bottomUp⟩ := by
  have sized : (Image.white width height : Image K).Sized width height := ⟨rfl, rfl, List.length_replicate⟩
  have stored := storeTga_eq sized wide.2 high.2
  have free := white_free (K := K) wide.1 high.1
  refine ⟨_, stored, free, ?_⟩
  by_cases row : height = 1 ∧ width % 4 = 3
  · obtain ⟨rfl, three⟩ := row
    intro loaded
    exact padded (.inr ⟨(loads_row_iff sized wide fits three stored free).mp loaded, rfl, three⟩)
  rw [loadTargaImage_storeTga sized wide high fits stored free, white_picture, List.reverse_replicate]
  intro loaded
  obtain ⟨before, rfl⟩ : ∃ before, height = before + 1 := ⟨height - 1, by omega⟩
  obtain ⟨more, count⟩ : ∃ more, width % 4 = more + 1 := ⟨width % 4 - 1, by omega⟩
  have pixels : ∀ pixel ∈ List.replicate width [255, 255, (255 : UInt8)], pixel.length = 3 := by
    intro pixel member
    rw [List.eq_of_mem_replicate member]
    rfl
  rw [List.replicate_succ, List.flatMap_cons, count, List.replicate_succ, List.append_assoc,
    swapRedBlue_append le_rfl _ pixels, List.cons_append] at loaded
  generalize rest : List.flatMap _ (List.replicate before _) = others at loaded
  cases swap : swapRedBlue 3 (0 :: (List.replicate more 0 ++ others)) with
  | error fault =>
    rw [swap] at loaded
    cases loaded
  | ok swapped =>
    rw [swap] at loaded
    obtain ⟨long, third, second, later, rfl⟩ := swapRedBlue_zero swap
    have several : 1 ≤ before := by
      by_contra single
      obtain rfl : before = 0 := by omega
      rw [← rest, List.replicate_zero, List.flatMap_nil, List.append_nil, List.length_replicate] at long
      omega
    have front : ((List.replicate width [255, 255, (255 : UInt8)]).map exchange).flatten.length = width * 3 := by
      simp [exchange]
    have size : (RawTexture.mk width (before + 1 : Nat) .rgb24 []).size = width * 3 + (width * before * 3 - 3 + 3) := by
      have more : 1 ≤ width * before := Nat.mul_pos wide.1 several
      have area : ((width : Int) * ((before + 1 : Nat) : Int)).toNat = width * (before + 1) := by
        rw [← Nat.cast_mul, Int.toNat_natCast]
      unfold RawTexture.size
      rw [area, Nat.mul_succ, TextureFormat.bytesPerPixel]
      omega
    simp only [Except.map, Except.bind] at loaded
    unfold RawTexture.loadRawTextureData at loaded
    split at loaded
    · cases loaded
    · have bytes := congrArg RawTexture.rawTextureData (Except.ok.inj loaded)
      simp only at bytes
      rw [size, ← front, List.take_length_add_append] at bytes
      have zero : (0 : UInt8) ∈ (Image.white width (before + 1) : Image K).bottomUp := by
        rw [← bytes]
        apply List.mem_append_right
        simp [List.take_succ_cons]
      exact absurd (white_bottomUp width (before + 1) 0 zero) (by decide)

/-- Every image of a size is loaded back as it was stored if and only if its rows are as long as
rows of a texture with padding, or it has one row only, the padding is as long as a pixel and a texture
ignores what is behind its pixels. -/
theorem loadTargaImage_storeTga_iff (wide : 1 ≤ width ∧ width < 2 ^ 15)
    (high : 1 ≤ height ∧ height < 2 ^ 15) (fits : (width : Int) ≤ graphics.maxTextureSize ∧ (height : Int) ≤ graphics.maxTextureSize) :
    (∀ (image : Image K) (file : List UInt8), image.Sized width height → storeTga image = some file →
        ExtensionFree file → loadTargaImage graphics file = .ok ⟨width, height, .rgb24, image.bottomUp⟩) ↔
      4 ∣ width ∨ graphics.ignoresExcess = true ∧ height = 1 ∧ width % 4 = 3 := by
  constructor
  · intro loads
    by_contra padded
    obtain ⟨file, stored, free, differs⟩ := white_not_loaded (K := K) wide high fits padded
    exact differs (loads _ file ⟨rfl, rfl, List.length_replicate⟩ stored free)
  · intro sizes image file sized stored free
    rcases sizes with aligned | ⟨ignores, rfl, three⟩
    · exact loads_of_aligned sized wide high fits aligned stored free
    · exact (loads_row_iff sized wide fits three stored free).mpr ignores

theorem loadTargaImage_storeTga_iff_four_by_two :
    (∀ (image : Image Rat) (file : List UInt8), image.Sized 4 2 → storeTga image = some file →
        ExtensionFree file → loadTargaImage ⟨16384, true⟩ file = .ok ⟨(4 : Nat), (2 : Nat), .rgb24, image.bottomUp⟩) ↔
      4 ∣ 4 ∨ true = true ∧ 2 = 1 ∧ 4 % 4 = 3 :=
  loadTargaImage_storeTga_iff (K := Rat) ⟨by decide, by decide⟩ ⟨by decide, by decide⟩ ⟨by decide, by decide⟩

end

end RayTraceRenderer.Native
