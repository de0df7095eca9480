import RayTraceRenderer.Foundation.Exception
import RayTraceRenderer.Targa.Pictures

/-! Which plain files are accepted.

Where the rows need no padding, a file is loaded exactly if its header can be loaded and all
the bytes of the pixels are there. The image ID and the colour map of a file need not be
where the image data begin: a negative length of the colour map moves the data to the front.
-/

set_option autoImplicit false

namespace RayTraceRenderer.Targa

open Reading RunLength

structure Fields.Accepted (fields : Fields) (graphics : Graphics) (length : Nat) : Prop where
  pixelDepth : fields.pixelDepth = 8 ∨ fields.pixelDepth = 16 ∨ fields.pixelDepth = 24 ∨ fields.pixelDepth = 32
  wide : 0 < fields.width.toInt ∧ fields.width.toInt ≤ graphics.maxTextureSize
  high : 0 < fields.height.toInt ∧ fields.height.toInt ≤ graphics.maxTextureSize
  mapped : (fields.header []).imageType.ColorMapped →
    (fields.header []).colorMapType = .colorMapIncluded ∧ 0 < fields.colorMapLength.toInt ∧
      0 < (fields.header []).colorMapEntryBytes
  offset : 0 < (fields.header []).imageDataOffset
  complete : (fields.header []).imageDataOffset +
    fields.width.toInt * fields.height.toInt * (fields.header []).bytesPerPixel ≤ length

/-! ## What a loaded file says -/

theorem loadColorMapEntry_ok {header : TargaHeader} {r r' : BinaryReader} {color : Color32}
    (returned : loadColorMapEntry header.colorMapEntrySize r = .ok (color, r')) : 0 < header.colorMapEntryBytes := by
  unfold loadColorMapEntry at returned
  unfold TargaHeader.colorMapEntryBytes
  split_ifs at returned ⊢ <;> first | decide | cases returned

theorem loadColorMap_ok {header : TargaHeader} {r r' : BinaryReader} {colors : List Color32}
    (returned : loadColorMap header r = .ok (colors, r')) (mapped : header.imageType.ColorMapped) :
    header.colorMapType = .colorMapIncluded ∧ 0 < header.colorMapLength.toInt ∧ 0 < header.colorMapEntryBytes := by
  unfold loadColorMap at returned
  split_ifs at returned with included long
  · refine ⟨included, long, ?_⟩
    obtain ⟨count, same⟩ : ∃ count, header.colorMapLength.toInt.toNat = count + 1 :=
      ⟨header.colorMapLength.toInt.toNat - 1, by omega⟩
    rw [same, List.range_succ_eq_map, List.mapM_cons] at returned
    obtain ⟨color, mid, first, -⟩ := bind_eq_ok_iff.mp returned
    exact loadColorMapEntry_ok first
  · cases returned
  · cases returned

theorem loadColorMap_keepsBytes (header : TargaHeader) : KeepsBytes (loadColorMap header) := by
  have pair : ∀ bytes, KeepsBytes (colorOfPair bytes) := by
    intro bytes
    unfold colorOfPair
    split
    · exact .pure _
    · intro r a r' returned
      cases returned
  have raised : ∀ {α : Type} (fault : Fault), KeepsBytes (raise fault : Loading α) := by
    intro α fault r a r' returned
    cases returned
  have entry : KeepsBytes (loadColorMapEntry header.colorMapEntrySize) := by
    unfold loadColorMapEntry
    split_ifs
    · exact (KeepsBytes.readBytes 2).bind pair
    · exact (KeepsBytes.readBytes 2).bind pair
    · exact KeepsBytes.readByte.bind fun b => KeepsBytes.readByte.bind fun g => KeepsBytes.readByte.bind fun r => .pure _
    · exact KeepsBytes.readByte.bind fun a => KeepsBytes.readByte.bind fun b => KeepsBytes.readByte.bind fun g =>
        KeepsBytes.readByte.bind fun r => .pure _
    · exact raised _
  unfold loadColorMap
  split_ifs
  · exact KeepsBytes.mapM (fun _ => entry) _
  · exact raised _
  · exact .pure _
  · exact raised _
  · exact .pure _

theorem swapRedBlue_length {size : Nat} (data : List UInt8) {swapped : List UInt8}
    (returned : swapRedBlue size data = .ok swapped) : swapped.length = data.length := by
  induction data using swapRedBlue.induct size generalizing swapped with
  | case1 =>
    rw [swapRedBlue_nil] at returned
    cases returned
    rfl
  | case2 first second third rest ih =>
    rw [swapRedBlue] at returned
    obtain ⟨later, rested, same⟩ := bind_eq_ok.mp returned
    rw [← Except.ok.inj same]
    simp only [List.length_append, List.length_cons, ih rested, List.length_take, List.length_drop]
    omega
  | case3 data short none =>
    rw [swapRedBlue] at returned
    · cases returned
    · exact short
    · exact none

theorem new_ok {graphics : Graphics} {width height : Int} {format : TextureFormat} {texture : RawTexture}
    (returned : RawTexture.new graphics width height format = .ok texture) :
    (0 < width ∧ width ≤ graphics.maxTextureSize ∧ 0 < height ∧ height ≤ graphics.maxTextureSize) ∧
      texture = ⟨width, height, format, []⟩ := by
  unfold RawTexture.new at returned
  split at returned
  · rename_i fits
    exact ⟨fits, (Except.ok.inj returned).symm⟩
  · cases returned

theorem loadRawTextureData_ok {graphics : Graphics} {texture texture' : RawTexture} {data : List UInt8}
    (returned : texture.loadRawTextureData graphics data = .ok texture') : texture.size ≤ data.length := by
  unfold RawTexture.loadRawTextureData at returned
  split at returned
  · cases returned
  · rename_i enough
    exact not_lt.mp (not_or.mp enough).1

theorem loadTexture_ok {graphics : Graphics} {header : TargaHeader}
    (depth : header.pixelDepth = 8 ∨ header.pixelDepth = 16 ∨ header.pixelDepth = 24 ∨ header.pixelDepth = 32)
    {data : List UInt8} {texture : RawTexture}
    (returned : loadTexture graphics header (depthFormat header.pixelDepth) data = .ok texture) :
    (0 < header.width.toInt ∧ header.width.toInt ≤ graphics.maxTextureSize ∧ 0 < header.height.toInt ∧
      header.height.toInt ≤ graphics.maxTextureSize) ∧
      (header.width.toInt * header.height.toInt).toNat * (header.pixelDepth.toNat / 8) ≤ data.length := by
  unfold loadTexture at returned
  obtain ⟨created, new, returned⟩ := bind_eq_ok.mp returned
  obtain ⟨fits, rfl⟩ := new_ok new
  refine ⟨fits, ?_⟩
  rcases depth with depth | depth | depth | depth <;> rw [depth] at returned ⊢
  · exact loadRawTextureData_ok returned
  · exact loadRawTextureData_ok returned
  · obtain ⟨swapped, exchanged, returned⟩ := bind_eq_ok.mp returned
    rw [← swapRedBlue_length data exchanged]
    exact loadRawTextureData_ok returned
  · obtain ⟨swapped, exchanged, returned⟩ := bind_eq_ok.mp returned
    obtain ⟨created', new', returned⟩ := bind_eq_ok.mp returned
    obtain ⟨-, rfl⟩ := new_ok new'
    rw [← swapRedBlue_length data exchanged]
    exact loadRawTextureData_ok returned

/-- Rows that are read one after another are the bytes ahead, as far as they go. -/
theorem readRows_apply (size : Nat) {γ : Type} (xs : List γ) (r : BinaryReader) :
    ∃ rows r', (xs.mapM fun _ => readBytes size : Loading (List (List UInt8))) r = .ok (rows, r') ∧
      rows.flatten = r.ahead.take (xs.length * size) := by
  induction xs generalizing r with
  | nil => exact ⟨[], r, rfl, by simp⟩
  | cons x rest ih =>
    obtain ⟨rows, r', returned, all⟩ := ih (r.advance (r.ahead.take size).length)
    refine ⟨r.ahead.take size :: rows, r', ?_, ?_⟩
    · rw [List.mapM_cons, bind_ok (readBytes_apply size r), bind_ok returned]
      rfl
    · have behind : (r.advance (r.ahead.take size).length).ahead = r.ahead.drop size := by
        rw [BinaryReader.advance_ahead, List.length_take]
        rcases Nat.le_total size r.ahead.length with enough | few
        · rw [Nat.min_eq_left enough]
        · rw [Nat.min_eq_right few, List.drop_length, List.drop_eq_nil_of_le few]
      rw [List.flatten_cons, all, behind, List.length_cons, Nat.add_mul, Nat.one_mul, Nat.add_comm, List.take_add]

theorem alignRows_length (reverseRows reverseEach : Bool) (rows : List (List UInt8)) :
    (alignRows reverseRows reverseEach 0 rows).length = rows.flatten.length := by
  have lengths : ∀ rows : List (List UInt8), (rows.flatMap fun row =>
      (if reverseEach then row.reverse else row) ++ List.replicate 0 0).length = rows.flatten.length := by
    intro rows
    induction rows with
    | nil => rfl
    | cons row rest ih =>
      rw [List.flatMap_cons, List.length_append, ih, List.flatten_cons]
      simp only [List.length_append, List.replicate_zero, List.length_nil, Nat.add_zero]
      split
      · rw [List.length_reverse]
      · rfl
  unfold alignRows
  rw [lengths]
  split
  · rw [List.length_flatten, List.length_flatten, List.map_reverse, List.sum_reverse]
  · rfl

/-! ## Acceptance -/

section
variable {fields : Fields} {tail : List UInt8}

theorem loadTGAHeaderInfo_inv {r r' : BinaryReader} {header : TargaHeader} (file : r.bytes = fields.bytes ++ tail)
    (returned : loadTGAHeaderInfo r = .ok (header, r')) :
    (fields.pixelDepth = 8 ∨ fields.pixelDepth = 16 ∨ fields.pixelDepth = 24 ∨ fields.pixelDepth = 32) ∧
      ∃ text colors mid, header = { fields.header text with colorMap := colors } ∧
        loadColorMap (fields.header text) mid = .ok (colors, r') ∧ mid.bytes = r.bytes := by
  unfold loadTGAHeaderInfo at returned
  rw [bind_ok (show (seekBegin 0 : Loading Unit) r = .ok ((), ⟨r.bytes, 0⟩) from rfl)] at returned
  obtain ⟨header', mid, fieldsRead, returned⟩ := bind_eq_ok_iff.mp returned
  obtain ⟨colors, last, colorMap, returned⟩ := bind_eq_ok_iff.mp returned
  cases returned
  have next : (BinaryReader.mk r.bytes 0).ahead = fields.bytes ++ tail := file
  by_cases depth : fields.pixelDepth = 8 ∨ fields.pixelDepth = 16 ∨ fields.pixelDepth = 24 ∨ fields.pixelDepth = 32
  · rw [loadHeaderFields_apply next depth] at fieldsRead
    cases fieldsRead
    exact ⟨depth, _, colors, _, rfl, colorMap, rfl⟩
  · rw [loadHeaderFields_continues fields _ tail next,
      show checkPixelDepth fields.pixelDepth = raise _ from if_neg depth] at fieldsRead
    cases fieldsRead

theorem loadImageBytes_inv {header : TargaHeader} (plain : ¬header.imageType.RunLengthEncoded) {padding : Int}
    {r r' : BinaryReader} {data : List UInt8} (returned : loadImageBytes header padding r = .ok (data, r')) :
    0 < header.imageDataOffset ∧ ∃ rows mid, data = alignRows (rowsReverse header.firstPixelDestination)
        (eachRowReverse header.firstPixelDestination) padding.toNat rows ∧
      ((List.range header.height.toInt.toNat).mapM fun _ => readBytes header.imageRowByteSize : Loading (List (List UInt8)))
        ⟨r.bytes, header.imageDataOffset.toNat⟩ = .ok (rows, mid) := by
  unfold loadImageBytes at returned
  split_ifs at returned with present negative
  · cases returned
  · obtain ⟨offset, same⟩ := Int.eq_ofNat_of_zero_le present.le
    rw [same] at returned ⊢
    rw [bind_ok (seekBegin_apply _ _)] at returned
    obtain ⟨rows, mid, read, returned⟩ := bind_eq_ok_iff.mp returned
    cases returned
    unfold loadRows at read
    rw [if_neg plain] at read
    exact ⟨by omega, rows, _, rfl, read⟩
  · cases returned

theorem accepted_of_loaded {graphics : Graphics} (free : ExtensionFree (fields.bytes ++ tail))
    (plain : fields.imageType = 1 ∨ fields.imageType = 2 ∨ fields.imageType = 3)
    (aligned : 4 ∣ fields.width.toInt * (fields.header []).bytesPerPixel) {texture : RawTexture}
    (loaded : loadTargaImage graphics (fields.bytes ++ tail) = .ok texture) :
    fields.Accepted graphics (fields.bytes ++ tail).length := by
  have long : footerSignatureOffsetFromEnd ≤ (fields.bytes ++ tail).length := by
    rw [List.length_append, fields.bytes_length]
    exact Nat.le_add_right _ _
  obtain ⟨format, footer, r₁, footerInfo, sameFile, none⟩ := loadTGAFooterInfo_ok long free
  unfold loadTargaImage at loaded
  rw [if_pos (lt_of_lt_of_le (by decide) long)] at loaded
  obtain ⟨⟨images, r⟩, returned, -⟩ := map_eq_ok.mp loaded
  unfold targaImage at returned
  rw [bind_ok footerInfo] at returned
  obtain ⟨header, r₂, headerInfo, returned⟩ := bind_eq_ok_iff.mp returned
  rw [bind_ok (loadTGAExtensionArea_none none header r₂)] at returned
  unfold loadTGAImage at returned
  obtain ⟨data, r₃, imageBytes, returned⟩ := bind_eq_ok_iff.mp returned
  obtain ⟨image, r₄, textured, -⟩ := bind_eq_ok_iff.mp returned
  obtain ⟨texture', textured, -⟩ := map_eq_ok.mp textured
  obtain ⟨depth, text, colors, mid, rfl, colorMap, kept⟩ := loadTGAHeaderInfo_inv sameFile headerInfo
  have file : r₂.bytes = fields.bytes ++ tail := by rw [loadColorMap_keepsBytes _ _ _ _ colorMap, kept, sameFile]
  have notEncoded : ¬(ImageType.ofByte fields.imageType).RunLengthEncoded := by
    rcases plain with type | type | type <;> rw [type] <;> decide
  obtain ⟨present, rows, last, rfl, read⟩ := loadImageBytes_inv notEncoded imageBytes
  rw [getPixelFormat_new format depth] at textured
  obtain ⟨fits, enough⟩ := loadTexture_ok depth textured
  obtain ⟨wide, narrow, high, low⟩ := fits
  obtain ⟨width, columns⟩ := Int.eq_ofNat_of_zero_le (show 0 ≤ fields.width.toInt from wide.le)
  obtain ⟨height, lines⟩ := Int.eq_ofNat_of_zero_le (show 0 ≤ fields.height.toInt from high.le)
  have padding : paddingOf fields.width.toInt fields.pixelDepth = 0 := paddingOf_eq_zero wide.le depth aligned
  obtain ⟨offset, offsetEq⟩ := Int.eq_ofNat_of_zero_le (show 0 ≤ (fields.header []).imageDataOffset from present.le)
  have rowSize : (fields.header []).imageRowByteSize = (width * (fields.pixelDepth.toNat / 8) : Nat) := by
    change fields.width.toInt * ((fields.pixelDepth.toNat / 8 : Nat) : Int) = _
    rw [columns, Nat.cast_mul]
  change ((List.range fields.height.toInt.toNat).mapM fun _ => readBytes (fields.header []).imageRowByteSize :
    Loading (List (List UInt8))) ⟨r₂.bytes, (fields.header []).imageDataOffset.toNat⟩ = .ok (rows, last) at read
  rw [rowSize, offsetEq, file, lines, Int.toNat_natCast, Int.toNat_natCast] at read
  obtain ⟨rows', last', again, all⟩ := readRows_apply (width * (fields.pixelDepth.toNat / 8)) (List.range height)
    ⟨fields.bytes ++ tail, offset⟩
  rw [again] at read
  cases read
  change (fields.width.toInt * fields.height.toInt).toNat * (fields.pixelDepth.toNat / 8) ≤
    (alignRows _ _ (paddingOf fields.width.toInt fields.pixelDepth).toNat rows).length at enough
  rw [padding, Int.toNat_zero, alignRows_length, all, columns, lines, ← Nat.cast_mul, Int.toNat_natCast, List.length_take,
    BinaryReader.ahead, List.length_drop] at enough
  have bytesPerPixel : (fields.header []).bytesPerPixel = (fields.pixelDepth.toNat / 8 : Nat) := rfl
  refine ⟨depth, ⟨wide, narrow⟩, ⟨high, low⟩, ?_, present, ?_⟩
  · exact loadColorMap_ok colorMap
  · have some : 0 < width * height * (fields.pixelDepth.toNat / 8) := by
      have one : 0 < fields.pixelDepth.toNat / 8 := by
        rcases depth with same | same | same | same <;> rw [same] <;> decide
      have wide' : 0 < fields.width.toInt := wide
      have high' : 0 < fields.height.toInt := high
      rw [columns] at wide'
      rw [lines] at high'
      exact Nat.mul_pos (Nat.mul_pos (by omega) (by omega)) one
    rw [offsetEq, columns, lines, bytesPerPixel, ← Nat.cast_mul, ← Nat.cast_mul, ← Nat.cast_add, Nat.cast_le]
    have inside := enough.trans (Nat.min_le_right _ _)
    simp only at inside
    omega

variable {graphics : Graphics}

/-- The colour map of an accepted file, where it is needed, is complete. -/
theorem Fields.Accepted.loadColorMap {graphics : Graphics}
    (accepted : fields.Accepted graphics (fields.bytes ++ tail).length) {r : BinaryReader}
    (next : r.ahead = tail.drop (tail.take fields.imageIDLength.toNat).length) :
    ∃ colors r', loadColorMap (fields.header (tail.take fields.imageIDLength.toNat)) r = .ok (colors, r') := by
  by_cases mapped : (fields.header []).imageType.ColorMapped
  · obtain ⟨included, long, positive⟩ := accepted.mapped mapped
    obtain ⟨count, countEq⟩ := Int.eq_ofNat_of_zero_le long.le
    obtain ⟨size, sizeEq⟩ := Int.eq_ofNat_of_zero_le positive.le
    have complete := accepted.complete
    have area : 0 ≤ fields.width.toInt * fields.height.toInt * (fields.header []).bytesPerPixel :=
      mul_nonneg (mul_nonneg accepted.wide.1.le accepted.high.1.le) (Int.natCast_nonneg _)
    have offset : (fields.header []).imageDataOffset = (18 + fields.imageIDLength.toNat + count * size : Nat) := by
      change (18 : Int) + fields.imageIDLength.toNat + fields.colorMapLength.toInt * (fields.header []).colorMapEntryBytes = _
      rw [countEq, sizeEq]
      push_cast
      rfl
    rw [offset, List.length_append, fields.bytes_length, headerByteLength] at complete
    have text : (tail.take fields.imageIDLength.toNat).length = fields.imageIDLength.toNat :=
      List.length_take_of_le (by omega)
    let front : Front := ⟨fields, tail.take fields.imageIDLength.toNat,
      (tail.drop fields.imageIDLength.toNat).take (count * size)⟩
    have wellFormed : front.WellFormed := by
      refine ⟨text, accepted.pixelDepth, accepted.wide.1, accepted.high.1, ?_, accepted.mapped⟩
      change (((tail.drop fields.imageIDLength.toNat).take (count * size)).length : Int) =
        fields.colorMapLength.toInt * (fields.header []).colorMapEntryBytes
      rw [List.length_take_of_le (by rw [List.length_drop]; omega), countEq, sizeEq, Nat.cast_mul]
    obtain ⟨string, colors, part, reads⟩ := loadColorMap_reads wellFormed
    have cut : ∃ rest, r.ahead = string ++ rest := by
      rcases part with rfl | rfl
      · exact ⟨_, rfl⟩
      · exact ⟨_, by rw [next, text]; exact (List.take_append_drop (count * size) _).symm⟩
    obtain ⟨rest, ahead⟩ := cut
    exact ⟨colors, _, reads r rest ahead⟩
  · change ¬(fields.header (tail.take fields.imageIDLength.toNat)).imageType.ColorMapped at mapped
    unfold Targa.loadColorMap
    rw [if_neg mapped, if_neg mapped, ite_self]
    exact ⟨[], r, rfl⟩

theorem Fields.Accepted.loadTexture {length : Nat} (accepted : fields.Accepted graphics length) {data : List UInt8}
    (size : data.length = fields.height.toInt.toNat * fields.width.toInt.toNat * (fields.pixelDepth.toNat / 8)) :
    ∃ texture, loadTexture graphics (fields.header []) (depthFormat fields.pixelDepth) data = .ok texture := by
  let front : Front := ⟨{ fields with imageIDLength := 0, colorMapType := 0, imageType := 2, colorMapLength := 0 }, [], []⟩
  have wellFormed : front.WellFormed := by
    refine ⟨rfl, accepted.pixelDepth, accepted.wide.1, accepted.high.1, ?_, ?_⟩
    · exact (zero_mul _).symm
    · intro mapped
      exact absurd mapped (by decide : ¬(ImageType.ofByte 2).ColorMapped)
  obtain ⟨pixels, all, count, sized⟩ := exists_pieces _ _ data size
  have loaded := loadTexture_pixels wellFormed accepted.wide.2 accepted.high.2 count sized
  rw [all] at loaded
  exact ⟨_, loaded⟩

theorem Fields.Accepted.header_loads (accepted : fields.Accepted graphics (fields.bytes ++ tail).length) :
    ∃ colors, ∀ r : BinaryReader, r.bytes = fields.bytes ++ tail → ∃ r', loadTGAHeaderInfo r =
      .ok ({ fields.header (tail.take fields.imageIDLength.toNat) with colorMap := colors }, r') ∧
        r'.bytes = fields.bytes ++ tail := by
  have next : (BinaryReader.mk (fields.bytes ++ tail) 0).ahead = fields.bytes ++ tail := rfl
  have behind : (((BinaryReader.mk (fields.bytes ++ tail) 0).advance headerByteLength).advance
      (tail.take fields.imageIDLength.toNat).length).ahead = tail.drop (tail.take fields.imageIDLength.toNat).length := by
    rw [BinaryReader.advance_ahead, ← fields.bytes_length, BinaryReader.ahead_behind next]
  obtain ⟨colors, r₂, colorMap⟩ := accepted.loadColorMap behind
  refine ⟨colors, fun r file => ⟨r₂, ?_, loadColorMap_keepsBytes _ _ _ _ colorMap⟩⟩
  unfold loadTGAHeaderInfo
  rw [bind_ok (show (seekBegin 0 : Loading Unit) r = .ok ((), ⟨r.bytes, 0⟩) from rfl), file,
    bind_ok (loadHeaderFields_apply next accepted.pixelDepth), bind_ok colorMap]
  rfl

-- The file holds every byte of the pixels, so that all rows are full.
theorem Fields.Accepted.image_loads (accepted : fields.Accepted graphics (fields.bytes ++ tail).length)
    (plain : fields.imageType = 1 ∨ fields.imageType = 2 ∨ fields.imageType = 3)
    (aligned : 4 ∣ fields.width.toInt * (fields.header []).bytesPerPixel) (colors : List Color32) :
    ∃ data, data.length = fields.height.toInt.toNat * fields.width.toInt.toNat * (fields.pixelDepth.toNat / 8) ∧
      ∀ r : BinaryReader, r.bytes = fields.bytes ++ tail → ∃ r', loadImageBytes
        { fields.header (tail.take fields.imageIDLength.toNat) with colorMap := colors }
        (paddingOf fields.width.toInt fields.pixelDepth) r = .ok (data, r') := by
  obtain ⟨width, columns⟩ := Int.eq_ofNat_of_zero_le accepted.wide.1.le
  obtain ⟨height, lines⟩ := Int.eq_ofNat_of_zero_le accepted.high.1.le
  obtain ⟨offset, offsetEq⟩ := Int.eq_ofNat_of_zero_le accepted.offset.le
  have padding : paddingOf fields.width.toInt fields.pixelDepth = 0 :=
    paddingOf_eq_zero accepted.wide.1.le accepted.pixelDepth aligned
  have complete := accepted.complete
  have bytesPerPixel : (fields.header []).bytesPerPixel = (fields.pixelDepth.toNat / 8 : Nat) := rfl
  rw [offsetEq, columns, lines, bytesPerPixel, ← Nat.cast_mul, ← Nat.cast_mul, ← Nat.cast_add, Nat.cast_le] at complete
  have area : width * height * (fields.pixelDepth.toNat / 8) = height * (width * (fields.pixelDepth.toNat / 8)) := by ring
  have body : (((fields.bytes ++ tail).drop offset).take (height * (width * (fields.pixelDepth.toNat / 8)))).length =
      height * (width * (fields.pixelDepth.toNat / 8)) := by
    apply List.length_take_of_le
    rw [List.length_drop]
    omega
  obtain ⟨rows, all, count, full⟩ := exists_pieces _ _ _ body
  have rowed : ({ fields.header (tail.take fields.imageIDLength.toNat) with colorMap := colors } : TargaHeader).Rowed
      (width * (fields.pixelDepth.toNat / 8)) (fields.pixelDepth.toNat / 8) := by
    refine ⟨?_, rfl, Nat.dvd_mul_left _ _⟩
    change fields.width.toInt * ((fields.pixelDepth.toNat / 8 : Nat) : Int) = _
    rw [columns, Nat.cast_mul]
  have notEncoded : ¬(ImageType.ofByte fields.imageType).RunLengthEncoded := by
    rcases plain with type | type | type <;> rw [type] <;> decide
  have fullRows : FullRows { fields.header (tail.take fields.imageIDLength.toNat) with colorMap := colors }
      (width * (fields.pixelDepth.toNat / 8)) rows := ⟨lines.trans (by rw [count]), full⟩
  have reads := loadRows_plain rowed notEncoded fullRows
  have cut : (BinaryReader.mk (fields.bytes ++ tail) offset).ahead = rows.flatten ++
      ((fields.bytes ++ tail).drop offset).drop (height * (width * (fields.pixelDepth.toNat / 8))) := by
    rw [all, List.take_append_drop]
    rfl
  refine ⟨alignRows (rowsReverse (fields.header []).firstPixelDestination)
    (eachRowReverse (fields.header []).firstPixelDestination) 0 rows, ?_, fun r file =>
      ⟨(BinaryReader.mk (fields.bytes ++ tail) offset).advance rows.flatten.length, ?_⟩⟩
  · rw [alignRows_length, all, body, columns, lines, Int.toNat_natCast, Int.toNat_natCast]
    ring
  · have place : ({ fields.header (tail.take fields.imageIDLength.toNat) with colorMap := colors } : TargaHeader).imageDataOffset =
        offset := offsetEq
    have positive := accepted.offset
    rw [offsetEq] at positive
    unfold loadImageBytes
    rw [place, if_pos positive, padding, if_neg (lt_irrefl 0), bind_ok (seekBegin_apply _ _), file, bind_ok (reads _ _ cut)]
    rfl

theorem loaded_of_accepted (free : ExtensionFree (fields.bytes ++ tail))
    (plain : fields.imageType = 1 ∨ fields.imageType = 2 ∨ fields.imageType = 3)
    (aligned : 4 ∣ fields.width.toInt * (fields.header []).bytesPerPixel)
    (accepted : fields.Accepted graphics (fields.bytes ++ tail).length) :
    ∃ texture, loadTargaImage graphics (fields.bytes ++ tail) = .ok texture := by
  have long : footerSignatureOffsetFromEnd ≤ (fields.bytes ++ tail).length := by
    rw [List.length_append, fields.bytes_length]
    exact Nat.le_add_right _ _
  obtain ⟨colors, headerInfo⟩ := accepted.header_loads
  obtain ⟨data, size, imageBytes⟩ := accepted.image_loads plain aligned colors
  rw [loadTargaImage_eq graphics long free headerInfo accepted.pixelDepth imageBytes]
  exact accepted.loadTexture size

/-- A plain file without padding is loaded if and only if its header can be loaded and no byte
of its pixels is missing. -/
theorem loadTargaImage_accepts_iff (free : ExtensionFree (fields.bytes ++ tail))
    (plain : fields.imageType = 1 ∨ fields.imageType = 2 ∨ fields.imageType = 3)
    (aligned : 4 ∣ fields.width.toInt * (fields.header []).bytesPerPixel) :
    (∃ texture, loadTargaImage graphics (fields.bytes ++ tail) = .ok texture) ↔
      fields.Accepted graphics (fields.bytes ++ tail).length :=
  ⟨fun ⟨_, loaded⟩ => accepted_of_loaded free plain aligned loaded, loaded_of_accepted free plain aligned⟩

theorem loadTargaImage_accepts_iff_small :
    (∃ texture, loadTargaImage ⟨16384, true⟩ ((Fields.mk 0 0 2 0 0 0 0 0 4 1 24 32).bytes ++ [1, 2, 3]) = .ok texture) ↔
      (Fields.mk 0 0 2 0 0 0 0 0 4 1 24 32).Accepted ⟨16384, true⟩ ((Fields.mk 0 0 2 0 0 0 0 0 4 1 24 32).bytes ++ [1, 2, 3]).length :=
  loadTargaImage_accepts_iff (fun signed => absurd signed (by decide)) (.inr (.inl rfl)) (by decide)

end

end RayTraceRenderer.Targa
