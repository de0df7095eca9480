import RayTraceRenderer.Targa.Rows

/-! Files that follow the format are loaded.

In front of the image data stand the header, the image ID and the colour map; behind it
anything may stand that is not taken for an extension area.
-/

set_option autoImplicit false

namespace RayTraceRenderer.Targa

open Reading

structure Fields where
  imageIDLength : UInt8
  colorMapType : UInt8
  imageType : UInt8
  colorMapFirstEntryIndex : Int16
  colorMapLength : Int16
  colorMapEntrySize : UInt8
  xOrigin : Int16
  yOrigin : Int16
  width : Int16
  height : Int16
  pixelDepth : UInt8
  imageDescriptor : UInt8
  deriving DecidableEq

namespace Fields

def bytes (fields : Fields) : List UInt8 :=
  [fields.imageIDLength] ++ ([fields.colorMapType] ++ ([fields.imageType] ++
    (LittleEndian.ofInt16 fields.colorMapFirstEntryIndex ++ (LittleEndian.ofInt16 fields.colorMapLength ++
      ([fields.colorMapEntrySize] ++ (LittleEndian.ofInt16 fields.xOrigin ++ (LittleEndian.ofInt16 fields.yOrigin ++
        (LittleEndian.ofInt16 fields.width ++ (LittleEndian.ofInt16 fields.height ++
          ([fields.pixelDepth] ++ [fields.imageDescriptor]))))))))))

def header (fields : Fields) (imageID : List UInt8) : TargaHeader where
  imageIDLength := fields.imageIDLength
  colorMapType := .ofByte fields.colorMapType
  imageType := .ofByte fields.imageType
  colorMapFirstEntryIndex := fields.colorMapFirstEntryIndex
  colorMapLength := fields.colorMapLength
  colorMapEntrySize := fields.colorMapEntrySize
  xOrigin := fields.xOrigin
  yOrigin := fields.yOrigin
  width := fields.width
  height := fields.height
  pixelDepth := fields.pixelDepth
  attributeBits := UInt8.ofNat (getBits fields.imageDescriptor 0 4)
  verticalTransferOrder := .ofBit (getBits fields.imageDescriptor 5 1)
  horizontalTransferOrder := .ofBit (getBits fields.imageDescriptor 4 1)
  imageIDValue := asciiText imageID
  colorMap := []

theorem bytes_length (fields : Fields) : fields.bytes.length = headerByteLength := by
  simp [bytes, headerByteLength]

end Fields

/-- What stands in front of the image data. -/
structure Front extends Fields where
  imageID : List UInt8
  colorMap : List UInt8
  deriving DecidableEq

namespace Front

def bytes (front : Front) : List UInt8 := front.toFields.bytes ++ front.imageID ++ front.colorMap

def header (front : Front) : TargaHeader := front.toFields.header front.imageID

/-- A colour mapped image has a colour map of entries that the reader knows. -/
structure WellFormed (front : Front) : Prop where
  imageID : front.imageID.length = front.imageIDLength.toNat
  pixelDepth : front.pixelDepth = 8 ∨ front.pixelDepth = 16 ∨ front.pixelDepth = 24 ∨ front.pixelDepth = 32
  width : 0 < front.width.toInt
  height : 0 < front.height.toInt
  colorMap : (front.colorMap.length : Int) = front.colorMapLength.toInt * front.header.colorMapEntryBytes
  mapped : front.header.imageType.ColorMapped →
    front.header.colorMapType = .colorMapIncluded ∧ 0 < front.colorMapLength.toInt ∧
      0 < front.header.colorMapEntryBytes

end Front

section
variable {front : Front}

theorem checkPixelDepth_continues (fields : Fields) : Continues (do
      checkPixelDepth fields.pixelDepth
      let imageDescriptor ← readByte
      let imageIDValue ← loadImageID fields.imageIDLength
      return { fields.header [] with
        attributeBits := UInt8.ofNat (getBits imageDescriptor 0 4)
        verticalTransferOrder := .ofBit (getBits imageDescriptor 5 1)
        horizontalTransferOrder := .ofBit (getBits imageDescriptor 4 1)
        imageIDValue }) [fields.imageDescriptor] (do
      checkPixelDepth fields.pixelDepth
      let imageIDValue ← loadImageID fields.imageIDLength
      return { fields.header [] with imageIDValue }) := by
  by_cases depth : fields.pixelDepth = 8 ∨ fields.pixelDepth = 16 ∨ fields.pixelDepth = 24 ∨ fields.pixelDepth = 32
  · rw [show checkPixelDepth fields.pixelDepth = pure () from if_pos depth, pure_bind, pure_bind]
    exact (readByte_reads _).continues _
  · rw [show checkPixelDepth fields.pixelDepth = raise _ from if_neg depth]
    exact fun r rest next => rfl

theorem loadHeaderFields_continues (fields : Fields) : Continues loadHeaderFields fields.bytes (do
    checkPixelDepth fields.pixelDepth
    let imageIDValue ← loadImageID fields.imageIDLength
    return { fields.header [] with imageIDValue }) := by
  unfold loadHeaderFields Fields.bytes
  apply ((readByte_reads _).continues _).trans
  apply ((readByte_reads _).continues _).trans
  apply ((readByte_reads _).continues _).trans
  apply ((readInt16_reads _).continues _).trans
  apply ((readInt16_reads _).continues _).trans
  apply ((readByte_reads _).continues _).trans
  apply ((readInt16_reads _).continues _).trans
  apply ((readInt16_reads _).continues _).trans
  apply ((readInt16_reads _).continues _).trans
  apply ((readInt16_reads _).continues _).trans
  apply ((readByte_reads _).continues _).trans
  exact checkPixelDepth_continues fields

/-- The image ID may be cut off by the end of the file. -/
theorem loadImageID_apply (imageIDLength : UInt8) (r : BinaryReader) :
    loadImageID imageIDLength r = .ok (asciiText (r.ahead.take imageIDLength.toNat),
      r.advance (r.ahead.take imageIDLength.toNat).length) := by
  unfold loadImageID
  split
  · exact map_ok (readBytes_apply _ r)
  · rename_i none
    rw [Nat.eq_zero_of_not_pos none]
    rfl

theorem loadHeaderFields_apply {fields : Fields} {r : BinaryReader} {tail : List UInt8}
    (next : r.ahead = fields.bytes ++ tail)
    (depth : fields.pixelDepth = 8 ∨ fields.pixelDepth = 16 ∨ fields.pixelDepth = 24 ∨ fields.pixelDepth = 32) :
    loadHeaderFields r = .ok (fields.header (tail.take fields.imageIDLength.toNat),
      (r.advance headerByteLength).advance (tail.take fields.imageIDLength.toNat).length) := by
  rw [loadHeaderFields_continues fields r tail next,
    show checkPixelDepth fields.pixelDepth = pure () from if_pos depth, pure_bind,
    bind_ok (loadImageID_apply fields.imageIDLength _), BinaryReader.ahead_behind next, fields.bytes_length]
  rfl

theorem loadColorMapEntry_reads {header : TargaHeader} {entry : List UInt8}
    (length : (entry.length : Int) = header.colorMapEntryBytes) (positive : 0 < header.colorMapEntryBytes) :
    ∃ color, Reads (loadColorMapEntry header.colorMapEntrySize) entry color := by
  have pair : entry.length = 2 → ∃ color, Reads (readBytes 2 >>= colorOfPair : Loading Color32) entry color := by
    intro two
    obtain ⟨first, second, rfl⟩ := List.length_eq_two.mp two
    exact ⟨getColorFrom2Bytes second first, (readBytes_reads [first, second]).bind_pure (Reads.pure _)⟩
  unfold TargaHeader.colorMapEntryBytes at length positive
  unfold loadColorMapEntry
  split_ifs at length positive ⊢
  · exact pair (by omega)
  · exact pair (by omega)
  · have three : entry.length = 3 := by omega
    obtain ⟨b, g, r, rfl⟩ := List.length_eq_three.mp three
    exact ⟨⟨r, g, b, 255⟩, (readByte_reads b).bind ((readByte_reads g).bind
      ((readByte_reads r).bind_pure (Reads.pure _)))⟩
  · rcases entry with _ | ⟨a, _ | ⟨b, _ | ⟨g, _ | ⟨r, _ | ⟨next, rest⟩⟩⟩⟩⟩ <;>
      simp only [List.length_nil, List.length_cons] at length <;> try omega
    exact ⟨⟨r, g, b, a⟩, (readByte_reads a).bind ((readByte_reads b).bind ((readByte_reads g).bind
      ((readByte_reads r).bind_pure (Reads.pure _))))⟩
  · exact absurd positive (lt_irrefl 0)

/-- The colour map is read where it is needed, and passed over elsewhere. -/
theorem loadColorMap_reads (wellFormed : front.WellFormed) :
    ∃ string colors, (string = [] ∨ string = front.colorMap) ∧ Reads (loadColorMap front.header) string colors := by
  unfold loadColorMap
  by_cases mapped : front.header.imageType.ColorMapped
  · obtain ⟨included, long, positive⟩ := wellFormed.mapped mapped
    obtain ⟨count, countEq⟩ := Int.eq_ofNat_of_zero_le long.le
    obtain ⟨size, sizeEq⟩ := Int.eq_ofNat_of_zero_le positive.le
    have length := wellFormed.colorMap
    change (_ : Int) = front.header.colorMapLength.toInt * _ at length
    change front.header.colorMapLength.toInt = _ at countEq
    change 0 < front.header.colorMapLength.toInt at long
    rw [countEq, sizeEq, ← Nat.cast_mul] at length
    obtain ⟨entries, all, number, sizes⟩ := exists_pieces count size front.colorMap (Int.ofNat_inj.mp length)
    have each : ∀ entry : List UInt8, ∃ color, entry ∈ entries → Reads (loadColorMapEntry front.header.colorMapEntrySize) entry color := by
      intro entry
      by_cases member : entry ∈ entries
      · obtain ⟨color, read⟩ := loadColorMapEntry_reads (by rw [sizeEq, sizes entry member]) positive
        exact ⟨color, fun _ => read⟩
      · exact ⟨⟨0, 0, 0, 0⟩, fun inside => absurd inside member⟩
    choose color reads using each
    rw [if_pos included, if_pos mapped, if_pos long, countEq]
    have all' := Reads.repeated (List.range count) (entries.map fun entry => (entry, color entry))
      (by rw [List.length_range, List.length_map, number]) (by
        intro part member
        obtain ⟨entry, inside, rfl⟩ := List.mem_map.mp member
        exact reads entry inside)
    refine ⟨_, _, .inr ?_, all'⟩
    rw [List.flatMap_map, ← all]
    exact List.flatMap_id
  · refine ⟨[], [], .inl rfl, ?_⟩
    rw [if_neg mapped, if_neg mapped]
    split <;> exact Reads.pure []

/-! ## The footer -/

/-- A file that has the signature of the newer files at its end. -/
def Signed (file : List UInt8) : Prop :=
  asciiText ((file.drop (file.length - footerSignatureOffsetFromEnd)).take footerSignatureByteLength) =
    targaFooterASCIISignature

instance (file : List UInt8) : Decidable (Signed file) := inferInstanceAs (Decidable (_ = _))

/-- A file without a footer, or with one that points to no extension area. -/
def ExtensionFree (file : List UInt8) : Prop :=
  Signed file → footerByteLength ≤ file.length ∧
    (LittleEndian.toInt32 ((file.drop (file.length - footerByteLength)).take 4)).toInt ≤ 0

theorem loadTGAFooterInfo_ok {file : List UInt8} (long : footerSignatureOffsetFromEnd ≤ file.length)
    (free : ExtensionFree file) :
    ∃ format footer r, loadTGAFooterInfo (.ofBytes file) = .ok ((format, footer), r) ∧ r.bytes = file ∧
      footer.extensionAreaOffset.toInt ≤ 0 := by
  have first := map_ok (f := asciiText) (readBytes_apply (ε := Fault) footerSignatureByteLength
    ⟨file, file.length - footerSignatureOffsetFromEnd⟩)
  rw [show (BinaryReader.mk file (file.length - footerSignatureOffsetFromEnd)).ahead =
    file.drop (file.length - footerSignatureOffsetFromEnd) from rfl] at first
  unfold loadTGAFooterInfo
  rw [BinaryReader.ofBytes, bind_ok (seekEnd_apply (r := ⟨file, 0⟩) long), bind_ok first]
  by_cases signed : asciiText ((file.drop (file.length - footerSignatureOffsetFromEnd)).take footerSignatureByteLength) =
    targaFooterASCIISignature
  · obtain ⟨room, none⟩ := free signed
    rw [if_pos signed, bind_ok (seekEnd_apply (r := BinaryReader.advance ⟨file, _⟩ _) room)]
    have total : (file.drop (file.length - footerByteLength)).length = 26 := by
      rw [List.length_drop]
      exact Nat.sub_sub_self room
    generalize strings : file.drop (file.length - footerByteLength) = string at total none
    have reads : Reads (do
        let extensionAreaOffset ← readInt32
        let developerDirectoryOffset ← readInt32
        let _ ← readBytes footerSignatureByteLength
        let reservedCharacter ← asciiText <$> readBytes footerReservedCharByteLength
        return (TGAFormat.newTga, TargaFooter.mk extensionAreaOffset developerDirectoryOffset
          (asciiText ((file.drop (file.length - footerSignatureOffsetFromEnd)).take footerSignatureByteLength))
          reservedCharacter) : Loading (TGAFormat × TargaFooter))
        (string.take 4 ++ ((string.drop 4).take 4 ++ ((string.drop 8).take 16 ++ (string.drop 24).take 1)))
        (.newTga, ⟨LittleEndian.toInt32 (string.take 4), LittleEndian.toInt32 ((string.drop 4).take 4),
          asciiText ((file.drop (file.length - footerSignatureOffsetFromEnd)).take footerSignatureByteLength),
          asciiText ((string.drop 24).take 1)⟩) := by
      apply (readInt32_of_length (by rw [List.length_take, total]; rfl)).bind
      apply (readInt32_of_length (by rw [List.length_take, List.length_drop, total]; rfl)).bind
      apply (readBytes_of_length (by rw [List.length_take, List.length_drop, total]; rfl)).bind
      apply Reads.bind_pure (readBytes_of_length (by rw [List.length_take, List.length_drop, total]; rfl)).map
      exact Reads.pure _
    have next : (BinaryReader.mk file (file.length - footerByteLength)).ahead = (string.take 4 ++ ((string.drop 4).take 4 ++
        ((string.drop 8).take 16 ++ (string.drop 24).take 1))) ++ string.drop 25 := by
      rw [BinaryReader.ahead, strings]
      have last := string.drop_take_append_drop 24 1
      have third := string.drop_take_append_drop 8 16
      have second := string.drop_take_append_drop 4 4
      rw [List.append_assoc, List.append_assoc, List.append_assoc, last, third, second, List.take_append_drop]
    exact ⟨_, _, _, reads _ _ next, rfl, none⟩
  · rw [if_neg signed]
    exact ⟨.originalTga, .new, _, rfl, rfl, by decide⟩

/-! ## The image -/

/-- The format of a texture that is loaded from a file without an extension area. -/
def depthFormat (pixelDepth : UInt8) : TextureFormat :=
  if pixelDepth = 8 then .alpha8
  else if pixelDepth = 16 then .rgb565
  else if pixelDepth = 24 then .rgb24
  else .bgra32

theorem getPixelFormat_new (format : TGAFormat) {header : TargaHeader}
    (depth : header.pixelDepth = 8 ∨ header.pixelDepth = 16 ∨ header.pixelDepth = 24 ∨ header.pixelDepth = 32) :
    getPixelFormat format .new header = depthFormat header.pixelDepth := by
  have attributes : TargaExtensionArea.new.attributesType = 0 := rfl
  unfold getPixelFormat depthFormat
  rw [attributes]
  rcases depth with same | same | same | same <;> rw [same] <;> cases format <;> rfl

theorem paddingOf_nonneg {width : Int} (nonneg : 0 ≤ width) (pixelDepth : UInt8) : 0 ≤ paddingOf width pixelDepth := by
  have bits : 0 ≤ width * pixelDepth.toNat := mul_nonneg nonneg (Int.natCast_nonneg _)
  unfold paddingOf strideOf
  rw [Int.tdiv_eq_ediv_of_nonneg (by omega)]
  omega

theorem paddingOf_eq_zero {width : Int} (nonneg : 0 ≤ width) {pixelDepth : UInt8}
    (depth : pixelDepth = 8 ∨ pixelDepth = 16 ∨ pixelDepth = 24 ∨ pixelDepth = 32)
    (aligned : 4 ∣ width * (pixelDepth.toNat / 8 : Nat)) : paddingOf width pixelDepth = 0 := by
  have whole : pixelDepth.toNat = 8 * (pixelDepth.toNat / 8) := by
    rcases depth with same | same | same | same <;> rw [same] <;> rfl
  have bits : width * pixelDepth.toNat = 8 * (width * (pixelDepth.toNat / 8 : Nat)) := by
    conv_lhs => rw [whole]
    push_cast
    ring
  obtain ⟨words, same⟩ := aligned
  unfold paddingOf strideOf
  rw [bits, same, Int.tdiv_eq_ediv_of_nonneg (by have := mul_nonneg nonneg (Int.natCast_nonneg (pixelDepth.toNat / 8)); omega)]
  omega

theorem imageDataOffset_eq (wellFormed : front.WellFormed) : front.header.imageDataOffset = front.bytes.length := by
  have map := wellFormed.colorMap
  have parts : front.bytes.length = headerByteLength + front.imageID.length + front.colorMap.length := by
    rw [Front.bytes, List.length_append, List.length_append, front.toFields.bytes_length]
  rw [parts, wellFormed.imageID]
  push_cast
  rw [map]
  rfl

theorem loadRows_colors (header : TargaHeader) (colors : List Color32) :
    loadRows { header with colorMap := colors } = loadRows header := by
  have packets : ∀ bytesLeft image,
      loadPackets { header with colorMap := colors } bytesLeft image = loadPackets header bytesLeft image := by
    intro bytesLeft
    induction bytesLeft with
    | zero => exact fun image => rfl
    | succ bytesLeft ih =>
      intro image
      unfold loadPackets
      congr 1
      apply congrArg
      funext image'
      exact ih image'
  unfold loadRows
  simp only [packets]
  rfl

theorem loadTGAHeaderInfo_ok (wellFormed : front.WellFormed) (rest : List UInt8) :
    ∃ colors, ∀ r : BinaryReader, r.bytes = front.bytes ++ rest →
      ∃ r', loadTGAHeaderInfo r = .ok ({ front.header with colorMap := colors }, r') ∧
        r'.bytes = front.bytes ++ rest := by
  obtain ⟨string, colors, part, reads⟩ := loadColorMap_reads wellFormed
  have text : (front.imageID ++ (front.colorMap ++ rest)).take front.imageIDLength.toNat = front.imageID :=
    List.take_left' wellFormed.imageID
  have fields : loadHeaderFields ⟨front.bytes ++ rest, 0⟩ = .ok (front.header,
      (BinaryReader.mk (front.bytes ++ rest) 0).advance (front.toFields.bytes ++ front.imageID).length) := by
    have next : (BinaryReader.mk (front.bytes ++ rest) 0).ahead =
        front.toFields.bytes ++ (front.imageID ++ (front.colorMap ++ rest)) := by
      rw [BinaryReader.ahead, List.drop_zero, Front.bytes, List.append_assoc, List.append_assoc]
    rw [loadHeaderFields_apply next wellFormed.pixelDepth, text, BinaryReader.advance_advance, List.length_append, front.toFields.bytes_length]
    rfl
  have map : ∃ tail, front.colorMap ++ rest = string ++ tail := by
    rcases part with rfl | rfl
    · exact ⟨_, rfl⟩
    · exact ⟨_, rfl⟩
  obtain ⟨tail, cut⟩ := map
  have behind : (BinaryReader.mk (front.bytes ++ rest) 0).ahead = (front.toFields.bytes ++ front.imageID) ++ (string ++ tail) := by
    rw [BinaryReader.ahead, List.drop_zero, Front.bytes, ← cut, List.append_assoc]
  have colorMap := reads _ tail (BinaryReader.ahead_behind behind)
  refine ⟨colors, fun r file => ?_⟩
  have returned : loadTGAHeaderInfo r = .ok ({ front.header with colorMap := colors },
      ((BinaryReader.mk (front.bytes ++ rest) 0).advance (front.toFields.bytes ++ front.imageID).length).advance string.length) := by
    unfold loadTGAHeaderInfo
    rw [bind_ok (show (seekBegin 0 : Loading Unit) r = .ok ((), ⟨r.bytes, 0⟩) from rfl), file, bind_ok fields,
      bind_ok colorMap]
    rfl
  exact ⟨_, returned, rfl⟩

theorem loadImageBytes_ok (wellFormed : front.WellFormed) {body rest : List UInt8} {rows : List (List UInt8)}
    (colors : List Color32) (reads : Reads (loadRows front.header) body rows) (padding : Nat) {r : BinaryReader}
    (file : r.bytes = front.bytes ++ (body ++ rest)) :
    ∃ r', loadImageBytes { front.header with colorMap := colors } padding r =
      .ok (alignRows (rowsReverse front.header.firstPixelDestination) (eachRowReverse front.header.firstPixelDestination)
        padding rows, r') := by
  have offset : ({ front.header with colorMap := colors } : TargaHeader).imageDataOffset = front.bytes.length :=
    imageDataOffset_eq wellFormed
  have positive : 0 < front.bytes.length := by
    rw [Front.bytes, List.length_append, List.length_append, front.toFields.bytes_length, headerByteLength]
    omega
  have start : (BinaryReader.mk (front.bytes ++ (body ++ rest)) front.bytes.length).ahead = body ++ rest := List.drop_left
  refine ⟨(BinaryReader.mk (front.bytes ++ (body ++ rest)) front.bytes.length).advance body.length, ?_⟩
  unfold loadImageBytes
  rw [offset, if_pos (Int.natCast_pos.mpr positive), if_neg (Int.not_lt.mpr (Int.natCast_nonneg _)),
    bind_ok (seekBegin_apply _ _), loadRows_colors, file, bind_ok (reads _ _ start)]
  rfl

theorem loadTGAExtensionArea_none {footer : TargaFooter} (none : footer.extensionAreaOffset.toInt ≤ 0)
    (header : TargaHeader) (r : BinaryReader) : loadTGAExtensionArea footer header r = .ok (.new, r) := by
  unfold loadTGAExtensionArea
  rw [if_neg (not_lt.mpr none)]
  rfl

/-- Without an extension area, the header and the image data say all. -/
theorem loadTargaImage_data (graphics : Graphics) {file : List UInt8} (long : footerSignatureOffsetFromEnd ≤ file.length)
    (free : ExtensionFree file) {header : TargaHeader}
    (headerInfo : ∀ r : BinaryReader, r.bytes = file → ∃ r', loadTGAHeaderInfo r = .ok (header, r') ∧ r'.bytes = file)
    (depth : header.pixelDepth = 8 ∨ header.pixelDepth = 16 ∨ header.pixelDepth = 24 ∨ header.pixelDepth = 32) :
    ∃ r : BinaryReader, r.bytes = file ∧ loadTargaImage graphics file =
      ((loadImageBytes header (paddingOf header.width.toInt header.pixelDepth) r).map Prod.fst).bind
        (loadTexture graphics header (depthFormat header.pixelDepth)) := by
  obtain ⟨format, footer, r₁, footerInfo, sameFile, none⟩ := loadTGAFooterInfo_ok long free
  obtain ⟨r₂, loadedHeader, sameFile'⟩ := headerInfo r₁ sameFile
  have some : 0 < file.length := lt_of_lt_of_le (by decide) long
  refine ⟨r₂, sameFile', ?_⟩
  unfold loadTargaImage
  rw [if_pos some]
  unfold targaImage
  rw [bind_ok footerInfo]
  simp only
  rw [bind_ok loadedHeader, bind_ok (loadTGAExtensionArea_none none header r₂)]
  unfold loadTGAImage
  rw [getPixelFormat_new format depth, bind_apply]
  cases loadImageBytes header (paddingOf header.width.toInt header.pixelDepth) r₂ with
  | error fault => rfl
  | ok result =>
    simp only [Except.bind, Except.map]
    rw [bind_apply]
    cases loadTexture graphics header (depthFormat header.pixelDepth) result.1 with
    | error fault => rfl
    | ok image => rfl

theorem loadTargaImage_eq (graphics : Graphics) {file : List UInt8} (long : footerSignatureOffsetFromEnd ≤ file.length)
    (free : ExtensionFree file) {header : TargaHeader}
    (headerInfo : ∀ r : BinaryReader, r.bytes = file → ∃ r', loadTGAHeaderInfo r = .ok (header, r') ∧ r'.bytes = file)
    (depth : header.pixelDepth = 8 ∨ header.pixelDepth = 16 ∨ header.pixelDepth = 24 ∨ header.pixelDepth = 32)
    {data : List UInt8} (imageBytes : ∀ r : BinaryReader, r.bytes = file →
      ∃ r', loadImageBytes header (paddingOf header.width.toInt header.pixelDepth) r = .ok (data, r')) :
    loadTargaImage graphics file = loadTexture graphics header (depthFormat header.pixelDepth) data := by
  obtain ⟨r, sameFile, loaded⟩ := loadTargaImage_data graphics long free headerInfo depth
  obtain ⟨r', returned⟩ := imageBytes r sameFile
  rw [loaded, returned]
  rfl

theorem loadTargaImage_front (graphics : Graphics) (wellFormed : front.WellFormed) {body rest : List UInt8}
    {rows : List (List UInt8)} (reads : Reads (loadRows front.header) body rows)
    (free : ExtensionFree (front.bytes ++ (body ++ rest))) :
    loadTargaImage graphics (front.bytes ++ (body ++ rest)) =
      loadTexture graphics front.header (depthFormat front.pixelDepth)
        (alignRows (rowsReverse front.header.firstPixelDestination) (eachRowReverse front.header.firstPixelDestination)
          (paddingOf front.width.toInt front.pixelDepth).toNat rows) := by
  have length : front.bytes.length = headerByteLength + front.imageID.length + front.colorMap.length := by
    rw [Front.bytes, List.length_append, List.length_append, front.toFields.bytes_length]
  have long : footerSignatureOffsetFromEnd ≤ (front.bytes ++ (body ++ rest)).length := by
    rw [List.length_append, length, footerSignatureOffsetFromEnd, headerByteLength]
    omega
  obtain ⟨colors, headerInfo⟩ := loadTGAHeaderInfo_ok wellFormed (body ++ rest)
  obtain ⟨padding, paddingEq⟩ := Int.eq_ofNat_of_zero_le (paddingOf_nonneg wellFormed.width.le front.pixelDepth)
  rw [loadTargaImage_eq graphics long free headerInfo wellFormed.pixelDepth fun r file => by
    have loaded := loadImageBytes_ok wellFormed colors reads padding file
    rw [← paddingEq] at loaded
    exact loaded, paddingEq, Int.toNat_natCast]
  rfl

end

end RayTraceRenderer.Targa
