import RayTraceRenderer.Targa.Format

/-! The reader of Targa files.

The object under construction is lost when its constructor throws, so nothing is said of
what the reader clears before it throws. The image data need not end where the file
ends, and need not be as long as the header says: a row that the file cuts off is short,
and the texture refuses the image.
-/

set_option autoImplicit false

namespace RayTraceRenderer.Targa

open Reading

abbrev Loading := Reading Fault

def raise {α : Type} (fault : Fault) : Loading α := fun _ => .error fault

/-! ## Footer and header -/

def loadTGAFooterInfo : Loading (TGAFormat × TargaFooter) := do
  seekEnd (-footerSignatureOffsetFromEnd)
  let signature ← asciiText <$> readBytes footerSignatureByteLength
  if signature = targaFooterASCIISignature then
    seekEnd (-footerByteLength)
    let extensionAreaOffset ← readInt32
    let developerDirectoryOffset ← readInt32
    let _ ← readBytes footerSignatureByteLength
    let reservedCharacter ← asciiText <$> readBytes footerReservedCharByteLength
    return (.newTga, { extensionAreaOffset, developerDirectoryOffset, signature, reservedCharacter })
  else
    return (.originalTga, .new)

/-- The first byte of a pair is the low one. -/
def colorOfPair : List UInt8 → Loading Color32
  | first :: second :: _ => pure (getColorFrom2Bytes second first)
  | _ => raise .indexOutOfRange

def loadColorMapEntry (colorMapEntrySize : UInt8) : Loading Color32 :=
  if colorMapEntrySize = 15 then readBytes 2 >>= colorOfPair
  else if colorMapEntrySize = 16 then readBytes 2 >>= colorOfPair
  else if colorMapEntrySize = 24 then do
    let b ← readByte
    let g ← readByte
    let r ← readByte
    return { r, g, b, a := 255 }
  else if colorMapEntrySize = 32 then do
    let a ← readByte
    let b ← readByte
    let g ← readByte
    let r ← readByte
    return { r, g, b, a }
  else raise (.exception "TargaImage only supports ColorMap Entry Sizes of 15, 16, 24 or 32 bits.")

/-- Only the colour map of a colour mapped image is read. -/
def loadColorMap (header : TargaHeader) : Loading (List Color32) :=
  if header.colorMapType = .colorMapIncluded then
    if header.imageType.ColorMapped then
      if 0 < header.colorMapLength.toInt then
        (List.range header.colorMapLength.toInt.toNat).mapM fun _ => loadColorMapEntry header.colorMapEntrySize
      else raise (.exception "Image Type requires a Color Map and Color Map Length is zero.")
    else pure []
  else if header.imageType.ColorMapped then
    raise (.exception "Image Type requires a Color Map and there was not a Color Map included in the file.")
  else pure []

def checkPixelDepth (pixelDepth : UInt8) : Loading Unit :=
  if pixelDepth = 8 ∨ pixelDepth = 16 ∨ pixelDepth = 24 ∨ pixelDepth = 32 then pure ()
  else raise (.exception "Targa Image only supports 8, 16, 24, or 32 bit pixel depths.")

def loadImageID (imageIDLength : UInt8) : Loading (List Char) :=
  if 0 < imageIDLength.toNat then asciiText <$> readBytes imageIDLength.toNat else pure []

def loadHeaderFields : Loading TargaHeader := do
  let imageIDLength ← readByte
  let colorMapType ← readByte
  let imageType ← readByte
  let colorMapFirstEntryIndex ← readInt16
  let colorMapLength ← readInt16
  let colorMapEntrySize ← readByte
  let xOrigin ← readInt16
  let yOrigin ← readInt16
  let width ← readInt16
  let height ← readInt16
  let pixelDepth ← readByte
  checkPixelDepth pixelDepth
  let imageDescriptor ← readByte
  let imageIDValue ← loadImageID imageIDLength
  return {
    imageIDLength
    colorMapType := .ofByte colorMapType
    imageType := .ofByte imageType
    colorMapFirstEntryIndex, colorMapLength, colorMapEntrySize, xOrigin, yOrigin, width, height, pixelDepth
    attributeBits := UInt8.ofNat (getBits imageDescriptor 0 4)
    verticalTransferOrder := .ofBit (getBits imageDescriptor 5 1)
    horizontalTransferOrder := .ofBit (getBits imageDescriptor 4 1)
    imageIDValue
    colorMap := [] }

def loadTGAHeaderInfo : Loading TargaHeader := do
  seekBegin 0
  let header ← loadHeaderFields
  let colorMap ← loadColorMap header
  return { header with colorMap }

/-! ## Extension area -/

/-- `Convert.ToByte` -/
def toByte (value : Int16) : Loading UInt8 :=
  if 0 ≤ value.toInt ∧ value.toInt ≤ 255 then pure (UInt8.ofNat value.toInt.toNat) else raise .overflow

def loadColorCorrection : Loading Color32 := do
  let a ← readInt16 >>= toByte
  let r ← readInt16 >>= toByte
  let b ← readInt16 >>= toByte
  let g ← readInt16 >>= toByte
  return { r, g, b, a }

def loadTables (header : TargaHeader) (area : TargaExtensionArea) : Loading TargaExtensionArea := do
  let scanLineTable ←
    if 0 < area.scanLineOffset.toInt then do
      seekBegin area.scanLineOffset.toInt
      (List.range header.height.toInt.toNat).mapM fun _ => readInt32
    else pure []
  let colorCorrectionTable ←
    if 0 < area.colorCorrectionOffset.toInt then do
      seekBegin area.colorCorrectionOffset.toInt
      (List.range extensionAreaColorCorrectionTableValueLength).mapM fun _ => loadColorCorrection
    else pure []
  return { area with scanLineTable, colorCorrectionTable }

def loadTGAExtensionArea (footer : TargaFooter) (header : TargaHeader) : Loading TargaExtensionArea :=
  if 0 < footer.extensionAreaOffset.toInt then do
    seekBegin footer.extensionAreaOffset.toInt
    let extensionSize ← readInt16
    let _ ← readBytes extensionAreaAuthorNameByteLength
    let _ ← readBytes extensionAreaAuthorCommentsByteLength
    -- month, day, year, hour, minute, second
    let _ ← (List.range 6).mapM fun _ => readInt16
    let _ ← readBytes extensionAreaJobNameByteLength
    -- the hours, minutes and seconds of the job
    let _ ← (List.range 3).mapM fun _ => readInt16
    let _ ← readBytes extensionAreaSoftwareIDByteLength
    let _ ← readInt16
    let _ ← readBytes extensionAreaSoftwareVersionLetterByteLength
    -- the key colour
    let _ ← (List.range 4).mapM fun _ => readByte
    -- the pixel aspect ratio and the gamma value
    let _ ← (List.range 4).mapM fun _ => readInt16
    let colorCorrectionOffset ← readInt32
    let postageStampOffset ← readInt32
    let scanLineOffset ← readInt32
    let attributesType ← readByte
    loadTables header { TargaExtensionArea.new with
      extensionSize, colorCorrectionOffset, postageStampOffset, scanLineOffset, attributesType }
  else pure .new

/-! ## Image data -/

/-- The value of an `int` after an addition or a multiplication. -/
def wrap32 (n : Int) : Int := n.bmod (2 ^ 32)

namespace TargaHeader

def imageRowByteSize (header : TargaHeader) : Int := header.width.toInt * header.bytesPerPixel

/-- Of the sizes of a header this one alone can overflow. -/
def imageByteSize (header : TargaHeader) : Int := wrap32 (header.imageRowByteSize * header.height.toInt)

end TargaHeader

/-- The full rows, the row that is being filled, and how many bytes have been read. -/
structure ImageRows where
  rows : List (List UInt8)
  row : List UInt8
  imageBytesRead : Int
  imageRowBytesRead : Int
  deriving DecidableEq, Repr

def ImageRows.empty : ImageRows := ⟨[], [], 0, 0⟩

def ImageRows.add (imageRowByteSize : Int) (image : ImageRows) (bytes : List UInt8) : ImageRows :=
  let row := image.row ++ bytes
  let imageRowBytesRead := wrap32 (image.imageRowBytesRead + bytes.length)
  let imageBytesRead := wrap32 (image.imageBytesRead + bytes.length)
  if imageRowBytesRead = imageRowByteSize then ⟨image.rows ++ [row], [], imageBytesRead, 0⟩
  else ⟨image.rows, row, imageBytesRead, imageRowBytesRead⟩

section
variable (header : TargaHeader)

/-- The pixels of a run are added whole, the raw ones byte by byte. -/
def loadPacket (image : ImageRows) : Loading ImageRows := do
  let packet ← readByte
  let pixelCount := getBits packet 0 7 + 1
  if getBits packet 7 1 = 1 then
    let pixel ← readBytes header.bytesPerPixel
    return (List.range pixelCount).foldl (fun image _ => image.add header.imageRowByteSize pixel) image
  else
    (List.range (pixelCount * header.bytesPerPixel.toNat)).foldlM (fun image _ => do
      let byte ← readByte
      return image.add header.imageRowByteSize [byte]) image

/-- A packet takes a byte at least. Where no byte is left, the next packet throws. -/
def loadPackets : Nat → ImageRows → Loading ImageRows
  | 0, image => if image.imageBytesRead < header.imageByteSize then raise .endOfStream else pure image
  | bytesLeft + 1, image =>
    if image.imageBytesRead < header.imageByteSize then do
      let image ← loadPacket header image
      loadPackets bytesLeft image
    else pure image

def loadRows : Loading (List (List UInt8)) :=
  if header.imageType.RunLengthEncoded then fun r =>
    (ImageRows.rows <$> loadPackets header r.ahead.length .empty) r
  else
    (List.range header.height.toInt.toNat).mapM fun _ => readBytes header.imageRowByteSize

end

def rowsReverse : FirstPixelDestination → Bool
  | .topLeft => true
  | .topRight => true
  | .bottomLeft => false
  | .bottomRight => false
  | .unknown => false

def eachRowReverse : FirstPixelDestination → Bool
  | .topLeft => true
  | .topRight => false
  | .bottomLeft => true
  | .bottomRight => false
  | .unknown => false

def alignRows (reverseRows reverseEach : Bool) (padding : Nat) (rows : List (List UInt8)) : List UInt8 :=
  (if reverseRows then rows.reverse else rows).flatMap fun row =>
    (if reverseEach then row.reverse else row) ++ List.replicate padding 0

def loadImageBytes (header : TargaHeader) (padding : Int) : Loading (List UInt8) :=
  if 0 < header.imageDataOffset then
    if padding < 0 then raise .overflow
    else do
      seekBegin header.imageDataOffset
      let rows ← loadRows header
      let destination := header.firstPixelDestination
      return alignRows (rowsReverse destination) (eachRowReverse destination) padding.toNat rows
  else raise (.exception "Error loading file, No image data in file.")

/-! ## The texture -/

/-- `(pixelBits * width + 31) & ~31) >> 3` -/
def strideOf (width : Int) (pixelDepth : UInt8) : Int := (width * pixelDepth.toNat + 31) / 32 * 32 / 8

def paddingOf (width : Int) (pixelDepth : UInt8) : Int :=
  strideOf width pixelDepth - (width * pixelDepth.toNat + 7).tdiv 8

/-- The loops that exchange the first byte with the third one of every pixel. They run to the
end of the data, where a pixel may be cut off. -/
def swapRedBlue (pixelSize : Nat) : List UInt8 → Except Fault (List UInt8)
  | [] => .ok []
  | first :: second :: third :: rest => do
    let swapped ← swapRedBlue pixelSize (rest.drop (pixelSize - 3))
    return third :: second :: first :: rest.take (pixelSize - 3) ++ swapped
  | _ => .error .indexOutOfRange
termination_by data => data.length
decreasing_by
  simp only [List.length_drop, List.length_cons]
  omega

def getPixelFormat (format : TGAFormat) (area : TargaExtensionArea) (header : TargaHeader) : TextureFormat :=
  if header.pixelDepth = 8 then .alpha8
  else if header.pixelDepth = 16 then
    if format = .newTga then if area.attributesType ≤ 3 then .rgb565 else .argb32 else .rgb565
  else if header.pixelDepth = 24 then .rgb24
  else if header.pixelDepth = 32 then
    if format = .newTga then if area.attributesType ≤ 4 then .bgra32 else .argb32 else .bgra32
  else .argb32

variable (graphics : Graphics)

/-- The bytes of a texture whose format has blue before red are put in the order of RGBA32,
those of RGB24 in the order of red, green and blue. -/
def loadTexture (header : TargaHeader) (format : TextureFormat) (data : List UInt8) : Except Fault RawTexture := do
  let texture ← RawTexture.new graphics header.width.toInt header.height.toInt format
  if format = .bgra32 then
    let data ← swapRedBlue 4 data
    let texture ← RawTexture.new graphics header.width.toInt header.height.toInt .rgba32
    texture.loadRawTextureData graphics data
  else if format = .rgb24 then
    let data ← swapRedBlue 3 data
    texture.loadRawTextureData graphics data
  else texture.loadRawTextureData graphics data

/-- The rows of a thumbnail are reversed where those of the image are not. -/
def loadThumbnail (area : TargaExtensionArea) (header : TargaHeader) (format : TextureFormat) :
    Loading (Option RawTexture) :=
  if 0 < area.postageStampOffset.toInt then do
    seekBegin area.postageStampOffset.toInt
    let width ← readByte
    let height ← readByte
    let rowByteSize := width.toNat * (header.pixelDepth.toNat / 8)
    let rows ← (List.range height.toNat).mapM fun _ => readBytes rowByteSize
    let destination := header.firstPixelDestination
    let reverseRows := destination == .bottomRight || destination == .unknown
    let data := alignRows reverseRows false (paddingOf width.toNat header.pixelDepth).toNat rows
    if 0 < data.length then fun r =>
      ((RawTexture.new graphics width.toNat height.toNat format).bind fun texture =>
        texture.loadRawTextureData graphics data).map fun texture => (some texture, r)
    else pure none
  else pure none

def loadTGAImage (format : TGAFormat) (area : TargaExtensionArea) (header : TargaHeader) :
    Loading (RawTexture × Option RawTexture) := do
  let data ← loadImageBytes header (paddingOf header.width.toInt header.pixelDepth)
  let pixelFormat := getPixelFormat format area header
  let image ← fun r => (loadTexture graphics header pixelFormat data).map fun texture => (texture, r)
  let thumbnail ← loadThumbnail graphics area header pixelFormat
  return (image, thumbnail)

def targaImage : Loading (RawTexture × Option RawTexture) := do
  let (format, footer) ← loadTGAFooterInfo
  let header ← loadTGAHeaderInfo
  let area ← loadTGAExtensionArea footer header
  loadTGAImage graphics format area header

/-- `LoadTargaImage`, of the bytes of the file. -/
def loadTargaImage (fileBytes : List UInt8) : Except Fault RawTexture :=
  if 0 < fileBytes.length then
    (targaImage graphics (.ofBytes fileBytes)).map fun result => result.1.1
  else .error (.exception "Error loading file, could not read file from disk.")

end RayTraceRenderer.Targa
