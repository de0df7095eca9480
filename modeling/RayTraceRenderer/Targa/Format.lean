import RayTraceRenderer.Foundation.BinaryReader
import Mathlib.Data.List.DropRight

/-! The records of a Targa file, and what the reader computes from its header. -/

set_option autoImplicit false

namespace RayTraceRenderer.Targa

inductive Fault where
  | endOfStream
  | argumentOutOfRange
  | io
  | indexOutOfRange
  | overflow
  | unity
  | exception (message : String)
  deriving DecidableEq, Repr

instance : ReadFault Fault := ⟨.endOfStream, .argumentOutOfRange, .io⟩

def headerByteLength : Nat := 18
def footerByteLength : Nat := 26
def footerSignatureOffsetFromEnd : Nat := 18
def footerSignatureByteLength : Nat := 16
def footerReservedCharByteLength : Nat := 1
def extensionAreaAuthorNameByteLength : Nat := 41
def extensionAreaAuthorCommentsByteLength : Nat := 324
def extensionAreaJobNameByteLength : Nat := 41
def extensionAreaSoftwareIDByteLength : Nat := 41
def extensionAreaSoftwareVersionLetterByteLength : Nat := 1
def extensionAreaColorCorrectionTableValueLength : Nat := 256
def targaFooterASCIISignature : List Char := "TRUEVISION-XFILE".toList

/-- `Encoding.ASCII.GetString(bytes).TrimEnd('\0')` -/
def asciiText (bytes : List UInt8) : List Char :=
  (bytes.map fun byte => if byte < 128 then Char.ofNat byte.toNat else '?').rdropWhile (· = Char.ofNat 0)

inductive TGAFormat where
  | unknown
  | originalTga
  | newTga
  deriving DecidableEq, Repr

/-- The cast from a byte gives values without a name, too. -/
inductive ColorMapType where
  | noColorMap
  | colorMapIncluded
  | unnamed (byte : UInt8)
  deriving DecidableEq, Repr

def ColorMapType.ofByte (byte : UInt8) : ColorMapType :=
  if byte = 0 then .noColorMap else if byte = 1 then .colorMapIncluded else .unnamed byte

inductive ImageType where
  | noImageData
  | uncompressedColorMapped
  | uncompressedTrueColor
  | uncompressedBlackAndWhite
  | runLengthEncodedColorMapped
  | runLengthEncodedTrueColor
  | runLengthEncodedBlackAndWhite
  | unnamed (byte : UInt8)
  deriving DecidableEq, Repr

def ImageType.ofByte (byte : UInt8) : ImageType :=
  if byte = 0 then .noImageData
  else if byte = 1 then .uncompressedColorMapped
  else if byte = 2 then .uncompressedTrueColor
  else if byte = 3 then .uncompressedBlackAndWhite
  else if byte = 9 then .runLengthEncodedColorMapped
  else if byte = 10 then .runLengthEncodedTrueColor
  else if byte = 11 then .runLengthEncodedBlackAndWhite
  else .unnamed byte

def ImageType.RunLengthEncoded (type : ImageType) : Prop :=
  type = .runLengthEncodedBlackAndWhite ∨ type = .runLengthEncodedColorMapped ∨ type = .runLengthEncodedTrueColor

def ImageType.ColorMapped (type : ImageType) : Prop :=
  type = .uncompressedColorMapped ∨ type = .runLengthEncodedColorMapped

instance (type : ImageType) : Decidable type.RunLengthEncoded := inferInstanceAs (Decidable (_ ∨ _ ∨ _))
instance (type : ImageType) : Decidable type.ColorMapped := inferInstanceAs (Decidable (_ ∨ _))

inductive VerticalTransferOrder where
  | unknown
  | bottom
  | top
  deriving DecidableEq, Repr

inductive HorizontalTransferOrder where
  | unknown
  | right
  | left
  deriving DecidableEq, Repr

inductive FirstPixelDestination where
  | unknown
  | topLeft
  | topRight
  | bottomLeft
  | bottomRight
  deriving DecidableEq, Repr

/-- `Utilities.GetBits` -/
def getBits (b : UInt8) (offset count : Nat) : Nat := (b.toNat >>> offset) &&& ((1 <<< count) - 1)

def VerticalTransferOrder.ofBit (bit : Nat) : VerticalTransferOrder := if bit = 0 then .bottom else .top

def HorizontalTransferOrder.ofBit (bit : Nat) : HorizontalTransferOrder := if bit = 0 then .right else .left

structure Color32 where
  r : UInt8
  g : UInt8
  b : UInt8
  a : UInt8
  deriving DecidableEq, Repr

/-- `Utilities.GetColorFrom2Bytes` -/
def getColorFrom2Bytes (one two : UInt8) : Color32 where
  r := UInt8.ofNat (getBits one 2 5 <<< 3)
  g := UInt8.ofNat ((getBits one 0 2 <<< 6) + (getBits two 5 3 <<< 3))
  b := UInt8.ofNat (getBits two 0 5 <<< 3)
  a := UInt8.ofNat (getBits one 7 1 * 255)

/-- The fields but for the transfer orders are zero before a file is read. -/
structure TargaHeader where
  imageIDLength : UInt8
  colorMapType : ColorMapType
  imageType : ImageType
  colorMapFirstEntryIndex : Int16
  colorMapLength : Int16
  colorMapEntrySize : UInt8
  xOrigin : Int16
  yOrigin : Int16
  width : Int16
  height : Int16
  pixelDepth : UInt8
  attributeBits : UInt8
  verticalTransferOrder : VerticalTransferOrder
  horizontalTransferOrder : HorizontalTransferOrder
  imageIDValue : List Char
  colorMap : List Color32
  deriving DecidableEq, Repr

namespace TargaHeader

def firstPixelDestination (header : TargaHeader) : FirstPixelDestination :=
  if header.verticalTransferOrder = .unknown ∨ header.horizontalTransferOrder = .unknown then .unknown
  else if header.verticalTransferOrder = .bottom ∧ header.horizontalTransferOrder = .left then .bottomLeft
  else if header.verticalTransferOrder = .bottom ∧ header.horizontalTransferOrder = .right then .bottomRight
  else if header.verticalTransferOrder = .top ∧ header.horizontalTransferOrder = .left then .topLeft
  else .topRight

def colorMapEntryBytes (header : TargaHeader) : Int :=
  if header.colorMapEntrySize = 15 then 2
  else if header.colorMapEntrySize = 16 then 2
  else if header.colorMapEntrySize = 24 then 3
  else if header.colorMapEntrySize = 32 then 4
  else 0

/-- Small enough not to overflow. -/
def imageDataOffset (header : TargaHeader) : Int :=
  headerByteLength + header.imageIDLength.toNat + header.colorMapLength.toInt * header.colorMapEntryBytes

def bytesPerPixel (header : TargaHeader) : Int := (header.pixelDepth.toNat / 8 : Nat)

end TargaHeader

structure TargaFooter where
  extensionAreaOffset : Int32
  developerDirectoryOffset : Int32
  signature : List Char
  reservedCharacter : List Char
  deriving DecidableEq, Repr

/-- `new TargaFooter()` -/
def TargaFooter.new : TargaFooter := ⟨0, 0, [], []⟩

/-- Of the extension area the numbers that the reader goes by, and the tables. -/
structure TargaExtensionArea where
  extensionSize : Int16
  colorCorrectionOffset : Int32
  postageStampOffset : Int32
  scanLineOffset : Int32
  attributesType : UInt8
  scanLineTable : List Int32
  colorCorrectionTable : List Color32
  deriving DecidableEq, Repr

/-- `new TargaExtensionArea()` -/
def TargaExtensionArea.new : TargaExtensionArea := ⟨0, 0, 0, 0, 0, [], []⟩

/-! ## Textures -/

inductive TextureFormat where
  | alpha8
  | rgb565
  | rgb24
  | rgba32
  | argb32
  | bgra32
  deriving DecidableEq, Repr

def TextureFormat.bytesPerPixel : TextureFormat → Nat
  | .alpha8 => 1
  | .rgb565 => 2
  | .rgb24 => 3
  | .rgba32 => 4
  | .argb32 => 4
  | .bgra32 => 4

/-- A texture without mipmaps and the bytes of its pixels, the lowest row first. -/
structure RawTexture where
  width : Int
  height : Int
  format : TextureFormat
  rawTextureData : List UInt8
  deriving DecidableEq, Repr

def RawTexture.size (texture : RawTexture) : Nat :=
  (texture.width * texture.height).toNat * texture.format.bytesPerPixel

/-- What the code leaves to Unity: the largest texture, and whether LoadRawTextureData ignores what is
behind the data that a texture needs, or throws. -/
structure Graphics where
  maxTextureSize : Int
  ignoresExcess : Bool

def RawTexture.new (graphics : Graphics) (width height : Int) (format : TextureFormat) : Except Fault RawTexture :=
  if 0 < width ∧ width ≤ graphics.maxTextureSize ∧ 0 < height ∧ height ≤ graphics.maxTextureSize then
    .ok ⟨width, height, format, []⟩
  else .error .unity

/-- Too little data is refused by every version. -/
def RawTexture.loadRawTextureData (graphics : Graphics) (texture : RawTexture) (data : List UInt8) :
    Except Fault RawTexture :=
  if data.length < texture.size ∨ texture.size < data.length ∧ graphics.ignoresExcess = false then .error .unity
  else .ok { texture with rawTextureData := data.take texture.size }

end RayTraceRenderer.Targa
