import RayTraceRenderer.Targa.Pictures

/-! The colour map of a file: it is read, and never shown.

The image data begin behind it and are read without a look at what lies before them. So another colour
map of the same size leaves the texture as it is, whatever follows in the file.
-/

set_option autoImplicit false

namespace RayTraceRenderer.Targa

open Reading

/-! ## The image data -/

theorem loadPacket_aheadOnly (header : TargaHeader) (image : ImageRows) : AheadOnly (loadPacket header image) := by
  unfold loadPacket
  refine AheadOnly.readByte.bind fun packet => ?_
  by_cases run : getBits packet 7 1 = 1
  · simp only [run, if_true]
    exact (AheadOnly.readBytes _).bind fun pixel => .pure _
  · simp only [run, if_false]
    apply AheadOnly.foldlM
    intro acc _
    exact AheadOnly.readByte.bind fun byte => .pure _

theorem loadPackets_aheadOnly (header : TargaHeader) (bytesLeft : Nat) (image : ImageRows) :
    AheadOnly (loadPackets header bytesLeft image) := by
  induction bytesLeft generalizing image with
  | zero =>
    unfold loadPackets
    split
    · exact .fail _
    · exact .pure image
  | succ bytesLeft ih =>
    unfold loadPackets
    split
    · exact (loadPacket_aheadOnly header image).bind ih
    · exact .pure image

theorem loadRows_aheadOnly (header : TargaHeader) : AheadOnly (loadRows header) := by
  unfold loadRows
  by_cases packed : header.imageType.RunLengthEncoded
  · rw [if_pos packed]
    intro r r' same
    simp only [same, map_eq_pure_bind]
    exact ((loadPackets_aheadOnly header r'.ahead.length .empty).bind fun image => .pure _) r r' same
  · rw [if_neg packed]
    exact AheadOnly.mapM (fun _ => .readBytes _) _

section
variable {front : Front}

-- The image data of a file are those of another one that goes on in the same way.
theorem loadImageBytes_data (wellFormed : front.WellFormed) (tail : List UInt8) (colors : List Color32) (padding : Int)
    {r : BinaryReader} (file : r.bytes = front.bytes ++ tail) :
    (loadImageBytes { front.header with colorMap := colors } padding r).map Prod.fst =
      if padding < 0 then .error .overflow
      else ((outcome (loadRows front.header (.ofBytes tail))).map Prod.fst).map
        (alignRows (rowsReverse front.header.firstPixelDestination) (eachRowReverse front.header.firstPixelDestination)
          padding.toNat) := by
  have offset : ({ front.header with colorMap := colors } : TargaHeader).imageDataOffset = front.bytes.length :=
    imageDataOffset_eq wellFormed
  have positive : 0 < front.bytes.length := by
    rw [Front.bytes, List.length_append, List.length_append, front.toFields.bytes_length, headerByteLength]
    omega
  have start : (BinaryReader.mk r.bytes front.bytes.length).ahead = (BinaryReader.ofBytes tail).ahead := by
    rw [file]
    exact List.drop_left
  unfold loadImageBytes
  rw [offset, if_pos (Int.natCast_pos.mpr positive)]
  by_cases negative : padding < 0
  · rw [if_pos negative, if_pos negative]
    rfl
  · rw [if_neg negative, if_neg negative, bind_ok (seekBegin_apply _ _), loadRows_colors,
      ← loadRows_aheadOnly front.header _ _ start, bind_apply]
    cases loadRows front.header (BinaryReader.mk r.bytes front.bytes.length) with
    | error fault => rfl
    | ok result => rfl

end

def checkered (palette : List UInt8) : Front := ⟨⟨0, 1, 1, 0, 2, 24, 0, 0, 4, 1, 8, 32⟩, [], palette⟩

end RayTraceRenderer.Targa
