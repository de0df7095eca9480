import RayTraceRenderer.Targa.Reader
import RayTraceRenderer.Foundation.RunLength

/-! The rows of an image, out of plain data and out of packets.

The pixels of the packets fill one row after another. A packet may begin in one row and end
in the next, and the last one may run over the end of the image.
-/

set_option autoImplicit false

namespace RayTraceRenderer.Targa

open Reading RunLength

theorem wrap32_natCast {n : Nat} (small : n < 2 ^ 31) : wrap32 n = n := by
  unfold wrap32
  apply Int.bmod_eq_of_le <;> omega

theorem flatten_length {α : Type} {size : Nat} {rows : List (List α)} (full : ∀ row ∈ rows, row.length = size) :
    rows.flatten.length = rows.length * size := by
  induction rows with
  | nil => simp
  | cons row rest ih =>
    rw [List.flatten_cons, List.length_append, ih fun other member => full other (List.mem_cons_of_mem row member),
      full row List.mem_cons_self, List.length_cons, Nat.add_mul, Nat.one_mul, Nat.add_comm]

theorem exists_pieces {α : Type} (count size : Nat) (string : List α) (length : string.length = count * size) :
    ∃ pieces : List (List α), pieces.flatten = string ∧ pieces.length = count ∧ ∀ piece ∈ pieces, piece.length = size := by
  induction count generalizing string with
  | zero =>
    rw [Nat.zero_mul] at length
    exact ⟨[], by simp [List.eq_nil_of_length_eq_zero length], rfl, by simp⟩
  | succ count ih =>
    rw [Nat.add_mul, Nat.one_mul] at length
    obtain ⟨pieces, all, number, sizes⟩ := ih (string.drop size) (by rw [List.length_drop]; omega)
    refine ⟨string.take size :: pieces, ?_, ?_, ?_⟩
    · rw [List.flatten_cons, all, List.take_append_drop]
    · rw [List.length_cons, number]
    · intro piece member
      rcases List.mem_cons.mp member with rfl | member
      · exact List.length_take_of_le (by omega)
      · exact sizes piece member

/-- The bytes that were added, cut into rows. -/
structure ImageRows.Filled (size : Nat) (image : ImageRows) (bytes : List UInt8) : Prop where
  all : image.rows.flatten ++ image.row = bytes
  full : ∀ row ∈ image.rows, row.length = size
  begun : image.row.length < size
  rowBytes : image.imageRowBytesRead = image.row.length
  imageBytes : image.imageBytesRead = bytes.length

namespace ImageRows.Filled

variable {size : Nat} {image : ImageRows} {bytes more : List UInt8}

theorem empty (positive : 0 < size) : ImageRows.empty.Filled size [] := ⟨rfl, by simp [ImageRows.empty], positive, rfl, rfl⟩

theorem length (filled : image.Filled size bytes) : bytes.length = image.rows.length * size + image.row.length := by
  rw [← filled.all, List.length_append, flatten_length filled.full]

-- Whole pixels leave room for a pixel.
theorem room {pixel : Nat} (filled : image.Filled size bytes) (rows : pixel ∣ size) (whole : pixel ∣ bytes.length) :
    image.row.length + pixel ≤ size := by
  have begun := filled.begun
  have rest : pixel ∣ image.row.length := by
    rw [filled.length] at whole
    exact (Nat.dvd_add_right (rows.mul_left _)).mp whole
  obtain ⟨count, rfl⟩ := rows
  obtain ⟨used, same⟩ := rest
  rw [same] at begun ⊢
  have fewer : used + 1 ≤ count := Nat.lt_of_mul_lt_mul_left begun
  calc pixel * used + pixel = pixel * (used + 1) := (Nat.mul_succ _ _).symm
    _ ≤ pixel * count := Nat.mul_le_mul_left _ fewer

theorem add (filled : image.Filled size bytes) (room : image.row.length + more.length ≤ size)
    (small : (bytes ++ more).length < 2 ^ 31) : (image.add size more).Filled size (bytes ++ more) := by
  have total := filled.length
  rw [List.length_append] at small
  have rowBytes : wrap32 (image.imageRowBytesRead + more.length) = ((image.row.length + more.length : Nat) : Int) := by
    rw [filled.rowBytes, ← Nat.cast_add]
    exact wrap32_natCast (by omega)
  have imageBytes : wrap32 (image.imageBytesRead + more.length) = ((bytes.length + more.length : Nat) : Int) := by
    rw [filled.imageBytes, ← Nat.cast_add]
    exact wrap32_natCast small
  simp only [ImageRows.add, rowBytes, imageBytes]
  split
  · rename_i complete
    refine ⟨?_, ?_, ?_, rfl, ?_⟩
    · rw [← filled.all]
      simp
    · intro row member
      rcases List.mem_append.mp member with old | new
      · exact filled.full row old
      · rw [List.mem_singleton.mp new, List.length_append]
        omega
    · have begun := filled.begun
      rw [List.length_nil]
      omega
    · rw [List.length_append]
  · rename_i incomplete
    refine ⟨?_, filled.full, ?_, ?_, ?_⟩
    · rw [← filled.all, List.append_assoc]
    · rw [List.length_append]
      omega
    · rw [List.length_append]
    · rw [List.length_append]

end ImageRows.Filled

/-! ## Packets -/

section
variable {header : TargaHeader} {size pixelSize : Nat}

/-- A header whose rows are filled by whole pixels. -/
structure TargaHeader.Rowed (header : TargaHeader) (size pixelSize : Nat) : Prop where
  rowSize : header.imageRowByteSize = size
  bytesPerPixel : header.bytesPerPixel = pixelSize
  whole : pixelSize ∣ size

theorem getBits_run (more : Fin 128) :
    getBits (UInt8.ofNat (128 + more)) 7 1 = 1 ∧ getBits (UInt8.ofNat (128 + more)) 0 7 = more := by
  revert more
  decide

theorem getBits_raw (less : Fin 128) :
    getBits (UInt8.ofNat less) 7 1 = 0 ∧ getBits (UInt8.ofNat less) 0 7 = less := by
  revert less
  decide

/-- The pixels of a run are added one after another. -/
theorem filled_run (rowed : header.Rowed size pixelSize) {pixel : Pixel} (sized : pixel.length = pixelSize)
    (count : Nat) {image : ImageRows} {bytes : List UInt8} (filled : image.Filled size bytes)
    (whole : pixelSize ∣ bytes.length) (small : bytes.length + count * pixelSize < 2 ^ 31) :
    ((List.range count).foldl (fun image _ => image.add header.imageRowByteSize pixel) image).Filled size
      (bytes ++ (List.replicate count pixel).flatten) := by
  induction count with
  | zero => simpa using filled
  | succ count ih =>
    rw [Nat.add_mul, Nat.one_mul] at small
    have before := ih (by omega)
    have length : (bytes ++ (List.replicate count pixel).flatten).length = bytes.length + count * pixelSize := by
      simp [sized]
    rw [List.range_succ, List.foldl_append, List.foldl_cons, List.foldl_nil, List.replicate_succ', List.flatten_append,
      List.flatten_singleton, ← List.append_assoc, rowed.rowSize]
    rw [rowed.rowSize] at before
    apply before.add
    · rw [sized]
      apply before.room rowed.whole
      rw [length]
      exact whole.add (Dvd.intro_left count rfl)
    · rw [List.length_append, length, sized]
      omega

theorem filled_raw (rowed : header.Rowed size pixelSize) {γ : Type} (xs : List γ) (raw : List UInt8)
    (count : xs.length = raw.length) {image : ImageRows} {bytes : List UInt8} (filled : image.Filled size bytes)
    (small : bytes.length + raw.length < 2 ^ 31) :
    ∃ image', Reads (xs.foldlM (fun image _ => do
      let byte ← readByte
      return image.add header.imageRowByteSize [byte]) image : Loading ImageRows) raw image' ∧
      image'.Filled size (bytes ++ raw) := by
  induction xs generalizing raw image bytes with
  | nil =>
    rw [List.eq_nil_of_length_eq_zero count.symm, List.append_nil]
    exact ⟨image, Reads.pure image, filled⟩
  | cons x rest ih =>
    cases raw with
    | nil => cases count
    | cons byte raw =>
      rw [List.length_cons] at small
      have begun : (image.add header.imageRowByteSize [byte]).Filled size (bytes ++ [byte]) := by
        rw [rowed.rowSize]
        apply filled.add
        · exact filled.begun
        · rw [List.length_append, List.length_singleton]
          omega
      obtain ⟨image', reads, done⟩ := ih raw (Nat.succ.inj count) begun (by
        rw [List.length_append, List.length_singleton]
        omega)
      rw [List.append_assoc, List.singleton_append] at done
      refine ⟨image', ?_, done⟩
      rw [List.foldlM_cons]
      have first : Reads (do
          let byte ← readByte
          return image.add header.imageRowByteSize [byte] : Loading ImageRows) [byte]
          (image.add header.imageRowByteSize [byte]) := (readByte_reads byte).bind_pure (Reads.pure _)
      exact first.bind reads

theorem loadPacket_reads (rowed : header.Rowed size pixelSize) {packet : Packet}
    (sized : ∀ pixel ∈ packet.pixels, pixel.length = pixelSize) {image : ImageRows} {bytes : List UInt8}
    (filled : image.Filled size bytes) (whole : pixelSize ∣ bytes.length)
    (small : bytes.length + packet.pixels.length * pixelSize < 2 ^ 31) :
    ∃ image', Reads (loadPacket header image) packet.bytes image' ∧
      image'.Filled size (bytes ++ packet.pixels.flatten) := by
  cases packet with
  | run more pixel =>
    have length : pixel.length = pixelSize := sized pixel (List.mem_replicate.mpr ⟨Nat.succ_ne_zero _, rfl⟩)
    obtain ⟨kind, count⟩ := getBits_run more
    rw [Packet.pixels, List.length_replicate] at small
    refine ⟨_, ?_, filled_run rowed length (more + 1) filled whole small⟩
    have read := readBytes_reads (ε := Fault) pixel
    rw [length, ← rowed.bytesPerPixel] at read
    apply (readByte_reads _).bind
    rw [kind, count, if_pos rfl]
    exact read.bind_pure (Reads.pure _)
  | raw pixels nonempty few =>
    have positive := List.length_pos_of_ne_nil nonempty
    have length : pixels.flatten.length = pixels.length * pixelSize := flatten_length sized
    obtain ⟨kind, count⟩ := getBits_raw ⟨pixels.length - 1, by omega⟩
    have total : pixels.length - 1 + 1 = pixels.length := by omega
    obtain ⟨image', reads, done⟩ := filled_raw rowed (List.range (pixels.length * header.bytesPerPixel.toNat)) pixels.flatten
      (by rw [List.length_range, rowed.bytesPerPixel, Int.toNat_natCast, length]) filled (by rw [length]; exact small)
    refine ⟨image', ?_, done⟩
    apply (readByte_reads _).bind
    simp only at kind count
    rw [kind, count, total, if_neg (by decide)]
    exact reads

/-- The loop takes every packet that is needed to reach the size of the image, and no other. -/
theorem loadPackets_reads (rowed : header.Rowed size pixelSize) (positive : 0 < pixelSize) (packets : List Packet)
    (sized : ∀ pixel ∈ expand packets, pixel.length = pixelSize) {image : ImageRows} {bytes : List UInt8}
    (filled : image.Filled size bytes) (whole : pixelSize ∣ bytes.length)
    (small : bytes.length + (expand packets).length * pixelSize < 2 ^ 31)
    (needed : packets = [] ∧ header.imageByteSize ≤ bytes.length ∨
      ∃ missing, Reach missing packets ∧ header.imageByteSize = (bytes.length + missing * pixelSize : Nat)) :
    ∃ image', image'.Filled size (bytes ++ (expand packets).flatten) ∧
      ∀ (bytesLeft : Nat) (r : BinaryReader) (rest : List UInt8), r.ahead = encode packets ++ rest →
        r.ahead.length ≤ bytesLeft →
        loadPackets header bytesLeft image r = .ok (image', r.advance (encode packets).length) := by
  induction packets generalizing image bytes with
  | nil =>
    have done : ¬image.imageBytesRead < header.imageByteSize := by
      rw [filled.imageBytes]
      rcases needed with ⟨-, reached⟩ | ⟨missing, ⟨before, after⟩, -⟩
      · omega
      · rw [expand_nil, List.length_nil] at after
        omega
    refine ⟨image, by simpa using filled, ?_⟩
    intro bytesLeft r rest next enough
    cases bytesLeft with
    | zero => exact congrFun (if_neg done) r
    | succ bytesLeft => exact congrFun (if_neg done) r
  | cons packet later ih =>
    rcases needed with ⟨none, -⟩ | ⟨missing, reach, imageByteSize⟩
    · cases none
    obtain ⟨some, remaining⟩ := reach.cons
    have going : image.imageBytesRead < header.imageByteSize := by
      have more : 0 < missing * pixelSize := Nat.mul_pos some positive
      rw [filled.imageBytes, imageByteSize]
      omega
    rw [expand_cons, List.length_append, Nat.add_mul] at small
    have mine : ∀ pixel ∈ packet.pixels, pixel.length = pixelSize := by
      intro pixel member
      exact sized pixel (by rw [expand_cons]; exact List.mem_append_left _ member)
    obtain ⟨mid, first, filledMid⟩ := loadPacket_reads rowed mine filled whole (by omega)
    have length : (bytes ++ packet.pixels.flatten).length = bytes.length + packet.pixels.length * pixelSize := by
      rw [List.length_append, flatten_length mine]
    have needed' : later = [] ∧ header.imageByteSize ≤ (bytes ++ packet.pixels.flatten).length ∨
        ∃ missing, Reach missing later ∧
          header.imageByteSize = ((bytes ++ packet.pixels.flatten).length + missing * pixelSize : Nat) := by
      rw [length, imageByteSize]
      rcases remaining with ⟨covered, rfl⟩ | ⟨short, reach⟩
      · have := Nat.mul_le_mul_right pixelSize covered
        exact .inl ⟨rfl, by omega⟩
      · refine .inr ⟨_, reach, ?_⟩
        rw [Nat.add_assoc, ← Nat.add_mul, Nat.add_sub_cancel' short.le]
    obtain ⟨image', done, reads⟩ := ih (fun pixel member => sized pixel
        (by rw [expand_cons]; exact List.mem_append_right _ member)) filledMid
      (by rw [length]; exact whole.add (Dvd.intro_left _ rfl)) (by rw [length]; omega) needed'
    refine ⟨image', ?_, ?_⟩
    · rw [expand_cons, List.flatten_append, ← List.append_assoc]
      exact done
    intro bytesLeft r rest next enough
    have present := packet.bytes_length_pos
    rw [encode_cons, List.append_assoc] at next
    have behind := BinaryReader.ahead_behind next
    rw [next, List.length_append] at enough
    cases bytesLeft with
    | zero => omega
    | succ bytesLeft =>
      have fewer : (r.advance packet.bytes.length).ahead.length ≤ bytesLeft := by
        rw [behind]
        omega
      unfold loadPackets
      rw [if_pos going, bind_ok (first r _ next), reads bytesLeft _ rest behind fewer, BinaryReader.advance_advance,
        encode_cons, List.length_append]

theorem flatten_take {pixels : List Pixel} (sized : ∀ pixel ∈ pixels, pixel.length = pixelSize) (count : Nat)
    (few : count ≤ pixels.length) : (pixels.take count).flatten = pixels.flatten.take (count * pixelSize) := by
  have front : (pixels.take count).flatten.length = count * pixelSize := by
    rw [flatten_length fun pixel member => sized pixel (List.mem_of_mem_take member),
      List.length_take_of_le few]
  conv_rhs => rw [← List.take_append_drop count pixels, List.flatten_append, ← front, List.take_left]

/-- The rows of a file: as many as its height says, all of them full. -/
structure FullRows (header : TargaHeader) (size : Nat) (rows : List (List UInt8)) : Prop where
  count : header.height.toInt = rows.length
  full : ∀ row ∈ rows, row.length = size

/-- Rows of one size are known by their bytes. -/
theorem FullRows.unique {rows rows' : List (List UInt8)} (first : FullRows header size rows)
    (second : FullRows header size rows') (same : rows.flatten = rows'.flatten) : rows = rows' := by
  have counts : rows.length = rows'.length := Int.ofNat_inj.mp (first.count.symm.trans second.count)
  apply List.eq_iff_flatten_eq.mpr
  refine ⟨same, ?_⟩
  have lengths : ∀ list : List (List UInt8), (∀ row ∈ list, row.length = size) →
      list.map List.length = List.replicate list.length size := fun list => List.map_eq_replicate_iff.mpr
  rw [lengths rows first.full, lengths rows' second.full, counts]

theorem loadRows_plain (rowed : header.Rowed size pixelSize) (plain : ¬header.imageType.RunLengthEncoded)
    {rows : List (List UInt8)} (rowsOf : FullRows header size rows) : Reads (loadRows header) rows.flatten rows := by
  unfold loadRows
  rw [if_neg plain, rowsOf.count, Int.toNat_natCast, rowed.rowSize]
  have read := Reads.repeated (m := (readBytes size : Loading (List UInt8))) (List.range rows.length)
    (rows.map fun row => (row, row)) (by simp) (by
      intro part member
      obtain ⟨row, inside, rfl⟩ := List.mem_map.mp member
      have one := readBytes_reads (ε := Fault) row
      rwa [rowsOf.full row inside] at one)
  rw [List.flatMap_map, List.map_map] at read
  have strings : rows.flatMap (fun row => row) = rows.flatten := List.flatMap_id
  have values : rows.map (Prod.snd ∘ fun row => (row, row)) = rows := List.map_id rows
  rwa [strings, values] at read

theorem loadRows_packets (rowed : header.Rowed size pixelSize) (positive : 0 < pixelSize) {width height : Nat}
    (wide : 0 < width) (sizeOf : size = width * pixelSize) (high : header.height.toInt = height)
    (packed : header.imageType.RunLengthEncoded) {packets : List Packet}
    (sized : ∀ pixel ∈ expand packets, pixel.length = pixelSize) (reach : Reach (width * height) packets)
    (fewer : (expand packets).length < width * height + width)
    (small : (expand packets).length * pixelSize < 2 ^ 31) :
    ∃ rows, Reads (loadRows header) (encode packets) rows ∧ FullRows header size rows ∧
      rows.flatten = ((expand packets).take (width * height)).flatten := by
  have covered := reach.2
  have enough : width * height * pixelSize ≤ (expand packets).length * pixelSize := Nat.mul_le_mul_right _ covered
  have imageByteSize : header.imageByteSize = (0 + width * height * pixelSize : Nat) := by
    have product : header.imageRowByteSize * header.height.toInt = (width * height * pixelSize : Nat) := by
      rw [rowed.rowSize, sizeOf, high]
      push_cast
      ring
    rw [TargaHeader.imageByteSize, product, wrap32_natCast (enough.trans_lt small), Nat.zero_add]
  have start : ImageRows.empty.Filled size [] := .empty (by rw [sizeOf]; exact Nat.mul_pos wide positive)
  obtain ⟨image, filled, reads⟩ := loadPackets_reads rowed positive packets sized start (dvd_zero _)
    (by rw [List.length_nil, Nat.zero_add]; exact small) (.inr ⟨_, reach, imageByteSize⟩)
  rw [List.nil_append] at filled
  have total := filled.length
  have begun := filled.begun
  rw [flatten_length sized] at total
  have count : image.rows.length = height := by
    have upper : (expand packets).length * pixelSize < (height + 1) * size := by
      rw [sizeOf]
      calc (expand packets).length * pixelSize < (width * height + width) * pixelSize :=
            Nat.mul_lt_mul_of_pos_right fewer positive
        _ = (height + 1) * (width * pixelSize) := by ring
    have lower : height * size ≤ (expand packets).length * pixelSize := by
      rw [sizeOf]
      calc height * (width * pixelSize) = width * height * pixelSize := by ring
        _ ≤ (expand packets).length * pixelSize := enough
    have fewer : image.rows.length < height + 1 := by
      apply Nat.lt_of_mul_lt_mul_right (a := size)
      omega
    have more : height < image.rows.length + 1 := by
      apply Nat.lt_of_mul_lt_mul_right (a := size)
      rw [Nat.add_mul]
      omega
    omega
  refine ⟨image.rows, ?_, ⟨by rw [high, count], filled.full⟩, ?_⟩
  · intro r rest next
    unfold loadRows
    rw [if_pos packed]
    exact map_ok (reads r.ahead.length r rest next le_rfl)
  · have rowBytes : image.rows.flatten.length = width * height * pixelSize := by
      rw [flatten_length filled.full, count, sizeOf]
      ring
    rw [flatten_take sized _ covered, ← filled.all, ← rowBytes, List.take_left]

end

end RayTraceRenderer.Targa
