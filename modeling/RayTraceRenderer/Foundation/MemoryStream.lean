import RayTraceRenderer.Foundation.Exception
import RayTraceRenderer.Foundation.LittleEndian
import Mathlib.Data.List.TakeDrop

/-! A stream over a growing array of bytes, with a writer and a reader of integers.

The array is longer than what was written, and it is handed out whole.
-/

set_option autoImplicit false

namespace RayTraceRenderer

/-- The length of the array is the capacity. -/
structure MemoryStream where
  buffer : List UInt8
  length : Nat
  position : Nat
  fits : length ≤ buffer.length
  deriving DecidableEq

def overwrite (array : List UInt8) (start : Nat) (bytes : List UInt8) : List UInt8 :=
  array.take start ++ bytes ++ array.drop (start + bytes.length)

theorem overwrite_length {array bytes : List UInt8} {start : Nat} (inside : start + bytes.length ≤ array.length) :
    (overwrite array start bytes).length = array.length := by
  simp only [overwrite, List.length_append, List.length_take, List.length_drop]
  omega

theorem overwrite_nil (array : List UInt8) (start : Nat) : overwrite array start [] = array := by
  simp [overwrite]

/-- Writing into a file: a gap before the position is filled with zeros. -/
def splice (contents : List UInt8) (position : Nat) (bytes : List UInt8) : List UInt8 :=
  contents.takeD position 0 ++ bytes ++ contents.drop (position + bytes.length)

theorem takeD_eq_append {α : Type} {list : List α} {n : Nat} (long : list.length ≤ n) (default : α) :
    list.takeD n default = list ++ List.replicate (n - list.length) default := by
  induction list generalizing n with
  | nil => simp
  | cons head tail ih =>
    cases n with
    | zero => simp at long
    | succ n =>
      rw [List.length_cons, Nat.add_le_add_iff_right] at long
      simp [List.takeD, ih long]

theorem splice_end (contents bytes : List UInt8) : splice contents contents.length bytes = contents ++ bytes := by
  unfold splice
  rw [List.takeD_eq_take _ le_rfl, List.take_length, List.drop_eq_nil_of_le (Nat.le_add_right _ _), List.append_nil]

theorem splice_start {front rest bytes : List UInt8} (same : front.length = bytes.length) :
    splice (front ++ rest) 0 bytes = bytes ++ rest := by
  unfold splice
  rw [List.takeD_zero, List.nil_append, Nat.zero_add, ← same, List.drop_left]

namespace MemoryStream

/-- `new MemoryStream()` -/
def new : MemoryStream := ⟨[], 0, 0, le_rfl⟩

/-- `new MemoryStream(data)` -/
def ofBytes (data : List UInt8) : MemoryStream := ⟨data, data.length, 0, le_rfl⟩

def contents (s : MemoryStream) : List UInt8 := s.buffer.take s.length

@[simp] theorem contents_length (s : MemoryStream) : s.contents.length = s.length := by
  unfold contents
  rw [List.length_take, Nat.min_eq_left s.fits]

/-- The array with room for a number of bytes. A new array has at least 256 of them and
twice as many as the old one. -/
def grown (s : MemoryStream) (value : Nat) : List UInt8 :=
  if s.buffer.length < value then
    let capacity := max (max value 256) (2 * s.buffer.length)
    s.contents ++ List.replicate (capacity - s.length) 0
  else s.buffer

theorem grown_take (s : MemoryStream) (value : Nat) : (s.grown value).take s.length = s.contents := by
  unfold grown
  split
  · exact List.take_left' s.contents_length
  · rfl

theorem le_grown_length (s : MemoryStream) (value : Nat) :
    value ≤ (s.grown value).length ∧ s.length ≤ (s.grown value).length := by
  have fits := s.fits
  unfold grown
  split
  · simp only [List.length_append, List.length_replicate, contents_length]
    omega
  · omega

theorem grown_of_fits {s : MemoryStream} {value : Nat} (fits : value ≤ s.buffer.length) :
    s.grown value = s.buffer := if_neg (not_lt.mpr fits)

theorem lt_grown_length {s : MemoryStream} {value : Nat} (full : s.buffer.length < value) :
    s.buffer.length < (s.grown value).length :=
  full.trans_le (s.le_grown_length value).1

/-- The array with room for a number of bytes, and with zeros between the end and a position. -/
def cleared (s : MemoryStream) (value position : Nat) : List UInt8 :=
  overwrite (s.grown value) s.length (List.replicate (position - s.length) 0)

theorem cleared_length (s : MemoryStream) {value position : Nat} (inside : position ≤ value) :
    (s.cleared value position).length = (s.grown value).length := by
  have room := s.le_grown_length value
  apply overwrite_length
  rw [List.length_replicate]
  omega

theorem cleared_inside (s : MemoryStream) {value position : Nat} (inside : position ≤ s.length) :
    s.cleared value position = s.grown value := by
  unfold cleared
  rw [Nat.sub_eq_zero_of_le inside, List.replicate_zero, overwrite_nil]

/-- Before the position the array holds the contents, and zeros in a gap. -/
theorem cleared_take (s : MemoryStream) (value position : Nat) :
    (s.cleared value position).take position = s.contents.takeD position 0 := by
  rcases Nat.le_total position s.length with inside | beyond
  · rw [s.cleared_inside inside, List.takeD_eq_take _ (by rwa [contents_length]), ← s.grown_take value,
      List.take_take, Nat.min_eq_left inside]
  · have gap : (s.contents ++ List.replicate (position - s.length) (0 : UInt8)).length = position := by
      rw [List.length_append, contents_length, List.length_replicate]
      omega
    rw [takeD_eq_append (by rwa [contents_length]), contents_length]
    unfold cleared overwrite
    rw [grown_take]
    exact List.take_left' gap

/-- After the position it holds the contents, as far as they go. -/
theorem cleared_drop (s : MemoryStream) {value position : Nat} (before : position ≤ value) :
    ((s.cleared value position).take (max s.length value)).drop value = s.contents.drop value := by
  rcases Nat.le_total s.length value with short | long
  · have nothing : (s.contents.drop value) = [] := List.drop_eq_nil_of_le (by rwa [contents_length])
    rw [nothing, Nat.max_eq_right short]
    exact List.drop_eq_nil_of_le (List.length_take_le _ _)
  · rw [s.cleared_inside (before.trans long), Nat.max_eq_left long, grown_take]

def setLength (s : MemoryStream) (value : Nat) : MemoryStream where
  buffer := s.cleared value value
  length := value
  position := min s.position value
  fits := by
    rw [s.cleared_length le_rfl]
    exact (s.le_grown_length value).1

def seek (s : MemoryStream) (position : Nat) : MemoryStream := { s with position }

def write (s : MemoryStream) (bytes : List UInt8) : MemoryStream where
  buffer := overwrite (s.cleared (s.position + bytes.length) s.position) s.position bytes
  length := max s.length (s.position + bytes.length)
  position := s.position + bytes.length
  fits := by
    have room := s.le_grown_length (s.position + bytes.length)
    have size := s.cleared_length (Nat.le_add_right s.position bytes.length)
    rw [overwrite_length (by omega)]
    omega

theorem write_buffer_length (s : MemoryStream) (bytes : List UInt8) :
    (s.write bytes).buffer.length = (s.grown (s.position + bytes.length)).length := by
  have room := s.le_grown_length (s.position + bytes.length)
  have size := s.cleared_length (Nat.le_add_right s.position bytes.length)
  show (overwrite (s.cleared (s.position + bytes.length) s.position) s.position bytes).length = _
  rw [overwrite_length (by omega), size]

/-- Of the array, a write is seen in the contents only. -/
theorem write_contents (s : MemoryStream) (bytes : List UInt8) :
    (s.write bytes).contents = splice s.contents s.position bytes := by
  have before := s.cleared_take (s.position + bytes.length) s.position
  have after := s.cleared_drop (Nat.le_add_right s.position bytes.length)
  have written : (s.contents.takeD s.position 0 ++ bytes).length = s.position + bytes.length := by
    rw [List.length_append, List.takeD_length]
  calc (s.write bytes).contents
      = (overwrite (s.cleared (s.position + bytes.length) s.position) s.position bytes).take
          (max s.length (s.position + bytes.length)) := rfl
    _ = splice s.contents s.position bytes := by
      unfold overwrite splice
      rw [before, List.take_append, written, List.take_of_length_le (by omega), ← List.drop_take, after]

/-- At the end, or behind it, a write moves the end along. -/
theorem write_atEnd {s : MemoryStream} (behind : s.length ≤ s.position) (bytes : List UInt8) :
    (s.write bytes).position = (s.write bytes).length :=
  (Nat.max_eq_right (behind.trans (Nat.le_add_right _ _))).symm

theorem write_contents_atEnd {s : MemoryStream} (atEnd : s.position = s.length) (bytes : List UInt8) :
    (s.write bytes).contents = s.contents ++ bytes := by
  rw [write_contents, atEnd, ← s.contents_length, splice_end]

/-! ## BinaryWriter and BinaryReader -/

def writeInt32 (s : MemoryStream) (value : Int32) : MemoryStream := s.write (LittleEndian.ofInt32 value)

def remaining (s : MemoryStream) : List UInt8 := s.contents.drop s.position

def readInt32 (s : MemoryStream) : Except Exn (Int32 × MemoryStream) :=
  let bytes := s.remaining.take 4
  if bytes.length = 4 then .ok (LittleEndian.toInt32 bytes, s.seek (s.position + 4))
  else .error .endOfStream

@[simp] theorem ofBytes_remaining (data : List UInt8) : (ofBytes data).remaining = data := List.take_length

theorem readInt32_remaining {s : MemoryStream} {value : Int32} {rest : List UInt8}
    (next : s.remaining = LittleEndian.ofInt32 value ++ rest) :
    s.readInt32 = .ok (value, s.seek (s.position + 4)) ∧ (s.seek (s.position + 4)).remaining = rest := by
  have front : s.remaining.take 4 = LittleEndian.ofInt32 value := by
    rw [next]
    exact List.take_left' (LittleEndian.ofInt32_length value)
  constructor
  · unfold readInt32
    rw [front, if_pos (LittleEndian.ofInt32_length value), LittleEndian.toInt32_ofInt32]
  · have behind : (s.seek (s.position + 4)).remaining = s.remaining.drop 4 := by
      unfold remaining
      rw [List.drop_drop]
      rfl
    rw [behind, next]
    exact List.drop_left' (LittleEndian.ofInt32_length value)

end MemoryStream

end RayTraceRenderer
