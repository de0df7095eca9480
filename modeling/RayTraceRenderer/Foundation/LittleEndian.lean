import Mathlib.Data.Nat.Digits.Lemmas

/-! Numbers as bytes, the least significant byte first. -/

set_option autoImplicit false

namespace RayTraceRenderer.LittleEndian

def bytes (width value : Nat) : List UInt8 :=
  (List.range width).map fun i => UInt8.ofNat (value / 256 ^ i)

def value (bytes : List UInt8) : Nat := Nat.ofDigits 256 (bytes.map UInt8.toNat)

@[simp] theorem bytes_length (width value : Nat) : (bytes width value).length = width := by
  unfold bytes
  rw [List.length_map, List.length_range]

theorem value_bytes (width n : Nat) : value (bytes width n) = n % 256 ^ width := by
  unfold value bytes
  induction width with
  | zero => simp [Nat.mod_one]
  | succ width ih =>
    rw [List.range_succ, List.map_append, List.map_append, Nat.ofDigits_append, ih, Nat.mod_pow_succ]
    simp

theorem value_lt (bytes : List UInt8) : value bytes < 256 ^ bytes.length := by
  unfold value
  rw [← List.length_map UInt8.toNat]
  apply Nat.ofDigits_lt_base_pow_length (by decide)
  intro digit member
  obtain ⟨byte, -, rfl⟩ := List.mem_map.mp member
  exact byte.toNat_lt

theorem bytes_succ (width n : Nat) : bytes (width + 1) n = UInt8.ofNat n :: bytes width (n / 256) := by
  unfold bytes
  rw [List.range_succ_eq_map, List.map_cons, List.map_map, Nat.pow_zero, Nat.div_one]
  congr 1
  apply List.map_congr_left
  intro i _
  simp only [Function.comp_apply]
  rw [Nat.div_div_eq_div_mul, ← Nat.pow_succ']

theorem bytes_value (front : List UInt8) : bytes front.length (value front) = front := by
  induction front with
  | nil => rfl
  | cons byte rest ih =>
    have split : value (byte :: rest) = byte.toNat + 256 * value rest := Nat.ofDigits_cons
    have low : byte.toNat < 256 := byte.toNat_lt
    rw [List.length_cons, bytes_succ, split]
    congr 1
    · apply UInt8.toNat_inj.mp
      simp
    · rw [Nat.add_mul_div_left _ _ (by decide), Nat.div_eq_of_lt low, Nat.zero_add, ih]

/-! ## Int32 -/

def ofInt32 (value : Int32) : List UInt8 := bytes 4 value.toUInt32.toNat

def toInt32 (bytes : List UInt8) : Int32 := (UInt32.ofNat (value bytes)).toInt32

@[simp] theorem ofInt32_length (value : Int32) : (ofInt32 value).length = 4 := bytes_length 4 _

@[simp] theorem toInt32_ofInt32 (value : Int32) : toInt32 (ofInt32 value) = value := by
  unfold toInt32 ofInt32
  have inRange : value.toUInt32.toNat < 256 ^ 4 := value.toUInt32.toNat_lt
  rw [value_bytes, Nat.mod_eq_of_lt inRange, UInt32.ofNat_toNat, Int32.toInt32_toUInt32]

theorem ofInt32_toInt32 {four : List UInt8} (length : four.length = 4) : ofInt32 (toInt32 four) = four := by
  have inRange : value four < UInt32.size := by
    have bound := value_lt four
    rw [length] at bound
    exact bound
  unfold ofInt32 toInt32
  rw [UInt32.toUInt32_toInt32, UInt32.toNat_ofNat_of_lt' inRange, ← length, bytes_value]

/-! ## Int16 -/

def ofInt16 (value : Int16) : List UInt8 := bytes 2 value.toUInt16.toNat

def toInt16 (bytes : List UInt8) : Int16 := (UInt16.ofNat (value bytes)).toInt16

@[simp] theorem ofInt16_length (value : Int16) : (ofInt16 value).length = 2 := bytes_length 2 _

@[simp] theorem toInt16_ofInt16 (value : Int16) : toInt16 (ofInt16 value) = value := by
  unfold toInt16 ofInt16
  have inRange : value.toUInt16.toNat < 256 ^ 2 := value.toUInt16.toNat_lt
  rw [value_bytes, Nat.mod_eq_of_lt inRange, UInt16.ofNat_toNat, Int16.toInt16_toUInt16]

end RayTraceRenderer.LittleEndian
