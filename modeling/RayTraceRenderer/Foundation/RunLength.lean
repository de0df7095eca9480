import Mathlib.Data.List.Basic

/-! Packets of pixels, which repeat one pixel or list several.

The first byte of a packet has the kind in its highest bit and one less than the count in
the others.
-/

set_option autoImplicit false

namespace RayTraceRenderer.RunLength

abbrev Pixel := List UInt8

/-- A packet has up to 128 pixels, and one at least. -/
inductive Packet where
  | run (more : Fin 128) (pixel : Pixel)
  | raw (pixels : List Pixel) (nonempty : pixels ≠ []) (few : pixels.length ≤ 128)

namespace Packet

def pixels : Packet → List Pixel
  | .run more pixel => List.replicate (more + 1) pixel
  | .raw pixels _ _ => pixels

def bytes : Packet → List UInt8
  | .run more pixel => UInt8.ofNat (128 + more) :: pixel
  | .raw pixels _ _ => UInt8.ofNat (pixels.length - 1) :: pixels.flatten

theorem bytes_length_pos (packet : Packet) : 0 < packet.bytes.length := by
  cases packet <;> exact Nat.succ_pos _

end Packet

def expand (packets : List Packet) : List Pixel := packets.flatMap Packet.pixels

def encode (packets : List Packet) : List UInt8 := packets.flatMap Packet.bytes

@[simp] theorem expand_nil : expand [] = [] := rfl

@[simp] theorem expand_cons (packet : Packet) (rest : List Packet) :
    expand (packet :: rest) = packet.pixels ++ expand rest := List.flatMap_cons

@[simp] theorem encode_cons (packet : Packet) (rest : List Packet) :
    encode (packet :: rest) = packet.bytes ++ encode rest := List.flatMap_cons

def Reach (count : Nat) (packets : List Packet) : Prop :=
  (expand packets.dropLast).length < count ∧ count ≤ (expand packets).length

theorem Reach.cons {count : Nat} {packet : Packet} {rest : List Packet} (reach : Reach count (packet :: rest)) :
    0 < count ∧ (count ≤ packet.pixels.length ∧ rest = [] ∨ packet.pixels.length < count ∧
      Reach (count - packet.pixels.length) rest) := by
  obtain ⟨before, after⟩ := reach
  cases rest with
  | nil =>
    rw [expand_cons, expand_nil, List.append_nil] at after
    exact ⟨Nat.zero_lt_of_lt before, .inl ⟨after, rfl⟩⟩
  | cons next rest =>
    rw [List.dropLast_cons_cons, expand_cons, List.length_append] at before
    rw [expand_cons, List.length_append] at after
    refine ⟨Nat.zero_lt_of_lt before, .inr ⟨by omega, ?_, ?_⟩⟩ <;> omega

end RayTraceRenderer.RunLength
