import Mathlib.Data.Rat.Cast.Order
import RayTraceRenderer.Foundation.Stratification
import RayTraceRenderer.Managed.Halton

/-! The tables that InitHaltonSequence fills are stratified.

As many entries in a row as there are boxes meet every box once, and they do so from any entry on:
the tables may be read in pieces, and each piece covers the unit cube.
-/

set_option autoImplicit false

namespace RayTraceRenderer.Managed.HaltonTool

open RadicalInverse
open scoped Function

variable {K : Type} [Field K] [LinearOrder K]

def EntryInCell (table : List K) (b k j n : Nat) : Prop := ∃ value, table[n]? = some value ∧ InCell b k j value

theorem entryInCell_map (num b k j n : Nat) :
    EntryInCell ((List.range num).map (radicalInverse (K := K) b)) b k j n ↔
      n < num ∧ InCell b k j (radicalInverse b n : K) := by
  constructor
  · rintro ⟨value, entry, inside⟩
    obtain ⟨index, listed, rfl⟩ := List.getElem?_map .. ▸ entry |> Option.map_eq_some_iff.mp
    obtain ⟨below, rfl⟩ := List.getElem?_eq_some_iff.mp listed
    rw [List.length_range] at below
    rw [List.getElem_range] at inside
    exact ⟨below, inside⟩
  · rintro ⟨below, inside⟩
    exact ⟨radicalInverse b n, by simp [below], inside⟩

def axes (k l m i j h : Nat) : List Axis := [⟨2, k, i⟩, ⟨3, l, j⟩, ⟨5, m, h⟩]

theorem axes_coprime (k l m i j h : Nat) : (axes k l m i j h).Pairwise (Nat.Coprime on Axis.cells) := by
  have two_three : Nat.Coprime (2 ^ k) (3 ^ l) := Nat.Coprime.pow k l (by decide)
  have two_five : Nat.Coprime (2 ^ k) (5 ^ m) := Nat.Coprime.pow k m (by decide)
  have three_five : Nat.Coprime (3 ^ l) (5 ^ m) := Nat.Coprime.pow l m (by decide)
  simp only [axes, List.pairwise_cons, List.forall_mem_cons, Function.onFun, Axis.cells]
  exact ⟨⟨two_three, two_five, by simp⟩, ⟨three_five, by simp⟩, by simp⟩

theorem axes_boxes (k l m i j h : Nat) : ((axes k l m i j h).map Axis.cells).prod = 2 ^ k * 3 ^ l * 5 ^ m := by
  simp [axes, Axis.cells, Nat.mul_assoc]

variable [IsStrictOrderedRing K]

theorem initHaltonSequence_stratified : ∃ halton2 halton3 halton5 : List K,
    (∃ fuel, initHaltonSequence fuel = some (halton2, halton3, halton5)) ∧
      ∀ k l m start, start + 2 ^ k * 3 ^ l * 5 ^ m ≤ haltonNum → ∀ i < 2 ^ k, ∀ j < 3 ^ l, ∀ h < 5 ^ m,
        ∃! n, (start ≤ n ∧ n < start + 2 ^ k * 3 ^ l * 5 ^ m) ∧
          EntryInCell halton2 2 k i n ∧ EntryInCell halton3 3 l j n ∧ EntryInCell halton5 5 m h n := by
  refine ⟨_, _, _, initHaltonSequence_eq, ?_⟩
  intro k l m start within i i_lt j j_lt h h_lt
  have inside : ∀ axis ∈ axes k l m i j h, 2 ≤ axis.base ∧ axis.cell < axis.cells := by
    simp [axes, Axis.cells, i_lt, j_lt, h_lt]
  obtain ⟨n, ⟨row, inBox⟩, unique⟩ := existsUnique_box (K := K) _ (axes_coprime k l m i j h) inside start
  rw [axes_boxes] at row unique
  have below : n < haltonNum := by omega
  simp only [axes, List.forall_mem_cons] at inBox
  obtain ⟨cell2, cell3, cell5, _⟩ := inBox
  refine ⟨n, ⟨row, ?_⟩, ?_⟩
  · simp only [entryInCell_map]
    exact ⟨⟨below, cell2⟩, ⟨below, cell3⟩, ⟨below, cell5⟩⟩
  · rintro n' ⟨row', met⟩
    simp only [entryInCell_map] at met
    obtain ⟨⟨_, cell2'⟩, ⟨_, cell3'⟩, ⟨_, cell5'⟩⟩ := met
    apply unique n' ⟨row', ?_⟩
    simp [axes, cell2', cell3', cell5']

theorem initHaltonSequence_stratified_rat : ∃ halton2 halton3 halton5 : List Rat,
    (∃ fuel, initHaltonSequence fuel = some (halton2, halton3, halton5)) ∧
      ∃! n, (1970 ≤ n ∧ n < 2000) ∧
        EntryInCell halton2 2 1 1 n ∧ EntryInCell halton3 3 1 2 n ∧ EntryInCell halton5 5 1 4 n := by
  obtain ⟨halton2, halton3, halton5, filled, boxes⟩ := initHaltonSequence_stratified (K := Rat)
  refine ⟨halton2, halton3, halton5, filled, ?_⟩
  exact boxes 1 1 1 1970 (by decide) 1 (by decide) 2 (by decide) 4 (by decide)

end RayTraceRenderer.Managed.HaltonTool
