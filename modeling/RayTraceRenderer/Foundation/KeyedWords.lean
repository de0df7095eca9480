import Mathlib.Data.List.Basic

/-! Sequences of words in which some words are keys.

A key and the words up to the next key are a group, and every sequence is some leading words
that are no keys and then groups.
-/

set_option autoImplicit false

namespace RayTraceRenderer.KeyedWords

structure WordGroup (α : Type) where
  key : α
  inputs : List α

variable {α : Type}

def WordGroup.words (group : WordGroup α) : List α := group.key :: group.inputs

def words (groups : List (WordGroup α)) : List α := groups.flatMap WordGroup.words

@[simp] theorem words_nil : words ([] : List (WordGroup α)) = [] := rfl

@[simp] theorem words_cons (group : WordGroup α) (rest : List (WordGroup α)) :
    words (group :: rest) = group.key :: (group.inputs ++ words rest) := by
  rw [words, List.flatMap_cons]
  rfl

theorem length_le_words (groups : List (WordGroup α)) : groups.length ≤ (words groups).length := by
  induction groups with
  | nil => exact Nat.le_refl 0
  | cons group rest ih =>
    rw [words_cons, List.length_cons, List.length_cons, List.length_append]
    omega

def WordGroup.Proper (IsKey : α → Prop) (group : WordGroup α) : Prop :=
  IsKey group.key ∧ ∀ word ∈ group.inputs, ¬ IsKey word

theorem exists_groups (IsKey : α → Prop) (sequence : List α) :
    ∃ leading groups, sequence = leading ++ words groups ∧ (∀ word ∈ leading, ¬ IsKey word) ∧
      ∀ group ∈ groups, WordGroup.Proper IsKey group := by
  induction sequence with
  | nil => exact ⟨[], [], rfl, by simp, by simp⟩
  | cons word rest ih =>
    obtain ⟨leading, groups, same, plain, proper⟩ := ih
    by_cases key : IsKey word
    · refine ⟨[], ⟨word, leading⟩ :: groups, ?_, by simp, ?_⟩
      · rw [same, words_cons]
        rfl
      · intro group member
        rcases List.mem_cons.mp member with first | later
        · subst first
          exact ⟨key, plain⟩
        · exact proper group later
    · refine ⟨word :: leading, groups, ?_, ?_, proper⟩
      · rw [same]
        rfl
      · intro other member
        rcases List.mem_cons.mp member with first | later
        · subst first
          exact key
        · exact plain other later

end RayTraceRenderer.KeyedWords
