import Mathlib.Data.List.Basic

/-! The exceptions of the managed code, and the accesses to arrays and lists that throw them. -/

set_option autoImplicit false

namespace RayTraceRenderer

inductive Exn where
  | indexOutOfRange
  | argumentOutOfRange
  | nullReference
  | overflow
  | endOfStream
  deriving DecidableEq, Repr

section
variable {ε α β : Type}

theorem bind_eq_ok {x : Except ε α} {f : α → Except ε β} {value : β} :
    x >>= f = .ok value ↔ ∃ mid, x = .ok mid ∧ f mid = .ok value := by
  cases x with
  | error why =>
    constructor
    · intro returned
      cases returned
    · rintro ⟨mid, same, -⟩
      cases same
  | ok mid => simp [bind, Except.bind]

theorem map_eq_ok {x : Except ε α} {f : α → β} {value : β} :
    x.map f = .ok value ↔ ∃ result, x = .ok result ∧ f result = value := by
  cases x <;> simp [Except.map]

theorem mapError_eq_ok {ε' : Type} {x : Except ε α} {f : ε → ε'} {value : α} :
    x.mapError f = .ok value ↔ x = .ok value := by
  cases x <;> simp [Except.mapError]

/-- What every step of a loop keeps, a loop that ends normally keeps. -/
theorem foldlM_keeps {f : β → α → Except ε β} (inv : β → Prop) (xs : List α)
    (step : ∀ x ∈ xs, ∀ acc acc', inv acc → f acc x = .ok acc' → inv acc') (acc acc' : β)
    (before : inv acc) (returned : xs.foldlM f acc = .ok acc') : inv acc' := by
  induction xs generalizing acc with
  | nil =>
    cases returned
    exact before
  | cons x rest ih =>
    rw [List.foldlM_cons, bind_eq_ok] at returned
    rcases returned with ⟨mid, first, returned⟩
    have later : ∀ y ∈ rest, ∀ acc acc', inv acc → f acc y = .ok acc' → inv acc' := by
      intro y member
      exact step y (List.mem_cons_of_mem x member)
    exact ih later mid (step x List.mem_cons_self acc mid before first) returned

/-- A loop that ends normally took every step, each from a value that the earlier ones kept. -/
theorem foldlM_steps {f : β → α → Except ε β} (inv : β → Prop) (xs : List α)
    (step : ∀ x ∈ xs, ∀ acc acc', inv acc → f acc x = .ok acc' → inv acc') {acc acc' : β}
    (before : inv acc) (returned : xs.foldlM f acc = .ok acc') :
    ∀ x ∈ xs, ∃ mid mid', inv mid ∧ f mid x = .ok mid' := by
  induction xs generalizing acc with
  | nil => simp
  | cons x rest ih =>
    rw [List.foldlM_cons, bind_eq_ok] at returned
    rcases returned with ⟨mid, first, returned⟩
    have later : ∀ y ∈ rest, ∀ acc acc', inv acc → f acc y = .ok acc' → inv acc' := by
      intro y member
      exact step y (List.mem_cons_of_mem x member)
    intro y member
    rcases List.mem_cons.mp member with rfl | member
    · exact ⟨acc, mid, before, first⟩
    · exact ih later (step x List.mem_cons_self acc mid before first) returned y member

theorem foldlM_returns {f : β → α → Except ε β} (xs : List α)
    (step : ∀ x ∈ xs, ∀ acc, ∃ acc', f acc x = .ok acc') (acc : β) : ∃ acc', xs.foldlM f acc = .ok acc' := by
  induction xs generalizing acc with
  | nil => exact ⟨acc, rfl⟩
  | cons x rest ih =>
    obtain ⟨mid, first⟩ := step x List.mem_cons_self acc
    obtain ⟨acc', later⟩ := ih (fun y member => step y (List.mem_cons_of_mem x member)) mid
    exact ⟨acc', by rw [List.foldlM_cons, first]; exact later⟩

theorem foldlM_congr {f g : β → α → Except ε β} (xs : List α) (same : ∀ x ∈ xs, ∀ acc, f acc x = g acc x) (acc : β) :
    xs.foldlM f acc = xs.foldlM g acc := by
  induction xs generalizing acc with
  | nil => rfl
  | cons x rest ih =>
    rw [List.foldlM_cons, List.foldlM_cons, same x List.mem_cons_self acc]
    congr 1
    funext mid
    exact ih (fun y member => same y (List.mem_cons_of_mem x member)) mid

/-- Elements that leave every value as it is can be left out of a loop. -/
theorem foldlM_filter {f : β → α → Except ε β} {xs : List α} {keep : α → Bool}
    (idle : ∀ x ∈ xs, keep x = false → ∀ acc, f acc x = .ok acc) (acc : β) :
    (xs.filter keep).foldlM f acc = xs.foldlM f acc := by
  induction xs generalizing acc with
  | nil => rfl
  | cons x rest ih =>
    have later : ∀ acc, (rest.filter keep).foldlM f acc = rest.foldlM f acc :=
      ih fun y member => idle y (List.mem_cons_of_mem x member)
    cases kept : keep x with
    | true => simp only [List.filter_cons_of_pos kept, List.foldlM_cons, later]
    | false =>
      rw [List.filter_cons_of_neg (by simp [kept]), List.foldlM_cons, idle x List.mem_cons_self kept, later]
      rfl

/-- The order of a loop does not matter to what it returns where two steps can be swapped. -/
theorem foldlM_perm {f : β → α → Except ε β} {xs ys : List α} (perm : xs.Perm ys)
    (swap : ∀ x ∈ xs, ∀ y ∈ xs, ∀ acc value,
      (f acc x >>= fun mid => f mid y) = .ok value → (f acc y >>= fun mid => f mid x) = .ok value)
    {acc value : β} (returned : xs.foldlM f acc = .ok value) : ys.foldlM f acc = .ok value := by
  induction perm generalizing acc with
  | nil => exact returned
  | cons x perm ih =>
    rw [List.foldlM_cons, bind_eq_ok] at returned ⊢
    obtain ⟨mid, first, later⟩ := returned
    refine ⟨mid, first, ih ?_ later⟩
    intro y member z member'
    exact swap y (List.mem_cons_of_mem x member) z (List.mem_cons_of_mem x member')
  | swap x y rest =>
    simp only [List.foldlM_cons] at returned ⊢
    rw [← bind_assoc, bind_eq_ok] at returned ⊢
    obtain ⟨mid, first, later⟩ := returned
    exact ⟨mid, swap y (by simp) x (by simp) acc mid first, later⟩
  | trans first second ih ih' =>
    apply ih' _ (ih swap returned)
    intro x member y member'
    exact swap x (first.mem_iff.mpr member) y (first.mem_iff.mpr member')

theorem mapM_length {f : α → Except ε β} {xs : List α} {values : List β} (returned : xs.mapM f = .ok values) :
    values.length = xs.length := by
  induction xs generalizing values with
  | nil =>
    cases returned
    rfl
  | cons x rest ih =>
    simp only [List.mapM_cons, bind_eq_ok] at returned
    obtain ⟨value, -, later, each, same⟩ := returned
    cases same
    rw [List.length_cons, List.length_cons, ih each]

theorem mapM_mem {f : α → Except ε β} {xs : List α} {values : List β} (returned : xs.mapM f = .ok values)
    {value : β} (member : value ∈ values) : ∃ x, f x = .ok value := by
  induction xs generalizing values with
  | nil =>
    cases returned
    cases member
  | cons x rest ih =>
    simp only [List.mapM_cons, bind_eq_ok] at returned
    obtain ⟨first, one, later, each, same⟩ := returned
    cases same
    rcases List.mem_cons.mp member with head | tail
    · subst head
      exact ⟨x, one⟩
    · exact ih each tail

theorem mapM_mem_ok {f : α → Except ε β} {xs : List α} {values : List β} (returned : xs.mapM f = .ok values) :
    ∀ x ∈ xs, ∃ value, f x = .ok value := by
  induction xs generalizing values with
  | nil => simp
  | cons x rest ih =>
    simp only [List.mapM_cons, bind_eq_ok] at returned
    obtain ⟨first, one, later, each, -⟩ := returned
    intro y member
    rcases List.mem_cons.mp member with head | tail
    · exact ⟨first, head ▸ one⟩
    · exact ih each y tail

theorem mapM_perm {f : α → Except ε β} {xs ys : List α} (perm : xs.Perm ys) {values : List β}
    (returned : xs.mapM f = .ok values) : ∃ values', ys.mapM f = .ok values' ∧ values.Perm values' := by
  induction perm generalizing values with
  | nil => exact ⟨values, returned, .refl _⟩
  | cons x perm ih =>
    simp only [List.mapM_cons, bind_eq_ok] at returned ⊢
    obtain ⟨first, one, later, each, same⟩ := returned
    cases same
    obtain ⟨later', each', rearranged⟩ := ih each
    exact ⟨first :: later', ⟨first, one, later', each', rfl⟩, rearranged.cons first⟩
  | swap x y rest =>
    simp only [List.mapM_cons, bind_eq_ok] at returned ⊢
    obtain ⟨first, one, later, ⟨second, two, last, each, same⟩, same'⟩ := returned
    cases same
    cases same'
    exact ⟨second :: first :: last, ⟨second, two, _, ⟨first, one, last, each, rfl⟩, rfl⟩, .swap second first last⟩
  | trans _ _ ih ih' =>
    obtain ⟨middle, each, rearranged⟩ := ih returned
    obtain ⟨values', each', rearranged'⟩ := ih' each
    exact ⟨values', each', rearranged.trans rearranged'⟩

theorem mapM_singletons {f : α → Except ε β} {xs : List α} {parts : List (List β)}
    (returned : xs.mapM (fun x => (f x).map fun value => [value]) = .ok parts) :
    ∃ values, xs.mapM f = .ok values ∧ parts.flatten = values := by
  induction xs generalizing parts with
  | nil =>
    cases returned
    exact ⟨[], rfl, rfl⟩
  | cons x rest ih =>
    simp only [List.mapM_cons, bind_eq_ok, map_eq_ok] at returned ⊢
    obtain ⟨part, ⟨value, one, single⟩, later, each, same⟩ := returned
    cases same
    obtain ⟨values, each', flat⟩ := ih each
    refine ⟨value :: values, ⟨value, one, values, each', rfl⟩, ?_⟩
    rw [List.flatten_cons, ← single, flat]
    rfl

/-- A loop whose steps append to a list appends what each of them does, in order. -/
theorem foldlM_appends {γ : Type} {f : β → α → Except ε β} {view : β → List γ} {part : α → Except ε (List γ)}
    (inv : β → Prop) (xs : List α)
    (step : ∀ x ∈ xs, ∀ acc acc', inv acc → f acc x = .ok acc' →
      inv acc' ∧ ∃ new, part x = .ok new ∧ view acc' = view acc ++ new)
    {acc acc' : β} (before : inv acc) (returned : xs.foldlM f acc = .ok acc') :
    inv acc' ∧ ∃ parts, xs.mapM part = .ok parts ∧ view acc' = view acc ++ parts.flatten := by
  induction xs generalizing acc with
  | nil =>
    cases returned
    exact ⟨before, [], rfl, (List.append_nil _).symm⟩
  | cons x rest ih =>
    rw [List.foldlM_cons, bind_eq_ok] at returned
    obtain ⟨mid, first, later⟩ := returned
    obtain ⟨between, new, made, appended⟩ := step x List.mem_cons_self acc mid before first
    obtain ⟨after, parts, each, whole⟩ :=
      ih (fun y member => step y (List.mem_cons_of_mem x member)) between later
    refine ⟨after, new :: parts, ?_, ?_⟩
    · rw [List.mapM_cons, made, each]
      rfl
    · rw [whole, appended, List.append_assoc, List.flatten_cons]

/-- A loop over images, whose steps are those of another loop carried over. -/
theorem foldlM_carry {α' β' : Type} {f : β → α → Except ε β} {g : β' → α' → Except ε β'} (carry : β → β')
    (image : α → α') (step : ∀ acc x, g (carry acc) (image x) = (f acc x).map carry) (xs : List α) (acc : β) :
    (xs.map image).foldlM g (carry acc) = (xs.foldlM f acc).map carry := by
  induction xs generalizing acc with
  | nil => rfl
  | cons x rest ih =>
    rw [List.map_cons, List.foldlM_cons, List.foldlM_cons, step]
    cases f acc x with
    | error why => rfl
    | ok mid => exact ih mid

/-- A sequence of values none of which throws. -/
theorem mapM_ok {f : α → Except ε β} {g : α → β} (xs : List α) (each : ∀ x ∈ xs, f x = .ok (g x)) :
    xs.mapM f = .ok (xs.map g) := by
  induction xs with
  | nil => rfl
  | cons x rest ih =>
    rw [List.mapM_cons, each x List.mem_cons_self, ih fun y member => each y (List.mem_cons_of_mem x member)]
    rfl

end

variable {α : Type}

/-- `array[index]` of a managed array. -/
def arrayGet (array : List α) (index : Int) : Except Exn α :=
  if 0 ≤ index then (array[index.toNat]?).elim (.error .indexOutOfRange) .ok
  else .error .indexOutOfRange

/-- `list[index]` of a `List<T>`. -/
def listGet (list : List α) (index : Int) : Except Exn α :=
  if 0 ≤ index then (list[index.toNat]?).elim (.error .argumentOutOfRange) .ok
  else .error .argumentOutOfRange

/-- `array[index] = value`. -/
def arraySet (array : List α) (index : Int) (value : α) : Except Exn (List α) :=
  if 0 ≤ index ∧ index < array.length then .ok (array.set index.toNat value)
  else .error .indexOutOfRange

/-- `new T[size]`, of default values. -/
def newArray (size : Int) (value : α) : Except Exn (List α) :=
  if 0 ≤ size then .ok (List.replicate size.toNat value) else .error .overflow

theorem arrayGet_eq_ok {array : List α} {index : Int} {value : α} :
    arrayGet array index = .ok value ↔ 0 ≤ index ∧ array[index.toNat]? = some value := by
  unfold arrayGet
  by_cases nonneg : 0 ≤ index
  · cases array[index.toNat]? <;> simp [nonneg]
  · simp [nonneg]

theorem listGet_map {β : Type} (f : α → β) (list : List α) (index : Int) :
    listGet (list.map f) index = (listGet list index).map f := by
  unfold listGet
  split
  · rw [List.getElem?_map]
    cases list[index.toNat]? <;> rfl
  · rfl

theorem listGet_eq_ok {list : List α} {index : Int} {value : α} :
    listGet list index = .ok value ↔ 0 ≤ index ∧ list[index.toNat]? = some value := by
  unfold listGet
  by_cases nonneg : 0 ≤ index
  · cases list[index.toNat]? <;> simp [nonneg]
  · simp [nonneg]

theorem arraySet_eq_ok {array array' : List α} {index : Int} {value : α} :
    arraySet array index value = .ok array' ↔
      0 ≤ index ∧ index < array.length ∧ array' = array.set index.toNat value := by
  unfold arraySet
  split
  · rename_i inside
    constructor
    · intro same
      exact ⟨inside.1, inside.2, (Except.ok.inj same).symm⟩
    · rintro ⟨-, -, rfl⟩
      rfl
  · rename_i outside
    constructor
    · intro same
      cases same
    · rintro ⟨lower, upper, -⟩
      exact absurd ⟨lower, upper⟩ outside

theorem arraySet_length {array array' : List α} {index : Int} {value : α}
    (returned : arraySet array index value = .ok array') : array'.length = array.length := by
  rw [(arraySet_eq_ok.mp returned).2.2, List.length_set]

theorem arraySet_forall {holds : α → Prop} {array array' : List α} {index : Int} {value : α}
    (returned : arraySet array index value = .ok array') (before : ∀ x ∈ array, holds x) (new : holds value) :
    ∀ x ∈ array', holds x := by
  intro x member
  rw [(arraySet_eq_ok.mp returned).2.2] at member
  rcases List.mem_or_eq_of_mem_set member with old | rfl
  · exact before x old
  · exact new

theorem newArray_eq_ok {array : List α} {size : Int} {value : α} :
    newArray size value = .ok array ↔ 0 ≤ size ∧ array = List.replicate size.toNat value := by
  unfold newArray
  split
  · rename_i nonneg
    constructor
    · intro same
      exact ⟨nonneg, (Except.ok.inj same).symm⟩
    · rintro ⟨-, rfl⟩
      rfl
  · rename_i negative
    constructor
    · intro same
      cases same
    · rintro ⟨nonneg, -⟩
      exact absurd nonneg negative

theorem arrayGet_mem {array : List α} {index : Int} {value : α} (found : arrayGet array index = .ok value) :
    value ∈ array :=
  List.mem_of_getElem? (arrayGet_eq_ok.mp found).2

theorem exists_arrayGet_iff {array : List α} {index : Int} :
    (∃ value, arrayGet array index = .ok value) ↔ 0 ≤ index ∧ index < array.length := by
  simp only [arrayGet_eq_ok]
  constructor
  · rintro ⟨value, nonneg, found⟩
    obtain ⟨bound, -⟩ := List.getElem?_eq_some_iff.mp found
    omega
  · rintro ⟨nonneg, bound⟩
    exact ⟨array[index.toNat], nonneg, List.getElem?_eq_getElem (by omega)⟩

theorem listGet_mem {list : List α} {index : Int} {value : α} (found : listGet list index = .ok value) :
    value ∈ list :=
  List.mem_of_getElem? (listGet_eq_ok.mp found).2

end RayTraceRenderer
