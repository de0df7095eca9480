import Mathlib.Data.List.Induction
import RayTraceRenderer.CommandLine.ArgumentParser

/-! What holds of a parser whose arguments were added under names that no other has. -/

set_option autoImplicit false

namespace RayTraceRenderer.CommandLine

namespace Any

/-- A variable after some inputs: a string is the last of them, a vector has all. -/
def fed : Any → List Text → Any
  | string held, inputs => .string (inputs.getLastD held)
  | strings held, inputs => .strings (held ++ inputs)

@[simp] theorem fed_nil (held : Any) : held.fed [] = held := by
  cases held <;> simp [fed]

theorem fed_fed (held : Any) (first second : List Text) :
    (held.fed first).fed second = held.fed (first ++ second) := by
  cases held with
  | string held =>
    induction second using List.reverseRecOn with
    | nil => simp [fed]
    | append_singleton second last ih => simp [fed, ← List.append_assoc]
  | strings held => simp [fed]

end Any

/-- A variable has the type that `insertArgument` chose for the argument. -/
def Argument.Holds (argument : Argument) (held : Any) : Prop :=
  ∃ inputs, held = argument.initially.fed inputs

theorem Argument.Holds.fed {argument : Argument} {held : Any} (holds : argument.Holds held)
    (inputs : List Text) : argument.Holds (held.fed inputs) := by
  obtain ⟨before, same⟩ := holds
  subst same
  exact ⟨before ++ inputs, Any.fed_fed argument.initially before inputs⟩

/-- No cast fails where the argument expects an input. -/
theorem Argument.put_eq_ok {argument : Argument} {held : Any} {consumed : Nat}
    (holds : argument.Holds held) (expected : argument.nargs.expects consumed = true) (el : Text) :
    argument.put held el = .ok (held.fed [el]) := by
  obtain ⟨inputs, same⟩ := holds
  subst same
  unfold Argument.put
  split
  · next one =>
    rw [Argument.initially, one]
    rfl
  · next several =>
    have vector : argument.initially = .strings [] := by
      unfold Argument.initially
      cases form : argument.nargs with
      | fixed count =>
        rw [form] at expected
        have positive : consumed < count := by simpa [Nargs.expects] using expected
        have many : ¬ count ≤ 1 := by
          intro few
          exact several (by rw [form, show count = 1 by omega])
        exact if_neg many
      | oneOrMore => rfl
      | zeroOrMore => rfl
    rw [vector]
    rfl

namespace ArgumentParser

/-- A place of `variables_` has a variable for an argument. -/
def Stored (values : List Any) (place : Nat) (argument : Argument) : Prop :=
  ∃ held, values[place]? = some held ∧ argument.Holds held

def feed (values : List Any) (place : Nat) (inputs : List Text) : List Any :=
  values.modify place fun held => held.fed inputs

theorem feed_getElem? (values : List Any) (place other : Nat) (inputs : List Text) :
    (feed values place inputs)[other]? =
      values[other]?.map fun held => held.fed (if place = other then inputs else []) := by
  rw [feed, List.getElem?_modify]
  by_cases same : place = other
  · simp [same]
  · simp [same]

theorem feed_nil (values : List Any) (place : Nat) : feed values place [] = values := by
  apply List.ext_getElem?
  intro other
  simp [feed_getElem?]

theorem Stored.feed {values : List Any} {place : Nat} {argument : Argument}
    (stored : Stored values place argument) (other : Nat) (inputs : List Text) :
    Stored (feed values other inputs) place argument := by
  obtain ⟨held, found, holds⟩ := stored
  refine ⟨_, ?_, holds.fed (if other = place then inputs else [])⟩
  rw [feed_getElem?, found]
  rfl

theorem feed_feed (values : List Any) (place : Nat) (first second : List Text) :
    feed (feed values place first) place second = feed values place (first ++ second) := by
  rw [feed, feed, feed, List.modify_modify_eq]
  congr 1
  funext held
  exact Any.fed_fed held first second

theorem store_eq_ok {values : List Any} {place consumed : Nat} {argument : Argument}
    (stored : Stored values place argument) (expected : argument.nargs.expects consumed = true)
    (el : Text) : store values argument place el = .ok (feed values place [el]) := by
  obtain ⟨held, found, holds⟩ := stored
  simp only [store, found, Argument.put_eq_ok holds expected el]
  refine congrArg Except.ok ?_
  apply List.ext_getElem?
  intro other
  rw [feed_getElem?, List.getElem?_set]
  by_cases same : place = other
  · subst same
    have bound : place < values.length := (List.getElem?_eq_some_iff.mp found).1
    simp only [found, bound, if_true, Option.map_some]
  · simp [same]

/-- What every argument that the parser has under its own names keeps. -/
structure WellFormed (parser : ArgumentParser) : Prop where
  sized : parser.values.length = parser.arguments.length
  stored : ∀ (place : Nat) (argument : Argument), parser.arguments[place]? = some argument →
    Stored parser.values place argument
  indexed : ∀ name place, parser.index name = some place → ∃ argument : Argument,
    parser.arguments[place]? = some argument ∧ parser.index argument.canonicalName = some place
  nameless : parser.index [] = none
  counted : parser.required = parser.arguments.countP fun argument => !argument.optional
  ended : parser.finalName ≠ [] → (parser.index parser.finalName).isSome = true

theorem new_wellFormed : new.WellFormed where
  sized := rfl
  stored := by
    intro place argument found
    cases found
  indexed := by
    intro name place found
    cases found
  nameless := rfl
  counted := rfl
  ended := by
    intro named
    exact absurd rfl named

theorem setIndex_apply (index : Text → Option Nat) (name other : Text) (place : Nat) :
    setIndex index name place other =
      if name ≠ [] ∧ other = name then some place else index other := by
  unfold setIndex
  cases name with
  | nil => simp
  | cons first rest => simp [Function.update_apply]

theorem insertArgument_index (parser : ArgumentParser) (arg : Argument) (other : Text) :
    (parser.insertArgument arg).index other =
      if other ≠ [] ∧ (other = arg.name ∨ other = arg.shortName) then some parser.arguments.length
      else parser.index other := by
  simp only [insertArgument, setIndex_apply]
  by_cases blank : other = []
  · subst blank
    grind
  · grind

theorem insertArgument_wellFormed {parser : ArgumentParser} (well : parser.WellFormed) {arg : Argument}
    (named : arg.canonicalName ≠ []) (freshShort : parser.index arg.shortName = none)
    (fresh : parser.index arg.name = none) {finalName : Text}
    (last : finalName = parser.finalName ∨ finalName = arg.name) :
    (insertArgument { parser with finalName } arg).WellFormed where
  sized := by simp [insertArgument, well.sized]
  stored := by
    intro place argument found
    simp only [insertArgument, List.getElem?_append] at found ⊢
    rw [Stored, List.getElem?_append, well.sized]
    split at found
    · next old =>
      obtain ⟨held, stored, holds⟩ := well.stored place argument found
      exact ⟨held, by rw [if_pos old, stored], holds⟩
    · next last =>
      rw [if_neg last]
      obtain ⟨zero, same⟩ := List.getElem?_eq_some_iff.mp found
      have only : place - parser.arguments.length = 0 := Nat.lt_one_iff.mp zero
      simp only [only, List.getElem_cons_zero] at same
      subst same
      exact ⟨arg.initially, by rw [only]; rfl, [], (Any.fed_nil _).symm⟩
  indexed := by
    intro name place found
    rw [insertArgument_index] at found
    split at found
    · cases found
      refine ⟨arg, by simp [insertArgument], ?_⟩
      rw [insertArgument_index, if_pos]
      refine ⟨named, ?_⟩
      unfold Argument.canonicalName
      split
      · exact .inr rfl
      · exact .inl rfl
    · obtain ⟨argument, at', canonical⟩ := well.indexed name place found
      have bound : place < parser.arguments.length := (List.getElem?_eq_some_iff.mp at').1
      refine ⟨argument, ?_, ?_⟩
      · rw [insertArgument, List.getElem?_append_left bound, at']
      · rw [insertArgument_index, if_neg, canonical]
        rintro ⟨-, same | same⟩
        · rw [same, fresh] at canonical
          cases canonical
        · rw [same, freshShort] at canonical
          cases canonical
  nameless := by
    rw [insertArgument_index, if_neg (by simp)]
    exact well.nameless
  counted := by
    simp only [insertArgument, List.countP_append, well.counted]
    cases kind : arg.optional <;> simp [kind]
  ended := by
    intro ended
    rw [insertArgument_index]
    split
    · rfl
    · next other =>
      rcases last with same | same
      · have known : (parser.index parser.finalName).isSome = true := by
          apply well.ended
          rw [← same]
          exact ended
        rw [← same] at known
        exact known
      · exact absurd ⟨ended, .inl same⟩ other

end ArgumentParser

inductive Registration where
  | argument (name : Text) (nargs : Int8) (optional : Bool)
  | named (shortName name : Text) (nargs : Int8) (optional : Bool)
  | final (name : Text) (nargs : Int8) (optional : Bool)

namespace Registration

def names : Registration → List Text
  | argument name _ _ => [name]
  | named shortName name _ _ => [shortName, name]
  | final name _ _ => [delimit name]

def register (parser : ArgumentParser) : Registration → Except Fault ArgumentParser
  | argument name nargs optional => parser.addArgument name nargs optional
  | named shortName name nargs optional => parser.addNamedArgument shortName name nargs optional
  | final name nargs optional => .ok (parser.addFinalArgument name nargs optional)

end Registration

theorem verify_eq_ok {name verified : Text} (returned : verify name = .ok verified) :
    verified = name ∧ name ≠ [] := by
  simp only [verify] at returned
  split_ifs at returned with blank
  cases returned
  exact ⟨rfl, by simpa using blank⟩

open ArgumentParser in
/-- Every call that adds an argument adds one under names that are no empty text. -/
theorem register_eq_ok {parser parser' : ArgumentParser} {registration : Registration}
    (nonempty : [] ∉ registration.names) (returned : registration.register parser = .ok parser') :
    ∃ (arg : Argument) (finalName : Text), parser' = insertArgument { parser with finalName } arg ∧
      arg.canonicalName ≠ [] ∧ (finalName = parser.finalName ∨ finalName = arg.name) ∧
      ∀ name ≠ [], name = arg.name ∨ name = arg.shortName ↔ name ∈ registration.names := by
  cases registration with
  | argument name nargs optional =>
    rw [Registration.register, addArgument, bind_eq_ok] at returned
    obtain ⟨verified, valid, returned⟩ := returned
    obtain ⟨same, named⟩ := verify_eq_ok valid
    subst same
    split at returned
    · cases returned
      refine ⟨_, parser.finalName, rfl, ?_, .inl rfl, ?_⟩
      · simpa [Argument.canonicalName] using named
      · intro other nonblank
        simp [Registration.names, nonblank]
    · cases returned
      refine ⟨_, parser.finalName, rfl, ?_, .inl rfl, ?_⟩
      · simpa [Argument.canonicalName] using named
      · intro other nonblank
        simp [Registration.names, nonblank]
  | named shortName name nargs optional =>
    rw [Registration.register, addNamedArgument, bind_eq_ok] at returned
    obtain ⟨verifiedShort, validShort, returned⟩ := returned
    rw [bind_eq_ok] at returned
    obtain ⟨verified, valid, returned⟩ := returned
    obtain ⟨sameShort, -⟩ := verify_eq_ok validShort
    obtain ⟨same, named⟩ := verify_eq_ok valid
    subst sameShort same
    cases returned
    refine ⟨_, parser.finalName, rfl, ?_, .inl rfl, ?_⟩
    · simp [Argument.canonicalName, named]
    · simp [Registration.names, or_comm]
  | final name nargs optional =>
    cases returned
    have named : delimit name ≠ [] := by
      intro blank
      apply nonempty
      rw [Registration.names, blank]
      exact List.mem_cons_self
    refine ⟨_, delimit name, rfl, ?_, .inr rfl, ?_⟩
    · simp [Argument.canonicalName, named]
    · intro other nonblank
      simp [Registration.names, nonblank]

open ArgumentParser in
theorem register_wellFormed {parser parser' : ArgumentParser} (well : parser.WellFormed)
    {registration : Registration} (nonempty : [] ∉ registration.names)
    (fresh : ∀ name ∈ registration.names, parser.index name = none)
    (returned : registration.register parser = .ok parser') :
    parser'.WellFormed ∧ ∀ name ∉ registration.names, parser'.index name = parser.index name := by
  obtain ⟨arg, finalName, same, named, last, called⟩ := register_eq_ok nonempty returned
  subst same
  have unused : ∀ name, name = arg.name ∨ name = arg.shortName → parser.index name = none := by
    intro name which
    by_cases blank : name = []
    · rw [blank]
      exact well.nameless
    · exact fresh name ((called name blank).mp which)
  constructor
  · exact insertArgument_wellFormed well named (unused arg.shortName (.inr rfl))
      (unused arg.name (.inl rfl)) last
  · intro name other
    rw [insertArgument_index, if_neg]
    rintro ⟨nonblank, which⟩
    exact other ((called name nonblank).mp which)

theorem registered_wellFormed (registrations : List Registration)
    (distinct : (registrations.flatMap Registration.names).Nodup)
    (nonempty : [] ∉ registrations.flatMap Registration.names) {parser parser' : ArgumentParser}
    (well : parser.WellFormed)
    (fresh : ∀ name ∈ registrations.flatMap Registration.names, parser.index name = none)
    (registered : registrations.foldlM Registration.register parser = .ok parser') :
    parser'.WellFormed := by
  induction registrations generalizing parser with
  | nil =>
    cases registered
    exact well
  | cons registration rest ih =>
    rw [List.foldlM_cons] at registered
    obtain ⟨mid, first, registered⟩ := bind_eq_ok.mp registered
    rw [List.flatMap_cons] at distinct nonempty fresh
    obtain ⟨-, distinct, apart⟩ := List.nodup_append.mp distinct
    obtain ⟨kept, unchanged⟩ := register_wellFormed well
      (fun member => nonempty (List.mem_append_left _ member))
      (fun name member => fresh name (List.mem_append_left _ member)) first
    refine ih distinct (fun member => nonempty (List.mem_append_right _ member)) kept ?_ registered
    intro name member
    rw [unchanged name (fun early => apart name early name member rfl)]
    exact fresh name (List.mem_append_right _ member)

end RayTraceRenderer.CommandLine
