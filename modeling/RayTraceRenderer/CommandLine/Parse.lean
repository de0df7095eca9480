import RayTraceRenderer.Foundation.KeyedWords
import RayTraceRenderer.CommandLine.Registration

/-! The command lines that the parser accepts, and what it makes of them.

An accepted line is the groups of required arguments, the groups of optional ones and then the
words of the final argument. The order among the required groups is free, and nothing asks
that they name different arguments.
-/

set_option autoImplicit false

namespace RayTraceRenderer.CommandLine

open KeyedWords

def Nargs.Room : Nargs → Nat → Prop
  | .fixed count, inputs => inputs ≤ count
  | _, _ => True

theorem Nargs.expects_iff (nargs : Nargs) (consumed : Nat) :
    nargs.expects consumed = true ↔ nargs.Room (consumed + 1) := by
  cases nargs with
  | fixed count => simp only [expects, Room, decide_eq_true_eq, Nat.lt_iff_add_one_le]
  | oneOrMore => simp [expects, Room]
  | zeroOrMore => simp [expects, Room]

theorem Nargs.Room.mono {nargs : Nargs} {few many : Nat} (room : nargs.Room many) (le : few ≤ many) :
    nargs.Room few := by
  cases nargs with
  | fixed count => exact Nat.le_trans le room
  | oneOrMore => trivial
  | zeroOrMore => trivial

/-- An argument that takes all the words it was promised has enough of them. -/
theorem Nargs.admits_iff (nargs : Nargs) (inputs : Nat) :
    nargs.admits inputs = true ↔ nargs.supplied inputs = true ∧ nargs.Room inputs := by
  cases nargs with
  | fixed count =>
    simp only [admits, supplied, Room, decide_eq_true_eq]
    omega
  | oneOrMore => simp [admits, supplied, Room, Nat.one_le_iff_ne_zero]
  | zeroOrMore => simp [admits, supplied, Room]

theorem Nargs.supplied_mono {nargs : Nargs} {few many : Nat} (enough : nargs.supplied few = true)
    (le : few ≤ many) : nargs.supplied many = true := by
  cases nargs with
  | fixed count =>
    simp only [supplied, decide_eq_true_eq] at enough ⊢
    omega
  | oneOrMore =>
    simp only [supplied, decide_eq_true_eq] at enough ⊢
    omega
  | zeroOrMore => rfl

namespace ArgumentParser

variable (parser : ArgumentParser)

def IsKey (word : Text) : Prop := (parser.index word).isSome = true

instance : DecidablePred parser.IsKey := fun word =>
  inferInstanceAs (Decidable ((parser.index word).isSome = true))

def argument? (key : Text) : Option Argument :=
  (parser.index key).bind fun place => parser.arguments[place]?

def Takes (optional : Bool) (group : WordGroup Text) : Prop :=
  ∃ argument, parser.argument? group.key = some argument ∧ argument.optional = optional ∧
    argument.nargs.admits group.inputs.length = true ∧ ∀ word ∈ group.inputs, ¬ parser.IsKey word

/-- The groups in an order that meets so many required arguments first. -/
def InOrder : Nat → List (WordGroup Text) → Prop
  | nrequired, [] => nrequired = 0
  | nrequired, group :: rest =>
    parser.Takes true group ∧ nrequired = 0 ∧ InOrder 0 rest ∨
      parser.Takes false group ∧ 0 < nrequired ∧ InOrder (nrequired - 1) rest

theorem inOrder_zero_iff (groups : List (WordGroup Text)) :
    parser.InOrder 0 groups ↔ ∀ group ∈ groups, parser.Takes true group := by
  induction groups with
  | nil => simp [InOrder]
  | cons group rest ih => simp [InOrder, ih]

theorem inOrder_iff (nrequired : Nat) (groups : List (WordGroup Text)) :
    parser.InOrder nrequired groups ↔ ∃ required optional, groups = required ++ optional ∧
      required.length = nrequired ∧ (∀ group ∈ required, parser.Takes false group) ∧
      ∀ group ∈ optional, parser.Takes true group := by
  induction nrequired generalizing groups with
  | zero =>
    rw [inOrder_zero_iff]
    constructor
    · intro optional
      exact ⟨[], groups, rfl, rfl, by simp, optional⟩
    · rintro ⟨required, optional, same, none, -, takes⟩
      rw [List.eq_nil_of_length_eq_zero none, List.nil_append] at same
      subst same
      exact takes
  | succ nrequired ih =>
    cases groups with
    | nil =>
      constructor
      · intro none
        cases none
      · rintro ⟨required, optional, same, length, -, -⟩
        obtain ⟨none, -⟩ := List.append_eq_nil_iff.mp same.symm
        rw [none] at length
        cases length
    | cons group rest =>
      rw [InOrder, Nat.add_sub_cancel, ih]
      constructor
      · rintro (⟨-, none, -⟩ | ⟨takes, -, required, optional, same, length, first, last⟩)
        · cases none
        · refine ⟨group :: required, optional, by rw [same]; rfl, by rw [List.length_cons, length], ?_, last⟩
          intro other member
          rcases List.mem_cons.mp member with head | later
          · rw [head]
            exact takes
          · exact first other later
      · rintro ⟨required, optional, same, length, first, last⟩
        cases required with
        | nil => cases length
        | cons head required =>
          cases same
          refine .inr ⟨first group List.mem_cons_self, Nat.succ_pos _, required, optional, rfl,
            Nat.succ.inj length, ?_, last⟩
          intro other member
          exact first other (List.mem_cons_of_mem _ member)

def feedGroups (values : List Any) (groups : List (WordGroup Text)) : List Any :=
  groups.foldl (fun values group => feed values (parser.position group.key) group.inputs) values

def AllStored (values : List Any) : Prop :=
  ∀ (place : Nat) (argument : Argument), parser.arguments[place]? = some argument →
    Stored values place argument

variable {parser}

theorem AllStored.feed {values : List Any} (stored : parser.AllStored values) (place : Nat)
    (inputs : List Text) : parser.AllStored (feed values place inputs) := by
  intro other argument found
  exact (stored other argument found).feed place inputs

theorem AllStored.feedGroups {values : List Any} (stored : parser.AllStored values)
    (groups : List (WordGroup Text)) : parser.AllStored (parser.feedGroups values groups) := by
  induction groups generalizing values with
  | nil => exact stored
  | cons group rest ih => exact ih (stored.feed (parser.position group.key) group.inputs)

theorem position_of_index {name : Text} {place : Nat} (found : parser.index name = some place) :
    parser.position name = place := by
  rw [position, found]
  rfl

def Cursor.fed (cursor : Cursor) (place : Nat) (inputs : List Text) : Cursor :=
  { cursor with
    consumed := cursor.consumed + inputs.length
    values := feed cursor.values place inputs }

theorem Cursor.fed_nil (cursor : Cursor) (place : Nat) : cursor.fed place [] = cursor := by
  rw [Cursor.fed, feed_nil]
  rfl

theorem Cursor.fed_cons (cursor : Cursor) (place : Nat) (el : Text) (inputs : List Text) :
    (cursor.fed place [el]).fed place inputs = cursor.fed place (el :: inputs) := by
  simp only [Cursor.fed, feed_feed, List.singleton_append, List.length_cons, List.length_nil]
  congr 1
  omega

/-- Inputs go to the argument that is active, up to its number of inputs. -/
theorem takeWords_inputs (inputs rest : List Text) (plain : ∀ word ∈ inputs, ¬ parser.IsKey word)
    (place : Nat) (cursor cursor' : Cursor)
    (stored : cursor.active.nargs = .fixed 0 ∨ Stored cursor.values place cursor.active ∧
      parser.position cursor.active.canonicalName = place)
    (room : cursor.active.nargs.Room cursor.consumed) :
    parser.takeWords cursor (inputs ++ rest) = .ok cursor' ↔
      cursor.active.nargs.Room (cursor.consumed + inputs.length) ∧
      parser.takeWords (cursor.fed place inputs) rest = .ok cursor' := by
  induction inputs generalizing cursor with
  | nil =>
    rw [List.nil_append, List.length_nil, Nat.add_zero, Cursor.fed_nil]
    exact (and_iff_right room).symm
  | cons el inputs ih =>
    have unknown : parser.index el = none := by
      simpa [IsKey] using plain el List.mem_cons_self
    rw [List.cons_append, takeWords, unknown, takeInput]
    by_cases expected : cursor.active.nargs.expects cursor.consumed = true
    · have next : cursor.active.nargs.Room (cursor.consumed + 1) := (Nargs.expects_iff _ _).mp expected
      rcases stored with none | ⟨stored, placed⟩
      · rw [none] at next
        exact absurd next (Nat.not_succ_le_zero _)
      · rw [if_pos expected, placed, store_eq_ok stored expected]
        have later := ih (fun word member => plain word (List.mem_cons_of_mem el member))
          (cursor.fed place [el]) (.inr ⟨stored.feed place [el], placed⟩) next
        rw [Cursor.fed_cons] at later
        rw [List.length_cons, Nat.add_comm inputs.length, ← Nat.add_assoc]
        exact later
    · rw [if_neg expected]
      constructor
      · intro returned
        cases returned
      · rintro ⟨enough, -⟩
        refine absurd ((Nargs.expects_iff _ _).mpr (enough.mono ?_)) expected
        rw [List.length_cons]
        omega

def Cursor.next (cursor : Cursor) (active : Argument) : Cursor where
  active := active
  consumed := 0
  nrequired := if active.optional then cursor.nrequired else decrement cursor.nrequired
  values := cursor.values

theorem takeKey_eq_ok {cursor next : Cursor} {el : Text} {place remaining : Nat} {active : Argument}
    (found : parser.arguments[place]? = some active) :
    parser.takeKey cursor el place remaining = .ok next ↔
      cursor.active.nargs.admits cursor.consumed = true ∧
      (active.optional = true → cursor.nrequired = 0) ∧ active.nargs.supplied remaining = true ∧
      next = cursor.next active := by
  rw [takeKey, found]
  by_cases served : cursor.active.nargs.admits cursor.consumed = true
  · rw [if_neg (by simp [served])]
    simp only
    by_cases early : active.optional = true ∧ 0 < cursor.nrequired
    · rw [if_pos early]
      constructor
      · intro returned
        cases returned
      · rintro ⟨-, order, -⟩
        exact absurd (order early.1) (Nat.ne_of_gt early.2)
    · rw [if_neg early]
      have order : active.optional = true → cursor.nrequired = 0 := by
        intro optional
        exact Nat.eq_zero_of_not_pos fun owed => early ⟨optional, owed⟩
      by_cases enough : active.nargs.supplied remaining = true
      · rw [if_neg (by simp [enough]), Except.ok.injEq, eq_comm]
        constructor
        · intro same
          exact ⟨served, order, enough, same⟩
        · rintro ⟨-, -, -, same⟩
          exact same
      · rw [if_pos (by simp [enough])]
        constructor
        · intro returned
          cases returned
        · rintro ⟨-, -, supplied, -⟩
          exact absurd supplied enough
  · rw [if_pos (by simp [served])]
    constructor
    · intro returned
      cases returned
    · rintro ⟨admitted, -⟩
      exact absurd admitted served

theorem takeWords_key {cursor cursor' : Cursor} {key : Text} {place : Nat} {active : Argument}
    (known : parser.index key = some place) (found : parser.arguments[place]? = some active)
    (more : List Text) :
    parser.takeWords cursor (key :: more) = .ok cursor' ↔
      cursor.active.nargs.admits cursor.consumed = true ∧
      (active.optional = true → cursor.nrequired = 0) ∧ active.nargs.supplied more.length = true ∧
      parser.takeWords (cursor.next active) more = .ok cursor' := by
  rw [takeWords, known, bind_eq_ok]
  simp only [takeKey_eq_ok found]
  constructor
  · rintro ⟨next, ⟨served, order, enough, same⟩, later⟩
    rw [same] at later
    exact ⟨served, order, enough, later⟩
  · rintro ⟨served, order, enough, later⟩
    exact ⟨_, ⟨served, order, enough, rfl⟩, later⟩

theorem takeWords_group (well : parser.WellFormed) {cursor cursor' : Cursor} {group : WordGroup Text}
    {place : Nat} {active : Argument} (known : parser.index group.key = some place)
    (found : parser.arguments[place]? = some active) (plain : ∀ word ∈ group.inputs, ¬ parser.IsKey word)
    (stored : parser.AllStored cursor.values) (more : List Text) :
    parser.takeWords cursor (group.key :: (group.inputs ++ more)) = .ok cursor' ↔
      cursor.active.nargs.admits cursor.consumed = true ∧
      (active.optional = true → cursor.nrequired = 0) ∧
      active.nargs.supplied (group.inputs.length + more.length) = true ∧
      active.nargs.Room group.inputs.length ∧
      parser.takeWords ((cursor.next active).fed place group.inputs) more = .ok cursor' := by
  have canonical : parser.position active.canonicalName = place := by
    obtain ⟨argument, found', canonical⟩ := well.indexed group.key place known
    rw [found, Option.some.injEq] at found'
    rw [found']
    exact position_of_index canonical
  have none : active.nargs.Room 0 := by
    cases active.nargs with
    | fixed count => exact Nat.zero_le count
    | oneOrMore => trivial
    | zeroOrMore => trivial
  have inputs := takeWords_inputs group.inputs more plain place (cursor.next active) cursor'
    (.inr ⟨stored place active found, canonical⟩) none
  rw [takeWords_key known found, List.length_append, inputs]
  simp only [Cursor.next, Nat.zero_add]

/-- The loop goes on with a key only when the active argument has all its inputs. -/
theorem served_of_group (well : parser.WellFormed) {cursor cursor' : Cursor} {group : WordGroup Text}
    {rest : List (WordGroup Text)} (proper : group.Proper parser.IsKey)
    (returned : parser.takeWords cursor (words (group :: rest)) = .ok cursor') :
    cursor.active.nargs.admits cursor.consumed = true := by
  obtain ⟨place, known⟩ := Option.isSome_iff_exists.mp proper.1
  obtain ⟨active, found, -⟩ := well.indexed group.key place known
  rw [words_cons, takeWords_key known found] at returned
  exact returned.1

theorem takes_iff {group : WordGroup Text} {place : Nat} {active : Argument} (optional : Bool)
    (known : parser.index group.key = some place) (found : parser.arguments[place]? = some active)
    (plain : ∀ word ∈ group.inputs, ¬ parser.IsKey word) :
    parser.Takes optional group ↔
      active.optional = optional ∧ active.nargs.admits group.inputs.length = true := by
  have named : parser.argument? group.key = some active := by
    rw [argument?, known, Option.bind_some, found]
  constructor
  · rintro ⟨argument, named', kind, admitted, -⟩
    rw [named, Option.some.injEq] at named'
    rw [named']
    exact ⟨kind, admitted⟩
  · rintro ⟨kind, admitted⟩
    exact ⟨active, named, kind, admitted, plain⟩

theorem InOrder.le_length {nrequired : Nat} {groups : List (WordGroup Text)}
    (order : parser.InOrder nrequired groups) : nrequired ≤ groups.length := by
  obtain ⟨required, optional, same, length, -, -⟩ := (inOrder_iff parser nrequired groups).mp order
  rw [same, List.length_append, length]
  exact Nat.le_add_right _ _

theorem Cursor.served_fed {cursor : Cursor} {active : Argument} {place : Nat} {inputs : List Text}
    (admitted : active.nargs.admits inputs.length = true) :
    ((cursor.next active).fed place inputs).active.nargs.admits ((cursor.next active).fed place inputs).consumed = true := by
  simpa [Cursor.fed, Cursor.next] using admitted

-- The argument is complete at the next key, or the words it was promised were its own.
theorem admits_of_rest (well : parser.WellFormed) {cursor cursor' : Cursor} {active : Argument} {place : Nat}
    {inputs : List Text} {rest : List (WordGroup Text)} (proper : ∀ group ∈ rest, group.Proper parser.IsKey)
    (enough : active.nargs.supplied (inputs.length + (words rest).length) = true)
    (room : active.nargs.Room inputs.length)
    (later : parser.takeWords ((cursor.next active).fed place inputs) (words rest) = .ok cursor') :
    active.nargs.admits inputs.length = true := by
  cases rest with
  | nil => exact (Nargs.admits_iff _ _).mpr ⟨enough, room⟩
  | cons other rest =>
    have complete := served_of_group well (proper other List.mem_cons_self) later
    simpa [Cursor.fed, Cursor.next] using complete

/-- A group that its argument admits and its key may open, before groups in order. An owed count that went
below zero is near 2^64, and no line pays it back. -/
theorem inOrder_group_iff {group : WordGroup Text} {rest : List (WordGroup Text)} {place : Nat} {active : Argument}
    (known : parser.index group.key = some place) (found : parser.arguments[place]? = some active)
    (plain : ∀ word ∈ group.inputs, ¬ parser.IsKey word) (few : rest.length < 2 ^ 63) (nrequired : Nat) :
    parser.InOrder nrequired (group :: rest) ↔
      active.nargs.admits group.inputs.length = true ∧ (active.optional = true → nrequired = 0) ∧
        parser.InOrder (if active.optional then nrequired else decrement nrequired) rest := by
  simp only [InOrder, takes_iff _ known found plain]
  cases kind : active.optional with
  | true =>
    constructor
    · rintro (⟨⟨-, admitted⟩, free, order⟩ | ⟨⟨required, -⟩, -⟩)
      · exact ⟨admitted, fun _ => free, by simpa [free] using order⟩
      · cases required
    · rintro ⟨admitted, free, order⟩
      exact .inl ⟨⟨rfl, admitted⟩, free rfl, by simpa [free rfl] using order⟩
  | false =>
    constructor
    · rintro (⟨⟨optional, -⟩, -⟩ | ⟨⟨-, admitted⟩, positive, order⟩)
      · cases optional
      · exact ⟨admitted, Bool.noConfusion, by simpa [decrement, Nat.ne_of_gt positive] using order⟩
    · rintro ⟨admitted, -, order⟩
      have bound := order.le_length
      simp only [Bool.false_eq_true, if_false, decrement] at bound order
      split at bound
      · omega
      · next positive =>
        rw [if_neg positive] at order
        exact .inr ⟨⟨rfl, admitted⟩, Nat.pos_of_ne_zero positive, order⟩

/-- The loop over groups ends with nothing owed exactly when they come in order. -/
theorem takeWords_groups (well : parser.WellFormed) (groups : List (WordGroup Text))
    (proper : ∀ group ∈ groups, group.Proper parser.IsKey) (few : groups.length < 2 ^ 63)
    (cursor : Cursor) (served : cursor.active.nargs.admits cursor.consumed = true)
    (stored : parser.AllStored cursor.values) (values : List Any) :
    (∃ cursor', parser.takeWords cursor (words groups) = .ok cursor' ∧ cursor'.nrequired = 0 ∧
      cursor'.values = values) ↔
      parser.InOrder cursor.nrequired groups ∧ values = parser.feedGroups cursor.values groups := by
  induction groups generalizing cursor with
  | nil =>
    simp only [words_nil, takeWords, Except.ok.injEq, exists_eq_left', InOrder, feedGroups, List.foldl_nil,
      eq_comm]
  | cons group rest ih =>
    obtain ⟨isKey, plain⟩ := proper group List.mem_cons_self
    obtain ⟨place, known⟩ := Option.isSome_iff_exists.mp isKey
    obtain ⟨active, found, -⟩ := well.indexed group.key place known
    have properRest : ∀ other ∈ rest, other.Proper parser.IsKey := by
      intro other member
      exact proper other (List.mem_cons_of_mem group member)
    have fewRest : rest.length < 2 ^ 63 := Nat.lt_of_succ_lt few
    have storedNext : parser.AllStored ((cursor.next active).fed place group.inputs).values :=
      stored.feed place group.inputs
    have after := ih properRest fewRest ((cursor.next active).fed place group.inputs)
    have fedAll : parser.feedGroups cursor.values (group :: rest) =
        parser.feedGroups ((cursor.next active).fed place group.inputs).values rest := by
      rw [feedGroups, List.foldl_cons, position_of_index known]
      rfl
    simp only [words_cons, takeWords_group well known found plain stored, fedAll,
      inOrder_group_iff known found plain fewRest]
    constructor
    · rintro ⟨cursor', ⟨-, opens, enough, room, later⟩, owed, same⟩
      have admitted := admits_of_rest well properRest enough room later
      obtain ⟨order, fed⟩ := (after (Cursor.served_fed admitted) storedNext).mp ⟨cursor', later, owed, same⟩
      exact ⟨⟨admitted, opens, order⟩, fed⟩
    · rintro ⟨⟨admitted, opens, order⟩, fed⟩
      obtain ⟨enough, room⟩ := (Nargs.admits_iff _ _).mp admitted
      obtain ⟨cursor', later, owed, same⟩ := (after (Cursor.served_fed admitted) storedNext).mpr ⟨order, fed⟩
      exact ⟨cursor', ⟨served, opens, Nargs.supplied_mono enough (Nat.le_add_right _ _), room, later⟩, owed, same⟩

theorem feedGroups_getElem? (groups : List (WordGroup Text)) (known : ∀ group ∈ groups, parser.IsKey group.key)
    (values : List Any) (place : Nat) :
    (parser.feedGroups values groups)[place]? = values[place]?.map fun held =>
      held.fed ((groups.filter fun group => parser.index group.key = some place).flatMap WordGroup.inputs) := by
  induction groups generalizing values with
  | nil => simp [feedGroups]
  | cons group rest ih =>
    obtain ⟨other, found⟩ := Option.isSome_iff_exists.mp (known group List.mem_cons_self)
    rw [feedGroups, List.foldl_cons, ← feedGroups, position_of_index found,
      ih (fun later member => known later (List.mem_cons_of_mem group member)), feed_getElem?, Option.map_map]
    congr 1
    funext held
    rw [Function.comp_apply, Any.fed_fed, List.filter_cons, found]
    by_cases same : other = place <;> simp [same]

theorem takeFinals_eq_ok {final : Argument} {place : Nat} (placed : parser.position parser.finalName = place)
    (expected : final.nargs.expects 0 = true) (finals : List Text) (values : List Any)
    (stored : Stored values place final) (missing : Nat) (result : List Any × Nat) :
    parser.takeFinals final values missing finals = .ok result ↔
      (∀ word ∈ finals, ¬ parser.IsKey word) ∧
      result = (feed values place finals, missing - finals.length) := by
  induction finals generalizing values missing with
  | nil => simp [takeFinals, feed_nil, eq_comm]
  | cons el rest ih =>
    rw [takeFinals]
    by_cases isKey : (parser.index el).isSome = true
    · rw [if_pos isKey]
      constructor
      · intro returned
        cases returned
      · rintro ⟨plain, -⟩
        exact absurd isKey (plain el List.mem_cons_self)
    · rw [if_neg isKey, placed, store_eq_ok stored expected]
      have later := ih (feed values place [el]) (stored.feed place [el]) (missing - 1)
      rw [feed_feed, List.singleton_append, Nat.sub_sub, Nat.add_comm 1] at later
      rw [List.length_cons, List.forall_mem_cons, and_assoc, ← later]
      exact (and_iff_right isKey).symm

/-- Without a final argument the parser has the blank one, which takes no words. -/
theorem final_found (well : parser.WellFormed) (named : parser.finalName ≠ []) :
    ∃ place, parser.index parser.finalName = some place ∧
      parser.arguments[place]? = some parser.final := by
  obtain ⟨place, known⟩ := Option.isSome_iff_exists.mp (well.ended named)
  obtain ⟨argument, found, -⟩ := well.indexed _ place known
  refine ⟨place, known, ?_⟩
  rw [final, if_neg (by simpa using named), position_of_index known, found]
  rfl

theorem finalName_ne_nil (last : parser.final.optional = false) : parser.finalName ≠ [] := by
  intro blank
  rw [final, blank] at last
  cases last

/-- `count` reads a string wherever the number of inputs is fixed, and an argument with two
inputs or more has a vector. -/
theorem count_badCast_iff (well : parser.WellFormed) (name : Text) :
    parser.count name = .error .badCast ↔ ∃ argument inputs,
      parser.argument? (delimit name) = some argument ∧ argument.nargs = .fixed inputs ∧ 2 ≤ inputs := by
  unfold count argument?
  cases known : parser.index (delimit name) with
  | none => simp
  | some place =>
    obtain ⟨argument, found, -⟩ := well.indexed _ place known
    obtain ⟨held, stored, inputs, fed⟩ := well.stored place argument found
    subst fed
    simp only [Option.bind_some, found, stored, Option.some.injEq, Argument.initially]
    cases form : argument.nargs with
    | fixed count =>
      by_cases few : count ≤ 1
      · have single : ¬ 2 ≤ count := by omega
        simp [few, single, form, Any.fed, Any.castString, Except.map]
      · have several : 2 ≤ count := by omega
        simp [few, several, form, Any.fed, Any.castString, Except.map]
    | oneOrMore => simp [form, Any.fed, Any.castStrings, Except.map]
    | zeroOrMore => simp [form, Any.fed, Any.castStrings, Except.map]

variable (parser) in
def owed : Nat := if parser.final.optional then parser.required else parser.required - 1

theorem owed_eq (well : parser.WellFormed) :
    (if parser.final.optional then parser.required else decrement parser.required) = parser.owed := by
  unfold owed
  cases kind : parser.final.optional with
  | true => rfl
  | false =>
    obtain ⟨place, -, found⟩ := final_found well (finalName_ne_nil kind)
    have counted : 0 < parser.required := by
      rw [well.counted, List.countP_pos_iff]
      exact ⟨parser.final, List.mem_of_getElem? found, by rw [kind]; rfl⟩
    exact if_neg (Nat.ne_of_gt counted)

end ArgumentParser

structure Line where
  required : List (WordGroup Text)
  optional : List (WordGroup Text)
  finals : List Text

namespace Line

def words (line : Line) : List Text := KeyedWords.words (line.required ++ line.optional) ++ line.finals

structure Accepted (parser : ArgumentParser) (line : Line) : Prop where
  required : ∀ group ∈ line.required, parser.Takes false group
  optional : ∀ group ∈ line.optional, parser.Takes true group
  enough : line.required.length = parser.owed
  length : line.finals.length = ArgumentParser.nfinal parser.final
  plain : ∀ word ∈ line.finals, ¬ parser.IsKey word

def inputsOf (parser : ArgumentParser) (line : Line) (place : Nat) : List Text :=
  ((line.required ++ line.optional).filter fun group => parser.index group.key = some place).flatMap
    WordGroup.inputs ++ if parser.index parser.finalName = some place then line.finals else []

end Line

namespace ArgumentParser

variable (parser : ArgumentParser)

def after (argv : List Text) (line : Line) : ArgumentParser :=
  { parser with
    appName := if parser.appName.isEmpty ∧ parser.ignoreFirst then argv.headD [] else parser.appName
    values := parser.values.mapIdx fun place held => held.fed (line.inputsOf parser place) }

variable {parser}

theorem Takes.isKey {optional : Bool} {group : WordGroup Text} (takes : parser.Takes optional group) :
    parser.IsKey group.key := by
  obtain ⟨argument, named, -⟩ := takes
  rw [argument?, Option.bind_eq_some_iff] at named
  obtain ⟨place, known, -⟩ := named
  rw [IsKey, known]
  rfl

theorem Takes.proper {optional : Bool} {group : WordGroup Text} (takes : parser.Takes optional group) :
    group.Proper parser.IsKey := by
  refine ⟨takes.isKey, ?_⟩
  obtain ⟨argument, -, -, -, plain⟩ := takes
  exact plain

/-- Before the first key no argument is active, and no word has a place. -/
theorem takeWords_start (well : parser.WellFormed) (body : List Text) (few : body.length < 2 ^ 63)
    (values : List Any) :
    (∃ cursor, parser.takeWords ⟨.blank, 0, parser.owed, parser.values⟩ body = .ok cursor ∧
      cursor.nrequired = 0 ∧ cursor.values = values) ↔
      ∃ required optional, body = words (required ++ optional) ∧
        (∀ group ∈ required, parser.Takes false group) ∧ (∀ group ∈ optional, parser.Takes true group) ∧
        required.length = parser.owed ∧ values = parser.feedGroups parser.values (required ++ optional) := by
  obtain ⟨leading, groups, same, plain, proper⟩ := exists_groups parser.IsKey body
  constructor
  · rintro ⟨cursor, returned, paid, result⟩
    rw [same, takeWords_inputs leading (words groups) plain 0 ⟨.blank, 0, parser.owed, parser.values⟩ cursor
      (.inl rfl) (Nat.le_refl 0)] at returned
    obtain ⟨room, returned⟩ := returned
    have none : leading = [] := by
      apply List.eq_nil_of_length_eq_zero
      exact Nat.le_zero.mp (Nat.le_trans (Nat.le_add_left _ 0) room)
    subst none
    rw [List.nil_append] at same
    rw [Cursor.fed_nil] at returned
    have fewGroups : groups.length < 2 ^ 63 := by
      refine Nat.lt_of_le_of_lt (length_le_words groups) ?_
      rw [← same]
      exact few
    obtain ⟨order, fed⟩ := (takeWords_groups well groups proper fewGroups
      ⟨.blank, 0, parser.owed, parser.values⟩ rfl well.stored values).mp
      ⟨cursor, returned, paid, result⟩
    obtain ⟨required, optional, split, length, first, last⟩ := (inOrder_iff parser _ groups).mp order
    rw [split] at same fed
    exact ⟨required, optional, same, first, last, length, fed⟩
  · rintro ⟨required, optional, split, first, last, length, fed⟩
    have properAll : ∀ group ∈ required ++ optional, group.Proper parser.IsKey := by
      intro group member
      rcases List.mem_append.mp member with early | late
      · exact (first group early).proper
      · exact (last group late).proper
    have fewGroups : (required ++ optional).length < 2 ^ 63 := by
      refine Nat.lt_of_le_of_lt (length_le_words _) ?_
      rw [← split]
      exact few
    rw [split]
    apply (takeWords_groups well _ properAll fewGroups ⟨.blank, 0, parser.owed, parser.values⟩ rfl well.stored
      values).mpr
    exact ⟨(inOrder_iff parser _ _).mpr ⟨required, optional, rfl, length, first, last⟩, fed⟩

variable (parser) in
def feedFinals (values : List Any) (finals : List Text) : List Any :=
  if parser.finalName = [] then values else feed values (parser.position parser.finalName) finals

theorem takeFinals_start (well : parser.WellFormed) (finals : List Text)
    (few : finals.length ≤ nfinal parser.final) (values : List Any) (stored : parser.AllStored values)
    (result : List Any × Nat) :
    parser.takeFinals parser.final values (nfinal parser.final) finals = .ok result ↔
      (∀ word ∈ finals, ¬ parser.IsKey word) ∧
      result = (parser.feedFinals values finals, nfinal parser.final - finals.length) := by
  by_cases idle : nfinal parser.final = 0
  · rw [idle, Nat.le_zero] at few
    rw [List.eq_nil_of_length_eq_zero few, feedFinals, feed_nil]
    simp [takeFinals, eq_comm]
  · have named : parser.finalName ≠ [] := by
      intro blank
      apply idle
      rw [final, blank]
      rfl
    obtain ⟨place, known, found⟩ := final_found well named
    have expected : parser.final.nargs.expects 0 = true := by
      cases form : parser.final.nargs with
      | fixed count =>
        unfold nfinal at idle
        rw [form] at idle
        simp only [Nargs.expects, decide_eq_true_eq]
        split at idle
        · exact absurd rfl idle
        · exact Nat.pos_of_ne_zero idle
      | oneOrMore => rfl
      | zeroOrMore => rfl
    rw [feedFinals, if_neg named]
    exact takeFinals_eq_ok rfl expected finals values
      (by rw [position_of_index known]; exact stored place parser.final found) _ result

theorem after_values (well : parser.WellFormed) (line : Line)
    (required : ∀ group ∈ line.required, parser.Takes false group)
    (optional : ∀ group ∈ line.optional, parser.Takes true group) :
    parser.feedFinals (parser.feedGroups parser.values (line.required ++ line.optional)) line.finals =
      parser.values.mapIdx fun place held => held.fed (line.inputsOf parser place) := by
  have known : ∀ group ∈ line.required ++ line.optional, parser.IsKey group.key := by
    intro group member
    rcases List.mem_append.mp member with early | late
    · exact (required group early).isKey
    · exact (optional group late).isKey
  apply List.ext_getElem?
  intro place
  rw [List.getElem?_mapIdx, feedFinals]
  split
  · next blank =>
    rw [feedGroups_getElem? _ known]
    simp only [Line.inputsOf, blank, well.nameless]
    simp
  · next named =>
    obtain ⟨last, found⟩ := Option.isSome_iff_exists.mp (well.ended named)
    rw [feed_getElem?, feedGroups_getElem? _ known, Option.map_map, position_of_index found]
    congr 1
    funext held
    rw [Function.comp_apply, Any.fed_fed, Line.inputsOf, found]
    by_cases same : last = place <;> simp [same]

/-- Which lines are accepted, and what every variable holds afterwards. -/
theorem parse_eq_ok (well : parser.WellFormed) (argv : List Text)
    (started : parser.ignoreFirst = true → argv ≠ []) (few : argv.length < 2 ^ 63)
    (parser' : ArgumentParser) :
    parser.parse argv = .ok parser' ↔ ∃ line : Line, line.Accepted parser ∧
      line.words = parser.given argv ∧ parser' = parser.after argv line := by
  have fewWords : (parser.given argv).length < 2 ^ 63 := by
    rw [given, List.length_drop]
    omega
  rw [parse, if_neg (fun none => started none.1 none.2)]
  simp only [owed_eq well]
  generalize parser.given argv = sequence at fewWords
  constructor
  · intro returned
    obtain ⟨cursor, first, returned⟩ := bind_eq_ok.mp returned
    obtain ⟨⟨values, missing⟩, last, returned⟩ := bind_eq_ok.mp returned
    simp only at returned
    split at returned
    · cases returned
    · next paid =>
      obtain ⟨free, complete⟩ := not_or.mp paid
      have short : (sequence.take (sequence.length - nfinal parser.final)).length < 2 ^ 63 := by
        rw [List.length_take]
        omega
      obtain ⟨required, optional, split, firsts, lasts, enough, fed⟩ :=
        (takeWords_start well _ short cursor.values).mp ⟨cursor, first, Nat.eq_zero_of_not_pos free, rfl⟩
      have fits : (sequence.drop (sequence.length - nfinal parser.final)).length ≤ nfinal parser.final := by
        rw [List.length_drop]
        omega
      rw [fed, takeFinals_start well _ fits _ (AllStored.feedGroups well.stored _)] at last
      obtain ⟨plain, result⟩ := last
      rw [Prod.mk.injEq] at result
      have length : (sequence.drop (sequence.length - nfinal parser.final)).length = nfinal parser.final := by
        omega
      refine ⟨⟨required, optional, _⟩, ⟨firsts, lasts, enough, length, plain⟩, ?_, ?_⟩
      · rw [Line.words, ← split, List.take_append_drop]
      · cases returned
        rw [result.1, after, ← after_values well ⟨required, optional, _⟩ firsts lasts]
  · rintro ⟨line, accepted, same, result⟩
    subst result
    have cut : sequence.length - nfinal parser.final =
        (KeyedWords.words (line.required ++ line.optional)).length := by
      rw [← same, Line.words, List.length_append, accepted.length, Nat.add_sub_cancel]
    have body : sequence.take (sequence.length - nfinal parser.final) =
        KeyedWords.words (line.required ++ line.optional) := by
      rw [cut, ← same, Line.words, List.take_left]
    have ending : sequence.drop (sequence.length - nfinal parser.final) = line.finals := by
      rw [cut, ← same, Line.words, List.drop_left]
    have short : (KeyedWords.words (line.required ++ line.optional)).length < 2 ^ 63 := by
      rw [← cut]
      omega
    obtain ⟨cursor, first, paid, fed⟩ := (takeWords_start well _ short _).mpr
      ⟨line.required, line.optional, rfl, accepted.required, accepted.optional, accepted.enough, rfl⟩
    have last := (takeFinals_start well line.finals (Nat.le_of_eq accepted.length) cursor.values
      (by rw [fed]; exact AllStored.feedGroups well.stored _) _).mpr ⟨accepted.plain, rfl⟩
    rw [body, ending]
    refine bind_eq_ok.mpr ⟨cursor, first, bind_eq_ok.mpr ⟨_, last, ?_⟩⟩
    simp only
    rw [if_neg, fed, after_values well line accepted.required accepted.optional]
    · rfl
    · rw [paid, accepted.length, Nat.sub_self]
      simp

end ArgumentParser

end RayTraceRenderer.CommandLine
