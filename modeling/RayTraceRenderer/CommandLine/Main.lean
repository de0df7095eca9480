import RayTraceRenderer.CommandLine.Parse

/-! The parser as its caller builds it, and the console program's use of it. -/

set_option autoImplicit false

namespace RayTraceRenderer.CommandLine

open KeyedWords

/-- A parser whose arguments were added under names that differ accepts a line exactly when
its words are the groups of as many required arguments as were added, then groups of
optional ones, then the words of the final argument. Every variable then has the inputs of the
groups that name it, after what it held. -/
theorem parse_registered_iff (registrations : List Registration)
    (distinct : (registrations.flatMap Registration.names).Nodup)
    (nonempty : [] ∉ registrations.flatMap Registration.names) (parser : ArgumentParser)
    (registered : registrations.foldlM Registration.register ArgumentParser.new = .ok parser)
    (argv : List Text) (started : argv ≠ []) (few : argv.length < 2 ^ 63) (parser' : ArgumentParser) :
    parser.parse argv = .ok parser' ↔ ∃ line : Line, line.Accepted parser ∧
      line.words = parser.given argv ∧ parser' = parser.after argv line := by
  have well : parser.WellFormed := registered_wellFormed registrations distinct nonempty
    ArgumentParser.new_wellFormed (fun _ _ => rfl) registered
  exact ArgumentParser.parse_eq_ok well argv (fun _ => started) few parser'

-- A line that leaves out the required `--out` and gives the required `--in` twice.
theorem parse_registered_iff_twice : ∃ parser parser' : ArgumentParser,
    [Registration.argument "--in".toList 1 false, .argument "--out".toList 1 false].foldlM
      Registration.register ArgumentParser.new = .ok parser ∧
    parser.parse ["r".toList, "--in".toList, "a".toList, "--in".toList, "b".toList] = .ok parser' ∧
    parser'.values = [.string "b".toList, .string []] := by
  refine ⟨_, _, rfl, (parse_registered_iff [.argument "--in".toList 1 false, .argument "--out".toList 1 false]
    (by decide) (by decide) _ rfl _ (by decide) (by decide) _).mpr
      ⟨⟨[⟨"--in".toList, ["a".toList]⟩, ⟨"--in".toList, ["b".toList]⟩], [], []⟩, ?_, rfl, rfl⟩, ?_⟩
  · constructor
    · refine List.forall_mem_cons.mpr ⟨?_, List.forall_mem_singleton.mpr ?_⟩
      · exact ⟨⟨[], "--in".toList, false, .fixed 1⟩, rfl, rfl, rfl, by decide⟩
      · exact ⟨⟨[], "--in".toList, false, .fixed 1⟩, rfl, rfl, rfl, by decide⟩
    · exact List.forall_mem_nil _
    · rfl
    · rfl
    · exact List.forall_mem_nil _
  · rfl

def renderer : ArgumentParser :=
  (ArgumentParser.new.insertArgument ⟨[], "--ip".toList, true, .fixed 1⟩).insertArgument
    ⟨[], "--host".toList, true, .fixed 1⟩

theorem renderer_registered : [Registration.argument "--ip".toList 1 true, .argument "--host".toList 1 true].foldlM
    Registration.register ArgumentParser.new = .ok renderer := rfl

theorem renderer_wellFormed : renderer.WellFormed :=
  registered_wellFormed _ (by decide) (by decide) ArgumentParser.new_wellFormed (fun _ _ => rfl)
    renderer_registered

theorem renderer_index (word : Text) : renderer.index word =
    if word = "--host".toList then some 1 else if word = "--ip".toList then some 0 else none := by
  simp only [renderer, ArgumentParser.insertArgument_index]
  by_cases host : word = "--host".toList
  · subst host
    rfl
  · by_cases ip : word = "--ip".toList
    · subst ip
      rfl
    · have neither (name : Text) (other : word ≠ name) : ¬ (word ≠ [] ∧ (word = name ∨ word = [])) := by
        rintro ⟨nonempty, same | blank⟩
        · exact other same
        · exact nonempty blank
      rw [if_neg (neither _ host), if_neg (neither _ ip), if_neg host, if_neg ip]
      rfl

theorem renderer_isKey (word : Text) :
    renderer.IsKey word ↔ word = "--ip".toList ∨ word = "--host".toList := by
  rw [ArgumentParser.IsKey, renderer_index]
  grind

def pair (option : Text × Text) : WordGroup Text := ⟨option.1, [option.2]⟩

theorem renderer_takes (group : WordGroup Text) :
    renderer.Takes true group ↔ renderer.IsKey group.key ∧
      ∃ value, group.inputs = [value] ∧ ¬ renderer.IsKey value := by
  constructor
  · intro takes
    refine ⟨takes.isKey, ?_⟩
    obtain ⟨argument, named, -, admitted, plain⟩ := takes
    have single : argument.nargs = .fixed 1 := by
      rw [ArgumentParser.argument?, renderer_index] at named
      split_ifs at named with host ip
      · cases named
        rfl
      · cases named
        rfl
      · cases named
    rw [single] at admitted
    obtain ⟨value, inputs⟩ := List.length_eq_one_iff.mp (of_decide_eq_true admitted).symm
    rw [inputs] at plain
    exact ⟨value, inputs, plain value List.mem_cons_self⟩
  · rintro ⟨isKey, value, inputs, plain⟩
    have admitted : (Nargs.fixed 1).admits group.inputs.length = true := by
      rw [inputs]
      rfl
    have inputsPlain : ∀ word ∈ group.inputs, ¬ renderer.IsKey word := by
      rw [inputs]
      exact List.forall_mem_singleton.mpr plain
    rcases (renderer_isKey group.key).mp isKey with ip | host
    · refine ⟨⟨[], "--ip".toList, true, .fixed 1⟩, ?_, rfl, admitted, inputsPlain⟩
      rw [ip]
      rfl
    · refine ⟨⟨[], "--host".toList, true, .fixed 1⟩, ?_, rfl, admitted, inputsPlain⟩
      rw [host]
      rfl

theorem renderer_accepted_iff (line : Line) :
    line.Accepted renderer ↔ ∃ options : List (Text × Text), line = ⟨[], options.map pair, []⟩ ∧
      ∀ option ∈ options, renderer.IsKey option.1 ∧ ¬ renderer.IsKey option.2 := by
  constructor
  · intro accepted
    obtain ⟨required, optional, finals⟩ := line
    have none : required = [] := List.eq_nil_of_length_eq_zero accepted.enough
    have ended : finals = [] := List.eq_nil_of_length_eq_zero accepted.length
    subst none ended
    refine ⟨optional.map fun group => (group.key, group.inputs.headD []), ?_, ?_⟩
    · rw [List.map_map]
      congr 1
      refine (List.map_id optional).symm.trans (List.map_congr_left ?_)
      intro group member
      obtain ⟨-, value, inputs, -⟩ := (renderer_takes group).mp (accepted.optional group member)
      obtain ⟨key, groupInputs⟩ := group
      simp only at inputs
      subst inputs
      rfl
    · intro option member
      obtain ⟨group, member, same⟩ := List.mem_map.mp member
      obtain ⟨isKey, value, inputs, plain⟩ := (renderer_takes group).mp (accepted.optional group member)
      subst same
      rw [inputs]
      exact ⟨isKey, plain⟩
  · rintro ⟨options, same, valid⟩
    subst same
    refine ⟨List.forall_mem_nil _, ?_, rfl, rfl, List.forall_mem_nil _⟩
    intro group member
    obtain ⟨option, listed, same⟩ := List.mem_map.mp member
    subst same
    exact (renderer_takes _).mpr ⟨(valid option listed).1, option.2, rfl, (valid option listed).2⟩

theorem words_pairs (options : List (Text × Text)) :
    words (options.map pair) = options.flatMap fun option => [option.1, option.2] :=
  List.flatMap_map pair WordGroup.words options

theorem main_eq (argv : List Text) :
    main argv = renderer.parse argv >>= fun parser => parser.retrieve "ip".toList >>= Any.castString := rfl

theorem renderer_given (argv : List Text) : renderer.given argv = argv.tail := List.drop_one

theorem retrieve_after (argv : List Text) (options : List (Text × Text)) :
    ((renderer.after argv ⟨[], options.map pair, []⟩).retrieve "ip".toList >>= Any.castString) =
      .ok (((options.filter fun option => option.1 = "--ip".toList).map Prod.snd).getLastD []) := by
  have inputs : Line.inputsOf renderer ⟨[], options.map pair, []⟩ 0 =
      (options.filter fun option => option.1 = "--ip".toList).map Prod.snd := by
    have address (word : Text) : renderer.index word = some 0 ↔ word = "--ip".toList := by
      rw [renderer_index]
      grind
    rw [Line.inputsOf, List.nil_append, List.filter_map, List.flatMap_map, ite_self, List.append_nil]
    simp only [Function.comp_def, pair, address]
    exact List.map_eq_flatMap.symm
  rw [← inputs]
  rfl

/-- The console program goes on exactly when its words are pairs of an option and a value, and
the address that it looks up is the one given last, or the empty text. -/
theorem main_eq_ok_iff (argv : List Text) (started : argv ≠ []) (few : argv.length < 2 ^ 63) (ip : Text) :
    main argv = .ok ip ↔ ∃ options : List (Text × Text),
      argv.tail = options.flatMap (fun option => [option.1, option.2]) ∧
      (∀ option ∈ options, (option.1 = "--ip".toList ∨ option.1 = "--host".toList) ∧
        option.2 ≠ "--ip".toList ∧ option.2 ≠ "--host".toList) ∧
      ip = ((options.filter fun option => option.1 = "--ip".toList).map Prod.snd).getLastD [] := by
  rw [main_eq, bind_eq_ok]
  simp only [ArgumentParser.parse_eq_ok renderer_wellFormed argv (fun _ => started) few,
    renderer_accepted_iff, renderer_isKey, not_or]
  constructor
  · rintro ⟨parser', ⟨line, ⟨options, same, valid⟩, split, result⟩, found⟩
    subst same result
    rw [retrieve_after] at found
    cases found
    refine ⟨options, ?_, valid, rfl⟩
    rw [← words_pairs, ← renderer_given, ← split]
    simp [Line.words]
  · rintro ⟨options, split, valid, same⟩
    subst same
    refine ⟨_, ⟨_, ⟨options, rfl, valid⟩, ?_, rfl⟩, retrieve_after argv options⟩
    rw [renderer_given, split, ← words_pairs]
    simp [Line.words]

-- The second address is the one looked up.
theorem main_eq_ok_iff_twice :
    main ["r".toList, "--ip".toList, "a".toList, "--host".toList, "h".toList, "--ip".toList, "b".toList] =
      .ok "b".toList :=
  (main_eq_ok_iff _ (by decide) (by decide) _).mpr
    ⟨[("--ip".toList, "a".toList), ("--host".toList, "h".toList), ("--ip".toList, "b".toList)], rfl,
      by decide, rfl⟩

end RayTraceRenderer.CommandLine
