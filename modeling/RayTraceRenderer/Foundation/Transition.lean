import Mathlib.Tactic.Common

/-! Systems that take one step after the other, and what holds in every state of a run.

A step is partial: an action is not possible in every state. What a run keeps is
stated for single steps. A condition on the actions of a run may depend on the
states they are taken in.
-/

set_option autoImplicit false

namespace RayTraceRenderer.Transition

variable {State Action : Type} (step : Action → State → Option State)

def run : List Action → State → Option State
  | [], s => some s
  | action :: rest, s => (step action s).bind (run rest)

def Reachable (start s : State) : Prop := ∃ actions, run step actions start = some s

def Always (good : State → Prop) : List Action → State → Prop
  | [], s => good s
  | action :: rest, s => good s ∧ ∀ s', step action s = some s' → Always good rest s'

def Within (admits : State → Action → Prop) : List Action → State → Prop
  | [], _ => True
  | action :: rest, s => ∀ s', step action s = some s' → admits s action ∧ Within admits rest s'

variable {step}

theorem run_invariant {inv : State → Prop} (keeps : ∀ s action s', inv s → step action s = some s' → inv s')
    {actions : List Action} {s s' : State} (start : inv s) (ran : run step actions s = some s') : inv s' := by
  induction actions generalizing s with
  | nil =>
    cases ran
    exact start
  | cons action rest ih =>
    obtain ⟨mid, first, ran⟩ := Option.bind_eq_some_iff.mp ran
    exact ih (keeps s action mid start first) ran

theorem Reachable.invariant {inv : State → Prop} {start s : State} (reachable : Reachable step start s)
    (begins : inv start) (keeps : ∀ s action s', inv s → step action s = some s' → inv s') : inv s := by
  rcases reachable with ⟨actions, ran⟩
  exact run_invariant keeps begins ran

theorem run_append {first second : List Action} {s : State} :
    run step (first ++ second) s = (run step first s).bind (run step second) := by
  induction first generalizing s with
  | nil => rfl
  | cons action rest ih =>
    rw [List.cons_append, run, run, Option.bind_assoc]
    congr 1
    funext mid
    exact ih

theorem Reachable.run {start s s' : State} {actions : List Action} (reachable : Reachable step start s)
    (ran : Transition.run step actions s = some s') : Reachable step start s' := by
  rcases reachable with ⟨earlier, reached⟩
  refine ⟨earlier ++ actions, ?_⟩
  rw [run_append, reached]
  exact ran

theorem Always.last {good : State → Prop} {actions : List Action} {s s' : State}
    (always : Always step good actions s) (ran : run step actions s = some s') : good s' := by
  induction actions generalizing s with
  | nil =>
    cases ran
    exact always
  | cons action rest ih =>
    obtain ⟨mid, first, ran⟩ := Option.bind_eq_some_iff.mp ran
    exact ih (always.2 mid first) ran

section
variable {base inv good : State → Prop} {admits : State → Action → Prop}

/-- A run of admitted steps is good throughout. `base` is kept by every step, `inv` by
the admitted ones. -/
theorem always_of_within (keepsBase : ∀ s action s', base s → step action s = some s' → base s')
    (keeps : ∀ s action s', base s → inv s → admits s action → step action s = some s' → inv s')
    (enough : ∀ s, base s → inv s → good s) {actions : List Action} {s : State} (startBase : base s)
    (start : inv s) (within : Within step admits actions s) : Always step good actions s := by
  induction actions generalizing s with
  | nil => exact enough s startBase start
  | cons action rest ih =>
    refine ⟨enough s startBase start, fun s' stepped => ?_⟩
    obtain ⟨admitted, within⟩ := within s' stepped
    exact ih (keepsBase s action s' startBase stepped) (keeps s action s' startBase start admitted stepped)
      within

/-- Where a step that is not admitted leads to a bad state, the good runs are exactly the
runs of admitted steps. -/
theorem always_iff_within (keepsBase : ∀ s action s', base s → step action s = some s' → base s')
    (keeps : ∀ s action s', base s → inv s → admits s action → step action s = some s' → inv s')
    (enough : ∀ s, base s → inv s → good s)
    (needed : ∀ s action s', base s → inv s → step action s = some s' → good s' → admits s action)
    {actions : List Action} {s : State} (startBase : base s) (start : inv s) :
    Always step good actions s ↔ Within step admits actions s := by
  constructor
  · intro always
    induction actions generalizing s with
    | nil => trivial
    | cons action rest ih =>
      intro s' stepped
      have later := always.2 s' stepped
      have goodThere : good s' := by
        cases rest with
        | nil => exact later
        | cons _ _ => exact later.1
      have admitted := needed s action s' startBase start stepped goodThere
      exact ⟨admitted, ih (keepsBase s action s' startBase stepped)
        (keeps s action s' startBase start admitted stepped) later⟩
  · exact always_of_within keepsBase keeps enough startBase start

end

section
variable {base : State → Prop} {admits : Action → Prop} {effort : State → Nat}

/-- What every admitted step lowers bounds the length of a run of such steps. -/
theorem length_le_effort (keeps : ∀ s action s', base s → step action s = some s' → base s')
    (lowers : ∀ s action s', base s → admits action → step action s = some s' → effort s' < effort s)
    {actions : List Action} {s s' : State} (start : base s) (admitted : ∀ action ∈ actions, admits action)
    (ran : run step actions s = some s') : actions.length + effort s' ≤ effort s := by
  induction actions generalizing s with
  | nil =>
    cases ran
    simp
  | cons action rest ih =>
    obtain ⟨mid, first, ran⟩ := Option.bind_eq_some_iff.mp ran
    have spent := lowers s action mid start (admitted action List.mem_cons_self) first
    have later := ih (keeps s action mid start first) (fun a member => admitted a (List.mem_cons_of_mem _ member)) ran
    rw [List.length_cons]
    omega

/-- Such steps lead to a state in which none of them is possible. -/
theorem exists_run_stuck (keeps : ∀ s action s', base s → step action s = some s' → base s')
    (lowers : ∀ s action s', base s → admits action → step action s = some s' → effort s' < effort s)
    {s : State} (start : base s) : ∃ actions s', (∀ action ∈ actions, admits action) ∧
      run step actions s = some s' ∧ ∀ action, admits action → step action s' = none := by
  induction spent : effort s using Nat.strongRecOn generalizing s with
  | _ n ih =>
    by_cases stuck : ∀ action, admits action → step action s = none
    · exact ⟨[], s, by simp, rfl, stuck⟩
    · push Not at stuck
      obtain ⟨action, admitted, possible⟩ := stuck
      obtain ⟨mid, first⟩ := Option.ne_none_iff_exists'.mp possible
      obtain ⟨actions, s', all, ran, stuck⟩ :=
        ih (effort mid) (spent ▸ lowers s action mid start admitted first) (keeps s action mid start first) rfl
      refine ⟨action :: actions, s', ?_, ?_, stuck⟩
      · intro a member
        rcases List.mem_cons.mp member with head | tail
        · rw [head]
          exact admitted
        · exact all a tail
      · rw [run, first]
        exact ran

end

end RayTraceRenderer.Transition
