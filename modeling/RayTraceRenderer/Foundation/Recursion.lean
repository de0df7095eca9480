import Mathlib.Order.WellFounded
import Mathlib.Tactic.Common

/-! Recursive procedures over a state, run with a bound on the depth of the recursion.

A procedure is given by its body, which receives the procedure itself for the
recursive calls. A bounded run stops with `fuel` where the bound is reached, and
with an error where the procedure fails. Three kinds of rules follow: what every
returned value satisfies, which runs agree with which, and when a bound suffices.
-/

set_option autoImplicit false

namespace RayTraceRenderer.Recursion

inductive Stop (ε : Type) where
  | fuel
  | error (why : ε)
  deriving DecidableEq, Repr

abbrev Action (σ ε α : Type) := StateT σ (Except (Stop ε)) α

variable {Call σ ε α β : Type}

/-- The bound is on the depth of the call tree, not on the number of its calls. -/
def run (body : (Call → Action σ ε α) → Call → Action σ ε α) : Nat → Call → Action σ ε α
  | 0, _ => throw .fuel
  | n + 1, call => body (run body n) call

/-- The run that makes admitted calls only: it ends without a value at the first other call. -/
def runWithin (admitted : Call → Prop) [DecidablePred admitted]
    (body : (Call → Action σ ε α) → Call → Action σ ε α) : Nat → Call → Action σ ε α
  | 0, _ => throw .fuel
  | n + 1, call => if admitted call then body (runWithin admitted body n) call else throw .fuel

def lift (result : Except ε α) : Action σ ε α :=
  match result with
  | .ok value => pure value
  | .error why => throw (.error why)

def liftState (step : StateM σ α) : Action σ ε α := fun s => .ok (step.run s)

theorem run_then (x : Action σ ε α) (f : α → Action σ ε β) (s : σ) :
    (x >>= f).run s = match x.run s with
      | .ok (value, s') => (f value).run s'
      | .error why => .error why := by
  rw [StateT.run_bind]
  cases x.run s <;> rfl

/-! ## What every returned value satisfies -/

def Returns (x : Action σ ε α) (post : α → Prop) : Prop :=
  ∀ s value s', x.run s = .ok (value, s') → post value

theorem Returns.pure {post : α → Prop} {value : α} (holds : post value) :
    Returns (pure value : Action σ ε α) post := by
  intro s value' s' returned
  cases returned
  exact holds

theorem Returns.throw {post : α → Prop} {why : Stop ε} :
    Returns (throw why : Action σ ε α) post := by
  intro s value s' returned
  cases returned

theorem Returns.lift {post : α → Prop} {result : Except ε α}
    (holds : ∀ value, result = .ok value → post value) :
    Returns (Recursion.lift result : Action σ ε α) post := by
  cases result with
  | ok value => exact .pure (holds value rfl)
  | error why => exact .throw

theorem Returns.liftState {post : α → Prop} {step : StateM σ α} (holds : ∀ s, post (step.run s).1) :
    Returns (Recursion.liftState step : Action σ ε α) post := by
  intro s value s' returned
  have pair : step.run s = (value, s') := Except.ok.inj returned
  have kept := holds s
  rwa [pair] at kept

theorem Returns.bind {x : Action σ ε α} {f : α → Action σ ε β} {mid : α → Prop} {post : β → Prop}
    (first : Returns x mid) (rest : ∀ value, mid value → Returns (f value) post) :
    Returns (x >>= f) post := by
  intro s value s' returned
  rw [run_then] at returned
  cases middle : x.run s with
  | error why => simp [middle] at returned
  | ok pair =>
    rcases pair with ⟨value', s''⟩
    simp only [middle] at returned
    exact rest value' (first s value' s'' middle) s'' value s' returned

theorem Returns.mono {x : Action σ ε α} {post post' : α → Prop} (holds : Returns x post)
    (weaker : ∀ value, post value → post' value) : Returns x post' :=
  fun s value s' returned => weaker value (holds s value s' returned)

/-- The invariant of a loop speaks about the elements still to come and the accumulator. -/
theorem Returns.foldlM {f : β → α → Action σ ε β} (inv : List α → β → Prop)
    (step : ∀ x rest acc, inv (x :: rest) acc → Returns (f acc x) (inv rest)) :
    ∀ (xs : List α) (acc : β), inv xs acc → Returns (xs.foldlM f acc) (inv []) := by
  intro xs
  induction xs with
  | nil => exact fun acc start => .pure start
  | cons x rest ih =>
    intro acc start
    rw [List.foldlM_cons]
    exact (step x rest acc start).bind (fun acc' kept => ih acc' kept)

/-- A postcondition preserved by the body holds of every value a run returns. -/
theorem Returns.runWithin {admitted : Call → Prop} [DecidablePred admitted]
    {body : (Call → Action σ ε α) → Call → Action σ ε α} {post : Call → α → Prop}
    (step : ∀ recur : Call → Action σ ε α, (∀ call, Returns (recur call) (post call)) →
      ∀ call, admitted call → Returns (body recur call) (post call)) (n : Nat) (call : Call) :
    Returns (Recursion.runWithin admitted body n call) (post call) := by
  induction n generalizing call with
  | zero => exact .throw
  | succ n ih =>
    simp only [Recursion.runWithin]
    split
    · exact step _ ih call ‹_›
    · exact .throw

/-! ## How runs end -/

/-- Every run returns a value that satisfies the first condition, or stops for a reason that
satisfies the second. -/
def Ends (x : Action σ ε α) (post : α → Prop) (stopped : Stop ε → Prop) : Prop :=
  ∀ s, match x.run s with
    | .ok (value, _) => post value
    | .error why => stopped why

section
variable {stopped : Stop ε → Prop}

theorem Ends.pure {post : α → Prop} {value : α} (holds : post value) :
    Ends (pure value : Action σ ε α) post stopped := fun _ => holds

theorem Ends.throw {post : α → Prop} {why : Stop ε} (allowed : stopped why) :
    Ends (throw why : Action σ ε α) post stopped := fun _ => allowed

theorem Ends.bind {x : Action σ ε α} {f : α → Action σ ε β} {mid : α → Prop} {post : β → Prop}
    (first : Ends x mid stopped) (rest : ∀ value, mid value → Ends (f value) post stopped) :
    Ends (x >>= f) post stopped := by
  intro s
  have ended := first s
  rw [run_then]
  cases middle : x.run s with
  | error why =>
    rw [middle] at ended
    exact ended
  | ok pair =>
    rw [middle] at ended
    exact rest pair.1 ended pair.2

theorem Ends.lift {post : α → Prop} {result : Except ε α} (holds : ∀ value, result = .ok value → post value)
    (failing : ∀ why, result = .error why → stopped (.error why)) :
    Ends (Recursion.lift result : Action σ ε α) post stopped := by
  cases result with
  | ok value => exact .pure (holds value rfl)
  | error why => exact .throw (failing why rfl)

theorem Ends.and {x : Action σ ε α} {post post' : α → Prop} (first : Ends x post stopped)
    (second : Ends x post' stopped) : Ends x (fun value => post value ∧ post' value) stopped := by
  intro s
  have ended := first s
  have ended' := second s
  cases result : x.run s with
  | error why =>
    rw [result] at ended
    exact ended
  | ok pair =>
    rw [result] at ended ended'
    exact ⟨ended, ended'⟩

theorem Ends.lift_bind {post : β → Prop} {result : Except ε α} {f : α → Action σ ε β} {value : α}
    (returned : result = .ok value) (rest : Ends (f value) post stopped) :
    Ends (Recursion.lift result >>= f) post stopped := by
  rw [returned]
  exact rest

theorem Ends.liftState_bind {post : β → Prop} {step : StateM σ α} {f : α → Action σ ε β}
    (rest : ∀ value, Ends (f value) post stopped) : Ends (Recursion.liftState step >>= f) post stopped :=
  fun s => rest (step.run s).1 (step.run s).2

theorem Ends.mono {x : Action σ ε α} {post post' : α → Prop} (holds : Ends x post stopped)
    (weaker : ∀ value, post value → post' value) : Ends x post' stopped := by
  intro s
  have ended := holds s
  cases result : x.run s with
  | error why =>
    rw [result] at ended
    exact ended
  | ok pair =>
    rw [result] at ended
    exact weaker pair.1 ended

/-- The invariant of a loop speaks about the elements behind and the accumulator. -/
theorem Ends.foldlM {f : β → α → Action σ ε β} (inv : List α → β → Prop) (xs : List α)
    (step : ∀ done x rest, xs = done ++ x :: rest → ∀ acc, inv done acc →
      Ends (f acc x) (inv (done ++ [x])) stopped)
    (acc : β) (start : inv [] acc) : Ends (xs.foldlM f acc) (inv xs) stopped := by
  have behind : ∀ rest done acc, xs = done ++ rest → inv done acc → Ends (rest.foldlM f acc) (inv xs) stopped := by
    intro rest
    induction rest with
    | nil =>
      intro done acc cut kept
      rw [List.append_nil] at cut
      rw [cut]
      exact .pure kept
    | cons x rest ih =>
      intro done acc cut kept
      rw [List.foldlM_cons]
      refine (step done x rest cut acc kept).bind fun acc' kept' => ?_
      exact ih (done ++ [x]) acc' (cut.trans (List.append_cons done x rest)) kept'
  exact behind xs [] acc rfl start

end

/-- A bounded run ends as its body does, or at its bound, for all calls that the body hands a
condition on. -/
theorem Ends.run {stopped : Stop ε → Prop} {body : (Call → Action σ ε α) → Call → Action σ ε α} {post : α → Prop}
    (pre : Call → Prop) (bounded : stopped .fuel)
    (step : ∀ recur : Call → Action σ ε α, (∀ call, pre call → Ends (recur call) post stopped) →
      ∀ call, pre call → Ends (body recur call) post stopped) (n : Nat) {call : Call} (holds : pre call) :
    Ends (Recursion.run body n call) post stopped := by
  induction n generalizing call with
  | zero => exact .throw bounded
  | succ n ih => exact step _ (fun _ handed => ih handed) call holds

/-! ## Which runs agree -/

/-- The left action gives no value yet, or ends exactly as the right one does. -/
def Approximates (x y : Action σ ε α) : Prop :=
  ∀ s, x.run s = .error .fuel ∨ x.run s = y.run s

theorem Approximates.refl (x : Action σ ε α) : Approximates x x := fun _ => .inr rfl

theorem Approximates.fuel (y : Action σ ε α) : Approximates (throw .fuel) y := fun _ => .inl rfl

theorem Approximates.bind {x y : Action σ ε α} {f g : α → Action σ ε β}
    (first : Approximates x y) (rest : ∀ value, Approximates (f value) (g value)) :
    Approximates (x >>= f) (y >>= g) := by
  intro s
  simp only [run_then]
  rcases first s with stopped | same
  · exact .inl (by simp [stopped])
  · rw [same]
    cases y.run s with
    | error why => exact .inr rfl
    | ok pair => exact rest pair.1 pair.2

theorem Approximates.foldlM {f g : β → α → Action σ ε β}
    (step : ∀ acc x, Approximates (f acc x) (g acc x)) (xs : List α) (acc : β) :
    Approximates (xs.foldlM f acc) (xs.foldlM g acc) := by
  induction xs generalizing acc with
  | nil => exact .refl _
  | cons x rest ih =>
    simp only [List.foldlM_cons]
    exact (step acc x).bind ih

theorem Approximates.ends {x y : Action σ ε α} (agree : Approximates x y) {s : σ}
    {result : Except (Stop ε) (α × σ)} (ends : result ≠ .error .fuel) (ended : x.run s = result) :
    y.run s = result := by
  rcases agree s with stopped | same
  · exact absurd (ended.symm.trans stopped) ends
  · exact same.symm.trans ended

theorem Approximates.ok {x y : Action σ ε α} (agree : Approximates x y) {s s' : σ} {value : α}
    (returned : x.run s = .ok (value, s')) : y.run s = .ok (value, s') := by
  apply agree.ends _ returned
  intro same
  cases same

/-- More values from the recursive calls never change a value the body already returned. -/
def Monotone (body : (Call → Action σ ε α) → Call → Action σ ε α) : Prop :=
  ∀ recur recur' : Call → Action σ ε α, (∀ call, Approximates (recur call) (recur' call)) →
    ∀ call, Approximates (body recur call) (body recur' call)

theorem runWithin_approximates {body : (Call → Action σ ε α) → Call → Action σ ε α}
    (monotone : Monotone body) (admitted : Call → Prop) [DecidablePred admitted]
    (n : Nat) (call : Call) :
    Approximates (runWithin admitted body n call) (run body n call) := by
  induction n generalizing call with
  | zero => exact .refl _
  | succ n ih =>
    simp only [runWithin, run]
    split
    · exact monotone _ _ ih call
    · exact .fuel _

/-- Related calls have the same runs where the bodies do the same for them as soon as the
recursive calls do. -/
theorem runWithin_related {body body' : (Call → Action σ ε α) → Call → Action σ ε α} {admitted : Call → Prop}
    [DecidablePred admitted] (related : Call → Call → Prop)
    (both : ∀ call call', related call call' → (admitted call ↔ admitted call'))
    (step : ∀ recur recur' : Call → Action σ ε α,
      (∀ next next', related next next' → recur next = recur' next') →
        ∀ call call', related call call' → admitted call → body recur call = body' recur' call')
    (n : Nat) (call call' : Call) (start : related call call') :
    runWithin admitted body n call = runWithin admitted body' n call' := by
  induction n generalizing call call' with
  | zero => rfl
  | succ n ih =>
    simp only [runWithin]
    by_cases inside : admitted call
    · rw [if_pos inside, if_pos ((both call call' start).mp inside)]
      exact step _ _ ih call call' start inside
    · rw [if_neg inside, if_neg fun other => inside ((both call call' start).mpr other)]

/-- Two bodies that do the same for the admitted calls have the same runs within them. -/
theorem runWithin_congr {body body' : (Call → Action σ ε α) → Call → Action σ ε α} {admitted : Call → Prop}
    [DecidablePred admitted] (same : ∀ recur call, admitted call → body recur call = body' recur call)
    (n : Nat) (call : Call) : runWithin admitted body n call = runWithin admitted body' n call := by
  refine runWithin_related (· = ·) (fun _ _ equal => by rw [equal]) ?_ n call call rfl
  rintro recur recur' agree call _ rfl inside
  obtain rfl : recur = recur' := funext fun next => agree next next rfl
  exact same recur call inside

/-- What the left action returns, the right one returns. -/
def Refines (x y : Action σ ε α) : Prop := ∀ s value s', x.run s = .ok (value, s') → y.run s = .ok (value, s')

theorem Refines.refl (x : Action σ ε α) : Refines x x := fun _ _ _ returned => returned

theorem Refines.lift {result result' : Except ε α} (holds : ∀ value, result = .ok value → result' = .ok value) :
    Refines (Recursion.lift result : Action σ ε α) (Recursion.lift result') := by
  intro s value s' returned
  cases result with
  | error why => cases returned
  | ok value' =>
    rw [holds value' rfl]
    exact returned

theorem Refines.bind {x y : Action σ ε α} {f g : α → Action σ ε β} (first : Refines x y)
    (rest : ∀ value, Refines (f value) (g value)) : Refines (x >>= f) (y >>= g) := by
  intro s value s' returned
  rw [run_then] at returned ⊢
  cases middle : x.run s with
  | error why =>
    rw [middle] at returned
    cases returned
  | ok pair =>
    rw [middle] at returned
    rw [first s pair.1 pair.2 middle]
    exact rest pair.1 pair.2 value s' returned

theorem Refines.foldlM {f g : β → α → Action σ ε β} (step : ∀ acc x, Refines (f acc x) (g acc x)) (xs : List α)
    (acc : β) : Refines (xs.foldlM f acc) (xs.foldlM g acc) := by
  induction xs generalizing acc with
  | nil => exact .refl _
  | cons x rest ih =>
    simp only [List.foldlM_cons]
    exact (step acc x).bind ih

-- The calls of the second body may be other ones, as long as each call is carried to one of them.
theorem Refines.run {Call' : Type} (carry : Call → Call') {body : (Call → Action σ ε α) → Call → Action σ ε α}
    {body' : (Call' → Action σ ε α) → Call' → Action σ ε α}
    (step : ∀ recur recur', (∀ call, Refines (recur call) (recur' (carry call))) →
      ∀ call, Refines (body recur call) (body' recur' (carry call))) (n : Nat) (call : Call) :
    Refines (Recursion.run body n call) (Recursion.run body' n (carry call)) := by
  induction n generalizing call with
  | zero => exact .refl _
  | succ n ih => exact step _ _ ih call

/-! ## When a bound suffices -/

def Settles (x : Nat → Action σ ε α) (s : σ) : Prop :=
  ∃ result, result ≠ .error .fuel ∧ ∃ n, ∀ m ≥ n, (x m).run s = result

theorem Settles.const {y : Action σ ε α} {s : σ} (ends : y.run s ≠ .error .fuel) :
    Settles (fun _ => y) s := ⟨_, ends, 0, fun _ _ => rfl⟩

theorem Settles.pure {value : α} {s : σ} : Settles (fun _ => (pure value : Action σ ε α)) s :=
  .const fun same => by cases same

theorem Settles.lift {result : Except ε α} {s : σ} :
    Settles (fun _ => (Recursion.lift result : Action σ ε α)) s := by
  apply Settles.const
  cases result with
  | ok value => exact fun same => by cases same
  | error why => exact fun same => by cases same

theorem Settles.liftState {step : StateM σ α} {s : σ} :
    Settles (fun _ => (Recursion.liftState step : Action σ ε α)) s :=
  .const fun same => by cases same

theorem Settles.bind {x : Nat → Action σ ε α} {f : Nat → α → Action σ ε β} {s : σ}
    (first : Settles x s) (rest : ∀ value s', Settles (fun m => f m value) s') :
    Settles (fun m => x m >>= f m) s := by
  rcases first with ⟨result, ends, n, stable⟩
  cases result with
  | error why =>
    refine ⟨.error why, fun same => ends (by cases same; rfl), n, fun m large => ?_⟩
    rw [run_then, stable m large]
  | ok pair =>
    obtain ⟨final, ends', n', stable'⟩ := rest pair.1 pair.2
    refine ⟨final, ends', max n n', fun m large => ?_⟩
    have early : n ≤ m := (Nat.le_max_left n n').trans large
    have late : n' ≤ m := (Nat.le_max_right n n').trans large
    rw [run_then, stable m early]
    exact stable' m late

/-- Where code fails that does not recurse, what follows it does not run. -/
theorem Settles.lift_bind {result : Except ε α} {f : Nat → α → Action σ ε β} {s : σ}
    (rest : ∀ value, result = .ok value → Settles (fun m => f m value) s) :
    Settles (fun m => Recursion.lift result >>= f m) s := by
  cases result with
  | ok value => exact rest value rfl
  | error why =>
    refine ⟨.error (.error why), ?_, 0, fun _ _ => rfl⟩
    intro same
    cases same

theorem Settles.foldlM {f : Nat → β → α → Action σ ε β} {xs : List α}
    (step : ∀ x ∈ xs, ∀ acc s, Settles (fun m => f m acc x) s) (acc : β) (s : σ) :
    Settles (fun m => xs.foldlM (f m) acc) s := by
  induction xs generalizing acc s with
  | nil => exact .pure
  | cons x rest ih =>
    simp only [List.foldlM_cons]
    apply (step x (by simp) acc s).bind
    intro acc' s'
    exact ih (fun y member => step y (List.mem_cons_of_mem x member)) acc' s'

/-- Where every recursive call is below its caller in a well-founded order, every run settles. -/
theorem settles_run {body : (Call → Action σ ε α) → Call → Action σ ε α} {below : Call → Call → Prop}
    (wellFounded : WellFounded below)
    (step : ∀ call, (∀ next, below next call → ∀ s, Settles (fun m => run body m next) s) →
      ∀ s, Settles (fun m => body (run body m) call) s) (call : Call) (s : σ) :
    Settles (fun m => run body m call) s := by
  induction call using wellFounded.induction generalizing s with
  | _ call ih =>
    obtain ⟨result, ends, n, stable⟩ := step call ih s
    refine ⟨result, ends, n + 1, fun m large => ?_⟩
    obtain ⟨k, rfl⟩ : ∃ k, m = k + 1 := ⟨m - 1, by omega⟩
    exact stable k (by omega)

/-- What settles and stops at its bound only returns a value, the same for every larger bound. -/
theorem Settles.returns {x : Nat → Action σ ε α} {s : σ} {post : α → Prop} (settles : Settles x s)
    (ends : ∀ m, Ends (x m) post (· = .fuel)) :
    ∃ value s', post value ∧ ∃ n, ∀ m ≥ n, (x m).run s = .ok (value, s') := by
  obtain ⟨result, finished, n, stable⟩ := settles
  have ended := ends n s
  rw [stable n le_rfl] at ended
  cases result with
  | error why => exact absurd (congrArg Except.error ended) finished
  | ok pair => exact ⟨pair.1, pair.2, ended, n, stable⟩

end RayTraceRenderer.Recursion
