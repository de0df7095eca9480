import RayTraceRenderer.Foundation.Transition
import RayTraceRenderer.Managed.Init

/-! The native device and scene over presses of the Render button.

The button calls Init, Render and Release one after the other. The plugin keeps its two
handles in statics, which Init overwrites and Release leaves as they are. An exception
in Init or Render leaves the handler, and Release is not called.
-/

set_option autoImplicit false

namespace RayTraceRenderer.Managed

open Unity Transition

inductive HandleEvent where
  | create (handle : Nat)
  | use (handle : Option Nat)
  | delete (handle : Option Nat)
  deriving DecidableEq

inductive PressPhase where
  | idle
  | begun
  | initialized
  | committed
  deriving DecidableEq

def PressPhase.Holding : PressPhase → Prop
  | .initialized | .committed => True
  | _ => False

instance : DecidablePred PressPhase.Holding := fun phase => by
  unfold PressPhase.Holding
  cases phase <;> infer_instance

/-- The statics of the plugin and the handler of the button. `abandoned` says that a press
ended with an exception behind the native Init; it and the log are kept to speak about. -/
structure EditorState where
  phase : PressPhase
  g_device : Option Nat
  scene : Option Nat
  created : Nat
  log : List HandleEvent
  abandoned : Bool

inductive EditorAction where
  | press
  | nativeInit
  | addMesh
  | commit
  | intersect
  | release
  | raise
  deriving DecidableEq

def EditorState.initial : EditorState := ⟨.idle, none, none, 0, [], false⟩

namespace EditorState

variable (s : EditorState)

def nativeInit : EditorState :=
  let g_device := s.created
  let scene := s.created + 1
  { s with
    phase := .initialized
    g_device := some g_device
    scene := some scene
    created := s.created + 2
    log := s.log ++ [.create g_device, .use (some g_device), .create scene] }

def useScene : EditorState := { s with log := s.log ++ [.use s.scene] }

def release : EditorState := { s with phase := .idle, log := s.log ++ [.delete s.scene, .delete s.g_device] }

def raise : EditorState := { s with phase := .idle, abandoned := s.abandoned || decide s.phase.Holding }

end EditorState

/-- Render calls Intersect as often as it likes, and Init AddMesh. -/
def editorStep : EditorAction → EditorState → Option EditorState
  | .press, s => if s.phase = .idle then some { s with phase := .begun } else none
  | .nativeInit, s => if s.phase = .begun then some s.nativeInit else none
  | .addMesh, s => if s.phase = .initialized then some s.useScene else none
  | .commit, s => if s.phase = .initialized then some { s.useScene with phase := .committed } else none
  | .intersect, s => if s.phase = .committed then some s.useScene else none
  | .release, s => if s.phase = .committed then some s.release else none
  | .raise, s => if s.phase ≠ .idle then some s.raise else none

/-- What a deletion allows to come after it. -/
def AfterDelete (earlier later : HandleEvent) : Prop :=
  ∀ handle, earlier = .delete handle → later ≠ .use handle ∧ later ≠ .delete handle

/-- No handle is used or deleted after its deletion, and those that the statics no longer
hold were deleted once. -/
structure HandlesKept (s : EditorState) : Prop where
  ordered : s.log.Pairwise AfterDelete
  once : ∀ handle < s.created, s.g_device ≠ some handle → s.scene ≠ some handle →
    s.log.count (.delete (some handle)) = 1

/-- No press that was cut short behind the native Init is followed by one that gets there. -/
def NotAbandoned (s : EditorState) (action : EditorAction) : Prop := action = .nativeInit → s.abandoned = false

/-! ## What a step does -/

section
variable {s s' : EditorState}

theorem editorStep_cases {action : EditorAction} (stepped : editorStep action s = some s') :
    (action = .press ∧ s.phase = .idle ∧ s' = { s with phase := .begun }) ∨
    (action = .nativeInit ∧ s.phase = .begun ∧ s' = s.nativeInit) ∨
    (∃ phase, action ≠ .nativeInit ∧ s.phase.Holding ∧ phase.Holding ∧ s' = { s.useScene with phase }) ∨
    (action = .release ∧ s.phase.Holding ∧ s' = s.release) ∨
    (action = .raise ∧ s' = s.raise) := by
  cases action with
  | press =>
    simp only [editorStep] at stepped
    split at stepped
    · exact .inl ⟨rfl, ‹_›, (Option.some.inj stepped).symm⟩
    · cases stepped
  | nativeInit =>
    simp only [editorStep] at stepped
    split at stepped
    · exact .inr (.inl ⟨rfl, ‹_›, (Option.some.inj stepped).symm⟩)
    · cases stepped
  | addMesh =>
    simp only [editorStep] at stepped
    split at stepped
    · rename_i phase
      refine .inr (.inr (.inl ⟨s.phase, by simp, ?_, ?_, (Option.some.inj stepped).symm⟩)) <;>
        exact phase ▸ trivial
    · cases stepped
  | commit =>
    simp only [editorStep] at stepped
    split at stepped
    · rename_i phase
      exact .inr (.inr (.inl ⟨.committed, by simp, phase ▸ trivial, trivial, (Option.some.inj stepped).symm⟩))
    · cases stepped
  | intersect =>
    simp only [editorStep] at stepped
    split at stepped
    · rename_i phase
      refine .inr (.inr (.inl ⟨s.phase, by simp, ?_, ?_, (Option.some.inj stepped).symm⟩)) <;>
        exact phase ▸ trivial
    · cases stepped
  | release =>
    simp only [editorStep] at stepped
    split at stepped
    · rename_i phase
      exact .inr (.inr (.inr (.inl ⟨rfl, phase ▸ trivial, (Option.some.inj stepped).symm⟩)))
    · cases stepped
  | raise =>
    simp only [editorStep] at stepped
    split at stepped
    · exact .inr (.inr (.inr (.inr ⟨rfl, (Option.some.inj stepped).symm⟩)))
    · cases stepped

/-! ## Every run -/

/-- While the handler is between Init and Release, the statics hold handles that are not deleted. -/
structure HandlesOk (s : EditorState) : Prop where
  ordered : s.log.Pairwise AfterDelete
  known : ∀ handle, .delete handle ∈ s.log → ∃ h < s.created, handle = some h
  held : s.phase.Holding → ∃ device scene, (s.g_device = some device ∧ s.scene = some scene) ∧ device ≠ scene ∧
    (device < s.created ∧ scene < s.created) ∧ .delete (some device) ∉ s.log ∧ .delete (some scene) ∉ s.log

theorem ordered_append {log tail : List HandleEvent} (ordered : log.Pairwise AfterDelete)
    (inner : tail.Pairwise AfterDelete)
    (live : ∀ event ∈ tail, ∀ handle, event = .use handle ∨ event = .delete handle → .delete handle ∉ log) :
    (log ++ tail).Pairwise AfterDelete := by
  refine List.pairwise_append.mpr ⟨ordered, inner, ?_⟩
  rintro earlier before later member handle rfl
  constructor
  · intro used
    exact live later member handle (.inl used) before
  · intro deleted
    exact live later member handle (.inr deleted) before

theorem HandlesOk.useScene (ok : HandlesOk s) (holding : s.phase.Holding) (phase : PressPhase) :
    HandlesOk { s.useScene with phase } := by
  obtain ⟨device, scene, ⟨g_device, g_scene⟩, ne, fresh, kept, kept'⟩ := ok.held holding
  refine ⟨?_, ?_, ?_⟩
  · refine ordered_append ok.ordered (List.pairwise_singleton _ _) ?_
    intro event member handle what
    rw [List.mem_singleton.mp member, g_scene] at what
    rcases what with same | same
    · rw [← HandleEvent.use.inj same]
      exact kept'
    · cases same
  · intro handle deleted
    apply ok.known handle
    simpa [EditorState.useScene] using deleted
  · intro _
    refine ⟨device, scene, ⟨g_device, g_scene⟩, ne, fresh, ?_, ?_⟩
    · simpa [EditorState.useScene] using kept
    · simpa [EditorState.useScene] using kept'

theorem HandlesOk.nativeInit (ok : HandlesOk s) : HandlesOk s.nativeInit := by
  have undeleted : ∀ h, s.created ≤ h → .delete (some h) ∉ s.log := by
    intro h beyond deleted
    obtain ⟨h', small, same⟩ := ok.known _ deleted
    rw [Option.some.inj same] at beyond
    omega
  refine ⟨?_, ?_, ?_⟩
  · refine ordered_append ok.ordered ?_ ?_
    · simp [AfterDelete]
    · intro event member handle what
      simp only [List.mem_cons, List.not_mem_nil, or_false] at member
      rcases member with rfl | rfl | rfl
      · simp at what
      · have same : some s.created = handle := by simpa using what
        rw [← same]
        exact undeleted _ le_rfl
      · simp at what
  · intro handle deleted
    have before : .delete handle ∈ s.log := by simpa [EditorState.nativeInit] using deleted
    obtain ⟨h, small, same⟩ := ok.known handle before
    exact ⟨h, Nat.lt_add_right 2 small, same⟩
  · intro _
    refine ⟨s.created, s.created + 1, ⟨rfl, rfl⟩, by omega, ⟨?_, ?_⟩, ?_, ?_⟩
    · show s.created < s.created + 2
      omega
    · show s.created + 1 < s.created + 2
      omega
    · simpa [EditorState.nativeInit] using undeleted s.created le_rfl
    · simpa [EditorState.nativeInit] using undeleted (s.created + 1) (Nat.le_succ _)

theorem HandlesOk.release (ok : HandlesOk s) (holding : s.phase.Holding) : HandlesOk s.release := by
  obtain ⟨device, scene, ⟨g_device, g_scene⟩, ne, fresh, kept, kept'⟩ := ok.held holding
  refine ⟨?_, ?_, fun idle => idle.elim⟩
  · unfold EditorState.release
    rw [g_device, g_scene]
    refine ordered_append ok.ordered ?_ ?_
    · simp [AfterDelete, ne]
    · intro event member handle what
      simp only [List.mem_cons, List.not_mem_nil, or_false] at member
      rcases member with rfl | rfl
      · have same : some scene = handle := by simpa using what
        rw [← same]
        exact kept'
      · have same : some device = handle := by simpa using what
        rw [← same]
        exact kept
  · intro handle deleted
    unfold EditorState.release at deleted
    rw [g_device, g_scene] at deleted
    simp only [List.mem_append, List.mem_cons, HandleEvent.delete.injEq, List.not_mem_nil, or_false] at deleted
    rcases deleted with before | rfl | rfl
    · exact ok.known handle before
    · exact ⟨scene, fresh.2, rfl⟩
    · exact ⟨device, fresh.1, rfl⟩

theorem handlesOk_step (ok : HandlesOk s) {action : EditorAction} (stepped : editorStep action s = some s') :
    HandlesOk s' := by
  rcases editorStep_cases stepped with ⟨-, phase, rfl⟩ | ⟨-, -, rfl⟩ | ⟨phase, -, holding, -, rfl⟩ |
    ⟨-, holding, rfl⟩ | ⟨-, rfl⟩
  · exact ⟨ok.ordered, ok.known, fun begun => begun.elim⟩
  · exact ok.nativeInit
  · exact ok.useScene holding phase
  · exact ok.release holding
  · exact ⟨ok.ordered, ok.known, fun idle => idle.elim⟩

theorem handlesOk_initial : HandlesOk .initial := by
  refine ⟨.nil, ?_, fun idle => idle.elim⟩
  intro handle none
  cases none

-- Release deletes the two handles that the statics hold, and all others were deleted before.
theorem HandlesOk.count_release (ok : HandlesOk s) (holding : s.phase.Holding)
    (once : ∀ handle < s.created, s.g_device ≠ some handle → s.scene ≠ some handle →
      s.log.count (.delete (some handle)) = 1) :
    ∀ handle < s.created, s.release.log.count (.delete (some handle)) = 1 := by
  obtain ⟨device, scene, ⟨g_device, g_scene⟩, ne, -, kept, kept'⟩ := ok.held holding
  intro handle small
  unfold EditorState.release
  rw [g_device, g_scene, List.count_append]
  by_cases isDevice : device = handle
  · subst isDevice
    rw [List.count_eq_zero_of_not_mem kept]
    simp [ne.symm]
  · by_cases isScene : scene = handle
    · subst isScene
      rw [List.count_eq_zero_of_not_mem kept']
      simp [ne]
    · rw [once handle small (by simpa [g_device] using isDevice) (by simpa [g_scene] using isScene)]
      simp [isDevice, isScene]

structure Accounted (s : EditorState) : Prop where
  once : ∀ handle < s.created, s.g_device ≠ some handle → s.scene ≠ some handle →
    s.log.count (.delete (some handle)) = 1
  closed : ¬ s.phase.Holding → s.abandoned = false → ∀ handle < s.created, s.log.count (.delete (some handle)) = 1
  lost : s.abandoned = true → ¬ s.phase.Holding ∧ ∃ handle < s.created, .delete (some handle) ∉ s.log

theorem accounted_step (ok : HandlesOk s) (before : Accounted s) {action : EditorAction}
    (admitted : NotAbandoned s action) (stepped : editorStep action s = some s') : Accounted s' := by
  rcases editorStep_cases stepped with ⟨-, phase, rfl⟩ | ⟨init, phase, rfl⟩ | ⟨phase, -, holding, holding', rfl⟩ |
    ⟨-, holding, rfl⟩ | ⟨-, rfl⟩
  · have idle : ¬ s.phase.Holding := by
      rw [phase]
      exact id
    refine ⟨before.once, fun _ => before.closed idle, fun abandoned => ?_⟩
    exact ⟨id, (before.lost abandoned).2⟩
  · have idle : ¬ s.phase.Holding := by
      rw [phase]
      exact id
    refine ⟨?_, fun released => absurd trivial released, fun abandoned => ?_⟩
    · intro handle small device scene
      have old : handle < s.created := by
        simp only [EditorState.nativeInit, Option.some.injEq, ne_eq] at small device scene
        omega
      simpa [EditorState.nativeInit] using before.closed idle (admitted init) handle old
    · have kept : s.abandoned = true := abandoned
      rw [admitted init] at kept
      cases kept
  · refine ⟨?_, fun released => absurd holding' released, fun abandoned => absurd holding (before.lost abandoned).1⟩
    intro handle small device scene
    simpa [EditorState.useScene] using before.once handle small device scene
  · have deleted := ok.count_release holding before.once
    refine ⟨fun handle small _ _ => deleted handle small, fun _ _ => deleted, fun abandoned => ?_⟩
    exact absurd holding (before.lost abandoned).1
  · refine ⟨before.once, ?_, ?_⟩
    · intro _ kept
      simp only [EditorState.raise, Bool.or_eq_false_iff, decide_eq_false_iff_not] at kept
      exact before.closed kept.2 kept.1
    · intro abandoned
      simp only [EditorState.raise, Bool.or_eq_true, decide_eq_true_eq] at abandoned
      rcases abandoned with earlier | now
      · exact ⟨id, (before.lost earlier).2⟩
      · obtain ⟨device, _, -, -, fresh, kept, -⟩ := ok.held now
        exact ⟨id, device, fresh.1, kept⟩

-- The handle that was lost is not among the new ones.
theorem notAbandoned_of_kept (before : Accounted s) {action : EditorAction}
    (stepped : editorStep action s = some s') (kept : HandlesKept s') : NotAbandoned s action := by
  rintro rfl
  rcases editorStep_cases stepped with ⟨other, -⟩ | ⟨-, -, rfl⟩ | ⟨_, other, -⟩ | ⟨other, -⟩ | ⟨other, -⟩
  · cases other
  · by_contra abandoned
    obtain ⟨-, handle, small, undeleted⟩ := before.lost (by simpa using abandoned)
    have once := kept.once handle (Nat.lt_add_right 2 small)
      (by simp only [EditorState.nativeInit, ne_eq, Option.some.injEq]; omega)
      (by simp only [EditorState.nativeInit, ne_eq, Option.some.injEq]; omega)
    have never : s.nativeInit.log.count (.delete (some handle)) = 0 := by
      apply List.count_eq_zero_of_not_mem
      simpa [EditorState.nativeInit] using undeleted
    omega
  · exact absurd rfl other
  · cases other
  · cases other

end

/-- The handles are kept throughout a run exactly where no press gets to the native Init after
one that an exception ended behind it. -/
theorem handlesKept_iff (actions : List EditorAction) :
    Always editorStep HandlesKept actions .initial ↔ Within editorStep NotAbandoned actions .initial := by
  have start : Accounted .initial := by
    refine ⟨fun handle none => ?_, fun _ _ handle none => ?_, fun abandoned => ?_⟩
    · cases none
    · cases none
    · cases abandoned
  have keepsOk : ∀ s action s', HandlesOk s → editorStep action s = some s' → HandlesOk s' :=
    fun s action s' ok stepped => handlesOk_step ok stepped
  refine always_iff_within keepsOk ?_ ?_ ?_ handlesOk_initial start
  · intro s action s' ok before admitted stepped
    exact accounted_step ok before admitted stepped
  · intro s ok accounted
    exact ⟨ok.ordered, accounted.once⟩
  · intro s action s' _ before stepped kept
    exact notAbandoned_of_kept before stepped kept

theorem within_of_noRaise {actions : List EditorAction} (quiet : .raise ∉ actions) {s : EditorState}
    (before : s.abandoned = false) : Within editorStep NotAbandoned actions s := by
  induction actions generalizing s with
  | nil => trivial
  | cons action rest ih =>
    intro s' stepped
    refine ⟨fun _ => before, ih (List.not_mem_of_not_mem_cons quiet) ?_⟩
    rcases editorStep_cases stepped with ⟨-, -, rfl⟩ | ⟨-, -, rfl⟩ | ⟨_, -, -, -, rfl⟩ | ⟨-, -, rfl⟩ | ⟨rfl, -⟩
    · exact before
    · exact before
    · exact before
    · exact before
    · exact absurd List.mem_cons_self quiet

def bareWorld : UnityScene Rat where
  camera := some ⟨1⟩
  lights := []
  renderers := [{ squareRenderer true with sharedMaterials := [none] }]
  terrains := []

def pressedAgain : List EditorAction := [.press, .nativeInit, .addMesh, .raise, .press, .nativeInit]

theorem pressedAgain_loses_handles :
    letI := Mathf.atUnits
    (init bareWorld).map (fun s => s.scene.models.length) = .error .nullReference ∧
    ∃ s, run editorStep pressedAgain .initial = some s ∧ s.g_device = some 2 ∧ s.scene = some 3 ∧
      s.log.count (.delete (some 0)) = 0 ∧ s.log.count (.delete (some 1)) = 0 ∧ ¬ HandlesKept s := by
  let := Mathf.atUnits
  constructor
  · decide +kernel
  · have facts : (run editorStep pressedAgain .initial).map
        (fun s => (s.created, s.g_device, s.scene, s.log.count (.delete (some 0)), s.log.count (.delete (some 1)))) =
        some (4, some 2, some 3, 0, 0) := by decide +kernel
    obtain ⟨s, ran, all⟩ := Option.map_eq_some_iff.mp facts
    simp only [Prod.mk.injEq] at all
    obtain ⟨created, device, scene, first, second⟩ := all
    refine ⟨s, ran, device, scene, first, second, fun kept => ?_⟩
    have once := kept.once 0 (by rw [created]; decide) (by rw [device]; decide) (by rw [scene]; decide)
    rw [first] at once
    cases once

end RayTraceRenderer.Managed
