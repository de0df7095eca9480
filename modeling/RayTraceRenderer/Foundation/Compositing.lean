import Mathlib.Tactic.Common

/-! Front-to-back composition of layers, and a walk that looks only so far ahead.

A layer either stops the walk or lets through what is behind it. A walk carries a
reach: a layer beyond the reach is taken for the end of the layers, and every layer
passed may change the reach.
-/

set_option autoImplicit false

namespace RayTraceRenderer.Compositing

/-- How layers combine. Two different colours stay different through a layer. -/
structure Medium (Layer Colour : Type) where
  clear : Colour
  dark : Colour
  passes : Layer → Prop
  passesDecidable : DecidablePred passes
  through : Layer → Colour → Colour
  through_injective : ∀ layer, passes layer → Function.Injective (through layer)

variable {Layer Colour Reach : Type} (medium : Medium Layer Colour)

instance : DecidablePred medium.passes := medium.passesDecidable

def composite : List Layer → Colour
  | [] => medium.clear
  | layer :: rest => if medium.passes layer then medium.through layer (composite rest) else medium.dark

variable (within : Reach → Layer → Option Reach)

def walk : Reach → List Layer → Colour
  | _, [] => medium.clear
  | reach, layer :: rest =>
    match within reach layer with
    | none => medium.clear
    | some next => if medium.passes layer then medium.through layer (walk next rest) else medium.dark

/-- The layers a walk leaves out: those from the first one beyond its reach on. -/
def missed : Reach → List Layer → List Layer
  | _, [] => []
  | reach, layer :: rest =>
    match within reach layer with
    | none => layer :: rest
    | some next => if medium.passes layer then missed next rest else []

/-- A walk composes all layers exactly where the ones it leaves out compose to nothing. -/
theorem walk_eq_composite_iff (layers : List Layer) (reach : Reach) :
    walk medium within reach layers = composite medium layers ↔
      composite medium (missed medium within reach layers) = medium.clear := by
  induction layers generalizing reach with
  | nil => simp [walk, missed, composite]
  | cons layer rest ih =>
    unfold walk missed
    cases within reach layer with
    | none => exact eq_comm
    | some next =>
      by_cases passes : medium.passes layer
      · simp only [passes, if_true, composite]
        rw [← ih next]
        exact (medium.through_injective layer passes).eq_iff
      · simp [passes, composite]

end RayTraceRenderer.Compositing
