import RayTraceRenderer.Managed.Tracing
import Mathlib.Data.Prod.Lex
import Mathlib.Data.Rat.Floor
import Mathlib.Order.WellFounded

/-! TraceColor returns: the tree of its calls is finite.

A secondary ray lowers the depth. The transmitted ray keeps the depth and the
direction, but it starts a hundredth of the direction behind the hit point; every
hit point lies on the scene, so no ray can advance so more than finitely often.
-/

set_option autoImplicit false

namespace RayTraceRenderer.Managed

open Unity Native Recursion

variable {K σ : Type} [Field K] [LinearOrder K] [FloorRing K]

/-! ## The extent of a scene -/

/-- How far the scene reaches along a direction. -/
def extent (scene : RTCScene K) (dir : Vector3 K) : K :=
  ((scene.geometries.flatMap (·.verticesBuf)).map (·.dot dir)).foldr max 0

omit [FloorRing K] in
theorem vertex_le_extent {scene : RTCScene K} {mesh : TriangleMesh K} (stored : mesh ∈ scene.geometries)
    {index : Int} {V : Vector3 K} (found : mesh.vertex index = some V) (dir : Vector3 K) :
    V.dot dir ≤ extent scene dir := by
  unfold TriangleMesh.vertex at found
  split at found
  · have used : V ∈ scene.geometries.flatMap (·.verticesBuf) :=
      List.mem_flatMap.mpr ⟨mesh, stored, List.mem_of_getElem? found⟩
    unfold extent
    exact List.le_max_of_le' 0 (List.mem_map.mpr ⟨V, used, rfl⟩) le_rfl
  · cases found

omit [FloorRing K] in
theorem corners_le_extent {scene : RTCScene K} {geomID primID : UInt32} {V0 V1 V2 : Vector3 K}
    (resolved : scene.corners geomID primID = some (V0, V1, V2)) (dir : Vector3 K) :
    V0.dot dir ≤ extent scene dir ∧ V1.dot dir ≤ extent scene dir ∧ V2.dot dir ≤ extent scene dir := by
  simp only [RTCScene.corners, TriangleMesh.corners, Option.bind_eq_bind, Option.bind_eq_some_iff,
    Option.pure_def, Option.some.injEq, Prod.mk.injEq] at resolved
  rcases resolved with ⟨mesh, stored, triangle, -, W0, found0, W1, found1, W2, found2, rfl, rfl, rfl⟩
  have member := List.mem_of_getElem? stored
  exact ⟨vertex_le_extent member found0 dir, vertex_le_extent member found1 dir,
    vertex_le_extent member found2 dir⟩

section
variable [IsStrictOrderedRing K]

omit [FloorRing K] in
-- No point of a triangle is farther along a direction than its corners.
theorem onTriangle_le {V0 V1 V2 point dir : Vector3 K} {bound : K} (on : OnTriangle V0 V1 V2 point)
    (bound0 : V0.dot dir ≤ bound) (bound1 : V1.dot dir ≤ bound) (bound2 : V2.dot dir ≤ bound) :
    point.dot dir ≤ bound := by
  rcases on with ⟨u, v, u_nonneg, v_nonneg, total, rfl⟩
  have w_nonneg : 0 ≤ 1 - u - v := by linarith
  calc (barycentric V0 V1 V2 u v).dot dir
      = (1 - u - v) * V0.dot dir + u * V1.dot dir + v * V2.dot dir := by
        simp [barycentric, Vector3.dot]
        ring
    _ ≤ (1 - u - v) * bound + u * bound + v * bound := by gcongr
    _ = bound := by ring

/-! ## How often a ray can advance -/

def stepsLeft (renderer : Renderer K) (call : TraceCall K) : K :=
  (extent renderer.nativeScene call.rayDir - call.startPos.dot call.rayDir) /
    (call.rayDir.dot call.rayDir / 100)

def rank (renderer : Renderer K) (call : TraceCall K) : Nat := (⌊stepsLeft renderer call⌋ + 1).toNat

/-- What TraceColor may call next: a bounce in any direction, or the transmitted ray. -/
inductive Spawns (renderer : Renderer K) : TraceCall K → TraceCall K → Prop where
  | bounce {call : TraceCall K} {info : HitInfo K} (dir : Vector3 K) (deep : 0 < call.depth) :
      Spawns renderer (info.bounce call dir) call
  | transmit {call : TraceCall K} {hit : Hit K} {info : HitInfo K} (deep : 0 < call.depth)
      (found : renderer.closest call.startPos call.rayDir 1000 = some hit)
      (looked : renderer.hitInfo (renderer.intersect call.startPos call.rayDir 1000) = .ok info) :
      Spawns renderer (info.transmit call) call

variable {renderer : Renderer K}

omit [FloorRing K] in
theorem hit_in_extent (hits : renderer.embree.HitsTriangles) {startPos rayDir : Vector3 K} {length : K}
    {hit : Hit K} (found : renderer.closest startPos rayDir length = some hit) :
    0 ≤ hit.t ∧ startPos.dot rayDir + hit.t * rayDir.dot rayDir ≤ extent renderer.nativeScene rayDir := by
  refine ⟨hits.ahead _ _ _ found le_rfl, ?_⟩
  obtain ⟨geomID, primID, V0, V1, V2, resolved, on⟩ := hits.onTriangle _ _ _ found
  obtain ⟨bound0, bound1, bound2⟩ := corners_le_extent resolved rayDir
  calc startPos.dot rayDir + hit.t * rayDir.dot rayDir
      = (startPos + hit.t • rayDir).dot rayDir := by
        simp [Vector3.dot]
        ring
    _ ≤ extent renderer.nativeScene rayDir := onTriangle_le on bound0 bound1 bound2

theorem transmit_rank_lt (hits : renderer.embree.HitsTriangles) {call : TraceCall K} {hit : Hit K}
    {info : HitInfo K} (found : renderer.closest call.startPos call.rayDir 1000 = some hit)
    (looked : renderer.hitInfo (renderer.intersect call.startPos call.rayDir 1000) = .ok info) :
    rank renderer (info.transmit call) < rank renderer call := by
  have moving : 0 < call.rayDir.dot call.rayDir := by
    apply Vector3.dot_self_pos
    intro stands
    have missed := hits.still renderer.nativeScene (newRay call.startPos call.rayDir 1000).toRayData stands
    exact Option.some_ne_none hit (found.symm.trans missed)
  obtain ⟨ahead, inside⟩ := hit_in_extent hits found
  have place : info.hitPos = call.startPos + hit.t • call.rayDir := by
    obtain ⟨_, _, _, _, _, -, -, -, rfl⟩ := renderer.hitInfo_spec found looked
    rfl
  have nonneg : 0 ≤ stepsLeft renderer call := by
    have advance := mul_nonneg ahead moving.le
    apply div_nonneg _ (by positivity)
    linarith
  -- The next ray starts at least one step farther on.
  have fewer : stepsLeft renderer (info.transmit call) = stepsLeft renderer call - 100 * hit.t - 1 := by
    have start : (info.transmit call).startPos.dot call.rayDir = call.startPos.dot call.rayDir +
        (hit.t + 1 / 100) * call.rayDir.dot call.rayDir := by
      simp only [HitInfo.transmit, place, Vector3.dot, Vector3.add_x, Vector3.add_y, Vector3.add_z,
        Vector3.smul_x, Vector3.smul_y, Vector3.smul_z]
      ring
    change (extent renderer.nativeScene call.rayDir - (info.transmit call).startPos.dot call.rayDir) /
      (call.rayDir.dot call.rayDir / 100) = _
    rw [start, stepsLeft]
    field_simp
    ring
  have floors : ⌊stepsLeft renderer (info.transmit call)⌋ ≤ ⌊stepsLeft renderer call⌋ - 1 := by
    rw [← Int.floor_sub_one]
    apply Int.floor_le_floor
    linarith
  have present : 0 ≤ ⌊stepsLeft renderer call⌋ := Int.floor_nonneg.mpr nonneg
  unfold rank
  omega

-- A bounce lowers the depth; a transmitted ray keeps it and has fewer steps left.
theorem spawns_wellFounded (hits : renderer.embree.HitsTriangles) : WellFounded (Spawns renderer) := by
  have order : WellFounded (InvImage (Prod.Lex (· < ·) (· < ·))
      fun call : TraceCall K => (call.depth.toNat, rank renderer call)) :=
    InvImage.wf _ (WellFounded.prod_lex Nat.lt_wfRel.wf Nat.lt_wfRel.wf)
  refine Subrelation.wf (fun {next call} spawned => ?_) order
  cases spawned with
  | bounce dir deep =>
    apply Prod.Lex.left
    simp only [HitInfo.bounce]
    omega
  | transmit deep found looked =>
    apply Prod.Lex.right
    exact transmit_rank_lt hits found looked

end

/-! ## The recursion settles -/

section
variable [Mathf K] {renderer : Renderer K} {random : Random K σ} {lightPath : LightPath K}
  {lightCount : Int} {trace : Nat → TraceCall K → Action σ (Stop Exn) (Color K)} {call : TraceCall K}
  {info : HitInfo K}

omit [LinearOrder K] [FloorRing K] [Mathf K] in
theorem gather_settles (bounces : ∀ dir s, Settles (fun m => trace m (info.bounce call dir)) s)
    (dirs : List (Vector3 K)) (color : Color K) (s : σ) :
    Settles (fun m => gather (trace m) info call dirs color) s := by
  apply Settles.foldlM
  intro dir _ acc s
  exact (bounces dir s).bind fun _ _ => .pure

theorem reflectColor_settles (bounces : ∀ dir s, Settles (fun m => trace m (info.bounce call dir)) s)
    (s : σ) : Settles (fun m => reflectColor random (trace m) info call) s := by
  unfold reflectColor
  refine Settles.bind ?_ fun _ _ => .pure
  unfold reflectedLight
  by_cases sampled : 0 < info.reflectSample call
  · simp only [sampled, if_true]
    exact Settles.liftState.bind fun dirs s => (gather_settles bounces dirs _ s).bind fun _ _ => .pure
  · simp only [sampled, if_false]
    exact .pure

theorem diffuseColor_settles (bounces : ∀ dir s, Settles (fun m => trace m (info.bounce call dir)) s)
    (s : σ) : Settles (fun m => diffuseColor renderer random lightPath lightCount (trace m) info call) s := by
  unfold diffuseColor
  refine Settles.lift.bind fun directColor s => Settles.bind ?_ fun _ _ => .pure
  unfold diffuseLight
  by_cases sampled : 0 < info.diffuseSample call
  · simp only [sampled, if_true]
    exact Settles.liftState.bind fun dirs s => gather_settles bounces dirs _ s
  · simp only [sampled, if_false]
    exact .pure

theorem traceHit_settles (bounces : ∀ dir s, Settles (fun m => trace m (info.bounce call dir)) s)
    (transmits : ∀ s, Settles (fun m => trace m (info.transmit call)) s) (s : σ) :
    Settles (fun m => traceHit renderer random lightPath lightCount (trace m) call info) s := by
  unfold traceHit
  refine (reflectColor_settles bounces s).bind fun _ s => (diffuseColor_settles bounces s).bind fun _ s => ?_
  by_cases passes : info.texColor.a < 99 / 100
  · simp only [passes, if_true]
    exact (transmits s).bind fun _ _ => .pure
  · simp only [passes, if_false]
    exact .pure

theorem traceColorBody_settles (spawned : ∀ next, Spawns renderer next call → ∀ s, Settles (fun m => trace m next) s)
    (s : σ) : Settles (fun m => traceColorBody renderer random lightPath lightCount (trace m) call) s := by
  unfold traceColorBody
  by_cases shallow : call.depth ≤ 0
  · simp only [shallow, if_true]
    exact .pure
  · have deep : 0 < call.depth := not_le.mp shallow
    simp only [shallow, if_false, renderer.intersect_invalid_iff]
    cases found : renderer.closest call.startPos call.rayDir 1000 with
    | none => exact .pure
    | some hit =>
      apply Settles.lift_bind
      intro info looked
      have looked := mapError_eq_ok.mp looked
      exact traceHit_settles (fun dir s => spawned _ (.bounce dir deep) s)
        (fun s => spawned _ (.transmit deep found looked) s) s

/-- Whatever is drawn and whatever the shadow rays answer, some bound on the depth of the
recursion suffices. -/
theorem traceColor_terminates [IsStrictOrderedRing K] (renderer : Renderer K)
    (hits : renderer.embree.HitsTriangles) (random : Random K σ) (lightPath : LightPath K)
    (call : TraceCall K) (s : σ) :
    Settles (fun fuel => traceColor renderer random lightPath fuel call) s :=
  settles_run (spawns_wellFounded hits) (fun _ next s => traceColorBody_settles next s) call s

end

def twoPanes : Renderer Rat :=
  .over Embree.closedSegment
    [plainPane 1 ⟨1, 1, 1, 1 / 2⟩ .Alphablend Alphablend.notAdditive,
     plainPane 5 ⟨1, 1, 1, 1 / 2⟩ .Alphablend Alphablend.notAdditive]
    [] Color.black

theorem traceColor_terminates_panes :
    letI := Mathf.atUnits
    Settles (fun fuel => traceColor twoPanes Random.lowest (twoPanes.getLightPathColor 5) fuel
      ⟨0, ⟨0, 0, 1⟩, 0, 3⟩) () :=
  letI := Mathf.atUnits
  traceColor_terminates twoPanes (exhaustive_reportsNearest _).hitsTriangles Random.lowest
    (twoPanes.getLightPathColor 5) ⟨0, ⟨0, 0, 1⟩, 0, 3⟩ ()

end RayTraceRenderer.Managed
