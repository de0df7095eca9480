import RayTraceRenderer.Native.Interface
import Mathlib.Data.Rat.Defs

/-! Batched against single queries.

The two routines initialise every ray field alike but one: a packet starts from
the geometry id its ray came with, a single query from the invalid id. A hit
overwrites the field, so the difference survives exactly where a ray of a packet
misses.
-/

set_option autoImplicit false

namespace RayTraceRenderer.Native

open Unity

variable {K : Type} [Field K] (embree : Embree K) (scene : RTCScene K)

structure SameAnswer (ray out single : Ray K) : Prop where
  geomID : out.geomID = single.geomID
  primID : out.primID = single.primID
  length : out.length = single.length
  coordinates : embree.closest scene ray.toRayData ≠ none →
    out.u = single.u ∧ out.v = single.v ∧ out.normal = single.normal

/-- Each of the first rays is answered as a single query would answer it, on whatever
stack contents, and the others are untouched. -/
def BatchAgrees (rayCount : Nat) (rays out : Nat → Ray K) : Prop :=
  (∀ j < rayCount, ∀ stack, SameAnswer embree scene (rays j) (out j)
    (intersect embree scene stack (rays j))) ∧
  ∀ j, rayCount ≤ j → out j = rays j

/-- The rays of a packet that miss came with an invalid geometry id. -/
def MissesAreFresh (rayCount : Nat) (rays : Nat → Ray K) : Prop :=
  ∀ j < rayCount / 8 * 8, embree.closest scene (rays j).toRayData = none →
    (rays j).geomID = RTC_INVALID_GEOMETRY_ID

variable {embree scene}

theorem Answers.same {ray out single : Ray K} (left : Answers embree scene ray out)
    (right : Answers embree scene ray single)
    (stale : embree.closest scene ray.toRayData = none → out.geomID = single.geomID) :
    SameAnswer embree scene ray out single := by
  cases found : embree.closest scene ray.toRayData with
  | none =>
    obtain ⟨primID, length⟩ := left.miss found
    obtain ⟨primID', length'⟩ := right.miss found
    refine ⟨stale found, primID.trans primID'.symm, length.trans length'.symm, ?_⟩
    exact fun hits => absurd found hits
  | some hit =>
    obtain ⟨geomID, primID, length, normal, u, v⟩ := left.hit hit found
    obtain ⟨geomID', primID', length', normal', u', v'⟩ := right.hit hit found
    exact ⟨geomID.trans geomID'.symm, primID.trans primID'.symm, length.trans length'.symm,
      fun _ => ⟨u.trans u'.symm, v.trans v'.symm, normal.trans normal'.symm⟩⟩

theorem batchIntersect_agrees_iff (packetStack : Nat → RTCRayN K 8) (rayStack : Nat → RTCRay K)
    (rayCount : Nat) (rays : Nat → Ray K) :
    BatchAgrees embree scene rayCount rays
        (batchIntersect embree scene packetStack rayStack rayCount rays) ↔
      MissesAreFresh embree scene rayCount rays := by
  obtain ⟨packed, single, beyond⟩ := batchIntersect_answers embree scene
    packetStack rayStack rayCount rays
  constructor
  · rintro ⟨agree, -⟩ j below missed
    have same := (agree j (by omega) (rayStack 0)).geomID
    rw [(packed j below).stale missed, intersect_miss missed] at same
    exact same
  · intro fresh
    refine ⟨fun j below stack => ?_, beyond⟩
    by_cases inPacket : j < rayCount / 8 * 8
    · apply (packed j inPacket).toAnswers.same (intersect_answers stack (rays j))
      intro missed
      rw [(packed j inPacket).stale missed, intersect_miss missed, fresh j inPacket missed]
    · obtain ⟨stack', answered⟩ := single j (by omega) below
      rw [answered]
      apply (intersect_answers stack' (rays j)).same (intersect_answers stack (rays j))
      intro missed
      rw [intersect_miss missed, intersect_miss missed]

def emptyEmbree : Embree Rat := .ofClosest (fun _ _ => none) (fun _ _ _ found => by cases found)

/-- A ray that keeps geometry 0 from an earlier query. -/
def staleRay : Ray Rat :=
  { pos := 0, mask := 0xFFFFFFFF, dir := Vector3.up, length := 1000, geomID := 0, primID := 0
    u := 0, v := 0, normal := 0, align1 := 0 }

def blankStack : RTCRay Rat :=
  { org := 0, dir := 0, tnear := 0, tfar := 0, time := 0, mask := 0, Ng := 0, u := 0, v := 0
    geomID := 0, primID := 0, instID := 0 }

theorem batchIntersect_stale :
    ¬ BatchAgrees emptyEmbree ⟨[]⟩ 8 (fun _ => staleRay)
      (batchIntersect emptyEmbree ⟨[]⟩ (fun _ => .ofLanes fun _ => blankStack) (fun _ => blankStack) 8
        fun _ => staleRay) := by
  rintro ⟨agree, -⟩
  obtain ⟨packed, -, -⟩ := batchIntersect_answers emptyEmbree ⟨[]⟩
    (fun _ => .ofLanes fun _ => blankStack) (fun _ => blankStack) 8 fun _ => staleRay
  have same := (agree 0 (by decide) blankStack).geomID
  rw [(packed 0 (by decide)).stale rfl, intersect_miss rfl] at same
  exact absurd same (by decide)

end RayTraceRenderer.Native
