import RayTraceRenderer.Unity.Objects

/-! Objects that stand somewhere else.

They keep their rotation and their scale, and everything that tells one place from another by their
difference keeps its value.
-/

set_option autoImplicit false

namespace RayTraceRenderer.Unity

variable {K : Type} [Field K]

namespace Vector3

theorem add_swap (a b c : Vector3 K) : a + b + c = a + c + b := by ext <;> simp <;> ring

theorem add_sub_add (a b c : Vector3 K) : a + c - (b + c) = a - b := by ext <;> simp

theorem add_zero_vector (a : Vector3 K) : a + 0 = a := by ext <;> simp

theorem neg_zero_vector : -(0 : Vector3 K) = 0 := by ext <;> simp

theorem add_back (a b : Vector3 K) : a + b + -b = a := by ext <;> simp

theorem sub_forth (a b : Vector3 K) : a + -b + b = a := by ext <;> simp

end Vector3

variable (shift : Vector3 K)

def Transform.moved (transform : Transform K) : Transform K :=
  { transform with position := transform.position + shift }

def Light.moved (light : Light K) : Light K := { light with transform := light.transform.moved shift }

def Bounds.moved (bounds : Bounds K) : Bounds K := { bounds with center := bounds.center + shift }

def MeshFilter.moved (filter : MeshFilter K) : MeshFilter K :=
  { filter with transform := filter.transform.moved shift }

def MeshRenderer.moved (r : MeshRenderer K) : MeshRenderer K where
  layer := r.layer
  isVisible := r.isVisible
  transform := r.transform.moved shift
  filter := r.filter.map (MeshFilter.moved shift)
  attached := by
    intro component attached
    obtain ⟨filter, found, rfl⟩ := Option.map_eq_some_iff.mp attached
    exact congrArg (Transform.moved shift) (r.attached filter found)
  bounds := r.bounds.moved shift
  sharedMaterials := r.sharedMaterials

def Terrain.moved (terrain : Terrain K) : Terrain K := { terrain with transform := terrain.transform.moved shift }

theorem Light.moved_zero (light : Light K) : light.moved 0 = light := by
  simp only [Light.moved, Transform.moved, Vector3.add_zero_vector]

theorem Light.moved_back (light : Light K) : (light.moved shift).moved (-shift) = light := by
  simp only [Light.moved, Transform.moved, Vector3.add_back]

variable [LinearOrder K] [IsStrictOrderedRing K]

theorem Bounds.contains_moved (bounds : Bounds K) (point : Vector3 K) :
    (bounds.moved shift).contains (point + shift) = bounds.contains point := by
  have low : (bounds.moved shift).center - (bounds.moved shift).extents =
      bounds.center - bounds.extents + shift := by ext <;> simp [Bounds.moved] <;> ring
  have high : (bounds.moved shift).center + (bounds.moved shift).extents =
      bounds.center + bounds.extents + shift := Vector3.add_swap ..
  unfold Bounds.contains
  simp only [low, high, Vector3.add_x, Vector3.add_y, Vector3.add_z, add_le_add_iff_right]

end RayTraceRenderer.Unity
