import RayTraceRenderer.Unity.Color

/-! The parts of Unity's objects that the renderer reads.

An optional value is a reference that may be null, or a shader property that may
be absent.
-/

set_option autoImplicit false

namespace RayTraceRenderer.Unity

/-! ## Textures and materials -/

/-- `blitted` is what is read back after a Blit into a render texture of the same size. -/
structure Texture2D (K : Type) where
  width : Nat
  height : Nat
  importerReadable : Bool
  pixels : List (Color K)
  blitted : List (Color K)
  pixels_length : pixels.length = width * height
  blitted_length : blitted.length = width * height

/-- A texture of any kind, with its native pointer; the cast to Texture2D may give null. -/
structure Texture (K : Type) where
  nativePtr : Int
  texture2D : Option (Texture2D K)

structure Material (K : Type) where
  mainTexture : Option (Texture K)
  color : Option (Color K)
  glossiness : Option K
  metallic : Option K
  hasCutoff : Bool
  mode : Option Int
  shaderName : String

/-! ## Placed objects -/

structure Transform (K : Type) where
  position : Vector3 K
  rotation : Quaternion K
  lossyScale : Vector3 K

structure Mesh (K : Type) where
  vertices : List (Vector3 K)
  uv : List (Vector2 K)
  normals : List (Vector3 K)
  /-- One triangle array for each submesh. -/
  triangles : List (List Int)

structure MeshFilter (K : Type) where
  transform : Transform K
  sharedMesh : Option (Mesh K)

structure Bounds (K : Type) where
  center : Vector3 K
  extents : Vector3 K

/-- A renderer with what is on its game object; components of one object share its transform. -/
structure MeshRenderer (K : Type) where
  layer : UInt32
  isVisible : Bool
  transform : Transform K
  filter : Option (MeshFilter K)
  attached : ∀ component, filter = some component → component.transform = transform
  bounds : Bounds K
  sharedMaterials : List (Option (Material K))

inductive LightType where
  | spot
  | directional
  | point
  | area
  deriving DecidableEq, Repr

structure Light (K : Type) where
  type : LightType
  transform : Transform K
  color : Color K
  intensity : K
  range : K
  isActiveAndEnabled : Bool

structure SplatPrototype (K : Type) where
  texture : Option (Texture2D K)
  tileSize : Vector2 K

/-- The first index of `heights` is the row, as GetHeights returns it. -/
structure TerrainData (K : Type) where
  heightmapWidth : Nat
  heightmapHeight : Nat
  size : Vector3 K
  heights : List (List K)
  interpolatedNormal : K → K → Vector3 K
  alphamapWidth : Nat
  alphamapHeight : Nat
  alphamapLayers : Nat
  alphamaps : List (List (List K))
  splatPrototypes : List (SplatPrototype K)

structure Terrain (K : Type) where
  layer : UInt32
  activeInHierarchy : Bool
  transform : Transform K
  terrainData : TerrainData K

variable {K : Type} [Field K]

def Transform.forward (transform : Transform K) : Vector3 K := transform.rotation.rotate ⟨0, 0, 1⟩

/-- The total size grows by the amount on each axis. -/
def Bounds.expand (bounds : Bounds K) (amount : K) : Bounds K :=
  { bounds with extents := bounds.extents + ⟨amount / 2, amount / 2, amount / 2⟩ }

/-- The faces belong to the box. -/
def Bounds.contains [LinearOrder K] (bounds : Bounds K) (point : Vector3 K) : Bool :=
  let low := bounds.center - bounds.extents
  let high := bounds.center + bounds.extents
  low.x ≤ point.x && point.x ≤ high.x && low.y ≤ point.y && point.y ≤ high.y &&
    low.z ≤ point.z && point.z ≤ high.z

end RayTraceRenderer.Unity
