import RayTraceRenderer.Foundation.Recursion
import RayTraceRenderer.Foundation.RadicalInverse
import RayTraceRenderer.Managed.HitPoint
import RayTraceRenderer.Managed.Init
import RayTraceRenderer.Managed.LightComposite
import RayTraceRenderer.Managed.Opacity
import RayTraceRenderer.Managed.Termination
import RayTraceRenderer.Managed.Energy
import RayTraceRenderer.Managed.DarkLight
import RayTraceRenderer.Managed.Accesses
import RayTraceRenderer.Managed.TerrainBlend
import RayTraceRenderer.Managed.Triangulation
import RayTraceRenderer.Managed.Normals
import RayTraceRenderer.Managed.LightLists
import RayTraceRenderer.Managed.Occlusion
import RayTraceRenderer.Managed.OwnLights
import RayTraceRenderer.Managed.Lifecycle
import RayTraceRenderer.Managed.Samples
import RayTraceRenderer.Managed.Saturation
import RayTraceRenderer.Net.MsgProtocol
import RayTraceRenderer.Net.Events
import RayTraceRenderer.Net.ClientTable
import RayTraceRenderer.Net.Rearm
import RayTraceRenderer.Net.Framing
import RayTraceRenderer.Net.SendPath
import RayTraceRenderer.Net.Dispatch
import RayTraceRenderer.Net.WriteCompletion
import RayTraceRenderer.Managed.SampleIndices
import RayTraceRenderer.Native.RenderToImage
import RayTraceRenderer.Managed.Render
import RayTraceRenderer.Unity.Pinhole
import RayTraceRenderer.Unity.Reals
import RayTraceRenderer.Managed.PrimaryRays
import RayTraceRenderer.Managed.Directions
import RayTraceRenderer.Managed.Halton
import RayTraceRenderer.Native.DepthMap
import RayTraceRenderer.Targa.Acceptance
import RayTraceRenderer.Targa.Palette
import RayTraceRenderer.CommandLine.Main
import RayTraceRenderer.Managed.Completion
import RayTraceRenderer.Managed.Listing
import RayTraceRenderer.Net.Settling
import RayTraceRenderer.Net.Closing
import RayTraceRenderer.Managed.Stratification
import RayTraceRenderer.Managed.Movement
import RayTraceRenderer.Managed.Cancelling
import RayTraceRenderer.Managed.Picture
