import VoxelGI.Camera
import VoxelGI.Cascade
import VoxelGI.Overlay
import VoxelGI.Participants

/-!
The calls that the control side makes on a scene, on its volume and on the volume's cascades.
Questions that change nothing are not calls.
-/
namespace VoxelGI

/-- A cascade of the engine. The serial number is never given twice by one volume; the slot is the
position at which the cascade was created. -/
structure CascadeHandle where
  serial : Nat
  slot : Nat
deriving DecidableEq, Inhabited

inductive CascadeWrite where
  | halfExtent (extent : Extent)
  | resolution (grid : Grid)
  | octantCount (grid : Grid)
  | thinWallCounter (value : Single)
deriving DecidableEq

def CascadeSettings.writes (s : CascadeSettings) : List CascadeWrite :=
  [.halfExtent s.halfExtent, .resolution s.resolution, .octantCount s.octantCount,
    .thinWallCounter s.thinWallCounter]

inductive Call where
  | createVolume
  | listCameras
  /-- Makes the volume the scene's active solution, or leaves the scene without one. -/
  | setActive (active : Bool)
  | participants (visuals : Participants)
  | resolution (grid : Grid)
  | octantCount (grid : Grid)
  | bounceCount (count : UInt32)
  | highQuality (value : Bool)
  | anisotropic (value : Bool)
  | thinWallCounter (value : Single)
  | conserveMemory (value : Bool)
  | overlay (overlay : Overlay)
  | bind (camera : Option Camera)
  | start (bounceCount : UInt32) (anisotropic : Bool)
  /-- Allocates a started volume again. -/
  | newSettings (bounceCount : UInt32) (anisotropic : Bool)
  | build
  | lightingChanged
  /-- Appends a cascade; the second value is the position of the cascade it is modelled on. -/
  | addCascade (created : CascadeHandle) (reference : Option Nat)
  | popCascade
  | cascade (handle : CascadeHandle) (write : CascadeWrite)
deriving DecidableEq

end VoxelGI
