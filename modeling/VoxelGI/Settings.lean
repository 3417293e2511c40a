import VoxelGI.Camera
import VoxelGI.Grid
import VoxelGI.Numeric.Layout
import VoxelGI.Overlay
import VoxelGI.Text.Quoted

/-!
The settings of global illumination as the control panel wants them.
-/
namespace VoxelGI

structure Settings where
  enabled : Bool := false
  resolution : Grid := .cube 16
  octantCount : Grid := .cube 1
  bounceCount : UInt32 := 6
  highQuality : Bool := true
  anisotropic : Bool := true
  conserveMemory : Bool := false
  thinWallCounter : Single := .one
  overlay : Overlay := .off
  /-- The camera that the cascades are to follow; it may have died since. -/
  boundCamera : Option Camera := none
deriving DecidableEq, Inhabited

namespace Settings

def liveCamera (s : Settings) (alive : Camera → Bool) : Option Camera := s.boundCamera.filter alive

def text (s : Settings) (alive : Camera → Bool) : String :=
  let camera := match s.liveCamera alive with
    | none => "None"
    | some c => "Some(" ++ String.ofList (Quoted.encode Quoted.shown c.name.toList) ++ ")"
  "Settings \x7b enabled: " ++ toString s.enabled
    ++ ", resolution: " ++ s.resolution.text
    ++ ", octant_count: " ++ s.octantCount.text
    ++ ", bounce_count: " ++ toString s.bounceCount.toNat
    ++ ", high_quality: " ++ toString s.highQuality
    ++ ", anisotropic: " ++ toString s.anisotropic
    ++ ", conserve_memory: " ++ toString s.conserveMemory
    ++ ", thin_wall_counter: " ++ String.ofList (NumberFormat.full.text s.thinWallCounter)
    ++ ", debug_visualization: " ++ s.overlay.title
    ++ ", bound_camera: " ++ camera ++ " \x7d"

end Settings

end VoxelGI
