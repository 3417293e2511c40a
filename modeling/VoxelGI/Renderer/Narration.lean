import VoxelGI.Notice
import VoxelGI.Renderer.Scene

/-!
An engine without a graphics device: it tells the log what a device would do, and is otherwise a
scene like any other.
-/
namespace VoxelGI

namespace Narration

def number (x : Single) : String := String.ofList (NumberFormat.plain.text x)

def binary (n : Nat) : String := "0b" ++ String.ofList (Nat.toDigits 2 n)

def cascadeWrite : CascadeWrite → String
  | .halfExtent e => "half_extent=" ++ e.text
  | .resolution g => "resolution=" ++ g.text
  | .octantCount g => "octants=" ++ g.text
  | .thinWallCounter x => "thin_wall=" ++ number x

/-- What is said of a call, given the volume once the call has taken effect. -/
def ofCall (after : Volume) : Call → Option Notice
  | .setActive active =>
    some (.spoken .info (if active then "[scene] GI active" else "[scene] GI inactive"))
  | .participants p =>
    some (.spoken .debug ("[gpu] participating visuals: " ++ binary p.bits.toNat))
  | .resolution g => some (.spoken .trace ("[gpu] resolution=" ++ g.text))
  | .octantCount g => some (.spoken .trace ("[gpu] octants=" ++ g.text))
  | .bounceCount n => some (.spoken .trace ("[gpu] bounces=" ++ toString n.toNat))
  | .highQuality b => some (.spoken .trace ("[gpu] high_quality=" ++ toString b))
  | .anisotropic b => some (.spoken .trace ("[gpu] anisotropic=" ++ toString b))
  | .thinWallCounter x => some (.spoken .trace ("[gpu] thin_wall=" ++ number x))
  | .conserveMemory b => some (.spoken .trace ("[gpu] conserve_memory=" ++ toString b))
  | .overlay o => some (.spoken .debug ("[gpu] debug overlay: " ++ o.name))
  | .bind (some c) => some (.spoken .info ("[gpu] cascades follow '" ++ c.name ++ "'"))
  | .bind none => some (.spoken .warn "[gpu] no camera bound")
  | .start n b =>
    some (.spoken .info ("[gpu] start: " ++ toString after.cascades.length
      ++ " cascade(s), bounces=" ++ toString n.toNat ++ ", anisotropic=" ++ toString b))
  | .newSettings n b =>
    some (.spoken .info ("[gpu] reallocate: bounces=" ++ toString n.toNat
      ++ ", anisotropic=" ++ toString b))
  | .build => some (.spoken .info ("[gpu] voxelize + build (#" ++ toString after.builds ++ ")"))
  | .lightingChanged => some (.spoken .info "[gpu] relight")
  | .cascade handle write =>
    some (.spoken .trace ("[gpu] cascade " ++ toString handle.slot ++ ": " ++ cascadeWrite write))
  | .createVolume | .listCameras | .addCascade _ _ | .popCascade => none

end Narration

def Scene.headless (framesUntilReady : Nat) : Scene :=
  { Scene.create "headless" {} with
    framesUntilReady := framesUntilReady
    visuals := 12
    narrates := true }

end VoxelGI
