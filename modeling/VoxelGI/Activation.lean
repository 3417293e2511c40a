import VoxelGI.Camera

/-!
What has to be there before global illumination can be turned on.
-/
namespace VoxelGI

inductive Unmet where
  | noCascades
  /-- The cascades follow a camera, and none is bound or the bound one has died. -/
  | noCamera
deriving DecidableEq

def Unmet.message : Unmet → String
  | noCascades => "no cascades have been added"
  | noCamera => "no camera is bound"

def unmet? (cascadeCount : Nat) (liveCamera : Option Camera) : Option Unmet :=
  if cascadeCount = 0 then some .noCascades
  else if liveCamera.isNone then some .noCamera
  else none

end VoxelGI
