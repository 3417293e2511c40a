/-!
Cameras of a scene. A camera is known by the serial number its scene gave it; names may repeat.
-/
namespace VoxelGI

structure Camera where
  serial : Nat
  name : String
deriving DecidableEq, Inhabited

end VoxelGI
