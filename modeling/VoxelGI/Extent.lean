import VoxelGI.Numeric.Layout

/-!
Extents: three single-precision lengths, half the size of the box that a cascade covers.
-/
namespace VoxelGI

structure Extent where
  x : Single
  y : Single
  z : Single
deriving DecidableEq, Inhabited

namespace Extent

def cube (length : Single) : Extent := ⟨length, length, length⟩

def zero : Extent := cube .zero

def one : Extent := cube .one

def scale (e : Extent) (factor : Single) : Extent := ⟨e.x * factor, e.y * factor, e.z * factor⟩

def least (e : Extent) : Single := (e.x.smaller e.y).smaller e.z

def get? (e : Extent) : Nat → Option Single
  | 0 => some e.x
  | 1 => some e.y
  | 2 => some e.z
  | _ => none

def badPosition : String := "Index out of bounds for Vec3"

def numEq (a b : Extent) : Bool := a.x.numEq b.x && a.y.numEq b.y && a.z.numEq b.z

def text (e : Extent) : String :=
  let show1 (x : Single) := String.ofList (NumberFormat.full.text x)
  "Vec3 \x7b x: " ++ show1 e.x ++ ", y: " ++ show1 e.y ++ ", z: " ++ show1 e.z ++ " \x7d"

end Extent

end VoxelGI
