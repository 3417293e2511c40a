import VoxelGI.Extent
import VoxelGI.Grid

/-!
Cascades: nested boxes around the camera, each voxelised on its own grid, every one twice as wide
as the one before unless it is told otherwise.
-/
namespace VoxelGI

structure CascadeSettings where
  halfExtent : Extent := .cube .five
  resolution : Grid := .cube 16
  octantCount : Grid := .cube 1
  thinWallCounter : Single := .one
deriving DecidableEq, Inhabited

/-- The settings of the cascade after this one: a box twice as wide and the same for the rest. -/
def CascadeSettings.next (s : CascadeSettings) : CascadeSettings :=
  { s with halfExtent := s.halfExtent.scale .two }

/-- What a configuration says about one cascade; what it leaves out stays as it was. -/
structure CascadeOverride where
  halfExtent : Option Extent := none
  resolution : Option Grid := none
  octantCount : Option Grid := none
  thinWallCounter : Option Single := none
deriving DecidableEq, Inhabited

namespace CascadeOverride

def apply (o : CascadeOverride) (s : CascadeSettings) : CascadeSettings where
  halfExtent := o.halfExtent.getD s.halfExtent
  resolution := o.resolution.getD s.resolution
  octantCount := o.octantCount.getD s.octantCount
  thinWallCounter := o.thinWallCounter.getD s.thinWallCounter

/-- The cascades that a list of overrides describes: the first starts from the defaults, and each
later one from what follows its predecessor. -/
def unfold (start : CascadeSettings) : List CascadeOverride → List CascadeSettings
  | [] => []
  | o :: rest =>
    let s := o.apply start
    s :: unfold s.next rest

def optionEq (eq : α → α → Bool) : Option α → Option α → Bool
  | none, none => true
  | some a, some b => eq a b
  | _, _ => false

def numEq (a b : CascadeOverride) : Bool :=
  optionEq Extent.numEq a.halfExtent b.halfExtent
    && a.resolution == b.resolution
    && a.octantCount == b.octantCount
    && optionEq Single.numEq a.thinWallCounter b.thinWallCounter

end CascadeOverride

end VoxelGI
