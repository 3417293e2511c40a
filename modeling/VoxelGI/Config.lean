import VoxelGI.Cascade
import VoxelGI.Settings

/-!
Configurations: what the control panel starts from. A configuration may hold any values;
`Config.firstFault` finds the first grid that the engine could not allocate.
-/
namespace VoxelGI

structure Config where
  title : String := "Global Illumination (CI VCT)"
  enabled : Bool := false
  resolution : Grid := .cube 16
  octantCount : Grid := .cube 1
  bounceCount : UInt32 := 6
  highQuality : Bool := true
  anisotropic : Bool := true
  conserveMemory : Bool := false
  thinWallCounter : Single := .one
  overlay : Overlay := .off
  cascades : List CascadeOverride := []
deriving DecidableEq, Inhabited

inductive GridField where
  | resolution
  | octantCount
deriving DecidableEq

def GridField.name : GridField → String
  | resolution => "resolution"
  | octantCount => "octant_count"

structure GridPlace where
  cascade : Option Nat
  field : GridField
deriving DecidableEq

def GridPlace.path (p : GridPlace) : String :=
  match p.cascade with
  | none => p.field.name
  | some i => s!"cascades[{i}]." ++ p.field.name

structure PlacedGrid where
  place : GridPlace
  grid : Grid
deriving DecidableEq

def PlacedGrid.faultMessage (g : PlacedGrid) : String :=
  "invalid GI config: " ++ g.place.path ++ " must be non-zero on every axis, got " ++ g.grid.text

namespace Config

def cascadeGrids (index : Nat) (o : CascadeOverride) : List PlacedGrid :=
  (o.resolution.map fun g => ⟨⟨some index, .resolution⟩, g⟩).toList
    ++ (o.octantCount.map fun g => ⟨⟨some index, .octantCount⟩, g⟩).toList

def gridsFrom (index : Nat) : List CascadeOverride → List PlacedGrid
  | [] => []
  | o :: rest => cascadeGrids index o ++ gridsFrom (index + 1) rest

/-- Every grid a configuration holds, in order: first its own two, then those of its cascades. -/
def grids (c : Config) : List PlacedGrid :=
  ⟨⟨none, .resolution⟩, c.resolution⟩ :: ⟨⟨none, .octantCount⟩, c.octantCount⟩
    :: gridsFrom 0 c.cascades

def firstFault (c : Config) : Option PlacedGrid := c.grids.find? fun g => !g.grid.isAllocatable

/-- The settings to start from. Global illumination is off: it is asked for once the scene is
ready. -/
def initialSettings (c : Config) : Settings where
  enabled := false
  resolution := c.resolution
  octantCount := c.octantCount
  bounceCount := c.bounceCount
  highQuality := c.highQuality
  anisotropic := c.anisotropic
  conserveMemory := c.conserveMemory
  thinWallCounter := c.thinWallCounter
  overlay := c.overlay
  boundCamera := none

def cascadesEq : List CascadeOverride → List CascadeOverride → Bool
  | [], [] => true
  | a :: as, b :: bs => a.numEq b && cascadesEq as bs
  | _, _ => false

def numEq (a b : Config) : Bool :=
  a.title == b.title
    && a.enabled == b.enabled
    && a.resolution == b.resolution
    && a.octantCount == b.octantCount
    && a.bounceCount == b.bounceCount
    && a.highQuality == b.highQuality
    && a.anisotropic == b.anisotropic
    && a.conserveMemory == b.conserveMemory
    && a.thinWallCounter.numEq b.thinWallCounter
    && a.overlay == b.overlay
    && cascadesEq a.cascades b.cascades

end Config

end VoxelGI
