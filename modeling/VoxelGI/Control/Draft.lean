import VoxelGI.Settings
import VoxelGI.Stage

/-!
The draft: the wanted settings together with the work that the next tick owes the engine for them.
Assigning to a setting touches the draft alone.
-/
namespace VoxelGI

inductive Assignment where
  | resolution (grid : Grid)
  | resolutionAxis (axis : Axis) (count : UInt32)
  | octantCount (grid : Grid)
  | octantCountAxis (axis : Axis) (count : UInt32)
  | bounceCount (count : UInt32)
  | highQuality (value : Bool)
  | anisotropic (value : Bool)
  | conserveMemory (value : Bool)
  | thinWallCounter (value : Single)
  | overlay (overlay : Overlay)
deriving DecidableEq

def Assignment.overlayNumber (index : UInt32) : Assignment := .overlay (.ofIndex index)

structure Draft where
  settings : Settings := {}
  pending : Pending := .clean
deriving DecidableEq, Inhabited

namespace Draft

def revise (d : Draft) (settings : Settings) (work : Pending) : Draft :=
  ⟨settings, d.pending.mark work⟩

def settle (d : Draft) : Draft := { d with pending := .clean }

/-- Wants global illumination on or off, and answers whether that is new. The volume is built again
even if it is not. -/
def setEnabled (d : Draft) (enabled : Bool) : Decision Draft Bool :=
  ⟨d.revise { d.settings with enabled := enabled } .rebuild, d.settings.enabled != enabled, []⟩

/-- Takes note that global illumination is off; the engine owes nothing for it. -/
def noteOff (d : Draft) : Draft :=
  { d with settings := { d.settings with enabled := false } }

/-- Wants the cascades to follow a camera, or none. This counts from the next start on, so nothing
is owed for it. -/
def bindCamera (d : Draft) (camera : Option Camera) : Draft :=
  { d with settings := { d.settings with boundCamera := camera } }

def assignResolution (d : Draft) (grid : Grid) : Decision Draft Bool :=
  if grid.isAllocatable then ⟨d.revise { d.settings with resolution := grid } .rebuild, true, []⟩
  else ⟨d, false, [.note (.resolutionIgnored grid)]⟩

def assignOctantCount (d : Draft) (grid : Grid) : Decision Draft Bool :=
  if grid.isAllocatable then ⟨d.revise { d.settings with octantCount := grid } .rebuild, true, []⟩
  else ⟨d, false, [.note (.octantCountIgnored grid)]⟩

/-- Assigns to a setting and answers whether the value was taken; an overlay that is shown already
is not taken again. -/
def assign (d : Draft) : Assignment → Decision Draft Bool
  | .resolution grid => d.assignResolution grid
  | .resolutionAxis axis count => d.assignResolution (d.settings.resolution.set axis count)
  | .octantCount grid => d.assignOctantCount grid
  | .octantCountAxis axis count => d.assignOctantCount (d.settings.octantCount.set axis count)
  | .bounceCount count => ⟨d.revise { d.settings with bounceCount := count } .relight, true, []⟩
  | .highQuality value => ⟨d.revise { d.settings with highQuality := value } .relight, true, []⟩
  | .anisotropic value => ⟨d.revise { d.settings with anisotropic := value } .relight, true, []⟩
  | .conserveMemory value =>
    ⟨d.revise { d.settings with conserveMemory := value } .relight, true, []⟩
  | .thinWallCounter value =>
    ⟨d.revise { d.settings with thinWallCounter := value } .relight, true, []⟩
  | .overlay overlay =>
    if d.settings.overlay = overlay then ⟨d, false, []⟩
    else ⟨d.revise { d.settings with overlay := overlay } .overlayOnly, true, []⟩

end Draft

end VoxelGI
