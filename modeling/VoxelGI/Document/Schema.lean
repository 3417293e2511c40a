import VoxelGI.Config
import VoxelGI.Document.Form

/-!
The documents of this library: which fields its records have, and how overlays are chosen in them.
-/
namespace VoxelGI.Document

/-- The overlay that a value of any shape chooses: an engine number, or a text. -/
def Loose.overlay : Loose → Except Fault Overlay
  | .number n =>
    if 0 ≤ n ∧ n < UInt32.size then .ok (.ofIndex (UInt32.ofNat n.toNat)) else .error .noOverlay
  | .text cs =>
    match Overlay.ofText cs with
    | .ok o => .ok o
    | .error u => .error (.unknownOverlay u)
  | .other => .error .noOverlay

namespace Form

/-- An overlay chosen freely: by name or number, in quotes or not. -/
def overlay : Form Overlay where
  read p := do
    let v ← loose p.extensions true p.room p.isBare false
    v.overlay
  write o := writeText o.name.toList

def overlayName : Form Overlay where
  read p := do
    enter p.room
    let n ← name
    match Overlay.ofName? n with
    | some o => return o
    | none => throw (.unknownVariant (String.ofList n))
  write o := writeWord o.name.toList

def extentFields : List (Field Extent) :=
  [.of "x" single (·.x) fun v e => { e with x := v },
    .of "y" single (·.y) fun v e => { e with y := v },
    .of "z" single (·.z) fun v e => { e with z := v }]

def extent : Form Extent := record "Vec3" .refused .zero extentFields

def cascadeFields : List (Field CascadeSettings) :=
  [.of "half_extent" extent (·.halfExtent) fun v s => { s with halfExtent := v },
    .of "resolution" grid (·.resolution) fun v s => { s with resolution := v },
    .of "octant_count" grid (·.octantCount) fun v s => { s with octantCount := v },
    .of "thin_wall_counter" single (·.thinWallCounter) fun v s => { s with thinWallCounter := v }]

def cascade : Form CascadeSettings := record "CascadeSettings" .refused {} cascadeFields

def overrideFields : List (Field CascadeOverride) :=
  [.of "half_extent" (option extent) (·.halfExtent) fun v o => { o with halfExtent := v },
    .of "resolution" (option grid) (·.resolution) fun v o => { o with resolution := v },
    .of "octant_count" (option grid) (·.octantCount) fun v o => { o with octantCount := v },
    .of "thin_wall_counter" (option single) (·.thinWallCounter)
      fun v o => { o with thinWallCounter := v }]

def cascadeOverride : Form CascadeOverride := record "CascadeConfig" .kept {} overrideFields

def configFields : List (Field Config) :=
  [.of "title" text (·.title) fun v c => { c with title := v },
    .of "enabled" flag (·.enabled) fun v c => { c with enabled := v },
    .of "resolution" grid (·.resolution) fun v c => { c with resolution := v },
    .of "octant_count" grid (·.octantCount) fun v c => { c with octantCount := v },
    .of "bounce_count" count (·.bounceCount) fun v c => { c with bounceCount := v },
    .of "high_quality" flag (·.highQuality) fun v c => { c with highQuality := v },
    .of "anisotropic" flag (·.anisotropic) fun v c => { c with anisotropic := v },
    .of "conserve_memory" flag (·.conserveMemory) fun v c => { c with conserveMemory := v },
    .of "thin_wall_counter" single (·.thinWallCounter) fun v c => { c with thinWallCounter := v },
    .of "debug_visualization" overlay (·.overlay) fun v c => { c with overlay := v },
    .of "cascades" (list cascadeOverride) (·.cascades) fun v c => { c with cascades := v }]

def config : Form Config := record "GiConfig" .kept {} configFields

end Form

end VoxelGI.Document
