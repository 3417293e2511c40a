import VoxelGI.Renderer.Call

/-!
A scene of the renderer with its volume, and what calls and outside events do to it.
-/
namespace VoxelGI

/-- The volume of a scene: the object that computes its global illumination. -/
structure Volume where
  started : Bool := false
  active : Bool := false
  cascades : List CascadeHandle := []
  nextSerial : Nat := 0
  builds : Nat := 0
deriving DecidableEq, Inhabited

namespace Volume

def nextHandle (v : Volume) : CascadeHandle := ⟨v.nextSerial, v.cascades.length⟩

def appendCall (v : Volume) (reference : Option CascadeHandle) : Call :=
  .addCascade v.nextHandle (reference.bind fun h => v.cascades.findIdx? (· == h))

end Volume

structure Scene where
  id : String
  framesUntilReady : Nat := 0
  visuals : Nat := 4
  supportsGi : Bool := true
  startWorks : Bool := true
  activationWorks : Bool := true
  cameras : List Camera := []
  /-- Cameras that are alive but not listed. -/
  hidden : List Camera := []
  nextCamera : Nat := 0
  volume : Volume := {}
  /-- Whether the engine tells the log what it is called to do. -/
  narrates : Bool := false
deriving DecidableEq, Inhabited

namespace Scene

def isInitialized (s : Scene) : Bool := s.framesUntilReady == 0

def isReady (s : Scene) : Bool := s.isInitialized && s.visuals != 0

/-- Whether a camera is alive: listed or hidden. -/
def holds (s : Scene) (c : Camera) : Bool := s.cameras.contains c || s.hidden.contains c

def apply (s : Scene) : Call → Scene
  | .setActive active =>
    if s.activationWorks then { s with volume := { s.volume with active := active } } else s
  | .start _ _ =>
    if s.startWorks then { s with volume := { s.volume with started := true } } else s
  | .build => { s with volume := { s.volume with builds := s.volume.builds + 1 } }
  | .addCascade created _ =>
    { s with volume := { s.volume with
        cascades := s.volume.cascades ++ [created]
        nextSerial := s.volume.nextSerial + 1 } }
  | .popCascade =>
    { s with volume := { s.volume with cascades := s.volume.cascades.dropLast } }
  | _ => s

def addCamera (s : Scene) (name : String) (position : Option Nat) : Scene :=
  let k := min (position.getD s.cameras.length) s.cameras.length
  { s with
    cameras := s.cameras.take k ++ ⟨s.nextCamera, name⟩ :: s.cameras.drop k
    nextCamera := s.nextCamera + 1 }

def removeCamera (s : Scene) (position : Nat) : Scene :=
  { s with cameras := s.cameras.eraseIdx position }

def hideCamera (s : Scene) (position : Nat) : Scene :=
  { s with
    cameras := s.cameras.eraseIdx position
    hidden := s.hidden ++ s.cameras[position]?.toList }

def clearCameras (s : Scene) : Scene := { s with cameras := [] }

def forgetHidden (s : Scene) : Scene := { s with hidden := [] }

/-- Every listed camera dies, and new ones with these names are listed. -/
def replaceCameras (s : Scene) (names : List String) : Scene :=
  names.foldl (fun s name => s.addCamera name none) s.clearCameras

/-- What may be said about a scene from outside; what is left out stays as it was. -/
structure Patch where
  initialized : Option Bool := none
  visuals : Option Nat := none
  supportsGi : Option Bool := none
  cameras : Option (List String) := none
  started : Option Bool := none
  active : Option Bool := none
  startWorks : Option Bool := none
  activationWorks : Option Bool := none
deriving DecidableEq, Inhabited

def patch (s : Scene) (p : Patch) : Scene :=
  let s := match p.cameras with
    | some names => s.replaceCameras names
    | none => s
  { s with
    framesUntilReady := match p.initialized with
      | some true => 0
      | some false => 1
      | none => s.framesUntilReady
    visuals := p.visuals.getD s.visuals
    supportsGi := p.supportsGi.getD s.supportsGi
    startWorks := p.startWorks.getD s.startWorks
    activationWorks := p.activationWorks.getD s.activationWorks
    volume := { s.volume with
      started := p.started.getD s.volume.started
      active := p.active.getD s.volume.active } }

def standardCameras : List String := ["user_camera", "overhead"]

def create (id : String) (p : Patch) : Scene :=
  patch { id := id } { p with cameras := some (p.cameras.getD standardCameras) }

end Scene

end VoxelGI
