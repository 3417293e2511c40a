import VoxelGI.Renderer.Narration

/-!
The loaded engines and their scenes, and what may happen to them from outside.
-/
namespace VoxelGI

/-- A scene is known by the order in which it was created. -/
abbrev SceneRef := Nat

structure Engine where
  name : String
  slots : List (Option SceneRef) := []
deriving DecidableEq, Inhabited

/-- The loaded engines, and every scene that was ever created. -/
structure Renderer where
  engines : List Engine := []
  scenes : List Scene := []
deriving DecidableEq, Inhabited

namespace Renderer

def scene? (r : Renderer) (ref : SceneRef) : Option Scene := r.scenes[ref]?

def putScene (r : Renderer) (ref : SceneRef) (s : Scene) : Renderer :=
  { r with scenes := r.scenes.set ref s }

def find? (r : Renderer) (id : String) : Option SceneRef :=
  r.scenes.findIdx? (·.id == id)

def create (r : Renderer) (s : Scene) : Renderer × SceneRef :=
  ({ r with scenes := r.scenes ++ [s] }, r.scenes.length)

structure SceneSpec where
  id : String := "main"
  patch : Scene.Patch := {}
deriving DecidableEq, Inhabited

structure EngineSpec where
  name : String
  slots : List (Option SceneSpec)
deriving DecidableEq, Inhabited

def fillSlot (r : Renderer) : Option SceneSpec → Renderer × Option SceneRef
  | none => (r, none)
  | some spec =>
    let (r, ref) := r.create (Scene.create spec.id spec.patch)
    (r, some ref)

def fillSlots (r : Renderer) : List (Option SceneSpec) → Renderer × List (Option SceneRef)
  | [] => (r, [])
  | spec :: rest =>
    let (r, slot) := r.fillSlot spec
    let (r, slots) := r.fillSlots rest
    (r, slot :: slots)

def addEngine (r : Renderer) (spec : EngineSpec) (position : Option Nat) : Renderer :=
  let (r, slots) := r.fillSlots spec.slots
  let k := min (position.getD r.engines.length) r.engines.length
  { r with engines := r.engines.take k ++ ⟨spec.name, slots⟩ :: r.engines.drop k }

/-- Unloads an engine; its scenes live on. -/
def removeEngine (r : Renderer) (position : Nat) : Renderer :=
  { r with engines := r.engines.eraseIdx position }

def setSlot (r : Renderer) (engine slot : Nat) (spec : Option SceneSpec) : Renderer :=
  let (r, filled) := r.fillSlot spec
  { r with engines := r.engines.modify engine fun e =>
      { e with slots :=
          if slot < e.slots.length then e.slots.set slot filled else e.slots ++ [filled] } }

def load (specs : List EngineSpec) : Renderer :=
  specs.foldl (fun r spec => r.addEngine spec none) {}

/-- One engine without a device, whose only scene is loaded after so many frames. -/
def headless (framesUntilReady : Nat) : Renderer where
  engines := [⟨"headless", [some 0]⟩]
  scenes := [Scene.headless framesUntilReady]

end Renderer

inductive SceneEvent where
  | patch (p : Scene.Patch)
  | addCamera (name : String) (position : Option Nat)
  | removeCamera (position : Nat)
  | hideCamera (position : Nat)
  | clearCameras
  | forgetHidden
  | advance
  /-- Another solution becomes the scene's active one. -/
  | takeOver
deriving DecidableEq

def Scene.undergo (s : Scene) : SceneEvent → Scene
  | .patch p => s.patch p
  | .addCamera name position => s.addCamera name position
  | .removeCamera position => s.removeCamera position
  | .hideCamera position => s.hideCamera position
  | .clearCameras => s.clearCameras
  | .forgetHidden => s.forgetHidden
  | .advance => { s with framesUntilReady := s.framesUntilReady - 1 }
  | .takeOver => { s with volume := { s.volume with active := false } }

inductive OutsideEvent where
  | scene (id : String) (event : SceneEvent)
  | addEngine (spec : Renderer.EngineSpec) (position : Option Nat)
  | removeEngine (position : Nat)
  | setSlot (engine slot : Nat) (spec : Option Renderer.SceneSpec)
deriving DecidableEq

/-- The renderer after something happened to it; a scene that does not exist is passed over. -/
def Renderer.undergo (r : Renderer) : OutsideEvent → Renderer
  | .scene id event =>
    match r.find? id with
    | some ref => { r with scenes := r.scenes.modify ref (·.undergo event) }
    | none => r
  | .addEngine spec position => r.addEngine spec position
  | .removeEngine position => r.removeEngine position
  | .setSlot engine slot spec => r.setSlot engine slot spec

end VoxelGI
