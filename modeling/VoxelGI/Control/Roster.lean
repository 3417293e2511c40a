import VoxelGI.Stage

/-!
The cameras of the scene as they were last listed. Some of them may have died since.
-/
namespace VoxelGI

structure Roster where
  cameras : List Camera := []
deriving DecidableEq, Inhabited

namespace Roster

def names (r : Roster) : List String := r.cameras.map (·.name)

def first? (r : Roster) (alive : Camera → Bool) : Option Camera := r.cameras.find? alive

def find? (r : Roster) (alive : Camera → Bool) (name : String) : Option Camera :=
  r.cameras.find? fun c => c.name == name && alive c

def refresh (scene : Scene) : Decision Roster Unit :=
  ⟨⟨scene.cameras⟩, (), [.call .listCameras, .note (.camerasFound scene.cameras.length)]⟩

end Roster

end VoxelGI
