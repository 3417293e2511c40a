import VoxelGI.Config
import VoxelGI.Control.CascadeStack
import VoxelGI.Control.Draft
import VoxelGI.Control.Roster
import VoxelGI.Renderer.Loaded

/-!
The desk: everything the control side knows, and the decisions it takes when it is asked for
something. None of them waits for a tick, and only those on cascades call the engine.
-/
namespace VoxelGI

structure StartupPlan where
  cascades : List CascadeOverride := []
  enable : Bool := false
deriving DecidableEq, Inhabited

inductive Phase where
  | waiting (plan : StartupPlan)
  | working (scene : SceneRef)
  /-- The volume of this scene was let go. -/
  | released (scene : SceneRef)
  /-- The first scene that was ready had no volume to give. -/
  | withdrawn
deriving DecidableEq

namespace Phase

def scene? : Phase → Option SceneRef
  | working ref => some ref
  | _ => none

/-- The scene whose cameras were listed. -/
def home? : Phase → Option SceneRef
  | working ref => some ref
  | released ref => some ref
  | _ => none

/-- The name of the phase; letting the volume go does not show. -/
def name : Phase → String
  | waiting _ => "Uninitialized"
  | working _ => "Initialized"
  | released _ => "Initialized"
  | withdrawn => "Withdrawn"

end Phase

structure Desk where
  draft : Draft := {}
  cascades : CascadeStack := {}
  roster : Roster := {}
  refreshRequested : Bool := false
  phase : Phase
deriving DecidableEq

namespace Desk

def ofConfig (c : Config) : Desk where
  draft := ⟨c.initialSettings, .clean⟩
  phase := .waiting ⟨c.cascades, c.enabled⟩

def settings (d : Desk) : Settings := d.draft.settings

def unmet? (d : Desk) (alive : Camera → Bool) : Option Unmet :=
  VoxelGI.unmet? d.cascades.size (d.settings.liveCamera alive)

/-- Asks for global illumination on or off, and answers whether the request was accepted. Only
turning it on has conditions. The subscribers hear of it if it was not wanted before. -/
def setEnabled (d : Desk) (alive : Camera → Bool) (enabled : Bool) : Decision Desk Bool :=
  match if enabled then d.unmet? alive else none with
  | some why => ⟨d, false, [.note (.cannotEnable why)]⟩
  | none =>
    let r := d.draft.setEnabled enabled
    ⟨{ d with draft := r.state }, true,
      if r.answer then [.publish (.enabledChanged enabled)] else []⟩

def assign (d : Desk) (a : Assignment) : Decision Desk Bool :=
  let r := d.draft.assign a
  ⟨{ d with draft := r.state }, r.answer, r.effects⟩

def addCascade (d : Desk) (volume : Option Volume) : Decision Desk (Option CascadeSettings) :=
  let r := d.cascades.add volume
  ⟨{ d with cascades := r.state }, r.answer, r.effects⟩

def removeLastCascade (d : Desk) (volume : Option Volume) : Decision Desk Bool :=
  let r := d.cascades.removeLast volume
  ⟨{ d with cascades := r.state }, r.answer, r.effects⟩

def updateCascade (d : Desk) (volume : Option Volume) (index : Nat)
    (change : CascadeSettings → CascadeSettings) : Decision Desk (Except IndexFault Bool) :=
  let r := d.cascades.update volume index change
  ⟨{ d with cascades := r.state }, r.answer, r.effects⟩

def requestRefresh (d : Desk) : Desk := { d with refreshRequested := true }

/-- Binds the camera with a name, and answers whether it was found. If it was not, the list is out
of date and the subscribers are told so. -/
def bindCamera (d : Desk) (alive : Camera → Bool) (name : String) : Decision Desk Bool :=
  match d.roster.find? alive name with
  | some c =>
    ⟨{ d with draft := d.draft.bindCamera (some c) }, true, [.note (.cameraBound name)]⟩
  | none => ⟨d, false, [.note (.cameraNotFound name), .publish .cameraListChanged]⟩

/-- Lets the volume go without telling the engine. -/
def release (d : Desk) : Decision Desk Unit :=
  ⟨{ d with
      cascades := {}
      phase := match d.phase with
        | .working ref => .released ref
        | phase => phase },
    (), [.note .released]⟩

end Desk

end VoxelGI
