import VoxelGI.Control.Tick

/-!
A session: a desk, the renderer it works with and its subscribers. Whatever happens in a session is
a step: a command of the control panel, a tick of the renderer or an outside event.
-/
namespace VoxelGI

inductive Command where
  | tick
  | setEnabled (enabled : Bool)
  | assign (a : Assignment)
  | addCascade
  | removeLastCascade
  | readCascade (index : Nat)
  | updateCascade (index : Nat) (change : CascadeSettings → CascadeSettings)
  | requestRefresh
  | listCameras
  | bindCamera (name : String)
  | subscribe
  | release
  | close

structure TickReport where
  phase : Phase
  applied : Option Pending
deriving DecidableEq

inductive Reply where
  | done
  | verdict (accepted : Bool)
  | ticked (report : TickReport)
  | created (settings : Option CascadeSettings)
  | cascade (settings : CascadeSettings)
  | fault (f : IndexFault)
  | names (names : List String)
  | subscriber (number : Nat)
  | closed
deriving DecidableEq

structure Session where
  desk : Desk
  renderer : Renderer
  outlet : Outlet
  /-- Whether the desk belongs to a panel, which releases the volume when it is closed. -/
  ownedByPanel : Bool
  isOpen : Bool := true

structure Discovery where
  notices : List Notice
  found : Option (SceneRef × Scene)
deriving DecidableEq

/-- Looks for a scene to work with: the first scene of the first engine, once it is ready. -/
def Renderer.discover (r : Renderer) : Discovery :=
  match r.engines with
  | [] => ⟨[], none⟩
  | engine :: others =>
    let several : List Notice :=
      if others.isEmpty then [] else [.severalEngines (others.length + 1) engine.name]
    match engine.slots with
    | [] => ⟨several ++ [.engineWithoutScene engine.name], none⟩
    | slot :: _ =>
      match slot.bind fun ref => (r.scene? ref).map fun s => (ref, s) with
      | none => ⟨several ++ [.sceneMissing engine.name], none⟩
      | some (ref, s) =>
        if s.isReady then ⟨several, some (ref, s)⟩ else ⟨several ++ [.sceneNotReady], none⟩

namespace Session

def forPanel (c : Config) (r : Renderer) : Session where
  desk := Desk.ofConfig c
  renderer := r
  outlet := { Outlet.fresh with journal := .notice (.panelCreated c.title) :: Outlet.fresh.journal }
  ownedByPanel := true

def forDesk (c : Config) (r : Renderer) : Session where
  desk := Desk.ofConfig c
  renderer := r
  outlet := Outlet.fresh
  ownedByPanel := false

def scene? (s : Session) : Option (SceneRef × Scene) :=
  s.desk.phase.scene?.bind fun ref => (s.renderer.scene? ref).map fun scene => (ref, scene)

def volume? (s : Session) : Option Volume := s.scene?.map (·.2.volume)

/-- Whether a camera is alive in the scene whose cameras were listed. -/
def alive (s : Session) (c : Camera) : Bool :=
  (s.desk.phase.home?.bind s.renderer.scene?).any (·.holds c)

def adopt (s : Session) (r : Decision Desk α) : Session :=
  match s.scene? with
  | some (ref, scene) =>
    let stage := Stage.perform ⟨scene, s.outlet⟩ r.effects
    { s with
      desk := r.state
      renderer := s.renderer.putScene ref stage.scene
      outlet := stage.outlet }
  | none => { s with desk := r.state, outlet := s.outlet.perform r.effects }

def atScene (s : Session) (ref : SceneRef) (scene : Scene) (work : Bench → Bench × α) :
    Session × α :=
  let (b, a) := work ⟨s.desk, ⟨scene, s.outlet⟩⟩
  ({ s with
      desk := b.desk
      renderer := s.renderer.putScene ref b.stage.scene
      outlet := b.stage.outlet },
    a)

def firstTick (s : Session) (plan : StartupPlan) : Session × Option Pending :=
  let d := s.renderer.discover
  let s := { s with outlet := s.outlet.perform (d.notices.map .note) }
  match d.found with
  | none => (s, none)
  | some (ref, scene) =>
    s.atScene ref scene fun b =>
      let b := b.perform [.call .createVolume]
      if scene.supportsGi then
        (Bench.setUp { b with desk := { b.desk with phase := .working ref } } plan).tick
      else
        ({ b with desk := { b.desk with phase := .withdrawn } }.perform [.note .unsupported], none)

def tick (s : Session) : Session × Option Pending :=
  match s.desk.phase with
  | .withdrawn => (s, none)
  | .released _ => ({ s with outlet := s.outlet.note .volumeMissing }, none)
  | .waiting plan => s.firstTick plan
  | .working ref =>
    match s.renderer.scene? ref with
    | some scene => s.atScene ref scene Bench.tick
    | none => (s, none)

/-- Closes the desk. The volume of a panel is released first. -/
def close (s : Session) : Session :=
  let s := if s.ownedByPanel then s.adopt s.desk.release else s
  { s with isOpen := false }

def obey (s : Session) : Command → Session × Reply
  | .tick =>
    let (s, applied) := s.tick
    (s, .ticked ⟨s.desk.phase, applied⟩)
  | .setEnabled enabled =>
    let r := s.desk.setEnabled s.alive enabled
    (s.adopt r, .verdict r.answer)
  | .assign a =>
    let r := s.desk.assign a
    (s.adopt r, .verdict r.answer)
  | .addCascade =>
    let r := s.desk.addCascade s.volume?
    (s.adopt r, .created r.answer)
  | .removeLastCascade =>
    let r := s.desk.removeLastCascade s.volume?
    (s.adopt r, .verdict r.answer)
  | .readCascade index =>
    match s.desk.cascades.get index with
    | .ok settings => (s, .cascade settings)
    | .error f => (s, .fault f)
  | .updateCascade index change =>
    let r := s.desk.updateCascade s.volume? index change
    match r.answer with
    | .ok accepted => (s.adopt r, .verdict accepted)
    | .error f => (s.adopt r, .fault f)
  | .requestRefresh => ({ s with desk := s.desk.requestRefresh }, .done)
  | .listCameras => (s, .names s.desk.roster.names)
  | .bindCamera name =>
    let r := s.desk.bindCamera s.alive name
    (s.adopt r, .verdict r.answer)
  | .subscribe =>
    ({ s with outlet := { s.outlet with events := s.outlet.events.subscribe } },
      .subscriber s.outlet.events.mailboxes.length)
  | .release => (s.adopt s.desk.release, .done)
  | .close => (s.close, .verdict true)

def outsideNotice? (r : Renderer) : OutsideEvent → Option Notice
  | .scene id .takeOver =>
    if ((r.find? id).bind r.scene?).any (·.narrates) then
      some (.spoken .info "[scene] another GI solution took over")
    else none
  | _ => none

def undergo (s : Session) (e : OutsideEvent) : Session :=
  { s with
    renderer := s.renderer.undergo e
    outlet := s.outlet.perform ((outsideNotice? s.renderer e).toList.map .note) }

inductive Step where
  | command (c : Command)
  | outside (e : OutsideEvent)

/-- Lets a step happen. A closed desk obeys no command; closing it again answers that there was
nothing to close. -/
def step (s : Session) : Step → Session × Reply
  | .command c =>
    if s.isOpen then s.obey c
    else match c with
      | .close => (s, .verdict false)
      | _ => (s, .closed)
  | .outside e => (s.undergo e, .done)

def run (s : Session) (steps : List Step) : Session :=
  steps.foldl (fun s step => (s.step step).1) s

def takeEvents (s : Session) (subscriber : Nat) : Session × List Event :=
  let (events, taken) := s.outlet.events.takeAll subscriber
  ({ s with outlet := { s.outlet with events := events } }, taken)

def takeJournal (s : Session) : Session × List Entry :=
  ({ s with outlet := { s.outlet with journal := [] } }, s.outlet.journal)

def isActivatable (s : Session) : Bool := (s.desk.unmet? s.alive).isNone

def cascadesEditable (s : Session) : Bool := CascadeStack.isEditable s.volume?

def boundCameraName (s : Session) : Option String :=
  (s.desk.settings.liveCamera s.alive).map (·.name)

end Session

end VoxelGI
