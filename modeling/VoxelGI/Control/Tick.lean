import VoxelGI.Control.Desk

/-!
One render tick at a scene under control. A tick does at most one category of engine work, the
dearest that is owed, and then nothing is owed any more.
-/
namespace VoxelGI

structure Bench where
  desk : Desk
  stage : Stage
deriving DecidableEq

namespace Desk

/-- Lists the cameras of the scene. A bound camera that is alive stays bound; otherwise the first
camera listed is bound, if there is one. -/
def refreshCameras (d : Desk) (scene : Scene) : Decision Desk Unit :=
  let listed := Roster.refresh scene
  let d := { d with roster := listed.state, refreshRequested := false }
  if (d.settings.liveCamera scene.holds).isSome then
    ⟨d, (), listed.effects ++ [.publish .cameraListChanged]⟩
  else
    let first := d.roster.first? scene.holds
    ⟨{ d with draft := d.draft.bindCamera first }, (),
      listed.effects ++ (first.toList.map fun c => .note (.firstCameraBound c.name))
        ++ [.publish .cameraListChanged]⟩

/-- Takes note that another solution became the scene's active one. A rebuild that is owed decides
the matter itself. -/
def noticeDisabled (d : Desk) (volume : Volume) : Decision Desk Unit :=
  if !d.draft.pending.isVisualDirty && d.settings.enabled && !volume.active then
    ⟨{ d with draft := d.draft.noteOff }, (),
      [.note .disabledOutside, .publish (.enabledChanged false)]⟩
  else ⟨d, (), []⟩

/-- Drops the wish for global illumination if a condition for starting it is no longer met. -/
def recheck (d : Desk) (scene : Scene) : Decision Desk Unit :=
  match if d.settings.enabled && !scene.volume.started then d.unmet? scene.holds else none with
  | some why =>
    ⟨{ d with draft := d.draft.noteOff }, (),
      [.note (.enableDropped why), .publish (.enabledChanged false)]⟩
  | none => ⟨d, (), []⟩

end Desk

namespace Settings

def lightingCalls (s : Settings) : List Effect :=
  [.call (.bounceCount s.bounceCount), .call (.highQuality s.highQuality),
    .call (.anisotropic s.anisotropic), .call (.thinWallCounter s.thinWallCounter),
    .call (.conserveMemory s.conserveMemory)]

def gridCalls (s : Settings) : List Effect :=
  [.call (.resolution s.resolution), .call (.octantCount s.octantCount)]

def overlayCall (s : Settings) : Effect := .call (.overlay s.overlay)

/-- The calls that make the volume active: a started volume is allocated again, one that is not
started gets its camera and is started. -/
def activation (s : Settings) (wasStarted : Bool) (alive : Camera → Bool) : List Effect :=
  (if wasStarted then [.call (.newSettings s.bounceCount s.anisotropic)]
    else [.call (.bind (s.liveCamera alive)), .call (.start s.bounceCount s.anisotropic)])
  ++ [.call .build, .call (.setActive true), .note .rebuilt]

/-- The first part of a rebuild. The overlay is hidden while a started volume is at work; the
cascades of one that is not started are handed over. -/
def rebuildEffects (s : Settings) (cascades : CascadeStack) (wasStarted : Bool)
    (alive : Camera → Bool) : List Effect :=
  s.gridCalls ++ s.lightingCalls
    ++ (if wasStarted then [.call (.overlay .off)] else cascades.effects)
    ++ (if s.enabled then s.activation wasStarted alive
      else [.call (.setActive false), .note .deactivated])

/-- The last part of a rebuild: the overlay of a volume that has started is shown, and the
subscribers hear that the cascades are frozen. -/
def afterRebuild (s : Settings) (wasStarted nowStarted : Bool) : List Effect :=
  (if nowStarted then [s.overlayCall] else [])
    ++ (if nowStarted = wasStarted then []
      else [.publish (.cascadesEditableChanged (!nowStarted))])

/-- The effects of computing the lighting again. Without an active volume the lighting waits for
the next rebuild, and only the overlay of a started volume is brought up to date. -/
def relightEffects (s : Settings) (volume : Volume) : List Effect :=
  s.lightingCalls
    ++ (if volume.active then [.call (.overlay .off), .call .lightingChanged, s.overlayCall]
      else .note .relightDiscarded :: (if volume.started then [s.overlayCall] else []))

def overlayEffects (s : Settings) (volume : Volume) : List Effect :=
  if volume.started then [s.overlayCall] else []

end Settings

namespace Bench

def volume (b : Bench) : Volume := b.stage.scene.volume

def perform (b : Bench) (effects : List Effect) : Bench :=
  { b with stage := b.stage.perform effects }

def adopt (b : Bench) (r : Decision Desk α) : Bench :=
  { desk := r.state, stage := b.stage.perform r.effects }

def rebuild (b : Bench) : Bench :=
  let b := b.adopt (b.desk.recheck b.stage.scene)
  let s := b.desk.settings
  let wasStarted := b.volume.started
  let b := b.perform (s.rebuildEffects b.desk.cascades wasStarted b.stage.scene.holds)
  b.perform (s.afterRebuild wasStarted b.volume.started)

def work (b : Bench) : Pending → Bench
  | .clean => b
  | .overlayOnly => b.perform (b.desk.settings.overlayEffects b.volume)
  | .relight => b.perform (b.desk.settings.relightEffects b.volume)
  | .rebuild => b.rebuild

def settle (b : Bench) : Bench :=
  { b with desk := { b.desk with draft := b.desk.draft.settle } }

def refreshIfRequested (b : Bench) : Bench :=
  if b.desk.refreshRequested then b.adopt (b.desk.refreshCameras b.stage.scene) else b

def tick (b : Bench) : Bench × Option Pending :=
  let b := b.refreshIfRequested
  let b := b.adopt (b.desk.noticeDisabled b.volume)
  match b.desk.draft.pending with
  | .clean => (b, none)
  | owed => (((b.work owed).settle).perform [.note (.applied owed)], some owed)

/-- Appends a cascade with what the configuration says about it, unless cascades are frozen. -/
def addConfigured (b : Bench) (o : CascadeOverride) : Bench :=
  let added := b.desk.addCascade (some b.volume)
  let b := b.adopt added
  match added.answer with
  | none => b
  | some _ =>
    b.adopt (b.desk.updateCascade (some b.volume) (b.desk.cascades.size - 1) o.apply)

def enableAtStartup (b : Bench) (enable : Bool) : Bench :=
  if enable then
    let asked := b.desk.setEnabled b.stage.scene.holds true
    let b := b.adopt asked
    if asked.answer then b else b.perform [.note .startupEnableRefused]
  else b

def setUp (b : Bench) (plan : StartupPlan) : Bench :=
  let b := b.perform [.call (.participants .everything), .note .volumeCreated]
  let b := plan.cascades.foldl addConfigured b
  let b := b.adopt (b.desk.refreshCameras b.stage.scene)
  let b := b.perform [.publish (.cascadesEditableChanged (!b.volume.started))]
  b.enableAtStartup plan.enable

end Bench

end VoxelGI
