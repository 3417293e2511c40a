import VoxelGI.Activation
import VoxelGI.Extent
import VoxelGI.Grid
import VoxelGI.Pending

/-!
What the log is told: every notice is a cause, with a level and a wording of its own.
-/
namespace VoxelGI

inductive Level where
  | error
  | warn
  | info
  | debug
  | trace
deriving DecidableEq

namespace Level

def rank : Level → Nat
  | error => 0
  | warn => 1
  | info => 2
  | debug => 3
  | trace => 4

def name : Level → String
  | error => "ERROR"
  | warn => "WARN"
  | info => "INFO"
  | debug => "DEBUG"
  | trace => "TRACE"

/-- Whether a log that is open down to `threshold` shows this level. -/
def isShown (threshold level : Level) : Bool := decide (level.rank ≤ threshold.rank)

end Level

inductive CascadeAction where
  | add
  | remove
  | edit
deriving DecidableEq

def CascadeAction.verb : CascadeAction → String
  | add => "add"
  | remove => "remove"
  | edit => "edit"

inductive Notice where
  | panelCreated (title : String)
  | broadcastReady (capacity : Nat)
  | mailboxFull
  | subscriberGone
  | resolutionIgnored (grid : Grid)
  | octantCountIgnored (grid : Grid)
  | cascadesWithoutVolume (action : CascadeAction)
  | cascadesFrozen (action : CascadeAction)
  | cascadeAdded (index : Nat) (halfExtent : Extent)
  | cascadeRemoved (index : Nat)
  | camerasFound (count : Nat)
  | cannotEnable (why : Unmet)
  | cameraBound (name : String)
  | cameraNotFound (name : String)
  | firstCameraBound (name : String)
  | released
  | volumeMissing
  | severalEngines (count : Nat) (first : String)
  | engineWithoutScene (engine : String)
  | sceneMissing (engine : String)
  | sceneNotReady
  | unsupported
  | volumeCreated
  | startupEnableRefused
  | disabledOutside
  | enableDropped (why : Unmet)
  | rebuilt
  | deactivated
  | relightDiscarded
  | applied (work : Pending)
  /-- A line that the engine itself puts into the log. -/
  | spoken (level : Level) (line : String)
deriving DecidableEq

namespace Notice

def level : Notice → Level
  | volumeMissing | sceneMissing _ => .error
  | mailboxFull | resolutionIgnored _ | octantCountIgnored _ | cascadesWithoutVolume _
  | cascadesFrozen _ | cannotEnable _ | cameraNotFound _ | unsupported | startupEnableRefused
  | enableDropped _ => .warn
  | panelCreated _ | volumeCreated | disabledOutside => .info
  | subscriberGone | cascadeAdded _ _ | cascadeRemoved _ | camerasFound _ | cameraBound _
  | firstCameraBound _ | released | severalEngines _ _ | rebuilt | deactivated => .debug
  | broadcastReady _ | engineWithoutScene _ | sceneNotReady | relightDiscarded | applied _ => .trace
  | spoken level _ => level

def text : Notice → String
  | panelCreated title => s!"GiController: Created '{title}'."
  | broadcastReady capacity => s!"EventBus initialized (capacity={capacity})."
  | mailboxFull => "EventBus subscriber full, dropping event. Is anyone draining it?"
  | subscriberGone => "EventBus subscriber went away."
  | resolutionIgnored grid =>
    "ConfigurationStore: Ignoring resolution " ++ grid.text ++ ", axes must be non-zero."
  | octantCountIgnored grid =>
    "ConfigurationStore: Ignoring octant count " ++ grid.text ++ ", axes must be non-zero."
  | cascadesWithoutVolume action =>
    "CascadeRegistry: Cannot " ++ action.verb ++ " cascades before GI is created."
  | cascadesFrozen action =>
    "CascadeRegistry: Cannot " ++ action.verb ++ " cascades once GI has started."
  | cascadeAdded index halfExtent =>
    s!"CascadeRegistry: Added cascade #{index} (half_extent=" ++ halfExtent.text ++ ")"
  | cascadeRemoved index => s!"CascadeRegistry: Removed cascade #{index}"
  | camerasFound count => s!"CameraList: Found {count} camera(s)."
  | cannotEnable why => "Reconciler: Cannot enable GI: " ++ why.message ++ "."
  | cameraBound name => s!"Reconciler: Bound camera '{name}'."
  | cameraNotFound name => s!"Reconciler: Camera '{name}' not found."
  | firstCameraBound name => s!"Reconciler: Binding first camera '{name}'."
  | released => "Reconciler: Released GI."
  | volumeMissing => "Reconciler: Initialized without a GI object, skipping tick."
  | severalEngines count first =>
    s!"Reconciler: {count} engines loaded, using the first one ('{first}')."
  | engineWithoutScene engine => s!"Reconciler: Engine '{engine}' has no scene yet."
  | sceneMissing engine => s!"Reconciler: Engine '{engine}' returned no scene at index 0."
  | sceneNotReady => "Reconciler: Scene not ready yet."
  | unsupported => "Reconciler: Engine does not support cascaded VCT GI, giving up."
  | volumeCreated => "Reconciler: GI created."
  | startupEnableRefused =>
    "Reconciler: GI was requested on at startup but cannot be enabled."
  | disabledOutside => "Reconciler: GI was disabled outside of this controller."
  | enableDropped why => "Reconciler: Dropping enable request: " ++ why.message ++ "."
  | rebuilt => "Reconciler: GI rebuilt and active."
  | deactivated => "Reconciler: GI deactivated."
  | relightDiscarded => "Reconciler: GI disabled, lighting refresh discarded."
  | applied work => "Reconciler: Applied " ++ work.name ++ "."
  | spoken _ line => line

end Notice

end VoxelGI
