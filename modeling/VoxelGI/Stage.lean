import VoxelGI.Event
import VoxelGI.Renderer.Narration

/-!
Effects and where they take place. A decision of the control side is data: the new state, an answer
and the effects it asks for. Effects take place on a stage, which keeps a journal of them.
-/
namespace VoxelGI

inductive Effect where
  | call (call : Call)
  | publish (event : Event)
  | note (notice : Notice)
deriving DecidableEq

/-- A decision: the state after it, the answer to whoever asked, and the effects in order. -/
structure Decision (σ α : Type) where
  state : σ
  answer : α
  effects : List Effect := []

inductive Entry where
  | call (scene : String) (call : Call)
  | event (event : Event)
  | notice (notice : Notice)
deriving DecidableEq

def Delivery.notice? : Delivery → Option Notice
  | .queued => none
  | .missed => some .mailboxFull
  | .nobody => some .subscriberGone

/-- Where events and notices go: the subscribers, and the journal of all that took place. -/
structure Outlet where
  events : Broadcast Event
  journal : List Entry := []
deriving DecidableEq

namespace Outlet

def fresh : Outlet where
  events := ⟨Broadcast.standardCapacity, []⟩
  journal := [.notice (.broadcastReady Broadcast.standardCapacity)]

def record (o : Outlet) (entries : List Entry) : Outlet :=
  { o with journal := o.journal ++ entries }

def note (o : Outlet) (n : Notice) : Outlet := o.record [.notice n]

def publish (o : Outlet) (e : Event) : Outlet where
  events := o.events.publish e
  journal := o.journal ++ .event e :: (o.events.deliveries.filterMap Delivery.notice?).map .notice

/-- Lets an effect take place where there is no scene: a call does nothing. -/
def perform1 (o : Outlet) : Effect → Outlet
  | .call _ => o
  | .publish e => o.publish e
  | .note n => o.note n

def perform (o : Outlet) (effects : List Effect) : Outlet := effects.foldl perform1 o

@[simp] theorem perform_nil (o : Outlet) : o.perform [] = o := rfl

theorem perform_append (o : Outlet) (first second : List Effect) :
    o.perform (first ++ second) = (o.perform first).perform second :=
  List.foldl_append

end Outlet

structure Stage where
  scene : Scene
  outlet : Outlet
deriving DecidableEq

namespace Stage

/-- Makes a call. An engine that narrates tells the log once the call has taken effect. -/
def call (st : Stage) (c : Call) : Stage :=
  let scene := st.scene.apply c
  let told := if scene.narrates then (Narration.ofCall scene.volume c).toList else []
  { scene := scene
    outlet := st.outlet.record (.call scene.id c :: told.map .notice) }

def perform1 (st : Stage) : Effect → Stage
  | .call c => st.call c
  | .publish e => { st with outlet := st.outlet.publish e }
  | .note n => { st with outlet := st.outlet.note n }

def perform (st : Stage) (effects : List Effect) : Stage := effects.foldl perform1 st

@[simp] theorem perform_nil (st : Stage) : st.perform [] = st := rfl

theorem perform_append (st : Stage) (first second : List Effect) :
    st.perform (first ++ second) = (st.perform first).perform second :=
  List.foldl_append

end Stage

end VoxelGI
