/-!
What the control panel is told, and how it is told: every subscriber has a mailbox of bounded size
and gets each event published after it subscribed, unless its mailbox is full at that moment.
-/
namespace VoxelGI

inductive Event where
  | enabledChanged (enabled : Bool)
  | cameraListChanged
  | cascadesEditableChanged (editable : Bool)
deriving DecidableEq

/-- How a subscriber stands to the broadcast. -/
inductive Standing where
  | listening
  | gone
  /-- The subscriber was found gone when something was published. -/
  | forgotten
deriving DecidableEq

structure Mailbox (α : Type) where
  queue : List α := []
  standing : Standing := .listening
deriving DecidableEq

inductive Delivery where
  | queued
  | missed
  | nobody
deriving DecidableEq

namespace Mailbox

/-- What becomes of an event now; nothing for a subscriber that is forgotten. -/
def delivery (capacity : Nat) (m : Mailbox α) : Option Delivery :=
  match m.standing with
  | .listening => if m.queue.length < capacity then some .queued else some .missed
  | .gone => some .nobody
  | .forgotten => none

def receive (capacity : Nat) (event : α) (m : Mailbox α) : Mailbox α :=
  match m.delivery capacity with
  | some .queued => { m with queue := m.queue ++ [event] }
  | some .nobody => { m with standing := .forgotten }
  | _ => m

/-- The mailbox once its subscriber has gone; what was in it is lost. -/
def leave (m : Mailbox α) : Mailbox α :=
  match m.standing with
  | .listening => ⟨[], .gone⟩
  | _ => m

end Mailbox

/-- Subscribers in the order in which they subscribed; each is known by its position. -/
structure Broadcast (α : Type) where
  capacity : Nat
  mailboxes : List (Mailbox α) := []
deriving DecidableEq

namespace Broadcast

def standardCapacity : Nat := 256

def deliveries (b : Broadcast α) : List Delivery :=
  b.mailboxes.filterMap (·.delivery b.capacity)

/-- Offers an event to every mailbox. Nobody waits: an event that finds a mailbox full is lost to
that subscriber. -/
def publish (b : Broadcast α) (event : α) : Broadcast α :=
  { b with mailboxes := b.mailboxes.map (·.receive b.capacity event) }

def reachesAll (b : Broadcast α) : Bool := b.deliveries.all (· != .missed)

def subscribe (b : Broadcast α) : Broadcast α :=
  { b with mailboxes := b.mailboxes ++ [{}] }

def subscriberCount (b : Broadcast α) : Nat :=
  b.mailboxes.countP (·.standing != .forgotten)

def waiting (b : Broadcast α) (subscriber : Nat) : List α :=
  match b.mailboxes[subscriber]? with
  | some m => m.queue
  | none => []

def setWaiting (b : Broadcast α) (subscriber : Nat) (queue : List α) : Broadcast α :=
  { b with mailboxes := b.mailboxes.modify subscriber fun m => { m with queue := queue } }

def take (b : Broadcast α) (subscriber : Nat) : Broadcast α × Option α :=
  match b.waiting subscriber with
  | [] => (b, none)
  | event :: rest => (b.setWaiting subscriber rest, some event)

def takeAll (b : Broadcast α) (subscriber : Nat) : Broadcast α × List α :=
  (b.setWaiting subscriber [], b.waiting subscriber)

def leave (b : Broadcast α) (subscriber : Nat) : Broadcast α :=
  { b with mailboxes := b.mailboxes.modify subscriber Mailbox.leave }

end Broadcast

end VoxelGI
