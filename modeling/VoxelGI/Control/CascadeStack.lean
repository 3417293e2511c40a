import VoxelGI.Stage

/-!
The cascades of a volume as the control side knows them, in step with the engine's own list.
Cascades are appended and removed at the end only, and they are frozen once the volume has started.
-/
namespace VoxelGI

structure CascadeEntry where
  settings : CascadeSettings
  handle : CascadeHandle
deriving DecidableEq, Inhabited

def CascadeEntry.effects (e : CascadeEntry) : List Effect :=
  e.settings.writes.map fun w => .call (.cascade e.handle w)

structure IndexFault where
  index : Nat
  count : Nat
deriving DecidableEq

def IndexFault.message (f : IndexFault) : String :=
  s!"cascade index {f.index} out of range (registry holds {f.count})"

structure CascadeStack where
  entries : List CascadeEntry := []
deriving DecidableEq, Inhabited

namespace CascadeStack

def size (s : CascadeStack) : Nat := s.entries.length

def settings (s : CascadeStack) : List CascadeSettings := s.entries.map (·.settings)

/-- Whether cascades can be edited: there is a volume and it has not started. -/
def isEditable (volume : Option Volume) : Bool := volume.any (!·.started)

/-- The volume to edit, or what the log is told if there is none to edit. -/
def guard (volume : Option Volume) (action : CascadeAction) : Except Notice Volume :=
  match volume with
  | none => .error (.cascadesWithoutVolume action)
  | some v => if v.started then .error (.cascadesFrozen action) else .ok v

def nextEntry (s : CascadeStack) (v : Volume) : CascadeEntry where
  settings := match s.entries.getLast? with
    | none => {}
    | some e => e.settings.next
  handle := v.nextHandle

def add (s : CascadeStack) (volume : Option Volume) :
    Decision CascadeStack (Option CascadeSettings) :=
  match guard volume .add with
  | .error n => ⟨s, none, [.note n]⟩
  | .ok v =>
    let e := s.nextEntry v
    ⟨⟨s.entries ++ [e]⟩, some e.settings,
      .call (v.appendCall (s.entries.getLast?.map (·.handle)))
        :: (e.effects ++ [.note (.cascadeAdded s.size e.settings.halfExtent)])⟩

def removeLast (s : CascadeStack) (volume : Option Volume) : Decision CascadeStack Bool :=
  match guard volume .remove with
  | .error n => ⟨s, false, [.note n]⟩
  | .ok _ =>
    if s.entries.isEmpty then ⟨s, false, []⟩
    else
      ⟨⟨s.entries.dropLast⟩, true,
        [.call .popCascade, .note (.cascadeRemoved (s.size - 1))]⟩

def get (s : CascadeStack) (index : Nat) : Except IndexFault CascadeSettings :=
  match s.entries[index]? with
  | some e => .ok e.settings
  | none => .error ⟨index, s.size⟩

def edit (s : CascadeStack) (index : Nat) (change : CascadeSettings → CascadeSettings) :
    CascadeStack :=
  ⟨s.entries.modify index fun e => { e with settings := change e.settings }⟩

/-- Edits the cascade at a position, and answers whether it was edited. The engine gets the new
values at the next rebuild. A refusal comes before a bad position. -/
def update (s : CascadeStack) (volume : Option Volume) (index : Nat)
    (change : CascadeSettings → CascadeSettings) :
    Decision CascadeStack (Except IndexFault Bool) :=
  match guard volume .edit with
  | .error n => ⟨s, .ok false, [.note n]⟩
  | .ok _ =>
    if index < s.size then ⟨s.edit index change, .ok true, []⟩
    else ⟨s, .error ⟨index, s.size⟩, []⟩

def effects (s : CascadeStack) : List Effect := s.entries.flatMap (·.effects)

end CascadeStack

end VoxelGI
