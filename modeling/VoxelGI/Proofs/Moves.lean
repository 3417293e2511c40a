import Mathlib.Logic.Relation
import VoxelGI.Control.Tick
import VoxelGI.Proofs.Trace

/-! What the control side may do between two steps of engine work. A move is one decision of the
desk together with its guard; every command, the set-up of a volume and the beginning of a tick are
made of moves, and what follows them in a tick is the work that is owed, given as one list of
effects. Facts about ticks and commands are facts about moves and about that list. -/
namespace VoxelGI

/-- Calls that need no work to be owed: cameras are listed, and the engine's cascades are kept in
step. -/
def Call.isChore : Call → Bool
  | .listCameras | .addCascade .. | .popCascade | .cascade .. => true
  | _ => false

structure Scene.Status where
  started : Bool
  active : Bool
  startWorks : Bool
  activationWorks : Bool

def Scene.status (s : Scene) : Status :=
  ⟨s.volume.started, s.volume.active, s.startWorks, s.activationWorks⟩

theorem Scene.status_setActive (s : Scene) (active : Bool) :
    (s.apply (.setActive active)).status =
      { s.status with active := if s.status.activationWorks then active else s.status.active } := by
  rw [apply_setActive]
  by_cases activates : s.activationWorks = true
  · rw [if_pos activates]
    simp [status, activates]
  · rw [if_neg activates]
    simp [status, activates]

theorem Scene.status_start (s : Scene) (bounces : UInt32) (anisotropic : Bool) :
    (s.apply (.start bounces anisotropic)).status =
      { s.status with started := s.status.startWorks || s.status.started } := by
  rw [apply_start]
  by_cases starts : s.startWorks = true
  · rw [if_pos starts]
    simp [status, starts]
  · rw [if_neg starts]
    simp [status, starts]

theorem Scene.status_chore {c : Call} (chore : c.isChore = true) (s : Scene) :
    (s.apply c).status = s.status := by
  cases c with
  | listCameras | addCascade | popCascade | cascade => rfl
  | _ => contradiction

theorem Scene.status_chores {cs : List Call} (chores : ∀ c ∈ cs, c.isChore = true) (s : Scene) :
    (s.applyAll cs).status = s.status :=
  applyAll_keeps Scene.status cs (fun c h s => status_chore (chores c h) s) s

theorem CascadeEntry.calls_effects (e : CascadeEntry) :
    Effect.calls e.effects = e.settings.writes.map (.cascade e.handle) := rfl

theorem CascadeStack.mem_calls_effects {s : CascadeStack} {c : Call}
    (called : c ∈ Effect.calls s.effects) :
    ∃ e ∈ s.entries, ∃ write, c = .cascade e.handle write := by
  simp only [effects, Effect.calls, List.filterMap_flatMap, List.mem_flatMap] at called
  obtain ⟨e, inside, called⟩ := called
  change c ∈ Effect.calls e.effects at called
  rw [CascadeEntry.calls_effects] at called
  obtain ⟨write, _, rfl⟩ := List.mem_map.mp called
  exact ⟨e, inside, write, rfl⟩

theorem CascadeEntry.chores (e : CascadeEntry) :
    ∀ c ∈ Effect.calls e.effects, c.isChore = true := by
  rw [calls_effects, List.forall_mem_map]
  exact fun _ _ => rfl

theorem CascadeStack.chores (s : CascadeStack) :
    ∀ c ∈ Effect.calls s.effects, c.isChore = true := by
  intro c called
  obtain ⟨e, _, write, rfl⟩ := mem_calls_effects called
  rfl

theorem Draft.calls_assign (d : Draft) (a : Assignment) :
    Effect.calls (d.assign a).effects = [] := by
  cases a <;> simp only [assign, assignResolution, assignOctantCount] <;>
    first | rfl | (split <;> rfl)

theorem Draft.assign_enabled (d : Draft) (a : Assignment) :
    (d.assign a).state.settings.enabled = d.settings.enabled := by
  cases a <;> simp only [assign, assignResolution, assignOctantCount] <;>
    first | rfl | (split <;> rfl)

theorem Draft.assign_boundCamera (d : Draft) (a : Assignment) :
    (d.assign a).state.settings.boundCamera = d.settings.boundCamera := by
  cases a <;> simp only [assign, assignResolution, assignOctantCount] <;>
    first | rfl | (split <;> rfl)

theorem Desk.calls_refreshCameras (d : Desk) (scene : Scene) :
    Effect.calls (d.refreshCameras scene).effects = [.listCameras] := by
  unfold refreshCameras Roster.refresh
  dsimp only
  split
  · rfl
  · cases Roster.first? _ _ <;> rfl

/-- What a command may do to a desk: the effects it asks for and the desk after it. -/
inductive Desk.Move (alive : Camera → Bool) (volume : Option Volume) (d : Desk) :
    List Effect → Desk → Prop where
  | stay (ns : List Notice) : Move alive volume d (ns.map .note) d
  | miss (name : String) :
      Move alive volume d [.note (.cameraNotFound name), .publish .cameraListChanged] d
  | assign (a : Assignment) :
      Move alive volume d (d.draft.assign a).effects { d with draft := (d.draft.assign a).state }
  | wish (enabled : Bool) (met : enabled = true → d.unmet? alive = none) :
      Move alive volume d
        (if d.settings.enabled != enabled then [.publish (.enabledChanged enabled)] else [])
        { d with draft := (d.draft.setEnabled enabled).state }
  | append (v : Volume) (here : volume = some v) (idle : v.started = false) :
      Move alive volume d
        (.call (v.appendCall (d.cascades.entries.getLast?.map (·.handle)))
          :: ((d.cascades.nextEntry v).effects
            ++ [.note (.cascadeAdded d.cascades.size (d.cascades.nextEntry v).settings.halfExtent)]))
        { d with cascades := ⟨d.cascades.entries ++ [d.cascades.nextEntry v]⟩ }
  | remove (v : Volume) (here : volume = some v) (idle : v.started = false)
      (some_left : d.cascades.entries ≠ []) :
      Move alive volume d [.call .popCascade, .note (.cascadeRemoved (d.cascades.size - 1))]
        { d with cascades := ⟨d.cascades.entries.dropLast⟩ }
  | edit (v : Volume) (here : volume = some v) (idle : v.started = false) (index : Nat)
      (change : CascadeSettings → CascadeSettings) (inside : index < d.cascades.size) :
      Move alive volume d [] { d with cascades := d.cascades.edit index change }
  | request : Move alive volume d [] d.requestRefresh
  | bind (c : Camera) (listed : c ∈ d.roster.cameras) (living : alive c = true) :
      Move alive volume d [.note (.cameraBound c.name)]
        { d with draft := d.draft.bindCamera (some c) }

namespace Desk

variable {alive : Camera → Bool} {volume : Option Volume} {d : Desk}

theorem setEnabled_move (enabled : Bool) :
    Move alive volume d (d.setEnabled alive enabled).effects
      (d.setEnabled alive enabled).state := by
  unfold setEnabled
  split
  · exact .stay [_]
  · rename_i met
    exact .wish enabled fun on => by simpa [on] using met

theorem addCascade_move :
    Move alive volume d (d.addCascade volume).effects (d.addCascade volume).state := by
  unfold addCascade CascadeStack.add CascadeStack.guard
  rcases volume with _ | v
  · exact .stay [_]
  · cases idle : v.started
    · simp only [idle, Bool.false_eq_true, if_false]
      exact .append v rfl idle
    · simp only [idle, if_true]
      exact .stay [_]

theorem removeLastCascade_move :
    Move alive volume d (d.removeLastCascade volume).effects
      (d.removeLastCascade volume).state := by
  unfold removeLastCascade CascadeStack.removeLast CascadeStack.guard
  rcases volume with _ | v
  · exact .stay [_]
  · cases idle : v.started
    · simp only [idle, Bool.false_eq_true, if_false]
      split
      · exact .stay []
      · rename_i some_left
        exact .remove v rfl idle (by simpa using some_left)
    · simp only [idle, if_true]
      exact .stay [_]

theorem updateCascade_move (index : Nat) (change : CascadeSettings → CascadeSettings) :
    Move alive volume d (d.updateCascade volume index change).effects
      (d.updateCascade volume index change).state := by
  unfold updateCascade CascadeStack.update CascadeStack.guard
  rcases volume with _ | v
  · exact .stay [_]
  · cases idle : v.started
    · simp only [idle, Bool.false_eq_true, if_false]
      split
      · rename_i inside
        exact .edit v rfl idle index change inside
      · exact .stay []
    · simp only [idle, if_true]
      exact .stay [_]

theorem bindCamera_move (name : String) :
    Move alive volume d (d.bindCamera alive name).effects (d.bindCamera alive name).state := by
  unfold bindCamera
  split
  · rename_i c found
    have matching := List.find?_some found
    simp only [Bool.and_eq_true, beq_iff_eq] at matching
    rw [← matching.1]
    exact .bind c (List.mem_of_find?_eq_some found) matching.2
  · exact .miss name

theorem Move.phase_eq {es : List Effect} {d' : Desk} (m : Move alive volume d es d') :
    d'.phase = d.phase := by
  cases m <;> rfl

def Settled (d : Desk) : Prop := ∀ plan, d.phase ≠ .waiting plan

theorem Move.settled {es : List Effect} {d' : Desk} (m : Move alive volume d es d')
    (settled : d.Settled) : d'.Settled :=
  fun plan waiting => settled plan (m.phase_eq.symm.trans waiting)

theorem Move.chores {es : List Effect} {d' : Desk} (m : Move alive volume d es d') :
    ∀ c ∈ Effect.calls es, c.isChore = true := by
  cases m with
  | stay | miss | remove | edit | request | bind => simp [Call.isChore]
  | assign a => simp [Draft.calls_assign]
  | wish => split <;> simp
  | append v =>
    intro c h
    simp only [Effect.calls_call, Effect.calls_append, Effect.calls_note, Effect.calls_nil,
      List.append_nil, List.mem_cons] at h
    rcases h with rfl | h
    · rfl
    · exact CascadeEntry.chores _ c h

end Desk

/-- A desk, the scene it works at and the deeds so far: a bench without its subscribers and without
what the log was told. -/
structure View where
  desk : Desk
  scene : Scene
  deeds : List Entry

namespace View

def calls (v : View) : List Call := v.deeds.filterMap Entry.call?

def perform (v : View) (es : List Effect) : View :=
  ⟨v.desk, v.scene.applyAll (Effect.calls es), v.deeds ++ Effect.deeds v.scene.id es⟩

def adopt (v : View) (d : Desk) (es : List Effect) : View := perform { v with desk := d } es

@[simp] theorem perform_desk (v : View) (es : List Effect) : (v.perform es).desk = v.desk := rfl

@[simp] theorem perform_scene (v : View) (es : List Effect) :
    (v.perform es).scene = v.scene.applyAll (Effect.calls es) := rfl

@[simp] theorem perform_deeds (v : View) (es : List Effect) :
    (v.perform es).deeds = v.deeds ++ Effect.deeds v.scene.id es := rfl

@[simp] theorem adopt_desk (v : View) (d : Desk) (es : List Effect) : (v.adopt d es).desk = d := rfl

@[simp] theorem adopt_scene (v : View) (d : Desk) (es : List Effect) :
    (v.adopt d es).scene = v.scene.applyAll (Effect.calls es) := rfl

@[simp] theorem adopt_deeds (v : View) (d : Desk) (es : List Effect) :
    (v.adopt d es).deeds = v.deeds ++ Effect.deeds v.scene.id es := rfl

@[simp] theorem perform_calls (v : View) (es : List Effect) :
    (v.perform es).calls = v.calls ++ Effect.calls es := by
  simp [calls]

@[simp] theorem adopt_calls (v : View) (d : Desk) (es : List Effect) :
    (v.adopt d es).calls = v.calls ++ Effect.calls es := by
  simp [calls]

theorem perform_append (v : View) (first second : List Effect) :
    v.perform (first ++ second) = (v.perform first).perform second := by
  simp [perform, Scene.applyAll_append]

inductive Upkeep : View → View → Prop where
  | refresh (v : View) :
      Upkeep v
        (v.adopt (v.desk.refreshCameras v.scene).state (v.desk.refreshCameras v.scene).effects)
  | notice (v : View) (unbuilt : v.desk.draft.pending ≠ .rebuild)
      (wanted : v.desk.settings.enabled = true) (inactive : v.scene.volume.active = false) :
      Upkeep v (v.adopt { v.desk with draft := v.desk.draft.noteOff }
        [.note .disabledOutside, .publish (.enabledChanged false)])
  | drop (v : View) (why : Unmet) (owed : v.desk.draft.pending = .rebuild)
      (wanted : v.desk.settings.enabled = true) (idle : v.scene.volume.started = false)
      (unmet : v.desk.unmet? v.scene.holds = some why) :
      Upkeep v (v.adopt { v.desk with draft := v.desk.draft.noteOff }
        [.note (.enableDropped why), .publish (.enabledChanged false)])

inductive Move : View → View → Prop where
  | command {v : View} {d : Desk} {es : List Effect}
      (m : Desk.Move v.scene.holds (some v.scene.volume) v.desk es d) : Move v (v.adopt d es)
  | upkeep {v w : View} (u : Upkeep v w) : Move v w

theorem Move.effects {v w : View} (m : Move v w) :
    ∃ es, w = v.adopt w.desk es ∧ ∀ c ∈ Effect.calls es, c.isChore = true := by
  cases m with
  | command m => exact ⟨_, rfl, m.chores⟩
  | upkeep u =>
    cases u with
    | refresh =>
      refine ⟨_, rfl, ?_⟩
      rw [Desk.calls_refreshCameras]
      simp [Call.isChore]
    | notice | drop => exact ⟨_, rfl, by simp⟩

theorem Move.status {v w : View} (m : Move v w) : w.scene.status = v.scene.status := by
  obtain ⟨es, same, chores⟩ := m.effects
  rw [same]
  exact Scene.status_chores chores v.scene

abbrev Moves : View → View → Prop := Relation.ReflTransGen Move

abbrev Upkeeps : View → View → Prop := Relation.ReflTransGen Upkeep

theorem Upkeeps.moves {v w : View} (us : Upkeeps v w) : Moves v w :=
  Relation.ReflTransGen.mono (r := Upkeep) (p := Move) (fun _ _ => .upkeep) v w us

theorem Upkeeps.keep {P : View → Prop} (keep : ∀ v w, Upkeep v w → P v → P w) {v w : View}
    (us : Upkeeps v w) (start : P v) : P w := by
  induction us with
  | refl => exact start
  | tail _ u ih => exact keep _ _ u ih

theorem Moves.keep {P : View → Prop} (keep : ∀ v w, Move v w → P v → P w) {v w : View}
    (ms : Moves v w) (start : P v) : P w := by
  induction ms with
  | refl => exact start
  | tail _ m ih => exact keep _ _ m ih

theorem Moves.status {v w : View} (ms : Moves v w) : w.scene.status = v.scene.status :=
  ms.keep (P := fun u => u.scene.status = v.scene.status) (fun _ _ m h => m.status.trans h) rfl

theorem Moves.scene_kept {α : Type} {feature : Scene → α} {v w : View} (ms : Moves v w)
    (kept : ∀ (s : Scene) (cs : List Call), feature (s.applyAll cs) = feature s) :
    feature w.scene = feature v.scene := by
  refine ms.keep (P := fun u => feature u.scene = feature v.scene) (fun _ _ m h => ?_) rfl
  obtain ⟨es, same, _⟩ := m.effects
  rw [same, ← h]
  exact kept ..

theorem Moves.cameras {v w : View} (ms : Moves v w) : w.scene.cameras = v.scene.cameras :=
  ms.scene_kept Scene.applyAll_cameras

theorem Moves.holds {v w : View} (ms : Moves v w) : w.scene.holds = v.scene.holds :=
  ms.scene_kept Scene.applyAll_holds

end View

end VoxelGI
