import Mathlib.Data.List.Chain
import VoxelGI.Proofs.Custody

/-! What the subscribers are told. The events of a run are read off its deeds. Whether global
illumination is wanted is announced exactly when that changes, so the announcements alternate and
the last one says what is wanted. -/
namespace VoxelGI

def Entry.event? : Entry → Option Event
  | .event e => some e
  | _ => none

def Event.enabled? : Event → Option Bool
  | .enabledChanged enabled => some enabled
  | _ => none

namespace Effect

def event? : Effect → Option Event
  | .publish e => some e
  | _ => none

def events (es : List Effect) : List Event := es.filterMap event?

@[simp] theorem events_nil : events [] = [] := rfl

@[simp] theorem events_call (c : Call) (es : List Effect) :
    events (.call c :: es) = events es := rfl

@[simp] theorem events_publish (e : Event) (es : List Effect) :
    events (.publish e :: es) = e :: events es := rfl

@[simp] theorem events_note (n : Notice) (es : List Effect) :
    events (.note n :: es) = events es := rfl

@[simp] theorem events_append (first second : List Effect) :
    events (first ++ second) = events first ++ events second :=
  List.filterMap_append

@[simp] theorem events_notes (ns : List Notice) : events (ns.map .note) = [] := by
  induction ns with
  | nil => rfl
  | cons n rest ih => exact ih

@[simp] theorem filterMap_event_deeds (id : String) (es : List Effect) :
    (deeds id es).filterMap Entry.event? = events es := by
  rw [deeds, events, List.filterMap_filterMap]
  congr 1
  funext e
  cases e <;> rfl

@[simp] theorem filterMap_event_announcements (es : List Effect) :
    (announcements es).filterMap Entry.event? = events es := by
  rw [announcements, events, List.filterMap_filterMap]
  congr 1
  funext e
  cases e <;> rfl

theorem announcements_eq (es : List Effect) :
    announcements es = (events es).map .event := by
  rw [announcements, events, List.map_filterMap]
  congr 1
  funext e
  cases e <;> rfl

theorem deeds_of_calls {es : List Effect} (none_called : calls es = []) (id : String) :
    deeds id es = (events es).map .event := by
  rw [deeds, events, List.map_filterMap]
  refine List.filterMap_congr fun e inside => ?_
  cases e with
  | call c =>
    have called : c ∈ calls es := List.mem_filterMap.mpr ⟨_, inside, rfl⟩
    exact absurd (none_called ▸ called) List.not_mem_nil
  | publish | note => rfl

def switches (es : List Effect) : List Bool := (events es).filterMap Event.enabled?

end Effect

theorem Outlet.events_perform (o : Outlet) (es : List Effect) :
    (o.perform es).events = (Effect.events es).foldl Broadcast.publish o.events := by
  induction es generalizing o with
  | nil => rfl
  | cons e rest ih =>
    change ((o.perform1 e).perform rest).events = _
    rw [ih]
    cases e <;> rfl

theorem Stage.events_perform (st : Stage) (es : List Effect) :
    (st.perform es).outlet.events = (Effect.events es).foldl Broadcast.publish st.outlet.events := by
  induction es generalizing st with
  | nil => rfl
  | cons e rest ih =>
    change ((st.perform1 e).perform rest).outlet.events = _
    rw [ih]
    cases e <;> rfl

theorem Broadcast.length_published (b : Broadcast Event) (told : List Event) :
    (told.foldl publish b).mailboxes.length = b.mailboxes.length := by
  induction told generalizing b with
  | nil => rfl
  | cons e rest ih => exact (ih _).trans (List.length_map _)

def switchings (deeds : List Entry) : List Bool :=
  (deeds.filterMap Entry.event?).filterMap Event.enabled?

@[simp] theorem switchings_deeds (ds : List Entry) (id : String) (es : List Effect) :
    switchings (ds ++ Effect.deeds id es) = switchings ds ++ Effect.switches es := by
  simp [switchings, Effect.switches]

@[simp] theorem switchings_announcements (ds : List Entry) (es : List Effect) :
    switchings (ds ++ Effect.announcements es) = switchings ds ++ Effect.switches es := by
  simp [switchings, Effect.switches]

/-- What has to be announced when a wish becomes another one: nothing if it stays the same. -/
def switchFrom (before after : Bool) : List Bool := if before = after then [] else [after]

/-- Announcements about a wish that is off at first: each one says something new, and the last one
says what is wanted. -/
structure Mirrors (told : List Bool) (wanted : Bool) : Prop where
  alternates : (false :: told).IsChain (· ≠ ·)
  last : told.getLastD false = wanted

namespace Mirrors

theorem nil : Mirrors [] false := ⟨.singleton false, rfl⟩

theorem switch {told : List Bool} {before : Bool} (h : Mirrors told before) (after : Bool) :
    Mirrors (told ++ switchFrom before after) after := by
  unfold switchFrom
  by_cases same : before = after
  · rw [if_pos same, List.append_nil, ← same]
    exact h
  · rw [if_neg same]
    refine ⟨?_, by simp⟩
    rw [← List.cons_append, List.isChain_append]
    refine ⟨h.alternates, .singleton after, ?_⟩
    -- what was told last is what was wanted before
    simpa [List.getLast?_cons, ← List.getLastD_eq_getLast?, h.last] using same

end Mirrors

theorem CascadeEntry.events_effects (e : CascadeEntry) : Effect.events e.effects = [] := rfl

theorem CascadeStack.events_effects (s : CascadeStack) : Effect.events s.effects = [] := by
  rcases s with ⟨entries⟩
  induction entries with
  | nil => rfl
  | cons e rest ih => exact ih

theorem Draft.events_assign (d : Draft) (a : Assignment) :
    Effect.events (d.assign a).effects = [] := by
  cases a <;> simp only [assign, assignResolution, assignOctantCount] <;>
    first | rfl | (split <;> rfl)

theorem Desk.events_refreshCameras (d : Desk) (scene : Scene) :
    Effect.events (d.refreshCameras scene).effects = [.cameraListChanged] := by
  unfold refreshCameras Roster.refresh
  dsimp only
  split
  · rfl
  · cases Roster.first? _ _ <;> rfl

theorem Settings.events_rebuildEffects (s : Settings) (cascades : CascadeStack)
    (wasStarted : Bool) (alive : Camera → Bool) :
    Effect.events (s.rebuildEffects cascades wasStarted alive) = [] := by
  have activated : Effect.events (if s.enabled then s.activation wasStarted alive
      else [.call (.setActive false), .note .deactivated]) = [] := by
    cases s.enabled <;> cases wasStarted <;> rfl
  rw [rebuildEffects, Effect.events_append, activated, List.append_nil, Effect.events_append]
  cases wasStarted
  · exact cascades.events_effects
  · rfl

theorem Desk.events_workEffects (d : Desk) (scene : Scene) :
    let now := (scene.applyAll (Effect.calls (d.workEffects scene))).volume.started
    Effect.events (d.workEffects scene) =
      if now = scene.volume.started then [] else [.cascadesEditableChanged (!now)] := by
  intro now
  by_cases owed : d.draft.pending = .rebuild
  · have after : Effect.events (d.settings.afterRebuild scene.volume.started now) =
        if now = scene.volume.started then [] else [.cascadesEditableChanged (!now)] := by
      unfold Settings.afterRebuild
      cases now <;> cases scene.volume.started <;> rfl
    rw [← after]
    simp only [workEffects, owed, now, Effect.events_append, Settings.events_rebuildEffects,
      Effect.calls_append, Scene.applyAll_append, Settings.applyAll_afterRebuild, List.nil_append]
  · have unchanged : now = scene.volume.started := by
      simp only [now, applyAll_workEffects owed]
    rw [if_pos unchanged]
    unfold workEffects
    cases cheap : d.draft.pending with
    | clean => rfl
    | overlayOnly =>
      unfold Settings.overlayEffects
      cases scene.volume.started <;> rfl
    | relight =>
      unfold Settings.relightEffects
      cases scene.volume.active <;> cases scene.volume.started <;> rfl
    | rebuild => exact absurd cheap owed

theorem Desk.switches_workEffects (d : Desk) (scene : Scene) :
    Effect.switches (d.workEffects scene) = [] := by
  rw [Effect.switches, events_workEffects]
  split <;> rfl

theorem Desk.Move.switches {alive : Camera → Bool} {volume : Option Volume} {d d' : Desk}
    {es : List Effect} (m : Move alive volume d es d') :
    Effect.switches es = switchFrom d.settings.enabled d'.settings.enabled := by
  cases m with
  | assign a =>
    rw [Effect.switches, Draft.events_assign]
    exact (if_pos (d.draft.assign_enabled a).symm).symm
  | wish enabled =>
    -- the desk compares before it publishes
    change Effect.switches _ = switchFrom d.settings.enabled enabled
    cases d.settings.enabled <;> cases enabled <;> rfl
  | append v =>
    rw [Effect.switches, Effect.events_call, Effect.events_append, CascadeEntry.events_effects]
    exact (if_pos rfl).symm
  | stay ns =>
    rw [Effect.switches, Effect.events_notes]
    exact (if_pos rfl).symm
  | miss | remove | edit | request | bind => exact (if_pos rfl).symm

namespace View

def Mirrored (v : View) : Prop := Mirrors (switchings v.deeds) v.desk.settings.enabled

theorem Mirrored.adopt {v : View} (h : v.Mirrored) {d : Desk} {es : List Effect}
    (told : Effect.switches es = switchFrom v.desk.settings.enabled d.settings.enabled) :
    (v.adopt d es).Mirrored := by
  unfold Mirrored
  rw [adopt_deeds, switchings_deeds, told]
  exact Mirrors.switch h d.settings.enabled

theorem Mirrored.perform {v : View} (h : v.Mirrored) {es : List Effect}
    (silent : Effect.switches es = []) : (v.perform es).Mirrored :=
  h.adopt (d := v.desk) (silent.trans (if_pos rfl).symm)

theorem Move.mirrored {v w : View} (m : Move v w) (h : v.Mirrored) : w.Mirrored := by
  cases m with
  | command m => exact h.adopt m.switches
  | upkeep u =>
    cases u with
    | refresh =>
      refine h.adopt ?_
      rw [Effect.switches, Desk.events_refreshCameras, Desk.refreshCameras_enabled]
      exact (if_pos rfl).symm
    | notice _ wanted | drop _ _ wanted =>
      refine h.adopt ?_
      rw [wanted]
      rfl

end View

theorem mirrored_custody :
    Custody .any (fun d ds => Mirrors (switchings ds) d.settings.enabled) View.Mirrored where
  waits _ _ m h := by
    rw [switchings_announcements, m.switches]
    exact h.switch _
  withdraws id _ h := by
    rw [show [Entry.call id .createVolume] = Effect.deeds id [.call .createVolume] from rfl,
      switchings_deeds]
    exact (List.append_nil _).symm ▸ h
  opens _ h _ := by
    refine View.Mirrored.perform ?_ rfl
    exact h
  announces _ h := h.perform rfl
  moves m h := m.mirrored h
  works _ h := h.perform (Desk.switches_workEffects ..)
  meddles _ _ h := h
  releases _ h := h
  empties _ h := h

/-- In every run the announcements alternate, beginning with `true`, and after every step the last
one says whether global illumination is wanted; it is off as long as there was none. -/
theorem Session.announcements_mirror {c : Config} {s : Session} (begun : s.Begins c)
    (steps : List Session.Step) :
    Mirrors (switchings (s.run steps).outlet.deeds) (s.run steps).desk.settings.enabled := by
  have start : s.Upholds (fun d ds => Mirrors (switchings ds) d.settings.enabled) View.Mirrored :=
    .begins begun .nil
  rcases (mirrored_custody.run (s.onTerms_any steps) start).cases with none_here | ⟨ref, v, here, h⟩
  · exact (mirrored_custody.run (s.onTerms_any steps) start).free none_here
  · rw [here.deeds, here.desk]
    exact h

theorem Session.announcements_mirror_takeover :
    let s := onOneScene { enabled := true, cascades := [{}] }
    let steps := [.command .tick, .outside (.scene "main" .takeOver), .command .tick,
      .command (.setEnabled true)]
    switchings (s.run steps).outlet.deeds = [true, false, true] ∧
      Mirrors [true, false, true] (s.run steps).desk.settings.enabled := by
  intro s steps
  have told : switchings (s.run steps).outlet.deeds = [true, false, true] := by decide
  exact ⟨told, told ▸ announcements_mirror (onOneScene_begins _) steps⟩

end VoxelGI
