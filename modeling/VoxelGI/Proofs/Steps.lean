import VoxelGI.Control.Session
import VoxelGI.Proofs.Work

/-! What a step does to a session. A command other than a tick is one move of the desk, carried out
at the scene under control if there is one; outside events leave the desk and the deeds alone. -/
namespace VoxelGI

theorem Scene.replaceCameras_id (s : Scene) (names : List String) :
    (s.replaceCameras names).id = s.id := by
  have listed (u : Scene) : (names.foldl (fun s name => s.addCamera name none) u).id = u.id := by
    induction names generalizing u with
    | nil => rfl
    | cons name rest ih => exact ih _
  exact listed s.clearCameras

theorem Scene.patch_id (s : Scene) (p : Patch) : (s.patch p).id = s.id := by
  unfold patch
  dsimp only
  split
  · exact s.replaceCameras_id _
  · rfl

@[simp] theorem Scene.undergo_id (s : Scene) (event : SceneEvent) : (s.undergo event).id = s.id := by
  cases event with
  | patch p => exact s.patch_id p
  | _ => rfl

namespace Renderer

theorem scene?_putScene {r : Renderer} {ref : SceneRef} {s : Scene} (there : r.scene? ref = some s)
    (t : Scene) : (r.putScene ref t).scene? ref = some t := by
  have inside : ref < r.scenes.length := (List.getElem?_eq_some_iff.mp there).1
  simp [scene?, putScene, inside]

theorem putScene_self {r : Renderer} {ref : SceneRef} {s : Scene} (there : r.scene? ref = some s) :
    r.putScene ref s = r := by
  obtain ⟨inside, rfl⟩ := List.getElem?_eq_some_iff.mp there
  simp [putScene]

theorem scene?_fillSlot {r : Renderer} {ref : SceneRef} {s : Scene} (there : r.scene? ref = some s)
    (spec : Option SceneSpec) : (r.fillSlot spec).1.scene? ref = some s := by
  have inside : ref < r.scenes.length := (List.getElem?_eq_some_iff.mp there).1
  cases spec with
  | none => exact there
  | some spec =>
    change (r.scenes ++ [_])[ref]? = some s
    rwa [List.getElem?_append_left inside]

theorem scene?_fillSlots {r : Renderer} {ref : SceneRef} {s : Scene} (there : r.scene? ref = some s)
    (specs : List (Option SceneSpec)) : (r.fillSlots specs).1.scene? ref = some s := by
  induction specs generalizing r with
  | nil => exact there
  | cons spec rest ih => exact ih (scene?_fillSlot there spec)

theorem scene?_undergo {r : Renderer} {ref : SceneRef} {s : Scene} (there : r.scene? ref = some s)
    (e : OutsideEvent) :
    ∃ t, (r.undergo e).scene? ref = some t ∧
      (t = s ∨ ∃ id event, e = .scene id event ∧ t = s.undergo event) := by
  cases e with
  | scene id event =>
    cases named : r.find? id with
    | none =>
      rw [undergo, named]
      exact ⟨s, there, .inl rfl⟩
    | some target =>
      rw [undergo, named]
      by_cases hit : target = ref
      · subst hit
        refine ⟨s.undergo event, ?_, .inr ⟨id, event, rfl, rfl⟩⟩
        change (r.scenes.modify target _)[target]? = _
        rw [List.getElem?_modify_eq, show r.scenes[target]? = some s from there]
        rfl
      · refine ⟨s, ?_, .inl rfl⟩
        change (r.scenes.modify target _)[ref]? = _
        rwa [List.getElem?_modify_ne _ _ hit]
  | addEngine spec position => exact ⟨s, scene?_fillSlots there spec.slots, .inl rfl⟩
  | removeEngine position => exact ⟨s, there, .inl rfl⟩
  | setSlot engine slot spec => exact ⟨s, scene?_fillSlot there spec, .inl rfl⟩

/-- The first engine has a scene in its first slot that is loaded and has something to show. -/
def Offers (r : Renderer) (ref : SceneRef) (scene : Scene) : Prop :=
  ∃ engine others slots, r.engines = engine :: others ∧ engine.slots = some ref :: slots ∧
    r.scene? ref = some scene ∧ scene.framesUntilReady = 0 ∧ scene.visuals ≠ 0

theorem discover_found_iff {r : Renderer} {ref : SceneRef} {s : Scene} :
    r.discover.found = some (ref, s) ↔ r.Offers ref s := by
  have ready (u : Scene) : u.isReady = true ↔ u.framesUntilReady = 0 ∧ u.visuals ≠ 0 := by
    simp [Scene.isReady, Scene.isInitialized]
  refine ⟨fun found => ?_, ?_⟩
  · unfold discover at found
    split at found
    · contradiction
    · rename_i engine others engines
      dsimp only at found
      split at found
      · contradiction
      · rename_i slot slots here
        split at found
        · contradiction
        · rename_i looked
          split at found
          · rename_i is_ready
            cases found
            obtain ⟨ref', filled, mapped⟩ := Option.bind_eq_some_iff.mp looked
            obtain ⟨t, there, same⟩ := Option.map_eq_some_iff.mp mapped
            cases same
            exact ⟨engine, others, slots, engines, filled ▸ here, there, (ready _).mp is_ready⟩
          · contradiction
  · rintro ⟨engine, others, slots, engines, here, there, is_ready⟩
    simp [discover, engines, here, there, (ready s).mpr is_ready]

theorem scene?_of_discover {r : Renderer} {ref : SceneRef} {s : Scene}
    (found : r.discover.found = some (ref, s)) : r.scene? ref = some s := by
  obtain ⟨_, _, _, _, _, there, _⟩ := discover_found_iff.mp found
  exact there

end Renderer

def Command.isMove : Command → Bool
  | .tick | .release | .close => false
  | _ => true

def Command.unheard : Command → Reply
  | .close => .verdict false
  | _ => .closed

namespace Session

variable {s : Session} {ref : SceneRef} {scene : Scene}

theorem step_obeys (obeys : s.isOpen = true) (c : Command) : s.step (.command c) = s.obey c :=
  if_pos obeys

theorem obey_ticks (s : Session) :
    s.obey .tick = (s.tick.1, .ticked ⟨s.tick.1.desk.phase, s.tick.2⟩) := rfl

theorem step_tick (obeys : s.isOpen = true) : (s.step (.command .tick)).1 = s.tick.1 :=
  congrArg Prod.fst (step_obeys obeys .tick)

theorem step_closed (closed : s.isOpen = false) (c : Command) :
    s.step (.command c) = (s, c.unheard) := by
  refine (if_neg (by simp [closed])).trans ?_
  cases c <;> rfl

theorem run_keeps {P : Session → Prop} {steps : List Step}
    (keep : ∀ u, ∀ x ∈ steps, P u → P (u.step x).1) (start : P s) : P (s.run steps) := by
  induction steps generalizing s with
  | nil => exact start
  | cons x rest ih =>
    exact ih (fun u y inside => keep u y (List.mem_cons_of_mem x inside))
      (keep s x List.mem_cons_self start)

theorem scene?_working (phase : s.desk.phase = .working ref)
    (there : s.renderer.scene? ref = some scene) : s.scene? = some (ref, scene) := by
  simp [scene?, phase, Phase.scene?, there]

theorem scene?_free (free : s.desk.phase.scene? = none) : s.scene? = none := by
  simp [scene?, free]

theorem scene?_there (here : s.scene? = some (ref, scene)) :
    s.renderer.scene? ref = some scene := by
  obtain ⟨ref', _, mapped⟩ := Option.bind_eq_some_iff.mp here
  obtain ⟨scene', there, same⟩ := Option.map_eq_some_iff.mp mapped
  cases same
  exact there

theorem alive_working (phase : s.desk.phase = .working ref)
    (there : s.renderer.scene? ref = some scene) : s.alive = scene.holds := by
  funext c
  simp [alive, phase, Phase.home?, there]

theorem alive_nowhere (nowhere : s.desk.phase.home? = none) : s.alive = fun _ => false := by
  funext c
  simp [alive, nowhere]

theorem adopt_working (phase : s.desk.phase = .working ref)
    (there : s.renderer.scene? ref = some scene) (r : Decision Desk α) :
    (s.adopt r).desk = r.state ∧
      (s.adopt r).renderer.scene? ref = some (scene.applyAll (Effect.calls r.effects)) ∧
      (s.adopt r).outlet.deeds = s.outlet.deeds ++ Effect.deeds scene.id r.effects := by
  unfold adopt
  rw [scene?_working phase there]
  refine ⟨rfl, ?_, Stage.deeds_perform ..⟩
  rw [Renderer.scene?_putScene there, Stage.scene_perform]

theorem adopt_free (free : s.desk.phase.scene? = none) (r : Decision Desk α) :
    s.adopt r = { s with desk := r.state, outlet := s.outlet.perform r.effects } := by
  unfold adopt
  rw [scene?_free free]

def Moved (s t : Session) : Prop :=
  ∃ r : Decision Desk Unit, Desk.Move s.alive s.volume? s.desk r.effects r.state ∧
    t.desk = (s.adopt r).desk ∧ t.renderer = (s.adopt r).renderer ∧
    t.outlet.deeds = (s.adopt r).outlet.deeds

theorem moved_adopt {r : Decision Desk α}
    (m : Desk.Move s.alive s.volume? s.desk r.effects r.state) : s.Moved (s.adopt r) := by
  refine ⟨⟨r.state, (), r.effects⟩, m, ?_⟩
  unfold adopt
  cases s.scene? <;> exact ⟨rfl, rfl, rfl⟩

theorem adopt_notes (d : Desk) (ns : List Notice) :
    (s.adopt ⟨d, (), ns.map .note⟩).desk = d ∧
      (s.adopt ⟨d, (), ns.map .note⟩).renderer = s.renderer ∧
      (s.adopt ⟨d, (), ns.map .note⟩).outlet.deeds = s.outlet.deeds := by
  unfold adopt
  cases here : s.scene? with
  | none => exact ⟨rfl, rfl, Outlet.deeds_perform_notes ..⟩
  | some p =>
    obtain ⟨ref, scene⟩ := p
    refine ⟨rfl, ?_, ?_⟩
    · dsimp only
      rw [Stage.scene_perform, Effect.calls_notes]
      exact Renderer.putScene_self (scene?_there here)
    · dsimp only
      rw [Stage.deeds_perform, Effect.deeds_notes, List.append_nil]

theorem moved_quiet {t : Session} (m : Desk.Move s.alive s.volume? s.desk [] t.desk)
    (renderer : t.renderer = s.renderer) (deeds : t.outlet.deeds = s.outlet.deeds) :
    s.Moved t := by
  obtain ⟨desk, same, told⟩ := s.adopt_notes t.desk []
  exact ⟨⟨t.desk, (), []⟩, m, desk.symm, renderer.trans same.symm, deeds.trans told.symm⟩

structure Ended (s t : Session) : Prop where
  renderer : t.renderer = s.renderer
  deeds : t.outlet.deeds = s.outlet.deeds
  desk : t.desk = s.desk ∨ t.desk = s.desk.release.state

theorem adopt_release (s : Session) : s.Ended (s.adopt s.desk.release) := by
  obtain ⟨desk, renderer, deeds⟩ := s.adopt_notes s.desk.release.state [.released]
  exact ⟨renderer, deeds, .inr desk⟩

theorem close_ended (s : Session) : s.Ended s.close := by
  unfold close
  cases s.ownedByPanel
  · exact ⟨rfl, rfl, .inl rfl⟩
  · exact ⟨s.adopt_release.renderer, s.adopt_release.deeds, s.adopt_release.desk⟩

theorem obey_moved {c : Command} (move : c.isMove = true) : s.Moved (s.obey c).1 := by
  cases c with
  | tick | release | close => contradiction
  | setEnabled enabled => exact moved_adopt (Desk.setEnabled_move enabled)
  | assign a => exact moved_adopt (r := s.desk.assign a) (.assign a)
  | addCascade => exact moved_adopt Desk.addCascade_move
  | removeLastCascade => exact moved_adopt Desk.removeLastCascade_move
  | readCascade index =>
    unfold obey
    dsimp only
    split <;> exact moved_quiet (.stay []) rfl rfl
  | updateCascade index change =>
    unfold obey
    dsimp only
    split <;> exact moved_adopt (Desk.updateCascade_move index change)
  | requestRefresh => exact moved_quiet .request rfl rfl
  | listCameras => exact moved_quiet (.stay []) rfl rfl
  | bindCamera name => exact moved_adopt (Desk.bindCamera_move name)
  | subscribe => exact moved_quiet (.stay []) rfl rfl

theorem Moved.working {t : Session} (m : s.Moved t) (phase : s.desk.phase = .working ref)
    (there : s.renderer.scene? ref = some scene) :
    ∃ es, Desk.Move scene.holds (some scene.volume) s.desk es t.desk ∧
      t.renderer.scene? ref = some (scene.applyAll (Effect.calls es)) ∧
      t.outlet.deeds = s.outlet.deeds ++ Effect.deeds scene.id es := by
  obtain ⟨r, move, desk, renderer, deeds⟩ := m
  obtain ⟨state, scene_after, deeds_after⟩ := adopt_working phase there r
  rw [alive_working phase there, volume?, scene?_working phase there] at move
  refine ⟨r.effects, ?_, renderer ▸ scene_after, deeds.trans deeds_after⟩
  rw [desk, state]
  exact move

theorem Moved.free {t : Session} (m : s.Moved t) (free : s.desk.phase.scene? = none) :
    ∃ es, Desk.Move s.alive none s.desk es t.desk ∧
      t.outlet.deeds = s.outlet.deeds ++ Effect.announcements es ∧ t.renderer = s.renderer := by
  obtain ⟨r, move, desk, renderer, deeds⟩ := m
  rw [adopt_free free] at desk renderer deeds
  rw [volume?, scene?_free free] at move
  refine ⟨r.effects, ?_, deeds.trans (Outlet.deeds_perform ..), renderer⟩
  rw [desk]
  exact move

theorem Moved.free_calls {t : Session} (m : s.Moved t) (free : s.desk.phase.scene? = none) :
    t.outlet.calls = s.outlet.calls := by
  obtain ⟨es, _, deeds, _⟩ := m.free free
  rw [Outlet.calls, deeds, List.filterMap_append, Effect.filterMap_call_announcements,
    List.append_nil]
  rfl

structure Shows (s : Session) (ref : SceneRef) (v : View) : Prop where
  phase : s.desk.phase = .working ref
  desk : s.desk = v.desk
  scene : s.renderer.scene? ref = some v.scene
  deeds : s.outlet.deeds = v.deeds

theorem Shows.unique {ref' : SceneRef} {v w : View} (here : s.Shows ref v)
    (there : s.Shows ref' w) : v = w := by
  obtain rfl : ref = ref' := Phase.working.inj (here.phase.symm.trans there.phase)
  have same : v.scene = w.scene := Option.some.inj (here.scene.symm.trans there.scene)
  have desk : v.desk = w.desk := here.desk.symm.trans there.desk
  have deeds : v.deeds = w.deeds := here.deeds.symm.trans there.deeds
  obtain ⟨_, _, _⟩ := v
  subst same desk deeds
  rfl

theorem Shows.moved {t : Session} {v : View} (here : s.Shows ref v) (m : s.Moved t) :
    ∃ w, View.Move v w ∧ t.Shows ref w := by
  obtain ⟨es, move, scene_after, deeds_after⟩ := m.working here.phase here.scene
  rw [here.desk] at move
  refine ⟨v.adopt t.desk es, .command move, ?_, rfl, scene_after, ?_⟩
  · exact move.phase_eq.trans (here.desk ▸ here.phase)
  · rw [deeds_after, here.deeds, View.adopt_deeds]

theorem shows_atScene {α : Type} (there : s.renderer.scene? ref = some scene)
    (work : Bench → Bench × α)
    (phase : (work ⟨s.desk, ⟨scene, s.outlet⟩⟩).1.desk.phase = .working ref) :
    (s.atScene ref scene work).1.Shows ref (work ⟨s.desk, ⟨scene, s.outlet⟩⟩).1.view :=
  ⟨phase, rfl, Renderer.scene?_putScene there _, rfl⟩

def bench (s : Session) (scene : Scene) : Bench := ⟨s.desk, ⟨scene, s.outlet⟩⟩

theorem Shows.bench_view {v : View} (here : s.Shows ref v) : (s.bench v.scene).view = v := by
  rw [bench, Bench.view, here.deeds, here.desk]

theorem Shows.tick_eq {v : View} (here : s.Shows ref v) :
    s.tick = s.atScene ref v.scene Bench.tick := by
  simp only [Session.tick, here.phase, here.scene]

theorem Shows.ticked {v : View} (here : s.Shows ref v) :
    s.tick.1.Shows ref (s.bench v.scene).tick.1.view ∧ s.tick.2 = (s.bench v.scene).tick.2 := by
  obtain ⟨w, upkeep, _, _, view, _⟩ := (s.bench v.scene).tick_spec
  have phase : (s.bench v.scene).tick.1.desk.phase = .working ref := by
    rw [← Bench.view_desk, view]
    exact upkeep.moves.phase_eq.trans here.phase
  rw [here.tick_eq]
  exact ⟨shows_atScene here.scene Bench.tick phase, rfl⟩

theorem Shows.step_ticks {v : View} (here : s.Shows ref v) (obeys : s.isOpen = true) :
    (s.step (.command .tick)).1.Shows ref (s.bench v.scene).tick.1.view ∧
      (s.step (.command .tick)).2 = .ticked ⟨.working ref, (s.bench v.scene).tick.2⟩ := by
  obtain ⟨shown, did⟩ := here.ticked
  rw [step_obeys obeys, obey_ticks, shown.phase, did]
  exact ⟨shown, rfl⟩

/-- A tick at a scene under control is some upkeep, and then the work that is owed. -/
theorem Shows.tick {v : View} (here : s.Shows ref v) :
    ∃ w, View.Upkeeps v w ∧ w.Ready ∧ s.tick.1.Shows ref w.work ∧
      s.tick.2 = if w.desk.draft.pending = .clean then none else some w.desk.draft.pending := by
  obtain ⟨w, upkeep, ready, _, view, applied⟩ := (s.bench v.scene).tick_spec
  obtain ⟨shown, did⟩ := here.ticked
  rw [here.bench_view] at upkeep
  rw [view] at shown
  exact ⟨w, upkeep, ready, shown, did.trans applied⟩

theorem step_ticked {report : TickReport}
    (answer : (s.step (.command .tick)).2 = .ticked report) :
    s.isOpen = true ∧ (s.step (.command .tick)).1 = s.tick.1 ∧ s.tick.2 = report.applied := by
  cases obeys : s.isOpen with
  | false => simp [step, obeys] at answer
  | true =>
    rw [step_obeys obeys] at answer ⊢
    exact ⟨rfl, rfl, congrArg TickReport.applied (Reply.ticked.inj answer)⟩

def taken (s : Session) (ref : SceneRef) (scene : Scene) : Bench :=
  let quiet := s.outlet.perform (s.renderer.discover.notices.map .note)
  let b := (⟨s.desk, ⟨scene, quiet⟩⟩ : Bench).perform [.call .createVolume]
  { b with desk := { b.desk with phase := .working ref } }

def opening (s : Session) (ref : SceneRef) (scene : Scene) : View :=
  (View.mk { s.desk with phase := .working ref } scene s.outlet.deeds).perform
    [.call .createVolume, .call (.participants .everything)]

theorem taken_view (s : Session) (ref : SceneRef) (scene : Scene) :
    (s.taken ref scene).view = (View.mk { s.desk with phase := .working ref } scene
      s.outlet.deeds).perform [.call .createVolume] := by
  simp [taken, Bench.view, Bench.perform, View.perform, Stage.scene_perform, Stage.deeds_perform]

theorem taken_opening (s : Session) (ref : SceneRef) (scene : Scene) :
    (s.taken ref scene).view.perform [.call (.participants .everything)] =
      s.opening ref scene := by
  rw [taken_view, ← View.perform_append]
  rfl

theorem opening_fill (s : Session) (ref : SceneRef) (scene : Scene) (plan : StartupPlan) :
    View.Moves (s.opening ref scene) ((s.taken ref scene).fill plan).view := by
  rw [← taken_opening]
  exact Bench.fill_moves ..

theorem firstTick_unready (plan : StartupPlan) (unready : s.renderer.discover.found = none) :
    s.firstTick plan =
      ({ s with outlet := s.outlet.perform (s.renderer.discover.notices.map .note) }, none) := by
  simp only [firstTick, unready]

theorem firstTick_unsupported (plan : StartupPlan)
    (found : s.renderer.discover.found = some (ref, scene)) (without : scene.supportsGi = false) :
    (s.firstTick plan).1.desk = { s.desk with phase := .withdrawn } ∧
      (s.firstTick plan).1.outlet.deeds = s.outlet.deeds ++ [.call scene.id .createVolume] ∧
      (s.firstTick plan).2 = none := by
  simp [firstTick, found, without, atScene, Bench.perform, Stage.deeds_perform]

theorem firstTick_shows (plan : StartupPlan)
    (found : s.renderer.discover.found = some (ref, scene)) (supported : scene.supportsGi = true) :
    (s.firstTick plan).1.Shows ref ((s.taken ref scene).setUp plan).tick.1.view ∧
      (s.firstTick plan).2 = ((s.taken ref scene).setUp plan).tick.2 := by
  obtain ⟨w, upkeep, _, _, view, _⟩ := ((s.taken ref scene).setUp plan).tick_spec
  let quiet : Outlet := s.outlet.perform (s.renderer.discover.notices.map .note)
  let take (b : Bench) : Bench :=
    let b := b.perform [.call .createVolume]
    { b with desk := { b.desk with phase := .working ref } }
  have ticking : s.firstTick plan = ({ s with outlet := quiet } : Session).atScene ref scene
      fun b => ((take b).setUp plan).tick := by
    simp only [firstTick, found, supported, if_true]
    rfl
  have phase : ((s.taken ref scene).setUp plan).tick.1.desk.phase = .working ref := by
    rw [← Bench.view_desk, view, View.work_desk]
    change w.desk.phase = _
    rw [upkeep.moves.phase_eq, ((s.taken ref scene).setUp_moves plan).phase_eq]
    exact (opening_fill s ref scene plan).phase_eq
  have shown := shows_atScene (s := { s with outlet := quiet })
    (Renderer.scene?_of_discover found) (fun b => ((take b).setUp plan).tick) phase
  rw [ticking]
  exact ⟨shown, rfl⟩

theorem firstTick_supported (plan : StartupPlan)
    (found : s.renderer.discover.found = some (ref, scene)) (supported : scene.supportsGi = true) :
    ∃ w, View.Upkeeps ((s.taken ref scene).setUp plan).view w ∧ w.Ready ∧
      (s.firstTick plan).1.Shows ref w.work ∧
      (s.firstTick plan).2 =
        if w.desk.draft.pending = .clean then none else some w.desk.draft.pending := by
  obtain ⟨w, upkeep, ready, _, view, applied⟩ := ((s.taken ref scene).setUp plan).tick_spec
  obtain ⟨shown, did⟩ := firstTick_shows plan found supported
  rw [view] at shown
  exact ⟨w, upkeep, ready, shown, did.trans applied⟩

theorem isOpen_tick (s : Session) : s.tick.1.isOpen = s.isOpen := by
  unfold Session.tick
  split
  · rfl
  · rfl
  · unfold firstTick
    dsimp only
    split <;> rfl
  · split <;> rfl

theorem isOpen_adopt (s : Session) (r : Decision Desk α) : (s.adopt r).isOpen = s.isOpen := by
  unfold adopt
  cases s.scene? <;> rfl

theorem step_isOpen {x : Step} (other : x ≠ .command .close) : (s.step x).1.isOpen = s.isOpen := by
  cases x with
  | outside e => rfl
  | command k =>
    cases obeys : s.isOpen with
    | false =>
      rw [step_closed obeys]
      exact obeys
    | true =>
      rw [step_obeys obeys, ← obeys]
      cases k with
      | tick => exact s.isOpen_tick
      | close => exact absurd rfl other
      | readCascade index =>
        unfold obey
        dsimp only
        split <;> rfl
      | updateCascade index change =>
        unfold obey
        dsimp only
        split <;> exact isOpen_adopt ..
      | setEnabled | assign | addCascade | removeLastCascade | bindCamera | release =>
        exact isOpen_adopt ..
      | requestRefresh | listCameras | subscribe => rfl

def reported (p : Pending) : Option Pending := if p = .clean then none else some p

theorem reported_eq_some {p q : Pending} (h : reported q = some p) : q = p := by
  unfold reported at h
  split at h
  · contradiction
  · exact Option.some.inj h

/-- What a tick may come to: the session after it, and what is reported. -/
inductive Ticks (s : Session) : Session → Option Pending → Prop where
  | idle {t : Session} (free : ∀ ref, s.desk.phase = .working ref → s.renderer.scene? ref = none)
      (desk : t.desk = s.desk) (deeds : t.outlet.deeds = s.outlet.deeds)
      (unready : ∀ plan, s.desk.phase = .waiting plan → s.renderer.discover.found = none)
      (told : ∃ ns : List Notice, t = { s with outlet := s.outlet.perform (ns.map .note) }) :
      Ticks s t none
  | withdraws {t : Session} {plan : StartupPlan} {ref : SceneRef} {scene : Scene}
      (waiting : s.desk.phase = .waiting plan)
      (found : s.renderer.discover.found = some (ref, scene)) (without : scene.supportsGi = false)
      (desk : t.desk = { s.desk with phase := .withdrawn })
      (deeds : t.outlet.deeds = s.outlet.deeds ++ [.call scene.id .createVolume]) : Ticks s t none
  | opens {t : Session} (plan : StartupPlan) (ref : SceneRef) (scene : Scene) {w : View}
      (waiting : s.desk.phase = .waiting plan)
      (found : s.renderer.discover.found = some (ref, scene)) (supported : scene.supportsGi = true)
      (upkeep : View.Upkeeps ((s.taken ref scene).setUp plan).view w) (ready : w.Ready)
      (shown : t.Shows ref w.work) : Ticks s t (reported w.desk.draft.pending)
  | works {t : Session} {ref : SceneRef} {v w : View} (here : s.Shows ref v)
      (upkeep : View.Upkeeps v w) (ready : w.Ready) (shown : t.Shows ref w.work) :
      Ticks s t (reported w.desk.draft.pending)

theorem ticks (s : Session) : s.Ticks s.tick.1 s.tick.2 := by
  cases phase : s.desk.phase with
  | withdrawn =>
    rw [show s.tick = (s, none) by simp only [Session.tick, phase]]
    exact .idle (by simp [phase]) rfl rfl (by simp [phase]) ⟨[], rfl⟩
  | released ref =>
    rw [show s.tick = ({ s with outlet := s.outlet.note .volumeMissing }, none) by
      simp only [Session.tick, phase]]
    exact .idle (by simp [phase]) rfl (Outlet.deeds_note ..) (by simp [phase])
      ⟨[.volumeMissing], rfl⟩
  | working ref =>
    cases there : s.renderer.scene? ref with
    | none =>
      rw [show s.tick = (s, none) by simp only [Session.tick, phase, there]]
      exact .idle (by simpa [phase] using there) rfl rfl (by simp [phase]) ⟨[], rfl⟩
    | some scene =>
      have here : s.Shows ref ⟨s.desk, scene, s.outlet.deeds⟩ := ⟨phase, rfl, there, rfl⟩
      obtain ⟨w, upkeep, ready, shown, did⟩ := here.tick
      exact did ▸ .works here upkeep ready shown
  | waiting plan =>
    have ticking : s.tick = s.firstTick plan := by simp only [Session.tick, phase]
    rw [ticking]
    cases found : s.renderer.discover.found with
    | none =>
      rw [firstTick_unready plan found]
      exact .idle (by simp [phase]) rfl (Outlet.deeds_perform_notes ..) (fun _ _ => found) ⟨_, rfl⟩
    | some p =>
      obtain ⟨ref, scene⟩ := p
      cases supported : scene.supportsGi with
      | false =>
        obtain ⟨desk, deeds, did⟩ := firstTick_unsupported plan found supported
        exact did ▸ .withdraws phase found supported desk deeds
      | true =>
        obtain ⟨_, upkeep, ready, shown, did⟩ := firstTick_supported plan found supported
        exact did ▸ .opens plan ref scene phase found supported upkeep ready shown

inductive Advances (s : Session) : Step → Session → Prop where
  | undergoes (e : OutsideEvent) : Advances s (.outside e) (s.undergo e)
  | still (c : Command) (closed : s.isOpen = false) : Advances s (.command c) s
  | moves {c : Command} (obeys : s.isOpen = true) (move : c.isMove = true)
      (moved : s.Moved (s.obey c).1) : Advances s (.command c) (s.obey c).1
  | ticks (obeys : s.isOpen = true) : Advances s (.command .tick) s.tick.1
  | ends {c : Command} {t : Session} (ended : s.Ended t) : Advances s (.command c) t

theorem advances (s : Session) (x : Step) : s.Advances x (s.step x).1 := by
  cases x with
  | outside e => exact .undergoes e
  | command c =>
    cases obeys : s.isOpen with
    | false =>
      rw [step_closed obeys]
      exact .still c obeys
    | true =>
      rw [step_obeys obeys]
      by_cases move : c.isMove = true
      · exact .moves obeys move (obey_moved move)
      · cases c with
        | tick => exact .ticks obeys
        | release => exact .ends s.adopt_release
        | close => exact .ends s.close_ended
        | _ => exact absurd rfl move

/-- A tick that did some work did it at a scene under control, after everything else. -/
theorem tick_applied {p : Pending} (applied : s.tick.2 = some p) :
    ∃ ref w, View.Ready w ∧ w.desk.draft.pending = p ∧ s.tick.1.Shows ref w.work := by
  have ticks := s.ticks
  rw [applied] at ticks
  generalize did : some p = q at ticks
  cases ticks with
  | idle | withdraws => contradiction
  | opens _ _ _ _ _ _ _ ready shown | works _ _ ready shown =>
    exact ⟨_, _, ready, reported_eq_some did.symm, shown⟩

end Session

end VoxelGI
