import VoxelGI.Proofs.Lifecycle
import VoxelGI.Proofs.TickCalls

/-! The cameras. The control side knows those that a scene listed when it was last asked, and any of
them may die at any time. A camera is bound by name from that list, or by a tick that lists the cameras
anew while none that is alive is bound; nothing else changes the binding. -/
namespace VoxelGI

structure Lookout where
  roster : Roster
  requested : Bool
  bound : Option Camera
  listings : Nat

namespace Lookout

def list (l : Lookout) (scene : Scene) : Lookout where
  roster := ⟨scene.cameras⟩
  requested := false
  bound := (l.bound.filter scene.holds).or scene.cameras.head?
  listings := l.listings + 1

theorem list_living (l : Lookout) {scene : Scene} (some_there : scene.cameras ≠ []) :
    ((l.list scene).bound.filter scene.holds).isSome = true := by
  change (((l.bound.filter scene.holds).or scene.cameras.head?).filter scene.holds).isSome = true
  cases living : l.bound.filter scene.holds with
  | some camera =>
    have alive : scene.holds camera = true := (Option.filter_eq_some_iff.mp living).2
    rw [Option.some_or, Option.filter_some_pos alive]
    rfl
  | none =>
    obtain ⟨camera, rest, cameras⟩ := List.exists_cons_of_ne_nil some_there
    have first : scene.cameras.head? = some camera := by rw [cameras]; rfl
    rw [Option.none_or, first, Option.filter_some_pos (Scene.holds_head first)]
    rfl

def bind (l : Lookout) (alive : Camera → Bool) (name : String) : Lookout :=
  { l with bound := (l.roster.find? alive name).or l.bound }

end Lookout

def Desk.lookout (d : Desk) (calls : List Call) : Lookout where
  roster := d.roster
  requested := d.refreshRequested
  bound := d.settings.boundCamera
  listings := calls.count .listCameras

theorem Desk.lookout_append (d : Desk) {calls more : List Call} (unlisted : .listCameras ∉ more) :
    d.lookout (calls ++ more) = d.lookout calls := by
  rw [lookout, List.count_append, List.count_eq_zero_of_not_mem unlisted]
  rfl

theorem Desk.lookout_refreshCameras (d : Desk) (scene : Scene) (calls : List Call) :
    (d.refreshCameras scene).state.lookout (calls ++ [.listCameras]) =
      (d.lookout calls).list scene := by
  have counted : (calls ++ [Call.listCameras]).count .listCameras = calls.count .listCameras + 1 :=
    List.count_append
  rw [lookout, refreshCameras_state, counted]
  rfl

theorem Desk.lookout_bindCamera (d : Desk) (alive : Camera → Bool) (name : String)
    (calls : List Call) :
    (d.bindCamera alive name).state.lookout calls = (d.lookout calls).bind alive name := by
  unfold bindCamera Lookout.bind lookout
  cases d.roster.find? alive name <;> rfl

namespace View

def lookout (v : View) : Lookout := v.desk.lookout v.calls

theorem lookout_adopt (v : View) (d : Desk) {es : List Effect}
    (unlisted : .listCameras ∉ Effect.calls es) : (v.adopt d es).lookout = d.lookout v.calls := by
  rw [lookout, adopt_calls, adopt_desk, Desk.lookout_append _ unlisted]

theorem lookout_refresh (v : View) :
    (v.adopt (v.desk.refreshCameras v.scene).state
      (v.desk.refreshCameras v.scene).effects).lookout = v.lookout.list v.scene := by
  rw [lookout, adopt_calls, adopt_desk, Desk.calls_refreshCameras]
  exact v.desk.lookout_refreshCameras v.scene v.calls

theorem lookout_work (v : View) : v.work.lookout = v.lookout := by
  have unlisted : .listCameras ∉ Effect.calls (v.desk.workEffects v.scene) :=
    fun called => (v.desk.workEffects_labour v.scene _ called).elim
  rw [lookout, work_calls, Desk.lookout_append _ unlisted]
  rfl

theorem Concedes.lookout {v w : View} (h : v.Concedes w) : w.lookout = v.lookout := by
  rw [View.lookout, h.calls_eq]
  cases h <;> rfl

theorem lookout_perform (v : View) {es : List Effect} (unlisted : .listCameras ∉ Effect.calls es) :
    (v.perform es).lookout = v.lookout :=
  v.lookout_adopt v.desk unlisted

end View

theorem Lookout.list_congr (l : Lookout) {s t : Scene} (cameras : t.cameras = s.cameras)
    (holds : t.holds = s.holds) : l.list t = l.list s := by
  rw [list, list, cameras, holds]

theorem Desk.Move.unlisted {alive : Camera → Bool} {volume : Option Volume} {d d' : Desk}
    {es : List Effect} (m : Move alive volume d es d') : .listCameras ∉ Effect.calls es := by
  cases m with
  | assign a => simp [Draft.calls_assign]
  | wish => split <;> simp
  | append v => simp [CascadeEntry.calls_effects, Volume.appendCall]
  | stay | miss | remove | edit | request | bind => simp

namespace Bench

theorem lookout_refreshIfRequested (b : Bench) :
    b.refreshIfRequested.view.lookout =
      if b.desk.refreshRequested then b.view.lookout.list b.view.scene else b.view.lookout := by
  unfold refreshIfRequested
  split
  · rw [view_adopt]
    exact b.view.lookout_refresh
  · rfl

theorem lookout_tick (b : Bench) : b.tick.1.view.lookout =
    if b.desk.refreshRequested then b.view.lookout.list b.view.scene else b.view.lookout := by
  obtain ⟨v, conceded, worked⟩ := b.tick_concedes
  rw [worked, v.lookout_work, conceded.lookout, lookout_refreshIfRequested]

theorem tick_holds (b : Bench) : b.tick.1.view.scene.holds = b.view.scene.holds := by
  obtain ⟨v, upkeep, _, _, worked, _⟩ := b.tick_spec
  rw [worked, View.work_scene, Scene.applyAll_holds]
  exact upkeep.moves.holds

theorem lookout_addConfigured (b : Bench) (o : CascadeOverride) :
    (b.addConfigured o).view.lookout = b.view.lookout := by
  have adding {d : Desk} : Desk.Move b.stage.scene.holds (some b.volume) d
      (d.addCascade (some b.volume)).effects (d.addCascade (some b.volume)).state :=
    Desk.addCascade_move
  have editing {d : Desk} {v : Volume} (index : Nat) (change : CascadeSettings → CascadeSettings) :
      Desk.Move b.stage.scene.holds (some v) d (d.updateCascade (some v) index change).effects
        (d.updateCascade (some v) index change).state :=
    Desk.updateCascade_move index change
  have added : (b.adopt (b.desk.addCascade (some b.volume))).view.lookout = b.view.lookout := by
    rw [view_adopt]
    exact b.view.lookout_adopt _ adding.unlisted
  unfold addConfigured
  dsimp only
  split
  · exact added
  · rw [view_adopt]
    exact (View.lookout_adopt _ _ (editing _ _).unlisted).trans added

theorem lookout_foldl_addConfigured (b : Bench) (os : List CascadeOverride) :
    (os.foldl addConfigured b).view.lookout = b.view.lookout := by
  induction os generalizing b with
  | nil => rfl
  | cons o rest ih => exact (ih _).trans (b.lookout_addConfigured o)

theorem lookout_fill (b : Bench) (plan : StartupPlan) :
    (b.fill plan).view.lookout = b.view.lookout.list b.view.scene := by
  let opened := b.perform [.call (.participants .everything), .note .volumeCreated]
  let filled := plan.cascades.foldl addConfigured opened
  have filling : View.Moves opened.view filled.view := foldl_addConfigured_moves ..
  have kept : filled.view.lookout = b.view.lookout := by
    rw [lookout_foldl_addConfigured, view_perform]
    exact b.view.lookout_perform (by simp)
  have listed : (b.fill plan).view.lookout = filled.view.lookout.list filled.view.scene := by
    rw [show b.fill plan = filled.adopt (filled.desk.refreshCameras filled.stage.scene) from rfl,
      view_adopt]
    exact filled.view.lookout_refresh
  have opening : opened.view.scene = b.view.scene := by
    rw [view_perform]
    rfl
  rw [listed, kept]
  exact Lookout.list_congr _ (filling.cameras.trans (congrArg Scene.cameras opening))
    (filling.holds.trans (congrArg Scene.holds opening))

theorem lookout_enableAtStartup (b : Bench) (enable : Bool) :
    (b.enableAtStartup enable).view.lookout = b.view.lookout := by
  unfold enableAtStartup
  cases enable with
  | false => rfl
  | true =>
    have asked : (b.adopt (b.desk.setEnabled b.stage.scene.holds true)).view.lookout =
        b.view.lookout := by
      have asking : Desk.Move b.stage.scene.holds none b.desk _ _ := Desk.setEnabled_move true
      rw [view_adopt, View.lookout_adopt _ _ asking.unlisted]
      unfold Desk.setEnabled
      split <;> rfl
    simp only [if_true]
    split
    · exact asked
    · rw [view_perform, View.perform_note]
      exact asked

theorem lookout_setUp (b : Bench) (plan : StartupPlan) :
    (b.setUp plan).view.lookout = b.view.lookout.list b.view.scene := by
  rw [setUp_eq, lookout_enableAtStartup, view_perform, View.lookout_perform _ (by simp),
    lookout_fill]

end Bench

namespace Session

variable {c : Config} {s t : Session} {ref : SceneRef} {scene : Scene}

def lookout (s : Session) : Lookout := s.desk.lookout s.outlet.calls

theorem Shows.lookout {v : View} (here : s.Shows ref v) : s.lookout = v.lookout := by
  rw [Session.lookout, here.desk, Outlet.calls, here.deeds]
  rfl

/-- The scene whose cameras the next tick lists: the one whose volume it takes over, or the one under
control if that was requested. -/
def tickLists? (s : Session) : Option Scene :=
  match s.desk.phase with
  | .waiting _ => (s.renderer.discover.found.map (·.2)).filter (·.supportsGi)
  | .working ref => if s.desk.refreshRequested then s.renderer.scene? ref else none
  | .released _ | .withdrawn => none

theorem tickLists_cases (lists : s.tickLists? = some scene) :
    (∃ plan ref, s.desk.phase = .waiting plan ∧ s.renderer.discover.found = some (ref, scene) ∧
        scene.supportsGi = true) ∨
      ∃ ref, s.desk.phase = .working ref ∧ s.desk.refreshRequested = true ∧
        s.renderer.scene? ref = some scene := by
  unfold tickLists? at lists
  cases phase : s.desk.phase with
  | waiting plan =>
    rw [phase] at lists
    obtain ⟨looked, supported⟩ := Option.filter_eq_some_iff.mp lists
    obtain ⟨⟨ref, scene'⟩, found, rfl⟩ := Option.map_eq_some_iff.mp looked
    exact .inl ⟨plan, ref, rfl, found, supported⟩
  | working ref =>
    rw [phase] at lists
    obtain ⟨requested, there⟩ := Option.ite_none_right_eq_some.mp lists
    exact .inr ⟨ref, rfl, requested, there⟩
  | released | withdrawn =>
    rw [phase] at lists
    contradiction

theorem lookout_quiet (desk : t.desk = s.desk) (deeds : t.outlet.deeds = s.outlet.deeds) :
    t.lookout = s.lookout := by
  rw [lookout, lookout, desk, Outlet.calls_of_deeds deeds]

theorem lookout_taken (s : Session) (ref : SceneRef) (scene : Scene) :
    (s.taken ref scene).view.lookout = s.lookout ∧ (s.taken ref scene).view.scene = scene := by
  rw [taken_view, View.lookout_perform _ (by simp)]
  exact ⟨rfl, rfl⟩

theorem lookout_takeOver (plan : StartupPlan)
    (found : s.renderer.discover.found = some (ref, scene)) (supported : scene.supportsGi = true) :
    (s.firstTick plan).1.lookout = s.lookout.list scene := by
  obtain ⟨kept, here⟩ := s.lookout_taken ref scene
  have listed : ((s.taken ref scene).setUp plan).view.lookout = s.lookout.list scene := by
    rw [Bench.lookout_setUp, kept, here]
  -- the set-up has answered any request, so the tick does not list them once more
  have asked : ((s.taken ref scene).setUp plan).desk.refreshRequested = false :=
    congrArg Lookout.requested listed
  rw [(firstTick_shows plan found supported).1.lookout, Bench.lookout_tick, asked, if_neg nofun,
    listed]

theorem lookout_tick (serves : s.Serves c) :
    s.tick.1.lookout = match s.tickLists? with
      | some scene => s.lookout.list scene
      | none => s.lookout := by
  cases phase : s.desk.phase with
  | withdrawn =>
    simp only [tickLists?, phase]
    exact lookout_quiet (by simp only [Session.tick, phase]) (by simp only [Session.tick, phase])
  | released ref =>
    have ticking : s.tick.1 = { s with outlet := s.outlet.note .volumeMissing } := by
      simp only [Session.tick, phase]
    simp only [tickLists?, phase]
    rw [ticking]
    exact lookout_quiet rfl (Outlet.deeds_note ..)
  | working ref =>
    obtain ⟨v, here, _⟩ := serves.held ref phase
    rw [here.ticked.1.lookout, Bench.lookout_tick, here.bench_view, here.lookout]
    simp only [tickLists?, phase, here.scene]
    change (if s.desk.refreshRequested then _ else _) = _
    cases s.desk.refreshRequested <;> rfl
  | waiting plan =>
    have ticking : s.tick = s.firstTick plan := by simp only [Session.tick, phase]
    simp only [tickLists?, phase]
    rw [ticking]
    cases found : s.renderer.discover.found with
    | none =>
      rw [firstTick_unready plan found]
      exact lookout_quiet rfl (Outlet.deeds_perform_notes ..)
    | some p =>
      obtain ⟨ref, scene⟩ := p
      cases supported : scene.supportsGi with
      | false =>
        obtain ⟨desk, deeds, _⟩ := firstTick_unsupported plan found supported
        have calls : (s.firstTick plan).1.outlet.calls = s.outlet.calls ++ [.createVolume] := by
          rw [Outlet.calls, deeds, List.filterMap_append]
          rfl
        rw [lookout, calls, Desk.lookout_append _ (by simp), desk]
        simp only [Option.map_some, Option.filter_some, supported]
        rfl
      | true =>
        simp only [lookout_takeOver plan found supported, Option.map_some, Option.filter_some,
          supported, if_true]

theorem Moved.lookout (m : s.Moved t) : t.lookout = t.desk.lookout s.outlet.calls := by
  obtain ⟨r, move, _, _, deeds⟩ := m
  rw [Session.lookout, Outlet.calls, deeds]
  unfold adopt
  cases s.scene? with
  | none =>
    rw [Outlet.deeds_perform, List.filterMap_append, Effect.filterMap_call_announcements,
      List.append_nil]
    rfl
  | some p =>
    rw [Stage.deeds_perform, List.filterMap_append, Effect.filterMap_call_deeds]
    exact t.desk.lookout_append move.unlisted

theorem Ended.lookout (e : s.Ended t) : t.lookout = s.lookout := by
  rw [Session.lookout, Session.lookout, Outlet.calls_of_deeds e.deeds]
  rcases e.desk with same | let_go
  · rw [same]
  · rw [let_go]
    rfl

def heed (s : Session) : Command → Lookout
  | .requestRefresh => { s.lookout with requested := true }
  | .bindCamera name => s.lookout.bind s.alive name
  | _ => s.lookout

theorem heed_listings (s : Session) (k : Command) : (s.heed k).listings = s.lookout.listings := by
  cases k <;> rfl

theorem lookout_obey {k : Command} (other : k ≠ .tick) : (s.obey k).1.lookout = s.heed k := by
  have adopted {α : Type} {r : Decision Desk α}
      (m : Desk.Move s.alive s.volume? s.desk r.effects r.state) :
      (s.adopt r).lookout = r.state.lookout s.outlet.calls :=
    (moved_adopt m).lookout.trans (congrArg (·.lookout s.outlet.calls) (s.adopt_state r))
  cases k with
  | tick => exact absurd rfl other
  | setEnabled enabled =>
    refine (adopted (Desk.setEnabled_move enabled)).trans ?_
    unfold Desk.setEnabled
    split <;> rfl
  | assign a =>
    refine (adopted (r := s.desk.assign a) (.assign a)).trans ?_
    have unbound := s.desk.draft.assign_boundCamera a
    exact congrArg (Lookout.mk s.desk.roster s.desk.refreshRequested · _) unbound
  | addCascade => exact adopted Desk.addCascade_move
  | removeLastCascade => exact adopted Desk.removeLastCascade_move
  | readCascade index =>
    unfold obey
    dsimp only
    split <;> rfl
  | updateCascade index change =>
    unfold obey
    dsimp only
    split <;> exact adopted (Desk.updateCascade_move index change)
  | bindCamera name =>
    exact (adopted (Desk.bindCamera_move name)).trans (s.desk.lookout_bindCamera ..)
  | requestRefresh | listCameras | subscribe => rfl
  | release => exact s.adopt_release.lookout
  | close => exact s.close_ended.lookout

def lists? (s : Session) : Step → Option Scene
  | .command .tick => if s.isOpen then s.tickLists? else none
  | _ => none

theorem lists_cases {x : Step} (lists : s.lists? x = some scene) :
    x = .command .tick ∧ s.isOpen = true ∧ s.tickLists? = some scene := by
  unfold lists? at lists
  split at lists
  · exact ⟨rfl, Option.ite_none_right_eq_some.mp lists⟩
  · contradiction

theorem lookout_listing (serves : s.Serves c) {x : Step} (lists : s.lists? x = some scene) :
    (s.step x).1.lookout = s.lookout.list scene := by
  obtain ⟨rfl, obeys, ticking⟩ := lists_cases lists
  rw [step_tick obeys, lookout_tick serves, ticking]

theorem lookout_command (serves : s.Serves c) {k : Command}
    (unlisted : s.lists? (.command k) = none) :
    (s.step (.command k)).1.lookout = if s.isOpen then s.heed k else s.lookout := by
  cases obeys : s.isOpen with
  | false =>
    rw [step_closed obeys]
    rfl
  | true =>
    rw [step_obeys obeys]
    by_cases ticking : k = .tick
    · subst ticking
      have none_listed : s.tickLists? = none := by simpa [lists?, obeys] using unlisted
      rw [obey_ticks, lookout_tick serves, none_listed]
      rfl
    · exact lookout_obey ticking

theorem lookout_outside (s : Session) (e : OutsideEvent) : (s.undergo e).lookout = s.lookout :=
  lookout_quiet rfl (Outlet.deeds_perform_notes ..)

def listings (s : Session) : Nat := s.outlet.calls.count .listCameras

/-- The scene that a step asks for its cameras, going by the calls. -/
def listed? (s : Session) (x : Step) : Option Scene :=
  if s.listings < (s.step x).1.listings then s.venue? else none

theorem listings_listing (serves : s.Serves c) {x : Step} (lists : s.lists? x = some scene) :
    (s.step x).1.listings = s.listings + 1 :=
  congrArg Lookout.listings (lookout_listing serves lists)

theorem listings_unlisted (serves : s.Serves c) {x : Step} (unlisted : s.lists? x = none) :
    (s.step x).1.listings = s.listings := by
  cases x with
  | outside e => exact congrArg Lookout.listings (s.lookout_outside e)
  | command k =>
    refine (congrArg Lookout.listings (lookout_command serves unlisted)).trans ?_
    split
    · exact s.heed_listings k
    · rfl

theorem venue_tickLists (lists : s.tickLists? = some scene) : s.venue? = some scene := by
  rcases tickLists_cases lists with ⟨plan, ref, waiting, found, _⟩ | ⟨ref, working, _, there⟩
  · rw [venue?, waiting, found]
    rfl
  · rw [venue?, working, scene?_working working there]
    rfl

theorem listed_eq_lists (serves : s.Serves c) (x : Step) : s.listed? x = s.lists? x := by
  unfold listed?
  cases lists : s.lists? x with
  | some scene =>
    rw [listings_listing serves lists, if_pos (Nat.lt_succ_self _)]
    exact venue_tickLists (lists_cases lists).2.2
  | none => rw [listings_unlisted serves lists, if_neg (Nat.lt_irrefl _)]

end Session

structure Sightings where
  roster : Roster := {}
  requested : Bool := false

def Lookout.sightings (l : Lookout) : Sightings := ⟨l.roster, l.requested⟩

namespace Session

variable {c : Config} {s t : Session} {ref : SceneRef} {scene : Scene}

/-- What there is to be known of the cameras after a step: what the scene listed if it was asked. -/
def sight (s : Session) (seen : Sightings) (x : Step) : Sightings :=
  match s.listed? x, x with
  | some scene, _ => ⟨⟨scene.cameras⟩, false⟩
  | none, .command .requestRefresh => { seen with requested := seen.requested || s.isOpen }
  | none, _ => seen

def sightings : Session → Sightings → List Step → Sightings
  | _, seen, [] => seen
  | s, seen, x :: rest => (s.step x).1.sightings (s.sight seen x) rest

theorem sight_step (serves : s.Serves c) (x : Step) :
    (s.step x).1.lookout.sightings = s.sight s.lookout.sightings x := by
  unfold sight
  rw [listed_eq_lists serves]
  cases lists : s.lists? x with
  | some scene => rw [lookout_listing serves lists]; rfl
  | none =>
    cases x with
    | outside e => exact congrArg Lookout.sightings (s.lookout_outside e)
    | command k =>
      rw [lookout_command serves lists]
      cases obeys : s.isOpen <;> cases k <;> simp [heed, Lookout.sightings, Lookout.bind]

theorem sightings_run (serves : s.Serves c) (steps : List Step) :
    (s.run steps).lookout.sightings = s.sightings s.lookout.sightings steps := by
  -- by induction on the run: after each step the desk knows what there is to be known
  induction steps generalizing s with
  | nil => rfl
  | cons x rest ih =>
    rw [run_cons, ih ((unused_custody c).step (s.onTerms_any [x]).1 serves), sight_step serves]
    rfl

def liveCamera (s : Session) : Option Camera := s.desk.settings.liveCamera s.alive

theorem liveCamera_tickLists (serves : s.Serves c) (lists : s.tickLists? = some scene) :
    s.lookout.bound.filter scene.holds = s.liveCamera := by
  rcases tickLists_cases lists with ⟨plan, _, waiting, _⟩ | ⟨ref, working, _, there⟩
  · have unbound := (serves.free (by rw [waiting]; rfl) plan waiting).unbound
    change s.desk.settings.boundCamera.filter _ = s.desk.settings.boundCamera.filter _
    rw [unbound]
    rfl
  · rw [liveCamera, alive_working working there]
    rfl

theorem alive_tickLists (serves : s.Serves c) (lists : s.tickLists? = some scene) :
    s.tick.1.alive = scene.holds := by
  -- neither the set-up of a volume nor work takes a camera away
  rcases tickLists_cases lists with
    ⟨plan, ref, waiting, found, supported⟩ | ⟨ref, working, _, there⟩
  · have shown := (firstTick_shows plan found supported).1
    rw [show s.tick = s.firstTick plan by simp only [Session.tick, waiting],
      alive_working shown.phase shown.scene, Bench.tick_holds]
    exact ((s.taken ref scene).setUp_moves plan).holds.trans (s.opening_fill ref scene plan).holds
  · obtain ⟨v, here, _⟩ := serves.held ref working
    obtain rfl : v.scene = scene := Option.some.inj (here.scene.symm.trans there)
    rw [alive_working here.ticked.1.phase here.ticked.1.scene, Bench.tick_holds, here.bench_view]

/-- What a step from one session to another does about the cameras, given what there was to be known of
them. -/
structure Minds (s : Session) (seen : Sightings) (x : Step) (t : Session) : Prop where
  once : t.listings = s.listings ∧ s.listed? x = none ∨
    t.listings = s.listings + 1 ∧ ∃ scene, s.listed? x = some scene
  /-- A tick lists the cameras if it takes over a volume, or at one under control on request. -/
  lists_iff : (∃ scene, s.listed? x = some scene) ↔ x = .command .tick ∧ s.isOpen = true ∧
    ((∃ plan, s.desk.phase = .waiting plan) ∧ (∃ ref, t.desk.phase = .working ref) ∨
      (∃ ref, s.desk.phase = .working ref) ∧ seen.requested = true)
  settles : ∀ scene, s.listed? x = some scene → t.desk.refreshRequested = false
  /-- A camera is found by name among the last ones listed if it is still alive. -/
  answers : ∀ name, x = .command (.bindCamera name) → s.isOpen = true →
    (s.step x).2 = .verdict (seen.roster.find? s.alive name).isSome ∧
      t.desk.settings.boundCamera =
        (seen.roster.find? s.alive name).or s.desk.settings.boundCamera
  stays : ∀ scene camera, s.listed? x = some scene → s.liveCamera = some camera →
    t.desk.settings.boundCamera = some camera
  replaces : ∀ scene, s.listed? x = some scene → s.liveCamera = none →
    t.desk.settings.boundCamera = scene.cameras.head?
  /-- There is no other way to bind a camera. -/
  changes : t.desk.settings.boundCamera ≠ s.desk.settings.boundCamera →
    (∃ name camera, x = .command (.bindCamera name) ∧ (s.step x).2 = .verdict true ∧
      seen.roster.find? s.alive name = some camera ∧ t.desk.settings.boundCamera = some camera) ∨
    ∃ scene, s.listed? x = some scene ∧ s.liveCamera = none ∧
      t.desk.settings.boundCamera = scene.cameras.head?
  living : ∀ scene, s.listed? x = some scene → scene.cameras ≠ [] → t.liveCamera.isSome = true

theorem lists_iff (serves : s.Serves c) (x : Step) :
    (∃ scene, s.lists? x = some scene) ↔ x = .command .tick ∧ s.isOpen = true ∧
      ((∃ plan, s.desk.phase = .waiting plan) ∧ (∃ ref, (s.step x).1.desk.phase = .working ref) ∨
        (∃ ref, s.desk.phase = .working ref) ∧ s.desk.refreshRequested = true) := by
  refine ⟨fun ⟨scene, lists⟩ => ?_, ?_⟩
  · obtain ⟨rfl, obeys, ticking⟩ := lists_cases lists
    refine ⟨rfl, obeys, ?_⟩
    rw [step_tick obeys]
    rcases tickLists_cases ticking with
      ⟨plan, ref, waiting, found, supported⟩ | ⟨ref, working, requested, _⟩
    · refine .inl ⟨⟨plan, waiting⟩, ref, ?_⟩
      rw [tick_ends_wait waiting (Renderer.discover_found_iff.mp found)]
      exact if_pos supported
    · exact .inr ⟨⟨ref, working⟩, requested⟩
  · rintro ⟨rfl, obeys, ⟨⟨plan, waiting⟩, ref, working⟩ | ⟨⟨ref, working⟩, requested⟩⟩
    · rw [step_tick obeys] at working
      rcases s.tick_phase with ⟨same, _⟩ | ⟨_, ref', scene, _, offered, ends⟩
      · exact absurd (working.symm.trans (same.trans waiting)) nofun
      · cases supported : scene.supportsGi with
        | false =>
          rw [supported, if_neg nofun] at ends
          exact absurd (working.symm.trans ends) nofun
        | true =>
          refine ⟨scene, ?_⟩
          simp only [lists?, obeys, if_true, tickLists?, waiting,
            Renderer.discover_found_iff.mpr offered, Option.map_some, Option.filter_some, supported]
    · obtain ⟨v, here, _⟩ := serves.held ref working
      refine ⟨v.scene, ?_⟩
      simp only [lists?, obeys, if_true, tickLists?, working, requested, here.scene]

theorem step_bindCamera (obeys : s.isOpen = true) (name : String) :
    (s.step (.command (.bindCamera name))).2 =
      .verdict (s.desk.roster.find? s.alive name).isSome := by
  rw [step_obeys obeys]
  change Reply.verdict (s.desk.bindCamera s.alive name).answer = _
  unfold Desk.bindCamera
  cases s.desk.roster.find? s.alive name <;> rfl

theorem boundCamera_listing (serves : s.Serves c) {x : Step} (lists : s.lists? x = some scene) :
    (s.step x).1.desk.settings.boundCamera = s.liveCamera.or scene.cameras.head? := by
  rw [← liveCamera_tickLists serves (lists_cases lists).2.2]
  exact congrArg Lookout.bound (lookout_listing serves lists)

theorem boundCamera_bindCamera (serves : s.Serves c) (obeys : s.isOpen = true) (name : String) :
    (s.step (.command (.bindCamera name))).1.desk.settings.boundCamera =
      (s.desk.roster.find? s.alive name).or s.desk.settings.boundCamera := by
  have heeded := lookout_command (k := .bindCamera name) serves rfl
  rw [obeys, if_pos rfl] at heeded
  exact congrArg Lookout.bound heeded

theorem boundCamera_unlisted (serves : s.Serves c) {x : Step} (unlisted : s.lists? x = none)
    (changed : (s.step x).1.desk.settings.boundCamera ≠ s.desk.settings.boundCamera) :
    ∃ name, x = .command (.bindCamera name) ∧ s.isOpen = true := by
  cases x with
  | outside e => exact absurd (congrArg Lookout.bound (s.lookout_outside e)) changed
  | command k =>
    have heeded := congrArg Lookout.bound (lookout_command serves unlisted)
    cases obeys : s.isOpen with
    | false =>
      rw [obeys] at heeded
      exact absurd heeded changed
    | true =>
      rw [obeys, if_pos rfl] at heeded
      -- of all commands, only one touches the binding
      cases k with
      | bindCamera name => exact ⟨name, rfl, rfl⟩
      | _ => exact absurd heeded changed

theorem boundCamera_changes (serves : s.Serves c) {x : Step}
    (changed : (s.step x).1.desk.settings.boundCamera ≠ s.desk.settings.boundCamera) :
    (∃ name camera, x = .command (.bindCamera name) ∧ (s.step x).2 = .verdict true ∧
      s.desk.roster.find? s.alive name = some camera ∧
        (s.step x).1.desk.settings.boundCamera = some camera) ∨
      ∃ scene, s.lists? x = some scene ∧ s.liveCamera = none ∧
        (s.step x).1.desk.settings.boundCamera = scene.cameras.head? := by
  cases lists : s.lists? x with
  | some scene =>
    have bound := boundCamera_listing serves lists
    cases living : s.liveCamera with
    | none =>
      rw [living, Option.none_or] at bound
      exact .inr ⟨scene, rfl, rfl, bound⟩
    | some camera =>
      rw [living, Option.some_or] at bound
      exact absurd (bound.trans (Option.filter_eq_some_iff.mp living).1.symm) changed
  | none =>
    obtain ⟨name, rfl, obeys⟩ := boundCamera_unlisted serves lists changed
    have bound := boundCamera_bindCamera serves obeys name
    cases found : s.desk.roster.find? s.alive name with
    | none =>
      rw [found, Option.none_or] at bound
      exact absurd bound changed
    | some camera =>
      rw [found, Option.some_or] at bound
      refine .inl ⟨name, camera, rfl, ?_, found, bound⟩
      rw [step_bindCamera obeys, found]
      rfl

theorem liveCamera_listing (serves : s.Serves c) {x : Step} (lists : s.lists? x = some scene)
    (some_there : scene.cameras ≠ []) : (s.step x).1.liveCamera.isSome = true := by
  obtain ⟨rfl, obeys, ticking⟩ := lists_cases lists
  have bound := congrArg Lookout.bound (lookout_listing serves lists)
  have alive := alive_tickLists serves ticking
  rw [step_tick obeys] at bound ⊢
  have same : s.tick.1.liveCamera = (s.lookout.list scene).bound.filter scene.holds := by
    rw [liveCamera, alive, Settings.liveCamera, ← bound]
    rfl
  exact same ▸ s.lookout.list_living some_there

theorem step_minds (serves : s.Serves c) (x : Step) :
    s.Minds s.lookout.sightings x (s.step x).1 := by
  have asks := listed_eq_lists serves x
  constructor <;> try rw [asks]
  case once =>
    cases lists : s.lists? x with
    | none => exact .inl ⟨listings_unlisted serves lists, rfl⟩
    | some scene => exact .inr ⟨listings_listing serves lists, scene, rfl⟩
  case lists_iff => exact lists_iff serves x
  case settles =>
    intro scene lists
    exact congrArg Lookout.requested (lookout_listing serves lists)
  case answers =>
    rintro name rfl obeys
    exact ⟨step_bindCamera obeys name, boundCamera_bindCamera serves obeys name⟩
  case stays =>
    intro scene camera lists living
    rw [boundCamera_listing serves lists, living, Option.some_or]
  case replaces =>
    intro scene lists dead
    rw [boundCamera_listing serves lists, dead, Option.none_or]
  case changes => exact boundCamera_changes serves
  case living => exact fun scene lists => liveCamera_listing serves lists

/-- In every run the cameras are known by the names that the scene listed when it was last asked. Only
a tick asks, at most once: when it takes over a volume, or at a volume under control if that was
requested since. A camera is bound by name exactly if one that was listed last is still alive, and then
the first such one is bound. Otherwise the binding changes only as the cameras are listed while none
that is alive is bound, and then to the first camera of the scene. -/
theorem camera_binding_law {c : Config} {s : Session} (begun : s.Begins c) (steps : List Step) :
    let t := s.run steps
    let seen := s.sightings {} steps
    (t.isOpen = true → (t.step (.command .listCameras)).2 = .names seen.roster.names) ∧
      ∀ x, t.Minds seen x (t.step x).1 := by
  intro t seen
  have serves : s.Serves c := serves_run begun []
  have start : s.lookout.sightings = {} := by
    rw [lookout, begun.desk]
    rfl
  have known := sightings_run serves steps
  rw [start] at known
  refine ⟨fun obeys => ?_, fun x => ?_⟩
  · rw [step_obeys obeys]
    exact congrArg (fun seen : Sightings => Reply.names seen.roster.names) known
  · rw [show seen = t.lookout.sightings from known.symm]
    exact step_minds (serves_run begun steps) x

theorem camera_binding_law_dead :
    let s := onOneScene { cascades := [{}] }
    let steps := [.command .tick, .outside (.scene "main" (.removeCamera 0)),
      .command .requestRefresh]
    ((s.run steps).step (.command .listCameras)).2 = .names ["user_camera", "overhead"] ∧
      ((s.run steps).step (.command (.bindCamera "user_camera"))).2 = .verdict false ∧
      ((s.run steps).step (.command .tick)).1.desk.settings.boundCamera =
        some ⟨1, "overhead"⟩ := by
  intro s steps
  have obeys : (s.run steps).isOpen = true := by decide
  have known : (s.sightings {} steps).roster = ⟨[⟨0, "user_camera"⟩, ⟨1, "overhead"⟩]⟩ := by decide
  have unfound : Roster.find? ⟨[⟨0, "user_camera"⟩, ⟨1, "overhead"⟩]⟩ (s.run steps).alive
      "user_camera" = none := by decide
  have dead : (s.run steps).liveCamera = none := by decide
  have listed : ((s.run steps).listed? (.command .tick)).map (·.cameras) =
      some [⟨1, "overhead"⟩] := by decide
  obtain ⟨names, minds⟩ := camera_binding_law (onOneScene_begins _) steps
  obtain ⟨scene, asked, cameras⟩ := Option.map_eq_some_iff.mp listed
  refine ⟨?_, ?_, ?_⟩
  · rw [names obeys, known]
    rfl
  · rw [((minds _).answers "user_camera" rfl obeys).1, known, unfound]
    rfl
  · rw [(minds _).replaces scene asked dead, cameras]
    rfl

end Session

end VoxelGI
