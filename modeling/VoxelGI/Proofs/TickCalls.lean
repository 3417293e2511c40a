import VoxelGI.Proofs.Custody
import VoxelGI.Proofs.Decisions

/-! The calls of a tick at a volume under control. The cameras are listed first if that was requested.
All other calls belong to one category of work, and which ones they are depends on what is wanted, on
whether the volume has started and on whether it is active. -/
namespace VoxelGI

def CascadeEntry.writes (e : CascadeEntry) : List Call :=
  [.cascade e.handle (.halfExtent e.settings.halfExtent),
    .cascade e.handle (.resolution e.settings.resolution),
    .cascade e.handle (.octantCount e.settings.octantCount),
    .cascade e.handle (.thinWallCounter e.settings.thinWallCounter)]

namespace Settings

def lightingWrites (s : Settings) : List Call :=
  [.bounceCount s.bounceCount, .highQuality s.highQuality, .anisotropic s.anisotropic,
    .thinWallCounter s.thinWallCounter, .conserveMemory s.conserveMemory]

def relightScript (s : Settings) (volume : Volume) : List Call :=
  s.lightingWrites ++
    if volume.active then [.overlay .off, .lightingChanged, .overlay s.overlay]
    else if volume.started then [.overlay s.overlay] else []

/-- The calls of a rebuild at a scene. A volume that had not started gets its cascades; it is built
only if it is wanted, and made active or inactive once. -/
def rebuildScript (s : Settings) (cascades : CascadeStack) (scene : Scene) (nowStarted : Bool) :
    List Call :=
  [.resolution s.resolution, .octantCount s.octantCount] ++ s.lightingWrites
    ++ (if scene.volume.started then [.overlay .off]
      else cascades.entries.flatMap CascadeEntry.writes)
    ++ (if s.enabled then
        (if scene.volume.started then [.newSettings s.bounceCount s.anisotropic]
          else [.bind (s.liveCamera scene.holds), .start s.bounceCount s.anisotropic])
        ++ [.build]
      else [])
    ++ [.setActive s.enabled]
    ++ (if nowStarted then [.overlay s.overlay] else [])

/-- The calls of each category of work, at a scene as it is before the work. -/
def script (s : Settings) (cascades : CascadeStack) (scene : Scene) (nowStarted : Bool) :
    Pending → List Call
  | .clean => []
  | .overlayOnly => if scene.volume.started then [.overlay s.overlay] else []
  | .relight => s.relightScript scene.volume
  | .rebuild => s.rebuildScript cascades scene nowStarted

theorem calls_activation (s : Settings) (wasStarted : Bool) (alive : Camera → Bool) :
    Effect.calls (s.activation wasStarted alive) =
      (if wasStarted then [.newSettings s.bounceCount s.anisotropic]
        else [.bind (s.liveCamera alive), .start s.bounceCount s.anisotropic])
      ++ [.build] ++ [.setActive true] := by
  cases wasStarted <;> rfl

end Settings

theorem CascadeStack.calls_effects (s : CascadeStack) :
    Effect.calls s.effects = s.entries.flatMap CascadeEntry.writes := by
  rw [effects, Effect.calls, List.filterMap_flatMap]
  rfl

theorem CascadeStack.mem_writes {s : CascadeStack} {c : Call}
    (inside : c ∈ s.entries.flatMap CascadeEntry.writes) :
    ∃ e ∈ s.entries, ∃ write, c = .cascade e.handle write :=
  mem_calls_effects (s.calls_effects ▸ inside)

theorem Settings.calls_rebuild (s : Settings) (cascades : CascadeStack) (scene : Scene)
    (nowStarted : Bool) :
    Effect.calls (s.rebuildEffects cascades scene.volume.started scene.holds ++
        s.afterRebuild scene.volume.started nowStarted) =
      s.rebuildScript cascades scene nowStarted := by
  have handed : Effect.calls (if scene.volume.started then [.call (.overlay .off)]
      else cascades.effects) = if scene.volume.started then [.overlay .off]
        else cascades.entries.flatMap CascadeEntry.writes := by
    cases scene.volume.started
    · exact cascades.calls_effects
    · rfl
  have switched : Effect.calls (if s.enabled then s.activation scene.volume.started scene.holds
      else [.call (.setActive false), .note .deactivated]) =
        (if s.enabled then
          (if scene.volume.started then [.newSettings s.bounceCount s.anisotropic]
            else [.bind (s.liveCamera scene.holds), .start s.bounceCount s.anisotropic]) ++ [.build]
          else []) ++ [.setActive s.enabled] := by
    cases s.enabled
    · rfl
    · exact s.calls_activation scene.volume.started scene.holds
  rw [rebuildEffects, Effect.calls_append, Effect.calls_append, Effect.calls_append, handed,
    switched, calls_afterRebuild, ← List.append_assoc]
  rfl

theorem Desk.calls_workEffects (d : Desk) (scene : Scene) :
    Effect.calls (d.workEffects scene) = d.settings.script d.cascades scene
      (scene.applyAll (Effect.calls (d.workEffects scene))).volume.started d.draft.pending := by
  cases owed : d.draft.pending with
  | clean => simp only [workEffects, owed, Effect.calls_nil, Settings.script]
  | overlayOnly =>
    simp only [workEffects, owed, Settings.script]
    exact d.settings.calls_overlayEffects scene.volume
  | relight =>
    simp only [workEffects, owed, Settings.script]
    exact d.settings.calls_relightEffects scene.volume
  | rebuild =>
    rw [applyAll_rebuild owed]
    simp only [workEffects, owed, Settings.script]
    exact d.settings.calls_rebuild d.cascades scene _

namespace Bench

theorem refreshIfRequested_scene (b : Bench) :
    b.refreshIfRequested.view.scene = b.view.scene := by
  unfold refreshIfRequested
  split
  · rw [view_adopt, View.adopt_scene, Desk.calls_refreshCameras]
    rfl
  · rfl

theorem refreshIfRequested_calls (b : Bench) :
    b.refreshIfRequested.view.calls =
      b.view.calls ++ if b.desk.refreshRequested then [.listCameras] else [] := by
  unfold refreshIfRequested
  split
  · rw [view_adopt, View.adopt_calls, Desk.calls_refreshCameras]
  · exact (List.append_nil _).symm

theorem refreshIfRequested_desk (b : Bench) :
    b.refreshIfRequested.view.desk.cascades = b.desk.cascades ∧
      b.refreshIfRequested.view.desk.draft =
        b.desk.draft.bindCamera b.refreshIfRequested.view.desk.settings.boundCamera := by
  unfold refreshIfRequested
  split
  · rw [view_adopt, View.adopt_desk, Desk.refreshCameras_state]
    exact ⟨rfl, rfl⟩
  · exact ⟨rfl, rfl⟩

/-- A tick lists the cameras if that was requested and then does the owed work, for settings of which
it changed no more than the wish for global illumination and the bound camera. -/
theorem tick_script (b : Bench) :
    let w := b.tick.1.view
    w.desk.cascades = b.desk.cascades ∧
      w.desk.settings = { b.desk.settings with
        enabled := w.desk.settings.enabled, boundCamera := w.desk.settings.boundCamera } ∧
      w.calls = b.view.calls ++ (if b.desk.refreshRequested then [.listCameras] else [])
        ++ w.desk.settings.script w.desk.cascades b.view.scene w.scene.volume.started
          b.desk.draft.pending := by
  -- before the work a tick lists the cameras and may give up the wish; each leaves the rest alone
  obtain ⟨v, conceded, worked⟩ := b.tick_concedes
  obtain ⟨cascades, draft⟩ := b.refreshIfRequested_desk
  have given := conceded.draft_eq
  have scene : v.scene = b.view.scene := conceded.scene_eq.trans b.refreshIfRequested_scene
  have calls := conceded.calls_eq.trans b.refreshIfRequested_calls
  have same_cascades : v.desk.cascades = b.desk.cascades :=
    (congrArg Desk.cascades conceded.desk_eq).trans cascades
  have owed : v.desk.draft.pending = b.desk.draft.pending := by
    have kept := congrArg Draft.pending given
    have listed := congrArg Draft.pending draft
    exact kept.trans listed
  have settings : v.desk.settings = { b.desk.settings with
      enabled := v.desk.settings.enabled, boundCamera := v.desk.settings.boundCamera } := by
    have kept := congrArg Draft.settings given
    have listed := congrArg Draft.settings draft
    simp only [Desk.settings] at kept listed ⊢
    rw [kept, listed]
    rfl
  dsimp only
  rw [worked]
  refine ⟨same_cascades, settings, ?_⟩
  rw [View.work_calls, calls, Desk.calls_workEffects, scene, owed]
  rw [View.work_scene, scene]
  rfl

end Bench

/-- At a volume under control a tick calls what its category of work consists of, and nothing else but
one listing of the cameras before it. The category is what was owed; the values are those that the desk
has after the tick, and whether the volume has started or is active is asked before the work, except for
the overlay that a rebuild shows at its end. Once the volume was let go, a tick calls nothing. -/
theorem Session.one_category_per_tick {c : Config} {s : Session} (begun : s.Begins c)
    {steps : List Session.Step} (obeys : (s.run steps).isOpen = true) :
    let t := s.run steps
    let u := (t.step (.command .tick)).1
    (∀ ref, t.desk.phase = .working ref →
      ∃ before after, t.renderer.scene? ref = some before ∧ u.renderer.scene? ref = some after ∧
        (t.step (.command .tick)).2 = .ticked ⟨.working ref, reported t.desk.draft.pending⟩ ∧
        u.desk.cascades = t.desk.cascades ∧
        u.desk.settings = { t.desk.settings with
          enabled := u.desk.settings.enabled, boundCamera := u.desk.settings.boundCamera } ∧
        u.outlet.calls = t.outlet.calls ++ (if t.desk.refreshRequested then [.listCameras] else [])
          ++ u.desk.settings.script u.desk.cascades before after.volume.started
            t.desk.draft.pending) ∧
      ∀ ref, t.desk.phase = .released ref →
        (t.step (.command .tick)).2 = .ticked ⟨.released ref, none⟩ ∧
          u.outlet.calls = t.outlet.calls := by
  intro t u
  have stepped : t.step (.command .tick) = (t.tick.1, .ticked ⟨t.tick.1.desk.phase, t.tick.2⟩) :=
    step_obeys obeys .tick
  have after : u = t.tick.1 := congrArg Prod.fst stepped
  refine ⟨fun ref working => ?_, fun ref released => ?_⟩
  · obtain ⟨v, here, _⟩ := (serves_run begun steps).held ref working
    obtain ⟨shown, did⟩ := here.ticked
    obtain ⟨cascades, settings, calls⟩ := (t.bench v.scene).tick_script
    refine ⟨v.scene, (t.bench v.scene).tick.1.view.scene, here.scene, ?_, ?_, ?_, ?_, ?_⟩
    · rw [after]
      exact shown.scene
    · rw [stepped, shown.phase, did, Bench.tick_reports]
      rfl
    · rw [after, shown.desk]
      exact cascades
    · rw [after, shown.desk]
      exact settings
    · rw [after, shown.desk, Outlet.calls, shown.deeds]
      exact calls
  · have idle : t.tick = ({ t with outlet := t.outlet.note .volumeMissing }, none) := by
      simp only [Session.tick, released]
    rw [after, stepped, idle]
    exact ⟨by rw [← released], Outlet.calls_of_deeds (Outlet.deeds_note ..)⟩

theorem Session.one_category_per_tick_takeover :
    let s := onOneScene { enabled := true, cascades := [{}] }
    let steps := [.command .tick, .outside (.scene "main" .takeOver),
      .command (.assign (.bounceCount 3)), .command .requestRefresh]
    (s.run steps).isOpen = true ∧ (s.run steps).desk.phase = .working 0 ∧
      ((s.run steps).step (.command .tick)).2 = .ticked ⟨.working 0, some .relight⟩ ∧
      ((s.run steps).step (.command .tick)).1.outlet.calls = (s.run steps).outlet.calls ++
        [.listCameras, .bounceCount 3, .highQuality true, .anisotropic true, .thinWallCounter .one,
          .conserveMemory false, .overlay .off] := by
  intro s steps
  have begun : s.Begins { enabled := true, cascades := [{}] } := onOneScene_begins _
  have obeys : (s.run steps).isOpen = true := by decide
  have working : (s.run steps).desk.phase = .working 0 := by decide
  have owed : (s.run steps).desk.draft.pending = .relight := by decide
  have asked : (s.run steps).desk.refreshRequested = true := by decide
  have volume : ((s.run steps).renderer.scene? 0).map (·.volume) =
      some { started := true, cascades := [⟨0, 0⟩], nextSerial := 1, builds := 1 } := by decide
  have values : ((s.run steps).step (.command .tick)).1.desk.settings =
      { bounceCount := 3, boundCamera := some ⟨0, "user_camera"⟩ } := by decide
  obtain ⟨works, _⟩ := one_category_per_tick begun obeys
  obtain ⟨before, _, there, _, did, _, _, calls⟩ := works 0 working
  rw [there] at volume
  have found : before.volume = _ := Option.some.inj volume
  rw [owed] at did
  rw [values, asked, owed] at calls
  refine ⟨obeys, working, did, ?_⟩
  rw [calls, List.append_assoc]
  simp only [Settings.script, Settings.relightScript, found]
  rfl

end VoxelGI
