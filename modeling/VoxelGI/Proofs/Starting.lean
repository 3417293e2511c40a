import VoxelGI.Proofs.Handover
import VoxelGI.Proofs.Origin

/-! Every start finds the engine configured. A volume is started by a rebuild, which writes all values
and hands the cascades over first and binds the camera last; so whatever was wanted or edited by then
reaches the engine in time, whether or not the start takes effect. -/
namespace VoxelGI

theorem Settings.preamble_idle (s : Settings) (cascades : CascadeStack) (wasStarted : Bool) :
    .start ∉ Effect.roles (s.rebuildPreamble cascades wasStarted) := by
  rw [roles_preamble]
  cases wasStarted with
  | true =>
    rw [if_pos rfl]
    decide
  | false =>
    intro inside
    rcases List.mem_append.mp inside with values | edits
    · simp at values
    · exact absurd (cascades.role_effects _ edits) nofun

theorem Desk.work_starts {d : Desk} {scene : Scene}
    (starts : .start ∈ Effect.roles (d.workEffects scene)) :
    d.draft.pending = .rebuild ∧ d.settings.enabled = true ∧ scene.volume.started = false := by
  by_cases owed : d.draft.pending = .rebuild
  · obtain ⟨now, roles⟩ := Desk.roles_rebuild owed scene
    rw [roles, List.append_assoc] at starts
    replace starts := (List.mem_append.mp starts).resolve_left (Settings.preamble_idle _ _ _)
    refine ⟨owed, ?_⟩
    revert starts
    cases d.settings.enabled <;> cases scene.volume.started <;> cases now <;> decide
  · refine absurd starts ?_
    unfold workEffects
    cases level : d.draft.pending with
    | rebuild => exact absurd level owed
    | clean => simp [Effect.roles]
    | overlayOnly =>
      simp only [Settings.roles_overlayEffects]
      cases scene.volume.started <;> decide
    | relight =>
      simp only [Settings.roles_relightEffects]
      cases scene.volume.active <;> cases scene.volume.started <;> decide

/-- The engine has what a desk wants it to start with at a scene, after these deeds. -/
structure Desk.Configured (d : Desk) (scene : Scene) (before : List Entry) : Prop where
  cascaded : d.cascades.entries ≠ []
  bound : ∃ camera, d.settings.boundCamera = some camera ∧ scene.holds camera = true ∧
    before.getLast? = some (.call scene.id (.bind (some camera)))
  grids : (written scene.id before).HasGrids d.settings
  lighting : (written scene.id before).HasLighting d.settings
  handed : d.cascades.HandedOver scene.id before

theorem Desk.configured_preamble {d : Desk} {scene : Scene}
    (met : d.unmet? scene.holds = none) (nodup : d.cascades.handles.Nodup) (ds : List Entry) :
    d.Configured scene (ds ++ Effect.deeds scene.id (d.settings.rebuildPreamble d.cascades false ++
      [.call (.bind (d.settings.liveCamera scene.holds))])) := by
  obtain ⟨some_there, live⟩ := (unmet?_eq_none_iff ..).mp met
  obtain ⟨camera, lives⟩ := Option.isSome_iff_exists.mp live
  obtain ⟨wanted, alive⟩ := Option.filter_eq_some_iff.mp lives
  obtain ⟨grids, lighting⟩ :=
    Written.has_rebuildPreamble (written scene.id ds) d.settings d.cascades false
  have bind_writes (w : Written) : w.notes (Effect.calls
      [.call (.bind (d.settings.liveCamera scene.holds))]) = w := rfl
  refine ⟨fun none_there => some_there ?_, ⟨camera, wanted, alive, ?_⟩, ?_, ?_, ?_⟩
  · rw [CascadeStack.size, none_there]
    rfl
  · simp [lives]
  · rw [written_append, Effect.calls_append, Written.notes_append, bind_writes]
    exact grids
  · rw [written_append, Effect.calls_append, Written.notes_append, bind_writes]
    exact lighting
  · rw [Effect.deeds_append, ← List.append_assoc]
    refine (CascadeStack.HandedOver.preamble nodup d.settings ds).append ?_
    change .cascade ∉ [Role.bind]
    decide

/-- A call that starts a volume is made right when the engine is configured. -/
theorem View.work_start {v : View} (ready : v.Ready) (distinct : v.Distinct) {id : String}
    {bounces : UInt32} {anisotropic : Bool} {first last : List Entry}
    (does : Effect.deeds v.scene.id (v.desk.workEffects v.scene) =
      first ++ .call id (.start bounces anisotropic) :: last) :
    id = v.scene.id ∧ bounces = v.desk.settings.bounceCount ∧
      anisotropic = v.desk.settings.anisotropic ∧
      v.desk.Configured v.scene (v.deeds ++ first) := by
  have done : .call id (.start bounces anisotropic) ∈
      Effect.deeds v.scene.id (v.desk.workEffects v.scene) := by
    simp [does]
  obtain ⟨owed, wanted, idle⟩ := Desk.work_starts (Effect.mem_roles_of_deeds done)
  obtain ⟨now, effects⟩ := Desk.workEffects_building owed wanted v.scene
  -- there is one start in the work, so what comes before it is the preamble and the bind
  have never (es : List Effect) (idle : .start ∉ Effect.roles es) :
      .call id (.start bounces anisotropic) ∉ Effect.deeds v.scene.id es :=
    fun inside => idle (Effect.mem_roles_of_deeds inside)
  have before := never (v.desk.settings.rebuildPreamble v.desk.cascades false ++
      [.call (.bind (v.desk.settings.liveCamera v.scene.holds))]) (by
    rw [Effect.roles_append, List.mem_append]
    refine not_or.mpr ⟨Settings.preamble_idle _ _ _, ?_⟩
    change .start ∉ [Role.bind]
    decide)
  have after := never (.call .build :: .call (.setActive true) :: .note .rebuilt ::
      v.desk.settings.afterRebuild false now) (by
    change .start ∉ .use :: .free :: Effect.roles (v.desk.settings.afterRebuild false now)
    rw [Settings.roles_afterRebuild]
    cases now <;> decide)
  rw [effects, idle] at does
  have split : Effect.deeds v.scene.id (v.desk.settings.rebuildPreamble v.desk.cascades false ++
      [.call (.bind (v.desk.settings.liveCamera v.scene.holds))]) ++
      .call v.scene.id (.start v.desk.settings.bounceCount v.desk.settings.anisotropic) ::
        Effect.deeds v.scene.id (.call .build :: .call (.setActive true) :: .note .rebuilt ::
          v.desk.settings.afterRebuild false now) =
      first ++ .call id (.start bounces anisotropic) :: last := by
    rw [← does]
    simp [Settings.summons]
  obtain ⟨rfl, same, _⟩ := (List.append_cons_inj_of_notMem before after).mp split
  cases same
  exact ⟨rfl, rfl, rfl,
    Desk.configured_preamble (ready.startable owed wanted idle) distinct.nodup v.deeds⟩

theorem View.configured_work {v : View} {ds : List Entry} (h : v.desk.Configured v.scene ds) :
    v.work.desk.Configured v.work.scene ds := by
  have id : v.work.scene.id = v.scene.id := Scene.applyAll_id ..
  have alive : v.work.scene.holds = v.scene.holds := Scene.applyAll_holds ..
  refine ⟨h.cascaded, ?_, ?_, ?_, ?_⟩
  · rw [id, alive]
    exact h.bound
  · rw [id]
    exact h.grids
  · rw [id]
    exact h.lighting
  · rw [id]
    exact h.handed

namespace Session

/-- Every start of a run was made by a tick, right when the engine was configured as the desk of that
tick wants it: its work leaves the settings and the cascades as they are. -/
theorem starts_configured {c : Config} {s : Session} (begun : s.Begins c)
    {steps : List Session.Step} {before later : List Entry} {id : String} {bounces : UInt32}
    {anisotropic : Bool}
    (started : (s.run steps).outlet.deeds =
      before ++ .call id (.start bounces anisotropic) :: later) :
    ∃ earlier rest ref scene, steps = earlier ++ .command .tick :: rest ∧
      let t := s.run (earlier ++ [.command .tick])
      (s.run earlier).outlet.deeds <+: before ∧
        before ++ [.call id (.start bounces anisotropic)] <+: t.outlet.deeds ∧
        t.desk.phase = .working ref ∧ t.renderer.scene? ref = some scene ∧ scene.id = id ∧
        bounces = t.desk.settings.bounceCount ∧ anisotropic = t.desk.settings.anisotropic ∧
        t.desk.Configured scene before := by
  have start : s.Upholds (fun d _ => d.cascades = {}) View.Distinct := .begins begun rfl
  have older : s.outlet.deeds <+: before := begun.deeds ▸ List.nil_prefix
  obtain ⟨earlier, rest, ref, w, split, distinct, made⟩ :=
    distinct_custody.work_origin (s.onTerms_any steps) start rfl older started
  obtain ⟨first, last, rfl, does⟩ := made.does
  obtain ⟨rfl, rfl, rfl, configured⟩ := View.work_start made.ready distinct does
  refine ⟨earlier, rest, ref, w.work.scene, split, made.since.trans (List.prefix_append ..), ?_,
    made.shown.phase, made.shown.scene, ?_, ?_⟩
  · rw [made.shown.deeds, View.work_deeds, does, List.append_assoc]
    exact (List.prefix_append_right_inj _).mpr
      ((List.prefix_append_right_inj _).mpr (List.singleton_append ▸ List.prefix_append ..))
  · simp
  · rw [made.shown.desk]
    exact ⟨rfl, rfl, View.configured_work configured⟩

theorem starts_configured_edited :
    let s := onOneScene { cascades := [{}] }
    let steps := [.command .tick, .command (.updateCascade 0 CascadeSettings.next),
      .command (.setEnabled true), .command (.updateCascade 0 CascadeSettings.next),
      .command (.assign (.bounceCount 3)), .command .tick]
    ∃ before later,
      (s.run steps).outlet.deeds = before ++ .call "main" (.start 3 true) :: later ∧
        ∃ earlier rest scene, steps = earlier ++ .command .tick :: rest ∧
          (s.run (earlier ++ [.command .tick])).desk.Configured scene before := by
  intro s steps
  have begun : s.Begins { cascades := [{}] } := onOneScene_begins _
  let other (e : Entry) : Bool := e ≠ .call "main" (.start 3 true)
  have started : (s.run steps).outlet.deeds = (s.run steps).outlet.deeds.takeWhile other ++
      .call "main" (.start 3 true) :: ((s.run steps).outlet.deeds.dropWhile other).tail := by
    decide +kernel
  obtain ⟨earlier, rest, _, scene, split, _, _, _, _, _, _, _, configured⟩ :=
    starts_configured begun started
  exact ⟨_, _, started, earlier, rest, scene, split, configured⟩

end Session

end VoxelGI
