import VoxelGI.Proofs.Announcements
import VoxelGI.Proofs.TickCalls

/-! A wish for global illumination at a volume that has not started. Its conditions are checked when it
is accepted, and once more by the tick that is to start the volume, after the cameras were listed if
that was requested. If they are no longer met the wish is dropped: the rest of the rebuild is done as
if it had never been there. -/
namespace VoxelGI

def Call.engages : Call → Bool
  | .bind _ | .start .. | .newSettings .. | .build => true
  | _ => false

/-- The camera that is bound in a tick at a scene: a listing that was requested may bind another
one. -/
def Desk.boundInTick (d : Desk) (scene : Scene) : Option Camera :=
  if d.refreshRequested then (d.settings.liveCamera scene.holds).or scene.cameras.head?
  else d.settings.boundCamera

/-- What a volume needs to be started in a tick: a cascade, and a bound camera that is alive. -/
def Desk.StartsInTick (d : Desk) (scene : Scene) : Prop :=
  d.cascades.entries ≠ [] ∧ ∃ camera, d.boundInTick scene = some camera ∧ scene.holds camera = true

namespace Settings

def restingScript (s : Settings) (cascades : CascadeStack) : List Call :=
  [.resolution s.resolution, .octantCount s.octantCount] ++ s.lightingWrites
    ++ cascades.entries.flatMap CascadeEntry.writes ++ [.setActive false]

theorem rebuildScript_off {s : Settings} (off : s.enabled = false) {scene : Scene}
    (idle : scene.volume.started = false) (cascades : CascadeStack) :
    s.rebuildScript cascades scene false = s.restingScript cascades := by
  simp [rebuildScript, restingScript, off, idle]

theorem restingScript_disengaged (s : Settings) (cascades : CascadeStack) (listing : Bool) :
    ∀ c ∈ (if listing then [Call.listCameras] else []) ++ s.restingScript cascades,
      c.engages = false := by
  have listed : ∀ c ∈ if listing then [Call.listCameras] else [], c.engages = false := by
    cases listing with
    | false => exact nofun
    | true => exact List.forall_mem_singleton.mpr rfl
  have handed : ∀ c ∈ cascades.entries.flatMap CascadeEntry.writes, c.engages = false := by
    intro c inside
    obtain ⟨_, _, _, rfl⟩ := CascadeStack.mem_writes inside
    rfl
  simp only [restingScript, lightingWrites, List.forall_mem_append, List.forall_mem_cons]
  exact ⟨listed, ⟨⟨⟨rfl, rfl, nofun⟩, rfl, rfl, rfl, rfl, rfl, nofun⟩, handed⟩, rfl, nofun⟩

theorem restingScript_deactivates (s : Settings) (cascades : CascadeStack) (listing : Bool) :
    ((if listing then [Call.listCameras] else []) ++ s.restingScript cascades).count
      (.setActive false) = 1 := by
  have handed : Call.setActive false ∉ cascades.entries.flatMap CascadeEntry.writes := by
    intro inside
    obtain ⟨_, _, _, other⟩ := CascadeStack.mem_writes inside
    contradiction
  cases listing <;>
    simp [restingScript, lightingWrites, List.count_eq_zero_of_not_mem handed]

end Settings

theorem Desk.workEffects_resting {d : Desk} (owed : d.draft.pending = .rebuild)
    (off : d.settings.enabled = false) {scene : Scene} (idle : scene.volume.started = false) :
    Effect.calls (d.workEffects scene) = d.settings.restingScript d.cascades ∧
      Effect.events (d.workEffects scene) = [] := by
  have resting : (scene.applyAll (Effect.calls (d.workEffects scene))).volume.started = false := by
    have status := congrArg Scene.Status.started (d.status_rebuild owed scene)
    simpa [Scene.status, off, idle] using status
  constructor
  · rw [calls_workEffects, resting, owed]
    exact Settings.rebuildScript_off off idle d.cascades
  · rw [events_workEffects, resting, idle]
    rfl

theorem Desk.workEffects_starting {d : Desk} (owed : d.draft.pending = .rebuild)
    (wanted : d.settings.enabled = true) {scene : Scene} (idle : scene.volume.started = false) :
    .bind (d.settings.liveCamera scene.holds) ∈ Effect.calls (d.workEffects scene) ∧
      .start d.settings.bounceCount d.settings.anisotropic ∈
        Effect.calls (d.workEffects scene) := by
  rw [calls_workEffects, owed]
  simp [Settings.script, Settings.rebuildScript, wanted, idle]

namespace Bench

variable {b : Bench}

theorem refreshIfRequested_deeds (b : Bench) :
    ∃ listed, b.refreshIfRequested.view.deeds = b.view.deeds ++ listed ∧
      listed.filterMap Entry.call? = (if b.desk.refreshRequested then [.listCameras] else []) ∧
      listed.filterMap Entry.event? =
        if b.desk.refreshRequested then [.cameraListChanged] else [] := by
  unfold refreshIfRequested
  split
  · rw [view_adopt, View.adopt_deeds]
    refine ⟨_, rfl, ?_, ?_⟩
    · rw [Effect.filterMap_call_deeds, Desk.calls_refreshCameras]
    · rw [Effect.filterMap_event_deeds, Desk.events_refreshCameras]
  · exact ⟨[], (List.append_nil _).symm, rfl, rfl⟩

theorem refreshIfRequested_bound (b : Bench) :
    b.refreshIfRequested.desk.settings.boundCamera = b.desk.boundInTick b.stage.scene := by
  unfold refreshIfRequested Desk.boundInTick
  split
  · exact b.desk.refreshCameras_bound b.stage.scene
  · rfl

theorem refreshIfRequested_pending (b : Bench) :
    b.refreshIfRequested.desk.draft.pending = b.desk.draft.pending :=
  b.refreshIfRequested_upkeep.2.1

theorem refreshIfRequested_settings (b : Bench) :
    b.refreshIfRequested.desk.settings =
      { b.desk.settings with boundCamera := b.desk.boundInTick b.stage.scene } := by
  have draft : b.refreshIfRequested.desk.draft =
      b.desk.draft.bindCamera b.refreshIfRequested.desk.settings.boundCamera :=
    b.refreshIfRequested_desk.2
  rw [b.refreshIfRequested_bound] at draft
  exact congrArg Draft.settings draft

theorem refreshIfRequested_wanted (b : Bench) (wanted : b.desk.settings.enabled = true) :
    b.refreshIfRequested.desk.settings.enabled = true := by
  rw [b.refreshIfRequested_settings]
  exact wanted

theorem refreshIfRequested_unmet (b : Bench) :
    b.refreshIfRequested.desk.unmet? b.stage.scene.holds = none ↔
      b.desk.StartsInTick b.stage.scene := by
  have cascades : b.refreshIfRequested.desk.cascades = b.desk.cascades :=
    b.refreshIfRequested_desk.1
  rw [Desk.unmet?, unmet?_eq_none_iff, Settings.liveCamera, b.refreshIfRequested_bound, cascades]
  refine and_congr ?_ ?_
  · rw [CascadeStack.size, ne_eq, List.length_eq_zero_iff]
  · rw [Option.isSome_iff_exists]
    exact exists_congr fun camera => Option.filter_eq_some_iff

theorem tick_rebuild (owed : b.desk.draft.pending = .rebuild) :
    b.tick.1.view = (b.refreshIfRequested.adopt
      (b.refreshIfRequested.desk.recheck b.stage.scene)).view.work := by
  have still := b.refreshIfRequested_pending.trans owed
  -- the rebuild itself decides what becomes of a takeover
  have prepared : b.prepare = b.refreshIfRequested := by
    unfold prepare
    rcases b.refreshIfRequested.desk.noticeDisabled_cases b.refreshIfRequested.volume with
      ⟨cheap, _⟩ | ⟨_, decided⟩
    · exact absurd still cheap
    · exact congrArg b.refreshIfRequested.adopt decided
  have here : b.refreshIfRequested.stage.scene = b.stage.scene := b.refreshIfRequested_scene
  rw [tick_eq, prepared, finish_rebuild _ still, here]

theorem tick_starts (owed : b.desk.draft.pending = .rebuild)
    (wanted : b.desk.settings.enabled = true) (idle : b.stage.scene.volume.started = false)
    (met : b.desk.StartsInTick b.stage.scene) :
    ∃ done, b.tick.1.view.deeds = b.view.deeds ++ done ∧
      (∃ camera, .bind camera ∈ done.filterMap Entry.call?) ∧
      ∃ bounces anisotropic, .start bounces anisotropic ∈ done.filterMap Entry.call? := by
  have startable := b.refreshIfRequested_unmet.mpr met
  have worked : b.tick.1.view = b.refreshIfRequested.view.work := by
    rw [tick_rebuild owed]
    rcases b.refreshIfRequested.desk.recheck_cases b.stage.scene with
      ⟨why, _, _, failed, _⟩ | ⟨_, decided⟩
    · exact absurd (startable.symm.trans failed) nofun
    · rw [decided]
      rfl
  obtain ⟨binds, starts⟩ := Desk.workEffects_starting (b.refreshIfRequested_pending.trans owed)
    (b.refreshIfRequested_wanted wanted) idle
  obtain ⟨listed, deeds, _, _⟩ := b.refreshIfRequested_deeds
  refine ⟨listed ++ Effect.deeds b.stage.scene.id
    (b.refreshIfRequested.desk.workEffects b.stage.scene), ?_, ?_⟩
  · rw [worked, View.work_deeds, deeds, b.refreshIfRequested_scene, List.append_assoc]
    rfl
  · rw [List.filterMap_append, Effect.filterMap_call_deeds]
    exact ⟨⟨_, List.mem_append_right _ binds⟩, _, _, List.mem_append_right _ starts⟩

theorem tick_drops (owed : b.desk.draft.pending = .rebuild)
    (wanted : b.desk.settings.enabled = true) (idle : b.stage.scene.volume.started = false)
    (unmet : ¬ b.desk.StartsInTick b.stage.scene) :
    b.tick.1.view.desk.draft = ⟨{ b.desk.settings with
        enabled := false, boundCamera := b.desk.boundInTick b.stage.scene }, .clean⟩ ∧
      ∃ done, b.tick.1.view.deeds = b.view.deeds ++ done ∧
        done.filterMap Entry.call? = (if b.desk.refreshRequested then [.listCameras] else [])
          ++ b.desk.settings.restingScript b.desk.cascades ∧
        done.filterMap Entry.event? =
          (if b.desk.refreshRequested then [.cameraListChanged] else [])
            ++ [.enabledChanged false] := by
  let dropped := { b.refreshIfRequested.desk with draft := b.refreshIfRequested.desk.draft.noteOff }
  obtain ⟨why, worked⟩ : ∃ why, b.tick.1.view = (b.refreshIfRequested.view.adopt dropped
      [.note (.enableDropped why), .publish (.enabledChanged false)]).work := by
    rw [tick_rebuild owed]
    rcases b.refreshIfRequested.desk.recheck_cases b.stage.scene with
      ⟨why, _, _, _, decided⟩ | ⟨startable, _⟩
    · exact ⟨why, by rw [decided, view_adopt]⟩
    · have met := startable (b.refreshIfRequested_wanted wanted) idle
      exact absurd (b.refreshIfRequested_unmet.mp met) unmet
  obtain ⟨calls, events⟩ := Desk.workEffects_resting (d := dropped)
    (b.refreshIfRequested_pending.trans owed) rfl idle
  have settings : dropped.settings = { b.desk.settings with
      enabled := false, boundCamera := b.desk.boundInTick b.stage.scene } :=
    congrArg (fun s : Settings => { s with enabled := false }) b.refreshIfRequested_settings
  have cascades : dropped.cascades = b.desk.cascades := b.refreshIfRequested_desk.1
  obtain ⟨listed, deeds, listed_calls, listed_events⟩ := b.refreshIfRequested_deeds
  refine ⟨?_, listed ++ .event (.enabledChanged false)
    :: Effect.deeds b.stage.scene.id (dropped.workEffects b.stage.scene), ?_, ?_, ?_⟩
  · rw [worked]
    exact congrArg (Draft.mk · .clean) settings
  · rw [worked, View.work_deeds, View.adopt_deeds, View.adopt_scene, deeds,
      b.refreshIfRequested_scene]
    simp
  · rw [List.filterMap_append, List.filterMap_cons, listed_calls]
    rw [Effect.filterMap_call_deeds, calls, settings, cascades]
    rfl
  · rw [List.filterMap_append, List.filterMap_cons, listed_events, Effect.filterMap_event_deeds,
      events]
    rfl

end Bench

namespace Session

/-- A tick that is to start the volume binds a camera and starts it exactly if there is a cascade and,
once the cameras were listed that were asked for, a bound camera that is alive. Otherwise it drops the
wish and tells the subscribers so; of the settings nothing else changes but the camera that the listing
may have bound. The volume is not engaged in any way and is made inactive once, the grids, the lighting
and the cascades are written, and the rebuild counts as done. -/
theorem enable_rechecked {t : Session} {ref : SceneRef} {scene : Scene} (obeys : t.isOpen = true)
    (working : t.desk.phase = .working ref) (there : t.renderer.scene? ref = some scene)
    (owed : t.desk.draft.pending = .rebuild) (wanted : t.desk.settings.enabled = true)
    (idle : scene.volume.started = false) :
    let u := t.step (.command .tick)
    ∃ done, u.1.outlet.deeds = t.outlet.deeds ++ done ∧
      let calls := done.filterMap Entry.call?
      ((∃ camera, .bind camera ∈ calls) ↔ t.desk.StartsInTick scene) ∧
        ((∃ bounces anisotropic, .start bounces anisotropic ∈ calls) ↔
          t.desk.StartsInTick scene) ∧
        (¬ t.desk.StartsInTick scene →
          u.2 = .ticked ⟨.working ref, some .rebuild⟩ ∧
            u.1.desk.draft = ⟨{ t.desk.settings with
              enabled := false, boundCamera := t.desk.boundInTick scene }, .clean⟩ ∧
            done.filterMap Entry.event? =
              (if t.desk.refreshRequested then [.cameraListChanged] else [])
                ++ [.enabledChanged false] ∧
            calls = (if t.desk.refreshRequested then [.listCameras] else [])
              ++ t.desk.settings.restingScript t.desk.cascades ∧
            (∀ c ∈ calls, c.engages = false) ∧ calls.count (.setActive false) = 1) := by
  intro u
  have here : t.Shows ref ⟨t.desk, scene, t.outlet.deeds⟩ := ⟨working, rfl, there, rfl⟩
  obtain ⟨shown, ticked⟩ := here.step_ticks obeys
  have reply : u.2 = .ticked ⟨.working ref, some .rebuild⟩ := by
    rw [ticked, Bench.tick_reports]
    exact congrArg (fun p => Reply.ticked ⟨.working ref, reported p⟩) owed
  by_cases met : t.desk.StartsInTick scene
  · obtain ⟨done, told, binds, starts⟩ :=
      Bench.tick_starts (b := t.bench scene) owed wanted idle met
    exact ⟨done, shown.deeds.trans told, iff_of_true binds met, iff_of_true starts met,
      fun unmet => absurd met unmet⟩
  · obtain ⟨draft, done, told, calls, events⟩ :=
      Bench.tick_drops (b := t.bench scene) owed wanted idle met
    have disengaged : ∀ c ∈ done.filterMap Entry.call?, c.engages = false := by
      rw [calls]
      exact Settings.restingScript_disengaged _ _ _
    have deactivated : (done.filterMap Entry.call?).count (.setActive false) = 1 := by
      rw [calls]
      exact Settings.restingScript_deactivates ..
    refine ⟨done, shown.deeds.trans told, iff_of_false ?_ met, iff_of_false ?_ met, fun _ => ⟨reply, ?_,
      events, calls, disengaged, deactivated⟩⟩
    · rintro ⟨camera, called⟩
      exact absurd (disengaged _ called) nofun
    · rintro ⟨bounces, anisotropic, called⟩
      exact absurd (disengaged _ called) nofun
    · rw [shown.desk]
      exact draft

/-- Global illumination is asked for, and the cameras are to be listed. If all of them die the wish is
dropped; if the bound one dies, the other one is bound and the volume is started. -/
theorem enable_rechecked_dead :
    let asked := (onOneScene { cascades := [{}] }).run
      [.command .tick, .command (.setEnabled true), .command .requestRefresh]
    let dead := (asked.step (.outside (.scene "main" .clearCameras))).1
    let rescued := (asked.step (.outside (.scene "main" (.removeCamera 0)))).1
    (∃ scene, dead.renderer.scene? 0 = some scene ∧ ¬ dead.desk.StartsInTick scene ∧
        (dead.step (.command .tick)).1.desk.draft = ⟨{}, .clean⟩) ∧
      ∃ scene done, rescued.renderer.scene? 0 = some scene ∧ rescued.desk.StartsInTick scene ∧
        (rescued.step (.command .tick)).1.outlet.deeds = rescued.outlet.deeds ++ done ∧
        ∃ camera, .bind camera ∈ done.filterMap Entry.call? := by
  intro asked dead rescued
  constructor
  · have looked : (dead.renderer.scene? 0).map
        (fun scene => (dead.desk.boundInTick scene, scene.volume.started)) = some (none, false) := by
      decide
    obtain ⟨scene, there, same⟩ := Option.map_eq_some_iff.mp looked
    obtain ⟨nobody, idle⟩ := Prod.mk.inj same
    have unmet : ¬ dead.desk.StartsInTick scene := by
      rintro ⟨_, camera, bound, _⟩
      exact absurd (nobody.symm.trans bound) nofun
    obtain ⟨_, _, _, _, dropped⟩ :=
      enable_rechecked (by decide) (by decide) there (by decide) (by decide) idle
    obtain ⟨_, draft, _⟩ := dropped unmet
    refine ⟨scene, there, unmet, draft.trans ?_⟩
    rw [nobody]
    decide
  · have looked : (rescued.renderer.scene? 0).map (fun scene => (rescued.desk.boundInTick scene,
        scene.holds ⟨1, "overhead"⟩, scene.volume.started)) =
          some (some ⟨1, "overhead"⟩, true, false) := by
      decide
    obtain ⟨scene, there, same⟩ := Option.map_eq_some_iff.mp looked
    obtain ⟨bound, rest⟩ := Prod.mk.inj same
    obtain ⟨living, idle⟩ := Prod.mk.inj rest
    have met : rescued.desk.StartsInTick scene := ⟨by decide, _, bound, living⟩
    obtain ⟨done, deeds, binds, _⟩ :=
      enable_rechecked (by decide) (by decide) there (by decide) (by decide) idle
    exact ⟨scene, done, there, met, deeds, binds.mpr met⟩

end Session

end VoxelGI
