import VoxelGI.Proofs.Freshness
import VoxelGI.Proofs.Lifecycle
import VoxelGI.Proofs.OffRequest
import VoxelGI.Proofs.Rechecking

/-! The plan that a configuration has for the first volume. The tick that takes the volume over appends
the cascades one by one, each starting from what follows the one before, and then asks for global
illumination; no tick does either again. -/
namespace VoxelGI

@[simp] theorem CascadeOverride.length_unfold (start : CascadeSettings)
    (os : List CascadeOverride) : (unfold start os).length = os.length := by
  induction os generalizing start with
  | nil => rfl
  | cons o rest ih => exact congrArg (· + 1) (ih _)

def CascadeStack.following (s : CascadeStack) : CascadeSettings :=
  match s.entries.getLast? with
  | none => {}
  | some e => e.settings.next

theorem CascadeStack.following_concat (entries : List CascadeEntry) (e : CascadeEntry) :
    following ⟨entries ++ [e]⟩ = e.settings.next := by
  simp [following]

theorem CascadeStack.edit_concat (entries : List CascadeEntry) (e : CascadeEntry)
    (change : CascadeSettings → CascadeSettings) :
    edit ⟨entries ++ [e]⟩ entries.length change =
      ⟨entries ++ [{ e with settings := change e.settings }]⟩ := by
  induction entries with
  | nil => rfl
  | cons first rest ih =>
    simp only [edit, mk.injEq, List.cons_append, List.length_cons, List.modify_succ_cons] at ih ⊢
    rw [ih]

namespace Desk

variable {d : Desk} {v : Volume}

theorem addCascade_appends (idle : v.started = false) :
    (d.addCascade (some v)).state.cascades = ⟨d.cascades.entries ++ [d.cascades.nextEntry v]⟩ := by
  simp [addCascade, CascadeStack.add, CascadeStack.guard, idle]

theorem updateCascade_last (idle : v.started = false) {entries : List CascadeEntry}
    {e : CascadeEntry} (held : d.cascades = ⟨entries ++ [e]⟩)
    (change : CascadeSettings → CascadeSettings) :
    (d.updateCascade (some v) (d.cascades.size - 1) change).state.cascades =
      ⟨entries ++ [{ e with settings := change e.settings }]⟩ := by
  have last : d.cascades.size - 1 = entries.length := by simp [held, CascadeStack.size]
  have inside : entries.length < d.cascades.size := by simp [held, CascadeStack.size]
  rw [last, ← CascadeStack.edit_concat, ← held]
  simp [updateCascade, CascadeStack.update, CascadeStack.guard, idle, inside]

end Desk

namespace Bench

variable {b : Bench}

theorem addConfigured_volume_started (b : Bench) (o : CascadeOverride) :
    (b.addConfigured o).volume.started = b.volume.started :=
  congrArg Scene.Status.started (b.addConfigured_moves o).status

theorem addConfigured_cascades (idle : b.volume.started = false) (o : CascadeOverride) :
    (b.addConfigured o).desk.cascades =
      ⟨b.desk.cascades.entries
        ++ [⟨o.apply b.desk.cascades.following, b.volume.nextHandle⟩]⟩ := by
  have answer := (b.desk.addCascade_idle idle).2
  have still_idle : (b.adopt (b.desk.addCascade (some b.volume))).volume.started = false := by
    have adding : View.Move b.view (b.adopt (b.desk.addCascade (some b.volume))).view := by
      rw [view_adopt]
      exact .command Desk.addCascade_move
    exact (congrArg Scene.Status.started adding.status).trans idle
  unfold addConfigured
  simp only [answer]
  exact Desk.updateCascade_last still_idle (Desk.addCascade_appends idle) o.apply

theorem foldl_addConfigured_settings (idle : b.volume.started = false)
    (os : List CascadeOverride) :
    (os.foldl addConfigured b).desk.cascades.settings =
      b.desk.cascades.settings ++ CascadeOverride.unfold b.desk.cascades.following os := by
  -- each override starts from what follows the list so far, so the bench varies
  induction os generalizing b with
  | nil => exact (List.append_nil _).symm
  | cons o rest ih =>
    have still_idle := (b.addConfigured_volume_started o).trans idle
    rw [List.foldl_cons, ih still_idle, addConfigured_cascades idle,
      CascadeStack.following_concat]
    simp [CascadeStack.settings, CascadeOverride.unfold]

theorem fill_settings (idle : b.volume.started = false) (plan : StartupPlan) :
    (b.fill plan).desk.cascades.settings = b.desk.cascades.settings ++
      CascadeOverride.unfold b.desk.cascades.following plan.cascades := by
  let opened := b.perform [.call (.participants .everything), .note .volumeCreated]
  let filled := plan.cascades.foldl addConfigured opened
  have listed : (b.fill plan).desk.cascades = filled.desk.cascades :=
    filled.desk.refreshCameras_cascades filled.stage.scene
  rw [listed]
  exact foldl_addConfigured_settings (b := opened) idle plan.cascades

theorem enableAtStartup_cascades (b : Bench) (enable : Bool) :
    (b.enableAtStartup enable).desk.cascades = b.desk.cascades := by
  have asked : (b.desk.setEnabled b.stage.scene.holds true).state.cascades = b.desk.cascades := by
    unfold Desk.setEnabled
    split <;> rfl
  unfold enableAtStartup
  cases enable with
  | false => rfl
  | true =>
    simp only [if_true]
    split <;> exact asked

theorem setUp_settings (idle : b.volume.started = false) (plan : StartupPlan) :
    (b.setUp plan).desk.cascades.settings = b.desk.cascades.settings ++
      CascadeOverride.unfold b.desk.cascades.following plan.cascades := by
  rw [setUp_eq, enableAtStartup_cascades]
  exact fill_settings idle plan

theorem setUp_status (b : Bench) (plan : StartupPlan) :
    (b.setUp plan).view.scene.status = b.view.scene.status :=
  (b.setUp_moves plan).status.trans (b.fill_moves plan).status

end Bench

theorem View.Concedes.wanted {v w : View} (h : v.Concedes w)
    (still : w.desk.settings.enabled = true) : v.desk.settings.enabled = true := by
  cases h with
  | keeps => exact still
  | drops wanted => exact wanted

theorem View.Upkeep.cascades {v w : View} (u : Upkeep v w) :
    w.desk.cascades = v.desk.cascades := by
  cases u with
  | refresh => exact Desk.refreshCameras_cascades ..
  | notice | drop => rfl

theorem View.Upkeeps.cascades {v w : View} (us : Upkeeps v w) :
    w.desk.cascades = v.desk.cascades :=
  us.keep (P := fun u => u.desk.cascades = v.desk.cascades) (fun _ _ u h => u.cascades.trans h) rfl

theorem View.Granted.work_activates {v : View} (h : v.Granted)
    (created : Terms.dependable.created v.scene) :
    v.work.scene.volume.started = true ∧ v.work.scene.volume.active = true := by
  have starts : v.scene.startWorks = true := congrArg Scene.Status.startWorks created
  have activates : v.scene.activationWorks = true := congrArg Scene.Status.activationWorks created
  have status := v.desk.status_rebuild h.owed v.scene
  have started := congrArg Scene.Status.started status
  have active := congrArg Scene.Status.active status
  simp only [h.wanted, starts, activates, Bool.and_self, Bool.or_true, if_true] at started active
  exact ⟨started, active⟩

theorem View.work_equips {v : View} (owed : v.desk.draft.pending = .rebuild)
    (wanted : v.desk.settings.enabled = true) (idle : v.scene.volume.started = false)
    (inStep : v.InStep) :
    v.work.scene.volume.cascades.length = v.desk.cascades.size ∧
      ∀ (i : Nat) handle, v.work.scene.volume.cascades[i]? = some handle →
        ∃ settings, v.desk.cascades.settings[i]? = some settings ∧
          (writtenTo v.work.scene.id handle v.work.deeds).Has settings := by
  have same : v.desk.cascades.handles = v.work.scene.volume.cascades :=
    (inStep.restocked v.work_restocks).same
  have id : v.work.scene.id = v.scene.id := Scene.applyAll_id ..
  obtain ⟨_, _, handed⟩ := work_builds owed wanted inStep.nodup
    fun started => absurd (idle.symm.trans started) nofun
  constructor
  · rw [← same]
    exact List.length_map _
  · intro i handle here
    rw [← same, CascadeStack.handles, List.getElem?_map] at here
    obtain ⟨e, there, rfl⟩ := Option.map_eq_some_iff.mp here
    refine ⟨e.settings, ?_, ?_⟩
    · rw [CascadeStack.settings, List.getElem?_map, there]
      rfl
    · rw [id]
      exact handed e (List.mem_of_getElem? there)

/-- An entry that a wish for global illumination to be turned on may leave in the journal, be it accepted
or refused. -/
def Entry.wishes : Entry → Bool
  | .event (.enabledChanged true) | .notice (.cannotEnable _) | .notice .startupEnableRefused => true
  | _ => false

def Effect.wishes : Effect → Bool
  | .publish (.enabledChanged true) | .note (.cannotEnable _) | .note .startupEnableRefused => true
  | _ => false

def Outlet.wishes (o : Outlet) : List Entry := o.journal.filter Entry.wishes

theorem Narration.ofCall_spoken {volume : Volume} {c : Call} {n : Notice}
    (said : Narration.ofCall volume c = some n) : ∃ level line, n = .spoken level line := by
  unfold ofCall at said
  split at said <;> first | contradiction | exact ⟨_, _, (Option.some.inj said).symm⟩

namespace Outlet

theorem wishes_record {o : Outlet} {entries : List Entry}
    (others : ∀ e ∈ entries, e.wishes = false) : (o.record entries).wishes = o.wishes := by
  have none_there : entries.filter Entry.wishes = [] := by
    simpa [List.filter_eq_nil_iff] using others
  rw [wishes, record, List.filter_append, none_there, List.append_nil]
  rfl

theorem wishes_publish {o : Outlet} {e : Event} (other : e ≠ .enabledChanged true) :
    (o.publish e).wishes = o.wishes := by
  refine wishes_record (o := { o with events := o.events.publish e }) ?_
  rw [List.forall_mem_cons, List.forall_mem_map]
  constructor
  · cases e with
    | enabledChanged enabled => cases enabled <;> first | rfl | exact absurd rfl other
    | cameraListChanged | cascadesEditableChanged => rfl
  · intro n told
    obtain ⟨delivery, _, noted⟩ := List.mem_filterMap.mp told
    cases delivery <;> first | contradiction | (cases noted; rfl)

end Outlet

namespace Stage

theorem wishes_perform1 {st : Stage} {e : Effect} (other : e.wishes = false) :
    (st.perform1 e).outlet.wishes = st.outlet.wishes := by
  cases e with
  | call c =>
    refine Outlet.wishes_record ?_
    rw [List.forall_mem_cons, List.forall_mem_map]
    refine ⟨rfl, fun n told => ?_⟩
    split at told
    · obtain ⟨_, _, rfl⟩ := Narration.ofCall_spoken (Option.mem_toList.mp told)
      rfl
    · contradiction
  | publish e =>
    refine Outlet.wishes_publish ?_
    rintro rfl
    contradiction
  | note n =>
    refine Outlet.wishes_record ?_
    rw [List.forall_mem_singleton]
    cases n <;> first | rfl | contradiction

theorem wishes_perform {st : Stage} {es : List Effect} (others : ∀ e ∈ es, e.wishes = false) :
    (st.perform es).outlet.wishes = st.outlet.wishes := by
  induction es generalizing st with
  | nil => rfl
  | cons e rest ih =>
    rw [List.forall_mem_cons] at others
    exact (ih others.2).trans (wishes_perform1 others.1)

end Stage

namespace Settings

variable (s : Settings)

theorem rebuildEffects_unwishing (cascades : CascadeStack) (wasStarted : Bool)
    (alive : Camera → Bool) :
    ∀ e ∈ s.rebuildEffects cascades wasStarted alive, e.wishes = false := by
  have handed : ∀ e ∈ cascades.effects, e.wishes = false := by
    simp only [CascadeStack.effects, CascadeEntry.effects, List.mem_flatMap, List.mem_map]
    rintro _ ⟨_, _, _, _, rfl⟩
    rfl
  simp only [rebuildEffects, List.forall_mem_append]
  refine ⟨⟨⟨?_, ?_⟩, ?_⟩, ?_⟩
  · simp [gridCalls, Effect.wishes]
  · simp [lightingCalls, Effect.wishes]
  · split
    · simp [Effect.wishes]
    · exact handed
  · unfold activation
    cases s.enabled <;> cases wasStarted <;> simp [Effect.wishes]

theorem afterRebuild_unwishing (wasStarted nowStarted : Bool) :
    ∀ e ∈ s.afterRebuild wasStarted nowStarted, e.wishes = false := by
  cases wasStarted <;> cases nowStarted <;> simp [afterRebuild, overlayCall, Effect.wishes]

theorem relightEffects_unwishing (volume : Volume) :
    ∀ e ∈ s.relightEffects volume, e.wishes = false := by
  unfold relightEffects
  cases volume.active <;> cases volume.started <;>
    simp [lightingCalls, overlayCall, Effect.wishes]

theorem overlayEffects_unwishing (volume : Volume) :
    ∀ e ∈ s.overlayEffects volume, e.wishes = false := by
  unfold overlayEffects
  cases volume.started <;> simp [overlayCall, Effect.wishes]

end Settings

namespace Desk

theorem refreshCameras_unwishing (d : Desk) (scene : Scene) :
    ∀ e ∈ (d.refreshCameras scene).effects, e.wishes = false := by
  unfold refreshCameras Roster.refresh
  dsimp only
  split
  · simp [Effect.wishes]
  · cases Roster.first? _ _ <;> simp [Effect.wishes]

theorem noticeDisabled_unwishing (d : Desk) (volume : Volume) :
    ∀ e ∈ (d.noticeDisabled volume).effects, e.wishes = false := by
  rcases d.noticeDisabled_cases volume with ⟨_, _, _, decided⟩ | ⟨_, decided⟩ <;> rw [decided]
  · simp [Effect.wishes]
  · simp

theorem recheck_unwishing (d : Desk) (scene : Scene) :
    ∀ e ∈ (d.recheck scene).effects, e.wishes = false := by
  rcases d.recheck_cases scene with ⟨_, _, _, _, decided⟩ | ⟨_, decided⟩ <;> rw [decided]
  · simp [Effect.wishes]
  · simp

end Desk

namespace Bench

def wishes (b : Bench) : List Entry := b.stage.outlet.wishes

variable {b : Bench}

theorem wishes_perform {es : List Effect} (others : ∀ e ∈ es, e.wishes = false) :
    (b.perform es).wishes = b.wishes :=
  Stage.wishes_perform others

theorem wishes_adopt {r : Decision Desk α} (others : ∀ e ∈ r.effects, e.wishes = false) :
    (b.adopt r).wishes = b.wishes :=
  Stage.wishes_perform others

theorem wishes_refreshIfRequested (b : Bench) : b.refreshIfRequested.wishes = b.wishes := by
  unfold refreshIfRequested
  split
  · exact wishes_adopt (b.desk.refreshCameras_unwishing b.stage.scene)
  · rfl

theorem wishes_rebuild (b : Bench) : b.rebuild.wishes = b.wishes :=
  (wishes_perform (Settings.afterRebuild_unwishing _ _ _)).trans
    ((wishes_perform (Settings.rebuildEffects_unwishing _ _ _ _)).trans
      (wishes_adopt (b.desk.recheck_unwishing b.stage.scene)))

theorem wishes_work (b : Bench) (owed : Pending) : (b.work owed).wishes = b.wishes := by
  cases owed with
  | clean => rfl
  | overlayOnly => exact wishes_perform (b.desk.settings.overlayEffects_unwishing b.volume)
  | relight => exact wishes_perform (b.desk.settings.relightEffects_unwishing b.volume)
  | rebuild => exact b.wishes_rebuild

theorem tick_tends (b : Bench) :
    b.tick.1.view.desk.cascades = b.desk.cascades ∧
      (b.tick.1.view.desk.settings.enabled = true → b.desk.settings.enabled = true) ∧
      ∃ called, b.tick.1.view.calls = b.view.calls ++ called ∧
        ∀ c ∈ called, c.restocks = false := by
  obtain ⟨v, conceded, worked⟩ := b.tick_concedes
  refine ⟨b.tick_script.1, fun on => ?_, ?_⟩
  · rw [worked] at on
    have before : b.refreshIfRequested.desk.settings.enabled = true := conceded.wanted on
    rwa [b.refreshIfRequested_settings] at before
  · rw [worked, View.work_calls, conceded.calls_eq, b.refreshIfRequested_calls, List.append_assoc]
    refine ⟨_, rfl, ?_⟩
    rw [List.forall_mem_append]
    refine ⟨?_, Desk.workEffects_keep _ _⟩
    split <;> simp [Call.restocks]

theorem wishes_tick (b : Bench) : b.tick.1.wishes = b.wishes := by
  have prepared : b.prepare.wishes = b.wishes :=
    (wishes_adopt (b.refreshIfRequested.desk.noticeDisabled_unwishing _)).trans
      b.wishes_refreshIfRequested
  have noted (p : Pending) : ∀ e ∈ [Effect.note (.applied p)], e.wishes = false := by
    simp [Effect.wishes]
  rw [tick_eq, ← prepared]
  unfold finish
  split
  · rfl
  · exact (wishes_perform (noted _)).trans (b.prepare.wishes_work _)

end Bench

namespace Session

variable {c : Config} {s : Session} {ref : SceneRef} {scene : Scene}

theorem step_opens {plan : StartupPlan} (waiting : s.desk.phase = .waiting plan)
    (taken : (s.step (.command .tick)).1.desk.phase = .working ref) :
    s.isOpen = true ∧ ∃ scene, s.renderer.discover.found = some (ref, scene) ∧
      scene.supportsGi = true := by
  rcases s.step_phase (.command .tick) with
    same | ⟨_, obeys, _, ref', scene, _, offered, ends⟩ | ⟨_, _, working, _⟩
  · exact absurd (waiting.symm.trans (same.symm.trans taken)) nofun
  · rw [taken] at ends
    cases supported : scene.supportsGi with
    | false => simp [supported] at ends
    | true =>
      obtain rfl : ref = ref' := by simpa [supported] using ends
      exact ⟨obeys, scene, Renderer.discover_found_iff.mpr offered, supported⟩
  · exact absurd (waiting.symm.trans working) nofun

/-- The state of a tick that takes over a volume, before its work: the cascades are those of the
configuration, and if it starts up, global illumination can be turned on. -/
theorem tick_opens (serves : s.Serves c) {plan : StartupPlan} (waiting : s.desk.phase = .waiting plan)
    (found : s.renderer.discover.found = some (ref, scene)) (supported : scene.supportsGi = true)
    (pristine : Terms.pristine.created scene) :
    ∃ w : View, w.InStep ∧ w.scene.status = scene.status ∧ (s.StartsUp c → w.Granted) ∧
      w.desk.cascades.settings = CascadeOverride.unfold {} c.cascades ∧
      s.tick.1.Shows ref w.work ∧ s.tick.2 = reported w.desk.draft.pending := by
  have unused := serves.free (by rw [waiting]; rfl) plan waiting
  have same : plan = ⟨c.cascades, c.enabled⟩ := Phase.waiting.inj (waiting.symm.trans unused.plan)
  have ticking : s.tick = s.firstTick plan := by simp only [tick, waiting]
  have opened : View.InStep (s.opening ref scene) :=
    inStep_custody.opens waiting unused.cascades pristine.2
  have idle : (s.taken ref scene).volume.started = false :=
    congrArg Scene.Status.started pristine.1
  have empty : (s.taken ref scene).desk.cascades = {} := unused.cascades
  obtain ⟨w, upkeep, _, shown, did⟩ := firstTick_supported plan found supported
  refine ⟨w, inStep_custody.moves_keep upkeep.moves (inStep_custody.sets_up opened plan), ?_, ?_, ?_,
    ticking ▸ shown, ticking ▸ did⟩
  · exact upkeep.moves.status.trans ((s.taken ref scene).setUp_status plan)
  · intro starts
    obtain ⟨ref', scene', found', _, idle', cameras⟩ := starts.ready
    have met := (taken_unmet serves waiting ref' scene').mpr ⟨starts.cascades, idle', cameras⟩
    obtain ⟨rfl, rfl⟩ := Prod.mk.inj (Option.some.inj (found.symm.trans found'))
    have enable : plan.enable = true := (congrArg StartupPlan.enable same).trans starts.wanted
    exact upkeep.keep (fun _ _ u => u.granted) (Bench.setUp_granted enable met)
  · rw [upkeep.cascades]
    refine (Bench.setUp_settings idle plan).trans ?_
    rw [empty, same]
    rfl

theorem off_while_waiting (begun : s.Begins c) (steps : List Step) {plan : StartupPlan}
    (waiting : (s.run steps).desk.phase = .waiting plan) :
    (s.run steps).desk.settings.enabled = false := by
  have bare := bare_custody.run (s.onTerms_any steps)
    (.begins begun fun _ => ⟨rfl, rfl⟩)
  exact (bare.free (by rw [waiting]; rfl) (by rw [waiting]; rfl)).2

/-- The tick that takes over a volume starts up exactly if the configuration asks for global
illumination and has a cascade, and the scene lists a camera. -/
theorem startsUp_iff (obeys : s.isOpen = true) {plan : StartupPlan}
    (waiting : s.desk.phase = .waiting plan)
    (found : s.renderer.discover.found = some (ref, scene)) (supported : scene.supportsGi = true)
    (idle : scene.volume.started = false) :
    s.StartsUp c ↔ c.enabled = true ∧ c.cascades ≠ [] ∧ scene.cameras ≠ [] := by
  constructor
  · intro starts
    obtain ⟨ref', scene', found', _, _, cameras⟩ := starts.ready
    obtain ⟨rfl, rfl⟩ := Prod.mk.inj (Option.some.inj (found.symm.trans found'))
    exact ⟨starts.wanted, starts.cascades, cameras⟩
  · rintro ⟨wanted, cascades, cameras⟩
    exact ⟨obeys, ⟨plan, waiting⟩, wanted, cascades, ref, scene, found, supported, idle, cameras⟩

theorem enabled_iff_startsUp (begun : s.Begins c) {before : List Step} {plan : StartupPlan}
    (waiting : (s.run before).desk.phase = .waiting plan) (obeys : (s.run before).isOpen = true) :
    (s.run before).tick.1.desk.settings.enabled = true ↔ (s.run before).StartsUp c := by
  have serves := serves_run begun before
  refine ⟨fun on => ?_, tick_starts_up serves⟩
  by_contra quiet
  have off := (tick_off serves (off_while_waiting begun before waiting) obeys quiet).1
  exact absurd (on.symm.trans off) nofun

theorem wishes_tick (settled : s.desk.Settled) : s.tick.1.outlet.wishes = s.outlet.wishes := by
  have noted (n : Notice) (other : Entry.wishes (.notice n) = false) :
      (s.outlet.note n).wishes = s.outlet.wishes :=
    Outlet.wishes_record (by simpa using other)
  unfold Session.tick
  split
  · rfl
  · exact noted _ rfl
  · rename_i plan waiting
    exact absurd waiting (settled plan)
  · split
    · exact (s.bench _).wishes_tick
    · rfl

structure Tends (s : Session) (t : Session) (reply : Reply) : Prop where
  cascades : t.desk.cascades = s.desk.cascades
  calls : ∃ called, t.outlet.calls = s.outlet.calls ++ called ∧ ∀ k ∈ called, k.restocks = false
  wanted : t.desk.settings.enabled = true → s.desk.settings.enabled = true
  owed : ∀ phase work, reply = .ticked ⟨phase, some work⟩ → s.desk.draft.pending = work
  wishes : t.outlet.wishes = s.outlet.wishes

theorem tick_tends (settled : s.desk.Settled) :
    s.Tends (s.step (.command .tick)).1 (s.step (.command .tick)).2 := by
  cases obeys : s.isOpen with
  | false =>
    rw [step_closed obeys]
    exact ⟨rfl, ⟨[], (List.append_nil _).symm, by simp⟩, id, by simp [Command.unheard], rfl⟩
  | true =>
    rw [step_obeys obeys, obey_ticks]
    have unwished := wishes_tick settled
    have ticks := s.ticks
    generalize did : s.tick.2 = report at ticks ⊢
    cases ticks with
    | idle _ desk deeds =>
      refine ⟨congrArg Desk.cascades desk, ⟨[], ?_, by simp⟩, fun on => desk ▸ on, by simp,
        unwished⟩
      rw [Outlet.calls_of_deeds deeds, List.append_nil]
    | withdraws waiting | opens _ _ _ waiting => exact absurd waiting (settled _)
    | works here =>
      obtain ⟨shown, reports⟩ := here.ticked
      obtain ⟨cascades, wanted, called, appended, keep⟩ := (s.bench _).tick_tends
      refine ⟨?_, ⟨called, ?_, keep⟩, ?_, ?_, unwished⟩
      · rw [shown.desk]
        exact cascades
      · rw [Outlet.calls, shown.deeds]
        exact appended
      · rw [shown.desk]
        exact wanted
      · intro phase work answer
        have done := congrArg TickReport.applied (Reply.ticked.inj answer)
        rw [← did, reports, Bench.tick_reports] at done
        exact reported_eq_some done

/-- The tick that takes over a new volume carries out what the configuration plans. The cascades are
those that its overrides describe, and global illumination is wanted exactly if it asks for it, has a
cascade, and the scene lists a camera; then the same tick starts the volume and makes it active, with
the cascades in the engine. Whatever happens after it, no tick appends a cascade, and none asks for
global illumination again. -/
theorem startup_plan (begun : s.Begins c) {before : List Step} {plan : StartupPlan}
    (waiting : (s.run before).desk.phase = .waiting plan)
    (there : (s.run before).renderer.scene? ref = some scene)
    (pristine : Terms.pristine.created scene)
    (taken : ((s.run before).step (.command .tick)).1.desk.phase = .working ref) :
    let u := (s.run before).step (.command .tick)
    u.1.desk.cascades.settings = CascadeOverride.unfold {} c.cascades ∧
      u.1.desk.cascades.size = c.cascades.length ∧
      (u.1.desk.settings.enabled = true ↔
        c.enabled = true ∧ c.cascades ≠ [] ∧ scene.cameras ≠ []) ∧
      (u.1.desk.settings.enabled = true →
        u.2 = .ticked ⟨.working ref, some .rebuild⟩ ∧
          ∃ after, u.1.renderer.scene? ref = some after ∧
            after.volume.started = true ∧ after.volume.active = true ∧
            after.volume.cascades.length = c.cascades.length ∧
            ∀ (i : Nat) handle, after.volume.cascades[i]? = some handle →
              ∃ settings, (CascadeOverride.unfold {} c.cascades)[i]? = some settings ∧
                (writtenTo after.id handle u.1.outlet.deeds).Has settings) ∧
      ∀ later,
        let v := u.1.run later
        v.Tends (v.step (.command .tick)).1 (v.step (.command .tick)).2 := by
  intro u
  obtain ⟨obeys, found_scene, found, supported⟩ := step_opens waiting taken
  obtain rfl : found_scene = scene :=
    Option.some.inj ((Renderer.scene?_of_discover found).symm.trans there)
  have serves := serves_run begun before
  have stepped : u = ((s.run before).tick.1,
      .ticked ⟨(s.run before).tick.1.desk.phase, (s.run before).tick.2⟩) := step_obeys obeys .tick
  have after : u.1 = (s.run before).tick.1 := congrArg Prod.fst stepped
  have idle : found_scene.volume.started = false := congrArg Scene.Status.started pristine.1
  have starts_up := startsUp_iff (c := c) obeys waiting found supported idle
  obtain ⟨w, inStep, status, granted, cascades, shown, did⟩ :=
    tick_opens serves waiting found supported pristine
  have enabled : u.1.desk.settings.enabled = true ↔
      c.enabled = true ∧ c.cascades ≠ [] ∧ found_scene.cameras ≠ [] := by
    rw [after, ← starts_up]
    exact enabled_iff_startsUp begun waiting obeys
  have settings : u.1.desk.cascades.settings = CascadeOverride.unfold {} c.cascades := by
    rw [after, shown.desk]
    exact cascades
  have size : u.1.desk.cascades.size = c.cascades.length := by
    rw [← CascadeOverride.length_unfold {} c.cascades, ← settings]
    exact (List.length_map _).symm
  refine ⟨settings, size, enabled, fun on => ?_, fun later => ?_⟩
  · -- the wish was granted in the set-up, so the work of this same tick is the rebuild at `w`
    have granted := granted (starts_up.mpr (enabled.mp on))
    obtain ⟨started, active⟩ := granted.work_activates (status.trans pristine.1)
    obtain ⟨length, equipped⟩ := View.work_equips granted.owed granted.wanted
      ((congrArg Scene.Status.started status).trans idle) inStep
    refine ⟨?_, w.work.scene, ?_, started, active, ?_, ?_⟩
    · rw [stepped, shown.phase, did, granted.owed]
      rfl
    · rw [after]
      exact shown.scene
    · rw [length, ← size, after, shown.desk]
      rfl
    · rw [after, shown.deeds, ← cascades]
      exact equipped
  · have settled : u.1.desk.Settled := fun plan still => nomatch taken.symm.trans still
    have serves_on : u.1.Serves c :=
      (unused_custody c).step ((s.run before).onTerms_any [.command .tick]).1 serves
    exact tick_tends (run_settled serves_on settled later)

theorem startup_plan_two :
    let c : Config := { enabled := true, cascades := [{ octantCount := some ⟨2, 2, 2⟩ }, {}] }
    let before : List Step := [.command .addCascade, .command (.assign (.bounceCount 3))]
    (((onOneScene c).run before).step (.command .tick)).1.desk.cascades.settings =
        [{ octantCount := ⟨2, 2, 2⟩ }, CascadeSettings.next { octantCount := ⟨2, 2, 2⟩ }] ∧
      (((onOneScene c).run before).step (.command .tick)).1.desk.settings.enabled = true ∧
      (((onOneScene c).run before).step (.command .tick)).2 =
        .ticked ⟨.working 0, some .rebuild⟩ ∧
      ∃ after, (((onOneScene c).run before).step (.command .tick)).1.renderer.scene? 0 = some after ∧
        after.volume.started = true ∧ after.volume.active = true ∧
        after.volume.cascades.length = 2 := by
  intro c before
  have waiting : ((onOneScene c).run before).desk.phase = .waiting ⟨c.cascades, true⟩ := by decide
  have there : ((onOneScene c).run before).renderer.scene? 0 = some (Scene.create "main" {}) := by
    decide
  have pristine : Terms.pristine.created (Scene.create "main" {}) := ⟨rfl, rfl⟩
  have taken : (((onOneScene c).run before).step (.command .tick)).1.desk.phase = .working 0 := by
    decide
  obtain ⟨settings, _, enabled, starts, _⟩ :=
    startup_plan (onOneScene_begins c) waiting there pristine taken
  have on := enabled.mpr ⟨rfl, by decide, by decide⟩
  obtain ⟨reply, after, here, started, active, length, _⟩ := starts on
  exact ⟨settings, on, reply, after, here, started, active, length⟩

end Session

end VoxelGI
