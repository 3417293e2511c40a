import VoxelGI.Proofs.Agreement
import VoxelGI.Proofs.Handover

/-! What the engine computed from. Values that are written have no effect until the scene is voxelised
or lit again; from the latest of these calls on, whatever is wanted otherwise is covered by the work
that is owed. Rebuilds of a volume that is not wanted and discarded relights voxelise and light
nothing, so this is about a volume that is wanted. -/
namespace VoxelGI

def Call.builds : Call → Bool
  | .build => true
  | _ => false

/-- Whether a call computes the lighting, which voxelising does as well. -/
def Call.lights : Call → Bool
  | .build | .lightingChanged => true
  | _ => false

theorem Call.builds_of_lights {c : Call} (dark : c.lights = false) : c.builds = false := by
  cases c <;> first | rfl | contradiction

theorem Call.lights_of_chore {c : Call} (chore : c.isChore = true) : c.lights = false := by
  cases c <;> first | rfl | contradiction

/-- The latest call of a kind, made at the scene with an identifier, came right after these deeds. -/
def Latest (id : String) (kind : Call → Bool) (before ds : List Entry) : Prop :=
  ∃ c later, ds = before ++ .call id c :: later ∧ kind c = true ∧
    ∀ d ∈ later.filterMap Entry.call?, kind d = false

namespace Latest

variable {id : String} {kind : Call → Bool} {before ds : List Entry}

theorem append {more : List Entry} (h : Latest id kind before ds)
    (others : ∀ c ∈ more.filterMap Entry.call?, kind c = false) :
    Latest id kind before (ds ++ more) := by
  obtain ⟨c, later, rfl, here, last⟩ := h
  refine ⟨c, later ++ more, by simp, here, ?_⟩
  rw [List.filterMap_append, List.forall_mem_append]
  exact ⟨last, others⟩

theorem deeds {es : List Effect} (h : Latest id kind before ds)
    (others : ∀ c ∈ Effect.calls es, kind c = false) :
    Latest id kind before (ds ++ Effect.deeds id es) :=
  h.append (by simpa using others)

theorem now {c : Call} (here : kind c = true) (ds : List Entry) (first : List Effect)
    {rest : List Effect} (others : ∀ d ∈ Effect.calls rest, kind d = false) :
    Latest id kind (ds ++ Effect.deeds id first)
      (ds ++ Effect.deeds id (first ++ .call c :: rest)) :=
  ⟨c, Effect.deeds id rest, by simp, here, by simpa using others⟩

end Latest

def Written.mix (grids lighting : Written) : Written :=
  { lighting with resolution := grids.resolution, octantCount := grids.octantCount }

namespace Desk

/-- A volume is wanted, and not to be built again. -/
def Current (d : Desk) : Prop := d.settings.enabled = true ∧ d.draft.pending ≠ .rebuild

/-- The scene was last voxelised with the grids and the cascades that are wanted. -/
structure BuiltFrom (d : Desk) (id : String) (ds before : List Entry) : Prop where
  latest : Latest id Call.builds before ds
  grids : (written id before).HasGrids d.settings
  handed : d.cascades.HandedOver id before

structure LitFrom (d : Desk) (id : String) (ds before : List Entry) : Prop where
  latest : Latest id Call.lights before ds
  lighting : (written id before).HasLighting d.settings

/-- What the scene was not voxelised with, or not lit with, is covered by the work that is owed. -/
structure Follows (d : Desk) (id : String) (ds built lit : List Entry) : Prop where
  builds : Latest id Call.builds built ds
  lights : Latest id Call.lights lit ds
  covers : d.draft.Covers ((written id built).mix (written id lit)) false
  handed : d.cascades.HandedOver id built

def Fresh (d : Desk) (id : String) (ds : List Entry) : Prop :=
  d.Current → ∃ built lit, d.Follows id ds built lit

variable {d d' : Desk} {id : String} {ds built lit : List Entry}

theorem Follows.builtFrom (h : d.Follows id ds built lit) (current : d.Current) :
    d.BuiltFrom id ds built :=
  ⟨h.builds, h.covers.hasGrids current.2, h.handed⟩

theorem Follows.litFrom (h : d.Follows id ds built lit) (current : d.Current)
    (lighted : d.draft.pending ≠ .relight) : d.LitFrom id ds lit := by
  refine ⟨h.lights, h.covers.hasLighting fun owed => ?_⟩
  exact ((Pending.relight_le_iff _).mp owed).elim lighted current.2

theorem Follows.later {more : List Entry} (h : d.Follows id ds built lit)
    (covers : d'.draft.Covers ((written id built).mix (written id lit)) false)
    (same : d'.cascades = d.cascades) (dark : ∀ c ∈ more.filterMap Entry.call?, c.lights = false) :
    d'.Follows id (ds ++ more) built lit where
  builds := h.builds.append fun c called => Call.builds_of_lights (dark c called)
  lights := h.lights.append dark
  covers := covers
  handed := same ▸ h.handed

theorem Follows.settle (h : d.Follows id ds built lit) (current : d.Current)
    (lighted : d.draft.pending ≠ .relight) :
    d.draft.settle.Covers ((written id built).mix (written id lit)) false :=
  ⟨fun missing => absurd (h.builtFrom current).grids missing,
    fun missing => absurd (h.litFrom current lighted).lighting missing, nofun⟩

theorem fresh_of_off (off : d.settings.enabled = false) : d.Fresh id ds :=
  fun current => absurd (off.symm.trans current.1) nofun

theorem Fresh.computed (h : d.Fresh id ds) (current : d.Current) :
    (∃ built, d.BuiltFrom id ds built) ∧
      (d.draft.pending ≠ .relight → ∃ lit, d.LitFrom id ds lit) := by
  obtain ⟨built, lit, follows⟩ := h current
  exact ⟨⟨built, follows.builtFrom current⟩, fun lighted => ⟨lit, follows.litFrom current lighted⟩⟩

theorem Fresh.let_go (h : d.Fresh id ds) (phase : Phase) :
    ({ d with cascades := {}, phase := phase } : Desk).Fresh id ds := by
  intro current
  obtain ⟨built, lit, follows⟩ := h current
  exact ⟨built, lit, follows.builds, follows.lights, follows.covers,
    by simp [CascadeStack.HandedOver]⟩

variable {alive : Camera → Bool} {volume : Option Volume} {es : List Effect}

theorem Move.current (m : Move alive volume d es d') (current : d'.Current) : d.Current := by
  cases m with
  | assign a =>
    refine ⟨(d.draft.assign_enabled a).symm.trans current.1, fun owed => current.2 ?_⟩
    exact Draft.assign_rebuild owed a
  | wish enabled => exact absurd (Pending.mark_rebuild_right d.draft.pending) current.2
  | stay | miss | append | remove | edit | request | bind => exact current

theorem Move.frozen (m : Move alive volume d es d')
    (frozen : ∀ v, volume = some v → v.started = true) : d'.cascades = d.cascades := by
  cases m with
  | append v here idle | remove v here idle | edit v here idle =>
    exact absurd (idle.symm.trans (frozen v here)) nofun
  | stay | miss | assign | wish | request | bind => rfl

theorem work_frozen (d : Desk) {scene : Scene} (running : scene.volume.started = true) :
    .cascade ∉ Effect.roles (d.workEffects scene) := by
  by_cases owed : d.draft.pending = .rebuild
  · obtain ⟨now, roles⟩ := Desk.roles_rebuild owed scene
    rw [roles, Settings.roles_preamble, running, if_pos rfl]
    cases d.settings.enabled <;> cases now <;> decide
  · unfold workEffects
    cases level : d.draft.pending with
    | rebuild => exact absurd level owed
    | clean => simp [Effect.roles]
    | overlayOnly =>
      simp only [Settings.roles_overlayEffects, running]
      decide
    | relight =>
      simp only [Settings.roles_relightEffects, running]
      cases scene.volume.active <;> decide

end Desk

/-- Terms on which a volume is created idle and without cascades, calls take effect, and outsiders
can do no more than make the volume inactive. -/
def Terms.pristine : Terms where
  created := fun s => Terms.dependable.created s ∧ Terms.bare.created s
  meddled := Terms.dependable.meddled

namespace View

/-- A rebuild voxelises with what is wanted, for which it hands the cascades over in time. -/
theorem work_builds {v : View} (owed : v.desk.draft.pending = .rebuild)
    (wanted : v.desk.settings.enabled = true) (nodup : v.desk.cascades.handles.Nodup)
    (handed : v.scene.volume.started = true → v.desk.cascades.HandedOver v.scene.id v.deeds) :
    ∃ built, v.work.desk.Follows v.scene.id v.work.deeds built built ∧
      v.desk.cascades.HandedOver v.scene.id v.work.deeds := by
  obtain ⟨now, effects⟩ := Desk.workEffects_building owed wanted v.scene
  let first := v.desk.settings.rebuildPreamble v.desk.cascades v.scene.volume.started ++
    v.desk.settings.summons v.scene.volume.started v.scene.holds
  let rest := Effect.call (.setActive true) :: .note .rebuilt ::
    v.desk.settings.afterRebuild v.scene.volume.started now
  have deeds : v.work.deeds =
      v.deeds ++ Effect.deeds v.scene.id (first ++ .call .build :: rest) := by
    rw [work_deeds, effects]
  have dark : ∀ c ∈ Effect.calls rest, c.lights = false := by
    simp only [rest, Effect.calls_call, Effect.calls_note, Settings.calls_afterRebuild]
    cases now <;> simp [Call.lights]
  have ready : v.desk.cascades.HandedOver v.scene.id (v.deeds ++ Effect.deeds v.scene.id first) :=
    .summoned nodup handed v.desk.settings v.scene.holds
  refine ⟨v.deeds ++ Effect.deeds v.scene.id first, ⟨?_, ?_, ?_, ready⟩, ?_⟩
  · rw [deeds]
    exact .now rfl _ _ fun c called => Call.builds_of_lights (dark c called)
  · rw [deeds]
    exact .now rfl _ _ dark
  · rw [written_append]
    obtain ⟨grids, lighting⟩ := Written.has_summons (VoxelGI.written v.scene.id v.deeds)
      v.desk.settings v.desk.cascades v.scene.volume.started v.scene.holds
    exact ⟨fun missing => absurd grids missing, fun missing => absurd lighting missing,
      fun started => absurd started Bool.false_ne_true⟩
  · rw [deeds, Effect.deeds_append, ← List.append_assoc]
    refine ready.append ?_
    change .cascade ∉ .use :: .free :: Effect.roles (v.desk.settings.afterRebuild _ now)
    rw [Settings.roles_afterRebuild]
    cases now <;> decide

/-- Work short of a rebuild lights the scene again if the lighting is not as it is wanted. -/
theorem work_follows {v : View} {built lit : List Entry} (ready : v.Ready)
    (current : v.desk.Current) (h : v.desk.Follows v.scene.id v.deeds built lit) :
    ∃ lit', v.work.desk.Follows v.scene.id v.work.deeds built lit' := by
  by_cases owed : v.desk.draft.pending = .relight
  · let first := v.desk.settings.lightingCalls ++ [.call (.overlay .off)]
    -- a takeover would have been noticed by now
    have active := ready.reflected current.2 current.1
    have deeds : v.work.deeds = v.deeds ++ Effect.deeds v.scene.id
        (first ++ .call .lightingChanged :: [v.desk.settings.overlayCall]) := by
      simp [first, Desk.workEffects, owed, Settings.relightEffects, active]
    refine ⟨v.deeds ++ Effect.deeds v.scene.id first, ?_, ?_,
      ⟨?_, ?_, fun started => absurd started Bool.false_ne_true⟩, h.handed⟩
    · rw [deeds]
      refine h.builds.deeds ?_
      simp [first, Settings.lightingCalls, Settings.overlayCall, Call.builds]
    · rw [deeds]
      exact .now rfl _ _ (by simp [Settings.overlayCall, Call.lights])
    · exact fun missing => absurd (h.builtFrom current).grids missing
    · rw [written_append, Effect.calls_append, Written.notes_append, Written.notes_lightingCalls]
      exact fun missing => absurd ⟨rfl, rfl, rfl, rfl, rfl⟩ missing
  · -- at most the overlay is shown
    have dark : ∀ c ∈ Effect.calls (v.desk.workEffects v.scene), c.lights = false := by
      unfold Desk.workEffects
      cases level : v.desk.draft.pending with
      | rebuild => exact absurd level current.2
      | relight => exact absurd level owed
      | overlayOnly =>
        rw [Settings.calls_overlayEffects]
        split <;> simp [Call.lights]
      | clean => simp
    exact ⟨lit, h.later (h.settle current owed) rfl (by simpa using dark)⟩

theorem Move.current {v w : View} (m : Move v w) (current : w.desk.Current) : v.desk.Current := by
  cases m with
  | command m => exact m.current current
  | upkeep u =>
    cases u with
    | refresh =>
      refine ⟨(v.desk.refreshCameras_enabled v.scene).symm.trans current.1, fun owed => ?_⟩
      exact current.2 ((v.desk.refreshCameras_pending v.scene).trans owed)
    | notice | drop => exact absurd current.1 nofun

theorem Move.frozen {v w : View} (m : Move v w) (running : v.scene.volume.started = true) :
    w.desk.cascades = v.desk.cascades := by
  cases m with
  | command m =>
    refine m.frozen fun u here => ?_
    cases here
    exact running
  | upkeep u =>
    cases u with
    | refresh => exact Desk.refreshCameras_cascades ..
    | notice | drop => rfl

theorem Move.roles {v w : View} (m : Move v w) (running : v.scene.volume.started = true) :
    ∃ es, w = v.adopt w.desk es ∧ .cascade ∉ Effect.roles es ∧
      ∀ c ∈ Effect.calls es, c.isChore = true := by
  cases m with
  | command m =>
    refine ⟨_, rfl, fun inside => ?_, m.chores⟩
    obtain ⟨c, called, role⟩ := List.mem_map.mp inside
    exact absurd (running.symm.trans (m.idle c called role _ rfl)) nofun
  | upkeep u =>
    cases u with
    | refresh =>
      refine ⟨_, rfl, ?_⟩
      rw [Effect.roles, Desk.calls_refreshCameras]
      exact ⟨by decide, by simp [Call.isChore]⟩
    | notice | drop => exact ⟨_, rfl, by simp [Effect.roles], by simp⟩

structure Tended (v : View) : Prop where
  sound : v.Sound
  inStep : v.InStep
  handed : v.scene.volume.started = true → v.desk.cascades.HandedOver v.scene.id v.deeds
  running : v.desk.Current → v.scene.volume.started = true
  fresh : v.desk.Fresh v.scene.id v.deeds

theorem Tended.move {v w : View} (m : Move v w) (h : v.Tended) : w.Tended := by
  have started : w.scene.volume.started = v.scene.volume.started :=
    congrArg Scene.Status.started m.status
  refine ⟨h.sound.of_status m.status, h.inStep.restocked m.restocks, fun running => ?_,
    fun current => started.trans (h.running (m.current current)), fun current => ?_⟩
  · have before := started.symm.trans running
    obtain ⟨es, same, roles, _⟩ := m.roles before
    rw [m.frozen before, same, adopt_scene, Scene.applyAll_id, adopt_deeds]
    exact (h.handed before).append roles
  · -- what was built stays built, since the cascades of a started volume are frozen
    have before := m.current current
    have running := h.running before
    obtain ⟨built, lit, follows⟩ := h.fresh before
    obtain ⟨es, same, _, chores⟩ := m.roles running
    have after : w.desk.Follows v.scene.id (v.deeds ++ Effect.deeds v.scene.id es) built lit :=
      follows.later (m.covers follows.covers) (m.frozen running)
        (by simpa using fun c called => Call.lights_of_chore (chores c called))
    rw [same, adopt_scene, Scene.applyAll_id, adopt_deeds]
    exact ⟨built, lit, after⟩

theorem Tended.work {v : View} (ready : v.Ready) (h : v.Tended) : v.work.Tended := by
  have id : v.work.scene.id = v.scene.id := Scene.applyAll_id ..
  have frozen (running : v.scene.volume.started = true) :
      v.desk.cascades.HandedOver v.scene.id v.work.deeds :=
    (h.handed running).append (v.desk.work_frozen running)
  by_cases owed : v.desk.draft.pending = .rebuild
  · have started : v.work.scene.volume.started =
        (v.scene.volume.started || (v.desk.settings.enabled && v.scene.startWorks)) :=
      congrArg Scene.Status.started (Desk.status_rebuild owed v.scene)
    cases wanted : v.desk.settings.enabled with
    | false =>
      -- the values are written without building, which does not matter while it is off
      rw [wanted, Bool.false_and, Bool.or_false] at started
      refine ⟨h.sound.work, h.inStep.restocked v.work_restocks, fun running => ?_,
        fun current => absurd (wanted.symm.trans current.1) nofun, Desk.fresh_of_off wanted⟩
      rw [id]
      exact frozen (started.symm.trans running)
    | true =>
      obtain ⟨built, follows, handed⟩ := work_builds owed wanted h.inStep.nodup h.handed
      rw [wanted, h.sound.startable, Bool.true_and, Bool.or_true] at started
      refine ⟨h.sound.work, h.inStep.restocked v.work_restocks, fun _ => ?_, fun _ => started,
        fun _ => ⟨built, built, ?_⟩⟩
      · rw [id]
        exact handed
      · rw [id]
        exact follows
  · have still : v.work.scene = v.scene := Desk.applyAll_workEffects owed v.scene
    refine ⟨h.sound.work, h.inStep.restocked v.work_restocks, ?_, ?_, fun current => ?_⟩
    · rw [still]
      exact frozen
    · rw [still]
      exact fun current => h.running ⟨current.1, owed⟩
    · obtain ⟨built, lit, follows⟩ := h.fresh ⟨current.1, owed⟩
      rw [still]
      exact ⟨built, work_follows ready ⟨current.1, owed⟩ follows⟩

theorem Tended.undergone {v : View} (h : v.Tended) {event : SceneEvent}
    (kept : Terms.dependable.meddled v.scene (v.scene.undergo event)) :
    Tended { v with scene := v.scene.undergo event } := by
  have started : (v.scene.undergo event).volume.started = v.scene.volume.started := by
    rcases kept with same | silenced
    · exact congrArg Scene.Status.started same
    · exact congrArg Scene.Status.started silenced
  have id := v.scene.undergo_id event
  refine ⟨sound_custody.meddles event kept h.sound, h.inStep.undergone event, ?_, ?_, ?_⟩ <;>
    dsimp only
  · rw [id, started]
    exact h.handed
  · rw [started]
    exact h.running
  · rw [id]
    exact h.fresh

end View

structure Desk.Untended (d : Desk) (ds : List Entry) : Prop where
  empty : d.cascades = {}
  off : (∀ ref, d.phase ≠ .released ref) → d.settings.enabled = false
  fresh : ∃ id, d.Fresh id ds

namespace Desk

variable {d d' : Desk} {ds : List Entry}

theorem Untended.released (h : d.Untended ds) (wanted : d.settings.enabled = true) :
    ∃ ref, d.phase = .released ref := by
  refine Classical.byContradiction fun never => ?_
  rw [h.off fun ref here => never ⟨ref, here⟩] at wanted
  contradiction

theorem Untended.move {alive : Camera → Bool} {es : List Effect} (h : d.Untended ds)
    (m : Move alive none d es d') : d'.Untended (ds ++ Effect.announcements es) := by
  have empty := m.stays_empty h.empty
  refine ⟨empty, fun never => ?_, ?_⟩
  · have off := h.off (m.phase_eq ▸ never)
    cases m with
    | wish enabled met =>
      cases enabled with
      | false => rfl
      | true => exact absurd (congrArg CascadeStack.size h.empty) ((unmet?_eq_none_iff ..).mp (met rfl)).1
    | assign a => exact (d.draft.assign_enabled a).trans off
    | append _ here | remove _ here | edit _ here => contradiction
    | stay | miss | request | bind => exact off
  · obtain ⟨id, fresh⟩ := h.fresh
    refine ⟨id, fun current => ?_⟩
    obtain ⟨built, lit, follows⟩ := fresh (m.current current)
    exact ⟨built, lit, follows.later (follows.covers.command m) (empty.trans h.empty.symm) (by simp)⟩

end Desk

theorem tended_custody : Custody .pristine Desk.Untended View.Tended where
  waits _ _ m h := h.move m
  withdraws _ waiting h := by
    have off := h.off (by simp [waiting])
    exact ⟨h.empty, fun _ => off, "", Desk.fresh_of_off off⟩
  opens waiting h created := by
    have off := h.off (by simp [waiting])
    refine ⟨sound_custody.opens waiting True.intro created.1,
      inStep_custody.opens waiting h.empty created.2, fun running => ?_,
      fun current => absurd (off.symm.trans current.1) nofun, Desk.fresh_of_off off⟩
    have idle := congrArg Scene.Status.started created.1
    exact absurd (idle.symm.trans running) nofun
  announces editable h := by
    refine ⟨sound_custody.announces editable h.sound, inStep_custody.announces editable h.inStep,
      fun running => (h.handed running).append (by simp [Effect.roles]), h.running, fun current => ?_⟩
    obtain ⟨built, lit, follows⟩ := h.fresh current
    exact ⟨built, lit, follows.later follows.covers rfl (by simp [Entry.call?])⟩
  moves m h := h.move m
  works ready h := h.work ready
  meddles _ kept h := h.undergone kept
  releases {v ref} _ h :=
    ⟨rfl, fun never => absurd rfl (never ref), v.scene.id, h.fresh.let_go (.released ref)⟩
  empties {d ds} _ h := by
    obtain ⟨id, fresh⟩ := h.fresh
    exact ⟨rfl, h.off, id, fresh.let_go d.phase⟩

namespace Session

/-- While a volume is wanted and no rebuild is owed, the scene was last voxelised with the grids and
the cascades that are wanted, and unless a relight is owed it was last lit as it is wanted. The volume
under control has started, and its cascades are those of the desk. -/
theorem active_is_fresh {c : Config} {s : Session} (begun : s.Begins c) {steps : List Session.Step}
    (terms : s.OnTerms .pristine steps) (wanted : (s.run steps).desk.settings.enabled = true)
    (unbuilt : (s.run steps).desk.draft.pending ≠ .rebuild) :
    ∃ id, (∃ built, (s.run steps).desk.BuiltFrom id (s.run steps).outlet.deeds built) ∧
      ((s.run steps).desk.draft.pending ≠ .relight →
        ∃ lit, (s.run steps).desk.LitFrom id (s.run steps).outlet.deeds lit) ∧
      (∀ ref, (s.run steps).desk.phase = .working ref →
        ∃ scene, (s.run steps).renderer.scene? ref = some scene ∧ scene.id = id ∧
          scene.volume.started = true ∧
          (s.run steps).desk.cascades.handles = scene.volume.cascades) ∧
      ∃ ref, (s.run steps).desk.phase.home? = some ref := by
  have start : s.Upholds Desk.Untended View.Tended :=
    .begins begun ⟨rfl, fun _ => rfl, "", Desk.fresh_of_off rfl⟩
  have current : (s.run steps).desk.Current := ⟨wanted, unbuilt⟩
  have holds := tended_custody.run terms start
  rcases holds.cases with none_here | ⟨ref, v, here, tended⟩
  · -- the volume was let go while it was wanted
    have untended := holds.free none_here
    obtain ⟨id, fresh⟩ := untended.fresh
    obtain ⟨built, lit⟩ := fresh.computed current
    obtain ⟨ref, released⟩ := untended.released wanted
    rw [released]
    exact ⟨id, built, lit, nofun, ref, rfl⟩
  · have phase := here.phase
    rw [here.desk] at current phase ⊢
    obtain ⟨built, lit⟩ := tended.fresh.computed current
    rw [here.deeds, phase]
    refine ⟨v.scene.id, built, lit, fun ref' working => ?_, ref, rfl⟩
    obtain rfl : ref = ref' := Phase.working.inj working
    exact ⟨v.scene, here.scene, rfl, tended.running current, tended.inStep.same⟩

theorem active_is_fresh_relit :
    let s := onOneScene { enabled := true, cascades := [{}] }
    let steps := [.command .tick, .command (.assign (.bounceCount 3)), .command .tick,
      .command (.assign (.overlay .lighting))]
    s.OnTerms .pristine steps ∧ (s.run steps).desk.settings.enabled = true ∧
      (s.run steps).desk.draft.pending = .overlayOnly ∧
      ∃ id, (∃ built, (s.run steps).desk.BuiltFrom id (s.run steps).outlet.deeds built) ∧
        ∃ lit, (s.run steps).desk.LitFrom id (s.run steps).outlet.deeds lit := by
  intro s steps
  have begun : s.Begins { enabled := true, cascades := [{}] } := onOneScene_begins _
  have found : s.renderer.discover.found = some (0, Scene.create "main" {}) := by decide
  have working : ((s.step (.command .tick)).1.step
      (.command (.assign (.bounceCount 3)))).1.desk.phase = .working 0 := by decide
  have terms : s.OnTerms .pristine steps := by
    simp only [steps, onTerms_cons]
    exact ⟨admits_found found ⟨rfl, rfl⟩, True.intro, admits_working _ working, True.intro,
      True.intro⟩
  have wanted : (s.run steps).desk.settings.enabled = true := by decide +kernel
  have owed : (s.run steps).desk.draft.pending = .overlayOnly := by decide +kernel
  obtain ⟨id, built, lit, _⟩ := active_is_fresh begun terms wanted (by rw [owed]; decide)
  exact ⟨terms, wanted, owed, id, built, lit (by rw [owed]; decide)⟩

end Session

end VoxelGI
