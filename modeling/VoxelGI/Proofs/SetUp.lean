import VoxelGI.Proofs.Custody

/-! The set-up of a volume. The cascades of the configuration are appended, the cameras are listed, and
then the configuration's wish for global illumination is granted if it can be: there are cascades, the
volume has not started, and the scene lists a camera. -/
namespace VoxelGI

namespace Desk

theorem updateCascade_size (d : Desk) (volume : Option Volume) (index : Nat)
    (change : CascadeSettings → CascadeSettings) :
    (d.updateCascade volume index change).state.cascades.size = d.cascades.size := by
  unfold updateCascade CascadeStack.update
  cases CascadeStack.guard volume .edit with
  | error n => rfl
  | ok v =>
    dsimp only
    split
    · exact List.length_modify ..
    · rfl

theorem addCascade_frozen (d : Desk) {v : Volume} (started : v.started = true) :
    d.addCascade (some v) = ⟨d, none, [.note (.cascadesFrozen .add)]⟩ := by
  simp [addCascade, CascadeStack.add, CascadeStack.guard, started]

theorem addCascade_idle (d : Desk) {v : Volume} (idle : v.started = false) :
    (d.addCascade (some v)).state.cascades.size = d.cascades.size + 1 ∧
      (d.addCascade (some v)).answer = some (d.cascades.nextEntry v).settings := by
  simp [addCascade, CascadeStack.add, CascadeStack.guard, idle, CascadeStack.size]

end Desk

namespace Bench

theorem addConfigured_draft (b : Bench) (o : CascadeOverride) :
    (b.addConfigured o).desk.draft = b.desk.draft := by
  unfold addConfigured
  dsimp only
  split <;> rfl

theorem addConfigured_size (b : Bench) (o : CascadeOverride) :
    (b.addConfigured o).desk.cascades.size =
      if b.volume.started then b.desk.cascades.size else b.desk.cascades.size + 1 := by
  unfold addConfigured
  cases started : b.volume.started with
  | true =>
    rw [b.desk.addCascade_frozen started]
    rfl
  | false =>
    obtain ⟨size, answer⟩ := b.desk.addCascade_idle started
    simp only [answer]
    exact (Desk.updateCascade_size ..).trans size

theorem foldl_addConfigured_draft (b : Bench) (os : List CascadeOverride) :
    (os.foldl addConfigured b).desk.draft = b.desk.draft := by
  induction os generalizing b with
  | nil => rfl
  | cons o rest ih => exact (ih _).trans (b.addConfigured_draft o)

theorem foldl_addConfigured_size (b : Bench) (os : List CascadeOverride) :
    (os.foldl addConfigured b).desk.cascades.size =
      if b.volume.started then b.desk.cascades.size else b.desk.cascades.size + os.length := by
  induction os generalizing b with
  | nil => simp
  | cons o rest ih =>
    have running : (b.addConfigured o).volume.started = b.volume.started :=
      congrArg Scene.Status.started (b.addConfigured_moves o).status
    rw [List.foldl_cons, ih, running, addConfigured_size, List.length_cons]
    cases b.volume.started
    · simp only [Bool.false_eq_true, if_false]
      omega
    · rfl

theorem fill_enabled (b : Bench) (plan : StartupPlan) :
    (b.fill plan).desk.settings.enabled = b.desk.settings.enabled := by
  unfold fill
  refine (Desk.refreshCameras_enabled ..).trans ?_
  exact congrArg (·.settings.enabled) (foldl_addConfigured_draft _ plan.cascades)

/-- Global illumination can be turned on after the set-up if there are cascades to append, they can
be appended, and the scene lists a camera. -/
theorem fill_unmet {b : Bench} (empty : b.desk.cascades = {})
    (unbound : b.desk.settings.boundCamera = none) (plan : StartupPlan) :
    (b.fill plan).desk.unmet? (b.fill plan).stage.scene.holds = none ↔
      plan.cascades ≠ [] ∧ b.volume.started = false ∧ b.stage.scene.cameras ≠ [] := by
  let opened := b.perform [.call (.participants .everything), .note .volumeCreated]
  let filled := plan.cascades.foldl addConfigured opened
  have filling : View.Moves opened.view filled.view := foldl_addConfigured_moves ..
  have size : (b.fill plan).desk.cascades.size =
      if b.volume.started then 0 else plan.cascades.length := by
    have grown := foldl_addConfigured_size opened plan.cascades
    have same : (b.fill plan).desk.cascades = filled.desk.cascades :=
      filled.desk.refreshCameras_cascades filled.stage.scene
    rw [same]
    refine grown.trans ?_
    change (if b.volume.started then b.desk.cascades.size else b.desk.cascades.size + _) = _
    rw [empty]
    simp [CascadeStack.size]
  have live : (b.fill plan).desk.settings.liveCamera (b.fill plan).stage.scene.holds =
      b.stage.scene.cameras.head? := by
    have draft : filled.desk.draft = b.desk.draft := foldl_addConfigured_draft ..
    have nobody : filled.desk.settings.liveCamera filled.stage.scene.holds = none := by
      rw [Settings.liveCamera, Desk.settings, draft, ← Desk.settings, unbound]
      rfl
    have holds : (b.fill plan).stage.scene.holds = filled.stage.scene.holds := by
      unfold fill adopt
      dsimp only
      rw [Stage.scene_perform, Scene.applyAll_holds]
    rw [holds]
    refine (Desk.refreshCameras_live ..).trans ?_
    rw [nobody, Option.none_or]
    exact congrArg List.head? filling.cameras
  unfold Desk.unmet?
  rw [unmet?_eq_none_iff, size, live]
  cases b.volume.started <;> cases plan.cascades <;> cases b.stage.scene.cameras <;> simp

theorem enableAtStartup_refused {b : Bench} {enable : Bool}
    (refused : enable = true → b.desk.unmet? b.stage.scene.holds ≠ none) :
    (b.enableAtStartup enable).desk = b.desk := by
  unfold enableAtStartup
  cases enable with
  | false => rfl
  | true =>
    obtain ⟨why, unmet⟩ := Option.ne_none_iff_exists'.mp (refused rfl)
    simp [Desk.setEnabled, unmet, adopt, perform]

theorem enableAtStartup_granted {b : Bench} (met : b.desk.unmet? b.stage.scene.holds = none) :
    (b.enableAtStartup true).desk = { b.desk with draft := (b.desk.draft.setEnabled true).state } ∧
      (b.enableAtStartup true).stage.scene.holds = b.stage.scene.holds := by
  have granted : b.desk.setEnabled b.stage.scene.holds true =
      ⟨{ b.desk with draft := (b.desk.draft.setEnabled true).state }, true,
        if (b.desk.draft.setEnabled true).answer then [.publish (.enabledChanged true)] else []⟩ := by
    simp [Desk.setEnabled, met]
  unfold enableAtStartup
  simp only [if_true, granted]
  refine ⟨rfl, ?_⟩
  unfold adopt
  dsimp only
  rw [Stage.scene_perform, Scene.applyAll_holds]

end Bench

namespace View

structure Granted (v : View) : Prop where
  wanted : v.desk.settings.enabled = true
  owed : v.desk.draft.pending = .rebuild
  met : v.desk.unmet? v.scene.holds = none

theorem Upkeep.granted {v w : View} (u : Upkeep v w) (h : v.Granted) : w.Granted := by
  cases u with
  | notice unbuilt => exact absurd h.owed unbuilt
  | drop why _ _ _ unmet => exact absurd (h.met.symm.trans unmet) nofun
  | refresh =>
    obtain ⟨some_there, live⟩ := (unmet?_eq_none_iff ..).mp h.met
    refine ⟨?_, ?_, ?_⟩ <;> rw [adopt_desk]
    · exact (v.desk.refreshCameras_enabled v.scene).trans h.wanted
    · exact (v.desk.refreshCameras_pending v.scene).trans h.owed
    · rw [adopt_scene, Scene.applyAll_holds, Desk.unmet?, unmet?_eq_none_iff,
        Desk.refreshCameras_cascades, Desk.refreshCameras_live]
      exact ⟨some_there, by rw [Option.isSome_or, live, Bool.true_or]⟩

end View

namespace Bench

theorem setUp_off {b : Bench} {plan : StartupPlan} (off : b.desk.settings.enabled = false)
    (refused : plan.enable = true →
      (b.fill plan).desk.unmet? (b.fill plan).stage.scene.holds ≠ none) :
    (b.setUp plan).view.desk.settings.enabled = false := by
  let announced := (b.fill plan).perform
    [.publish (.cascadesEditableChanged (!(b.fill plan).volume.started))]
  have kept : (announced.enableAtStartup plan.enable).desk = announced.desk :=
    enableAtStartup_refused refused
  change (announced.enableAtStartup plan.enable).desk.settings.enabled = false
  rw [kept]
  exact (b.fill_enabled plan).trans off

theorem setUp_granted {b : Bench} {plan : StartupPlan} (enable : plan.enable = true)
    (met : (b.fill plan).desk.unmet? (b.fill plan).stage.scene.holds = none) :
    (b.setUp plan).view.Granted := by
  let announced := (b.fill plan).perform
    [.publish (.cascadesEditableChanged (!(b.fill plan).volume.started))]
  obtain ⟨desk, holds⟩ := enableAtStartup_granted (b := announced) met
  rw [setUp_eq, enable]
  change (announced.enableAtStartup true).view.Granted
  refine ⟨?_, ?_, ?_⟩ <;> simp only [view_desk, view_scene, desk]
  · rfl
  · exact Pending.mark_rebuild_right (b.fill plan).desk.draft.pending
  · rw [holds]
    exact met

end Bench

namespace Session

variable {c : Config} {s : Session}

/-- The next tick takes over a volume and turns global illumination on, as the configuration asks
for. -/
structure StartsUp (c : Config) (s : Session) : Prop where
  obeys : s.isOpen = true
  waits : ∃ plan, s.desk.phase = .waiting plan
  wanted : c.enabled = true
  cascades : c.cascades ≠ []
  ready : ∃ ref scene, s.renderer.discover.found = some (ref, scene) ∧ scene.supportsGi = true ∧
    scene.volume.started = false ∧ scene.cameras ≠ []

theorem taken_unmet (serves : s.Serves c) {plan : StartupPlan}
    (waiting : s.desk.phase = .waiting plan) (ref : SceneRef) (scene : Scene) :
    ((s.taken ref scene).fill plan).desk.unmet? ((s.taken ref scene).fill plan).stage.scene.holds =
        none ↔
      c.cascades ≠ [] ∧ scene.volume.started = false ∧ scene.cameras ≠ [] := by
  have unused := serves.free (by rw [waiting]; rfl) plan waiting
  obtain rfl : plan = ⟨c.cascades, c.enabled⟩ := Phase.waiting.inj (waiting.symm.trans unused.plan)
  exact Bench.fill_unmet (b := s.taken ref scene) unused.cascades unused.unbound _

theorem tick_starts_up (serves : s.Serves c) (starts : s.StartsUp c) :
    s.tick.1.desk.settings.enabled = true := by
  obtain ⟨plan, waiting⟩ := starts.waits
  obtain ⟨ref, scene, found, supported, idle, cameras⟩ := starts.ready
  have unused := serves.free (by rw [waiting]; rfl) plan waiting
  have same := Phase.waiting.inj (waiting.symm.trans unused.plan)
  have met := (taken_unmet serves waiting ref scene).mpr ⟨starts.cascades, idle, cameras⟩
  have set_up := Bench.setUp_granted ((congrArg StartupPlan.enable same).trans starts.wanted) met
  obtain ⟨w, upkeep, _, shown, _⟩ := firstTick_supported plan found supported
  have ticking : s.tick = s.firstTick plan := by simp only [tick, waiting]
  rw [ticking, shown.desk]
  exact (upkeep.keep (fun _ _ u => u.granted) set_up).wanted

end Session

end VoxelGI
