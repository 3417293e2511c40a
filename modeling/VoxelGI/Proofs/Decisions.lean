import Mathlib.Tactic.Choose
import VoxelGI.Proofs.Steps

/-! A tick is a decision. What a bench does in a tick or in the set-up of a volume is done by effects,
and what these are depends on the desk and the scene alone: nothing is read off the mailboxes or the
journal. So the control side acts at one scene, and what it does can be done again elsewhere. -/
namespace VoxelGI

namespace Bench

/-- Work at a bench that is one decision on the desk and the scene. -/
def Decided (work : Bench → Bench) : Prop :=
  ∃ policy : Desk → Scene → Decision Desk Unit, ∀ b, work b = b.adopt (policy b.desk b.stage.scene)

theorem decided_adopt (r : Desk → Scene → Decision Desk α) :
    Decided fun b => b.adopt (r b.desk b.stage.scene) :=
  ⟨fun d scene => ⟨(r d scene).state, (), (r d scene).effects⟩, fun _ => rfl⟩

theorem decided_perform (es : Desk → Scene → List Effect) :
    Decided fun b => b.perform (es b.desk b.stage.scene) :=
  ⟨fun d scene => ⟨d, (), es d scene⟩, fun _ => rfl⟩

theorem decided_desk (change : Desk → Desk) :
    Decided fun b => { b with desk := change b.desk } :=
  ⟨fun d _ => ⟨change d, (), []⟩, fun _ => rfl⟩

theorem decided_nothing : Decided fun b => b := decided_desk id

/-- Two decisions in a row are one: the second one sees the desk and the scene after the first. -/
theorem Decided.then {first second : Bench → Bench} (one : Decided first) (two : Decided second) :
    Decided fun b => second (first b) := by
  obtain ⟨policy, one⟩ := one
  obtain ⟨policy', two⟩ := two
  refine ⟨fun d scene =>
    let r := policy d scene
    let r' := policy' r.state (scene.applyAll (Effect.calls r.effects))
    ⟨r'.state, (), r.effects ++ r'.effects⟩, fun b => ?_⟩
  change second (first b) = _
  rw [one, two]
  simp only [adopt, Stage.scene_perform, Stage.perform_append]

theorem decided_choice {ι : Type} (choice : Desk → Scene → ι) (work : ι → Bench → Bench)
    (decided : ∀ i, Decided (work i)) : Decided fun b => work (choice b.desk b.stage.scene) b := by
  choose policy same using decided
  exact ⟨fun d scene => policy (choice d scene) d scene, fun b => same _ b⟩

theorem refreshIfRequested_decided : Decided refreshIfRequested := by
  refine decided_choice (fun d _ => d.refreshRequested)
    (fun asked b => if asked then b.adopt (b.desk.refreshCameras b.stage.scene) else b) ?_
  rintro (_ | _)
  · exact decided_nothing
  · exact decided_adopt Desk.refreshCameras

theorem prepare_decided : Decided prepare :=
  refreshIfRequested_decided.then
    (decided_adopt fun d scene => d.noticeDisabled scene.volume)

theorem rebuild_decided : Decided rebuild := by
  have building : Decided fun b =>
      let c := b.perform (b.desk.settings.rebuildEffects b.desk.cascades b.volume.started
        b.stage.scene.holds)
      c.perform (b.desk.settings.afterRebuild b.volume.started c.volume.started) := by
    -- the second part still reads the desk and the volume from before the first
    refine decided_choice (fun d scene => (d, scene)) (fun i b =>
      let c := b.perform (i.1.settings.rebuildEffects i.1.cascades i.2.volume.started i.2.holds)
      c.perform (i.1.settings.afterRebuild i.2.volume.started c.volume.started)) fun i => ?_
    exact (decided_perform fun _ _ => _).then
      (decided_perform fun _ scene =>
        i.1.settings.afterRebuild i.2.volume.started scene.volume.started)
  exact (decided_adopt Desk.recheck).then building

theorem work_decided (owed : Pending) : Decided (work · owed) := by
  cases owed with
  | clean => exact decided_nothing
  | overlayOnly => exact decided_perform fun d scene => d.settings.overlayEffects scene.volume
  | relight => exact decided_perform fun d scene => d.settings.relightEffects scene.volume
  | rebuild => exact rebuild_decided

theorem finish_decided : Decided fun b => b.finish.1 := by
  have settled (owed : Pending) :
      Decided fun b => ((b.work owed).settle).perform [.note (.applied owed)] :=
    ((work_decided owed).then (decided_desk fun d => { d with draft := d.draft.settle })).then
      (decided_perform fun _ _ => [.note (.applied owed)])
  have same : (fun b : Bench => b.finish.1) = fun b =>
      if b.desk.draft.pending = .clean then b
      else ((b.work b.desk.draft.pending).settle).perform [.note (.applied b.desk.draft.pending)] := by
    funext b
    unfold finish
    cases b.desk.draft.pending <;> rfl
  rw [same]
  refine decided_choice (fun d _ => d.draft.pending) (fun owed b =>
    if owed = .clean then b else ((b.work owed).settle).perform [.note (.applied owed)]) fun owed => ?_
  cases owed with
  | clean => exact decided_nothing
  | overlayOnly | relight | rebuild => exact settled _

theorem tick_decided : Decided fun b => b.tick.1 := prepare_decided.then finish_decided

theorem addConfigured_decided (o : CascadeOverride) : Decided (addConfigured · o) := by
  have adding : Decided fun b => b.adopt (b.desk.addCascade (some b.volume)) :=
    decided_adopt fun d scene => d.addCascade (some scene.volume)
  have editing : Decided fun b =>
      b.adopt (b.desk.updateCascade (some b.volume) (b.desk.cascades.size - 1) o.apply) :=
    decided_adopt fun d scene =>
      d.updateCascade (some scene.volume) (d.cascades.size - 1) o.apply
  let branch (added : Option CascadeSettings) (b : Bench) : Bench :=
    let b := b.adopt (b.desk.addCascade (some b.volume))
    added.elim b fun _ =>
      b.adopt (b.desk.updateCascade (some b.volume) (b.desk.cascades.size - 1) o.apply)
  have same : (addConfigured · o) =
      fun b => branch (b.desk.addCascade (some b.stage.scene.volume)).answer b := by
    funext b
    change b.addConfigured o = branch (b.desk.addCascade (some b.volume)).answer b
    dsimp only [addConfigured]
    cases (b.desk.addCascade (some b.volume)).answer <;> rfl
  rw [same]
  refine decided_choice (fun d scene => (d.addCascade (some scene.volume)).answer) branch ?_
  rintro (_ | _)
  · exact adding
  · exact adding.then editing

theorem foldl_addConfigured_decided (os : List CascadeOverride) :
    Decided fun b => os.foldl addConfigured b := by
  induction os with
  | nil => exact decided_nothing
  | cons o rest ih => exact (addConfigured_decided o).then ih

theorem enableAtStartup_decided (enable : Bool) : Decided (enableAtStartup · enable) := by
  cases enable with
  | false => exact decided_nothing
  | true =>
    have asking : Decided fun b => b.adopt (b.desk.setEnabled b.stage.scene.holds true) :=
      decided_adopt fun d scene => d.setEnabled scene.holds true
    refine decided_choice (fun d scene => (d.setEnabled scene.holds true).answer)
      (fun granted b =>
        let c := b.adopt (b.desk.setEnabled b.stage.scene.holds true)
        if granted then c else c.perform [.note .startupEnableRefused]) ?_
    rintro (_ | _)
    · exact asking.then (decided_perform fun _ _ => [.note .startupEnableRefused])
    · exact asking

theorem setUp_decided (plan : StartupPlan) : Decided (setUp · plan) := by
  have opening : Decided fun b => b.perform [.call (.participants .everything),
      .note .volumeCreated] :=
    decided_perform fun _ _ => [.call (.participants .everything), .note .volumeCreated]
  have announcing : Decided fun b =>
      b.perform [.publish (.cascadesEditableChanged (!b.volume.started))] :=
    decided_perform fun _ scene => [.publish (.cascadesEditableChanged (!scene.volume.started))]
  exact (((opening.then (foldl_addConfigured_decided plan.cascades)).then
    (decided_adopt Desk.refreshCameras)).then announcing).then (enableAtStartup_decided plan.enable)

theorem tick_reports (b : Bench) : b.tick.2 = Session.reported b.desk.draft.pending := by
  obtain ⟨v, _, _, same_owed, _, did⟩ := b.tick_spec
  rw [did, same_owed]
  rfl

structure Settled (work : Bench → Bench × α) : Prop where
  acts : Decided fun b => (work b).1
  answers : ∃ answer : Desk → Scene → α, ∀ b, (work b).2 = answer b.desk b.stage.scene

theorem tick_settled : Settled tick :=
  ⟨tick_decided, fun d _ => Session.reported d.draft.pending, tick_reports⟩

def takeOver (ref : SceneRef) (supported : Bool) (plan : StartupPlan) (b : Bench) :
    Bench × Option Pending :=
  let b := b.perform [.call .createVolume]
  if supported then (setUp { b with desk := { b.desk with phase := .working ref } } plan).tick
  else ({ b with desk := { b.desk with phase := .withdrawn } }.perform [.note .unsupported], none)

theorem takeOver_settled (ref : SceneRef) (supported : Bool) (plan : StartupPlan) :
    Settled (takeOver ref supported plan) := by
  have asking : Decided fun b => b.perform [.call .createVolume] :=
    decided_perform fun _ _ => [.call .createVolume]
  cases supported with
  | false =>
    refine ⟨?_, fun _ _ => none, fun _ => rfl⟩
    exact (asking.then (decided_desk fun d => { d with phase := .withdrawn })).then
      (decided_perform fun _ _ => [.note .unsupported])
  | true =>
    have set_up := (asking.then (decided_desk fun d => { d with phase := .working ref })).then
      (setUp_decided plan)
    refine ⟨set_up.then tick_decided, ?_⟩
    obtain ⟨policy, same⟩ := set_up
    refine ⟨fun d scene => Session.reported (policy d scene).state.draft.pending, fun b => ?_⟩
    refine (tick_reports _).trans ?_
    exact congrArg (fun b : Bench => Session.reported b.desk.draft.pending) (same b)

end Bench

namespace Session

variable {s : Session} {ref : SceneRef} {scene : Scene}

def carryOut (s : Session) (ref : SceneRef) (scene : Scene) (r : Decision Desk α) : Session :=
  let stage := Stage.perform ⟨scene, s.outlet⟩ r.effects
  { s with desk := r.state, renderer := s.renderer.putScene ref stage.scene, outlet := stage.outlet }

theorem adopt_eq_carryOut (here : s.scene? = some (ref, scene)) (r : Decision Desk α) :
    s.adopt r = s.carryOut ref scene r := by
  unfold adopt carryOut
  rw [here]

/-- What goes on at a scene is a decision carried out there, the same for all sessions. -/
theorem atScene_settled {work : Bench → Bench × α} (settled : Bench.Settled work) :
    ∃ (policy : Desk → Scene → Decision Desk Unit) (answer : Desk → Scene → α),
      ∀ (s : Session) (ref : SceneRef) (scene : Scene), s.atScene ref scene work =
        (s.carryOut ref scene (policy s.desk scene), answer s.desk scene) := by
  obtain ⟨⟨policy, acts⟩, answer, answers⟩ := settled
  refine ⟨policy, answer, fun s ref scene => ?_⟩
  have acted := acts ⟨s.desk, ⟨scene, s.outlet⟩⟩
  have answered := answers ⟨s.desk, ⟨scene, s.outlet⟩⟩
  refine Prod.ext ?_ answered
  simp only [atScene, acted]
  rfl

theorem firstTick_ready (plan : StartupPlan)
    (found : s.renderer.discover.found = some (ref, scene)) : s.firstTick plan =
      ({ s with outlet := s.outlet.perform (s.renderer.discover.notices.map .note) } :
        Session).atScene ref scene (Bench.takeOver ref scene.supportsGi plan) := by
  simp only [firstTick, found]
  rfl

end Session

end VoxelGI
