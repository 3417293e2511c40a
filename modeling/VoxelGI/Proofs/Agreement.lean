import VoxelGI.Proofs.Custody

/-! Whether global illumination is on. What is wanted and what the engine does may differ between
ticks: a takeover is noticed by the next tick, and a wish is met by it. An active volume that is not
wanted owes a rebuild meanwhile, and a tick leaves both in agreement. -/
namespace VoxelGI

theorem Draft.assign_rebuild {d : Draft} (owed : d.pending = .rebuild) (a : Assignment) :
    (d.assign a).state.pending = .rebuild := by
  have still (s : Settings) (work : Pending) : (d.revise s work).pending = .rebuild := by
    unfold revise
    rw [owed]
    exact Pending.mark_rebuild_left work
  cases a <;> simp only [assign, assignResolution, assignOctantCount] <;>
    first | exact still _ _ | (split <;> first | exact still _ _ | exact owed)

theorem Desk.Move.accounts {alive : Camera → Bool} {volume : Option Volume} {d d' : Desk}
    {es : List Effect} (m : Move alive volume d es d')
    (h : d.settings.enabled = true ∨ d.draft.pending = .rebuild) :
    d'.settings.enabled = true ∨ d'.draft.pending = .rebuild := by
  cases m with
  | assign a =>
    rcases h with wanted | owed
    · exact .inl ((d.draft.assign_enabled a).trans wanted)
    · exact .inr (Draft.assign_rebuild owed a)
  | wish enabled => exact .inr (Pending.mark_rebuild_right d.draft.pending)
  | stay | miss | append | remove | edit | request | bind => exact h

namespace View

structure Accounted (v : View) : Prop where
  switchable : v.scene.activationWorks = true
  active : v.scene.volume.active = true →
    v.desk.settings.enabled = true ∨ v.desk.draft.pending = .rebuild

theorem Move.accounted {v w : View} (m : Move v w) (h : v.Accounted) : w.Accounted where
  switchable := (congrArg Scene.Status.activationWorks m.status).trans h.switchable
  active running := by
    have before : v.scene.volume.active = true :=
      (congrArg Scene.Status.active m.status).symm.trans running
    cases m with
    | command m => exact m.accounts (h.active before)
    | upkeep u =>
      cases u with
      | refresh =>
        have kept := h.active before
        rw [← v.desk.refreshCameras_enabled v.scene,
          ← v.desk.refreshCameras_pending v.scene] at kept
        exact kept
      | notice _ _ inactive => rw [inactive] at before; contradiction
      | drop _ owed => exact .inr owed

/-- After the owed work the volume is active exactly if that is wanted. -/
theorem work_agrees {v : View} (ready : v.Ready) (h : v.Accounted) :
    v.work.desk.settings.enabled = v.work.scene.volume.active := by
  by_cases owed : v.desk.draft.pending = .rebuild
  · have rebuilt := congrArg Scene.Status.active (Desk.status_rebuild owed v.scene)
    rw [h.switchable, if_pos rfl] at rebuilt
    exact rebuilt.symm
  · have wanted : v.scene.volume.active = true → v.desk.settings.enabled = true :=
      fun running => (h.active running).resolve_right owed
    have reflected := ready.reflected owed
    rw [work_scene, Desk.applyAll_workEffects owed]
    change v.desk.settings.enabled = v.scene.volume.active
    cases running : v.scene.volume.active with
    | true => exact wanted running
    | false =>
      cases on : v.desk.settings.enabled with
      | false => rfl
      | true => exact absurd ((reflected on).symm.trans running) nofun

theorem work_accounted {v : View} (ready : v.Ready) (h : v.Accounted) : v.work.Accounted where
  switchable := by
    by_cases owed : v.desk.draft.pending = .rebuild
    · have kept := congrArg Scene.Status.activationWorks (Desk.status_rebuild owed v.scene)
      exact kept.trans h.switchable
    · rw [work_scene, Desk.applyAll_workEffects owed]
      exact h.switchable
  active running := .inl ((work_agrees ready h).trans running)

end View

/-- Terms on which a volume is created inactive, the control side can make it active or inactive, and
outsiders cannot make it active. -/
def Terms.switchable : Terms where
  created := fun s => s.activationWorks = true ∧ s.volume.active = false
  meddled := fun before after =>
    (before.activationWorks = true → after.activationWorks = true) ∧
      (after.volume.active = true → before.volume.active = true)

theorem switchable_custody : Custody .switchable (fun _ _ => True) View.Accounted where
  waits _ _ _ _ := True.intro
  withdraws _ _ _ := True.intro
  opens _ _ created :=
    { switchable := created.1
      active := fun running => absurd (created.2.symm.trans running) nofun }
  announces _ h := ⟨h.switchable, h.active⟩
  moves m h := m.accounted h
  works ready h := View.work_accounted ready h
  meddles _ kept h := ⟨kept.1 h.switchable, fun running => h.active (kept.2 running)⟩
  releases _ _ := True.intro
  empties _ _ := True.intro

theorem accounted_custody : Custody .dependable (fun _ _ => True) View.Accounted := by
  refine switchable_custody.stricter (fun scene created => ?_) fun before after kept => ?_
  · exact ⟨congrArg Scene.Status.activationWorks created, congrArg Scene.Status.active created⟩
  · rcases kept with same | silenced
    · exact ⟨(congrArg Scene.Status.activationWorks same).trans,
        (congrArg Scene.Status.active same).symm.trans⟩
    · refine ⟨(congrArg Scene.Status.activationWorks silenced).trans, fun running => ?_⟩
      exact absurd ((congrArg Scene.Status.active silenced).symm.trans running) nofun

/-- An active volume that is not wanted owes a rebuild, and after every tick the volume is active
exactly if that is wanted. -/
theorem Session.agreement {c : Config} {s : Session} (begun : s.Begins c)
    {steps : List Session.Step} (terms : s.OnTerms .dependable steps) {ref : SceneRef}
    (working : (s.run steps).desk.phase = .working ref) :
    ∃ scene, (s.run steps).renderer.scene? ref = some scene ∧
      (scene.volume.active = true → (s.run steps).desk.settings.enabled = false →
        (s.run steps).desk.draft.pending = .rebuild) ∧
      ∀ earlier, steps = earlier ++ [.command .tick] → (s.run earlier).isOpen = true →
        (s.run steps).desk.settings.enabled = scene.volume.active := by
  have start : s.Upholds (fun _ _ => True) View.Accounted :=
    .begins begun True.intro
  obtain ⟨v, here, accounted⟩ := (accounted_custody.run terms start).held ref working
  refine ⟨v.scene, here.scene, fun running off => ?_, fun earlier last obeyed => ?_⟩
  · rw [here.desk] at off ⊢
    rcases accounted.active running with wanted | owed
    · exact absurd (off.symm.trans wanted) nofun
    · exact owed
  · subst last
    obtain ⟨u, ready, before, shown⟩ := accounted_custody.run_tick terms start obeyed working
    obtain rfl := shown.unique here
    rw [here.desk]
    exact View.work_agrees ready before

theorem Session.agreement_takeover :
    let s := onOneScene { enabled := true, cascades := [{}] }
    let steps := [.command .tick, .outside (.scene "main" .takeOver), .command .tick]
    s.OnTerms .dependable steps ∧ (s.run steps).desk.phase = .working 0 ∧
      ∃ scene, (s.run steps).renderer.scene? 0 = some scene ∧
        (s.run steps).desk.settings.enabled = scene.volume.active := by
  intro s steps
  have begun : s.Begins { enabled := true, cascades := [{}] } := onOneScene_begins _
  have terms : s.OnTerms .dependable steps := takeover_onTerms
  have working : (s.run steps).desk.phase = .working 0 := by decide
  have last : steps = [.command .tick, .outside (.scene "main" .takeOver)] ++ [.command .tick] := rfl
  have obeyed : (s.run [.command .tick, .outside (.scene "main" .takeOver)]).isOpen = true := by
    decide
  obtain ⟨scene, there, _, agrees⟩ := agreement begun terms working
  exact ⟨terms, working, scene, there, agrees _ last obeyed⟩

end VoxelGI
