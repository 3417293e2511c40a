import VoxelGI.Proofs.Moves

/-! A tick and the set-up of a volume, taken apart. A tick is a few moves followed by the effects of
the work that is owed; the set-up of a volume is moves around one announcement. -/
namespace VoxelGI

theorem Scene.holds_head {scene : Scene} {c : Camera} (first : scene.cameras.head? = some c) :
    scene.holds c = true := by
  have listed : c ∈ scene.cameras := List.mem_of_head? first
  simp [holds, listed]

theorem Scene.find?_holds (scene : Scene) :
    scene.cameras.find? scene.holds = scene.cameras.head? := by
  cases cameras : scene.cameras with
  | nil => rfl
  | cons c rest =>
    have alive : scene.holds c = true := Scene.holds_head (by rw [cameras]; rfl)
    rw [List.find?_cons_of_pos alive]
    rfl

theorem unmet?_eq_none_iff (count : Nat) (camera : Option Camera) :
    unmet? count camera = none ↔ count ≠ 0 ∧ camera.isSome = true := by
  unfold unmet?
  by_cases none_there : count = 0
  · simp [none_there]
  · cases camera <;> simp [none_there]

namespace Desk

/-- A bound camera that is alive stays bound, and otherwise the first one listed gets bound. -/
theorem refreshCameras_state (d : Desk) (scene : Scene) :
    (d.refreshCameras scene).state =
      { d with
        draft := d.draft.bindCamera ((d.settings.liveCamera scene.holds).or scene.cameras.head?)
        roster := ⟨scene.cameras⟩
        refreshRequested := false } := by
  unfold refreshCameras
  dsimp only
  cases living : d.settings.liveCamera scene.holds with
  | none =>
    rw [if_neg (by change ¬ (d.settings.liveCamera scene.holds).isSome = true; simp [living])]
    rw [Roster.first?, Roster.refresh, scene.find?_holds, Option.none_or]
  | some c =>
    have bound : d.settings.boundCamera = some c := (Option.filter_eq_some_iff.mp living).1
    rw [if_pos (by change (d.settings.liveCamera scene.holds).isSome = true; simp [living])]
    rw [Option.some_or, ← bound]
    rfl

theorem refreshCameras_pending (d : Desk) (scene : Scene) :
    (d.refreshCameras scene).state.draft.pending = d.draft.pending :=
  congrArg (·.draft.pending) (d.refreshCameras_state scene)

theorem refreshCameras_enabled (d : Desk) (scene : Scene) :
    (d.refreshCameras scene).state.settings.enabled = d.settings.enabled :=
  congrArg (·.settings.enabled) (d.refreshCameras_state scene)

theorem refreshCameras_bound (d : Desk) (scene : Scene) :
    (d.refreshCameras scene).state.settings.boundCamera =
      (d.settings.liveCamera scene.holds).or scene.cameras.head? :=
  congrArg (·.settings.boundCamera) (d.refreshCameras_state scene)

theorem refreshCameras_cascades (d : Desk) (scene : Scene) :
    (d.refreshCameras scene).state.cascades = d.cascades := by
  rw [refreshCameras_state]

theorem refreshCameras_live (d : Desk) (scene : Scene) :
    (d.refreshCameras scene).state.settings.liveCamera scene.holds =
      (d.settings.liveCamera scene.holds).or scene.cameras.head? := by
  rw [Settings.liveCamera, refreshCameras_bound]
  cases living : d.settings.liveCamera scene.holds with
  | some c => exact Option.filter_some_pos (Option.filter_eq_some_iff.mp living).2
  | none =>
    cases first : scene.cameras.head? with
    | none => rfl
    | some c => exact Option.filter_some_pos (Scene.holds_head first)

theorem noticeDisabled_cases (d : Desk) (volume : Volume) :
    (d.draft.pending ≠ .rebuild ∧ d.settings.enabled = true ∧ volume.active = false ∧
      d.noticeDisabled volume = ⟨{ d with draft := d.draft.noteOff }, (),
        [.note .disabledOutside, .publish (.enabledChanged false)]⟩) ∨
    ((d.draft.pending ≠ .rebuild → d.settings.enabled = true → volume.active = true) ∧
      d.noticeDisabled volume = ⟨d, (), []⟩) := by
  have dirty := d.draft.pending.isVisualDirty_iff
  cases owed : d.draft.pending.isVisualDirty <;> cases wanted : d.settings.enabled <;>
    cases active : volume.active <;> simp_all [noticeDisabled]

theorem recheck_cases (d : Desk) (scene : Scene) :
    (∃ why, d.settings.enabled = true ∧ scene.volume.started = false ∧
      d.unmet? scene.holds = some why ∧
      d.recheck scene = ⟨{ d with draft := d.draft.noteOff }, (),
        [.note (.enableDropped why), .publish (.enabledChanged false)]⟩) ∨
    ((d.settings.enabled = true → scene.volume.started = false → d.unmet? scene.holds = none) ∧
      d.recheck scene = ⟨d, (), []⟩) := by
  cases wanted : d.settings.enabled <;> cases started : scene.volume.started <;>
    cases unmet : d.unmet? scene.holds <;> simp [recheck, wanted, started, unmet]

end Desk

/-- The effects of the work that is owed. After a rebuild the engine is asked whether the volume has
started by then. -/
def Desk.workEffects (d : Desk) (scene : Scene) : List Effect :=
  match d.draft.pending with
  | .clean => []
  | .overlayOnly => d.settings.overlayEffects scene.volume
  | .relight => d.settings.relightEffects scene.volume
  | .rebuild =>
    let first := d.settings.rebuildEffects d.cascades scene.volume.started scene.holds
    first ++ d.settings.afterRebuild scene.volume.started
      (scene.applyAll (Effect.calls first)).volume.started

theorem Settings.applyAll_overlayEffects (s : Settings) (scene : Scene) (volume : Volume) :
    scene.applyAll (Effect.calls (s.overlayEffects volume)) = scene := by
  unfold overlayEffects
  split <;> rfl

theorem Settings.applyAll_relightEffects (s : Settings) (scene : Scene) (volume : Volume) :
    scene.applyAll (Effect.calls (s.relightEffects volume)) = scene := by
  unfold relightEffects
  split
  · rfl
  · split <;> rfl

theorem Settings.applyAll_afterRebuild (s : Settings) (scene : Scene) (wasStarted nowStarted : Bool) :
    scene.applyAll (Effect.calls (s.afterRebuild wasStarted nowStarted)) = scene := by
  cases wasStarted <;> cases nowStarted <;> rfl

theorem Settings.calls_overlayEffects (s : Settings) (volume : Volume) :
    Effect.calls (s.overlayEffects volume) =
      if volume.started then [.overlay s.overlay] else [] := by
  unfold overlayEffects
  split <;> rfl

theorem Settings.calls_relightEffects (s : Settings) (volume : Volume) :
    Effect.calls (s.relightEffects volume) = Effect.calls s.lightingCalls ++
      if volume.active then [.overlay .off, .lightingChanged, .overlay s.overlay]
      else if volume.started then [.overlay s.overlay] else [] := by
  unfold relightEffects
  cases volume.active <;> cases volume.started <;> rfl

theorem Settings.calls_afterRebuild (s : Settings) (wasStarted nowStarted : Bool) :
    Effect.calls (s.afterRebuild wasStarted nowStarted) =
      if nowStarted then [.overlay s.overlay] else [] := by
  cases wasStarted <;> cases nowStarted <;> rfl

theorem Desk.applyAll_workEffects {d : Desk} (cheap : d.draft.pending ≠ .rebuild) (scene : Scene) :
    scene.applyAll (Effect.calls (d.workEffects scene)) = scene := by
  unfold workEffects
  cases owed : d.draft.pending with
  | clean => rfl
  | overlayOnly => exact d.settings.applyAll_overlayEffects scene scene.volume
  | relight => exact d.settings.applyAll_relightEffects scene scene.volume
  | rebuild => exact absurd owed cheap

theorem Desk.applyAll_rebuild {d : Desk} (owed : d.draft.pending = .rebuild) (scene : Scene) :
    scene.applyAll (Effect.calls (d.workEffects scene)) =
      scene.applyAll (Effect.calls
        (d.settings.rebuildEffects d.cascades scene.volume.started scene.holds)) := by
  simp only [workEffects, owed, Effect.calls_append, Scene.applyAll_append,
    Settings.applyAll_afterRebuild]

theorem Settings.status_activation (s : Settings) (scene : Scene) (alive : Camera → Bool) :
    (scene.applyAll (Effect.calls (s.activation scene.volume.started alive))).status =
      { scene.status with
        started := scene.volume.started || scene.startWorks
        active := scene.activationWorks || scene.volume.active } := by
  have built (u : Scene) : (u.apply .build).status = u.status := rfl
  have renewed (u : Scene) :
      (u.apply (.newSettings s.bounceCount s.anisotropic)).status = u.status := rfl
  have bound (u : Scene) : (u.apply (.bind (s.liveCamera alive))).status = u.status := rfl
  unfold activation
  cases running : scene.volume.started
  · simp only [Bool.false_eq_true, if_false, List.cons_append, List.nil_append, Effect.calls_call,
      Effect.calls_note, Effect.calls_nil, Scene.applyAll_cons, Scene.applyAll_nil,
      Scene.status_setActive, built, Scene.status_start, bound]
    cases activates : scene.activationWorks <;> simp [Scene.status, running, activates]
  · simp only [if_true, List.cons_append, List.nil_append, Effect.calls_call,
      Effect.calls_note, Effect.calls_nil, Scene.applyAll_cons, Scene.applyAll_nil,
      Scene.status_setActive, built, renewed]
    cases activates : scene.activationWorks <;> simp [Scene.status, running, activates]

theorem Settings.status_deactivation (scene : Scene) :
    (scene.applyAll [.setActive false]).status =
      { scene.status with active := !scene.activationWorks && scene.volume.active } := by
  rw [Scene.applyAll_cons, Scene.applyAll_nil, Scene.status_setActive]
  cases activates : scene.activationWorks <;> simp [Scene.status, activates]

def Settings.rebuildPreamble (s : Settings) (cascades : CascadeStack) (wasStarted : Bool) :
    List Effect :=
  s.gridCalls ++ s.lightingCalls
    ++ (if wasStarted then [.call (.overlay .off)] else cascades.effects)

theorem Settings.status_rebuildPreamble (s : Settings) (cascades : CascadeStack)
    (wasStarted : Bool) (scene : Scene) :
    (scene.applyAll (Effect.calls (s.rebuildPreamble cascades wasStarted))).status =
      scene.status := by
  unfold rebuildPreamble
  rw [Effect.calls_append, Scene.applyAll_append]
  cases wasStarted
  · exact Scene.status_chores cascades.chores scene
  · rfl

/-- A rebuild makes the volume active exactly if that is wanted, and starts it for that. -/
theorem Desk.status_rebuild {d : Desk} (owed : d.draft.pending = .rebuild) (scene : Scene) :
    (scene.applyAll (Effect.calls (d.workEffects scene))).status =
      { scene.status with
        started := scene.volume.started || (d.settings.enabled && scene.startWorks)
        active := if scene.activationWorks then d.settings.enabled else scene.volume.active } := by
  have kept := d.settings.status_rebuildPreamble d.cascades scene.volume.started scene
  rw [applyAll_rebuild owed, Settings.rebuildEffects, Effect.calls_append, Scene.applyAll_append]
  change ((scene.applyAll (Effect.calls (d.settings.rebuildPreamble d.cascades
    scene.volume.started))).applyAll _).status = _
  generalize scene.applyAll (Effect.calls (d.settings.rebuildPreamble d.cascades
    scene.volume.started)) = u at kept
  have running : u.volume.started = scene.volume.started := congrArg Scene.Status.started kept
  have active : u.volume.active = scene.volume.active := congrArg Scene.Status.active kept
  have starts : u.startWorks = scene.startWorks := congrArg Scene.Status.startWorks kept
  have activates : u.activationWorks = scene.activationWorks :=
    congrArg Scene.Status.activationWorks kept
  cases wanted : d.settings.enabled
  · rw [if_neg Bool.false_ne_true]
    change (u.applyAll [.setActive false]).status = _
    rw [Settings.status_deactivation, kept, activates, active]
    cases scene.activationWorks <;> simp [Scene.status]
  · rw [if_pos rfl, ← running, Settings.status_activation, kept, starts, activates, active]
    cases scene.activationWorks <;> simp [Scene.status, running]

namespace View

def work (v : View) : View :=
  let w := v.perform (v.desk.workEffects v.scene)
  { w with desk := { v.desk with draft := v.desk.draft.settle } }

@[simp] theorem work_desk (v : View) :
    v.work.desk = { v.desk with draft := v.desk.draft.settle } := rfl

@[simp] theorem work_scene (v : View) :
    v.work.scene = v.scene.applyAll (Effect.calls (v.desk.workEffects v.scene)) := rfl

@[simp] theorem work_deeds (v : View) :
    v.work.deeds =
      v.deeds ++ Effect.deeds v.scene.id (v.desk.workEffects v.scene) := rfl

@[simp] theorem work_calls (v : View) :
    v.work.calls = v.calls ++ Effect.calls (v.desk.workEffects v.scene) := by
  simp [calls]

@[simp] theorem perform_note (v : View) (n : Notice) : v.perform [.note n] = v := by
  simp [perform]

theorem work_clean {v : View} (clean : v.desk.draft.pending = .clean) : v.work = v := by
  obtain ⟨⟨⟨settings, pending⟩, _, _, _, _⟩, _, _⟩ := v
  subst clean
  simp [work, perform, Desk.workEffects, Draft.settle]

/-- The state in which a tick turns to its work: a takeover was noticed unless a rebuild is owed,
and a rebuild that is to start the volume can do so. -/
structure Ready (v : View) : Prop where
  reflected : v.desk.draft.pending ≠ .rebuild → v.desk.settings.enabled = true →
    v.scene.volume.active = true
  startable : v.desk.draft.pending = .rebuild → v.desk.settings.enabled = true →
    v.scene.volume.started = false → v.desk.unmet? v.scene.holds = none
  listed : v.desk.refreshRequested = false

theorem Move.phase_eq {v w : View} (m : Move v w) : w.desk.phase = v.desk.phase := by
  cases m with
  | command m => exact m.phase_eq
  | upkeep u =>
    cases u with
    | refresh => rw [adopt_desk, Desk.refreshCameras_state]
    | notice | drop => rfl

theorem Moves.phase_eq {v w : View} (ms : Moves v w) : w.desk.phase = v.desk.phase :=
  ms.keep (P := fun u => u.desk.phase = v.desk.phase) (fun _ _ m h => m.phase_eq.trans h) rfl

/-- One view after another: nothing happened, or the wish for global illumination was given up and the
subscribers were told so. -/
inductive Concedes (v : View) : View → Prop where
  | keeps : Concedes v v
  | drops (wanted : v.desk.settings.enabled = true) :
      Concedes v
        { v with
          desk := { v.desk with draft := v.desk.draft.noteOff }
          deeds := v.deeds ++ [.event (.enabledChanged false)] }

namespace Concedes

variable {u v w : View}

theorem adopt_nothing (v : View) : v.Concedes (v.adopt v.desk []) := by
  have same : v.adopt v.desk [] = v := by simp [adopt, perform]
  rw [same]
  exact .keeps

theorem trans (first : u.Concedes v) (second : v.Concedes w) : u.Concedes w := by
  cases first with
  | keeps => exact second
  | drops wanted =>
    cases second with
    | keeps => exact .drops wanted
    | drops still => contradiction

theorem desk_eq (h : v.Concedes w) : w.desk = { v.desk with draft := w.desk.draft } := by
  cases h <;> rfl

theorem draft_eq (h : v.Concedes w) :
    w.desk.draft = { v.desk.draft with
      settings := { v.desk.settings with enabled := w.desk.settings.enabled } } := by
  cases h <;> rfl

theorem scene_eq (h : v.Concedes w) : w.scene = v.scene := by
  cases h <;> rfl

theorem calls_eq (h : v.Concedes w) : w.calls = v.calls := by
  cases h with
  | keeps => rfl
  | drops => simp [calls, Entry.call?]

end Concedes

end View

namespace Bench

def view (b : Bench) : View := ⟨b.desk, b.stage.scene, b.stage.outlet.deeds⟩

@[simp] theorem view_desk (b : Bench) : b.view.desk = b.desk := rfl

@[simp] theorem view_scene (b : Bench) : b.view.scene = b.stage.scene := rfl

@[simp] theorem view_perform (b : Bench) (es : List Effect) :
    (b.perform es).view = b.view.perform es := by
  simp [view, perform, View.perform, Stage.scene_perform, Stage.deeds_perform]

@[simp] theorem view_adopt (b : Bench) (r : Decision Desk α) :
    (b.adopt r).view = b.view.adopt r.state r.effects := by
  simp [view, adopt, View.adopt, View.perform, Stage.scene_perform, Stage.deeds_perform]

theorem refreshIfRequested_upkeep (b : Bench) :
    View.Upkeeps b.view b.refreshIfRequested.view ∧
      b.refreshIfRequested.desk.draft.pending = b.desk.draft.pending ∧
      b.refreshIfRequested.desk.refreshRequested = false := by
  unfold refreshIfRequested
  split
  · rw [view_adopt]
    exact ⟨.single (.refresh b.view), Desk.refreshCameras_pending ..,
      congrArg Desk.refreshRequested (Desk.refreshCameras_state ..)⟩
  · rename_i unasked
    exact ⟨.refl, rfl, by simpa using unasked⟩

theorem noticeDisabled_upkeep (b : Bench) :
    let c := b.adopt (b.desk.noticeDisabled b.volume)
    View.Upkeeps b.view c.view ∧ c.desk.draft.pending = b.desk.draft.pending ∧
      c.desk.refreshRequested = b.desk.refreshRequested ∧
      (c.desk.draft.pending ≠ .rebuild → c.desk.settings.enabled = true →
        c.stage.scene.volume.active = true) := by
  intro c
  rcases b.desk.noticeDisabled_cases b.volume with
    ⟨unbuilt, wanted, inactive, decided⟩ | ⟨reflected, decided⟩
  · have move : View.Upkeep b.view c.view := by
      rw [show c = b.adopt _ from congrArg b.adopt decided, view_adopt]
      exact .notice b.view unbuilt wanted inactive
    refine ⟨.single move, ?_, ?_, ?_⟩ <;> simp only [c, decided, adopt]
    · rfl
    · intro _ off
      simp [Desk.settings, Draft.noteOff] at off
  · rw [show c = b from congrArg b.adopt decided]
    exact ⟨.refl, rfl, rfl, reflected⟩

theorem recheck_upkeep (b : Bench) (owed : b.desk.draft.pending = .rebuild) :
    let c := b.adopt (b.desk.recheck b.stage.scene)
    View.Upkeeps b.view c.view ∧ c.desk.draft.pending = .rebuild ∧
      c.desk.refreshRequested = b.desk.refreshRequested ∧
      (c.desk.settings.enabled = true → c.stage.scene.volume.started = false →
        c.desk.unmet? c.stage.scene.holds = none) := by
  intro c
  rcases b.desk.recheck_cases b.stage.scene with
    ⟨why, wanted, idle, unmet, decided⟩ | ⟨startable, decided⟩
  · have move : View.Upkeep b.view c.view := by
      rw [show c = b.adopt _ from congrArg b.adopt decided, view_adopt]
      exact .drop b.view why owed wanted idle unmet
    refine ⟨.single move, ?_, ?_, ?_⟩ <;> simp only [c, decided, adopt]
    · exact owed
    · intro off
      simp [Desk.settings, Draft.noteOff] at off
  · rw [show c = b from congrArg b.adopt decided]
    exact ⟨.refl, owed, rfl, startable⟩

theorem settle_view (b : Bench) (n : Notice) :
    (b.settle.perform [.note n]).view =
      { b.view with desk := { b.desk with draft := b.desk.draft.settle } } := by
  rw [view_perform]
  simp [View.perform, settle, view]

theorem work_view (b : Bench) (cheap : b.desk.draft.pending ≠ .rebuild) (n : Notice) :
    ((b.work b.desk.draft.pending).settle.perform [.note n]).view = b.view.work := by
  rw [settle_view]
  cases owed : b.desk.draft.pending with
  | rebuild => exact absurd owed cheap
  | clean => simp [work, View.work, View.perform, Desk.workEffects, owed]
  | overlayOnly | relight =>
    simp only [work, view_perform, View.work, Desk.workEffects, view_desk, owed]
    rfl

theorem rebuild_view (b : Bench) (owed : b.desk.draft.pending = .rebuild) (n : Notice) :
    (b.rebuild.settle.perform [.note n]).view =
      (b.adopt (b.desk.recheck b.stage.scene)).view.work := by
  have kept := (b.recheck_upkeep owed).2.1
  rw [settle_view]
  simp only [rebuild, view_perform, ← View.perform_append, View.work, Desk.workEffects, view_desk,
    kept]
  simp only [perform, volume, Stage.scene_perform]
  rfl

def prepare (b : Bench) : Bench :=
  let b := b.refreshIfRequested
  b.adopt (b.desk.noticeDisabled b.volume)

theorem prepare_idle {b : Bench} (listed : b.desk.refreshRequested = false)
    (reflected : b.desk.draft.pending ≠ .rebuild → b.desk.settings.enabled = true →
      b.volume.active = true) : b.prepare = b := by
  have quiet : b.refreshIfRequested = b := by
    unfold refreshIfRequested
    rw [listed, if_neg nofun]
  unfold prepare
  rw [quiet]
  rcases b.desk.noticeDisabled_cases b.volume with ⟨cheap, wanted, inactive, _⟩ | ⟨_, decided⟩
  · exact absurd ((reflected cheap wanted).symm.trans inactive) nofun
  · exact congrArg b.adopt decided

def finish (b : Bench) : Bench × Option Pending :=
  match b.desk.draft.pending with
  | .clean => (b, none)
  | owed => (((b.work owed).settle).perform [.note (.applied owed)], some owed)

theorem tick_eq (b : Bench) : b.tick = b.prepare.finish := rfl

theorem prepare_upkeep (b : Bench) :
    View.Upkeeps b.view b.prepare.view ∧ b.prepare.desk.draft.pending = b.desk.draft.pending ∧
      b.prepare.desk.refreshRequested = false ∧
      (b.prepare.desk.draft.pending ≠ .rebuild → b.prepare.desk.settings.enabled = true →
        b.prepare.stage.scene.volume.active = true) := by
  obtain ⟨listing, listing_owed, listed⟩ := b.refreshIfRequested_upkeep
  obtain ⟨noticing, noticing_owed, noticed, reflected⟩ :=
    b.refreshIfRequested.noticeDisabled_upkeep
  exact ⟨listing.trans noticing, noticing_owed.trans listing_owed, noticed.trans listed, reflected⟩

theorem finish_applied (b : Bench) :
    b.finish.2 = if b.desk.draft.pending = .clean then none else some b.desk.draft.pending := by
  unfold finish
  cases b.desk.draft.pending <;> rfl

theorem finish_cheap (b : Bench) (cheap : b.desk.draft.pending ≠ .rebuild) :
    b.finish.1.view = b.view.work := by
  cases owed : b.desk.draft.pending with
  | clean => simp [finish, owed, View.work_clean (v := b.view) owed]
  | rebuild => exact absurd owed cheap
  | overlayOnly | relight =>
    rw [← work_view b cheap (.applied b.desk.draft.pending)]
    simp [finish, owed]

theorem finish_rebuild (b : Bench) (owed : b.desk.draft.pending = .rebuild) :
    b.finish.1.view = (b.adopt (b.desk.recheck b.stage.scene)).view.work := by
  rw [← rebuild_view b owed (.applied .rebuild)]
  simp [finish, owed, work]

/-- A tick is some upkeep that leaves the owed work as it was, and then that work. -/
theorem tick_spec (b : Bench) :
    ∃ v, View.Upkeeps b.view v ∧ v.Ready ∧ v.desk.draft.pending = b.desk.draft.pending ∧
      b.tick.1.view = v.work ∧
      b.tick.2 = if v.desk.draft.pending = .clean then none else some v.desk.draft.pending := by
  obtain ⟨upkeep, same_owed, listed, reflected⟩ := b.prepare_upkeep
  rw [tick_eq, finish_applied]
  by_cases owed : b.prepare.desk.draft.pending = .rebuild
  · obtain ⟨dropping, still_owed, kept, startable⟩ := b.prepare.recheck_upkeep owed
    refine ⟨_, upkeep.trans dropping, ⟨?_, fun _ => startable, kept.trans listed⟩, ?_,
      finish_rebuild _ owed, ?_⟩
    · exact fun cheap => absurd still_owed cheap
    · rw [← same_owed, owed]
      exact still_owed
    · rw [view_desk, still_owed, owed]
  · exact ⟨_, upkeep, ⟨reflected, fun h => absurd h owed, listed⟩, same_owed,
      finish_cheap _ owed, rfl⟩

/-- What comes between the listing of the cameras and the owed work gives up the wish for global
illumination at most. -/
theorem tick_concedes (b : Bench) :
    ∃ v, b.refreshIfRequested.view.Concedes v ∧ b.tick.1.view = v.work := by
  have noticed : b.refreshIfRequested.view.Concedes b.prepare.view := by
    change View.Concedes _ (b.refreshIfRequested.adopt
      (b.refreshIfRequested.desk.noticeDisabled b.refreshIfRequested.volume)).view
    rw [view_adopt]
    rcases b.refreshIfRequested.desk.noticeDisabled_cases b.refreshIfRequested.volume with
      ⟨_, wanted, _, decided⟩ | ⟨_, decided⟩
    · rw [decided]
      exact .drops wanted
    · rw [decided]
      exact .adopt_nothing _
  rw [tick_eq]
  by_cases owed : b.prepare.desk.draft.pending = .rebuild
  · refine ⟨_, noticed.trans ?_, finish_rebuild _ owed⟩
    rw [view_adopt]
    rcases b.prepare.desk.recheck_cases b.prepare.stage.scene with
      ⟨_, wanted, _, _, decided⟩ | ⟨_, decided⟩
    · rw [decided]
      exact .drops wanted
    · rw [decided]
      exact .adopt_nothing _
  · exact ⟨_, noticed, finish_cheap _ owed⟩

theorem addConfigured_moves (b : Bench) (o : CascadeOverride) :
    View.Moves b.view (b.addConfigured o).view := by
  have adding : View.Move b.view (b.adopt (b.desk.addCascade (some b.volume))).view := by
    rw [view_adopt]
    exact .command Desk.addCascade_move
  unfold addConfigured
  dsimp only
  split
  · exact .single adding
  · rw [view_adopt]
    exact .tail (.single adding) (.command (Desk.updateCascade_move ..))

theorem foldl_addConfigured_moves (b : Bench) (os : List CascadeOverride) :
    View.Moves b.view (os.foldl addConfigured b).view := by
  induction os generalizing b with
  | nil => exact .refl
  | cons o rest ih => exact (b.addConfigured_moves o).trans (ih _)

theorem enableAtStartup_moves (b : Bench) (enable : Bool) :
    View.Moves b.view (b.enableAtStartup enable).view := by
  unfold enableAtStartup
  cases enable with
  | false => exact .refl
  | true =>
    have asking : View.Move b.view (b.adopt (b.desk.setEnabled b.stage.scene.holds true)).view := by
      rw [view_adopt]
      exact .command (Desk.setEnabled_move true)
    simp only [if_true]
    split
    · exact .single asking
    · rw [view_perform, View.perform_note]
      exact .single asking

def fill (b : Bench) (plan : StartupPlan) : Bench :=
  let b := b.perform [.call (.participants .everything), .note .volumeCreated]
  let b := plan.cascades.foldl addConfigured b
  b.adopt (b.desk.refreshCameras b.stage.scene)

theorem setUp_eq (b : Bench) (plan : StartupPlan) :
    b.setUp plan = ((b.fill plan).perform
      [.publish (.cascadesEditableChanged (!(b.fill plan).volume.started))]).enableAtStartup
        plan.enable := rfl

theorem fill_moves (b : Bench) (plan : StartupPlan) :
    View.Moves (b.view.perform [.call (.participants .everything)]) (b.fill plan).view := by
  let opened := b.perform [.call (.participants .everything), .note .volumeCreated]
  let filled := plan.cascades.foldl addConfigured opened
  have opening : opened.view = b.view.perform [.call (.participants .everything)] := by
    rw [view_perform, ← List.singleton_append, View.perform_append, View.perform_note]
  rw [← opening]
  refine (opened.foldl_addConfigured_moves plan.cascades).tail ?_
  rw [show (b.fill plan).view = filled.view.adopt _ _ from view_adopt ..]
  exact .upkeep (.refresh filled.view)

theorem setUp_moves (b : Bench) (plan : StartupPlan) :
    View.Moves ((b.fill plan).view.perform
      [.publish (.cascadesEditableChanged (!(b.fill plan).view.scene.volume.started))])
        (b.setUp plan).view := by
  rw [setUp_eq, view_scene, ← volume, ← view_perform]
  exact enableAtStartup_moves _ plan.enable

end Bench

end VoxelGI
