import VoxelGI.Proofs.Custody
import VoxelGI.Proofs.PendingOrder

/-! No update is lost. The values last written to a volume are read off the calls of a run. From the
first rebuild on, every wanted value that was not written is covered by the work that is owed, so a
tick leaves nothing to write. -/
namespace VoxelGI

structure Written where
  resolution : Option Grid := none
  octantCount : Option Grid := none
  bounceCount : Option UInt32 := none
  highQuality : Option Bool := none
  anisotropic : Option Bool := none
  thinWallCounter : Option Single := none
  conserveMemory : Option Bool := none
  overlay : Option Overlay := none
deriving DecidableEq

namespace Written

def note (w : Written) : Call → Written
  | .resolution grid => { w with resolution := some grid }
  | .octantCount grid => { w with octantCount := some grid }
  | .bounceCount count => { w with bounceCount := some count }
  | .highQuality value => { w with highQuality := some value }
  | .anisotropic value => { w with anisotropic := some value }
  | .thinWallCounter value => { w with thinWallCounter := some value }
  | .conserveMemory value => { w with conserveMemory := some value }
  | .overlay overlay => { w with overlay := some overlay }
  | _ => w

def notes (w : Written) (cs : List Call) : Written := cs.foldl note w

theorem notes_append (w : Written) (first second : List Call) :
    w.notes (first ++ second) = (w.notes first).notes second :=
  List.foldl_append

@[simp] theorem notes_nil (w : Written) : w.notes [] = w := rfl

@[simp] theorem notes_cons (w : Written) (c : Call) (cs : List Call) :
    w.notes (c :: cs) = (w.note c).notes cs := rfl

theorem notes_chores (w : Written) {cs : List Call} (chores : ∀ c ∈ cs, c.isChore = true) :
    w.notes cs = w := by
  induction cs with
  | nil => rfl
  | cons c rest ih =>
    have kept : w.note c = w := by
      have chore := chores c List.mem_cons_self
      cases c <;> first | rfl | contradiction
    rw [notes_cons, kept]
    exact ih fun c' h => chores c' (List.mem_cons_of_mem c h)

theorem notes_lightingCalls (w : Written) (s : Settings) :
    w.notes (Effect.calls s.lightingCalls) =
      { w with
        bounceCount := some s.bounceCount
        highQuality := some s.highQuality
        anisotropic := some s.anisotropic
        thinWallCounter := some s.thinWallCounter
        conserveMemory := some s.conserveMemory } := rfl

theorem notes_activation (w : Written) (s : Settings) (wasStarted : Bool) (alive : Camera → Bool) :
    w.notes (Effect.calls (s.activation wasStarted alive)) = w := by
  cases wasStarted <;> rfl

def HasGrids (w : Written) (s : Settings) : Prop :=
  w.resolution = some s.resolution ∧ w.octantCount = some s.octantCount

def HasLighting (w : Written) (s : Settings) : Prop :=
  w.bounceCount = some s.bounceCount ∧ w.highQuality = some s.highQuality ∧
    w.anisotropic = some s.anisotropic ∧ w.thinWallCounter = some s.thinWallCounter ∧
    w.conserveMemory = some s.conserveMemory

def HasOverlay (w : Written) (s : Settings) : Prop := w.overlay = some s.overlay

structure UpToDate (w : Written) (s : Settings) (started : Bool) : Prop where
  grids : w.HasGrids s
  lighting : w.HasLighting s
  overlay : started = true → w.HasOverlay s

end Written

def written (id : String) (deeds : List Entry) : Written :=
  Written.notes {} (deeds.filterMap (Entry.callTo? id))

/-- The work that is owed covers every value that is wanted and was not written. -/
structure Draft.Covers (d : Draft) (w : Written) (started : Bool) : Prop where
  grids : ¬ w.HasGrids d.settings → d.pending = .rebuild
  lighting : ¬ w.HasLighting d.settings → .relight ≤ d.pending
  overlay : started = true → ¬ w.HasOverlay d.settings → .overlayOnly ≤ d.pending

namespace Draft.Covers

variable {d : Draft} {w : Written} {started : Bool}

/-- A revision keeps what it does not touch; it marks the work for the rest. -/
theorem revise {s : Settings} {work : Pending} (h : d.Covers w started)
    (grids : work = .rebuild ∨ (w.HasGrids d.settings → w.HasGrids s))
    (lighting : .relight ≤ work ∨ (w.HasLighting d.settings → w.HasLighting s))
    (overlay : .overlayOnly ≤ work ∨ (w.HasOverlay d.settings → w.HasOverlay s)) :
    (d.revise s work).Covers w started where
  grids missing := by
    change d.pending.mark work = .rebuild
    rw [Pending.mark_eq_rebuild_iff]
    rcases grids with dearest | same
    · exact .inr dearest
    · exact .inl (h.grids fun had => missing (same had))
  lighting missing := by
    change .relight ≤ d.pending.mark work
    rw [Pending.mark_eq_max, le_max_iff]
    rcases lighting with enough | same
    · exact .inr enough
    · exact .inl (h.lighting fun had => missing (same had))
  overlay running missing := by
    change .overlayOnly ≤ d.pending.mark work
    rw [Pending.mark_eq_max, le_max_iff]
    rcases overlay with enough | same
    · exact .inr enough
    · exact .inl (h.overlay running fun had => missing (same had))

theorem assignResolution (h : d.Covers w started) (grid : Grid) :
    (d.assignResolution grid).state.Covers w started := by
  unfold Draft.assignResolution
  by_cases allocatable : grid.isAllocatable
  · rw [if_pos allocatable]
    exact h.revise (.inl rfl) (.inr id) (.inr id)
  · rw [if_neg allocatable]
    exact h

theorem assignOctantCount (h : d.Covers w started) (grid : Grid) :
    (d.assignOctantCount grid).state.Covers w started := by
  unfold Draft.assignOctantCount
  by_cases allocatable : grid.isAllocatable
  · rw [if_pos allocatable]
    exact h.revise (.inl rfl) (.inr id) (.inr id)
  · rw [if_neg allocatable]
    exact h

theorem assign (h : d.Covers w started) (a : Assignment) : (d.assign a).state.Covers w started := by
  cases a with
  | resolution grid => exact h.assignResolution grid
  | resolutionAxis axis count => exact h.assignResolution _
  | octantCount grid => exact h.assignOctantCount grid
  | octantCountAxis axis count => exact h.assignOctantCount _
  | bounceCount | highQuality | anisotropic | conserveMemory | thinWallCounter =>
    exact h.revise (.inr id) (.inl (by decide)) (.inr id)
  | overlay overlay =>
    unfold Draft.assign
    by_cases shown : d.settings.overlay = overlay
    · simp only [shown, if_true]
      exact h
    · simp only [shown, if_false]
      exact h.revise (.inr id) (.inr id) (.inl (by decide))

theorem command {alive : Camera → Bool} {volume : Option Volume} {k k' : Desk} {es : List Effect}
    (m : Desk.Move alive volume k es k') (h : k.draft.Covers w started) :
    k'.draft.Covers w started := by
  cases m with
  | assign a => exact h.assign a
  | wish enabled => exact h.revise (.inr id) (.inr id) (.inr id)
  | stay | miss | append | remove | edit | request => exact h
  | bind => exact ⟨h.grids, h.lighting, h.overlay⟩

theorem refresh {k : Desk} (scene : Scene) (h : k.draft.Covers w started) :
    (k.refreshCameras scene).state.draft.Covers w started := by
  rw [Desk.refreshCameras_state]
  exact ⟨h.grids, h.lighting, h.overlay⟩

theorem hasGrids (h : d.Covers w started) (cheap : d.pending ≠ .rebuild) : w.HasGrids d.settings :=
  Classical.byContradiction fun missing => cheap (h.grids missing)

theorem hasLighting (h : d.Covers w started) (cheap : ¬ .relight ≤ d.pending) :
    w.HasLighting d.settings :=
  Classical.byContradiction fun missing => cheap (h.lighting missing)

theorem hasOverlay (h : d.Covers w started) (cheap : ¬ .overlayOnly ≤ d.pending)
    (running : started = true) : w.HasOverlay d.settings :=
  Classical.byContradiction fun missing => cheap (h.overlay running missing)

end Draft.Covers

namespace Written

variable {w : Written} {s : Settings}

theorem upToDate_rebuild (w : Written) (s : Settings) (cascades : CascadeStack) (alive : Camera → Bool)
    (wasStarted nowStarted : Bool) :
    (w.notes (Effect.calls (s.rebuildEffects cascades wasStarted alive ++
      s.afterRebuild wasStarted nowStarted))).UpToDate s nowStarted := by
  have lit (u : Written) : (u.notes (Effect.calls (s.gridCalls ++ s.lightingCalls))).HasGrids s ∧
      (u.notes (Effect.calls (s.gridCalls ++ s.lightingCalls))).HasLighting s :=
    ⟨⟨rfl, rfl⟩, rfl, rfl, rfl, rfl, rfl⟩
  have kept (u : Written) : ∃ overlay, u.notes (Effect.calls (
      if wasStarted then [.call (.overlay .off)] else cascades.effects)) =
        { u with overlay := overlay } := by
    cases wasStarted
    · exact ⟨u.overlay, u.notes_chores cascades.chores⟩
    · exact ⟨some .off, rfl⟩
  have switched (u : Written) : u.notes (Effect.calls (
      if s.enabled then s.activation wasStarted alive
        else [.call (.setActive false), .note .deactivated])) = u := by
    cases s.enabled
    · rfl
    · exact u.notes_activation s wasStarted alive
  obtain ⟨grids, lighting⟩ := lit w
  obtain ⟨overlay, overlaid⟩ := kept (w.notes (Effect.calls (s.gridCalls ++ s.lightingCalls)))
  rw [Settings.rebuildEffects, Effect.calls_append, Effect.calls_append, Effect.calls_append,
    Written.notes_append, Written.notes_append, Written.notes_append, switched, overlaid]
  cases nowStarted
  · cases wasStarted <;> exact ⟨grids, lighting, fun h => absurd h Bool.false_ne_true⟩
  · cases wasStarted <;> exact ⟨grids, lighting, fun _ => rfl⟩

theorem upToDate_relight (grids : w.HasGrids s) (volume : Volume) :
    (w.notes (Effect.calls (s.relightEffects volume))).UpToDate s volume.started := by
  unfold Settings.relightEffects
  rw [Effect.calls_append, Written.notes_append, Written.notes_lightingCalls]
  cases volume.active
  · cases volume.started
    · exact ⟨grids, ⟨rfl, rfl, rfl, rfl, rfl⟩, fun h => nomatch h⟩
    · exact ⟨grids, ⟨rfl, rfl, rfl, rfl, rfl⟩, fun _ => rfl⟩
  · exact ⟨grids, ⟨rfl, rfl, rfl, rfl, rfl⟩, fun _ => rfl⟩

theorem upToDate_overlay (grids : w.HasGrids s) (lighting : w.HasLighting s) (volume : Volume) :
    (w.notes (Effect.calls (s.overlayEffects volume))).UpToDate s volume.started := by
  unfold Settings.overlayEffects
  cases volume.started
  · exact ⟨grids, lighting, fun h => nomatch h⟩
  · exact ⟨grids, lighting, fun _ => rfl⟩

theorem UpToDate.covers {d : Draft} {w : Written} {started : Bool} (h : w.UpToDate d.settings started) :
    d.Covers w started where
  grids missing := absurd h.grids missing
  lighting missing := absurd h.lighting missing
  overlay running missing := absurd (h.overlay running) missing

end Written

namespace View

def written (v : View) : Written := VoxelGI.written v.scene.id v.deeds

@[simp] theorem written_adopt (v : View) (d : Desk) (es : List Effect) :
    (v.adopt d es).written = v.written.notes (Effect.calls es) := by
  simp [written, VoxelGI.written, Written.notes_append]

@[simp] theorem written_perform (v : View) (es : List Effect) :
    (v.perform es).written = v.written.notes (Effect.calls es) :=
  written_adopt v v.desk es

@[simp] theorem written_work (v : View) :
    v.work.written = v.written.notes (Effect.calls (v.desk.workEffects v.scene)) :=
  written_perform v _

def Covered (v : View) : Prop := v.desk.draft.Covers v.written v.scene.volume.started

theorem Move.written {v w : View} (m : Move v w) : w.written = v.written := by
  obtain ⟨es, same, chores⟩ := m.effects
  rw [same, written_adopt]
  exact Written.notes_chores _ chores

theorem Move.covers {v w : View} (m : Move v w) {u : Written} {started : Bool}
    (h : v.desk.draft.Covers u started) : w.desk.draft.Covers u started := by
  cases m with
  | command m => exact h.command m
  | upkeep u =>
    cases u with
    | refresh => exact h.refresh v.scene
    | notice | drop => exact ⟨h.grids, h.lighting, h.overlay⟩

theorem Move.covered {v w : View} (m : Move v w) (h : v.Covered) : w.Covered := by
  have running : w.scene.volume.started = v.scene.volume.started :=
    congrArg Scene.Status.started m.status
  unfold Covered
  rw [m.written, running]
  exact m.covers h

def UpToDate (v : View) : Prop := v.written.UpToDate v.desk.settings v.scene.volume.started

theorem UpToDate.covered {v : View} (h : v.UpToDate) : v.Covered := h.covers

theorem work_rebuild_upToDate {v : View} (owed : v.desk.draft.pending = .rebuild) :
    v.work.UpToDate := by
  have running := congrArg (·.volume.started) (Desk.applyAll_rebuild owed v.scene)
  unfold UpToDate
  rw [written_work, work_scene, running]
  simp only [Desk.workEffects, owed]
  exact Written.upToDate_rebuild ..

theorem work_upToDate {v : View} (h : v.Covered) : v.work.UpToDate := by
  by_cases owed : v.desk.draft.pending = .rebuild
  · exact work_rebuild_upToDate owed
  · have grids := h.hasGrids owed
    unfold UpToDate
    rw [written_work, work_scene, Desk.applyAll_workEffects owed]
    unfold Desk.workEffects
    cases level : v.desk.draft.pending with
    | rebuild => exact absurd level owed
    | relight => exact Written.upToDate_relight grids v.scene.volume
    | overlayOnly =>
      exact Written.upToDate_overlay grids (h.hasLighting (by rw [level]; decide)) v.scene.volume
    | clean =>
      exact ⟨grids, h.hasLighting (by rw [level]; decide), h.hasOverlay (by rw [level]; decide)⟩

end View

def Terms.startedByCalls : Terms where
  created := fun _ => True
  meddled := fun before after => after.volume.started = true → before.volume.started = true

theorem covered_custody :
    Custody .startedByCalls (fun d _ => d.Settled) View.Covered where
  waits _ _ move settled := move.settled settled
  withdraws _ _ _ _ := nofun
  opens waiting settled _ := absurd waiting (settled _)
  announces editable h := by
    unfold View.Covered
    rw [View.written_perform]
    exact h
  moves m h := m.covered h
  works _ h := (View.work_upToDate h).covered
  meddles event kept h := by
    refine ⟨?_, ?_, fun running => ?_⟩ <;> simp only [View.written, Scene.undergo_id]
    · exact h.grids
    · exact h.lighting
    · exact h.overlay (kept running)
  releases _ _ _ := nofun
  empties _ settled := settled

/-- From a tick that rebuilt the volume on, whatever is wanted and was not written is owed: a rebuild
for the grids, at least a relight for the lighting, and at least an overlay once the volume has
started. Each later tick leaves nothing to write. -/
theorem Session.no_lost_update {s : Session} {phase : Phase} {steps : List Session.Step}
    (rebuilt : (s.step (.command .tick)).2 = .ticked ⟨phase, some .rebuild⟩)
    (terms : s.OnTerms .startedByCalls (.command .tick :: steps)) {ref : SceneRef}
    (working : (s.run (.command .tick :: steps)).desk.phase = .working ref) :
    ∃ scene, (s.run (.command .tick :: steps)).renderer.scene? ref = some scene ∧
      (s.run (.command .tick :: steps)).desk.draft.Covers
        (written scene.id (s.run (.command .tick :: steps)).outlet.deeds) scene.volume.started ∧
      ∀ earlier, .command .tick :: steps = earlier ++ [.command .tick] →
        (s.run earlier).isOpen = true →
        (written scene.id (s.run (.command .tick :: steps)).outlet.deeds).UpToDate
          (s.run (.command .tick :: steps)).desk.settings scene.volume.started := by
  obtain ⟨_, first, applied⟩ := step_ticked rebuilt
  obtain ⟨ref', w, _, owed, shown⟩ := tick_applied applied
  rw [← first] at shown
  have built := View.work_rebuild_upToDate owed
  have start : (s.step (.command .tick)).1.Upholds (fun d _ => d.Settled) View.Covered :=
    Session.Upholds.of_shows shown built.covered
  obtain ⟨v, here, covered⟩ := (covered_custody.run terms.2 start).held ref working
  change (s.run (.command .tick :: steps)).Shows ref v at here
  refine ⟨v.scene, here.scene, ?_, fun earlier split obeyed => ?_⟩
  · rw [here.desk, here.deeds]
    exact covered
  · have upToDate : v.UpToDate := by
      cases earlier with
      | nil =>
        obtain rfl : steps = [] := (List.cons.inj split).2
        obtain rfl := shown.unique here
        exact built
      | cons x mid =>
        obtain ⟨rfl, rfl⟩ := List.cons.inj split
        obtain ⟨u, _, owing, shown'⟩ := covered_custody.run_tick terms.2 start obeyed working
        obtain rfl := shown'.unique here
        exact View.work_upToDate owing
    rw [here.desk, here.deeds]
    exact upToDate

theorem Session.admits_startedByCalls (s : Session) (c : Command) :
    s.Admits .startedByCalls (.command c) := by
  cases c with
  | tick => exact fun _ _ _ _ _ _ => True.intro
  | _ => exact True.intro

theorem Session.no_lost_update_takeover :
    let s := onOneScene { enabled := true, cascades := [{}], overlay := .lighting }
    let steps := [.outside (.scene "main" .takeOver), .command (.assign (.bounceCount 3)),
      .command .tick]
    (s.step (.command .tick)).2 = .ticked ⟨.working 0, some .rebuild⟩ ∧
      s.OnTerms .startedByCalls (.command .tick :: steps) ∧
      (s.run (.command .tick :: steps)).desk.phase = .working 0 ∧
      ∃ scene, (s.run (.command .tick :: steps)).renderer.scene? 0 = some scene ∧
        (written scene.id (s.run (.command .tick :: steps)).outlet.deeds).UpToDate
          (s.run (.command .tick :: steps)).desk.settings scene.volume.started := by
  intro s steps
  have rebuilt : (s.step (.command .tick)).2 = .ticked ⟨.working 0, some .rebuild⟩ := by decide
  have terms : s.OnTerms .startedByCalls (.command .tick :: steps) := by
    apply onTerms_of_forall
    simp only [steps, List.forall_mem_cons]
    exact ⟨fun u => u.admits_startedByCalls .tick,
      fun u => admits_scene (fun _ running => running) u "main",
      fun u => u.admits_startedByCalls _, fun u => u.admits_startedByCalls .tick,
      List.forall_mem_nil _⟩
  have working : (s.run (.command .tick :: steps)).desk.phase = .working 0 := by decide
  have last : .command .tick :: steps = [.command .tick, .outside (.scene "main" .takeOver),
      .command (.assign (.bounceCount 3))] ++ [.command .tick] := rfl
  have obeyed : (s.run [.command .tick, .outside (.scene "main" .takeOver),
      .command (.assign (.bounceCount 3))]).isOpen = true := by decide
  obtain ⟨scene, there, _, upToDate⟩ := no_lost_update rebuilt terms working
  have final := upToDate _ last obeyed
  exact ⟨rebuilt, terms, working, scene, there, final⟩

end VoxelGI
