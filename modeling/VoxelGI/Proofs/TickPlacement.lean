import Mathlib.Data.List.ReduceOption
import VoxelGI.Proofs.Freshness

/-! Ticks between assignments. What will have been written once the owed work is done is the outlook
of a volume: a tick leaves it as it is, and what an assignment makes of it does not depend on the
work that is owed. So it does not matter when ticks take place, as long as one comes last. -/
namespace VoxelGI

namespace Settings

/-- Settings after others: what is left alone by work of a level is the same. -/
structure Revises (s' s : Settings) (level : Pending) : Prop where
  enabled : s'.enabled = s.enabled
  grids : .rebuild ≤ level ∨ (s'.resolution = s.resolution ∧ s'.octantCount = s.octantCount)
  lighting : .relight ≤ level ∨
    (s'.bounceCount = s.bounceCount ∧ s'.highQuality = s.highQuality ∧
      s'.anisotropic = s.anisotropic ∧ s'.thinWallCounter = s.thinWallCounter ∧
      s'.conserveMemory = s.conserveMemory)
  overlay : .overlayOnly ≤ level ∨ s'.overlay = s.overlay

end Settings

/-- What an assignment makes of the settings, and the work that this calls for; nothing if it is
refused. The work that is owed already has no say in it. -/
def Assignment.revision? (s : Settings) : Assignment → Option (Settings × Pending)
  | .resolution grid => whole grid { s with resolution := grid }
  | .resolutionAxis axis count =>
    let grid := s.resolution.set axis count
    whole grid { s with resolution := grid }
  | .octantCount grid => whole grid { s with octantCount := grid }
  | .octantCountAxis axis count =>
    let grid := s.octantCount.set axis count
    whole grid { s with octantCount := grid }
  | .bounceCount count => some ({ s with bounceCount := count }, .relight)
  | .highQuality value => some ({ s with highQuality := value }, .relight)
  | .anisotropic value => some ({ s with anisotropic := value }, .relight)
  | .conserveMemory value => some ({ s with conserveMemory := value }, .relight)
  | .thinWallCounter value => some ({ s with thinWallCounter := value }, .relight)
  | .overlay new =>
    if s.overlay = new then none else some ({ s with overlay := new }, .overlayOnly)
where
  whole (grid : Grid) (s : Settings) : Option (Settings × Pending) :=
    if grid.isAllocatable then some (s, .rebuild) else none

theorem Assignment.revises {s s' : Settings} {level : Pending} {a : Assignment}
    (revision : a.revision? s = some (s', level)) : s'.Revises s level := by
  have whole {grid : Grid} {t : Settings} (taken : revision?.whole grid t = some (s', level))
      (enabled : t.enabled = s.enabled) : s'.Revises s level := by
    obtain ⟨_, same⟩ := Option.ite_none_right_eq_some.mp taken
    obtain ⟨rfl, rfl⟩ := Prod.mk.inj (Option.some.inj same)
    exact ⟨enabled, .inl (by decide), .inl (by decide), .inl (by decide)⟩
  cases a with
  | resolution | resolutionAxis | octantCount | octantCountAxis => exact whole revision rfl
  | bounceCount | highQuality | anisotropic | conserveMemory | thinWallCounter =>
    obtain ⟨rfl, rfl⟩ := Prod.mk.inj (Option.some.inj revision)
    exact ⟨rfl, .inr ⟨rfl, rfl⟩, .inl (by decide), .inl (by decide)⟩
  | overlay overlay =>
    obtain ⟨_, same⟩ := Option.ite_none_left_eq_some.mp revision
    obtain ⟨rfl, rfl⟩ := Prod.mk.inj (Option.some.inj same)
    exact ⟨rfl, .inr ⟨rfl, rfl⟩, .inr ⟨rfl, rfl, rfl, rfl, rfl⟩, .inl (by decide)⟩

namespace Draft

theorem assign_state (d : Draft) (a : Assignment) :
    (d.assign a).state = match a.revision? d.settings with
      | none => d
      | some (settings, work) => d.revise settings work := by
  cases a with
  | resolution | resolutionAxis =>
    simp only [assign, assignResolution, Assignment.revision?, Assignment.revision?.whole]
    split <;> rfl
  | octantCount | octantCountAxis =>
    simp only [assign, assignOctantCount, Assignment.revision?, Assignment.revision?.whole]
    split <;> rfl
  | bounceCount | highQuality | anisotropic | conserveMemory | thinWallCounter => rfl
  | overlay overlay =>
    simp only [assign, Assignment.revision?]
    split <;> rfl

theorem deeds_assign (d : Draft) (a : Assignment) (id : String) :
    Effect.deeds id (d.assign a).effects = [] := by
  cases a <;> simp only [assign, assignResolution, assignOctantCount] <;>
    first | rfl | (split <;> rfl)

end Draft

namespace Written

/-- What will have been written once the owed work is done, for the settings that are wanted. -/
def bring (w : Written) (s : Settings) (owed : Pending) (started : Bool) : Written where
  resolution := if .rebuild ≤ owed then some s.resolution else w.resolution
  octantCount := if .rebuild ≤ owed then some s.octantCount else w.octantCount
  bounceCount := if .relight ≤ owed then some s.bounceCount else w.bounceCount
  highQuality := if .relight ≤ owed then some s.highQuality else w.highQuality
  anisotropic := if .relight ≤ owed then some s.anisotropic else w.anisotropic
  thinWallCounter := if .relight ≤ owed then some s.thinWallCounter else w.thinWallCounter
  conserveMemory := if .relight ≤ owed then some s.conserveMemory else w.conserveMemory
  overlay := if started then (if .overlayOnly ≤ owed then some s.overlay else w.overlay) else w.overlay

/-- A value that two histories will have written alike they will still have written alike after
more work was asked for, whichever of them had written it already. -/
theorem pick_mark {α : Type} {level change p q : Pending} {new new' old old' : α}
    (alike : (if level ≤ p then new else old) = if level ≤ q then new else old')
    (touched : level ≤ change ∨ new' = new) :
    (if level ≤ p.mark change then new' else old) = if level ≤ q.mark change then new' else old' := by
  simp only [Pending.mark_eq_max, le_max_iff]
  by_cases reached : level ≤ change
  · simp only [reached, or_true, if_true]
  · simp only [reached, or_false, touched.resolve_left reached]
    exact alike

theorem bring_revised {v w : Written} {s s' : Settings} {p q level : Pending} {started : Bool}
    (alike : v.bring s p started = w.bring s q started) (revised : s'.Revises s level) :
    v.bring s' (p.mark level) started = w.bring s' (q.mark level) started := by
  simp only [bring, Written.mk.injEq] at alike ⊢
  obtain ⟨a, b, c, d, e, f, g, h⟩ := alike
  have some_eq {α : Type} {x y : α} (same : x = y) : some x = some y := congrArg some same
  refine ⟨pick_mark a ?_, pick_mark b ?_, pick_mark c ?_, pick_mark d ?_, pick_mark e ?_,
    pick_mark f ?_, pick_mark g ?_, ?_⟩
  · exact revised.grids.imp_right fun same => some_eq same.1
  · exact revised.grids.imp_right fun same => some_eq same.2
  · exact revised.lighting.imp_right fun same => some_eq same.1
  · exact revised.lighting.imp_right fun same => some_eq same.2.1
  · exact revised.lighting.imp_right fun same => some_eq same.2.2.1
  · exact revised.lighting.imp_right fun same => some_eq same.2.2.2.1
  · exact revised.lighting.imp_right fun same => some_eq same.2.2.2.2
  · cases started with
    | false => exact h
    | true => exact pick_mark h (revised.overlay.imp_right some_eq)

theorem notes_rebuild (w : Written) (s : Settings) (cascades : CascadeStack) (alive : Camera → Bool)
    (started : Bool) :
    w.notes (Effect.calls (s.rebuildEffects cascades started alive ++
      s.afterRebuild started started)) = w.bring s .rebuild started := by
  have switched (u : Written) : u.notes (Effect.calls (
      if s.enabled then s.activation started alive
        else [.call (.setActive false), .note .deactivated])) = u := by
    cases s.enabled
    · rfl
    · exact u.notes_activation s started alive
  rw [Settings.rebuildEffects, Effect.calls_append, Effect.calls_append, Effect.calls_append,
    notes_append, notes_append, notes_append, switched]
  cases started
  · change (notes _ (Effect.calls cascades.effects)).notes _ = _
    rw [notes_chores _ cascades.chores]
    rfl
  · rfl

theorem notes_relight (w : Written) (s : Settings) {volume : Volume}
    (running : volume.active = true → volume.started = true) :
    w.notes (Effect.calls (s.relightEffects volume)) = w.bring s .relight volume.started := by
  rw [Settings.calls_relightEffects, notes_append, notes_lightingCalls]
  cases active : volume.active
  · cases volume.started <;> rfl
  · rw [running active]
    rfl

theorem notes_overlay (w : Written) (s : Settings) (volume : Volume) :
    w.notes (Effect.calls (s.overlayEffects volume)) = w.bring s .overlayOnly volume.started := by
  rw [Settings.calls_overlayEffects]
  cases volume.started <;> rfl

end Written

namespace CascadeWritten

variable {handle : CascadeHandle}

theorem Has.unique {v w : CascadeWritten} {s : CascadeSettings} (hv : v.Has s) (hw : w.Has s) :
    v = w := by
  obtain ⟨_, _, _, _⟩ := v
  obtain ⟨_, _, _, _⟩ := w
  simp_all [Has]

theorem notes_stack_congr {cascades : CascadeStack} (nodup : cascades.handles.Nodup)
    {v w : CascadeWritten} (others : handle ∉ cascades.handles → v = w) :
    notes handle v (Effect.calls cascades.effects) =
      notes handle w (Effect.calls cascades.effects) := by
  by_cases known : handle ∈ cascades.handles
  · obtain ⟨e, inside, rfl⟩ := List.mem_map.mp known
    exact (notes_stack nodup inside v).unique (notes_stack nodup inside w)
  · rw [others known]

end CascadeWritten

namespace Desk

variable {d : Desk}

theorem work_cheap_roles (cheap : d.draft.pending ≠ .rebuild) (scene : Scene) :
    .cascade ∉ Effect.roles (d.workEffects scene) := by
  unfold workEffects
  cases level : d.draft.pending with
  | rebuild => exact absurd level cheap
  | clean => simp [Effect.roles]
  | overlayOnly =>
    simp only [Settings.roles_overlayEffects]
    split <;> decide
  | relight =>
    simp only [Settings.roles_relightEffects]
    cases scene.volume.active <;> cases scene.volume.started <;> decide

theorem workEffects_handing (owed : d.draft.pending = .rebuild) {scene : Scene}
    (idle : scene.volume.started = false) :
    ∃ first rest, d.workEffects scene = first ++ (d.cascades.effects ++ rest) ∧
      .cascade ∉ Effect.roles first ∧ .cascade ∉ Effect.roles rest := by
  have effects (now : Bool) : ∃ rest,
      d.settings.rebuildEffects d.cascades false scene.holds ++ d.settings.afterRebuild false now =
        (d.settings.gridCalls ++ d.settings.lightingCalls) ++ (d.cascades.effects ++ rest) ∧
      .cascade ∉ Effect.roles rest := by
    simp only [Settings.rebuildEffects, Bool.false_eq_true, if_false, List.append_assoc]
    refine ⟨_, rfl, ?_⟩
    rw [Effect.roles_append, Settings.roles_afterRebuild]
    cases d.settings.enabled <;> cases now <;> exact of_decide_eq_false rfl
  simp only [workEffects, owed, idle]
  obtain ⟨rest, same, others⟩ := effects _
  refine ⟨_, rest, same, ?_, others⟩
  exact of_decide_eq_false rfl

end Desk

namespace View

variable {v w : View}

structure Steady (v : View) : Prop where
  agrees : v.desk.settings.enabled = v.scene.volume.active
  running : v.scene.volume.active = true → v.scene.volume.started = true
  listed : v.desk.refreshRequested = false
  nodup : v.desk.cascades.handles.Nodup

def assign (v : View) (a : Assignment) : View := { v with desk := (v.desk.assign a).state }

theorem Steady.work_status (h : v.Steady) : v.work.scene.status = v.scene.status := by
  by_cases owed : v.desk.draft.pending = .rebuild
  · rw [work_scene, Desk.status_rebuild owed, h.agrees]
    cases active : v.scene.volume.active with
    | false => simp [Scene.status, active]
    | true => simp [Scene.status, active, h.running active]
  · rw [work_scene, Desk.applyAll_workEffects owed]

theorem Steady.of_status (h : v.Steady) (same : w.scene.status = v.scene.status)
    (enabled : w.desk.settings.enabled = v.desk.settings.enabled)
    (listed : w.desk.refreshRequested = v.desk.refreshRequested)
    (cascades : w.desk.cascades = v.desk.cascades) : w.Steady where
  agrees := (enabled.trans h.agrees).trans (congrArg Scene.Status.active same).symm
  running active :=
    (congrArg Scene.Status.started same).trans
      (h.running ((congrArg Scene.Status.active same).symm.trans active))
  listed := listed.trans h.listed
  nodup := cascades ▸ h.nodup

theorem Steady.work (h : v.Steady) : v.work.Steady :=
  h.of_status h.work_status rfl rfl rfl

theorem Steady.assign (h : v.Steady) (a : Assignment) : (v.assign a).Steady :=
  h.of_status rfl (v.desk.draft.assign_enabled a) rfl rfl

def writtenTo (v : View) (handle : CascadeHandle) : CascadeWritten :=
  VoxelGI.writtenTo v.scene.id handle v.deeds

theorem Steady.written_work (h : v.Steady) :
    v.work.written =
      v.written.bring v.desk.settings v.desk.draft.pending v.scene.volume.started := by
  have started : v.work.scene.volume.started = v.scene.volume.started :=
    congrArg Scene.Status.started h.work_status
  rw [View.written_work]
  cases owed : v.desk.draft.pending with
  | clean =>
    simp only [Desk.workEffects, owed]
    cases v.scene.volume.started <;> rfl
  | overlayOnly =>
    simp only [Desk.workEffects, owed]
    exact Written.notes_overlay ..
  | relight =>
    simp only [Desk.workEffects, owed]
    exact Written.notes_relight _ _ h.running
  | rebuild =>
    rw [work_scene, Desk.applyAll_rebuild owed] at started
    simp only [Desk.workEffects, owed, started]
    exact Written.notes_rebuild ..

theorem writtenTo_work (v : View) (handle : CascadeHandle) :
    v.work.writtenTo handle =
      if v.desk.draft.pending = .rebuild ∧ v.scene.volume.started = false then
        CascadeWritten.notes handle (v.writtenTo handle) (Effect.calls v.desk.cascades.effects)
      else v.writtenTo handle := by
  have worked : v.work.writtenTo handle = CascadeWritten.notes handle (v.writtenTo handle)
      (Effect.calls (v.desk.workEffects v.scene)) := by
    rw [writtenTo, work_deeds, work_scene, Scene.applyAll_id, writtenTo_append]
    rfl
  rw [worked]
  by_cases handing : v.desk.draft.pending = .rebuild ∧ v.scene.volume.started = false
  · obtain ⟨first, rest, effects, before, after⟩ := Desk.workEffects_handing handing.1 handing.2
    rw [if_pos handing, effects, Effect.calls_append, Effect.calls_append,
      CascadeWritten.notes_append, CascadeWritten.notes_append,
      CascadeWritten.notes_of_roles before, CascadeWritten.notes_of_roles after]
  · rw [if_neg handing, CascadeWritten.notes_of_roles]
    cases running : v.scene.volume.started with
    | true => exact v.desk.work_frozen running
    | false => exact Desk.work_cheap_roles (fun owed => handing ⟨owed, running⟩) v.scene

/-- Two volumes that will be alike once the owed work is done at both. -/
structure Abreast (v w : View) : Prop where
  desk : v.work.desk = w.work.desk
  id : v.scene.id = w.scene.id
  status : v.scene.status = w.scene.status
  written : v.work.written = w.work.written
  cascades : ∀ handle, v.work.writtenTo handle = w.work.writtenTo handle

theorem Abreast.refl (v : View) : v.Abreast v := ⟨rfl, rfl, rfl, rfl, fun _ => rfl⟩

/-- A tick leaves what will be written as it is. -/
theorem Abreast.work (h : v.Abreast w) (steady : v.Steady) : v.work.Abreast w := by
  have settled : v.work.work = v.work := work_clean rfl
  refine ⟨?_, ?_, steady.work_status.trans h.status, ?_, fun handle => ?_⟩
  · rw [settled]
    exact h.desk
  · rw [work_scene, Scene.applyAll_id]
    exact h.id
  · rw [settled]
    exact h.written
  · rw [settled]
    exact h.cascades handle

theorem Abreast.settings (h : v.Abreast w) : v.desk.settings = w.desk.settings := by
  have same : v.work.desk.settings = w.work.desk.settings := congrArg Desk.settings h.desk
  exact same

theorem Abreast.cascades_eq (h : v.Abreast w) : v.desk.cascades = w.desk.cascades := by
  have same : v.work.desk.cascades = w.work.desk.cascades := congrArg Desk.cascades h.desk
  exact same

def revise (v : View) (settings : Settings) (work : Pending) : View :=
  { v with desk := { v.desk with draft := v.desk.draft.revise settings work } }

theorem assign_eq (v : View) (a : Assignment) :
    v.assign a = match a.revision? v.desk.settings with
      | none => v
      | some (settings, work) => v.revise settings work := by
  unfold assign Desk.assign Desk.settings
  dsimp only
  rw [Draft.assign_state]
  cases a.revision? v.desk.draft.settings <;> rfl

theorem Steady.revise (h : v.Steady) {s : Settings} {level : Pending}
    (revised : s.Revises v.desk.settings level) : (v.revise s level).Steady :=
  h.of_status rfl revised.enabled rfl rfl

theorem Abreast.revise (h : v.Abreast w) (hv : v.Steady) (hw : w.Steady) {s : Settings}
    {level : Pending} (revised : s.Revises v.desk.settings level) :
    (v.revise s level).Abreast (w.revise s level) := by
  have settings := h.settings
  have started : v.scene.volume.started = w.scene.volume.started :=
    congrArg Scene.Status.started h.status
  have cascades := h.cascades_eq
  refine ⟨?_, h.id, h.status, ?_, fun handle => ?_⟩
  · exact congrArg (fun d : Desk => { d with draft := ⟨s, .clean⟩ }) h.desk
  · have alike := h.written
    rw [hv.written_work, hw.written_work, ← settings, ← started] at alike
    rw [(hv.revise revised).written_work, (hw.revise (settings ▸ revised)).written_work]
    change v.written.bring s _ v.scene.volume.started = w.written.bring s _ w.scene.volume.started
    rw [← started]
    exact Written.bring_revised alike revised
  · have alike := h.cascades handle
    rw [writtenTo_work, writtenTo_work, ← started, ← cascades] at alike
    rw [writtenTo_work, writtenTo_work]
    change (if v.desk.draft.pending.mark level = .rebuild ∧ v.scene.volume.started = false then
        CascadeWritten.notes handle (v.writtenTo handle) (Effect.calls v.desk.cascades.effects)
        else v.writtenTo handle) =
      if w.desk.draft.pending.mark level = .rebuild ∧ w.scene.volume.started = false then
        CascadeWritten.notes handle (w.writtenTo handle) (Effect.calls w.desk.cascades.effects)
        else w.writtenTo handle
    rw [← started, ← cascades]
    simp only [Pending.mark_eq_rebuild_iff]
    by_cases rebuilding : level = .rebuild
    · simp only [rebuilding, or_true, true_and]
      cases running : v.scene.volume.started with
      | true => simpa [running] using alike
      | false =>
        refine CascadeWritten.notes_stack_congr hv.nodup fun stranger => ?_
        simpa only [CascadeWritten.notes_stack_stranger stranger, ite_self] using alike
    · simpa only [rebuilding, or_false] using alike

theorem Abreast.assign (h : v.Abreast w) (hv : v.Steady) (hw : w.Steady) (a : Assignment) :
    (v.assign a).Abreast (w.assign a) := by
  rw [assign_eq, assign_eq, ← h.settings]
  cases revision : a.revision? v.desk.settings with
  | none => exact h
  | some p => exact h.revise hv hw (Assignment.revises revision)

end View

theorem Bench.tick_steady {b : Bench} (h : b.view.Steady) : b.tick.1.view = b.view.work := by
  have wanted_runs (wanted : b.desk.settings.enabled = true) : b.stage.scene.volume.active = true :=
    h.agrees.symm.trans wanted
  have prepared : b.prepare = b := prepare_idle h.listed fun _ => wanted_runs
  have unchecked : b.adopt (b.desk.recheck b.stage.scene) = b := by
    rcases b.desk.recheck_cases b.stage.scene with ⟨_, wanted, idle, _⟩ | ⟨_, decided⟩
    · exact absurd ((h.running (wanted_runs wanted)).symm.trans idle) nofun
    · exact congrArg b.adopt decided
  rw [tick_eq, prepared]
  by_cases owed : b.desk.draft.pending = .rebuild
  · rw [finish_rebuild b owed, unchecked]
  · exact finish_cheap b owed

theorem steadied_custody : Custody .pristine (fun d _ => True ∧ True ∧ d.cascades = {})
    (fun v => v.Accounted ∧ v.Sound ∧ v.InStep) := by
  have dependable {free : Desk → List Entry → Prop} {held : View → Prop}
      (custody : Custody .dependable free held) : Custody .pristine free held :=
    custody.stricter (fun _ created => created.1) fun _ _ allowed => allowed
  have inStep : Custody .pristine (fun d _ => d.cascades = {}) View.InStep :=
    inStep_custody.stricter (fun _ created => created.2) fun _ _ _ => True.intro
  exact (dependable accounted_custody).both ((dependable sound_custody).both inStep)

namespace Session

variable {s t : Session} {ref : SceneRef} {v w : View}

structure Rests (s : Session) (ref : SceneRef) (v : View) : Prop extends s.Shows ref v where
  obeys : s.isOpen = true
  steady : v.Steady

theorem Rests.tick (here : s.Rests ref v) : (s.step (.command .tick)).1.Rests ref v.work := by
  have worked : (s.bench v.scene).tick.1.view = v.work := by
    rw [Bench.tick_steady (here.bench_view.symm ▸ here.steady), here.bench_view]
  have shown := here.ticked.1
  rw [worked] at shown
  rw [step_tick here.obeys]
  exact ⟨shown, (isOpen_tick s).trans here.obeys, here.steady.work⟩

theorem Rests.assign (here : s.Rests ref v) (a : Assignment) :
    (s.step (.command (.assign a))).1.Rests ref (v.assign a) := by
  have assigning : (s.step (.command (.assign a))).1 = s.adopt (s.desk.assign a) := by
    rw [step_obeys here.obeys]
    rfl
  obtain ⟨desk, scene, deeds⟩ := adopt_working here.phase here.scene (s.desk.assign a)
  have silent (id : String) : Effect.deeds id (s.desk.assign a).effects = [] :=
    Draft.deeds_assign ..
  have uncalled : Effect.calls (s.desk.assign a).effects = [] := Draft.calls_assign ..
  rw [uncalled] at scene
  rw [silent, List.append_nil] at deeds
  rw [assigning]
  refine ⟨⟨desk ▸ here.phase, ?_, scene, deeds.trans here.deeds⟩, ?_, here.steady.assign a⟩
  · rw [desk, here.desk]
    rfl
  · rw [isOpen_adopt]
    exact here.obeys

def assigning (a : Assignment) : Step := .command (.assign a)

/-- What a schedule says to do next: an assignment, or a tick where it leaves room for one. -/
def scheduled : Option Assignment → Step
  | none => .command .tick
  | some a => assigning a

/-- Two sessions that will be alike stay so, also if only one of them ticks in between. -/
theorem Rests.run_schedule (here : s.Rests ref v) (there : t.Rests ref w) (alike : v.Abreast w)
    (schedule : List (Option Assignment)) :
    ∃ v' w', (s.run (schedule.map scheduled)).Rests ref v' ∧
      (t.run (schedule.reduceOption.map assigning)).Rests ref w' ∧ v'.Abreast w' := by
  induction schedule generalizing s t v w with
  | nil => exact ⟨v, w, here, there, alike⟩
  | cons x rest ih =>
    cases x with
    | none => exact ih here.tick there (alike.work here.steady)
    | some a =>
      rw [List.reduceOption_cons_of_some]
      exact ih (here.assign a) (there.assign a) (alike.assign here.steady there.steady a)

theorem rests_after_tick {c : Config} (begun : s.Begins c) {earlier : List Step}
    (terms : s.OnTerms .pristine (earlier ++ [.command .tick]))
    (obeys : (s.run earlier).isOpen = true)
    (working : (s.run (earlier ++ [.command .tick])).desk.phase = .working ref) :
    ∃ v, (s.run (earlier ++ [.command .tick])).Rests ref v := by
  obtain ⟨v, ready, ⟨accounted, sound, inStep⟩, shown⟩ := steadied_custody.run_tick terms
    (.begins begun ⟨True.intro, True.intro, rfl⟩) obeys working
  have obeys_still : (s.run (earlier ++ [.command .tick])).isOpen = true := by
    rw [run_append, run_cons, step_obeys obeys]
    exact (isOpen_tick _).trans obeys
  exact ⟨v.work, shown, obeys_still,
    { agrees := View.work_agrees ready accounted
      running := sound.work.running
      listed := ready.listed
      nodup := inStep.nodup }⟩

/-- After a tick that left a volume under control, it does not matter when further ticks take place
between assignments, as long as one comes last: the desk is the same in the end and owes nothing, the
values last written to the volume and to each cascade are the same, and so is whether the volume has
started and is active. -/
theorem tick_placement_immaterial {c : Config} (begun : s.Begins c) {earlier : List Step}
    (terms : s.OnTerms .pristine (earlier ++ [.command .tick]))
    (obeys : (s.run earlier).isOpen = true)
    (working : (s.run (earlier ++ [.command .tick])).desk.phase = .working ref)
    (schedule : List (Option Assignment)) :
    let start := s.run (earlier ++ [.command .tick])
    let often := start.run (schedule.map scheduled ++ [.command .tick])
    let once := start.run (schedule.reduceOption.map assigning ++ [.command .tick])
    often.desk = once.desk ∧ once.desk.draft.pending = .clean ∧
      ∃ scene scene', often.renderer.scene? ref = some scene ∧
        once.renderer.scene? ref = some scene' ∧ scene.id = scene'.id ∧
        written scene.id often.outlet.deeds = written scene.id once.outlet.deeds ∧
        (∀ handle, writtenTo scene.id handle often.outlet.deeds =
          writtenTo scene.id handle once.outlet.deeds) ∧
        scene.volume.started = scene'.volume.started ∧
        scene.volume.active = scene'.volume.active := by
  intro start often once
  obtain ⟨v, here⟩ := rests_after_tick begun terms obeys working
  obtain ⟨x, y, resting, resting', alike⟩ := here.run_schedule here (.refl v) schedule
  have last : often.Rests ref x.work := by
    rw [show often = _ from run_append ..]
    exact resting.tick
  have last' : once.Rests ref y.work := by
    rw [show once = _ from run_append ..]
    exact resting'.tick
  have done := alike.work resting.steady
  have id : x.work.scene.id = y.work.scene.id := by
    rw [done.id, View.work_scene, Scene.applyAll_id]
  have status : x.work.scene.status = y.work.scene.status :=
    done.status.trans resting'.steady.work_status.symm
  rw [last.desk, last'.desk, last.deeds, last'.deeds]
  refine ⟨alike.desk, rfl, x.work.scene, y.work.scene, last.scene, last'.scene, id, ?_, fun handle => ?_,
    congrArg Scene.Status.started status, congrArg Scene.Status.active status⟩
  · have same := alike.written
    unfold View.written at same
    rwa [← id] at same
  · have same := alike.cascades handle
    unfold View.writtenTo at same
    rwa [← id] at same

theorem tick_placement_immaterial_idle :
    let s := onOneScene { cascades := [{}] }
    let schedule : List (Option Assignment) := [some (.bounceCount 3), none,
      some (.resolutionAxis .y 8), none, some (.octantCount ⟨0, 1, 1⟩), some (.overlay .lighting)]
    let start := s.run [.command .tick]
    s.OnTerms .pristine [.command .tick] ∧ start.desk.phase = .working 0 ∧
      (start.run (schedule.map scheduled ++ [.command .tick])).desk =
        (start.run (schedule.reduceOption.map assigning ++ [.command .tick])).desk := by
  intro s schedule start
  have found : s.renderer.discover.found = some (0, Scene.create "main" {}) := by decide
  have terms : s.OnTerms .pristine ([] ++ [.command .tick]) :=
    ⟨admits_found found ⟨rfl, rfl⟩, True.intro⟩
  have working : start.desk.phase = .working 0 := by decide
  have same := tick_placement_immaterial (onOneScene_begins _) terms rfl working schedule
  exact ⟨terms, working, same.1⟩

end Session

end VoxelGI
