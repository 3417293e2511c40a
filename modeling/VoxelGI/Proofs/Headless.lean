import VoxelGI.Proofs.Concealment
import VoxelGI.Proofs.Lifecycle

/-! Sessions with the engine that has no device. Its only scene counts the frames until it is loaded
and the builds of its volume, and the control side reports its ticks; the two accounts agree. The
volume is taken over by the first tick that finds the scene loaded, and a build is made by each tick
that reports a rebuild and still wants global illumination, by no other. -/
namespace VoxelGI

section Builds

theorem Scene.builds_apply (s : Scene) (c : Call) :
    (s.apply c).volume.builds = s.volume.builds + if c = .build then 1 else 0 := by
  cases c with
  | setActive active =>
    rw [apply_setActive]
    split <;> rfl
  | start bounces anisotropic =>
    rw [apply_start]
    split <;> rfl
  | _ => rfl

theorem Scene.builds_applyAll (s : Scene) (cs : List Call) :
    (s.applyAll cs).volume.builds = s.volume.builds + cs.count .build := by
  induction cs generalizing s with
  | nil => rfl
  | cons c rest ih =>
    rw [applyAll_cons, ih, builds_apply, List.count_cons, Nat.add_assoc, Nat.add_comm (List.count ..)]
    simp only [beq_iff_eq]

/-- The owed work builds the volume once if it is a rebuild that still is wanted, and never
otherwise. -/
theorem Desk.count_build_workEffects (d : Desk) (scene : Scene) :
    (Effect.calls (d.workEffects scene)).count .build =
      if d.draft.pending = .rebuild ∧ d.settings.enabled = true then 1 else 0 := by
  have writes : (d.cascades.entries.flatMap CascadeEntry.writes).count .build = 0 := by
    rw [List.count_eq_zero]
    intro inside
    obtain ⟨e, _, written⟩ := List.mem_flatMap.mp inside
    simp [CascadeEntry.writes] at written
  rw [calls_workEffects]
  cases owed : d.draft.pending with
  | clean => rfl
  | overlayOnly =>
    cases started : scene.volume.started <;> simp [Settings.script, started]
  | relight =>
    cases started : scene.volume.started <;> cases active : scene.volume.active <;>
      simp [Settings.script, Settings.relightScript, Settings.lightingWrites, started, active]
  | rebuild =>
    cases started : scene.volume.started <;> cases wanted : d.settings.enabled <;>
      simp [Settings.script, Settings.rebuildScript, Settings.lightingWrites, started, wanted,
        writes] <;> split <;> rfl

theorem View.count_build_work (v : View) :
    v.work.calls.count .build = v.calls.count .build +
      if v.desk.draft.pending = .rebuild ∧ v.desk.settings.enabled = true then 1 else 0 := by
  rw [work_calls, List.count_append, Desk.count_build_workEffects]

theorem Unworked.count_build {ds ds' : List Entry} (h : Unworked ds ds') :
    (ds'.filterMap Entry.call?).count .build = (ds.filterMap Entry.call?).count .build := by
  obtain ⟨cs, split, easy⟩ := h.calls
  have unbuilt : cs.count .build = 0 :=
    List.count_eq_zero.mpr fun inside => absurd (easy _ inside) nofun
  rw [split, List.count_append, unbuilt, Nat.add_zero]

end Builds

def Reply.rebuilds : Reply → Bool
  | .ticked report => report.applied == some .rebuild
  | _ => false

theorem Reply.applies_of_rebuilds {r : Reply} (rebuilds : r.rebuilds = true) : r.applies = true := by
  cases r with
  | ticked report => simp_all [Reply.rebuilds, Reply.applies]
  | _ => contradiction

namespace Session

variable {c : Config} {s : Session} {scene : Scene} {steps : List Step} {left : Nat}

def rebuildsWanted (s : Session) (x : Step) : Bool :=
  (s.step x).2.rebuilds && (s.step x).1.desk.settings.enabled

/-- How many steps of a run are ticks that report a rebuild and leave global illumination wanted. -/
def wantedRebuilds : Session → List Step → Nat
  | _, [] => 0
  | s, x :: rest => (s.rebuildsWanted x).toNat + (s.step x).1.wantedRebuilds rest

theorem reported_eq_rebuild_iff {p : Pending} : reported p = some .rebuild ↔ p = .rebuild := by
  cases p <;> decide

theorem tick_builds (s : Session) :
    s.tick.1.outlet.calls.count .build = s.outlet.calls.count .build +
      if s.tick.2 = some .rebuild ∧ s.tick.1.desk.settings.enabled = true then 1 else 0 := by
  have worked {t : Session} {ref : SceneRef} {w : View} (shown : t.Shows ref w.work)
      (before : Unworked s.outlet.deeds w.deeds) :
      t.outlet.calls.count .build = s.outlet.calls.count .build +
        if reported w.desk.draft.pending = some .rebuild ∧ t.desk.settings.enabled = true
          then 1 else 0 := by
    have wanted : t.desk.settings.enabled = w.desk.settings.enabled := by
      rw [shown.desk]
      rfl
    have counted := w.count_build_work
    rw [View.calls, ← shown.deeds, View.calls, before.count_build] at counted
    simp only [Outlet.calls, counted, reported_eq_rebuild_iff, wanted]
  have outcome := s.ticks
  generalize s.tick.1 = t, s.tick.2 = did at outcome ⊢
  cases outcome with
  | idle _ _ deeds => simp [Outlet.calls, deeds]
  | withdraws _ _ _ _ deeds => simp [Outlet.calls, deeds, Entry.call?]
  | opens plan ref scene _ _ _ upkeep _ shown =>
    exact worked shown ((s.setUp_unworked ref scene plan).trans upkeep.moves.unworked)
  | works here upkeep _ shown =>
    exact worked shown (here.deeds ▸ upkeep.moves.unworked)

theorem step_builds (s : Session) (x : Step) :
    (s.step x).1.outlet.calls.count .build =
      s.outlet.calls.count .build + (s.rebuildsWanted x).toNat := by
  have quiet (rebuilds : (s.step x).2.rebuilds = false)
      (easy : Unworked s.outlet.deeds (s.step x).1.outlet.deeds) :
      (s.step x).1.outlet.calls.count .build =
        s.outlet.calls.count .build + (s.rebuildsWanted x).toNat := by
    rw [rebuildsWanted, rebuilds]
    exact easy.count_build
  by_cases ticking : x = .command .tick ∧ s.isOpen = true
  · obtain ⟨rfl, obeys⟩ := ticking
    rw [rebuildsWanted, step_obeys obeys, obey_ticks, tick_builds]
    by_cases did : s.tick.2 = some .rebuild <;> cases s.tick.1.desk.settings.enabled <;>
      simp [Reply.rebuilds, did]
  · have still : (s.step x).2.rebuilds = false := by
      rw [Bool.eq_false_iff]
      intro rebuilds
      have applies := Reply.applies_of_rebuilds rebuilds
      obtain rfl := ticks_of_applies applies
      have closed : s.isOpen = false := by simpa using ticking
      rw [step_closed closed] at applies
      contradiction
    refine quiet still ?_
    have advance := s.advances x
    generalize (s.step x).1 = t at advance ⊢
    cases advance with
    | undergoes e => exact .of_eq (Outlet.deeds_perform_notes ..)
    | still => exact .refl _
    | moves _ _ moved => exact moved.unworked
    | ticks obeys => exact absurd ⟨rfl, obeys⟩ ticking
    | ends ended => exact .of_eq ended.deeds

/-- The volume is built as often as a tick reports a rebuild and leaves global illumination wanted,
whatever the engine does. -/
theorem run_builds (s : Session) (steps : List Step) :
    (s.run steps).outlet.calls.count .build =
      s.outlet.calls.count .build + s.wantedRebuilds steps := by
  induction steps generalizing s with
  | nil => rfl
  | cons x rest ih => rw [run_cons, ih, step_builds, wantedRebuilds, Nat.add_assoc]

end Session

def Renderer.showing (scene : Scene) : Renderer := ⟨[⟨"headless", [some 0]⟩], [scene]⟩

structure Scene.IsHeadless (left : Nat) (scene : Scene) : Prop where
  id : scene.id = "headless"
  frames : scene.framesUntilReady = left
  visuals : scene.visuals ≠ 0
  supported : scene.supportsGi = true

theorem Scene.IsHeadless.headless (frames : Nat) : (Scene.headless frames).IsHeadless frames :=
  ⟨rfl, rfl, nofun, rfl⟩

theorem Scene.IsHeadless.applyAll {left : Nat} {scene : Scene} (h : scene.IsHeadless left)
    (cs : List Call) : (scene.applyAll cs).IsHeadless left where
  id := (scene.applyAll_id cs).trans h.id
  frames := (applyAll_keeps framesUntilReady cs (fun c _ s => by rw [apply_volume]) scene).trans
    h.frames
  visuals := by
    rw [applyAll_keeps Scene.visuals cs (fun c _ s => by rw [apply_volume]) scene]
    exact h.visuals
  supported := (applyAll_keeps supportsGi cs (fun c _ s => by rw [apply_volume]) scene).trans
    h.supported

theorem Scene.IsHeadless.offers_iff {left : Nat} {scene other : Scene} (h : scene.IsHeadless left)
    {ref : SceneRef} :
    (Renderer.showing scene).Offers ref other ↔ ref = 0 ∧ other = scene ∧ left = 0 := by
  constructor
  · rintro ⟨_, _, _, engines, slots, there, loaded, _⟩
    cases engines
    cases slots
    cases there
    exact ⟨rfl, rfl, h.frames.symm.trans loaded⟩
  · rintro ⟨rfl, rfl, rfl⟩
    exact ⟨_, _, _, rfl, rfl, rfl, h.frames, h.visuals⟩

namespace Session

variable {c : Config} {s : Session} {scene : Scene} {steps : List Step} {left : Nat}

/-- Whether a step is one that the control side and the engine without a device can make: any command,
and from outside a frame that goes by or another solution that takes over. -/
def Step.isHeadless : Step → Bool
  | .command _ => true
  | .outside e => e == .scene "headless" .advance || e == .scene "headless" .takeOver

def Step.advances : Step → Bool
  | .outside (.scene _ .advance) => true
  | _ => false

/-- A tick comes after so many frames, and the desk was not closed before it. -/
def TicksLoaded (left : Nat) (steps : List Step) : Prop :=
  ∃ before after, steps = before ++ .command .tick :: after ∧ .command .close ∉ before ∧
    left ≤ before.countP Step.advances

structure Hosted (left : Nat) (s : Session) : Prop where
  backend : ∃ scene, s.renderer = .showing scene ∧ scene.IsHeadless left ∧
    scene.volume.builds = s.outlet.calls.count .build
  phase : (∃ plan, s.desk.phase = .waiting plan) ∨ s.Controls 0 "headless"

theorem Hosted.acted {t : Session} (h : s.Hosted left) (acts : ActsAt 0 s t) :
    ∃ scene, t.renderer = .showing scene ∧ scene.IsHeadless left ∧
      scene.volume.builds = t.outlet.calls.count .build := by
  obtain ⟨scene, backend, headless, builds⟩ := h.backend
  obtain ⟨scene', es, there, renderer, deeds⟩ := acts
  rw [backend] at there renderer
  cases there
  refine ⟨scene.applyAll (Effect.calls es), renderer, headless.applyAll _, ?_⟩
  rw [Scene.builds_applyAll, builds, Outlet.calls, Outlet.calls, deeds, List.filterMap_append,
    Effect.filterMap_call_deeds, List.count_append]

theorem Hosted.offered (h : s.Hosted 0) :
    ∃ scene, s.renderer.Offers 0 scene ∧ scene.supportsGi = true ∧ scene.id = "headless" := by
  obtain ⟨scene, backend, headless, _⟩ := h.backend
  exact ⟨scene, backend ▸ headless.offers_iff.mpr ⟨rfl, rfl, rfl⟩, headless.supported, headless.id⟩

theorem Hosted.unoffered (h : s.Hosted left) (unloaded : left ≠ 0) (ref : SceneRef)
    (scene : Scene) : ¬ s.renderer.Offers ref scene := by
  obtain ⟨only, backend, headless, _⟩ := h.backend
  rw [backend]
  exact fun offered => unloaded (headless.offers_iff.mp offered).2.2

theorem Hosted.takes (h : s.Hosted 0) {plan : StartupPlan} (waiting : s.desk.phase = .waiting plan) :
    s.tick.1.Hosted 0 ∧ s.tick.1.Controls 0 "headless" := by
  obtain ⟨scene, offered, supported, named⟩ := h.offered
  obtain ⟨_, controls⟩ := controls_takeOver waiting offered supported
  rw [named] at controls
  exact ⟨⟨h.acted (actsAt_takeOver waiting offered), .inr controls⟩, controls⟩

theorem Hosted.waits (h : s.Hosted left) {plan : StartupPlan}
    (waiting : s.desk.phase = .waiting plan) {k : Command}
    (early : k = .tick → s.isOpen = true → left ≠ 0) :
    (s.step (.command k)).1.Hosted left ∧
      (s.step (.command k)).1.desk.phase = .waiting plan := by
  have none_here : s.desk.phase.scene? = none := by simp [waiting, Phase.scene?]
  have phase : (s.step (.command k)).1.desk.phase = .waiting plan := by
    rcases s.step_phase (.command k) with same | ⟨ticks, obeys, _, _, _, _, offered, _⟩ |
      ⟨_, _, working, _⟩
    · exact same.trans waiting
    · cases ticks
      exact absurd offered (h.unoffered (early rfl obeys) _ _)
    · cases waiting.symm.trans working
  have alone : (s.step (.command k)).1.renderer = s.renderer ∧
      (s.step (.command k)).1.outlet.calls = s.outlet.calls := by
    have advance := s.advances (.command k)
    generalize (s.step (.command k)).1 = t at advance phase ⊢
    cases advance with
    | still => exact ⟨rfl, rfl⟩
    | moves _ _ moved =>
      obtain ⟨_, _, _, renderer⟩ := moved.free none_here
      exact ⟨renderer, moved.free_calls none_here⟩
    | ends ended => exact ⟨ended.renderer, Outlet.calls_of_deeds ended.deeds⟩
    | ticks obeys =>
      obtain ⟨_, outcome⟩ : ∃ did, s.Ticks s.tick.1 did := ⟨_, s.ticks⟩
      cases outcome with
      | idle _ _ deeds _ told =>
        obtain ⟨ns, same⟩ := told
        exact ⟨by rw [same], Outlet.calls_of_deeds deeds⟩
      | withdraws _ found | opens _ _ _ _ found =>
        exact absurd (Renderer.discover_found_iff.mp found) (h.unoffered (early rfl obeys) _ _)
      | works here => cases here.phase.symm.trans waiting
  refine ⟨⟨?_, .inl ⟨plan, phase⟩⟩, phase⟩
  rw [alone.1, alone.2]
  exact h.backend

theorem Hosted.undergone (h : s.Hosted left) {e : OutsideEvent}
    (own : (Step.outside e).isHeadless = true) :
    (s.step (.outside e)).1.Hosted (left - [Step.outside e].countP Step.advances) := by
  obtain ⟨scene, backend, headless, builds⟩ := h.backend
  have phase : (∃ plan, (s.step (.outside e)).1.desk.phase = .waiting plan) ∨
      (s.step (.outside e)).1.Controls 0 "headless" :=
    h.phase.imp id fun controls => controls.step _
  have calls : (s.step (.outside e)).1.outlet.calls = s.outlet.calls :=
    Outlet.calls_of_deeds (Outlet.deeds_perform_notes ..)
  have found : s.renderer.find? "headless" = some 0 := by
    rw [backend]
    simp [Renderer.find?, Renderer.showing, headless.id]
  have after (event : SceneEvent) :
      s.renderer.undergo (.scene "headless" event) = .showing (scene.undergo event) := by
    rw [Renderer.undergo, found, backend]
    rfl
  simp only [Step.isHeadless, Bool.or_eq_true, beq_iff_eq] at own
  rcases own with rfl | rfl
  · refine ⟨⟨_, after .advance, ?_, builds.trans (congrArg _ calls.symm)⟩, phase⟩
    exact ⟨headless.id, congrArg (· - 1) headless.frames, headless.visuals, headless.supported⟩
  · refine ⟨⟨_, after .takeOver, ?_, builds.trans (congrArg _ calls.symm)⟩, phase⟩
    exact ⟨headless.id, headless.frames, headless.visuals, headless.supported⟩

theorem Hosted.step (h : s.Hosted left) {x : Step} (own : x.isHeadless = true) :
    (s.step x).1.Hosted (left - [x].countP Step.advances) := by
  cases x with
  | outside e => exact h.undergone own
  | command k =>
    rcases h.phase with ⟨plan, waiting⟩ | controls
    · by_cases early : k = .tick → s.isOpen = true → left ≠ 0
      · exact (h.waits waiting early).1
      · simp only [not_forall, not_not] at early
        obtain ⟨rfl, obeys, rfl⟩ := early
        rw [step_tick obeys]
        exact (h.takes waiting).1
    · exact ⟨h.acted (controls.acts k), .inr (controls.step _)⟩

theorem countP_advances_cons (x : Step) (rest : List Step) : (x :: rest).countP Step.advances =
    [x].countP Step.advances + rest.countP Step.advances := by
  rw [← List.singleton_append, List.countP_append]

theorem Hosted.run (h : s.Hosted left) (own : ∀ x ∈ steps, x.isHeadless = true) :
    (s.run steps).Hosted (left - steps.countP Step.advances) := by
  induction steps generalizing s left with
  | nil => exact h
  | cons x rest ih =>
    rw [countP_advances_cons, ← Nat.sub_sub]
    exact ih (h.step (own x List.mem_cons_self)) fun y inside => own y (List.mem_cons_of_mem x inside)

theorem ticksLoaded_cons {x : Step} {rest : List Step} :
    TicksLoaded left (x :: rest) ↔ (x = .command .tick ∧ left = 0) ∨
      (x ≠ .command .close ∧ TicksLoaded (left - [x].countP Step.advances) rest) := by
  constructor
  · rintro ⟨before, after, shape, kept, enough⟩
    cases before with
    | nil =>
      cases shape
      exact .inl ⟨rfl, Nat.le_zero.mp enough⟩
    | cons y before =>
      cases shape
      rw [List.mem_cons, not_or] at kept
      rw [countP_advances_cons] at enough
      exact .inr ⟨Ne.symm kept.1, before, after, rfl, kept.2, Nat.sub_le_iff_le_add'.mpr enough⟩
  · rintro (⟨rfl, rfl⟩ | ⟨other, before, after, rfl, kept, enough⟩)
    · exact ⟨[], rest, rfl, List.not_mem_nil, Nat.le_refl 0⟩
    · refine ⟨x :: before, after, rfl, ?_, ?_⟩
      · rw [List.mem_cons, not_or]
        exact ⟨Ne.symm other, kept⟩
      · rw [countP_advances_cons]
        exact Nat.sub_le_iff_le_add'.mp enough

theorem run_closed (closed : s.isOpen = false) (steps : List Step) :
    (s.run steps).desk.phase = s.desk.phase := by
  refine (run_keeps (P := fun u => u.isOpen = false ∧ u.desk.phase = s.desk.phase)
    (fun u x _ here => ?_) ⟨closed, rfl⟩).2
  cases x with
  | outside e => exact here
  | command k =>
    rw [step_closed here.1]
    exact here

/-- The wait for the scene ends with the first tick after the frames it takes to be loaded. -/
theorem Hosted.controls_iff (h : s.Hosted left) (obeys : s.isOpen = true) {plan : StartupPlan}
    (waiting : s.desk.phase = .waiting plan) (own : ∀ x ∈ steps, x.isHeadless = true) :
    (TicksLoaded left steps → (s.run steps).Controls 0 "headless") ∧
      (¬ TicksLoaded left steps → ∃ plan, (s.run steps).desk.phase = .waiting plan) := by
  induction steps generalizing s left with
  | nil =>
    refine ⟨?_, fun _ => ⟨plan, waiting⟩⟩
    rintro ⟨before, after, shape, _⟩
    simp at shape
  | cons x rest ih =>
    have own_here := own x List.mem_cons_self
    have own_rest : ∀ y ∈ rest, y.isHeadless = true := fun y inside =>
      own y (List.mem_cons_of_mem x inside)
    rw [ticksLoaded_cons, run_cons]
    by_cases now : x = .command .tick ∧ left = 0
    · obtain ⟨rfl, rfl⟩ := now
      refine ⟨fun _ => ?_, fun missed => absurd (.inl ⟨rfl, rfl⟩) missed⟩
      rw [step_tick obeys]
      exact run_keeps (fun _ y _ controls => controls.step y) (h.takes waiting).2
    · -- the wait goes on
      have still : (s.step x).1.desk.phase = .waiting plan := by
        cases x with
        | outside e => exact waiting
        | command k =>
          exact (h.waits waiting fun ticks _ loaded => now ⟨congrArg _ ticks, loaded⟩).2
      by_cases closing : x = .command .close
      · have closed : (s.step x).1.isOpen = false := by
          rw [closing, step_obeys obeys]
          rfl
        refine ⟨fun loaded => ?_, fun _ => ⟨plan, (run_closed closed rest).trans still⟩⟩
        rcases loaded with taken | ⟨other, _⟩
        · exact absurd taken now
        · exact absurd closing other
      · obtain ⟨taken, waited⟩ := ih (h.step own_here) ((step_isOpen closing).trans obeys) still
          own_rest
        refine ⟨fun loaded => taken ?_, fun missed => waited fun later => missed ?_⟩
        · exact (loaded.resolve_left now).2
        · exact .inr ⟨closing, later⟩

/-- With the engine that has no device, whatever is commanded while frames go by and other solutions
take over: the session waits until the first tick that comes after as many frames as its scene takes to
be loaded, and is initialized from that tick on. The frames that are left are counted down to none. The
volume was built as often as a tick reported a rebuild and left global illumination wanted. -/
theorem headless_session (begun : s.Begins c) {frames : Nat}
    (backend : s.renderer = .headless frames) (obeys : s.isOpen = true)
    (own : ∀ x ∈ steps, x.isHeadless = true) :
    let t := s.run steps
    (TicksLoaded frames steps → t.desk.phase.name = "Initialized") ∧
      (¬ TicksLoaded frames steps → t.desk.phase.name = "Uninitialized") ∧
      ∃ scene, t.renderer.scene? 0 = some scene ∧
        scene.framesUntilReady = frames - steps.countP Step.advances ∧
        scene.volume.builds = s.wantedRebuilds steps := by
  intro t
  have uncalled : s.outlet.calls.count .build = 0 := by
    rw [Outlet.calls, begun.deeds]
    rfl
  have waiting : s.desk.phase = .waiting ⟨c.cascades, c.enabled⟩ := by
    rw [begun.desk]
    rfl
  have hosted : s.Hosted frames :=
    ⟨⟨.headless frames, backend, .headless frames, uncalled.symm⟩, .inl ⟨_, waiting⟩⟩
  obtain ⟨taken, waited⟩ := hosted.controls_iff obeys waiting own
  obtain ⟨scene, after, headless, builds⟩ := (hosted.run own).backend
  refine ⟨fun loaded => (taken loaded).initialized, fun missed => ?_, scene, ?_, headless.frames, ?_⟩
  · obtain ⟨plan, still_waiting⟩ := waited missed
    change (s.run steps).desk.phase.name = _
    rw [still_waiting]
    rfl
  · change (s.run steps).renderer.scene? 0 = _
    rw [after]
    rfl
  · rw [builds, run_builds, uncalled, Nat.zero_add]

/-- The first tick comes too early. The second one takes over the volume and carries out what the
configuration asks for; then another solution takes over, global illumination is asked for again, and
last it is switched off. Of the three rebuilds two build the volume. -/
theorem headless_session_enabled :
    let s := forPanel { enabled := true, cascades := [{}] } (.headless 1)
    let frame : Step := .outside (.scene "headless" .advance)
    let before := [.command .tick, frame, frame]
    let after := [.outside (.scene "headless" .takeOver), .command .tick,
      .command (.setEnabled true), .command .tick, .command (.setEnabled false), .command .tick]
    let steps := before ++ .command .tick :: after
    (s.run steps).desk.phase.name = "Initialized" ∧ (s.run [.command .tick]).desk.phase.name =
      "Uninitialized" ∧
      ∃ scene, (s.run steps).renderer.scene? 0 = some scene ∧ scene.framesUntilReady = 0 ∧
        scene.volume.builds = 2 := by
  intro s frame before after steps
  have begun : s.Begins { enabled := true, cascades := [{}] } := forPanel_begins _ _
  have own : ∀ x ∈ steps, x.isHeadless = true := by decide
  have own_tick : ∀ x ∈ [Step.command .tick], x.isHeadless = true := by decide
  obtain ⟨initialized, _, scene, there, left, builds⟩ := headless_session begun rfl rfl own
  obtain ⟨_, waits, _⟩ := headless_session begun rfl rfl own_tick
  have loaded : TicksLoaded 1 steps :=
    ⟨before, after, rfl, by simp [before, frame], by decide⟩
  have early : ¬ TicksLoaded 1 [.command .tick] := by
    rw [ticksLoaded_cons]
    rintro (⟨_, loaded⟩ | ⟨_, before, after, shape, _⟩)
    · cases loaded
    · simp at shape
  have counted : s.wantedRebuilds steps = 2 := by decide
  exact ⟨initialized loaded, waits early, scene, there, left, builds.trans counted⟩

end Session

end VoxelGI
