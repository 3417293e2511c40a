import VoxelGI.Proofs.CascadeLists
import VoxelGI.Proofs.Ledger
import VoxelGI.Proofs.Refusals

/-! The lifecycle of a session. Nothing is done before a scene is offered. The first scene that is
offered is asked for its volume, once and for all: if it has one to give, that volume is under control
for ever, whatever engines and scenes come and go, and otherwise nothing is ever done again. -/
namespace VoxelGI

/-- A call to a cascade goes to one that the volume has. -/
def Volume.Owns (v : Volume) : Call → Prop
  | .cascade h _ => h ∈ v.cascades
  | _ => True

theorem Scene.meet_owns (handles : List CascadeHandle) {s : Scene} {cs : List Call}
    (labours : ∀ c ∈ cs, c.Labours handles) (held : handles ⊆ s.volume.cascades) :
    ∀ e ∈ s.meet cs, e.1.Owns e.2 := by
  induction cs generalizing s with
  | nil => exact nofun
  | cons c rest ih =>
    rw [List.forall_mem_cons] at labours
    obtain ⟨first, later⟩ := labours
    have kept : (s.apply c).volume.cascades = s.volume.cascades :=
      congrArg Prod.fst (apply_stock first.keeps s)
    rw [meet, List.forall_mem_cons]
    refine ⟨?_, ih later (kept ▸ held)⟩
    cases c with
    | cascade h write => exact held first
    | _ => exact True.intro

namespace View

/-- The cascades of the desk are the engine's last ones; the engine may have had others before. -/
def Owned (v : View) : Prop := v.desk.cascades.handles <:+ v.scene.volume.cascades

theorem Owned.restocked {v w : View} (h : v.Owned) (r : v.Restocks w) : w.Owned := by
  obtain ⟨older, split⟩ := h
  cases r with
  | keeps handles stock =>
    have cascades : w.scene.volume.cascades = v.scene.volume.cascades := congrArg Prod.fst stock
    exact ⟨older, by rw [handles, cascades, split]⟩
  | appends handles stock =>
    have cascades : w.scene.volume.cascades =
        v.scene.volume.cascades ++ [v.scene.volume.nextHandle] := congrArg Prod.fst stock
    exact ⟨older, by rw [handles, cascades, ← List.append_assoc, split]⟩
  | removes handles stock =>
    have cascades : w.scene.volume.cascades = v.scene.volume.cascades.dropLast :=
      congrArg Prod.fst stock
    unfold Owned
    rw [handles, cascades, ← split]
    cases v.desk.cascades.handles with
    | nil => exact List.nil_suffix
    | cons first rest =>
      rw [List.dropLast_append_cons]
      exact List.suffix_append ..

theorem Move.owns {v w : View} (m : Move v w) : v.Passes (.each Volume.Owns) w := by
  cases m with
  | @command d es m =>
    cases m with
    | append u here =>
      cases here
      refine passes_adopt ?_ _
      rw [Scene.takes_each_iff, Effect.calls_call, Scene.meet, List.forall_mem_cons]
      -- the new cascade is there before anything is written to it
      refine ⟨True.intro, Scene.meet_owns [v.scene.volume.nextHandle] ?_ ?_⟩
      · rw [Effect.calls_append, Effect.calls_note, Effect.calls_nil, List.append_nil]
        exact CascadeEntry.effects_labour _
      · exact List.subset_append_right v.scene.volume.cascades [v.scene.volume.nextHandle]
    | assign a => exact passes_adopt_of_forall (by simp [Draft.calls_assign]) _
    | wish enabled => exact passes_adopt_of_forall (by split <;> simp) _
    | remove => exact passes_adopt_of_forall (by simp [Volume.Owns]) _
    | stay | miss | edit | request | bind => exact passes_adopt_of_forall (by simp) _
  | upkeep u =>
    cases u with
    | refresh =>
      exact passes_adopt_of_forall (by simp [Desk.calls_refreshCameras, Volume.Owns]) _
    | notice | drop => exact passes_adopt_of_forall (by simp) _

end View

theorem owned_custody : Custody .any (fun d _ => d.cascades = {}) View.Owned where
  waits _ _ m empty := m.stays_empty empty
  withdraws _ _ empty := empty
  opens {s _ _ _} _ empty _ := by
    change s.desk.cascades.handles <:+ _
    rw [empty]
    exact List.nil_suffix
  announces _ h := h
  moves m h := h.restocked m.restocks
  works _ h := h.restocked (View.work_restocks _)
  meddles {v} event _ h := by
    have cascades : (v.scene.undergo event).volume.cascades = v.scene.volume.cascades :=
      congrArg Prod.fst (v.scene.undergo_stock event)
    change v.desk.cascades.handles <:+ (v.scene.undergo event).volume.cascades
    rw [cascades]
    exact h
  releases _ _ := rfl
  empties _ _ := rfl

theorem owned_law : CallLaw .any (fun d _ => d.cascades = {}) View.Owned (.each Volume.Owns) where
  toCustody := owned_custody
  creates _ _ := by simp [Grammar.each, Volume.Owns]
  tells _ _ := by simp [Grammar.each, Volume.Owns]
  starts _ := rfl
  spares _ := rfl
  passes m _ := m.owns
  labours {v} _ h := by
    refine View.passes_adopt (v := v) ?_ _
    exact Scene.meet_owns _ (v.desk.workEffects_labour v.scene) h.subset

theorem Desk.Move.uncalled {alive : Camera → Bool} {d d' : Desk} {es : List Effect}
    (m : Move alive none d es d') : Effect.calls es = [] := by
  cases m with
  | stay ns => exact Effect.calls_notes ns
  | assign a => exact d.draft.calls_assign a
  | wish => split <;> rfl
  | append _ here | remove _ here | edit _ here => contradiction
  | miss | request | bind => rfl

structure Asked (d : Desk) (ds : List Entry) : Prop where
  waiting : ∀ plan, d.phase = .waiting plan → ds.filterMap Entry.call? = []
  withdrawn : d.phase = .withdrawn → ds.filterMap Entry.call? = [.createVolume]
  released : ∀ ref, d.phase = .released ref → (ds.filterMap Entry.call?).count .createVolume = 1

theorem Asked.of_eq {d d' : Desk} {ds ds' : List Entry} (h : Asked d ds) (phase : d'.phase = d.phase)
    (same : ds'.filterMap Entry.call? = ds.filterMap Entry.call?) : Asked d' ds' := by
  refine ⟨?_, ?_, ?_⟩ <;> rw [phase, same]
  · exact h.waiting
  · exact h.withdrawn
  · exact h.released

theorem View.asked_adopt {v : View} (h : v.calls.count .createVolume = 1) {es : List Effect}
    (others : .createVolume ∉ Effect.calls es) (d : Desk) :
    (v.adopt d es).calls.count .createVolume = 1 := by
  rw [adopt_calls, List.count_append, List.count_eq_zero_of_not_mem others, h]

theorem asked_custody : Custody .any Asked (fun v => v.calls.count .createVolume = 1) where
  waits _ _ m h := by
    refine h.of_eq m.phase_eq ?_
    rw [List.filterMap_append, Effect.filterMap_call_announcements, List.append_nil]
  withdraws id waiting h := by
    refine ⟨nofun, fun _ => ?_, nofun⟩
    rw [List.filterMap_append, h.waiting _ waiting]
    rfl
  opens {s plan ref scene} waiting h _ := by
    have uncalled : s.outlet.deeds.filterMap Entry.call? = [] := h.waiting plan waiting
    rw [Session.opening, View.perform_calls, View.calls, uncalled]
    rfl
  announces _ h := View.asked_adopt h (by simp) _
  moves m h := by
    obtain ⟨es, same, chores⟩ := m.effects
    rw [same]
    exact View.asked_adopt h (fun called => Bool.false_ne_true (chores _ called)) _
  works {v} _ h := View.asked_adopt (v := v) h
    (fun called => (v.desk.workEffects_labour v.scene _ called).elim) _
  meddles _ _ h := h
  releases _ h := ⟨by simp, by simp, fun _ _ => h⟩
  empties _ h := h.of_eq rfl rfl

theorem bare_custody : Custody .any
    (fun d _ => d.phase.home? = none → d.cascades = {} ∧ d.settings.enabled = false)
    (fun _ => True) where
  waits {d d' es ds alive} none_here nowhere m h away := by
    have away' : d.phase.home? = none := m.phase_eq ▸ away
    obtain ⟨empty, off⟩ := h away'
    refine ⟨m.stays_empty empty, ?_⟩
    cases m with
    | wish enabled met =>
      cases enabled with
      | false => rfl
      | true =>
        -- the wish is not accepted without cascades
        have unmet : d.unmet? alive = some .noCascades := by simp [Desk.unmet?, empty, unmet?,
          CascadeStack.size]
        exact absurd (unmet.symm.trans (met rfl)) (Option.some_ne_none _)
    | assign a => exact (d.draft.assign_enabled a).trans off
    | append _ here | remove _ here | edit _ here => contradiction
    | stay | miss | request | bind => exact off
  withdraws _ waiting h _ := h (by simp [waiting, Phase.home?])
  opens _ _ _ := True.intro
  announces _ _ := True.intro
  moves _ _ := True.intro
  works _ _ := True.intro
  meddles _ _ _ := True.intro
  releases _ _ := by simp [Phase.home?]
  empties _ h away := ⟨rfl, (h away).2⟩

namespace Session

variable {c : Config} {s t : Session} {ref : SceneRef} {scene : Scene} {steps : List Step}

theorem Moved.phase_eq (m : s.Moved t) : t.desk.phase = s.desk.phase := by
  obtain ⟨r, move, desk, _⟩ := m
  rw [desk, adopt_state]
  exact move.phase_eq

theorem release_phase (s : Session) : s.desk.release.state.phase = s.desk.phase ∨
    ∃ ref, s.desk.phase = .working ref ∧ s.desk.release.state.phase = .released ref := by
  unfold Desk.release
  cases phase : s.desk.phase with
  | working ref => exact .inr ⟨ref, rfl, by simp⟩
  | waiting | released | withdrawn => exact .inl (by simp)

theorem tick_phase (s : Session) :
    (s.tick.1.desk.phase = s.desk.phase ∧ ∀ plan, s.desk.phase = .waiting plan →
        ∀ ref scene, ¬ s.renderer.Offers ref scene) ∨
      ∃ plan ref scene, s.desk.phase = .waiting plan ∧ s.renderer.Offers ref scene ∧
        s.tick.1.desk.phase = if scene.supportsGi then .working ref else .withdrawn := by
  obtain ⟨_, outcome⟩ : ∃ did, s.Ticks s.tick.1 did := ⟨_, s.ticks⟩
  cases outcome with
  | idle _ desk _ unready =>
    refine .inl ⟨congrArg Desk.phase desk, fun plan waiting ref scene offered => ?_⟩
    exact absurd ((unready plan waiting).symm.trans (Renderer.discover_found_iff.mpr offered)) nofun
  | withdraws waiting found without desk =>
    refine .inr ⟨_, _, _, waiting, Renderer.discover_found_iff.mp found, ?_⟩
    rw [desk, without]
    rfl
  | opens plan ref scene waiting found supported _ _ shown =>
    refine .inr ⟨plan, ref, scene, waiting, Renderer.discover_found_iff.mp found, ?_⟩
    rw [supported]
    exact shown.phase
  | works here _ _ shown =>
    refine .inl ⟨shown.phase.trans here.phase.symm, fun plan waiting => ?_⟩
    exact absurd (here.phase.symm.trans waiting) nofun

theorem tick_ends_wait {plan : StartupPlan} (waiting : s.desk.phase = .waiting plan)
    (offered : s.renderer.Offers ref scene) :
    s.tick.1.desk.phase = if scene.supportsGi then .working ref else .withdrawn := by
  rcases s.tick_phase with ⟨_, unoffered⟩ | ⟨_, ref', scene', _, offered', ends⟩
  · exact absurd offered (unoffered plan waiting ref scene)
  · have found := Renderer.discover_found_iff.mpr offered
    have found' := Renderer.discover_found_iff.mpr offered'
    obtain ⟨rfl, rfl⟩ := Prod.mk.inj (Option.some.inj (found.symm.trans found'))
    exact ends

/-- The phases of a session: a tick ends the wait for a scene once one is offered, and a volume that
is under control may be let go. Nothing else changes the phase. -/
theorem step_phase (s : Session) (x : Step) :
    (s.step x).1.desk.phase = s.desk.phase ∨
      (x = .command .tick ∧ s.isOpen = true ∧ ∃ plan ref scene, s.desk.phase = .waiting plan ∧
        s.renderer.Offers ref scene ∧ (s.step x).1.desk.phase =
          if scene.supportsGi then .working ref else .withdrawn) ∨
      ((x = .command .release ∨ x = .command .close) ∧ ∃ ref, s.desk.phase = .working ref ∧
        (s.step x).1.desk.phase = .released ref) := by
  cases x with
  | outside e => exact .inl rfl
  | command k =>
    cases obeys : s.isOpen with
    | false =>
      rw [step_closed obeys]
      exact .inl rfl
    | true =>
      rw [step_obeys obeys]
      by_cases move : k.isMove = true
      · exact .inl (obey_moved move).phase_eq
      · cases k with
        | tick =>
          rcases s.tick_phase with ⟨same, _⟩ | ends
          · exact .inl same
          · exact .inr (.inl ⟨rfl, rfl, ends⟩)
        | release =>
          have let_go : (s.obey .release).1.desk = s.desk.release.state := s.adopt_state _
          rw [let_go]
          rcases s.release_phase with same | released
          · exact .inl same
          · exact .inr (.inr ⟨.inl rfl, released⟩)
        | close =>
          change s.close.desk.phase = _ ∨ _ ∨ _ ∧ ∃ ref, _ ∧ s.close.desk.phase = _
          rcases s.close_ended.desk with still | let_go
          · exact .inl (congrArg Desk.phase still)
          · rw [let_go]
            rcases s.release_phase with same | released
            · exact .inl same
            · exact .inr (.inr ⟨.inr rfl, released⟩)
        | _ => exact absurd rfl move

theorem run_withdrawn (withdrawn : s.desk.phase = .withdrawn) (steps : List Step) :
    (s.run steps).desk.phase = .withdrawn := by
  refine run_keeps (P := fun u => u.desk.phase = .withdrawn) (fun u x _ here => ?_) withdrawn
  rcases u.step_phase x with same | ⟨_, _, _, _, _, waiting, _⟩ | ⟨_, _, working, _⟩
  · exact same.trans here
  · exact absurd (here.symm.trans waiting) nofun
  · exact absurd (here.symm.trans working) nofun

theorem run_working (working : s.desk.phase = .working ref)
    (kept : .command .release ∉ steps ∧ .command .close ∉ steps) :
    (s.run steps).desk.phase = .working ref := by
  refine run_keeps (P := fun u => u.desk.phase = .working ref) (fun u x inside here => ?_) working
  rcases u.step_phase x with same | ⟨_, _, _, _, _, waiting, _⟩ | ⟨let_go, _⟩
  · exact same.trans here
  · exact absurd (here.symm.trans waiting) nofun
  · rcases let_go with rfl | rfl
    · exact absurd inside kept.1
    · exact absurd inside kept.2

/-- From one session to another the control side acted at one scene: its calls were recorded for that
scene and took effect there and nowhere else. -/
def ActsAt (ref : SceneRef) (s t : Session) : Prop :=
  ∃ scene es, s.renderer.scene? ref = some scene ∧
    t.renderer = s.renderer.putScene ref (scene.applyAll (Effect.calls es)) ∧
    t.outlet.deeds = s.outlet.deeds ++ Effect.deeds scene.id es

theorem actsAt_still (there : s.renderer.scene? ref = some scene) (renderer : t.renderer = s.renderer)
    (deeds : t.outlet.deeds = s.outlet.deeds) : ActsAt ref s t :=
  ⟨scene, [], there, renderer.trans (Renderer.putScene_self there).symm,
    deeds.trans (List.append_nil _).symm⟩

theorem actsAt_carryOut (there : s.renderer.scene? ref = some scene) (r : Decision Desk α) :
    ActsAt ref s (s.carryOut ref scene r) := by
  refine ⟨scene, r.effects, there, ?_, Stage.deeds_perform ..⟩
  exact congrArg (s.renderer.putScene ref) (Stage.scene_perform ..)

theorem actsAt_moved (home : s.desk.phase.home? = some ref)
    (there : s.renderer.scene? ref = some scene) (m : s.Moved t) : ActsAt ref s t := by
  cases phase : s.desk.phase with
  | waiting | withdrawn => simp [phase, Phase.home?] at home
  | working ref' =>
    obtain rfl : ref' = ref := by simpa [phase, Phase.home?] using home
    obtain ⟨r, _, _, renderer, deeds⟩ := m
    rw [adopt_eq_carryOut (scene?_working phase there)] at renderer deeds
    unfold ActsAt
    rw [renderer, deeds]
    exact actsAt_carryOut there r
  | released =>
    have none_here : s.desk.phase.scene? = none := by simp [phase, Phase.scene?]
    obtain ⟨es, move, deeds, renderer⟩ := m.free none_here
    have uncalled := move.uncalled
    refine ⟨scene, es, there, ?_, ?_⟩
    · rw [renderer, uncalled]
      exact (Renderer.putScene_self there).symm
    · rw [deeds, Effect.announcements_eq, Effect.deeds_of_calls uncalled]

theorem actsAt_tick (home : s.desk.phase.home? = some ref)
    (there : s.renderer.scene? ref = some scene) : ActsAt ref s s.tick.1 := by
  cases phase : s.desk.phase with
  | waiting | withdrawn => simp [phase, Phase.home?] at home
  | working ref' =>
    obtain rfl : ref' = ref := by simpa [phase, Phase.home?] using home
    obtain ⟨policy, _, acts⟩ := atScene_settled Bench.tick_settled
    have ticking : s.tick = s.atScene ref' scene Bench.tick := by
      simp only [Session.tick, phase, there]
    rw [ticking, acts]
    exact actsAt_carryOut there _
  | released ref' =>
    have ticking : s.tick.1 = { s with outlet := s.outlet.note .volumeMissing } := by
      simp only [Session.tick, phase]
    rw [ticking]
    exact actsAt_still there rfl (Outlet.deeds_note ..)

theorem actsAt_takeOver {plan : StartupPlan} (waiting : s.desk.phase = .waiting plan)
    (offered : s.renderer.Offers ref scene) : ActsAt ref s s.tick.1 := by
  have found : s.renderer.discover.found = some (ref, scene) :=
    Renderer.discover_found_iff.mpr offered
  obtain ⟨policy, _, acts⟩ :=
    atScene_settled (Bench.takeOver_settled ref scene.supportsGi plan)
  have ticking : s.tick = s.firstTick plan := by simp only [Session.tick, waiting]
  let quiet : Session :=
    { s with outlet := s.outlet.perform (s.renderer.discover.notices.map .note) }
  have told : quiet.outlet.deeds = s.outlet.deeds := Outlet.deeds_perform_notes ..
  obtain ⟨_, es, there, renderer, deeds⟩ := actsAt_carryOut (s := quiet)
    (Renderer.scene?_of_discover found) (policy s.desk scene)
  rw [ticking, firstTick_ready plan found, acts]
  exact ⟨_, es, there, renderer, deeds.trans (congrArg (· ++ _) told)⟩

/-- The volume of a scene is under control, or was until it was let go. -/
structure Controls (ref : SceneRef) (id : String) (s : Session) : Prop where
  home : s.desk.phase.home? = some ref
  scene : ∃ scene, s.renderer.scene? ref = some scene ∧ scene.id = id

theorem Controls.initialized {id : String} (h : s.Controls ref id) :
    s.desk.phase.name = "Initialized" := by
  have home := h.home
  cases phase : s.desk.phase with
  | waiting | withdrawn => simp [phase, Phase.home?] at home
  | working | released => rfl

theorem Controls.acts {id : String} (h : s.Controls ref id) (k : Command) :
    ActsAt ref s (s.step (.command k)).1 := by
  obtain ⟨scene, there, _⟩ := h.scene
  have advance := s.advances (.command k)
  generalize (s.step (.command k)).1 = t at advance ⊢
  cases advance with
  | still => exact actsAt_still there rfl rfl
  | moves _ _ moved => exact actsAt_moved h.home there moved
  | ticks => exact actsAt_tick h.home there
  | ends ended => exact actsAt_still there ended.renderer ended.deeds

theorem Controls.step {id : String} (h : s.Controls ref id) (x : Step) :
    (s.step x).1.Controls ref id := by
  refine ⟨?_, ?_⟩
  · rcases s.step_phase x with same | ⟨_, _, _, _, _, waiting, _⟩ | ⟨_, ref', working, released⟩
    · rw [same]
      exact h.home
    · exact absurd (waiting ▸ h.home) nofun
    · have home := h.home
      rw [working] at home
      rw [released]
      exact home
  · cases x with
    | command k =>
      obtain ⟨scene, there, named⟩ := h.scene
      obtain ⟨scene', es, there', renderer, _⟩ := h.acts k
      obtain rfl : scene = scene' := Option.some.inj (there.symm.trans there')
      refine ⟨scene.applyAll (Effect.calls es), ?_, (scene.applyAll_id _).trans named⟩
      rw [renderer]
      exact Renderer.scene?_putScene there _
    | outside e =>
      obtain ⟨scene, there, named⟩ := h.scene
      obtain ⟨after, there', untouched⟩ := Renderer.scene?_undergo there e
      refine ⟨after, there', ?_⟩
      rcases untouched with rfl | ⟨_, event, _, rfl⟩
      · exact named
      · exact (scene.undergo_id event).trans named

theorem controls_takeOver {plan : StartupPlan} (waiting : s.desk.phase = .waiting plan)
    (offered : s.renderer.Offers ref scene) (supported : scene.supportsGi = true) :
    s.tick.1.desk.phase = .working ref ∧ s.tick.1.Controls ref scene.id := by
  have working := tick_ends_wait waiting offered
  rw [supported, if_pos rfl] at working
  refine ⟨working, by rw [working]; rfl, ?_⟩
  obtain ⟨scene', es, there, renderer, _⟩ := actsAt_takeOver waiting offered
  have same : scene' = scene := by
    obtain ⟨_, _, _, _, _, here, _⟩ := offered
    exact Option.some.inj (there.symm.trans here)
  refine ⟨scene'.applyAll (Effect.calls es), ?_, ?_⟩
  · rw [renderer]
    exact Renderer.scene?_putScene there _
  · rw [Scene.applyAll_id, same]

def Unoffered : Session → List Step → Prop
  | _, [] => True
  | s, x :: rest =>
    (x = .command .tick → s.isOpen = true → ∀ ref scene, ¬ s.renderer.Offers ref scene) ∧
      (s.step x).1.Unoffered rest

theorem run_waiting {plan : StartupPlan} (waiting : s.desk.phase = .waiting plan)
    (unoffered : s.Unoffered steps) : (s.run steps).desk.phase = .waiting plan := by
  induction steps generalizing s with
  | nil => exact waiting
  | cons x rest ih =>
    obtain ⟨none_offered, later⟩ := unoffered
    refine ih ?_ later
    rcases s.step_phase x with same | ⟨ticks, obeys, _, ref, scene, _, offered, _⟩ | ⟨_, _, working, _⟩
    · exact same.trans waiting
    · exact absurd offered (none_offered ticks obeys ref scene)
    · exact absurd (waiting.symm.trans working) nofun

structure Waits (s : Session) : Prop where
  phase : ∃ plan, s.desk.phase = .waiting plan
  calls : s.outlet.calls = []
  idles : (∀ ref scene, ¬ s.renderer.Offers ref scene) →
    s.LeftAlone (s.step (.command .tick)).1 []
  asks : s.isOpen = true → ∀ ref scene, s.renderer.Offers ref scene →
    ActsAt ref s (s.step (.command .tick)).1 ∧
      (s.step (.command .tick)).1.outlet.calls.count .createVolume = 1

/-- A session whose scene had no volume to give has called nothing but that, and does nothing more. -/
structure Withdrawn (s : Session) : Prop where
  phase : s.desk.phase = .withdrawn
  calls : s.outlet.calls = [.createVolume]
  still : (s.step (.command .tick)).1 = s
  off : s.desk.settings.enabled = false
  frozen : s.cascadesEditable = false
  bare : s.desk.cascades.size = 0
  owes : ∀ x, s.desk.draft.pending ≤ (s.step x).1.desk.draft.pending

theorem leftAlone_noted (s : Session) (ns : List Notice) :
    s.LeftAlone { s with outlet := s.outlet.perform (ns.map .note) } [] := by
  have events : (s.outlet.perform (ns.map .note)).events = s.outlet.events := by
    rw [Outlet.events_perform, Effect.events_notes]
    rfl
  refine ⟨⟨rfl, rfl, rfl, rfl, congrArg (·.mailboxes.length) events⟩, ?_, events⟩
  exact (Outlet.deeds_perform_notes ..).trans (List.append_nil _).symm

abbrev AsksOnce (s : Session) : Prop :=
  s.Upholds Asked (fun v => v.calls.count .createVolume = 1)

theorem asksOnce_run (begun : s.Begins c) (steps : List Step) : (s.run steps).AsksOnce :=
  asked_custody.run (s.onTerms_any steps)
    (.begins begun ⟨fun _ _ => rfl, nofun, nofun⟩)

theorem AsksOnce.settled (h : s.AsksOnce) (settled : s.desk.Settled) :
    s.outlet.calls.count .createVolume = 1 := by
  cases phase : s.desk.phase with
  | waiting plan => exact absurd phase (settled plan)
  | withdrawn =>
    have calls := (h.free (by simp [phase, Phase.scene?])).withdrawn phase
    rw [Outlet.calls, calls]
    rfl
  | released ref => exact (h.free (by simp [phase, Phase.scene?])).released ref phase
  | working ref =>
    obtain ⟨v, here, once⟩ := h.held ref phase
    rw [Outlet.calls, here.deeds]
    exact once

theorem AsksOnce.waits (h : s.AsksOnce) {plan : StartupPlan} (waiting : s.desk.phase = .waiting plan) :
    s.Waits where
  phase := ⟨plan, waiting⟩
  calls := (h.free (by simp [waiting, Phase.scene?])).waiting plan waiting
  idles unoffered := by
    cases obeys : s.isOpen with
    | false =>
      rw [step_closed obeys]
      exact .refl s
    | true =>
      rw [step_tick obeys]
      obtain ⟨_, outcome⟩ : ∃ did, s.Ticks s.tick.1 did := ⟨_, s.ticks⟩
      cases outcome with
      | idle _ _ _ _ told =>
        obtain ⟨ns, same⟩ := told
        rw [same]
        exact s.leftAlone_noted ns
      | withdraws _ found | opens _ _ _ _ found =>
        exact absurd (Renderer.discover_found_iff.mp found) (unoffered _ _)
      | works here => exact Phase.noConfusion (here.phase.symm.trans waiting)
  asks obeys ref scene offered := by
    have after : (s.step (.command .tick)).1.AsksOnce :=
      asked_custody.step (s.onTerms_any [.command .tick]).1 h
    rw [step_tick obeys] at after ⊢
    refine ⟨actsAt_takeOver waiting offered, after.settled fun plan still_waiting => ?_⟩
    -- the wait has ended, so the scene was asked by now
    have ends := tick_ends_wait waiting offered
    rw [still_waiting] at ends
    cases supported : scene.supportsGi <;> simp [supported] at ends

theorem withdrawn_stands (begun : s.Begins c) (steps : List Step)
    (phase : (s.run steps).desk.phase = .withdrawn) : (s.run steps).Withdrawn := by
  have none_here : (s.run steps).desk.phase.scene? = none := by simp [phase, Phase.scene?]
  have bare := bare_custody.run (s.onTerms_any steps)
    (.begins begun fun _ => ⟨rfl, rfl⟩)
  obtain ⟨empty, off⟩ := bare.free none_here (by simp [phase, Phase.home?])
  have still : ((s.run steps).step (.command .tick)).1 = s.run steps := by
    cases obeys : (s.run steps).isOpen with
    | false => rw [step_closed obeys]
    | true =>
      rw [step_obeys obeys, obey_ticks]
      simp only [Session.tick, phase]
  refine
    { phase, still, off
      calls := ((asksOnce_run begun steps).free none_here).withdrawn phase
      frozen := by simp [cascadesEditable, volume?, scene?_free none_here, CascadeStack.isEditable]
      bare := by rw [empty]; rfl
      owes := fun x => ?_ }
  by_cases ticking : x = .command .tick
  · rw [ticking, still]
  · rw [step_owes (serves_run begun steps), if_neg]
    · rw [Pending.mark_eq_max]
      exact le_max_left ..
    · exact fun applies => ticking (ticks_of_applies applies)

/-- Every run waits until a tick finds a scene offered, and asks that scene for its volume; it asks at
most once. If the scene has a volume to give, then for ever the control side acts at that scene alone,
whatever is offered by then, and on cascades that its volume has; the volume stays under control until
it is let go. If it has none, then nothing is ever done again. -/
theorem lifecycle {c : Config} {s : Session} (begun : s.Begins c) (steps : List Step) :
    let t := s.run steps
    t.outlet.calls.count .createVolume ≤ 1 ∧
      ((s.log steps).map (·.2) = t.outlet.calls ∧ ∀ e ∈ s.log steps, e.1.Owns e.2) ∧
      (s.Unoffered steps → t.Waits) ∧
      ∀ before after ref scene, steps = before ++ .command .tick :: after →
        s.Unoffered before → (s.run before).isOpen = true →
        (s.run before).renderer.Offers ref scene →
        (scene.supportsGi = true →
          t.Controls ref scene.id ∧ t.desk.phase.name = "Initialized" ∧
            (∀ k, ActsAt ref t (t.step (.command k)).1) ∧
            (.command .release ∉ after ∧ .command .close ∉ after →
              t.desk.phase = .working ref)) ∧
        (scene.supportsGi = false → t.Withdrawn) := by
  intro t
  have once : t.AsksOnce := asksOnce_run begun steps
  have waiting : s.desk.phase = .waiting ⟨c.cascades, c.enabled⟩ := by
    rw [begun.desk]
    rfl
  obtain ⟨⟨_, owned⟩, calls⟩ := owned_law.log begun rfl (s.onTerms_any steps)
  refine ⟨?_, ⟨calls, owned⟩, fun unoffered => once.waits (run_waiting waiting unoffered), ?_⟩
  · by_cases settled : t.desk.Settled
    · exact (once.settled settled).le
    · obtain ⟨plan, still_waiting⟩ := not_forall_not.mp settled
      rw [(once.waits still_waiting).calls]
      exact Nat.zero_le 1
  · rintro before after ref scene split unoffered obeys offered
    have waited := run_waiting waiting unoffered
    have resumed : t = (s.run before).tick.1.run after := by
      change s.run steps = _
      rw [split, run_append, run_cons, step_obeys obeys]
      rfl
    refine ⟨fun supported => ?_, fun without => ?_⟩
    · obtain ⟨working, taken⟩ := controls_takeOver waited offered supported
      have controls : t.Controls ref scene.id := by
        rw [resumed]
        exact run_keeps (fun _ x _ h => h.step x) taken
      refine ⟨controls, controls.initialized, controls.acts, fun kept => ?_⟩
      rw [resumed]
      exact run_working working kept
    · have ends := tick_ends_wait waited offered
      rw [without, if_neg Bool.false_ne_true] at ends
      refine withdrawn_stands begun steps ?_
      change t.desk.phase = _
      rw [resumed]
      exact run_withdrawn ends after

theorem lifecycle_late :
    let s := forDesk { cascades := [{}] } {}
    let before := [.command .tick,
      .outside (.addEngine ⟨"engine", [some { patch := { visuals := some 0 } }]⟩ none), .command .tick,
      .outside (.scene "main" (.patch { visuals := some 4 }))]
    let after := [.outside (.removeEngine 0), .command .addCascade, .command (.setEnabled true),
      .command .tick]
    let steps := before ++ .command .tick :: after
    (s.run steps).desk.phase = .working 0 ∧
      (s.run steps).outlet.calls.count .createVolume ≤ 1 ∧
      ActsAt 0 (s.run steps) ((s.run steps).step (.command .tick)).1 := by
  intro s before after steps
  have begun : s.Begins { cascades := [{}] } := forDesk_begins _ _
  have nothing {r : Renderer} (found : r.discover.found = none) (ref : SceneRef) (scene : Scene) :
      ¬ r.Offers ref scene := fun offered =>
    nomatch found.symm.trans (Renderer.discover_found_iff.mpr offered)
  have unloaded : s.renderer.discover.found = none := by decide
  have blank : (s.run (before.take 2)).renderer.discover.found = none := by decide
  have unoffered : s.Unoffered before :=
    ⟨fun _ _ => nothing unloaded, nofun, fun _ _ => nothing blank, nofun, True.intro⟩
  have obeys : (s.run before).isOpen = true := by decide
  let shown := Scene.create "main" { visuals := some 4 }
  have offered : (s.run before).renderer.Offers 0 shown :=
    Renderer.discover_found_iff.mp (by decide)
  have supported : shown.supportsGi = true := by decide
  obtain ⟨once, _, _, ends⟩ := lifecycle begun steps
  obtain ⟨works, _⟩ := ends before after 0 shown rfl unoffered obeys offered
  obtain ⟨_, _, acts, stays⟩ := works supported
  have kept : .command .release ∉ after ∧ .command .close ∉ after := by simp [after]
  exact ⟨stays kept, once, acts .tick⟩

end Session

end VoxelGI
