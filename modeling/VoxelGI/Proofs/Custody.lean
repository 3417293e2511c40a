import VoxelGI.Proofs.Steps

/-! Invariants of runs. What holds of a volume depends on what the engine and outsiders may do to it,
so a run is taken on terms: what a volume is like when it is created, and how outsiders may change
its scene while it is under control. A property that every move, the owed work and every admitted
change keep then holds of every run on these terms. -/
namespace VoxelGI

/-- What the control side may rely on. -/
structure Terms where
  /-- What the scene is like when its volume is created. -/
  created : Scene → Prop
  /-- How outsiders may change the scene while its volume is under control. -/
  meddled : Scene → Scene → Prop

/-- Terms on which a volume is created idle, calls take effect, and outsiders can do no more than
make the volume inactive. -/
def Terms.dependable : Terms where
  created := fun s => s.status =
    { started := false, active := false, startWorks := true, activationWorks := true }
  meddled := fun before after =>
    after.status = before.status ∨ after.status = { before.status with active := false }

def Terms.any : Terms where
  created := fun _ => True
  meddled := fun _ _ => True

namespace Session

/-- A step within the terms: a tick takes over a volume only as one is created, and an outside event
changes the scene under control only as outsiders may. -/
def Admits (s : Session) (terms : Terms) : Step → Prop
  | .command .tick => ∀ plan ref scene, s.desk.phase = .waiting plan →
      s.renderer.discover.found = some (ref, scene) → scene.supportsGi = true →
      terms.created scene
  | .command _ => True
  | .outside e => ∀ ref before after, s.desk.phase = .working ref →
      s.renderer.scene? ref = some before → (s.renderer.undergo e).scene? ref = some after →
      before ≠ after → terms.meddled before after

theorem admits_scene {terms : Terms} {event : SceneEvent}
    (allowed : ∀ scene, terms.meddled scene (scene.undergo event)) (s : Session) (id : String) :
    s.Admits terms (.outside (.scene id event)) := by
  intro ref before after _ there there' changed
  obtain ⟨scene, here, untouched⟩ := Renderer.scene?_undergo there (.scene id event)
  obtain rfl : scene = after := Option.some.inj (here.symm.trans there')
  obtain ⟨_, _, same, rfl⟩ := untouched.resolve_left (Ne.symm changed)
  cases same
  exact allowed before

theorem admits_takeOver (s : Session) (id : String) :
    s.Admits .dependable (.outside (.scene id .takeOver)) :=
  admits_scene (fun _ => Or.inr rfl) s id

theorem admits_found {terms : Terms} {s : Session} {ref : SceneRef} {scene : Scene}
    (found : s.renderer.discover.found = some (ref, scene)) (created : terms.created scene) :
    s.Admits terms (.command .tick) := by
  intro _ ref' scene' _ found' _
  obtain ⟨_, rfl⟩ := Prod.mk.inj (Option.some.inj (found.symm.trans found'))
  exact created

theorem admits_working {s : Session} {ref : SceneRef} (terms : Terms)
    (working : s.desk.phase = .working ref) : s.Admits terms (.command .tick) :=
  fun _ _ _ waiting => nomatch working.symm.trans waiting

def OnTerms (terms : Terms) : Session → List Step → Prop
  | _, [] => True
  | s, x :: rest => s.Admits terms x ∧ OnTerms terms (s.step x).1 rest

theorem run_append (s : Session) (first second : List Step) :
    s.run (first ++ second) = (s.run first).run second :=
  List.foldl_append

@[simp] theorem run_cons (s : Session) (x : Step) (rest : List Step) :
    s.run (x :: rest) = (s.step x).1.run rest := rfl

theorem onTerms_cons {terms : Terms} {s : Session} {x : Step} {rest : List Step} :
    s.OnTerms terms (x :: rest) ↔ s.Admits terms x ∧ (s.step x).1.OnTerms terms rest := Iff.rfl

theorem onTerms_append {terms : Terms} {s : Session} {first second : List Step} :
    s.OnTerms terms (first ++ second) ↔
      s.OnTerms terms first ∧ (s.run first).OnTerms terms second := by
  induction first generalizing s with
  | nil => simp [OnTerms, run]
  | cons x rest ih =>
    simp only [List.cons_append, OnTerms, ih, run_cons, and_assoc]

theorem onTerms_of_forall {terms : Terms} {steps : List Step}
    (admitted : ∀ x ∈ steps, ∀ s : Session, s.Admits terms x) (s : Session) :
    s.OnTerms terms steps := by
  induction steps generalizing s with
  | nil => exact True.intro
  | cons x rest ih =>
    exact ⟨admitted x List.mem_cons_self s,
      ih (fun y h => admitted y (List.mem_cons_of_mem x h)) _⟩

theorem onTerms_any (s : Session) (steps : List Session.Step) : s.OnTerms .any steps := by
  refine onTerms_of_forall (fun x _ s => ?_) s
  cases x with
  | outside e => exact fun _ _ _ _ _ _ _ => True.intro
  | command c =>
    cases c with
    | tick => exact fun _ _ _ _ _ _ => True.intro
    | _ => exact True.intro

/-- A session that has done nothing yet, for a configuration. -/
structure Begins (c : Config) (s : Session) : Prop where
  desk : s.desk = Desk.ofConfig c
  deeds : s.outlet.deeds = []

theorem forPanel_begins (c : Config) (r : Renderer) : (forPanel c r).Begins c := ⟨rfl, rfl⟩

theorem forDesk_begins (c : Config) (r : Renderer) : (forDesk c r).Begins c := ⟨rfl, rfl⟩

def onOneScene (c : Config) : Session :=
  forDesk c (Renderer.load [⟨"engine", [some {}]⟩])

theorem onOneScene_begins (c : Config) : (onOneScene c).Begins c := forDesk_begins c _

theorem takeover_onTerms : (onOneScene { enabled := true, cascades := [{}] }).OnTerms .dependable
    [.command .tick, .outside (.scene "main" .takeOver), .command .tick] := by
  have working : (((onOneScene { enabled := true, cascades := [{}] }).step (.command .tick)).1.step
      (.outside (.scene "main" .takeOver))).1.desk.phase = .working 0 := by decide
  have found : (onOneScene { enabled := true, cascades := [{}] }).renderer.discover.found =
      some (0, Scene.create "main" {}) := by decide
  simp only [onTerms_cons]
  exact ⟨admits_found found rfl, admits_takeOver _ "main", admits_working _ working, True.intro⟩

/-- What holds of a session: one property while a volume is under control, another one before and
after. -/
structure Upholds (free : Desk → List Entry → Prop) (held : View → Prop) (s : Session) : Prop where
  free : s.desk.phase.scene? = none → free s.desk s.outlet.deeds
  held : ∀ ref, s.desk.phase = .working ref → ∃ v, s.Shows ref v ∧ held v

end Session

namespace Session.Upholds

variable {free : Desk → List Entry → Prop} {held : View → Prop} {s t : Session}

theorem cases (h : s.Upholds free held) :
    s.desk.phase.scene? = none ∨ ∃ ref v, s.Shows ref v ∧ held v := by
  cases phase : s.desk.phase with
  | working ref => exact .inr ⟨ref, h.held ref phase⟩
  | waiting | released | withdrawn => exact .inl rfl

theorem of_shows {ref : SceneRef} {v : View} (here : s.Shows ref v) (holds : held v) :
    s.Upholds free held where
  free := fun none_here => by simp [here.phase, Phase.scene?] at none_here
  held := fun ref' phase => by
    obtain rfl : ref = ref' := by simpa [here.phase] using phase
    exact ⟨v, here, holds⟩

theorem of_free (none_here : s.desk.phase.scene? = none) (holds : free s.desk s.outlet.deeds) :
    s.Upholds free held where
  free := fun _ => holds
  held := fun ref phase => by simp [phase, Phase.scene?] at none_here

theorem begins {c : Config} (begun : s.Begins c) (start : free (Desk.ofConfig c) []) :
    s.Upholds free held := by
  refine of_free ?_ ?_
  · rw [begun.desk]
    rfl
  · rw [begun.desk, begun.deeds]
    exact start

theorem idle (holds : s.Upholds free held)
    (nowhere : ∀ ref, s.desk.phase = .working ref → s.renderer.scene? ref = none)
    (desk : t.desk = s.desk) (deeds : t.outlet.deeds = s.outlet.deeds) :
    t.desk.phase.scene? = none ∧ free t.desk t.outlet.deeds := by
  rcases holds.cases with none_here | ⟨ref, v, shown, _⟩
  · rw [desk, deeds]
    exact ⟨none_here, holds.free none_here⟩
  · exact absurd (shown.scene.symm.trans (nowhere ref shown.phase)) nofun

end Session.Upholds

structure Safekeeping (terms : Terms) (free : Desk → List Entry → Prop) (held : View → Prop) :
    Prop where
  waits : ∀ {d d' : Desk} {es ds alive}, d.phase.scene? = none →
    (d.phase.home? = none → alive = fun _ => false) → Desk.Move alive none d es d' → free d ds →
    free d' (ds ++ Effect.announcements es)
  moves : ∀ {v w : View}, View.Move v w → held v → held w
  meddles : ∀ {v : View} (event : SceneEvent), terms.meddled v.scene (v.scene.undergo event) →
    held v → held { v with scene := v.scene.undergo event }
  releases : ∀ {v : View} {ref}, v.desk.phase = .working ref → held v →
    free { v.desk with cascades := {}, phase := .released ref } v.deeds
  empties : ∀ {d : Desk} {ds}, d.phase.scene? = none → free d ds → free { d with cascades := {} } ds

namespace Safekeeping

variable {terms : Terms} {free : Desk → List Entry → Prop} {held : View → Prop}
  {s : Session}

theorem moves_keep (kept : Safekeeping terms free held) {v w : View} (ms : View.Moves v w)
    (holds : held v) : held w :=
  ms.keep (fun _ _ => kept.moves) holds

theorem moved (kept : Safekeeping terms free held) {t : Session} (m : s.Moved t)
    (holds : s.Upholds free held) : t.Upholds free held := by
  rcases holds.cases with none_here | ⟨ref, v, shown, held_here⟩
  · obtain ⟨es, move, deeds, _⟩ := m.free none_here
    refine .of_free (move.phase_eq ▸ none_here) ?_
    rw [deeds]
    exact kept.waits none_here (fun nowhere => Session.alive_nowhere nowhere) move
      (holds.free none_here)
  · obtain ⟨w, move, shown'⟩ := shown.moved m
    exact .of_shows shown' (kept.moves move held_here)

theorem undergone (kept : Safekeeping terms free held) (e : OutsideEvent)
    (admitted : s.Admits terms (.outside e)) (holds : s.Upholds free held) :
    (s.undergo e).Upholds free held := by
  have deeds : (s.undergo e).outlet.deeds = s.outlet.deeds := Outlet.deeds_perform_notes ..
  refine ⟨fun none_here => ?_, fun ref phase => ?_⟩
  · rw [deeds]
    exact holds.free none_here
  · obtain ⟨v, shown, held_here⟩ := holds.held ref phase
    obtain ⟨scene, there, untouched⟩ := Renderer.scene?_undergo shown.scene e
    by_cases same : scene = v.scene
    · exact ⟨v, ⟨phase, shown.desk, same ▸ there, deeds.trans shown.deeds⟩, held_here⟩
    · obtain ⟨_, event, _, rfl⟩ := untouched.resolve_left same
      refine ⟨{ v with scene := v.scene.undergo event },
        ⟨phase, shown.desk, there, deeds.trans shown.deeds⟩, ?_⟩
      exact kept.meddles event
        (admitted ref _ _ phase shown.scene there (Ne.symm same)) held_here

theorem ended (kept : Safekeeping terms free held) {t : Session} (e : s.Ended t)
    (holds : s.Upholds free held) : t.Upholds free held := by
  rcases e.desk with same | let_go
  · refine ⟨fun none_here => ?_, fun ref phase => ?_⟩
    · rw [same] at none_here ⊢
      rw [e.deeds]
      exact holds.free none_here
    · rw [same] at phase
      obtain ⟨v, shown, held_here⟩ := holds.held ref phase
      exact ⟨v, ⟨same ▸ phase, same.trans shown.desk, e.renderer ▸ shown.scene,
        e.deeds.trans shown.deeds⟩, held_here⟩
  · cases phase : s.desk.phase with
    | working ref =>
      obtain ⟨v, shown, held_here⟩ := holds.held ref phase
      have desk : t.desk = { v.desk with cascades := {}, phase := .released ref } := by
        rw [let_go, ← shown.desk]
        simp [Desk.release, phase]
      refine .of_free (by simp [desk, Phase.scene?]) ?_
      rw [desk, e.deeds, shown.deeds]
      exact kept.releases (shown.desk ▸ phase) held_here
    | waiting | released | withdrawn =>
      have desk : t.desk = { s.desk with cascades := {} } := by
        rw [let_go]
        simp [Desk.release, phase]
      refine .of_free (by simp [desk, phase, Phase.scene?]) ?_
      rw [desk, e.deeds]
      have none_here : s.desk.phase.scene? = none := by simp [phase, Phase.scene?]
      exact kept.empties none_here (holds.free none_here)

theorem step (kept : Safekeeping terms free held) {x : Session.Step}
    (ticked : s.Admits terms (.command .tick) → s.Upholds free held → s.tick.1.Upholds free held)
    (admitted : s.Admits terms x) (holds : s.Upholds free held) :
    (s.step x).1.Upholds free held := by
  have advance := s.advances x
  generalize (s.step x).1 = t at advance ⊢
  cases advance with
  | undergoes e => exact kept.undergone e admitted holds
  | still => exact holds
  | moves _ _ moved => exact kept.moved moved holds
  | ticks => exact ticked admitted holds
  | ends ended => exact kept.ended ended holds

theorem run (kept : Safekeeping terms free held)
    (ticked : ∀ s : Session, s.Admits terms (.command .tick) → s.Upholds free held →
      s.tick.1.Upholds free held)
    {steps : List Session.Step} (admitted : s.OnTerms terms steps) (holds : s.Upholds free held) :
    (s.run steps).Upholds free held := by
  induction steps generalizing s with
  | nil => exact holds
  | cons x rest ih => exact ih admitted.2 (kept.step (ticked s) admitted.1 holds)

end Safekeeping

/-- What a property has to keep for every run on the terms to uphold it. -/
structure Custody (terms : Terms) (free : Desk → List Entry → Prop) (held : View → Prop) :
    Prop extends Safekeeping terms free held where
  withdraws : ∀ {d : Desk} {plan ds} (id : String), d.phase = .waiting plan → free d ds →
    free { d with phase := .withdrawn } (ds ++ [.call id .createVolume])
  opens : ∀ {s : Session} {plan} {ref : SceneRef} {scene : Scene}, s.desk.phase = .waiting plan →
    free s.desk s.outlet.deeds → terms.created scene → held (s.opening ref scene)
  announces : ∀ {v : View} (editable : Bool), held v →
    held (v.perform [.publish (.cascadesEditableChanged editable)])
  works : ∀ {v : View}, v.Ready → held v → held v.work

namespace Custody

variable {terms : Terms} {free : Desk → List Entry → Prop} {held : View → Prop}
  {s : Session}

theorem sets_up (custody : Custody terms free held) {ref : SceneRef} {scene : Scene}
    (opened : held (s.opening ref scene)) (plan : StartupPlan) :
    held ((s.taken ref scene).setUp plan).view := by
  have filled := custody.moves_keep (s.opening_fill ref scene plan) opened
  exact custody.moves_keep ((s.taken ref scene).setUp_moves plan) (custody.announces _ filled)

/-- After a tick either no volume is under control, or the owed work was the last thing done. -/
theorem tick_cases (custody : Custody terms free held)
    (admitted : s.Admits terms (.command .tick)) (holds : s.Upholds free held) :
    (s.tick.1.desk.phase.scene? = none ∧ free s.tick.1.desk s.tick.1.outlet.deeds) ∨
      ∃ ref v, v.Ready ∧ held v ∧ s.tick.1.Shows ref v.work := by
  obtain ⟨_, outcome⟩ : ∃ did, s.Ticks s.tick.1 did := ⟨_, s.ticks⟩
  cases outcome with
  | idle nowhere desk deeds => exact .inl (holds.idle nowhere desk deeds)
  | withdraws waiting found without desk deeds =>
    rw [desk, deeds]
    exact .inl ⟨rfl, custody.withdraws _ waiting (holds.free (by simp [waiting, Phase.scene?]))⟩
  | opens plan ref scene waiting found supported upkeep ready shown =>
    have opened : held (s.opening ref scene) :=
      custody.opens waiting (holds.free (by simp [waiting, Phase.scene?]))
        (admitted plan ref scene waiting found supported)
    have set_up := custody.sets_up opened plan
    exact .inr ⟨ref, _, ready, custody.moves_keep upkeep.moves set_up, shown⟩
  | works here upkeep ready shown =>
    obtain ⟨v, shown_before, held_here⟩ := holds.held _ here.phase
    obtain rfl := here.unique shown_before
    exact .inr ⟨_, _, ready, custody.moves_keep upkeep.moves held_here, shown⟩

theorem ticked (custody : Custody terms free held)
    (admitted : s.Admits terms (.command .tick)) (holds : s.Upholds free held) :
    s.tick.1.Upholds free held := by
  rcases custody.tick_cases admitted holds with ⟨none_here, waiting⟩ | ⟨ref, v, ready, h, shown⟩
  · exact .of_free none_here waiting
  · exact .of_shows shown (custody.works ready h)

theorem tick_works (custody : Custody terms free held)
    (admitted : s.Admits terms (.command .tick)) (holds : s.Upholds free held) {ref : SceneRef}
    (working : s.tick.1.desk.phase = .working ref) :
    ∃ v, v.Ready ∧ held v ∧ s.tick.1.Shows ref v.work := by
  rcases custody.tick_cases admitted holds with ⟨none_here, _⟩ | ⟨ref', v, ready, h, shown⟩
  · simp [working, Phase.scene?] at none_here
  · obtain rfl : ref' = ref := by simpa [shown.phase] using working
    exact ⟨v, ready, h, shown⟩

theorem step (custody : Custody terms free held) {x : Session.Step} (admitted : s.Admits terms x)
    (holds : s.Upholds free held) : (s.step x).1.Upholds free held :=
  custody.toSafekeeping.step custody.ticked admitted holds

theorem run (custody : Custody terms free held) {steps : List Session.Step}
    (admitted : s.OnTerms terms steps) (holds : s.Upholds free held) :
    (s.run steps).Upholds free held :=
  custody.toSafekeeping.run (fun _ => custody.ticked) admitted holds

theorem run_tick (custody : Custody terms free held) {earlier : List Session.Step}
    (admitted : s.OnTerms terms (earlier ++ [.command .tick])) (holds : s.Upholds free held)
    (obeys : (s.run earlier).isOpen = true) {ref : SceneRef}
    (working : (s.run (earlier ++ [.command .tick])).desk.phase = .working ref) :
    ∃ v, v.Ready ∧ held v ∧ (s.run (earlier ++ [.command .tick])).Shows ref v.work := by
  have ticking : s.run (earlier ++ [.command .tick]) = (s.run earlier).tick.1 := by
    rw [Session.run_append, Session.run_cons, Session.step_obeys obeys]
    rfl
  rw [Session.onTerms_append] at admitted
  rw [ticking] at working ⊢
  exact custody.tick_works admitted.2.1 (custody.run admitted.1 holds) working

theorem stricter (custody : Custody terms free held) {strict : Terms}
    (created : ∀ scene, strict.created scene → terms.created scene)
    (meddled : ∀ before after, strict.meddled before after → terms.meddled before after) :
    Custody strict free held where
  waits := custody.waits
  withdraws := custody.withdraws
  opens waiting h new := custody.opens waiting h (created _ new)
  announces := custody.announces
  moves := custody.moves
  works := custody.works
  meddles event allowed h := custody.meddles event (meddled _ _ allowed) h
  releases := custody.releases
  empties := custody.empties

theorem both (custody : Custody terms free held) {free' : Desk → List Entry → Prop}
    {held' : View → Prop} (other : Custody terms free' held') :
    Custody terms (fun d ds => free d ds ∧ free' d ds) (fun v => held v ∧ held' v) where
  waits none_here nowhere m h :=
    ⟨custody.waits none_here nowhere m h.1, other.waits none_here nowhere m h.2⟩
  withdraws id waiting h := ⟨custody.withdraws id waiting h.1, other.withdraws id waiting h.2⟩
  opens waiting h new := ⟨custody.opens waiting h.1 new, other.opens waiting h.2 new⟩
  announces editable h := ⟨custody.announces editable h.1, other.announces editable h.2⟩
  moves m h := ⟨custody.moves m h.1, other.moves m h.2⟩
  works ready h := ⟨custody.works ready h.1, other.works ready h.2⟩
  meddles event allowed h := ⟨custody.meddles event allowed h.1, other.meddles event allowed h.2⟩
  releases phase h := ⟨custody.releases phase h.1, other.releases phase h.2⟩
  empties none_here h := ⟨custody.empties none_here h.1, other.empties none_here h.2⟩

end Custody

structure Desk.Unused (c : Config) (d : Desk) : Prop where
  plan : d.phase = .waiting ⟨c.cascades, c.enabled⟩
  cascades : d.cascades = {}
  roster : d.roster = {}
  unbound : d.settings.boundCamera = none

theorem Desk.Unused.move {c : Config} {d d' : Desk} {es : List Effect} (h : d.Unused c)
    (m : Desk.Move (fun _ => false) none d es d') : d'.Unused c := by
  cases m with
  | assign a => exact ⟨h.plan, h.cascades, h.roster, (d.draft.assign_boundCamera a).trans h.unbound⟩
  | stay | miss => exact h
  | wish | request => exact ⟨h.plan, h.cascades, h.roster, h.unbound⟩
  | append _ here | remove _ here | edit _ here => contradiction
  | bind _ _ living => contradiction

theorem unused_custody (c : Config) :
    Custody .any (fun d _ => ∀ plan, d.phase = .waiting plan → d.Unused c) (fun _ => True) where
  waits := by
    intro d d' es ds alive _ nowhere m h plan waiting
    have here : d.phase = .waiting plan := m.phase_eq.symm.trans waiting
    rw [nowhere (by rw [here]; rfl)] at m
    exact (h plan here).move m
  withdraws _ _ _ := nofun
  opens _ _ _ := True.intro
  announces _ _ := True.intro
  moves _ _ := True.intro
  works _ _ := True.intro
  meddles _ _ _ := True.intro
  releases _ _ := nofun
  empties _ h plan waiting :=
    ⟨(h plan waiting).plan, rfl, (h plan waiting).roster, (h plan waiting).unbound⟩

theorem settled_custody :
    Custody .any (fun d _ => d.Settled) (fun _ => True) where
  waits _ _ move settled := move.settled settled
  withdraws _ _ _ _ := nofun
  opens _ _ _ := True.intro
  announces _ _ := True.intro
  moves _ _ := True.intro
  works _ _ := True.intro
  meddles _ _ _ := True.intro
  releases _ _ _ := nofun
  empties _ settled := settled

namespace Session

abbrev Serves (c : Config) (s : Session) : Prop :=
  s.Upholds (fun d _ => ∀ plan, d.phase = .waiting plan → d.Unused c) (fun _ => True)

variable {c : Config} {s : Session}

theorem serves_run (begun : s.Begins c) (steps : List Session.Step) : (s.run steps).Serves c := by
  have start : s.Serves c := .begins begun fun _ _ => ⟨rfl, rfl, rfl, rfl⟩
  exact (unused_custody c).run (s.onTerms_any steps) start

theorem run_settled (serves : s.Serves c) (settled : s.desk.Settled) (steps : List Session.Step) :
    (s.run steps).desk.Settled := by
  have start : s.Upholds (fun d _ => d.Settled) (fun _ => True) :=
    ⟨fun _ => settled, serves.held⟩
  have kept := settled_custody.run (s.onTerms_any steps) start
  intro plan waiting
  exact kept.free (by rw [waiting]; rfl) plan waiting

end Session

end VoxelGI
