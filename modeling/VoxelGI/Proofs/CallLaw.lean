import VoxelGI.Proofs.Custody

/-! Laws about the calls of a run. Every call is taken together with the volume that it meets, and a
grammar says which calls may follow each other. If every move and the owed work keep to the grammar,
given what is upheld there, then all calls of a run together keep to it, and the log misses no call. -/
namespace VoxelGI

/-- Calls lead from state to state, and the state of a volume under control shows in the volume. -/
structure Grammar (σ : Type) where
  start : σ
  state : Volume → σ
  Reads : σ → List (Volume × Call) → σ → Prop
  nil : ∀ {q}, Reads q [] q
  append : ∀ {q r t es fs}, Reads q es r → Reads r fs t → Reads q (es ++ fs) t

def Grammar.each (law : Volume → Call → Prop) : Grammar Unit where
  start := ()
  state _ := ()
  Reads _ es _ := ∀ e ∈ es, law e.1 e.2
  nil := by simp
  append first second := List.forall_mem_append.mpr ⟨first, second⟩

variable {σ : Type} {g : Grammar σ} {law : Volume → Call → Prop}

namespace Scene

def meet (s : Scene) : List Call → List (Volume × Call)
  | [] => []
  | c :: rest => (s.volume, c) :: (s.apply c).meet rest

theorem meet_append (s : Scene) (first second : List Call) :
    s.meet (first ++ second) = s.meet first ++ (s.applyAll first).meet second := by
  induction first generalizing s with
  | nil => rfl
  | cons c rest ih =>
    rw [List.cons_append, meet, ih]
    rfl

theorem map_meet (s : Scene) (cs : List Call) : (s.meet cs).map (·.2) = cs := by
  induction cs generalizing s with
  | nil => rfl
  | cons c rest ih => rw [meet, List.map_cons, ih]

def Takes (g : Grammar σ) (s : Scene) (cs : List Call) : Prop :=
  g.Reads (g.state s.volume) (s.meet cs) (g.state (s.applyAll cs).volume)

variable {s : Scene} {cs : List Call}

theorem takes_append {more : List Call} (first : s.Takes g cs)
    (second : (s.applyAll cs).Takes g more) : s.Takes g (cs ++ more) := by
  unfold Takes
  rw [meet_append, applyAll_append]
  exact g.append first second

theorem takes_each_iff : s.Takes (.each law) cs ↔ ∀ e ∈ s.meet cs, law e.1 e.2 := Iff.rfl

theorem takes_of_forall (suits : ∀ c ∈ cs, ∀ v, law v c) : s.Takes (.each law) cs := by
  intro e inside
  have called := List.mem_map_of_mem (f := (·.2)) inside
  rw [map_meet] at called
  exact suits e.2 called e.1

end Scene

namespace View

def Passes (g : Grammar σ) (v w : View) : Prop :=
  ∃ cs, w.calls = v.calls ++ cs ∧ w.scene = v.scene.applyAll cs ∧ v.scene.Takes g cs

theorem Passes.refl (v : View) : v.Passes g v :=
  ⟨[], (List.append_nil _).symm, rfl, g.nil⟩

theorem Passes.trans {u v w : View} (first : u.Passes g v) (second : v.Passes g w) :
    u.Passes g w := by
  obtain ⟨cs, calls, scene, taken⟩ := first
  obtain ⟨cs', calls', scene', taken'⟩ := second
  refine ⟨cs ++ cs', ?_, ?_, ?_⟩
  · rw [calls', calls, List.append_assoc]
  · rw [scene', scene, Scene.applyAll_append]
  · rw [scene] at taken'
    exact Scene.takes_append taken taken'

theorem passes_adopt {v : View} {es : List Effect} (taken : v.scene.Takes g (Effect.calls es))
    (d : Desk) : v.Passes g (v.adopt d es) :=
  ⟨_, v.adopt_calls d es, rfl, taken⟩

theorem passes_adopt_of_forall {v : View} {es : List Effect}
    (suits : ∀ c ∈ Effect.calls es, ∀ u, law u c) (d : Desk) :
    v.Passes (.each law) (v.adopt d es) :=
  passes_adopt (Scene.takes_of_forall suits) d

end View

namespace Session

/-- The scene that calls go to: the one under control, or before that the one a tick finds. -/
def venue? (s : Session) : Option Scene :=
  match s.desk.phase with
  | .waiting _ => s.renderer.discover.found.map (·.2)
  | _ => s.scene?.map (·.2)

def meets (s : Session) (x : Step) : List (Volume × Call) :=
  match s.venue? with
  | some scene => scene.meet ((s.step x).1.outlet.calls.drop s.outlet.calls.length)
  | none => []

def log : Session → List Step → List (Volume × Call)
  | _, [] => []
  | s, x :: rest => s.meets x ++ (s.step x).1.log rest

structure Reaches (g : Grammar σ) (s : Session) (q : σ) : Prop where
  waits : ∀ plan, s.desk.phase = .waiting plan → q = g.start
  works : ∀ ref v, s.Shows ref v → g.state v.scene.volume = q

structure Passes (g : Grammar σ) (s : Session) (q : σ) (x : Step) : Prop where
  reads : ∃ r, g.Reads q (s.meets x) r ∧ (s.step x).1.Reaches g r
  calls : (s.step x).1.outlet.calls = s.outlet.calls ++ (s.meets x).map (·.2)

variable {s t : Session} {x : Session.Step} {q : σ}

theorem meets_of_calls {scene : Scene} {cs : List Call} (venue : s.venue? = some scene)
    (calls : (s.step x).1.outlet.calls = s.outlet.calls ++ cs) : s.meets x = scene.meet cs := by
  rw [meets, venue, calls]
  simp

theorem meets_quiet (quiet : (s.step x).1.outlet.calls = s.outlet.calls) : s.meets x = [] := by
  unfold meets
  rw [quiet, List.drop_length]
  cases s.venue? <;> rfl

theorem venue_working {ref : SceneRef} {v : View} (here : s.Shows ref v) :
    s.venue? = some v.scene := by
  have at_work : s.scene? = some (ref, v.scene) := scene?_working here.phase here.scene
  unfold venue?
  rw [here.phase, at_work]
  rfl

theorem venue_waiting {plan : StartupPlan} {ref : SceneRef} {scene : Scene}
    (waiting : s.desk.phase = .waiting plan)
    (found : s.renderer.discover.found = some (ref, scene)) : s.venue? = some scene := by
  unfold venue?
  rw [waiting, found]
  rfl

theorem Reaches.begins {c : Config} (begun : s.Begins c) : s.Reaches g g.start where
  waits _ _ := rfl
  works ref v shown := by
    have working := shown.phase
    rw [begun.desk] at working
    contradiction

theorem Reaches.of_phase (reached : s.Reaches g q) (same : t.desk.phase = s.desk.phase)
    (free : s.desk.phase.scene? = none) : t.Reaches g q where
  waits plan waiting := reached.waits plan (same.symm.trans waiting)
  works ref v shown := by
    rw [← same, shown.phase] at free
    contradiction

theorem Reaches.of_shows {ref : SceneRef} {v : View} (shown : s.Shows ref v) :
    s.Reaches g (g.state v.scene.volume) where
  waits plan waiting := by
    rw [shown.phase] at waiting
    contradiction
  works ref' u shown' := by rw [shown.unique shown']

theorem Reaches.ended (reached : s.Reaches g q) (e : s.Ended t) : t.Reaches g q := by
  rcases e.desk with same | let_go
  · refine ⟨fun plan waiting => reached.waits plan (same ▸ waiting), fun ref v shown => ?_⟩
    exact reached.works ref v
      ⟨same ▸ shown.phase, same.symm.trans shown.desk, e.renderer ▸ shown.scene,
        e.deeds.symm.trans shown.deeds⟩
  · refine ⟨fun plan waiting => ?_, fun ref v shown => ?_⟩
    · rw [let_go] at waiting
      cases phase : s.desk.phase <;> simp [Desk.release, phase] at waiting
      exact reached.waits plan (waiting ▸ phase)
    · have working := shown.phase
      rw [let_go] at working
      cases phase : s.desk.phase <;> simp [Desk.release, phase] at working

theorem passes_quiet (quiet : (s.step x).1.outlet.calls = s.outlet.calls)
    (reached : (s.step x).1.Reaches g q) : s.Passes g q x := by
  have none_met := meets_quiet quiet
  refine ⟨⟨q, none_met ▸ g.nil, reached⟩, ?_⟩
  rw [none_met, quiet]
  exact (List.append_nil _).symm

theorem passes_view {ref : SceneRef} {v w : View} (venue : s.venue? = some v.scene)
    (deeds : s.outlet.deeds = v.deeds) (here : g.state v.scene.volume = q)
    (passes : v.Passes g w) (shown : (s.step x).1.Shows ref w) : s.Passes g q x := by
  obtain ⟨cs, calls, scene, taken⟩ := passes
  have made : (s.step x).1.outlet.calls = s.outlet.calls ++ cs := by
    rw [Outlet.calls, Outlet.calls, shown.deeds, deeds]
    exact calls
  have met := meets_of_calls venue made
  refine ⟨⟨g.state w.scene.volume, ?_, .of_shows shown⟩, ?_⟩
  · rw [met, scene, ← here]
    exact taken
  · rw [met, Scene.map_meet, made]

end Session

structure CallLaw (terms : Terms) (free : Desk → List Entry → Prop) (held : View → Prop)
    (g : Grammar σ) : Prop extends Custody terms free held where
  creates : ∀ q v, g.Reads q [(v, .createVolume)] q
  tells : ∀ q v, g.Reads q [(v, .participants .everything)] q
  starts : ∀ {scene : Scene}, terms.created scene → g.state scene.volume = g.start
  spares : ∀ {before after : Scene}, terms.meddled before after →
    g.state after.volume = g.state before.volume
  passes : ∀ {v w : View}, View.Move v w → held v → v.Passes g w
  labours : ∀ {v : View}, v.Ready → held v → v.Passes g v.work

namespace CallLaw

variable {terms : Terms} {free : Desk → List Entry → Prop} {held : View → Prop}
  {s : Session} {x : Session.Step} {q : σ}

theorem moves_pass (lawful : CallLaw terms free held g) {v w : View} (ms : View.Moves v w)
    (holds : held v) : v.Passes g w := by
  have both : held w ∧ v.Passes g w :=
    ms.keep (P := fun u => held u ∧ v.Passes g u)
      (fun _ _ m h => ⟨lawful.moves m h.1, h.2.trans (lawful.passes m h.1)⟩) ⟨holds, .refl v⟩
  exact both.2

theorem set_up_passes (lawful : CallLaw terms free held g) {ref : SceneRef} {scene : Scene}
    (opened : held (s.opening ref scene)) (plan : StartupPlan) :
    View.Passes g ⟨{ s.desk with phase := .working ref }, scene, s.outlet.deeds⟩
      ((s.taken ref scene).setUp plan).view := by
  have opening : View.Passes g ⟨{ s.desk with phase := .working ref }, scene, s.outlet.deeds⟩
      (s.opening ref scene) := by
    refine View.passes_adopt ?_ _
    exact g.append (lawful.creates _ _) (lawful.tells _ _)
  have filling := s.opening_fill ref scene plan
  have filled := lawful.moves_keep filling opened
  have announcing (v : View) (e : Event) : v.Passes g (v.perform [.publish e]) := by
    refine View.passes_adopt ?_ v.desk
    exact g.nil
  exact ((opening.trans (lawful.moves_pass filling opened)).trans (announcing _ _)).trans
    (lawful.moves_pass ((s.taken ref scene).setUp_moves plan) (lawful.announces _ filled))

variable (lawful : CallLaw terms free held g) (holds : s.Upholds free held)
  (reached : s.Reaches g q)

include lawful holds reached in
theorem outside_passes (e : OutsideEvent) (admitted : s.Admits terms (.outside e)) :
    s.Passes g q (.outside e) := by
  refine Session.passes_quiet (Outlet.calls_of_deeds (Outlet.deeds_perform_notes ..))
    ⟨reached.waits, fun ref v shown => ?_⟩
  obtain ⟨u, here, _⟩ := holds.held ref shown.phase
  rw [← reached.works ref u here]
  by_cases same : u.scene = v.scene
  · rw [same]
  · exact lawful.spares (admitted ref _ _ shown.phase here.scene shown.scene same)

include lawful holds reached in
theorem moved_passes {c : Command} (m : s.Moved (s.step (.command c)).1) :
    s.Passes g q (.command c) := by
  rcases holds.cases with none_here | ⟨ref, v, shown, held_here⟩
  · obtain ⟨es, move, _⟩ := m.free none_here
    exact Session.passes_quiet (m.free_calls none_here) (reached.of_phase move.phase_eq none_here)
  · obtain ⟨w, move, shown'⟩ := shown.moved m
    exact Session.passes_view (Session.venue_working shown) shown.deeds (reached.works ref v shown)
      (lawful.passes move held_here) shown'

include lawful holds reached in
theorem tick_passes (ticking : (s.step (.command .tick)).1 = s.tick.1)
    (admitted : s.Admits terms (.command .tick)) : s.Passes g q (.command .tick) := by
  obtain ⟨_, outcome⟩ : ∃ did, s.Ticks s.tick.1 did := ⟨_, s.ticks⟩
  rw [← ticking] at outcome
  cases outcome with
  | idle nowhere desk deeds =>
    obtain ⟨none_here, _⟩ := holds.idle nowhere desk deeds
    exact Session.passes_quiet (Outlet.calls_of_deeds deeds)
      (reached.of_phase (congrArg Desk.phase desk) (desk ▸ none_here))
  | withdraws waiting found without desk deeds =>
    have calls : (s.step (.command .tick)).1.outlet.calls = s.outlet.calls ++ [.createVolume] := by
      rw [Outlet.calls, deeds, List.filterMap_append]
      rfl
    have met := Session.meets_of_calls (Session.venue_waiting waiting found) calls
    refine ⟨⟨q, met ▸ lawful.creates q _, fun plan waiting => ?_, fun ref v shown => ?_⟩, ?_⟩
    · rw [desk] at waiting
      contradiction
    · have working := shown.phase
      rw [desk] at working
      contradiction
    · rw [met, Scene.map_meet, calls]
  | opens plan ref scene waiting found supported upkeep ready shown =>
    have created := admitted plan ref scene waiting found supported
    have opened : held (s.opening ref scene) :=
      lawful.opens waiting (holds.free (by simp [waiting, Phase.scene?])) created
    have set_up := lawful.sets_up opened plan
    have worked := lawful.labours ready (lawful.moves_keep upkeep.moves set_up)
    exact Session.passes_view (Session.venue_waiting waiting found) rfl
      ((lawful.starts created).trans (reached.waits plan waiting).symm)
      (((lawful.set_up_passes opened plan).trans (lawful.moves_pass upkeep.moves set_up)).trans
        worked) shown
  | works here upkeep ready shown =>
    obtain ⟨v, here', held_here⟩ := holds.held _ here.phase
    obtain rfl := here.unique here'
    have worked := lawful.labours ready (lawful.moves_keep upkeep.moves held_here)
    exact Session.passes_view (Session.venue_working here) here.deeds (reached.works _ _ here)
      ((lawful.moves_pass upkeep.moves held_here).trans worked) shown

include lawful holds reached in
theorem step_passes (admitted : s.Admits terms x) : s.Passes g q x := by
  have advance := s.advances x
  generalize after : (s.step x).1 = t at advance
  cases advance with
  | undergoes e => exact lawful.outside_passes holds reached e admitted
  | still => exact Session.passes_quiet (by rw [after]) (after.symm ▸ reached)
  | moves _ _ moved => exact lawful.moved_passes holds reached (after.symm ▸ moved)
  | ticks => exact lawful.tick_passes holds reached after admitted
  | ends ended =>
    rw [← after] at ended
    exact Session.passes_quiet (Outlet.calls_of_deeds ended.deeds) (reached.ended ended)

theorem log_from {steps : List Session.Step} (lawful : CallLaw terms free held g)
    (admitted : s.OnTerms terms steps) (holds : s.Upholds free held) (reached : s.Reaches g q) :
    (∃ r, g.Reads q (s.log steps) r) ∧
      (s.run steps).outlet.calls = s.outlet.calls ++ (s.log steps).map (·.2) := by
  induction steps generalizing s q with
  | nil => exact ⟨⟨q, g.nil⟩, (List.append_nil _).symm⟩
  | cons x rest ih =>
    obtain ⟨⟨r, reads, reached'⟩, calls⟩ := lawful.step_passes holds reached admitted.1
    obtain ⟨⟨t, reads'⟩, calls'⟩ := ih admitted.2 (lawful.step admitted.1 holds) reached'
    refine ⟨⟨t, g.append reads reads'⟩, ?_⟩
    rw [Session.run_cons, calls', calls, Session.log, List.map_append, List.append_assoc]

/-- The calls of a run keep to the grammar, each with the volume that it meets, and the log has all
calls of the run. -/
theorem log (lawful : CallLaw terms free held g) {c : Config} {steps : List Session.Step}
    (begun : s.Begins c) (start : free (Desk.ofConfig c) []) (admitted : s.OnTerms terms steps) :
    (∃ r, g.Reads g.start (s.log steps) r) ∧
      (s.log steps).map (·.2) = (s.run steps).outlet.calls := by
  obtain ⟨reads, calls⟩ :=
    lawful.log_from admitted (.begins begun start) (.begins begun)
  refine ⟨reads, ?_⟩
  rw [calls, Outlet.calls, begun.deeds]
  rfl

end CallLaw

end VoxelGI
