import VoxelGI.Proofs.Announcements

/-! What the subscribers hear about the cascades. They can be edited as soon as there is a volume,
and are frozen for good once it has started, so the subscribers hear at most two things: that editing
is possible and, later, that it is no longer. What they heard is what can be done. -/
namespace VoxelGI

def Event.editable? : Event → Option Bool
  | .cascadesEditableChanged editable => some editable
  | _ => none

def Effect.editings (es : List Effect) : List Bool := (events es).filterMap Event.editable?

def editings (deeds : List Entry) : List Bool :=
  (deeds.filterMap Entry.event?).filterMap Event.editable?

@[simp] theorem editings_deeds (ds : List Entry) (id : String) (es : List Effect) :
    editings (ds ++ Effect.deeds id es) = editings ds ++ Effect.editings es := by
  simp [editings, Effect.editings]

@[simp] theorem editings_announcements (ds : List Entry) (es : List Effect) :
    editings (ds ++ Effect.announcements es) = editings ds ++ Effect.editings es := by
  simp [editings, Effect.editings]

/-- What is to be heard of a volume: its cascades can be edited, and once it has started no
longer. -/
def heard (started : Bool) : List Bool := if started then [true, false] else [true]

theorem heard_ne_nil (started : Bool) : heard started ≠ [] := by
  cases started <;> decide

theorem heard_eq_editable (started : Bool) : heard started = [true] ↔ started = false := by
  cases started <;> decide

/-- Terms on which a volume is created idle, and outsiders neither start nor stop it. -/
def Terms.startedForGood : Terms where
  created := fun s => s.volume.started = false
  meddled := fun before after => after.volume.started = before.volume.started

theorem Desk.Move.editings {alive : Camera → Bool} {volume : Option Volume} {d d' : Desk}
    {es : List Effect} (m : Move alive volume d es d') : Effect.editings es = [] := by
  cases m with
  | stay ns => rw [Effect.editings, Effect.events_notes, List.filterMap_nil]
  | assign a => rw [Effect.editings, Draft.events_assign, List.filterMap_nil]
  | wish enabled => split <;> rfl
  | append v =>
    rw [Effect.editings, Effect.events_call, Effect.events_append, CascadeEntry.events_effects]
    rfl
  | miss | remove | edit | request | bind => rfl

namespace View

theorem Move.editings {v w : View} (m : Move v w) :
    VoxelGI.editings w.deeds = VoxelGI.editings v.deeds := by
  cases m with
  | command m => rw [adopt_deeds, editings_deeds, m.editings, List.append_nil]
  | upkeep u =>
    cases u with
    | refresh =>
      rw [adopt_deeds, editings_deeds, Effect.editings, Desk.events_refreshCameras]
      exact List.append_nil _
    | notice | drop =>
      rw [adopt_deeds, editings_deeds]
      exact List.append_nil _

theorem Moves.editings {v w : View} (ms : Moves v w) :
    VoxelGI.editings w.deeds = VoxelGI.editings v.deeds :=
  ms.keep (P := fun u => VoxelGI.editings u.deeds = VoxelGI.editings v.deeds)
    (fun _ _ m h => m.editings.trans h) rfl

theorem work_started {v : View} (running : v.scene.volume.started = true) :
    v.work.scene.volume.started = true := by
  by_cases owed : v.desk.draft.pending = .rebuild
  · have status := congrArg Scene.Status.started (Desk.status_rebuild owed v.scene)
    exact status.trans (by simp [running])
  · rw [work_scene, Desk.applyAll_workEffects owed]
    exact running

def Advertised (v : View) : Prop := VoxelGI.editings v.deeds = heard v.scene.volume.started

theorem Advertised.move {v w : View} (told : v.Advertised) (m : Move v w) : w.Advertised := by
  have same : w.scene.volume.started = v.scene.volume.started :=
    congrArg Scene.Status.started m.status
  rw [Advertised, m.editings, same]
  exact told

theorem Advertised.moves {v w : View} (told : v.Advertised) (ms : Moves v w) : w.Advertised :=
  ms.keep (fun _ _ m h => h.move m) told

theorem Advertised.work {v : View} (told : v.Advertised) : v.work.Advertised := by
  have running := v.work_started
  rw [work_scene] at running
  rw [Advertised, work_deeds, editings_deeds, told, Effect.editings, Desk.events_workEffects,
    work_scene]
  -- the work tells of the start exactly if the volume starts by it
  cases before : v.scene.volume.started with
  | true => rw [running before]; rfl
  | false =>
    cases (v.scene.applyAll (Effect.calls (v.desk.workEffects v.scene))).volume.started <;> rfl

theorem advertised_setUp {b : Bench} {plan : StartupPlan} {v : View}
    (filling : Moves v (b.fill plan).view) (unheard : VoxelGI.editings v.deeds = [])
    (idle : v.scene.volume.started = false) : (b.setUp plan).view.Advertised := by
  -- filling the volume announces nothing, and then it is told that the cascades can be edited
  have silent : VoxelGI.editings (b.fill plan).view.deeds = [] := filling.editings.trans unheard
  have still : (b.fill plan).view.scene.volume.started = false :=
    (congrArg Scene.Status.started filling.status).trans idle
  refine Advertised.moves ?_ (b.setUp_moves plan)
  rw [Advertised, perform_deeds, editings_deeds, silent, perform_scene, still]
  exact congrArg heard still.symm

end View

structure Heard (d : Desk) (ds : List Entry) : Prop where
  before : d.phase.home? = none → editings ds = []
  after : d.phase.home? ≠ none → ∃ started, editings ds = heard started

theorem Heard.of_eq {d d' : Desk} {ds ds' : List Entry} (h : Heard d ds)
    (phase : d'.phase = d.phase) (same : editings ds' = editings ds) : Heard d' ds' := by
  refine ⟨fun nowhere => ?_, fun somewhere => ?_⟩
  · rw [same]
    exact h.before (phase ▸ nowhere)
  · rw [same]
    exact h.after (phase ▸ somewhere)

theorem heard_safekeeping : Safekeeping .startedForGood Heard View.Advertised where
  waits _ _ m h := by
    refine h.of_eq m.phase_eq ?_
    rw [editings_announcements, m.editings, List.append_nil]
  moves m h := h.move m
  meddles _ kept h := h.trans (congrArg heard kept.symm)
  releases _ h := ⟨nofun, fun _ => ⟨_, h⟩⟩
  empties _ h := h.of_eq rfl rfl

theorem heard_ticked (s : Session) (admitted : s.Admits .startedForGood (.command .tick))
    (holds : s.Upholds Heard View.Advertised) : s.tick.1.Upholds Heard View.Advertised := by
  obtain ⟨_, outcome⟩ : ∃ did, s.Ticks s.tick.1 did := ⟨_, s.ticks⟩
  cases outcome with
  | idle nowhere desk deeds =>
    obtain ⟨none_here, told⟩ := holds.idle nowhere desk deeds
    exact .of_free none_here told
  | withdraws waiting found without desk deeds =>
    have unheard : editings s.outlet.deeds = [] :=
      (holds.free (by simp [waiting, Phase.scene?])).before (by simp [waiting, Phase.home?])
    refine .of_free (by simp [desk, Phase.scene?]) ⟨fun _ => ?_, ?_⟩
    · rw [deeds, editings, List.filterMap_append, List.filterMap_append]
      exact (List.append_nil _).trans unheard
    · simp [desk, Phase.home?]
  | opens plan ref scene waiting found supported upkeep ready shown =>
    have unheard : editings s.outlet.deeds = [] :=
      (holds.free (by simp [waiting, Phase.scene?])).before (by simp [waiting, Phase.home?])
    have opening : editings (s.opening ref scene).deeds = [] := by
      rw [Session.opening, View.perform_deeds, editings_deeds, unheard]
      rfl
    have set_up : ((s.taken ref scene).setUp plan).view.Advertised :=
      View.advertised_setUp (s.opening_fill ref scene plan) opening
        (admitted plan ref scene waiting found supported)
    exact .of_shows shown (set_up.moves upkeep.moves).work
  | works here upkeep ready shown =>
    obtain ⟨v, shown_before, told⟩ := holds.held _ here.phase
    obtain rfl := here.unique shown_before
    exact .of_shows shown (told.moves upkeep.moves).work

/-- In every run the subscribers hear nothing about editing, or that it is possible, or that and then
that it is no longer: nothing exactly before a volume was taken over. After every step the cascades
can be edited exactly if it was only heard that they can be, unless the volume was let go. -/
theorem Session.editability_mirrors {c : Config} {s : Session} (begun : s.Begins c)
    {steps : List Session.Step} (terms : s.OnTerms .startedForGood steps) :
    let t := s.run steps
    let told := editings t.outlet.deeds
    (told = [] ∨ told = [true] ∨ told = [true, false]) ∧
      (told = [] ↔ t.desk.phase.name ≠ "Initialized") ∧
      (t.cascadesEditable = true ↔ told = [true] ∧ ∀ ref, t.desk.phase ≠ .released ref) := by
  intro t told
  have start : s.Upholds Heard View.Advertised :=
    .begins begun ⟨fun _ => rfl, fun somewhere => absurd rfl somewhere⟩
  have holds : t.Upholds Heard View.Advertised := heard_safekeeping.run heard_ticked terms start
  have known (started : Bool) : heard started = [] ∨ heard started = [true] ∨
      heard started = [true, false] := by
    cases started <;> decide
  have frozen (none_here : t.desk.phase.scene? = none) : t.cascadesEditable = false := by
    simp [cascadesEditable, volume?, scene?_free none_here, CascadeStack.isEditable]
  cases phase : t.desk.phase with
  | waiting | withdrawn =>
    have unheard : told = [] :=
      (holds.free (by simp [phase, Phase.scene?])).before (by simp [phase, Phase.home?])
    rw [frozen (by simp [phase, Phase.scene?]), unheard]
    exact ⟨.inl rfl, by simp [Phase.name], by simp⟩
  | released ref =>
    obtain ⟨started, same⟩ :=
      (holds.free (by simp [phase, Phase.scene?])).after (by simp [phase, Phase.home?])
    change told = heard started at same
    rw [frozen (by simp [phase, Phase.scene?]), same]
    exact ⟨known started, by simp [Phase.name, heard_ne_nil], by simp⟩
  | working ref =>
    obtain ⟨v, here, same⟩ := holds.held ref phase
    have here_told : told = heard v.scene.volume.started := by
      rw [← same, ← here.deeds]
    have editable : t.cascadesEditable = !v.scene.volume.started := by
      simp [cascadesEditable, volume?, scene?_working phase here.scene, CascadeStack.isEditable]
    rw [editable, here_told]
    refine ⟨known _, by simp [Phase.name, heard_ne_nil], ?_⟩
    rw [heard_eq_editable]
    simp

theorem Session.editability_mirrors_takeover :
    let s := onOneScene { cascades := [{}] }
    let steps := [.command .tick, .outside (.scene "main" .takeOver), .command (.setEnabled true),
      .command .tick]
    s.OnTerms .startedForGood steps ∧ editings (s.run [.command .tick]).outlet.deeds = [true] ∧
      editings (s.run steps).outlet.deeds = [true, false] ∧
      (s.run steps).cascadesEditable = false := by
  intro s steps
  have found : s.renderer.discover.found = some (0, Scene.create "main" {}) := by decide
  have working : (s.run [.command .tick, .outside (.scene "main" .takeOver),
      .command (.setEnabled true)]).desk.phase = .working 0 := by decide
  have last : steps = [.command .tick, .outside (.scene "main" .takeOver),
      .command (.setEnabled true)] ++ [.command .tick] := rfl
  have terms : s.OnTerms .startedForGood steps := by
    rw [last, onTerms_append]
    refine ⟨⟨admits_found found rfl, ?_, True.intro, True.intro⟩,
      admits_working _ working, True.intro⟩
    exact admits_scene (fun _ => rfl) _ "main"
  have told : editings (s.run steps).outlet.deeds = [true, false] := by decide
  obtain ⟨_, _, mirrored⟩ := editability_mirrors (onOneScene_begins _) terms
  refine ⟨terms, by decide, told, ?_⟩
  rw [← Bool.not_eq_true, mirrored, told]
  simp

end VoxelGI
