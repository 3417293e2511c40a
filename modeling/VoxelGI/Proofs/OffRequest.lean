import VoxelGI.Proofs.SetUp

/-! Asking for global illumination to be off. It stays off, and the engine is not told to turn it
on, until a wish for it is accepted. There is one exception: the tick that takes over the volume
carries out what the configuration asks for, whatever was asked before. -/
namespace VoxelGI

def Call.turnsOn : Call → Bool
  | .start .. | .build | .setActive true => true
  | _ => false

theorem Call.turnsOn_chores {cs : List Call} (chores : ∀ c ∈ cs, c.isChore = true) :
    cs.any turnsOn = false := by
  rw [List.any_eq_false]
  intro c h
  have chore := chores c h
  cases c <;> first | exact Bool.false_ne_true | contradiction

def Session.onCalls (s : Session) : List Call := s.outlet.calls.filter Call.turnsOn

namespace View

def onCalls (v : View) : List Call := v.calls.filter Call.turnsOn

theorem onCalls_adopt (v : View) (d : Desk) {es : List Effect}
    (off : (Effect.calls es).any Call.turnsOn = false) : (v.adopt d es).onCalls = v.onCalls := by
  have none_on : (Effect.calls es).filter Call.turnsOn = [] := by
    rw [List.filter_eq_nil_iff]
    rwa [List.any_eq_false] at off
  unfold onCalls
  rw [adopt_calls, List.filter_append, none_on, List.append_nil]

theorem Move.onCalls {v w : View} (m : Move v w) : w.onCalls = v.onCalls := by
  obtain ⟨es, same, chores⟩ := m.effects
  rw [same]
  exact onCalls_adopt v _ (Call.turnsOn_chores chores)

theorem Moves.onCalls {v w : View} (ms : Moves v w) : w.onCalls = v.onCalls :=
  ms.keep (P := fun u => u.onCalls = v.onCalls) (fun _ _ m h => m.onCalls.trans h) rfl

theorem Upkeep.off {v w : View} (u : Upkeep v w) (off : v.desk.settings.enabled = false) :
    w.desk.settings.enabled = false := by
  cases u with
  | refresh => exact (v.desk.refreshCameras_enabled v.scene).trans off
  | notice | drop => rfl

end View

theorem Desk.work_off {d : Desk} (off : d.settings.enabled = false) (scene : Scene) :
    (Effect.calls (d.workEffects scene)).any Call.turnsOn = false := by
  unfold workEffects
  cases d.draft.pending with
  | clean => rfl
  | overlayOnly =>
    unfold Settings.overlayEffects
    cases scene.volume.started <;> rfl
  | relight =>
    unfold Settings.relightEffects
    cases scene.volume.active <;> cases scene.volume.started <;> rfl
  | rebuild =>
    have handed_over : (Effect.calls (if scene.volume.started then [.call (.overlay .off)]
        else d.cascades.effects)).any Call.turnsOn = false := by
      cases scene.volume.started
      · exact Call.turnsOn_chores d.cascades.chores
      · rfl
    have shown (now : Bool) : (Effect.calls
        (d.settings.afterRebuild scene.volume.started now)).any Call.turnsOn = false := by
      cases scene.volume.started <;> cases now <;> rfl
    simp only [Settings.rebuildEffects, off, Bool.false_eq_true, if_false, Effect.calls_append,
      List.any_append, handed_over, shown]
    rfl

theorem View.onCalls_work {v : View} (off : v.desk.settings.enabled = false) :
    v.work.onCalls = v.onCalls :=
  v.onCalls_adopt v.desk (Desk.work_off off v.scene)

namespace Session

variable {c : Config} {s t : Session}

theorem adopt_off {r : Decision Desk α} (off : r.state.settings.enabled = false) :
    (s.adopt r).desk.settings.enabled = false := by
  unfold adopt
  cases s.scene? <;> exact off

theorem obey_off {k : Command} (move : k.isMove = true) (off : s.desk.settings.enabled = false)
    (refused : k = .setEnabled true → (s.obey k).2 ≠ .verdict true) :
    (s.obey k).1.desk.settings.enabled = false := by
  cases k with
  | tick | release | close => contradiction
  | setEnabled enabled =>
    cases enabled with
    | false => exact adopt_off rfl
    | true =>
      have answered : (s.desk.setEnabled s.alive true).answer ≠ true := fun accepted =>
        refused rfl (congrArg Reply.verdict accepted)
      refine adopt_off ?_
      unfold Desk.setEnabled at answered ⊢
      dsimp only at answered ⊢
      split at answered
      · exact off
      · contradiction
  | assign a => exact adopt_off ((s.desk.draft.assign_enabled a).trans off)
  | addCascade | removeLastCascade => exact adopt_off off
  | readCascade index =>
    unfold obey
    dsimp only
    split <;> exact off
  | updateCascade index change =>
    unfold obey
    dsimp only
    split <;> exact adopt_off off
  | requestRefresh | listCameras | subscribe => exact off
  | bindCamera name =>
    refine adopt_off ?_
    unfold Desk.bindCamera
    split <;> exact off

theorem onCalls_of_deeds (same : t.outlet.deeds = s.outlet.deeds) : t.onCalls = s.onCalls :=
  congrArg (List.filter Call.turnsOn) (Outlet.calls_of_deeds same)

theorem Shows.onCalls {ref : SceneRef} {v : View} (here : s.Shows ref v) : s.onCalls = v.onCalls := by
  unfold Session.onCalls Outlet.calls
  rw [here.deeds]
  rfl

theorem Moved.onCalls (serves : s.Serves c) (m : s.Moved t) : t.onCalls = s.onCalls := by
  rcases serves.cases with none_here | ⟨ref, v, shown, _⟩
  · exact congrArg (List.filter Call.turnsOn) (m.free_calls none_here)
  · obtain ⟨w, move, shown'⟩ := shown.moved m
    rw [shown.onCalls, shown'.onCalls, move.onCalls]

theorem opening_onCalls (s : Session) (ref : SceneRef) (scene : Scene) :
    (s.opening ref scene).onCalls = s.onCalls :=
  View.onCalls_adopt ⟨{ s.desk with phase := .working ref }, scene, s.outlet.deeds⟩ _ rfl

theorem setUp_onCalls (s : Session) (ref : SceneRef) (scene : Scene) (plan : StartupPlan) :
    ((s.taken ref scene).setUp plan).view.onCalls = s.onCalls := by
  have announced (v : View) (e : Event) : (v.perform [.publish e]).onCalls = v.onCalls :=
    v.onCalls_adopt v.desk rfl
  rw [((s.taken ref scene).setUp_moves plan).onCalls, announced,
    (s.opening_fill ref scene plan).onCalls, opening_onCalls]

theorem tick_off (serves : s.Serves c) (off : s.desk.settings.enabled = false)
    (obeys : s.isOpen = true) (quiet : ¬ s.StartsUp c) :
    s.tick.1.desk.settings.enabled = false ∧ s.tick.1.onCalls = s.onCalls := by
  have worked {ref : SceneRef} {w : View} (wanted : w.desk.settings.enabled = false)
      (shown : s.tick.1.Shows ref w.work) (same : w.onCalls = s.onCalls) :
      s.tick.1.desk.settings.enabled = false ∧ s.tick.1.onCalls = s.onCalls := by
    refine ⟨?_, ?_⟩
    · rw [shown.desk]
      exact wanted
    · rw [shown.onCalls, View.onCalls_work wanted, same]
  obtain ⟨_, outcome⟩ : ∃ did, s.Ticks s.tick.1 did := ⟨_, s.ticks⟩
  cases outcome with
  | idle _ desk deeds =>
    rw [desk]
    exact ⟨off, onCalls_of_deeds deeds⟩
  | withdraws _ _ _ desk deeds =>
    refine ⟨?_, ?_⟩
    · rw [desk]
      exact off
    · unfold onCalls Outlet.calls
      rw [deeds, List.filterMap_append, List.filter_append]
      exact List.append_nil _
  | opens plan ref scene waiting found supported upkeep ready shown =>
    have refused : plan.enable = true → ((s.taken ref scene).fill plan).desk.unmet?
        ((s.taken ref scene).fill plan).stage.scene.holds ≠ none := by
      intro enable met
      have unused := serves.free (by rw [waiting]; rfl) plan waiting
      have same := Phase.waiting.inj (waiting.symm.trans unused.plan)
      obtain ⟨cascades, idle, cameras⟩ := (taken_unmet serves waiting ref scene).mp met
      have wanted : c.enabled = true := (congrArg StartupPlan.enable same).symm.trans enable
      exact quiet
        ⟨obeys, ⟨plan, waiting⟩, wanted, cascades, ref, scene, found, supported, idle, cameras⟩
    have set_up := Bench.setUp_off (b := s.taken ref scene) off refused
    refine worked (upkeep.keep (fun _ _ u => u.off) set_up) shown ?_
    rw [upkeep.moves.onCalls, setUp_onCalls]
  | works here upkeep ready shown =>
    refine worked (upkeep.keep (fun _ _ u => u.off) (here.desk ▸ off)) shown ?_
    rw [upkeep.moves.onCalls, here.onCalls]

theorem step_off (serves : s.Serves c) (off : s.desk.settings.enabled = false) {x : Session.Step}
    (refused : x = .command (.setEnabled true) → (s.step x).2 ≠ .verdict true)
    (quiet : x = .command .tick → ¬ s.StartsUp c) :
    (s.step x).1.desk.settings.enabled = false ∧ (s.step x).1.onCalls = s.onCalls := by
  have advance := s.advances x
  generalize (s.step x).1 = t at advance ⊢
  cases advance with
  | undergoes e => exact ⟨off, onCalls_of_deeds (Outlet.deeds_perform_notes ..)⟩
  | still => exact ⟨off, rfl⟩
  | @moves k obeys move moved =>
    rw [step_obeys obeys] at refused
    exact ⟨obey_off move off fun wish => refused (congrArg Step.command wish),
      moved.onCalls serves⟩
  | ticks obeys => exact tick_off serves off obeys (quiet rfl)
  | ends ended =>
    refine ⟨?_, onCalls_of_deeds ended.deeds⟩
    rcases ended.desk with same | let_go
    · rw [same]
      exact off
    · rw [let_go]
      exact off

/-- Global illumination is off all through a run, and the engine is not told to turn it on. -/
def StaysOff (s : Session) (steps : List Step) : Prop :=
  ∀ done rest, steps = done ++ rest →
    (s.run done).desk.settings.enabled = false ∧ (s.run done).onCalls = s.onCalls

def Refuses (s : Session) (steps : List Step) : Prop :=
  ∀ done rest, steps = done ++ .command (.setEnabled true) :: rest →
    ((s.run done).step (.command (.setEnabled true))).2 ≠ .verdict true

def NeverStartsUp (c : Config) (s : Session) (steps : List Step) : Prop :=
  ∀ done rest, steps = done ++ .command .tick :: rest → ¬ (s.run done).StartsUp c

variable {x : Session.Step} {steps rest : List Session.Step}

theorem StaysOff.tail (h : s.StaysOff (x :: rest)) : (s.step x).1.StaysOff rest := by
  intro done more split
  obtain ⟨off, same⟩ := h (x :: done) more (by rw [split]; rfl)
  exact ⟨off, same.trans (h [x] rest rfl).2.symm⟩

theorem StaysOff.cons (off : s.desk.settings.enabled = false)
    (same : (s.step x).1.onCalls = s.onCalls) (h : (s.step x).1.StaysOff rest) :
    s.StaysOff (x :: rest) := by
  intro done more split
  cases done with
  | nil => exact ⟨off, rfl⟩
  | cons y done =>
    obtain ⟨rfl, tail⟩ := List.cons.inj split
    obtain ⟨off', same'⟩ := h done more tail
    exact ⟨off', same'.trans same⟩

/-- While no wish is accepted, global illumination stays off exactly if no tick starts up. -/
theorem staysOff_iff (serves : s.Serves c) (off : s.desk.settings.enabled = false)
    (refuses : s.Refuses steps) : s.StaysOff steps ↔ s.NeverStartsUp c steps := by
  induction steps generalizing s with
  | nil =>
    refine ⟨fun _ done rest split => ?_, fun _ done rest split => ?_⟩
    · simp at split
    · obtain ⟨rfl, rfl⟩ := List.append_eq_nil_iff.mp split.symm
      exact ⟨off, rfl⟩
  | cons x rest ih =>
    have serves' := (unused_custody c).step (s.onTerms_any [x]).1 serves
    have refuses' : (s.step x).1.Refuses rest := fun done more split =>
      refuses (x :: done) more (by rw [split]; rfl)
    refine ⟨fun stays done more split => ?_, fun never => ?_⟩
    · have off' := (stays [x] rest rfl).1
      cases done with
      | nil =>
        obtain ⟨rfl, rfl⟩ := List.cons.inj split
        intro starts
        have obeys : s.isOpen = true := starts.obeys
        have on := tick_starts_up serves starts
        have first : s.run [.command .tick] = s.tick.1 := by
          rw [run_cons, step_obeys obeys]
          rfl
        rw [first] at off'
        exact absurd (off'.symm.trans on) nofun
      | cons y done =>
        obtain ⟨rfl, tail⟩ := List.cons.inj split
        exact (ih serves' off' refuses').mp stays.tail done more tail
    · have quiet : x = .command .tick → ¬ s.StartsUp c := fun ticks =>
        never [] rest (by rw [ticks]; rfl)
      have refused : x = .command (.setEnabled true) → (s.step x).2 ≠ .verdict true := by
        rintro rfl
        exact refuses [] rest rfl
      obtain ⟨off', same⟩ := step_off serves off refused quiet
      have never' : (s.step x).1.NeverStartsUp c rest := fun done more split =>
        never (x :: done) more (by rw [split]; rfl)
      exact .cons off same ((ih serves' off' refuses').mpr never')

/-- Once global illumination was asked to be off, it stays off until a wish for it is accepted,
exactly if no tick takes over a volume and turns it on as the configuration asks for; and a tick that
starts up does turn it on. -/
theorem off_request_lasts_iff {c : Config} {s : Session} (begun : s.Begins c)
    {before after : List Session.Step} (obeys : (s.run before).isOpen = true)
    (refuses : (s.run (before ++ [.command (.setEnabled false)])).Refuses after) :
    let t := s.run (before ++ [.command (.setEnabled false)])
    (t.StaysOff after ↔ t.NeverStartsUp c after) ∧
      ∀ done rest, after = done ++ .command .tick :: rest → (t.run done).StartsUp c →
        ((t.run done).step (.command .tick)).1.desk.settings.enabled = true := by
  intro t
  have off : t.desk.settings.enabled = false := by
    change (s.run (before ++ [.command (.setEnabled false)])).desk.settings.enabled = false
    rw [run_append, run_cons, step_obeys obeys]
    exact adopt_off rfl
  have serves : t.Serves c := serves_run begun _
  refine ⟨staysOff_iff serves off refuses, fun done rest _ starts => ?_⟩
  rw [step_obeys starts.obeys]
  exact tick_starts_up ((unused_custody c).run (t.onTerms_any done) serves) starts

theorem neverStartsUp_of_settled (serves : s.Serves c)
    (settled : s.desk.Settled) (steps : List Session.Step) :
    s.NeverStartsUp c steps := by
  intro done rest _ starts
  obtain ⟨plan, waiting⟩ := starts.waits
  exact run_settled serves settled done plan waiting

theorem refuses_of_notMem (s : Session) (none_asked : .command (.setEnabled true) ∉ steps) :
    s.Refuses steps := by
  intro done rest split
  rw [split] at none_asked
  simp at none_asked

theorem off_request_lasts_after_start :
    let s := onOneScene { enabled := true, cascades := [{}] }
    (s.run [.command .tick]).desk.settings.enabled = true ∧
      (s.run [.command .tick, .command (.setEnabled false)]).StaysOff [.command .tick] := by
  intro s
  have begun : s.Begins { enabled := true, cascades := [{}] } := onOneScene_begins _
  have obeys : (s.run [.command .tick]).isOpen = true := by decide
  have refuses : (s.run ([.command .tick] ++ [.command (.setEnabled false)])).Refuses
      [.command .tick] :=
    refuses_of_notMem _ (by simp)
  have on : (s.run [.command .tick]).desk.settings.enabled = true := by decide
  have serves : (s.run ([.command .tick] ++ [.command (.setEnabled false)])).Serves
      { enabled := true, cascades := [{}] } :=
    serves_run begun _
  have working : (s.run ([.command .tick] ++ [.command (.setEnabled false)])).desk.phase =
    .working 0 := by decide
  have never := neverStartsUp_of_settled serves
    (fun plan waiting => nomatch working.symm.trans waiting) [.command .tick]
  exact ⟨on, (off_request_lasts_iff begun obeys refuses).1.mpr never⟩

/-- Asked to be off before the configuration's own wish is carried out, it does not. -/
theorem off_request_overridden :
    ¬ ∀ (c : Config) (s : Session) (before after : List Session.Step), s.Begins c →
      (s.run before).isOpen = true →
      (s.run (before ++ [.command (.setEnabled false)])).Refuses after →
      (s.run (before ++ [.command (.setEnabled false)])).StaysOff after := by
  intro lasts
  have stays := lasts { enabled := true, cascades := [{}] }
    (onOneScene { enabled := true, cascades := [{}] }) [] [.command .tick]
    (onOneScene_begins _) rfl (refuses_of_notMem _ (by simp))
  have off := (stays [.command .tick] [] rfl).1
  have on : (((onOneScene { enabled := true, cascades := [{}] }).run
      ([] ++ [.command (.setEnabled false)])).run [.command .tick]).desk.settings.enabled = true := by
    decide
  exact absurd (off.symm.trans on) nofun

end Session

end VoxelGI
