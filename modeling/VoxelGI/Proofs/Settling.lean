import VoxelGI.Proofs.Agreement
import VoxelGI.Proofs.Lifecycle

/-! Ticks settle. What a tick does may give the next tick something to do once more: a volume that did
not become active is found inactive. After that nothing is left to do, so a second tick in a row is the
last one that does anything, and the first one already is where the volume does as it is told. -/
namespace VoxelGI

theorem Bench.tick_idle {b : Bench} (clean : b.desk.draft.pending = .clean)
    (listed : b.desk.refreshRequested = false)
    (reflected : b.desk.settings.enabled = true → b.volume.active = true) :
    b.tick = (b, none) := by
  rw [tick_eq, prepare_idle listed fun _ => reflected, finish, clean]

namespace Session

variable {c : Config} {s t : Session} {ref : SceneRef} {scene : Scene}

inductive Calm (s : Session) : Prop where
  | closed (closed : s.isOpen = false)
  | waits (plan : StartupPlan) (waiting : s.desk.phase = .waiting plan)
      (unready : s.renderer.discover.found = none)
  | ends (settled : s.desk.Settled) (none_here : s.desk.phase.scene? = none)
  | works (ref : SceneRef) (scene : Scene) (working : s.desk.phase = .working ref)
      (there : s.renderer.scene? ref = some scene) (clean : s.desk.draft.pending = .clean)
      (listed : s.desk.refreshRequested = false)
      (reflected : s.desk.settings.enabled = true → scene.volume.active = true)

theorem Calm.alike (calm : s.Calm) (same : s.Alike t) : t.Calm := by
  cases calm with
  | closed closed => exact .closed (same.isOpen.trans closed)
  | waits plan waiting unready =>
    exact .waits plan (same.desk ▸ waiting) (same.renderer ▸ unready)
  | ends settled none_here => exact .ends (same.desk ▸ settled) (same.desk ▸ none_here)
  | works ref scene working there clean listed reflected =>
    refine .works ref scene (same.desk ▸ working) (same.renderer ▸ there) ?_ ?_ ?_
    all_goals rw [same.desk]; assumption

theorem Calm.tick (calm : s.Calm) :
    s.LeftAlone (s.step (.command .tick)).1 [] ∧
      (s.isOpen = true → (s.step (.command .tick)).2 = .ticked ⟨s.desk.phase, none⟩) := by
  cases obeys : s.isOpen with
  | false =>
    rw [step_closed obeys]
    exact ⟨.refl s, nofun⟩
  | true =>
    rw [step_obeys obeys, obey_ticks]
    -- it may still complain to the log each time
    suffices idle : ∃ ns : List Notice,
        s.tick = ({ s with outlet := s.outlet.perform (ns.map .note) }, none) by
      obtain ⟨ns, idle⟩ := idle
      rw [idle]
      exact ⟨s.leftAlone_noted ns, fun _ => rfl⟩
    cases calm with
    | closed closed => exact absurd (obeys.symm.trans closed) nofun
    | waits plan waiting unready =>
      refine ⟨s.renderer.discover.notices, ?_⟩
      rw [← firstTick_unready plan unready]
      simp only [Session.tick, waiting]
    | ends settled none_here =>
      cases phase : s.desk.phase with
      | waiting plan => exact absurd phase (settled plan)
      | working ref => simp [phase, Phase.scene?] at none_here
      | released ref => exact ⟨[.volumeMissing], by simp only [Session.tick, phase]; rfl⟩
      | withdrawn => exact ⟨[], by simp only [Session.tick, phase]; rfl⟩
    | works ref scene working there clean listed reflected =>
      have idle : Bench.tick ⟨s.desk, ⟨scene, s.outlet⟩⟩ = (⟨s.desk, ⟨scene, s.outlet⟩⟩, none) :=
        Bench.tick_idle clean listed reflected
      have still : s.atScene ref scene Bench.tick = (s, none) := by
        unfold atScene
        rw [idle]
        dsimp only
        rw [Renderer.putScene_self there]
      refine ⟨[], ?_⟩
      simp only [Session.tick, working, there]
      exact still

def ticking (n : Nat) : List Step := List.replicate n (.command .tick)

/-- Ticks change nothing any more, however many there are: each of them reports that nothing was done,
and they leave the session alone. -/
def AtRest (s : Session) : Prop :=
  ∀ n, s.LeftAlone (s.run (ticking n)) [] ∧
    (s.isOpen = true →
      ((s.run (ticking n)).step (.command .tick)).2 = .ticked ⟨s.desk.phase, none⟩)

theorem LeftAlone.trans {u : Session} (first : s.LeftAlone t []) (second : t.LeftAlone u []) :
    s.LeftAlone u [] where
  desk := second.desk.trans first.desk
  renderer := second.renderer.trans first.renderer
  ownedByPanel := second.ownedByPanel.trans first.ownedByPanel
  isOpen := second.isOpen.trans first.isOpen
  mailboxes := second.mailboxes.trans first.mailboxes
  deeds := by rw [second.deeds, first.deeds, List.append_assoc]; rfl
  events := second.events.trans first.events

theorem Calm.atRest (calm : s.Calm) : s.AtRest := by
  intro n
  -- by induction on the number of ticks: each finds the session calm and leaves it so
  induction n generalizing s with
  | zero => exact ⟨.refl s, calm.tick.2⟩
  | succ n ih =>
    obtain ⟨alone, _⟩ := calm.tick
    obtain ⟨later, reports⟩ := ih (calm.alike alone.toAlike)
    refine ⟨alone.trans later, fun obeys => ?_⟩
    rw [← alone.desk]
    exact reports (alone.isOpen.trans obeys)

theorem tick_calms (serves : s.Serves c) :
    s.tick.1.Calm ∨ ∃ (ref : SceneRef) (w : View), w.Ready ∧ s.tick.1.Shows ref w.work := by
  obtain ⟨_, outcome⟩ : ∃ did, s.Ticks s.tick.1 did := ⟨_, s.ticks⟩
  cases outcome with
  | idle nowhere desk deeds unready told =>
    refine .inl ?_
    obtain ⟨none_here, _⟩ := serves.idle nowhere desk deeds
    obtain ⟨ns, same⟩ := told
    cases phase : s.desk.phase with
    | waiting plan =>
      refine .waits plan (desk ▸ phase) ?_
      rw [same]
      exact unready plan phase
    | working | released | withdrawn =>
      refine .ends (fun plan waiting => ?_) none_here
      rw [desk, phase] at waiting
      contradiction
  | withdraws waiting found without desk =>
    exact .inl (.ends (by simp [desk, Desk.Settled]) (by simp [desk, Phase.scene?]))
  | opens plan ref scene waiting found supported upkeep ready shown =>
    exact .inr ⟨ref, _, ready, shown⟩
  | works here upkeep ready shown => exact .inr ⟨_, _, ready, shown⟩

theorem Shows.calm {w : View} (ready : w.Ready) (shown : s.Shows ref w.work)
    (reflected : w.work.desk.settings.enabled = true → w.work.scene.volume.active = true) :
    s.Calm := by
  refine .works ref w.work.scene shown.phase shown.scene ?_ ?_ ?_
  all_goals rw [shown.desk]
  · rfl
  · exact ready.listed
  · exact reflected

theorem Calm.step (calm : s.Calm) : (s.step (.command .tick)).1.Calm :=
  calm.alike calm.tick.1.toAlike

/-- The second tick in a row has nothing to do but to take note of what became of the first. -/
theorem Shows.tick_twice {w : View} (shown : s.Shows ref w.work) (obeys : s.isOpen = true) :
    (s.step (.command .tick)).1.Calm := by
  obtain ⟨v, upkeep, ready, shown', _⟩ := shown.tick
  have clean : v.desk.draft.pending = .clean := upkeep.pending
  have still : v.work = v := View.work_clean clean
  rw [step_tick obeys]
  refine shown'.calm ready ?_
  rw [still]
  exact ready.reflected (by rw [clean]; exact nofun)

/-- After two ticks in a row, any further ticks change nothing: each of them reports that nothing was
done, calls nothing and tells the subscribers nothing. One tick is enough if the volume is created
inactive, can be made active and inactive, and is not made active from outside. -/
theorem ticks_settle {c : Config} {s : Session} (begun : s.Begins c) (steps : List Step) :
    ((s.run steps).run (ticking 2)).AtRest ∧
      (s.OnTerms .switchable (steps ++ [.command .tick]) →
        ((s.run steps).run (ticking 1)).AtRest) := by
  have serves := serves_run begun steps
  cases obeys : (s.run steps).isOpen with
  | false =>
    have calm : (s.run steps).Calm := .closed obeys
    exact ⟨calm.step.step.atRest, fun _ => calm.step.atRest⟩
  | true =>
    have ticked := step_tick obeys
    rcases tick_calms serves with calm | ⟨ref, w, ready, shown⟩
    · rw [← ticked] at calm
      exact ⟨calm.step.atRest, fun _ => calm.atRest⟩
    · rw [← ticked] at shown
      have obeys' : ((s.run steps).step (.command .tick)).1.isOpen = true := by
        rw [ticked, isOpen_tick]
        exact obeys
      refine ⟨(shown.tick_twice obeys').atRest, fun terms => ?_⟩
      have run_on : s.run (steps ++ [.command .tick]) = ((s.run steps).step (.command .tick)).1 :=
        run_append ..
      have working : (s.run (steps ++ [.command .tick])).desk.phase = .working ref := by
        rw [run_on]
        exact shown.phase
      -- on these terms the volume is as it was told to be, so there is nothing to notice
      obtain ⟨v, ready', accounted, shown'⟩ := switchable_custody.run_tick terms
        (.begins begun True.intro) obeys working
      rw [run_on] at shown'
      refine (shown'.calm ready' fun wanted => ?_).atRest
      rw [← View.work_agrees ready' accounted]
      exact wanted

/-- A volume that cannot be made active is started by the first tick and found inactive by the second;
where it can be made active, the second tick has nothing to do. -/
theorem ticks_settle_inert :
    let c : Config := { enabled := true, cascades := [{}] }
    let s := forDesk c
      (Renderer.load [⟨"engine", [some { patch := { activationWorks := some false } }]⟩])
    ¬ (s.run (ticking 1)).AtRest ∧ (s.run (ticking 2)).AtRest ∧
      (onOneScene c).OnTerms .switchable [.command .tick] ∧
      ((onOneScene c).run (ticking 1)).AtRest := by
  intro c s
  have noticed : ((s.run (ticking 1)).run (ticking 1)).outlet.deeds ≠
      (s.run (ticking 1)).outlet.deeds := by decide
  have found : (onOneScene c).renderer.discover.found = some (0, Scene.create "main" {}) := by
    decide
  have terms : (onOneScene c).OnTerms .switchable ([] ++ [.command .tick]) :=
    ⟨admits_found found ⟨rfl, rfl⟩, True.intro⟩
  obtain ⟨settled, _⟩ := ticks_settle (forDesk_begins c _) []
  obtain ⟨_, at_once⟩ := ticks_settle (onOneScene_begins c) []
  refine ⟨fun rest => noticed ?_, settled, terms, at_once terms⟩
  exact (rest 1).1.deeds.trans (List.append_nil _)

end Session

end VoxelGI
