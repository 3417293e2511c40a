import Mathlib.Order.Bounds.Basic
import VoxelGI.Proofs.CascadeGrids
import VoxelGI.Proofs.NoLostUpdate
import VoxelGI.Proofs.SetUp

/-! The work that is owed and the requests it is owed for. A ledger takes down what each step calls
for, and a tick that reports work closes it. The work that is owed is always the dearest entry of the
ledger, and a tick at a volume under control reports just that. -/
namespace VoxelGI

/-- Work is the dearest that was called for: no entry is dearer, and it is an entry itself unless
there is nothing to do. -/
abbrev Dearest (noted : List Pending) (owed : Pending) : Prop :=
  IsGreatest {p | p ∈ Pending.clean :: noted} owed

namespace Dearest

theorem nil : Dearest [] .clean := by
  refine ⟨List.mem_cons_self, fun p inside => ?_⟩
  obtain rfl := List.mem_singleton.mp inside
  decide

theorem mark {noted : List Pending} {owed : Pending} (h : Dearest noted owed) (change : Pending) :
    Dearest (noted ++ [change]) (owed.mark change) := by
  have entries : {p | p ∈ Pending.clean :: (noted ++ [change])} =
      insert change {p | p ∈ Pending.clean :: noted} := by
    ext p
    simp [or_comm, or_left_comm]
  unfold Dearest
  rw [entries, Pending.mark_eq_max, max_comm]
  exact h.insert change

end Dearest

def Assignment.work : Assignment → Pending
  | .resolution _ | .resolutionAxis .. | .octantCount _ | .octantCountAxis .. => .rebuild
  | .bounceCount _ | .highQuality _ | .anisotropic _ | .conserveMemory _ | .thinWallCounter _ =>
    .relight
  | .overlay _ => .overlayOnly

def Command.work : Command → Reply → Pending
  | .setEnabled _, .verdict true => .rebuild
  | .assign a, .verdict true => a.work
  | _, _ => .clean

def Reply.applies : Reply → Bool
  | .ticked report => report.applied.isSome
  | _ => false

theorem Draft.assign_pending (d : Draft) (a : Assignment) :
    (d.assign a).state.pending =
      d.pending.mark (if (d.assign a).answer then a.work else .clean) := by
  cases a with
  | resolution | resolutionAxis =>
    simp only [assign, assignResolution]
    split
    · rfl
    · exact (Pending.mark_clean _).symm
  | octantCount | octantCountAxis =>
    simp only [assign, assignOctantCount]
    split
    · rfl
    · exact (Pending.mark_clean _).symm
  | bounceCount | highQuality | anisotropic | conserveMemory | thinWallCounter => rfl
  | overlay overlay =>
    simp only [assign]
    split
    · exact (Pending.mark_clean _).symm
    · rfl

theorem Desk.setEnabled_pending (d : Desk) (alive : Camera → Bool) (enabled : Bool) :
    (d.setEnabled alive enabled).state.draft.pending =
      d.draft.pending.mark (if (d.setEnabled alive enabled).answer then .rebuild else .clean) := by
  unfold setEnabled
  split
  · exact (Pending.mark_clean _).symm
  · rfl

theorem View.Upkeep.pending {v w : View} (u : Upkeep v w) :
    w.desk.draft.pending = v.desk.draft.pending := by
  cases u with
  | refresh => exact Desk.refreshCameras_pending ..
  | notice | drop => rfl

theorem View.Upkeeps.pending {v w : View} (us : Upkeeps v w) :
    w.desk.draft.pending = v.desk.draft.pending :=
  us.keep (P := fun u => u.desk.draft.pending = v.desk.draft.pending)
    (fun _ _ u h => u.pending.trans h) rfl

namespace Bench

theorem fill_pending (b : Bench) (plan : StartupPlan) :
    (b.fill plan).desk.draft.pending = b.desk.draft.pending :=
  (Desk.refreshCameras_pending ..).trans
    (congrArg Draft.pending (foldl_addConfigured_draft _ plan.cascades))

def grants (b : Bench) (plan : StartupPlan) : Bool :=
  let filled := b.fill plan
  plan.enable && (filled.desk.setEnabled filled.stage.scene.holds true).answer

theorem enableAtStartup_pending (b : Bench) (enable : Bool) :
    (b.enableAtStartup enable).desk.draft.pending = b.desk.draft.pending.mark
      (if enable && (b.desk.setEnabled b.stage.scene.holds true).answer then .rebuild
        else .clean) := by
  unfold enableAtStartup
  cases enable with
  | false => exact (Pending.mark_clean _).symm
  | true =>
    have asked := b.desk.setEnabled_pending b.stage.scene.holds true
    simp only [if_true, Bool.true_and]
    rw [← asked]
    split <;> rfl

theorem setUp_pending (b : Bench) (plan : StartupPlan) :
    (b.setUp plan).desk.draft.pending =
      b.desk.draft.pending.mark (if b.grants plan then .rebuild else .clean) := by
  rw [← b.fill_pending plan, setUp_eq, enableAtStartup_pending]
  have holds : ((b.fill plan).perform
      [.publish (.cascadesEditableChanged (!(b.fill plan).volume.started))]).stage.scene.holds =
        (b.fill plan).stage.scene.holds := rfl
  rw [holds]
  rfl

end Bench

namespace Session

/-- Whether the next tick takes over a volume and then accepts the configuration's wish for global
illumination. -/
def grantsStartup (s : Session) : Bool :=
  match s.desk.phase, s.renderer.discover.found with
  | .waiting plan, some (ref, scene) => scene.supportsGi && (s.taken ref scene).grants plan
  | _, _ => false

/-- The work that a step calls for: a command by its answer, and a tick if it carries out the
configuration's wish. -/
def change (s : Session) : Step → Pending
  | .command .tick => if s.isOpen && s.grantsStartup then .rebuild else .clean
  | .command c => c.work (s.step (.command c)).2
  | .outside _ => .clean

/-- What was called for since the last tick that did some work, on top of what was noted before. -/
def ledger : Session → List Pending → List Step → List Pending
  | _, noted, [] => noted
  | s, noted, x :: rest =>
    (s.step x).1.ledger (if (s.step x).2.applies then [] else noted ++ [s.change x]) rest

variable {c : Config} {s : Session}

theorem grantsStartup_iff (serves : s.Serves c) (obeys : s.isOpen = true) :
    s.grantsStartup = true ↔ s.StartsUp c := by
  have granted (d : Desk) (alive : Camera → Bool) :
      (d.setEnabled alive true).answer = true ↔ d.unmet? alive = none := by
    unfold Desk.setEnabled
    cases d.unmet? alive <;> simp
  unfold grantsStartup
  refine ⟨fun h => ?_, fun starts => ?_⟩
  · split at h
    · rename_i plan ref scene waiting found
      have unused := serves.free (by rw [waiting]; rfl) plan waiting
      have same := Phase.waiting.inj (waiting.symm.trans unused.plan)
      obtain ⟨supported, enable, met⟩ := by
        simpa only [Bench.grants, Bool.and_eq_true, granted] using h
      obtain ⟨cascades, idle, cameras⟩ := (taken_unmet serves waiting ref scene).mp met
      exact ⟨obeys, ⟨plan, waiting⟩, (congrArg StartupPlan.enable same).symm.trans enable, cascades,
        ref, scene, found, supported, idle, cameras⟩
    · contradiction
  · obtain ⟨plan, waiting⟩ := starts.waits
    obtain ⟨ref, scene, found, supported, idle, cameras⟩ := starts.ready
    have unused := serves.free (by rw [waiting]; rfl) plan waiting
    have same := Phase.waiting.inj (waiting.symm.trans unused.plan)
    have met := (taken_unmet serves waiting ref scene).mpr ⟨starts.cascades, idle, cameras⟩
    have enable : plan.enable = true := (congrArg StartupPlan.enable same).trans starts.wanted
    simp [waiting, found, supported, Bench.grants, enable, (granted _ _).mpr met]

theorem change_tick_iff (serves : s.Serves c) :
    s.change (.command .tick) = .rebuild ↔ s.StartsUp c := by
  unfold change
  cases obeys : s.isOpen with
  | false =>
    refine ⟨nofun, fun starts => ?_⟩
    exact absurd (obeys.symm.trans starts.obeys) nofun
  | true =>
    rw [Bool.true_and, ← grantsStartup_iff serves obeys]
    cases s.grantsStartup <;> simp

theorem grantsStartup_settled (settled : s.desk.Settled) : s.grantsStartup = false := by
  unfold grantsStartup
  split
  · rename_i plan _ _ waiting _
    exact absurd waiting (settled plan)
  · rfl

/-- A tick that leaves a volume under control does all that is owed by then, what it called for
itself included; any other tick calls for nothing and leaves what is owed as it is. -/
theorem tick_owes (serves : s.Serves c) :
    let owed := s.desk.draft.pending.mark (if s.grantsStartup then .rebuild else .clean)
    ((∃ ref, s.tick.1.desk.phase = .working ref) ∧ s.tick.2 = reported owed ∧
        s.tick.1.desk.draft.pending = .clean) ∨
      ((∀ ref, s.tick.1.desk.phase ≠ .working ref) ∧ s.tick.2 = none ∧
        s.tick.1.desk.draft.pending = s.desk.draft.pending ∧ s.grantsStartup = false) := by
  intro owed
  have ticks := s.ticks
  generalize s.tick = result at ticks ⊢
  obtain ⟨t, did⟩ := result
  dsimp only at ticks ⊢
  cases ticks with
  | idle nowhere desk deeds unready =>
    obtain ⟨none_here, _⟩ := serves.idle nowhere desk deeds
    refine .inr ⟨fun ref working => ?_, rfl, by rw [desk], ?_⟩
    · simp [working, Phase.scene?] at none_here
    · unfold grantsStartup
      split
      · rename_i plan ref scene waiting found
        exact absurd ((unready plan waiting).symm.trans found) (Option.some_ne_none _).symm
      · rfl
  | withdraws waiting found without desk deeds =>
    refine .inr ⟨by simp [desk], rfl, by rw [desk], ?_⟩
    simp [grantsStartup, waiting, found, without]
  | opens plan ref scene waiting found supported upkeep ready shown =>
    have granted : s.grantsStartup = (s.taken ref scene).grants plan := by
      simp [grantsStartup, waiting, found, supported]
    have same_owed := upkeep.pending.trans ((s.taken ref scene).setUp_pending plan)
    rw [← granted] at same_owed
    refine .inl ⟨⟨ref, shown.phase⟩, congrArg reported same_owed, ?_⟩
    rw [shown.desk]
    rfl
  | works here upkeep ready shown =>
    have ungranted : s.grantsStartup = false :=
      grantsStartup_settled fun plan waiting =>
        Phase.noConfusion (here.phase.symm.trans waiting)
    have same_owed : owed = s.desk.draft.pending := by
      simp only [owed, ungranted, Bool.false_eq_true, if_false, Pending.mark_clean]
    refine .inl ⟨⟨_, shown.phase⟩, ?_, ?_⟩
    · rw [upkeep.pending, ← here.desk, same_owed]
    · rw [shown.desk]
      rfl

theorem applies_reported (phase : Phase) (p : Pending) :
    (Reply.ticked ⟨phase, reported p⟩).applies = !decide (p = .clean) := by
  cases p <;> rfl

theorem change_command {k : Command} (other : k ≠ .tick) :
    s.change (.command k) = k.work (s.step (.command k)).2 := by
  cases k with
  | tick => exact absurd rfl other
  | _ => rfl

theorem obey_owes {k : Command} (other : k ≠ .tick) :
    (s.obey k).1.desk.draft.pending = s.desk.draft.pending.mark (k.work (s.obey k).2) ∧
      (s.obey k).2.applies = false := by
  have nothing : s.desk.draft.pending = s.desk.draft.pending.mark .clean :=
    (Pending.mark_clean _).symm
  have adopted {α : Type} (r : Decision Desk α) :
      (s.adopt r).desk.draft.pending = r.state.draft.pending :=
    congrArg (·.draft.pending) (s.adopt_state r)
  cases k with
  | tick => exact absurd rfl other
  | setEnabled enabled =>
    refine ⟨(adopted _).trans ((Desk.setEnabled_pending ..).trans ?_), rfl⟩
    change _ = s.desk.draft.pending.mark
      (Command.work (.setEnabled enabled) (.verdict (s.desk.setEnabled s.alive enabled).answer))
    cases (s.desk.setEnabled s.alive enabled).answer <;> rfl
  | assign a =>
    refine ⟨(adopted _).trans ((s.desk.draft.assign_pending a).trans ?_), rfl⟩
    change _ = s.desk.draft.pending.mark
      (Command.work (.assign a) (.verdict (s.desk.draft.assign a).answer))
    cases (s.desk.draft.assign a).answer <;> rfl
  | readCascade index =>
    unfold obey
    dsimp only
    split <;> exact ⟨nothing, rfl⟩
  | updateCascade index change =>
    unfold obey
    dsimp only
    split <;> exact ⟨(adopted _).trans nothing, rfl⟩
  | bindCamera name =>
    refine ⟨(adopted _).trans (Eq.trans ?_ nothing), rfl⟩
    unfold Desk.bindCamera
    split <;> rfl
  | addCascade | removeLastCascade | release => exact ⟨(adopted _).trans nothing, rfl⟩
  | requestRefresh | listCameras | subscribe => exact ⟨nothing, rfl⟩
  | close =>
    refine ⟨Eq.trans ?_ nothing, rfl⟩
    change s.close.desk.draft.pending = _
    unfold close
    cases s.ownedByPanel
    · rfl
    · exact adopted _

theorem unheard_owes (k : Command) : k.work k.unheard = .clean ∧ k.unheard.applies = false := by
  cases k <;> exact ⟨rfl, rfl⟩

theorem ticks_of_applies {x : Step} (applies : (s.step x).2.applies = true) :
    x = .command .tick := by
  cases x with
  | outside e => contradiction
  | command k =>
    by_cases ticking : k = .tick
    · rw [ticking]
    · cases obeys : s.isOpen with
      | false =>
        rw [step_closed obeys] at applies
        exact absurd (applies.symm.trans (unheard_owes k).2) nofun
      | true =>
        rw [step_obeys obeys] at applies
        exact absurd (applies.symm.trans (obey_owes ticking).2) nofun

/-- A step marks what it calls for, unless it is a tick that does all that is owed. -/
theorem step_owes (serves : s.Serves c) (x : Step) :
    (s.step x).1.desk.draft.pending =
      if (s.step x).2.applies then .clean else s.desk.draft.pending.mark (s.change x) := by
  have nothing : s.desk.draft.pending = s.desk.draft.pending.mark .clean :=
    (Pending.mark_clean _).symm
  cases x with
  | outside e => exact nothing
  | command k =>
    cases obeys : s.isOpen with
    | false =>
      obtain ⟨unwanted, unapplied⟩ := unheard_owes k
      have uncalled : s.change (.command k) = .clean := by
        by_cases ticking : k = .tick
        · simp [ticking, change, obeys]
        · rw [change_command ticking, step_closed obeys, unwanted]
      rw [step_closed obeys, unapplied, uncalled]
      exact nothing
    | true =>
      by_cases ticking : k = .tick
      · subst ticking
        rw [step_obeys obeys, obey_ticks, change, obeys, Bool.true_and]
        rcases tick_owes serves with ⟨_, did, after⟩ | ⟨_, did, after, ungranted⟩
        · rw [did, applies_reported, after]
          cases s.desk.draft.pending.mark (if s.grantsStartup then .rebuild else .clean) <;> rfl
        · rw [did, after, ungranted]
          exact nothing
      · obtain ⟨marked, unapplied⟩ := obey_owes (s := s) ticking
        rw [change_command ticking, step_obeys obeys, unapplied]
        exact marked

theorem ledger_owes (serves : s.Serves c) {noted : List Pending}
    (owed : Dearest noted s.desk.draft.pending) (steps : List Step) :
    Dearest (s.ledger noted steps) (s.run steps).desk.draft.pending := by
  -- by induction on the run: a step adds an entry and marks it, or closes the ledger and settles
  induction steps generalizing s noted with
  | nil => exact owed
  | cons x rest ih =>
    refine ih ((unused_custody c).step (s.onTerms_any [x]).1 serves) ?_
    rw [step_owes serves]
    split
    · exact .nil
    · exact owed.mark (s.change x)

/-- In every run what is owed is the dearest of what was called for since the last tick that did some
work, and a tick calls for a rebuild exactly if it starts up. A tick that leaves a volume under
control reports the dearest of that and of what the tick itself calls for, and then nothing is owed;
any other tick reports nothing and leaves what is owed as it is. -/
theorem owed_is_dearest {c : Config} {s : Session} (begun : s.Begins c) (steps : List Step) :
    let t := s.run steps
    let u := (t.step (.command .tick)).1
    Dearest (s.ledger [] steps) t.desk.draft.pending ∧
      (t.change (.command .tick) = .rebuild ↔ t.StartsUp c) ∧
      (t.isOpen = true → ∃ applied,
        (t.step (.command .tick)).2 = .ticked ⟨u.desk.phase, applied⟩ ∧
        (∀ ref, u.desk.phase = .working ref → u.desk.draft.pending = .clean ∧
          ∃ owed, Dearest (s.ledger [] steps ++ [t.change (.command .tick)]) owed ∧
            applied = reported owed) ∧
        ((∀ ref, u.desk.phase ≠ .working ref) → applied = none ∧
          u.desk.draft.pending = t.desk.draft.pending)) := by
  intro t u
  have start : Dearest [] s.desk.draft.pending := by
    rw [begun.desk]
    exact .nil
  have owed : Dearest (s.ledger [] steps) t.desk.draft.pending :=
    ledger_owes (serves_run begun []) start steps
  have serves : t.Serves c := serves_run begun steps
  refine ⟨owed, change_tick_iff serves, fun obeys => ?_⟩
  have ticking : t.step (.command .tick) = (t.tick.1, .ticked ⟨t.tick.1.desk.phase, t.tick.2⟩) :=
    step_obeys obeys .tick
  have ticked : u = t.tick.1 := congrArg Prod.fst ticking
  have called : t.change (.command .tick) = if t.grantsStartup then .rebuild else .clean := by
    simp [change, obeys]
  rw [ticked, ticking, called]
  refine ⟨t.tick.2, rfl, fun ref working => ?_, fun nowhere => ?_⟩
  · rcases tick_owes serves with ⟨_, did, after⟩ | ⟨nowhere, _⟩
    · exact ⟨after, _, owed.mark _, did⟩
    · exact absurd working (nowhere ref)
  · rcases tick_owes serves with ⟨⟨ref, working⟩, _⟩ | ⟨_, did, after, _⟩
    · exact absurd working (nowhere ref)
    · exact ⟨did, after⟩

theorem owed_is_dearest_startup :
    let s := onOneScene { enabled := true, cascades := [{}] }
    let steps := [.command (.assign (.bounceCount 3)), .command (.assign (.overlay .albedo)),
      .command .listCameras]
    Dearest [.relight, .overlayOnly, .clean] (s.run steps).desk.draft.pending ∧
      ((s.run steps).step (.command .tick)).2 = .ticked ⟨.working 0, some .rebuild⟩ := by
  intro s steps
  have noted : s.ledger [] steps = [.relight, .overlayOnly, .clean] := by decide
  have obeys : (s.run steps).isOpen = true := by decide
  have working : ((s.run steps).step (.command .tick)).1.desk.phase = .working 0 := by decide
  have called : (s.run steps).change (.command .tick) = .rebuild := by decide
  have begun : s.Begins { enabled := true, cascades := [{}] } := onOneScene_begins _
  obtain ⟨owed, _, ticked⟩ := owed_is_dearest begun steps
  obtain ⟨applied, reply, works, _⟩ := ticked obeys
  obtain ⟨_, dearest, greatest, did⟩ := works 0 working
  have wish : Pending.rebuild ∈
      Pending.clean :: (s.ledger [] steps ++ [(s.run steps).change (.command .tick)]) := by
    simp [called]
  have rebuilt : .rebuild ≤ dearest := greatest.2 wish
  rw [noted] at owed
  rw [reply, working, did, (Pending.rebuild_le_iff dearest).mp rebuilt]
  exact ⟨owed, rfl⟩

end Session

end VoxelGI
