import VoxelGI.Proofs.Custody

/-! Where the work in a run comes from. Deeds are appended and never taken back, and between the work
of two ticks there are chores and events only; so every call that is work was made by the work of
one tick, after the deeds that come before it. -/
namespace VoxelGI

def Call.isWork : Call → Bool
  | .createVolume | .participants _ => false
  | c => !c.isChore

def Entry.isWork : Entry → Bool
  | .call _ c => c.isWork
  | _ => false

theorem Call.isWork_of_chore {c : Call} (chore : c.isChore = true) : c.isWork = false := by
  cases c <;> first | rfl | contradiction

def Unworked (before after : List Entry) : Prop :=
  ∃ ds, after = before ++ ds ∧ ∀ e ∈ ds, e.isWork = false

namespace Unworked

variable {ds ds' ds'' : List Entry}

theorem refl (ds : List Entry) : Unworked ds ds := ⟨[], (List.append_nil _).symm, by simp⟩

theorem of_eq (same : ds' = ds) : Unworked ds ds' := same ▸ .refl ds

theorem trans (first : Unworked ds ds') (second : Unworked ds' ds'') : Unworked ds ds'' := by
  obtain ⟨more, rfl, easy⟩ := first
  obtain ⟨more', rfl, easy'⟩ := second
  exact ⟨more ++ more', List.append_assoc .., List.forall_mem_append.mpr ⟨easy, easy'⟩⟩

theorem isPrefix (h : Unworked ds ds') : ds <+: ds' := by
  obtain ⟨more, rfl, _⟩ := h
  exact List.prefix_append ..

theorem deeds {id : String} {es : List Effect} (calls : ∀ c ∈ Effect.calls es, c.isWork = false) :
    Unworked ds (ds ++ Effect.deeds id es) := by
  refine ⟨_, rfl, fun entry inside => ?_⟩
  obtain ⟨effect, held, does⟩ := List.mem_filterMap.mp inside
  cases effect with
  | call c =>
    cases does
    exact calls c (List.mem_filterMap.mpr ⟨_, held, rfl⟩)
  | publish e =>
    cases does
    rfl
  | note => contradiction

theorem announcements (es : List Effect) : Unworked ds (ds ++ Effect.announcements es) := by
  refine ⟨_, rfl, fun entry inside => ?_⟩
  obtain ⟨effect, _, does⟩ := List.mem_filterMap.mp inside
  cases effect with
  | publish e =>
    cases does
    rfl
  | call | note => contradiction

theorem before_work {before whole : List Entry} {e : Entry} (h : Unworked ds ds')
    (older : ds <+: before) (done : before ++ [e] <+: whole) (within : ds' <+: whole)
    (work : e.isWork = true) : ds' <+: before := by
  rcases Nat.lt_or_ge before.length ds'.length with longer | shorter
  · obtain ⟨last, here⟩ := List.prefix_of_prefix_length_le done within
      (by rwa [List.length_append])
    obtain ⟨first, rfl⟩ := older
    obtain ⟨more, rfl, easy⟩ := h
    simp only [List.append_assoc, List.append_cancel_left_eq] at here
    have inside : e ∈ more := by simp [← here]
    exact absurd (work.symm.trans (easy e inside)) nofun
  · exact List.prefix_of_prefix_length_le within ((List.prefix_append ..).trans done) shorter

end Unworked

theorem View.Moves.unworked {v w : View} (ms : Moves v w) : Unworked v.deeds w.deeds := by
  refine ms.keep (P := fun u => Unworked v.deeds u.deeds) (fun u t m h => h.trans ?_) (.refl _)
  obtain ⟨es, same, chores⟩ := m.effects
  rw [same]
  exact .deeds fun c called => Call.isWork_of_chore (chores c called)

namespace Session

variable {s t : Session}

theorem setUp_unworked (s : Session) (ref : SceneRef) (scene : Scene) (plan : StartupPlan) :
    Unworked s.outlet.deeds ((s.taken ref scene).setUp plan).view.deeds := by
  have opened : Unworked s.outlet.deeds (s.opening ref scene).deeds :=
    .deeds (by simp [Call.isWork])
  have filled := opened.trans (s.opening_fill ref scene plan).unworked
  refine (filled.trans ?_).trans ((s.taken ref scene).setUp_moves plan).unworked
  exact .deeds (by simp)

theorem Moved.unworked (m : s.Moved t) : Unworked s.outlet.deeds t.outlet.deeds := by
  obtain ⟨r, move, _, _, deeds⟩ := m
  rw [deeds]
  unfold adopt
  cases s.scene? with
  | none => exact Outlet.deeds_perform .. ▸ .announcements r.effects
  | some p =>
    rw [Stage.deeds_perform]
    exact .deeds fun c called => Call.isWork_of_chore (move.chores c called)

structure Labours (s : Session) (earlier : List Step) (ref : SceneRef) (w : View)
    (before : List Entry) (e : Entry) : Prop where
  since : (s.run earlier).outlet.deeds <+: w.deeds
  ready : w.Ready
  shown : (s.run (earlier ++ [.command .tick])).Shows ref w.work
  does : ∃ first last, before = w.deeds ++ first ∧
    Effect.deeds w.scene.id (w.desk.workEffects w.scene) = first ++ e :: last

end Session

namespace Custody

variable {terms : Terms} {free : Desk → List Entry → Prop} {held : View → Prop}
  {s : Session} {x : Session.Step} {steps : List Session.Step}

theorem tick_origin (custody : Custody terms free held)
    (admitted : s.Admits terms (.command .tick)) (holds : s.Upholds free held) :
    Unworked s.outlet.deeds s.tick.1.outlet.deeds ∨
      ∃ ref w, w.Ready ∧ held w ∧ s.tick.1.Shows ref w.work ∧ Unworked s.outlet.deeds w.deeds := by
  obtain ⟨_, outcome⟩ : ∃ did, s.Ticks s.tick.1 did := ⟨_, s.ticks⟩
  cases outcome with
  | idle _ _ deeds => exact .inl (.of_eq deeds)
  | withdraws _ _ _ _ deeds =>
    rw [deeds]
    exact .inl ⟨_, rfl, by simp [Entry.isWork, Call.isWork]⟩
  | opens plan ref scene waiting found supported upkeep ready shown =>
    have opened : held (s.opening ref scene) :=
      custody.opens waiting (holds.free (by simp [waiting, Phase.scene?]))
        (admitted plan ref scene waiting found supported)
    exact .inr ⟨ref, _, ready, custody.moves_keep upkeep.moves (custody.sets_up opened plan),
      shown, (s.setUp_unworked ref scene plan).trans upkeep.moves.unworked⟩
  | works here upkeep ready shown =>
    obtain ⟨v, here', held_here⟩ := holds.held _ here.phase
    obtain rfl := here.unique here'
    refine .inr ⟨_, _, ready, custody.moves_keep upkeep.moves held_here, shown, ?_⟩
    rw [here.deeds]
    exact upkeep.moves.unworked

theorem step_origin (custody : Custody terms free held) (admitted : s.Admits terms x)
    (holds : s.Upholds free held) :
    Unworked s.outlet.deeds (s.step x).1.outlet.deeds ∨
      x = .command .tick ∧ ∃ ref w, w.Ready ∧ held w ∧ (s.step x).1.Shows ref w.work ∧
        Unworked s.outlet.deeds w.deeds := by
  have advance := s.advances x
  generalize (s.step x).1 = t at advance ⊢
  cases advance with
  | undergoes e => exact .inl (.of_eq (Outlet.deeds_perform_notes ..))
  | still => exact .inl (.refl _)
  | moves _ _ moved => exact .inl moved.unworked
  | ticks => exact (custody.tick_origin admitted holds).imp_right fun worked => ⟨rfl, worked⟩
  | ends ended => exact .inl (.of_eq ended.deeds)

theorem step_extends (custody : Custody terms free held) (admitted : s.Admits terms x)
    (holds : s.Upholds free held) : s.outlet.deeds <+: (s.step x).1.outlet.deeds := by
  rcases custody.step_origin admitted holds with easy | ⟨_, ref, w, _, _, shown, easy⟩
  · exact easy.isPrefix
  · rw [shown.deeds]
    exact easy.isPrefix.trans (List.prefix_append ..)

theorem run_extends (custody : Custody terms free held) (admitted : s.OnTerms terms steps)
    (holds : s.Upholds free held) : s.outlet.deeds <+: (s.run steps).outlet.deeds := by
  induction steps generalizing s with
  | nil => exact List.prefix_rfl
  | cons x rest ih =>
    exact (custody.step_extends admitted.1 holds).trans
      (ih admitted.2 (custody.step admitted.1 holds))

/-- Every call that is work was made by one tick, by the work that was owed when it came to it. -/
theorem work_origin (custody : Custody terms free held) (admitted : s.OnTerms terms steps)
    (holds : s.Upholds free held) {before later : List Entry} {e : Entry} (work : e.isWork = true)
    (older : s.outlet.deeds <+: before)
    (done : (s.run steps).outlet.deeds = before ++ e :: later) :
    ∃ earlier rest ref w, steps = earlier ++ .command .tick :: rest ∧ held w ∧
      s.Labours earlier ref w before e := by
  -- by induction on the run, for as long as the deeds of its steps end before this one
  induction steps generalizing s with
  | nil =>
    have short := older.length_le
    have long := congrArg List.length done
    rw [List.length_append, List.length_cons] at long
    change s.outlet.deeds.length = _ at long
    omega
  | cons x rest ih =>
    have done_by : before ++ [e] <+: (s.run (x :: rest)).outlet.deeds :=
      ⟨later, by rw [done, List.append_assoc, List.singleton_append]⟩
    have upheld := custody.step admitted.1 holds
    have within : (s.step x).1.outlet.deeds <+: (s.run (x :: rest)).outlet.deeds :=
      custody.run_extends admitted.2 upheld
    have goes_on (older' : (s.step x).1.outlet.deeds <+: before) : ∃ earlier rest' ref w,
        x :: rest = earlier ++ .command .tick :: rest' ∧ held w ∧
          s.Labours earlier ref w before e := by
      obtain ⟨earlier, rest', ref, w, split, h, made⟩ := ih admitted.2 upheld older' done
      exact ⟨x :: earlier, rest', ref, w, congrArg (x :: ·) split, h,
        made.since, made.ready, made.shown, made.does⟩
    rcases custody.step_origin admitted.1 holds with easy | ⟨rfl, ref, w, ready, h, shown, easy⟩
    · -- no work at all in this step
      exact goes_on (easy.before_work older done_by within work)
    · rw [shown.deeds] at within goes_on
      have prepared : w.deeds <+: before :=
        easy.before_work older done_by ((List.prefix_append ..).trans within) work
      rcases Nat.lt_or_ge before.length w.work.deeds.length with longer | shorter
      · -- the deed is in what this tick does, and not in what it prepares
        obtain ⟨first, rfl⟩ := prepared
        obtain ⟨last, here⟩ := List.prefix_of_prefix_length_le done_by within
          (by rwa [List.length_append])
        refine ⟨[], rest, ref, w, rfl, h, easy.isPrefix, ready, shown, first, last, rfl, ?_⟩
        rw [View.work_deeds, List.append_assoc, List.append_assoc, List.append_cancel_left_eq,
          List.singleton_append] at here
        exact here.symm
      · refine goes_on ?_
        exact List.prefix_of_prefix_length_le within ((List.prefix_append ..).trans done_by) shorter

end Custody

end VoxelGI
