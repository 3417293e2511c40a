import VoxelGI.Proofs.CallProtocol
import VoxelGI.Proofs.Editability
import VoxelGI.Proofs.NoLostUpdate
import VoxelGI.Proofs.Origin
import VoxelGI.Proofs.TickCalls

/-! The overlay is out of sight while the engine computes. A volume that has started has it hidden
before it is allocated, voxelised or lit, and shown again by the last call of the tick; one that has
not started was never told of an overlay. -/
namespace VoxelGI

/-- Whether a call makes the engine compute. -/
def Call.isHeavy : Call → Bool
  | .newSettings .. => true
  | c => c = .build || c = .lightingChanged

@[mk_iff]
structure Call.Quiet (c : Call) : Prop where
  light : c.isHeavy = false
  silent : ∀ o, c ≠ .overlay o

namespace Written

def Hides (w : Written) : Prop := w.overlay = none ∨ w.overlay = some .off

/-- Among these calls the engine computes only while no overlay is shown. -/
def Conceals (w : Written) : List Call → Prop
  | [] => True
  | c :: rest => (c.isHeavy = true → w.Hides) ∧ (w.note c).Conceals rest

variable {w : Written} {first second : List Call}

theorem conceals_append :
    w.Conceals (first ++ second) ↔ w.Conceals first ∧ (w.notes first).Conceals second := by
  induction first generalizing w with
  | nil => simp [Conceals]
  | cons c rest ih =>
    rw [List.cons_append, Conceals, ih, Conceals, and_assoc]
    rfl

theorem Conceals.split {c : Call} (h : w.Conceals (first ++ c :: second))
    (heavy : c.isHeavy = true) : (w.notes first).Hides :=
  (conceals_append.mp h).2.1 heavy

theorem conceals_light {cs : List Call} (light : ∀ c ∈ cs, c.isHeavy = false) : w.Conceals cs := by
  induction cs generalizing w with
  | nil => exact True.intro
  | cons c rest ih =>
    rw [List.forall_mem_cons] at light
    exact ⟨fun heavy => absurd (heavy.symm.trans light.1) nofun, ih light.2⟩

theorem overlay_notes {cs : List Call} (silent : ∀ o, .overlay o ∉ cs) :
    (w.notes cs).overlay = w.overlay := by
  induction cs generalizing w with
  | nil => rfl
  | cons c rest ih =>
    have kept : (w.note c).overlay = w.overlay := by
      cases c with
      | overlay o => exact absurd List.mem_cons_self (silent o)
      | _ => rfl
    exact (ih fun o inside => silent o (List.mem_cons_of_mem c inside)).trans kept

end Written

theorem CascadeEntry.writes_quiet (e : CascadeEntry) : ∀ c ∈ e.writes, c.Quiet := by
  simp [writes, Call.quiet_iff, Call.isHeavy]

namespace Settings

variable {w : Written} {s : Settings} {cascades : CascadeStack} {scene : Scene}

theorem lightingWrites_quiet (s : Settings) : ∀ c ∈ s.lightingWrites, c.Quiet := by
  simp [lightingWrites, Call.quiet_iff, Call.isHeavy]

theorem relight_conceals (volume : Volume) : w.Conceals (s.relightScript volume) := by
  have light : w.Conceals s.lightingWrites :=
    Written.conceals_light fun c written => (s.lightingWrites_quiet c written).light
  refine Written.conceals_append.mpr ⟨light, ?_⟩
  cases volume.active <;> cases volume.started <;>
    simp [Written.Conceals, Call.isHeavy, Written.Hides, Written.note]

/-- What a rebuild begins with: the values, and the cascades of a volume that has not started. -/
def rebuildOpening (s : Settings) (cascades : CascadeStack) (scene : Scene) : List Call :=
  [.resolution s.resolution, .octantCount s.octantCount] ++ s.lightingWrites
    ++ (if scene.volume.started then [.overlay .off]
      else cascades.entries.flatMap CascadeEntry.writes)

theorem rebuildOpening_calls (s : Settings) (cascades : CascadeStack) (scene : Scene) :
    ∀ c ∈ s.rebuildOpening cascades scene,
      c.Quiet ∨ scene.volume.started = true ∧ c = .overlay .off := by
  have grids : ∀ c ∈ [Call.resolution s.resolution, .octantCount s.octantCount], c.Quiet := by
    simp [Call.quiet_iff, Call.isHeavy]
  intro c inside
  rcases List.mem_append.mp inside with values | handed
  · exact .inl (List.forall_mem_append.mpr ⟨grids, s.lightingWrites_quiet⟩ c values)
  · cases started : scene.volume.started with
    | true =>
      rw [started, if_pos rfl, List.mem_singleton] at handed
      exact .inr ⟨rfl, handed⟩
    | false =>
      rw [started, if_neg Bool.false_ne_true] at handed
      obtain ⟨e, _, written⟩ := List.mem_flatMap.mp handed
      exact .inl (e.writes_quiet c written)

theorem rebuildOpening_silent (s : Settings) (cascades : CascadeStack)
    (idle : scene.volume.started = false) (o : Overlay) :
    .overlay o ∉ s.rebuildOpening cascades scene := by
  intro inside
  rcases s.rebuildOpening_calls cascades scene _ inside with quiet | ⟨started, _⟩
  · exact quiet.silent o rfl
  · exact Bool.false_ne_true (idle.symm.trans started)

theorem rebuildOpening_hides (s : Settings) (cascades : CascadeStack)
    (unseen : scene.volume.started = false → w.overlay = none) :
    (w.notes (s.rebuildOpening cascades scene)).Hides := by
  cases started : scene.volume.started with
  | true =>
    rw [rebuildOpening, started, Written.notes_append]
    exact .inr rfl
  | false =>
    have kept := Written.overlay_notes (w := w) (s.rebuildOpening_silent cascades started)
    exact .inl (kept.trans (unseen started))

theorem rebuild_conceals (unseen : scene.volume.started = false → w.overlay = none)
    (nowStarted : Bool) : w.Conceals (s.rebuildScript cascades scene nowStarted) := by
  have hidden := s.rebuildOpening_hides cascades unseen
  have opening : w.Conceals (s.rebuildOpening cascades scene) :=
    Written.conceals_light fun c inside => by
      rcases s.rebuildOpening_calls cascades scene c inside with quiet | ⟨_, rfl⟩
      · exact quiet.light
      · rfl
  -- only the second of its four parts computes, after the first has hidden the overlay
  refine Written.conceals_append.mpr ⟨Written.conceals_append.mpr
    ⟨Written.conceals_append.mpr ⟨opening, ?_⟩, ?_⟩, ?_⟩
  · change (w.notes (s.rebuildOpening cascades scene)).Conceals _
    cases s.enabled <;> cases scene.volume.started <;>
      simp [Written.Conceals, Call.isHeavy, Written.note, hidden]
  · exact Written.conceals_light (by simp [Call.isHeavy])
  · exact Written.conceals_light (by cases nowStarted <;> simp [Call.isHeavy])

theorem script_conceals (unseen : scene.volume.started = false → w.overlay = none)
    (nowStarted : Bool) (p : Pending) : w.Conceals (s.script cascades scene nowStarted p) := by
  cases p with
  | clean => exact True.intro
  | overlayOnly =>
    have light : ∀ c ∈ s.script cascades scene nowStarted .overlayOnly, c.isHeavy = false := by
      cases started : scene.volume.started <;> simp [script, started, Call.isHeavy]
    exact Written.conceals_light light
  | relight => exact relight_conceals scene.volume
  | rebuild => exact rebuild_conceals unseen nowStarted

theorem relight_reveals {volume : Volume} {o : Overlay}
    (shown : .overlay o ∈ s.relightScript volume) :
    (s.relightScript volume).getLast? = some (.overlay s.overlay) := by
  have silent : .overlay o ∉ s.lightingWrites := fun written =>
    (s.lightingWrites_quiet _ written).silent o rfl
  unfold relightScript at shown ⊢
  rw [List.getLast?_append]
  cases active : volume.active <;> cases started : volume.started <;>
    simp_all

theorem rebuild_silent (idle : scene.volume.started = false) (o : Overlay) :
    .overlay o ∉ s.rebuildScript cascades scene false := by
  intro shown
  rcases List.mem_append.mp shown with work | restored
  · rcases List.mem_append.mp work with built | switched
    · rcases List.mem_append.mp built with begun | building
      · exact s.rebuildOpening_silent cascades idle o begun
      · revert building
        cases s.enabled <;> simp [idle]
    · simp at switched
  · exact absurd restored List.not_mem_nil

theorem script_silent (idle : scene.volume.started = false) (inactive : scene.volume.active = false)
    (p : Pending) (o : Overlay) : .overlay o ∉ s.script cascades scene false p := by
  cases p with
  | clean => exact List.not_mem_nil
  | overlayOnly => simp [script, idle]
  | relight => simp [script, relightScript, lightingWrites, idle, inactive]
  | rebuild => exact rebuild_silent idle o

theorem script_reveals {nowStarted : Bool}
    (lasts : scene.volume.started = true → nowStarted = true) {p : Pending} {o : Overlay}
    (shown : .overlay o ∈ s.script cascades scene nowStarted p) :
    (s.script cascades scene nowStarted p).getLast? = some (.overlay s.overlay) := by
  cases p with
  | clean => exact absurd shown List.not_mem_nil
  | overlayOnly =>
    cases started : scene.volume.started <;> simp_all [script]
  | relight => exact relight_reveals shown
  | rebuild =>
    cases nowStarted with
    | true => exact List.getLast?_concat
    | false =>
      have idle : scene.volume.started = false := by
        cases started : scene.volume.started with
        | false => rfl
        | true => exact absurd (lasts started) Bool.false_ne_true
      exact absurd shown (rebuild_silent idle o)

end Settings

theorem written_uncalled {ds : List Entry} (none_called : ds.filterMap Entry.call? = [])
    (id : String) : written id ds = {} := by
  have none_here : ds.filterMap (Entry.callTo? id) = [] := by
    rw [List.filterMap_eq_nil_iff] at none_called ⊢
    intro e inside
    have uncalled := none_called e inside
    cases e with
    | call => contradiction
    | event | notice => rfl
  rw [written, none_here]
  rfl

namespace View

theorem written_work_script (v : View) : v.work.written = v.written.notes
    (v.desk.settings.script v.desk.cascades v.scene v.work.scene.volume.started
      v.desk.draft.pending) := by
  rw [written_work, Desk.calls_workEffects]
  rfl

structure Unseen (v : View) : Prop extends v.Sound where
  unseen : v.scene.volume.started = false → v.written.overlay = none

theorem Unseen.work {v : View} (h : v.Unseen) : v.work.Unseen := by
  refine ⟨h.toSound.work, fun idle => ?_⟩
  have before : v.scene.volume.started = false := by
    cases started : v.scene.volume.started with
    | false => rfl
    | true => exact absurd ((v.work_started started).symm.trans idle) nofun
  have inactive : v.scene.volume.active = false := by
    cases active : v.scene.volume.active with
    | false => rfl
    | true => exact absurd ((h.running active).symm.trans before) nofun
  rw [written_work_script, idle,
    Written.overlay_notes (Settings.script_silent before inactive v.desk.draft.pending)]
  exact h.unseen before

theorem Unseen.work_hides {v : View} (h : v.Unseen) {id : String} {c : Call} (heavy : c.isHeavy = true)
    {first last : List Entry} (does : Effect.deeds v.scene.id (v.desk.workEffects v.scene) =
      first ++ .call id c :: last) : (VoxelGI.written id (v.deeds ++ first)).Hides := by
  have here : id = v.scene.id := by
    have done : .call id c ∈ Effect.deeds v.scene.id (v.desk.workEffects v.scene) := by simp [does]
    obtain ⟨effect, _, same⟩ := List.mem_filterMap.mp done
    cases effect with
    | call =>
      cases same
      rfl
    | publish | note => exact absurd same nofun
  have conceals : v.written.Conceals (Effect.calls (v.desk.workEffects v.scene)) := by
    rw [Desk.calls_workEffects]
    exact Settings.script_conceals h.unseen _ _
  have named : Entry.callTo? v.scene.id (.call v.scene.id c) = some c := if_pos rfl
  have calls := congrArg (List.filterMap (Entry.callTo? v.scene.id)) does
  rw [Effect.filterMap_callTo_deeds, List.filterMap_append, here,
    List.filterMap_cons_some named] at calls
  rw [calls] at conceals
  have hidden := conceals.split heavy
  rwa [written, VoxelGI.written, ← Written.notes_append, ← List.filterMap_append, ← here] at hidden

theorem work_reveals (v : View) {o : Overlay}
    (shown : .overlay o ∈ Effect.calls (v.desk.workEffects v.scene)) :
    (Effect.calls (v.desk.workEffects v.scene)).getLast? =
      some (.overlay v.desk.settings.overlay) := by
  rw [Desk.calls_workEffects] at shown ⊢
  exact Settings.script_reveals v.work_started shown

end View

theorem unseen_custody : Custody .dependable
    (fun d ds => ∀ plan, d.phase = .waiting plan → ds.filterMap Entry.call? = []) View.Unseen where
  waits _ _ m h plan waiting := by
    rw [List.filterMap_append, Effect.filterMap_call_announcements, List.append_nil]
    exact h plan (m.phase_eq.symm.trans waiting)
  withdraws _ _ _ := nofun
  opens {s plan ref scene} waiting h created := by
    refine ⟨sound_custody.opens waiting True.intro created, fun _ => ?_⟩
    rw [Session.opening, View.written_perform, View.written, written_uncalled (h plan waiting)]
    rfl
  announces editable h := by
    refine ⟨sound_custody.announces editable h.toSound, fun idle => ?_⟩
    rw [View.written_perform]
    exact h.unseen idle
  moves m h := by
    refine ⟨sound_custody.moves m h.toSound, fun idle => ?_⟩
    rw [m.written]
    exact h.unseen ((congrArg Scene.Status.started m.status).symm.trans idle)
  works _ h := h.work
  meddles {v} event kept h := by
    refine ⟨sound_custody.meddles event kept h.toSound, fun idle => ?_⟩
    have before : v.scene.volume.started = false := by
      rcases kept with same | silenced
      · exact (congrArg Scene.Status.started same).symm.trans idle
      · exact (congrArg Scene.Status.started silenced).symm.trans idle
    simp only [View.written, Scene.undergo_id]
    exact h.unseen before
  releases _ _ := nofun
  empties _ h := h

theorem Unworked.calls {ds ds' : List Entry} (h : Unworked ds ds') :
    ∃ cs, ds'.filterMap Entry.call? = ds.filterMap Entry.call? ++ cs ∧
      ∀ c ∈ cs, c.isWork = false := by
  obtain ⟨more, rfl, easy⟩ := h
  refine ⟨more.filterMap Entry.call?, List.filterMap_append, fun c called => ?_⟩
  obtain ⟨e, inside, calls⟩ := List.mem_filterMap.mp called
  have idle := easy e inside
  cases e with
  | call id c' =>
    cases calls
    exact idle
  | event | notice => contradiction

namespace Session

variable {s : Session}

theorem step_reveals {x : Step} (admitted : s.Admits .dependable x)
    (holds : s.Upholds (fun d ds => ∀ plan, d.phase = .waiting plan →
      ds.filterMap Entry.call? = []) View.Unseen) :
    ∃ made, (s.step x).1.outlet.calls = s.outlet.calls ++ made ∧
      ∀ o, .overlay o ∈ made →
        made.getLast? = some (.overlay (s.step x).1.desk.settings.overlay) := by
  rcases unseen_custody.step_origin admitted holds with easy | ⟨_, ref, w, _, _, shown, easy⟩
  · obtain ⟨made, calls, idle⟩ := easy.calls
    exact ⟨made, calls, fun o inside => absurd (idle _ inside) nofun⟩
  · obtain ⟨prepared, calls, idle⟩ := easy.calls
    refine ⟨prepared ++ Effect.calls (w.desk.workEffects w.scene), ?_, fun o inside => ?_⟩
    · rw [Outlet.calls, shown.deeds, View.work_deeds, List.filterMap_append, calls,
        Effect.filterMap_call_deeds, List.append_assoc]
      rfl
    · -- what comes before the work does not touch the overlay
      have worked := (List.mem_append.mp inside).resolve_left fun early => nomatch idle _ early
      rw [List.getLast?_append, w.work_reveals worked, shown.desk]
      rfl

/-- The engine never computes while an overlay is shown: whenever it allocates a volume again,
voxelises or lights it, the overlay last written is none, or none ever was. In every tick that writes
the overlay at all, the wanted one is written by the last call. -/
theorem heavy_work_concealed {c : Config} (begun : s.Begins c) {steps : List Step}
    (terms : s.OnTerms .dependable steps) :
    (∀ before id call later, (s.run steps).outlet.deeds = before ++ .call id call :: later →
      call.isHeavy = true →
      (written id before).overlay = none ∨ (written id before).overlay = some .off) ∧
    ∀ earlier rest, steps = earlier ++ .command .tick :: rest →
      let t := s.run earlier
      let u := (t.step (.command .tick)).1
      ∃ made, u.outlet.calls = t.outlet.calls ++ made ∧
        ∀ o, .overlay o ∈ made → made.getLast? = some (.overlay u.desk.settings.overlay) := by
  have start : s.Upholds (fun d ds => ∀ plan, d.phase = .waiting plan →
      ds.filterMap Entry.call? = []) View.Unseen := .begins begun fun _ _ => rfl
  refine ⟨fun before id call later done heavy => ?_, fun earlier rest split => ?_⟩
  · -- the call is work, so a tick made it at a view that was not told of an overlay too early
    have older : s.outlet.deeds <+: before := begun.deeds ▸ List.nil_prefix
    have work : (Entry.call id call).isWork = true := by
      cases call <;> first | rfl | contradiction
    obtain ⟨_, _, _, w, _, unseen, made⟩ :=
      unseen_custody.work_origin terms start work older done
    obtain ⟨first, last, rfl, does⟩ := made.does
    exact unseen.work_hides heavy does
  · rw [split, onTerms_append] at terms
    exact step_reveals terms.2.1 (unseen_custody.run terms.1 start)

theorem heavy_work_concealed_relit :
    let s := onOneScene { enabled := true, cascades := [{}], overlay := .lighting }
    let first := [.command .tick, .command (.assign (.bounceCount 3))]
    s.OnTerms .dependable (first ++ [.command .tick]) ∧
      (∃ before later, (s.run (first ++ [.command .tick])).outlet.deeds =
          before ++ .call "main" .lightingChanged :: later ∧
        ((written "main" before).overlay = none ∨ (written "main" before).overlay = some .off)) ∧
      ∃ made, ((s.run first).step (.command .tick)).1.outlet.calls =
          (s.run first).outlet.calls ++ made ∧
        made.getLast? = some (.overlay .lighting) := by
  intro s first
  have begun : s.Begins { enabled := true, cascades := [{}], overlay := .lighting } :=
    onOneScene_begins _
  have found : s.renderer.discover.found = some (0, Scene.create "main" {}) := by decide
  have working : (s.run first).desk.phase = .working 0 := by decide
  have terms : s.OnTerms .dependable (first ++ [.command .tick]) := by
    rw [onTerms_append]
    exact ⟨⟨admits_found found rfl, True.intro, True.intro⟩, admits_working _ working, True.intro⟩
  let other (e : Entry) : Bool := e ≠ .call "main" .lightingChanged
  let deeds := (s.run (first ++ [.command .tick])).outlet.deeds
  have lit : deeds = deeds.takeWhile other ++
      .call "main" .lightingChanged :: (deeds.dropWhile other).tail := by
    decide +kernel
  have hidden : .overlay .off ∈ ((s.run first).step (.command .tick)).1.outlet.calls.drop
      (s.run first).outlet.calls.length := by
    decide +kernel
  have wanted : ((s.run first).step (.command .tick)).1.desk.settings.overlay = .lighting := by
    decide +kernel
  obtain ⟨concealed, reveals⟩ := heavy_work_concealed begun terms
  obtain ⟨made, calls, last⟩ := reveals first [] rfl
  rw [calls, List.drop_left] at hidden
  refine ⟨terms, ⟨_, _, lit, concealed _ _ _ _ lit rfl⟩, made, calls, ?_⟩
  rw [last _ hidden, wanted]

end Session

end VoxelGI
