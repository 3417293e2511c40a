import VoxelGI.Document.Config
import VoxelGI.Proofs.CascadeLists

/-! The grids that the engine's cascades are told to use. They come from the defaults, from the
cascade before, from the configuration and from edits; the first three never give a grid with an
empty axis, and an edit is taken as it is. -/
namespace VoxelGI

def CascadeSettings.isAllocatable (s : CascadeSettings) : Bool :=
  s.resolution.isAllocatable && s.octantCount.isAllocatable

theorem CascadeSettings.next_isAllocatable (s : CascadeSettings) :
    s.next.isAllocatable = s.isAllocatable := rfl

def CascadeOverride.isAllocatable (o : CascadeOverride) : Bool :=
  o.resolution.all Grid.isAllocatable && o.octantCount.all Grid.isAllocatable

theorem CascadeOverride.apply_isAllocatable {o : CascadeOverride} {s : CascadeSettings}
    (given : o.isAllocatable = true) (before : s.isAllocatable = true) :
    (o.apply s).isAllocatable = true := by
  have chosen {g : Option Grid} {old : Grid} (new : g.all Grid.isAllocatable = true)
      (kept : old.isAllocatable = true) : (g.getD old).isAllocatable = true := by
    cases g with
    | none => exact kept
    | some g => exact new
  simp only [isAllocatable, CascadeSettings.isAllocatable, Bool.and_eq_true] at given before ⊢
  exact ⟨chosen given.1 before.1, chosen given.2 before.2⟩

def Call.isAllocatable : Call → Bool
  | .cascade _ (.resolution grid) => grid.isAllocatable
  | .cascade _ (.octantCount grid) => grid.isAllocatable
  | _ => true

def CascadeStack.Allocatable (s : CascadeStack) : Prop :=
  ∀ e ∈ s.entries, e.settings.isAllocatable = true

theorem CascadeEntry.calls_allocatable {e : CascadeEntry} (h : e.settings.isAllocatable = true) :
    ∀ c ∈ Effect.calls e.effects, c.isAllocatable = true := by
  rw [CascadeSettings.isAllocatable, Bool.and_eq_true] at h
  simp [calls_effects, CascadeSettings.writes, Call.isAllocatable, h.1, h.2]

namespace CascadeStack.Allocatable

variable {s : CascadeStack}

theorem calls_allocatable (h : s.Allocatable) :
    ∀ c ∈ Effect.calls s.effects, c.isAllocatable = true := by
  intro c called
  simp only [effects, Effect.calls, List.filterMap_flatMap, List.mem_flatMap] at called
  obtain ⟨e, inside, called⟩ := called
  exact CascadeEntry.calls_allocatable (h e inside) c called

theorem nextEntry (h : s.Allocatable) (v : Volume) :
    (s.nextEntry v).settings.isAllocatable = true := by
  unfold CascadeStack.nextEntry
  cases last : s.entries.getLast? with
  | none => rfl
  | some e =>
    rw [CascadeSettings.next_isAllocatable]
    exact h e (List.mem_of_getLast? last)

theorem append (h : s.Allocatable) (v : Volume) :
    Allocatable ⟨s.entries ++ [s.nextEntry v]⟩ := by
  intro e inside
  rcases List.mem_append.mp inside with old | new
  · exact h e old
  · obtain rfl := List.mem_singleton.mp new
    exact h.nextEntry v

theorem dropLast (h : s.Allocatable) : Allocatable ⟨s.entries.dropLast⟩ :=
  fun e inside => h e (List.mem_of_mem_dropLast inside)

theorem edit {index : Nat} {change : CascadeSettings → CascadeSettings} (h : s.Allocatable)
    (sound : ∀ settings, s.get index = .ok settings → settings.isAllocatable = true →
      (change settings).isAllocatable = true) : (s.edit index change).Allocatable := by
  intro e inside
  obtain ⟨i, there⟩ := List.mem_iff_getElem?.mp inside
  rw [CascadeStack.edit, List.getElem?_modify] at there
  obtain ⟨old, here, rfl⟩ := Option.map_eq_some_iff.mp there
  have before : old.settings.isAllocatable = true := h old (List.mem_of_getElem? here)
  by_cases same : index = i
  · subst same
    simp only [if_true]
    exact sound old.settings (by simp [get, here]) before
  · simpa only [same, if_false] using before

end CascadeStack.Allocatable

structure Desk.Spares (d : Desk) (r : Decision Desk α) : Prop where
  cascades : r.state.cascades.Allocatable
  calls : ∀ c ∈ Effect.calls r.effects, c.isAllocatable = true

namespace Desk

variable {d : Desk} (h : d.cascades.Allocatable)

include h

theorem refreshCameras_spares (scene : Scene) : d.Spares (d.refreshCameras scene) where
  cascades := by rwa [refreshCameras_cascades]
  calls := by simp [calls_refreshCameras, Call.isAllocatable]

theorem setEnabled_spares (alive : Camera → Bool) (enabled : Bool) :
    d.Spares (d.setEnabled alive enabled) := by
  unfold setEnabled
  split
  · exact ⟨h, by simp⟩
  · exact ⟨h, by dsimp only; split <;> simp⟩

theorem assign_spares (a : Assignment) : d.Spares (d.assign a) :=
  ⟨h, by simp [assign, Draft.calls_assign]⟩

theorem bindCamera_spares (alive : Camera → Bool) (name : String) :
    d.Spares (d.bindCamera alive name) := by
  unfold bindCamera
  split <;> exact ⟨h, by simp⟩

theorem addCascade_spares (volume : Option Volume) : d.Spares (d.addCascade volume) := by
  unfold addCascade CascadeStack.add
  cases CascadeStack.guard volume .add with
  | error n => exact ⟨h, by simp⟩
  | ok v =>
    refine ⟨h.append v, ?_⟩
    have entry := CascadeEntry.calls_allocatable (h.nextEntry v)
    simpa [Volume.appendCall, Call.isAllocatable] using entry

theorem removeLastCascade_spares (volume : Option Volume) :
    d.Spares (d.removeLastCascade volume) := by
  unfold removeLastCascade CascadeStack.removeLast
  cases CascadeStack.guard volume .remove with
  | error n => exact ⟨h, by simp⟩
  | ok v =>
    dsimp only
    split
    · exact ⟨h, by simp⟩
    · exact ⟨h.dropLast, by simp [Call.isAllocatable]⟩

theorem updateCascade_spares {volume : Option Volume} {index : Nat}
    {change : CascadeSettings → CascadeSettings}
    (sound : (d.updateCascade volume index change).answer = .ok true →
      ∀ settings, d.cascades.get index = .ok settings → settings.isAllocatable = true →
        (change settings).isAllocatable = true) :
    d.Spares (d.updateCascade volume index change) := by
  revert sound
  unfold updateCascade CascadeStack.update
  cases CascadeStack.guard volume .edit with
  | error n => exact fun _ => ⟨h, by simp⟩
  | ok v =>
    dsimp only
    split
    · exact fun sound => ⟨h.edit (sound rfl), by simp⟩
    · exact fun _ => ⟨h, by simp⟩

theorem workEffects_allocatable (scene : Scene) :
    ∀ c ∈ Effect.calls (d.workEffects scene), c.isAllocatable = true := by
  unfold workEffects
  cases d.draft.pending with
  | clean => simp
  | overlayOnly =>
    simp only [Settings.calls_overlayEffects]
    split <;> simp [Call.isAllocatable]
  | relight =>
    simp only [Settings.calls_relightEffects]
    split <;> (try split) <;> simp [Settings.lightingCalls, Call.isAllocatable]
  | rebuild =>
    have values : ∀ c ∈ Effect.calls (d.settings.gridCalls ++ d.settings.lightingCalls),
        c.isAllocatable = true := by
      simp [Settings.gridCalls, Settings.lightingCalls, Call.isAllocatable]
    simp only [Settings.rebuildEffects, Effect.calls_append, List.forall_mem_append,
      Settings.calls_afterRebuild] at values ⊢
    refine ⟨⟨⟨values, ?_⟩, ?_⟩, ?_⟩
    · split
      · simp [Call.isAllocatable]
      · exact h.calls_allocatable
    · cases d.settings.enabled <;> cases scene.volume.started <;>
        simp [Settings.activation, Call.isAllocatable]
    · split <;> simp [Call.isAllocatable]

end Desk

namespace View

structure Allocatable (v : View) : Prop where
  cascades : v.desk.cascades.Allocatable
  called : ∀ c ∈ v.calls, c.isAllocatable = true

variable {v w : View}

theorem Allocatable.perform (h : v.Allocatable) {es : List Effect}
    (calls : ∀ c ∈ Effect.calls es, c.isAllocatable = true) : (v.perform es).Allocatable where
  cascades := h.cascades
  called := by
    rw [perform_calls, List.forall_mem_append]
    exact ⟨h.called, calls⟩

theorem Allocatable.adopt (h : v.Allocatable) {r : Decision Desk α} (spares : v.desk.Spares r) :
    (v.adopt r.state r.effects).Allocatable :=
  perform (v := { v with desk := r.state }) ⟨spares.cascades, h.called⟩ spares.calls

theorem Allocatable.upkept (h : v.Allocatable) (us : Upkeeps v w) : w.Allocatable := by
  refine us.keep (fun u u' u_step h => ?_) h
  cases u_step with
  | refresh => exact h.adopt (Desk.refreshCameras_spares h.cascades _)
  | notice | drop =>
    exact perform (v := { u with desk := { u.desk with draft := u.desk.draft.noteOff } })
      ⟨h.cascades, h.called⟩ (by simp)

theorem Allocatable.work (h : v.Allocatable) : v.work.Allocatable :=
  have worked := h.perform (Desk.workEffects_allocatable h.cascades v.scene)
  ⟨h.cascades, worked.called⟩

end View

namespace Bench

variable {b : Bench}

theorem addConfigured_allocatable {o : CascadeOverride} (given : o.isAllocatable = true)
    (h : b.view.Allocatable) : (b.addConfigured o).view.Allocatable := by
  have added : (b.adopt (b.desk.addCascade (some b.volume))).view.Allocatable := by
    rw [view_adopt]
    exact h.adopt (Desk.addCascade_spares h.cascades _)
  unfold addConfigured
  dsimp only
  split
  · exact added
  · rw [view_adopt]
    refine added.adopt (Desk.updateCascade_spares added.cascades ?_)
    exact fun _ _ _ => CascadeOverride.apply_isAllocatable given

theorem foldl_addConfigured_allocatable {os : List CascadeOverride}
    (given : ∀ o ∈ os, o.isAllocatable = true) (h : b.view.Allocatable) :
    (os.foldl addConfigured b).view.Allocatable := by
  induction os generalizing b with
  | nil => exact h
  | cons o rest ih =>
    rw [List.forall_mem_cons] at given
    exact ih given.2 (addConfigured_allocatable given.1 h)

theorem enableAtStartup_allocatable (enable : Bool) (h : b.view.Allocatable) :
    (b.enableAtStartup enable).view.Allocatable := by
  have asked : (b.adopt (b.desk.setEnabled b.stage.scene.holds true)).view.Allocatable := by
    rw [view_adopt]
    exact h.adopt (Desk.setEnabled_spares h.cascades ..)
  unfold enableAtStartup
  cases enable with
  | false => exact h
  | true =>
    simp only [if_true]
    split
    · exact asked
    · rwa [view_perform, View.perform_note]

theorem setUp_allocatable {plan : StartupPlan}
    (given : ∀ o ∈ plan.cascades, o.isAllocatable = true) (h : b.view.Allocatable) :
    (b.setUp plan).view.Allocatable := by
  let opened := b.perform [.call (.participants .everything), .note .volumeCreated]
  have opening : opened.view.Allocatable := by
    rw [view_perform]
    exact h.perform (by simp [Call.isAllocatable])
  have filled := foldl_addConfigured_allocatable given opening
  have listed : (b.fill plan).view.Allocatable := by
    rw [fill, view_adopt]
    exact filled.adopt (Desk.refreshCameras_spares filled.cascades _)
  rw [setUp_eq]
  refine enableAtStartup_allocatable plan.enable ?_
  rw [view_perform]
  exact listed.perform (by simp)

end Bench

namespace Config

variable {c : Config}

theorem validate_ok_iff : c.validate = .ok () ↔ ∀ g ∈ c.grids, g.grid.isAllocatable = true := by
  have faultless : c.validate = .ok () ↔ c.firstFault = none := by
    unfold validate
    cases c.firstFault <;> simp
  simp [faultless, firstFault, List.find?_eq_none]

theorem grids_allocatable (valid : c.validate = .ok ()) :
    ∀ g ∈ c.grids, g.grid.isAllocatable = true :=
  validate_ok_iff.mp valid

theorem cascadeGrids_allocatable (index : Nat) (o : CascadeOverride) :
    (∀ g ∈ cascadeGrids index o, g.grid.isAllocatable = true) ↔ o.isAllocatable = true := by
  obtain ⟨extent, resolution, octantCount, counter⟩ := o
  cases resolution <;> cases octantCount <;> simp [cascadeGrids, CascadeOverride.isAllocatable]

theorem gridsFrom_allocatable (index : Nat) (os : List CascadeOverride) :
    (∀ g ∈ gridsFrom index os, g.grid.isAllocatable = true) ↔
      ∀ o ∈ os, o.isAllocatable = true := by
  induction os generalizing index with
  | nil => simp [gridsFrom]
  | cons o rest ih =>
    rw [gridsFrom, List.forall_mem_append, List.forall_mem_cons, cascadeGrids_allocatable, ih]

theorem validate_ok_iff_parts : c.validate = .ok () ↔ c.resolution.isAllocatable = true ∧
    c.octantCount.isAllocatable = true ∧ ∀ o ∈ c.cascades, o.isAllocatable = true := by
  rw [validate_ok_iff, grids, List.forall_mem_cons, List.forall_mem_cons, gridsFrom_allocatable]

theorem overrides_allocatable (valid : c.validate = .ok ()) :
    ∀ o ∈ c.cascades, o.isAllocatable = true :=
  (validate_ok_iff_parts.mp valid).2.2

end Config

namespace Session

variable {s t : Session}

structure Allocatable (s : Session) : Prop where
  planned : ∀ plan, s.desk.phase = .waiting plan → ∀ o ∈ plan.cascades, o.isAllocatable = true
  cascades : s.desk.cascades.Allocatable
  called : ∀ c ∈ s.outlet.calls, c.isAllocatable = true

/-- A step that empties no grid of a cascade: an edit that is accepted leaves a cascade that can be
allocated as one that can. -/
def Spares (s : Session) (x : Step) : Prop :=
  ∀ index change, x = .command (.updateCascade index change) → (s.step x).2 = .verdict true →
    ∀ settings, s.desk.cascades.get index = .ok settings → settings.isAllocatable = true →
      (change settings).isAllocatable = true

def AllSpare : Session → List Step → Prop
  | _, [] => True
  | s, x :: rest => s.Spares x ∧ AllSpare (s.step x).1 rest

theorem spares_of_ne {x : Step}
    (other : ∀ index change, x ≠ .command (.updateCascade index change)) (s : Session) :
    s.Spares x :=
  fun index change same => absurd same (other index change)

theorem mem_calls_adopt {r : Decision Desk α} {c : Call} (called : c ∈ (s.adopt r).outlet.calls) :
    c ∈ s.outlet.calls ∨ c ∈ Effect.calls r.effects := by
  unfold adopt at called
  cases here : s.scene? with
  | none =>
    rw [here, Outlet.calls, Outlet.deeds_perform, List.filterMap_append,
      Effect.filterMap_call_announcements, List.append_nil] at called
    exact .inl called
  | some p =>
    rw [here, Outlet.calls] at called
    simp only [Stage.deeds_perform, List.filterMap_append, Effect.filterMap_call_deeds,
      List.mem_append] at called
    exact called

theorem adopt_state (s : Session) (r : Decision Desk α) : (s.adopt r).desk = r.state := by
  unfold adopt
  cases s.scene? <;> rfl

theorem Allocatable.adopt (h : s.Allocatable) {r : Decision Desk α} (spares : s.desk.Spares r)
    (phase : r.state.phase = s.desk.phase) : (s.adopt r).Allocatable where
  planned plan waiting := by
    rw [adopt_state, phase] at waiting
    exact h.planned plan waiting
  cascades := by
    rw [adopt_state]
    exact spares.cascades
  called c called := (mem_calls_adopt called).elim (h.called c) (spares.calls c)

theorem Allocatable.ended (h : s.Allocatable) (e : s.Ended t) : t.Allocatable := by
  have called : ∀ c ∈ t.outlet.calls, c.isAllocatable = true := by
    rw [Outlet.calls_of_deeds e.deeds]
    exact h.called
  rcases e.desk with same | let_go
  · exact ⟨same ▸ h.planned, same ▸ h.cascades, called⟩
  · refine ⟨fun plan waiting => h.planned plan ?_, ?_, called⟩
    · rw [let_go] at waiting
      cases phase : s.desk.phase <;> simp_all [Desk.release]
    · rw [let_go]
      simp [Desk.release, CascadeStack.Allocatable]

theorem allocatable_of_shows {ref : SceneRef} {v : View} (here : s.Shows ref v)
    (h : v.Allocatable) : s.Allocatable where
  planned plan waiting := nomatch here.phase.symm.trans waiting
  cascades := here.desk ▸ h.cascades
  called := by
    rw [Outlet.calls, here.deeds]
    exact h.called

theorem Allocatable.tick (h : s.Allocatable) : s.tick.1.Allocatable := by
  have ticks := s.ticks
  generalize s.tick.1 = t, s.tick.2 = did at ticks
  cases ticks with
  | idle _ desk deeds =>
    exact ⟨desk ▸ h.planned, desk ▸ h.cascades, by
      rw [Outlet.calls_of_deeds deeds]
      exact h.called⟩
  | withdraws _ _ _ desk deeds =>
    refine ⟨by simp [desk], by rw [desk]; exact h.cascades, ?_⟩
    rw [Outlet.calls, deeds, List.filterMap_append, List.forall_mem_append]
    exact ⟨h.called, by simp [Entry.call?, Call.isAllocatable]⟩
  | opens plan ref scene waiting found supported upkeep ready shown =>
    have taken : (s.taken ref scene).view.Allocatable := by
      refine ⟨h.cascades, ?_⟩
      have created : (s.taken ref scene).view.calls = s.outlet.calls ++ [.createVolume] := by
        simp [View.calls, Session.taken, Bench.view, Bench.perform, Stage.deeds_perform,
          Outlet.calls, Entry.call?]
      rw [created, List.forall_mem_append]
      exact ⟨h.called, by simp [Call.isAllocatable]⟩
    have set_up := Bench.setUp_allocatable (h.planned plan waiting) taken
    exact allocatable_of_shows shown (set_up.upkept upkeep).work
  | works here upkeep ready shown =>
    have before : View.Allocatable _ := ⟨here.desk ▸ h.cascades, by
      rw [View.calls, ← here.deeds]
      exact h.called⟩
    exact allocatable_of_shows shown (before.upkept upkeep).work

theorem Allocatable.obey (h : s.Allocatable) (obeys : s.isOpen = true) {c : Command}
    (spares : s.Spares (.command c)) : (s.obey c).1.Allocatable := by
  cases c with
  | tick => exact h.tick
  | setEnabled enabled =>
    have move : Desk.Move s.alive s.volume? s.desk _ _ := Desk.setEnabled_move enabled
    exact h.adopt (Desk.setEnabled_spares h.cascades ..) move.phase_eq
  | assign a => exact h.adopt (Desk.assign_spares h.cascades a) rfl
  | addCascade => exact h.adopt (Desk.addCascade_spares h.cascades _) rfl
  | removeLastCascade => exact h.adopt (Desk.removeLastCascade_spares h.cascades _) rfl
  | readCascade index =>
    unfold Session.obey
    dsimp only
    split <;> exact h
  | updateCascade index change =>
    have edited : (s.adopt (s.desk.updateCascade s.volume? index change)).Allocatable := by
      refine h.adopt (Desk.updateCascade_spares h.cascades fun accepted => ?_) rfl
      refine spares index change rfl ?_
      rw [step_obeys obeys]
      simp only [Session.obey, accepted]
    unfold Session.obey
    dsimp only
    split <;> exact edited
  | bindCamera name =>
    have move : Desk.Move s.alive s.volume? s.desk _ _ := Desk.bindCamera_move name
    exact h.adopt (Desk.bindCamera_spares h.cascades ..) move.phase_eq
  | release => exact h.ended s.adopt_release
  | close => exact h.ended s.close_ended
  | requestRefresh | listCameras | subscribe => exact ⟨h.planned, h.cascades, h.called⟩

theorem Allocatable.step (h : s.Allocatable) {x : Step} (spares : s.Spares x) :
    (s.step x).1.Allocatable := by
  cases x with
  | outside e =>
    refine ⟨h.planned, h.cascades, ?_⟩
    change ∀ c ∈ (s.undergo e).outlet.calls, _
    rw [undergo, Outlet.calls_of_deeds (Outlet.deeds_perform_notes ..)]
    exact h.called
  | command c =>
    cases obeys : s.isOpen with
    | false =>
      rwa [step_closed obeys]
    | true =>
      rw [step_obeys obeys]
      exact h.obey obeys spares

theorem Allocatable.run (h : s.Allocatable) {steps : List Step} (spare : s.AllSpare steps) :
    (s.run steps).Allocatable := by
  induction steps generalizing s with
  | nil => exact h
  | cons x rest ih => exact ih (h.step spare.1) spare.2

theorem Begins.allocatable {c : Config} (begun : s.Begins c) (valid : c.validate = .ok ()) :
    s.Allocatable where
  planned plan waiting := by
    rw [begun.desk] at waiting
    obtain rfl := Phase.waiting.inj waiting
    exact Config.overrides_allocatable valid
  cascades := by simp [begun.desk, Desk.ofConfig, CascadeStack.Allocatable]
  called := by simp [Outlet.calls, begun.deeds]

/-- From a configuration that is accepted on, a cascade is never told to use a grid with an empty
axis, unless an accepted edit emptied one. -/
theorem cascade_grid_allocatable {c : Config} (begun : s.Begins c) (valid : c.validate = .ok ())
    {steps : List Step} (spare : s.AllSpare steps) {handle : CascadeHandle} {grid : Grid}
    (called : .cascade handle (.resolution grid) ∈ (s.run steps).outlet.calls ∨
      .cascade handle (.octantCount grid) ∈ (s.run steps).outlet.calls) (axis : Axis) :
    grid.get axis ≠ 0 := by
  have sound := ((begun.allocatable valid).run spare).called
  have whole : grid.isAllocatable = true := called.elim (sound _) (sound _)
  exact grid.isAllocatable_iff.mp whole axis

theorem cascade_grid_allocatable_edited :
    let c : Config := { cascades := [{ octantCount := some ⟨1, 2, 1⟩ }] }
    let s := onOneScene c
    let steps : List Step := [.command .tick,
      .command (.updateCascade 0 fun settings => { settings with resolution := ⟨2, 4, 8⟩ }),
      .command (.setEnabled true), .command .tick,
      .command (.updateCascade 0 fun settings => { settings with resolution := ⟨0, 4, 8⟩ })]
    c.validate = .ok () ∧ s.AllSpare steps ∧
      .cascade ⟨0, 0⟩ (.resolution ⟨2, 4, 8⟩) ∈ (s.run steps).outlet.calls ∧
      ∀ axis, (⟨2, 4, 8⟩ : Grid).get axis ≠ 0 := by
  intro c s steps
  have valid : c.validate = .ok () := by decide
  have spare : s.AllSpare steps := by
    refine ⟨spares_of_ne (by simp) _, ?_, spares_of_ne (by simp) _, spares_of_ne (by simp) _, ?_,
      True.intro⟩
    · rintro _ _ same _ settings _ before
      cases same
      simp_all [CascadeSettings.isAllocatable, Grid.isAllocatable]
    · -- the volume has started by then
      intro _ _ same accepted
      cases same
      exact absurd accepted (by decide)
  have called : Call.cascade ⟨0, 0⟩ (.resolution ⟨2, 4, 8⟩) ∈ (s.run steps).outlet.calls := by decide
  exact ⟨valid, spare, called,
    cascade_grid_allocatable (onOneScene_begins c) valid spare (.inl called)⟩

/-- An edit may empty a grid of a cascade, and a rebuild calls the cascade with that grid. -/
theorem cascade_grid_emptied :
    let c : Config := { cascades := [{}] }
    let steps : List Step := [.command .tick,
      .command (.updateCascade 0 fun settings => { settings with resolution := ⟨0, 16, 16⟩ }),
      .command (.setEnabled true), .command .tick]
    (onOneScene c).Begins c ∧ c.validate = .ok () ∧
      .cascade ⟨0, 0⟩ (.resolution ⟨0, 16, 16⟩) ∈ ((onOneScene c).run steps).outlet.calls ∧
      (⟨0, 16, 16⟩ : Grid).get .x = 0 :=
  ⟨onOneScene_begins _, by decide, by decide, rfl⟩

end Session

end VoxelGI
