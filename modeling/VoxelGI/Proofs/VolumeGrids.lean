import VoxelGI.Document.Config
import VoxelGI.Proofs.CascadeGrids
import VoxelGI.Proofs.TickCalls

/-! The two grids of the volume itself. They come from the configuration and from assignments, and
neither gives one with an empty axis. That is why an assignment to one axis, which checks the whole
grid, refuses nothing but zero. -/
namespace VoxelGI

theorem Grid.set_isAllocatable {g : Grid} (sound : g.isAllocatable = true) (axis : Axis)
    (n : UInt32) : (g.set axis n).isAllocatable = (n != 0) := by
  simp only [isAllocatable, Bool.and_eq_true] at sound
  cases axis <;> simp [set, isAllocatable, sound]

namespace Settings

def grid (s : Settings) : GridField → Grid
  | .resolution => s.resolution
  | .octantCount => s.octantCount

def withGrid (s : Settings) (field : GridField) (g : Grid) : Settings :=
  match field with
  | .resolution => { s with resolution := g }
  | .octantCount => { s with octantCount := g }

structure Allocatable (s : Settings) : Prop where
  resolution : s.resolution.isAllocatable = true
  octantCount : s.octantCount.isAllocatable = true

namespace Allocatable

variable {s : Settings}

theorem grid (h : s.Allocatable) (field : GridField) : (s.grid field).isAllocatable = true := by
  cases field with
  | resolution => exact h.resolution
  | octantCount => exact h.octantCount

theorem withGrid (h : s.Allocatable) (field : GridField) {g : Grid}
    (sound : g.isAllocatable = true) : (s.withGrid field g).Allocatable := by
  cases field with
  | resolution => exact ⟨sound, h.octantCount⟩
  | octantCount => exact ⟨h.resolution, sound⟩

end Allocatable

end Settings

namespace Assignment

def ofGrid : GridField → Grid → Assignment
  | .resolution => .resolution
  | .octantCount => .octantCount

def ofAxis : GridField → Axis → UInt32 → Assignment
  | .resolution => .resolutionAxis
  | .octantCount => .octantCountAxis

/-- The cases of an assignment by what is assigned to: a whole grid, one axis of a grid, or one of the
other settings. -/
@[elab_as_elim]
theorem byField {motive : Assignment → Prop}
    (whole : ∀ field grid, motive (ofGrid field grid))
    (axis : ∀ field axis count, motive (ofAxis field axis count))
    (bounceCount : ∀ count, motive (.bounceCount count))
    (highQuality : ∀ value, motive (.highQuality value))
    (anisotropic : ∀ value, motive (.anisotropic value))
    (conserveMemory : ∀ value, motive (.conserveMemory value))
    (thinWallCounter : ∀ value, motive (.thinWallCounter value))
    (overlay : ∀ overlay, motive (.overlay overlay)) (a : Assignment) : motive a := by
  cases a with
  | resolution grid => exact whole .resolution grid
  | resolutionAxis a count => exact axis .resolution a count
  | octantCount grid => exact whole .octantCount grid
  | octantCountAxis a count => exact axis .octantCount a count
  | bounceCount count => exact bounceCount count
  | highQuality value => exact highQuality value
  | anisotropic value => exact anisotropic value
  | conserveMemory value => exact conserveMemory value
  | thinWallCounter value => exact thinWallCounter value
  | overlay value => exact overlay value

end Assignment

namespace Draft

variable {d : Draft}

theorem assign_grid (d : Draft) (field : GridField) (grid : Grid) :
    (d.assign (.ofGrid field grid)).answer = grid.isAllocatable ∧
      (d.assign (.ofGrid field grid)).state =
        if grid.isAllocatable then d.revise (d.settings.withGrid field grid) .rebuild else d := by
  cases field <;> cases whole : grid.isAllocatable <;>
    simp [Assignment.ofGrid, assign, assignResolution, assignOctantCount, whole, Settings.withGrid]

theorem assign_ofAxis (d : Draft) (field : GridField) (axis : Axis) (n : UInt32) :
    d.assign (.ofAxis field axis n) =
      d.assign (.ofGrid field ((d.settings.grid field).set axis n)) := by
  cases field <;> rfl

theorem assign_axis (sound : d.settings.Allocatable) (field : GridField) (axis : Axis)
    (n : UInt32) :
    (d.assign (.ofAxis field axis n)).answer = (n != 0) ∧
      (d.assign (.ofAxis field axis n)).state = if n = 0 then d else
        d.revise (d.settings.withGrid field ((d.settings.grid field).set axis n)) .rebuild := by
  obtain ⟨answer, state⟩ := d.assign_grid field ((d.settings.grid field).set axis n)
  rw [assign_ofAxis, answer, state, Grid.set_isAllocatable (sound.grid field)]
  refine ⟨rfl, ?_⟩
  by_cases zero : n = 0 <;> simp [zero]

theorem assign_allocatable (sound : d.settings.Allocatable) (a : Assignment) :
    (d.assign a).state.settings.Allocatable := by
  have whole (field : GridField) (grid : Grid) :
      (d.assign (.ofGrid field grid)).state.settings.Allocatable := by
    rw [(d.assign_grid field grid).2]
    split
    · rename_i taken
      exact sound.withGrid field taken
    · exact sound
  cases a using Assignment.byField with
  | whole field grid => exact whole field grid
  | axis field axis n =>
    rw [assign_ofAxis]
    exact whole field _
  | overlay overlay =>
    unfold assign
    dsimp only
    split
    · exact sound
    · exact ⟨sound.resolution, sound.octantCount⟩
  | _ => exact ⟨sound.resolution, sound.octantCount⟩

end Draft

def Call.volumeGrid? : Call → Option Grid
  | .resolution grid | .octantCount grid => some grid
  | _ => none

theorem Call.volumeGrid?_chore {c : Call} (chore : c.isChore = true) : c.volumeGrid? = none := by
  cases c with
  | listCameras | addCascade | popCascade | cascade => rfl
  | _ => contradiction

/-- A rebuild gives the volume its two grids; other work gives it none. -/
theorem Desk.workEffects_grids (d : Desk) (scene : Scene) :
    (Effect.calls (d.workEffects scene)).filterMap Call.volumeGrid? =
      if d.draft.pending = .rebuild then [d.settings.resolution, d.settings.octantCount] else [] := by
  have handed : (d.cascades.entries.flatMap CascadeEntry.writes).filterMap Call.volumeGrid? = [] := by
    refine List.filterMap_eq_nil_iff.mpr fun c inside => ?_
    obtain ⟨_, _, _, rfl⟩ := CascadeStack.mem_writes inside
    rfl
  rw [calls_workEffects]
  cases d.draft.pending with
  | clean => rfl
  | overlayOnly =>
    simp only [Settings.script]
    split <;> rfl
  | relight =>
    simp only [Settings.script, Settings.relightScript]
    cases scene.volume.active <;> cases scene.volume.started <;> rfl
  | rebuild =>
    simp only [Settings.script, Settings.rebuildScript, List.filterMap_append]
    have shown (now : Bool) : (if now then [Call.overlay d.settings.overlay] else []).filterMap
        Call.volumeGrid? = [] := by
      cases now <;> rfl
    rw [shown]
    cases scene.volume.started <;> cases d.settings.enabled <;>
      simp [handed, Settings.lightingWrites, Call.volumeGrid?]

structure GridsKept (s : Settings) (ds : List Entry) : Prop where
  wanted : s.Allocatable
  given : ∀ g ∈ (ds.filterMap Entry.call?).filterMap Call.volumeGrid?, g.isAllocatable = true

theorem GridsKept.append {s s' : Settings} {ds es : List Entry} (h : GridsKept s ds)
    (wanted : s'.Allocatable)
    (given : ∀ g ∈ (es.filterMap Entry.call?).filterMap Call.volumeGrid?, g.isAllocatable = true) :
    GridsKept s' (ds ++ es) := by
  refine ⟨wanted, ?_⟩
  rw [List.filterMap_append, List.filterMap_append, List.forall_mem_append]
  exact ⟨h.given, given⟩

theorem Desk.Move.allocatable {alive : Camera → Bool} {volume : Option Volume} {d d' : Desk}
    {es : List Effect} (m : Desk.Move alive volume d es d') (sound : d.settings.Allocatable) :
    d'.settings.Allocatable := by
  cases m with
  | assign a => exact d.draft.assign_allocatable sound a
  | wish | bind => exact ⟨sound.resolution, sound.octantCount⟩
  | stay | miss | append | remove | edit | request => exact sound

theorem View.Move.allocatable {v w : View} (m : View.Move v w)
    (sound : v.desk.settings.Allocatable) : w.desk.settings.Allocatable := by
  cases m with
  | command m => exact m.allocatable sound
  | upkeep u =>
    cases u with
    | refresh =>
      rw [View.adopt_desk, Desk.refreshCameras_state]
      exact ⟨sound.resolution, sound.octantCount⟩
    | notice | drop => exact ⟨sound.resolution, sound.octantCount⟩

theorem gridsKept_custody :
    Custody .any (fun d ds => GridsKept d.settings ds) (fun v => GridsKept v.desk.settings v.deeds) where
  waits _ _ m h := h.append (m.allocatable h.wanted) (by simp)
  withdraws _ _ h := h.append h.wanted (by simp [Entry.call?, Call.volumeGrid?])
  opens _ h _ := h.append h.wanted (by simp [Entry.call?, Call.volumeGrid?])
  announces _ h := h.append h.wanted (by simp [Entry.call?])
  moves m h := by
    obtain ⟨es, same, chores⟩ := m.effects
    have sound := m.allocatable h.wanted
    rw [same]
    refine h.append sound ?_
    rw [Effect.filterMap_call_deeds,
      List.filterMap_eq_nil_iff.mpr fun c called => Call.volumeGrid?_chore (chores c called)]
    simp
  works {v} _ h := by
    refine h.append h.wanted ?_
    rw [Effect.filterMap_call_deeds, Desk.workEffects_grids]
    split
    · simpa using ⟨h.wanted.resolution, h.wanted.octantCount⟩
    · simp
  meddles _ _ h := h
  releases _ h := h
  empties _ h := h

theorem Config.settings_allocatable {c : Config} (valid : c.validate = .ok ()) :
    c.initialSettings.Allocatable := by
  have placed := grids_allocatable valid
  exact ⟨placed ⟨⟨none, .resolution⟩, c.resolution⟩ (by simp [grids]),
    placed ⟨⟨none, .octantCount⟩, c.octantCount⟩ (by simp [grids])⟩

namespace Session

variable {c : Config} {s : Session}

/-- From a configuration that is accepted on, the two grids that are wanted never have an empty axis,
and neither had a grid that the volume was given. So an axis of either grid takes every number but
zero, and nothing else changes by it. -/
theorem volume_grids_allocatable (begun : s.Begins c) (valid : c.validate = .ok ())
    (steps : List Step) :
    let t := s.run steps
    (∀ field axis, (t.desk.settings.grid field).get axis ≠ 0) ∧
      (∀ grid, .resolution grid ∈ t.outlet.calls ∨ .octantCount grid ∈ t.outlet.calls →
        ∀ axis, grid.get axis ≠ 0) ∧
      (t.isOpen = true → ∀ field axis n,
        let u := t.step (.command (.assign (.ofAxis field axis n)))
        let changed := t.desk.settings.withGrid field ((t.desk.settings.grid field).set axis n)
        u.2 = .verdict (n != 0) ∧
          (n = 0 → u.1.desk = t.desk) ∧
          (n ≠ 0 → u.1.desk = { t.desk with draft := t.desk.draft.revise changed .rebuild })) := by
  intro t
  have start : s.Upholds (fun d ds => GridsKept d.settings ds)
      (fun v => GridsKept v.desk.settings v.deeds) :=
    .begins begun ⟨Config.settings_allocatable valid, by simp⟩
  have kept : GridsKept t.desk.settings t.outlet.deeds := by
    have upheld := gridsKept_custody.run (s.onTerms_any steps) start
    rcases upheld.cases with none_here | ⟨ref, v, here, h⟩
    · exact upheld.free none_here
    · rwa [here.desk, here.deeds]
  refine ⟨fun field => Grid.isAllocatable_iff _ |>.mp (kept.wanted.grid field), ?_, ?_⟩
  · intro grid called
    have given : grid ∈ t.outlet.calls.filterMap Call.volumeGrid? :=
      List.mem_filterMap.mpr (called.elim (⟨_, ·, rfl⟩) (⟨_, ·, rfl⟩))
    exact grid.isAllocatable_iff.mp (kept.given grid given)
  · intro obeys field axis n u changed
    obtain ⟨answer, state⟩ := Draft.assign_axis (d := t.desk.draft) kept.wanted field axis n
    have stepped : u = (t.adopt (t.desk.assign (.ofAxis field axis n)),
        .verdict (t.desk.draft.assign (.ofAxis field axis n)).answer) := step_obeys obeys _
    have desk : u.1.desk = { t.desk with
        draft := (t.desk.draft.assign (.ofAxis field axis n)).state } := by
      rw [stepped]
      exact adopt_state ..
    refine ⟨by rw [stepped, answer], fun zero => ?_, fun nonzero => ?_⟩
    · rw [desk, state, if_pos zero]
    · rw [desk, state, if_neg nonzero]
      rfl

theorem volume_grids_allocatable_edited :
    let c : Config := { octantCount := ⟨1, 2, 1⟩, cascades := [{}], enabled := true }
    let steps : List Step := [.command .tick, .command (.assign (.resolutionAxis .y 0)),
      .command (.assign (.resolutionAxis .y 8)), .command .tick]
    let t := (onOneScene c).run steps
    c.validate = .ok () ∧ t.isOpen = true ∧
      .resolution ⟨16, 8, 16⟩ ∈ t.outlet.calls ∧ .octantCount ⟨1, 2, 1⟩ ∈ t.outlet.calls ∧
      (∀ axis, (⟨16, 8, 16⟩ : Grid).get axis ≠ 0) ∧ (∀ axis, (⟨1, 2, 1⟩ : Grid).get axis ≠ 0) ∧
      (t.step (.command (.assign (.octantCountAxis .z 0)))).2 = .verdict false ∧
      (t.step (.command (.assign (.octantCountAxis .z 3)))).2 = .verdict true := by
  intro c steps t
  have valid : c.validate = .ok () := by decide
  have obeys : t.isOpen = true := by decide
  have resolution : Call.resolution ⟨16, 8, 16⟩ ∈ t.outlet.calls := by decide
  have octantCount : Call.octantCount ⟨1, 2, 1⟩ ∈ t.outlet.calls := by decide
  obtain ⟨_, given, axes⟩ := volume_grids_allocatable (onOneScene_begins c) valid steps
  exact ⟨valid, obeys, resolution, octantCount, given _ (.inl resolution), given _ (.inr octantCount),
    (axes obeys .octantCount .z 0).1, (axes obeys .octantCount .z 3).1⟩

end Session

end VoxelGI
