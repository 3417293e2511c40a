import Mathlib.Data.List.Perm.Basic
import VoxelGI.Proofs.Ledger
import VoxelGI.Proofs.VolumeGrids

/-! Assignments in any order. An assignment writes some parts of the settings. What it writes there,
and whether it is accepted, depends on these parts alone as long as no grid has an empty axis; so
assignments that write different parts may change places, those that are refused among them. -/
namespace VoxelGI

inductive Part where
  | axis (field : GridField) (axis : Axis)
  | bounceCount
  | highQuality
  | anisotropic
  | conserveMemory
  | thinWallCounter
  | overlay
deriving DecidableEq

def Part.Value : Part → Type
  | axis .. | bounceCount => UInt32
  | highQuality | anisotropic | conserveMemory => Bool
  | thinWallCounter => Single
  | overlay => Overlay

def Part.axes (field : GridField) : List Part := [.axis field .x, .axis field .y, .axis field .z]

theorem Part.mem_axes {field : GridField} {p : Part} :
    p ∈ axes field ↔ ∃ a, p = .axis field a := by
  constructor
  · intro inside
    simp only [axes, List.mem_cons, List.not_mem_nil, or_false] at inside
    rcases inside with rfl | rfl | rfl <;> exact ⟨_, rfl⟩
  · rintro ⟨a, rfl⟩
    cases a <;> simp [axes]

theorem Grid.ext_get {g h : Grid} (same : ∀ axis, g.get axis = h.get axis) : g = h := by
  obtain ⟨gx, gy, gz⟩ := g
  obtain ⟨hx, hy, hz⟩ := h
  exact congr (congrArg₂ Grid.mk (same .x) (same .y)) (same .z)

namespace Settings

def value (s : Settings) : (p : Part) → p.Value
  | .axis field axis => (s.grid field).get axis
  | .bounceCount => s.bounceCount
  | .highQuality => s.highQuality
  | .anisotropic => s.anisotropic
  | .conserveMemory => s.conserveMemory
  | .thinWallCounter => s.thinWallCounter
  | .overlay => s.overlay

theorem ext_value {s t : Settings} (enabled : s.enabled = t.enabled)
    (boundCamera : s.boundCamera = t.boundCamera) (values : ∀ p, s.value p = t.value p) : s = t := by
  have resolution : s.resolution = t.resolution :=
    Grid.ext_get fun axis => values (.axis .resolution axis)
  have octantCount : s.octantCount = t.octantCount :=
    Grid.ext_get fun axis => values (.axis .octantCount axis)
  have bounceCount : s.bounceCount = t.bounceCount := values .bounceCount
  have highQuality : s.highQuality = t.highQuality := values .highQuality
  have anisotropic : s.anisotropic = t.anisotropic := values .anisotropic
  have conserveMemory : s.conserveMemory = t.conserveMemory := values .conserveMemory
  have thinWallCounter : s.thinWallCounter = t.thinWallCounter := values .thinWallCounter
  have overlay : s.overlay = t.overlay := values .overlay
  cases s
  cases t
  simp_all

theorem value_withGrid (s : Settings) (field : GridField) (g : Grid) (axis : Axis) :
    (s.withGrid field g).value (.axis field axis) = g.get axis := by
  cases field <;> rfl

theorem value_withGrid_kept {s : Settings} {field : GridField} {g : Grid} {p : Part}
    (kept : ∀ axis, p = .axis field axis → g.get axis = (s.grid field).get axis) :
    (s.withGrid field g).value p = s.value p := by
  cases p with
  | axis other axis =>
    by_cases same : other = field
    · subst same
      rw [value_withGrid]
      exact kept axis rfl
    · cases field <;> cases other <;> first | rfl | exact absurd rfl same
  | _ => cases field <;> rfl

end Settings

namespace Assignment

def writes : Assignment → List Part
  | .resolution _ => Part.axes .resolution
  | .resolutionAxis axis _ => [.axis .resolution axis]
  | .octantCount _ => Part.axes .octantCount
  | .octantCountAxis axis _ => [.axis .octantCount axis]
  | .bounceCount _ => [.bounceCount]
  | .highQuality _ => [.highQuality]
  | .anisotropic _ => [.anisotropic]
  | .conserveMemory _ => [.conserveMemory]
  | .thinWallCounter _ => [.thinWallCounter]
  | .overlay _ => [.overlay]

@[simp] theorem writes_ofGrid (field : GridField) (grid : Grid) :
    (ofGrid field grid).writes = Part.axes field := by
  cases field <;> rfl

@[simp] theorem writes_ofAxis (field : GridField) (axis : Axis) (count : UInt32) :
    (ofAxis field axis count).writes = [.axis field axis] := by
  cases field <;> rfl

/-- Two assignments that write different settings, or different axes of a grid. -/
def Apart (a b : Assignment) : Prop := ∀ p ∈ a.writes, p ∉ b.writes

instance (a b : Assignment) : Decidable (a.Apart b) :=
  inferInstanceAs (Decidable (∀ p ∈ a.writes, p ∉ b.writes))

theorem Apart.symm {a b : Assignment} (h : a.Apart b) : b.Apart a :=
  fun p there here => h p here there

end Assignment

namespace Draft

variable {d e : Draft} {a b : Assignment}

theorem assign_value_aside (sound : d.settings.Allocatable) {p : Part} (aside : p ∉ a.writes) :
    (d.assign a).state.settings.value p = d.settings.value p := by
  cases a using Assignment.byField with
  | whole field grid =>
    rw [Assignment.writes_ofGrid, Part.mem_axes] at aside
    rw [(d.assign_grid field grid).2]
    split
    · exact Settings.value_withGrid_kept fun axis here => absurd ⟨axis, here⟩ aside
    · rfl
  | axis field axis n =>
    rw [Assignment.writes_ofAxis, List.mem_singleton] at aside
    rw [(assign_axis sound field axis n).2]
    split
    · rfl
    · refine Settings.value_withGrid_kept fun other here => Grid.get_set_of_ne _ _ ?_
      rintro rfl
      exact aside here
  | overlay overlay =>
    unfold assign
    dsimp only
    split
    · rfl
    · cases p <;> first | rfl | exact absurd List.mem_cons_self aside
  | _ => cases p <;> first | rfl | exact absurd List.mem_cons_self aside

/-- Where two drafts agree on what an assignment writes, it is answered alike and makes them agree
there again. -/
theorem assign_agrees (sound : d.settings.Allocatable) (sound' : e.settings.Allocatable)
    (agree : ∀ p ∈ a.writes, d.settings.value p = e.settings.value p) :
    (d.assign a).answer = (e.assign a).answer ∧
      ∀ p ∈ a.writes,
        (d.assign a).state.settings.value p = (e.assign a).state.settings.value p := by
  cases a using Assignment.byField with
  | whole field grid =>
    obtain ⟨answer, state⟩ := d.assign_grid field grid
    obtain ⟨answer', state'⟩ := e.assign_grid field grid
    refine ⟨answer.trans answer'.symm, fun p inside => ?_⟩
    rw [state, state']
    split
    · rw [Assignment.writes_ofGrid, Part.mem_axes] at inside
      obtain ⟨axis, rfl⟩ := inside
      exact (Settings.value_withGrid ..).trans (Settings.value_withGrid ..).symm
    · exact agree p inside
  | axis field axis n =>
    obtain ⟨answer, state⟩ := assign_axis sound field axis n
    obtain ⟨answer', state'⟩ := assign_axis sound' field axis n
    refine ⟨answer.trans answer'.symm, fun p inside => ?_⟩
    rw [state, state']
    split
    · exact agree p inside
    · rw [Assignment.writes_ofAxis, List.mem_singleton] at inside
      subst inside
      change Settings.value (Settings.withGrid ..) _ = Settings.value (Settings.withGrid ..) _
      rw [Settings.value_withGrid, Settings.value_withGrid, Grid.get_set_self, Grid.get_set_self]
  | overlay overlay =>
    have shown : d.settings.overlay = e.settings.overlay := agree .overlay List.mem_cons_self
    simp only [assign, shown]
    split
    · exact ⟨rfl, agree⟩
    · refine ⟨rfl, fun p inside => ?_⟩
      obtain rfl := List.mem_singleton.mp inside
      rfl
  | _ =>
    refine ⟨rfl, fun p inside => ?_⟩
    obtain rfl := List.mem_singleton.mp inside
    rfl

theorem assign_answer_apart (sound : d.settings.Allocatable) (apart : b.Apart a) :
    ((d.assign b).state.assign a).answer = (d.assign a).answer :=
  (assign_agrees (d.assign_allocatable sound b) sound fun _ inside =>
    assign_value_aside sound (apart.symm _ inside)).1

theorem assign_comm (sound : d.settings.Allocatable) (apart : a.Apart b) :
    ((d.assign a).state.assign b).state = ((d.assign b).state.assign a).state := by
  -- what one of the two writes is as if the other had not been made
  have written {a b : Assignment} (apart : a.Apart b) {p : Part} (inside : p ∈ a.writes) :
      ((d.assign a).state.assign b).state.settings.value p =
        ((d.assign b).state.assign a).state.settings.value p := by
    rw [assign_value_aside (d.assign_allocatable sound a) (apart p inside)]
    refine (assign_agrees sound (d.assign_allocatable sound b) fun q here => ?_).2 p inside
    exact (assign_value_aside sound (apart q here)).symm
  have settings : ((d.assign a).state.assign b).state.settings =
      ((d.assign b).state.assign a).state.settings := by
    refine Settings.ext_value (by simp only [assign_enabled]) (by simp only [assign_boundCamera])
      fun p => ?_
    by_cases first : p ∈ a.writes
    · exact written apart first
    · by_cases second : p ∈ b.writes
      · exact (written apart.symm second).symm
      · rw [assign_value_aside (d.assign_allocatable sound a) second,
          assign_value_aside sound first, assign_value_aside (d.assign_allocatable sound b) first,
          assign_value_aside sound second]
  have pending : ((d.assign a).state.assign b).state.pending =
      ((d.assign b).state.assign a).state.pending := by
    simp only [assign_pending, assign_answer_apart sound apart,
      assign_answer_apart sound apart.symm, Pending.mark_eq_max]
    exact max_right_comm ..
  exact congrArg₂ Draft.mk settings pending

def assignAll (d : Draft) (as : List Assignment) : Draft :=
  as.foldl (fun d a => (d.assign a).state) d

@[simp] theorem assignAll_cons (d : Draft) (a : Assignment) (as : List Assignment) :
    d.assignAll (a :: as) = (d.assign a).state.assignAll as := rfl

theorem assignAll_perm (sound : d.settings.Allocatable) {as bs : List Assignment}
    (apart : as.Pairwise Assignment.Apart) (reordered : as.Perm bs) :
    d.assignAll bs = d.assignAll as := by
  induction reordered generalizing d with
  | nil => rfl
  | cons a _ ih => exact ih (d.assign_allocatable sound a) (List.pairwise_cons.mp apart).2
  | swap a b rest =>
    have different : b.Apart a := (List.pairwise_cons.mp apart).1 a List.mem_cons_self
    simp only [assignAll_cons, assign_comm sound different]
  | trans first _ ih_first ih_second =>
    have still := apart.perm first Assignment.Apart.symm
    exact (ih_second sound still).trans (ih_first sound apart)

theorem assignAll_answer (sound : d.settings.Allocatable) {earlier : List Assignment}
    (apart : ∀ b ∈ earlier, b.Apart a) :
    ((d.assignAll earlier).assign a).answer = (d.assign a).answer := by
  induction earlier generalizing d with
  | nil => rfl
  | cons b rest ih =>
    rw [List.forall_mem_cons] at apart
    exact (ih (d.assign_allocatable sound b) apart.2).trans (assign_answer_apart sound apart.1)

/-- While no grid has an empty axis, assignments that write different settings or different axes of a
grid may be made in any order: the settings and the work owed for them are the same in the end, and
each assignment is answered alike, wherever it stands. -/
theorem assignments_commute (d : Draft)
    (sound : ∀ field axis, (d.settings.grid field).get axis ≠ 0) {as bs : List Assignment}
    (apart : as.Pairwise Assignment.Apart) (reordered : as.Perm bs) :
    d.assignAll bs = d.assignAll as ∧
      ∀ a before after before' after', as = before ++ a :: after → bs = before' ++ a :: after' →
        ((d.assignAll before').assign a).answer = ((d.assignAll before).assign a).answer := by
  have whole : d.settings.Allocatable :=
    ⟨Grid.isAllocatable_iff _ |>.mpr (sound .resolution),
      Grid.isAllocatable_iff _ |>.mpr (sound .octantCount)⟩
  have alone {cs before after : List Assignment} {a : Assignment} (split : cs = before ++ a :: after)
      (apart : cs.Pairwise Assignment.Apart) :
      ((d.assignAll before).assign a).answer = (d.assign a).answer := by
    rw [split, List.pairwise_append] at apart
    exact assignAll_answer whole fun b inside => apart.2.2 b inside a List.mem_cons_self
  refine ⟨assignAll_perm whole apart reordered, fun a before after before' after' here there => ?_⟩
  have still := apart.perm reordered Assignment.Apart.symm
  exact (alone there still).trans (alone here apart).symm

theorem assignments_commute_refused :
    let d : Draft := {}
    let as : List Assignment := [.resolutionAxis .x 0, .resolutionAxis .y 8,
      .octantCount ⟨1, 0, 1⟩, .bounceCount 2, .overlay .off]
    let bs : List Assignment := [.overlay .off, .octantCount ⟨1, 0, 1⟩, .resolutionAxis .y 8,
      .bounceCount 2, .resolutionAxis .x 0]
    (∀ field axis, (d.settings.grid field).get axis ≠ 0) ∧ as.Pairwise Assignment.Apart ∧
      as.Perm bs ∧ d.assignAll bs = d.assignAll as ∧
      d.assignAll as = ⟨{ resolution := ⟨16, 8, 16⟩, bounceCount := 2 }, .rebuild⟩ ∧
      ((d.assignAll [.overlay .off, .octantCount ⟨1, 0, 1⟩, .resolutionAxis .y 8,
        .bounceCount 2]).assign (.resolutionAxis .x 0)).answer =
          (d.assign (.resolutionAxis .x 0)).answer := by
  intro d as bs
  have sound : ∀ field axis, (d.settings.grid field).get axis ≠ 0 := by
    intro field axis
    cases field <;> cases axis <;> decide
  have apart : as.Pairwise Assignment.Apart := by decide
  have reordered : as.Perm bs := by decide
  obtain ⟨same, answers⟩ := assignments_commute d sound apart reordered
  exact ⟨sound, apart, reordered, same, by decide, answers _ [] _ _ [] rfl rfl⟩

end Draft

end VoxelGI
