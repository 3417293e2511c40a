import Mathlib.Data.List.Iterate
import VoxelGI.Proofs.Startup

/-! Cascades that are only appended and removed. A new cascade starts from what follows the last one
there is, so whatever was appended and removed before, the settings of a cascade are given by its
position alone, here and in the engine. -/
namespace VoxelGI

inductive Resizing where
  | add
  | removeLast
deriving DecidableEq

structure StagedStack where
  cascades : CascadeStack
  stage : Stage

namespace StagedStack

def volume (s : StagedStack) : Volume := s.stage.scene.volume

def adopt (s : StagedStack) (r : Decision CascadeStack α) : StagedStack :=
  ⟨r.state, s.stage.perform r.effects⟩

def obey (s : StagedStack) : Resizing → StagedStack × Bool
  | .add =>
    let r := s.cascades.add (some s.volume)
    (s.adopt r, r.answer.isSome)
  | .removeLast =>
    let r := s.cascades.removeLast (some s.volume)
    (s.adopt r, r.answer)

def run (s : StagedStack) (requests : List Resizing) : StagedStack :=
  requests.foldl (fun s x => (s.obey x).1) s

def removals : StagedStack → List Resizing → Nat
  | _, [] => 0
  | s, x :: rest =>
    (if x = .removeLast ∧ (s.obey x).2 = true then 1 else 0) + removals (s.obey x).1 rest

end StagedStack

namespace CascadeStack

/-- Every cascade has the settings that its position gives. -/
def Positional (s : CascadeStack) : Prop :=
  ∀ (i : Nat) e, s.entries[i]? = some e → e.settings = CascadeSettings.next^[i] {}

namespace Positional

variable {s : CascadeStack}

theorem following (h : s.Positional) : s.following = CascadeSettings.next^[s.size] {} := by
  unfold CascadeStack.following size
  rcases List.eq_nil_or_concat s.entries with empty | ⟨before, last, held⟩
  · rw [empty]
    rfl
  · rw [List.concat_eq_append] at held
    have settings : last.settings = CascadeSettings.next^[before.length] {} :=
      h before.length last (by rw [held, List.getElem?_concat_length])
    rw [held, List.getLast?_concat, List.length_append, List.length_singleton,
      Function.iterate_succ_apply', ← settings]

theorem append (h : s.Positional) (v : Volume) : Positional ⟨s.entries ++ [s.nextEntry v]⟩ := by
  intro i e here
  rcases Nat.lt_trichotomy i s.entries.length with inside | rfl | beyond
  · rw [List.getElem?_append_left inside] at here
    exact h i e here
  · rw [List.getElem?_concat_length] at here
    obtain rfl := Option.some.inj here
    exact h.following
  · rw [List.getElem?_eq_none (by simpa using Nat.succ_le_of_lt beyond)] at here
    contradiction

theorem dropLast (h : s.Positional) : Positional ⟨s.entries.dropLast⟩ := by
  intro i e here
  rw [List.getElem?_dropLast] at here
  split at here
  · exact h i e here
  · contradiction

theorem settings_eq (h : s.Positional) :
    s.settings = List.iterate CascadeSettings.next {} s.size := by
  apply List.ext_getElem?
  intro i
  rw [settings, List.getElem?_map]
  by_cases inside : i < s.size
  · rw [List.getElem?_iterate _ _ _ _ inside, List.getElem?_eq_getElem inside]
    exact congrArg some (h i _ (List.getElem?_eq_getElem inside))
  · have outside : s.size ≤ i := Nat.not_lt.mp inside
    rw [List.getElem?_eq_none outside, List.getElem?_eq_none]
    · rfl
    · rwa [List.length_iterate]

end Positional

theorem HandedOver.add {s : CascadeStack} {id : String} {ds : List Entry} (h : s.HandedOver id ds)
    {e : CascadeEntry} (new : e.handle ∉ s.handles) {v : Volume} {reference : Option CascadeHandle}
    {es : List Effect} (calls : Effect.calls es = v.appendCall reference :: Effect.calls e.effects) :
    HandedOver ⟨s.entries ++ [e]⟩ id (ds ++ Effect.deeds id es) := by
  intro f inside
  rw [writtenTo_append, calls]
  change (CascadeWritten.notes f.handle (writtenTo id f.handle ds) (Effect.calls e.effects)).Has _
  rcases List.mem_append.mp inside with old | last
  · have other : e.handle ≠ f.handle := fun same => new (same ▸ List.mem_map_of_mem old)
    rw [CascadeWritten.notes_other other]
    exact h f old
  · obtain rfl := List.mem_singleton.mp last
    exact CascadeWritten.notes_own f _

theorem HandedOver.removeLast {s : CascadeStack} {id : String} {ds : List Entry}
    (h : s.HandedOver id ds) {es : List Effect} (calls : Effect.calls es = [.popCascade]) :
    HandedOver ⟨s.entries.dropLast⟩ id (ds ++ Effect.deeds id es) := by
  intro f inside
  rw [writtenTo_append, calls]
  exact h f (List.mem_of_mem_dropLast inside)

end CascadeStack

namespace StagedStack

variable {s t : StagedStack} {x : Resizing} {done : Bool}

inductive Resized (s : StagedStack) : Resizing → StagedStack → Bool → Prop where
  | added (es : List Effect) (reference : Option CascadeHandle)
      (calls : Effect.calls es = s.volume.appendCall reference ::
        Effect.calls (s.cascades.nextEntry s.volume).effects) :
      Resized s .add
        ⟨⟨s.cascades.entries ++ [s.cascades.nextEntry s.volume]⟩, s.stage.perform es⟩ true
  | removed (some_left : s.cascades.entries ≠ []) (es : List Effect)
      (calls : Effect.calls es = [.popCascade]) :
      Resized s .removeLast ⟨⟨s.cascades.entries.dropLast⟩, s.stage.perform es⟩ true
  | unchanged (empty : s.cascades.entries = []) : Resized s .removeLast s false

theorem obey_resized (idle : s.volume.started = false) (x : Resizing) :
    s.Resized x (s.obey x).1 (s.obey x).2 := by
  cases x with
  | add =>
    simp only [obey, CascadeStack.add, CascadeStack.guard, idle, Bool.false_eq_true, if_false]
    exact .added _ (s.cascades.entries.getLast?.map (·.handle)) (by simp)
  | removeLast =>
    simp only [obey, CascadeStack.removeLast, CascadeStack.guard, idle, Bool.false_eq_true, if_false]
    split
    · rename_i empty
      exact .unchanged (List.isEmpty_iff.mp empty)
    · rename_i some_left
      exact .removed (by simpa using some_left) _ rfl

/-- A stack whose cascades have the settings of their positions, here and in the engine, on a volume
that has not started and gives each cascade a handle of its own. -/
structure Grown (s : StagedStack) : Prop where
  idle : s.volume.started = false
  positional : s.cascades.Positional
  old : ∀ h ∈ s.cascades.handles, h.serial < s.volume.nextSerial
  handed : s.cascades.HandedOver s.stage.scene.id s.stage.outlet.deeds

theorem grown_of_empty (empty : s.cascades = {}) (idle : s.volume.started = false) : s.Grown where
  idle := idle
  positional := by simp [empty, CascadeStack.Positional]
  old := by simp [empty, CascadeStack.handles]
  handed := by simp [empty, CascadeStack.HandedOver]

theorem nextSerial_added {e : CascadeEntry} {v : Volume} {reference : Option CascadeHandle}
    {es : List Effect} (calls : Effect.calls es = v.appendCall reference :: Effect.calls e.effects)
    (st : Stage) :
    (st.perform es).scene.volume.nextSerial = st.scene.volume.nextSerial + 1 := by
  rw [Stage.scene_perform, calls, Scene.applyAll_cons]
  exact congrArg Prod.snd
    (Scene.applyAll_stock e.effects_keep (st.scene.apply (v.appendCall reference)))

theorem Grown.resized (h : s.Grown) (r : s.Resized x t done) : t.Grown := by
  cases r with
  | added es reference calls =>
    have chores : ∀ c ∈ Effect.calls es, c.isChore = true := by
      rw [calls]
      exact List.forall_mem_cons.mpr ⟨rfl, CascadeEntry.chores _⟩
    -- the serial number that is given next was not given before
    have new : s.volume.nextHandle ∉ s.cascades.handles :=
      fun inside => Nat.lt_irrefl _ (h.old _ inside)
    refine ⟨?_, h.positional.append s.volume, fun a inside => ?_, ?_⟩
    · rw [volume, Stage.scene_perform]
      exact (congrArg Scene.Status.started (Scene.status_chores chores _)).trans h.idle
    · rw [CascadeStack.handles, List.map_append] at inside
      refine Nat.lt_of_lt_of_eq ?_ (nextSerial_added calls s.stage).symm
      rcases List.mem_append.mp inside with known | last
      · exact Nat.lt_succ_of_lt (h.old a known)
      · obtain rfl := List.mem_singleton.mp last
        exact Nat.lt_succ_self _
    · rw [Stage.scene_perform, Scene.applyAll_id, Stage.deeds_perform]
      exact h.handed.add new calls
  | removed some_left es calls =>
    refine ⟨?_, h.positional.dropLast, fun a inside => ?_, ?_⟩
    · rw [volume, Stage.scene_perform, calls]
      exact h.idle
    · rw [CascadeStack.handles, List.map_dropLast] at inside
      rw [volume, Stage.scene_perform, calls]
      exact h.old a (List.mem_of_mem_dropLast inside)
    · rw [Stage.scene_perform, Scene.applyAll_id, Stage.deeds_perform]
      exact h.handed.removeLast calls
  | unchanged => exact h

theorem Grown.obey (h : s.Grown) (x : Resizing) : (s.obey x).1.Grown :=
  h.resized (obey_resized h.idle x)

theorem Grown.run (h : s.Grown) (requests : List Resizing) : (s.run requests).Grown := by
  induction requests generalizing s with
  | nil => exact h
  | cons x rest ih => exact ih (h.obey x)

theorem Resized.size (r : s.Resized x t done) :
    t.cascades.size + (if x = .removeLast ∧ done = true then 1 else 0) =
      s.cascades.size + if x = .add then 1 else 0 := by
  cases r with
  | added => simp [CascadeStack.size]
  | removed some_left =>
    have some_there := List.length_pos_iff.mpr some_left
    have shorter : s.cascades.entries.dropLast.length + 1 = s.cascades.entries.length := by
      rw [List.length_dropLast]
      omega
    simpa [CascadeStack.size] using shorter
  | unchanged => simp

theorem Grown.size_run (h : s.Grown) (requests : List Resizing) :
    (s.run requests).cascades.size + s.removals requests =
      s.cascades.size + requests.count .add := by
  induction requests generalizing s with
  | nil => simp [StagedStack.run, removals]
  | cons x rest ih =>
    have now := (obey_resized h.idle x).size
    have later := ih (h.obey x)
    simp only [StagedStack.run, List.foldl_cons, removals, List.count_cons, beq_iff_eq] at later ⊢
    omega

/-- From an empty stack on, a run leaves a cascade for each one that was appended and not removed. The
settings of each cascade, and what it was last told, are given by its position alone. -/
theorem growth_is_positional (empty : s.cascades = {})
    (editable : CascadeStack.isEditable (some s.volume) = true) (requests : List Resizing) :
    let t := s.run requests
    t.cascades.size + s.removals requests = requests.count .add ∧
      (∀ i < t.cascades.size, t.cascades.get i = .ok (CascadeSettings.next^[i] {}) ∧
        ∃ e, t.cascades.entries[i]? = some e ∧
          (writtenTo t.stage.scene.id e.handle t.stage.outlet.deeds).Has
            (CascadeSettings.next^[i] {})) ∧
      t.cascades.settings = List.iterate CascadeSettings.next {} t.cascades.size := by
  intro t
  have idle : s.volume.started = false := by simpa [CascadeStack.isEditable] using editable
  have start := grown_of_empty empty idle
  have grown : t.Grown := start.run requests
  refine ⟨?_, fun i inside => ?_, grown.positional.settings_eq⟩
  · rw [start.size_run requests, empty]
    exact Nat.zero_add _
  · have here : t.cascades.entries[i]? = some t.cascades.entries[i] := List.getElem?_eq_getElem inside
    have settings := grown.positional i _ here
    rw [← settings]
    refine ⟨?_, _, here, grown.handed _ (List.getElem_mem inside)⟩
    rw [CascadeStack.get, here]

theorem growth_is_positional_regrown :
    let s : StagedStack := ⟨{}, ⟨Scene.create "main" {}, Outlet.fresh⟩⟩
    let requests : List Resizing :=
      [.removeLast, .add, .add, .removeLast, .removeLast, .removeLast, .add, .add, .add]
    (s.run requests).cascades.size = 3 ∧ s.removals requests = 2 ∧
      (s.run requests).cascades.settings = [{}, { halfExtent := .cube ⟨0x41200000⟩ },
        { halfExtent := .cube ⟨0x41a00000⟩ }] ∧
      ∃ e, (s.run requests).cascades.entries[2]? = some e ∧
        (writtenTo (s.run requests).stage.scene.id e.handle (s.run requests).stage.outlet.deeds).Has
          { halfExtent := .cube ⟨0x41a00000⟩ } := by
  intro s requests
  have empty : s.cascades = {} := rfl
  have editable : CascadeStack.isEditable (some s.volume) = true := by decide
  obtain ⟨counted, positions, settings⟩ := growth_is_positional empty editable requests
  have size : (s.run requests).cascades.size = 3 := by decide
  have adds : requests.count .add = 5 := by decide
  have third : CascadeSettings.next^[2] {} = { halfExtent := .cube ⟨0x41a00000⟩ } := by decide
  have inside : 2 < (s.run requests).cascades.size := by omega
  refine ⟨size, by omega, ?_, ?_⟩
  · rw [settings, size]
    decide
  · rw [← third]
    exact (positions 2 inside).2

end StagedStack

end VoxelGI
