import Mathlib.Data.List.Infix
import Mathlib.Data.List.Nodup
import VoxelGI.Proofs.CallLaw

/-! The two lists of cascades, the desk's and the engine's. Every move changes them in the same way,
so they stay in step from a volume that is created without cascades on; then a cascade is always
modelled on the engine's last one, and none is removed where there is none. -/
namespace VoxelGI

def CascadeStack.handles (s : CascadeStack) : List CascadeHandle := s.entries.map (·.handle)

theorem CascadeStack.handles_edit (s : CascadeStack) (index : Nat)
    (change : CascadeSettings → CascadeSettings) : (s.edit index change).handles = s.handles := by
  apply List.ext_getElem?
  intro i
  simp only [handles, edit, List.getElem?_map, List.getElem?_modify]
  cases s.entries[i]? with
  | none => rfl
  | some e => by_cases here : index = i <;> simp [here]

def Volume.stock (v : Volume) : List CascadeHandle × Nat := (v.cascades, v.nextSerial)

def Call.restocks : Call → Bool
  | .addCascade .. | .popCascade => true
  | _ => false

namespace Scene

theorem apply_stock {c : Call} (keeps : c.restocks = false) (s : Scene) :
    (s.apply c).volume.stock = s.volume.stock := by
  cases c with
  | addCascade | popCascade => contradiction
  | setActive active =>
    rw [apply_setActive]
    split <;> rfl
  | start bounces anisotropic =>
    rw [apply_start]
    split <;> rfl
  | _ => rfl

theorem applyAll_stock {cs : List Call} (keeps : ∀ c ∈ cs, c.restocks = false) (s : Scene) :
    (s.applyAll cs).volume.stock = s.volume.stock :=
  applyAll_keeps (·.volume.stock) cs (fun c h s => apply_stock (keeps c h) s) s

theorem replaceCameras_volume (s : Scene) (names : List String) :
    (s.replaceCameras names).volume = s.volume := by
  have listed (u : Scene) :
      (names.foldl (fun s name => s.addCamera name none) u).volume = u.volume := by
    induction names generalizing u with
    | nil => rfl
    | cons name rest ih => exact ih _
  exact listed s.clearCameras

theorem undergo_stock (s : Scene) (event : SceneEvent) :
    (s.undergo event).volume.stock = s.volume.stock := by
  cases event with
  | patch p =>
    cases cameras : p.cameras with
    | none => simp [undergo, patch, cameras, Volume.stock]
    | some names => simp [undergo, patch, cameras, Volume.stock, replaceCameras_volume]
  | _ => rfl

end Scene

/-- Whether a call is one that the work that is owed may make: on the volume, or on a cascade with one
of these handles. -/
def Call.Labours (handles : List CascadeHandle) : Call → Prop
  | .createVolume | .listCameras | .participants _ | .addCascade .. | .popCascade => False
  | .cascade h _ => h ∈ handles
  | _ => True

theorem Call.Labours.keeps {handles : List CascadeHandle} {c : Call} (labours : c.Labours handles) :
    c.restocks = false := by
  cases c with
  | addCascade | popCascade => exact labours.elim
  | _ => rfl

theorem CascadeEntry.effects_labour (e : CascadeEntry) :
    ∀ c ∈ Effect.calls e.effects, c.Labours [e.handle] := by
  rw [calls_effects, List.forall_mem_map]
  exact fun _ _ => List.mem_cons_self

theorem CascadeEntry.effects_keep (e : CascadeEntry) :
    ∀ c ∈ Effect.calls e.effects, c.restocks = false :=
  fun c called => (e.effects_labour c called).keeps

theorem CascadeStack.effects_labour (s : CascadeStack) :
    ∀ c ∈ Effect.calls s.effects, c.Labours s.handles := by
  intro c called
  obtain ⟨e, inside, write, rfl⟩ := mem_calls_effects called
  exact List.mem_map_of_mem inside

theorem Settings.preamble_labours (s : Settings) (cascades : CascadeStack) (wasStarted : Bool) :
    ∀ c ∈ Effect.calls (s.rebuildPreamble cascades wasStarted), c.Labours cascades.handles := by
  have values : ∀ c ∈ Effect.calls (s.gridCalls ++ s.lightingCalls),
      c.Labours cascades.handles := by
    simp [gridCalls, lightingCalls, Call.Labours]
  rw [rebuildPreamble, Effect.calls_append, List.forall_mem_append]
  refine ⟨values, ?_⟩
  cases wasStarted
  · exact cascades.effects_labour
  · simp [Call.Labours]

theorem Settings.rebuildEffects_labour (s : Settings) (cascades : CascadeStack)
    (wasStarted : Bool) (alive : Camera → Bool) :
    ∀ c ∈ Effect.calls (s.rebuildEffects cascades wasStarted alive),
      c.Labours cascades.handles := by
  rw [rebuildEffects, Effect.calls_append, List.forall_mem_append]
  refine ⟨s.preamble_labours cascades wasStarted, ?_⟩
  cases s.enabled <;> cases wasStarted <;> simp [activation, Call.Labours]

theorem Desk.workEffects_labour (d : Desk) (scene : Scene) :
    ∀ c ∈ Effect.calls (d.workEffects scene), c.Labours d.cascades.handles := by
  unfold workEffects
  cases d.draft.pending with
  | clean => simp
  | overlayOnly =>
    simp only [Settings.calls_overlayEffects]
    split <;> simp [Call.Labours]
  | relight =>
    simp only [Settings.calls_relightEffects]
    split <;> (try split) <;> simp [Settings.lightingCalls, Call.Labours]
  | rebuild =>
    rw [Effect.calls_append, List.forall_mem_append, Settings.calls_afterRebuild]
    refine ⟨fun c h => Settings.rebuildEffects_labour _ _ _ _ c h, ?_⟩
    split <;> simp [Call.Labours]

theorem Desk.workEffects_keep (d : Desk) (scene : Scene) :
    ∀ c ∈ Effect.calls (d.workEffects scene), c.restocks = false :=
  fun c called => (d.workEffects_labour scene c called).keeps

theorem Desk.calls_refreshCameras_keep (d : Desk) (scene : Scene) :
    ∀ c ∈ Effect.calls (d.refreshCameras scene).effects, c.restocks = false := by
  simp [calls_refreshCameras, Call.restocks]

namespace View

inductive Restocks (v w : View) : Prop where
  | keeps (handles : w.desk.cascades.handles = v.desk.cascades.handles)
      (stock : w.scene.volume.stock = v.scene.volume.stock)
  | appends
      (handles : w.desk.cascades.handles = v.desk.cascades.handles ++ [v.scene.volume.nextHandle])
      (stock : w.scene.volume.stock = (v.scene.volume.cascades ++ [v.scene.volume.nextHandle],
        v.scene.volume.nextSerial + 1))
  | removes (handles : w.desk.cascades.handles = v.desk.cascades.handles.dropLast)
      (stock : w.scene.volume.stock =
        (v.scene.volume.cascades.dropLast, v.scene.volume.nextSerial))

theorem Move.restocks {v w : View} (m : Move v w) : v.Restocks w := by
  cases m with
  | @command d es m =>
    cases m with
    | append u here =>
      cases here
      refine .appends (by simp [CascadeStack.handles, CascadeStack.nextEntry]) ?_
      rw [adopt_scene, Effect.calls_call, Scene.applyAll_cons, Scene.applyAll_stock]
      · rfl
      · simpa using CascadeEntry.effects_keep _
    | remove => exact .removes (by simp [CascadeStack.handles]) rfl
    | edit u here idle index change =>
      refine .keeps ?_ rfl
      exact CascadeStack.handles_edit ..
    | stay ns => exact .keeps rfl (by simp)
    | assign a => exact .keeps rfl (by simp [Draft.calls_assign])
    | wish enabled => exact .keeps rfl (by rw [adopt_scene]; split <;> rfl)
    | miss | request | bind => exact .keeps rfl rfl
  | upkeep u =>
    cases u with
    | refresh =>
      refine .keeps (congrArg CascadeStack.handles (Desk.refreshCameras_cascades ..)) ?_
      exact Scene.applyAll_stock (v.desk.calls_refreshCameras_keep v.scene) v.scene
    | notice | drop => exact .keeps rfl rfl

theorem work_restocks (v : View) : v.Restocks v.work :=
  .keeps rfl (Scene.applyAll_stock (v.desk.workEffects_keep v.scene) v.scene)

structure Distinct (v : View) : Prop where
  old : ∀ h ∈ v.desk.cascades.handles, h.serial < v.scene.volume.nextSerial
  nodup : v.desk.cascades.handles.Nodup

theorem Distinct.restocked {v w : View} (h : v.Distinct) (r : v.Restocks w) : w.Distinct := by
  cases r with
  | keeps handles stock =>
    have serial : w.scene.volume.nextSerial = v.scene.volume.nextSerial := congrArg Prod.snd stock
    refine ⟨?_, handles ▸ h.nodup⟩
    rw [handles, serial]
    exact h.old
  | appends handles stock =>
    have serial : w.scene.volume.nextSerial = v.scene.volume.nextSerial + 1 :=
      congrArg Prod.snd stock
    -- the serial number that is given next was not given before
    have new : v.scene.volume.nextHandle ∉ v.desk.cascades.handles :=
      fun inside => Nat.lt_irrefl _ (h.old _ inside)
    refine ⟨?_, ?_⟩
    · rw [handles, serial, List.forall_mem_append, List.forall_mem_singleton]
      exact ⟨fun a inside => Nat.lt_succ_of_lt (h.old a inside), Nat.lt_succ_self _⟩
    · rw [handles, List.nodup_append]
      refine ⟨h.nodup, List.nodup_singleton _, ?_⟩
      rintro a inside b one rfl
      exact new (List.mem_singleton.mp one ▸ inside)
  | removes handles stock =>
    have serial : w.scene.volume.nextSerial = v.scene.volume.nextSerial := congrArg Prod.snd stock
    refine ⟨?_, ?_⟩
    · rw [handles, serial]
      exact fun a inside => h.old a (List.mem_of_mem_dropLast inside)
    · rw [handles]
      exact h.nodup.sublist (List.dropLast_sublist _)

structure InStep (v : View) : Prop extends v.Distinct where
  same : v.desk.cascades.handles = v.scene.volume.cascades

theorem InStep.restocked {v w : View} (h : v.InStep) (r : v.Restocks w) : w.InStep := by
  refine ⟨h.toDistinct.restocked r, ?_⟩
  cases r with
  | keeps handles stock =>
    rw [handles, h.same]
    exact (congrArg Prod.fst stock).symm
  | appends handles stock | removes handles stock =>
    rw [handles, h.same]
    exact (congrArg Prod.fst stock).symm

theorem Distinct.undergone {v : View} (h : v.Distinct) (event : SceneEvent) :
    Distinct { v with scene := v.scene.undergo event } := by
  have serial := congrArg Prod.snd (v.scene.undergo_stock event)
  change (v.scene.undergo event).volume.nextSerial = v.scene.volume.nextSerial at serial
  refine ⟨?_, h.nodup⟩
  rw [serial]
  exact h.old

theorem InStep.undergone {v : View} (h : v.InStep) (event : SceneEvent) :
    InStep { v with scene := v.scene.undergo event } := by
  refine ⟨h.toDistinct.undergone event, ?_⟩
  rw [show (v.scene.undergo event).volume.cascades = v.scene.volume.cascades from
    congrArg Prod.fst (v.scene.undergo_stock event)]
  exact h.same

end View

theorem Desk.Move.stays_empty {alive : Camera → Bool} {d d' : Desk} {es : List Effect}
    (m : Move alive none d es d') (empty : d.cascades = {}) : d'.cascades = {} := by
  cases m with
  | append _ here | remove _ here | edit _ here => contradiction
  | stay | miss | assign | wish | request | bind => exact empty

theorem View.distinct_of_empty {v : View} (empty : v.desk.cascades = {}) : v.Distinct := by
  refine ⟨?_, ?_⟩ <;> rw [empty]
  · simp [CascadeStack.handles]
  · exact .nil

theorem distinct_custody : Custody .any (fun d _ => d.cascades = {}) View.Distinct where
  waits _ _ m empty := m.stays_empty empty
  withdraws _ _ empty := empty
  opens _ empty _ := View.distinct_of_empty empty
  announces _ h := ⟨h.old, h.nodup⟩
  moves m h := h.restocked m.restocks
  works _ h := h.restocked (View.work_restocks _)
  meddles event _ h := h.undergone event
  releases _ _ := rfl
  empties _ _ := rfl

/-- Terms on which a volume is created without cascades. -/
def Terms.bare : Terms where
  created := fun s => s.volume.cascades = []
  meddled := fun _ _ => True

theorem inStep_custody : Custody .bare (fun d _ => d.cascades = {}) View.InStep where
  waits _ _ m empty := m.stays_empty empty
  withdraws _ _ empty := empty
  opens _ empty created := by
    refine ⟨View.distinct_of_empty empty, ?_⟩
    exact (congrArg CascadeStack.handles empty).trans created.symm
  announces _ h := ⟨⟨h.old, h.nodup⟩, h.same⟩
  moves m h := h.restocked m.restocks
  works _ h := h.restocked (View.work_restocks _)
  meddles event _ h := h.undergone event
  releases _ _ := rfl
  empties _ _ := rfl

/-- A cascade is modelled on the last one, or on none if there is none, and one is removed only if
there is one. -/
def Volume.Suits (v : Volume) : Call → Prop
  | .addCascade _ reference => (reference = none ↔ v.cascades = []) ∧
      ∀ position, reference = some position → position + 1 = v.cascades.length
  | .popCascade => v.cascades ≠ []
  | _ => True

namespace Volume

theorem suits_of_keeps {c : Call} (keeps : c.restocks = false) (v : Volume) : v.Suits c := by
  cases c with
  | addCascade | popCascade => contradiction
  | _ => exact True.intro

theorem findIdx?_last {hs : List CascadeHandle} {h : CascadeHandle} (nodup : (hs ++ [h]).Nodup) :
    (hs ++ [h]).findIdx? (· == h) = some hs.length := by
  have new : ∀ a ∈ hs, (a == h) = false := by
    intro a inside
    rw [List.nodup_append] at nodup
    simpa using nodup.2.2 a inside h List.mem_cons_self
  rw [List.findIdx?_append, List.findIdx?_eq_none_iff.mpr new]
  simp

theorem suits_appendCall {v : Volume} (nodup : v.cascades.Nodup) {cascades : CascadeStack}
    (same : cascades.handles = v.cascades) :
    v.Suits (v.appendCall (cascades.entries.getLast?.map (·.handle))) := by
  have last : cascades.entries.getLast?.map (·.handle) = v.cascades.getLast? := by
    rw [← same, CascadeStack.handles, List.getLast?_map]
  rw [last]
  unfold appendCall Suits
  rcases List.eq_nil_or_concat v.cascades with empty | ⟨hs, h, held⟩
  · simp [empty]
  · rw [List.concat_eq_append] at held
    rw [held] at nodup ⊢
    have position : (hs ++ [h]).getLast?.bind (fun a => (hs ++ [h]).findIdx? (· == a)) =
        some hs.length := by
      rw [List.getLast?_concat]
      exact findIdx?_last nodup
    rw [position]
    simp

end Volume

theorem View.Move.suits {v w : View} (m : Move v w) (h : v.InStep) : v.Passes (.each Volume.Suits) w := by
  have keeping {es : List Effect} (keep : ∀ c ∈ Effect.calls es, c.restocks = false) (d : Desk) :
      v.Passes (.each Volume.Suits) (v.adopt d es) :=
    passes_adopt_of_forall (fun c inside u => u.suits_of_keeps (keep c inside)) d
  cases m with
  | @command d es m =>
    cases m with
    | append u here idle =>
      cases here
      refine passes_adopt ?_ _
      rw [Scene.takes_each_iff, Effect.calls_call, Scene.meet, List.forall_mem_cons]
      refine ⟨Volume.suits_appendCall (h.same ▸ h.nodup) h.same, ?_⟩
      apply Scene.takes_of_forall
      intro c inside u
      exact u.suits_of_keeps (CascadeEntry.effects_keep _ c (by simpa using inside))
    | remove u here idle some_left =>
      refine passes_adopt ?_ _
      have some_there : v.scene.volume.cascades ≠ [] := by
        rw [← h.same]
        simpa [CascadeStack.handles] using some_left
      intro e inside
      obtain rfl := List.mem_singleton.mp inside
      exact some_there
    | assign a => exact keeping (by simp [Draft.calls_assign]) _
    | wish enabled => exact keeping (by split <;> simp) _
    | stay | miss | edit | request | bind => exact keeping (by simp) _
  | upkeep u =>
    cases u with
    | refresh => exact keeping (v.desk.calls_refreshCameras_keep v.scene) _
    | notice | drop => exact keeping (by simp) _

theorem inStep_law : CallLaw .bare (fun d _ => d.cascades = {}) View.InStep (.each Volume.Suits) where
  toCustody := inStep_custody
  creates _ _ := by simp [Grammar.each, Volume.Suits]
  tells _ _ := by simp [Grammar.each, Volume.Suits]
  starts _ := rfl
  spares _ := rfl
  passes m h := m.suits h
  labours _ _ := View.passes_adopt_of_forall
    (fun c inside u => u.suits_of_keeps (Desk.workEffects_keep _ _ c inside)) _

namespace Session

/-- While a volume is under control it has the cascades of the desk, in the same order; and in every
run a cascade is modelled on the engine's last one and none is removed where there is none. -/
theorem cascades_in_step {c : Config} {s : Session} (begun : s.Begins c)
    {steps : List Session.Step} (terms : s.OnTerms .bare steps) :
    (∀ ref, (s.run steps).desk.phase = .working ref →
      ∃ scene, (s.run steps).renderer.scene? ref = some scene ∧
        (s.run steps).desk.cascades.size = scene.volume.cascades.length ∧
        ∀ i : Nat, ((s.run steps).desk.cascades.entries[i]?).map CascadeEntry.handle =
          scene.volume.cascades[i]?) ∧
      (∀ e ∈ s.log steps, e.1.Suits e.2) ∧
      (s.log steps).map (·.2) = (s.run steps).outlet.calls := by
  have start : s.Upholds (fun d _ => d.cascades = {}) View.InStep := .begins begun rfl
  obtain ⟨⟨_, suits⟩, calls⟩ := inStep_law.log begun rfl terms
  refine ⟨fun ref working => ?_, suits, calls⟩
  obtain ⟨v, here, h⟩ := (inStep_custody.run terms start).held ref working
  refine ⟨v.scene, here.scene, ?_, fun i => ?_⟩
  · rw [here.desk, ← h.same]
    exact (List.length_map _).symm
  · rw [here.desk, ← h.same]
    exact List.getElem?_map.symm

theorem cascades_in_step_edited :
    let s := onOneScene { cascades := [{}, {}] }
    let edits := [.command .tick, .command .addCascade,
      .command (.updateCascade 7 CascadeSettings.next), .command .removeLastCascade,
      .command (.setEnabled true)]
    let steps := edits ++ [.command .tick, .command .removeLastCascade]
    s.OnTerms .bare steps ∧ (s.run steps).desk.phase = .working 0 ∧
      (∃ scene, (s.run steps).renderer.scene? 0 = some scene ∧
        (s.run steps).desk.cascades.size = scene.volume.cascades.length) ∧
      ∃ e ∈ s.log steps, e.2 = .popCascade ∧ e.1.Suits e.2 := by
  intro s edits steps
  have begun : s.Begins { cascades := [{}, {}] } := onOneScene_begins _
  have found : s.renderer.discover.found = some (0, Scene.create "main" {}) := by decide
  have edited : (s.run edits).desk.phase = .working 0 := by decide +kernel
  have terms : s.OnTerms .bare steps := by
    refine onTerms_append.mpr ⟨?_, admits_working _ edited, True.intro, True.intro⟩
    exact ⟨admits_found found rfl, True.intro, True.intro, True.intro, True.intro, True.intro⟩
  have working : (s.run steps).desk.phase = .working 0 := by decide +kernel
  have popped : ∃ e ∈ s.log steps, e.2 = .popCascade := by decide +kernel
  obtain ⟨aligned, suits, _⟩ := cascades_in_step begun terms
  obtain ⟨scene, there, size, _⟩ := aligned 0 working
  obtain ⟨e, inside, pops⟩ := popped
  exact ⟨terms, working, ⟨scene, there, size⟩, e, inside, pops, suits e inside⟩

end Session

end VoxelGI
