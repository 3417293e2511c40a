import VoxelGI.Proofs.CallProtocol
import VoxelGI.Proofs.CascadeLists
import VoxelGI.Proofs.NoLostUpdate

/-! What the engine's cascades were told last. A rebuild of a volume that has not started tells every
cascade its settings, one after the other; no two of them are the same cascade in the engine, so
afterwards each one has its own settings, with all edits made up to then. -/
namespace VoxelGI

def Effect.roles (es : List Effect) : List Role := (calls es).map Call.role

@[simp] theorem Effect.roles_append (first second : List Effect) :
    roles (first ++ second) = roles first ++ roles second := by
  simp [roles]

theorem Effect.mem_roles_of_deeds {id id' : String} {c : Call} {es : List Effect}
    (done : .call id c ∈ deeds id' es) : c.role ∈ roles es :=
  List.mem_map_of_mem (mem_calls_of_deeds done)

theorem CascadeStack.role_effects (s : CascadeStack) : ∀ r ∈ Effect.roles s.effects, r = .cascade := by
  rw [Effect.roles, List.forall_mem_map]
  intro c called
  obtain ⟨e, _, write, rfl⟩ := mem_calls_effects called
  rfl

namespace Settings

theorem roles_overlayEffects (s : Settings) (volume : Volume) :
    Effect.roles (s.overlayEffects volume) = if volume.started then [.use] else [] := by
  unfold overlayEffects
  cases volume.started <;> rfl

theorem roles_relightEffects (s : Settings) (volume : Volume) :
    Effect.roles (s.relightEffects volume) = List.replicate 5 .free ++
      if volume.active then [.use, .use, .use] else if volume.started then [.use] else [] := by
  unfold relightEffects
  cases volume.active <;> cases volume.started <;> rfl

theorem roles_preamble (s : Settings) (cascades : CascadeStack) (wasStarted : Bool) :
    Effect.roles (s.rebuildPreamble cascades wasStarted) = List.replicate 7 .free ++
      if wasStarted then [.use] else Effect.roles cascades.effects := by
  cases wasStarted <;> rfl

/-- The calls that come right before the scene is voxelised. -/
def summons (s : Settings) (wasStarted : Bool) (alive : Camera → Bool) : List Effect :=
  if wasStarted then [.call (.newSettings s.bounceCount s.anisotropic)]
  else [.call (.bind (s.liveCamera alive)), .call (.start s.bounceCount s.anisotropic)]

theorem roles_summons (s : Settings) (wasStarted : Bool) (alive : Camera → Bool) :
    Effect.roles (s.summons wasStarted alive) = if wasStarted then [.use] else [.bind, .start] := by
  cases wasStarted <;> rfl

theorem roles_afterRebuild (s : Settings) (wasStarted nowStarted : Bool) :
    Effect.roles (s.afterRebuild wasStarted nowStarted) = if nowStarted then [.use] else [] := by
  cases wasStarted <;> cases nowStarted <;> rfl

theorem roles_rebuildEffects (s : Settings) (cascades : CascadeStack) (wasStarted : Bool)
    (alive : Camera → Bool) :
    Effect.roles (s.rebuildEffects cascades wasStarted alive) =
      Effect.roles (s.rebuildPreamble cascades wasStarted) ++
        if s.enabled then (if wasStarted then [.use, .use, .free] else [.bind, .start, .use, .free])
        else [.free] := by
  rw [rebuildEffects, Effect.roles_append]
  cases s.enabled <;> cases wasStarted <;> rfl

end Settings

theorem Desk.roles_rebuild {d : Desk} (owed : d.draft.pending = .rebuild) (scene : Scene) :
    ∃ now : Bool, Effect.roles (d.workEffects scene) =
      Effect.roles (d.settings.rebuildPreamble d.cascades scene.volume.started) ++
      (if d.settings.enabled then
        (if scene.volume.started then [.use, .use, .free] else [.bind, .start, .use, .free])
        else [.free]) ++ if now then [.use] else [] := by
  simp only [workEffects, owed, Effect.roles_append, Settings.roles_afterRebuild,
    Settings.roles_rebuildEffects]
  exact ⟨_, rfl⟩

structure CascadeWritten where
  halfExtent : Option Extent := none
  resolution : Option Grid := none
  octantCount : Option Grid := none
  thinWallCounter : Option Single := none
deriving DecidableEq

namespace CascadeWritten

def take (w : CascadeWritten) : CascadeWrite → CascadeWritten
  | .halfExtent extent => { w with halfExtent := some extent }
  | .resolution grid => { w with resolution := some grid }
  | .octantCount grid => { w with octantCount := some grid }
  | .thinWallCounter value => { w with thinWallCounter := some value }

def note (handle : CascadeHandle) (w : CascadeWritten) : Call → CascadeWritten
  | .cascade other write => if other = handle then w.take write else w
  | _ => w

def notes (handle : CascadeHandle) (w : CascadeWritten) (cs : List Call) : CascadeWritten :=
  cs.foldl (note handle) w

def Has (w : CascadeWritten) (s : CascadeSettings) : Prop :=
  w.halfExtent = some s.halfExtent ∧ w.resolution = some s.resolution ∧
    w.octantCount = some s.octantCount ∧ w.thinWallCounter = some s.thinWallCounter

variable {handle : CascadeHandle} {w : CascadeWritten}

theorem notes_append (first second : List Call) :
    notes handle w (first ++ second) = notes handle (notes handle w first) second :=
  List.foldl_append

theorem notes_of_forall {cs : List Call} (others : ∀ c ∈ cs, ∀ u, note handle u c = u) :
    notes handle w cs = w := by
  induction cs with
  | nil => rfl
  | cons c rest ih =>
    rw [List.forall_mem_cons] at others
    change notes handle (note handle w c) rest = w
    rw [others.1]
    exact ih others.2

theorem note_of_role {c : Call} (role : c.role ≠ .cascade) : note handle w c = w := by
  cases c <;> first | rfl | exact absurd rfl role

theorem notes_of_roles {es : List Effect} (none_edits : .cascade ∉ Effect.roles es) :
    notes handle w (Effect.calls es) = w :=
  notes_of_forall fun _ called _ =>
    note_of_role fun role => none_edits (List.mem_map.mpr ⟨_, called, role⟩)

theorem notes_own (e : CascadeEntry) (w : CascadeWritten) :
    (notes e.handle w (Effect.calls e.effects)).Has e.settings := by
  simp [notes, CascadeEntry.calls_effects, CascadeSettings.writes, note, take, Has]

theorem notes_other {e : CascadeEntry} (other : e.handle ≠ handle) (w : CascadeWritten) :
    notes handle w (Effect.calls e.effects) = w := by
  refine notes_of_forall ?_
  rw [CascadeEntry.calls_effects, List.forall_mem_map]
  exact fun _ _ _ => if_neg other

theorem notes_stack_stranger {cascades : CascadeStack} (stranger : handle ∉ cascades.handles)
    (w : CascadeWritten) : notes handle w (Effect.calls cascades.effects) = w := by
  refine notes_of_forall fun c called u => ?_
  obtain ⟨e, inside, write, rfl⟩ := CascadeStack.mem_calls_effects called
  exact if_neg fun same => stranger (List.mem_map.mpr ⟨e, inside, same⟩)

theorem notes_stack {cascades : CascadeStack} (nodup : cascades.handles.Nodup) {e : CascadeEntry}
    (inside : e ∈ cascades.entries) (w : CascadeWritten) :
    (notes e.handle w (Effect.calls cascades.effects)).Has e.settings := by
  obtain ⟨entries⟩ := cascades
  induction entries generalizing w with
  | nil => contradiction
  | cons first rest ih =>
    obtain ⟨new, nodup⟩ := List.nodup_cons.mp nodup
    change (notes e.handle w (Effect.calls (first.effects ++ CascadeStack.effects ⟨rest⟩))).Has _
    rw [Effect.calls_append, notes_append]
    rcases List.mem_cons.mp inside with rfl | inside
    · -- what comes after it does not reach it
      have stranger : e.handle ∉ CascadeStack.handles ⟨rest⟩ := new
      rw [notes_stack_stranger stranger]
      exact notes_own e w
    · exact ih _ nodup inside

end CascadeWritten

def writtenTo (id : String) (handle : CascadeHandle) (deeds : List Entry) : CascadeWritten :=
  CascadeWritten.notes handle {} (deeds.filterMap (Entry.callTo? id))

theorem writtenTo_append (id : String) (handle : CascadeHandle) (ds : List Entry)
    (es : List Effect) :
    writtenTo id handle (ds ++ Effect.deeds id es) =
      CascadeWritten.notes handle (writtenTo id handle ds) (Effect.calls es) := by
  simp [writtenTo, CascadeWritten.notes_append]

theorem written_append (id : String) (ds : List Entry) (es : List Effect) :
    written id (ds ++ Effect.deeds id es) = (written id ds).notes (Effect.calls es) := by
  simp [written, Written.notes_append]

def CascadeStack.HandedOver (s : CascadeStack) (id : String) (deeds : List Entry) : Prop :=
  ∀ e ∈ s.entries, (writtenTo id e.handle deeds).Has e.settings

namespace CascadeStack.HandedOver

variable {cascades : CascadeStack} {id : String} {ds : List Entry}

theorem append {es : List Effect} (h : cascades.HandedOver id ds)
    (none_edits : .cascade ∉ Effect.roles es) :
    cascades.HandedOver id (ds ++ Effect.deeds id es) := by
  intro e inside
  rw [writtenTo_append, CascadeWritten.notes_of_roles none_edits]
  exact h e inside

theorem preamble (nodup : cascades.handles.Nodup) (s : Settings) (ds : List Entry) :
    cascades.HandedOver id (ds ++ Effect.deeds id (s.rebuildPreamble cascades false)) := by
  intro e inside
  rw [writtenTo_append, Settings.rebuildPreamble, Effect.calls_append,
    CascadeWritten.notes_append]
  exact CascadeWritten.notes_stack nodup inside _

/-- Once the scene is to be voxelised, the cascades are handed over. A started volume had them
before. -/
theorem summoned {wasStarted : Bool} (nodup : cascades.handles.Nodup)
    (handed : wasStarted = true → cascades.HandedOver id ds) (s : Settings)
    (alive : Camera → Bool) :
    cascades.HandedOver id (ds ++ Effect.deeds id
      (s.rebuildPreamble cascades wasStarted ++ s.summons wasStarted alive)) := by
  rw [Effect.deeds_append, ← List.append_assoc]
  cases wasStarted with
  | false =>
    refine (preamble nodup s ds).append ?_
    rw [Settings.roles_summons]
    decide
  | true =>
    refine ((handed rfl).append ?_).append ?_
    · rw [Settings.roles_preamble, if_pos rfl]
      decide
    · rw [Settings.roles_summons]
      decide

end CascadeStack.HandedOver

namespace Written

theorem has_rebuildPreamble (w : Written) (s : Settings) (cascades : CascadeStack)
    (wasStarted : Bool) :
    (w.notes (Effect.calls (s.rebuildPreamble cascades wasStarted))).HasGrids s ∧
      (w.notes (Effect.calls (s.rebuildPreamble cascades wasStarted))).HasLighting s := by
  rw [Settings.rebuildPreamble, Effect.calls_append, notes_append]
  cases wasStarted
  · change (notes _ (Effect.calls cascades.effects)).HasGrids s ∧
      (notes _ (Effect.calls cascades.effects)).HasLighting s
    rw [notes_chores _ cascades.chores]
    exact ⟨⟨rfl, rfl⟩, rfl, rfl, rfl, rfl, rfl⟩
  · exact ⟨⟨rfl, rfl⟩, rfl, rfl, rfl, rfl, rfl⟩

theorem has_summons (w : Written) (s : Settings) (cascades : CascadeStack) (wasStarted : Bool)
    (alive : Camera → Bool) :
    (w.notes (Effect.calls (s.rebuildPreamble cascades wasStarted ++
        s.summons wasStarted alive))).HasGrids s ∧
      (w.notes (Effect.calls (s.rebuildPreamble cascades wasStarted ++
        s.summons wasStarted alive))).HasLighting s := by
  have kept (u : Written) : u.notes (Effect.calls (s.summons wasStarted alive)) = u := by
    cases wasStarted <;> rfl
  rw [Effect.calls_append, notes_append, kept]
  exact w.has_rebuildPreamble s cascades wasStarted

end Written

theorem Desk.workEffects_building {d : Desk} (owed : d.draft.pending = .rebuild)
    (wanted : d.settings.enabled = true) (scene : Scene) :
    ∃ now, d.workEffects scene =
      (d.settings.rebuildPreamble d.cascades scene.volume.started ++
        d.settings.summons scene.volume.started scene.holds) ++
      .call .build :: .call (.setActive true) :: .note .rebuilt ::
        d.settings.afterRebuild scene.volume.started now := by
  simp only [workEffects, owed, Settings.rebuildEffects, wanted, if_true, Settings.activation,
    Settings.rebuildPreamble, Settings.summons, List.append_assoc, List.cons_append,
    List.nil_append]
  exact ⟨_, rfl⟩

end VoxelGI
