import VoxelGI.Stage

/-! The journal without what the log was told: the deeds of the control side are the calls it made
and the events it published, in order. Performing effects appends their deeds to the journal and
applies their calls to the scene. -/
namespace VoxelGI

/-- A call or an event, as opposed to a notice. -/
def Entry.isDeed : Entry → Bool
  | .notice _ => false
  | _ => true

def Entry.call? : Entry → Option Call
  | .call _ c => some c
  | _ => none

def Entry.callTo? (id : String) : Entry → Option Call
  | .call id' c => if id' = id then some c else none
  | _ => none

@[simp] theorem Entry.filter_isDeed_notices (ns : List Notice) :
    (ns.map Entry.notice).filter Entry.isDeed = [] := by
  simp [List.filter_eq_nil_iff, isDeed]

namespace Effect

def call? : Effect → Option Call
  | .call c => some c
  | _ => none

def calls (es : List Effect) : List Call := es.filterMap call?

def deed? (id : String) : Effect → Option Entry
  | .call c => some (.call id c)
  | .publish e => some (.event e)
  | .note _ => none

def deeds (id : String) (es : List Effect) : List Entry := es.filterMap (deed? id)

def announcement? : Effect → Option Entry
  | .publish e => some (.event e)
  | _ => none

def announcements (es : List Effect) : List Entry := es.filterMap announcement?

@[simp] theorem calls_nil : calls [] = [] := rfl

@[simp] theorem calls_call (c : Call) (es : List Effect) :
    calls (.call c :: es) = c :: calls es := rfl

@[simp] theorem calls_publish (e : Event) (es : List Effect) :
    calls (.publish e :: es) = calls es := rfl

@[simp] theorem calls_note (n : Notice) (es : List Effect) :
    calls (.note n :: es) = calls es := rfl

@[simp] theorem calls_append (first second : List Effect) :
    calls (first ++ second) = calls first ++ calls second :=
  List.filterMap_append

@[simp] theorem deeds_nil (id : String) : deeds id [] = [] := rfl

@[simp] theorem deeds_call (id : String) (c : Call) (es : List Effect) :
    deeds id (.call c :: es) = .call id c :: deeds id es := rfl

@[simp] theorem deeds_publish (id : String) (e : Event) (es : List Effect) :
    deeds id (.publish e :: es) = .event e :: deeds id es := rfl

@[simp] theorem deeds_note (id : String) (n : Notice) (es : List Effect) :
    deeds id (.note n :: es) = deeds id es := rfl

@[simp] theorem deeds_append (id : String) (first second : List Effect) :
    deeds id (first ++ second) = deeds id first ++ deeds id second :=
  List.filterMap_append

@[simp] theorem calls_notes (ns : List Notice) : calls (ns.map .note) = [] := by
  have none_called : call? ∘ note = fun _ => none := rfl
  rw [calls, List.filterMap_map, none_called]
  simp

@[simp] theorem deeds_notes (id : String) (ns : List Notice) :
    deeds id (ns.map .note) = [] := by
  have none_done : deed? id ∘ note = fun _ => none := rfl
  rw [deeds, List.filterMap_map, none_done]
  simp

@[simp] theorem filterMap_call_deeds (id : String) (es : List Effect) :
    (deeds id es).filterMap Entry.call? = calls es := by
  rw [deeds, List.filterMap_filterMap]
  apply congrArg (List.filterMap · es)
  funext e
  cases e <;> rfl

theorem mem_calls_of_deeds {id id' : String} {c : Call} {es : List Effect}
    (done : .call id c ∈ deeds id' es) : c ∈ calls es := by
  rw [← filterMap_call_deeds id']
  exact List.mem_filterMap.mpr ⟨_, done, rfl⟩

@[simp] theorem filterMap_callTo_deeds (id : String) (es : List Effect) :
    (deeds id es).filterMap (Entry.callTo? id) = calls es := by
  rw [deeds, List.filterMap_filterMap]
  apply congrArg (List.filterMap · es)
  funext e
  cases e <;> simp [deed?, call?, Entry.callTo?]

@[simp] theorem filterMap_call_announcements (es : List Effect) :
    (announcements es).filterMap Entry.call? = [] := by
  rw [announcements, List.filterMap_filterMap, List.filterMap_eq_nil_iff]
  intro e _
  cases e <;> rfl

end Effect

namespace Outlet

def deeds (o : Outlet) : List Entry := o.journal.filter Entry.isDeed

def calls (o : Outlet) : List Call := o.deeds.filterMap Entry.call?

theorem calls_of_deeds {o o' : Outlet} (same : o'.deeds = o.deeds) : o'.calls = o.calls := by
  rw [calls, same]
  rfl

@[simp] theorem deeds_note (o : Outlet) (n : Notice) : (o.note n).deeds = o.deeds := by
  simp [deeds, note, record, Entry.isDeed]

@[simp] theorem deeds_publish (o : Outlet) (e : Event) :
    (o.publish e).deeds = o.deeds ++ [.event e] := by
  rw [deeds, publish, List.filter_append, List.filter_cons_of_pos rfl, Entry.filter_isDeed_notices]
  rfl

theorem deeds_perform1 (o : Outlet) (e : Effect) :
    (o.perform1 e).deeds = o.deeds ++ e.announcement?.toList := by
  cases e <;> simp [perform1, Effect.announcement?]

theorem deeds_perform (o : Outlet) (es : List Effect) :
    (o.perform es).deeds = o.deeds ++ Effect.announcements es := by
  induction es generalizing o with
  | nil => exact (List.append_nil _).symm
  | cons e rest ih =>
    change ((o.perform1 e).perform rest).deeds = _
    rw [ih, deeds_perform1, List.append_assoc]
    cases e <;> rfl

@[simp] theorem deeds_perform_notes (o : Outlet) (ns : List Notice) :
    (o.perform (ns.map .note)).deeds = o.deeds := by
  have silent : Effect.announcement? ∘ Effect.note = fun _ => none := rfl
  rw [deeds_perform, Effect.announcements, List.filterMap_map, silent]
  simp

end Outlet

namespace Scene

def applyAll (s : Scene) (cs : List Call) : Scene := cs.foldl apply s

@[simp] theorem applyAll_nil (s : Scene) : s.applyAll [] = s := rfl

@[simp] theorem applyAll_cons (s : Scene) (c : Call) (cs : List Call) :
    s.applyAll (c :: cs) = (s.apply c).applyAll cs := rfl

theorem applyAll_append (s : Scene) (first second : List Call) :
    s.applyAll (first ++ second) = (s.applyAll first).applyAll second :=
  List.foldl_append

theorem apply_setActive (s : Scene) (active : Bool) : s.apply (.setActive active) =
    if s.activationWorks then { s with volume := { s.volume with active := active } } else s := rfl

theorem apply_start (s : Scene) (bounces : UInt32) (anisotropic : Bool) :
    s.apply (.start bounces anisotropic) =
      if s.startWorks then { s with volume := { s.volume with started := true } } else s := rfl

theorem apply_volume (s : Scene) (c : Call) :
    s.apply c = { s with volume := (s.apply c).volume } := by
  cases c with
  | setActive active =>
    rw [apply_setActive]
    split <;> rfl
  | start bounces anisotropic =>
    rw [apply_start]
    split <;> rfl
  | _ => rfl

@[simp] theorem apply_id (s : Scene) (c : Call) : (s.apply c).id = s.id := by
  rw [apply_volume]

@[simp] theorem apply_cameras (s : Scene) (c : Call) : (s.apply c).cameras = s.cameras := by
  rw [apply_volume]

@[simp] theorem apply_hidden (s : Scene) (c : Call) : (s.apply c).hidden = s.hidden := by
  rw [apply_volume]

theorem applyAll_keeps {α : Type} (view : Scene → α) (cs : List Call)
    (keeps : ∀ c ∈ cs, ∀ s : Scene, view (s.apply c) = view s) (s : Scene) :
    view (s.applyAll cs) = view s := by
  induction cs generalizing s with
  | nil => rfl
  | cons c rest ih =>
    rw [applyAll_cons, ih fun c' h => keeps c' (List.mem_cons_of_mem c h)]
    exact keeps c List.mem_cons_self s

@[simp] theorem applyAll_id (s : Scene) (cs : List Call) : (s.applyAll cs).id = s.id :=
  applyAll_keeps Scene.id cs (fun c _ s => apply_id s c) s

@[simp] theorem applyAll_cameras (s : Scene) (cs : List Call) :
    (s.applyAll cs).cameras = s.cameras :=
  applyAll_keeps Scene.cameras cs (fun c _ s => apply_cameras s c) s

@[simp] theorem applyAll_holds (s : Scene) (cs : List Call) : (s.applyAll cs).holds = s.holds := by
  apply applyAll_keeps Scene.holds cs
  intro c _ s
  funext camera
  simp [holds]

end Scene

namespace Stage

theorem deeds_call (st : Stage) (c : Call) :
    (st.call c).outlet.deeds = st.outlet.deeds ++ [.call st.scene.id c] := by
  rw [call, Outlet.deeds, Outlet.record, List.filter_append, List.filter_cons_of_pos rfl,
    Entry.filter_isDeed_notices, Scene.apply_id]
  rfl

theorem scene_perform1 (st : Stage) (e : Effect) :
    (st.perform1 e).scene = st.scene.applyAll (Effect.calls [e]) := by
  cases e <;> rfl

theorem deeds_perform1 (st : Stage) (e : Effect) :
    (st.perform1 e).outlet.deeds = st.outlet.deeds ++ (e.deed? st.scene.id).toList := by
  cases e <;> simp [perform1, deeds_call, Effect.deed?]

theorem scene_perform (st : Stage) (es : List Effect) :
    (st.perform es).scene = st.scene.applyAll (Effect.calls es) := by
  induction es generalizing st with
  | nil => rfl
  | cons e rest ih =>
    change ((st.perform1 e).perform rest).scene = _
    rw [ih, scene_perform1, ← Scene.applyAll_append, ← Effect.calls_append]
    rfl

theorem deeds_perform (st : Stage) (es : List Effect) :
    (st.perform es).outlet.deeds = st.outlet.deeds ++ Effect.deeds st.scene.id es := by
  induction es generalizing st with
  | nil => simp
  | cons e rest ih =>
    change ((st.perform1 e).perform rest).outlet.deeds = _
    rw [ih, deeds_perform1, scene_perform1, Scene.applyAll_id, List.append_assoc]
    cases e <;> rfl

end Stage

end VoxelGI
