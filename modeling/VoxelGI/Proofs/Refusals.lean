import VoxelGI.Proofs.Announcements
import VoxelGI.Proofs.Decisions

/-! Refusals. A command that is refused leaves the desk and the renderer as they are and calls nothing;
only a camera that is not found is complained about to the subscribers. What happens next depends on
the desk and the renderer alone, so after a refusal everything goes on as if it had not happened. -/
namespace VoxelGI

def Command.refusedBy : Command → Reply → Bool
  | .setEnabled _, .verdict false | .assign _, .verdict false | .bindCamera _, .verdict false
  | .removeLastCascade, .verdict false | .updateCascade _ _, .verdict false => true
  | .addCascade, .created none => true
  | .readCascade _, .fault _ | .updateCascade _ _, .fault _ => true
  | _, _ => false

theorem Command.verdict_false {k : Command} {accepted : Bool}
    (refused : k.refusedBy (.verdict accepted) = true) : accepted = false := by
  cases accepted with
  | false => rfl
  | true => cases k <;> contradiction

theorem Command.created_none {created : Option CascadeSettings}
    (refused : addCascade.refusedBy (.created created) = true) : created = none := by
  cases created with
  | none => rfl
  | some settings => contradiction

/-- What the subscribers hear when a command is refused: the list of cameras is out of date if one was
not found. -/
def Command.complaint : Command → List Event
  | .bindCamera _ => [.cameraListChanged]
  | _ => []

structure Decision.Declines (r : Decision Desk α) (d : Desk) (told : List Event) : Prop where
  state : r.state = d
  calls : Effect.calls r.effects = []
  events : Effect.events r.effects = told

namespace Desk

variable {d : Desk} {alive : Camera → Bool} {volume : Option Volume}

theorem setEnabled_declines {enabled : Bool}
    (refused : (d.setEnabled alive enabled).answer = false) :
    (d.setEnabled alive enabled).Declines d [] := by
  revert refused
  unfold setEnabled
  split
  · exact fun _ => ⟨rfl, rfl, rfl⟩
  · exact nofun

theorem assign_declines {a : Assignment} (refused : (d.assign a).answer = false) :
    (d.assign a).Declines d [] := by
  refine ⟨?_, d.draft.calls_assign a, d.draft.events_assign a⟩
  have kept : (d.draft.assign a).answer = false → (d.draft.assign a).state = d.draft := by
    cases a with
    | resolution | resolutionAxis =>
      simp only [Draft.assign, Draft.assignResolution]
      split
      · exact fun accepted => Bool.noConfusion accepted
      · exact fun _ => rfl
    | octantCount | octantCountAxis =>
      simp only [Draft.assign, Draft.assignOctantCount]
      split
      · exact fun accepted => Bool.noConfusion accepted
      · exact fun _ => rfl
    | bounceCount | highQuality | anisotropic | conserveMemory | thinWallCounter =>
      exact fun accepted => Bool.noConfusion accepted
    | overlay overlay =>
      simp only [Draft.assign]
      split
      · exact fun _ => rfl
      · exact fun accepted => Bool.noConfusion accepted
  simp only [assign, kept refused]

theorem addCascade_declines (refused : (d.addCascade volume).answer = none) :
    (d.addCascade volume).Declines d [] := by
  revert refused
  unfold addCascade CascadeStack.add
  dsimp only
  split
  · exact fun _ => ⟨rfl, rfl, rfl⟩
  · exact nofun

theorem removeLastCascade_declines (refused : (d.removeLastCascade volume).answer = false) :
    (d.removeLastCascade volume).Declines d [] := by
  revert refused
  unfold removeLastCascade CascadeStack.removeLast
  dsimp only
  split
  · exact fun _ => ⟨rfl, rfl, rfl⟩
  · split
    · exact fun _ => ⟨rfl, rfl, rfl⟩
    · exact nofun

theorem updateCascade_declines {index : Nat} {change : CascadeSettings → CascadeSettings}
    (refused : (d.updateCascade volume index change).answer ≠ .ok true) :
    (d.updateCascade volume index change).Declines d [] := by
  revert refused
  unfold updateCascade CascadeStack.update
  dsimp only
  split
  · exact fun _ => ⟨rfl, rfl, rfl⟩
  · split
    · exact fun edited => absurd rfl edited
    · exact fun _ => ⟨rfl, rfl, rfl⟩

theorem bindCamera_declines {name : String} (refused : (d.bindCamera alive name).answer = false) :
    (d.bindCamera alive name).Declines d [.cameraListChanged] := by
  revert refused
  unfold bindCamera
  split
  · exact nofun
  · exact fun _ => ⟨rfl, rfl, rfl⟩

end Desk

namespace Session

/-- Two sessions that differ in their logs and in what is in the mailboxes at most. -/
structure Alike (s t : Session) : Prop where
  desk : t.desk = s.desk
  renderer : t.renderer = s.renderer
  ownedByPanel : t.ownedByPanel = s.ownedByPanel
  isOpen : t.isOpen = s.isOpen
  mailboxes : t.outlet.events.mailboxes.length = s.outlet.events.mailboxes.length

structure LeftAlone (s t : Session) (told : List Event) : Prop extends s.Alike t where
  deeds : t.outlet.deeds = s.outlet.deeds ++ told.map .event
  events : t.outlet.events = told.foldl Broadcast.publish s.outlet.events

variable {s t : Session} {ref : SceneRef} {scene : Scene}

theorem LeftAlone.refl (s : Session) : s.LeftAlone s [] :=
  ⟨⟨rfl, rfl, rfl, rfl, rfl⟩, (List.append_nil _).symm, rfl⟩

theorem adopt_declined {r : Decision Desk α} {told : List Event} (declines : r.Declines s.desk told) :
    s.LeftAlone (s.adopt r) told := by
  obtain ⟨state, calls, rfl⟩ := declines
  have length := s.outlet.events.length_published (Effect.events r.effects)
  cases here : s.scene? with
  | none =>
    unfold adopt
    rw [here]
    refine ⟨⟨state, rfl, rfl, rfl, ?_⟩, ?_, Outlet.events_perform ..⟩
    · rw [Outlet.events_perform, length]
    · rw [Outlet.deeds_perform, Effect.announcements_eq]
  | some p =>
    obtain ⟨ref, scene⟩ := p
    rw [adopt_eq_carryOut here]
    refine ⟨⟨state, ?_, rfl, rfl, ?_⟩, ?_, Stage.events_perform ..⟩
    · change s.renderer.putScene ref (Stage.perform _ _).scene = _
      rw [Stage.scene_perform, calls]
      exact Renderer.putScene_self (scene?_there here)
    · exact (congrArg (·.mailboxes.length)
        (Stage.events_perform ⟨scene, s.outlet⟩ r.effects)).trans length
    · exact (Stage.deeds_perform ..).trans
        (congrArg (s.outlet.deeds ++ ·) (Effect.deeds_of_calls calls scene.id))

theorem refused_leaves_alone {k : Command} (refused : k.refusedBy (s.obey k).2 = true) :
    s.LeftAlone (s.obey k).1 k.complaint := by
  cases k with
  | tick | requestRefresh | listCameras | subscribe | release | close => contradiction
  | setEnabled enabled =>
    exact adopt_declined (Desk.setEnabled_declines (Command.verdict_false refused))
  | assign a => exact adopt_declined (Desk.assign_declines (Command.verdict_false refused))
  | addCascade =>
    exact adopt_declined (Desk.addCascade_declines (Command.created_none refused))
  | removeLastCascade =>
    exact adopt_declined (Desk.removeLastCascade_declines (Command.verdict_false refused))
  | bindCamera name =>
    exact adopt_declined (Desk.bindCamera_declines (Command.verdict_false refused))
  | readCascade index =>
    unfold obey
    dsimp only
    split <;> exact .refl s
  | updateCascade index change =>
    revert refused
    unfold obey
    dsimp only
    split
    · rename_i accepted answer
      intro refused
      obtain rfl := Command.verdict_false refused
      exact adopt_declined (Desk.updateCascade_declines (by rw [answer]; exact nofun))
    · rename_i fault answer
      intro _
      exact adopt_declined (Desk.updateCascade_declines (by rw [answer]; exact nofun))

structure Repeats (s s' t t' : Session) : Prop extends s'.Alike t' where
  deeds : ∃ ds, s'.outlet.deeds = s.outlet.deeds ++ ds ∧ t'.outlet.deeds = t.outlet.deeds ++ ds

theorem Alike.with_outlet (h : s.Alike t) : t = { s with outlet := t.outlet } := by
  obtain ⟨desk, renderer, outlet, ownedByPanel, isOpen⟩ := t
  obtain ⟨rfl, rfl, rfl, rfl, _⟩ := h
  rfl

theorem Alike.carryOut (h : s.Alike t) (ref : SceneRef) (scene : Scene) (r : Decision Desk α) :
    Repeats s (s.carryOut ref scene r) t (t.carryOut ref scene r) := by
  have mailboxes (o : Outlet) :
      (Stage.perform ⟨scene, o⟩ r.effects).outlet.events.mailboxes.length =
        o.events.mailboxes.length := by
    rw [Stage.events_perform]
    exact Broadcast.length_published ..
  have same_scene (o o' : Outlet) : (Stage.perform ⟨scene, o⟩ r.effects).scene =
      (Stage.perform ⟨scene, o'⟩ r.effects).scene := by
    rw [Stage.scene_perform, Stage.scene_perform]
  refine ⟨⟨rfl, ?_, h.ownedByPanel, h.isOpen, ?_⟩, _, Stage.deeds_perform .., Stage.deeds_perform ..⟩
  · change t.renderer.putScene ref _ = s.renderer.putScene ref _
    rw [h.renderer, same_scene]
  · exact (mailboxes _).trans (h.mailboxes.trans (mailboxes _).symm)

theorem Alike.tell (h : s.Alike t) (d : Desk) (es : List Effect) :
    Repeats s { s with desk := d, outlet := s.outlet.perform es }
      t { t with desk := d, outlet := t.outlet.perform es } := by
  have mailboxes (o : Outlet) :
      (o.perform es).events.mailboxes.length = o.events.mailboxes.length := by
    rw [Outlet.events_perform]
    exact Broadcast.length_published ..
  refine ⟨⟨rfl, h.renderer, h.ownedByPanel, h.isOpen, ?_⟩, _, Outlet.deeds_perform ..,
    Outlet.deeds_perform ..⟩
  exact (mailboxes _).trans (h.mailboxes.trans (mailboxes _).symm)

theorem Alike.scene? (h : s.Alike t) : t.scene? = s.scene? := by
  rw [h.with_outlet]
  rfl

theorem Alike.adopt (h : s.Alike t) (r : Decision Desk α) : Repeats s (s.adopt r) t (t.adopt r) := by
  cases here : s.scene? with
  | none =>
    have told := h.tell r.state r.effects
    unfold Session.adopt
    rwa [h.scene?, here]
  | some p =>
    rw [adopt_eq_carryOut here, adopt_eq_carryOut (h.scene?.trans here)]
    exact h.carryOut p.1 p.2 r

theorem Alike.still (h : s.Alike t) : Repeats s s t t :=
  ⟨h, [], (List.append_nil _).symm, (List.append_nil _).symm⟩

theorem Repeats.trans {s' s'' t' t'' : Session} (first : Repeats s s' t t')
    (second : Repeats s' s'' t' t'') : Repeats s s'' t t'' := by
  obtain ⟨ds, done, done'⟩ := first.deeds
  obtain ⟨more, then_done, then_done'⟩ := second.deeds
  refine ⟨second.toAlike, ds ++ more, ?_, ?_⟩
  · rw [then_done, done, List.append_assoc]
  · rw [then_done', done', List.append_assoc]

theorem Alike.tick (h : s.Alike t) : Repeats s s.tick.1 t t.tick.1 ∧ t.tick.2 = s.tick.2 := by
  obtain ⟨o, rfl⟩ : ∃ o, t = { s with outlet := o } := ⟨_, h.with_outlet⟩
  have acting {work : Bench → Bench × Option Pending} (settled : Bench.Settled work) {u u' : Session}
      (same : u.Alike u') (ref : SceneRef) (scene : Scene) :
      Repeats u (u.atScene ref scene work).1 u' (u'.atScene ref scene work).1 ∧
        (u'.atScene ref scene work).2 = (u.atScene ref scene work).2 := by
    obtain ⟨policy, answer, acts⟩ := atScene_settled settled
    rw [acts u, acts u', same.desk]
    exact ⟨same.carryOut .., rfl⟩
  -- in every phase a tick does nothing, tells something or carries out one decision
  unfold Session.tick
  dsimp only
  cases s.desk.phase with
  | withdrawn => exact ⟨h.still, rfl⟩
  | released ref => exact ⟨h.tell s.desk [.note .volumeMissing], rfl⟩
  | working ref =>
    dsimp only
    cases s.renderer.scene? ref with
    | none => exact ⟨h.still, rfl⟩
    | some scene => exact acting Bench.tick_settled h ref scene
  | waiting plan =>
    dsimp only
    have quiet := h.tell s.desk (s.renderer.discover.notices.map .note)
    cases found : s.renderer.discover.found with
    | none =>
      rw [firstTick_unready plan found, firstTick_unready (s := { s with outlet := o }) plan found]
      exact ⟨quiet, rfl⟩
    | some p =>
      obtain ⟨ref, scene⟩ := p
      rw [firstTick_ready plan found, firstTick_ready (s := { s with outlet := o }) plan found]
      obtain ⟨acted, same⟩ :=
        acting (Bench.takeOver_settled ref scene.supportsGi plan) quiet.toAlike ref scene
      exact ⟨quiet.trans acted, same⟩

theorem Alike.obey (h : s.Alike t) (k : Command) :
    Repeats s (s.obey k).1 t (t.obey k).1 ∧ (t.obey k).2 = (s.obey k).2 := by
  obtain ⟨o, rfl⟩ : ∃ o, t = { s with outlet := o } := ⟨_, h.with_outlet⟩
  cases k with
  | tick =>
    obtain ⟨acted, same⟩ := h.tick
    refine ⟨acted, ?_⟩
    change Reply.ticked ⟨(Session.tick _).1.desk.phase, (Session.tick _).2⟩ = _
    rw [acted.desk, same]
    rfl
  | setEnabled | assign | addCascade | removeLastCascade | bindCamera | release =>
    exact ⟨h.adopt _, rfl⟩
  | readCascade index =>
    unfold Session.obey
    dsimp only
    split <;> exact ⟨h.still, rfl⟩
  | updateCascade index change =>
    unfold Session.obey
    dsimp only
    rw [show ({ s with outlet := o } : Session).volume? = s.volume? from rfl]
    split <;> exact ⟨h.adopt _, rfl⟩
  | requestRefresh => exact ⟨h.tell s.desk.requestRefresh [], rfl⟩
  | listCameras => exact ⟨h.still, rfl⟩
  | subscribe =>
    refine ⟨⟨⟨rfl, rfl, rfl, rfl, ?_⟩, [], ?_, ?_⟩, congrArg Reply.subscriber h.mailboxes⟩
    · have length (b : Broadcast Event) : b.subscribe.mailboxes.length = b.mailboxes.length + 1 :=
        List.length_append
      exact (length _).trans ((congrArg (· + 1) h.mailboxes).trans (length _).symm)
    · exact (List.append_nil _).symm
    · exact (List.append_nil _).symm
  | close =>
    have let_go : Repeats s (if s.ownedByPanel then s.adopt s.desk.release else s)
        { s with outlet := o } (if s.ownedByPanel
          then ({ s with outlet := o } : Session).adopt s.desk.release
          else { s with outlet := o }) := by
      split
      · exact h.adopt _
      · exact h.still
    exact ⟨⟨⟨let_go.desk, let_go.renderer, let_go.ownedByPanel, rfl, let_go.mailboxes⟩,
      let_go.deeds⟩, rfl⟩

theorem Alike.step (h : s.Alike t) (x : Step) :
    Repeats s (s.step x).1 t (t.step x).1 ∧ (t.step x).2 = (s.step x).2 := by
  cases x with
  | outside e =>
    obtain ⟨o, rfl⟩ : ∃ o, t = { s with outlet := o } := ⟨_, h.with_outlet⟩
    have told := h.tell s.desk ((outsideNotice? s.renderer e).toList.map .note)
    exact ⟨⟨⟨rfl, rfl, rfl, rfl, told.mailboxes⟩, told.deeds⟩, rfl⟩
  | command k =>
    cases obeys : s.isOpen with
    | true =>
      rw [step_obeys obeys, step_obeys (h.isOpen.trans obeys)]
      exact h.obey k
    | false =>
      rw [step_closed obeys, step_closed (h.isOpen.trans obeys)]
      exact ⟨h.still, rfl⟩

def replies : Session → List Step → List Reply
  | _, [] => []
  | s, x :: rest => (s.step x).2 :: (s.step x).1.replies rest

theorem Alike.run (h : s.Alike t) (steps : List Step) :
    Repeats s (s.run steps) t (t.run steps) ∧ t.replies steps = s.replies steps := by
  -- by induction on the run: a step does the same in both sessions and leaves them alike
  induction steps generalizing s t with
  | nil => exact ⟨h.still, rfl⟩
  | cons x rest ih =>
    obtain ⟨done, reply⟩ := h.step x
    obtain ⟨more, replies⟩ := ih done.toAlike
    refine ⟨done.trans more, ?_⟩
    rw [Session.replies, Session.replies, reply, replies]

/-- A command that is refused changes neither the desk nor the renderer; it calls nothing and tells the
subscribers nothing, except that the list of cameras is out of date if a camera was not found. Whatever
happens next is answered, decided, called and told as if the command had not been given. -/
theorem refusal_changes_nothing {s : Session} {k : Command}
    (refused : k.refusedBy (s.step (.command k)).2 = true) :
    let t := (s.step (.command k)).1
    (t.desk = s.desk ∧ t.renderer = s.renderer ∧ t.isOpen = s.isOpen) ∧
      t.outlet.deeds = s.outlet.deeds ++ k.complaint.map .event ∧
      t.outlet.events = k.complaint.foldl Broadcast.publish s.outlet.events ∧
      ∀ later, t.replies later = s.replies later ∧
        (t.run later).desk = (s.run later).desk ∧ (t.run later).renderer = (s.run later).renderer ∧
        ∃ ds, (s.run later).outlet.deeds = s.outlet.deeds ++ ds ∧
          (t.run later).outlet.deeds = t.outlet.deeds ++ ds := by
  intro t
  have alone : s.LeftAlone t k.complaint := by
    cases obeys : s.isOpen with
    | true =>
      rw [step_obeys obeys] at refused
      have same : t = (s.obey k).1 := congrArg Prod.fst (step_obeys obeys k)
      rw [same]
      exact refused_leaves_alone refused
    | false =>
      rw [step_closed obeys] at refused
      cases k <;> contradiction
  refine ⟨⟨alone.desk, alone.renderer, alone.isOpen⟩, alone.deeds, alone.events, fun later => ?_⟩
  obtain ⟨repeated, replies⟩ := alone.run later
  exact ⟨replies, repeated.desk, repeated.renderer, repeated.deeds⟩

theorem refusal_changes_nothing_camera :
    let s := (onOneScene { cascades := [{}] }).run [.command .tick]
    let t := (s.step (.command (.bindCamera "nobody"))).1
    let later := [.command (.setEnabled true), .command .tick]
    (s.step (.command (.bindCamera "nobody"))).2 = .verdict false ∧ t.desk = s.desk ∧
      t.renderer = s.renderer ∧ t.outlet.deeds = s.outlet.deeds ++ [.event .cameraListChanged] ∧
      t.replies later = [.verdict true, .ticked ⟨.working 0, some .rebuild⟩] := by
  intro s t later
  have refused : (s.step (.command (.bindCamera "nobody"))).2 = .verdict false := by decide
  have answers : s.replies later = [.verdict true, .ticked ⟨.working 0, some .rebuild⟩] := by
    decide
  obtain ⟨⟨desk, renderer, _⟩, deeds, _, goes_on⟩ :=
    refusal_changes_nothing (k := .bindCamera "nobody") (by rw [refused]; rfl)
  exact ⟨refused, desk, renderer, deeds, (goes_on later).1.trans answers⟩

end Session

end VoxelGI
