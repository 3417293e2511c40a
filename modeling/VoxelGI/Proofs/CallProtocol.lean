import VoxelGI.Proofs.CallLaw

/-! The protocol of the calls. Every call of a run is taken together with the volume that it meets,
and the calls of every step follow one grammar: cascades are handed over to a volume that was not
told to start, a start comes right after its bind, and what needs a started volume finds one. -/
namespace VoxelGI

inductive Role where
  | bind
  | start
  | cascade
  | use
  | free
deriving DecidableEq

def Call.role : Call → Role
  | .bind _ => .bind
  | .start .. => .start
  | .addCascade .. | .popCascade | .cascade .. => .cascade
  | .build | .newSettings .. | .lightingChanged | .overlay _ => .use
  | _ => .free

structure CallProtocol (log : List (Volume × Call)) : Prop where
  startsOnce : log.Pairwise fun e f => e.2.role = .start → f.2.role ≠ .start
  startsIdle : ∀ e ∈ log, e.2.role = .start → e.1.started = false
  bindsToStart : ∀ i v camera, log[i]? = some (v, .bind camera) →
    ∃ w bounces anisotropic, log[i + 1]? = some (w, .start bounces anisotropic)
  usesStarted : ∀ e ∈ log, e.2.role = .use → e.1.started = true
  lightsActive : ∀ e ∈ log, e.2 = .lightingChanged → e.1.active = true
  freezes : log.Pairwise fun e f => e.2.role = .start → f.2.role ≠ .cascade

/-- The grammar of calls. Whether the volume was told to start is tracked from before the calls to
after them. -/
inductive Lawful : Bool → List (Volume × Call) → Bool → Prop where
  | nil {told : Bool} : Lawful told [] told
  | free {told after : Bool} {v : Volume} {c : Call} {log : List (Volume × Call)}
      (role : c.role = .free) (rest : Lawful told log after) : Lawful told ((v, c) :: log) after
  | cascade {after : Bool} {v : Volume} {c : Call} {log : List (Volume × Call)}
      (role : c.role = .cascade) (rest : Lawful false log after) :
      Lawful false ((v, c) :: log) after
  | start {after : Bool} {v w : Volume} {camera : Option Camera} {bounces : UInt32}
      {anisotropic : Bool} {log : List (Volume × Call)} (idle : w.started = false)
      (rest : Lawful true log after) :
      Lawful false ((v, .bind camera) :: (w, .start bounces anisotropic) :: log) after
  | use {told after : Bool} {v : Volume} {c : Call} {log : List (Volume × Call)}
      (role : c.role = .use) (started : v.started = true)
      (active : c = .lightingChanged → v.active = true) (rest : Lawful told log after) :
      Lawful told ((v, c) :: log) after

namespace Lawful

variable {told middle after : Bool} {log more : List (Volume × Call)}

theorem append (first : Lawful told log middle) (second : Lawful middle more after) :
    Lawful told (log ++ more) after := by
  induction first with
  | nil => exact second
  | free role _ ih => exact .free role (ih second)
  | cascade role _ ih => exact .cascade role (ih second)
  | start idle _ ih => exact .start idle (ih second)
  | use role started active _ ih => exact .use role started active (ih second)

theorem frozen (h : Lawful told log after) (already : told = true) :
    ∀ e ∈ log, e.2.role ≠ .start ∧ e.2.role ≠ .cascade := by
  induction h with
  | nil => simp
  | free role _ ih | use role _ _ _ ih =>
    rw [List.forall_mem_cons, role]
    exact ⟨⟨nofun, nofun⟩, ih already⟩
  | cascade | start => contradiction

theorem pairwise (h : Lawful told log after) : log.Pairwise fun e f =>
    e.2.role = .start → f.2.role ≠ .start ∧ f.2.role ≠ .cascade := by
  induction h with
  | nil => exact .nil
  | free role _ ih | cascade role _ ih | use role _ _ _ ih =>
    exact .cons (fun f _ starts => nomatch role.symm.trans starts) ih
  | start _ rest ih =>
    exact .cons (fun _ _ => nofun) (.cons (fun f inside _ => rest.frozen rfl f inside) ih)

theorem startsIdle (h : Lawful told log after) :
    ∀ e ∈ log, e.2.role = .start → e.1.started = false := by
  induction h with
  | nil => simp
  | free role _ ih | cascade role _ ih | use role _ _ _ ih =>
    rw [List.forall_mem_cons]
    exact ⟨fun starts => absurd (role.symm.trans starts) nofun, ih⟩
  | start idle _ ih =>
    rw [List.forall_mem_cons, List.forall_mem_cons]
    exact ⟨nofun, fun _ => idle, ih⟩

theorem usesStarted (h : Lawful told log after) :
    ∀ e ∈ log, e.2.role = .use → e.1.started = true := by
  induction h with
  | nil => simp
  | free role _ ih | cascade role _ ih =>
    rw [List.forall_mem_cons]
    exact ⟨fun uses => absurd (role.symm.trans uses) nofun, ih⟩
  | start _ _ ih =>
    rw [List.forall_mem_cons, List.forall_mem_cons]
    exact ⟨nofun, nofun, ih⟩
  | use _ started _ _ ih =>
    rw [List.forall_mem_cons]
    exact ⟨fun _ => started, ih⟩

theorem lightsActive (h : Lawful told log after) :
    ∀ e ∈ log, e.2 = .lightingChanged → e.1.active = true := by
  induction h with
  | nil => simp
  | free role _ ih | cascade role _ ih =>
    rw [List.forall_mem_cons]
    exact ⟨fun lights => absurd (role.symm.trans (congrArg Call.role lights)) nofun, ih⟩
  | start _ _ ih =>
    rw [List.forall_mem_cons, List.forall_mem_cons]
    exact ⟨nofun, nofun, ih⟩
  | use _ _ active _ ih =>
    rw [List.forall_mem_cons]
    exact ⟨active, ih⟩

theorem bindsToStart (h : Lawful told log after) (i : Nat) (v : Volume) (camera : Option Camera)
    (here : log[i]? = some (v, .bind camera)) :
    ∃ w bounces anisotropic, log[i + 1]? = some (w, .start bounces anisotropic) := by
  induction h generalizing i with
  | nil => simp at here
  | free role _ ih | cascade role _ ih | use role _ _ _ ih =>
    cases i with
    | zero =>
      cases Option.some.inj here
      contradiction
    | succ i => exact ih i here
  | start _ _ ih =>
    match i, here with
    | 0, _ => exact ⟨_, _, _, rfl⟩
    | 1, here => cases Option.some.inj here
    | i + 2, here => exact ih i here

theorem protocol (h : Lawful told log after) : CallProtocol log where
  startsOnce := h.pairwise.imp fun frozen starts => (frozen starts).1
  startsIdle := h.startsIdle
  bindsToStart := h.bindsToStart
  usesStarted := h.usesStarted
  lightsActive := h.lightsActive
  freezes := h.pairwise.imp fun frozen starts => (frozen starts).2

end Lawful

def Grammar.protocol : Grammar Bool where
  start := false
  state v := v.started
  Reads := Lawful
  nil := .nil
  append := Lawful.append

namespace Scene

variable {s : Scene}

theorem takes_iff {cs : List Call} : s.Takes .protocol cs ↔
    Lawful s.volume.started (s.meet cs) (s.applyAll cs).volume.started := Iff.rfl

theorem takes_chores {cs : List Call} (chores : ∀ c ∈ cs, c.isChore = true)
    (idle : ∀ c ∈ cs, c.role = .cascade → s.volume.started = false) : s.Takes .protocol cs := by
  induction cs generalizing s with
  | nil => exact .nil
  | cons c rest ih =>
    have chore := chores c List.mem_cons_self
    have kept : (s.apply c).volume.started = s.volume.started :=
      congrArg Status.started (status_chore chore s)
    have tail : (s.apply c).Takes .protocol rest :=
      ih (fun d h => chores d (List.mem_cons_of_mem c h))
        (fun d h role => kept.trans (idle d (List.mem_cons_of_mem c h) role))
    rw [takes_iff, kept] at tail
    cases role : c.role with
    | free => exact .free role tail
    | cascade =>
      rw [idle c List.mem_cons_self role] at tail
      rw [takes_iff, idle c List.mem_cons_self role]
      exact .cascade role tail
    | bind | start | use => cases c <;> contradiction

theorem takes_overlay (started : s.volume.started = true) (overlay : Overlay) :
    s.Takes .protocol [.overlay overlay] :=
  .use rfl started nofun .nil

theorem takes_lightingCalls (s : Scene) (k : Settings) :
    s.Takes .protocol (Effect.calls k.lightingCalls) :=
  .free rfl (.free rfl (.free rfl (.free rfl (.free rfl .nil))))

theorem takes_rebuildPreamble (s : Scene) (k : Settings) (cascades : CascadeStack) :
    s.Takes .protocol (Effect.calls (k.rebuildPreamble cascades s.volume.started)) := by
  unfold Settings.rebuildPreamble
  rw [Effect.calls_append, Effect.calls_append]
  have grids : s.Takes .protocol (Effect.calls k.gridCalls) := .free rfl (.free rfl .nil)
  refine takes_append (takes_append grids (s.takes_lightingCalls k)) ?_
  change s.Takes .protocol _
  cases running : s.volume.started with
  | false => exact takes_chores cascades.chores fun _ _ _ => running
  | true => exact takes_overlay running .off

theorem takes_activation (startable : s.startWorks = true) (k : Settings)
    (alive : Camera → Bool) {wasStarted : Bool} (was : s.volume.started = wasStarted) :
    s.Takes .protocol (Effect.calls (k.activation wasStarted alive)) := by
  subst was
  have final := congrArg Status.started (k.status_activation s alive)
  change (s.applyAll _).volume.started = (s.volume.started || s.startWorks) at final
  rw [takes_iff, final, startable, Bool.or_true]
  cases running : s.volume.started with
  | true => exact .use rfl running nofun (.use rfl running nofun (.free rfl .nil))
  | false =>
    have started : ((s.apply (.bind (k.liveCamera alive))).apply
        (.start k.bounceCount k.anisotropic)).volume.started = true := by
      have starts := congrArg Status.started
        ((s.apply (.bind (k.liveCamera alive))).status_start k.bounceCount k.anisotropic)
      refine starts.trans ?_
      change (s.startWorks || s.volume.started) = true
      rw [startable, Bool.true_or]
    exact .start running (.use rfl started nofun (.free rfl .nil))

theorem takes_deactivation (s : Scene) : s.Takes .protocol [.setActive false] := by
  have final : (s.applyAll [.setActive false]).volume.started = s.volume.started :=
    congrArg Status.started (Settings.status_deactivation s)
  rw [takes_iff, final]
  exact .free rfl .nil

theorem takes_afterRebuild (s : Scene) (k : Settings) (wasStarted : Bool) :
    s.Takes .protocol (Effect.calls (k.afterRebuild wasStarted s.volume.started)) := by
  unfold Settings.afterRebuild
  cases running : s.volume.started with
  | false => cases wasStarted <;> exact .nil
  | true => cases wasStarted <;> exact takes_overlay running k.overlay

theorem takes_relightEffects (running : s.volume.active = true → s.volume.started = true)
    (k : Settings) : s.Takes .protocol (Effect.calls (k.relightEffects s.volume)) := by
  unfold Settings.relightEffects
  rw [Effect.calls_append]
  refine takes_append (s.takes_lightingCalls k) ?_
  change s.Takes .protocol _
  cases active : s.volume.active with
  | true =>
    have started := running active
    exact .use rfl started nofun (.use rfl started (fun _ => active) (takes_overlay started k.overlay))
  | false =>
    cases started : s.volume.started with
    | true => exact takes_overlay started k.overlay
    | false => exact .nil

theorem takes_overlayEffects (s : Scene) (k : Settings) :
    s.Takes .protocol (Effect.calls (k.overlayEffects s.volume)) := by
  unfold Settings.overlayEffects
  cases started : s.volume.started with
  | true => exact takes_overlay started k.overlay
  | false => exact .nil

end Scene

theorem Settings.takes_rebuildEffects {s : Scene} (startable : s.startWorks = true)
    (k : Settings) (cascades : CascadeStack) (alive : Camera → Bool) :
    s.Takes .protocol (Effect.calls (k.rebuildEffects cascades s.volume.started alive)) := by
  have kept := k.status_rebuildPreamble cascades s.volume.started s
  have same := congrArg Scene.Status.started kept
  have starts := (congrArg Scene.Status.startWorks kept).trans startable
  unfold rebuildEffects
  rw [Effect.calls_append]
  refine Scene.takes_append (s.takes_rebuildPreamble k cascades) ?_
  change (s.applyAll (Effect.calls (k.rebuildPreamble cascades s.volume.started))).Takes .protocol _
  cases k.enabled with
  | true =>
    exact Scene.takes_activation starts k alive same
  | false => exact Scene.takes_deactivation _

theorem Desk.takes_workEffects {s : Scene} (startable : s.startWorks = true)
    (running : s.volume.active = true → s.volume.started = true) (d : Desk) :
    s.Takes .protocol (Effect.calls (d.workEffects s)) := by
  unfold workEffects
  cases d.draft.pending with
  | clean => exact .nil
  | overlayOnly => exact s.takes_overlayEffects d.settings
  | relight => exact Scene.takes_relightEffects running d.settings
  | rebuild =>
    dsimp only
    rw [Effect.calls_append]
    exact Scene.takes_append (d.settings.takes_rebuildEffects startable d.cascades s.holds)
      (Scene.takes_afterRebuild _ d.settings s.volume.started)

theorem Desk.Move.idle {alive : Camera → Bool} {volume : Option Volume} {d d' : Desk}
    {es : List Effect} (m : Move alive volume d es d') :
    ∀ c ∈ Effect.calls es, c.role = .cascade → ∀ v, volume = some v → v.started = false := by
  intro c inside role v here
  cases m with
  | append u there idle | remove u there idle =>
    rw [here] at there
    cases there
    exact idle
  | stay | miss | edit | request | bind => simp at inside
  | assign a => simp [Draft.calls_assign] at inside
  | wish => split at inside <;> simp at inside

namespace View

theorem Move.keeps_protocol {v w : View} (m : Move v w) : v.Passes .protocol w := by
  cases m with
  | command m =>
    exact passes_adopt (Scene.takes_chores m.chores fun c h role => m.idle c h role _ rfl) _
  | upkeep u =>
    cases u with
    | refresh =>
      refine passes_adopt ?_ _
      rw [Desk.calls_refreshCameras]
      exact .free rfl .nil
    | notice | drop =>
      refine passes_adopt ?_ _
      exact Lawful.nil

structure Sound (v : View) : Prop where
  startable : v.scene.startWorks = true
  running : v.scene.volume.active = true → v.scene.volume.started = true

theorem Sound.of_status {v w : View} (h : v.Sound) (same : w.scene.status = v.scene.status) :
    w.Sound where
  startable := (congrArg Scene.Status.startWorks same).trans h.startable
  running active := (congrArg Scene.Status.started same).trans
    (h.running ((congrArg Scene.Status.active same).symm.trans active))

theorem Sound.work_keeps_protocol {v : View} (h : v.Sound) : v.Passes .protocol v.work :=
  ⟨_, v.work_calls, rfl, v.desk.takes_workEffects h.startable h.running⟩

theorem Sound.work {v : View} (h : v.Sound) : v.work.Sound := by
  by_cases owed : v.desk.draft.pending = .rebuild
  · have rebuilt := Desk.status_rebuild owed v.scene
    have started := congrArg Scene.Status.started rebuilt
    have active := congrArg Scene.Status.active rebuilt
    refine ⟨(congrArg Scene.Status.startWorks rebuilt).trans h.startable, fun on => ?_⟩
    refine started.trans ?_
    replace on := active.symm.trans on
    have startable := h.startable
    have running := h.running
    cases activates : v.scene.activationWorks <;> simp_all
  · exact h.of_status (congrArg Scene.status (Desk.applyAll_workEffects owed v.scene))

end View

theorem sound_custody : Custody .dependable (fun _ _ => True) View.Sound where
  waits _ _ _ _ := True.intro
  withdraws _ _ _ := True.intro
  opens _ _ created :=
    { startable := congrArg Scene.Status.startWorks created
      running := fun active =>
        absurd ((congrArg Scene.Status.active created).symm.trans active) nofun }
  announces _ h := ⟨h.startable, h.running⟩
  moves m h := h.of_status m.status
  works _ h := h.work
  meddles event kept h := by
    rcases kept with same | silenced
    · exact h.of_status same
    · refine ⟨(congrArg Scene.Status.startWorks silenced).trans h.startable, fun active => ?_⟩
      exact absurd ((congrArg Scene.Status.active silenced).symm.trans active) nofun
  releases _ _ := True.intro
  empties _ _ := True.intro

theorem protocol_law :
    CallLaw .dependable (fun _ _ => True) View.Sound .protocol where
  toCustody := sound_custody
  creates _ _ := .free rfl .nil
  tells _ _ := .free rfl .nil
  starts created := congrArg Scene.Status.started created
  spares kept := by
    rcases kept with same | silenced
    · exact congrArg Scene.Status.started same
    · exact congrArg Scene.Status.started silenced
  passes m _ := m.keeps_protocol
  labours _ h := h.work_keeps_protocol

namespace Session

/-- Every run keeps the protocol, with all its calls. -/
theorem call_protocol {c : Config} {s : Session} (begun : s.Begins c) {steps : List Session.Step}
    (terms : s.OnTerms .dependable steps) :
    CallProtocol (s.log steps) ∧ (s.log steps).map (·.2) = (s.run steps).outlet.calls := by
  obtain ⟨⟨_, lawful⟩, calls⟩ := protocol_law.log begun True.intro terms
  exact ⟨lawful.protocol, calls⟩

theorem call_protocol_takeover :
    let s := onOneScene { enabled := true, cascades := [{}] }
    let steps := [.command .tick, .outside (.scene "main" .takeOver), .command .tick]
    s.OnTerms .dependable steps ∧ CallProtocol (s.log steps) ∧
      ∃ e ∈ s.log steps, e.2.role = .start := by
  intro s steps
  have begun : s.Begins { enabled := true, cascades := [{}] } := onOneScene_begins _
  have terms : s.OnTerms .dependable steps := takeover_onTerms
  have started : ∃ e ∈ s.log steps, e.2.role = .start := by decide
  exact ⟨terms, (call_protocol begun terms).1, started⟩

end Session

end VoxelGI
