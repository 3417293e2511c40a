import VoxelGI.Event

/-! What a subscriber gets. Whatever happens to a broadcast happens to each mailbox on its own, so a
mailbox is as it would be if nobody else had subscribed; and what goes into it comes out in the same
order, or waits. -/
namespace VoxelGI.Broadcast

variable {α : Type}

inductive Act (α : Type) where
  | publish (event : α)
  | subscribe
  | take (subscriber : Nat)
  | leave (subscriber : Nat)
deriving DecidableEq

def act (b : Broadcast α) : Act α → Broadcast α
  | .publish event => b.publish event
  | .subscribe => b.subscribe
  | .take i => (b.take i).1
  | .leave i => b.leave i

def run (b : Broadcast α) (history : List (Act α)) : Broadcast α := history.foldl act b

@[simp] theorem run_cons (b : Broadcast α) (a : Act α) (rest : List (Act α)) :
    b.run (a :: rest) = (b.act a).run rest := rfl

theorem run_append (b : Broadcast α) (first second : List (Act α)) :
    b.run (first ++ second) = (b.run first).run second :=
  List.foldl_append

def handed (b : Broadcast α) (r : Nat) : Act α → List α
  | .take i => if i = r then (b.take i).2.toList else []
  | _ => []

/-- What an act owes to a subscriber: an event that is published after it subscribed, unless its own
mailbox is full at that moment. -/
def owed (b : Broadcast α) (r : Nat) : Act α → List α
  | .publish event =>
    if r < b.mailboxes.length ∧ (b.waiting r).length < b.capacity then [event] else []
  | _ => []

def received (b : Broadcast α) (r : Nat) : List (Act α) → List α
  | [] => []
  | a :: rest => b.handed r a ++ (b.act a).received r rest

def due (b : Broadcast α) (r : Nat) : List (Act α) → List α
  | [] => []
  | a :: rest => b.owed r a ++ (b.act a).due r rest

/-- An act as it is for a subscriber that is alone; what concerns others only is left out. -/
def Act.alone? (r : Nat) : Act α → Option (Act α)
  | .publish event => some (.publish event)
  | .subscribe => none
  | .take i => if i = r then some (.take 0) else none
  | .leave i => if i = r then some (.leave 0) else none

def alone (capacity : Nat) : Broadcast α := ⟨capacity, [{}]⟩

end Broadcast

namespace Mailbox

variable {α : Type}

def undergo (capacity r : Nat) (m : Mailbox α) : Broadcast.Act α → Mailbox α
  | .publish event => m.receive capacity event
  | .subscribe => m
  | .take i => if i = r then { m with queue := m.queue.tail } else m
  | .leave i => if i = r then m.leave else m

variable {capacity r : Nat} {m : Mailbox α}

theorem listening_of_undergo {a : Broadcast.Act α}
    (listening : (m.undergo capacity r a).standing = .listening) : m.standing = .listening := by
  cases a with
  | publish event =>
    dsimp only [undergo, receive, delivery] at listening
    cases standing : m.standing <;> simp_all
  | subscribe => exact listening
  | take i =>
    dsimp only [undergo] at listening
    split at listening <;> exact listening
  | leave i =>
    dsimp only [undergo, leave] at listening
    cases standing : m.standing <;> simp_all

theorem queue_receive (listening : m.standing = .listening) (capacity : Nat) (event : α) :
    (m.receive capacity event).queue =
      m.queue ++ if m.queue.length < capacity then [event] else [] := by
  unfold receive delivery
  rw [listening]
  by_cases room : m.queue.length < capacity <;> simp [room]

theorem length_receive (fits : m.queue.length ≤ capacity) (event : α) :
    (m.receive capacity event).queue.length ≤ capacity := by
  unfold receive delivery
  cases m.standing with
  | gone | forgotten => exact fits
  | listening =>
    by_cases room : m.queue.length < capacity
    · simp only [room, if_true, List.length_append, List.length_singleton]
      exact room
    · simp only [room, if_false]
      exact fits

theorem length_undergo (fits : m.queue.length ≤ capacity) (a : Broadcast.Act α) :
    (m.undergo capacity r a).queue.length ≤ capacity := by
  cases a with
  | publish event => exact length_receive fits event
  | subscribe => exact fits
  | take i =>
    by_cases own : i = r
    · simp only [undergo, own, if_true, List.length_tail]
      omega
    · simpa only [undergo, own, if_false] using fits
  | leave i =>
    by_cases own : i = r
    · simp only [undergo, own, if_true, leave]
      cases m.standing <;> first | exact fits | exact Nat.zero_le _
    · simpa only [undergo, own, if_false] using fits

end Mailbox

namespace Broadcast

variable {α : Type} {b : Broadcast α} {r : Nat} {m : Mailbox α}

theorem waiting_eq (here : b.mailboxes[r]? = some m) : b.waiting r = m.queue := by
  simp [waiting, here]

@[simp] theorem capacity_act (b : Broadcast α) (a : Act α) : (b.act a).capacity = b.capacity := by
  cases a with
  | take i =>
    change (b.take i).1.capacity = b.capacity
    unfold take
    split <;> rfl
  | publish | subscribe | leave => rfl

theorem capacity_run (b : Broadcast α) (history : List (Act α)) :
    (b.run history).capacity = b.capacity := by
  induction history generalizing b with
  | nil => rfl
  | cons a rest ih => exact (ih _).trans (b.capacity_act a)

theorem mailboxes_take (b : Broadcast α) (i : Nat) :
    (b.take i).1.mailboxes =
      b.mailboxes.modify i fun m => { m with queue := m.queue.tail } := by
  unfold take
  split
  · rename_i empty
    refine List.ext_getElem? fun j => ?_
    rw [List.getElem?_modify]
    cases there : b.mailboxes[j]? with
    | none => rfl
    | some m =>
      by_cases same : i = j
      · subst same
        rw [waiting_eq there] at empty
        obtain ⟨queue, standing⟩ := m
        subst empty
        simp
      · simp [same]
  · rename_i event rest held
    refine List.ext_getElem? fun j => ?_
    unfold setWaiting
    rw [List.getElem?_modify, List.getElem?_modify]
    cases there : b.mailboxes[j]? with
    | none => rfl
    | some m =>
      by_cases same : i = j
      · subst same
        rw [waiting_eq there] at held
        simp [held]
      · simp [same]

/-- An act does to each mailbox what it would do to it if there were no other. -/
theorem mailbox_act (here : b.mailboxes[r]? = some m) (a : Act α) :
    (b.act a).mailboxes[r]? = some (m.undergo b.capacity r a) := by
  cases a with
  | publish event =>
    change (b.mailboxes.map _)[r]? = _
    rw [List.getElem?_map, here]
    rfl
  | subscribe =>
    have inside : r < b.mailboxes.length := (List.getElem?_eq_some_iff.mp here).1
    change (b.mailboxes ++ [_])[r]? = _
    rw [List.getElem?_append_left inside, here]
    rfl
  | take i =>
    change (b.take i).1.mailboxes[r]? = _
    rw [mailboxes_take, List.getElem?_modify, here]
    by_cases same : i = r <;> simp [Mailbox.undergo, same]
  | leave i =>
    change (b.mailboxes.modify i _)[r]? = _
    rw [List.getElem?_modify, here]
    by_cases same : i = r <;> simp [Mailbox.undergo, same]

theorem handed_take (here : b.mailboxes[r]? = some m) :
    b.handed r (.take r) = m.queue.take 1 := by
  have taken : b.handed r (.take r) = (b.take r).2.toList := if_pos rfl
  rw [taken, take, waiting_eq here]
  cases m.queue <;> rfl

theorem act_conserves (here : b.mailboxes[r]? = some m) (a : Act α)
    (listening : (m.undergo b.capacity r a).standing = .listening) :
    m.queue ++ b.owed r a = b.handed r a ++ (m.undergo b.capacity r a).queue := by
  have subscribed : r < b.mailboxes.length := (List.getElem?_eq_some_iff.mp here).1
  cases a with
  | publish event =>
    have before := Mailbox.listening_of_undergo listening
    simp only [owed, subscribed, true_and, waiting_eq here]
    exact (Mailbox.queue_receive before ..).symm
  | subscribe => exact List.append_nil _
  | take i =>
    by_cases own : i = r
    · subst own
      rw [handed_take here]
      simp only [owed, Mailbox.undergo, if_true, List.append_nil]
      rw [← List.drop_one, List.take_append_drop]
    · simp [owed, handed, Mailbox.undergo, own]
  | leave i =>
    by_cases own : i = r
    · -- a mailbox that is left does not listen
      simp only [Mailbox.undergo, own, if_true, Mailbox.leave] at listening
      cases standing : m.standing <;> simp_all
    · simp [owed, handed, Mailbox.undergo, own]

theorem mailbox_run (here : b.mailboxes[r]? = some m) (history : List (Act α)) :
    (b.run history).mailboxes[r]? = some (history.foldl (Mailbox.undergo b.capacity r) m) := by
  induction history generalizing b m with
  | nil => exact here
  | cons a rest ih =>
    rw [run_cons, ih (mailbox_act here a), capacity_act]
    rfl

theorem listening_run {history : List (Act α)}
    (listening : (history.foldl (Mailbox.undergo b.capacity r) m).standing = .listening) :
    m.standing = .listening := by
  induction history generalizing m with
  | nil => exact listening
  | cons a rest ih => exact Mailbox.listening_of_undergo (ih listening)

/-- What waits and what a history owes is what the history hands over and what waits then. -/
theorem run_conserves (here : b.mailboxes[r]? = some m) (history : List (Act α))
    (listening : (history.foldl (Mailbox.undergo b.capacity r) m).standing = .listening) :
    m.queue ++ b.due r history =
      b.received r history ++ (history.foldl (Mailbox.undergo b.capacity r) m).queue := by
  induction history generalizing b m with
  | nil => exact List.append_nil _
  | cons a rest ih =>
    have next := mailbox_act here a
    have heard : (m.undergo b.capacity r a).standing = .listening := listening_run listening
    have rest_conserves := ih next (by rwa [capacity_act])
    rw [capacity_act] at rest_conserves
    calc m.queue ++ b.due r (a :: rest)
        = m.queue ++ b.owed r a ++ (b.act a).due r rest := (List.append_assoc ..).symm
      _ = b.handed r a ++ ((m.undergo b.capacity r a).queue ++ (b.act a).due r rest) := by
        rw [act_conserves here a heard, List.append_assoc]
      _ = b.received r (a :: rest) ++ _ := by
        rw [rest_conserves, ← List.append_assoc]
        rfl

theorem length_run (fits : m.queue.length ≤ b.capacity) (history : List (Act α)) :
    (history.foldl (Mailbox.undergo b.capacity r) m).queue.length ≤ b.capacity := by
  induction history generalizing m with
  | nil => exact fits
  | cons a rest ih => exact ih (Mailbox.length_undergo fits a)

theorem received_append (b : Broadcast α) (r : Nat) (first second : List (Act α)) :
    b.received r (first ++ second) = b.received r first ++ (b.run first).received r second := by
  induction first generalizing b with
  | nil => rfl
  | cons a rest ih => simp [received, ih]

theorem due_append (b : Broadcast α) (r : Nat) (first second : List (Act α)) :
    b.due r (first ++ second) = b.due r first ++ (b.run first).due r second := by
  induction first generalizing b with
  | nil => rfl
  | cons a rest ih => simp [due, ih]

theorem absent (outside : b.mailboxes.length ≤ r) (a : Act α) :
    b.handed r a = [] ∧ b.owed r a = [] := by
  have nothing : b.waiting r = [] := by
    rw [waiting, List.getElem?_eq_none outside]
  cases a with
  | publish event => exact ⟨rfl, if_neg fun h => absurd h.1 (Nat.not_lt.mpr outside)⟩
  | take i =>
    refine ⟨?_, rfl⟩
    by_cases own : i = r
    · subst own
      simp [handed, take, nothing]
    · exact if_neg own
  | subscribe | leave => exact ⟨rfl, rfl⟩

theorem length_act (b : Broadcast α) (a : Act α) :
    (a = .subscribe ∧ (b.act a).mailboxes = b.mailboxes ++ [({} : Mailbox α)]) ∨
      (b.act a).mailboxes.length = b.mailboxes.length := by
  cases a with
  | publish event => exact .inr (List.length_map _)
  | subscribe => exact .inl ⟨rfl, rfl⟩
  | take i =>
    refine .inr ?_
    change (b.take i).1.mailboxes.length = _
    rw [mailboxes_take, List.length_modify]
  | leave i => exact .inr (List.length_modify ..)

theorem subscribed_once {history : List (Act α)} (outside : b.mailboxes.length ≤ r)
    (inside : r < (b.run history).mailboxes.length) :
    ∃ before after, history = before ++ .subscribe :: after ∧
      (b.run before).mailboxes.length = r ∧
      (b.run (before ++ [.subscribe])).mailboxes[r]? = some {} ∧
      b.received r (before ++ [.subscribe]) = [] ∧ b.due r (before ++ [.subscribe]) = [] := by
  induction history generalizing b with
  | nil => exact absurd inside (Nat.not_lt.mpr outside)
  | cons a rest ih =>
    obtain ⟨no_gift, no_debt⟩ := absent outside a
    by_cases still : (b.act a).mailboxes.length ≤ r
    · obtain ⟨before, after, split, count, arrived, gift, debt⟩ := ih still inside
      refine ⟨a :: before, after, congrArg (a :: ·) split, count, arrived, ?_, ?_⟩
      · rw [List.cons_append, received, no_gift, gift]
        rfl
      · rw [List.cons_append, due, no_debt, debt]
        rfl
    · obtain ⟨rfl, appended⟩ := (b.length_act a).resolve_right fun same => still (same ▸ outside)
      have last : b.mailboxes.length = r := by
        rw [appended, List.length_append, List.length_singleton] at still
        omega
      refine ⟨[], rest, rfl, last, ?_, no_gift, no_debt⟩
      change (b.act .subscribe).mailboxes[r]? = _
      rw [appended, ← last, List.getElem?_concat_length]

theorem act_alone {s : Broadcast α} (here : b.mailboxes[r]? = some m) (solo : s.mailboxes = [m])
    (same : s.capacity = b.capacity) (a : Act α) :
    (s.run (a.alone? r).toList).mailboxes = [m.undergo b.capacity r a] ∧
      s.received 0 (a.alone? r).toList = b.handed r a := by
  have first : s.mailboxes[0]? = some m := by rw [solo]; rfl
  cases a with
  | publish event =>
    refine ⟨?_, rfl⟩
    change s.mailboxes.map _ = _
    rw [solo, same]
    rfl
  | subscribe => exact ⟨solo, rfl⟩
  | take i =>
    by_cases own : i = r
    · subst own
      simp only [Act.alone?, if_true, Option.toList_some]
      refine ⟨?_, ?_⟩
      · change (s.take 0).1.mailboxes = _
        rw [mailboxes_take, solo]
        simp [Mailbox.undergo]
      · rw [handed_take here, ← handed_take first]
        exact List.append_nil _
    · simp only [Act.alone?, handed, Mailbox.undergo, own, if_false]
      exact ⟨solo, rfl⟩
  | leave i =>
    by_cases own : i = r
    · simp only [Act.alone?, Mailbox.undergo, own, if_true, Option.toList_some]
      refine ⟨?_, rfl⟩
      change s.mailboxes.modify 0 _ = _
      rw [solo]
      rfl
    · simp only [Act.alone?, handed, Mailbox.undergo, own, if_false]
      exact ⟨solo, rfl⟩

/-- A history does the same to a subscriber among others as to one that is alone. -/
theorem run_alone {s : Broadcast α} (here : b.mailboxes[r]? = some m) (solo : s.mailboxes = [m])
    (same : s.capacity = b.capacity) (history : List (Act α)) :
    (s.run (history.filterMap (Act.alone? r))).mailboxes =
        [history.foldl (Mailbox.undergo b.capacity r) m] ∧
      s.received 0 (history.filterMap (Act.alone? r)) = b.received r history := by
  induction history generalizing b s m with
  | nil => exact ⟨solo, rfl⟩
  | cons a rest ih =>
    obtain ⟨now, handed_now⟩ := act_alone here solo same a
    have capacities : (s.run (a.alone? r).toList).capacity = (b.act a).capacity := by
      rw [capacity_run, capacity_act, same]
    obtain ⟨later, handed_later⟩ := ih (mailbox_act here a) now capacities
    have split : (a :: rest).filterMap (Act.alone? r) =
        (a.alone? r).toList ++ rest.filterMap (Act.alone? r) := by
      cases alone : a.alone? r <;> simp [alone]
    rw [split, run_append, received_append, handed_now, handed_later, later, capacity_act]
    exact ⟨rfl, rfl⟩

/-- A subscriber that still listens has got, or will find waiting, every event that was published
after it subscribed, in order and once, but for those published while its own mailbox was full; and
it has got what it would have got if nobody else had subscribed. -/
theorem delivers_unless_full (capacity : Nat) (history : List (Act α)) (r : Nat) {m : Mailbox α}
    (held : (run ⟨capacity, []⟩ history).mailboxes[r]? = some m)
    (listening : m.standing = .listening) :
    received ⟨capacity, []⟩ r history ++ m.queue = due ⟨capacity, []⟩ r history ∧
      m.queue.length ≤ capacity ∧
      ∃ before after, history = before ++ .subscribe :: after ∧
        (run ⟨capacity, []⟩ before : Broadcast α).mailboxes.length = r ∧
        received ⟨capacity, []⟩ r history =
          (alone capacity).received 0 (after.filterMap (Act.alone? r)) ∧
        ((alone capacity).run (after.filterMap (Act.alone? r))).mailboxes = [m] := by
  have inside := (List.getElem?_eq_some_iff.mp held).1
  obtain ⟨before, after, rfl, count, arrived, no_gift, no_debt⟩ :=
    subscribed_once (b := ⟨capacity, []⟩) (Nat.zero_le r) inside
  let b : Broadcast α := run ⟨capacity, []⟩ (before ++ [.subscribe])
  have capacity_b : b.capacity = capacity := capacity_run ..
  have whole : before ++ .subscribe :: after = (before ++ [.subscribe]) ++ after := by simp
  have last : m = after.foldl (Mailbox.undergo b.capacity r) {} := by
    rw [whole, run_append, mailbox_run arrived] at held
    exact (Option.some.inj held).symm
  have gift : received ⟨capacity, []⟩ r (before ++ .subscribe :: after) = b.received r after := by
    rw [whole, received_append, no_gift]
    rfl
  have debt : due ⟨capacity, []⟩ r (before ++ .subscribe :: after) = b.due r after := by
    rw [whole, due_append, no_debt]
    rfl
  obtain ⟨alone_last, alone_gift⟩ :=
    run_alone (s := alone capacity) arrived rfl capacity_b.symm after
  rw [gift, debt, last]
  refine ⟨?_, ?_, before, after, rfl, count, alone_gift.symm, alone_last⟩
  · exact (run_conserves arrived after (last ▸ listening)).symm
  · rw [← capacity_b]
    exact length_run (Nat.zero_le _) after

theorem delivers_unless_full_busy :
    let history : List (Act Event) := [.subscribe, .subscribe, .publish (.enabledChanged true),
      .publish .cameraListChanged, .take 0, .leave 1, .publish (.enabledChanged false)]
    let m : Mailbox Event := ⟨[.enabledChanged false], .listening⟩
    (run ⟨1, []⟩ history).mailboxes[0]? = some m ∧ m.standing = .listening ∧
      received ⟨1, []⟩ 0 history ++ m.queue = due ⟨1, []⟩ 0 history ∧
      received ⟨1, []⟩ 0 history = [.enabledChanged true] := by
  intro history m
  have held : (run ⟨1, []⟩ history).mailboxes[0]? = some m := by decide
  exact ⟨held, rfl, (delivers_unless_full 1 history 0 held rfl).1, by decide⟩

end Broadcast

end VoxelGI
