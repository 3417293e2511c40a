import VoxelGI.Proofs.Delivery

/-! Who counts as a subscriber. Who is there can be told from the history alone: whoever subscribed and
has not left since. A broadcast finds out when something is published: from then on those who had left
by that moment count no more. Nobody else is ever struck off, and nobody who left is waited for. -/
namespace VoxelGI

namespace Mailbox

variable {α : Type}

def listens (m : Mailbox α) : Bool := m.standing == .listening

/-- Whether the subscriber counts, since nothing has shown yet that it is gone. -/
def counts (m : Mailbox α) : Bool := m.standing != .forgotten

@[simp] theorem listens_leave (m : Mailbox α) : m.leave.listens = false := by
  obtain ⟨_, standing⟩ := m
  cases standing <;> rfl

@[simp] theorem counts_leave (m : Mailbox α) : m.leave.counts = m.counts := by
  obtain ⟨_, standing⟩ := m
  cases standing <;> rfl

@[simp] theorem listens_receive (capacity : Nat) (event : α) (m : Mailbox α) :
    (m.receive capacity event).listens = m.listens := by
  obtain ⟨queue, standing⟩ := m
  cases standing with
  | listening =>
    by_cases room : queue.length < capacity <;> simp [receive, delivery, room, listens]
  | gone | forgotten => rfl

@[simp] theorem counts_receive (capacity : Nat) (event : α) (m : Mailbox α) :
    (m.receive capacity event).counts = m.listens := by
  obtain ⟨queue, standing⟩ := m
  cases standing with
  | listening =>
    by_cases room : queue.length < capacity <;> simp [receive, delivery, room, listens, counts]
  | gone | forgotten => rfl

theorem delivery_eq_missed_iff (capacity : Nat) (m : Mailbox α) :
    m.delivery capacity = some .missed ↔ m.listens = true ∧ ¬ m.queue.length < capacity := by
  obtain ⟨queue, standing⟩ := m
  cases standing with
  | listening => by_cases room : queue.length < capacity <;> simp [delivery, room, listens]
  | gone | forgotten => simp [delivery, listens]

end Mailbox

namespace Broadcast

variable {α : Type}

def attend (present : List Bool) : Act α → List Bool
  | .subscribe => present ++ [true]
  | .leave subscriber => present.set subscriber false
  | .publish _ | .take _ => present

/-- For everybody who subscribed in a history, whether they have not left since. -/
def attendance (history : List (Act α)) : List Bool := history.foldl attend []

def Act.isSubscribe : Act α → Bool
  | .subscribe => true
  | _ => false

def arrivals (history : List (Act α)) : Nat := history.countP Act.isSubscribe

theorem map_modify_set {f : Mailbox α → Mailbox α} {p : Mailbox α → Bool} {value : Bool}
    (sets : ∀ m, p (f m) = value) (ms : List (Mailbox α)) (i : Nat) :
    (ms.modify i f).map p = (ms.map p).set i value := by
  refine List.ext_getElem? fun j => ?_
  rw [List.getElem?_map, List.getElem?_modify, List.getElem?_set, List.getElem?_map, List.length_map]
  by_cases same : i = j
  · subst same
    by_cases inside : i < ms.length <;> simp [inside, sets]
  · simp [same]

theorem map_modify_kept {f : Mailbox α → Mailbox α} {p : Mailbox α → Bool}
    (keeps : ∀ m, p (f m) = p m) (ms : List (Mailbox α)) (i : Nat) :
    (ms.modify i f).map p = ms.map p := by
  refine List.ext_getElem? fun j => ?_
  rw [List.getElem?_map, List.getElem?_modify, List.getElem?_map]
  cases ms[j]? with
  | none => rfl
  | some m => by_cases same : i = j <;> simp [same, keeps]

theorem map_listens_act (b : Broadcast α) (a : Act α) :
    (b.act a).mailboxes.map Mailbox.listens = attend (b.mailboxes.map Mailbox.listens) a := by
  cases a with
  | publish event =>
    change (b.mailboxes.map _).map _ = _
    rw [List.map_map]
    exact List.map_congr_left fun m _ => m.listens_receive b.capacity event
  | subscribe => exact List.map_append
  | take i =>
    change (b.take i).1.mailboxes.map _ = _
    rw [mailboxes_take]
    exact map_modify_kept (p := Mailbox.listens) (fun m => by rfl) b.mailboxes i
  | leave i => exact map_modify_set Mailbox.listens_leave b.mailboxes i

theorem map_listens_run (b : Broadcast α) (history : List (Act α)) :
    (b.run history).mailboxes.map Mailbox.listens =
      history.foldl attend (b.mailboxes.map Mailbox.listens) := by
  induction history generalizing b with
  | nil => rfl
  | cons a rest ih => rw [run_cons, ih, map_listens_act, List.foldl_cons]

/-- After a history the mailboxes show who is there. -/
theorem attendance_eq (capacity : Nat) (history : List (Act α)) :
    (run ⟨capacity, []⟩ history).mailboxes.map Mailbox.listens = attendance history :=
  map_listens_run ⟨capacity, []⟩ history

theorem subscriberCount_eq (b : Broadcast α) :
    b.subscriberCount = (b.mailboxes.map Mailbox.counts).count true := by
  rw [List.count_eq_countP, List.countP_map]
  exact List.countP_congr fun m _ => by simp [Mailbox.counts]

theorem subscriberCount_publish (b : Broadcast α) (event : α) :
    (b.act (.publish event)).subscriberCount = (b.mailboxes.map Mailbox.listens).count true := by
  rw [subscriberCount_eq]
  change ((b.mailboxes.map _).map _).count true = _
  rw [List.map_map]
  congr 1
  exact List.map_congr_left fun m _ => m.counts_receive b.capacity event

theorem subscriberCount_act (b : Broadcast α) {a : Act α} (silent : ∀ event, a ≠ .publish event) :
    (b.act a).subscriberCount = b.subscriberCount + arrivals [a] := by
  rw [subscriberCount_eq, subscriberCount_eq]
  cases a with
  | publish event => exact absurd rfl (silent event)
  | subscribe =>
    change ((b.mailboxes ++ [_]).map _).count true = _
    rw [List.map_append, List.count_append]
    rfl
  | take i =>
    change ((b.take i).1.mailboxes.map _).count true = _
    rw [mailboxes_take, map_modify_kept (p := Mailbox.counts) fun m => by rfl]
    rfl
  | leave i =>
    change ((b.mailboxes.modify i _).map _).count true = _
    rw [map_modify_kept Mailbox.counts_leave]
    rfl

theorem subscriberCount_run (b : Broadcast α) {history : List (Act α)}
    (silent : ∀ event, .publish event ∉ history) :
    (b.run history).subscriberCount = b.subscriberCount + arrivals history := by
  induction history generalizing b with
  | nil => rfl
  | cons a rest ih =>
    have now : ∀ event, a ≠ .publish event := fun event same =>
      silent event (same ▸ List.mem_cons_self)
    have later := ih (b.act a) fun event inside => silent event (List.mem_cons_of_mem a inside)
    have split : arrivals (a :: rest) = arrivals [a] + arrivals rest := by
      rw [← List.singleton_append, arrivals, List.countP_append]
      rfl
    rw [run_cons, later, subscriberCount_act b now, split, Nat.add_assoc]

/-- An event reaches all if nobody who is there has a full mailbox. -/
theorem reachesAll_iff (b : Broadcast α) :
    b.reachesAll = true ↔ ∀ r, (b.mailboxes.map Mailbox.listens)[r]? = some true →
      (b.waiting r).length < b.capacity := by
  have arrives (m : Mailbox α) : (m.delivery b.capacity).all (· != .missed) = true ↔
      (m.listens = true → m.queue.length < b.capacity) := by
    have missed := m.delivery_eq_missed_iff b.capacity
    cases delivery : m.delivery b.capacity <;> simp_all
  calc b.reachesAll = true
      ↔ ∀ m ∈ b.mailboxes, m.listens = true → m.queue.length < b.capacity := by
        unfold reachesAll deliveries
        rw [List.all_filterMap, List.all_eq_true]
        exact forall₂_congr fun m _ => arrives m
    _ ↔ _ := by
        constructor
        · intro room r here
          rw [List.getElem?_map] at here
          obtain ⟨m, held, listens⟩ := Option.map_eq_some_iff.mp here
          rw [waiting_eq held]
          exact room m (List.mem_of_getElem? held) listens
        · intro room m inside listens
          obtain ⟨r, held⟩ := List.mem_iff_getElem?.mp inside
          rw [← waiting_eq held]
          exact room r (by rw [List.getElem?_map, held, Option.map_some, listens])

theorem reachesAll_setWaiting {b : Broadcast α} {r : Nat}
    (absent : (b.mailboxes.map Mailbox.listens)[r]? ≠ some true) (queue : List α) :
    (b.setWaiting r queue).reachesAll = b.reachesAll := by
  have listens : (b.setWaiting r queue).mailboxes.map Mailbox.listens =
      b.mailboxes.map Mailbox.listens := map_modify_kept (fun _ => by rfl) b.mailboxes r
  rw [Bool.eq_iff_iff, reachesAll_iff, reachesAll_iff, listens]
  refine forall₂_congr fun r' here => ?_
  have other : r ≠ r' := fun same => absent (same ▸ here)
  have same : (b.setWaiting r queue).waiting r' = b.waiting r' := by
    unfold waiting setWaiting
    rw [List.getElem?_modify_ne _ _ other]
  rw [same]
  rfl

/-- Whatever was subscribed, published, received and left: an event that is published now reaches all
exactly if everybody who is there has room for it, whatever may lie in the mailboxes of those who left.
As subscribers count those who were there when something was published last, and whoever subscribed
since; if nothing was published yet, whoever subscribed. So nobody who is there is forgotten. -/
theorem subscribers_kept (capacity : Nat) (history : List (Act α)) :
    let b : Broadcast α := run ⟨capacity, []⟩ history
    (b.reachesAll = true ↔ ∀ r : Nat, (attendance history)[r]? = some true →
        (b.waiting r).length < capacity) ∧
      (∀ (r : Nat) queue, (attendance history)[r]? ≠ some true →
        (b.setWaiting r queue).reachesAll = b.reachesAll) ∧
      (∀ before event after, history = before ++ .publish event :: after →
        (∀ event', .publish event' ∉ after) →
        b.subscriberCount = (attendance before).count true + arrivals after) ∧
      ((∀ event, .publish event ∉ history) → b.subscriberCount = arrivals history) ∧
      ∀ r : Nat, (attendance history)[r]? = some true →
        ∃ m : Mailbox α, b.mailboxes[r]? = some m ∧ m.standing = .listening := by
  intro b
  have present : b.mailboxes.map Mailbox.listens = attendance history :=
    attendance_eq capacity history
  have bounded : b.capacity = capacity := capacity_run ..
  rw [← present]
  refine ⟨?_, fun r queue absent => reachesAll_setWaiting absent queue, ?_, ?_, ?_⟩
  · rw [reachesAll_iff, bounded]
  · rintro before event after rfl silent
    have split : b = ((run ⟨capacity, []⟩ before).act (.publish event)).run after := run_append ..
    rw [split, subscriberCount_run _ silent, subscriberCount_publish, attendance_eq]
  · intro silent
    exact (subscriberCount_run _ silent).trans (Nat.zero_add _)
  · intro r here
    rw [List.getElem?_map] at here
    obtain ⟨m, held, listens⟩ := Option.map_eq_some_iff.mp here
    exact ⟨m, held, eq_of_beq listens⟩

/-- Everybody has room for one event. The second subscriber leaves with a full mailbox, the first one
takes its event, and a third one comes: the next event reaches all, and then two are counted. -/
theorem subscribers_kept_full_gone :
    let before : List (Act Event) := [.subscribe, .subscribe, .publish .cameraListChanged,
      .leave 1, .take 0]
    let after : List (Act Event) := [.subscribe]
    let whole := before ++ .publish (.enabledChanged true) :: after
    attendance whole = [true, false, true] ∧
      (run ⟨1, []⟩ before).reachesAll = true ∧
      (run ⟨1, []⟩ whole).reachesAll = false ∧
      (run ⟨1, []⟩ whole).subscriberCount = 2 ∧
      ∃ m, (run ⟨1, []⟩ whole).mailboxes[0]? = some m ∧ m.standing = .listening := by
  intro before after whole
  obtain ⟨reaches, _, _, _, _⟩ := subscribers_kept 1 before
  obtain ⟨misses, _, counted, _, listening⟩ := subscribers_kept 1 whole
  refine ⟨by decide, reaches.mpr ?_, ?_, counted before _ after rfl (by simp [after]),
    listening 0 (by decide)⟩
  · intro r here
    match r, here with
    | 0, _ => decide
    | 1, gone => exact absurd gone (by decide)
    | r + 2, nobody => exact absurd nobody nofun
  · rw [Bool.eq_false_iff, ne_eq, misses]
    exact fun room => absurd (room 0 (by decide)) (by decide)

end Broadcast

end VoxelGI
