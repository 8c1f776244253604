import MarketGateway.Proofs.Feed.Delivery

/-!
# Room in queues

A queue has room for one item at least and never holds more than it has room for, so a full queue has
something to take out. No step of a feed changes that: `Bounded` is kept by all of them.
-/

namespace MarketGateway

namespace Queue

variable {α : Type} {q after : Queue α} {item : α}

structure Bounded (q : Queue α) : Prop where
  positive : 0 < q.capacity
  few : q.items.length ≤ q.capacity

theorem ofCapacity_bounded (capacity : Nat) : (ofCapacity capacity : Queue α).Bounded where
  positive := by
    show 0 < max 1 capacity
    omega
  few := Nat.zero_le _

theorem Bounded.push? (bounded : q.Bounded) (h : q.push? item = .some after) : after.Bounded := by
  unfold Queue.push? at h
  split at h
  · rename_i room
    obtain rfl := Option.some.inj h
    have few : q.items.length < q.capacity := of_decide_eq_true room
    refine ⟨bounded.positive, ?_⟩
    show (q.items ++ [item]).length ≤ q.capacity
    rw [List.length_append, List.length_singleton]
    omega
  · cases h

theorem Bounded.pop? (bounded : q.Bounded) (h : q.pop? = .some (item, after)) :
    after.Bounded ∧ after.hasRoom = true := by
  have few := bounded.few
  unfold Queue.pop? at h
  split at h
  · rename_i first rest items
    obtain ⟨rfl, rfl⟩ := Prod.mk.inj (Option.some.inj h)
    rw [items, List.length_cons] at few
    refine ⟨⟨bounded.positive, ?_⟩, ?_⟩
    · show rest.length ≤ q.capacity
      omega
    · apply decide_eq_true
      show rest.length < q.capacity
      omega
  · cases h

theorem Bounded.close (bounded : q.Bounded) : q.close.Bounded := ⟨bounded.positive, bounded.few⟩

/-- There is something to take out of a full queue. -/
theorem Bounded.items_ne_nil (bounded : q.Bounded) (full : q.hasRoom = false) : q.items ≠ [] := by
  intro empty
  have few : ¬ q.items.length < q.capacity := of_decide_eq_false full
  rw [empty] at few
  exact few bounded.positive

theorem Bounded.pop?_of_full (bounded : q.Bounded) (full : q.hasRoom = false) :
    ∃ item after, q.pop? = some (item, after) ∧ after.hasRoom = true := by
  obtain ⟨item, rest, items⟩ := List.exists_cons_of_ne_nil (bounded.items_ne_nil full)
  have popped : q.pop? = some (item, { q with items := rest }) := by
    rw [Queue.pop?, items]
  exact ⟨item, _, popped, (bounded.pop? popped).2⟩

end Queue

/-! ### Routes -/

namespace Router

variable {α : Type} {names : List String} {name channel : String} {message : α}
  {router next : Router α}

def Bounded (router : Router α) : Prop := ∀ r ∈ router, r.queue.Bounded

/-- A route with this name has no room. -/
def IsFull (name : String) (router : Router α) : Prop :=
  ∃ r ∈ router, r.channels = name ∧ r.queue.hasRoom = false

theorem Bounded.deliver? (bounded : router.Bounded) (h : router.deliver? channel message = some next) :
    next.Bounded := by
  induction router generalizing next with
  | nil =>
    obtain rfl := Option.some.inj h
    exact bounded
  | cons r rest ih =>
    obtain ⟨here, later⟩ := List.forall_mem_cons.mp bounded
    unfold Router.deliver? at h
    split at h
    · split at h
      · obtain ⟨queue, pushed, rfl⟩ := Option.map_eq_some_iff.mp h
        exact List.forall_mem_cons.mpr ⟨here.push? pushed, later⟩
      · obtain rfl := Option.some.inj h
        exact bounded
    · obtain ⟨after, delivered, rfl⟩ := Option.map_eq_some_iff.mp h
      exact List.forall_mem_cons.mpr ⟨here, ih later delivered⟩

/-- A message waits only for room in the queue of its route. -/
theorem IsFull.of_deliver? (h : router.deliver? channel message = none) :
    ∃ name ∈ router.map Route.channels, Text.startsWith channel name = true ∧ router.IsFull name := by
  induction router with
  | nil => cases h
  | cons r rest ih =>
    unfold Router.deliver? at h
    split at h
    · rename_i here
      split at h
      · have pushed : r.queue.push? message = none := Option.map_eq_none_iff.mp h
        unfold Queue.push? at pushed
        split at pushed
        · cases pushed
        · rename_i full
          exact ⟨r.channels, List.mem_cons_self, here, r, List.mem_cons_self, rfl,
            Bool.of_not_eq_true full⟩
      · cases h
    · obtain ⟨name, member, begins, s, listed, named, full⟩ := ih (Option.map_eq_none_iff.mp h)
      exact ⟨name, List.mem_cons_of_mem _ member, begins, s, List.mem_cons_of_mem _ listed, named, full⟩

/-- Something waits in the queue of a route that has no room. -/
theorem IsFull.queued_ne_nil (full : router.IsFull name) (ready : Ready names router)
    (bounded : router.Bounded) : router.queued name ≠ [] := by
  obtain ⟨r, member, rfl, noRoom⟩ := full
  induction router generalizing names with
  | nil => cases member
  | cons first rest ih =>
    obtain ⟨here, later⟩ := List.forall_mem_cons.mp bounded
    rcases List.mem_cons.mp member with rfl | inRest
    · rw [queued, if_pos rfl]
      exact here.items_ne_nil noRoom
    · rw [queued, if_neg (ready.head_ne (List.mem_map_of_mem inRest))]
      exact ih ready.tail later inRest

end Router

/-! ### Drains -/

namespace Feed

variable {α : Type} {convert : StreamMessage → Except Overflow (List α)} {names : List String}
  {name : String} {router next : Router StreamMessage} {d after : Drain α} {e : DrainEvent}

theorem drain?_output_bounded (bounded : d.output.Bounded)
    (h : drain? convert name router d e = some (next, after)) : after.output.Bounded := by
  cases drainStep_of_drain? h with
  | take taken => exact take?_output taken ▸ bounded
  | pass passed =>
    obtain ⟨-, result, rest, -, ⟨-, output, pushed, rfl⟩ | ⟨-, rfl⟩⟩ := pass?_eq_some passed
    · exact bounded.push? pushed
    · exact bounded
  | stop closed stopped =>
    obtain ⟨-, rfl⟩ := stop?_eq_some stopped
    exact bounded
  | readOut read =>
    obtain ⟨result, output, popped, rfl⟩ := readOut?_eq_some read
    exact (bounded.pop? popped).1
  | closeOutput => exact bounded.close

theorem deliver?_bounded {p : Consumer.Plan} {c consumer : Consumer} (bounded : router.Bounded)
    (h : deliver? p c router = some (consumer, next)) : next.Bounded := by
  unfold deliver? at h
  split at h
  · simp only [Option.bind_eq_bind, Option.bind_eq_some_iff, Option.pure_def, Option.some.injEq,
      Prod.mk.injEq] at h
    obtain ⟨stepped, -, routed, delivered, -, rfl⟩ := h
    exact bounded.deliver? delivered
  · cases h

theorem take?_bounded (bounded : router.Bounded)
    (h : take? convert name router d = some (next, after)) : next.Bounded := by
  induction router generalizing next with
  | nil => cases h
  | cons r rest ih =>
    obtain ⟨here, later⟩ := List.forall_mem_cons.mp bounded
    rw [take?_cons] at h
    split at h
    · obtain ⟨⟨queue, _⟩, taken, same⟩ := Option.map_eq_some_iff.mp h
      obtain ⟨rfl, rfl⟩ := Prod.mk.inj same
      refine List.forall_mem_cons.mpr ⟨?_, later⟩
      unfold Drain.take? at taken
      split at taken
      · cases taken
      · obtain ⟨⟨message, left⟩, popped, taken⟩ := Option.bind_eq_some_iff.mp taken
        have fewer := (here.pop? popped).1
        dsimp only at taken
        split at taken
        · obtain ⟨rfl, -⟩ := Prod.mk.inj (Option.some.inj taken)
          exact fewer
        · obtain ⟨rfl, -⟩ := Prod.mk.inj (Option.some.inj taken)
          exact fewer
    · obtain ⟨⟨kept, _⟩, taken, same⟩ := Option.map_eq_some_iff.mp h
      obtain ⟨rfl, rfl⟩ := Prod.mk.inj same
      exact List.forall_mem_cons.mpr ⟨here, ih later taken⟩

theorem drain?_bounded (bounded : router.Bounded)
    (h : drain? convert name router d e = some (next, after)) : next.Bounded := by
  cases drainStep_of_drain? h with
  | take taken => exact take?_bounded bounded taken
  | _ => exact bounded

/-! ### Drains at rest -/

theorem take?_isSome (idle : d.isIdle = true) (waits : router.queued name ≠ []) :
    ∃ next, take? convert name router d = some next := by
  induction router with
  | nil => exact (waits rfl).elim
  | cons r rest ih =>
    rw [take?_cons]
    by_cases here : r.channels = name
    · rw [Router.queued, if_pos here] at waits
      obtain ⟨message, items, queue⟩ := List.exists_cons_of_ne_nil waits
      rw [if_pos here, Drain.take?, idle, Queue.pop?, queue]
      cases converted : convert message <;> simp [converted]
    · rw [Router.queued, if_neg here] at waits
      obtain ⟨next, taken⟩ := ih waits
      rw [if_neg here, taken]
      exact ⟨_, rfl⟩

/-- A drain that runs and can do nothing more, and whose output is read, has passed everything on. -/
theorem all_passed (running : d.isRunning = true) (bounded : d.output.Bounded)
    (takes : drain? convert name router d .take = none) (passes : drain? convert name router d .pass = none)
    (reads : drain? convert name router d .readOut = none) :
    d.output.items = [] ∧ d.pending = [] ∧ router.queued name = [] := by
  have read : d.output.items = [] := by
    apply Classical.byContradiction
    intro unread
    obtain ⟨result, rest, items⟩ := List.exists_cons_of_ne_nil unread
    rw [drain?, Drain.readOut?, Queue.pop?, items] at reads
    cases reads
  have room : d.output.hasRoom = true := by
    apply Classical.byContradiction
    intro full
    exact bounded.items_ne_nil (Bool.of_not_eq_true full) read
  have passed : d.pending = [] := by
    apply Classical.byContradiction
    intro holds
    obtain ⟨result, rest, pending⟩ := List.exists_cons_of_ne_nil holds
    cases isOpen : d.output.isOpen <;>
      simp [drain?, Drain.pass?, running, pending, isOpen, Queue.push?, room] at passes
  refine ⟨read, passed, ?_⟩
  apply Classical.byContradiction
  intro waits
  have idle : d.isIdle = true := by
    rw [Drain.isIdle, running, passed]
    rfl
  have taken : ∃ next, take? convert name router d = some next := take?_isSome idle waits
  obtain ⟨next, taken⟩ := taken
  rw [drain?, taken] at takes
  cases takes

end Feed

end MarketGateway
