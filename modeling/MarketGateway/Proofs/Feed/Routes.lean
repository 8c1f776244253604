import MarketGateway.Gateway.Feed

/-!
# Routes

What delivering a message and draining a route do to the queues of a router. `deliver?_keeps` and
`take?_keeps` say it for all routes at once: a message goes to the end of the queue of the only route
that it has, and is taken from the front of the queue that a drain reads.
-/

namespace MarketGateway

theorem Text.startsWith_self (s : String) : Text.startsWith s s = true :=
  List.isPrefixOf_iff_prefix.mpr (List.prefix_refl _)

namespace Router

variable {α : Type} {names : List String} {name channel : String} {message : α}
  {router next : Router α}

/-- What waits in the queue of the route with this name. -/
def queued (name : String) : Router α → List α
  | [] => []
  | r :: rest => if r.channels = name then r.queue.items else queued name rest

/-- No channel begins as two of the names do. -/
def Separate (names : List String) : Prop :=
  names.Pairwise fun a b =>
    ∀ channel, Text.startsWith channel a = true → Text.startsWith channel b = false

/-- The routes of a router that nobody has closed, with their names. -/
structure Ready (names : List String) (router : Router α) : Prop where
  named : router.map Route.channels = names
  separate : Separate names
  isOpen : ∀ r ∈ router, r.queue.isOpen = true

/-- A channel begins as one of the names only. -/
theorem Separate.unique {other : String} (separate : Separate names) (memberA : name ∈ names)
    (memberB : other ∈ names) (beginsA : Text.startsWith channel name = true)
    (beginsB : Text.startsWith channel other = true) : name = other := by
  induction names with
  | nil => cases memberA
  | cons first rest ih =>
    obtain ⟨apart, later⟩ := List.pairwise_cons.mp separate
    rcases List.mem_cons.mp memberA with rfl | restA
    · rcases List.mem_cons.mp memberB with rfl | restB
      · rfl
      · have differ := apart other restB channel beginsA
        rw [beginsB] at differ
        cases differ
    · rcases List.mem_cons.mp memberB with rfl | restB
      · have differ := apart name restA channel beginsB
        rw [beginsA] at differ
        cases differ
      · exact ih later restA restB

theorem Ready.tail {r : Route α} (ready : Ready names (r :: router)) :
    Ready (router.map Route.channels) router := by
  obtain ⟨rfl, separate, isOpen⟩ := ready
  exact ⟨rfl, (List.pairwise_cons.mp separate).2, fun r member => isOpen r (List.mem_cons_of_mem _ member)⟩

/-- The name of a route is not that of a later one. -/
theorem Ready.head_ne {r : Route α} (ready : Ready names (r :: router))
    (later : name ∈ router.map Route.channels) : r.channels ≠ name := by
  obtain ⟨rfl, separate, -⟩ := ready
  rintro rfl
  have differ := (List.pairwise_cons.mp separate).1 _ later r.channels (Text.startsWith_self _)
  rw [Text.startsWith_self] at differ
  cases differ

/-- Another queue in the place of the first changes what waits there only. -/
theorem Ready.withQueue {r : Route α} (ready : Ready names (r :: router)) {queue : Queue α}
    (isOpen : queue.isOpen = true) : Ready names ({ r with queue := queue } :: router) := by
  refine ⟨ready.named, ready.separate, fun s member => ?_⟩
  rcases List.mem_cons.mp member with rfl | later
  · exact isOpen
  · exact ready.isOpen s (List.mem_cons_of_mem _ later)

theorem Ready.cons {r : Route α} (ready : Ready names (r :: router))
    (rest : Ready (router.map Route.channels) next) : Ready names (r :: next) := by
  refine ⟨?_, ready.separate, fun s member => ?_⟩
  · rw [← ready.named, List.map_cons, List.map_cons, rest.named]
  · rcases List.mem_cons.mp member with rfl | later
    · exact ready.isOpen s List.mem_cons_self
    · exact rest.isOpen s later

/-! ### Delivering -/

theorem push?_eq_some {queue after : Queue α} (h : queue.push? message = some after) :
    after.items = queue.items ++ [message] ∧ after.isOpen = queue.isOpen := by
  unfold Queue.push? at h
  split at h
  · obtain rfl := Option.some.inj h
    exact ⟨rfl, rfl⟩
  · cases h

/-- A message goes to the end of the queue of its route and leaves the others as they are. -/
theorem deliver?_keeps (ready : Ready names router)
    (h : router.deliver? channel message = some next) :
    Ready names next ∧ ∀ name ∈ names,
      next.queued name =
        router.queued name ++ if Text.startsWith channel name then [message] else [] := by
  induction router generalizing names next with
  | nil =>
    obtain rfl := Option.some.inj h
    refine ⟨ready, fun name member => ?_⟩
    rw [← ready.named] at member
    cases member
  | cons r rest ih =>
    have others := ready.tail
    obtain ⟨rfl, separate, isOpen⟩ := ready
    have apart := (List.pairwise_cons.mp separate).1
    have ready : Ready _ (r :: rest) := ⟨rfl, separate, isOpen⟩
    unfold deliver? at h
    cases here : Text.startsWith channel r.channels with
    | true =>
      rw [if_pos here, if_pos (isOpen r List.mem_cons_self)] at h
      obtain ⟨queue, pushed, rfl⟩ := Option.map_eq_some_iff.mp h
      obtain ⟨items, stillOpen⟩ := push?_eq_some pushed
      refine ⟨ready.withQueue (stillOpen.trans (isOpen r List.mem_cons_self)), fun name member => ?_⟩
      rcases List.mem_cons.mp member with rfl | later
      · simp [queued, here, items]
      · simp [queued, ready.head_ne later, apart name later channel here]
    | false =>
      rw [if_neg (by simp [here])] at h
      obtain ⟨after, delivered, rfl⟩ := Option.map_eq_some_iff.mp h
      obtain ⟨kept, queues⟩ := ih others delivered
      refine ⟨ready.cons kept, fun name member => ?_⟩
      rcases List.mem_cons.mp member with rfl | later
      · simp [queued, here]
      · simp [queued, ready.head_ne later, queues name later]

end Router

/-! ### Draining -/

namespace Feed

variable {α : Type} {convert : StreamMessage → Except Overflow (List α)} {names : List String}
  {name : String} {router next : Router StreamMessage} {d after : Drain α}

open Router (Ready)

theorem take?_cons (r : Route StreamMessage) :
    take? convert name (r :: router) d =
      if r.channels = name then
        (d.take? convert r.queue).map fun (queue, d) => ({ r with queue := queue } :: router, d)
      else (take? convert name router d).map fun (router, d) => (r :: router, d) := by
  unfold take?
  rw [List.findIdx?_cons]
  by_cases same : r.channels = name
  · cases taken : d.take? convert r.queue <;> simp [same, taken]
  · cases place : router.findIdx? fun r => r.channels == name with
    | none => simp [same]
    | some n =>
      cases found : router[n]? with
      | none => simp [same, found]
      | some route =>
        cases taken : d.take? convert route.queue <;> simp [same, found, taken]

/-- A drain takes the oldest message of its queue, whose results it has to pass on then. -/
theorem drain_take?_eq_some {queue rest : Queue StreamMessage}
    (h : d.take? convert queue = some (rest, after)) :
    ∃ message, queue.items = message :: rest.items ∧ rest.isOpen = queue.isOpen ∧
      d.pending = [] ∧
      (∀ results, convert message = .ok results → after = { d with pending := results }) ∧
      ∀ overflow, convert message = .error overflow → after = { d with state := .broken overflow } := by
  unfold Drain.take? at h
  cases idle : d.isIdle with
  | false => simp [idle] at h
  | true =>
    have nothing : d.pending = [] := by
      simp only [Drain.isIdle, Bool.and_eq_true, List.isEmpty_iff] at idle
      exact idle.2
    cases items : queue.items with
    | nil => simp [idle, Queue.pop?, items] at h
    | cons message others =>
      refine ⟨message, ?_⟩
      cases converted : convert message with
      | ok results =>
        simp only [idle, Queue.pop?, items, converted, Bool.not_true, Bool.false_eq_true, ↓reduceIte,
          Option.pure_def, Option.bind_eq_bind, Option.bind_some, Option.some.injEq,
          Prod.mk.injEq] at h
        obtain ⟨rfl, rfl⟩ := h
        exact ⟨rfl, rfl, nothing, fun _ same => by rw [Except.ok.inj same], nofun⟩
      | error overflow =>
        simp only [idle, Queue.pop?, items, converted, Bool.not_true, Bool.false_eq_true, ↓reduceIte,
          Option.pure_def, Option.bind_eq_bind, Option.bind_some, Option.some.injEq,
          Prod.mk.injEq] at h
        obtain ⟨rfl, rfl⟩ := h
        exact ⟨rfl, rfl, nothing, nofun, fun _ same => by rw [Except.error.inj same]⟩

/-- Draining a route takes the oldest message out of its queue and leaves the others as they are. -/
theorem take?_keeps (ready : Ready names router)
    (h : take? convert name router d = some (next, after)) :
    Ready names next ∧ (∀ other, other ≠ name → next.queued other = router.queued other) ∧
      ∃ message, router.queued name = message :: next.queued name ∧ d.pending = [] ∧
        (∀ results, convert message = .ok results → after = { d with pending := results }) ∧
        ∀ overflow, convert message = .error overflow → after = { d with state := .broken overflow } := by
  induction router generalizing names next with
  | nil => cases h
  | cons r rest ih =>
    rw [take?_cons] at h
    by_cases here : r.channels = name
    · rw [if_pos here] at h
      obtain ⟨⟨queue, _⟩, taken, same⟩ := Option.map_eq_some_iff.mp h
      obtain ⟨rfl, rfl⟩ := Prod.mk.inj same
      obtain ⟨message, items, stillOpen, nothing, results⟩ := drain_take?_eq_some taken
      refine ⟨ready.withQueue (stillOpen.trans (ready.isOpen r List.mem_cons_self)), ?_, message, ?_,
        nothing, results⟩
      · intro other different
        simp [Router.queued, here, different.symm]
      · simp [Router.queued, here, items]
    · rw [if_neg here] at h
      obtain ⟨⟨kept, _⟩, taken, same⟩ := Option.map_eq_some_iff.mp h
      obtain ⟨rfl, rfl⟩ := Prod.mk.inj same
      obtain ⟨keptReady, others, message, items, nothing, results⟩ := ih ready.tail taken
      refine ⟨ready.cons keptReady, ?_, message, ?_, nothing, results⟩
      · intro other different
        simp [Router.queued, others other different]
      · simp [Router.queued, here, items]

/-! ### Steps of a drain -/

theorem stop?_eq_some (h : d.stop? = some after) :
    d.isIdle = true ∧ after = { d with state := .over } := by
  unfold Drain.stop? at h
  split at h
  · rename_i idle
    exact ⟨idle, (Option.some.inj h).symm⟩
  · cases h

theorem readOut?_eq_some (h : d.readOut? = some after) :
    ∃ result output, d.output.pop? = some (result, output) ∧
      after = { d with output := output, read := d.read ++ [result] } := by
  obtain ⟨⟨result, output⟩, popped, rfl⟩ := Option.map_eq_some_iff.mp h
  exact ⟨result, output, popped, rfl⟩

/-- A result is passed on to an output with room, or a closed output ends the drain. -/
theorem pass?_eq_some (h : d.pass? = some after) :
    d.isRunning = true ∧ ∃ result rest, d.pending = result :: rest ∧
      ((d.output.isOpen = true ∧ ∃ output, d.output.push? result = some output ∧
          after = { d with pending := rest, output := output }) ∨
        d.output.isOpen = false ∧ after = { d with state := .over, pending := [] }) := by
  unfold Drain.pass? at h
  split at h
  · cases h
  · rename_i running
    split at h
    · cases h
    · rename_i result rest pending
      refine ⟨by simpa using running, result, rest, pending, ?_⟩
      split at h
      · rename_i isOpen
        obtain ⟨output, pushed, rfl⟩ := Option.map_eq_some_iff.mp h
        exact .inl ⟨isOpen, output, pushed, rfl⟩
      · rename_i closed
        obtain rfl := Option.some.inj h
        exact .inr ⟨Bool.of_not_eq_true closed, rfl⟩

inductive DrainStep (convert : StreamMessage → Except Overflow (List α)) (name : String)
    (router : Router StreamMessage) (d : Drain α) :
    DrainEvent → Router StreamMessage → Drain α → Prop where
  | take {next : Router StreamMessage} {after : Drain α}
      (taken : take? convert name router d = some (next, after)) : DrainStep convert name router d .take next after
  | pass {after : Drain α} (passed : d.pass? = some after) : DrainStep convert name router d .pass router after
  | stop {after : Drain α} (closed : d.output.isOpen = false) (stopped : d.stop? = some after) :
      DrainStep convert name router d .stop router after
  | readOut {after : Drain α} (read : d.readOut? = some after) :
      DrainStep convert name router d .readOut router after
  | closeOutput : DrainStep convert name router d .closeOutput router d.closeOutput

theorem drainStep_of_drain? {e : DrainEvent} (h : drain? convert name router d e = some (next, after)) :
    DrainStep convert name router d e next after := by
  cases e with
  | take => exact .take h
  | pass =>
    obtain ⟨_, passed, same⟩ := Option.map_eq_some_iff.mp h
    obtain ⟨rfl, rfl⟩ := Prod.mk.inj same
    exact .pass passed
  | stop =>
    simp only [drain?] at h
    split at h
    · cases h
    · rename_i closed
      obtain ⟨_, stopped, same⟩ := Option.map_eq_some_iff.mp h
      obtain ⟨rfl, rfl⟩ := Prod.mk.inj same
      exact .stop (Bool.of_not_eq_true closed) stopped
  | readOut =>
    obtain ⟨_, read, same⟩ := Option.map_eq_some_iff.mp h
    obtain ⟨rfl, rfl⟩ := Prod.mk.inj same
    exact .readOut read
  | closeOutput =>
    obtain ⟨rfl, rfl⟩ := Prod.mk.inj (Option.some.inj h)
    exact .closeOutput

end Feed

end MarketGateway
