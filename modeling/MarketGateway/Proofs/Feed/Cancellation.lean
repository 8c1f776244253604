import MarketGateway.Proofs.Feed.Room
import MarketGateway.Proofs.Feed.UserEvents
import MarketGateway.Proofs.Runs

/-!
# Cancelling the user feed

A cancelled call comes to its end by its own steps, of which it makes only so many, unless it has a
result to pass on and its reader has left no room for it. Main statement:
`cancelled_call_waits_for_reader_alone`.
-/

namespace MarketGateway.UserFeed

open Feed
open Exchange (orderUpdateChannel)
open UserEvent (eventsOf)

variable {g : Gateway} {f next : UserFeed} {e : Event} {events : List Event}

/-- The steps that the call makes by itself, with nobody at its output and nothing from the server. -/
def Event.isOwn : Event → Bool
  | .consumer .cancelled | .consumer .closed | .deliver => true
  | .events .take | .events .pass | .events .stop => true
  | _ => false

/-- All that is left to do is to pass a result on, and the reader has left no room for it. -/
structure WaitsForReader (f : UserFeed) : Prop where
  consumer : f.consumer.stage = .stopped
  running : f.events.isRunning = true
  holds : f.events.pending ≠ []
  isOpen : f.events.output.isOpen = true
  full : f.events.output.hasRoom = false

/-! ### What is kept -/

structure Kept (f : UserFeed) : Prop where
  routes : Router.Ready [orderUpdateChannel] f.router
  output : f.events.output.Bounded

theorem initial_kept (g : Gateway) (time capacity : Nat) : Kept (initial g time capacity) :=
  ⟨(initial_sound g time capacity).routes, Queue.ofCapacity_bounded capacity⟩

/-- A drain step is one of the drain's, or the drain stops with the call. -/
theorem drainStep?_cases {event : DrainEvent} (h : f.drainStep? event = some next) :
    (∃ router d, event ≠ .stop ∧
        drain? eventsOf orderUpdateChannel f.router f.events event = some (router, d) ∧
        next = { f with router := router, events := d, stopping := f.stopping || d.state = .over }) ∨
      event = .stop ∧ ∃ d, f.events.stop? = some d ∧ next = { f with events := d } := by
  unfold drainStep? at h
  split at h
  · split at h
    · obtain ⟨d, stopped, rfl⟩ := Option.map_eq_some_iff.mp h
      exact .inr ⟨rfl, d, stopped, rfl⟩
    · cases h
  · rename_i other
    obtain ⟨⟨router, d⟩, drained, rfl⟩ := Option.map_eq_some_iff.mp h
    exact .inl ⟨router, d, other, drained, rfl⟩

theorem step?_consumer_cases {event : Consumer.Event} (h : step? g f (.consumer event) = some next) :
    ∃ c, consume? (plan g) f.consumer event = some c ∧ next = { f with consumer := c } := by
  by_cases cancelled : event = .cancelled
  · subst cancelled
    unfold step? at h
    dsimp only at h
    split at h
    · obtain ⟨c, consumed, rfl⟩ := Option.map_eq_some_iff.mp h
      exact ⟨c, consumed, rfl⟩
    · cases h
  · rw [step?_consumer cancelled] at h
    obtain ⟨c, consumed, rfl⟩ := Option.map_eq_some_iff.mp h
    exact ⟨c, consumed, rfl⟩

theorem Kept.step (kept : Kept f) (h : step? g f e = some next) : Kept next := by
  cases e with
  | cancelled =>
    obtain rfl := Option.some.inj h
    exact ⟨kept.routes, kept.output⟩
  | consumer event =>
    obtain ⟨c, -, rfl⟩ := step?_consumer_cases h
    exact ⟨kept.routes, kept.output⟩
  | frame frame time =>
    obtain ⟨c, -, rfl⟩ := Option.map_eq_some_iff.mp h
    exact ⟨kept.routes, kept.output⟩
  | deliver =>
    obtain ⟨⟨c, router⟩, delivered, rfl⟩ := Option.map_eq_some_iff.mp h
    exact ⟨(deliver?_moves kept.routes delivered).1, kept.output⟩
  | events event =>
    rcases drainStep?_cases h with ⟨router, d, -, drained, rfl⟩ | ⟨-, d, stopped, rfl⟩
    · exact ⟨(drain?_keeps kept.routes drained).1, drain?_output_bounded kept.output drained⟩
    · obtain ⟨-, rfl⟩ := stop?_eq_some stopped
      exact ⟨kept.routes, kept.output⟩

theorem stopping_step (stopping : f.stopping = true) (h : step? g f e = some next) :
    next.stopping = true := by
  cases e with
  | cancelled =>
    obtain rfl := Option.some.inj h
    rfl
  | consumer event =>
    obtain ⟨c, -, rfl⟩ := step?_consumer_cases h
    exact stopping
  | frame frame time =>
    obtain ⟨c, -, rfl⟩ := Option.map_eq_some_iff.mp h
    exact stopping
  | deliver =>
    obtain ⟨⟨c, router⟩, -, rfl⟩ := Option.map_eq_some_iff.mp h
    exact stopping
  | events event =>
    rcases drainStep?_cases h with ⟨router, d, -, -, rfl⟩ | ⟨-, d, -, rfl⟩
    · show (f.stopping || _) = true
      rw [stopping, Bool.true_or]
    · exact stopping

theorem run?_kept {time capacity : Nat} (h : run? g (initial g time capacity) events = some f) :
    Kept f ∧ (Event.cancelled ∈ events → f.stopping = true) := by
  refine Runs.induction (motive := fun events f => Kept f ∧ (Event.cancelled ∈ events → f.stopping = true))
    h ⟨initial_kept g time capacity, nofun⟩ ?_
  rintro before f e next ⟨kept, stopping⟩ stepped
  refine ⟨kept.step stepped, fun cancelled => ?_⟩
  rcases List.mem_append.mp cancelled with earlier | now
  · exact stopping_step (stopping earlier) stepped
  · obtain rfl := List.mem_singleton.mp now
    obtain rfl := Option.some.inj stepped
    rfl

/-! ### A next step -/

/-- A consumer that has not stopped closes its session, or begins to. -/
theorem consumer_moves (g : Gateway) (stopping : f.stopping = true) (goesOn : f.consumer.stage ≠ .stopped) :
    ∃ e next, e.isOwn = true ∧ step? g f e = some next := by
  have cancels : ∀ c, Consumer.Step (plan g) f.consumer .cancelled c →
      ∃ e next, Event.isOwn e = true ∧ step? g f e = some next := by
    intro c step
    have consumed : consume? (plan g) f.consumer .cancelled = some c := Consumer.step?_of_step step
    refine ⟨.consumer .cancelled, { f with consumer := c }, rfl, ?_⟩
    unfold step?
    rw [if_pos stopping, consumed]
    rfl
  have closes : ∀ c, Consumer.Step (plan g) f.consumer .closed c →
      ∃ e next, Event.isOwn e = true ∧ step? g f e = some next := by
    intro c step
    have consumed : consume? (plan g) f.consumer .closed = some c := Consumer.step?_of_step step
    refine ⟨.consumer .closed, { f with consumer := c }, rfl, ?_⟩
    show (consume? (plan g) f.consumer .closed).map _ = _
    rw [consumed]
    rfl
  cases stage : f.consumer.stage with
  | stopped => exact (goesOn stage).elim
  -- A close that is under way is not broken off; every other stage is left at once.
  | closing cancelled => exact closes _ (.closed cancelled stage)
  | closingLast => exact closes _ (.lastClosed stage)
  | _ => exact cancels _ (.cancelled (by rw [stage]; rfl))

/-- A drain that runs on passes its next result on, or stops if there is none. -/
theorem drain_moves (g : Gateway) (stopping : f.stopping = true) (running : f.events.isRunning = true)
    (room : f.events.pending ≠ [] → f.events.output.isOpen = true → f.events.output.hasRoom = true) :
    ∃ e next, e.isOwn = true ∧ step? g f e = some next := by
  cases pending : f.events.pending with
  | nil =>
    have idle : f.events.isIdle = true := by
      rw [Drain.isIdle, running, pending]
      rfl
    refine ⟨.events .stop, { f with events := { f.events with state := .over } }, rfl, ?_⟩
    show f.drainStep? .stop = _
    unfold drainStep? Drain.stop?
    rw [if_pos stopping, if_pos idle]
    rfl
  | cons result rest =>
    have passes : ∃ d, f.events.pass? = some d := by
      unfold Drain.pass?
      rw [running, pending]
      by_cases isOpen : f.events.output.isOpen = true
      · have space := room (by rw [pending]; exact List.cons_ne_nil _ _) isOpen
        dsimp only
        rw [if_pos isOpen, Queue.push?, if_pos space]
        exact ⟨_, rfl⟩
      · dsimp only
        rw [if_neg isOpen]
        exact ⟨_, rfl⟩
    obtain ⟨d, passed⟩ := passes
    refine ⟨.events .pass, { f with events := d, stopping := f.stopping || d.state = .over }, rfl, ?_⟩
    show (drain? eventsOf orderUpdateChannel f.router f.events .pass).map _ = _
    rw [drain?, passed]
    rfl

theorem WaitsForReader.unfinished (waits : f.WaitsForReader) : f.isOver = false := by
  rw [isOver, waits.consumer, waits.running]
  rfl

/-- Such a call can only be cancelled again, and its output read or closed. -/
theorem WaitsForReader.step_cases (waits : f.WaitsForReader) (kept : Kept f)
    (h : step? g f e = some next) :
    e = .cancelled ∨ e = .events .readOut ∨ e = .events .closeOutput := by
  cases e with
  | cancelled => exact .inl rfl
  | frame frame time =>
    obtain ⟨c, read, -⟩ := Option.map_eq_some_iff.mp h
    rw [readFrame?, waits.consumer] at read
    cases read
  | consumer event =>
    obtain ⟨c, consumed, -⟩ := step?_consumer_cases h
    exact (Consumer.step_running (consume?_step consumed) waits.consumer).elim
  | deliver =>
    obtain ⟨⟨c, router⟩, delivered, -⟩ := Option.map_eq_some_iff.mp h
    rw [deliver?, waits.consumer] at delivered
    cases delivered
  | events event =>
    rcases drainStep?_cases h with ⟨router, d, other, drained, -⟩ | ⟨-, d, stopped, -⟩
    · cases drainStep_of_drain? drained with
      | take taken =>
        obtain ⟨-, -, message, -, nothing, -⟩ := take?_keeps kept.routes taken
        exact (waits.holds nothing).elim
      | pass passed =>
        obtain ⟨-, result, rest, -, ⟨-, output, pushed, -⟩ | ⟨closed, -⟩⟩ := pass?_eq_some passed
        · rw [Queue.push?, waits.full] at pushed
          cases pushed
        · cases closed.symm.trans waits.isOpen
      | stop => exact (other rfl).elim
      | readOut => exact .inr (.inl rfl)
      | closeOutput => exact .inr (.inr rfl)
    · obtain ⟨idle, -⟩ := stop?_eq_some stopped
      rw [Drain.isIdle, List.isEmpty_eq_false_iff.mpr waits.holds, Bool.and_false] at idle
      cases idle

theorem own_step_iff (g : Gateway) (kept : Kept f) (stopping : f.stopping = true) (unfinished : f.isOver = false) :
    (∃ e next, e.isOwn = true ∧ step? g f e = some next) ↔ ¬ f.WaitsForReader := by
  constructor
  · intro ⟨e, next, own, stepped⟩ waits
    rcases waits.step_cases kept stepped with rfl | rfl | rfl <;> cases own
  · intro free
    by_cases goesOn : f.consumer.stage = .stopped
    · have running : f.events.isRunning = true := by
        simpa [isOver, goesOn] using unfinished
      refine drain_moves g stopping running fun holds isOpen => ?_
      by_contra full
      exact free ⟨goesOn, running, holds, isOpen, Bool.of_not_eq_true full⟩
    · exact consumer_moves g stopping goesOn

/-! ### A last step -/

/-- The steps that it takes to pass a message on once it is in the queue. -/
def cost (message : StreamMessage) : Nat := (resultsOf eventsOf message).length + 1

/-- The steps that a consumer makes at most until it stops. A close that has not seen that the call is
cancelled leads to one more delay, which is broken off. -/
def stageCost : Consumer.Stage → Nat
  | .stopped => 0
  | .closingLast => 1
  | .closing true => 2
  | .closing false => 4
  | .delivering _ message => cost message + 4
  | _ => 3

def drainCost (d : Drain UserEvent) : Nat := d.pending.length + if d.isRunning then 1 else 0

/-- The steps that are left at most if nobody helps the call. -/
def work (f : UserFeed) : Nat :=
  stageCost f.consumer.stage + ((f.router.queued orderUpdateChannel).map cost).sum + drainCost f.events

theorem stageCost_consumes {c : Consumer} {event : Consumer.Event}
    (step : Consumer.Step (plan g) f.consumer event c)
    (own : event = .cancelled ∨ event = .closed) : stageCost c.stage < stageCost f.consumer.stage := by
  cases step with
  | cancelled stage =>
    rw [Consumer.await_stage]
    show 1 < stageCost f.consumer.stage
    cases at_ : f.consumer.stage <;> simp_all [stageCost, Consumer.Stage.isEnding]
  | cancelledClosing stage =>
    rw [stage]
    show 2 < 4
    omega
  | closed cancelled stage =>
    rw [Consumer.onFailureClosed, Consumer.await_stage, stage]
    cases cancelled with
    | false => show 3 < 4; omega
    | true => show 1 < 2; omega
  | lastClosed stage =>
    rw [Consumer.onLastClosed, Consumer.await_stage, stage]
    show 0 < 1
    omega
  | _ => rcases own with own | own <;> cases own

theorem drainCost_takes {router : Router StreamMessage} {d : Drain UserEvent} (kept : Kept f)
    (taken : take? eventsOf orderUpdateChannel f.router f.events = some (router, d)) :
    drainCost d + ((router.queued orderUpdateChannel).map cost).sum <
      drainCost f.events + ((f.router.queued orderUpdateChannel).map cost).sum := by
  obtain ⟨-, -, message, queued, nothing, results, overflows⟩ := take?_keeps kept.routes taken
  rw [queued, List.map_cons, List.sum_cons, cost, drainCost, drainCost, nothing]
  cases converted : eventsOf message with
  | ok made =>
    obtain rfl := results made converted
    have count : (resultsOf eventsOf message).length = made.length := by rw [resultsOf, converted]
    rw [count]
    show made.length + (if f.events.isRunning then 1 else 0) + _ < _
    simp only [List.length_nil]
    omega
  | error overflow =>
    obtain rfl := overflows overflow converted
    show f.events.pending.length + 0 + _ < _
    rw [nothing, List.length_nil]
    omega

theorem drainCost_stops {d : Drain UserEvent} (stopped : f.events.stop? = some d) :
    drainCost d < drainCost f.events := by
  obtain ⟨idle, rfl⟩ := stop?_eq_some stopped
  obtain ⟨running, -⟩ := Bool.and_eq_true_iff.mp idle
  show f.events.pending.length + 0 < f.events.pending.length + if f.events.isRunning then 1 else 0
  rw [if_pos running]
  omega

theorem drainCost_passes {d : Drain UserEvent} (passed : f.events.pass? = some d) :
    drainCost d < drainCost f.events := by
  obtain ⟨-, result, rest, pending, passed⟩ := pass?_eq_some passed
  rw [drainCost, drainCost, pending, List.length_cons]
  rcases passed with ⟨-, output, -, rfl⟩ | ⟨-, rfl⟩
  · show rest.length + (if f.events.isRunning then 1 else 0) < _
    omega
  · show 0 + 0 < _
    omega

theorem stageCost_delivers {c : Consumer} {router : Router StreamMessage} (kept : Kept f)
    (delivered : deliver? (plan g) f.consumer f.router = some (c, router)) :
    stageCost c.stage + ((router.queued orderUpdateChannel).map cost).sum <
      stageCost f.consumer.stage + ((f.router.queued orderUpdateChannel).map cost).sum := by
  obtain ⟨-, -, queues⟩ := deliver?_moves kept.routes delivered
  obtain ⟨channel, message, holding, streaming⟩ := deliver?_stages delivered
  have few : ((f.consumer.held orderUpdateChannel).map cost).sum ≤ cost message := by
    simp only [Consumer.held, holding]
    split
    · exact Nat.le_refl _
    · exact Nat.zero_le _
  rw [queues _ List.mem_cons_self, List.map_append, List.sum_append, holding, streaming]
  show 3 + _ < cost message + 4 + _
  omega

theorem work_decreases (kept : Kept f) (own : e.isOwn = true) (h : step? g f e = some next) :
    next.work < f.work := by
  unfold work
  cases e with
  | cancelled => cases own
  | frame frame time => cases own
  | consumer event =>
    obtain ⟨c, consumed, rfl⟩ := step?_consumer_cases h
    have less : stageCost c.stage < stageCost f.consumer.stage :=
      stageCost_consumes (consume?_step consumed) (by cases event <;> simp_all [Event.isOwn])
    dsimp only
    omega
  | deliver =>
    obtain ⟨⟨c, router⟩, delivered, rfl⟩ := Option.map_eq_some_iff.mp h
    have less := stageCost_delivers kept delivered
    dsimp only
    omega
  | events event =>
    rcases drainStep?_cases h with ⟨router, d, other, drained, rfl⟩ | ⟨-, d, stopped, rfl⟩
    · cases drainStep_of_drain? drained with
      | take taken =>
        have less := drainCost_takes kept taken
        dsimp only
        omega
      | pass passed =>
        have less := drainCost_passes passed
        dsimp only
        omega
      | stop => exact (other rfl).elim
      | readOut => cases own
      | closeOutput => cases own
    · have less := drainCost_stops stopped
      dsimp only
      omega

theorem own_run_length {own : List Event} (kept : Kept f) (alone : ∀ e ∈ own, e.isOwn = true)
    (ran : run? g f own = some next) : own.length + next.work ≤ f.work := by
  induction own generalizing f with
  | nil =>
    obtain rfl := Option.some.inj ran
    exact Nat.le_of_eq (Nat.zero_add _)
  | cons e own ih =>
    obtain ⟨here, later⟩ := List.forall_mem_cons.mp alone
    obtain ⟨middle, stepped, rest⟩ := Runs.cons_eq_some ran
    have first := work_decreases kept here stepped
    have others := ih (kept.step stepped) later rest
    rw [List.length_cons]
    omega

/-! ### The end of a cancelled call -/

/-- Left alone, a call that stops comes to its end, or to wait for its reader. -/
theorem comes_to_rest (g : Gateway) (kept : Kept f) (stopping : f.stopping = true) :
    ∃ own next, (∀ e ∈ own, Event.isOwn e = true) ∧ run? g f own = some next ∧
      (next.isOver = true ∨ next.WaitsForReader) := by
  induction budget : f.work using Nat.strong_induction_on generalizing f with
  | _ budget ih =>
    have alone : ∀ e ∈ ([] : List Event), Event.isOwn e = true := List.forall_mem_nil _
    by_cases ended : f.isOver = true
    · exact ⟨[], f, alone, rfl, .inl ended⟩
    by_cases waits : f.WaitsForReader
    · exact ⟨[], f, alone, rfl, .inr waits⟩
    obtain ⟨e, middle, own, stepped⟩ :=
      (own_step_iff g kept stopping (Bool.of_not_eq_true ended)).mpr waits
    have less := work_decreases kept own stepped
    obtain ⟨later, next, alone, ran, rests⟩ :=
      ih middle.work (budget ▸ less) (kept.step stepped) (stopping_step stopping stepped) rfl
    refine ⟨e :: later, next, List.forall_mem_cons.mpr ⟨own, alone⟩, ?_, rests⟩
    exact Option.bind_eq_some_iff.mpr ⟨middle, stepped, ran⟩

theorem WaitsForReader.released (g : Gateway) (waits : f.WaitsForReader) (kept : Kept f)
    {help : DrainEvent} (reader : help = .readOut ∨ help = .closeOutput) :
    ∃ next, step? g f (.events help) = some next ∧ ¬ next.WaitsForReader := by
  rcases reader with rfl | rfl
  · obtain ⟨result, rest, popped, room⟩ := kept.output.pop?_of_full waits.full
    have read : f.events.readOut? =
        some { f.events with output := rest, read := f.events.read ++ [result] } := by
      rw [Drain.readOut?, popped]
      rfl
    refine ⟨{ f with
      events := { f.events with output := rest, read := f.events.read ++ [result] }
      stopping := f.stopping || f.events.state = .over }, ?_, ?_⟩
    · show (drain? eventsOf orderUpdateChannel f.router f.events .readOut).map _ = _
      rw [drain?, read]
      rfl
    · intro still
      exact absurd room (by rw [still.full]; decide)
  · refine ⟨{ f with
      events := f.events.closeOutput
      stopping := f.stopping || f.events.state = .over }, rfl, ?_⟩
    intro still
    cases still.isOpen

/-- What becomes of a call that has been cancelled. -/
structure EndsByItself (g : Gateway) (f : UserFeed) : Prop where
  /-- As long as it has not ended, it can make a step of its own in every state but one kind. -/
  moves : f.isOver = false →
    ((∃ e next, e.isOwn = true ∧ step? g f e = some next) ↔ ¬ f.WaitsForReader)
  bounded : ∀ own next, (∀ e ∈ own, e.isOwn = true) → run? g f own = some next → own.length ≤ f.work
  rests : ∃ own next, (∀ e ∈ own, Event.isOwn e = true) ∧ run? g f own = some next ∧
    (next.isOver = true ∨ next.WaitsForReader)
  released : f.WaitsForReader → ∀ help, help = .readOut ∨ help = .closeOutput →
    ∃ next, step? g f (.events help) = some next ∧ ¬ next.WaitsForReader

/-- A cancelled call that has not ended waits for its reader only when it has a result to pass on for
which there is no room; then it is enough that the reader reads one, or drops the output. -/
theorem cancelled_call_waits_for_reader_alone {time capacity : Nat}
    (h : run? g (initial g time capacity) events = some f) (cancelled : Event.cancelled ∈ events) :
    EndsByItself g f := by
  obtain ⟨kept, stopping⟩ := run?_kept h
  constructor
  · exact own_step_iff g kept (stopping cancelled)
  · intro own next alone ran
    have length := own_run_length kept alone ran
    omega
  · exact comes_to_rest g kept (stopping cancelled)
  · intro waits help reader
    exact waits.released g kept reader

namespace Abandoned

open Reconnecting (gateway connecting fillFrame)

/-- A fill, of which nobody reads the two events, and then the end of the call. -/
def script : List Event :=
  .consumer .started :: connecting ++
    [.frame (fillFrame "0.4") 2, .deliver, .events .take, .events .pass, .cancelled,
      .consumer .cancelled, .consumer .closed]

theorem waits : ∃ f, run? gateway (initial gateway 0 1) script = some f ∧ f.WaitsForReader := by
  have reached : (run? gateway (initial gateway 0 1) script).map (fun f =>
      f.consumer.stage.isEnding && f.consumer.stage.action?.isNone && f.events.isRunning &&
        !f.events.pending.isEmpty && f.events.output.isOpen && !f.events.output.hasRoom) = some true := by
    decide +kernel
  obtain ⟨f, run, all⟩ := Option.map_eq_some_iff.mp reached
  simp only [Bool.and_eq_true, Bool.not_eq_true'] at all
  obtain ⟨⟨⟨⟨⟨ending, waitsForNothing⟩, running⟩, holds⟩, isOpen⟩, full⟩ := all
  refine ⟨f, run, ?_, running, List.isEmpty_eq_false_iff.mp holds, isOpen, full⟩
  cases stage : f.consumer.stage with
  | stopped => rfl
  | closing cancelled | closingLast =>
    rw [stage] at waitsForNothing
    cases waitsForNothing
  | _ =>
    rw [stage] at ending
    cases ending

theorem cancelled : Event.cancelled ∈ script := by simp [script]

end Abandoned

open Abandoned in
theorem cancelled_call_waits_for_reader_alone_abandoned :
    ∃ f, run? Reconnecting.gateway (initial Reconnecting.gateway 0 1) script = some f ∧
      Event.cancelled ∈ script ∧ f.isOver = false ∧ f.WaitsForReader ∧
      EndsByItself Reconnecting.gateway f := by
  obtain ⟨f, run, waits⟩ := waits
  exact ⟨f, run, cancelled, waits.unfinished, waits,
    cancelled_call_waits_for_reader_alone run cancelled⟩

open Abandoned in
/-- A cancelled call that makes no step until its reader does something. -/
theorem cancelled_call_stuck :
    ∃ f, run? Reconnecting.gateway (initial Reconnecting.gateway 0 1) script = some f ∧
      Event.cancelled ∈ script ∧ f.isOver = false ∧
      ∀ e next, step? Reconnecting.gateway f e = some next →
        e = .cancelled ∨ e = .events .readOut ∨ e = .events .closeOutput := by
  obtain ⟨f, run, waits⟩ := waits
  refine ⟨f, run, cancelled, waits.unfinished, fun e next stepped => ?_⟩
  exact waits.step_cases (run?_kept run).1 stepped

end MarketGateway.UserFeed
