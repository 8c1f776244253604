import MarketGateway.Proofs.Consumer.Step
import MarketGateway.Stream.Rehearsal

/-!
# Runs of a rehearsal

A rehearsal moves its consumer by steps of the consumer alone: what is proved of the runs of a consumer
holds of a rehearsal. The events of that run tell times that never go back, and the session is
called when the consumer begins to connect or to close. Main statement: `perform_is_run`.
-/

namespace MarketGateway

/-! ### Opening and closing -/

namespace Consumer

/-- An entry that says that a session is opened or closed. -/
def Entry.socketAction? : Entry → Option Action
  | .began .connect => some .connect
  | .began .close => some .close
  | _ => none

def socketActions (c : Consumer) : List Action := c.log.filterMap Entry.socketAction?

/-- Whether a stage begins by opening or closing a session. A close that is under way when the loop is
cancelled has begun before. -/
def Stage.socketAction? : Stage → Option Action
  | .connecting => some .connect
  | .closing false | .closingLast => some .close
  | _ => none

variable {p : Plan} {c next : Consumer} {e : Event}

theorem socketActions_await (c : Consumer) (stage : Stage) : (c.await stage).socketActions =
    c.socketActions ++ (stage.action?.bind fun action => Entry.socketAction? (.began action)).toList := by
  rw [socketActions, await_log, List.filterMap_append]
  cases stage.action? with
  | none => rfl
  | some action => cases action <;> rfl

theorem socketActions_note (c : Consumer) (entry : Entry) :
    (c.note entry).socketActions = c.socketActions ++ entry.socketAction?.toList := by
  rw [socketActions, note_log, List.filterMap_append]
  cases entry with
  | began action => cases action <;> rfl
  | _ => rfl

theorem socketActions_publish (c : Consumer) (state : ConnectionState) :
    (c.publish state).socketActions = c.socketActions :=
  (socketActions_note _ _).trans (List.append_nil _)

theorem socketActions_finish (c : Consumer) : c.finish.socketActions = c.socketActions := by
  unfold Consumer.finish
  split
  · exact (socketActions_note _ _).trans (List.append_nil _)
  · rfl

theorem socketActions_openSession (c : Consumer) : c.openSession.socketActions = c.socketActions ++ [.connect] := by
  rw [openSession, socketActions_await, socketActions_publish]
  rfl

theorem socketActions_askFor (p : Plan) (c : Consumer) (streams : List String) :
    (c.askFor p streams).socketActions = c.socketActions ∧ (c.askFor p streams).stage.socketAction? = none := by
  cases streams with
  | nil =>
    rw [askFor, socketActions_await, socketActions_publish, await_stage]
    exact ⟨List.append_nil _, rfl⟩
  | cons stream later =>
    rw [askFor, socketActions_await, await_stage]
    cases p.throttled <;> exact ⟨List.append_nil _, rfl⟩

/-- A step opens or closes at most one session, and the stage that it leads to says which. -/
theorem socketActions_step (step : Step p c e next) :
    next.socketActions = c.socketActions ++ next.stage.socketAction?.toList := by
  have quiet : ∀ d : Consumer, d.socketActions = c.socketActions → d.stage.socketAction? = none →
      d.socketActions = c.socketActions ++ d.stage.socketAction?.toList := by
    intro d same none
    rw [same, none]
    exact (List.append_nil _).symm
  have asked : ∀ (d : Consumer) (streams : List String), d.socketActions = c.socketActions →
      (d.askFor p streams).socketActions = c.socketActions ++ (d.askFor p streams).stage.socketAction?.toList := by
    intro d streams same
    obtain ⟨kept, none⟩ := socketActions_askFor p d streams
    exact quiet _ (kept.trans same) none
  cases step with
  | cancelled | connectFailed | connectTimedOut | subscribeFailed | readFailed | readFinished =>
    exact socketActions_await c _
  | cancelledClosing | delivered => exact quiet _ rfl rfl
  | started => exact socketActions_openSession c
  | waited =>
    refine (socketActions_openSession _).trans ?_
    rw [socketActions_finish]
    rfl
  | connected time =>
    exact asked _ _ ((socketActions_publish _ _).trans (socketActions_finish c))
  | slotTaken stream later => exact (socketActions_await _ _).trans (by rw [socketActions_finish, await_stage]; rfl)
  | subscribed stream later => exact asked _ _ (socketActions_finish c)
  | received message time stage =>
    refine quiet _ (congrArg (List.filterMap Entry.socketAction?) (onReceived_log c message time)) ?_
    unfold onReceived
    dsimp only
    split
    · rfl
    · exact congrArg Stage.socketAction? stage
  | checked time lastFrameAt stage =>
    have observed : (c.observe lastFrameAt).socketActions = c.socketActions :=
      congrArg (List.filterMap Entry.socketAction?) (observe_log c lastFrameAt)
    unfold onCheck
    dsimp only
    split
    · exact (socketActions_await _ _).trans (by rw [observed, fail_stage]; rfl)
    · exact quiet _ observed (by rw [observe_stage, stage]; rfl)
  | closed cancelled =>
    refine (socketActions_await _ _).trans ?_
    have kept : (c.finish.publish .disconnected).socketActions = c.socketActions :=
      (socketActions_publish _ _).trans (socketActions_finish c)
    cases cancelled with
    | false => exact congrArg (· ++ []) kept
    | true => exact congrArg (· ++ [.close]) kept
  | lastClosed =>
    refine quiet _ ?_ rfl
    rw [onLastClosed, socketActions_await, socketActions_note, socketActions_publish, socketActions_finish]
    simp [Stage.action?, Entry.socketAction?]

end Consumer

namespace Rehearsal

open Consumer (Action Event Stage)

variable {s : Script} {r next : State} {e : Event}

/-! ### Calls -/

def CallKind.socketAction? : CallKind → Option Action
  | .connect => some .connect
  | .close => some .close
  | .subscribe => none

/-- The calls that open and close sessions; the others ask for streams. -/
def State.socketActions (r : State) : List Action := r.calls.filterMap fun call => call.kind.socketAction?

theorem socketActions_note (r : State) (kind : CallKind) (request : Option Json) :
    (r.note kind request).socketActions = r.socketActions ++ kind.socketAction?.toList := by
  rw [State.socketActions, State.note, List.filterMap_append]
  cases kind <;> rfl

@[simp] theorem await_consumer (s : Script) (r : State) (e : Event) : (r.await s e).consumer = r.consumer := by
  unfold State.await
  split <;> rfl

@[simp] theorem await_now (s : Script) (r : State) (e : Event) : (r.await s e).now = r.now := by
  unfold State.await
  split <;> rfl

/-- A call is made if and only if the stage begins with one. -/
theorem socketActions_await (s : Script) (r : State) (e : Event) :
    (r.await s e).socketActions = r.socketActions ++ r.consumer.stage.socketAction?.toList := by
  unfold State.await
  cases stage : r.consumer.stage with
  | connecting | closingLast => exact socketActions_note _ _ _
  | closing cancelled =>
    cases cancelled with
    | true => exact (List.append_nil _).symm
    | false => exact socketActions_note _ _ _
  | streaming => cases e <;> exact (List.append_nil _).symm
  | _ => exact (List.append_nil _).symm

/-! ### The clock -/

/-- The time that an event tells. -/
def time? : Event → Option Nat
  | .connected time | .received _ time | .checked time _ => some time
  | _ => none

/-- Nothing that is waited for is overdue. -/
def Punctual (r : State) : Prop :=
  match r.consumer.stage with
  | .connecting => r.now ≤ r.resumeAt ∧ r.waitUntil = none
  | .awaitingSlot _ _ | .subscribing _ _ => r.waitUntil = none
  | .streaming | .delivering _ _ => r.now ≤ r.nextCheck ∧ ∀ time ∈ r.readAt, r.now ≤ time
  | .backingOff _ => r.now ≤ r.resumeAt
  | .ready | .closing _ | .closingLast | .stopped => True

/-- A step is not overdue if the wait that has begun for it, if any, is not. -/
theorem readAt_later (begun : ∀ time ∈ r.waitUntil, r.now ≤ time) : ∀ time ∈ r.readAt, r.now ≤ time := by
  intro time due
  unfold State.readAt at due
  split at due
  · cases due
  · obtain rfl := Option.some.inj due
    cases waits : r.waitUntil with
    | none => exact Nat.le_add_right _ _
    | some time => exact begun time waits
  · obtain rfl := Option.some.inj due
    exact Nat.le_refl _

theorem steps_of_readAt (nothing : r.readAt = none) : r.current.steps = [] := by
  unfold State.readAt at nothing
  split at nothing
  · assumption
  · cases nothing
  · cases nothing

theorem punctual_of_streaming (stage : r.consumer.stage = .streaming) (check : r.now ≤ r.nextCheck)
    (step : ∀ time ∈ r.readAt, r.now ≤ time) : Punctual r := by
  simp only [Punctual, stage]
  exact ⟨check, step⟩

/-- A loop that goes on streaming still waits for the check that it has been waiting for. -/
theorem Punctual.await_streaming (punctual : Punctual r) (stage : r.consumer.stage = .streaming)
    (other : e ≠ .subscribed) (unconnected : ∀ time, e ≠ .connected time) : Punctual (r.await s e) := by
  have same : r.await s e = r := by
    unfold State.await
    rw [stage]
    cases e with
    | connected time => exact (unconnected time rfl).elim
    | subscribed => exact (other rfl).elim
    | _ => rfl
  rw [same]
  exact punctual

theorem punctual_asked {p : Consumer.Plan} {c : Consumer} (streams : List String)
    (asked : r.consumer = c.askFor p streams) (unbegun : r.waitUntil = none)
    (answered : e = .subscribed ∨ ∃ time, e = .connected time) : Punctual (r.await s e) := by
  have stage := congrArg Consumer.stage asked
  cases streams with
  | nil =>
    rw [Consumer.askFor, Consumer.await_stage] at stage
    refine punctual_of_streaming (by rw [await_consumer, stage]) ?_ ?_
    all_goals
      unfold State.await
      rw [stage]
      rcases answered with rfl | ⟨time, rfl⟩
    · exact Nat.le_add_right _ _
    · exact Nat.le_add_right _ _
    · exact readAt_later (by simp [unbegun])
    · exact readAt_later (by simp [unbegun])
  | cons stream later =>
    rw [Consumer.askFor, Consumer.await_stage] at stage
    split at stage
    · simpa [Punctual, State.await, stage] using unbegun
    · simpa [Punctual, State.await, stage] using unbegun

/-- A cancellation may come late: it ends every wait. -/
theorem react_punctual (early : e ≠ .cancelled → Punctual r) (reacted : r.react s e = some next) :
    Punctual next := by
  obtain ⟨c, stepped, rfl⟩ := Option.map_eq_some_iff.mp reacted
  cases Consumer.step_of_step? stepped with
  | cancelled | connectFailed | connectTimedOut | subscribeFailed | readFailed | readFinished =>
    simp [Punctual]
  | cancelledClosing => simp [Punctual]
  | started | waited =>
    simp [Consumer.openSession, Punctual, State.await, State.beginConnect, State.note]
  | connected time stage =>
    have punctual := early (by simp)
    simp only [Punctual, stage] at punctual
    exact punctual_asked _ rfl punctual.2 (.inr ⟨time, rfl⟩)
  | slotTaken stream later stage =>
    have punctual := early (by simp)
    simp only [Punctual, stage] at punctual
    simpa [Punctual, State.await] using punctual
  | subscribed stream later stage =>
    have punctual := early (by simp)
    simp only [Punctual, stage] at punctual
    exact punctual_asked _ rfl punctual (.inl rfl)
  | received message time stage =>
    have punctual := early (by simp)
    simp only [Punctual, stage] at punctual
    unfold Consumer.onReceived
    dsimp only
    split
    · exact punctual
    · refine Punctual.await_streaming ?_ stage (by simp) (by simp)
      exact punctual_of_streaming stage punctual.1 punctual.2
  | checked time lastFrameAt stage =>
    have punctual := early (by simp)
    simp only [Punctual, stage] at punctual
    unfold Consumer.onCheck
    dsimp only
    split
    · simp [Punctual]
    · have streaming : (r.consumer.observe lastFrameAt).stage = .streaming := by
        rw [Consumer.observe_stage, stage]
      refine Punctual.await_streaming ?_ streaming (by simp) (by simp)
      exact punctual_of_streaming streaming punctual.1 punctual.2
  | delivered channel message stage =>
    have punctual := early (by simp)
    simp only [Punctual, stage] at punctual
    exact punctual_of_streaming rfl punctual.1 punctual.2
  | closed cancelled =>
    cases cancelled with
    | true => simp [Punctual, Consumer.onFailureClosed]
    | false => simp [Punctual, Consumer.onFailureClosed, State.await]
  | lastClosed => simp [Punctual, Consumer.onLastClosed]

/-! ### Turns -/

/-- What a turn does: at the time that it is, the consumer makes a step or none. -/
structure Turn (s : Script) (r : State) (e : Option Event) (next : State) : Prop where
  ran : Consumer.run? s.plan r.consumer e.toList = some next.consumer
  now : next.now = r.now
  told : ∀ event ∈ e, ∀ time ∈ time? event, time = r.now
  calls : r.socketActions = r.consumer.socketActions → next.socketActions = next.consumer.socketActions
  punctual : Punctual next

theorem turn_of_skip (punctual : Punctual next) (consumer : next.consumer = r.consumer)
    (now : next.now = r.now) (calls : next.socketActions = r.socketActions) : ∃ e, Turn s r e next := by
  refine ⟨none, congrArg some consumer.symm, now, ?_, ?_, punctual⟩
  · intro event member
    cases member
  · intro same
    rw [calls, consumer, same]

/-- A turn with one reaction, which may come after some preparation. -/
theorem turn_of_react {before : State} (stepped : before.react s e = some next)
    (early : e ≠ .cancelled → Punctual before) (consumer : before.consumer = r.consumer)
    (now : before.now = r.now) (calls : before.socketActions = r.socketActions)
    (told : ∀ time ∈ time? e, time = r.now) :
    ∃ e, Turn s r e next := by
  have punctual := react_punctual early stepped
  obtain ⟨c, moved, rfl⟩ := Option.map_eq_some_iff.mp stepped
  rw [consumer] at moved
  refine ⟨some e, ?_, ?_, ?_, ?_, punctual⟩
  · rw [Option.toList_some, await_consumer, Consumer.run?, List.foldlM_cons, moved]
    rfl
  · rw [await_now, now]
  · intro event member
    obtain rfl := Option.some.inj member
    exact told
  · intro same
    have begun := Consumer.socketActions_step (Consumer.step_of_step? moved)
    rw [socketActions_await, await_consumer, begun, ← same, ← calls]
    rfl

theorem finishConnect_turn (punctual : Punctual r) (turned : r.finishConnect s = some next) :
    ∃ e, Turn s r e next := by
  unfold State.finishConnect at turned
  split at turned
  · exact turn_of_react turned (fun _ => punctual) rfl rfl rfl (by simp [time?])
  split at turned
  · exact turn_of_react turned (fun _ => punctual) rfl rfl rfl (by simp [time?])
  · exact turn_of_react turned (fun _ => punctual) rfl rfl rfl (by simp [time?])

theorem subscribe_turn {stream : String} (punctual : Punctual r) (turned : r.subscribe s stream = some next) :
    ∃ e, Turn s r e next := by
  unfold State.subscribe at turned
  split at turned
  · exact turn_of_react turned (fun _ => punctual) rfl rfl rfl (by simp [time?])
  · have calls (request : Option Json) :
        ({ r with subscriptions := r.subscriptions + 1 }.note .subscribe request).socketActions = r.socketActions :=
      (socketActions_note _ _ _).trans (List.append_nil _)
    dsimp only at turned
    split at turned
    · exact turn_of_react turned (fun _ => punctual) rfl rfl (calls _) (by simp [time?])
    · exact turn_of_react turned (fun _ => punctual) rfl rfl (calls _) (by simp [time?])

theorem read_turn (stage : r.consumer.stage = .streaming) (check : r.now ≤ r.nextCheck)
    (turned : r.read s = some next) : ∃ e, Turn s r e next := by
  unfold State.read at turned
  split at turned
  · cases turned
  · have punctual (steps : List Step) (seen : Option Nat) : Punctual { r with
        current := { r.current with steps := steps }, waitUntil := none, lastFrameAt := seen } :=
      punctual_of_streaming stage check (readAt_later (by simp))
    dsimp only at turned
    split at turned
    · obtain rfl := Option.some.inj turned
      exact turn_of_skip (punctual _ _) rfl rfl rfl
    · exact turn_of_react turned (fun _ => punctual _ _) rfl rfl rfl (by simp [time?])
    · exact turn_of_react turned (fun _ => punctual _ _) rfl rfl rfl (by simp [time?])
    · split at turned
      · exact turn_of_react turned (fun _ => punctual _ _) rfl rfl rfl (by simp [time?])
      · obtain rfl := Option.some.inj turned
        exact turn_of_skip (punctual _ _) rfl rfl rfl

theorem check_turn {before : State} (turned : before.check s = some next)
    (stage : before.consumer.stage = .streaming) (step : ∀ time ∈ before.readAt, before.now ≤ time)
    (consumer : before.consumer = r.consumer) (now : before.now = r.now)
    (calls : before.socketActions = r.socketActions) : ∃ e, Turn s r e next :=
  turn_of_react turned (fun _ => punctual_of_streaming stage (Nat.le_add_right _ _) step) consumer now calls
    (by simp [time?, now])

theorem takeOut_cases (s : Script) (r : State) (channel : String) :
    ∃ router deliveries, r.takeOut s channel = { r with router := router, deliveries := deliveries } := by
  unfold State.takeOut
  split
  · exact ⟨_, _, rfl⟩
  split
  · split
    · exact ⟨_, _, rfl⟩
    · exact ⟨_, _, rfl⟩
  · exact ⟨_, _, rfl⟩

theorem deliver_turn {channel : String} {message : StreamMessage} (punctual : Punctual r)
    (turned : r.deliver s channel message = some next) : ∃ e, Turn s r e next := by
  obtain ⟨router, _, turned⟩ := Option.bind_eq_some_iff.mp turned
  obtain ⟨emptied, deliveries, taken⟩ := takeOut_cases s { r with router := router } channel
  rw [taken] at turned
  exact turn_of_react turned (fun _ => punctual) rfl rfl rfl (by simp [time?])

theorem cancel_turn {time : Nat} (turned : r.cancel s time = some next) :
    ∃ e, Turn s { r with now := max r.now time } e next :=
  turn_of_react turned (fun late => (late rfl).elim) rfl rfl rfl (by simp [time?])

/-- The next turn is not in the past. -/
theorem nextTurn_turn {time : Nat} {turn : State → Option State} (punctual : Punctual r)
    (due : r.nextTurn s = some (time, turn)) (turned : turn { r with now := time } = some next) :
    r.now ≤ time ∧ ∃ e, Turn s { r with now := time } e next := by
  unfold State.nextTurn at due
  cases stage : r.consumer.stage with
  | ready | awaitingSlot | closing | closingLast =>
    simp only [stage] at due
    obtain ⟨rfl, rfl⟩ := Prod.mk.inj (Option.some.inj due)
    exact ⟨Nat.le_refl _, turn_of_react turned (fun _ => punctual) rfl rfl rfl (by simp [time?])⟩
  | connecting =>
    simp only [stage] at due
    simp only [Punctual, stage] at punctual
    obtain ⟨rfl, rfl⟩ := Prod.mk.inj (Option.some.inj due)
    refine ⟨punctual.1, finishConnect_turn ?_ turned⟩
    simpa [Punctual, stage] using punctual.2
  | subscribing stream later =>
    simp only [stage] at due
    obtain ⟨rfl, rfl⟩ := Prod.mk.inj (Option.some.inj due)
    exact ⟨Nat.le_refl _, subscribe_turn punctual turned⟩
  | streaming =>
    simp only [stage] at due
    simp only [Punctual, stage] at punctual
    obtain ⟨check, step⟩ := punctual
    split at due
    · rename_i time readable
      split at due
      · rename_i first
        obtain ⟨rfl, rfl⟩ := Prod.mk.inj (Option.some.inj due)
        exact ⟨step _ readable, read_turn stage first turned⟩
      · rename_i later
        obtain ⟨rfl, rfl⟩ := Prod.mk.inj (Option.some.inj due)
        refine ⟨check, check_turn turned stage (readAt_later ?_) rfl rfl rfl⟩
        simpa using Nat.le_of_not_ge later
    · rename_i nothing
      obtain ⟨rfl, rfl⟩ := Prod.mk.inj (Option.some.inj due)
      refine ⟨check, check_turn turned stage ?_ rfl rfl rfl⟩
      simp [State.readAt, steps_of_readAt nothing]
  | delivering channel message =>
    simp only [stage] at due
    split at due
    · obtain ⟨rfl, rfl⟩ := Prod.mk.inj (Option.some.inj due)
      exact ⟨Nat.le_refl _, deliver_turn punctual turned⟩
    · cases due
  | backingOff delay =>
    simp only [stage] at due
    simp only [Punctual, stage] at punctual
    obtain ⟨rfl, rfl⟩ := Prod.mk.inj (Option.some.inj due)
    have due : Punctual { r with now := r.resumeAt } := by simp [Punctual, stage]
    exact ⟨punctual, turn_of_react turned (fun _ => due) rfl rfl rfl (by simp [time?])⟩
  | stopped =>
    simp only [stage] at due
    cases due

theorem advance_turn (punctual : Punctual r) (advanced : r.advance s = some next) :
    ∃ time, r.now ≤ time ∧ ∃ e, Turn s { r with now := time } e next := by
  unfold State.advance at advanced
  split at advanced
  · rename_i time turn cancelAt due _
    split at advanced
    · exact ⟨time, nextTurn_turn punctual due advanced⟩
    · exact ⟨_, Nat.le_max_left _ _, cancel_turn advanced⟩
  · rename_i time turn due _
    exact ⟨time, nextTurn_turn punctual due advanced⟩
  · exact ⟨_, Nat.le_max_left _ _, cancel_turn advanced⟩
  · cases advanced

/-! ### Runs -/

/-- The state shows the run of a consumer with these events. -/
structure Plays (s : Script) (events : List Event) (r : State) : Prop where
  ran : Consumer.run? s.plan (.initial 0) events = some r.consumer
  ordered : (events.filterMap time?).Pairwise (· ≤ ·)
  past : ∀ time ∈ events.filterMap time?, time ≤ r.now
  calls : r.socketActions = r.consumer.socketActions

theorem Turn.plays {events : List Event} {e : Option Event} (turn : Turn s r e next)
    (plays : Plays s events r) : Plays s (events ++ e.toList) next := by
  have told : ∀ time ∈ e.toList.filterMap time?, time = r.now := by
    intro time member
    obtain ⟨event, here, tells⟩ := List.mem_filterMap.mp member
    exact turn.told event (Option.mem_toList.mp here) time tells
  refine ⟨?_, ?_, ?_, turn.calls plays.calls⟩
  · have ran := plays.ran
    rw [Consumer.run?] at ran ⊢
    rw [List.foldlM_append, ran]
    exact turn.ran
  · rw [List.filterMap_append, List.pairwise_append]
    refine ⟨plays.ordered, ?_, ?_⟩
    · cases e with
      | none => exact .nil
      | some event => cases tells : time? event <;> simp [tells]
    · intro old before new member
      rw [told new member]
      exact plays.past old before
  · intro time member
    rw [List.filterMap_append, List.mem_append] at member
    rw [turn.now]
    rcases member with old | new
    · exact plays.past time old
    · exact Nat.le_of_eq (told time new)

theorem run_plays (turns : Nat) {events : List Event} (plays : Plays s events r) (punctual : Punctual r) :
    ∃ later, Plays s (events ++ later) (State.run s turns r) := by
  induction turns generalizing events r with
  | zero => exact ⟨[], by rwa [List.append_nil]⟩
  | succ turns ih =>
    unfold State.run
    split
    · rename_i next advanced
      obtain ⟨time, later, e, turn⟩ := advance_turn punctual advanced
      have moved : Plays s events { r with now := time } :=
        ⟨plays.ran, plays.ordered, fun told member => Nat.le_trans (plays.past told member) later, plays.calls⟩
      obtain ⟨rest, played⟩ := ih (turn.plays moved) turn.punctual
      exact ⟨e.toList ++ rest, by rwa [← List.append_assoc]⟩
    · exact ⟨[], by rwa [List.append_nil]⟩

/-- A rehearsal is a run of the consumer: each of its events is one that the consumer was waiting for,
they happen in the order of their times, and the session is called to connect and to close when the
consumer begins to. -/
theorem perform_is_run (s : Script) (router : Router StreamMessage) (sessions : List ScriptedSession) :
    ∃ events, Plays s events (perform s router sessions) := by
  have start : Plays s [] (State.initial s router sessions) := by
    refine ⟨rfl, .nil, ?_, rfl⟩
    intro time member
    cases member
  exact run_plays _ start trivial

end Rehearsal

end MarketGateway
