import Mathlib.Data.List.Chain
import MarketGateway.Proofs.Consumer.Step

/-!
# The life cycle of a consumer

Whatever happens to its sessions, a consumer goes from one connection state to the next or back to
`disconnected`, closes every session before it connects again, and returns without an error once it
is cancelled, and only then. The main statement is `life_cycle`.
-/

namespace MarketGateway

inductive ConnectionState.Follows : ConnectionState → ConnectionState → Prop where
  | connecting : Follows .disconnected .connecting
  | subscribing : Follows .connecting .subscribing
  | streaming : Follows .subscribing .streaming
  | disconnected (state : ConnectionState) : Follows state .disconnected

namespace Consumer

/-! ### Published states -/

def Entry.state? : Entry → Option ConnectionState
  | .published state => some state
  | _ => none

/-- The states that others have seen, the one before the first step included. -/
def published (c : Consumer) : List ConnectionState := .disconnected :: c.log.filterMap Entry.state?

/-- The state in which others see a consumer at a stage. A session that is being closed still shows
the state that it had come to. -/
def Stage.Shows : Stage → ConnectionState → Prop
  | .ready, state | .backingOff _, state | .stopped, state => state = .disconnected
  | .connecting, state => state = .connecting
  | .awaitingSlot _ _, state | .subscribing _ _, state => state = .subscribing
  | .streaming, state | .delivering _ _, state => state = .streaming
  | .closing _, _ | .closingLast, _ => True

/-- The published states follow each other, up to the one that is shown. -/
def InOrder (c : Consumer) : Prop :=
  c.published.IsChain ConnectionState.Follows ∧ c.published.getLast? = some c.state

theorem inOrder_of_same {c next : Consumer} (ordered : InOrder c)
    (states : next.log.filterMap Entry.state? = c.log.filterMap Entry.state?)
    (state : next.state = c.state) : InOrder next := by
  unfold InOrder published at *
  rwa [states, state]

theorem InOrder.publish {c : Consumer} {state : ConnectionState} (ordered : InOrder c)
    (follows : c.state.Follows state) : InOrder (c.publish state) := by
  obtain ⟨chain, current⟩ := ordered
  have extended : (c.publish state).published = c.published ++ [state] := by
    simp [published, Entry.state?]
  constructor
  · rw [extended, List.isChain_append]
    refine ⟨chain, .singleton _, ?_⟩
    intro before last after first
    rw [current] at last
    obtain rfl := Option.some.inj last
    obtain rfl := Option.some.inj first
    exact follows
  · simp [extended]

theorem InOrder.await {c : Consumer} (ordered : InOrder c) (stage : Stage) :
    InOrder (c.await stage) := by
  refine inOrder_of_same ordered ?_ (await_state c stage)
  cases stage <;> simp [Stage.action?, Entry.state?]

theorem InOrder.finish {c : Consumer} (ordered : InOrder c) : InOrder c.finish := by
  refine inOrder_of_same ordered ?_ (finish_state c)
  cases stage : c.stage <;> simp [stage, Stage.action?, Entry.state?]

theorem InOrder.askFor {c : Consumer} (p : Plan) (ordered : InOrder c) (streams : List String)
    (subscribing : c.state = .subscribing) : InOrder (c.askFor p streams) := by
  cases streams with
  | nil => exact (ordered.publish (subscribing ▸ .streaming)).await _
  | cons stream later => exact ordered.await _

theorem askFor_shows {p : Plan} {c : Consumer} (streams : List String)
    (subscribing : c.state = .subscribing) :
    (c.askFor p streams).stage.Shows (c.askFor p streams).state := by
  cases streams with
  | nil => simp [askFor, Stage.Shows]
  | cons stream later =>
    cases throttled : p.throttled <;> simp [askFor, throttled, Stage.Shows, subscribing]

theorem step_shows {p : Plan} {c next : Consumer} {e : Event} (shows : c.stage.Shows c.state)
    (step : Step p c e next) : next.stage.Shows next.state := by
  cases step with
  | cancelled | cancelledClosing | connectFailed | connectTimedOut | subscribeFailed | readFailed
  | readFinished => simp [Stage.Shows]
  | started | waited => simp [openSession, Stage.Shows]
  | connected => exact askFor_shows _ (publish_state _ _)
  | slotTaken stream later stage => simpa [stage, Stage.Shows] using shows
  | subscribed stream later stage =>
    exact askFor_shows later (by simpa [stage, Stage.Shows] using shows)
  | received message time stage =>
    simp only [stage, Stage.Shows] at shows
    unfold onReceived
    dsimp only
    split <;> simp [stage, shows, Stage.Shows]
  | checked time lastFrameAt stage =>
    simp only [stage, Stage.Shows] at shows
    unfold onCheck
    dsimp only
    split <;> simp [stage, shows, Stage.Shows]
  | delivered channel message stage => simpa [stage, Stage.Shows] using shows
  | closed cancelled stage => cases cancelled <;> simp [onFailureClosed, Stage.Shows]
  | lastClosed => simp [onLastClosed, Stage.Shows]

theorem step_inOrder {p : Plan} {c next : Consumer} {e : Event} (shows : c.stage.Shows c.state)
    (ordered : InOrder c) (step : Step p c e next) : InOrder next := by
  cases step with
  | cancelled | connectFailed | connectTimedOut | subscribeFailed | readFailed | readFinished =>
    exact ordered.await _
  | cancelledClosing | delivered => exact inOrder_of_same ordered rfl rfl
  | started stage =>
    simp only [stage, Stage.Shows] at shows
    exact (ordered.publish (shows ▸ .connecting)).await _
  | waited delay stage =>
    simp only [stage, Stage.Shows] at shows
    exact (ordered.finish.publish (by rw [finish_state, shows]; exact .connecting)).await _
  | connected time stage =>
    simp only [stage, Stage.Shows] at shows
    refine InOrder.askFor p (InOrder.publish ?_ ?_) _ (publish_state _ _)
    · exact inOrder_of_same ordered.finish rfl rfl
    · dsimp only
      rw [finish_state, shows]
      exact .subscribing
  | slotTaken => exact ordered.finish.await _
  | subscribed stream later stage =>
    simp only [stage, Stage.Shows] at shows
    exact ordered.finish.askFor p later (by rw [finish_state, shows])
  | received message time => exact inOrder_of_same ordered (by simp) (by simp)
  | checked time lastFrameAt =>
    have observed : InOrder (c.observe lastFrameAt) := inOrder_of_same ordered (by simp) (by simp)
    unfold onCheck
    dsimp only
    split
    · exact observed.await _
    · exact observed
  | closed cancelled =>
    refine InOrder.await ?_ _
    exact inOrder_of_same (ordered.finish.publish (.disconnected _)) rfl rfl
  | lastClosed =>
    refine InOrder.await (inOrder_of_same (ordered.finish.publish (.disconnected _)) ?_ ?_) _
    · simp [Entry.state?]
    · simp

/-! ### Closing -/

/-- A close came to its end after every attempt to connect. -/
def Settled (log : List Entry) : Prop :=
  ∀ i : Nat, log[i]? = some (.began .connect) → ∃ k : Nat, i < k ∧ log[k]? = some (.finished .close)

/-- Between two attempts to connect a close came to its end. -/
def ClosedBetween (log : List Entry) : Prop :=
  ∀ i j : Nat, i < j → log[i]? = some (.began .connect) → log[j]? = some (.began .connect) →
    ∃ k : Nat, i < k ∧ k < j ∧ log[k]? = some (.finished .close)

theorem getElem?_push {log : List Entry} {entry found : Entry} {i : Nat}
    (h : (log ++ [entry])[i]? = some found) :
    log[i]? = some found ∨ (i = log.length ∧ entry = found) := by
  rw [List.getElem?_append] at h
  split at h
  · exact .inl h
  · rename_i beyond
    obtain ⟨last, same⟩ := List.getElem?_eq_some_iff.mp h
    rw [List.length_singleton] at last
    exact .inr ⟨by omega, by simpa using same⟩

theorem getElem?_kept {log : List Entry} {found : Entry} {k : Nat} (later : List Entry)
    (h : log[k]? = some found) : (log ++ later)[k]? = some found := by
  obtain ⟨inside, same⟩ := List.getElem?_eq_some_iff.mp h
  rw [List.getElem?_append_left inside, h]

theorem settled_nil : Settled [] := by
  intro i h
  simp at h

theorem Settled.push {log : List Entry} {e : Entry} (settled : Settled log)
    (other : e ≠ .began .connect) : Settled (log ++ [e]) := by
  intro i h
  rcases getElem?_push h with before | ⟨-, same⟩
  · obtain ⟨k, after, closed⟩ := settled i before
    exact ⟨k, after, getElem?_kept _ closed⟩
  · exact (other same).elim

theorem settled_closed (log : List Entry) : Settled (log ++ [.finished .close]) := by
  intro i h
  rcases getElem?_push h with before | ⟨-, same⟩
  · obtain ⟨inside, -⟩ := List.getElem?_eq_some_iff.mp before
    exact ⟨log.length, inside, by simp⟩
  · cases same

theorem closedBetween_nil : ClosedBetween [] := by
  intro i j _ h
  simp at h

theorem ClosedBetween.push {log : List Entry} {e : Entry} (closed : ClosedBetween log)
    (settled : e = .began .connect → Settled log) : ClosedBetween (log ++ [e]) := by
  intro i j before first second
  rcases getElem?_push second with inside | ⟨rfl, same⟩
  · obtain ⟨bound, -⟩ := List.getElem?_eq_some_iff.mp inside
    rw [List.getElem?_append_left (by omega)] at first
    obtain ⟨k, after, earlier, done⟩ := closed i j before first inside
    exact ⟨k, after, earlier, getElem?_kept _ done⟩
  · rw [List.getElem?_append_left before] at first
    obtain ⟨k, after, done⟩ := settled same i first
    obtain ⟨bound, -⟩ := List.getElem?_eq_some_iff.mp done
    exact ⟨k, after, bound, getElem?_kept _ done⟩

/-- There is no session that has been opened and not been closed. -/
def Stage.isIdle : Stage → Bool
  | .ready | .backingOff _ | .stopped => true
  | _ => false

/-- Sessions are closed in time, and all of them when the loop is idle. -/
def Closes (c : Consumer) : Prop :=
  ClosedBetween c.log ∧ (c.stage.isIdle → Settled c.log)

theorem closes_of_same {c next : Consumer} (closes : Closes c) (log : next.log = c.log)
    (stage : next.stage.isIdle = true → c.stage.isIdle = true) : Closes next :=
  ⟨log ▸ closes.1, fun idle => log ▸ closes.2 (stage idle)⟩

theorem Closes.note {c : Consumer} {e : Entry} (closes : Closes c) (other : e ≠ .began .connect) :
    Closes (c.note e) :=
  ⟨closes.1.push fun same => (other same).elim, fun idle => (closes.2 idle).push other⟩

theorem Closes.publish {c : Consumer} (closes : Closes c) (state : ConnectionState) :
    Closes (c.publish state) :=
  Closes.note (c := { c with state := state }) (closes_of_same closes rfl id) (by simp)

theorem Closes.finish {c : Consumer} (closes : Closes c) : Closes c.finish := by
  unfold Consumer.finish
  split
  · exact closes.note (by simp)
  · exact closes

theorem Closes.await {c : Consumer} {stage : Stage} (closes : Closes c)
    (active : stage.isIdle = false) (other : stage.action? ≠ some .connect) :
    Closes (c.await stage) := by
  have waiting : Closes { c with stage := stage } := closes_of_same closes rfl (by simp [active])
  unfold Consumer.await
  split
  · rename_i action found
    exact waiting.note (by rintro ⟨⟩; exact other found)
  · exact waiting

theorem Closes.askFor {c : Consumer} (p : Plan) (closes : Closes c) (streams : List String) :
    Closes (c.askFor p streams) := by
  cases streams with
  | nil => exact (closes.publish _).await rfl (by simp [Stage.action?])
  | cons stream later =>
    refine closes.await ?_ ?_
    all_goals cases p.throttled <;> simp [Stage.isIdle, Stage.action?]

theorem Closes.openSession {c : Consumer} (closes : Closes c) (idle : c.stage.isIdle = true) :
    Closes c.openSession := by
  have ready := closes.publish .connecting
  refine ⟨?_, by simp [Consumer.openSession, Stage.isIdle]⟩
  simp only [Consumer.openSession, await_log]
  exact ready.1.push fun _ => ready.2 idle

theorem step_closes {p : Plan} {c next : Consumer} {e : Event} (closes : Closes c)
    (step : Step p c e next) : Closes next := by
  cases step with
  | cancelled | connectFailed | connectTimedOut | subscribeFailed | readFailed | readFinished =>
    exact closes.await rfl (by simp [Stage.action?])
  | cancelledClosing => exact closes_of_same closes rfl (by simp [Stage.isIdle])
  | started stage => exact closes.openSession (by simp [stage, Stage.isIdle])
  | waited delay stage => exact closes.finish.openSession (by simp [stage, Stage.isIdle])
  | connected time =>
    refine Closes.askFor p (Closes.publish ?_ _) _
    exact closes_of_same closes.finish rfl id
  | slotTaken => exact closes.finish.await rfl (by simp [Stage.action?])
  | subscribed stream later => exact closes.finish.askFor p later
  | received message time stage =>
    refine closes_of_same closes (by simp) ?_
    unfold onReceived
    dsimp only
    split <;> simp [stage, Stage.isIdle]
  | checked time lastFrameAt stage =>
    have observed : Closes (c.observe lastFrameAt) := closes_of_same closes (by simp) (by simp)
    unfold onCheck
    dsimp only
    split
    · exact observed.await rfl (by simp [Stage.action?])
    · exact observed
  | delivered => exact closes_of_same closes rfl (by simp [Stage.isIdle])
  | closed cancelled stage =>
    have ended : Settled c.finish.log := by simpa [stage, Stage.action?] using settled_closed c.log
    have between := (closes.finish.publish .disconnected).1
    have settled := ended.push (e := .published .disconnected) (by simp)
    cases cancelled with
    | true => simpa [onFailureClosed, Closes, Stage.isIdle, Stage.action?] using between.push (by simp)
    | false =>
      simp only [onFailureClosed, Closes, await_log, await_stage]
      exact ⟨between.push (by simp), fun _ => settled.push (by simp)⟩
  | lastClosed stage =>
    have ended : Settled c.finish.log := by simpa [stage, Stage.action?] using settled_closed c.log
    have between := ((closes.finish.publish .disconnected).note (e := .returned (.ok ())) (by simp)).1
    have settled := (ended.push (e := .published .disconnected) (by simp)).push
      (e := .returned (.ok ())) (by simp)
    simpa [onLastClosed, Closes, Stage.action?, List.append_assoc] using
      And.intro between fun _ : Stage.isIdle .stopped = true => settled

/-! ### Cancelling and returning -/

def Entry.result? : Entry → Option (Except ExchangeError Unit)
  | .returned result => some result
  | _ => none

def result? (c : Consumer) : Option (Except ExchangeError Unit) := c.log.findSome? Entry.result?

theorem result?_note (c : Consumer) (entry : Entry) :
    (c.note entry).result? = c.result?.or entry.result? := by
  simp [result?, List.findSome?_append]

@[simp] theorem result?_publish (c : Consumer) (state : ConnectionState) :
    (c.publish state).result? = c.result? := by
  simp [result?, List.findSome?_append, Entry.result?]

@[simp] theorem result?_await (c : Consumer) (stage : Stage) :
    (c.await stage).result? = c.result? := by
  cases action : stage.action? <;> simp [result?, List.findSome?_append, Entry.result?, action]

@[simp] theorem result?_finish (c : Consumer) : c.finish.result? = c.result? := by
  cases action : c.stage.action? <;> simp [result?, List.findSome?_append, Entry.result?, action]

@[simp] theorem result?_askFor (p : Plan) (c : Consumer) (streams : List String) :
    (c.askFor p streams).result? = c.result? := by
  cases streams <;> simp [askFor]

/-- The loop returns when it stops, and without an error. -/
def Returns (c : Consumer) : Prop :=
  c.result? = match c.stage with
    | .stopped => some (.ok ())
    | _ => none

theorem returns_of_running {c next : Consumer} (returns : Returns c) (running : c.stage ≠ .stopped)
    (runs : next.stage ≠ .stopped) (same : next.result? = c.result?) : Returns next := by
  have before : c.result? = none := by
    rw [returns]
    split
    · contradiction
    · rfl
  rw [Returns, same, before]
  split
  · contradiction
  · rfl

theorem askFor_running (p : Plan) (c : Consumer) (streams : List String) :
    (c.askFor p streams).stage ≠ .stopped ∧ (c.askFor p streams).stage.isCancelled = false := by
  cases streams with
  | nil => simp [askFor, Stage.isCancelled]
  | cons stream later => cases throttled : p.throttled <;> simp [askFor, throttled, Stage.isCancelled]

theorem step_returns {p : Plan} {c next : Consumer} {e : Event} (returns : Returns c)
    (step : Step p c e next) : Returns next := by
  have running := step_running step
  cases step with
  | cancelled | connectFailed | connectTimedOut | subscribeFailed | readFailed | readFinished =>
    exact returns_of_running returns running (by simp) (result?_await _ _)
  | cancelledClosing | delivered => exact returns_of_running returns running (by simp) rfl
  | started => exact returns_of_running returns running (by simp [openSession]) (by simp [openSession])
  | waited => exact returns_of_running returns running (by simp [openSession]) (by simp [openSession])
  | connected time =>
    refine returns_of_running returns running (askFor_running p _ _).1 ?_
    rw [onConnected, result?_askFor, result?_publish]
    exact result?_finish c
  | slotTaken => exact returns_of_running returns running (by simp) (by simp)
  | subscribed stream later =>
    exact returns_of_running returns running (askFor_running p _ _).1 (by simp)
  | received message time stage =>
    refine returns_of_running returns running ?_ (by simp [result?])
    unfold onReceived
    dsimp only
    split <;> simp [stage]
  | checked time lastFrameAt stage =>
    refine returns_of_running returns running ?_ ?_
    · unfold onCheck
      dsimp only
      split <;> simp [stage]
    · unfold onCheck
      dsimp only
      split <;> simp [result?, List.findSome?_append, Entry.result?]
  | closed cancelled =>
    refine returns_of_running returns running ?_ ?_
    · cases cancelled <;> simp [onFailureClosed]
    · rw [onFailureClosed, result?_await]
      exact (result?_publish _ _).trans (result?_finish c)
  | lastClosed stage =>
    simp only [Returns, stage] at returns
    simp [Returns, onLastClosed, result?_note, returns, Entry.result?]

theorem step_isCancelled {p : Plan} {c next : Consumer} {e : Event} (step : Step p c e next) :
    next.stage.isCancelled = true ↔ c.stage.isCancelled = true ∨ e = .cancelled := by
  cases step with
  | cancelled | cancelledClosing => simp [Stage.isCancelled]
  | connected time stage =>
    rw [onConnected, (askFor_running p _ _).2, stage]
    simp [Stage.isCancelled]
  | subscribed stream later stage =>
    rw [(askFor_running p _ _).2, stage]
    simp [Stage.isCancelled]
  | received message time stage =>
    unfold onReceived
    dsimp only
    split <;> simp [stage, Stage.isCancelled]
  | checked time lastFrameAt stage =>
    unfold onCheck
    dsimp only
    split <;> simp [stage, Stage.isCancelled]
  | closed cancelled stage => cases cancelled <;> simp [onFailureClosed, stage, Stage.isCancelled]
  | started stage | waited delay stage => simp [openSession, stage, Stage.isCancelled]
  | lastClosed stage => simp [onLastClosed, stage, Stage.isCancelled]
  | _ => simp_all [Stage.isCancelled]

theorem run?_isCancelled {p : Plan} {c final : Consumer} {events : List Event}
    (ran : run? p c events = some final) :
    final.stage.isCancelled = true ↔ c.stage.isCancelled = true ∨ .cancelled ∈ events := by
  induction events generalizing c with
  | nil =>
    obtain rfl := Option.some.inj ran
    simp
  | cons e events ih =>
    obtain ⟨next, step, rest⟩ := run?_cons ran
    rw [ih rest, step_isCancelled step, List.mem_cons, or_assoc, eq_comm (a := e)]

/-- A loop that is not cancelled can be cancelled wherever it waits. -/
theorem cancel?_isSome {c : Consumer} (running : c.stage.isCancelled = false) :
    ∃ next, c.cancel? = some next := by
  unfold cancel?
  split <;> simp_all [Stage.isCancelled]

/-- A cancelled loop returns when the closes that are left are over. -/
theorem cancelled_returns (p : Plan) {c : Consumer} (returns : Returns c)
    (cancelled : c.stage.isCancelled = true) :
    ∃ closes ≤ 2, ∃ final, run? p c (List.replicate closes .closed) = some final ∧
      final.result? = some (.ok ()) := by
  have last : ∀ c : Consumer, Returns c → c.stage = .closingLast →
      ∃ final, run? p c [.closed] = some final ∧ final.result? = some (.ok ()) := by
    intro c returns stage
    have step : Step p c .closed c.finish.onLastClosed := .lastClosed stage
    refine ⟨_, ?_, (step_returns returns step).trans (by simp [onLastClosed])⟩
    simp [run?, step?_of_step step]
  cases stage : c.stage with
  | closing pending =>
    obtain rfl : pending = true := by simpa [stage, Stage.isCancelled] using cancelled
    have step : Step p c .closed (c.finish.onFailureClosed p true) := .closed true stage
    obtain ⟨final, ran, result⟩ := last _ (step_returns returns step) (by simp [onFailureClosed])
    refine ⟨2, by decide, final, ?_, result⟩
    simpa [run?, step?_of_step step] using ran
  | closingLast =>
    obtain ⟨final, ran, result⟩ := last c returns stage
    exact ⟨1, by decide, final, ran, result⟩
  | stopped => exact ⟨0, by decide, c, rfl, by simpa [Returns, stage] using returns⟩
  | _ => simp [stage, Stage.isCancelled] at cancelled

/-! ### The life cycle -/

/-- What is true of a consumer after a run through some events. -/
structure LifeCycle (p : Plan) (events : List Event) (c : Consumer) : Prop where
  /-- States were published one after the other or back to `disconnected`. -/
  inOrder : c.published.IsChain ConnectionState.Follows ∧ c.published.getLast? = some c.state
  /-- A session was closed before the next attempt to connect. -/
  closedBetween : ClosedBetween c.log
  /-- What has returned was cancelled, has no error, has closed its last session and shows so. -/
  returned : ∀ result, c.result? = some result →
    result = .ok () ∧ .cancelled ∈ events ∧ Settled c.log ∧ c.state = .disconnected
  /-- Until it is cancelled the loop can be cancelled. -/
  cancellable : .cancelled ∉ events → ∃ next, c.step? p .cancelled = some next
  /-- Once it is cancelled the loop returns when the closes that are left are over. -/
  returning : .cancelled ∈ events → ∃ closes ≤ 2, ∃ final,
    run? p c (List.replicate closes .closed) = some final ∧ final.result? = some (.ok ())

/-- Every run of a consumer keeps to its life cycle, whatever happens in it. -/
theorem life_cycle (p : Plan) (time : Nat) (events : List Event) (c : Consumer)
    (ran : run? p (initial time) events = some c) : LifeCycle p events c := by
  have ⟨shows, ordered⟩ : c.stage.Shows c.state ∧ InOrder c :=
    run?_induction (motive := fun c => c.stage.Shows c.state ∧ InOrder c) ran
      ⟨rfl, by simp [InOrder, published, initial]⟩
      fun _ _ _ ⟨shows, ordered⟩ step => ⟨step_shows shows step, step_inOrder shows ordered step⟩
  have closes : Closes c :=
    run?_induction ran ⟨closedBetween_nil, fun _ => settled_nil⟩ fun _ _ _ => step_closes
  have returns : Returns c := run?_induction ran rfl fun _ _ _ => step_returns
  have cancelled : c.stage.isCancelled = true ↔ .cancelled ∈ events := by
    simpa [initial, Stage.isCancelled] using run?_isCancelled ran
  refine ⟨ordered, closes.1, ?_, ?_, fun fired => cancelled_returns p returns (cancelled.mpr fired)⟩
  · intro result found
    have stopped : c.stage = .stopped ∧ result = .ok () := by
      rw [returns] at found
      split at found
      · rename_i stage
        exact ⟨stage, (Option.some.inj found).symm⟩
      · cases found
    refine ⟨stopped.2, cancelled.mp ?_, closes.2 ?_, ?_⟩
    · simp [stopped.1, Stage.isCancelled]
    · simp [stopped.1, Stage.isIdle]
    · simpa [stopped.1, Stage.Shows] using shows
  · intro quiet
    obtain ⟨next, accepted⟩ := cancel?_isSome (Bool.eq_false_iff.mpr (mt cancelled.mp quiet))
    exact ⟨next, step?_of_step (cancel?_cases accepted)⟩

/-- A run with a refused connection, a failed subscription and a cancellation while the failed
session is being closed. -/
theorem life_cycle_troubled :
    let plan : Plan := ⟨StreamOptions.default, ["depth.SOL_USDC", "trade.SOL_USDC"], false⟩
    let events : List Event := [.started, .connectFailed (.network .webSocket), .closed, .waited,
      .connected 5, .subscribed, .subscribeFailed (.socket .send), .cancelled, .closed, .closed]
    ∃ c, run? plan (initial 0) events = some c ∧ c.result? = some (.ok ()) ∧
      LifeCycle plan events c :=
  ⟨_, rfl, rfl, life_cycle _ 0 _ _ rfl⟩

end Consumer

end MarketGateway
