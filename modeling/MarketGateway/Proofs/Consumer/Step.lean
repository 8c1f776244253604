import MarketGateway.Proofs.Runs
import MarketGateway.Stream.Consumer

/-!
# Steps of the consumer

`Step` lists the steps of the loop, one constructor for each thing that it waits for, and
`step?_eq_some_iff` shows that they are those of `step?`. What is proved of the loop is proved by
cases on `Step`, and of its runs with `run?_induction`.
-/

namespace MarketGateway.Consumer

/-! ### Doings -/

section Doings
variable (c : Consumer) (entry : Entry) (state : ConnectionState) (stage : Stage)

@[simp] theorem note_stage : (c.note entry).stage = c.stage := rfl

@[simp] theorem note_state : (c.note entry).state = c.state := rfl

@[simp] theorem note_log : (c.note entry).log = c.log ++ [entry] := rfl

@[simp] theorem publish_stage : (c.publish state).stage = c.stage := rfl

@[simp] theorem publish_state : (c.publish state).state = state := rfl

@[simp] theorem publish_log : (c.publish state).log = c.log ++ [.published state] := rfl

@[simp] theorem await_stage : (c.await stage).stage = stage := by
  unfold await; split <;> rfl

@[simp] theorem await_state : (c.await stage).state = c.state := by
  unfold await; split <;> rfl

@[simp] theorem await_log :
    (c.await stage).log = c.log ++ (stage.action?.map .began).toList := by
  unfold await; split <;> simp_all

@[simp] theorem finish_stage : c.finish.stage = c.stage := by
  unfold finish; split <;> rfl

@[simp] theorem finish_state : c.finish.state = c.state := by
  unfold finish; split <;> rfl

@[simp] theorem finish_log : c.finish.log = c.log ++ (c.stage.action?.map .finished).toList := by
  unfold finish; split <;> simp_all

@[simp] theorem fail_stage : c.fail.stage = .closing false := await_stage c _

@[simp] theorem fail_state : c.fail.state = c.state := await_state c _

@[simp] theorem fail_log : c.fail.log = c.log ++ [.began .close] := await_log c _

@[simp] theorem onReceived_state (message : StreamMessage) (time : Nat) :
    (c.onReceived message time).state = c.state := by
  unfold onReceived; dsimp only; split <;> rfl

@[simp] theorem onReceived_log (message : StreamMessage) (time : Nat) :
    (c.onReceived message time).log = c.log := by
  unfold onReceived; dsimp only; split <;> rfl

@[simp] theorem observe_stage (lastFrameAt : Option Nat) :
    (c.observe lastFrameAt).stage = c.stage := by
  unfold observe; repeat' split
  all_goals rfl

@[simp] theorem observe_state (lastFrameAt : Option Nat) :
    (c.observe lastFrameAt).state = c.state := by
  unfold observe; repeat' split
  all_goals rfl

@[simp] theorem observe_log (lastFrameAt : Option Nat) : (c.observe lastFrameAt).log = c.log := by
  unfold observe; repeat' split
  all_goals rfl

end Doings

/-! ### Steps -/

/-- The loop closes its session, or has closed it for good. -/
def Stage.isEnding : Stage → Bool
  | .closing _ | .closingLast | .stopped => true
  | _ => false

/-- The loop has accepted that it is cancelled. -/
def Stage.isCancelled : Stage → Bool
  | .closing cancelled => cancelled
  | .closingLast | .stopped => true
  | _ => false

inductive Step (p : Plan) (c : Consumer) : Event → Consumer → Prop where
  | cancelled (stage : c.stage.isEnding = false) : Step p c .cancelled (c.await .closingLast)
  | cancelledClosing (stage : c.stage = .closing false) :
      Step p c .cancelled { c with stage := .closing true }
  | started (stage : c.stage = .ready) : Step p c .started c.openSession
  | connected (time : Nat) (stage : c.stage = .connecting) :
      Step p c (.connected time) (c.finish.onConnected p time)
  | connectFailed (error : ExchangeError) (stage : c.stage = .connecting) :
      Step p c (.connectFailed error) c.fail
  | connectTimedOut (stage : c.stage = .connecting) : Step p c .connectTimedOut c.fail
  | slotTaken (stream : String) (later : List String) (stage : c.stage = .awaitingSlot stream later) :
      Step p c .slotTaken (c.finish.await (.subscribing stream later))
  | subscribed (stream : String) (later : List String) (stage : c.stage = .subscribing stream later) :
      Step p c .subscribed (c.finish.askFor p later)
  | subscribeFailed (stream : String) (later : List String) (error : ExchangeError)
      (stage : c.stage = .subscribing stream later) : Step p c (.subscribeFailed error) c.fail
  | received (message : StreamMessage) (time : Nat) (stage : c.stage = .streaming) :
      Step p c (.received message time) (c.onReceived message time)
  | readFailed (error : ExchangeError) (stage : c.stage = .streaming) :
      Step p c (.readFailed error) c.fail
  | readFinished (stage : c.stage = .streaming) : Step p c .readFinished c.fail
  | checked (time : Nat) (lastFrameAt : Option Nat) (stage : c.stage = .streaming) :
      Step p c (.checked time lastFrameAt) (c.onCheck p time lastFrameAt)
  | delivered (channel : String) (message : StreamMessage)
      (stage : c.stage = .delivering channel message) :
      Step p c .delivered { c with stage := .streaming }
  | closed (cancelled : Bool) (stage : c.stage = .closing cancelled) :
      Step p c .closed (c.finish.onFailureClosed p cancelled)
  | waited (delay : Nat) (stage : c.stage = .backingOff delay) :
      Step p c .waited c.finish.openSession
  | lastClosed (stage : c.stage = .closingLast) : Step p c .closed c.finish.onLastClosed

theorem cancel?_cases {p : Plan} {c next : Consumer} (h : c.cancel? = some next) :
    Step p c .cancelled next := by
  unfold cancel? at h
  split at h
  · rename_i stage
    obtain rfl := Option.some.inj h
    exact .cancelledClosing stage
  · cases h
  · cases h
  · cases h
  · rename_i notClosing notCancelled notLast notStopped
    obtain rfl := Option.some.inj h
    refine .cancelled ?_
    cases stage : c.stage with
    | closing cancelled =>
      cases cancelled
      · exact (notClosing stage).elim
      · exact (notCancelled stage).elim
    | closingLast => exact (notLast stage).elim
    | stopped => exact (notStopped stage).elim
    | _ => rfl

theorem step_of_step? {p : Plan} {c next : Consumer} {e : Event} (h : c.step? p e = some next) :
    Step p c e next := by
  unfold step? at h
  split at h
  · exact cancel?_cases h
  all_goals
    first
      | (rename_i stage; obtain rfl := Option.some.inj h; constructor; exact stage)
      | cases h

theorem step?_of_step {p : Plan} {c next : Consumer} {e : Event} (h : Step p c e next) :
    c.step? p e = some next := by
  cases h with
  | cancelled stage => cases at_ : c.stage <;> simp_all [step?, cancel?, Stage.isEnding]
  | cancelledClosing stage => simp [step?, cancel?, stage]
  | _ => simp_all [step?]

theorem step?_eq_some_iff {p : Plan} {c next : Consumer} {e : Event} :
    c.step? p e = some next ↔ Step p c e next :=
  ⟨step_of_step?, step?_of_step⟩

/-- A loop that has stopped makes no step. -/
theorem step_running {p : Plan} {c next : Consumer} {e : Event} (step : Step p c e next) :
    c.stage ≠ .stopped := by
  intro stopped
  cases step <;> simp_all [Stage.isEnding]

/-! ### Runs -/

theorem run?_cons {p : Plan} {c final : Consumer} {e : Event} {events : List Event}
    (h : run? p c (e :: events) = some final) :
    ∃ next, Step p c e next ∧ run? p next events = some final := by
  obtain ⟨next, stepped, rest⟩ := Runs.cons_eq_some h
  exact ⟨next, step_of_step? stepped, rest⟩

/-- What holds of a consumer and is kept by every step holds after every run. -/
theorem run?_induction {p : Plan} {motive : Consumer → Prop} {c final : Consumer}
    {events : List Event} (h : run? p c events = some final) (start : motive c)
    (kept : ∀ c e next, motive c → Step p c e next → motive next) : motive final :=
  Runs.induction (motive := fun _ c => motive c) h start fun _ c e next holds stepped =>
    kept c e next holds (step_of_step? stepped)

end MarketGateway.Consumer
