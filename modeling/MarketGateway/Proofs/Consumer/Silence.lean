import MarketGateway.Proofs.Consumer.Step

/-!
# The check for silence

When a consumer was last told of a sign of life, step by step, and what a check makes of it: the
session is closed if and only if the last sign is too old. Main statements: `Step.lastReceived` and
`onCheck_stage`.
-/

namespace MarketGateway.Consumer

section Doings
variable (c : Consumer)

@[simp] theorem lastReceived_publish (state : ConnectionState) :
    (c.publish state).lastReceived = c.lastReceived := rfl

@[simp] theorem lastReceived_await (stage : Stage) :
    (c.await stage).lastReceived = c.lastReceived := by
  unfold await; split <;> rfl

@[simp] theorem lastReceived_finish : c.finish.lastReceived = c.lastReceived := by
  unfold finish; split <;> rfl

@[simp] theorem lastReceived_askFor (p : Plan) (streams : List String) :
    (c.askFor p streams).lastReceived = c.lastReceived := by
  cases streams <;> simp [askFor]

@[simp] theorem lastReceived_onReceived (message : StreamMessage) (time : Nat) :
    (c.onReceived message time).lastReceived = time := by
  unfold onReceived; dsimp only; split <;> rfl

/-- What the connection has read counts if it is newer. -/
theorem lastReceived_observe (lastFrameAt : Option Nat) :
    (c.observe lastFrameAt).lastReceived = max c.lastReceived (lastFrameAt.getD 0) := by
  cases lastFrameAt with
  | none => exact (Nat.max_eq_left (Nat.zero_le _)).symm
  | some time =>
    by_cases newer : c.lastReceived < time
    · simp only [observe, newer, if_true, Option.getD_some]
      omega
    · simp only [observe, newer, if_false, Option.getD_some]
      omega

theorem lastReceived_onCheck (p : Plan) (time : Nat) (lastFrameAt : Option Nat) :
    (c.onCheck p time lastFrameAt).lastReceived = max c.lastReceived (lastFrameAt.getD 0) := by
  rw [← lastReceived_observe]
  unfold onCheck fail
  dsimp only
  split
  · exact lastReceived_await _ _
  · rfl

theorem onCheck_stage (p : Plan) (time : Nat) (lastFrameAt : Option Nat) :
    (c.onCheck p time lastFrameAt).stage =
      if p.options.longestSilence < time - max c.lastReceived (lastFrameAt.getD 0)
      then .closing false else c.stage := by
  rw [← lastReceived_observe]
  unfold onCheck isStale
  dsimp only
  by_cases stale : p.options.longestSilence < time - (c.observe lastFrameAt).lastReceived
  · rw [decide_eq_true stale, if_pos rfl, if_pos stale, fail_stage]
  · rw [decide_eq_false stale, if_neg Bool.false_ne_true, if_neg stale, observe_stage]

end Doings

/-- The time of the last sign of life after an event. -/
def heard (c : Consumer) : Event → Nat
  | .connected time | .received _ time => time
  | .checked _ lastFrameAt => max c.lastReceived (lastFrameAt.getD 0)
  | _ => c.lastReceived

/-- The connection that was made last has not failed, and the loop has not been cancelled. -/
def Stage.isUp : Stage → Bool
  | .awaitingSlot _ _ | .subscribing _ _ | .streaming | .delivering _ _ => true
  | _ => false

variable {p : Plan} {c next : Consumer} {e : Event}

theorem heard_of_quiet (unconnected : ∀ time, e ≠ .connected time)
    (unread : ∀ message time, e ≠ .received message time)
    (unchecked : ∀ time lastFrameAt, e ≠ .checked time lastFrameAt) : c.heard e = c.lastReceived := by
  unfold heard
  split
  · exact (unconnected _ rfl).elim
  · exact (unread _ _ rfl).elim
  · exact (unchecked _ _ rfl).elim
  · rfl

theorem Step.lastReceived (step : Step p c e next) : next.lastReceived = c.heard e := by
  cases step with
  | cancelledClosing | delivered => rfl
  | cancelled | connectFailed | connectTimedOut | subscribeFailed | readFailed | readFinished =>
    exact lastReceived_await c _
  | started => simp [openSession, heard]
  | waited => simp [openSession, heard]
  | connected time => simp [onConnected, heard]
  | slotTaken => simp [heard]
  | subscribed => simp [heard]
  | received message time => exact lastReceived_onReceived c message time
  | checked time lastFrameAt => exact lastReceived_onCheck c p time lastFrameAt
  | closed cancelled =>
    rw [onFailureClosed, lastReceived_await]
    exact lastReceived_finish c
  | lastClosed =>
    rw [onLastClosed, lastReceived_await]
    exact lastReceived_finish c

/-- Messages are received, and checks are made, on a connection that is up. -/
theorem Step.isUp_of_hearing (step : Step p c e next)
    (hears : (∃ message time, e = .received message time) ∨
      ∃ time lastFrameAt, e = .checked time lastFrameAt) :
    c.stage.isUp = true := by
  cases step with
  | received _ _ stage | checked _ _ stage => rw [stage]; rfl
  | _ => simp at hears

/-- A connection that is up was up before, or is new. -/
theorem Step.isUp (step : Step p c e next) (up : next.stage.isUp = true) :
    c.stage.isUp = true ∨ ∃ time, e = .connected time := by
  cases step with
  | connected time => exact .inr ⟨time, rfl⟩
  | slotTaken stream later stage | subscribed stream later stage | received message time stage
  | checked time lastFrameAt stage | delivered channel message stage =>
    rw [stage]
    exact .inl rfl
  | closed cancelled => cases cancelled <;> simp [onFailureClosed, Stage.isUp] at up
  | cancelledClosing => cases up
  | _ => simp [openSession, onLastClosed, Stage.isUp] at up

end MarketGateway.Consumer
