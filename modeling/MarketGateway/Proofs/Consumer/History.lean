import MarketGateway.Proofs.Consumer.Step

/-!
# Histories of a consumer

A consumer is used for as many runs as wanted, one after the other. `History` says what has come of
its sessions so far: how often it has connected, and how many sessions have failed since it last did.
-/

namespace MarketGateway.Consumer

/-- The event is an error that ends the session, or shows that the connection is silent. -/
def failsOn (p : Plan) (c : Consumer) : Event → Bool
  | .connectFailed _ | .connectTimedOut | .subscribeFailed _ | .readFailed _ | .readFinished => true
  | .checked time lastFrameAt => (c.observe lastFrameAt).isStale p time
  | _ => false

inductive History (p : Plan) : Nat → Nat → Consumer → Prop where
  | fresh (time : Nat) : History p 0 0 (initial time)
  | connected {failed connects : Nat} {c next : Consumer} {time : Nat}
      (before : History p failed connects c) (stepped : c.step? p (.connected time) = some next) :
      History p 0 (connects + 1) next
  | failed {failed connects : Nat} {c next : Consumer} {e : Event}
      (before : History p failed connects c) (fails : c.failsOn p e = true)
      (stepped : c.step? p e = some next) : History p (failed + 1) connects next
  | went {failed connects : Nat} {c next : Consumer} {e : Event}
      (before : History p failed connects c) (succeeds : c.failsOn p e = false)
      (other : ∀ time, e ≠ .connected time) (stepped : c.step? p e = some next) :
      History p failed connects next
  /-- A loop that has returned is run again. -/
  | again {failed connects : Nat} {c : Consumer} (before : History p failed connects c)
      (stopped : c.stage = .stopped) : History p failed connects { c with stage := .ready }

variable {p : Plan} {c next final : Consumer} {e : Event} {events : List Event}
  {failed connects : Nat}

theorem ne_connected_of_failsOn (fails : c.failsOn p e = true) (time : Nat) :
    e ≠ .connected time := by
  rintro rfl
  cases fails

theorem History.step (history : History p failed connects c) (stepped : c.step? p e = some next) :
    ∃ failed connects, History p failed connects next := by
  cases fails : c.failsOn p e with
  | true => exact ⟨_, _, history.failed fails stepped⟩
  | false =>
    cases e with
    | connected time => exact ⟨_, _, history.connected stepped⟩
    | _ => exact ⟨_, _, history.went fails (fun _ same => by cases same) stepped⟩

/-- Every run of a fresh consumer is a part of a history. -/
theorem History.run (history : History p failed connects c) (ran : run? p c events = some final) :
    ∃ failed connects, History p failed connects final :=
  run?_induction (motive := fun c => ∃ failed connects, History p failed connects c) ran
    ⟨_, _, history⟩ fun _ _ _ ⟨_, _, before⟩ step => before.step (step?_of_step step)

/-- What holds at the start, is kept by every step and does not depend on the stage where a loop begins
again holds all the time. -/
theorem History.invariant {motive : Consumer → Prop} (history : History p failed connects c)
    (start : ∀ time, motive (initial time))
    (kept : ∀ c e next, motive c → Step p c e next → motive next)
    (rerun : ∀ c, motive c → c.stage = .stopped → motive { c with stage := .ready }) : motive c := by
  induction history with
  | fresh time => exact start time
  | connected _ stepped ih => exact kept _ _ _ ih (step_of_step? stepped)
  | failed _ _ stepped ih => exact kept _ _ _ ih (step_of_step? stepped)
  | went _ _ _ stepped ih => exact kept _ _ _ ih (step_of_step? stepped)
  | again _ stopped ih => exact rerun _ ih stopped

/-! ### The log grows -/

theorem await_log_grows (c : Consumer) (stage : Stage) : c.log <+: (c.await stage).log := by
  rw [await_log]
  exact List.prefix_append _ _

theorem finish_log_grows (c : Consumer) : c.log <+: c.finish.log := by
  rw [finish_log]
  exact List.prefix_append _ _

theorem publish_log_grows (c : Consumer) (state : ConnectionState) :
    c.log <+: (c.publish state).log := List.prefix_append _ _

theorem askFor_log_grows (p : Plan) (c : Consumer) (streams : List String) :
    c.log <+: (c.askFor p streams).log := by
  cases streams with
  | nil => exact (publish_log_grows c _).trans (await_log_grows _ _)
  | cons stream later => exact await_log_grows c _

theorem Step.log_grows (step : Step p c e next) : c.log <+: next.log := by
  have finished := finish_log_grows c
  have opened : ∀ c : Consumer, c.log <+: c.openSession.log := fun c =>
    (publish_log_grows c _).trans (await_log_grows _ _)
  cases step with
  | cancelled | connectFailed | connectTimedOut | subscribeFailed | readFailed | readFinished =>
    exact await_log_grows c _
  | cancelledClosing | delivered => exact List.prefix_rfl
  | started => exact opened c
  | waited => exact finished.trans (opened c.finish)
  | connected time =>
    refine List.IsPrefix.trans ?_ (askFor_log_grows p _ _)
    rw [publish_log]
    exact finished.trans (List.prefix_append _ _)
  | slotTaken => exact finished.trans (await_log_grows _ _)
  | subscribed stream later => exact finished.trans (askFor_log_grows p _ later)
  | received message time => simp
  | checked time lastFrameAt =>
    have observed : c.log <+: (c.observe lastFrameAt).log := by simp
    unfold onCheck
    dsimp only
    split
    · exact observed.trans (await_log_grows _ _)
    · exact observed
  | closed cancelled =>
    refine List.IsPrefix.trans ?_ (await_log_grows _ _)
    exact finished.trans (publish_log_grows _ _)
  | lastClosed =>
    refine List.IsPrefix.trans ?_ (await_log_grows _ _)
    rw [note_log]
    exact (finished.trans (publish_log_grows _ _)).trans (List.prefix_append _ _)

theorem run?_log_grows (ran : run? p c events = some final) : c.log <+: final.log :=
  run?_induction (motive := fun later => c.log <+: later.log) ran List.prefix_rfl
    fun _ _ _ grown step => grown.trans step.log_grows

end MarketGateway.Consumer
