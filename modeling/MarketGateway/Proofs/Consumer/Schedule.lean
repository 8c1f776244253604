import MarketGateway.Proofs.Consumer.History

/-!
# The schedule of attempts

The counters of a consumer are those of its history, and after every failure it sleeps as long as the
number of failures before it says. Main statement: `reconnect_schedule`.
-/

namespace MarketGateway.Consumer

/-! ### Counters -/

structure Counters where
  failures : Nat
  shownFailures : Nat
  connections : UInt32

def counters (c : Consumer) : Counters := ⟨c.failures, c.shownFailures, c.connections⟩

section Doings
variable (c : Consumer)

@[simp] theorem counters_publish (state : ConnectionState) :
    (c.publish state).counters = c.counters := rfl

@[simp] theorem counters_await (stage : Stage) : (c.await stage).counters = c.counters := by
  unfold await; split <;> rfl

@[simp] theorem counters_finish : c.finish.counters = c.counters := by
  unfold finish; split <;> rfl

@[simp] theorem counters_askFor (p : Plan) (streams : List String) :
    (c.askFor p streams).counters = c.counters := by
  cases streams <;> simp [askFor]

@[simp] theorem counters_observe (lastFrameAt : Option Nat) :
    (c.observe lastFrameAt).counters = c.counters := by
  unfold observe; repeat' split
  all_goals rfl

@[simp] theorem counters_onReceived (message : StreamMessage) (time : Nat) :
    (c.onReceived message time).counters = c.counters := by
  unfold onReceived; dsimp only; split <;> rfl

@[simp] theorem counters_onCheck (p : Plan) (time : Nat) (lastFrameAt : Option Nat) :
    (c.onCheck p time lastFrameAt).counters = c.counters := by
  unfold onCheck fail; dsimp only; split <;> simp

end Doings

def Stage.isClosing : Stage → Bool
  | .closing _ => true
  | _ => false

/-- The failed sessions that have been noted. One that is being closed is not among them yet. -/
def noted (failed : Nat) (stage : Stage) : Nat := if stage.isClosing then failed - 1 else failed

/-- The counters are those of a history. -/
structure Counted (p : Plan) (failed connects : Nat) (c : Consumer) : Prop where
  mirrored : c.shownFailures = c.failures
  failures : c.failures = min (noted failed c.stage) Backoff.maxCount
  connections : c.connections.toNat = connects % 2 ^ 32
  closing : c.stage.isClosing = true → 0 < failed
  waiting : ∀ delay, c.stage = .backingOff delay →
    0 < failed ∧ delay = p.options.backoff.delay (min (failed - 1) Backoff.maxCount)

variable {p : Plan} {c next final : Consumer} {e : Event} {events : List Event}
  {failed connects : Nat}

theorem fresh_counted (p : Plan) (time : Nat) : Counted p 0 0 (initial time) :=
  ⟨rfl, rfl, rfl, by simp [initial, Stage.isClosing], by simp [initial]⟩

/-- A step that leaves the counters alone keeps them right, unless a close or a wait begins with it. -/
theorem Counted.keep (counted : Counted p failed connects c) (same : next.counters = c.counters)
    (closing : next.stage.isClosing = c.stage.isClosing)
    (awake : ∀ delay, next.stage ≠ .backingOff delay) : Counted p failed connects next := by
  obtain ⟨failures, shown, connections⟩ := Counters.mk.inj same
  refine ⟨?_, ?_, ?_, ?_, fun delay waits => (awake delay waits).elim⟩
  · rw [shown, failures]
    exact counted.mirrored
  · rw [failures, noted, closing]
    exact counted.failures
  · rw [connections]
    exact counted.connections
  · rw [closing]
    exact counted.closing

/-- A session that fails counts from the end of its close. -/
theorem Counted.fail (counted : Counted p failed connects c) (working : c.stage.isClosing = false)
    (same : next.counters = c.counters) (closing : next.stage = .closing false) :
    Counted p (failed + 1) connects next := by
  obtain ⟨failures, shown, connections⟩ := Counters.mk.inj same
  refine ⟨?_, ?_, ?_, fun _ => Nat.succ_pos failed, ?_⟩
  · rw [shown, failures]
    exact counted.mirrored
  · have before := counted.failures
    simp only [noted, working, Bool.false_eq_true, if_false] at before
    simpa [noted, closing, Stage.isClosing, failures] using before
  · rw [connections]
    exact counted.connections
  · intro delay waits
    rw [closing] at waits
    cases waits

theorem askFor_stage_cases (p : Plan) (c : Consumer) (streams : List String) :
    (c.askFor p streams).stage.isClosing = false ∧
      ∀ delay, (c.askFor p streams).stage ≠ .backingOff delay := by
  cases streams with
  | nil => simp [askFor, Stage.isClosing]
  | cons stream later => cases throttled : p.throttled <;> simp [askFor, throttled, Stage.isClosing]

theorem Counted.connect {time : Nat} (counted : Counted p failed connects c)
    (step : Step p c (.connected time) next) : Counted p 0 (connects + 1) next := by
  cases step with
  | connected _ stage =>
    obtain ⟨working, awake⟩ := askFor_stage_cases p
      ({ c.finish with
        lastReceived := time
        failures := 0
        shownFailures := 0
        connections := c.finish.connections + 1 }.publish .subscribing) p.subscriptions
    have same : (c.finish.onConnected p time).counters = ⟨0, 0, c.finish.connections + 1⟩ := by
      rw [onConnected, counters_askFor]
      rfl
    obtain ⟨failures, shown, connections⟩ := Counters.mk.inj same
    refine ⟨by rw [shown, failures], ?_, ?_, ?_, fun delay waits => (awake delay waits).elim⟩
    · rw [failures, noted, onConnected, working]
      rfl
    · have before : c.finish.connections = c.connections :=
        congrArg Counters.connections (counters_finish c)
      rw [connections, before, UInt32.toNat_add, counted.connections]
      exact Nat.mod_add_mod connects (2 ^ 32) 1
    · rw [onConnected, working]
      exact fun closing => by cases closing

theorem Counted.afterFailure (counted : Counted p failed connects c) (fails : c.failsOn p e = true)
    (step : Step p c e next) : Counted p (failed + 1) connects next := by
  cases step with
  | connectFailed error stage | connectTimedOut stage | readFailed error stage
  | readFinished stage =>
    exact counted.fail (by rw [stage]; rfl) (counters_await c _) (fail_stage c)
  | subscribeFailed stream later error stage =>
    exact counted.fail (by rw [stage]; rfl) (counters_await c _) (fail_stage c)
  | checked time lastFrameAt stage =>
    refine counted.fail (by rw [stage]; rfl) (counters_onCheck c p time lastFrameAt) ?_
    have stale : (c.observe lastFrameAt).isStale p time = true := fails
    rw [onCheck, if_pos stale, fail_stage]
  | _ => cases fails

theorem Counted.closed {cancelled : Bool} (counted : Counted p failed connects c)
    (stage : c.stage = .closing cancelled) :
    Counted p failed connects (c.finish.onFailureClosed p cancelled) := by
  have started := counted.closing (by rw [stage]; rfl)
  have before := counted.failures
  have own : c.finish.failures = c.failures := congrArg Counters.failures (counters_finish c)
  have connections : c.finish.connections = c.connections :=
    congrArg Counters.connections (counters_finish c)
  simp only [noted, stage, Stage.isClosing, if_true] at before
  have same : (c.finish.onFailureClosed p cancelled).counters =
      ⟨min (c.failures + 1) Backoff.maxCount, min (c.failures + 1) Backoff.maxCount,
        c.connections⟩ := by
    rw [onFailureClosed, counters_await, ← own, ← connections]
    rfl
  have after : (c.finish.onFailureClosed p cancelled).stage =
      if cancelled then .closingLast else .backingOff (p.options.backoff.delay c.failures) := by
    rw [onFailureClosed, await_stage, own]
  obtain ⟨failures, shown, kept⟩ := Counters.mk.inj same
  have ended : (c.finish.onFailureClosed p cancelled).stage.isClosing = false := by
    rw [after]
    split <;> rfl
  refine ⟨by rw [shown, failures], ?_, by rw [kept]; exact counted.connections, ?_, ?_⟩
  · rw [failures, noted, ended, before]
    simp only [Bool.false_eq_true, if_false]
    omega
  · rw [ended]
    exact fun closing => by cases closing
  · intro delay waits
    rw [after] at waits
    split at waits
    · cases waits
    · exact ⟨started, by rw [← before]; exact (Stage.backingOff.inj waits).symm⟩

theorem Counted.went (counted : Counted p failed connects c) (succeeds : c.failsOn p e = false)
    (other : ∀ time, e ≠ .connected time) (step : Step p c e next) :
    Counted p failed connects next := by
  cases step with
  | cancelled stage =>
    refine counted.keep (counters_await c _) ?_ (by simp)
    rw [await_stage]
    cases at_ : c.stage <;> simp_all [Stage.isClosing, Stage.isEnding]
  | cancelledClosing stage => exact counted.keep rfl (by rw [stage]; rfl) (by simp)
  | started stage =>
    exact counted.keep (by simp [openSession]) (by simp [openSession, stage, Stage.isClosing])
      (by simp [openSession])
  | waited delay stage =>
    exact counted.keep (by simp [openSession]) (by simp [openSession, stage, Stage.isClosing])
      (by simp [openSession])
  | connected time => exact (other time rfl).elim
  | connectFailed | connectTimedOut | subscribeFailed | readFailed | readFinished => cases succeeds
  | slotTaken stream later stage =>
    exact counted.keep (by simp) (by simp [stage, Stage.isClosing]) (by simp)
  | subscribed stream later stage =>
    obtain ⟨working, awake⟩ := askFor_stage_cases p c.finish later
    exact counted.keep (by simp) (by rw [working, stage]; rfl) awake
  | received message time stage =>
    refine counted.keep (counters_onReceived c message time) ?_ ?_
    all_goals
      unfold onReceived
      dsimp only
      split <;> simp [stage, Stage.isClosing]
  | checked time lastFrameAt stage =>
    have heard : (c.observe lastFrameAt).isStale p time = false := succeeds
    have calm : c.onCheck p time lastFrameAt = c.observe lastFrameAt := by
      unfold onCheck
      simp [heard]
    rw [calm]
    exact counted.keep (counters_observe c _) (by simp) (by simp [stage])
  | delivered channel message stage =>
    exact counted.keep rfl (by rw [stage]; rfl) (by simp)
  | closed cancelled stage => exact counted.closed stage
  | lastClosed stage =>
    refine counted.keep ?_ ?_ ?_
    · rw [onLastClosed, counters_await]
      exact counters_finish c
    · simp [onLastClosed, stage, Stage.isClosing]
    · simp [onLastClosed]

theorem History.counted (history : History p failed connects c) : Counted p failed connects c := by
  induction history with
  | fresh time => exact fresh_counted p time
  | connected _ stepped counted => exact counted.connect (step_of_step? stepped)
  | failed _ fails stepped counted => exact counted.afterFailure fails (step_of_step? stepped)
  | went _ succeeds other stepped counted => exact counted.went succeeds other (step_of_step? stepped)
  | again _ stopped counted => exact counted.keep rfl (by rw [stopped]; rfl) (by simp)

/-! ### After a failure -/

/-- What the loop does after the failure of a session that is the n-th in a row. -/
def retry (p : Plan) (n : Nat) : List Entry :=
  let delay := p.options.backoff.delay (min (n - 1) Backoff.maxCount)
  [.finished .close, .published .disconnected, .began (.sleep delay), .finished (.sleep delay),
    .published .connecting, .began .connect]

/-- The log goes on with some entries: it has come to the end of them, or is still at the first ones. -/
def GoesOn (log later entries : List Entry) : Prop :=
  ∃ more, later = log ++ more ∧ (more <+: entries ∨ entries <+: more)

theorem goesOn_of_prefix {log later : List Entry} (entries : List Entry)
    (h : log ++ entries <+: later) : GoesOn log later entries := by
  obtain ⟨more, rfl⟩ := h
  exact ⟨entries ++ more, List.append_assoc .., .inr (List.prefix_append _ _)⟩

theorem step_closing (closing : c.stage = .closing false) (uncancelled : e ≠ .cancelled)
    (step : Step p c e next) :
    next.stage = .backingOff (p.options.backoff.delay c.failures) ∧
      next.log = c.log ++ [.finished .close, .published .disconnected,
        .began (.sleep (p.options.backoff.delay c.failures))] := by
  cases step with
  | cancelled | cancelledClosing => exact (uncancelled rfl).elim
  | closed cancelled stage =>
    obtain rfl : cancelled = false := by
      rw [closing] at stage
      exact (Stage.closing.inj stage).symm
    have own : c.finish.failures = c.failures := congrArg Counters.failures (counters_finish c)
    simp [onFailureClosed, own, closing, Stage.action?]
  | _ => simp_all

theorem step_backingOff {delay : Nat} (waits : c.stage = .backingOff delay)
    (uncancelled : e ≠ .cancelled) (step : Step p c e next) :
    next.log = c.log ++ [.finished (.sleep delay), .published .connecting, .began .connect] := by
  cases step with
  | cancelled | cancelledClosing => exact (uncancelled rfl).elim
  | waited => simp [openSession, waits, Stage.action?]
  | _ => simp_all

/-- From the close of a failed session on, a loop that is not cancelled closes it, sleeps and connects
again. -/
theorem run?_closing {n : Nat} (closing : c.stage = .closing false)
    (failures : c.failures = min (n - 1) Backoff.maxCount) (ran : run? p c events = some final)
    (uncancelled : .cancelled ∉ events) : GoesOn c.log final.log (retry p n) := by
  have still : ∀ {early : List Entry}, early <+: retry p n → final.log = c.log ++ early →
      GoesOn c.log final.log (retry p n) := fun early log => ⟨_, log, .inl early⟩
  cases events with
  | nil =>
    obtain rfl := Option.some.inj ran
    exact still List.nil_prefix (List.append_nil _).symm
  | cons e events =>
    obtain ⟨closed, step, ran⟩ := run?_cons ran
    obtain ⟨here, later⟩ := not_or.mp (mt List.mem_cons.mpr uncancelled)
    obtain ⟨stage, closedLog⟩ := step_closing closing (fun same => here same.symm) step
    rw [failures] at stage closedLog
    cases events with
    | nil =>
      obtain rfl := Option.some.inj ran
      exact still (List.prefix_append _ _) closedLog
    | cons e events =>
      obtain ⟨awake, step, ran⟩ := run?_cons ran
      obtain ⟨here, later⟩ := not_or.mp (mt List.mem_cons.mpr later)
      have log := step_backingOff stage (fun same => here same.symm) step
      refine goesOn_of_prefix _ (List.IsPrefix.trans ?_ (run?_log_grows ran))
      rw [log, closedLog, retry, List.append_assoc]
      exact List.prefix_rfl

theorem fails_stage (fails : c.failsOn p e = true) (step : Step p c e next) :
    c.stage.isClosing = false ∧ next.stage = .closing false ∧ next.failures = c.failures := by
  have same : ∀ c : Consumer, c.fail.failures = c.failures := fun c =>
    congrArg Counters.failures (counters_await c (.closing false))
  cases step with
  | connectFailed error stage | connectTimedOut stage | readFailed error stage
  | readFinished stage => exact ⟨by rw [stage]; rfl, fail_stage c, same c⟩
  | subscribeFailed stream later error stage => exact ⟨by rw [stage]; rfl, fail_stage c, same c⟩
  | checked time lastFrameAt stage =>
    have stale : (c.observe lastFrameAt).isStale p time = true := fails
    refine ⟨by rw [stage]; rfl, ?_, congrArg Counters.failures (counters_onCheck c p _ _)⟩
    rw [onCheck, if_pos stale, fail_stage]
  | _ => cases fails

/-- What is true of a consumer that has connected so often, and has so many failed sessions since. -/
structure Schedule (p : Plan) (failed connects : Nat) (c : Consumer) : Prop where
  /-- Others see the loop's own number of failures. -/
  mirrored : c.shownFailures = c.failures
  /-- It is the number of failed sessions since the last connection; one that is being closed is added
  when it is closed. -/
  shown : c.shownFailures =
    min (if c.stage.isClosing then failed - 1 else failed) Backoff.maxCount
  connections : c.connections.toNat = connects % 2 ^ 32
  /-- A wait is that of the last failure. -/
  waiting : ∀ delay, c.stage = .backingOff delay →
    0 < failed ∧ delay = p.options.backoff.delay (min (failed - 1) Backoff.maxCount)
  /-- The next failure is followed by a close, the sleep that its number asks for, and the next attempt
  to connect, unless the loop is cancelled meanwhile. -/
  retried : ∀ e next, c.failsOn p e = true → c.step? p e = some next →
    ∀ events final, run? p next events = some final → .cancelled ∉ events →
      GoesOn next.log final.log (retry p (failed + 1))

theorem History.schedule (history : History p failed connects c) : Schedule p failed connects c := by
  have counted := history.counted
  refine ⟨counted.mirrored, counted.mirrored.trans counted.failures, counted.connections,
    counted.waiting, ?_⟩
  intro e next fails stepped events final ran uncancelled
  obtain ⟨working, closing, same⟩ := fails_stage fails (step_of_step? stepped)
  refine run?_closing closing ?_ ran uncancelled
  rw [same, counted.failures, noted, working, Nat.add_sub_cancel]
  rfl

/-- Every run has a history, and whatever has happened to the sessions in it, the counters and the
waits of the loop are those of the failures since the last connection. -/
theorem reconnect_schedule (p : Plan) :
    (∀ time events c, run? p (initial time) events = some c →
      ∃ failed connects, History p failed connects c) ∧
    ∀ failed connects c, History p failed connects c → Schedule p failed connects c := by
  constructor
  · intro time events c ran
    exact (History.fresh time).run ran
  · intro failed connects c history
    exact history.schedule

/-- A refused attempt after a connection that was up for a while. -/
theorem reconnect_schedule_refused :
    let plan : Plan := ⟨⟨⟨5, 2, 20⟩, 20, 60, 10, 16⟩, ["depth.SOL_USDC"], false⟩
    ∃ c, History plan 2 1 c ∧ c.stage = .backingOff 10 ∧ Schedule plan 2 1 c := by
  intro plan
  have started : History plan 0 0 _ := (History.fresh 0).went (e := .started) rfl (by simp) rfl
  have connects : History plan 0 1 _ := @History.connected plan 0 0 _ _ 5 started rfl
  have up : History plan 0 1 _ := connects.went (e := .subscribed) rfl (by simp) rfl
  have lost : History plan 1 1 _ := ((up.failed (e := .readFinished) rfl rfl).went (e := .closed) rfl
    (by simp) rfl).went (e := .waited) rfl (by simp) rfl
  have refused : History plan 2 1 _ := (lost.failed (e := .connectTimedOut) rfl rfl).went
    (e := .closed) rfl (by simp) rfl
  exact ⟨_, refused, rfl, (reconnect_schedule plan).2 2 1 _ refused⟩

end MarketGateway.Consumer
