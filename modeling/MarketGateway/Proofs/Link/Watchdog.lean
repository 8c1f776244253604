import Mathlib.Data.List.Induction
import Mathlib.Data.List.Pairwise
import MarketGateway.Proofs.Consumer.Silence
import MarketGateway.Proofs.Link.Step

/-!
# The watchdog of a link

A check closes the session if and only if the newest sign of life on the connection is too old. Signs
come in two ways: the loop is told of messages, and the session sees every frame, but is asked for the
last one only when a check is made. Main statement: `watchdog_is_exact`.
-/

namespace MarketGateway

namespace Session

variable {arrivals : List Arrival} {before : Option Nat}

/-- The last frame that was seen is one of these, or was the last before them. -/
theorem mem_timesOf_of_last {time : Nat} (last : (timesOf arrivals).getLast?.or before = some time) :
    time ∈ timesOf arrivals ∨ before = some time := by
  cases newest : (timesOf arrivals).getLast? with
  | none =>
    rw [newest] at last
    exact .inr last
  | some t =>
    rw [newest] at last
    obtain rfl := Option.some.inj last
    exact .inl (List.mem_of_getLast? newest)

theorem le_of_last {times : List Nat} {final time : Nat} (ordered : times.Pairwise (· ≤ ·))
    (last : times.getLast? = some final) (member : time ∈ times) : time ≤ final := by
  have bound := ordered.rel_getLast member
  rw [List.getLast?_eq_some_getLast (List.ne_nil_of_mem member)] at last
  rwa [Option.some.inj last] at bound

end Session

namespace Link

/-- The times that an event tells, in their order. -/
def Event.times : Event → List Nat
  | .attempted .succeeded time => [time]
  | .read arrivals time | .checked arrivals time => Session.timesOf arrivals ++ [time]
  | _ => []

/-- The clock does not go backwards. -/
def Clocked (events : List Event) : Prop := (events.flatMap Event.times).Pairwise (· ≤ ·)

/-- The signs of life that an event gives, after those that there are: a new connection is the first
sign of its own, every frame that is read is a sign, and so is the call that hands a message out. -/
def addSigns (signs : List Nat) : Event → List Nat
  | .attempted .succeeded time => [time]
  | .read arrivals time => signs ++ (Session.timesOf arrivals ++ [time])
  | .checked arrivals _ => signs ++ Session.timesOf arrivals
  | _ => signs

/-- The signs of life on the newest connection. -/
def signs (events : List Event) : List Nat := events.foldl addSigns []

theorem signs_concat (events : List Event) (e : Event) :
    signs (events ++ [e]) = addSigns (signs events) e := by
  rw [signs, List.foldl_append]
  rfl

theorem addSigns_of_deaf {e : Event} (deaf : e.hears = false) (signs : List Nat) :
    addSigns signs e = signs := by
  cases e with
  | attempted attempt time =>
    cases attempt with
    | succeeded => cases deaf
    | _ => rfl
  | read | checked => cases deaf
  | _ => rfl

/-! ### The clock -/

variable {p : Consumer.Plan} {credentials : Option Credentials} {l next : Link} {e : Event}
  {events before : List Event}

theorem mem_addSigns {known : List Nat} {time : Nat} (member : time ∈ addSigns known e) :
    time ∈ known ∨ time ∈ e.times := by
  unfold addSigns at member
  split at member
  · exact .inr member
  · exact List.mem_append.mp member
  · rcases List.mem_append.mp member with old | new
    · exact .inl old
    · exact .inr (List.mem_append_left _ new)
  · exact .inl member

theorem mem_times_of_sign {time : Nat} (member : time ∈ signs events) :
    time ∈ events.flatMap Event.times := by
  induction events using List.reverseRecOn with
  | nil => cases member
  | append_singleton events e ih =>
    rw [signs_concat] at member
    rw [List.flatMap_append]
    rcases mem_addSigns member with old | new
    · exact List.mem_append_left _ (ih old)
    · refine List.mem_append_right _ ?_
      rwa [List.flatMap_singleton]

theorem Clocked.concat (clocked : Clocked (before ++ [e])) :
    Clocked before ∧ e.times.Pairwise (· ≤ ·) ∧ ∀ old ∈ signs before, ∀ new ∈ e.times, old ≤ new := by
  rw [Clocked, List.flatMap_append, List.flatMap_singleton] at clocked
  obtain ⟨past, present, ordered⟩ := List.pairwise_append.mp clocked
  exact ⟨past, present, fun old member new => ordered old (mem_times_of_sign member) new⟩

/-! ### Signs of life -/

/-- What the loop and the session know together is the newest sign of life. -/
structure Heard (events : List Event) (l : Link) : Prop where
  told : l.consumer.lastReceived ∈ signs events
  seen : ∀ time, l.session.lastFrameAt = some time → time ∈ signs events
  newest : ∀ sign ∈ signs events,
    sign ≤ max l.consumer.lastReceived (l.session.lastFrameAt.getD 0)

theorem Heard.keep (heard : Heard before l) (same : signs (before ++ [e]) = signs before)
    (told : next.consumer.lastReceived = l.consumer.lastReceived)
    (seen : next.session.lastFrameAt = l.session.lastFrameAt) : Heard (before ++ [e]) next := by
  refine ⟨?_, ?_, ?_⟩
  · rw [same, told]
    exact heard.told
  · rw [same, seen]
    exact heard.seen
  · rw [same, told, seen]
    exact heard.newest

theorem Heard.received {arrivals : List Session.Arrival} {time : Nat} (heard : Heard before l)
    (clocked : Clocked (before ++ [.read arrivals time]))
    (told : next.consumer.lastReceived = time)
    (seen : next.session.lastFrameAt =
      (Session.timesOf arrivals).getLast?.or l.session.lastFrameAt) :
    Heard (before ++ [.read arrivals time]) next := by
  obtain ⟨-, present, later⟩ := clocked.concat
  have all : signs (before ++ [.read arrivals time]) =
      signs before ++ (Session.timesOf arrivals ++ [time]) := signs_concat _ _
  refine ⟨?_, ?_, ?_⟩
  · rw [all, told]
    simp
  · intro frame last
    rw [seen] at last
    rw [all]
    rcases Session.mem_timesOf_of_last last with new | old
    · exact List.mem_append_right _ (List.mem_append_left _ new)
    · exact List.mem_append_left _ (heard.seen frame old)
  · intro sign member
    rw [all] at member
    have before : sign ≤ time := by
      rcases List.mem_append.mp member with old | new
      · exact later sign old time (List.mem_append_right _ (List.mem_singleton_self time))
      · rcases List.mem_append.mp new with frame | final
        · exact (List.pairwise_append.mp present).2.2 sign frame time (List.mem_singleton_self time)
        · exact Nat.le_of_eq (List.mem_singleton.mp final)
    rw [told]
    omega

/-- A check puts together what the loop was told and what the session has seen. -/
theorem Heard.checked {arrivals : List Session.Arrival} {time : Nat} (heard : Heard before l)
    (clocked : Clocked (before ++ [.checked arrivals time]))
    (told : next.consumer.lastReceived =
      max l.consumer.lastReceived (next.session.lastFrameAt.getD 0))
    (seen : next.session.lastFrameAt =
      (Session.timesOf arrivals).getLast?.or l.session.lastFrameAt) :
    Heard (before ++ [.checked arrivals time]) next := by
  obtain ⟨-, present, later⟩ := clocked.concat
  have ordered : (Session.timesOf arrivals).Pairwise (· ≤ ·) :=
    (List.pairwise_append.mp present).1
  have all : signs (before ++ [.checked arrivals time]) =
      signs before ++ Session.timesOf arrivals := signs_concat _ _
  have frames : ∀ frame, next.session.lastFrameAt = some frame →
      frame ∈ signs before ++ Session.timesOf arrivals := by
    intro frame last
    rw [seen] at last
    rcases Session.mem_timesOf_of_last last with new | old
    · exact List.mem_append_right _ new
    · exact List.mem_append_left _ (heard.seen frame old)
  refine ⟨?_, by rwa [all], ?_⟩
  · rw [all, told]
    cases last : next.session.lastFrameAt with
    | none =>
      rw [Option.getD_none, Nat.max_zero]
      exact List.mem_append_left _ heard.told
    | some frame =>
      rw [Option.getD_some]
      rcases Nat.le_total l.consumer.lastReceived frame with newer | older
      · rw [Nat.max_eq_right newer]
        exact frames frame last
      · rw [Nat.max_eq_left older]
        exact List.mem_append_left _ heard.told
  · intro sign member
    rw [all] at member
    rw [told]
    cases last : (Session.timesOf arrivals).getLast? with
    | none =>
      have none : Session.timesOf arrivals = [] := List.getLast?_eq_none_iff.mp last
      rw [none, List.append_nil] at member
      have known := heard.newest sign member
      have same : next.session.lastFrameAt = l.session.lastFrameAt := by rw [seen, last]; rfl
      rw [same]
      omega
    | some final =>
      have newest : next.session.lastFrameAt = some final := by rw [seen, last]; rfl
      have bound : sign ≤ final := by
        rcases List.mem_append.mp member with old | new
        · exact later sign old final (List.mem_append_left _ (List.mem_of_getLast? last))
        · exact Session.le_of_last ordered last new
      rw [newest, Option.getD_some]
      omega

/-! ### Steps -/

/-- What a run makes of the signs of life. -/
structure Watching (events : List Event) (l : Link) : Prop where
  own : ∀ time, .attempted .succeeded time ∈ events → l.consumer.lastReceived ∈ signs events
  up : l.consumer.stage.isUp = true → Heard events l

theorem Watching.deaf (watching : Watching before l) (deaf : e.hears = false)
    (told : next.consumer.lastReceived = l.consumer.lastReceived)
    (seen : next.session.lastFrameAt = l.session.lastFrameAt)
    (up : next.consumer.stage.isUp = true → l.consumer.stage.isUp = true) :
    Watching (before ++ [e]) next := by
  have same : signs (before ++ [e]) = signs before := by
    rw [signs_concat, addSigns_of_deaf deaf]
  refine ⟨?_, fun now => (watching.up (up now)).keep same told seen⟩
  intro time member
  rw [same, told]
  rcases List.mem_append.mp member with old | new
  · exact watching.own time old
  · obtain rfl := List.mem_singleton.mp new
    cases deaf

theorem Watching.step (watching : Watching before l) (clocked : Clocked (before ++ [e]))
    (step : Step p credentials l e next) : Watching (before ++ [e]) next := by
  cases step with
  | connected time c stepped =>
    have told : c.lastReceived = time := (Consumer.step_of_step? stepped).lastReceived
    have all : signs (before ++ [.attempted .succeeded time]) = [time] := signs_concat _ _
    have own : c.lastReceived ∈ signs (before ++ [.attempted .succeeded time]) := by
      rw [all, told]
      exact List.mem_singleton_self time
    refine ⟨fun _ _ => own, fun _ => ⟨own, ?_, ?_⟩⟩
    · intro frame last
      cases last
    · intro sign member
      rw [all] at member
      obtain rfl := List.mem_singleton.mp member
      dsimp only
      omega
  | passed _ event c session deaf stepped unconnected unsubscribed unread unchecked seen =>
    have step := Consumer.step_of_step? stepped
    have told := Consumer.heard_of_quiet (c := l.consumer) unconnected unread unchecked
    refine watching.deaf deaf (step.lastReceived.trans told) seen fun up => ?_
    rcases step.isUp up with before | ⟨time, connects⟩
    · exact before
    · exact (unconnected time connects).elim
  | requested nowMs stream later frame c stage written stepped =>
    have step := Consumer.step_of_step? stepped
    exact watching.deaf rfl step.lastReceived rfl fun _ => by rw [stage]; rfl
  | received arrivals message time c session stepped seen =>
    have step := Consumer.step_of_step? stepped
    have up := step.isUp_of_hearing (.inl ⟨message, time, rfl⟩)
    have heard : Heard (before ++ [.read arrivals time]) ⟨c, session, l.requests⟩ :=
      (watching.up up).received clocked step.lastReceived seen
    exact ⟨fun _ _ => heard.told, fun _ => heard⟩
  | readFailed arrivals event time c session stepped ended =>
    have step := Consumer.step_of_step? stepped
    have all : signs (before ++ [.read arrivals time]) =
        signs before ++ (Session.timesOf arrivals ++ [time]) := signs_concat _ _
    obtain ⟨told, down⟩ : c.lastReceived = l.consumer.lastReceived ∧ c.stage = .closing false := by
      rcases ended with rfl | ⟨error, rfl⟩
      all_goals
        refine ⟨step.lastReceived, ?_⟩
        cases step
        exact Consumer.fail_stage _
    constructor
    · intro since member
      rw [all, told]
      rcases List.mem_append.mp member with old | new
      · exact List.mem_append_left _ (watching.own since old)
      · cases List.mem_singleton.mp new
    · intro up
      rw [down] at up
      cases up
  | checked arrivals time c session stepped seen =>
    have step := Consumer.step_of_step? stepped
    have up := step.isUp_of_hearing (.inr ⟨time, session.lastFrameAt, rfl⟩)
    have heard : Heard (before ++ [.checked arrivals time]) ⟨c, session, l.requests⟩ :=
      (watching.up up).checked clocked step.lastReceived seen
    exact ⟨fun _ _ => heard.told, fun _ => heard⟩
  | restarted stopped => exact watching.deaf rfl rfl rfl fun up => by cases up

theorem fresh_watching (time : Nat) : Watching [] (initial time) := by
  constructor
  · intro since member
    cases member
  · intro up
    cases up

theorem run?_watching {time : Nat} (ran : run? p credentials (initial time) events = some l)
    (clocked : Clocked events) : Watching events l :=
  run?_induction (motive := fun events l => Clocked events → Watching events l) ran
    (fun _ => fresh_watching time)
    (fun _ _ _ _ watching step clocked => (watching clocked.concat.1).step clocked step) clocked

/-! ### Checks -/

theorem check?_of_waiting (p : Consumer.Plan) (credentials : Option Credentials)
    {arrivals : List Session.Arrival} (time : Nat) (streaming : l.consumer.stage = .streaming)
    (waits : (l.session.nextMessage arrivals).outcome = .waiting) :
    ∃ next, l.step? p credentials (.checked arrivals time) = some next := by
  simp only [step?, check?, waits, Consumer.step?, streaming]
  exact ⟨_, rfl⟩

/-- The outcome of a check, which is the same whether a frame was seen or a message told. -/
theorem Watching.check {arrivals : List Session.Arrival} {time : Nat} (watching : Watching before l)
    (clocked : Clocked (before ++ [.checked arrivals time]))
    (checked : l.step? p credentials (.checked arrivals time) = some next) :
    ∃ newest, (signs (before ++ [.checked arrivals time])).max? = some newest ∧
      next.consumer.stage =
        if p.options.longestSilence < time - newest then .closing false else .streaming := by
  cases step_of_step? checked with
  | passed _ _ _ _ deaf => cases deaf
  | checked _ _ c session stepped seen =>
    have step := Consumer.step_of_step? stepped
    cases step with
    | checked _ _ stage =>
      have up : l.consumer.stage.isUp = true := by rw [stage]; rfl
      have told := Consumer.lastReceived_onCheck l.consumer p time session.lastFrameAt
      have heard : Heard (before ++ [.checked arrivals time])
          ⟨l.consumer.onCheck p time session.lastFrameAt, session, l.requests⟩ :=
        (watching.up up).checked clocked told seen
      refine ⟨max l.consumer.lastReceived (session.lastFrameAt.getD 0), ?_, ?_⟩
      · refine List.max?_eq_some_iff.mpr ⟨told ▸ heard.told, fun sign member => ?_⟩
        have bound := heard.newest sign member
        dsimp only at bound
        omega
      · rw [Consumer.onCheck_stage, stage]

/-- A sign that the loop is told of is no older than those before it. -/
theorem Watching.forward (watching : Watching before l) (clocked : Clocked (before ++ [e]))
    (step : Step p credentials l e next) (other : ∀ time, e ≠ .attempted .succeeded time) :
    l.consumer.lastReceived ≤ next.consumer.lastReceived := by
  cases step with
  | connected time => exact (other time rfl).elim
  | passed _ event c session deaf stepped unconnected unsubscribed unread unchecked =>
    have step := Consumer.step_of_step? stepped
    have told := Consumer.heard_of_quiet (c := l.consumer) unconnected unread unchecked
    exact Nat.le_of_eq (step.lastReceived.trans told).symm
  | requested nowMs stream later frame c stage written stepped =>
    have step := Consumer.step_of_step? stepped
    exact Nat.le_of_eq step.lastReceived.symm
  | received arrivals message time c session stepped =>
    have step := Consumer.step_of_step? stepped
    have up := step.isUp_of_hearing (.inl ⟨message, time, rfl⟩)
    obtain ⟨-, -, later⟩ := clocked.concat
    have told : c.lastReceived = time := step.lastReceived
    have latest : time ∈ (Event.read arrivals time).times :=
      List.mem_append_right _ (List.mem_singleton_self time)
    rw [told]
    exact later _ (watching.up up).told time latest
  | readFailed arrivals event time c session stepped ended =>
    have step := Consumer.step_of_step? stepped
    rcases ended with rfl | ⟨error, rfl⟩
    all_goals exact Nat.le_of_eq step.lastReceived.symm
  | checked arrivals time c session stepped =>
    have step := Consumer.step_of_step? stepped
    have told : c.lastReceived = max l.consumer.lastReceived (session.lastFrameAt.getD 0) :=
      step.lastReceived
    rw [told]
    exact Nat.le_max_left _ _
  | restarted => exact Nat.le_refl _

/-- What the watchdog of a link does after a run. -/
structure Watched (p : Consumer.Plan) (credentials : Option Credentials) (events : List Event)
    (l : Link) : Prop where
  /-- A check of a streaming session ends it if and only if the newest sign of life is too old. -/
  exact : ∀ arrivals time, l.consumer.stage = .streaming →
    (l.session.nextMessage arrivals).outcome = .waiting →
    Clocked (events ++ [.checked arrivals time]) →
    ∃ next newest, l.step? p credentials (.checked arrivals time) = some next ∧
      (signs (events ++ [.checked arrivals time])).max? = some newest ∧
      next.consumer.stage =
        if p.options.longestSilence < time - newest then .closing false else .streaming
  /-- A check between two signs that are not too far apart does not end it. -/
  lively : ∀ arrivals time next, l.step? p credentials (.checked arrivals time) = some next →
    Clocked (events ++ [.checked arrivals time]) →
    ∀ sign ∈ signs (events ++ [.checked arrivals time]), ∀ following, time ≤ following →
      following - sign ≤ p.options.longestSilence → next.consumer.stage = .streaming
  /-- A check when all signs are too old ends it. -/
  silent : ∀ arrivals time next, l.step? p credentials (.checked arrivals time) = some next →
    Clocked (events ++ [.checked arrivals time]) →
    (∀ sign ∈ signs (events ++ [.checked arrivals time]),
      p.options.longestSilence < time - sign) → next.consumer.stage = .closing false
  /-- The last sign that the loop knows of never gets older, save for that of a new connection. -/
  forward : ∀ e next, l.step? p credentials e = some next → Clocked (events ++ [e]) →
    (∀ time, e ≠ .attempted .succeeded time) →
    l.consumer.lastReceived ≤ next.consumer.lastReceived
  /-- It is never one of an older connection. -/
  own : ∀ time, .attempted .succeeded time ∈ events → l.consumer.lastReceived ∈ signs events

/-- After every run with a clock that does not go backwards the watchdog is exact. -/
theorem watchdog_is_exact {time : Nat} (ran : run? p credentials (initial time) events = some l)
    (clocked : Clocked events) : Watched p credentials events l := by
  have watching := run?_watching ran clocked
  refine ⟨?_, ?_, ?_, ?_, watching.own⟩
  · intro arrivals time streaming waits clock
    obtain ⟨next, checked⟩ := check?_of_waiting p credentials time streaming waits
    obtain ⟨newest, max, stage⟩ := watching.check clock checked
    exact ⟨next, newest, checked, max, stage⟩
  · intro arrivals time next checked clock sign member following soon near
    obtain ⟨newest, max, stage⟩ := watching.check clock checked
    have newer := (List.max?_eq_some_iff.mp max).2 sign member
    rw [stage, if_neg (by omega)]
  · intro arrivals time next checked clock old
    obtain ⟨newest, max, stage⟩ := watching.check clock checked
    have member := (List.max?_eq_some_iff.mp max).1
    rw [stage, if_pos (old newest member)]
  · intro e next stepped clock other
    exact watching.forward clock (step_of_step? stepped) other

/-- A ping keeps a connection that was made at 10 until 120, but no longer. -/
theorem watchdog_is_exact_pinged :
    let plan : Consumer.Plan := ⟨⟨⟨5, 2, 20⟩, 20, 60, 10, 16⟩, [], false⟩
    let events : List Event := [.started, .attempted .succeeded 10,
      .checked [.frame (.ping ⟨#[]⟩) 60 true] 65, .checked [] 120]
    ∃ l next, run? plan none (initial 0) events = some l ∧ l.consumer.stage = .streaming ∧
      Watched plan none events l ∧ l.step? plan none (.checked [] 121) = some next ∧
      next.consumer.stage = .closing false := by
  intro plan events
  have after : (run? plan none (initial 0) events).map (fun l => (l.consumer.stage, l.session)) =
      some (.streaming, ⟨true, true, true, some 60⟩) := by cbv
  obtain ⟨l, ran, state⟩ := Option.map_eq_some_iff.mp after
  obtain ⟨streaming, session⟩ := Prod.mk.inj state
  have watched := watchdog_is_exact ran (by unfold Clocked; decide)
  have waits : (l.session.nextMessage []).outcome = .waiting := by
    rw [session, Session.nextMessage, Session.nextDecoded]
    rfl
  obtain ⟨next, newest, stepped, last, closing⟩ :=
    watched.exact [] 121 streaming waits (by unfold Clocked; decide)
  obtain rfl : 60 = newest := Option.some.inj last
  exact ⟨l, next, ran, streaming, watched, stepped, closing⟩


end Link

end MarketGateway
