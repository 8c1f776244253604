import MarketGateway.Proofs.Consumer.History
import MarketGateway.Stream.Link

/-!
# Steps of a link

`Step` lists what a step of a link does to its consumer and to its session; every step is one of these.
A run of a link is a history of its consumer.
-/

namespace MarketGateway

/-! ### Reading -/

namespace Session

def Arrival.time? : Arrival → Option Nat
  | .frame _ time _ => some time
  | .failure | .finished => none

/-- The times of the frames among some arrivals. -/
def timesOf (arrivals : List Arrival) : List Nat := arrivals.filterMap Arrival.time?

/-- What was read is gone from the arrivals, and the last frame of it is the last that was seen. -/
def Sees {α : Type} (s : Session) (arrivals : List Arrival) (r : Reading α) : Prop :=
  ∃ read, arrivals = read ++ r.rest ∧
    r.session.lastFrameAt = (timesOf read).getLast?.or s.lastFrameAt

theorem Sees.cons {α : Type} {s middle : Session} {arrivals : List Arrival} {arrival : Arrival}
    {r : Reading α} (seen : middle.Sees arrivals r)
    (first : middle.lastFrameAt = arrival.time?.or s.lastFrameAt) : s.Sees (arrival :: arrivals) r := by
  obtain ⟨read, split, last⟩ := seen
  refine ⟨arrival :: read, by rw [split, List.cons_append], ?_⟩
  rw [last, first]
  cases time : arrival.time? with
  | none => simp [timesOf, time]
  | some t =>
    have more : timesOf (arrival :: read) = t :: timesOf read := by simp [timesOf, time]
    rw [more, List.getLast?_cons]
    cases (timesOf read).getLast? <;> rfl

theorem Sees.after {α : Type} {s : Session} {arrivals : List Arrival} {r : Reading α}
    (seen : s.Sees arrivals r) (pongs : List Frame) : s.Sees arrivals (r.after pongs) := seen

theorem Sees.trans {α β : Type} {s : Session} {arrivals : List Arrival} {first : Reading α}
    {second : Reading β} (seen : s.Sees arrivals first)
    (more : first.session.Sees first.rest second) : s.Sees arrivals second := by
  obtain ⟨read, split, last⟩ := seen
  obtain ⟨later, rest, lastLater⟩ := more
  refine ⟨read ++ later, by rw [split, rest, List.append_assoc], ?_⟩
  rw [lastLater, last, timesOf, timesOf, timesOf, List.filterMap_append, List.getLast?_append,
    Option.or_assoc]

/-- A frame is sent, and the session is as it was, or sending fails. -/
theorem send_cases (s : Session) (delivered : Bool) :
    (s.send delivered = (s, .ok ()) ∧ delivered = true) ∨
      ∃ session error, s.send delivered = (session, .error error) ∧
        session.lastFrameAt = s.lastFrameAt := by
  unfold send
  split
  · exact .inr ⟨s, .notConnected, rfl, rfl⟩
  · split
    · exact .inr ⟨s, .noWriteHalf, rfl, rfl⟩
    · split
      · rename_i delivers
        exact .inl ⟨rfl, delivers⟩
      · exact .inr ⟨{ s with isConnected := false }, .send, rfl, rfl⟩

theorem answer_lastFrameAt (s : Session) (content : ByteArray) (answerable : Bool) :
    (s.answer content answerable).1.lastFrameAt = s.lastFrameAt := by
  unfold answer
  rcases send_cases s answerable with ⟨sent, -⟩ | ⟨session, error, sent, same⟩
  · rw [sent]
  · rw [sent]
    exact same

theorem readOn_sees (s : Session) (arrivals : List Arrival) :
    s.Sees arrivals (s.readOn arrivals) := by
  fun_induction readOn s arrivals with
  | case1 s => exact ⟨[], rfl, rfl⟩
  | case2 s rest => exact ⟨[.failure], rfl, rfl⟩
  | case3 s rest => exact ⟨[.finished], rfl, rfl⟩
  | case4 s time answerable rest heard content answered pongs result ih =>
    have same := answer_lastFrameAt heard content answerable
    rw [result] at same
    exact (ih.after pongs).cons same
  | case5 s time answerable rest heard content ih => exact ih.cons rfl
  | case6 s time answerable rest heard reason =>
    exact ⟨[.frame (.close reason) time answerable], rfl, rfl⟩
  | case7 s time answerable rest heard content =>
    exact ⟨[.frame (.text content) time answerable], rfl, rfl⟩
  | case8 s time answerable rest heard content =>
    exact ⟨[.frame (.binary content) time answerable], rfl, rfl⟩

theorem nextFrame_sees (s : Session) (arrivals : List Arrival) :
    s.Sees arrivals (s.nextFrame arrivals) := by
  unfold nextFrame
  split
  · exact ⟨[], rfl, rfl⟩
  · split
    · exact ⟨[], rfl, rfl⟩
    · exact readOn_sees s arrivals

theorem nextDecoded_sees {α : Type} (s : Session) (decode : Decoder α) (arrivals : List Arrival) :
    s.Sees arrivals (s.nextDecoded decode arrivals) := by
  have first := nextFrame_sees
  fun_induction nextDecoded s decode arrivals with
  | case6 s arrivals frame _ _ _ ih => exact ((first s arrivals).trans ih).after _
  | _ s arrivals => exact first s arrivals

theorem readOn_rest_of_waiting {s : Session} {arrivals : List Arrival}
    (waits : (s.readOn arrivals).outcome = .waiting) : (s.readOn arrivals).rest = [] := by
  fun_induction readOn s arrivals with
  | case1 s => rfl
  | case4 s time answerable rest heard content answered pongs result ih => exact ih waits
  | case5 s time answerable rest heard content ih => exact ih waits
  | _ => cases waits

theorem nextFrame_rest_of_waiting {s : Session} {arrivals : List Arrival}
    (waits : (s.nextFrame arrivals).outcome = .waiting) : (s.nextFrame arrivals).rest = [] := by
  unfold nextFrame at waits ⊢
  split at waits
  · cases waits
  · split at waits
    · cases waits
    · simp_all only [Bool.not_eq_true']
      exact readOn_rest_of_waiting waits

/-- A call that is given up has read all that had arrived. -/
theorem nextDecoded_rest_of_waiting {α : Type} {s : Session} {decode : Decoder α} {arrivals : List Arrival}
    (waits : (s.nextDecoded decode arrivals).outcome = .waiting) :
    (s.nextDecoded decode arrivals).rest = [] := by
  fun_induction nextDecoded s decode arrivals with
  | case1 s arrivals waiting => exact nextFrame_rest_of_waiting waiting
  | case6 s arrivals frame _ _ _ ih => exact ih waits
  | _ => cases waits

/-- After a call that has read all that had arrived, the last frame of it is the last that was seen. -/
theorem nextMessage_lastFrameAt {s : Session} {arrivals : List Arrival}
    (all : (s.nextMessage arrivals).rest = []) :
    (s.nextMessage arrivals).session.lastFrameAt =
      (timesOf arrivals).getLast?.or s.lastFrameAt := by
  have seen : s.Sees arrivals (s.nextMessage arrivals) := nextDecoded_sees s StreamMessage.ofFrame arrivals
  obtain ⟨read, split, last⟩ := seen
  rw [all, List.append_nil] at split
  rw [last, ← split]

end Session

namespace Link

open Session (Arrival Attempt)

/-- A connection is made, or a call for the next message has read what there was. -/
def Event.hears : Event → Bool
  | .attempted .succeeded _ | .read _ _ | .checked _ _ => true
  | _ => false

/-- What a step does: to the consumer what one of its own steps does, and to the session what the call
does that is made for it. -/
inductive Step (p : Consumer.Plan) (credentials : Option Credentials) (l : Link) :
    Event → Link → Prop where
  | connected (time : Nat) (c : Consumer) (stepped : l.consumer.step? p (.connected time) = some c) :
      Step p credentials l (.attempted .succeeded time)
        ⟨c, ⟨true, true, true, none⟩, [] :: l.requests⟩
  /-- What others do than to connect, to ask for a stream or to read. -/
  | passed (e : Event) (event : Consumer.Event) (c : Consumer) (session : Session)
      (deaf : e.hears = false) (stepped : l.consumer.step? p event = some c)
      (unconnected : ∀ time, event ≠ .connected time) (unsubscribed : event ≠ .subscribed)
      (unread : ∀ message time, event ≠ .received message time)
      (unchecked : ∀ time lastFrameAt, event ≠ .checked time lastFrameAt)
      (seen : session.lastFrameAt = l.session.lastFrameAt) :
      Step p credentials l e ⟨c, session, l.requests⟩
  | requested (nowMs : Int64) (stream : String) (later : List String) (frame : Frame) (c : Consumer)
      (stage : l.consumer.stage = .subscribing stream later)
      (written : streamRequestFrame credentials .subscribe [stream] nowMs = .ok frame)
      (stepped : l.consumer.step? p .subscribed = some c) :
      Step p credentials l (.requested nowMs true) ⟨c, l.session, addRequest l.requests (some frame)⟩
  | received (arrivals : List Arrival) (message : StreamMessage) (time : Nat) (c : Consumer)
      (session : Session) (stepped : l.consumer.step? p (.received message time) = some c)
      (seen : session.lastFrameAt = (Session.timesOf arrivals).getLast?.or l.session.lastFrameAt) :
      Step p credentials l (.read arrivals time) ⟨c, session, l.requests⟩
  | readFailed (arrivals : List Arrival) (event : Consumer.Event) (time : Nat) (c : Consumer)
      (session : Session) (stepped : l.consumer.step? p event = some c)
      (ended : event = .readFinished ∨ ∃ error, event = .readFailed error) :
      Step p credentials l (.read arrivals time) ⟨c, session, l.requests⟩
  | checked (arrivals : List Arrival) (time : Nat) (c : Consumer) (session : Session)
      (stepped : l.consumer.step? p (.checked time session.lastFrameAt) = some c)
      (seen : session.lastFrameAt = (Session.timesOf arrivals).getLast?.or l.session.lastFrameAt) :
      Step p credentials l (.checked arrivals time) ⟨c, session, l.requests⟩
  | restarted (stopped : l.consumer.stage = .stopped) :
      Step p credentials l .restarted { l with consumer := { l.consumer with stage := .ready } }

variable {p : Consumer.Plan} {credentials : Option Credentials} {l next final : Link} {e : Event}
  {events : List Event}

theorem request_cases (credentials : Option Credentials) (s : Session) (stream : String)
    (nowMs : Int64) (delivered : Bool) :
    (∃ frame, streamRequestFrame credentials .subscribe [stream] nowMs = .ok frame ∧
      delivered = true ∧
      s.request credentials .subscribe [stream] nowMs delivered = (s, .ok (some frame))) ∨
    ∃ session error, session.lastFrameAt = s.lastFrameAt ∧
      s.request credentials .subscribe [stream] nowMs delivered = (session, .error error) := by
  unfold Session.request
  simp only [List.isEmpty_cons, Bool.false_eq_true, if_false]
  split
  · rename_i error _
    exact .inr ⟨s, error, rfl, rfl⟩
  · rename_i frame written
    rcases s.send_cases delivered with ⟨sent, delivers⟩ | ⟨session, error, sent, same⟩
    · exact .inl ⟨frame, written, delivers, by rw [sent]; rfl⟩
    · exact .inr ⟨session, .socket error, same, by rw [sent]; rfl⟩

theorem pass?_step {event : Consumer.Event} (deaf : e.hears = false)
    (unconnected : ∀ time, event ≠ .connected time) (unsubscribed : event ≠ .subscribed)
    (unread : ∀ message time, event ≠ .received message time)
    (unchecked : ∀ time lastFrameAt, event ≠ .checked time lastFrameAt)
    (h : l.pass? p event = some next) : Step p credentials l e next := by
  obtain ⟨c, stepped, rfl⟩ := Option.map_eq_some_iff.mp h
  exact .passed e event c l.session deaf stepped unconnected unsubscribed unread unchecked rfl

theorem attempt?_step {attempt : Attempt} {time : Nat} (h : l.attempt? p attempt time = some next) :
    Step p credentials l (.attempted attempt time) next := by
  have failed : ∀ event : Consumer.Event,
      (event = .connectTimedOut ∨ ∃ error, event = .connectFailed error) →
      (Event.attempted attempt time).hears = false →
      (l.consumer.step? p event).map (fun c => { l with consumer := c }) = some next →
      Step p credentials l (.attempted attempt time) next := by
    intro event kind deaf stepped
    refine pass?_step deaf ?_ ?_ ?_ ?_ stepped
    all_goals rcases kind with rfl | ⟨error, rfl⟩ <;> simp
  cases attempt with
  | succeeded =>
    obtain ⟨c, stepped, rfl⟩ := Option.map_eq_some_iff.mp h
    exact .connected time c stepped
  | failed => exact failed _ (.inr ⟨_, rfl⟩) rfl h
  | timedOut => exact failed _ (.inr ⟨_, rfl⟩) rfl h
  | dropped => exact failed _ (.inl rfl) rfl h

theorem request?_step {nowMs : Int64} {delivered : Bool}
    (h : l.request? p credentials nowMs delivered = some next) :
    Step p credentials l (.requested nowMs delivered) next := by
  unfold request? at h
  split at h
  · rename_i stream later stage
    rcases request_cases credentials l.session stream nowMs delivered with
      ⟨frame, written, rfl, sent⟩ | ⟨session, error, same, sent⟩
    · rw [sent] at h
      obtain ⟨c, stepped, rfl⟩ := Option.map_eq_some_iff.mp h
      exact .requested nowMs stream later frame c stage written stepped
    · rw [sent] at h
      obtain ⟨c, stepped, rfl⟩ := Option.map_eq_some_iff.mp h
      exact .passed _ (.subscribeFailed error) c session rfl stepped (by simp) (by simp) (by simp)
        (by simp) same
  · cases h

theorem read?_step {arrivals : List Arrival} {time : Nat} (h : l.read? p arrivals time = some next) :
    Step p credentials l (.read arrivals time) next := by
  unfold read? at h
  dsimp only at h
  split at h
  · rename_i all
    have seen := Session.nextMessage_lastFrameAt (List.isEmpty_iff.mp all)
    obtain ⟨event, read, h⟩ := Option.bind_eq_some_iff.mp h
    obtain ⟨c, stepped, h⟩ := Option.bind_eq_some_iff.mp h
    obtain rfl := Option.some.inj h
    cases outcome : (l.session.nextMessage arrivals).outcome with
    | item message =>
      rw [outcome] at read
      obtain rfl := Option.some.inj read
      exact .received arrivals message time c _ stepped seen
    | failure error =>
      rw [outcome] at read
      obtain rfl := Option.some.inj read
      exact .readFailed arrivals _ time c _ stepped (.inr ⟨error, rfl⟩)
    | finished =>
      rw [outcome] at read
      obtain rfl := Option.some.inj read
      exact .readFailed arrivals _ time c _ stepped (.inl rfl)
    | waiting =>
      rw [outcome] at read
      cases read
  · cases h

theorem check?_step {arrivals : List Arrival} {time : Nat}
    (h : l.check? p arrivals time = some next) :
    Step p credentials l (.checked arrivals time) next := by
  unfold check? at h
  dsimp only at h
  split at h
  · rename_i waits
    have seen := Session.nextMessage_lastFrameAt (Session.nextDecoded_rest_of_waiting waits)
    obtain ⟨c, stepped, rfl⟩ := Option.map_eq_some_iff.mp h
    exact .checked arrivals time c _ stepped seen
  · cases h

theorem step_of_step? (h : l.step? p credentials e = some next) : Step p credentials l e next := by
  cases e with
  | started => exact pass?_step rfl (by simp) (by simp) (by simp) (by simp) h
  | attempted attempt time => exact attempt?_step h
  | slotTaken => exact pass?_step rfl (by simp) (by simp) (by simp) (by simp) h
  | requested nowMs delivered => exact request?_step h
  | read arrivals time => exact read?_step h
  | delivered => exact pass?_step rfl (by simp) (by simp) (by simp) (by simp) h
  | checked arrivals time => exact check?_step h
  | closed =>
    obtain ⟨c, stepped, rfl⟩ := Option.map_eq_some_iff.mp h
    exact .passed .closed .closed c _ rfl stepped (by simp) (by simp) (by simp) (by simp) rfl
  | waited => exact pass?_step rfl (by simp) (by simp) (by simp) (by simp) h
  | cancelled => exact pass?_step rfl (by simp) (by simp) (by simp) (by simp) h
  | restarted =>
    simp only [step?, restart?] at h
    split at h
    · rename_i stopped
      obtain rfl := Option.some.inj h
      exact .restarted stopped
    · cases h

/-! ### Runs -/

/-- What holds before the first event and is kept by every step holds after every run; it may speak of
the events so far. -/
theorem run?_induction {motive : List Event → Link → Prop}
    (ran : run? p credentials l events = some final) (start : motive [] l)
    (kept : ∀ before l e next, motive before l → Step p credentials l e next →
      motive (before ++ [e]) next) : motive events final :=
  Runs.induction ran start fun before l e next holds stepped =>
    kept before l e next holds (step_of_step? stepped)

theorem Step.history {failed connects : Nat} (step : Step p credentials l e next)
    (history : Consumer.History p failed connects l.consumer) :
    ∃ failed connects, Consumer.History p failed connects next.consumer := by
  cases step with
  | connected _ _ stepped | passed _ _ _ _ _ stepped | requested _ _ _ _ _ _ _ stepped
  | received _ _ _ _ _ stepped | readFailed _ _ _ _ _ stepped | checked _ _ _ _ stepped =>
    exact history.step stepped
  | restarted stopped => exact ⟨_, _, history.again stopped⟩

theorem run?_history {time : Nat} (ran : run? p credentials (initial time) events = some l) :
    ∃ failed connects, Consumer.History p failed connects l.consumer :=
  run?_induction (motive := fun _ l => ∃ failed connects, Consumer.History p failed connects l.consumer)
    ran ⟨0, 0, .fresh time⟩ fun _ _ _ _ ⟨_, _, history⟩ step => step.history history

end Link

end MarketGateway
