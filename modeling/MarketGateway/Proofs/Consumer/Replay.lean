import MarketGateway.Proofs.Consumer.History

/-!
# The replay of subscriptions

`connectionsOf` cuts the log of a consumer into its connections. On every one of them the loop asks for
the same streams in the same order, from the first on, until it has asked for all and streams, or until
it closes the session. Main statement: `History.replays`.
-/

namespace MarketGateway.Consumer

/-! ### Connections -/

/-- Adds an entry to the newest connection, which is the first, or begins one. -/
def addEntry : List (List Entry) → Entry → List (List Entry)
  | connections, .finished .connect => [] :: connections
  | [], _ => []
  | current :: older, e => (current ++ [e]) :: older

/-- What the loop has done on each connection after it was made, the newest connection first. -/
def connectionsOf (log : List Entry) : List (List Entry) := log.foldl addEntry []

/-- More of what the loop does on its newest connection. -/
def continued (connections : List (List Entry)) (entries : List Entry) : List (List Entry) :=
  match connections with
  | [] => []
  | current :: older => (current ++ entries) :: older

theorem foldl_addEntry (connections : List (List Entry)) (entries : List Entry)
    (same : .finished .connect ∉ entries) :
    entries.foldl addEntry connections = continued connections entries := by
  induction entries generalizing connections with
  | nil => cases connections <;> simp [continued]
  | cons e entries ih =>
    obtain ⟨other, later⟩ := not_or.mp (mt List.mem_cons.mpr same)
    have added : addEntry connections e = continued connections [e] := by
      unfold addEntry continued
      split
      · exact (other rfl).elim
      · rfl
      · rfl
    rw [List.foldl_cons, ih _ later, added]
    cases connections <;> simp [continued]

theorem length_continued (connections : List (List Entry)) (entries : List Entry) :
    (continued connections entries).length = connections.length := by
  cases connections <;> rfl

theorem connectionsOf_append {log entries : List Entry} (same : .finished .connect ∉ entries) :
    connectionsOf (log ++ entries) = continued (connectionsOf log) entries := by
  rw [connectionsOf, List.foldl_append]
  exact foldl_addEntry _ entries same

theorem connectionsOf_connected {log entries : List Entry} (same : .finished .connect ∉ entries) :
    connectionsOf (log ++ .finished .connect :: entries) = entries :: connectionsOf log := by
  rw [connectionsOf, List.foldl_append, List.foldl_cons, foldl_addEntry _ entries same]
  rfl

/-! ### Asking for streams -/

/-- The slot that a subscription takes first. -/
def slot (p : Plan) : List Entry :=
  if p.throttled then
    [.began (.takeSlot Exchange.streamPool), .finished (.takeSlot Exchange.streamPool)]
  else []

/-- What the loop does for one stream. -/
def asking (p : Plan) (stream : String) : List Entry :=
  slot p ++ [.began (.subscribe stream), .finished (.subscribe stream)]

/-- The beginning of a connection on which these streams have been asked for. -/
def opening (p : Plan) (streams : List String) : List Entry :=
  .published .subscribing :: streams.flatMap (asking p)

theorem opening_concat (p : Plan) (streams : List String) (stream : String) :
    opening p (streams ++ [stream]) = opening p streams ++ asking p stream := by
  simp [opening]

def Entry.isAsking : Entry → Bool
  | .began (.takeSlot _) | .finished (.takeSlot _) | .began (.subscribe _)
  | .finished (.subscribe _) | .published .subscribing | .published .streaming => true
  | _ => false

/-- The loop does nothing about streams any more. -/
def Quiet (entries : List Entry) : Prop := ∀ e ∈ entries, e.isAsking = false

theorem Quiet.append {entries more : List Entry} (quiet : Quiet entries) (after : Quiet more) :
    Quiet (entries ++ more) := by
  intro e member
  rcases List.mem_append.mp member with member | member
  · exact quiet e member
  · exact after e member

/-- What has been done for a stream that has not been asked for: something has begun and is not over. -/
def Begun (p : Plan) (stream : String) (entries : List Entry) : Prop :=
  ∃ action, entries ++ [.finished action] <+: asking p stream

/-- What is done on a connection that streams, or has streamed, or has been given up before that. -/
inductive Replay (p : Plan) : List Entry → Prop where
  | up (rest : List Entry) (quiet : Quiet rest) :
      Replay p (opening p p.subscriptions ++ .published .streaming :: rest)
  | givenUp (done : List String) (stream : String) (later : List String) (begun rest : List Entry)
      (all : p.subscriptions = done ++ stream :: later) (part : Begun p stream begun)
      (quiet : Quiet rest) : Replay p (opening p done ++ begun ++ .began .close :: rest)

/-- What has been done on the newest connection of a consumer at a stage. -/
def Stage.Holds (p : Plan) : Stage → List Entry → Prop
  | .awaitingSlot stream later, entries =>
    p.throttled = true ∧ ∃ done, p.subscriptions = done ++ stream :: later ∧
      entries = opening p done ++ [.began (.takeSlot Exchange.streamPool)]
  | .subscribing stream later, entries =>
    ∃ done, p.subscriptions = done ++ stream :: later ∧
      entries = opening p done ++ (slot p ++ [.began (.subscribe stream)])
  | _, entries => Replay p entries

variable {p : Plan} {c next : Consumer} {e : Event} {failed connects : Nat} {entries : List Entry}

theorem begun_slot (throttled : p.throttled = true) (stream : String) :
    Begun p stream [.began (.takeSlot Exchange.streamPool)] :=
  ⟨.takeSlot Exchange.streamPool, by simp [asking, slot, throttled]⟩

theorem begun_subscribe (p : Plan) (stream : String) :
    Begun p stream (slot p ++ [.began (.subscribe stream)]) :=
  ⟨.subscribe stream, by simp [asking]⟩

theorem Replay.append {more : List Entry} (replay : Replay p entries) (quiet : Quiet more) :
    Replay p (entries ++ more) := by
  cases replay with
  | up rest before =>
    rw [List.append_assoc, List.cons_append]
    exact .up _ (before.append quiet)
  | givenUp done stream later begun rest all part before =>
    rw [List.append_assoc, List.cons_append]
    exact .givenUp done stream later begun _ all part (before.append quiet)

/-- Wherever the loop is, closing the session leaves a replay. -/
theorem Stage.Holds.close {stage : Stage} (holds : stage.Holds p entries) :
    Replay p (entries ++ [.began .close]) := by
  have closed : Replay p entries → Replay p (entries ++ [.began .close]) := fun replay =>
    replay.append (by simp [Quiet, Entry.isAsking])
  cases stage with
  | awaitingSlot stream later =>
    obtain ⟨throttled, done, all, rfl⟩ := holds
    exact .givenUp done stream later _ [] all (begun_slot throttled stream) (by simp [Quiet])
  | subscribing stream later =>
    obtain ⟨done, all, rfl⟩ := holds
    exact .givenUp done stream later _ [] all (begun_subscribe p stream) (by simp [Quiet])
  | _ => exact closed holds

/-! ### Steps -/

/-- The stream for which a subscription came to its end. -/
def Entry.subscribed? : Entry → Option String
  | .finished (.subscribe stream) => some stream
  | _ => none

def subscribed (entries : List Entry) : List String := entries.filterMap Entry.subscribed?

theorem subscribed_append (entries more : List Entry) :
    subscribed (entries ++ more) = subscribed entries ++ subscribed more := List.filterMap_append

theorem Quiet.subscribed (quiet : Quiet entries) : subscribed entries = [] := by
  refine List.filterMap_eq_nil_iff.mpr fun e member => ?_
  have calm := quiet e member
  unfold Entry.subscribed?
  split
  · cases calm
  · rfl

/-- The stream whose subscription comes to its end with an event. -/
def completed (c : Consumer) : Event → Option String
  | .subscribed =>
    match c.stage with
    | .subscribing stream _ => some stream
    | _ => none
  | _ => none

/-- What a step adds to the log, where it leaves the connection as it is. -/
structure Adds (c : Consumer) (e : Event) (next : Consumer) (entries : List Entry) : Prop where
  log : next.log = c.log ++ entries
  same : .finished .connect ∉ entries
  streams : subscribed entries = (c.completed e).toList

/-- What the loop adds when it asks for the first of the streams that are left. -/
def asks (p : Plan) : List String → List Entry
  | [] => [.published .streaming]
  | stream :: _ =>
    if p.throttled then [.began (.takeSlot Exchange.streamPool)] else [.began (.subscribe stream)]

theorem askFor_log (p : Plan) (c : Consumer) (streams : List String) :
    (c.askFor p streams).log = c.log ++ asks p streams := by
  cases streams with
  | nil => simp [askFor, asks, Stage.action?]
  | cons stream later =>
    cases throttled : p.throttled <;> simp [askFor, asks, throttled, Stage.action?]

theorem not_mem_asks (p : Plan) (streams : List String) : .finished .connect ∉ asks p streams := by
  cases streams with
  | nil => simp [asks]
  | cons stream later => cases throttled : p.throttled <;> simp [asks, throttled]

theorem subscribed_asks (p : Plan) (streams : List String) : subscribed (asks p streams) = [] := by
  cases streams with
  | nil => rfl
  | cons stream later =>
    simp only [asks]
    split <;> rfl

theorem askFor_holds {done streams : List String} (all : p.subscriptions = done ++ streams) :
    (c.askFor p streams).stage.Holds p (opening p done ++ asks p streams) := by
  cases streams with
  | nil =>
    obtain rfl : p.subscriptions = done := by simpa using all
    have streaming : (c.askFor p []).stage = .streaming := await_stage _ _
    rw [streaming]
    exact .up [] (by simp [Quiet])
  | cons stream later =>
    cases throttled : p.throttled with
    | true =>
      have stage : (c.askFor p (stream :: later)).stage = .awaitingSlot stream later := by
        simp [askFor, throttled]
      rw [stage]
      exact ⟨throttled, done, all, by simp [asks, throttled]⟩
    | false =>
      have stage : (c.askFor p (stream :: later)).stage = .subscribing stream later := by
        simp [askFor, throttled]
      rw [stage]
      exact ⟨done, all, by simp [asks, slot, throttled]⟩

/-- Before and after a step that does nothing about streams the connection may be over. -/
theorem continues_quiet (added : List Entry) (log : next.log = c.log ++ added)
    (same : .finished .connect ∉ added) (quiet : Quiet added) (none : c.completed e = none)
    (before : ∀ entries, c.stage.Holds p entries → Replay p entries)
    (after : ∀ entries, Replay p entries → next.stage.Holds p entries) :
    ∃ added, Adds c e next added ∧
      ∀ entries, c.stage.Holds p entries → next.stage.Holds p (entries ++ added) := by
  refine ⟨added, ⟨log, same, ?_⟩, ?_⟩
  · rw [none]
    exact quiet.subscribed
  · intro entries holds
    exact after _ ((before entries holds).append quiet)

/-- A step that does not connect goes on with the newest connection as its stage says. -/
theorem Step.continues (step : Step p c e next) (other : ∀ time, e ≠ .connected time) :
    ∃ added, Adds c e next added ∧
      ∀ entries, c.stage.Holds p entries → next.stage.Holds p (entries ++ added) := by
  cases step with
  | cancelled stage =>
    refine ⟨[.began .close], ⟨by simp [Stage.action?], by simp, rfl⟩, ?_⟩
    intro entries holds
    rw [await_stage]
    exact holds.close
  | connected time => exact (other time rfl).elim
  | connectFailed error stage | connectTimedOut stage | subscribeFailed stream later error stage
  | readFailed error stage | readFinished stage =>
    refine ⟨[.began .close], ⟨fail_log c, by simp, rfl⟩, ?_⟩
    intro entries holds
    rw [fail_stage]
    exact holds.close
  | slotTaken stream later stage =>
    refine ⟨[.finished (.takeSlot Exchange.streamPool), .began (.subscribe stream)],
      ⟨by simp [stage, Stage.action?], by simp, rfl⟩, ?_⟩
    intro entries holds
    rw [stage] at holds
    obtain ⟨throttled, done, all, rfl⟩ := holds
    rw [await_stage]
    exact ⟨done, all, by simp [slot, throttled]⟩
  | subscribed stream later stage =>
    refine ⟨.finished (.subscribe stream) :: asks p later, ⟨?_, ?_, ?_⟩, ?_⟩
    · simp [askFor_log, stage, Stage.action?]
    · simpa using not_mem_asks p later
    · have ended : c.completed .subscribed = some stream := by simp [completed, stage]
      rw [ended]
      exact congrArg (stream :: ·) (subscribed_asks p later)
    · intro entries holds
      rw [stage] at holds
      obtain ⟨done, all, rfl⟩ := holds
      have rest : p.subscriptions = (done ++ [stream]) ++ later := by simpa using all
      have asked := askFor_holds (c := c.finish) rest
      rw [opening_concat] at asked
      simpa [asking] using asked
  | checked time lastFrameAt stage =>
    unfold onCheck
    dsimp only
    split
    · refine ⟨[.began .close], ⟨by rw [fail_log, observe_log], by simp, rfl⟩, ?_⟩
      intro entries holds
      rw [fail_stage]
      exact holds.close
    · exact ⟨[], ⟨by simp, by simp, rfl⟩, fun entries holds => by simpa using holds⟩
  | received message time stage =>
    refine continues_quiet [] (by simp) (by simp) (by simp [Quiet]) rfl ?_ ?_
    · intro entries holds
      rwa [stage] at holds
    · intro entries replay
      unfold onReceived
      dsimp only
      split
      · exact replay
      · rwa [stage]
  | cancelledClosing stage | delivered channel message stage =>
    refine continues_quiet [] (by simp) (by simp) (by simp [Quiet]) rfl ?_ fun entries replay => replay
    intro entries holds
    rwa [stage] at holds
  | started stage =>
    refine continues_quiet [.published .connecting, .began .connect]
      (by simp [openSession, Stage.action?]) (by simp) (by simp [Quiet, Entry.isAsking]) rfl ?_ ?_
    · intro entries holds
      rwa [stage] at holds
    · intro entries replay
      rwa [openSession, await_stage]
  | waited delay stage =>
    refine continues_quiet [.finished (.sleep delay), .published .connecting, .began .connect]
      (by simp [openSession, stage, Stage.action?]) (by simp) (by simp [Quiet, Entry.isAsking]) rfl
      ?_ ?_
    · intro entries holds
      rwa [stage] at holds
    · intro entries replay
      rwa [openSession, await_stage]
  | closed cancelled stage =>
    let begun : Action := if cancelled then .close else .sleep (p.options.backoff.delay c.finish.failures)
    refine continues_quiet [.finished .close, .published .disconnected, .began begun]
      ?_ (by simp) ?_ rfl ?_ ?_
    · cases cancelled <;> simp [onFailureClosed, stage, Stage.action?, begun]
    · cases cancelled <;> simp [Quiet, Entry.isAsking, begun]
    · intro entries holds
      rwa [stage] at holds
    · intro entries replay
      rw [onFailureClosed, await_stage]
      cases cancelled <;> exact replay
  | lastClosed stage =>
    refine continues_quiet [.finished .close, .published .disconnected, .returned (.ok ())]
      (by simp [onLastClosed, stage, Stage.action?]) (by simp) (by simp [Quiet, Entry.isAsking]) rfl
      ?_ ?_
    · intro entries holds
      rwa [stage] at holds
    · intro entries replay
      rwa [onLastClosed, await_stage]

/-- Connecting begins a connection with the first request. -/
theorem Step.begins {time : Nat} (step : Step p c (.connected time) next) :
    connectionsOf next.log =
      (.published .subscribing :: asks p p.subscriptions) :: connectionsOf c.log := by
  cases step with
  | connected _ stage =>
    have log : (c.finish.onConnected p time).log =
        c.log ++ .finished .connect :: .published .subscribing :: asks p p.subscriptions := by
      rw [onConnected, askFor_log, publish_log, finish_log]
      simp [stage, Stage.action?]
    rw [log]
    exact connectionsOf_connected (by simpa using not_mem_asks p p.subscriptions)

/-- The newest connection is as the stage says, and all older ones are over. -/
def Replaying (p : Plan) (c : Consumer) : Prop :=
  ∀ current older, connectionsOf c.log = current :: older →
    c.stage.Holds p current ∧ ∀ entries ∈ older, Replay p entries

theorem Replaying.connect {time : Nat} (replaying : Replaying p c)
    (step : Step p c (.connected time) next) : Replaying p next := by
  have begins := step.begins
  cases step with
  | connected _ stage =>
    intro current older here
    rw [begins] at here
    obtain ⟨rfl, rfl⟩ := List.cons.inj here
    constructor
    · have all : p.subscriptions = [] ++ p.subscriptions := rfl
      exact askFor_holds all
    · intro entries member
      cases before : connectionsOf c.log with
      | nil => simp [before] at member
      | cons current older =>
        obtain ⟨last, others⟩ := replaying current older before
        rw [stage] at last
        rw [before] at member
        rcases List.mem_cons.mp member with rfl | member
        · exact last
        · exact others entries member

theorem Replaying.step (replaying : Replaying p c) (step : Step p c e next) : Replaying p next := by
  by_cases connects : ∃ time, e = .connected time
  · obtain ⟨time, rfl⟩ := connects
    exact replaying.connect step
  · obtain ⟨added, ⟨log, same, -⟩, holds⟩ := step.continues fun time is => connects ⟨time, is⟩
    intro current older here
    rw [log, connectionsOf_append same] at here
    cases before : connectionsOf c.log with
    | nil => simp [before, continued] at here
    | cons last others =>
      rw [before] at here
      obtain ⟨rfl, rfl⟩ := List.cons.inj here
      obtain ⟨now, past⟩ := replaying last others before
      exact ⟨holds last now, past⟩

theorem History.replaying (history : History p failed connects c) : Replaying p c := by
  refine history.invariant (fun time current older here => ?_)
    (fun _ _ _ replaying step => replaying.step step) fun c replaying stopped => ?_
  · simp [initial, connectionsOf] at here
  · intro current older here
    obtain ⟨now, past⟩ := replaying current older here
    rw [stopped] at now
    exact ⟨now, past⟩

/-! ### What was asked for -/

theorem subscribed_slot (p : Plan) : subscribed (slot p) = [] := by
  unfold slot
  split <;> rfl

theorem subscribed_opening (p : Plan) (streams : List String) :
    subscribed (opening p streams) = streams := by
  have asked : ∀ streams : List String, subscribed (streams.flatMap (asking p)) = streams := by
    intro streams
    induction streams with
    | nil => rfl
    | cons stream streams ih =>
      rw [List.flatMap_cons, subscribed_append, ih, asking, subscribed_append, subscribed_slot]
      rfl
  exact asked streams

theorem Begun.within {stream : String} (begun : Begun p stream entries) :
    entries <+: slot p ++ [.began (.subscribe stream)] := by
  obtain ⟨action, part⟩ := begun
  have whole : asking p stream =
      (slot p ++ [.began (.subscribe stream)]) ++ [.finished (.subscribe stream)] := by
    simp [asking]
  rw [whole, List.prefix_concat_iff] at part
  rcases part with same | within
  · have whole := (List.append_inj' same rfl).1
    exact whole ▸ List.prefix_rfl
  · exact (List.prefix_append _ _).trans within

theorem Begun.subscribed {stream : String} (begun : Begun p stream entries) :
    subscribed entries = [] := by
  have part := (begun.within.filterMap Entry.subscribed?)
  have none : (slot p ++ [Entry.began (.subscribe stream)]).filterMap Entry.subscribed? = [] := by
    rw [List.filterMap_append]
    exact List.append_eq_nil_iff.mpr ⟨subscribed_slot p, rfl⟩
  rw [none] at part
  exact List.prefix_nil.mp part

theorem not_streaming_slot (p : Plan) : .published .streaming ∉ slot p := by
  unfold slot
  split <;> simp

theorem not_streaming_opening (p : Plan) (streams : List String) :
    .published .streaming ∉ opening p streams := by
  have slots := not_streaming_slot p
  simp [opening, asking, slots]

theorem Quiet.not_streaming (quiet : Quiet entries) : .published .streaming ∉ entries :=
  fun member => by cases quiet _ member

theorem Begun.not_streaming {stream : String} (begun : Begun p stream entries) :
    .published .streaming ∉ entries := by
  have slots := not_streaming_slot p
  intro member
  have among := begun.within.subset member
  simp [slots] at among

/-- How far a connection has come: so many of the tracked streams have been asked for. -/
structure Replayed (p : Plan) (entries : List Entry) (count : Nat) : Prop where
  count_le : count ≤ p.subscriptions.length
  /-- The subscriptions that came to their end are those of the first streams. -/
  asked : subscribed entries = p.subscriptions.take count
  /-- Each of them was begun after the one before, and after the slot that it takes. -/
  inOrder : opening p (p.subscriptions.take count) <+: entries
  /-- The session streams if and only if all have been asked for. -/
  streaming : .published .streaming ∈ entries ↔ count = p.subscriptions.length
  /-- Once it streams, no stream is asked for again. -/
  up : count = p.subscriptions.length → ∃ rest, Quiet rest ∧
    entries = opening p p.subscriptions ++ .published .streaming :: rest
  /-- Otherwise it stands at the next stream, or was closed there. -/
  ended : ∀ stream, p.subscriptions[count]? = some stream → ∃ begun rest, Begun p stream begun ∧
    entries = opening p (p.subscriptions.take count) ++ begun ++ rest ∧
    (rest = [] ∨ ∃ after, rest = .began .close :: after ∧ Quiet after)

theorem replayed_up {rest : List Entry} (quiet : Quiet rest) :
    Replayed p (opening p p.subscriptions ++ .published .streaming :: rest)
      p.subscriptions.length := by
  refine ⟨Nat.le_refl _, ?_, ?_, ?_, fun _ => ⟨rest, quiet, rfl⟩, ?_⟩
  · have none : subscribed (.published .streaming :: rest) = [] := quiet.subscribed
    rw [subscribed_append, subscribed_opening, none, List.append_nil, List.take_length]
  · rw [List.take_length]
    exact List.prefix_append _ _
  · simp
  · intro stream here
    simp at here

theorem replayed_part {done later : List String} {stream : String} {begun rest : List Entry}
    (all : p.subscriptions = done ++ stream :: later) (part : Begun p stream begun)
    (ended : rest = [] ∨ ∃ after, rest = .began .close :: after ∧ Quiet after) :
    Replayed p (opening p done ++ begun ++ rest) done.length := by
  have first : p.subscriptions.take done.length = done := by rw [all, List.take_left]
  have fewer : done.length < p.subscriptions.length := by
    rw [all, List.length_append, List.length_cons]
    omega
  have quiet : Quiet rest := by
    rcases ended with rfl | ⟨after, rfl, quiet⟩
    · simp [Quiet]
    · have first : Quiet [.began .close] := by simp [Quiet, Entry.isAsking]
      exact first.append quiet
  refine ⟨Nat.le_of_lt fewer, ?_, ?_, ?_, fun same => absurd same (Nat.ne_of_lt fewer), ?_⟩
  · rw [first, subscribed_append, subscribed_append, subscribed_opening, part.subscribed,
      quiet.subscribed, List.append_nil, List.append_nil]
  · rw [first, List.append_assoc]
    exact List.prefix_append _ _
  · constructor
    · intro member
      simp [not_streaming_opening, part.not_streaming, quiet.not_streaming] at member
    · exact fun same => absurd same (Nat.ne_of_lt fewer)
  · intro next here
    have same : next = stream := by simpa [all] using here.symm
    rw [first, same]
    exact ⟨begun, rest, part, rfl, ended⟩

theorem Replay.replayed (replay : Replay p entries) : ∃ count, Replayed p entries count := by
  cases replay with
  | up rest quiet => exact ⟨_, replayed_up quiet⟩
  | givenUp done stream later begun rest all part quiet =>
    exact ⟨_, replayed_part all part (.inr ⟨rest, rfl, quiet⟩)⟩

theorem Stage.Holds.replayed {stage : Stage} (holds : stage.Holds p entries) :
    ∃ count, Replayed p entries count := by
  cases stage with
  | awaitingSlot stream later =>
    obtain ⟨throttled, done, all, rfl⟩ := holds
    exact ⟨_, by simpa using replayed_part all (begun_slot throttled stream) (.inl rfl)⟩
  | subscribing stream later =>
    obtain ⟨done, all, rfl⟩ := holds
    exact ⟨_, by simpa using replayed_part all (begun_subscribe p stream) (.inl rfl)⟩
  | _ => exact Replay.replayed holds

theorem Step.connections_length (step : Step p c e next) (other : ∀ time, e ≠ .connected time) :
    (connectionsOf next.log).length = (connectionsOf c.log).length := by
  obtain ⟨added, ⟨log, same, -⟩, -⟩ := step.continues other
  rw [log, connectionsOf_append same, length_continued]

theorem History.connections_length (history : History p failed connects c) :
    (connectionsOf c.log).length = connects := by
  induction history with
  | fresh time => rfl
  | connected _ stepped ih => rw [(step_of_step? stepped).begins, List.length_cons, ih]
  | failed _ fails stepped ih =>
    rw [(step_of_step? stepped).connections_length (ne_connected_of_failsOn fails), ih]
  | went _ _ other stepped ih => rw [(step_of_step? stepped).connections_length other, ih]
  | again _ _ ih => exact ih

/-- Every connection of a consumer asks for the tracked streams from the first on. -/
theorem History.replays (history : History p failed connects c) :
    ∀ entries ∈ connectionsOf c.log, ∃ count, Replayed p entries count := by
  intro entries member
  cases all : connectionsOf c.log with
  | nil => simp [all] at member
  | cons current older =>
    obtain ⟨now, past⟩ := history.replaying current older all
    rw [all] at member
    rcases List.mem_cons.mp member with rfl | member
    · exact now.replayed
    · exact (past entries member).replayed

end MarketGateway.Consumer
