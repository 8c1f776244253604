import Mathlib.Data.List.Forall2
import MarketGateway.Proofs.Consumer.Replay
import MarketGateway.Proofs.Link.Step

/-!
# The frames of subscriptions

What a link sends for the streams that are tracked: on every connection one frame for each of the
first of them, in their order. Main statement: `subscriptions_are_replayed`.
-/

namespace MarketGateway.Link

open Consumer (connectionsOf continued subscribed)

variable {p : Consumer.Plan} {credentials : Option Credentials} {l next : Link} {e : Event}
  {events : List Event}

/-- One frame for each stream, which asks for that stream alone. -/
def Written (credentials : Option Credentials) (streams : List String) (frames : List Frame) : Prop :=
  List.Forall₂ (fun stream frame =>
    ∃ nowMs, streamRequestFrame credentials .subscribe [stream] nowMs = .ok frame) streams frames

theorem Written.concat {streams : List String} {frames : List Frame} {stream : String} {frame : Frame}
    {nowMs : Int64} (written : Written credentials streams frames)
    (more : streamRequestFrame credentials .subscribe [stream] nowMs = .ok frame) :
    Written credentials (streams ++ [stream]) (frames ++ [frame]) :=
  List.rel_append written (.cons ⟨nowMs, more⟩ .nil)

/-- The frames on every connection are those of the subscriptions that came to their end there. -/
def Sent (credentials : Option Credentials) (connections : List (List Consumer.Entry))
    (requests : List (List Frame)) : Prop :=
  List.Forall₂ (fun entries frames => Written credentials (subscribed entries) frames)
    connections requests

variable {connections : List (List Consumer.Entry)} {requests : List (List Frame)}
  {entries : List Consumer.Entry}

/-- Where no subscription comes to its end, no frame is sent. -/
theorem Sent.silent (sent : Sent credentials connections requests) (none : subscribed entries = []) :
    Sent credentials (continued connections entries) requests := by
  cases sent with
  | nil => exact .nil
  | cons current older =>
    refine .cons ?_ older
    rwa [Consumer.subscribed_append, none, List.append_nil]

theorem Sent.asked {stream : String} {frame : Frame} {nowMs : Int64}
    (sent : Sent credentials connections requests) (one : subscribed entries = [stream])
    (written : streamRequestFrame credentials .subscribe [stream] nowMs = .ok frame) :
    Sent credentials (continued connections entries) (addRequest requests (some frame)) := by
  cases sent with
  | nil => exact .nil
  | cons current older =>
    refine .cons ?_ older
    rw [Consumer.subscribed_append, one]
    exact current.concat written

/-- A step of the consumer that neither connects nor ends a subscription sends nothing. -/
theorem Sent.quiet {c after : Consumer} {event : Consumer.Event}
    (sent : Sent credentials (connectionsOf c.log) requests)
    (stepped : c.step? p event = some after) (unconnected : ∀ time, event ≠ .connected time)
    (unsubscribed : event ≠ .subscribed) : Sent credentials (connectionsOf after.log) requests := by
  obtain ⟨added, adds, -⟩ := (Consumer.step_of_step? stepped).continues unconnected
  have none : c.completed event = Option.none := by
    unfold Consumer.completed
    split
    · exact (unsubscribed rfl).elim
    · rfl
  rw [adds.log, Consumer.connectionsOf_append adds.same]
  exact sent.silent (by rw [adds.streams, none]; rfl)

theorem Sent.step (sent : Sent credentials (connectionsOf l.consumer.log) l.requests)
    (step : Step p credentials l e next) :
    Sent credentials (connectionsOf next.consumer.log) next.requests := by
  cases step with
  | connected time c stepped =>
    have none : subscribed (.published .subscribing :: Consumer.asks p p.subscriptions) = [] :=
      Consumer.subscribed_asks p p.subscriptions
    rw [(Consumer.step_of_step? stepped).begins]
    refine .cons ?_ sent
    rw [none]
    exact .nil
  | passed _ event c session deaf stepped unconnected unsubscribed =>
    exact sent.quiet stepped unconnected unsubscribed
  | requested nowMs stream later frame c stage written stepped =>
    obtain ⟨added, adds, -⟩ := (Consumer.step_of_step? stepped).continues (by simp)
    have one : l.consumer.completed .subscribed = some stream := by simp [Consumer.completed, stage]
    dsimp only
    rw [adds.log, Consumer.connectionsOf_append adds.same]
    exact sent.asked (by rw [adds.streams, one]; rfl) written
  | received arrivals message time c session stepped =>
    exact sent.quiet stepped (by simp) (by simp)
  | readFailed arrivals event time c session stepped ended =>
    rcases ended with rfl | ⟨error, rfl⟩
    all_goals exact sent.quiet stepped (by simp) (by simp)
  | checked arrivals time c session stepped =>
    exact sent.quiet stepped (by simp) (by simp)
  | restarted => exact sent

theorem run?_sent {time : Nat} (ran : run? p credentials (initial time) events = some l) :
    Sent credentials (connectionsOf l.consumer.log) l.requests :=
  run?_induction
    (motive := fun _ l => Sent credentials (connectionsOf l.consumer.log) l.requests) ran .nil
    fun _ _ _ _ sent step => sent.step step

/-- On every connection the loop asks for the tracked streams from the first on, each after the slot
that it takes, until all have been asked for and the session streams, or until it fails or is cancelled
at the next one. What has gone out on it are the frames for those streams, one for each. -/
theorem subscriptions_are_replayed (p : Consumer.Plan) :
    (∀ failed connects c, Consumer.History p failed connects c →
      (connectionsOf c.log).length = connects ∧
        ∀ entries ∈ connectionsOf c.log, ∃ count, Consumer.Replayed p entries count) ∧
    ∀ credentials time events l, run? p credentials (initial time) events = some l →
      List.Forall₂ (fun entries frames => ∃ count, Consumer.Replayed p entries count ∧
        Written credentials (p.subscriptions.take count) frames)
        (connectionsOf l.consumer.log) l.requests := by
  constructor
  · intro failed connects c history
    exact ⟨history.connections_length, history.replays⟩
  · intro credentials time events l ran
    obtain ⟨failed, connects, history⟩ := run?_history ran
    have replays := history.replays
    have sent := run?_sent ran
    have both := (List.forall₂_and_left _ _).mpr ⟨replays, sent⟩
    refine both.imp ?_
    rintro entries frames ⟨⟨count, replayed⟩, written⟩
    rw [replayed.asked] at written
    exact ⟨count, replayed, written⟩

/-- The second subscription of the first connection is lost; the second connection asks for both. -/
theorem subscriptions_are_replayed_reconnecting :
    let plan : Consumer.Plan :=
      ⟨StreamOptions.default, ["depth.SOL_USDC", "trade.SOL_USDC"], true⟩
    let events : List Event := [.started, .attempted .succeeded 1, .slotTaken, .requested 0 true,
      .slotTaken, .requested 0 false, .closed, .waited, .attempted .succeeded 9, .slotTaken,
      .requested 0 true, .slotTaken, .requested 0 true]
    ∃ l, run? plan none (initial 0) events = some l ∧ l.requests.map List.length = [2, 1] ∧
      List.Forall₂ (fun entries frames => ∃ count, Consumer.Replayed plan entries count ∧
        Written none (plan.subscriptions.take count) frames)
        (connectionsOf l.consumer.log) l.requests := by
  intro plan events
  obtain ⟨l, ran, sizes⟩ : ∃ l, run? plan none (initial 0) events = some l ∧
      l.requests.map List.length = [2, 1] := ⟨_, rfl, rfl⟩
  exact ⟨l, ran, sizes, (subscriptions_are_replayed plan).2 none 0 events l ran⟩

end MarketGateway.Link
