import MarketGateway.Proofs.Conversion.Fills
import MarketGateway.Proofs.Feed.Delivery

/-!
# User events

What the reader of the user feed gets, over any number of connections: for every order event the update
of its order, and the trade behind it where it is a fill that can be read. Main statement:
`user_events_are_delivered`.
-/

namespace MarketGateway.UserFeed

open Feed
open Exchange (orderUpdateChannel)
open UserEvent (eventsOf)

variable {g : Gateway} {f next : UserFeed} {e : Event} {messages : List StreamMessage}
  {message : StreamMessage}

/-! ### Steps -/

/-- A message whose conversion does not overflow. -/
def Fits (message : StreamMessage) : Prop := eventsOf message = .ok (resultsOf eventsOf message)

/-- A feed whose output is open has not begun to stop, and its channel is balanced. -/
structure Calm (messages : List StreamMessage) (f : UserFeed) : Prop where
  running : f.stopping = false
  balanced : Balanced eventsOf orderUpdateChannel messages f.consumer f.router f.events
  fits : ∀ message ∈ f.router.queued orderUpdateChannel ++ f.consumer.held orderUpdateChannel,
    Fits message

structure Sound (messages : List StreamMessage) (f : UserFeed) : Prop where
  routes : Router.Ready [orderUpdateChannel] f.router
  calm : f.events.output.isOpen = true → Calm messages f

theorem initial_sound (g : Gateway) (time capacity : Nat) : Sound [] (initial g time capacity) where
  routes := ⟨rfl, List.pairwise_singleton .., by simp [initial, Queue.ofCapacity]⟩
  calm _ := by
    have empty : (initial g time capacity).router.queued orderUpdateChannel ++
        (initial g time capacity).consumer.held orderUpdateChannel = [] := by
      simp [initial, Router.queued, Queue.ofCapacity, Consumer.initial, Consumer.held]
    refine ⟨rfl, ⟨rfl, ?_⟩, by simp [empty]⟩
    rw [empty]
    simp [initial, Drain.ofCapacity, Queue.ofCapacity]

def Event.frame? : Event → Option Frame
  | .frame content _ => some content
  | _ => none

/-- The frames that have been read, over all connections. -/
def framesOf (events : List Event) : List Frame := events.filterMap Event.frame?

def Event.message? (e : Event) : Option StreamMessage := e.frame?.bind Frame.message?

theorem Calm.frame {router : Router StreamMessage} {consumer : Consumer} (calm : Calm messages f)
    (waiting : router.queued orderUpdateChannel ++ consumer.held orderUpdateChannel =
      f.router.queued orderUpdateChannel ++ f.consumer.held orderUpdateChannel) :
    Calm messages { f with consumer := consumer, router := router } :=
  ⟨calm.running, calm.balanced.frame waiting, waiting ▸ calm.fits⟩

theorem step?_consumer {event : Consumer.Event} (uncancelled : event ≠ .cancelled) :
    step? g f (.consumer event) =
      (consume? (plan g) f.consumer event).map fun c => { f with consumer := c } := by
  cases event with
  | cancelled => exact (uncancelled rfl).elim
  | _ => rfl

theorem Sound.consumer {event : Consumer.Event} (sound : Sound messages f)
    (h : step? g f (.consumer event) = some next) : Sound messages next := by
  by_cases cancelled : event = .cancelled
  · -- Only a feed that stops cancels its consumer, and its output is closed.
    subst cancelled
    unfold step? at h
    dsimp only at h
    split at h
    · rename_i stopping
      obtain ⟨c, -, rfl⟩ := Option.map_eq_some_iff.mp h
      refine ⟨sound.routes, fun isOpen => ?_⟩
      cases stopping.symm.trans (sound.calm isOpen).running
    · cases h
  · rw [step?_consumer cancelled] at h
    obtain ⟨c, stepped, rfl⟩ := Option.map_eq_some_iff.mp h
    exact ⟨sound.routes, fun isOpen =>
      (sound.calm isOpen).frame (by rw [consume?_held stepped cancelled])⟩

theorem Sound.drain {event : DrainEvent} {router : Router StreamMessage} {d : Drain UserEvent}
    (sound : Sound messages f)
    (drained : drain? eventsOf orderUpdateChannel f.router f.events event = some (router, d)) :
    Sound messages { f with router := router, events := d, stopping := f.stopping || d.state = .over } := by
  refine ⟨(drain?_keeps sound.routes drained).1, fun isOpen => ?_⟩
  obtain ⟨running, balanced, fits⟩ := sound.calm (drain?_isOpen drained isOpen)
  have kept := Balanced.drain_of_queued (fun message member => fits message (List.mem_append_left _ member))
    sound.routes (fun _ => balanced) drained isOpen
  refine ⟨?_, kept, fun message member => fits message ?_⟩
  · simp [running, kept.running]
  · rcases List.mem_append.mp member with queued | held
    · exact List.mem_append_left _ ((drain?_queued sound.routes drained).mem queued)
    · exact List.mem_append_right _ held

theorem Sound.events {event : DrainEvent} (sound : Sound messages f)
    (h : f.drainStep? event = some next) : Sound messages next := by
  unfold drainStep? at h
  split at h
  · -- The same holds of the end of the drain.
    split at h
    · rename_i stopping
      obtain ⟨d, stopped, rfl⟩ := Option.map_eq_some_iff.mp h
      refine ⟨sound.routes, fun isOpen => ?_⟩
      unfold Drain.stop? at stopped
      split at stopped
      · obtain rfl := Option.some.inj stopped
        cases stopping.symm.trans (sound.calm isOpen).running
      · cases stopped
    · cases h
  · obtain ⟨⟨router, d⟩, drained, rfl⟩ := Option.map_eq_some_iff.mp h
    exact sound.drain drained

theorem Sound.frame {frame : Frame} {time : Nat} {c : Consumer} (sound : Sound messages f)
    (read : readFrame? (plan g) f.consumer frame time = some c)
    (fits : ∀ message, frame.message? = some message → message.isOn orderUpdateChannel = true →
      Fits message) : Sound (messages ++ frame.message?.toList) { f with consumer := c } := by
  refine ⟨sound.routes, fun isOpen => ?_⟩
  obtain ⟨running, balanced, waiting⟩ := sound.calm isOpen
  obtain ⟨idle, held⟩ : f.consumer.held orderUpdateChannel = [] ∧
      c.held orderUpdateChannel = frame.message?.toList.filter (·.isOn orderUpdateChannel) :=
    readFrame?_held read
  refine ⟨running, balanced.read idle held, fun message member => ?_⟩
  rcases List.mem_append.mp member with queued | new
  · exact waiting message (List.mem_append_left _ queued)
  · rw [held] at new
    obtain ⟨has, here⟩ := List.mem_filter.mp new
    exact fits message (Option.mem_toList.mp has) here

/-- Every step keeps the balance; the message of a frame is one more. -/
theorem Sound.step (sound : Sound messages f) (h : step? g f e = some next) (uncancelled : e ≠ .cancelled)
    (fits : ∀ message, e.message? = some message → message.isOn orderUpdateChannel = true → Fits message) :
    Sound (messages ++ e.message?.toList) next := by
  have quiet : e.message? = none → Sound messages next →
      Sound (messages ++ e.message?.toList) next := by
    intro none kept
    simpa [none] using kept
  cases e with
  | cancelled => exact (uncancelled rfl).elim
  | consumer event => exact quiet rfl (sound.consumer h)
  | frame frame time =>
    obtain ⟨c, read, rfl⟩ := Option.map_eq_some_iff.mp h
    exact sound.frame read fits
  | deliver =>
    obtain ⟨⟨c, router⟩, delivered, rfl⟩ := Option.map_eq_some_iff.mp h
    obtain ⟨kept, idle, queues⟩ := deliver?_moves sound.routes delivered
    have moved : router.queued orderUpdateChannel ++ c.held orderUpdateChannel =
        f.router.queued orderUpdateChannel ++ f.consumer.held orderUpdateChannel := by
      rw [idle, queues _ List.mem_cons_self, List.append_nil]
    exact quiet rfl ⟨kept, fun isOpen => (sound.calm isOpen).frame moved⟩
  | events event => exact quiet rfl (sound.events h)

theorem Sound.run {events : List Event} (sound : Sound messages f) (h : run? g f events = some next)
    (uncancelled : Event.cancelled ∉ events)
    (fits : ∀ message ∈ events.filterMap Event.message?, message.isOn orderUpdateChannel = true →
      Fits message) : Sound (messages ++ events.filterMap Event.message?) next := by
  induction events generalizing f messages with
  | nil =>
    obtain rfl := Option.some.inj h
    simpa using sound
  | cons e events ih =>
    obtain ⟨middle, stepped, rest⟩ := Option.bind_eq_some_iff.mp h
    obtain ⟨here, later⟩ := not_or.mp (mt List.mem_cons.mpr uncancelled)
    have split : (e :: events).filterMap Event.message? =
        e.message?.toList ++ events.filterMap Event.message? := by
      cases message : e.message? <;> simp [message]
    rw [split] at fits ⊢
    have first := sound.step stepped (fun same => here same.symm) fun message has =>
      fits message (List.mem_append_left _ (Option.mem_toList.mpr has))
    rw [← List.append_assoc]
    exact ih first rest later fun message member => fits message (List.mem_append_right _ member)

/-! ### What is delivered -/

/-- The order events on order streams, in the order of their frames. -/
def orderEvents (frames : List Frame) : List Wire.OrderEvent :=
  frames.filterMap fun frame =>
    match frame.message? with
    | some (.order stream event) =>
      if Text.startsWith stream orderUpdateChannel then some event else none
    | _ => none

theorem mem_orderEvents {frames : List Frame} {frame : Frame} {stream : String} {event : Wire.OrderEvent}
    (member : frame ∈ frames) (has : frame.message? = some (.order stream event))
    (here : Text.startsWith stream orderUpdateChannel = true) : event ∈ orderEvents frames :=
  List.mem_filterMap.mpr ⟨frame, member, by simp only [has, here, if_true]⟩

/-- Only what an order event fills can overflow. -/
theorem fits_of_message {frames : List Frame} (small : ∀ event ∈ orderEvents frames, ¬ event.Overflows)
    {frame : Frame} (member : frame ∈ frames) (has : frame.message? = some message)
    (here : message.isOn orderUpdateChannel = true) : Fits message := by
  cases message with
  | order stream event =>
    have fits := small event (mem_orderEvents member has here)
    simp only [Fits, resultsOf, eventsOf, UserEvent.ofEvent_eq fits]
  | _ => rfl

theorem order_results {frames : List Frame}
    (small : ∀ event ∈ orderEvents frames, ¬ event.Overflows) :
    ((frames.filterMap Frame.message?).filter (·.isOn orderUpdateChannel)).flatMap
      (resultsOf eventsOf) = (orderEvents frames).flatMap UserEvent.allOf := by
  refine flatMap_resultsOf fun frame member => ?_
  cases has : frame.message? with
  | none => rfl
  | some message =>
    cases here : message.isOn orderUpdateChannel with
    | false =>
      cases message with
      | order stream event =>
        have elsewhere : Text.startsWith stream orderUpdateChannel = false := here
        simp [here, elsewhere]
      | _ => simp [here]
    | true =>
      cases message with
      | order stream event =>
        have there : Text.startsWith stream orderUpdateChannel = true := here
        have fits := small event (mem_orderEvents member has there)
        simp [here, there, resultsOf, eventsOf, UserEvent.ofEvent_eq fits]
      | _ => simp [here, resultsOf, eventsOf]

/-- An order event has an update of its order, and a trade exactly if it is a fill that can be read; the trade
is of the same order, under the same pair and the same client id, and has the amounts of the event. -/
structure Faithful (event : Wire.OrderEvent) : Prop where
  order : OrderUpdate.OfEvent event (OrderUpdate.ofEvent event)
  trade_exists : (∃ trade, TradeUpdate.ofEvent? event = some trade) ↔ event.IsFill ∧ event.IsReadable
  trade : ∀ trade, TradeUpdate.ofEvent? event = some trade → TradeUpdate.OfEvent event trade
  same_order : ∀ trade, TradeUpdate.ofEvent? event = some trade → trade.IsOf (OrderUpdate.ofEvent event)

/-- As long as a run is not cancelled and its output stays open, the reader has got the first of the
events that the frames hold for it, and all of them once the queues on the way are empty. Every order
event gives the update of its order, whether or not the fill in it can be read. -/
theorem user_events_are_delivered {events : List Event} {time capacity : Nat}
    (h : run? g (initial g time capacity) events = some f) (uncancelled : Event.cancelled ∉ events)
    (isOpen : f.events.output.isOpen = true)
    (small : ∀ event ∈ orderEvents (framesOf events), ¬ event.Overflows) :
    Delivers ((orderEvents (framesOf events)).flatMap UserEvent.allOf) orderUpdateChannel f.consumer
      f.router f.events ∧ ∀ event ∈ orderEvents (framesOf events), Faithful event := by
  have messages : events.filterMap Event.message? = (framesOf events).filterMap Frame.message? := by
    rw [framesOf, List.filterMap_filterMap]
    rfl
  have sound := (initial_sound g time capacity).run h uncancelled fun message member here => by
    rw [messages] at member
    obtain ⟨frame, read, has⟩ := List.mem_filterMap.mp member
    exact fits_of_message small read has here
  rw [List.nil_append, messages] at sound
  refine ⟨order_results small ▸ (sound.calm isOpen).balanced.delivers, fun event member => ?_⟩
  have fits := small event member
  exact ⟨OrderUpdate.ofEvent_ofEvent event, TradeUpdate.ofEvent?_exists_iff fits,
    fun trade made => TradeUpdate.ofEvent?_ofEvent fits made,
    fun trade made => (TradeUpdate.ofEvent?_ofEvent fits made).isOf⟩

/-! ### A run over two connections -/

namespace Reconnecting

def gateway : Gateway where
  client := ⟨.ofServer Exchange.restUrl Exchange.name, none, false⟩
  streamUrl := Exchange.streamUrl
  tradingPairs := ["SOL-USDC"]
  kind := .spot
  options := .default
  credentials := none

def fillFrame (quantity : String) : Frame :=
  .text ("\x7b\"stream\":\"account.orderUpdate\",\"data\":\x7b\"e\":\"orderFill\"," ++
    "\"E\":1700000000500000,\"s\":\"SOL_USDC\",\"X\":\"Filled\",\"i\":\"987\",\"l\":\"" ++ quantity ++
    "\",\"L\":\"100\",\"T\":1700000000400000,\"t\":\"42\"\x7d\x7d")

def connecting : List Event :=
  [.consumer (.connected 1), .consumer .slotTaken, .consumer .subscribed]

/-- A fill that cannot be read comes first, and a new connection before the next one. -/
def script : List Event :=
  .consumer .started :: connecting ++
    [.frame (fillFrame "x") 2, .deliver, .events .take, .consumer .readFinished, .consumer .closed,
      .consumer .waited] ++
    connecting ++
    [.events .pass, .frame (fillFrame "0.4") 9, .deliver, .events .take, .events .pass, .events .pass,
      .events .readOut, .events .readOut, .events .readOut]

def update : UserEvent := .order ⟨"SOL-USDC", 1700000000500, .filled, none, some "987"⟩

def trade (price quantity worth : Magnitude) : UserEvent :=
  .trade ⟨"42", none, "987", "SOL-USDC", 1700000000400, ⟨price, false⟩, ⟨quantity, false⟩, ⟨worth, false⟩,
    ⟨none, .zero⟩⟩

end Reconnecting

open Reconnecting in
theorem user_events_are_delivered_reconnecting :
    ∃ f, run? gateway (initial gateway 0 8) script = some f ∧ Event.cancelled ∉ script ∧
      f.events.output.isOpen = true ∧
      (∀ event ∈ orderEvents (framesOf script), ¬ event.Overflows) ∧
      f.events.read = [update, update, trade ⟨100, 0, by decide, by decide⟩ ⟨4, 1, by decide, by decide⟩
        ⟨400, 1, by decide, by decide⟩] ∧
      Delivers ((orderEvents (framesOf script)).flatMap UserEvent.allOf) orderUpdateChannel f.consumer
        f.router f.events ∧ ∀ event ∈ orderEvents (framesOf script), Faithful event := by
  have received : (run? gateway (initial gateway 0 8) script).map
      (fun f => (f.events.output.isOpen, f.events.read)) =
        some (true, [update, update, trade ⟨100, 0, by decide, by decide⟩ ⟨4, 1, by decide, by decide⟩
          ⟨400, 1, by decide, by decide⟩]) := by
    decide +kernel
  have computed : (orderEvents (framesOf script)).all
      (fun event => (UserEvent.ofEvent event).toOption.isSome) = true := by
    decide +kernel
  obtain ⟨f, run, seen⟩ := Option.map_eq_some_iff.mp received
  obtain ⟨isOpen, read⟩ := Prod.mk.inj seen
  have uncancelled : Event.cancelled ∉ script := by simp [script, connecting]
  have small : ∀ event ∈ orderEvents (framesOf script), ¬ event.Overflows := by
    intro event member exceeds
    obtain ⟨overflow, lost⟩ := UserEvent.ofEvent_of_overflows exceeds
    have made := List.all_eq_true.mp computed event member
    rw [lost] at made
    cases made
  obtain ⟨delivered, faithful⟩ := user_events_are_delivered run uncancelled isOpen small
  exact ⟨f, run, uncancelled, isOpen, small, read, delivered, faithful⟩

end MarketGateway.UserFeed
