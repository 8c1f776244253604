import MarketGateway.Error
import MarketGateway.Stream.Backoff
import MarketGateway.Stream.Message

/-!
# The stream consumer

The loop that keeps a stream going: it connects, asks for its streams one after the other, passes the
messages on, and starts again after a failure and a delay, until it is cancelled. Its `Stage` is what
it waits for, `step?` is what it does when that happens, and its log lists what it has done.
-/

namespace MarketGateway

/-- What others see of a connection. -/
inductive ConnectionState where
  | disconnected
  | connecting
  | subscribing
  | streaming
deriving DecidableEq

def ConnectionState.name : ConnectionState → String
  | .disconnected => "Disconnected"
  | .connecting => "Connecting"
  | .subscribing => "Subscribing"
  | .streaming => "Streaming"

/-- How a stream is kept going. Durations are nanoseconds. -/
structure StreamOptions where
  backoff : Backoff
  checkEvery : Nat
  longestSilence : Nat
  connectWithin : Nat
  queueCapacity : Nat

namespace StreamOptions

def seconds (n : Nat) : Nat := n * 10 ^ 9

def default : StreamOptions :=
  ⟨⟨seconds 1, 2, seconds 60⟩, seconds 30, seconds 120, seconds 10, 1024⟩

end StreamOptions

namespace Consumer

structure Plan where
  options : StreamOptions
  subscriptions : List String
  /-- Every subscription takes a slot of the stream pool first. -/
  throttled : Bool

inductive Stage where
  | ready
  | connecting
  | awaitingSlot (stream : String) (later : List String)
  | subscribing (stream : String) (later : List String)
  | streaming
  | delivering (channel : String) (message : StreamMessage)
  | closing (cancelled : Bool)
  | backingOff (delay : Nat)
  | closingLast
  | stopped

/-- What the loop asks of its session, of the rate limits and of the clock. -/
inductive Action where
  | connect
  | takeSlot (pool : String)
  | subscribe (stream : String)
  | close
  | sleep (duration : Nat)
deriving DecidableEq

def Stage.action? : Stage → Option Action
  | .connecting => some .connect
  | .awaitingSlot _ _ => some (.takeSlot Exchange.streamPool)
  | .subscribing stream _ => some (.subscribe stream)
  | .closing _ => some .close
  | .backingOff delay => some (.sleep delay)
  | .closingLast => some .close
  | .ready | .streaming | .delivering _ _ | .stopped => none

inductive Entry where
  | began (action : Action)
  /-- An action came to its end without an error that counts. -/
  | finished (action : Action)
  | published (state : ConnectionState)
  | returned (result : Except ExchangeError Unit)

inductive Event where
  | started
  | connected (time : Nat)
  | connectFailed (error : ExchangeError)
  | connectTimedOut
  | slotTaken
  | subscribed
  | subscribeFailed (error : ExchangeError)
  | received (message : StreamMessage) (time : Nat)
  | delivered
  | readFailed (error : ExchangeError)
  | readFinished
  /-- The check for silence, with the time of the last frame that the connection has read. -/
  | checked (time : Nat) (lastFrameAt : Option Nat)
  | closed
  | waited
  | cancelled

end Consumer

structure Consumer where
  stage : Consumer.Stage
  state : ConnectionState
  /-- When the last frame came, or the connection. -/
  lastReceived : Nat
  failures : Nat
  /-- The same number, as others see it. -/
  shownFailures : Nat
  connections : UInt32
  /-- When the last frame came, as others see it. -/
  shownReceived : Option Nat
  /-- What the loop has done, the oldest first. -/
  log : List Consumer.Entry

namespace Consumer

def initial (time : Nat) : Consumer := ⟨.ready, .disconnected, time, 0, 0, 0, none, []⟩

/-! ### Doings -/

def note (c : Consumer) (entry : Entry) : Consumer := { c with log := c.log ++ [entry] }

def publish (c : Consumer) (state : ConnectionState) : Consumer :=
  { c with state := state }.note (.published state)

/-- Begins to wait in a stage, with the action that belongs to it. -/
def await (c : Consumer) (stage : Stage) : Consumer :=
  match stage.action? with
  | some action => { c with stage := stage }.note (.began action)
  | none => { c with stage := stage }

def finish (c : Consumer) : Consumer :=
  match c.stage.action? with
  | some action => c.note (.finished action)
  | none => c

/-! ### Steps -/

def openSession (c : Consumer) : Consumer := (c.publish .connecting).await .connecting

/-- Asks for the first of the streams that are left; without one the session is up. -/
def askFor (p : Plan) (c : Consumer) : List String → Consumer
  | stream :: later =>
    c.await (if p.throttled then .awaitingSlot stream later else .subscribing stream later)
  | [] => (c.publish .streaming).await .streaming

def onConnected (p : Plan) (c : Consumer) (time : Nat) : Consumer :=
  askFor p
    ({ c with
      lastReceived := time
      failures := 0
      shownFailures := 0
      connections := c.connections + 1 }.publish .subscribing) p.subscriptions

def fail (c : Consumer) : Consumer := c.await (.closing false)

/-- A message counts as a sign of life; one without a channel is not passed on. -/
def onReceived (c : Consumer) (message : StreamMessage) (time : Nat) : Consumer :=
  let c := { c with lastReceived := time, shownReceived := some time }
  match message.channel with
  | some channel => { c with stage := .delivering channel message }
  | none => c

def observe (c : Consumer) (lastFrameAt : Option Nat) : Consumer :=
  match lastFrameAt with
  | some time =>
    if c.lastReceived < time then
      { c with
        lastReceived := time
        shownReceived := some (max time (c.shownReceived.getD 0)) }
    else c
  | none => c

def isStale (p : Plan) (c : Consumer) (time : Nat) : Bool :=
  p.options.longestSilence < time - c.lastReceived

def onCheck (p : Plan) (c : Consumer) (time : Nat) (lastFrameAt : Option Nat) : Consumer :=
  let c := c.observe lastFrameAt
  if c.isStale p time then c.fail else c

/-- A failed session is over: the delay is that of the failures before it. -/
def onFailureClosed (p : Plan) (c : Consumer) (cancelled : Bool) : Consumer :=
  let failures := min (c.failures + 1) Backoff.maxCount
  { c.publish .disconnected with failures := failures, shownFailures := failures }.await
    (if cancelled then .closingLast else .backingOff (p.options.backoff.delay c.failures))

/-- The last session is closed, and the loop is over. -/
def onLastClosed (c : Consumer) : Consumer :=
  ((c.publish .disconnected).note (.returned (.ok ()))).await .stopped

/-- Cancelling closes the session, after a close that is under way. -/
def cancel? (c : Consumer) : Option Consumer :=
  match c.stage with
  | .closing false => some { c with stage := .closing true }
  | .closing true | .closingLast | .stopped => none
  | _ => some (c.await .closingLast)

/-- What the loop does when something happens, if it is waiting for that. -/
def step? (p : Plan) (c : Consumer) (e : Event) : Option Consumer :=
  match c.stage, e with
  | _, .cancelled => c.cancel?
  | .ready, .started => some c.openSession
  | .connecting, .connected time => some (c.finish.onConnected p time)
  | .connecting, .connectFailed _ => some c.fail
  | .connecting, .connectTimedOut => some c.fail
  | .awaitingSlot stream later, .slotTaken => some (c.finish.await (.subscribing stream later))
  | .subscribing _ later, .subscribed => some (c.finish.askFor p later)
  | .subscribing _ _, .subscribeFailed _ => some c.fail
  | .streaming, .received message time => some (c.onReceived message time)
  | .streaming, .readFailed _ => some c.fail
  | .streaming, .readFinished => some c.fail
  | .streaming, .checked time lastFrameAt => some (c.onCheck p time lastFrameAt)
  | .delivering _ _, .delivered => some { c with stage := .streaming }
  | .closing cancelled, .closed => some (c.finish.onFailureClosed p cancelled)
  | .backingOff _, .waited => some c.finish.openSession
  | .closingLast, .closed => some c.finish.onLastClosed
  | _, _ => none

/-- The consumer after some events, each of which it was waiting for. -/
def run? (p : Plan) (c : Consumer) (events : List Event) : Option Consumer :=
  events.foldlM (step? p) c

end Consumer

end MarketGateway
