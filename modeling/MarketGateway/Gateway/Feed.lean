import MarketGateway.Conversion.Book
import MarketGateway.Conversion.Market
import MarketGateway.Conversion.Order
import MarketGateway.Gateway.Basic
import MarketGateway.Gateway.Drain

/-!
# Feeds

The public feed of a gateway is one consumer with a queue and a drain for every channel. The user feed
is a consumer and a drain that are cancelled together. A feed makes one step at a time, and any part
that can make one may be next.
-/

namespace MarketGateway

/-! ### Conversions -/

/-- Results that cannot be converted are left out. -/
def readable (result : Except Fault α) : Except Overflow (List α) :=
  match result with
  | .ok a => .ok [a]
  | .error (.error _) => .ok []
  | .error (.overflow o) => .error o

def BookMessage.diffsOf : StreamMessage → Except Overflow (List BookMessage)
  | .depth _ event =>
    readable ((BookDiff.ofEvent event (TradingPair.ofSymbol event.symbol)).map .diff)
  | _ => .ok []

def BookMessage.tradesOf : StreamMessage → Except Overflow (List BookMessage)
  | .trade _ event =>
    readable ((PublicTrade.ofEvent event (TradingPair.ofSymbol event.symbol)).map .trade)
  | _ => .ok []

def FundingInfo.updatesOf : StreamMessage → Except Overflow (List FundingInfo)
  | .markPrice _ event => readable (FundingInfo.ofEvent event)
  | _ => .ok []

def UserEvent.eventsOf : StreamMessage → Except Overflow (List UserEvent)
  | .order _ event => UserEvent.ofEvent event
  | _ => .ok []

/-! ### Steps of the consumer -/

namespace Feed

/-- A step of the consumer; only frames bring messages, and only the router delivers. -/
def consume? (p : Consumer.Plan) (c : Consumer) (e : Consumer.Event) : Option Consumer :=
  match e with
  | .received _ _ | .delivered => none
  | e => c.step? p e

/-- Reads a frame; one without a message is skipped. -/
def readFrame? (p : Consumer.Plan) (c : Consumer) (frame : Frame) (time : Nat) : Option Consumer :=
  match c.stage with
  | .streaming =>
    match StreamMessage.ofFrame frame with
    | .ok (some message) => c.step? p (.received message time)
    | _ => some c
  | _ => none

def deliver? (p : Consumer.Plan) (c : Consumer) (router : Router StreamMessage) :
    Option (Consumer × Router StreamMessage) := do
  match c.stage with
  | .delivering channel message =>
    return (← c.step? p .delivered, ← router.deliver? channel message)
  | _ => none

/-- What a drain does with the queue of a route. -/
def take? (convert : StreamMessage → Except Overflow (List α)) (channels : String)
    (router : Router StreamMessage) (d : Drain α) : Option (Router StreamMessage × Drain α) := do
  let place ← router.findIdx? fun r => r.channels == channels
  let route ← router[place]?
  let (queue, d) ← d.take? convert route.queue
  return (router.set place { route with queue := queue }, d)

inductive DrainEvent where
  | take
  | pass
  | stop
  | readOut
  | closeOutput

def drain? (convert : StreamMessage → Except Overflow (List α)) (channels : String)
    (router : Router StreamMessage) (d : Drain α) :
    DrainEvent → Option (Router StreamMessage × Drain α)
  | .take => take? convert channels router d
  | .pass => d.pass?.map fun d => (router, d)
  | .stop => if d.output.isOpen then none else d.stop?.map fun d => (router, d)
  | .readOut => d.readOut?.map fun d => (router, d)
  | .closeOutput => some (router, d.closeOutput)

end Feed

/-! ### The public feed -/

structure PublicFeed where
  consumer : Consumer
  router : Router StreamMessage
  diffs : Drain BookMessage
  trades : Drain BookMessage
  funding : Drain FundingInfo

namespace PublicFeed

open Feed

inductive Event where
  | consumer (event : Consumer.Event)
  | frame (frame : Frame) (time : Nat)
  | deliver
  | diffs (event : DrainEvent)
  | trades (event : DrainEvent)
  | funding (event : DrainEvent)

/-- A feed before its first step; every output has room for so many results. -/
def initial (g : Gateway) (time outputCapacity : Nat) : PublicFeed where
  consumer := Consumer.initial time
  router := (Gateway.channels g.kind).map fun c => ⟨c, .ofCapacity g.options.queueCapacity⟩
  diffs := .ofCapacity outputCapacity
  trades := .ofCapacity outputCapacity
  funding := .ofCapacity outputCapacity

def plan (g : Gateway) : Consumer.Plan := ⟨g.options, g.streams, true⟩

def step? (g : Gateway) (f : PublicFeed) : Event → Option PublicFeed
  | .consumer e => (consume? (plan g) f.consumer e).map fun c => { f with consumer := c }
  | .frame frame time =>
    (readFrame? (plan g) f.consumer frame time).map fun c => { f with consumer := c }
  | .deliver =>
    (deliver? (plan g) f.consumer f.router).map fun (c, r) => { f with consumer := c, router := r }
  | .diffs e =>
    (drain? BookMessage.diffsOf Exchange.depthChannel f.router f.diffs e).map fun (r, d) =>
      { f with router := r, diffs := d }
  | .trades e =>
    (drain? BookMessage.tradesOf Exchange.tradeChannel f.router f.trades e).map fun (r, d) =>
      { f with router := r, trades := d }
  | .funding e =>
    (drain? FundingInfo.updatesOf Exchange.markPriceChannel f.router f.funding e).map fun (r, d) =>
      { f with router := r, funding := d }

def run? (g : Gateway) (f : PublicFeed) (events : List Event) : Option PublicFeed :=
  events.foldlM (step? g) f

/-- A feed without trading pairs is not begun. -/
def begin? (g : Gateway) (time outputCapacity : Nat) : Except ExchangeError PublicFeed :=
  if g.streams.isEmpty then .error (.invalidParameters .noPairs)
  else .ok (initial g time outputCapacity)

end PublicFeed

/-! ### The user feed -/

structure UserFeed where
  consumer : Consumer
  router : Router StreamMessage
  events : Drain UserEvent
  /-- The feed has been cancelled, or its output has been closed. -/
  stopping : Bool

namespace UserFeed

open Feed

inductive Event where
  | cancelled
  | consumer (event : Consumer.Event)
  | frame (frame : Frame) (time : Nat)
  | deliver
  | events (event : DrainEvent)

def initial (g : Gateway) (time outputCapacity : Nat) : UserFeed where
  consumer := Consumer.initial time
  router := [⟨Exchange.orderUpdateChannel, .ofCapacity g.options.queueCapacity⟩]
  events := .ofCapacity outputCapacity
  stopping := false

def plan (g : Gateway) : Consumer.Plan := ⟨g.options, [Exchange.orderUpdateChannel], true⟩

/-- The drain may end when the feed is stopping, but only while it waits for a message. A drain that
finds its output closed stops the feed. -/
def drainStep? (f : UserFeed) : DrainEvent → Option UserFeed
  | .stop => if f.stopping then f.events.stop?.map fun d => { f with events := d } else none
  | e =>
    (drain? UserEvent.eventsOf Exchange.orderUpdateChannel f.router f.events e).map fun (r, d) =>
      { f with router := r, events := d, stopping := f.stopping || d.state = .over }

def step? (g : Gateway) (f : UserFeed) : Event → Option UserFeed
  | .cancelled => some { f with stopping := true }
  | .consumer .cancelled =>
    if f.stopping then
      (consume? (plan g) f.consumer .cancelled).map fun c => { f with consumer := c }
    else none
  | .consumer e => (consume? (plan g) f.consumer e).map fun c => { f with consumer := c }
  | .frame frame time =>
    (readFrame? (plan g) f.consumer frame time).map fun c => { f with consumer := c }
  | .deliver =>
    (deliver? (plan g) f.consumer f.router).map fun (c, r) => { f with consumer := c, router := r }
  | .events e => f.drainStep? e

def run? (g : Gateway) (f : UserFeed) (events : List Event) : Option UserFeed :=
  events.foldlM (step? g) f

def isOver (f : UserFeed) : Bool :=
  match f.consumer.stage with
  | .stopped => !f.events.isRunning
  | _ => false

/-- Private streams need credentials. -/
def begin? (g : Gateway) (time outputCapacity : Nat) : Except ExchangeError UserFeed :=
  if g.isAuthenticated then .ok (initial g time outputCapacity) else .error .authenticationRequired

end UserFeed

end MarketGateway
