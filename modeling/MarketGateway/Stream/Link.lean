import MarketGateway.Stream.Consumer
import MarketGateway.Stream.Session

/-!
# Links

A link is a consumer on a socket session: what the consumer asks for is done by the session, and what
the session reads goes to the consumer. A step of a link is one call of the session, or something that
happens to the loop between two of them.
-/

namespace MarketGateway

structure Link where
  consumer : Consumer
  session : Session
  /-- The frames of the subscriptions that came to their end on each connection, the newest first. -/
  requests : List (List Frame)

namespace Link

open Session (Arrival Attempt)

inductive Event where
  | started
  | attempted (attempt : Attempt) (time : Nat)
  | slotTaken
  /-- The frame of a subscription is sent; `delivered` says whether the connection takes it. -/
  | requested (nowMs : Int64) (delivered : Bool)
  /-- A call for the next message ends at this time, when these have arrived. -/
  | read (arrivals : List Arrival) (time : Nat)
  | delivered
  /-- A call for the next message is given up for the check for silence, when these have arrived. -/
  | checked (arrivals : List Arrival) (time : Nat)
  | closed
  | waited
  | cancelled
  /-- A loop that has returned is run again. -/
  | restarted

def initial (time : Nat) : Link := ⟨.initial time, .initial, []⟩

/-- A frame on the newest connection, if there is one. -/
def addRequest (requests : List (List Frame)) (frame : Option Frame) : List (List Frame) :=
  match requests with
  | current :: older => (current ++ frame.toList) :: older
  | [] => []

variable (p : Consumer.Plan) (credentials : Option Credentials)

/-- A step of the consumer alone. -/
def pass? (l : Link) (e : Consumer.Event) : Option Link :=
  (l.consumer.step? p e).map fun c => { l with consumer := c }

/-- An attempt that is given up has taken too long. -/
def attempt? (l : Link) (attempt : Attempt) (time : Nat) : Option Link :=
  let (session, result) := l.session.connect attempt
  match result with
  | .ok () =>
    (l.consumer.step? p (.connected time)).map fun c => ⟨c, session, [] :: l.requests⟩
  | .error e =>
    let event : Consumer.Event :=
      if attempt = .dropped then .connectTimedOut else .connectFailed e
    (l.consumer.step? p event).map fun c => { l with consumer := c, session := session }

def request? (l : Link) (nowMs : Int64) (delivered : Bool) : Option Link :=
  match l.consumer.stage with
  | .subscribing stream _ =>
    let (session, result) := l.session.request credentials .subscribe [stream] nowMs delivered
    match result with
    | .ok frame =>
      (l.consumer.step? p .subscribed).map fun c => ⟨c, session, addRequest l.requests frame⟩
    | .error e =>
      (l.consumer.step? p (.subscribeFailed e)).map fun c =>
        { l with consumer := c, session := session }
  | _ => none

/-- The event of a call for the next message that has come to an end. -/
def readEvent? (time : Nat) : Session.Outcome StreamMessage → Option Consumer.Event
  | .item message => some (.received message time)
  | .failure e => some (.readFailed e)
  | .finished => some .readFinished
  | .waiting => none

/-- A call ends with the last arrival that it reads. -/
def read? (l : Link) (arrivals : List Arrival) (time : Nat) : Option Link := do
  let reading := l.session.nextMessage arrivals
  if reading.rest.isEmpty then
    let c ← l.consumer.step? p (← readEvent? time reading.outcome)
    return { l with consumer := c, session := reading.session }
  else none

def check? (l : Link) (arrivals : List Arrival) (time : Nat) : Option Link :=
  let reading := l.session.nextMessage arrivals
  match reading.outcome with
  | .waiting =>
    (l.consumer.step? p (.checked time reading.session.lastFrameAt)).map fun c =>
      { l with consumer := c, session := reading.session }
  | _ => none

def close? (l : Link) : Option Link :=
  (l.consumer.step? p .closed).map fun c => { l with consumer := c, session := l.session.close }

def restart? (l : Link) : Option Link :=
  match l.consumer.stage with
  | .stopped => some { l with consumer := { l.consumer with stage := .ready } }
  | _ => none

def step? (l : Link) : Event → Option Link
  | .started => l.pass? p .started
  | .attempted attempt time => l.attempt? p attempt time
  | .slotTaken => l.pass? p .slotTaken
  | .requested nowMs delivered => l.request? p credentials nowMs delivered
  | .read arrivals time => l.read? p arrivals time
  | .delivered => l.pass? p .delivered
  | .checked arrivals time => l.check? p arrivals time
  | .closed => l.close? p
  | .waited => l.pass? p .waited
  | .cancelled => l.pass? p .cancelled
  | .restarted => l.restart?

/-- The link after some events, each of which can happen when it does. -/
def run? (l : Link) (events : List Event) : Option Link := events.foldlM (step? p credentials) l

end Link

end MarketGateway
