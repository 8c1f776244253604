import MarketGateway.Stream.Consumer
import MarketGateway.Stream.Router

/-!
# Rehearsals

A consumer run against scripted sessions in virtual time: nothing takes time but what the script says,
and the clock moves on to the next thing that is due.
-/

namespace MarketGateway.Rehearsal

open Consumer

/-! ### Scripts -/

/-- What happens on a connection. Durations are nanoseconds. -/
inductive Step where
  | frame (frame : Frame)
  | wait (duration : Nat)
  | failure
  | finish

structure ScriptedSession where
  connectAfter : Nat
  refused : Bool
  /-- The subscription that fails, counted from one. -/
  failingSubscription : Option Nat
  steps : List Step

/-- The session that is used when the script has no more. -/
def ScriptedSession.none : ScriptedSession := ⟨0, true, .none, []⟩

inductive Reader where
  | attentive
  | absent
  | stuck
deriving DecidableEq

structure Script where
  plan : Plan
  credentials : Option Credentials
  signedAtMs : Int64
  readers : List Reader
  cancelAt : Nat

/-! ### Records -/

inductive CallKind where
  | connect
  | subscribe
  | close
deriving DecidableEq

def CallKind.name : CallKind → String
  | .connect => "connect"
  | .subscribe => "subscribe"
  | .close => "close"

/-- A call of the session, with what others saw at that time. -/
structure SessionCall where
  time : Nat
  kind : CallKind
  request : Option Json
  state : ConnectionState
  connections : UInt32
  failures : Nat

/-- A message that was taken out of the queue of a route. -/
structure Delivery where
  time : Nat
  route : Nat
  channel : String
  message : StreamMessage

/-! ### States -/

structure State where
  now : Nat
  consumer : Consumer
  router : Router StreamMessage
  sessions : List ScriptedSession
  /-- The session in use, with the steps that are left of it. -/
  current : ScriptedSession
  /-- When the wait at the head of the steps is over, once it has begun. -/
  waitUntil : Option Nat
  subscriptions : Nat
  lastFrameAt : Option Nat
  /-- When the consumer's own wait is over: for a connection or for the next attempt. -/
  resumeAt : Nat
  nextCheck : Nat
  cancelAt : Option Nat
  calls : List SessionCall
  deliveries : List Delivery

def State.initial (s : Script) (router : Router StreamMessage) (sessions : List ScriptedSession) :
    State where
  now := 0
  consumer := Consumer.initial 0
  router := router
  sessions := sessions
  current := .none
  waitUntil := none
  subscriptions := 0
  lastFrameAt := none
  resumeAt := 0
  nextCheck := 0
  cancelAt := some s.cancelAt
  calls := []
  deliveries := []

namespace State

def note (r : State) (kind : CallKind) (request : Option Json) : State :=
  { r with
    calls := r.calls ++ [⟨r.now, kind, request, r.consumer.state, r.consumer.connections,
      r.consumer.shownFailures⟩] }

def beginConnect (s : Script) (r : State) : State :=
  let session := r.sessions.headD .none
  { r with
    sessions := r.sessions.tail
    current := session
    waitUntil := none
    subscriptions := 0
    resumeAt := r.now + min session.connectAfter s.plan.options.connectWithin }.note .connect none

/-- Begins what the consumer waits for after an event. -/
def await (s : Script) (r : State) (e : Event) : State :=
  match r.consumer.stage, e with
  | .connecting, _ => r.beginConnect s
  | .closing false, _ => r.note .close none
  | .closingLast, _ => r.note .close none
  | .backingOff delay, _ => { r with resumeAt := r.now + delay }
  | .streaming, .connected _ => { r with nextCheck := r.now + s.plan.options.checkEvery }
  | .streaming, .subscribed => { r with nextCheck := r.now + s.plan.options.checkEvery }
  | _, _ => r

/-- Lets the consumer make a step. -/
def react (s : Script) (r : State) (e : Event) : Option State :=
  (Consumer.step? s.plan r.consumer e).map fun c => { r with consumer := c }.await s e

/-! ### Turns -/

def finishConnect (s : Script) (r : State) : Option State :=
  if s.plan.options.connectWithin < r.current.connectAfter then r.react s .connectTimedOut
  else if r.current.refused then r.react s (.connectFailed (.network .webSocket))
  else { r with lastFrameAt := none }.react s (.connected r.now)

/-- A subscription is written and sent; one that cannot be written is not sent. -/
def subscribe (s : Script) (r : State) (stream : String) : Option State :=
  match streamRequest s.credentials .subscribe [stream] s.signedAtMs with
  | .error e => r.react s (.subscribeFailed e)
  | .ok request =>
    let r := { r with subscriptions := r.subscriptions + 1 }.note .subscribe (some request)
    if r.current.failingSubscription = some r.subscriptions then
      r.react s (.subscribeFailed (.socket .send))
    else r.react s .subscribed

/-- The next step of the session; frames without a message are skipped. -/
def read (s : Script) (r : State) : Option State :=
  match r.current.steps with
  | [] => none
  | step :: rest =>
    let r := { r with current := { r.current with steps := rest }, waitUntil := none }
    match step with
    | .wait _ => some r
    | .failure => r.react s (.readFailed (.socket .read))
    | .finish => r.react s .readFinished
    | .frame frame =>
      let r := { r with lastFrameAt := some r.now }
      match StreamMessage.ofFrame frame with
      | .ok (some message) => r.react s (.received message r.now)
      | _ => some r

/-- Looks for silence. The next check is due one interval after this one. -/
def check (s : Script) (r : State) : Option State :=
  { r with nextCheck := r.now + s.plan.options.checkEvery }.react s (.checked r.now r.lastFrameAt)

/-- An attentive reader takes a message at once. -/
def takeOut (s : Script) (r : State) (channel : String) : State :=
  match Router.place? channel r.router with
  | none => r
  | some place =>
    if s.readers[place]? = some .attentive then
      match r.router[place]? with
      | none => r
      | some route =>
        let items := route.queue.items.map fun m => (⟨r.now, place, channel, m⟩ : Delivery)
        { r with
          router := r.router.set place { route with queue := { route.queue with items := [] } }
          deliveries := r.deliveries ++ items }
    else r

def deliver (s : Script) (r : State) (channel : String) (message : StreamMessage) : Option State := do
  let router ← Router.deliver? channel message r.router
  ({ r with router := router }.takeOut s channel).react s .delivered

def readAt (r : State) : Option Nat :=
  match r.current.steps with
  | [] => none
  | .wait duration :: _ => some (r.waitUntil.getD (r.now + duration))
  | _ :: _ => some r.now

/-- The next turn without a cancellation: when it is, and the state after it. -/
def nextTurn (s : Script) (r : State) : Option (Nat × (State → Option State)) :=
  match r.consumer.stage with
  | .ready => some (r.now, fun r => r.react s .started)
  | .connecting => some (r.resumeAt, finishConnect s)
  | .awaitingSlot _ _ => some (r.now, fun r => r.react s .slotTaken)
  | .subscribing stream _ => some (r.now, fun r => r.subscribe s stream)
  | .streaming =>
    match r.readAt with
    | some time =>
      if time ≤ r.nextCheck then some (time, read s)
      else some (r.nextCheck, fun r => { r with waitUntil := some time }.check s)
    | none => some (r.nextCheck, check s)
  | .delivering channel message =>
    if (Router.deliver? channel message r.router).isSome then
      some (r.now, fun r => r.deliver s channel message)
    else none
  | .closing _ => some (r.now, fun r => r.react s .closed)
  | .backingOff _ => some (r.resumeAt, fun r => r.react s .waited)
  | .closingLast => some (r.now, fun r => r.react s .closed)
  | .stopped => none

def cancel (s : Script) (r : State) (time : Nat) : Option State :=
  { r with now := max r.now time, cancelAt := none }.react s .cancelled

/-- The state after the next turn; a cancellation that is due goes first. -/
def advance (s : Script) (r : State) : Option State :=
  match r.nextTurn s, r.cancelAt with
  | some (time, turn), some cancelAt =>
    if time < cancelAt then turn { r with now := time } else r.cancel s cancelAt
  | some (time, turn), none => turn { r with now := time }
  | none, some cancelAt => r.cancel s cancelAt
  | none, none => none

/-- At most `turns` turns. -/
def run (s : Script) : Nat → State → State
  | 0, r => r
  | turns + 1, r =>
    match r.advance s with
    | some r => run s turns r
    | none => r

end State

/-- More turns than a script has whose delays and interval of checks are not zero: every session connects,
asks for its streams, makes its steps and is closed, and between two turns of the same kind without a step
time goes on. -/
def turnBound (s : Script) (sessions : List ScriptedSession) : Nat :=
  let round := 2 * s.plan.subscriptions.length + 8
  sessions.foldl (fun turns session => turns + round + 2 * session.steps.length) ((s.cancelAt + 2) * round)

def perform (s : Script) (router : Router StreamMessage) (sessions : List ScriptedSession) : State :=
  State.run s (turnBound s sessions) (State.initial s router sessions)

end MarketGateway.Rehearsal
