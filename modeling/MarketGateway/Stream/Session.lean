import MarketGateway.Stream.Message

/-!
# Socket sessions

A session owns at most one connection at a time and keeps account of its two halves. Reading answers
pings, skips pongs and hands out data frames; a close frame, a failure or the end of the connection
leaves the session without a connection until the next `connect`.
-/

namespace MarketGateway

structure Session where
  isConnected : Bool
  canWrite : Bool
  canRead : Bool
  lastFrameAt : Option Nat
deriving DecidableEq

namespace Session

def initial : Session := ⟨false, false, false, none⟩

/-! ### Connecting and closing -/

inductive Attempt where
  | succeeded
  | failed
  | timedOut
  /-- The attempt was given up before it came to an end. -/
  | dropped
deriving DecidableEq

def connect (s : Session) : Attempt → Session × Except ExchangeError Unit
  | .succeeded => (⟨true, true, true, none⟩, .ok ())
  | .failed => (s, .error (.network .webSocket))
  | .timedOut => (s, .error (.timeout .handshake))
  | .dropped => (s, .error .cancelled)

/-- Closing always works; whether the other side hears of it does not matter. -/
def close (s : Session) : Session :=
  { s with isConnected := false, canWrite := false, canRead := false }

def closingFrames (s : Session) : List Frame := if s.canWrite then [.close none] else []

/-! ### Sending -/

/-- Sends a frame; `delivered` says whether the connection takes it. -/
def send (s : Session) (delivered : Bool) : Session × Except SocketFailure Unit :=
  if !s.isConnected then (s, .error .notConnected)
  else if !s.canWrite then (s, .error .noWriteHalf)
  else if delivered then (s, .ok ())
  else ({ s with isConnected := false }, .error .send)

/-- Asks for streams; an empty list needs no frame. -/
def request (s : Session) (credentials : Option Credentials) (action : StreamAction)
    (streams : List String) (nowMs : Int64) (delivered : Bool) :
    Session × Except ExchangeError (Option Frame) :=
  if streams.isEmpty then (s, .ok none)
  else match streamRequestFrame credentials action streams nowMs with
    | .error e => (s, .error e)
    | .ok frame =>
      let (s, sent) := s.send delivered
      (s, (sent.map fun _ => some frame).mapError .socket)

/-! ### Reading -/

inductive Arrival where
  /-- A frame, when it came, and whether an answer to it could be sent. -/
  | frame (frame : Frame) (time : Nat) (answerable : Bool)
  | failure
  | finished

inductive Outcome (α : Type) where
  | item (value : α)
  | failure (error : ExchangeError)
  | finished
  | waiting

/-- A call for the next frame: its outcome, the session after it, what has not been read, and the
pongs that were sent. -/
structure Reading (α : Type) where
  outcome : Outcome α
  session : Session
  rest : List Arrival
  pongs : List Frame

def Reading.after (pongs : List Frame) (r : Reading α) : Reading α :=
  { r with pongs := pongs ++ r.pongs }

/-- Answers a ping if the connection is still there; the answer may get lost. -/
def answer (s : Session) (content : ByteArray) (answerable : Bool) : Session × List Frame :=
  match s.send answerable with
  | (s, .ok ()) => (s, [.pong content])
  | (s, .error _) => (s, [])

def readOn (s : Session) : List Arrival → Reading Frame
  | [] => ⟨.waiting, s, [], []⟩
  | .failure :: rest =>
    ⟨.failure (.socket .read), { s with isConnected := false }, rest, []⟩
  | .finished :: rest => ⟨.finished, { s with isConnected := false }, rest, []⟩
  | .frame frame time answerable :: rest =>
    let s := { s with lastFrameAt := some time }
    match frame with
    | .ping content =>
      let (s, pongs) := s.answer content answerable
      (readOn s rest).after pongs
    | .pong _ => readOn s rest
    | .close reason => ⟨.item (.close reason), { s with isConnected := false }, rest, []⟩
    | .text content => ⟨.item (.text content), s, rest, []⟩
    | .binary content => ⟨.item (.binary content), s, rest, []⟩

/-- The next frame that is no ping or pong. -/
def nextFrame (s : Session) (arrivals : List Arrival) : Reading Frame :=
  if !s.isConnected then ⟨.failure (.socket .notConnected), s, arrivals, []⟩
  else if !s.canRead then ⟨.finished, s, arrivals, []⟩
  else readOn s arrivals

theorem readOn_rest_length (s : Session) (arrivals : List Arrival) :
    (readOn s arrivals).rest.length ≤ arrivals.length := by
  fun_induction readOn s arrivals <;> simp_all [Reading.after] <;> omega

/-- A frame is handed out only when something has arrived. -/
theorem readOn_rest_lt {s : Session} {arrivals : List Arrival} {frame : Frame}
    (h : (readOn s arrivals).outcome = .item frame) :
    (readOn s arrivals).rest.length < arrivals.length := by
  cases arrivals with
  | nil => simp [readOn] at h
  | cons a rest =>
    have bound := fun t => Nat.lt_add_one_of_le (readOn_rest_length t rest)
    unfold readOn
    split <;> simp_all
    split <;> simp_all [Reading.after]

theorem nextFrame_rest_lt {s : Session} {arrivals : List Arrival} {frame : Frame}
    (h : (nextFrame s arrivals).outcome = .item frame) :
    (nextFrame s arrivals).rest.length < arrivals.length := by
  unfold nextFrame at h ⊢
  split at h
  · simp at h
  · split at h
    · simp at h
    · simp_all only [Bool.not_true, Bool.not_eq_true']
      exact readOn_rest_lt h

/-- What a frame is read as: a message, nothing, or an error. -/
abbrev Decoder (α : Type) := Frame → Except ExchangeError (Option α)

/-- The next message; frames without one and frames that cannot be read are skipped, and a close frame
is a failure. -/
def nextDecoded (s : Session) (decode : Decoder α) (arrivals : List Arrival) : Reading α :=
  match _h : (nextFrame s arrivals).outcome with
  | .waiting => { nextFrame s arrivals with outcome := .waiting }
  | .finished => { nextFrame s arrivals with outcome := .finished }
  | .failure e => { nextFrame s arrivals with outcome := .failure e }
  | .item (.close reason) =>
    { nextFrame s arrivals with
      outcome := .failure (.socket (.closedByPeer (CloseReason.describe reason))) }
  | .item frame =>
    match decode frame with
    | .ok (some message) => { nextFrame s arrivals with outcome := .item message }
    | _ =>
      (nextDecoded (nextFrame s arrivals).session decode (nextFrame s arrivals).rest).after
        (nextFrame s arrivals).pongs
termination_by arrivals.length
decreasing_by exact nextFrame_rest_lt _h

/-- The next message of the exchange. -/
def nextMessage (s : Session) (arrivals : List Arrival) : Reading StreamMessage :=
  s.nextDecoded StreamMessage.ofFrame arrivals

end Session

end MarketGateway
