import MarketGateway.Conversion.ClientId

/-!
# Sources of client order ids

Requests for a number share the last one that was given out and may be made at the same time. Each
reads the last number, works out its own from it and puts that in its place, unless the last number has
changed since; then the request goes on from the number that is there now.
-/

namespace MarketGateway.ClientId

inductive Progress where
  | waiting
  /-- The last number has been read. -/
  | reading (last : UInt32)
  | done (number : UInt32)
deriving DecidableEq

structure Request where
  timestampMs : Int64
  progress : Progress
deriving DecidableEq

/-- The time of a request and the number that it was given. -/
def Request.grant? (r : Request) : Option (Int64 × UInt32) :=
  match r.progress with
  | .done number => some (r.timestampMs, number)
  | _ => none

structure Source where
  last : UInt32
  requests : List Request
deriving DecidableEq

namespace Source

/-- A source that has given out nothing, and the requests that will be made of it. -/
def fresh (timestamps : List Int64) : Source := ⟨0, timestamps.map fun t => ⟨t, .waiting⟩⟩

def grants (s : Source) : List (Int64 × UInt32) := s.requests.filterMap Request.grant?

/-- The numbers that have been given out, by request. -/
def numbers (s : Source) : List UInt32 := s.grants.map Prod.snd

/-- What the request at some place does next. An exchange may fail even where the last number is still
the one that was read. -/
inductive Turn where
  | read (place : Nat)
  | exchange (place : Nat) (fails : Bool)

def step? (s : Source) : Turn → Option Source
  | .read place =>
    match s.requests[place]? with
    | some ⟨t, .waiting⟩ => some { s with requests := s.requests.set place ⟨t, .reading s.last⟩ }
    | _ => none
  | .exchange place fails =>
    match s.requests[place]? with
    | some ⟨t, .reading last⟩ =>
      if s.last = last && !fails then
        some ⟨next last t, s.requests.set place ⟨t, .done (next last t)⟩⟩
      else some { s with requests := s.requests.set place ⟨t, .reading s.last⟩ }
    | _ => none

/-- The source after some turns, in any order that the requests may take them. -/
def run? (s : Source) (turns : List Turn) : Option Source := turns.foldlM step? s

end Source

end MarketGateway.ClientId
