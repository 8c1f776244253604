import MarketGateway.Limits.Throttle

/-!
# Callers of a throttle

Callers share the buckets of a throttle and come in between each other. A caller that acquires takes a
slot of one bucket after the other and waits where one is used up; a try is over at once. Nothing is
refilled here: the slots are those of one second.
-/

namespace MarketGateway.Throttle

/-- A caller that has not acquired all of its slots, or not yet gone on with them. -/
structure Caller where
  id : String
  drawn : List String
  /-- The buckets from which it still has to take a slot, in this order. -/
  ahead : List String
deriving DecidableEq

/-- A call that is over. -/
inductive Ended where
  | acquired (id : String) (drawn : List String)
  | tried (id : String) (granted : Bool)
deriving DecidableEq

structure Usage where
  taken : List String
  callers : List Caller
  /-- In the order in which they ended. -/
  ended : List Ended
deriving DecidableEq

namespace Usage

/-- All buckets are full, and nobody has called. -/
def fresh : Usage := ⟨[], [], []⟩

/-- What happens next: a caller comes, or the one at some place goes on, or one tries. -/
inductive Turn where
  | ask (id : String)
  | draw (place : Nat)
  | leave (place : Nat)
  | attempt (id : String)

def step? (t : Throttle) (s : Usage) : Turn → Option Usage
  | .ask id => some { s with callers := s.callers ++ [⟨id, [], t.buckets id⟩] }
  | .draw place =>
    match s.callers[place]? with
    | some ⟨id, drawn, bucket :: ahead⟩ =>
      (t.draw? s.taken bucket).map fun taken =>
        { s with taken, callers := s.callers.set place ⟨id, drawn ++ [bucket], ahead⟩ }
    | _ => none
  | .leave place =>
    match s.callers[place]? with
    | some ⟨id, drawn, []⟩ =>
      some { s with callers := s.callers.eraseIdx place, ended := s.ended ++ [.acquired id drawn] }
    | _ => none
  | .attempt id =>
    let (granted, taken) := t.tryAcquire s.taken id
    some { s with taken, ended := s.ended ++ [.tried id granted] }

/-- The usage after some turns, in any order that the callers may take them. -/
def run? (t : Throttle) (s : Usage) (turns : List Turn) : Option Usage := turns.foldlM (step? t) s

end Usage

end MarketGateway.Throttle
