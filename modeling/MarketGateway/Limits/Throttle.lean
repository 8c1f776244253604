import MarketGateway.Text.Quoted

/-!
# Rate limits

A limit is a bucket of slots per second. A request takes a slot of its own bucket and one of the pool
that the bucket is linked to; a request without a bucket takes one of the fallback pool. The state of
a throttle is the list of the buckets from which slots were taken since the last refill.
-/

namespace MarketGateway

structure RateLimit where
  id : String
  perSecond : Nat
  pool : Option String
deriving DecidableEq

structure Throttle where
  limits : List RateLimit
  fallback : String

namespace Throttle

/-- The limit with an id; of two the later one counts. -/
def limit? (t : Throttle) (id : String) : Option RateLimit :=
  t.limits.reverse.find? fun l => l.id == id

def isRegistered (t : Throttle) (id : String) : Bool := (t.limit? id).isSome

def registered? (t : Throttle) (id : String) : Option String :=
  if t.isRegistered id then some id else none

/-- The buckets from which a request takes a slot, in this order. -/
def buckets (t : Throttle) (id : String) : List String :=
  match t.limit? id with
  | some l => id :: (l.pool.bind t.registered?).toList
  | none => (t.registered? t.fallback).toList

/-- A bucket that is not there has no limit. -/
def hasRoom (t : Throttle) (taken : List String) (bucket : String) : Bool :=
  match t.limit? bucket with
  | some l => taken.count bucket < l.perSecond
  | none => true

def draw? (t : Throttle) (taken : List String) (bucket : String) : Option (List String) :=
  if t.hasRoom taken bucket then some (bucket :: taken) else none

/-- Takes all slots of a request, if it does not have to wait for one. -/
def acquire? (t : Throttle) (taken : List String) (id : String) : Option (List String) :=
  (t.buckets id).foldlM t.draw? taken

/-- The bucket from which a try takes its only slot. -/
def ownBucket (t : Throttle) (id : String) : String :=
  if t.isRegistered id then id else t.fallback

/-- Takes a slot of the own bucket only, or none if it is used up. -/
def tryAcquire (t : Throttle) (taken : List String) (id : String) : Bool × List String :=
  let bucket := t.ownBucket id
  if t.isRegistered bucket then
    match t.draw? taken bucket with
    | some taken => (true, taken)
    | none => (false, taken)
  else (true, taken)

def describe (t : Throttle) : String :=
  "Throttler \x7b limit_ids: [" ++ ", ".intercalate (t.limits.map fun l => Text.quoted l.id) ++
    "], fallback_pool: " ++ Text.quoted t.fallback ++ " \x7d"

end Throttle

end MarketGateway
