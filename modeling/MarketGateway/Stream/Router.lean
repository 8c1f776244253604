import MarketGateway.Text.Ascii

/-!
# Queues and routes

A queue holds at most as many items as its capacity. A router puts a message into the queue of the
first route whose channels begin as the channel of the message does; what has no route is dropped.
-/

namespace MarketGateway

structure Queue (α : Type) where
  capacity : Nat
  items : List α
  /-- Somebody may still take items out. -/
  isOpen : Bool

namespace Queue

/-- An empty queue; it has room for one item at least. -/
def ofCapacity (capacity : Nat) : Queue α := ⟨max 1 capacity, [], true⟩

def hasRoom (q : Queue α) : Bool := q.items.length < q.capacity

def push? (q : Queue α) (item : α) : Option (Queue α) :=
  if q.hasRoom then some { q with items := q.items ++ [item] } else none

def pop? (q : Queue α) : Option (α × Queue α) :=
  match q.items with
  | item :: rest => some (item, { q with items := rest })
  | [] => none

def close (q : Queue α) : Queue α := { q with isOpen := false }

end Queue

/-- The channels that begin like this, and their queue. -/
structure Route (α : Type) where
  channels : String
  queue : Queue α

abbrev Router (α : Type) := List (Route α)

namespace Router

/-- Puts a message into the queue of its route, unless it has to wait for room. A message without a
route, or for a queue that nobody reads, is dropped. -/
def deliver? (channel : String) (message : α) : Router α → Option (Router α)
  | [] => some []
  | r :: rest =>
    if Text.startsWith channel r.channels then
      if r.queue.isOpen then (r.queue.push? message).map fun q => { r with queue := q } :: rest
      else some (r :: rest)
    else (deliver? channel message rest).map (r :: ·)

def place? (channel : String) (routes : Router α) : Option Nat :=
  routes.findIdx? fun r => Text.startsWith channel r.channels

end Router

end MarketGateway
