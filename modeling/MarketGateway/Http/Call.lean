import MarketGateway.Conversion.ClientId
import MarketGateway.Error

/-!
# Calls

A call is a tree of what it asks of the outside: the clock, a slot of a rate limit, an order number, or
the answer to a request. `run` gives it to an outside and records the requests that were sent.
-/

namespace MarketGateway

structure Request where
  method : String
  /-- The address of the server, in front of the path. -/
  server : String
  path : String
  query : List (String × String)
  headers : List (String × String)
  body : ByteArray

structure Response where
  status : Nat
  body : String

abbrev Answer := Except NetworkFailure Response

inductive Call (α : Type) where
  | done (result : α)
  | clock (next : Int64 → Call α)
  | slot (limit : String) (next : Call α)
  | orderNumber (timestampMs : Int64) (next : UInt32 → Call α)
  | send (request : Request) (next : Answer → Call α)

namespace Call

def bind (call : Call α) (f : α → Call β) : Call β :=
  match call with
  | .done a => f a
  | .clock next => .clock fun t => (next t).bind f
  | .slot limit next => .slot limit (next.bind f)
  | .orderNumber t next => .orderNumber t fun n => (next n).bind f
  | .send request next => .send request fun a => (next a).bind f

instance : Monad Call where
  pure := .done
  bind := bind

theorem bind_done (call : Call α) : call.bind .done = call := by
  induction call <;> simp_all [bind]

theorem bind_assoc (call : Call α) (f : α → Call β) (g : β → Call γ) :
    (call.bind f).bind g = call.bind fun a => (f a).bind g := by
  induction call <;> simp_all [bind]

/-! ### Outside -/

/-- The outside of a call. The clock may depend on how often it was read, and an answer on all requests
so far, the one that it answers included. -/
structure Outside where
  clock : Nat → Int64
  answer : List Request → Answer

structure Record where
  readings : Nat
  slots : List String
  lastNumber : UInt32
  requests : List Request

def Record.initial : Record := ⟨0, [], 0, []⟩

def run (o : Outside) (r : Record) : Call α → α × Record
  | .done a => (a, r)
  | .clock next => run o { r with readings := r.readings + 1 } (next (o.clock r.readings))
  | .slot limit next => run o { r with slots := r.slots ++ [limit] } next
  | .orderNumber t next =>
    let n := ClientId.next r.lastNumber t
    run o { r with lastNumber := n } (next n)
  | .send request next =>
    let requests := r.requests ++ [request]
    run o { r with requests := requests } (next (o.answer requests))

def unreachable (nowMs : Int64) : Outside := ⟨fun _ => nowMs, fun _ => .error .request⟩

theorem run_bind (o : Outside) (r : Record) (call : Call α) (f : α → Call β) :
    (call.bind f).run o r = (f (call.run o r).1).run o (call.run o r).2 := by
  induction call generalizing r <;> simp_all [bind, run]

/-! ### Retrying -/

/-- Repeats an attempt after a passing failure, at most so many times. -/
def retrying (attempt : Call (Except ExchangeError α)) : Nat → Call (Except ExchangeError α)
  | 0 => attempt
  | retries + 1 => do
    match ← attempt with
    | .ok a => return .ok a
    | .error e => if e.isTransient then retrying attempt retries else return .error e

end Call

end MarketGateway
