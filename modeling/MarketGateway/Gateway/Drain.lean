import MarketGateway.Error
import MarketGateway.Stream.Message
import MarketGateway.Stream.Router

/-!
# Drains

A drain takes the messages out of a queue, converts them and passes the results on to an output, one
after the other. It holds the results of one message at a time and waits while the output is full.
-/

namespace MarketGateway

inductive DrainState where
  | running
  | over
  | broken (overflow : Overflow)
deriving DecidableEq

structure Drain (α : Type) where
  state : DrainState
  pending : List α
  output : Queue α
  read : List α

namespace Drain

def ofCapacity (capacity : Nat) : Drain α := ⟨.running, [], .ofCapacity capacity, []⟩

def isRunning (d : Drain α) : Bool := d.state = .running

def isIdle (d : Drain α) : Bool := d.isRunning && d.pending.isEmpty

def take? (convert : StreamMessage → Except Overflow (List α)) (queue : Queue StreamMessage)
    (d : Drain α) : Option (Queue StreamMessage × Drain α) := do
  if !d.isIdle then none
  let (message, queue) ← queue.pop?
  match convert message with
  | .ok results => return (queue, { d with pending := results })
  | .error overflow => return (queue, { d with state := .broken overflow })

/-- Passes the next result on. A closed output ends the drain. -/
def pass? (d : Drain α) : Option (Drain α) :=
  if !d.isRunning then none
  else match d.pending with
    | [] => none
    | result :: rest =>
      if d.output.isOpen then
        (d.output.push? result).map fun output => { d with pending := rest, output := output }
      else some { d with state := .over, pending := [] }

def stop? (d : Drain α) : Option (Drain α) := if d.isIdle then some { d with state := .over } else none

def readOut? (d : Drain α) : Option (Drain α) :=
  d.output.pop?.map fun (result, output) => { d with output := output, read := d.read ++ [result] }

def closeOutput (d : Drain α) : Drain α := { d with output := d.output.close }

end Drain

end MarketGateway
