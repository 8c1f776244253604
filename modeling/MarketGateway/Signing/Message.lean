import MarketGateway.Signing.Instruction
import MarketGateway.Json.Parser
import MarketGateway.Json.Basic
import MarketGateway.Error

/-!
# Signed messages

The text that is signed: the instruction, the parameters in ascending order of their keys, the time
and the window, joined by `&`. Values are not escaped.
-/

namespace MarketGateway.Signing

/-- In ascending order of the keys; the values of one key keep their order. -/
def sortParams (params : List (String × String)) : List (String × String) :=
  params.mergeSort fun a b => decide (a.1 ≤ b.1)

def field (key value : String) : String := key ++ "=" ++ value

def message (instruction : String) (params : List (String × String)) (timestamp window : Nat) :
    String :=
  "&".intercalate (field "instruction" instruction :: (sortParams params).map (fun p => field p.1 p.2)
    ++ [field "timestamp" (toString timestamp), field "window" (toString window)])

/-- What is signed of a member of a body: texts, numbers and truth values, and nothing else. -/
def signedText? : Json → Option String
  | .string s => some s
  | .number n => some n.toText
  | .bool b => some (toString b)
  | _ => none

/-- The signed parameters of a body; only the members of an object are parameters. -/
def bodyParams (body : ByteArray) : Except ExchangeError (List (String × String)) :=
  if body.isEmpty then .ok []
  else match (String.fromUTF8? body).bind Json.parse? with
    | some (.object members) =>
      .ok (members.filterMap fun m => (signedText? m.2).map fun text => (m.1, text))
    | some _ => .ok []
    | none => .error (.unwritable .signedBody)

/-- The clock as a time to sign with; times before the epoch are none. -/
def timestamp (nowMs : Int64) : Except ExchangeError Nat :=
  if 0 ≤ nowMs.toInt then .ok nowMs.toInt.toNat
  else .error (.other ("System clock before epoch: " ++
    "out of range integral type conversion attempted"))

end MarketGateway.Signing
