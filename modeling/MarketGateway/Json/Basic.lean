import MarketGateway.Json.Number

/-!
# JSON values

An object lists its members in ascending order of their keys, each key once; `setMember` keeps that
order and replaces the member of an equal key.
-/

namespace MarketGateway

inductive Json where
  | null
  | bool (value : Bool)
  | number (value : Json.Number)
  | string (value : String)
  | array (items : List Json)
  | object (members : List (String × Json))

namespace Json

instance : Inhabited Json := ⟨null⟩

def int (n : Int) : Json := .number (.integer n)

def nat (n : Nat) : Json := .number (.integer n)

def int64 (n : Int64) : Json := .int n.toInt

def uint32 (n : UInt32) : Json := .nat n.toNat

/-- Puts a member into its place, or in place of the member with the same key. -/
def setMember (key : String) (value : Json) : List (String × Json) → List (String × Json)
  | [] => [(key, value)]
  | (k, v) :: rest =>
    if key = k then (key, value) :: rest
    else if key < k then (key, value) :: (k, v) :: rest
    else (k, v) :: setMember key value rest

/-- The object of these members; of two with one key the later counts. -/
def ofMembers (members : List (String × Json)) : Json :=
  .object (members.foldl (fun sofar m => setMember m.1 m.2 sofar) [])

def memberOf? (key : String) (members : List (String × Json)) : Option Json :=
  (members.find? fun m => m.1 == key).map Prod.snd

def get? (key : String) : Json → Option Json
  | .object members => memberOf? key members
  | _ => none

def asString? : Json → Option String
  | .string s => some s
  | _ => none

/-- `null` where there is no value. -/
def ofOption (f : α → Json) : Option α → Json
  | none => .null
  | some a => f a

def ofText? : Option String → Json := ofOption .string

end Json

end MarketGateway
