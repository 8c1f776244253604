import MarketGateway.Decimal.Reading
import MarketGateway.Json.Printer
import MarketGateway.Text.Quoted

/-!
# Reading values

A reader turns a JSON value into a value of a type or says what it found in place of what it expected.
-/

namespace MarketGateway.Json

inductive Found where
  | null
  | bool (value : Bool)
  | integer (value : Int)
  | double (value : Double)
  | text (value : String)
  | map
  | sequence
  | unitVariant

def Found.describe : Found → String
  | .null => "null"
  | .bool b => "boolean `" ++ toString b ++ "`"
  | .integer n => "integer `" ++ toString n ++ "`"
  | .double d => "floating point `" ++ d.toText ++ "`"
  | .text s => "string " ++ Text.quoted s
  | .map => "map"
  | .sequence => "sequence"
  | .unitVariant => "unit variant"

def found : Json → Found
  | .null => .null
  | .bool b => .bool b
  | .number (.integer n) => .integer n
  | .number (.double d) => .double d
  | .string s => .text s
  | .array _ => .sequence
  | .object _ => .map

inductive ReadError where
  | wrongType (found : Found) (expected : String)
  | wrongValue (found : Found) (expected : String)
  | wrongLength (length : Nat) (expected : String)
  | missingField (name : String)
  | duplicateField (name : String)
  | unknownVariant (name : String) (variants : List String)
  | noTextOrNumber (value : Json)
  | noInteger (error : Text.IntegerError)
  /-- The value has the right form, but its type refuses it. -/
  | refused (reason : String)

/-- Two names are joined by a word, more of them by commas. -/
def ReadError.listVariants (variants : List String) : String :=
  let marked := variants.map fun v => "`" ++ v ++ "`"
  match marked with
  | [a] => a
  | [a, b] => a ++ " or " ++ b
  | _ => "one of " ++ ", ".intercalate marked

def ReadError.message : ReadError → String
  | .wrongType found expected => "invalid type: " ++ found.describe ++ ", expected " ++ expected
  | .wrongValue found expected => "invalid value: " ++ found.describe ++ ", expected " ++ expected
  | .wrongLength length expected =>
    "invalid length " ++ toString length ++ ", expected " ++ expected
  | .missingField name => "missing field `" ++ name ++ "`"
  | .duplicateField name => "duplicate field `" ++ name ++ "`"
  | .unknownVariant name variants =>
    "unknown variant `" ++ name ++ "`, expected " ++ listVariants variants
  | .noTextOrNumber value => "expected string or number, got " ++ value.render
  | .noInteger error => error.message
  | .refused reason => reason

abbrev Reader (α : Type) := Json → Except ReadError α

namespace Reader

def raw : Reader Json := .ok

def text : Reader String
  | .string s => .ok s
  | j => .error (.wrongType j.found "a string")

def bool : Reader Bool
  | .bool b => .ok b
  | j => .error (.wrongType j.found "a boolean")

/-- An integer from `low` to `high`, in number notation only. -/
def integer (low high : Int) (expected : String) : Reader Int
  | .number (.integer n) =>
    if low ≤ n ∧ n ≤ high then .ok n else .error (.wrongValue (.integer n) expected)
  | j => .error (.wrongType j.found expected)

def int64 : Reader Int64 := fun j => (integer (-2 ^ 63) (2 ^ 63 - 1) "i64" j).map Int64.ofInt

def uint64 : Reader Nat := fun j => (integer 0 (2 ^ 64 - 1) "u64" j).map Int.toNat

def uint32 : Reader UInt32 := fun j =>
  (integer 0 (2 ^ 32 - 1) "u32" j).map fun n => UInt32.ofNat n.toNat

/-- `null` is read as nothing. -/
def nullable (read : Reader α) : Reader (Option α)
  | .null => .ok none
  | j => (read j).map some

/-- An identifier: a text, or a number in its own notation. -/
def identifier : Reader String
  | .string s => .ok s
  | .number n => .ok n.toText
  | j => .error (.noTextOrNumber j)

def integerIdentifier : Reader Int64 := fun j =>
  (identifier j).bind fun s => (Text.readInt64 s).mapError .noInteger

/-! ### Decimals -/

def decimalKind : String := "a Decimal type representing a fixed-point number"

def decimalText : Reader Decimal
  | .string s => (Decimal.ofText s).mapError fun _ => .wrongValue (.text s) decimalKind
  | j => .error (.wrongType j.found decimalKind)

/-- A decimal in a string or a number; a number with a fraction is read through its text. -/
def decimal : Reader Decimal
  | .string s => decimalText (.string s)
  | .number (.integer n) =>
    if h : n.natAbs < 2 ^ 96 then .ok (.ofMagnitude (decide (n < 0)) (.whole n.natAbs h))
    else .error (.wrongValue (.integer n) decimalKind)
  | .number (.double d) =>
    (Decimal.ofText d.toPlainText).mapError fun _ => .wrongValue (.double d) decimalKind
  | j => .error (.wrongType j.found decimalKind)

/-! ### Sequences and maps -/

def items (read : Reader α) : List Json → Except ReadError (List α)
  | [] => .ok []
  | j :: js => do return (← read j) :: (← items read js)

def list (read : Reader α) : Reader (List α)
  | .array js => items read js
  | j => .error (.wrongType j.found "a sequence")

def pair (first : Reader α) (second : Reader β) : Reader (α × β)
  | .array js => do
    match js with
    | [] => .error (.wrongLength 0 "a tuple of size 2")
    | [a] =>
      let _ ← first a
      .error (.wrongLength 1 "a tuple of size 2")
    | a :: b :: rest =>
      let a ← first a
      let b ← second b
      if rest.isEmpty then .ok (a, b)
      else .error (.wrongLength js.length "fewer elements in array")
  | j => .error (.wrongType j.found "a tuple of size 2")

def memberItems (read : Reader α) : List (String × Json) → Except ReadError (List (String × α))
  | [] => .ok []
  | (k, j) :: rest => do
    let a ← read j
    return (k, a) :: (← memberItems read rest)

/-- An object as a table from its keys, in their order. -/
def table (read : Reader α) : Reader (List (String × α))
  | .object members => memberItems read members
  | j => .error (.wrongType j.found "a map")

/-! ### Variants -/

/-- The variants of a type: those without content and those that hold a value. -/
inductive Variant (α : Type) where
  | unit (name : String) (value : α)
  | holding (name : String) (read : Reader α)

def Variant.name : Variant α → String
  | .unit name _ => name
  | .holding name _ => name

def Variant.find (variants : List (Variant α)) (name : String) : Except ReadError (Variant α) :=
  match variants.find? fun v => v.name == name with
  | some v => .ok v
  | none => .error (.unknownVariant name (variants.map Variant.name))

/-- A variant is its name, or an object with its name as the only key. -/
def variant (variants : List (Variant α)) : Reader α
  | .string name => do
    match ← Variant.find variants name with
    | .unit _ value => .ok value
    | .holding _ _ => .error (.wrongType .unitVariant "newtype variant")
  | .object [(name, content)] => do
    match ← Variant.find variants name with
    | .unit _ value =>
      match content with
      | .null => .ok value
      | j => .error (.wrongType j.found "unit")
    | .holding _ read => read content
  | .object _ => .error (.wrongValue .map "map with a single key")
  | j => .error (.wrongType j.found "string or map")

end Reader

end MarketGateway.Json
