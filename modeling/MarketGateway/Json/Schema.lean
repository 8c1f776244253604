import MarketGateway.Json.Reading

/-!
# Records

A schema lists the fields of a record in their order and builds the record from the fields that are
there. An object is walked member by member, and fields that are missing are reported afterwards; an
array gives the fields by position.
-/

namespace MarketGateway.Json

structure Field where
  name : String
  aliases : List String
  check : Json → Except ReadError Unit
  /-- Whether an array may end before the field. -/
  fillable : Bool

def Field.answersTo (f : Field) (key : String) : Bool := f.name == key || f.aliases.contains key

/-- The values that were found, under the names of their fields. -/
abbrev Fields := List (String × Json)

structure Schema (α : Type) where
  fields : List Field
  build : Fields → Except ReadError α

namespace Schema

instance : Applicative Schema where
  pure a := ⟨[], fun _ => .ok a⟩
  seq f x := ⟨f.fields ++ (x ()).fields, fun given => do
    let g ← f.build given
    let a ← (x ()).build given
    return g a⟩

/-- One field; `absent` is what a record without it gets. -/
def field (name : String) (aliases : List String) (fillable : Bool) (read : Reader α)
    (absent : Except ReadError α) : Schema α where
  fields := [⟨name, aliases, fun j => (read j).map fun _ => (), fillable⟩]
  build given :=
    match memberOf? name given with
    | some j => read j
    | none => absent

def required (name : String) (read : Reader α) : Schema α :=
  field name [] false read (.error (.missingField name))

/-- A field that an object may leave out, but an array may not. -/
def optional (name : String) (read : Reader α) : Schema (Option α) :=
  field name [] false (.nullable read) (.ok none)

/-- A field that may be left out everywhere. -/
def withDefault (name : String) (read : Reader α) (default : α) : Schema α :=
  field name [] true read (.ok default)

/-- A field that may be left out or `null`, under its name or another one. -/
def aliased (name : String) (aliases : List String) (read : Reader α) : Schema (Option α) :=
  field name aliases true (.nullable read) (.ok none)

def omittable (name : String) (read : Reader α) : Schema (Option α) := aliased name [] read

/-- Checks the members one after the other, as they come. -/
def walkMembers (fields : List Field) : Fields → List (String × Json) → Except ReadError Fields
  | given, [] => .ok given
  | given, (key, j) :: rest =>
    match fields.find? fun f => f.answersTo key with
    | none => walkMembers fields given rest
    | some f => do
      if given.any fun g => g.1 == f.name then throw (.duplicateField f.name)
      f.check j
      walkMembers fields (given ++ [(f.name, j)]) rest

/-- Checks the items of an array against the fields, the first one at `index`. -/
def walkItems (expected : String) : Nat → List Field → List Json → Except ReadError Fields
  | _, [], _ => .ok []
  | index, f :: fs, [] =>
    if f.fillable then walkItems expected (index + 1) fs [] else throw (.wrongLength index expected)
  | index, f :: fs, j :: js => do
    f.check j
    return (f.name, j) :: (← walkItems expected (index + 1) fs js)

/-- Reads a record; `kind` is what its type is called in messages. -/
def read (schema : Schema α) (kind : String) : Reader α
  | .object members => do schema.build (← walkMembers schema.fields [] members)
  | .array items => do
    let count := schema.fields.length
    let expected := "struct " ++ kind ++ " with " ++ toString count ++
      (if count = 1 then " element" else " elements")
    let record ← schema.build (← walkItems expected 0 schema.fields items)
    if count < items.length then throw (.wrongLength items.length "fewer elements in array")
    return record
  | j => .error (.wrongType j.found ("struct " ++ kind))

end Schema

end MarketGateway.Json
