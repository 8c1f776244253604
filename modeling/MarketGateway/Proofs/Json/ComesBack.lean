import MarketGateway.Proofs.Json.Readers
import MarketGateway.Proofs.Json.Records
import MarketGateway.Proofs.Json.RoundTrip

/-!
# Values that come back

A value comes back from JSON when it is read from what is written of it and the text of that can be
read. Records come back when their fields do: `ComesBack.record`.
-/

namespace MarketGateway.Json

variable {α β : Type} {depth : Nat} {read : Reader α} {write : α → Json} {j : Json} {a : α}
  {members : List (String × Json)} {name : String}

/-- What is written can stand at this depth and is read as the value. -/
structure ComesBack (depth : Nat) (read : Reader α) (written : Json) (a : α) : Prop where
  readable : Readable depth written
  reads : read written = .ok a

theorem Readable.ofMembers (distinct : Distinct members)
    (each : ∀ m ∈ members, Readable depth m.2) : Readable (depth + 1) (ofMembers members) := by
  have empty : Ascending [] := .nil
  obtain ⟨order, listed⟩ := foldl_setMember empty distinct
  exact .object order fun m member => each m (listed.mem_iff.mp member)

theorem Readable.strings (texts : List String) : Readable (depth + 1) (.array (texts.map .string)) := by
  refine .array fun v member => ?_
  obtain ⟨text, -, rfl⟩ := List.mem_map.mp member
  exact .string text

/-- What is written of an object is read as an object with the same members. -/
theorem parse?_render_ofMembers (members : List (String × Json)) (distinct : Distinct members)
    (each : ∀ m ∈ members, Readable (Assembly.maxDepth - 1) m.2) :
    ∃ read, parse? (Json.ofMembers members).render = some (.object read) ∧
      ∀ key, memberOf? key read = memberOf? key members := by
  obtain ⟨ordered, written, -, same⟩ := memberOf?_ofMembers distinct
  refine ⟨ordered, ?_, same⟩
  rw [← written]
  exact parse?_render (.ofMembers distinct each)

namespace ComesBack

theorem text (s : String) : ComesBack depth .text (.string s) s := ⟨.string s, rfl⟩

theorem bool (b : Bool) : ComesBack depth .bool (.bool b) b := ⟨.bool b, rfl⟩

theorem int64 (n : Int64) : ComesBack depth .int64 (.int64 n) n where
  readable := by
    have low := n.le_toInt
    have high := n.toInt_lt
    exact .int (by omega) (by omega)
  reads := Reader.int64_written n

theorem uint64 {n : Nat} (small : n < 2 ^ 64) : ComesBack depth .uint64 (.nat n) n where
  readable := .int (by omega) (by omega)
  reads := Reader.uint64_written small

theorem list {as : List α} (each : ∀ a ∈ as, ComesBack depth read (write a) a) :
    ComesBack (depth + 1) (.list read) (.array (as.map write)) as where
  readable := by
    refine .array fun v member => ?_
    obtain ⟨a, listed, rfl⟩ := List.mem_map.mp member
    exact (each a listed).readable
  reads := Reader.list_written fun a listed => (each a listed).reads

/-- The value is held by a variant of its type. -/
theorem holding {variants : List (Reader.Variant β)} {make : α → β}
    (found : Reader.Variant.find variants name = .ok (.holding name fun j => (read j).map make))
    (content : ComesBack depth read j a) :
    ComesBack (depth + 1) (.variant variants) (.ofMembers [(name, j)]) (make a) where
  readable := .ofMembers (List.pairwise_singleton ..) (List.forall_mem_singleton.mpr content.readable)
  reads := by
    show Reader.variant variants (.object [(name, j)]) = .ok (make a)
    rw [Reader.variant, found]
    show (read j).map make = .ok (make a)
    rw [content.reads]
    rfl

theorem unit {variants : List (Reader.Variant α)}
    (found : Reader.Variant.find variants name = .ok (.unit name a)) :
    ComesBack depth (.variant variants) (.string name) a where
  readable := .string name
  reads := by
    rw [Reader.variant, found]
    rfl

theorem parse? (back : ComesBack Assembly.maxDepth read j a) {written : Json}
    (reordered : Reordered written j) :
    ∃ value, Json.parse? written.render = some value ∧ read value = .ok a :=
  ⟨j, parse?_render_of_reordered reordered back.readable, back.reads⟩

end ComesBack

/-! ### Records -/

/-- The fields of a record come back from the members of their names. -/
structure Fits (depth : Nat) (members : List (String × Json)) (schema : Schema α) (a : α) : Prop where
  sound : schema.Sound
  gives : schema.Gives members a
  readable : ∀ f ∈ schema.fields, ∃ j, memberOf? f.name members = some j ∧ Readable depth j

namespace Fits

theorem required (found : memberOf? name members = some j) (back : ComesBack depth read j a) :
    Fits depth members (.required name read) a where
  sound := inferInstance
  gives := .field found back.reads
  readable := List.forall_mem_singleton.mpr ⟨j, found, back.readable⟩

theorem withDefault {default : α} (found : memberOf? name members = some j) (back : ComesBack depth read j a) :
    Fits depth members (.withDefault name read default) a where
  sound := inferInstance
  gives := .field found back.reads
  readable := List.forall_mem_singleton.mpr ⟨j, found, back.readable⟩

/-- A field that may be left out is there. -/
theorem given (found : memberOf? name members = some j) (back : ComesBack depth read j a) (notNull : j ≠ .null) :
    Fits depth members (.optional name read) (some a) where
  sound := inferInstance
  gives := .field found (Reader.nullable_eq_some notNull back.reads)
  readable := List.forall_mem_singleton.mpr ⟨j, found, back.readable⟩

theorem optional {o : Option α} (found : memberOf? name members = some (ofOption write o))
    (back : ∀ a, o = some a → ComesBack depth read (write a) a) (notNull : ∀ a, write a ≠ .null) :
    Fits depth members (.optional name read) o := by
  cases o with
  | none => exact ⟨inferInstance, .field found rfl, List.forall_mem_singleton.mpr ⟨.null, found, .null⟩⟩
  | some a => exact given found (back a rfl) (notNull a)

theorem seq {f : Schema (α → β)} {schema : Schema α} {g : α → β} (first : Fits depth members f g)
    (second : Fits depth members schema a) : Fits depth members (f <*> schema) (g a) where
  sound :=
    have := first.sound
    have := second.sound
    inferInstance
  gives := first.gives.seq second.gives
  readable := List.forall_mem_append.mpr ⟨first.readable, second.readable⟩

theorem map {schema : Schema α} (g : α → β) (fits : Fits depth members schema a) :
    Fits depth members (g <$> schema) (g a) where
  sound :=
    have := fits.sound
    inferInstance
  gives := fits.gives.map g
  readable := fits.readable

/-- What is written are the fields of the record. -/
theorem comesBack {schema : Schema α} {kind : String}
    (fits : Fits depth members schema a) (names : (schema.fields.map Field.name).Nodup)
    (keys : members.map Prod.fst = schema.fields.map Field.name) :
    ComesBack (depth + 1) (schema.read kind) (.ofMembers members) a := by
  have distinct : Distinct members := by
    rw [← keys] at names
    exact List.pairwise_map.mp names
  have := fits.sound
  have reads := (Schema.read_ofMembers names distinct kind).mpr fits.gives
  refine ⟨.ofMembers distinct fun m member => ?_, reads⟩
  have key : m.1 ∈ schema.fields.map Field.name := keys ▸ List.mem_map_of_mem member
  obtain ⟨f, listed, same⟩ := List.mem_map.mp key
  obtain ⟨j, found, readable⟩ := fits.readable f listed
  have here : memberOf? m.1 members = some m.2 := (memberOf?_eq_some distinct).mpr member
  rw [same, here] at found
  exact Option.some.inj found ▸ readable

end Fits

end MarketGateway.Json
