import MarketGateway.Proofs.Json.Records
import Mathlib.Data.List.Forall2

/-!
# Fields of records

A field of a record is what its reader makes of the member, and nothing else of the member counts:
`ReadsField`, which `Schema.readsField` proves of the records of a schema.
-/

namespace MarketGateway.Json

variable {α β : Type} {read : Reader β} {key name : String} {given others all members : Fields}

/-! ### Members that a reader cannot tell apart -/

/-- The same member, or two under the key that the reader gives the same result for. -/
inductive Alike (key : String) (read : Reader β) : String × Json → String × Json → Prop where
  | same (m : String × Json) : Alike key read m m
  | read {j k : Json} (same : read j = read k) : Alike key read (key, j) (key, k)

/-- The record has a field that is what the reader makes of the member under the key, and the record
depends on the member in no other way. -/
structure ReadsField (record : Reader α) (key : String) (read : Reader β) (part : α → β) : Prop where
  holds : ∀ members a j, record (.object members) = .ok a → (key, j) ∈ members → read j = .ok (part a)
  alike : ∀ members others, List.Forall₂ (Alike key read) members others →
    record (.object members) = record (.object others)

theorem Alike.key_eq {m n : String × Json} (alike : Alike key read m n) : m.1 = n.1 := by
  cases alike <;> rfl

theorem memberOf?_of_ne (alike : List.Forall₂ (Alike name read) given others) (different : key ≠ name) :
    memberOf? key given = memberOf? key others := by
  induction alike with
  | nil => rfl
  | cons here _ ih =>
    rw [memberOf?_cons, memberOf?_cons, ih]
    cases here with
    | same => rfl
    | read => rw [if_neg different.symm, if_neg different.symm]

theorem map_memberOf? (alike : List.Forall₂ (Alike name read) given others) :
    (memberOf? name given).map read = (memberOf? name others).map read := by
  induction alike with
  | nil => rfl
  | cons here _ ih =>
    rw [memberOf?_cons, memberOf?_cons]
    cases here with
    | same =>
      split
      · rfl
      · exact ih
    | read same =>
      rw [if_pos rfl, if_pos rfl]
      exact congrArg some same

theorem any_name (alike : List.Forall₂ (Alike name read) given others) (key : String) :
    given.any (fun g => g.1 == key) = others.any fun g => g.1 == key := by
  induction alike with
  | nil => rfl
  | cons here _ ih => rw [List.any_cons, List.any_cons, here.key_eq, ih]

namespace Schema

variable {schema : Schema α} {fields : List Field}

/-- No field has the name: whatever is given under it, the same is built, and it is as required. -/
structure Passes (schema : Schema α) (name : String) (read : Reader β) (required : α → Prop) : Prop where
  names : ∀ f ∈ schema.fields, f.name ≠ name
  build : ∀ given others, List.Forall₂ (Alike name read) given others →
    schema.build given = schema.build others
  makes : ∀ given a, schema.Gives given a → required a

/-- The field of the name is read by the reader, and what is built is as required for what was read. -/
structure ReadsBy (schema : Schema α) (name : String) (read : Reader β) (required : α → β → Prop) :
    Prop where
  check : ∀ f ∈ schema.fields, f.name = name → ∀ j k, read j = read k → f.check j = f.check k
  build : ∀ given others, List.Forall₂ (Alike name read) given others →
    schema.build given = schema.build others
  holds : ∀ given a j, schema.Gives given a → memberOf? name given = some j →
    ∃ b, read j = .ok b ∧ required a b

section Chains
variable {γ : Type} {f : Schema (γ → α)} {g : γ → α} {other : String} {aliases : List String}
  {fillable : Bool} {reader : Reader γ} {absent : Except ReadError γ}

theorem build_seq {schema : Schema γ} (first : f.build given = f.build others)
    (second : schema.build given = schema.build others) :
    (f <*> schema).build given = (f <*> schema).build others := by
  show (f.build given >>= fun g => schema.build given >>= fun a => pure (g a)) =
    f.build others >>= fun g => schema.build others >>= fun a => pure (g a)
  rw [first, second]

theorem build_other (different : other ≠ name) (alike : List.Forall₂ (Alike name read) given others) :
    (field other aliases fillable reader absent).build given =
      (field other aliases fillable reader absent).build others := by
  simp only [field, memberOf?_of_ne alike different]

theorem build_field {absent : Except ReadError β} (alike : List.Forall₂ (Alike name read) given others) :
    (field name aliases fillable read absent).build given =
      (field name aliases fillable read absent).build others := by
  have same := map_memberOf? alike
  simp only [field]
  cases found : memberOf? name given <;> cases listed : memberOf? name others <;> simp_all

theorem Gives.read_eq_ok {absent : Except ReadError β} {b : β} {j : Json}
    (gives : (Schema.field name aliases fillable read absent).Gives given b)
    (found : memberOf? name given = some j) : read j = .ok b := by
  simpa only [Gives, Schema.field, found] using gives

/-- A field in front of the one of the name. -/
theorem Passes.seq {required : α → Prop} (front : f.Passes name read fun g => ∀ c, required (g c))
    (different : other ≠ name := by decide) :
    (f <*> field other aliases fillable reader absent).Passes name read required where
  names := List.forall_mem_append.mpr ⟨front.names, List.forall_mem_singleton.mpr different⟩
  build given others alike := build_seq (front.build given others alike) (build_other different alike)
  makes given a gives := by
    obtain ⟨g, c, first, -, rfl⟩ := gives_seq.mp gives
    exact front.makes given g first c

theorem Passes.pure {required : α → Prop} {a : α} (made : required a) :
    (Pure.pure a : Schema α).Passes name read required where
  names := nofun
  build _ _ _ := rfl
  makes _ _ gives := gives_pure.mp gives ▸ made

theorem Passes.map {required : α → Prop} (made : ∀ c, required (g c)) (different : other ≠ name := by decide) :
    (g <$> field other aliases fillable reader absent).Passes name read required :=
  (Passes.pure made).seq different

/-- The field of the name. -/
theorem ReadsBy.field {f : Schema (β → α)} {absent : Except ReadError β} {required : α → β → Prop}
    (front : f.Passes name read fun g => ∀ b, required (g b) b) :
    (f <*> Schema.field name aliases fillable read absent).ReadsBy name read required where
  check := by
    refine List.forall_mem_append.mpr ⟨fun h listed same => absurd same (front.names h listed), ?_⟩
    refine List.forall_mem_singleton.mpr fun _ j k same => ?_
    show (read j).map _ = (read k).map _
    rw [same]
  build given others alike := build_seq (front.build given others alike) (build_field alike)
  holds given a j gives found := by
    obtain ⟨g, b, first, here, rfl⟩ := gives_seq.mp gives
    exact ⟨b, here.read_eq_ok found, front.makes given g first b⟩

theorem ReadsBy.first {g : β → α} {absent : Except ReadError β} {required : α → β → Prop}
    (made : ∀ b, required (g b) b) :
    (g <$> Schema.field name aliases fillable read absent).ReadsBy name read required :=
  .field (.pure made)

/-- A field behind the one of the name. -/
theorem ReadsBy.seq {required : α → β → Prop} (front : f.ReadsBy name read fun g b => ∀ c, required (g c) b)
    (different : other ≠ name := by decide) :
    (f <*> Schema.field other aliases fillable reader absent).ReadsBy name read required where
  check := by
    refine List.forall_mem_append.mpr ⟨front.check, ?_⟩
    exact List.forall_mem_singleton.mpr fun same => absurd same different
  build given others alike := build_seq (front.build given others alike) (build_other different alike)
  holds given a j gives found := by
    obtain ⟨g, c, first, -, rfl⟩ := gives_seq.mp gives
    obtain ⟨b, reads, made⟩ := front.holds given g j first found
    exact ⟨b, reads, made c⟩

end Chains

/-! ### Walking members -/

theorem walkMembers_cons_of_foreign {j : Json} (foreign : fields.find? (fun f => f.answersTo key) = none) :
    walkMembers fields given ((key, j) :: members) = walkMembers fields given members := by
  rw [walkMembers, foreign]

theorem walkMembers_cons_of_known {f : Field} {j : Json}
    (found : fields.find? (fun f => f.answersTo key) = some f)
    (known : given.any (fun g => g.1 == f.name) = true) :
    walkMembers fields given ((key, j) :: members) = .error (.duplicateField f.name) := by
  rw [walkMembers, found]
  simp only [known]
  rfl

/-- Members that are alike are walked to the same record. -/
theorem walkMembers_alike {given' members' : Fields} {required : α → β → Prop}
    (reads : schema.ReadsBy name read required)
    (named : ∀ f, schema.fields.find? (fun f => f.answersTo key) = some f → f.name = name)
    (givenAlike : List.Forall₂ (Alike name read) given given')
    (alike : List.Forall₂ (Alike key read) members members') :
    walkMembers schema.fields given members >>= schema.build =
      walkMembers schema.fields given' members' >>= schema.build := by
  induction alike generalizing given given' with
  | nil => exact reads.build given given' givenAlike
  | @cons m n members members' here _ ih =>
    obtain ⟨k, j⟩ := m
    obtain ⟨_, j'⟩ := n
    obtain rfl : k = _ := here.key_eq
    cases found : schema.fields.find? fun f => f.answersTo k with
    | none => rw [walkMembers_cons_of_foreign found, walkMembers_cons_of_foreign found, ih givenAlike]
    | some f =>
      have same := any_name givenAlike f.name
      cases known : given.any fun g => g.1 == f.name with
      | true =>
        rw [walkMembers_cons_of_known found known, walkMembers_cons_of_known found (same ▸ known)]
      | false =>
        rw [walkMembers_cons_of_field found known, walkMembers_cons_of_field found (same ▸ known)]
        have listed : f ∈ schema.fields := List.mem_of_find?_eq_some found
        have later : Alike name read (f.name, j) (f.name, j') ∧ f.check j = f.check j' := by
          cases here with
          | same => exact ⟨.same _, rfl⟩
          | read same =>
            obtain rfl := named f found
            exact ⟨.read same, reads.check f listed rfl j j' same⟩
        rw [later.2, bind_assoc, bind_assoc]
        exact bind_congr fun _ => ih (List.rel_append givenAlike (.cons later.1 .nil))

/-- A member of a field is given under the name of the field, and under no name two are given. -/
theorem walkMembers_gives (walked : walkMembers fields given members = .ok all) (distinct : Distinct given) :
    Distinct all ∧ (∀ m ∈ given, m ∈ all) ∧ ∀ m ∈ members, ∀ f,
      fields.find? (fun f => f.answersTo m.1) = some f → (f.name, m.2) ∈ all := by
  induction members generalizing given with
  | nil =>
    obtain rfl := Except.ok.inj walked
    exact ⟨distinct, fun _ member => member, nofun⟩
  | cons m members ih =>
    obtain ⟨k, j⟩ := m
    cases found : fields.find? fun f => f.answersTo k with
    | none =>
      rw [walkMembers_cons_of_foreign found] at walked
      obtain ⟨apart, kept, listed⟩ := ih walked distinct
      refine ⟨apart, kept, List.forall_mem_cons.mpr ⟨fun f some => ?_, listed⟩⟩
      cases found.symm.trans some
    | some f =>
      cases known : given.any fun g => g.1 == f.name with
      | true =>
        rw [walkMembers_cons_of_known found known] at walked
        cases walked
      | false =>
        rw [walkMembers_cons_of_field found known, bind_eq_ok] at walked
        obtain ⟨-, -, walked⟩ := walked
        have fresh : ∀ m ∈ given, m.1 ≠ f.name := fun m member same =>
          List.any_eq_false.mp known m member (beq_iff_eq.mpr same)
        have longer : Distinct (given ++ [(f.name, j)]) :=
          List.pairwise_append.mpr ⟨distinct, List.pairwise_singleton .., fun m member n last =>
            List.mem_singleton.mp last ▸ fresh m member⟩
        obtain ⟨apart, kept, listed⟩ := ih walked longer
        refine ⟨apart, fun m member => kept m (List.mem_append_left _ member),
          List.forall_mem_cons.mpr ⟨fun g some => ?_, listed⟩⟩
        obtain rfl := Option.some.inj (found.symm.trans some)
        exact kept _ (List.mem_append_right _ (List.mem_singleton_self _))

/-- The field of the name is read from the member under the key. -/
theorem readsField {part : α → β} (name kind : String)
    (answers : (schema.fields.find? fun f => f.answersTo key).map Field.name = some name)
    (reads : schema.ReadsBy name read fun a b => part a = b) :
    ReadsField (schema.read kind) key read part where
  holds members a j record member := by
    obtain ⟨all, walked, built⟩ := bind_eq_ok.mp record
    obtain ⟨f, found, rfl⟩ := Option.map_eq_some_iff.mp answers
    have empty : Distinct [] := .nil
    obtain ⟨apart, -, listed⟩ := walkMembers_gives walked empty
    have given : memberOf? f.name all = some j := (memberOf?_eq_some apart).mpr (listed _ member f found)
    obtain ⟨_, here, rfl⟩ := reads.holds all a j built given
    exact here
  alike members others alike := by
    refine walkMembers_alike reads (fun f found => ?_) .nil alike
    rw [found] at answers
    exact Option.some.inj answers

end Schema

end MarketGateway.Json
