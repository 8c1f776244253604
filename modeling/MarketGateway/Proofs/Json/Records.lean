import MarketGateway.Json.Schema
import MarketGateway.Proofs.Json.Members
import MarketGateway.Proofs.Runs
import Mathlib.Data.List.Nodup

/-!
# Records in objects

A record is read from an object when each of its fields is read from the member of its name, whatever
the order of the members and whatever others there are: `Schema.read_object`.
-/

namespace MarketGateway.Json.Schema

variable {α β : Type} {schema : Schema α} {members given : Fields} {fields : List Field} {a : α}

/-! ### What is built -/

/-- The record is built from what is given. -/
def Gives (schema : Schema α) (given : Fields) (a : α) : Prop := schema.build given = .ok a

theorem gives_pure {b : α} : Gives (pure a) given b ↔ a = b := Except.ok.injEq a b ▸ .rfl

theorem gives_seq {f : Schema (α → β)} {b : β} :
    Gives (f <*> schema) given b ↔ ∃ g a, Gives f given g ∧ Gives schema given a ∧ g a = b := by
  show (f.build given >>= fun g => schema.build given >>= fun a => pure (g a)) = .ok b ↔ _
  simp only [bind_eq_ok, Gives]
  constructor
  · rintro ⟨g, made, a, found, same⟩
    exact ⟨g, a, made, found, Except.ok.inj same⟩
  · rintro ⟨g, a, made, found, same⟩
    exact ⟨g, made, a, found, congrArg Except.ok same⟩

theorem Gives.seq {f : Schema (α → β)} {g : α → β} (first : Gives f given g)
    (second : Gives schema given a) : Gives (f <*> schema) given (g a) :=
  gives_seq.mpr ⟨g, a, first, second, rfl⟩

theorem gives_map {g : α → β} {b : β} :
    Gives (g <$> schema) given b ↔ ∃ a, Gives schema given a ∧ g a = b := by
  show Gives (Pure.pure g <*> schema) given b ↔ _
  simp only [gives_seq, gives_pure]
  constructor
  · rintro ⟨_, a, rfl, gives, same⟩
    exact ⟨a, gives, same⟩
  · rintro ⟨a, gives, same⟩
    exact ⟨g, a, rfl, gives, same⟩

theorem Gives.map (g : α → β) (gives : Gives schema given a) : Gives (g <$> schema) given (g a) :=
  gives_map.mpr ⟨a, gives, rfl⟩

/-- The members of fields pass the checks of their fields. -/
def Checked (fields : List Field) (members : Fields) : Prop :=
  ∀ f ∈ fields, ∀ j, memberOf? f.name members = some j → f.check j = .ok ()

/-- What is built depends on the fields alone, each of them has passed its check, and none of them has
another name. -/
class Sound (schema : Schema α) : Prop where
  ofFields : ∀ given others, (∀ f ∈ schema.fields, memberOf? f.name given = memberOf? f.name others) →
    schema.build given = schema.build others
  checked : ∀ given a, schema.Gives given a → Checked schema.fields given
  unaliased : ∀ f ∈ schema.fields, f.aliases = []

instance Sound.pure (a : α) : Sound (Pure.pure a) := ⟨fun _ _ _ => rfl, nofun, nofun⟩

instance Sound.seq (f : Schema (α → β)) (schema : Schema α) [Sound f] [Sound schema] :
    Sound (f <*> schema) where
  ofFields given others same := by
    obtain ⟨first, second⟩ := List.forall_mem_append.mp same
    show (f.build given >>= fun g => schema.build given >>= fun a => Pure.pure (g a)) =
      f.build others >>= fun g => schema.build others >>= fun a => Pure.pure (g a)
    rw [Sound.ofFields given others first, Sound.ofFields given others second]
  checked given b gives := by
    obtain ⟨g, a, first, second, -⟩ := gives_seq.mp gives
    exact List.forall_mem_append.mpr ⟨Sound.checked given g first, Sound.checked given a second⟩
  unaliased := List.forall_mem_append.mpr ⟨Sound.unaliased, Sound.unaliased⟩

instance Sound.map (g : α → β) (schema : Schema α) [Sound schema] : Sound (g <$> schema) :=
  Sound.seq (Pure.pure g) schema

/-! ### Fields -/

section Fields
variable {name : String} {read : Reader α} {j : Json}

theorem Gives.field {aliases : List String} {fillable : Bool} {absent : Except ReadError α}
    (found : memberOf? name given = some j) (reads : read j = .ok a) :
    (Schema.field name aliases fillable read absent).Gives given a := by
  simp only [Gives, Schema.field, found, reads]

theorem gives_required :
    (Schema.required name read).Gives given a ↔ ∃ j, memberOf? name given = some j ∧ read j = .ok a := by
  simp only [Gives, required, Schema.field]
  cases memberOf? name given with
  | none => simp
  | some j => simp

theorem Gives.missing {aliases : List String} {fillable : Bool} (missing : memberOf? name given = none) :
    (Schema.field name aliases fillable read (.ok a)).Gives given a := by
  simp only [Gives, Schema.field, missing]

instance Sound.field (name : String) (fillable : Bool) (read : Reader α)
    (absent : Except ReadError α) : Sound (Schema.field name [] fillable read absent) where
  ofFields given others same := by
    have here : memberOf? name given = memberOf? name others := same _ (List.mem_singleton_self _)
    simp only [Schema.field, here]
  checked given a gives f member j found := by
    obtain rfl := List.mem_singleton.mp member
    dsimp only at found
    simp only [Gives, Schema.field, found] at gives
    show (read j).map (fun _ => ()) = .ok ()
    rw [gives]
    rfl
  unaliased := List.forall_mem_singleton.mpr rfl

instance Sound.required (name : String) (read : Reader α) : Sound (Schema.required name read) :=
  Sound.field name false read _

instance Sound.optional (name : String) (read : Reader α) : Sound (Schema.optional name read) :=
  Sound.field name false (.nullable read) _

instance Sound.withDefault (name : String) (read : Reader α) (default : α) :
    Sound (Schema.withDefault name read default) :=
  Sound.field name true read _

instance Sound.omittable (name : String) (read : Reader α) : Sound (Schema.omittable name read) :=
  Sound.field name true (.nullable read) _

end Fields

/-! ### Members of fields -/

/-- A member is a field under its name, and under no other field's. -/
structure Plain (fields : List Field) : Prop where
  unaliased : ∀ f ∈ fields, f.aliases = []
  names : (fields.map Field.name).Nodup

/-- The members that are fields. -/
def known (fields : List Field) (members : Fields) : Fields :=
  members.filter fun m => fields.any fun f => f.name == m.1

theorem memberOf?_known {f : Field} (listed : f ∈ fields) :
    memberOf? f.name (known fields members) = memberOf? f.name members := by
  have same : ∀ m : String × Json,
      ((fields.any fun f => f.name == m.1) && m.1 == f.name) = (m.1 == f.name) := by
    intro m
    by_cases key : m.1 = f.name
    · have any : (fields.any fun f => f.name == m.1) = true :=
        List.any_eq_true.mpr ⟨f, listed, beq_iff_eq.mpr key.symm⟩
      rw [any, Bool.true_and]
    · rw [beq_false_of_ne key, Bool.and_false]
  simp only [memberOf?, known, List.find?_filter, ← Bool.and_eq_true, Bool.decide_eq_true, same]

theorem Plain.answersTo (plain : Plain fields) {f : Field} (listed : f ∈ fields) (key : String) :
    f.answersTo key = (f.name == key) := by
  rw [Field.answersTo, plain.unaliased f listed, List.contains_nil, Bool.or_false]

theorem walkMembers_cons_of_field {f : Field} {key : String} {j : Json}
    (found : fields.find? (fun f => f.answersTo key) = some f)
    (fresh : given.any (fun g => g.1 == f.name) = false) :
    walkMembers fields given ((key, j) :: members) =
      f.check j >>= fun _ => walkMembers fields (given ++ [(f.name, j)]) members := by
  rw [walkMembers, found]
  simp only [fresh]
  rfl

theorem checked_cons_of_foreign {m : String × Json} (foreign : ∀ f ∈ fields, m.1 ≠ f.name) :
    Checked fields (m :: members) ↔ Checked fields members := by
  refine forall₂_congr fun f listed => ?_
  rw [memberOf?_cons, if_neg (foreign f listed)]

theorem checked_cons_of_field {f : Field} {j : Json} (plain : Plain fields) (listed : f ∈ fields)
    (distinct : Distinct ((f.name, j) :: members)) :
    Checked fields ((f.name, j) :: members) ↔ f.check j = .ok () ∧ Checked fields members := by
  obtain ⟨once, rest⟩ := List.pairwise_cons.mp distinct
  constructor
  · intro all
    refine ⟨all f listed j (by rw [memberOf?_cons, if_pos rfl]), fun g other v found => ?_⟩
    have different : f.name ≠ g.name := once _ ((memberOf?_eq_some rest).mp found)
    exact all g other v (by rwa [memberOf?_cons, if_neg different])
  · rintro ⟨here, all⟩ g other v found
    rw [memberOf?_cons] at found
    split at found
    · rename_i same
      obtain rfl := List.inj_on_of_nodup_map plain.names listed other same
      exact Option.some.inj found ▸ here
    · exact all g other v found

theorem walkMembers_eq_ok (plain : Plain fields) (distinct : Distinct (given ++ members)) {all : Fields} :
    walkMembers fields given members = .ok all ↔
      all = given ++ known fields members ∧ Checked fields members := by
  -- What has been given stays apart from the members to come, so no field is met twice.
  induction members generalizing given with
  | nil => simp [walkMembers, known, Checked, memberOf?, eq_comm]
  | cons m members ih =>
    obtain ⟨key, j⟩ := m
    obtain ⟨before, later, apart⟩ := List.pairwise_append.mp distinct
    cases found : fields.find? fun f => f.answersTo key with
    | none =>
      have foreign : ∀ f ∈ fields, key ≠ f.name := by
        intro f listed same
        have other := List.find?_eq_none.mp found f listed
        rw [plain.answersTo listed] at other
        exact other (beq_iff_eq.mpr same.symm)
      have skipped : known fields ((key, j) :: members) = known fields members := by
        refine List.filter_cons_of_neg fun any => ?_
        obtain ⟨f, listed, same⟩ := List.any_eq_true.mp any
        exact foreign f listed (beq_iff_eq.mp same).symm
      have distinct : Distinct (given ++ members) :=
        List.pairwise_append.mpr ⟨before, (List.pairwise_cons.mp later).2,
          fun a ha b hb => apart a ha b (.tail _ hb)⟩
      rw [walkMembers, found, skipped, checked_cons_of_foreign foreign]
      exact ih distinct
    | some f =>
      have listed : f ∈ fields := List.mem_of_find?_eq_some found
      obtain rfl : f.name = key := by
        have answers := List.find?_some found
        rw [plain.answersTo listed] at answers
        exact beq_iff_eq.mp answers
      have fresh : given.any (fun g => g.1 == f.name) = false := by
        refine List.any_eq_false.mpr fun g member same => ?_
        exact apart g member _ (.head _) (beq_iff_eq.mp same)
      have kept : known fields ((f.name, j) :: members) = (f.name, j) :: known fields members :=
        List.filter_cons_of_pos (List.any_eq_true.mpr ⟨f, listed, beq_self_eq_true _⟩)
      have distinct : Distinct ((given ++ [(f.name, j)]) ++ members) := by
        rwa [List.append_assoc]
      rw [walkMembers_cons_of_field found fresh, bind_eq_ok, kept,
        checked_cons_of_field plain listed later]
      constructor
      · rintro ⟨⟨⟩, here, walked⟩
        obtain ⟨rfl, all⟩ := (ih distinct).mp walked
        exact ⟨by rw [List.append_assoc]; rfl, here, all⟩
      · rintro ⟨rfl, here, all⟩
        refine ⟨(), here, (ih distinct).mpr ⟨?_, all⟩⟩
        rw [List.append_assoc]
        rfl

/-- Each field is read from the member of its name. -/
theorem read_object [Sound schema] (names : (schema.fields.map Field.name).Nodup)
    (distinct : Distinct members) (kind : String) :
    schema.read kind (.object members) = .ok a ↔ schema.Gives members a := by
  have agree : schema.build (known schema.fields members) = schema.build members :=
    Sound.ofFields _ _ fun f listed => memberOf?_known listed
  have plain : Plain schema.fields := ⟨Sound.unaliased, names⟩
  have fresh : Distinct ([] ++ members) := distinct
  show (walkMembers schema.fields [] members >>= schema.build) = .ok a ↔ _
  rw [bind_eq_ok]
  constructor
  · rintro ⟨all, walked, built⟩
    obtain ⟨rfl, -⟩ := (walkMembers_eq_ok plain fresh).mp walked
    exact agree.symm.trans built
  · intro gives
    exact ⟨_, (walkMembers_eq_ok plain fresh).mpr ⟨rfl, Sound.checked members a gives⟩,
      agree.trans gives⟩

theorem read_ofMembers [Sound schema] (names : (schema.fields.map Field.name).Nodup)
    (distinct : Distinct members) (kind : String) :
    schema.read kind (.ofMembers members) = .ok a ↔ schema.Gives members a := by
  obtain ⟨ordered, same, apart, members⟩ := memberOf?_ofMembers distinct
  rw [same, read_object names apart, Gives, Gives, Sound.ofFields _ _ fun f _ => members f.name]

end MarketGateway.Json.Schema
