import MarketGateway.Json.Basic

/-!
# Members of objects

However the members of an object are given, they are listed in ascending order of their keys, and each
is found under its key: `ofMembers_eq`, `memberOf?_ofMembers`.
-/

namespace MarketGateway.Json

variable {members sofar sorted : List (String × Json)} {key : String} {v : Json}

/-- In ascending order of the keys, each key once. -/
def Ascending (members : List (String × Json)) : Prop := members.Pairwise fun m n => m.1 < n.1

def Distinct (members : List (String × Json)) : Prop := members.Pairwise fun m n => m.1 ≠ n.1

theorem Ascending.distinct (ascending : Ascending members) : Distinct members := by
  refine ascending.imp fun {m n} less equal => ?_
  rw [equal] at less
  exact String.lt_irrefl n.1 less

theorem Distinct.perm {others : List (String × Json)} (distinct : Distinct members)
    (same : members.Perm others) : Distinct others :=
  List.Pairwise.perm distinct same fun different => different.symm

theorem mem_setMember {m : String × Json} (member : m ∈ setMember key v sofar) :
    m = (key, v) ∨ m ∈ sofar := by
  induction sofar with
  | nil => exact .inl (List.mem_singleton.mp member)
  | cons n sofar ih =>
    rw [setMember] at member
    split at member
    · exact (List.mem_cons.mp member).imp_right (List.mem_cons_of_mem n)
    · split at member
      · exact List.mem_cons.mp member
      · rcases List.mem_cons.mp member with rfl | later
        · exact .inr List.mem_cons_self
        · exact (ih later).imp_right (List.mem_cons_of_mem n)

theorem Ascending.setMember (ascending : Ascending sofar) : Ascending (setMember key v sofar) := by
  induction sofar with
  | nil => exact List.pairwise_singleton ..
  | cons n sofar ih =>
    obtain ⟨least, rest⟩ := List.pairwise_cons.mp ascending
    rw [Json.setMember]
    split
    · rename_i same
      exact List.pairwise_cons.mpr ⟨fun m member => same ▸ least m member, rest⟩
    · rename_i different
      split
      · rename_i before
        refine List.pairwise_cons.mpr ⟨fun m member => ?_, ascending⟩
        rcases List.mem_cons.mp member with rfl | later
        · exact before
        · exact String.lt_trans before (least m later)
      · rename_i behind
        refine List.pairwise_cons.mpr ⟨fun m member => ?_, ih rest⟩
        rcases mem_setMember member with rfl | later
        · exact Decidable.byContradiction fun notLess =>
            different (String.le_antisymm (String.not_lt.mp notLess) (String.not_lt.mp behind))
        · exact least m later

theorem setMember_perm (fresh : ∀ m ∈ sofar, m.1 ≠ key) :
    (setMember key v sofar).Perm ((key, v) :: sofar) := by
  induction sofar with
  | nil => exact .rfl
  | cons n sofar ih =>
    obtain ⟨here, later⟩ := List.forall_mem_cons.mp fresh
    rw [setMember, if_neg here.symm]
    split
    · exact .rfl
    · exact ((ih later).cons n).trans (.swap ..)

theorem foldl_setMember (ascending : Ascending sofar) (distinct : Distinct (sofar ++ members)) :
    Ascending (members.foldl (fun sofar m => setMember m.1 m.2 sofar) sofar) ∧
      (members.foldl (fun sofar m => setMember m.1 m.2 sofar) sofar).Perm (sofar ++ members) := by
  induction members generalizing sofar with
  | nil => exact ⟨ascending, by rw [List.append_nil]; exact .rfl⟩
  | cons m members ih =>
    have fresh : ∀ n ∈ sofar, n.1 ≠ m.1 := fun n member =>
      (List.pairwise_append.mp distinct).2.2 n member m List.mem_cons_self
    have here : (setMember m.1 m.2 sofar ++ members).Perm (sofar ++ m :: members) :=
      ((setMember_perm fresh).append_right members).trans List.perm_middle.symm
    obtain ⟨order, same⟩ := ih ascending.setMember (distinct.perm here.symm)
    exact ⟨order, same.trans here⟩

/-- The object of some members lists them in ascending order. -/
theorem ofMembers_eq (same : members.Perm sorted) (ascending : Ascending sorted) :
    ofMembers members = .object sorted := by
  have empty : Ascending [] := .nil
  obtain ⟨order, listed⟩ := foldl_setMember empty (ascending.distinct.perm same.symm)
  -- There is only one ascending order of the same members.
  have unique := List.Perm.eq_of_pairwise
    (fun a b _ _ less more => (String.lt_asymm less more).elim) order ascending (listed.trans same)
  exact congrArg Json.object unique

/-! ### Looking members up -/

theorem memberOf?_cons (key : String) (m : String × Json) (members : List (String × Json)) :
    memberOf? key (m :: members) = if m.1 = key then some m.2 else memberOf? key members := by
  by_cases same : m.1 = key
  · simp [memberOf?, same]
  · simp [memberOf?, same, beq_false_of_ne same]

theorem memberOf?_eq_some (distinct : Distinct members) :
    memberOf? key members = some v ↔ (key, v) ∈ members := by
  induction members with
  | nil => simp [memberOf?]
  | cons m members ih =>
    obtain ⟨here, later⟩ := List.pairwise_cons.mp distinct
    rw [List.mem_cons, memberOf?_cons]
    by_cases same : m.1 = key
    · have absent : (key, v) ∉ members := fun member => here _ member same
      simp [absent, Prod.ext_iff, same, eq_comm]
    · have different : (key, v) ≠ m := fun equal => same (equal ▸ rfl)
      simp [same, ih later, different]

theorem memberOf?_perm {others : List (String × Json)} (distinct : Distinct members)
    (same : members.Perm others) (key : String) : memberOf? key members = memberOf? key others := by
  refine Option.ext fun v => ?_
  rw [memberOf?_eq_some distinct, memberOf?_eq_some (distinct.perm same), same.mem_iff]

/-- The object of some members has the same members. -/
theorem memberOf?_ofMembers (distinct : Distinct members) :
    ∃ ordered, ofMembers members = .object ordered ∧ Distinct ordered ∧
      ∀ key, memberOf? key ordered = memberOf? key members := by
  have empty : Ascending [] := .nil
  obtain ⟨order, listed⟩ := foldl_setMember empty distinct
  exact ⟨_, rfl, order.distinct, memberOf?_perm order.distinct listed⟩

end MarketGateway.Json
