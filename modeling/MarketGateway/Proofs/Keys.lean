import Mathlib.Data.List.Nodup

/-!
# Lists by key

In a list whose elements have distinct keys, an element is found under its key and under no other; the
order of the list does not matter.
-/

namespace MarketGateway.Keys

variable {α : Type} {key : α → String} {k : String} {l m : List α} {a : α}

theorem find?_eq_some_iff (distinct : (l.map key).Nodup) :
    l.find? (fun b => key b == k) = some a ↔ a ∈ l ∧ key a = k := by
  induction l with
  | nil => simp
  | cons b l ih =>
    obtain ⟨fresh, distinct⟩ := List.nodup_cons.mp distinct
    rw [List.find?_cons, List.mem_cons]
    by_cases here : key b = k
    · have unique : a ∈ l → key a ≠ k := fun member same =>
        fresh (here ▸ same ▸ List.mem_map_of_mem member)
      simp only [beq_iff_eq.mpr here, Option.some.injEq]
      constructor
      · rintro rfl
        exact ⟨.inl rfl, here⟩
      · rintro ⟨rfl | member, same⟩
        · rfl
        · exact (unique member same).elim
    · simp only [beq_false_of_ne here, ih distinct]
      constructor
      · exact fun ⟨member, same⟩ => ⟨.inr member, same⟩
      · rintro ⟨rfl | member, same⟩
        · exact (here same).elim
        · exact ⟨member, same⟩

theorem find?_eq_none_iff : l.find? (fun b => key b == k) = none ↔ k ∉ l.map key := by
  simp [List.find?_eq_none]

theorem find?_perm (distinct : (l.map key).Nodup) (same : l.Perm m) :
    l.find? (fun b => key b == k) = m.find? fun b => key b == k := by
  refine Option.ext fun a => ?_
  rw [find?_eq_some_iff distinct, find?_eq_some_iff ((same.map key).nodup_iff.mp distinct), same.mem_iff]

theorem find?_concat (fresh : key a ∉ l.map key) :
    (l ++ [a]).find? (fun b => key b == k) = if key a = k then some a else l.find? fun b => key b == k := by
  rw [List.find?_append]
  by_cases here : key a = k
  · have absent : l.find? (fun b => key b == k) = none := find?_eq_none_iff.mpr (here ▸ fresh)
    simp [absent, here]
  · simp [here]

theorem fresh_of_split {before later : List α} (distinct : (l.map key).Nodup)
    (split : l = before ++ a :: later) : key a ∉ before.map key := by
  rw [split, List.map_append, List.map_cons] at distinct
  exact fun member => (List.nodup_append.mp distinct).2.2 _ member _ List.mem_cons_self rfl

theorem nodup_of_ascending (ascending : l.Pairwise fun a b => key a < key b) : (l.map key).Nodup :=
  List.pairwise_map.mpr (ascending.imp String.ne_of_lt)

/-- Lists in ascending order are equal if they have the same elements under all keys. -/
theorem ext_of_ascending (left : l.Pairwise fun a b => key a < key b)
    (right : m.Pairwise fun a b => key a < key b)
    (same : ∀ k, l.find? (fun b => key b == k) = m.find? fun b => key b == k) : l = m := by
  have distinctLeft := nodup_of_ascending left
  have distinctRight := nodup_of_ascending right
  have members : ∀ a, a ∈ l ↔ a ∈ m := by
    intro a
    have found := find?_eq_some_iff (a := a) (k := key a) distinctLeft
    rw [same, find?_eq_some_iff distinctRight] at found
    simpa using found.symm
  have perm : l.Perm m :=
    (List.perm_ext_iff_of_nodup distinctLeft.of_map distinctRight.of_map).mpr members
  exact perm.eq_of_pairwise (fun a b _ _ less more => (String.lt_asymm less more).elim) left right

end MarketGateway.Keys
