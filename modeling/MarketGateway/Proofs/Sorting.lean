/-!
# Stable sorting

Elements that may stand in either order keep their places among each other when a list is sorted:
`filter_mergeSort`.
-/

namespace MarketGateway.Sorting

variable {α : Type} {le : α → α → Bool} {p : α → Bool}

theorem filter_mergeSort (trans : ∀ a b c, le a b = true → le b c = true → le a c = true)
    (total : ∀ a b, (le a b || le b a) = true)
    (alike : ∀ a b, p a = true → p b = true → le a b = true) (l : List α) :
    (l.mergeSort le).filter p = l.filter p := by
  have ordered : (l.filter p).Pairwise fun a b => le a b = true := by
    rw [List.pairwise_filter]
    exact List.pairwise_of_forall alike
  have kept : (l.filter p).Sublist (l.mergeSort le) :=
    List.sublist_mergeSort trans total ordered List.filter_sublist
  have found := kept.filter p
  simp only [List.filter_filter, Bool.and_self] at found
  have count := ((List.mergeSort_perm l le).filter p).length_eq
  exact (found.eq_of_length_le (Nat.le_of_eq count)).symm

end MarketGateway.Sorting
