import Mathlib.Data.List.Basic
import MarketGateway.Text.Ascii

/-!
# Pieces of a text

A text is split at its separators, and no piece has one: `pieces_eq_cons_iff`.
-/

namespace MarketGateway.Text

variable {α : Type} {p : α → Bool} {cs piece : List α} {later : List (List α)}

theorem pieces_ne_nil (p : α → Bool) (cs : List α) : pieces p cs ≠ [] := by
  cases cs with
  | nil => exact List.cons_ne_nil _ _
  | cons c cs =>
    rw [pieces]
    split
    · exact List.cons_ne_nil _ _
    · split <;> exact List.cons_ne_nil _ _

theorem pieces_eq_splitOnP (p : α → Bool) (cs : List α) : pieces p cs = cs.splitOnP p := by
  induction cs with
  | nil => rfl
  | cons c cs ih =>
    rw [List.splitOnP_cons_eq_if_modifyHead, ← ih, pieces]
    cases found : pieces p cs with
    | nil => exact absurd found (pieces_ne_nil p cs)
    | cons piece later => rfl

/-- A list without separators is one piece, any other one has its first piece before the first separator. -/
theorem pieces_cases (p : α → Bool) (cs : List α) :
    (pieces p cs = [cs] ∧ ∀ c ∈ cs, p c = false) ∨
      ∃ piece sep rest, cs = piece ++ sep :: rest ∧ p sep = true ∧ (∀ c ∈ piece, p c = false) ∧
        pieces p cs = piece :: pieces p rest := by
  simp only [pieces_eq_splitOnP]
  induction cs with
  | nil => exact .inl ⟨rfl, nofun⟩
  | cons c cs ih =>
    rw [List.splitOnP_cons_eq_if_modifyHead]
    cases divides : p c with
    | true => exact .inr ⟨[], c, cs, rfl, divides, nofun, rfl⟩
    | false =>
      rcases ih with ⟨same, none⟩ | ⟨piece, sep, rest, rfl, divides', plain, same⟩
      · exact .inl ⟨by rw [same]; rfl, List.forall_mem_cons.mpr ⟨divides, none⟩⟩
      · exact .inr ⟨c :: piece, sep, rest, rfl, divides', List.forall_mem_cons.mpr ⟨divides, plain⟩, by rw [same]; rfl⟩

theorem pieces_eq_singleton_iff : pieces p cs = [piece] ↔ piece = cs ∧ ∀ c ∈ cs, p c = false := by
  constructor
  · intro one
    rcases pieces_cases p cs with ⟨same, none⟩ | ⟨first, sep, rest, -, -, -, same⟩
    · rw [same] at one
      exact ⟨(List.cons.inj one).1.symm, none⟩
    · rw [same] at one
      exact absurd (List.cons.inj one).2 (pieces_ne_nil p rest)
  · rintro ⟨rfl, none⟩
    rw [pieces_eq_splitOnP, List.splitOnP_eq_singleton none]

theorem pieces_eq_cons_iff (more : later ≠ []) : pieces p cs = piece :: later ↔
    (∀ c ∈ piece, p c = false) ∧
      ∃ sep rest, p sep = true ∧ cs = piece ++ sep :: rest ∧ pieces p rest = later := by
  constructor
  · intro several
    rcases pieces_cases p cs with ⟨same, -⟩ | ⟨first, sep, rest, parts, divides, plain, same⟩
    · rw [same] at several
      exact absurd (List.cons.inj several).2.symm more
    · rw [same] at several
      obtain ⟨rfl, others⟩ := List.cons.inj several
      exact ⟨plain, sep, rest, divides, parts, others⟩
  · rintro ⟨plain, sep, rest, divides, rfl, rfl⟩
    rw [pieces_eq_splitOnP, pieces_eq_splitOnP, List.splitOnP_append_cons_of_forall_mem plain sep divides]

end MarketGateway.Text
