import Mathlib.Data.List.DropRight
import Mathlib.Data.List.TakeWhile
import MarketGateway.Text.Blank

/-!
# Taking away the ends of texts

Trimming takes away the blanks around a text and nothing else: `surrounded_trim` and `trim_surrounded`.
-/

namespace MarketGateway.Text

variable {p : Char → Bool} {cs tail : List Char} {before text after : String}

theorem rdropWhile_append (all : ∀ c ∈ tail, p c = true) : (cs ++ tail).rdropWhile p = cs.rdropWhile p := by
  have all' : ∀ c ∈ tail.reverse, p c = true := fun c member => all c (List.mem_reverse.mp member)
  rw [List.rdropWhile, List.reverse_append, List.dropWhile_append_of_pos all', List.rdropWhile]

theorem rdropWhile_eq_self (none : ∀ c ∈ cs, p c = false) : cs.rdropWhile p = cs :=
  List.rdropWhile_eq_self_iff.mpr fun some => ne_true_of_eq_false (none _ (List.getLast_mem some))

/-- What trimming leaves stands between blanks. -/
theorem surrounded_trim (text : String) :
    ∃ before after, allBlank before = true ∧ allBlank after = true ∧ text = before ++ trim text ++ after := by
  let rest := text.toList.dropWhile isBlank
  have parts : text.toList = text.toList.takeWhile isBlank ++ (rest.rdropWhile isBlank ++ rest.rtakeWhile isBlank) := by
    rw [List.rdropWhile_append_rtakeWhile, List.takeWhile_append_dropWhile]
  refine ⟨String.ofList (text.toList.takeWhile isBlank), String.ofList (rest.rtakeWhile isBlank), ?_, ?_, ?_⟩
  · rw [allBlank, String.toList_ofList]
    exact List.all_takeWhile
  · rw [allBlank, String.toList_ofList, List.all_eq_true]
    exact fun c => List.mem_rtakeWhile_imp
  · apply String.toList_inj.mp
    rw [String.toList_append, String.toList_append, trim, String.toList_ofList, String.toList_ofList,
      String.toList_ofList, List.append_assoc]
    exact parts

theorem trim_surrounded (blank : allBlank before = true) (blank' : allBlank after = true)
    (solid : ∀ c ∈ text.toList, isBlank c = false) : trim (before ++ text ++ after) = text := by
  rw [allBlank, List.all_eq_true] at blank blank'
  have ending : (text.toList ++ after.toList).rdropWhile isBlank = text.toList := by
    rw [rdropWhile_append blank', rdropWhile_eq_self solid]
  rw [trim, String.toList_append, String.toList_append, List.append_assoc, trimChars,
    List.dropWhile_append_of_pos blank]
  cases found : text.toList with
  | nil =>
    rw [List.nil_append, List.dropWhile_eq_nil_iff.mpr blank', String.toList_eq_nil_iff.mp found]
    rfl
  | cons c cs =>
    have first : isBlank c = false := solid c (found ▸ .head _)
    rw [List.cons_append, List.dropWhile_cons_of_neg (ne_true_of_eq_false first), ← List.cons_append, ← found]
    exact (congrArg String.ofList ending).trans String.ofList_toList

end MarketGateway.Text
