import MarketGateway.Proofs.Sorting
import MarketGateway.Signing.Message

/-!
# What a signed message stands for

Two requests have the same signed text exactly when they have the same instruction, time and window,
and give every key the same values in the same order. The main statement is `message_identifies`.
-/

namespace MarketGateway.Signing

/-- The values that are given for a key, in their order. -/
def valuesOf (key : String) (params : List (String × String)) : List String :=
  (params.filter fun p => p.1 == key).map Prod.snd

/-- No text holds a separator where it would be read as one. -/
structure Plain (instruction : String) (params : List (String × String)) : Prop where
  instruction : '&' ∉ instruction.toList
  keys : ∀ p ∈ params, '&' ∉ p.1.toList ∧ '=' ∉ p.1.toList
  values : ∀ p ∈ params, '&' ∉ p.2.toList

/-! ### Sorting -/

theorem keys_trans (a b c : String × String) (ab : decide (a.1 ≤ b.1) = true)
    (bc : decide (b.1 ≤ c.1) = true) : decide (a.1 ≤ c.1) = true := by
  simp only [decide_eq_true_eq] at ab bc ⊢
  exact String.le_trans ab bc

theorem keys_total (a b : String × String) : (decide (a.1 ≤ b.1) || decide (b.1 ≤ a.1)) = true := by
  simp only [Bool.or_eq_true, decide_eq_true_eq]
  exact String.le_total a.1 b.1

theorem sortParams_sorted (params : List (String × String)) :
    (sortParams params).Pairwise fun a b => a.1 ≤ b.1 := by
  have sorted := List.pairwise_mergeSort keys_trans keys_total params
  exact sorted.imp fun le => of_decide_eq_true le

theorem sortParams_perm (params : List (String × String)) : (sortParams params).Perm params :=
  List.mergeSort_perm _ _

/-- Sorting is stable: what is given for one key keeps its order. -/
theorem sortParams_filter (key : String) (params : List (String × String)) :
    (sortParams params).filter (fun p => p.1 == key) = params.filter fun p => p.1 == key := by
  refine Sorting.filter_mergeSort keys_trans keys_total (fun a b keyA keyB => ?_) params
  simp [beq_iff_eq.mp keyA, beq_iff_eq.mp keyB]

theorem valuesOf_sortParams (key : String) (params : List (String × String)) :
    valuesOf key (sortParams params) = valuesOf key params := by
  rw [valuesOf, sortParams_filter, valuesOf]

theorem valuesOf_head (p : String × String) (params : List (String × String)) :
    valuesOf p.1 (p :: params) ≠ [] := by
  simp [valuesOf]

/-- The first key of a sorted list is the least one that has a value. -/
theorem head_least {a : String × String} {s : List (String × String)} {key : String}
    (sorted : (a :: s).Pairwise fun a b => a.1 ≤ b.1) (given : valuesOf key (a :: s) ≠ []) :
    a.1 ≤ key := by
  obtain ⟨p, member⟩ := List.exists_mem_of_ne_nil _ (mt List.map_eq_nil_iff.mpr given)
  obtain ⟨listed, same⟩ := List.mem_filter.mp member
  obtain rfl := beq_iff_eq.mp same
  rcases List.mem_cons.mp listed with rfl | later
  · exact String.le_refl _
  · exact (List.pairwise_cons.mp sorted).1 p later

/-- A sorted list is known by the values of each key. -/
theorem sorted_ext {s t : List (String × String)} (sorted : s.Pairwise fun a b => a.1 ≤ b.1)
    (sorted' : t.Pairwise fun a b => a.1 ≤ b.1) (same : ∀ key, valuesOf key s = valuesOf key t) :
    s = t := by
  induction s generalizing t with
  | nil =>
    cases t with
    | nil => rfl
    | cons b t =>
      have := same b.1
      simp [valuesOf] at this
  | cons a s ih =>
    cases t with
    | nil =>
      have := same a.1
      simp [valuesOf] at this
    | cons b t =>
      have least : a.1 ≤ b.1 := head_least sorted (same b.1 ▸ valuesOf_head b t)
      have least' : b.1 ≤ a.1 := head_least sorted' ((same a.1).symm ▸ valuesOf_head a s)
      have key : a.1 = b.1 := String.le_antisymm least least'
      have first := same a.1
      simp only [valuesOf, List.filter_cons, key, beq_self_eq_true, if_true, List.map_cons,
        List.cons.injEq] at first
      obtain rfl : a = b := Prod.ext key first.1
      congr 1
      refine ih (List.pairwise_cons.mp sorted).2 (List.pairwise_cons.mp sorted').2 fun k => ?_
      have both := same k
      simp only [valuesOf, List.filter_cons] at both ⊢
      split at both
      · simpa using both
      · exact both

/-! ### Reading the text back -/

theorem toList_field (key value : String) :
    (field key value).toList = key.toList ++ '=' :: value.toList := by
  simp [field]

/-- A field is known by its text: its key ends at the first `=`. -/
theorem field_inj {key key' value value' : String} (plain : '=' ∉ key.toList)
    (plain' : '=' ∉ key'.toList) (h : field key value = field key' value') :
    key = key' ∧ value = value' := by
  have text := congrArg String.toList h
  rw [toList_field, toList_field] at text
  have keys : ∀ k v : List Char, '=' ∉ k → (k ++ '=' :: v).takeWhile (· != '=') = k := by
    intro k v absent
    rw [List.takeWhile_append_of_pos]
    · simp
    · intro c member
      simpa using fun same : c = '=' => absent (same ▸ member)
  have same := congrArg (List.takeWhile (· != '=')) text
  rw [keys _ _ plain, keys _ _ plain'] at same
  rw [same, List.append_cancel_left_eq, List.cons.injEq] at text
  exact ⟨String.toList_inj.mp same, String.toList_inj.mp text.2⟩

theorem map_field_inj {s t : List (String × String)} (plain : ∀ p ∈ s, '=' ∉ p.1.toList)
    (plain' : ∀ p ∈ t, '=' ∉ p.1.toList)
    (h : s.map (fun p => field p.1 p.2) = t.map fun p => field p.1 p.2) : s = t := by
  induction s generalizing t with
  | nil => exact (List.map_eq_nil_iff.mp h.symm).symm
  | cons a s ih =>
    cases t with
    | nil => cases h
    | cons b t =>
      rw [List.map_cons, List.map_cons, List.cons.injEq] at h
      obtain ⟨key, value⟩ := field_inj (plain a (by simp)) (plain' b (by simp)) h.1
      rw [Prod.ext key value, ih (fun p member => plain p (by simp [member]))
        (fun p member => plain' p (by simp [member])) h.2]

def fields (instruction : String) (params : List (String × String)) (timestamp window : Nat) :
    List String :=
  field "instruction" instruction :: (sortParams params).map (fun p => field p.1 p.2) ++
    [field "timestamp" (toString timestamp), field "window" (toString window)]

theorem digits_plain (n : Nat) : '&' ∉ (toString n).toList := by
  intro member
  rw [Nat.toString_eq_ofList_toDigits, String.toList_ofList] at member
  have digit := Nat.isDigit_of_mem_toDigits (by decide) (by decide) member
  exact absurd digit (by decide)

theorem toString_inj {n m : Nat} (h : toString n = toString m) : n = m := by
  rw [Nat.toString_eq_ofList_toDigits, Nat.toString_eq_ofList_toDigits] at h
  have digits := String.ofList_inj.mp h
  rw [← Nat.ofDigitChars_ten_toDigits (n := n), digits, Nat.ofDigitChars_ten_toDigits]

theorem fields_plain {instruction : String} {params : List (String × String)}
    (plain : Plain instruction params) (timestamp window : Nat) :
    ∀ text ∈ fields instruction params timestamp window, '&' ∉ text.toList := by
  have joined : ∀ key value : String, '&' ∉ key.toList → '&' ∉ value.toList →
      '&' ∉ (field key value).toList := by
    intro key value first second
    simp [toList_field, first, second]
  intro text member
  simp only [fields, List.cons_append, List.mem_cons, List.mem_append, List.mem_map,
    List.not_mem_nil, or_false] at member
  rcases member with rfl | ⟨p, given, rfl⟩ | rfl | rfl
  · exact joined _ _ (by decide) plain.instruction
  · have given := (sortParams_perm params).mem_iff.mp given
    exact joined _ _ (plain.keys p given).1 (plain.values p given)
  · exact joined _ _ (by decide) (digits_plain timestamp)
  · exact joined _ _ (by decide) (digits_plain window)

theorem fields_of_message {i i' : String} {p p' : List (String × String)} {t t' w w' : Nat}
    (plain : Plain i p) (plain' : Plain i' p') (h : message i p t w = message i' p' t' w') :
    fields i p t w = fields i' p' t' w' := by
  have split : ∀ texts : List String, texts ≠ [] → (∀ text ∈ texts, '&' ∉ text.toList) →
      ("&".intercalate texts).toList.splitOn '&' = texts.map String.toList := by
    intro texts some plain
    rw [String.toList_intercalate]
    refine List.splitOn_intercalate '&' ?_ (by simpa using some)
    intro letters member
    obtain ⟨text, given, rfl⟩ := List.mem_map.mp member
    exact plain text given
  have texts := congrArg (fun text => text.toList.splitOn '&') h
  change ("&".intercalate (fields i p t w)).toList.splitOn '&' =
    ("&".intercalate (fields i' p' t' w')).toList.splitOn '&' at texts
  rw [split _ (by simp [fields]) (fields_plain plain t w),
    split _ (by simp [fields]) (fields_plain plain' t' w')] at texts
  exact List.map_inj_right (fun _ _ => String.toList_inj.mp) |>.mp texts

/-! ### Identity -/

/-- Both directions: what a text stands for, and what it does not show. -/
theorem message_identifies :
    (∀ (i : String) (p p' : List (String × String)) (t w : Nat),
      (∀ key, valuesOf key p = valuesOf key p') → message i p t w = message i p' t w) ∧
    (∀ (i i' : String) (p p' : List (String × String)) (t t' w w' : Nat),
      Plain i p → Plain i' p' →
      (message i p t w = message i' p' t' w' ↔
        i = i' ∧ t = t' ∧ w = w' ∧ ∀ key, valuesOf key p = valuesOf key p')) ∧
    (∀ (i : String) (before after : List (String × String)) (a b : String × String) (t w : Nat),
      a.1 ≠ b.1 →
      message i (before ++ a :: b :: after) t w = message i (before ++ b :: a :: after) t w) := by
  have determined : ∀ (i : String) (p p' : List (String × String)) (t w : Nat),
      (∀ key, valuesOf key p = valuesOf key p') → message i p t w = message i p' t w := by
    intro i p p' t w same
    have sorted : sortParams p = sortParams p' := by
      refine sorted_ext (sortParams_sorted p) (sortParams_sorted p') fun key => ?_
      rw [valuesOf_sortParams, valuesOf_sortParams, same]
    rw [message, message, sorted]
  refine ⟨determined, ?_, ?_⟩
  · intro i i' p p' t t' w w' plain plain'
    constructor
    · intro h
      have texts := fields_of_message plain plain' h
      simp only [fields, List.cons_append, List.cons.injEq] at texts
      obtain ⟨first, rest⟩ := texts
      obtain ⟨middle, last⟩ := List.append_inj' rest rfl
      simp only [List.cons.injEq, and_true] at last
      have params : sortParams p = sortParams p' :=
        map_field_inj
          (fun q member => (plain.keys q ((sortParams_perm p).mem_iff.mp member)).2)
          (fun q member => (plain'.keys q ((sortParams_perm p').mem_iff.mp member)).2) middle
      refine ⟨(field_inj (by decide) (by decide) first).2,
        toString_inj (field_inj (by decide) (by decide) last.1).2,
        toString_inj (field_inj (by decide) (by decide) last.2).2, fun key => ?_⟩
      rw [← valuesOf_sortParams, params, valuesOf_sortParams]
    · rintro ⟨rfl, rfl, rfl, same⟩
      exact determined i p p' t w same
  · intro i before after a b t w different
    refine determined i _ _ t w fun key => ?_
    simp only [valuesOf, List.filter_append, List.filter_cons]
    split <;> split <;> simp_all

/-- A key may have the name of a later field and values may hold `=`, but the order of the values of
one key shows. -/
theorem message_identifies_repeated_key :
    let once := [("timestamp", "1"), ("ids", "x=1"), ("ids", "2")]
    let moved := [("ids", "x=1"), ("ids", "2"), ("timestamp", "1")]
    let turned := [("timestamp", "1"), ("ids", "2"), ("ids", "x=1")]
    Plain "orderExecute" once ∧ Plain "orderExecute" moved ∧ Plain "orderExecute" turned ∧
      message "orderExecute" once 1 5000 = message "orderExecute" moved 1 5000 ∧
      message "orderExecute" once 1 5000 ≠ message "orderExecute" turned 1 5000 := by
  intro once moved turned
  have plain : Plain "orderExecute" once := ⟨by decide, by decide, by decide⟩
  have plain' : Plain "orderExecute" turned := ⟨by decide, by decide, by decide⟩
  refine ⟨plain, ⟨by decide, by decide, by decide⟩, plain', ?_, fun h => ?_⟩
  · have first := message_identifies.2.2 "orderExecute" [] [("ids", "2")] ("timestamp", "1")
      ("ids", "x=1") 1 5000 (by decide)
    have second := message_identifies.2.2 "orderExecute" [("ids", "x=1")] [] ("timestamp", "1")
      ("ids", "2") 1 5000 (by decide)
    exact first.trans second
  · have same := ((message_identifies.2.1 _ _ once turned 1 1 5000 5000 plain plain').mp h).2.2.2 "ids"
    exact absurd same (by decide)

end MarketGateway.Signing
