import MarketGateway.Proofs.Conversion.Amounts
import MarketGateway.Proofs.Decimal.Range
import MarketGateway.Proofs.Runs

/-!
# Arithmetic without a result

A conversion that computes may come to a number that is no decimal. `Overflows` says so of its result,
and the rules here say when a sequence of steps does.
-/

namespace MarketGateway

variable {α β : Type} {readable other : Prop} {right : α → Prop} {after : β → Prop}
  {result : Except Fault α} {f : α → Except Fault β}

def Overflows (result : Except Fault α) : Prop := ∃ overflow, result = .error (.overflow overflow)

@[simp] theorem not_overflows_ok (a : α) : ¬ Overflows (.ok a) := nofun

@[simp] theorem not_overflows_error (e : ExchangeError) : ¬ Overflows (α := α) (.error (.error e)) := nofun

@[simp] theorem not_overflows_pure (a : α) : ¬ Overflows (pure a) := nofun

theorem Converts.not_overflows (converts : Converts readable right result) : ¬ Overflows result := by
  cases converts with
  | ok fine holds => exact not_overflows_ok _
  | error unreadable => exact not_overflows_error _

/-! ### Sequences -/

theorem overflows_bind :
    Overflows (result >>= f) ↔ Overflows result ∨ ∃ a, result = .ok a ∧ Overflows (f a) := by
  cases result with
  | ok a =>
    constructor
    · exact fun later => .inr ⟨a, rfl, later⟩
    · rintro (first | ⟨_, same, later⟩)
      · cases not_overflows_ok a first
      · cases same
        exact later
  | error fault =>
    constructor
    · rintro ⟨overflow, same⟩
      cases same
      exact .inl ⟨overflow, rfl⟩
    · rintro (⟨overflow, same⟩ | ⟨_, same, -⟩)
      · cases same
        exact ⟨overflow, rfl⟩
      · cases same

theorem overflows_map {g : α → β} : Overflows (result.map g) ↔ Overflows result := by
  cases result with
  | ok a => exact ⟨nofun, nofun⟩
  | error fault => simp [Except.map, Overflows]

/-- A sequence of steps overflows at the first step that does. -/
theorem overflows_foldlM {step : β → α → Except Fault β} {l : List α} {start : β} :
    Overflows (l.foldlM step start) ↔
      ∃ before a after reached, l = before ++ a :: after ∧
        before.foldlM step start = .ok reached ∧ Overflows (step reached a) := by
  -- A step that goes well hands its result on as the start of the others.
  induction l generalizing start with
  | nil =>
    constructor
    · exact fun none => (not_overflows_ok _ none).elim
    · rintro ⟨before, a, after, -, split, -⟩
      simp at split
  | cons a l ih =>
    rw [List.foldlM_cons, overflows_bind]
    constructor
    · rintro (here | ⟨middle, stepped, later⟩)
      · exact ⟨[], a, l, start, rfl, rfl, here⟩
      · obtain ⟨before, b, after, reached, rfl, run, there⟩ := ih.mp later
        exact ⟨a :: before, b, after, reached, rfl, bind_eq_ok.mpr ⟨middle, stepped, run⟩, there⟩
    · rintro ⟨before, b, after, reached, split, run, there⟩
      cases before with
      | nil =>
        obtain ⟨rfl, rfl⟩ := List.cons.inj split
        cases run
        exact .inl there
      | cons first before =>
        obtain ⟨rfl, rfl⟩ := List.cons.inj split
        rw [List.foldlM_cons] at run
        obtain ⟨middle, stepped, rest⟩ := bind_eq_ok.mp run
        exact .inr ⟨middle, stepped, ih.mpr ⟨before, b, after, reached, rfl, rest, there⟩⟩

/-- Steps of which none overflows convert what they read if each of them does. -/
theorem Converts.bind_of_fits (fits : ¬ Overflows (result >>= f))
    (first : ¬ Overflows result → Converts readable right result)
    (rest : ∀ a, right a → ¬ Overflows (f a) → Converts other after (f a)) :
    Converts (readable ∧ other) after (result >>= f) := by
  rw [overflows_bind, not_or] at fits
  cases first fits.1 with
  | error unreadable => exact .error fun fine => unreadable fine.1
  | @ok a fine holds =>
    have later : ¬ Overflows (f a) := fun exceeds => fits.2 ⟨a, rfl, exceeds⟩
    exact (rest a holds later).of_iff ⟨fun also => ⟨fine, also⟩, And.right⟩

/-- A list is taken in element by element; `taken` says what those so far have come to. -/
theorem Converts.foldlM {readable : α → Prop} {step : β → α → Except Fault β} {start : β}
    {l : List α} (taken : List α → β → Prop) (fits : ¬ Overflows (l.foldlM step start))
    (begun : taken [] start)
    (each : ∀ before a later reached, l = before ++ a :: later → taken before reached →
      ¬ Overflows (step reached a) → Converts (readable a) (taken (before ++ [a])) (step reached a)) :
    Converts (∀ a ∈ l, readable a) (taken l) (l.foldlM step start) := by
  have onward : ∀ later before reached, l = before ++ later → taken before reached →
      ¬ Overflows (later.foldlM step reached) →
      Converts (∀ a ∈ later, readable a) (taken l) (later.foldlM step reached) := by
    intro later
    induction later with
    | nil =>
      intro before reached split holds _
      rw [split, List.append_nil]
      exact .ok nofun holds
    | cons a later ih =>
      intro before reached split holds fits
      rw [List.foldlM_cons] at fits ⊢
      have both := Converts.bind_of_fits fits (each before a later reached split holds)
        fun next holds fits => ih (before ++ [a]) next (by simp [split]) holds fits
      exact both.of_iff List.forall_mem_cons.symm
  exact onward l [] start rfl begun fits

/-- What every step keeps holds at the end, if it comes to that. -/
theorem foldlM_invariant {step : β → α → Except Fault β} {start final : β} {l : List α}
    (holds : β → Prop) (ran : l.foldlM step start = .ok final) (begun : holds start)
    (kept : ∀ a ∈ l, ∀ reached next, holds reached → step reached a = .ok next → holds next) :
    holds final := by
  induction l generalizing start with
  | nil =>
    obtain rfl := Except.ok.inj ran
    exact begun
  | cons a l ih =>
    obtain ⟨here, later⟩ := List.forall_mem_cons.mp kept
    rw [List.foldlM_cons] at ran
    obtain ⟨next, stepped, rest⟩ := bind_eq_ok.mp ran
    exact ih rest (here start next begun stepped) later

/-! ### Arithmetic -/

namespace Conversion

theorem amount_not_overflows (field text : String) : ¬ Overflows (amount field text) :=
  (amount_converts field text).not_overflows

theorem amountOr_not_overflows (default : Decimal) (field : String) (written : Option String) :
    ¬ Overflows (amountOr default field written) :=
  (amountOr_converts default field written).not_overflows

theorem overflows_elim {computed : Option Decimal} (overflow : Overflow) :
    Overflows (computed.elim (.error (.overflow overflow)) .ok) ↔ computed = none := by
  cases computed with
  | none => exact ⟨fun _ => rfl, fun _ => ⟨overflow, rfl⟩⟩
  | some d => exact ⟨fun none => (not_overflows_ok d none).elim, nofun⟩

theorem overflows_product (a b : Decimal) :
    Overflows (product a b) ↔ Decimal.IsTooLarge (a.toRat * b.toRat) := by
  rw [product, overflows_elim, Decimal.mul_eq_none_iff]

theorem overflows_sum (a b : Decimal) :
    Overflows (sum a b) ↔ Decimal.IsTooLarge (a.toRat + b.toRat) := by
  rw [sum, overflows_elim, Decimal.add_eq_none_iff]

theorem overflows_difference (a b : Decimal) :
    Overflows (difference a b) ↔ Decimal.IsTooLarge (a.toRat - b.toRat) := by
  rw [difference, overflows_elim, Decimal.sub_eq_none_iff]

theorem sum_eq_ok {a b d : Decimal} : sum a b = .ok d ↔ a.add b = some d := by
  unfold sum
  cases a.add b <;> simp

theorem difference_eq_ok {a b d : Decimal} : difference a b = .ok d ↔ a.sub b = some d := by
  unfold difference
  cases a.sub b <;> simp

theorem exists_of_not_overflows_elim {computed : Option Decimal} {overflow : Overflow}
    (fits : ¬ Overflows (computed.elim (.error (.overflow overflow)) .ok)) :
    ∃ d, computed = some d :=
  Option.ne_none_iff_exists'.mp (mt (overflows_elim overflow).mpr fits)

end Conversion

end MarketGateway
