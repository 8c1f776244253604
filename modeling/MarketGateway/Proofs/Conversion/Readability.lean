import MarketGateway.Conversion.Amount
import Mathlib.Data.List.Forall2

/-!
# Readability

A conversion has a result exactly if all that it reads is readable, and gives an error if not. `Converts`
says so of one conversion, and `Converts.bind` and `Converts.mapM` say it of what is put together.
-/

namespace MarketGateway

variable {α β : Type} {readable other : Prop} {right : α → Prop} {after : β → Prop}
  {result : Except Fault α} {f : α → Except Fault β}

/-- The result is a right value if what was read is readable, and an error if not. -/
inductive Converts (readable : Prop) (right : α → Prop) : Except Fault α → Prop where
  | ok {a : α} (fine : readable) (holds : right a) : Converts readable right (.ok a)
  | error {e : ExchangeError} (unreadable : ¬ readable) : Converts readable right (.error (.error e))

theorem toOption_eq_some {a : α} : result.toOption = some a ↔ result = .ok a := by
  cases result <;> simp [Except.toOption]

namespace Converts

theorem of_error {fault : Fault} (converts : Converts readable right (.error fault)) :
    ∃ e, fault = .error e := by
  cases converts with
  | error unreadable => exact ⟨_, rfl⟩

theorem of_toOption {a : α} (converts : Converts readable right result) (made : result.toOption = some a) :
    right a := by
  cases converts with
  | ok fine holds => exact Option.some.inj made ▸ holds
  | error unreadable => cases made

theorem toOption_exists_iff (converts : Converts readable right result) :
    (∃ a, result.toOption = some a) ↔ readable := by
  cases converts with
  | ok fine holds => exact ⟨fun _ => fine, fun _ => ⟨_, rfl⟩⟩
  | error unreadable => exact ⟨nofun, fun fine => (unreadable fine).elim⟩

theorem of_ok {a : α} (converts : Converts readable right result) (made : result = .ok a) : right a := by
  subst made
  exact converts.of_toOption rfl

theorem ok_exists_iff (converts : Converts readable right result) : (∃ a, result = .ok a) ↔ readable := by
  rw [← converts.toOption_exists_iff]
  cases result <;> simp [Except.toOption]

theorem error_exists_iff (converts : Converts readable right result) :
    (∃ e, result = .error (.error e)) ↔ ¬ readable := by
  cases converts with
  | ok fine holds => exact ⟨nofun, fun unreadable => (unreadable fine).elim⟩
  | error unreadable => exact ⟨fun _ => unreadable, fun _ => ⟨_, rfl⟩⟩

theorem of_iff (same : readable ↔ other) (converts : Converts readable right result) :
    Converts other right result := by
  cases converts with
  | ok fine holds => exact .ok (same.mp fine) holds
  | error unreadable => exact .error fun fine => unreadable (same.mpr fine)

theorem imp {other : α → Prop} (converts : Converts readable right result)
    (weaker : ∀ a, right a → other a) : Converts readable other result := by
  cases converts with
  | ok fine holds => exact .ok fine (weaker _ holds)
  | error unreadable => exact .error unreadable

/-! ### Sequences -/

theorem bind (first : Converts readable right result) (rest : ∀ a, right a → Converts other after (f a)) :
    Converts (readable ∧ other) after (result >>= f) := by
  cases first with
  | error unreadable => exact .error fun fine => unreadable fine.1
  | @ok a fine holds => exact (rest a holds).of_iff ⟨fun also => ⟨fine, also⟩, And.right⟩

theorem map {f : α → β} (first : Converts readable right result) (rest : ∀ a, right a → after (f a)) :
    Converts readable after (result >>= fun a => pure (f a)) := by
  cases first with
  | error unreadable => exact .error unreadable
  | ok fine holds => exact .ok fine (rest _ holds)

/-- A list is converted one by one and in its order, or not at all. -/
theorem mapM {R : α → β → Prop} {readable : α → Prop} {l : List α}
    (each : ∀ a, Converts (readable a) (R a) (f a)) :
    Converts (∀ a ∈ l, readable a) (List.Forall₂ R l) (l.mapM f) := by
  induction l with
  | nil => exact .ok nofun .nil
  | cons a l ih =>
    rw [List.mapM_cons]
    have both : Converts (readable a ∧ ∀ b ∈ l, readable b) (List.Forall₂ R (a :: l)) (do
        let first ← f a
        let rest ← l.mapM f
        return first :: rest) :=
      (each a).bind fun b first => ih.map fun bs rest => .cons first rest
    exact both.of_iff List.forall_mem_cons.symm

end Converts

/-! ### Decimals -/

def IsDecimal (text : String) : Prop := ∃ d, Decimal.ofText text = .ok d

theorem decimal_converts (text : String) (cause : Decimal.ReadError → ExchangeError) :
    Converts (IsDecimal text) (fun d => Decimal.ofText text = .ok d)
      ((Decimal.ofText text).mapError fun e => .error (cause e)) := by
  cases read : Decimal.ofText text with
  | ok d => exact .ok ⟨d, read⟩ rfl
  | error e =>
    refine .error fun isDecimal => ?_
    obtain ⟨d, same⟩ := isDecimal
    cases read.symm.trans same

end MarketGateway
