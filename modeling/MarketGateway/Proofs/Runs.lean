/-!
# Runs

A run makes one step after the other, and ends where one cannot be made. What is proved of it is proved
by `induction`, which looks at the states from the first to the last.
-/

namespace MarketGateway

/-- Two steps have a result if the first one has, and the second one from there. -/
theorem bind_eq_ok {ε α β : Type} {x : Except ε α} {f : α → Except ε β} {b : β} :
    x >>= f = .ok b ↔ ∃ a, x = .ok a ∧ f a = .ok b := by
  cases x with
  | ok a => simp [bind, Except.bind]
  | error e => simp [bind, Except.bind]

namespace Runs

variable {σ ε : Type} {step : σ → ε → Option σ} {s middle final : σ} {e : ε} {events later : List ε}

theorem cons_eq_some (ran : (e :: events).foldlM step s = some final) :
    ∃ next, step s e = some next ∧ events.foldlM step next = some final :=
  Option.bind_eq_some_iff.mp ran

/-- What holds before the first event and is kept by every step holds after every run; it may speak of
the events so far. -/
theorem induction {motive : List ε → σ → Prop} (ran : events.foldlM step s = some final)
    (start : motive [] s)
    (kept : ∀ before s e next, motive before s → step s e = some next → motive (before ++ [e]) next) :
    motive events final := by
  have later : ∀ before s, motive before s → events.foldlM step s = some final →
      motive (before ++ events) final := by
    clear ran start
    induction events with
    | nil =>
      intro before s holds ran
      obtain rfl := Option.some.inj ran
      rwa [List.append_nil]
    | cons e events ih =>
      intro before s holds ran
      obtain ⟨next, stepped, rest⟩ := cons_eq_some ran
      have after := ih (before ++ [e]) next (kept before s e next holds stepped) rest
      rwa [List.append_assoc] at after
  exact later [] s start ran

end Runs
end MarketGateway
