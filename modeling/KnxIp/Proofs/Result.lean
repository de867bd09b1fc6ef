/-
  Results that may be faults: when a chain of readings ends well.
-/

namespace KnxIp

theorem map_eq_ok_iff {ε α β : Type} {f : α → β} {r : Except ε α} {b : β} :
    r.map f = .ok b ↔ ∃ a, r = .ok a ∧ f a = b := by
  cases r <;> simp [Except.map]

theorem bind_eq_ok_iff {ε α β : Type} {f : α → Except ε β} {r : Except ε α} {b : β} :
    r >>= f = .ok b ↔ ∃ a, r = .ok a ∧ f a = .ok b := by
  cases r <;> simp [bind, Except.bind]

theorem bind_eq_error_iff {ε α β : Type} {f : α → Except ε β} {r : Except ε α} {e : ε} :
    r >>= f = .error e ↔ r = .error e ∨ ∃ a, r = .ok a ∧ f a = .error e := by
  cases r <;> simp [bind, Except.bind]

theorem ite_error_eq_ok_iff {ε α : Type} {p : Prop} [Decidable p] {e : ε} {x a : α} :
    (if p then .error e else .ok x : Except ε α) = .ok a ↔ ¬ p ∧ x = a := by
  by_cases h : p <;> simp [h]

theorem toOption_eq_some_iff {ε α : Type} {r : Except ε α} {a : α} :
    r.toOption = some a ↔ r = .ok a := by
  cases r <;> simp [Except.toOption]

end KnxIp
