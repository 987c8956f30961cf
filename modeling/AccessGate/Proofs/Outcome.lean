/-!
# Outcomes

How a calculation that may fail goes on, once it is known how its first step ended.  The lemmas
rewrite before anything is unfolded, so that what follows the first step stays folded.
-/

namespace AccessGate

variable {ε ε' α β : Type}

@[simp] theorem ok_bind (value : α) (next : α → Except ε β) :
    (Except.ok value >>= next) = next value :=
  rfl

@[simp] theorem error_bind (failure : ε) (next : α → Except ε β) :
    (Except.error failure >>= next) = .error failure :=
  rfl

@[simp] theorem mapError_ok (value : α) (change : ε → ε') :
    (Except.ok value).mapError change = .ok value :=
  rfl

@[simp] theorem mapError_error (failure : ε) (change : ε → ε') :
    (Except.error failure : Except ε α).mapError change = .error (change failure) :=
  rfl

theorem mapError_eq_ok {outcome : Except ε α} {change : ε → ε'} {value : α} :
    outcome.mapError change = .ok value ↔ outcome = .ok value := by
  cases outcome <;> simp

theorem map_eq_ok {outcome : Except ε α} {change : α → β} {result : β} :
    outcome.map change = .ok result ↔ ∃ value, outcome = .ok value ∧ change value = result := by
  cases outcome <;> simp [Except.map]

/-- A calculation in two steps returns if the first step returns and then the second one does. -/
theorem bind_eq_ok {first : Except ε α} {next : α → Except ε β} {result : β} :
    first >>= next = .ok result ↔ ∃ value, first = .ok value ∧ next value = .ok result := by
  cases first <;> simp

end AccessGate
