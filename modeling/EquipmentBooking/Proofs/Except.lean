namespace EquipmentBooking

variable {ε ε' α β : Type}

theorem bind_eq_ok {x : Except ε α} {f : α → Except ε β} {b : β} :
    (x >>= f) = .ok b ↔ ∃ a, x = .ok a ∧ f a = .ok b := by
  cases x <;> simp [bind, Except.bind]

theorem map_eq_ok {x : Except ε α} {f : α → β} {b : β} :
    x.map f = .ok b ↔ ∃ a, x = .ok a ∧ f a = b := by
  cases x <;> simp [Except.map]

/-- An error in other words is an error still. -/
theorem mapError_eq_ok {x : Except ε α} {f : ε → ε'} {a : α} :
    x.mapError f = .ok a ↔ x = .ok a := by
  cases x with
  | error issue =>
      change Except.error (f issue) = Except.ok a ↔ _
      simp
  | ok b =>
      change (Except.ok b : Except ε' α) = Except.ok a ↔ _
      simp

theorem mapError_eq_error {x : Except ε α} {f : ε → ε'} {issue : ε'} :
    x.mapError f = .error issue ↔ ∃ cause, x = .error cause ∧ f cause = issue := by
  cases x with
  | error cause =>
      change Except.error (f cause) = Except.error issue ↔ _
      simp
  | ok a =>
      change (Except.ok a : Except ε' α) = Except.error issue ↔ _
      simp

theorem not_exists_ok {x : Except ε α} : (¬ ∃ a, x = .ok a) ↔ ∃ issue, x = .error issue := by
  cases x <;> simp

end EquipmentBooking
