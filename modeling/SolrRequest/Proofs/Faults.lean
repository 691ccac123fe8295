/-!
# Results that may be faults

Steps have a result exactly if each of them has one.
-/

namespace SolrRequest

universe u v

variable {ε : Type u} {α β : Type v}

theorem bind_eq_ok {x : Except ε α} {f : α → Except ε β} {b : β} :
    x >>= f = .ok b ↔ ∃ a, x = .ok a ∧ f a = .ok b := by
  cases x with
  | error e =>
    constructor
    · intro result
      cases result
    · rintro ⟨_, value, _⟩
      cases value
  | ok a =>
    constructor
    · intro result
      exact ⟨a, rfl, result⟩
    · rintro ⟨_, value, result⟩
      cases value
      exact result

theorem map_eq_ok {x : Except ε α} {f : α → β} {b : β} :
    x.map f = .ok b ↔ ∃ a, x = .ok a ∧ f a = b := by
  cases x <;> simp [Except.map]

theorem map_eq_error {x : Except ε α} {f : α → β} {e : ε} :
    x.map f = .error e ↔ x = .error e := by
  cases x <;> simp [Except.map]

theorem exists_ok_iff {x : Except ε α} : (∃ a, x = .ok a) ↔ ∀ e, x ≠ .error e := by
  cases x <;> simp

theorem exists_ok_of_toBool {x : Except ε α} (holds : x.toBool = true) : ∃ a, x = .ok a := by
  cases x with
  | error e => cases holds
  | ok a => exact ⟨a, rfl⟩

theorem eq_ok_of_toOption {x : Except ε α} {a : α} (holds : x.toOption = some a) : x = .ok a := by
  cases x with
  | error e => cases holds
  | ok b => exact congrArg Except.ok (Option.some.inj holds)

theorem mapError_bind_of_eq_ok {δ : Type u} {x : Except δ α} {a : α} (g : δ → ε)
    (f : α → Except ε β) (value : x = .ok a) : x.mapError g >>= f = f a := by
  rw [value]
  rfl

theorem bind_eq_error {x : Except ε α} {f : α → Except ε β} {e : ε} :
    x >>= f = .error e ↔ x = .error e ∨ ∃ a, x = .ok a ∧ f a = .error e := by
  cases x with
  | error other =>
    constructor
    · intro result
      exact .inl (congrArg Except.error (Except.error.inj result))
    · rintro (fault | ⟨_, value, _⟩)
      · cases fault
        rfl
      · cases value
  | ok a =>
    constructor
    · intro result
      exact .inr ⟨a, rfl, result⟩
    · rintro (fault | ⟨_, value, result⟩)
      · cases fault
      · cases value
        exact result

end SolrRequest
