/-!
Outcomes that may be faults. The laws say when an outcome is a value and when it is a fault if it is
changed as a value, changed as a fault, or followed by another one, so that no proof has to look into
a chain of outcomes by cases.
-/

namespace DocQuery

variable {ε ε' α β : Type}

theorem toOption_eq_some_iff {result : Except ε α} {value : α} :
    result.toOption = some value ↔ result = .ok value := by
  cases result <;> simp [Except.toOption]

section Values

variable {f : α → β} {result : Except ε α}

theorem map_eq_ok_iff {value : β} :
    result.map f = .ok value ↔ ∃ first, result = .ok first ∧ f first = value := by
  cases result <;> simp [Except.map]

theorem map_eq_error_iff {error : ε} : result.map f = .error error ↔ result = .error error := by
  cases result <;> simp [Except.map]

end Values

section Faults

variable {change : ε → ε'} {result : Except ε α}

@[simp] theorem mapError_ok (change : ε → ε') (value : α) :
    (Except.ok value).mapError change = .ok value := rfl

@[simp] theorem mapError_error (change : ε → ε') (error : ε) :
    (Except.error error : Except ε α).mapError change = .error (change error) := rfl

theorem mapError_eq_ok_iff {value : α} :
    result.mapError change = .ok value ↔ result = .ok value := by
  cases result <;> simp

theorem mapError_eq_error_iff {error : ε'} :
    result.mapError change = .error error ↔
      ∃ inner, result = .error inner ∧ change inner = error := by
  cases result <;> simp

end Faults

section Chains

variable {result : Except ε α} {next : α → Except ε β}

@[simp] theorem ok_bind (value : α) (next : α → Except ε β) :
    (Except.ok value >>= next) = next value := rfl

@[simp] theorem error_bind (error : ε) (next : α → Except ε β) :
    (Except.error error >>= next) = .error error := rfl

theorem bind_eq_ok_iff {value : β} :
    result >>= next = .ok value ↔ ∃ first, result = .ok first ∧ next first = .ok value := by
  cases result <;> simp

/-- The first fault of a chain is the fault of the whole. -/
theorem bind_eq_error_iff {error : ε} :
    result >>= next = .error error ↔
      result = .error error ∨ ∃ first, result = .ok first ∧ next first = .error error := by
  cases result <;> simp

theorem mapError_map (change : ε → ε') (f : α → β) (result : Except ε α) :
    (result.map f).mapError change = (result.mapError change).map f := by
  cases result <;> rfl

theorem mapError_bind (change : ε → ε') (result : Except ε α) (next : α → Except ε β) :
    (result >>= next).mapError change =
      result.mapError change >>= fun value => (next value).mapError change := by
  cases result <;> rfl

end Chains

end DocQuery
