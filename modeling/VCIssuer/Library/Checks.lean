import Mathlib.Logic.Basic

/-!
# Chains of checks

A chain of checks in `Except` succeeds exactly when every check passes.  The
lemmas take one link at a time off a chain that is known to have succeeded.
-/

namespace VCIssuer.Library.Checks

variable {ε α β : Type}

def rejectIf (condition : Prop) [Decidable condition] (failure : ε) : Except ε Unit :=
  if condition then .error failure else .ok ()

def okOr (found : Option α) (failure : ε) : Except ε α :=
  match found with
  | some value => .ok value
  | none => .error failure

theorem bind_eq_ok (first : Except ε α) (next : α → Except ε β) (value : β) :
    (first >>= next) = .ok value ↔ ∃ a, first = .ok a ∧ next a = .ok value := by
  cases first with
  | error failure =>
      constructor
      · intro impossible; cases impossible
      · rintro ⟨_, impossible, _⟩; cases impossible
  | ok a =>
      constructor
      · intro succeeded
        exact ⟨a, rfl, succeeded⟩
      · rintro ⟨_, same, succeeded⟩
        cases same
        exact succeeded

theorem check_bind_eq_ok (check : Except ε Unit) (next : Unit → Except ε β) (value : β) :
    (check >>= next) = .ok value ↔ check = .ok () ∧ next () = .ok value := by
  rw [bind_eq_ok]
  exact ⟨fun ⟨(), passed, succeeded⟩ => ⟨passed, succeeded⟩, fun ⟨passed, succeeded⟩ =>
    ⟨(), passed, succeeded⟩⟩

@[simp]
theorem rejectIf_bind_eq_ok (condition : Prop) [Decidable condition] (failure : ε)
    (next : Unit → Except ε β) (value : β) :
    (rejectIf condition failure >>= next) = .ok value ↔ ¬ condition ∧ next () = .ok value := by
  rw [bind_eq_ok]
  unfold rejectIf
  by_cases held : condition
  · simp [held]
  · rw [if_neg held]
    exact ⟨fun ⟨(), _, succeeded⟩ => ⟨held, succeeded⟩, fun ⟨_, succeeded⟩ => ⟨(), rfl, succeeded⟩⟩

@[simp]
theorem rejectIf_eq_ok (condition : Prop) [Decidable condition] (failure : ε) (done : Unit) :
    rejectIf condition failure = .ok done ↔ ¬ condition := by
  unfold rejectIf
  by_cases held : condition
  · simp [held]
  · simp [held]

@[simp]
theorem okOr_eq_ok (found : Option α) (failure : ε) (value : α) :
    okOr found failure = .ok value ↔ found = some value := by
  cases found <;> simp [okOr]

@[simp]
theorem okOr_bind_eq_ok (found : Option α) (failure : ε) (next : α → Except ε β) (value : β) :
    (okOr found failure >>= next) = .ok value ↔ ∃ a, found = some a ∧ next a = .ok value := by
  rw [bind_eq_ok]
  simp only [okOr_eq_ok]

@[simp]
theorem okOr_some_bind (a : α) (failure : ε) (next : α → Except ε β) :
    (okOr (some a) failure >>= next) = next a :=
  rfl

@[simp]
theorem rejectIf_bind_eq_error (condition : Prop) [Decidable condition] (failure reason : ε)
    (next : Unit → Except ε β) :
    (rejectIf condition failure >>= next) = .error reason ↔
      condition ∧ failure = reason ∨ ¬ condition ∧ next () = .error reason := by
  unfold rejectIf
  by_cases held : condition
  · rw [if_pos held]
    simp only [held, true_and, not_true_eq_false, false_and, or_false]
    exact Except.error.injEq failure reason ▸ Iff.rfl
  · rw [if_neg held]
    simp only [held, false_and, not_false_eq_true, true_and, false_or]
    rfl

@[simp]
theorem map_eq_ok (first : Except ε α) (f : α → β) (value : β) :
    (f <$> first) = .ok value ↔ ∃ a, first = .ok a ∧ f a = value := by
  cases first with
  | error failure =>
      constructor
      · intro impossible; cases impossible
      · rintro ⟨_, impossible, _⟩; cases impossible
  | ok a =>
      constructor
      · intro same
        exact ⟨a, rfl, Except.ok.inj same⟩
      · rintro ⟨_, same, rfl⟩
        cases same
        rfl

@[simp]
theorem mapError_eq_ok {ε' : Type} (first : Except ε α) (rename : ε → ε') (value : α) :
    first.mapError rename = .ok value ↔ first = .ok value := by
  cases first with
  | error failure =>
      constructor
      · intro impossible; cases impossible
      · intro impossible; cases impossible
  | ok a =>
      constructor
      · intro same; cases same; rfl
      · intro same; cases same; rfl

@[simp]
theorem pure_eq_ok (a value : α) : (pure a : Except ε α) = .ok value ↔ a = value :=
  Except.ok.injEq a value ▸ Iff.rfl

theorem toOption_eq_some {result : Except ε α} {value : α} :
    result.toOption = some value ↔ result = .ok value := by
  cases result <;> simp [Except.toOption]

end VCIssuer.Library.Checks
