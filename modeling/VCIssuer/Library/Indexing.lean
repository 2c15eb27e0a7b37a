import VCIssuer.Library.Checks

/-!
# Indexing that can panic

Computations that index into lists and slice them.  Such a computation stops
with an error of its own or by a panic, and an index within the bounds reads
what the list has there.
-/

namespace VCIssuer.Library.Indexing

open VCIssuer.Library.Checks

/-- How a computation ends early. -/
inductive Stop (ε : Type) where
  | rejected (error : ε)
  | panic
  deriving DecidableEq

variable {ε α β : Type}

def index (items : List α) (i : Nat) : Except (Stop ε) α :=
  okOr items[i]? .panic

/-- The items `[start, stop)`. -/
def range (items : List α) (start stop : Nat) : Except (Stop ε) (List α) :=
  if start ≤ stop ∧ stop ≤ items.length then .ok ((items.drop start).take (stop - start))
  else .error .panic

/-- A computation that does not index. -/
def lift (computation : Except ε α) : Except (Stop ε) α :=
  computation.mapError .rejected

theorem index_of_lt {items : List α} {i : Nat} (inside : i < items.length) :
    (index items i : Except (Stop ε) α) = .ok (items[i]) := by
  rw [index, List.getElem?_eq_getElem inside]
  rfl

theorem range_of_le {items : List α} {start stop : Nat} (ordered : start ≤ stop)
    (inside : stop ≤ items.length) :
    (range items start stop : Except (Stop ε) (List α)) =
      .ok ((items.drop start).take (stop - start)) :=
  if_pos ⟨ordered, inside⟩

/-! ## Lifted computations -/

theorem lift_ne_panic (computation : Except ε α) : lift computation ≠ .error .panic := by
  cases computation with
  | error failure => intro same; cases same
  | ok a => intro same; cases same

theorem lift_eq_ok (computation : Except ε α) (value : α) :
    lift computation = .ok value ↔ computation = .ok value :=
  mapError_eq_ok _ _ _

@[simp]
theorem lift_pure (a : α) : lift (pure a : Except ε α) = pure a := rfl

@[simp]
theorem lift_error (failure : ε) : lift (.error failure : Except ε α) = .error (.rejected failure) :=
  rfl

@[simp]
theorem lift_bind (first : Except ε α) (next : α → Except ε β) :
    lift (first >>= next) = lift first >>= fun a => lift (next a) := by
  cases first with
  | error failure => rfl
  | ok a => rfl

@[simp]
theorem lift_rejectIf (condition : Prop) [Decidable condition] (failure : ε) :
    lift (rejectIf condition failure) = rejectIf condition (.rejected failure) := by
  unfold rejectIf
  by_cases held : condition
  · rw [if_pos held, if_pos held]
    rfl
  · rw [if_neg held, if_neg held]
    rfl

@[simp]
theorem lift_okOr (found : Option α) (failure : ε) :
    lift (okOr found failure) = okOr found (.rejected failure) := by
  cases found with
  | none => rfl
  | some value => rfl

/-! ## Behind a check -/

/-- What follows a check may rely on it. -/
theorem rejectIf_bind_congr {ε' : Type} {condition : Prop} [Decidable condition] {failure : ε'}
    {next other : Unit → Except ε' β} (agree : ¬ condition → next () = other ()) :
    (rejectIf condition failure >>= next) = (rejectIf condition failure >>= other) := by
  unfold rejectIf
  by_cases held : condition
  · rw [if_pos held]
    rfl
  · rw [if_neg held]
    exact agree held

end VCIssuer.Library.Indexing
