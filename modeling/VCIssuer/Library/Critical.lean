import Mathlib.Data.List.Nodup

/-!
# Critical sections

A critical section runs alone on a shared state.  It may read and write the
state, stop early with an error, and put marks in a log.  An early stop keeps
whatever was written and marked before it.  Sections are composed with `do`, and
a relation between the state before, the log and the state after passes through
the composition once it is closed under it.
-/

namespace VCIssuer.Library

/-- What one section leaves behind. -/
structure Outcome (σ ε μ α : Type) where
  result : Except ε α
  state : σ
  log : List μ

def Critical (σ ε μ α : Type) : Type := σ → Outcome σ ε μ α

namespace Critical

variable {σ ε μ α β : Type}

protected def pure (value : α) : Critical σ ε μ α :=
  fun s => ⟨.ok value, s, []⟩

protected def bind (first : Critical σ ε μ α) (next : α → Critical σ ε μ β) :
    Critical σ ε μ β :=
  fun s =>
    match first s with
    | ⟨.error failure, t, log⟩ => ⟨.error failure, t, log⟩
    | ⟨.ok value, t, log⟩ =>
        ⟨(next value t).result, (next value t).state, log ++ (next value t).log⟩

instance : Monad (Critical σ ε μ) where
  pure := Critical.pure
  bind := Critical.bind

theorem bind_assoc {γ : Type} (first : Critical σ ε μ α) (next : α → Critical σ ε μ β)
    (last : β → Critical σ ε μ γ) :
    first >>= next >>= last = first >>= fun a => next a >>= last := by
  funext s
  change Critical.bind (Critical.bind first next) last s =
    Critical.bind first (fun a => Critical.bind (next a) last) s
  unfold Critical.bind
  obtain ⟨result, t, log⟩ := first s
  cases result with
  | error failure => rfl
  | ok a =>
      simp only
      obtain ⟨result, u, later⟩ := next a t
      cases result with
      | error failure => rfl
      | ok b => simp only [List.append_assoc]

/-- The state as it is now. -/
def read : Critical σ ε μ σ :=
  fun s => ⟨.ok s, s, []⟩

def modify (update : σ → σ) : Critical σ ε μ Unit :=
  fun s => ⟨.ok (), update s, []⟩

/-- Change the state and put one mark in the log. -/
def accept (m : μ) (update : σ → σ) : Critical σ ε μ Unit :=
  fun s => ⟨.ok (), update s, [m]⟩

def reject (failure : ε) : Critical σ ε μ α :=
  fun s => ⟨.error failure, s, []⟩

def rejectIf (condition : Prop) [Decidable condition] (failure : ε) : Critical σ ε μ Unit :=
  if condition then reject failure else pure ()

def ofExcept (checked : Except ε α) : Critical σ ε μ α :=
  match checked with
  | .ok value => pure value
  | .error failure => reject failure

def okOr (found : Option α) (failure : ε) : Critical σ ε μ α :=
  match found with
  | some value => pure value
  | none => reject failure

instance : MonadLift (Except ε) (Critical σ ε μ) where
  monadLift := ofExcept

/-! ## Sections that return -/

/-- Started in `s`, the section returns `value`, leaves `t` behind and logs `log`. -/
def Returns (section_ : Critical σ ε μ α) (s : σ) (value : α) (t : σ) (log : List μ) : Prop :=
  section_ s = ⟨.ok value, t, log⟩

theorem returns_bind (first : Critical σ ε μ α) (next : α → Critical σ ε μ β) (s : σ)
    (value : β) (t : σ) (log : List μ) :
    Returns (first >>= next) s value t log ↔
      ∃ a u before after, Returns first s a u before ∧ Returns (next a) u value t after ∧
        log = before ++ after := by
  change Critical.bind first next s = _ ↔ _
  unfold Critical.bind Returns
  obtain ⟨result, u, before⟩ := first s
  cases result with
  | error failure => simp
  | ok a =>
      simp only [Outcome.mk.injEq, Except.ok.injEq]
      constructor
      · rintro ⟨result, state, logged⟩
        refine ⟨a, u, before, (next a u).log, ⟨rfl, rfl, rfl⟩, ?_, logged.symm⟩
        rw [← result, ← state]
      · rintro ⟨_, _, _, after, ⟨rfl, rfl, rfl⟩, returned, rfl⟩
        rw [returned]
        exact ⟨rfl, rfl, rfl⟩

@[simp]
theorem returns_pure (a : α) (s : σ) (value : α) (t : σ) (log : List μ) :
    Returns (pure a : Critical σ ε μ α) s value t log ↔ value = a ∧ t = s ∧ log = [] := by
  change (⟨.ok a, s, []⟩ : Outcome σ ε μ α) = ⟨.ok value, t, log⟩ ↔ _
  simp only [Outcome.mk.injEq, Except.ok.injEq]
  exact ⟨fun ⟨h₁, h₂, h₃⟩ => ⟨h₁.symm, h₂.symm, h₃.symm⟩,
    fun ⟨h₁, h₂, h₃⟩ => ⟨h₁.symm, h₂.symm, h₃.symm⟩⟩

@[simp]
theorem returns_reject (failure : ε) (s : σ) (value : α) (t : σ) (log : List μ) :
    ¬ Returns (reject failure : Critical σ ε μ α) s value t log := by
  simp [Returns, reject]

theorem read_returns (s : σ) : Returns (read : Critical σ ε μ σ) s s s [] := rfl

theorem modify_returns (update : σ → σ) (s : σ) :
    Returns (modify update : Critical σ ε μ Unit) s () (update s) [] := rfl

theorem accept_returns (m : μ) (update : σ → σ) (s : σ) :
    Returns (accept m update : Critical σ ε μ Unit) s () (update s) [m] := rfl

theorem pure_returns (a : α) (s : σ) : Returns (pure a : Critical σ ε μ α) s a s [] := rfl

@[simp]
theorem returns_accept (m : μ) (update : σ → σ) (s : σ) (value : Unit) (t : σ) (log : List μ) :
    Returns (accept m update : Critical σ ε μ Unit) s value t log ↔ t = update s ∧ log = [m] := by
  constructor
  · intro returned
    cases returned
    exact ⟨rfl, rfl⟩
  · rintro ⟨rfl, rfl⟩
    rfl

@[simp]
theorem returns_ofExcept (checked : Except ε α) (s : σ) (value : α) (t : σ) (log : List μ) :
    Returns (ofExcept checked) s value t log ↔ checked = .ok value ∧ t = s ∧ log = [] := by
  cases checked with
  | error failure => simp [ofExcept]
  | ok a => simp [ofExcept, eq_comm]

/-- After a first section with a known outcome only the rest matters. -/
theorem returns_bind_of_outcome {first : Critical σ ε μ α} {a : α} {s u : σ} {before : List μ}
    (outcome : Returns first s a u before) (next : α → Critical σ ε μ β) (value : β) (t : σ)
    (log : List μ) :
    Returns (first >>= next) s value t log ↔
      ∃ after, Returns (next a) u value t after ∧ log = before ++ after := by
  rw [returns_bind]
  constructor
  · rintro ⟨_, _, _, after, started, returned, rfl⟩
    cases outcome.symm.trans started
    exact ⟨after, returned, rfl⟩
  · rintro ⟨after, returned, rfl⟩
    exact ⟨a, u, before, after, outcome, returned, rfl⟩

/-- A section followed by a wrapping of its value. -/
theorem returns_bind_pure (first : Critical σ ε μ α) (wrap : α → β) (s : σ) (value : β) (t : σ)
    (log : List μ) :
    Returns (first >>= fun a => pure (wrap a)) s value t log ↔
      ∃ a, Returns first s a t log ∧ value = wrap a := by
  simp only [returns_bind, returns_pure]
  constructor
  · rintro ⟨a, _, _, _, returned, ⟨rfl, rfl, rfl⟩, rfl⟩
    exact ⟨a, by rw [List.append_nil]; exact returned, rfl⟩
  · rintro ⟨a, returned, rfl⟩
    exact ⟨a, t, log, [], returned, ⟨rfl, rfl, rfl⟩, (List.append_nil log).symm⟩

theorem not_returns_bind_of_reject {first : Critical σ ε μ α} {s u : σ} {failure : ε}
    {before : List μ} (outcome : first s = ⟨.error failure, u, before⟩)
    (next : α → Critical σ ε μ β) (value : β) (t : σ) (log : List μ) :
    ¬ Returns (first >>= next) s value t log := by
  rw [returns_bind]
  rintro ⟨_, _, _, _, started, _⟩
  cases outcome.symm.trans started

@[simp]
theorem returns_read_bind (next : σ → Critical σ ε μ β) (s : σ) (value : β) (t : σ)
    (log : List μ) :
    Returns (read >>= next) s value t log ↔ Returns (next s) s value t log := by
  rw [returns_bind_of_outcome (read_returns s)]
  simp

@[simp]
theorem returns_modify_bind (update : σ → σ) (next : Unit → Critical σ ε μ β) (s : σ)
    (value : β) (t : σ) (log : List μ) :
    Returns (modify update >>= next) s value t log ↔
      Returns (next ()) (update s) value t log := by
  rw [returns_bind_of_outcome (modify_returns update s)]
  simp

@[simp]
theorem returns_accept_bind (m : μ) (update : σ → σ) (next : Unit → Critical σ ε μ β) (s : σ)
    (value : β) (t : σ) (log : List μ) :
    Returns (accept m update >>= next) s value t log ↔
      ∃ rest, Returns (next ()) (update s) value t rest ∧ log = m :: rest :=
  returns_bind_of_outcome (accept_returns m update s) next value t log

@[simp]
theorem returns_rejectIf_bind (condition : Prop) [Decidable condition] (failure : ε)
    (next : Unit → Critical σ ε μ β) (s : σ) (value : β) (t : σ) (log : List μ) :
    Returns (rejectIf condition failure >>= next) s value t log ↔
      ¬ condition ∧ Returns (next ()) s value t log := by
  by_cases held : condition
  · have stopped : (rejectIf condition failure : Critical σ ε μ Unit) s =
        ⟨.error failure, s, []⟩ := by rw [rejectIf, if_pos held]; rfl
    simp [not_returns_bind_of_reject stopped, held]
  · have passed : Returns (rejectIf condition failure : Critical σ ε μ Unit) s () s [] := by
      rw [rejectIf, if_neg held]; rfl
    simp [returns_bind_of_outcome passed, held]

@[simp]
theorem returns_ofExcept_bind (checked : Except ε α) (next : α → Critical σ ε μ β) (s : σ)
    (value : β) (t : σ) (log : List μ) :
    Returns (ofExcept checked >>= next) s value t log ↔
      ∃ a, checked = .ok a ∧ Returns (next a) s value t log := by
  cases checked with
  | error failure =>
      simp [not_returns_bind_of_reject (show ofExcept (.error failure) s = ⟨.error failure, s, []⟩ from rfl)]
  | ok a =>
      change Returns (pure a >>= next) s value t log ↔ _
      rw [returns_bind_of_outcome (pure_returns a s)]
      simp

@[simp]
theorem returns_okOr_bind (found : Option α) (failure : ε) (next : α → Critical σ ε μ β) (s : σ)
    (value : β) (t : σ) (log : List μ) :
    Returns (okOr found failure >>= next) s value t log ↔
      ∃ a, found = some a ∧ Returns (next a) s value t log := by
  cases found with
  | none => simp [not_returns_bind_of_reject (show okOr none failure s = ⟨.error failure, s, []⟩ from rfl)]
  | some a =>
      change Returns (pure a >>= next) s value t log ↔ _
      rw [returns_bind_of_outcome (pure_returns a s)]
      simp

/-! ## Sections that are rejected -/

/-- Started in `s`, the section ends early, leaves `t` behind and logs `log`. -/
def Rejects (section_ : Critical σ ε μ α) (s : σ) (t : σ) (log : List μ) : Prop :=
  ∃ failure, section_ s = ⟨.error failure, t, log⟩

theorem rejects_bind (first : Critical σ ε μ α) (next : α → Critical σ ε μ β) (s t : σ)
    (log : List μ) :
    Rejects (first >>= next) s t log ↔
      Rejects first s t log ∨
      ∃ a u before after, Returns first s a u before ∧ Rejects (next a) u t after ∧
        log = before ++ after := by
  change (∃ failure, Critical.bind first next s = _) ↔ _
  unfold Critical.bind Returns Rejects
  obtain ⟨result, u, before⟩ := first s
  cases result with
  | error failure => simp
  | ok a =>
      simp only [Outcome.mk.injEq, Except.ok.injEq, reduceCtorEq, false_and, exists_false,
        false_or]
      constructor
      · rintro ⟨failure, result, state, logged⟩
        refine ⟨a, u, before, (next a u).log, ⟨rfl, rfl, rfl⟩, ⟨failure, ?_⟩, logged.symm⟩
        rw [← result, ← state]
      · rintro ⟨_, _, _, after, ⟨rfl, rfl, rfl⟩, ⟨failure, rejected⟩, rfl⟩
        refine ⟨failure, ?_⟩
        rw [rejected]
        exact ⟨rfl, rfl, rfl⟩

@[simp]
theorem rejects_pure (a : α) (s t : σ) (log : List μ) :
    ¬ Rejects (pure a : Critical σ ε μ α) s t log := by
  rintro ⟨_, impossible⟩
  cases impossible

@[simp]
theorem rejects_reject (failure : ε) (s t : σ) (log : List μ) :
    Rejects (reject failure : Critical σ ε μ α) s t log ↔ t = s ∧ log = [] := by
  constructor
  · rintro ⟨_, stopped⟩
    cases stopped
    exact ⟨rfl, rfl⟩
  · rintro ⟨rfl, rfl⟩
    exact ⟨failure, rfl⟩

@[simp]
theorem rejects_accept (m : μ) (update : σ → σ) (s t : σ) (log : List μ) :
    ¬ Rejects (accept m update : Critical σ ε μ Unit) s t log := by
  rintro ⟨_, impossible⟩
  cases impossible

/-- After a first section that returns only the rest can be rejected. -/
theorem rejects_bind_of_outcome {first : Critical σ ε μ α} {a : α} {s u : σ} {before : List μ}
    (outcome : Returns first s a u before) (next : α → Critical σ ε μ β) (t : σ) (log : List μ) :
    Rejects (first >>= next) s t log ↔
      ∃ after, Rejects (next a) u t after ∧ log = before ++ after := by
  rw [rejects_bind]
  constructor
  · rintro (⟨_, started⟩ | ⟨_, _, _, after, started, rejected, rfl⟩)
    · cases outcome.symm.trans started
    · cases outcome.symm.trans started
      exact ⟨after, rejected, rfl⟩
  · rintro ⟨after, rejected, rfl⟩
    exact .inr ⟨a, u, before, after, outcome, rejected, rfl⟩

theorem rejects_bind_pure (first : Critical σ ε μ α) (wrap : α → β) (s t : σ) (log : List μ) :
    Rejects (first >>= fun a => pure (wrap a)) s t log ↔ Rejects first s t log := by
  simp only [rejects_bind, rejects_pure, false_and, and_false, exists_false, or_false]

theorem rejects_bind_of_reject {first : Critical σ ε μ α} {s : σ} {failure : ε}
    (outcome : first s = ⟨.error failure, s, []⟩) (next : α → Critical σ ε μ β) (t : σ)
    (log : List μ) : Rejects (first >>= next) s t log ↔ t = s ∧ log = [] := by
  rw [rejects_bind]
  constructor
  · rintro (⟨_, stopped⟩ | ⟨_, _, _, _, started, _⟩)
    · cases outcome.symm.trans stopped
      exact ⟨rfl, rfl⟩
    · cases outcome.symm.trans started
  · rintro ⟨rfl, rfl⟩
    exact .inl ⟨failure, outcome⟩

@[simp]
theorem rejects_read_bind (next : σ → Critical σ ε μ β) (s t : σ) (log : List μ) :
    Rejects (read >>= next) s t log ↔ Rejects (next s) s t log := by
  rw [rejects_bind_of_outcome (read_returns s)]
  simp

@[simp]
theorem rejects_modify_bind (update : σ → σ) (next : Unit → Critical σ ε μ β) (s t : σ)
    (log : List μ) :
    Rejects (modify update >>= next) s t log ↔ Rejects (next ()) (update s) t log := by
  rw [rejects_bind_of_outcome (modify_returns update s)]
  simp

@[simp]
theorem rejects_accept_bind (m : μ) (update : σ → σ) (next : Unit → Critical σ ε μ β) (s t : σ)
    (log : List μ) :
    Rejects (accept m update >>= next) s t log ↔
      ∃ rest, Rejects (next ()) (update s) t rest ∧ log = m :: rest :=
  rejects_bind_of_outcome (accept_returns m update s) next t log

@[simp]
theorem rejects_rejectIf_bind (condition : Prop) [Decidable condition] (failure : ε)
    (next : Unit → Critical σ ε μ β) (s t : σ) (log : List μ) :
    Rejects (rejectIf condition failure >>= next) s t log ↔
      (condition ∧ t = s ∧ log = []) ∨ (¬ condition ∧ Rejects (next ()) s t log) := by
  by_cases held : condition
  · have stopped : (rejectIf condition failure : Critical σ ε μ Unit) s =
        ⟨.error failure, s, []⟩ := by rw [rejectIf, if_pos held]; rfl
    simp [rejects_bind_of_reject stopped, held]
  · have passed : Returns (rejectIf condition failure : Critical σ ε μ Unit) s () s [] := by
      rw [rejectIf, if_neg held]; rfl
    simp [rejects_bind_of_outcome passed, held]

@[simp]
theorem rejects_ofExcept_bind (checked : Except ε α) (next : α → Critical σ ε μ β) (s t : σ)
    (log : List μ) :
    Rejects (ofExcept checked >>= next) s t log ↔
      ((∃ failure, checked = .error failure) ∧ t = s ∧ log = []) ∨
      ∃ a, checked = .ok a ∧ Rejects (next a) s t log := by
  cases checked with
  | error failure => simp [rejects_bind_of_reject (show ofExcept (.error failure) s = _ from rfl)]
  | ok a =>
      change Rejects (pure a >>= next) s t log ↔ _
      rw [rejects_bind_of_outcome (pure_returns a s)]
      simp

@[simp]
theorem rejects_okOr_bind (found : Option α) (failure : ε) (next : α → Critical σ ε μ β) (s t : σ)
    (log : List μ) :
    Rejects (okOr found failure >>= next) s t log ↔
      (found = none ∧ t = s ∧ log = []) ∨ ∃ a, found = some a ∧ Rejects (next a) s t log := by
  cases found with
  | none => simp [rejects_bind_of_reject (show okOr none failure s = _ from rfl)]
  | some a =>
      change Rejects (pure a >>= next) s t log ↔ _
      rw [rejects_bind_of_outcome (pure_returns a s)]
      simp

/-! ## Relations that pass through composition -/

/-- Closed under doing nothing and under one section after another. -/
structure Composes (R : σ → List μ → σ → Prop) : Prop where
  refl : ∀ s, R s [] s
  trans : ∀ {s t u log log'}, R s log t → R t log' u → R s (log ++ log') u

/-- One write after another, with their marks. -/
inductive Chain (W : σ → List μ → σ → Prop) : σ → List μ → σ → Prop
  | refl (s : σ) : Chain W s [] s
  | step {s t u : σ} {log later : List μ} :
      Chain W s log t → W t later u → Chain W s (log ++ later) u

namespace Chain

variable {W R : σ → List μ → σ → Prop} {s t u : σ} {log later : List μ}

theorem single (write : W s log t) : Chain W s log t :=
  (Chain.refl s).step write

theorem trans (first : Chain W s log t) (second : Chain W t later u) :
    Chain W s (log ++ later) u := by
  induction second with
  | refl => rw [List.append_nil]; exact first
  | step _ write extended => rw [← List.append_assoc]; exact extended.step write

theorem composes : Composes (Chain W) := ⟨refl, trans⟩

/-- A composing relation that holds of each write holds of the chain. -/
theorem lift (composes : Composes R) (each : ∀ s log t, W s log t → R s log t)
    (chain : Chain W s log t) : R s log t := by
  induction chain with
  | refl => exact composes.refl _
  | step _ write held => exact composes.trans held (each _ _ _ write)

/-- What holds before the first write and passes every write holds after the last. -/
theorem preserves {P : σ → Prop} (each : ∀ s log t, W s log t → P s → P t)
    (chain : Chain W s log t) (held : P s) : P t := by
  induction chain with
  | refl => exact held
  | step _ write before => exact each _ _ _ write before

end Chain

/-- The relation holds of everything the section does from `s`, however it ends. -/
def Keeps (R : σ → List μ → σ → Prop) (s : σ) (section_ : Critical σ ε μ α) : Prop :=
  R s (section_ s).log (section_ s).state

section Rules

variable {R : σ → List μ → σ → Prop} {s : σ}

theorem Keeps.returned {section_ : Critical σ ε μ α} {value : α} {t : σ} {log : List μ}
    (keeps : Keeps R s section_) (returned : Returns section_ s value t log) : R s log t := by
  unfold Keeps at keeps
  rw [returned] at keeps
  exact keeps

theorem Keeps.pure (composes : Composes R) (value : α) :
    Keeps R s (pure value : Critical σ ε μ α) :=
  composes.refl s

theorem Keeps.reject (composes : Composes R) (failure : ε) :
    Keeps R s (reject failure : Critical σ ε μ α) :=
  composes.refl s

theorem Keeps.except (composes : Composes R) (checked : Except ε α) :
    Keeps R s (ofExcept checked : Critical σ ε μ α) := by
  cases checked with
  | error failure => exact composes.refl s
  | ok value => exact composes.refl s

theorem Keeps.bind (composes : Composes R) {first : Critical σ ε μ α}
    {next : α → Critical σ ε μ β} (head : Keeps R s first)
    (tail : ∀ value t log, Returns first s value t log → Keeps R t (next value)) :
    Keeps R s (first >>= next) := by
  change R s (Critical.bind first next s).log (Critical.bind first next s).state
  unfold Keeps at head
  unfold Critical.bind
  cases ran : first s with
  | mk result t log =>
      rw [ran] at head
      cases result with
      | error failure => exact head
      | ok value => exact composes.trans head (tail value t log ran)

theorem Keeps.read_bind {next : σ → Critical σ ε μ β} (tail : Keeps R s (next s)) :
    Keeps R s (read >>= next) := tail

theorem Keeps.modify_bind (composes : Composes R) {update : σ → σ}
    {next : Unit → Critical σ ε μ β} (head : R s [] (update s))
    (tail : Keeps R (update s) (next ())) : Keeps R s (modify update >>= next) :=
  Keeps.bind composes head fun _ _ _ returned => by cases returned; exact tail

theorem Keeps.accept_bind (composes : Composes R) {m : μ} {update : σ → σ}
    {next : Unit → Critical σ ε μ β} (head : R s [m] (update s))
    (tail : Keeps R (update s) (next ())) : Keeps R s (accept m update >>= next) :=
  Keeps.bind composes head fun _ _ _ returned => by cases returned; exact tail

/-- A marked write and another one behind it may be seen as one write. -/
theorem Keeps.accept_modify_bind (composes : Composes R) {m : μ} {update then_ : σ → σ}
    {next : Unit → Critical σ ε μ β} (head : R s [m] (then_ (update s)))
    (tail : Keeps R (then_ (update s)) (next ())) :
    Keeps R s (accept m update >>= fun _ => modify then_ >>= next) := by
  have both : R s ([m] ++ _) _ := composes.trans head tail
  exact both

theorem Keeps.rejectIf_bind (composes : Composes R) {condition : Prop} [Decidable condition]
    {failure : ε} {next : Unit → Critical σ ε μ β}
    (tail : ¬ condition → Keeps R s (next ())) :
    Keeps R s (rejectIf condition failure >>= next) := by
  unfold rejectIf
  by_cases held : condition
  · rw [if_pos held]
    exact composes.refl s
  · rw [if_neg held]
    exact tail held

theorem Keeps.ofExcept_bind (composes : Composes R) {checked : Except ε α}
    {next : α → Critical σ ε μ β} (tail : ∀ value, checked = .ok value → Keeps R s (next value)) :
    Keeps R s (ofExcept checked >>= next) := by
  cases checked with
  | error failure => exact composes.refl s
  | ok value => exact tail value rfl

theorem Keeps.okOr_bind (composes : Composes R) {found : Option α} {failure : ε}
    {next : α → Critical σ ε μ β} (tail : ∀ value, found = some value → Keeps R s (next value)) :
    Keeps R s (okOr found failure >>= next) := by
  cases found with
  | none => exact composes.refl s
  | some value => exact tail value rfl

end Rules

/-! ## What a rejection leaves behind -/

/-- However the section is rejected in `s`, it leaves a state in `P`. -/
def LeavesRejected (P : σ → Prop) (s : σ) (section_ : Critical σ ε μ α) : Prop :=
  ∀ t log, Rejects section_ s t log → P t

namespace LeavesRejected

variable {P : σ → Prop} {s : σ}

theorem pure (value : α) : LeavesRejected P s (pure value : Critical σ ε μ α) :=
  fun t log rejected => absurd rejected (rejects_pure value s t log)

theorem bind {first : Critical σ ε μ α} {next : α → Critical σ ε μ β}
    (head : LeavesRejected P s first)
    (tail : ∀ value t log, Returns first s value t log → LeavesRejected P t (next value)) :
    LeavesRejected P s (first >>= next) := by
  intro t log rejected
  rcases (rejects_bind first next s t log).mp rejected with stopped | ⟨_, _, _, _, started, rest, _⟩
  · exact head t log stopped
  · exact tail _ _ _ started _ _ rest

theorem read_bind {next : σ → Critical σ ε μ β} (tail : LeavesRejected P s (next s)) :
    LeavesRejected P s (read >>= next) :=
  fun t log rejected => tail t log ((rejects_read_bind next s t log).mp rejected)

theorem accept_bind {m : μ} {update : σ → σ} {next : Unit → Critical σ ε μ β}
    (tail : LeavesRejected P (update s) (next ())) :
    LeavesRejected P s (accept m update >>= next) := by
  intro t log rejected
  obtain ⟨rest, rejected, _⟩ := (rejects_accept_bind m update next s t log).mp rejected
  exact tail t rest rejected

theorem rejectIf_bind {condition : Prop} [Decidable condition] {failure : ε}
    {next : Unit → Critical σ ε μ β} (here : P s)
    (tail : ¬ condition → LeavesRejected P s (next ())) :
    LeavesRejected P s (rejectIf condition failure >>= next) := by
  intro t log rejected
  rcases (rejects_rejectIf_bind condition failure next s t log).mp rejected with
    ⟨_, rfl, _⟩ | ⟨passed, rest⟩
  · exact here
  · exact tail passed t log rest

theorem ofExcept_bind {checked : Except ε α} {next : α → Critical σ ε μ β} (here : P s)
    (tail : ∀ value, checked = .ok value → LeavesRejected P s (next value)) :
    LeavesRejected P s (ofExcept checked >>= next) := by
  intro t log rejected
  rcases (rejects_ofExcept_bind checked next s t log).mp rejected with
    ⟨_, rfl, _⟩ | ⟨value, passed, rest⟩
  · exact here
  · exact tail value passed t log rest

theorem okOr_bind {found : Option α} {failure : ε} {next : α → Critical σ ε μ β} (here : P s)
    (tail : ∀ value, found = some value → LeavesRejected P s (next value)) :
    LeavesRejected P s (okOr found failure >>= next) := by
  intro t log rejected
  rcases (rejects_okOr_bind found failure next s t log).mp rejected with
    ⟨_, rfl, _⟩ | ⟨value, passed, rest⟩
  · exact here
  · exact tail value passed t log rest

end LeavesRejected

end Critical

end VCIssuer.Library
