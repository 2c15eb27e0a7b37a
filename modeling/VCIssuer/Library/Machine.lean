import Mathlib.Data.List.Basic

/-!
# Machines and their executions

A machine takes one action at a time and reports one event for each action that
it accepts.  An execution is the list of events of a run, oldest first, with the
state the run ends in.  Invariants may speak of the state alone or of the whole
history together with the state.
-/

namespace VCIssuer.Library

structure Machine (σ α ε : Type) where
  /-- The state after an action and the event it reports, if the action is accepted. -/
  step : σ → α → Option (σ × ε)

namespace Machine

variable {σ α ε : Type} (M : Machine σ α ε)

inductive Execution (start : σ) : List ε → σ → Prop
  | start : Execution start [] start
  | step {trace : List ε} {s t : σ} {action : α} {event : ε} :
      Execution start trace s → M.step s action = some (t, event) →
      Execution start (trace ++ [event]) t

variable {M}

namespace Execution

variable {start s t : σ} {trace later : List ε}

/-- What every accepted action preserves holds wherever a run ends. -/
theorem invariant {I : σ → Prop} (initial : I start)
    (preserved : ∀ s action t event, I s → M.step s action = some (t, event) → I t)
    (run : M.Execution start trace s) : I s := by
  induction run with
  | start => exact initial
  | step _ accepted held => exact preserved _ _ _ _ held accepted

/-- The same for a property of the history and the state together. -/
theorem history {P : List ε → σ → Prop} (initial : P [] start)
    (preserved : ∀ trace s action t event, M.Execution start trace s → P trace s →
      M.step s action = some (t, event) → P (trace ++ [event]) t)
    (run : M.Execution start trace s) : P trace s := by
  induction run with
  | start => exact initial
  | step before accepted held => exact preserved _ _ _ _ _ before held accepted

theorem trans (first : M.Execution start trace s) (second : M.Execution s later t) :
    M.Execution start (trace ++ later) t := by
  induction second with
  | start => rw [List.append_nil]; exact first
  | step _ accepted extended => rw [← List.append_assoc]; exact extended.step accepted

theorem single {action : α} {event : ε} (accepted : M.step s action = some (t, event)) :
    M.Execution s [event] t :=
  start.step accepted

/-- A run can be stopped after any part of its history. -/
theorem split {trace later : List ε} (run : M.Execution start (trace ++ later) t) :
    ∃ s, M.Execution start trace s ∧ M.Execution s later t := by
  generalize whole : trace ++ later = events at run
  induction run generalizing trace later with
  | start =>
      obtain ⟨rfl, rfl⟩ := List.append_eq_nil_iff.mp whole
      exact ⟨start, .start, .start⟩
  | @step before s t action event run accepted stopped =>
      rcases List.eq_nil_or_concat later with rfl | ⟨rest, last, rfl⟩
      · rw [List.append_nil] at whole
        subst whole
        exact ⟨t, run.step accepted, .start⟩
      · rw [List.concat_eq_append, ← List.append_assoc] at whole
        obtain ⟨same, rfl⟩ := List.append_inj' whole rfl |>.imp id List.singleton_inj.mp
        obtain ⟨u, first, second⟩ := stopped same
        rw [List.concat_eq_append]
        exact ⟨u, first, second.step accepted⟩

theorem of_nil (run : M.Execution s [] t) : t = s := by
  generalize none : [] = events at run
  cases run with
  | start => rfl
  | step => exact absurd none.symm (List.append_ne_nil_of_right_ne_nil _ (List.cons_ne_nil _ _))

/-- A run of one event is one step. -/
theorem of_singleton {event : ε} (run : M.Execution s [event] t) :
    ∃ action, M.step s action = some (t, event) := by
  generalize whole : [event] = events at run
  cases run with
  | start => cases whole
  | @step before _ _ action last run accepted =>
      obtain ⟨empty, same⟩ := List.append_inj' (show [] ++ [event] = before ++ [last] from whole) rfl
      cases same
      rw [← empty] at run
      cases run.of_nil
      exact ⟨action, accepted⟩

/-- The step that reported an event, with the runs before and after it. -/
theorem at_event {before after : List ε} {event : ε}
    (run : M.Execution start (before ++ event :: after) t) :
    ∃ s u action, M.Execution start before s ∧ M.step s action = some (u, event) ∧
      M.Execution u after t := by
  obtain ⟨s, first, rest⟩ := run.split
  rw [← List.singleton_append] at rest
  obtain ⟨u, one, last⟩ := rest.split
  obtain ⟨action, accepted⟩ := one.of_singleton
  exact ⟨s, u, action, first, accepted, last⟩

end Execution

/-- In a run with this history, the step that reported `event` was taken in `s` after `earlier`. -/
def StepAt (M : Machine σ α ε) (start : σ) (trace earlier : List ε) (s : σ) (event : ε) : Prop :=
  ∃ action t later, trace = earlier ++ event :: later ∧ M.Execution start earlier s ∧
    M.step s action = some (t, event)

/-- The same, with the state that the step leads to. -/
def TransitionAt (M : Machine σ α ε) (start : σ) (trace earlier : List ε) (s : σ) (event : ε)
    (t : σ) : Prop :=
  ∃ action later, trace = earlier ++ event :: later ∧ M.Execution start earlier s ∧
    M.step s action = some (t, event)

theorem TransitionAt.stepAt {start s t : σ} {trace earlier : List ε} {event : ε}
    (taken : M.TransitionAt start trace earlier s event t) :
    M.StepAt start trace earlier s event := by
  obtain ⟨action, later, same, before, accepted⟩ := taken
  exact ⟨action, t, later, same, before, accepted⟩

theorem StepAt.transitionAt {start s : σ} {trace earlier : List ε} {event : ε}
    (taken : M.StepAt start trace earlier s event) :
    ∃ t, M.TransitionAt start trace earlier s event t := by
  obtain ⟨action, t, later, same, before, accepted⟩ := taken
  exact ⟨t, action, later, same, before, accepted⟩

theorem Execution.stepAt {start t : σ} {before after : List ε} {event : ε}
    (run : M.Execution start (before ++ event :: after) t) :
    ∃ s, M.StepAt start (before ++ event :: after) before s event := by
  obtain ⟨s, u, action, first, accepted, _⟩ := run.at_event
  exact ⟨s, action, u, after, rfl, first, accepted⟩

/-- A step of a run is a step of every longer run. -/
theorem StepAt.append {start s : σ} {trace earlier : List ε} {event : ε}
    (taken : M.StepAt start trace earlier s event) (later : List ε) :
    M.StepAt start (trace ++ later) earlier s event := by
  obtain ⟨action, t, rest, rfl, before, accepted⟩ := taken
  exact ⟨action, t, rest ++ later, by simp, before, accepted⟩

theorem StepAt.mem {start s : σ} {trace earlier : List ε} {event : ε}
    (taken : M.StepAt start trace earlier s event) : event ∈ trace := by
  obtain ⟨_, _, _, rfl, _⟩ := taken
  simp

end Machine

end VCIssuer.Library
