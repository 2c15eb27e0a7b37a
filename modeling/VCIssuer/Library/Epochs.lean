import Mathlib.Data.List.Induction
import VCIssuer.Library.Ledger

/-!
# Histories with restarts

Some events of a history show a step of an inner machine, the others start it
over.  What the history shows since the last restart is its epoch.  Each epoch is
a run of the inner machine, and what is backed by a fresh value of its own epoch
happens once in the whole history.
-/

namespace VCIssuer.Library.Epochs

section Histories

variable {τ ε μ : Type} {view : τ → Option ε} {history earlier later : List τ} {event : τ}
  {seen : ε}

/-- The epoch after one more event. -/
def extend (view : τ → Option ε) (epoch : List ε) (event : τ) : List ε :=
  match view event with
  | some seen => epoch ++ [seen]
  | none => []

/-- What a history shows since its last restart. -/
def epoch (view : τ → Option ε) (history : List τ) : List ε :=
  history.foldl (extend view) []

theorem epoch_concat : epoch view (history ++ [event]) = extend view (epoch view history) event :=
  List.foldl_concat ..

theorem epoch_seen (shown : view event = some seen) :
    epoch view (history ++ [event]) = epoch view history ++ [seen] := by
  rw [epoch_concat, extend, shown]

theorem epoch_restarted (restarted : view event = none) : epoch view (history ++ [event]) = [] := by
  rw [epoch_concat, extend, restarted]

/-- After a restart nothing of the time before it is left. -/
theorem epoch_append_of_restart (restart : ∃ event ∈ later, view event = none) :
    epoch view (earlier ++ later) = epoch view later := by
  induction later using List.reverseRecOn with
  | nil =>
      obtain ⟨_, impossible, _⟩ := restart
      cases impossible
  | append_singleton rest last carried =>
      rw [← List.append_assoc, epoch_concat, epoch_concat]
      cases shown : view last with
      | none => rw [extend, extend, shown]
      | some seen =>
          obtain ⟨event, member, restarted⟩ := restart
          rcases List.mem_append.mp member with inRest | isLast
          · rw [carried ⟨event, inRest, restarted⟩]
          · cases List.mem_singleton.mp isLast
            cases shown.symm.trans restarted

/-- Without a restart the epoch grows by what is shown. -/
theorem epoch_append_of_seen (running : ∀ event ∈ later, view event ≠ none) :
    epoch view (earlier ++ later) = epoch view earlier ++ later.filterMap view := by
  induction later using List.reverseRecOn with
  | nil => simp
  | append_singleton rest last carried =>
      obtain ⟨seen, shown⟩ := Option.ne_none_iff_exists'.mp (running last (by simp))
      rw [← List.append_assoc, epoch_seen shown, List.filterMap_append,
        carried fun event member => running event (List.mem_append_left _ member),
        List.append_assoc, List.filterMap_cons_some shown, List.filterMap_nil]

/-- What an epoch shows, the history shows. -/
theorem epoch_subset : epoch view history ⊆ history.filterMap view := by
  induction history using List.reverseRecOn with
  | nil => exact List.Subset.refl _
  | append_singleton rest last carried =>
      rw [List.filterMap_append, epoch_concat, extend]
      cases shown : view last with
      | none => exact List.nil_subset _
      | some seen =>
          rw [List.filterMap_cons_some shown]
          exact List.append_subset.mpr
            ⟨List.Subset.trans carried (List.subset_append_left _ _),
              List.subset_append_right _ _⟩

/-- What an epoch shows at some point, the history shows with the same epoch before it. -/
theorem epoch_split {front back : List ε} (shows : epoch view history = front ++ seen :: back) :
    ∃ earlier event later, history = earlier ++ event :: later ∧ view event = some seen ∧
      epoch view earlier = front := by
  induction history using List.reverseRecOn generalizing back with
  | nil => exact absurd shows.symm (List.append_ne_nil_of_right_ne_nil _ (List.cons_ne_nil _ _))
  | append_singleton rest last carried =>
      cases shown : view last with
      | none =>
          rw [epoch_restarted shown] at shows
          exact absurd shows.symm (List.append_ne_nil_of_right_ne_nil _ (List.cons_ne_nil _ _))
      | some final =>
          rw [epoch_seen shown] at shows
          rcases List.eq_nil_or_concat' back with rfl | ⟨before, newest, rfl⟩
          · obtain ⟨same, isLast⟩ := List.append_inj' shows rfl
            cases isLast
            exact ⟨rest, last, [], rfl, shown, same⟩
          · rw [← List.cons_append, ← List.append_assoc] at shows
            obtain ⟨earlier, event, later, rfl, showsToo, same⟩ :=
              carried (List.append_inj' shows rfl).1
            exact ⟨earlier, event, later ++ [last], by simp, showsToo, same⟩

/-- What happens once in every epoch happens again only after a restart. -/
theorem restart_between {Uses : ε → Prop} {between : List τ} {first second : τ} {used again : ε}
    (once : ∀ earlier event later seen, history = earlier ++ event :: later →
      view event = some seen → Uses seen → ∀ other ∈ epoch view earlier, ¬ Uses other)
    (whole : history = earlier ++ first :: between ++ second :: later)
    (shown : view first = some used) (shownToo : view second = some again)
    (uses : Uses used) (usesToo : Uses again) : ∃ event ∈ between, view event = none := by
  by_contra running
  simp only [not_exists, not_and] at running
  have before : epoch view (earlier ++ first :: between) =
      epoch view earlier ++ [used] ++ between.filterMap view := by
    rw [List.append_cons, epoch_append_of_seen running, epoch_seen shown]
  refine once _ second later again whole shownToo usesToo used ?_ uses
  simp [before]

/-- What happens once in every epoch, and each time after a fresh value was made in that very
epoch, happens once in the history. -/
theorem atMostOnce {marks : ε → List μ} (fresh : ((history.filterMap view).flatMap marks).Nodup)
    {Uses : ε → Prop} {m : μ}
    (once : ∀ earlier event later seen, history = earlier ++ event :: later →
      view event = some seen → Uses seen → ∀ other ∈ epoch view earlier, ¬ Uses other)
    (backed : ∀ earlier event later seen, history = earlier ++ event :: later →
      view event = some seen → Uses seen → ∃ source ∈ epoch view earlier, m ∈ marks source) :
    AtMostOnce (fun event => ∃ seen, view event = some seen ∧ Uses seen) history := by
  refine atMostOnce_iff.mpr ?_
  rintro earlier second later rfl ⟨again, shownToo, usesToo⟩ first member ⟨used, shown, uses⟩
  obtain ⟨past, between, rfl⟩ := List.append_of_mem member
  obtain ⟨sourceToo, inSecond, madeToo⟩ := backed _ second later again rfl shownToo usesToo
  obtain ⟨source, inFirst, made⟩ := backed past first (between ++ second :: later) used
    (by simp) shown uses
  have restart := restart_between once rfl shown shownToo uses usesToo
  rw [List.append_cons, epoch_append_of_restart restart] at inSecond
  -- The two sources lie in different epochs, so the value would have been made twice.
  rw [List.filterMap_append, List.filterMap_append, List.filterMap_cons, shown] at fresh
  simp only [List.flatMap_append, List.flatMap_cons, List.append_assoc] at fresh
  refine List.disjoint_of_nodup_append fresh
    (List.mem_flatMap.mpr ⟨source, epoch_subset inFirst, made⟩) ?_
  exact List.mem_append_right _ (List.mem_append_left _
    (List.mem_flatMap.mpr ⟨sourceToo, epoch_subset inSecond, madeToo⟩))

end Histories

/-! ## What has held since -/

section Since

variable {ε : Type} {Starts Ends : ε → Prop} {trace : List ε} {event : ε}

/-- Some event starts it, and no later one ends it. -/
def Since (Starts Ends : ε → Prop) (trace : List ε) : Prop :=
  ∃ earlier first later, trace = earlier ++ first :: later ∧ Starts first ∧
    ∀ event ∈ later, ¬ Ends event

theorem since_nil : ¬ Since Starts Ends [] := by
  rintro ⟨earlier, first, later, none, _⟩
  exact List.append_ne_nil_of_right_ne_nil _ (List.cons_ne_nil _ _) none.symm

theorem since_concat :
    Since Starts Ends (trace ++ [event]) ↔
      Since Starts Ends trace ∧ ¬ Ends event ∨ Starts event := by
  constructor
  · rintro ⟨earlier, first, later, whole, starts, lasts⟩
    rcases List.eq_nil_or_concat' later with rfl | ⟨before, last, rfl⟩
    · obtain ⟨_, same⟩ := List.append_inj' whole rfl
      cases same
      exact .inr starts
    · rw [← List.cons_append, ← List.append_assoc] at whole
      obtain ⟨rfl, same⟩ := List.append_inj' whole rfl
      cases same
      exact .inl ⟨⟨earlier, first, before, rfl, starts,
        fun other member => lasts other (List.mem_append_left _ member)⟩,
        lasts event (List.mem_append_right _ (.head _))⟩
  · rintro (⟨⟨earlier, first, later, rfl, starts, lasts⟩, last⟩ | starts)
    · refine ⟨earlier, first, later ++ [event], by simp, starts, ?_⟩
      intro other member
      rcases List.mem_append.mp member with before | now
      · exact lasts other before
      · rw [List.mem_singleton.mp now]
        exact last
    · exact ⟨trace, event, [], rfl, starts, by simp⟩

end Since

/-! ## Machines -/

section Machines

variable {σ α ε ρ β τ : Type} {M : Machine σ α ε} {R : Machine ρ β τ} (view : τ → Option ε)
  (inner : ρ → σ) (Fresh : σ → Prop)

/-- Each epoch of a machine that restarts another one is a run of the other one. -/
theorem execution {start last : ρ} {trace : List τ} (initial : Fresh (inner start))
    (shows : ∀ {s action t event seen}, R.step s action = some (t, event) →
      view event = some seen → ∃ act, M.step (inner s) act = some (inner t, seen))
    (restarts : ∀ {s action t event}, R.step s action = some (t, event) → view event = none →
      Fresh (inner t))
    (run : R.Execution start trace last) :
    ∃ s, Fresh s ∧ M.Execution s (epoch view trace) (inner last) := by
  induction run with
  | start => exact ⟨_, initial, .start⟩
  | @step before _ _ _ event _ accepted carried =>
      cases shown : view event with
      | none =>
          rw [epoch_restarted shown]
          exact ⟨_, restarts accepted shown, .start⟩
      | some seen =>
          obtain ⟨s, fresh, ran⟩ := carried
          obtain ⟨act, stepped⟩ := shows accepted shown
          rw [epoch_seen shown]
          exact ⟨s, fresh, ran.step stepped⟩

end Machines

end VCIssuer.Library.Epochs
