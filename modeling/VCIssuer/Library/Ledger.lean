import VCIssuer.Library.Critical
import VCIssuer.Library.Machine

/-!
# Ledgers of values that are used once

A ledger says which marks count as spent in a state.  A step respects it when it
only logs marks that were not spent, leaves them spent, and never gives a spent
mark back.  Respectful steps compose, and over a whole run no mark is logged
twice.
-/

namespace VCIssuer.Library

variable {σ μ : Type} {spent : σ → μ → Prop}

structure Respects (spent : σ → μ → Prop) (s : σ) (log : List μ) (t : σ) : Prop where
  nodup : log.Nodup
  unspent : ∀ m ∈ log, ¬ spent s m
  nowSpent : ∀ m ∈ log, spent t m
  kept : ∀ m, spent s m → spent t m

namespace Respects

variable {s t u : σ} {log later : List μ}

theorem refl (s : σ) : Respects spent s [] s :=
  ⟨List.nodup_nil, by simp, by simp, fun _ held => held⟩

theorem trans (first : Respects spent s log t) (second : Respects spent t later u) :
    Respects spent s (log ++ later) u where
  nodup := by
    refine List.Nodup.append first.nodup second.nodup ?_
    intro m before after
    exact second.unspent m after (first.nowSpent m before)
  unspent := by
    intro m member held
    rcases List.mem_append.mp member with before | after
    · exact first.unspent m before held
    · exact second.unspent m after (first.kept m held)
  nowSpent := by
    intro m member
    rcases List.mem_append.mp member with before | after
    · exact second.kept m (first.nowSpent m before)
    · exact second.nowSpent m after
  kept m held := second.kept m (first.kept m held)

theorem composes : Critical.Composes (Respects spent) := ⟨refl, trans⟩

/-- A step without marks only has to keep what was spent. -/
theorem of_kept (kept : ∀ m, spent s m → spent t m) : Respects spent s [] t :=
  ⟨List.nodup_nil, by simp, by simp, kept⟩

/-- A step with one mark. -/
theorem of_mark {m : μ} (fresh : ¬ spent s m) (now : spent t m)
    (kept : ∀ m, spent s m → spent t m) : Respects spent s [m] t :=
  ⟨List.nodup_singleton m, by simpa using fresh, by simpa using now, kept⟩

end Respects

namespace Machine.Execution

variable {α ε : Type} {M : Machine σ α ε} {I : σ → Prop} {marks : ε → List μ}
  {start s t : σ} {trace : List ε}

/-- Steps that respect a ledger from the states of an invariant respect it as a run. -/
theorem respects (initial : I start)
    (preserved : ∀ s action t event, I s → M.step s action = some (t, event) →
      I t ∧ Respects spent s (marks event) t)
    (run : M.Execution start trace s) : I s ∧ Respects spent start (trace.flatMap marks) s := by
  induction run with
  | start => exact ⟨initial, Respects.refl _⟩
  | step _ accepted held =>
      obtain ⟨after, respected⟩ := preserved _ _ _ _ held.1 accepted
      refine ⟨after, ?_⟩
      rw [List.flatMap_append, List.flatMap_singleton]
      exact held.2.trans respected

end Machine.Execution

/-- In a log without duplicates a mark belongs to one event. -/
theorem flatMap_nodup_index {ε : Type} {marks : ε → List μ} {events : List ε}
    (nodup : (events.flatMap marks).Nodup) {m : μ} {i j : Nat} {first second : ε}
    (atFirst : events[i]? = some first) (atSecond : events[j]? = some second)
    (inFirst : m ∈ marks first) (inSecond : m ∈ marks second) : i = j := by
  induction events generalizing i j with
  | nil => cases atFirst
  | cons event rest located =>
      rw [List.flatMap_cons] at nodup
      have apart := List.disjoint_of_nodup_append nodup
      have elsewhere : ∀ {k : Nat} {other : ε}, rest[k]? = some other → m ∈ marks other →
          m ∈ rest.flatMap marks := fun found member =>
        List.mem_flatMap.mpr ⟨_, List.mem_of_getElem? found, member⟩
      cases i with
      | zero =>
          cases j with
          | zero => rfl
          | succ j =>
              cases atFirst
              exact absurd (elsewhere atSecond inSecond) (apart inFirst)
      | succ i =>
          cases j with
          | zero =>
              cases atSecond
              exact absurd (elsewhere atFirst inFirst) (apart inSecond)
          | succ j =>
              exact congrArg _ (located nodup.of_append_right atFirst atSecond)

/-- No two positions of a list satisfy the property. -/
def AtMostOnce {ε : Type} (P : ε → Prop) (events : List ε) : Prop :=
  ∀ (i j : Nat) (first second : ε), events[i]? = some first → events[j]? = some second →
    P first → P second → i = j

/-- At most once means never again after the first time. -/
theorem atMostOnce_iff {ε : Type} {P : ε → Prop} {events : List ε} :
    AtMostOnce P events ↔ ∀ earlier event later, events = earlier ++ event :: later → P event →
      ∀ other ∈ earlier, ¬ P other := by
  constructor
  · rintro once earlier event later rfl held other member heldToo
    obtain ⟨i, inside, rfl⟩ := List.getElem_of_mem member
    have same := once i earlier.length _ event
      (by rw [List.getElem?_append_left inside, List.getElem?_eq_getElem inside])
      (by rw [List.getElem?_append_right (Nat.le_refl _), Nat.sub_self]; rfl) heldToo held
    omega
  · intro never
    have ordered : ∀ (i j : Nat) (first second : ε), events[i]? = some first →
        events[j]? = some second → P first → P second → ¬ i < j := by
      intro i j first second atFirst atSecond held heldToo before
      obtain ⟨inside, rfl⟩ := List.getElem?_eq_some_iff.mp atSecond
      refine never (events.take j) events[j] (events.drop (j + 1)) ?_ heldToo first ?_ held
      · rw [← List.drop_eq_getElem_cons inside, List.take_append_drop]
      · rw [← List.getElem?_take_of_lt before] at atFirst
        exact List.mem_of_getElem? atFirst
    intro i j first second atFirst atSecond held heldToo
    have notLess := ordered i j first second atFirst atSecond held heldToo
    have notMore := ordered j i second first atSecond atFirst heldToo held
    omega

theorem AtMostOnce.eq {ε : Type} {P : ε → Prop} {events : List ε} (once : AtMostOnce P events)
    {first second : ε} (inFirst : first ∈ events) (inSecond : second ∈ events)
    (held : P first) (heldToo : P second) : first = second := by
  obtain ⟨i, atFirst⟩ := List.mem_iff_getElem?.mp inFirst
  obtain ⟨j, atSecond⟩ := List.mem_iff_getElem?.mp inSecond
  cases once i j first second atFirst atSecond held heldToo
  exact Option.some.inj (atFirst.symm.trans atSecond)

/-- What cannot happen without its mark happens at most once. -/
theorem atMostOnce_of_mark {ε : Type} {marks : ε → List μ} {events : List ε}
    {P : ε → Prop} {m : μ} (nodup : (events.flatMap marks).Nodup)
    (marked : ∀ event ∈ events, P event → m ∈ marks event) : AtMostOnce P events := by
  intro i j first second atFirst atSecond held heldToo
  exact flatMap_nodup_index nodup atFirst atSecond
    (marked _ (List.mem_of_getElem? atFirst) held)
    (marked _ (List.mem_of_getElem? atSecond) heldToo)

end VCIssuer.Library
