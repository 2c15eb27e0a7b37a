import VCIssuer.Service.Devices

/-!
# Counters and challenges of App Attest

A counter can be used once only as long as nothing turns the stored counter
back.  Assertions and restarts do not; a registration of a key that is already
registered does.
-/

namespace VCIssuer.Service

open VCIssuer.Library

/-! ## Counters over a run -/

/-- Every registered key stays registered, with a counter that is not less. -/
def CountsKept (before after : StringMap RegisteredInstance) : Prop :=
  ∀ keyId inst, before.lookup keyId = some inst →
    ∃ later, after.lookup keyId = some later ∧ inst.signCount ≤ later.signCount

theorem CountsKept.refl (store : StringMap RegisteredInstance) : CountsKept store store :=
  fun _ inst found => ⟨inst, found, UInt32.le_refl _⟩

section Runs

variable (crates : Crates) (state : AppState)

/-- The assertion was accepted for this key. -/
def DeploymentEvent.AcceptsAssertion (keyId : String) (assertion : Bytes)
    (event : DeploymentEvent) : Prop :=
  ∃ served call, event = .served served ∧ served.asserted crates state = some call ∧
    call.keyId = keyId ∧ call.assertion = assertion

/-- The counter of the assertion that was accepted for this key. -/
def DeploymentEvent.counter (keyId : String) : DeploymentEvent → Option UInt32
  | .served event => do
      let call ← event.asserted crates state
      if call.keyId = keyId then assertionCounter crates call.assertion else none
  | .restarted => none

def acceptedCounters (keyId : String) (trace : List DeploymentEvent) : List UInt32 :=
  trace.filterMap (DeploymentEvent.counter crates state keyId)

/-- Counters only grow, those that are accepted and those that are stored. -/
structure CountersSafe (store : StringMap RegisteredInstance) (trace : List DeploymentEvent) :
    Prop where
  increasing : ∀ keyId, (acceptedCounters crates state keyId trace).Pairwise (· < ·)
  once : ∀ keyId assertion,
    AtMostOnce (DeploymentEvent.AcceptsAssertion crates state keyId assertion) trace
  kept : ∀ earlier d event d',
    (deployment crates state).TransitionAt (.initial store) trace earlier d event d' →
      CountsKept d.store d'.store

/-- Registrations are stored only for keys that are not registered or have not been used. -/
def NoReset (store : StringMap RegisteredInstance) (trace : List DeploymentEvent) : Prop :=
  ∀ earlier d event keyId inst,
    (deployment crates state).StepAt (.initial store) trace earlier d (.served event) →
      event.origin = .resumed (.appAttestStore keyId inst) →
      ∀ registered, d.store.lookup keyId = some registered → registered.signCount = 0

end Runs

section Counters

variable {crates : Crates} {state : AppState} {store : StringMap RegisteredInstance}
  {trace : List DeploymentEvent} {d d' : Deployment} {event : DeploymentEvent}

/-- The store holds the instances of the running process. -/
def Deployment.Synced (d : Deployment) : Prop := d.store = d.world.inner.appAttestInstances

/-- What one step does to the stored counters. -/
inductive CounterStep (crates : Crates) (state : AppState) (d : Deployment) :
    DeploymentEvent → Deployment → Prop
  | stored {served : Event} {d' : Deployment} (keyId : String) (inst : RegisteredInstance)
      (origin : served.origin = .resumed (.appAttestStore keyId inst))
      (store : d'.store = d.store.insert keyId inst) :
      CounterStep crates state d (.served served) d'
  | accepted {served : Event} {d' : Deployment} (call : AssertionCall) (inst : RegisteredInstance)
      (counter : UInt32) (asserted : served.asserted crates state = some call)
      (read : assertionCounter crates call.assertion = some counter)
      (found : d.store.lookup call.keyId = some inst) (advanced : inst.signCount < counter)
      (store : d'.store = d.store.insert call.keyId { inst with signCount := counter }) :
      CounterStep crates state d (.served served) d'
  | aside {event : DeploymentEvent} {d' : Deployment}
      (unasserted : ∀ served, event = .served served → served.asserted crates state = none)
      (store : d'.store = d.store) : CounterStep crates state d event d'

theorem asserted_of_resumed {served : Event} {task : Task} (origin : served.origin = .resumed task) :
    served.asserted crates state = none := by
  unfold Event.asserted
  rw [origin]

/-- A stored registration is written over whatever the store holds for the key. -/
theorem storeAfter_stored {served : Event} {w' : World}
    (took : Took crates state d.world served w') (synced : d.Synced) {keyId : String}
    {inst : RegisteredInstance} (origin : served.origin = .resumed (.appAttestStore keyId inst)) :
    storeAfter crates state d.store served w' = d.store.insert keyId inst := by
  have saves : served.saves crates state = true := by rw [Event.saves, origin]
  rw [storeAfter, if_pos saves, took.stored origin, synced]

theorem DeploymentStep.counterStep (stepped : DeploymentStep crates state d event d')
    (synced : d.Synced) : CounterStep crates state d event d' ∧ d'.Synced := by
  cases stepped with
  | restarted => exact ⟨.aside (fun _ impossible => by cases impossible) rfl, rfl⟩
  | @served served _ took stored =>
      by_cases isStore : ∃ keyId inst, served.origin = .resumed (.appAttestStore keyId inst)
      · obtain ⟨keyId, inst, origin⟩ := isStore
        have saves : served.saves crates state = true := by rw [Event.saves, origin]
        refine ⟨.stored keyId inst origin (stored.trans (storeAfter_stored took synced origin)), ?_⟩
        rw [Deployment.Synced, stored, storeAfter, if_pos saves]
      · have notStore : ∀ keyId inst, served.origin ≠ .resumed (.appAttestStore keyId inst) :=
          fun keyId inst same => isStore ⟨keyId, inst, same⟩
        have saves : served.saves crates state = (served.asserted crates state).isSome := by
          unfold Event.saves
          split
          case h_1 keyId inst same => exact absurd same (notStore keyId inst)
          case h_2 => rfl
        rw [storeAfter, saves] at stored
        cases asserted : served.asserted crates state with
        | none =>
            rw [asserted] at stored
            refine ⟨.aside (fun _ same => by cases same; exact asserted) stored, ?_⟩
            rw [Deployment.Synced, stored, took.unasserted notStore asserted]
            exact synced
        | some call =>
            rw [asserted, if_pos Option.isSome_some] at stored
            obtain ⟨inst, counter, accepts⟩ := took.asserted asserted
            refine ⟨.accepted call inst counter asserted accepts.counter_eq ?_ accepts.advanced ?_,
              stored⟩
            · rw [synced]
              exact accepts.found
            · rw [stored, accepts.inner, synced]

theorem run_synced (run : (deployment crates state).Execution (.initial store) trace d) :
    d.Synced := by
  have initial : (Deployment.initial store).Synced := rfl
  exact run.invariant initial fun _ _ _ _ held stepped =>
    ((deployment_step stepped).counterStep held).2

theorem StepAt.counterStep {earlier : List DeploymentEvent}
    (taken : (deployment crates state).TransitionAt (.initial store) trace earlier d event d') :
    CounterStep crates state d event d' := by
  obtain ⟨_, _, _, before, stepped⟩ := taken
  exact ((deployment_step stepped).counterStep (run_synced before)).1

theorem CounterStep.counter_accepted {served : Event} {call : AssertionCall} {counter : UInt32}
    (asserted : served.asserted crates state = some call)
    (read : assertionCounter crates call.assertion = some counter) (keyId : String) :
    DeploymentEvent.counter crates state keyId (.served served) =
      if call.keyId = keyId then some counter else none := by
  simp [DeploymentEvent.counter, asserted, read]

/-- Every accepted counter is at most the one that is stored now. -/
def Counted (crates : Crates) (state : AppState) (trace : List DeploymentEvent)
    (store : StringMap RegisteredInstance) : Prop :=
  ∀ keyId, (acceptedCounters crates state keyId trace).Pairwise (· < ·) ∧
    ∀ counter ∈ acceptedCounters crates state keyId trace,
      ∃ inst, store.lookup keyId = some inst ∧ counter ≤ inst.signCount

theorem acceptedCounters_append (keyId : String) (event : DeploymentEvent) :
    acceptedCounters crates state keyId (trace ++ [event]) =
      acceptedCounters crates state keyId trace ++
        (DeploymentEvent.counter crates state keyId event).toList := by
  unfold acceptedCounters
  rw [List.filterMap_append]
  cases counted : DeploymentEvent.counter crates state keyId event <;> simp [counted]

theorem Counted.aside {served : DeploymentEvent} (counted : Counted crates state trace store)
    (uncounted : ∀ keyId, DeploymentEvent.counter crates state keyId served = none) :
    Counted crates state (trace ++ [served]) store := by
  intro keyId
  rw [acceptedCounters_append, uncounted, Option.toList_none, List.append_nil]
  exact counted keyId

theorem Counted.step (counted : Counted crates state trace d.store)
    (stepped : CounterStep crates state d event d')
    (unused : ∀ served keyId inst, event = .served served →
      served.origin = .resumed (.appAttestStore keyId inst) →
      ∀ registered, d.store.lookup keyId = some registered → registered.signCount = 0) :
    Counted crates state (trace ++ [event]) d'.store := by
  cases stepped with
  | aside unasserted stored =>
      rw [stored]
      refine counted.aside fun keyId => ?_
      cases event with
      | restarted => rfl
      | served served => simp [DeploymentEvent.counter, unasserted served rfl]
  | @stored served _ keyId inst origin stored =>
      intro other
      have uncounted (keyId : String) :
          DeploymentEvent.counter crates state keyId (.served served) = none := by
        rw [DeploymentEvent.counter, asserted_of_resumed origin]
        rfl
      obtain ⟨ordered, below⟩ := counted.aside uncounted other
      refine ⟨ordered, fun counter member => ?_⟩
      obtain ⟨registered, found, atMost⟩ := below counter member
      rw [stored]
      by_cases same : other = keyId
      · subst same
        refine ⟨inst, AList.lookup_insert _, ?_⟩
        rw [unused _ other inst rfl origin registered found] at atMost
        exact UInt32.le_trans atMost (UInt32.zero_le)
      · exact ⟨registered, (AList.lookup_insert_ne same).trans found, atMost⟩
  | accepted call inst counter asserted read found advanced stored =>
      intro keyId
      obtain ⟨ordered, below⟩ := counted keyId
      rw [acceptedCounters_append, CounterStep.counter_accepted asserted read, stored]
      by_cases same : call.keyId = keyId
      · subst same
        have lower : ∀ earlier ∈ acceptedCounters crates state call.keyId trace,
            earlier < counter := by
          intro earlier member
          obtain ⟨registered, foundToo, atMost⟩ := below earlier member
          cases found.symm.trans foundToo
          exact UInt32.lt_of_le_of_lt atMost advanced
        rw [if_pos rfl, Option.toList_some]
        refine ⟨List.pairwise_append.mpr ⟨ordered, List.pairwise_singleton _ _, ?_⟩, ?_⟩
        · intro earlier member last isLast
          rw [List.mem_singleton.mp isLast]
          exact lower earlier member
        · intro earlier member
          refine ⟨_, AList.lookup_insert _, ?_⟩
          rcases List.mem_append.mp member with before | now
          · exact UInt32.le_of_lt (lower earlier before)
          · rw [List.mem_singleton.mp now]
            exact UInt32.le_refl _
      · rw [if_neg same, Option.toList_none, List.append_nil]
        refine ⟨ordered, fun earlier member => ?_⟩
        obtain ⟨registered, foundToo, atMost⟩ := below earlier member
        exact ⟨registered, (AList.lookup_insert_ne (Ne.symm same)).trans foundToo, atMost⟩

theorem NoReset.before {later : List DeploymentEvent}
    (noReset : NoReset crates state store (trace ++ later)) : NoReset crates state store trace :=
  fun earlier d event keyId inst taken => noReset earlier d event keyId inst (taken.append later)

theorem run_counted (run : (deployment crates state).Execution (.initial store) trace d)
    (noReset : NoReset crates state store trace) : Counted crates state trace d.store := by
  refine run.history (P := fun trace d => NoReset crates state store trace →
    Counted crates state trace d.store) ?_ ?_ noReset
  · exact fun _ keyId => ⟨List.Pairwise.nil, fun _ impossible => absurd impossible List.not_mem_nil⟩
  · intro trace d operation d' event before held stepped noReset
    have synced := run_synced before
    refine (held noReset.before).step ((deployment_step stepped).counterStep synced).1 ?_
    rintro served keyId inst rfl origin
    exact noReset trace d served keyId inst ⟨operation, d', [], rfl, before, stepped⟩ origin

/-- An assertion that is accepted twice shows the same counter twice. -/
theorem once_of_increasing (run : (deployment crates state).Execution (.initial store) trace d)
    {keyId : String} (increasing : (acceptedCounters crates state keyId trace).Pairwise (· < ·))
    (assertion : Bytes) :
    AtMostOnce (DeploymentEvent.AcceptsAssertion crates state keyId assertion) trace := by
  rw [atMostOnce_iff]
  rintro earlier event later rfl ⟨served, call, rfl, asserted, rfl, rfl⟩ other member
    ⟨first, firstCall, rfl, firstAsserted, sameKey, sameAssertion⟩
  obtain ⟨d, d', operation, before, stepped, _⟩ := run.at_event
  obtain ⟨counter, read⟩ : ∃ counter, assertionCounter crates call.assertion = some counter := by
    cases deployment_step stepped with
    | served took =>
        obtain ⟨_, counter, accepts⟩ := took.asserted asserted
        exact ⟨counter, accepts.counter_eq⟩
  have counted := CounterStep.counter_accepted asserted read call.keyId
  have firstCounted := CounterStep.counter_accepted firstAsserted (sameAssertion ▸ read) call.keyId
  rw [if_pos rfl] at counted
  rw [if_pos sameKey] at firstCounted
  unfold acceptedCounters at increasing
  rw [List.filterMap_append, List.filterMap_cons_some counted] at increasing
  have less := (List.pairwise_append.mp increasing).2.2 counter
    (List.mem_filterMap.mpr ⟨_, member, firstCounted⟩) counter (.head _)
  exact UInt32.lt_irrefl _ less

/-- A step that resets no counter keeps them all. -/
theorem CounterStep.kept (stepped : CounterStep crates state d event d')
    (unused : ∀ served keyId inst, event = .served served →
      served.origin = .resumed (.appAttestStore keyId inst) →
      ∀ registered, d.store.lookup keyId = some registered → registered.signCount = 0) :
    CountsKept d.store d'.store := by
  cases stepped with
  | aside _ stored => rw [stored]; exact .refl _
  | stored keyId inst origin stored =>
      intro other registered found
      rw [stored]
      by_cases same : other = keyId
      · subst same
        refine ⟨inst, AList.lookup_insert _, ?_⟩
        rw [unused _ other inst rfl origin registered found]
        exact UInt32.zero_le
      · exact ⟨registered, (AList.lookup_insert_ne same).trans found, UInt32.le_refl _⟩
  | accepted call inst counter _ _ found advanced stored =>
      intro other registered foundToo
      rw [stored]
      by_cases same : other = call.keyId
      · subst same
        cases found.symm.trans foundToo
        exact ⟨_, AList.lookup_insert _, UInt32.le_of_lt advanced⟩
      · exact ⟨registered, (AList.lookup_insert_ne same).trans foundToo, UInt32.le_refl _⟩

end Counters

/-! ## Challenges over a run -/

def DeploymentEvent.IssuesChallenge (crates : Crates) (challenge : String) (expiry : UInt64)
    (event : DeploymentEvent) : Prop :=
  ∃ served : Event, event = .served served ∧ served.IssuesChallenge crates challenge expiry

def DeploymentEvent.Registers (challenge : String) (event : DeploymentEvent) : Prop :=
  ∃ served : Event, event = .served served ∧ served.Registers challenge

/-- A registration that waits to be stored. -/
def Task.registration : Task → Option (String × RegisteredInstance)
  | .appAttestStore keyId inst => some (keyId, inst)
  | _ => none

def DeploymentEvent.accepted : DeploymentEvent → List (String × RegisteredInstance)
  | .served event => (suspendedTask event.reply).filterMap Task.registration
  | .restarted => []

def DeploymentEvent.stored : DeploymentEvent → List (String × RegisteredInstance)
  | .served event => event.origin.tasks.filterMap Task.registration
  | .restarted => []

/-- A challenge is good for one registration, which is accepted in time and stored once. -/
structure ChallengesOnce (crates : Crates) (trace : List DeploymentEvent) : Prop where
  once : ∀ challenge, AtMostOnce (DeploymentEvent.Registers challenge) trace
  inTime : ∀ earlier served later challenge, trace = earlier ++ .served served :: later →
    served.Registers challenge →
      ∃ issuer ∈ earlier, ∃ expiry now,
        DeploymentEvent.IssuesChallenge crates challenge expiry issuer ∧
        served.env.clock = some now ∧ now < expiry
  accepted : ∀ registration, (trace.flatMap DeploymentEvent.stored).count registration ≤
    (trace.flatMap DeploymentEvent.accepted).count registration

section Challenges

variable {crates : Crates} {state : AppState} {store : StringMap RegisteredInstance}
  {trace : List DeploymentEvent} {d d' : Deployment} {event : DeploymentEvent}

/-- Where the outstanding challenges come from, and that used ones are gone. -/
structure ChallengesTraced (crates : Crates) (trace : List DeploymentEvent) (d : Deployment) :
    Prop where
  issued : ∀ {challenge expiry},
    d.world.inner.appAttestChallenges.lookup challenge = some expiry →
      Draw.token challenge ∈ d.world.drawn ∧
        ∃ issuer ∈ trace, DeploymentEvent.IssuesChallenge crates challenge expiry issuer
  used : ∀ {challenge}, (∃ event ∈ trace, DeploymentEvent.Registers challenge event) →
    Draw.token challenge ∈ d.world.drawn ∧
      d.world.inner.appAttestChallenges.lookup challenge = none

/-- A challenge that is handed out was never drawn before. -/
theorem Took.challenge_fresh {w w' : World} {served : Event}
    (took : Took crates state w served w') {challenge : String} {expiry : UInt64}
    (issues : served.IssuesChallenge crates challenge expiry) :
    Draw.token challenge ∉ w.drawn ∧ Draw.token challenge ∈ w'.drawn := by
  have draws : served.origin.draws crates served.env = some [.token challenge] := by
    rw [issues.origin, issues.made]
    rfl
  exact took.drew draws (.head _)

/-- A used challenge does not come back. -/
theorem ChallengesTraced.gone (traced : ChallengesTraced crates trace d)
    {served : Event} (took : Took crates state d.world served d'.world) {challenge : String}
    (used : ∃ event ∈ trace, DeploymentEvent.Registers challenge event) :
    Draw.token challenge ∈ d'.world.drawn ∧
      d'.world.inner.appAttestChallenges.lookup challenge = none := by
  obtain ⟨drawn, absent⟩ := traced.used used
  refine ⟨took.drawn_subset drawn, ?_⟩
  cases found : d'.world.inner.appAttestChallenges.lookup challenge with
  | none => rfl
  | some expiry =>
      rcases took.challenge_cases found with before | issues
      · rw [absent] at before
        cases before
      · exact absurd drawn (took.challenge_fresh issues).1

/-- An accepted registration rests on a challenge that was handed out and not used. -/
theorem ChallengesTraced.registers (traced : ChallengesTraced crates trace d)
    {served : Event} (took : Took crates state d.world served d'.world) {challenge : String}
    (registers : served.Registers challenge) :
    (∃ expiry now, d.world.inner.appAttestChallenges.lookup challenge = some expiry ∧
      served.env.clock = some now ∧ now < expiry) ∧
    Draw.token challenge ∈ d'.world.drawn ∧
      d'.world.inner.appAttestChallenges.lookup challenge = none := by
  obtain ⟨request, progress, origin, reply, rfl⟩ := registers
  obtain ⟨expiry, now, _, found, clocked, inTime, _, _, erased⟩ := took.registers origin reply
  refine ⟨⟨expiry, now, found, clocked, inTime⟩, took.drawn_subset (traced.issued found).1, ?_⟩
  rw [erased, AList.lookup_erase]

theorem ChallengesTraced.step (traced : ChallengesTraced crates trace d)
    (stepped : DeploymentStep crates state d event d') :
    ChallengesTraced crates (trace ++ [event]) d' := by
  have grows : trace ⊆ trace ++ [event] := List.subset_append_left _ _
  cases stepped with
  | restarted =>
      constructor
      · intro _ _ found
        cases found
      rintro challenge ⟨event, member, served, rfl, registers⟩
      rcases List.mem_append.mp member with before | now
      · exact ⟨(traced.used ⟨_, before, served, rfl, registers⟩).1, rfl⟩
      · cases List.mem_singleton.mp now
  | served took =>
      constructor
      · intro challenge expiry found
        rcases took.challenge_cases found with before | issues
        · obtain ⟨drawn, issuer, member, issues⟩ := traced.issued before
          exact ⟨took.drawn_subset drawn, issuer, grows member, issues⟩
        · exact ⟨(took.challenge_fresh issues).2, _, List.mem_append_right _ (.head _), _, rfl,
            issues⟩
      · rintro challenge ⟨event, member, registers⟩
        rcases List.mem_append.mp member with before | now
        · exact traced.gone took ⟨event, before, registers⟩
        · cases List.mem_singleton.mp now
          obtain ⟨_, same, registers⟩ := registers
          cases same
          exact (traced.registers took registers).2

theorem run_challengesTraced
    (run : (deployment crates state).Execution (.initial store) trace d) :
    ChallengesTraced crates trace d := by
  refine run.history ?_ ?_
  · constructor
    · intro _ _ found
      cases found
    · rintro _ ⟨_, member, _⟩
      exact absurd member List.not_mem_nil
  · exact fun _ _ _ _ _ _ held stepped => held.step (deployment_step stepped)

/-- What is stored or waits to be stored was accepted before. -/
theorem run_accepted (run : (deployment crates state).Execution (.initial store) trace d)
    (registration : String × RegisteredInstance) :
    (trace.flatMap DeploymentEvent.stored).count registration +
        (d.world.tasks.filterMap Task.registration).count registration ≤
      (trace.flatMap DeploymentEvent.accepted).count registration := by
  refine run.history (P := fun trace d =>
    (trace.flatMap DeploymentEvent.stored).count registration +
        (d.world.tasks.filterMap Task.registration).count registration ≤
      (trace.flatMap DeploymentEvent.accepted).count registration) (Nat.le_refl 0) ?_
  intro trace d operation d' event _ held stepped
  simp only [List.flatMap_append, List.flatMap_singleton, List.count_append]
  cases deployment_step stepped with
  | restarted =>
      have none : (World.initial d.store).tasks.filterMap Task.registration = [] := rfl
      simp only [DeploymentEvent.stored, DeploymentEvent.accepted, none, List.count_nil]
      omega
  | @served served _ took _ =>
      obtain ⟨waiting, left, tasks⟩ := took.tasks
      have split := (left.filterMap Task.registration).count_eq registration
      rw [List.filterMap_append, List.count_append] at split
      rw [tasks, List.filterMap_append, List.count_append]
      simp only [DeploymentEvent.stored, DeploymentEvent.accepted]
      omega

theorem challenges_once (run : (deployment crates state).Execution (.initial store) trace d) :
    ChallengesOnce crates trace where
  once challenge := by
    rw [atMostOnce_iff]
    rintro earlier event later rfl ⟨served, rfl, registers⟩ other member registersToo
    obtain ⟨d, d', operation, before, stepped, _⟩ := run.at_event
    cases deployment_step stepped with
    | served took =>
        have traced := run_challengesTraced before
        obtain ⟨⟨expiry, _, found, _⟩, _⟩ := traced.registers took registers
        rw [(traced.used ⟨other, member, registersToo⟩).2] at found
        cases found
  inTime := by
    rintro earlier served later challenge rfl registers
    obtain ⟨d, d', operation, before, stepped, _⟩ := run.at_event
    cases deployment_step stepped with
    | served took =>
        have traced := run_challengesTraced before
        obtain ⟨⟨expiry, now, found, clocked, inTime⟩, _⟩ := traced.registers took registers
        obtain ⟨_, issuer, member, issues⟩ := traced.issued found
        exact ⟨issuer, member, expiry, now, issues, clocked, inTime⟩
  accepted registration := (Nat.le_add_right _ _).trans (run_accepted run registration)

/-- Registrations that wait to be stored have a counter of zero. -/
theorem run_unused (run : (deployment crates state).Execution (.initial store) trace d)
    {keyId : String} {inst : RegisteredInstance}
    (waits : Task.appAttestStore keyId inst ∈ d.world.tasks) : inst.signCount = 0 := by
  refine run.invariant (I := fun d => ∀ keyId inst,
    Task.appAttestStore keyId inst ∈ d.world.tasks → inst.signCount = 0) ?_ ?_ keyId inst waits
  · exact fun _ _ impossible => absurd impossible List.not_mem_nil
  · intro d operation d' event held stepped keyId inst waits
    cases deployment_step stepped with
    | restarted => exact absurd waits List.not_mem_nil
    | served took =>
        rcases took.task_cases waits with before | suspended
        · exact held keyId inst before
        · obtain ⟨_, _, zero⟩ := took.store_suspended suspended
          exact zero

/-- Counters can only be used once, and challenges too, in exactly those runs in which no
registration is stored over a counter that has been used. -/
theorem appAttest_once_iff (run : (deployment crates state).Execution (.initial store) trace d) :
    CountersSafe crates state store trace ∧ ChallengesOnce crates trace ↔
      NoReset crates state store trace := by
  constructor
  · rintro ⟨safe, _⟩ earlier d event keyId inst taken origin registered found
    obtain ⟨d', moved⟩ := taken.transitionAt
    obtain ⟨later, foundLater, atMost⟩ := safe.kept earlier d _ d' moved keyId registered found
    obtain ⟨_, _, _, before, stepped⟩ := moved
    cases deployment_step stepped with
    | @served _ _ took written =>
        have zero := run_unused before (took.resumed_mem origin)
        rw [written.trans (storeAfter_stored took (run_synced before) origin),
          AList.lookup_insert] at foundLater
        cases foundLater
        rw [zero] at atMost
        exact UInt32.le_zero_iff.mp atMost
  · intro noReset
    have counted := run_counted run noReset
    refine ⟨⟨fun keyId => (counted keyId).1, fun keyId assertion =>
      once_of_increasing run (counted keyId).1 assertion, ?_⟩, challenges_once run⟩
    intro earlier d event d' moved
    refine (StepAt.counterStep moved).kept ?_
    rintro served keyId inst rfl origin
    exact noReset earlier d served keyId inst moved.stepAt origin

end Challenges

/-- The accepted request of the device with this assertion. -/
theorem assert_accepts (env : Environment) (assertion clientData : Bytes) :
    DeploymentEvent.AcceptsAssertion attesting attestedState AttestedDevice.keyIdText assertion
      (.served ⟨.arrived (.appAttestAssert (AttestedDevice.assertRequest assertion clientData)), env,
        .ok (.finished .ok), []⟩) :=
  ⟨_, _, rfl, AttestedDevice.assert_asserted env assertion clientData, rfl, rfl⟩

/-- A registered device asserts. -/
theorem appAttest_once_asserted :
    ∃ store trace d, (deployment attesting attestedState).Execution (.initial store) trace d ∧
      (∃ keyId assertion, ∃ event ∈ trace,
        DeploymentEvent.AcceptsAssertion attesting attestedState keyId assertion event) ∧
      CountersSafe attesting attestedState store trace ∧ ChallengesOnce attesting trace := by
  let store : StringMap RegisteredInstance :=
    AList.insert AttestedDevice.keyIdText (attestedDevice.instanceAt 0) ∅
  obtain ⟨assertion, wrote⟩ := AttestedDevice.asserts 1 []
  obtain ⟨_, run⟩ := deployment_serves (AttestedDevice.asserts_run (s := .initial store)
    (.steady referenceHost 1000 "" [] []) wrote (AList.lookup_insert _) (by decide)) store
  refine ⟨store, _, _, run, ⟨_, assertion, _, .head _, assert_accepts _ assertion []⟩, ?_⟩
  refine (appAttest_once_iff run).mpr ?_
  intro earlier d event keyId inst taken origin
  cases List.mem_singleton.mp taken.mem
  cases origin

/-- A device that registers its key again can have an assertion accepted again. -/
theorem registration_resets_counter :
    ∃ trace d, (deployment attesting attestedState).Execution (.initial ∅) trace d ∧
      ¬ (CountersSafe attesting attestedState ∅ trace ∧ ChallengesOnce attesting trace) := by
  have apart : Draw.token (randomToken attesting [2]) ∉
      [] ++ [Draw.token (randomToken attesting [1])] := by decide
  let env (octet : UInt8) : Environment := .steady referenceHost 1000 "" [octet] []
  obtain ⟨assertion, wrote⟩ := AttestedDevice.asserts 1 []
  obtain ⟨first, s, run, none⟩ := AttestedDevice.registers_asserts (s := .initial ∅) (env 1) rfl rfl
    (by decide) List.not_mem_nil wrote (by decide)
  obtain ⟨second, t, rerun, _⟩ := AttestedDevice.registers_asserts (env 2) none rfl (by decide)
    apart wrote (by decide)
  obtain ⟨store, served⟩ := deployment_serves (run.trans rerun) ∅
  refine ⟨_, ⟨_, store⟩, served, fun ⟨safe, _⟩ => ?_⟩
  have once := atMostOnce_iff.mp (safe.once AttestedDevice.keyIdText assertion)
  rw [List.map_append, List.map_append, List.map_append, ← List.append_assoc] at once
  refine once _ _ [] rfl (assert_accepts _ assertion []) _ ?_ (assert_accepts (env 1) assertion [])
  simp

end VCIssuer.Service
