import VCIssuer.Service.AppAttestOnce
import VCIssuer.Service.Restarts

/-!
# App instances by their history

Which challenges are outstanding, and what is known of an app instance, told from
the history alone.  A challenge ends with the process, a registered instance does
not.
-/

namespace VCIssuer.Service

open VCIssuer.Library
open VCIssuer.Library.Critical

/-! ## Outstanding challenges -/

/-- The event ends a challenge: it presents it, or it is a call for another challenge at a time
when this one has expired. -/
inductive Event.EndsChallenge (event : Event) (challenge : String) (expiry : UInt64) : Prop
  | presented {request : AppAttestRegisterRequest}
      (origin : event.origin = .arrived (.appAttestRegister request))
      (named : request.challenge = challenge) (clocked : event.env.clock.isSome) :
      EndsChallenge event challenge expiry
  | dropped {now : UInt64} (origin : event.origin = .arrived .appAttestChallenge)
      (clocked : event.env.clock = some now) (expired : expiry ≤ now) :
      EndsChallenge event challenge expiry

/-- A challenge was handed out with this expiry, and no event has ended it since. -/
def ChallengeAwaits (crates : Crates) (trace : List Event) (challenge : String)
    (expiry : UInt64) : Prop :=
  Epochs.Since (Event.IssuesChallenge crates · challenge expiry)
    (Event.EndsChallenge · challenge expiry) trace

section Maps

variable {α : Type} {key : String} {value : α}

theorem lookup_foldl_erase (gone : List (Sigma fun _ : String => α)) (map : StringMap α)
    (key : String) :
    (gone.foldl (fun kept entry => kept.erase entry.1) map).lookup key =
      if key ∈ gone.map Sigma.fst then none else map.lookup key := by
  induction gone generalizing map with
  | nil => rfl
  | cons entry rest carried =>
      rw [List.foldl_cons, carried, List.map_cons]
      by_cases same : key = entry.1
      · subst same
        rw [AList.lookup_erase, ite_self, if_pos (.head _)]
      · rw [AList.lookup_erase_ne same]
        simp only [List.mem_cons, same, false_or]

/-- Erasing the entries that are not wanted keeps those that are. -/
theorem lookup_retained {wanted : α → Prop} [DecidablePred wanted] {map : StringMap α} :
    ((map.entries.filter fun entry => !decide (wanted entry.2)).foldl
        (fun kept entry => kept.erase entry.1) map).lookup key = some value ↔
      map.lookup key = some value ∧ wanted value := by
  have among : key ∈ (map.entries.filter fun entry => !decide (wanted entry.2)).map Sigma.fst ↔
      ∃ value, map.lookup key = some value ∧ ¬ wanted value := by
    simp only [List.mem_map, List.mem_filter, Bool.not_eq_true', decide_eq_false_iff_not]
    constructor
    · rintro ⟨⟨_, value⟩, ⟨member, unwanted⟩, rfl⟩
      exact ⟨value, (List.mem_dlookup_iff map.nodupKeys).mpr member, unwanted⟩
    · rintro ⟨value, found, unwanted⟩
      exact ⟨⟨key, value⟩, ⟨(List.mem_dlookup_iff map.nodupKeys).mp found, unwanted⟩, rfl⟩
  rw [lookup_foldl_erase]
  split
  case isTrue erased =>
    obtain ⟨_, found, unwanted⟩ := among.mp erased
    refine iff_of_false nofun ?_
    rintro ⟨foundToo, isWanted⟩
    cases found.symm.trans foundToo
    exact unwanted isWanted
  case isFalse kept =>
    constructor
    · intro found
      refine ⟨found, ?_⟩
      by_contra unwanted
      exact kept (among.mpr ⟨value, found, unwanted⟩)
    · exact And.left

end Maps

section Challenges

variable {crates : Crates} {state : AppState} {w w' : World} {event : Event} {challenge : String}
  {expiry : UInt64}

theorem appAttestChallenge_returns {clock : ClockReading} {octets : Bytes}
    {response : AppAttestChallengeResponse} {s t : VolatileState} {log : List Mark} :
    Returns (appAttestChallenge crates state clock octets) s response t log ↔
      state.appAttest.isSome ∧ ∃ now, clock = some now ∧
        response = ⟨randomToken crates octets, 300⟩ ∧
        t = { s with
              appAttestChallenges :=
                ((s.appAttestChallenges.entries.filter fun entry =>
                  !decide (now < entry.2)).foldl (fun kept entry => kept.erase entry.1)
                    s.appAttestChallenges).insert (randomToken crates octets)
                      (saturatingAdd now 300) } ∧
        log = [] := by
  have present : ¬ state.appAttest.isNone = true ↔ state.appAttest.isSome = true := by
    rw [Bool.not_eq_true, Option.isNone_eq_false_iff]
  simp only [appAttestChallenge, returns_rejectIf_bind, returns_ofExcept_bind, unixTime_eq_ok,
    returns_modify_bind, returns_pure, present]

/-- An answered call for a challenge hands out a new one and drops what has expired. -/
theorem Took.challenged (took : Took crates state w event w')
    (origin : event.origin = .arrived .appAttestChallenge) {progress : Progress}
    (reply : event.reply = .ok progress) :
    state.appAttest.isSome ∧ ∃ now, event.env.clock = some now ∧
      event.IssuesChallenge crates (randomToken crates event.env.octets) (saturatingAdd now 300) ∧
      w'.inner.appAttestChallenges.lookup (randomToken crates event.env.octets) =
        some (saturatingAdd now 300) ∧
      ∀ {challenge expiry}, challenge ≠ randomToken crates event.env.octets →
        (w'.inner.appAttestChallenges.lookup challenge = some expiry ↔
          w.inner.appAttestChallenges.lookup challenge = some expiry ∧ now < expiry) := by
  have returned := took.returned reply
  rw [origin] at returned
  obtain ⟨response, answered, rfl⟩ := (returns_bind_pure _ _ _ _ _ _).mp returned
  obtain ⟨configured, now, clocked, rfl, inner, _⟩ := appAttestChallenge_returns.mp answered
  rw [inner]
  refine ⟨configured, now, clocked, ⟨origin, reply, rfl, now, clocked, rfl⟩,
    AList.lookup_insert _, fun other => ?_⟩
  exact (AList.lookup_insert_ne other).congr_left.trans lookup_retained

/-- A rejected registration has taken its challenge away, unless App Attest is not configured or
the clock cannot be read. -/
theorem appAttestRegister_rejects {request : AppAttestRegisterRequest} {clock : ClockReading}
    {s t : VolatileState} {log : List Mark}
    (rejected : Rejects (appAttestRegister crates state request clock) s t log) :
    t = { s with appAttestChallenges := s.appAttestChallenges.erase request.challenge } ∧
        clock.isSome ∨
      t = s ∧ (state.appAttest = none ∨ clock = none) := by
  simp only [appAttestRegister, rejects_okOr_bind, rejects_ofExcept_bind, rejects_read_bind,
    rejects_modify_bind, rejects_rejectIf_bind, rejects_pure, and_false, exists_false, or_false]
    at rejected
  rcases rejected with ⟨absent, rfl, _⟩ | ⟨_, _, ⟨⟨_, unread⟩, rfl, _⟩ | ⟨now, read, rejected⟩⟩
  · exact .inr ⟨rfl, .inl absent⟩
  · exact .inr ⟨rfl, .inr (unixTime_error unread)⟩
  · refine .inl ⟨?_, by rw [(unixTime_eq_ok _ _).mp read]; rfl⟩
    grind

/-- Once the clock is read, a registration takes its challenge away, whatever comes of it. -/
theorem Took.presented (took : Took crates state w event w') {request : AppAttestRegisterRequest}
    (origin : event.origin = .arrived (.appAttestRegister request))
    (configured : state.appAttest.isSome) (clocked : event.env.clock.isSome) :
    w'.inner.appAttestChallenges = w.inner.appAttestChallenges.erase request.challenge := by
  cases reply : event.reply with
  | ok progress =>
      obtain ⟨_, _, _, _, _, _, _, _, erased⟩ := took.registers origin reply
      exact erased
  | error failure =>
      have rejected := took.rejected reply
      rw [origin] at rejected
      rcases appAttestRegister_rejects ((rejects_bind_pure _ _ _ _ _).mp rejected) with
        ⟨taken, _⟩ | ⟨_, absent | unread⟩
      · rw [taken]
      · rw [absent] at configured
        cases configured
      · rw [unread] at clocked
        cases clocked

/-- What is not ended stays outstanding. -/
theorem Took.challenge_kept (took : Took crates state w event w')
    (drawn : Draw.token challenge ∈ w.drawn)
    (found : w.inner.appAttestChallenges.lookup challenge = some expiry)
    (lasts : ¬ event.EndsChallenge challenge expiry) :
    w'.inner.appAttestChallenges.lookup challenge = some expiry := by
  by_cases isCall : event.origin = .arrived .appAttestChallenge
  case pos =>
    cases reply : event.reply with
    | ok progress =>
        obtain ⟨_, now, clocked, issues, _, others⟩ := took.challenged isCall reply
        refine (others ?_).mpr ⟨found, ?_⟩
        · rintro rfl
          exact (took.challenge_fresh issues).1 drawn
        · by_contra expired
          exact lasts (.dropped isCall clocked (UInt64.not_lt.mp expired))
    | error failure =>
        have rejected := took.rejected reply
        rw [isCall] at rejected
        rwa [appAttestChallenge_rejects ((rejects_bind_pure _ _ _ _ _).mp rejected)]
  case neg =>
    by_cases isNamed : ∃ request, event.origin = .arrived (.appAttestRegister request) ∧
        request.challenge = challenge
    · obtain ⟨request, origin, named⟩ := isNamed
      have unread : event.env.clock.isSome = false :=
        Bool.eq_false_iff.mpr fun clocked => lasts (.presented origin named clocked)
      cases reply : event.reply with
      | ok progress =>
          obtain ⟨_, _, _, _, clocked, _⟩ := took.registers origin reply
          rw [clocked] at unread
          cases unread
      | error failure =>
          have rejected := took.rejected reply
          rw [origin] at rejected
          rcases appAttestRegister_rejects ((rejects_bind_pure _ _ _ _ _).mp rejected) with
            ⟨_, clocked⟩ | ⟨same, _⟩
          · cases unread.symm.trans clocked
          · rwa [same]
    · have wrote := took.writes
      refine wrote.preserves (P := fun u => u.appAttestChallenges.lookup challenge = some expiry)
        ?_ found
      generalize event.origin = origin at wrote isCall isNamed
      intro u _ v write held
      cases write with
      | issueChallenge kept => exact absurd rfl isCall
      | takeChallenge request =>
          refine (AList.lookup_erase_ne fun same => isNamed ⟨request, rfl, same.symm⟩).trans held
      | _ => exact held

/-- What is ended is outstanding no longer. -/
theorem Took.challenge_ended (took : Took crates state w event w')
    (configured : state.appAttest.isSome) (drawn : Draw.token challenge ∈ w.drawn)
    (ends : event.EndsChallenge challenge expiry) :
    w'.inner.appAttestChallenges.lookup challenge ≠ some expiry := by
  cases ends with
  | presented origin named clocked =>
      rw [took.presented origin configured clocked, named, AList.lookup_erase]
      exact nofun
  | @dropped now origin clocked expired =>
      intro found
      cases reply : event.reply with
      | ok progress =>
          obtain ⟨_, _, clockedToo, issues, _, others⟩ := took.challenged origin reply
          cases clocked.symm.trans clockedToo
          have other : challenge ≠ randomToken crates event.env.octets := by
            rintro rfl
            exact (took.challenge_fresh issues).1 drawn
          exact UInt64.not_lt.mpr expired ((others other).mp found).2
      | error failure =>
          have answered : Returns (appAttestChallenge crates state event.env.clock
              event.env.octets) w.inner _ _ _ :=
            appAttestChallenge_returns.mpr ⟨configured, now, clocked, rfl, rfl, rfl⟩
          have replied := took.replied origin ((returns_bind_pure _ _ _ _ _ _).mpr
            ⟨_, answered, rfl⟩)
          cases reply.symm.trans replied

theorem Took.issued_lookup (took : Took crates state w event w')
    (issues : event.IssuesChallenge crates challenge expiry) :
    state.appAttest.isSome ∧ w'.inner.appAttestChallenges.lookup challenge = some expiry := by
  obtain ⟨configured, now, clocked, _, found, _⟩ := took.challenged issues.origin issues.reply
  obtain ⟨_, clockedToo, expires⟩ := issues.expiry
  cases clocked.symm.trans clockedToo
  rw [issues.made, expires]
  exact ⟨configured, found⟩

end Challenges

section Runs

variable {crates : Crates} {state : AppState} {instances : StringMap RegisteredInstance}
  {trace : List Event} {w : World} {event : Event}

/-- A challenge is outstanding exactly when the history has handed it out and not ended it. -/
theorem run_challenges_recorded
    (run : (process crates state).Execution (World.initial instances) trace w)
    (challenge : String) (expiry : UInt64) :
    w.inner.appAttestChallenges.lookup challenge = some expiry ↔
      ChallengeAwaits crates trace challenge expiry := by
  suffices recorded : (w.inner.appAttestChallenges.lookup challenge = some expiry ↔
      ChallengeAwaits crates trace challenge expiry) ∧
    (ChallengeAwaits crates trace challenge expiry →
      state.appAttest.isSome ∧ Draw.token challenge ∈ w.drawn) from recorded.1
  refine run.history (P := fun trace w =>
    (w.inner.appAttestChallenges.lookup challenge = some expiry ↔
      ChallengeAwaits crates trace challenge expiry) ∧
    (ChallengeAwaits crates trace challenge expiry →
      state.appAttest.isSome ∧ Draw.token challenge ∈ w.drawn)) ?_ ?_
  · exact ⟨iff_of_false nofun Epochs.since_nil, fun awaits => absurd awaits Epochs.since_nil⟩
  · rintro trace s action t event - ⟨held, backed⟩ stepped
    have took := step_took stepped
    rw [ChallengeAwaits, Epochs.since_concat, ← ChallengeAwaits, ← held]
    rw [← held] at backed
    constructor
    · constructor
      · intro found
        rcases took.challenge_cases found with before | issues
        · obtain ⟨configured, drawn⟩ := backed before
          exact .inl ⟨before, fun ends => took.challenge_ended configured drawn ends found⟩
        · exact .inr issues
      · rintro (⟨before, lasts⟩ | issues)
        · exact took.challenge_kept (backed before).2 before lasts
        · exact (took.issued_lookup issues).2
    · rintro (⟨before, _⟩ | issues)
      · exact ⟨(backed before).1, took.drawn_subset (backed before).2⟩
      · exact ⟨(took.issued_lookup issues).1, (took.challenge_fresh issues).2⟩

end Runs

/-! ## Registrations -/

/-- A registration that nothing stands against, and the instance it is for. -/
structure Registration (crates : Crates) (state : AppState) (trace : List Event)
    (env : Environment) (request : AppAttestRegisterRequest) (inst : RegisteredInstance) where
  config : AppAttestConfig
  configured : state.appAttest = some config
  now : UInt64
  clocked : env.clock = some now
  expiry : UInt64
  awaits : ChallengeAwaits crates trace request.challenge expiry
  inTime : now < expiry
  keyId : Bytes
  keyRead : crates.standardDecode request.keyId = some keyId
  attestation : Bytes
  attestationRead : crates.standardDecode request.attestation = some attestation
  bounded : attestation.length ≤ maxAppAttestBytes
  attested : Attestation crates attestation (Text.asBytes request.challenge) keyId config now
  registered : inst = ⟨attested.appId, attested.credPoint, 0⟩

section Registrations

variable {crates : Crates} {state : AppState} {instances : StringMap RegisteredInstance}
  {earlier : List Event} {w w' : World} {event : Event}

theorem appAttestRegister_returns {request : AppAttestRegisterRequest} {clock : ClockReading}
    {inst : RegisteredInstance} {s t : VolatileState} {log : List Mark} :
    Returns (appAttestRegister crates state request clock) s inst t log ↔
      ∃ config now expiry keyId attestation, state.appAttest = some config ∧ clock = some now ∧
        s.appAttestChallenges.lookup request.challenge = some expiry ∧ now < expiry ∧
        crates.standardDecode request.keyId = some keyId ∧
        crates.standardDecode request.attestation = some attestation ∧
        attestation.length ≤ maxAppAttestBytes ∧
        (∃ attested : Attestation crates attestation (Text.asBytes request.challenge) keyId config
          now, inst = ⟨attested.appId, attested.credPoint, 0⟩) ∧
        t = { s with appAttestChallenges := s.appAttestChallenges.erase request.challenge } ∧
        log = [] := by
  simp only [appAttestRegister, returns_okOr_bind, returns_ofExcept_bind, returns_read_bind,
    returns_modify_bind, returns_rejectIf_bind, returns_pure, unixTime_eq_ok, not_not,
    Checks.mapError_eq_ok, Nat.not_lt, verifyAttestation_eq_ok]
  constructor
  · rintro ⟨config, configured, now, clocked, ⟨expiry, found, inTime⟩, keyId, keyRead, attestation,
      attestationRead, bounded, _, ⟨attested, rfl⟩, rfl, rfl, rfl⟩
    exact ⟨config, now, expiry, keyId, attestation, configured, clocked, found, inTime, keyRead,
      attestationRead, bounded, ⟨attested, rfl⟩, rfl, rfl⟩
  · rintro ⟨config, now, expiry, keyId, attestation, configured, clocked, found, inTime, keyRead,
      attestationRead, bounded, ⟨attested, rfl⟩, rfl, rfl⟩
    exact ⟨config, configured, now, clocked, ⟨expiry, found, inTime⟩, keyId, keyRead, attestation,
      attestationRead, bounded, _, ⟨attested, rfl⟩, rfl, rfl, rfl⟩

theorem Took.registers_iff (took : Took crates state w event w')
    (past : (process crates state).Execution (World.initial instances) earlier w)
    {request : AppAttestRegisterRequest}
    (origin : event.origin = .arrived (.appAttestRegister request)) (inst : RegisteredInstance) :
    event.reply = .ok (.suspended (.appAttestStore request.keyId inst)) ↔
      Nonempty (Registration crates state earlier event.env request inst) := by
  constructor
  · intro reply
    have returned := took.returned reply
    rw [origin] at returned
    obtain ⟨_, answered, same⟩ := (returns_bind_pure _ _ _ _ _ _).mp returned
    cases same
    obtain ⟨config, now, expiry, keyId, attestation, configured, clocked, found, inTime, keyRead,
      attestationRead, bounded, ⟨attested, registered⟩, _⟩ := appAttestRegister_returns.mp answered
    exact ⟨{
      config, now, expiry, keyId, attestation, configured, clocked, inTime, keyRead,
      attestationRead, bounded, attested, registered
      awaits := (run_challenges_recorded past _ _).mp found }⟩
  · rintro ⟨registration⟩
    have answered : Returns (appAttestRegister crates state request event.env.clock) w.inner inst
        _ _ :=
      appAttestRegister_returns.mpr ⟨_, _, _, _, _, registration.configured, registration.clocked,
        (run_challenges_recorded past _ _).mpr registration.awaits, registration.inTime,
        registration.keyRead, registration.attestationRead, registration.bounded,
        ⟨registration.attested, registration.registered⟩, rfl, rfl⟩
    exact took.replied origin ((returns_bind_pure _ _ _ _ _ _).mpr ⟨inst, answered, rfl⟩)

end Registrations

/-! ## Registered instances -/

/-- What an event does to the instance under a key. -/
inductive InstanceChange where
  | stored (inst : RegisteredInstance)
  | counted (counter : UInt32)

def InstanceChange.after : Option RegisteredInstance → InstanceChange → Option RegisteredInstance
  | _, .stored inst => some inst
  | known, .counted counter => known.map fun inst => { inst with signCount := counter }

section Words

variable (crates : Crates) (state : AppState)

/-- A registration is stored, or the counter of an accepted assertion is. -/
def Event.instanceChange (event : Event) : Option (String × InstanceChange) :=
  match event.origin with
  | .resumed (.appAttestStore keyId inst) => some (keyId, .stored inst)
  | _ => do
      let call ← event.asserted crates state
      let counter ← assertionCounter crates call.assertion
      return (call.keyId, .counted counter)

/-- The changes to the instance under a key in a history, in their order. -/
def changesTo (keyId : String) (trace : List DeploymentEvent) : List InstanceChange :=
  ((trace.filterMap DeploymentEvent.event).filterMap (Event.instanceChange crates state)).filterMap
    fun change => if change.1 = keyId then some change.2 else none

/-- What the store at the start and the history since make of the instance under a key. -/
def recordedInstance (store : StringMap RegisteredInstance) (trace : List DeploymentEvent)
    (keyId : String) : Option RegisteredInstance :=
  (changesTo crates state keyId trace).foldl InstanceChange.after (store.lookup keyId)

end Words

section Instances

variable {crates : Crates} {state : AppState} {store : StringMap RegisteredInstance}
  {trace earlier later : List DeploymentEvent} {d : Deployment} {w w' : World} {event : Event}

theorem instanceChange_stored {keyId : String} {inst : RegisteredInstance} :
    event.instanceChange crates state = some (keyId, .stored inst) ↔
      event.origin = .resumed (.appAttestStore keyId inst) := by
  constructor
  · intro changed
    unfold Event.instanceChange at changed
    split at changed
    case h_1 _ _ origin =>
      cases changed
      exact origin
    case h_2 =>
      simp only [Option.bind_eq_bind, Option.bind_eq_some_iff, Option.pure_def,
        Option.some.injEq] at changed
      obtain ⟨_, _, _, _, impossible⟩ := changed
      cases impossible
  · intro origin
    rw [Event.instanceChange, origin]

theorem instanceChange_asserted
    (notStore : ∀ keyId inst, event.origin ≠ .resumed (.appAttestStore keyId inst)) :
    event.instanceChange crates state = (event.asserted crates state).bind fun call =>
      (assertionCounter crates call.assertion).map fun counter => (call.keyId, .counted counter) := by
  unfold Event.instanceChange
  split
  case h_1 keyId inst origin => exact absurd origin (notStore keyId inst)
  case h_2 => simp only [Option.bind_eq_bind, Option.pure_def, Option.map_eq_bind, Function.comp_def]

theorem changesTo_changed {named : String} {change : InstanceChange}
    (changed : event.instanceChange crates state = some (named, change)) (keyId : String) :
    changesTo crates state keyId [.served event] = if named = keyId then [change] else [] := by
  by_cases same : named = keyId <;> simp [changesTo, DeploymentEvent.event, changed, same]

theorem changesTo_unchanged (unchanged : event.instanceChange crates state = none)
    (keyId : String) : changesTo crates state keyId [.served event] = [] := by
  simp [changesTo, DeploymentEvent.event, unchanged]

theorem recordedInstance_concat (last : DeploymentEvent) (keyId : String) :
    recordedInstance crates state store (trace ++ [last]) keyId =
      (changesTo crates state keyId [last]).foldl InstanceChange.after
        (recordedInstance crates state store trace keyId) := by
  simp only [recordedInstance, changesTo, List.filterMap_append, List.foldl_append]

/-- The instances after a step, by the one change that it makes, if any. -/
theorem Took.instance_lookup (took : Took crates state w event w') (keyId : String) :
    w'.inner.appAttestInstances.lookup keyId =
      (changesTo crates state keyId [.served event]).foldl InstanceChange.after
        (w.inner.appAttestInstances.lookup keyId) := by
  by_cases isStore : ∃ keyId inst, event.origin = .resumed (.appAttestStore keyId inst)
  · obtain ⟨stored, inst, origin⟩ := isStore
    rw [changesTo_changed (instanceChange_stored.mpr origin), took.stored origin]
    by_cases same : stored = keyId
    · subst same
      rw [if_pos rfl, AList.lookup_insert]
      rfl
    · rw [if_neg same, AList.lookup_insert_ne (Ne.symm same)]
      rfl
  · have notStore : ∀ keyId inst, event.origin ≠ .resumed (.appAttestStore keyId inst) :=
      fun keyId inst same => isStore ⟨keyId, inst, same⟩
    have changed := @instanceChange_asserted crates state event notStore
    cases asserted : event.asserted crates state with
    | none =>
        rw [asserted] at changed
        rw [changesTo_unchanged changed, took.unasserted notStore asserted]
        rfl
    | some call =>
        obtain ⟨inst, counter, accepts⟩ := took.asserted asserted
        rw [asserted, Option.bind_some, accepts.counter_eq] at changed
        rw [changesTo_changed changed, accepts.inner]
        by_cases same : call.keyId = keyId
        · subst same
          rw [if_pos rfl, AList.lookup_insert, accepts.found]
          rfl
        · rw [if_neg same, AList.lookup_insert_ne (Ne.symm same)]
          rfl

/-- In every run the registered instances are what the store and the history say. -/
theorem run_instances_recorded
    (run : (deployment crates state).Execution (.initial store) trace d) (keyId : String) :
    d.world.inner.appAttestInstances.lookup keyId =
      recordedInstance crates state store trace keyId := by
  refine run.history (P := fun trace d => d.world.inner.appAttestInstances.lookup keyId =
    recordedInstance crates state store trace keyId) rfl ?_
  intro trace d operation d' event before held stepped
  rw [recordedInstance_concat, ← held]
  cases deployment_step stepped with
  | restarted =>
      have synced : d.store = d.world.inner.appAttestInstances := run_synced before
      rw [← synced]
      rfl
  | served took => exact took.instance_lookup keyId

/-- An instance that is known has the app and the key that were last stored for it, or that it had
at the start. -/
theorem recordedInstance_cases {keyId : String} {inst : RegisteredInstance}
    (known : recordedInstance crates state store trace keyId = some inst) :
    ∃ first, inst = { first with signCount := inst.signCount } ∧
      (store.lookup keyId = some first ∨
        ∃ before stored after, trace = before ++ .served stored :: after ∧
          stored.origin = .resumed (.appAttestStore keyId first)) := by
  induction trace using List.reverseRecOn generalizing inst with
  | nil => exact ⟨inst, rfl, .inl known⟩
  | append_singleton trace last held =>
      have earlier : ∀ {inst}, recordedInstance crates state store trace keyId = some inst →
          ∃ first, inst = { first with signCount := inst.signCount } ∧
            (store.lookup keyId = some first ∨
              ∃ before stored after, trace ++ [last] = before ++ .served stored :: after ∧
                stored.origin = .resumed (.appAttestStore keyId first)) := by
        intro inst known
        obtain ⟨first, same, atStart | ⟨before, stored, after, rfl, origin⟩⟩ := held known
        · exact ⟨first, same, .inl atStart⟩
        · exact ⟨first, same, .inr ⟨before, stored, after ++ [last], by simp, origin⟩⟩
      rw [recordedInstance_concat] at known
      cases last with
      | restarted => exact earlier known
      | served event =>
          cases changed : event.instanceChange crates state with
          | none =>
              rw [changesTo_unchanged changed] at known
              exact earlier known
          | some change =>
              obtain ⟨named, change⟩ := change
              rw [changesTo_changed changed] at known
              by_cases same : named = keyId
              · subst same
                rw [if_pos rfl] at known
                cases change with
                | stored first =>
                    cases known
                    exact ⟨_, rfl, .inr ⟨trace, event, [], rfl,
                      instanceChange_stored.mp changed⟩⟩
                | counted counter =>
                    obtain ⟨before, found, rfl⟩ := Option.map_eq_some_iff.mp known
                    obtain ⟨first, same, origin⟩ := earlier found
                    exact ⟨first, by rw [same], origin⟩
              · rw [if_neg same] at known
                exact earlier known

end Instances

/-! ## Registrations and assertions of the service -/

section Deployed

variable {crates : Crates} {state : AppState} {store : StringMap RegisteredInstance}
  {earlier later : List DeploymentEvent} {event : Event} {d : Deployment}

/-- A registration goes on exactly when its challenge was handed out since the last restart, has
not expired, was not presented and not dropped since, and the attestation verifies for it. -/
theorem registration_proceeds_iff {request : AppAttestRegisterRequest}
    (run : (deployment crates state).Execution (.initial store)
      (earlier ++ .served event :: later) d)
    (origin : event.origin = .arrived (.appAttestRegister request)) (inst : RegisteredInstance) :
    event.reply = .ok (.suspended (.appAttestStore request.keyId inst)) ↔
      Nonempty (Registration crates state (sinceRestart earlier) event.env request inst) := by
  obtain ⟨_, _, _, past, took, _⟩ := deployment_at_event run
  exact took.registers_iff past origin inst

/-- The reference device has registered, and nothing is under way. -/
theorem device_registered :
    ∃ trace d, (deployment attesting attestedState).Execution (.initial ∅) trace d ∧
      recordedInstance attesting attestedState ∅ trace AttestedDevice.keyIdText =
        some (attestedDevice.instanceAt 0) := by
  obtain ⟨trace, registered⟩ := AttestedDevice.registers (s := .initial ∅)
    (.steady referenceHost 1000 "" [1] []) rfl rfl (by decide) List.not_mem_nil
  obtain ⟨store, served⟩ := deployment_serves registered ∅
  exact ⟨_, _, served, (run_instances_recorded served _).symm.trans (AList.lookup_insert _)⟩

theorem Took.asserts_iff {w w' : World} (took : Took crates state w event w') {request : Request}
    {call : AssertionCall} (origin : event.origin = .arrived request)
    (calls : request.assertionCall crates state = some call)
    (configured : state.appAttest.isSome) :
    (∃ progress, event.reply = .ok progress) ↔
      ∃ inst, w.inner.appAttestInstances.lookup call.keyId = some inst ∧
        Nonempty (Assertion crates call.assertion call.clientData inst) := by
  constructor
  · rintro ⟨progress, reply⟩
    have asserted : event.asserted crates state = some call := by
      rw [Event.asserted, origin, reply]
      exact calls
    obtain ⟨inst, _, accepts⟩ := took.asserted asserted
    obtain ⟨accepted, _⟩ := accepts.verified
    exact ⟨inst, accepts.found, ⟨accepted⟩⟩
  · rintro ⟨inst, found, ⟨accepted⟩⟩
    obtain ⟨t, verified⟩ : ∃ t, Returns (verifyAppAttestAssertion crates call.keyId call.assertion
        call.clientData) w.inner () t [] :=
      ⟨_, (verifyAppAttestAssertion_returns _ _ _ _ _ _).mpr ⟨inst, found, accepted, rfl, rfl⟩⟩
    cases request with
    | appAttestAssert request =>
        simp only [Request.assertionCall, Option.bind_eq_bind, Option.bind_eq_some_iff,
          Option.pure_def, Option.some.injEq] at calls
        obtain ⟨assertion, decoded, clientData, decodedData, rfl⟩ := calls
        have answered : Returns (appAttestAssert crates state request) w.inner () t [] := by
          simp only [appAttestAssert, returns_rejectIf_bind, returns_okOr_bind]
          exact ⟨by simp [Option.isSome_iff_ne_none.mp configured], _, decoded, _, decodedData,
            verified⟩
        exact ⟨_, took.replied origin ((returns_bind_pure _ _ _ _ _ _).mpr ⟨(), answered, rfl⟩)⟩
    | submitPidCaptureEvidence id headers body =>
        simp only [Request.assertionCall, Option.bind_eq_bind, Option.bind_eq_some_iff,
          Option.pure_def, Option.some.injEq] at calls
        obtain ⟨config, configured, keyId, keyGiven, encoded, given, assertion, decoded, rfl⟩ :=
          calls
        have answered : Returns (enforceAppAttest crates state headers body) w.inner () t [] := by
          simp only [enforceAppAttest, configured, returns_okOr_bind]
          exact ⟨_, keyGiven, _, given, _, decoded, verified⟩
        exact ⟨_, took.replied origin ((returns_bind_pure _ _ _ _ _ _).mpr ⟨(), answered, rfl⟩)⟩
    | _ => cases calls

/-- The reference device has registered, the service has restarted, and the device asserts. -/
theorem device_asserted :
    ∃ earlier event d request call, (deployment attesting attestedState).Execution (.initial ∅)
        (earlier ++ [.restarted] ++ [.served event]) d ∧
      event.origin = .arrived request ∧
      request.assertionCall attesting attestedState = some call ∧
      event.asserted attesting attestedState = some call ∧
      event.reply = .ok (.finished .ok) := by
  obtain ⟨earlier, d, run, known⟩ := device_registered
  have restarted : (deployment attesting attestedState).step d .restart = some
      (⟨{ World.initial d.store with drawn := d.world.drawn }, d.store⟩, .restarted) := rfl
  have found : d.store.lookup AttestedDevice.keyIdText = some (attestedDevice.instanceAt 0) := by
    rw [run_synced run, run_instances_recorded run, known]
  obtain ⟨assertion, wrote⟩ := AttestedDevice.asserts 1 []
  obtain ⟨_, served⟩ := deployment_serves (AttestedDevice.asserts_run (s := .initial d.store)
    (.steady referenceHost 1000 "" [] []) wrote found (by decide)) d.store
  have asserted := AttestedDevice.assert_asserted (.steady referenceHost 1000 "" [] []) assertion []
  exact ⟨earlier, _, _, _, _, (run.step restarted).trans served, rfl, asserted, asserted, rfl⟩

/-- An assertion is accepted exactly when it verifies under what the store at the start and the
whole history, restarts included, make of the instance: the app and the key that were stored last,
and the counter that was accepted last since. -/
theorem assertion_accepted_iff {request : Request} {call : AssertionCall}
    (run : (deployment crates state).Execution (.initial store)
      (earlier ++ .served event :: later) d)
    (origin : event.origin = .arrived request)
    (calls : request.assertionCall crates state = some call)
    (configured : state.appAttest.isSome) :
    (∃ progress, event.reply = .ok progress) ↔
      ∃ inst, recordedInstance crates state store earlier call.keyId = some inst ∧
        Nonempty (Assertion crates call.assertion call.clientData inst) := by
  obtain ⟨_, _, _, before, stepped, _⟩ := run.at_event
  rw [← run_instances_recorded before]
  cases deployment_step stepped with
  | served took => exact took.asserts_iff origin calls configured

theorem assertion_accepted_reference :
    ∃ earlier event d request call inst,
      (deployment attesting attestedState).Execution (.initial ∅)
        (earlier ++ [.restarted] ++ [.served event]) d ∧
      event.origin = .arrived request ∧
      request.assertionCall attesting attestedState = some call ∧
      recordedInstance attesting attestedState ∅ (earlier ++ [.restarted]) call.keyId = some inst ∧
      Nonempty (Assertion attesting call.assertion call.clientData inst) := by
  obtain ⟨earlier, event, d, request, call, run, origin, calls, _, reply⟩ := device_asserted
  obtain ⟨inst, known, verified⟩ := (assertion_accepted_iff run origin calls rfl).mp ⟨_, reply⟩
  exact ⟨earlier, event, d, request, call, inst, run, origin, calls, known, verified⟩

/-- What is stored was registered before, in the same life of the process. -/
theorem stored_registered {keyId : String} {inst : RegisteredInstance}
    (run : (deployment crates state).Execution (.initial store)
      (earlier ++ .served event :: later) d)
    (origin : event.origin = .resumed (.appAttestStore keyId inst)) :
    ∃ before registering after request, earlier = before ++ .served registering :: after ∧
      registering.origin = .arrived (.appAttestRegister request) ∧ request.keyId = keyId ∧
      Nonempty (Registration crates state (sinceRestart before) registering.env request inst) := by
  obtain ⟨_, _, _, past, storing, _⟩ := deployment_at_event run
  obtain ⟨_, _, registering, ⟨_, _, rest, whole, epoch, registered⟩, suspended⟩ :=
    run_suspended past _ (storing.resumed_mem origin)
  have took := step_took registered
  obtain ⟨request, asked, _⟩ := took.store_suspended suspended
  obtain ⟨_, _, _, _, _, _, same, _⟩ := took.registers asked suspended
  injection same with same
  injection same with sameKey
  rw [sameKey] at suspended ⊢
  have behind := (took.registers_iff epoch asked inst).mp suspended
  obtain ⟨before, shown, after, rfl, isServed, rfl⟩ := Epochs.epoch_split whole
  cases event_eq_some isServed
  exact ⟨before, registering, after, request, rfl, asked, rfl, behind⟩

theorem registration_proceeds_reference :
    ∃ earlier event later d request inst,
      (deployment attesting attestedState).Execution (.initial ∅)
        (earlier ++ .served event :: later) d ∧
      event.origin = .arrived (.appAttestRegister request) ∧
      Nonempty (Registration attesting attestedState (sinceRestart earlier) event.env request inst) ∧
      event.reply = .ok (.suspended (.appAttestStore request.keyId inst)) := by
  obtain ⟨_, _, run, known⟩ := device_registered
  obtain ⟨_, _, atStart | ⟨_, _, _, rfl, origin⟩⟩ := recordedInstance_cases known
  · cases atStart
  · obtain ⟨earlier, event, later, request, rfl, asked, _, registration⟩ :=
      stored_registered run origin
    rw [List.append_assoc, List.cons_append] at run
    exact ⟨earlier, event, _, _, request, _, run, asked, registration,
      (registration_proceeds_iff run asked _).mpr registration⟩

/-- Behind an accepted assertion stands a registration, in this life of the process or an earlier
one, whose attestation Apple's root vouches for and whose challenge was outstanding: the assertion
verifies under the attested key, for the attested app. -/
theorem assertion_attested {call : AssertionCall}
    (run : (deployment crates state).Execution (.initial ∅)
      (earlier ++ .served event :: later) d)
    (asserted : event.asserted crates state = some call) :
    ∃ before registering after request inst counter,
      earlier = before ++ .served registering :: after ∧
      registering.origin = .arrived (.appAttestRegister request) ∧ request.keyId = call.keyId ∧
      Nonempty (Registration crates state (sinceRestart before) registering.env request inst) ∧
      Nonempty (Assertion crates call.assertion call.clientData
        { inst with signCount := counter }) := by
  obtain ⟨_, _, _, ran, stepped, _⟩ := run.at_event
  cases deployment_step stepped with
  | served took =>
      obtain ⟨inst, counter, accepts⟩ := took.asserted asserted
      obtain ⟨accepted, _⟩ := accepts.verified
      have recorded := (run_instances_recorded ran call.keyId).symm.trans accepts.found
      obtain ⟨first, same, atStart | ⟨past, stored, after, rfl, origin⟩⟩ :=
        recordedInstance_cases recorded
      · cases atStart
      · obtain ⟨before, registering, between, request, rfl, asked, named, registration⟩ :=
          stored_registered ran origin
        rw [same] at accepted
        exact ⟨before, registering, between ++ .served stored :: after, request, first,
          inst.signCount, by simp, asked, named, registration, ⟨accepted⟩⟩

theorem assertion_attested_reference :
    ∃ earlier event d call before registering after request inst,
      (deployment attesting attestedState).Execution (.initial ∅)
        (earlier ++ [.restarted] ++ [.served event]) d ∧
      event.asserted attesting attestedState = some call ∧
      earlier ++ [.restarted] = before ++ .served registering :: after ∧
      registering.origin = .arrived (.appAttestRegister request) ∧ request.keyId = call.keyId ∧
      Nonempty (Registration attesting attestedState (sinceRestart before) registering.env request
        inst) := by
  obtain ⟨earlier, event, d, _, call, run, _, _, asserted, _⟩ := device_asserted
  obtain ⟨before, registering, after, request, inst, _, whole, asked, named, registration, _⟩ :=
    assertion_attested run asserted
  exact ⟨earlier, event, d, call, before, registering, after, request, inst, run, asserted, whole,
    asked, named, registration⟩

end Deployed

end VCIssuer.Service
