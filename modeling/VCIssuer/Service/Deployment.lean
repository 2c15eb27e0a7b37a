import VCIssuer.Service.Provenance

/-!
# A deployment with a durable store

The App Attest instances are written to a store whenever a registration is
stored or an assertion is accepted, and are read back when the process starts
again.  A restart loses everything else, and the requests that are under way.
-/

namespace VCIssuer.Service

open VCIssuer.Library
open VCIssuer.Library.Critical

/-! ## Accepted assertions -/

/-- The key identifier, the assertion and the bytes that it signs. -/
structure AssertionCall where
  keyId : String
  assertion : Bytes
  clientData : Bytes

section Calls

variable (crates : Crates) (state : AppState)

/-- The call of the shared assertion check that a request makes, if it gets that far. -/
def Request.assertionCall : Request → Option AssertionCall
  | .appAttestAssert request => do
      let assertion ← crates.standardDecode request.assertion
      let clientData ← crates.standardDecode request.clientData
      return { keyId := request.keyId, assertion, clientData }
  | .submitPidCaptureEvidence _ headers body => do
      let _ ← state.appAttest
      let keyId ← headerStr headers "x-app-attest-key-id"
      let encoded ← headerStr headers "x-app-attest-assertion"
      let assertion ← crates.standardDecode encoded
      return { keyId, assertion, clientData := body }
  | _ => none

/-- The assertion that an event accepted. -/
def Event.asserted (event : Event) : Option AssertionCall :=
  match event.origin, event.reply with
  | .arrived request, .ok _ => request.assertionCall crates state
  | _, _ => none

/-- The counter in the authenticator data of an assertion. -/
def assertionCounter (assertion : Bytes) : Option UInt32 := do
  let map ← (crates.cborFromSlice assertion).bind CborValue.asMap
  let authenticatorData ← (CborValue.get map "authenticatorData").bind CborValue.asBytes
  return counterOf authenticatorData

/-- The events that end with a call of `save_instances`. -/
def Event.saves (event : Event) : Bool :=
  match event.origin with
  | .resumed (.appAttestStore _ _) => true
  | _ => (event.asserted crates state).isSome

end Calls

/-! ## The machine -/

structure Deployment where
  world : World
  store : StringMap RegisteredInstance

def Deployment.initial (store : StringMap RegisteredInstance) : Deployment where
  world := .initial store
  store := store

inductive Operation where
  | act (action : Action)
  | restart

inductive DeploymentEvent where
  | served (event : Event)
  | restarted

section Steps

variable (crates : Crates) (state : AppState)

/-- The store after a step of the process. -/
def storeAfter (store : StringMap RegisteredInstance) (event : Event) (w : World) :
    StringMap RegisteredInstance :=
  if event.saves crates state then w.inner.appAttestInstances else store

/-- Values drawn before a restart are not drawn again after it. -/
def deploymentStep (d : Deployment) : Operation → Option (Deployment × DeploymentEvent)
  | .act action =>
      (step crates state d.world action).map fun next =>
        (⟨next.1, storeAfter crates state d.store next.2 next.1⟩, .served next.2)
  | .restart =>
      some (⟨{ World.initial d.store with drawn := d.world.drawn }, d.store⟩, .restarted)

def deployment : Machine Deployment Operation DeploymentEvent := ⟨deploymentStep crates state⟩

end Steps

/-- A step of the process with the store behind it, or a restart. -/
inductive DeploymentStep (crates : Crates) (state : AppState) (d : Deployment) :
    DeploymentEvent → Deployment → Prop
  | served {event : Event} {d' : Deployment} (took : Took crates state d.world event d'.world)
      (store : d'.store = storeAfter crates state d.store event d'.world) :
      DeploymentStep crates state d (.served event) d'
  | restarted : DeploymentStep crates state d .restarted
      ⟨{ World.initial d.store with drawn := d.world.drawn }, d.store⟩

theorem deployment_step {crates : Crates} {state : AppState} {d d' : Deployment}
    {operation : Operation} {event : DeploymentEvent}
    (stepped : (deployment crates state).step d operation = some (d', event)) :
    DeploymentStep crates state d event d' := by
  change deploymentStep crates state d operation = _ at stepped
  cases operation with
  | act action =>
      obtain ⟨⟨w, served⟩, accepted, same⟩ := Option.map_eq_some_iff.mp stepped
      cases same
      exact .served (step_took accepted) rfl
  | restart =>
      cases stepped
      exact .restarted

/-- Without restarts the process runs as it does alone. -/
theorem deployment_serves {crates : Crates} {state : AppState} {w w' : World} {trace : List Event}
    (run : (process crates state).Execution w trace w') (store : StringMap RegisteredInstance) :
    ∃ store', (deployment crates state).Execution ⟨w, store⟩ (trace.map .served)
      ⟨w', store'⟩ := by
  induction run with
  | start => exact ⟨store, .start⟩
  | @step _ _ w' action event _ accepted served =>
      obtain ⟨before, served⟩ := served
      have stepped : (deployment crates state).step ⟨_, before⟩ (.act action) =
          some (⟨w', storeAfter crates state before event w'⟩, .served event) :=
        Option.map_eq_some_iff.mpr ⟨_, accepted, rfl⟩
      rw [List.map_append]
      exact ⟨_, served.step stepped⟩

/-! ## What a step does to the instances -/

section Instances

variable {crates : Crates} {state : AppState} {w w' : World} {event : Event}

/-- Only a stored registration and the requests with an assertion change the instances. -/
theorem Writes.instances_eq {env : Environment} {origin : Origin} {s t : VolatileState}
    {log : List Mark} (writes : Writes crates state env origin s log t)
    (notStore : ∀ keyId inst, origin ≠ .resumed (.appAttestStore keyId inst))
    (notAsserts : origin.asserts = false) : t.appAttestInstances = s.appAttestInstances := by
  refine writes.preserves (P := fun u => u.appAttestInstances = s.appAttestInstances) ?_ rfl
  intro u _ v write held
  cases write with
  | storeInstance keyId inst => exact absurd rfl (notStore keyId inst)
  | advance asserts keyId inst =>
      rw [notAsserts] at asserts
      cases asserts
  | _ => exact held

theorem Took.stored (took : Took crates state w event w') {keyId : String}
    {inst : RegisteredInstance} (origin : event.origin = .resumed (.appAttestStore keyId inst)) :
    w'.inner.appAttestInstances = w.inner.appAttestInstances.insert keyId inst := by
  have ran := took.ran
  rw [origin] at ran
  obtain ⟨_, inner, _⟩ := Outcome.mk.inj ran
  rw [← inner]
  rfl

/-- An accepted assertion by an instance that was registered before the step. -/
structure Accepts (crates : Crates) (w : World) (call : AssertionCall) (inst : RegisteredInstance)
    (counter : UInt32) (w' : World) : Prop where
  found : w.inner.appAttestInstances.lookup call.keyId = some inst
  verified : ∃ accepted : Assertion crates call.assertion call.clientData inst,
    counter = counterOf accepted.authenticatorData
  inner : w'.inner =
    { w.inner with
      appAttestInstances :=
        w.inner.appAttestInstances.insert call.keyId { inst with signCount := counter } }

theorem Accepts.advanced {call : AssertionCall} {inst : RegisteredInstance} {counter : UInt32}
    (accepts : Accepts crates w call inst counter w') : inst.signCount < counter := by
  obtain ⟨accepted, rfl⟩ := accepts.verified
  exact accepted.advanced

theorem Accepts.counter_eq {call : AssertionCall} {inst : RegisteredInstance} {counter : UInt32}
    (accepts : Accepts crates w call inst counter w') :
    assertionCounter crates call.assertion = some counter := by
  obtain ⟨accepted, rfl⟩ := accepts.verified
  simp [assertionCounter, accepted.read, accepted.dataRead]

theorem verifyAppAttestAssertion_returns (keyId : String) (assertion clientData : Bytes)
    (s t : VolatileState) (log : List Mark) :
    Returns (verifyAppAttestAssertion crates keyId assertion clientData) s () t log ↔
      ∃ inst, s.appAttestInstances.lookup keyId = some inst ∧
        ∃ accepted : Assertion crates assertion clientData inst,
          t = { s with
                appAttestInstances := s.appAttestInstances.insert keyId
                  { inst with signCount := counterOf accepted.authenticatorData } } ∧
          log = [] := by
  simp only [verifyAppAttestAssertion, returns_read_bind, returns_okOr_bind,
    returns_ofExcept_bind, Checks.mapError_eq_ok, verifyAssertion_eq_ok, returns_modify_bind,
    returns_pure, true_and]
  constructor
  · rintro ⟨inst, found, _, ⟨accepted, rfl⟩, rfl, rfl⟩
    exact ⟨inst, found, accepted, rfl, rfl⟩
  · rintro ⟨inst, found, accepted, rfl, rfl⟩
    exact ⟨inst, found, _, ⟨accepted, rfl⟩, rfl, rfl⟩

/-- A rejected assertion leaves everything as it was. -/
theorem verifyAppAttestAssertion_rejects {keyId : String} {assertion clientData : Bytes}
    {s t : VolatileState} {log : List Mark}
    (rejected : Rejects (verifyAppAttestAssertion crates keyId assertion clientData) s t log) :
    t = s := by
  simp only [verifyAppAttestAssertion, rejects_read_bind, rejects_okOr_bind,
    rejects_ofExcept_bind, rejects_modify_bind, rejects_pure] at rejected
  grind

theorem Took.asserted (took : Took crates state w event w') {call : AssertionCall}
    (asserted : event.asserted crates state = some call) :
    ∃ inst counter, Accepts crates w call inst counter w' := by
  unfold Event.asserted at asserted
  split at asserted
  case h_2 => cases asserted
  case h_1 request progress origin reply =>
    have returned := took.returned reply
    rw [origin] at returned
    cases request with
    | appAttestAssert request =>
        simp only [Request.assertionCall, Option.bind_eq_bind, Option.bind_eq_some_iff,
          Option.pure_def, Option.some.injEq] at asserted
        obtain ⟨assertion, decoded, clientData, decodedData, rfl⟩ := asserted
        obtain ⟨_, answered, _⟩ := (returns_bind_pure _ _ _ _ _ _).mp returned
        simp only [appAttestAssert, returns_rejectIf_bind, returns_okOr_bind] at answered
        obtain ⟨_, _, read, _, readData, verified⟩ := answered
        cases decoded.symm.trans read
        cases decodedData.symm.trans readData
        obtain ⟨inst, found, accepted, inner, _⟩ :=
          (verifyAppAttestAssertion_returns _ _ _ _ _ _).mp verified
        exact ⟨inst, _, found, ⟨accepted, rfl⟩, inner⟩
    | submitPidCaptureEvidence id headers body =>
        simp only [Request.assertionCall, Option.bind_eq_bind, Option.bind_eq_some_iff,
          Option.pure_def, Option.some.injEq] at asserted
        obtain ⟨config, configured, keyId, keyGiven, encoded, given, assertion, decoded, rfl⟩ :=
          asserted
        obtain ⟨_, answered, _⟩ := (returns_bind_pure _ _ _ _ _ _).mp returned
        simp only [enforceAppAttest, configured, returns_okOr_bind, keyGiven, given,
          Option.some.injEq, exists_eq_left', decoded] at answered
        obtain ⟨inst, found, accepted, inner, _⟩ :=
          (verifyAppAttestAssertion_returns _ _ _ _ _ _).mp answered
        exact ⟨inst, _, found, ⟨accepted, rfl⟩, inner⟩
    | _ => cases asserted

theorem appAttestAssert_rejects {request : AppAttestAssertRequest} {s t : VolatileState}
    {log : List Mark} (rejected : Rejects (appAttestAssert crates state request) s t log) :
    t = s := by
  simp only [appAttestAssert, rejects_rejectIf_bind, rejects_okOr_bind] at rejected
  rcases rejected with ⟨_, rfl, _⟩ | ⟨_, ⟨_, rfl, _⟩ | ⟨_, _, ⟨_, rfl, _⟩ | ⟨_, _, verified⟩⟩⟩
  · rfl
  · rfl
  · rfl
  · exact verifyAppAttestAssertion_rejects verified

theorem enforceAppAttest_rejects {headers : HeaderMap} {body : Bytes} {s t : VolatileState}
    {log : List Mark} (rejected : Rejects (enforceAppAttest crates state headers body) s t log) :
    t = s := by
  unfold enforceAppAttest at rejected
  split at rejected
  case h_1 => exact absurd rejected (rejects_pure _ _ _ _)
  case h_2 =>
    simp only [rejects_okOr_bind] at rejected
    rcases rejected with ⟨_, rfl, _⟩ | ⟨_, _, ⟨_, rfl, _⟩ | ⟨_, _, ⟨_, rfl, _⟩ | ⟨_, _, verified⟩⟩⟩
    · rfl
    · rfl
    · rfl
    · exact verifyAppAttestAssertion_rejects verified

/-- Without an accepted assertion or a stored registration the instances stay as they are. -/
theorem Took.unasserted (took : Took crates state w event w')
    (notStore : ∀ keyId inst, event.origin ≠ .resumed (.appAttestStore keyId inst))
    (unasserted : event.asserted crates state = none) :
    w'.inner.appAttestInstances = w.inner.appAttestInstances := by
  by_cases asserts : event.origin.asserts = true
  case neg => exact took.writes.instances_eq notStore (Bool.not_eq_true _ ▸ asserts)
  case pos =>
    cases reply : event.reply with
    | error failure =>
        have rejected := took.rejected reply
        cases origin : event.origin with
        | resumed task => rw [origin] at asserts; cases asserts
        | arrived request =>
            rw [origin] at rejected asserts
            cases request with
            | appAttestAssert request =>
                rw [appAttestAssert_rejects ((rejects_bind_pure _ _ _ _ _).mp rejected)]
            | submitPidCaptureEvidence id headers body =>
                rw [enforceAppAttest_rejects ((rejects_bind_pure _ _ _ _ _).mp rejected)]
            | _ => cases asserts
    | ok progress =>
        have returned := took.returned reply
        cases origin : event.origin with
        | resumed task => rw [origin] at asserts; cases asserts
        | arrived request =>
            simp only [Event.asserted, origin, reply] at unasserted
            rw [origin] at returned asserts
            cases request with
            | appAttestAssert request =>
                obtain ⟨_, answered, _⟩ := (returns_bind_pure _ _ _ _ _ _).mp returned
                simp only [appAttestAssert, returns_rejectIf_bind, returns_okOr_bind] at answered
                obtain ⟨_, _, decoded, _, decodedData, _⟩ := answered
                simp [Request.assertionCall, decoded, decodedData] at unasserted
            | submitPidCaptureEvidence id headers body =>
                obtain ⟨_, answered, _⟩ := (returns_bind_pure _ _ _ _ _ _).mp returned
                unfold enforceAppAttest at answered
                split at answered
                case h_1 =>
                  obtain ⟨_, inner, _⟩ := (returns_pure _ _ _ _ _).mp answered
                  rw [inner]
                case h_2 config configured =>
                  simp only [returns_okOr_bind] at answered
                  obtain ⟨_, keyGiven, _, given, _, decoded, _⟩ := answered
                  simp [Request.assertionCall, configured, keyGiven, given, decoded] at unasserted
            | _ => cases asserts

end Instances

/-! ## Challenges -/

section Challenges

variable {crates : Crates} {state : AppState} {w w' : World} {event : Event}

/-- A challenge is handed out, to be accepted before the given time. -/
structure Event.IssuesChallenge (crates : Crates) (event : Event) (challenge : String)
    (expiry : UInt64) : Prop where
  origin : event.origin = .arrived .appAttestChallenge
  reply : event.reply = .ok (.finished (.challenge ⟨challenge, 300⟩))
  made : challenge = randomToken crates event.env.octets
  expiry : ∃ now, event.env.clock = some now ∧ expiry = saturatingAdd now 300

/-- A registration over this challenge is accepted, and is still to be stored. -/
def Event.Registers (event : Event) (challenge : String) : Prop :=
  ∃ request progress, event.origin = .arrived (.appAttestRegister request) ∧
    event.reply = .ok progress ∧ request.challenge = challenge

theorem Writes.challenges_eq {env : Environment} {origin : Origin} {s t : VolatileState}
    {log : List Mark} (writes : Writes crates state env origin s log t)
    (notIssue : origin ≠ .arrived .appAttestChallenge) {challenge : String} {expiry : UInt64}
    (found : t.appAttestChallenges.lookup challenge = some expiry) :
    s.appAttestChallenges.lookup challenge = some expiry := by
  refine writes.preserves (P := fun u => u.appAttestChallenges.lookup challenge = some expiry →
    s.appAttestChallenges.lookup challenge = some expiry) ?_ id found
  intro u _ v write held
  cases write with
  | issueChallenge kept => exact absurd rfl notIssue
  | takeChallenge request =>
      intro after
      by_cases same : challenge = request.challenge
      · subst same
        rw [AList.lookup_erase] at after
        cases after
      · rw [AList.lookup_erase_ne same] at after
        exact held after
  | _ => exact held

/-- Erasing some entries keeps no others. -/
theorem lookup_of_lookup_foldl_erase {α : Type} {map : StringMap α}
    {gone : List (Sigma fun _ : String => α)} {key : String} {value : α}
    (found : (gone.foldl (fun kept entry => kept.erase entry.1) map).lookup key = some value) :
    map.lookup key = some value := by
  induction gone generalizing map with
  | nil => exact found
  | cons entry rest carried =>
      have kept := carried found
      by_cases same : key = entry.1
      · subst same
        rw [AList.lookup_erase] at kept
        cases kept
      · rwa [AList.lookup_erase_ne same] at kept

theorem appAttestChallenge_rejects {clock : ClockReading} {octets : Bytes} {s t : VolatileState}
    {log : List Mark} (rejected : Rejects (appAttestChallenge crates state clock octets) s t log) :
    t = s := by
  simp only [appAttestChallenge, rejects_rejectIf_bind, rejects_ofExcept_bind,
    rejects_modify_bind, rejects_pure, and_false, exists_false, or_false] at rejected
  rcases rejected with ⟨_, rfl, _⟩ | ⟨_, _, rfl, _⟩ <;> rfl

/-- An outstanding challenge was outstanding before the step, or the step handed it out. -/
theorem Took.challenge_cases (took : Took crates state w event w') {challenge : String}
    {expiry : UInt64} (found : w'.inner.appAttestChallenges.lookup challenge = some expiry) :
    w.inner.appAttestChallenges.lookup challenge = some expiry ∨
      event.IssuesChallenge crates challenge expiry := by
  by_cases origin : event.origin = .arrived .appAttestChallenge
  case neg => exact .inl (took.writes.challenges_eq origin found)
  case pos =>
    cases reply : event.reply with
    | error failure =>
        have rejected := took.rejected reply
        rw [origin] at rejected
        rw [appAttestChallenge_rejects ((rejects_bind_pure _ _ _ _ _).mp rejected)] at found
        exact .inl found
    | ok progress =>
        have returned := took.returned reply
        rw [origin] at returned
        obtain ⟨response, answered, rfl⟩ := (returns_bind_pure _ _ _ _ _ _).mp returned
        simp only [appAttestChallenge, returns_rejectIf_bind, returns_ofExcept_bind,
          unixTime_eq_ok, returns_modify_bind, returns_pure] at answered
        obtain ⟨_, now, clocked, rfl, inner, _⟩ := answered
        rw [inner] at found
        rcases lookup_insert_cases found with ⟨rfl, rfl⟩ | kept
        · exact .inr ⟨origin, reply, rfl, now, clocked, rfl⟩
        · exact .inl (lookup_of_lookup_foldl_erase kept)

/-- A registration is accepted on an outstanding challenge only, takes it away, and leaves the
registration waiting with a counter of zero. -/
theorem Took.registers (took : Took crates state w event w') {request : AppAttestRegisterRequest}
    {progress : Progress} (origin : event.origin = .arrived (.appAttestRegister request))
    (reply : event.reply = .ok progress) :
    ∃ expiry now inst, w.inner.appAttestChallenges.lookup request.challenge = some expiry ∧
      event.env.clock = some now ∧ now < expiry ∧
      progress = .suspended (.appAttestStore request.keyId inst) ∧ inst.signCount = 0 ∧
      w'.inner.appAttestChallenges = w.inner.appAttestChallenges.erase request.challenge := by
  have returned := took.returned reply
  rw [origin] at returned
  obtain ⟨inst, answered, rfl⟩ := (returns_bind_pure _ _ _ _ _ _).mp returned
  simp only [appAttestRegister, returns_okOr_bind, returns_ofExcept_bind, returns_read_bind,
    returns_modify_bind, returns_rejectIf_bind, returns_pure, unixTime_eq_ok, not_not]
    at answered
  obtain ⟨_, _, now, clocked, ⟨expiry, found, inTime⟩, _, _, _, _, _, _, _, rfl, inner, _⟩ :=
    answered
  exact ⟨expiry, now, _, found, clocked, inTime, rfl, rfl, by rw [inner]⟩

/-- Only an accepted registration waits to be stored. -/
theorem Took.store_suspended (took : Took crates state w event w') {keyId : String}
    {inst : RegisteredInstance}
    (reply : event.reply = .ok (.suspended (.appAttestStore keyId inst))) :
    ∃ request, event.origin = .arrived (.appAttestRegister request) ∧ inst.signCount = 0 := by
  have returned := took.returned reply
  cases origin : event.origin with
  | arrived request =>
      cases request with
      | appAttestRegister request =>
          obtain ⟨_, _, _, _, _, _, same, zero, _⟩ := took.registers origin reply
          cases same
          exact ⟨request, rfl, zero⟩
      | nonce =>
          rw [origin] at returned
          obtain ⟨_, _, returned⟩ := (returns_okOr_bind _ _ _ _ _ _ _).mp returned
          obtain ⟨_, _, same⟩ := (returns_bind_pure _ _ _ _ _ _).mp returned
          cases same
      | _ =>
          rw [origin] at returned
          obtain ⟨_, _, same⟩ := (returns_bind_pure _ _ _ _ _ _).mp returned
          cases same
  | resumed task =>
      rw [origin] at returned
      cases task with
      | _ =>
          obtain ⟨_, _, same⟩ := (returns_bind_pure _ _ _ _ _ _).mp returned
          cases same

end Challenges

end VCIssuer.Service
