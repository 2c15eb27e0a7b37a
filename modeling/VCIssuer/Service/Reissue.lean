import VCIssuer.Service.Provenance

/-!
# Repeated issuance

An access token stays in the state with everything that was recorded with it.
The kernel is always told that nothing has been issued yet, so whether a
credential is issued a second time depends on the second request alone.
-/

namespace VCIssuer.Service

open VCIssuer.Library
open VCIssuer.Library.Critical

section Persistence

variable {crates : Crates} {state : AppState} {trace : List Event} {w w' : World} {event : Event}

/-- A token keeps its record, since new tokens are fresh and none is removed. -/
theorem Took.token_kept (took : Took crates state w event w') (grounded : w.Grounded)
    {accessToken : String} {access : AccessToken}
    (found : w.inner.tokens.lookup accessToken = some access) :
    w'.inner.tokens.lookup accessToken = some access := by
  cases took.authorizationStep with
  | checked _ _ _ _ _ inner => rw [inner]; exact found
  | pushed _ _ _ _ inner => rw [inner]; exact found
  | taken _ _ _ _ _ _ inner => rw [inner]; exact found
  | issued _ _ _ _ inner => rw [inner]; exact found
  | redeemed headers request grant origin reply inner =>
      have draws : event.origin.draws crates event.env =
          some [.token (randomToken crates event.env.octets)] := by rw [origin]; rfl
      rw [inner]
      refine (AList.lookup_insert_ne ?_).trans found
      rintro rfl
      exact (took.drew draws (.head _)).1
        (VolatileState.Grounded.tokens grounded (mem_of_lookup found))
  | aside _ _ _ _ tokens => rw [tokens]; exact found

theorem run_token_kept (run : (process crates state).Execution w trace w')
    (grounded : w.Grounded) {accessToken : String} {access : AccessToken}
    (found : w.inner.tokens.lookup accessToken = some access) :
    w'.inner.tokens.lookup accessToken = some access := by
  refine (run.invariant
    (I := fun w => w.Grounded ∧ w.inner.tokens.lookup accessToken = some access)
    ⟨grounded, found⟩ ?_).2
  intro _ _ _ _ held stepped
  have took := step_took stepped
  exact ⟨took.grounded held.1, took.token_kept held.1 held.2⟩

end Persistence

/-! ## One more request under the same token -/

/-- A credential request brings evidence of its own, for the key of the token's record, and its
credential can be encoded. -/
def FreshEvidence (crates : Crates) (state : AppState) (s : VolatileState) (headers : HeaderMap)
    (request : CredentialRequest) (env : Environment) (access : AccessToken) : Prop :=
  ∃ evidence : CredentialEvidence crates state s headers request env.dpopClock env.proofClock
      env.clock,
    evidence.jkt = access.dpopJkt ∧ ∃ response,
      encodeCredential crates state env.host (evidence.decision access.tlsnEvidence) = .ok response

/-- The token of a request is known, and its record covers the requested configuration. -/
structure Covered (s : VolatileState) (headers : HeaderMap) (request : CredentialRequest)
    (accessToken : String) (access : AccessToken) : Prop where
  presented : bearer headers = some accessToken
  found : s.tokens.lookup accessToken = some access
  inScope : request.credentialConfigurationId ∈ Text.splitAsciiWhitespace access.scope
  tlsnBound : request.credentialConfigurationId = tlsnEvidenceSdJwt → access.tlsnEvidence.isSome

/-- The event answers with a credential for this configuration under this token. -/
def Event.IssuesFor (event : Event) (accessToken configurationId : String) : Prop :=
  ∃ headers request response, event.origin = .arrived (.credential headers request) ∧
    event.reply = .ok (.finished (.credential response)) ∧ bearer headers = some accessToken ∧
    request.credentialConfigurationId = configurationId

section Requests

variable {crates : Crates} {state : AppState} {w w' : World} {event : Event}
  {headers : HeaderMap} {request : CredentialRequest} {accessToken : String}
  {access : AccessToken}

/-- Under a token that covers the configuration a request is answered exactly when its own
evidence is fresh. -/
theorem issuesFor_iff_freshEvidence (took : Took crates state w event w')
    (origin : event.origin = .arrived (.credential headers request))
    (covered : Covered w.inner headers request accessToken access) :
    event.IssuesFor accessToken request.credentialConfigurationId ↔
      FreshEvidence crates state w.inner headers request event.env access := by
  constructor
  · rintro ⟨_, _, response, origin', reply, _, _⟩
    cases origin.symm.trans origin'
    obtain ⟨grant, encoded, _, _⟩ := took.credentialGrant origin reply
    cases covered.presented.symm.trans grant.tokenGiven
    cases covered.found.symm.trans grant.accessFound
    exact ⟨grant.toCredentialEvidence, grant.bound.symm, response, encoded⟩
  · rintro ⟨evidence, key, response, encoded⟩
    have returned := (credential_returns event.env.dpopClock event.env.proofClock event.env.clock
      event.env.host response).mpr ⟨{
        evidence with
        token := accessToken, access
        tokenGiven := covered.presented
        accessFound := covered.found
        inScope := covered.inScope
        tlsnBound := covered.tlsnBound
        bound := key.symm }, encoded, rfl, rfl⟩
    have answered := (returns_bind_pure _ (fun a => Progress.finished (.credential a)) _ _ _ _).mpr
      ⟨response, returned, rfl⟩
    exact ⟨headers, request, response, origin, took.replied origin answered, covered.presented, rfl⟩

/-- A credential is issued only under a token that covers it. -/
theorem Took.covered (took : Took crates state w event w')
    (origin : event.origin = .arrived (.credential headers request))
    (issues : event.IssuesFor accessToken request.credentialConfigurationId) :
    ∃ access, Covered w.inner headers request accessToken access := by
  obtain ⟨_, _, response, origin', reply, presented, _⟩ := issues
  cases origin.symm.trans origin'
  obtain ⟨grant, _, _, _⟩ := took.credentialGrant origin reply
  cases presented.symm.trans grant.tokenGiven
  exact ⟨grant.access, presented, grant.accessFound, grant.inScope, grant.tlsnBound⟩

end Requests

section Runs

variable {crates : Crates} {state : AppState} {instances : StringMap RegisteredInstance}
  {trace : List Event} {w : World} {headers : HeaderMap} {request : CredentialRequest}
  {accessToken : String}

/-- An issuance leaves a token that covers the configuration from then on. -/
theorem issued_covered
    (run : (process crates state).Execution (World.initial instances) trace w) {first : Event}
    (member : first ∈ trace)
    (issued : first.IssuesFor accessToken request.credentialConfigurationId)
    (presented : bearer headers = some accessToken) :
    ∃ access, Covered w.inner headers request accessToken access := by
  obtain ⟨earlier, later, rfl⟩ := List.append_of_mem member
  obtain ⟨s, t, _, before, stepped, last⟩ := run.at_event
  have took := step_took stepped
  obtain ⟨wellformed, _⟩ := run_respects (wellformed_initial instances) before
  obtain ⟨_, source, _, origin, _, _, same⟩ := id issued
  rw [← same] at issued
  obtain ⟨access, covered⟩ := took.covered origin issued
  refine ⟨access, presented, ?_, ?_, ?_⟩
  · exact run_token_kept last (took.grounded wellformed.grounded)
      (took.token_kept wellformed.grounded covered.found)
  · rw [← same]
    exact covered.inScope
  · rw [← same]
    exact covered.tlsnBound

end Runs

/-- No repeated request of the run brings fresh evidence: whatever comes after an issuance, under
the same token and for the same configuration, fails a check of its own. -/
def RepeatsAreStale (crates : Crates) (state : AppState) (start : World) (trace : List Event) :
    Prop :=
  ∀ {earlier : List Event} {s : World} {event first : Event} {headers : HeaderMap}
    {request : CredentialRequest} {accessToken : String} {access : AccessToken},
    (process crates state).StepAt start trace earlier s event →
    event.origin = .arrived (.credential headers request) → bearer headers = some accessToken →
    first ∈ earlier → first.IssuesFor accessToken request.credentialConfigurationId →
    s.inner.tokens.lookup accessToken = some access →
    ¬ FreshEvidence crates state s.inner headers request event.env access

/-- A run issues at most once under each token for each configuration exactly when no repeated
request of it brings fresh evidence. -/
theorem issues_once_iff {crates : Crates} {state : AppState}
    {instances : StringMap RegisteredInstance} {trace : List Event} {w : World}
    (run : (process crates state).Execution (World.initial instances) trace w) :
    (∀ accessToken configurationId,
        AtMostOnce (Event.IssuesFor · accessToken configurationId) trace) ↔
      RepeatsAreStale crates state (World.initial instances) trace := by
  simp only [atMostOnce_iff]
  constructor
  · intro once earlier s event first headers request accessToken access stepAt origin presented
      member issued found fresh
    obtain ⟨action, t, later, rfl, before, stepped⟩ := stepAt
    obtain ⟨_, covered⟩ := issued_covered before member issued presented
    cases covered.found.symm.trans found
    have again := (issuesFor_iff_freshEvidence (step_took stepped) origin covered).mpr fresh
    exact once _ _ earlier event later rfl again first member issued
  · intro stale accessToken configurationId earlier event later same issues first member issued
    subst same
    obtain ⟨s, action, t, rest, same, before, stepped⟩ := run.stepAt
    have took := step_took stepped
    obtain ⟨headers, request, _, origin, _, presented, rfl⟩ := id issues
    obtain ⟨access, covered⟩ := took.covered origin issues
    have fresh := (issuesFor_iff_freshEvidence took origin covered).mp issues
    exact stale ⟨action, t, rest, same, before, stepped⟩ origin presented member issued
      covered.found fresh

theorem issues_once_iff_reference :
    ∃ trace w, (process reference referenceState).Execution (World.initial ∅) trace w ∧
      ((∀ accessToken configurationId,
          AtMostOnce (Event.IssuesFor · accessToken configurationId) trace) ↔
        RepeatsAreStale reference referenceState (World.initial ∅) trace) := by
  obtain ⟨_, _, w, _, _, _, run, _⟩ := reference_issuance
  exact ⟨_, w, run, issues_once_iff run⟩

/-- One token, one configuration and two credentials: the second request brings a new nonce and
new proofs. -/
theorem reference_issues_twice :
    ∃ trace w accessToken,
      (process reference referenceState).Execution (World.initial ∅) trace w ∧
      ¬ AtMostOnce (Event.IssuesFor · accessToken qeaaSdJwt) trace := by
  have valid : validScope qeaaSdJwt false = true := by decide +kernel
  have inScope : qeaaSdJwt ∈ Text.splitAsciiWhitespace qeaaSdJwt := by decide +kernel
  obtain ⟨token, trace, s, drawn, run, found, dpopJtis, _, nonces⟩ :=
    referenceClient_obtainsToken valid
  have good : Client.GoodJti "first" ∧ Client.GoodJti "second" := by
    constructor <;> constructor <;> decide
  have goodNonce : Client.GoodJti (toString (1 : UInt64).toNat) ∧
      Client.GoodJti (toString (2 : UInt64).toNat) := by
    constructor <;> constructor <;> decide
  obtain ⟨nonce, first, u, headers, request, response, issued, origin, reply, presented, configured,
    tokens, jtis⟩ := referenceClient_obtainsCredential (t := 1030) found inScope (by decide) good.1
      (by rw [dpopJtis]; decide) (by decide) goodNonce.1 (nonces _)
  have stillFound := tokens ▸ found
  have unused : Draw.nonce (toString (2 : UInt64).toNat) ∉
      drawn ++ [Draw.nonce (toString (1 : UInt64).toNat)] := by
    rw [List.mem_append, List.mem_singleton, Draw.nonce.injEq]
    exact not_or.mpr ⟨nonces _, by decide⟩
  obtain ⟨nonce', second, v, headers', request', response', issued', origin', reply', presented',
    configured', _⟩ := referenceClient_obtainsCredential (t := 1040) stillFound inScope (by decide)
      good.2 (by rw [jtis, dpopJtis]; decide) (by decide) goodNonce.2 unused
  refine ⟨_, _, token, (run.trans issued).trans issued', fun once => ?_⟩
  have same := atMostOnce_iff.mp once (trace ++ [nonce, first] ++ [nonce']) second [] (by simp)
    ⟨headers', request', response', origin', reply', presented', configured'⟩ first (by simp)
  exact same ⟨headers, request, response, origin, reply, presented, configured⟩

end VCIssuer.Service
