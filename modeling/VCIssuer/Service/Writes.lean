import VCIssuer.Service.Acceptance
import VCIssuer.Service.Process

/-!
# Writes to the volatile state

Every write that a handler makes, with the origin of the section that makes it,
what it has just found in the state, and the mark it leaves.  A section is a
chain of such writes, whether it returns or is rejected, so an invariant of the
service is checked once for each write.
-/

namespace VCIssuer.Service

open VCIssuer.Library
open VCIssuer.Library.Critical

/-- The artifact that an offer is requested for, supplied or made by the demo notary. -/
inductive OfferedArtifact (crates : Crates) (state : AppState) (env : Environment) :
    Origin → SignedTlsnArtifact → Prop
  | supplied {artifact : SignedTlsnArtifact} :
      OfferedArtifact crates state env (.arrived (.createTlsnEvidenceOffer artifact)) artifact
  | demo {serverName : Option String} {claim : Option Value} {notary : DemoNotary} {now : UInt64}
      {artifact : SignedTlsnArtifact} (configured : state.tlsnDemoNotary = some notary)
      (clocked : env.dpopClock = some now)
      (made : demoArtifact crates notary serverName claim now env.demoOctets = .ok artifact) :
      OfferedArtifact crates state env (.arrived (.tlsnDemoOffer serverName claim)) artifact

/-- An offer on evidence that is verified as the offer is made. -/
structure OfferMade (crates : Crates) (state : AppState) (env : Environment) (origin : Origin)
    (evidence : VerifiedTlsnEvidence) (offer : CredentialOffer) : Prop where
  verified : ∃ artifact now, OfferedArtifact crates state env origin artifact ∧
    env.clock = some now ∧ artifact.FreshAt now ∧
    verifyTlsnArtifact crates artifact state.trustedNotaryKey state.trustedNotaryPqKey now =
      .ok evidence ∧
    offer.expiresAt = saturatingAdd now tlsnEvidenceLifetimeSeconds
  profile : offer.profile = tlsnEvidenceSdJwt
  attached : offer.tlsnEvidence = some evidence

/-- The requests that carry an App Attest assertion. -/
def Origin.asserts : Origin → Bool
  | .arrived (.appAttestAssert _) | .arrived (.submitPidCaptureEvidence _ _ _) => true
  | _ => false

inductive Write (crates : Crates) (state : AppState) (env : Environment) :
    Origin → VolatileState → List Mark → VolatileState → Prop
  | push {s : VolatileState} (request : ParRequest) (tlsnEvidence : Option VerifiedTlsnEvidence) :
      Write crates state env (.resumed (.parPush request tlsnEvidence)) s []
        { s with
          pushed := s.pushed.insert (requestUriOf env.uuid) (pushedOf request tlsnEvidence) }
  | take {s : VolatileState} (request : AuthorizationRequest) {pushed : PushedAuthorization}
      (found : s.pushed.lookup request.requestUri = some pushed) :
      Write crates state env (.arrived (.authorize request)) s []
        { s with pushed := s.pushed.erase request.requestUri }
  | issueCode {s : VolatileState} (request : AuthorizationRequest) (pushed : PushedAuthorization) :
      Write crates state env (.resumed (.authorizeIssue request pushed)) s
        [.authorizationCode request.requestUri]
        { s with codes := s.codes.insert (randomToken crates env.octets) (codeOf pushed) }
  | redeem {s : VolatileState} (headers : HeaderMap) (request : TokenRequest)
      {code : AuthorizationCode} (found : s.codes.lookup request.code = some code)
      (unconsumed : code.consumed = false) :
      Write crates state env (.arrived (.token headers request)) s [.accessToken request.code]
        { s with codes := s.codes.insert request.code { code with consumed := true } }
  | grant {s : VolatileState} (headers : HeaderMap) (request : TokenRequest)
      (access : AccessToken) :
      Write crates state env (.arrived (.token headers request)) s []
        { s with tokens := s.tokens.insert (randomToken crates env.octets) access }
  | nonce {s : VolatileState} {cNonce : String}
      (drawn : randomCredentialNonce env.nonceWords = some cNonce) :
      Write crates state env (.arrived .nonce) s [] { s with nonces := s.nonces.insert cNonce false }
  | consumeNonce {s : VolatileState} (headers : HeaderMap) (request : CredentialRequest)
      {cNonce : String} (unused : s.nonces.lookup cNonce = some false) :
      Write crates state env (.arrived (.credential headers request)) s [.credentialNonce cNonce]
        { s with nonces := s.nonces.insert cNonce true }
  | dpopJti {s : VolatileState} (origin : Origin) {jti : String} (unused : jti ∉ s.dpopJtis) :
      Write crates state env origin s [.dpopJti jti] { s with dpopJtis := jti :: s.dpopJtis }
  | bindingJti {s : VolatileState} (origin : Origin) {jti : String}
      (unused : jti ∉ s.bindingJtis) :
      Write crates state env origin s [.bindingJti jti] { s with bindingJtis := jti :: s.bindingJtis }
  | offer {s : VolatileState} (origin : Origin) (offer : CredentialOffer)
      (plain : offer.tlsnEvidence = none)
      (issuerState : offer.issuerState = randomToken crates env.octets)
      (drawn : origin.draws crates env =
        some [.uuid env.uuid, .token (randomToken crates env.octets)]) :
      Write crates state env origin s [] { s with offers := s.offers.insert env.uuid offer }
  | tlsnOffer {s : VolatileState} {origin : Origin} {evidence : VerifiedTlsnEvidence}
      {offer : CredentialOffer} (made : OfferMade crates state env origin evidence offer)
      (unused : evidence.sessionId ∉ s.tlsnSessions)
      (issuerState : offer.issuerState = randomToken crates env.octets) :
      Write crates state env origin s [.tlsnOffer evidence.sessionId]
        { s with
          tlsnSessions := evidence.sessionId :: s.tlsnSessions
          offers := s.offers.insert env.uuid offer }
  | openSession {s : VolatileState} (request : CreateCaptureSessionRequest)
      (session : CaptureSession) :
      Write crates state env (.arrived (.createPidCaptureSession request)) s []
        { s with captureSessions := s.captureSessions.insert env.uuid session }
  | failSession {s : VolatileState} {id : String} {headers : HeaderMap} {body : Bytes}
      {snapshot : CaptureSnapshot} {session : CaptureSession}
      (found : s.captureSessions.lookup id = some session) :
      Write crates state env (.resumed (.captureCommit id headers body snapshot)) s []
        { s with captureSessions := s.captureSessions.insert id { session with status := .failed } }
  | resolveSession {s : VolatileState} {id : String} {headers : HeaderMap} {body : Bytes}
      {snapshot : CaptureSnapshot} {session : CaptureSession} (credential credentialMdoc : String)
      (found : s.captureSessions.lookup id = some session) :
      Write crates state env (.resumed (.captureCommit id headers body snapshot)) s []
        { s with
          captureSessions :=
            s.captureSessions.insert id (session.resolved credential credentialMdoc) }
  | issueChallenge {s : VolatileState} (kept : StringMap UInt64) :
      Write crates state env (.arrived .appAttestChallenge) s []
        { s with appAttestChallenges := kept }
  | takeChallenge {s : VolatileState} (request : AppAttestRegisterRequest) :
      Write crates state env (.arrived (.appAttestRegister request)) s []
        { s with appAttestChallenges := s.appAttestChallenges.erase request.challenge }
  | storeInstance {s : VolatileState} (keyId : String) (inst : RegisteredInstance) :
      Write crates state env (.resumed (.appAttestStore keyId inst)) s []
        { s with appAttestInstances := s.appAttestInstances.insert keyId inst }
  | advance {s : VolatileState} {origin : Origin} (asserts : origin.asserts = true)
      (keyId : String) (inst : RegisteredInstance) :
      Write crates state env origin s []
        { s with appAttestInstances := s.appAttestInstances.insert keyId inst }

/-- The writes of one section. -/
abbrev Writes (crates : Crates) (state : AppState) (env : Environment) (origin : Origin) :
    VolatileState → List Mark → VolatileState → Prop :=
  Chain (Write crates state env origin)

section Sections

variable {crates : Crates} {state : AppState} {env : Environment} {origin : Origin}
  {s : VolatileState}

theorem par_writes (request : ParRequest) (clock : ClockReading) :
    Keeps (Writes crates state env origin) s (par state request clock) := by
  unfold par
  refine .rejectIf_bind Chain.composes fun _ => .rejectIf_bind Chain.composes fun _ => ?_
  cases request.issuerState with
  | none => exact .pure Chain.composes _
  | some issuerState =>
      exact .ofExcept_bind Chain.composes fun _ _ => .read_bind
        (.okOr_bind Chain.composes fun _ _ => .rejectIf_bind Chain.composes fun _ =>
          .pure Chain.composes _)

theorem authorize_writes (request : AuthorizationRequest) :
    Keeps (Writes crates state env (.arrived (.authorize request))) s (authorize request) := by
  unfold authorize
  refine .read_bind (.okOr_bind Chain.composes fun pushed found => ?_)
  exact .modify_bind Chain.composes (.single (.take request found))
    (.rejectIf_bind Chain.composes fun _ => .pure Chain.composes _)

theorem acceptDpopJti_writes (jti : String) (replayed : Failure) :
    Keeps (Writes crates state env origin) s (acceptDpopJti jti replayed) := by
  unfold acceptDpopJti
  exact .read_bind (.rejectIf_bind Chain.composes fun unused =>
    Chain.single (.dpopJti origin unused))

theorem acceptBindingJti_writes (jti : String) (replayed : Failure) :
    Keeps (Writes crates state env origin) s (acceptBindingJti jti replayed) := by
  unfold acceptBindingJti
  exact .read_bind (.rejectIf_bind Chain.composes fun unused =>
    Chain.single (.bindingJti origin unused))

theorem token_writes (headers : HeaderMap) (request : TokenRequest) (clock : ClockReading) :
    Keeps (Writes crates state env (.arrived (.token headers request))) s
      (token crates state headers request clock env.octets) := by
  unfold token
  refine .rejectIf_bind Chain.composes fun _ => .okOr_bind Chain.composes fun _ _ =>
    .okOr_bind Chain.composes fun _ _ => .ofExcept_bind Chain.composes fun _ _ =>
    .bind Chain.composes (acceptDpopJti_writes _ _) fun _ t _ _ => ?_
  refine .read_bind (.okOr_bind Chain.composes fun code found =>
    .rejectIf_bind Chain.composes fun bound => ?_)
  have unconsumed : code.consumed = false := by
    rw [Bool.eq_false_iff]
    exact fun consumed => bound (.inl consumed)
  exact .accept_bind Chain.composes (.single (.redeem headers request found unconsumed))
    (.modify_bind Chain.composes (.single (.grant headers request _)) (.pure Chain.composes _))

theorem offerResponse_writes (id : String) (expiresIn : UInt64) :
    Keeps (Writes crates state env origin) s (offerResponse crates state id expiresIn) := by
  unfold offerResponse
  exact .okOr_bind Chain.composes fun _ _ => .pure Chain.composes _

theorem createCredentialOffer_writes (id : String) :
    Keeps (Writes crates state env (.arrived (.createCredentialOffer id))) s
      (createCredentialOffer crates state id env.clock env.uuid env.octets) := by
  unfold createCredentialOffer
  exact .rejectIf_bind Chain.composes fun _ => .rejectIf_bind Chain.composes fun _ =>
    .ofExcept_bind Chain.composes fun _ _ =>
    .modify_bind Chain.composes (.single (.offer _ _ rfl rfl rfl)) (offerResponse_writes _ _)

/-- The reservation and the offer are made together or not at all. -/
theorem buildTlsnOffer_writes {artifact : SignedTlsnArtifact}
    (offered : OfferedArtifact crates state env origin artifact) :
    Keeps (Writes crates state env origin) s
      (buildTlsnOffer crates state artifact env.clock env.uuid env.octets) := by
  unfold buildTlsnOffer reserveTlsnSession
  refine .ofExcept_bind Chain.composes fun now clocked =>
    .ofExcept_bind Chain.composes fun evidence verified => ?_
  simp only [Critical.bind_assoc]
  refine .read_bind (.rejectIf_bind Chain.composes fun unused => ?_)
  refine .accept_modify_bind Chain.composes ?_ (offerResponse_writes _ _)
  exact .single (.tlsnOffer
    ⟨⟨artifact, now, offered, (unixTime_eq_ok _ _).mp clocked, verifyTlsnArtifact_fresh verified,
      verified, rfl⟩, rfl, rfl⟩ unused rfl)

theorem tlsnDemoOffer_writes (serverName : Option String) (claim : Option Value) :
    Keeps (Writes crates state env (.arrived (.tlsnDemoOffer serverName claim))) s
      (tlsnDemoOffer crates state serverName claim env.dpopClock env.clock env.demoOctets env.uuid
        env.octets) := by
  unfold tlsnDemoOffer
  exact .okOr_bind Chain.composes fun _ configured => .ofExcept_bind Chain.composes fun _ clocked =>
    .ofExcept_bind Chain.composes fun _ made =>
    buildTlsnOffer_writes (.demo configured ((unixTime_eq_ok _ _).mp clocked) made)

theorem getCredentialOffer_writes (id : String) (clock : ClockReading) :
    Keeps (Writes crates state env origin) s (getCredentialOffer state id clock) := by
  unfold getCredentialOffer
  exact .ofExcept_bind Chain.composes fun _ _ => .read_bind
    (.okOr_bind Chain.composes fun _ _ => .rejectIf_bind Chain.composes fun _ =>
      .pure Chain.composes _)

theorem checkEvidence_writes {Supplied Key Verified : Type} {needed : Prop} [Decidable needed]
    {supplied : Option Supplied} {missing : Failure} {key : Option Key} {unconfigured : Failure}
    {verify : Supplied → Key → Checked Verified} {jti : Verified → String}
    {replayed notAccepted : Failure} :
    Keeps (Writes crates state env origin) s (checkEvidence needed supplied missing key unconfigured
      verify jti replayed notAccepted) := by
  unfold checkEvidence
  split
  · exact .okOr_bind Chain.composes fun _ _ => .okOr_bind Chain.composes fun _ _ =>
      .ofExcept_bind Chain.composes fun _ _ =>
      .bind Chain.composes (acceptBindingJti_writes _ _) fun _ _ _ _ => .pure Chain.composes _
  · exact .rejectIf_bind Chain.composes fun _ => .pure Chain.composes _

theorem credentialDecision_writes (headers : HeaderMap) (request : CredentialRequest)
    (dpopClock proofClock clock : ClockReading) (host : Host) :
    Keeps (Writes crates state env (.arrived (.credential headers request))) s
      (credentialDecision crates state headers request dpopClock proofClock clock host) := by
  unfold credentialDecision
  refine .okOr_bind Chain.composes fun _ _ => .okOr_bind Chain.composes fun _ _ =>
    .okOr_bind Chain.composes fun _ _ => .ofExcept_bind Chain.composes fun _ _ =>
    .bind Chain.composes (acceptDpopJti_writes _ _) fun _ t _ _ => ?_
  refine .read_bind (.okOr_bind Chain.composes fun _ _ => .rejectIf_bind Chain.composes fun _ =>
    .rejectIf_bind Chain.composes fun _ => .okOr_bind Chain.composes fun _ _ =>
    .ofExcept_bind Chain.composes fun _ _ => .rejectIf_bind Chain.composes fun _ =>
    .okOr_bind Chain.composes fun nonceUsed found => .rejectIf_bind Chain.composes fun unused =>
    .ofExcept_bind Chain.composes fun _ _ => .rejectIf_bind Chain.composes fun _ => ?_)
  refine .bind Chain.composes (checkPidBinding_eq .. ▸ checkEvidence_writes) fun _ _ _ pidChecked =>
    .bind Chain.composes (checkChipLiveness_eq .. ▸ checkEvidence_writes) fun _ _ _ chipChecked =>
    .ofExcept_bind Chain.composes fun _ _ => ?_
  -- The evidence checks wrote to the binding ledger only, so the nonce is as it was read.
  obtain ⟨_, _, rfl, _⟩ := (checkPidBinding_returns _).mp pidChecked
  obtain ⟨_, _, rfl, _⟩ := (checkChipLiveness_returns _).mp chipChecked
  rw [Bool.not_eq_true] at unused
  subst unused
  exact .accept_bind Chain.composes (.single (.consumeNonce headers request found))
    (.pure Chain.composes _)

theorem credential_writes (headers : HeaderMap) (request : CredentialRequest)
    (dpopClock proofClock clock : ClockReading) (host : Host) :
    Keeps (Writes crates state env (.arrived (.credential headers request))) s
      (credential crates state headers request dpopClock proofClock clock host) := by
  unfold credential
  exact .bind Chain.composes (credentialDecision_writes _ _ _ _ _ _) fun _ _ _ _ =>
    .except Chain.composes _

theorem createPidCaptureSession_writes (request : CreateCaptureSessionRequest)
    (clock : ClockReading) (octets : Bytes) (host : Host) :
    Keeps (Writes crates state env (.arrived (.createPidCaptureSession request))) s
      (createPidCaptureSession crates state request clock env.uuid octets host) := by
  unfold createPidCaptureSession
  exact .okOr_bind Chain.composes fun _ _ => .ofExcept_bind Chain.composes fun _ _ =>
    .ofExcept_bind Chain.composes fun _ _ => .ofExcept_bind Chain.composes fun _ _ =>
    .modify_bind Chain.composes (.single (.openSession request _)) (.pure Chain.composes _)

theorem getPidCaptureSession_writes (id : String) (clock : ClockReading) :
    Keeps (Writes crates state env origin) s (getPidCaptureSession crates state id clock) := by
  unfold getPidCaptureSession
  exact .ofExcept_bind Chain.composes fun _ _ => .read_bind
    (.okOr_bind Chain.composes fun _ _ => .rejectIf_bind Chain.composes fun _ =>
      .pure Chain.composes _)

theorem appAttestChallenge_writes (clock : ClockReading) (octets : Bytes) :
    Keeps (Writes crates state env (.arrived .appAttestChallenge)) s
      (appAttestChallenge crates state clock octets) := by
  unfold appAttestChallenge
  exact .rejectIf_bind Chain.composes fun _ => .ofExcept_bind Chain.composes fun _ _ =>
    .modify_bind Chain.composes (.single (.issueChallenge _)) (.pure Chain.composes _)

theorem appAttestRegister_writes (request : AppAttestRegisterRequest) (clock : ClockReading) :
    Keeps (Writes crates state env (.arrived (.appAttestRegister request))) s
      (appAttestRegister crates state request clock) := by
  unfold appAttestRegister
  exact .okOr_bind Chain.composes fun _ _ => .ofExcept_bind Chain.composes fun _ _ =>
    .read_bind (.modify_bind Chain.composes (.single (.takeChallenge request))
      (.rejectIf_bind Chain.composes fun _ => .okOr_bind Chain.composes fun _ _ =>
        .okOr_bind Chain.composes fun _ _ => .rejectIf_bind Chain.composes fun _ =>
        .ofExcept_bind Chain.composes fun _ _ => .pure Chain.composes _))

theorem verifyAppAttestAssertion_writes (asserts : origin.asserts = true) (keyId : String)
    (assertion clientData : Bytes) :
    Keeps (Writes crates state env origin) s
      (verifyAppAttestAssertion crates keyId assertion clientData) := by
  unfold verifyAppAttestAssertion
  exact .read_bind (.okOr_bind Chain.composes fun _ _ => .ofExcept_bind Chain.composes fun _ _ =>
    .modify_bind Chain.composes (.single (.advance asserts _ _)) (.pure Chain.composes _))

theorem appAttestAssert_writes (asserts : origin.asserts = true)
    (request : AppAttestAssertRequest) :
    Keeps (Writes crates state env origin) s (appAttestAssert crates state request) := by
  unfold appAttestAssert
  exact .rejectIf_bind Chain.composes fun _ => .okOr_bind Chain.composes fun _ _ =>
    .okOr_bind Chain.composes fun _ _ => verifyAppAttestAssertion_writes asserts _ _ _

theorem enforceAppAttest_writes (asserts : origin.asserts = true) (headers : HeaderMap)
    (body : Bytes) :
    Keeps (Writes crates state env origin) s (enforceAppAttest crates state headers body) := by
  unfold enforceAppAttest
  split
  · exact .pure Chain.composes _
  · exact .okOr_bind Chain.composes fun _ _ => .okOr_bind Chain.composes fun _ _ =>
      .okOr_bind Chain.composes fun _ _ => verifyAppAttestAssertion_writes asserts _ _ _

theorem captureSnapshot_writes (id : String) (body : Bytes) (clock : ClockReading) :
    Keeps (Writes crates state env origin) s (captureSnapshot crates id body clock) := by
  unfold captureSnapshot
  exact .okOr_bind Chain.composes fun _ _ => .ofExcept_bind Chain.composes fun _ _ =>
    .read_bind (.okOr_bind Chain.composes fun _ _ => .rejectIf_bind Chain.composes fun _ =>
      .rejectIf_bind Chain.composes fun _ => .pure Chain.composes _)

theorem captureGate_writes (id profileName : String) (headers : HeaderMap) (body : Bytes)
    (snapshot : CaptureSnapshot) (verified : VerifiedChipLiveness) (host : Host) (call : Nat) :
    Keeps (Writes crates state env (.resumed (.captureCommit id headers body snapshot))) s
      (captureGate crates id profileName snapshot verified host call) := by
  unfold captureGate
  split
  · exact .pure Chain.composes _
  · refine .modify_bind Chain.composes ?_ (.reject Chain.composes _)
    cases found : s.captureSessions.lookup id with
    | some session => exact .single (.failSession found)
    | none => exact .refl s

theorem captureCommit_writes (id : String) (headers : HeaderMap) (body : Bytes)
    (snapshot : CaptureSnapshot) (host : Host) :
    Keeps (Writes crates state env (.resumed (.captureCommit id headers body snapshot))) s
      (captureCommit crates state id snapshot host) := by
  unfold captureCommit
  refine .ofExcept_bind Chain.composes fun _ _ => .ofExcept_bind Chain.composes fun _ _ =>
    .bind Chain.composes (acceptBindingJti_writes _ _) fun _ _ _ _ =>
    .bind Chain.composes (captureGate_writes _ _ _ _ _ _ _ _) fun _ _ _ _ =>
    .okOr_bind Chain.composes fun _ _ => .ofExcept_bind Chain.composes fun _ _ =>
    .bind Chain.composes (captureGate_writes _ _ _ _ _ _ _ _) fun _ _ _ _ =>
    .okOr_bind Chain.composes fun _ _ => .ofExcept_bind Chain.composes fun _ _ =>
    .read_bind (.okOr_bind Chain.composes fun _ found => ?_)
  exact .modify_bind Chain.composes (.single (.resolveSession _ _ found)) (.pure Chain.composes _)

/-! ## Whole sections -/

theorem request_writes (request : Request) :
    Keeps (Writes crates state env (.arrived request)) s (request.handler crates state env) := by
  have answered : ∀ {α : Type} {section_ : Handler α} {next : α → Progress},
      Keeps (Writes crates state env (.arrived request)) s section_ →
      Keeps (Writes crates state env (.arrived request)) s (section_ >>= fun a => pure (next a)) :=
    fun head => .bind Chain.composes head fun _ _ _ _ => .pure Chain.composes _
  cases request with
  | par request => exact answered (par_writes _ _)
  | authorize request => exact answered (authorize_writes _)
  | token headers request => exact answered (token_writes _ _ _)
  | nonce =>
      refine .okOr_bind Chain.composes fun cNonce drawn => answered ?_
      exact .modify_bind Chain.composes (.single (.nonce drawn)) (.pure Chain.composes _)
  | credential headers request => exact answered (credential_writes _ _ _ _ _ _)
  | createCredentialOffer id => exact answered (createCredentialOffer_writes _)
  | createTlsnEvidenceOffer artifact => exact answered (buildTlsnOffer_writes .supplied)
  | tlsnDemoOffer serverName claim => exact answered (tlsnDemoOffer_writes _ _)
  | getCredentialOffer id => exact answered (getCredentialOffer_writes _ _)
  | createPidCaptureSession request => exact answered (createPidCaptureSession_writes _ _ _ _)
  | getPidCaptureSession id => exact answered (getPidCaptureSession_writes _ _)
  | submitPidCaptureEvidence id headers body => exact answered (enforceAppAttest_writes rfl _ _)
  | appAttestChallenge => exact answered (appAttestChallenge_writes _ _)
  | appAttestRegister request => exact answered (appAttestRegister_writes _ _)
  | appAttestAssert request => exact answered (appAttestAssert_writes rfl _)

theorem task_writes (task : Task) :
    Keeps (Writes crates state env (.resumed task)) s (task.handler crates state env) := by
  have answered : ∀ {α : Type} {section_ : Handler α} {next : α → Progress},
      Keeps (Writes crates state env (.resumed task)) s section_ →
      Keeps (Writes crates state env (.resumed task)) s (section_ >>= fun a => pure (next a)) :=
    fun head => .bind Chain.composes head fun _ _ _ _ => .pure Chain.composes _
  cases task with
  | parPush request tlsnEvidence =>
      exact answered (.modify_bind Chain.composes (.single (.push request tlsnEvidence))
        (.pure Chain.composes _))
  | authorizeIssue request pushed =>
      exact answered (.accept_bind Chain.composes (.single (.issueCode request pushed))
        (.pure Chain.composes _))
  | captureSnapshot id headers body => exact answered (captureSnapshot_writes _ _ _)
  | captureCommit id headers body snapshot => exact answered (captureCommit_writes _ _ _ _ _)
  | appAttestStore keyId inst =>
      exact answered (.modify_bind Chain.composes (.single (.storeInstance keyId inst))
        (.pure Chain.composes _))

/-- However a section ends, it did nothing but these writes. -/
theorem handler_writes (origin : Origin) :
    Keeps (Writes crates state env origin) s (origin.handler crates state env) := by
  cases origin with
  | arrived request => exact request_writes request
  | resumed task => exact task_writes task

end Sections

end VCIssuer.Service
