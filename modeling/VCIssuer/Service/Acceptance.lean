import VCIssuer.Service.Credential
import VCIssuer.Service.MdocEncoding

/-!
# What an accepted request has shown

The token and the credential endpoint answer exactly when a record of passed
checks exists.  The record says what the request carried, what the state held
for it, and determines the answer, the state left behind and the marks.
-/

namespace VCIssuer.Service

open VCIssuer.Library
open VCIssuer.Library.Critical

variable {crates : Crates} {state : AppState} {s t : VolatileState} {headers : HeaderMap}
  {log : List Mark}

theorem acceptDpopJti_returns (jti : String) (replayed : Failure) (value : Unit) :
    Returns (acceptDpopJti jti replayed) s value t log ↔
      jti ∉ s.dpopJtis ∧ t = { s with dpopJtis := jti :: s.dpopJtis } ∧ log = [.dpopJti jti] := by
  simp only [acceptDpopJti, returns_read_bind, returns_rejectIf_bind, returns_accept]

theorem acceptBindingJti_returns (jti : String) (replayed : Failure) (value : Unit) :
    Returns (acceptBindingJti jti replayed) s value t log ↔
      jti ∉ s.bindingJtis ∧ t = { s with bindingJtis := jti :: s.bindingJtis } ∧
        log = [.bindingJti jti] := by
  simp only [acceptBindingJti, returns_read_bind, returns_rejectIf_bind, returns_accept]

theorem acceptDpopJti_rejects (jti : String) (replayed : Failure) :
    Rejects (acceptDpopJti jti replayed) s t log ↔ jti ∈ s.dpopJtis ∧ t = s ∧ log = [] := by
  simp only [acceptDpopJti, rejects_read_bind, rejects_rejectIf_bind, rejects_accept, and_false,
    or_false]

theorem acceptBindingJti_rejects (jti : String) (replayed : Failure) :
    Rejects (acceptBindingJti jti replayed) s t log ↔ jti ∈ s.bindingJtis ∧ t = s ∧ log = [] := by
  simp only [acceptBindingJti, rejects_read_bind, rejects_rejectIf_bind, rejects_accept,
    and_false, or_false]

/-! ## The authorization endpoints -/

theorem par_returns {request : ParRequest} {clock : ClockReading}
    {tlsnEvidence : Option VerifiedTlsnEvidence}
    (returned : Returns (par state request clock) s tlsnEvidence t log) :
    validScope request.scope state.hybridPqEnabled = true ∧ t = s := by
  simp only [par, returns_rejectIf_bind] at returned
  obtain ⟨_, valid, rest⟩ := returned
  rw [Bool.not_eq_false] at valid
  refine ⟨valid, ?_⟩
  split at rest
  case h_1 => exact ((returns_pure _ _ _ _ _).mp rest).2.1
  case h_2 =>
    simp only [returns_ofExcept_bind, returns_read_bind, returns_okOr_bind,
      returns_rejectIf_bind, returns_pure] at rest
    obtain ⟨_, _, _, _, _, _, rfl, _⟩ := rest
    rfl

/-- Evidence comes from the offer that the request names, for a profile in its scope. -/
theorem par_returns_evidence {request : ParRequest} {clock : ClockReading}
    {tlsnEvidence : VerifiedTlsnEvidence}
    (returned : Returns (par state request clock) s (some tlsnEvidence) t log) :
    ∃ now id offer, clock = some now ∧ s.offers.lookup id = some offer ∧
      request.issuerState = some offer.issuerState ∧ now ≤ offer.expiresAt ∧
      offer.profile ∈ Text.splitAsciiWhitespace request.scope ∧
      offer.tlsnEvidence = some tlsnEvidence := by
  simp only [par, returns_rejectIf_bind] at returned
  obtain ⟨_, _, rest⟩ := returned
  split at rest
  case h_1 => cases ((returns_pure _ _ _ _ _).mp rest).1
  case h_2 issuerState named =>
    simp only [returns_ofExcept_bind, returns_read_bind, returns_okOr_bind,
      returns_rejectIf_bind, returns_pure, unixTime_eq_ok, not_or, not_not, UInt64.not_lt] at rest
    obtain ⟨now, clocked, offer, found, ⟨unexpired, inScope⟩, attached, _⟩ := rest
    obtain ⟨⟨id, offer⟩, first, rfl⟩ := Option.map_eq_some_iff.mp found
    have same : offer.issuerState = issuerState := by simpa using List.find?_some first
    exact ⟨now, id, offer, clocked, AList.mem_lookup_iff.mpr (List.mem_of_find?_eq_some first),
      named.trans (congrArg some same.symm), unexpired, inScope, attached.symm⟩

theorem parPush_returns (request : ParRequest) (tlsnEvidence : Option VerifiedTlsnEvidence)
    (uuid : String) (response : ParResponse) :
    Returns (parPush request tlsnEvidence uuid) s response t log ↔
      response = ⟨requestUriOf uuid, 60⟩ ∧
        t = { s with
              pushed := s.pushed.insert (requestUriOf uuid) (pushedOf request tlsnEvidence) } ∧
        log = [] := by
  simp only [parPush, returns_modify_bind, returns_pure]

theorem authorize_returns (request : AuthorizationRequest) (pushed : PushedAuthorization) :
    Returns (authorize request) s pushed t log ↔
      s.pushed.lookup request.requestUri = some pushed ∧ pushed.clientId = request.clientId ∧
        t = { s with pushed := s.pushed.erase request.requestUri } ∧ log = [] := by
  simp only [authorize, returns_read_bind, returns_okOr_bind, returns_modify_bind,
    returns_rejectIf_bind, returns_pure, not_not]
  constructor
  · rintro ⟨_, found, client, rfl, rfl, rfl⟩
    exact ⟨found, client, rfl, rfl⟩
  · rintro ⟨found, client, rfl, rfl⟩
    exact ⟨pushed, found, client, rfl, rfl, rfl⟩

theorem authorizeIssue_returns (request : AuthorizationRequest) (pushed : PushedAuthorization)
    (octets : Bytes) (location : Url) :
    Returns (authorizeIssue crates request pushed octets) s location t log ↔
      location = redirectOf crates pushed (randomToken crates octets) ∧
        t = { s with codes := s.codes.insert (randomToken crates octets) (codeOf pushed) } ∧
        log = [.authorizationCode request.requestUri] := by
  simp only [authorizeIssue, returns_accept_bind, returns_pure]
  constructor
  · rintro ⟨_, ⟨rfl, rfl, rfl⟩, rfl⟩
    exact ⟨rfl, rfl, rfl⟩
  · rintro ⟨rfl, rfl, rfl⟩
    exact ⟨[], ⟨rfl, rfl, rfl⟩, rfl⟩

/-! ## The token endpoint -/

structure TokenGrant (crates : Crates) (state : AppState) (s : VolatileState)
    (headers : HeaderMap) (request : TokenRequest) (clock : ClockReading) where
  proof : String
  endpoint : Url
  dpop : DpopProof crates proof "POST" endpoint clock
  code : AuthorizationCode
  grantType : request.grantType = "authorization_code"
  proofGiven : headerStr headers "dpop" = some proof
  endpointJoined : crates.join state.issuer "token" = some endpoint
  dpopFresh : dpop.verified.jti ∉ s.dpopJtis
  codeFound : s.codes.lookup request.code = some code
  unconsumed : code.consumed = false
  clientMatches : code.clientId = request.clientId
  redirectMatches : code.redirectUri = request.redirectUri
  pkce : crates.digest request.codeVerifier = code.codeChallenge

namespace TokenGrant

variable {request : TokenRequest} {clock : ClockReading}

def access (grant : TokenGrant crates state s headers request clock) : AccessToken where
  scope := grant.code.scope
  dpopJkt := grant.dpop.verified.jkt
  tlsnEvidence := grant.code.tlsnEvidence

def response (grant : TokenGrant crates state s headers request clock) (octets : Bytes) :
    AccessTokenResponse where
  accessToken := randomToken crates octets
  tokenType := "DPoP"
  expiresIn := 300
  scope := grant.code.scope

def after (grant : TokenGrant crates state s headers request clock) (octets : Bytes) :
    VolatileState :=
  { s with
    dpopJtis := grant.dpop.verified.jti :: s.dpopJtis
    codes := s.codes.insert request.code { grant.code with consumed := true }
    tokens := s.tokens.insert (randomToken crates octets) grant.access }

def marks (grant : TokenGrant crates state s headers request clock) : List Mark :=
  [.dpopJti grant.dpop.verified.jti, .accessToken request.code]

end TokenGrant

theorem token_returns (request : TokenRequest) (clock : ClockReading) (octets : Bytes)
    (response : AccessTokenResponse) :
    Returns (token crates state headers request clock octets) s response t log ↔
      ∃ grant : TokenGrant crates state s headers request clock,
        response = grant.response octets ∧ t = grant.after octets ∧ log = grant.marks := by
  simp only [token, returns_rejectIf_bind, returns_okOr_bind, returns_ofExcept_bind,
    returns_bind (acceptDpopJti _ _), acceptDpopJti_returns, returns_read_bind,
    returns_accept_bind, returns_modify_bind, returns_pure, verifyDpop_eq_ok]
  simp only [pkceMatches, beq_eq_false_iff_ne, not_or, not_not, Bool.not_eq_true]
  constructor
  · rintro ⟨grantType, proof, proofGiven, endpoint, endpointJoined, _, ⟨dpop, rfl⟩, _, _, _, after,
      ⟨dpopFresh, rfl, rfl⟩, ⟨code, codeFound, ⟨unconsumed, clientMatches, redirectMatches, pkce⟩,
        rest, ⟨rfl, rfl, rfl⟩, rfl⟩, rfl⟩
    exact ⟨{
      proof, endpoint, dpop, code, grantType, proofGiven, endpointJoined, dpopFresh, codeFound,
      unconsumed, clientMatches, redirectMatches, pkce }, rfl, rfl, rfl⟩
  · rintro ⟨grant, rfl, rfl, rfl⟩
    exact ⟨grant.grantType, grant.proof, grant.proofGiven, grant.endpoint, grant.endpointJoined, _,
      ⟨grant.dpop, rfl⟩, (), _, _, [.accessToken request.code], ⟨grant.dpopFresh, rfl, rfl⟩,
      ⟨grant.code, grant.codeFound,
        ⟨grant.unconsumed, grant.clientMatches, grant.redirectMatches, grant.pkce⟩, [],
        ⟨rfl, rfl, rfl⟩, rfl⟩, rfl⟩

/-- A rejected token request leaves the codes and the tokens as they were. -/
theorem token_rejects {request : TokenRequest} {clock : ClockReading} {octets : Bytes}
    (rejected : Rejects (token crates state headers request clock octets) s t log) :
    t.codes = s.codes ∧ t.tokens = s.tokens := by
  simp only [token, rejects_rejectIf_bind, rejects_okOr_bind, rejects_ofExcept_bind,
    rejects_bind (acceptDpopJti _ _), acceptDpopJti_returns, acceptDpopJti_rejects,
    rejects_read_bind, rejects_accept_bind, rejects_modify_bind, rejects_pure] at rejected
  obtain ⟨_, rfl, _⟩ | ⟨_, ⟨_, rfl, _⟩ | ⟨_, _, ⟨_, rfl, _⟩ | ⟨_, _, ⟨_, rfl, _⟩ | ⟨_, _,
    ⟨_, rfl, _⟩ | ⟨_, _, _, _, ⟨_, rfl, _⟩, kept, _⟩⟩⟩⟩⟩ := rejected
  case inr.inr.inr.inr.inr =>
    -- Only the identifier has been taken, and nothing was redeemed before a later check failed.
    obtain ⟨_, rfl, _⟩ | ⟨_, _, ⟨_, rfl, _⟩ | ⟨_, _, impossible, _⟩⟩ := kept
    · exact ⟨rfl, rfl⟩
    · exact ⟨rfl, rfl⟩
    · exact impossible.elim
  all_goals exact ⟨rfl, rfl⟩

/-! ## Offers -/

theorem reserveTlsnSession_returns (sessionId : String) (value : Unit) :
    Returns (reserveTlsnSession sessionId) s value t log ↔
      sessionId ∉ s.tlsnSessions ∧ t = { s with tlsnSessions := sessionId :: s.tlsnSessions } ∧
        log = [.tlsnOffer sessionId] := by
  simp only [reserveTlsnSession, returns_read_bind, returns_rejectIf_bind, returns_accept]

/-- An offer on evidence takes the notary session of its artifact. -/
theorem buildTlsnOffer_marks {artifact : SignedTlsnArtifact} {clock : ClockReading}
    {uuid : String} {octets : Bytes} {response : CreateOfferResponse}
    (returned : Returns (buildTlsnOffer crates state artifact clock uuid octets) s response t
      log) : Mark.tlsnOffer artifact.payload.sessionId ∈ log := by
  simp only [buildTlsnOffer, returns_ofExcept_bind, returns_bind (reserveTlsnSession _),
    reserveTlsnSession_returns] at returned
  obtain ⟨_, _, evidence, accepted, _, _, _, _, ⟨_, _, rfl⟩, _, rfl⟩ := returned
  rw [← verifyTlsnArtifact_evidence accepted]
  exact .head _

/-! ## Evidence of the bound profiles -/

/-- What a profile's PID binding amounts to. -/
inductive PidBindingChecked (crates : Crates) (state : AppState) (request : CredentialRequest)
    (proof : VerifiedCredentialProof) (now : UInt64) : Option VerifiedPidBinding → Prop
  | bound {supplied : PidBindingObject} {signer : KeychainSigner}
      (needed : request.credentialConfigurationId = qeaaPidBoundSdJwt ∨
        request.credentialConfigurationId = mandateSdJwt)
      (given : request.pidBinding = some supplied)
      (signerFound : state.credentialSigners.lookup pidSdJwt = some signer)
      (accepted : PidBindingProof crates supplied (signer.publicJwk crates) state.issuer proof.nonce
        proof.holderJkt now) :
      PidBindingChecked crates state request proof now (some accepted.verified)
  | free
      (notNeeded : ¬ (request.credentialConfigurationId = qeaaPidBoundSdJwt ∨
        request.credentialConfigurationId = mandateSdJwt))
      (notGiven : request.pidBinding = none) :
      PidBindingChecked crates state request proof now none

/-- What a profile's chip evidence amounts to. -/
inductive ChipLivenessChecked (crates : Crates) (state : AppState) (request : CredentialRequest)
    (proof : VerifiedCredentialProof) (now : UInt64) : Option VerifiedChipLiveness → Prop
  | bound {supplied : EmrtdEvidenceObject} {readerKey : Bytes}
      (needed : request.credentialConfigurationId = pidFromEmrtdSdJwt)
      (given : request.emrtdEvidence = some supplied)
      (readerKeyFound : state.trustedEmrtdReaderKey = some readerKey)
      (accepted : EmrtdAttestation crates supplied readerKey state.issuer proof.nonce
        proof.holderJkt now) :
      ChipLivenessChecked crates state request proof now (some (accepted.claims.verified crates now))
  | free
      (notNeeded : request.credentialConfigurationId ≠ pidFromEmrtdSdJwt)
      (notGiven : request.emrtdEvidence = none) :
      ChipLivenessChecked crates state request proof now none

/-- The state once the identifiers have been taken. -/
def VolatileState.withBindings (s : VolatileState) (jtis : List String) : VolatileState :=
  { s with bindingJtis := jtis ++ s.bindingJtis }

/-- What a profile's evidence amounts to, whichever evidence it is. -/
inductive EvidenceChecked {Supplied Key Verified : Type} (needed : Prop)
    (supplied : Option Supplied) (key : Option Key) (verify : Supplied → Key → Checked Verified) :
    Option Verified → Prop
  | bound {given : Supplied} {under : Key} {verified : Verified} (needs : needed)
      (isGiven : supplied = some given) (keyFound : key = some under)
      (accepted : verify given under = .ok verified) :
      EvidenceChecked needed supplied key verify (some verified)
  | free (notNeeded : ¬ needed) (notGiven : supplied = none) :
      EvidenceChecked needed supplied key verify none

theorem checkEvidence_returns {Supplied Key Verified : Type} {needed : Prop} [Decidable needed]
    {supplied : Option Supplied} {missing : Failure} {key : Option Key} {unconfigured : Failure}
    {verify : Supplied → Key → Checked Verified} {jti : Verified → String}
    {replayed notAccepted : Failure} (found : Option Verified) :
    Returns (checkEvidence needed supplied missing key unconfigured verify jti replayed notAccepted)
        s found t log ↔
      EvidenceChecked needed supplied key verify found ∧
        (∀ verified ∈ found, jti verified ∉ s.bindingJtis) ∧
        t = s.withBindings (found.map jti).toList ∧
        log = (found.map fun verified => Mark.bindingJti (jti verified)).toList := by
  unfold checkEvidence
  split
  case isTrue needs =>
    simp only [returns_okOr_bind, returns_ofExcept_bind, returns_bind (acceptBindingJti _ _),
      acceptBindingJti_returns, returns_pure]
    constructor
    · rintro ⟨given, isGiven, under, keyFound, verified, accepted, _, _, _, _, ⟨fresh, rfl, rfl⟩,
        ⟨rfl, rfl, rfl⟩, rfl⟩
      refine ⟨.bound needs isGiven keyFound accepted, ?_, rfl, rfl⟩
      rintro _ ⟨⟩
      exact fresh
    · rintro ⟨checked, fresh, rfl, rfl⟩
      cases checked with
      | bound _ isGiven keyFound accepted =>
          exact ⟨_, isGiven, _, keyFound, _, accepted, (), _, _, [], ⟨fresh _ rfl, rfl, rfl⟩,
            ⟨rfl, rfl, rfl⟩, rfl⟩
      | free notNeeded _ => exact absurd needs notNeeded
  case isFalse notNeeded =>
    simp only [returns_rejectIf_bind, returns_pure, Option.not_isSome_iff_eq_none]
    constructor
    · rintro ⟨notGiven, rfl, rfl, rfl⟩
      exact ⟨.free notNeeded notGiven, by rintro _ ⟨⟩, rfl, rfl⟩
    · rintro ⟨checked, _, rfl, rfl⟩
      cases checked with
      | bound needs => exact absurd needs notNeeded
      | free _ notGiven => exact ⟨notGiven, rfl, rfl, rfl⟩

variable {request : CredentialRequest} {proof : VerifiedCredentialProof} {now : UInt64}

theorem pidBindingChecked_iff {binding : Option VerifiedPidBinding} :
    EvidenceChecked (request.credentialConfigurationId = qeaaPidBoundSdJwt ∨
        request.credentialConfigurationId = mandateSdJwt) request.pidBinding
        (state.credentialSigners.lookup pidSdJwt) (fun supplied signer => verifyPidBinding crates
          supplied (signer.publicJwk crates) state.issuer proof.nonce proof.holderJkt now) binding ↔
      PidBindingChecked crates state request proof now binding := by
  constructor
  · intro checked
    cases checked with
    | bound needs isGiven keyFound verified =>
        obtain ⟨accepted, rfl⟩ := (verifyPidBinding_eq_ok ..).mp verified
        exact .bound needs isGiven keyFound accepted
    | free notNeeded notGiven => exact .free notNeeded notGiven
  · intro checked
    cases checked with
    | bound needed given signerFound accepted =>
        exact .bound needed given signerFound ((verifyPidBinding_eq_ok ..).mpr ⟨accepted, rfl⟩)
    | free notNeeded notGiven => exact .free notNeeded notGiven

theorem chipLivenessChecked_iff {chip : Option VerifiedChipLiveness} :
    EvidenceChecked (request.credentialConfigurationId = pidFromEmrtdSdJwt) request.emrtdEvidence
        state.trustedEmrtdReaderKey (fun supplied readerKey => verifyEmrtdEvidence crates supplied
          readerKey state.issuer proof.nonce proof.holderJkt now) chip ↔
      ChipLivenessChecked crates state request proof now chip := by
  constructor
  · intro checked
    cases checked with
    | bound needs isGiven keyFound verified =>
        obtain ⟨accepted, rfl⟩ := (verifyEmrtdEvidence_eq_ok ..).mp verified
        exact .bound needs isGiven keyFound accepted
    | free notNeeded notGiven => exact .free notNeeded notGiven
  · intro checked
    cases checked with
    | bound needed given readerKeyFound accepted =>
        exact .bound needed given readerKeyFound ((verifyEmrtdEvidence_eq_ok ..).mpr ⟨accepted, rfl⟩)
    | free notNeeded notGiven => exact .free notNeeded notGiven

theorem checkPidBinding_returns (binding : Option VerifiedPidBinding) :
    Returns (checkPidBinding crates state request proof now) s binding t log ↔
      PidBindingChecked crates state request proof now binding ∧
        (∀ verified ∈ binding, verified.jti ∉ s.bindingJtis) ∧
        t = s.withBindings (binding.map (·.jti)).toList ∧
        log = (binding.map fun verified => Mark.bindingJti verified.jti).toList := by
  rw [checkPidBinding_eq, checkEvidence_returns, pidBindingChecked_iff]

theorem checkChipLiveness_returns (chip : Option VerifiedChipLiveness) :
    Returns (checkChipLiveness crates state request proof now) s chip t log ↔
      ChipLivenessChecked crates state request proof now chip ∧
        (∀ verified ∈ chip, verified.jti ∉ s.bindingJtis) ∧
        t = s.withBindings (chip.map (·.jti)).toList ∧
        log = (chip.map fun verified => Mark.bindingJti verified.jti).toList := by
  rw [checkChipLiveness_eq, checkEvidence_returns, chipLivenessChecked_iff]

/-! ## The credential endpoint -/

/-- What a credential request shows by itself, whichever access token it comes with. -/
structure CredentialEvidence (crates : Crates) (state : AppState) (s : VolatileState)
    (headers : HeaderMap) (request : CredentialRequest)
    (dpopClock proofClock clock : ClockReading) where
  proof : String
  endpoint : Url
  dpop : DpopProof crates proof "POST" endpoint dpopClock
  compact : String
  holder : HolderProof crates compact state.issuer proofClock
  jkt : String
  now : UInt64
  pidBinding : Option VerifiedPidBinding
  chipLiveness : Option VerifiedChipLiveness
  proofGiven : headerStr headers "dpop" = some proof
  endpointJoined : crates.join state.issuer "credential" = some endpoint
  dpopFresh : dpop.verified.jti ∉ s.dpopJtis
  dpopKey : dpop.verified.jkt = jkt
  proofs : request.proofs = [compact]
  holderKey : holder.verified.holderJkt = jkt
  nonceUnused : s.nonces.lookup holder.verified.nonce = some false
  clocked : clock = some now
  pidChecked : PidBindingChecked crates state request holder.verified now pidBinding
  pidFresh : ∀ verified ∈ pidBinding, verified.jti ∉ s.bindingJtis
  chipChecked : ChipLivenessChecked crates state request holder.verified now chipLiveness
  chipFresh : ∀ verified ∈ chipLiveness, verified.jti ∉ s.bindingJtis
  admitted : Admitted request.credentialConfigurationId (pidBinding.map (·.subject)) chipLiveness
    now

/-- A credential request that passed every check, up to the kernel's. -/
structure CredentialGrant (crates : Crates) (state : AppState) (s : VolatileState)
    (headers : HeaderMap) (request : CredentialRequest)
    (dpopClock proofClock clock : ClockReading) extends
    CredentialEvidence crates state s headers request dpopClock proofClock clock where
  token : String
  access : AccessToken
  tokenGiven : bearer headers = some token
  accessFound : s.tokens.lookup token = some access
  bound : access.dpopJkt = jkt
  inScope : request.credentialConfigurationId ∈ Text.splitAsciiWhitespace access.scope
  tlsnBound : request.credentialConfigurationId = tlsnEvidenceSdJwt → access.tlsnEvidence.isSome

section Effects

variable {dpopClock proofClock clock : ClockReading}

def CredentialEvidence.decision
    (evidence : CredentialEvidence crates state s headers request dpopClock proofClock clock)
    (tlsnEvidence : Option VerifiedTlsnEvidence) : Decision where
  configurationId := request.credentialConfigurationId
  proof := evidence.holder.verified
  now := evidence.now
  tlsnEvidence := tlsnEvidence
  chipLiveness := evidence.chipLiveness
  mandateGrant := grantOf crates request.credentialConfigurationId
    (evidence.pidBinding.map (·.subject)) evidence.chipLiveness

namespace CredentialGrant

variable (grant : CredentialGrant crates state s headers request dpopClock proofClock clock)

def decision : Decision :=
  grant.toCredentialEvidence.decision grant.access.tlsnEvidence

/-- The binding identifiers that the request uses up. -/
def bindingJtis : List String :=
  (grant.chipLiveness.map (·.jti)).toList ++ (grant.pidBinding.map (·.jti)).toList

def after : VolatileState :=
  { s.withBindings grant.bindingJtis with
    dpopJtis := grant.dpop.verified.jti :: s.dpopJtis
    nonces := s.nonces.insert grant.holder.verified.nonce true }

def marks : List Mark :=
  .dpopJti grant.dpop.verified.jti ::
    ((grant.pidBinding.map fun verified => Mark.bindingJti verified.jti).toList ++
      ((grant.chipLiveness.map fun verified => Mark.bindingJti verified.jti).toList ++
        [.credentialNonce grant.holder.verified.nonce]))

end CredentialGrant

end Effects

theorem singleCredentialProof_eq_some {proofs : List String} {compact : String} :
    singleCredentialProof proofs = some compact ↔ proofs = [compact] := by
  unfold singleCredentialProof
  split
  case h_1 other => simp
  case h_2 unusual => simp only [reduceCtorEq, false_iff]; exact unusual compact

/-- No profile takes both kinds of evidence. -/
theorem evidence_exclusive {pidBinding : Option VerifiedPidBinding}
    {chipLiveness : Option VerifiedChipLiveness}
    (pidChecked : PidBindingChecked crates state request proof now pidBinding)
    (chipChecked : ChipLivenessChecked crates state request proof now chipLiveness) :
    pidBinding = none ∨ chipLiveness = none := by
  cases pidChecked with
  | free => exact .inl rfl
  | bound needed =>
      cases chipChecked with
      | free => exact .inr rfl
      | bound nfc =>
          rw [nfc] at needed
          exact absurd needed (by decide)

theorem credentialDecision_returns (dpopClock proofClock clock : ClockReading) (host : Host)
    (decision : Decision) :
    Returns (credentialDecision crates state headers request dpopClock proofClock clock host) s
        decision t log ↔
      ∃ grant : CredentialGrant crates state s headers request dpopClock proofClock clock,
        decision = grant.decision ∧ t = grant.after ∧ log = grant.marks := by
  simp only [credentialDecision, returns_okOr_bind, returns_ofExcept_bind,
    returns_bind (acceptDpopJti _ _), acceptDpopJti_returns, returns_read_bind,
    returns_rejectIf_bind, returns_bind (checkPidBinding _ _ _ _ _), checkPidBinding_returns,
    returns_bind (checkChipLiveness _ _ _ _ _), checkChipLiveness_returns, returns_accept_bind,
    returns_pure, verifyDpop_eq_ok, verifyCredentialProof_eq_ok, unixTime_eq_ok,
    authorizeKernel_eq_ok, singleCredentialProof_eq_some]
  simp only [not_not, not_and, Bool.not_eq_true, Option.isNone_eq_false_iff]
  constructor
  · rintro ⟨token, tokenGiven, proof, proofGiven, endpoint, endpointJoined, _, ⟨dpop, same⟩,
      granted⟩
    subst same
    obtain ⟨_, _, _, _, ⟨dpopFresh, marked, logged⟩, granted, total⟩ := granted
    subst marked logged
    obtain ⟨access, accessFound, dpopBound, inScope, compact, proofs, _, ⟨holder, same⟩,
      holderBound, nonceUsed, nonceFound, unused, now, clocked, tlsnBound, granted⟩ := granted
    subst same unused
    obtain ⟨pidBinding, _, _, _, ⟨pidChecked, pidFresh, marked, logged⟩, granted, behind⟩ := granted
    subst marked logged
    obtain ⟨chipLiveness, _, _, _, ⟨chipChecked, chipFresh, marked, logged⟩, granted, last⟩ :=
      granted
    subst marked logged
    obtain ⟨_, ⟨admitted, same⟩, _, ⟨rfl, rfl, rfl⟩, done⟩ := granted
    subst same done last behind total
    have unbound : ∀ verified ∈ chipLiveness, verified.jti ∉ s.bindingJtis := by
      intro verified member earlier
      exact chipFresh verified member (List.mem_append_right _ earlier)
    refine ⟨{
      token, proof, endpoint, dpop, access, compact, holder, now, pidBinding, chipLiveness,
      tokenGiven, proofGiven, endpointJoined, dpopFresh, accessFound, inScope, proofs, clocked,
      tlsnBound, pidChecked, pidFresh, chipChecked, admitted
      jkt := access.dpopJkt
      dpopKey := dpopBound.symm
      holderKey := holderBound.symm
      bound := rfl
      nonceUnused := nonceFound
      chipFresh := unbound }, rfl, ?_, rfl⟩
    simp only [CredentialGrant.after, CredentialGrant.bindingJtis, VolatileState.withBindings,
      List.append_assoc]
  · rintro ⟨grant, rfl, rfl, rfl⟩
    have unbound : ∀ verified ∈ grant.chipLiveness,
        verified.jti ∉ (grant.pidBinding.map (·.jti)).toList ++ s.bindingJtis := by
      rcases evidence_exclusive grant.pidChecked grant.chipChecked with noPid | noChip
      · rw [noPid]
        exact grant.chipFresh
      · rw [noChip]
        rintro _ ⟨⟩
    refine ⟨grant.token, grant.tokenGiven, grant.proof, grant.proofGiven, grant.endpoint,
      grant.endpointJoined, _, ⟨grant.dpop, rfl⟩, (), _, _, _, ⟨grant.dpopFresh, rfl, rfl⟩,
      ⟨grant.access, grant.accessFound, grant.bound.trans grant.dpopKey.symm, grant.inScope,
        grant.compact, grant.proofs, _, ⟨grant.holder, rfl⟩,
        grant.bound.trans grant.holderKey.symm, false, grant.nonceUnused, rfl, grant.now,
        grant.clocked, grant.tlsnBound, grant.pidBinding, _, _, _,
        ⟨grant.pidChecked, grant.pidFresh, rfl, rfl⟩, ⟨grant.chipLiveness, _, _, _,
        ⟨grant.chipChecked, unbound, rfl, rfl⟩, ⟨_, ⟨grant.admitted, rfl⟩, _, ⟨rfl, ?_, rfl⟩, rfl⟩,
        rfl⟩, rfl⟩, rfl⟩
    simp only [CredentialGrant.after, CredentialGrant.bindingJtis, VolatileState.withBindings,
      List.append_assoc]

/-- The endpoint answers exactly when the request is granted and its credential is encoded. -/
theorem credential_returns (dpopClock proofClock clock : ClockReading) (host : Host)
    (response : CredentialResponse) :
    Returns (credential crates state headers request dpopClock proofClock clock host) s response t
        log ↔
      ∃ grant : CredentialGrant crates state s headers request dpopClock proofClock clock,
        encodeCredential crates state host grant.decision = .ok response ∧
          t = grant.after ∧ log = grant.marks := by
  rw [credential, returns_bind]
  simp only [credentialDecision_returns, returns_ofExcept]
  constructor
  · rintro ⟨_, _, _, _, ⟨grant, rfl, rfl, rfl⟩, ⟨encoded, rfl, rfl⟩, rfl⟩
    exact ⟨grant, encoded, rfl, List.append_nil _⟩
  · rintro ⟨grant, encoded, rfl, rfl⟩
    exact ⟨_, _, _, [], ⟨grant, rfl, rfl, rfl⟩, ⟨encoded, rfl, rfl⟩, (List.append_nil _).symm⟩

/-! ## The dispatch -/

/-- How a decision became a credential. -/
inductive Encoded (crates : Crates) (state : AppState) (host : Host) (decision : Decision) :
    CredentialResponse → Prop
  | sdJwt {signer : KeychainSigner} {credential : String}
      (listed : decision.configurationId ∈
        [pidSdJwt, pidFromEmrtdSdJwt, qeaaSdJwt, qeaaPidBoundSdJwt, tlsnEvidenceSdJwt])
      (found : state.credentialSigners.lookup decision.configurationId = some signer)
      (issued : issueSdJwt crates host signer state.issuer decision.configurationId
        decision.proof.holderJwk decision.now decision.tlsnEvidence
        (decision.chipLiveness.map (·.claims)) = .ok credential) :
      Encoded crates state host decision { credential := credential, format := none }
  | hybrid {signer : HybridCredentialSigner} {envelope : Bytes}
      (named : decision.configurationId = hybridPqSdJwt)
      (found : state.hybridCredentialSigner = some signer) (enabled : state.hybridPqEnabled = true)
      (issued : issueHybridCredential crates host signer state.issuer decision.proof.holderJwk
        decision.proof.holderJkt decision.proof.nonce decision.now = .ok envelope) :
      Encoded crates state host decision
        { credential := crates.urlSafeEncode envelope, format := some "dev-hybrid-pq+cbor" }
  | mdoc {signer : KeychainSigner} {credential : String}
      (listed : decision.configurationId ∈ [pidMdoc, eaaMdoc])
      (found : state.credentialSigners.lookup decision.configurationId = some signer)
      (issued : issueMdoc crates host signer decision.configurationId decision.proof.holderJwk
        decision.now none none = .ok credential) :
      Encoded crates state host decision { credential := credential, format := none }
  | mandate {signer : KeychainSigner} {grant : MandateGrant} {credential : String}
      (named : decision.configurationId = mandateSdJwt)
      (granted : decision.mandateGrant = some grant)
      (found : state.credentialSigners.lookup decision.configurationId = some signer)
      (issued : issueMandateSdJwt crates host signer state.issuer decision.proof.holderJwk
        (mandatorOf grant) grant.grantedPowers (randomToken crates (host.salt .mandateJti 0))
        decision.now = .ok credential) :
      Encoded crates state host decision { credential := credential, format := none }

theorem encodeCredential_eq_ok {crates : Crates} {state : AppState} {host : Host}
    {decision : Decision} {response : CredentialResponse} :
    encodeCredential crates state host decision = .ok response ↔
      Encoded crates state host decision response := by
  constructor
  · intro encoded
    simp only [encodeCredential] at encoded
    split_ifs at encoded with sdJwt hybrid mdoc mandate
    case pos =>
      simp only [Checks.okOr_bind_eq_ok, Checks.bind_eq_ok (issueSdJwt ..), Checks.pure_eq_ok]
        at encoded
      obtain ⟨_, found, _, issued, rfl⟩ := encoded
      exact .sdJwt sdJwt found issued
    case pos =>
      simp only [Checks.okOr_bind_eq_ok, Checks.bind_eq_ok (issueHybridCredential ..),
        Checks.pure_eq_ok, Option.filter_eq_some_iff] at encoded
      obtain ⟨_, ⟨found, enabled⟩, _, issued, rfl⟩ := encoded
      exact .hybrid hybrid found enabled issued
    case pos =>
      simp only [Checks.okOr_bind_eq_ok, Checks.bind_eq_ok (issueMdoc ..), Checks.pure_eq_ok]
        at encoded
      obtain ⟨_, found, _, issued, rfl⟩ := encoded
      exact .mdoc mdoc found issued
    case pos =>
      simp only [Checks.okOr_bind_eq_ok, Checks.bind_eq_ok (issueMandateSdJwt ..),
        Checks.pure_eq_ok] at encoded
      obtain ⟨_, granted, _, found, _, issued, rfl⟩ := encoded
      exact .mandate mandate granted found issued
  · intro encoded
    simp only [encodeCredential]
    cases encoded with
    | sdJwt listed found issued =>
        rw [if_pos listed, found, Checks.okOr_some_bind, issued]
        rfl
    | @hybrid signer _ named found enabled issued =>
        have kept : (some signer).filter (fun _ => true) = some signer := rfl
        rw [if_neg (by rw [named]; decide), if_pos named, found, enabled, kept,
          Checks.okOr_some_bind, issued]
        rfl
    | mdoc listed found issued =>
        have other : decision.configurationId ≠ hybridPqSdJwt := by
          intro same
          rw [same] at listed
          exact absurd listed (by decide)
        have notSdJwt : decision.configurationId ∉
            [pidSdJwt, pidFromEmrtdSdJwt, qeaaSdJwt, qeaaPidBoundSdJwt, tlsnEvidenceSdJwt] := by
          rcases List.mem_pair.mp listed with same | same <;> rw [same] <;> decide
        rw [if_neg notSdJwt, if_neg other, if_pos listed, found, Checks.okOr_some_bind, issued]
        rfl
    | mandate named granted found issued =>
        rw [if_neg (by rw [named]; decide), if_neg (by rw [named]; decide),
          if_neg (by rw [named]; decide), if_pos named, granted, found, Checks.okOr_some_bind,
          Checks.okOr_some_bind, issued]
        rfl

/-! ## The key of a credential -/

/-- A hybrid envelope that was signed in this step over a payload with the given key. -/
def SignedHybrid (crates : Crates) (host : Host) (credential : String) (holderJwk : Value) : Prop :=
  ∃ (signer : HybridCredentialSigner) (unsigned : HybridCodec.UnsignedEnvelope)
      (entries : List (CborValue × CborValue)) (envelope : Bytes),
    signer.signEnvelope crates host unsigned = .ok envelope ∧
    crates.cborToVec (.map entries) = some unsigned.payload ∧
    cborPair 5 (.bytes (crates.valueToVec holderJwk)) ∈ entries ∧
    credential = crates.urlSafeEncode envelope

/-- The credential is bound to the key, in the way of its format. -/
inductive BoundTo (crates : Crates) (host : Host) (credential : String) (holderJwk : Value) : Prop
  | sdJwt {signer : KeychainSigner} {payload : Value} {disclosures : List String}
      (signed : SignedSdJwt crates host signer credential payload disclosures)
      (bound : boundKey payload = some holderJwk)
  | mdoc {signer : KeychainSigner} {x y : Bytes}
      (coordinates : HolderCoordinates crates holderJwk x y)
      (signed : SignedMdoc crates host signer credential (deviceKey x y))
  | hybrid (signed : SignedHybrid crates host credential holderJwk)

theorem issueSdJwt_bound {host : Host} {signer : KeychainSigner} {issuer : Url}
    {profile credential : String} {holderJwk : Value} {now : UInt64}
    {tlsnEvidence : Option VerifiedTlsnEvidence} {pidClaims : Option PidSubjectClaims}
    (issued : issueSdJwt crates host signer issuer profile holderJwk now tlsnEvidence pidClaims =
      .ok credential) : BoundTo crates host credential holderJwk := by
  obtain ⟨_, _, _, signed⟩ := (issueSdJwt_eq_ok _ _ _ _ _ _ _ _ _ _).mp issued
  exact .sdJwt signed (boundKey_sdJwtPayload _ _ _ _ _ _ _)

theorem issueHybridCredential_bound {host : Host} {signer : HybridCredentialSigner} {issuer : Url}
    {holderJwk : Value} {holderJkt cNonce : String} {now : UInt64} {envelope : Bytes}
    (issued : issueHybridCredential crates host signer issuer holderJwk holderJkt cNonce now =
      .ok envelope) : SignedHybrid crates host (crates.urlSafeEncode envelope) holderJwk := by
  simp only [issueHybridCredential, encodeCanonicalCbor, Checks.bind_eq_ok (hybridDisclosures ..),
    Checks.okOr_bind_eq_ok, Checks.mapError_eq_ok] at issued
  obtain ⟨disclosures, _, payload, encoded, signed⟩ := issued
  refine ⟨signer, _, _, envelope, signed, encoded, ?_, rfl⟩
  exact .tail _ (.tail _ (.tail _ (.tail _ (.head _))))

/-- Whatever the configuration, the credential is bound to the key of the accepted proof. -/
theorem encodeCredential_bound {host : Host} {decision : Decision} {response : CredentialResponse}
    (encoded : encodeCredential crates state host decision = .ok response) :
    BoundTo crates host response.credential decision.proof.holderJwk := by
  cases encodeCredential_eq_ok.mp encoded with
  | sdJwt _ _ issued => exact issueSdJwt_bound issued
  | hybrid _ _ _ issued => exact .hybrid (issueHybridCredential_bound issued)
  | mdoc _ _ issued =>
      obtain ⟨_, _, coordinates, signed⟩ := issueMdoc_bound issued
      exact .mdoc coordinates signed
  | mandate _ _ _ issued =>
      exact .sdJwt ((signSdJwt_eq_ok _ _ _ _ _ _).mp issued)
        (boundKey_mandateSdJwtPayload _ _ _ _ _ _ _ _)

end VCIssuer.Service
