import VCIssuer.Service.Authorization

/-!
# The credential endpoint

One critical section checks everything that a credential request must show,
takes the DPoP identifier, the binding identifier and the nonce, and asks the
kernel.  The credential is encoded after the lock is released.
-/

namespace VCIssuer.Service

open VCIssuer.Library
open VCIssuer.Library.Critical

def bearer (headers : HeaderMap) : Option String :=
  (headerStr headers "authorization").bind (Text.stripPrefix "DPoP ")

def singleCredentialProof : List String → Option String
  | [proof] => some proof
  | _ => none

/-- Insert a binding identifier, or fail if it is there already. -/
def acceptBindingJti (jti : String) (replayed : Failure) : Handler Unit := do
  let inner ← read
  rejectIf (jti ∈ inner.bindingJtis) replayed
  accept (.bindingJti jti) fun inner => { inner with bindingJtis := jti :: inner.bindingJtis }

/-- The PID binding of the two profiles that need one; no other profile accepts any. -/
def checkPidBinding (crates : Crates) (state : AppState) (request : CredentialRequest)
    (proof : VerifiedCredentialProof) (now : UInt64) : Handler (Option VerifiedPidBinding) :=
  if request.credentialConfigurationId = qeaaPidBoundSdJwt ∨
      request.credentialConfigurationId = mandateSdJwt then do
    let supplied ← okOr request.pidBinding
      (proofError "the PID-bound profile requires pid_binding evidence")
    let signer ← okOr (state.credentialSigners.lookup pidSdJwt) .panic
    let verified ← ofExcept
      (verifyPidBinding crates supplied (signer.publicJwk crates) state.issuer proof.nonce
        proof.holderJkt now)
    acceptBindingJti verified.jti (proofError "PID binding proof jti has already been used")
    return some verified
  else do
    rejectIf request.pidBinding.isSome
      (oauthError .badRequest "invalid_request"
        "pid_binding evidence is not accepted by this credential profile")
    return none

/-- The chip evidence of the NFC profile; no other profile accepts any. -/
def checkChipLiveness (crates : Crates) (state : AppState) (request : CredentialRequest)
    (proof : VerifiedCredentialProof) (now : UInt64) : Handler (Option VerifiedChipLiveness) :=
  if request.credentialConfigurationId = pidFromEmrtdSdJwt then do
    let supplied ← okOr request.emrtdEvidence
      (proofError "the NFC-sourced PID profile requires emrtd_evidence")
    let readerKey ← okOr state.trustedEmrtdReaderKey
      (oauthError .notImplemented "credential_request_denied"
        "NFC-sourced PID issuance is not configured on this issuer")
    let verified ← ofExcept
      (verifyEmrtdEvidence crates supplied readerKey state.issuer proof.nonce proof.holderJkt now)
    acceptBindingJti verified.jti
      (proofError "`eMRTD` evidence attestation jti has already been used")
    return some verified
  else do
    rejectIf request.emrtdEvidence.isSome
      (oauthError .badRequest "invalid_request"
        "emrtd_evidence is not accepted by this credential profile")
    return none

section Evidence

/-- The section that both kinds of evidence go through: a profile that needs the evidence has it
verified under a key of the service and takes its identifier, and no other profile accepts any. -/
def checkEvidence {Supplied Key Verified : Type} (needed : Prop) [Decidable needed]
    (supplied : Option Supplied) (missing : Failure) (key : Option Key) (unconfigured : Failure)
    (verify : Supplied → Key → Checked Verified) (jti : Verified → String)
    (replayed notAccepted : Failure) : Handler (Option Verified) :=
  if needed then do
    let supplied ← okOr supplied missing
    let key ← okOr key unconfigured
    let verified ← ofExcept (verify supplied key)
    acceptBindingJti (jti verified) replayed
    return some verified
  else do
    rejectIf supplied.isSome notAccepted
    return none

variable (crates : Crates) (state : AppState) (request : CredentialRequest)
  (proof : VerifiedCredentialProof) (now : UInt64)

theorem checkPidBinding_eq : checkPidBinding crates state request proof now =
    checkEvidence (request.credentialConfigurationId = qeaaPidBoundSdJwt ∨
        request.credentialConfigurationId = mandateSdJwt)
      request.pidBinding (proofError "the PID-bound profile requires pid_binding evidence")
      (state.credentialSigners.lookup pidSdJwt) .panic
      (fun supplied signer => verifyPidBinding crates supplied (signer.publicJwk crates) state.issuer
        proof.nonce proof.holderJkt now) (·.jti)
      (proofError "PID binding proof jti has already been used")
      (oauthError .badRequest "invalid_request"
        "pid_binding evidence is not accepted by this credential profile") :=
  rfl

theorem checkChipLiveness_eq : checkChipLiveness crates state request proof now =
    checkEvidence (request.credentialConfigurationId = pidFromEmrtdSdJwt)
      request.emrtdEvidence
      (proofError "the NFC-sourced PID profile requires emrtd_evidence")
      state.trustedEmrtdReaderKey
      (oauthError .notImplemented "credential_request_denied"
        "NFC-sourced PID issuance is not configured on this issuer")
      (fun supplied readerKey => verifyEmrtdEvidence crates supplied readerKey state.issuer
        proof.nonce proof.holderJkt now) (·.jti)
      (proofError "`eMRTD` evidence attestation jti has already been used")
      (oauthError .badRequest "invalid_request"
        "emrtd_evidence is not accepted by this credential profile") :=
  rfl

end Evidence

/-- What the encoders are given once the lock is released. -/
structure Decision where
  configurationId : String
  proof : VerifiedCredentialProof
  now : UInt64
  tlsnEvidence : Option VerifiedTlsnEvidence
  chipLiveness : Option VerifiedChipLiveness
  mandateGrant : Option MandateGrant

/-- Everything up to the kernel's decision, and the marking of the nonce. -/
def credentialDecision (crates : Crates) (state : AppState) (headers : HeaderMap)
    (request : CredentialRequest) (dpopClock proofClock clock : ClockReading) (host : Host) :
    Handler Decision := do
  let token ← okOr (bearer headers)
    (oauthError .unauthorized "invalid_token" "DPoP access token is required")
  let dpop ← okOr (headerStr headers "dpop")
    (oauthError .unauthorized "invalid_token" "DPoP proof is required")
  let credentialEndpoint ← okOr (crates.join state.issuer "credential") .panic
  let verifiedDpop ← ofExcept (verifyDpop crates dpop "POST" credentialEndpoint dpopClock)
  acceptDpopJti verifiedDpop.jti
    (oauthError .unauthorized "invalid_dpop_proof" "DPoP jti has already been used")
  let inner ← read
  let access ← okOr (inner.tokens.lookup token)
    (oauthError .unauthorized "invalid_token" "access token is unknown")
  rejectIf (access.dpopJkt ≠ verifiedDpop.jkt)
    (oauthError .unauthorized "invalid_token" "DPoP key binding mismatch")
  rejectIf (request.credentialConfigurationId ∉ Text.splitAsciiWhitespace access.scope)
    (oauthError .forbidden "credential_request_denied"
      "credential is outside the authorized scope")
  let credentialProof ← okOr (singleCredentialProof request.proofs)
    (proofError "exactly one JWT credential proof is required")
  let verifiedProof ← ofExcept
    (verifyCredentialProof crates credentialProof state.issuer proofClock)
  rejectIf (access.dpopJkt ≠ verifiedProof.holderJkt)
    (proofError "development profile requires the credential proof and DPoP key to match")
  let nonceUsed ← okOr (inner.nonces.lookup verifiedProof.nonce)
    (proofError "credential proof nonce is unknown")
  rejectIf (nonceUsed = true) (proofError "credential proof nonce has already been used")
  let now ← ofExcept (unixTime clock)
  rejectIf
    (request.credentialConfigurationId = tlsnEvidenceSdJwt ∧ access.tlsnEvidence.isNone)
    (oauthError .forbidden "credential_request_denied"
      "TLSNotary evidence was not bound to this authorization")
  let pidBinding ← checkPidBinding crates state request verifiedProof now
  let chipLiveness ← checkChipLiveness crates state request verifiedProof now
  let mandateGrant ← ofExcept
    (authorizeKernel crates request.credentialConfigurationId verifiedProof.holderJkt
      verifiedProof.nonce (pidBinding.map (·.subject)) chipLiveness now (host.salt .requestId 0)
      (host.salt .sessionId 0))
  accept (.credentialNonce verifiedProof.nonce) fun inner =>
    { inner with nonces := inner.nonces.insert verifiedProof.nonce true }
  return {
    configurationId := request.credentialConfigurationId
    proof := verifiedProof
    now := now
    tlsnEvidence := access.tlsnEvidence
    chipLiveness := chipLiveness
    mandateGrant := mandateGrant }

/-- The subject a mandate acts on behalf of, as a URN. -/
def mandatorOf (grant : MandateGrant) : String :=
  "urn:eudi:subject:" ++ String.ofList (Text.lowerHex 32 grant.onBehalfOf.val.toNat)

/-- The dispatch over configurations after the lock is released. -/
def encodeCredential (crates : Crates) (state : AppState) (host : Host) (decision : Decision) :
    Checked CredentialResponse :=
  let configurationId := decision.configurationId
  let signerOf := Checks.okOr (state.credentialSigners.lookup configurationId) Failure.panic
  if configurationId ∈ [pidSdJwt, pidFromEmrtdSdJwt, qeaaSdJwt, qeaaPidBoundSdJwt,
      tlsnEvidenceSdJwt] then do
    let signer ← signerOf
    let credential ← issueSdJwt crates host signer state.issuer configurationId
      decision.proof.holderJwk decision.now decision.tlsnEvidence
      (decision.chipLiveness.map (·.claims))
    return { credential := credential, format := none }
  else if configurationId = hybridPqSdJwt then do
    let signer ← Checks.okOr (state.hybridCredentialSigner.filter fun _ => state.hybridPqEnabled)
      (oauthError .forbidden "credential_request_denied"
        "experimental hybrid-PQ issuance is disabled")
    let credential ← issueHybridCredential crates host signer state.issuer decision.proof.holderJwk
      decision.proof.holderJkt decision.proof.nonce decision.now
    return { credential := crates.urlSafeEncode credential, format := some "dev-hybrid-pq+cbor" }
  else if configurationId ∈ [pidMdoc, eaaMdoc] then do
    let signer ← signerOf
    let credential ← issueMdoc crates host signer configurationId decision.proof.holderJwk
      decision.now none none
    return { credential := credential, format := none }
  else if configurationId = mandateSdJwt then do
    let grant ← Checks.okOr decision.mandateGrant Failure.panic
    let signer ← signerOf
    let credential ← issueMandateSdJwt crates host signer state.issuer decision.proof.holderJwk
      (mandatorOf grant) grant.grantedPowers (randomToken crates (host.salt .mandateJti 0))
      decision.now
    return { credential := credential, format := none }
  else
    .error (oauthError .badRequest "unknown_credential_configuration"
      "credential configuration is unknown")

def credential (crates : Crates) (state : AppState) (headers : HeaderMap)
    (request : CredentialRequest) (dpopClock proofClock clock : ClockReading) (host : Host) :
    Handler CredentialResponse := do
  let decision ←
    credentialDecision crates state headers request dpopClock proofClock clock host
  ofExcept (encodeCredential crates state host decision)

end VCIssuer.Service
