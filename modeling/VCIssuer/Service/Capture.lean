import VCIssuer.Service.Credential

/-!
# Capture sessions

A companion reads a travel document for another wallet.  The wallet opens a
session for its key, the companion submits evidence, and the wallet polls.  The
submission is three sections: the App Attest gate, a snapshot of the session, and
the commit after the network and the attestation have been consulted without the
lock.
-/

namespace VCIssuer.Service

open VCIssuer.Library
open VCIssuer.Library.Critical

def captureSessionTtlSeconds : UInt64 := 900

def iproovUserId (sessionId : String) : String := "pid-capture-" ++ sessionId

def iproovResource (sessionId : String) : String := "pid-capture:" ++ sessionId

def invocationUrl (origin sessionId : String) : String :=
  Text.trimEndMatches '/' origin ++ "/pid-capture?session=" ++ sessionId

def invocationOrigin (configured : Option String) (issuerOrigin : String) : String :=
  ((configured.map fun origin => Text.trimEndMatches '/' (Text.trim origin)).filter
    (· ≠ "")).getD (Text.trimEndMatches '/' issuerOrigin)

/-- The offer object and its deep link, for credentials as (configuration, format, credential). -/
def credentialOffer (crates : Crates) (issuerOrigin : String)
    (credentials : List (String × String × String)) : Value × String :=
  let offer := Value.object
    [ ("credential_issuer", .string issuerOrigin),
      ("credential_configuration_ids", .array (credentials.map fun entry => .string entry.1)),
      ("credentials", .array (credentials.map fun entry =>
        .object [("format", .string entry.2.1), ("credential", .string entry.2.2)])) ]
  (offer, (crates.appendPair ⟨"openid-credential-offer://"⟩ "credential_offer"
    (crates.valueToString offer)).asStr)

/-! ## Opening and polling a session -/

/-- The provider's token and launch parameters, when a provider is configured. -/
def mintIproovToken (crates : Crates) (state : AppState) (host : Host) (sessionId : String) :
    Checked (Option String × Option String × Option String) :=
  match state.iproov with
  | none => .ok (none, none, none)
  | some cfg => do
      let token ← Checks.okOr
        (createToken crates host cfg (iproovUserId sessionId) (iproovResource sessionId))
        (oauthError .badGateway "server_error" "liveness provider is unavailable")
      return (some token, some cfg.streamingUrl, some cfg.assuranceType)

def createPidCaptureSession (crates : Crates) (state : AppState)
    (request : CreateCaptureSessionRequest) (clock : ClockReading) (sessionId : String)
    (octets : Bytes) (host : Host) : Handler CreateCaptureSessionResponse := do
  let ecJwk ← okOr (EcJwk.ofValue request.holderJwk)
    (oauthError .badRequest "invalid_request" "holder_jwk must be an EC P-256 public JWK")
  let (_, holderJkt, holderJwk) ← ofExcept (verifyingKeyAndJwk crates ecJwk "invalid_request")
  let now ← ofExcept (unixTime clock)
  let nonce := randomToken crates octets
  let (iproovToken, streamingUrl, assuranceType) ←
    ofExcept (mintIproovToken crates state host sessionId)
  modify fun inner =>
    { inner with
      captureSessions := inner.captureSessions.insert sessionId
        { holderJkt := holderJkt
          holderJwk := holderJwk
          nonce := nonce
          iproovUserId := iproovUserId sessionId
          iproovToken := iproovToken
          status := .awaitingEvidence
          credential := none
          credentialMdoc := none
          expiresAt := saturatingAdd now captureSessionTtlSeconds
          deviceToken := request.deviceToken } }
  return {
    sessionId := sessionId
    nonce := nonce
    invocationUrl := invocationUrl
      (invocationOrigin state.pidCaptureInvocationOrigin state.issuer.asStr) sessionId
    iproovToken := iproovToken
    iproovStreamingUrl := streamingUrl
    iproovAssuranceType := assuranceType
    expiresIn := captureSessionTtlSeconds }

def CaptureStatus.text : CaptureStatus → String
  | .awaitingEvidence => "awaiting_evidence"
  | .issued => "issued"
  | .failed => "failed"

/-- What the companion needs while the session waits for evidence. -/
def awaitingMembers (state : AppState) (session : CaptureSession) : List (String × Value) :=
  if session.status = .awaitingEvidence then
    [ ("nonce", .string session.nonce), ("holder_jkt", .string session.holderJkt),
      ("audience", .string state.issuer.origin) ] ++
    (session.iproovToken.map fun token => ("iproov_token", Value.string token)).toList ++
    (match state.iproov with
      | some cfg =>
          [ ("iproov_streaming_url", .string cfg.streamingUrl),
            ("iproov_assurance_type", .string cfg.assuranceType) ]
      | none => [])
  else []

/-- The credentials of a session, as its poll response carries them. -/
def credentialMembers (crates : Crates) (state : AppState) (session : CaptureSession) :
    List (String × Value) :=
  match session.credential with
  | none => []
  | some credential =>
      let mdoc := (session.credentialMdoc.map fun mdoc => (pidFromEmrtdMdoc, "mso_mdoc", mdoc)).toList
      let (offer, deepLink) := credentialOffer crates state.issuer.origin
        ((pidFromEmrtdSdJwt, "dc+sd-jwt", credential) :: mdoc)
      [("format", .string "dc+sd-jwt"), ("credential", .string credential)] ++
      (match session.credentialMdoc with
        | some mdoc => [("format_mdoc", .string "mso_mdoc"), ("credential_mdoc", .string mdoc)]
        | none => []) ++
      [("credential_offer", offer), ("deep_link", .string deepLink)]

def getPidCaptureSession (crates : Crates) (state : AppState) (id : String)
    (clock : ClockReading) : Handler Value := do
  let now ← ofExcept (unixTime clock)
  let inner ← read
  let session ← okOr (inner.captureSessions.lookup id)
    (oauthError .notFound "invalid_request" "capture session is unknown")
  rejectIf (session.expiresAt < now ∧ session.status ≠ .issued)
    (oauthError .gone "invalid_request" "capture session has expired")
  return .object ([("status", .string session.status.text)] ++ awaitingMembers state session ++
    credentialMembers crates state session)

/-! ## App Attest -/

def appAttestNotConfigured : Failure :=
  oauthError .notImplemented "not_enabled" "App Attest is not configured on this issuer"

def appAttestChallenge (crates : Crates) (state : AppState) (clock : ClockReading)
    (octets : Bytes) : Handler AppAttestChallengeResponse := do
  rejectIf state.appAttest.isNone appAttestNotConfigured
  let now ← ofExcept (unixTime clock)
  let challenge := randomToken crates octets
  modify fun inner =>
    { inner with
      appAttestChallenges :=
        ((inner.appAttestChallenges.entries.filter fun entry => !decide (now < entry.2)).foldl
          (fun kept entry => kept.erase entry.1) inner.appAttestChallenges).insert challenge
            (saturatingAdd now 300) }
  return { challenge := challenge, expiresIn := 300 }

def maxAppAttestBytes : Nat := 8 * 1024

/-- Take the challenge and verify the attestation, up to the second locking. -/
def appAttestRegister (crates : Crates) (state : AppState) (request : AppAttestRegisterRequest)
    (clock : ClockReading) : Handler RegisteredInstance := do
  let config ← okOr state.appAttest appAttestNotConfigured
  let now ← ofExcept (unixTime clock)
  let inner ← read
  let expiry := inner.appAttestChallenges.lookup request.challenge
  modify fun inner =>
    { inner with appAttestChallenges := inner.appAttestChallenges.erase request.challenge }
  rejectIf (¬ ∃ exp ∈ expiry, now < exp)
    (oauthError .badRequest "invalid_request" "unknown or expired App Attest challenge")
  let keyId ← okOr (crates.standardDecode request.keyId)
    (oauthError .badRequest "invalid_request" "keyId is not base64")
  let attestation ← okOr (crates.standardDecode request.attestation)
    (oauthError .badRequest "invalid_request" "attestation is not base64")
  rejectIf (maxAppAttestBytes < attestation.length)
    (oauthError .payloadTooLarge "invalid_request" "attestation exceeds the accepted size")
  let (appId, publicKey) ← ofExcept
    ((verifyAttestation crates attestation (Text.asBytes request.challenge) keyId config
      now).mapError fun _ =>
        oauthError .badRequest "invalid_attestation" "App Attest attestation was rejected")
  return { appId := appId, publicKey := publicKey, signCount := 0 }

def appAttestStore (keyId : String) (inst : RegisteredInstance) : Handler Unit := do
  modify fun inner =>
    { inner with appAttestInstances := inner.appAttestInstances.insert keyId inst }
  return ()

/-- Verify an assertion by a registered instance and advance its counter. -/
def verifyAppAttestAssertion (crates : Crates) (keyId : String) (assertion clientData : Bytes) :
    Handler Unit := do
  let inner ← read
  let inst ← okOr (inner.appAttestInstances.lookup keyId)
    (oauthError .unauthorized "unknown_instance" "App Attest instance is not registered")
  let newCount ← ofExcept
    ((verifyAssertion crates assertion clientData inst).mapError fun _ =>
      oauthError .unauthorized "invalid_assertion" "App Attest assertion was rejected")
  modify fun inner =>
    { inner with
      appAttestInstances :=
        inner.appAttestInstances.insert keyId { inst with signCount := newCount } }
  return ()

def appAttestAssert (crates : Crates) (state : AppState) (request : AppAttestAssertRequest) :
    Handler Unit := do
  rejectIf state.appAttest.isNone appAttestNotConfigured
  let assertion ← okOr (crates.standardDecode request.assertion)
    (oauthError .badRequest "invalid_request" "assertion is not base64")
  let clientData ← okOr (crates.standardDecode request.clientData)
    (oauthError .badRequest "invalid_request" "client_data is not base64")
  verifyAppAttestAssertion crates request.keyId assertion clientData

/-- The per-request gate, enforced only when App Attest is configured. -/
def enforceAppAttest (crates : Crates) (state : AppState) (headers : HeaderMap) (body : Bytes) :
    Handler Unit :=
  match state.appAttest with
  | none => return ()
  | some _ => do
      let keyId ← okOr (headerStr headers "x-app-attest-key-id")
        (oauthError .unauthorized "app_attest_required"
          "this request requires an App Attest assertion")
      let encoded ← okOr (headerStr headers "x-app-attest-assertion")
        (oauthError .unauthorized "app_attest_required"
          "this request requires an App Attest assertion")
      let assertion ← okOr (crates.standardDecode encoded)
        (oauthError .badRequest "invalid_request" "x-app-attest-assertion is not base64")
      verifyAppAttestAssertion crates keyId assertion body

/-! ## Submitting evidence -/

def portraitMatchedLiveness (iproovLivenessOk readerAttestedPortraitMatch : Bool) : Bool :=
  iproovLivenessOk && readerAttestedPortraitMatch

/-- What a submission takes with it when it releases the lock. -/
structure CaptureSnapshot where
  request : CaptureEvidenceRequest
  now : UInt64
  holderJkt : String
  holderJwk : Value
  nonce : String
  iproovUserId : String
  iproovToken : Option String

/-- The first locking after the gate: the session must still wait for evidence. -/
def captureSnapshot (crates : Crates) (id : String) (body : Bytes) (clock : ClockReading) :
    Handler CaptureSnapshot := do
  let request ← okOr (crates.captureEvidenceFromSlice body)
    (oauthError .badRequest "invalid_request" "evidence body is not valid JSON")
  let now ← ofExcept (unixTime clock)
  let inner ← read
  let session ← okOr (inner.captureSessions.lookup id)
    (oauthError .notFound "invalid_request" "capture session is unknown")
  rejectIf (session.expiresAt < now)
    (oauthError .gone "invalid_request" "capture session has expired")
  rejectIf (session.status ≠ .awaitingEvidence)
    (oauthError .conflict "invalid_request" "capture session is already resolved")
  return {
    request := request
    now := now
    holderJkt := session.holderJkt
    holderJwk := session.holderJwk
    nonce := session.nonce
    iproovUserId := session.iproovUserId
    iproovToken := session.iproovToken }

/-- The provider's verdict; without a provider or a token it is negative. -/
def captureLiveness (crates : Crates) (state : AppState) (host : Host)
    (snapshot : CaptureSnapshot) : Checked Bool :=
  match state.iproov, snapshot.iproovToken with
  | some cfg, some token =>
      Checks.okOr
        (validate crates host cfg token snapshot.iproovUserId
          (snapshot.request.clientIp.getD "0.0.0.0"))
        (oauthError .badGateway "server_error" "liveness provider is unavailable")
  | _, _ => .ok false

/-- The attestation, with its portrait verdict conjoined with the provider's. -/
def captureEvidence (crates : Crates) (state : AppState) (snapshot : CaptureSnapshot)
    (livenessOk : Bool) : Checked VerifiedChipLiveness := do
  let readerKey ← Checks.okOr state.trustedEmrtdReaderKey
    (oauthError .notImplemented "credential_request_denied"
      "NFC-sourced PID issuance is not configured on this issuer")
  let verified ← verifyEmrtdEvidence crates ⟨snapshot.request.attestation⟩ readerKey state.issuer
    snapshot.nonce snapshot.holderJkt snapshot.now
  return { verified with
    livenessMatched := portraitMatchedLiveness livenessOk verified.livenessMatched }

/-- Run a kernel decision; a denial fails the session and ends the submission. -/
def captureGate (crates : Crates) (id profileName : String) (snapshot : CaptureSnapshot)
    (verified : VerifiedChipLiveness) (host : Host) (call : Nat) : Handler Unit :=
  match authorizeKernel crates profileName snapshot.holderJkt snapshot.nonce none (some verified)
      snapshot.now (host.salt .requestId call) (host.salt .sessionId call) with
  | .ok _ => return ()
  | .error denied => do
      modify fun inner =>
        match inner.captureSessions.lookup id with
        | some session =>
            { inner with
              captureSessions := inner.captureSessions.insert id { session with status := .failed } }
        | none => inner
      reject denied

/-- The response to a successful submission. -/
def issuedResponse (crates : Crates) (state : AppState) (credential credentialMdoc : String) :
    Value :=
  let (offer, deepLink) := credentialOffer crates state.issuer.origin
    [ (pidFromEmrtdSdJwt, "dc+sd-jwt", credential),
      (pidFromEmrtdMdoc, "mso_mdoc", credentialMdoc) ]
  .object
    [ ("status", .string "issued"), ("format", .string "dc+sd-jwt"),
      ("credential", .string credential), ("format_mdoc", .string "mso_mdoc"),
      ("credential_mdoc", .string credentialMdoc), ("credential_offer", offer),
      ("deep_link", .string deepLink) ]

/-- A session after both credentials have been stored in it. -/
def CaptureSession.resolved (session : CaptureSession) (credential credentialMdoc : String) :
    CaptureSession :=
  { session with
    status := .issued
    credential := some credential
    credentialMdoc := some credentialMdoc
    iproovToken := none }

/-- The second locking: nothing here looks at the status the session has by now. -/
def captureCommit (crates : Crates) (state : AppState) (id : String)
    (snapshot : CaptureSnapshot) (host : Host) : Handler Value := do
  let livenessOk ← ofExcept (captureLiveness crates state host snapshot)
  let verified ← ofExcept (captureEvidence crates state snapshot livenessOk)
  acceptBindingJti verified.jti
    (proofError "`eMRTD` evidence attestation jti has already been used")
  captureGate crates id pidFromEmrtdSdJwt snapshot verified host 0
  let signer ← okOr (state.credentialSigners.lookup pidFromEmrtdSdJwt) .panic
  let credential ← ofExcept
    (issueSdJwt crates host signer state.issuer pidFromEmrtdSdJwt snapshot.holderJwk snapshot.now
      none (some verified.claims))
  captureGate crates id pidFromEmrtdMdoc snapshot verified host 1
  let mdocSigner ← okOr (state.credentialSigners.lookup pidFromEmrtdMdoc) .panic
  let credentialMdoc ← ofExcept
    (issueMdoc crates host mdocSigner pidFromEmrtdMdoc snapshot.holderJwk snapshot.now
      (some verified.claims) state.hybridCredentialSigner)
  let inner ← read
  let session ← okOr (inner.captureSessions.lookup id) .panic
  modify fun inner =>
    { inner with
      captureSessions :=
        inner.captureSessions.insert id (session.resolved credential credentialMdoc) }
  return issuedResponse crates state credential credentialMdoc

end VCIssuer.Service
