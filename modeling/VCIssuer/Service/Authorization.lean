import VCIssuer.Service.State

/-!
# Authorization endpoints

Pushed authorization requests, the authorization endpoint, the token and nonce
endpoints, and credential offers.  A handler that releases the lock between two
accesses is two sections: the first hands over what the second continues with.
-/

namespace VCIssuer.Service

open VCIssuer.Library
open VCIssuer.Library.Critical

/-! ## Pushed authorization requests -/

/-- The offer that an `issuer_state` belongs to, among all offers. -/
def findOffer (inner : VolatileState) (issuerState : String) : Option CredentialOffer :=
  (inner.offers.entries.find? fun entry => entry.2.issuerState == issuerState).map (·.2)

def par (state : AppState) (request : ParRequest) (clock : ClockReading) :
    Handler (Option VerifiedTlsnEvidence) := do
  rejectIf (request.responseType ≠ "code" ∨ request.codeChallengeMethod ≠ "S256")
    (oauthError .badRequest "invalid_request" "response_type=code and PKCE S256 are required")
  rejectIf (validScope request.scope state.hybridPqEnabled = false)
    (oauthError .badRequest "invalid_scope" "scope contains an unsupported credential")
  match request.issuerState with
  | none => return none
  | some issuerState => do
      let now ← ofExcept (unixTime clock)
      let inner ← read
      let offer ← okOr (findOffer inner issuerState)
        (oauthError .badRequest "invalid_request" "issuer_state is unknown")
      rejectIf
        (offer.expiresAt < now ∨ offer.profile ∉ Text.splitAsciiWhitespace request.scope)
        (oauthError .badRequest "invalid_request"
          "credential offer is expired or does not match the requested scope")
      return offer.tlsnEvidence

def requestUriOf (uuid : String) : String :=
  "urn:ietf:params:oauth:request_uri:" ++ uuid

def pushedOf (request : ParRequest) (tlsnEvidence : Option VerifiedTlsnEvidence) :
    PushedAuthorization where
  clientId := request.clientId
  redirectUri := request.redirectUri
  scope := request.scope
  state := request.state
  codeChallenge := request.codeChallenge
  tlsnEvidence := tlsnEvidence

def parPush (request : ParRequest) (tlsnEvidence : Option VerifiedTlsnEvidence)
    (uuid : String) : Handler ParResponse := do
  modify fun inner =>
    { inner with pushed := inner.pushed.insert (requestUriOf uuid) (pushedOf request tlsnEvidence) }
  return { requestUri := requestUriOf uuid, expiresIn := 60 }

/-! ## Authorization -/

def authorize (request : AuthorizationRequest) : Handler PushedAuthorization := do
  let inner ← read
  let pushed ← okOr (inner.pushed.lookup request.requestUri)
    (oauthError .badRequest "invalid_request_uri" "unknown or consumed request_uri")
  modify fun inner => { inner with pushed := inner.pushed.erase request.requestUri }
  rejectIf (pushed.clientId ≠ request.clientId)
    (oauthError .badRequest "invalid_request" "client_id does not match PAR")
  return pushed

def codeOf (pushed : PushedAuthorization) : AuthorizationCode where
  clientId := pushed.clientId
  redirectUri := pushed.redirectUri
  scope := pushed.scope
  codeChallenge := pushed.codeChallenge
  consumed := false
  tlsnEvidence := pushed.tlsnEvidence

/-- The client's redirect URI with the code and, if there was one, the client's state. -/
def redirectOf (crates : Crates) (pushed : PushedAuthorization) (code : String) : Url :=
  let redirect := crates.appendPair pushed.redirectUri "code" code
  match pushed.state with
  | some value => crates.appendPair redirect "state" value
  | none => redirect

def authorizeIssue (crates : Crates) (request : AuthorizationRequest)
    (pushed : PushedAuthorization) (octets : Bytes) : Handler Url := do
  let code := randomToken crates octets
  accept (.authorizationCode request.requestUri) fun inner =>
    { inner with codes := inner.codes.insert code (codeOf pushed) }
  return redirectOf crates pushed code

/-! ## Tokens and nonces -/

def pkceMatches (crates : Crates) (verifier challenge : String) : Bool :=
  crates.digest verifier == challenge

/-- Insert a DPoP identifier, or fail if it is there already. -/
def acceptDpopJti (jti : String) (replayed : Failure) : Handler Unit := do
  let inner ← read
  rejectIf (jti ∈ inner.dpopJtis) replayed
  accept (.dpopJti jti) fun inner => { inner with dpopJtis := jti :: inner.dpopJtis }

def token (crates : Crates) (state : AppState) (headers : HeaderMap) (request : TokenRequest)
    (clock : ClockReading) (octets : Bytes) : Handler AccessTokenResponse := do
  rejectIf (request.grantType ≠ "authorization_code")
    (oauthError .badRequest "unsupported_grant_type" "only authorization_code is enabled")
  let dpop ← okOr (headerStr headers "dpop")
    (oauthError .badRequest "invalid_dpop_proof" "DPoP proof is required")
  let tokenEndpoint ← okOr (crates.join state.issuer "token") .panic
  let verifiedDpop ← ofExcept (verifyDpop crates dpop "POST" tokenEndpoint clock)
  acceptDpopJti verifiedDpop.jti
    (oauthError .badRequest "invalid_dpop_proof" "DPoP jti has already been used")
  let inner ← read
  let code ← okOr (inner.codes.lookup request.code)
    (oauthError .badRequest "invalid_grant" "unknown authorization code")
  rejectIf
    (code.consumed = true ∨ code.clientId ≠ request.clientId ∨
      code.redirectUri ≠ request.redirectUri ∨
      pkceMatches crates request.codeVerifier code.codeChallenge = false)
    (oauthError .badRequest "invalid_grant" "authorization code binding failed")
  accept (.accessToken request.code) fun inner =>
    { inner with codes := inner.codes.insert request.code { code with consumed := true } }
  let accessToken := randomToken crates octets
  modify fun inner =>
    { inner with
      tokens := inner.tokens.insert accessToken
        { scope := code.scope, dpopJkt := verifiedDpop.jkt, tlsnEvidence := code.tlsnEvidence } }
  return { accessToken := accessToken, tokenType := "DPoP", expiresIn := 300, scope := code.scope }

def nonce (cNonce : String) : Handler NonceResponse := do
  modify fun inner => { inner with nonces := inner.nonces.insert cNonce false }
  return { cNonce := cNonce, cNonceExpiresIn := 300 }

/-! ## Offers -/

def offerResponse (crates : Crates) (state : AppState) (id : String) (expiresIn : UInt64) :
    Handler CreateOfferResponse := do
  let uri ← okOr (crates.join state.issuer ("credential-offer/" ++ id)) .panic
  let deepLink := crates.appendPair ⟨"openid-credential-offer://"⟩ "credential_offer_uri" uri.asStr
  return { credentialOfferUri := uri.asStr, deepLink := deepLink.asStr, expiresIn := expiresIn }

def createCredentialOffer (crates : Crates) (state : AppState)
    (credentialConfigurationId : String) (clock : ClockReading) (uuid : String)
    (octets : Bytes) : Handler CreateOfferResponse := do
  rejectIf (credentialConfigurationId = tlsnEvidenceSdJwt)
    (oauthError .badRequest "invalid_request"
      "TLSNotary evidence offers require verified evidence")
  rejectIf
    (validScope credentialConfigurationId state.hybridPqEnabled = false ∨
      ' ' ∈ credentialConfigurationId.toList)
    (oauthError .badRequest "invalid_request" "credential configuration is unknown")
  let now ← ofExcept (unixTime clock)
  modify fun inner =>
    { inner with
      offers := inner.offers.insert uuid
        { profile := credentialConfigurationId
          issuerState := randomToken crates octets
          expiresAt := saturatingAdd now 300
          tlsnEvidence := none } }
  offerResponse crates state uuid 300

/-- Reserve a notary session, or fail if it has created an offer already. -/
def reserveTlsnSession (sessionId : String) : Handler Unit := do
  let inner ← read
  rejectIf (sessionId ∈ inner.tlsnSessions)
    (oauthError .conflict "invalid_request"
      "TLSNotary session has already created an issuance offer")
  accept (.tlsnOffer sessionId) fun inner =>
    { inner with tlsnSessions := sessionId :: inner.tlsnSessions }

def buildTlsnOffer (crates : Crates) (state : AppState) (artifact : SignedTlsnArtifact)
    (clock : ClockReading) (uuid : String) (octets : Bytes) : Handler CreateOfferResponse := do
  let now ← ofExcept (unixTime clock)
  let evidence ← ofExcept
    (verifyTlsnArtifact crates artifact state.trustedNotaryKey state.trustedNotaryPqKey now)
  reserveTlsnSession evidence.sessionId
  modify fun inner =>
    { inner with
      offers := inner.offers.insert uuid
        { profile := tlsnEvidenceSdJwt
          issuerState := randomToken crates octets
          expiresAt := saturatingAdd now tlsnEvidenceLifetimeSeconds
          tlsnEvidence := some evidence } }
  offerResponse crates state uuid tlsnEvidenceLifetimeSeconds

/-- A fresh artifact by the demo notary about a web fact of the caller's choice. -/
def demoArtifact (crates : Crates) (notary : DemoNotary) (serverName : Option String)
    (claim : Option Value) (now : UInt64) (sessionOctets : Bytes) : Checked SignedTlsnArtifact := do
  let payload : TlsnArtifactPayload :=
    { version := tlsnArtifactVersion
      sessionId := "demo-" ++ randomToken crates sessionOctets
      issuedAt := now
      verifierOutput := .object
        [ ("serverName", .string (serverName.getD "example.com")),
          ("status", .nat 200),
          ("claim", claim.getD (.string "demo web fact notarised by the development notary")),
          ("demo", .bool true) ] }
  let message ← Checks.okOr (crates.tlsnPayloadToVec payload) .panic
  return {
    payload := payload
    algorithm := "ES256"
    publicKey := crates.urlSafeEncode notary.publicKey
    signature := crates.urlSafeEncode (notary.sign message)
    pqAlgorithm := none
    pqPublicKey := none
    pqSignature := none }

def tlsnDemoOffer (crates : Crates) (state : AppState) (serverName : Option String)
    (claim : Option Value) (demoClock clock : ClockReading) (sessionOctets : Bytes)
    (uuid : String) (octets : Bytes) : Handler CreateOfferResponse := do
  let notary ← okOr state.tlsnDemoNotary
    (oauthError .notImplemented "not_enabled"
      "TLSNotary demo mode is disabled (set ENABLE_TLSN_DEMO on the issuer)")
  let now ← ofExcept (unixTime demoClock)
  let artifact ← ofExcept (demoArtifact crates notary serverName claim now sessionOctets)
  buildTlsnOffer crates state artifact clock uuid octets

def getCredentialOffer (state : AppState) (id : String) (clock : ClockReading) :
    Handler Value := do
  let now ← ofExcept (unixTime clock)
  let inner ← read
  let offer ← okOr (inner.offers.lookup id)
    (oauthError .notFound "invalid_request" "credential offer is unknown")
  rejectIf (offer.expiresAt < now)
    (oauthError .gone "invalid_request" "credential offer has expired")
  return .object
    [ ("credential_issuer", .string state.issuer.origin),
      ("credential_configuration_ids", .array [.string offer.profile]),
      ("grants", .object
        [("authorization_code", .object [("issuer_state", .string offer.issuerState)])]) ]

end VCIssuer.Service
