import Mathlib.Data.List.AList
import VCIssuer.Service.AppAttest
import VCIssuer.Service.Iproov
import VCIssuer.Service.Issuance

/-!
# Service state

The configuration of a running issuer, the volatile state behind its lock, and
the requests and responses of its endpoints.  The state is that of the macOS
build, where the signing keys exist.
-/

namespace VCIssuer.Service

open VCIssuer.Library

abbrev StringMap (α : Type) := AList fun _ : String => α

/-! ## Configuration -/

/-- The ephemeral notary of the development build. -/
structure DemoNotary where
  /-- The uncompressed SEC1 point. -/
  publicKey : Bytes
  sign : Bytes → Bytes

structure AppState where
  issuer : Url
  trustedNotaryKey : Bytes
  trustedNotaryPqKey : Option Bytes
  tlsnDemoNotary : Option DemoNotary
  trustedEmrtdReaderKey : Option Bytes
  hybridPqEnabled : Bool
  iproov : Option IProovConfig
  appAttest : Option AppAttestConfig
  credentialSigners : List (String × KeychainSigner)
  hybridCredentialSigner : Option HybridCredentialSigner
  /-- The environment variable `PID_CAPTURE_INVOCATION_ORIGIN`. -/
  pidCaptureInvocationOrigin : Option String

/-! ## Volatile state -/

structure PushedAuthorization where
  clientId : String
  redirectUri : Url
  scope : String
  state : Option String
  codeChallenge : String
  tlsnEvidence : Option VerifiedTlsnEvidence

structure AuthorizationCode where
  clientId : String
  redirectUri : Url
  scope : String
  codeChallenge : String
  consumed : Bool
  tlsnEvidence : Option VerifiedTlsnEvidence

structure AccessToken where
  scope : String
  dpopJkt : String
  tlsnEvidence : Option VerifiedTlsnEvidence

structure CredentialOffer where
  profile : String
  issuerState : String
  expiresAt : UInt64
  tlsnEvidence : Option VerifiedTlsnEvidence

inductive CaptureStatus where
  | awaitingEvidence
  | issued
  | failed
  deriving DecidableEq, Repr

structure CaptureSession where
  holderJkt : String
  holderJwk : Value
  nonce : String
  iproovUserId : String
  iproovToken : Option String
  status : CaptureStatus
  credential : Option String
  credentialMdoc : Option String
  expiresAt : UInt64
  deviceToken : Option String

structure VolatileState where
  pushed : StringMap PushedAuthorization
  codes : StringMap AuthorizationCode
  tokens : StringMap AccessToken
  nonces : StringMap Bool
  dpopJtis : List String
  bindingJtis : List String
  offers : StringMap CredentialOffer
  tlsnSessions : List String
  captureSessions : StringMap CaptureSession
  appAttestChallenges : StringMap UInt64
  appAttestInstances : StringMap RegisteredInstance

/-- The default state, with the App Attest instances that the store held at start-up. -/
def VolatileState.initial (instances : StringMap RegisteredInstance) : VolatileState where
  pushed := ∅
  codes := ∅
  tokens := ∅
  nonces := ∅
  dpopJtis := []
  bindingJtis := []
  offers := ∅
  tlsnSessions := []
  captureSessions := ∅
  appAttestChallenges := ∅
  appAttestInstances := instances

/-! ## Requests -/

/-- Header values that are visible ASCII, under lower-case names. -/
abbrev HeaderMap := List (String × String)

def headerStr (headers : HeaderMap) (name : String) : Option String :=
  headers.lookup name

structure ParRequest where
  clientId : String
  redirectUri : Url
  responseType : String
  scope : String
  state : Option String
  codeChallenge : String
  codeChallengeMethod : String
  issuerState : Option String
  deriving DecidableEq

structure AuthorizationRequest where
  clientId : String
  requestUri : String
  deriving DecidableEq

structure TokenRequest where
  grantType : String
  code : String
  redirectUri : Url
  clientId : String
  codeVerifier : String
  deriving DecidableEq

structure CredentialRequest where
  credentialConfigurationId : String
  proofs : List String
  pidBinding : Option PidBindingObject
  emrtdEvidence : Option EmrtdEvidenceObject
  deriving DecidableEq

structure CreateCaptureSessionRequest where
  holderJwk : Value
  deviceToken : Option String

structure AppAttestRegisterRequest where
  keyId : String
  attestation : String
  challenge : String
  deriving DecidableEq

structure AppAttestAssertRequest where
  keyId : String
  assertion : String
  clientData : String
  deriving DecidableEq

/-! ## Responses -/

structure ParResponse where
  requestUri : String
  expiresIn : UInt64
  deriving DecidableEq

structure AccessTokenResponse where
  accessToken : String
  tokenType : String
  expiresIn : UInt64
  scope : String
  deriving DecidableEq

structure NonceResponse where
  cNonce : String
  cNonceExpiresIn : UInt64
  deriving DecidableEq

/-- The single credential of a response, with its format when the response names one. -/
structure CredentialResponse where
  credential : String
  format : Option String
  deriving DecidableEq

structure CreateOfferResponse where
  credentialOfferUri : String
  deepLink : String
  expiresIn : UInt64
  deriving DecidableEq

structure CreateCaptureSessionResponse where
  sessionId : String
  nonce : String
  invocationUrl : String
  iproovToken : Option String
  iproovStreamingUrl : Option String
  iproovAssuranceType : Option String
  expiresIn : UInt64
  deriving DecidableEq

structure AppAttestChallengeResponse where
  challenge : String
  expiresIn : UInt64
  deriving DecidableEq

/-! ## Handlers -/

/-- What a request takes that may be taken only once. -/
inductive Mark where
  /-- A pushed request has been turned into an authorization code. -/
  | authorizationCode (requestUri : String)
  /-- A code has been turned into an access token. -/
  | accessToken (code : String)
  /-- A credential nonce has been consumed. -/
  | credentialNonce (nonce : String)
  /-- A DPoP proof has passed the replay check. -/
  | dpopJti (jti : String)
  /-- A PID binding or an eMRTD attestation has passed the replay check. -/
  | bindingJti (jti : String)
  /-- A notary session has been turned into an offer. -/
  | tlsnOffer (sessionId : String)
  deriving DecidableEq

/-- One critical section of a request, under the lock of the volatile state. -/
abbrev Handler (α : Type) := Critical VolatileState Failure Mark α

def randomToken (crates : Crates) (octets : Bytes) : String :=
  crates.urlSafeEncode octets

/-- The first non-zero word; there is none only as long as the loop has not ended. -/
def randomCredentialNonce (words : List UInt64) : Option String :=
  (words.find? (· ≠ 0)).map fun word => toString word.toNat

end VCIssuer.Service
