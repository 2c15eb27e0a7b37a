import VCIssuer.Kernel.Decision
import VCIssuer.Library.Checks
import VCIssuer.Library.Critical
import VCIssuer.Library.Values

/-!
# What the service takes from outside the repository

The functions of the crates that the service calls are the fields of `Crates`:
hashing, encodings, elliptic curves, serde and URLs.  They are pure.  Whatever
can answer differently from one call to the next is in `Host`: the network, the
Keychain and the random numbers that never become keys of a map.
-/

namespace VCIssuer.Service

open VCIssuer.Library

/-! ## Errors -/

inductive StatusCode where
  | badRequest
  | unauthorized
  | forbidden
  | notFound
  | conflict
  | gone
  | payloadTooLarge
  | internalServerError
  | notImplemented
  | badGateway
  deriving DecidableEq, Repr

structure OAuthError where
  status : StatusCode
  error : String
  errorDescription : String
  deriving DecidableEq, Repr

/-- A request ends early with an error response, or its task panics. -/
inductive Failure where
  | response (error : OAuthError)
  | panic
  deriving DecidableEq, Repr

def oauthError (status : StatusCode) (error description : String) : Failure :=
  .response ⟨status, error, description⟩

abbrev Checked (α : Type) := Except Failure α

/-! ## Keys, URLs and clocks -/

/-- A P-256 public key, as an affine point. -/
structure VerifyingKey where
  x : Bytes
  y : Bytes
  deriving DecidableEq

structure Signature where
  bytes : Bytes
  deriving DecidableEq

structure Url where
  serialization : String
  deriving DecidableEq, Repr

def Url.asStr (self : Url) : String := self.serialization

/-- Seconds since the Unix epoch, or nothing when the system clock is before it. -/
abbrev ClockReading := Option UInt64

def unixTime (reading : ClockReading) : Checked UInt64 :=
  Checks.okOr reading
    (oauthError .internalServerError "server_error" "system clock is before the Unix epoch")

/-! ## Structs that serde reads from bytes -/

structure EcJwk where
  kty : String
  crv : String
  x : String
  y : String
  deriving DecidableEq

structure DpopHeader where
  alg : String
  typ : String
  jwk : EcJwk
  deriving DecidableEq

structure DpopClaims where
  htm : String
  htu : String
  iat : UInt64
  jti : String
  deriving DecidableEq

structure CredentialProofClaims where
  aud : String
  iat : UInt64
  nonce : String
  deriving DecidableEq

structure CaptureEvidenceRequest where
  attestation : String
  clientIp : Option String
  deriving DecidableEq

structure TokenResponse where
  token : String
  deriving DecidableEq

structure ValidateResponse where
  passed : Bool
  assuranceType : Option String
  deriving DecidableEq

structure TlsnArtifactPayload where
  version : String
  sessionId : String
  issuedAt : UInt64
  verifierOutput : Value

/-- A defaulted optional string: an absent or null member is `none`. -/
def optionalString (member : Option Value) : Option (Option String) :=
  match member with
  | none | some .null => some none
  | some value => value.asStr.map some

/-- What App Attest verification reads from an X.509 certificate. -/
structure Certificate where
  tbsDer : Option Bytes
  signature : Bytes
  publicKey : Option Bytes
  notBefore : UInt64
  notAfter : UInt64
  /-- Object identifiers, in dotted form, with the values of their extensions. -/
  extensions : Option (List (String × Bytes))

/-! ## Crates -/

structure Crates where
  sha256 : Bytes → Bytes
  /-- `URL_SAFE_NO_PAD` of the base64 crate. -/
  urlSafeEncode : Bytes → String
  urlSafeDecode : String → Option Bytes
  standardDecode : String → Option Bytes
  /-- `VerifyingKey::from_encoded_point` on uncompressed affine coordinates. -/
  keyFromAffine : Bytes → Bytes → Option VerifyingKey
  keyFromSec1 : Bytes → Option VerifyingKey
  signatureFromSlice : Bytes → Option Signature
  signatureFromDer : Bytes → Option Signature
  verifyEs256 : VerifyingKey → Bytes → Signature → Bool
  /-- ML-DSA-65 verification with a key and a signature of the right lengths. -/
  verifyMlDsa65 : Bytes → Bytes → Bytes → Bool
  dpopHeaderFromSlice : Bytes → Option DpopHeader
  dpopClaimsFromSlice : Bytes → Option DpopClaims
  credentialProofClaimsFromSlice : Bytes → Option CredentialProofClaims
  captureEvidenceFromSlice : Bytes → Option CaptureEvidenceRequest
  tokenResponseFromStr : String → Option TokenResponse
  validateResponseFromStr : String → Option ValidateResponse
  valueFromSlice : Bytes → Option Value
  valueToVec : Value → Bytes
  valueToString : Value → String
  tlsnPayloadToVec : TlsnArtifactPayload → Option Bytes
  /-- `ciborium::de::from_reader`: the first item and the position behind it. -/
  cborFromReader : Bytes → Option (CborValue × Nat)
  cborToVec : CborValue → Option Bytes
  certificateFromDer : Bytes → Option Certificate
  p384KeyFromSec1 : Bytes → Option VerifyingKey
  p384SignatureFromDer : Bytes → Option Signature
  verifyEs384 : VerifyingKey → Bytes → Signature → Bool
  /-- The embedded Apple App Attest root certificate. -/
  appleRootCaDer : Bytes
  join : Url → String → Option Url
  appendPair : Url → String → String → Url

def Crates.cborFromSlice (crates : Crates) (bytes : Bytes) : Option CborValue :=
  (crates.cborFromReader bytes).map Prod.fst

/-- The digest of a string, as the service writes it into tokens and thumbprints. -/
def Crates.digest (crates : Crates) (text : String) : String :=
  crates.urlSafeEncode (crates.sha256 (Text.asBytes text))

/-! ## The host of one step -/

/-- A Keychain key, known by the 65 octets of its uncompressed public point. -/
structure KeychainSigner where
  publicKeyBytes : Bytes
  uncompressed : publicKeyBytes.length = 65 ∧ publicKeyBytes.head? = some 4
  deriving DecidableEq

namespace KeychainSigner

variable (crates : Crates) (self : KeychainSigner)

def x : String := crates.urlSafeEncode ((self.publicKeyBytes.drop 1).take 32)

def y : String := crates.urlSafeEncode ((self.publicKeyBytes.drop 33).take 32)

def kid : String :=
  crates.digest ("\x7b\"crv\":\"P-256\",\"kty\":\"EC\",\"x\":\"" ++ self.x crates ++
    "\",\"y\":\"" ++ self.y crates ++ "\"\x7d")

def publicJwk : Value :=
  .object
    [ ("kty", .string "EC"), ("crv", .string "P-256"), ("x", .string (self.x crates)),
      ("y", .string (self.y crates)), ("use", .string "sig"), ("alg", .string "ES256"),
      ("kid", .string (self.kid crates)) ]

end KeychainSigner

structure HybridCredentialSigner where
  classical : KeychainSigner
  pqPublicKey : Bytes
  pqKid : String
  generation : UInt64
  deriving DecidableEq

/-- The decrypted record of the stored post-quantum key. -/
structure StoredKey where
  generation : UInt64
  classicalKidHash : Bytes
  publicKey : Bytes
  secretKey : Bytes
  deriving DecidableEq

/-- A JSON request to another server. -/
structure HttpRequest where
  url : String
  body : Value

/-- What random octets are drawn for when they do not become a key of a map. -/
inductive SaltUse where
  | requestId
  | sessionId
  | disclosure
  | mandateJti
  | mdocItem
  deriving DecidableEq

/-- What the machine and the network answer while one step runs. -/
structure Host where
  /-- The body of a successful response. -/
  post : HttpRequest → Option String
  signEs256 : KeychainSigner → Bytes → Option Bytes
  developmentCertificateDer : String → Option Bytes
  /-- The stored record of a signer, read and decrypted. -/
  loadStoredKey : HybridCredentialSigner → Option StoredKey
  /-- ML-DSA-65 signing with a secret key of the right length. -/
  signMlDsa65 : Bytes → Bytes → Option Bytes
  salt : SaltUse → Nat → Bytes

/-! ## The post-quantum backend -/

namespace PqBackend

def publicKeyBytes : Nat := 1952
def secretKeyBytes : Nat := 4032
def signatureBytes : Nat := 3309

def signOnce (host : Host) (secretKey message : Bytes) : Option Bytes :=
  if secretKey.length = secretKeyBytes then host.signMlDsa65 secretKey message else none

def verifySignature (crates : Crates) (publicKey message signature : Bytes) : Bool :=
  decide (publicKey.length = publicKeyBytes) && decide (signature.length = signatureBytes) &&
    crates.verifyMlDsa65 publicKey message signature

end PqBackend

end VCIssuer.Service
