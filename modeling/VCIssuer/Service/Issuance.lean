import VCIssuer.Service.Gate
import VCIssuer.Service.HybridSigner
import VCIssuer.Service.Tlsn

/-!
# Credential encoders

The SD-JWT, mandate, mdoc and hybrid encoders.  Each builds its payload from
verified data, binds the holder's key into it, and asks the host for a
signature.
-/

namespace VCIssuer.Service

open VCIssuer.Library
open VCIssuer.Library.Checks
open VCIssuer.Kernel (Powers powersToScopeUrns mandateVct)
open HybridCodec (HybridContext UnsignedEnvelope)

/-- The issuer identifier, without a trailing slash. -/
def Url.origin (issuer : Url) : String :=
  Text.trimEndMatches '/' issuer.asStr

def signingUnavailable : Failure :=
  oauthError .internalServerError "server_error" "credential signing is unavailable"

/-! ## SD-JWT -/

/-- The vct and the disclosable claims of an SD-JWT profile; a missing input panics. -/
def sdJwtClaims (profile : String) (tlsnEvidence : Option VerifiedTlsnEvidence)
    (pidClaims : Option PidSubjectClaims) : Option (String × List (String × Value)) :=
  if profile = pidSdJwt ∨ profile = devSvipePidSdJwt then
    some ("eu.europa.ec.eudi.pid.1",
      [ ("family_name", .string "Mustermann"), ("given_name", .string "Erika"),
        ("birthdate", .string "1990-01-01"), ("age_over_18", .bool true),
        ("issuing_country", .string "DE") ])
  else if profile = pidFromEmrtdSdJwt then
    pidClaims.map fun pid =>
      ("eu.europa.ec.eudi.pid.1",
        [ ("family_name", .string pid.familyName), ("given_name", .string pid.givenName),
          ("birthdate", .string pid.birthdate), ("age_over_18", .bool pid.ageOver18),
          ("nationality", .string pid.nationality),
          ("issuing_country", .string pid.issuingCountry) ] ++
        (pid.portrait.map fun portrait => ("portrait", Value.string portrait)).toList)
  else if profile = qeaaSdJwt ∨ profile = qeaaPidBoundSdJwt then
    some ("urn:eu.europa.ec.eudi:learning:credential:1",
      [ ("credential_name", .string "Hochschulabschluss"),
        ("awarding_body", .string "German Development University"),
        ("qualification", .string "Master of Science"), ("issuing_country", .string "DE") ])
  else if profile = tlsnEvidenceSdJwt then
    tlsnEvidence.map fun evidence =>
      (tlsnEvidenceVct,
        [ ("tlsn_session_id", .string evidence.sessionId),
          ("tlsn_issued_at", .nat evidence.issuedAt),
          ("tlsn_verifier_output", evidence.verifierOutput),
          ("assurance", .string "tlsnotary-development-evidence") ])
  else none

/-- One disclosure string: a fresh salt, the claim's name and its value. -/
def disclosure (crates : Crates) (salt : Bytes) (name : String) (value : Value) : String :=
  crates.urlSafeEncode
    (crates.valueToVec (.array [.string (crates.urlSafeEncode salt), .string name, value]))

def disclosuresOf (crates : Crates) (salt : Nat → Bytes) (claims : List (String × Value)) :
    List String :=
  claims.mapIdx fun i claim => disclosure crates (salt i) claim.1 claim.2

def digestsOf (crates : Crates) (disclosures : List String) : Value :=
  .array (disclosures.map fun disclosure => .string (crates.digest disclosure))

def sdJwtPayload (crates : Crates) (issuer : Url) (profile vct : String) (holderJwk : Value)
    (now : UInt64) (disclosures : List String) : Value :=
  .object (
    [ ("iss", .string issuer.origin), ("iat", .nat now), ("nbf", .nat now),
      ("exp", .nat (saturatingAdd now 3600)), ("vct", .string vct),
      ("cnf", .object [("jwk", holderJwk)]), ("_sd_alg", .string "sha-256"),
      ("_sd", digestsOf crates disclosures) ] ++
    if profile = qeaaPidBoundSdJwt then [("cryptographically_bound_to", .string pidVct)] else [])

def sdJwtHeader (crates : Crates) (signer : KeychainSigner) : Value :=
  .object
    [("alg", .string "ES256"), ("typ", .string "dc+sd-jwt"), ("kid", .string (signer.kid crates))]

/-- The part of an SD-JWT that is signed. -/
def sdJwtInput (crates : Crates) (signer : KeychainSigner) (payload : Value) : String :=
  crates.urlSafeEncode (crates.valueToVec (sdJwtHeader crates signer)) ++ "." ++
    crates.urlSafeEncode (crates.valueToVec payload)

def sdJwtCompact (crates : Crates) (signer : KeychainSigner) (payload : Value)
    (disclosures : List String) (signature : Bytes) : String :=
  sdJwtInput crates signer payload ++ "." ++ crates.urlSafeEncode signature ++ "~" ++
    "~".intercalate disclosures ++ "~"

/-- Sign a payload and append its disclosures. -/
def signSdJwt (crates : Crates) (host : Host) (signer : KeychainSigner) (payload : Value)
    (disclosures : List String) : Checked String := do
  let signature ← okOr
    (host.signEs256 signer (Text.asBytes (sdJwtInput crates signer payload))) signingUnavailable
  return sdJwtCompact crates signer payload disclosures signature

def issueSdJwt (crates : Crates) (host : Host) (signer : KeychainSigner) (issuer : Url)
    (profile : String) (holderJwk : Value) (now : UInt64)
    (tlsnEvidence : Option VerifiedTlsnEvidence) (pidClaims : Option PidSubjectClaims) :
    Checked String := do
  let (vct, claims) ← okOr (sdJwtClaims profile tlsnEvidence pidClaims) .panic
  let disclosures := disclosuresOf crates (host.salt .disclosure) claims
  let payload := sdJwtPayload crates issuer profile vct holderJwk now disclosures
  signSdJwt crates host signer payload disclosures

/-- A compact SD-JWT with this payload and these disclosures, signed in this step by `signer`. -/
def SignedSdJwt (crates : Crates) (host : Host) (signer : KeychainSigner) (credential : String)
    (payload : Value) (disclosures : List String) : Prop :=
  ∃ signature,
    host.signEs256 signer (Text.asBytes (sdJwtInput crates signer payload)) = some signature ∧
    credential = sdJwtCompact crates signer payload disclosures signature

theorem signSdJwt_eq_ok (crates : Crates) (host : Host) (signer : KeychainSigner)
    (payload : Value) (disclosures : List String) (credential : String) :
    signSdJwt crates host signer payload disclosures = .ok credential ↔
      SignedSdJwt crates host signer credential payload disclosures := by
  simp only [signSdJwt, okOr_bind_eq_ok, pure_eq_ok, SignedSdJwt, @eq_comm _ credential]

theorem issueSdJwt_eq_ok (crates : Crates) (host : Host) (signer : KeychainSigner)
    (issuer : Url) (profile : String) (holderJwk : Value) (now : UInt64)
    (tlsnEvidence : Option VerifiedTlsnEvidence) (pidClaims : Option PidSubjectClaims)
    (credential : String) :
    issueSdJwt crates host signer issuer profile holderJwk now tlsnEvidence pidClaims =
        .ok credential ↔
      ∃ vct claims, sdJwtClaims profile tlsnEvidence pidClaims = some (vct, claims) ∧
        SignedSdJwt crates host signer credential
          (sdJwtPayload crates issuer profile vct holderJwk now
            (disclosuresOf crates (host.salt .disclosure) claims))
          (disclosuresOf crates (host.salt .disclosure) claims) := by
  simp only [issueSdJwt, okOr_bind_eq_ok, Prod.exists, signSdJwt_eq_ok]

/-- The key a payload is bound to. -/
def boundKey (payload : Value) : Option Value :=
  (payload.get "cnf").bind (·.get "jwk")

theorem boundKey_sdJwtPayload (crates : Crates) (issuer : Url) (profile vct : String)
    (holderJwk : Value) (now : UInt64) (disclosures : List String) :
    boundKey (sdJwtPayload crates issuer profile vct holderJwk now disclosures) =
      some holderJwk := rfl

/-! ## Mandates -/

def mandateLifetimeSeconds : UInt64 := 900

def mandateClaims (mandator : String) (grantedPowers : Powers) (mandateJti : String) :
    List (String × Value) :=
  [ ("mandator", .string mandator),
    ("scope", .array ((powersToScopeUrns grantedPowers).map .string)),
    ("mandate_jti", .string mandateJti) ]

def mandateSdJwtPayload (crates : Crates) (host : Host) (issuer : Url) (delegateJwk : Value)
    (mandator : String) (grantedPowers : Powers) (mandateJti : String) (now : UInt64) :
    Value × List String :=
  let disclosures := disclosuresOf crates (host.salt .disclosure)
    (mandateClaims mandator grantedPowers mandateJti)
  (.object
    [ ("iss", .string issuer.origin), ("iat", .nat now), ("nbf", .nat now),
      ("exp", .nat (saturatingAdd now mandateLifetimeSeconds)), ("vct", .string mandateVct),
      ("cnf", .object [("jwk", delegateJwk)]), ("cryptographically_bound_to", .string pidVct),
      ("_sd_alg", .string "sha-256"), ("_sd", digestsOf crates disclosures) ],
    disclosures)

def issueMandateSdJwt (crates : Crates) (host : Host) (signer : KeychainSigner) (issuer : Url)
    (delegateJwk : Value) (mandator : String) (grantedPowers : Powers) (mandateJti : String)
    (now : UInt64) : Checked String :=
  let (payload, disclosures) :=
    mandateSdJwtPayload crates host issuer delegateJwk mandator grantedPowers mandateJti now
  signSdJwt crates host signer payload disclosures

theorem boundKey_mandateSdJwtPayload (crates : Crates) (host : Host) (issuer : Url)
    (delegateJwk : Value) (mandator : String) (grantedPowers : Powers) (mandateJti : String)
    (now : UInt64) :
    boundKey (mandateSdJwtPayload crates host issuer delegateJwk mandator grantedPowers mandateJti
      now).1 = some delegateJwk := rfl

/-! ## mdoc -/

def cborEncode (crates : Crates) (value : CborValue) : Checked Bytes :=
  okOr (crates.cborToVec value)
    (oauthError .internalServerError "server_error" "credential CBOR encoding failed")

def cborInt (value : Int) : CborValue := .integer value

def cborUint (value : Nat) : CborValue := .integer value

def cborDatetime (value : String) : CborValue := .tag 0 (.text value)

/-- The portrait's octets, and none when it cannot be decoded. -/
def decodePortraitBytes (crates : Crates) (portrait : Option String) : Bytes :=
  match portrait with
  | none => []
  | some raw =>
      let b64 := Text.trim (Text.afterLast ',' raw)
      ((crates.standardDecode b64).or (crates.urlSafeDecode b64)).getD []

def hybridPqMdocSignatureLabel : Int := -65537
def hybridPqMdocPublicKeyLabel : Int := -65538

/-- Document type, namespace and elements of an mdoc profile; a missing input panics. -/
def mdocClaims (crates : Crates) (profile : String) (pidClaims : Option PidSubjectClaims) :
    Option (String × String × List (String × CborValue)) :=
  if profile = pidFromEmrtdMdoc then
    pidClaims.map fun pid =>
      ("eu.europa.ec.eudi.pid.1", "eu.europa.ec.eudi.pid.1",
        [ ("family_name", .text pid.familyName), ("given_name", .text pid.givenName),
          ("birth_date", .text pid.birthdate), ("age_over_18", .bool pid.ageOver18),
          ("nationality", .text pid.nationality), ("issuing_country", .text pid.issuingCountry),
          ("portrait", .bytes (decodePortraitBytes crates pid.portrait)) ])
  else if profile = pidMdoc then
    some ("eu.europa.ec.eudi.pid.1", "eu.europa.ec.eudi.pid.1",
      [ ("family_name", .text "Mustermann"), ("given_name", .text "Erika"),
        ("birth_date", .text "1990-01-01"), ("age_over_18", .bool true),
        ("issuing_country", .text "DE") ])
  else if profile = eaaMdoc then
    some ("org.iso.18013.5.1.mDL", "org.iso.18013.5.1",
      [ ("family_name", .text "Mustermann"), ("given_name", .text "Erika"),
        ("birth_date", .text "1990-01-01"), ("issuing_country", .text "DE"),
        ("document_number", .text "DEV-MDL-0001") ])
  else none

/-- The tagged issuer items, and their digests under the same ids. -/
def mdocItems (crates : Crates) (random : Nat → Bytes) :
    Nat → List (String × CborValue) → Checked (List CborValue × List (CborValue × CborValue))
  | _, [] => .ok ([], [])
  | digestId, (elementIdentifier, elementValue) :: rest => do
      let item := CborValue.map
        [ (.text "digestID", cborUint digestId), (.text "random", .bytes (random digestId)),
          (.text "elementIdentifier", .text elementIdentifier),
          (.text "elementValue", elementValue) ]
      let itemBytes ← cborEncode crates item
      let taggedItem := CborValue.tag 24 (.bytes itemBytes)
      let taggedBytes ← cborEncode crates taggedItem
      let (items, digests) ← mdocItems crates random (digestId + 1) rest
      return (taggedItem :: items,
        (cborUint digestId, .bytes (crates.sha256 taggedBytes)) :: digests)

def decodeJwkCoordinate (crates : Crates) (jwk : Value) (name : String) : Checked Bytes := do
  let encoded ← okOr ((jwk.get name).bind Value.asStr)
    (proofError "holder JWK coordinate is missing")
  let decoded ← okOr (crates.urlSafeDecode encoded)
    (proofError "holder JWK coordinate is malformed")
  rejectIf (decoded.length ≠ 32) (proofError "holder P-256 coordinate must be 32 octets")
  return decoded

def rfc3339 (timestamp : UInt64) : Checked String := do
  rejectIf (2 ^ 63 ≤ timestamp.toNat)
    (oauthError .internalServerError "server_error" "credential timestamp is out of range")
  rejectIf (maxTimestamp < timestamp.toNat)
    (oauthError .internalServerError "server_error" "credential timestamp conversion failed")
  let date := civilFromDays (timestamp.toNat / 86400)
  let second := timestamp.toNat % 86400
  return Text.padDecimal 4 date.year.toNat ++ "-" ++ Text.padDecimal 2 date.month ++ "-" ++
    Text.padDecimal 2 date.day ++ "T" ++ Text.padDecimal 2 (second / 3600) ++ ":" ++
    Text.padDecimal 2 (second / 60 % 60) ++ ":" ++ Text.padDecimal 2 (second % 60) ++ "Z"

/-- The COSE key of a holder, from the octets of its coordinates. -/
def deviceKey (x y : Bytes) : CborValue :=
  .map [(cborInt 1, cborInt 2), (cborInt (-1), cborInt 1), (cborInt (-2), .bytes x),
    (cborInt (-3), .bytes y)]

def mobileSecurityObject (docType nameSpace : String) (digests : List (CborValue × CborValue))
    (key : CborValue) (signedAt validUntil : String) : CborValue :=
  .map
    [ (.text "version", .text "1.0"),
      (.text "digestAlgorithm", .text "SHA-256"),
      (.text "valueDigests", .map [(.text nameSpace, .map digests)]),
      (.text "deviceKeyInfo", .map [(.text "deviceKey", key)]),
      (.text "docType", .text docType),
      (.text "validityInfo", .map
        [ (.text "signed", cborDatetime signedAt), (.text "validFrom", cborDatetime signedAt),
          (.text "validUntil", cborDatetime validUntil) ]) ]

/-- The protected header and the payload, as the COSE signature covers them. -/
def sigStructure (protectedBytes payload : Bytes) : CborValue :=
  .array [.text "Signature1", .bytes protectedBytes, .bytes [], .bytes payload]

/-- The unprotected header: the certificate, and the post-quantum half when there is a signer. -/
def unprotectedHeader (crates : Crates) (host : Host) (certificate tbs : Bytes) :
    Option HybridCredentialSigner → Checked (List (CborValue × CborValue))
  | none => .ok [(cborInt 33, .array [.bytes certificate])]
  | some hybrid => do
      let pqSignature ← (hybrid.signPqRaw crates host tbs).mapError fun _ =>
        oauthError .internalServerError "server_error" "hybrid-PQ mdoc signing is unavailable"
      return [ (cborInt 33, .array [.bytes certificate]),
        (cborInt hybridPqMdocSignatureLabel, .bytes pqSignature),
        (cborInt hybridPqMdocPublicKeyLabel, .bytes hybrid.pqPublicKey) ]

def issuerSigned (nameSpace : String) (items : List CborValue) (protectedBytes : Bytes)
    (unprotected : List (CborValue × CborValue)) (payload signature : Bytes) : CborValue :=
  .map
    [ (.text "nameSpaces", .map [(.text nameSpace, .array items)]),
      (.text "issuerAuth", .tag 18 (.array
        [.bytes protectedBytes, .map unprotected, .bytes payload, .bytes signature])) ]

def issueMdoc (crates : Crates) (host : Host) (signer : KeychainSigner) (profile : String)
    (holderJwk : Value) (now : UInt64) (pidClaims : Option PidSubjectClaims)
    (hybrid : Option HybridCredentialSigner) : Checked String := do
  let (docType, nameSpace, claims) ← okOr (mdocClaims crates profile pidClaims) .panic
  let (items, digests) ← mdocItems crates (host.salt .mdocItem) 0 claims
  let holderX ← decodeJwkCoordinate crates holderJwk "x"
  let holderY ← decodeJwkCoordinate crates holderJwk "y"
  let signedAt ← rfc3339 now
  let validUntil ← rfc3339 (saturatingAdd now 3600)
  let mso := mobileSecurityObject docType nameSpace digests (deviceKey holderX holderY) signedAt
    validUntil
  let msoBytes ← cborEncode crates mso
  let msoPayload ← cborEncode crates (.tag 24 (.bytes msoBytes))
  let protectedBytes ← cborEncode crates
    (.map [(cborInt 1, cborInt (-7)), (cborInt 4, .bytes (Text.asBytes (signer.kid crates)))])
  let tbs ← cborEncode crates (sigStructure protectedBytes msoPayload)
  let signature ← okOr (host.signEs256 signer tbs)
    (oauthError .internalServerError "server_error" "mdoc signing is unavailable")
  let label ← okOr (keyLabel profile) .panic
  let certificate ← okOr (host.developmentCertificateDer ("dev.advatar.vcissuer." ++ label))
    (oauthError .internalServerError "server_error" "mdoc issuer certificate is unavailable")
  let unprotected ← unprotectedHeader crates host certificate tbs hybrid
  let encoded ← cborEncode crates
    (issuerSigned nameSpace items protectedBytes unprotected msoPayload signature)
  return crates.urlSafeEncode encoded

/-- An mdoc that was signed in this step over a security object with the given device key. -/
def SignedMdoc (crates : Crates) (host : Host) (signer : KeychainSigner) (credential : String)
    (key : CborValue) : Prop :=
  ∃ docType nameSpace items digests signedAt validUntil msoBytes msoPayload protectedBytes tbs
      signature unprotected encoded,
    crates.cborToVec
      (mobileSecurityObject docType nameSpace digests key signedAt validUntil) = some msoBytes ∧
    crates.cborToVec (.tag 24 (.bytes msoBytes)) = some msoPayload ∧
    crates.cborToVec (sigStructure protectedBytes msoPayload) = some tbs ∧
    host.signEs256 signer tbs = some signature ∧
    crates.cborToVec
      (issuerSigned nameSpace items protectedBytes unprotected msoPayload signature) =
        some encoded ∧
    credential = crates.urlSafeEncode encoded

/-- The coordinates of a holder key as octets. -/
def HolderCoordinates (crates : Crates) (holderJwk : Value) (x y : Bytes) : Prop :=
  ∃ encodedX encodedY, (holderJwk.get "x").bind Value.asStr = some encodedX ∧
    (holderJwk.get "y").bind Value.asStr = some encodedY ∧
    crates.urlSafeDecode encodedX = some x ∧ crates.urlSafeDecode encodedY = some y ∧
    x.length = 32 ∧ y.length = 32

theorem EcJwk.Denotes.coordinates {crates : Crates} {jwk : EcJwk} {key : VerifyingKey}
    (denotes : jwk.Denotes crates key) : ∃ x y, HolderCoordinates crates jwk.toValue x y := by
  obtain ⟨x, y, readX, readY, lengthX, lengthY, _⟩ := denotes.point
  exact ⟨x, y, jwk.x, jwk.y, rfl, rfl, readX, readY, lengthX, lengthY⟩

theorem decodeJwkCoordinate_eq_ok (crates : Crates) (jwk : Value) (name : String)
    (decoded : Bytes) :
    decodeJwkCoordinate crates jwk name = .ok decoded ↔
      ∃ encoded, (jwk.get name).bind Value.asStr = some encoded ∧
        crates.urlSafeDecode encoded = some decoded ∧ decoded.length = 32 := by
  simp only [decodeJwkCoordinate, okOr_bind_eq_ok, rejectIf_bind_eq_ok, pure_eq_ok, not_not]
  constructor
  · rintro ⟨encoded, found, _, read, length, rfl⟩
    exact ⟨encoded, found, read, length⟩
  · rintro ⟨encoded, found, read, length⟩
    exact ⟨encoded, found, decoded, read, length, rfl⟩

/-! ## The hybrid wrapper -/

def encodeCanonicalCbor (crates : Crates) (value : CborValue) : Checked Bytes :=
  okOr (crates.cborToVec value)
    (oauthError .internalServerError "server_error"
      "experimental hybrid credential encoding failed")

def cborPair (key : Nat) (value : CborValue) : CborValue × CborValue :=
  (.integer key, value)

def hybridClaims : List (String × Value) :=
  [ ("credential_name", .string "Experimental hybrid credential"),
    ("assurance", .string "development-only-non-eudi"),
    ("issuing_country", .string "DE") ]

/-- The salted disclosures, one for each claim, from salt number `index` on. -/
def hybridDisclosures (crates : Crates) (salt : Nat → Bytes) :
    Nat → List (String × Value) → Checked (List Bytes)
  | _, [] => .ok []
  | index, (name, value) :: rest => do
      let encoded ← encodeCanonicalCbor crates (.array
        [ .text (crates.urlSafeEncode (salt index)), .text name,
          .bytes (crates.valueToVec value) ])
      let others ← hybridDisclosures crates salt (index + 1) rest
      return encoded :: others

def issueHybridCredential (crates : Crates) (host : Host) (signer : HybridCredentialSigner)
    (issuer : Url) (holderJwk : Value) (holderJkt nonce : String) (now : UInt64) :
    Checked Bytes := do
  let disclosures ← hybridDisclosures crates (host.salt .disclosure) 0 hybridClaims
  let payload ← encodeCanonicalCbor crates (.map
    [ cborPair 1 (.text issuer.origin),
      cborPair 2 (.integer now.toNat),
      cborPair 3 (.integer (saturatingAdd now 3600).toNat),
      cborPair 4 (.text "dev.advatar.hybrid-pq.credential.v1"),
      cborPair 5 (.bytes (crates.valueToVec holderJwk)),
      cborPair 6 (.array (disclosures.map fun encoded => .bytes (crates.sha256 encoded))),
      cborPair 7 (.bool true) ])
  let issuerIdentity := Text.asBytes issuer.origin
  let context : HybridContext :=
    { walletIdentity := Text.asBytes holderJkt
      issuerIdentity := some issuerIdentity
      keyGeneration := signer.generation
      transactionId := some (Text.asBytes nonce)
      sessionId := none
      audience := some issuerIdentity
      nonce := crates.sha256 (Text.asBytes nonce)
      createdAtEpochSeconds := now
      expiresAtEpochSeconds := saturatingAdd now 3600
      transcriptHash := none }
  let unsigned : UnsignedEnvelope :=
    { purpose := .testSdJwtWrapperV1
      context := context
      payload := payload
      disclosures := disclosures
      classicalKid := signer.classicalKid crates
      pqKid := signer.pqKid
      generation := signer.generation }
  (signer.signEnvelope crates host unsigned).mapError fun _ =>
    oauthError .internalServerError "server_error"
      "experimental hybrid credential signing is unavailable"

end VCIssuer.Service
