import VCIssuer.Service.Ports

/-!
# Proofs of possession

Compact JWS strings and the keys inside them: the DPoP proof of a request, the
OpenID4VCI credential proof, and the payload check that both kinds of evidence
share.  A verifier's acceptance is stated as a record of what it checked.
-/

namespace VCIssuer.Service

open VCIssuer.Library
open VCIssuer.Library.Checks

/-! ## JSON web keys -/

/-- The RFC 7638 thumbprint over the spelling of the coordinates that the key carries. -/
def EcJwk.thumbprint (crates : Crates) (jwk : EcJwk) : String :=
  crates.digest ("\x7b\"crv\":\"P-256\",\"kty\":\"EC\",\"x\":\"" ++ jwk.x ++ "\",\"y\":\"" ++
    jwk.y ++ "\"\x7d")

/-- The public members of a key, as they go into `cnf`. -/
def EcJwk.toValue (jwk : EcJwk) : Value :=
  .object [("kty", .string "EC"), ("crv", .string "P-256"), ("x", .string jwk.x),
    ("y", .string jwk.y)]

def EcJwk.ofValue (value : Value) : Option EcJwk := do
  let field ← value.struct ["kty", "crv", "x", "y"]
  let kty ← (← field "kty").asStr
  let crv ← (← field "crv").asStr
  let x ← (← field "x").asStr
  let y ← (← field "y").asStr
  return ⟨kty, crv, x, y⟩

def verifyingKeyAndJwk (crates : Crates) (jwk : EcJwk) (errorCode : String) :
    Checked (VerifyingKey × String × Value) := do
  rejectIf (jwk.kty ≠ "EC" ∨ jwk.crv ≠ "P-256")
    (oauthError .badRequest errorCode "JWK must be an EC P-256 public key")
  let x ← okOr (crates.urlSafeDecode jwk.x)
    (oauthError .badRequest errorCode "JWK x is malformed")
  let y ← okOr (crates.urlSafeDecode jwk.y)
    (oauthError .badRequest errorCode "JWK y is malformed")
  rejectIf (x.length ≠ 32 ∨ y.length ≠ 32)
    (oauthError .badRequest errorCode "P-256 coordinates must be 32 octets")
  let key ← okOr (crates.keyFromAffine x y)
    (oauthError .badRequest errorCode "JWK is not a valid P-256 point")
  return (key, jwk.thumbprint crates, jwk.toValue)

/-- The key that a JWK denotes, when both coordinates are well formed. -/
structure EcJwk.Denotes (crates : Crates) (jwk : EcJwk) (key : VerifyingKey) : Prop where
  kty : jwk.kty = "EC"
  crv : jwk.crv = "P-256"
  point : ∃ x y, crates.urlSafeDecode jwk.x = some x ∧ crates.urlSafeDecode jwk.y = some y ∧
    x.length = 32 ∧ y.length = 32 ∧ crates.keyFromAffine x y = some key

theorem verifyingKeyAndJwk_eq_ok (crates : Crates) (jwk : EcJwk) (errorCode : String)
    (key : VerifyingKey) (jkt : String) (value : Value) :
    verifyingKeyAndJwk crates jwk errorCode = .ok (key, jkt, value) ↔
      jwk.Denotes crates key ∧ jkt = jwk.thumbprint crates ∧ value = jwk.toValue := by
  simp only [verifyingKeyAndJwk, rejectIf_bind_eq_ok, okOr_bind_eq_ok, pure_eq_ok, not_or,
    not_not, Prod.mk.injEq]
  constructor
  · rintro ⟨⟨kty, crv⟩, x, decodedX, y, decodedY, ⟨lengthX, lengthY⟩, point, onCurve, rfl, rfl, rfl⟩
    exact ⟨⟨kty, crv, x, y, decodedX, decodedY, lengthX, lengthY, onCurve⟩, rfl, rfl⟩
  · rintro ⟨⟨kty, crv, x, y, decodedX, decodedY, lengthX, lengthY, onCurve⟩, rfl, rfl⟩
    exact ⟨⟨kty, crv⟩, x, decodedX, y, decodedY, ⟨lengthX, lengthY⟩, key, onCurve, rfl, rfl, rfl⟩

/-! ## JWS payloads -/

/-- The bytes that a compact JWS signature covers. -/
def signingInput (protectedPart payloadPart : String) : Bytes :=
  Text.asBytes (protectedPart ++ "." ++ payloadPart)

def verifyJwsPayload (crates : Crates) (compact : String) (key : VerifyingKey) (label : String) :
    Checked Value :=
  match Text.split '.' compact with
  | [part0, part1, part2] => do
      let signature ← okOr ((crates.urlSafeDecode part2).bind crates.signatureFromSlice)
        (oauthError .badRequest "invalid_proof" (label ++ " signature is malformed"))
      rejectIf (crates.verifyEs256 key (signingInput part0 part1) signature = false)
        (oauthError .badRequest "invalid_proof" (label ++ " signature is invalid"))
      let payload ← okOr (crates.urlSafeDecode part1)
        (oauthError .badRequest "invalid_proof" (label ++ " payload is malformed"))
      okOr (crates.valueFromSlice payload)
        (oauthError .badRequest "invalid_proof" (label ++ " payload is not JSON"))
  | _ => .error (oauthError .badRequest "invalid_proof" (label ++ " is not a compact JWS"))

/-- A three-part string whose signature verifies under a key over its first two parts. -/
def SignedCompact (crates : Crates) (compact : String) (key : VerifyingKey)
    (protectedPart payloadPart : String) : Prop :=
  ∃ part2 raw signature, Text.split '.' compact = [protectedPart, payloadPart, part2] ∧
    crates.urlSafeDecode part2 = some raw ∧ crates.signatureFromSlice raw = some signature ∧
    crates.verifyEs256 key (signingInput protectedPart payloadPart) signature = true

/-- A compact JWS by `key` whose payload is the JSON value `payload`. -/
def SignedValue (crates : Crates) (compact : String) (key : VerifyingKey) (payload : Value) :
    Prop :=
  ∃ part0 part1 bytes, SignedCompact crates compact key part0 part1 ∧
    crates.urlSafeDecode part1 = some bytes ∧ crates.valueFromSlice bytes = some payload

theorem verifyJwsPayload_eq_ok (crates : Crates) (compact : String) (key : VerifyingKey)
    (label : String) (payload : Value) :
    verifyJwsPayload crates compact key label = .ok payload ↔
      SignedValue crates compact key payload := by
  unfold verifyJwsPayload
  constructor
  · intro accepted
    split at accepted
    case h_1 part0 part1 part2 parts =>
      simp only [rejectIf_bind_eq_ok, okOr_bind_eq_ok, okOr_eq_ok, Option.bind_eq_some_iff,
        Bool.not_eq_false] at accepted
      obtain ⟨signature, ⟨raw, decoded, sliced⟩, verified, bytes, decodedPayload, parsed⟩ := accepted
      exact ⟨part0, part1, bytes, ⟨part2, raw, signature, parts, decoded, sliced, verified⟩,
        decodedPayload, parsed⟩
    case h_2 => cases accepted
  · rintro ⟨part0, part1, bytes, ⟨part2, raw, signature, parts, decoded, sliced, verified⟩,
      decodedPayload, parsed⟩
    rw [parts]
    simp only [rejectIf_bind_eq_ok, okOr_bind_eq_ok, okOr_eq_ok, Option.bind_eq_some_iff,
      Bool.not_eq_false]
    exact ⟨signature, ⟨raw, decoded, sliced⟩, verified, bytes, decodedPayload, parsed⟩

/-! ## DPoP -/

structure VerifiedDpop where
  jkt : String
  jti : String
  deriving DecidableEq

def dpopError (description : String) : Failure :=
  oauthError .badRequest "invalid_dpop_proof" description

def verifyDpop (crates : Crates) (proof expectedMethod : String) (expectedUri : Url)
    (clock : ClockReading) : Checked VerifiedDpop :=
  match Text.split '.' proof with
  | [part0, part1, part2] => do
      let decoded ← okOr (crates.urlSafeDecode part0) (dpopError "malformed protected header")
      let header ← okOr (crates.dpopHeaderFromSlice decoded)
        (dpopError "protected header is not JSON")
      rejectIf (header.alg ≠ "ES256" ∨ header.typ ≠ "dpop+jwt")
        (dpopError "DPoP protected header must use typ=dpop+jwt and alg=ES256")
      rejectIf (header.jwk.kty ≠ "EC" ∨ header.jwk.crv ≠ "P-256")
        (dpopError "DPoP jwk must be an EC P-256 public key")
      let x ← okOr (crates.urlSafeDecode header.jwk.x)
        (dpopError "DPoP jwk x coordinate is malformed")
      let y ← okOr (crates.urlSafeDecode header.jwk.y)
        (dpopError "DPoP jwk y coordinate is malformed")
      rejectIf (x.length ≠ 32 ∨ y.length ≠ 32)
        (dpopError "DPoP P-256 coordinates must be 32 octets")
      let verifyingKey ← okOr (crates.keyFromAffine x y)
        (dpopError "DPoP jwk is not a valid P-256 point")
      let signatureBytes ← okOr (crates.urlSafeDecode part2)
        (dpopError "DPoP signature is malformed")
      let signature ← okOr (crates.signatureFromSlice signatureBytes)
        (dpopError "DPoP signature must be an ES256 signature")
      rejectIf (crates.verifyEs256 verifyingKey (signingInput part0 part1) signature = false)
        (dpopError "DPoP signature verification failed")
      let claimsBytes ← okOr (crates.urlSafeDecode part1) (dpopError "DPoP claims are malformed")
      let claims ← okOr (crates.dpopClaimsFromSlice claimsBytes)
        (dpopError "DPoP claims are not valid JSON")
      let expectedHtu := Text.trimEndMatches '/' expectedUri.asStr
      rejectIf (claims.htm ≠ expectedMethod ∨ Text.trimEndMatches '/' claims.htu ≠ expectedHtu)
        (dpopError "DPoP htm or htu does not match this request")
      rejectIf (claims.jti = "" ∨ 256 < Text.len claims.jti)
        (dpopError "DPoP jti is missing or too long")
      let now ← unixTime clock
      rejectIf (saturatingAdd now 5 < claims.iat ∨ 60 < saturatingSub now claims.iat)
        (dpopError "DPoP iat is outside the accepted freshness window")
      return { jkt := header.jwk.thumbprint crates, jti := claims.jti }
  | _ => .error (dpopError "DPoP proof must be a three-part compact JWS")

/-- A DPoP proof with everything that its acceptance rests on. -/
structure DpopProof (crates : Crates) (proof method : String) (uri : Url)
    (clock : ClockReading) where
  part0 : String
  part1 : String
  header : DpopHeader
  claims : DpopClaims
  key : VerifyingKey
  now : UInt64
  signed : SignedCompact crates proof key part0 part1
  headerRead : (crates.urlSafeDecode part0).bind crates.dpopHeaderFromSlice = some header
  alg : header.alg = "ES256"
  typ : header.typ = "dpop+jwt"
  denotes : header.jwk.Denotes crates key
  claimsRead : (crates.urlSafeDecode part1).bind crates.dpopClaimsFromSlice = some claims
  htm : claims.htm = method
  htu : Text.trimEndMatches '/' claims.htu = Text.trimEndMatches '/' uri.asStr
  jtiPresent : claims.jti ≠ ""
  jtiBounded : Text.len claims.jti ≤ 256
  clocked : clock = some now
  notAhead : claims.iat ≤ saturatingAdd now 5
  notStale : saturatingSub now claims.iat ≤ 60

def DpopProof.verified {crates : Crates} {proof method : String} {uri : Url}
    {clock : ClockReading} (accepted : DpopProof crates proof method uri clock) : VerifiedDpop :=
  ⟨accepted.header.jwk.thumbprint crates, accepted.claims.jti⟩

theorem unixTime_eq_ok (clock : ClockReading) (now : UInt64) :
    unixTime clock = .ok now ↔ clock = some now :=
  okOr_eq_ok _ _ _

theorem unixTime_error {clock : ClockReading} {failure : Failure}
    (unread : unixTime clock = .error failure) : clock = none := by
  cases clock with
  | none => rfl
  | some now => cases unread

theorem verifyDpop_eq_ok (crates : Crates) (proof method : String) (uri : Url)
    (clock : ClockReading) (verified : VerifiedDpop) :
    verifyDpop crates proof method uri clock = .ok verified ↔
      ∃ accepted : DpopProof crates proof method uri clock, verified = accepted.verified := by
  unfold verifyDpop
  constructor
  · intro accepted
    split at accepted
    case h_1 part0 part1 part2 parts =>
      simp only [rejectIf_bind_eq_ok, okOr_bind_eq_ok, bind_eq_ok (unixTime clock),
        unixTime_eq_ok, pure_eq_ok, Bool.not_eq_false, not_or, not_not, UInt64.not_lt,
        Nat.not_lt] at accepted
      obtain ⟨headerBytes, decoded, header, parsed, ⟨alg, typ⟩, ⟨kty, crv⟩, x, decodedX, y, decodedY,
        ⟨lengthX, lengthY⟩, key, onCurve, raw, decodedRaw, signature, sliced, signed, claimsBytes,
        decodedClaims, claims, parsedClaims, ⟨htm, htu⟩, ⟨jti, jtiLength⟩, now, clocked,
        ⟨notAhead, notStale⟩, rfl⟩ := accepted
      exact ⟨{
        part0, part1, header, claims, key, now, alg, typ, htm, htu, clocked, notAhead, notStale
        signed := ⟨part2, raw, signature, parts, decodedRaw, sliced, signed⟩
        headerRead := Option.bind_eq_some_iff.mpr ⟨headerBytes, decoded, parsed⟩
        denotes := ⟨kty, crv, x, y, decodedX, decodedY, lengthX, lengthY, onCurve⟩
        claimsRead := Option.bind_eq_some_iff.mpr ⟨claimsBytes, decodedClaims, parsedClaims⟩
        jtiPresent := jti
        jtiBounded := jtiLength }, rfl⟩
    case h_2 => cases accepted
  · rintro ⟨accepted, rfl⟩
    obtain ⟨part2, raw, signature, parts, decodedRaw, sliced, signed⟩ := accepted.signed
    obtain ⟨headerBytes, decoded, parsed⟩ := Option.bind_eq_some_iff.mp accepted.headerRead
    obtain ⟨claimsBytes, decodedClaims, parsedClaims⟩ :=
      Option.bind_eq_some_iff.mp accepted.claimsRead
    obtain ⟨kty, crv, x, y, decodedX, decodedY, lengthX, lengthY, onCurve⟩ := accepted.denotes
    rw [parts]
    simp only [rejectIf_bind_eq_ok, okOr_bind_eq_ok, bind_eq_ok (unixTime clock),
      unixTime_eq_ok, pure_eq_ok, Bool.not_eq_false, not_or, not_not, UInt64.not_lt, Nat.not_lt]
    exact ⟨headerBytes, decoded, accepted.header, parsed, ⟨accepted.alg, accepted.typ⟩, ⟨kty, crv⟩,
      x, decodedX, y, decodedY, ⟨lengthX, lengthY⟩, accepted.key, onCurve, raw, decodedRaw,
      signature, sliced, signed, claimsBytes, decodedClaims, accepted.claims, parsedClaims,
      ⟨accepted.htm, accepted.htu⟩, ⟨accepted.jtiPresent, accepted.jtiBounded⟩, accepted.now,
      accepted.clocked, ⟨accepted.notAhead, accepted.notStale⟩, rfl⟩

/-! ## The credential proof -/

structure VerifiedCredentialProof where
  holderJkt : String
  holderJwk : Value
  nonce : String

def proofError (description : String) : Failure :=
  oauthError .badRequest "invalid_proof" description

def verifyCredentialProof (crates : Crates) (proof : String) (issuer : Url)
    (clock : ClockReading) : Checked VerifiedCredentialProof :=
  match Text.split '.' proof with
  | [part0, part1, part2] => do
      let headerBytes ← okOr (crates.urlSafeDecode part0)
        (proofError "credential proof header is malformed")
      let header ← okOr (crates.dpopHeaderFromSlice headerBytes)
        (proofError "credential proof header is not valid JSON")
      rejectIf (header.alg ≠ "ES256" ∨ header.typ ≠ "openid4vci-proof+jwt")
        (proofError "credential proof must use typ=openid4vci-proof+jwt and alg=ES256")
      let (verifyingKey, jkt, jwk) ← verifyingKeyAndJwk crates header.jwk "invalid_proof"
      let signatureBytes ← okOr (crates.urlSafeDecode part2)
        (proofError "credential proof signature is malformed")
      let signature ← okOr (crates.signatureFromSlice signatureBytes)
        (proofError "credential proof signature must be ES256")
      rejectIf (crates.verifyEs256 verifyingKey (signingInput part0 part1) signature = false)
        (proofError "credential proof signature verification failed")
      let claimsBytes ← okOr (crates.urlSafeDecode part1)
        (proofError "credential proof claims are malformed")
      let claims ← okOr (crates.credentialProofClaimsFromSlice claimsBytes)
        (proofError "credential proof claims are not valid JSON")
      rejectIf (Text.trimEndMatches '/' claims.aud ≠ Text.trimEndMatches '/' issuer.asStr)
        (proofError "credential proof audience does not match the issuer")
      let now ← unixTime clock
      rejectIf (saturatingAdd now 5 < claims.iat ∨ 300 < saturatingSub now claims.iat)
        (proofError "credential proof iat is outside the accepted freshness window")
      rejectIf (claims.nonce = "" ∨ 256 < Text.len claims.nonce)
        (proofError "credential proof nonce is missing or too long")
      return { holderJkt := jkt, holderJwk := jwk, nonce := claims.nonce }
  | _ => .error (proofError "credential proof must be a three-part compact JWS")

/-- A credential proof with everything that its acceptance rests on. -/
structure HolderProof (crates : Crates) (proof : String) (issuer : Url)
    (clock : ClockReading) where
  part0 : String
  part1 : String
  header : DpopHeader
  claims : CredentialProofClaims
  key : VerifyingKey
  now : UInt64
  signed : SignedCompact crates proof key part0 part1
  headerRead : (crates.urlSafeDecode part0).bind crates.dpopHeaderFromSlice = some header
  alg : header.alg = "ES256"
  typ : header.typ = "openid4vci-proof+jwt"
  denotes : header.jwk.Denotes crates key
  claimsRead :
    (crates.urlSafeDecode part1).bind crates.credentialProofClaimsFromSlice = some claims
  aud : Text.trimEndMatches '/' claims.aud = Text.trimEndMatches '/' issuer.asStr
  clocked : clock = some now
  notAhead : claims.iat ≤ saturatingAdd now 5
  notStale : saturatingSub now claims.iat ≤ 300
  noncePresent : claims.nonce ≠ ""
  nonceBounded : Text.len claims.nonce ≤ 256

def HolderProof.verified {crates : Crates} {proof : String} {issuer : Url}
    {clock : ClockReading} (accepted : HolderProof crates proof issuer clock) :
    VerifiedCredentialProof where
  holderJkt := accepted.header.jwk.thumbprint crates
  holderJwk := accepted.header.jwk.toValue
  nonce := accepted.claims.nonce

theorem verifyCredentialProof_eq_ok (crates : Crates) (proof : String) (issuer : Url)
    (clock : ClockReading) (verified : VerifiedCredentialProof) :
    verifyCredentialProof crates proof issuer clock = .ok verified ↔
      ∃ accepted : HolderProof crates proof issuer clock, verified = accepted.verified := by
  unfold verifyCredentialProof
  constructor
  · intro accepted
    split at accepted
    case h_1 part0 part1 part2 parts =>
      simp only [rejectIf_bind_eq_ok, okOr_bind_eq_ok, bind_eq_ok (unixTime clock),
        bind_eq_ok (verifyingKeyAndJwk _ _ _), Prod.exists, verifyingKeyAndJwk_eq_ok,
        unixTime_eq_ok, pure_eq_ok, Bool.not_eq_false, not_or, not_not, UInt64.not_lt,
        Nat.not_lt] at accepted
      obtain ⟨headerBytes, decoded, header, parsed, ⟨alg, typ⟩, key, jkt, jwk, ⟨denotes, rfl, rfl⟩,
        raw, decodedRaw, signature, sliced, signed, claimsBytes, decodedClaims, claims,
        parsedClaims, aud, now, clocked, ⟨notAhead, notStale⟩, ⟨nonce, nonceLength⟩, rfl⟩ := accepted
      exact ⟨{
        part0, part1, header, claims, key, now, alg, typ, denotes, aud, clocked, notAhead, notStale
        signed := ⟨part2, raw, signature, parts, decodedRaw, sliced, signed⟩
        headerRead := Option.bind_eq_some_iff.mpr ⟨headerBytes, decoded, parsed⟩
        claimsRead := Option.bind_eq_some_iff.mpr ⟨claimsBytes, decodedClaims, parsedClaims⟩
        noncePresent := nonce
        nonceBounded := nonceLength }, rfl⟩
    case h_2 => cases accepted
  · rintro ⟨accepted, rfl⟩
    obtain ⟨part2, raw, signature, parts, decodedRaw, sliced, signed⟩ := accepted.signed
    obtain ⟨headerBytes, decoded, parsed⟩ := Option.bind_eq_some_iff.mp accepted.headerRead
    obtain ⟨claimsBytes, decodedClaims, parsedClaims⟩ :=
      Option.bind_eq_some_iff.mp accepted.claimsRead
    rw [parts]
    simp only [rejectIf_bind_eq_ok, okOr_bind_eq_ok, bind_eq_ok (unixTime clock),
      bind_eq_ok (verifyingKeyAndJwk _ _ _), Prod.exists, verifyingKeyAndJwk_eq_ok,
      unixTime_eq_ok, pure_eq_ok, Bool.not_eq_false, not_or, not_not, UInt64.not_lt, Nat.not_lt]
    exact ⟨headerBytes, decoded, accepted.header, parsed, ⟨accepted.alg, accepted.typ⟩,
      accepted.key, _, _, ⟨accepted.denotes, rfl, rfl⟩, raw, decodedRaw, signature, sliced, signed,
      claimsBytes, decodedClaims, accepted.claims, parsedClaims, accepted.aud, accepted.now,
      accepted.clocked, ⟨accepted.notAhead, accepted.notStale⟩,
      ⟨accepted.noncePresent, accepted.nonceBounded⟩, rfl⟩

end VCIssuer.Service
