import VCIssuer.Service.PidBinding

/-!
# eMRTD evidence

A trusted reader signs what it read from a travel document and how the holder's
liveness capture went.  The verifier here decides that such an attestation is
authentic, fresh and bound to one session and one key; the verdicts inside it
are passed on to the kernel.
-/

namespace VCIssuer.Service

open VCIssuer.Library
open VCIssuer.Library.Checks
open VCIssuer.Kernel (SubjectId)

def emrtdRequiredLiveness : String := "iproov:gpa"

def maxEmrtdEvidenceBytes : Nat := 256 * 1024

/-! ## Calendar dates -/

/-- A civil date as year, month and day. -/
structure CivilDate where
  year : Int
  month : Nat
  day : Nat
  deriving DecidableEq

namespace CivilDate

/-- The lexicographic order of year, month and day. -/
def before (a b : CivilDate) : Prop :=
  a.year < b.year ∨ (a.year = b.year ∧ (a.month < b.month ∨ (a.month = b.month ∧ a.day < b.day)))

instance (a b : CivilDate) : Decidable (a.before b) := by
  unfold before; infer_instance

end CivilDate

/-- The proleptic Gregorian date of a day counted from 1 January 1970. -/
def civilFromDays (days : Nat) : CivilDate :=
  -- Years start in March here, so that the leap day is the last one.
  let z := days + 719468
  let era := z / 146097
  let doe := z % 146097
  let yoe := (doe - doe / 1460 + doe / 36524 - doe / 146096) / 365
  let doy := doe - (365 * yoe + yoe / 4 - yoe / 100)
  let mp := (5 * doy + 2) / 153
  let month := if mp < 10 then mp + 3 else mp - 9
  { year := (yoe + era * 400 + if month ≤ 2 then 1 else 0 : Nat)
    month := month
    day := doy - (153 * mp + 2) / 5 + 1 }

/-- The last second of the year 9999. -/
def maxTimestamp : Nat := 253402300799

/-- The UTC date of a Unix time, where `OffsetDateTime` can represent it. -/
def civilDate (now : UInt64) : Option CivilDate :=
  if now.toNat ≤ maxTimestamp then some (civilFromDays (now.toNat / 86400)) else none

def parseCivilDate (iso : String) : Option CivilDate := do
  let parts := Text.split '-' iso
  let year ← Text.parseI32 (parts[0]?.getD "")
  let month ← Text.parseU8 (parts[1]?.getD "")
  let day ← Text.parseU8 (parts[2]?.getD "")
  return ⟨year, month, day⟩

/-- An `i32` after an addition that may wrap around. -/
def wrapI32 (value : Int) : Int :=
  (value + 2147483648) % 4294967296 - 2147483648

def ageOver18 (birthdateIso : String) (now : UInt64) : Bool :=
  match parseCivilDate birthdateIso, civilDate now with
  | some birth, some today =>
      decide (¬ today.before { birth with year := wrapI32 (birth.year + 18) })
  | _, _ => false

def isExpiredDocument (expiryIso : String) (now : UInt64) : Bool :=
  match parseCivilDate expiryIso, civilDate now with
  | some expiry, some today => decide (expiry.before today)
  | _, _ => true

theorem isExpiredDocument_eq_false_iff (expiryIso : String) (now : UInt64) :
    isExpiredDocument expiryIso now = false ↔
      ∃ expiry today, parseCivilDate expiryIso = some expiry ∧ civilDate now = some today ∧
        ¬ expiry.before today := by
  unfold isExpiredDocument
  cases parseCivilDate expiryIso with
  | none => simp
  | some expiry => cases civilDate now <;> simp

/-! ## Claims -/

structure EmrtdEvidenceObject where
  attestation : String
  deriving DecidableEq

structure EmrtdLivenessClaim where
  assurance : String
  matchedPortrait : Bool
  deriving DecidableEq

structure EmrtdMrzClaim where
  familyName : String
  givenName : String
  birthdate : String
  nationality : String
  issuingCountry : String
  documentNumber : String
  dateOfExpiry : String
  deriving DecidableEq

structure EmrtdEvidenceClaims where
  aud : String
  iat : UInt64
  exp : UInt64
  nonce : String
  jti : String
  newHolderJkt : String
  passiveAuthentication : Bool
  chipAuthentic : Bool
  liveness : EmrtdLivenessClaim
  mrz : EmrtdMrzClaim
  portrait : Option String
  deriving DecidableEq

def EmrtdLivenessClaim.ofValue (value : Value) : Option EmrtdLivenessClaim := do
  let field ← value.struct ["assurance", "matched_portrait"]
  let assurance ← (← field "assurance").asStr
  let matchedPortrait ← (← field "matched_portrait").asBool
  return ⟨assurance, matchedPortrait⟩

def EmrtdMrzClaim.ofValue (value : Value) : Option EmrtdMrzClaim := do
  let field ← value.struct ["family_name", "given_name", "birthdate", "nationality",
    "issuing_country", "document_number", "date_of_expiry"]
  let familyName ← (← field "family_name").asStr
  let givenName ← (← field "given_name").asStr
  let birthdate ← (← field "birthdate").asStr
  let nationality ← (← field "nationality").asStr
  let issuingCountry ← (← field "issuing_country").asStr
  let documentNumber ← (← field "document_number").asStr
  let dateOfExpiry ← (← field "date_of_expiry").asStr
  return ⟨familyName, givenName, birthdate, nationality, issuingCountry, documentNumber,
    dateOfExpiry⟩

def EmrtdEvidenceClaims.ofValue (value : Value) : Option EmrtdEvidenceClaims := do
  let field ← value.struct ["aud", "iat", "exp", "nonce", "jti", "new_holder_jkt",
    "passive_authentication", "chip_authentic", "liveness", "mrz", "portrait"]
  let aud ← (← field "aud").asStr
  let iat ← (← field "iat").asU64
  let exp ← (← field "exp").asU64
  let nonce ← (← field "nonce").asStr
  let jti ← (← field "jti").asStr
  let newHolderJkt ← (← field "new_holder_jkt").asStr
  let passiveAuthentication ← (← field "passive_authentication").asBool
  let chipAuthentic ← (← field "chip_authentic").asBool
  let liveness ← EmrtdLivenessClaim.ofValue (← field "liveness")
  let mrz ← EmrtdMrzClaim.ofValue (← field "mrz")
  let portrait ← optionalString (field "portrait")
  return ⟨aud, iat, exp, nonce, jti, newHolderJkt, passiveAuthentication, chipAuthentic, liveness,
    mrz, portrait⟩

/-- The claims of the PID to mint. -/
structure PidSubjectClaims where
  familyName : String
  givenName : String
  birthdate : String
  nationality : String
  issuingCountry : String
  ageOver18 : Bool
  portrait : Option String
  deriving DecidableEq

structure VerifiedChipLiveness where
  subject : SubjectId
  jti : String
  sodPassiveAuth : Bool
  chipAuthentic : Bool
  livenessMatched : Bool
  claims : PidSubjectClaims
  deriving DecidableEq

/-! ## The verifier -/

/-- The machine-readable-zone fields that must be present and bounded. -/
def EmrtdMrzClaim.required (mrz : EmrtdMrzClaim) : List String :=
  [mrz.familyName, mrz.givenName, mrz.birthdate, mrz.nationality, mrz.issuingCountry,
    mrz.documentNumber]

def emrtdSubject (crates : Crates) (mrz : EmrtdMrzClaim) : SubjectId :=
  ⟨hashU128 crates ("emrtd:" ++ mrz.issuingCountry ++ ":" ++ mrz.documentNumber)⟩

/-- A blank portrait counts as none. -/
def normalizePortrait (portrait : Option String) : Option String :=
  portrait.filter fun text => Text.trim text ≠ ""

def EmrtdEvidenceClaims.verified (claims : EmrtdEvidenceClaims) (crates : Crates)
    (now : UInt64) : VerifiedChipLiveness where
  subject := emrtdSubject crates claims.mrz
  jti := claims.jti
  sodPassiveAuth := claims.passiveAuthentication
  chipAuthentic := claims.chipAuthentic
  livenessMatched := claims.liveness.matchedPortrait
  claims :=
    { familyName := claims.mrz.familyName
      givenName := claims.mrz.givenName
      birthdate := claims.mrz.birthdate
      nationality := claims.mrz.nationality
      issuingCountry := claims.mrz.issuingCountry
      ageOver18 := ageOver18 claims.mrz.birthdate now
      portrait := normalizePortrait claims.portrait }

def verifyEmrtdEvidence (crates : Crates) (evidence : EmrtdEvidenceObject)
    (trustedReaderKey : Bytes) (issuer : Url) (expectedNonce expectedNewHolderJkt : String)
    (now : UInt64) : Checked VerifiedChipLiveness := do
  rejectIf (maxEmrtdEvidenceBytes < Text.len evidence.attestation)
    (proofError "`eMRTD` evidence attestation exceeds the accepted size")
  let key ← okOr (crates.keyFromSec1 trustedReaderKey)
    (oauthError .internalServerError "server_error" "configured `eMRTD` reader key is malformed")
  let payload ← verifyJwsPayload crates evidence.attestation key "`eMRTD` evidence"
  let claims ← okOr (EmrtdEvidenceClaims.ofValue payload)
    (proofError "`eMRTD` evidence attestation is missing required claims")
  rejectIf
    (Text.trimEndMatches '/' claims.aud ≠ Text.trimEndMatches '/' issuer.asStr ∨
      now < claims.iat ∨ claims.exp ≤ now)
    (proofError "`eMRTD` evidence audience or validity interval is not accepted")
  rejectIf (claims.nonce ≠ expectedNonce ∨ claims.newHolderJkt ≠ expectedNewHolderJkt)
    (proofError "`eMRTD` evidence is not bound to this session and holder key")
  rejectIf (Text.contains claims.liveness.assurance emrtdRequiredLiveness = false)
    (proofError "`eMRTD` evidence lacks the required genuine-presence liveness assurance")
  rejectIf (isExpiredDocument claims.mrz.dateOfExpiry now = true)
    (proofError "the read travel document is expired")
  rejectIf (∃ value ∈ claims.mrz.required, Text.trim value = "" ∨ 512 < Text.len value)
    (proofError "`eMRTD` evidence identity claim is missing or oversized")
  rejectIf (∃ portrait ∈ claims.portrait, maxEmrtdEvidenceBytes < Text.len portrait)
    (proofError "`eMRTD` portrait exceeds the accepted size")
  return claims.verified crates now

/-- An attestation with everything that its acceptance rests on. -/
structure EmrtdAttestation (crates : Crates) (evidence : EmrtdEvidenceObject)
    (trustedReaderKey : Bytes) (issuer : Url) (nonce holderJkt : String) (now : UInt64) where
  readerKey : VerifyingKey
  payload : Value
  claims : EmrtdEvidenceClaims
  bounded : Text.len evidence.attestation ≤ maxEmrtdEvidenceBytes
  readerKeyRead : crates.keyFromSec1 trustedReaderKey = some readerKey
  signed : SignedValue crates evidence.attestation readerKey payload
  claimsRead : EmrtdEvidenceClaims.ofValue payload = some claims
  aud : Text.trimEndMatches '/' claims.aud = Text.trimEndMatches '/' issuer.asStr
  issuedBefore : claims.iat ≤ now
  expiresAfter : now < claims.exp
  nonceNamed : claims.nonce = nonce
  newHolderNamed : claims.newHolderJkt = holderJkt
  assurance : Text.contains claims.liveness.assurance emrtdRequiredLiveness = true
  unexpired : isExpiredDocument claims.mrz.dateOfExpiry now = false
  identity : ∀ value ∈ claims.mrz.required, Text.trim value ≠ "" ∧ Text.len value ≤ 512
  portraitBounded : ∀ portrait ∈ claims.portrait, Text.len portrait ≤ maxEmrtdEvidenceBytes

theorem verifyEmrtdEvidence_eq_ok (crates : Crates) (evidence : EmrtdEvidenceObject)
    (readerKey : Bytes) (issuer : Url) (nonce holderJkt : String) (now : UInt64)
    (verified : VerifiedChipLiveness) :
    verifyEmrtdEvidence crates evidence readerKey issuer nonce holderJkt now = .ok verified ↔
      ∃ accepted : EmrtdAttestation crates evidence readerKey issuer nonce holderJkt now,
        verified = accepted.claims.verified crates now := by
  simp only [verifyEmrtdEvidence, rejectIf_bind_eq_ok, okOr_bind_eq_ok,
    bind_eq_ok (verifyJwsPayload _ _ _ _), verifyJwsPayload_eq_ok, pure_eq_ok]
  simp only [not_or, not_not, not_exists, not_and, Bool.not_eq_false, Bool.not_eq_true,
    UInt64.not_lt, UInt64.not_le, Nat.not_lt]
  constructor
  · rintro ⟨bounded, key, readerKeyRead, payload, signed, claims, claimsRead,
      ⟨aud, issuedBefore, expiresAfter⟩, ⟨nonceNamed, newHolderNamed⟩, assurance, unexpired,
      identity, portraitBounded, rfl⟩
    exact ⟨{
      payload, claims, bounded, readerKeyRead, signed, claimsRead, aud, issuedBefore, expiresAfter,
      nonceNamed, newHolderNamed, assurance, unexpired, identity, portraitBounded
      readerKey := key }, rfl⟩
  · rintro ⟨accepted, rfl⟩
    exact ⟨accepted.bounded, accepted.readerKey, accepted.readerKeyRead, accepted.payload,
      accepted.signed, accepted.claims, accepted.claimsRead,
      ⟨accepted.aud, accepted.issuedBefore, accepted.expiresAfter⟩,
      ⟨accepted.nonceNamed, accepted.newHolderNamed⟩, accepted.assurance, accepted.unexpired,
      accepted.identity, accepted.portraitBounded, rfl⟩

end VCIssuer.Service
