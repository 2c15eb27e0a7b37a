import VCIssuer.Library.Wire
import VCIssuer.Service.Proofs

/-!
# PID bindings

A wallet binds a new key to a PID it holds: it presents the PID with some
disclosures and a proof, signed by the PID's own key, that names the new key.
The verifier also checks the disclosed identity against the authoritative
record and derives the subject from it.
-/

namespace VCIssuer.Service

open VCIssuer.Library
open VCIssuer.Library.Checks
open VCIssuer.Kernel (SubjectId)

def pidVct : String := "eu.europa.ec.eudi.pid.1"

def hashU128 (crates : Crates) (value : String) : BitVec 128 :=
  BitVec.ofNat 128 (fromBeBytes ((crates.sha256 (Text.asBytes value)).take 16))

structure PidBindingObject where
  pidVp : String
  proofJwt : String
  deriving DecidableEq

/-- The part of the presentation before the first tilde. -/
def PidBindingObject.issuerJwt (self : PidBindingObject) : String :=
  (Text.split '~' self.pidVp).headD ""

/-- The non-empty parts of the presentation after the first tilde. -/
def PidBindingObject.tail (self : PidBindingObject) : List String :=
  (Text.split '~' self.pidVp).tail.filter (· ≠ "")

structure BindingProofClaims where
  aud : String
  iat : UInt64
  nonce : String
  jti : String
  pidSdHash : String
  newHolderJkt : String
  deriving DecidableEq

def BindingProofClaims.ofValue (value : Value) : Option BindingProofClaims := do
  let field ← value.struct ["aud", "iat", "nonce", "jti", "pid_sd_hash", "new_holder_jkt"]
  let aud ← (← field "aud").asStr
  let iat ← (← field "iat").asU64
  let nonce ← (← field "nonce").asStr
  let jti ← (← field "jti").asStr
  let pidSdHash ← (← field "pid_sd_hash").asStr
  let newHolderJkt ← (← field "new_holder_jkt").asStr
  return ⟨aud, iat, nonce, jti, pidSdHash, newHolderJkt⟩

structure VerifiedPidBinding where
  subject : SubjectId
  jti : String
  deriving DecidableEq

/-! ## Disclosures -/

/-- The identity members that the disclosures read so far have set. -/
structure DisclosedIdentity where
  familyName : Option String
  givenName : Option String
  birthdate : Option String
  deriving DecidableEq

def DisclosedIdentity.empty : DisclosedIdentity := ⟨none, none, none⟩

/-- A decoded disclosure sets the member it names, if it has one of the three names. -/
def DisclosedIdentity.update (self : DisclosedIdentity) (values : List Value) :
    DisclosedIdentity :=
  match values with
  | [_, name, value] =>
      match name.asStr with
      | some "family_name" => { self with familyName := value.asStr }
      | some "given_name" => { self with givenName := value.asStr }
      | some "birthdate" => { self with birthdate := value.asStr }
      | _ => self
  | _ => self

def readDisclosure (crates : Crates) (allowedDisclosures : List String)
    (identity : DisclosedIdentity) (encoded : String) : Checked DisclosedIdentity := do
  rejectIf (crates.digest encoded ∉ allowedDisclosures)
    (proofError "PID disclosure is not committed by the issuer")
  let decoded ← okOr (crates.urlSafeDecode encoded) (proofError "PID disclosure is malformed")
  let disclosure ← okOr (crates.valueFromSlice decoded) (proofError "PID disclosure is not JSON")
  let values ← okOr disclosure.asArray (proofError "PID disclosure is not an array")
  return identity.update values

def readDisclosures (crates : Crates) (allowedDisclosures : List String) :
    DisclosedIdentity → List String → Checked DisclosedIdentity
  | identity, [] => .ok identity
  | identity, encoded :: rest => do
      let next ← readDisclosure crates allowedDisclosures identity encoded
      readDisclosures crates allowedDisclosures next rest

/-- A disclosure string carries the value `value` for the member `name`. -/
def Discloses (crates : Crates) (encoded name value : String) : Prop :=
  ∃ bytes salt, crates.urlSafeDecode encoded = some bytes ∧
    crates.valueFromSlice bytes = some (.array [salt, .string name, .string value])

/-- Each member that is set was disclosed by one of the presented strings. -/
structure DisclosedIdentity.From (crates : Crates) (presented : List String)
    (identity : DisclosedIdentity) : Prop where
  familyName : ∀ v, identity.familyName = some v →
    ∃ encoded ∈ presented, Discloses crates encoded "family_name" v
  givenName : ∀ v, identity.givenName = some v →
    ∃ encoded ∈ presented, Discloses crates encoded "given_name" v
  birthdate : ∀ v, identity.birthdate = some v →
    ∃ encoded ∈ presented, Discloses crates encoded "birthdate" v

theorem DisclosedIdentity.empty_from (crates : Crates) (presented : List String) :
    DisclosedIdentity.empty.From crates presented := by
  constructor <;> · intro v set; cases set

theorem Value.asStr_eq_some {value : Value} {text : String} (read : value.asStr = some text) :
    value = .string text := by
  cases value with
  | string other => cases read; rfl
  | _ => cases read

theorem Value.asArray_eq_some {value : Value} {items : List Value}
    (read : value.asArray = some items) : value = .array items := by
  cases value with
  | array others => cases read; rfl
  | _ => cases read

theorem DisclosedIdentity.update_from {crates : Crates} {presented : List String}
    {identity : DisclosedIdentity} {encoded : String} {bytes : Bytes} {values : List Value}
    (held : identity.From crates presented) (member : encoded ∈ presented)
    (decoded : crates.urlSafeDecode encoded = some bytes)
    (parsed : crates.valueFromSlice bytes = some (.array values)) :
    (identity.update values).From crates presented := by
  unfold DisclosedIdentity.update
  split
  case h_1 salt name value =>
    have shown : ∀ {text v : String}, name.asStr = some text → value.asStr = some v →
        ∃ encoded ∈ presented, Discloses crates encoded text v := by
      intro text v isName isValue
      rw [Value.asStr_eq_some isName, Value.asStr_eq_some isValue] at parsed
      exact ⟨encoded, member, bytes, salt, decoded, parsed⟩
    split
    case h_1 isName => exact { held with familyName := fun v set => shown isName set }
    case h_2 isName => exact { held with givenName := fun v set => shown isName set }
    case h_3 isName => exact { held with birthdate := fun v set => shown isName set }
    case h_4 => exact held
  case h_2 => exact held

theorem readDisclosure_eq_ok (crates : Crates) (allowed : List String)
    (identity : DisclosedIdentity) (encoded : String) (next : DisclosedIdentity) :
    readDisclosure crates allowed identity encoded = .ok next ↔
      crates.digest encoded ∈ allowed ∧ ∃ bytes values,
        crates.urlSafeDecode encoded = some bytes ∧
        crates.valueFromSlice bytes = some (.array values) ∧ identity.update values = next := by
  simp only [readDisclosure, rejectIf_bind_eq_ok, okOr_bind_eq_ok, pure_eq_ok, not_not]
  constructor
  · rintro ⟨allowed, bytes, decoded, disclosure, parsed, values, isArray, same⟩
    rw [Value.asArray_eq_some isArray] at parsed
    exact ⟨allowed, bytes, values, decoded, parsed, same⟩
  · rintro ⟨allowed, bytes, values, decoded, parsed, same⟩
    exact ⟨allowed, bytes, decoded, _, parsed, values, rfl, same⟩

/-- Every string read is committed by the issuer, and what it set was disclosed. -/
theorem readDisclosures_sound {crates : Crates} {allowed presented : List String}
    {identity last : DisclosedIdentity} {encoded : List String}
    (read : readDisclosures crates allowed identity encoded = .ok last)
    (subset : encoded ⊆ presented) (held : identity.From crates presented) :
    (∀ e ∈ encoded, crates.digest e ∈ allowed) ∧ last.From crates presented := by
  induction encoded generalizing identity with
  | nil =>
      cases read
      exact ⟨by simp, held⟩
  | cons first rest carried =>
      rw [readDisclosures, bind_eq_ok] at read
      obtain ⟨next, started, continued⟩ := read
      rw [readDisclosure_eq_ok] at started
      obtain ⟨committed, bytes, values, decoded, parsed, rfl⟩ := started
      obtain ⟨others, final⟩ := carried continued (fun e member => subset (.tail _ member))
        (DisclosedIdentity.update_from held (subset (.head _)) decoded parsed)
      refine ⟨?_, final⟩
      intro e member
      rcases List.mem_cons.mp member with rfl | member
      · exact committed
      · exact others e member

/-! ## The verifier -/

def canonicalSubject (familyName givenName birthdate : String) : String :=
  familyName ++ "\x1f" ++ givenName ++ "\x1f" ++ birthdate

def verifyPidBinding (crates : Crates) (binding : PidBindingObject)
    (trustedPidIssuerJwk : Value) (issuer : Url) (expectedNonce expectedNewHolderJkt : String)
    (now : UInt64) : Checked VerifiedPidBinding := do
  rejectIf (32768 < Text.len binding.pidVp ∨ 8192 < Text.len binding.proofJwt)
    (proofError "PID binding evidence exceeds the accepted size")
  let issuerJwt := binding.issuerJwt
  let tail := binding.tail
  rejectIf (issuerJwt = "" ∨ tail.getLast? ≠ some binding.proofJwt)
    (proofError "PID VP must end in the supplied cross-attestation proof JWT")
  let trustedJwk ← okOr (EcJwk.ofValue trustedPidIssuerJwk)
    (oauthError .internalServerError "server_error" "configured PID issuer key is malformed")
  let (issuerKey, _, _) ← verifyingKeyAndJwk crates trustedJwk "invalid_proof"
  let pidPayload ← verifyJwsPayload crates issuerJwt issuerKey "PID credential"
  rejectIf ((pidPayload.get "vct").bind Value.asStr ≠ some pidVct)
    (proofError "presented credential is not the required PID type")
  rejectIf
    (((pidPayload.get "iss").bind Value.asStr).map (Text.trimEndMatches '/') ≠
        some (Text.trimEndMatches '/' issuer.asStr) ∨
      ((pidPayload.get "nbf").bind Value.asU64).all (fun nbf => now < nbf) = true ∨
      ((pidPayload.get "exp").bind Value.asU64).all (fun exp => exp ≤ now) = true)
    (proofError "presented PID issuer or validity interval is not accepted")
  let committed ← okOr ((pidPayload.get "_sd").bind Value.asArray)
    (proofError "PID has no selective-disclosure digests")
  let allowedDisclosures := committed.filterMap Value.asStr
  let cnf ← okOr ((pidPayload.get "cnf").bind (·.get "jwk")) (proofError "PID has no holder key")
  let pidHolderJwk ← okOr (EcJwk.ofValue cnf) (proofError "PID holder key is malformed")
  let (pidHolderKey, _, _) ← verifyingKeyAndJwk crates pidHolderJwk "invalid_proof"
  let proofPayload ← verifyJwsPayload crates binding.proofJwt pidHolderKey "PID binding proof"
  let claims ← okOr (BindingProofClaims.ofValue proofPayload)
    (proofError "PID binding proof claims are malformed")
  rejectIf
    (Text.trimEndMatches '/' claims.aud ≠ Text.trimEndMatches '/' issuer.asStr ∨
      claims.nonce ≠ expectedNonce ∨ claims.newHolderJkt ≠ expectedNewHolderJkt ∨
      claims.pidSdHash ≠ crates.digest issuerJwt ∨ claims.jti = "" ∨ 256 < Text.len claims.jti ∨
      saturatingAdd now 5 < claims.iat ∨ 300 < saturatingSub now claims.iat)
    (proofError "PID binding proof is stale or does not bind this PID, nonce, issuer, and new holder key")
  let identity ← readDisclosures crates allowedDisclosures .empty tail.dropLast
  rejectIf
    (identity.familyName ≠ some "Mustermann" ∨ identity.givenName ≠ some "Erika" ∨
      identity.birthdate ≠ some "1990-01-01")
    (oauthError .forbidden "credential_request_denied"
      "PID subject does not match the authoritative education record")
  let familyName ← okOr identity.familyName .panic
  let givenName ← okOr identity.givenName .panic
  let birthdate ← okOr identity.birthdate .panic
  return {
    subject := ⟨hashU128 crates (canonicalSubject familyName givenName birthdate)⟩
    jti := claims.jti
  }

/-- The person of the authoritative education record. -/
def authoritativeIdentity : DisclosedIdentity :=
  ⟨some "Mustermann", some "Erika", some "1990-01-01"⟩

def authoritativeSubject (crates : Crates) : SubjectId :=
  ⟨hashU128 crates (canonicalSubject "Mustermann" "Erika" "1990-01-01")⟩

/-- A PID binding with everything that its acceptance rests on. -/
structure PidBindingProof (crates : Crates) (binding : PidBindingObject)
    (trustedPidIssuerJwk : Value) (issuer : Url) (nonce holderJkt : String) (now : UInt64) where
  trustedJwk : EcJwk
  issuerKey : VerifyingKey
  pid : Value
  committed : List Value
  holderJwk : EcJwk
  holderKey : VerifyingKey
  proofPayload : Value
  claims : BindingProofClaims
  vpBounded : Text.len binding.pidVp ≤ 32768
  proofBounded : Text.len binding.proofJwt ≤ 8192
  issuerJwtPresent : binding.issuerJwt ≠ ""
  ends : binding.tail.getLast? = some binding.proofJwt
  trustedRead : EcJwk.ofValue trustedPidIssuerJwk = some trustedJwk
  issuerDenoted : trustedJwk.Denotes crates issuerKey
  issued : SignedValue crates binding.issuerJwt issuerKey pid
  vct : (pid.get "vct").bind Value.asStr = some pidVct
  iss : ((pid.get "iss").bind Value.asStr).map (Text.trimEndMatches '/') =
    some (Text.trimEndMatches '/' issuer.asStr)
  nbf : ∃ nbf, (pid.get "nbf").bind Value.asU64 = some nbf ∧ nbf ≤ now
  exp : ∃ exp, (pid.get "exp").bind Value.asU64 = some exp ∧ now < exp
  sd : (pid.get "_sd").bind Value.asArray = some committed
  cnf : ((pid.get "cnf").bind (·.get "jwk")).bind EcJwk.ofValue = some holderJwk
  holderDenoted : holderJwk.Denotes crates holderKey
  bound : SignedValue crates binding.proofJwt holderKey proofPayload
  claimsRead : BindingProofClaims.ofValue proofPayload = some claims
  aud : Text.trimEndMatches '/' claims.aud = Text.trimEndMatches '/' issuer.asStr
  nonceNamed : claims.nonce = nonce
  newHolderNamed : claims.newHolderJkt = holderJkt
  pidNamed : claims.pidSdHash = crates.digest binding.issuerJwt
  jtiPresent : claims.jti ≠ ""
  jtiBounded : Text.len claims.jti ≤ 256
  notAhead : claims.iat ≤ saturatingAdd now 5
  notStale : saturatingSub now claims.iat ≤ 300
  disclosed : readDisclosures crates (committed.filterMap Value.asStr) .empty
    binding.tail.dropLast = .ok authoritativeIdentity

def PidBindingProof.verified {crates : Crates} {binding : PidBindingObject}
    {trustedPidIssuerJwk : Value} {issuer : Url} {nonce holderJkt : String} {now : UInt64}
    (accepted : PidBindingProof crates binding trustedPidIssuerJwk issuer nonce holderJkt now) :
    VerifiedPidBinding :=
  ⟨authoritativeSubject crates, accepted.claims.jti⟩

theorem option_all_eq_false {α : Type} (found : Option α) (test : α → Bool) :
    ¬ found.all test = true ↔ ∃ value, found = some value ∧ test value = false := by
  cases found <;> simp

theorem DisclosedIdentity.eq_authoritative (identity : DisclosedIdentity) :
    ¬ (identity.familyName ≠ some "Mustermann" ∨ identity.givenName ≠ some "Erika" ∨
      identity.birthdate ≠ some "1990-01-01") ↔ identity = authoritativeIdentity := by
  obtain ⟨familyName, givenName, birthdate⟩ := identity
  simp only [not_or, not_not, authoritativeIdentity, DisclosedIdentity.mk.injEq]

theorem verifyPidBinding_eq_ok (crates : Crates) (binding : PidBindingObject) (trusted : Value)
    (issuer : Url) (nonce holderJkt : String) (now : UInt64) (verified : VerifiedPidBinding) :
    verifyPidBinding crates binding trusted issuer nonce holderJkt now = .ok verified ↔
      ∃ accepted : PidBindingProof crates binding trusted issuer nonce holderJkt now,
        verified = accepted.verified := by
  simp only [verifyPidBinding, rejectIf_bind_eq_ok, okOr_bind_eq_ok,
    bind_eq_ok (verifyingKeyAndJwk _ _ _), bind_eq_ok (verifyJwsPayload _ _ _ _),
    bind_eq_ok (readDisclosures _ _ _ _), Prod.exists, verifyingKeyAndJwk_eq_ok,
    verifyJwsPayload_eq_ok, pure_eq_ok, DisclosedIdentity.eq_authoritative]
  simp only [not_or, not_not, option_all_eq_false, decide_eq_false_iff_not, UInt64.not_lt,
    UInt64.not_le, Nat.not_lt]
  constructor
  · rintro ⟨⟨vpBounded, proofBounded⟩, ⟨issuerJwtPresent, ends⟩, trustedJwk, trustedRead, issuerKey,
      _, _, ⟨issuerDenoted, _, _⟩, pid, issued, vct, ⟨iss, nbf, exp⟩, committed, sd, cnf, cnfRead,
      holderJwk, holderRead, holderKey, _, _, ⟨holderDenoted, _, _⟩, proofPayload, bound, claims,
      claimsRead, ⟨aud, nonceNamed, newHolderNamed, pidNamed, jtiPresent, jtiBounded, notAhead,
      notStale⟩, _, disclosed, rfl, _, familyName, _, givenName, _, birthdate, rfl⟩
    cases familyName
    cases givenName
    cases birthdate
    exact ⟨{
      trustedJwk, issuerKey, pid, committed, holderJwk, holderKey, proofPayload, claims, vpBounded,
      proofBounded, issuerJwtPresent, ends, trustedRead, issuerDenoted, issued, vct, iss, nbf, exp,
      sd, holderDenoted, bound, claimsRead, aud, nonceNamed, newHolderNamed, pidNamed, jtiPresent,
      jtiBounded, notAhead, notStale, disclosed
      cnf := Option.bind_eq_some_iff.mpr ⟨cnf, cnfRead, holderRead⟩ }, rfl⟩
  · rintro ⟨accepted, rfl⟩
    obtain ⟨cnf, cnfRead, holderRead⟩ := Option.bind_eq_some_iff.mp accepted.cnf
    exact ⟨⟨accepted.vpBounded, accepted.proofBounded⟩, ⟨accepted.issuerJwtPresent, accepted.ends⟩,
      accepted.trustedJwk, accepted.trustedRead, accepted.issuerKey, _, _,
      ⟨accepted.issuerDenoted, rfl, rfl⟩, accepted.pid, accepted.issued, accepted.vct,
      ⟨accepted.iss, accepted.nbf, accepted.exp⟩, accepted.committed, accepted.sd, cnf, cnfRead,
      accepted.holderJwk, holderRead, accepted.holderKey, _, _, ⟨accepted.holderDenoted, rfl, rfl⟩,
      accepted.proofPayload, accepted.bound, accepted.claims, accepted.claimsRead,
      ⟨accepted.aud, accepted.nonceNamed, accepted.newHolderNamed, accepted.pidNamed,
        accepted.jtiPresent, accepted.jtiBounded, accepted.notAhead, accepted.notStale⟩,
      authoritativeIdentity, accepted.disclosed, rfl, _, rfl, _, rfl, _, rfl, rfl⟩

/-- Accepted disclosures are committed in the PID and spell the authoritative record. -/
theorem PidBindingProof.disclosures {crates : Crates} {binding : PidBindingObject}
    {trusted : Value} {issuer : Url} {nonce holderJkt : String} {now : UInt64}
    (accepted : PidBindingProof crates binding trusted issuer nonce holderJkt now) :
    (∀ encoded ∈ binding.tail.dropLast,
      crates.digest encoded ∈ accepted.committed.filterMap Value.asStr) ∧
    authoritativeIdentity.From crates binding.tail.dropLast :=
  readDisclosures_sound accepted.disclosed (List.Subset.refl _) (DisclosedIdentity.empty_from _ _)

end VCIssuer.Service
