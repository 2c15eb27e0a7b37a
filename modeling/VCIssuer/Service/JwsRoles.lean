import VCIssuer.Service.Presentation

/-!
# The roles of a JWS

Four verifiers take a compact JWS.  Two of them look at the protected header, and
the payload check that the other two share does not.  What a string must contain
to be accepted in a role is stated here without the parameters of the verifiers:
they can be chosen to suit the string.
-/

namespace VCIssuer.Service

open VCIssuer.Library

inductive JwsRole where
  | dpop
  | credentialProof
  | pidBinding
  | emrtdEvidence
  deriving DecidableEq, Repr

/-- Some call of the role's verifier accepts the string. -/
def AcceptedAs (crates : Crates) (compact : String) : JwsRole → Prop
  | .dpop => ∃ method uri clock verified,
      verifyDpop crates compact method uri clock = .ok verified
  | .credentialProof => ∃ issuer clock verified,
      verifyCredentialProof crates compact issuer clock = .ok verified
  | .pidBinding => ∃ pidVp trusted issuer nonce holderJkt now verified,
      verifyPidBinding crates ⟨pidVp, compact⟩ trusted issuer nonce holderJkt now = .ok verified
  | .emrtdEvidence => ∃ readerKey issuer nonce holderJkt now verified,
      verifyEmrtdEvidence crates ⟨compact⟩ readerKey issuer nonce holderJkt now = .ok verified

/-- No two verifiers accept the string. -/
def Separated (crates : Crates) (compact : String) : Prop :=
  ∀ role other, role ≠ other → ¬ (AcceptedAs crates compact role ∧ AcceptedAs crates compact other)

/-! ## Contents -/

section Contents

variable (crates : Crates) (compact : String)

/-- A string signed with the key in its own protected header. -/
structure SelfSigned (typ : String) (part0 part1 : String) : Prop where
  signed : ∃ header key, SignedCompact crates compact key part0 part1 ∧
    (crates.urlSafeDecode part0).bind crates.dpopHeaderFromSlice = some header ∧
    header.alg = "ES256" ∧ header.typ = typ ∧ header.jwk.Denotes crates key

def DpopContent : Prop :=
  ∃ part0 part1 claims, SelfSigned crates compact "dpop+jwt" part0 part1 ∧
    (crates.urlSafeDecode part1).bind crates.dpopClaimsFromSlice = some claims ∧
    claims.jti ≠ "" ∧ Text.len claims.jti ≤ 256

def CredentialProofContent : Prop :=
  ∃ part0 part1 claims, SelfSigned crates compact "openid4vci-proof+jwt" part0 part1 ∧
    (crates.urlSafeDecode part1).bind crates.credentialProofClaimsFromSlice = some claims ∧
    claims.nonce ≠ "" ∧ Text.len claims.nonce ≤ 256

/-- A PID that is presented for `holderJwk` together with the string, and is valid at `now`. -/
structure PresentedPid (pidVp : String) (aud digest : String) (holderJwk : EcJwk)
    (now : UInt64) : Prop where
  vpBounded : Text.len pidVp ≤ 32768
  ends : (PidBindingObject.tail ⟨pidVp, compact⟩).getLast? = some compact
  issuerJwtPresent : PidBindingObject.issuerJwt ⟨pidVp, compact⟩ ≠ ""
  pidNamed : digest = crates.digest (PidBindingObject.issuerJwt ⟨pidVp, compact⟩)
  issued : ∃ (trusted : EcJwk) (issuerKey : VerifyingKey) (pid : Value) (committed : List Value),
    trusted.Denotes crates issuerKey ∧
    SignedValue crates (PidBindingObject.issuerJwt ⟨pidVp, compact⟩) issuerKey pid ∧
    (pid.get "vct").bind Value.asStr = some pidVct ∧
    ((pid.get "iss").bind Value.asStr).map (Text.trimEndMatches '/') =
      some (Text.trimEndMatches '/' aud) ∧
    (∃ nbf, (pid.get "nbf").bind Value.asU64 = some nbf ∧ nbf ≤ now) ∧
    (∃ exp, (pid.get "exp").bind Value.asU64 = some exp ∧ now < exp) ∧
    (pid.get "_sd").bind Value.asArray = some committed ∧
    ((pid.get "cnf").bind (·.get "jwk")).bind EcJwk.ofValue = some holderJwk ∧
    readDisclosures crates (committed.filterMap Value.asStr) .empty
      (PidBindingObject.tail ⟨pidVp, compact⟩).dropLast = .ok authoritativeIdentity

/-- The claims of a binding proof, signed with the key of a PID. -/
def PidBindingContent : Prop :=
  ∃ (holderJwk : EcJwk) (holderKey : VerifyingKey) (payload : Value) (claims : BindingProofClaims)
      (pidVp : String) (now : UInt64),
    holderJwk.Denotes crates holderKey ∧ SignedValue crates compact holderKey payload ∧
    BindingProofClaims.ofValue payload = some claims ∧ claims.jti ≠ "" ∧
    Text.len claims.jti ≤ 256 ∧ Text.len compact ≤ 8192 ∧ claims.iat ≤ saturatingAdd now 5 ∧
    saturatingSub now claims.iat ≤ 300 ∧
    PresentedPid crates compact pidVp claims.aud claims.pidSdHash holderJwk now

/-- The claims of an attestation that is valid at some time, signed with a key in SEC1 form. -/
def EmrtdContent : Prop :=
  ∃ (sec1 : Bytes) (readerKey : VerifyingKey) (payload : Value) (claims : EmrtdEvidenceClaims)
      (now : UInt64),
    crates.keyFromSec1 sec1 = some readerKey ∧ SignedValue crates compact readerKey payload ∧
    EmrtdEvidenceClaims.ofValue payload = some claims ∧
    Text.len compact ≤ maxEmrtdEvidenceBytes ∧ claims.iat ≤ now ∧ now < claims.exp ∧
    isExpiredDocument claims.mrz.dateOfExpiry now = false ∧
    Text.contains claims.liveness.assurance emrtdRequiredLiveness = true ∧
    (∀ value ∈ claims.mrz.required, Text.trim value ≠ "" ∧ Text.len value ≤ 512) ∧
    ∀ portrait ∈ claims.portrait, Text.len portrait ≤ maxEmrtdEvidenceBytes

end Contents

/-- What a string contains that some call in this role accepts. -/
def HasContent (crates : Crates) (compact : String) : JwsRole → Prop
  | .dpop => DpopContent crates compact
  | .credentialProof => CredentialProofContent crates compact
  | .pidBinding => PidBindingContent crates compact
  | .emrtdEvidence => EmrtdContent crates compact

/-- The roles whose verifiers do not look at the protected header. -/
def JwsRole.ignoresHeader : JwsRole → Bool
  | .pidBinding | .emrtdEvidence => true
  | .dpop | .credentialProof => false

section Roles

variable {crates : Crates} {compact : String}

theorem accepted_dpop_iff : AcceptedAs crates compact .dpop ↔ DpopContent crates compact := by
  constructor
  · rintro ⟨method, uri, clock, verified, succeeded⟩
    obtain ⟨accepted, _⟩ := (verifyDpop_eq_ok ..).mp succeeded
    exact ⟨accepted.part0, accepted.part1, accepted.claims,
      ⟨accepted.header, accepted.key, accepted.signed, accepted.headerRead, accepted.alg,
        accepted.typ, accepted.denotes⟩,
      accepted.claimsRead, accepted.jtiPresent, accepted.jtiBounded⟩
  · rintro ⟨part0, part1, claims, ⟨header, key, signed, headerRead, alg, typ, denotes⟩, claimsRead,
      jtiPresent, jtiBounded⟩
    let accepted : DpopProof crates compact claims.htm ⟨claims.htu⟩ (some claims.iat) := {
      part0, part1, header, claims, key, signed, headerRead, alg, typ, denotes, claimsRead,
      jtiPresent, jtiBounded
      now := claims.iat
      htm := rfl
      htu := rfl
      clocked := rfl
      notAhead := le_saturatingAdd _ _
      notStale := by rw [saturatingSub_self]; decide }
    exact ⟨_, _, _, _, (verifyDpop_eq_ok ..).mpr ⟨accepted, rfl⟩⟩

theorem accepted_credentialProof_iff :
    AcceptedAs crates compact .credentialProof ↔ CredentialProofContent crates compact := by
  constructor
  · rintro ⟨issuer, clock, verified, succeeded⟩
    obtain ⟨accepted, _⟩ := (verifyCredentialProof_eq_ok ..).mp succeeded
    exact ⟨accepted.part0, accepted.part1, accepted.claims,
      ⟨accepted.header, accepted.key, accepted.signed, accepted.headerRead, accepted.alg,
        accepted.typ, accepted.denotes⟩,
      accepted.claimsRead, accepted.noncePresent, accepted.nonceBounded⟩
  · rintro ⟨part0, part1, claims, ⟨header, key, signed, headerRead, alg, typ, denotes⟩, claimsRead,
      noncePresent, nonceBounded⟩
    let accepted : HolderProof crates compact ⟨claims.aud⟩ (some claims.iat) := {
      part0, part1, header, claims, key, signed, headerRead, alg, typ, denotes, claimsRead,
      noncePresent, nonceBounded
      now := claims.iat
      aud := rfl
      clocked := rfl
      notAhead := le_saturatingAdd _ _
      notStale := by rw [saturatingSub_self]; decide }
    exact ⟨_, _, _, (verifyCredentialProof_eq_ok ..).mpr ⟨accepted, rfl⟩⟩

theorem ofValue_toValue {jwk : EcJwk} {key : VerifyingKey} (denotes : jwk.Denotes crates key) :
    EcJwk.ofValue jwk.toValue = some jwk := by
  obtain ⟨_, _, x, y⟩ := jwk
  cases denotes.kty
  cases denotes.crv
  rfl

theorem accepted_pidBinding_iff :
    AcceptedAs crates compact .pidBinding ↔ PidBindingContent crates compact := by
  constructor
  · rintro ⟨pidVp, trusted, issuer, nonce, holderJkt, now, verified, succeeded⟩
    obtain ⟨accepted, _⟩ := (verifyPidBinding_eq_ok ..).mp succeeded
    exact ⟨accepted.holderJwk, accepted.holderKey, accepted.proofPayload, accepted.claims, pidVp,
      now, accepted.holderDenoted, accepted.bound, accepted.claimsRead, accepted.jtiPresent,
      accepted.jtiBounded, accepted.proofBounded, accepted.notAhead, accepted.notStale, {
        vpBounded := accepted.vpBounded
        ends := accepted.ends
        issuerJwtPresent := accepted.issuerJwtPresent
        pidNamed := accepted.pidNamed
        issued := ⟨accepted.trustedJwk, accepted.issuerKey, accepted.pid, accepted.committed,
          accepted.issuerDenoted, accepted.issued, accepted.vct, accepted.aud ▸ accepted.iss,
          accepted.nbf, accepted.exp, accepted.sd, accepted.cnf, accepted.disclosed⟩ }⟩
  · rintro ⟨holderJwk, holderKey, payload, claims, pidVp, now, holderDenoted, bound, claimsRead,
      jtiPresent, jtiBounded, proofBounded, notAhead, notStale, pid⟩
    obtain ⟨trustedJwk, issuerKey, value, committed, issuerDenoted, issued, vct, iss, nbf, exp, sd,
      cnf, disclosed⟩ := pid.issued
    let accepted : PidBindingProof crates ⟨pidVp, compact⟩ trustedJwk.toValue ⟨claims.aud⟩
        claims.nonce claims.newHolderJkt now := {
      trustedJwk, issuerKey, committed, holderJwk, holderKey, claims, issuerDenoted, issued, vct,
      iss, nbf, exp, sd, cnf, holderDenoted, bound, claimsRead, jtiPresent, jtiBounded,
      proofBounded, notAhead, notStale, disclosed
      pid := value
      proofPayload := payload
      vpBounded := pid.vpBounded
      ends := pid.ends
      issuerJwtPresent := pid.issuerJwtPresent
      trustedRead := ofValue_toValue issuerDenoted
      aud := rfl
      nonceNamed := rfl
      newHolderNamed := rfl
      pidNamed := pid.pidNamed }
    exact ⟨_, _, _, _, _, _, _, (verifyPidBinding_eq_ok ..).mpr ⟨accepted, rfl⟩⟩

theorem accepted_emrtdEvidence_iff :
    AcceptedAs crates compact .emrtdEvidence ↔ EmrtdContent crates compact := by
  constructor
  · rintro ⟨sec1, issuer, nonce, holderJkt, now, verified, succeeded⟩
    obtain ⟨accepted, _⟩ := (verifyEmrtdEvidence_eq_ok ..).mp succeeded
    exact ⟨sec1, accepted.readerKey, accepted.payload, accepted.claims, now,
      accepted.readerKeyRead, accepted.signed, accepted.claimsRead, accepted.bounded,
      accepted.issuedBefore, accepted.expiresAfter, accepted.unexpired, accepted.assurance,
      accepted.identity, accepted.portraitBounded⟩
  · rintro ⟨sec1, readerKey, payload, claims, now, readerKeyRead, signed, claimsRead, bounded,
      issuedBefore, expiresAfter, unexpired, assurance, identity, portraitBounded⟩
    let accepted : EmrtdAttestation crates ⟨compact⟩ sec1 ⟨claims.aud⟩ claims.nonce
        claims.newHolderJkt now := {
      readerKey, payload, claims, bounded, readerKeyRead, signed, claimsRead, issuedBefore,
      expiresAfter, assurance, unexpired, identity, portraitBounded
      aud := rfl
      nonceNamed := rfl
      newHolderNamed := rfl }
    exact ⟨_, _, _, _, _, _, (verifyEmrtdEvidence_eq_ok ..).mpr ⟨accepted, rfl⟩⟩

/-- A role accepts exactly the strings with its content. -/
theorem acceptedAs_iff (role : JwsRole) :
    AcceptedAs crates compact role ↔ HasContent crates compact role := by
  cases role with
  | dpop => exact accepted_dpop_iff
  | credentialProof => exact accepted_credentialProof_iff
  | pidBinding => exact accepted_pidBinding_iff
  | emrtdEvidence => exact accepted_emrtdEvidence_iff

/-- The two roles with a header type of their own never meet. -/
theorem dpop_not_credentialProof :
    ¬ (DpopContent crates compact ∧ CredentialProofContent crates compact) := by
  rintro ⟨⟨_, _, _, ⟨header, key, signed, headerRead, _, typ, _⟩, _⟩,
    ⟨_, _, _, ⟨other, second, signedToo, headerReadToo, _, typToo, _⟩, _⟩⟩
  obtain ⟨_, _, _, parts, _⟩ := signed
  obtain ⟨_, _, _, partsToo, _⟩ := signedToo
  cases parts.symm.trans partsToo
  cases headerRead.symm.trans headerReadToo
  exact absurd (typ.symm.trans typToo) (by decide)

/-- The verifier of credential proofs reads what it knows of the claims of a binding proof. -/
theorem BindingProofClaims.toValue_credentialProof (claims : BindingProofClaims) :
    CredentialProofClaims.ofValue claims.toValue.canonical =
      some ⟨claims.aud, claims.iat, claims.nonce⟩ := by
  refine bind_of_eq_some _ (Value.struct_canonical (by simp) _) ?_
  refine bind_of_eq_some (.string claims.aud) rfl (bind_of_eq_some _ rfl ?_)
  refine bind_of_eq_some (.nat claims.iat) rfl (bind_of_eq_some _ rfl ?_)
  exact bind_of_eq_some (.string claims.nonce) rfl (bind_of_eq_some _ rfl rfl)

/-- A binding proof under the header of a credential proof is one too. -/
theorem Wallet.bindingProof_credentialProof (wallet : Wallet crates)
    (laws : LawfulEncodings crates) {claims : BindingProofClaims} (noncePresent : claims.nonce ≠ "")
    (nonceBounded : Text.len claims.nonce ≤ 256) :
    CredentialProofContent crates (wallet.bindingProof "openid4vci-proof+jwt" claims) := by
  refine ⟨_, _, ⟨claims.aud, claims.iat, claims.nonce⟩, ⟨⟨_, wallet.key,
    (wallet.bindingProof_signed _ claims).signedCompact laws.base64, wallet.proof_header laws _,
    rfl, rfl, wallet.denotes⟩⟩, ?_, noncePresent, nonceBounded⟩
  rw [laws.base64.readsWritten, Option.bind_some,
    laws.structs.credentialProofClaims _ claims.toValue_plain, claims.toValue_credentialProof]

/-- The roles are separated at a string exactly when it does not combine the content of a role
that ignores the protected header with the content of another role. -/
theorem separated_iff (crates : Crates) (compact : String) :
    Separated crates compact ↔
      ∀ role other, role.ignoresHeader = true → role ≠ other →
        ¬ (HasContent crates compact role ∧ HasContent crates compact other) := by
  simp only [Separated, acceptedAs_iff]
  constructor
  · exact fun separated role other _ differ => separated role other differ
  · rintro apart role other differ ⟨first, second⟩
    cases ignores : role.ignoresHeader with
    | true => exact apart role other ignores differ ⟨first, second⟩
    | false =>
        cases ignoresToo : other.ignoresHeader with
        | true => exact apart other role ignoresToo differ.symm ⟨second, first⟩
        | false =>
            cases role with
            | dpop =>
                cases other with
                | dpop => exact differ rfl
                | credentialProof => exact dpop_not_credentialProof ⟨first, second⟩
                | _ => cases ignoresToo
            | credentialProof =>
                cases other with
                | dpop => exact dpop_not_credentialProof ⟨second, first⟩
                | credentialProof => exact differ rfl
                | _ => cases ignoresToo
            | _ => cases ignores

end Roles

/-- The holder of a PID can sign one string for both roles. -/
theorem reference_confuses_roles :
    ¬ Separated reference ((Reference.wallet Reference.onCurve₃).bindingProof
      "openid4vci-proof+jwt"
      (bindingClaims (referencePid Reference.onCurve₃ 1000) "nonce" "binding" "thumbprint" 1500)) := by
  intro separated
  have short : ShortTexts "openid4vci-proof+jwt" "nonce" "binding" "thumbprint" :=
    ⟨by decide, by decide, by decide, by decide⟩
  obtain ⟨bound⟩ := reference_presentation_accepted Reference.onCurve₃ 1000 1500 short (by decide)
    (by decide) (by decide)
  refine separated .credentialProof .pidBinding (by decide) ⟨accepted_credentialProof_iff.mpr ?_, ?_⟩
  · exact (Reference.wallet Reference.onCurve₃).bindingProof_credentialProof reference_encodings
      (by decide) (by decide)
  · exact ⟨_, _, _, _, _, _, _, (verifyPidBinding_eq_ok ..).mpr ⟨bound, rfl⟩⟩

end VCIssuer.Service
