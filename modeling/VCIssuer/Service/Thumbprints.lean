import VCIssuer.Library.Lines
import VCIssuer.Service.JwsRoles
import VCIssuer.Service.Reference

/-!
# Thumbprints as identities of keys

A thumbprint is a digest of the spelling of two coordinates.  Octets have one
spelling and a key has one pair of coordinates, so that a key has one thumbprint,
whichever of the two functions computes it.
-/

namespace VCIssuer.Service

open VCIssuer.Library

/-- The text that a thumbprint is a digest of. -/
def EcJwk.canonical (jwk : EcJwk) : String :=
  "\x7b\"crv\":\"P-256\",\"kty\":\"EC\",\"x\":\"" ++ jwk.x ++ "\",\"y\":\"" ++ jwk.y ++ "\"\x7d"

/-- Both keys are the same point. -/
def EcJwk.SamePoint (crates : Crates) (jwk other : EcJwk) : Prop :=
  ∃ key, jwk.Denotes crates key ∧ other.Denotes crates key

/-- The key in the protected header of a compact JWS. -/
def headerJwk (crates : Crates) (compact : String) : Option EcJwk :=
  match Text.split '.' compact with
  | [] => none
  | part0 :: _ => ((crates.urlSafeDecode part0).bind crates.dpopHeaderFromSlice).map (·.jwk)

/-- The two functions that read a key and compute its thumbprint. -/
inductive KeyReader where
  | verifyDpop
  | verifyingKeyAndJwk
  deriving DecidableEq

/-- The reader accepts a request with this key, and computes this thumbprint. -/
def KeyReader.Accepts (crates : Crates) (jwk : EcJwk) (jkt : String) : KeyReader → Prop
  | .verifyDpop => ∃ proof method uri clock jti, headerJwk crates proof = some jwk ∧
      VCIssuer.Service.verifyDpop crates proof method uri clock = .ok ⟨jkt, jti⟩
  | .verifyingKeyAndJwk => ∃ errorCode key value,
      VCIssuer.Service.verifyingKeyAndJwk crates jwk errorCode = .ok (key, jkt, value)

/-- What `verify_dpop` checks of a proof besides the key in it. -/
structure DpopChecks (crates : Crates) (proof method : String) (uri : Url) (clock : ClockReading)
    (jwk : EcJwk) (key : VerifyingKey) (jti : String) where
  part0 : String
  part1 : String
  header : DpopHeader
  claims : DpopClaims
  now : UInt64
  signed : SignedCompact crates proof key part0 part1
  headerRead : (crates.urlSafeDecode part0).bind crates.dpopHeaderFromSlice = some header
  alg : header.alg = "ES256"
  typ : header.typ = "dpop+jwt"
  jwkGiven : header.jwk = jwk
  claimsRead : (crates.urlSafeDecode part1).bind crates.dpopClaimsFromSlice = some claims
  htm : claims.htm = method
  htu : Text.trimEndMatches '/' claims.htu = Text.trimEndMatches '/' uri.asStr
  jtiGiven : claims.jti = jti
  jtiPresent : claims.jti ≠ ""
  jtiBounded : Text.len claims.jti ≤ 256
  clocked : clock = some now
  notAhead : claims.iat ≤ saturatingAdd now 5
  notStale : saturatingSub now claims.iat ≤ 60

/-- What identities of keys rest on. -/
structure KeyLaws (crates : Crates) : Prop where
  base64 : Base64Laws crates
  strict : StrictBase64 crates
  affine : AffineLaws crates

section Keys

variable {crates : Crates} {jwk other : EcJwk} {key otherKey : VerifyingKey}

/-! ## One spelling of a key -/

theorem EcJwk.Denotes.key_unique (denotes : jwk.Denotes crates key)
    (again : jwk.Denotes crates otherKey) : key = otherKey := by
  obtain ⟨x, y, readX, readY, _, _, point⟩ := denotes.point
  obtain ⟨x', y', readX', readY', _, _, point'⟩ := again.point
  obtain rfl := Option.some.inj (readX.symm.trans readX')
  obtain rfl := Option.some.inj (readY.symm.trans readY')
  exact Option.some.inj (point.symm.trans point')

/-- The JWK is spelled from the coordinates of its key. -/
theorem EcJwk.Denotes.spelled (laws : KeyLaws crates) (denotes : jwk.Denotes crates key) :
    jwk = ⟨"EC", "P-256", crates.urlSafeEncode key.x, crates.urlSafeEncode key.y⟩ := by
  obtain ⟨x, y, readX, readY, _, _, point⟩ := denotes.point
  obtain rfl := laws.affine.coordinates x y key point
  obtain ⟨kty, crv, spelledX, spelledY⟩ := jwk
  obtain rfl : kty = "EC" := denotes.kty
  obtain rfl : crv = "P-256" := denotes.crv
  rw [laws.strict.writesRead _ _ readX, laws.strict.writesRead _ _ readY]

/-- No coordinate of a key closes the string it is spliced into. -/
theorem EcJwk.Denotes.noQuote (laws : KeyLaws crates) (denotes : jwk.Denotes crates key) :
    '"' ∉ jwk.x.toList := by
  rw [denotes.spelled laws]
  exact fun member => absurd (laws.base64.alphabet _ member) (by decide)

theorem EcJwk.canonical_eq (jwk : EcJwk) :
    jwk.canonical = "\x7b\"crv\":\"P-256\",\"kty\":\"EC\",\"x\":\"" ++
      (jwk.x ++ String.singleton '"' ++ (",\"y\":\"" ++ (jwk.y ++ "\"\x7d"))) := by
  rw [← String.toList_inj]
  change ("\x7b\"crv\":\"P-256\",\"kty\":\"EC\",\"x\":\"" ++ jwk.x ++ "\",\"y\":\"" ++ jwk.y ++
    "\"\x7d").toList = _
  simp

/-- The coordinates are read back from the text. -/
theorem EcJwk.canonical_coordinates (noQuote : '"' ∉ jwk.x.toList)
    (noQuote' : '"' ∉ other.x.toList) (same : jwk.canonical = other.canonical) :
    jwk.x = other.x ∧ jwk.y = other.y := by
  rw [canonical_eq, canonical_eq, String.append_right_inj] at same
  have cut := congrArg (Text.splitOnce '"') same
  rw [Text.splitOnce_append noQuote, Text.splitOnce_append noQuote', Option.some.injEq,
    Prod.mk.injEq, String.append_right_inj, String.append_left_inj] at cut
  exact cut

theorem EcJwk.Denotes.canonical_injective (laws : KeyLaws crates)
    (denotes : jwk.Denotes crates key) (otherDenotes : other.Denotes crates otherKey)
    (same : jwk.canonical = other.canonical) : jwk = other := by
  obtain ⟨sameX, sameY⟩ :=
    EcJwk.canonical_coordinates (denotes.noQuote laws) (otherDenotes.noQuote laws) same
  obtain ⟨kty, crv, x, y⟩ := jwk
  obtain ⟨kty', crv', x', y'⟩ := other
  obtain rfl : kty = kty' := denotes.kty.trans otherDenotes.kty.symm
  obtain rfl : crv = crv' := denotes.crv.trans otherDenotes.crv.symm
  obtain rfl : x = x' := sameX
  obtain rfl : y = y' := sameY
  rfl

/-! ## One thumbprint of a key -/

/-- Neither digest sends these two keys to one thumbprint by accident. -/
abbrev ThumbprintsApart (crates : Crates) (jwk other : EcJwk) : Prop :=
  CollisionFreeAt crates.sha256 (Text.asBytes jwk.canonical) (Text.asBytes other.canonical)

theorem EcJwk.thumbprint_eq (jwk : EcJwk) : jwk.thumbprint crates =
    crates.urlSafeEncode (crates.sha256 (Text.asBytes jwk.canonical)) := rfl

/-- Two keys that are denoted have one thumbprint exactly when they are the same. -/
theorem EcJwk.Denotes.thumbprint_eq_iff (laws : KeyLaws crates) (denotes : jwk.Denotes crates key)
    (otherDenotes : other.Denotes crates otherKey) (apart : ThumbprintsApart crates jwk other) :
    jwk.thumbprint crates = other.thumbprint crates ↔ key = otherKey := by
  constructor
  · intro same
    rw [EcJwk.thumbprint_eq, EcJwk.thumbprint_eq] at same
    have preimages := apart (laws.base64.injective same)
    have texts : jwk.canonical = other.canonical := by
      have read := congrArg Text.ofBytes preimages
      rwa [Text.ofBytes_asBytes, Text.ofBytes_asBytes, Option.some.injEq] at read
    obtain rfl := denotes.canonical_injective laws otherDenotes texts
    exact denotes.key_unique otherDenotes
  · rintro rfl
    rw [denotes.spelled laws, ← otherDenotes.spelled laws]

theorem EcJwk.Denotes.samePoint_iff (denotes : jwk.Denotes crates key)
    (otherDenotes : other.Denotes crates otherKey) :
    jwk.SamePoint crates other ↔ key = otherKey := by
  constructor
  · rintro ⟨point, first, second⟩
    exact (denotes.key_unique first).trans (otherDenotes.key_unique second).symm
  · rintro rfl
    exact ⟨key, denotes, otherDenotes⟩

/-! ## The two readers -/

theorem DpopProof.headerJwk_eq {proof method : String} {uri : Url} {clock : ClockReading}
    (accepted : DpopProof crates proof method uri clock) :
    headerJwk crates proof = some accepted.header.jwk := by
  obtain ⟨part2, _, _, parts, _, _, _⟩ := accepted.signed
  rw [headerJwk, parts]
  simp only [accepted.headerRead, Option.map_some]

/-- `verify_dpop` takes a key exactly where `verifying_key_and_jwk` does, and computes the same
thumbprint. -/
theorem verifyDpop_eq_verifyingKeyAndJwk (errorCode proof method : String) (uri : Url)
    (clock : ClockReading) (jkt jti : String) :
    verifyDpop crates proof method uri clock = .ok ⟨jkt, jti⟩ ↔
      ∃ jwk key, verifyingKeyAndJwk crates jwk errorCode = .ok (key, jkt, jwk.toValue) ∧
        Nonempty (DpopChecks crates proof method uri clock jwk key jti) := by
  rw [verifyDpop_eq_ok]
  constructor
  · rintro ⟨accepted, same⟩
    obtain ⟨rfl, rfl⟩ := VerifiedDpop.mk.inj same
    refine ⟨accepted.header.jwk, accepted.key,
      (verifyingKeyAndJwk_eq_ok ..).mpr ⟨accepted.denotes, rfl, rfl⟩, ⟨?_⟩⟩
    exact { accepted with
      jwkGiven := rfl
      jtiGiven := rfl }
  · rintro ⟨jwk, key, taken, ⟨checks⟩⟩
    obtain ⟨denotes, rfl, _⟩ := (verifyingKeyAndJwk_eq_ok ..).mp taken
    let accepted : DpopProof crates proof method uri clock := { checks with
      key
      denotes := checks.jwkGiven.symm ▸ denotes }
    have verified : accepted.verified = ⟨jwk.thumbprint crates, jti⟩ :=
      congrArg₂ VerifiedDpop.mk (congrArg (EcJwk.thumbprint crates) checks.jwkGiven)
        checks.jtiGiven
    exact ⟨accepted, verified.symm⟩

/-- Either reader accepts only keys that denote a point, and computes the thumbprint. -/
theorem KeyReader.Accepts.denotes {reader : KeyReader} {jkt : String}
    (accepts : reader.Accepts crates jwk jkt) :
    (∃ key, jwk.Denotes crates key) ∧ jkt = jwk.thumbprint crates := by
  cases reader with
  | verifyDpop =>
      obtain ⟨proof, method, uri, clock, jti, carried, succeeded⟩ := accepts
      obtain ⟨accepted, same⟩ := (verifyDpop_eq_ok ..).mp succeeded
      obtain rfl : accepted.header.jwk = jwk :=
        Option.some.inj (accepted.headerJwk_eq.symm.trans carried)
      exact ⟨⟨accepted.key, accepted.denotes⟩, congrArg VerifiedDpop.jkt same⟩
  | verifyingKeyAndJwk =>
      obtain ⟨errorCode, key, value, succeeded⟩ := accepts
      obtain ⟨denotes, same, _⟩ := (verifyingKeyAndJwk_eq_ok ..).mp succeeded
      exact ⟨⟨key, denotes⟩, same⟩

/-- A key that denotes a point is accepted inside a DPoP proof for any request. -/
theorem EcJwk.Denotes.dpopProof (encodings : LawfulEncodings crates) (points : PointsSign crates)
    (denotes : jwk.Denotes crates key) (method : String) (uri : Url) (now : UInt64) :
    ∃ proof, ∃ accepted : DpopProof crates proof method uri (some now),
      accepted.header.jwk = jwk := by
  obtain ⟨x, y, _, _, _, _, point⟩ := denotes.point
  choose sign signature sliced verified using points.signs x y key point
  let wallet : Wallet crates := {
    jwk, key, sign, denotes
    verifies := fun message => ⟨signature message, sliced message, verified message⟩ }
  let claims : DpopClaims := ⟨method, uri.asStr, now, "proof"⟩
  have present : claims.jti ≠ "" := show "proof" ≠ "" by decide
  have bounded : Text.len claims.jti ≤ 256 := show Text.len "proof" ≤ 256 by decide
  exact ⟨wallet.dpop claims, wallet.dpopProof encodings claims rfl present bounded, rfl⟩

/-- Both readers accept the same keys and compute the same thumbprint. -/
theorem KeyReader.accepts_iff (encodings : LawfulEncodings crates) (points : PointsSign crates)
    (jkt : String) : KeyReader.verifyDpop.Accepts crates jwk jkt ↔
      KeyReader.verifyingKeyAndJwk.Accepts crates jwk jkt := by
  constructor
  · intro accepts
    obtain ⟨⟨key, denotes⟩, same⟩ := accepts.denotes
    exact ⟨"invalid_dpop_proof", key, _,
      (verifyingKeyAndJwk_eq_ok ..).mpr ⟨denotes, same, rfl⟩⟩
  · intro accepts
    obtain ⟨⟨key, denotes⟩, same⟩ := accepts.denotes
    obtain ⟨proof, accepted, rfl⟩ := denotes.dpopProof encodings points "POST" ⟨""⟩ 0
    have verified : accepted.verified = ⟨jkt, accepted.claims.jti⟩ := by
      rw [same, DpopProof.verified]
    exact ⟨proof, _, _, _, _, accepted.headerJwk_eq,
      (verifyDpop_eq_ok ..).mpr ⟨accepted, verified.symm⟩⟩

/-- The key that goes into `cnf` is the one that was accepted. -/
theorem verifyingKeyAndJwk_returns {errorCode jkt : String} {value : Value}
    (accepted : verifyingKeyAndJwk crates jwk errorCode = .ok (key, jkt, value)) :
    ∃ returned, EcJwk.ofValue value = some returned ∧ returned.Denotes crates key ∧
      returned.thumbprint crates = jkt := by
  obtain ⟨denotes, rfl, rfl⟩ := (verifyingKeyAndJwk_eq_ok ..).mp accepted
  exact ⟨jwk, ofValue_toValue denotes, denotes, rfl⟩

/-- A credential is granted only to the key that the access token was issued for. -/
theorem CredentialGrant.keys_eq (laws : KeyLaws crates) {state : AppState} {s : VolatileState}
    {headers : HeaderMap} {request : CredentialRequest} {dpopClock proofClock clock : ClockReading}
    (grant : CredentialGrant crates state s headers request dpopClock proofClock clock)
    {proof method : String} {uri : Url} {tokenClock : ClockReading}
    (token : DpopProof crates proof method uri tokenClock)
    (issued : grant.access.dpopJkt = token.verified.jkt)
    (dpopApart : ThumbprintsApart crates token.header.jwk grant.dpop.header.jwk)
    (holderApart : ThumbprintsApart crates token.header.jwk grant.holder.header.jwk) :
    token.key = grant.dpop.key ∧ token.key = grant.holder.key := by
  have bound : token.verified.jkt = grant.jkt := issued.symm.trans grant.bound
  constructor
  · refine (token.denotes.thumbprint_eq_iff laws grant.dpop.denotes dpopApart).mp ?_
    exact bound.trans grant.dpopKey.symm
  · refine (token.denotes.thumbprint_eq_iff laws grant.holder.denotes holderApart).mp ?_
    exact bound.trans grant.holderKey.symm

end Keys

/-- Two accepted keys have one thumbprint exactly when they are one point, whichever reader
accepted them; both readers accept the same keys; the key that is returned has the thumbprint that
is returned; and the comparisons of an access token with the two proofs of a credential request
compare points. -/
theorem thumbprint_identifies_key {crates : Crates} (laws : KeyLaws crates) :
    (∀ (reader otherReader : KeyReader) (jwk other : EcJwk) (jkt otherJkt : String),
        reader.Accepts crates jwk jkt → otherReader.Accepts crates other otherJkt →
          ThumbprintsApart crates jwk other →
            (jkt = otherJkt ↔ jwk.SamePoint crates other)) ∧
      (∀ errorCode proof method uri clock jkt jti,
        verifyDpop crates proof method uri clock = .ok ⟨jkt, jti⟩ ↔
          ∃ jwk key, verifyingKeyAndJwk crates jwk errorCode = .ok (key, jkt, jwk.toValue) ∧
            Nonempty (DpopChecks crates proof method uri clock jwk key jti)) ∧
      (LawfulEncodings crates → PointsSign crates → ∀ jwk jkt,
        KeyReader.verifyDpop.Accepts crates jwk jkt ↔
          KeyReader.verifyingKeyAndJwk.Accepts crates jwk jkt) ∧
      (∀ jwk errorCode key jkt value,
        verifyingKeyAndJwk crates jwk errorCode = .ok (key, jkt, value) →
          ∃ returned, EcJwk.ofValue value = some returned ∧ returned.Denotes crates key ∧
            returned.thumbprint crates = jkt) ∧
      ∀ {tokenProof proof compact tokenMethod method : String} {tokenUri uri issuer : Url}
        {tokenClock clock proofClock : ClockReading}
        (token : DpopProof crates tokenProof tokenMethod tokenUri tokenClock)
        (dpop : DpopProof crates proof method uri clock)
        (holder : HolderProof crates compact issuer proofClock),
        (ThumbprintsApart crates token.header.jwk dpop.header.jwk →
          (token.verified.jkt = dpop.verified.jkt ↔ token.key = dpop.key)) ∧
          (ThumbprintsApart crates token.header.jwk holder.header.jwk →
            (token.verified.jkt = holder.verified.holderJkt ↔ token.key = holder.key)) := by
  refine ⟨?_, verifyDpop_eq_verifyingKeyAndJwk, ?_, ?_, ?_⟩
  · intro reader otherReader jwk other jkt otherJkt accepts otherAccepts apart
    obtain ⟨⟨key, denotes⟩, rfl⟩ := accepts.denotes
    obtain ⟨⟨otherKey, otherDenotes⟩, rfl⟩ := otherAccepts.denotes
    rw [denotes.thumbprint_eq_iff laws otherDenotes apart, denotes.samePoint_iff otherDenotes]
  · intro encodings points jwk jkt
    exact KeyReader.accepts_iff encodings points jkt
  · intro jwk errorCode key jkt value accepted
    exact verifyingKeyAndJwk_returns accepted
  · intro _ _ _ _ _ _ _ _ _ _ _ token dpop holder
    exact ⟨token.denotes.thumbprint_eq_iff laws dpop.denotes,
      token.denotes.thumbprint_eq_iff laws holder.denotes⟩

theorem reference_keyLaws : KeyLaws reference where
  base64 := reference_base64
  strict := ⟨fun _ _ read => Base64.encode_decode rfl read⟩
  affine := by
    constructor
    intro x y key point
    change Reference.keyFromAffine x y = some key at point
    unfold Reference.keyFromAffine at point
    split at point
    · exact (Option.some.inj point).symm
    · cases point

theorem reference_pointsSign : PointsSign reference where
  signs _ _ key _ message := ⟨Reference.idealSignature key message,
    ⟨Reference.idealSignature key message⟩, Reference.signatureFromSlice_ideal key message,
    Reference.verifyEs256_ideal key message⟩

theorem thumbprint_identifies_key_reference :
    (Reference.wallet Reference.onCurve₁).jkt = (Reference.wallet Reference.onCurve₂).jkt ↔
      (Reference.wallet Reference.onCurve₁).jwk.SamePoint reference
        (Reference.wallet Reference.onCurve₂).jwk := by
  have accepts (wallet : Wallet reference) :
      KeyReader.verifyingKeyAndJwk.Accepts reference wallet.jwk wallet.jkt :=
    ⟨"", wallet.key, _, (verifyingKeyAndJwk_eq_ok ..).mpr ⟨wallet.denotes, rfl, rfl⟩⟩
  have identified := thumbprint_identifies_key reference_keyLaws
  refine identified.1 .verifyDpop .verifyingKeyAndJwk _ _ _ _
    ((identified.2.2.1 reference_encodings reference_pointsSign _ _).mpr (accepts _)) (accepts _) ?_
  intro same
  exact absurd same (by decide +kernel)

end VCIssuer.Service
