import VCIssuer.Service.Travellers

/-!
# The two halves of a captured PID

The same verified claims go into an SD-JWT and into an mdoc.  The halves agree
claim by claim, in the holder's key and in the end of their validity.  The
portrait is copied into the one and decoded into the other, so that it is empty
there whenever the text is no base64.
-/

namespace VCIssuer.Service

open VCIssuer.Library
open VCIssuer.Library.Checks

/-! ## Claims and elements -/

/-- The element of the mdoc for a claim of the SD-JWT other than the portrait. -/
def mdocElement (claim : String × Value) : String × CborValue :=
  (if claim.1 = "birthdate" then "birth_date" else claim.1,
    match claim.2 with
    | .string text => .text text
    | .bool value => .bool value
    | _ => .null)

/-- The image that a portrait text denotes: what follows the last comma, without the blanks around
it, in the standard alphabet or else in the URL-safe one. -/
def PortraitDenotes (crates : Crates) (text : String) (image : Bytes) : Prop :=
  let encoded := Text.trim (Text.afterLast ',' text)
  crates.standardDecode encoded = some image ∨
    crates.standardDecode encoded = none ∧ crates.urlSafeDecode encoded = some image

theorem decodePortraitBytes_of_denotes {crates : Crates} {text : String} {image : Bytes}
    (denotes : PortraitDenotes crates text image) :
    decodePortraitBytes crates (some text) = image := by
  rcases denotes with standard | ⟨notStandard, urlSafe⟩
  · simp [decodePortraitBytes, standard]
  · simp [decodePortraitBytes, notStandard, urlSafe]

/-- A text without an image leaves the element empty. -/
theorem decodePortraitBytes_of_none {crates : Crates} {text : String}
    (undecodable : ∀ image, ¬ PortraitDenotes crates text image) :
    decodePortraitBytes crates (some text) = [] := by
  unfold decodePortraitBytes
  simp only
  cases standard : crates.standardDecode (Text.trim (Text.afterLast ',' text)) with
  | some image => exact absurd (.inl standard) (undecodable image)
  | none =>
      cases urlSafe : crates.urlSafeDecode (Text.trim (Text.afterLast ',' text)) with
      | some image => exact absurd (.inr ⟨standard, urlSafe⟩) (undecodable image)
      | none => rfl

/-! ## The mdoc half -/

/-- An mdoc that was signed over these elements, this key and this validity. -/
structure MintedMdoc (crates : Crates) (host : Host) (signer : KeychainSigner)
    (credential docType nameSpace : String) (elements : List (String × CborValue)) (x y : Bytes)
    (signedAt validUntil : String) : Prop where
  minted : ∃ items digests msoBytes msoPayload protectedBytes tbs signature unprotected encoded,
    mdocItems crates (host.salt .mdocItem) 0 elements = .ok (items, digests) ∧
    crates.cborToVec (mobileSecurityObject docType nameSpace digests (deviceKey x y) signedAt
      validUntil) = some msoBytes ∧
    crates.cborToVec (.tag 24 (.bytes msoBytes)) = some msoPayload ∧
    crates.cborToVec (sigStructure protectedBytes msoPayload) = some tbs ∧
    host.signEs256 signer tbs = some signature ∧
    crates.cborToVec
      (issuerSigned nameSpace items protectedBytes unprotected msoPayload signature) =
        some encoded ∧
    credential = crates.urlSafeEncode encoded

theorem issueMdoc_minted {crates : Crates} {host : Host} {signer : KeychainSigner}
    {profile : String} {holderJwk : Value} {now : UInt64} {pidClaims : Option PidSubjectClaims}
    {hybrid : Option HybridCredentialSigner} {credential : String}
    (issued : issueMdoc crates host signer profile holderJwk now pidClaims hybrid =
      .ok credential) :
    ∃ docType nameSpace elements x y signedAt validUntil,
      mdocClaims crates profile pidClaims = some (docType, nameSpace, elements) ∧
      HolderCoordinates crates holderJwk x y ∧ rfc3339 now = .ok signedAt ∧
      rfc3339 (saturatingAdd now 3600) = .ok validUntil ∧
      MintedMdoc crates host signer credential docType nameSpace elements x y signedAt
        validUntil := by
  obtain ⟨made, rfl⟩ := issueMdoc_eq_ok.mp issued
  refine ⟨made.docType, made.nameSpace, made.claims, made.x, made.y, made.signedAt,
    made.validUntil, made.claimed, made.coordinates, made.signedFrom, made.validTo, ⟨?_⟩⟩
  exact ⟨made.items, made.digests, made.msoBytes, made.msoPayload, made.protectedBytes, made.tbs,
    made.signature, made.unprotected, made.encoded, mdocItems_eq_ok.mpr ⟨_, made.itemised⟩,
    made.mso, made.payload, made.covered, made.signed, made.written, rfl⟩

/-! ## Both halves -/

/-- What the two halves have in common. -/
structure HalvesAgree (crates : Crates) (host : Host) (sdJwtSigner mdocSigner : KeychainSigner)
    (issuer : Url) (holderJwk : Value) (now : UInt64) (pid : PidSubjectClaims)
    (credential credentialMdoc : String) : Prop where
  halves : ∃ (claims : List (String × Value)) (elements : List (String × CborValue))
      (payload : Value) (x y : Bytes) (signedAt validUntil : String),
    SignedSdJwt crates host sdJwtSigner credential payload
      (disclosuresOf crates (host.salt .disclosure) claims) ∧
    payload.get "_sd" =
      some (digestsOf crates (disclosuresOf crates (host.salt .disclosure) claims)) ∧
    boundKey payload = some holderJwk ∧
    payload.get "exp" = some (.nat (saturatingAdd now 3600)) ∧
    MintedMdoc crates host mdocSigner credentialMdoc pidVct pidVct elements x y signedAt
      validUntil ∧
    HolderCoordinates crates holderJwk x y ∧
    rfc3339 (saturatingAdd now 3600) = .ok validUntil ∧
    elements = (claims.filter (·.1 ≠ "portrait")).map mdocElement ++
      [("portrait", .bytes (decodePortraitBytes crates pid.portrait))] ∧
    (claims.lookup "portrait").bind Value.asStr = pid.portrait
  decoded : ∀ text image, pid.portrait = some text → PortraitDenotes crates text image →
    decodePortraitBytes crates pid.portrait = image
  empty : pid.portrait = none ∨
      (∃ text, pid.portrait = some text ∧ ∀ image, ¬ PortraitDenotes crates text image) →
    decodePortraitBytes crates pid.portrait = []

theorem pid_halves_agree {crates : Crates} {host : Host} {sdJwtSigner mdocSigner : KeychainSigner}
    {issuer : Url} {holderJwk : Value} {now : UInt64} {pid : PidSubjectClaims}
    {tlsnEvidence : Option VerifiedTlsnEvidence} {hybrid : Option HybridCredentialSigner}
    {credential credentialMdoc : String}
    (issued : issueSdJwt crates host sdJwtSigner issuer pidFromEmrtdSdJwt holderJwk now
      tlsnEvidence (some pid) = .ok credential)
    (minted : issueMdoc crates host mdocSigner pidFromEmrtdMdoc holderJwk now (some pid) hybrid =
      .ok credentialMdoc) :
    HalvesAgree crates host sdJwtSigner mdocSigner issuer holderJwk now pid credential
      credentialMdoc := by
  obtain ⟨vct, claims, claimed, signed⟩ := (issueSdJwt_eq_ok ..).mp issued
  obtain ⟨docType, nameSpace, elements, x, y, signedAt, validUntil, elementsClaimed, coordinates, _,
    validTo, mdoc⟩ := issueMdoc_minted minted
  cases elementsClaimed
  cases claimed
  refine ⟨⟨_, _, _, x, y, signedAt, validUntil, signed, rfl, rfl, rfl, mdoc, coordinates, validTo,
    ?_, ?_⟩, ?_, ?_⟩
  · cases pid.portrait <;> rfl
  · cases pid.portrait <;> rfl
  · rintro text image given denotes
    rw [given]
    exact decodePortraitBytes_of_denotes denotes
  · rintro (absent | ⟨text, given, undecodable⟩)
    · rw [absent]
      rfl
    · rw [given]
      exact decodePortraitBytes_of_none undecodable

/-! ### Portraits of travellers -/

section Portraits

variable {portrait : Option String}

/-- A traveller's attestation is accepted, and both halves are minted from it. -/
theorem travel_halves (short : TravelTexts "nonce" "jkt" "jti" portrait)
    (small : (decodePortraitBytes reference (normalizePortrait portrait)).length ≤ 1000) :
    ∃ evidence verified credential credentialMdoc,
      verifyEmrtdEvidence reference evidence
        (Reference.signerAt Reference.x₃ Reference.y₃).publicKeyBytes referenceState.issuer "nonce"
        "jkt" 1000 = .ok verified ∧
      issueSdJwt reference referenceHost (Reference.signerAt Reference.x₁ Reference.y₁)
        referenceState.issuer pidFromEmrtdSdJwt reader.jwk.toValue 1000 none
        (some verified.claims) = .ok credential ∧
      issueMdoc reference referenceHost (Reference.signerAt Reference.x₁ Reference.y₁)
        pidFromEmrtdMdoc reader.jwk.toValue 1000 (some verified.claims) none =
          .ok credentialMdoc ∧
      verified.claims = travelPid portrait := by
  obtain ⟨credential, issued⟩ := (reference_signs Reference.onCurve₁).issueSdJwt reference
    referenceState.issuer reader.jwk.toValue 1000
    (show sdJwtClaims pidFromEmrtdSdJwt none (some (travelPid portrait)) = some _ from rfl)
  obtain ⟨credentialMdoc, minted⟩ := travelPid_issueMdoc reference_answers
    (reference_signsRaw Reference.onCurve₁) reader small
  exact ⟨_, _, credential, credentialMdoc,
    (verifyEmrtdEvidence_eq_ok _ _ _ _ _ _ _ _).mpr ⟨travelAttestation short, rfl⟩, issued, minted,
    rfl⟩

end Portraits

theorem pid_halves_agree_portrait :
    ∃ evidence verified credential credentialMdoc,
      verifyEmrtdEvidence reference evidence
        (Reference.signerAt Reference.x₃ Reference.y₃).publicKeyBytes referenceState.issuer "nonce"
        "jkt" 1000 = .ok verified ∧
      verified.claims.portrait = some "data:image/jpeg;base64,AA==" ∧
      HalvesAgree reference referenceHost (Reference.signerAt Reference.x₁ Reference.y₁)
        (Reference.signerAt Reference.x₁ Reference.y₁) referenceState.issuer reader.jwk.toValue 1000
        verified.claims credential credentialMdoc := by
  have short : TravelTexts "nonce" "jkt" "jti" (some "data:image/jpeg;base64,AA==") :=
    ⟨by decide, by decide, by decide, by decide⟩
  have given : (travelPid (some "data:image/jpeg;base64,AA==")).portrait =
      some "data:image/jpeg;base64,AA==" := by decide +kernel
  obtain ⟨evidence, verified, credential, credentialMdoc, accepted, issued, minted, same⟩ :=
    travel_halves short (by decide +kernel)
  exact ⟨evidence, verified, credential, credentialMdoc, accepted, same ▸ given,
    pid_halves_agree issued minted⟩

/-- A text that is no base64 is a portrait in the one half and none in the other. -/
theorem undecodable_portrait :
    ∃ evidence verified credential credentialMdoc vct claims docType nameSpace elements,
      verifyEmrtdEvidence reference evidence
        (Reference.signerAt Reference.x₃ Reference.y₃).publicKeyBytes referenceState.issuer "nonce"
        "jkt" 1000 = .ok verified ∧
      issueSdJwt reference referenceHost (Reference.signerAt Reference.x₁ Reference.y₁)
        referenceState.issuer pidFromEmrtdSdJwt reader.jwk.toValue 1000 none
        (some verified.claims) = .ok credential ∧
      issueMdoc reference referenceHost (Reference.signerAt Reference.x₁ Reference.y₁)
        pidFromEmrtdMdoc reader.jwk.toValue 1000 (some verified.claims) none =
          .ok credentialMdoc ∧
      sdJwtClaims pidFromEmrtdSdJwt none (some verified.claims) = some (vct, claims) ∧
      claims.lookup "portrait" = some (.string "data:image/jpeg;base64,!") ∧
      mdocClaims reference pidFromEmrtdMdoc (some verified.claims) =
        some (docType, nameSpace, elements) ∧
      elements.lookup "portrait" = some (.bytes []) := by
  have short : TravelTexts "nonce" "jkt" "jti" (some "data:image/jpeg;base64,!") :=
    ⟨by decide, by decide, by decide, by decide⟩
  have given : (travelPid (some "data:image/jpeg;base64,!")).portrait =
      some "data:image/jpeg;base64,!" := by decide +kernel
  have empty : decodePortraitBytes reference (some "data:image/jpeg;base64,!") = [] := by
    decide +kernel
  obtain ⟨evidence, verified, credential, credentialMdoc, accepted, issued, minted, same⟩ :=
    travel_halves short (by decide +kernel)
  rw [← same] at given
  refine ⟨evidence, verified, credential, credentialMdoc, _, _, _, _, _, accepted, issued, minted,
    rfl, ?_, rfl, ?_⟩
  · rw [given]
    rfl
  · rw [given, empty]
    rfl

end VCIssuer.Service
