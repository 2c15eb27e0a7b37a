import VCIssuer.Service.CompactJws
import VCIssuer.Service.Emrtd

/-!
# Honest key holders

What a party that holds a P-256 key sends to the issuer: DPoP proofs, credential
proofs, proofs for a PID binding and attestations of a travel document.  The
verifiers accept what is well formed and fresh.
-/

namespace VCIssuer.Service

open VCIssuer.Library

/-- The laws of the encodings that go into a JWS. -/
structure LawfulEncodings (crates : Crates) : Prop where
  base64 : Base64Laws crates
  serde : SerdeJsonLaws crates
  structs : SerdeStructLaws crates

/-! ## Headers and claims as they are written -/

def proofHeader (typ : String) (jwk : EcJwk) : Value :=
  .object [("typ", .string typ), ("alg", .string "ES256"), ("jwk", jwk.toValue)]

theorem proofHeader_plain (typ : String) (jwk : EcJwk) :
    PlainJson jsonDepth (proofHeader typ jwk) := by
  refine .object (by simp) fun member found => ?_
  simp only [List.mem_cons, List.not_mem_nil, or_false] at found
  rcases found with rfl | rfl | rfl
  · exact .string
  · exact .string
  · exact jwk.toValue_plain _

theorem proofHeader_read (typ : String) {jwk : EcJwk} (kty : jwk.kty = "EC")
    (crv : jwk.crv = "P-256") :
    DpopHeader.ofValue (proofHeader typ jwk).canonical = some ⟨"ES256", typ, jwk⟩ := by
  refine bind_of_eq_some _ (Value.struct_canonical (by simp) _) ?_
  refine bind_of_eq_some (.string "ES256") rfl (bind_of_eq_some _ rfl ?_)
  refine bind_of_eq_some (.string typ) rfl (bind_of_eq_some _ rfl ?_)
  exact bind_of_eq_some _ rfl (bind_of_eq_some _ (EcJwk.ofValue_canonical kty crv) rfl)

def DpopClaims.toValue (claims : DpopClaims) : Value :=
  .object [("htm", .string claims.htm), ("htu", .string claims.htu), ("iat", .nat claims.iat),
    ("jti", .string claims.jti)]

theorem DpopClaims.toValue_plain (claims : DpopClaims) : PlainJson jsonDepth claims.toValue := by
  refine .object (by simp) fun member found => ?_
  simp only [List.mem_cons, List.not_mem_nil, or_false] at found
  rcases found with rfl | rfl | rfl | rfl
  · exact .string
  · exact .string
  · exact .natural
  · exact .string

theorem DpopClaims.toValue_read (claims : DpopClaims) :
    DpopClaims.ofValue claims.toValue.canonical = some claims := by
  refine bind_of_eq_some _ (Value.struct_canonical (by simp) _) ?_
  refine bind_of_eq_some (.string claims.htm) rfl (bind_of_eq_some _ rfl ?_)
  refine bind_of_eq_some (.string claims.htu) rfl (bind_of_eq_some _ rfl ?_)
  refine bind_of_eq_some (.nat claims.iat) rfl (bind_of_eq_some _ rfl ?_)
  exact bind_of_eq_some (.string claims.jti) rfl (bind_of_eq_some _ rfl rfl)

def CredentialProofClaims.toValue (claims : CredentialProofClaims) : Value :=
  .object [("aud", .string claims.aud), ("iat", .nat claims.iat), ("nonce", .string claims.nonce)]

theorem CredentialProofClaims.toValue_plain (claims : CredentialProofClaims) :
    PlainJson jsonDepth claims.toValue := by
  refine .object (by simp) fun member found => ?_
  simp only [List.mem_cons, List.not_mem_nil, or_false] at found
  rcases found with rfl | rfl | rfl
  · exact .string
  · exact .natural
  · exact .string

theorem CredentialProofClaims.toValue_read (claims : CredentialProofClaims) :
    CredentialProofClaims.ofValue claims.toValue.canonical = some claims := by
  refine bind_of_eq_some _ (Value.struct_canonical (by simp) _) ?_
  refine bind_of_eq_some (.string claims.aud) rfl (bind_of_eq_some _ rfl ?_)
  refine bind_of_eq_some (.nat claims.iat) rfl (bind_of_eq_some _ rfl ?_)
  exact bind_of_eq_some (.string claims.nonce) rfl (bind_of_eq_some _ rfl rfl)

def BindingProofClaims.toValue (claims : BindingProofClaims) : Value :=
  .object [("aud", .string claims.aud), ("iat", .nat claims.iat), ("nonce", .string claims.nonce),
    ("jti", .string claims.jti), ("pid_sd_hash", .string claims.pidSdHash),
    ("new_holder_jkt", .string claims.newHolderJkt)]

theorem BindingProofClaims.toValue_plain (claims : BindingProofClaims) :
    PlainJson jsonDepth claims.toValue := by
  refine .object (by simp) fun member found => ?_
  simp only [List.mem_cons, List.not_mem_nil, or_false] at found
  rcases found with rfl | rfl | rfl | rfl | rfl | rfl
  case inr.inl => exact .natural
  all_goals exact .string

theorem BindingProofClaims.toValue_read (claims : BindingProofClaims) :
    BindingProofClaims.ofValue claims.toValue.canonical = some claims := by
  refine bind_of_eq_some _ (Value.struct_canonical (by simp) _) ?_
  refine bind_of_eq_some (.string claims.aud) rfl (bind_of_eq_some _ rfl ?_)
  refine bind_of_eq_some (.nat claims.iat) rfl (bind_of_eq_some _ rfl ?_)
  refine bind_of_eq_some (.string claims.nonce) rfl (bind_of_eq_some _ rfl ?_)
  refine bind_of_eq_some (.string claims.jti) rfl (bind_of_eq_some _ rfl ?_)
  refine bind_of_eq_some (.string claims.pidSdHash) rfl (bind_of_eq_some _ rfl ?_)
  exact bind_of_eq_some (.string claims.newHolderJkt) rfl (bind_of_eq_some _ rfl rfl)

def EmrtdLivenessClaim.toValue (claim : EmrtdLivenessClaim) : Value :=
  .object [("assurance", .string claim.assurance),
    ("matched_portrait", .bool claim.matchedPortrait)]

def EmrtdMrzClaim.toValue (claim : EmrtdMrzClaim) : Value :=
  .object [("family_name", .string claim.familyName), ("given_name", .string claim.givenName),
    ("birthdate", .string claim.birthdate), ("nationality", .string claim.nationality),
    ("issuing_country", .string claim.issuingCountry),
    ("document_number", .string claim.documentNumber),
    ("date_of_expiry", .string claim.dateOfExpiry)]

/-- An absent portrait is left out. -/
def EmrtdEvidenceClaims.members (claims : EmrtdEvidenceClaims) : List (String × Value) :=
  [ ("aud", .string claims.aud), ("iat", .nat claims.iat), ("exp", .nat claims.exp),
    ("nonce", .string claims.nonce), ("jti", .string claims.jti),
    ("new_holder_jkt", .string claims.newHolderJkt),
    ("passive_authentication", .bool claims.passiveAuthentication),
    ("chip_authentic", .bool claims.chipAuthentic), ("liveness", claims.liveness.toValue),
    ("mrz", claims.mrz.toValue) ] ++
  (claims.portrait.map fun portrait => ("portrait", Value.string portrait)).toList

def EmrtdEvidenceClaims.toValue (claims : EmrtdEvidenceClaims) : Value :=
  .object claims.members

theorem EmrtdLivenessClaim.toValue_plain (claim : EmrtdLivenessClaim) (depth : Nat) :
    PlainJson (depth + 1) claim.toValue := by
  refine .object (by simp) fun member found => ?_
  simp only [List.mem_cons, List.not_mem_nil, or_false] at found
  rcases found with rfl | rfl
  · exact .string
  · exact .bool

theorem EmrtdLivenessClaim.toValue_read (claim : EmrtdLivenessClaim) :
    EmrtdLivenessClaim.ofValue claim.toValue.canonical = some claim := by
  refine bind_of_eq_some _ (Value.struct_canonical (by simp) _) ?_
  refine bind_of_eq_some (.string claim.assurance) rfl (bind_of_eq_some _ rfl ?_)
  exact bind_of_eq_some (.bool claim.matchedPortrait) rfl (bind_of_eq_some _ rfl rfl)

theorem EmrtdMrzClaim.toValue_plain (claim : EmrtdMrzClaim) (depth : Nat) :
    PlainJson (depth + 1) claim.toValue := by
  refine .object (by simp) fun member found => ?_
  simp only [List.mem_cons, List.not_mem_nil, or_false] at found
  rcases found with rfl | rfl | rfl | rfl | rfl | rfl | rfl
  all_goals exact .string

theorem EmrtdMrzClaim.toValue_read (claim : EmrtdMrzClaim) :
    EmrtdMrzClaim.ofValue claim.toValue.canonical = some claim := by
  rw [EmrtdMrzClaim.ofValue, EmrtdMrzClaim.toValue, Value.struct_canonical (by simp)]
  rfl

theorem EmrtdEvidenceClaims.toValue_distinct (claims : EmrtdEvidenceClaims) :
    (claims.members.map Prod.fst).Nodup := by
  rw [EmrtdEvidenceClaims.members]
  cases claims.portrait <;> simp

theorem EmrtdEvidenceClaims.toValue_plain (claims : EmrtdEvidenceClaims) :
    PlainJson jsonDepth claims.toValue := by
  refine .object claims.toValue_distinct fun member found => ?_
  simp only [EmrtdEvidenceClaims.members, List.mem_append, List.mem_cons, List.not_mem_nil, or_false, Option.mem_toList,
    Option.map_eq_some_iff] at found
  obtain (rfl | rfl | rfl | rfl | rfl | rfl | rfl | rfl | rfl | rfl) | ⟨portrait, _, rfl⟩ := found
  case inl.inr.inl | inl.inr.inr.inl => exact .natural
  case inl.inr.inr.inr.inr.inr.inr.inl | inl.inr.inr.inr.inr.inr.inr.inr.inl => exact .bool
  case inl.inr.inr.inr.inr.inr.inr.inr.inr.inl => exact claims.liveness.toValue_plain _
  case inl.inr.inr.inr.inr.inr.inr.inr.inr.inr => exact claims.mrz.toValue_plain _
  all_goals exact .string

theorem EmrtdEvidenceClaims.toValue_read (claims : EmrtdEvidenceClaims) :
    EmrtdEvidenceClaims.ofValue claims.toValue.canonical = some claims := by
  have portrait : optionalString ((claims.members.lookup "portrait").map Value.canonical) =
      some claims.portrait := by
    rw [EmrtdEvidenceClaims.members]
    cases claims.portrait <;> rfl
  refine bind_of_eq_some _ (Value.struct_canonical claims.toValue_distinct _) ?_
  refine bind_of_eq_some (.string claims.aud) rfl (bind_of_eq_some _ rfl ?_)
  refine bind_of_eq_some (.nat claims.iat) rfl (bind_of_eq_some _ rfl ?_)
  refine bind_of_eq_some (.nat claims.exp) rfl (bind_of_eq_some _ rfl ?_)
  refine bind_of_eq_some (.string claims.nonce) rfl (bind_of_eq_some _ rfl ?_)
  refine bind_of_eq_some (.string claims.jti) rfl (bind_of_eq_some _ rfl ?_)
  refine bind_of_eq_some (.string claims.newHolderJkt) rfl (bind_of_eq_some _ rfl ?_)
  refine bind_of_eq_some (.bool claims.passiveAuthentication) rfl (bind_of_eq_some _ rfl ?_)
  refine bind_of_eq_some (.bool claims.chipAuthentic) rfl (bind_of_eq_some _ rfl ?_)
  refine bind_of_eq_some _ rfl (bind_of_eq_some _ claims.liveness.toValue_read ?_)
  refine bind_of_eq_some _ rfl (bind_of_eq_some _ claims.mrz.toValue_read ?_)
  exact bind_of_eq_some _ portrait rfl

/-! ## Wallets -/

/-- A key, with what its holder signs. -/
structure Wallet (crates : Crates) where
  jwk : EcJwk
  key : VerifyingKey
  sign : Bytes → Bytes
  denotes : jwk.Denotes crates key
  verifies : ∀ message, ∃ parsed, crates.signatureFromSlice (sign message) = some parsed ∧
    crates.verifyEs256 key message parsed = true

namespace Wallet

variable {crates : Crates} (wallet : Wallet crates)

def jkt : String := wallet.jwk.thumbprint crates

/-- A compact JWS over a header and a payload. -/
def jws (header payload : Value) : String :=
  compactJws crates (crates.valueToVec header) (crates.valueToVec payload)
    (wallet.sign (signingInput (crates.urlSafeEncode (crates.valueToVec header))
      (crates.urlSafeEncode (crates.valueToVec payload))))

theorem jws_signed (header payload : Value) :
    SignedOctets crates (wallet.jws header payload) wallet.key (crates.valueToVec header)
      (crates.valueToVec payload) := by
  obtain ⟨parsed, sliced, verified⟩ := wallet.verifies _
  exact ⟨_, parsed, rfl, sliced, verified⟩

/-- A compact JWS that carries its own key. -/
def proof (typ : String) (payload : Value) : String :=
  wallet.jws (proofHeader typ wallet.jwk) payload

theorem proof_header (laws : LawfulEncodings crates) (typ : String) :
    (crates.urlSafeDecode (crates.urlSafeEncode
        (crates.valueToVec (proofHeader typ wallet.jwk)))).bind crates.dpopHeaderFromSlice =
      some ⟨"ES256", typ, wallet.jwk⟩ := by
  rw [laws.base64.readsWritten, Option.bind_some,
    laws.structs.dpopHeader _ (proofHeader_plain typ wallet.jwk)]
  exact proofHeader_read typ wallet.denotes.kty wallet.denotes.crv

/-! ## DPoP -/

def dpop (claims : DpopClaims) : String :=
  wallet.proof "dpop+jwt" claims.toValue

def dpopProof (laws : LawfulEncodings crates) (claims : DpopClaims) {uri : Url}
    (htu : Text.trimEndMatches '/' claims.htu = Text.trimEndMatches '/' uri.asStr)
    (jtiPresent : claims.jti ≠ "") (jtiBounded : Text.len claims.jti ≤ 256) :
    DpopProof crates (wallet.dpop claims) claims.htm uri (some claims.iat) where
  part0 := crates.urlSafeEncode (crates.valueToVec (proofHeader "dpop+jwt" wallet.jwk))
  part1 := crates.urlSafeEncode (crates.valueToVec claims.toValue)
  header := ⟨"ES256", "dpop+jwt", wallet.jwk⟩
  claims := claims
  key := wallet.key
  now := claims.iat
  signed := (wallet.jws_signed _ _).signedCompact laws.base64
  headerRead := wallet.proof_header laws "dpop+jwt"
  alg := rfl
  typ := rfl
  denotes := wallet.denotes
  claimsRead := by
    rw [laws.base64.readsWritten, Option.bind_some,
      laws.structs.dpopClaims _ claims.toValue_plain, claims.toValue_read]
  htm := rfl
  htu := htu
  jtiPresent := jtiPresent
  jtiBounded := jtiBounded
  clocked := rfl
  notAhead := le_saturatingAdd _ _
  notStale := by rw [saturatingSub_self]; decide

/-! ## Credential proofs -/

def credentialProof (claims : CredentialProofClaims) : String :=
  wallet.proof "openid4vci-proof+jwt" claims.toValue

def holderProof (laws : LawfulEncodings crates) (claims : CredentialProofClaims) {issuer : Url}
    (aud : Text.trimEndMatches '/' claims.aud = Text.trimEndMatches '/' issuer.asStr)
    (noncePresent : claims.nonce ≠ "") (nonceBounded : Text.len claims.nonce ≤ 256) :
    HolderProof crates (wallet.credentialProof claims) issuer (some claims.iat) where
  part0 := crates.urlSafeEncode
    (crates.valueToVec (proofHeader "openid4vci-proof+jwt" wallet.jwk))
  part1 := crates.urlSafeEncode (crates.valueToVec claims.toValue)
  header := ⟨"ES256", "openid4vci-proof+jwt", wallet.jwk⟩
  claims := claims
  key := wallet.key
  now := claims.iat
  signed := (wallet.jws_signed _ _).signedCompact laws.base64
  headerRead := wallet.proof_header laws "openid4vci-proof+jwt"
  alg := rfl
  typ := rfl
  denotes := wallet.denotes
  claimsRead := by
    rw [laws.base64.readsWritten, Option.bind_some,
      laws.structs.credentialProofClaims _ claims.toValue_plain, claims.toValue_read]
  aud := aud
  clocked := rfl
  notAhead := le_saturatingAdd _ _
  notStale := by rw [saturatingSub_self]; decide
  noncePresent := noncePresent
  nonceBounded := nonceBounded

/-! ## Bindings and attestations -/

/-- A proof that binds a PID to a new key, under some protected header. -/
def bindingProof (typ : String) (claims : BindingProofClaims) : String :=
  wallet.proof typ claims.toValue

theorem bindingProof_signed (typ : String) (claims : BindingProofClaims) :
    SignedOctets crates (wallet.bindingProof typ claims) wallet.key
      (crates.valueToVec (proofHeader typ wallet.jwk)) (crates.valueToVec claims.toValue) :=
  wallet.jws_signed _ _

def attestation (claims : EmrtdEvidenceClaims) : String :=
  wallet.proof "emrtd-evidence+jwt" claims.toValue

theorem attestation_signed (laws : LawfulEncodings crates) (claims : EmrtdEvidenceClaims) :
    SignedValue crates (wallet.attestation claims) wallet.key claims.toValue.canonical :=
  (wallet.jws_signed _ _).signedValue laws.base64
    (laws.serde.readsWritten _ claims.toValue_plain)

end Wallet

end VCIssuer.Service
