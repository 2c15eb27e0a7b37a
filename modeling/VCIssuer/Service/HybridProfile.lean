import VCIssuer.Service.HybridIssuing
import VCIssuer.Service.MdocConsistency
import VCIssuer.Service.RelyingParty

/-!
# The published hybrid profile

A hybrid credential carries its keys by name only and nothing of the context that
is signed with it.  Whoever has fetched the profile document, and knows the nonce
of the request, rebuilds the context from the payload and verifies both signatures.
-/

namespace VCIssuer.Service

open VCIssuer.Library
open VCIssuer.Library.Checks
open HybridCodec (HybridPurpose HybridContext)

/-! ## The document -/

section Document

variable (crates : Crates) (state : AppState)

/-- What the profile document says of a signer. -/
def hybridProfileValue (signer : HybridCredentialSigner) (publicKeyEnvelope : Bytes) : Value :=
  .object
    [ ("version", .nat 1),
      ("profile", .string HybridCodec.hybridProfile),
      ("purpose", .string "test-sd-jwt-wrapper-v1"),
      ("credential_format", .string HybridCodec.hybridFormat),
      ("configuration_id", .string hybridPqSdJwt),
      ("acceptance_rule", .string "ES256 valid AND ML-DSA-65 valid"),
      ("logical_key_generation", .nat signer.generation),
      ("classical", .object
        [ ("algorithm", .string "ES256"),
          ("kid", .string (signer.classicalKid crates)),
          ("public_key_sec1", .string (crates.urlSafeEncode signer.classicalPublicKey)) ]),
      ("post_quantum", .object
        [ ("algorithm", .string "ML-DSA-65"),
          ("kid", .string signer.pqKid),
          ("public_key", .string (crates.urlSafeEncode signer.pqPublicKey)) ]),
      ("public_key_envelope", .string (crates.urlSafeEncode publicKeyEnvelope)),
      ("component_envelope_schema", .string "euwallet-pr103-frozen"),
      ("credential_wrapper_schema", .string "HybridCredentialWrapperV1"),
      ("development_only", .bool true),
      ("eudi_conformant", .bool false),
      ("shared_vectors_status", .string "complete-component-and-wrapper-corpora"),
      ("verification_report", .string "docs/hybrid-pq-verification-report.md") ]

/-- The response to `/experimental/hybrid-pq/profile`; a failure is a bare status. -/
def hybridPqProfileDocument : Except StatusCode Value := do
  let signer ← okOr (state.hybridCredentialSigner.filter fun _ => state.hybridPqEnabled) .notFound
  let publicKeyEnvelope ← (HybridCodec.encodePublicKeyEnvelope crates signer.classicalPublicKey
    signer.pqPublicKey).mapError fun _ => .internalServerError
  return hybridProfileValue crates signer publicKeyEnvelope

end Document

/-! ## Reading -/

namespace RelyingParty

/-- The keys of a profile document. -/
structure HybridKeys where
  purpose : HybridPurpose
  generation : UInt64
  classicalKid : String
  pqKid : String
  components : HybridCodec.HybridPublicComponents

/-- What a hybrid credential says. -/
structure HybridStatement where
  issuer : String
  issuedAt : UInt64
  expiresAt : UInt64
  typeName : String
  holder : EcJwk
  claims : List (String × Value)

variable (crates : Crates) (body : Bytes)

/-- The keys of the document, which has each of them in two places. -/
def readProfile : Option HybridKeys := do
  let document ← crates.valueFromSlice body
  let purpose ← (document.get "purpose").bind Value.asStr
  let purpose ← HybridPurpose.tryFrom purpose
  let generation ← (document.get "logical_key_generation").bind Value.asU64
  let classical ← document.get "classical"
  let classicalKid ← (classical.get "kid").bind Value.asStr
  let classicalKey ← (classical.get "public_key_sec1").bind Value.asStr
  let postQuantum ← document.get "post_quantum"
  let pqKid ← (postQuantum.get "kid").bind Value.asStr
  let pqKey ← (postQuantum.get "public_key").bind Value.asStr
  let envelope ← (document.get "public_key_envelope").bind Value.asStr
  let envelope ← crates.urlSafeDecode envelope
  let components ← (HybridCodec.decodePublicKeyEnvelope crates envelope).toOption
  if crates.urlSafeDecode classicalKey = some components.classical ∧
      crates.urlSafeDecode pqKey = some components.postQuantum then
    return { purpose, generation, classicalKid, pqKid, components }
  else none

/-- An instant in a payload. -/
def readInstant (value : CborValue) : Option UInt64 :=
  (MdocReader.asNat value).map UInt64.ofNat

/-- The claim in a disclosure whose digest is in the payload. -/
def readHybridClaim (digests : List Bytes) (disclosure : Bytes) : Option (String × Value) := do
  let item ← crates.cborFromSlice disclosure
  match item with
  | .array [_, .text name, .bytes value] =>
      if crates.sha256 disclosure ∈ digests then
        (crates.valueFromSlice value).map fun value => (name, value)
      else none
  | _ => none

/-- The payload, and the claims of the disclosures that come with it. -/
def readHybridPayload (payload : Bytes) (disclosures : List Bytes) : Option HybridStatement := do
  let content ← crates.cborFromSlice payload
  let fields ← content.asMap
  let issuer ← (MdocReader.labelled fields 1).bind MdocReader.asText
  let issuedAt ← (MdocReader.labelled fields 2).bind readInstant
  let expiresAt ← (MdocReader.labelled fields 3).bind readInstant
  let typeName ← (MdocReader.labelled fields 4).bind MdocReader.asText
  let jwk ← (MdocReader.labelled fields 5).bind CborValue.asBytes
  let holder ← (crates.valueFromSlice jwk).bind EcJwk.ofValue
  let digests ← (MdocReader.labelled fields 6).bind CborValue.asArray
  let claims ← disclosures.mapM (readHybridClaim crates (digests.filterMap CborValue.asBytes))
  return { issuer, issuedAt, expiresAt, typeName, holder, claims }

/-- The context that a statement must have been signed in. -/
def HybridStatement.context (statement : HybridStatement) (generation : UInt64) (nonce : String) :
    HybridContext where
  walletIdentity := Text.asBytes (statement.holder.thumbprint crates)
  issuerIdentity := some (Text.asBytes statement.issuer)
  keyGeneration := generation
  transactionId := some (Text.asBytes nonce)
  sessionId := none
  audience := some (Text.asBytes statement.issuer)
  nonce := crates.sha256 (Text.asBytes nonce)
  createdAtEpochSeconds := statement.issuedAt
  expiresAtEpochSeconds := statement.expiresAt
  transcriptHash := none

/-- The parameters for a statement under the published keys. -/
def HybridKeys.parameters (keys : HybridKeys) (context : HybridContext) :
    HybridCodec.VerificationParameters where
  purpose := keys.purpose
  context := context
  classicalKid := keys.classicalKid
  pqKid := keys.pqKid
  classicalPublicKey := keys.components.classical
  pqPublicKey := keys.components.postQuantum
  generation := keys.generation

/-- What a hybrid credential says, if both signatures verify under the keys of the document. -/
def readHybrid (nonce credential : String) : Option HybridStatement := do
  let keys ← readProfile crates body
  let encoded ← crates.urlSafeDecode credential
  let wrapper ← crates.cborFromSlice (encoded.drop HybridCodec.envelopeMagic.length)
  let fields ← wrapper.asMap
  let payload ← (MdocReader.labelled fields 5).bind CborValue.asBytes
  let disclosures ← (MdocReader.labelled fields 6).bind CborValue.asArray
  let statement ← readHybridPayload crates payload (disclosures.filterMap CborValue.asBytes)
  let parameters := keys.parameters (statement.context crates keys.generation nonce)
  if HybridCodec.verify crates encoded parameters = .ok () then return statement else none

end RelyingParty

/-! ## The document is read as it was written -/

section Published

variable {crates : Crates} {state : AppState} {document : Value} {signer : HybridCredentialSigner}

theorem hybridPqProfileDocument_eq_ok :
    hybridPqProfileDocument crates state = .ok document ↔
      ∃ signer envelope, state.hybridCredentialSigner = some signer ∧
        state.hybridPqEnabled = true ∧
        HybridCodec.encodePublicKeyEnvelope crates signer.classicalPublicKey signer.pqPublicKey =
          .ok envelope ∧
        document = hybridProfileValue crates signer envelope := by
  simp only [hybridPqProfileDocument, okOr_bind_eq_ok, bind_eq_ok (Except.mapError ..),
    mapError_eq_ok, Option.filter_eq_some_iff, pure_eq_ok]
  constructor
  · rintro ⟨signer, ⟨found, enabled⟩, envelope, encoded, rfl⟩
    exact ⟨signer, envelope, found, enabled, encoded, rfl⟩
  · rintro ⟨signer, envelope, found, enabled, encoded, rfl⟩
    exact ⟨signer, ⟨found, enabled⟩, envelope, encoded, rfl⟩

/-- The keys that the document of a signer stands for. -/
def HybridCredentialSigner.published (crates : Crates) (signer : HybridCredentialSigner) :
    RelyingParty.HybridKeys where
  purpose := .testSdJwtWrapperV1
  generation := signer.generation
  classicalKid := signer.classicalKid crates
  pqKid := signer.pqKid
  components := ⟨signer.classicalPublicKey, signer.pqPublicKey⟩

/-- An object of three texts. -/
theorem threeTexts_plain {depth : Nat} {name second third text other last : String}
    (distinct : [name, second, third].Nodup) :
    PlainJson (depth + 1)
      (.object [(name, .string text), (second, .string other), (third, .string last)]) := by
  refine .object distinct fun member found => ?_
  simp only [List.mem_cons, List.not_mem_nil, or_false] at found
  rcases found with rfl | rfl | rfl <;> exact .string

theorem hybridProfileValue_plain (envelope : Bytes) :
    PlainJson jsonDepth (hybridProfileValue crates signer envelope) := by
  refine .object (by simp) fun member found => ?_
  simp only [List.mem_cons, List.not_mem_nil, or_false] at found
  rcases found with rfl | rfl | rfl | rfl | rfl | rfl | rfl | rfl | rfl | rfl | rfl | rfl | rfl |
    rfl | rfl | rfl <;>
    first | exact .string | exact .natural | exact .bool | exact threeTexts_plain (by decide)

theorem readProfile_document (serde : SerdeJsonLaws crates) (base64 : Base64Laws crates)
    (ciborium : CiboriumLaws crates) {envelope : Bytes}
    (encoded : HybridCodec.encodePublicKeyEnvelope crates signer.classicalPublicKey
      signer.pqPublicKey = .ok envelope) :
    RelyingParty.readProfile crates (crates.valueToVec (hybridProfileValue crates signer envelope)) =
      some (signer.published crates) := by
  have plain := @hybridProfileValue_plain crates signer envelope
  have decoded : HybridCodec.decodePublicKeyEnvelope crates envelope =
      .ok ⟨signer.classicalPublicKey, signer.pqPublicKey⟩ := by
    obtain ⟨good, small, body, wrote, whole⟩ :=
      (HybridCodec.encodePublicKeyEnvelope_eq_ok ..).mp encoded
    have read := (HybridCodec.readCanonical_plain ciborium
      (HybridCodec.publicKeyFields_plain ..) body).mpr wrote
    exact (HybridCodec.decodePublicKeyEnvelope_eq_ok ..).mpr ⟨good, small, body, read, whole⟩
  have member : ∀ name, (hybridProfileValue crates signer envelope).canonical.get name =
      ((hybridProfileValue crates signer envelope).get name).map Value.canonical :=
    plain.get_canonical
  have classical : ∀ name, (Value.canonical (.object
      [ ("algorithm", .string "ES256"), ("kid", .string (signer.classicalKid crates)),
        ("public_key_sec1", .string (crates.urlSafeEncode signer.classicalPublicKey)) ])).get name =
      _ := (@threeTexts_plain 0 _ _ _ _ _ _ (by decide)).get_canonical
  have postQuantum : ∀ name, (Value.canonical (.object
      [ ("algorithm", .string "ML-DSA-65"), ("kid", .string signer.pqKid),
        ("public_key", .string (crates.urlSafeEncode signer.pqPublicKey)) ])).get name =
      _ := (@threeTexts_plain 0 _ _ _ _ _ _ (by decide)).get_canonical
  refine bind_of_eq_some _ (serde.readsWritten _ plain) ?_
  refine bind_of_eq_some "test-sd-jwt-wrapper-v1" (by rw [member]; rfl)
    (bind_of_eq_some .testSdJwtWrapperV1 rfl ?_)
  refine bind_of_eq_some signer.generation (by rw [member]; rfl) ?_
  refine bind_of_eq_some _ (by rw [member]; rfl) (bind_of_eq_some (signer.classicalKid crates)
    (by rw [classical]; rfl) (bind_of_eq_some (crates.urlSafeEncode signer.classicalPublicKey)
      (by rw [classical]; rfl) ?_))
  refine bind_of_eq_some _ (by rw [member]; rfl) (bind_of_eq_some signer.pqKid
    (by rw [postQuantum]; rfl) (bind_of_eq_some (crates.urlSafeEncode signer.pqPublicKey)
      (by rw [postQuantum]; rfl) ?_))
  refine bind_of_eq_some (crates.urlSafeEncode envelope) (by rw [member]; rfl)
    (bind_of_eq_some _ (base64.readsWritten _) ?_)
  refine bind_of_eq_some _ (toOption_eq_some.mpr decoded) ?_
  exact if_pos ⟨base64.readsWritten _, base64.readsWritten _⟩

end Published

/-! ## What a credential says -/

section Credentials

variable {crates : Crates} {host : Host} {state : AppState} {signer : HybridCredentialSigner}
  {issuer : Url} {holder : EcJwk} {nonce : String} {now : UInt64}

theorem readInstant_nat (instant : UInt64) :
    RelyingParty.readInstant (.integer instant.toNat) = some instant := by
  simp [RelyingParty.readInstant, MdocReader.asNat]

/-- Every disclosure is read as the claim that it was written for. -/
theorem readHybridClaims_written (serde : SerdeJsonLaws crates) (ciborium : CiboriumLaws crates)
    {salt : Nat → Bytes} {index : Nat} {claims : List (String × Value)} {disclosures : List Bytes}
    {digests : List Bytes} (plain : ∀ claim ∈ claims, PlainJson jsonDepth claim.2)
    (disclosed : List.Forall₂ (fun item encoded => crates.cborToVec item = some encoded)
      (disclosureItems crates salt index claims) disclosures)
    (committed : ∀ encoded ∈ disclosures, crates.sha256 encoded ∈ digests) :
    disclosures.mapM (RelyingParty.readHybridClaim crates digests) =
      some (claims.map fun claim => (claim.1, claim.2.canonical)) := by
  refine mapM_eq_some_iff_forall₂.mpr ?_
  induction claims generalizing index disclosures with
  | nil =>
      cases disclosed
      exact .nil
  | cons claim claims carried =>
      obtain ⟨here, there⟩ := List.forall_mem_cons.mp plain
      cases disclosed with
      | cons wrote rest =>
          obtain ⟨listed, others⟩ := List.forall_mem_cons.mp committed
          refine .cons ?_ (carried there rest others)
          refine bind_of_eq_some _ (ciborium.fromSlice (hybridDisclosure_plain ..) wrote) ?_
          simp only [hybridDisclosure, if_pos listed, serde.readsWritten _ here, Option.map_some]

theorem readHybridPayload_written (serde : SerdeJsonLaws crates) (ciborium : CiboriumLaws crates)
    (kty : holder.kty = "EC") (crv : holder.crv = "P-256") {disclosures : List Bytes}
    {payload : Bytes}
    (disclosed : List.Forall₂ (fun item encoded => crates.cborToVec item = some encoded)
      (disclosureItems crates (host.salt .disclosure) 0 hybridClaims) disclosures)
    (wrote : crates.cborToVec (hybridPayload crates issuer holder.toValue now disclosures) =
      some payload) :
    RelyingParty.readHybridPayload crates payload disclosures = some
      { issuer := issuer.origin
        issuedAt := now
        expiresAt := saturatingAdd now 3600
        typeName := "dev.advatar.hybrid-pq.credential.v1"
        holder := holder
        claims := hybridClaims } := by
  have plain : ∀ claim ∈ hybridClaims, PlainJson jsonDepth claim.2 := by
    simp only [hybridClaims, List.forall_mem_cons, List.not_mem_nil, false_imp_iff, implies_true,
      and_true]
    exact ⟨.string, .string, .string⟩
  have digests : ∀ encoded ∈ disclosures, crates.sha256 encoded ∈
      (disclosures.map fun encoded => CborValue.bytes (crates.sha256 encoded)).filterMap
        CborValue.asBytes :=
    fun encoded member => List.mem_filterMap.mpr ⟨_, List.mem_map_of_mem member, rfl⟩
  have claims := readHybridClaims_written serde ciborium plain disclosed digests
  have jwk : (crates.valueFromSlice (crates.valueToVec holder.toValue)).bind EcJwk.ofValue =
      some holder := by
    rw [serde.readsWritten _ (holder.toValue_plain _)]
    exact EcJwk.ofValue_canonical kty crv
  refine bind_of_eq_some _ (ciborium.fromSlice (hybridPayload_plain disclosures) wrote)
    (bind_of_eq_some _ rfl (bind_of_eq_some issuer.origin rfl ?_))
  refine bind_of_eq_some now (readInstant_nat now) (bind_of_eq_some _ (readInstant_nat _) ?_)
  refine bind_of_eq_some "dev.advatar.hybrid-pq.credential.v1" rfl (bind_of_eq_some _ rfl
    (bind_of_eq_some _ jwk (bind_of_eq_some _ rfl (bind_of_eq_some _ claims rfl))))

/-- Whoever has the document and the nonce reads what was issued. -/
theorem readHybrid_issued (laws : LawfulPid crates host) (ciborium : CiboriumLaws crates)
    (consistent : signer.ConsistentKey crates host) (kty : holder.kty = "EC")
    (crv : holder.crv = "P-256") {body envelope : Bytes}
    (document : RelyingParty.readProfile crates body = some (signer.published crates))
    (issued : issueHybridCredential crates host signer issuer holder.toValue
      (holder.thumbprint crates) nonce now = .ok envelope) :
    RelyingParty.readHybrid crates body nonce (crates.urlSafeEncode envelope) = some
      { issuer := issuer.origin
        issuedAt := now
        expiresAt := saturatingAdd now 3600
        typeName := "dev.advatar.hybrid-pq.credential.v1"
        holder := holder
        claims := hybridClaims } := by
  obtain ⟨disclosures, payload, disclosed, paid, signed⟩ := issueHybridCredential_eq_ok.mp issued
  obtain ⟨_, classical, postQuantum, _, made⟩ :=
    (HybridCredentialSigner.signEnvelope_eq_ok _ _).mp signed
  have verified := made.verifies ciborium laws.es256 consistent rfl
  obtain ⟨_, _, written, wrote, rfl⟩ := (HybridCodec.encode_eq_ok ..).mp made.wrapped
  have wrapper := ciborium.fromSlice (HybridCodec.wrapper_plain _ _) wrote
  have statement := readHybridPayload_written laws.serde ciborium kty crv disclosed paid
  refine bind_of_eq_some _ document (bind_of_eq_some _ (laws.base64.readsWritten _) ?_)
  rw [List.drop_left]
  refine bind_of_eq_some _ wrapper (bind_of_eq_some _ rfl (bind_of_eq_some payload rfl
    (bind_of_eq_some (disclosures.map .bytes) rfl ?_)))
  have listed : (disclosures.map CborValue.bytes).filterMap CborValue.asBytes = disclosures :=
    (List.filterMap_map ..).trans (List.filterMap_some ..)
  rw [listed]
  refine bind_of_eq_some _ statement ?_
  have context : RelyingParty.HybridStatement.context crates
      { issuer := issuer.origin
        issuedAt := now
        expiresAt := saturatingAdd now 3600
        typeName := "dev.advatar.hybrid-pq.credential.v1"
        holder := holder
        claims := hybridClaims } signer.generation nonce =
      hybridContext crates signer issuer (holder.thumbprint crates) nonce now := by
    simp only [RelyingParty.HybridStatement.context, hybridContext]
  have accepted : HybridCodec.verify crates (HybridCodec.envelopeMagic ++ written)
      ((signer.published crates).parameters
        (hybridContext crates signer issuer (holder.thumbprint crates) nonce now)) = .ok () :=
    verified
  exact if_pos (context ▸ accepted)

/-- What is decided for the holder of a proof is read with the document, under the nonce of that
proof, and handed out in the format that the document gives. -/
theorem Encoded.readHybrid {decision : Decision} {response : CredentialResponse} {compact : String}
    {clock : ClockReading} {proof : HolderProof crates compact state.issuer clock}
    {document : Value} (laws : LawfulPid crates host) (ciborium : CiboriumLaws crates)
    (encoded : Encoded crates state host decision response)
    (proved : decision.proof = proof.verified) (named : decision.configurationId = hybridPqSdJwt)
    (consistent : ∀ signer, state.hybridCredentialSigner = some signer →
      signer.ConsistentKey crates host)
    (published : hybridPqProfileDocument crates state = .ok document) :
    response.format = some HybridCodec.hybridFormat ∧
      RelyingParty.readHybrid crates (crates.valueToVec document) proof.claims.nonce
        response.credential = some
          { issuer := state.issuer.origin
            issuedAt := decision.now
            expiresAt := saturatingAdd decision.now 3600
            typeName := "dev.advatar.hybrid-pq.credential.v1"
            holder := proof.header.jwk
            claims := hybridClaims } := by
  obtain ⟨signer, _, configured, _, keys, rfl⟩ := hybridPqProfileDocument_eq_ok.mp published
  have read := readProfile_document laws.serde laws.base64 ciborium keys
  have denotes := proof.denotes
  cases encoded with
  | hybrid _ found _ issued =>
      cases configured.symm.trans found
      rw [proved] at issued
      exact ⟨rfl, readHybrid_issued laws ciborium (consistent signer configured) denotes.kty
        denotes.crv read issued⟩
  | sdJwt listed => exact absurd (named ▸ listed) (by decide)
  | mdoc listed => exact absurd (named ▸ listed) (by decide)
  | mandate mandate => exact absurd (named.symm.trans mandate) (by decide)

end Credentials

/-! ## In every run -/

section Runs

variable {crates : Crates} {state : AppState} {store : StringMap RegisteredInstance}
  {earlier later : List DeploymentEvent} {d : Deployment} {event : Event} {headers : HeaderMap}
  {request : CredentialRequest} {response : CredentialResponse} {document : Value}

/-- Whoever has fetched the profile document, at any time, and knows the nonce of the proof in a
request reads from the hybrid credential that answers it exactly what the service decided: both
signatures verify under the published keys, for the holder of that proof and that instant. -/
theorem hybrid_credential_read (laws : LawfulPid crates event.env.host)
    (ciborium : CiboriumLaws crates)
    (run : (deployment crates state).Execution (.initial store)
      (earlier ++ .served event :: later) d)
    (origin : event.origin = .arrived (.credential headers request))
    (reply : event.reply = .ok (.finished (.credential response)))
    (named : request.credentialConfigurationId = hybridPqSdJwt)
    (consistent : ∀ signer, state.hybridCredentialSigner = some signer →
      signer.ConsistentKey crates event.env.host)
    (published : hybridPqProfileDocument crates state = .ok document) :
    ∃ compact, ∃ holder : HolderProof crates compact state.issuer event.env.proofClock, ∃ now,
      request.proofs = [compact] ∧ event.env.clock = some now ∧
      RelyingParty.readHybrid crates (crates.valueToVec document) holder.claims.nonce
        response.credential = some
          { issuer := state.issuer.origin
            issuedAt := now
            expiresAt := saturatingAdd now 3600
            typeName := "dev.advatar.hybrid-pq.credential.v1"
            holder := holder.header.jwk
            claims := hybridClaims } := by
  obtain ⟨_, _, _, _, took, _⟩ := deployment_at_event run
  obtain ⟨grant, encoded, _⟩ := took.credentialGrant origin reply
  obtain ⟨_, read⟩ := (encodeCredential_eq_ok.mp encoded).readHybrid laws ciborium
    rfl named consistent published
  exact ⟨grant.compact, grant.holder, grant.now, grant.proofs, grant.clocked, read⟩

/-! ### A hybrid issuer -/

def hybridState : AppState :=
  { referenceState with
    hybridPqEnabled := true
    hybridCredentialSigner := some HybridCredentialSigner.referenceSigner }

def hybridClient : Client reference hybridState where
  wallet := Reference.wallet Reference.onCurve₂
  clientId := "wallet-dev"
  redirectUri := ⟨"eudi-wallet://authorize"⟩
  scope := hybridPqSdJwt
  codeVerifier := "dBjftJeZ4CVP-mB92K27uhbUJU1p1r_wW1gFWFOEjXk"
  tokenEndpoint := ⟨"https://issuer.example/token"⟩
  credentialEndpoint := ⟨"https://issuer.example/credential"⟩
  tokenJoined := by decide
  credentialJoined := by decide

theorem hybridState_configured : Configured hybridState where
  named := reference_configured.named
  signers := reference_configured.signers
  hybrid _ := ⟨_, rfl, ⟨by decide, ⟨by decide, by decide⟩⟩⟩

theorem hybridState_portsSign :
    PortsSign reference hybridState HybridCredentialSigner.storingHost where
  answers := ⟨reference_answers.certificate, reference_answers.salts⟩
  credentials := reference_portsSign.credentials
  hybrid signer found := by
    cases found
    refine ⟨reference_portsSign.credentials pidSdJwt _ rfl, HybridCredentialSigner.referenceStored,
      (HybridCredentialSigner.currentKey_eq_ok _).mpr ⟨rfl, rfl, rfl, rfl⟩, fun message => ?_⟩
    have length : HybridCredentialSigner.referencePqKey.length = PqBackend.publicKeyBytes :=
      List.length_replicate
    exact ⟨_, if_pos (Reference.pqSecretKey_length length), Reference.idealPqSignature_length _ _⟩

theorem hybridState_published :
    ∃ document, hybridPqProfileDocument reference hybridState = .ok document := by
  let keys := HybridCodec.publicKeyFields HybridCredentialSigner.referenceSigner.classicalPublicKey
    HybridCredentialSigner.referenceSigner.pqPublicKey
  have small : Cbor.size (.map keys) ≤ 8000 := by decide +kernel
  obtain ⟨body, wrote, length⟩ := reference_encoders.writes.writes (.map keys)
    (HybridCodec.publicKeyFields_plain ..) (small.trans_lt (by decide))
  have magic : HybridCodec.envelopeMagic.length ≤ 100 := by decide
  have limit : HybridCodec.maxComponentEnvelopeBytes = 8192 := rfl
  have good : ¬ HybridCodec.badPublicKeys
      HybridCredentialSigner.referenceSigner.classicalPublicKey
      HybridCredentialSigner.referenceSigner.pqPublicKey := by decide +kernel
  have encoded := (HybridCodec.encodePublicKeyEnvelope_eq_ok ..).mpr
    ⟨good, by rw [List.length_append]; omega, body, wrote, rfl⟩
  exact ⟨_, hybridPqProfileDocument_eq_ok.mpr ⟨_, _, rfl, rfl, encoded, rfl⟩⟩

theorem storing_lawfulPid : LawfulPid reference HybridCredentialSigner.storingHost :=
  ⟨reference_base64, reference_serdeJson, reference_sec1, HybridCredentialSigner.storing_es256⟩

theorem hybridState_consistent : ∀ signer, hybridState.hybridCredentialSigner = some signer →
    signer.ConsistentKey reference HybridCredentialSigner.storingHost := by
  rintro _ ⟨⟩
  exact HybridCredentialSigner.storing_consistent

/-- After a restart the client obtains a hybrid credential. -/
theorem hybridClient_served :
    ∃ earlier event d headers request response,
      (deployment reference hybridState).Execution (.initial ∅)
        (.restarted :: earlier ++ [.served event]) d ∧
      event.env.host = HybridCredentialSigner.storingHost ∧
      event.origin = .arrived (.credential headers request) ∧
      event.reply = .ok (.finished (.credential response)) ∧
      request.credentialConfigurationId = hybridPqSdJwt := by
  have fits : committedLength reference HybridCredentialSigner.storingHost hybridState.issuer
      hybridClient.wallet.jwk.toValue 1030 ≤ HybridCodec.maxFieldBytes := by decide +kernel
  exact client_served hybridClient hybridState_configured hybridState_portsSign
    (by decide : hybridPqSdJwt ∈ profilesWithoutEvidence) (by decide +kernel) (by decide +kernel)
    fun _ => fits

theorem hybrid_credential_read_reference :
    ∃ (earlier : List DeploymentEvent) (event : Event) (d : Deployment) (headers : HeaderMap)
      (request : CredentialRequest) (response : CredentialResponse) (document : Value)
      (nonce : String) (statement : RelyingParty.HybridStatement),
      (deployment reference hybridState).Execution (.initial ∅)
        (.restarted :: earlier ++ [.served event]) d ∧
      event.origin = .arrived (.credential headers request) ∧
      event.reply = .ok (.finished (.credential response)) ∧
      request.credentialConfigurationId = hybridPqSdJwt ∧
      hybridPqProfileDocument reference hybridState = .ok document ∧
      RelyingParty.readHybrid reference (reference.valueToVec document) nonce
        response.credential = some statement ∧
      statement.claims = hybridClaims := by
  obtain ⟨earlier, event, d, headers, request, response, run, host, origin, reply, named⟩ :=
    hybridClient_served
  obtain ⟨document, published⟩ := hybridState_published
  have laws : LawfulPid reference event.env.host := host ▸ storing_lawfulPid
  have consistent : ∀ signer, hybridState.hybridCredentialSigner = some signer →
      signer.ConsistentKey reference event.env.host := host ▸ hybridState_consistent
  obtain ⟨_, _, _, _, _, read⟩ := hybrid_credential_read laws reference_ciborium run origin reply
    named consistent published
  exact ⟨earlier, event, d, headers, request, response, document, _, _, run, origin, reply, named,
    published, read, rfl⟩

end Runs

end VCIssuer.Service
