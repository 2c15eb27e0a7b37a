import VCIssuer.Service.HybridProfile
import VCIssuer.Service.IssuerIdentifier

/-!
# What the issuer announces

The metadata of the issuer name, for every configuration, the format and the type
of its credentials.  They are read from the signed form, with the published keys,
and compared with the type that is read, once the signatures verify, from what the
credential endpoint hands out.
-/

namespace VCIssuer.Service

open VCIssuer.Library
open VCIssuer.Kernel (mandateVct powerTaxonomy)

/-! ## Reading -/

namespace RelyingParty

variable (crates : Crates) (keys body : Bytes)

/-- The metadata that are signed in the body of a metadata response. -/
def readMetadata : Option Value := do
  let metadata ← crates.valueFromSlice body
  let compact ← (metadata.get "signed_metadata").bind Value.asStr
  readJws crates keys "openidvci-issuer-metadata+jwt" compact

/-- The format and the type that metadata announce for a configuration. -/
def announced (metadata : Value) (configurationId : String) : Option (String × String) := do
  let configurations ← metadata.get "credential_configurations_supported"
  let profile ← configurations.get configurationId
  let format ← (profile.get "format").bind Value.asStr
  let typeName ← (profile.get (if format = "mso_mdoc" then "doctype" else "vct")).bind Value.asStr
  return (format, typeName)

/-- Whether a published key of this name verifies an ES256 signature. -/
def verifiesUnder (kid : String) (message signature : Bytes) : Bool :=
  (keysNamed crates keys kid).any fun jwk =>
    ((verifyingKeyAndJwk crates jwk "invalid_key").toOption.bind fun (key, _) =>
      (crates.signatureFromSlice signature).map (crates.verifyEs256 key message)).getD false

/-- The name of the signing key in a protected header for ES256. -/
def coseKid (protectedBytes : Bytes) : Option String := do
  let header ← crates.cborFromSlice protectedBytes
  let fields ← header.asMap
  let algorithm ← (MdocReader.labelled fields 1).bind MdocReader.asInt
  let kid ← (MdocReader.labelled fields 4).bind CborValue.asBytes
  if algorithm = -7 then Text.ofBytes kid else none

/-- The document type in the payload of an mdoc. -/
def docTypeIn (payload : Bytes) : Option String := do
  let wrapped ← crates.cborFromSlice payload
  let content ← MdocReader.embedded wrapped
  let mso ← crates.cborFromSlice content
  (MdocReader.field mso "docType").bind MdocReader.asText

/-- The document type of an mdoc, if the published key that it names has signed it. -/
def mdocType (credential : String) : Option String := do
  let encoded ← crates.urlSafeDecode credential
  let value ← crates.cborFromSlice encoded
  let issuerAuth ← (MdocReader.field value "issuerAuth").bind readIssuerAuth
  let kid ← coseKid crates issuerAuth.protectedBytes
  let covered ← crates.cborToVec (sigStructure issuerAuth.protectedBytes issuerAuth.payload)
  if verifiesUnder crates keys kid covered issuerAuth.signature then
    docTypeIn crates issuerAuth.payload
  else none

/-- The type of an SD-JWT, if a published key that it names has signed it. -/
def sdJwtType (credential : String) : Option String :=
  ((readJws crates keys "dc+sd-jwt" (issuerJwtOf credential)).bind (·.get "vct")).bind Value.asStr

/-- The type of a credential in this format, if its signatures verify: under the published keys, or
both of them under those of the profile document. -/
def readType (profile : Bytes) (nonce format credential : String) : Option String :=
  if format = "mso_mdoc" then mdocType crates keys credential
  else if format = HybridCodec.hybridFormat then
    (readHybrid crates profile nonce credential).map (·.typeName)
  else if format = "dc+sd-jwt" then sdJwtType crates keys credential
  else none

end RelyingParty

/-! ## The metadata as an object -/

section Profiles

variable (shake256 : Bytes → Bytes) {configurationId typeName name : String}

/-- The members of a credential profile. -/
def profileNames : List String :=
  [ "format", "scope", "vct", "doctype", "cryptographic_binding_methods_supported",
    "credential_signing_alg_values_supported", "proof_types_supported", "display" ]

theorem es256Proofs_plain : PlainJson 13 es256Proofs := by
  refine .object (by simp) fun member only => ?_
  cases List.mem_singleton.mp only
  refine .object (by simp) fun member only => ?_
  cases List.mem_singleton.mp only
  exact .array fun item only => List.mem_singleton.mp only ▸ .string

theorem display_plain (name locale : String) :
    PlainJson 13 (.array [.object [("name", .string name), ("locale", .string locale)]]) := by
  refine .array fun item only => ?_
  cases List.mem_singleton.mp only
  refine .object (by simp) fun member found => ?_
  simp only [List.mem_cons, List.not_mem_nil, or_false] at found
  rcases found with rfl | rfl <;> exact .string

theorem strings_plain {depth : Nat} (texts : List String) :
    PlainJson (depth + 1) (.array (texts.map .string)) := by
  refine .array fun item among => ?_
  obtain ⟨_, _, rfl⟩ := List.mem_map.mp among
  exact .string

theorem insertSchemaId_object {depth : Nat} {names : List String} {profile : Value}
    (object : PlainObject depth names profile) (unnamed : "activechain_schema_id_v1" ∉ names) :
    PlainObject depth ("activechain_schema_id_v1" :: names)
      (insertSchemaId shake256 configurationId profile) := by
  unfold insertSchemaId
  split
  · exact object.insert unnamed .string
  · exact object.mono (List.subset_cons_self _ _)

theorem credentialProfile_object {format typeMember bindingMethod : String}
    (typed : typeMember = "vct" ∨ typeMember = "doctype") :
    PlainObject 13 ("activechain_schema_id_v1" :: profileNames)
      (credentialProfile shake256 format typeMember bindingMethod configurationId typeName name) := by
  refine insertSchemaId_object shake256 ⟨_, rfl, ?_, ?_⟩ (by decide)
  · rcases typed with rfl | rfl <;> simp
  · intro member found
    simp only [List.mem_cons, List.not_mem_nil, or_false] at found
    rcases found with rfl | rfl | rfl | rfl | rfl | rfl | rfl
    · exact ⟨by simp [profileNames], .string⟩
    · exact ⟨by simp [profileNames], .string⟩
    · exact ⟨by rcases typed with rfl | rfl <;> simp [profileNames], .string⟩
    · exact ⟨by simp [profileNames], strings_plain [_]⟩
    · exact ⟨by simp [profileNames], strings_plain [_]⟩
    · exact ⟨by simp [profileNames], es256Proofs_plain⟩
    · exact ⟨by simp [profileNames], display_plain _ _⟩

theorem sdJwtProfile_object : PlainObject 13 ("activechain_schema_id_v1" :: profileNames)
    (sdJwtProfile shake256 configurationId typeName name) :=
  credentialProfile_object shake256 (.inl rfl)

theorem mdocProfile_object : PlainObject 13 ("activechain_schema_id_v1" :: profileNames)
    (mdocProfile shake256 configurationId typeName name) :=
  credentialProfile_object shake256 (.inr rfl)

theorem requiredPidBinding_plain : PlainJson 13 requiredPidBinding := by
  refine .object (by simp) fun member found => ?_
  simp only [List.mem_cons, List.not_mem_nil, or_false] at found
  rcases found with rfl | rfl | rfl | rfl
  · exact .bool
  · exact .string
  · exact .string
  · exact strings_plain ["ES256"]

theorem chipAssurance_plain : PlainJson 13 chipAssurance := by
  refine .object (by simp) fun member found => ?_
  simp only [List.mem_cons, List.not_mem_nil, or_false] at found
  rcases found with rfl | rfl | rfl | rfl | rfl <;> first | exact .string | exact .bool

section Members

variable {profile binding scopes : Value}
  (object : PlainObject 13 ("activechain_schema_id_v1" :: profileNames) profile)

include object

theorem assured_plain :
    PlainJson 14 (developmentOnly (profile.insert "identity_assurance" chipAssurance)) := by
  have assurance : "identity_assurance" ∉ "activechain_schema_id_v1" :: profileNames := by
    decide +kernel
  have development : "development_only" ∉
      "identity_assurance" :: "activechain_schema_id_v1" :: profileNames := by decide +kernel
  have conformant : "eudi_conformant" ∉
      "development_only" :: "identity_assurance" :: "activechain_schema_id_v1" :: profileNames := by
    decide +kernel
  exact (((object.insert assurance chipAssurance_plain).insert development .bool).insert conformant
    .bool).plain

theorem bound_object (plain : PlainJson 13 binding) :
    PlainObject 13 ("pid_binding" :: "activechain_schema_id_v1" :: profileNames)
      (profile.insert "pid_binding" binding) := by
  have unbound : "pid_binding" ∉ "activechain_schema_id_v1" :: profileNames := by decide +kernel
  exact object.insert unbound plain

theorem scoped_plain (plain : PlainJson 13 binding) (scopesPlain : PlainJson 13 scopes) :
    PlainJson 14 (developmentOnly ((profile.insert "pid_binding" binding).insert
      "mandate_scopes_supported" scopes)) := by
  have unscoped : "mandate_scopes_supported" ∉
      "pid_binding" :: "activechain_schema_id_v1" :: profileNames := by decide +kernel
  have development : "development_only" ∉ "mandate_scopes_supported" :: "pid_binding" ::
      "activechain_schema_id_v1" :: profileNames := by decide +kernel
  have conformant : "eudi_conformant" ∉ "development_only" :: "mandate_scopes_supported" ::
      "pid_binding" :: "activechain_schema_id_v1" :: profileNames := by decide +kernel
  exact ((((bound_object object plain).insert unscoped scopesPlain).insert development .bool).insert
    conformant .bool).plain

theorem certified_plain (endpoint : String) :
    PlainJson 14 (profile.insert "credential_signing_certificate_endpoint" (.string endpoint)) := by
  have uncertified : "credential_signing_certificate_endpoint" ∉
      "activechain_schema_id_v1" :: profileNames := by decide +kernel
  exact (object.insert uncertified .string).plain

end Members

theorem hybridMetadataProfile_plain (issuer : String) :
    PlainJson 14 (hybridMetadataProfile issuer) := by
  refine .object (by simp) fun member found => ?_
  simp only [List.mem_cons, List.not_mem_nil, or_false] at found
  rcases found with rfl | rfl | rfl | rfl | rfl | rfl | rfl | rfl | rfl | rfl | rfl | rfl
  all_goals first
    | exact .string
    | exact .bool
    | exact strings_plain [_]
    | exact es256Proofs_plain
    | exact display_plain _ _

/-- Every configuration has plain metadata of its own. -/
theorem configurationsSupported_plain (issuer : String) (hybridPqEnabled : Bool) :
    ((configurationsSupported shake256 issuer hybridPqEnabled).map Prod.fst).Nodup ∧
      ∀ entry ∈ configurationsSupported shake256 issuer hybridPqEnabled, PlainJson 14 entry.2 := by
  constructor
  · have distinct : ([pidSdJwt, pidFromEmrtdSdJwt, pidFromEmrtdMdoc, pidMdoc, eaaMdoc, qeaaSdJwt,
        qeaaPidBoundSdJwt, devSvipePidSdJwt, tlsnEvidenceSdJwt, mandateSdJwt,
        hybridPqSdJwt]).Nodup := by decide +kernel
    cases hybridPqEnabled
    · exact distinct.sublist (List.sublist_append_left _ [hybridPqSdJwt])
    · exact distinct
  · have sdJwt := fun id vct name => @sdJwtProfile_object shake256 id vct name
    have mdoc := fun id docType name => @mdocProfile_object shake256 id docType name
    have unbound : PlainJson 13 (.object [("required", .bool false)]) := by
      refine .object (by simp) fun member only => ?_
      cases List.mem_singleton.mp only
      exact .bool
    have scopes : PlainJson 13 (.array (powerTaxonomy.map fun entry => .string entry.2)) := by
      refine .array fun item among => ?_
      obtain ⟨_, _, rfl⟩ := List.mem_map.mp among
      exact .string
    simp only [configurationsSupported, List.forall_mem_append, List.forall_mem_cons,
      List.not_mem_nil, false_imp_iff, implies_true, and_true]
    refine ⟨⟨(sdJwt _ _ _).plain, assured_plain (sdJwt _ _ _), assured_plain (mdoc _ _ _),
      (mdoc _ _ _).plain, (mdoc _ _ _).plain, (bound_object (sdJwt _ _ _) unbound).plain,
      (bound_object (sdJwt _ _ _) requiredPidBinding_plain).plain, (sdJwt _ _ _).plain,
      certified_plain (sdJwt _ _ _) _, scoped_plain (sdJwt _ _ _) requiredPidBinding_plain scopes⟩,
      fun entry found => ?_⟩
    split at found
    case isTrue =>
      cases List.mem_singleton.mp found
      exact hybridMetadataProfile_plain issuer
    case isFalse => cases found

def metadataNames : List String :=
  [ "credential_issuer", "authorization_servers", "credential_endpoint", "nonce_endpoint",
    "batch_credential_issuance", "credential_configurations_supported" ]

variable {state : AppState}

theorem issuerMetadataValue_object :
    PlainObject 15 metadataNames (issuerMetadataValue shake256 state) := by
  obtain ⟨distinct, each⟩ := configurationsSupported_plain shake256 state.issuer.origin
    state.hybridPqEnabled
  refine ⟨_, rfl, by simp, fun member found => ?_⟩
  simp only [List.mem_cons, List.not_mem_nil, or_false] at found
  rcases found with rfl | rfl | rfl | rfl | rfl | rfl
  · exact ⟨by simp [metadataNames], .string⟩
  · exact ⟨by simp [metadataNames], strings_plain [_]⟩
  · exact ⟨by simp [metadataNames], .string⟩
  · exact ⟨by simp [metadataNames], .string⟩
  · refine ⟨by simp [metadataNames], .object (by simp) fun member only => ?_⟩
    cases List.mem_singleton.mp only
    exact .natural
  · exact ⟨by simp [metadataNames], .object distinct each⟩

theorem metadataClaims_object (now : UInt64) :
    PlainObject 15 ("iat" :: "sub" :: "iss" :: metadataNames)
      (metadataClaims shake256 state now) := by
  have unissued : "iss" ∉ metadataNames := by decide +kernel
  have subjectless : "sub" ∉ "iss" :: metadataNames := by decide +kernel
  have undated : "iat" ∉ "sub" :: "iss" :: metadataNames := by decide +kernel
  exact (((issuerMetadataValue_object shake256).insert unissued .string).insert subjectless
    .string).insert undated .natural

end Profiles

/-! ## The signed form -/

section Signed

variable {crates : Crates} {shake256 : Bytes → Bytes} {host : Host} {state : AppState}
  {metadataSigner : KeychainSigner} {clock : ClockReading} {metadata : Value}

theorem issuerMetadata_eq_insert
    (published : issuerMetadata shake256 crates host state metadataSigner clock = .ok metadata) :
    ∃ now signature, clock = some now ∧
      host.signEs256 metadataSigner (signingInput
        (crates.urlSafeEncode (crates.valueToVec
          (typedHeader crates metadataSigner "openidvci-issuer-metadata+jwt")))
        (crates.urlSafeEncode (crates.valueToVec (metadataClaims shake256 state now)))) =
          some signature ∧
      metadata = (issuerMetadataValue shake256 state).insert "signed_metadata" (.string
        (compactJws crates (crates.valueToVec
          (typedHeader crates metadataSigner "openidvci-issuer-metadata+jwt"))
          (crates.valueToVec (metadataClaims shake256 state now)) signature)) := by
  simp only [issuerMetadata, Checks.bind_eq_ok (unixTime _), unixTime_eq_ok,
    Checks.okOr_bind_eq_ok, Checks.pure_eq_ok] at published
  obtain ⟨now, clocked, signature, signed, rfl⟩ := published
  exact ⟨now, signature, clocked, signed, rfl⟩

/-- Whoever has the published keys finds in the metadata response, signed with one of them, the
members of the response themselves, beside who has signed them and when. -/
theorem signed_metadata_read (laws : LawfulPid crates host)
    (published : issuerMetadata shake256 crates host state metadataSigner clock = .ok metadata) :
    ∃ now, clock = some now ∧
      RelyingParty.readMetadata crates (crates.valueToVec (jwks crates state metadataSigner))
        (crates.valueToVec metadata) = some (metadataClaims shake256 state now).canonical ∧
      ∀ name, name ∉ ["iss", "sub", "iat", "signed_metadata"] →
        (metadataClaims shake256 state now).canonical.get name = metadata.canonical.get name := by
  obtain ⟨now, signature, clocked, signed, rfl⟩ := issuerMetadata_eq_insert published
  have unsigned : "signed_metadata" ∉ metadataNames := by decide +kernel
  have whole := (@issuerMetadataValue_object shake256 state).insert unsigned
    (.string : PlainJson 15 (.string (compactJws crates (crates.valueToVec
      (typedHeader crates metadataSigner "openidvci-issuer-metadata+jwt"))
      (crates.valueToVec (metadataClaims shake256 state now)) signature)))
  have claims := @metadataClaims_object shake256 state now
  refine ⟨now, clocked, ?_, fun name other => ?_⟩
  · refine bind_of_eq_some _ (laws.serde.readsWritten _ (whole.plain.mono (by decide))) (bind_of_eq_some _ ?_
      (readJws_signed laws (.head _) (claims.plain.mono (by decide)) signed))
    rw [whole.plain.get_canonical]
    rfl
  · simp only [List.mem_cons, List.not_mem_nil, or_false, not_or] at other
    obtain ⟨notIss, notSub, notIat, notSigned⟩ := other
    rw [claims.plain.get_canonical, whole.plain.get_canonical, metadataClaims, Value.get_insert_ne notIat,
      Value.get_insert_ne notSub, Value.get_insert_ne notIss, Value.get_insert_ne notSigned]

/-- The reference signer signs the metadata of every issuer. -/
theorem reference_published (state : AppState) (now : UInt64) :
    ∃ metadata, issuerMetadata referenceShake256 reference referenceHost state
      (Reference.signerAt Reference.x₁ Reference.y₁) (some now) = .ok metadata := by
  have signed := Reference.signEs256_signerAt Reference.onCurve₁ (Text.asBytes
    (metadataInput reference (Reference.signerAt Reference.x₁ Reference.y₁)
      (metadataClaims referenceShake256 state now)))
  simp only [issuerMetadata, Checks.bind_eq_ok (unixTime _), unixTime_eq_ok,
    Checks.okOr_bind_eq_ok, Checks.pure_eq_ok]
  exact ⟨_, now, rfl, _, signed, rfl⟩

theorem signed_metadata_read_reference :
    ∃ metadata, issuerMetadata referenceShake256 reference referenceHost referenceState
        (Reference.signerAt Reference.x₁ Reference.y₁) (some 1000) = .ok metadata ∧
      RelyingParty.readMetadata reference (reference.valueToVec (jwks reference referenceState
        (Reference.signerAt Reference.x₁ Reference.y₁))) (reference.valueToVec metadata) =
          some (metadataClaims referenceShake256 referenceState 1000).canonical := by
  obtain ⟨metadata, published⟩ := reference_published referenceState 1000
  obtain ⟨now, clocked, read, _⟩ := signed_metadata_read reference_lawfulPid published
  cases clocked
  exact ⟨metadata, published, read⟩

/-- A profile in which this format and this type are announced. -/
structure Announces (profile : Value) (format typeName : String) : Prop where
  formatted : profile.get "format" = some (.string format)
  typed : profile.get (if format = "mso_mdoc" then "doctype" else "vct") = some (.string typeName)

theorem announced_eq_some {now : UInt64} {configurationId format typeName : String}
    {profile : Value}
    (listed : (configurationId, profile) ∈
      configurationsSupported shake256 state.issuer.origin state.hybridPqEnabled)
    (announces : Announces profile format typeName) :
    RelyingParty.announced (metadataClaims shake256 state now).canonical configurationId =
      some (format, typeName) := by
  obtain ⟨distinct, each⟩ := configurationsSupported_plain shake256 state.issuer.origin
    state.hybridPqEnabled
  have plain : PlainJson 14 profile := each _ listed
  have configurations : (metadataClaims shake256 state now).canonical.get
      "credential_configurations_supported" = some (Value.object (configurationsSupported shake256
        state.issuer.origin state.hybridPqEnabled)).canonical := by
    rw [(metadataClaims_object shake256 now).plain.get_canonical]
    rfl
  refine bind_of_eq_some _ configurations (bind_of_eq_some profile.canonical ?_
    (bind_of_eq_some format ?_ (bind_of_eq_some typeName ?_ rfl)))
  · rw [Value.get_canonical distinct, Value.get, lookup_eq_some_of_mem distinct listed,
      Option.map_some]
  · rw [plain.get_canonical, announces.formatted]
    rfl
  · rw [plain.get_canonical, announces.typed]
    rfl

/-- A type as it is announced: the format, and the name of the type in that format. -/
theorem credentialProfile_get {format typeMember bindingMethod configurationId typeName name : String}
    {member : String} (other : member ≠ "activechain_schema_id_v1") :
    (credentialProfile shake256 format typeMember bindingMethod configurationId typeName name).get
        member =
      (Value.object
        [ ("format", .string format), ("scope", .string configurationId),
          (typeMember, .string typeName),
          ("cryptographic_binding_methods_supported", .array [.string bindingMethod]),
          ("credential_signing_alg_values_supported", .array [.string "ES256"]),
          ("proof_types_supported", es256Proofs),
          ("display", .array [.object [("name", .string name), ("locale", .string "de-DE")]])
        ]).get member := by
  unfold credentialProfile insertSchemaId
  split
  · exact Value.get_insert_ne other
  · rfl

theorem sdJwtProfile_announces {configurationId vct name : String} :
    Announces (sdJwtProfile shake256 configurationId vct name) "dc+sd-jwt" vct :=
  ⟨(credentialProfile_get (by decide)).trans rfl, (credentialProfile_get (by decide)).trans rfl⟩

theorem mdocProfile_announces {configurationId docType name : String} :
    Announces (mdocProfile shake256 configurationId docType name) "mso_mdoc" docType :=
  ⟨(credentialProfile_get (by decide)).trans rfl, (credentialProfile_get (by decide)).trans rfl⟩

theorem Announces.insert {profile value : Value} {format typeName name : String}
    (announces : Announces profile format typeName)
    (other : name ∉ ["format", "doctype", "vct"]) :
    Announces (profile.insert name value) format typeName := by
  simp only [List.mem_cons, List.not_mem_nil, or_false, not_or] at other
  obtain ⟨notFormat, notDocType, notVct⟩ := other
  refine ⟨(Value.get_insert_ne (Ne.symm notFormat)).trans announces.formatted,
    (Value.get_insert_ne ?_).trans announces.typed⟩
  split
  · exact Ne.symm notDocType
  · exact Ne.symm notVct

theorem Announces.developmentOnly {profile : Value} {format typeName : String}
    (announces : Announces profile format typeName) :
    Announces (developmentOnly profile) format typeName :=
  (announces.insert (by decide)).insert (by decide)

/-- The type of every SD-JWT. -/
def sdJwtVct (configurationId : String) : String :=
  if configurationId = pidSdJwt ∨ configurationId = devSvipePidSdJwt then "eu.europa.ec.eudi.pid.1"
  else if configurationId = pidFromEmrtdSdJwt then pidVct
  else if configurationId = qeaaSdJwt ∨ configurationId = qeaaPidBoundSdJwt then
    "urn:eu.europa.ec.eudi:learning:credential:1"
  else if configurationId = tlsnEvidenceSdJwt then tlsnEvidenceVct
  else mandateVct

theorem sdJwtClaims_vct {configurationId vct : String} {tlsnEvidence : Option VerifiedTlsnEvidence}
    {pidClaims : Option PidSubjectClaims} {claims : List (String × Value)}
    (claimed : sdJwtClaims configurationId tlsnEvidence pidClaims = some (vct, claims)) :
    vct = sdJwtVct configurationId := by
  unfold sdJwtClaims at claimed
  unfold sdJwtVct
  split_ifs at claimed ⊢
  · exact (Prod.mk.inj (Option.some.inj claimed)).1.symm
  · obtain ⟨_, _, same⟩ := Option.map_eq_some_iff.mp claimed
    exact (Prod.mk.inj same).1.symm
  · exact (Prod.mk.inj (Option.some.inj claimed)).1.symm
  · obtain ⟨_, _, same⟩ := Option.map_eq_some_iff.mp claimed
    exact (Prod.mk.inj same).1.symm

/-- Every SD-JWT profile is announced with its type. -/
theorem sdJwt_listed (shake256 : Bytes → Bytes) (state : AppState) {configurationId : String}
    (listed : configurationId ∈ sdJwtProfiles) :
    ∃ profile, (configurationId, profile) ∈
        configurationsSupported shake256 state.issuer.origin state.hybridPqEnabled ∧
      Announces profile "dc+sd-jwt" (sdJwtVct configurationId) := by
  simp only [sdJwtProfiles, List.mem_cons, List.not_mem_nil, or_false] at listed
  rcases listed with rfl | rfl | rfl | rfl | rfl | rfl
  · exact ⟨_, List.mem_of_getElem? (i := 0) rfl, sdJwtProfile_announces⟩
  · exact ⟨_, List.mem_of_getElem? (i := 1) rfl,
      (sdJwtProfile_announces.insert (by decide)).developmentOnly⟩
  · exact ⟨_, List.mem_of_getElem? (i := 5) rfl, sdJwtProfile_announces.insert (by decide)⟩
  · exact ⟨_, List.mem_of_getElem? (i := 6) rfl, sdJwtProfile_announces.insert (by decide)⟩
  · exact ⟨_, List.mem_of_getElem? (i := 8) rfl, sdJwtProfile_announces.insert (by decide)⟩
  · exact ⟨_, List.mem_of_getElem? (i := 9) rfl,
      ((sdJwtProfile_announces.insert (by decide)).insert (by decide)).developmentOnly⟩

/-- Every mdoc profile is announced with the type that its encoder gives it. -/
theorem mdoc_listed (shake256 : Bytes → Bytes) (state : AppState)
    {configurationId docType nameSpace : String} {claims : List (String × CborValue)}
    (listed : configurationId ∈ [pidMdoc, eaaMdoc])
    (claimed : mdocClaims crates configurationId none = some (docType, nameSpace, claims)) :
    ∃ profile, (configurationId, profile) ∈
        configurationsSupported shake256 state.issuer.origin state.hybridPqEnabled ∧
      Announces profile "mso_mdoc" docType := by
  simp only [List.mem_cons, List.not_mem_nil, or_false] at listed
  rcases listed with rfl | rfl
  · cases claimed
    exact ⟨_, List.mem_of_getElem? (i := 3) rfl, mdocProfile_announces⟩
  · cases claimed
    exact ⟨_, List.mem_of_getElem? (i := 4) rfl, mdocProfile_announces⟩

end Signed

/-! ## What is read from a credential -/

section Credentials

variable {crates : Crates} {shake256 : Bytes → Bytes} {host : Host} {state : AppState}
  {metadataSigner signer : KeychainSigner} {now : UInt64}

theorem verifiesUnder_iff {keys message signature : Bytes} {kid : String} :
    RelyingParty.verifiesUnder crates keys kid message signature = true ↔
      ∃ jwk ∈ RelyingParty.keysNamed crates keys kid, ∃ key parsed, jwk.Denotes crates key ∧
        crates.signatureFromSlice signature = some parsed ∧
        crates.verifyEs256 key message parsed = true := by
  simp only [RelyingParty.verifiesUnder, List.any_eq_true, Option.getD_eq_iff, reduceCtorEq,
    and_false, or_false, Option.bind_eq_some_iff, Checks.toOption_eq_some, Option.map_eq_some_iff]
  refine exists_congr fun jwk => and_congr_right fun _ => ?_
  constructor
  · rintro ⟨⟨key, _, _⟩, denotes, parsed, sliced, verified⟩
    exact ⟨key, parsed, ((verifyingKeyAndJwk_eq_ok ..).mp denotes).1, sliced, verified⟩
  · rintro ⟨key, parsed, denotes, sliced, verified⟩
    exact ⟨_, (verifyingKeyAndJwk_eq_ok ..).mpr ⟨denotes, rfl, rfl⟩, parsed, sliced, verified⟩

/-- What a published signer has signed verifies under its name. -/
theorem verifiesUnder_signed {message signature : Bytes} (laws : LawfulPid crates host)
    (published : signer ∈ signersOf state metadataSigner)
    (signed : host.signEs256 signer message = some signature) :
    RelyingParty.verifiesUnder crates (crates.valueToVec (jwks crates state metadataSigner))
      (signer.kid crates) message signature = true := by
  obtain ⟨key, parsed, denotes, sliced, verified⟩ :=
    laws.es256.published signer laws.base64 laws.sec1 signed
  exact verifiesUnder_iff.mpr
    ⟨_, mem_keysNamed laws.serde published, key, parsed, denotes, sliced, verified⟩

theorem coseKid_written {protectedBytes : Bytes} (ciborium : CiboriumLaws crates)
    (wrote : crates.cborToVec (protectedHeader crates signer) = some protectedBytes) :
    RelyingParty.coseKid crates protectedBytes = some (signer.kid crates) := by
  refine bind_of_eq_some _ (ciborium.fromSlice (protectedHeader_plain signer) wrote)
    (bind_of_eq_some _ rfl (bind_of_eq_some (-7) rfl (bind_of_eq_some _ rfl ?_)))
  rw [if_pos rfl, Text.ofBytes_asBytes]

section Mdocs

variable {profile : String} {holderJwk : Value} {issuedAt : UInt64}
  {pidClaims : Option PidSubjectClaims} {hybrid : Option HybridCredentialSigner}

theorem MdocIssuance.docTypeIn (ciborium : CiboriumLaws crates)
    (made : MdocIssuance crates host signer profile holderJwk issuedAt pidClaims hybrid) :
    RelyingParty.docTypeIn crates made.msoPayload = some made.docType := by
  refine bind_of_eq_some _ (made.payload_decoded ciborium) (bind_of_eq_some made.msoBytes rfl
    (bind_of_eq_some _ (made.mso_decoded ciborium) ?_))
  simp [MdocReader.field, mobileSecurityObject, CborValue.asMap, CborValue.get, MdocReader.asText]

/-- The signature of an issued mdoc is found to cover the type that is read. -/
theorem MdocIssuance.mdocType (laws : LawfulPid crates host) (ciborium : CiboriumLaws crates)
    (published : signer ∈ signersOf state metadataSigner)
    (made : MdocIssuance crates host signer profile holderJwk issuedAt pidClaims hybrid) :
    RelyingParty.mdocType crates (crates.valueToVec (jwks crates state metadataSigner))
      (crates.urlSafeEncode made.encoded) = some made.docType := by
  refine bind_of_eq_some made.encoded (laws.base64.readsWritten _)
    (bind_of_eq_some _ (made.decoded ciborium) (bind_of_eq_some _ made.issuerAuth_read
      (bind_of_eq_some _ (coseKid_written ciborium made.header)
        (bind_of_eq_some made.tbs made.covered ?_))))
  exact (if_pos (verifiesUnder_signed laws published made.signed)).trans (made.docTypeIn ciborium)

end Mdocs

variable {decision : Decision} {content : SdJwtContent} {response : CredentialResponse}

/-- The payload of an SD-JWT names its type. -/
theorem sdJwtContent_typed (said : sdJwtContent crates state host decision = some content) :
    content.payload.get "vct" = some (.string (sdJwtVct decision.configurationId)) := by
  unfold sdJwtContent at said
  split at said
  case isTrue named =>
    obtain ⟨_, _, rfl⟩ := Option.map_eq_some_iff.mp said
    rw [named]
    rfl
  case isFalse =>
    obtain ⟨⟨vct, claims⟩, claimed, rfl⟩ := Option.map_eq_some_iff.mp said
    rw [← sdJwtClaims_vct claimed]
    rfl

/-- The type that is read from an SD-JWT is the one that is announced. -/
theorem encodeCredential_sdJwtType (shake256 : Bytes → Bytes) (now : UInt64)
    (metadataSigner : KeychainSigner) (laws : LawfulPid crates host)
    (plain : PlainJson 125 decision.proof.holderJwk)
    (listed : decision.configurationId ∈ sdJwtProfiles)
    (encoded : encodeCredential crates state host decision = .ok response) :
    ∃ vct, RelyingParty.announced (metadataClaims shake256 state now).canonical
        decision.configurationId = some ("dc+sd-jwt", vct) ∧
      RelyingParty.sdJwtType crates (crates.valueToVec (jwks crates state metadataSigner))
        response.credential = some vct := by
  obtain ⟨content, signer, said, published, signed⟩ :=
    encodeCredential_content metadataSigner listed encoded
  obtain ⟨_, inMetadata, announces⟩ := sdJwt_listed shake256 state listed
  have commits := sdJwtContent_commits said plain
  refine ⟨_, announced_eq_some inMetadata announces, ?_⟩
  rw [RelyingParty.sdJwtType, signed.readJws laws published commits.plain
    (sdJwtContent_ne_nil said), Option.bind_some, commits.plain.get_canonical,
    sdJwtContent_typed said]
  rfl

/-- The hybrid profile is announced when it is enabled. -/
theorem hybrid_announced (shake256 : Bytes → Bytes) (now : UInt64)
    (enabled : state.hybridPqEnabled = true) :
    RelyingParty.announced (metadataClaims shake256 state now).canonical hybridPqSdJwt =
      some (HybridCodec.hybridFormat, "dev.advatar.hybrid-pq.credential.v1") := by
  have listed : (hybridPqSdJwt, hybridMetadataProfile state.issuer.origin) ∈
      configurationsSupported shake256 state.issuer.origin state.hybridPqEnabled := by
    rw [configurationsSupported, if_pos enabled]
    exact List.mem_append_right _ (.head _)
  exact announced_eq_some listed ⟨rfl, rfl⟩

/-- What a decision for the holder of a proof is encoded as has the format and the type that are
announced for it. -/
theorem Encoded.announced (shake256 : Bytes → Bytes) (now : UInt64)
    (metadataSigner : KeychainSigner) (laws : LawfulPid crates host)
    (ciborium : CiboriumLaws crates) {compact : String} {clock : ClockReading}
    {proof : HolderProof crates compact state.issuer clock} {profile : Bytes}
    (encoded : Encoded crates state host decision response)
    (proved : decision.proof = proof.verified)
    (profiled : decision.configurationId = hybridPqSdJwt → ∃ document,
      hybridPqProfileDocument crates state = .ok document ∧ profile = crates.valueToVec document)
    (consistent : decision.configurationId = hybridPqSdJwt →
      ∀ signer, state.hybridCredentialSigner = some signer → signer.ConsistentKey crates host) :
    ∃ format typeName,
      RelyingParty.announced (metadataClaims shake256 state now).canonical
        decision.configurationId = some (format, typeName) ∧
      RelyingParty.readType crates (crates.valueToVec (jwks crates state metadataSigner)) profile
        proof.claims.nonce format response.credential = some typeName ∧
      (response.format = none ∨ response.format = some format) := by
  have plain : PlainJson 125 decision.proof.holderJwk :=
    proved ▸ proof.header.jwk.toValue_plain _
  have whole := encodeCredential_eq_ok.mpr encoded
  cases encoded with
  | sdJwt among =>
      have all : ∀ profile ∈ [pidSdJwt, pidFromEmrtdSdJwt, qeaaSdJwt, qeaaPidBoundSdJwt,
          tlsnEvidenceSdJwt], profile ∈ sdJwtProfiles := by decide +kernel
      obtain ⟨vct, announces, typed⟩ :=
        encodeCredential_sdJwtType shake256 now metadataSigner laws plain (all _ among) whole
      exact ⟨_, vct, announces, typed, .inl rfl⟩
  | mandate named =>
      have among : mandateSdJwt ∈ sdJwtProfiles := by decide +kernel
      obtain ⟨vct, announces, typed⟩ := encodeCredential_sdJwtType shake256 now metadataSigner laws
        plain (named ▸ among) whole
      exact ⟨_, vct, announces, typed, .inl rfl⟩
  | mdoc among found issued =>
      obtain ⟨made, rfl⟩ := issueMdoc_eq_ok.mp issued
      obtain ⟨_, listed, announces⟩ := mdoc_listed shake256 state among made.claimed
      have published : _ ∈ signersOf state metadataSigner :=
        .tail _ (value_of_lookup_eq_some found)
      exact ⟨_, _, announced_eq_some listed announces, made.mdocType laws ciborium published,
        .inl rfl⟩
  | hybrid named found enabled issued =>
      obtain ⟨document, documented, rfl⟩ := profiled named
      obtain ⟨formatted, read⟩ := (Encoded.hybrid named found enabled issued).readHybrid laws
        ciborium proved named (consistent named) documented
      refine ⟨_, _, named ▸ hybrid_announced shake256 now enabled, ?_, .inr formatted⟩
      exact congrArg (Option.map (·.typeName)) read

end Credentials

section Runs

variable {crates : Crates} {shake256 : Bytes → Bytes} {host : Host} {state : AppState}
  {store : StringMap RegisteredInstance} {earlier later : List DeploymentEvent} {d : Deployment}
  {event : Event} {headers : HeaderMap} {request : CredentialRequest}
  {response : CredentialResponse} {metadataSigner : KeychainSigner} {clock : ClockReading}
  {metadata : Value} {profile : Bytes}

/-- Whoever has fetched the keys, at any time the metadata and, for the hybrid profile, its document
knows of every credential that the service hands out the format and the type: the metadata verify
and announce them, the signatures of the credential verify, and the type is what they cover. -/
theorem served_as_announced (laws : LawfulPid crates event.env.host)
    (fetched : LawfulPid crates host) (ciborium : CiboriumLaws crates)
    (run : (deployment crates state).Execution (.initial store)
      (earlier ++ .served event :: later) d)
    (origin : event.origin = .arrived (.credential headers request))
    (reply : event.reply = .ok (.finished (.credential response)))
    (published : issuerMetadata shake256 crates host state metadataSigner clock = .ok metadata)
    (profiled : request.credentialConfigurationId = hybridPqSdJwt → ∃ document,
      hybridPqProfileDocument crates state = .ok document ∧ profile = crates.valueToVec document)
    (consistent : request.credentialConfigurationId = hybridPqSdJwt →
      ∀ signer, state.hybridCredentialSigner = some signer →
        signer.ConsistentKey crates event.env.host) :
    ∃ compact, ∃ holder : HolderProof crates compact state.issuer event.env.proofClock,
      request.proofs = [compact] ∧ ∃ signed format typeName,
        RelyingParty.readMetadata crates (crates.valueToVec (jwks crates state metadataSigner))
          (crates.valueToVec metadata) = some signed ∧
        RelyingParty.announced signed request.credentialConfigurationId = some (format, typeName) ∧
        RelyingParty.readType crates (crates.valueToVec (jwks crates state metadataSigner)) profile
          holder.claims.nonce format response.credential = some typeName ∧
        (response.format = none ∨ response.format = some format) := by
  obtain ⟨_, _, _, past, took, _⟩ := deployment_at_event run
  obtain ⟨grant, encoded, _⟩ := took.credentialGrant origin reply
  obtain ⟨now, _, read, _⟩ := signed_metadata_read fetched published
  obtain ⟨format, typeName, announces, typed, formatted⟩ :=
    (encodeCredential_eq_ok.mp encoded).announced shake256 now metadataSigner laws ciborium rfl
      profiled consistent
  exact ⟨grant.compact, grant.holder, grant.proofs, _, format, typeName, read, announces, typed,
    formatted⟩

/-- The hybrid credential of the reference issuer, under its profile document. -/
theorem served_as_announced_reference :
    ∃ (earlier : List DeploymentEvent) (event : Event) (d : Deployment) (headers : HeaderMap)
      (request : CredentialRequest) (response : CredentialResponse) (metadata document signed : Value)
      (nonce format typeName : String),
      (deployment reference hybridState).Execution (.initial ∅)
        (.restarted :: earlier ++ [.served event]) d ∧
      event.origin = .arrived (.credential headers request) ∧
      event.reply = .ok (.finished (.credential response)) ∧
      request.credentialConfigurationId = hybridPqSdJwt ∧
      hybridPqProfileDocument reference hybridState = .ok document ∧
      RelyingParty.readMetadata reference (reference.valueToVec (jwks reference hybridState
        (Reference.signerAt Reference.x₁ Reference.y₁))) (reference.valueToVec metadata) =
          some signed ∧
      RelyingParty.announced signed hybridPqSdJwt = some (format, typeName) ∧
      RelyingParty.readType reference (reference.valueToVec (jwks reference hybridState
        (Reference.signerAt Reference.x₁ Reference.y₁))) (reference.valueToVec document) nonce
          format response.credential = some typeName := by
  obtain ⟨earlier, event, d, headers, request, response, run, host, origin, reply, named⟩ :=
    hybridClient_served
  obtain ⟨metadata, published⟩ := reference_published hybridState 1000
  obtain ⟨document, documented⟩ := hybridState_published
  have laws : LawfulPid reference event.env.host := host ▸ storing_lawfulPid
  have consistent : ∀ signer, hybridState.hybridCredentialSigner = some signer →
      signer.ConsistentKey reference event.env.host := host ▸ hybridState_consistent
  obtain ⟨_, holder, _, signed, format, typeName, read, announces, typed, _⟩ :=
    served_as_announced laws reference_lawfulPid reference_ciborium run origin reply published
      (fun _ => ⟨document, documented, rfl⟩) fun _ => consistent
  rw [named] at announces
  exact ⟨earlier, event, d, headers, request, response, metadata, document, signed,
    holder.claims.nonce, format, typeName, run, origin, reply, named, documented, read, announces,
    typed⟩

end Runs

end VCIssuer.Service
