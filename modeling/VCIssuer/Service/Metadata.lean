import VCIssuer.Service.ActivechainSchema
import VCIssuer.Service.State

/-!
# Published metadata

The metadata of the credential issuer with its profiles and its signed form,
and the metadata of the authorization server.
-/

namespace VCIssuer.Service

open VCIssuer.Library
open VCIssuer.Library.Checks
open VCIssuer.Kernel (mandateVct powerTaxonomy)

/-! ## Profiles -/

section Profiles

variable (shake256 : Bytes → Bytes)

def insertSchemaId (configurationId : String) (profile : Value) : Value :=
  match ActivechainSchema.pinnedSchemaId shake256 configurationId with
  | some schema =>
      profile.insert "activechain_schema_id_v1" (.string (ActivechainSchema.hexEncode schema))
  | none => profile

def es256Proofs : Value :=
  .object [("jwt", .object [("proof_signing_alg_values_supported", .array [.string "ES256"])])]

/-- A profile of a format, whose type is a member of its own name. -/
def credentialProfile (format typeMember bindingMethod configurationId typeName name : String) :
    Value :=
  insertSchemaId shake256 configurationId (.object
    [ ("format", .string format), ("scope", .string configurationId),
      (typeMember, .string typeName),
      ("cryptographic_binding_methods_supported", .array [.string bindingMethod]),
      ("credential_signing_alg_values_supported", .array [.string "ES256"]),
      ("proof_types_supported", es256Proofs),
      ("display", .array [.object [("name", .string name), ("locale", .string "de-DE")]]) ])

def sdJwtProfile (configurationId vct name : String) : Value :=
  credentialProfile shake256 "dc+sd-jwt" "vct" "jwk" configurationId vct name

def mdocProfile (configurationId docType name : String) : Value :=
  credentialProfile shake256 "mso_mdoc" "doctype" "cose_key" configurationId docType name

def requiredPidBinding : Value :=
  .object
    [ ("required", .bool true), ("pid_vct", .string pidVct),
      ("presentation_format", .string "dc+sd-jwt"),
      ("binding_proof_alg_values_supported", .array [.string "ES256"]) ]

def learningProfile (configurationId name : String) (pidBound : Bool) : Value :=
  (sdJwtProfile shake256 configurationId "urn:eu.europa.ec.eudi:learning:credential:1" name).insert
    "pid_binding" (if pidBound then requiredPidBinding else .object [("required", .bool false)])

def developmentOnly (profile : Value) : Value :=
  (profile.insert "development_only" (.bool true)).insert "eudi_conformant" (.bool false)

def mandateProfile : Value :=
  developmentOnly
    (((sdJwtProfile shake256 mandateSdJwt mandateVct
        "Power-of-representation mandate (agent delegation)").insert
      "pid_binding" requiredPidBinding).insert
      "mandate_scopes_supported" (.array (powerTaxonomy.map fun entry => .string entry.2)))

def chipAssurance : Value :=
  .object
    [ ("source", .string "emrtd_chip_read"), ("chip_authentication", .bool true),
      ("passive_authentication", .bool true), ("holder_liveness", .string emrtdRequiredLiveness),
      ("evidence_binding", .string "trusted_reader_attestation_jws") ]

def pidFromEmrtdProfile : Value :=
  developmentOnly
    ((sdJwtProfile shake256 pidFromEmrtdSdJwt pidVct
      "German PID (NFC chip + liveness proofed)").insert "identity_assurance" chipAssurance)

def pidFromEmrtdMdocProfile : Value :=
  developmentOnly
    ((mdocProfile shake256 pidFromEmrtdMdoc pidVct
      "German PID (NFC chip + liveness proofed, mdoc)").insert "identity_assurance" chipAssurance)

def hybridMetadataProfile (issuer : String) : Value :=
  .object
    [ ("format", .string HybridCodec.hybridFormat), ("scope", .string hybridPqSdJwt),
      ("vct", .string "dev.advatar.hybrid-pq.credential.v1"),
      ("cryptographic_binding_methods_supported", .array [.string "jwk"]),
      ("proof_types_supported", es256Proofs),
      ("experimental_profile", .string HybridCodec.hybridProfile),
      ("experimental_profile_document", .string (issuer ++ "/experimental/hybrid-pq/profile")),
      ("credential_wrapper_schema", .string "HybridCredentialWrapperV1"),
      ("shared_vectors_status", .string "complete-component-and-wrapper-corpora"),
      ("development_only", .bool true), ("eudi_conformant", .bool false),
      ("display", .array [.object
        [ ("name", .string "Experimental hybrid-PQ credential (non-EUDI)"),
          ("locale", .string "en") ]]) ]

def tlsnMetadataProfile (issuer : String) : Value :=
  (sdJwtProfile shake256 tlsnEvidenceSdJwt tlsnEvidenceVct
      "TLSNotary web evidence (development)").insert
    "credential_signing_certificate_endpoint"
    (.string (issuer ++ "/credential-signing-certificates/" ++ tlsnEvidenceSdJwt))

/-! ## The credential issuer -/

def configurationsSupported (issuer : String) (hybridPqEnabled : Bool) : List (String × Value) :=
  [ (pidSdJwt, sdJwtProfile shake256 pidSdJwt "eu.europa.ec.eudi.pid.1" "German PID (SD-JWT VC)"),
    (pidFromEmrtdSdJwt, pidFromEmrtdProfile shake256),
    (pidFromEmrtdMdoc, pidFromEmrtdMdocProfile shake256),
    (pidMdoc, mdocProfile shake256 pidMdoc "eu.europa.ec.eudi.pid.1" "German PID (mdoc)"),
    (eaaMdoc, mdocProfile shake256 eaaMdoc "org.iso.18013.5.1.mDL"
      "German driving licence EAA (mdoc)"),
    (qeaaSdJwt, learningProfile shake256 qeaaSdJwt
      "German learning QEAA (independently identified)" false),
    (qeaaPidBoundSdJwt, learningProfile shake256 qeaaPidBoundSdJwt
      "German learning QEAA (cryptographically bound to PID)" true),
    (devSvipePidSdJwt, sdJwtProfile shake256 devSvipePidSdJwt "dev.eu.europa.ec.eudi.pid.1"
      "Development PID (Svipe proofing only)"),
    (tlsnEvidenceSdJwt, tlsnMetadataProfile shake256 issuer),
    (mandateSdJwt, mandateProfile shake256) ] ++
  if hybridPqEnabled then [(hybridPqSdJwt, hybridMetadataProfile issuer)] else []

def issuerMetadataValue (state : AppState) : Value :=
  let issuer := state.issuer.origin
  .object
    [ ("credential_issuer", .string issuer),
      ("authorization_servers", .array [.string issuer]),
      ("credential_endpoint", .string (issuer ++ "/credential")),
      ("nonce_endpoint", .string (issuer ++ "/nonce")),
      ("batch_credential_issuance", .object [("batch_size", .nat 1)]),
      ("credential_configurations_supported",
        .object (configurationsSupported shake256 issuer state.hybridPqEnabled)) ]

/-- What is signed of the metadata: the metadata itself, and who says so and when. -/
def metadataClaims (state : AppState) (now : UInt64) : Value :=
  (((issuerMetadataValue shake256 state).insert "iss" (.string state.issuer.asStr)).insert
    "sub" (.string state.issuer.asStr)).insert "iat" (.nat now)

def metadataHeader (crates : Crates) (signer : KeychainSigner) : Value :=
  .object
    [ ("alg", .string "ES256"), ("typ", .string "openidvci-issuer-metadata+jwt"),
      ("kid", .string (signer.kid crates)) ]

def metadataInput (crates : Crates) (signer : KeychainSigner) (claims : Value) : String :=
  crates.urlSafeEncode (crates.valueToVec (metadataHeader crates signer)) ++ "." ++
    crates.urlSafeEncode (crates.valueToVec claims)

def issuerMetadata (crates : Crates) (host : Host) (state : AppState)
    (metadataSigner : KeychainSigner) (clock : ClockReading) : Checked Value := do
  let now ← unixTime clock
  let signingInput := metadataInput crates metadataSigner (metadataClaims shake256 state now)
  let signature ← okOr (host.signEs256 metadataSigner (Text.asBytes signingInput))
    (oauthError .internalServerError "server_error" "signed metadata is unavailable")
  return (issuerMetadataValue shake256 state).insert "signed_metadata"
    (.string (signingInput ++ "." ++ crates.urlSafeEncode signature))

end Profiles

/-! ## The authorization server -/

def oauthMetadataValue (issuer : String) : Value :=
  .object
    [ ("issuer", .string issuer),
      ("authorization_endpoint", .string (issuer ++ "/authorize")),
      ("token_endpoint", .string (issuer ++ "/token")),
      ("pushed_authorization_request_endpoint", .string (issuer ++ "/par")),
      ("jwks_uri", .string (issuer ++ "/jwks.json")),
      ("response_types_supported", .array [.string "code"]),
      ("grant_types_supported", .array [.string "authorization_code"]),
      ("require_pushed_authorization_requests", .bool true),
      ("code_challenge_methods_supported", .array [.string "S256"]),
      ("dpop_signing_alg_values_supported", .array [.string "ES256"]) ]

def oauthMetadata (state : AppState) : Value :=
  oauthMetadataValue state.issuer.origin

end VCIssuer.Service
