import VCIssuer.Service.Acceptance
import VCIssuer.Service.Capture
import VCIssuer.Service.Endpoints

/-!
# The issuer identifier

Every producer derives the issuer identifier from the URL of the issuer by
itself.  All of them trim the slashes off its end but one: the signed metadata
name the untrimmed URL.
-/

namespace VCIssuer.Service

open VCIssuer.Library
open VCIssuer.Library.Critical

section Producers

variable (crates : Crates) (shake256 : Bytes → Bytes) (state : AppState)

/-- An offer by value, as the responses of a capture session carry it. -/
def CapturedOffer (identifier : String) (response : Value) : Prop :=
  ∀ offer, response.get "credential_offer" = some offer →
    offer.get "credential_issuer" = some (.string identifier)

/-- A signed envelope of a hybrid credential, with the issuer's identity in context and payload. -/
def HybridIssuer (host : Host) (identifier : String) (envelope : Bytes) : Prop :=
  ∃ (signer : HybridCredentialSigner) (unsigned : HybridCodec.UnsignedEnvelope)
      (entries : List (CborValue × CborValue)),
    signer.signEnvelope crates host unsigned = .ok envelope ∧
    unsigned.context.issuerIdentity = some (Text.asBytes identifier) ∧
    crates.cborToVec (.map entries) = some unsigned.payload ∧
    cborPair 1 (.text identifier) ∈ entries

/-- All producers name the issuer alike. -/
structure OneIdentifier (identifier : String) : Prop where
  metadata : (issuerMetadataValue shake256 state).get "credential_issuer" =
    some (.string identifier)
  oauth : (oauthMetadata state).get "issuer" = some (.string identifier)
  offers : ∀ (id : String) (clock : ClockReading) (s t : VolatileState) (offer : Value)
    (log : List Mark), Returns (getCredentialOffer state id clock) s offer t log →
      offer.get "credential_issuer" = some (.string identifier)
  polled : ∀ (id : String) (clock : ClockReading) (s t : VolatileState) (response : Value)
    (log : List Mark), Returns (getPidCaptureSession crates state id clock) s response t log →
      CapturedOffer identifier response ∧
        ∀ audience, response.get "audience" = some audience → audience = .string identifier
  issued : ∀ credential credentialMdoc,
    CapturedOffer identifier (issuedResponse crates state credential credentialMdoc)
  sdJwts : ∀ (host : Host) (signer : KeychainSigner) (profile credential : String)
    (holderJwk : Value) (now : UInt64) (tlsnEvidence : Option VerifiedTlsnEvidence)
    (pidClaims : Option PidSubjectClaims),
    issueSdJwt crates host signer state.issuer profile holderJwk now tlsnEvidence pidClaims =
        .ok credential →
      ∃ payload disclosures, SignedSdJwt crates host signer credential payload disclosures ∧
        payload.get "iss" = some (.string identifier)
  mandates : ∀ (host : Host) (signer : KeychainSigner) (delegateJwk : Value)
    (mandator mandateJti credential : String) (grantedPowers : Kernel.Powers) (now : UInt64),
    issueMandateSdJwt crates host signer state.issuer delegateJwk mandator grantedPowers mandateJti
        now = .ok credential →
      ∃ payload disclosures, SignedSdJwt crates host signer credential payload disclosures ∧
        payload.get "iss" = some (.string identifier)
  hybrids : ∀ (host : Host) (signer : HybridCredentialSigner) (holderJwk : Value)
    (holderJkt nonce : String) (now : UInt64) (envelope : Bytes),
    issueHybridCredential crates host signer state.issuer holderJwk holderJkt nonce now =
        .ok envelope → HybridIssuer crates host identifier envelope
  signed : ∀ now, (metadataClaims shake256 state now).get "iss" = some (.string identifier) ∧
    (metadataClaims shake256 state now).get "sub" = some (.string identifier)

end Producers

/-! ## The producers that trim -/

section Trimmed

variable {crates : Crates} {state : AppState}

theorem getCredentialOffer_issuer {id : String} {clock : ClockReading} {s t : VolatileState}
    {offer : Value} {log : List Mark}
    (returned : Returns (getCredentialOffer state id clock) s offer t log) :
    offer.get "credential_issuer" = some (.string state.issuer.origin) := by
  simp only [getCredentialOffer, returns_ofExcept_bind, returns_read_bind, returns_okOr_bind,
    returns_rejectIf_bind, returns_pure] at returned
  obtain ⟨_, _, _, _, _, rfl, _⟩ := returned
  rfl

theorem awaitingMembers_lookup (state : AppState) (session : CaptureSession) :
    (awaitingMembers state session).lookup "credential_offer" = none ∧
      ∀ audience, (awaitingMembers state session).lookup "audience" = some audience →
        audience = .string state.issuer.origin := by
  unfold awaitingMembers
  split
  case isTrue =>
    constructor
    · cases session.iproovToken <;> cases state.iproov <;> rfl
    · rintro _ ⟨⟩
      rfl
  case isFalse => exact ⟨rfl, nofun⟩

theorem credentialMembers_lookup (crates : Crates) (state : AppState) (session : CaptureSession) :
    (credentialMembers crates state session).lookup "audience" = none ∧
      ∀ offer, (credentialMembers crates state session).lookup "credential_offer" = some offer →
        offer.get "credential_issuer" = some (.string state.issuer.origin) := by
  unfold credentialMembers
  split
  case h_1 => exact ⟨rfl, nofun⟩
  case h_2 credential _ =>
    cases session.credentialMdoc with
    | none =>
        refine ⟨rfl, ?_⟩
        rintro _ ⟨⟩
        rfl
    | some mdoc =>
        refine ⟨rfl, ?_⟩
        rintro _ ⟨⟩
        rfl

theorem getPidCaptureSession_issuer {id : String} {clock : ClockReading} {s t : VolatileState}
    {response : Value} {log : List Mark}
    (returned : Returns (getPidCaptureSession crates state id clock) s response t log) :
    CapturedOffer state.issuer.origin response ∧ ∀ audience,
      response.get "audience" = some audience → audience = .string state.issuer.origin := by
  simp only [getPidCaptureSession, returns_ofExcept_bind, returns_read_bind, returns_okOr_bind,
    returns_rejectIf_bind, returns_pure] at returned
  obtain ⟨_, _, session, _, _, rfl, _⟩ := returned
  obtain ⟨noOffer, audiences⟩ := awaitingMembers_lookup state session
  obtain ⟨noAudience, offers⟩ := credentialMembers_lookup crates state session
  constructor
  · intro offer found
    rw [Value.get, List.append_assoc, List.lookup_append, List.lookup_append, noOffer] at found
    exact offers offer found
  · intro audience found
    rw [Value.get, List.lookup_append, noAudience, Option.or_none] at found
    exact audiences audience found

theorem issueHybridCredential_issuer {host : Host} {signer : HybridCredentialSigner}
    {issuer : Url} {holderJwk : Value} {holderJkt nonce : String} {now : UInt64} {envelope : Bytes}
    (issued : issueHybridCredential crates host signer issuer holderJwk holderJkt nonce now =
      .ok envelope) : HybridIssuer crates host issuer.origin envelope := by
  simp only [issueHybridCredential, encodeCanonicalCbor, Checks.bind_eq_ok (hybridDisclosures ..),
    Checks.okOr_bind_eq_ok, Checks.mapError_eq_ok] at issued
  obtain ⟨disclosures, _, payload, encoded, signed⟩ := issued
  exact ⟨signer, _, _, signed, rfl, encoded, .head _⟩

end Trimmed

/-! ## The producer that does not -/

theorem trimEnd_eq_self_iff (text : String) :
    Text.trimEndMatches '/' text = text ↔ text.toList.getLast? ≠ some '/' := by
  rw [← String.toList_inj, Text.trimEndMatches, String.toList_ofList, List.rdropWhile_eq_self_iff]
  rcases List.eq_nil_or_concat' text.toList with empty | ⟨front, last, spelled⟩
  · simp [empty]
  · simp [spelled]

/-- All producers name one issuer exactly if the URL of the issuer does not end in a slash. -/
theorem oneIdentifier_iff (crates : Crates) (shake256 : Bytes → Bytes) (state : AppState) :
    (∃ identifier, OneIdentifier crates shake256 state identifier) ↔
      state.issuer.asStr.toList.getLast? ≠ some '/' := by
  rw [← trimEnd_eq_self_iff]
  constructor
  · rintro ⟨identifier, one⟩
    have published : (issuerMetadataValue shake256 state).get "credential_issuer" =
        some (.string state.issuer.origin) := rfl
    have subject : (metadataClaims shake256 state 0).get "sub" =
        some (.string state.issuer.asStr) := rfl
    have named := published.symm.trans one.metadata
    have signed := subject.symm.trans (one.signed 0).2
    rw [← named] at signed
    exact (Value.string.inj (Option.some.inj signed)).symm
  · intro trimmed
    refine ⟨state.issuer.origin, {
      metadata := rfl
      oauth := rfl
      offers := fun _ _ _ _ _ _ returned => getCredentialOffer_issuer returned
      polled := fun _ _ _ _ _ _ returned => getPidCaptureSession_issuer returned
      issued := by rintro _ _ _ ⟨⟩; rfl
      sdJwts := ?_
      mandates := ?_
      hybrids := fun _ _ _ _ _ _ _ issued => issueHybridCredential_issuer issued
      signed := ?_ }⟩
    · intro host signer profile credential holderJwk now tlsnEvidence pidClaims issued
      obtain ⟨_, _, _, signed⟩ := (issueSdJwt_eq_ok ..).mp issued
      exact ⟨_, _, signed, rfl⟩
    · intro host signer delegateJwk mandator mandateJti credential grantedPowers now issued
      exact ⟨_, _, (signSdJwt_eq_ok ..).mp issued, rfl⟩
    · intro now
      have same : state.issuer.origin = state.issuer.asStr := trimmed
      rw [same]
      exact ⟨rfl, rfl⟩

/-- The reference issuer signs metadata about an issuer that it does not name anywhere else. -/
theorem reference_signs_other_identifier :
    ¬ ∃ identifier, OneIdentifier reference referenceShake256 referenceState identifier := by
  rintro ⟨identifier, one⟩
  have published : (issuerMetadataValue referenceShake256 referenceState).get "credential_issuer" =
      some (.string referenceState.issuer.origin) := rfl
  have subject : (metadataClaims referenceShake256 referenceState 0).get "sub" =
      some (.string referenceState.issuer.asStr) := rfl
  have named := published.symm.trans one.metadata
  have signed := subject.symm.trans (one.signed 0).2
  rw [← named] at signed
  exact absurd (Value.string.inj (Option.some.inj signed)) (by decide)

end VCIssuer.Service
