import VCIssuer.Service.HybridVerification

/-!
# The purposes of credential wrappers

Two of the five purposes are for credential wrappers.  What the encoder, the
signer and the verifier compare with these two is nothing: the purpose is what
their caller says it is.
-/

namespace VCIssuer.Service

open VCIssuer.Library
open VCIssuer.Library.Checks

namespace HybridCodec

/-- A purpose that a credential wrapper may have. -/
def HybridPurpose.IsWrapper (purpose : HybridPurpose) : Prop :=
  purpose = .testSdJwtWrapperV1 ∨ purpose = .testMdocWrapperV1

instance (purpose : HybridPurpose) : Decidable purpose.IsWrapper := by
  unfold HybridPurpose.IsWrapper; infer_instance

/-- Everything that the encoder asks of an envelope and its signatures. -/
structure Encodable (crates : Crates) (unsigned : UnsignedEnvelope)
    (signatures : EnvelopeSignatures) : Prop where
  wrappable : Wrappable unsigned signatures
  fits : ∃ body, crates.cborToVec (wrapper unsigned signatures) = some body ∧
    (envelopeMagic ++ body).length ≤ maxEnvelopeBytes

theorem encodes_iff (crates : Crates) (unsigned : UnsignedEnvelope)
    (signatures : EnvelopeSignatures) :
    (∃ encoded, encode crates unsigned signatures = .ok encoded) ↔
      Encodable crates unsigned signatures := by
  constructor
  · rintro ⟨encoded, written⟩
    obtain ⟨wrappable, small, body, spelled, rfl⟩ := (encode_eq_ok ..).mp written
    exact ⟨wrappable, body, spelled, small⟩
  · rintro ⟨wrappable, body, spelled, small⟩
    exact ⟨_, (encode_eq_ok ..).mpr ⟨wrappable, small, body, spelled, rfl⟩⟩

/-- Everything that the verifier asks of a byte string: one canonical wrapper within the bounds,
the identity and the context of the parameters, and both signatures. -/
structure Verifiable (crates : Crates) (encoded : Bytes) (parameters : VerificationParameters)
    (unsigned : UnsignedEnvelope) (signatures : EnvelopeSignatures) (body signed : Bytes) :
    Prop where
  wrappable : Wrappable unsigned signatures
  framed : encoded = envelopeMagic ++ body
  small : encoded.length ≤ maxEnvelopeBytes
  canonical : readCanonical crates body = .ok (wrapper unsigned signatures)
  purpose : unsigned.purpose = parameters.purpose
  context : unsigned.context = parameters.context
  generation : unsigned.generation = parameters.generation
  keyGeneration : parameters.context.keyGeneration = parameters.generation
  classicalKid : unsigned.classicalKid = parameters.classicalKid
  pqKid : unsigned.pqKid = parameters.pqKid
  covered : tbs crates unsigned = .ok signed
  signed : BothSigned crates parameters signatures signed

theorem verifies_iff (crates : Crates) (encoded : Bytes) (parameters : VerificationParameters) :
    verify crates encoded parameters = .ok () ↔ ∃ unsigned signatures body signed,
      Verifiable crates encoded parameters unsigned signatures body signed := by
  rw [verify_eq_ok]
  constructor
  · rintro ⟨unsigned, signatures, signed, established⟩
    obtain ⟨purpose, context, wrappable, small, body, canonical, framed⟩ :=
      (decode_eq_ok ..).mp established.decoded
    exact ⟨unsigned, signatures, body, signed, {
      wrappable, framed, small, canonical, purpose, context
      generation := established.generation
      keyGeneration := established.keyGeneration
      classicalKid := established.classicalKid
      pqKid := established.pqKid
      covered := established.covered
      signed := established.signed }⟩
  · rintro ⟨unsigned, signatures, body, signed, verifiable⟩
    refine ⟨unsigned, signatures, signed, {
      decoded := (decode_eq_ok ..).mpr ⟨verifiable.purpose, verifiable.context,
        verifiable.wrappable, verifiable.small, body, verifiable.canonical, verifiable.framed⟩
      purpose := verifiable.purpose
      context := verifiable.context
      generation := verifiable.generation
      keyGeneration := verifiable.keyGeneration
      positive := ?_
      classicalKid := verifiable.classicalKid
      pqKid := verifiable.pqKid
      covered := verifiable.covered
      signed := verifiable.signed }⟩
    exact UInt64.pos_iff_ne_zero.mpr (verifiable.generation ▸ verifiable.wrappable.generation)

end HybridCodec

namespace HybridCredentialSigner

open HybridCodec

variable (crates : Crates) (host : Host) (signer : HybridCredentialSigner)

/-- Everything that the signer asks of an envelope, and the answers that it needs. -/
structure Ready (unsigned : UnsignedEnvelope) (signed classical postQuantum : Bytes)
    (stored : StoredKey) : Prop where
  classicalKid : unsigned.classicalKid = signer.classicalKid crates
  pqKid : unsigned.pqKid = signer.pqKid
  generation : unsigned.generation = signer.generation
  covered : tbs crates unsigned = .ok signed
  classicalSigned : host.signEs256 signer.classical signed = some classical
  current : signer.currentKey crates host = .ok stored
  postQuantumSigned : PqBackend.signOnce host stored.secretKey signed = some postQuantum
  encodable : Encodable crates unsigned { classical, postQuantum }

theorem signs_iff (unsigned : UnsignedEnvelope) :
    (∃ encoded, signer.signEnvelope crates host unsigned = .ok encoded) ↔
      ∃ signed classical postQuantum stored,
        signer.Ready crates host unsigned signed classical postQuantum stored := by
  simp only [signEnvelope_eq_ok]
  constructor
  · rintro ⟨encoded, signed, classical, postQuantum, stored, made⟩
    exact ⟨signed, classical, postQuantum, stored, {
      classicalKid := made.classicalKid
      pqKid := made.pqKid
      generation := made.generation
      covered := made.covered
      classicalSigned := made.classicalSigned
      current := made.current
      postQuantumSigned := made.postQuantumSigned
      encodable := (encodes_iff ..).mp ⟨encoded, made.wrapped⟩ }⟩
  · rintro ⟨signed, classical, postQuantum, stored, ready⟩
    obtain ⟨encoded, wrapped⟩ := (encodes_iff ..).mpr ready.encodable
    exact ⟨encoded, signed, classical, postQuantum, stored, {
      classicalKid := ready.classicalKid
      pqKid := ready.pqKid
      generation := ready.generation
      covered := ready.covered
      classicalSigned := ready.classicalSigned
      current := ready.current
      postQuantumSigned := ready.postQuantumSigned
      wrapped }⟩

/-- No wrapper is emitted or accepted for a purpose that is not for wrappers. -/
structure WrapsOnly (unsigned : UnsignedEnvelope) (signatures : EnvelopeSignatures)
    (encoded : Bytes) (parameters : VerificationParameters) : Prop where
  emits : ∀ emitted, encode crates unsigned signatures = .ok emitted →
    unsigned.purpose.IsWrapper
  signs : ∀ emitted, signer.signEnvelope crates host unsigned = .ok emitted →
    unsigned.purpose.IsWrapper
  accepts : verify crates encoded parameters = .ok () → ∀ wrapped carried,
    decode crates encoded parameters.purpose parameters.context = .ok (wrapped, carried) →
      wrapped.purpose.IsWrapper

/-- The purpose is restricted exactly when the caller restricts it or another check refuses. -/
theorem wrapsOnly_iff (unsigned : UnsignedEnvelope) (signatures : EnvelopeSignatures)
    (encoded : Bytes) (parameters : VerificationParameters) :
    signer.WrapsOnly crates host unsigned signatures encoded parameters ↔
      (unsigned.purpose.IsWrapper ∨
        ¬ Encodable crates unsigned signatures ∧
          ¬ ∃ signed classical postQuantum stored,
            signer.Ready crates host unsigned signed classical postQuantum stored) ∧
      (parameters.purpose.IsWrapper ∨
        ¬ ∃ wrapped carried body signed,
          Verifiable crates encoded parameters wrapped carried body signed) := by
  rw [← encodes_iff, ← signs_iff, ← verifies_iff]
  constructor
  · intro only
    constructor
    · by_cases allowed : unsigned.purpose.IsWrapper
      · exact .inl allowed
      · exact .inr ⟨fun ⟨emitted, done⟩ => allowed (only.emits emitted done),
          fun ⟨emitted, done⟩ => allowed (only.signs emitted done)⟩
    · by_cases accepted : verify crates encoded parameters = .ok ()
      · obtain ⟨wrapped, carried, _, established⟩ := (verify_eq_ok ..).mp accepted
        have allowed := only.accepts accepted wrapped carried established.decoded
        exact .inl (established.purpose ▸ allowed)
      · exact .inr accepted
  · rintro ⟨emitting, accepting⟩
    constructor
    · intro emitted done
      exact emitting.resolve_right fun refused => refused.1 ⟨emitted, done⟩
    · intro emitted done
      exact emitting.resolve_right fun refused => refused.2 ⟨emitted, done⟩
    · intro accepted wrapped carried decoded
      have allowed := accepting.resolve_right fun refused => refused accepted
      rw [((decode_eq_ok ..).mp decoded).1]
      exact allowed

/-! ### A wallet export -/

/-- A context as a wallet export has it. -/
def exportContext : HybridContext :=
  { referenceContext 1 with issuerIdentity := none, transactionId := none, audience := none }

def referenceExport : UnsignedEnvelope :=
  { referenceEnvelope 1 with purpose := .walletExportV1, context := exportContext }

theorem exportContext_allowed :
    ∃ encoded, exportContext.encodeFor .walletExportV1 = .ok encoded := by
  have valid := referenceContext_valid (by decide : (1 : UInt64) ≠ 0)
  exact ⟨_, (HybridContext.encodeFor_eq_ok ..).mpr ⟨{
    walletIdentity := valid.walletIdentity
    issuerIdentity := by rintro _ ⟨⟩
    transactionId := by rintro _ ⟨⟩
    sessionId := by rintro _ ⟨⟩
    audience := by rintro _ ⟨⟩
    keyGeneration := valid.keyGeneration
    nonce := valid.nonce
    lifetime := valid.lifetime }, rfl, rfl⟩⟩

/-- A wallet export is signed, packaged as a credential wrapper and accepted as one. -/
theorem walletExport_is_wrapped : ∃ emitted signatures,
    referenceSigner.signEnvelope reference storingHost referenceExport = .ok emitted ∧
      verify reference emitted (referenceSigner.parametersFor reference referenceExport) =
        .ok () ∧
      ¬ referenceSigner.WrapsOnly reference storingHost referenceExport signatures emitted
        (referenceSigner.parametersFor reference referenceExport) := by
  obtain ⟨_, allowed⟩ := exportContext_allowed
  obtain ⟨emitted, issued⟩ := referenceSigner_signs allowed
  obtain ⟨_, classical, postQuantum, _, made⟩ := (signEnvelope_eq_ok ..).mp issued
  refine ⟨emitted, ⟨classical, postQuantum⟩, issued, ?_, fun only => ?_⟩
  · exact made.verifies reference_ciborium storing_es256 storing_consistent rfl
  · exact absurd (only.signs emitted issued) (by decide)

end HybridCredentialSigner

end VCIssuer.Service
