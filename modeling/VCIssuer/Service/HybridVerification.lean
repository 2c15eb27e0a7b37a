import VCIssuer.Service.HybridCanonical
import VCIssuer.Service.HybridSigner

/-!
# Verification of hybrid envelopes

Most fields of a wrapper are outside the signatures.  They are fixed by the
parameters of the verifier, each through a comparison of its own; the signer
makes all of these comparisons but one.
-/

namespace VCIssuer.Service

open VCIssuer.Library
open VCIssuer.Library.Checks

namespace HybridCodec

/-! ## The verifier -/

/-- Both components verify, over the same bytes. -/
structure BothSigned (crates : Crates) (parameters : VerificationParameters)
    (signatures : EnvelopeSignatures) (signed : Bytes) : Prop where
  classical : ∃ key parsed, crates.keyFromSec1 parameters.classicalPublicKey = some key ∧
    crates.signatureFromSlice signatures.classical = some parsed ∧
    crates.verifyEs256 key signed parsed = true
  postQuantum : PqBackend.verifySignature crates parameters.pqPublicKey signed
    signatures.postQuantum = true

/-- What the verifier has established of an envelope. -/
structure Established (crates : Crates) (encoded : Bytes) (parameters : VerificationParameters)
    (unsigned : UnsignedEnvelope) (signatures : EnvelopeSignatures) (signed : Bytes) : Prop where
  decoded : decode crates encoded parameters.purpose parameters.context = .ok (unsigned, signatures)
  purpose : unsigned.purpose = parameters.purpose
  context : unsigned.context = parameters.context
  generation : unsigned.generation = parameters.generation
  keyGeneration : parameters.context.keyGeneration = parameters.generation
  positive : 0 < parameters.generation
  classicalKid : unsigned.classicalKid = parameters.classicalKid
  pqKid : unsigned.pqKid = parameters.pqKid
  covered : tbs crates unsigned = .ok signed
  signed : BothSigned crates parameters signatures signed

theorem verify_eq_ok (crates : Crates) (encoded : Bytes) (parameters : VerificationParameters)
    (done : Unit) :
    verify crates encoded parameters = .ok done ↔
      ∃ unsigned signatures signed,
        Established crates encoded parameters unsigned signatures signed := by
  simp only [verify, bind_eq_ok (decode ..), rejectIf_bind_eq_ok, not_or, not_not,
    bind_eq_ok (tbs ..), okOr_bind_eq_ok, rejectIf_eq_ok, Bool.not_eq_false]
  constructor
  · rintro ⟨⟨unsigned, signatures⟩, decoded, ⟨generation, keyGeneration⟩, ⟨classicalKid, pqKid⟩,
      signed, covered, key, found, parsed, read, classical, postQuantum⟩
    obtain ⟨purpose, context, wrappable, _⟩ := (decode_eq_ok ..).mp decoded
    have positive : 0 < parameters.generation :=
      UInt64.pos_iff_ne_zero.mpr (generation ▸ wrappable.generation)
    exact ⟨unsigned, signatures, signed, decoded, purpose, context, generation,
      context ▸ keyGeneration, positive, classicalKid, pqKid, covered,
      ⟨key, parsed, found, read, classical⟩, postQuantum⟩
  · rintro ⟨unsigned, signatures, signed, established⟩
    obtain ⟨key, parsed, found, read, classical⟩ := established.signed.classical
    refine ⟨_, established.decoded, ⟨established.generation, ?_⟩,
      ⟨established.classicalKid, established.pqKid⟩, signed, established.covered, key, found, parsed,
      read, classical, established.signed.postQuantum⟩
    rw [established.context, established.keyGeneration]

/-- Two envelopes under the same parameters differ in nothing but what they carry and sign. -/
theorem Established.unique {crates : Crates} {parameters : VerificationParameters}
    {encoded other signed otherSigned : Bytes} {unsigned otherUnsigned : UnsignedEnvelope}
    {signatures : EnvelopeSignatures}
    (first : Established crates encoded parameters unsigned signatures signed)
    (second : Established crates other parameters otherUnsigned signatures otherSigned)
    (payload : unsigned.payload = otherUnsigned.payload)
    (disclosures : unsigned.disclosures = otherUnsigned.disclosures) : encoded = other := by
  have same : unsigned = otherUnsigned := by
    have purpose := first.purpose.trans second.purpose.symm
    have context := first.context.trans second.context.symm
    have classicalKid := first.classicalKid.trans second.classicalKid.symm
    have pqKid := first.pqKid.trans second.pqKid.symm
    have generation := first.generation.trans second.generation.symm
    cases unsigned
    cases otherUnsigned
    congr
  subst same
  exact Except.ok.inj ((encode_of_decode first.decoded).symm.trans (encode_of_decode second.decoded))

/-- A verified envelope is what its parameters say, and is the only one with its content. -/
theorem verify_sound_rigid (crates : Crates) :
    (∀ (encoded : Bytes) (parameters : VerificationParameters),
      verify crates encoded parameters = .ok () → ∃ unsigned signatures signed,
        Established crates encoded parameters unsigned signatures signed) ∧
    ∀ (encoded other : Bytes) (parameters : VerificationParameters)
        (unsigned otherUnsigned : UnsignedEnvelope)
        (signatures otherSignatures : EnvelopeSignatures),
      verify crates encoded parameters = .ok () → verify crates other parameters = .ok () →
      decode crates encoded parameters.purpose parameters.context = .ok (unsigned, signatures) →
      decode crates other parameters.purpose parameters.context =
        .ok (otherUnsigned, otherSignatures) →
      unsigned.payload = otherUnsigned.payload →
      unsigned.disclosures = otherUnsigned.disclosures → signatures = otherSignatures →
      encoded = other := by
  refine ⟨fun encoded parameters verified => (verify_eq_ok ..).mp verified, ?_⟩
  intro encoded other parameters unsigned otherUnsigned signatures _ first second decoded
    otherDecoded payload disclosures rfl
  obtain ⟨_, _, signed, established⟩ := (verify_eq_ok ..).mp first
  obtain ⟨_, _, otherSigned, otherEstablished⟩ := (verify_eq_ok ..).mp second
  cases established.decoded.symm.trans decoded
  cases otherEstablished.decoded.symm.trans otherDecoded
  exact established.unique otherEstablished payload disclosures

end HybridCodec

/-! ## The signer -/

namespace HybridCredentialSigner

open HybridCodec

variable {crates : Crates} {host : Host} {self : HybridCredentialSigner}

theorem currentKey_eq_ok (stored : StoredKey) :
    self.currentKey crates host = .ok stored ↔
      host.loadStoredKey self = some stored ∧ stored.generation = self.generation ∧
        stored.publicKey = self.pqPublicKey ∧
        stored.classicalKidHash = crates.sha256 (Text.asBytes (self.classicalKid crates)) := by
  simp only [currentKey, okOr_bind_eq_ok, rejectIf_bind_eq_ok, not_or, not_not, pure_eq_ok]
  constructor
  · rintro ⟨_, found, checked, rfl⟩
    exact ⟨found, checked⟩
  · rintro ⟨found, checked⟩
    exact ⟨stored, found, checked, rfl⟩

/-- How an envelope was signed. -/
structure Signed (crates : Crates) (host : Host) (signer : HybridCredentialSigner)
    (unsigned : UnsignedEnvelope) (encoded signed classical postQuantum : Bytes)
    (stored : StoredKey) : Prop where
  classicalKid : unsigned.classicalKid = signer.classicalKid crates
  pqKid : unsigned.pqKid = signer.pqKid
  generation : unsigned.generation = signer.generation
  covered : tbs crates unsigned = .ok signed
  classicalSigned : host.signEs256 signer.classical signed = some classical
  current : signer.currentKey crates host = .ok stored
  postQuantumSigned : PqBackend.signOnce host stored.secretKey signed = some postQuantum
  wrapped : encode crates unsigned { classical, postQuantum } = .ok encoded

theorem signEnvelope_eq_ok (unsigned : UnsignedEnvelope) (encoded : Bytes) :
    self.signEnvelope crates host unsigned = .ok encoded ↔
      ∃ signed classical postQuantum stored,
        Signed crates host self unsigned encoded signed classical postQuantum stored := by
  simp only [signEnvelope, rejectIf_bind_eq_ok, not_or, not_not, bind_eq_ok (Except.mapError ..),
    mapError_eq_ok, okOr_bind_eq_ok, bind_eq_ok (currentKey ..)]
  constructor
  · rintro ⟨⟨classicalKid, pqKid, generation⟩, signed, covered, classical, signedClassical, stored,
      current, postQuantum, signedPostQuantum, wrapped⟩
    exact ⟨signed, classical, postQuantum, stored, classicalKid, pqKid, generation, covered,
      signedClassical, current, signedPostQuantum, wrapped⟩
  · rintro ⟨signed, classical, postQuantum, stored, made⟩
    exact ⟨⟨made.classicalKid, made.pqKid, made.generation⟩, signed, made.covered, classical,
      made.classicalSigned, stored, made.current, postQuantum, made.postQuantumSigned, made.wrapped⟩

/-- The parameters of a verifier that knows the signer and the context of an envelope. -/
def parametersFor (crates : Crates) (self : HybridCredentialSigner) (unsigned : UnsignedEnvelope) :
    VerificationParameters where
  purpose := unsigned.purpose
  context := unsigned.context
  classicalKid := self.classicalKid crates
  pqKid := self.pqKid
  classicalPublicKey := self.classicalPublicKey
  pqPublicKey := self.pqPublicKey
  generation := self.generation

/-- The signer's stored key, whenever it can be read, is one key. -/
def ConsistentKey (crates : Crates) (host : Host) (self : HybridCredentialSigner) : Prop :=
  ∀ stored, host.loadStoredKey self = some stored →
    MlDsaKeyPair crates host stored.publicKey stored.secretKey

theorem Signed.bothSigned {unsigned : UnsignedEnvelope}
    {encoded signed classical postQuantum : Bytes} {stored : StoredKey}
    (made : Signed crates host self unsigned encoded signed classical postQuantum stored)
    (es256 : Es256Laws crates host) (consistent : ConsistentKey crates host self) :
    BothSigned crates (self.parametersFor crates unsigned) { classical, postQuantum } signed := by
  obtain ⟨loaded, _, publicKey, _⟩ := (currentKey_eq_ok stored).mp made.current
  have pair := consistent stored loaded
  have lengths := ((encode_eq_ok ..).mp made.wrapped).1
  have postQuantumSigned := made.postQuantumSigned
  unfold PqBackend.signOnce at postQuantumSigned
  split at postQuantumSigned
  case isFalse => cases postQuantumSigned
  refine ⟨es256.verifiesSigned _ _ _ made.classicalSigned, ?_⟩
  have verified := pair.verifiesSigned _ _ postQuantumSigned
  have length := pair.publicLength
  rw [publicKey] at verified length
  have signatureLength : postQuantum.length = PqBackend.signatureBytes := lengths.postQuantum
  simp [PqBackend.verifySignature, parametersFor, length, signatureLength, verified]

/-- A signed envelope verifies if its context is of the signer's generation. -/
theorem Signed.verifies {unsigned : UnsignedEnvelope} {encoded signed classical postQuantum : Bytes}
    {stored : StoredKey}
    (made : Signed crates host self unsigned encoded signed classical postQuantum stored)
    (laws : CiboriumLaws crates) (es256 : Es256Laws crates host)
    (consistent : ConsistentKey crates host self)
    (generation : unsigned.context.keyGeneration = self.generation) :
    verify crates encoded (self.parametersFor crates unsigned) = .ok () := by
  have wrappable := ((encode_eq_ok ..).mp made.wrapped).1
  refine (verify_eq_ok ..).mpr ⟨unsigned, { classical, postQuantum }, signed, {
    decoded := decode_of_encode laws made.wrapped
    purpose := rfl
    context := rfl
    generation := made.generation
    keyGeneration := generation
    positive := ?_
    classicalKid := made.classicalKid
    pqKid := made.pqKid
    covered := made.covered
    signed := made.bothSigned es256 consistent }⟩
  change 0 < self.generation
  exact UInt64.pos_iff_ne_zero.mpr (made.generation ▸ wrappable.generation)

/-! ### A signer of the reference issuer -/

def referencePqKey : Bytes :=
  List.replicate PqBackend.publicKeyBytes 7

def referenceSigner : HybridCredentialSigner where
  classical := Reference.signerAt Reference.x₁ Reference.y₁
  pqPublicKey := referencePqKey
  pqKid := "pq"
  generation := 1

def referenceStored : StoredKey where
  generation := 1
  classicalKidHash := reference.sha256 (Text.asBytes (referenceSigner.classicalKid reference))
  publicKey := referencePqKey
  secretKey := Reference.pqSecretKey referencePqKey

/-- The reference host with the signer's key in its store. -/
def storingHost : Host :=
  { referenceHost with loadStoredKey := fun _ => some referenceStored }

theorem storing_consistent : ConsistentKey reference storingHost referenceSigner := by
  rintro _ ⟨⟩
  obtain ⟨publicLength, verifiesSigned⟩ :=
    reference_mlDsa65 (List.length_replicate : referencePqKey.length = PqBackend.publicKeyBytes)
  exact ⟨publicLength, verifiesSigned⟩

theorem storing_es256 : Es256Laws reference storingHost :=
  ⟨reference_es256.verifiesSigned⟩

/-- The reference signer signs for any purpose that allows the context. -/
theorem referenceSigner_signs {purpose : HybridPurpose} {context : HybridContext} {coded : Bytes}
    (allowed : context.encodeFor purpose = .ok coded) :
    ∃ encoded, referenceSigner.signEnvelope reference storingHost
      { referenceEnvelope 1 with purpose, context } = .ok encoded := by
  obtain ⟨signed, covered⟩ := referenceEnvelope_tbs_for allowed
  have classical := Reference.signEs256_signerAt Reference.onCurve₁ signed
  have current : referenceSigner.currentKey reference storingHost = .ok referenceStored :=
    (currentKey_eq_ok referenceStored).mpr ⟨rfl, rfl, rfl, rfl⟩
  have length : referencePqKey.length = PqBackend.publicKeyBytes := List.length_replicate
  have postQuantum : PqBackend.signOnce storingHost referenceStored.secretKey signed =
      some (Reference.signMlDsa65 referenceStored.secretKey signed) :=
    if_pos (Reference.pqSecretKey_length length)
  have pqLength : (Reference.signMlDsa65 referenceStored.secretKey signed).length =
      PqBackend.signatureBytes := Reference.idealPqSignature_length _ _
  obtain ⟨encoded, wrapped⟩ := referenceEnvelope_encode purpose context
    ⟨_, Reference.signMlDsa65 referenceStored.secretKey signed⟩
    (Reference.idealSignature_length (Reference.keyAt Reference.x₁ Reference.y₁) signed) pqLength
  exact ⟨encoded, (signEnvelope_eq_ok ..).mpr
    ⟨signed, _, _, referenceStored, rfl, rfl, rfl, covered, classical, current, postQuantum, wrapped⟩⟩

/-- What the reference signer signs is verified, and nothing else that is verified with it has its
content. -/
theorem verify_sound_rigid_reference :
    ∃ encoded parameters unsigned signatures signed,
      verify reference encoded parameters = .ok () ∧
      Established reference encoded parameters unsigned signatures signed ∧
      ∀ other otherUnsigned, verify reference other parameters = .ok () →
        decode reference other parameters.purpose parameters.context =
          .ok (otherUnsigned, signatures) →
        unsigned.payload = otherUnsigned.payload →
        unsigned.disclosures = otherUnsigned.disclosures → encoded = other := by
  obtain ⟨_, allowed⟩ := referenceContext_allowed (by decide : (1 : UInt64) ≠ 0)
  obtain ⟨encoded, issued⟩ := referenceSigner_signs allowed
  obtain ⟨_, _, _, _, made⟩ := (signEnvelope_eq_ok ..).mp issued
  have verified := made.verifies reference_ciborium storing_es256 storing_consistent rfl
  obtain ⟨sound, rigid⟩ := verify_sound_rigid reference
  obtain ⟨unsigned, signatures, signed, established⟩ := sound _ _ verified
  exact ⟨encoded, _, unsigned, signatures, signed, verified, established,
    fun other otherUnsigned otherVerified decoded payload disclosures =>
      rigid _ _ _ _ _ _ _ verified otherVerified established.decoded decoded payload disclosures
        rfl⟩

/-- The verifier accepts a signed envelope if and only if the generation in its context is the
signer's, which the signer does not check. -/
theorem signEnvelope_verifies_iff (laws : CiboriumLaws crates) (es256 : Es256Laws crates host)
    (consistent : ConsistentKey crates host self) (unsigned : UnsignedEnvelope) (encoded : Bytes)
    (issued : self.signEnvelope crates host unsigned = .ok encoded) :
    verify crates encoded (self.parametersFor crates unsigned) = .ok () ↔
      unsigned.context.keyGeneration = self.generation := by
  obtain ⟨signed, classical, postQuantum, stored, made⟩ := (signEnvelope_eq_ok ..).mp issued
  constructor
  · intro verified
    obtain ⟨_, _, _, established⟩ := (verify_eq_ok ..).mp verified
    exact established.keyGeneration
  · exact made.verifies laws es256 consistent

theorem signEnvelope_verifies_iff_reference :
    ∃ encoded, referenceSigner.signEnvelope reference storingHost (referenceEnvelope 1) =
        .ok encoded ∧
      (verify reference encoded (referenceSigner.parametersFor reference (referenceEnvelope 1)) =
          .ok () ↔
        (referenceEnvelope 1).context.keyGeneration = referenceSigner.generation) := by
  obtain ⟨_, allowed⟩ := referenceContext_allowed (by decide : (1 : UInt64) ≠ 0)
  obtain ⟨encoded, issued⟩ := referenceSigner_signs allowed
  exact ⟨encoded, issued, signEnvelope_verifies_iff reference_ciborium storing_es256
    storing_consistent _ encoded issued⟩

/-- A context of the second generation is signed by the first, and is not accepted. -/
theorem referenceSigner_emits_unverifiable :
    ConsistentKey reference storingHost referenceSigner ∧
    ∃ encoded, referenceSigner.signEnvelope reference storingHost (referenceEnvelope 2) =
        .ok encoded ∧
      verify reference encoded (referenceSigner.parametersFor reference (referenceEnvelope 2)) ≠
        .ok () := by
  obtain ⟨_, allowed⟩ := referenceContext_allowed (by decide : (2 : UInt64) ≠ 0)
  obtain ⟨encoded, issued⟩ := referenceSigner_signs allowed
  refine ⟨storing_consistent, encoded, issued, fun verified => ?_⟩
  obtain ⟨_, _, _, established⟩ := (verify_eq_ok ..).mp verified
  exact absurd established.keyGeneration (by decide : ¬ (2 : UInt64) = 1)

end HybridCredentialSigner

end VCIssuer.Service
