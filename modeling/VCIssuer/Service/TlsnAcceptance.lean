import VCIssuer.Service.EvidenceProvenance

/-!
# Exactly which artifacts are accepted

What `verifyTlsnArtifact` checks, read off the artifact: its age in natural
numbers, its optional members by their presence, and both signatures over one
and the same byte string.
-/

namespace VCIssuer.Service

open VCIssuer.Library
open VCIssuer.Library.Checks

/-! ## The window -/

section Window

variable {now issuedAt : UInt64}

/-- The end of the range of the clock cuts nothing off. -/
theorem le_now_add_five_iff : issuedAt ≤ saturatingAdd now 5 ↔ issuedAt.toNat ≤ now.toNat + 5 := by
  have bound := issuedAt.toNat_lt
  have size : UInt64.size = 2 ^ 64 := rfl
  have five : (5 : UInt64).toNat = 5 := rfl
  rw [UInt64.le_iff_toNat_le, toNat_saturatingAdd, five, size]
  omega

theorem age_le_lifetime_iff :
    saturatingSub now issuedAt ≤ tlsnEvidenceLifetimeSeconds ↔
      now.toNat ≤ issuedAt.toNat + 300 := by
  have lifetime : tlsnEvidenceLifetimeSeconds.toNat = 300 := rfl
  rw [UInt64.le_iff_toNat_le, toNat_saturatingSub, lifetime]
  omega

end Window

theorem present_iff_one_le_len (text : String) : text ≠ "" ↔ 1 ≤ Text.len text := by
  constructor
  · intro present
    exact List.length_pos_iff.mpr (Text.asBytes_ne_nil present)
  · rintro long rfl
    exact absurd long (by decide)

/-! ## Acceptable artifacts -/

section Artifacts

variable (crates : Crates) (artifact : SignedTlsnArtifact)

/-- The trusted notary's key is named and has signed the message. -/
structure ClassicallySigned (trustedKey message : Bytes) : Prop where
  algorithm : artifact.algorithm = "ES256"
  embedded : crates.urlSafeDecode artifact.publicKey = some trustedKey
  signed : ∃ raw signature key, crates.urlSafeDecode artifact.signature = some raw ∧
    crates.signatureFromSlice raw = some signature ∧
    crates.keyFromSec1 trustedKey = some key ∧ crates.verifyEs256 key message signature = true

/-- All three post-quantum members are there, and name and verify under the trusted key. -/
structure PostQuantumSigned (pqKey message : Bytes) : Prop where
  algorithm : artifact.pqAlgorithm = some tlsnArtifactPqAlgorithm
  embedded : ∃ text, artifact.pqPublicKey = some text ∧ crates.urlSafeDecode text = some pqKey
  signed : ∃ text raw, artifact.pqSignature = some text ∧ crates.urlSafeDecode text = some raw ∧
    PqBackend.verifySignature crates pqKey message raw = true

/-- What makes an artifact acceptable at an instant; `message` is its serialised payload. -/
structure AcceptableArtifact (trustedKey : Bytes) (trustedPqKey : Option Bytes) (now : UInt64)
    (message : Bytes) : Prop where
  version : artifact.payload.version = tlsnArtifactVersion
  session : 1 ≤ Text.len artifact.payload.sessionId ∧ Text.len artifact.payload.sessionId ≤ 256
  notAhead : artifact.payload.issuedAt.toNat ≤ now.toNat + 5
  notStale : now.toNat ≤ artifact.payload.issuedAt.toNat + 300
  serialised : crates.tlsnPayloadToVec artifact.payload = some message
  bounded : message.length ≤ maxTlsnArtifactBytes
  classical : ClassicallySigned crates artifact trustedKey message
  postQuantum : ∀ pqKey, trustedPqKey = some pqKey →
    PostQuantumSigned crates artifact pqKey message

/-- The evidence that a payload states. -/
def TlsnArtifactPayload.evidence (payload : TlsnArtifactPayload) : VerifiedTlsnEvidence where
  sessionId := payload.sessionId
  issuedAt := payload.issuedAt
  verifierOutput := payload.verifierOutput

/-- The payload of the pinned version that states the evidence. -/
def VerifiedTlsnEvidence.payload (evidence : VerifiedTlsnEvidence) : TlsnArtifactPayload where
  version := tlsnArtifactVersion
  sessionId := evidence.sessionId
  issuedAt := evidence.issuedAt
  verifierOutput := evidence.verifierOutput

end Artifacts

/-! ## Acceptance -/

section Acceptance

variable {crates : Crates} {artifact : SignedTlsnArtifact} {trustedKey : Bytes}
  {trustedPqKey : Option Bytes} {now : UInt64}

/-- The default of an absent member decodes to no octets, which are neither a key nor a
signature. -/
theorem verifyPqSignature_eq_ok (empty : crates.urlSafeDecode "" = some []) {message : Bytes} :
    verifyPqSignature crates artifact message trustedPqKey = .ok () ↔
      ∀ pqKey, trustedPqKey = some pqKey → PostQuantumSigned crates artifact pqKey message := by
  cases trustedPqKey with
  | none => simp [verifyPqSignature]
  | some pqKey =>
      simp only [verifyPqSignature, rejectIf_bind_eq_ok, okOr_bind_eq_ok, rejectIf_eq_ok, not_not,
        Bool.not_eq_false, Option.some.injEq, forall_eq']
      constructor
      · rintro ⟨algorithm, embedded, decodedKey, rfl, raw, decoded, verified⟩
        have lengths := verified
        simp only [PqBackend.verifySignature, Bool.and_eq_true, decide_eq_true_eq] at lengths
        refine ⟨algorithm, ?_, ?_⟩
        · cases key : artifact.pqPublicKey with
          | some text => exact ⟨text, rfl, by rwa [key] at decodedKey⟩
          | none =>
              rw [key, Option.getD_none, empty, Option.some.injEq] at decodedKey
              rw [← decodedKey] at lengths
              exact absurd lengths.1.1 (by decide)
        · cases signature : artifact.pqSignature with
          | some text => exact ⟨text, raw, rfl, by rwa [signature] at decoded, verified⟩
          | none =>
              rw [signature, Option.getD_none, empty, Option.some.injEq] at decoded
              rw [← decoded] at lengths
              exact absurd lengths.1.2 (by decide)
      · rintro ⟨algorithm, ⟨key, present, decodedKey⟩, text, raw, given, decoded, verified⟩
        refine ⟨algorithm, pqKey, ?_, rfl, raw, ?_, verified⟩
        · rw [present, Option.getD_some, decodedKey]
        · rw [given, Option.getD_some, decoded]

theorem verifyTlsnArtifact_eq_ok (empty : crates.urlSafeDecode "" = some [])
    (evidence : VerifiedTlsnEvidence) :
    verifyTlsnArtifact crates artifact trustedKey trustedPqKey now = .ok evidence ↔
      (∃ message, AcceptableArtifact crates artifact trustedKey trustedPqKey now message) ∧
        evidence = artifact.payload.evidence := by
  simp only [verifyTlsnArtifact, rejectIf_eq_ok, okOr_bind_eq_ok, check_bind_eq_ok,
    verifyPqSignature_eq_ok empty, pure_eq_ok, not_or, not_not, Nat.not_lt, UInt64.not_lt,
    Bool.not_eq_false, present_iff_one_le_len, le_now_add_five_iff, age_le_lifetime_iff]
  constructor
  · rintro ⟨⟨version, algorithm⟩, ⟨present, short, notAhead, notStale⟩, message, serialised,
      bounded, _, embedded, rfl, raw, decoded, signature, sliced, key, read, verified, postQuantum,
      rfl⟩
    exact ⟨⟨message, {
      version, notAhead, notStale, serialised, bounded, postQuantum
      session := ⟨present, short⟩
      classical := ⟨algorithm, embedded, raw, signature, key, decoded, sliced, read, verified⟩ }⟩,
      rfl⟩
  · rintro ⟨⟨message, acceptable⟩, rfl⟩
    obtain ⟨algorithm, embedded, raw, signature, key, decoded, sliced, read, verified⟩ :=
      acceptable.classical
    exact ⟨⟨acceptable.version, algorithm⟩, ⟨acceptable.session.1, acceptable.session.2,
      acceptable.notAhead, acceptable.notStale⟩, message, acceptable.serialised,
      acceptable.bounded, _, embedded, rfl, raw, decoded, signature, sliced, key, read, verified,
      acceptable.postQuantum, rfl⟩

/-- Without a post-quantum key to check, the rest is checked as before. -/
theorem AcceptableArtifact.withoutPqKey {message : Bytes}
    (acceptable : AcceptableArtifact crates artifact trustedKey trustedPqKey now message) :
    AcceptableArtifact crates artifact trustedKey none now message :=
  { acceptable with postQuantum := fun _ impossible => by cases impossible }

/-- The payload is rebuilt from the evidence, as its version is pinned. -/
theorem AcceptableArtifact.payload_evidence {message : Bytes}
    (acceptable : AcceptableArtifact crates artifact trustedKey trustedPqKey now message) :
    artifact.payload.evidence.payload = artifact.payload := by
  rw [VerifiedTlsnEvidence.payload, ← acceptable.version]
  rfl

end Acceptance

/-- An artifact is accepted exactly when it is acceptable.  A post-quantum key only takes artifacts
away and changes no evidence, and the evidence is all that the signatures cover. -/
theorem verifyTlsnArtifact_exact {crates : Crates} (empty : crates.urlSafeDecode "" = some [])
    (artifact : SignedTlsnArtifact) (trustedKey : Bytes) (now : UInt64) :
    (∀ trustedPqKey evidence,
      verifyTlsnArtifact crates artifact trustedKey trustedPqKey now = .ok evidence ↔
        (∃ message, AcceptableArtifact crates artifact trustedKey trustedPqKey now message) ∧
          evidence = artifact.payload.evidence) ∧
      (∀ pqKey evidence,
        verifyTlsnArtifact crates artifact trustedKey (some pqKey) now = .ok evidence →
          verifyTlsnArtifact crates artifact trustedKey none now = .ok evidence) ∧
      ∀ trustedPqKey evidence,
        verifyTlsnArtifact crates artifact trustedKey trustedPqKey now = .ok evidence →
          ∃ message, crates.tlsnPayloadToVec evidence.payload = some message ∧
            ClassicallySigned crates artifact trustedKey message ∧
            ∀ pqKey, trustedPqKey = some pqKey →
              PostQuantumSigned crates artifact pqKey message := by
  refine ⟨fun _ => verifyTlsnArtifact_eq_ok empty, ?_, ?_⟩
  · intro pqKey evidence accepted
    obtain ⟨⟨message, acceptable⟩, stated⟩ := (verifyTlsnArtifact_eq_ok empty evidence).mp accepted
    exact (verifyTlsnArtifact_eq_ok empty evidence).mpr ⟨⟨message, acceptable.withoutPqKey⟩, stated⟩
  · intro trustedPqKey evidence accepted
    obtain ⟨⟨message, acceptable⟩, rfl⟩ := (verifyTlsnArtifact_eq_ok empty evidence).mp accepted
    refine ⟨message, ?_, acceptable.classical, acceptable.postQuantum⟩
    rw [acceptable.payload_evidence, acceptable.serialised]

/-! ## A hybrid artifact -/

namespace Reference

def notaryPqKey : Bytes := List.replicate PqBackend.publicKeyBytes 7

/-- The notarised artifact with a second signature. -/
def hybridArtifact : SignedTlsnArtifact :=
  { notarisedArtifact with
    pqAlgorithm := some tlsnArtifactPqAlgorithm
    pqPublicKey := some (reference.urlSafeEncode notaryPqKey)
    pqSignature := some (reference.urlSafeEncode
      (idealPqSignature notaryPqKey (tlsnPayloadToVec notarisedPayload))) }

theorem hybridArtifact_postQuantum :
    PostQuantumSigned reference hybridArtifact notaryPqKey (tlsnPayloadToVec notarisedPayload) where
  algorithm := rfl
  embedded := ⟨_, rfl, reference_base64.readsWritten _⟩
  signed := by
    refine ⟨_, _, rfl, reference_base64.readsWritten _, ?_⟩
    simp [PqBackend.verifySignature, notaryPqKey, reference]

theorem hybridArtifact_acceptable :
    AcceptableArtifact reference hybridArtifact referenceState.trustedNotaryKey (some notaryPqKey)
      1000 (tlsnPayloadToVec notarisedPayload) where
  version := rfl
  session := by decide
  notAhead := by decide
  notStale := by decide
  serialised := rfl
  bounded := by decide +kernel
  classical := ⟨rfl, reference_base64.readsWritten _, _, _, _, reference_base64.readsWritten _,
    signatureFromSlice_ideal _ _, keyFromSec1_signerAt onCurve₃, verifyEs256_ideal _ _⟩
  postQuantum := by
    rintro _ ⟨⟩
    exact hybridArtifact_postQuantum

end Reference

/-- The hybrid artifact is accepted where a second signature is asked for, and the artifact without
one is not. -/
theorem verifyTlsnArtifact_exact_hybrid :
    verifyTlsnArtifact reference Reference.hybridArtifact referenceState.trustedNotaryKey
        (some Reference.notaryPqKey) 1000 = .ok Reference.notarisedEvidence ∧
      ∀ evidence, verifyTlsnArtifact reference Reference.notarisedArtifact
        referenceState.trustedNotaryKey (some Reference.notaryPqKey) 1000 ≠ .ok evidence := by
  have empty : reference.urlSafeDecode "" = some [] := by decide
  constructor
  · exact ((verifyTlsnArtifact_exact empty _ _ _).1 _ _).mpr
      ⟨⟨_, Reference.hybridArtifact_acceptable⟩, rfl⟩
  · intro evidence accepted
    obtain ⟨⟨_, acceptable⟩, _⟩ := ((verifyTlsnArtifact_exact empty _ _ _).1 _ _).mp accepted
    cases (acceptable.postQuantum _ rfl).algorithm

end VCIssuer.Service
