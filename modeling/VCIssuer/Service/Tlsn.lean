import VCIssuer.Service.Proofs

/-!
# TLSNotary artifacts

A notary signs what a verifier saw of a web session.  An artifact is accepted
when it is fresh and signed by the configured notary, with the post-quantum
signature as well when a key for it is configured.
-/

namespace VCIssuer.Service

open VCIssuer.Library
open VCIssuer.Library.Checks

def tlsnArtifactVersion : String := "tlsn.notary-artifact.v1"
def maxTlsnArtifactBytes : Nat := 256 * 1024
def tlsnEvidenceLifetimeSeconds : UInt64 := 300
def tlsnArtifactPqAlgorithm : String := "ML-DSA-65"

structure SignedTlsnArtifact where
  payload : TlsnArtifactPayload
  algorithm : String
  publicKey : String
  signature : String
  pqAlgorithm : Option String
  pqPublicKey : Option String
  pqSignature : Option String

structure VerifiedTlsnEvidence where
  sessionId : String
  issuedAt : UInt64
  verifierOutput : Value

def evidenceError (description : String) : Failure :=
  oauthError .badRequest "invalid_evidence" description

/-- The post-quantum half, required exactly when a trusted key for it is configured. -/
def verifyPqSignature (crates : Crates) (artifact : SignedTlsnArtifact) (message : Bytes) :
    Option Bytes → Checked Unit
  | none => .ok ()
  | some pqKey => do
      rejectIf (artifact.pqAlgorithm ≠ some tlsnArtifactPqAlgorithm)
        (evidenceError
          "a post-quantum notary signature is required but missing or of an unknown algorithm")
      let embeddedPqKey ← okOr (crates.urlSafeDecode (artifact.pqPublicKey.getD ""))
        (evidenceError "TLSNotary post-quantum public key is malformed")
      rejectIf (embeddedPqKey ≠ pqKey)
        (oauthError .forbidden "invalid_evidence"
          "TLSNotary artifact was not post-quantum signed by the configured notary")
      let pqSignature ← okOr (crates.urlSafeDecode (artifact.pqSignature.getD ""))
        (evidenceError "TLSNotary post-quantum signature is malformed")
      rejectIf (PqBackend.verifySignature crates pqKey message pqSignature = false)
        (oauthError .forbidden "invalid_evidence"
          "TLSNotary post-quantum signature verification failed")

def verifyTlsnArtifact (crates : Crates) (artifact : SignedTlsnArtifact) (trustedKey : Bytes)
    (trustedPqKey : Option Bytes) (now : UInt64) : Checked VerifiedTlsnEvidence := do
  rejectIf (artifact.payload.version ≠ tlsnArtifactVersion ∨ artifact.algorithm ≠ "ES256")
    (evidenceError "unsupported TLSNotary artifact version or algorithm")
  rejectIf
    (artifact.payload.sessionId = "" ∨ 256 < Text.len artifact.payload.sessionId ∨
      saturatingAdd now 5 < artifact.payload.issuedAt ∨
      tlsnEvidenceLifetimeSeconds < saturatingSub now artifact.payload.issuedAt)
    (evidenceError
      "TLSNotary artifact is stale, future-dated, or has an invalid session identifier")
  let message ← okOr (crates.tlsnPayloadToVec artifact.payload)
    (evidenceError "TLSNotary artifact payload cannot be encoded")
  rejectIf (maxTlsnArtifactBytes < message.length)
    (oauthError .payloadTooLarge "invalid_evidence" "TLSNotary artifact exceeds the accepted size")
  let embeddedKey ← okOr (crates.urlSafeDecode artifact.publicKey)
    (evidenceError "TLSNotary public key is malformed")
  rejectIf (embeddedKey ≠ trustedKey)
    (oauthError .forbidden "invalid_evidence"
      "TLSNotary artifact was not signed by the configured notary")
  let signatureBytes ← okOr (crates.urlSafeDecode artifact.signature)
    (evidenceError "TLSNotary signature is malformed")
  let signature ← okOr (crates.signatureFromSlice signatureBytes)
    (evidenceError "TLSNotary signature has an invalid length")
  let key ← okOr (crates.keyFromSec1 trustedKey)
    (oauthError .internalServerError "server_error" "configured TLSNotary key is invalid")
  rejectIf (crates.verifyEs256 key message signature = false)
    (oauthError .forbidden "invalid_evidence" "TLSNotary artifact signature verification failed")
  verifyPqSignature crates artifact message trustedPqKey
  return {
    sessionId := artifact.payload.sessionId
    issuedAt := artifact.payload.issuedAt
    verifierOutput := artifact.payload.verifierOutput
  }

/-- Neither dated ahead of the clock nor older than its lifetime. -/
def SignedTlsnArtifact.FreshAt (artifact : SignedTlsnArtifact) (now : UInt64) : Prop :=
  artifact.payload.issuedAt ≤ saturatingAdd now 5 ∧
    saturatingSub now artifact.payload.issuedAt ≤ tlsnEvidenceLifetimeSeconds

theorem verifyTlsnArtifact_fresh {crates : Crates} {artifact : SignedTlsnArtifact}
    {trustedKey : Bytes} {trustedPqKey : Option Bytes} {now : UInt64}
    {evidence : VerifiedTlsnEvidence}
    (accepted : verifyTlsnArtifact crates artifact trustedKey trustedPqKey now = .ok evidence) :
    artifact.FreshAt now := by
  simp only [verifyTlsnArtifact, rejectIf_bind_eq_ok, not_or, UInt64.not_lt] at accepted
  obtain ⟨_, ⟨_, _, notAhead, notOld⟩, _⟩ := accepted
  exact ⟨notAhead, notOld⟩

/-- Accepted evidence repeats the payload of its artifact. -/
theorem verifyTlsnArtifact_evidence {crates : Crates} {artifact : SignedTlsnArtifact}
    {trustedKey : Bytes} {trustedPqKey : Option Bytes} {now : UInt64}
    {evidence : VerifiedTlsnEvidence}
    (accepted : verifyTlsnArtifact crates artifact trustedKey trustedPqKey now = .ok evidence) :
    evidence.sessionId = artifact.payload.sessionId := by
  simp only [verifyTlsnArtifact, rejectIf_bind_eq_ok, okOr_bind_eq_ok] at accepted
  obtain ⟨_, _, _, _, _, _, _, _, _, _, _, _, _, _, _, closed⟩ := accepted
  obtain ⟨_, _, returned⟩ := (bind_eq_ok _ _ _).mp closed
  rw [← (pure_eq_ok _ _).mp returned]

end VCIssuer.Service
