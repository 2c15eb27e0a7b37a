import VCIssuer.Service.HybridCodec

/-!
# The hybrid signer

Both signatures of an envelope are made over the same bytes, with the Keychain
key and with the stored post-quantum key, which must still be the one that the
signer was set up with.
-/

namespace VCIssuer.Service

open VCIssuer.Library
open VCIssuer.Library.Checks
open HybridCodec (UnsignedEnvelope tbs encode)

inductive HybridSignerError where
  | classical
  | storage
  | wrapping
  | postQuantum
  | envelope
  deriving DecidableEq

namespace HybridCredentialSigner

variable (crates : Crates) (host : Host) (self : HybridCredentialSigner)

def classicalKid : String := self.classical.kid crates

def classicalPublicKey : Bytes := self.classical.publicKeyBytes

/-- The stored key, unless another one has taken its place. -/
def currentKey : Except HybridSignerError StoredKey := do
  let stored ← okOr (host.loadStoredKey self) .storage
  rejectIf (stored.generation ≠ self.generation ∨ stored.publicKey ≠ self.pqPublicKey ∨
    stored.classicalKidHash ≠ crates.sha256 (Text.asBytes (self.classicalKid crates))) .storage
  return stored

def signEnvelope (unsigned : UnsignedEnvelope) : Except HybridSignerError Bytes := do
  rejectIf (unsigned.classicalKid ≠ self.classicalKid crates ∨ unsigned.pqKid ≠ self.pqKid ∨
    unsigned.generation ≠ self.generation) .envelope
  let signed ← (tbs crates unsigned).mapError fun _ => .envelope
  let classical ← okOr (host.signEs256 self.classical signed) .classical
  let stored ← self.currentKey crates host
  let postQuantum ← okOr (PqBackend.signOnce host stored.secretKey signed) .postQuantum
  (encode crates unsigned { classical, postQuantum }).mapError fun _ => .envelope

/-- A raw signature over arbitrary bytes, outside any envelope. -/
def signPqRaw (message : Bytes) : Except HybridSignerError Bytes := do
  let stored ← self.currentKey crates host
  okOr (PqBackend.signOnce host stored.secretKey message) .postQuantum

end HybridCredentialSigner

end VCIssuer.Service
