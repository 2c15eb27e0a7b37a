import VCIssuer.Library.Checks
import VCIssuer.Library.Wire
import VCIssuer.Service.Ports

/-!
# Hybrid envelopes

The experimental envelope with an ES256 and an ML-DSA-65 signature over one byte
string: the bytes that are signed, the three CBOR containers, and the verifier.
-/

namespace VCIssuer.Service.HybridCodec

open VCIssuer.Library
open VCIssuer.Library.Checks

/-! ## Constants and data -/

def hybridVersion : Nat := 1
def hybridProfile : String := "euwallet-hybrid-pq-v1"
def hybridFormat : String := "dev-hybrid-pq+cbor"
def signatureDomain : Bytes := Text.asBytes "EUWALLET-HYBRID-SIGNATURE-V1"
def contextDomain : Bytes := Text.asBytes "EUWALLET-HYBRID-CONTEXT-V1"
def envelopeMagic : Bytes := Text.asBytes "EUWALLET-EXPERIMENTAL-HYBRID-PQ-V1\x00"
def maxEnvelopeBytes : Nat := 64 * 1024
def maxComponentEnvelopeBytes : Nat := 8 * 1024
def maxFieldBytes : Nat := 4096
def maxKeyIdBytes : Nat := 128
def minNonceBytes : Nat := 16
def maxNonceBytes : Nat := 64

inductive HybridPurpose where
  | walletExportV1
  | walletRecoveryV1
  | privateProviderMessageV1
  | testSdJwtWrapperV1
  | testMdocWrapperV1
  deriving DecidableEq

namespace HybridPurpose

def id : HybridPurpose → String
  | walletExportV1 => "wallet-export-v1"
  | walletRecoveryV1 => "wallet-recovery-v1"
  | privateProviderMessageV1 => "private-provider-message-v1"
  | testSdJwtWrapperV1 => "test-sd-jwt-wrapper-v1"
  | testMdocWrapperV1 => "test-mdoc-wrapper-v1"

/-- `TryFrom<&str>`. -/
def tryFrom : String → Option HybridPurpose
  | "wallet-export-v1" => some walletExportV1
  | "wallet-recovery-v1" => some walletRecoveryV1
  | "private-provider-message-v1" => some privateProviderMessageV1
  | "test-sd-jwt-wrapper-v1" => some testSdJwtWrapperV1
  | "test-mdoc-wrapper-v1" => some testMdocWrapperV1
  | _ => none

end HybridPurpose

/-- A byte string of a fixed length. -/
abbrev Octets (length : Nat) := { bytes : Bytes // bytes.length = length }

structure HybridContext where
  walletIdentity : Bytes
  issuerIdentity : Option Bytes
  keyGeneration : UInt64
  transactionId : Option Bytes
  sessionId : Option Bytes
  audience : Option Bytes
  nonce : Bytes
  createdAtEpochSeconds : UInt64
  expiresAtEpochSeconds : UInt64
  transcriptHash : Option (Octets 32)
  deriving DecidableEq

structure UnsignedEnvelope where
  purpose : HybridPurpose
  context : HybridContext
  payload : Bytes
  disclosures : List Bytes
  classicalKid : String
  pqKid : String
  generation : UInt64
  deriving DecidableEq

structure EnvelopeSignatures where
  classical : Bytes
  postQuantum : Bytes
  deriving DecidableEq

structure HybridPublicComponents where
  classical : Bytes
  postQuantum : Bytes
  deriving DecidableEq

structure VerificationParameters where
  purpose : HybridPurpose
  context : HybridContext
  classicalKid : String
  pqKid : String
  classicalPublicKey : Bytes
  pqPublicKey : Bytes
  generation : UInt64

inductive HybridCodecError where
  | oversized
  | lengthOverflow
  | malformed
  | duplicateField
  | nonCanonical
  | unsupported
  | missing
  | generationMismatch
  | classicalSignature
  | postQuantumSignature
  deriving DecidableEq

abbrev Coded (α : Type) := Except HybridCodecError α

/-! ## What is signed -/

def requireNonemptyBounded (value : Bytes) : Coded Unit := do
  rejectIf (value = []) .malformed
  rejectIf (maxFieldBytes < value.length) .oversized

def validateOptional (value : Option Bytes) : Coded Unit :=
  match value with
  | some value => requireNonemptyBounded value
  | none => .ok ()

def requirePresent {α : Type} (value : Option α) : Coded Unit :=
  rejectIf value.isNone .missing

def requireAbsent {α : Type} (value : Option α) : Coded Unit :=
  rejectIf value.isSome .unsupported

def appendComponent (output bytes : Bytes) : Coded Bytes := do
  rejectIf (2 ^ 32 ≤ bytes.length) .lengthOverflow
  return output ++ toBeBytes 4 bytes.length ++ bytes

/-- A field that is absent is written as an empty one. -/
def encodeContextField (output : Bytes) (tag : UInt8) (value : Option Bytes) : Coded Bytes :=
  appendComponent (output ++ [tag]) (value.getD [])

namespace HybridContext

variable (self : HybridContext)

def validateCommon : Coded Unit := do
  requireNonemptyBounded self.walletIdentity
  validateOptional self.issuerIdentity
  validateOptional self.transactionId
  validateOptional self.sessionId
  validateOptional self.audience
  rejectIf (self.keyGeneration = 0) .generationMismatch
  rejectIf
    (¬ (minNonceBytes ≤ self.nonce.length ∧ self.nonce.length ≤ maxNonceBytes) ∨
      self.expiresAtEpochSeconds ≤ self.createdAtEpochSeconds)
    .malformed

def validateFor : HybridPurpose → Coded Unit
  | .walletExportV1 | .walletRecoveryV1 => do
      requireAbsent self.issuerIdentity
      requireAbsent self.transactionId
      requireAbsent self.sessionId
      requireAbsent self.audience
      requireAbsent self.transcriptHash
  | .privateProviderMessageV1 => do
      requirePresent self.sessionId
      requirePresent self.audience
      requirePresent self.transcriptHash
  | .testSdJwtWrapperV1 | .testMdocWrapperV1 => do
      requirePresent self.issuerIdentity
      requirePresent self.transactionId
      requirePresent self.audience
      if self.sessionId.isSome then requirePresent self.transcriptHash else return ()

def encodeFor (purpose : HybridPurpose) : Coded Bytes := do
  self.validateCommon
  self.validateFor purpose
  let encoded ← encodeContextField contextDomain 1 (some self.walletIdentity)
  let encoded ← encodeContextField encoded 2 self.issuerIdentity
  let encoded ← encodeContextField encoded 3 (some (toBeBytes 8 self.keyGeneration.toNat))
  let encoded ← encodeContextField encoded 4 self.transactionId
  let encoded ← encodeContextField encoded 5 self.sessionId
  let encoded ← encodeContextField encoded 6 self.audience
  let encoded ← encodeContextField encoded 7 (some self.nonce)
  let encoded ← encodeContextField encoded 8 (some (toBeBytes 8 self.createdAtEpochSeconds.toNat))
  let encoded ← encodeContextField encoded 9 (some (toBeBytes 8 self.expiresAtEpochSeconds.toNat))
  encodeContextField encoded 10 (self.transcriptHash.map (·.val))

end HybridContext

def buildTbs (purpose : HybridPurpose) (context : HybridContext) (payload : Bytes) :
    Coded Bytes := do
  rejectIf (maxFieldBytes < payload.length) .oversized
  let encodedContext ← context.encodeFor purpose
  let output ← appendComponent signatureDomain (Text.asBytes hybridProfile)
  let output ← appendComponent output (Text.asBytes purpose.id)
  let output ← appendComponent output encodedContext
  appendComponent output payload

def pair (key : Nat) (value : CborValue) : CborValue × CborValue :=
  (.integer key, value)

def intoWriter (crates : Crates) (value : CborValue) : Coded Bytes :=
  okOr (crates.cborToVec value) .malformed

/-- The payload together with the ordered list of disclosures. -/
def commitment (unsigned : UnsignedEnvelope) : CborValue :=
  .map [pair 1 (.bytes unsigned.payload), pair 2 (.array (unsigned.disclosures.map .bytes))]

def committedPayload (crates : Crates) (unsigned : UnsignedEnvelope) : Coded Bytes :=
  intoWriter crates (commitment unsigned)

def tbs (crates : Crates) (unsigned : UnsignedEnvelope) : Coded Bytes := do
  let payload ← committedPayload crates unsigned
  buildTbs unsigned.purpose unsigned.context payload

/-! ## Reading canonical CBOR -/

/-- The one item that a byte string consists of, if the writer spells it the same way. -/
def readCanonical (crates : Crates) (body : Bytes) : Coded CborValue := do
  let (value, position) ← okOr (crates.cborFromReader body) .malformed
  rejectIf (position ≠ body.length) .nonCanonical
  let canonical ← intoWriter crates value
  rejectIf (canonical ≠ body) .nonCanonical
  return value

def asEntries (value : CborValue) : Coded (List (CborValue × CborValue)) :=
  okOr value.asMap .malformed

def integer : CborValue → Coded UInt64
  | .integer value =>
      if 0 ≤ value ∧ value < 2 ^ 64 then .ok (UInt64.ofNat value.toNat) else .error .malformed
  | _ => .error .malformed

def text : CborValue → Coded String
  | .text value => .ok value
  | _ => .error .malformed

def bytes : CborValue → Coded Bytes
  | .bytes value => .ok value
  | _ => .error .malformed

def byteItems : List CborValue → Coded (List Bytes)
  | [] => .ok []
  | item :: rest => do
      let first ← bytes item
      let others ← byteItems rest
      return first :: others

def byteArray : CborValue → Coded (List Bytes)
  | .array items => byteItems items
  | _ => .error .malformed

/-! ## The wrapper -/

def requireKid (kid : String) : Coded Unit := do
  rejectIf (kid = "") .malformed
  rejectIf (maxKeyIdBytes < Text.len kid) .oversized

def requireAll : List Bytes → Coded Unit
  | [] => .ok ()
  | value :: rest => do
      requireNonemptyBounded value
      requireAll rest

def wrapper (unsigned : UnsignedEnvelope) (signatures : EnvelopeSignatures) : CborValue :=
  .map
    [ pair 1 (.integer hybridVersion),
      pair 2 (.text hybridProfile),
      pair 3 (.text unsigned.purpose.id),
      pair 4 (.text hybridFormat),
      pair 5 (.bytes unsigned.payload),
      pair 6 (.array (unsigned.disclosures.map .bytes)),
      pair 7 (.text unsigned.classicalKid),
      pair 8 (.text unsigned.pqKid),
      pair 9 (.integer unsigned.generation.toNat),
      pair 10 (.bytes signatures.classical),
      pair 11 (.bytes signatures.postQuantum) ]

def encode (crates : Crates) (unsigned : UnsignedEnvelope) (signatures : EnvelopeSignatures) :
    Coded Bytes := do
  rejectIf
    (signatures.classical.length ≠ 64 ∨ signatures.postQuantum.length ≠ PqBackend.signatureBytes)
    .missing
  requireNonemptyBounded unsigned.payload
  requireAll unsigned.disclosures
  requireKid unsigned.classicalKid
  requireKid unsigned.pqKid
  rejectIf (unsigned.generation = 0) .generationMismatch
  let body ← intoWriter crates (wrapper unsigned signatures)
  let encoded := envelopeMagic ++ body
  rejectIf (maxEnvelopeBytes < encoded.length) .oversized
  return encoded

/-- The entries under integer keys, of which none may repeat. -/
def readFields : List UInt64 → List (CborValue × CborValue) → Coded (List (UInt64 × CborValue))
  | _, [] => .ok []
  | seen, (name, value) :: rest => do
      let key ← integer name
      rejectIf (key ∈ seen) .duplicateField
      let others ← readFields (key :: seen) rest
      return (key, value) :: others

def decode (crates : Crates) (encoded : Bytes) (expectedPurpose : HybridPurpose)
    (context : HybridContext) : Coded (UnsignedEnvelope × EnvelopeSignatures) := do
  rejectIf (maxEnvelopeBytes < encoded.length ∨ ¬ envelopeMagic <+: encoded) .oversized
  let value ← readCanonical crates (encoded.drop envelopeMagic.length)
  let entries ← asEntries value
  let fields ← readFields [] entries
  rejectIf (fields.map Prod.fst ≠ [1, 2, 3, 4, 5, 6, 7, 8, 9, 10, 11]) .missing
  match fields.map Prod.snd with
  | [version, profile, purpose, format, payload, disclosures, classicalKid, pqKid, generation,
      classical, postQuantum] => do
      let version ← integer version
      let profile ← text profile
      let purposeId ← text purpose
      let purpose ← okOr (HybridPurpose.tryFrom purposeId) .unsupported
      let format ← text format
      rejectIf (version.toNat ≠ hybridVersion ∨ profile ≠ hybridProfile ∨
        purpose ≠ expectedPurpose ∨ format ≠ hybridFormat) .unsupported
      let payload ← bytes payload
      requireNonemptyBounded payload
      let disclosures ← byteArray disclosures
      requireAll disclosures
      let classicalKid ← text classicalKid
      let pqKid ← text pqKid
      requireKid classicalKid
      requireKid pqKid
      let generation ← integer generation
      rejectIf (generation = 0) .generationMismatch
      let classical ← bytes classical
      let postQuantum ← bytes postQuantum
      rejectIf (classical.length ≠ 64 ∨ postQuantum.length ≠ PqBackend.signatureBytes) .missing
      return ({ purpose, context, payload, disclosures, classicalKid, pqKid, generation },
        { classical, postQuantum })
  | _ => .error .missing

def verify (crates : Crates) (encoded : Bytes) (parameters : VerificationParameters) :
    Coded Unit := do
  let (unsigned, signatures) ← decode crates encoded parameters.purpose parameters.context
  rejectIf (unsigned.generation ≠ parameters.generation ∨
    unsigned.context.keyGeneration ≠ parameters.generation) .generationMismatch
  rejectIf (unsigned.classicalKid ≠ parameters.classicalKid ∨ unsigned.pqKid ≠ parameters.pqKid)
    .generationMismatch
  let signed ← tbs crates unsigned
  let classicalKey ← okOr (crates.keyFromSec1 parameters.classicalPublicKey) .classicalSignature
  let classicalSignature ← okOr (crates.signatureFromSlice signatures.classical)
    .classicalSignature
  rejectIf (crates.verifyEs256 classicalKey signed classicalSignature = false) .classicalSignature
  rejectIf (PqBackend.verifySignature crates parameters.pqPublicKey signed signatures.postQuantum = false)
    .postQuantumSignature

/-! ## The component containers -/

def encodeComponentEnvelope (crates : Crates) (fields : List (CborValue × CborValue)) :
    Coded Bytes := do
  let body ← intoWriter crates (.map fields)
  let encoded := envelopeMagic ++ body
  rejectIf (maxComponentEnvelopeBytes < encoded.length) .oversized
  return encoded

/-- The entries under the keys `index + 1`, `index + 2` and so on. -/
def readOrderedFields : Nat → List (CborValue × CborValue) → Coded (List (UInt64 × CborValue))
  | _, [] => .ok []
  | index, (name, value) :: rest => do
      let key ← integer name
      rejectIf (key.toNat ≠ index + 1) .duplicateField
      let others ← readOrderedFields (index + 1) rest
      return (key, value) :: others

def decodeComponentEnvelope (crates : Crates) (encoded : Bytes) (expectedFields : Nat) :
    Coded (List (UInt64 × CborValue)) := do
  rejectIf (maxComponentEnvelopeBytes < encoded.length) .oversized
  rejectIf (¬ envelopeMagic <+: encoded) .malformed
  let value ← readCanonical crates (encoded.drop envelopeMagic.length)
  let entries ← asEntries value
  rejectIf (entries.length ≠ expectedFields) .missing
  readOrderedFields 0 entries

/-- Uncompressed SEC1 and ML-DSA-65 keys of the right lengths. -/
def badPublicKeys (classical postQuantum : Bytes) : Prop :=
  classical.length ≠ 65 ∨ classical.head? ≠ some 0x04 ∨ postQuantum.length ≠ PqBackend.publicKeyBytes

instance (classical postQuantum : Bytes) : Decidable (badPublicKeys classical postQuantum) := by
  unfold badPublicKeys; infer_instance

def publicKeyFields (classical postQuantum : Bytes) : List (CborValue × CborValue) :=
  [ pair 1 (.integer hybridVersion),
    pair 2 (.integer 1),
    pair 3 (.text hybridProfile),
    pair 4 (.bytes classical),
    pair 5 (.bytes postQuantum) ]

def encodePublicKeyEnvelope (crates : Crates) (classical postQuantum : Bytes) : Coded Bytes := do
  rejectIf (badPublicKeys classical postQuantum) .malformed
  encodeComponentEnvelope crates (publicKeyFields classical postQuantum)

def decodePublicKeyEnvelope (crates : Crates) (encoded : Bytes) :
    Coded HybridPublicComponents := do
  let fields ← decodeComponentEnvelope crates encoded 5
  match fields.map Prod.snd with
  | [version, kind, profile, classical, postQuantum] => do
      let version ← integer version
      let kind ← integer kind
      let profile ← text profile
      rejectIf (version.toNat ≠ hybridVersion ∨ kind ≠ 1 ∨ profile ≠ hybridProfile) .unsupported
      let classical ← bytes classical
      let postQuantum ← bytes postQuantum
      rejectIf (badPublicKeys classical postQuantum) .malformed
      return { classical, postQuantum }
  | _ => .error .missing

def signatureFields (purpose : HybridPurpose) (signatures : EnvelopeSignatures) :
    List (CborValue × CborValue) :=
  [ pair 1 (.integer hybridVersion),
    pair 2 (.integer 2),
    pair 3 (.text hybridProfile),
    pair 4 (.bytes signatures.classical),
    pair 5 (.bytes signatures.postQuantum),
    pair 6 (.text purpose.id) ]

def encodeSignatureEnvelope (crates : Crates) (purpose : HybridPurpose)
    (signatures : EnvelopeSignatures) : Coded Bytes := do
  rejectIf
    (signatures.classical.length ≠ 64 ∨ signatures.postQuantum.length ≠ PqBackend.signatureBytes)
    .missing
  encodeComponentEnvelope crates (signatureFields purpose signatures)

def decodeSignatureEnvelope (crates : Crates) (encoded : Bytes)
    (expectedPurpose : HybridPurpose) : Coded EnvelopeSignatures := do
  let fields ← decodeComponentEnvelope crates encoded 6
  match fields.map Prod.snd with
  | [version, kind, profile, classical, postQuantum, purpose] => do
      let purposeId ← text purpose
      let purpose ← okOr (HybridPurpose.tryFrom purposeId) .unsupported
      let version ← integer version
      let kind ← integer kind
      let profile ← text profile
      rejectIf (version.toNat ≠ hybridVersion ∨ kind ≠ 2 ∨ profile ≠ hybridProfile ∨
        purpose ≠ expectedPurpose) .unsupported
      let classical ← bytes classical
      let postQuantum ← bytes postQuantum
      rejectIf (classical.length ≠ 64 ∨ postQuantum.length ≠ PqBackend.signatureBytes) .missing
      return { classical, postQuantum }
  | _ => .error .missing

end VCIssuer.Service.HybridCodec
