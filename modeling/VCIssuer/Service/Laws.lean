import Mathlib.Data.List.Forall2
import VCIssuer.Library.Base64
import VCIssuer.Library.Cbor
import VCIssuer.Service.Proofs

/-!
# What is taken for granted of the crates

Each record states documented behaviour of one crate, for the values that the
service hands to it.
-/

namespace VCIssuer.Service

open VCIssuer.Library

/-! ## CBOR -/

/-- How deep the values of the service are nested at most; the reader of the crate follows many
more levels. -/
def cborDepth : Nat := 16

/-- `ciborium` reads what it has written, to the last byte. -/
structure CiboriumLaws (crates : Crates) : Prop where
  readsWritten : ∀ (value : CborValue) (bytes : Bytes), PlainCbor cborDepth value →
    crates.cborToVec value = some bytes → crates.cborFromReader bytes = some (value, bytes.length)

/-- `ciborium` writes a string or a container as a head and its contents, each part as it would
be written by itself. -/
structure CiboriumComposes (crates : Crates) : Prop where
  bytes : ∀ value written, crates.cborToVec (.bytes value) = some written →
    ∃ front, front ≠ [] ∧ written = front ++ value
  array : ∀ items written, crates.cborToVec (.array items) = some written →
    ∃ front parts, front ≠ [] ∧
      List.Forall₂ (fun item part => crates.cborToVec item = some part) items parts ∧
      written = front ++ parts.flatten
  map : ∀ entries written, crates.cborToVec (.map entries) = some written →
    ∃ front parts, front ≠ [] ∧
      List.Forall₂ (fun entry part => ∃ name value, crates.cborToVec entry.1 = some name ∧
        crates.cborToVec entry.2 = some value ∧ part = name ++ value) entries parts ∧
      written = front ++ parts.flatten

section Parts

variable {crates : Crates}

theorem exists_of_forall₂ {α β : Type} {R : α → β → Prop} {xs : List α} {ys : List β}
    (each : List.Forall₂ R xs ys) {x : α} (member : x ∈ xs) : ∃ y ∈ ys, R x y := by
  induction each with
  | nil => exact absurd member List.not_mem_nil
  | cons first _ carried =>
      rcases List.mem_cons.mp member with rfl | member
      · exact ⟨_, .head _, first⟩
      · obtain ⟨y, found, related⟩ := carried member
        exact ⟨y, .tail _ found, related⟩

/-- A byte string stands in what is written of it. -/
theorem CiboriumComposes.content (composes : CiboriumComposes crates) {value written : Bytes}
    (wrote : crates.cborToVec (.bytes value) = some written) : value <:+: written := by
  obtain ⟨front, _, rfl⟩ := composes.bytes _ _ wrote
  exact ⟨front, [], by simp⟩

/-- An entry's value stands in what is written of the map. -/
theorem CiboriumComposes.entry (composes : CiboriumComposes crates)
    {entries : List (CborValue × CborValue)} {written : Bytes}
    (wrote : crates.cborToVec (.map entries) = some written) {entry : CborValue × CborValue}
    (member : entry ∈ entries) :
    ∃ inner, crates.cborToVec entry.2 = some inner ∧ inner <:+: written := by
  obtain ⟨front, parts, _, each, rfl⟩ := composes.map _ _ wrote
  obtain ⟨part, found, name, value, _, wroteValue, rfl⟩ := exists_of_forall₂ each member
  have inside : value <:+: name ++ value := ⟨name, [], by simp⟩
  exact ⟨value, wroteValue, inside.trans ((List.infix_of_mem_flatten found).trans
    (List.suffix_append _ _).isInfix)⟩

/-- An item stands in what is written of the array. -/
theorem CiboriumComposes.item (composes : CiboriumComposes crates) {items : List CborValue}
    {written : Bytes} (wrote : crates.cborToVec (.array items) = some written) {item : CborValue}
    (member : item ∈ items) : ∃ inner, crates.cborToVec item = some inner ∧ inner <:+: written := by
  obtain ⟨front, parts, _, each, rfl⟩ := composes.array _ _ wrote
  obtain ⟨part, found, wroteItem⟩ := exists_of_forall₂ each member
  exact ⟨part, wroteItem, (List.infix_of_mem_flatten found).trans
    (List.suffix_append _ _).isInfix⟩

/-- The items of an array stand one after the other in what is written of it. -/
theorem CiboriumComposes.items (composes : CiboriumComposes crates) {items : List CborValue}
    {parts : List Bytes} {written : Bytes} (wrote : crates.cborToVec (.array items) = some written)
    (each : List.Forall₂ (fun item part => crates.cborToVec item = some part) items parts) :
    parts.flatten <:+: written := by
  obtain ⟨front, others, _, written, rfl⟩ := composes.array _ _ wrote
  have unique : Relator.RightUnique fun item part => crates.cborToVec item = some part :=
    fun _ _ _ first second => Option.some.inj (first.symm.trans second)
  rw [unique.forall₂ each written]
  exact (List.suffix_append _ _).isInfix

/-- Nothing is written as an empty byte string. -/
theorem CiboriumComposes.map_ne_nil (composes : CiboriumComposes crates)
    {entries : List (CborValue × CborValue)} {written : Bytes}
    (wrote : crates.cborToVec (.map entries) = some written) : written ≠ [] := by
  obtain ⟨front, _, present, _, rfl⟩ := composes.map _ _ wrote
  exact List.append_ne_nil_of_left_ne_nil present _

theorem CiboriumComposes.array_ne_nil (composes : CiboriumComposes crates)
    {items : List CborValue} {written : Bytes}
    (wrote : crates.cborToVec (.array items) = some written) : written ≠ [] := by
  obtain ⟨front, _, present, _, rfl⟩ := composes.array _ _ wrote
  exact List.append_ne_nil_of_left_ne_nil present _

end Parts

/-- `ciborium` writes every value that an address space can hold, with heads of nine bytes at
most. -/
structure CiboriumWrites (crates : Crates) : Prop where
  writes : ∀ value : CborValue, PlainCbor cborDepth value → Cbor.size value < 2 ^ 64 →
    ∃ written, crates.cborToVec value = some written ∧ written.length ≤ Cbor.size value

/-- `ciborium` writes every head in as few octets as it can. -/
structure CiboriumShortest (crates : Crates) : Prop where
  shortest : ∀ value written, PlainCbor cborDepth value → crates.cborToVec value = some written →
    written.length = Cbor.length value

/-! ## Base64 and JSON -/

/-- `URL_SAFE_NO_PAD` writes its alphabet only, and reads back what it wrote. -/
structure Base64Laws (crates : Crates) : Prop where
  readsWritten : ∀ bytes : Bytes, crates.urlSafeDecode (crates.urlSafeEncode bytes) = some bytes
  alphabet : ∀ bytes : Bytes, (crates.urlSafeEncode bytes).toList ⊆ Base64.urlSafeSymbols

/-- `URL_SAFE_NO_PAD` takes no padding and no bits behind the last octet, which leaves one
spelling. -/
structure StrictBase64 (crates : Crates) : Prop where
  writesRead : ∀ text bytes, crates.urlSafeDecode text = some bytes →
    crates.urlSafeEncode bytes = text

/-- How deep `serde_json` follows what it reads; it gives up at the 128th level. -/
def jsonDepth : Nat := 127

/-- A claim lies in the array of its disclosure. -/
def claimDepth : Nat := 126

/-- `serde_json` reads what it has written, with the members of every object in order. -/
structure SerdeJsonLaws (crates : Crates) : Prop where
  readsWritten : ∀ value : Value, PlainJson jsonDepth value →
    crates.valueFromSlice (crates.valueToVec value) = some value.canonical

/-- A hash does not send two different inputs to one digest. -/
def CollisionFreeAt {α β : Type} (hash : α → β) (first second : α) : Prop :=
  hash first = hash second → first = second

theorem CollisionFreeAt.eq_iff {α β : Type} {hash : α → β} {first second : α}
    (apart : CollisionFreeAt hash first second) : hash first = hash second ↔ first = second :=
  ⟨apart, congrArg hash⟩

/-- SHA-256 has 32 octets, and base64 makes a third more of any number of them. -/
structure DigestLaws (crates : Crates) : Prop where
  sha256 : ∀ bytes : Bytes, (crates.sha256 bytes).length = 32
  urlSafe : ∀ bytes : Bytes, Text.len (crates.urlSafeEncode bytes) ≤ 2 * bytes.length + 2
  urlSafePresent : ∀ bytes : Bytes, bytes ≠ [] → crates.urlSafeEncode bytes ≠ ""

theorem DigestLaws.len_digest_le {crates : Crates} (laws : DigestLaws crates) (text : String) :
    Text.len (crates.digest text) ≤ 66 := by
  have bound := laws.urlSafe (crates.sha256 (Text.asBytes text))
  rw [laws.sha256] at bound
  exact bound

theorem DigestLaws.digest_ne_empty {crates : Crates} (laws : DigestLaws crates) (text : String) :
    crates.digest text ≠ "" := by
  refine laws.urlSafePresent _ fun empty => ?_
  have length := laws.sha256 (Text.asBytes text)
  rw [empty] at length
  cases length

/-- The Keychain signs whatever it is given with this key, with two numbers of 32 octets. -/
def SignsRaw (host : Host) (signer : KeychainSigner) : Prop :=
  ∀ message, ∃ signature, host.signEs256 signer message = some signature ∧ signature.length = 64

/-- The Keychain has a certificate for every label, and the random generator fills arrays of at
most 32 octets. -/
structure HostAnswers (host : Host) : Prop where
  certificate : ∀ label, ∃ der, host.developmentCertificateDer label = some der ∧
    der.length < 2 ^ 32
  salts : ∀ use index, (host.salt use index).length ≤ 32

/-! ## Derived readers -/

def DpopHeader.ofValue (value : Value) : Option DpopHeader := do
  let field ← value.struct ["alg", "typ", "jwk"]
  let alg ← (← field "alg").asStr
  let typ ← (← field "typ").asStr
  let jwk ← EcJwk.ofValue (← field "jwk")
  return ⟨alg, typ, jwk⟩

def DpopClaims.ofValue (value : Value) : Option DpopClaims := do
  let field ← value.struct ["htm", "htu", "iat", "jti"]
  let htm ← (← field "htm").asStr
  let htu ← (← field "htu").asStr
  let iat ← (← field "iat").asU64
  let jti ← (← field "jti").asStr
  return ⟨htm, htu, iat, jti⟩

def CredentialProofClaims.ofValue (value : Value) : Option CredentialProofClaims := do
  let field ← value.struct ["aud", "iat", "nonce"]
  let aud ← (← field "aud").asStr
  let iat ← (← field "iat").asU64
  let nonce ← (← field "nonce").asStr
  return ⟨aud, iat, nonce⟩

def CaptureEvidenceRequest.ofValue (value : Value) : Option CaptureEvidenceRequest := do
  let field ← value.strictStruct ["attestation", "client_ip"]
  let attestation ← (← field "attestation").asStr
  let clientIp ← optionalString (field "client_ip")
  return ⟨attestation, clientIp⟩

def TokenResponse.ofValue (value : Value) : Option TokenResponse := do
  let field ← value.struct ["token"]
  let token ← (← field "token").asStr
  return ⟨token⟩

/-- An absent verdict is a negative one. -/
def ValidateResponse.ofValue (value : Value) : Option ValidateResponse := do
  let field ← value.struct ["passed", "assurance_type"]
  let passed ← ((field "passed").getD (.bool false)).asBool
  let assuranceType ← optionalString (field "assurance_type")
  return ⟨passed, assuranceType⟩

/-- A derived reader takes from written JSON what it would take from the value read back. -/
structure SerdeStructLaws (crates : Crates) : Prop where
  dpopHeader : ∀ value : Value, PlainJson jsonDepth value →
    crates.dpopHeaderFromSlice (crates.valueToVec value) = DpopHeader.ofValue value.canonical
  dpopClaims : ∀ value : Value, PlainJson jsonDepth value →
    crates.dpopClaimsFromSlice (crates.valueToVec value) = DpopClaims.ofValue value.canonical
  credentialProofClaims : ∀ value : Value, PlainJson jsonDepth value →
    crates.credentialProofClaimsFromSlice (crates.valueToVec value) =
      CredentialProofClaims.ofValue value.canonical
  captureEvidence : ∀ value : Value, PlainJson jsonDepth value →
    crates.captureEvidenceFromSlice (crates.valueToVec value) =
      CaptureEvidenceRequest.ofValue value.canonical
  tokenResponse : ∀ value : Value, PlainJson jsonDepth value →
    crates.tokenResponseFromStr (crates.valueToString value) = TokenResponse.ofValue value.canonical
  validateResponse : ∀ value : Value, PlainJson jsonDepth value →
    crates.validateResponseFromStr (crates.valueToString value) =
      ValidateResponse.ofValue value.canonical

/-! ## Signatures -/

/-- An uncompressed SEC1 point and its affine coordinates are the same key. -/
structure Sec1Laws (crates : Crates) : Prop where
  uncompressed : ∀ x y : Bytes, x.length = 32 → y.length = 32 →
    crates.keyFromSec1 (4 :: x ++ y) = crates.keyFromAffine x y

/-- A key is the point that has the coordinates. -/
structure AffineLaws (crates : Crates) : Prop where
  coordinates : ∀ x y key, crates.keyFromAffine x y = some key → key = ⟨x, y⟩

/-- Somebody can sign under every point, whatever the message. -/
structure PointsSign (crates : Crates) : Prop where
  signs : ∀ x y key, crates.keyFromAffine x y = some key → ∀ message, ∃ raw signature,
    crates.signatureFromSlice raw = some signature ∧ crates.verifyEs256 key message signature = true

/-- What a Keychain key signs verifies under its public point. -/
structure Es256Laws (crates : Crates) (host : Host) : Prop where
  verifiesSigned : ∀ (signer : KeychainSigner) (message signature : Bytes),
    host.signEs256 signer message = some signature →
      ∃ key parsed, crates.keyFromSec1 signer.publicKeyBytes = some key ∧
        crates.signatureFromSlice signature = some parsed ∧
        crates.verifyEs256 key message parsed = true

/-- The two halves of an ML-DSA-65 key belong together. -/
structure MlDsaKeyPair (crates : Crates) (host : Host) (publicKey secretKey : Bytes) : Prop where
  publicLength : publicKey.length = PqBackend.publicKeyBytes
  verifiesSigned : ∀ message signature : Bytes,
    host.signMlDsa65 secretKey message = some signature →
      crates.verifyMlDsa65 publicKey message signature = true

end VCIssuer.Service
