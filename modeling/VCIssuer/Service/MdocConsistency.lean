import VCIssuer.Service.MdocEncoding
import VCIssuer.Service.Reference

/-!
# What a relying party finds in an mdoc

An mdoc is read back down to the items and the security object.  The digests
are over the bytes that stand in the mdoc, and both signatures are over the
structure that a relying party puts together again.
-/

namespace VCIssuer.Service

open VCIssuer.Library
open VCIssuer.Library.Checks

/-! ## Reading -/

namespace MdocReader

def asInt : CborValue → Option Int
  | .integer value => some value
  | _ => none

def asNat : CborValue → Option Nat
  | .integer value => if 0 ≤ value then some value.toNat else none
  | _ => none

def asText : CborValue → Option String
  | .text value => some value
  | _ => none

/-- The byte string of embedded CBOR. -/
def embedded : CborValue → Option Bytes
  | .tag number (.bytes content) => if number = 24 then some content else none
  | _ => none

def field (value : CborValue) (name : String) : Option CborValue :=
  value.asMap.bind (CborValue.get · name)

/-- The first entry under an integer label. -/
def labelled : List (CborValue × CborValue) → Int → Option CborValue
  | [], _ => none
  | (.integer label, value) :: rest, key => if label = key then some value else labelled rest key
  | _ :: rest, key => labelled rest key

end MdocReader

open MdocReader

structure ReadItem where
  tagged : CborValue
  digestId : Nat
  identifier : String

structure IssuerAuth where
  protectedBytes : Bytes
  unprotected : List (CborValue × CborValue)
  payload : Bytes
  signature : Bytes

section Readers

variable (crates : Crates)

def readItem (tagged : CborValue) : Option ReadItem := do
  let content ← embedded tagged
  let item ← crates.cborFromSlice content
  let digestId ← (field item "digestID").bind asNat
  let identifier ← (field item "elementIdentifier").bind asText
  return { tagged, digestId, identifier }

def readDigest (entry : CborValue × CborValue) : Option (Nat × Bytes) := do
  let digestId ← asNat entry.1
  let digest ← entry.2.asBytes
  return (digestId, digest)

def readIssuerAuth : CborValue → Option IssuerAuth
  | .tag number
      (.array [.bytes protectedBytes, .map unprotected, .bytes payload, .bytes signature]) =>
      if number = 18 then some { protectedBytes, unprotected, payload, signature } else none
  | _ => none

end Readers

/-! ## What is found -/

section Reading

variable {crates : Crates}

theorem CiboriumLaws.fromSlice (laws : CiboriumLaws crates) {value : CborValue} {bytes : Bytes}
    (plain : PlainCbor cborDepth value) (wrote : crates.cborToVec value = some bytes) :
    crates.cborFromSlice bytes = some value := by
  rw [Crates.cborFromSlice, laws.readsWritten value bytes plain wrote, Option.map_some]

theorem readItem_written (laws : CiboriumLaws crates) {salt itemBytes : Bytes} {digestId : Nat}
    {identifier : String} {value : CborValue} (fits : digestId < 2 ^ 64) (leaf : PlainCbor 0 value)
    (item : crates.cborToVec (mdocItem salt digestId identifier value) = some itemBytes) :
    readItem crates (.tag 24 (.bytes itemBytes)) =
      some ⟨.tag 24 (.bytes itemBytes), digestId, identifier⟩ := by
  have read := laws.fromSlice (mdocItem_plain fits leaf) item
  have numbered : field (mdocItem salt digestId identifier value) "digestID" =
      some (cborUint digestId) := by
    simp [field, mdocItem, CborValue.asMap, CborValue.get]
  have named : field (mdocItem salt digestId identifier value) "elementIdentifier" =
      some (.text identifier) := by
    simp [field, mdocItem, CborValue.asMap, CborValue.get]
  refine bind_of_eq_some itemBytes rfl (bind_of_eq_some _ read ?_)
  refine bind_of_eq_some digestId ?_ (bind_of_eq_some identifier ?_ rfl)
  · rw [numbered]
    simp [cborUint, asNat]
  · rw [named]
    rfl

theorem readDigest_written (digestId : Nat) (digest : Bytes) :
    readDigest (cborUint digestId, .bytes digest) = some (digestId, digest) := by
  simp [readDigest, cborUint, asNat, CborValue.asBytes]

/-- The items are read with ids that count up, and the digests under the same ids. -/
theorem ItemsOf.read (laws : CiboriumLaws crates) {random : Nat → Bytes} {digestId : Nat}
    {claims : List (String × CborValue)} {items : List CborValue}
    {digests : List (CborValue × CborValue)} {parts : List Bytes}
    (itemised : ItemsOf crates random digestId claims items digests parts)
    (leaves : ∀ claim ∈ claims, PlainCbor 0 claim.2) (fits : digestId + claims.length ≤ 2 ^ 64) :
    ∃ read, items.mapM (readItem crates) = some read ∧
      read.map (·.digestId) = List.range' digestId claims.length ∧
      read.map (·.identifier) = claims.map Prod.fst ∧
      List.Forall₂ (fun item part => crates.cborToVec item.tagged = some part) read parts ∧
      digests.mapM readDigest =
        some (List.zipWith (fun item part => (item.digestId, crates.sha256 part)) read parts) := by
  induction itemised with
  | nil => exact ⟨[], rfl, rfl, rfl, .nil, rfl⟩
  | @cons digestId identifier value claims items digests parts itemBytes taggedBytes item tagged _
      carried =>
      rw [List.length_cons] at fits
      obtain ⟨leaf, leaves⟩ := List.forall_mem_cons.mp leaves
      obtain ⟨read, itemsRead, digestIds, identifiers, written, digestsRead⟩ :=
        carried leaves (by omega)
      have first := readItem_written laws (by omega) leaf item
      refine ⟨⟨.tag 24 (.bytes itemBytes), digestId, identifier⟩ :: read, ?_, ?_, ?_,
        .cons tagged written, ?_⟩
      · rw [List.mapM_cons, first, itemsRead]
        rfl
      · rw [List.map_cons, digestIds, List.length_cons, List.range'_succ]
      · rw [List.map_cons, identifiers, List.map_cons]
      · rw [List.mapM_cons, readDigest_written, digestsRead]
        rfl

end Reading

section Issued

variable {crates : Crates} {host : Host} {signer : KeychainSigner} {profile : String}
  {holderJwk : Value} {now : UInt64} {pidClaims : Option PidSubjectClaims}
  {hybrid : Option HybridCredentialSigner}

def MdocIssuance.issuerAuth
    (made : MdocIssuance crates host signer profile holderJwk now pidClaims hybrid) : IssuerAuth where
  protectedBytes := made.protectedBytes
  unprotected := made.unprotected
  payload := made.msoPayload
  signature := made.signature

section Decoded

variable (laws : CiboriumLaws crates)
  (made : MdocIssuance crates host signer profile holderJwk now pidClaims hybrid)

include laws

theorem MdocIssuance.decoded : crates.cborFromSlice made.encoded =
    some (issuerSigned made.nameSpace made.items made.protectedBytes made.unprotected
      made.msoPayload made.signature) :=
  laws.fromSlice (issuerSigned_plain (fun item member _ => made.itemised.items_plain item member)
    fun _ => unprotectedHeader_plain made.headed) made.written

theorem MdocIssuance.payload_decoded :
    crates.cborFromSlice made.msoPayload = some (.tag 24 (.bytes made.msoBytes)) :=
  laws.fromSlice tagged_plain made.payload

theorem MdocIssuance.mso_decoded : crates.cborFromSlice made.msoBytes =
    some (mobileSecurityObject made.docType made.nameSpace made.digests
      (deviceKey made.x made.y) made.signedAt made.validUntil) := by
  obtain ⟨count, _, _⟩ := mdocClaims_plain made.claimed
  exact laws.fromSlice (mobileSecurityObject_plain fun _ =>
    made.itemised.digests_plain (by omega)) made.mso

end Decoded

theorem MdocIssuance.issuerAuth_read
    (made : MdocIssuance crates host signer profile holderJwk now pidClaims hybrid) :
    (field (issuerSigned made.nameSpace made.items made.protectedBytes made.unprotected
      made.msoPayload made.signature) "issuerAuth").bind readIssuerAuth =
        some made.issuerAuth := by
  simp [field, issuerSigned, CborValue.asMap, CborValue.get, readIssuerAuth,
    MdocIssuance.issuerAuth]

end Issued

/-! ### A reference PID -/

end VCIssuer.Service
