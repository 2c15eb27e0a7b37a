import VCIssuer.Library.Machine
import VCIssuer.Library.Wire
import VCIssuer.Service.HybridSigner
import VCIssuer.Service.Reference

/-!
# The stored post-quantum key

The ML-DSA-65 secret key lies in one file, encrypted under a wrapping key from
the Keychain.  Here are the layout of the record, its replacement through a
temporary file, and the start of the service that finds or creates the logical
identity.
-/

namespace VCIssuer.Service

open VCIssuer.Library
open VCIssuer.Library.Checks

/-! ## What the machine answers -/

/-- `Aes256Gcm` of the aes-gcm crate without associated data, on a key, a nonce and a text. -/
structure Aes256Gcm where
  encrypt : Bytes → Bytes → Bytes → Option Bytes
  decrypt : Bytes → Bytes → Bytes → Option Bytes

/-- Octets of a fixed length from the system's random number generator. -/
abbrev Drawn (length : Nat) := { octets : Bytes // octets.length = length }

/-- What `pq_backend::generate` returns. -/
structure GeneratedKeyPair where
  publicKey : Bytes
  secretKey : Bytes
  publicLength : publicKey.length = PqBackend.publicKeyBytes
  secretLength : secretKey.length = PqBackend.secretKeyBytes

/-- The record and the file that it is first written to. -/
structure KeyDirectory where
  record : Option Bytes
  temporary : Option Bytes

/-- How far the file operations of `persist_key` get before one fails or the process dies. -/
inductive Writing where
  | refused
  | stopped (octets : Nat)
  | renamed

/-- One start of the service, as the machine lets it happen. -/
structure Start where
  /-- The answer of `KeychainSigner::find_or_create`. -/
  classical : Option KeychainSigner
  /-- The wrapping key in the Keychain. -/
  wrappingItem : Option Bytes
  /-- A new wrapping key, once it is drawn and in the Keychain. -/
  wrappingDrawn : Option (Drawn 32)
  readable : Bool
  generated : Option GeneratedKeyPair
  nonce : Option (Drawn 12)
  writing : Writing
  /-- The process dies at the end, with everything done but nothing returned. -/
  dies : Bool

/-! ## The record -/

namespace HybridStore

def storeVersion : UInt8 := 1

def nonceBytes : Nat := 12

/-- The octets in front of the ciphertext. -/
def headerBytes : Nat := 1 + 8 + 32 + nonceBytes + PqBackend.publicKeyBytes

def recordBytes : Nat := headerBytes + PqBackend.secretKeyBytes + 16

def encodeRecord (generation : UInt64) (classicalKidHash nonce publicKey ciphertext : Bytes) :
    Bytes :=
  [storeVersion] ++ toBeBytes 8 generation.toNat ++ classicalKidHash ++ nonce ++ publicKey ++
    ciphertext

def KeyDirectory.write (directory : KeyDirectory) (encoded : Bytes) :
    Writing → KeyDirectory × Except HybridSignerError Unit
  | .refused => (directory, .error .storage)
  | .stopped octets => ({ directory with temporary := some (encoded.take octets) }, .error .storage)
  | .renamed => (⟨some encoded, none⟩, .ok ())

section Persist

variable (cipher : Aes256Gcm) (nonce : Option (Drawn 12)) (writing : Writing)
  (directory : KeyDirectory)

def sealSecret (wrappingKey secretKey : Bytes) : Except HybridSignerError (Bytes × Bytes) := do
  rejectIf (wrappingKey.length ≠ 32) .wrapping
  let nonce ← okOr nonce .storage
  let ciphertext ← okOr (cipher.encrypt wrappingKey nonce.val secretKey) .wrapping
  return (nonce.val, ciphertext)

def persistKey (wrappingKey : Bytes) (generation : UInt64)
    (classicalKidHash publicKey secretKey : Bytes) :
    KeyDirectory × Except HybridSignerError Unit :=
  match sealSecret cipher nonce wrappingKey secretKey with
  | .error failure => (directory, .error failure)
  | .ok (nonce, ciphertext) =>
      KeyDirectory.write directory
        (encodeRecord generation classicalKidHash nonce publicKey ciphertext) writing

end Persist

/-- `file` is the content of the record, unless reading it fails. -/
def loadStoredKey (cipher : Aes256Gcm) (file : Option Bytes) (wrappingKey : Bytes) :
    Except HybridSignerError StoredKey := do
  let encoded ← okOr file .storage
  rejectIf (encoded.length ≠ recordBytes ∨ encoded.head? ≠ some storeVersion) .storage
  let generation := UInt64.ofNat (fromBeBytes ((encoded.drop 1).take 8))
  let classicalKidHash := (encoded.drop 9).take 32
  let nonce := (encoded.drop 41).take nonceBytes
  let publicStart := 41 + nonceBytes
  let publicKey := (encoded.drop publicStart).take PqBackend.publicKeyBytes
  let publicEnd := publicStart + PqBackend.publicKeyBytes
  rejectIf (wrappingKey.length ≠ 32) .wrapping
  let secretKey ← okOr (cipher.decrypt wrappingKey nonce (encoded.drop publicEnd)) .wrapping
  rejectIf (secretKey.length ≠ PqBackend.secretKeyBytes) .storage
  return { generation, classicalKidHash, publicKey, secretKey }

/-! ## Records taken apart -/

/-- The fields of a record of the right version and length. -/
@[ext]
structure KeyRecord where
  generation : UInt64
  classicalKidHash : Bytes
  nonce : Bytes
  publicKey : Bytes
  ciphertext : Bytes
  hashLength : classicalKidHash.length = 32
  nonceLength : nonce.length = nonceBytes
  publicLength : publicKey.length = PqBackend.publicKeyBytes
  cipherLength : ciphertext.length = PqBackend.secretKeyBytes + 16

namespace KeyRecord

variable (record : KeyRecord)

def encode : Bytes :=
  encodeRecord record.generation record.classicalKidHash record.nonce record.publicKey
    record.ciphertext

/-- What is in front of the nonce. -/
def prologue : Bytes :=
  [storeVersion] ++ toBeBytes 8 record.generation.toNat ++ record.classicalKidHash

theorem prologue_length : record.prologue.length = 41 := by
  simp [prologue, record.hashLength]

theorem encode_eq : record.encode =
    record.prologue ++ (record.nonce ++ (record.publicKey ++ record.ciphertext)) := by
  simp [encode, encodeRecord, prologue]

theorem encode_length : record.encode.length = recordBytes := by
  rw [encode_eq, List.length_append, List.length_append, List.length_append, prologue_length,
    record.nonceLength, record.publicLength, record.cipherLength]
  rfl

theorem encode_head : record.encode.head? = some storeVersion :=
  rfl

theorem encode_generation :
    UInt64.ofNat (fromBeBytes ((record.encode.drop 1).take 8)) = record.generation := by
  have behind : record.encode.drop 1 = toBeBytes 8 record.generation.toNat ++
      (record.classicalKidHash ++ (record.nonce ++ (record.publicKey ++ record.ciphertext))) := by
    simp [encode, encodeRecord]
  have fits : record.generation.toNat < 256 ^ 8 := record.generation.toNat_lt
  rw [behind, List.take_left' (toBeBytes_length _ _), fromBeBytes_toBeBytes fits,
    UInt64.ofNat_toNat]

theorem encode_classicalKidHash : (record.encode.drop 9).take 32 = record.classicalKidHash := by
  have behind : record.encode = ([storeVersion] ++ toBeBytes 8 record.generation.toNat) ++
      (record.classicalKidHash ++ (record.nonce ++ (record.publicKey ++ record.ciphertext))) := by
    simp [encode, encodeRecord]
  rw [behind, List.drop_left' (by simp), List.take_left' record.hashLength]

theorem encode_nonce : (record.encode.drop 41).take nonceBytes = record.nonce := by
  rw [encode_eq, List.drop_left' record.prologue_length, List.take_left' record.nonceLength]

theorem encode_publicKey :
    (record.encode.drop (41 + nonceBytes)).take PqBackend.publicKeyBytes = record.publicKey := by
  rw [encode_eq, ← List.append_assoc record.prologue, List.drop_left',
    List.take_left' record.publicLength]
  rw [List.length_append, prologue_length, record.nonceLength]

theorem encode_ciphertext :
    record.encode.drop (41 + nonceBytes + PqBackend.publicKeyBytes) = record.ciphertext := by
  rw [encode_eq, ← List.append_assoc record.nonce, ← List.append_assoc record.prologue,
    List.drop_left']
  rw [List.length_append, List.length_append, prologue_length, record.nonceLength,
    record.publicLength, Nat.add_assoc]

theorem encode_behind_header : record.encode.drop headerBytes = record.ciphertext := by
  have header : headerBytes = 41 + nonceBytes + PqBackend.publicKeyBytes := by decide
  rw [header, encode_ciphertext]

end KeyRecord

/-- Every string of the right length and version is a record. -/
theorem exists_keyRecord {encoded : Bytes} (length : encoded.length = recordBytes)
    (version : encoded.head? = some storeVersion) :
    ∃ record : KeyRecord, record.encode = encoded := by
  have total : encoded.length = 1 + 8 + 32 + 12 + 1952 + (4032 + 16) := length
  refine ⟨{
    generation := UInt64.ofNat (fromBeBytes ((encoded.drop 1).take 8))
    classicalKidHash := (encoded.drop 9).take 32
    nonce := (encoded.drop 41).take nonceBytes
    publicKey := (encoded.drop (41 + nonceBytes)).take PqBackend.publicKeyBytes
    ciphertext := encoded.drop (41 + nonceBytes + PqBackend.publicKeyBytes)
    hashLength := by simp; omega
    nonceLength := by simp [nonceBytes]; omega
    publicLength := by simp [nonceBytes, PqBackend.publicKeyBytes]; omega
    cipherLength := by
      simp [nonceBytes, PqBackend.publicKeyBytes, PqBackend.secretKeyBytes]; omega }, ?_⟩
  have octets : ((encoded.drop 1).take 8).length = 8 := by simp; omega
  have small := fromBeBytes_lt ((encoded.drop 1).take 8)
  rw [octets] at small
  have generation := toBeBytes_fromBeBytes ((encoded.drop 1).take 8)
  rw [octets, ← UInt64.toNat_ofNat_of_lt' small] at generation
  have joined : ∀ start count, (encoded.drop start).take count ++ encoded.drop (start + count) =
      encoded.drop start := fun start count => by rw [← List.drop_drop, List.take_append_drop]
  have front : [storeVersion] ++ encoded.drop 1 = encoded := by
    cases encoded with
    | nil => cases version
    | cons first rest =>
        cases version
        rfl
  simp only [KeyRecord.encode, encodeRecord, generation, List.append_assoc]
  rw [joined (41 + nonceBytes), joined 41, joined 9 32, joined 1 8, front]

theorem KeyRecord.encode_injective {first second : KeyRecord}
    (same : first.encode = second.encode) : first = second := by
  have generation := first.encode_generation
  have classicalKidHash := first.encode_classicalKidHash
  have nonce := first.encode_nonce
  have publicKey := first.encode_publicKey
  have ciphertext := first.encode_ciphertext
  rw [same, second.encode_generation] at generation
  rw [same, second.encode_classicalKidHash] at classicalKidHash
  rw [same, second.encode_nonce] at nonce
  rw [same, second.encode_publicKey] at publicKey
  rw [same, second.encode_ciphertext] at ciphertext
  exact KeyRecord.ext generation.symm classicalKidHash.symm nonce.symm publicKey.symm
    ciphertext.symm

/-- A record is loaded if and only if its ciphertext opens to a secret key of the right length. -/
theorem loadStoredKey_eq_ok {cipher : Aes256Gcm} {file : Option Bytes} {wrappingKey : Bytes}
    {stored : StoredKey} :
    loadStoredKey cipher file wrappingKey = .ok stored ↔
      ∃ record : KeyRecord, file = some record.encode ∧ wrappingKey.length = 32 ∧
        cipher.decrypt wrappingKey record.nonce record.ciphertext = some stored.secretKey ∧
        stored.secretKey.length = PqBackend.secretKeyBytes ∧
        stored.generation = record.generation ∧
        stored.classicalKidHash = record.classicalKidHash ∧
        stored.publicKey = record.publicKey := by
  simp only [loadStoredKey, okOr_bind_eq_ok, rejectIf_bind_eq_ok, not_or, not_not, pure_eq_ok]
  constructor
  · rintro ⟨encoded, read, ⟨length, version⟩, key, secretKey, opened, secretLength, made⟩
    obtain ⟨record, rfl⟩ := exists_keyRecord length version
    rw [record.encode_nonce, record.encode_ciphertext] at opened
    rw [record.encode_generation, record.encode_classicalKidHash, record.encode_publicKey] at made
    subst made
    exact ⟨record, read, key, opened, secretLength, rfl, rfl, rfl⟩
  · rintro ⟨record, read, key, opened, secretLength, generation, classicalKidHash, publicKey⟩
    refine ⟨record.encode, read, ⟨record.encode_length, record.encode_head⟩, key, stored.secretKey,
      ?_, secretLength, ?_⟩
    · rw [record.encode_nonce, record.encode_ciphertext]
      exact opened
    · rw [record.encode_generation, record.encode_classicalKidHash, record.encode_publicKey,
        ← generation, ← classicalKidHash, ← publicKey]

/-! ## Tampering -/

/-- A ciphertext is its plaintext and a tag of sixteen octets. -/
structure GcmLaws (cipher : Aes256Gcm) : Prop where
  overhead : ∀ key nonce plaintext ciphertext : Bytes,
    cipher.encrypt key nonce plaintext = some ciphertext →
      ciphertext.length = plaintext.length + 16

/-- One call of `persist_key`. -/
structure PersistCall where
  nonce : Option (Drawn 12)
  writing : Writing
  generation : UInt64
  classicalKidHash : Drawn 32
  pair : GeneratedKeyPair

namespace PersistCall

variable (cipher : Aes256Gcm) (wrappingKey : Bytes) (call : PersistCall)

def persist (directory : KeyDirectory) : KeyDirectory × Except HybridSignerError Unit :=
  persistKey cipher call.nonce call.writing directory wrappingKey call.generation
    call.classicalKidHash.val call.pair.publicKey call.pair.secretKey

/-- What the call is given to store. -/
def stored : StoredKey where
  generation := call.generation
  classicalKidHash := call.classicalKidHash.val
  publicKey := call.pair.publicKey
  secretKey := call.pair.secretKey

/-- The call seals its secret key with this nonce into this ciphertext. -/
def Sealed (nonce ciphertext : Bytes) : Prop :=
  sealSecret cipher call.nonce wrappingKey call.pair.secretKey = .ok (nonce, ciphertext)

/-- The call composes this record, whether or not it reaches the disk. -/
def Composed (encoded : Bytes) : Prop :=
  ∃ nonce ciphertext, call.Sealed cipher wrappingKey nonce ciphertext ∧
    encoded = encodeRecord call.generation call.classicalKidHash.val nonce call.pair.publicKey
      ciphertext

end PersistCall

/-- An ideal cipher under a key that was used by these calls only: what they have sealed opens, and
nothing else does. -/
structure IdealAead (cipher : Aes256Gcm) (wrappingKey : Bytes) (calls : List PersistCall) :
    Prop where
  opens : ∀ call ∈ calls, ∀ nonce ciphertext, call.Sealed cipher wrappingKey nonce ciphertext →
    cipher.decrypt wrappingKey nonce ciphertext = some call.pair.secretKey
  authentic : ∀ nonce ciphertext plaintext,
    cipher.decrypt wrappingKey nonce ciphertext = some plaintext →
      ∃ call ∈ calls, call.Sealed cipher wrappingKey nonce ciphertext

/-- The generation, the classical hash and the public key stand here, which the cipher does not
cover. -/
def Uncovered (position : Nat) : Prop :=
  1 ≤ position ∧ position < 41 ∨ 41 + nonceBytes ≤ position ∧ position < headerBytes

/-- Two strings of one length that are the same wherever the cipher or the version is. -/
def DiffersUncovered (other encoded : Bytes) : Prop :=
  other.length = encoded.length ∧
    ∀ position, other[position]? ≠ encoded[position]? → Uncovered position

section Regions

theorem KeyRecord.encode_getElem?_nonce (record : KeyRecord) {i : Nat} (inside : i < nonceBytes) :
    record.encode[41 + i]? = record.nonce[i]? := by
  rw [← record.encode_nonce, List.getElem?_take_of_lt inside, List.getElem?_drop]

theorem KeyRecord.encode_getElem?_ciphertext (record : KeyRecord) (i : Nat) :
    record.encode[headerBytes + i]? = record.ciphertext[i]? := by
  rw [← record.encode_behind_header, List.getElem?_drop]

/-- A string that differs from a record in what is not covered is a record with the same nonce and
the same ciphertext. -/
theorem differsUncovered_iff {other : Bytes} {record : KeyRecord} :
    DiffersUncovered other record.encode ↔
      ∃ read : KeyRecord, read.encode = other ∧ read.nonce = record.nonce ∧
        read.ciphertext = record.ciphertext := by
  have header : headerBytes = 41 + nonceBytes + PqBackend.publicKeyBytes := by decide
  constructor
  · rintro ⟨length, differs⟩
    have same : ∀ position, ¬ Uncovered position →
        other[position]? = record.encode[position]? :=
      fun position covered => by_contra fun apart => covered (differs position apart)
    have version : other.head? = some storeVersion := by
      rw [List.head?_eq_getElem?, same 0 (by simp [Uncovered]), ← List.head?_eq_getElem?]
      exact record.encode_head
    obtain ⟨read, rfl⟩ := exists_keyRecord (length.trans record.encode_length) version
    refine ⟨read, rfl, List.ext_getElem? fun i => ?_, List.ext_getElem? fun i => ?_⟩
    · by_cases inside : i < nonceBytes
      · rw [← read.encode_getElem?_nonce inside, ← record.encode_getElem?_nonce inside]
        refine same _ ?_
        unfold Uncovered
        omega
      · rw [List.getElem?_eq_none (by rw [read.nonceLength]; omega),
          List.getElem?_eq_none (by rw [record.nonceLength]; omega)]
    · rw [← read.encode_getElem?_ciphertext, ← record.encode_getElem?_ciphertext]
      refine same _ ?_
      unfold Uncovered
      omega
  · rintro ⟨read, rfl, nonce, ciphertext⟩
    refine ⟨read.encode_length.trans record.encode_length.symm, fun position apart => ?_⟩
    by_contra covered
    refine apart ?_
    unfold Uncovered at covered
    have place : position = 0 ∨ 41 ≤ position ∧ position < 41 + nonceBytes ∨
        headerBytes ≤ position := by
      omega
    rcases place with rfl | ⟨behind, before⟩ | behind
    · rw [← List.head?_eq_getElem?, ← List.head?_eq_getElem?, read.encode_head, record.encode_head]
    · obtain ⟨i, rfl⟩ := Nat.exists_eq_add_of_le behind
      have inside : i < nonceBytes := by omega
      rw [read.encode_getElem?_nonce inside, record.encode_getElem?_nonce inside, nonce]
    · obtain ⟨i, rfl⟩ := Nat.exists_eq_add_of_le behind
      rw [read.encode_getElem?_ciphertext, record.encode_getElem?_ciphertext, ciphertext]

end Regions

section Tampering

variable {cipher : Aes256Gcm} {wrappingKey : Bytes} {call : PersistCall} {calls : List PersistCall}
  {directory after : KeyDirectory}

/-- What a call seals is the ciphertext of a record. -/
theorem PersistCall.Sealed.record (gcm : GcmLaws cipher) {nonce ciphertext : Bytes}
    (sealing : call.Sealed cipher wrappingKey nonce ciphertext) :
    wrappingKey.length = 32 ∧
      cipher.encrypt wrappingKey nonce call.pair.secretKey = some ciphertext ∧
      ∃ record : KeyRecord, record.generation = call.generation ∧
        record.classicalKidHash = call.classicalKidHash.val ∧ record.nonce = nonce ∧
        record.publicKey = call.pair.publicKey ∧ record.ciphertext = ciphertext := by
  simp only [PersistCall.Sealed, sealSecret, rejectIf_bind_eq_ok, okOr_bind_eq_ok, not_not,
    pure_eq_ok, Prod.mk.injEq] at sealing
  obtain ⟨key, drawn, _, ciphertext, encrypted, rfl, rfl⟩ := sealing
  exact ⟨key, encrypted, {
    generation := call.generation, classicalKidHash := call.classicalKidHash.val
    nonce := drawn.val, publicKey := call.pair.publicKey, ciphertext
    hashLength := call.classicalKidHash.property
    nonceLength := drawn.property
    publicLength := call.pair.publicLength
    cipherLength := by rw [gcm.overhead _ _ _ _ encrypted, call.pair.secretLength] },
    rfl, rfl, rfl, rfl, rfl⟩

/-- The records of a call are those with what it was given and what it has sealed. -/
theorem PersistCall.composed_iff (gcm : GcmLaws cipher) {encoded : Bytes} :
    call.Composed cipher wrappingKey encoded ↔
      ∃ record : KeyRecord, encoded = record.encode ∧
        call.Sealed cipher wrappingKey record.nonce record.ciphertext ∧
        record.generation = call.generation ∧
        record.classicalKidHash = call.classicalKidHash.val ∧
        record.publicKey = call.pair.publicKey := by
  constructor
  · rintro ⟨nonce, ciphertext, sealing, rfl⟩
    obtain ⟨_, _, record, generation, hash, rfl, publicKey, rfl⟩ := sealing.record gcm
    refine ⟨record, ?_, sealing, generation, hash, publicKey⟩
    rw [KeyRecord.encode, generation, hash, publicKey]
  · rintro ⟨record, rfl, sealing, generation, hash, publicKey⟩
    refine ⟨record.nonce, record.ciphertext, sealing, ?_⟩
    rw [KeyRecord.encode, generation, hash, publicKey]

/-- A call that returned has left the record that it composed, and nothing beside it. -/
theorem PersistCall.persist_eq_ok
    (persisted : call.persist cipher wrappingKey directory = (after, .ok ())) :
    ∃ encoded, call.Composed cipher wrappingKey encoded ∧ after = ⟨some encoded, none⟩ := by
  unfold PersistCall.persist persistKey at persisted
  split at persisted
  case h_1 => cases persisted
  case h_2 nonce ciphertext sealing =>
    refine ⟨_, ⟨nonce, ciphertext, sealing, rfl⟩, ?_⟩
    cases writing : call.writing with
    | refused =>
        rw [writing] at persisted
        cases persisted
    | stopped =>
        rw [writing] at persisted
        cases persisted
    | renamed =>
        rw [writing] at persisted
        exact (Prod.mk.inj persisted).1.symm

/-- What is loaded differs from a composed record in nothing that the cipher covers. -/
theorem loads_iff_differsUncovered (gcm : GcmLaws cipher)
    (ideal : IdealAead cipher wrappingKey calls) (key : wrappingKey.length = 32) (other : Bytes) :
    (∃ stored, loadStoredKey cipher (some other) wrappingKey = .ok stored) ↔
      ∃ call ∈ calls, ∃ composed, call.Composed cipher wrappingKey composed ∧
        DiffersUncovered other composed := by
  constructor
  · rintro ⟨stored, loaded⟩
    obtain ⟨read, same, _, opened, _⟩ := loadStoredKey_eq_ok.mp loaded
    cases same
    obtain ⟨call, among, sealing⟩ := ideal.authentic _ _ _ opened
    obtain ⟨_, _, record, generation, hash, nonce, publicKey, ciphertext⟩ := sealing.record gcm
    refine ⟨call, among, record.encode, (PersistCall.composed_iff gcm).mpr ⟨record, rfl, ?_,
      generation, hash, publicKey⟩, differsUncovered_iff.mpr ⟨read, rfl, nonce.symm,
      ciphertext.symm⟩⟩
    rw [nonce, ciphertext]
    exact sealing
  · rintro ⟨call, among, _, composed, differs⟩
    obtain ⟨record, rfl, sealing, _⟩ := (PersistCall.composed_iff gcm).mp composed
    obtain ⟨read, rfl, nonce, ciphertext⟩ := differsUncovered_iff.mp differs
    have opened := ideal.opens call among _ _ sealing
    rw [← nonce, ← ciphertext] at opened
    exact ⟨⟨read.generation, read.classicalKidHash, read.publicKey, call.pair.secretKey⟩,
      loadStoredKey_eq_ok.mpr ⟨read, rfl, key, opened, call.pair.secretLength, rfl, rfl, rfl⟩⟩

theorem loadStoredKey_composed (gcm : GcmLaws cipher) (ideal : IdealAead cipher wrappingKey calls)
    (among : call ∈ calls) {encoded : Bytes}
    (composed : call.Composed cipher wrappingKey encoded) :
    loadStoredKey cipher (some encoded) wrappingKey = .ok call.stored := by
  obtain ⟨record, rfl, sealing, generation, hash, publicKey⟩ :=
    (PersistCall.composed_iff gcm).mp composed
  exact loadStoredKey_eq_ok.mpr ⟨record, rfl, (sealing.record gcm).1,
    ideal.opens call among _ _ sealing, call.pair.secretLength, generation.symm, hash.symm,
    publicKey.symm⟩

/-- A stored key is loaded as it was stored, and another string in its place is refused exactly when
it differs from everything that was composed under the key in the length, the version, the nonce or
the ciphertext. -/
theorem loadStoredKey_tamperEvident_iff (gcm : GcmLaws cipher)
    (ideal : IdealAead cipher wrappingKey calls) (among : call ∈ calls)
    (persisted : call.persist cipher wrappingKey directory = (after, .ok ())) :
    ∃ encoded, after.record = some encoded ∧
      loadStoredKey cipher (some encoded) wrappingKey = .ok call.stored ∧
      ∀ other, other ≠ encoded →
        ((∃ failure, loadStoredKey cipher (some other) wrappingKey = .error failure) ↔
          ∀ earlier ∈ calls, ∀ composed, earlier.Composed cipher wrappingKey composed →
            ¬ DiffersUncovered other composed) := by
  obtain ⟨encoded, composed, rfl⟩ := call.persist_eq_ok persisted
  have key : wrappingKey.length = 32 := by
    obtain ⟨_, _, sealing, _⟩ := composed
    exact (sealing.record gcm).1
  refine ⟨encoded, rfl, loadStoredKey_composed gcm ideal among composed, fun other _ => ?_⟩
  have refused : (∃ failure, loadStoredKey cipher (some other) wrappingKey = .error failure) ↔
      ¬ ∃ stored, loadStoredKey cipher (some other) wrappingKey = .ok stored := by
    cases loadStoredKey cipher (some other) wrappingKey with
    | error failure => simp
    | ok stored => simp
  rw [refused, loads_iff_differsUncovered gcm ideal key]
  simp only [not_exists, not_and]

end Tampering

/-! ### Records of a reference cipher -/

def referenceTag (key nonce plaintext : Bytes) : Bytes :=
  (Sha256.digest (key ++ nonce ++ plaintext)).take 16

theorem referenceTag_length (key nonce plaintext : Bytes) :
    (referenceTag key nonce plaintext).length = 16 := by
  simp [referenceTag]

/-- A plaintext before its tag. -/
def referenceGcm : Aes256Gcm where
  encrypt key nonce plaintext := some (plaintext ++ referenceTag key nonce plaintext)
  decrypt key nonce ciphertext :=
    let plaintext := ciphertext.take (ciphertext.length - 16)
    if ciphertext = plaintext ++ referenceTag key nonce plaintext then some plaintext else none

theorem referenceGcm_gcm : GcmLaws referenceGcm where
  overhead key nonce plaintext ciphertext encrypted := by
    cases encrypted
    rw [List.length_append, referenceTag_length]

/-- The call that has sealed this. -/
def sealedBy (calls : List PersistCall) (key nonce ciphertext : Bytes) : Option PersistCall :=
  calls.find? fun call => decide
    ((sealSecret referenceGcm call.nonce key call.pair.secretKey).toOption =
      some (nonce, ciphertext))

/-- The same ciphertexts from a cipher that opens only what these calls have sealed. -/
def rememberingGcm (calls : List PersistCall) : Aes256Gcm where
  encrypt := referenceGcm.encrypt
  decrypt key nonce ciphertext := (sealedBy calls key nonce ciphertext).map (·.pair.secretKey)

theorem rememberingGcm_gcm (calls : List PersistCall) : GcmLaws (rememberingGcm calls) where
  overhead := referenceGcm_gcm.overhead

theorem referenceGcm_sealed {wrappingKey nonce ciphertext : Bytes} {call : PersistCall}
    (sealing : call.Sealed referenceGcm wrappingKey nonce ciphertext) :
    ciphertext = call.pair.secretKey ++ referenceTag wrappingKey nonce call.pair.secretKey := by
  obtain ⟨_, encrypted, _⟩ := sealing.record referenceGcm_gcm
  exact (Option.some.inj encrypted).symm

theorem sealedBy_some {calls : List PersistCall} {key nonce ciphertext : Bytes}
    {call : PersistCall} (found : sealedBy calls key nonce ciphertext = some call) :
    call ∈ calls ∧ call.Sealed referenceGcm key nonce ciphertext :=
  ⟨List.mem_of_find?_eq_some found, toOption_eq_some.mp (by simpa using List.find?_some found)⟩

theorem rememberingGcm_ideal (wrappingKey : Bytes) (calls : List PersistCall) :
    IdealAead (rememberingGcm calls) wrappingKey calls where
  opens call among nonce ciphertext sealing := by
    cases found : sealedBy calls wrappingKey nonce ciphertext with
    | none =>
        have missed := List.find?_eq_none.mp found call among
        exact absurd (decide_eq_true (toOption_eq_some.mpr sealing)) missed
    | some first =>
        have same : first.pair.secretKey = call.pair.secretKey :=
          List.append_inj_left' ((referenceGcm_sealed (sealedBy_some found).2).symm.trans
            (referenceGcm_sealed sealing)) (by rw [referenceTag_length, referenceTag_length])
        simp only [rememberingGcm, found, Option.map_some, same]
  authentic nonce ciphertext plaintext opened := by
    obtain ⟨call, found, _⟩ := Option.map_eq_some_iff.mp opened
    exact ⟨call, sealedBy_some found⟩

def referencePair : GeneratedKeyPair where
  publicKey := List.replicate PqBackend.publicKeyBytes 7
  secretKey := List.replicate PqBackend.secretKeyBytes 9
  publicLength := List.length_replicate
  secretLength := List.length_replicate

def referenceWrappingKey : Bytes := List.replicate 32 1

def referenceNonce : Drawn 12 := ⟨List.replicate 12 3, List.length_replicate⟩

/-- The reference key, stored for a generation. -/
def referencePersist (generation : UInt64) : PersistCall where
  nonce := some referenceNonce
  writing := .renamed
  generation := generation
  classicalKidHash := ⟨List.replicate 32 4, List.length_replicate⟩
  pair := referencePair

theorem referencePersist_ok (calls : List PersistCall) (generation : UInt64) :
    (referencePersist generation).persist (rememberingGcm calls) referenceWrappingKey
        ⟨none, none⟩ =
      (((referencePersist generation).persist (rememberingGcm calls) referenceWrappingKey
        ⟨none, none⟩).1, .ok ()) :=
  rfl

/-- After a rotation from generation seven to generation eight. -/
theorem loadStoredKey_tamperEvident_reference :
    ∃ after encoded, (referencePersist 8).persist
        (rememberingGcm [referencePersist 7, referencePersist 8]) referenceWrappingKey
          ⟨none, none⟩ = (after, .ok ()) ∧ after.record = some encoded ∧
      loadStoredKey (rememberingGcm [referencePersist 7, referencePersist 8]) (some encoded)
        referenceWrappingKey = .ok (referencePersist 8).stored ∧
      ∀ other, other ≠ encoded →
        ((∃ failure, loadStoredKey (rememberingGcm [referencePersist 7, referencePersist 8])
            (some other) referenceWrappingKey = .error failure) ↔
          ∀ earlier ∈ [referencePersist 7, referencePersist 8], ∀ composed, earlier.Composed
            (rememberingGcm [referencePersist 7, referencePersist 8]) referenceWrappingKey
              composed → ¬ DiffersUncovered other composed) :=
  let ⟨encoded, loads⟩ := loadStoredKey_tamperEvident_iff
    (rememberingGcm_gcm [referencePersist 7, referencePersist 8])
    (rememberingGcm_ideal referenceWrappingKey [referencePersist 7, referencePersist 8])
    (.tail _ (.head _)) (referencePersist_ok [referencePersist 7, referencePersist 8] 8)
  ⟨_, encoded, referencePersist_ok _ 8, loads⟩

theorem encodeRecord_set_generation (classicalKidHash nonce publicKey ciphertext : Bytes) :
    (encodeRecord 7 classicalKidHash nonce publicKey ciphertext).set 8 8 =
      encodeRecord 8 classicalKidHash nonce publicKey ciphertext :=
  rfl

/-- The generation in a stored record is changed from seven to eight, and the record is loaded, by
a cipher that opens nothing but what was sealed for that record. -/
theorem loadStoredKey_accepts_other_generation :
    ∃ cipher after encoded stored, GcmLaws cipher ∧
      IdealAead cipher referenceWrappingKey [referencePersist 7] ∧
      (referencePersist 7).persist cipher referenceWrappingKey ⟨none, none⟩ = (after, .ok ()) ∧
      after.record = some encoded ∧ encoded.set 8 8 ≠ encoded ∧
      loadStoredKey cipher (some (encoded.set 8 8)) referenceWrappingKey = .ok stored ∧
      stored.generation = 8 := by
  have gcm := rememberingGcm_gcm [referencePersist 7]
  have ideal := rememberingGcm_ideal referenceWrappingKey [referencePersist 7]
  have persisted := referencePersist_ok [referencePersist 7] 7
  obtain ⟨_, composed, placed⟩ := (referencePersist 7).persist_eq_ok persisted
  rw [placed] at persisted
  have loaded := loadStoredKey_composed gcm ideal (.head _) composed
  obtain ⟨record, rfl, sealing, generation, _⟩ := (PersistCall.composed_iff gcm).mp composed
  have changed : record.encode.set 8 8 = { record with generation := 8 }.encode := by
    rw [KeyRecord.encode, generation]
    exact encodeRecord_set_generation ..
  have accepted : loadStoredKey (rememberingGcm [referencePersist 7])
      (some (record.encode.set 8 8)) referenceWrappingKey =
        .ok ⟨8, record.classicalKidHash, record.publicKey, referencePair.secretKey⟩ :=
    loadStoredKey_eq_ok.mpr ⟨{ record with generation := 8 }, congrArg some changed,
      (sealing.record gcm).1, ideal.opens _ (.head _) _ _ sealing, referencePair.secretLength, rfl,
      rfl, rfl⟩
  refine ⟨_, _, _, _, gcm, ideal, persisted, rfl, fun same => ?_, accepted, rfl⟩
  rw [same, loaded] at accepted
  cases congrArg StoredKey.generation (Except.ok.inj accepted)

/-! ## Starting -/

section Starting

variable (crates : Crates) (cipher : Aes256Gcm) (start : Start) (directory : KeyDirectory)

def loadOrCreateWrappingKey : Except HybridSignerError Bytes :=
  match start.wrappingItem with
  | some key => if key.length = 32 then .ok key else .error .storage
  | none =>
      if directory.record.isSome then .error .storage
      else (okOr start.wrappingDrawn .storage).map Subtype.val

/-- The stored key, if there is a record. -/
def storedKey (wrappingKey : Bytes) : Except HybridSignerError (Option StoredKey) :=
  if directory.record.isSome then
    (loadStoredKey cipher (if start.readable then directory.record else none) wrappingKey).map some
  else .ok none

def opening : Except HybridSignerError (KeychainSigner × Bytes × Option StoredKey) := do
  let classical ← okOr start.classical .classical
  let wrappingKey ← loadOrCreateWrappingKey start directory
  let stored ← storedKey cipher start directory wrappingKey
  return (classical, wrappingKey, stored)

def kidHash (classical : KeychainSigner) : Bytes :=
  crates.sha256 (Text.asBytes (classical.kid crates))

def hybridSigner (classical : KeychainSigner) (publicKey : Bytes) (generation : UInt64) :
    HybridCredentialSigner where
  classical := classical
  pqPublicKey := publicKey
  pqKid := crates.urlSafeEncode (crates.sha256 publicKey)
  generation := generation

/-- A new key pair, stored for a generation. -/
def createKey (classical : KeychainSigner) (wrappingKey : Bytes) (generation : UInt64) :
    KeyDirectory × Except HybridSignerError HybridCredentialSigner :=
  match start.generated with
  | none => (directory, .error .postQuantum)
  | some generated =>
      let persisted := persistKey cipher start.nonce start.writing directory wrappingKey generation
        (kidHash crates classical) generated.publicKey generated.secretKey
      (persisted.1, persisted.2.map fun () =>
        hybridSigner crates classical generated.publicKey generation)

def findOrCreate : KeyDirectory × Except HybridSignerError HybridCredentialSigner :=
  match opening cipher start directory with
  | .error failure => (directory, .error failure)
  | .ok (classical, wrappingKey, none) =>
      createKey crates cipher start directory classical wrappingKey 1
  | .ok (classical, wrappingKey, some stored) =>
      if stored.classicalKidHash = kidHash crates classical then
        (directory, .ok (hybridSigner crates classical stored.publicKey stored.generation))
      else
        createKey crates cipher start directory classical wrappingKey
          (saturatingAdd stored.generation 1)

/-- The start would rotate away from the last generation that there is. -/
def Exhausted : Prop :=
  ∃ classical wrappingKey stored,
    opening cipher start directory = .ok (classical, wrappingKey, some stored) ∧
      stored.classicalKidHash ≠ kidHash crates classical ∧ stored.generation.toNat + 1 = 2 ^ 64

end Starting

/-- A start, and the signer that it returned, if it returned one. -/
structure StartEvent where
  start : Start
  outcome : Option HybridCredentialSigner

/-- Starts of the service, one after the other. -/
def starts (crates : Crates) (cipher : Aes256Gcm) : Machine KeyDirectory Start StartEvent where
  step directory start :=
    let found := findOrCreate crates cipher start directory
    some (found.1, ⟨start, if start.dies then none else found.2.toOption⟩)

/-! ### What one start does -/

/-- The record on the disk is that of a signer. -/
structure Names (crates : Crates) (record : KeyRecord) (signer : HybridCredentialSigner) : Prop where
  generation : record.generation = signer.generation
  classicalKidHash : record.classicalKidHash = kidHash crates signer.classical
  publicKey : record.publicKey = signer.pqPublicKey

/-- A start leaves the record as it is, or puts one of the next generation in its place. -/
inductive Transition (crates : Crates) (cipher : Aes256Gcm) (start : Start)
    (before after : KeyDirectory) (outcome : Option HybridCredentialSigner) : Prop
  | kept (same : after.record = before.record)
      (found : ∀ signer, outcome = some signer → start.classical = some signer.classical ∧
        ∃ record : KeyRecord, before.record = some record.encode ∧ Names crates record signer)
  | created (classical : KeychainSigner) (record : KeyRecord)
      (started : start.classical = some classical) (placed : after.record = some record.encode)
      (returned : ∀ signer, outcome = some signer →
        signer.classical = classical ∧ Names crates record signer)
      (hash : record.classicalKidHash = kidHash crates classical)
      (advanced : before.record = none ∨ ∃ old : KeyRecord, before.record = some old.encode ∧
        old.classicalKidHash ≠ record.classicalKidHash ∧
        record.generation = saturatingAdd old.generation 1 ∧
        (old.generation.toNat + 1 = 2 ^ 64 → Exhausted crates cipher start before))

section Transition

variable {crates : Crates} {cipher : Aes256Gcm} {start : Start} {directory after : KeyDirectory}

end Transition

/-! ## Histories of starts -/

/-- The record that a signer was returned with is still there, or one of a later generation. -/
def Remembered (crates : Crates) (directory : KeyDirectory) (signer : HybridCredentialSigner) :
    Prop :=
  ∃ record : KeyRecord, directory.record = some record.encode ∧
    (Names crates record signer ∨ signer.generation < record.generation)

section Transition

variable {crates : Crates} {cipher : Aes256Gcm} {start : Start} {before after : KeyDirectory}
  {outcome : Option HybridCredentialSigner} {signer : HybridCredentialSigner}

theorem Transition.names (taken : Transition crates cipher start before after outcome)
    (returned : outcome = some signer) : start.classical = some signer.classical ∧
      ∃ record : KeyRecord, after.record = some record.encode ∧ Names crates record signer := by
  cases taken with
  | kept same found =>
      obtain ⟨started, record, present, names⟩ := found signer returned
      exact ⟨started, record, same.trans present, names⟩
  | created classical record started placed given hash _ =>
      obtain ⟨rfl, names⟩ := given signer returned
      exact ⟨started, record, placed, names⟩

/-- A start with the Keychain key of the record leaves the record as it is. -/
theorem Transition.unchanged (taken : Transition crates cipher start before after outcome)
    {record : KeyRecord} (present : before.record = some record.encode)
    (same : ∀ classical, start.classical = some classical →
      kidHash crates classical = record.classicalKidHash) :
    after.record = some record.encode := by
  cases taken with
  | kept kept _ => exact kept.trans present
  | created classical _ started _ _ hash advanced =>
      rcases advanced with absent | ⟨old, found, other, _⟩
      · exact absurd (present.symm.trans absent) nofun
      · have equal : old = record :=
          KeyRecord.encode_injective (Option.some.inj (found.symm.trans present))
        exact absurd ((equal ▸ same classical started).symm.trans hash.symm) other

theorem Remembered.step (remembered : Remembered crates before signer)
    (taken : Transition crates cipher start before after outcome)
    (room : ¬ Exhausted crates cipher start before) : Remembered crates after signer := by
  obtain ⟨record, present, known⟩ := remembered
  cases taken with
  | kept same _ => exact ⟨record, same.trans present, known⟩
  | created _ next _ placed _ _ advanced =>
      rcases advanced with absent | ⟨old, found, _, generation, last⟩
      · exact absurd (present.symm.trans absent) nofun
      · have equal : old = record :=
          KeyRecord.encode_injective (Option.some.inj (found.symm.trans present))
        subst equal
        have below : old.generation.toNat < 2 ^ 64 := old.generation.toNat_lt
        have notLast : old.generation.toNat + 1 ≠ 2 ^ 64 := fun full => room (last full)
        refine ⟨next, placed, .inr ?_⟩
        rw [generation, UInt64.lt_iff_toNat_lt, toNat_saturatingAdd]
        have size : UInt64.size = 2 ^ 64 := rfl
        have one : (1 : UInt64).toNat = 1 := rfl
        rcases known with names | earlier
        · rw [names.generation] at below notLast ⊢
          omega
        · rw [UInt64.lt_iff_toNat_lt] at earlier
          omega

end Transition

section Histories

variable {crates : Crates} {cipher : Aes256Gcm} {initial directory : KeyDirectory}
  {trace : List StartEvent}

end Histories

/-! ### Starts of the reference issuer -/

section Histories

variable {crates : Crates} {cipher : Aes256Gcm} {initial directory : KeyDirectory}
  {trace : List StartEvent}

end Histories

end HybridStore

end VCIssuer.Service
