import Mathlib.Algebra.Order.BigOperators.Group.List
import VCIssuer.Service.HybridVerification

/-!
# When a hybrid credential is issued

The signatures cover the payload and the disclosures in one byte string of at
most four kilobytes.  The length of that string is known before anything is
written, and nothing else stands in the way of a signer that answers.
-/

namespace VCIssuer.Service

open VCIssuer.Library
open VCIssuer.Library.Checks
open HybridCodec (HybridContext UnsignedEnvelope Signable CarriesKid Wrappable commitment
  committedPayload tbs maxFieldBytes)

/-! ## What is written -/

/-- A disclosure before it is written. -/
def hybridDisclosure (crates : Crates) (salt : Bytes) (name : String) (value : Value) : CborValue :=
  .array [.text (crates.urlSafeEncode salt), .text name, .bytes (crates.valueToVec value)]

/-- The disclosures of the claims, from salt number `index` on. -/
def disclosureItems (crates : Crates) (salt : Nat → Bytes) :
    Nat → List (String × Value) → List CborValue
  | _, [] => []
  | index, (name, value) :: rest =>
      hybridDisclosure crates (salt index) name value ::
        disclosureItems crates salt (index + 1) rest

def hybridPayload (crates : Crates) (issuer : Url) (holderJwk : Value) (now : UInt64)
    (disclosures : List Bytes) : CborValue :=
  .map
    [ cborPair 1 (.text issuer.origin),
      cborPair 2 (.integer now.toNat),
      cborPair 3 (.integer (saturatingAdd now 3600).toNat),
      cborPair 4 (.text "dev.advatar.hybrid-pq.credential.v1"),
      cborPair 5 (.bytes (crates.valueToVec holderJwk)),
      cborPair 6 (.array (disclosures.map fun encoded => .bytes (crates.sha256 encoded))),
      cborPair 7 (.bool true) ]

def hybridContext (crates : Crates) (signer : HybridCredentialSigner) (issuer : Url)
    (holderJkt nonce : String) (now : UInt64) : HybridContext where
  walletIdentity := Text.asBytes holderJkt
  issuerIdentity := some (Text.asBytes issuer.origin)
  keyGeneration := signer.generation
  transactionId := some (Text.asBytes nonce)
  sessionId := none
  audience := some (Text.asBytes issuer.origin)
  nonce := crates.sha256 (Text.asBytes nonce)
  createdAtEpochSeconds := now
  expiresAtEpochSeconds := saturatingAdd now 3600
  transcriptHash := none

def hybridEnvelope (crates : Crates) (signer : HybridCredentialSigner) (issuer : Url)
    (holderJkt nonce : String) (now : UInt64) (payload : Bytes) (disclosures : List Bytes) :
    UnsignedEnvelope where
  purpose := .testSdJwtWrapperV1
  context := hybridContext crates signer issuer holderJkt nonce now
  payload := payload
  disclosures := disclosures
  classicalKid := signer.classicalKid crates
  pqKid := signer.pqKid
  generation := signer.generation

section Writing

variable {crates : Crates} {host : Host}

theorem hybridDisclosures_eq_ok {salt : Nat → Bytes} {index : Nat} {claims : List (String × Value)}
    {disclosures : List Bytes} :
    hybridDisclosures crates salt index claims = .ok disclosures ↔
      List.Forall₂ (fun item encoded => crates.cborToVec item = some encoded)
        (disclosureItems crates salt index claims) disclosures := by
  induction claims generalizing index disclosures with
  | nil =>
      constructor
      · intro encoded
        cases encoded
        exact .nil
      · rintro ⟨⟩
        rfl
  | cons claim claims carried =>
      obtain ⟨name, value⟩ := claim
      simp only [hybridDisclosures, encodeCanonicalCbor, okOr_bind_eq_ok,
        bind_eq_ok (hybridDisclosures ..), pure_eq_ok, carried]
      constructor
      · rintro ⟨encoded, first, others, rest, rfl⟩
        exact .cons first rest
      · rintro (_ | ⟨first, rest⟩)
        exact ⟨_, first, _, rest, rfl⟩

theorem issueHybridCredential_eq_ok {signer : HybridCredentialSigner} {issuer : Url}
    {holderJwk : Value} {holderJkt nonce : String} {now : UInt64} {envelope : Bytes} :
    issueHybridCredential crates host signer issuer holderJwk holderJkt nonce now = .ok envelope ↔
      ∃ disclosures payload,
        List.Forall₂ (fun item encoded => crates.cborToVec item = some encoded)
          (disclosureItems crates (host.salt .disclosure) 0 hybridClaims) disclosures ∧
        crates.cborToVec (hybridPayload crates issuer holderJwk now disclosures) = some payload ∧
        signer.signEnvelope crates host
          (hybridEnvelope crates signer issuer holderJkt nonce now payload disclosures) =
            .ok envelope := by
  simp only [issueHybridCredential, encodeCanonicalCbor, bind_eq_ok (hybridDisclosures ..),
    okOr_bind_eq_ok, mapError_eq_ok, hybridDisclosures_eq_ok, exists_and_left]
  rfl

end Writing

/-! ## How long it is -/

section Lengths

variable (crates : Crates) (host : Host) (issuer : Url) (holderJwk : Value) (now : UInt64)

/-- The length of a payload: the identifier of the issuer, two instants and the key, and what is
the same in every payload. -/
def hybridPayloadLength : Nat :=
  149 + Cbor.stringLength (Text.len issuer.origin) + Cbor.headLength now.toNat +
    Cbor.headLength (saturatingAdd now 3600).toNat +
    Cbor.stringLength (crates.valueToVec holderJwk).length

/-- The length of the disclosures, each with a head. -/
def hybridDisclosuresLength : Nat :=
  ((disclosureItems crates (host.salt .disclosure) 0 hybridClaims).map fun item =>
    Cbor.stringLength (Cbor.length item)).sum

/-- The length of a payload and its disclosures in one byte string. -/
def committedLength : Nat :=
  4 + Cbor.stringLength (hybridPayloadLength crates issuer holderJwk now) +
    hybridDisclosuresLength crates host

end Lengths

section Issuing

variable {crates : Crates} {host : Host} {issuer : Url} {holderJwk : Value} {now : UInt64}

theorem hybridPayload_plain (disclosures : List Bytes) :
    PlainCbor cborDepth (hybridPayload crates issuer holderJwk now disclosures) := by
  have instants (instant : UInt64) : PlainCbor 15 (.integer instant.toNat) := by
    have fits := instant.toNat_lt
    exact .integer (by omega) (by exact_mod_cast fits)
  refine .map ?_ ?_ <;>
    simp only [List.forall_mem_cons, List.not_mem_nil, false_imp_iff, implies_true, and_true,
      cborPair]
  · exact ⟨.integer (by decide) (by decide), .integer (by decide) (by decide),
      .integer (by decide) (by decide), .integer (by decide) (by decide),
      .integer (by decide) (by decide), .integer (by decide) (by decide),
      .integer (by decide) (by decide)⟩
  · refine ⟨.text, instants now, instants _, .text, .bytes, .array fun item member => ?_, .bool⟩
    obtain ⟨encoded, _, rfl⟩ := List.mem_map.mp member
    exact .bytes

theorem length_hybridPayload (digest : DigestLaws crates) {disclosures : List Bytes}
    (three : disclosures.length = 3) :
    Cbor.length (hybridPayload crates issuer holderJwk now disclosures) =
      hybridPayloadLength crates issuer holderJwk now := by
  obtain ⟨first, second, third, rfl⟩ := List.length_eq_three.mp three
  have format : Text.len "dev.advatar.hybrid-pq.credential.v1" = 35 := by decide
  have heads : Cbor.headLength 1 = 1 ∧ Cbor.headLength 2 = 1 ∧ Cbor.headLength 3 = 1 ∧
      Cbor.headLength 4 = 1 ∧ Cbor.headLength 5 = 1 ∧ Cbor.headLength 6 = 1 ∧
      Cbor.headLength 7 = 1 ∧ Cbor.stringLength 32 = 34 ∧ Cbor.stringLength 35 = 37 := by decide
  simp only [hybridPayload, hybridPayloadLength, cborPair, Cbor.length, Cbor.lengthEntries,
    Cbor.lengthItems, List.map_cons, List.map_nil, List.length_cons, List.length_nil,
    Int.natCast_nonneg, if_true, Int.toNat_natCast, Nat.zero_add, Nat.reduceAdd, digest.sha256,
    format, heads]
  omega

theorem length_commitment {unsigned : UnsignedEnvelope} (three : unsigned.disclosures.length = 3) :
    Cbor.length (commitment unsigned) =
      4 + Cbor.stringLength unsigned.payload.length +
        (unsigned.disclosures.map fun disclosure => Cbor.stringLength disclosure.length).sum := by
  obtain ⟨first, second, third, same⟩ := List.length_eq_three.mp three
  have heads : Cbor.headLength 1 = 1 ∧ Cbor.headLength 2 = 1 ∧ Cbor.headLength 3 = 1 := by decide
  simp [commitment, HybridCodec.pair, same, Cbor.length, Cbor.lengthEntries, Cbor.lengthItems,
    heads]
  omega

theorem hybridDisclosure_plain (salt : Bytes) (name : String) (value : Value) :
    PlainCbor cborDepth (hybridDisclosure crates salt name value) := by
  refine .array ?_
  simp only [List.forall_mem_cons, List.not_mem_nil, false_imp_iff, implies_true, and_true]
  exact ⟨.text, .text, .bytes⟩

theorem disclosureItems_plain {salt : Nat → Bytes} {claims : List (String × Value)} (index : Nat) :
    ∀ item ∈ disclosureItems crates salt index claims, PlainCbor cborDepth item := by
  induction claims generalizing index with
  | nil => exact fun _ member => absurd member List.not_mem_nil
  | cons claim claims carried =>
      exact List.forall_mem_cons.mpr ⟨hybridDisclosure_plain .., carried _⟩

/-- What is written of plain items has the lengths of the items. -/
theorem CiboriumShortest.lengths (shortest : CiboriumShortest crates) {items : List CborValue}
    {parts : List Bytes} (plain : ∀ item ∈ items, PlainCbor cborDepth item)
    (each : List.Forall₂ (fun item part => crates.cborToVec item = some part) items parts) :
    parts.map List.length = items.map Cbor.length := by
  induction each with
  | nil => rfl
  | cons first _ carried =>
      obtain ⟨here, there⟩ := List.forall_mem_cons.mp plain
      rw [List.map_cons, List.map_cons, shortest.shortest _ _ here first, carried there]

/-- What is committed to is as long as it was known to be. -/
theorem length_committed (shortest : CiboriumShortest crates) (digest : DigestLaws crates)
    {disclosures : List Bytes} {unsigned : UnsignedEnvelope}
    (disclosed : List.Forall₂ (fun item encoded => crates.cborToVec item = some encoded)
      (disclosureItems crates (host.salt .disclosure) 0 hybridClaims) disclosures)
    (paid : crates.cborToVec (hybridPayload crates issuer holderJwk now disclosures) =
      some unsigned.payload)
    (carried : unsigned.disclosures = disclosures) :
    Cbor.length (commitment unsigned) = committedLength crates host issuer holderJwk now := by
  have three : disclosures.length = 3 := disclosed.length_eq.symm
  have lengths := shortest.lengths (disclosureItems_plain 0) disclosed
  have sums := congrArg (fun lengths => (lengths.map Cbor.stringLength).sum) lengths
  simp only [List.map_map] at sums
  rw [length_commitment (carried ▸ three), shortest.shortest _ _ (hybridPayload_plain _) paid,
    length_hybridPayload digest three, carried, committedLength, hybridDisclosuresLength]
  exact congrArg _ sums

theorem disclosureItems_present (composes : CiboriumComposes crates) {salt : Nat → Bytes}
    {claims : List (String × Value)} {index : Nat} {disclosures : List Bytes}
    (disclosed : List.Forall₂ (fun item encoded => crates.cborToVec item = some encoded)
      (disclosureItems crates salt index claims) disclosures) :
    ∀ disclosure ∈ disclosures, disclosure ≠ [] := by
  induction claims generalizing index disclosures with
  | nil =>
      cases disclosed
      exact fun _ member => absurd member List.not_mem_nil
  | cons claim claims carried =>
      cases disclosed with
      | cons first rest =>
          exact List.forall_mem_cons.mpr ⟨composes.array_ne_nil first, carried rest⟩

/-- A value of a known, small length is written. -/
theorem exists_short (writes : CiboriumWrites crates) {value : CborValue}
    (plain : PlainCbor cborDepth value) (short : Cbor.length value ≤ 2 ^ 20) :
    ∃ written, crates.cborToVec value = some written := by
  have size := Cbor.size_le value
  obtain ⟨written, wrote, _⟩ := writes.writes value plain (by omega)
  exact ⟨written, wrote⟩

theorem exists_shorts (writes : CiboriumWrites crates) {items : List CborValue}
    (plain : ∀ item ∈ items, PlainCbor cborDepth item)
    (short : ∀ item ∈ items, Cbor.length item ≤ 2 ^ 20) :
    ∃ parts, List.Forall₂ (fun item part => crates.cborToVec item = some part) items parts := by
  induction items with
  | nil => exact ⟨[], .nil⟩
  | cons item items carried =>
      obtain ⟨here, there⟩ := List.forall_mem_cons.mp plain
      obtain ⟨shortHere, shortThere⟩ := List.forall_mem_cons.mp short
      obtain ⟨part, wrote⟩ := exists_short writes here shortHere
      obtain ⟨parts, each⟩ := carried there shortThere
      exact ⟨part :: parts, .cons wrote each⟩

end Issuing

/-! ## When it is signed -/

/-- Both halves of the hybrid signer answer, with signatures of the right lengths. -/
structure SignsHybrid (crates : Crates) (host : Host) (signer : HybridCredentialSigner) : Prop where
  classical : SignsRaw host signer.classical
  postQuantum : ∃ stored, signer.currentKey crates host = .ok stored ∧
    ∀ message, ∃ signature, PqBackend.signOnce host stored.secretKey message = some signature ∧
      signature.length = PqBackend.signatureBytes

/-- What a signer has from its set-up on. -/
structure SetUp (signer : HybridCredentialSigner) : Prop where
  generation : signer.generation ≠ 0
  pqKid : CarriesKid signer.pqKid

section Signing

variable {crates : Crates} {host : Host} {signer : HybridCredentialSigner} {issuer : Url}
  {holderJwk : Value} {holderJkt nonce : String} {now : UInt64}

theorem hybridContext_valid (digest : DigestLaws crates) (setUp : SetUp signer)
    (origin : Signable (Text.asBytes issuer.origin)) (holder : Signable (Text.asBytes holderJkt))
    (transaction : Signable (Text.asBytes nonce)) (inTime : now.toNat < UInt64.size - 1) :
    (hybridContext crates signer issuer holderJkt nonce now).Valid where
  walletIdentity := holder
  issuerIdentity := fun _ same => Option.some.inj same ▸ origin
  transactionId := fun _ same => Option.some.inj same ▸ transaction
  sessionId := by rintro _ ⟨⟩
  audience := fun _ same => Option.some.inj same ▸ origin
  keyGeneration := setUp.generation
  nonce := by
    have length := digest.sha256 (Text.asBytes nonce)
    simp only [hybridContext, length]
    decide
  lifetime := by
    have lifetime : (3600 : UInt64).toNat = 3600 := rfl
    simp only [hybridContext, UInt64.lt_iff_toNat_lt, toNat_saturatingAdd, lifetime]
    omega

theorem len_hybridProfile : Text.len HybridCodec.hybridProfile = 21 := by decide

theorem len_hybridFormat : Text.len HybridCodec.hybridFormat = 18 := by decide

/-- A wrapper around a short payload and short disclosures is far from the limit. -/
theorem wrapper_size {unsigned : UnsignedEnvelope} {signatures : HybridCodec.EnvelopeSignatures}
    (classical : signatures.classical.length = 64)
    (postQuantum : signatures.postQuantum.length = PqBackend.signatureBytes)
    (payload : unsigned.payload.length ≤ maxFieldBytes)
    (three : unsigned.disclosures.length = 3)
    (disclosures : (unsigned.disclosures.map List.length).sum ≤ maxFieldBytes)
    (classicalKid : CarriesKid unsigned.classicalKid) (pqKid : CarriesKid unsigned.pqKid) :
    Cbor.size (HybridCodec.wrapper unsigned signatures) ≤ 20000 := by
  obtain ⟨first, second, third, same⟩ := List.length_eq_three.mp three
  have purposeText := HybridCodec.purposeId_len_le unsigned.purpose
  have classicalText : Text.len unsigned.classicalKid ≤ 128 := classicalKid.2
  have pqText : Text.len unsigned.pqKid ≤ 128 := pqKid.2
  have bounded : unsigned.payload.length ≤ 4096 := payload
  have length : signatures.postQuantum.length = 3309 := postQuantum
  have together : (unsigned.disclosures.map List.length).sum ≤ 4096 := disclosures
  rw [same] at together
  simp only [List.map_cons, List.map_nil, List.sum_cons, List.sum_nil] at together
  simp only [HybridCodec.wrapper, HybridCodec.pair, same, Cbor.size, Cbor.sizeEntries,
    Cbor.sizeItems, List.map_cons, List.map_nil, classical, length, len_hybridProfile,
    len_hybridFormat]
  clear payload disclosures postQuantum
  omega

theorem sum_lengths_le (items : List CborValue) :
    (items.map Cbor.length).sum ≤
      (items.map fun item => Cbor.stringLength (Cbor.length item)).sum :=
  List.sum_le_sum fun _ _ => Nat.le_add_left _ _

/-- A set-up signer that answers wraps whatever fits under the signatures. -/
theorem signs_hybridEnvelope (writes : CiboriumWrites crates) (digest : DigestLaws crates)
    (setUp : SetUp signer) (signs : SignsHybrid crates host signer)
    (origin : Signable (Text.asBytes issuer.origin)) (holder : Signable (Text.asBytes holderJkt))
    (transaction : Signable (Text.asBytes nonce)) (inTime : now.toNat < UInt64.size - 1)
    {payload committed : Bytes} {disclosures : List Bytes} (paid : Signable payload)
    (three : disclosures.length = 3) (disclosed : ∀ disclosure ∈ disclosures, Signable disclosure)
    (together : (disclosures.map List.length).sum ≤ maxFieldBytes)
    (wrote : crates.cborToVec (commitment (hybridEnvelope crates signer issuer holderJkt nonce now
      payload disclosures)) = some committed)
    (fits : committed.length ≤ maxFieldBytes) :
    ∃ envelope, signer.signEnvelope crates host
      (hybridEnvelope crates signer issuer holderJkt nonce now payload disclosures) =
        .ok envelope := by
  have valid := hybridContext_valid digest setUp origin holder transaction inTime
  have coded : (hybridContext crates signer issuer holderJkt nonce now).encodeFor
      .testSdJwtWrapperV1 = .ok _ := (HybridCodec.HybridContext.encodeFor_eq_ok ..).mpr
    ⟨valid, rfl, rfl⟩
  have covered : tbs crates (hybridEnvelope crates signer issuer holderJkt nonce now payload
      disclosures) = .ok _ := (bind_eq_ok ..).mpr
    ⟨committed, (HybridCodec.intoWriter_eq_ok ..).mpr wrote,
      (HybridCodec.buildTbs_eq_ok ..).mpr ⟨fits, _, coded, rfl⟩⟩
  obtain ⟨classical, classicalSigned, classicalLength⟩ := signs.classical _
  obtain ⟨stored, current, answers⟩ := signs.postQuantum
  obtain ⟨postQuantum, postQuantumSigned, postQuantumLength⟩ := answers _
  have kid : CarriesKid (signer.classicalKid crates) :=
    ⟨digest.digest_ne_empty _, (digest.len_digest_le _).trans (by decide)⟩
  have size := @wrapper_size (hybridEnvelope crates signer issuer holderJkt nonce now payload
    disclosures) ⟨classical, postQuantum⟩ classicalLength postQuantumLength paid.2 three together
    kid setUp.pqKid
  obtain ⟨body, spelled, length⟩ :=
    writes.writes _ (HybridCodec.wrapper_plain _ _) (size.trans_lt (by decide))
  have wrapped : HybridCodec.encode crates (hybridEnvelope crates signer issuer holderJkt nonce now
      payload disclosures) ⟨classical, postQuantum⟩ = .ok _ := (HybridCodec.encode_eq_ok ..).mpr
    ⟨⟨classicalLength, postQuantumLength, paid, disclosed, kid, setUp.pqKid, setUp.generation⟩,
      by
        have magic : HybridCodec.envelopeMagic.length ≤ 100 := by decide
        have limit : HybridCodec.maxEnvelopeBytes = 65536 := rfl
        rw [List.length_append]
        omega,
      body, spelled, rfl⟩
  exact ⟨_, HybridCredentialSigner.signEnvelope_eq_ok .. |>.mpr
    ⟨_, classical, postQuantum, stored, rfl, rfl, rfl, covered, classicalSigned, current,
      postQuantumSigned, wrapped⟩⟩

/-- The payload and the disclosures must fit under the signatures; nothing else is needed. -/
theorem issueHybridCredential_iff (writes : CiboriumWrites crates)
    (shortest : CiboriumShortest crates) (composes : CiboriumComposes crates)
    (digest : DigestLaws crates) (setUp : SetUp signer) (signs : SignsHybrid crates host signer)
    (named : issuer.origin ≠ "") (holder : Signable (Text.asBytes holderJkt))
    (transaction : Signable (Text.asBytes nonce)) (inTime : now.toNat < UInt64.size - 1) :
    (∃ envelope, issueHybridCredential crates host signer issuer holderJwk holderJkt nonce now =
        .ok envelope) ↔ committedLength crates host issuer holderJwk now ≤ maxFieldBytes := by
  simp only [issueHybridCredential_eq_ok]
  constructor
  · rintro ⟨_, disclosures, payload, disclosed, paid, signed⟩
    obtain ⟨_, _, _, _, made⟩ := (HybridCredentialSigner.signEnvelope_eq_ok ..).mp signed
    obtain ⟨committed, commits, built⟩ := (bind_eq_ok ..).mp made.covered
    have wrote := (HybridCodec.intoWriter_eq_ok ..).mp commits
    have length : Cbor.length (commitment (hybridEnvelope crates signer issuer holderJkt nonce now
        payload disclosures)) = _ := length_committed shortest digest disclosed paid rfl
    rw [← length, ← shortest.shortest _ _ (HybridCodec.commitment_plain _) wrote]
    exact ((HybridCodec.buildTbs_eq_ok ..).mp built).1
  · intro fits
    have field : maxFieldBytes = 4096 := rfl
    have parts := fits
    simp only [committedLength, hybridPayloadLength, Cbor.stringLength] at parts
    have each : ∀ item ∈ disclosureItems crates (host.salt .disclosure) 0 hybridClaims,
        Cbor.stringLength (Cbor.length item) ≤ hybridDisclosuresLength crates host :=
      fun item member => List.single_le_sum (fun _ _ => Nat.zero_le _) _
        (List.mem_map_of_mem member)
    have short : ∀ item ∈ disclosureItems crates (host.salt .disclosure) 0 hybridClaims,
        Cbor.length item ≤ 4096 := by
      intro item member
      have bound := each item member
      rw [Cbor.stringLength] at bound
      omega
    obtain ⟨disclosures, disclosed⟩ := exists_shorts writes (disclosureItems_plain 0)
      fun item member => (short item member).trans (by decide)
    have three : disclosures.length = 3 := disclosed.length_eq.symm
    have payloadLength := @length_hybridPayload crates issuer holderJwk now digest _ three
    have payloadShort : hybridPayloadLength crates issuer holderJwk now ≤ maxFieldBytes := by
      simp only [hybridPayloadLength, Cbor.stringLength]
      omega
    obtain ⟨payload, paid⟩ := exists_short writes (hybridPayload_plain disclosures)
      (payloadLength.trans_le (payloadShort.trans (by decide)))
    have length : Cbor.length (commitment (hybridEnvelope crates signer issuer holderJkt nonce now
        payload disclosures)) = _ := length_committed shortest digest disclosed paid rfl
    obtain ⟨committed, wrote⟩ := exists_short writes (HybridCodec.commitment_plain _)
      (length.trans_le (fits.trans (by decide)))
    have lengths := shortest.lengths (disclosureItems_plain 0) disclosed
    have together : (disclosures.map List.length).sum ≤ maxFieldBytes := by
      have bounded : hybridDisclosuresLength crates host ≤ maxFieldBytes := by omega
      rw [lengths]
      exact (sum_lengths_le _).trans bounded
    have presented : ∀ disclosure ∈ disclosures, Signable disclosure := by
      intro disclosure member
      refine ⟨disclosureItems_present composes disclosed _ member, ?_⟩
      exact (List.single_le_sum (fun _ _ => Nat.zero_le _) _
        (List.mem_map_of_mem member)).trans together
    have paidLength := (shortest.shortest _ _ (hybridPayload_plain _) paid).trans payloadLength
    have originSmall : (Text.asBytes issuer.origin).length ≤ maxFieldBytes := by
      change Text.len issuer.origin ≤ _
      omega
    obtain ⟨envelope, signed⟩ := signs_hybridEnvelope writes digest setUp signs
      ⟨Text.asBytes_ne_nil named, originSmall⟩ holder transaction inTime
      ⟨composes.map_ne_nil paid, paidLength.trans_le payloadShort⟩ three presented together wrote
      ((shortest.shortest _ _ (HybridCodec.commitment_plain _) wrote).trans_le
        (length.trans_le fits))
    exact ⟨envelope, disclosures, payload, disclosed, paid, signed⟩

end Signing

end VCIssuer.Service
