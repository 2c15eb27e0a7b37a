import VCIssuer.Service.HybridCodec
import VCIssuer.Service.Reference

/-!
# The bytes that hybrid signatures cover

An absent field of a context is written like an empty one, so what keeps the
encoding injective is the validation in front of it: no field that passes is
empty.
-/

namespace VCIssuer.Service.HybridCodec

open VCIssuer.Library
open VCIssuer.Library.Checks

/-! ## Purposes -/

theorem HybridPurpose.tryFrom_eq_some (identifier : String) (purpose : HybridPurpose) :
    HybridPurpose.tryFrom identifier = some purpose ↔ identifier = purpose.id := by
  constructor
  · intro found
    unfold HybridPurpose.tryFrom at found
    split at found <;> cases found <;> rfl
  · rintro rfl
    cases purpose <;> rfl

/-- The identifiers differ in length. -/
theorem HybridPurpose.id_asBytes_injective {purpose other : HybridPurpose}
    (same : Text.asBytes purpose.id = Text.asBytes other.id) : purpose = other := by
  have lengths : Text.len purpose.id = Text.len other.id := congrArg List.length same
  revert lengths
  cases purpose <;> cases other <;> decide

/-! ## Validation -/

/-- A field of an identity that may be signed. -/
def Signable (value : Bytes) : Prop :=
  value ≠ [] ∧ value.length ≤ maxFieldBytes

@[simp]
theorem requireNonemptyBounded_eq_ok (value : Bytes) (done : Unit) :
    requireNonemptyBounded value = .ok done ↔ Signable value := by
  unfold requireNonemptyBounded Signable
  rw [rejectIf_bind_eq_ok, rejectIf_eq_ok, Nat.not_lt]

@[simp]
theorem validateOptional_eq_ok (value : Option Bytes) (done : Unit) :
    validateOptional value = .ok done ↔ ∀ present ∈ value, Signable present := by
  cases value <;> simp [validateOptional]

namespace HybridContext

/-- What every context must satisfy, whatever it is used for. -/
structure Valid (context : HybridContext) : Prop where
  walletIdentity : Signable context.walletIdentity
  issuerIdentity : ∀ value ∈ context.issuerIdentity, Signable value
  transactionId : ∀ value ∈ context.transactionId, Signable value
  sessionId : ∀ value ∈ context.sessionId, Signable value
  audience : ∀ value ∈ context.audience, Signable value
  keyGeneration : context.keyGeneration ≠ 0
  nonce : minNonceBytes ≤ context.nonce.length ∧ context.nonce.length ≤ maxNonceBytes
  lifetime : context.createdAtEpochSeconds < context.expiresAtEpochSeconds

theorem validateCommon_eq_ok (self : HybridContext) (done : Unit) :
    self.validateCommon = .ok done ↔ self.Valid := by
  simp only [validateCommon, bind_eq_ok (requireNonemptyBounded _),
    bind_eq_ok (validateOptional _), requireNonemptyBounded_eq_ok, validateOptional_eq_ok,
    exists_and_left, exists_const, rejectIf_bind_eq_ok, rejectIf_eq_ok, not_or, not_not,
    UInt64.not_le]
  constructor
  · rintro ⟨wallet, issuer, transaction, session, audience, generation, nonce, lifetime⟩
    exact ⟨wallet, issuer, transaction, session, audience, generation, nonce, lifetime⟩
  · rintro ⟨wallet, issuer, transaction, session, audience, generation, nonce, lifetime⟩
    exact ⟨wallet, issuer, transaction, session, audience, generation, nonce, lifetime⟩

/-! ## The encoding of a context -/

/-- The ten fields in the order in which they are written. -/
def fields (self : HybridContext) : List (UInt8 × Bytes) :=
  [ (1, self.walletIdentity), (2, self.issuerIdentity.getD []),
    (3, toBeBytes 8 self.keyGeneration.toNat), (4, self.transactionId.getD []),
    (5, self.sessionId.getD []), (6, self.audience.getD []), (7, self.nonce),
    (8, toBeBytes 8 self.createdAtEpochSeconds.toNat),
    (9, toBeBytes 8 self.expiresAtEpochSeconds.toNat),
    (10, (self.transcriptHash.map (·.val)).getD []) ]

theorem getD_length_le {value : Option Bytes} (signable : ∀ present ∈ value, Signable present) :
    (value.getD []).length ≤ maxFieldBytes := by
  cases value with
  | none => exact Nat.zero_le _
  | some present => exact (signable present rfl).2

/-- Validation leaves no field too long for its length prefix. -/
theorem Valid.fields_bounded {self : HybridContext} (valid : self.Valid) :
    ∀ field ∈ self.fields, field.2.length ≤ maxFieldBytes := by
  intro field member
  have transcript : ((self.transcriptHash.map (·.val)).getD []).length ≤ maxFieldBytes := by
    cases self.transcriptHash with
    | none => exact Nat.zero_le _
    | some hash => exact hash.property.le.trans (by decide)
  have word (value : Nat) : (toBeBytes 8 value).length ≤ maxFieldBytes := by
    rw [toBeBytes_length]
    decide
  simp only [fields, List.mem_cons, List.not_mem_nil, or_false] at member
  rcases member with rfl | rfl | rfl | rfl | rfl | rfl | rfl | rfl | rfl | rfl
  · exact valid.walletIdentity.2
  · exact getD_length_le valid.issuerIdentity
  · exact word _
  · exact getD_length_le valid.transactionId
  · exact getD_length_le valid.sessionId
  · exact getD_length_le valid.audience
  · exact valid.nonce.2.trans (by decide)
  · exact word _
  · exact word _
  · exact transcript

end HybridContext

theorem appendComponent_eq_ok (output value encoded : Bytes) :
    appendComponent output value = .ok encoded ↔
      value.length < 2 ^ 32 ∧ encoded = output ++ component value := by
  unfold appendComponent component
  rw [rejectIf_bind_eq_ok, pure_eq_ok, Nat.not_le, List.append_assoc, eq_comm (a := encoded)]

theorem encodeContextField_eq_ok (output : Bytes) (tag : UInt8) (value : Option Bytes)
    (encoded : Bytes) :
    encodeContextField output tag value = .ok encoded ↔
      (value.getD []).length < 2 ^ 32 ∧
        encoded = output ++ taggedComponent (tag, value.getD []) := by
  rw [encodeContextField, appendComponent_eq_ok, List.append_assoc]
  rfl

theorem HybridContext.encodeFor_eq_ok (self : HybridContext) (purpose : HybridPurpose)
    (encoded : Bytes) :
    self.encodeFor purpose = .ok encoded ↔
      self.Valid ∧ self.validateFor purpose = .ok () ∧
        encoded = contextDomain ++ self.fields.flatMap taggedComponent := by
  have chain : self.encodeFor purpose = .ok encoded ↔
      self.Valid ∧ self.validateFor purpose = .ok () ∧
        (∀ field ∈ self.fields, field.2.length < 2 ^ 32) ∧
          encoded = contextDomain ++ self.fields.flatMap taggedComponent := by
    simp only [encodeFor, bind_eq_ok (validateCommon _), bind_eq_ok (validateFor ..),
      validateCommon_eq_ok, bind_eq_ok (encodeContextField ..), encodeContextField_eq_ok,
      and_assoc, exists_and_left, exists_const, exists_eq_left, fields, List.forall_mem_cons,
      List.flatMap_cons, List.flatMap_nil, List.append_assoc, List.append_nil,
      Option.getD_some, List.not_mem_nil, false_imp_iff, implies_true, true_and]
    exact and_congr_right fun _ => ⟨fun ⟨(), rest⟩ => rest, fun rest => ⟨(), rest⟩⟩
  rw [chain]
  refine and_congr_right fun valid => and_congr_right fun _ => and_iff_right fun field member => ?_
  exact (valid.fields_bounded field member).trans_lt (by decide)

/-! ## Injectivity -/

/-- Validated optional fields are told apart from absent ones by being non-empty. -/
theorem getD_injective {value other : Option Bytes} (signable : ∀ present ∈ value, Signable present)
    (otherSignable : ∀ present ∈ other, Signable present)
    (same : value.getD [] = other.getD []) : value = other := by
  cases value with
  | none =>
      cases other with
      | none => rfl
      | some present => exact absurd same.symm (otherSignable present rfl).1
  | some present =>
      cases other with
      | none => exact absurd same (signable present rfl).1
      | some second => exact congrArg some same

theorem transcriptHash_injective {value other : Option (Octets 32)}
    (same : (value.map (·.val)).getD [] = (other.map (·.val)).getD []) : value = other := by
  have nonempty (hash : Octets 32) : hash.val ≠ [] := by
    intro empty
    have length := hash.property
    rw [empty] at length
    cases length
  cases value with
  | none =>
      cases other with
      | none => rfl
      | some hash => exact absurd same.symm (nonempty hash)
  | some hash =>
      cases other with
      | none => exact absurd same (nonempty hash)
      | some second => exact congrArg some (Subtype.ext same)

theorem word_injective {value other : UInt64}
    (same : toBeBytes 8 value.toNat = toBeBytes 8 other.toNat) : value = other :=
  UInt64.toNat_inj.mp (toBeBytes_injective value.toNat_lt other.toNat_lt same)

theorem HybridContext.fields_injective {self other : HybridContext} (valid : self.Valid)
    (otherValid : other.Valid) (same : self.fields = other.fields) : self = other := by
  simp only [fields, List.cons.injEq, Prod.mk.injEq, true_and, and_true] at same
  obtain ⟨wallet, issuer, generation, transaction, session, audience, nonce, created, expires,
    transcript⟩ := same
  cases self
  cases other
  congr 1
  · exact getD_injective valid.issuerIdentity otherValid.issuerIdentity issuer
  · exact word_injective generation
  · exact getD_injective valid.transactionId otherValid.transactionId transaction
  · exact getD_injective valid.sessionId otherValid.sessionId session
  · exact getD_injective valid.audience otherValid.audience audience
  · exact word_injective created
  · exact word_injective expires
  · exact transcriptHash_injective transcript

theorem HybridContext.Valid.fields_delimited {self : HybridContext} (valid : self.Valid) :
    ∀ field ∈ self.fields, True ∧ field.2.length < 2 ^ 32 :=
  fun field member => ⟨trivial, (valid.fields_bounded field member).trans_lt (by decide)⟩

theorem HybridContext.encodeFor_injective {self other : HybridContext}
    {purpose otherPurpose : HybridPurpose} {encoded : Bytes}
    (first : self.encodeFor purpose = .ok encoded)
    (second : other.encodeFor otherPurpose = .ok encoded) : self = other := by
  obtain ⟨valid, _, written⟩ := (encodeFor_eq_ok ..).mp first
  obtain ⟨otherValid, _, otherWritten⟩ := (encodeFor_eq_ok ..).mp second
  have same : self.fields.flatMap taggedComponent ++ [] =
      other.fields.flatMap taggedComponent ++ [] := by
    rw [List.append_cancel_left (written.symm.trans otherWritten)]
  have lengths : self.fields.length = other.fields.length := rfl
  obtain ⟨same, _⟩ := taggedComponent_delimited.flatMap lengths valid.fields_delimited
    otherValid.fields_delimited same
  exact fields_injective valid otherValid same

/-- A context takes far less than its length prefix can say. -/
theorem HybridContext.Valid.encoded_bounded {self : HybridContext} (valid : self.Valid) :
    (contextDomain ++ self.fields.flatMap taggedComponent).length < 2 ^ 32 := by
  have bounded (fields : List (UInt8 × Bytes)) (each : ∀ field ∈ fields,
      field.2.length ≤ maxFieldBytes) :
      (fields.flatMap taggedComponent).length ≤ fields.length * (5 + maxFieldBytes) := by
    induction fields with
    | nil => exact Nat.zero_le _
    | cons field fields carried =>
        have here := each field (.head _)
        have there := carried fun other member => each other (.tail _ member)
        have size : (taggedComponent field).length = 5 + field.2.length := by
          simp only [taggedComponent, component, List.length_append, toBeBytes_length,
            List.length_cons, List.length_nil]
          omega
        rw [List.flatMap_cons, List.length_append, size, List.length_cons, Nat.succ_mul]
        omega
  have fields := bounded self.fields valid.fields_bounded
  have domain : contextDomain.length = 26 := by decide
  have count : self.fields.length = 10 := rfl
  rw [count] at fields
  rw [List.length_append, domain]
  have size : 26 + 10 * (5 + maxFieldBytes) < 2 ^ 32 := by decide
  omega

theorem appendComponent_bind {output value : Bytes} (fits : value.length < 2 ^ 32)
    (next : Bytes → Coded Bytes) :
    (appendComponent output value >>= next) = next (output ++ component value) := by
  rw [(appendComponent_eq_ok output value _).mpr ⟨fits, rfl⟩]
  rfl

theorem tbsParts_bounded {context : HybridContext} {purpose : HybridPurpose}
    {payload body : Bytes} (bounded : payload.length ≤ maxFieldBytes)
    (written : context.encodeFor purpose = .ok body) :
    ∀ part ∈ [Text.asBytes hybridProfile, Text.asBytes purpose.id, body, payload],
      part.length < 2 ^ 32 := by
  obtain ⟨valid, _, rfl⟩ := (HybridContext.encodeFor_eq_ok ..).mp written
  have identifier : (Text.asBytes purpose.id).length < 2 ^ 32 := by cases purpose <;> decide
  simp only [List.forall_mem_cons, List.not_mem_nil, false_imp_iff, implies_true, and_true]
  exact ⟨by decide, identifier, valid.encoded_bounded, bounded.trans_lt (by decide)⟩

/-- What is signed: the domain, and four parts that each tell their length. -/
theorem buildTbs_eq_ok (purpose : HybridPurpose) (context : HybridContext)
    (payload encoded : Bytes) :
    buildTbs purpose context payload = .ok encoded ↔
      payload.length ≤ maxFieldBytes ∧ ∃ body, context.encodeFor purpose = .ok body ∧
        encoded = signatureDomain ++
          [Text.asBytes hybridProfile, Text.asBytes purpose.id, body, payload].flatMap
            component := by
  rw [buildTbs, rejectIf_bind_eq_ok, Nat.not_lt, bind_eq_ok]
  refine and_congr_right fun bounded => exists_congr fun body => and_congr_right fun written => ?_
  have fit := tbsParts_bounded bounded written
  simp only [List.forall_mem_cons] at fit
  obtain ⟨profile, identifier, fits, last, _⟩ := fit
  rw [appendComponent_bind profile, appendComponent_bind identifier, appendComponent_bind fits,
    appendComponent_eq_ok, and_iff_right last]
  simp

/-- The encoding determines the purpose, the context and the payload. -/
theorem buildTbs_inj {purpose otherPurpose : HybridPurpose} {context other : HybridContext}
    {payload otherPayload encoded : Bytes}
    (first : buildTbs purpose context payload = .ok encoded)
    (second : buildTbs otherPurpose other otherPayload = .ok encoded) :
    purpose = otherPurpose ∧ context = other ∧ payload = otherPayload := by
  obtain ⟨bounded, body, written, rfl⟩ := (buildTbs_eq_ok ..).mp first
  obtain ⟨otherBounded, otherBody, otherWritten, same⟩ := (buildTbs_eq_ok ..).mp second
  have bodies : [Text.asBytes hybridProfile, Text.asBytes purpose.id, body, payload].flatMap
      component ++ [] = [Text.asBytes hybridProfile, Text.asBytes otherPurpose.id, otherBody,
        otherPayload].flatMap component ++ [] := by
    rw [List.append_cancel_left same]
  obtain ⟨parts, _⟩ := component_delimited.flatMap (by rfl) (tbsParts_bounded bounded written)
    (tbsParts_bounded otherBounded otherWritten) bodies
  simp only [List.cons.injEq, true_and, and_true] at parts
  obtain ⟨identifiers, rfl, payloads⟩ := parts
  exact ⟨HybridPurpose.id_asBytes_injective identifiers,
    HybridContext.encodeFor_injective written otherWritten, payloads⟩

/-! ## The signed bytes of an envelope -/

theorem commitment_plain (unsigned : UnsignedEnvelope) :
    PlainCbor cborDepth (commitment unsigned) := by
  refine .map ?_ ?_ <;>
    simp only [List.forall_mem_cons, List.not_mem_nil, false_imp_iff, implies_true, and_true, pair]
  · exact ⟨.integer (by decide) (by decide), .integer (by decide) (by decide)⟩
  · refine ⟨.bytes, .array fun item member => ?_⟩
    obtain ⟨disclosure, _, rfl⟩ := List.mem_map.mp member
    exact .bytes

theorem intoWriter_eq_ok (crates : Crates) (value : CborValue) (encoded : Bytes) :
    intoWriter crates value = .ok encoded ↔ crates.cborToVec value = some encoded :=
  okOr_eq_ok ..

/-- What the crate reads back was written by no other value. -/
theorem writer_injective {crates : Crates} (laws : CiboriumLaws crates)
    {value other : CborValue} {encoded : Bytes} (plain : PlainCbor cborDepth value)
    (otherPlain : PlainCbor cborDepth other) (first : crates.cborToVec value = some encoded)
    (second : crates.cborToVec other = some encoded) : value = other := by
  have read := laws.readsWritten value encoded plain first
  rw [laws.readsWritten other encoded otherPlain second] at read
  cases read
  rfl

theorem committedPayload_injective {crates : Crates} (laws : CiboriumLaws crates)
    {unsigned other : UnsignedEnvelope} {encoded : Bytes}
    (first : committedPayload crates unsigned = .ok encoded)
    (second : committedPayload crates other = .ok encoded) :
    unsigned.payload = other.payload ∧ unsigned.disclosures = other.disclosures := by
  have same := writer_injective laws (commitment_plain unsigned) (commitment_plain other)
    ((intoWriter_eq_ok ..).mp first) ((intoWriter_eq_ok ..).mp second)
  simp only [commitment, pair, CborValue.map.injEq, List.cons.injEq, Prod.mk.injEq,
    CborValue.bytes.injEq, CborValue.array.injEq, true_and, and_true] at same
  exact ⟨same.1, List.map_injective_iff.mpr (fun _ _ => CborValue.bytes.inj) same.2⟩

/-! ## An envelope of the reference issuer -/

def referenceContext (keyGeneration : UInt64) : HybridContext where
  walletIdentity := Text.asBytes "wallet"
  issuerIdentity := some (Text.asBytes "https://issuer.example")
  keyGeneration := keyGeneration
  transactionId := some [1]
  sessionId := none
  audience := some (Text.asBytes "verifier")
  nonce := List.replicate 16 7
  createdAtEpochSeconds := 1000
  expiresAtEpochSeconds := 2000
  transcriptHash := none

def referenceEnvelope (keyGeneration : UInt64) : UnsignedEnvelope where
  purpose := .testSdJwtWrapperV1
  context := referenceContext keyGeneration
  payload := [1, 2, 3]
  disclosures := [[4], [5, 6]]
  classicalKid := (Reference.signerAt Reference.x₁ Reference.y₁).kid reference
  pqKid := "pq"
  generation := 1

theorem referenceContext_valid {keyGeneration : UInt64} (positive : keyGeneration ≠ 0) :
    (referenceContext keyGeneration).Valid where
  walletIdentity := (⟨by decide, by decide⟩ : Signable (Text.asBytes "wallet"))
  issuerIdentity := by rintro _ ⟨⟩; exact ⟨by decide, by decide⟩
  transactionId := by rintro _ ⟨⟩; exact ⟨by decide, by decide⟩
  sessionId := by rintro _ ⟨⟩
  audience := by rintro _ ⟨⟩; exact ⟨by decide, by decide⟩
  keyGeneration := positive
  nonce := (⟨by decide, by decide⟩ : minNonceBytes ≤ 16 ∧ 16 ≤ maxNonceBytes)
  lifetime := (by decide : (1000 : UInt64) < 2000)

/-- The reference envelope is signed for any purpose that allows its context. -/
theorem referenceEnvelope_tbs_for {purpose : HybridPurpose} {context : HybridContext} {encoded : Bytes}
    (allowed : context.encodeFor purpose = .ok encoded) :
    ∃ signed, tbs reference { referenceEnvelope 1 with purpose, context } = .ok signed := by
  have written : committedPayload reference { referenceEnvelope 1 with purpose, context } =
    .ok _ := rfl
  exact ⟨_, (bind_eq_ok ..).mpr ⟨_, written, (buildTbs_eq_ok ..).mpr
    ⟨Nat.le_of_ble_eq_true rfl, _, allowed, rfl⟩⟩⟩

theorem referenceContext_allowed {keyGeneration : UInt64} (positive : keyGeneration ≠ 0) :
    ∃ encoded, (referenceContext keyGeneration).encodeFor .testSdJwtWrapperV1 = .ok encoded :=
  ⟨_, (HybridContext.encodeFor_eq_ok ..).mpr ⟨referenceContext_valid positive, rfl, rfl⟩⟩

theorem referenceEnvelope_tbs {keyGeneration : UInt64} (positive : keyGeneration ≠ 0) :
    ∃ signed, tbs reference (referenceEnvelope keyGeneration) = .ok signed := by
  obtain ⟨_, allowed⟩ := referenceContext_allowed positive
  exact referenceEnvelope_tbs_for allowed

/-- No signature covers two purposes, contexts, payloads or lists of disclosures. -/
theorem tbs_injective (crates : Crates) (laws : CiboriumLaws crates) :
    (∀ (purpose otherPurpose : HybridPurpose) (context other : HybridContext)
        (payload otherPayload encoded : Bytes),
      buildTbs purpose context payload = .ok encoded →
      buildTbs otherPurpose other otherPayload = .ok encoded →
      purpose = otherPurpose ∧ context = other ∧ payload = otherPayload) ∧
    ∀ (unsigned other : UnsignedEnvelope) (encoded : Bytes),
      tbs crates unsigned = .ok encoded → tbs crates other = .ok encoded →
      unsigned.purpose = other.purpose ∧ unsigned.context = other.context ∧
        unsigned.payload = other.payload ∧ unsigned.disclosures = other.disclosures := by
  refine ⟨fun _ _ _ _ _ _ _ first second => buildTbs_inj first second, ?_⟩
  intro unsigned other encoded first second
  simp only [tbs, bind_eq_ok (committedPayload ..)] at first second
  obtain ⟨committed, commits, built⟩ := first
  obtain ⟨otherCommitted, otherCommits, otherBuilt⟩ := second
  obtain ⟨purpose, context, rfl⟩ := buildTbs_inj built otherBuilt
  exact ⟨purpose, context, committedPayload_injective laws commits otherCommits⟩

theorem tbs_injective_reference :
    ∃ signed, tbs reference (referenceEnvelope 1) = .ok signed ∧
      ∀ other, tbs reference other = .ok signed →
        other.purpose = .testSdJwtWrapperV1 ∧ other.context = referenceContext 1 ∧
          other.payload = [1, 2, 3] ∧ other.disclosures = [[4], [5, 6]] := by
  obtain ⟨signed, covered⟩ := referenceEnvelope_tbs (by decide : (1 : UInt64) ≠ 0)
  exact ⟨signed, covered, fun other coveredToo =>
    (tbs_injective reference reference_ciborium).2 other _ signed coveredToo covered⟩

end VCIssuer.Service.HybridCodec
