import VCIssuer.Service.HybridTbs

/-!
# One spelling for each envelope

Each decoder accepts a body only if the writer spells the decoded item in the
same way.  What it then reads off the item fixes the whole item, so encoder and
decoder are inverse to each other.
-/

namespace VCIssuer.Service.HybridCodec

open VCIssuer.Library
open VCIssuer.Library.Checks

/-! ## Items -/

@[simp]
theorem integer_eq_ok (value : CborValue) (read : UInt64) :
    integer value = .ok read ↔ value = .integer read.toNat := by
  constructor
  · intro succeeded
    unfold integer at succeeded
    split at succeeded
    case h_1 value =>
      split_ifs at succeeded with range
      cases succeeded
      have fits : value.toNat < 2 ^ 64 := by omega
      rw [UInt64.toNat_ofNat_of_lt' fits, Int.toNat_of_nonneg range.1]
    case h_2 => cases succeeded
  · rintro rfl
    have fits : (read.toNat : Int) < 2 ^ 64 := by exact_mod_cast read.toNat_lt
    rw [integer, if_pos ⟨Int.natCast_nonneg _, fits⟩, Int.toNat_natCast, UInt64.ofNat_toNat]

@[simp]
theorem text_eq_ok (value : CborValue) (read : String) :
    text value = .ok read ↔ value = .text read := by
  cases value <;> simp [text]

@[simp]
theorem bytes_eq_ok (value : CborValue) (read : Bytes) :
    bytes value = .ok read ↔ value = .bytes read := by
  cases value <;> simp [bytes]

theorem byteItems_eq_ok (items : List CborValue) (read : List Bytes) :
    byteItems items = .ok read ↔ items = read.map .bytes := by
  induction items generalizing read with
  | nil => cases read <;> simp [byteItems]
  | cons item rest carried =>
      simp only [byteItems, bind_eq_ok (bytes _), bind_eq_ok (byteItems _), bytes_eq_ok, carried,
        pure_eq_ok]
      cases read with
      | nil => simp
      | cons first others =>
          simp only [List.cons.injEq, List.map_cons]
          constructor
          · rintro ⟨_, item, _, rest, rfl, rfl⟩
            exact ⟨item, rest⟩
          · rintro ⟨item, rest⟩
            exact ⟨_, item, _, rest, rfl, rfl⟩

@[simp]
theorem byteArray_eq_ok (value : CborValue) (read : List Bytes) :
    byteArray value = .ok read ↔ value = .array (read.map .bytes) := by
  cases value <;> simp [byteArray, byteItems_eq_ok]

@[simp]
theorem asEntries_eq_ok (value : CborValue) (entries : List (CborValue × CborValue)) :
    asEntries value = .ok entries ↔ value = .map entries := by
  cases value <;> simp [asEntries, CborValue.asMap]

@[simp]
theorem requireAll_eq_ok (values : List Bytes) (done : Unit) :
    requireAll values = .ok done ↔ ∀ value ∈ values, Signable value := by
  induction values with
  | nil => simp [requireAll]
  | cons value rest carried =>
      simp only [requireAll, bind_eq_ok (requireNonemptyBounded _), requireNonemptyBounded_eq_ok,
        carried, exists_and_left, exists_const, List.forall_mem_cons]

/-- A key identifier that an envelope may carry. -/
def CarriesKid (kid : String) : Prop :=
  kid ≠ "" ∧ Text.len kid ≤ maxKeyIdBytes

@[simp]
theorem requireKid_eq_ok (kid : String) (done : Unit) :
    requireKid kid = .ok done ↔ CarriesKid kid := by
  unfold requireKid CarriesKid
  rw [rejectIf_bind_eq_ok, rejectIf_eq_ok, Nat.not_lt]

/-! The same, at the head of a chain. -/

section Chains

variable {α : Type} {next : Unit → Coded α} {result : α}

@[simp]
theorem integer_bind_eq_ok (value : CborValue) (next : UInt64 → Coded α) :
    (integer value >>= next) = .ok result ↔
      ∃ read, value = .integer read.toNat ∧ next read = .ok result := by
  simp only [bind_eq_ok, integer_eq_ok]

@[simp]
theorem text_bind_eq_ok (value : CborValue) (next : String → Coded α) :
    (text value >>= next) = .ok result ↔
      ∃ read, value = .text read ∧ next read = .ok result := by
  simp only [bind_eq_ok, text_eq_ok]

@[simp]
theorem bytes_bind_eq_ok (value : CborValue) (next : Bytes → Coded α) :
    (bytes value >>= next) = .ok result ↔
      ∃ read, value = .bytes read ∧ next read = .ok result := by
  simp only [bind_eq_ok, bytes_eq_ok]

@[simp]
theorem byteArray_bind_eq_ok (value : CborValue) (next : List Bytes → Coded α) :
    (byteArray value >>= next) = .ok result ↔
      ∃ read : List Bytes, value = .array (read.map .bytes) ∧ next read = .ok result := by
  simp only [bind_eq_ok, byteArray_eq_ok]

@[simp]
theorem asEntries_bind_eq_ok (value : CborValue)
    (next : List (CborValue × CborValue) → Coded α) :
    (asEntries value >>= next) = .ok result ↔
      ∃ entries, value = .map entries ∧ next entries = .ok result := by
  simp only [bind_eq_ok, asEntries_eq_ok]

@[simp]
theorem requireNonemptyBounded_bind_eq_ok (value : Bytes) :
    (requireNonemptyBounded value >>= next) = .ok result ↔
      Signable value ∧ next () = .ok result := by
  rw [check_bind_eq_ok, requireNonemptyBounded_eq_ok]

@[simp]
theorem requireAll_bind_eq_ok (values : List Bytes) :
    (requireAll values >>= next) = .ok result ↔
      (∀ value ∈ values, Signable value) ∧ next () = .ok result := by
  rw [check_bind_eq_ok, requireAll_eq_ok]

@[simp]
theorem requireKid_bind_eq_ok (kid : String) :
    (requireKid kid >>= next) = .ok result ↔ CarriesKid kid ∧ next () = .ok result := by
  rw [check_bind_eq_ok, requireKid_eq_ok]

end Chains

/-! ## Canonical bodies -/

theorem readCanonical_eq_ok (crates : Crates) (body : Bytes) (value : CborValue) :
    readCanonical crates body = .ok value ↔
      crates.cborFromReader body = some (value, body.length) ∧
        crates.cborToVec value = some body := by
  simp only [readCanonical, okOr_bind_eq_ok, rejectIf_bind_eq_ok, bind_eq_ok (intoWriter ..),
    intoWriter_eq_ok, pure_eq_ok, not_not]
  constructor
  · rintro ⟨⟨read, position⟩, found, here, written, spelled, same, rfl⟩
    exact ⟨here ▸ found, same ▸ spelled⟩
  · rintro ⟨found, spelled⟩
    exact ⟨_, found, rfl, _, spelled, rfl, rfl⟩

/-- For the values of the service the writer alone decides what is canonical. -/
theorem readCanonical_plain {crates : Crates} (laws : CiboriumLaws crates) {value : CborValue}
    (plain : PlainCbor cborDepth value) (body : Bytes) :
    readCanonical crates body = .ok value ↔ crates.cborToVec value = some body := by
  rw [readCanonical_eq_ok]
  exact and_iff_right_of_imp (laws.readsWritten value body plain)

/-- A body is read as one value at most. -/
theorem readCanonical_unique {crates : Crates} {body : Bytes} {value other : CborValue}
    (first : readCanonical crates body = .ok value)
    (second : readCanonical crates body = .ok other) : value = other :=
  Except.ok.inj (first.symm.trans second)

theorem magic_of_append {encoded body : Bytes} :
    envelopeMagic <+: encoded ∧ encoded.drop envelopeMagic.length = body ↔
      encoded = envelopeMagic ++ body := by
  constructor
  · rintro ⟨⟨rest, rfl⟩, behind⟩
    rw [← behind, List.drop_left]
  · rintro rfl
    exact ⟨List.prefix_append .., List.drop_left⟩

/-! ## The entries of the wrapper -/

/-- An entry as it stands in the map. -/
def entryOf (field : UInt64 × CborValue) : CborValue × CborValue :=
  (.integer field.1.toNat, field.2)

theorem readFields_eq_ok (seen : List UInt64) (entries : List (CborValue × CborValue))
    (fields : List (UInt64 × CborValue)) :
    readFields seen entries = .ok fields ↔
      entries = fields.map entryOf ∧ (fields.map Prod.fst).Nodup ∧
        ∀ key ∈ seen, key ∉ fields.map Prod.fst := by
  induction entries generalizing seen fields with
  | nil => cases fields <;> simp [readFields]
  | cons entry rest carried =>
      obtain ⟨name, value⟩ := entry
      simp only [readFields, bind_eq_ok (integer _), integer_eq_ok, rejectIf_bind_eq_ok,
        bind_eq_ok (readFields ..), carried, pure_eq_ok]
      constructor
      · rintro ⟨key, rfl, unseen, others, ⟨rfl, distinct, apart⟩, rfl⟩
        have fresh : key ∉ others.map Prod.fst := apart key (.head _)
        refine ⟨rfl, List.nodup_cons.mpr ⟨fresh, distinct⟩, fun other member => ?_⟩
        rw [List.map_cons, List.mem_cons, not_or]
        exact ⟨fun (same : other = key) => unseen (same ▸ member), apart other (.tail _ member)⟩
      · rintro ⟨same, distinct, apart⟩
        cases fields with
        | nil => cases same
        | cons field others =>
            simp only [List.map_cons, List.cons.injEq, entryOf, Prod.mk.injEq] at same
            obtain ⟨⟨rfl, rfl⟩, rfl⟩ := same
            rw [List.map_cons, List.nodup_cons] at distinct
            refine ⟨field.1, rfl, fun member => apart _ member (.head _), others,
              ⟨rfl, distinct.2, ?_⟩, rfl⟩
            intro key member
            rcases List.mem_cons.mp member with rfl | member
            · exact distinct.1
            · exact fun there => apart key member (.tail _ there)

/-- The entries of a wrapper, with the values that stand under its eleven keys. -/
def keyed (values : List CborValue) : List (UInt64 × CborValue) :=
  [1, 2, 3, 4, 5, 6, 7, 8, 9, 10, 11].zip values

/-! ## The wrapper -/

/-- What an encoder and a decoder both check of an envelope and its signatures. -/
structure Wrappable (unsigned : UnsignedEnvelope) (signatures : EnvelopeSignatures) : Prop where
  classical : signatures.classical.length = 64
  postQuantum : signatures.postQuantum.length = PqBackend.signatureBytes
  payload : Signable unsigned.payload
  disclosures : ∀ disclosure ∈ unsigned.disclosures, Signable disclosure
  classicalKid : CarriesKid unsigned.classicalKid
  pqKid : CarriesKid unsigned.pqKid
  generation : unsigned.generation ≠ 0

theorem encode_eq_ok (crates : Crates) (unsigned : UnsignedEnvelope)
    (signatures : EnvelopeSignatures) (encoded : Bytes) :
    encode crates unsigned signatures = .ok encoded ↔
      Wrappable unsigned signatures ∧ encoded.length ≤ maxEnvelopeBytes ∧
        ∃ body, crates.cborToVec (wrapper unsigned signatures) = some body ∧
          encoded = envelopeMagic ++ body := by
  simp only [encode, rejectIf_bind_eq_ok, not_or, not_not, requireNonemptyBounded_bind_eq_ok,
    requireAll_bind_eq_ok, requireKid_bind_eq_ok, bind_eq_ok (intoWriter ..), intoWriter_eq_ok,
    pure_eq_ok, Nat.not_lt]
  constructor
  · rintro ⟨⟨classical, postQuantum⟩, payload, disclosures, classicalKid, pqKid, generation, body,
      written, small, rfl⟩
    exact ⟨⟨classical, postQuantum, payload, disclosures, classicalKid, pqKid, generation⟩, small,
      body, written, rfl⟩
  · rintro ⟨wrappable, small, body, written, rfl⟩
    exact ⟨⟨wrappable.classical, wrappable.postQuantum⟩, wrappable.payload, wrappable.disclosures,
      wrappable.classicalKid, wrappable.pqKid, wrappable.generation, body, written, small, rfl⟩

/-- The values of a wrapper in the order of its keys. -/
def wrapperValues (unsigned : UnsignedEnvelope) (signatures : EnvelopeSignatures) :
    List CborValue :=
  [ .integer hybridVersion, .text hybridProfile, .text unsigned.purpose.id, .text hybridFormat,
    .bytes unsigned.payload, .array (unsigned.disclosures.map .bytes),
    .text unsigned.classicalKid, .text unsigned.pqKid, .integer unsigned.generation.toNat,
    .bytes signatures.classical, .bytes signatures.postQuantum ]

theorem wrapper_eq_keyed (unsigned : UnsignedEnvelope) (signatures : EnvelopeSignatures) :
    wrapper unsigned signatures =
      .map ((keyed (wrapperValues unsigned signatures)).map entryOf) :=
  rfl

theorem keyed_keys (unsigned : UnsignedEnvelope) (signatures : EnvelopeSignatures) :
    (keyed (wrapperValues unsigned signatures)).map Prod.fst = [1, 2, 3, 4, 5, 6, 7, 8, 9, 10, 11] :=
  rfl

theorem decode_eq_ok (crates : Crates) (encoded : Bytes) (purpose : HybridPurpose)
    (context : HybridContext) (unsigned : UnsignedEnvelope) (signatures : EnvelopeSignatures) :
    decode crates encoded purpose context = .ok (unsigned, signatures) ↔
      unsigned.purpose = purpose ∧ unsigned.context = context ∧ Wrappable unsigned signatures ∧
        encoded.length ≤ maxEnvelopeBytes ∧
        ∃ body, readCanonical crates body = .ok (wrapper unsigned signatures) ∧
          encoded = envelopeMagic ++ body := by
  simp only [decode, rejectIf_bind_eq_ok, not_or, not_not, bind_eq_ok (readCanonical ..),
    asEntries_bind_eq_ok, bind_eq_ok (readFields ..), readFields_eq_ok, Nat.not_lt]
  constructor
  · rintro ⟨⟨small, magic⟩, _, read, _, rfl, fields, ⟨rfl, _, _⟩, keys, decoded⟩
    split at decoded
    case h_2 => cases decoded
    case h_1 values =>
      have same := List.zip_of_prod keys values
      simp [HybridPurpose.tryFrom_eq_some] at decoded
      obtain ⟨version, rfl, rfl, rfl, rfl, isVersion, payload, rfl, signable, disclosures, rfl,
        allSignable, classicalKid, rfl, pqKid, rfl, carries, pqCarries, generation, rfl, positive,
        classical, rfl, postQuantum, rfl, ⟨size, pqSize⟩, rfl, rfl⟩ := decoded
      refine ⟨rfl, rfl, ⟨size, pqSize, signable, allSignable, carries, pqCarries, positive⟩, small,
        _, ?_, (magic_of_append.mp ⟨magic, rfl⟩)⟩
      rw [read, same, isVersion]
      rfl
  · rintro ⟨rfl, rfl, wrappable, small, body, read, rfl⟩
    refine ⟨⟨small, List.prefix_append ..⟩, _, by rw [List.drop_left]; exact read, _,
      wrapper_eq_keyed _ _, _, ⟨rfl, by rw [keyed_keys]; decide, by simp⟩, rfl, ?_⟩
    simp only [keyed, wrapperValues, List.zip_cons_cons, List.map_cons, List.zip_nil_left,
      List.map_nil]
    simp [HybridPurpose.tryFrom_eq_some]
    refine ⟨1, rfl, rfl, wrappable.payload, _, rfl, wrappable.disclosures, wrappable.classicalKid,
      wrappable.pqKid, _, rfl, wrappable.generation, ⟨wrappable.classical, wrappable.postQuantum⟩,
      rfl⟩

theorem wrapper_plain (unsigned : UnsignedEnvelope) (signatures : EnvelopeSignatures) :
    PlainCbor cborDepth (wrapper unsigned signatures) := by
  have generation : (unsigned.generation.toNat : Int) < 2 ^ 64 := by
    exact_mod_cast unsigned.generation.toNat_lt
  refine .map ?_ ?_ <;>
    simp only [List.forall_mem_cons, List.not_mem_nil, false_imp_iff, implies_true, and_true, pair]
  · refine ⟨?_, ?_, ?_, ?_, ?_, ?_, ?_, ?_, ?_, ?_, ?_⟩ <;>
      exact .integer (by decide) (by decide)
  · refine ⟨.integer (by decide) (by decide), .text, .text, .text, .bytes,
      .array fun item member => ?_, .text, .text, .integer (by omega) generation, .bytes, .bytes⟩
    obtain ⟨disclosure, _, rfl⟩ := List.mem_map.mp member
    exact .bytes

/-! ## The component containers -/

theorem readOrderedFields_eq_ok (index : Nat) (entries : List (CborValue × CborValue))
    (fields : List (UInt64 × CborValue)) :
    readOrderedFields index entries = .ok fields ↔
      entries = fields.map entryOf ∧
        fields.map (·.1.toNat) = List.range' (index + 1) fields.length := by
  induction entries generalizing index fields with
  | nil => cases fields <;> simp [readOrderedFields]
  | cons entry rest carried =>
      obtain ⟨name, value⟩ := entry
      simp only [readOrderedFields, integer_bind_eq_ok, rejectIf_bind_eq_ok, not_not,
        bind_eq_ok (readOrderedFields ..), carried, pure_eq_ok]
      cases fields with
      | nil => simp
      | cons field others =>
          simp only [List.map_cons, List.cons.injEq, entryOf, Prod.mk.injEq, List.length_cons,
            List.range'_succ]
          constructor
          · rintro ⟨key, rfl, here, _, ⟨rfl, there⟩, rfl, rfl⟩
            exact ⟨⟨⟨rfl, rfl⟩, rfl⟩, here, there⟩
          · rintro ⟨⟨⟨rfl, rfl⟩, rfl⟩, here, there⟩
            exact ⟨field.1, rfl, here, others, ⟨rfl, there⟩, rfl, rfl⟩

/-- Values under the keys that follow an index. -/
def ordered : Nat → List CborValue → List (CborValue × CborValue)
  | _, [] => []
  | index, value :: rest => pair (index + 1) value :: ordered (index + 1) rest

theorem ordered_of_fields {index : Nat} {fields : List (UInt64 × CborValue)}
    (keys : fields.map (·.1.toNat) = List.range' (index + 1) fields.length) :
    fields.map entryOf = ordered index (fields.map Prod.snd) := by
  induction fields generalizing index with
  | nil => rfl
  | cons field others carried =>
      simp only [List.map_cons, List.length_cons, List.range'_succ, List.cons.injEq] at keys
      simp only [List.map_cons, ordered, carried keys.2, entryOf, keys.1, pair]

theorem decodeComponentEnvelope_eq_ok (crates : Crates) (encoded : Bytes) (expectedFields : Nat)
    (fields : List (UInt64 × CborValue)) :
    decodeComponentEnvelope crates encoded expectedFields = .ok fields ↔
      encoded.length ≤ maxComponentEnvelopeBytes ∧ fields.length = expectedFields ∧
        fields.map (·.1.toNat) = List.range' 1 fields.length ∧
        ∃ body, readCanonical crates body = .ok (.map (fields.map entryOf)) ∧
          encoded = envelopeMagic ++ body := by
  simp only [decodeComponentEnvelope, rejectIf_bind_eq_ok, not_not, Nat.not_lt,
    bind_eq_ok (readCanonical ..), asEntries_bind_eq_ok, readOrderedFields_eq_ok]
  constructor
  · rintro ⟨small, magic, _, read, _, rfl, count, rfl, keys⟩
    exact ⟨small, by rw [← count, List.length_map], keys, _, read, magic_of_append.mp ⟨magic, rfl⟩⟩
  · rintro ⟨small, count, keys, body, read, rfl⟩
    exact ⟨small, List.prefix_append .., _, by rw [List.drop_left]; exact read, _, rfl,
      by rw [List.length_map, count], rfl, keys⟩

theorem encodeComponentEnvelope_eq_ok (crates : Crates) (fields : List (CborValue × CborValue))
    (encoded : Bytes) :
    encodeComponentEnvelope crates fields = .ok encoded ↔
      encoded.length ≤ maxComponentEnvelopeBytes ∧
        ∃ body, crates.cborToVec (.map fields) = some body ∧ encoded = envelopeMagic ++ body := by
  simp only [encodeComponentEnvelope, bind_eq_ok (intoWriter ..), intoWriter_eq_ok,
    rejectIf_bind_eq_ok, pure_eq_ok, Nat.not_lt]
  constructor
  · rintro ⟨body, written, small, rfl⟩
    exact ⟨small, body, written, rfl⟩
  · rintro ⟨small, body, written, rfl⟩
    exact ⟨body, written, small, rfl⟩

theorem encodePublicKeyEnvelope_eq_ok (crates : Crates) (classical postQuantum encoded : Bytes) :
    encodePublicKeyEnvelope crates classical postQuantum = .ok encoded ↔
      ¬ badPublicKeys classical postQuantum ∧ encoded.length ≤ maxComponentEnvelopeBytes ∧
        ∃ body, crates.cborToVec (.map (publicKeyFields classical postQuantum)) = some body ∧
          encoded = envelopeMagic ++ body := by
  rw [encodePublicKeyEnvelope, rejectIf_bind_eq_ok, encodeComponentEnvelope_eq_ok]

theorem decodePublicKeyEnvelope_eq_ok (crates : Crates) (encoded : Bytes)
    (keys : HybridPublicComponents) :
    decodePublicKeyEnvelope crates encoded = .ok keys ↔
      ¬ badPublicKeys keys.classical keys.postQuantum ∧
        encoded.length ≤ maxComponentEnvelopeBytes ∧
        ∃ body, readCanonical crates body =
            .ok (.map (publicKeyFields keys.classical keys.postQuantum)) ∧
          encoded = envelopeMagic ++ body := by
  simp only [decodePublicKeyEnvelope, bind_eq_ok (decodeComponentEnvelope ..),
    decodeComponentEnvelope_eq_ok]
  constructor
  · rintro ⟨fields, ⟨small, _, numbered, body, read, rfl⟩, decoded⟩
    rw [ordered_of_fields numbered] at read
    split at decoded
    case h_2 => cases decoded
    case h_1 values =>
      simp only [integer_bind_eq_ok, text_bind_eq_ok, rejectIf_bind_eq_ok, not_or, not_not,
        bytes_bind_eq_ok, pure_eq_ok] at decoded
      obtain ⟨version, rfl, kind, rfl, _, rfl, ⟨isVersion, rfl, rfl⟩, classical, rfl, postQuantum,
        rfl, good, rfl⟩ := decoded
      refine ⟨good, small, body, ?_, rfl⟩
      rw [read, values, isVersion]
      rfl
  · rintro ⟨good, small, body, read, rfl⟩
    refine ⟨[(1, .integer hybridVersion), (2, .integer 1), (3, .text hybridProfile),
      (4, .bytes keys.classical), (5, .bytes keys.postQuantum)],
      ⟨small, rfl, rfl, body, read, rfl⟩, ?_⟩
    simp only [List.map_cons, List.map_nil, integer_bind_eq_ok, text_bind_eq_ok,
      rejectIf_bind_eq_ok, not_or, not_not, bytes_bind_eq_ok, pure_eq_ok]
    exact ⟨1, rfl, 1, rfl, _, rfl, ⟨rfl, rfl, rfl⟩, _, rfl, _, rfl, good, rfl⟩

/-- Signatures of the lengths of their algorithms. -/
def SignatureLengths (signatures : EnvelopeSignatures) : Prop :=
  signatures.classical.length = 64 ∧ signatures.postQuantum.length = PqBackend.signatureBytes

theorem encodeSignatureEnvelope_eq_ok (crates : Crates) (purpose : HybridPurpose)
    (signatures : EnvelopeSignatures) (encoded : Bytes) :
    encodeSignatureEnvelope crates purpose signatures = .ok encoded ↔
      SignatureLengths signatures ∧ encoded.length ≤ maxComponentEnvelopeBytes ∧
        ∃ body, crates.cborToVec (.map (signatureFields purpose signatures)) = some body ∧
          encoded = envelopeMagic ++ body := by
  rw [encodeSignatureEnvelope, rejectIf_bind_eq_ok, encodeComponentEnvelope_eq_ok, not_or, not_not,
    not_not, SignatureLengths]

theorem decodeSignatureEnvelope_eq_ok (crates : Crates) (encoded : Bytes)
    (purpose : HybridPurpose) (signatures : EnvelopeSignatures) :
    decodeSignatureEnvelope crates encoded purpose = .ok signatures ↔
      SignatureLengths signatures ∧ encoded.length ≤ maxComponentEnvelopeBytes ∧
        ∃ body, readCanonical crates body = .ok (.map (signatureFields purpose signatures)) ∧
          encoded = envelopeMagic ++ body := by
  simp only [decodeSignatureEnvelope, bind_eq_ok (decodeComponentEnvelope ..),
    decodeComponentEnvelope_eq_ok]
  constructor
  · rintro ⟨fields, ⟨small, _, numbered, body, read, rfl⟩, decoded⟩
    rw [ordered_of_fields numbered] at read
    split at decoded
    case h_2 => cases decoded
    case h_1 values =>
      simp only [integer_bind_eq_ok, text_bind_eq_ok, okOr_bind_eq_ok,
        HybridPurpose.tryFrom_eq_some, rejectIf_bind_eq_ok, not_or, not_not, bytes_bind_eq_ok,
        pure_eq_ok] at decoded
      obtain ⟨_, rfl, _, rfl, version, rfl, kind, rfl, _, rfl, ⟨isVersion, rfl, rfl, rfl⟩,
        classical, rfl, postQuantum, rfl, lengths, rfl⟩ := decoded
      refine ⟨lengths, small, body, ?_, rfl⟩
      rw [read, values, isVersion]
      rfl
  · rintro ⟨lengths, small, body, read, rfl⟩
    refine ⟨[(1, .integer hybridVersion), (2, .integer 2), (3, .text hybridProfile),
      (4, .bytes signatures.classical), (5, .bytes signatures.postQuantum),
      (6, .text purpose.id)], ⟨small, rfl, rfl, body, read, rfl⟩, ?_⟩
    simp only [List.map_cons, List.map_nil, integer_bind_eq_ok, text_bind_eq_ok, okOr_bind_eq_ok,
      HybridPurpose.tryFrom_eq_some, rejectIf_bind_eq_ok, not_or, not_not, bytes_bind_eq_ok,
      pure_eq_ok]
    exact ⟨_, rfl, purpose, rfl, 1, rfl, 2, rfl, _, rfl, ⟨rfl, rfl, rfl, rfl⟩, _, rfl, _, rfl,
      lengths, rfl⟩

theorem publicKeyFields_plain (classical postQuantum : Bytes) :
    PlainCbor cborDepth (.map (publicKeyFields classical postQuantum)) := by
  refine .map ?_ ?_ <;>
    simp only [publicKeyFields, List.forall_mem_cons, List.not_mem_nil, false_imp_iff,
      implies_true, and_true, pair]
  · refine ⟨?_, ?_, ?_, ?_, ?_⟩ <;> exact .integer (by decide) (by decide)
  · exact ⟨.integer (by decide) (by decide), .integer (by decide) (by decide), .text, .bytes,
      .bytes⟩

theorem signatureFields_plain (purpose : HybridPurpose) (signatures : EnvelopeSignatures) :
    PlainCbor cborDepth (.map (signatureFields purpose signatures)) := by
  refine .map ?_ ?_ <;>
    simp only [signatureFields, List.forall_mem_cons, List.not_mem_nil, false_imp_iff,
      implies_true, and_true, pair]
  · refine ⟨?_, ?_, ?_, ?_, ?_, ?_⟩ <;> exact .integer (by decide) (by decide)
  · exact ⟨.integer (by decide) (by decide), .integer (by decide) (by decide), .text, .bytes,
      .bytes, .text⟩

/-! ## Disjoint languages -/

/-- How many entries the map behind the magic has, if there is one. -/
def EntryCount (crates : Crates) (encoded : Bytes) (count : Nat) : Prop :=
  ∃ body entries, encoded = envelopeMagic ++ body ∧
    readCanonical crates body = .ok (.map entries) ∧ entries.length = count

theorem EntryCount.unique {crates : Crates} {encoded : Bytes} {count other : Nat}
    (first : EntryCount crates encoded count) (second : EntryCount crates encoded other) :
    count = other := by
  obtain ⟨body, entries, rfl, read, rfl⟩ := first
  obtain ⟨_, _, same, again, rfl⟩ := second
  rw [← List.append_cancel_left same] at again
  cases readCanonical_unique read again
  rfl

theorem decode_entryCount {crates : Crates} {encoded : Bytes} {purpose : HybridPurpose}
    {context : HybridContext} {read : UnsignedEnvelope × EnvelopeSignatures}
    (decoded : decode crates encoded purpose context = .ok read) :
    EntryCount crates encoded 11 := by
  obtain ⟨_, _, _, _, body, read, rfl⟩ := (decode_eq_ok ..).mp decoded
  exact ⟨body, _, rfl, read, rfl⟩

theorem decodePublicKeyEnvelope_entryCount {crates : Crates} {encoded : Bytes}
    {keys : HybridPublicComponents} (decoded : decodePublicKeyEnvelope crates encoded = .ok keys) :
    EntryCount crates encoded 5 := by
  obtain ⟨_, _, body, read, rfl⟩ := (decodePublicKeyEnvelope_eq_ok ..).mp decoded
  exact ⟨body, _, rfl, read, rfl⟩

theorem decodeSignatureEnvelope_entryCount {crates : Crates} {encoded : Bytes}
    {purpose : HybridPurpose} {signatures : EnvelopeSignatures}
    (decoded : decodeSignatureEnvelope crates encoded purpose = .ok signatures) :
    EntryCount crates encoded 6 := by
  obtain ⟨_, _, body, read, rfl⟩ := (decodeSignatureEnvelope_eq_ok ..).mp decoded
  exact ⟨body, _, rfl, read, rfl⟩

/-! ## The three codecs -/

/-- An encoding is decoded to what was encoded. -/
theorem decode_of_encode {crates : Crates} (laws : CiboriumLaws crates)
    {unsigned : UnsignedEnvelope} {signatures : EnvelopeSignatures} {encoded : Bytes}
    (written : encode crates unsigned signatures = .ok encoded) :
    decode crates encoded unsigned.purpose unsigned.context = .ok (unsigned, signatures) := by
  obtain ⟨wrappable, small, body, spelled, rfl⟩ := (encode_eq_ok ..).mp written
  exact (decode_eq_ok ..).mpr ⟨rfl, rfl, wrappable, small, body,
    (readCanonical_plain laws (wrapper_plain ..) _).mpr spelled, rfl⟩

/-- What was decoded is encoded to what it was decoded from. -/
theorem encode_of_decode {crates : Crates} {encoded : Bytes} {purpose : HybridPurpose}
    {context : HybridContext} {unsigned : UnsignedEnvelope} {signatures : EnvelopeSignatures}
    (decoded : decode crates encoded purpose context = .ok (unsigned, signatures)) :
    encode crates unsigned signatures = .ok encoded := by
  obtain ⟨_, _, wrappable, small, body, read, rfl⟩ := (decode_eq_ok ..).mp decoded
  exact (encode_eq_ok ..).mpr ⟨wrappable, small, body, ((readCanonical_eq_ok ..).mp read).2, rfl⟩

theorem purposeId_len_le (purpose : HybridPurpose) : Text.len purpose.id ≤ 30 := by
  cases purpose <;> decide

/-- The reference envelope can be wrapped for any purpose, with any two signatures of the right
lengths. -/
theorem referenceEnvelope_encode (purpose : HybridPurpose) (context : HybridContext)
    (signatures : EnvelopeSignatures) (classical : signatures.classical.length = 64)
    (postQuantum : signatures.postQuantum.length = PqBackend.signatureBytes) :
    ∃ encoded, encode reference { referenceEnvelope 1 with purpose, context }
      signatures = .ok encoded := by
  have kidBound : Text.len ((Reference.signerAt Reference.x₁ Reference.y₁).kid reference) ≤ 66 :=
    Reference.len_digest_le _
  have kidPresent : (Reference.signerAt Reference.x₁ Reference.y₁).kid reference ≠ "" :=
    Reference.digest_ne_empty _
  let unsigned := { referenceEnvelope 1 with purpose, context }
  have wrappable : Wrappable unsigned signatures := {
    classical, postQuantum
    payload := (⟨by decide, by decide⟩ : Signable [1, 2, 3])
    disclosures := (by decide : ∀ disclosure ∈ ([[4], [5, 6]] : List Bytes),
      disclosure ≠ [] ∧ disclosure.length ≤ maxFieldBytes)
    classicalKid := ⟨kidPresent, kidBound.trans (by decide)⟩
    pqKid := (⟨by decide, by decide⟩ : CarriesKid "pq")
    generation := (by decide : (1 : UInt64) ≠ 0) }
  have small : Cbor.size (wrapper unsigned signatures) ≤ 4000 := by
    have texts : Text.len hybridProfile + Text.len hybridFormat + Text.len "pq" ≤ 70 := by decide
    have purposeText := purposeId_len_le purpose
    have bytes : signatures.postQuantum.length ≤ 3309 := postQuantum.le
    simp only [unsigned, wrapper, referenceEnvelope, pair, Cbor.size, Cbor.sizeEntries,
      Cbor.sizeItems, List.map_cons, List.map_nil, List.length_cons, List.length_nil, classical]
    omega
  obtain ⟨body, written, length⟩ :=
    Cbor.plain_writes (wrapper_plain unsigned signatures) (small.trans_lt (by decide))
  refine ⟨_, (encode_eq_ok ..).mpr ⟨wrappable, ?_, body, written, rfl⟩⟩
  have magic : envelopeMagic.length ≤ 100 := by decide
  have limit : maxEnvelopeBytes = 65536 := rfl
  rw [List.length_append]
  omega

/-- Encoders and decoders are inverse to each other, and no two decoders share an input. -/
theorem codecs_inverse_disjoint (crates : Crates) (laws : CiboriumLaws crates) :
    (∀ unsigned signatures encoded, encode crates unsigned signatures = .ok encoded →
      decode crates encoded unsigned.purpose unsigned.context = .ok (unsigned, signatures)) ∧
    (∀ encoded purpose context unsigned signatures,
      decode crates encoded purpose context = .ok (unsigned, signatures) →
      encode crates unsigned signatures = .ok encoded) ∧
    (∀ (keys : HybridPublicComponents) (encoded : Bytes),
      encodePublicKeyEnvelope crates keys.classical keys.postQuantum = .ok encoded ↔
        decodePublicKeyEnvelope crates encoded = .ok keys) ∧
    (∀ purpose signatures encoded,
      encodeSignatureEnvelope crates purpose signatures = .ok encoded ↔
        decodeSignatureEnvelope crates encoded purpose = .ok signatures) ∧
    ∀ encoded purpose other context,
      ¬ ((∃ read, decode crates encoded purpose context = .ok read) ∧
        ∃ keys, decodePublicKeyEnvelope crates encoded = .ok keys) ∧
      ¬ ((∃ read, decode crates encoded purpose context = .ok read) ∧
        ∃ signatures, decodeSignatureEnvelope crates encoded other = .ok signatures) ∧
      ¬ ((∃ keys, decodePublicKeyEnvelope crates encoded = .ok keys) ∧
        ∃ signatures, decodeSignatureEnvelope crates encoded other = .ok signatures) := by
  refine ⟨fun _ _ _ written => decode_of_encode laws written,
    fun _ _ _ _ _ decoded => encode_of_decode decoded, ?_, ?_, ?_⟩
  · intro keys encoded
    rw [encodePublicKeyEnvelope_eq_ok, decodePublicKeyEnvelope_eq_ok]
    simp only [readCanonical_plain laws (publicKeyFields_plain ..)]
  · intro purpose signatures encoded
    rw [encodeSignatureEnvelope_eq_ok, decodeSignatureEnvelope_eq_ok]
    simp only [readCanonical_plain laws (signatureFields_plain ..)]
  · intro encoded purpose other context
    refine ⟨?_, ?_, ?_⟩
    · rintro ⟨⟨_, wrapped⟩, _, keys⟩
      exact absurd ((decode_entryCount wrapped).unique (decodePublicKeyEnvelope_entryCount keys))
        (by decide)
    · rintro ⟨⟨_, wrapped⟩, _, signed⟩
      exact absurd ((decode_entryCount wrapped).unique (decodeSignatureEnvelope_entryCount signed))
        (by decide)
    · rintro ⟨⟨_, keys⟩, _, signed⟩
      exact absurd ((decodePublicKeyEnvelope_entryCount keys).unique
        (decodeSignatureEnvelope_entryCount signed)) (by decide)

theorem codecs_inverse_disjoint_reference :
    let signatures : EnvelopeSignatures := ⟨List.replicate 64 0, List.replicate 3309 0⟩
    ∃ encoded, encode reference (referenceEnvelope 1) signatures = .ok encoded ∧
      decode reference encoded .testSdJwtWrapperV1 (referenceContext 1) =
        .ok (referenceEnvelope 1, signatures) ∧
      ¬ (∃ keys, decodePublicKeyEnvelope reference encoded = .ok keys) ∧
      ∀ purpose, ¬ ∃ signatures, decodeSignatureEnvelope reference encoded purpose =
        .ok signatures := by
  intro signatures
  obtain ⟨encoded, written⟩ := referenceEnvelope_encode .testSdJwtWrapperV1
    (referenceContext 1) signatures List.length_replicate List.length_replicate
  obtain ⟨inverse, _, _, _, apart⟩ := codecs_inverse_disjoint reference reference_ciborium
  have read := inverse _ _ _ written
  refine ⟨encoded, written, read, ?_, ?_⟩
  · exact fun keys => (apart encoded _ .walletExportV1 _).1 ⟨⟨_, read⟩, keys⟩
  · exact fun purpose signed => (apart encoded _ purpose _).2.1 ⟨⟨_, read⟩, signed⟩

end VCIssuer.Service.HybridCodec
