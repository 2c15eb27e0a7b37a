import VCIssuer.Service.Endpoints

/-!
# What a schema identifier is a digest of

Every field is absorbed behind its length, and the version in a fixed width, so
that what is absorbed can be taken apart again.
-/

namespace VCIssuer.Service.ActivechainSchema

open VCIssuer.Library
open VCIssuer.Library.Checks

/-- The arguments of `deriveSchemaId`; a digest is an array of 48 octets. -/
structure SchemaInput where
  configuration : Bytes
  credentialType : Bytes
  rulebookId : Bytes
  rulebookVersion : UInt32
  rulebookDigest : { digest : Bytes // digest.length = 48 }
  deriving DecidableEq

namespace SchemaInput

/-- The three texts that name something. -/
def identifiers (input : SchemaInput) : List Bytes :=
  [input.configuration, input.credentialType, input.rulebookId]

def schemaId (shake256 : Bytes → Bytes) (input : SchemaInput) : Except MappingError Bytes :=
  deriveSchemaId shake256 input.configuration input.credentialType input.rulebookId
    input.rulebookVersion input.rulebookDigest.val

end SchemaInput

/-- `update_length_prefixed`, which panics when the length does not fit into a `u32`. -/
def updateLengthPrefixed (absorbed value : Bytes) : Option Bytes :=
  if value.length < 2 ^ 32 then some (absorbed ++ toBeBytes 4 value.length ++ value) else none

/-- The octets that are absorbed, one update after the other. -/
def SchemaInput.absorbed (input : SchemaInput) : Option Bytes := do
  let absorbed ← updateLengthPrefixed schemaDomain input.configuration
  let absorbed ← updateLengthPrefixed absorbed input.credentialType
  let absorbed ← updateLengthPrefixed absorbed input.rulebookId
  updateLengthPrefixed (absorbed ++ toBeBytes 4 input.rulebookVersion.toNat)
    input.rulebookDigest.val

theorem updateLengthPrefixed_eq {value : Bytes} (fits : value.length < 2 ^ 32) (absorbed : Bytes) :
    updateLengthPrefixed absorbed value = some (absorbed ++ component value) := by
  rw [updateLengthPrefixed, if_pos fits, component, List.append_assoc]

/-- A digest of zeros only is the array of 48 zeros. -/
theorem digest_eq_zero_iff (digest : { digest : Bytes // digest.length = 48 }) :
    digest.val = List.replicate 48 0 ↔ ∀ octet ∈ digest.val, octet = 0 := by
  rw [List.eq_replicate_iff]
  exact and_iff_right digest.property

/-- Every identifier is short and present, and the version and the digest are not zero. -/
structure SchemaInput.Accepted (input : SchemaInput) : Prop where
  identifiers : ∀ value ∈ input.identifiers, value ≠ [] ∧ value.length ≤ 256
  version : input.rulebookVersion ≠ 0
  digest : ∃ octet ∈ input.rulebookDigest.val, octet ≠ 0

namespace SchemaInput

variable {shake256 : Bytes → Bytes} {input other : SchemaInput}

theorem schemaId_eq_ok (id : Bytes) :
    input.schemaId shake256 = .ok id ↔ input.Accepted ∧
      id = shake256 (schemaPreimage input.configuration input.credentialType input.rulebookId
        input.rulebookVersion input.rulebookDigest.val) := by
  simp only [schemaId, deriveSchemaId, rejectIf_bind_eq_ok, pure_eq_ok, digest_eq_zero_iff, not_or,
    not_exists, not_and, Nat.not_lt, maxIdentifierBytes]
  constructor
  · rintro ⟨⟨identifiers, version, digest⟩, rfl⟩
    exact ⟨⟨identifiers, version, by simpa using digest⟩, rfl⟩
  · rintro ⟨accepted, rfl⟩
    exact ⟨⟨accepted.identifiers, accepted.version, by simpa using accepted.digest⟩, rfl⟩

theorem schemaId_eq_error (failure : MappingError) :
    input.schemaId shake256 = .error failure ↔ ¬ input.Accepted := by
  cases failure
  cases derived : input.schemaId shake256 with
  | ok id =>
      have accepted := ((schemaId_eq_ok id).mp derived).1
      constructor
      · intro impossible
        cases impossible
      · intro refused
        exact absurd accepted refused
  | error failure =>
      cases failure
      refine ⟨fun _ accepted => ?_, fun _ => rfl⟩
      have ok : input.schemaId shake256 = _ := (schemaId_eq_ok _).mpr ⟨accepted, rfl⟩
      rw [derived] at ok
      cases ok

theorem not_accepted_iff :
    ¬ input.Accepted ↔ (∃ value ∈ input.identifiers, value = [] ∨ 256 < value.length) ∨
      input.rulebookVersion = 0 ∨ ∀ octet ∈ input.rulebookDigest.val, octet = 0 := by
  constructor
  · intro refused
    by_contra clear
    simp only [not_or, not_exists, not_and, Nat.not_lt, not_forall] at clear
    obtain ⟨identifiers, version, octet, member, nonzero⟩ := clear
    exact refused ⟨identifiers, version, octet, member, nonzero⟩
  · rintro (⟨value, member, empty | long⟩ | zero | zeros) accepted
    · exact (accepted.identifiers value member).1 empty
    · exact absurd long (Nat.not_lt.mpr (accepted.identifiers value member).2)
    · exact accepted.version zero
    · obtain ⟨octet, member, nonzero⟩ := accepted.digest
      exact nonzero (zeros octet member)

/-- Accepted identifiers are far from the largest length that can be written. -/
theorem Accepted.fits (accepted : input.Accepted) : ∀ value ∈ input.identifiers,
    value.length < 2 ^ 32 := fun value member =>
  (accepted.identifiers value member).2.trans_lt (by decide)

/-- No conversion of a length fails, and what is absorbed is the concatenation. -/
theorem Accepted.absorbed_eq (accepted : input.Accepted) :
    input.absorbed = some (schemaPreimage input.configuration input.credentialType input.rulebookId
      input.rulebookVersion input.rulebookDigest.val) := by
  have configuration := accepted.fits input.configuration (.head _)
  have credentialType := accepted.fits input.credentialType (.tail _ (.head _))
  have rulebookId := accepted.fits input.rulebookId (.tail _ (.tail _ (.head _)))
  have digest : input.rulebookDigest.val.length < 2 ^ 32 := by
    rw [input.rulebookDigest.property]
    decide
  simp only [absorbed, updateLengthPrefixed_eq configuration, updateLengthPrefixed_eq credentialType,
    updateLengthPrefixed_eq rulebookId, updateLengthPrefixed_eq digest, Option.bind_eq_bind,
    Option.bind_some, schemaPreimage]

/-- The fields are read back one by one. -/
theorem Accepted.absorbed_injective (accepted : input.Accepted) (otherAccepted : other.Accepted)
    (same : input.absorbed = other.absorbed) : input = other := by
  rw [accepted.absorbed_eq, otherAccepted.absorbed_eq, Option.some.injEq] at same
  obtain ⟨configuration, credentialType, rulebookId, version, ⟨digest, length⟩⟩ := input
  obtain ⟨configuration', credentialType', rulebookId', version', ⟨digest', length'⟩⟩ := other
  obtain ⟨fitsConfiguration, fitsType, fitsRulebook, _⟩ :
      configuration.length < 2 ^ 32 ∧ credentialType.length < 2 ^ 32 ∧
        rulebookId.length < 2 ^ 32 ∧ True := by
    simpa [SchemaInput.identifiers] using accepted.fits
  obtain ⟨fitsConfiguration', fitsType', fitsRulebook', _⟩ :
      configuration'.length < 2 ^ 32 ∧ credentialType'.length < 2 ^ 32 ∧
        rulebookId'.length < 2 ^ 32 ∧ True := by
    simpa [SchemaInput.identifiers] using otherAccepted.fits
  simp only [schemaPreimage, List.append_assoc, List.append_cancel_left_eq] at same
  obtain ⟨rfl, types⟩ := component_delimited _ _ _ _ fitsConfiguration fitsConfiguration' same
  obtain ⟨rfl, rulebooks⟩ := component_delimited _ _ _ _ fitsType fitsType' types
  obtain ⟨rfl, rest⟩ := component_delimited _ _ _ _ fitsRulebook fitsRulebook' rulebooks
  obtain ⟨versions, digests⟩ := List.append_inj rest (by simp)
  obtain rfl : version = version' :=
    UInt32.toNat_inj.mp (toBeBytes_injective version.toNat_lt version'.toNat_lt versions)
  have short (bytes : Bytes) (length : bytes.length = 48) : bytes.length < 2 ^ 32 :=
    length.trans_lt (by decide)
  obtain rfl :=
    component_delimited.injective (short digest length) (short digest' length') digests
  rfl

end SchemaInput

/-- Exactly the malformed inputs are rejected; for the others no length conversion fails, what is
absorbed determines the input, and so does the identifier where the hash does not collide. -/
theorem schemaId_determines_input (shake256 : Bytes → Bytes) :
    (∀ input : SchemaInput, input.schemaId shake256 = .error .invalidInput ↔
      (∃ value ∈ input.identifiers, value = [] ∨ 256 < value.length) ∨
        input.rulebookVersion = 0 ∨ ∀ octet ∈ input.rulebookDigest.val, octet = 0) ∧
      (∀ input : SchemaInput, ∀ id, input.schemaId shake256 = .ok id →
        ∃ absorbed, input.absorbed = some absorbed ∧ id = shake256 absorbed) ∧
      ∀ input other : SchemaInput, ∀ id otherId, input.schemaId shake256 = .ok id →
        other.schemaId shake256 = .ok otherId →
          (input.absorbed = other.absorbed → input = other) ∧
            ∀ absorbed otherAbsorbed, input.absorbed = some absorbed →
              other.absorbed = some otherAbsorbed →
                CollisionFreeAt shake256 absorbed otherAbsorbed → id = otherId → input = other := by
  refine ⟨?_, ?_, ?_⟩
  · intro input
    rw [SchemaInput.schemaId_eq_error, SchemaInput.not_accepted_iff]
  · intro input id derived
    obtain ⟨accepted, rfl⟩ := (SchemaInput.schemaId_eq_ok id).mp derived
    exact ⟨_, accepted.absorbed_eq, rfl⟩
  · intro input other id otherId derived otherDerived
    obtain ⟨accepted, rfl⟩ := (SchemaInput.schemaId_eq_ok id).mp derived
    obtain ⟨otherAccepted, rfl⟩ := (SchemaInput.schemaId_eq_ok otherId).mp otherDerived
    refine ⟨accepted.absorbed_injective otherAccepted, ?_⟩
    intro absorbed otherAbsorbed absorbs otherAbsorbs apart same
    rw [accepted.absorbed_eq, Option.some.injEq] at absorbs
    rw [otherAccepted.absorbed_eq, Option.some.injEq] at otherAbsorbs
    subst absorbs otherAbsorbs
    refine accepted.absorbed_injective otherAccepted ?_
    rw [accepted.absorbed_eq, otherAccepted.absorbed_eq, apart same]

/-- One text, divided between the configuration and the type. -/
def dividedInput (configuration credentialType : Bytes) : SchemaInput where
  configuration := configuration
  credentialType := credentialType
  rulebookId := [3]
  rulebookVersion := 1
  rulebookDigest := ⟨List.replicate 48 7, List.length_replicate⟩

theorem dividedInput_accepted {configuration credentialType : Bytes} {shake256 : Bytes → Bytes}
    (short : ∀ value ∈ [configuration, credentialType], value ≠ [] ∧ value.length ≤ 256) :
    ∃ id, (dividedInput configuration credentialType).schemaId shake256 = .ok id := by
  have version : (1 : UInt32) ≠ 0 := by decide
  obtain ⟨configurationShort, typeShort, _⟩ := by simpa only [List.forall_mem_cons] using short
  refine ⟨_, (SchemaInput.schemaId_eq_ok _).mpr ⟨⟨?_, version, 7, ?_, by decide⟩, rfl⟩⟩
  · simp only [SchemaInput.identifiers, dividedInput, List.forall_mem_cons, List.not_mem_nil,
      false_imp_iff, implies_true, and_true]
    exact ⟨configurationShort, typeShort, by decide, by decide⟩
  · exact List.mem_replicate.mpr ⟨by decide, rfl⟩

/-- The division is absorbed with the text. -/
theorem schemaId_determines_input_divided :
    ∃ id otherId, (dividedInput [1, 2] [2]).schemaId referenceShake256 = .ok id ∧
      (dividedInput [1] [2, 2]).schemaId referenceShake256 = .ok otherId ∧
      (∃ absorbed, (dividedInput [1, 2] [2]).absorbed = some absorbed ∧
        id = referenceShake256 absorbed) ∧
      (dividedInput [1, 2] [2]).absorbed ≠ (dividedInput [1] [2, 2]).absorbed := by
  have short : ∀ value ∈ [[1, 2], [2]], value ≠ [] ∧ (value : Bytes).length ≤ 256 := by decide
  have otherShort : ∀ value ∈ [[1], [2, 2]], value ≠ [] ∧ (value : Bytes).length ≤ 256 := by decide
  obtain ⟨id, derived⟩ := dividedInput_accepted short
  obtain ⟨otherId, otherDerived⟩ := dividedInput_accepted otherShort
  obtain ⟨_, absorbs, determines⟩ := schemaId_determines_input referenceShake256
  refine ⟨id, otherId, derived, otherDerived, absorbs _ id derived, fun same => ?_⟩
  exact absurd ((determines _ _ id otherId derived otherDerived).1 same) (by decide)

end VCIssuer.Service.ActivechainSchema
