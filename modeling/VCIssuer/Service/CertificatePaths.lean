import VCIssuer.Service.AppAttestBounds

/-!
# Certificate paths

Validating a path asks more of a chain than that each signature verifies under
the next key.  An accepted attestation is held against the whole of it, and
what the verifier leaves out is named clause by clause.
-/

namespace VCIssuer.Service

open VCIssuer.Library

/-- What path validation reads of a certificate beside its key, its signature and its validity. -/
structure PathFields where
  issuer : Bytes
  subject : Bytes
  certificateAuthority : Bool
  deriving DecidableEq

/-- The leaf and the intermediate of an attestation, and the pinned root. -/
structure Chain (crates : Crates) (attestationCbor : Bytes) where
  leafDer : Bytes
  intermediateDer : Bytes
  leaf : Certificate
  intermediate : Certificate
  root : Certificate
  leafGiven : chainOf crates attestationCbor 0 = some leafDer
  intermediateGiven : chainOf crates attestationCbor 1 = some intermediateDer
  leafRead : crates.certificateFromDer leafDer = some leaf
  intermediateRead : crates.certificateFromDer intermediateDer = some intermediate
  rootRead : crates.certificateFromDer crates.appleRootCaDer = some root

/-- The signature of a certificate verifies under the key of another. -/
def IssuedUnder (crates : Crates) (cert issuer : Certificate) : Prop :=
  ∃ point, issuer.publicKey = some point ∧ verifyP384Issued crates cert point = .ok ()

section Paths

variable {crates : Crates} (fields : Bytes → PathFields) {attestationCbor : Bytes}
  (chain : Chain crates attestationCbor) (now : UInt64)

/-- The clauses about the intermediate and the names that no check covers. -/
structure UncheckedClauses : Prop where
  inTime : withinValidity chain.intermediate now = true
  authority : (fields chain.intermediateDer).certificateAuthority = true
  leafNames : (fields chain.leafDer).issuer = (fields chain.intermediateDer).subject
  intermediateNames :
    (fields chain.intermediateDer).issuer = (fields crates.appleRootCaDer).subject

/-- The chain is a path from the leaf to the root that is valid at an instant. -/
structure ValidPath : Prop where
  leafSigned : IssuedUnder crates chain.leaf chain.intermediate
  intermediateSigned : IssuedUnder crates chain.intermediate chain.root
  leafInTime : withinValidity chain.leaf now = true
  intermediateInTime : withinValidity chain.intermediate now = true
  authority : (fields chain.intermediateDer).certificateAuthority = true
  leafNames : (fields chain.leafDer).issuer = (fields chain.intermediateDer).subject
  intermediateNames :
    (fields chain.intermediateDer).issuer = (fields crates.appleRootCaDer).subject

end Paths

section Accepted

variable {crates : Crates} {fields : Bytes → PathFields} {attestationCbor challenge keyId : Bytes}
  {config : AppAttestConfig} {now : UInt64}

/-- The chain of an accepted attestation. -/
def Attestation.toChain
    (accepted : Attestation crates attestationCbor challenge keyId config now) :
    Chain crates attestationCbor where
  leafDer := accepted.credCertDer
  intermediateDer := accepted.caCertDer
  leaf := accepted.credCert
  intermediate := accepted.caCert
  root := accepted.root
  leafGiven := accepted.leaf
  intermediateGiven := accepted.intermediate
  leafRead := accepted.credCertRead
  intermediateRead := accepted.caCertRead
  rootRead := accepted.rootRead

/-- An attestation carries one chain. -/
theorem Chain.unique (chain other : Chain crates attestationCbor) : chain = other := by
  obtain ⟨_, _, _, _, _, leafGiven, caGiven, leafRead, caRead, rootRead⟩ := chain
  obtain ⟨_, _, _, _, _, leafGiven', caGiven', leafRead', caRead', rootRead'⟩ := other
  cases leafGiven.symm.trans leafGiven'
  cases caGiven.symm.trans caGiven'
  cases leafRead.symm.trans leafRead'
  cases caRead.symm.trans caRead'
  cases rootRead.symm.trans rootRead'
  rfl

/-- What the verifier does check. -/
theorem Attestation.validPath_iff
    (accepted : Attestation crates attestationCbor challenge keyId config now) :
    ValidPath fields accepted.toChain now ↔ UncheckedClauses fields accepted.toChain now := by
  constructor
  · intro path
    exact ⟨path.intermediateInTime, path.authority, path.leafNames, path.intermediateNames⟩
  · intro clauses
    exact {
      leafSigned := ⟨_, accepted.caKey, accepted.credCertIssued⟩
      intermediateSigned := ⟨_, accepted.rootKey, accepted.caCertIssued⟩
      leafInTime := accepted.valid
      intermediateInTime := clauses.inTime
      authority := clauses.authority
      leafNames := clauses.leafNames
      intermediateNames := clauses.intermediateNames }

end Accepted

/-- The chain of an accepted attestation is a valid path exactly when the intermediate is in time,
is a certificate authority, and the names follow one another. -/
theorem acceptedPath_valid_iff {crates : Crates} {attestationCbor challenge keyId : Bytes}
    {config : AppAttestConfig} {now : UInt64} {result : String × Bytes}
    (verified : verifyAttestation crates attestationCbor challenge keyId config now = .ok result)
    (fields : Bytes → PathFields) :
    Nonempty (Chain crates attestationCbor) ∧ ∀ chain : Chain crates attestationCbor,
      (ValidPath fields chain now ↔ UncheckedClauses fields chain now) := by
  obtain ⟨accepted, _⟩ := (verifyAttestation_eq_ok ..).mp verified
  refine ⟨⟨accepted.toChain⟩, fun chain => ?_⟩
  rw [chain.unique accepted.toChain]
  exact accepted.validPath_iff

/-- A device's chain whose names follow one another is a valid path. -/
theorem acceptedPath_valid_iff_attestedDevice :
    ∃ (attestation : Bytes) (chain : Chain attesting attestation),
      ValidPath (fun _ => ⟨[], [], true⟩) chain 1000 := by
  obtain ⟨attestation, wrote, _⟩ := AttestedDevice.attests []
  have inTime : (1000 : UInt64) ≤ 4102444800 := by decide
  have verified := attestedDevice.attestation_verified wrote
    (show AppAttestConfig.appIds ⟨[attestedDevice.appId], false⟩ = _ from rfl) inTime
  obtain ⟨⟨chain⟩, valid_iff⟩ := acceptedPath_valid_iff verified fun _ => ⟨[], [], true⟩
  refine ⟨attestation, chain, (valid_iff chain).mpr ⟨?_, rfl, rfl, rfl⟩⟩
  have read := chain.intermediateRead
  simp only [attesting, Reference.certificateFromDer, Option.ite_none_right_eq_some,
    Option.some.injEq] at read
  rw [← read.2]
  show (decide ((0 : UInt64) ≤ 1000) && decide ((1000 : UInt64) ≤ 4102444800)) = true
  decide

/-! ## An expired intermediate -/

/-- The certificate of the intermediate's key has run out. -/
def retired (cert : Certificate) : Certificate :=
  if cert.publicKey = some [1] then { cert with notAfter := 500 } else cert

/-- The crates with ideal certificates, of which the intermediate's has run out. -/
def retiring : Crates :=
  { attesting with
    certificateFromDer := fun der => (Reference.certificateFromDer der).map retired }

theorem retiring_certificate {der : Bytes} {cert : Certificate}
    (read : attesting.certificateFromDer der = some cert) :
    retiring.certificateFromDer der = some (retired cert) :=
  Option.map_eq_some_iff.mpr ⟨cert, read, rfl⟩

theorem retired_publicKey (cert : Certificate) : (retired cert).publicKey = cert.publicKey := by
  unfold retired
  split
  · rfl
  · rfl

theorem retired_issued (cert : Certificate) (point : Bytes) :
    verifyP384Issued retiring (retired cert) point = verifyP384Issued attesting cert point := by
  unfold retired
  split
  · rfl
  · rfl

theorem retired_late {cert : Certificate} (key : cert.publicKey = some [1]) :
    withinValidity (retired cert) 1000 = false := by
  have late : decide ((1000 : UInt64) ≤ 500) = false := by decide
  rw [retired, if_pos key, withinValidity, late, Bool.and_false]

/-- What the device attests is accepted all the same. -/
theorem retiring_accepts {attestation : Bytes}
    (accepted : Attestation attesting attestation [] attestedDevice.keyId
      ⟨[attestedDevice.appId], false⟩ 1000) (point : accepted.credPoint ≠ [1]) :
    verifyAttestation retiring attestation [] attestedDevice.keyId
      ⟨[attestedDevice.appId], false⟩ 1000 = .ok (accepted.appId, accepted.credPoint) := by
  have leaf : retired accepted.credCert = accepted.credCert := by
    refine if_neg fun same => ?_
    exact point (Option.some.inj (accepted.credKey.symm.trans same))
  have leafRead := retiring_certificate accepted.credCertRead
  rw [leaf] at leafRead
  refine (verifyAttestation_eq_ok ..).mpr ⟨{
    root := retired accepted.root
    caCert := retired accepted.caCert
    credCert := accepted.credCert
    map := accepted.map
    attStmt := accepted.attStmt
    x5c := accepted.x5c
    credCertDer := accepted.credCertDer
    caCertDer := accepted.caCertDer
    authData := accepted.authData
    caPoint := accepted.caPoint
    rootPoint := accepted.rootPoint
    credPoint := accepted.credPoint
    key := accepted.key
    appId := accepted.appId
    rootRead := retiring_certificate accepted.rootRead
    read := accepted.read
    format := accepted.format
    attStmtRead := accepted.attStmtRead
    x5cRead := accepted.x5cRead
    chained := accepted.chained
    credCertGiven := accepted.credCertGiven
    caCertGiven := accepted.caCertGiven
    dataRead := accepted.dataRead
    credCertRead := leafRead
    caCertRead := retiring_certificate accepted.caCertRead
    caKey := (retired_publicKey _).trans accepted.caKey
    credCertIssued := accepted.credCertIssued
    rootKey := (retired_publicKey _).trans accepted.rootKey
    caCertIssued := (retired_issued _ _).trans accepted.caCertIssued
    valid := accepted.valid
    nonce := accepted.nonce
    credKey := accepted.credKey
    keyIdLength := accepted.keyIdLength
    keyIdDigest := accepted.keyIdDigest
    keyRead := accepted.keyRead
    longEnough := accepted.longEnough
    appNamed := accepted.appNamed
    counter := accepted.counter
    aaguid := accepted.aaguid
    complete := accepted.complete
    credentialId := accepted.credentialId }, rfl⟩

theorem device_intermediate {attestation : Bytes}
    (wrote : attesting.cborToVec (.map (attestedDevice.attestationEntries [])) =
      some attestation) :
    chainOf retiring attestation 1 =
      some (Reference.certificateDer [0] (List.replicate 32 0) [1]) := by
  have read : retiring.cborFromReader attestation = some _ :=
    attesting_ciborium.readsWritten _ _ (attestedDevice.attestationEntries_plain []) wrote
  have map : (retiring.cborFromSlice attestation).bind CborValue.asMap =
      some (attestedDevice.attestationEntries []) := by
    rw [Crates.cborFromSlice, read]
    rfl
  exact bind_of_eq_some _ map (bind_of_eq_some _ rfl (bind_of_eq_some _ rfl rfl))

/-- An attestation is accepted at 1000 although the certificate of its intermediate ran out at
500. -/
theorem expired_intermediate_is_accepted :
    ∃ attestation, verifyAttestation retiring attestation [] attestedDevice.keyId
        ⟨[attestedDevice.appId], false⟩ 1000 = .ok (attestedDevice.appId, attestedDevice.publicKey) ∧
      ∀ (fields : Bytes → PathFields) (chain : Chain retiring attestation),
        ¬ ValidPath fields chain 1000 := by
  obtain ⟨attestation, wrote, _⟩ := AttestedDevice.attests []
  have inTime : (1000 : UInt64) ≤ 4102444800 := by decide
  have verified := attestedDevice.attestation_verified wrote
    (show AppAttestConfig.appIds ⟨[attestedDevice.appId], false⟩ = _ from rfl) inTime
  obtain ⟨accepted, same⟩ := (verifyAttestation_eq_ok ..).mp verified
  have point : accepted.credPoint = attestedDevice.publicKey := (congrArg Prod.snd same).symm
  have long : attestedDevice.publicKey.length = 65 :=
    (Reference.signerAt Reference.x₂ Reference.y₂).uncompressed.1
  refine ⟨attestation, ?_, fun fields chain path => ?_⟩
  · rw [same]
    refine retiring_accepts accepted fun short => ?_
    rw [← point, short] at long
    exact absurd long (by decide)
  · have given := chain.intermediateGiven
    rw [device_intermediate wrote] at given
    have spelled := Reference.certificateFromDer_der [0] [1]
      (List.length_replicate : (List.replicate 32 (0 : UInt8)).length = 32)
    have read := chain.intermediateRead
    rw [← Option.some.inj given, retiring_certificate spelled] at read
    have late := path.intermediateInTime
    rw [← Option.some.inj read, retired_late rfl] at late
    cases late

end VCIssuer.Service
