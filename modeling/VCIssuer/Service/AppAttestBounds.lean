import VCIssuer.Library.Indexing
import VCIssuer.Service.Devices

/-!
# The indices of App Attest parsing

The same two verifiers once more, with every index and every slice of the
source as an operation that panics out of bounds.  No octets make them panic,
and what they accept is what the verifiers without bounds accept.
-/

namespace VCIssuer.Service

open VCIssuer.Library
open VCIssuer.Library.Checks
open VCIssuer.Library.Indexing

namespace Indexed

/-! ## The verifiers -/

/-- `u32::from_be_bytes` on four octets from `start` on. -/
def counterAt (bytes : Bytes) : Except (Stop String) UInt32 := do
  let a ← index bytes 33
  let b ← index bytes 34
  let c ← index bytes 35
  let d ← index bytes 36
  return UInt32.ofNat (fromBeBytes [a, b, c, d])

/-- `copy_from_slice` into an array of 32 octets. -/
def copyNonce (source : Bytes) : Except (Stop String) Bytes :=
  if source.length = 32 then .ok source else .error .panic

def differs (der : Bytes) (i : Nat) (octet : UInt8) : Except (Stop String) Bool := do
  return (← index der i) != octet

/-- The nonce in an extension value, whose shape is tested octet by octet. -/
def shapedNonce (der : Bytes) : Except (Stop String) (Option Bytes) := do
  let misshapen ← pure (der.length != 38) <||> differs der 0 0x30 <||> differs der 2 0xA1 <||>
    differs der 4 0x04 <||> differs der 5 0x20
  if misshapen then return none
  let nonce ← copyNonce (← range der 6 38)
  return some nonce

def leafNonce (cert : Certificate) : Except (Stop String) (Option Bytes) :=
  match cert.extensions.bind (·.lookup nonceOid) with
  | none => .ok none
  | some der => shapedNonce der

/-- `usize::checked_add`. -/
def checkedAdd (a b : Nat) : Option Nat :=
  if a + b < 2 ^ 64 then some (a + b) else none

def verifyAttestation (crates : Crates) (attestationCbor challenge keyId : Bytes)
    (config : AppAttestConfig) (nowUnix : UInt64) : Except (Stop String) (String × Bytes) := do
  let root ← okOr (crates.certificateFromDer crates.appleRootCaDer)
    (.rejected "embedded Apple App Attest root CA is malformed")
  let value ← okOr (crates.cborFromSlice attestationCbor)
    (.rejected "attestation is not valid CBOR")
  let map ← okOr value.asMap (.rejected "attestation is not a CBOR map")
  match CborValue.get map "fmt" with
  | some (.text "apple-appattest") => pure ()
  | _ => .error (.rejected "attestation fmt is not apple-appattest")
  let attStmt ← okOr ((CborValue.get map "attStmt").bind CborValue.asMap)
    (.rejected "missing attStmt")
  let x5c ← okOr ((CborValue.get attStmt "x5c").bind CborValue.asArray)
    (.rejected "missing x5c chain")
  rejectIf (x5c.length < 2) (.rejected "x5c must contain the leaf and the intermediate")
  let credCertDer ← okOr (← index x5c 0).asBytes (.rejected "x5c[0] is not bytes")
  let caCertDer ← okOr (← index x5c 1).asBytes (.rejected "x5c[1] is not bytes")
  let authData ← okOr ((CborValue.get map "authData").bind CborValue.asBytes)
    (.rejected "missing authData")
  let credCert ← okOr (crates.certificateFromDer credCertDer) (.rejected "credCert is malformed")
  let caCert ← okOr (crates.certificateFromDer caCertDer)
    (.rejected "intermediate CA is malformed")
  let caPoint ← lift (spkiPoint caCert)
  lift (verifyP384Issued crates credCert caPoint)
  let rootPoint ← lift (spkiPoint root)
  lift (verifyP384Issued crates caCert rootPoint)
  rejectIf (withinValidity credCert nowUnix = false)
    (.rejected "credCert is outside its validity window")
  let expectedNonce := crates.sha256 (authData ++ crates.sha256 challenge)
  let certNonce ← okOr (← leafNonce credCert)
    (.rejected "credCert has no App Attest nonce extension")
  rejectIf (certNonce ≠ expectedNonce)
    (.rejected "attestation nonce does not match the issued challenge")
  let credPoint ← lift (spkiPoint credCert)
  rejectIf (keyId.length ≠ 32 ∨ keyId ≠ crates.sha256 credPoint)
    (.rejected "keyId does not match the attested public key")
  let _ ← okOr (crates.keyFromSec1 credPoint)
    (.rejected "attested key is not a valid P-256 point")
  rejectIf (authData.length < 55) (.rejected "authData is too short")
  let appId ← okOr (config.appIdForRpIdHash crates (← range authData 0 32))
    (.rejected "authData rpIdHash does not match any configured app id")
  rejectIf ((← counterAt authData) ≠ 0) (.rejected "attestation counter must be zero")
  let aaguid ← range authData 37 53
  rejectIf (¬ (aaguid = aaguidProd ∨ (config.allowDevelopment = true ∧ aaguid = aaguidDev)))
    (.rejected "attestation AAGUID is not accepted")
  let credIdLen := fromBeBytes [← index authData 53, ← index authData 54]
  let credIdEnd ← okOr (checkedAdd 55 credIdLen) (.rejected "credentialId length overflow")
  rejectIf (authData.length < credIdEnd) (.rejected "authData credentialId is truncated")
  rejectIf ((← range authData 55 credIdEnd) ≠ keyId)
    (.rejected "authData credentialId does not match keyId")
  return (appId, credPoint)

def verifyAssertion (crates : Crates) (assertionCbor clientData : Bytes)
    (inst : RegisteredInstance) : Except (Stop String) UInt32 := do
  let value ← okOr (crates.cborFromSlice assertionCbor)
    (.rejected "assertion is not valid CBOR")
  let map ← okOr value.asMap (.rejected "assertion is not a CBOR map")
  let signature ← okOr ((CborValue.get map "signature").bind CborValue.asBytes)
    (.rejected "assertion missing signature")
  let authenticatorData ← okOr ((CborValue.get map "authenticatorData").bind CborValue.asBytes)
    (.rejected "assertion missing authenticatorData")
  rejectIf (authenticatorData.length < 37)
    (.rejected "assertion authenticatorData is too short")
  rejectIf ((← range authenticatorData 0 32) ≠ crates.sha256 (Text.asBytes inst.appId))
    (.rejected "assertion rpIdHash does not match the instance's app id")
  let nonce := crates.sha256 (authenticatorData ++ crates.sha256 clientData)
  let key ← okOr (crates.keyFromSec1 inst.publicKey)
    (.rejected "stored instance key is malformed")
  let sig ← okOr (crates.signatureFromDer signature)
    (.rejected "assertion signature is not valid DER ECDSA")
  rejectIf (crates.verifyEs256 key nonce sig = false) (.rejected "assertion signature is invalid")
  let counter ← counterAt authenticatorData
  rejectIf (counter ≤ inst.signCount)
    (.rejected "assertion counter did not increase (possible replay)")
  return counter

/-! ## Within the bounds -/

theorem ok_bind {ε α β : Type} (a : α) (next : α → Except ε β) : (Except.ok a >>= next) = next a :=
  rfl

theorem slice_succ {bytes : Bytes} {start stop : Nat} (inside : start < bytes.length)
    (more : start < stop) :
    slice bytes start stop = bytes[start] :: slice bytes (start + 1) stop := by
  have count : stop - start = stop - (start + 1) + 1 := by omega
  rw [slice, slice, List.drop_eq_getElem_cons inside, count, List.take_succ_cons]

theorem slice_self (bytes : Bytes) (start : Nat) : slice bytes start start = [] := by
  rw [slice, Nat.sub_self, List.take_zero]

theorem range_eq_slice {bytes : Bytes} {start stop : Nat} (ordered : start ≤ stop)
    (inside : stop ≤ bytes.length) :
    (range bytes start stop : Except (Stop String) Bytes) = .ok (slice bytes start stop) :=
  range_of_le ordered inside

theorem counterAt_eq {bytes : Bytes} (long : 37 ≤ bytes.length) :
    counterAt bytes = .ok (counterOf bytes) := by
  have a : 33 < bytes.length := by omega
  have b : 34 < bytes.length := by omega
  have c : 35 < bytes.length := by omega
  have d : 36 < bytes.length := by omega
  have octets : slice bytes 33 37 = [bytes[33], bytes[34], bytes[35], bytes[36]] := by
    rw [slice_succ a (by decide), slice_succ b (by decide), slice_succ c (by decide),
      slice_succ d (by decide), slice_self]
  rw [counterAt, index_of_lt a, index_of_lt b, index_of_lt c, index_of_lt d, counterOf, octets]
  rfl

theorem compared_or (found octet : UInt8) (rest : Except (Stop String) Bool) :
    (Except.ok (found != octet) <||> rest) = if found = octet then rest else .ok true := by
  by_cases same : found = octet
  · rw [if_pos same, same, bne_self_eq_false]
    rfl
  · rw [if_neg same, bne_iff_ne.mpr same]
    rfl

theorem differs_eq {der : Bytes} {i : Nat} (inside : i < der.length) (octet : UInt8) :
    differs der i octet = .ok (der[i] != octet) := by
  rw [differs, index_of_lt inside]
  rfl

/-- Behind the test of the length all others read what is there. -/
theorem shapedNonce_eq (der : Bytes) :
    shapedNonce der = .ok (if der.length = 38 ∧ der[0]? = some 0x30 ∧ der[2]? = some 0xA1 ∧
      der[4]? = some 0x04 ∧ der[5]? = some 0x20 then some (slice der 6 38) else none) := by
  by_cases length : der.length = 38
  · have first : 0 < der.length := by omega
    have third : 2 < der.length := by omega
    have fifth : 4 < der.length := by omega
    have sixth : 5 < der.length := by omega
    have nonce : (slice der 6 38).length = 32 := by
      rw [slice, List.length_take, List.length_drop, length]
      rfl
    have copied : (range der 6 38 >>= copyNonce : Except (Stop String) Bytes) =
        .ok (slice der 6 38) := by
      rw [range_eq_slice (by decide) length.ge, ok_bind, copyNonce, if_pos nonce]
    have fits : (der.length != 38) = false := by simp [length]
    rw [shapedNonce, fits, differs_eq first, differs_eq third, differs_eq fifth, differs_eq sixth,
      ← bind_assoc, copied]
    simp only [List.getElem?_eq_getElem first, List.getElem?_eq_getElem third,
      List.getElem?_eq_getElem fifth, List.getElem?_eq_getElem sixth, Option.some.injEq, length,
      true_and]
    have started (rest : Except (Stop String) Bool) : (pure false <||> rest) = rest := rfl
    rw [started, compared_or, compared_or, compared_or]
    by_cases a : der[0] = 0x30
    · by_cases b : der[2] = 0xA1
      · by_cases c : der[4] = 0x04
        · by_cases d : der[5] = 0x20
          · rw [if_pos a, if_pos b, if_pos c, if_pos ⟨a, b, c, d⟩, d]
            rfl
          · rw [if_pos a, if_pos b, if_pos c, if_neg fun shape => d shape.2.2.2,
              bne_iff_ne.mpr d]
            rfl
        · rw [if_pos a, if_pos b, if_neg c, if_neg fun shape => c shape.2.2.1]
          rfl
      · rw [if_pos a, if_neg b, if_neg fun shape => b shape.2.1]
        rfl
    · rw [if_neg a, if_neg fun shape => a shape.1]
      rfl
  · have longer : (der.length != 38) = true := by simp [length]
    rw [shapedNonce, longer, if_neg fun shape => length shape.1]
    rfl

theorem leafNonce_eq (cert : Certificate) :
    Indexed.leafNonce cert = .ok (Service.leafNonce cert) := by
  have found : Service.leafNonce cert = (cert.extensions.bind (·.lookup nonceOid)).bind
      fun der => if der.length = 38 ∧ der[0]? = some 0x30 ∧ der[2]? = some 0xA1 ∧
        der[4]? = some 0x04 ∧ der[5]? = some 0x20 then some (slice der 6 38) else none := by
    rw [Service.leafNonce, Option.bind_assoc]
    rfl
  rw [found, Indexed.leafNonce]
  cases cert.extensions.bind (·.lookup nonceOid) with
  | none => rfl
  | some der => exact shapedNonce_eq der

/-! ## The same verifiers -/

theorem verifyAssertion_eq (crates : Crates) (assertionCbor clientData : Bytes)
    (inst : RegisteredInstance) :
    Indexed.verifyAssertion crates assertionCbor clientData inst =
      lift (Service.verifyAssertion crates assertionCbor clientData inst) := by
  simp only [Indexed.verifyAssertion, Service.verifyAssertion, lift_bind, lift_okOr, lift_rejectIf,
    lift_pure]
  refine bind_congr fun value => bind_congr fun map => bind_congr fun signature =>
    bind_congr fun authenticatorData => rejectIf_bind_congr fun longEnough => ?_
  have long : 37 ≤ authenticatorData.length := Nat.not_lt.mp longEnough
  rw [range_eq_slice (by decide) (by omega), counterAt_eq long]
  rfl

theorem verifyAttestation_eq (crates : Crates) (attestationCbor challenge keyId : Bytes)
    (config : AppAttestConfig) (nowUnix : UInt64) :
    Indexed.verifyAttestation crates attestationCbor challenge keyId config nowUnix =
      lift (Service.verifyAttestation crates attestationCbor challenge keyId config nowUnix) := by
  simp only [Indexed.verifyAttestation, Service.verifyAttestation, lift_bind, lift_okOr]
  refine bind_congr fun root => bind_congr fun value => bind_congr fun map => ?_
  generalize CborValue.get map "fmt" = format
  by_cases named : format = some (.text "apple-appattest")
  case neg =>
    rcases format with _ | value
    · rfl
    · cases value with
      | text name =>
          simp only
          rfl
      | _ => rfl
  case pos =>
    subst named
    simp only [lift_bind, lift_okOr, lift_rejectIf, lift_pure]
    refine bind_congr fun attStmt => bind_congr fun x5c => rejectIf_bind_congr fun chained => ?_
    have first : 0 < x5c.length := by omega
    have second : 1 < x5c.length := by omega
    rw [index_of_lt first, index_of_lt second, List.getElem?_eq_getElem first,
      List.getElem?_eq_getElem second, Option.bind_some, Option.bind_some, ok_bind]
    refine bind_congr fun credCertDer => ?_
    rw [ok_bind]
    refine bind_congr fun caCertDer => bind_congr fun authData =>
      bind_congr fun credCert => bind_congr fun caCert => bind_congr fun caPoint =>
      bind_congr fun _ => bind_congr fun rootPoint => bind_congr fun _ => bind_congr fun _ => ?_
    rw [leafNonce_eq, ok_bind]
    refine bind_congr fun certNonce => bind_congr fun _ => bind_congr fun credPoint =>
      bind_congr fun _ => bind_congr fun key => rejectIf_bind_congr fun longEnough => ?_
    have long : 55 ≤ authData.length := Nat.not_lt.mp longEnough
    have high : 53 < authData.length := by omega
    have low : 54 < authData.length := by omega
    have idLength : [authData[53], authData[54]] = slice authData 53 55 := by
      rw [slice_succ high (by decide), slice_succ low (by decide), slice_self]
    have idEnd : checkedAdd 55 (fromBeBytes (slice authData 53 55)) =
        some (55 + fromBeBytes (slice authData 53 55)) := by
      have bound : fromBeBytes [authData[53], authData[54]] < 256 ^ 2 := fromBeBytes_lt _
      rw [idLength] at bound
      exact if_pos (by omega)
    rw [range_eq_slice (by decide) (by omega), counterAt_eq (by omega),
      range_eq_slice (by decide) (by omega), index_of_lt high, index_of_lt low]
    simp only [ok_bind, idLength, idEnd]
    refine bind_congr fun appId => bind_congr fun _ => bind_congr fun _ =>
      rejectIf_bind_congr fun complete => ?_
    rw [range_eq_slice (by omega) (Nat.not_lt.mp complete)]
    rfl

end Indexed

/-! ## What an attestation names -/

section Parts

variable (crates : Crates) (attestationCbor : Bytes)

/-- The octets under `authData`. -/
def authDataOf : Option Bytes := do
  let map ← (crates.cborFromSlice attestationCbor).bind CborValue.asMap
  (CborValue.get map "authData").bind CborValue.asBytes

/-- The DER of a certificate of the chain. -/
def chainOf (i : Nat) : Option Bytes := do
  let map ← (crates.cborFromSlice attestationCbor).bind CborValue.asMap
  let attStmt ← (CborValue.get map "attStmt").bind CborValue.asMap
  let x5c ← (CborValue.get attStmt "x5c").bind CborValue.asArray
  x5c[i]?.bind CborValue.asBytes

/-- An app, a counter of zero, an environment and a key, each in its place. -/
structure NamesKey (config : AppAttestConfig) (keyId : Bytes) (appId : String) (authData : Bytes) :
    Prop where
  configured : appId ∈ config.appIds
  rpIdHash : authData.take 32 = crates.sha256 (Text.asBytes appId)
  counter : slice authData 33 37 = [0, 0, 0, 0]
  aaguid : slice authData 37 53 = aaguidProd ∨
    config.allowDevelopment = true ∧ slice authData 37 53 = aaguidDev
  idLength : fromBeBytes (slice authData 53 55) = 32
  credentialId : slice authData 55 87 = keyId

end Parts

section Accepted

variable {crates : Crates} {attestationCbor challenge keyId : Bytes} {config : AppAttestConfig}
  {nowUnix : UInt64} (accepted : Attestation crates attestationCbor challenge keyId config nowUnix)

theorem Attestation.authDataOf : authDataOf crates attestationCbor = some accepted.authData :=
  Option.bind_eq_some_iff.mpr ⟨accepted.map, accepted.read, accepted.dataRead⟩

theorem Attestation.chain {i : Nat} {der : Bytes}
    (given : accepted.x5c[i]?.bind CborValue.asBytes = some der) :
    chainOf crates attestationCbor i = some der := by
  refine Option.bind_eq_some_iff.mpr ⟨accepted.map, accepted.read, ?_⟩
  refine Option.bind_eq_some_iff.mpr ⟨accepted.attStmt, accepted.attStmtRead, ?_⟩
  exact Option.bind_eq_some_iff.mpr ⟨accepted.x5c, accepted.x5cRead, given⟩

theorem Attestation.leaf : chainOf crates attestationCbor 0 = some accepted.credCertDer :=
  accepted.chain accepted.credCertGiven

theorem Attestation.intermediate : chainOf crates attestationCbor 1 = some accepted.caCertDer :=
  accepted.chain accepted.caCertGiven

theorem slice_length {bytes : Bytes} {start stop : Nat} (inside : stop ≤ bytes.length) :
    (slice bytes start stop).length = stop - start := by
  rw [slice, List.length_take, List.length_drop]
  omega

/-- Four octets that count zero are zero. -/
theorem octets_of_counterOf {bytes : Bytes} (long : 37 ≤ bytes.length)
    (zero : counterOf bytes = 0) : slice bytes 33 37 = [0, 0, 0, 0] := by
  have length : (slice bytes 33 37).length = 4 := slice_length long
  have bound : fromBeBytes (slice bytes 33 37) < 256 ^ 4 := length ▸ fromBeBytes_lt _
  have nothing : fromBeBytes (slice bytes 33 37) = 0 := by
    have counted := congrArg UInt32.toNat zero
    rw [counterOf, UInt32.toNat_ofNat_of_lt' (by simpa using bound)] at counted
    exact counted
  have spelled := toBeBytes_fromBeBytes (slice bytes 33 37)
  rw [length, nothing] at spelled
  exact spelled.symm

/-- The identifier takes 32 octets because the key's does. -/
theorem Attestation.idLength : fromBeBytes (slice accepted.authData 53 55) = 32 := by
  have length := @slice_length accepted.authData 55 _ accepted.complete
  rw [accepted.credentialId, accepted.keyIdLength] at length
  omega

theorem Attestation.namesKey :
    NamesKey crates config keyId accepted.appId accepted.authData where
  configured := List.mem_of_find?_eq_some accepted.appNamed
  rpIdHash := by
    have hashed := List.find?_some accepted.appNamed
    exact (beq_iff_eq.mp hashed).symm
  counter := octets_of_counterOf (le_trans (by decide) accepted.longEnough) accepted.counter
  aaguid := accepted.aaguid
  idLength := accepted.idLength
  credentialId := by
    have identifier := accepted.credentialId
    rwa [accepted.idLength] at identifier

end Accepted

/-! ## Safety -/

/-- No octets lead to an index out of bounds, and whatever is accepted is bound to an app, to a key,
to the challenge and to an advanced counter. -/
theorem appAttest_parsing (crates : Crates) :
    (∀ attestationCbor challenge keyId config nowUnix,
      Indexed.verifyAttestation crates attestationCbor challenge keyId config nowUnix ≠
          .error .panic ∧
        ∀ appId point,
          Indexed.verifyAttestation crates attestationCbor challenge keyId config nowUnix =
              .ok (appId, point) →
            ∃ authData leafDer leaf, authDataOf crates attestationCbor = some authData ∧
              NamesKey crates config keyId appId authData ∧ keyId = crates.sha256 point ∧
              chainOf crates attestationCbor 0 = some leafDer ∧
              crates.certificateFromDer leafDer = some leaf ∧ leaf.publicKey = some point ∧
              leafNonce leaf = some (crates.sha256 (authData ++ crates.sha256 challenge))) ∧
      ∀ assertionCbor clientData inst,
        Indexed.verifyAssertion crates assertionCbor clientData inst ≠ .error .panic ∧
          ∀ counter, Indexed.verifyAssertion crates assertionCbor clientData inst = .ok counter →
            inst.signCount < counter ∧
              ∃ accepted : Assertion crates assertionCbor clientData inst,
                counter = counterOf accepted.authenticatorData := by
  constructor
  · intro attestationCbor challenge keyId config nowUnix
    rw [Indexed.verifyAttestation_eq]
    refine ⟨lift_ne_panic _, ?_⟩
    intro appId point verified
    obtain ⟨accepted, same⟩ :=
      (verifyAttestation_eq_ok ..).mp ((lift_eq_ok _ _).mp verified)
    cases same
    exact ⟨accepted.authData, accepted.credCertDer, accepted.credCert, accepted.authDataOf,
      accepted.namesKey, accepted.keyIdDigest, accepted.leaf, accepted.credCertRead,
      accepted.credKey, accepted.nonce⟩
  · intro assertionCbor clientData inst
    rw [Indexed.verifyAssertion_eq]
    refine ⟨lift_ne_panic _, ?_⟩
    intro counter verified
    obtain ⟨accepted, rfl⟩ := (verifyAssertion_eq_ok ..).mp ((lift_eq_ok _ _).mp verified)
    exact ⟨accepted.advanced, accepted, rfl⟩

/-- The attestation of the reference device names its key. -/
theorem appAttest_parsing_attestedDevice :
    ∃ attestation authData, authDataOf attesting attestation = some authData ∧
      NamesKey attesting ⟨[attestedDevice.appId], false⟩ attestedDevice.keyId
        attestedDevice.appId authData := by
  obtain ⟨attestation, wrote, _⟩ := AttestedDevice.attests []
  have inTime : (1000 : UInt64) ≤ 4102444800 := by decide
  have verified := attestedDevice.attestation_verified wrote
    (show AppAttestConfig.appIds ⟨[attestedDevice.appId], false⟩ = _ from rfl) inTime
  have indexed := (lift_eq_ok _ _).mpr verified
  rw [← Indexed.verifyAttestation_eq] at indexed
  obtain ⟨authData, _, _, carried, names, _⟩ :=
    ((appAttest_parsing attesting).1 _ _ _ _ _).2 _ _ indexed
  exact ⟨attestation, authData, carried, names⟩

end VCIssuer.Service
