import VCIssuer.Library.Checks
import VCIssuer.Service.PidBinding

/-!
# App Attest

Registration of an app instance from an attestation, and the per-request
assertion by which a registered instance signs the exact bytes of a request.
The errors are the texts that the service logs.
-/

namespace VCIssuer.Service

open VCIssuer.Library
open VCIssuer.Library.Checks

structure AppAttestConfig where
  appIds : List String
  allowDevelopment : Bool
  deriving DecidableEq

def AppAttestConfig.appIdForRpIdHash (self : AppAttestConfig) (crates : Crates)
    (rpIdHash : Bytes) : Option String :=
  self.appIds.find? fun id => crates.sha256 (Text.asBytes id) == rpIdHash

structure RegisteredInstance where
  appId : String
  publicKey : Bytes
  signCount : UInt32
  deriving DecidableEq

def nonceOid : String := "1.2.840.113635.100.8.2"

def aaguidProd : Bytes := Text.asBytes "appattest" ++ List.replicate 7 0

def aaguidDev : Bytes := Text.asBytes "appattestdevelop"

/-- The bytes `[from, to)`. -/
def slice (bytes : Bytes) (start stop : Nat) : Bytes :=
  (bytes.drop start).take (stop - start)

def counterOf (authData : Bytes) : UInt32 :=
  UInt32.ofNat (fromBeBytes (slice authData 33 37))

/-! ## Attestations -/

def verifyP384Issued (crates : Crates) (cert : Certificate) (issuerPoint : Bytes) :
    Except String Unit := do
  let key ← okOr (crates.p384KeyFromSec1 issuerPoint) "issuer key is not a valid P-384 point"
  let tbs ← okOr cert.tbsDer "cannot re-encode TBS certificate"
  let signature ← okOr (crates.p384SignatureFromDer cert.signature)
    "certificate signature is not valid DER ECDSA"
  rejectIf (crates.verifyEs384 key tbs signature = false)
    "certificate signature does not chain to the issuer"

def spkiPoint (cert : Certificate) : Except String Bytes :=
  okOr cert.publicKey "certificate public key is not byte-aligned"

def withinValidity (cert : Certificate) (nowUnix : UInt64) : Bool :=
  decide (cert.notBefore ≤ nowUnix) && decide (nowUnix ≤ cert.notAfter)

/-- The nonce in the leaf's extension, whose DER shape is fixed. -/
def leafNonce (cert : Certificate) : Option Bytes := do
  let extensions ← cert.extensions
  let der ← extensions.lookup nonceOid
  if der.length = 38 ∧ der[0]? = some 0x30 ∧ der[2]? = some 0xA1 ∧ der[4]? = some 0x04 ∧
      der[5]? = some 0x20 then
    some (slice der 6 38)
  else none

def verifyAttestation (crates : Crates) (attestationCbor challenge keyId : Bytes)
    (config : AppAttestConfig) (nowUnix : UInt64) : Except String (String × Bytes) := do
  let root ← okOr (crates.certificateFromDer crates.appleRootCaDer)
    "embedded Apple App Attest root CA is malformed"
  let value ← okOr (crates.cborFromSlice attestationCbor) "attestation is not valid CBOR"
  let map ← okOr value.asMap "attestation is not a CBOR map"
  match CborValue.get map "fmt" with
  | some (.text "apple-appattest") => pure ()
  | _ => .error "attestation fmt is not apple-appattest"
  let attStmt ← okOr ((CborValue.get map "attStmt").bind CborValue.asMap) "missing attStmt"
  let x5c ← okOr ((CborValue.get attStmt "x5c").bind CborValue.asArray) "missing x5c chain"
  rejectIf (x5c.length < 2) "x5c must contain the leaf and the intermediate"
  let credCertDer ← okOr (x5c[0]?.bind CborValue.asBytes) "x5c[0] is not bytes"
  let caCertDer ← okOr (x5c[1]?.bind CborValue.asBytes) "x5c[1] is not bytes"
  let authData ← okOr ((CborValue.get map "authData").bind CborValue.asBytes) "missing authData"
  let credCert ← okOr (crates.certificateFromDer credCertDer) "credCert is malformed"
  let caCert ← okOr (crates.certificateFromDer caCertDer) "intermediate CA is malformed"
  verifyP384Issued crates credCert (← spkiPoint caCert)
  verifyP384Issued crates caCert (← spkiPoint root)
  rejectIf (withinValidity credCert nowUnix = false) "credCert is outside its validity window"
  let expectedNonce := crates.sha256 (authData ++ crates.sha256 challenge)
  let certNonce ← okOr (leafNonce credCert) "credCert has no App Attest nonce extension"
  rejectIf (certNonce ≠ expectedNonce) "attestation nonce does not match the issued challenge"
  let credPoint ← spkiPoint credCert
  rejectIf (keyId.length ≠ 32 ∨ keyId ≠ crates.sha256 credPoint)
    "keyId does not match the attested public key"
  let _ ← okOr (crates.keyFromSec1 credPoint) "attested key is not a valid P-256 point"
  rejectIf (authData.length < 55) "authData is too short"
  let appId ← okOr (config.appIdForRpIdHash crates (slice authData 0 32))
    "authData rpIdHash does not match any configured app id"
  rejectIf (counterOf authData ≠ 0) "attestation counter must be zero"
  let aaguid := slice authData 37 53
  rejectIf (¬ (aaguid = aaguidProd ∨ (config.allowDevelopment = true ∧ aaguid = aaguidDev)))
    "attestation AAGUID is not accepted"
  let credIdEnd := 55 + fromBeBytes (slice authData 53 55)
  rejectIf (authData.length < credIdEnd) "authData credentialId is truncated"
  rejectIf (slice authData 55 credIdEnd ≠ keyId) "authData credentialId does not match keyId"
  return (appId, credPoint)

/-- An attestation of a key, with what its acceptance rests on. -/
structure Attestation (crates : Crates) (attestationCbor challenge keyId : Bytes)
    (config : AppAttestConfig) (nowUnix : UInt64) where
  root : Certificate
  map : List (CborValue × CborValue)
  attStmt : List (CborValue × CborValue)
  x5c : List CborValue
  credCertDer : Bytes
  caCertDer : Bytes
  authData : Bytes
  credCert : Certificate
  caCert : Certificate
  caPoint : Bytes
  rootPoint : Bytes
  credPoint : Bytes
  key : VerifyingKey
  appId : String
  rootRead : crates.certificateFromDer crates.appleRootCaDer = some root
  read : (crates.cborFromSlice attestationCbor).bind CborValue.asMap = some map
  format : CborValue.get map "fmt" = some (.text "apple-appattest")
  attStmtRead : (CborValue.get map "attStmt").bind CborValue.asMap = some attStmt
  x5cRead : (CborValue.get attStmt "x5c").bind CborValue.asArray = some x5c
  chained : 2 ≤ x5c.length
  credCertGiven : x5c[0]?.bind CborValue.asBytes = some credCertDer
  caCertGiven : x5c[1]?.bind CborValue.asBytes = some caCertDer
  dataRead : (CborValue.get map "authData").bind CborValue.asBytes = some authData
  credCertRead : crates.certificateFromDer credCertDer = some credCert
  caCertRead : crates.certificateFromDer caCertDer = some caCert
  caKey : caCert.publicKey = some caPoint
  credCertIssued : verifyP384Issued crates credCert caPoint = .ok ()
  rootKey : root.publicKey = some rootPoint
  caCertIssued : verifyP384Issued crates caCert rootPoint = .ok ()
  valid : withinValidity credCert nowUnix = true
  nonce : leafNonce credCert = some (crates.sha256 (authData ++ crates.sha256 challenge))
  credKey : credCert.publicKey = some credPoint
  keyIdLength : keyId.length = 32
  keyIdDigest : keyId = crates.sha256 credPoint
  keyRead : crates.keyFromSec1 credPoint = some key
  longEnough : 55 ≤ authData.length
  appNamed : config.appIdForRpIdHash crates (slice authData 0 32) = some appId
  counter : counterOf authData = 0
  aaguid : slice authData 37 53 = aaguidProd ∨
    config.allowDevelopment = true ∧ slice authData 37 53 = aaguidDev
  complete : 55 + fromBeBytes (slice authData 53 55) ≤ authData.length
  credentialId : slice authData 55 (55 + fromBeBytes (slice authData 53 55)) = keyId

theorem verifyAttestation_eq_ok (crates : Crates) (attestationCbor challenge keyId : Bytes)
    (config : AppAttestConfig) (nowUnix : UInt64) (result : String × Bytes) :
    verifyAttestation crates attestationCbor challenge keyId config nowUnix = .ok result ↔
      ∃ accepted : Attestation crates attestationCbor challenge keyId config nowUnix,
        result = (accepted.appId, accepted.credPoint) := by
  constructor
  · intro accepted
    simp only [verifyAttestation, okOr_bind_eq_ok] at accepted
    obtain ⟨root, rootRead, value, parsed, map, isMap, accepted⟩ := accepted
    split at accepted
    case h_2 => cases accepted
    case h_1 format =>
      simp only [okOr_bind_eq_ok, spkiPoint, check_bind_eq_ok, rejectIf_eq_ok, pure_eq_ok,
        not_not, Nat.not_lt, not_or, Bool.not_eq_false] at accepted
      obtain ⟨attStmt, attStmtRead, x5c, x5cRead, chained, credCertDer, credCertGiven, caCertDer,
        caCertGiven, authData, dataRead, credCert, credCertRead, caCert, caCertRead, caPoint, caKey,
        credCertIssued, rootPoint, rootKey, caCertIssued, valid, _, nonce, rfl, credPoint, credKey,
        ⟨keyIdLength, keyIdDigest⟩, key, keyRead, longEnough, appId, appNamed, counter, aaguid,
        complete, credentialId, rfl⟩ := accepted
      exact ⟨{
        root, map, attStmt, x5c, credCertDer, caCertDer, authData, credCert, caCert, caPoint,
        rootPoint, credPoint, key, appId, rootRead, format, attStmtRead, x5cRead, chained,
        credCertGiven, caCertGiven, dataRead, credCertRead, caCertRead, caKey, credCertIssued,
        rootKey, caCertIssued, valid, nonce, credKey, keyIdLength, keyIdDigest, keyRead, longEnough,
        appNamed, counter, complete, credentialId
        aaguid := or_iff_not_and_not.mpr aaguid
        read := Option.bind_eq_some_iff.mpr ⟨value, parsed, isMap⟩ }, rfl⟩
  · rintro ⟨accepted, rfl⟩
    obtain ⟨value, parsed, isMap⟩ := Option.bind_eq_some_iff.mp accepted.read
    simp only [verifyAttestation, okOr_bind_eq_ok]
    refine ⟨accepted.root, accepted.rootRead, value, parsed, accepted.map, isMap, ?_⟩
    rw [accepted.format]
    simp only [okOr_bind_eq_ok, spkiPoint, check_bind_eq_ok, rejectIf_eq_ok, pure_eq_ok,
      not_not, Nat.not_lt, not_or, Bool.not_eq_false]
    exact ⟨accepted.attStmt, accepted.attStmtRead, accepted.x5c, accepted.x5cRead, accepted.chained,
      accepted.credCertDer, accepted.credCertGiven, accepted.caCertDer, accepted.caCertGiven,
      accepted.authData, accepted.dataRead, accepted.credCert, accepted.credCertRead,
      accepted.caCert, accepted.caCertRead, accepted.caPoint, accepted.caKey,
      accepted.credCertIssued, accepted.rootPoint, accepted.rootKey, accepted.caCertIssued,
      accepted.valid, _, accepted.nonce, rfl, accepted.credPoint, accepted.credKey,
      ⟨accepted.keyIdLength, accepted.keyIdDigest⟩, accepted.key, accepted.keyRead,
      accepted.longEnough, accepted.appId, accepted.appNamed, accepted.counter,
      or_iff_not_and_not.mp accepted.aaguid, accepted.complete, accepted.credentialId, rfl⟩

/-! ## Assertions -/

def verifyAssertion (crates : Crates) (assertionCbor clientData : Bytes)
    (inst : RegisteredInstance) : Except String UInt32 := do
  let value ← okOr (crates.cborFromSlice assertionCbor) "assertion is not valid CBOR"
  let map ← okOr value.asMap "assertion is not a CBOR map"
  let signature ← okOr ((CborValue.get map "signature").bind CborValue.asBytes)
    "assertion missing signature"
  let authenticatorData ← okOr ((CborValue.get map "authenticatorData").bind CborValue.asBytes)
    "assertion missing authenticatorData"
  rejectIf (authenticatorData.length < 37) "assertion authenticatorData is too short"
  rejectIf (slice authenticatorData 0 32 ≠ crates.sha256 (Text.asBytes inst.appId))
    "assertion rpIdHash does not match the instance's app id"
  let nonce := crates.sha256 (authenticatorData ++ crates.sha256 clientData)
  let key ← okOr (crates.keyFromSec1 inst.publicKey) "stored instance key is malformed"
  let sig ← okOr (crates.signatureFromDer signature) "assertion signature is not valid DER ECDSA"
  rejectIf (crates.verifyEs256 key nonce sig = false) "assertion signature is invalid"
  let counter := counterOf authenticatorData
  rejectIf (counter ≤ inst.signCount) "assertion counter did not increase (possible replay)"
  return counter

/-- An assertion over `clientData` by a registered instance, with what its acceptance rests on. -/
structure Assertion (crates : Crates) (assertionCbor clientData : Bytes)
    (inst : RegisteredInstance) where
  map : List (CborValue × CborValue)
  signature : Bytes
  authenticatorData : Bytes
  key : VerifyingKey
  sig : Signature
  read : (crates.cborFromSlice assertionCbor).bind CborValue.asMap = some map
  signatureRead : (CborValue.get map "signature").bind CborValue.asBytes = some signature
  dataRead : (CborValue.get map "authenticatorData").bind CborValue.asBytes =
    some authenticatorData
  longEnough : 37 ≤ authenticatorData.length
  appNamed : slice authenticatorData 0 32 = crates.sha256 (Text.asBytes inst.appId)
  keyRead : crates.keyFromSec1 inst.publicKey = some key
  derRead : crates.signatureFromDer signature = some sig
  verified : crates.verifyEs256 key
    (crates.sha256 (authenticatorData ++ crates.sha256 clientData)) sig = true
  advanced : inst.signCount < counterOf authenticatorData

theorem verifyAssertion_eq_ok (crates : Crates) (assertionCbor clientData : Bytes)
    (inst : RegisteredInstance) (counter : UInt32) :
    verifyAssertion crates assertionCbor clientData inst = .ok counter ↔
      ∃ accepted : Assertion crates assertionCbor clientData inst,
        counter = counterOf accepted.authenticatorData := by
  simp only [verifyAssertion, okOr_bind_eq_ok, rejectIf_bind_eq_ok, pure_eq_ok, not_not,
    Nat.not_lt, UInt32.not_le, Bool.not_eq_false]
  constructor
  · rintro ⟨value, parsed, map, isMap, signature, signatureRead, authenticatorData, dataRead,
      longEnough, appNamed, key, keyRead, sig, derRead, verified, advanced, rfl⟩
    exact ⟨{
      map, signature, authenticatorData, key, sig, signatureRead, dataRead, longEnough, appNamed,
      keyRead, derRead, verified, advanced
      read := Option.bind_eq_some_iff.mpr ⟨value, parsed, isMap⟩ }, rfl⟩
  · rintro ⟨accepted, rfl⟩
    obtain ⟨value, parsed, isMap⟩ := Option.bind_eq_some_iff.mp accepted.read
    exact ⟨value, parsed, accepted.map, isMap, accepted.signature, accepted.signatureRead,
      accepted.authenticatorData, accepted.dataRead, accepted.longEnough, accepted.appNamed,
      accepted.key, accepted.keyRead, accepted.sig, accepted.derRead, accepted.verified,
      accepted.advanced, rfl⟩

end VCIssuer.Service
