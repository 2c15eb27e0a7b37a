import VCIssuer.Service.Deployment
import VCIssuer.Service.Reference

/-!
# Devices that attest their key

What a device sends that holds an attested key: assertions over the bytes of a
request and the attestation of its key.  The verifiers accept both.  The
certificates are ideal ones, whose issuer signs a digest.
-/

namespace VCIssuer.Service

open VCIssuer.Library
open VCIssuer.Library.Critical
open VCIssuer.Library.Checks

/-! ## Authenticator data -/

@[simp]
theorem slice_append_left (front back : Bytes) : slice (front ++ back) 0 front.length = front := by
  simp [slice]

theorem slice_front {front : Bytes} (back : Bytes) {stop : Nat} (length : front.length = stop) :
    slice (front ++ back) 0 stop = front := by
  rw [← length, slice_append_left]

theorem slice_append {front : Bytes} (back : Bytes) {count start stop : Nat}
    (length : front.length = count) :
    slice (front ++ back) (count + start) (count + stop) = slice back start stop := by
  rw [slice, slice, ← List.drop_drop, List.drop_left' length]
  congr 1
  omega

/-- The digest of the app, flags, a counter and what follows. -/
def authenticatorData (crates : Crates) (appId : String) (counter : UInt32) (rest : Bytes) :
    Bytes :=
  crates.sha256 (Text.asBytes appId) ++ (0x40 :: toBeBytes 4 counter.toNat ++ rest)

section AuthenticatorData

variable {crates : Crates} (laws : DigestLaws crates) (appId : String) (counter : UInt32)
  (rest : Bytes)
include laws

theorem authenticatorData_length :
    (authenticatorData crates appId counter rest).length = 37 + rest.length := by
  simp [authenticatorData, laws.sha256]
  omega

theorem authenticatorData_app :
    slice (authenticatorData crates appId counter rest) 0 32 =
      crates.sha256 (Text.asBytes appId) :=
  slice_front _ (laws.sha256 _)

theorem authenticatorData_rest (start stop : Nat) :
    slice (authenticatorData crates appId counter rest) (37 + start) (37 + stop) =
      slice rest start stop := by
  have front : (crates.sha256 (Text.asBytes appId) ++
      (0x40 :: toBeBytes 4 counter.toNat)).length = 37 := by simp [laws.sha256]
  rw [authenticatorData, ← List.append_assoc, slice_append _ front]

theorem authenticatorData_counter :
    counterOf (authenticatorData crates appId counter rest) = counter := by
  have front : (toBeBytes 4 counter.toNat).length = 4 := toBeBytes_length 4 _
  have octets : slice (authenticatorData crates appId counter rest) (32 + 1) (32 + 5) =
      toBeBytes 4 counter.toNat := by
    rw [authenticatorData, slice_append _ (laws.sha256 _)]
    simp [slice, front]
  rw [counterOf, octets, fromBeBytes_toBeBytes counter.toNat_lt, UInt32.ofNat_toNat]

end AuthenticatorData

/-! ## Assertions -/

/-- The key of an app on a device, with what the device signs. -/
structure Device (crates : Crates) where
  appId : String
  publicKey : Bytes
  key : VerifyingKey
  sign : Bytes → Bytes
  keyRead : crates.keyFromSec1 publicKey = some key
  verifies : ∀ message, ∃ parsed, crates.signatureFromDer (sign message) = some parsed ∧
    crates.verifyEs256 key message parsed = true

namespace Device

variable {crates : Crates} (device : Device crates)

/-- The registered instance of the device. -/
def instanceAt (counter : UInt32) : RegisteredInstance where
  appId := device.appId
  publicKey := device.publicKey
  signCount := counter

def assertionEntries (counter : UInt32) (clientData : Bytes) : List (CborValue × CborValue) :=
  let data := authenticatorData crates device.appId counter []
  [ (.text "signature", .bytes (device.sign (crates.sha256 (data ++ crates.sha256 clientData)))),
    (.text "authenticatorData", .bytes data) ]

theorem assertionEntries_plain (counter : UInt32) (clientData : Bytes) :
    PlainCbor cborDepth (.map (device.assertionEntries counter clientData)) := by
  refine .map ?_ ?_
  all_goals
    intro entry found
    simp only [assertionEntries, List.mem_cons, List.not_mem_nil, or_false] at found
    rcases found with rfl | rfl
  · exact .text
  · exact .text
  · exact .bytes
  · exact .bytes

/-- An assertion with a higher counter than the registered one is accepted. -/
theorem assertion_verified (ciborium : CiboriumLaws crates) (laws : DigestLaws crates)
    {stored counter : UInt32} {clientData assertionCbor : Bytes}
    (wrote : crates.cborToVec (.map (device.assertionEntries counter clientData)) =
      some assertionCbor)
    (higher : stored < counter) :
    verifyAssertion crates assertionCbor clientData (device.instanceAt stored) = .ok counter := by
  have counted := authenticatorData_counter laws device.appId counter []
  obtain ⟨parsed, derRead, verified⟩ := device.verifies
    (crates.sha256 (authenticatorData crates device.appId counter [] ++ crates.sha256 clientData))
  have read : (crates.cborFromSlice assertionCbor).bind CborValue.asMap =
      some (device.assertionEntries counter clientData) := by
    rw [Crates.cborFromSlice,
      ciborium.readsWritten _ _ (device.assertionEntries_plain counter clientData) wrote]
    rfl
  refine (verifyAssertion_eq_ok _ _ _ _ _).mpr ⟨{
    map := _
    signature := _
    authenticatorData := _
    key := _
    sig := _
    read, derRead, verified
    signatureRead := rfl
    dataRead := rfl
    longEnough := by rw [authenticatorData_length laws]; exact Nat.le_add_right _ _
    appNamed := authenticatorData_app laws _ _ _
    keyRead := device.keyRead
    advanced := by rw [counted]; exact higher }, counted.symm⟩

end Device

/-! ## Ideal certificates -/

namespace Reference

def certificateSignature (issuerPoint tbs : Bytes) : Bytes :=
  Sha256.digest (issuerPoint ++ tbs)

/-- A signature, a nonce and the point that is certified. -/
def certificateDer (issuerPoint nonce point : Bytes) : Bytes :=
  certificateSignature issuerPoint (nonce ++ point) ++ (nonce ++ point)

def certificate (signature tbs : Bytes) : Certificate where
  tbsDer := some tbs
  signature := signature
  publicKey := some (tbs.drop 32)
  notBefore := 0
  notAfter := 4102444800
  extensions := some [(nonceOid, [0x30, 0x24, 0xA1, 0x22, 0x04, 0x20] ++ tbs.take 32)]

def certificateFromDer (der : Bytes) : Option Certificate :=
  if 64 ≤ der.length then some (certificate (der.take 32) (der.drop 32)) else none

theorem certificateFromDer_der (issuerPoint : Bytes) {nonce : Bytes} (point : Bytes)
    (length : nonce.length = 32) :
    certificateFromDer (certificateDer issuerPoint nonce point) =
      some (certificate (certificateSignature issuerPoint (nonce ++ point)) (nonce ++ point)) := by
  have front : (certificateSignature issuerPoint (nonce ++ point)).length = 32 :=
    Sha256.digest_length _
  have long : 64 ≤ (certificateDer issuerPoint nonce point).length := by
    simp only [certificateDer, List.length_append, front, length]
    omega
  rw [certificateFromDer, if_pos long, certificateDer, List.take_left' front,
    List.drop_left' front]

theorem leafNonce_certificate (signature : Bytes) {nonce : Bytes} (point : Bytes)
    (length : nonce.length = 32) :
    leafNonce (certificate signature (nonce ++ point)) = some nonce := by
  have front : ([0x30, 0x24, 0xA1, 0x22, 0x04, 0x20] : Bytes).length = 6 := rfl
  have octets : slice ([0x30, 0x24, 0xA1, 0x22, 0x04, 0x20] ++ nonce) (6 + 0) (6 + 32) = nonce := by
    rw [slice_append nonce front, slice, List.drop_zero, List.take_of_length_le (by omega)]
  have taken : (nonce ++ point).take 32 = nonce := List.take_left' length
  refine bind_of_eq_some _ rfl (bind_of_eq_some _ rfl ?_)
  rw [taken, octets]
  refine if_pos ⟨?_, rfl, rfl, rfl, rfl⟩
  rw [List.length_append, front, length]

end Reference

/-- The reference crates with ideal certificates. -/
def attesting : Crates :=
  { reference with
    certificateFromDer := Reference.certificateFromDer
    p384KeyFromSec1 := fun point => some ⟨point, []⟩
    p384SignatureFromDer := fun bytes => some ⟨bytes⟩
    verifyEs384 := fun key message signature =>
      signature.bytes == Reference.certificateSignature key.x message
    appleRootCaDer := Reference.certificateDer [0] (List.replicate 32 0) [0] }

theorem attesting_digestLaws : DigestLaws attesting where
  sha256 := Sha256.digest_length
  urlSafe := Reference.digestLaws.urlSafe
  urlSafePresent := Reference.digestLaws.urlSafePresent

theorem attesting_ciborium : CiboriumLaws attesting where
  readsWritten := reference_ciborium.readsWritten

theorem verifyP384Issued_certificate (issuerPoint tbs : Bytes) :
    verifyP384Issued attesting
      (Reference.certificate (Reference.certificateSignature issuerPoint tbs) tbs) issuerPoint =
        .ok () := by
  have verified : attesting.verifyEs384 ⟨issuerPoint, []⟩ tbs
      ⟨Reference.certificateSignature issuerPoint tbs⟩ = true := beq_self_eq_true _
  simp only [verifyP384Issued, okOr_bind_eq_ok, rejectIf_eq_ok, Bool.not_eq_false]
  exact ⟨_, rfl, _, rfl, _, rfl, verified⟩

/-! ## Attestations -/

namespace Device

variable (device : Device attesting)

def keyId : Bytes := Sha256.digest device.publicKey

def attestationData : Bytes :=
  authenticatorData attesting device.appId 0 (aaguidProd ++ ([0, 32] ++ device.keyId))

def attestationNonce (challenge : Bytes) : Bytes :=
  Sha256.digest (device.attestationData ++ Sha256.digest challenge)

def certificates (challenge : Bytes) : List CborValue :=
  [ .bytes (Reference.certificateDer [1] (device.attestationNonce challenge) device.publicKey),
    .bytes (Reference.certificateDer [0] (List.replicate 32 0) [1]) ]

def attestationEntries (challenge : Bytes) : List (CborValue × CborValue) :=
  [ (.text "fmt", .text "apple-appattest"),
    (.text "attStmt", .map [(.text "x5c", .array (device.certificates challenge))]),
    (.text "authData", .bytes device.attestationData) ]

theorem attestationEntries_plain (challenge : Bytes) :
    PlainCbor cborDepth (.map (device.attestationEntries challenge)) := by
  have items : ∀ item ∈ device.certificates challenge, PlainCbor 13 item := by
    intro item found
    simp only [certificates, List.mem_cons, List.not_mem_nil, or_false] at found
    rcases found with rfl | rfl
    · exact .bytes
    · exact .bytes
  have chain : PlainCbor 15 (.map [(.text "x5c", .array (device.certificates challenge))]) := by
    refine .map (fun entry found => ?_) fun entry found => ?_
    all_goals
      rw [List.mem_singleton.mp found]
    · exact .text
    · exact .array items
  refine .map ?_ ?_
  all_goals
    intro entry found
    simp only [attestationEntries, List.mem_cons, List.not_mem_nil, or_false] at found
    rcases found with rfl | rfl | rfl
  · exact .text
  · exact .text
  · exact .text
  · exact .text
  · exact chain
  · exact .bytes

theorem attestationData_length : device.attestationData.length = 87 := by
  have keyId : device.keyId.length = 32 := Sha256.digest_length _
  rw [attestationData, authenticatorData_length attesting_digestLaws, List.length_append,
    List.length_append, keyId]
  rfl

theorem attestationData_slice {start stop : Nat} {octets : Bytes}
    (rest : slice (aaguidProd ++ ([0, 32] ++ device.keyId)) start stop = octets) :
    slice device.attestationData (37 + start) (37 + stop) = octets := by
  rw [attestationData, authenticatorData_rest attesting_digestLaws, rest]

theorem attestationData_aaguid : slice device.attestationData 37 53 = aaguidProd :=
  device.attestationData_slice (slice_front _ rfl)

theorem attestationData_idLength : fromBeBytes (slice device.attestationData 53 55) = 32 := by
  have octets : slice device.attestationData 53 55 = [0, 32] :=
    device.attestationData_slice ((slice_append _ rfl).trans (slice_front _ rfl))
  rw [octets]
  rfl

theorem attestationData_keyId : slice device.attestationData 55 87 = device.keyId := by
  have keyId : device.keyId.length = 32 := Sha256.digest_length _
  have octets : slice (aaguidProd ++ ([0, 32] ++ device.keyId)) (16 + (2 + 0)) (16 + (2 + 32)) =
      device.keyId := by
    have back : slice device.keyId 0 32 = device.keyId := by
      rw [slice, List.drop_zero, List.take_of_length_le (by omega)]
    exact (slice_append _ rfl).trans ((slice_append _ rfl).trans back)
  exact device.attestationData_slice octets

/-- The attestation of the device's key for a challenge is accepted. -/
theorem attestation_verified {challenge attestationCbor : Bytes} {config : AppAttestConfig}
    {now : UInt64} (wrote : attesting.cborToVec (.map (device.attestationEntries challenge)) =
      some attestationCbor) (configured : config.appIds = [device.appId])
    (valid : now ≤ 4102444800) :
    verifyAttestation attesting attestationCbor challenge device.keyId config now =
      .ok (device.appId, device.publicKey) := by
  have read : attesting.cborFromSlice attestationCbor =
      some (.map (device.attestationEntries challenge)) := by
    rw [Crates.cborFromSlice,
      attesting_ciborium.readsWritten _ _ (device.attestationEntries_plain challenge) wrote]
    rfl
  have nonceLength : (device.attestationNonce challenge).length = 32 := Sha256.digest_length _
  have keyIdLength : device.keyId.length = 32 := Sha256.digest_length _
  have root := Reference.certificateFromDer_der [0] [0] (List.length_replicate (n := 32) (a := 0))
  have intermediate :=
    Reference.certificateFromDer_der [0] [1] (List.length_replicate (n := 32) (a := 0))
  have leaf := Reference.certificateFromDer_der [1] device.publicKey nonceLength
  refine (verifyAttestation_eq_ok ..).mpr ⟨{
    root := _
    map := device.attestationEntries challenge
    attStmt := [(.text "x5c", .array (device.certificates challenge))]
    x5c := device.certificates challenge
    credCertDer := _
    caCertDer := _
    authData := device.attestationData
    credCert := _
    caCert := _
    caPoint := _
    rootPoint := _
    credPoint := device.publicKey
    key := device.key
    appId := device.appId
    rootRead := root
    read := Option.bind_eq_some_iff.mpr ⟨_, read, rfl⟩
    format := rfl
    attStmtRead := rfl
    x5cRead := rfl
    chained := Nat.le_refl 2
    credCertGiven := rfl
    caCertGiven := rfl
    dataRead := rfl
    credCertRead := leaf
    caCertRead := intermediate
    caKey := rfl
    credCertIssued := verifyP384Issued_certificate [1] _
    rootKey := rfl
    caCertIssued := verifyP384Issued_certificate [0] _
    valid := by simp [withinValidity, Reference.certificate, valid]
    nonce := Reference.leafNonce_certificate _ _ nonceLength
    credKey := congrArg some (List.drop_left' nonceLength)
    keyIdLength := keyIdLength
    keyIdDigest := rfl
    keyRead := device.keyRead
    longEnough := by rw [attestationData_length]; decide
    appNamed := by
      rw [attestationData, authenticatorData_app attesting_digestLaws]
      simp [AppAttestConfig.appIdForRpIdHash, configured]
    counter := authenticatorData_counter attesting_digestLaws _ _ _
    aaguid := by
      by_contra unknown
      exact (not_or.mp unknown).1 device.attestationData_aaguid
    complete := by rw [attestationData_idLength, attestationData_length]
    credentialId := by rw [attestationData_idLength]; exact device.attestationData_keyId }, rfl⟩

end Device

/-! ## Requests -/

section Requests

variable {crates : Crates} {state : AppState} {s : VolatileState} {drawn : List Draw}
  (env : Environment)

/-- A run that has drawn no values. -/
theorem undrawn {w : World} {trace : List Event} {u : VolatileState} {tasks : List Task}
    (ran : (process crates state).Execution w trace ⟨u, tasks, drawn ++ []⟩) :
    (process crates state).Execution w trace ⟨u, tasks, drawn⟩ := by
  rwa [List.append_nil] at ran

/-- An accepted assertion, when nothing else is under way. -/
theorem appAttestAssert_run {request : AppAttestAssertRequest} {assertion clientData : Bytes}
    {inst : RegisteredInstance} {counter : UInt32} (configured : state.appAttest.isSome)
    (assertionRead : crates.standardDecode request.assertion = some assertion)
    (dataRead : crates.standardDecode request.clientData = some clientData)
    (found : s.appAttestInstances.lookup request.keyId = some inst)
    (verified : verifyAssertion crates assertion clientData inst = .ok counter) :
    (process crates state).Execution ⟨s, [], drawn⟩
      [⟨.arrived (.appAttestAssert request), env, .ok (.finished .ok), []⟩]
      ⟨{ s with
          appAttestInstances :=
            s.appAttestInstances.insert request.keyId { inst with signCount := counter } },
        [], drawn⟩ := by
  obtain ⟨accepted, rfl⟩ := (verifyAssertion_eq_ok _ _ _ _ _).mp verified
  have checked := (verifyAppAttestAssertion_returns _ _ _ _ _ _).mpr
    ⟨inst, found, accepted, rfl, rfl⟩
  refine undrawn (finished_run rfl (by simp) ((returns_bind_pure _ _ _ _ _ _).mpr ⟨(), ?_, rfl⟩))
  simp only [appAttestAssert, returns_rejectIf_bind, returns_okOr_bind]
  exact ⟨by simp [Option.isSome_iff_ne_none.mp configured], _, assertionRead, _, dataRead, checked⟩

/-- A challenge, when none is outstanding and nothing else is under way. -/
theorem appAttestChallenge_run {now : UInt64} (configured : state.appAttest.isSome)
    (none : s.appAttestChallenges = ∅) (clocked : env.clock = some now)
    (fresh : Draw.token (randomToken crates env.octets) ∉ drawn) :
    (process crates state).Execution ⟨s, [], drawn⟩
      [⟨.arrived .appAttestChallenge, env,
        .ok (.finished (.challenge ⟨randomToken crates env.octets, 300⟩)), []⟩]
      ⟨{ s with
          appAttestChallenges :=
            AList.insert (randomToken crates env.octets) (saturatingAdd now 300) ∅ },
        [], drawn ++ [.token (randomToken crates env.octets)]⟩ := by
  refine finished_run rfl (by simpa using fresh)
    ((returns_bind_pure _ _ _ _ _ _).mpr ⟨_, ?_, rfl⟩)
  simp only [appAttestChallenge, returns_rejectIf_bind, returns_ofExcept_bind, unixTime_eq_ok,
    returns_modify_bind, returns_pure]
  refine ⟨by simp [Option.isSome_iff_ne_none.mp configured], now, clocked, trivial, ?_, trivial⟩
  rw [none]
  rfl

/-- An accepted registration and its storing, when nothing else is under way. -/
theorem appAttestRegister_run {request : AppAttestRegisterRequest} {config : AppAttestConfig}
    {now expiry : UInt64} {keyId attestation publicKey : Bytes} {appId : String}
    (configured : state.appAttest = some config) (clocked : env.clock = some now)
    (found : s.appAttestChallenges.lookup request.challenge = some expiry) (inTime : now < expiry)
    (keyRead : crates.standardDecode request.keyId = some keyId)
    (attestationRead : crates.standardDecode request.attestation = some attestation)
    (bounded : attestation.length ≤ maxAppAttestBytes)
    (verified : verifyAttestation crates attestation (Text.asBytes request.challenge) keyId config
      now = .ok (appId, publicKey)) :
    (process crates state).Execution ⟨s, [], drawn⟩
      [ ⟨.arrived (.appAttestRegister request), env,
          .ok (.suspended (.appAttestStore request.keyId ⟨appId, publicKey, 0⟩)), []⟩,
        ⟨.resumed (.appAttestStore request.keyId ⟨appId, publicKey, 0⟩), env,
          .ok (.finished .ok), []⟩ ]
      ⟨{ s with
          appAttestChallenges := s.appAttestChallenges.erase request.challenge
          appAttestInstances :=
            s.appAttestInstances.insert request.keyId ⟨appId, publicKey, 0⟩ },
        [], drawn⟩ := by
  have answered : Returns (Request.handler crates state env (.appAttestRegister request)) s
      (.suspended (.appAttestStore request.keyId ⟨appId, publicKey, 0⟩))
      { s with appAttestChallenges := s.appAttestChallenges.erase request.challenge } [] := by
    refine (returns_bind_pure _ _ _ _ _ _).mpr ⟨⟨appId, publicKey, 0⟩, ?_, rfl⟩
    simp only [appAttestRegister, returns_okOr_bind, returns_ofExcept_bind, returns_read_bind,
      returns_modify_bind, returns_rejectIf_bind, returns_pure, unixTime_eq_ok, not_not,
      Checks.mapError_eq_ok, Nat.not_lt]
    exact ⟨config, configured, now, clocked, ⟨expiry, found, inTime⟩, keyId, keyRead, attestation,
      attestationRead, bounded, _, verified, rfl, trivial, trivial⟩
  exact undrawn (suspended_run answered rfl
    ((returns_bind_pure _ _ _ _ _ _).mpr ⟨(), rfl, rfl⟩) rfl (by simp))

end Requests

/-! ## A device of the reference deployment -/

def attestedState : AppState :=
  { referenceState with appAttest := some ⟨["TEAMID.org.example.wallet"], false⟩ }

def attestedDevice : Device attesting where
  appId := "TEAMID.org.example.wallet"
  publicKey := (Reference.signerAt Reference.x₂ Reference.y₂).publicKeyBytes
  key := Reference.keyAt Reference.x₂ Reference.y₂
  sign message := Reference.signatureToDer
    (Reference.idealSignature (Reference.keyAt Reference.x₂ Reference.y₂) message)
  keyRead := Reference.keyFromSec1_signerAt Reference.onCurve₂
  verifies _ := ⟨_, Reference.signatureFromDer_toDer (Reference.idealSignature_length _ _),
    Reference.verifyEs256_ideal _ _⟩

namespace AttestedDevice

def keyIdText : String := Base64.standard.encode attestedDevice.keyId

theorem sign_length (message : Bytes) : (attestedDevice.sign message).length = 70 := by
  simp [attestedDevice, Reference.signatureToDer]

/-- The device writes its assertions. -/
theorem asserts (counter : UInt32) (clientData : Bytes) :
    ∃ assertion, attesting.cborToVec (.map (attestedDevice.assertionEntries counter clientData)) =
      some assertion := by
  have fits : Cbor.size (.map (attestedDevice.assertionEntries counter clientData)) < 2 ^ 64 := by
    have signature : Text.len "signature" = 9 := by decide
    have authenticatorData : Text.len "authenticatorData" = 17 := by decide
    simp only [Device.assertionEntries, Cbor.size, Cbor.sizeEntries, sign_length, signature,
      authenticatorData, authenticatorData_length attesting_digestLaws, List.length_nil]
    decide
  obtain ⟨assertion, wrote, _⟩ := reference_writes.writes _
    (attestedDevice.assertionEntries_plain counter clientData) fits
  exact ⟨assertion, wrote⟩

/-- The device writes the attestation of its key. -/
theorem attests (challenge : Bytes) :
    ∃ attestation, attesting.cborToVec (.map (attestedDevice.attestationEntries challenge)) =
      some attestation ∧ attestation.length ≤ maxAppAttestBytes := by
  have small : Cbor.size (.map (attestedDevice.attestationEntries challenge)) ≤
      maxAppAttestBytes := by
    have nonce : (attestedDevice.attestationNonce challenge).length = 32 := Sha256.digest_length _
    have point : attestedDevice.publicKey.length = 65 :=
      (Reference.signerAt Reference.x₂ Reference.y₂).uncompressed.1
    have format : Text.len "fmt" = 3 ∧ Text.len "apple-appattest" = 15 := by decide
    have names : Text.len "attStmt" = 7 ∧ Text.len "x5c" = 3 ∧ Text.len "authData" = 8 := by decide
    simp only [Device.attestationEntries, Device.certificates, Cbor.size, Cbor.sizeEntries,
      Cbor.sizeItems, format, names, Device.attestationData_length, Reference.certificateDer,
      Reference.certificateSignature, List.length_append, Sha256.digest_length, nonce, point,
      List.length_replicate, List.length_singleton]
    decide
  have fits : maxAppAttestBytes < 2 ^ 64 := by decide
  obtain ⟨attestation, wrote, bounded⟩ := reference_writes.writes _
    (attestedDevice.attestationEntries_plain challenge) (small.trans_lt fits)
  exact ⟨attestation, wrote, bounded.trans small⟩

def registerRequest (challenge : String) (attestation : Bytes) : AppAttestRegisterRequest where
  keyId := keyIdText
  attestation := Base64.standard.encode attestation
  challenge := challenge

def assertRequest (assertion clientData : Bytes) : AppAttestAssertRequest where
  keyId := keyIdText
  assertion := Base64.standard.encode assertion
  clientData := Base64.standard.encode clientData

section Runs

variable {s : VolatileState} {drawn : List Draw} (env : Environment)

/-- The device asks for a challenge and registers its key. -/
theorem registers {now : UInt64} (none : s.appAttestChallenges = ∅) (clocked : env.clock = some now)
    (valid : now ≤ 4102444800) (fresh : Draw.token (randomToken attesting env.octets) ∉ drawn) :
    ∃ trace, (process attesting attestedState).Execution ⟨s, [], drawn⟩ trace
      ⟨{ s with
          appAttestInstances :=
            s.appAttestInstances.insert keyIdText (attestedDevice.instanceAt 0) },
        [], drawn ++ [.token (randomToken attesting env.octets)]⟩ := by
  generalize challenge : randomToken attesting env.octets = token at fresh ⊢
  let outstanding : StringMap UInt64 := AList.insert token (saturatingAdd now 300) ∅
  obtain ⟨attestation, wrote, bounded⟩ := attests (Text.asBytes token)
  have verified := attestedDevice.attestation_verified wrote
    (show AppAttestConfig.appIds ⟨["TEAMID.org.example.wallet"], false⟩ = _ from rfl) valid
  have inTime : now < saturatingAdd now 300 := by
    rw [UInt64.lt_iff_toNat_lt, toNat_saturatingAdd]
    rw [UInt64.le_iff_toNat_le] at valid
    have bound : (4102444800 : UInt64).toNat < UInt64.size - 1 := by decide
    have later : (300 : UInt64).toNat = 300 := rfl
    omega
  have challenged : (process attesting attestedState).Execution ⟨s, [], drawn⟩ _ _ :=
    appAttestChallenge_run env rfl none clocked (challenge.symm ▸ fresh)
  have keyRead : attesting.standardDecode (registerRequest token attestation).keyId = _ :=
    Base64.standard.decode_encode attestedDevice.keyId
  have attestationRead :
      attesting.standardDecode (registerRequest token attestation).attestation = _ :=
    Base64.standard.decode_encode attestation
  have found : outstanding.lookup (registerRequest token attestation).challenge =
      some (saturatingAdd now 300) := AList.lookup_insert _
  have cleared : outstanding.erase (registerRequest token attestation).challenge =
      s.appAttestChallenges := by
    rw [none]
    exact AList.ext (List.kerase_cons_eq rfl)
  have registered : (process attesting attestedState).Execution
      ⟨{ s with appAttestChallenges := outstanding }, [], drawn ++ [.token token]⟩ _ _ :=
    appAttestRegister_run env rfl clocked found inTime keyRead attestationRead bounded verified
  rw [challenge] at challenged
  rw [cleared] at registered
  exact ⟨_, challenged.trans registered⟩

/-- The device asserts with a counter above the registered one. -/
theorem asserts_run {stored counter : UInt32} {clientData assertion : Bytes}
    (wrote : attesting.cborToVec (.map (attestedDevice.assertionEntries counter clientData)) =
      some assertion)
    (found : s.appAttestInstances.lookup keyIdText = some (attestedDevice.instanceAt stored))
    (higher : stored < counter) :
    (process attesting attestedState).Execution ⟨s, [], drawn⟩
      [⟨.arrived (.appAttestAssert (assertRequest assertion clientData)), env,
        .ok (.finished .ok), []⟩]
      ⟨{ s with
          appAttestInstances :=
            s.appAttestInstances.insert keyIdText (attestedDevice.instanceAt counter) },
        [], drawn⟩ := by
  have verified := attestedDevice.assertion_verified attesting_ciborium attesting_digestLaws wrote
    higher
  exact appAttestAssert_run env rfl (Base64.standard.decode_encode assertion)
    (Base64.standard.decode_encode clientData) found verified

/-- The device registers its key and asserts. -/
theorem registers_asserts {now : UInt64} {counter : UInt32} {clientData assertion : Bytes}
    (none : s.appAttestChallenges = ∅) (clocked : env.clock = some now) (valid : now ≤ 4102444800)
    (fresh : Draw.token (randomToken attesting env.octets) ∉ drawn)
    (wrote : attesting.cborToVec (.map (attestedDevice.assertionEntries counter clientData)) =
      some assertion) (positive : 0 < counter) :
    ∃ registration t, (process attesting attestedState).Execution ⟨s, [], drawn⟩
        (registration ++ [⟨.arrived (.appAttestAssert (assertRequest assertion clientData)), env,
          .ok (.finished .ok), []⟩])
        ⟨t, [], drawn ++ [.token (randomToken attesting env.octets)]⟩ ∧
      t.appAttestChallenges = ∅ := by
  obtain ⟨registration, registered⟩ := registers env none clocked valid fresh
  exact ⟨registration, _,
    registered.trans (asserts_run env wrote (AList.lookup_insert _) positive), none⟩

theorem assert_asserted (assertion clientData : Bytes) :
    Event.asserted attesting attestedState
      ⟨.arrived (.appAttestAssert (assertRequest assertion clientData)), env, .ok (.finished .ok),
        []⟩ = some ⟨keyIdText, assertion, clientData⟩ :=
  bind_of_eq_some _ (Base64.standard.decode_encode assertion)
    (bind_of_eq_some _ (Base64.standard.decode_encode clientData) rfl)

end Runs

end AttestedDevice

end VCIssuer.Service
