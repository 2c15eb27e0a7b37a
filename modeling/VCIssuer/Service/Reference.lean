import VCIssuer.Library.Cbor
import VCIssuer.Library.Json
import VCIssuer.Library.Sha256
import VCIssuer.Service.HonestFlow

/-!
# A reference deployment

Crates and a host that satisfy every law.  The encodings, SHA-256 and the curve
are the real ones.  Signatures are ideal: the only signature of a message under
a key is made of a digest of both.
-/

namespace VCIssuer.Service

open VCIssuer.Library

namespace Reference

/-! ## P-256 -/

def fieldPrime : Nat := 2 ^ 256 - 2 ^ 224 + 2 ^ 192 + 2 ^ 96 - 1

def curveB : Nat := 0x5ac635d8aa3a93e7b3ebbd55769886bc651d06b0cc53b0f63bce3c3e27d2604b

/-- The equation y² = x³ - 3x + b, without the subtraction. -/
def onCurve (x y : Nat) : Bool :=
  decide (x < fieldPrime) && decide (y < fieldPrime) &&
    decide ((y * y + 3 * x) % fieldPrime = (x * x * x + curveB) % fieldPrime)

@[irreducible]
def keyFromAffine (x y : Bytes) : Option VerifyingKey :=
  if x.length = 32 ∧ y.length = 32 ∧ onCurve (fromBeBytes x) (fromBeBytes y) = true then
    some ⟨x, y⟩
  else none

/-- Uncompressed points only. -/
def keyFromSec1 : Bytes → Option VerifyingKey
  | [] => none
  | mark :: coordinates =>
      if mark = 4 then keyFromAffine (coordinates.take 32) (coordinates.drop 32) else none

theorem keyFromSec1_uncompressed {x : Bytes} (y : Bytes) (length : x.length = 32) :
    keyFromSec1 (4 :: x ++ y) = keyFromAffine x y := by
  rw [List.cons_append, keyFromSec1, if_pos rfl, List.take_left' length, List.drop_left' length]

/-! ## Ideal signatures -/

/-- A number of 32 octets that is neither zero nor above the order of the curve. -/
def signatureHalf (key : VerifyingKey) (message : Bytes) : Bytes :=
  1 :: (Sha256.digest (key.x ++ key.y ++ message)).take 31

def idealSignature (key : VerifyingKey) (message : Bytes) : Bytes :=
  signatureHalf key message ++ signatureHalf key message

@[simp]
theorem signatureHalf_length (key : VerifyingKey) (message : Bytes) :
    (signatureHalf key message).length = 32 := by
  simp [signatureHalf]

@[simp]
theorem idealSignature_length (key : VerifyingKey) (message : Bytes) :
    (idealSignature key message).length = 64 := by
  simp [idealSignature]

def signatureFromSlice (bytes : Bytes) : Option Signature :=
  if bytes.length = 64 then some ⟨bytes⟩ else none

/-- DER with two integers of 32 octets each. -/
def signatureToDer (signature : Bytes) : Bytes :=
  [0x30, 0x44, 0x02, 0x20] ++ signature.take 32 ++ ([0x02, 0x20] ++ signature.drop 32)

def signatureFromDer (bytes : Bytes) : Option Signature :=
  let signature := (bytes.drop 4).take 32 ++ bytes.drop 38
  if signature.length = 64 ∧ bytes = signatureToDer signature then some ⟨signature⟩ else none

theorem signatureFromDer_toDer {signature : Bytes} (length : signature.length = 64) :
    signatureFromDer (signatureToDer signature) = some ⟨signature⟩ := by
  have front : (signature.take 32).length = 32 := by simp [length]
  have back : (signature.drop 32).length = 32 := by simp [length]
  have first : ((signatureToDer signature).drop 4).take 32 = signature.take 32 := by
    rw [signatureToDer, List.append_assoc, List.drop_left' (by rfl), List.take_left' front]
  have second : (signatureToDer signature).drop 38 = signature.drop 32 := by
    rw [signatureToDer, ← List.append_assoc, List.drop_left' (by simp [front])]
  rw [signatureFromDer, first, second, List.take_append_drop]
  exact if_pos ⟨length, rfl⟩

def verifyEs256 (key : VerifyingKey) (message : Bytes) (signature : Signature) : Bool :=
  signature.bytes == idealSignature key message

theorem signatureFromSlice_ideal (key : VerifyingKey) (message : Bytes) :
    signatureFromSlice (idealSignature key message) = some ⟨idealSignature key message⟩ :=
  if_pos (idealSignature_length key message)

theorem verifyEs256_ideal (key : VerifyingKey) (message : Bytes) :
    verifyEs256 key message ⟨idealSignature key message⟩ = true :=
  beq_self_eq_true _

/-! ## Ideal ML-DSA-65 -/

def idealPqSignature (publicKey message : Bytes) : Bytes :=
  Sha256.digest (publicKey ++ message) ++ List.replicate (PqBackend.signatureBytes - 32) 0

/-- A secret key begins with its public key. -/
def pqSecretKey (publicKey : Bytes) : Bytes :=
  publicKey ++ List.replicate (PqBackend.secretKeyBytes - PqBackend.publicKeyBytes) 0

def signMlDsa65 (secretKey message : Bytes) : Bytes :=
  idealPqSignature (secretKey.take PqBackend.publicKeyBytes) message

@[simp]
theorem idealPqSignature_length (publicKey message : Bytes) :
    (idealPqSignature publicKey message).length = PqBackend.signatureBytes := by
  rw [idealPqSignature, List.length_append, Sha256.digest_length, List.length_replicate]
  rfl

theorem pqSecretKey_length {publicKey : Bytes}
    (length : publicKey.length = PqBackend.publicKeyBytes) :
    (pqSecretKey publicKey).length = PqBackend.secretKeyBytes := by
  rw [pqSecretKey, List.length_append, length, List.length_replicate]
  rfl

theorem signMlDsa65_pqSecretKey {publicKey : Bytes} (message : Bytes)
    (length : publicKey.length = PqBackend.publicKeyBytes) :
    signMlDsa65 (pqSecretKey publicKey) message = idealPqSignature publicKey message := by
  rw [signMlDsa65, pqSecretKey, List.take_left' length]

/-! ## URLs -/

/-- A relative path takes the place of what follows the last slash of the base's path. -/
def join (base : Url) (path : String) : Option Url :=
  let hierarchical := base.asStr.toList.takeWhile fun c => c ≠ '?' ∧ c ≠ '#'
  some ⟨String.ofList (hierarchical.rdropWhile (· ≠ '/')) ++ path⟩

/-- Without percent-encoding. -/
def appendPair (url : Url) (name value : String) : Url :=
  let separator := if '?' ∈ url.asStr.toList then "&" else "?"
  ⟨url.asStr ++ separator ++ name ++ "=" ++ value⟩

/-- A struct is written in the order of its fields. -/
def tlsnPayloadToVec (payload : TlsnArtifactPayload) : Bytes :=
  Text.asBytes (String.ofList (Json.write (.object
    [ ("version", .string payload.version), ("sessionId", .string payload.sessionId),
      ("issuedAt", .nat payload.issuedAt),
      ("verifierOutput", payload.verifierOutput.canonical) ])))

/-! ## JSON -/

def valueToString (value : Value) : String :=
  String.ofList (Json.write value.canonical)

@[irreducible]
def readStruct {α : Type} (read : Value → Option α) (bytes : Bytes) : Option α :=
  (Json.fromSlice bytes).bind read

@[irreducible]
def readStructText {α : Type} (read : Value → Option α) (text : String) : Option α :=
  readStruct read (Text.asBytes text)

section Structs

variable {α : Type} (read : Value → Option α) {value : Value}

theorem readStruct_toVec (plain : PlainJson jsonDepth value) :
    readStruct read (Json.toVec value) = read value.canonical := by
  rw [readStruct, Json.fromSlice_toVec plain (by decide), Option.bind_some]

theorem readStructText_valueToString (plain : PlainJson jsonDepth value) :
    readStructText read (valueToString value) = read value.canonical := by
  rw [readStructText]
  exact readStruct_toVec read plain

end Structs

end Reference

/-! ## The crates -/

/-- No certificate is read here. -/
def reference : Crates where
  sha256 := Sha256.digest
  urlSafeEncode := Base64.urlSafeNoPad.encode
  urlSafeDecode := Base64.urlSafeNoPad.decode
  standardDecode := Base64.standard.decode
  keyFromAffine := Reference.keyFromAffine
  keyFromSec1 := Reference.keyFromSec1
  signatureFromSlice := Reference.signatureFromSlice
  signatureFromDer := Reference.signatureFromDer
  verifyEs256 := Reference.verifyEs256
  verifyMlDsa65 publicKey message signature :=
    signature == Reference.idealPqSignature publicKey message
  dpopHeaderFromSlice := Reference.readStruct DpopHeader.ofValue
  dpopClaimsFromSlice := Reference.readStruct DpopClaims.ofValue
  credentialProofClaimsFromSlice := Reference.readStruct CredentialProofClaims.ofValue
  captureEvidenceFromSlice := Reference.readStruct CaptureEvidenceRequest.ofValue
  tokenResponseFromStr := Reference.readStructText TokenResponse.ofValue
  validateResponseFromStr := Reference.readStructText ValidateResponse.ofValue
  valueFromSlice := Json.fromSlice
  valueToVec := Json.toVec
  valueToString := Reference.valueToString
  tlsnPayloadToVec payload := some (Reference.tlsnPayloadToVec payload)
  cborFromReader := Cbor.fromReader
  cborToVec := Cbor.write
  certificateFromDer _ := none
  p384KeyFromSec1 _ := none
  p384SignatureFromDer _ := none
  verifyEs384 _ _ _ := false
  appleRootCaDer := []
  join := Reference.join
  appendPair := Reference.appendPair

theorem reference_ciborium : CiboriumLaws reference where
  readsWritten _ _ plain written := Cbor.fromReader_write plain (by decide) written

theorem reference_composes : CiboriumComposes reference where
  bytes _ _ wrote := by
    obtain ⟨front, head, rfl⟩ := Option.map_eq_some_iff.mp wrote
    exact ⟨front, Cbor.head_ne_nil head, rfl⟩
  array _ _ wrote := by
    obtain ⟨front, head, wrote⟩ := Option.bind_eq_some_iff.mp wrote
    obtain ⟨back, wrote, same⟩ := Option.bind_eq_some_iff.mp wrote
    obtain ⟨parts, each, rfl⟩ := Cbor.writeItems_parts wrote
    exact ⟨front, parts, Cbor.head_ne_nil head, each, (Option.some.inj same).symm⟩
  map _ _ wrote := by
    obtain ⟨front, head, wrote⟩ := Option.bind_eq_some_iff.mp wrote
    obtain ⟨back, wrote, same⟩ := Option.bind_eq_some_iff.mp wrote
    obtain ⟨parts, each, rfl⟩ := Cbor.writeEntries_parts wrote
    exact ⟨front, parts, Cbor.head_ne_nil head, each, (Option.some.inj same).symm⟩

theorem reference_writes : CiboriumWrites reference where
  writes _ plain fits := Cbor.plain_writes plain fits

theorem reference_shortest : CiboriumShortest reference where
  shortest _ _ plain wrote := Cbor.plain_measured plain _ wrote

theorem reference_base64 : Base64Laws reference where
  readsWritten := Base64.decode_encode _
  alphabet bytes := by
    show (Base64.urlSafeNoPad.encode bytes).toList ⊆ Base64.urlSafeSymbols
    rw [Base64.encode, String.toList_ofList]
    exact Base64.encodeChars_subset _ rfl bytes

theorem reference_serdeJson : SerdeJsonLaws reference where
  readsWritten _ plain := Json.fromSlice_toVec plain (by decide)

theorem reference_serdeStruct : SerdeStructLaws reference where
  dpopHeader _ plain := Reference.readStruct_toVec _ plain
  dpopClaims _ plain := Reference.readStruct_toVec _ plain
  credentialProofClaims _ plain := Reference.readStruct_toVec _ plain
  captureEvidence _ plain := Reference.readStruct_toVec _ plain
  tokenResponse _ plain := Reference.readStructText_valueToString _ plain
  validateResponse _ plain := Reference.readStructText_valueToString _ plain

theorem reference_sec1 : Sec1Laws reference where
  uncompressed _ y length _ := Reference.keyFromSec1_uncompressed y length

theorem reference_encodings : LawfulEncodings reference :=
  ⟨reference_base64, reference_serdeJson, reference_serdeStruct⟩

/-! ## The host -/

/-- Nothing answers on the network, and no post-quantum key is stored. -/
def referenceHost : Host where
  post _ := none
  signEs256 signer message :=
    (Reference.keyFromSec1 signer.publicKeyBytes).map (Reference.idealSignature · message)
  developmentCertificateDer _ := some [0x30, 0x00]
  loadStoredKey _ := none
  signMlDsa65 secretKey message := some (Reference.signMlDsa65 secretKey message)
  salt _ index := (Sha256.digest (toBeBytes 8 index)).take 16

theorem reference_es256 : Es256Laws reference referenceHost where
  verifiesSigned signer message signature signed := by
    obtain ⟨key, read, rfl⟩ := Option.map_eq_some_iff.mp signed
    exact ⟨key, _, read, Reference.signatureFromSlice_ideal key message,
      Reference.verifyEs256_ideal key message⟩

theorem reference_mlDsa65 {publicKey : Bytes}
    (length : publicKey.length = PqBackend.publicKeyBytes) :
    MlDsaKeyPair reference referenceHost publicKey (Reference.pqSecretKey publicKey) where
  publicLength := length
  verifiesSigned message signature signed := by
    cases signed
    exact beq_iff_eq.mpr (Reference.signMlDsa65_pqSecretKey message length)

/-! ## Keys -/

namespace Reference

/-- A Keychain key at an affine point. -/
def signerAt (x y : Nat) : KeychainSigner where
  publicKeyBytes := 4 :: toBeBytes 32 x ++ toBeBytes 32 y
  uncompressed := by simp

def keyAt (x y : Nat) : VerifyingKey :=
  ⟨toBeBytes 32 x, toBeBytes 32 y⟩

section Points

variable {x y : Nat}

theorem keyFromAffine_keyAt (on : onCurve x y = true) :
    keyFromAffine (toBeBytes 32 x) (toBeBytes 32 y) = some (keyAt x y) := by
  have bounds : x < fieldPrime ∧ y < fieldPrime := by
    simp only [onCurve, Bool.and_eq_true, decide_eq_true_eq] at on
    exact on.1
  have fits : fieldPrime < 256 ^ 32 := by decide
  rw [keyFromAffine, fromBeBytes_toBeBytes (bounds.1.trans fits),
    fromBeBytes_toBeBytes (bounds.2.trans fits)]
  exact if_pos ⟨toBeBytes_length 32 x, toBeBytes_length 32 y, on⟩

theorem keyFromSec1_signerAt (on : onCurve x y = true) :
    keyFromSec1 (signerAt x y).publicKeyBytes = some (keyAt x y) := by
  rw [signerAt, keyFromSec1_uncompressed _ (toBeBytes_length 32 x)]
  exact keyFromAffine_keyAt on

/-- A Keychain key on the curve signs whatever it is given. -/
theorem signEs256_signerAt (on : onCurve x y = true) (message : Bytes) :
    referenceHost.signEs256 (signerAt x y) message =
      some (idealSignature (keyAt x y) message) := by
  have read := keyFromSec1_signerAt on
  simp only [referenceHost, read, Option.map_some]

def wallet (on : onCurve x y = true) : Wallet reference where
  jwk := ⟨"EC", "P-256", reference.urlSafeEncode (toBeBytes 32 x),
    reference.urlSafeEncode (toBeBytes 32 y)⟩
  key := keyAt x y
  sign := idealSignature (keyAt x y)
  denotes := ⟨rfl, rfl, toBeBytes 32 x, toBeBytes 32 y, reference_base64.readsWritten _,
    reference_base64.readsWritten _, toBeBytes_length 32 x, toBeBytes_length 32 y,
    keyFromAffine_keyAt on⟩
  verifies message := ⟨⟨idealSignature (keyAt x y) message⟩,
    signatureFromSlice_ideal (keyAt x y) message, verifyEs256_ideal (keyAt x y) message⟩

end Points

/-! ### The generator and its first multiples -/

def x₁ : Nat := 0x6b17d1f2e12c4247f8bce6e563a440f277037d812deb33a0f4a13945d898c296
def y₁ : Nat := 0x4fe342e2fe1a7f9b8ee7eb4a7c0f9e162bce33576b315ececbb6406837bf51f5
def x₂ : Nat := 0x7cf27b188d034f7e8a52380304b51ac3c08969e277f21b35a60b48fc47669978
def y₂ : Nat := 0x7775510db8ed040293d9ac69f7430dbba7dade63ce982299e04b79d227873d1
def x₃ : Nat := 0x5ecbe4d1a6330a44c8f7ef951d4bf165e6c6b721efada985fb41661bc6e7fd6c
def y₃ : Nat := 0x8734640c4998ff7e374b06ce1a64a2ecd82ab036384fb83d9a79b127a27d5032

theorem onCurve₁ : onCurve x₁ y₁ = true := by decide +kernel

theorem onCurve₂ : onCurve x₂ y₂ = true := by decide +kernel

theorem onCurve₃ : onCurve x₃ y₃ = true := by decide +kernel

end Reference

theorem reference_signs {x y : Nat} (on : Reference.onCurve x y = true) :
    Signs referenceHost (Reference.signerAt x y) :=
  fun message => ⟨_, Reference.signEs256_signerAt on message⟩

theorem reference_signsRaw {x y : Nat} (on : Reference.onCurve x y = true) :
    SignsRaw referenceHost (Reference.signerAt x y) := fun message =>
  ⟨_, Reference.signEs256_signerAt on message, Reference.idealSignature_length _ _⟩

theorem reference_answers : HostAnswers referenceHost where
  certificate _ := ⟨[0x30, 0x00], rfl, by decide⟩
  salts _ index := by
    rw [referenceHost, List.length_take, Sha256.digest_length]
    decide

/-! ## Sizes -/

namespace Reference

open Json (size sizeItems sizeMembers)

theorem len_urlSafeEncode_le (bytes : Bytes) :
    Text.len (reference.urlSafeEncode bytes) ≤ 2 * bytes.length + 2 :=
  Base64.len_urlSafe_le bytes

theorem digestLaws : DigestLaws reference where
  sha256 := Sha256.digest_length
  urlSafe := len_urlSafeEncode_le
  urlSafePresent bytes present empty := by
    have nothing : reference.urlSafeDecode "" = some [] := by decide
    have decoded := reference_base64.readsWritten bytes
    rw [empty, nothing] at decoded
    exact present (Option.some.inj decoded).symm

theorem len_digest_le (text : String) : Text.len (reference.digest text) ≤ 66 :=
  digestLaws.len_digest_le text

theorem digest_ne_empty (text : String) : reference.digest text ≠ "" :=
  digestLaws.digest_ne_empty text

theorem len_encoded_le (value : Value) :
    Text.len (reference.urlSafeEncode (reference.valueToVec value)) ≤ 2 * size value + 2 := by
  have bound := len_urlSafeEncode_le (Json.toVec value)
  have length := Json.length_toVec_le value
  exact bound.trans (by omega)

theorem len_compactJws_le (header payload : Value) {signature : Bytes}
    (length : signature.length = 64) :
    Text.len (compactJws reference (reference.valueToVec header) (reference.valueToVec payload)
      signature) ≤ 2 * size header + 2 * size payload + 136 := by
  have first := len_encoded_le header
  have second := len_encoded_le payload
  have third := len_urlSafeEncode_le signature
  have dot : Text.len "." = 1 := rfl
  simp only [compactJws, Text.len_append, dot]
  omega

/-- The coordinates of a key are at most as long as 32 encoded octets can be. -/
theorem size_jwk_le {jwk : EcJwk} (x : Text.len jwk.x ≤ 66) (y : Text.len jwk.y ≤ 66) :
    size jwk.toValue ≤ 1000 := by
  have empty : Text.len "" = 0 := rfl
  have members : size jwk.toValue =
      size (EcJwk.toValue ⟨"", "", "", ""⟩) + 6 * Text.len jwk.x + 6 * Text.len jwk.y := by
    simp only [EcJwk.toValue, size, sizeMembers, empty]
    omega
  have rest : size (EcJwk.toValue ⟨"", "", "", ""⟩) ≤ 200 := by decide
  omega

theorem size_proofHeader_le (typ : String) {jwk : EcJwk} (x : Text.len jwk.x ≤ 66)
    (y : Text.len jwk.y ≤ 66) : size (proofHeader typ jwk) ≤ 6 * Text.len typ + 1150 := by
  have empty : Text.len "" = 0 := rfl
  have key := size_jwk_le x y
  have members : size (proofHeader typ jwk) + size (EcJwk.toValue ⟨"", "", "", ""⟩) =
      size (proofHeader "" ⟨"", "", "", ""⟩) + 6 * Text.len typ + size jwk.toValue := by
    simp only [proofHeader, size, sizeMembers, empty]
    omega
  have rest : size (proofHeader "" ⟨"", "", "", ""⟩) ≤
      size (EcJwk.toValue ⟨"", "", "", ""⟩) + 150 := by decide
  omega

section Wallets

variable {x y : Nat} (on : onCurve x y = true)

theorem len_walletJwk_le :
    Text.len (wallet on).jwk.x ≤ 66 ∧ Text.len (wallet on).jwk.y ≤ 66 := by
  have coordinate : ∀ value : Nat, Text.len (reference.urlSafeEncode (toBeBytes 32 value)) ≤ 66 := by
    intro value
    have bound := len_urlSafeEncode_le (toBeBytes 32 value)
    rwa [toBeBytes_length] at bound
  exact ⟨coordinate x, coordinate y⟩

theorem len_walletProof_le (typ : String) (payload : Value) :
    Text.len ((wallet on).proof typ payload) ≤ 12 * Text.len typ + 2 * size payload + 2436 := by
  have header := size_proofHeader_le typ (len_walletJwk_le on).1 (len_walletJwk_le on).2
  have bound : Text.len ((wallet on).proof typ payload) ≤ _ :=
    len_compactJws_le (proofHeader typ (wallet on).jwk) payload (idealSignature_length _ _)
  omega

end Wallets

end Reference

/-! ## The issuer -/

/-- The issuer signs with one key, and trusts another as its notary and as its reader. -/
def referenceState : AppState where
  issuer := ⟨"https://issuer.example/"⟩
  trustedNotaryKey := (Reference.signerAt Reference.x₃ Reference.y₃).publicKeyBytes
  trustedNotaryPqKey := none
  tlsnDemoNotary := none
  trustedEmrtdReaderKey := some (Reference.signerAt Reference.x₃ Reference.y₃).publicKeyBytes
  hybridPqEnabled := false
  iproov := none
  appAttest := none
  credentialSigners :=
    [ pidSdJwt, pidFromEmrtdSdJwt, pidFromEmrtdMdoc, pidMdoc, eaaMdoc, qeaaSdJwt,
      qeaaPidBoundSdJwt, devSvipePidSdJwt, tlsnEvidenceSdJwt, mandateSdJwt ].map
        fun profile => (profile, Reference.signerAt Reference.x₁ Reference.y₁)
  hybridCredentialSigner := none
  pidCaptureInvocationOrigin := none

def referenceClient (scope : String) : Client reference referenceState where
  wallet := Reference.wallet Reference.onCurve₂
  clientId := "wallet-dev"
  redirectUri := ⟨"eudi-wallet://authorize"⟩
  scope := scope
  codeVerifier := "dBjftJeZ4CVP-mB92K27uhbUJU1p1r_wW1gFWFOEjXk"
  tokenEndpoint := ⟨"https://issuer.example/token"⟩
  credentialEndpoint := ⟨"https://issuer.example/credential"⟩
  tokenJoined := by decide
  credentialJoined := by decide

/-! ## A run -/

theorem Base64Laws.injective {crates : Crates} (laws : Base64Laws crates) {bytes other : Bytes}
    (same : crates.urlSafeEncode bytes = crates.urlSafeEncode other) : bytes = other :=
  Option.some.inj
    ((laws.readsWritten bytes).symm.trans ((congrArg _ same).trans (laws.readsWritten other)))

/-- The reference client obtains a token for whatever it may ask for. -/
theorem referenceClient_obtainsToken {scope : String} (valid : validScope scope false = true) :
    ∃ token trace u drawn, (process reference referenceState).Execution (World.initial ∅) trace
        ⟨u, [], drawn⟩ ∧
      u.tokens.lookup token = some ⟨scope, (referenceClient scope).wallet.jkt, none⟩ ∧
      u.dpopJtis = ["token"] ∧ u.bindingJtis = [] ∧ ∀ cNonce, Draw.nonce cNonce ∉ drawn := by
  have apart : randomToken reference (List.replicate 32 2) ≠
      randomToken reference (List.replicate 32 1) := fun same =>
    absurd (reference_base64.injective same) (by decide)
  have good : Client.GoodJti "token" := ⟨by decide, by decide⟩
  have checked := (referenceClient scope).par_checked valid (some 1000) (.initial ∅)
  obtain ⟨trace, u, run, granted, dpopJtis, bindingJtis⟩ :=
    (referenceClient scope).obtainsAccess reference_encodings
      (.steady referenceHost 1000 "" [] []) (.steady referenceHost 1000 "request" [] [])
      (.steady referenceHost 1010 "" [] [])
      (.steady referenceHost 1010 "" (List.replicate 32 1) []) referenceHost 1020
      (List.replicate 32 2) checked List.not_mem_nil List.not_mem_nil 
      (by simpa [Environment.steady] using apart) good List.not_mem_nil
  exact ⟨_, trace, u, _, run, granted, dpopJtis, bindingJtis, by simp⟩

/-- A token for the learning credential leads to one, whenever a nonce and a proof are new. -/
theorem referenceClient_obtainsCredential {scope token jti : String} {s : VolatileState}
    {drawn : List Draw} {t word : UInt64}
    (found : s.tokens.lookup token = some ⟨scope, (referenceClient scope).wallet.jkt, none⟩)
    (inScope : qeaaSdJwt ∈ Text.splitAsciiWhitespace scope) (inTime : t.toNat < UInt64.size - 1)
    (good : Client.GoodJti jti) (fresh : jti ∉ s.dpopJtis) (nonzero : word ≠ 0)
    (goodNonce : Client.GoodJti (toString word.toNat))
    (nonceFresh : Draw.nonce (toString word.toNat) ∉ drawn) :
    ∃ first event u headers request response,
      (process reference referenceState).Execution ⟨s, [], drawn⟩ [first, event]
        ⟨u, [], drawn ++ [.nonce (toString word.toNat)]⟩ ∧
      event.origin = .arrived (.credential headers request) ∧
      event.reply = .ok (.finished (.credential response)) ∧ bearer headers = some token ∧
      request.credentialConfigurationId = qeaaSdJwt ∧ u.tokens = s.tokens ∧
      u.dpopJtis = jti :: s.dpopJtis := by
  have free : ¬ (qeaaSdJwt = qeaaPidBoundSdJwt ∨ qeaaSdJwt = mandateSdJwt) := by decide
  have admitted : Admitted qeaaSdJwt none none t :=
    ⟨by decide, fun needed => absurd needed free, fun nfc => absurd nfc (by decide), inTime⟩
  have sdJwt : qeaaSdJwt ∈ [pidSdJwt, pidFromEmrtdSdJwt, qeaaSdJwt, qeaaPidBoundSdJwt,
      tlsnEvidenceSdJwt] := by decide
  have claimed : sdJwtClaims qeaaSdJwt none none = some _ := rfl
  obtain ⟨credential, issued⟩ := (reference_signs Reference.onCurve₁).issueSdJwt reference
    referenceState.issuer (referenceClient scope).wallet.jwk.toValue t claimed
  have encoded : encodeCredential reference referenceState referenceHost
      ⟨qeaaSdJwt, ⟨(referenceClient scope).wallet.jkt, (referenceClient scope).wallet.jwk.toValue,
        toString word.toNat⟩, t, none, none, none⟩ = .ok ⟨credential, none⟩ :=
    encodeCredential_of_sdJwt sdJwt rfl issued
  obtain ⟨first, event, u, run, origin, reply, tokens, dpopJtis⟩ :=
    (referenceClient scope).obtainsCredential reference_encodings referenceHost t word nonzero
      nonceFresh good fresh goodNonce found rfl inScope (fun tlsn => absurd tlsn (by decide))
      (by decide) (.free free rfl) (by rintro _ ⟨⟩) admitted encoded
  exact ⟨first, event, u, _, _, _, run, origin, reply, Client.bearer_credentialHeaders _ _ _ _, rfl,
    tokens, dpopJtis⟩

theorem reference_issuance :
    ∃ earlier event w headers request response,
      (process reference referenceState).Execution (World.initial ∅) (earlier ++ [event]) w ∧
      event.origin = .arrived (.credential headers request) ∧
      event.reply = .ok (.finished (.credential response)) := by
  have valid : validScope qeaaSdJwt false = true := by decide +kernel
  have inScope : qeaaSdJwt ∈ Text.splitAsciiWhitespace qeaaSdJwt := by decide +kernel
  obtain ⟨token, trace, s, drawn, run, found, dpopJtis, _, nonces⟩ :=
    referenceClient_obtainsToken valid
  have good : Client.GoodJti "credential" := ⟨by decide, by decide⟩
  have goodNonce : Client.GoodJti (toString (1 : UInt64).toNat) := ⟨by decide, by decide⟩
  obtain ⟨first, event, u, headers, request, response, issued, origin, reply, _⟩ :=
    referenceClient_obtainsCredential (t := 1030) found inScope (by decide) good
      (by rw [dpopJtis]; decide) (by decide) goodNonce (nonces _)
  have whole := run.trans issued
  rw [← List.singleton_append, ← List.append_assoc] at whole
  exact ⟨trace ++ [first], event, _, headers, request, response, whole, origin, reply⟩

end VCIssuer.Service
