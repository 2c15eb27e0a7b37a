import VCIssuer.Service.MdocConsistency
import VCIssuer.Service.Submission

/-!
# Travellers of the reference deployment

The trusted reader attests a travel document for a holder's session and key.
The attestation is accepted, and both credential formats can be minted from it.
A provider that confirms every capture completes the deployment.
-/

namespace VCIssuer.Service

open VCIssuer.Library
open VCIssuer.Library.Critical

/-! ## Attestations of the reader -/

/-- What the reader found in the document of a traveller. -/
def travelClaims (nonce jkt jti : String) (portrait : Option String) : EmrtdEvidenceClaims where
  aud := "https://issuer.example/"
  iat := 1000
  exp := 2000
  nonce := nonce
  jti := jti
  newHolderJkt := jkt
  passiveAuthentication := true
  chipAuthentic := true
  liveness := ⟨"face_present:iproov:gpa", true⟩
  mrz := ⟨"Mustermann", "Erika", "1990-01-01", "D", "D", "L01X00T47", "2099-01-01"⟩
  portrait := portrait

def reader : Wallet reference := Reference.wallet Reference.onCurve₃

/-- What the reader signs is short enough to be looked at. -/
theorem reader_bounded {claims : EmrtdEvidenceClaims} (size : Json.size claims.toValue ≤ 40000) :
    Text.len (reader.attestation claims) ≤ maxEmrtdEvidenceBytes := by
  have length := Reference.len_walletProof_le Reference.onCurve₃ "emrtd-evidence+jwt" claims.toValue
  have typ : Text.len "emrtd-evidence+jwt" = 18 := by decide
  rw [typ] at length
  exact length.trans (by simp only [maxEmrtdEvidenceBytes]; omega)

theorem reader_issuedBefore : (1000 : UInt64) ≤ 1000 := UInt64.le_refl 1000

theorem reader_expiresAfter : (1000 : UInt64) < 2000 := by decide

theorem reader_assured :
    Text.contains "face_present:iproov:gpa" emrtdRequiredLiveness = true := by decide +kernel

theorem reader_unexpired : isExpiredDocument "2099-01-01" 1000 = false := by decide +kernel

/-- The texts that an attestation takes over are not too long. -/
structure TravelTexts (nonce jkt jti : String) (portrait : Option String) : Prop where
  nonce : Text.len nonce ≤ 1000
  jkt : Text.len jkt ≤ 1000
  jti : Text.len jti ≤ 1000
  portrait : ∀ text ∈ portrait, Text.len text ≤ 1000

section Attestations

variable {nonce jkt jti : String} {portrait : Option String}

theorem size_travelClaims_le (short : TravelTexts nonce jkt jti portrait) :
    Json.size (travelClaims nonce jkt jti portrait).toValue ≤ 40000 := by
  have names : Text.len "aud" = 3 ∧ Text.len "iat" = 3 ∧ Text.len "exp" = 3 ∧
      Text.len "nonce" = 5 ∧ Text.len "jti" = 3 ∧ Text.len "new_holder_jkt" = 14 ∧
      Text.len "passive_authentication" = 22 ∧ Text.len "chip_authentic" = 14 ∧
      Text.len "liveness" = 8 ∧ Text.len "mrz" = 3 ∧ Text.len "portrait" = 8 ∧
      Text.len "https://issuer.example/" = 23 := by decide
  have liveness : Json.size (EmrtdLivenessClaim.toValue ⟨"face_present:iproov:gpa", true⟩) ≤ 500 :=
    by decide
  have mrz : Json.size (EmrtdMrzClaim.toValue
      ⟨"Mustermann", "Erika", "1990-01-01", "D", "D", "L01X00T47", "2099-01-01"⟩) ≤ 2000 := by decide
  have moments : Json.size (.nat 1000) ≤ 100 ∧ Json.size (.nat 2000) ≤ 100 := by decide
  obtain ⟨nonceShort, jktShort, jtiShort, portraitShort⟩ := short
  cases portrait with
  | none =>
      simp only [EmrtdEvidenceClaims.toValue, EmrtdEvidenceClaims.members, travelClaims,
        Option.map_none, Option.toList_none, List.append_nil, Json.size, Json.sizeMembers, names]
      omega
  | some text =>
      have textShort := portraitShort text rfl
      simp only [EmrtdEvidenceClaims.toValue, EmrtdEvidenceClaims.members, travelClaims,
        Option.map_some, Option.toList_some, List.cons_append, List.nil_append, Json.size,
        Json.sizeMembers, names]
      omega

/-- The attestation is accepted in the session and for the key that it names. -/
def travelAttestation (short : TravelTexts nonce jkt jti portrait) :
    EmrtdAttestation reference ⟨reader.attestation (travelClaims nonce jkt jti portrait)⟩
      (Reference.signerAt Reference.x₃ Reference.y₃).publicKeyBytes referenceState.issuer nonce jkt
      1000 where
  readerKey := reader.key
  payload := (travelClaims nonce jkt jti portrait).toValue.canonical
  claims := travelClaims nonce jkt jti portrait
  bounded := reader_bounded (size_travelClaims_le short)
  readerKeyRead := Reference.keyFromSec1_signerAt Reference.onCurve₃
  signed := reader.attestation_signed reference_encodings _
  claimsRead := EmrtdEvidenceClaims.toValue_read _
  aud := rfl
  issuedBefore := reader_issuedBefore
  expiresAfter := reader_expiresAfter
  nonceNamed := rfl
  newHolderNamed := rfl
  assurance := reader_assured
  unexpired := reader_unexpired
  identity := show ∀ value ∈ ["Mustermann", "Erika", "1990-01-01", "D", "D", "L01X00T47"],
      Text.trim value ≠ "" ∧ Text.len value ≤ 512 by decide +kernel
  portraitBounded text given := (short.portrait text given).trans (by decide)

end Attestations

/-! ## Credentials from an attestation -/

def travelPid (portrait : Option String) : PidSubjectClaims :=
  ((travelClaims "" "" "" portrait).verified reference 1000).claims

theorem travelPid_issueMdoc {host : Host} (answers : HostAnswers host) {signer : KeychainSigner}
    (signs : SignsRaw host signer) (wallet : Wallet reference) {portrait : Option String}
    (small : (decodePortraitBytes reference (normalizePortrait portrait)).length ≤ 1000) :
    ∃ credential, issueMdoc reference host signer pidFromEmrtdMdoc wallet.jwk.toValue 1000
      (some (travelPid portrait)) none = .ok credential := by
  obtain ⟨x, y, coordinates⟩ := wallet.denotes.coordinates
  refine issueMdoc_succeeds reference_writes Reference.digestLaws answers signs rfl ?_ coordinates
    (by decide)
  have name : Text.len "portrait" = 8 := by decide
  intro claim found
  simp only [List.mem_cons, List.not_mem_nil, or_false] at found
  rcases found with rfl | rfl | rfl | rfl | rfl | rfl | rfl
  case inr.inr.inr.inr.inr.inr =>
    change Text.len "portrait" +
      (9 + (decodePortraitBytes reference (normalizePortrait portrait)).length) ≤ 2 ^ 40
    rw [name]
    omega
  case inr.inr.inr.inl =>
    exact show Text.len "age_over_18" + 9 ≤ 2 ^ 40 by decide
  case inl =>
    exact show Text.len "family_name" + Cbor.size (.text "Mustermann") ≤ 2 ^ 40 by decide
  case inr.inl =>
    exact show Text.len "given_name" + Cbor.size (.text "Erika") ≤ 2 ^ 40 by decide
  case inr.inr.inl =>
    exact show Text.len "birth_date" + Cbor.size (.text "1990-01-01") ≤ 2 ^ 40 by decide
  case inr.inr.inr.inr.inl =>
    exact show Text.len "nationality" + Cbor.size (.text "D") ≤ 2 ^ 40 by decide
  case inr.inr.inr.inr.inr.inl =>
    exact show Text.len "issuing_country" + Cbor.size (.text "D") ≤ 2 ^ 40 by decide

/-! ## A provider that confirms every capture -/

def captureProvider : IProovConfig where
  apiKey := "key"
  secret := "secret"
  baseUrl := "https://provider.example/api/v2"
  assuranceType := "genuine_presence_assurance"
  webBaseUrl := none

def capturingState : AppState :=
  { referenceState with iproov := some captureProvider }

def mintedToken : Value := .object [("token", .string "verify")]

def passedVerdict : Value :=
  .object [("passed", .bool true), ("assurance_type", .string "genuine_presence_assurance")]

def capturingHost : Host :=
  { referenceHost with
    post := fun request =>
      some (reference.valueToString
        (if request.url = captureProvider.tokenEndpoint then mintedToken else passedVerdict)) }

theorem createToken_capturing (userId resource : String) :
    createToken reference capturingHost captureProvider userId resource = some "verify" := by
  have plain : PlainJson jsonDepth mintedToken := by
    refine .object (by simp) fun member found => ?_
    rw [List.mem_singleton.mp found]
    exact .string
  have read : reference.tokenResponseFromStr (reference.valueToString mintedToken) =
      some ⟨"verify"⟩ := (reference_serdeStruct.tokenResponse _ plain).trans rfl
  have answered (body : Value) : capturingHost.post ⟨captureProvider.tokenEndpoint, body⟩ =
      some (reference.valueToString mintedToken) := by
    simp only [capturingHost, ↓reduceIte]
  exact bind_of_eq_some _ (answered _) (bind_of_eq_some _ read (if_neg (by decide)))

theorem validate_capturing (token userId clientIp : String) :
    validate reference capturingHost captureProvider token userId clientIp = some true := by
  have plain : PlainJson jsonDepth passedVerdict := by
    refine .object (by simp) fun member found => ?_
    simp only [List.mem_cons, List.not_mem_nil, or_false] at found
    rcases found with rfl | rfl
    · exact .bool
    · exact .string
  have read : reference.validateResponseFromStr (reference.valueToString passedVerdict) =
      some ⟨true, some "genuine_presence_assurance"⟩ :=
    (reference_serdeStruct.validateResponse _ plain).trans rfl
  have other : captureProvider.validateEndpoint ≠ captureProvider.tokenEndpoint := by decide
  refine (validate_eq_some_true _ _ _ _ _ _).mpr ⟨_, _, ?_, read, rfl, rfl⟩
  simp only [capturingHost, if_neg other]

theorem capturing_answers : HostAnswers capturingHost :=
  ⟨reference_answers.certificate, reference_answers.salts⟩

theorem capturing_signsRaw :
    SignsRaw capturingHost (Reference.signerAt Reference.x₁ Reference.y₁) :=
  reference_signsRaw Reference.onCurve₁

theorem capturing_signs : Signs capturingHost (Reference.signerAt Reference.x₁ Reference.y₁) :=
  reference_signs Reference.onCurve₁

/-! ## Captures -/

def captureNonce : String := randomToken reference []

/-- The session that the reference holder opens. -/
def travelSession : CaptureSession where
  holderJkt := reader.jkt
  holderJwk := reader.jwk.toValue
  nonce := captureNonce
  iproovUserId := iproovUserId "session"
  iproovToken := some "verify"
  status := .awaitingEvidence
  credential := none
  credentialMdoc := none
  expiresAt := saturatingAdd 1000 captureSessionTtlSeconds
  deviceToken := none

def travelEvidence (jti : String) : CaptureEvidenceRequest where
  attestation := reader.attestation (travelClaims captureNonce reader.jkt jti none)
  clientIp := none

def travelBody (jti : String) : Bytes :=
  reference.valueToVec (.object [("attestation", .string (travelEvidence jti).attestation)])

def travelSnapshot (jti : String) : CaptureSnapshot where
  request := travelEvidence jti
  now := 1000
  holderJkt := travelSession.holderJkt
  holderJwk := travelSession.holderJwk
  nonce := travelSession.nonce
  iproovUserId := travelSession.iproovUserId
  iproovToken := travelSession.iproovToken

theorem travelBody_read (jti : String) :
    reference.captureEvidenceFromSlice (travelBody jti) = some (travelEvidence jti) := by
  have plain : PlainJson jsonDepth
      (.object [("attestation", .string (travelEvidence jti).attestation)]) := by
    refine .object (by simp) fun member found => ?_
    rw [List.mem_singleton.mp found]
    exact .string
  exact (reference_serdeStruct.captureEvidence _ plain).trans rfl

theorem travelTexts {jti : String} (short : Text.len jti ≤ 1000) :
    TravelTexts captureNonce reader.jkt jti none where
  nonce := by decide
  jkt := (Reference.len_digest_le _).trans (by decide)
  jti := short
  portrait _ given := by cases given

/-- A submission for the session is granted as long as its attestation has not been used. -/
theorem travel_grant {s : VolatileState} {session : CaptureSession} {jti : String}
    (short : Text.len jti ≤ 1000) (found : s.captureSessions.lookup "session" = some session)
    (fresh : jti ∉ s.bindingJtis) :
    ∃ grant : CaptureGrant reference capturingState s "session" (travelSnapshot jti) capturingHost,
      grant.verified.jti = jti := by
  obtain ⟨credential, issued⟩ := capturing_signs.issueSdJwt reference referenceState.issuer
    reader.jwk.toValue 1000
    (show sdJwtClaims pidFromEmrtdSdJwt none (some (travelPid none)) = some _ from rfl)
  obtain ⟨credentialMdoc, issuedMdoc⟩ := @travelPid_issueMdoc _ capturing_answers _
    capturing_signsRaw reader none (by decide)
  exact ⟨{
    livenessOk := true
    readerKey := (Reference.signerAt Reference.x₃ Reference.y₃).publicKeyBytes
    attestation := travelAttestation (travelTexts short)
    answered := (Checks.okOr_eq_ok _ _ _).mpr (validate_capturing _ _ _)
    readerKeyFound := rfl
    signer := Reference.signerAt Reference.x₁ Reference.y₁
    mdocSigner := Reference.signerAt Reference.x₁ Reference.y₁
    credential, credentialMdoc, session, fresh, issued, issuedMdoc, found
    admitted := ⟨⟨rfl, rfl, rfl⟩, show (1000 : UInt64).toNat < UInt64.size - 1 by decide⟩
    signerFound := rfl
    mdocSignerFound := rfl }, rfl⟩

def captureEnv : Environment := .steady capturingHost 1000 "session" [] []

def openRequest : CreateCaptureSessionRequest where
  holderJwk := reader.jwk.toValue.canonical
  deviceToken := none

/-- The state in which only the session is open. -/
def openedState : VolatileState :=
  { VolatileState.initial ∅ with captureSessions := AList.insert "session" travelSession ∅ }

theorem openedState_session : openedState.captureSessions.lookup "session" = some travelSession :=
  AList.lookup_insert _

/-- The holder opens the session. -/
theorem open_run :
    ∃ event, event.origin = .arrived (.createPidCaptureSession openRequest) ∧
      (process reference capturingState).Execution (World.initial ∅) [event]
        ⟨openedState, [], [.uuid "session", .token captureNonce]⟩ := by
  have read : EcJwk.ofValue openRequest.holderJwk = some reader.jwk :=
    EcJwk.ofValue_canonical reader.denotes.kty reader.denotes.crv
  have minted : mintIproovToken reference capturingState capturingHost "session" =
      .ok (some "verify", some captureProvider.streamingUrl, some captureProvider.assuranceType) :=
    (Checks.okOr_bind_eq_ok _ _ _ _).mpr ⟨_, createToken_capturing _ _, rfl⟩
  have answered : ∃ response, Returns
      (createPidCaptureSession reference capturingState openRequest (some 1000) "session" []
        capturingHost) (.initial ∅) response openedState [] := by
    simp only [createPidCaptureSession, returns_okOr_bind, returns_ofExcept_bind, Prod.exists,
      verifyingKeyAndJwk_eq_ok, returns_modify_bind, returns_pure]
    exact ⟨_, _, read, _, _, _, ⟨reader.denotes, rfl, rfl⟩, 1000, rfl, _, _, _, minted, rfl, rfl,
      trivial⟩
  obtain ⟨response, answered⟩ := answered
  have returned : Returns
      (Request.handler reference capturingState captureEnv (.createPidCaptureSession openRequest))
      (.initial ∅) (.finished (.captureSession response)) openedState [] :=
    (returns_bind_pure _ _ _ _ _ _).mpr ⟨_, answered, rfl⟩
  exact ⟨_, rfl, finished_run rfl (by simp) returned⟩

section Runs

variable {s : VolatileState} {tasks : List Task} {drawn : List Draw}

/-- Evidence arrives and waits for its snapshot. -/
theorem submit_run (jti : String) :
    (process reference capturingState).Execution ⟨s, tasks, drawn⟩
      [⟨.arrived (.submitPidCaptureEvidence "session" [] (travelBody jti)), captureEnv,
        .ok (.suspended (.captureSnapshot "session" [] (travelBody jti))), []⟩]
      ⟨s, tasks ++ [.captureSnapshot "session" [] (travelBody jti)], drawn⟩ := by
  have returned : Returns (Request.handler reference capturingState captureEnv
      (.submitPidCaptureEvidence "session" [] (travelBody jti))) s
      (.suspended (.captureSnapshot "session" [] (travelBody jti))) s [] :=
    (returns_bind_pure _ _ _ _ _ _).mpr ⟨(), rfl, rfl⟩
  have ran : (process reference capturingState).Execution ⟨s, tasks, drawn⟩ _ ⟨s, _, drawn ++ []⟩ :=
    arrive_run rfl (by simp) returned
  rwa [List.append_nil] at ran

/-- The first of the waiting requests takes its snapshot. -/
theorem snapshot_run (jti : String)
    (found : s.captureSessions.lookup "session" = some travelSession) :
    (process reference capturingState).Execution
      ⟨s, .captureSnapshot "session" [] (travelBody jti) :: tasks, drawn⟩
      [⟨.resumed (.captureSnapshot "session" [] (travelBody jti)), captureEnv,
        .ok (.suspended (.captureCommit "session" [] (travelBody jti) (travelSnapshot jti))), []⟩]
      ⟨s, tasks ++ [.captureCommit "session" [] (travelBody jti) (travelSnapshot jti)], drawn⟩ := by
  have unexpired : (1000 : UInt64) ≤ travelSession.expiresAt := le_saturatingAdd _ _
  have returned : Returns (Task.handler reference capturingState captureEnv
      (.captureSnapshot "session" [] (travelBody jti))) s
      (.suspended (.captureCommit "session" [] (travelBody jti) (travelSnapshot jti))) s [] := by
    refine (returns_bind_pure _ _ _ _ _ _).mpr ⟨_, (captureSnapshot_returns _ _).mpr ⟨{
      request := travelEvidence jti
      now := 1000
      session := travelSession
      read := travelBody_read jti
      clocked := rfl
      found, unexpired
      awaiting := rfl }, rfl, rfl, rfl⟩, rfl⟩
  have ran : (process reference capturingState).Execution ⟨s, _ :: tasks, drawn⟩ _
      ⟨s, _, drawn ++ []⟩ := resume_run 0 rfl rfl (by simp) returned
  rwa [List.append_nil] at ran

/-- The first of the waiting requests commits. -/
theorem commit_run {jti : String}
    (grant : CaptureGrant reference capturingState s "session" (travelSnapshot jti) capturingHost) :
    (process reference capturingState).Execution
      ⟨s, .captureCommit "session" [] (travelBody jti) (travelSnapshot jti) :: tasks, drawn⟩
      [⟨.resumed (.captureCommit "session" [] (travelBody jti) (travelSnapshot jti)), captureEnv,
        .ok (.finished (.json
          (issuedResponse reference capturingState grant.credential grant.credentialMdoc))),
        [.bindingJti grant.verified.jti]⟩]
      ⟨grant.after, tasks, drawn⟩ := by
  have returned : Returns (Task.handler reference capturingState captureEnv
      (.captureCommit "session" [] (travelBody jti) (travelSnapshot jti))) s _ _ _ :=
    (returns_bind_pure _ _ _ _ _ _).mpr
      ⟨_, (captureCommit_returns _).mpr ⟨grant, rfl, rfl, rfl⟩, rfl⟩
  have ran : (process reference capturingState).Execution ⟨s, _ :: tasks, drawn⟩ _
      ⟨grant.after, tasks ++ [], drawn ++ []⟩ := resume_run 0 rfl rfl (by simp) returned
  rwa [List.append_nil, List.append_nil] at ran

end Runs

/-- One submission for the session, up to its commit. -/
theorem capture_run {jti : String} (short : Text.len jti ≤ 1000) :
    ∃ earlier event w, (process reference capturingState).Execution (World.initial ∅) earlier
        ⟨openedState, [.captureCommit "session" [] (travelBody jti) (travelSnapshot jti)],
          [.uuid "session", .token captureNonce]⟩ ∧
      (∀ other ∈ earlier, ∀ id headers body snapshot,
        other.origin ≠ .resumed (.captureCommit id headers body snapshot)) ∧
      (process reference capturingState).Execution (World.initial ∅) (earlier ++ [event]) w ∧
      (∃ credential credentialMdoc, event.reply = .ok (.finished (.json
        (issuedResponse reference capturingState credential credentialMdoc)))) ∧
      event.origin = .resumed (.captureCommit "session" [] (travelBody jti) (travelSnapshot jti)) := by
  obtain ⟨opening, origin, opened⟩ := open_run
  obtain ⟨grant, _⟩ := travel_grant short openedState_session List.not_mem_nil
  have waiting := opened.trans ((submit_run jti).trans (snapshot_run jti openedState_session))
  refine ⟨_, _, _, waiting, ?_, waiting.trans (commit_run grant), ⟨_, _, rfl⟩, rfl⟩
  intro other member id headers body snapshot
  simp only [List.cons_append, List.nil_append, List.mem_cons, List.not_mem_nil, or_false] at member
  rcases member with rfl | rfl | rfl
  · rw [origin]
    rintro ⟨⟩
  · rintro ⟨⟩
  · rintro ⟨⟩

/-- Two submissions for the session, whose sections overlap. -/
theorem overlapping_run {jti other : String} (short : Text.len jti ≤ 1000)
    (shortToo : Text.len other ≤ 1000) (differ : other ≠ jti) :
    ∃ earlier event later again w,
      (process reference capturingState).Execution (World.initial ∅)
        (earlier ++ event :: later ++ [again]) w ∧
      event.origin = .resumed (.captureCommit "session" [] (travelBody jti) (travelSnapshot jti)) ∧
      again.origin =
        .resumed (.captureCommit "session" [] (travelBody other) (travelSnapshot other)) ∧
      (∃ value, event.reply = .ok (.finished (.json value))) ∧
      ∃ value, again.reply = .ok (.finished (.json value)) := by
  obtain ⟨opening, _, opened⟩ := open_run
  obtain ⟨grant, used⟩ := travel_grant short openedState_session List.not_mem_nil
  have resolved : grant.after.captureSessions.lookup "session" = some _ := AList.lookup_insert _
  have fresh : other ∉ grant.after.bindingJtis := by
    change other ∉ grant.verified.jti :: []
    rw [used]
    simpa using differ
  obtain ⟨second, _⟩ := travel_grant shortToo resolved fresh
  have submitted := opened.trans ((submit_run jti).trans (submit_run other))
  have waiting := (submitted.trans (snapshot_run jti openedState_session)).trans
    (snapshot_run other openedState_session)
  have whole := (waiting.trans (commit_run grant)).trans (commit_run second)
  exact ⟨_, _, [], _, _, whole, rfl, rfl, ⟨_, rfl⟩, _, rfl⟩

end VCIssuer.Service
