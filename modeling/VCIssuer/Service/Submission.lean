import VCIssuer.Service.Steps

/-!
# What a submission has shown

The three sections of an evidence submission.  The commit answers exactly when
the provider, the trusted reader, the kernel and both signers agree, and it
touches the session in two cases only: when it answers and when the kernel
denies.
-/

namespace VCIssuer.Service

open VCIssuer.Library
open VCIssuer.Library.Critical

variable {crates : Crates} {state : AppState} {s t : VolatileState} {log : List Mark}
  {id : String} {host : Host}

/-! ## The snapshot -/

structure SnapshotGrant (crates : Crates) (s : VolatileState) (id : String) (body : Bytes)
    (clock : ClockReading) where
  request : CaptureEvidenceRequest
  now : UInt64
  session : CaptureSession
  read : crates.captureEvidenceFromSlice body = some request
  clocked : clock = some now
  found : s.captureSessions.lookup id = some session
  unexpired : now ≤ session.expiresAt
  awaiting : session.status = .awaitingEvidence

def SnapshotGrant.snapshot {body : Bytes} {clock : ClockReading}
    (grant : SnapshotGrant crates s id body clock) : CaptureSnapshot where
  request := grant.request
  now := grant.now
  holderJkt := grant.session.holderJkt
  holderJwk := grant.session.holderJwk
  nonce := grant.session.nonce
  iproovUserId := grant.session.iproovUserId
  iproovToken := grant.session.iproovToken

variable {snapshot : CaptureSnapshot}

theorem captureSnapshot_returns (body : Bytes) (clock : ClockReading) :
    Returns (captureSnapshot crates id body clock) s snapshot t log ↔
      ∃ grant : SnapshotGrant crates s id body clock,
        snapshot = grant.snapshot ∧ t = s ∧ log = [] := by
  simp only [captureSnapshot, returns_okOr_bind, returns_ofExcept_bind, unixTime_eq_ok,
    returns_read_bind, returns_rejectIf_bind, returns_pure, UInt64.not_lt, not_not]
  constructor
  · rintro ⟨request, read, now, clocked, session, found, unexpired, awaiting, rfl, rfl, rfl⟩
    exact ⟨{ request, now, session, read, clocked, found, unexpired, awaiting }, rfl, rfl, rfl⟩
  · rintro ⟨grant, rfl, rfl, rfl⟩
    exact ⟨grant.request, grant.read, grant.now, grant.clocked, grant.session, grant.found,
      grant.unexpired, grant.awaiting, rfl, rfl, rfl⟩

/-! ## The kernel's part -/

/-- What the kernel asks of chip evidence, the same for both formats. -/
structure CaptureAdmitted (verified : VerifiedChipLiveness) (now : UInt64) : Prop where
  verdicts : ChipVerdicts verified
  inTime : now.toNat < UInt64.size - 1

theorem captureAdmitted_iff {profileName : String} (nfc : isNfcPid profileName = true)
    (verified : VerifiedChipLiveness) (now : UInt64) :
    Admitted profileName none (some verified) now ↔ CaptureAdmitted verified now := by
  constructor
  · intro admitted
    obtain ⟨_, ⟨⟩, verdicts⟩ := admitted.chipBound nfc
    exact ⟨verdicts, admitted.inTime⟩
  · intro admitted
    have isNfc : profileName = pidFromEmrtdSdJwt ∨ profileName = pidFromEmrtdMdoc := by
      simpa [isNfcPid] using nfc
    refine ⟨?_, ?_, fun _ => ⟨verified, rfl, admitted.verdicts⟩, admitted.inTime⟩
    · rcases isNfc with rfl | rfl <;> rfl
    · rcases isNfc with rfl | rfl <;> decide

/-- The sessions after a denial. -/
def failSession (sessions : StringMap CaptureSession) (id : String) : StringMap CaptureSession :=
  match sessions.lookup id with
  | some session => sessions.insert id { session with status := .failed }
  | none => sessions

theorem captureGate_returns {profileName : String} (nfc : isNfcPid profileName = true)
    (verified : VerifiedChipLiveness) (call : Nat) (value : Unit) :
    Returns (captureGate crates id profileName snapshot verified host call) s value t log ↔
      CaptureAdmitted verified snapshot.now ∧ t = s ∧ log = [] := by
  have decided := authorizeKernel_eq_ok crates profileName snapshot.holderJkt snapshot.nonce none
    (some verified) snapshot.now (host.salt .requestId call) (host.salt .sessionId call)
  simp only [captureAdmitted_iff nfc] at decided
  unfold captureGate
  split
  case h_1 grant accepted =>
    rw [returns_pure]
    exact and_congr_left fun _ => iff_of_true rfl ((decided grant).mp accepted).1
  case h_2 failure denied =>
    rw [returns_bind]
    constructor
    · rintro ⟨_, _, _, _, _, impossible, _⟩
      exact absurd impossible (returns_reject _ _ _ _ _)
    · rintro ⟨admitted, _⟩
      cases denied.symm.trans ((decided _).mpr ⟨admitted, rfl⟩)

theorem captureGate_rejects {profileName : String} (nfc : isNfcPid profileName = true)
    (verified : VerifiedChipLiveness) (call : Nat) :
    Rejects (captureGate crates id profileName snapshot verified host call) s t log ↔
      ¬ CaptureAdmitted verified snapshot.now ∧
        t = { s with captureSessions := failSession s.captureSessions id } ∧ log = [] := by
  have decided := authorizeKernel_eq_ok crates profileName snapshot.holderJkt snapshot.nonce none
    (some verified) snapshot.now (host.salt .requestId call) (host.salt .sessionId call)
  simp only [captureAdmitted_iff nfc] at decided
  unfold captureGate
  split
  case h_1 grant accepted =>
    exact iff_of_false (rejects_pure _ _ _ _) fun held => held.1 ((decided grant).mp accepted).1
  case h_2 failure denied =>
    have refused : ¬ CaptureAdmitted verified snapshot.now := by
      intro admitted
      cases denied.symm.trans ((decided _).mpr ⟨admitted, rfl⟩)
    rw [rejects_modify_bind, rejects_reject]
    simp only [refused, not_false_eq_true, true_and, failSession]
    cases s.captureSessions.lookup id <;> exact Iff.rfl

/-! ## The commit -/

/-- What the provider and the trusted reader say about a submission. -/
structure CaptureVerdict (crates : Crates) (state : AppState) (host : Host)
    (snapshot : CaptureSnapshot) where
  livenessOk : Bool
  readerKey : Bytes
  attestation : EmrtdAttestation crates ⟨snapshot.request.attestation⟩ readerKey state.issuer
    snapshot.nonce snapshot.holderJkt snapshot.now
  answered : captureLiveness crates state host snapshot = .ok livenessOk
  readerKeyFound : state.trustedEmrtdReaderKey = some readerKey

/-- The attested evidence, with its portrait verdict conjoined with the provider's. -/
def CaptureVerdict.verified (verdict : CaptureVerdict crates state host snapshot) :
    VerifiedChipLiveness :=
  { verdict.attestation.claims.verified crates snapshot.now with
    livenessMatched := portraitMatchedLiveness verdict.livenessOk
      (verdict.attestation.claims.verified crates snapshot.now).livenessMatched }

theorem captureEvidence_eq_ok (livenessOk : Bool) (verified : VerifiedChipLiveness) :
    captureLiveness crates state host snapshot = .ok livenessOk ∧
      captureEvidence crates state snapshot livenessOk = .ok verified ↔
    ∃ verdict : CaptureVerdict crates state host snapshot,
      livenessOk = verdict.livenessOk ∧ verified = verdict.verified := by
  simp only [captureEvidence, Checks.okOr_bind_eq_ok, Checks.bind_eq_ok (verifyEmrtdEvidence ..),
    verifyEmrtdEvidence_eq_ok, Checks.pure_eq_ok]
  constructor
  · rintro ⟨answered, readerKey, readerKeyFound, _, ⟨attestation, rfl⟩, rfl⟩
    exact ⟨{ livenessOk, readerKey, attestation, answered, readerKeyFound }, rfl, rfl⟩
  · rintro ⟨verdict, rfl, rfl⟩
    exact ⟨verdict.answered, verdict.readerKey, verdict.readerKeyFound, _,
      ⟨verdict.attestation, rfl⟩, rfl⟩

/-- A submission for which both credentials are minted. -/
structure CaptureGrant (crates : Crates) (state : AppState) (s : VolatileState) (id : String)
    (snapshot : CaptureSnapshot) (host : Host) extends
    CaptureVerdict crates state host snapshot where
  signer : KeychainSigner
  mdocSigner : KeychainSigner
  credential : String
  credentialMdoc : String
  session : CaptureSession
  fresh : toCaptureVerdict.verified.jti ∉ s.bindingJtis
  admitted : CaptureAdmitted toCaptureVerdict.verified snapshot.now
  signerFound : state.credentialSigners.lookup pidFromEmrtdSdJwt = some signer
  issued : issueSdJwt crates host signer state.issuer pidFromEmrtdSdJwt snapshot.holderJwk
    snapshot.now none (some toCaptureVerdict.verified.claims) = .ok credential
  mdocSignerFound : state.credentialSigners.lookup pidFromEmrtdMdoc = some mdocSigner
  issuedMdoc : issueMdoc crates host mdocSigner pidFromEmrtdMdoc snapshot.holderJwk snapshot.now
    (some toCaptureVerdict.verified.claims) state.hybridCredentialSigner = .ok credentialMdoc
  found : s.captureSessions.lookup id = some session

def CaptureGrant.after (grant : CaptureGrant crates state s id snapshot host) : VolatileState :=
  { s with
    bindingJtis := grant.verified.jti :: s.bindingJtis
    captureSessions :=
      s.captureSessions.insert id (grant.session.resolved grant.credential grant.credentialMdoc) }

theorem captureCommit_returns (value : Value) :
    Returns (captureCommit crates state id snapshot host) s value t log ↔
      ∃ grant : CaptureGrant crates state s id snapshot host,
        value = issuedResponse crates state grant.credential grant.credentialMdoc ∧
        t = grant.after ∧ log = [.bindingJti grant.verified.jti] := by
  simp only [captureCommit, returns_ofExcept_bind, returns_bind (acceptBindingJti _ _),
    acceptBindingJti_returns, returns_bind (captureGate _ _ _ _ _ _ _),
    captureGate_returns (show isNfcPid pidFromEmrtdSdJwt = true from rfl),
    captureGate_returns (show isNfcPid pidFromEmrtdMdoc = true from rfl), returns_okOr_bind,
    returns_read_bind, returns_modify_bind, returns_pure]
  constructor
  · rintro ⟨livenessOk, answered, verified, evidence, _, _, _, _, ⟨fresh, rfl, rfl⟩,
      ⟨_, _, _, _, ⟨admitted, rfl, rfl⟩, ⟨signer, signerFound, credential, issued, _, _, _, _,
        ⟨_, rfl, rfl⟩, ⟨mdocSigner, mdocSignerFound, credentialMdoc, issuedMdoc, session, found,
          rfl, rfl, rfl⟩, rfl⟩, rfl⟩, rfl⟩
    obtain ⟨verdict, rfl, rfl⟩ := (captureEvidence_eq_ok _ _).mp ⟨answered, evidence⟩
    exact ⟨{
      verdict with
      signer, mdocSigner, credential, credentialMdoc, session, fresh, admitted, signerFound,
      issued, mdocSignerFound, issuedMdoc, found }, rfl, rfl, rfl⟩
  · rintro ⟨grant, rfl, rfl, rfl⟩
    obtain ⟨answered, evidence⟩ := (captureEvidence_eq_ok _ _).mpr
      ⟨grant.toCaptureVerdict, rfl, rfl⟩
    exact ⟨_, answered, _, evidence, (), _, _, [], ⟨grant.fresh, rfl, rfl⟩,
      ⟨(), _, _, [], ⟨grant.admitted, rfl, rfl⟩, ⟨grant.signer, grant.signerFound,
        grant.credential, grant.issued, (), _, _, [], ⟨grant.admitted, rfl, rfl⟩,
        ⟨grant.mdocSigner, grant.mdocSignerFound, grant.credentialMdoc, grant.issuedMdoc,
          grant.session, grant.found, rfl, rfl, rfl⟩, rfl⟩, rfl⟩, rfl⟩

/-- A submission that the kernel denies. -/
def CaptureDenied (crates : Crates) (state : AppState) (s : VolatileState)
    (snapshot : CaptureSnapshot) (host : Host) : Prop :=
  ∃ verdict : CaptureVerdict crates state host snapshot,
    verdict.verified.jti ∉ s.bindingJtis ∧ ¬ CaptureAdmitted verdict.verified snapshot.now

/-- A rejected commit fails the session if the kernel denied it, and leaves it alone otherwise. -/
theorem captureCommit_rejects
    (rejected : Rejects (captureCommit crates state id snapshot host) s t log) :
    t.captureSessions = s.captureSessions ∨
      CaptureDenied crates state s snapshot host ∧
        t.captureSessions = failSession s.captureSessions id := by
  simp only [captureCommit, rejects_ofExcept_bind, rejects_bind (acceptBindingJti _ _),
    acceptBindingJti_rejects, acceptBindingJti_returns, rejects_bind (captureGate _ _ _ _ _ _ _),
    captureGate_returns (show isNfcPid pidFromEmrtdSdJwt = true from rfl),
    captureGate_returns (show isNfcPid pidFromEmrtdMdoc = true from rfl),
    captureGate_rejects (show isNfcPid pidFromEmrtdSdJwt = true from rfl),
    captureGate_rejects (show isNfcPid pidFromEmrtdMdoc = true from rfl), rejects_okOr_bind,
    rejects_read_bind, rejects_modify_bind, rejects_pure] at rejected
  obtain ⟨_, rfl, _⟩ | ⟨livenessOk, answered, ⟨_, rfl, _⟩ | ⟨verified, evidence, ⟨_, rfl, _⟩ |
    ⟨_, _, _, _, ⟨fresh, rfl, _⟩, ⟨refused, rfl, _⟩ | ⟨_, _, _, _, ⟨admitted, rfl, _⟩, minting, _⟩,
      _⟩⟩⟩ := rejected
  case inr.inr.inr.inl =>
    obtain ⟨verdict, rfl, rfl⟩ := (captureEvidence_eq_ok _ _).mp ⟨answered, evidence⟩
    exact .inr ⟨⟨verdict, fresh, refused⟩, rfl⟩
  case inr.inr.inr.inr =>
    -- The kernel has admitted the evidence once, so its second answer is no denial.
    obtain ⟨_, rfl, _⟩ | ⟨_, _, ⟨_, rfl, _⟩ | ⟨_, _, ⟨refused, _⟩ | ⟨_, _, _, _, ⟨_, rfl, _⟩,
      ⟨_, rfl, _⟩ | ⟨_, _, ⟨_, rfl, _⟩ | ⟨_, _, ⟨_, rfl, _⟩ | ⟨_, _, impossible⟩⟩⟩, _⟩⟩⟩ := minting
    case inr.inr.inl => exact absurd admitted refused
    case inr.inr.inr.inr.inr.inr => exact impossible.elim
    all_goals exact .inl rfl
  all_goals exact .inl rfl

/-- A denial consumes the attestation and fails the session. -/
theorem captureCommit_refuses (verdict : CaptureVerdict crates state host snapshot)
    (fresh : verdict.verified.jti ∉ s.bindingJtis)
    (refused : ¬ CaptureAdmitted verdict.verified snapshot.now) :
    Rejects (captureCommit crates state id snapshot host) s
      { s with
        bindingJtis := verdict.verified.jti :: s.bindingJtis
        captureSessions := failSession s.captureSessions id }
      [.bindingJti verdict.verified.jti] := by
  obtain ⟨answered, evidence⟩ := (captureEvidence_eq_ok _ _).mpr ⟨verdict, rfl, rfl⟩
  unfold captureCommit
  refine (rejects_ofExcept_bind _ _ _ _ _).mpr (.inr ⟨_, answered, ?_⟩)
  refine (rejects_ofExcept_bind _ _ _ _ _).mpr (.inr ⟨_, evidence, ?_⟩)
  refine (rejects_bind _ _ _ _ _).mpr (.inr ⟨(), _, _, [],
    (acceptBindingJti_returns _ _ _).mpr ⟨fresh, rfl, rfl⟩, ?_, rfl⟩)
  exact (rejects_bind _ _ _ _ _).mpr (.inl ((captureGate_rejects rfl _ _).mpr
    ⟨refused, rfl, rfl⟩))

/-- A denied commit fails the session. -/
theorem captureCommit_denied (denied : CaptureDenied crates state s snapshot host) :
    ∃ t log, Rejects (captureCommit crates state id snapshot host) s t log ∧
      t.captureSessions = failSession s.captureSessions id := by
  obtain ⟨verdict, fresh, refused⟩ := denied
  exact ⟨_, _, captureCommit_refuses verdict fresh refused, rfl⟩

/-! ## Opening a session -/

/-- A session as it is opened under an id: for the holder's key, with a fresh nonce, and with the
token that the provider minted for the user of this very session. -/
structure SessionOpened (crates : Crates) (state : AppState) (request : CreateCaptureSessionRequest)
    (env : Environment) (session : CaptureSession) : Prop where
  holder : ∃ ecJwk key, EcJwk.ofValue request.holderJwk = some ecJwk ∧ ecJwk.Denotes crates key ∧
    session.holderJkt = ecJwk.thumbprint crates ∧ session.holderJwk = ecJwk.toValue
  nonce : session.nonce = randomToken crates env.octets
  userId : session.iproovUserId = iproovUserId env.uuid
  token : ∃ streamingUrl assuranceType,
    mintIproovToken crates state env.host env.uuid =
      .ok (session.iproovToken, streamingUrl, assuranceType)
  awaiting : session.status = .awaitingEvidence
  noCredential : session.credential = none
  noCredentialMdoc : session.credentialMdoc = none

theorem createPidCaptureSession_returns {request : CreateCaptureSessionRequest}
    {env : Environment} {response : CreateCaptureSessionResponse}
    (returned : Returns (createPidCaptureSession crates state request env.clock env.uuid env.octets
      env.host) s response t log) :
    ∃ session, SessionOpened crates state request env session ∧
      t = { s with captureSessions := s.captureSessions.insert env.uuid session } := by
  simp only [createPidCaptureSession, returns_okOr_bind, returns_ofExcept_bind, Prod.exists,
    verifyingKeyAndJwk_eq_ok, returns_modify_bind, returns_pure] at returned
  obtain ⟨ecJwk, read, key, _, _, ⟨denotes, rfl, rfl⟩, _, _, _, _, _, minted, _, rfl, _⟩ := returned
  exact ⟨_, ⟨⟨ecJwk, key, read, denotes, rfl, rfl⟩, rfl, rfl, ⟨_, _, minted⟩, rfl, rfl, rfl⟩, rfl⟩

theorem createPidCaptureSession_rejects {request : CreateCaptureSessionRequest}
    {env : Environment}
    (rejected : Rejects (createPidCaptureSession crates state request env.clock env.uuid env.octets
      env.host) s t log) : t = s := by
  simp only [createPidCaptureSession, rejects_okOr_bind, rejects_ofExcept_bind,
    rejects_modify_bind, rejects_pure] at rejected
  obtain ⟨_, same, _⟩ | ⟨_, _, ⟨_, same, _⟩ | ⟨_, _, ⟨_, same, _⟩ | ⟨_, _, ⟨_, same, _⟩ |
    ⟨_, _, impossible⟩⟩⟩⟩ := rejected
  case inr.inr.inr.inr => exact impossible.elim
  all_goals exact same

/-! ## Steps of the sessions -/

/-- The four things a step can do to the capture sessions. -/
inductive SessionStep (crates : Crates) (state : AppState) (w : World) (event : Event)
    (w' : World) : Prop
  | kept (same : w'.inner.captureSessions = w.inner.captureSessions)
      (notMinted : ∀ id headers body snapshot value,
        event.origin = .resumed (.captureCommit id headers body snapshot) →
        event.reply ≠ .ok (.finished (.json value)))
  | opened (request : CreateCaptureSessionRequest) (session : CaptureSession)
      (origin : event.origin = .arrived (.createPidCaptureSession request))
      (asOpened : SessionOpened crates state request event.env session)
      (sessions : w'.inner.captureSessions =
        w.inner.captureSessions.insert event.env.uuid session)
  | denied {id : String} {headers : HeaderMap} {body : Bytes} {snapshot : CaptureSnapshot}
      (origin : event.origin = .resumed (.captureCommit id headers body snapshot))
      (notAnswered : ∀ progress, event.reply ≠ .ok progress)
      (refused : CaptureDenied crates state w.inner snapshot event.env.host)
      (sessions : w'.inner.captureSessions = failSession w.inner.captureSessions id)
  | minted {id : String} {headers : HeaderMap} {body : Bytes} {snapshot : CaptureSnapshot}
      (origin : event.origin = .resumed (.captureCommit id headers body snapshot))
      (grant : CaptureGrant crates state w.inner id snapshot event.env.host)
      (reply : event.reply = .ok (.finished (.json
        (issuedResponse crates state grant.credential grant.credentialMdoc))))
      (inner : w'.inner = grant.after)

theorem Took.sessionStep {w w' : World} {event : Event} (took : Took crates state w event w') :
    SessionStep crates state w event w' := by
  by_cases isCommit : ∃ id headers body snapshot,
      event.origin = .resumed (.captureCommit id headers body snapshot)
  · obtain ⟨id, headers, body, snapshot, origin⟩ := isCommit
    cases reply : event.reply with
    | ok progress =>
        have returned := took.returned reply
        rw [origin] at returned
        obtain ⟨_, answered, rfl⟩ := (returns_bind_pure _ _ _ _ _ _).mp returned
        obtain ⟨grant, rfl, inner, _⟩ := (captureCommit_returns _).mp answered
        exact .minted origin grant reply inner
    | error failure =>
        have rejected := took.rejected reply
        rw [origin] at rejected
        rcases captureCommit_rejects ((rejects_bind_pure _ _ _ _ _).mp rejected) with
          same | ⟨refused, sessions⟩
        · exact .kept same (by rw [reply]; rintro _ _ _ _ _ _ ⟨⟩)
        · exact .denied origin (by rw [reply]; rintro _ ⟨⟩) refused sessions
  by_cases isOpen : ∃ request, event.origin = .arrived (.createPidCaptureSession request)
  · obtain ⟨request, origin⟩ := isOpen
    cases reply : event.reply with
    | ok progress =>
        have returned := took.returned reply
        rw [origin] at returned
        obtain ⟨_, answered, _⟩ := (returns_bind_pure _ _ _ _ _ _).mp returned
        obtain ⟨session, asOpened, inner⟩ := createPidCaptureSession_returns answered
        exact .opened request session origin asOpened (by rw [inner])
    | error failure =>
        have rejected := took.rejected reply
        rw [origin] at rejected
        have same := createPidCaptureSession_rejects ((rejects_bind_pure _ _ _ _ _).mp rejected)
        exact .kept (by rw [same]) (by rw [origin]; rintro _ _ _ _ _ ⟨⟩)
  simp only [not_exists] at isCommit isOpen
  exact .kept (took.writes.sessions_eq isOpen isCommit) fun id headers body snapshot _ origin =>
    absurd origin (isCommit id headers body snapshot)

end VCIssuer.Service
