import VCIssuer.Service.CaptureOnce

/-!
# What stands behind a captured PID

A stored credential pair leads back through its history: the commit that stored
it, the snapshot the commit worked on, the submission that passed the App Attest
gate, and the request that opened the session for the holder's key.
-/

namespace VCIssuer.Service

open VCIssuer.Library
open VCIssuer.Library.Critical

/-! ## Waiting tasks and their history -/

section Tasks

variable {crates : Crates} {state : AppState} {w w' : World} {event : Event}

/-- Every task that waits was suspended by an event of the run. -/
theorem run_suspended {instances : StringMap RegisteredInstance} {trace : List Event}
    (run : (process crates state).Execution (World.initial instances) trace w) :
    ∀ task ∈ w.tasks, ∃ earlier s event,
      (process crates state).StepAt (World.initial instances) trace earlier s event ∧
        event.reply = .ok (.suspended task) := by
  refine run.history (P := fun trace w => ∀ task ∈ w.tasks, ∃ earlier s event,
    (process crates state).StepAt (World.initial instances) trace earlier s event ∧
      event.reply = .ok (.suspended task)) ?_ ?_
  · intro task member
    exact absurd member List.not_mem_nil
  · intro trace s action t event before held stepped task member
    rcases (step_took stepped).task_cases member with waits | suspended
    · obtain ⟨earlier, first, other, taken, reply⟩ := held task waits
      exact ⟨earlier, first, other, taken.append [event], reply⟩
    · exact ⟨trace, s, event, ⟨action, t, [], rfl, before, stepped⟩, suspended⟩

/-- An instance that is registered in the state asserted exactly these bytes. -/
def InstanceAsserted (crates : Crates) (s : VolatileState) (headers : HeaderMap) (body : Bytes) :
    Prop :=
  ∃ keyId encoded assertion inst, headerStr headers "x-app-attest-key-id" = some keyId ∧
    headerStr headers "x-app-attest-assertion" = some encoded ∧
    crates.standardDecode encoded = some assertion ∧
    s.appAttestInstances.lookup keyId = some inst ∧
    Nonempty (Assertion crates assertion body inst)

theorem enforceAppAttest_returns {headers : HeaderMap} {body : Bytes} {s t : VolatileState}
    {log : List Mark} (returned : Returns (enforceAppAttest crates state headers body) s () t log)
    (configured : state.appAttest.isSome) : InstanceAsserted crates s headers body := by
  obtain ⟨config, isConfig⟩ := Option.isSome_iff_exists.mp configured
  simp only [enforceAppAttest, isConfig, verifyAppAttestAssertion, returns_okOr_bind,
    returns_read_bind, returns_ofExcept_bind, Checks.mapError_eq_ok, verifyAssertion_eq_ok]
    at returned
  obtain ⟨keyId, keyIdGiven, encoded, encodedGiven, assertion, decoded, inst, found, _,
    ⟨accepted, _⟩, _⟩ := returned
  exact ⟨keyId, encoded, assertion, inst, keyIdGiven, encodedGiven, decoded, found, ⟨accepted⟩⟩

/-- Only a submission waits for its snapshot, and it has passed the gate. -/
theorem Took.submitted (took : Took crates state w event w') {id : String} {headers : HeaderMap}
    {body : Bytes} (reply : event.reply = .ok (.suspended (.captureSnapshot id headers body))) :
    event.origin = .arrived (.submitPidCaptureEvidence id headers body) ∧
      (state.appAttest.isSome → InstanceAsserted crates w.inner headers body) := by
  have returned := took.returned reply
  cases origin : event.origin with
  | arrived request =>
      rw [origin] at returned
      cases request with
      | submitPidCaptureEvidence submitted given sent =>
          obtain ⟨_, passed, same⟩ := (returns_bind_pure _ _ _ _ _ _).mp returned
          cases same
          exact ⟨rfl, enforceAppAttest_returns passed⟩
      | nonce =>
          obtain ⟨_, _, returned⟩ := (returns_okOr_bind _ _ _ _ _ _ _).mp returned
          obtain ⟨_, _, same⟩ := (returns_bind_pure _ _ _ _ _ _).mp returned
          cases same
      | _ =>
          obtain ⟨_, _, same⟩ := (returns_bind_pure _ _ _ _ _ _).mp returned
          cases same
  | resumed task =>
      rw [origin] at returned
      cases task with
      | _ =>
          obtain ⟨_, _, same⟩ := (returns_bind_pure _ _ _ _ _ _).mp returned
          cases same

/-- Only a submission that took its snapshot waits for its commit. -/
theorem Took.snapshotted (took : Took crates state w event w') {id : String} {headers : HeaderMap}
    {body : Bytes} {snapshot : CaptureSnapshot}
    (reply : event.reply = .ok (.suspended (.captureCommit id headers body snapshot))) :
    event.origin = .resumed (.captureSnapshot id headers body) ∧
      ∃ grant : SnapshotGrant crates w.inner id body event.env.clock, snapshot = grant.snapshot := by
  have returned := took.returned reply
  cases origin : event.origin with
  | arrived request =>
      rw [origin] at returned
      cases request with
      | nonce =>
          obtain ⟨_, _, returned⟩ := (returns_okOr_bind _ _ _ _ _ _ _).mp returned
          obtain ⟨_, _, same⟩ := (returns_bind_pure _ _ _ _ _ _).mp returned
          cases same
      | _ =>
          obtain ⟨_, _, same⟩ := (returns_bind_pure _ _ _ _ _ _).mp returned
          cases same
  | resumed task =>
      rw [origin] at returned
      cases task with
      | captureSnapshot =>
          obtain ⟨_, answered, same⟩ := (returns_bind_pure _ _ _ _ _ _).mp returned
          cases same
          obtain ⟨grant, rfl, _⟩ := (captureSnapshot_returns _ _).mp answered
          exact ⟨rfl, grant, rfl⟩
      | _ =>
          obtain ⟨_, _, same⟩ := (returns_bind_pure _ _ _ _ _ _).mp returned
          cases same

end Tasks

/-! ## Sessions and their opening -/

/-- The event that opened a session, with the session as it was then. -/
structure Opening (crates : Crates) (state : AppState) (event : Event) (id : String)
    (request : CreateCaptureSessionRequest) (opened : CaptureSession) : Prop where
  origin : event.origin = .arrived (.createPidCaptureSession request)
  uuid : event.env.uuid = id
  asOpened : SessionOpened crates state request event.env opened

/-- What a session keeps of its opening; its token goes when it is issued. -/
structure CaptureSession.Continues (session opened : CaptureSession) : Prop where
  holderJkt : session.holderJkt = opened.holderJkt
  holderJwk : session.holderJwk = opened.holderJwk
  nonce : session.nonce = opened.nonce
  iproovUserId : session.iproovUserId = opened.iproovUserId
  iproovToken : session.iproovToken = none ∨ session.iproovToken = opened.iproovToken

theorem CaptureSession.Continues.refl (session : CaptureSession) : session.Continues session :=
  ⟨rfl, rfl, rfl, rfl, .inr rfl⟩

def OpenedIn (crates : Crates) (state : AppState) (trace : List Event) (id : String)
    (session : CaptureSession) : Prop :=
  ∃ event ∈ trace, ∃ request opened, Opening crates state event id request opened ∧
    session.Continues opened

section Openings

variable {crates : Crates} {state : AppState} {trace later : List Event} {w w' : World}
  {event : Event} {id : String}

theorem OpenedIn.mono {session : CaptureSession} (subset : trace ⊆ later)
    (held : OpenedIn crates state trace id session) : OpenedIn crates state later id session :=
  have ⟨event, member, opening⟩ := held
  ⟨event, subset member, opening⟩

theorem OpenedIn.failed {session : CaptureSession} (held : OpenedIn crates state trace id session) :
    OpenedIn crates state trace id { session with status := .failed } :=
  have ⟨event, member, request, opened, opening, continues⟩ := held
  ⟨event, member, request, opened, opening, { continues with }⟩

theorem OpenedIn.resolved {session : CaptureSession} {credential credentialMdoc : String}
    (held : OpenedIn crates state trace id session) :
    OpenedIn crates state trace id (session.resolved credential credentialMdoc) :=
  have ⟨event, member, request, opened, opening, continues⟩ := held
  ⟨event, member, request, opened, opening, { continues with iproovToken := .inl rfl }⟩

/-- Every session of a run was opened by an event of its history. -/
theorem run_opened {instances : StringMap RegisteredInstance}
    (run : (process crates state).Execution (World.initial instances) trace w) :
    ∀ {id : String} {session : CaptureSession}, w.inner.captureSessions.lookup id = some session →
      OpenedIn crates state trace id session := by
  refine run.history (P := fun trace w => ∀ {id : String} {session : CaptureSession},
    w.inner.captureSessions.lookup id = some session →
      OpenedIn crates state trace id session) ?_ ?_
  · intro id session found
    cases found
  · intro trace s action t event _ held stepped id session found
    have grows : trace ⊆ trace ++ [event] := List.subset_append_left _ _
    cases (step_took stepped).sessionStep with
    | kept same => rw [same] at found; exact (held found).mono grows
    | opened request opened origin asOpened sessions =>
        rw [sessions] at found
        rcases lookup_insert_cases found with ⟨rfl, rfl⟩ | found
        · exact ⟨event, List.mem_append_right _ (.head _), request, session,
            ⟨origin, rfl, asOpened⟩, .refl session⟩
        · exact (held found).mono grows
    | denied origin notAnswered refused sessions =>
        rw [sessions] at found
        rcases failSession_lookup_cases found with found | ⟨_, rfl, before, rfl⟩
        · exact (held found).mono grows
        · exact ((held before).mono grows).failed
    | minted origin grant reply inner =>
        rw [inner] at found
        rcases lookup_insert_cases found with ⟨rfl, rfl⟩ | found
        · exact ((held grant.found).mono grows).resolved
        · exact (held found).mono grows

/-- A session id is opened once. -/
theorem Opening.once {request other : CreateCaptureSessionRequest} {opened first : CaptureSession}
    {earlier : Event} (run : (process crates state).Execution w trace w')
    (member : event ∈ trace) (memberToo : earlier ∈ trace)
    (opening : Opening crates state event id request opened)
    (openingToo : Opening crates state earlier id other first) : event = earlier := by
  refine (atMostOnce_of_mark (m := Draw.uuid id) (run_draws run) ?_).eq
    (P := fun event => ∃ request opened, Opening crates state event id request opened)
    member memberToo ⟨request, opened, opening⟩ ⟨other, first, openingToo⟩
  rintro event _ ⟨request, opened, opening⟩
  rw [Event.draws, opening.origin, ← opening.uuid]
  exact .head _

end Openings

/-! ## The chain behind a credential pair -/

/-- A commit that stored a credential pair, with everything that stands behind it. -/
structure SoundCapture (crates : Crates) (state : AppState) (initial : World)
    (earlier : List Event) (event : Event) (id credential credentialMdoc : String) where
  headers : HeaderMap
  body : Bytes
  snapshot : CaptureSnapshot
  origin : event.origin = .resumed (.captureCommit id headers body snapshot)
  answered : event.reply =
    .ok (.finished (.json (issuedResponse crates state credential credentialMdoc)))
  opening : Event
  request : CreateCaptureSessionRequest
  /-- The session as it was opened. -/
  session : CaptureSession
  openedBefore : opening ∈ earlier
  opened : Opening crates state opening id request session
  snapshotEvent : Event
  snapshotBefore : snapshotEvent ∈ earlier
  snapshotOrigin : snapshotEvent.origin = .resumed (.captureSnapshot id headers body)
  clocked : snapshotEvent.env.clock = some snapshot.now
  evidenceRead : crates.captureEvidenceFromSlice body = some snapshot.request
  cfg : IProovConfig
  token : String
  configured : state.iproov = some cfg
  minted : createToken crates opening.env.host cfg (iproovUserId id) (iproovResource id) =
    some token
  confirmed : Confirmed crates event.env.host cfg token (iproovUserId id)
    (snapshot.request.clientIp.getD "0.0.0.0")
  readerKey : Bytes
  trusted : state.trustedEmrtdReaderKey = some readerKey
  attestation : EmrtdAttestation crates ⟨snapshot.request.attestation⟩ readerKey state.issuer
    snapshot.nonce snapshot.holderJkt snapshot.now
  nonce : attestation.claims.nonce = session.nonce
  holderJkt : attestation.claims.newHolderJkt = session.holderJkt
  passiveAuthentication : attestation.claims.passiveAuthentication = true
  chipAuthentic : attestation.claims.chipAuthentic = true
  matchedPortrait : attestation.claims.liveness.matchedPortrait = true
  accepted : Mark.bindingJti attestation.claims.jti ∈ event.log
  unused : ∀ other ∈ earlier, Mark.bindingJti attestation.claims.jti ∉ other.log
  appAttested : state.appAttest.isSome → ∃ before s submission,
    (process crates state).StepAt initial earlier before s submission ∧
      submission.origin = .arrived (.submitPidCaptureEvidence id headers body) ∧
      InstanceAsserted crates s.inner headers body
  sdJwt : BoundTo crates event.env.host credential session.holderJwk
  mdoc : BoundTo crates event.env.host credentialMdoc session.holderJwk

/-- A negative or missing verdict of the provider never passes the conjunction. -/
theorem CaptureVerdict.confirmed {crates : Crates} {state : AppState} {host : Host}
    {snapshot : CaptureSnapshot} (verdict : CaptureVerdict crates state host snapshot)
    (verdicts : ChipVerdicts verdict.verified) :
    verdict.attestation.claims.liveness.matchedPortrait = true ∧
      ∃ cfg token, state.iproov = some cfg ∧ snapshot.iproovToken = some token ∧
        Confirmed crates host cfg token snapshot.iproovUserId
          (snapshot.request.clientIp.getD "0.0.0.0") := by
  obtain ⟨passed, matched⟩ : verdict.livenessOk = true ∧
      verdict.attestation.claims.liveness.matchedPortrait = true := by
    have both := verdicts.livenessMatched
    exact (Bool.and_eq_true _ _).mp both
  refine ⟨matched, ?_⟩
  have answered := verdict.answered
  rw [passed] at answered
  unfold captureLiveness at answered
  split at answered
  case h_1 cfg token configured minted =>
    rw [Checks.okOr_eq_ok, validate_eq_some_true] at answered
    exact ⟨cfg, token, configured, minted, answered⟩
  case h_2 => cases answered

/-- The provider mints a token for the session's own user and resource. -/
theorem SessionOpened.minted {crates : Crates} {state : AppState}
    {request : CreateCaptureSessionRequest} {env : Environment} {session : CaptureSession}
    {cfg : IProovConfig} {token : String}
    (opened : SessionOpened crates state request env session)
    (configured : state.iproov = some cfg) (hasToken : session.iproovToken = some token) :
    createToken crates env.host cfg (iproovUserId env.uuid) (iproovResource env.uuid) =
      some token := by
  obtain ⟨_, _, minted⟩ := opened.token
  simp only [mintIproovToken, configured, Checks.okOr_bind_eq_ok, Checks.pure_eq_ok,
    Prod.mk.injEq, hasToken, Option.some.injEq] at minted
  obtain ⟨_, created, rfl, _⟩ := minted
  exact created

section Soundness

variable {crates : Crates} {state : AppState} {instances : StringMap RegisteredInstance}
  {trace earlier : List Event} {w w' : World} {event : Event}

/-- The pair that a session holds was stored by this event of the run. -/
structure StoredBy (crates : Crates) (state : AppState) (initial : World) (trace : List Event)
    (id : String) (session : CaptureSession) (earlier : List Event) (event : Event) : Prop where
  split : ∃ later, trace = earlier ++ event :: later
  pair : ∃ credential credentialMdoc, session.credential = some credential ∧
    session.credentialMdoc = some credentialMdoc ∧
    Nonempty (SoundCapture crates state initial earlier event id credential credentialMdoc)

theorem StoredBy.append {initial : World} {id : String} {session : CaptureSession}
    (stored : StoredBy crates state initial trace id session earlier event) (later : List Event) :
    StoredBy crates state initial (trace ++ later) id session earlier event := by
  obtain ⟨⟨rest, rfl⟩, pair⟩ := stored
  exact ⟨⟨rest ++ later, by simp⟩, pair⟩

end Soundness

end VCIssuer.Service
