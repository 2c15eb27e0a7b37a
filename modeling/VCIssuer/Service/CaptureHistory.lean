import VCIssuer.Service.Restarts

/-!
# The capture sessions are their history

A session is what its opening made of it, changed by the commits that have resolved
it since, in their order.  What a poll shows and whether a submission proceeds can
therefore be read off the events since the last restart.
-/

namespace VCIssuer.Service

open VCIssuer.Library
open VCIssuer.Library.Critical

/-! ## What the history says -/

/-- What a commit does to its session. -/
inductive Resolution where
  | minted (credential credentialMdoc : String)
  | denied

def CaptureSession.after (session : CaptureSession) : Resolution → CaptureSession
  | .minted credential credentialMdoc => session.resolved credential credentialMdoc
  | .denied => { session with status := .failed }

section Words

variable (crates : Crates) (state : AppState)

/-- The event opens the session under this id, just so. -/
structure Event.Opens (event : Event) (id : String) (session : CaptureSession) : Prop where
  opening : ∃ request, Opening crates state event id request session ∧
    session.deviceToken = request.deviceToken
  expires : ∃ now, event.env.clock = some now ∧
    session.expiresAt = saturatingAdd now captureSessionTtlSeconds

/-- The event resolves the session: it answers the submission, or the kernel denies evidence that
it has accepted for the first time. -/
inductive Event.Resolves (event : Event) (id : String) : Resolution → Prop
  | minted {headers : HeaderMap} {body : Bytes} {snapshot : CaptureSnapshot}
      {credential credentialMdoc : String}
      (origin : event.origin = .resumed (.captureCommit id headers body snapshot))
      (reply : event.reply = .ok (.finished (.json
        (issuedResponse crates state credential credentialMdoc)))) :
      Resolves event id (.minted credential credentialMdoc)
  | denied {headers : HeaderMap} {body : Bytes} {snapshot : CaptureSnapshot} {failure : Failure}
      (origin : event.origin = .resumed (.captureCommit id headers body snapshot))
      (reply : event.reply = .error failure)
      (verdict : CaptureVerdict crates state event.env.host snapshot)
      (accepted : .bindingJti verdict.verified.jti ∈ event.log)
      (refused : ¬ CaptureAdmitted verdict.verified snapshot.now) :
      Resolves event id .denied

/-- The resolutions of one session in a history, in their order. -/
inductive Resolutions (id : String) : List Event → List Resolution → Prop
  | nil : Resolutions id [] []
  | aside {trace : List Event} {resolutions : List Resolution} {event : Event}
      (before : Resolutions id trace resolutions)
      (none : ∀ resolution, ¬ event.Resolves crates state id resolution) :
      Resolutions id (trace ++ [event]) resolutions
  | resolved {trace : List Event} {resolutions : List Resolution} {event : Event}
      {resolution : Resolution} (before : Resolutions id trace resolutions)
      (resolves : event.Resolves crates state id resolution) :
      Resolutions id (trace ++ [event]) (resolutions ++ [resolution])

/-- The session was opened in this history and has come to this since. -/
def SessionRecorded (trace : List Event) (id : String) (session : CaptureSession) : Prop :=
  ∃ earlier opening later opened resolutions, trace = earlier ++ opening :: later ∧
    opening.Opens crates state id opened ∧ Resolutions crates state id later resolutions ∧
    session = resolutions.foldl CaptureSession.after opened

/-- The session was opened in this history and no commit has resolved it since. -/
def SessionAwaits (trace : List Event) (id : String) (session : CaptureSession) : Prop :=
  ∃ earlier opening later, trace = earlier ++ opening :: later ∧
    opening.Opens crates state id session ∧
    ∀ event ∈ later, ∀ resolution, ¬ event.Resolves crates state id resolution

end Words

section Steps

variable {crates : Crates} {state : AppState} {w w' : World} {event : Event} {id : String}
  {session : CaptureSession}

/-! ## Opening -/

/-- The session that a request opens. -/
def openedSession (crates : Crates) (request : CreateCaptureSessionRequest) (env : Environment)
    (ecJwk : EcJwk) (now : UInt64) (token : Option String) : CaptureSession where
  holderJkt := ecJwk.thumbprint crates
  holderJwk := ecJwk.toValue
  nonce := randomToken crates env.octets
  iproovUserId := iproovUserId env.uuid
  iproovToken := token
  status := .awaitingEvidence
  credential := none
  credentialMdoc := none
  expiresAt := saturatingAdd now captureSessionTtlSeconds
  deviceToken := request.deviceToken

theorem createPidCaptureSession_opens {request : CreateCaptureSessionRequest} {env : Environment}
    {s t : VolatileState} {log : List Mark} :
    (∃ response, Returns (createPidCaptureSession crates state request env.clock env.uuid
      env.octets env.host) s response t log) ↔
    ∃ session, SessionOpened crates state request env session ∧
      session.deviceToken = request.deviceToken ∧
      (∃ now, env.clock = some now ∧
        session.expiresAt = saturatingAdd now captureSessionTtlSeconds) ∧
      t = { s with captureSessions := s.captureSessions.insert env.uuid session } ∧ log = [] := by
  simp only [createPidCaptureSession, returns_okOr_bind, returns_ofExcept_bind, Prod.exists,
    verifyingKeyAndJwk_eq_ok, unixTime_eq_ok, returns_modify_bind, returns_pure]
  constructor
  · rintro ⟨response, ecJwk, read, key, _, _, ⟨denotes, rfl, rfl⟩, now, clocked, token, _, _,
      minted, rfl, rfl, rfl⟩
    exact ⟨openedSession crates request env ecJwk now token, ⟨⟨ecJwk, key, read, denotes, rfl, rfl⟩,
      rfl, rfl, ⟨_, _, minted⟩, rfl, rfl, rfl⟩, rfl, ⟨now, clocked, by rw [openedSession]⟩, rfl, rfl⟩
  · rintro ⟨session, opened, device, ⟨now, clocked, expires⟩, rfl, rfl⟩
    obtain ⟨⟨ecJwk, key, read, denotes, jkt, jwk⟩, nonce, userId, ⟨url, assurance, minted⟩, awaiting,
      noCredential, noCredentialMdoc⟩ := opened
    have made : session = openedSession crates request env ecJwk now session.iproovToken := by
      cases session
      simp_all [openedSession]
    rw [made]
    exact ⟨_, ecJwk, read, key, _, _, ⟨denotes, rfl, rfl⟩, now, clocked, session.iproovToken, url,
      assurance, minted, rfl, rfl, rfl⟩

theorem Took.opens (took : Took crates state w event w')
    (opens : event.Opens crates state id session) :
    w'.inner.captureSessions = w.inner.captureSessions.insert id session := by
  obtain ⟨⟨request, ⟨origin, rfl, opened⟩, device⟩, expires⟩ := opens
  obtain ⟨response, returned⟩ := createPidCaptureSession_opens.mpr
    ⟨session, opened, device, expires, rfl, rfl⟩
  have answered := (returns_bind_pure _ (fun response => Progress.finished
    (.captureSession response)) _ _ _ _).mpr ⟨_, returned, rfl⟩
  have ran := took.ran
  rw [origin] at ran
  obtain ⟨_, inner, _⟩ := Outcome.mk.inj (ran.symm.trans answered)
  rw [inner]

/-- A session that was not there before was opened by the step. -/
theorem Took.openedBy (took : Took crates state w event w')
    (absent : w.inner.captureSessions.lookup id = none)
    (found : w'.inner.captureSessions.lookup id = some session) :
    event.Opens crates state id session := by
  cases took.sessionStep with
  | kept same =>
      rw [same, absent] at found
      cases found
  | opened request opened origin asOpened sessions =>
      cases reply : event.reply with
      | error failure =>
          have rejected := took.rejected reply
          rw [origin] at rejected
          rw [createPidCaptureSession_rejects ((rejects_bind_pure _ _ _ _ _).mp rejected),
            absent] at found
          cases found
      | ok progress =>
          have returned := took.returned reply
          rw [origin] at returned
          obtain ⟨response, answered, _⟩ := (returns_bind_pure _ _ _ _ _ _).mp returned
          obtain ⟨made, asMade, device, expires, inner, _⟩ :=
            createPidCaptureSession_opens.mp ⟨response, answered⟩
          rw [inner] at found
          rcases lookup_insert_cases found with ⟨rfl, rfl⟩ | found
          · exact ⟨⟨request, ⟨origin, rfl, asMade⟩, device⟩, expires⟩
          · cases absent.symm.trans found
  | denied origin _ _ sessions =>
      rw [sessions] at found
      rcases failSession_lookup_cases found with found | ⟨_, rfl, found, _⟩ <;>
        cases absent.symm.trans found
  | minted origin grant _ inner =>
      rw [inner] at found
      rcases lookup_insert_cases found with ⟨rfl, _⟩ | found
      · cases absent.symm.trans grant.found
      · cases absent.symm.trans found

/-! ## Resolving -/

theorem issuedResponse_injective {credential credentialMdoc other otherMdoc : String}
    (same : issuedResponse crates state credential credentialMdoc =
      issuedResponse crates state other otherMdoc) :
    credential = other ∧ credentialMdoc = otherMdoc := by
  simp only [issuedResponse, Value.object.injEq, List.cons.injEq, Prod.mk.injEq,
    Value.string.injEq] at same
  exact ⟨same.2.2.1.2, same.2.2.2.2.1.2⟩

/-- A session changes with a resolution as the history says. -/
theorem Took.resolves (took : Took crates state w event w') (wellformed : Wellformed w)
    {resolution : Resolution} (resolves : event.Resolves crates state id resolution)
    (found : w.inner.captureSessions.lookup id = some session) :
    w'.inner.captureSessions.lookup id = some (session.after resolution) := by
  cases resolves with
  | minted origin reply =>
      cases took.sessionStep with
      | kept _ notMinted => exact absurd reply (notMinted _ _ _ _ _ origin)
      | opened _ _ origin' => cases origin.symm.trans origin'
      | denied _ notAnswered => exact absurd reply (notAnswered _)
      | minted origin' grant replied inner =>
          cases origin.symm.trans origin'
          have same := reply.symm.trans replied
          simp only [Except.ok.injEq, Progress.finished.injEq, Response.json.injEq] at same
          obtain ⟨rfl, rfl⟩ := issuedResponse_injective same
          cases grant.found.symm.trans found
          rw [inner]
          exact AList.lookup_insert _
  | denied origin _ verdict accepted refused =>
      have fresh : verdict.verified.jti ∉ w.inner.bindingJtis :=
        (took.respects wellformed).unspent _ accepted
      have rejected := (rejects_bind_pure (captureCommit crates state id _ _)
        (fun value => Progress.finished (.json value)) _ _ _).mpr
        (captureCommit_refuses verdict fresh refused)
      obtain ⟨_, ran⟩ := rejected
      have ranToo := took.ran
      rw [origin] at ranToo
      obtain ⟨_, inner, _⟩ := Outcome.mk.inj (ranToo.symm.trans ran)
      rw [inner]
      exact (failSession_lookup found).trans (by rw [if_pos rfl]; rfl)

/-- A session changes with nothing else. -/
theorem Took.unresolved (took : Took crates state w event w') (grounded : w.Grounded)
    (none : ∀ resolution, ¬ event.Resolves crates state id resolution)
    (found : w.inner.captureSessions.lookup id = some session) :
    w'.inner.captureSessions.lookup id = some session := by
  cases took.sessionStep with
  | kept same => rw [same]; exact found
  | opened request opened origin _ sessions =>
      have drawn : Draw.uuid id ∈ w.drawn := grounded.sessions (mem_of_lookup found)
      have drew : Draw.uuid event.env.uuid ∉ w.drawn ∧ Draw.uuid event.env.uuid ∈ w'.drawn :=
        took.drew (by rw [origin]; rfl) (.head _)
      rw [sessions, AList.lookup_insert_ne]
      · exact found
      · rintro rfl
        exact drew.1 drawn
  | @denied failing headers body snapshot origin notAnswered refused sessions =>
      by_cases same : id = failing
      · subst same
        obtain ⟨verdict, fresh, notAdmitted⟩ := refused
        obtain ⟨failure, ran⟩ := (rejects_bind_pure (captureCommit crates state id _ _)
          (fun value => Progress.finished (.json value)) _ _ _).mpr
          (captureCommit_refuses verdict fresh notAdmitted)
        have ranToo := took.ran
        rw [origin] at ranToo
        obtain ⟨reply, _, log⟩ := Outcome.mk.inj (ranToo.symm.trans ran)
        exact absurd (.denied origin reply verdict (by rw [log]; exact .head _) notAdmitted)
          (none .denied)
      · rw [sessions, failSession_lookup found, if_neg same]
  | @minted minting headers body snapshot origin grant reply inner =>
      by_cases same : id = minting
      · subst same
        exact absurd (.minted origin reply) (none _)
      · rw [inner]
        exact (AList.lookup_insert_ne same).trans found

end Steps

/-! ## Histories of resolutions -/

section Resolving

variable {crates : Crates} {state : AppState} {trace later : List Event} {id : String}
  {session : CaptureSession} {resolutions : List Resolution}

theorem exists_resolutions (crates : Crates) (state : AppState) (id : String)
    (trace : List Event) : ∃ resolutions, Resolutions crates state id trace resolutions := by
  induction trace using List.reverseRecOn with
  | nil => exact ⟨[], .nil⟩
  | append_singleton trace event held =>
      obtain ⟨resolutions, before⟩ := held
      by_cases resolves : ∃ resolution, event.Resolves crates state id resolution
      · obtain ⟨resolution, resolves⟩ := resolves
        exact ⟨resolutions ++ [resolution], .resolved before resolves⟩
      · exact ⟨resolutions, .aside before (not_exists.mp resolves)⟩

theorem Resolutions.eq_nil_iff (resolved : Resolutions crates state id trace resolutions) :
    resolutions = [] ↔
      ∀ event ∈ trace, ∀ resolution, ¬ event.Resolves crates state id resolution := by
  induction resolved with
  | nil => simp
  | aside _ none held =>
      rw [held]
      constructor
      · intro unresolved event member
        rcases List.mem_append.mp member with earlier | last
        · exact unresolved event earlier
        · rw [List.mem_singleton.mp last]
          exact none
      · exact fun unresolved event member =>
          unresolved event (List.mem_append_left _ member)
  | resolved _ resolves _ =>
      refine iff_of_false (List.append_ne_nil_of_right_ne_nil _ (List.cons_ne_nil _ _)) ?_
      intro unresolved
      exact unresolved _ (List.mem_append_right _ (.head _)) _ resolves

/-- Every resolution takes a session out of waiting. -/
theorem foldl_after_awaiting_iff (awaiting : session.status = .awaitingEvidence) :
    (resolutions.foldl CaptureSession.after session).status = .awaitingEvidence ↔
      resolutions = [] := by
  cases resolutions using List.reverseRecOn with
  | nil => exact iff_of_true awaiting rfl
  | append_singleton resolutions last _ =>
      rw [List.foldl_append]
      refine iff_of_false ?_ (List.append_ne_nil_of_right_ne_nil _ (List.cons_ne_nil _ _))
      cases last <;> exact nofun

theorem sessionAwaits_iff :
    SessionAwaits crates state trace id session ↔
      SessionRecorded crates state trace id session ∧ session.status = .awaitingEvidence := by
  constructor
  · rintro ⟨earlier, opening, later, rfl, opens, unresolved⟩
    obtain ⟨resolutions, resolved⟩ := exists_resolutions crates state id later
    cases resolved.eq_nil_iff.mpr unresolved
    obtain ⟨⟨request, opening, device⟩, expires⟩ := opens
    exact ⟨⟨_, _, _, session, [], rfl, ⟨⟨request, opening, device⟩, expires⟩, resolved, rfl⟩,
      opening.asOpened.awaiting⟩
  · rintro ⟨⟨earlier, opening, later, opened, resolutions, rfl, opens, resolved, rfl⟩, awaiting⟩
    obtain ⟨_, asOpened, _⟩ := opens.opening
    have none := (foldl_after_awaiting_iff asOpened.asOpened.awaiting).mp awaiting
    subst none
    exact ⟨earlier, opening, later, rfl, opens, resolved.eq_nil_iff.mp rfl⟩

/-- A session is never forgotten. -/
theorem SessionRecorded.append (recorded : SessionRecorded crates state trace id session)
    (later : List Event) : ∃ session, SessionRecorded crates state (trace ++ later) id session := by
  obtain ⟨first, opening, rest, opened, _, rfl, opens, _⟩ := recorded
  obtain ⟨resolutions, resolved⟩ := exists_resolutions crates state id (rest ++ later)
  exact ⟨_, first, opening, rest ++ later, opened, resolutions, by simp, opens, resolved, rfl⟩

end Resolving

/-! ## Polling -/

theorem getPidCaptureSession_returns {crates : Crates} {state : AppState} {id : String}
    {clock : ClockReading} {s t : VolatileState} {body : Value} {log : List Mark} :
    Returns (getPidCaptureSession crates state id clock) s body t log ↔
      ∃ now session, clock = some now ∧ s.captureSessions.lookup id = some session ∧
        (now ≤ session.expiresAt ∨ session.status = .issued) ∧
        body = .object ([("status", .string session.status.text)] ++
          awaitingMembers state session ++ credentialMembers crates state session) ∧
        t = s ∧ log = [] := by
  simp only [getPidCaptureSession, returns_ofExcept_bind, unixTime_eq_ok, returns_read_bind,
    returns_okOr_bind, returns_rejectIf_bind, returns_pure, not_and_or, UInt64.not_lt, not_not]
  constructor
  · rintro ⟨now, clocked, session, found, unexpired, same⟩
    exact ⟨now, session, clocked, found, unexpired, same⟩
  · rintro ⟨now, session, clocked, found, unexpired, same⟩
    exact ⟨now, clocked, session, found, unexpired, same⟩

/-! ## The sessions of a run -/

section Runs

variable {crates : Crates} {state : AppState} {instances : StringMap RegisteredInstance}
  {trace earlier : List Event} {w w' : World} {event : Event}

theorem run_session_recorded
    (run : (process crates state).Execution (World.initial instances) trace w) :
    ∀ id session, w.inner.captureSessions.lookup id = some session ↔
      SessionRecorded crates state trace id session := by
  refine run.history (P := fun trace w => ∀ id session,
    w.inner.captureSessions.lookup id = some session ↔
      SessionRecorded crates state trace id session) ?_ ?_
  · intro id session
    refine iff_of_false nofun ?_
    rintro ⟨earlier, opening, later, _, _, none, _⟩
    exact List.append_ne_nil_of_right_ne_nil _ (List.cons_ne_nil _ _) none.symm
  · intro trace s action t event before held stepped id session
    have took := step_took stepped
    have wellformed := (run_respects (wellformed_initial instances) before).1
    constructor
    · intro found
      cases known : s.inner.captureSessions.lookup id with
      | none => exact ⟨trace, event, [], session, [], rfl, took.openedBy known found, .nil, rfl⟩
      | some known' =>
          obtain ⟨first, opening, later, opened, resolutions, rfl, opens, resolved, rfl⟩ :=
            (held _ _).mp known
          by_cases resolves : ∃ resolution, event.Resolves crates state id resolution
          · obtain ⟨resolution, resolves⟩ := resolves
            refine ⟨first, opening, later ++ [event], opened, resolutions ++ [resolution], by simp,
              opens, .resolved resolved resolves, ?_⟩
            rw [List.foldl_append]
            exact Option.some.inj (found.symm.trans (took.resolves wellformed resolves known))
          · have none := not_exists.mp resolves
            refine ⟨first, opening, later ++ [event], opened, resolutions, by simp, opens,
              .aside resolved none, ?_⟩
            exact Option.some.inj
              (found.symm.trans (took.unresolved (run_grounded before) none known))
    · rintro ⟨first, opening, later, opened, resolutions, whole, opens, resolved, rfl⟩
      cases resolved with
      | nil =>
          obtain ⟨_, same⟩ := List.append_inj' whole rfl
          cases same
          rw [took.opens opens]
          exact AList.lookup_insert _
      | aside resolved none =>
          rw [← List.cons_append, ← List.append_assoc] at whole
          obtain ⟨rfl, same⟩ := List.append_inj' whole rfl
          cases same
          exact took.unresolved (run_grounded before) none
            ((held _ _).mpr ⟨first, opening, _, opened, _, rfl, opens, resolved, rfl⟩)
      | resolved resolved resolves =>
          rw [← List.cons_append, ← List.append_assoc] at whole
          obtain ⟨rfl, same⟩ := List.append_inj' whole rfl
          cases same
          rw [List.foldl_append]
          exact took.resolves wellformed resolves
            ((held _ _).mpr ⟨first, opening, _, opened, _, rfl, opens, resolved, rfl⟩)

/-- The session of a commit is still there. -/
theorem run_commit_session
    (run : (process crates state).Execution (World.initial instances) earlier w)
    {id : String} {headers : HeaderMap} {body : Bytes} {snapshot : CaptureSnapshot}
    (waits : Task.captureCommit id headers body snapshot ∈ w.tasks) :
    ∃ session, w.inner.captureSessions.lookup id = some session := by
  obtain ⟨before, s, taken, ⟨_, _, rest, rfl, past, stepped⟩, suspended⟩ :=
    run_suspended run _ waits
  obtain ⟨_, grant, _⟩ := (step_took stepped).snapshotted suspended
  obtain ⟨session, recorded⟩ :=
    ((run_session_recorded past _ _).mp grant.found).append (taken :: rest)
  exact ⟨session, (run_session_recorded run _ _).mpr recorded⟩

end Runs

/-! ## The sessions of the service -/

section Deployed

variable {crates : Crates} {state : AppState} {store : StringMap RegisteredInstance}
  {trace earlier later : List DeploymentEvent} {event : Event} {d : Deployment} {id : String}

/-- A poll is answered exactly for a session of the history since the last restart that is issued
or has not expired, and with that session. -/
theorem poll_answers_iff {body : Value}
    (run : (deployment crates state).Execution (.initial store)
      (earlier ++ .served event :: later) d)
    (origin : event.origin = .arrived (.getPidCaptureSession id)) :
    event.reply = .ok (.finished (.json body)) ↔
      ∃ now session, event.env.clock = some now ∧
        SessionRecorded crates state (sinceRestart earlier) id session ∧
        (now ≤ session.expiresAt ∨ session.status = .issued) ∧
        body = .object ([("status", .string session.status.text)] ++
          awaitingMembers state session ++ credentialMembers crates state session) := by
  obtain ⟨_, _, _, past, took, _⟩ := deployment_at_event run
  constructor
  · intro reply
    have returned := took.returned reply
    rw [origin] at returned
    obtain ⟨_, answered, same⟩ := (returns_bind_pure _ _ _ _ _ _).mp returned
    cases same
    obtain ⟨now, session, clocked, found, unexpired, same, _⟩ :=
      getPidCaptureSession_returns.mp answered
    exact ⟨now, session, clocked, (run_session_recorded past _ _).mp found, unexpired, same⟩
  · rintro ⟨now, session, clocked, recorded, unexpired, same⟩
    have answered := getPidCaptureSession_returns.mpr ⟨now, session, clocked,
      (run_session_recorded past _ _).mpr recorded, unexpired, same, rfl, rfl⟩
    exact took.replied origin ((returns_bind_pure _ _ _ _ _ _).mpr ⟨body, answered, rfl⟩)

theorem poll_answers_reference :
    ∃ earlier event d, (deployment reference capturingState).Execution (.initial ∅)
        (.restarted :: earlier ++ [.served event]) d ∧
      event.origin = .arrived (.getPidCaptureSession "session") ∧
      ∃ session, SessionRecorded reference capturingState
          (sinceRestart (.restarted :: earlier)) "session" session ∧
        event.reply = .ok (.finished (.json (.object ([("status", .string session.status.text)] ++
          awaitingMembers capturingState session ++
          credentialMembers reference capturingState session)))) := by
  obtain ⟨opening, _, opened⟩ := open_run
  obtain ⟨grant, _⟩ := @travel_grant _ _ "first" (by decide) openedState_session List.not_mem_nil
  have waiting := opened.trans ((submit_run "first").trans (snapshot_run "first" openedState_session))
  have polled : Returns (Request.handler reference capturingState captureEnv
      (.getPidCaptureSession "session")) grant.after _ grant.after [] :=
    (returns_bind_pure _ _ _ _ _ _).mpr ⟨_, getPidCaptureSession_returns.mpr
      ⟨1000, _, rfl, grant.resolves, .inr rfl, rfl, rfl, rfl⟩, rfl⟩
  have run := (waiting.trans (commit_run grant)).trans (finished_run rfl (by simp) polled)
  obtain ⟨d, served⟩ := served_restarted run
  rw [List.map_append, ← List.cons_append] at served
  obtain ⟨_, session, _, recorded, _, same⟩ := (poll_answers_iff served rfl).mp rfl
  exact ⟨_, _, d, served, rfl, session, recorded, by rw [same]⟩

/-- A submission goes on exactly while its session, opened since the last restart, has not expired
and no commit has resolved it. -/
theorem submission_proceeds_iff {headers : HeaderMap} {body : Bytes}
    (run : (deployment crates state).Execution (.initial store)
      (earlier ++ .served event :: later) d)
    (origin : event.origin = .resumed (.captureSnapshot id headers body)) :
    (∃ snapshot, event.reply = .ok (.suspended (.captureCommit id headers body snapshot))) ↔
      ∃ request now session, crates.captureEvidenceFromSlice body = some request ∧
        event.env.clock = some now ∧
        SessionAwaits crates state (sinceRestart earlier) id session ∧
        now ≤ session.expiresAt := by
  obtain ⟨_, _, _, past, took, _⟩ := deployment_at_event run
  simp only [sessionAwaits_iff, ← run_session_recorded past]
  constructor
  · rintro ⟨snapshot, reply⟩
    obtain ⟨_, grant, _⟩ := took.snapshotted reply
    exact ⟨grant.request, grant.now, grant.session, grant.read, grant.clocked,
      ⟨grant.found, grant.awaiting⟩, grant.unexpired⟩
  · rintro ⟨request, now, session, read, clocked, ⟨found, awaiting⟩, unexpired⟩
    have answered := (captureSnapshot_returns body event.env.clock).mpr
      ⟨{ request, now, session, read, clocked, found, unexpired, awaiting }, rfl, rfl, rfl⟩
    exact ⟨_, took.replied origin ((returns_bind_pure _ _ _ _ _ _).mpr ⟨_, answered, rfl⟩)⟩

theorem submission_proceeds_reference :
    ∃ earlier event d, (deployment reference capturingState).Execution (.initial ∅)
        (.restarted :: earlier ++ [.served event]) d ∧
      event.origin = .resumed (.captureSnapshot "session" [] (travelBody "first")) ∧
      ∃ session, SessionAwaits reference capturingState (sinceRestart (.restarted :: earlier))
        "session" session := by
  obtain ⟨opening, _, opened⟩ := open_run
  have submitted := opened.trans (submit_run "first")
  obtain ⟨d, served⟩ := served_restarted
    (submitted.trans (snapshot_run "first" openedState_session))
  rw [List.map_append, ← List.cons_append] at served
  obtain ⟨_, _, session, _, _, awaits, _⟩ := (submission_proceeds_iff served rfl).mp ⟨_, rfl⟩
  exact ⟨_, _, d, served, rfl, session, awaits⟩

/-- A commit is answered exactly when the provider and the reader have spoken, the attestation has
not been accepted since the last restart, the kernel admits it and both credentials can be encoded.
Whether the session was resolved meanwhile plays no part. -/
theorem commit_answers_iff {headers : HeaderMap} {body : Bytes} {snapshot : CaptureSnapshot}
    (run : (deployment crates state).Execution (.initial store)
      (earlier ++ .served event :: later) d)
    (origin : event.origin = .resumed (.captureCommit id headers body snapshot)) :
    (∃ progress, event.reply = .ok progress) ↔
      ∃ verdict : CaptureVerdict crates state event.env.host snapshot,
        ¬ Marked (sinceRestart earlier) (.bindingJti verdict.verified.jti) ∧
        CaptureAdmitted verdict.verified snapshot.now ∧
        (∃ signer credential, state.credentialSigners.lookup pidFromEmrtdSdJwt = some signer ∧
          issueSdJwt crates event.env.host signer state.issuer pidFromEmrtdSdJwt
            snapshot.holderJwk snapshot.now none (some verdict.verified.claims) =
              .ok credential) ∧
        ∃ signer credential, state.credentialSigners.lookup pidFromEmrtdMdoc = some signer ∧
          issueMdoc crates event.env.host signer pidFromEmrtdMdoc snapshot.holderJwk snapshot.now
            (some verdict.verified.claims) state.hybridCredentialSigner = .ok credential := by
  obtain ⟨_, w, _, past, took, _⟩ := deployment_at_event run
  have marked : ∀ jti, jti ∈ w.inner.bindingJtis ↔ Marked (sinceRestart earlier) (.bindingJti jti) :=
    fun jti => run_spent_iff (m := .bindingJti jti) past nofun
  constructor
  · rintro ⟨progress, reply⟩
    have returned := took.returned reply
    rw [origin] at returned
    obtain ⟨_, answered, _⟩ := (returns_bind_pure _ _ _ _ _ _).mp returned
    obtain ⟨grant, _⟩ := (captureCommit_returns _).mp answered
    exact ⟨grant.toCaptureVerdict, (marked _).not.mp grant.fresh, grant.admitted,
      ⟨_, _, grant.signerFound, grant.issued⟩, _, _, grant.mdocSignerFound, grant.issuedMdoc⟩
  · rintro ⟨verdict, unmarked, admitted, ⟨signer, credential, signerFound, issued⟩, mdocSigner,
      credentialMdoc, mdocSignerFound, issuedMdoc⟩
    obtain ⟨session, found⟩ := run_commit_session past (took.resumed_mem origin)
    have grant : CaptureGrant crates state w.inner id snapshot event.env.host := {
      verdict with
      signer, mdocSigner, credential, credentialMdoc, session, admitted, signerFound, issued
      mdocSignerFound, issuedMdoc, found
      fresh := (marked _).not.mpr unmarked }
    exact ⟨_, (took.committed origin grant).1⟩

theorem commit_answers_reference :
    ∃ earlier event d, (deployment reference capturingState).Execution (.initial ∅)
        (.restarted :: earlier ++ [.served event]) d ∧
      event.origin = .resumed (.captureCommit "session" [] (travelBody "first")
        (travelSnapshot "first")) ∧
      ∃ verdict : CaptureVerdict reference capturingState event.env.host (travelSnapshot "first"),
        CaptureAdmitted verdict.verified (travelSnapshot "first").now := by
  obtain ⟨_, event, _, _, _, run, ⟨_, _, reply⟩, origin⟩ := @capture_run "first" (by decide)
  obtain ⟨d, served⟩ := served_restarted run
  rw [List.map_append, ← List.cons_append] at served
  obtain ⟨verdict, _, admitted, _⟩ := (commit_answers_iff served origin).mp ⟨_, reply⟩
  exact ⟨_, event, d, served, origin, verdict, admitted⟩

end Deployed

end VCIssuer.Service
