import VCIssuer.Service.Provenance
import VCIssuer.Service.Travellers

/-!
# How often a capture session resolves

A submission looks at the status of its session when it takes its snapshot and
never again.  Two submissions with different attestations can therefore both
commit.  What a commit must find for the session to resolve once is stated here,
with the runs in which it always does.
-/

namespace VCIssuer.Service

open VCIssuer.Library
open VCIssuer.Library.Critical

/-- The submission is answered with both credentials of a PID. -/
def Event.Mints (event : Event) (id : String) : Prop :=
  ∃ headers body snapshot value,
    event.origin = .resumed (.captureCommit id headers body snapshot) ∧
    event.reply = .ok (.finished (.json value))

/-- Both credentials are there exactly when the session is issued. -/
def CaptureSession.Consistent (session : CaptureSession) : Prop :=
  session.credential.isSome ∧ session.credentialMdoc.isSome ↔ session.status = .issued

def VolatileState.Consistent (s : VolatileState) : Prop :=
  ∀ {id : String} {session : CaptureSession}, s.captureSessions.lookup id = some session →
    session.Consistent

/-- A resolved session keeps its status. -/
def StatusKept (s t : VolatileState) : Prop :=
  ∀ {id : String} {session : CaptureSession}, s.captureSessions.lookup id = some session →
    session.status ≠ .awaitingEvidence →
    ∃ later, t.captureSessions.lookup id = some later ∧ later.status = session.status

/-- Each session of the run mints at most once, keeps its status once it is resolved, and holds
both credentials exactly when it is issued. -/
structure ResolvesOnce (crates : Crates) (state : AppState) (initial : World)
    (trace : List Event) : Prop where
  minted : ∀ id, AtMostOnce (Event.Mints · id) trace
  terminal : ∀ {earlier later : List Event} {event : Event} {action : Action} {s t : World},
    trace = earlier ++ event :: later → (process crates state).Execution initial earlier s →
    (process crates state).step s action = some (t, event) → StatusKept s.inner t.inner
  consistent : ∀ {earlier later : List Event} {s : World}, trace = earlier ++ later →
    (process crates state).Execution initial earlier s → s.inner.Consistent

/-- A commit for a session that is resolved already does no harm: it does not mint again, and the
kernel does not deny it after an issuance. -/
def CommitHarmless (crates : Crates) (state : AppState) (s : VolatileState) (id : String)
    (snapshot : CaptureSnapshot) (host : Host) (status : CaptureStatus) : Prop :=
  ¬ Nonempty (CaptureGrant crates state s id snapshot host) ∧
    ¬ (CaptureDenied crates state s snapshot host ∧ status = .issued)

/-- Every commit of the run finds its session waiting, or is harmless. -/
def CommitsInOrder (crates : Crates) (state : AppState) (initial : World) (trace : List Event) :
    Prop :=
  ∀ {earlier : List Event} {s : World} {event : Event} {id : String} {headers : HeaderMap}
    {body : Bytes} {snapshot : CaptureSnapshot} {session : CaptureSession},
    (process crates state).StepAt initial trace earlier s event →
    event.origin = .resumed (.captureCommit id headers body snapshot) →
    s.inner.captureSessions.lookup id = some session →
    session.status = .awaitingEvidence ∨
      CommitHarmless crates state s.inner id snapshot event.env.host session.status

section Steps

variable {crates : Crates} {state : AppState} {w w' : World} {event : Event}

theorem failSession_lookup {sessions : StringMap CaptureSession} {id other : String}
    {session : CaptureSession} (found : sessions.lookup other = some session) :
    (failSession sessions id).lookup other =
      some (if other = id then { session with status := .failed } else session) := by
  unfold failSession
  by_cases same : other = id
  · subst same
    rw [found, if_pos rfl]
    exact AList.lookup_insert _
  · rw [if_neg same]
    split
    case h_1 => exact (AList.lookup_insert_ne same).trans found
    case h_2 => exact found

theorem failSession_lookup_cases {sessions : StringMap CaptureSession} {id other : String}
    {session : CaptureSession} (found : (failSession sessions id).lookup other = some session) :
    sessions.lookup other = some session ∨ ∃ before, other = id ∧
      sessions.lookup other = some before ∧ session = { before with status := .failed } := by
  unfold failSession at found
  split at found
  case h_1 before isBefore =>
    by_cases same : other = id
    · subst same
      rw [AList.lookup_insert] at found
      exact .inr ⟨before, rfl, isBefore, (Option.some.inj found).symm⟩
    · rw [AList.lookup_insert_ne same] at found
      exact .inl found
  case h_2 => exact .inl found

/-- What mints is a commit whose grant stands in the state before. -/
theorem Took.minted (took : Took crates state w event w') {id : String} (mints : event.Mints id) :
    ∃ headers body snapshot, event.origin = .resumed (.captureCommit id headers body snapshot) ∧
      ∃ grant : CaptureGrant crates state w.inner id snapshot event.env.host,
        w'.inner = grant.after := by
  obtain ⟨headers, body, snapshot, value, origin, reply⟩ := mints
  cases took.sessionStep with
  | kept _ notMinted => exact absurd reply (notMinted _ _ _ _ _ origin)
  | opened _ _ origin' => cases origin.symm.trans origin'
  | denied _ notAnswered => exact absurd reply (notAnswered _)
  | minted origin' grant _ inner =>
      cases origin.symm.trans origin'
      exact ⟨headers, body, snapshot, origin, grant, inner⟩

theorem CaptureGrant.resolves {s : VolatileState} {id : String} {snapshot : CaptureSnapshot}
    {host : Host} (grant : CaptureGrant crates state s id snapshot host) :
    grant.after.captureSessions.lookup id =
      some (grant.session.resolved grant.credential grant.credentialMdoc) :=
  AList.lookup_insert _

/-- A commit whose grant stands in the state before is answered and stores the credentials. -/
theorem Took.committed (took : Took crates state w event w') {id : String} {headers : HeaderMap}
    {body : Bytes} {snapshot : CaptureSnapshot}
    (origin : event.origin = .resumed (.captureCommit id headers body snapshot))
    (grant : CaptureGrant crates state w.inner id snapshot event.env.host) :
    event.reply = .ok (.finished (.json
        (issuedResponse crates state grant.credential grant.credentialMdoc))) ∧
      w'.inner = grant.after ∧ event.log = [.bindingJti grant.verified.jti] := by
  have committed := (returns_bind_pure _ (fun value => Progress.finished (.json value)) _ _ _ _).mpr
    ⟨_, (captureCommit_returns _).mpr ⟨grant, rfl, rfl, rfl⟩, rfl⟩
  have ran := took.ran
  rw [origin] at ran
  obtain ⟨reply, inner, log⟩ := Outcome.mk.inj (ran.symm.trans committed)
  exact ⟨reply, inner, log⟩

theorem Took.mints (took : Took crates state w event w') {id : String} {headers : HeaderMap}
    {body : Bytes} {snapshot : CaptureSnapshot}
    (origin : event.origin = .resumed (.captureCommit id headers body snapshot))
    (grant : CaptureGrant crates state w.inner id snapshot event.env.host) : event.Mints id :=
  ⟨headers, body, snapshot, _, origin, (took.committed origin grant).1⟩

/-- A commit that the kernel denies fails its session. -/
theorem Took.fails (took : Took crates state w event w') {id : String} {headers : HeaderMap}
    {body : Bytes} {snapshot : CaptureSnapshot} {session : CaptureSession}
    (origin : event.origin = .resumed (.captureCommit id headers body snapshot))
    (refused : CaptureDenied crates state w.inner snapshot event.env.host)
    (found : w.inner.captureSessions.lookup id = some session) :
    w'.inner.captureSessions.lookup id = some { session with status := .failed } := by
  obtain ⟨t, log, rejected, sessions⟩ : ∃ t log,
      Rejects (captureCommit crates state id snapshot event.env.host) w.inner t log ∧
        t.captureSessions = failSession w.inner.captureSessions id :=
    captureCommit_denied refused
  obtain ⟨failure, same⟩ := (rejects_bind_pure (captureCommit crates state id snapshot
    event.env.host) (fun value => Progress.finished (.json value)) _ _ _).mpr rejected
  have ran := took.ran
  rw [origin] at ran
  rw [(Outcome.mk.inj (ran.symm.trans same)).2.1, sessions, failSession_lookup found, if_pos rfl]

/-- The condition on one commit. -/
def InOrder (crates : Crates) (state : AppState) (s : VolatileState) (event : Event) : Prop :=
  ∀ {id : String} {headers : HeaderMap} {body : Bytes} {snapshot : CaptureSnapshot}
    {session : CaptureSession},
    event.origin = .resumed (.captureCommit id headers body snapshot) →
    s.captureSessions.lookup id = some session →
    session.status = .awaitingEvidence ∨
      CommitHarmless crates state s id snapshot event.env.host session.status

theorem Took.statusKept (took : Took crates state w event w') (grounded : w.Grounded)
    (inOrder : InOrder crates state w.inner event) : StatusKept w.inner w'.inner := by
  intro id session found resolved
  cases took.sessionStep with
  | kept same => exact ⟨session, by rw [same]; exact found, rfl⟩
  | opened request opened origin asOpened sessions =>
      have draws : event.origin.draws crates event.env =
          some [.uuid event.env.uuid, .token (randomToken crates event.env.octets)] := by
        rw [origin]
        rfl
      refine ⟨session, ?_, rfl⟩
      rw [sessions]
      refine (AList.lookup_insert_ne ?_).trans found
      rintro rfl
      exact (took.drew draws (.head _)).1
        (VolatileState.Grounded.sessions grounded (mem_of_lookup found))
  | @denied failedId headers body snapshot origin notAnswered refused sessions =>
      rw [sessions]
      refine ⟨_, failSession_lookup found, ?_⟩
      by_cases same : id = failedId
      · subst same
        obtain ⟨_, notIssued⟩ := (inOrder origin found).resolve_left resolved
        rw [if_pos rfl]
        cases status : session.status with
        | awaitingEvidence => exact absurd status resolved
        | issued => exact absurd ⟨refused, status⟩ notIssued
        | failed => rfl
      · rw [if_neg same]
  | @minted mintedId headers body snapshot origin grant reply inner =>
      rw [inner]
      by_cases same : id = mintedId
      · subst same
        exact absurd ⟨grant⟩ ((inOrder origin found).resolve_left resolved).1
      · exact ⟨session, (AList.lookup_insert_ne same).trans found, rfl⟩

theorem Took.consistent (took : Took crates state w event w') (before : w.inner.Consistent)
    (inOrder : InOrder crates state w.inner event) : w'.inner.Consistent := by
  intro id session found
  cases took.sessionStep with
  | kept same => rw [same] at found; exact before found
  | opened request opened origin asOpened sessions =>
      rw [sessions] at found
      rcases lookup_insert_cases found with ⟨rfl, rfl⟩ | found
      · simp [CaptureSession.Consistent, asOpened.noCredential, asOpened.awaiting]
      · exact before found
  | denied origin notAnswered refused sessions =>
      rw [sessions] at found
      rcases failSession_lookup_cases found with found | ⟨earlier, rfl, isEarlier, rfl⟩
      · exact before found
      · have notIssued : earlier.status ≠ .issued := by
          intro issued
          rcases inOrder origin isEarlier with awaiting | ⟨_, harmless⟩
          · rw [issued] at awaiting
            cases awaiting
          · exact harmless ⟨refused, issued⟩
        have without := mt (before isEarlier).mp notIssued
        exact iff_of_false without (by rintro ⟨⟩)
  | minted origin grant reply inner =>
      rw [inner] at found
      rcases lookup_insert_cases found with ⟨rfl, rfl⟩ | found
      · exact iff_of_true ⟨rfl, rfl⟩ rfl
      · exact before found

end Steps

section Runs

variable {crates : Crates} {state : AppState} {instances : StringMap RegisteredInstance}
  {trace earlier later : List Event} {w : World}

theorem CommitsInOrder.before {initial : World}
    (inOrder : CommitsInOrder crates state initial (earlier ++ later)) :
    CommitsInOrder crates state initial earlier := by
  intro first s event id headers body snapshot session taken origin found
  exact inOrder (taken.append later) origin found

/-- In a run whose commits are in order every session that minted is issued. -/
theorem run_inOrder
    (run : (process crates state).Execution (World.initial instances) trace w)
    (inOrder : CommitsInOrder crates state (World.initial instances) trace) :
    w.inner.Consistent ∧ ∀ event ∈ trace, ∀ id, event.Mints id →
      ∃ session, w.inner.captureSessions.lookup id = some session ∧ session.status = .issued := by
  refine run.history (P := fun trace w =>
    CommitsInOrder crates state (World.initial instances) trace → w.inner.Consistent ∧
      ∀ event ∈ trace, ∀ id, event.Mints id →
        ∃ session, w.inner.captureSessions.lookup id = some session ∧ session.status = .issued)
    ?_ ?_ inOrder
  · intro _
    refine ⟨?_, fun event member => absurd member List.not_mem_nil⟩
    intro id session found
    cases found
  · intro trace s action t event before held stepped inOrder
    have took := step_took stepped
    obtain ⟨consistent, minted⟩ := held inOrder.before
    have now : InOrder crates state s.inner event := fun origin found =>
      inOrder ⟨action, t, [], rfl, before, stepped⟩ origin found
    refine ⟨took.consistent consistent now, ?_⟩
    intro other member id mints
    rcases List.mem_append.mp member with earlier | last
    · obtain ⟨session, found, issued⟩ := minted other earlier id mints
      obtain ⟨after, found', same⟩ := took.statusKept (run_grounded before) now found
        (by rw [issued]; rintro ⟨⟩)
      exact ⟨after, found', same.trans issued⟩
    · cases List.mem_singleton.mp last
      obtain ⟨_, _, _, _, grant, inner⟩ := took.minted mints
      rw [inner]
      exact ⟨_, grant.resolves, rfl⟩

/-- In every run an issued session has minted. -/
theorem run_issued_minted
    (run : (process crates state).Execution (World.initial instances) trace w) :
    ∀ {id : String} {session : CaptureSession},
      w.inner.captureSessions.lookup id = some session → session.status = .issued →
      ∃ event ∈ trace, event.Mints id := by
  refine run.history (P := fun trace w => ∀ {id : String} {session : CaptureSession},
    w.inner.captureSessions.lookup id = some session → session.status = .issued →
    ∃ event ∈ trace, event.Mints id) ?_ ?_
  · intro id session found
    cases found
  · intro trace s action t event _ held stepped id session found issued
    have earlier : ∀ {session}, s.inner.captureSessions.lookup id = some session →
        session.status = .issued → ∃ other ∈ trace ++ [event], other.Mints id := by
      intro session found issued
      obtain ⟨other, member, mints⟩ := held found issued
      exact ⟨other, List.mem_append_left _ member, mints⟩
    cases (step_took stepped).sessionStep with
    | kept same => rw [same] at found; exact earlier found issued
    | opened request opened origin asOpened sessions =>
        rw [sessions] at found
        rcases lookup_insert_cases found with ⟨rfl, rfl⟩ | found
        · cases asOpened.awaiting.symm.trans issued
        · exact earlier found issued
    | denied origin notAnswered refused sessions =>
        rw [sessions] at found
        rcases failSession_lookup_cases found with found | ⟨_, _, _, rfl⟩
        · exact earlier found issued
        · cases issued
    | minted origin grant reply inner =>
        rw [inner] at found
        rcases lookup_insert_cases found with ⟨rfl, rfl⟩ | found
        · exact ⟨event, List.mem_append_right _ (.head _), _, _, _, _, origin, reply⟩
        · exact earlier found issued

/-- The sessions of a run resolve once exactly when its commits are in order. -/
theorem resolvesOnce_iff
    (run : (process crates state).Execution (World.initial instances) trace w) :
    ResolvesOnce crates state (World.initial instances) trace ↔
      CommitsInOrder crates state (World.initial instances) trace := by
  constructor
  · rintro once earlier s event id headers body snapshot session
      ⟨action, t, later, split, before, stepped⟩ origin found
    have took := step_took stepped
    by_cases awaiting : session.status = .awaitingEvidence
    · exact .inl awaiting
    · obtain ⟨after, found', kept⟩ := once.terminal split before stepped found awaiting
      refine .inr ⟨?_, ?_⟩
      · rintro ⟨grant⟩
        have mints := took.mints origin grant
        obtain ⟨_, _, _, _, minting, inner⟩ := took.minted mints
        rw [inner, minting.resolves] at found'
        cases found'
        obtain ⟨other, member, mintsToo⟩ := run_issued_minted before found kept.symm
        exact atMostOnce_iff.mp (once.minted id) _ _ _ split mints other member mintsToo
      · rintro ⟨refused, issued⟩
        have failed := took.fails origin refused found
        cases (Option.some.inj (found'.symm.trans failed))
        cases kept.trans issued
  · intro inOrder
    refine ⟨?_, ?_, ?_⟩
    · intro id
      rw [atMostOnce_iff]
      rintro earlier event later rfl mints other member mintsToo
      obtain ⟨s, action, t, rest, split, before, stepped⟩ := run.stepAt
      obtain ⟨session, found, issued⟩ := (run_inOrder before inOrder.before).2 other member id
        mintsToo
      obtain ⟨_, _, _, origin, grant, _⟩ := (step_took stepped).minted mints
      rcases inOrder ⟨action, t, rest, split, before, stepped⟩ origin found with awaiting | harmless
      · cases issued.symm.trans awaiting
      · exact harmless.1 ⟨grant⟩
    · rintro earlier later event action s t rfl before stepped
      exact fun found resolved => (step_took stepped).statusKept (run_grounded before)
        (fun origin found => inOrder ⟨action, t, later, rfl, before, stepped⟩ origin found) found
        resolved
    · rintro earlier later s rfl before
      exact (run_inOrder before inOrder.before).1

end Runs

/-! ### Sessions of a traveller -/

/-- The one submission of a run finds its session waiting. -/
theorem resolvesOnce_capture :
    ∃ trace w, (process reference capturingState).Execution (World.initial ∅) trace w ∧
      (∃ event ∈ trace, event.Mints "session") ∧
      ResolvesOnce reference capturingState (World.initial ∅) trace := by
  obtain ⟨before, commit, w, waiting, others, run, ⟨_, _, reply⟩, origin⟩ :=
    @capture_run "first" (by decide)
  refine ⟨_, w, run, ⟨commit, List.mem_append_right _ (.head _), _, _, _, _, origin, reply⟩, ?_⟩
  refine (resolvesOnce_iff run).mpr ?_
  rintro earlier s event id headers body snapshot session ⟨_, _, later, split, reached, _⟩ committed
    found
  -- Only the last event is a commit, so the step started where the session was waiting.
  rcases List.eq_nil_or_concat later with rfl | ⟨rest, last, rfl⟩
  · obtain ⟨rfl, same⟩ := List.append_inj' split rfl
    obtain rfl := List.singleton_inj.mp same
    cases origin.symm.trans committed
    rw [run_inner_unique reached waiting, openedState_session] at found
    exact .inl (Option.some.inj found ▸ rfl)
  · rw [List.concat_eq_append, ← List.cons_append, ← List.append_assoc] at split
    have inside := (List.append_inj' split rfl).1
    refine absurd committed (others event ?_ _ _ _ _)
    rw [inside]
    exact List.mem_append_right _ (.head _)

/-- Two overlapping submissions with different attestations mint two credential pairs. -/
theorem overlapping_submissions_mint_twice :
    ∃ trace w, (process reference capturingState).Execution (World.initial ∅) trace w ∧
      ¬ ResolvesOnce reference capturingState (World.initial ∅) trace := by
  obtain ⟨earlier, event, later, again, w, run, origin, originToo, ⟨_, reply⟩, _, replyToo⟩ :=
    @overlapping_run "first" "second" (by decide) (by decide) (by decide)
  refine ⟨_, w, run, fun once => ?_⟩
  exact atMostOnce_iff.mp (once.minted "session") _ again [] rfl ⟨_, _, _, _, originToo, replyToo⟩
    event (by simp) ⟨_, _, _, _, origin, reply⟩

end VCIssuer.Service
