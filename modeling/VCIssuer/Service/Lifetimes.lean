import VCIssuer.Service.Reissue

/-!
# Advertised lifetimes

A request URI, an access token and a nonce are handed out with a lifetime.  The
records behind them keep no time, so a late use is refused exactly when the same
use would have been refused in time.
-/

namespace VCIssuer.Service

open VCIssuer.Library
open VCIssuer.Library.Critical

/-! ## Uses -/

/-- The authorization endpoint accepts this request URI. -/
def Event.AcceptsUri (event : Event) (uri : String) : Prop :=
  ∃ request task, event.origin = .arrived (.authorize request) ∧ request.requestUri = uri ∧
    event.reply = .ok (.suspended task)

def Event.HandsOutNonce (event : Event) (cNonce : String) : Prop :=
  ∃ response, event.reply = .ok (.finished (.nonce response)) ∧ response.cNonce = cNonce

/-- The credential request carries one proof, which is accepted and names this nonce. -/
def PresentsNonce (crates : Crates) (state : AppState) (request : CredentialRequest)
    (env : Environment) (cNonce : String) : Prop :=
  ∃ compact verified, request.proofs = [compact] ∧
    verifyCredentialProof crates compact state.issuer env.proofClock = .ok verified ∧
    verified.nonce = cNonce

/-- The clock readings of a step, in the order in which it takes them. -/
def Event.readings (event : Event) : List UInt64 :=
  [event.env.dpopClock, event.env.proofClock, event.env.clock].filterMap id

/-- No reading of the run is earlier than one before it. -/
def Monotone (trace : List Event) : Prop :=
  (trace.flatMap Event.readings).Pairwise (· ≤ ·)

/-- Whatever the endpoints accept, they accept within its advertised lifetime. -/
structure LifetimesEnforced (crates : Crates) (state : AppState) (trace : List Event) : Prop where
  requestUri : ∀ {earlier later : List Event} {event call : Event} {uri : String}
    {request : ParRequest} {tlsnEvidence : Option VerifiedTlsnEvidence} {t₀ t : UInt64},
    trace = earlier ++ event :: later → call ∈ earlier →
    ParCall state call uri request tlsnEvidence → event.AcceptsUri uri →
    call.env.clock = some t₀ → event.env.clock = some t → t.toNat ≤ t₀.toNat + 60
  accessToken : ∀ {earlier later : List Event} {event call : Event}
    {accessToken jkt configurationId : String} {headers : HeaderMap} {request : TokenRequest}
    {t₀ t : UInt64},
    trace = earlier ++ event :: later → call ∈ earlier →
    TokenCall crates call accessToken jkt headers request →
    event.IssuesFor accessToken configurationId →
    call.env.dpopClock = some t₀ → event.env.clock = some t → t.toNat ≤ t₀.toNat + 300
  cNonce : ∀ {earlier later : List Event} {event call : Event} {cNonce : String} {t₀ t : UInt64},
    trace = earlier ++ event :: later → call ∈ earlier → call.HandsOutNonce cNonce →
    event.ConsumesNonce crates state cNonce →
    call.env.clock = some t₀ → event.env.clock = some t → t.toNat ≤ t₀.toNat + 300

/-- Every late use fails a check that is not about time: the request URI is used up or belongs to
another client, the token does not cover the request, or the request's own evidence is not
fresh. -/
structure LateUsesFail (crates : Crates) (state : AppState) (origin : World)
    (trace : List Event) : Prop where
  requestUri : ∀ {earlier : List Event} {s : World} {event call : Event} {uri : String}
    {parRequest : ParRequest} {tlsnEvidence : Option VerifiedTlsnEvidence}
    {request : AuthorizationRequest} {t₀ t : UInt64},
    (process crates state).StepAt origin trace earlier s event → call ∈ earlier →
    ParCall state call uri parRequest tlsnEvidence → call.env.clock = some t₀ →
    event.origin = .arrived (.authorize request) → request.requestUri = uri →
    event.env.clock = some t → t₀.toNat + 60 < t.toNat →
    ¬ (uri ∈ s.inner.pushed ∧ parRequest.clientId = request.clientId)
  accessToken : ∀ {earlier : List Event} {s : World} {event call : Event}
    {accessToken jkt : String} {tokenHeaders headers : HeaderMap} {tokenRequest : TokenRequest}
    {request : CredentialRequest} {access : AccessToken} {t₀ t : UInt64},
    (process crates state).StepAt origin trace earlier s event → call ∈ earlier →
    TokenCall crates call accessToken jkt tokenHeaders tokenRequest →
    call.env.dpopClock = some t₀ → event.origin = .arrived (.credential headers request) →
    event.env.clock = some t → t₀.toNat + 300 < t.toNat →
    Covered s.inner headers request accessToken access →
    ¬ FreshEvidence crates state s.inner headers request event.env access
  cNonce : ∀ {earlier : List Event} {s : World} {event call : Event} {cNonce : String}
    {headers : HeaderMap} {request : CredentialRequest} {accessToken : String}
    {access : AccessToken} {t₀ t : UInt64},
    (process crates state).StepAt origin trace earlier s event → call ∈ earlier →
    call.HandsOutNonce cNonce → call.env.clock = some t₀ →
    event.origin = .arrived (.credential headers request) →
    PresentsNonce crates state request event.env cNonce →
    event.env.clock = some t → t₀.toNat + 300 < t.toNat →
    Covered s.inner headers request accessToken access →
    ¬ FreshEvidence crates state s.inner headers request event.env access

section Uses

variable {crates : Crates} {state : AppState} {instances : StringMap RegisteredInstance}
  {trace : List Event} {w w' : World} {event call : Event}

/-- A request URI that was handed out is accepted as long as it is pushed, at whatever time. -/
theorem acceptsUri_iff
    (run : (process crates state).Execution (World.initial instances) trace w)
    (member : call ∈ trace) {uri : String} {parRequest : ParRequest}
    {tlsnEvidence : Option VerifiedTlsnEvidence}
    (pushes : ParCall state call uri parRequest tlsnEvidence)
    (took : Took crates state w event w') {request : AuthorizationRequest}
    (origin : event.origin = .arrived (.authorize request)) (same : request.requestUri = uri) :
    event.AcceptsUri uri ↔ uri ∈ w.inner.pushed ∧ parRequest.clientId = request.clientId := by
  -- The pushed record is the one that this very call made.
  have recorded : ∀ {pushed : PushedAuthorization}, w.inner.pushed.lookup uri = some pushed →
      pushed = pushedOf parRequest tlsnEvidence := by
    intro pushed found
    obtain ⟨other, member', parRequest', tlsnEvidence', pushes', rfl⟩ :=
      (run_traced run).pushed found
    have once : AtMostOnce (fun call => ∃ request tlsnEvidence,
        ParCall state call uri request tlsnEvidence) trace := by
      rw [pushes.made]
      exact atMostOnce_of_mark (run_draws run) fun _ _ ⟨_, _, call⟩ => call.draws
    cases once.eq member' member ⟨_, _, pushes'⟩ ⟨_, _, pushes⟩
    cases pushes.origin.symm.trans pushes'.origin
    rfl
  subst same
  constructor
  · rintro ⟨_, task, origin', _, reply⟩
    have returned := took.returned reply
    rw [origin] at returned
    obtain ⟨pushed, answered, _⟩ := (returns_bind_pure _ _ _ _ _ _).mp returned
    obtain ⟨found, client, _⟩ := (authorize_returns _ _).mp answered
    rw [recorded found] at client
    exact ⟨mem_of_lookup found, client⟩
  · rintro ⟨pushed, client⟩
    obtain ⟨record, found⟩ := Option.isSome_iff_exists.mp (AList.lookup_isSome.mpr pushed)
    have answered := (authorize_returns request record).mpr
      ⟨found, by rw [recorded found]; exact client, rfl, rfl⟩
    have suspended := (returns_bind_pure _
      (fun pushed => Progress.suspended (.authorizeIssue request pushed)) _ _ _ _).mpr
      ⟨record, answered, rfl⟩
    exact ⟨request, _, origin, rfl, took.replied origin suspended⟩

/-- What consumes a nonce is an issuance under some token. -/
theorem Took.consumes_issues (took : Took crates state w event w') {cNonce : String}
    (consumes : event.ConsumesNonce crates state cNonce) :
    ∃ headers request accessToken access,
      event.origin = .arrived (.credential headers request) ∧
      PresentsNonce crates state request event.env cNonce ∧
      Covered w.inner headers request accessToken access ∧
      FreshEvidence crates state w.inner headers request event.env access := by
  obtain ⟨headers, request, response, compact, verified, origin, reply, proofs, accepted, named⟩ :=
    consumes
  obtain ⟨grant, _, _, _⟩ := took.credentialGrant origin reply
  have issues : event.IssuesFor grant.token request.credentialConfigurationId :=
    ⟨headers, request, response, origin, reply, grant.tokenGiven, rfl⟩
  obtain ⟨access, covered⟩ := took.covered origin issues
  exact ⟨headers, request, grant.token, access, origin,
    ⟨compact, verified, proofs, accepted, named⟩, covered,
    (issuesFor_iff_freshEvidence took origin covered).mp issues⟩

end Uses

/-- The lifetimes of a run are enforced exactly when every late use happens to fail another
check. -/
theorem lifetimes_enforced_iff {crates : Crates} {state : AppState}
    {instances : StringMap RegisteredInstance} {trace : List Event} {w : World}
    (run : (process crates state).Execution (World.initial instances) trace w) :
    LifetimesEnforced crates state trace ↔
      LateUsesFail crates state (World.initial instances) trace := by
  constructor
  · intro enforced
    refine ⟨?_, ?_, ?_⟩
    · intro earlier s event call uri parRequest tlsnEvidence request t₀ t stepAt member pushes
        handedOut origin same now late acceptable
      obtain ⟨action, u, later, split, before, stepped⟩ := stepAt
      have accepts := (acceptsUri_iff before member pushes (step_took stepped) origin same).mpr
        acceptable
      have inTime := enforced.requestUri split member pushes accepts handedOut now
      omega
    · intro earlier s event call accessToken jkt tokenHeaders headers tokenRequest request access t₀
        t stepAt member redeems handedOut origin now late covered fresh
      obtain ⟨action, u, later, split, before, stepped⟩ := stepAt
      have issues := (issuesFor_iff_freshEvidence (step_took stepped) origin covered).mpr fresh
      have inTime := enforced.accessToken split member redeems issues handedOut now
      omega
    · intro earlier s event call cNonce headers request accessToken access t₀ t stepAt member
        handsOut handedOut origin presents now late covered fresh
      obtain ⟨action, u, later, split, before, stepped⟩ := stepAt
      have issues := (issuesFor_iff_freshEvidence (step_took stepped) origin covered).mpr fresh
      obtain ⟨compact, verified, proofs, accepted, named⟩ := presents
      obtain ⟨_, _, response, origin', reply, _, _⟩ := issues
      cases origin.symm.trans origin'
      have inTime := enforced.cNonce split member handsOut
        ⟨headers, request, response, compact, verified, origin, reply, proofs, accepted, named⟩
        handedOut now
      omega
  · intro fails
    refine ⟨?_, ?_, ?_⟩
    · intro earlier later event call uri parRequest tlsnEvidence t₀ t split member pushes accepts
        handedOut now
      subst split
      obtain ⟨s, action, u, rest, split, before, stepped⟩ := run.stepAt
      obtain ⟨request, _, origin, same, _⟩ := id accepts
      have acceptable := (acceptsUri_iff before member pushes (step_took stepped) origin same).mp
        accepts
      by_contra late
      exact fails.requestUri ⟨action, u, rest, split, before, stepped⟩ member pushes handedOut
        origin same now (by omega) acceptable
    · intro earlier later event call accessToken jkt configurationId headers tokenRequest t₀ t split
        member redeems issues handedOut now
      subst split
      obtain ⟨s, action, u, rest, split, before, stepped⟩ := run.stepAt
      obtain ⟨_, request, _, origin, _, _, rfl⟩ := id issues
      obtain ⟨access, covered⟩ := (step_took stepped).covered origin issues
      have fresh := (issuesFor_iff_freshEvidence (step_took stepped) origin covered).mp issues
      by_contra late
      exact fails.accessToken ⟨action, u, rest, split, before, stepped⟩ member redeems handedOut
        origin now (by omega) covered fresh
    · intro earlier later event call cNonce t₀ t split member handsOut consumes handedOut now
      subst split
      obtain ⟨s, action, u, rest, split, before, stepped⟩ := run.stepAt
      obtain ⟨headers, request, accessToken, access, origin, presents, covered, fresh⟩ :=
        (step_took stepped).consumes_issues consumes
      by_contra late
      exact fails.cNonce ⟨action, u, rest, split, before, stepped⟩ member handsOut handedOut origin
        presents now (by omega) covered fresh

theorem lifetimes_enforced_iff_reference :
    ∃ trace w, (process reference referenceState).Execution (World.initial ∅) trace w ∧
      (LifetimesEnforced reference referenceState trace ↔
        LateUsesFail reference referenceState (World.initial ∅) trace) := by
  obtain ⟨_, _, w, _, _, _, run, _⟩ := reference_issuance
  exact ⟨_, w, run, lifetimes_enforced_iff run⟩

/-- A request URI with a lifetime of 60 seconds is accepted after 1000 seconds. -/
theorem reference_authorizes_late :
    ∃ trace w, (process reference referenceState).Execution (World.initial ∅) trace w ∧
      Monotone trace ∧ ¬ LifetimesEnforced reference referenceState trace := by
  have valid : validScope qeaaSdJwt false = true := by decide +kernel
  have pushed : (process reference referenceState).Execution (World.initial ∅) _ _ :=
    push_run (.steady referenceHost 1000 "" [] []) (.steady referenceHost 1000 "request" [] [])
      ((referenceClient qeaaSdJwt).par_checked valid _ _) List.not_mem_nil
  have accepted := pushed.trans (authorize_run (.steady referenceHost 2000 "" [] [])
    (.steady referenceHost 2000 "" (List.replicate 32 1) [])
    ⟨"wallet-dev", requestUriOf "request"⟩ (AList.lookup_insert _) rfl (by simp))
  refine ⟨_, _, accepted, ?_, fun enforced => ?_⟩
  · simp only [Monotone, Environment.steady, Event.readings, List.cons_append, List.nil_append,
      List.flatMap_cons, List.flatMap_nil, List.filterMap_cons, List.filterMap_nil, id]
    decide
  · have call : ParCall referenceState
        ⟨.resumed (.parPush ((referenceClient qeaaSdJwt).parRequest none) none),
          .steady referenceHost 1000 "request" [] [],
          .ok (.finished (.pushed ⟨requestUriOf "request", 60⟩)), []⟩
        (requestUriOf "request") ((referenceClient qeaaSdJwt).parRequest none) none :=
      ⟨rfl, rfl, rfl, valid⟩
    have late := enforced.requestUri (show _ = [_, _] ++ _ :: _ from rfl) (.tail _ (.head _)) call
      ⟨_, _, rfl, rfl, rfl⟩ rfl rfl
    exact absurd late (by decide)

end VCIssuer.Service
