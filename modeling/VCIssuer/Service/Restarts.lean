import VCIssuer.Library.Epochs
import VCIssuer.Service.AppAttestOnce
import VCIssuer.Service.CaptureSoundness
import VCIssuer.Service.History

/-!
# Restarts

A restart loses every table but the App Attest instances.  Between two restarts
the service is a fresh process, so whatever it has handed out is good until the
next restart and no longer.  What was drawn at random is used once in the whole
life of the deployment; an identifier that clients choose is refused again only
until the next restart.
-/

namespace VCIssuer.Service

open VCIssuer.Library
open VCIssuer.Library.Critical

/-! ## Epochs of a deployment -/

def DeploymentEvent.event : DeploymentEvent → Option Event
  | .served event => some event
  | .restarted => none

/-- The events since the last restart. -/
def sinceRestart (trace : List DeploymentEvent) : List Event :=
  Epochs.epoch DeploymentEvent.event trace

section Epochs

variable {crates : Crates} {state : AppState} {store : StringMap RegisteredInstance}
  {trace earlier later : List DeploymentEvent} {d : Deployment} {event : Event}

/-- What was drawn before a step only forbids to draw it again. -/
theorem execute_forgets {w w' : World} {waiting : List Task} {origin : Origin}
    {env : Environment} {fewer : List Draw} (subset : fewer ⊆ w.drawn)
    (executed : execute crates state w waiting origin env = some (w', event)) :
    ∃ fewer', fewer' ⊆ w'.drawn ∧
      execute crates state { w with drawn := fewer } waiting origin env =
        some ({ w' with drawn := fewer' }, event) := by
  unfold execute at executed ⊢
  split at executed
  case h_1 => cases executed
  case h_2 draws _ =>
    split at executed
    case isTrue fresh =>
      cases executed
      have still : ∀ draw ∈ draws, draw ∉ fewer := fun draw member found =>
        fresh draw member (subset found)
      refine ⟨fewer ++ draws, List.append_subset.mpr ⟨List.Subset.trans subset
        (List.subset_append_left _ _), List.subset_append_right _ _⟩, ?_⟩
      simp only [if_pos still]
    case isFalse => cases executed

/-- A run goes the same way when less was drawn before it. -/
theorem run_forgets {w w' : World} {events : List Event} {fewer : List Draw}
    (subset : fewer ⊆ w.drawn) (run : (process crates state).Execution w events w') :
    ∃ fewer', fewer' ⊆ w'.drawn ∧
      (process crates state).Execution { w with drawn := fewer } events
        { w' with drawn := fewer' } := by
  induction run with
  | start => exact ⟨fewer, subset, .start⟩
  | @step _ s t action event _ accepted carried =>
      obtain ⟨before, still, ran⟩ := carried
      change step crates state s action = _ at accepted
      have again : ∃ after, after ⊆ t.drawn ∧
          (process crates state).step { s with drawn := before } action =
            some ({ t with drawn := after }, event) := by
        change ∃ after, after ⊆ t.drawn ∧ step crates state { s with drawn := before } action =
          some ({ t with drawn := after }, event)
        cases action with
        | arrive request env => exact execute_forgets still accepted
        | resume index env =>
            simp only [step] at accepted ⊢
            split at accepted
            case h_1 => cases accepted
            case h_2 => exact execute_forgets still accepted
      obtain ⟨after, kept, stepped⟩ := again
      exact ⟨after, kept, ran.step stepped⟩

/-- Since the last restart a deployment has run like a process of its own. -/
theorem deployment_epoch (run : (deployment crates state).Execution (.initial store) trace d) :
    ∃ instances fewer, (process crates state).Execution (World.initial instances)
      (sinceRestart trace) { d.world with drawn := fewer } := by
  have epoch := Epochs.execution (M := process crates state) DeploymentEvent.event Deployment.world
    (fun w => ∃ instances drawn, w = { World.initial instances with drawn := drawn })
    ⟨store, [], rfl⟩ ?_ ?_ run
  · obtain ⟨_, ⟨instances, drawn, rfl⟩, ran⟩ := epoch
    obtain ⟨fewer, _, ran⟩ := run_forgets (List.nil_subset _) ran
    exact ⟨instances, fewer, ran⟩
  · intro d operation d' event seen stepped shown
    cases operation with
    | act action =>
        obtain ⟨⟨w, served⟩, accepted, same⟩ := Option.map_eq_some_iff.mp stepped
        cases same
        cases shown
        exact ⟨action, accepted⟩
    | restart =>
        cases stepped
        cases shown
  · intro d operation d' event stepped shown
    cases deployment_step stepped with
    | served => cases shown
    | restarted => exact ⟨d.store, d.world.drawn, rfl⟩

/-- The process run in front of a step, from the last restart on. -/
theorem deployment_at_event
    (run : (deployment crates state).Execution (.initial store)
      (earlier ++ .served event :: later) d) :
    ∃ instances w w', (process crates state).Execution (World.initial instances)
      (sinceRestart earlier) w ∧ Took crates state w event w' ∧
      (process crates state).Execution (World.initial instances)
        (sinceRestart earlier ++ [event]) w' := by
  rw [List.append_cons] at run
  obtain ⟨_, run, _⟩ := run.split
  obtain ⟨instances, fewer, whole⟩ := deployment_epoch run
  have grown : sinceRestart (earlier ++ [.served event]) = sinceRestart earlier ++ [event] :=
    Epochs.epoch_seen rfl
  rw [grown] at whole
  obtain ⟨w, w', _, before, stepped, after⟩ := whole.at_event
  cases after.of_nil
  exact ⟨instances, w, _, before, step_took stepped, whole⟩

/-- No value is drawn twice in the life of a deployment. -/
theorem deployment_draws (run : (deployment crates state).Execution (.initial store) trace d) :
    ((trace.filterMap DeploymentEvent.event).flatMap (Event.draws crates)).Nodup := by
  let draws (event : DeploymentEvent) : List Draw :=
    (DeploymentEvent.event event).toList.flatMap (Event.draws crates)
  have respects : True ∧ Respects (fun (d : Deployment) draw => draw ∈ d.world.drawn)
      (.initial store) (trace.flatMap draws) d :=
    run.respects (I := fun _ => True) trivial ?_
  · rw [List.filterMap_eq_flatMap_toList, List.flatMap_assoc]
    exact respects.2.nodup
  · intro d operation d' event _ stepped
    refine ⟨trivial, ?_⟩
    cases deployment_step stepped with
    | restarted => exact .of_kept fun _ held => held
    | @served served _ took =>
        have drew := took.draws_respect
        have same : draws (.served served) = served.draws crates :=
          List.flatMap_singleton ..
        exact same ▸ ⟨drew.nodup, drew.unspent, drew.nowSpent, drew.kept⟩

end Epochs

/-! ## What a use rests on -/

/-- Whatever the event accepts was handed out by one of these events. -/
structure RestsOn (crates : Crates) (state : AppState) (recent : List Event) (event : Event) :
    Prop where
  requestUri : ∀ uri, event.YieldsCode uri →
    ∃ call ∈ recent, ∃ request tlsnEvidence, ParCall state call uri request tlsnEvidence
  code : ∀ code, event.YieldsToken code →
    ∃ call ∈ recent, ∃ request pushed, AuthorizeCall crates call code request pushed
  accessToken : ∀ accessToken configurationId, event.IssuesFor accessToken configurationId →
    ∃ call ∈ recent, ∃ jkt headers request, TokenCall crates call accessToken jkt headers request
  cNonce : ∀ cNonce, event.ConsumesNonce crates state cNonce →
    ∃ call ∈ recent, call.AnswersNonce cNonce
  challenge : ∀ challenge, event.Registers challenge →
    ∃ call ∈ recent, ∃ expiry, call.IssuesChallenge crates challenge expiry
  captureSession : ∀ id, event.Mints id →
    ∃ call ∈ recent, ∃ request opened, Opening crates state call id request opened

section Backing

variable {crates : Crates} {state : AppState} {instances : StringMap RegisteredInstance}
  {earlier : List Event} {w w' : World} {event : Event}

/-- An outstanding challenge was handed out. -/
theorem run_challenge_issued
    (run : (process crates state).Execution (World.initial instances) earlier w)
    {challenge : String} {expiry : UInt64}
    (found : w.inner.appAttestChallenges.lookup challenge = some expiry) :
    ∃ call ∈ earlier, call.IssuesChallenge crates challenge expiry := by
  revert found
  refine run.history (P := fun trace w =>
    w.inner.appAttestChallenges.lookup challenge = some expiry →
      ∃ call ∈ trace, call.IssuesChallenge crates challenge expiry) (by rintro ⟨⟩) ?_
  intro trace _ _ _ event _ held stepped found
  rcases (step_took stepped).challenge_cases found with before | issues
  · obtain ⟨call, member, issued⟩ := held before
    exact ⟨call, List.mem_append_left _ member, issued⟩
  · exact ⟨event, List.mem_append_right _ (.head _), issues⟩

theorem Took.restsOn (took : Took crates state w event w')
    (past : (process crates state).Execution (World.initial instances) earlier w) :
    RestsOn crates state earlier event where
  requestUri := by
    rintro uri ⟨request, pushed, location, origin, reply, rfl⟩
    obtain ⟨_, call, member, par, tlsnEvidence, made, _⟩ :=
      (run_traced past).authorizing (took.resumed_mem origin)
    exact ⟨call, member, par, tlsnEvidence, made⟩
  code := by
    rintro code ⟨headers, request, response, origin, reply, rfl⟩
    have returned := took.returned reply
    rw [origin] at returned
    obtain ⟨_, answered, _⟩ := (returns_bind_pure _ _ _ _ _ _).mp returned
    obtain ⟨grant, _⟩ := (token_returns _ _ _ _).mp answered
    obtain ⟨call, member, authorization, pushed, made, _⟩ := (run_traced past).codes grant.codeFound
    exact ⟨call, member, authorization, pushed, made⟩
  accessToken := by
    rintro accessToken configurationId ⟨headers, request, response, origin, reply, presented, _⟩
    obtain ⟨grant, _⟩ := took.credentialGrant origin reply
    cases presented.symm.trans grant.tokenGiven
    obtain ⟨call, member, tokenHeaders, tokenRequest, _, made, _⟩ :=
      (run_traced past).tokens grant.accessFound
    exact ⟨call, member, _, tokenHeaders, tokenRequest, made⟩
  cNonce := by
    intro cNonce consumes
    have marked := took.consumesNonce_mark consumes
    obtain ⟨headers, request, response, _, _, origin, reply, _⟩ := consumes
    obtain ⟨grant, _, _, log⟩ := took.credentialGrant origin reply
    rw [log] at marked
    have same : cNonce = grant.holder.verified.nonce := by
      simpa [CredentialGrant.marks] using marked
    rw [same]
    exact ((run_nonces_recorded past _ _).mp grant.nonceUnused).1
  challenge := by
    rintro challenge ⟨request, progress, origin, reply, rfl⟩
    obtain ⟨expiry, _, _, found, _⟩ := took.registers origin reply
    obtain ⟨call, member, issued⟩ := run_challenge_issued past found
    exact ⟨call, member, expiry, issued⟩
  captureSession := by
    intro id mints
    obtain ⟨_, _, _, _, grant, _⟩ := took.minted mints
    obtain ⟨call, member, request, opened, opening, _⟩ := run_opened past grant.found
    exact ⟨call, member, request, opened, opening⟩

/-- A nonce that was handed out was drawn. -/
theorem Took.answersNonce_draws (took : Took crates state w event w') {cNonce : String}
    (answers : event.AnswersNonce cNonce) : Draw.nonce cNonce ∈ event.draws crates := by
  obtain ⟨drawn, handed, draws, _⟩ := took.handsOutNonce answers.1
  cases handed.2.symm.trans answers.2
  rw [Event.draws, draws]
  exact .head _

end Backing

/-! ## The life of a deployment -/

def DeploymentEvent.Shows (P : Event → Prop) (event : DeploymentEvent) : Prop :=
  ∃ served, event.event = some served ∧ P served

/-- What was drawn at random is used once in the life of the deployment, and every other value that
may be used once is used again only after a restart. -/
structure OnceInLife (crates : Crates) (state : AppState) (trace : List DeploymentEvent) : Prop where
  requestUri : ∀ uri, AtMostOnce (DeploymentEvent.Shows (Event.YieldsCode · uri)) trace
  code : ∀ code, AtMostOnce (DeploymentEvent.Shows (Event.YieldsToken · code)) trace
  cNonce : ∀ cNonce,
    AtMostOnce (DeploymentEvent.Shows (Event.ConsumesNonce crates state · cNonce)) trace
  reused : ∀ earlier first between second later m,
    trace = earlier ++ .served first :: between ++ .served second :: later →
    m ∈ first.log → m ∈ second.log → DeploymentEvent.restarted ∈ between

section Life

variable {crates : Crates} {state : AppState} {store : StringMap RegisteredInstance}
  {trace earlier later : List DeploymentEvent} {d : Deployment} {event : Event}

theorem event_eq_some {shown : DeploymentEvent} (same : shown.event = some event) :
    shown = .served event := by
  cases shown with
  | served served =>
      cases same
      rfl
  | restarted => cases same

theorem event_eq_none {shown : DeploymentEvent} (same : shown.event = none) :
    shown = .restarted := by
  cases shown with
  | served => cases same
  | restarted => rfl

/-- What an event uses up was not used since the last restart. -/
theorem deployment_unmarked
    (run : (deployment crates state).Execution (.initial store)
      (earlier ++ .served event :: later) d) {m : Mark} (logged : m ∈ event.log) :
    ∀ other ∈ sinceRestart earlier, m ∉ other.log := by
  obtain ⟨instances, _, _, _, _, whole⟩ := deployment_at_event run
  intro other member logged'
  have nodup := (run_respects (wellformed_initial instances) whole).2.nodup
  rw [List.flatMap_append, List.flatMap_singleton] at nodup
  exact List.disjoint_of_nodup_append nodup (List.mem_flatMap.mpr ⟨other, member, logged'⟩) logged

/-- What uses up a mark, and rests on a value drawn since the last restart, happens once. -/
theorem deployment_once {P : Event → Prop} (m : Mark) (draw : Draw)
    (run : (deployment crates state).Execution (.initial store) trace d)
    (marked : ∀ {w w' event}, Took crates state w event w' → P event → m ∈ event.log)
    (backed : ∀ {recent event}, RestsOn crates state recent event → P event →
      ∃ call ∈ recent, (∃ before after, Took crates state before call after) →
        draw ∈ call.draws crates) :
    AtMostOnce (DeploymentEvent.Shows P) trace := by
  refine Epochs.atMostOnce (m := draw) (deployment_draws run) ?_ ?_
  · rintro earlier shown later event rfl same held other member heldToo
    cases event_eq_some same
    obtain ⟨_, _, _, past, took, _⟩ := deployment_at_event run
    obtain ⟨_, _, tookToo⟩ := event_took past member
    exact deployment_unmarked run (marked took held) other member (marked tookToo heldToo)
  · rintro earlier shown later event rfl same held
    cases event_eq_some same
    obtain ⟨_, _, _, past, took, _⟩ := deployment_at_event run
    obtain ⟨call, member, drew⟩ := backed (took.restsOn past) held
    exact ⟨call, member, drew (event_took past member)⟩

/-- A run of the process after a restart. -/
theorem served_restarted {events : List Event} {w : World}
    (run : (process crates state).Execution (World.initial store) events w) :
    ∃ d, (deployment crates state).Execution (.initial store)
      (.restarted :: events.map .served) d := by
  have restarted : (deployment crates state).step (.initial store) .restart =
      some (.initial store, .restarted) := rfl
  obtain ⟨store', served⟩ := deployment_serves run store
  exact ⟨_, (Machine.Execution.single restarted).trans served⟩

/-- The tables of the authorization flow are the history since the last restart. -/
theorem state_recorded (run : (deployment crates state).Execution (.initial store) trace d) :
    Recorded crates state (sinceRestart trace) d.world.inner := by
  obtain ⟨_, fewer, epoch⟩ := deployment_epoch run
  have recorded : Recorded crates state (sinceRestart trace) { d.world with drawn := fewer }.inner :=
    run_recorded epoch
  exact recorded

theorem state_recorded_reference :
    ∃ trace d, (deployment reference referenceState).Execution (.initial ∅) (.restarted :: trace) d ∧
      (∃ event, .served event ∈ trace ∧ ∃ response,
        event.reply = .ok (.finished (.credential response))) ∧
      Recorded reference referenceState (sinceRestart (.restarted :: trace)) d.world.inner := by
  obtain ⟨earlier, event, w, _, _, response, run, _, reply⟩ := reference_issuance
  obtain ⟨d, served⟩ := served_restarted run
  exact ⟨_, d, served, ⟨event, by simp, response, reply⟩, state_recorded served⟩

/-- An authorization request goes on exactly when its URI was pushed for the same client since the
last restart and nobody has presented it since. -/
theorem authorize_proceeds_iff {request : AuthorizationRequest}
    (run : (deployment crates state).Execution (.initial store)
      (earlier ++ .served event :: later) d)
    (origin : event.origin = .arrived (.authorize request)) :
    (∃ pushed, event.reply = .ok (.suspended (.authorizeIssue request pushed))) ↔
      ∃ pushed, Outstanding state (sinceRestart earlier) request.requestUri pushed ∧
        pushed.clientId = request.clientId := by
  obtain ⟨_, _, _, past, took, _⟩ := deployment_at_event run
  exact took.proceeds_iff past origin

theorem authorize_proceeds_reference :
    ∃ earlier event d request, (deployment reference referenceState).Execution (.initial ∅)
        (.restarted :: earlier ++ [.served event]) d ∧
      event.origin = .arrived (.authorize request) ∧
      ∃ pushed, Outstanding referenceState (sinceRestart (.restarted :: earlier))
          request.requestUri pushed ∧ pushed.clientId = request.clientId := by
  let client := referenceClient qeaaSdJwt
  let env := Environment.steady referenceHost 1000 "request" [] []
  have valid : validScope client.scope referenceState.hybridPqEnabled = true := by decide +kernel
  have checked := client.par_checked valid (some 1000) (.initial ∅)
  have pushed : (process reference referenceState).Execution (World.initial ∅) _ _ :=
    push_run env env checked List.not_mem_nil
  let request : AuthorizationRequest := ⟨client.clientId, requestUriOf "request"⟩
  have found : ((∅ : StringMap PushedAuthorization).insert (requestUriOf "request")
      (pushedOf (client.parRequest none) none)).lookup (requestUriOf "request") =
        some (pushedOf (client.parRequest none) none) := AList.lookup_insert _
  have taken := (authorize_returns (s := { VolatileState.initial ∅ with
    pushed := AList.insert (requestUriOf "request") (pushedOf (client.parRequest none) none) ∅ })
    request (pushedOf (client.parRequest none) none)).mpr ⟨found, rfl, rfl, rfl⟩
  have returned := (returns_bind_pure _ (fun pushed => Progress.suspended (.authorizeIssue request
    pushed)) _ _ _ _).mpr ⟨_, taken, rfl⟩
  have drew : Origin.draws reference env (.arrived (.authorize request)) = some [] := rfl
  have run := pushed.trans (arrive_run drew (by simp) returned)
  obtain ⟨d, served⟩ := served_restarted run
  rw [List.map_append, ← List.cons_append] at served
  exact ⟨_, _, d, request, served, rfl, (authorize_proceeds_iff served rfl).mp ⟨_, rfl⟩⟩

/-- A code is worth a token exactly until it has been redeemed or the service restarts, to the
client that pushed the request and knows its verifier, with a DPoP proof that was not accepted
since the last restart. -/
theorem token_answers_iff {headers : HeaderMap} {request : TokenRequest}
    (run : (deployment crates state).Execution (.initial store)
      (earlier ++ .served event :: later) d)
    (origin : event.origin = .arrived (.token headers request)) :
    (∃ response, event.reply = .ok (.finished (.token response))) ↔
      request.grantType = "authorization_code" ∧
      (∃ proof endpoint verified, headerStr headers "dpop" = some proof ∧
        crates.join state.issuer "token" = some endpoint ∧
        verifyDpop crates proof "POST" endpoint event.env.dpopClock = .ok verified ∧
        ¬ Marked (sinceRestart earlier) (.dpopJti verified.jti)) ∧
      ∃ pushed, CodeIssued crates (sinceRestart earlier) request.code pushed ∧
        (∀ other ∈ sinceRestart earlier, ¬ other.YieldsToken request.code) ∧
        pushed.clientId = request.clientId ∧ pushed.redirectUri = request.redirectUri ∧
        crates.digest request.codeVerifier = pushed.codeChallenge := by
  obtain ⟨_, _, _, past, took, _⟩ := deployment_at_event run
  exact took.answersToken_iff past origin

theorem token_answers_reference :
    ∃ earlier event later d headers request,
      (deployment reference referenceState).Execution (.initial ∅)
        (.restarted :: earlier ++ .served event :: later) d ∧
      event.origin = .arrived (.token headers request) ∧
      ∃ pushed, CodeIssued reference (sinceRestart (.restarted :: earlier)) request.code pushed ∧
        reference.digest request.codeVerifier = pushed.codeChallenge := by
  have valid : validScope qeaaSdJwt false = true := by decide +kernel
  obtain ⟨token, trace, u, _, run, found, _⟩ := referenceClient_obtainsToken valid
  obtain ⟨event, member, headers, request, _, call, _⟩ := (run_traced run).tokens found
  obtain ⟨response, reply, _⟩ := call.reply
  obtain ⟨earlier, later, rfl⟩ := List.append_of_mem member
  obtain ⟨d, served⟩ := served_restarted run
  rw [List.map_append, List.map_cons, ← List.cons_append] at served
  obtain ⟨_, _, pushed, issued, _, _, _, pkce⟩ :=
    (token_answers_iff served call.origin).mp ⟨response, reply⟩
  exact ⟨_, event, _, d, headers, request, served, call.origin, pushed, issued, pkce⟩

/-- A credential request is answered exactly when the history since the last restart entitles it to
a credential and the credential can be encoded. -/
theorem credential_answers_iff {headers : HeaderMap} {request : CredentialRequest}
    (run : (deployment crates state).Execution (.initial store)
      (earlier ++ .served event :: later) d)
    (origin : event.origin = .arrived (.credential headers request)) :
    (∃ response, event.reply = .ok (.finished (.credential response))) ↔
      ∃ entitlement : Entitlement crates state (sinceRestart earlier) headers request
          event.env.dpopClock event.env.proofClock event.env.clock,
        ∃ response, encodeCredential crates state event.env.host entitlement.decision =
          .ok response := by
  obtain ⟨_, _, _, past, took, _⟩ := deployment_at_event run
  exact took.answersCredential_iff past origin

theorem credential_answers_reference :
    ∃ (earlier : List DeploymentEvent) (event : Event) (d : Deployment) (headers : HeaderMap)
      (request : CredentialRequest), ∃ entitlement : Entitlement reference referenceState
        (sinceRestart (.restarted :: earlier)) headers request event.env.dpopClock
        event.env.proofClock event.env.clock,
      (deployment reference referenceState).Execution (.initial ∅)
        (.restarted :: earlier ++ [.served event]) d ∧
      event.origin = .arrived (.credential headers request) ∧
      ∃ response, encodeCredential reference referenceState event.env.host entitlement.decision =
        .ok response := by
  obtain ⟨earlier, event, w, headers, request, response, run, origin, reply⟩ := reference_issuance
  obtain ⟨d, served⟩ := served_restarted run
  rw [List.map_append, ← List.cons_append] at served
  obtain ⟨entitlement, encoded⟩ := (credential_answers_iff served origin).mp ⟨response, reply⟩
  exact ⟨_, event, d, headers, request, entitlement, served, origin, encoded⟩

/-- Whatever the service accepts it has handed out since its last restart. -/
theorem handouts_end_at_restart
    (run : (deployment crates state).Execution (.initial store)
      (earlier ++ .served event :: later) d) :
    RestsOn crates state (sinceRestart earlier) event := by
  obtain ⟨_, _, _, past, took, _⟩ := deployment_at_event run
  exact took.restsOn past

theorem handouts_end_at_restart_reference :
    ∃ earlier event d, (deployment reference referenceState).Execution (.initial ∅)
        (.restarted :: earlier ++ [.served event]) d ∧
      (∃ accessToken, event.IssuesFor accessToken qeaaSdJwt) ∧
      RestsOn reference referenceState (sinceRestart (.restarted :: earlier)) event := by
  have valid : validScope qeaaSdJwt false = true := by decide +kernel
  obtain ⟨token, trace, s, drawn, run, found, dpopJtis, _, nonces⟩ :=
    referenceClient_obtainsToken valid
  have good : Client.GoodJti "credential" := ⟨by decide, by decide⟩
  have goodNonce : Client.GoodJti (toString (1 : UInt64).toNat) := ⟨by decide, by decide⟩
  obtain ⟨first, event, u, headers, request, response, issued, origin, reply, presented, named, _⟩ :=
    referenceClient_obtainsCredential (t := 1030) found (by decide +kernel) (by decide) good
      (by rw [dpopJtis]; decide) (by decide) goodNonce (nonces _)
  obtain ⟨d, served⟩ := served_restarted (run.trans issued)
  rw [List.map_append, ← List.cons_append, List.map_cons, List.map_cons, List.map_nil,
    List.append_cons] at served
  exact ⟨_, event, d, served, ⟨token, headers, request, response, origin, reply, presented, named⟩,
    handouts_end_at_restart served⟩

/-- Restarts do not let a drawn value be used again, and nothing else does. -/
theorem once_in_life (run : (deployment crates state).Execution (.initial store) trace d) :
    OnceInLife crates state trace where
  requestUri uri := by
    by_cases drawn : ∃ uuid, uri = requestUriOf uuid
    · obtain ⟨uuid, rfl⟩ := drawn
      refine deployment_once (.authorizationCode (requestUriOf uuid)) (.uuid uuid) run
        (fun took held => took.yieldsCode_mark held) fun rests held => ?_
      obtain ⟨call, member, _, _, made⟩ := rests.requestUri _ held
      exact ⟨call, member, fun _ => made.draws⟩
    · refine atMostOnce_iff.mpr ?_
      rintro earlier shown later rfl ⟨event, same, held⟩
      cases event_eq_some same
      obtain ⟨_, _, _, past, took, _⟩ := deployment_at_event run
      obtain ⟨_, _, _, _, made⟩ := (took.restsOn past).requestUri _ held
      exact absurd ⟨_, made.made⟩ drawn
  code code := by
    refine deployment_once (.accessToken code) (.token code) run
      (fun took held => took.yieldsToken_mark held) fun rests held => ?_
    obtain ⟨call, member, _, _, made⟩ := rests.code _ held
    exact ⟨call, member, fun _ => made.draws⟩
  cNonce cNonce := by
    refine deployment_once (.credentialNonce cNonce) (.nonce cNonce) run
      (fun took held => took.consumesNonce_mark held) fun rests held => ?_
    obtain ⟨call, member, made⟩ := rests.cNonce _ held
    exact ⟨call, member, fun ⟨_, _, took⟩ => took.answersNonce_draws made⟩
  reused := by
    intro earlier first between second later m whole logged loggedToo
    have once : ∀ before shown after event, trace = before ++ shown :: after →
        DeploymentEvent.event shown = some event → m ∈ event.log →
        ∀ other ∈ Epochs.epoch DeploymentEvent.event before, ¬ m ∈ other.log := by
      rintro before shown after event rfl same logged
      cases event_eq_some same
      exact deployment_unmarked run logged
    obtain ⟨restart, member, none⟩ := Epochs.restart_between once whole rfl rfl logged loggedToo
    rwa [event_eq_none none] at member

theorem once_in_life_reference :
    ∃ trace d, (deployment reference referenceState).Execution (.initial ∅)
        (.restarted :: trace) d ∧
      (∃ event, .served event ∈ trace ∧ ∃ response,
        event.reply = .ok (.finished (.credential response))) ∧
      OnceInLife reference referenceState (.restarted :: trace) := by
  obtain ⟨earlier, event, w, _, _, response, run, _, reply⟩ := reference_issuance
  obtain ⟨d, served⟩ := served_restarted run
  exact ⟨_, d, served, ⟨event, by simp, response, reply⟩, once_in_life served⟩

end Life

end VCIssuer.Service
