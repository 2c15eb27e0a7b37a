import VCIssuer.Service.Reference
import VCIssuer.Service.SingleUse

/-!
# Where credentials come from

Every access token, authorization code and pushed request in the state was put
there by an event of the history, and the bindings between them were checked by
the event that made the next one.  A credential is issued under a token, so the
whole chain back to one pushed request stands behind it.
-/

namespace VCIssuer.Service

open VCIssuer.Library
open VCIssuer.Library.Critical

/-! ## The calls of the flow -/

/-- A successful pushed authorization request. -/
structure ParCall (state : AppState) (event : Event) (uri : String) (request : ParRequest)
    (tlsnEvidence : Option VerifiedTlsnEvidence) : Prop where
  origin : event.origin = .resumed (.parPush request tlsnEvidence)
  reply : event.reply = .ok (.finished (.pushed ⟨uri, 60⟩))
  made : uri = requestUriOf event.env.uuid
  valid : validScope request.scope state.hybridPqEnabled = true

/-- A successful authorization, from the half in which the code is made. -/
structure AuthorizeCall (crates : Crates) (event : Event) (code : String)
    (request : AuthorizationRequest) (pushed : PushedAuthorization) : Prop where
  origin : event.origin = .resumed (.authorizeIssue request pushed)
  reply : event.reply = .ok (.finished (.redirect (redirectOf crates pushed code)))
  made : code = randomToken crates event.env.octets
  client : pushed.clientId = request.clientId

/-- A successful token request whose DPoP proof was made with the key `jkt`. -/
structure TokenCall (crates : Crates) (event : Event) (accessToken jkt : String)
    (headers : HeaderMap) (request : TokenRequest) : Prop where
  origin : event.origin = .arrived (.token headers request)
  reply : ∃ response, event.reply = .ok (.finished (.token response)) ∧
    response.accessToken = accessToken
  made : accessToken = randomToken crates event.env.octets
  dpop : ∃ proof uri, ∃ accepted : DpopProof crates proof "POST" uri event.env.dpopClock,
    headerStr headers "dpop" = some proof ∧ accepted.verified.jkt = jkt

/-! ## Entries and their history -/

section History

variable (crates : Crates) (state : AppState) (trace : List Event)

def PushedIn (uri : String) (pushed : PushedAuthorization) : Prop :=
  ∃ event ∈ trace, ∃ request tlsnEvidence,
    ParCall state event uri request tlsnEvidence ∧ pushed = pushedOf request tlsnEvidence

def AuthorizedIn (code : String) (entry : AuthorizationCode) : Prop :=
  ∃ event ∈ trace, ∃ request pushed, AuthorizeCall crates event code request pushed ∧
    entry = { codeOf pushed with consumed := entry.consumed } ∧
    PushedIn state trace request.requestUri pushed

/-- The bindings that a token request is checked against. -/
structure Redeems (request : TokenRequest) (entry : AuthorizationCode) : Prop where
  client : entry.clientId = request.clientId
  redirect : entry.redirectUri = request.redirectUri
  pkce : crates.digest request.codeVerifier = entry.codeChallenge

def RedeemedIn (accessToken : String) (access : AccessToken) : Prop :=
  ∃ event ∈ trace, ∃ headers request entry,
    TokenCall crates event accessToken access.dpopJkt headers request ∧
    Redeems crates request entry ∧ access.scope = entry.scope ∧
    AuthorizedIn crates state trace request.code entry

/-- Everything in the authorization part of the state has its place in the history. -/
structure Traced (w : World) : Prop where
  checked : ∀ {request tlsnEvidence}, Task.parPush request tlsnEvidence ∈ w.tasks →
    validScope request.scope state.hybridPqEnabled = true
  pushed : ∀ {uri pushed}, w.inner.pushed.lookup uri = some pushed →
    PushedIn state trace uri pushed
  authorizing : ∀ {request pushed}, Task.authorizeIssue request pushed ∈ w.tasks →
    pushed.clientId = request.clientId ∧ PushedIn state trace request.requestUri pushed
  codes : ∀ {code entry}, w.inner.codes.lookup code = some entry →
    AuthorizedIn crates state trace code entry
  tokens : ∀ {accessToken access}, w.inner.tokens.lookup accessToken = some access →
    RedeemedIn crates state trace accessToken access

end History

section Traces

variable {crates : Crates} {state : AppState} {trace later : List Event} {w w' : World}
  {event : Event}

theorem PushedIn.mono {uri : String} {pushed : PushedAuthorization} (subset : trace ⊆ later)
    (held : PushedIn state trace uri pushed) : PushedIn state later uri pushed :=
  have ⟨event, member, call⟩ := held
  ⟨event, subset member, call⟩

theorem AuthorizedIn.mono {code : String} {entry : AuthorizationCode} (subset : trace ⊆ later)
    (held : AuthorizedIn crates state trace code entry) :
    AuthorizedIn crates state later code entry :=
  have ⟨event, member, request, pushed, call, same, parent⟩ := held
  ⟨event, subset member, request, pushed, call, same, parent.mono subset⟩

theorem RedeemedIn.mono {accessToken : String} {access : AccessToken} (subset : trace ⊆ later)
    (held : RedeemedIn crates state trace accessToken access) :
    RedeemedIn crates state later accessToken access :=
  have ⟨event, member, headers, request, entry, call, redeems, scope, parent⟩ := held
  ⟨event, subset member, headers, request, entry, call, redeems, scope, parent.mono subset⟩

theorem traced_initial (instances : StringMap RegisteredInstance) :
    Traced crates state [] (World.initial instances) where
  checked member := absurd member List.not_mem_nil
  pushed found := by cases found
  authorizing member := absurd member List.not_mem_nil
  codes found := by cases found
  tokens found := by cases found

/-- An entry after an insertion is the inserted one or was there before. -/
theorem lookup_insert_cases {α : Type} {map : StringMap α} {key inserted : String}
    {value entry : α} (found : (map.insert inserted value).lookup key = some entry) :
    key = inserted ∧ entry = value ∨ map.lookup key = some entry := by
  by_cases same : key = inserted
  · subst same
    rw [AList.lookup_insert] at found
    exact .inl ⟨rfl, (Option.some.inj found).symm⟩
  · rw [AList.lookup_insert_ne same] at found
    exact .inr found

/-- A waiting task waited before the step, or the step suspended it. -/
theorem Took.task_cases (took : Took crates state w event w') {task : Task}
    (member : task ∈ w'.tasks) : task ∈ w.tasks ∨ event.reply = .ok (.suspended task) := by
  obtain ⟨waiting, left, tasks⟩ := took.tasks
  rw [tasks] at member
  rcases List.mem_append.mp member with waits | fresh
  · exact .inl (left.mem_iff.mpr (List.mem_append_right _ waits))
  · refine .inr ?_
    cases reply : event.reply with
    | error failure => rw [reply] at fresh; exact absurd fresh List.not_mem_nil
    | ok progress =>
        rw [reply] at fresh
        cases progress with
        | finished response => exact absurd fresh List.not_mem_nil
        | suspended other => rw [List.mem_singleton.mp fresh]

/-- The task that a step takes up waited before it. -/
theorem Took.resumed_mem (took : Took crates state w event w') {task : Task}
    (origin : event.origin = .resumed task) : task ∈ w.tasks := by
  obtain ⟨waiting, left, _⟩ := took.tasks
  rw [origin] at left
  exact left.mem_iff.mpr (.head _)

theorem Traced.checked_step (before : Traced crates state trace w)
    (took : Took crates state w event w') {request : ParRequest}
    {tlsnEvidence : Option VerifiedTlsnEvidence}
    (member : Task.parPush request tlsnEvidence ∈ w'.tasks) :
    validScope request.scope state.hybridPqEnabled = true := by
  rcases took.task_cases member with waits | suspended
  · exact before.checked waits
  · cases took.authorizationStep with
    | checked _ _ _ reply valid _ => cases reply.symm.trans suspended; exact valid
    | aside reply => exact (reply _ suspended).elim
    | pushed _ _ _ reply => cases reply.symm.trans suspended
    | taken _ _ _ reply => cases reply.symm.trans suspended
    | issued _ _ _ reply => cases reply.symm.trans suspended
    | redeemed _ _ _ _ reply => cases reply.symm.trans suspended

theorem Traced.pushed_step (before : Traced crates state trace w)
    (took : Took crates state w event w') {uri : String} {pushed : PushedAuthorization}
    (found : w'.inner.pushed.lookup uri = some pushed) :
    PushedIn state (trace ++ [event]) uri pushed := by
  have earlier : w.inner.pushed.lookup uri = some pushed →
      PushedIn state (trace ++ [event]) uri pushed := fun found =>
    (before.pushed found).mono (List.subset_append_left _ _)
  cases took.authorizationStep with
  | checked _ _ _ _ _ inner => rw [inner] at found; exact earlier found
  | pushed request tlsnEvidence origin reply inner =>
      rw [inner] at found
      rcases lookup_insert_cases found with ⟨rfl, rfl⟩ | found
      · exact ⟨event, List.mem_append_right _ (.head _), request, tlsnEvidence,
          ⟨origin, reply, rfl, before.checked (took.resumed_mem origin)⟩, rfl⟩
      · exact earlier found
  | taken request _ _ _ _ _ inner =>
      rw [inner] at found
      by_cases same : uri = request.requestUri
      · subst same
        rw [AList.lookup_erase] at found
        cases found
      · rw [AList.lookup_erase_ne same] at found
        exact earlier found
  | issued _ _ _ _ inner => rw [inner] at found; exact earlier found
  | redeemed _ _ _ _ _ inner => rw [inner] at found; exact earlier found
  | aside _ _ pushed => exact earlier (pushed found)

theorem Traced.authorizing_step (before : Traced crates state trace w)
    (took : Took crates state w event w') {request : AuthorizationRequest}
    {pushed : PushedAuthorization} (member : Task.authorizeIssue request pushed ∈ w'.tasks) :
    pushed.clientId = request.clientId ∧
      PushedIn state (trace ++ [event]) request.requestUri pushed := by
  have grows : trace ⊆ trace ++ [event] := List.subset_append_left _ _
  rcases took.task_cases member with waits | suspended
  · obtain ⟨client, parent⟩ := before.authorizing waits
    exact ⟨client, parent.mono grows⟩
  · cases took.authorizationStep with
    | taken _ _ _ reply found client _ =>
        cases reply.symm.trans suspended
        exact ⟨client, (before.pushed found).mono grows⟩
    | aside reply => exact (reply _ suspended).elim
    | checked _ _ _ reply => cases reply.symm.trans suspended
    | pushed _ _ _ reply => cases reply.symm.trans suspended
    | issued _ _ _ reply => cases reply.symm.trans suspended
    | redeemed _ _ _ _ reply => cases reply.symm.trans suspended

theorem Traced.codes_step (before : Traced crates state trace w)
    (took : Took crates state w event w') {code : String} {entry : AuthorizationCode}
    (found : w'.inner.codes.lookup code = some entry) :
    AuthorizedIn crates state (trace ++ [event]) code entry := by
  have grows : trace ⊆ trace ++ [event] := List.subset_append_left _ _
  have earlier : ∀ {entry}, w.inner.codes.lookup code = some entry →
      AuthorizedIn crates state (trace ++ [event]) code entry := fun found =>
    (before.codes found).mono grows
  cases took.authorizationStep with
  | checked _ _ _ _ _ inner => rw [inner] at found; exact earlier found
  | pushed _ _ _ _ inner => rw [inner] at found; exact earlier found
  | taken _ _ _ _ _ _ inner => rw [inner] at found; exact earlier found
  | issued request pushed origin reply inner =>
      rw [inner] at found
      rcases lookup_insert_cases found with ⟨rfl, rfl⟩ | found
      · obtain ⟨client, parent⟩ := before.authorizing (took.resumed_mem origin)
        exact ⟨event, List.mem_append_right _ (.head _), request, pushed,
          ⟨origin, reply, rfl, client⟩, rfl, parent.mono grows⟩
      · exact earlier found
  | redeemed headers request grant origin reply inner =>
      rw [inner] at found
      rcases lookup_insert_cases found with ⟨rfl, rfl⟩ | found
      · -- The entry that was there is now marked as consumed, and its history is the same.
        obtain ⟨first, member, source, pushed, call, same, parent⟩ := earlier grant.codeFound
        exact ⟨first, member, source, pushed, call, by rw [same], parent⟩
      · exact earlier found
  | aside _ _ _ codes => rw [codes] at found; exact earlier found

theorem Traced.tokens_step (before : Traced crates state trace w)
    (took : Took crates state w event w') {accessToken : String} {access : AccessToken}
    (found : w'.inner.tokens.lookup accessToken = some access) :
    RedeemedIn crates state (trace ++ [event]) accessToken access := by
  have grows : trace ⊆ trace ++ [event] := List.subset_append_left _ _
  have earlier : w.inner.tokens.lookup accessToken = some access →
      RedeemedIn crates state (trace ++ [event]) accessToken access := fun found =>
    (before.tokens found).mono grows
  cases took.authorizationStep with
  | checked _ _ _ _ _ inner => rw [inner] at found; exact earlier found
  | pushed _ _ _ _ inner => rw [inner] at found; exact earlier found
  | taken _ _ _ _ _ _ inner => rw [inner] at found; exact earlier found
  | issued _ _ _ _ inner => rw [inner] at found; exact earlier found
  | redeemed headers request grant origin reply inner =>
      rw [inner] at found
      rcases lookup_insert_cases found with ⟨rfl, rfl⟩ | found
      · exact ⟨event, List.mem_append_right _ (.head _), headers, request, grant.code,
          ⟨origin, ⟨_, reply, rfl⟩, rfl, grant.proof, grant.endpoint, grant.dpop,
            grant.proofGiven, rfl⟩,
          ⟨grant.clientMatches, grant.redirectMatches, grant.pkce⟩, rfl,
          (before.codes grant.codeFound).mono grows⟩
      · exact earlier found
  | aside _ _ _ _ tokens => rw [tokens] at found; exact earlier found

theorem run_traced {instances : StringMap RegisteredInstance}
    (run : (process crates state).Execution (World.initial instances) trace w) :
    Traced crates state trace w := by
  refine run.history (traced_initial instances) ?_
  intro _ _ _ _ _ _ before stepped
  have took := step_took stepped
  exact ⟨before.checked_step took, before.pushed_step took, before.authorizing_step took,
    before.codes_step took, before.tokens_step took⟩

end Traces

/-! ## Fresh values belong to one event -/

section Draws

variable {crates : Crates} {state : AppState} {trace : List Event} {w w' : World} {event : Event}

/-- The values that the step of an event drew. -/
def Event.draws (crates : Crates) (event : Event) : List Draw :=
  (event.origin.draws crates event.env).getD []

theorem draws_nodup {origin : Origin} {env : Environment} {draws : List Draw}
    (drew : origin.draws crates env = some draws) : draws.Nodup := by
  unfold Origin.draws at drew
  split at drew
  case h_4 =>
    obtain ⟨_, _, rfl⟩ := Option.map_eq_some_iff.mp drew
    exact List.nodup_singleton _
  all_goals
    cases drew
    simp

theorem Took.draws_respect (took : Took crates state w event w') :
    Respects (fun (w : World) draw => draw ∈ w.drawn) w (event.draws crates) w' := by
  obtain ⟨draws, drew, fresh, drawn⟩ := took.draws
  have same : event.draws crates = draws := by rw [Event.draws, drew]; rfl
  rw [same]
  refine ⟨draws_nodup drew, fresh, ?_, took.drawn_subset⟩
  intro draw member
  rw [drawn]
  exact List.mem_append_right _ member

/-- No value is drawn twice in a run. -/
theorem run_draws (run : (process crates state).Execution w trace w') :
    (trace.flatMap (Event.draws crates)).Nodup :=
  (run.respects (I := fun _ => True) trivial fun _ _ _ _ _ stepped =>
    ⟨trivial, (step_took stepped).draws_respect⟩).2.nodup

theorem AuthorizeCall.draws {code : String} {request : AuthorizationRequest}
    {pushed : PushedAuthorization} (call : AuthorizeCall crates event code request pushed) :
    Draw.token code ∈ event.draws crates := by
  rw [Event.draws, call.origin, call.made]
  exact .head _

theorem TokenCall.draws {accessToken jkt : String} {headers : HeaderMap} {request : TokenRequest}
    (call : TokenCall crates event accessToken jkt headers request) :
    Draw.token accessToken ∈ event.draws crates := by
  rw [Event.draws, call.origin, call.made]
  exact .head _

theorem ParCall.draws {uuid : String} {request : ParRequest}
    {tlsnEvidence : Option VerifiedTlsnEvidence}
    (call : ParCall state event (requestUriOf uuid) request tlsnEvidence) :
    Draw.uuid uuid ∈ event.draws crates := by
  rw [Event.draws, call.origin, requestUriOf_injective call.made]
  exact .head _

end Draws

/-! ## The chain behind a credential -/

/-- The whole flow behind one credential, from the pushed request on. -/
structure Provenance (crates : Crates) (state : AppState) (earlier later : List Event)
    (event : Event) (headers : HeaderMap) (request : CredentialRequest)
    (response : CredentialResponse) where
  accessToken : String
  /-- The thumbprint that all keys of the flow have. -/
  jkt : String
  holderJwk : EcJwk
  presented : bearer headers = some accessToken
  dpop : ∃ proof uri, ∃ accepted : DpopProof crates proof "POST" uri event.env.dpopClock,
    headerStr headers "dpop" = some proof ∧ accepted.verified.jkt = jkt
  holder : ∃ compact, ∃ accepted : HolderProof crates compact state.issuer event.env.proofClock,
    request.proofs = [compact] ∧ accepted.header.jwk = holderJwk
  holderKey : holderJwk.thumbprint crates = jkt
  bound : BoundTo crates event.env.host response.credential holderJwk.toValue
  tokenCall : Event
  tokenHeaders : HeaderMap
  tokenRequest : TokenRequest
  tokenMember : tokenCall ∈ earlier
  token : TokenCall crates tokenCall accessToken jkt tokenHeaders tokenRequest
  tokenOnce : AtMostOnce
    (fun call => ∃ jkt headers request, TokenCall crates call accessToken jkt headers request)
    (earlier ++ event :: later)
  authorizeCall : Event
  authorizeRequest : AuthorizationRequest
  pushed : PushedAuthorization
  authorizeMember : authorizeCall ∈ earlier
  authorize : AuthorizeCall crates authorizeCall tokenRequest.code authorizeRequest pushed
  authorizeOnce : AtMostOnce
    (fun call => ∃ request pushed, AuthorizeCall crates call tokenRequest.code request pushed)
    (earlier ++ event :: later)
  parCall : Event
  parRequest : ParRequest
  tlsnEvidence : Option VerifiedTlsnEvidence
  parMember : parCall ∈ earlier
  par : ParCall state parCall authorizeRequest.requestUri parRequest tlsnEvidence
  parOnce : AtMostOnce
    (fun call => ∃ request tlsnEvidence,
      ParCall state call authorizeRequest.requestUri request tlsnEvidence)
    (earlier ++ event :: later)
  taken : pushed = pushedOf parRequest tlsnEvidence
  client : tokenRequest.clientId = parRequest.clientId
  redirect : tokenRequest.redirectUri = parRequest.redirectUri
  pkce : crates.digest tokenRequest.codeVerifier = parRequest.codeChallenge
  scope : request.credentialConfigurationId ∈ Text.splitAsciiWhitespace parRequest.scope
  closed : ∀ item ∈ Text.splitAsciiWhitespace parRequest.scope,
    scopeItemAllowed state.hybridPqEnabled item = true

/-- Behind every credential of a run there is one token call, one authorization and one pushed
request, made by the same client for the same key. -/
theorem credential_provenance {crates : Crates} {state : AppState}
    {instances : StringMap RegisteredInstance} {earlier later : List Event} {w : World}
    {event : Event} {headers : HeaderMap} {request : CredentialRequest}
    {response : CredentialResponse}
    (run : (process crates state).Execution (World.initial instances)
      (earlier ++ event :: later) w)
    (origin : event.origin = .arrived (.credential headers request))
    (reply : event.reply = .ok (.finished (.credential response))) :
    Nonempty (Provenance crates state earlier later event headers request response) := by
  have draws := run_draws run
  obtain ⟨before, _, _, first, stepped, _⟩ := run.at_event
  obtain ⟨grant, encoded, _, _⟩ := (step_took stepped).credentialGrant origin reply
  obtain ⟨tokenCall, tokenMember, tokenHeaders, tokenRequest, entry, token, redeems, scope,
    authorizeCall, authorizeMember, authorizeRequest, pushed, authorize, same, parCall, parMember,
    parRequest, tlsnEvidence, par, rfl⟩ := (run_traced first).tokens grant.accessFound
  obtain ⟨_, closed⟩ := (validScope_eq_true_iff _ _).mp par.valid
  have clientOf : entry.clientId = parRequest.clientId := congrArg AuthorizationCode.clientId same
  have redirectOf : entry.redirectUri = parRequest.redirectUri :=
    congrArg AuthorizationCode.redirectUri same
  have challengeOf : entry.codeChallenge = parRequest.codeChallenge :=
    congrArg AuthorizationCode.codeChallenge same
  have scopeOf : entry.scope = parRequest.scope := congrArg AuthorizationCode.scope same
  refine ⟨{
    accessToken := grant.token, jkt := grant.access.dpopJkt
    holderJwk := grant.holder.header.jwk
    presented := grant.tokenGiven
    dpop := ⟨grant.proof, grant.endpoint, grant.dpop, grant.proofGiven,
      grant.dpopKey.trans grant.bound.symm⟩
    holder := ⟨grant.compact, grant.holder, grant.proofs, rfl⟩
    holderKey := grant.holderKey.trans grant.bound.symm
    bound := encodeCredential_bound encoded
    tokenCall, tokenHeaders, tokenRequest, tokenMember, token
    tokenOnce := atMostOnce_of_mark draws
      fun _ _ ⟨_, _, _, call⟩ => call.draws
    authorizeCall, authorizeRequest, authorizeMember, authorize
    authorizeOnce := atMostOnce_of_mark draws fun _ _ ⟨_, _, call⟩ => call.draws
    parCall, parRequest, tlsnEvidence, parMember, par
    parOnce := ?_
    pushed := pushedOf parRequest tlsnEvidence
    taken := rfl
    client := redeems.client.symm.trans clientOf
    redirect := redeems.redirect.symm.trans redirectOf
    pkce := redeems.pkce.trans challengeOf
    scope := ?_
    closed }⟩
  · rw [par.made]
    exact atMostOnce_of_mark draws fun _ _ ⟨_, _, call⟩ => call.draws
  · rw [← scopeOf, ← scope]
    exact grant.inScope

theorem credential_provenance_reference :
    ∃ earlier event w headers request response,
      (process reference referenceState).Execution (World.initial ∅) (earlier ++ [event]) w ∧
      Nonempty (Provenance reference referenceState earlier [] event headers request response) := by
  obtain ⟨earlier, event, w, headers, request, response, run, origin, reply⟩ := reference_issuance
  exact ⟨earlier, event, w, headers, request, response, run,
    credential_provenance run origin reply⟩

end VCIssuer.Service
