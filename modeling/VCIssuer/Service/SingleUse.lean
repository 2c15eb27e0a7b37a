import VCIssuer.Service.Reference
import VCIssuer.Service.Steps

/-!
# Single use

Each value that may be used once is spent at the step that uses it and stays
spent.  Five ledgers live in the volatile state.  The sixth is spread over the
pushed requests and the requests that wait between the two halves of an
authorization.
-/

namespace VCIssuer.Service

open VCIssuer.Library
open VCIssuer.Library.Critical

/-! ## Pushed requests -/

/-- The request URIs whose authorization waits for its second half. -/
def authorizing (tasks : List Task) : List String :=
  tasks.filterMap fun
    | .authorizeIssue request _ => some request.requestUri
    | _ => none

theorem authorizing_append (first second : List Task) :
    authorizing (first ++ second) = authorizing first ++ authorizing second :=
  List.filterMap_append

theorem requestUriOf_injective {uuid other : String} (same : requestUriOf uuid = requestUriOf other) :
    uuid = other :=
  (String.append_right_inj _).mp same

/-- A request URI that the server made is pushed, or waits, or is gone. -/
structure Wellformed (w : World) : Prop where
  grounded : w.Grounded
  nodup : (authorizing w.tasks).Nodup
  apart : ∀ uri ∈ authorizing w.tasks, uri ∉ w.inner.pushed
  known : ∀ uri ∈ authorizing w.tasks, ∃ uuid, Draw.uuid uuid ∈ w.drawn ∧ uri = requestUriOf uuid

section Steps

variable {crates : Crates} {state : AppState} {w w' : World} {event : Event}

/-- A new pushed request has a URI that was never made before. -/
theorem Took.pushed_mem (took : Took crates state w event w') {uri : String}
    (member : uri ∈ w'.inner.pushed) :
    uri ∈ w.inner.pushed ∨ ∃ uuid, Draw.uuid uuid ∉ w.drawn ∧ uri = requestUriOf uuid := by
  have kept : ∀ {other : World}, (∀ {uri pushed}, other.inner.pushed.lookup uri = some pushed →
      w.inner.pushed.lookup uri = some pushed) → uri ∈ other.inner.pushed →
      uri ∈ w.inner.pushed := by
    intro other sub member
    obtain ⟨pushed, found⟩ := Option.isSome_iff_exists.mp (AList.lookup_isSome.mpr member)
    exact mem_of_lookup (sub found)
  cases took.authorizationStep with
  | checked request tlsnEvidence origin reply valid inner => rw [inner] at member; exact .inl member
  | pushed request tlsnEvidence origin reply inner =>
      rw [inner] at member
      rcases mem_insert_or member with rfl | member
      · have draws : event.origin.draws crates event.env = some [.uuid event.env.uuid] := by
          rw [origin]
          rfl
        exact .inr ⟨event.env.uuid, (took.drew draws (.head _)).1, rfl⟩
      · exact .inl member
  | taken request pushed origin reply found client inner =>
      rw [inner] at member
      exact .inl (AList.mem_erase.mp member).2
  | issued request pushed origin reply inner log => rw [inner] at member; exact .inl member
  | redeemed headers request grant origin reply inner log => rw [inner] at member; exact .inl member
  | aside reply notIssue pushed codes tokens => exact .inl (kept pushed member)

/-- What waits after a step waited before, or was pushed until this step. -/
theorem Took.authorizing_cases (took : Took crates state w event w') :
    ∃ waiting, (authorizing w.tasks).Perm (authorizing event.origin.tasks ++ waiting) ∧
      (authorizing w'.tasks = waiting ∨
        ∃ uri ∈ w.inner.pushed, uri ∉ w'.inner.pushed ∧
          authorizing w'.tasks = waiting ++ [uri]) := by
  obtain ⟨waiting, left, tasks⟩ := took.tasks
  refine ⟨authorizing waiting, ?_, ?_⟩
  · rw [← authorizing_append]
    exact left.filterMap _
  · rw [tasks, authorizing_append]
    cases took.authorizationStep with
    | taken request pushed origin reply found client inner =>
        refine .inr ⟨request.requestUri, mem_of_lookup found, ?_, by rw [reply]; rfl⟩
        rw [inner]
        exact fun member => (AList.mem_erase.mp member).1 rfl
    | aside reply notIssue pushed codes tokens =>
        refine .inl ?_
        cases replied : event.reply with
        | error failure => exact List.append_nil _
        | ok progress =>
            have quiet := reply progress replied
            cases progress with
            | finished response => exact List.append_nil _
            | suspended task =>
                cases task with
                | authorizeIssue => exact quiet.elim
                | _ => exact List.append_nil _
    | checked request tlsnEvidence origin reply valid inner =>
        exact .inl (by rw [reply]; exact List.append_nil _)
    | pushed request tlsnEvidence origin reply inner =>
        exact .inl (by rw [reply]; exact List.append_nil _)
    | issued request pushed origin reply inner log =>
        exact .inl (by rw [reply]; exact List.append_nil _)
    | redeemed headers request grant origin reply inner log =>
        exact .inl (by rw [reply]; exact List.append_nil _)

theorem Took.authorizing_mem (took : Took crates state w event w') {uri : String}
    (member : uri ∈ authorizing w'.tasks) :
    uri ∈ authorizing w.tasks ∨ uri ∈ w.inner.pushed ∧ uri ∉ w'.inner.pushed := by
  obtain ⟨waiting, left, same | ⟨taken, pushed, gone, same⟩⟩ := took.authorizing_cases
  · rw [same] at member
    exact .inl (left.mem_iff.mpr (List.mem_append_right _ member))
  · rw [same] at member
    rcases List.mem_append.mp member with member | member
    · exact .inl (left.mem_iff.mpr (List.mem_append_right _ member))
    · rw [List.mem_singleton.mp member]
      exact .inr ⟨pushed, gone⟩

theorem Took.wellformed (took : Took crates state w event w') (before : Wellformed w) :
    Wellformed w' := by
  have known : ∀ uri ∈ authorizing w'.tasks,
      ∃ uuid, Draw.uuid uuid ∈ w.drawn ∧ uri = requestUriOf uuid := by
    intro uri member
    rcases took.authorizing_mem member with waiting | ⟨pushed, _⟩
    · exact before.known uri waiting
    · exact VolatileState.Grounded.pushed before.grounded pushed
  refine ⟨took.grounded before.grounded, ?_, ?_, ?_⟩
  · obtain ⟨waiting, left, same | ⟨taken, pushed, gone, same⟩⟩ := took.authorizing_cases
    · rw [same]
      exact (left.nodup_iff.mp before.nodup).of_append_right
    · rw [same]
      refine List.Nodup.append (left.nodup_iff.mp before.nodup).of_append_right
        (List.nodup_singleton _) ?_
      intro uri member last
      rw [List.mem_singleton.mp last] at member
      exact before.apart taken (left.mem_iff.mpr (List.mem_append_right _ member)) pushed
  · intro uri member pushed
    obtain ⟨uuid, drawn, rfl⟩ := known uri member
    rcases took.pushed_mem pushed with earlier | ⟨fresh, undrawn, same⟩
    · rcases took.authorizing_mem member with waiting | ⟨_, gone⟩
      · exact before.apart _ waiting earlier
      · exact gone pushed
    · cases requestUriOf_injective same
      exact undrawn drawn
  · intro uri member
    obtain ⟨uuid, drawn, same⟩ := known uri member
    exact ⟨uuid, took.drawn_subset drawn, same⟩

theorem wellformed_initial (instances : StringMap RegisteredInstance) :
    Wellformed (World.initial instances) where
  grounded := VolatileState.Grounded.initial instances
  nodup := List.nodup_nil
  apart _ member := absurd member List.not_mem_nil
  known _ member := absurd member List.not_mem_nil

/-! ## The ledgers -/

/-- What has been used up, for the values whose ledger is in the volatile state. -/
def VolatileState.spent (s : VolatileState) : Mark → Prop
  | .authorizationCode _ => False
  | .accessToken code => ∃ entry, s.codes.lookup code = some entry ∧ entry.consumed = true
  | .credentialNonce cNonce => s.nonces.lookup cNonce = some true
  | .dpopJti jti => jti ∈ s.dpopJtis
  | .bindingJti jti => jti ∈ s.bindingJtis
  | .tlsnOffer sessionId => sessionId ∈ s.tlsnSessions

/-- A request URI is used up when the server made it and it neither is pushed nor waits. -/
def World.spent (w : World) : Mark → Prop
  | .authorizationCode uri =>
      (∃ uuid, Draw.uuid uuid ∈ w.drawn ∧ uri = requestUriOf uuid) ∧
        uri ∉ w.inner.pushed ∧ uri ∉ authorizing w.tasks
  | m => w.inner.spent m

/-- Away from request URIs only the volatile state counts. -/
theorem World.spent_iff {w : World} {m : Mark} (notUri : ∀ uri, m ≠ .authorizationCode uri) :
    w.spent m ↔ w.inner.spent m := by
  cases m with
  | authorizationCode uri => exact absurd rfl (notUri uri)
  | _ => rfl

/-- Setting another key of a map, or the same key to a value that passes the test. -/
theorem lookup_insert_kept {α : Type} {map : StringMap α} {key inserted : String} {value : α}
    (test : α → Prop) (held : ∃ entry, map.lookup key = some entry ∧ test entry)
    (passes : test value) : ∃ entry, (map.insert inserted value).lookup key = some entry ∧
      test entry := by
  by_cases same : key = inserted
  · subst same
    exact ⟨value, AList.lookup_insert map, passes⟩
  · obtain ⟨entry, found, tested⟩ := held
    exact ⟨entry, (AList.lookup_insert_ne same).trans found, tested⟩

/-- Each write but the two that make codes and nonces respects the ledgers by itself. -/
theorem Write.respects {env : Environment} {origin : Origin} {s t : VolatileState}
    {log : List Mark} (write : Write crates state env origin s log t)
    (notIssue : ∀ request pushed, origin ≠ .resumed (.authorizeIssue request pushed))
    (notNonce : origin ≠ .arrived .nonce) : Respects VolatileState.spent s log t := by
  cases write with
  | issueCode request pushed => exact absurd rfl (notIssue request pushed)
  | nonce => exact absurd rfl notNonce
  | redeem headers request found unconsumed =>
      refine .of_mark ?_ ⟨_, AList.lookup_insert _, rfl⟩ ?_
      · rintro ⟨entry, same, consumed⟩
        cases found.symm.trans same
        rw [unconsumed] at consumed
        cases consumed
      · intro m held
        cases m with
        | accessToken code => exact lookup_insert_kept _ held rfl
        | _ => exact held
  | consumeNonce headers request unused =>
      refine .of_mark ?_ (AList.lookup_insert _) ?_
      · intro used
        cases unused.symm.trans used
      · intro m held
        cases m with
        | credentialNonce cNonce =>
            obtain ⟨_, found, rfl⟩ := lookup_insert_kept (· = true) ⟨true, held, rfl⟩ rfl
            exact found
        | _ => exact held
  | dpopJti origin unused =>
      refine .of_mark unused (.head _) fun m held => ?_
      cases m with
      | dpopJti jti => exact .tail _ held
      | _ => exact held
  | bindingJti origin unused =>
      refine .of_mark unused (.head _) fun m held => ?_
      cases m with
      | bindingJti jti => exact .tail _ held
      | _ => exact held
  | tlsnOffer made unused _ =>
      refine .of_mark unused (.head _) fun m held => ?_
      cases m with
      | tlsnOffer sessionId => exact .tail _ held
      | _ => exact held
  | _ => exact .of_kept fun m held => by cases m <;> exact held

/-- A code that was never made before replaces none. -/
theorem codes_kept {w : World} {octets : Bytes} {entry : AuthorizationCode}
    (grounded : w.Grounded) (fresh : Draw.token (randomToken crates octets) ∉ w.drawn)
    (m : Mark) (held : w.inner.spent m) :
    VolatileState.spent
      { w.inner with codes := w.inner.codes.insert (randomToken crates octets) entry } m := by
  cases m with
  | accessToken code =>
      obtain ⟨spent, found, consumed⟩ := held
      refine ⟨spent, ?_, consumed⟩
      rw [← found]
      refine AList.lookup_insert_ne ?_
      rintro rfl
      exact fresh (VolatileState.Grounded.codes grounded (mem_of_lookup found))
  | _ => exact held

/-- A nonce that was never made before replaces none. -/
theorem nonces_kept {w : World} {cNonce : String} (grounded : w.Grounded)
    (fresh : Draw.nonce cNonce ∉ w.drawn) (m : Mark) (held : w.inner.spent m) :
    VolatileState.spent { w.inner with nonces := w.inner.nonces.insert cNonce false } m := by
  cases m with
  | credentialNonce used =>
      refine (AList.lookup_insert_ne ?_).trans held
      rintro rfl
      exact fresh (VolatileState.Grounded.nonces grounded (mem_of_lookup held))
  | _ => exact held

theorem Took.uri_kept (took : Took crates state w event w') {uri : String}
    (spent : w.spent (.authorizationCode uri)) : w'.spent (.authorizationCode uri) := by
  obtain ⟨⟨uuid, drawn, rfl⟩, unpushed, idle⟩ := spent
  refine ⟨⟨uuid, took.drawn_subset drawn, rfl⟩, ?_, ?_⟩
  · intro member
    rcases took.pushed_mem member with earlier | ⟨fresh, undrawn, same⟩
    · exact unpushed earlier
    · cases requestUriOf_injective same
      exact undrawn drawn
  · intro member
    rcases took.authorizing_mem member with waiting | ⟨pushed, _⟩
    · exact idle waiting
    · exact unpushed pushed

/-- What the state's own ledgers respect, the ledgers of the process respect. -/
theorem Took.respects_of_inner (took : Took crates state w event w')
    (inner : Respects VolatileState.spent w.inner event.log w'.inner) :
    Respects World.spent w event.log w' where
  nodup := inner.nodup
  unspent m member := by
    cases m with
    | authorizationCode uri => exact (inner.nowSpent _ member).elim
    | _ => exact inner.unspent _ member
  nowSpent m member := by
    cases m with
    | authorizationCode uri => exact (inner.nowSpent _ member).elim
    | _ => exact inner.nowSpent _ member
  kept m held := by
    by_cases isUri : ∃ uri, m = .authorizationCode uri
    · obtain ⟨uri, rfl⟩ := isUri
      exact took.uri_kept held
    · simp only [not_exists] at isUri
      exact (World.spent_iff isUri).mpr (inner.kept m ((World.spent_iff isUri).mp held))

/-- Turning a waiting request into a code uses up its request URI. -/
theorem Took.respects_issue (took : Took crates state w event w') (before : Wellformed w)
    {request : AuthorizationRequest} {pushed : PushedAuthorization}
    (origin : event.origin = .resumed (.authorizeIssue request pushed)) :
    Respects World.spent w event.log w' := by
  have ran := took.ran
  have draws : event.origin.draws crates event.env =
      some [.token (randomToken crates event.env.octets)] := by rw [origin]; rfl
  have fresh := (took.drew draws (.head _)).1
  obtain ⟨waiting, left, tasks⟩ := took.tasks
  rw [origin] at ran left
  obtain ⟨reply, inner, log⟩ := Outcome.mk.inj ran
  rw [← reply] at tasks
  have wait : (authorizing w.tasks).Perm (request.requestUri :: authorizing waiting) := by
    have := left.filterMap fun
      | Task.authorizeIssue request _ => some request.requestUri
      | _ => none
    exact this
  have member : request.requestUri ∈ authorizing w.tasks := wait.mem_iff.mpr (.head _)
  obtain ⟨uuid, drawn, same⟩ := before.known _ member
  rw [← log]
  refine .of_mark (fun spent => spent.2.2 member) ⟨⟨uuid, took.drawn_subset drawn, same⟩, ?_, ?_⟩ ?_
  · rw [← inner]
    exact before.apart _ member
  · rw [tasks, authorizing_append]
    intro again
    have onlyOnce := List.nodup_cons.mp (wait.nodup_iff.mp before.nodup)
    rcases List.mem_append.mp again with waits | impossible
    · exact onlyOnce.1 waits
    · exact absurd impossible List.not_mem_nil
  · intro m held
    by_cases isUri : ∃ uri, m = .authorizationCode uri
    · obtain ⟨uri, rfl⟩ := isUri
      exact took.uri_kept held
    · simp only [not_exists] at isUri
      refine (World.spent_iff isUri).mpr ?_
      rw [← inner]
      exact codes_kept before.grounded fresh m ((World.spent_iff isUri).mp held)

theorem Took.respects (took : Took crates state w event w') (before : Wellformed w) :
    Respects World.spent w event.log w' := by
  by_cases isIssue : ∃ request pushed, event.origin = .resumed (.authorizeIssue request pushed)
  · obtain ⟨request, pushed, origin⟩ := isIssue
    exact took.respects_issue before origin
  simp only [not_exists] at isIssue
  refine took.respects_of_inner ?_
  by_cases isNonce : event.origin = .arrived .nonce
  · have ran := took.ran
    obtain ⟨draws, drew, fresh, _⟩ := took.draws
    rw [isNonce] at ran drew
    obtain ⟨cNonce, drawn, rfl⟩ := Option.map_eq_some_iff.mp drew
    simp only [Origin.handler, Request.handler, drawn] at ran
    obtain ⟨_, inner, log⟩ := Outcome.mk.inj ran
    rw [← inner, ← log]
    exact .of_kept (nonces_kept before.grounded (fresh _ (.head _)))
  · exact took.writes.lift Respects.composes fun _ _ _ write => write.respects isIssue isNonce

theorem run_respects {trace : List Event} (before : Wellformed w)
    (run : (process crates state).Execution w trace w') :
    Wellformed w' ∧ Respects World.spent w (trace.flatMap Event.log) w' := by
  refine run.respects before ?_
  intro _ _ _ _ wellformed stepped
  have took := step_took stepped
  exact ⟨took.wellformed wellformed, took.respects wellformed⟩

end Steps

/-! ## What an event uses -/

section Uses

variable (crates : Crates) (state : AppState) (event : Event)

/-- The authorization endpoint redirects with a code for this request URI. -/
def Event.YieldsCode (uri : String) : Prop :=
  ∃ request pushed location, event.origin = .resumed (.authorizeIssue request pushed) ∧
    event.reply = .ok (.finished (.redirect location)) ∧ request.requestUri = uri

/-- The token endpoint answers this code with an access token. -/
def Event.YieldsToken (code : String) : Prop :=
  ∃ headers request response, event.origin = .arrived (.token headers request) ∧
    event.reply = .ok (.finished (.token response)) ∧ request.code = code

/-- The credential endpoint answers a proof over this nonce with a credential. -/
def Event.ConsumesNonce (cNonce : String) : Prop :=
  ∃ headers request response compact verified,
    event.origin = .arrived (.credential headers request) ∧
    event.reply = .ok (.finished (.credential response)) ∧ request.proofs = [compact] ∧
    verifyCredentialProof crates compact state.issuer event.env.proofClock = .ok verified ∧
    verified.nonce = cNonce

/-- An offer is created on evidence of this notary session. -/
def Event.CreatesOffer (sessionId : String) : Prop :=
  ∃ artifact response, OfferedArtifact crates state event.env event.origin artifact ∧
    event.reply = .ok (.finished (.offer response)) ∧ artifact.payload.sessionId = sessionId

end Uses

section Marks

variable {crates : Crates} {state : AppState} {w w' : World} {event : Event}

theorem Took.yieldsCode_mark (took : Took crates state w event w') {uri : String}
    (yields : event.YieldsCode uri) : Mark.authorizationCode uri ∈ event.log := by
  obtain ⟨request, pushed, location, origin, reply, rfl⟩ := yields
  have returned := took.returned reply
  rw [origin] at returned
  obtain ⟨_, answered, _⟩ := (returns_bind_pure _ _ _ _ _ _).mp returned
  obtain ⟨_, _, logged⟩ := (authorizeIssue_returns _ _ _ _).mp answered
  rw [logged]
  exact .head _

theorem Took.yieldsToken_mark (took : Took crates state w event w') {code : String}
    (yields : event.YieldsToken code) : Mark.accessToken code ∈ event.log := by
  obtain ⟨headers, request, response, origin, reply, rfl⟩ := yields
  have returned := took.returned reply
  rw [origin] at returned
  obtain ⟨_, answered, _⟩ := (returns_bind_pure _ _ _ _ _ _).mp returned
  obtain ⟨grant, _, _, logged⟩ := (token_returns _ _ _ _).mp answered
  rw [logged]
  exact .tail _ (.head _)

/-- A credential that was returned was granted in the state before. -/
theorem Took.credentialGrant (took : Took crates state w event w') {headers : HeaderMap}
    {request : CredentialRequest} {response : CredentialResponse}
    (origin : event.origin = .arrived (.credential headers request))
    (reply : event.reply = .ok (.finished (.credential response))) :
    ∃ grant : CredentialGrant crates state w.inner headers request event.env.dpopClock
        event.env.proofClock event.env.clock,
      encodeCredential crates state event.env.host grant.decision = .ok response ∧
        w'.inner = grant.after ∧ event.log = grant.marks := by
  have returned := took.returned reply
  rw [origin] at returned
  obtain ⟨_, answered, same⟩ := (returns_bind_pure _ _ _ _ _ _).mp returned
  cases same
  exact (credential_returns _ _ _ _ _).mp answered

theorem Took.consumesNonce_mark (took : Took crates state w event w') {cNonce : String}
    (consumes : event.ConsumesNonce crates state cNonce) :
    Mark.credentialNonce cNonce ∈ event.log := by
  obtain ⟨headers, request, response, compact, verified, origin, reply, proofs, accepted, rfl⟩ :=
    consumes
  obtain ⟨grant, _, _, logged⟩ := took.credentialGrant origin reply
  cases List.singleton_inj.mp (proofs.symm.trans grant.proofs)
  have same : verified = grant.holder.verified := by
    have again := (verifyCredentialProof_eq_ok _ _ _ _ _).mpr ⟨grant.holder, rfl⟩
    exact Except.ok.inj (accepted.symm.trans again)
  rw [logged, same]
  simp only [CredentialGrant.marks, List.mem_cons, List.mem_append, or_true, true_or]

theorem Took.createsOffer_mark (took : Took crates state w event w') {sessionId : String}
    (creates : event.CreatesOffer crates state sessionId) :
    Mark.tlsnOffer sessionId ∈ event.log := by
  obtain ⟨artifact, response, offered, reply, rfl⟩ := creates
  have returned := took.returned reply
  generalize event.origin = origin at offered returned
  cases offered with
  | supplied =>
      obtain ⟨_, answered, _⟩ := (returns_bind_pure _ _ _ _ _ _).mp returned
      exact buildTlsnOffer_marks answered
  | demo configured clocked made =>
      obtain ⟨_, answered, _⟩ := (returns_bind_pure _ _ _ _ _ _).mp returned
      simp only [tlsnDemoOffer, returns_okOr_bind, returns_ofExcept_bind, unixTime_eq_ok]
        at answered
      obtain ⟨_, found, _, read, _, same, built⟩ := answered
      cases configured.symm.trans found
      cases clocked.symm.trans read
      cases made.symm.trans same
      exact buildTlsnOffer_marks built

end Marks

/-! ## Runs -/

/-- No value that may be used once is used twice, neither by one event nor by two. -/
structure SingleUse (crates : Crates) (state : AppState) (trace : List Event) : Prop where
  requestUri : ∀ uri, AtMostOnce (Event.YieldsCode · uri) trace
  code : ∀ code, AtMostOnce (Event.YieldsToken · code) trace
  cNonce : ∀ cNonce, AtMostOnce (Event.ConsumesNonce crates state · cNonce) trace
  dpopJti : ∀ jti, AtMostOnce (fun event => Mark.dpopJti jti ∈ event.log) trace
  bindingJti : ∀ jti, AtMostOnce (fun event => Mark.bindingJti jti ∈ event.log) trace
  tlsnSession : ∀ sessionId, AtMostOnce (Event.CreatesOffer crates state · sessionId) trace
  within : ∀ event ∈ trace, event.log.Nodup

section Runs

variable {crates : Crates} {state : AppState} {instances : StringMap RegisteredInstance}
  {trace later : List Event} {w w' : World}

/-- Every event of a run was taken from some state of the run. -/
theorem event_took (run : (process crates state).Execution w trace w') {event : Event}
    (member : event ∈ trace) : ∃ before after, Took crates state before event after := by
  obtain ⟨first, last, rfl⟩ := List.append_of_mem member
  obtain ⟨before, after, _, _, stepped, _⟩ := run.at_event
  exact ⟨before, after, step_took stepped⟩

theorem single_use
    (run : (process crates state).Execution (World.initial instances) trace w) :
    SingleUse crates state trace ∧
    (∀ event ∈ trace, ∀ m ∈ event.log, w.spent m) ∧
    ∀ {later w'}, (process crates state).Execution w later w' → ∀ m, w.spent m →
      w'.spent m ∧ ∀ event ∈ later, m ∉ event.log := by
  obtain ⟨wellformed, respects⟩ := run_respects (wellformed_initial instances) run
  refine ⟨?_, ?_, ?_⟩
  · have marked : ∀ {P : Event → Prop} (m : Mark),
        (∀ {before after event}, Took crates state before event after → P event →
          m ∈ event.log) → AtMostOnce P trace := by
      intro P m mark
      refine atMostOnce_of_mark (m := m) respects.nodup fun event member held => ?_
      obtain ⟨before, after, took⟩ := event_took run member
      exact mark took held
    exact {
      requestUri := fun uri => marked (.authorizationCode uri)
        fun took held => took.yieldsCode_mark held
      code := fun code => marked (.accessToken code) fun took held => took.yieldsToken_mark held
      cNonce := fun cNonce => marked (.credentialNonce cNonce)
        fun took held => took.consumesNonce_mark held
      dpopJti := fun jti => marked (.dpopJti jti) fun _ held => held
      bindingJti := fun jti => marked (.bindingJti jti) fun _ held => held
      tlsnSession := fun sessionId => marked (.tlsnOffer sessionId)
        fun took held => took.createsOffer_mark held
      within := (List.nodup_flatMap.mp respects.nodup).1 }
  · intro event member m logged
    exact respects.nowSpent m (List.mem_flatMap.mpr ⟨event, member, logged⟩)
  · intro later w' continued m spent
    obtain ⟨_, after⟩ := run_respects wellformed continued
    refine ⟨after.kept m spent, fun event member logged => ?_⟩
    exact after.unspent m (List.mem_flatMap.mpr ⟨event, member, logged⟩) spent

end Runs

theorem single_use_reference :
    ∃ trace w, (process reference referenceState).Execution (World.initial ∅) trace w ∧
      (∃ event ∈ trace, ∃ response, event.reply = .ok (.finished (.credential response))) ∧
      SingleUse reference referenceState trace ∧ ∀ event ∈ trace, ∀ m ∈ event.log, w.spent m := by
  obtain ⟨earlier, event, w, _, _, response, run, _, reply⟩ := reference_issuance
  obtain ⟨once, spent, _⟩ := single_use run
  exact ⟨_, w, run, ⟨event, by simp, response, reply⟩, once, spent⟩

end VCIssuer.Service
