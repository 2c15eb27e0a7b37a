import VCIssuer.Library.Epochs
import VCIssuer.Service.Reissue

/-!
# The state is the history

The tables behind the authorization flow hold what the events of the history have
handed out, less what they have taken back, and nothing else.  Every endpoint of
the flow therefore decides from the history of the service alone.
-/

namespace VCIssuer.Service

open VCIssuer.Library
open VCIssuer.Library.Critical

/-! ## What the history says -/

section Words

/-- An authorization request names this request URI. -/
def Event.PresentsUri (event : Event) (uri : String) : Prop :=
  ∃ request, event.origin = .arrived (.authorize request) ∧ request.requestUri = uri

/-- The token endpoint answers this code with a token for the key of the DPoP proof. -/
def Event.GrantsToken (crates : Crates) (state : AppState) (event : Event)
    (accessToken code jkt : String) : Prop :=
  ∃ headers request response proof endpoint verified,
    event.origin = .arrived (.token headers request) ∧
    event.reply = .ok (.finished (.token response)) ∧ response.accessToken = accessToken ∧
    request.code = code ∧ headerStr headers "dpop" = some proof ∧
    crates.join state.issuer "token" = some endpoint ∧
    verifyDpop crates proof "POST" endpoint event.env.dpopClock = .ok verified ∧
    verified.jkt = jkt

def Event.AnswersNonce (event : Event) (cNonce : String) : Prop :=
  event.origin = .arrived .nonce ∧ event.reply = .ok (.finished (.nonce ⟨cNonce, 300⟩))

variable (crates : Crates) (state : AppState) (trace : List Event)

/-- A request was pushed under this URI, and the URI has not been presented since. -/
def Outstanding (uri : String) (pushed : PushedAuthorization) : Prop :=
  ∃ earlier push later request tlsnEvidence, trace = earlier ++ push :: later ∧
    ParCall state push uri request tlsnEvidence ∧ pushed = pushedOf request tlsnEvidence ∧
    ∀ event ∈ later, ¬ event.PresentsUri uri

def CodeIssued (code : String) (pushed : PushedAuthorization) : Prop :=
  ∃ event ∈ trace, ∃ request, AuthorizeCall crates event code request pushed

def TokenGranted (accessToken : String) (access : AccessToken) : Prop :=
  ∃ event ∈ trace, ∃ code pushed, event.GrantsToken crates state accessToken code access.dpopJkt ∧
    CodeIssued crates trace code pushed ∧ access.scope = pushed.scope ∧
    access.tlsnEvidence = pushed.tlsnEvidence

def NonceHandedOut (cNonce : String) : Prop :=
  ∃ event ∈ trace, event.AnswersNonce cNonce

def Marked (m : Mark) : Prop :=
  ∃ event ∈ trace, m ∈ event.log

end Words

/-- The tables of a state, read off a history. -/
structure Recorded (crates : Crates) (state : AppState) (trace : List Event) (s : VolatileState) :
    Prop where
  pushed : ∀ uri pushed, s.pushed.lookup uri = some pushed ↔ Outstanding state trace uri pushed
  codes : ∀ code entry, s.codes.lookup code = some entry ↔
    ∃ pushed, CodeIssued crates trace code pushed ∧
      entry = { codeOf pushed with consumed := entry.consumed } ∧
      (entry.consumed = true ↔ ∃ event ∈ trace, event.YieldsToken code)
  tokens : ∀ accessToken access, s.tokens.lookup accessToken = some access ↔
    TokenGranted crates state trace accessToken access
  nonces : ∀ cNonce used, s.nonces.lookup cNonce = some used ↔
    NonceHandedOut trace cNonce ∧ (used = true ↔ Marked trace (.credentialNonce cNonce))
  dpopJtis : ∀ jti, jti ∈ s.dpopJtis ↔ Marked trace (.dpopJti jti)
  bindingJtis : ∀ jti, jti ∈ s.bindingJtis ↔ Marked trace (.bindingJti jti)
  tlsnSessions : ∀ sessionId, sessionId ∈ s.tlsnSessions ↔ Marked trace (.tlsnOffer sessionId)

section Growth

variable {crates : Crates} {state : AppState} {trace later : List Event} {w w' : World}
  {event : Event}

theorem CodeIssued.mono {code : String} {pushed : PushedAuthorization} (subset : trace ⊆ later)
    (issued : CodeIssued crates trace code pushed) : CodeIssued crates later code pushed :=
  have ⟨event, member, request, call⟩ := issued
  ⟨event, subset member, request, call⟩

theorem TokenGranted.mono {accessToken : String} {access : AccessToken} (subset : trace ⊆ later)
    (granted : TokenGranted crates state trace accessToken access) :
    TokenGranted crates state later accessToken access :=
  have ⟨event, member, code, pushed, grants, issued, same⟩ := granted
  ⟨event, subset member, code, pushed, grants, issued.mono subset, same⟩

theorem marked_append {m : Mark} :
    Marked (trace ++ [event]) m ↔ Marked trace m ∨ m ∈ event.log := by
  simp [Marked, or_and_right, exists_or]

/-! ## Marks -/

/-- A write spends nothing without a mark. -/
theorem Write.spent_cases {env : Environment} {origin : Origin} {s t : VolatileState}
    {log : List Mark} (write : Write crates state env origin s log t) {m : Mark}
    (spent : t.spent m) : s.spent m ∨ m ∈ log := by
  have kept : ∀ {code : String} {map : StringMap AuthorizationCode} {key : String}
      {value : AuthorizationCode}, (∃ entry, (map.insert key value).lookup code = some entry ∧
        entry.consumed = true) → code = key ∧ value.consumed = true ∨
          ∃ entry, map.lookup code = some entry ∧ entry.consumed = true := by
    rintro code map key value ⟨entry, found, consumed⟩
    rcases lookup_insert_cases found with ⟨rfl, rfl⟩ | found
    · exact .inl ⟨rfl, consumed⟩
    · exact .inr ⟨entry, found, consumed⟩
  cases m with
  | accessToken code =>
      cases write with
      | issueCode request pushed =>
          rcases kept spent with ⟨_, impossible⟩ | before
          · cases impossible
          · exact .inl before
      | redeem headers request found unconsumed =>
          rcases kept spent with ⟨rfl, _⟩ | before
          · exact .inr (.head _)
          · exact .inl before
      | _ => exact .inl spent
  | credentialNonce cNonce =>
      cases write with
      | nonce drawn =>
          rcases lookup_insert_cases spent with ⟨_, impossible⟩ | before
          · cases impossible
          · exact .inl before
      | consumeNonce headers request unused =>
          rcases lookup_insert_cases spent with ⟨rfl, _⟩ | before
          · exact .inr (.head _)
          · exact .inl before
      | _ => exact .inl spent
  | dpopJti jti =>
      cases write with
      | dpopJti origin unused =>
          rcases List.mem_cons.mp spent with rfl | before
          · exact .inr (.head _)
          · exact .inl before
      | _ => exact .inl spent
  | bindingJti jti =>
      cases write with
      | bindingJti origin unused =>
          rcases List.mem_cons.mp spent with rfl | before
          · exact .inr (.head _)
          · exact .inl before
      | _ => exact .inl spent
  | tlsnOffer sessionId =>
      cases write with
      | tlsnOffer made unused issuerState =>
          rcases List.mem_cons.mp spent with rfl | before
          · exact .inr (.head _)
          · exact .inl before
      | _ => exact .inl spent
  | authorizationCode uri => exact spent.elim

/-- What is spent after a step was spent before it or is marked by it. -/
theorem Took.spent_cases (took : Took crates state w event w') {m : Mark}
    (spent : w'.inner.spent m) : w.inner.spent m ∨ m ∈ event.log := by
  have composes : Composes fun (s : VolatileState) (log : List Mark) (t : VolatileState) =>
      ∀ m, t.spent m → s.spent m ∨ m ∈ log := by
    refine ⟨fun s m spent => .inl spent, ?_⟩
    intro s t u log later first second m spent
    rcases second m spent with before | marked
    · exact (first m before).imp_right (List.mem_append_left _)
    · exact .inr (List.mem_append_right _ marked)
  exact took.writes.lift composes (fun _ _ _ write _ => write.spent_cases) m spent

/-- Away from request URIs, the ledgers of the state hold the marks of the history. -/
theorem run_spent_iff {instances : StringMap RegisteredInstance}
    (run : (process crates state).Execution (World.initial instances) trace w) {m : Mark}
    (notUri : ∀ uri, m ≠ .authorizationCode uri) : w.inner.spent m ↔ Marked trace m := by
  constructor
  · refine run.history (P := fun trace w => w.inner.spent m → Marked trace m) ?_ ?_
    · intro spent
      cases m with
      | authorizationCode => exact spent.elim
      | accessToken => obtain ⟨_, found, _⟩ := spent; cases found
      | credentialNonce => cases spent
      | _ => exact absurd spent List.not_mem_nil
    · intro _ _ _ _ _ _ before stepped spent
      exact marked_append.mpr (((step_took stepped).spent_cases spent).imp_left before)
  · rintro ⟨event, member, logged⟩
    have respects := (run_respects (wellformed_initial instances) run).2
    exact (World.spent_iff notUri).mp
      (respects.nowSpent m (List.mem_flatMap.mpr ⟨event, member, logged⟩))

/-! ## Pushed requests -/

theorem bind_pure_state {α β : Type} (first : Handler α) (wrap : α → β) (s : VolatileState) :
    ((first >>= fun a => pure (wrap a) : Handler β) s).state = (first s).state := by
  change (Critical.bind first (fun a => Critical.pure (wrap a)) s).state = _
  unfold Critical.bind
  obtain ⟨result, t, log⟩ := first s
  cases result with
  | error failure => rfl
  | ok a => rfl

/-- Whatever comes of it, an authorization request leaves nothing under the URI it names. -/
theorem authorize_takes (request : AuthorizationRequest) (s : VolatileState) :
    (authorize request s).state.pushed.lookup request.requestUri = none := by
  cases found : s.pushed.lookup request.requestUri with
  | none =>
      have rejected : Rejects (authorize request) s s [] := by
        simp [authorize, found]
      obtain ⟨failure, same⟩ := rejected
      rw [same]
      exact found
  | some pushed =>
      by_cases client : pushed.clientId = request.clientId
      · have returned : Returns (authorize request) s pushed _ [] :=
          (authorize_returns _ _).mpr ⟨found, client, rfl, rfl⟩
        rw [returned]
        exact AList.lookup_erase _ _
      · have rejected : Rejects (authorize request) s
            { s with pushed := s.pushed.erase request.requestUri } [] := by
          simp [authorize, found, client]
        obtain ⟨failure, same⟩ := rejected
        rw [same]
        exact AList.lookup_erase _ _

theorem outstanding_since {uri : String} {pushed : PushedAuthorization} :
    Outstanding state trace uri pushed ↔
      Epochs.Since (fun push => ∃ request tlsnEvidence, ParCall state push uri request tlsnEvidence ∧
        pushed = pushedOf request tlsnEvidence) (Event.PresentsUri · uri) trace := by
  constructor
  · rintro ⟨earlier, push, later, request, tlsnEvidence, whole, call, same, unpresented⟩
    exact ⟨earlier, push, later, whole, ⟨request, tlsnEvidence, call, same⟩, unpresented⟩
  · rintro ⟨earlier, push, later, whole, ⟨request, tlsnEvidence, call, same⟩, unpresented⟩
    exact ⟨earlier, push, later, request, tlsnEvidence, whole, call, same, unpresented⟩

theorem outstanding_append {uri : String} {pushed : PushedAuthorization} :
    Outstanding state (trace ++ [event]) uri pushed ↔
      Outstanding state trace uri pushed ∧ ¬ event.PresentsUri uri ∨
      ∃ request tlsnEvidence, ParCall state event uri request tlsnEvidence ∧
        pushed = pushedOf request tlsnEvidence := by
  rw [outstanding_since, outstanding_since, Epochs.since_concat]

/-- An authorization request changes the pushed requests at the URI it names only. -/
theorem Took.presented_lookup (took : Took crates state w event w')
    {request : AuthorizationRequest} (origin : event.origin = .arrived (.authorize request))
    {uri : String} (other : uri ≠ request.requestUri) :
    w'.inner.pushed.lookup uri = w.inner.pushed.lookup uri := by
  have wrote := took.writes
  rw [origin] at wrote
  refine wrote.preserves (P := fun u => u.pushed.lookup uri = w.inner.pushed.lookup uri) ?_ rfl
  intro u _ v write held
  cases write with
  | take request found => exact (AList.lookup_erase_ne other).trans held
  | _ => exact held

/-- Nothing else takes a pushed request away. -/
theorem Took.unpresented_pushed (took : Took crates state w event w')
    (notPush : ∀ request tlsnEvidence, event.origin ≠ .resumed (.parPush request tlsnEvidence))
    (notAuthorize : ∀ request, event.origin ≠ .arrived (.authorize request)) :
    w'.inner.pushed = w.inner.pushed := by
  have wrote := took.writes
  refine wrote.preserves (P := fun u => u.pushed = w.inner.pushed) ?_ rfl
  generalize event.origin = origin at wrote notPush notAuthorize
  intro u _ v write held
  cases write with
  | push request tlsnEvidence => exact absurd rfl (notPush request tlsnEvidence)
  | take request found => exact absurd rfl (notAuthorize request)
  | _ => exact held

theorem Took.pushed_recorded (took : Took crates state w event w') (grounded : w.Grounded)
    (traced : Traced crates state trace w)
    (before : ∀ uri pushed, w.inner.pushed.lookup uri = some pushed ↔
      Outstanding state trace uri pushed) (uri : String) (pushed : PushedAuthorization) :
    w'.inner.pushed.lookup uri = some pushed ↔
      Outstanding state (trace ++ [event]) uri pushed := by
  rw [outstanding_append, ← before]
  by_cases isPush : ∃ request tlsnEvidence, event.origin = .resumed (.parPush request tlsnEvidence)
  · obtain ⟨request, tlsnEvidence, origin⟩ := isPush
    have ran := took.ran
    rw [origin] at ran
    obtain ⟨reply, inner, _⟩ := Outcome.mk.inj ran
    have draws : event.origin.draws crates event.env = some [.uuid event.env.uuid] := by
      rw [origin]
      rfl
    have fresh := (took.drew draws (.head _)).1
    have unpresented : ¬ event.PresentsUri uri := by
      rintro ⟨_, other, _⟩
      cases origin.symm.trans other
    rw [← inner]
    constructor
    · intro found
      rcases lookup_insert_cases found with ⟨rfl, rfl⟩ | found
      · exact .inr ⟨request, tlsnEvidence,
          ⟨origin, reply.symm, rfl, traced.checked (took.resumed_mem origin)⟩, rfl⟩
      · exact .inl ⟨found, unpresented⟩
    · rintro (⟨found, _⟩ | ⟨_, _, call, rfl⟩)
      · refine (AList.lookup_insert_ne ?_).trans found
        rintro rfl
        obtain ⟨uuid, drawn, same⟩ := VolatileState.Grounded.pushed grounded (mem_of_lookup found)
        cases requestUriOf_injective same
        exact fresh drawn
      · cases origin.symm.trans call.origin
        rw [call.made]
        exact AList.lookup_insert _
  have notCall : ¬ ∃ request tlsnEvidence, ParCall state event uri request tlsnEvidence ∧
      pushed = pushedOf request tlsnEvidence := by
    rintro ⟨request, tlsnEvidence, call, _⟩
    exact isPush ⟨request, tlsnEvidence, call.origin⟩
  rw [or_iff_left notCall]
  simp only [not_exists] at isPush
  by_cases isAuthorize : ∃ request, event.origin = .arrived (.authorize request)
  · obtain ⟨request, origin⟩ := isAuthorize
    by_cases named : uri = request.requestUri
    · subst named
      have taken : w'.inner.pushed.lookup request.requestUri = none := by
        have ran := took.ran
        rw [origin] at ran
        have same : w'.inner = (authorize request w.inner).state := by
          rw [← (Outcome.mk.inj ran).2.1]
          exact bind_pure_state _ _ _
        rw [same]
        exact authorize_takes request w.inner
      rw [taken]
      refine ⟨nofun, ?_⟩
      rintro ⟨_, unpresented⟩
      exact absurd ⟨request, origin, rfl⟩ unpresented
    · rw [took.presented_lookup origin named]
      refine ⟨fun found => ⟨found, ?_⟩, And.left⟩
      rintro ⟨other, same, rfl⟩
      cases origin.symm.trans same
      exact named rfl
  · simp only [not_exists] at isAuthorize
    rw [took.unpresented_pushed isPush isAuthorize]
    refine ⟨fun found => ⟨found, ?_⟩, And.left⟩
    rintro ⟨other, same, _⟩
    exact isAuthorize other same

/-! ## Codes -/

theorem AuthorizeCall.codes {code : String} {request : AuthorizationRequest}
    {pushed : PushedAuthorization} (call : AuthorizeCall crates event code request pushed)
    (took : Took crates state w event w') :
    w'.inner.codes = w.inner.codes.insert code (codeOf pushed) := by
  have ran := took.ran
  rw [call.origin] at ran
  rw [← (Outcome.mk.inj ran).2.1, call.made]
  rfl

/-- An entry of the codes keeps everything but its mark of consumption. -/
theorem Took.code_kept (took : Took crates state w event w') (grounded : w.Grounded)
    {code : String} {entry : AuthorizationCode}
    (found : w.inner.codes.lookup code = some entry) :
    ∃ later, w'.inner.codes.lookup code = some later ∧
      later = { entry with consumed := later.consumed } := by
  have unchanged : w'.inner.codes = w.inner.codes → ∃ later,
      w'.inner.codes.lookup code = some later ∧
        later = { entry with consumed := later.consumed } := fun same =>
    ⟨entry, by rw [same]; exact found, rfl⟩
  cases took.authorizationStep with
  | checked _ _ _ _ _ inner => exact unchanged (by rw [inner])
  | pushed _ _ _ _ inner => exact unchanged (by rw [inner])
  | taken _ _ _ _ _ _ inner => exact unchanged (by rw [inner])
  | aside _ _ _ codes => exact unchanged codes
  | issued request pushed origin reply inner =>
      have draws : event.origin.draws crates event.env =
          some [.token (randomToken crates event.env.octets)] := by rw [origin]; rfl
      rw [inner]
      refine ⟨entry, (AList.lookup_insert_ne ?_).trans found, rfl⟩
      rintro rfl
      exact (took.drew draws (.head _)).1
        (VolatileState.Grounded.codes grounded (mem_of_lookup found))
  | redeemed headers request grant origin reply inner =>
      rw [inner]
      by_cases same : code = request.code
      · subst same
        cases grant.codeFound.symm.trans found
        exact ⟨_, AList.lookup_insert _, rfl⟩
      · exact ⟨entry, (AList.lookup_insert_ne same).trans found, rfl⟩

/-- A code that was issued has its entry from then on. -/
theorem run_code_issued {instances : StringMap RegisteredInstance}
    (run : (process crates state).Execution (World.initial instances) trace w) {code : String}
    {pushed : PushedAuthorization} (issued : CodeIssued crates trace code pushed) :
    ∃ entry, w.inner.codes.lookup code = some entry ∧
      entry = { codeOf pushed with consumed := entry.consumed } := by
  revert issued
  refine run.history (P := fun trace w => CodeIssued crates trace code pushed → ∃ entry,
    w.inner.codes.lookup code = some entry ∧
      entry = { codeOf pushed with consumed := entry.consumed }) ?_ ?_
  · rintro ⟨_, member, _⟩
    cases member
  · rintro _ _ _ _ _ earlier before stepped ⟨last, member, request, call⟩
    have took := step_took stepped
    rcases List.mem_append.mp member with member | member
    · obtain ⟨entry, found, same⟩ := before ⟨last, member, request, call⟩
      obtain ⟨later, kept, still⟩ := took.code_kept (run_grounded earlier) found
      refine ⟨later, kept, still.trans ?_⟩
      rw [same]
    · cases List.mem_singleton.mp member
      rw [call.codes took]
      exact ⟨_, AList.lookup_insert _, rfl⟩

/-- A code stands for one pushed request. -/
theorem run_code_unique {instances : StringMap RegisteredInstance}
    (run : (process crates state).Execution (World.initial instances) trace w) {code : String}
    {first second : PushedAuthorization} (issued : CodeIssued crates trace code first)
    (again : CodeIssued crates trace code second) : codeOf first = codeOf second := by
  obtain ⟨entry, found, same⟩ := run_code_issued run issued
  obtain ⟨other, foundToo, sameToo⟩ := run_code_issued run again
  cases found.symm.trans foundToo
  have of_entry : ∀ {pushed : PushedAuthorization},
      entry = { codeOf pushed with consumed := entry.consumed } →
      codeOf pushed = { entry with consumed := false } := by
    intro pushed same
    rw [same]
    rfl
  exact (of_entry same).trans (of_entry sameToo).symm

/-- The codes that have been redeemed are those that the token endpoint has answered. -/
theorem Took.redeems_iff (took : Took crates state w event w') (before : Wellformed w)
    {code : String} : Mark.accessToken code ∈ event.log ↔ event.YieldsToken code := by
  refine ⟨fun logged => ?_, took.yieldsToken_mark⟩
  have respects := took.respects before
  have spent : w'.inner.spent (.accessToken code) := respects.nowSpent _ logged
  have unspent : ¬ w.inner.spent (.accessToken code) := respects.unspent _ logged
  have unchanged : w'.inner.codes = w.inner.codes → event.YieldsToken code := by
    intro same
    refine absurd ?_ unspent
    obtain ⟨entry, found, consumed⟩ := spent
    exact ⟨entry, same ▸ found, consumed⟩
  cases took.authorizationStep with
  | checked _ _ _ _ _ inner => exact unchanged (by rw [inner])
  | pushed _ _ _ _ inner => exact unchanged (by rw [inner])
  | taken _ _ _ _ _ _ inner => exact unchanged (by rw [inner])
  | aside _ _ _ codes => exact unchanged codes
  | issued request pushed origin reply inner log =>
      rw [log] at logged
      cases List.mem_singleton.mp logged
  | redeemed headers request grant origin reply inner log =>
      rw [log] at logged
      have same : code = request.code := by simpa [TokenGrant.marks] using logged
      exact ⟨headers, request, _, origin, reply, same.symm⟩

theorem run_redeemed_iff {instances : StringMap RegisteredInstance}
    (run : (process crates state).Execution (World.initial instances) trace w) {code : String} :
    Marked trace (.accessToken code) ↔ ∃ event ∈ trace, event.YieldsToken code := by
  refine exists_congr fun event => and_congr_right fun member => ?_
  obtain ⟨earlier, later, rfl⟩ := List.append_of_mem member
  obtain ⟨_, _, _, before, stepped, _⟩ := run.at_event
  exact (step_took stepped).redeems_iff (run_respects (wellformed_initial instances) before).1

theorem run_codes_recorded {instances : StringMap RegisteredInstance}
    (run : (process crates state).Execution (World.initial instances) trace w) (code : String)
    (entry : AuthorizationCode) :
    w.inner.codes.lookup code = some entry ↔
      ∃ pushed, CodeIssued crates trace code pushed ∧
        entry = { codeOf pushed with consumed := entry.consumed } ∧
        (entry.consumed = true ↔ ∃ event ∈ trace, event.YieldsToken code) := by
  have consumed_iff : ∀ {entry}, w.inner.codes.lookup code = some entry →
      (entry.consumed = true ↔ ∃ event ∈ trace, event.YieldsToken code) := by
    intro entry found
    rw [← run_redeemed_iff run, ← run_spent_iff (m := .accessToken code) run nofun]
    refine ⟨fun consumed => ⟨entry, found, consumed⟩, ?_⟩
    rintro ⟨_, same, consumed⟩
    cases found.symm.trans same
    exact consumed
  constructor
  · intro found
    obtain ⟨event, member, request, pushed, call, same, _⟩ := (run_traced run).codes found
    exact ⟨pushed, ⟨event, member, request, call⟩, same, consumed_iff found⟩
  · rintro ⟨pushed, issued, same, redeemed⟩
    obtain ⟨other, found, still⟩ := run_code_issued run issued
    have agree : other.consumed = entry.consumed :=
      Bool.eq_iff_iff.mpr ((consumed_iff found).trans redeemed.symm)
    rw [found, still, same, agree]

/-! ## Tokens -/

/-- The answer of the token endpoint and the entry it makes. -/
theorem Took.grantsToken_iff (took : Took crates state w event w')
    {accessToken code jkt : String} :
    event.GrantsToken crates state accessToken code jkt ↔
      ∃ headers request, ∃ grant : TokenGrant crates state w.inner headers request
          event.env.dpopClock,
        event.origin = .arrived (.token headers request) ∧
        event.reply = .ok (.finished (.token (grant.response event.env.octets))) ∧
        w'.inner = grant.after event.env.octets ∧
        accessToken = randomToken crates event.env.octets ∧ request.code = code ∧
        grant.dpop.verified.jkt = jkt := by
  constructor
  · rintro ⟨headers, request, response, proof, endpoint, verified, origin, reply, rfl, named, given,
      joined, accepted, rfl⟩
    have returned := took.returned reply
    rw [origin] at returned
    obtain ⟨_, answered, same⟩ := (returns_bind_pure _ _ _ _ _ _).mp returned
    cases same
    obtain ⟨grant, rfl, inner, _⟩ := (token_returns _ _ _ _).mp answered
    refine ⟨headers, request, grant, origin, reply, inner, rfl, named, ?_⟩
    have again := (verifyDpop_eq_ok _ _ _ _ _ _).mpr ⟨grant.dpop, rfl⟩
    cases given.symm.trans grant.proofGiven
    cases joined.symm.trans grant.endpointJoined
    cases accepted.symm.trans again
    rfl
  · rintro ⟨headers, request, grant, origin, reply, _, rfl, named, rfl⟩
    exact ⟨headers, request, _, grant.proof, grant.endpoint, _, origin, reply, rfl, named,
      grant.proofGiven, grant.endpointJoined, (verifyDpop_eq_ok _ _ _ _ _ _).mpr ⟨grant.dpop, rfl⟩,
      rfl⟩

theorem run_token_granted {instances : StringMap RegisteredInstance}
    (run : (process crates state).Execution (World.initial instances) trace w)
    {accessToken : String} {access : AccessToken}
    (granted : TokenGranted crates state trace accessToken access) :
    w.inner.tokens.lookup accessToken = some access := by
  obtain ⟨event, member, code, pushed, grants, issued, scope, evidence⟩ := granted
  have whole := run
  obtain ⟨earlier, later, rfl⟩ := List.append_of_mem member
  obtain ⟨_, _, _, before, stepped, after⟩ := run.at_event
  have took := step_took stepped
  obtain ⟨headers, request, grant, origin, reply, inner, rfl, rfl, jkt⟩ :=
    took.grantsToken_iff.mp grants
  obtain ⟨first, known, same, _⟩ := (run_codes_recorded before _ _).mp grant.codeFound
  have agree : codeOf first = codeOf pushed :=
    run_code_unique whole (known.mono (List.subset_append_left _ _)) issued
  have made : grant.access = access := by
    have firstScope : grant.code.scope = first.scope := congrArg AuthorizationCode.scope same
    have firstEvidence : grant.code.tlsnEvidence = first.tlsnEvidence :=
      congrArg AuthorizationCode.tlsnEvidence same
    have scopes : first.scope = pushed.scope := congrArg AuthorizationCode.scope agree
    have evidences : first.tlsnEvidence = pushed.tlsnEvidence :=
      congrArg AuthorizationCode.tlsnEvidence agree
    obtain ⟨_, _, _⟩ := access
    simp only [TokenGrant.access, AccessToken.mk.injEq]
    exact ⟨(firstScope.trans scopes).trans scope.symm, jkt,
      (firstEvidence.trans evidences).trans evidence.symm⟩
  refine run_token_kept after (took.grounded (run_grounded before)) ?_
  rw [inner, ← made]
  exact AList.lookup_insert _

theorem run_tokens_recorded {instances : StringMap RegisteredInstance}
    (run : (process crates state).Execution (World.initial instances) trace w)
    (accessToken : String) (access : AccessToken) :
    w.inner.tokens.lookup accessToken = some access ↔
      TokenGranted crates state trace accessToken access := by
  refine ⟨?_, run_token_granted run⟩
  refine run.history (P := fun trace w => w.inner.tokens.lookup accessToken = some access →
    TokenGranted crates state trace accessToken access) (by rintro ⟨⟩) ?_
  intro earlier _ _ _ event past before stepped found
  have took := step_took stepped
  have grows : earlier ⊆ earlier ++ [event] := List.subset_append_left _ _
  cases took.authorizationStep with
  | checked _ _ _ _ _ inner => rw [inner] at found; exact (before found).mono grows
  | pushed _ _ _ _ inner => rw [inner] at found; exact (before found).mono grows
  | taken _ _ _ _ _ _ inner => rw [inner] at found; exact (before found).mono grows
  | issued _ _ _ _ inner => rw [inner] at found; exact (before found).mono grows
  | aside _ _ _ _ tokens => rw [tokens] at found; exact (before found).mono grows
  | redeemed headers request grant origin reply inner =>
      rw [inner] at found
      rcases lookup_insert_cases found with ⟨rfl, rfl⟩ | found
      · obtain ⟨pushed, issued, same, _⟩ := (run_codes_recorded past _ _).mp grant.codeFound
        exact ⟨event, List.mem_append_right _ (.head _), request.code, pushed,
          took.grantsToken_iff.mpr ⟨headers, request, grant, origin, reply, inner, rfl, rfl, rfl⟩,
          issued.mono grows, congrArg AuthorizationCode.scope same,
          congrArg AuthorizationCode.tlsnEvidence same⟩
      · exact (before found).mono grows

/-! ## Nonces -/

theorem Took.handsOutNonce (took : Took crates state w event w')
    (origin : event.origin = .arrived .nonce) : ∃ cNonce, event.AnswersNonce cNonce ∧
      event.origin.draws crates event.env = some [.nonce cNonce] ∧
      w'.inner.nonces = w.inner.nonces.insert cNonce false := by
  obtain ⟨draws, drew, _, _⟩ := took.draws
  have ran := took.ran
  rw [origin] at ran drew
  obtain ⟨cNonce, drawn, rfl⟩ := Option.map_eq_some_iff.mp drew
  simp only [Origin.handler, Request.handler, drawn] at ran
  obtain ⟨reply, inner, _⟩ := Outcome.mk.inj ran
  refine ⟨cNonce, ⟨origin, reply.symm⟩, by rw [origin]; exact drew, ?_⟩
  rw [← inner]
  rfl

/-- Every other step overwrites nonces that are there. -/
theorem Took.nonce_mem (took : Took crates state w event w')
    (notNonce : event.origin ≠ .arrived .nonce) {cNonce : String} :
    cNonce ∈ w'.inner.nonces ↔ cNonce ∈ w.inner.nonces := by
  have wrote := took.writes
  refine wrote.preserves (P := fun u => cNonce ∈ u.nonces ↔ cNonce ∈ w.inner.nonces) ?_ Iff.rfl
  generalize event.origin = origin at wrote notNonce
  intro u _ v write held
  cases write with
  | nonce drawn => exact absurd rfl notNonce
  | consumeNonce headers request unused =>
      refine Iff.trans ⟨mem_of_mem_overwritten unused, fun member => ?_⟩ held
      exact (AList.mem_insert _).mpr (.inr member)
  | _ => exact held

theorem run_nonce_mem {instances : StringMap RegisteredInstance}
    (run : (process crates state).Execution (World.initial instances) trace w) (cNonce : String) :
    cNonce ∈ w.inner.nonces ↔ NonceHandedOut trace cNonce := by
  refine run.history (P := fun trace w => cNonce ∈ w.inner.nonces ↔ NonceHandedOut trace cNonce)
    ?_ ?_
  · exact ⟨fun member => absurd member (AList.notMem_empty _), fun ⟨_, member, _⟩ => nomatch member⟩
  · intro earlier _ _ _ event _ before stepped
    have took := step_took stepped
    have split : NonceHandedOut (earlier ++ [event]) cNonce ↔
        NonceHandedOut earlier cNonce ∨ event.AnswersNonce cNonce := by
      simp [NonceHandedOut, or_and_right, exists_or]
    rw [split, ← before]
    by_cases isNonce : event.origin = .arrived .nonce
    · obtain ⟨drawn, handed, _, nonces⟩ := took.handsOutNonce isNonce
      rw [nonces, AList.mem_insert, or_comm]
      refine or_congr_right ⟨?_, ?_⟩
      · rintro rfl
        exact handed
      · rintro ⟨_, reply⟩
        cases handed.2.symm.trans reply
        rfl
    · rw [took.nonce_mem isNonce, or_iff_left]
      exact fun handed => isNonce handed.1

theorem run_nonces_recorded {instances : StringMap RegisteredInstance}
    (run : (process crates state).Execution (World.initial instances) trace w) (cNonce : String)
    (used : Bool) :
    w.inner.nonces.lookup cNonce = some used ↔
      NonceHandedOut trace cNonce ∧ (used = true ↔ Marked trace (.credentialNonce cNonce)) := by
  have marked : w.inner.nonces.lookup cNonce = some true ↔
      Marked trace (.credentialNonce cNonce) :=
    run_spent_iff (m := .credentialNonce cNonce) run nofun
  rw [← run_nonce_mem run, ← marked, ← AList.lookup_isSome]
  cases w.inner.nonces.lookup cNonce with
  | none => simp
  | some value => cases value <;> cases used <;> simp

theorem run_pushed_recorded {instances : StringMap RegisteredInstance}
    (run : (process crates state).Execution (World.initial instances) trace w) (uri : String)
    (pushed : PushedAuthorization) :
    w.inner.pushed.lookup uri = some pushed ↔ Outstanding state trace uri pushed := by
  refine run.history (P := fun trace w => ∀ uri pushed,
    w.inner.pushed.lookup uri = some pushed ↔ Outstanding state trace uri pushed) ?_ ?_ uri pushed
  · intro uri pushed
    refine ⟨by rintro ⟨⟩, ?_⟩
    rintro ⟨_, _, _, _, _, impossible, _⟩
    simp at impossible
  · intro _ _ _ _ _ past before stepped
    exact (step_took stepped).pushed_recorded (run_grounded past) (run_traced past) before

end Growth

/-! ## The endpoints -/

/-- A credential request that the history entitles to a credential, up to the kernel's checks. -/
structure Entitlement (crates : Crates) (state : AppState) (trace : List Event)
    (headers : HeaderMap) (request : CredentialRequest)
    (dpopClock proofClock clock : ClockReading) where
  token : String
  access : AccessToken
  proof : String
  endpoint : Url
  dpop : DpopProof crates proof "POST" endpoint dpopClock
  compact : String
  holder : HolderProof crates compact state.issuer proofClock
  now : UInt64
  pidBinding : Option VerifiedPidBinding
  chipLiveness : Option VerifiedChipLiveness
  tokenGiven : bearer headers = some token
  granted : TokenGranted crates state trace token access
  inScope : request.credentialConfigurationId ∈ Text.splitAsciiWhitespace access.scope
  tlsnBound : request.credentialConfigurationId = tlsnEvidenceSdJwt → access.tlsnEvidence.isSome
  proofGiven : headerStr headers "dpop" = some proof
  endpointJoined : crates.join state.issuer "credential" = some endpoint
  dpopFresh : ¬ Marked trace (.dpopJti dpop.verified.jti)
  dpopKey : dpop.verified.jkt = access.dpopJkt
  proofs : request.proofs = [compact]
  holderKey : holder.verified.holderJkt = access.dpopJkt
  handedOut : NonceHandedOut trace holder.verified.nonce
  unused : ¬ Marked trace (.credentialNonce holder.verified.nonce)
  clocked : clock = some now
  pidChecked : PidBindingChecked crates state request holder.verified now pidBinding
  pidFresh : ∀ verified ∈ pidBinding, ¬ Marked trace (.bindingJti verified.jti)
  chipChecked : ChipLivenessChecked crates state request holder.verified now chipLiveness
  chipFresh : ∀ verified ∈ chipLiveness, ¬ Marked trace (.bindingJti verified.jti)
  admitted : Admitted request.credentialConfigurationId (pidBinding.map (·.subject)) chipLiveness
    now

section Endpoints

variable {crates : Crates} {state : AppState} {instances : StringMap RegisteredInstance}
  {earlier trace : List Event} {w w' : World} {event : Event} {headers : HeaderMap}

def Entitlement.decision {request : CredentialRequest} {dpopClock proofClock clock : ClockReading}
    (entitlement : Entitlement crates state trace headers request dpopClock proofClock clock) :
    Decision where
  configurationId := request.credentialConfigurationId
  proof := entitlement.holder.verified
  now := entitlement.now
  tlsnEvidence := entitlement.access.tlsnEvidence
  chipLiveness := entitlement.chipLiveness
  mandateGrant := grantOf crates request.credentialConfigurationId
    (entitlement.pidBinding.map (·.subject)) entitlement.chipLiveness

/-- A grant in a state that a run reaches is an entitlement by its history. -/
theorem run_entitled_iff {request : CredentialRequest} {dpopClock proofClock clock : ClockReading}
    (run : (process crates state).Execution (World.initial instances) trace w)
    (decision : Decision) :
    (∃ grant : CredentialGrant crates state w.inner headers request dpopClock proofClock clock,
        grant.decision = decision) ↔
      ∃ entitlement : Entitlement crates state trace headers request dpopClock proofClock clock,
        entitlement.decision = decision := by
  have dpopJti : ∀ jti, jti ∈ w.inner.dpopJtis ↔ Marked trace (.dpopJti jti) := fun jti =>
    run_spent_iff (m := .dpopJti jti) run nofun
  have bindingJti : ∀ jti, jti ∈ w.inner.bindingJtis ↔ Marked trace (.bindingJti jti) := fun jti =>
    run_spent_iff (m := .bindingJti jti) run nofun
  constructor
  · rintro ⟨grant, rfl⟩
    obtain ⟨handedOut, unused⟩ := (run_nonces_recorded run _ _).mp grant.nonceUnused
    exact ⟨{
      grant with
      granted := (run_tokens_recorded run _ _).mp grant.accessFound
      dpopFresh := (dpopJti _).not.mp grant.dpopFresh
      dpopKey := grant.dpopKey.trans grant.bound.symm
      holderKey := grant.holderKey.trans grant.bound.symm
      handedOut
      unused := unused.not.mp Bool.false_ne_true
      pidFresh := fun verified member => (bindingJti _).not.mp (grant.pidFresh verified member)
      chipFresh := fun verified member => (bindingJti _).not.mp (grant.chipFresh verified member) },
      rfl⟩
  · rintro ⟨entitlement, rfl⟩
    exact ⟨{
      entitlement with
      jkt := entitlement.access.dpopJkt
      accessFound := (run_tokens_recorded run _ _).mpr entitlement.granted
      bound := rfl
      dpopFresh := (dpopJti _).not.mpr entitlement.dpopFresh
      nonceUnused := (run_nonces_recorded run _ _).mpr ⟨entitlement.handedOut,
        ⟨fun impossible => absurd impossible Bool.false_ne_true,
          fun marked => absurd marked entitlement.unused⟩⟩
      pidFresh := fun verified member =>
        (bindingJti _).not.mpr (entitlement.pidFresh verified member)
      chipFresh := fun verified member =>
        (bindingJti _).not.mpr (entitlement.chipFresh verified member) }, rfl⟩

/-- Every table of the authorization flow can be read off the history. -/
theorem run_recorded
    (run : (process crates state).Execution (World.initial instances) trace w) :
    Recorded crates state trace w.inner where
  pushed := run_pushed_recorded run
  codes := run_codes_recorded run
  tokens := run_tokens_recorded run
  nonces := run_nonces_recorded run
  dpopJtis jti := run_spent_iff (m := .dpopJti jti) run nofun
  bindingJtis jti := run_spent_iff (m := .bindingJti jti) run nofun
  tlsnSessions sessionId := run_spent_iff (m := .tlsnOffer sessionId) run nofun

/-- An authorization request goes on exactly when the history has pushed its URI for the same
client and nobody has presented the URI since. -/
theorem Took.proceeds_iff (took : Took crates state w event w')
    (past : (process crates state).Execution (World.initial instances) earlier w)
    {request : AuthorizationRequest}
    (origin : event.origin = .arrived (.authorize request)) :
    (∃ pushed, event.reply = .ok (.suspended (.authorizeIssue request pushed))) ↔
      ∃ pushed, Outstanding state earlier request.requestUri pushed ∧
        pushed.clientId = request.clientId := by
  refine exists_congr fun pushed => ?_
  rw [← run_pushed_recorded past]
  constructor
  · intro reply
    have returned := took.returned reply
    rw [origin] at returned
    obtain ⟨_, answered, same⟩ := (returns_bind_pure _ _ _ _ _ _).mp returned
    cases same
    obtain ⟨found, client, _, _⟩ := (authorize_returns _ _).mp answered
    exact ⟨found, client⟩
  · rintro ⟨found, client⟩
    have answered := (authorize_returns request pushed).mpr ⟨found, client, rfl, rfl⟩
    exact took.replied origin ((returns_bind_pure _ _ _ _ _ _).mpr ⟨pushed, answered, rfl⟩)

/-- A code is worth a token exactly until it has been redeemed, to the client that pushed the
request and knows its verifier, with a DPoP proof that was not accepted before. -/
theorem Took.answersToken_iff (took : Took crates state w event w')
    (past : (process crates state).Execution (World.initial instances) earlier w)
    {request : TokenRequest}
    (origin : event.origin = .arrived (.token headers request)) :
    (∃ response, event.reply = .ok (.finished (.token response))) ↔
      request.grantType = "authorization_code" ∧
      (∃ proof endpoint verified, headerStr headers "dpop" = some proof ∧
        crates.join state.issuer "token" = some endpoint ∧
        verifyDpop crates proof "POST" endpoint event.env.dpopClock = .ok verified ∧
        ¬ Marked earlier (.dpopJti verified.jti)) ∧
      ∃ pushed, CodeIssued crates earlier request.code pushed ∧
        (∀ other ∈ earlier, ¬ other.YieldsToken request.code) ∧
        pushed.clientId = request.clientId ∧ pushed.redirectUri = request.redirectUri ∧
        crates.digest request.codeVerifier = pushed.codeChallenge := by
  have dpopJti : ∀ jti, jti ∈ w.inner.dpopJtis ↔ Marked earlier (.dpopJti jti) := fun jti =>
    run_spent_iff (m := .dpopJti jti) past nofun
  constructor
  · rintro ⟨response, reply⟩
    have returned := took.returned reply
    rw [origin] at returned
    obtain ⟨_, answered, _⟩ := (returns_bind_pure _ _ _ _ _ _).mp returned
    obtain ⟨grant, _, _, _⟩ := (token_returns _ _ _ _).mp answered
    obtain ⟨pushed, issued, same, redeemed⟩ := (run_codes_recorded past _ _).mp grant.codeFound
    refine ⟨grant.grantType, ⟨grant.proof, grant.endpoint, _, grant.proofGiven,
      grant.endpointJoined, (verifyDpop_eq_ok _ _ _ _ _ _).mpr ⟨grant.dpop, rfl⟩,
      (dpopJti _).not.mp grant.dpopFresh⟩, pushed, issued, ?_, ?_, ?_, ?_⟩
    · intro other member yields
      have consumed := redeemed.mpr ⟨other, member, yields⟩
      rw [grant.unconsumed] at consumed
      cases consumed
    · exact (congrArg AuthorizationCode.clientId same).symm.trans grant.clientMatches
    · exact (congrArg AuthorizationCode.redirectUri same).symm.trans grant.redirectMatches
    · exact grant.pkce.trans (congrArg AuthorizationCode.codeChallenge same)
  · rintro ⟨grantType, ⟨proof, endpoint, verified, proofGiven, joined, accepted, fresh⟩, pushed,
      issued, unredeemed, client, redirect, pkce⟩
    obtain ⟨dpop, rfl⟩ := (verifyDpop_eq_ok _ _ _ _ _ _).mp accepted
    have found : w.inner.codes.lookup request.code = some (codeOf pushed) :=
      (run_codes_recorded past _ _).mpr ⟨pushed, issued, rfl,
        ⟨nofun, fun ⟨other, member, yields⟩ => absurd yields (unredeemed other member)⟩⟩
    have grant : TokenGrant crates state w.inner headers request event.env.dpopClock := {
      proof, endpoint, dpop, grantType, proofGiven
      code := codeOf pushed
      endpointJoined := joined
      dpopFresh := (dpopJti _).not.mpr fresh
      codeFound := found
      unconsumed := rfl
      clientMatches := client
      redirectMatches := redirect
      pkce }
    exact ⟨_, took.replied origin ((returns_bind_pure _ _ _ _ _ _).mpr
      ⟨_, (token_returns _ _ _ _).mpr ⟨grant, rfl, rfl, rfl⟩, rfl⟩)⟩

/-- A credential request is answered exactly when the history entitles it to a credential and the
credential can be encoded. -/
theorem Took.answersCredential_iff (took : Took crates state w event w')
    (past : (process crates state).Execution (World.initial instances) earlier w)
    {request : CredentialRequest}
    (origin : event.origin = .arrived (.credential headers request)) :
    (∃ response, event.reply = .ok (.finished (.credential response))) ↔
      ∃ entitlement : Entitlement crates state earlier headers request event.env.dpopClock
          event.env.proofClock event.env.clock,
        ∃ response, encodeCredential crates state event.env.host entitlement.decision =
          .ok response := by
  constructor
  · rintro ⟨response, reply⟩
    obtain ⟨grant, encoded, _, _⟩ := took.credentialGrant origin reply
    obtain ⟨entitlement, same⟩ := (run_entitled_iff past _).mp ⟨grant, rfl⟩
    exact ⟨entitlement, response, same ▸ encoded⟩
  · rintro ⟨entitlement, response, encoded⟩
    obtain ⟨grant, same⟩ := (run_entitled_iff past _).mpr ⟨entitlement, rfl⟩
    have answered := (credential_returns event.env.dpopClock event.env.proofClock event.env.clock
      event.env.host response).mpr ⟨grant, same ▸ encoded, rfl, rfl⟩
    exact ⟨response, took.replied origin ((returns_bind_pure _ _ _ _ _ _).mpr
      ⟨response, answered, rfl⟩)⟩

end Endpoints

end VCIssuer.Service
