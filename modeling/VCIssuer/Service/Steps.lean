import VCIssuer.Service.Writes

/-!
# What a step does

A step of the process takes at most one waiting task, draws fresh values, and
runs one section.  The authorization part of the state changes in six ways only.
-/

namespace VCIssuer.Service

open VCIssuer.Library
open VCIssuer.Library.Critical

/-- The waiting task that a step takes up. -/
def Origin.tasks : Origin → List Task
  | .arrived _ => []
  | .resumed task => [task]

structure Took (crates : Crates) (state : AppState) (w : World) (event : Event) (w' : World) :
    Prop where
  tasks : ∃ waiting, w.tasks.Perm (event.origin.tasks ++ waiting) ∧
    w'.tasks = waiting ++ suspendedTask event.reply
  draws : ∃ draws, event.origin.draws crates event.env = some draws ∧
    (∀ draw ∈ draws, draw ∉ w.drawn) ∧ w'.drawn = w.drawn ++ draws
  ran : event.origin.handler crates state event.env w.inner = ⟨event.reply, w'.inner, event.log⟩

section Inversion

variable {crates : Crates} {state : AppState} {w w' : World} {action : Action} {event : Event}

theorem execute_took {waiting : List Task} {origin : Origin} {env : Environment}
    (left : w.tasks.Perm (origin.tasks ++ waiting))
    (executed : execute crates state w waiting origin env = some (w', event)) :
    Took crates state w event w' := by
  unfold execute at executed
  split at executed
  case h_1 => cases executed
  case h_2 draws drew =>
    split at executed
    case isTrue fresh =>
      cases executed
      exact ⟨⟨waiting, left, rfl⟩, ⟨draws, drew, fresh, rfl⟩, rfl⟩
    case isFalse => cases executed

theorem step_took (stepped : (process crates state).step w action = some (w', event)) :
    Took crates state w event w' := by
  change step crates state w action = _ at stepped
  cases action with
  | arrive request env =>
      exact execute_took (List.Perm.refl _) stepped
  | resume index env =>
      simp only [step] at stepped
      split at stepped
      case h_1 => cases stepped
      case h_2 task found =>
        obtain ⟨inside, rfl⟩ := List.getElem?_eq_some_iff.mp found
        exact execute_took (List.getElem_cons_eraseIdx_perm inside).symm stepped

/-- The events of a run determine the volatile state that it leads to. -/
theorem run_inner_unique {start v : World} {trace : List Event}
    (run : (process crates state).Execution start trace w)
    (again : (process crates state).Execution start trace v) : w.inner = v.inner := by
  induction run generalizing v with
  | start => rw [again.of_nil]
  | step _ accepted same =>
      obtain ⟨u, before, last⟩ := again.split
      obtain ⟨_, stepped⟩ := last.of_singleton
      have ran := (step_took accepted).ran
      rw [same before] at ran
      exact (Outcome.mk.inj (ran.symm.trans (step_took stepped).ran)).2.1

/-- An arriving request is the origin of the event that its step reports. -/
theorem arrive_origin {request : Request} {env : Environment}
    (stepped : (process crates state).step w (.arrive request env) = some (w', event)) :
    event.origin = .arrived request ∧ event.env = env := by
  change execute crates state w w.tasks (.arrived request) env = _ at stepped
  unfold execute at stepped
  split at stepped
  case h_1 => cases stepped
  case h_2 =>
    split at stepped
    case isTrue => cases stepped; exact ⟨rfl, rfl⟩
    case isFalse => cases stepped

theorem Took.writes (took : Took crates state w event w') :
    Writes crates state event.env event.origin w.inner event.log w'.inner := by
  have wrote : Keeps (Writes crates state event.env event.origin) w.inner
      (event.origin.handler crates state event.env) :=
    handler_writes event.origin
  unfold Keeps at wrote
  rw [took.ran] at wrote
  exact wrote

theorem Took.returned (took : Took crates state w event w') {progress : Progress}
    (replied : event.reply = .ok progress) :
    Returns (event.origin.handler crates state event.env) w.inner progress w'.inner event.log := by
  rw [Returns, took.ran, replied]

/-- What the section of a step returns is the reply of its event. -/
theorem Took.replied (took : Took crates state w event w') {origin : Origin}
    (isOrigin : event.origin = origin) {progress : Progress} {t : VolatileState}
    {log : List Mark}
    (returned : Returns (origin.handler crates state event.env) w.inner progress t log) :
    event.reply = .ok progress := by
  have ran := took.ran
  rw [isOrigin] at ran
  exact (Outcome.mk.inj (ran.symm.trans returned)).1

theorem Took.rejected (took : Took crates state w event w') {failure : Failure}
    (replied : event.reply = .error failure) :
    Rejects (event.origin.handler crates state event.env) w.inner w'.inner event.log :=
  ⟨failure, by rw [took.ran, replied]⟩

theorem Took.drawn_subset (took : Took crates state w event w') : w.drawn ⊆ w'.drawn := by
  obtain ⟨draws, _, _, drawn⟩ := took.draws
  rw [drawn]
  exact List.subset_append_left _ _

/-- A value that the step drew was not drawn before and is drawn now. -/
theorem Took.drew (took : Took crates state w event w') {draw : Draw} {draws : List Draw}
    (draws_eq : event.origin.draws crates event.env = some draws) (member : draw ∈ draws) :
    draw ∉ w.drawn ∧ draw ∈ w'.drawn := by
  obtain ⟨_, same, fresh, drawn⟩ := took.draws
  cases draws_eq.symm.trans same
  rw [drawn]
  exact ⟨fresh draw member, List.mem_append_right _ member⟩

end Inversion

/-! ## What a section leaves alone -/

section Frames

variable {crates : Crates} {state : AppState} {env : Environment} {origin : Origin}
  {s t : VolatileState} {log : List Mark}

/-- Only the second half of a pushed request adds to the pushed requests. -/
theorem Writes.pushed_lookup (writes : Writes crates state env origin s log t)
    (notPush : ∀ request tlsnEvidence, origin ≠ .resumed (.parPush request tlsnEvidence))
    {uri : String} {pushed : PushedAuthorization} (found : t.pushed.lookup uri = some pushed) :
    s.pushed.lookup uri = some pushed := by
  refine writes.preserves
    (P := fun u => u.pushed.lookup uri = some pushed → s.pushed.lookup uri = some pushed) ?_ id found
  intro u _ v write held
  cases write with
  | push request tlsnEvidence => exact absurd rfl (notPush request tlsnEvidence)
  | take request =>
      intro after
      by_cases same : uri = request.requestUri
      · subst same
        rw [AList.lookup_erase] at after
        cases after
      · rw [AList.lookup_erase_ne same] at after
        exact held after
  | _ => exact held

theorem Writes.codes_eq (writes : Writes crates state env origin s log t)
    (notIssue : ∀ request pushed, origin ≠ .resumed (.authorizeIssue request pushed))
    (notToken : ∀ headers request, origin ≠ .arrived (.token headers request)) :
    t.codes = s.codes := by
  refine writes.preserves (P := fun u => u.codes = s.codes) ?_ rfl
  intro u _ v write held
  cases write with
  | issueCode request pushed => exact absurd rfl (notIssue request pushed)
  | redeem headers request => exact absurd rfl (notToken headers request)
  | _ => exact held

theorem Writes.tokens_eq (writes : Writes crates state env origin s log t)
    (notToken : ∀ headers request, origin ≠ .arrived (.token headers request)) :
    t.tokens = s.tokens := by
  refine writes.preserves (P := fun u => u.tokens = s.tokens) ?_ rfl
  intro u _ v write held
  cases write with
  | grant headers request => exact absurd rfl (notToken headers request)
  | _ => exact held

theorem Writes.sessions_eq (writes : Writes crates state env origin s log t)
    (notOpen : ∀ request, origin ≠ .arrived (.createPidCaptureSession request))
    (notCommit : ∀ id headers body snapshot,
      origin ≠ .resumed (.captureCommit id headers body snapshot)) :
    t.captureSessions = s.captureSessions := by
  refine writes.preserves (P := fun u => u.captureSessions = s.captureSessions) ?_ rfl
  intro u _ v write held
  cases write with
  | openSession request => exact absurd rfl (notOpen request)
  | failSession => exact absurd rfl (notCommit _ _ _ _)
  | resolveSession => exact absurd rfl (notCommit _ _ _ _)
  | _ => exact held

end Frames

/-! ## Keys are drawn -/

/-- Every key that stands for a fresh value is among the values drawn so far. -/
structure VolatileState.Grounded (drawn : List Draw) (s : VolatileState) : Prop where
  pushed : ∀ {uri}, uri ∈ s.pushed → ∃ uuid, Draw.uuid uuid ∈ drawn ∧ uri = requestUriOf uuid
  codes : ∀ {code}, code ∈ s.codes → Draw.token code ∈ drawn
  tokens : ∀ {token}, token ∈ s.tokens → Draw.token token ∈ drawn
  nonces : ∀ {cNonce}, cNonce ∈ s.nonces → Draw.nonce cNonce ∈ drawn
  sessions : ∀ {id}, id ∈ s.captureSessions → Draw.uuid id ∈ drawn

namespace VolatileState.Grounded

variable {drawn later : List Draw} {s t : VolatileState}

theorem initial (instances : StringMap RegisteredInstance) :
    (VolatileState.initial instances).Grounded [] where
  pushed member := absurd member (AList.notMem_empty _)
  codes member := absurd member (AList.notMem_empty _)
  tokens member := absurd member (AList.notMem_empty _)
  nonces member := absurd member (AList.notMem_empty _)
  sessions member := absurd member (AList.notMem_empty _)

theorem mono (grounded : s.Grounded drawn) (subset : drawn ⊆ later) : s.Grounded later where
  pushed member :=
    have ⟨uuid, known, same⟩ := grounded.pushed member
    ⟨uuid, subset known, same⟩
  codes member := subset (grounded.codes member)
  tokens member := subset (grounded.tokens member)
  nonces member := subset (grounded.nonces member)
  sessions member := subset (grounded.sessions member)

end VolatileState.Grounded

/-- A key is one of those before an insertion or the inserted one. -/
theorem mem_insert_or {α : Type} {map : StringMap α} {key inserted : String} {value : α}
    (member : key ∈ map.insert inserted value) : key = inserted ∨ key ∈ map :=
  (AList.mem_insert map).mp member

theorem mem_of_lookup {α : Type} {map : StringMap α} {key : String} {value : α}
    (found : map.lookup key = some value) : key ∈ map :=
  AList.lookup_isSome.mp (by rw [found]; rfl)

/-- Overwriting the value of a key adds no key. -/
theorem mem_of_mem_overwritten {α : Type} {map : StringMap α} {key overwritten : String}
    {before after : α} (found : map.lookup overwritten = some before)
    (member : key ∈ map.insert overwritten after) : key ∈ map := by
  rcases mem_insert_or member with rfl | member
  · exact mem_of_lookup found
  · exact member

theorem Write.grounded {crates : Crates} {state : AppState} {env : Environment} {origin : Origin}
    {s t : VolatileState} {log : List Mark} {draws drawn : List Draw}
    (write : Write crates state env origin s log t)
    (drew : origin.draws crates env = some draws) (subset : draws ⊆ drawn)
    (grounded : s.Grounded drawn) : t.Grounded drawn := by
  cases write with
  | push request tlsnEvidence =>
      cases drew
      refine { grounded with pushed := fun member => ?_ }
      rcases mem_insert_or member with rfl | member
      · exact ⟨env.uuid, subset (.head _), rfl⟩
      · exact grounded.pushed member
  | take request =>
      exact { grounded with pushed := fun member => grounded.pushed (AList.mem_erase.mp member).2 }
  | issueCode request pushed =>
      cases drew
      refine { grounded with codes := fun member => ?_ }
      rcases mem_insert_or member with rfl | member
      · exact subset (.head _)
      · exact grounded.codes member
  | redeem headers request found =>
      exact { grounded with
        codes := fun member => grounded.codes (mem_of_mem_overwritten found member) }
  | grant headers request access =>
      cases drew
      refine { grounded with tokens := fun member => ?_ }
      rcases mem_insert_or member with rfl | member
      · exact subset (.head _)
      · exact grounded.tokens member
  | nonce drawn =>
      simp only [Origin.draws, drawn, Option.map_some, Option.some.injEq] at drew
      subst drew
      refine { grounded with nonces := fun member => ?_ }
      rcases mem_insert_or member with rfl | member
      · exact subset (.head _)
      · exact grounded.nonces member
  | consumeNonce headers request unused =>
      exact { grounded with
        nonces := fun member => grounded.nonces (mem_of_mem_overwritten unused member) }
  | openSession request session =>
      cases drew
      refine { grounded with sessions := fun member => ?_ }
      rcases mem_insert_or member with rfl | member
      · exact subset (.head _)
      · exact grounded.sessions member
  | failSession found =>
      exact { grounded with
        sessions := fun member => grounded.sessions (mem_of_mem_overwritten found member) }
  | resolveSession credential credentialMdoc found =>
      exact { grounded with
        sessions := fun member => grounded.sessions (mem_of_mem_overwritten found member) }
  | _ => exact { grounded with }

def World.Grounded (w : World) : Prop := w.inner.Grounded w.drawn

theorem Took.grounded {crates : Crates} {state : AppState} {w w' : World} {event : Event}
    (took : Took crates state w event w') (grounded : w.Grounded) : w'.Grounded := by
  obtain ⟨draws, drew, _, drawn⟩ := took.draws
  have subset : draws ⊆ w'.drawn := by
    rw [drawn]
    exact List.subset_append_right _ _
  refine took.writes.preserves (P := VolatileState.Grounded w'.drawn) ?_
    (VolatileState.Grounded.mono grounded took.drawn_subset)
  intro _ _ _ write held
  exact write.grounded drew subset held

theorem run_grounded {crates : Crates} {state : AppState} {instances : StringMap RegisteredInstance}
    {trace : List Event} {w : World}
    (run : (process crates state).Execution (World.initial instances) trace w) : w.Grounded := by
  have initial : (World.initial instances).Grounded := VolatileState.Grounded.initial instances
  exact run.invariant initial fun _ _ _ _ held stepped => (step_took stepped).grounded held

/-! ## Steps of the authorization flow -/

/-- A step that leaves the authorization part of the state alone. -/
def Progress.aside : Progress → Prop
  | .suspended (.parPush _ _) | .suspended (.authorizeIssue _ _) => False
  | .finished (.pushed _) | .finished (.redirect _) | .finished (.token _) => False
  | _ => True

inductive AuthorizationStep (crates : Crates) (state : AppState) (w : World) (event : Event)
    (w' : World) : Prop
  | checked (request : ParRequest) (tlsnEvidence : Option VerifiedTlsnEvidence)
      (origin : event.origin = .arrived (.par request))
      (reply : event.reply = .ok (.suspended (.parPush request tlsnEvidence)))
      (valid : validScope request.scope state.hybridPqEnabled = true)
      (inner : w'.inner = w.inner)
  | pushed (request : ParRequest) (tlsnEvidence : Option VerifiedTlsnEvidence)
      (origin : event.origin = .resumed (.parPush request tlsnEvidence))
      (reply : event.reply = .ok (.finished (.pushed ⟨requestUriOf event.env.uuid, 60⟩)))
      (inner : w'.inner =
        { w.inner with
          pushed := w.inner.pushed.insert (requestUriOf event.env.uuid)
            (pushedOf request tlsnEvidence) })
  | taken (request : AuthorizationRequest) (pushed : PushedAuthorization)
      (origin : event.origin = .arrived (.authorize request))
      (reply : event.reply = .ok (.suspended (.authorizeIssue request pushed)))
      (found : w.inner.pushed.lookup request.requestUri = some pushed)
      (client : pushed.clientId = request.clientId)
      (inner : w'.inner =
        { w.inner with pushed := w.inner.pushed.erase request.requestUri })
  | issued (request : AuthorizationRequest) (pushed : PushedAuthorization)
      (origin : event.origin = .resumed (.authorizeIssue request pushed))
      (reply : event.reply = .ok (.finished (.redirect
        (redirectOf crates pushed (randomToken crates event.env.octets)))))
      (inner : w'.inner =
        { w.inner with
          codes := w.inner.codes.insert (randomToken crates event.env.octets) (codeOf pushed) })
      (log : event.log = [.authorizationCode request.requestUri])
  | redeemed (headers : HeaderMap) (request : TokenRequest)
      (grant : TokenGrant crates state w.inner headers request event.env.dpopClock)
      (origin : event.origin = .arrived (.token headers request))
      (reply : event.reply = .ok (.finished (.token (grant.response event.env.octets))))
      (inner : w'.inner = grant.after event.env.octets)
      (log : event.log = grant.marks)
  | aside
      (reply : ∀ progress, event.reply = .ok progress → progress.aside)
      (notIssue : ∀ request pushed, event.origin ≠ .resumed (.authorizeIssue request pushed))
      (pushed : ∀ {uri : String} {pushed : PushedAuthorization},
        w'.inner.pushed.lookup uri = some pushed → w.inner.pushed.lookup uri = some pushed)
      (codes : w'.inner.codes = w.inner.codes)
      (tokens : w'.inner.tokens = w.inner.tokens)

/-- Every other handler answers or suspends aside from the authorization flow. -/
theorem aside_of_returns {crates : Crates} {state : AppState} {env : Environment}
    {origin : Origin} {s t : VolatileState} {log : List Mark} {progress : Progress}
    (notPar : ∀ request, origin ≠ .arrived (.par request))
    (notPush : ∀ request tlsnEvidence, origin ≠ .resumed (.parPush request tlsnEvidence))
    (notAuthorize : ∀ request, origin ≠ .arrived (.authorize request))
    (notIssue : ∀ request pushed, origin ≠ .resumed (.authorizeIssue request pushed))
    (notToken : ∀ headers request, origin ≠ .arrived (.token headers request))
    (returned : Returns (origin.handler crates state env) s progress t log) : progress.aside := by
  cases origin with
  | arrived request =>
      cases request with
      | par request => exact absurd rfl (notPar request)
      | authorize request => exact absurd rfl (notAuthorize request)
      | token headers request => exact absurd rfl (notToken headers request)
      | nonce =>
          obtain ⟨_, _, returned⟩ := (returns_okOr_bind _ _ _ _ _ _ _).mp returned
          obtain ⟨_, _, rfl⟩ := (returns_bind_pure _ _ _ _ _ _).mp returned
          trivial
      | _ =>
          obtain ⟨_, _, rfl⟩ := (returns_bind_pure _ _ _ _ _ _).mp returned
          trivial
  | resumed task =>
      cases task with
      | parPush request tlsnEvidence => exact absurd rfl (notPush request tlsnEvidence)
      | authorizeIssue request pushed => exact absurd rfl (notIssue request pushed)
      | _ =>
          obtain ⟨_, _, rfl⟩ := (returns_bind_pure _ _ _ _ _ _).mp returned
          trivial

theorem Took.authorizationStep {crates : Crates} {state : AppState} {w w' : World} {event : Event}
    (took : Took crates state w event w') : AuthorizationStep crates state w event w' := by
  have wrote := took.writes
  have ran := took.ran
  by_cases isIssue : ∃ request pushed, event.origin = .resumed (.authorizeIssue request pushed)
  · obtain ⟨request, pushed, origin⟩ := isIssue
    rw [origin] at ran
    obtain ⟨reply, inner, log⟩ := Outcome.mk.inj ran
    exact .issued request pushed origin reply.symm inner.symm log.symm
  by_cases isPush : ∃ request tlsnEvidence, event.origin = .resumed (.parPush request tlsnEvidence)
  · obtain ⟨request, tlsnEvidence, origin⟩ := isPush
    rw [origin] at ran
    obtain ⟨reply, inner, _⟩ := Outcome.mk.inj ran
    exact .pushed request tlsnEvidence origin reply.symm inner.symm
  simp only [not_exists] at isIssue isPush
  have pushed : ∀ {uri : String} {pushed : PushedAuthorization},
      w'.inner.pushed.lookup uri = some pushed → w.inner.pushed.lookup uri = some pushed :=
    wrote.pushed_lookup isPush
  by_cases isToken : ∃ headers request, event.origin = .arrived (.token headers request)
  · obtain ⟨headers, request, origin⟩ := isToken
    cases reply : event.reply with
    | ok progress =>
        have returned := took.returned reply
        rw [origin] at returned
        obtain ⟨_, answered, rfl⟩ := (returns_bind_pure _ _ _ _ _ _).mp returned
        obtain ⟨grant, rfl, inner, logged⟩ := (token_returns _ _ _ _).mp answered
        exact .redeemed headers request grant origin reply inner logged
    | error failure =>
        have rejected := took.rejected reply
        rw [origin] at rejected
        obtain ⟨codes, tokens⟩ := token_rejects ((rejects_bind_pure _ _ _ _ _).mp rejected)
        exact .aside (by rw [reply]; rintro _ ⟨⟩) isIssue pushed codes tokens
  simp only [not_exists] at isToken
  have codes := wrote.codes_eq isIssue isToken
  have tokens := wrote.tokens_eq isToken
  cases reply : event.reply with
  | error failure => exact .aside (by rw [reply]; rintro _ ⟨⟩) isIssue pushed codes tokens
  | ok progress =>
      have returned := took.returned reply
      by_cases isPar : ∃ request, event.origin = .arrived (.par request)
      · obtain ⟨request, origin⟩ := isPar
        rw [origin] at returned
        obtain ⟨tlsnEvidence, answered, rfl⟩ := (returns_bind_pure _ _ _ _ _ _).mp returned
        obtain ⟨valid, inner⟩ := par_returns answered
        exact .checked request tlsnEvidence origin reply valid inner
      by_cases isAuthorize : ∃ request, event.origin = .arrived (.authorize request)
      · obtain ⟨request, origin⟩ := isAuthorize
        rw [origin] at returned
        obtain ⟨taken, answered, rfl⟩ := (returns_bind_pure _ _ _ _ _ _).mp returned
        obtain ⟨found, client, inner, _⟩ := (authorize_returns _ _).mp answered
        exact .taken request taken origin reply found client inner
      simp only [not_exists] at isPar isAuthorize
      refine .aside ?_ isIssue pushed codes tokens
      intro other same
      cases reply.symm.trans same
      exact aside_of_returns isPar isPush isAuthorize isIssue isToken returned

end VCIssuer.Service
