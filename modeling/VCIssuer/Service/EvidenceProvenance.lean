import VCIssuer.Service.OfferRedemption

/-!
# Where notary evidence comes from

Evidence is verified once, when an offer is made, and then copied: from the
offer to a pushed request, from there to a code, to a token and into a
credential.  Every copy has its place in the history.
-/

namespace VCIssuer.Service

open VCIssuer.Library
open VCIssuer.Library.Critical

/-! ## Offers -/

section Offers

variable (crates : Crates) (state : AppState) (env : Environment) (origin : Origin)

/-- How one section changes the offers and the reserved notary sessions. -/
structure OffersEvolve (s : VolatileState) (log : List Mark) (t : VolatileState) : Prop where
  sessions : s.tlsnSessions ⊆ t.tlsnSessions
  marked : ∀ sessionId, Mark.tlsnOffer sessionId ∈ log →
    sessionId ∉ s.tlsnSessions ∧ sessionId ∈ t.tlsnSessions
  offers : ∀ id offer evidence, t.offers.lookup id = some offer →
    offer.tlsnEvidence = some evidence →
      s.offers.lookup id = some offer ∨
        id = env.uuid ∧ OfferMade crates state env origin evidence offer ∧
          Mark.tlsnOffer evidence.sessionId ∈ log

end Offers

section Evolution

variable {crates : Crates} {state : AppState} {env : Environment} {origin : Origin}
  {s t : VolatileState} {log : List Mark}

theorem OffersEvolve.composes : Composes (OffersEvolve crates state env origin) where
  refl s := ⟨List.Subset.refl _, fun _ impossible => absurd impossible List.not_mem_nil,
    fun _ _ _ found _ => .inl found⟩
  trans first second := by
    refine ⟨List.Subset.trans first.sessions second.sessions, ?_, ?_⟩
    · intro sessionId member
      rcases List.mem_append.mp member with before | after
      · obtain ⟨unused, reserved⟩ := first.marked sessionId before
        exact ⟨unused, second.sessions reserved⟩
      · obtain ⟨unused, reserved⟩ := second.marked sessionId after
        exact ⟨fun used => unused (first.sessions used), reserved⟩
    · intro id offer evidence found attached
      rcases second.offers id offer evidence found attached with kept | ⟨made, how, marked⟩
      · rcases first.offers id offer evidence kept attached with kept | ⟨made, how, marked⟩
        · exact .inl kept
        · exact .inr ⟨made, how, List.mem_append_left _ marked⟩
      · exact .inr ⟨made, how, List.mem_append_right _ marked⟩

/-- Only the two writes of offers concern them. -/
theorem Write.offersEvolve (write : Write crates state env origin s log t) :
    OffersEvolve crates state env origin s log t := by
  cases write with
  | offer origin offer plain _ _ =>
      refine ⟨List.Subset.refl _, fun _ impossible => absurd impossible List.not_mem_nil, ?_⟩
      intro id second evidence found attached
      rcases lookup_insert_cases found with ⟨_, rfl⟩ | kept
      · cases plain.symm.trans attached
      · exact .inl kept
  | tlsnOffer made unused _ =>
      refine ⟨List.subset_cons_self _ _, ?_, ?_⟩
      · intro sessionId member
        cases List.mem_singleton.mp member
        exact ⟨unused, .head _⟩
      · intro id second other found attached
        rcases lookup_insert_cases found with ⟨rfl, rfl⟩ | kept
        · cases made.attached.symm.trans attached
          exact .inr ⟨rfl, made, .head _⟩
        · exact .inl kept
  | _ =>
      refine ⟨List.Subset.refl _, ?_, fun _ _ _ found _ => .inl found⟩
      intro sessionId member
      simp at member

theorem Took.offersEvolve {w w' : World} {event : Event} (took : Took crates state w event w') :
    OffersEvolve crates state event.env event.origin w.inner event.log w'.inner :=
  took.writes.lift OffersEvolve.composes fun _ _ _ write => write.offersEvolve

end Evolution

/-! ## Evidence and its history -/

section History

variable (crates : Crates) (state : AppState) (trace : List Event)

/-- An event of the history verified the evidence and made this offer on it. -/
def OfferedIn (id : String) (offer : CredentialOffer) (evidence : VerifiedTlsnEvidence) : Prop :=
  ∃ event ∈ trace, id = event.env.uuid ∧
    OfferMade crates state event.env event.origin evidence offer ∧
    Mark.tlsnOffer evidence.sessionId ∈ event.log

/-- A pushed request is accepted with the evidence of an offer that has not expired. -/
structure AcceptsOffer (event : Event) (request : ParRequest) (offer : CredentialOffer)
    (evidence : VerifiedTlsnEvidence) : Prop where
  origin : event.origin = .arrived (.par request)
  reply : event.reply = .ok (.suspended (.parPush request (some evidence)))
  named : request.issuerState = some offer.issuerState
  unexpired : ∃ now, event.env.clock = some now ∧ now ≤ offer.expiresAt
  inScope : tlsnEvidenceSdJwt ∈ Text.splitAsciiWhitespace request.scope
  offered : ∃ id, OfferedIn crates state trace id offer evidence

/-- A request of this scope was accepted with the evidence. -/
def AttachedIn (scope : String) (evidence : VerifiedTlsnEvidence) : Prop :=
  ∃ earlier event later request offer, trace = earlier ++ event :: later ∧
    AcceptsOffer crates state earlier event request offer evidence ∧ request.scope = scope

/-- All evidence in the state has its place in the history. -/
structure EvidenceTraced (w : World) : Prop where
  offers : ∀ {id offer evidence}, w.inner.offers.lookup id = some offer →
    offer.tlsnEvidence = some evidence → OfferedIn crates state trace id offer evidence
  reserved : ∀ {id offer evidence}, OfferedIn crates state trace id offer evidence →
    evidence.sessionId ∈ w.inner.tlsnSessions
  once : ∀ {id other offer second evidence again}, OfferedIn crates state trace id offer evidence →
    OfferedIn crates state trace other second again → evidence.sessionId = again.sessionId →
      id = other
  checked : ∀ {request evidence}, Task.parPush request (some evidence) ∈ w.tasks →
    AttachedIn crates state trace request.scope evidence
  pushed : ∀ {uri pushed evidence}, w.inner.pushed.lookup uri = some pushed →
    pushed.tlsnEvidence = some evidence → AttachedIn crates state trace pushed.scope evidence
  authorizing : ∀ {request pushed evidence}, Task.authorizeIssue request pushed ∈ w.tasks →
    pushed.tlsnEvidence = some evidence → AttachedIn crates state trace pushed.scope evidence
  codes : ∀ {code entry evidence}, w.inner.codes.lookup code = some entry →
    entry.tlsnEvidence = some evidence → AttachedIn crates state trace entry.scope evidence
  tokens : ∀ {accessToken access evidence}, w.inner.tokens.lookup accessToken = some access →
    access.tlsnEvidence = some evidence → AttachedIn crates state trace access.scope evidence

end History

section Traces

variable {crates : Crates} {state : AppState} {trace : List Event} {w w' : World} {event : Event}

theorem OfferedIn.mono {later : List Event} {id : String} {offer : CredentialOffer}
    {evidence : VerifiedTlsnEvidence} (subset : trace ⊆ later)
    (held : OfferedIn crates state trace id offer evidence) :
    OfferedIn crates state later id offer evidence :=
  have ⟨event, member, made⟩ := held
  ⟨event, subset member, made⟩

theorem AttachedIn.append {scope : String} {evidence : VerifiedTlsnEvidence}
    (held : AttachedIn crates state trace scope evidence) (later : List Event) :
    AttachedIn crates state (trace ++ later) scope evidence := by
  obtain ⟨earlier, event, rest, request, offer, rfl, accepts, same⟩ := held
  exact ⟨earlier, event, rest ++ later, request, offer, by simp, accepts, same⟩

theorem OfferedIn.cases {id : String} {offer : CredentialOffer} {evidence : VerifiedTlsnEvidence}
    (held : OfferedIn crates state (trace ++ [event]) id offer evidence) :
    OfferedIn crates state trace id offer evidence ∨
      id = event.env.uuid ∧ Mark.tlsnOffer evidence.sessionId ∈ event.log := by
  obtain ⟨made, member, same, how, marked⟩ := held
  rcases List.mem_append.mp member with before | now
  · exact .inl ⟨made, before, same, how, marked⟩
  · cases List.mem_singleton.mp now
    exact .inr ⟨same, marked⟩

theorem evidenceTraced_initial (instances : StringMap RegisteredInstance) :
    EvidenceTraced crates state [] (World.initial instances) where
  offers found := by cases found
  reserved := by rintro _ _ _ ⟨_, member, _⟩; exact absurd member List.not_mem_nil
  once := by rintro _ _ _ _ _ _ ⟨_, member, _⟩; exact absurd member List.not_mem_nil
  checked member := absurd member List.not_mem_nil
  pushed found := by cases found
  authorizing member := absurd member List.not_mem_nil
  codes found := by cases found
  tokens found := by cases found

theorem EvidenceTraced.offers_step (before : EvidenceTraced crates state trace w)
    (took : Took crates state w event w') {id : String} {offer : CredentialOffer}
    {evidence : VerifiedTlsnEvidence} (found : w'.inner.offers.lookup id = some offer)
    (attached : offer.tlsnEvidence = some evidence) :
    OfferedIn crates state (trace ++ [event]) id offer evidence := by
  rcases took.offersEvolve.offers id offer evidence found attached with kept | ⟨same, made, marked⟩
  · exact (before.offers kept attached).mono (List.subset_append_left _ _)
  · exact ⟨event, List.mem_append_right _ (.head _), same, made, marked⟩

theorem EvidenceTraced.reserved_step (before : EvidenceTraced crates state trace w)
    (took : Took crates state w event w') {id : String} {offer : CredentialOffer}
    {evidence : VerifiedTlsnEvidence}
    (held : OfferedIn crates state (trace ++ [event]) id offer evidence) :
    evidence.sessionId ∈ w'.inner.tlsnSessions := by
  rcases held.cases with earlier | ⟨_, marked⟩
  · exact took.offersEvolve.sessions (before.reserved earlier)
  · exact (took.offersEvolve.marked _ marked).2

/-- A session that is reserved now was on no earlier offer. -/
theorem EvidenceTraced.once_step (before : EvidenceTraced crates state trace w)
    (took : Took crates state w event w') {id other : String} {offer second : CredentialOffer}
    {evidence again : VerifiedTlsnEvidence}
    (first : OfferedIn crates state (trace ++ [event]) id offer evidence)
    (last : OfferedIn crates state (trace ++ [event]) other second again)
    (same : evidence.sessionId = again.sessionId) : id = other := by
  rcases first.cases with early | ⟨made, marked⟩ <;>
    rcases last.cases with earlyToo | ⟨madeToo, markedToo⟩
  · exact before.once early earlyToo same
  · exact absurd (same ▸ before.reserved early) (took.offersEvolve.marked _ markedToo).1
  · exact absurd (same ▸ before.reserved earlyToo) (took.offersEvolve.marked _ marked).1
  · exact made.trans madeToo.symm

theorem EvidenceTraced.checked_step (before : EvidenceTraced crates state trace w)
    (took : Took crates state w event w') {request : ParRequest} {evidence : VerifiedTlsnEvidence}
    (member : Task.parPush request (some evidence) ∈ w'.tasks) :
    AttachedIn crates state (trace ++ [event]) request.scope evidence := by
  rcases took.task_cases member with waits | suspended
  · exact (before.checked waits).append _
  · cases took.authorizationStep with
    | checked accepted _ origin reply =>
        cases reply.symm.trans suspended
        have returned := took.returned reply
        rw [origin] at returned
        obtain ⟨_, answered, same⟩ := (returns_bind_pure _ _ _ _ _ _).mp returned
        cases same
        obtain ⟨now, id, offer, clocked, found, named, unexpired, inScope, attached⟩ :=
          par_returns_evidence answered
        have offered := before.offers found attached
        have profile : offer.profile = tlsnEvidenceSdJwt := by
          obtain ⟨_, _, _, made, _⟩ := offered
          exact made.profile
        exact ⟨trace, event, [], request, offer, rfl, ⟨origin, reply, named,
          ⟨now, clocked, unexpired⟩, profile ▸ inScope, id, offered⟩, rfl⟩
    | aside reply => exact (reply _ suspended).elim
    | pushed _ _ _ reply => cases reply.symm.trans suspended
    | taken _ _ _ reply => cases reply.symm.trans suspended
    | issued _ _ _ reply => cases reply.symm.trans suspended
    | redeemed _ _ _ _ reply => cases reply.symm.trans suspended

theorem EvidenceTraced.pushed_step (before : EvidenceTraced crates state trace w)
    (took : Took crates state w event w') {uri : String} {pushed : PushedAuthorization}
    {evidence : VerifiedTlsnEvidence} (found : w'.inner.pushed.lookup uri = some pushed)
    (attached : pushed.tlsnEvidence = some evidence) :
    AttachedIn crates state (trace ++ [event]) pushed.scope evidence := by
  have earlier : w.inner.pushed.lookup uri = some pushed →
      AttachedIn crates state (trace ++ [event]) pushed.scope evidence := fun found =>
    (before.pushed found attached).append _
  cases took.authorizationStep with
  | checked _ _ _ _ _ inner => rw [inner] at found; exact earlier found
  | pushed request tlsnEvidence origin reply inner =>
      rw [inner] at found
      rcases lookup_insert_cases found with ⟨rfl, rfl⟩ | found
      · have same : tlsnEvidence = some evidence := attached
        subst same
        exact (before.checked (took.resumed_mem origin)).append _
      · exact earlier found
  | taken request _ _ _ _ _ inner =>
      rw [inner] at found
      by_cases same : uri = request.requestUri
      · subst same
        rw [AList.lookup_erase] at found
        cases found
      · rw [AList.lookup_erase_ne same] at found
        exact earlier found
  | issued _ _ _ _ inner => rw [inner] at found; exact earlier found
  | redeemed _ _ _ _ _ inner => rw [inner] at found; exact earlier found
  | aside _ _ pushed => exact earlier (pushed found)

theorem EvidenceTraced.authorizing_step (before : EvidenceTraced crates state trace w)
    (took : Took crates state w event w') {request : AuthorizationRequest}
    {pushed : PushedAuthorization} {evidence : VerifiedTlsnEvidence}
    (member : Task.authorizeIssue request pushed ∈ w'.tasks)
    (attached : pushed.tlsnEvidence = some evidence) :
    AttachedIn crates state (trace ++ [event]) pushed.scope evidence := by
  rcases took.task_cases member with waits | suspended
  · exact (before.authorizing waits attached).append _
  · cases took.authorizationStep with
    | taken _ _ _ reply found _ _ =>
        cases reply.symm.trans suspended
        exact (before.pushed found attached).append _
    | aside reply => exact (reply _ suspended).elim
    | checked _ _ _ reply => cases reply.symm.trans suspended
    | pushed _ _ _ reply => cases reply.symm.trans suspended
    | issued _ _ _ reply => cases reply.symm.trans suspended
    | redeemed _ _ _ _ reply => cases reply.symm.trans suspended

theorem EvidenceTraced.codes_step (before : EvidenceTraced crates state trace w)
    (took : Took crates state w event w') {code : String} {entry : AuthorizationCode}
    {evidence : VerifiedTlsnEvidence} (found : w'.inner.codes.lookup code = some entry)
    (attached : entry.tlsnEvidence = some evidence) :
    AttachedIn crates state (trace ++ [event]) entry.scope evidence := by
  have earlier : w.inner.codes.lookup code = some entry →
      AttachedIn crates state (trace ++ [event]) entry.scope evidence := fun found =>
    (before.codes found attached).append _
  cases took.authorizationStep with
  | checked _ _ _ _ _ inner => rw [inner] at found; exact earlier found
  | pushed _ _ _ _ inner => rw [inner] at found; exact earlier found
  | taken _ _ _ _ _ _ inner => rw [inner] at found; exact earlier found
  | issued request pushed origin reply inner =>
      rw [inner] at found
      rcases lookup_insert_cases found with ⟨rfl, rfl⟩ | found
      · exact (before.authorizing (took.resumed_mem origin) attached).append _
      · exact earlier found
  | redeemed headers request grant origin reply inner =>
      rw [inner] at found
      rcases lookup_insert_cases found with ⟨rfl, rfl⟩ | found
      · exact (before.codes grant.codeFound attached).append _
      · exact earlier found
  | aside _ _ _ codes => rw [codes] at found; exact earlier found

theorem EvidenceTraced.tokens_step (before : EvidenceTraced crates state trace w)
    (took : Took crates state w event w') {accessToken : String} {access : AccessToken}
    {evidence : VerifiedTlsnEvidence} (found : w'.inner.tokens.lookup accessToken = some access)
    (attached : access.tlsnEvidence = some evidence) :
    AttachedIn crates state (trace ++ [event]) access.scope evidence := by
  have earlier : w.inner.tokens.lookup accessToken = some access →
      AttachedIn crates state (trace ++ [event]) access.scope evidence := fun found =>
    (before.tokens found attached).append _
  cases took.authorizationStep with
  | checked _ _ _ _ _ inner => rw [inner] at found; exact earlier found
  | pushed _ _ _ _ inner => rw [inner] at found; exact earlier found
  | taken _ _ _ _ _ _ inner => rw [inner] at found; exact earlier found
  | issued _ _ _ _ inner => rw [inner] at found; exact earlier found
  | redeemed headers request grant origin reply inner =>
      rw [inner] at found
      rcases lookup_insert_cases found with ⟨rfl, rfl⟩ | found
      · exact (before.codes grant.codeFound attached).append _
      · exact earlier found
  | aside _ _ _ _ tokens => rw [tokens] at found; exact earlier found

theorem run_evidenceTraced {instances : StringMap RegisteredInstance}
    (run : (process crates state).Execution (World.initial instances) trace w) :
    EvidenceTraced crates state trace w := by
  refine run.history (evidenceTraced_initial instances) ?_
  intro _ _ _ _ _ _ before stepped
  have took := step_took stepped
  exact ⟨before.offers_step took, before.reserved_step took, before.once_step took,
    before.checked_step took, before.pushed_step took, before.authorizing_step took,
    before.codes_step took, before.tokens_step took⟩

theorem AttachedIn.offered {scope : String} {evidence : VerifiedTlsnEvidence}
    (held : AttachedIn crates state trace scope evidence) :
    ∃ id offer, OfferedIn crates state trace id offer evidence := by
  obtain ⟨earlier, event, later, request, offer, rfl, accepts, _⟩ := held
  obtain ⟨id, offered⟩ := accepts.offered
  exact ⟨id, offer, offered.mono (List.subset_append_left _ _)⟩

end Traces

/-! ## Credentials -/

namespace Reference

def notarisedPayload : TlsnArtifactPayload where
  version := tlsnArtifactVersion
  sessionId := "session-1"
  issuedAt := 1000
  verifierOutput := .object [("serverName", .string "example.com")]

/-- An artifact that the trusted notary signed. -/
def notarisedArtifact : SignedTlsnArtifact where
  payload := notarisedPayload
  algorithm := "ES256"
  publicKey := reference.urlSafeEncode (signerAt x₃ y₃).publicKeyBytes
  signature := reference.urlSafeEncode
    (idealSignature (keyAt x₃ y₃) (tlsnPayloadToVec notarisedPayload))
  pqAlgorithm := none
  pqPublicKey := none
  pqSignature := none

def notarisedEvidence : VerifiedTlsnEvidence where
  sessionId := "session-1"
  issuedAt := 1000
  verifierOutput := .object [("serverName", .string "example.com")]

theorem notarisedArtifact_verified :
    verifyTlsnArtifact reference notarisedArtifact referenceState.trustedNotaryKey none 1000 =
      .ok notarisedEvidence := by
  have bounded : (tlsnPayloadToVec notarisedPayload).length ≤ maxTlsnArtifactBytes := by
    decide +kernel
  have session : notarisedPayload.sessionId ≠ "" ∧ Text.len notarisedPayload.sessionId ≤ 256 ∧
      (1000 : UInt64) ≤ saturatingAdd 1000 5 ∧
      saturatingSub 1000 1000 ≤ tlsnEvidenceLifetimeSeconds := by decide
  simp only [verifyTlsnArtifact, Checks.rejectIf_eq_ok, Checks.okOr_bind_eq_ok,
    Checks.check_bind_eq_ok, not_or, not_not, Nat.not_lt, UInt64.not_lt, Bool.not_eq_false]
  exact ⟨⟨rfl, rfl⟩, session, _, rfl, bounded, _, reference_base64.readsWritten _, rfl, _,
    reference_base64.readsWritten _, _, signatureFromSlice_ideal _ _, _,
    keyFromSec1_signerAt onCurve₃, verifyEs256_ideal _ _, rfl, rfl⟩

end Reference

/-- An offer for accepted evidence, whose session has not been used. -/
theorem buildTlsnOffer_returns {crates : Crates} {state : AppState} {artifact : SignedTlsnArtifact}
    {evidence : VerifiedTlsnEvidence} {now : UInt64} {s : VolatileState} {uuid : String} {uri : Url}
    (verified : verifyTlsnArtifact crates artifact state.trustedNotaryKey state.trustedNotaryPqKey
      now = .ok evidence) (unused : evidence.sessionId ∉ s.tlsnSessions)
    (joined : crates.join state.issuer ("credential-offer/" ++ uuid) = some uri) (octets : Bytes) :
    ∃ response, Returns (buildTlsnOffer crates state artifact (some now) uuid octets) s response
      { s with
        tlsnSessions := evidence.sessionId :: s.tlsnSessions
        offers := s.offers.insert uuid
          { profile := tlsnEvidenceSdJwt
            issuerState := randomToken crates octets
            expiresAt := saturatingAdd now tlsnEvidenceLifetimeSeconds
            tlsnEvidence := some evidence } }
      [.tlsnOffer evidence.sessionId] := by
  obtain ⟨response, answered⟩ := @offerResponse_returns crates state uuid
    tlsnEvidenceLifetimeSeconds uri joined _
  simp only [buildTlsnOffer, reserveTlsnSession, returns_ofExcept_bind, unixTime_eq_ok,
    bind_assoc, returns_read_bind, returns_rejectIf_bind, returns_accept_bind,
    returns_modify_bind]
  exact ⟨response, now, rfl, evidence, verified, unused, [], answered, rfl⟩

end VCIssuer.Service
