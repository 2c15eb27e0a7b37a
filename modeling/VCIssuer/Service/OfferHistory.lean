import VCIssuer.Service.Restarts
import VCIssuer.Service.TlsnAcceptance

/-!
# Offers by their history

An offer is made once, under an id of its own, and is never changed or taken back.
So the offers of the service are those that the history since the last restart has
made, and what is asked about one of them is answered from the history.
-/

namespace VCIssuer.Service

open VCIssuer.Library
open VCIssuer.Library.Critical

/-! ## Making offers -/

section Words

variable (crates : Crates) (state : AppState)

/-- The offer of a configuration that needs no evidence. -/
def plainOffer (profile : String) (octets : Bytes) (now : UInt64) : CredentialOffer where
  profile := profile
  issuerState := randomToken crates octets
  expiresAt := saturatingAdd now 300
  tlsnEvidence := none

def evidenceOffer (evidence : VerifiedTlsnEvidence) (octets : Bytes) (now : UInt64) :
    CredentialOffer where
  profile := tlsnEvidenceSdJwt
  issuerState := randomToken crates octets
  expiresAt := saturatingAdd now tlsnEvidenceLifetimeSeconds
  tlsnEvidence := some evidence

/-- The event makes the offer, even where its own answer then fails. -/
inductive Event.Offers (event : Event) : CredentialOffer → Prop
  | plain {profile : String} {now : UInt64}
      (origin : event.origin = .arrived (.createCredentialOffer profile))
      (admitted : OfferAdmitted state.hybridPqEnabled profile)
      (clocked : event.env.clock = some now) :
      Offers event (plainOffer crates profile event.env.octets now)
  | evidence {artifact : SignedTlsnArtifact} {evidence : VerifiedTlsnEvidence} {now : UInt64}
      (offered : OfferedArtifact crates state event.env event.origin artifact)
      (clocked : event.env.clock = some now)
      (verified : verifyTlsnArtifact crates artifact state.trustedNotaryKey
        state.trustedNotaryPqKey now = .ok evidence)
      (reserved : .tlsnOffer evidence.sessionId ∈ event.log) :
      Offers event (evidenceOffer crates evidence event.env.octets now)

/-- The offer was made under this id. -/
def OfferRecorded (trace : List Event) (id : String) (offer : CredentialOffer) : Prop :=
  ∃ event ∈ trace, event.env.uuid = id ∧ event.Offers crates state offer

/-- An offer was made on evidence of the notary session. -/
def OfferedOn (trace : List Event) (sessionId : String) : Prop :=
  ∃ event ∈ trace, ∃ offer evidence, event.Offers crates state offer ∧
    offer.tlsnEvidence = some evidence ∧ evidence.sessionId = sessionId

/-- What is answered about an offer that is fetched. -/
def CredentialOffer.body (offer : CredentialOffer) : Value :=
  .object
    [ ("credential_issuer", .string state.issuer.origin),
      ("credential_configuration_ids", .array [.string offer.profile]),
      ("grants", .object
        [("authorization_code", .object [("issuer_state", .string offer.issuerState)])]) ]

end Words

section Sections

variable {crates : Crates} {state : AppState} {s t : VolatileState} {log : List Mark}
  {clock : ClockReading} {uuid : String} {octets : Bytes}

theorem offerResponse_rejects {id : String} {expiresIn : UInt64}
    (rejected : Rejects (offerResponse crates state id expiresIn) s t log) : t = s ∧ log = [] := by
  simp only [offerResponse, rejects_okOr_bind, rejects_pure, and_false, exists_false,
    or_false] at rejected
  exact rejected.2

theorem offerResponse_answers {id : String} {expiresIn : UInt64} :
    (∃ response, Returns (offerResponse crates state id expiresIn) s response t log) ↔
      (∃ uri, crates.join state.issuer ("credential-offer/" ++ id) = some uri) ∧ t = s ∧
        log = [] := by
  simp only [offerResponse, returns_okOr_bind, returns_pure]
  constructor
  · rintro ⟨_, uri, joined, rfl, rfl, rfl⟩
    exact ⟨⟨uri, joined⟩, rfl, rfl⟩
  · rintro ⟨⟨uri, joined⟩, rfl, rfl⟩
    exact ⟨_, uri, joined, rfl, rfl, rfl⟩

/-- A rejected request has changed nothing, or it was admitted and its offer is there. -/
theorem createCredentialOffer_rejects {profile : String}
    (rejected : Rejects (createCredentialOffer crates state profile clock uuid octets) s t log) :
    t = s ∧ ¬ (OfferAdmitted state.hybridPqEnabled profile ∧ clock.isSome) ∨
      ∃ now, OfferAdmitted state.hybridPqEnabled profile ∧ clock = some now ∧
        t = { s with offers := s.offers.insert uuid (plainOffer crates profile octets now) } := by
  simp only [createCredentialOffer, rejects_rejectIf_bind, rejects_ofExcept_bind,
    rejects_modify_bind] at rejected
  rcases rejected with ⟨evidence, rfl, _⟩ | ⟨notEvidence, ⟨invalid, rfl, _⟩ | ⟨valid,
    ⟨⟨_, unread⟩, rfl, _⟩ | ⟨now, read, answer⟩⟩⟩
  · exact .inl ⟨rfl, fun both => both.1.1 evidence⟩
  · refine .inl ⟨rfl, fun both => ?_⟩
    rcases invalid with unsupported | spaced
    · cases both.1.2.1.symm.trans unsupported
    · exact both.1.2.2 spaced
  · refine .inl ⟨rfl, fun both => ?_⟩
    rw [unixTime_error unread] at both
    cases both.2
  · obtain ⟨supported, unspaced⟩ := not_or.mp valid
    exact .inr ⟨now, ⟨notEvidence, Bool.not_eq_false _ ▸ supported, unspaced⟩,
      (unixTime_eq_ok _ _).mp read, (offerResponse_rejects answer).1⟩

/-- The state and the log once a notary session is reserved and its offer made. -/
def Reserves (crates : Crates) (state : AppState) (artifact : SignedTlsnArtifact)
    (clock : ClockReading) (uuid : String) (octets : Bytes) (s t : VolatileState)
    (log : List Mark) : Prop :=
  ∃ now evidence, clock = some now ∧
    verifyTlsnArtifact crates artifact state.trustedNotaryKey state.trustedNotaryPqKey now =
      .ok evidence ∧
    evidence.sessionId ∉ s.tlsnSessions ∧
    t = { s with
          tlsnSessions := evidence.sessionId :: s.tlsnSessions
          offers := s.offers.insert uuid (evidenceOffer crates evidence octets now) } ∧
    log = [.tlsnOffer evidence.sessionId]

theorem buildTlsnOffer_answers {artifact : SignedTlsnArtifact} :
    (∃ response, Returns (buildTlsnOffer crates state artifact clock uuid octets) s response t log) ↔
      Reserves crates state artifact clock uuid octets s t log ∧
        ∃ uri, crates.join state.issuer ("credential-offer/" ++ uuid) = some uri := by
  simp only [buildTlsnOffer, reserveTlsnSession, returns_ofExcept_bind, unixTime_eq_ok,
    Critical.bind_assoc, returns_read_bind, returns_rejectIf_bind, returns_accept_bind,
    returns_modify_bind]
  constructor
  · rintro ⟨response, now, clocked, evidence, verified, unused, rest, answered, rfl⟩
    obtain ⟨joined, rfl, rfl⟩ := offerResponse_answers.mp ⟨response, answered⟩
    exact ⟨⟨now, evidence, clocked, verified, unused, rfl, rfl⟩, joined⟩
  · rintro ⟨⟨now, evidence, clocked, verified, unused, rfl, rfl⟩, joined⟩
    obtain ⟨response, answered⟩ := offerResponse_answers.mpr ⟨joined, rfl, rfl⟩
    exact ⟨response, now, clocked, evidence, verified, unused, [], answered, rfl⟩

theorem buildTlsnOffer_rejects {artifact : SignedTlsnArtifact}
    (rejected : Rejects (buildTlsnOffer crates state artifact clock uuid octets) s t log) :
    t = s ∧ log = [] ∨ Reserves crates state artifact clock uuid octets s t log := by
  simp only [buildTlsnOffer, reserveTlsnSession, rejects_ofExcept_bind, Critical.bind_assoc,
    rejects_read_bind, rejects_rejectIf_bind, rejects_accept_bind, rejects_modify_bind] at rejected
  rcases rejected with ⟨_, same⟩ | ⟨now, read, ⟨_, same⟩ | ⟨evidence, verified, ⟨_, same⟩ | ⟨unused,
    rest, answer, rfl⟩⟩⟩
  · exact .inl same
  · exact .inl same
  · exact .inl same
  · obtain ⟨rfl, rfl⟩ := offerResponse_rejects answer
    exact .inr ⟨now, evidence, (unixTime_eq_ok _ _).mp read, verified, unused, rfl, rfl⟩

theorem offer_returns {id : String} {body : Value} :
    Returns (getCredentialOffer state id clock) s body t log ↔
      ∃ offer now, s.offers.lookup id = some offer ∧ clock = some now ∧ now ≤ offer.expiresAt ∧
        body = offer.body state ∧ t = s ∧ log = [] := by
  simp only [getCredentialOffer, returns_ofExcept_bind, unixTime_eq_ok, returns_read_bind,
    returns_okOr_bind, returns_rejectIf_bind, returns_pure, UInt64.not_lt]
  constructor
  · rintro ⟨now, clocked, offer, found, inTime, rest⟩
    exact ⟨offer, now, found, clocked, inTime, rest⟩
  · rintro ⟨offer, now, found, clocked, inTime, rest⟩
    exact ⟨now, clocked, offer, found, inTime, rest⟩

end Sections

section Steps

variable {crates : Crates} {state : AppState} {w w' : World} {event : Event}
  {offer : CredentialOffer}

theorem Took.plainOffer (took : Took crates state w event w') {profile : String}
    (origin : event.origin = .arrived (.createCredentialOffer profile)) :
    w'.inner = w.inner ∧ ¬ (OfferAdmitted state.hybridPqEnabled profile ∧ event.env.clock.isSome) ∨
      ∃ now, OfferAdmitted state.hybridPqEnabled profile ∧ event.env.clock = some now ∧
        w'.inner = { w.inner with
          offers := w.inner.offers.insert event.env.uuid
            (plainOffer crates profile event.env.octets now) } := by
  cases reply : event.reply with
  | error failure =>
      have rejected := took.rejected reply
      rw [origin] at rejected
      exact createCredentialOffer_rejects ((rejects_bind_pure _ _ _ _ _).mp rejected)
  | ok progress =>
      have returned := took.returned reply
      rw [origin] at returned
      obtain ⟨response, answered, _⟩ := (returns_bind_pure _ _ _ _ _ _).mp returned
      obtain ⟨admitted, now, clocked, made⟩ := createCredentialOffer_returns.mp answered
      obtain ⟨_, inner, _⟩ := offerResponse_answers.mp ⟨response, made⟩
      exact .inr ⟨now, admitted, clocked, inner⟩

/-- A request for an offer on evidence changes nothing, or reserves the session of its artifact. -/
theorem Took.evidenceOffer (took : Took crates state w event w')
    (asks : (∃ artifact, event.origin = .arrived (.createTlsnEvidenceOffer artifact)) ∨
      ∃ serverName claim, event.origin = .arrived (.tlsnDemoOffer serverName claim)) :
    w'.inner = w.inner ∧ event.log = [] ∨
      ∃ artifact, OfferedArtifact crates state event.env event.origin artifact ∧
        Reserves crates state artifact event.env.clock event.env.uuid event.env.octets w.inner
          w'.inner event.log := by
  rcases asks with ⟨artifact, origin⟩ | ⟨serverName, claim, origin⟩
  · have supplied : OfferedArtifact crates state event.env event.origin artifact := origin ▸ .supplied
    cases reply : event.reply with
    | error failure =>
        have rejected := took.rejected reply
        rw [origin] at rejected
        refine (buildTlsnOffer_rejects ((rejects_bind_pure _ _ _ _ _).mp rejected)).imp_right ?_
        exact fun reserves => ⟨artifact, supplied, reserves⟩
    | ok progress =>
        have returned := took.returned reply
        rw [origin] at returned
        obtain ⟨response, answered, _⟩ := (returns_bind_pure _ _ _ _ _ _).mp returned
        exact .inr ⟨artifact, supplied, (buildTlsnOffer_answers.mp ⟨response, answered⟩).1⟩
  · cases reply : event.reply with
    | error failure =>
        have rejected := took.rejected reply
        rw [origin] at rejected
        have rejected := (rejects_bind_pure _ _ _ _ _).mp rejected
        simp only [tlsnDemoOffer, rejects_okOr_bind, rejects_ofExcept_bind] at rejected
        rcases rejected with ⟨_, same⟩ | ⟨notary, configured, ⟨_, same⟩ | ⟨made, read, ⟨_, same⟩ |
          ⟨artifact, signed, built⟩⟩⟩
        · exact .inl same
        · exact .inl same
        · exact .inl same
        · refine (buildTlsnOffer_rejects built).imp_right fun reserves => ⟨artifact, ?_, reserves⟩
          exact origin ▸ .demo configured ((unixTime_eq_ok _ _).mp read) signed
    | ok progress =>
        have returned := took.returned reply
        rw [origin] at returned
        obtain ⟨response, answered, _⟩ := (returns_bind_pure _ _ _ _ _ _).mp returned
        simp only [tlsnDemoOffer, returns_okOr_bind, returns_ofExcept_bind] at answered
        obtain ⟨notary, configured, made, read, artifact, signed, built⟩ := answered
        refine .inr ⟨artifact, ?_, (buildTlsnOffer_answers.mp ⟨response, built⟩).1⟩
        exact origin ▸ .demo configured ((unixTime_eq_ok _ _).mp read) signed

/-- A request for an offer on evidence offers one artifact. -/
theorem OfferedArtifact.unique {env : Environment} {origin : Origin}
    {artifact other : SignedTlsnArtifact} (offered : OfferedArtifact crates state env origin artifact)
    (alsoOffered : OfferedArtifact crates state env origin other) : artifact = other := by
  cases offered with
  | supplied =>
      cases alsoOffered
      rfl
  | demo configured clocked made =>
      cases alsoOffered with
      | demo alsoConfigured alsoClocked alsoMade =>
          cases configured.symm.trans alsoConfigured
          cases clocked.symm.trans alsoClocked
          cases made.symm.trans alsoMade
          rfl

theorem OfferedArtifact.asks {env : Environment} {origin : Origin} {artifact : SignedTlsnArtifact}
    (offered : OfferedArtifact crates state env origin artifact) :
    (∃ artifact, origin = .arrived (.createTlsnEvidenceOffer artifact)) ∨
      ∃ serverName claim, origin = .arrived (.tlsnDemoOffer serverName claim) := by
  cases offered with
  | supplied => exact .inl ⟨_, rfl⟩
  | demo => exact .inr ⟨_, _, rfl⟩

/-- What an event offers lies under its id after it. -/
theorem Took.offers (took : Took crates state w event w') (offers : event.Offers crates state offer) :
    w'.inner.offers.lookup event.env.uuid = some offer := by
  cases offers with
  | plain origin admitted clocked =>
      rcases took.plainOffer origin with ⟨_, refused⟩ | ⟨_, _, clockedToo, inner⟩
      · exact absurd ⟨admitted, by rw [clocked]; rfl⟩ refused
      · cases clocked.symm.trans clockedToo
        rw [inner]
        exact AList.lookup_insert _
  | evidence offered clocked verified reserved =>
      rcases took.evidenceOffer offered.asks with ⟨_, silent⟩ | ⟨other, alsoOffered, now, evidence,
        alsoClocked, alsoVerified, _, inner, _⟩
      · rw [silent] at reserved
        exact absurd reserved List.not_mem_nil
      · cases offered.unique alsoOffered
        cases clocked.symm.trans alsoClocked
        cases verified.symm.trans alsoVerified
        rw [inner]
        exact AList.lookup_insert _

/-- The opening of a capture session draws as an offer does, and makes none. -/
theorem Took.opens_offers (took : Took crates state w event w')
    {request : CreateCaptureSessionRequest}
    (origin : event.origin = .arrived (.createPidCaptureSession request)) :
    w'.inner.offers = w.inner.offers := by
  cases reply : event.reply with
  | error failure =>
      have rejected := took.rejected reply
      rw [origin] at rejected
      rw [createPidCaptureSession_rejects ((rejects_bind_pure _ _ _ _ _).mp rejected)]
  | ok progress =>
      have returned := took.returned reply
      rw [origin] at returned
      obtain ⟨response, answered, _⟩ := (returns_bind_pure _ _ _ _ _ _).mp returned
      obtain ⟨_, _, inner⟩ := createPidCaptureSession_returns answered
      rw [inner]

/-- An offer that is there after a step was there before it, or the step has offered it. -/
theorem Took.offered (took : Took crates state w event w') {id : String}
    (found : w'.inner.offers.lookup id = some offer) :
    w.inner.offers.lookup id = some offer ∨
      event.env.uuid = id ∧ event.Offers crates state offer := by
  by_cases onEvidence : (∃ artifact, event.origin = .arrived (.createTlsnEvidenceOffer artifact)) ∨
      ∃ serverName claim, event.origin = .arrived (.tlsnDemoOffer serverName claim)
  · rcases took.evidenceOffer onEvidence with ⟨same, _⟩ | ⟨artifact, offered, now, evidence,
      clocked, verified, _, inner, log⟩
    · exact .inl (same ▸ found)
    · rw [inner] at found
      refine (lookup_insert_cases found).symm.imp_right fun made => ⟨made.1.symm, ?_⟩
      exact made.2 ▸ .evidence offered clocked verified (log ▸ .head _)
  · rcases took.offersChange.made found with before | ⟨rfl, _, draws⟩
    · exact .inl before
    cases origin : event.origin with
    | arrived request =>
        rw [DrawsOffer, origin] at draws
        cases request with
        | createCredentialOffer profile =>
            rcases took.plainOffer origin with ⟨same, _⟩ | ⟨now, admitted, clocked, inner⟩
            · exact .inl (same ▸ found)
            · rw [inner] at found
              refine (lookup_insert_cases found).symm.imp_right fun made => ⟨rfl, ?_⟩
              exact made.2 ▸ .plain origin admitted clocked
        | createTlsnEvidenceOffer artifact => exact absurd (.inl ⟨_, origin⟩) onEvidence
        | tlsnDemoOffer serverName claim => exact absurd (.inr ⟨_, _, origin⟩) onEvidence
        | createPidCaptureSession request => exact .inl (took.opens_offers origin ▸ found)
        | _ => simp [Origin.draws] at draws
    | resumed task =>
        rw [DrawsOffer, origin] at draws
        cases task <;> simp [Origin.draws] at draws

/-- The offers after a step are those before it and the one that it makes, if it makes one. -/
theorem Took.offers_iff (took : Took crates state w event w') (keyed : OffersKeyed w) (id : String) :
    w'.inner.offers.lookup id = some offer ↔
      w.inner.offers.lookup id = some offer ∨
        event.env.uuid = id ∧ event.Offers crates state offer := by
  constructor
  · exact took.offered
  · rintro (before | ⟨rfl, offers⟩)
    · exact took.offer_kept keyed before
    · exact took.offers offers

/-- In every run the offers are those that the history has made. -/
theorem run_offers_recorded {instances : StringMap RegisteredInstance} {trace : List Event}
    (run : (process crates state).Execution (World.initial instances) trace w) (id : String) :
    w.inner.offers.lookup id = some offer ↔ OfferRecorded crates state trace id offer := by
  refine run.history (P := fun trace w => w.inner.offers.lookup id = some offer ↔
    OfferRecorded crates state trace id offer) ?_ ?_
  · exact iff_of_false nofun fun recorded => List.not_mem_nil recorded.choose_spec.1
  · intro trace w action w' event before held stepped
    rw [(step_took stepped).offers_iff (run_offersKeyed before), held]
    simp only [OfferRecorded, List.mem_append, List.mem_singleton]
    constructor
    · rintro (⟨earlier, member, made⟩ | made)
      · exact ⟨earlier, .inl member, made⟩
      · exact ⟨event, .inr rfl, made⟩
    · rintro ⟨_, member | rfl, made⟩
      · exact .inl ⟨_, member, made⟩
      · exact .inr made

/-! ## Sessions with a notary -/

theorem Write.tlsnSessions {env : Environment} {origin : Origin} {s t : VolatileState}
    {log : List Mark} (write : Write crates state env origin s log t)
    (notAsked : ∀ artifact, ¬ OfferedArtifact crates state env origin artifact) :
    t.tlsnSessions = s.tlsnSessions := by
  cases write with
  | tlsnOffer made =>
      obtain ⟨artifact, _, offered, _⟩ := made.verified
      exact absurd offered (notAsked artifact)
  | _ => rfl

theorem Took.session_kept (took : Took crates state w event w')
    (notAsked : ∀ artifact, ¬ OfferedArtifact crates state event.env event.origin artifact) :
    w'.inner.tlsnSessions = w.inner.tlsnSessions := by
  have composes : Composes fun s (_ : List Mark) (t : VolatileState) =>
      t.tlsnSessions = s.tlsnSessions := ⟨fun _ => rfl, fun first second => second.trans first⟩
  exact took.writes.lift composes fun _ _ _ write => write.tlsnSessions notAsked

/-- The sessions after a step are those before it and the one that it makes an offer on. -/
theorem Took.sessions_iff (took : Took crates state w event w') (sessionId : String) :
    sessionId ∈ w'.inner.tlsnSessions ↔
      sessionId ∈ w.inner.tlsnSessions ∨ OfferedOn crates state [event] sessionId := by
  simp only [OfferedOn, List.mem_singleton, exists_eq_left]
  constructor
  · intro member
    by_cases asked : ∃ artifact, OfferedArtifact crates state event.env event.origin artifact
    · obtain ⟨_, offered⟩ := asked
      rcases took.evidenceOffer offered.asks with ⟨same, _⟩ | ⟨_, offered, now, evidence, clocked,
        verified, _, inner, log⟩
      · exact .inl (same ▸ member)
      · rw [inner] at member
        rcases List.mem_cons.mp member with rfl | before
        · exact .inr ⟨_, evidence, .evidence offered clocked verified (log ▸ .head _), rfl, rfl⟩
        · exact .inl before
    · exact .inl (took.session_kept (not_exists.mp asked) ▸ member)
  · rintro (before | ⟨offer, evidence, offers, attached, rfl⟩)
    · exact took.offersEvolve.sessions before
    · cases offers with
      | plain => cases attached
      | evidence offered clocked verified reserved =>
          cases attached
          exact (took.offersEvolve.marked _ reserved).2

theorem offeredOn_append {trace later : List Event} {sessionId : String} :
    OfferedOn crates state (trace ++ later) sessionId ↔
      OfferedOn crates state trace sessionId ∨ OfferedOn crates state later sessionId := by
  simp only [OfferedOn, List.mem_append, or_and_right, exists_or]

/-- In every run the reserved sessions are those that the history has made offers on. -/
theorem run_sessions_recorded {instances : StringMap RegisteredInstance} {trace : List Event}
    (run : (process crates state).Execution (World.initial instances) trace w)
    (sessionId : String) :
    sessionId ∈ w.inner.tlsnSessions ↔ OfferedOn crates state trace sessionId := by
  refine run.history (P := fun trace w => sessionId ∈ w.inner.tlsnSessions ↔
    OfferedOn crates state trace sessionId) ?_ ?_
  · exact iff_of_false List.not_mem_nil fun offered => List.not_mem_nil offered.choose_spec.1
  · intro trace w action w' event before held stepped
    rw [(step_took stepped).sessions_iff, held, offeredOn_append]

end Steps

/-! ## Offers of the service -/

section Deployed

variable {crates : Crates} {state : AppState} {store : StringMap RegisteredInstance}
  {instances : StringMap RegisteredInstance} {earlier later : List DeploymentEvent} {event : Event}
  {d : Deployment}

/-- An artifact gets its offer exactly when it is acceptable at the instant of the request and no
offer was made on its session since the last restart; whether that offer was ever handed out,
fetched or redeemed plays no part. -/
theorem evidence_offer_answers_iff (empty : crates.urlSafeDecode "" = some [])
    (run : (deployment crates state).Execution (.initial store)
      (earlier ++ .served event :: later) d)
    {artifact : SignedTlsnArtifact}
    (origin : event.origin = .arrived (.createTlsnEvidenceOffer artifact)) :
    (∃ progress, event.reply = .ok progress) ↔
      (∃ now message, event.env.clock = some now ∧ AcceptableArtifact crates artifact
        state.trustedNotaryKey state.trustedNotaryPqKey now message) ∧
      ¬ OfferedOn crates state (sinceRestart earlier) artifact.payload.sessionId ∧
      ∃ uri, crates.join state.issuer ("credential-offer/" ++ event.env.uuid) = some uri := by
  obtain ⟨_, w, _, past, took, _⟩ := deployment_at_event run
  rw [← run_sessions_recorded past]
  constructor
  · rintro ⟨progress, reply⟩
    have returned := took.returned reply
    rw [origin] at returned
    obtain ⟨response, answered, _⟩ := (returns_bind_pure _ _ _ _ _ _).mp returned
    obtain ⟨⟨now, evidence, clocked, verified, unused, _⟩, joined⟩ :=
      buildTlsnOffer_answers.mp ⟨response, answered⟩
    obtain ⟨⟨message, acceptable⟩, rfl⟩ := (verifyTlsnArtifact_eq_ok empty _).mp verified
    exact ⟨⟨now, message, clocked, acceptable⟩, unused, joined⟩
  · rintro ⟨⟨now, message, clocked, acceptable⟩, unused, joined⟩
    have verified := (verifyTlsnArtifact_eq_ok empty _).mpr ⟨⟨message, acceptable⟩, rfl⟩
    obtain ⟨response, answered⟩ := buildTlsnOffer_answers.mpr
      ⟨⟨now, _, clocked, verified, unused, rfl, rfl⟩, joined⟩
    exact ⟨_, took.replied origin ((returns_bind_pure _ _ _ _ _ _).mpr ⟨response, answered, rfl⟩)⟩

/-- The notarised artifact has its offer. -/
theorem notarised_offers :
    ∃ response u, (process reference referenceState).Execution (World.initial ∅)
        [⟨.arrived (.createTlsnEvidenceOffer Reference.notarisedArtifact),
          .steady referenceHost 1000 "offer" [0] [], .ok (.finished (.offer response)),
          [.tlsnOffer Reference.notarisedEvidence.sessionId]⟩]
        ⟨u, [], [.uuid "offer", .token (randomToken reference [0])]⟩ ∧
      u.offers.lookup "offer" =
        some (evidenceOffer reference Reference.notarisedEvidence [0] 1000) := by
  have joined : reference.join referenceState.issuer ("credential-offer/" ++ "offer") =
      some ⟨"https://issuer.example/credential-offer/offer"⟩ := by decide +kernel
  obtain ⟨response, offered⟩ := buildTlsnOffer_returns (s := .initial ∅)
    Reference.notarisedArtifact_verified List.not_mem_nil joined [0]
  have returned : Returns (Request.handler reference referenceState
      (.steady referenceHost 1000 "offer" [0] [])
      (.createTlsnEvidenceOffer Reference.notarisedArtifact)) _ _ _ _ :=
    (returns_bind_pure _ _ _ _ _ _).mpr ⟨response, offered, rfl⟩
  exact ⟨response, _, finished_run rfl (by simp) returned, AList.lookup_insert _⟩

theorem evidence_offer_answers_reference :
    ∃ event d, (deployment reference referenceState).Execution (.initial ∅)
        ([.restarted] ++ [.served event]) d ∧
      event.origin = .arrived (.createTlsnEvidenceOffer Reference.notarisedArtifact) ∧
      (∃ now message, event.env.clock = some now ∧ AcceptableArtifact reference
        Reference.notarisedArtifact referenceState.trustedNotaryKey
        referenceState.trustedNotaryPqKey now message) ∧
      ¬ OfferedOn reference referenceState (sinceRestart [.restarted])
        Reference.notarisedArtifact.payload.sessionId := by
  obtain ⟨response, u, run, _⟩ := notarised_offers
  obtain ⟨d, served⟩ := served_restarted run
  obtain ⟨acceptable, unused, _⟩ :=
    (@evidence_offer_answers_iff reference referenceState ∅ [.restarted] [] _ d (by decide) served
      _ rfl).mp ⟨_, rfl⟩
  exact ⟨_, d, served, rfl, acceptable, unused⟩

/-- An offer is shown exactly when it was made under the id since the last restart and has not
expired, and shown as it was made, however often it was fetched or redeemed before. -/
theorem offer_fetched_iff
    (run : (deployment crates state).Execution (.initial store)
      (earlier ++ .served event :: later) d)
    {id : String} (origin : event.origin = .arrived (.getCredentialOffer id))
    (progress : Progress) :
    event.reply = .ok progress ↔
      ∃ offer now, OfferRecorded crates state (sinceRestart earlier) id offer ∧
        event.env.clock = some now ∧ now ≤ offer.expiresAt ∧
        progress = .finished (.json (offer.body state)) := by
  obtain ⟨_, w, _, past, took, _⟩ := deployment_at_event run
  simp only [← run_offers_recorded past]
  constructor
  · intro reply
    have returned := took.returned reply
    rw [origin] at returned
    obtain ⟨_, answered, rfl⟩ := (returns_bind_pure _ _ _ _ _ _).mp returned
    obtain ⟨offer, now, found, clocked, inTime, rfl, _⟩ := offer_returns.mp answered
    exact ⟨offer, now, found, clocked, inTime, rfl⟩
  · rintro ⟨offer, now, found, clocked, inTime, rfl⟩
    exact took.replied origin ((returns_bind_pure _ _ _ _ _ _).mpr
      ⟨_, offer_returns.mpr ⟨offer, now, found, clocked, inTime, rfl, rfl, rfl⟩, rfl⟩)

theorem offer_fetched_reference :
    ∃ earlier event d offer, (deployment reference referenceState).Execution (.initial ∅)
        (.restarted :: earlier ++ [.served event]) d ∧
      event.origin = .arrived (.getCredentialOffer "offer") ∧
      OfferRecorded reference referenceState (sinceRestart (.restarted :: earlier)) "offer" offer ∧
      event.reply = .ok (.finished (.json (offer.body referenceState))) := by
  obtain ⟨response, u, run, found⟩ := notarised_offers
  have fetched : Returns (getCredentialOffer referenceState "offer" (some 1010)) u _ u [] :=
    offer_returns.mpr ⟨_, 1010, found, rfl, by decide, rfl, rfl, rfl⟩
  have returned : Returns (Request.handler reference referenceState
      (.steady referenceHost 1010 "" [] []) (.getCredentialOffer "offer")) u _ u [] :=
    (returns_bind_pure _ _ _ _ _ _).mpr ⟨_, fetched, rfl⟩
  obtain ⟨d, served⟩ := served_restarted (run.trans (finished_run rfl (by simp) returned))
  rw [List.map_append, ← List.cons_append] at served
  obtain ⟨offer, _, recorded, _, _, body⟩ := (offer_fetched_iff served rfl _).mp rfl
  exact ⟨_, _, d, offer, served, rfl, recorded, congrArg _ body⟩

/-- What makes a pushed request pass the checks, and the evidence that it then carries. -/
structure Pushable (crates : Crates) (state : AppState) (trace : List Event) (clock : ClockReading)
    (request : ParRequest) (evidence : Option VerifiedTlsnEvidence) : Prop where
  responseType : request.responseType = "code"
  challengeMethod : request.codeChallengeMethod = "S256"
  valid : validScope request.scope state.hybridPqEnabled = true
  plain : request.issuerState = none → evidence = none
  offered : ∀ issuerState, request.issuerState = some issuerState →
    ∃ id offer now, OfferRecorded crates state trace id offer ∧ offer.issuerState = issuerState ∧
      clock = some now ∧ now ≤ offer.expiresAt ∧
      offer.profile ∈ Text.splitAsciiWhitespace request.scope ∧ evidence = offer.tlsnEvidence

theorem par_pushable {trace : List Event} {w : World}
    (past : (process crates state).Execution (World.initial instances) trace w)
    {request : ParRequest} {clock : ClockReading} {evidence : Option VerifiedTlsnEvidence} :
    (∃ t log, Returns (par state request clock) w.inner evidence t log) ↔
      Pushable crates state trace clock request evidence := by
  have keyed := run_offersKeyed past
  constructor
  · rintro ⟨t, log, checked⟩
    simp only [par, returns_rejectIf_bind, not_or, not_not, Bool.not_eq_false] at checked
    obtain ⟨⟨responseType, challengeMethod⟩, valid, answered⟩ := checked
    refine ⟨responseType, challengeMethod, valid, ?_, ?_⟩
    · intro plain
      rw [plain] at answered
      exact ((returns_pure _ _ _ _ _).mp answered).1
    · intro issuerState named
      rw [named] at answered
      simp only [returns_ofExcept_bind, unixTime_eq_ok, returns_read_bind, returns_okOr_bind,
        returns_rejectIf_bind, returns_pure, not_or, not_not, UInt64.not_lt] at answered
      obtain ⟨now, clocked, offer, found, ⟨inTime, inScope⟩, rfl, _⟩ := answered
      obtain ⟨entry, searched, rfl⟩ := Option.map_eq_some_iff.mp found
      have listed : w.inner.offers.lookup entry.1 = some entry.2 :=
        AList.mem_lookup_iff.mpr (List.mem_of_find?_eq_some searched)
      exact ⟨entry.1, entry.2, now, (run_offers_recorded past _).mp listed,
        by simpa using List.find?_some searched, clocked, inTime, inScope, rfl⟩
  · intro pushable
    refine ⟨w.inner, [], ?_⟩
    cases named : request.issuerState with
    | none =>
        simp only [par, returns_rejectIf_bind, named, returns_pure, pushable.plain named]
        exact ⟨by simp [pushable.responseType, pushable.challengeMethod],
          by simp [pushable.valid], trivial, trivial, trivial⟩
    | some issuerState =>
        obtain ⟨id, offer, now, recorded, rfl, rfl, inTime, inScope, rfl⟩ :=
          pushable.offered issuerState named
        exact par_accepts pushable.responseType pushable.challengeMethod pushable.valid named
          (keyed.findOffer ((run_offers_recorded past id).mpr recorded)) inTime inScope

/-- A pushed request passes exactly when it names no offer, or one that was made since the last
restart for a configuration in its scope and has not expired; it carries the evidence of that
offer and no other, however often the offer was redeemed before. -/
theorem par_proceeds_iff
    (run : (deployment crates state).Execution (.initial store)
      (earlier ++ .served event :: later) d)
    {request : ParRequest} (origin : event.origin = .arrived (.par request))
    (evidence : Option VerifiedTlsnEvidence) :
    event.reply = .ok (.suspended (.parPush request evidence)) ↔
      Pushable crates state (sinceRestart earlier) event.env.clock request evidence := by
  obtain ⟨_, w, _, past, took, _⟩ := deployment_at_event run
  rw [← par_pushable past]
  constructor
  · intro reply
    have returned := took.returned reply
    rw [origin] at returned
    obtain ⟨_, checked, same⟩ := (returns_bind_pure _ _ _ _ _ _).mp returned
    cases same
    exact ⟨_, _, checked⟩
  · rintro ⟨t, log, checked⟩
    exact took.replied origin ((returns_bind_pure _ _ _ _ _ _).mpr ⟨evidence, checked, rfl⟩)

theorem par_proceeds_reference :
    ∃ earlier event later d request, (deployment reference referenceState).Execution (.initial ∅)
        (.restarted :: earlier ++ .served event :: later) d ∧
      event.origin = .arrived (.par request) ∧ request.issuerState.isSome ∧
      Pushable reference referenceState (sinceRestart (.restarted :: earlier)) event.env.clock
        request (some Reference.notarisedEvidence) := by
  let client := referenceClient tlsnEvidenceSdJwt
  obtain ⟨response, u, run, stored⟩ := notarised_offers
  have checked : Returns
      (par referenceState (client.parRequest (some (randomToken reference [0]))) (some 1010)) u
      (some Reference.notarisedEvidence) u [] :=
    par_accepts rfl rfl (by decide +kernel) rfl ((run_offersKeyed run).findOffer stored)
      (by decide) (by decide +kernel)
  have pushed := run.trans (push_run (.steady referenceHost 1010 "" [] [])
    (.steady referenceHost 1010 "request" [] []) checked (by decide))
  obtain ⟨d, served⟩ := served_restarted pushed
  rw [List.map_append, ← List.cons_append] at served
  exact ⟨_, _, _, d, _, served, rfl, rfl, (par_proceeds_iff served rfl _).mp rfl⟩

end Deployed

end VCIssuer.Service
