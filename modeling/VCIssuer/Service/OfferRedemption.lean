import VCIssuer.Service.Endpoints
import VCIssuer.Service.Provenance

/-!
# Offers and their redemption

An offer is requested by the id of a configuration and redeemed by a pushed
request that names its `issuer_state`.  Offers stay where they were stored, each
under an `issuer_state` of its own.  A requested id is split at whitespace as
scopes are, but is refused only for the plain space.
-/

namespace VCIssuer.Service

open VCIssuer.Library
open VCIssuer.Library.Critical

/-! ## Offers are keyed by what was drawn for them -/

section Writes

variable (crates : Crates) (env : Environment) (origin : Origin)

/-- The draws of a section that makes an offer. -/
def DrawsOffer : Prop :=
  origin.draws crates env = some [.uuid env.uuid, .token (randomToken crates env.octets)]

/-- How one section changes the offers. -/
structure OffersChange (s t : VolatileState) : Prop where
  kept : ∀ {id offer}, s.offers.lookup id = some offer →
    t.offers.lookup id = some offer ∨ id = env.uuid ∧ DrawsOffer crates env origin
  made : ∀ {id offer}, t.offers.lookup id = some offer →
    s.offers.lookup id = some offer ∨
      id = env.uuid ∧ offer.issuerState = randomToken crates env.octets ∧
        DrawsOffer crates env origin

end Writes

section Changes

variable {crates : Crates} {state : AppState} {env : Environment} {origin : Origin}
  {s t : VolatileState} {log : List Mark}

theorem OffersChange.composes :
    Composes fun s (_ : List Mark) t => OffersChange crates env origin s t where
  refl _ := ⟨.inl, .inl⟩
  trans first second := by
    constructor
    · intro id offer found
      rcases first.kept found with found | drawn
      · exact second.kept found
      · exact .inr drawn
    · intro id offer found
      rcases second.made found with found | drawn
      · exact first.made found
      · exact .inr drawn

theorem OfferedArtifact.draws {artifact : SignedTlsnArtifact}
    (offered : OfferedArtifact crates state env origin artifact) :
    DrawsOffer crates env origin := by
  cases offered with
  | supplied => rfl
  | demo => rfl

theorem OffersChange.insert {offer : CredentialOffer}
    (issuerState : offer.issuerState = randomToken crates env.octets)
    (drawn : DrawsOffer crates env origin)
    (offers : t.offers = s.offers.insert env.uuid offer) :
    OffersChange crates env origin s t := by
  constructor
  · intro id kept found
    by_cases same : id = env.uuid
    · exact .inr ⟨same, drawn⟩
    · rw [offers, AList.lookup_insert_ne same]
      exact .inl found
  · intro id made found
    rw [offers] at found
    rcases lookup_insert_cases found with ⟨same, rfl⟩ | found
    · exact .inr ⟨same, issuerState, drawn⟩
    · exact .inl found

theorem Write.offersChange (write : Write crates state env origin s log t) :
    OffersChange crates env origin s t := by
  cases write with
  | offer origin offer plain issuerState drawn => exact .insert issuerState drawn rfl
  | tlsnOffer made unused issuerState =>
      obtain ⟨_, _, offered, _⟩ := made.verified
      exact .insert issuerState offered.draws rfl
  | _ => exact ⟨.inl, .inl⟩

end Changes

/-- Offers lie under ids that were drawn, each with an `issuer_state` of its own. -/
structure OffersKeyed (w : World) : Prop where
  ids : ∀ {id offer}, w.inner.offers.lookup id = some offer → Draw.uuid id ∈ w.drawn
  states : ∀ {id offer}, w.inner.offers.lookup id = some offer →
    Draw.token offer.issuerState ∈ w.drawn
  once : ∀ {id other offer second}, w.inner.offers.lookup id = some offer →
    w.inner.offers.lookup other = some second → offer.issuerState = second.issuerState →
      id = other

section Runs

variable {crates : Crates} {state : AppState} {w w' : World} {event : Event}

theorem Took.offersChange (took : Took crates state w event w') :
    OffersChange crates event.env event.origin w.inner w'.inner :=
  took.writes.lift OffersChange.composes fun _ _ _ write => write.offersChange

theorem Took.drewOffer (took : Took crates state w event w')
    (draws : DrawsOffer crates event.env event.origin) :
    (Draw.uuid event.env.uuid ∉ w.drawn ∧ Draw.uuid event.env.uuid ∈ w'.drawn) ∧
      Draw.token (randomToken crates event.env.octets) ∉ w.drawn ∧
        Draw.token (randomToken crates event.env.octets) ∈ w'.drawn :=
  ⟨took.drew draws (.head _), took.drew draws (.tail _ (.head _))⟩

/-- A stored offer stays as it is. -/
theorem Took.offer_kept (took : Took crates state w event w') (keyed : OffersKeyed w)
    {id : String} {offer : CredentialOffer} (found : w.inner.offers.lookup id = some offer) :
    w'.inner.offers.lookup id = some offer := by
  rcases took.offersChange.kept found with kept | ⟨rfl, draws⟩
  · exact kept
  · exact absurd (keyed.ids found) (took.drewOffer draws).1.1

theorem Took.offersKeyed (took : Took crates state w event w') (keyed : OffersKeyed w) :
    OffersKeyed w' := by
  have subset := took.drawn_subset
  constructor
  · intro id offer found
    rcases took.offersChange.made found with before | ⟨rfl, _, draws⟩
    · exact subset (keyed.ids before)
    · exact (took.drewOffer draws).1.2
  · intro id offer found
    rcases took.offersChange.made found with before | ⟨_, issuerState, draws⟩
    · exact subset (keyed.states before)
    · rw [issuerState]
      exact (took.drewOffer draws).2.2
  · intro id other offer second found again same
    rcases took.offersChange.made found with before | ⟨made, issuerState, draws⟩
    · rcases took.offersChange.made again with also | ⟨_, issuerState, draws⟩
      · exact keyed.once before also same
      · rw [issuerState] at same
        exact absurd (same ▸ keyed.states before) (took.drewOffer draws).2.1
    · rcases took.offersChange.made again with also | ⟨alsoMade, _, _⟩
      · rw [issuerState] at same
        exact absurd (same ▸ keyed.states also) (took.drewOffer draws).2.1
      · rw [made, alsoMade]

theorem offersKeyed_initial (instances : StringMap RegisteredInstance) :
    OffersKeyed (World.initial instances) where
  ids found := by cases found
  states found := by cases found
  once found := by cases found

theorem run_offersKeyed {instances : StringMap RegisteredInstance} {trace : List Event}
    (run : (process crates state).Execution (World.initial instances) trace w) : OffersKeyed w :=
  run.invariant (offersKeyed_initial instances) fun _ _ _ _ held stepped =>
    (step_took stepped).offersKeyed held

/-- The same over the rest of a run. -/
theorem run_offer_kept {trace : List Event} (keyed : OffersKeyed w)
    (run : (process crates state).Execution w trace w') {id : String} {offer : CredentialOffer}
    (found : w.inner.offers.lookup id = some offer) :
    w'.inner.offers.lookup id = some offer := by
  have held : OffersKeyed w' ∧ w'.inner.offers.lookup id = some offer :=
    run.invariant (I := fun v => OffersKeyed v ∧ v.inner.offers.lookup id = some offer)
      ⟨keyed, found⟩ fun _ _ _ _ held stepped =>
        ⟨(step_took stepped).offersKeyed held.1, (step_took stepped).offer_kept held.1 held.2⟩
  exact held.2

/-- Searching all offers for an `issuer_state` finds the one offer that has it. -/
theorem OffersKeyed.findOffer (keyed : OffersKeyed w) {id : String} {offer : CredentialOffer}
    (found : w.inner.offers.lookup id = some offer) :
    findOffer w.inner offer.issuerState = some offer := by
  have member : ⟨id, offer⟩ ∈ w.inner.offers.entries := AList.mem_lookup_iff.mp found
  cases searched : w.inner.offers.entries.find?
      fun entry => entry.2.issuerState == offer.issuerState with
  | none =>
      have unequal := List.find?_eq_none.mp searched _ member
      exact absurd (beq_self_eq_true _) unequal
  | some entry =>
      have listed : w.inner.offers.lookup entry.1 = some entry.2 :=
        AList.mem_lookup_iff.mpr (List.mem_of_find?_eq_some searched)
      have same : entry.2.issuerState = offer.issuerState := by
        simpa using List.find?_some searched
      have key := keyed.once listed found same
      rw [key] at listed
      rw [Service.findOffer, searched, Option.map_some, Option.some.inj (listed.symm.trans found)]

end Runs

/-! ## Requests for an offer -/

/-- One of the ids that scopes may contain, spelled exactly so, and not that of notary evidence. -/
def Issuable (hybridPqEnabled : Bool) (id : String) : Prop :=
  scopeItemAllowed hybridPqEnabled id = true ∧ id ≠ tlsnEvidenceSdJwt

/-- Ids that scopes may contain, joined or padded by whitespace other than the plain space. -/
def HidesSeparator (hybridPqEnabled : Bool) (id : String) : Prop :=
  validScope id hybridPqEnabled = true ∧ ' ' ∉ id.toList ∧
    ∃ c ∈ id.toList, Text.isAsciiWhitespace c = true

/-- In time, a pushed request for the id that names the offer is accepted with its evidence. -/
def Redeemable (state : AppState) (s : VolatileState) (id : String) (offer : CredentialOffer) :
    Prop :=
  ∀ (request : ParRequest) (now : UInt64), request.responseType = "code" →
    request.codeChallengeMethod = "S256" → request.scope = id →
    request.issuerState = some offer.issuerState → now ≤ offer.expiresAt →
      Returns (par state request (some now)) s offer.tlsnEvidence s []

/-- Offers are made for exactly the issuable ids, and can be redeemed. -/
structure OffersExactly (crates : Crates) (state : AppState) (id : String) : Prop where
  created : ∀ (s : VolatileState) (now : UInt64) (uuid : String) (octets : Bytes),
    PlainReference [uuid] →
      ((∃ response t log,
          Returns (createCredentialOffer crates state id (some now) uuid octets) s response t log) ↔
        Issuable state.hybridPqEnabled id)
  redeemed : ∀ (instances : StringMap RegisteredInstance) (trace : List Event) (w : World)
      (event : Event) (response : CreateOfferResponse),
    (process crates state).Execution (World.initial instances) trace w → event ∈ trace →
    event.origin = .arrived (.createCredentialOffer id) →
    event.reply = .ok (.finished (.offer response)) →
      ∃ offer now, event.env.clock = some now ∧
        w.inner.offers.lookup event.env.uuid = some offer ∧ offer.profile = id ∧
        offer.expiresAt = saturatingAdd now 300 ∧ Redeemable state w.inner id offer

section Requests

variable {crates : Crates} {state : AppState} {id : String}

theorem Issuable.closed {hybridPqEnabled : Bool} (issuable : Issuable hybridPqEnabled id) :
    ∀ c ∈ id.toList, Text.isAsciiWhitespace c = false :=
  (scopeItemAllowed_closed issuable.1).2

/-- The checks on a requested id. -/
def OfferAdmitted (hybridPqEnabled : Bool) (id : String) : Prop :=
  id ≠ tlsnEvidenceSdJwt ∧ validScope id hybridPqEnabled = true ∧ ' ' ∉ id.toList

theorem createCredentialOffer_returns {clock : ClockReading} {uuid : String} {octets : Bytes}
    {s t : VolatileState} {response : CreateOfferResponse} {log : List Mark} :
    Returns (createCredentialOffer crates state id clock uuid octets) s response t log ↔
      OfferAdmitted state.hybridPqEnabled id ∧ ∃ now, clock = some now ∧
        Returns (offerResponse crates state uuid 300)
          { s with
            offers := s.offers.insert uuid
              { profile := id
                issuerState := randomToken crates octets
                expiresAt := saturatingAdd now 300
                tlsnEvidence := none } }
          response t log := by
  simp only [createCredentialOffer, returns_rejectIf_bind, returns_ofExcept_bind,
    returns_modify_bind, unixTime_eq_ok, OfferAdmitted, not_or, Bool.not_eq_false, and_assoc,
    ne_eq]

theorem offerResponse_returns {uuid : String} {expiresIn : UInt64} {uri : Url}
    (joined : crates.join state.issuer ("credential-offer/" ++ uuid) = some uri)
    (s : VolatileState) :
    ∃ response, Returns (offerResponse crates state uuid expiresIn) s response s [] := by
  simp only [offerResponse, returns_okOr_bind, returns_pure]
  exact ⟨_, uri, joined, rfl, trivial, trivial⟩

/-- Without a hidden separator what is admitted is what can be issued. -/
theorem offerAdmitted_iff {hybridPqEnabled : Bool} (shown : ¬ HidesSeparator hybridPqEnabled id) :
    OfferAdmitted hybridPqEnabled id ↔ Issuable hybridPqEnabled id := by
  constructor
  · rintro ⟨notTlsn, valid, noSpace⟩
    have closed : ∀ c ∈ id.toList, Text.isAsciiWhitespace c = false := by
      intro c member
      rw [Bool.eq_false_iff]
      exact fun space => shown ⟨valid, noSpace, c, member, space⟩
    rw [validScope_of_closed hybridPqEnabled closed] at valid
    exact ⟨valid, notTlsn⟩
  · intro issuable
    have valid := (validScope_of_closed hybridPqEnabled issuable.closed).trans issuable.1
    refine ⟨issuable.2, valid, fun member => ?_⟩
    exact absurd (issuable.closed ' ' member) (by decide)

theorem par_accepts {s : VolatileState} {request : ParRequest} {offer : CredentialOffer}
    {now : UInt64} (responseType : request.responseType = "code")
    (challengeMethod : request.codeChallengeMethod = "S256")
    (valid : validScope request.scope state.hybridPqEnabled = true)
    (named : request.issuerState = some offer.issuerState)
    (found : findOffer s offer.issuerState = some offer) (inTime : now ≤ offer.expiresAt)
    (inScope : offer.profile ∈ Text.splitAsciiWhitespace request.scope) :
    Returns (par state request (some now)) s offer.tlsnEvidence s [] := by
  simp only [par, returns_rejectIf_bind, named, returns_ofExcept_bind, unixTime_eq_ok,
    returns_read_bind, returns_okOr_bind, returns_pure]
  refine ⟨by simp [responseType, challengeMethod], by simp [valid], now, rfl, offer, found, ?_,
    rfl, trivial, trivial⟩
  rintro (late | absent)
  · exact absurd inTime (UInt64.not_le.mpr late)
  · exact absent inScope

theorem OffersKeyed.redeemable {w : World} (keyed : OffersKeyed w)
    (issuable : Issuable state.hybridPqEnabled id) {uuid : String} {offer : CredentialOffer}
    (found : w.inner.offers.lookup uuid = some offer) (profile : offer.profile = id) :
    Redeemable state w.inner id offer := by
  rintro request now responseType challengeMethod rfl named inTime
  have present := (scopeItemAllowed_closed issuable.1).1
  refine par_accepts responseType challengeMethod ?_ named (keyed.findOffer found) inTime ?_
  · exact (validScope_of_closed _ issuable.closed).trans issuable.1
  · rw [Text.splitAsciiWhitespace_of_closed present issuable.closed, profile]
    exact .head _

end Requests

/-- Offers are made exactly for what can be issued and redeemed, unless whitespace other than the
plain space separates the requested id. -/
theorem offersExactly_iff {crates : Crates} (laws : UrlLaws crates) {state : AppState}
    {url : HttpUrl} (issuer : state.issuer = ⟨url.text⟩) (id : String) :
    OffersExactly crates state id ↔ ¬ HidesSeparator state.hybridPqEnabled id := by
  have answers : ∀ {uuid : String}, PlainReference [uuid] → ∀ s : VolatileState,
      ∃ response, Returns (offerResponse crates state uuid 300) s response s [] := fun plain =>
    offerResponse_returns
      (join_segments laws issuer (plain_offer plain) (intercalate_offer _))
  constructor
  · rintro exactly ⟨valid, noSpace, c, member, space⟩
    have plain : PlainReference ["a"] := ⟨List.cons_ne_nil _ _, by decide⟩
    have notTlsn : id ≠ tlsnEvidenceSdJwt := by
      rintro rfl
      have closed : ∀ c ∈ tlsnEvidenceSdJwt.toList, Text.isAsciiWhitespace c = false := by
        decide +kernel
      exact absurd (closed c member) (by simp [space])
    obtain ⟨response, answered⟩ := answers plain _
    have issuable := (exactly.created (.initial ∅) 0 "a" [] plain).mp
      ⟨response, _, _, createCredentialOffer_returns.mpr
        ⟨⟨notTlsn, valid, noSpace⟩, 0, rfl, answered⟩⟩
    exact absurd (issuable.closed c member) (by simp [space])
  · intro shown
    constructor
    · intro s now uuid octets plain
      rw [← offerAdmitted_iff shown]
      constructor
      · rintro ⟨_, _, _, returned⟩
        exact (createCredentialOffer_returns.mp returned).1
      · intro admitted
        obtain ⟨response, answered⟩ := answers plain _
        exact ⟨response, _, _, createCredentialOffer_returns.mpr ⟨admitted, now, rfl, answered⟩⟩
    · intro instances trace w event response run member origin reply
      obtain ⟨before, after, rfl⟩ := List.append_of_mem member
      obtain ⟨v, u, _, first, stepped, rest⟩ := run.at_event
      have took := step_took stepped
      have returned := took.returned reply
      rw [origin] at returned
      obtain ⟨_, created, _⟩ := (returns_bind_pure _ _ _ _ _ _).mp returned
      obtain ⟨admitted, now, clocked, answered⟩ := createCredentialOffer_returns.mp created
      simp only [offerResponse, returns_okOr_bind, returns_pure] at answered
      obtain ⟨_, _, _, inner, _⟩ := answered
      have stored : u.inner.offers.lookup event.env.uuid = some
          { profile := id
            issuerState := randomToken crates event.env.octets
            expiresAt := saturatingAdd now 300
            tlsnEvidence := none } := by
        rw [inner]
        exact AList.lookup_insert _
      have keyed := took.offersKeyed (run_offersKeyed first)
      have kept := run_offer_kept keyed rest stored
      exact ⟨_, now, clocked, kept, rfl, rfl, (run_offersKeyed run).redeemable
        ((offerAdmitted_iff shown).mp admitted) kept rfl⟩

theorem offersExactly_qeaa : OffersExactly reference referenceState qeaaSdJwt := by
  have shown : ¬ HidesSeparator false qeaaSdJwt := by
    rintro ⟨_, _, c, member, space⟩
    have closed : ∀ c ∈ qeaaSdJwt.toList, Text.isAsciiWhitespace c = false := by decide +kernel
    exact absurd (closed c member) (by simp [space])
  exact (offersExactly_iff reference_urls
    (by decide : referenceState.issuer = ⟨referenceUrl.text⟩) qeaaSdJwt).mpr shown

/-- A tab behind the id of notary evidence gets an offer without evidence. -/
theorem padded_tlsn_is_offered :
    ¬ OffersExactly reference referenceState (tlsnEvidenceSdJwt ++ "\t") := by
  intro exactly
  have plain : PlainReference ["a"] := ⟨List.cons_ne_nil _ _, by decide⟩
  have admitted : OfferAdmitted false (tlsnEvidenceSdJwt ++ "\t") :=
    ⟨by decide +kernel, by decide +kernel, by decide +kernel⟩
  have issuable := (exactly.created (.initial ∅) 0 "a" [] plain).mp
    ⟨_, _, _, createCredentialOffer_returns.mpr ⟨admitted, 0, rfl, rfl⟩⟩
  exact absurd issuable.1 (by decide +kernel)

end VCIssuer.Service
