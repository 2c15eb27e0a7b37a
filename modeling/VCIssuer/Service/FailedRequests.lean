import VCIssuer.Service.HybridIssuing
import VCIssuer.Service.MdocEncoding
import VCIssuer.Service.Metadata
import VCIssuer.Service.Provenance

/-!
# Credential requests that fail

The nonce of a request is marked after everything that the kernel looks at and
before the dispatch over configurations.  What is refused up to there keeps its
nonce; what the dispatch or an encoder refuses has lost it.
-/

namespace VCIssuer.Service

open VCIssuer.Library
open VCIssuer.Library.Critical
open HybridCodec (Signable maxFieldBytes)

/-! ## Up to the kernel's decision -/

section Refusals

variable {crates : Crates} {state : AppState} {s : VolatileState} {nonces : StringMap Bool}

/-- However the section is refused, the nonces are these. -/
abbrev LeavesNonces {α : Type} (nonces : StringMap Bool) (s : VolatileState)
    (section_ : Handler α) : Prop :=
  LeavesRejected (fun t => t.nonces = nonces) s section_

theorem acceptBindingJti_leaves (held : s.nonces = nonces) (jti : String) (replayed : Failure) :
    LeavesNonces nonces s (acceptBindingJti jti replayed) := by
  intro t log rejected
  obtain ⟨_, rfl, _⟩ := (acceptBindingJti_rejects jti replayed).mp rejected
  exact held

theorem acceptDpopJti_leaves (held : s.nonces = nonces) (jti : String) (replayed : Failure) :
    LeavesNonces nonces s (acceptDpopJti jti replayed) := by
  intro t log rejected
  obtain ⟨_, rfl, _⟩ := (acceptDpopJti_rejects jti replayed).mp rejected
  exact held

theorem checkEvidence_leaves {Supplied Key Verified : Type} {needed : Prop} [Decidable needed]
    {supplied : Option Supplied} {missing : Failure} {key : Option Key} {unconfigured : Failure}
    {verify : Supplied → Key → Checked Verified} {jti : Verified → String}
    {replayed notAccepted : Failure} (held : s.nonces = nonces) :
    LeavesNonces nonces s (checkEvidence needed supplied missing key unconfigured verify jti
      replayed notAccepted) := by
  unfold checkEvidence
  split
  case isTrue =>
    refine .okOr_bind held fun _ _ => .okOr_bind held fun _ _ => .ofExcept_bind held fun _ _ => ?_
    exact .bind (acceptBindingJti_leaves held _ _) fun _ _ _ _ => .pure _
  case isFalse => exact .rejectIf_bind held fun _ => .pure _

/-- Nothing up to the kernel's decision touches the nonces, unless it is all passed. -/
theorem credentialDecision_leaves (headers : HeaderMap) (request : CredentialRequest)
    (dpopClock proofClock clock : ClockReading) (host : Host) :
    LeavesNonces s.nonces s
      (credentialDecision crates state headers request dpopClock proofClock clock host) := by
  unfold credentialDecision
  refine .okOr_bind rfl fun token _ => .okOr_bind rfl fun proof _ => .okOr_bind rfl fun uri _ =>
    .ofExcept_bind rfl fun dpop _ => ?_
  refine .bind (acceptDpopJti_leaves rfl _ _) fun _ t _ accepted => ?_
  obtain ⟨_, rfl, _⟩ := (acceptDpopJti_returns _ _ _).mp accepted
  refine .read_bind (.okOr_bind rfl fun access _ => .rejectIf_bind rfl fun _ =>
    .rejectIf_bind rfl fun _ => .okOr_bind rfl fun compact _ => .ofExcept_bind rfl fun holder _ =>
    .rejectIf_bind rfl fun _ => .okOr_bind rfl fun used _ => .rejectIf_bind rfl fun _ =>
    .ofExcept_bind rfl fun now _ => .rejectIf_bind rfl fun _ => ?_)
  refine .bind (checkPidBinding_eq .. ▸ checkEvidence_leaves rfl) fun pidBinding t _ bound => ?_
  obtain ⟨_, _, rfl, _⟩ := (checkPidBinding_returns _).mp bound
  refine .bind (checkChipLiveness_eq .. ▸ checkEvidence_leaves rfl) fun chip t _ captured => ?_
  obtain ⟨_, _, rfl, _⟩ := (checkChipLiveness_returns _).mp captured
  exact .ofExcept_bind rfl fun _ _ => .accept_bind (.pure _)

end Refusals

/-! ## A service that is set up -/

/-- What the service has from its start on: an issuer, a key for every profile that has a label,
and the hybrid signer where it is enabled. -/
structure Configured (state : AppState) : Prop where
  named : state.issuer.origin ≠ ""
  signers : ∀ profile, (keyLabel profile).isSome → ∃ signer,
    state.credentialSigners.lookup profile = some signer
  hybrid : state.hybridPqEnabled = true → ∃ signer,
    state.hybridCredentialSigner = some signer ∧ SetUp signer

/-- The Keychain, its certificates and the stored post-quantum key answer. -/
structure PortsSign (crates : Crates) (state : AppState) (host : Host) : Prop where
  answers : HostAnswers host
  credentials : ∀ profile signer, state.credentialSigners.lookup profile = some signer →
    SignsRaw host signer
  hybrid : ∀ signer, state.hybridCredentialSigner = some signer → SignsHybrid crates host signer

/-- What is taken for granted of the writers. -/
structure EncoderLaws (crates : Crates) : Prop where
  writes : CiboriumWrites crates
  shortest : CiboriumShortest crates
  composes : CiboriumComposes crates
  digest : DigestLaws crates

/-- A decision that an encoder is there for, and that is within the limits of the encoder. -/
structure Encodes (crates : Crates) (state : AppState) (host : Host) (decision : Decision) :
    Prop where
  dispatched : decision.configurationId ≠ devSvipePidSdJwt
  inCalendar : decision.configurationId = pidMdoc ∨ decision.configurationId = eaaMdoc →
    decision.now.toNat + 3600 ≤ maxTimestamp
  fits : decision.configurationId = hybridPqSdJwt →
    committedLength crates host state.issuer decision.proof.holderJwk decision.now ≤ maxFieldBytes

section Encoders

variable {crates : Crates} {state : AppState} {host : Host}

theorem SignsRaw.signs {signer : KeychainSigner} (raw : SignsRaw host signer) :
    Signs host signer := fun message =>
  have ⟨signature, signed, _⟩ := raw message
  ⟨signature, signed⟩

/-- The mdocs of the credential endpoint have the same elements for everybody. -/
theorem issueMdoc_iff (laws : EncoderLaws crates) (answers : HostAnswers host)
    {signer : KeychainSigner} (signs : SignsRaw host signer) {profile : String}
    (listed : profile = pidMdoc ∨ profile = eaaMdoc) {holderJwk : Value} {now : UInt64}
    {x y : Bytes} (coordinates : HolderCoordinates crates holderJwk x y) :
    (∃ credential, issueMdoc crates host signer profile holderJwk now none none = .ok credential) ↔
      now.toNat + 3600 ≤ maxTimestamp := by
  constructor
  · rintro ⟨_, issued⟩
    obtain ⟨made, _⟩ := issueMdoc_eq_ok.mp issued
    have spelled := made.validTo
    simp only [rfc3339, Checks.rejectIf_bind_eq_ok, Nat.not_lt, Nat.not_le] at spelled
    have bounded := spelled.2.1
    have limit : maxTimestamp = 253402300799 := rfl
    have lifetime : (3600 : UInt64).toNat = 3600 := rfl
    have size : UInt64.size = 2 ^ 64 := rfl
    rw [toNat_saturatingAdd, lifetime] at bounded
    omega
  · intro inCalendar
    rcases listed with rfl | rfl
    · exact issueMdoc_succeeds laws.writes laws.digest answers signs rfl (by decide) coordinates
        inCalendar
    · exact issueMdoc_succeeds laws.writes laws.digest answers signs rfl (by decide) coordinates
        inCalendar

end Encoders

/-! ## Which grants become credentials -/

/-- The scope list by the kinds of credential, with one id that is of no kind. -/
theorem scopeItemAllowed_cases {hybridPqEnabled : Bool} {id : String}
    (allowed : scopeItemAllowed hybridPqEnabled id = true) :
    id ∈ [pidSdJwt, pidFromEmrtdSdJwt, qeaaSdJwt, qeaaPidBoundSdJwt, tlsnEvidenceSdJwt] ∨
      id = hybridPqSdJwt ∧ hybridPqEnabled = true ∨ id ∈ [pidMdoc, eaaMdoc] ∨
      id = mandateSdJwt ∨ id = devSvipePidSdJwt := by
  rw [scopeItemAllowed, Bool.or_eq_true, Bool.and_eq_true, beq_iff_eq, List.contains_iff_mem]
    at allowed
  rcases allowed with member | ⟨enabled, named⟩
  · simp only [allowedScopes, List.mem_cons, List.not_mem_nil, or_false] at member ⊢
    grind
  · exact .inr (.inl ⟨named, enabled⟩)

theorem ChipLivenessChecked.present {crates : Crates} {state : AppState}
    {request : CredentialRequest} {proof : VerifiedCredentialProof} {now : UInt64}
    {chip : Option VerifiedChipLiveness}
    (checked : ChipLivenessChecked crates state request proof now chip)
    (needed : request.credentialConfigurationId = pidFromEmrtdSdJwt) : chip.isSome := by
  cases checked with
  | bound => rfl
  | free notNeeded _ => exact absurd needed notNeeded

theorem ChipLivenessChecked.absent {crates : Crates} {state : AppState}
    {request : CredentialRequest} {proof : VerifiedCredentialProof} {now : UInt64}
    {chip : Option VerifiedChipLiveness}
    (checked : ChipLivenessChecked crates state request proof now chip)
    (free : request.credentialConfigurationId ≠ pidFromEmrtdSdJwt) : chip = none := by
  cases checked with
  | bound needed => exact absurd needed free
  | free => rfl

namespace CredentialGrant

variable {crates : Crates} {state : AppState} {host : Host} {s : VolatileState}
  {headers : HeaderMap} {request : CredentialRequest} {dpopClock proofClock clock : ClockReading}
  (grant : CredentialGrant crates state s headers request dpopClock proofClock clock)

theorem holder_signable (digest : DigestLaws crates) :
    Signable (Text.asBytes grant.decision.proof.holderJkt) :=
  ⟨Text.asBytes_ne_nil (digest.digest_ne_empty _), (digest.len_digest_le _).trans (by decide)⟩

theorem nonce_signable : Signable (Text.asBytes grant.decision.proof.nonce) :=
  ⟨Text.asBytes_ne_nil grant.holder.noncePresent, grant.holder.nonceBounded.trans (by decide)⟩

theorem hybrid_iff (laws : EncoderLaws crates) (configured : Configured state)
    (ports : PortsSign crates state host) {signer : HybridCredentialSigner}
    (found : state.hybridCredentialSigner = some signer) (enabled : state.hybridPqEnabled = true) :
    (∃ envelope, issueHybridCredential crates host signer state.issuer
        grant.decision.proof.holderJwk grant.decision.proof.holderJkt grant.decision.proof.nonce
        grant.decision.now = .ok envelope) ↔
      committedLength crates host state.issuer grant.decision.proof.holderJwk
        grant.decision.now ≤ maxFieldBytes := by
  obtain ⟨_, same, setUp⟩ := configured.hybrid enabled
  cases found.symm.trans same
  exact issueHybridCredential_iff laws.writes laws.shortest laws.composes laws.digest setUp
    (ports.hybrid signer found) configured.named (grant.holder_signable laws.digest)
    grant.nonce_signable grant.admitted.inTime

theorem mdoc_iff (laws : EncoderLaws crates) (ports : PortsSign crates state host)
    {signer : KeychainSigner}
    (listed : grant.decision.configurationId = pidMdoc ∨ grant.decision.configurationId = eaaMdoc)
    (found : state.credentialSigners.lookup grant.decision.configurationId = some signer) :
    (∃ credential, issueMdoc crates host signer grant.decision.configurationId
        grant.decision.proof.holderJwk grant.decision.now none none = .ok credential) ↔
      grant.decision.now.toNat + 3600 ≤ maxTimestamp := by
  obtain ⟨x, y, coordinates⟩ := grant.holder.denotes.coordinates
  exact issueMdoc_iff laws ports.answers (ports.credentials _ signer found) listed coordinates

/-- The inputs of every SD-JWT profile have been checked to be there. -/
theorem sdJwtClaims_isSome
    (listed : request.credentialConfigurationId ∈
      [pidSdJwt, pidFromEmrtdSdJwt, qeaaSdJwt, qeaaPidBoundSdJwt, tlsnEvidenceSdJwt]) :
    (sdJwtClaims grant.decision.configurationId grant.decision.tlsnEvidence
      (grant.decision.chipLiveness.map (·.claims))).isSome := by
  change (sdJwtClaims request.credentialConfigurationId grant.access.tlsnEvidence
    (grant.chipLiveness.map (·.claims))).isSome
  simp only [List.mem_cons, List.not_mem_nil, or_false] at listed
  have chip := grant.chipChecked
  have evidence := grant.tlsnBound
  rcases listed with named | named | named | named | named <;> rw [named]
  · rfl
  · obtain ⟨_, found⟩ := Option.isSome_iff_exists.mp (chip.present named)
    rw [found]
    rfl
  · rfl
  · rfl
  · obtain ⟨_, found⟩ := Option.isSome_iff_exists.mp (evidence named)
    rw [found]
    rfl

/-- A granted request for a profile of the scope list becomes a credential exactly when the
dispatch knows the profile and its encoder can say what it is asked to. -/
theorem encodes_iff (laws : EncoderLaws crates) (configured : Configured state)
    (ports : PortsSign crates state host)
    (allowed : scopeItemAllowed state.hybridPqEnabled request.credentialConfigurationId = true) :
    (∃ response, encodeCredential crates state host grant.decision = .ok response) ↔
      Encodes crates state host grant.decision := by
  simp only [encodeCredential_eq_ok]
  constructor
  · rintro ⟨_, encoded⟩
    cases encoded with
    | sdJwt listed =>
        have apart : ∀ id ∈ [pidSdJwt, pidFromEmrtdSdJwt, qeaaSdJwt, qeaaPidBoundSdJwt,
            tlsnEvidenceSdJwt], id ≠ devSvipePidSdJwt ∧ ¬ (id = pidMdoc ∨ id = eaaMdoc) ∧
              id ≠ hybridPqSdJwt := by decide +kernel
        obtain ⟨notSvipe, notMdoc, notHybrid⟩ := apart _ listed
        exact ⟨notSvipe, fun mdoc => absurd mdoc notMdoc, fun hybrid => absurd hybrid notHybrid⟩
    | hybrid named found enabled issued =>
        refine ⟨by rw [named]; decide, fun mdoc => ?_, fun _ => ?_⟩
        · rw [named] at mdoc
          exact absurd mdoc (by decide)
        · exact (grant.hybrid_iff laws configured ports found enabled).mp ⟨_, issued⟩
    | mdoc listed found issued =>
        have one := List.mem_pair.mp listed
        refine ⟨?_, fun _ => (grant.mdoc_iff laws ports one found).mp ⟨_, issued⟩, fun hybrid => ?_⟩
        · rcases one with named | named <;> rw [named] <;> decide
        · rw [hybrid] at one
          exact absurd one (by decide)
    | mandate named =>
        refine ⟨by rw [named]; decide, fun mdoc => ?_, fun hybrid => ?_⟩
        · rw [named] at mdoc
          exact absurd mdoc (by decide)
        · exact absurd (named.symm.trans hybrid) (by decide)
  · intro encodes
    have signerOf (labelled : (keyLabel request.credentialConfigurationId).isSome) :=
      configured.signers _ labelled
    rcases scopeItemAllowed_cases allowed with listed | ⟨named, enabled⟩ | listed | named | named
    · have labels : ∀ id ∈ [pidSdJwt, pidFromEmrtdSdJwt, qeaaSdJwt, qeaaPidBoundSdJwt,
          tlsnEvidenceSdJwt], (keyLabel id).isSome := by decide +kernel
      obtain ⟨signer, found⟩ := signerOf (labels _ listed)
      obtain ⟨_, claimed⟩ := Option.isSome_iff_exists.mp (grant.sdJwtClaims_isSome listed)
      obtain ⟨_, issued⟩ := (ports.credentials _ signer found).signs.issueSdJwt crates state.issuer
        grant.decision.proof.holderJwk grant.decision.now claimed
      exact ⟨_, .sdJwt listed found issued⟩
    · obtain ⟨signer, found, _⟩ := configured.hybrid enabled
      obtain ⟨_, issued⟩ := (grant.hybrid_iff laws configured ports found enabled).mpr
        (encodes.fits named)
      exact ⟨_, .hybrid named found enabled issued⟩
    · have labels : ∀ id ∈ [pidMdoc, eaaMdoc], (keyLabel id).isSome := by decide +kernel
      obtain ⟨signer, found⟩ := signerOf (labels _ listed)
      have one := List.mem_pair.mp listed
      obtain ⟨_, issued⟩ := (grant.mdoc_iff laws ports one found).mpr (encodes.inCalendar one)
      exact ⟨_, .mdoc listed found issued⟩
    · obtain ⟨signer, found⟩ := signerOf (by rw [named]; decide)
      obtain ⟨mandate, granted⟩ := Option.isSome_iff_exists.mp
        ((grantOf_isSome_iff crates _ (grant.pidBinding.map (·.subject)) grant.chipLiveness).mpr
          named)
      obtain ⟨_, issued⟩ := (ports.credentials _ signer found).signs.signSdJwt crates _ _
      exact ⟨_, .mandate named granted found issued⟩
    · exact absurd named encodes.dispatched

end CredentialGrant

/-! ## Requests that fail -/

/-- The request has passed every check of the step, up to the kernel's. -/
def Decided (crates : Crates) (state : AppState) (s : VolatileState) (event : Event)
    (headers : HeaderMap) (request : CredentialRequest) (decision : Decision) : Prop :=
  ∃ t log, Returns (credentialDecision crates state headers request event.env.dpopClock
    event.env.proofClock event.env.clock event.env.host) s decision t log

/-- An error leaves the nonces alone, and a request that has passed every check gets a
credential. -/
structure FailsSafely (crates : Crates) (state : AppState) (s t : VolatileState) (event : Event)
    (headers : HeaderMap) (request : CredentialRequest) : Prop where
  kept : ∀ failure, event.reply = .error failure → t.nonces = s.nonces
  issued : ∀ decision, Decided crates state s event headers request decision →
    ∃ response, event.reply = .ok (.finished (.credential response))

/-- The scope list, the issuer's metadata and the kernel's role table know the configuration. -/
structure Advertised (state : AppState) (id : String) : Prop where
  scope : scopeItemAllowed state.hybridPqEnabled id = true
  metadata : ∀ shake256, id ∈
    (configurationsSupported shake256 state.issuer.origin state.hybridPqEnabled).map Prod.fst
  role : (roleOf id).isSome

section Steps

variable {crates : Crates} {state : AppState} {w w' : World} {event : Event}
  {headers : HeaderMap} {request : CredentialRequest}

/-- A token of a run was issued for a scope of the list. -/
theorem Traced.token_scope {trace : List Event} (traced : Traced crates state trace w)
    {token : String} {access : AccessToken} (found : w.inner.tokens.lookup token = some access) :
    ∀ item ∈ Text.splitAsciiWhitespace access.scope,
      scopeItemAllowed state.hybridPqEnabled item = true := by
  obtain ⟨_, _, _, _, entry, _, _, scope, _, _, _, pushed, _, same, _, _, _, _, par, rfl⟩ :=
    traced.tokens found
  rw [scope, show entry.scope = _ from congrArg AuthorizationCode.scope same]
  exact ((validScope_eq_true_iff _ _).mp par.valid).2

theorem Decided.grant {decision : Decision}
    (decided : Decided crates state w.inner event headers request decision) :
    ∃ grant : CredentialGrant crates state w.inner headers request event.env.dpopClock
      event.env.proofClock event.env.clock, decision = grant.decision := by
  obtain ⟨_, _, returned⟩ := decided
  obtain ⟨grant, same, _⟩ := (credentialDecision_returns ..).mp returned
  exact ⟨grant, same⟩

theorem CredentialGrant.decided
    (grant : CredentialGrant crates state w.inner headers request event.env.dpopClock
      event.env.proofClock event.env.clock) :
    Decided crates state w.inner event headers request grant.decision :=
  ⟨_, _, (credentialDecision_returns ..).mpr ⟨grant, rfl, rfl, rfl⟩⟩

theorem Decided.unique {decision other : Decision}
    (decided : Decided crates state w.inner event headers request decision)
    (again : Decided crates state w.inner event headers request other) : other = decision := by
  obtain ⟨_, _, first⟩ := decided
  obtain ⟨_, _, second⟩ := again
  cases first.symm.trans second
  rfl

/-- The credentials of a step are those that its decision is encoded to. -/
theorem Took.credential_iff (took : Took crates state w event w')
    (origin : event.origin = .arrived (.credential headers request))
    (response : CredentialResponse) :
    event.reply = .ok (.finished (.credential response)) ↔
      ∃ decision, Decided crates state w.inner event headers request decision ∧
        encodeCredential crates state event.env.host decision = .ok response := by
  constructor
  · intro reply
    obtain ⟨grant, encoded, _, _⟩ := took.credentialGrant origin reply
    exact ⟨grant.decision, grant.decided, encoded⟩
  · rintro ⟨decision, decided, encoded⟩
    obtain ⟨grant, rfl⟩ := decided.grant
    have returned := (credential_returns event.env.dpopClock event.env.proofClock event.env.clock
      event.env.host response).mpr ⟨grant, encoded, rfl, rfl⟩
    exact took.replied origin ((returns_bind_pure _ _ _ _ _ _).mpr ⟨response, returned, rfl⟩)

/-- An error that is not the dispatch's or an encoder's leaves the nonces alone. -/
theorem Took.kept_of_undecided (took : Took crates state w event w')
    (origin : event.origin = .arrived (.credential headers request))
    (undecided : ∀ decision, ¬ Decided crates state w.inner event headers request decision)
    {failure : Failure} (reply : event.reply = .error failure) :
    w'.inner.nonces = w.inner.nonces := by
  have rejected := took.rejected reply
  rw [origin] at rejected
  rcases (rejects_bind _ _ _ _ _).mp ((rejects_bind_pure _ _ _ _ _).mp rejected) with
    refused | ⟨decision, u, before, _, returned, _⟩
  · exact credentialDecision_leaves _ _ _ _ _ _ _ _ refused
  · exact absurd ⟨u, before, returned⟩ (undecided decision)

theorem Took.failsSafely_iff_encoded (took : Took crates state w event w')
    (origin : event.origin = .arrived (.credential headers request)) :
    FailsSafely crates state w.inner w'.inner event headers request ↔
      ∀ decision, Decided crates state w.inner event headers request decision →
        ∃ response, encodeCredential crates state event.env.host decision = .ok response := by
  constructor
  · intro safe decision decided
    obtain ⟨response, reply⟩ := safe.issued decision decided
    obtain ⟨other, again, encoded⟩ := (took.credential_iff origin response).mp reply
    cases decided.unique again
    exact ⟨response, encoded⟩
  · intro encodes
    have issued (decision : Decision)
        (decided : Decided crates state w.inner event headers request decision) :
        ∃ response, event.reply = .ok (.finished (.credential response)) := by
      obtain ⟨response, encoded⟩ := encodes decision decided
      exact ⟨response, (took.credential_iff origin response).mpr ⟨decision, decided, encoded⟩⟩
    refine ⟨fun failure reply => took.kept_of_undecided origin (fun decision decided => ?_) reply,
      issued⟩
    obtain ⟨_, answered⟩ := issued decision decided
    cases reply.symm.trans answered

end Steps

/-! ### Requests at the reference issuer -/

theorem reference_encoders : EncoderLaws reference :=
  ⟨reference_writes, reference_shortest, reference_composes, Reference.digestLaws⟩

theorem lookup_map_const {α : Type} {keys : List String} {key : String} {value found : α}
    (lookup : (keys.map fun key => (key, value)).lookup key = some found) : found = value := by
  induction keys with
  | nil => cases lookup
  | cons first keys carried =>
      rw [List.map_cons, List.lookup_cons] at lookup
      split at lookup
      · exact (Option.some.inj lookup).symm
      · exact carried lookup

theorem reference_configured : Configured referenceState where
  named := by decide
  signers profile labelled := by
    unfold keyLabel at labelled
    split_ifs at labelled <;> first | (subst profile; exact ⟨_, rfl⟩) | cases labelled
  hybrid enabled := by cases enabled

theorem reference_portsSign : PortsSign reference referenceState referenceHost where
  answers := reference_answers
  credentials profile signer found := by
    rw [lookup_map_const found]
    exact reference_signsRaw Reference.onCurve₁
  hybrid _ found := by cases found

/-- A credential request can arrive at any time. -/
theorem credential_arrives {crates : Crates} {state : AppState} (w : World) (headers : HeaderMap)
    (request : CredentialRequest) (env : Environment) :
    ∃ w' event, (process crates state).step w (.arrive (.credential headers request) env) =
        some (w', event) ∧
      event.origin = .arrived (.credential headers request) ∧ event.env = env := by
  have drew : Origin.draws crates env (.arrived (.credential headers request)) = some [] := rfl
  have possible : ((process crates state).step w
      (.arrive (.credential headers request) env)).isSome := by
    change (execute crates state w w.tasks (.arrived (.credential headers request)) env).isSome
    simp only [execute, drew, List.not_mem_nil, false_imp_iff, implies_true, if_true,
      Option.isSome_some]
  obtain ⟨⟨w', event⟩, stepped⟩ := Option.isSome_iff_exists.mp possible
  exact ⟨w', event, stepped, arrive_origin stepped⟩

/-- A client with a token for a profile without further evidence gets past the kernel. -/
theorem reference_decided {id : String} (valid : validScope id false = true)
    (inScope : id ∈ Text.splitAsciiWhitespace id)
    (free : ¬ (id = qeaaPidBoundSdJwt ∨ id = mandateSdJwt))
    (plain : id ≠ tlsnEvidenceSdJwt ∧ isNfcPid id = false) (known : (roleOf id).isSome) :
    ∃ trace earlier w event w' headers request decision,
      (process reference referenceState).TransitionAt (World.initial ∅) trace earlier w event w' ∧
      event.origin = .arrived (.credential headers request) ∧ event.env.host = referenceHost ∧
      Decided reference referenceState w.inner event headers request decision ∧
      decision.configurationId = id ∧ decision.now = 1030 := by
  obtain ⟨token, trace, s, drawn, run, found, dpopJtis, _, nonces⟩ :=
    referenceClient_obtainsToken valid
  have good : Client.GoodJti "credential" := ⟨by decide, by decide⟩
  have goodNonce : Client.GoodJti "1" := ⟨by decide, by decide⟩
  have handedOut : (process reference referenceState).Execution ⟨s, [], drawn⟩ _ _ :=
    nonce_run (.steady referenceHost 1030 "" [] [1]) (show _ = some "1" from rfl) (nonces "1")
  have notNfc : id ≠ pidFromEmrtdSdJwt := by
    rintro rfl
    exact absurd plain.2 (by decide)
  have admitted : Admitted id none none 1030 :=
    ⟨known, fun needed => absurd needed free,
      fun nfc => absurd nfc (by rw [plain.2]; decide), by decide⟩
  have grant := (referenceClient id).credentialGrant (t := 1030)
    (s := { s with nonces := s.nonces.insert "1" false }) reference_encodings good
    (by rw [dpopJtis]; decide) goodNonce (AList.lookup_insert s.nonces) found rfl inScope
    (fun tlsn => absurd tlsn plain.1) notNfc (.free free rfl) (by rintro _ ⟨⟩) admitted
  obtain ⟨w', event, stepped, origin, env⟩ := credential_arrives
    ⟨{ s with nonces := s.nonces.insert "1" false }, [], drawn ++ [.nonce "1"]⟩ _ _
    (.steady referenceHost 1030 "" [] [])
  have host : event.env.host = referenceHost := congrArg Environment.host env
  obtain ⟨dpopClock, proofClock, clock⟩ : event.env.dpopClock = some 1030 ∧
      event.env.proofClock = some 1030 ∧ event.env.clock = some 1030 := by
    rw [env]
    exact ⟨rfl, rfl, rfl⟩
  refine ⟨_, _, _, event, w', _, _, grant.decision, ⟨_, [], rfl, run.trans handedOut, stepped⟩,
    origin, host, ?_, rfl, (Option.some.inj grant.clocked).symm⟩
  rw [Decided, dpopClock, proofClock, clock]
  exact ⟨_, _, (credentialDecision_returns ..).mpr ⟨grant, rfl, rfl, rfl⟩⟩

/-- With ports that sign, a credential request fails safely if and only if it is refused by the
kernel or before, or there is an encoder for what it asks within the limits of the encoder. -/
theorem failsSafely_iff {crates : Crates} (laws : EncoderLaws crates) {state : AppState}
    (configured : Configured state) {instances : StringMap RegisteredInstance}
    {trace earlier : List Event} {w w' : World} {event : Event} {headers : HeaderMap}
    {request : CredentialRequest}
    (taken : (process crates state).TransitionAt (World.initial instances) trace earlier w event w')
    (origin : event.origin = .arrived (.credential headers request))
    (ports : PortsSign crates state event.env.host) :
    FailsSafely crates state w.inner w'.inner event headers request ↔
      ∀ decision, Decided crates state w.inner event headers request decision →
        Encodes crates state event.env.host decision := by
  obtain ⟨_, _, _, before, stepped⟩ := taken
  rw [(step_took stepped).failsSafely_iff_encoded origin]
  refine forall_congr' fun decision => forall_congr' fun decided => ?_
  obtain ⟨grant, rfl⟩ := decided.grant
  have allowed := (run_traced before).token_scope grant.accessFound _ grant.inScope
  exact grant.encodes_iff laws configured ports allowed

theorem failsSafely_eaaMdoc :
    ∃ trace earlier w event w' headers request,
      (process reference referenceState).TransitionAt (World.initial ∅) trace earlier w event w' ∧
      event.origin = .arrived (.credential headers request) ∧
      (∃ decision, Decided reference referenceState w.inner event headers request decision ∧
        decision.configurationId = eaaMdoc) ∧
      FailsSafely reference referenceState w.inner w'.inner event headers request := by
  obtain ⟨trace, earlier, w, event, w', headers, request, decision, taken, origin, host, decided, id,
    now⟩ := reference_decided (by decide +kernel : validScope eaaMdoc false = true)
      (by decide +kernel) (by decide) ⟨by decide, by decide⟩ (by decide)
  have ports : PortsSign reference referenceState event.env.host := by
    rw [host]
    exact reference_portsSign
  refine ⟨trace, earlier, w, event, w', headers, request, taken, origin, ⟨decision, decided, id⟩,
    (failsSafely_iff reference_encoders reference_configured taken origin ports).mpr ?_⟩
  intro other again
  cases decided.unique again
  refine ⟨by rw [id]; decide, fun _ => ?_, fun hybrid => ?_⟩
  · rw [now]
    decide
  · exact absurd (id.symm.trans hybrid) (by decide)

/-- The development PID is in the scope list, in the metadata and in the role table, and a request
for it loses its nonce. -/
theorem devSvipe_burns_nonce :
    Advertised referenceState devSvipePidSdJwt ∧
    ∃ trace earlier w event w' headers request,
      (process reference referenceState).TransitionAt (World.initial ∅) trace earlier w event w' ∧
      event.origin = .arrived (.credential headers request) ∧
      PortsSign reference referenceState event.env.host ∧
      request.credentialConfigurationId = devSvipePidSdJwt ∧
      ¬ FailsSafely reference referenceState w.inner w'.inner event headers request := by
  have advertised : Advertised referenceState devSvipePidSdJwt :=
    ⟨by decide, fun _ => by simp [configurationsSupported], by decide⟩
  obtain ⟨trace, earlier, w, event, w', headers, request, decision, taken, origin, host, decided, id,
    _⟩ := reference_decided (by decide +kernel : validScope devSvipePidSdJwt false = true)
      (by decide +kernel) (by decide) ⟨by decide, by decide⟩ advertised.role
  have ports : PortsSign reference referenceState event.env.host := by
    rw [host]
    exact reference_portsSign
  obtain ⟨grant, same⟩ := decided.grant
  have asked : request.credentialConfigurationId = devSvipePidSdJwt := by
    rw [← id, same]
    rfl
  refine ⟨advertised, trace, earlier, w, event, w', headers, request, taken, origin, ports, asked,
    fun safe => ?_⟩
  obtain ⟨_, _, _, _, stepped⟩ := taken
  obtain ⟨_, encoded⟩ := ((step_took stepped).failsSafely_iff_encoded origin).mp safe decision decided
  have other := encodeCredential_eq_ok.mp encoded
  cases other with
  | sdJwt listed =>
      rw [id] at listed
      exact absurd listed (by decide)
  | hybrid named => exact absurd (id.symm.trans named) (by decide)
  | mdoc listed =>
      rw [id] at listed
      exact absurd listed (by decide)
  | mandate named => exact absurd (id.symm.trans named) (by decide)

end VCIssuer.Service
