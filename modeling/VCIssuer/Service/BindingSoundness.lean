import VCIssuer.Service.Presentation
import VCIssuer.Service.Provenance

/-!
# What stands behind a bound credential

A credential of a PID-bound profile rests on a PID of this issuer, on a proof
made with the key of that PID, and on disclosures that the PID commits to.  The
subject that comes out of them is the mandator of a mandate.
-/

namespace VCIssuer.Service

open VCIssuer.Library
open VCIssuer.Library.Critical
open VCIssuer.Kernel (Powers powersToScopeUrns)

/-! ## Evidence -/

/-- A member of the identity that was presented in a string the PID commits to. -/
def Committed (crates : Crates) (digests presented : List String) (name value : String) : Prop :=
  ∃ encoded ∈ presented, crates.digest encoded ∈ digests ∧ Discloses crates encoded name value

/-- The three members of an identity, with the person they belong to. -/
structure CommittedIdentity (crates : Crates) (digests presented : List String) where
  familyName : String
  givenName : String
  birthdate : String
  familyNameCommitted : Committed crates digests presented "family_name" familyName
  givenNameCommitted : Committed crates digests presented "given_name" givenName
  birthdateCommitted : Committed crates digests presented "birthdate" birthdate
  authoritative : ⟨some familyName, some givenName, some birthdate⟩ = authoritativeIdentity

/-- The URN of the person with this identity. -/
def CommittedIdentity.mandator {crates : Crates} {digests presented : List String}
    (identity : CommittedIdentity crates digests presented) : String :=
  "urn:eudi:subject:" ++ String.ofList (Text.lowerHex 32
    (hashU128 crates
      (canonicalSubject identity.familyName identity.givenName identity.birthdate)).toNat)

theorem PidBindingProof.committedIdentity {crates : Crates} {binding : PidBindingObject}
    {trusted : Value} {issuer : Url} {nonce holderJkt : String} {now : UInt64}
    (accepted : PidBindingProof crates binding trusted issuer nonce holderJkt now) :
    ∃ identity : CommittedIdentity crates (accepted.committed.filterMap Value.asStr)
        binding.tail.dropLast,
      identity.mandator = "urn:eudi:subject:" ++
        String.ofList (Text.lowerHex 32 (authoritativeSubject crates).val.toNat) := by
  obtain ⟨committed, shown⟩ := accepted.disclosures
  obtain ⟨familyName, familyMember, familyShown⟩ := shown.familyName _ rfl
  obtain ⟨givenName, givenMember, givenShown⟩ := shown.givenName _ rfl
  obtain ⟨birthdate, birthMember, birthShown⟩ := shown.birthdate _ rfl
  exact ⟨{
    familyName := "Mustermann", givenName := "Erika", birthdate := "1990-01-01"
    familyNameCommitted := ⟨familyName, familyMember, committed _ familyMember, familyShown⟩
    givenNameCommitted := ⟨givenName, givenMember, committed _ givenMember, givenShown⟩
    birthdateCommitted := ⟨birthdate, birthMember, committed _ birthMember, birthShown⟩
    authoritative := rfl }, rfl⟩

/-- The time of a binding proof lies between five minutes ago and five seconds ahead. -/
theorem PidBindingProof.window {crates : Crates} {binding : PidBindingObject}
    {trusted : Value} {issuer : Url} {nonce holderJkt : String} {now : UInt64}
    (accepted : PidBindingProof crates binding trusted issuer nonce holderJkt now) :
    now.toNat ≤ accepted.claims.iat.toNat + 300 ∧ accepted.claims.iat.toNat ≤ now.toNat + 5 := by
  have notAhead := UInt64.le_iff_toNat_le.mp accepted.notAhead
  have notStale := UInt64.le_iff_toNat_le.mp accepted.notStale
  rw [toNat_saturatingAdd] at notAhead
  rw [toNat_saturatingSub] at notStale
  have five : (5 : UInt64).toNat = 5 := by simp
  have hundreds : (300 : UInt64).toNat = 300 := by simp
  omega

/-! ## Mandates -/

/-- A mandate signed in this step for the delegate's key, on behalf of the mandator and for the
listed powers. -/
structure SignedMandate (crates : Crates) (state : AppState) (host : Host) (credential : String)
    (delegateJwk : Value) (mandator : String) (now : UInt64) where
  signer : KeychainSigner
  powers : Powers
  mandateJti : String
  signerFound : state.credentialSigners.lookup mandateSdJwt = some signer
  signed : SignedSdJwt crates host signer credential
    (mandateSdJwtPayload crates host state.issuer delegateJwk mandator powers mandateJti now).1
    (mandateSdJwtPayload crates host state.issuer delegateJwk mandator powers mandateJti now).2
  mandatorSigned : (mandateClaims mandator powers mandateJti).lookup "mandator" =
    some (.string mandator)
  scopeSigned : (mandateClaims mandator powers mandateJti).lookup "scope" =
    some (.array ((powersToScopeUrns powers).map .string))
  nonempty : powers.isEmpty = false
  narrowed : ∀ delegator delegateKey,
    powers.subsetOf (demoMandateDelegation delegator delegateKey (serviceEvidence now)).1.grant =
      true
  scopeNonempty : powersToScopeUrns powers ≠ []

theorem encodeCredential_mandate {crates : Crates} {state : AppState} {host : Host}
    {decision : Decision} {grant : MandateGrant} {response : CredentialResponse}
    (isMandate : decision.configurationId = mandateSdJwt)
    (granted : decision.mandateGrant = some grant)
    (powers : grant.grantedPowers = ⟨demoMandatePowers⟩)
    (encoded : encodeCredential crates state host decision = .ok response) :
    Nonempty (SignedMandate crates state host response.credential decision.proof.holderJwk
      (mandatorOf grant) decision.now) := by
  have notSdJwt : mandateSdJwt ∉ [pidSdJwt, pidFromEmrtdSdJwt, qeaaSdJwt, qeaaPidBoundSdJwt,
      tlsnEvidenceSdJwt] := by decide
  have notHybrid : mandateSdJwt ≠ hybridPqSdJwt := by decide
  have notMdoc : mandateSdJwt ∉ [pidMdoc, eaaMdoc] := by decide
  simp only [encodeCredential, isMandate, notSdJwt, notHybrid, notMdoc, if_false, if_true, granted,
    Checks.okOr_bind_eq_ok, Checks.bind_eq_ok (issueMandateSdJwt ..), Checks.pure_eq_ok]
    at encoded
  obtain ⟨_, ⟨⟩, signer, signerFound, credential, issued, rfl⟩ := encoded
  exact ⟨{
    signer, signerFound
    powers := grant.grantedPowers
    mandateJti := randomToken crates (host.salt .mandateJti 0)
    signed := (signSdJwt_eq_ok _ _ _ _ _ _).mp issued
    mandatorSigned := rfl
    scopeSigned := rfl
    nonempty := by rw [powers]; exact demoMandatePowers_admitted.1
    narrowed := fun _ _ => by rw [powers]; exact demoMandatePowers_admitted.2
    scopeNonempty := by rw [powers]; decide }⟩

/-! ## The chain behind a bound credential -/

/-- A credential of a PID-bound profile, with everything that it rests on. -/
structure SoundBinding (crates : Crates) (state : AppState) (earlier : List Event) (event : Event)
    (request : CredentialRequest) (response : CredentialResponse) where
  /-- The key that the credential is bound to. -/
  holderJwk : EcJwk
  cNonce : String
  now : UInt64
  compact : String
  holder : HolderProof crates compact state.issuer event.env.proofClock
  proofs : request.proofs = [compact]
  nonceNamed : holder.claims.nonce = cNonce
  holderNamed : holder.header.jwk = holderJwk
  keyBound : BoundTo crates event.env.host response.credential holderJwk.toValue
  clocked : event.env.clock = some now
  signer : KeychainSigner
  supplied : PidBindingObject
  signerFound : state.credentialSigners.lookup pidSdJwt = some signer
  given : request.pidBinding = some supplied
  binding : PidBindingProof crates supplied (signer.publicJwk crates) state.issuer cNonce
    (holderJwk.thumbprint crates) now
  window : now.toNat ≤ binding.claims.iat.toNat + 300 ∧
    binding.claims.iat.toNat ≤ now.toNat + 5
  nonceUnused : ∀ other ∈ earlier, Mark.credentialNonce cNonce ∉ other.log
  nonceTaken : Mark.credentialNonce cNonce ∈ event.log
  jtiUnused : ∀ other ∈ earlier, Mark.bindingJti binding.claims.jti ∉ other.log
  jtiTaken : Mark.bindingJti binding.claims.jti ∈ event.log
  disclosuresCommitted : ∀ encoded ∈ supplied.tail.dropLast,
    crates.digest encoded ∈ binding.committed.filterMap Value.asStr
  identity : CommittedIdentity crates (binding.committed.filterMap Value.asStr)
    supplied.tail.dropLast
  mandate : request.credentialConfigurationId = mandateSdJwt →
    Nonempty (SignedMandate crates state event.env.host response.credential holderJwk.toValue
      identity.mandator now)

/-- The reference client obtains a mandate with another wallet's PID. -/
theorem reference_mandate :
    ∃ earlier event w headers request response,
      (process reference referenceState).Execution (World.initial ∅) (earlier ++ [event]) w ∧
      event.origin = .arrived (.credential headers request) ∧
      event.reply = .ok (.finished (.credential response)) ∧
      request.credentialConfigurationId = mandateSdJwt := by
  have valid : validScope mandateSdJwt false = true := by decide +kernel
  have inScope : mandateSdJwt ∈ Text.splitAsciiWhitespace mandateSdJwt := by decide +kernel
  have good : Client.GoodJti "credential" := ⟨by decide, by decide⟩
  have goodNonce : Client.GoodJti (toString (1 : UInt64).toNat) := ⟨by decide, by decide⟩
  obtain ⟨token, trace, s, drawn, run, found, dpopJtis, bindingJtis, nonces⟩ :=
    referenceClient_obtainsToken valid
  have short : ShortTexts "pid-binding+jwt" (toString (1 : UInt64).toNat) "binding"
      (referenceClient mandateSdJwt).wallet.jkt :=
    ⟨by decide, by decide, by decide, Reference.len_digest_le _⟩
  let holder : VerifiedCredentialProof :=
    ⟨(referenceClient mandateSdJwt).wallet.jkt, (referenceClient mandateSdJwt).wallet.jwk.toValue,
      toString (1 : UInt64).toNat⟩
  obtain ⟨supplied, ⟨accepted⟩⟩ : ∃ supplied, Nonempty (PidBindingProof reference supplied
      ((Reference.signerAt Reference.x₁ Reference.y₁).publicJwk reference) referenceState.issuer
      holder.nonce holder.holderJkt 1030) :=
    ⟨_, reference_presentation_accepted Reference.onCurve₃ 1000 1030 short (by decide) (by decide)
      (by decide)⟩
  have checked : PidBindingChecked reference referenceState
      ((referenceClient mandateSdJwt).credentialRequest mandateSdJwt 1030 holder.nonce
        (some supplied)) holder 1030 (some accepted.verified) :=
    .bound (.inr rfl) rfl rfl accepted
  have admitted : Admitted mandateSdJwt (some accepted.verified.subject) none 1030 :=
    ⟨by decide, fun _ => rfl, fun nfc => absurd nfc (by decide), by decide⟩
  have granted : grantOf reference mandateSdJwt (some accepted.verified.subject) none =
      some ⟨authoritativeSubject reference, ⟨demoMandatePowers⟩⟩ := rfl
  obtain ⟨credential, issued⟩ := (reference_signs Reference.onCurve₁).signSdJwt reference
    (mandateSdJwtPayload reference referenceHost referenceState.issuer
      (referenceClient mandateSdJwt).wallet.jwk.toValue
      (mandatorOf ⟨authoritativeSubject reference, ⟨demoMandatePowers⟩⟩) ⟨demoMandatePowers⟩
      (randomToken reference (referenceHost.salt .mandateJti 0)) 1030).1 _
  obtain ⟨first, event, u, issuing, origin, reply, _⟩ :=
    (referenceClient mandateSdJwt).obtainsCredential reference_encodings referenceHost 1030 1
      (by decide) (nonces _) good (by rw [dpopJtis]; decide) goodNonce found rfl inScope
      (fun tlsn => absurd tlsn (by decide)) (by decide) checked
      (by rintro _ ⟨⟩; rw [bindingJtis]; exact List.not_mem_nil) admitted
      (encodeCredential_of_mandate rfl granted rfl issued)
  have whole := run.trans issuing
  rw [← List.singleton_append, ← List.append_assoc] at whole
  exact ⟨trace ++ [first], event, _, _, _, _, whole, origin, reply, rfl⟩

/-- Behind every credential of a PID-bound profile in a run stand a PID of this issuer and a
binding proof made with its key for the key of the credential. -/
theorem binding_sound {crates : Crates} {state : AppState}
    {instances : StringMap RegisteredInstance} {earlier later : List Event} {w : World}
    {event : Event} {headers : HeaderMap} {request : CredentialRequest}
    {response : CredentialResponse}
    (run : (process crates state).Execution (World.initial instances)
      (earlier ++ event :: later) w)
    (origin : event.origin = .arrived (.credential headers request))
    (reply : event.reply = .ok (.finished (.credential response)))
    (profile : request.credentialConfigurationId = qeaaPidBoundSdJwt ∨
      request.credentialConfigurationId = mandateSdJwt) :
    Nonempty (SoundBinding crates state earlier event request response) := by
  obtain ⟨before, _, _, first, stepped, _⟩ := run.at_event
  have took := step_took stepped
  obtain ⟨wellformed, respects⟩ := run_respects (wellformed_initial instances) first
  obtain ⟨grant, encoded, _, log⟩ := took.credentialGrant origin reply
  have unused : ∀ {m : Mark}, m ∈ event.log → ∀ other ∈ earlier, m ∉ other.log :=
    fun taken other member logged => (took.respects wellformed).unspent _ taken
      (respects.nowSpent _ (List.mem_flatMap.mpr ⟨other, member, logged⟩))
  have nonceTaken : Mark.credentialNonce grant.holder.verified.nonce ∈ event.log := by
    rw [log]
    simp [CredentialGrant.marks]
  have checked := grant.pidChecked
  have noChip : grant.pidBinding.isSome → grant.chipLiveness = none := by
    intro isBound
    rcases evidence_exclusive checked grant.chipChecked with noPid | noChip
    · rw [noPid] at isBound
      cases isBound
    · exact noChip
  generalize isBinding : grant.pidBinding = pidBinding at checked noChip
  cases checked with
  | free notNeeded => exact absurd profile notNeeded
  | @bound supplied signer needed given signerFound binding =>
      have jtiTaken : Mark.bindingJti binding.claims.jti ∈ event.log := by
        rw [log]
        simp [CredentialGrant.marks, isBinding, PidBindingProof.verified]
      obtain ⟨identity, mandator⟩ := binding.committedIdentity
      refine ⟨{
        supplied, signer, given, signerFound, binding, nonceTaken, jtiTaken, identity
        holderJwk := grant.holder.header.jwk
        cNonce := grant.holder.verified.nonce
        now := grant.now
        compact := grant.compact
        holder := grant.holder
        proofs := grant.proofs
        nonceNamed := rfl
        holderNamed := rfl
        keyBound := encodeCredential_bound encoded
        clocked := grant.clocked
        window := binding.window
        nonceUnused := unused nonceTaken
        jtiUnused := unused jtiTaken
        disclosuresCommitted := binding.disclosures.1
        mandate := ?_ }⟩
      intro isMandate
      have granted : grant.decision.mandateGrant =
          some ⟨authoritativeSubject crates, ⟨demoMandatePowers⟩⟩ := by
        change grantOf crates request.credentialConfigurationId _ _ = _
        rw [grantOf, if_pos isMandate, isBinding, noChip rfl]
        rfl
      rw [mandator]
      exact encodeCredential_mandate isMandate granted rfl encoded

theorem binding_sound_reference :
    ∃ earlier event w headers request response,
      (process reference referenceState).Execution (World.initial ∅) (earlier ++ [event]) w ∧
      event.origin = .arrived (.credential headers request) ∧
      Nonempty (SoundBinding reference referenceState earlier event request response) := by
  obtain ⟨earlier, event, w, headers, request, response, run, origin, reply, profile⟩ :=
    reference_mandate
  exact ⟨earlier, event, w, headers, request, response, run, origin,
    binding_sound run origin reply (.inr profile)⟩

end VCIssuer.Service
