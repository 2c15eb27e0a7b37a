import VCIssuer.Kernel.Decision
import VCIssuer.Kernel.SeedModel

/-!
# The kernel refines the repository's model

The kernel's records are read as records of the model field by field: words
become natural numbers, and the one role the model lacks becomes any role that
neither earns level of assurance nor carries a delegation.  Gate by gate the two
decisions agree; the PID-binding guard is the only conjunct of the kernel with no
counterpart.
-/

namespace VCIssuer.Kernel.Refinement

open VCIssuer.Kernel

/-! ## The embedding -/

def embedInstant (now : Kernel.Instant) : SeedModel.Instant := now.val.toNat

def embedPowers (powers : Kernel.Powers) : SeedModel.Powers := powers.bits.toNat

def embedRole (developmentRole : SeedModel.IssuerRole) : Kernel.IssuerRole → SeedModel.IssuerRole
  | .pid => .pid
  | .qeaa => .qeaa
  | .publicBodyEaa => .publicBodyEaa
  | .nonQualifiedEaa => .nonQualifiedEaa
  | .developmentEvidence => developmentRole
  | .representation => .representation

def embedFormat : Kernel.CredentialFormat → SeedModel.CredentialFormat
  | .sdJwtVc => .sdJwtVc
  | .mdoc => .mdoc

def embedProfile (developmentRole : SeedModel.IssuerRole) (p : Kernel.CredentialProfile) :
    SeedModel.CredentialProfile where
  id := p.id.val.toNat
  role := embedRole developmentRole p.role
  format := embedFormat p.format
  enabled := p.enabled
  deviceBindingRequired := p.deviceBindingRequired
  requireHybridPq := p.requireHybridPq
  requireChipLiveness := p.requireChipLiveness

def embedEvidence (e : Kernel.Evidence) : SeedModel.Evidence where
  validFrom := embedInstant e.validFrom
  validUntil := embedInstant e.validUntil
  freshUntil := embedInstant e.freshUntil
  accepted := e.accepted

def embedAuthorization (a : Kernel.Authorization) : SeedModel.Authorization where
  evidence := embedEvidence a.evidence
  profile := a.profile.val.toNat
  subject := a.subject.val.toNat
  dataset := a.dataset.val.toNat

def embedToken (t : Kernel.TokenBinding) : SeedModel.TokenBinding where
  evidence := embedEvidence t.evidence
  dpopKey := t.dpopKey.val.toNat

def embedProof (p : Kernel.CredentialProof) : SeedModel.CredentialProof where
  evidence := embedEvidence p.evidence
  nonce := p.nonce.val.toNat
  holderKey := p.holderKey.val.toNat
  possessionValid := p.possessionValid

def embedWallet (w : Kernel.WalletEvidence) : SeedModel.WalletEvidence where
  wia := embedEvidence w.wia
  ka := w.ka.map embedEvidence
  walletNotRevoked := w.walletNotRevoked
  holderKeyApproved := w.holderKeyApproved

def embedSubject (s : Kernel.SubjectEvidence) : SeedModel.SubjectEvidence where
  evidence := embedEvidence s.evidence
  subject := s.subject.val.toNat
  loaHigh := s.loaHigh
  entitled := s.entitled
  claimsCurrent := s.claimsCurrent
  dataset := s.dataset.val.toNat

def embedDelegation (d : Kernel.Delegation) : SeedModel.Delegation where
  delegatorEvidence := embedEvidence d.delegatorEvidence
  delegator := d.delegator.val.toNat
  delegateKey := d.delegateKey.val.toNat
  grant := embedPowers d.grant
  mandateNotRevoked := d.mandateNotRevoked

def embedChip (e : Kernel.ChipLivenessEvidence) : SeedModel.ChipLivenessEvidence where
  evidence := embedEvidence e.evidence
  subject := e.subject.val.toNat
  sodPassiveAuth := e.sodPassiveAuth
  chipAuthentic := e.chipAuthentic
  livenessMatched := e.livenessMatched

def embedRequest (r : Kernel.Request) : SeedModel.Request where
  id := r.id.val.toNat
  profile := r.profile.val.toNat
  subject := r.subject.val.toNat
  dataset := r.dataset.val.toNat
  dpopKey := r.dpopKey.val.toNat
  proof := embedProof r.proof
  expiry := embedInstant r.expiry
  requestedPowers := embedPowers r.requestedPowers

def embedSession (developmentRole : SeedModel.IssuerRole) (s : Kernel.Session) :
    SeedModel.Session where
  id := s.id.val.toNat
  profile := embedProfile developmentRole s.profile
  authorization := embedAuthorization s.authorization
  token := embedToken s.token
  wallet := embedWallet s.wallet
  subject := embedSubject s.subject
  expectedNonce := s.expectedNonce.val.toNat
  nonceUnused := s.nonceUnused
  issuerEntitled := s.issuerEntitled
  statusReserved := s.statusReserved
  alreadyIssued := s.alreadyIssued
  wiaKaMaintenanceEnd := embedInstant s.wiaKaMaintenanceEnd
  hybridPqBound := s.hybridPqBound
  delegation := s.delegation.map embedDelegation
  chipEvidence := s.chipEvidence.map embedChip

def embedCommand (c : Kernel.SignCommand) : SeedModel.SignCommand where
  session := c.session.val.toNat
  request := c.request.val.toNat
  profile := c.profile.val.toNat
  subject := c.subject.val.toNat
  holderKey := c.holderKey.val.toNat
  onBehalfOf := c.onBehalfOf.map fun delegator => delegator.val.toNat
  grantedPowers := embedPowers c.grantedPowers

/-! ## Gate by gate -/

theorem profileId_iff (a b : ProfileId) : a.val.toNat = b.val.toNat ↔ a = b := by
  rw [BitVec.toNat_inj]
  exact ⟨congrArg ProfileId.mk, congrArg ProfileId.val⟩

theorem subjectId_iff (a b : SubjectId) : a.val.toNat = b.val.toNat ↔ a = b := by
  rw [BitVec.toNat_inj]
  exact ⟨congrArg SubjectId.mk, congrArg SubjectId.val⟩

theorem datasetId_iff (a b : DatasetId) : a.val.toNat = b.val.toNat ↔ a = b := by
  rw [BitVec.toNat_inj]
  exact ⟨congrArg DatasetId.mk, congrArg DatasetId.val⟩

theorem keyThumbprint_iff (a b : KeyThumbprint) : a.val.toNat = b.val.toNat ↔ a = b := by
  rw [BitVec.toNat_inj]
  exact ⟨congrArg KeyThumbprint.mk, congrArg KeyThumbprint.val⟩

theorem nonceId_iff (a b : NonceId) : a.val.toNat = b.val.toNat ↔ a = b := by
  rw [BitVec.toNat_inj]
  exact ⟨congrArg NonceId.mk, congrArg NonceId.val⟩

theorem embedPowers_injective : Function.Injective embedPowers := by
  intro a b same
  exact Powers.ext (UInt64.toNat_inj.mp same)

theorem usableAt_iff (e : Kernel.Evidence) (now : Kernel.Instant) :
    (embedEvidence e).usableAt (embedInstant now) ↔ e.usableAt now = true := by
  rw [Evidence.usableAt_iff, UInt64.le_iff_toNat_le, UInt64.lt_iff_toNat_lt, UInt64.le_iff_toNat_le]
  rfl

theorem subsetOf_iff (a grant : Kernel.Powers) :
    SeedModel.Powers.subsetOf (embedPowers a) (embedPowers grant) ↔ a.subsetOf grant = true := by
  rw [SeedModel.Powers.subsetOf, Powers.subsetOf, beq_iff_eq, ← UInt64.toNat_inj, UInt64.toNat_and]
  rfl

theorem nonempty_iff (powers : Kernel.Powers) :
    embedPowers powers ≠ 0 ↔ powers.isEmpty = false := by
  rw [← Bool.not_eq_true, Powers.isEmpty, beq_iff_eq, ← UInt64.toNat_inj]
  rfl

theorem deviceBindingOk_iff (developmentRole : SeedModel.IssuerRole) (p : Kernel.CredentialProfile)
    (w : Kernel.WalletEvidence) (proof : Kernel.CredentialProof) :
    SeedModel.deviceBindingOk (embedProfile developmentRole p) (embedWallet w) (embedProof proof) ↔
      deviceBindingOk p w proof = true := by
  unfold SeedModel.deviceBindingOk deviceBindingOk
  cases required : p.deviceBindingRequired <;>
    simp [embedProfile, embedWallet, embedProof, required, and_assoc]

theorem delegationHolds_iff (d : Kernel.Delegation) (r : Kernel.Request) (now : Kernel.Instant) :
    ((embedDelegation d).delegatorEvidence.usableAt (embedInstant now) ∧
        (embedDelegation d).mandateNotRevoked = true ∧
        (embedDelegation d).delegateKey = (embedRequest r).proof.holderKey ∧
        (embedRequest r).requestedPowers ≠ 0 ∧
        SeedModel.Powers.subsetOf (embedRequest r).requestedPowers (embedDelegation d).grant) ↔
      DelegationHolds d r now := by
  simp only [embedDelegation, embedRequest, embedProof, usableAt_iff, keyThumbprint_iff,
    nonempty_iff, subsetOf_iff]
  constructor
  · rintro ⟨usable, live, key, nonempty, narrow⟩
    exact ⟨usable, live, key, nonempty, narrow⟩
  · rintro ⟨usable, live, key, nonempty, narrow⟩
    exact ⟨usable, live, key, nonempty, narrow⟩

theorem chipHolds_iff (e : Kernel.ChipLivenessEvidence) (r : Kernel.Request) (now : Kernel.Instant) :
    ((embedChip e).evidence.usableAt (embedInstant now) ∧
        (embedChip e).sodPassiveAuth = true ∧
        (embedChip e).chipAuthentic = true ∧
        (embedChip e).livenessMatched = true ∧
        (embedChip e).subject = (embedRequest r).subject) ↔
      ChipHolds e r now := by
  simp only [embedChip, embedRequest, usableAt_iff, subjectId_iff]
  constructor
  · rintro ⟨usable, passive, authentic, live, subject⟩
    exact ⟨usable, passive, authentic, live, subject⟩
  · rintro ⟨usable, passive, authentic, live, subject⟩
    exact ⟨usable, passive, authentic, live, subject⟩

section DevelopmentRole

/- The role that stands for `developmentEvidence` has no gate of its own. -/
variable {developmentRole : SeedModel.IssuerRole} (notPid : developmentRole ≠ .pid)
  (notRepresentation : developmentRole ≠ .representation)

include notPid in
theorem embedRole_pid_iff (role : Kernel.IssuerRole) :
    embedRole developmentRole role = .pid ↔ role = .pid := by
  cases role <;> simp [embedRole, notPid]

include notRepresentation in
theorem embedRole_representation_iff (role : Kernel.IssuerRole) :
    embedRole developmentRole role = .representation ↔ role = .representation := by
  cases role <;> simp [embedRole, notRepresentation]

include notPid in
theorem roleEvidenceOk_iff (role : Kernel.IssuerRole) (subject : Kernel.SubjectEvidence) :
    SeedModel.roleEvidenceOk (embedRole developmentRole role) (embedSubject subject) ↔
      (role = .pid → subject.loaHigh = true) := by
  rw [← embedRole_pid_iff notPid]
  cases embedRole developmentRole role <;> simp [SeedModel.roleEvidenceOk, embedSubject]

include notRepresentation in
theorem representationOk_iff (s : Kernel.Session) (r : Kernel.Request) (now : Kernel.Instant) :
    SeedModel.representationOk (embedSession developmentRole s) (embedRequest r)
        (embedInstant now) ↔
      (s.profile.role = .representation →
        ∃ d, s.delegation = some d ∧ DelegationHolds d r now) := by
  have role : (embedSession developmentRole s).profile.role =
      embedRole developmentRole s.profile.role := rfl
  have delegation : (embedSession developmentRole s).delegation =
      s.delegation.map embedDelegation := rfl
  rw [← embedRole_representation_iff notRepresentation, SeedModel.representationOk, role,
    delegation]
  cases embedRole developmentRole s.profile.role with
  | representation =>
      cases s.delegation with
      | none => simp
      | some d =>
          simp only [Option.map_some, true_implies, Option.some.injEq, exists_eq_left']
          exact delegationHolds_iff d r now
  | _ => simp

theorem chipLivenessOk_iff (s : Kernel.Session) (r : Kernel.Request) (now : Kernel.Instant) :
    SeedModel.chipLivenessOk (embedSession developmentRole s) (embedRequest r)
        (embedInstant now) ↔
      ∃ e, s.chipEvidence = some e ∧ ChipHolds e r now := by
  have chip : (embedSession developmentRole s).chipEvidence = s.chipEvidence.map embedChip := rfl
  rw [SeedModel.chipLivenessOk, chip]
  cases s.chipEvidence with
  | none => simp
  | some e =>
      simp only [Option.map_some, Option.some.injEq, exists_eq_left']
      exact chipHolds_iff e r now

include notPid notRepresentation in
/-- The kernel's gates are the model's gates and the PID-binding guard. -/
theorem mayIssue_iff_seed (s : Kernel.Session) (r : Kernel.Request) (now : Kernel.Instant) :
    MayIssue s r now ↔
      SeedModel.mayIssue (embedSession developmentRole s) (embedRequest r) (embedInstant now) ∧
        (s.profile.pidBindingRequired = true → s.subject.pidBindingVerified = true) := by
  have flag : ∀ (required : Bool) (gate : Prop),
      (required = false ∨ gate) ↔ (required = true → gate) := by
    intro required gate
    cases required <;> simp
  have expiry : (embedRequest r).expiry ≤ (embedSession developmentRole s).wiaKaMaintenanceEnd ↔
      r.expiry.val ≤ s.wiaKaMaintenanceEnd.val := UInt64.le_iff_toNat_le.symm
  unfold SeedModel.mayIssue
  rw [expiry, representationOk_iff notRepresentation, chipLivenessOk_iff, flag, flag]
  simp only [embedSession, embedRequest, embedAuthorization, embedToken, embedProof,
    profileId_iff, subjectId_iff, datasetId_iff, keyThumbprint_iff, nonceId_iff, usableAt_iff]
  change _ ↔ (s.profile.enabled = true ∧ s.profile.id.val.toNat = r.profile.val.toNat ∧ _ ∧ _ ∧ _ ∧
    _ ∧ _ ∧ _ ∧ _ ∧ _ ∧ _ ∧ _ ∧ _ ∧ (embedEvidence s.wallet.wia).usableAt (embedInstant now) ∧
    s.wallet.walletNotRevoked = true ∧ SeedModel.deviceBindingOk (embedProfile developmentRole s.profile)
      (embedWallet s.wallet) (embedProof r.proof) ∧
    (embedEvidence s.subject.evidence).usableAt (embedInstant now) ∧
    s.subject.subject.val.toNat = r.subject.val.toNat ∧ s.subject.dataset.val.toNat = r.dataset.val.toNat ∧
    s.subject.entitled = true ∧ s.subject.claimsCurrent = true ∧
    SeedModel.roleEvidenceOk (embedRole developmentRole s.profile.role) (embedSubject s.subject) ∧
    _ ∧ _ ∧ _ ∧ _ ∧ _ ∧ _) ∧ _
  rw [profileId_iff, usableAt_iff, deviceBindingOk_iff, usableAt_iff, subjectId_iff, datasetId_iff,
    roleEvidenceOk_iff notPid]
  constructor
  · rintro ⟨h1, h2, h3, h4, h5, h6, h7, h8, h9, h10, h11, h12, h13, h14, h15, h16, h17, h18, h19,
      h20, h21, h22, h23, h24, h25, h26, h27, h28, h29⟩
    exact ⟨⟨h1, h2, h3, h4, h5, h6, h7, h8, h9, h10, h11, h12, h13, h14, h15, h16, h17, h18, h19,
      h20, h21, h23, h24, h25, h26, h27, h28, h29⟩, h22⟩
  · rintro ⟨⟨h1, h2, h3, h4, h5, h6, h7, h8, h9, h10, h11, h12, h13, h14, h15, h16, h17, h18, h19,
      h20, h21, h23, h24, h25, h26, h27, h28, h29⟩, h22⟩
    exact ⟨h1, h2, h3, h4, h5, h6, h7, h8, h9, h10, h11, h12, h13, h14, h15, h16, h17, h18, h19,
      h20, h21, h22, h23, h24, h25, h26, h27, h28, h29⟩

/-! ## The two gateways -/

theorem embedCommand_injective : Function.Injective embedCommand := by
  intro a b same
  have session := congrArg SeedModel.SignCommand.session same
  have request := congrArg SeedModel.SignCommand.request same
  have profile := congrArg SeedModel.SignCommand.profile same
  have subject := congrArg SeedModel.SignCommand.subject same
  have holderKey := congrArg SeedModel.SignCommand.holderKey same
  have onBehalfOf := congrArg SeedModel.SignCommand.onBehalfOf same
  have grantedPowers := congrArg SeedModel.SignCommand.grantedPowers same
  have sameDelegator : a.onBehalfOf = b.onBehalfOf :=
    Option.map_injective (fun x y same => (subjectId_iff x y).mp same) onBehalfOf
  cases a with
  | mk aSession aRequest aProfile aSubject aHolder aOnBehalf aPowers =>
      cases b with
      | mk bSession bRequest bProfile bSubject bHolder bOnBehalf bPowers =>
          obtain rfl : aSession = bSession := congrArg SessionId.mk (BitVec.toNat_inj.mp session)
          obtain rfl : aRequest = bRequest := congrArg RequestId.mk (BitVec.toNat_inj.mp request)
          obtain rfl : aProfile = bProfile := (profileId_iff _ _).mp profile
          obtain rfl : aSubject = bSubject := (subjectId_iff _ _).mp subject
          obtain rfl : aHolder = bHolder := (keyThumbprint_iff _ _).mp holderKey
          obtain rfl : aOnBehalf = bOnBehalf := sameDelegator
          obtain rfl : aPowers = bPowers := embedPowers_injective grantedPowers
          rfl

include notRepresentation in
/-- The model's command for the embedded input is the image of the kernel's command. -/
theorem embedCommand_commandOf (s : Kernel.Session) (r : Kernel.Request) :
    embedCommand (commandOf s r) =
      { session := (embedSession developmentRole s).id
        request := (embedRequest r).id
        profile := (embedRequest r).profile
        subject := (embedRequest r).subject
        holderKey := (embedRequest r).proof.holderKey
        onBehalfOf := SeedModel.onBehalfOfFor (embedSession developmentRole s)
        grantedPowers := SeedModel.grantedPowersFor (embedSession developmentRole s) (embedRequest r) } := by
  cases role : s.profile.role with
  | representation =>
      cases delegation : s.delegation with
      | none =>
          simp [embedCommand, commandOf, delegationOutcome, embedSession, embedProfile, embedRole,
            embedRequest, embedProof, embedPowers, SeedModel.onBehalfOfFor,
            SeedModel.grantedPowersFor, role, delegation]
      | some d =>
          simp [embedCommand, commandOf, delegationOutcome, embedSession, embedProfile, embedRole,
            embedRequest, embedProof, embedPowers, embedDelegation, SeedModel.onBehalfOfFor,
            SeedModel.grantedPowersFor, role, delegation]
  | developmentEvidence =>
      cases developmentRole with
      | representation => exact absurd rfl notRepresentation
      | _ =>
          simp [embedCommand, commandOf, delegationOutcome, embedSession, embedProfile, embedRole,
            embedRequest, embedProof, embedPowers, SeedModel.onBehalfOfFor,
            SeedModel.grantedPowersFor, role]
  | _ =>
      simp [embedCommand, commandOf, delegationOutcome, embedSession, embedProfile, embedRole,
        embedRequest, embedProof, embedPowers, SeedModel.onBehalfOfFor,
        SeedModel.grantedPowersFor, role]

/-- The kernel signs a command exactly when the model signs its image and the PID-binding guard
holds. -/
theorem authorizeSign_refines_seed (developmentRole : SeedModel.IssuerRole)
    (notPid : developmentRole ≠ .pid) (notRepresentation : developmentRole ≠ .representation)
    (s : Kernel.Session) (r : Kernel.Request) (now : Kernel.Instant) (cmd : Kernel.SignCommand) :
    Kernel.authorizeSign s r now = .ok cmd ↔
      SeedModel.authorizeSign (embedSession developmentRole s) (embedRequest r)
          (embedInstant now) = .ok (embedCommand cmd) ∧
        (s.profile.pidBindingRequired = false ∨ s.subject.pidBindingVerified = true) := by
  have guard : (s.profile.pidBindingRequired = false ∨ s.subject.pidBindingVerified = true) ↔
      (s.profile.pidBindingRequired = true → s.subject.pidBindingVerified = true) := by
    cases s.profile.pidBindingRequired <;> simp
  rw [authorizeSign_eq_ok_iff, mayIssue_iff_seed notPid notRepresentation, guard]
  unfold SeedModel.authorizeSign
  rw [← embedCommand_commandOf notRepresentation]
  constructor
  · rintro ⟨⟨may, bound⟩, rfl⟩
    exact ⟨if_pos may, bound⟩
  · rintro ⟨signed, bound⟩
    by_cases may : SeedModel.mayIssue (embedSession developmentRole s) (embedRequest r)
        (embedInstant now)
    · rw [if_pos may] at signed
      exact ⟨⟨may, bound⟩, (embedCommand_injective (Except.ok.inj signed)).symm⟩
    · rw [if_neg may] at signed
      cases signed

theorem authorizeSign_refines_seed_fixture :
    SeedModel.authorizeSign (embedSession .qeaa fixture.1) (embedRequest fixture.2) 100 =
      .ok (embedCommand (commandOf fixture.1 fixture.2)) :=
  ((authorizeSign_refines_seed .qeaa (by decide) (by decide) fixture.1 fixture.2 ⟨100⟩ _).mp rfl).1

end DevelopmentRole

end VCIssuer.Kernel.Refinement
