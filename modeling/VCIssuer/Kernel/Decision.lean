import VCIssuer.Kernel.Types

/-!
# The signing decision

`mayIssue` is the conjunction of the kernel's gates and `authorizeSign` the only
way to a signing command.  Each Boolean gate is paired with a proposition whose
conjuncts are named, so that later results read one field instead of taking the
conjunction apart.
-/

namespace VCIssuer.Kernel

def roleEvidenceOk (role : IssuerRole) (subject : SubjectEvidence) : Bool :=
  match role with
  | .pid => subject.loaHigh
  | .qeaa | .publicBodyEaa | .nonQualifiedEaa | .developmentEvidence | .representation => true

def representationOk (session : Session) (request : Request) (now : Instant) : Bool :=
  match session.profile.role with
  | .representation =>
      match session.delegation with
      | some d =>
          d.delegatorEvidence.usableAt now
            && d.mandateNotRevoked
            && (d.delegateKey.val == request.proof.holderKey.val)
            && !request.requestedPowers.isEmpty
            && request.requestedPowers.subsetOf d.grant
      | none => false
  | _ => true

def chipLivenessOk (session : Session) (request : Request) (now : Instant) : Bool :=
  match session.chipEvidence with
  | some e =>
      e.evidence.usableAt now
        && e.sodPassiveAuth
        && e.chipAuthentic
        && e.livenessMatched
        && (e.subject.val == request.subject.val)
  | none => false

def deviceBindingOk (profile : CredentialProfile) (wallet : WalletEvidence)
    (proof : CredentialProof) : Bool :=
  if profile.deviceBindingRequired then
    wallet.holderKeyApproved && proof.possessionValid && wallet.ka.isSome
  else
    proof.possessionValid

def mayIssue (session : Session) (request : Request) (now : Instant) : Bool :=
  session.profile.enabled
    && (session.profile.id.val == request.profile.val)
    && session.issuerEntitled
    && session.authorization.evidence.usableAt now
    && (session.authorization.profile.val == request.profile.val)
    && (session.authorization.subject.val == request.subject.val)
    && (session.authorization.dataset.val == request.dataset.val)
    && session.token.evidence.usableAt now
    && (session.token.dpopKey.val == request.dpopKey.val)
    && request.proof.evidence.usableAt now
    && (request.proof.nonce.val == session.expectedNonce.val)
    && session.nonceUnused
    && (request.proof.holderKey.val == request.dpopKey.val)
    && session.wallet.wia.usableAt now
    && session.wallet.walletNotRevoked
    && deviceBindingOk session.profile session.wallet request.proof
    && session.subject.evidence.usableAt now
    && (session.subject.subject.val == request.subject.val)
    && (session.subject.dataset.val == request.dataset.val)
    && session.subject.entitled
    && session.subject.claimsCurrent
    -- The guard that the repository's Lean model leaves out on purpose.
    && (!session.profile.pidBindingRequired || session.subject.pidBindingVerified)
    && roleEvidenceOk session.profile.role session.subject
    && decide (request.expiry.val ≤ session.wiaKaMaintenanceEnd.val)
    && session.statusReserved
    && !session.alreadyIssued
    && (!session.profile.requireHybridPq || session.hybridPqBound)
    && representationOk session request now
    && (!session.profile.requireChipLiveness || chipLivenessOk session request now)

def authorizeSign (session : Session) (request : Request) (now : Instant) :
    Except DecisionError SignCommand :=
  if mayIssue session request now then
    let (onBehalfOf, grantedPowers) :=
      match session.profile.role, session.delegation with
      | .representation, some d => (some d.delegator, request.requestedPowers)
      | _, _ => (none, ⟨0⟩)
    .ok {
      session := session.id
      request := request.id
      profile := request.profile
      subject := request.subject
      holderKey := request.proof.holderKey
      onBehalfOf := onBehalfOf
      grantedPowers := grantedPowers
    }
  else
    .error .notAuthorized

/-! ## The gates as propositions -/

theorem Evidence.usableAt_iff (e : Evidence) (now : Instant) :
    e.usableAt now = true ↔
      e.accepted = true ∧ e.validFrom.val ≤ now.val ∧ now.val < e.validUntil.val ∧
        now.val ≤ e.freshUntil.val := by
  simp only [Evidence.usableAt, Bool.and_eq_true, decide_eq_true_eq, and_assoc]

/-- What a representation issuance must show about its delegation. -/
structure DelegationHolds (d : Delegation) (r : Request) (now : Instant) : Prop where
  usable : d.delegatorEvidence.usableAt now = true
  notRevoked : d.mandateNotRevoked = true
  delegateKey : d.delegateKey = r.proof.holderKey
  nonempty : r.requestedPowers.isEmpty = false
  narrowing : r.requestedPowers.subsetOf d.grant = true

/-- What a chip-proofed issuance must show about its chip read. -/
structure ChipHolds (e : ChipLivenessEvidence) (r : Request) (now : Instant) : Prop where
  usable : e.evidence.usableAt now = true
  sodPassiveAuth : e.sodPassiveAuth = true
  chipAuthentic : e.chipAuthentic = true
  livenessMatched : e.livenessMatched = true
  subject : e.subject = r.subject

/-- The conjuncts of `mayIssue` under their own names. -/
structure MayIssue (s : Session) (r : Request) (now : Instant) : Prop where
  enabled : s.profile.enabled = true
  profileId : s.profile.id = r.profile
  issuerEntitled : s.issuerEntitled = true
  authorizationUsable : s.authorization.evidence.usableAt now = true
  authorizationProfile : s.authorization.profile = r.profile
  authorizationSubject : s.authorization.subject = r.subject
  authorizationDataset : s.authorization.dataset = r.dataset
  tokenUsable : s.token.evidence.usableAt now = true
  tokenKey : s.token.dpopKey = r.dpopKey
  proofUsable : r.proof.evidence.usableAt now = true
  proofNonce : r.proof.nonce = s.expectedNonce
  nonceUnused : s.nonceUnused = true
  holderKey : r.proof.holderKey = r.dpopKey
  wiaUsable : s.wallet.wia.usableAt now = true
  walletNotRevoked : s.wallet.walletNotRevoked = true
  deviceBinding : deviceBindingOk s.profile s.wallet r.proof = true
  subjectUsable : s.subject.evidence.usableAt now = true
  subjectId : s.subject.subject = r.subject
  subjectDataset : s.subject.dataset = r.dataset
  entitled : s.subject.entitled = true
  claimsCurrent : s.subject.claimsCurrent = true
  pidBinding : s.profile.pidBindingRequired = true → s.subject.pidBindingVerified = true
  roleEvidence : s.profile.role = .pid → s.subject.loaHigh = true
  maintenance : r.expiry.val ≤ s.wiaKaMaintenanceEnd.val
  statusReserved : s.statusReserved = true
  notIssued : s.alreadyIssued = false
  hybridPq : s.profile.requireHybridPq = true → s.hybridPqBound = true
  representation : s.profile.role = .representation →
    ∃ d, s.delegation = some d ∧ DelegationHolds d r now
  chipLiveness : s.profile.requireChipLiveness = true →
    ∃ e, s.chipEvidence = some e ∧ ChipHolds e r now

theorem roleEvidenceOk_iff (role : IssuerRole) (subject : SubjectEvidence) :
    roleEvidenceOk role subject = true ↔ (role = .pid → subject.loaHigh = true) := by
  cases role <;> simp [roleEvidenceOk]

theorem representationOk_iff (s : Session) (r : Request) (now : Instant) :
    representationOk s r now = true ↔
      (s.profile.role = .representation →
        ∃ d, s.delegation = some d ∧ DelegationHolds d r now) := by
  unfold representationOk
  cases role : s.profile.role with
  | representation =>
      cases delegation : s.delegation with
      | none => simp
      | some d =>
          simp only [Bool.and_eq_true, Bool.not_eq_true', beq_iff_eq, true_implies,
            Option.some.injEq, exists_eq_left']
          constructor
          · rintro ⟨⟨⟨⟨usable, live⟩, key⟩, nonempty⟩, narrow⟩
            exact ⟨usable, live, congrArg KeyThumbprint.mk key, nonempty, narrow⟩
          · rintro ⟨usable, live, key, nonempty, narrow⟩
            exact ⟨⟨⟨⟨usable, live⟩, congrArg KeyThumbprint.val key⟩, nonempty⟩, narrow⟩
  | _ => simp

theorem chipLivenessOk_iff (s : Session) (r : Request) (now : Instant) :
    chipLivenessOk s r now = true ↔ ∃ e, s.chipEvidence = some e ∧ ChipHolds e r now := by
  unfold chipLivenessOk
  cases s.chipEvidence with
  | none => simp
  | some e =>
      simp only [Bool.and_eq_true, beq_iff_eq, Option.some.injEq, exists_eq_left']
      constructor
      · rintro ⟨⟨⟨⟨usable, passive⟩, authentic⟩, live⟩, subject⟩
        exact ⟨usable, passive, authentic, live, congrArg SubjectId.mk subject⟩
      · rintro ⟨usable, passive, authentic, live, subject⟩
        exact ⟨⟨⟨⟨usable, passive⟩, authentic⟩, live⟩, congrArg SubjectId.val subject⟩

/-- A Boolean gate behind a profile flag is an implication. -/
theorem flag_or_iff (flag gate : Bool) : (!flag || gate) = true ↔ (flag = true → gate = true) := by
  cases flag <;> simp

theorem mayIssue_iff (s : Session) (r : Request) (now : Instant) :
    mayIssue s r now = true ↔ MayIssue s r now := by
  have wordEq : ∀ {α : Type} (f : BitVec 128 → α) (val : α → BitVec 128)
      (_ : ∀ x, f (val x) = x) (a b : α), (val a == val b) = true ↔ a = b := by
    intro α f val inverse a b
    rw [beq_iff_eq]
    exact ⟨fun same => by rw [← inverse a, ← inverse b, same], congrArg val⟩
  have profileEq := wordEq ProfileId.mk ProfileId.val (fun _ => rfl)
  have subjectEq := wordEq SubjectId.mk SubjectId.val (fun _ => rfl)
  have datasetEq := wordEq DatasetId.mk DatasetId.val (fun _ => rfl)
  have keyEq := wordEq KeyThumbprint.mk KeyThumbprint.val (fun _ => rfl)
  have nonceEq := wordEq NonceId.mk NonceId.val (fun _ => rfl)
  simp only [mayIssue, Bool.and_eq_true, flag_or_iff, roleEvidenceOk_iff, representationOk_iff,
    chipLivenessOk_iff, profileEq, subjectEq, datasetEq, keyEq, nonceEq, decide_eq_true_eq,
    Bool.not_eq_true', and_assoc]
  constructor
  · rintro ⟨h1, h2, h3, h4, h5, h6, h7, h8, h9, h10, h11, h12, h13, h14, h15, h16, h17, h18, h19,
      h20, h21, h22, h23, h24, h25, h26, h27, h28, h29⟩
    exact ⟨h1, h2, h3, h4, h5, h6, h7, h8, h9, h10, h11, h12, h13, h14, h15, h16, h17, h18, h19,
      h20, h21, h22, h23, h24, h25, h26, h27, h28, h29⟩
  · rintro ⟨h1, h2, h3, h4, h5, h6, h7, h8, h9, h10, h11, h12, h13, h14, h15, h16, h17, h18, h19,
      h20, h21, h22, h23, h24, h25, h26, h27, h28, h29⟩
    exact ⟨h1, h2, h3, h4, h5, h6, h7, h8, h9, h10, h11, h12, h13, h14, h15, h16, h17, h18, h19,
      h20, h21, h22, h23, h24, h25, h26, h27, h28, h29⟩

/-! ## Inversion of the gateway -/

/-- The delegator and the powers that `authorizeSign` writes into its command. -/
def delegationOutcome (s : Session) (r : Request) : Option SubjectId × Powers :=
  match s.profile.role, s.delegation with
  | .representation, some d => (some d.delegator, r.requestedPowers)
  | _, _ => (none, ⟨0⟩)

/-- The command that `authorizeSign` emits when it emits one. -/
def commandOf (s : Session) (r : Request) : SignCommand where
  session := s.id
  request := r.id
  profile := r.profile
  subject := r.subject
  holderKey := r.proof.holderKey
  onBehalfOf := (delegationOutcome s r).1
  grantedPowers := (delegationOutcome s r).2

theorem authorizeSign_eq (s : Session) (r : Request) (now : Instant) :
    authorizeSign s r now =
      if mayIssue s r now then .ok (commandOf s r) else .error .notAuthorized := rfl

/-- The gateway answers exactly when every gate holds, with one possible command. -/
theorem authorizeSign_eq_ok_iff (s : Session) (r : Request) (now : Instant) (cmd : SignCommand) :
    authorizeSign s r now = .ok cmd ↔ MayIssue s r now ∧ cmd = commandOf s r := by
  rw [authorizeSign_eq, ← mayIssue_iff]
  by_cases may : mayIssue s r now = true
  · rw [if_pos may]
    exact ⟨fun same => ⟨may, (Except.ok.inj same).symm⟩, fun ⟨_, same⟩ => by rw [same]⟩
  · rw [if_neg may]
    constructor
    · intro impossible; cases impossible
    · rintro ⟨held, _⟩; exact absurd held may

/-- A representation command names the delegator and carries the requested powers. -/
theorem authorizeSign_representation {s : Session} {r : Request} {now : Instant}
    {cmd : SignCommand} (role : s.profile.role = .representation)
    (signed : authorizeSign s r now = .ok cmd) :
    ∃ d, s.delegation = some d ∧ DelegationHolds d r now ∧
      cmd.onBehalfOf = some d.delegator ∧ cmd.grantedPowers = r.requestedPowers := by
  obtain ⟨may, rfl⟩ := (authorizeSign_eq_ok_iff s r now cmd).mp signed
  obtain ⟨d, delegation, holds⟩ := may.representation role
  refine ⟨d, delegation, holds, ?_, ?_⟩ <;> simp [commandOf, delegationOutcome, role, delegation]

/-! ## Admitted fixtures -/

def validEvidence : Evidence where
  validFrom := ⟨1⟩
  validUntil := ⟨200⟩
  freshUntil := ⟨150⟩
  accepted := true

/-- A PID session and request that every gate admits at time 100. -/
def fixture : Session × Request :=
  ({ id := ⟨2⟩
     profile :=
      { id := ⟨1⟩, role := .pid, format := .sdJwtVc, enabled := true, deviceBindingRequired := true,
        pidBindingRequired := false, requireHybridPq := false, requireChipLiveness := false }
     authorization := { evidence := validEvidence, profile := ⟨1⟩, subject := ⟨4⟩, dataset := ⟨5⟩ }
     token := { evidence := validEvidence, dpopKey := ⟨7⟩ }
     wallet :=
      { wia := validEvidence, ka := some validEvidence, walletNotRevoked := true,
        holderKeyApproved := true }
     subject :=
      { evidence := validEvidence, subject := ⟨4⟩, loaHigh := true, entitled := true,
        claimsCurrent := true, dataset := ⟨5⟩, pidBindingVerified := false }
     expectedNonce := ⟨9⟩
     nonceUnused := true
     issuerEntitled := true
     statusReserved := true
     alreadyIssued := false
     wiaKaMaintenanceEnd := ⟨160⟩
     hybridPqBound := false
     delegation := none
     chipEvidence := none },
   { id := ⟨3⟩
     profile := ⟨1⟩
     subject := ⟨4⟩
     dataset := ⟨5⟩
     dpopKey := ⟨7⟩
     proof :=
      { evidence := validEvidence, nonce := ⟨9⟩, holderKey := ⟨7⟩, possessionValid := true }
     expiry := ⟨140⟩
     requestedPowers := ⟨0⟩ })

/-- The fixture turned into a hybrid-PQ mandate that narrows the grant `0b1110` to `0b0110`. -/
def mandateFixture : Session × Request :=
  ({ fixture.1 with
      profile := { fixture.1.profile with role := .representation, requireHybridPq := true }
      hybridPqBound := true
      delegation := some
        { delegatorEvidence := validEvidence, delegator := ⟨42⟩, delegateKey := ⟨7⟩,
          grant := ⟨0b1110⟩, mandateNotRevoked := true } },
   { fixture.2 with requestedPowers := ⟨0b0110⟩ })

end VCIssuer.Kernel
