import VCIssuer.Kernel.Powers
import VCIssuer.Service.Profiles

/-!
# The kernel as the service calls it

`authorizeKernel` derives a session and a request from what the service has
verified and asks the kernel for a decision.  Its exact effect is small: which
names it knows, which evidence they need, and one time at which every validity
window is empty.
-/

namespace VCIssuer.Service

open VCIssuer.Library
open VCIssuer.Library.Checks
open VCIssuer.Kernel

def demoMandatePowers : UInt64 := 0b11

/-- The delegator grants the whole taxonomy and the mandate narrows it. -/
def demoMandateDelegation (delegator : SubjectId) (delegateKey : KeyThumbprint)
    (delegatorEvidence : Evidence) : Delegation × Powers :=
  ({ delegatorEvidence := delegatorEvidence
     delegator := delegator
     delegateKey := delegateKey
     grant := ⟨taxonomyMask⟩
     mandateNotRevoked := true }, ⟨demoMandatePowers⟩)

structure MandateGrant where
  onBehalfOf : SubjectId
  grantedPowers : Powers
  deriving DecidableEq

def roleOf (profileName : String) : Option IssuerRole :=
  if profileName ∈ [pidSdJwt, pidFromEmrtdSdJwt, pidFromEmrtdMdoc, pidMdoc] then some .pid
  else if profileName ∈ [qeaaSdJwt, qeaaPidBoundSdJwt, devSvipePidSdJwt] then some .qeaa
  else if profileName = eaaMdoc then some .nonQualifiedEaa
  else if profileName ∈ [tlsnEvidenceSdJwt, hybridPqSdJwt] then some .developmentEvidence
  else if profileName = mandateSdJwt then some .representation
  else none

/-- The format of a profile; other names reach an `unreachable!`. -/
def formatOf (profileName : String) : Option CredentialFormat :=
  if profileName ∈ [pidSdJwt, pidFromEmrtdSdJwt, qeaaSdJwt, qeaaPidBoundSdJwt, devSvipePidSdJwt,
      tlsnEvidenceSdJwt, hybridPqSdJwt, mandateSdJwt] then some .sdJwtVc
  else if profileName ∈ [pidFromEmrtdMdoc, pidMdoc, eaaMdoc] then some .mdoc
  else none

/-- The evidence window that the service gives to everything it has just verified. -/
def serviceEvidence (now : UInt64) : Evidence where
  validFrom := ⟨saturatingSub now 1⟩
  validUntil := ⟨saturatingAdd now 300⟩
  freshUntil := ⟨saturatingAdd now 60⟩
  accepted := true

/-- The subject of an issuance: the chip's, else the presented PID's, else the demo subject. -/
def issuanceSubject (crates : Crates) (pidSubject : Option SubjectId)
    (chipLiveness : Option VerifiedChipLiveness) : SubjectId :=
  ((chipLiveness.map (·.subject)).or pidSubject).getD ⟨hashU128 crates "demo-education-subject"⟩

/-- What one kernel decision is made about. -/
structure KernelCall where
  profileName : String
  role : IssuerRole
  format : CredentialFormat
  holderJkt : String
  nonce : String
  pidSubject : Option SubjectId
  chipLiveness : Option VerifiedChipLiveness
  now : UInt64
  requestDraw : Bytes
  sessionDraw : Bytes

namespace KernelCall

variable (crates : Crates) (call : KernelCall)

def subject : SubjectId :=
  issuanceSubject crates call.pidSubject call.chipLiveness

def holderKey : KeyThumbprint := ⟨hashU128 crates call.holderJkt⟩

def mandateContext : Option (Delegation × Powers) :=
  if call.role = .representation then
    some (demoMandateDelegation (call.subject crates) (call.holderKey crates)
      (serviceEvidence call.now))
  else none

def profile : CredentialProfile where
  id := ⟨hashU128 crates call.profileName⟩
  role := call.role
  format := call.format
  enabled := true
  deviceBindingRequired := true
  pidBindingRequired := call.profileName == qeaaPidBoundSdJwt
  requireHybridPq := false
  requireChipLiveness := isNfcPid call.profileName

def proof : CredentialProof where
  evidence := serviceEvidence call.now
  nonce := ⟨hashU128 crates call.nonce⟩
  holderKey := call.holderKey crates
  possessionValid := true

def request : Request where
  id := ⟨hashU128 crates (crates.urlSafeEncode call.requestDraw)⟩
  profile := ⟨hashU128 crates call.profileName⟩
  subject := call.subject crates
  dataset := ⟨hashU128 crates call.profileName⟩
  dpopKey := call.holderKey crates
  proof := call.proof crates
  expiry := ⟨saturatingAdd call.now 3600⟩
  requestedPowers := ((call.mandateContext crates).map Prod.snd).getD ⟨0⟩

def session : Session where
  id := ⟨hashU128 crates (crates.urlSafeEncode call.sessionDraw)⟩
  profile := call.profile crates
  authorization :=
    { evidence := serviceEvidence call.now
      profile := ⟨hashU128 crates call.profileName⟩
      subject := call.subject crates
      dataset := ⟨hashU128 crates call.profileName⟩ }
  token := { evidence := serviceEvidence call.now, dpopKey := call.holderKey crates }
  wallet :=
    { wia := serviceEvidence call.now
      ka := some (serviceEvidence call.now)
      walletNotRevoked := true
      holderKeyApproved := true }
  subject :=
    { evidence := serviceEvidence call.now
      subject := call.subject crates
      loaHigh :=
        if isNfcPid call.profileName then
          call.chipLiveness.any fun c => c.sodPassiveAuth && c.chipAuthentic && c.livenessMatched
        else true
      entitled := true
      claimsCurrent := true
      dataset := ⟨hashU128 crates call.profileName⟩
      pidBindingVerified := call.pidSubject.isSome }
  expectedNonce := ⟨hashU128 crates call.nonce⟩
  nonceUnused := true
  issuerEntitled := true
  statusReserved := true
  -- The service has no record of earlier issuances to put here.
  alreadyIssued := false
  wiaKaMaintenanceEnd := ⟨saturatingAdd call.now 86400⟩
  hybridPqBound := false
  delegation := (call.mandateContext crates).map Prod.fst
  chipEvidence := call.chipLiveness.map fun c =>
    { evidence := serviceEvidence call.now
      subject := c.subject
      sodPassiveAuth := c.sodPassiveAuth
      chipAuthentic := c.chipAuthentic
      livenessMatched := c.livenessMatched }

end KernelCall

def authorizeKernel (crates : Crates) (profileName holderJkt nonce : String)
    (pidSubject : Option SubjectId) (chipLiveness : Option VerifiedChipLiveness) (now : UInt64)
    (requestDraw sessionDraw : Bytes) : Checked (Option MandateGrant) := do
  let role ← okOr (roleOf profileName)
    (oauthError .badRequest "unknown_credential_configuration"
      "credential configuration is unknown")
  let format ← okOr (formatOf profileName) .panic
  rejectIf ((profileName = qeaaPidBoundSdJwt ∨ profileName = mandateSdJwt) ∧ pidSubject.isNone)
    (oauthError .forbidden "credential_request_denied"
      "PID-bound issuance has no verified PID subject")
  rejectIf (isNfcPid profileName = true ∧ chipLiveness.isNone)
    (oauthError .forbidden "credential_request_denied"
      "NFC-sourced PID issuance has no verified chip + liveness evidence")
  let call : KernelCall :=
    ⟨profileName, role, format, holderJkt, nonce, pidSubject, chipLiveness, now, requestDraw,
      sessionDraw⟩
  match authorizeSign (call.session crates) (call.request crates) ⟨now⟩ with
  | .ok command =>
      return command.onBehalfOf.map fun delegator =>
        { onBehalfOf := delegator, grantedPowers := command.grantedPowers }
  | .error _ =>
      .error (oauthError .forbidden "credential_request_denied"
        "verified issuer kernel denied the signing command")

/-! ## The exact effect -/

theorem serviceEvidence_usable (now : UInt64) :
    (serviceEvidence now).usableAt ⟨now⟩ = true ↔ now.toNat < UInt64.size - 1 := by
  rw [Evidence.usableAt_iff]
  simp only [serviceEvidence, true_and, UInt64.le_iff_toNat_le, UInt64.lt_iff_toNat_lt,
    toNat_saturatingAdd, toNat_saturatingSub]
  have bound := now.toNat_lt_size
  have hundreds : (300 : UInt64).toNat = 300 := rfl
  have sixty : (60 : UInt64).toNat = 60 := rfl
  have one : (1 : UInt64).toNat = 1 := rfl
  rw [hundreds, sixty, one]
  omega

/-- The three verdicts of a chip read and liveness capture. -/
structure ChipVerdicts (chip : VerifiedChipLiveness) : Prop where
  sodPassiveAuth : chip.sodPassiveAuth = true
  chipAuthentic : chip.chipAuthentic = true
  livenessMatched : chip.livenessMatched = true

/-- What a name needs before the kernel issues under it. -/
structure Admitted (profileName : String) (pidSubject : Option SubjectId)
    (chipLiveness : Option VerifiedChipLiveness) (now : UInt64) : Prop where
  known : (roleOf profileName).isSome
  pidBound : profileName = qeaaPidBoundSdJwt ∨ profileName = mandateSdJwt → pidSubject.isSome
  chipBound : isNfcPid profileName = true → ∃ chip, chipLiveness = some chip ∧ ChipVerdicts chip
  inTime : now.toNat < UInt64.size - 1

/-- The eleven names of the role table. -/
def kernelProfiles : List String :=
  [ pidSdJwt, pidFromEmrtdSdJwt, pidFromEmrtdMdoc, pidMdoc, qeaaSdJwt, qeaaPidBoundSdJwt,
    devSvipePidSdJwt, eaaMdoc, tlsnEvidenceSdJwt, hybridPqSdJwt, mandateSdJwt ]

theorem roleOf_isSome_iff (profileName : String) :
    (roleOf profileName).isSome ↔ profileName ∈ kernelProfiles := by
  unfold roleOf kernelProfiles
  split_ifs with pid qeaa eaa development mandate <;>
    simp only [List.mem_cons, List.not_mem_nil, or_false, not_or] at * <;> simp <;> grind

/-- The `unreachable!` of the format table is never reached. -/
theorem formatOf_isSome {profileName : String} (known : (roleOf profileName).isSome) :
    (formatOf profileName).isSome := by
  rw [roleOf_isSome_iff] at known
  unfold formatOf
  simp only [kernelProfiles, List.mem_cons, List.not_mem_nil, or_false] at known ⊢
  split_ifs <;> grind

theorem roleOf_eq_representation_iff (profileName : String) :
    roleOf profileName = some .representation ↔ profileName = mandateSdJwt := by
  constructor
  · intro role
    unfold roleOf at role
    split_ifs at role
    all_goals first | assumption | cases role
  · rintro rfl
    rfl

theorem demoMandatePowers_admitted :
    (⟨demoMandatePowers⟩ : Powers).isEmpty = false ∧
      (⟨demoMandatePowers⟩ : Powers).subsetOf ⟨taxonomyMask⟩ = true := by
  decide

theorem expiry_le_maintenanceEnd (now : UInt64) :
    saturatingAdd now 3600 ≤ saturatingAdd now 86400 := by
  rw [UInt64.le_iff_toNat_le, toNat_saturatingAdd, toNat_saturatingAdd]
  have hour : (3600 : UInt64).toNat = 3600 := by simp
  have day : (86400 : UInt64).toNat = 86400 := by simp
  omega

/-- Of thirty conjuncts only the time and the two kinds of binding are left open. -/
theorem KernelCall.mayIssue_iff (crates : Crates) (call : KernelCall) :
    MayIssue (call.session crates) (call.request crates) ⟨call.now⟩ ↔
      call.now.toNat < UInt64.size - 1 ∧
      (call.profileName = qeaaPidBoundSdJwt → call.pidSubject.isSome = true) ∧
      (isNfcPid call.profileName = true →
        ∃ chip, call.chipLiveness = some chip ∧ ChipVerdicts chip) := by
  constructor
  · intro may
    refine ⟨(serviceEvidence_usable _).mp may.authorizationUsable, ?_, ?_⟩
    · intro bound
      exact may.pidBinding (beq_iff_eq.mpr bound)
    · intro nfc
      obtain ⟨evidence, found, holds⟩ := may.chipLiveness nfc
      obtain ⟨chip, chipFound, rfl⟩ := Option.map_eq_some_iff.mp found
      exact ⟨chip, chipFound, holds.sodPassiveAuth, holds.chipAuthentic, holds.livenessMatched⟩
  · rintro ⟨inTime, pidBound, chipBound⟩
    have usable := (serviceEvidence_usable call.now).mpr inTime
    exact {
      enabled := rfl
      profileId := rfl
      issuerEntitled := rfl
      authorizationUsable := usable
      authorizationProfile := rfl
      authorizationSubject := rfl
      authorizationDataset := rfl
      tokenUsable := usable
      tokenKey := rfl
      proofUsable := usable
      proofNonce := rfl
      nonceUnused := rfl
      holderKey := rfl
      wiaUsable := usable
      walletNotRevoked := rfl
      deviceBinding := rfl
      subjectUsable := usable
      subjectId := rfl
      subjectDataset := rfl
      entitled := rfl
      claimsCurrent := rfl
      statusReserved := rfl
      notIssued := rfl
      pidBinding := fun required => pidBound (beq_iff_eq.mp required)
      roleEvidence := by
        intro _
        change (if isNfcPid call.profileName then _ else true) = true
        split
        case isTrue nfc =>
          obtain ⟨chip, found, verdicts⟩ := chipBound nfc
          simp [found, verdicts.sodPassiveAuth, verdicts.chipAuthentic, verdicts.livenessMatched]
        case isFalse => rfl
      maintenance := by
        simp only [KernelCall.request, KernelCall.session]
        exact expiry_le_maintenanceEnd call.now
      hybridPq := fun impossible => by cases impossible
      representation := by
        intro role
        have isRepresentation : call.role = .representation := role
        have context : call.mandateContext crates = some (demoMandateDelegation
            (call.subject crates) (call.holderKey crates) (serviceEvidence call.now)) :=
          if_pos isRepresentation
        refine ⟨_, congrArg (Option.map Prod.fst) context, usable, rfl, rfl, ?_, ?_⟩
        · rw [KernelCall.request, context]
          exact demoMandatePowers_admitted.1
        · rw [KernelCall.request, context]
          exact demoMandatePowers_admitted.2
      chipLiveness := by
        intro nfc
        obtain ⟨chip, found, verdicts⟩ := chipBound nfc
        refine ⟨_, congrArg (Option.map _) found, usable, verdicts.sodPassiveAuth,
          verdicts.chipAuthentic, verdicts.livenessMatched, ?_⟩
        change chip.subject = call.subject crates
        simp [KernelCall.subject, issuanceSubject, found] }

/-- The grant that a decision carries: one for mandates and none for anything else. -/
def grantOf (crates : Crates) (profileName : String) (pidSubject : Option SubjectId)
    (chipLiveness : Option VerifiedChipLiveness) : Option MandateGrant :=
  if profileName = mandateSdJwt then
    some ⟨issuanceSubject crates pidSubject chipLiveness, ⟨demoMandatePowers⟩⟩
  else none

theorem grant_of_command (crates : Crates) (call : KernelCall)
    (isRole : roleOf call.profileName = some call.role) :
    ((commandOf (call.session crates) (call.request crates)).onBehalfOf.map fun delegator =>
      (⟨delegator, (commandOf (call.session crates) (call.request crates)).grantedPowers⟩ :
        MandateGrant)) =
      grantOf crates call.profileName call.pidSubject call.chipLiveness := by
  by_cases mandate : call.profileName = mandateSdJwt
  · have role : call.role = .representation := by
      rw [mandate] at isRole
      exact (Option.some.inj isRole).symm
    simp [commandOf, delegationOutcome, grantOf, KernelCall.session, KernelCall.profile,
      KernelCall.request, KernelCall.mandateContext, demoMandateDelegation, mandate, role,
      KernelCall.subject]
  · have role : call.role ≠ .representation := by
      intro same
      rw [same] at isRole
      exact mandate ((roleOf_eq_representation_iff _).mp isRole)
    simp [commandOf, delegationOutcome, grantOf, KernelCall.session, KernelCall.profile,
      mandate, role, KernelCall.mandateContext]

theorem authorizeKernel_eq_ok (crates : Crates) (profileName holderJkt nonce : String)
    (pidSubject : Option SubjectId) (chipLiveness : Option VerifiedChipLiveness) (now : UInt64)
    (requestDraw sessionDraw : Bytes) (grant : Option MandateGrant) :
    authorizeKernel crates profileName holderJkt nonce pidSubject chipLiveness now requestDraw
        sessionDraw = .ok grant ↔
      Admitted profileName pidSubject chipLiveness now ∧
        grant = grantOf crates profileName pidSubject chipLiveness := by
  simp only [authorizeKernel, okOr_bind_eq_ok, rejectIf_bind_eq_ok, not_and, Bool.not_eq_true,
    Option.isNone_eq_false_iff]
  constructor
  · rintro ⟨role, isRole, format, _, pidBound, _, decided⟩
    split at decided
    case h_1 command signed =>
      obtain ⟨may, rfl⟩ := (authorizeSign_eq_ok_iff _ _ _ _).mp signed
      obtain ⟨inTime, _, chipBound⟩ := (KernelCall.mayIssue_iff crates _).mp may
      refine ⟨⟨by simp [isRole], pidBound, chipBound, inTime⟩, ?_⟩
      rw [← (pure_eq_ok _ _).mp decided]
      exact grant_of_command crates _ isRole
    case h_2 => cases decided
  · rintro ⟨admitted, rfl⟩
    obtain ⟨role, isRole⟩ := Option.isSome_iff_exists.mp admitted.known
    obtain ⟨format, isFormat⟩ := Option.isSome_iff_exists.mp (formatOf_isSome admitted.known)
    refine ⟨role, isRole, format, isFormat, admitted.pidBound, ?_, ?_⟩
    · intro nfc
      obtain ⟨chip, rfl, _⟩ := admitted.chipBound nfc
      rfl
    · have may := (KernelCall.mayIssue_iff crates
        ⟨profileName, role, format, holderJkt, nonce, pidSubject, chipLiveness, now, requestDraw,
          sessionDraw⟩).mpr
        ⟨admitted.inTime, fun bound => admitted.pidBound (.inl bound), admitted.chipBound⟩
      rw [(authorizeSign_eq_ok_iff _ _ _ _).mpr ⟨may, rfl⟩]
      exact congrArg Except.ok (grant_of_command crates _ isRole)

theorem isNfcPid_iff (profileName : String) :
    isNfcPid profileName = true ↔
      profileName = pidFromEmrtdSdJwt ∨ profileName = pidFromEmrtdMdoc := by
  simp [isNfcPid]

/-- The two halves of the captured identity need the same evidence. -/
theorem Admitted.transferNfc {name other : String} {pidSubject : Option SubjectId}
    {chipLiveness : Option VerifiedChipLiveness} {now : UInt64}
    (admitted : Admitted name pidSubject chipLiveness now) (nfc : isNfcPid name = true)
    (otherNfc : isNfcPid other = true) : Admitted other pidSubject chipLiveness now where
  known := by
    rcases (isNfcPid_iff other).mp otherNfc with rfl | rfl <;> rfl
  pidBound := by
    rcases (isNfcPid_iff other).mp otherNfc with rfl | rfl <;>
      exact fun impossible => absurd impossible (by decide)
  chipBound := fun _ => admitted.chipBound nfc
  inTime := admitted.inTime

theorem grantOf_isSome_iff (crates : Crates) (profileName : String)
    (pidSubject : Option SubjectId) (chipLiveness : Option VerifiedChipLiveness) :
    (grantOf crates profileName pidSubject chipLiveness).isSome ↔ profileName = mandateSdJwt := by
  unfold grantOf
  split <;> simp_all

/-- A mandate is issued on behalf of the chip's subject, and of the presented one otherwise. -/
theorem grantOf_mandate {crates : Crates} {profileName : String} {pidSubject : Option SubjectId}
    {chipLiveness : Option VerifiedChipLiveness} {now : UInt64} {mandate : MandateGrant}
    (admitted : Admitted profileName pidSubject chipLiveness now)
    (found : mandate ∈ grantOf crates profileName pidSubject chipLiveness) :
    some mandate.onBehalfOf = (chipLiveness.map (·.subject)).or pidSubject ∧
      mandate.grantedPowers.isEmpty = false ∧
      mandate.grantedPowers.subsetOf ⟨taxonomyMask⟩ = true := by
  have isMandate : profileName = mandateSdJwt :=
    (grantOf_isSome_iff ..).mp (Option.isSome_of_mem found)
  obtain ⟨subject, rfl⟩ := Option.isSome_iff_exists.mp (admitted.pidBound (.inr isMandate))
  rw [Option.mem_def, grantOf, if_pos isMandate] at found
  cases found
  refine ⟨?_, demoMandatePowers_admitted⟩
  cases chipLiveness <;> rfl

/-- Every refusal is a response: the format table covers the role table. -/
theorem authorizeKernel_ne_panic (crates : Crates) (profileName holderJkt nonce : String)
    (pidSubject : Option SubjectId) (chipLiveness : Option VerifiedChipLiveness) (now : UInt64)
    (requestDraw sessionDraw : Bytes) :
    authorizeKernel crates profileName holderJkt nonce pidSubject chipLiveness now requestDraw
      sessionDraw ≠ .error .panic := by
  intro panicked
  simp only [authorizeKernel] at panicked
  cases isRole : roleOf profileName with
  | none =>
      rw [isRole] at panicked
      cases panicked
  | some role =>
      obtain ⟨format, isFormat⟩ := Option.isSome_iff_exists.mp
        (formatOf_isSome (by rw [isRole]; rfl))
      rw [isRole, isFormat] at panicked
      simp only [okOr_some_bind, rejectIf_bind_eq_error] at panicked
      obtain ⟨_, panicked⟩ | ⟨_, ⟨_, panicked⟩ | ⟨_, panicked⟩⟩ := panicked
      · cases panicked
      · cases panicked
      · split at panicked <;> cases panicked

/-- Nothing but a name, the evidence it needs and the time decides, and no call panics. -/
theorem authorizeKernel_exact (crates : Crates) (profileName holderJkt nonce : String)
    (pidSubject : Option SubjectId) (chipLiveness : Option VerifiedChipLiveness) (now : UInt64)
    (requestDraw sessionDraw : Bytes) :
    let verdict (name : String) := authorizeKernel crates name holderJkt nonce pidSubject
      chipLiveness now requestDraw sessionDraw
    ((∃ grant, verdict profileName = .ok grant) ↔
      profileName ∈ kernelProfiles ∧
        (profileName = qeaaPidBoundSdJwt ∨ profileName = mandateSdJwt → pidSubject.isSome) ∧
        (profileName = pidFromEmrtdSdJwt ∨ profileName = pidFromEmrtdMdoc →
          ∃ chip, chipLiveness = some chip ∧ ChipVerdicts chip) ∧
        now.toNat < 2 ^ 64 - 1) ∧
    ((∃ grant, verdict pidFromEmrtdSdJwt = .ok grant) ↔
      ∃ grant, verdict pidFromEmrtdMdoc = .ok grant) ∧
    (∀ grant, verdict profileName = .ok grant →
      (grant.isSome ↔ profileName = mandateSdJwt) ∧
      ∀ mandate ∈ grant,
        some mandate.onBehalfOf = (chipLiveness.map (·.subject)).or pidSubject ∧
        mandate.grantedPowers.isEmpty = false ∧
        mandate.grantedPowers.subsetOf ⟨taxonomyMask⟩ = true) ∧
    verdict profileName ≠ .error .panic := by
  intro verdict
  have decided (name : String) : (∃ grant, verdict name = .ok grant) ↔
      Admitted name pidSubject chipLiveness now := by
    simp only [verdict, authorizeKernel_eq_ok, exists_and_left, exists_eq, and_true]
  refine ⟨?_, ?_, ?_, ?_⟩
  · rw [decided, ← roleOf_isSome_iff]
    simp only [← isNfcPid_iff]
    exact ⟨fun admitted => ⟨admitted.known, admitted.pidBound, admitted.chipBound,
      admitted.inTime⟩, fun ⟨known, pidBound, chipBound, inTime⟩ =>
      ⟨known, pidBound, chipBound, inTime⟩⟩
  · rw [decided, decided]
    exact ⟨fun admitted => admitted.transferNfc rfl rfl, fun admitted =>
      admitted.transferNfc rfl rfl⟩
  · intro grant granted
    obtain ⟨admitted, rfl⟩ := (authorizeKernel_eq_ok ..).mp granted
    exact ⟨grantOf_isSome_iff .., fun mandate found => grantOf_mandate admitted found⟩
  · exact authorizeKernel_ne_panic crates profileName holderJkt nonce pidSubject chipLiveness now
      requestDraw sessionDraw

end VCIssuer.Service
