import Mathlib.Logic.Basic

/-!
# The repository's own Lean model

The decision part of `formal/lean/EudiIssuer/Model.lean`: the same types over
natural numbers, the same propositional gates and the same gateway.  It is the
model that the kernel says it mirrors, kept here under its own namespace so that
the two decisions can be compared.
-/

namespace VCIssuer.SeedModel

abbrev Instant := Nat
abbrev SessionId := Nat
abbrev ProfileId := Nat
abbrev SubjectId := Nat
abbrev KeyThumbprint := Nat
abbrev NonceId := Nat
abbrev RequestId := Nat
abbrev DatasetId := Nat

abbrev Powers := Nat

def Powers.subsetOf (a grant : Powers) : Prop := Nat.land a grant = a

inductive IssuerRole where
  | pid
  | qeaa
  | publicBodyEaa
  | nonQualifiedEaa
  | representation
  deriving DecidableEq, Repr

inductive CredentialFormat where
  | sdJwtVc
  | mdoc
  deriving DecidableEq, Repr

structure CredentialProfile where
  id : ProfileId
  role : IssuerRole
  format : CredentialFormat
  enabled : Bool
  deviceBindingRequired : Bool
  requireHybridPq : Bool
  requireChipLiveness : Bool
  deriving DecidableEq, Repr

structure Evidence where
  validFrom : Instant
  validUntil : Instant
  freshUntil : Instant
  accepted : Bool
  deriving DecidableEq, Repr

def Evidence.usableAt (e : Evidence) (now : Instant) : Prop :=
  e.accepted = true ∧ e.validFrom ≤ now ∧ now < e.validUntil ∧ now ≤ e.freshUntil

structure Authorization where
  evidence : Evidence
  profile : ProfileId
  subject : SubjectId
  dataset : DatasetId
  deriving DecidableEq, Repr

structure TokenBinding where
  evidence : Evidence
  dpopKey : KeyThumbprint
  deriving DecidableEq, Repr

structure CredentialProof where
  evidence : Evidence
  nonce : NonceId
  holderKey : KeyThumbprint
  possessionValid : Bool
  deriving DecidableEq, Repr

structure WalletEvidence where
  wia : Evidence
  ka : Option Evidence
  walletNotRevoked : Bool
  holderKeyApproved : Bool
  deriving DecidableEq, Repr

structure SubjectEvidence where
  evidence : Evidence
  subject : SubjectId
  loaHigh : Bool
  entitled : Bool
  claimsCurrent : Bool
  dataset : DatasetId
  deriving DecidableEq, Repr

structure Delegation where
  delegatorEvidence : Evidence
  delegator : SubjectId
  delegateKey : KeyThumbprint
  grant : Powers
  mandateNotRevoked : Bool
  deriving DecidableEq, Repr

structure ChipLivenessEvidence where
  evidence : Evidence
  subject : SubjectId
  sodPassiveAuth : Bool
  chipAuthentic : Bool
  livenessMatched : Bool
  deriving DecidableEq, Repr

structure Request where
  id : RequestId
  profile : ProfileId
  subject : SubjectId
  dataset : DatasetId
  dpopKey : KeyThumbprint
  proof : CredentialProof
  expiry : Instant
  requestedPowers : Powers
  deriving DecidableEq, Repr

structure Session where
  id : SessionId
  profile : CredentialProfile
  authorization : Authorization
  token : TokenBinding
  wallet : WalletEvidence
  subject : SubjectEvidence
  expectedNonce : NonceId
  nonceUnused : Bool
  issuerEntitled : Bool
  statusReserved : Bool
  alreadyIssued : Bool
  wiaKaMaintenanceEnd : Instant
  hybridPqBound : Bool
  delegation : Option Delegation
  chipEvidence : Option ChipLivenessEvidence
  deriving DecidableEq, Repr

def roleEvidenceOk (role : IssuerRole) (subject : SubjectEvidence) : Prop :=
  match role with
  | .pid => subject.loaHigh = true
  | _ => True

def deviceBindingOk (profile : CredentialProfile) (wallet : WalletEvidence)
    (proof : CredentialProof) : Prop :=
  if profile.deviceBindingRequired = true then
    wallet.holderKeyApproved = true ∧ proof.possessionValid = true ∧ wallet.ka.isSome = true
  else
    proof.possessionValid = true

def representationOk (s : Session) (r : Request) (now : Instant) : Prop :=
  match s.profile.role with
  | .representation =>
      match s.delegation with
      | some d =>
          d.delegatorEvidence.usableAt now ∧
          d.mandateNotRevoked = true ∧
          d.delegateKey = r.proof.holderKey ∧
          r.requestedPowers ≠ 0 ∧
          Powers.subsetOf r.requestedPowers d.grant
      | none => False
  | _ => True

def chipLivenessOk (s : Session) (r : Request) (now : Instant) : Prop :=
  match s.chipEvidence with
  | some e =>
      e.evidence.usableAt now ∧
      e.sodPassiveAuth = true ∧
      e.chipAuthentic = true ∧
      e.livenessMatched = true ∧
      e.subject = r.subject
  | none => False

def mayIssue (s : Session) (r : Request) (now : Instant) : Prop :=
  s.profile.enabled = true ∧
  s.profile.id = r.profile ∧
  s.issuerEntitled = true ∧
  s.authorization.evidence.usableAt now ∧
  s.authorization.profile = r.profile ∧
  s.authorization.subject = r.subject ∧
  s.authorization.dataset = r.dataset ∧
  s.token.evidence.usableAt now ∧
  s.token.dpopKey = r.dpopKey ∧
  r.proof.evidence.usableAt now ∧
  r.proof.nonce = s.expectedNonce ∧
  s.nonceUnused = true ∧
  r.proof.holderKey = r.dpopKey ∧
  s.wallet.wia.usableAt now ∧
  s.wallet.walletNotRevoked = true ∧
  deviceBindingOk s.profile s.wallet r.proof ∧
  s.subject.evidence.usableAt now ∧
  s.subject.subject = r.subject ∧
  s.subject.dataset = r.dataset ∧
  s.subject.entitled = true ∧
  s.subject.claimsCurrent = true ∧
  roleEvidenceOk s.profile.role s.subject ∧
  r.expiry ≤ s.wiaKaMaintenanceEnd ∧
  s.statusReserved = true ∧
  s.alreadyIssued = false ∧
  (s.profile.requireHybridPq = false ∨ s.hybridPqBound = true) ∧
  representationOk s r now ∧
  (s.profile.requireChipLiveness = false ∨ chipLivenessOk s r now)

noncomputable instance mayIssueDecidable (s : Session) (r : Request) (now : Instant) :
    Decidable (mayIssue s r now) := Classical.propDecidable _

inductive Error where
  | notAuthorized
  deriving DecidableEq, Repr

structure SignCommand where
  session : SessionId
  request : RequestId
  profile : ProfileId
  subject : SubjectId
  holderKey : KeyThumbprint
  onBehalfOf : Option SubjectId
  grantedPowers : Powers
  deriving DecidableEq, Repr

def onBehalfOfFor (s : Session) : Option SubjectId :=
  match s.profile.role, s.delegation with
  | .representation, some d => some d.delegator
  | _, _ => none

def grantedPowersFor (s : Session) (r : Request) : Powers :=
  match s.profile.role, s.delegation with
  | .representation, some _ => r.requestedPowers
  | _, _ => 0

noncomputable def authorizeSign (s : Session) (r : Request) (now : Instant) :
    Except Error SignCommand :=
  if mayIssue s r now then
    .ok {
      session := s.id
      request := r.id
      profile := r.profile
      subject := r.subject
      holderKey := r.proof.holderKey
      onBehalfOf := onBehalfOfFor s
      grantedPowers := grantedPowersFor s r
    }
  else
    .error .notAuthorized

end VCIssuer.SeedModel
