import Mathlib.Data.UInt

/-!
# Value types of the issuer kernel

The records and enumerations of `issuer-core`, field by field.  Times and power
masks are 64-bit words and identifiers 128-bit words, each behind the newtype
that the source gives it.
-/

namespace VCIssuer.Kernel

structure Instant where
  val : UInt64
  deriving DecidableEq, Repr

structure SessionId where
  val : BitVec 128
  deriving DecidableEq, Repr

structure RequestId where
  val : BitVec 128
  deriving DecidableEq, Repr

structure ProfileId where
  val : BitVec 128
  deriving DecidableEq, Repr

structure SubjectId where
  val : BitVec 128
  deriving DecidableEq, Repr

structure DatasetId where
  val : BitVec 128
  deriving DecidableEq, Repr

structure KeyThumbprint where
  val : BitVec 128
  deriving DecidableEq, Repr

structure NonceId where
  val : BitVec 128
  deriving DecidableEq, Repr

inductive IssuerRole where
  | pid
  | qeaa
  | publicBodyEaa
  | nonQualifiedEaa
  | developmentEvidence
  | representation
  deriving DecidableEq, Repr

/-- A set of authorized operations, one bit per operation. -/
@[ext]
structure Powers where
  bits : UInt64
  deriving DecidableEq, Repr

namespace Powers

/-- Every bit set in `self` is set in `grant`. -/
def subsetOf (self grant : Powers) : Bool :=
  (self.bits &&& grant.bits) == self.bits

def isEmpty (self : Powers) : Bool :=
  self.bits == 0

end Powers

inductive CredentialFormat where
  | sdJwtVc
  | mdoc
  deriving DecidableEq, Repr

structure CredentialProfile where
  id : ProfileId
  role : IssuerRole
  format : CredentialFormat
  enabled : Bool
  deviceBindingRequired : Bool
  pidBindingRequired : Bool
  requireHybridPq : Bool
  requireChipLiveness : Bool
  deriving DecidableEq, Repr

structure Evidence where
  validFrom : Instant
  validUntil : Instant
  freshUntil : Instant
  accepted : Bool
  deriving DecidableEq, Repr

/-- Accepted, inside the half-open validity window and not past freshness. -/
def Evidence.usableAt (self : Evidence) (now : Instant) : Bool :=
  self.accepted
    && decide (self.validFrom.val ≤ now.val)
    && decide (now.val < self.validUntil.val)
    && decide (now.val ≤ self.freshUntil.val)

structure Authorization where
  evidence : Evidence
  profile : ProfileId
  subject : SubjectId
  dataset : DatasetId
  deriving DecidableEq, Repr

structure TokenBinding where
  evidence : Evidence
  dpopKey : KeyThumbprint
  deriving DecidableEq, Repr

structure CredentialProof where
  evidence : Evidence
  nonce : NonceId
  holderKey : KeyThumbprint
  possessionValid : Bool
  deriving DecidableEq, Repr

structure WalletEvidence where
  wia : Evidence
  ka : Option Evidence
  walletNotRevoked : Bool
  holderKeyApproved : Bool
  deriving DecidableEq, Repr

structure SubjectEvidence where
  evidence : Evidence
  subject : SubjectId
  loaHigh : Bool
  entitled : Bool
  claimsCurrent : Bool
  dataset : DatasetId
  pidBindingVerified : Bool
  deriving DecidableEq, Repr

/-- The delegator's authenticated context of a power-of-representation issuance. -/
structure Delegation where
  delegatorEvidence : Evidence
  delegator : SubjectId
  delegateKey : KeyThumbprint
  grant : Powers
  mandateNotRevoked : Bool
  deriving DecidableEq, Repr

/-- Verdicts of an eMRTD chip read and of the holder liveness capture. -/
structure ChipLivenessEvidence where
  evidence : Evidence
  subject : SubjectId
  sodPassiveAuth : Bool
  chipAuthentic : Bool
  livenessMatched : Bool
  deriving DecidableEq, Repr

structure Request where
  id : RequestId
  profile : ProfileId
  subject : SubjectId
  dataset : DatasetId
  dpopKey : KeyThumbprint
  proof : CredentialProof
  expiry : Instant
  requestedPowers : Powers
  deriving DecidableEq, Repr

structure Session where
  id : SessionId
  profile : CredentialProfile
  authorization : Authorization
  token : TokenBinding
  wallet : WalletEvidence
  subject : SubjectEvidence
  expectedNonce : NonceId
  nonceUnused : Bool
  issuerEntitled : Bool
  statusReserved : Bool
  alreadyIssued : Bool
  wiaKaMaintenanceEnd : Instant
  hybridPqBound : Bool
  delegation : Option Delegation
  chipEvidence : Option ChipLivenessEvidence
  deriving DecidableEq, Repr

structure SignCommand where
  session : SessionId
  request : RequestId
  profile : ProfileId
  subject : SubjectId
  holderKey : KeyThumbprint
  onBehalfOf : Option SubjectId
  grantedPowers : Powers
  deriving DecidableEq, Repr

inductive DecisionError where
  | notAuthorized
  deriving DecidableEq, Repr

end VCIssuer.Kernel
