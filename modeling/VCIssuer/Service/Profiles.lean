import VCIssuer.Service.Emrtd

/-!
# Credential configurations

The identifiers of the credential configurations, the scopes that an
authorization request may ask for, and the labels of the signing keys.
-/

namespace VCIssuer.Service

open VCIssuer.Library

def pidSdJwt : String := "eu.europa.ec.eudi.pid_vc_sd_jwt.de"
def pidMdoc : String := "eu.europa.ec.eudi.pid_mso_mdoc.de"
def eaaMdoc : String := "org.iso.18013.5.1.mDL.de"
def qeaaSdJwt : String := "urn:eu.europa.ec.eudi:learning:credential:1:dc+sd-jwt:de"
def qeaaPidBoundSdJwt : String :=
  "urn:eu.europa.ec.eudi:learning:credential:1:dc+sd-jwt:de:pid-bound"
def pidFromEmrtdSdJwt : String := "eu.europa.ec.eudi.pid_vc_sd_jwt.de:nfc"
def pidFromEmrtdMdoc : String := "eu.europa.ec.eudi.pid_mso_mdoc.de:nfc"
def devSvipePidSdJwt : String := "dev.svipe.pid.sd-jwt"
def tlsnEvidenceSdJwt : String := "dev.advatar.tlsn.evidence.sd-jwt"
def tlsnEvidenceVct : String := "dev.advatar.tlsn.evidence.1"
def hybridPqSdJwt : String := "dev.advatar.hybrid-pq.sd-jwt.v1"
def mandateSdJwt : String := "urn:eudi:mandate:1:dc+sd-jwt:de"

def isNfcPid (profile : String) : Bool :=
  profile == pidFromEmrtdSdJwt || profile == pidFromEmrtdMdoc

/-- The scopes that are allowed in every deployment. -/
def allowedScopes : List String :=
  [ pidSdJwt, pidFromEmrtdSdJwt, pidMdoc, eaaMdoc, qeaaSdJwt, qeaaPidBoundSdJwt,
    devSvipePidSdJwt, tlsnEvidenceSdJwt, mandateSdJwt ]

/-- An item of a scope is in the closed list, which the hybrid profile extends when enabled. -/
def scopeItemAllowed (hybridPqEnabled : Bool) (item : String) : Bool :=
  allowedScopes.contains item || (hybridPqEnabled && item == hybridPqSdJwt)

def validScope (scope : String) (hybridPqEnabled : Bool) : Bool :=
  let items := Text.splitAsciiWhitespace scope
  items.all (scopeItemAllowed hybridPqEnabled) && decide (0 < items.length)

theorem validScope_eq_true_iff (scope : String) (hybridPqEnabled : Bool) :
    validScope scope hybridPqEnabled = true ↔
      Text.splitAsciiWhitespace scope ≠ [] ∧ ∀ item ∈ Text.splitAsciiWhitespace scope,
        scopeItemAllowed hybridPqEnabled item = true := by
  unfold validScope
  rw [Bool.and_eq_true, List.all_eq_true, decide_eq_true_eq, List.length_pos_iff, and_comm]

/-- No id in the closed list contains whitespace. -/
theorem scopeItemAllowed_closed {hybridPqEnabled : Bool} {item : String}
    (allowed : scopeItemAllowed hybridPqEnabled item = true) :
    item ≠ "" ∧ ∀ c ∈ item.toList, Text.isAsciiWhitespace c = false := by
  have listed : item ∈ hybridPqSdJwt :: allowedScopes := by
    rw [scopeItemAllowed, Bool.or_eq_true, Bool.and_eq_true, beq_iff_eq, List.contains_iff_mem]
      at allowed
    rcases allowed with member | ⟨_, rfl⟩
    · exact .tail _ member
    · exact .head _
  have each : ∀ id ∈ hybridPqSdJwt :: allowedScopes,
      id ≠ "" ∧ ∀ c ∈ id.toList, Text.isAsciiWhitespace c = false := by decide +kernel
  exact each item listed

/-- A scope without whitespace is one id. -/
theorem validScope_of_closed {scope : String} (hybridPqEnabled : Bool)
    (closed : ∀ c ∈ scope.toList, Text.isAsciiWhitespace c = false) :
    validScope scope hybridPqEnabled = scopeItemAllowed hybridPqEnabled scope := by
  by_cases present : scope = ""
  · subst present
    cases hybridPqEnabled <;> decide +kernel
  · rw [validScope, Text.splitAsciiWhitespace_of_closed present closed]
    simp

/-- The label of a profile's signing key; other names reach an `unreachable!`. -/
def keyLabel (profile : String) : Option String :=
  if profile = pidSdJwt then some "pid-sd-jwt"
  else if profile = pidFromEmrtdSdJwt then some "pid-from-emrtd-sd-jwt"
  else if profile = pidFromEmrtdMdoc then some "pid-from-emrtd-mdoc"
  else if profile = pidMdoc then some "pid-mdoc"
  else if profile = eaaMdoc then some "eaa-mdoc"
  else if profile = qeaaSdJwt then some "qeaa-sd-jwt"
  else if profile = qeaaPidBoundSdJwt then some "qeaa-pid-bound-sd-jwt"
  else if profile = devSvipePidSdJwt then some "svipe-pid-sd-jwt"
  else if profile = tlsnEvidenceSdJwt then some "tlsn-evidence-sd-jwt"
  else if profile = mandateSdJwt then some "mandate-sd-jwt"
  else none

end VCIssuer.Service
