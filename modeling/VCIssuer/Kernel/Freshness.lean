import VCIssuer.Kernel.Decision

/-!
# Freshness of the evidence behind a signature

A signing decision relies on evidence in eight places.  Seven of them are tested
for usability; the key attestation is only tested for presence, so it is the one
place where a signed decision may rest on stale or rejected evidence.
-/

namespace VCIssuer.Kernel

/-- Every evidence record that the decision relies on is usable. -/
structure EvidenceUsable (s : Session) (r : Request) (now : Instant) : Prop where
  authorization : s.authorization.evidence.usableAt now = true
  token : s.token.evidence.usableAt now = true
  proof : r.proof.evidence.usableAt now = true
  wia : s.wallet.wia.usableAt now = true
  subject : s.subject.evidence.usableAt now = true
  ka : s.profile.deviceBindingRequired = true →
    ∃ e, s.wallet.ka = some e ∧ e.usableAt now = true
  delegator : s.profile.role = .representation →
    ∃ d, s.delegation = some d ∧ d.delegatorEvidence.usableAt now = true
  chip : s.profile.requireChipLiveness = true →
    ∃ e, s.chipEvidence = some e ∧ e.evidence.usableAt now = true

theorem deviceBindingOk_ka {profile : CredentialProfile} {wallet : WalletEvidence}
    {proof : CredentialProof} (required : profile.deviceBindingRequired = true)
    (bound : deviceBindingOk profile wallet proof = true) : ∃ e, wallet.ka = some e := by
  simp only [deviceBindingOk, required, if_true, Bool.and_eq_true] at bound
  exact Option.isSome_iff_exists.mp bound.2

/-- A signed decision rests on usable evidence exactly when its key attestation, where device
binding is required, is not a stale or rejected one. -/
theorem authorizeSign_evidenceUsable_iff {s : Session} {r : Request} {now : Instant}
    {cmd : SignCommand} (signed : authorizeSign s r now = .ok cmd) :
    EvidenceUsable s r now ↔
      (s.profile.deviceBindingRequired = true →
        ∀ e, s.wallet.ka = some e → e.usableAt now = true) := by
  obtain ⟨may, _⟩ := (authorizeSign_eq_ok_iff s r now cmd).mp signed
  constructor
  · intro usable required e present
    obtain ⟨other, otherPresent, otherUsable⟩ := usable.ka required
    rw [present] at otherPresent
    rw [Option.some.inj otherPresent]
    exact otherUsable
  · intro attested
    exact {
      authorization := may.authorizationUsable
      token := may.tokenUsable
      proof := may.proofUsable
      wia := may.wiaUsable
      subject := may.subjectUsable
      ka := by
        intro required
        obtain ⟨e, present⟩ := deviceBindingOk_ka required may.deviceBinding
        exact ⟨e, present, attested required e present⟩
      delegator := by
        intro role
        obtain ⟨d, delegation, holds⟩ := may.representation role
        exact ⟨d, delegation, holds.usable⟩
      chip := by
        intro required
        obtain ⟨e, chip, holds⟩ := may.chipLiveness required
        exact ⟨e, chip, holds.usable⟩ }

theorem authorizeSign_evidenceUsable_fixture : EvidenceUsable fixture.1 fixture.2 ⟨100⟩ := by
  have signed : authorizeSign fixture.1 fixture.2 ⟨100⟩ = .ok (commandOf fixture.1 fixture.2) := rfl
  refine (authorizeSign_evidenceUsable_iff signed).mpr ?_
  intro _ e present
  cases present
  rfl

/-- The fixture with a key attestation that expired and was never accepted. -/
def staleAttestationFixture : Session × Request :=
  ({ fixture.1 with
      wallet := { fixture.1.wallet with
        ka := some { validEvidence with validUntil := ⟨50⟩, accepted := false } } },
    fixture.2)

/-- The kernel signs on a key attestation that is expired and not accepted. -/
theorem authorizeSign_signs_stale_attestation :
    ¬ ∀ (s : Session) (r : Request) (now : Instant) (cmd : SignCommand),
      authorizeSign s r now = .ok cmd → EvidenceUsable s r now := by
  intro claimed
  have usable := claimed staleAttestationFixture.1 staleAttestationFixture.2 ⟨100⟩
    (commandOf staleAttestationFixture.1 staleAttestationFixture.2) rfl
  obtain ⟨e, present, stale⟩ := usable.ka rfl
  cases present
  exact absurd stale (by decide)

/-- Replacing the key attestation by any other one changes no decision. -/
theorem authorizeSign_ignores_attestation (s : Session) (r : Request) (now : Instant)
    (attested : s.wallet.ka.isSome = true) (other : Evidence) :
    authorizeSign { s with wallet := { s.wallet with ka := some other } } r now =
      authorizeSign s r now := by
  have binding : deviceBindingOk s.profile { s.wallet with ka := some other } r.proof =
      deviceBindingOk s.profile s.wallet r.proof := by
    simp [deviceBindingOk, attested]
  have may : mayIssue { s with wallet := { s.wallet with ka := some other } } r now =
      mayIssue s r now := by
    simp only [mayIssue, binding]
    rfl
  rw [authorizeSign_eq, authorizeSign_eq, may]
  rfl

end VCIssuer.Kernel
