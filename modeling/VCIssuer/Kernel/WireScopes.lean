import VCIssuer.Kernel.Powers

/-!
# Narrowing on the wire

A verifier sees URNs and compares lists of them.  The comparison is the order of
masks, as far as the taxonomy covers them.
-/

namespace VCIssuer.Kernel

open VCIssuer.Library

/-- Every requested scope URN is among the granted ones. -/
def scopeUrnsSubset (requested granted : List String) : Bool :=
  requested.all fun urn => granted.contains urn

theorem scopeUrnsSubset_iff (requested granted : List String) :
    scopeUrnsSubset requested granted = true ↔ requested ⊆ granted := by
  simp [scopeUrnsSubset, List.subset_def]

namespace Powers

/-- A mask with one bit lies below another exactly when that bit is set. -/
theorem twoPow_le_iff {mask powers : Powers} {i : Nat} (small : i < 64)
    (single : mask.bits.toBitVec = BitVec.twoPow 64 i) :
    mask ≤ powers ↔ powers.bits.toBitVec.getLsbD i = true := by
  have meet : (powers ⊓ mask).bits.toBitVec =
      powers.bits.toBitVec &&& BitVec.twoPow 64 i := by
    rw [← single]
    rfl
  rw [BitVec.and_twoPow] at meet
  constructor
  · intro below
    rw [inf_eq_right.mpr below, single] at meet
    by_contra unset
    rw [if_neg unset] at meet
    have zero := congrArg (fun word : BitVec 64 => word.getLsbD i) meet
    simp [small] at zero
  · intro set
    rw [if_pos set, ← single] at meet
    exact inf_eq_right.mp (Powers.ext (UInt64.eq_of_toBitVec_eq meet))

end Powers

theorem powerBit_le_iff {entry : UInt32 × String} (member : entry ∈ powerTaxonomy)
    (powers : Powers) :
    (⟨powerBit entry.1⟩ : Powers) ≤ powers ↔
      powers.bits.toBitVec.getLsbD entry.1.toNat = true := by
  obtain ⟨small, single⟩ := powerBit_twoPow entry member
  exact Powers.twoPow_le_iff small single

/-- The URNs written out are those of the covered bits that are set. -/
theorem mem_powersToScopeUrns (powers : Powers) (urn : String) :
    urn ∈ powersToScopeUrns powers ↔ ∃ bit, (bit, urn) ∈ powerTaxonomy ∧
      (powers ⊓ ⟨taxonomyMask⟩).bits.toBitVec.getLsbD bit.toNat = true := by
  rw [powersToScopeUrns_eq_emit, AtomTable.mem_emit]
  constructor
  · rintro ⟨atom, listed, below⟩
    obtain ⟨⟨bit, _⟩, member, same⟩ := List.mem_map.mp listed
    obtain ⟨rfl, rfl⟩ := Prod.mk.inj same
    have covered := taxonomyTable.atom_le_mask listed
    rw [taxonomyTable_mask] at covered
    exact ⟨bit, member, (powerBit_le_iff member _).mp (le_inf below covered)⟩
  · rintro ⟨bit, member, set⟩
    have below := (powerBit_le_iff member _).mpr set
    exact ⟨⟨powerBit bit⟩, List.mem_map.mpr ⟨(bit, urn), member, rfl⟩, below.trans inf_le_left⟩

/-- Every covered bit has its entry. -/
theorem taxonomyMask_covers : ∀ i, taxonomyMask.toBitVec.getLsbD i = true →
    ∃ entry ∈ powerTaxonomy, entry.1.toNat = i := by
  intro i set
  have listed : ∀ i : Fin 64, taxonomyMask.toBitVec.getLsbD i = true →
      ∃ entry ∈ powerTaxonomy, entry.1.toNat = i := by decide
  exact listed ⟨i, BitVec.lt_of_getLsbD set⟩ set

theorem scopeUrnsSubset_powersToScopeUrns (a b : Powers) :
    scopeUrnsSubset (powersToScopeUrns a) (powersToScopeUrns b) = true ↔
      a ⊓ ⟨taxonomyMask⟩ ≤ b ⊓ ⟨taxonomyMask⟩ := by
  rw [scopeUrnsSubset_iff, powersToScopeUrns_eq_emit, powersToScopeUrns_eq_emit,
    AtomTable.emit_subset_iff, taxonomyTable_mask]

/-- Narrowing is seen on the wire. -/
theorem scopeUrnsSubset_of_subsetOf {a b : Powers} (narrowed : a.subsetOf b = true) :
    scopeUrnsSubset (powersToScopeUrns a) (powersToScopeUrns b) = true := by
  rw [scopeUrnsSubset_powersToScopeUrns]
  exact inf_le_inf_right _ ((Powers.le_iff_subsetOf a b).mpr narrowed)

/-- A covered mask whose URNs are among those of another is below it. -/
theorem subsetOf_of_scopeUrnsSubset {a b : Powers} (covered : a.subsetOf ⟨taxonomyMask⟩ = true)
    (within : scopeUrnsSubset (powersToScopeUrns a) (powersToScopeUrns b) = true) :
    a.subsetOf b = true := by
  rw [scopeUrnsSubset_powersToScopeUrns] at within
  rw [← Powers.le_iff_subsetOf] at covered ⊢
  calc
    a = a ⊓ ⟨taxonomyMask⟩ := (inf_eq_left.mpr covered).symm
    _ ≤ b ⊓ ⟨taxonomyMask⟩ := within
    _ ≤ b := inf_le_left

/-- What is signed for a delegate is, on the wire, within what the delegator holds. -/
theorem authorizeSign_narrows_on_wire {s : Session} {r : Request} {now : Instant}
    {cmd : SignCommand} (role : s.profile.role = .representation)
    (signed : authorizeSign s r now = .ok cmd) :
    ∃ d, s.delegation = some d ∧
      scopeUrnsSubset (powersToScopeUrns cmd.grantedPowers) (powersToScopeUrns d.grant) = true := by
  obtain ⟨d, delegation, holds, _, granted⟩ := authorizeSign_representation role signed
  exact ⟨d, delegation, scopeUrnsSubset_of_subsetOf (granted ▸ holds.narrowing)⟩

/-- The list of URNs is the covered part of the mask in table order, and the comparison of lists
is the comparison of covered parts. -/
theorem wireScopes_refine_powers (a b : UInt64) :
    ((powersToScopeUrns ⟨a⟩).Nodup ∧
        List.Sublist (powersToScopeUrns ⟨a⟩) (powerTaxonomy.map Prod.snd) ∧
        (∀ urn, urn ∈ powersToScopeUrns ⟨a⟩ ↔ ∃ bit, (bit, urn) ∈ powerTaxonomy ∧
          (a &&& taxonomyMask).toBitVec.getLsbD bit.toNat = true) ∧
        ∀ i, (a &&& taxonomyMask).toBitVec.getLsbD i = true →
          ∃ entry ∈ powerTaxonomy, entry.1.toNat = i ∧ entry.2 ∈ powersToScopeUrns ⟨a⟩) ∧
      (scopeUrnsSubset (powersToScopeUrns ⟨a⟩) (powersToScopeUrns ⟨b⟩) = true ↔
        Powers.subsetOf ⟨a &&& taxonomyMask⟩ ⟨b &&& taxonomyMask⟩ = true) ∧
      (Powers.subsetOf ⟨a⟩ ⟨b⟩ = true →
        scopeUrnsSubset (powersToScopeUrns ⟨a⟩) (powersToScopeUrns ⟨b⟩) = true) ∧
      (Powers.subsetOf ⟨a⟩ ⟨taxonomyMask⟩ = true →
        scopeUrnsSubset (powersToScopeUrns ⟨a⟩) (powersToScopeUrns ⟨b⟩) = true →
          Powers.subsetOf ⟨a⟩ ⟨b⟩ = true) := by
  refine ⟨⟨?_, ?_, mem_powersToScopeUrns ⟨a⟩, ?_⟩, ?_, scopeUrnsSubset_of_subsetOf,
    subsetOf_of_scopeUrnsSubset⟩
  · rw [powersToScopeUrns_eq_emit]
    exact taxonomyTable.emit_nodup _
  · rw [powersToScopeUrns_eq_emit]
    exact taxonomyTable.emit_sublist _
  · intro i set
    have masked : taxonomyMask.toBitVec.getLsbD i = true := by
      rw [UInt64.toBitVec_and, BitVec.getLsbD_and, Bool.and_eq_true] at set
      exact set.2
    obtain ⟨⟨bit, urn⟩, member, rfl⟩ := taxonomyMask_covers i masked
    exact ⟨(bit, urn), member, rfl, (mem_powersToScopeUrns ⟨a⟩ urn).mpr ⟨bit, member, set⟩⟩
  · rw [scopeUrnsSubset_powersToScopeUrns, Powers.le_iff_subsetOf]
    rfl

end VCIssuer.Kernel
