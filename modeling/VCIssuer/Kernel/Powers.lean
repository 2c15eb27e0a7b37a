import VCIssuer.Kernel.Decision
import VCIssuer.Library.LabelledAtoms

/-!
# Powers and their wire scopes

The taxonomy gives six power bits a scope URN each.  `Powers.subsetOf` is the
order of a distributive lattice on masks and the taxonomy is a table of labelled
atoms in it, so that the encoder keeps exactly the covered part of a mask.
-/

namespace VCIssuer.Kernel

open VCIssuer.Library

def mandateVct : String := "urn:eudi:mandate:1"

def powerTaxonomy : List (UInt32 × String) :=
  [ (0, "urn:eudi:mandate:power:present-identity"),
    (1, "urn:eudi:mandate:power:sign-document"),
    (2, "urn:eudi:mandate:power:authorise-payment"),
    (3, "urn:eudi:mandate:power:manage-subscription"),
    (4, "urn:eudi:mandate:power:access-records"),
    (5, "urn:eudi:mandate:power:administer-account") ]

/-- `1u64 << bit`. -/
def powerBit (bit : UInt32) : UInt64 := 1 <<< bit.toUInt64

def taxonomyMask : UInt64 :=
  powerTaxonomy.foldl (fun mask entry => mask ||| powerBit entry.1) 0

def powersToScopeUrns (powers : Powers) : List String :=
  (powerTaxonomy.filter fun entry => powers.bits &&& powerBit entry.1 != 0).map Prod.snd

/-! ## The lattice of masks -/

namespace Powers

instance : Max Powers := ⟨fun left right => ⟨left.bits ||| right.bits⟩⟩
instance : Min Powers := ⟨fun left right => ⟨left.bits &&& right.bits⟩⟩
instance : Bot Powers := ⟨⟨0⟩⟩

@[simp] theorem sup_bits (left right : Powers) : (left ⊔ right).bits = left.bits ||| right.bits := rfl
@[simp] theorem inf_bits (left right : Powers) : (left ⊓ right).bits = left.bits &&& right.bits := rfl
@[simp] theorem bot_bits : (⊥ : Powers).bits = 0 := rfl

/-- Two masks with the same test bits are equal. -/
theorem ext_testBit {left right : Powers}
    (same : ∀ i, left.bits.toBitVec.getLsbD i = right.bits.toBitVec.getLsbD i) : left = right := by
  apply Powers.ext
  apply UInt64.eq_of_toBitVec_eq
  exact BitVec.eq_of_getLsbD_eq fun i _ => same i

/-- Masks form a lattice whose order is `subsetOf`. -/
instance : Lattice Powers :=
  Lattice.mk'
    (fun a b => ext_testBit fun i => by simp [Bool.or_comm])
    (fun a b c => ext_testBit fun i => by simp [Bool.or_assoc])
    (fun a b => ext_testBit fun i => by simp [Bool.and_comm])
    (fun a b c => ext_testBit fun i => by simp [Bool.and_assoc])
    (fun a b => ext_testBit fun i => by simp; exact fun set _ => set)
    (fun a b => ext_testBit fun i => by simp; exact Or.inl)

theorem le_iff_subsetOf (self grant : Powers) : self ≤ grant ↔ self.subsetOf grant = true := by
  rw [← inf_eq_left, Powers.ext_iff, subsetOf, beq_iff_eq]
  rfl

instance : DecidableLE Powers := fun self grant =>
  decidable_of_iff _ (le_iff_subsetOf self grant).symm

instance : DistribLattice Powers where
  le_sup_inf a b c := by
    apply le_of_eq
    exact ext_testBit fun i => by simp [Bool.or_and_distrib_left]

instance : OrderBot Powers where
  bot_le a := by
    rw [le_iff_subsetOf, subsetOf, beq_iff_eq]
    simp

theorem isEmpty_iff (self : Powers) : self.isEmpty = true ↔ self = ⊥ := by
  rw [isEmpty, beq_iff_eq, Powers.ext_iff]
  rfl

/-- A mask with one bit is an atom. -/
theorem isAtom_of_twoPow {mask : Powers} {i : Nat} (small : i < 64)
    (single : mask.bits.toBitVec = BitVec.twoPow 64 i) : IsAtom mask := by
  constructor
  · intro empty
    rw [empty] at single
    have zero := congrArg (fun word : BitVec 64 => word.getLsbD i) single
    simp [small] at zero
  · intro smaller below
    have meet : smaller ⊓ mask = smaller := inf_eq_left.mpr below.le
    have word : smaller.bits.toBitVec &&& BitVec.twoPow 64 i = smaller.bits.toBitVec := by
      rw [← single]
      exact congrArg (fun powers : Powers => powers.bits.toBitVec) meet
    rw [BitVec.and_twoPow] at word
    split at word
    · exfalso
      exact below.ne (Powers.ext (UInt64.eq_of_toBitVec_eq (word.symm.trans single.symm)))
    · exact Powers.ext (UInt64.eq_of_toBitVec_eq word.symm)

end Powers

/-! ## The taxonomy as a table of atoms -/

theorem powerBit_twoPow : ∀ entry ∈ powerTaxonomy,
    entry.1.toNat < 64 ∧ (powerBit entry.1).toBitVec = BitVec.twoPow 64 entry.1.toNat := by
  decide

theorem powerBit_isAtom {entry : UInt32 × String} (member : entry ∈ powerTaxonomy) :
    IsAtom (⟨powerBit entry.1⟩ : Powers) := by
  obtain ⟨small, single⟩ := powerBit_twoPow entry member
  exact Powers.isAtom_of_twoPow small single

def taxonomyTable : AtomTable Powers String where
  entries := powerTaxonomy.map fun entry => (⟨powerBit entry.1⟩, entry.2)
  atoms := by
    intro entry member
    obtain ⟨source, sourceMember, rfl⟩ := List.mem_map.mp member
    exact powerBit_isAtom sourceMember
  labels_nodup := by decide

theorem taxonomyTable_mask : taxonomyTable.mask = ⟨taxonomyMask⟩ := by decide

/-- The encoder's bit test asks whether the table's atom lies below the mask. -/
theorem powersToScopeUrns_eq_emit (powers : Powers) :
    powersToScopeUrns powers = taxonomyTable.emit powers := by
  rw [powersToScopeUrns, AtomTable.emit, taxonomyTable, List.filter_map, List.map_map]
  congr 1
  apply List.filter_congr
  intro entry member
  have isAtom := powerBit_isAtom member
  have meets := AtomTable.inf_atom isAtom powers
  by_cases below : (⟨powerBit entry.1⟩ : Powers) ≤ powers
  · have nonzero : powerBit entry.1 ≠ 0 := fun zero => isAtom.1 (Powers.ext zero)
    rw [if_pos below] at meets
    have bits : powers.bits &&& powerBit entry.1 = powerBit entry.1 := congrArg Powers.bits meets
    simp [below, bits, nonzero]
  · rw [if_neg below] at meets
    have bits : powers.bits &&& powerBit entry.1 = 0 := congrArg Powers.bits meets
    simp [below, bits]

/-- Each URN mapped back through the taxonomy, and the bits or-ed together. -/
def scopeUrnsToPowers (urns : List String) : Powers := taxonomyTable.denote urns

/-- On the wire a mask keeps exactly its taxonomy bits. -/
theorem scopeUrnsToPowers_powersToScopeUrns (powers : Powers) :
    scopeUrnsToPowers (powersToScopeUrns powers) = powers ⊓ ⟨taxonomyMask⟩ := by
  rw [scopeUrnsToPowers, powersToScopeUrns_eq_emit, AtomTable.denote_emit, taxonomyTable_mask]

theorem powersToScopeUrns_eq_nil_iff (powers : Powers) :
    powersToScopeUrns powers = [] ↔ powers ⊓ ⟨taxonomyMask⟩ = ⊥ := by
  rw [powersToScopeUrns_eq_emit, AtomTable.emit_eq_nil_iff, taxonomyTable_mask]

/-- The wire scope is a non-empty mandate for exactly these powers. -/
def ScopeCarries (powers : Powers) : Prop :=
  powersToScopeUrns powers ≠ [] ∧ scopeUrnsToPowers (powersToScopeUrns powers) = powers

/-- A non-empty mask survives the wire exactly when the taxonomy covers it. -/
theorem scopeCarries_iff {powers : Powers} (nonempty : powers.isEmpty = false) :
    ScopeCarries powers ↔ powers.subsetOf ⟨taxonomyMask⟩ = true := by
  have notBottom : powers ≠ ⊥ := fun empty => by simp [(Powers.isEmpty_iff powers).mpr empty] at nonempty
  rw [ScopeCarries, Ne, powersToScopeUrns_eq_nil_iff, scopeUrnsToPowers_powersToScopeUrns,
    inf_eq_left, ← Powers.le_iff_subsetOf]
  constructor
  · exact fun ⟨_, covered⟩ => covered
  · intro covered
    exact ⟨fun apart => notBottom (by rwa [inf_eq_left.mpr covered] at apart), covered⟩

/-! ## Granted powers on the wire -/

/-- A signed representation is written out as the covered part of the granted powers; nothing is
lost exactly when the taxonomy covers them, which a covered grant ensures. -/
theorem authorizeSign_scope_on_wire {s : Session} {r : Request} {now : Instant} {cmd : SignCommand}
    (role : s.profile.role = .representation) (signed : authorizeSign s r now = .ok cmd) :
    scopeUrnsToPowers (powersToScopeUrns cmd.grantedPowers) =
        cmd.grantedPowers ⊓ ⟨taxonomyMask⟩ ∧
      (ScopeCarries cmd.grantedPowers ↔ cmd.grantedPowers.subsetOf ⟨taxonomyMask⟩ = true) ∧
      (∀ d, s.delegation = some d → d.grant.subsetOf ⟨taxonomyMask⟩ = true →
        ScopeCarries cmd.grantedPowers) := by
  obtain ⟨d, delegation, holds, _, granted⟩ := authorizeSign_representation role signed
  have nonempty : cmd.grantedPowers.isEmpty = false := by rw [granted]; exact holds.nonempty
  refine ⟨scopeUrnsToPowers_powersToScopeUrns _, scopeCarries_iff nonempty, ?_⟩
  intro other otherDelegation covered
  have same : other = d := by
    rw [delegation] at otherDelegation
    exact (Option.some.inj otherDelegation).symm
  have narrowed : cmd.grantedPowers ≤ d.grant := by
    rw [Powers.le_iff_subsetOf, granted]
    exact holds.narrowing
  rw [scopeCarries_iff nonempty, ← Powers.le_iff_subsetOf]
  exact le_trans narrowed ((Powers.le_iff_subsetOf _ _).mpr (same ▸ covered))

theorem authorizeSign_scope_on_wire_mandateFixture :
    ScopeCarries (commandOf mandateFixture.1 mandateFixture.2).grantedPowers := by
  have signed : authorizeSign mandateFixture.1 mandateFixture.2 ⟨100⟩ =
      .ok (commandOf mandateFixture.1 mandateFixture.2) := rfl
  exact (authorizeSign_scope_on_wire rfl signed).2.2 _ rfl (by decide)

/-- The mandate fixture with one power outside the taxonomy, granted and requested. -/
def uncoveredFixture : Session × Request :=
  ({ mandateFixture.1 with
      delegation := mandateFixture.1.delegation.map fun d => { d with grant := ⟨powerBit 60⟩ } },
    { mandateFixture.2 with requestedPowers := ⟨powerBit 60⟩ })

/-- The kernel signs powers outside the taxonomy and the wire scope is then empty. -/
theorem authorizeSign_scope_lost :
    ¬ ∀ (s : Session) (r : Request) (now : Instant) (cmd : SignCommand),
      s.profile.role = .representation → authorizeSign s r now = .ok cmd →
        powersToScopeUrns cmd.grantedPowers ≠ [] ∧
          scopeUrnsToPowers (powersToScopeUrns cmd.grantedPowers) = cmd.grantedPowers := by
  intro claimed
  have carried := claimed uncoveredFixture.1 uncoveredFixture.2 ⟨100⟩
    (commandOf uncoveredFixture.1 uncoveredFixture.2) rfl rfl
  exact carried.1 (by decide)

end VCIssuer.Kernel
