import Mathlib.Order.Atoms
import Mathlib.Data.List.Nodup

/-!
# Tables of labelled atoms

A finite table gives some atoms of a distributive lattice a label each.  An
element is written out as the labels of the atoms below it, and a list of labels
is read back as the join of their atoms.  Writing and reading back keeps exactly
the part of the element that the table covers.
-/

namespace VCIssuer.Library

/-- Atoms with pairwise distinct labels. -/
structure AtomTable (α ι : Type*) [DistribLattice α] [OrderBot α] where
  entries : List (α × ι)
  atoms : ∀ entry ∈ entries, IsAtom entry.1
  labels_nodup : (entries.map Prod.snd).Nodup

namespace AtomTable

variable {α ι : Type*} [DistribLattice α] [OrderBot α]

/-- The join of a list of elements. -/
def join : List α → α
  | [] => ⊥
  | first :: rest => first ⊔ join rest

/-- Everything the table can express. -/
def mask (table : AtomTable α ι) : α := join (table.entries.map Prod.fst)

/-- The labels of the table's atoms below an element, in table order. -/
def emit (table : AtomTable α ι) [DecidableLE α] (element : α) : List ι :=
  (table.entries.filter fun entry => decide (entry.1 ≤ element)).map Prod.snd

/-- The atom a label stands for, and nothing for an unknown label. -/
def atomOf (table : AtomTable α ι) [DecidableEq ι] (label : ι) : α :=
  match table.entries.find? fun entry => decide (entry.2 = label) with
  | some entry => entry.1
  | none => ⊥

/-- A label list read back through the table. -/
def denote (table : AtomTable α ι) [DecidableEq ι] (labels : List ι) : α :=
  join (labels.map table.atomOf)

theorem atomOf_entry (table : AtomTable α ι) [DecidableEq ι] {entry : α × ι}
    (member : entry ∈ table.entries) : table.atomOf entry.2 = entry.1 := by
  unfold atomOf
  cases found : table.entries.find? fun other => decide (other.2 = entry.2) with
  | none =>
      have absent := List.find?_eq_none.mp found entry member
      simp at absent
  | some other =>
      have otherMember := List.mem_of_find?_eq_some found
      have sameLabel : other.2 = entry.2 := by simpa using List.find?_some found
      have same := List.inj_on_of_nodup_map table.labels_nodup otherMember member sameLabel
      rw [same]

/-- An atom meets an element in itself or not at all. -/
theorem inf_atom {atom : α} (isAtom : IsAtom atom) [DecidableLE α] (element : α) :
    element ⊓ atom = if atom ≤ element then atom else ⊥ := by
  split
  case isTrue below => exact inf_eq_right.mpr below
  case isFalse apart =>
      rcases isAtom.le_iff.mp (inf_le_right : element ⊓ atom ≤ atom) with empty | whole
      · exact empty
      · exact absurd (inf_eq_right.mp whole) apart

theorem join_filter_below [DecidableLE α] (element : α) (entries : List (α × ι))
    (atoms : ∀ entry ∈ entries, IsAtom entry.1) :
    join ((entries.filter fun entry => decide (entry.1 ≤ element)).map Prod.fst) =
      element ⊓ join (entries.map Prod.fst) := by
  induction entries with
  | nil => simp [join]
  | cons entry rest ih =>
      have headMeets := inf_atom (atoms entry List.mem_cons_self) element
      have tailMeets := ih fun other member => atoms other (List.mem_cons_of_mem _ member)
      rw [List.map_cons, join, inf_sup_left, headMeets, ← tailMeets]
      by_cases below : entry.1 ≤ element
      · simp [below, join]
      · simp [below]

/-- Writing an element out and reading it back keeps its covered part. -/
theorem denote_emit (table : AtomTable α ι) [DecidableLE α] [DecidableEq ι] (element : α) :
    table.denote (table.emit element) = element ⊓ table.mask := by
  have readBack : (table.emit element).map table.atomOf =
      (table.entries.filter fun entry => decide (entry.1 ≤ element)).map Prod.fst := by
    rw [emit, List.map_map]
    apply List.map_congr_left
    intro entry member
    exact table.atomOf_entry (List.mem_of_mem_filter member)
  rw [denote, readBack, join_filter_below element table.entries table.atoms, mask]

theorem le_join {elements : List α} {element : α} (member : element ∈ elements) :
    element ≤ join elements := by
  induction elements with
  | nil => cases member
  | cons first rest ih =>
      rcases List.mem_cons.mp member with here | later
      · exact here ▸ le_sup_left
      · exact le_trans (ih later) le_sup_right

theorem join_le {elements : List α} {bound : α} (below : ∀ element ∈ elements, element ≤ bound) :
    join elements ≤ bound := by
  induction elements with
  | nil => exact bot_le
  | cons first rest ih =>
      have restBelow := ih fun element member => below element (List.mem_cons_of_mem _ member)
      exact sup_le (below first List.mem_cons_self) restBelow

theorem atom_le_mask (table : AtomTable α ι) {entry : α × ι} (member : entry ∈ table.entries) :
    entry.1 ≤ table.mask :=
  le_join (List.mem_map_of_mem member)

/-- Nothing is written out exactly when the element misses the table. -/
theorem emit_eq_nil_iff (table : AtomTable α ι) [DecidableLE α] [DecidableEq ι] (element : α) :
    table.emit element = [] ↔ element ⊓ table.mask = ⊥ := by
  constructor
  · intro empty
    rw [← denote_emit, empty]
    rfl
  · intro apart
    rw [emit, List.map_eq_nil_iff, List.filter_eq_nil_iff]
    intro entry member below
    have covered := table.atom_le_mask member
    have bottom : entry.1 ≤ ⊥ := apart ▸ le_inf (of_decide_eq_true below) covered
    exact (table.atoms entry member).1 (le_bot_iff.mp bottom)

/-- A label stands for one atom. -/
theorem atom_unique (table : AtomTable α ι) {first second : α} {label : ι}
    (left : (first, label) ∈ table.entries) (right : (second, label) ∈ table.entries) :
    first = second := by
  have same := List.inj_on_of_nodup_map table.labels_nodup left right rfl
  exact congrArg Prod.fst same

/-! ## Inclusion of what is written out -/

section Inclusion

variable (table : AtomTable α ι) [DecidableLE α]

theorem mem_emit (element : α) (label : ι) :
    label ∈ table.emit element ↔ ∃ atom, (atom, label) ∈ table.entries ∧ atom ≤ element := by
  simp only [emit, List.mem_map, List.mem_filter, decide_eq_true_eq]
  constructor
  · rintro ⟨⟨atom, _⟩, ⟨member, below⟩, rfl⟩
    exact ⟨atom, member, below⟩
  · rintro ⟨atom, member, below⟩
    exact ⟨(atom, label), ⟨member, below⟩, rfl⟩

/-- Labels are written out in table order. -/
theorem emit_sublist (element : α) :
    List.Sublist (table.emit element) (table.entries.map Prod.snd) :=
  List.filter_sublist.map Prod.snd

theorem emit_nodup (element : α) : (table.emit element).Nodup :=
  (table.emit_sublist element).nodup table.labels_nodup

/-- The labels of one element are among those of another exactly when its covered part is below
the other. -/
theorem emit_subset_iff (left right : α) :
    table.emit left ⊆ table.emit right ↔ left ⊓ table.mask ≤ right ⊓ table.mask := by
  constructor
  · intro within
    refine le_inf ?_ inf_le_right
    rw [mask, ← join_filter_below left table.entries table.atoms]
    refine join_le ?_
    intro atom member
    obtain ⟨⟨_, label⟩, kept, rfl⟩ := List.mem_map.mp member
    have written : label ∈ table.emit left := List.mem_map_of_mem kept
    obtain ⟨other, otherMember, below⟩ := (table.mem_emit right label).mp (within written)
    rwa [table.atom_unique (List.mem_of_mem_filter kept) otherMember]
  · intro below label written
    obtain ⟨atom, member, atomBelow⟩ := (table.mem_emit left label).mp written
    have covered : atom ≤ left ⊓ table.mask := le_inf atomBelow (table.atom_le_mask member)
    exact (table.mem_emit right label).mpr ⟨atom, member, (covered.trans below).trans inf_le_left⟩

end Inclusion

end AtomTable

end VCIssuer.Library
