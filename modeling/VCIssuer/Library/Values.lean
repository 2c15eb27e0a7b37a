import Mathlib.Data.String.Basic
import VCIssuer.Library.Text

/-!
# JSON and CBOR values

The dynamic values of `serde_json` and `ciborium`.  An object is a list of
members with distinct names; a struct is read from an object by member name or
from an array by position, as derived deserializers do.
-/

namespace VCIssuer.Library

inductive Number where
  | posInt (value : UInt64)
  | negInt (value : Int)
  /-- The bits of a double. -/
  | float (bits : UInt64)
  deriving DecidableEq

inductive Value where
  | null
  | bool (value : Bool)
  | number (value : Number)
  | string (value : String)
  | array (items : List Value)
  | object (members : List (String × Value))

namespace Value

def nat (value : UInt64) : Value :=
  .number (.posInt value)

def get (self : Value) (name : String) : Option Value :=
  match self with
  | .object members => members.lookup name
  | _ => none

def asStr : Value → Option String
  | .string value => some value
  | _ => none

def asU64 : Value → Option UInt64
  | .number (.posInt value) => some value
  | _ => none

def asBool : Value → Option Bool
  | .bool value => some value
  | _ => none

def asArray : Value → Option (List Value)
  | .array items => some items
  | _ => none

/-- `Map::insert` for a name that is not yet a member. -/
def insert (self : Value) (name : String) (value : Value) : Value :=
  match self with
  | .object members => .object (members ++ [(name, value)])
  | other => other

/-- The fields of a struct with the given field names, if the value has the shape of one. -/
def struct (self : Value) (names : List String) : Option (String → Option Value) :=
  match self with
  | .object members => some fun name => members.lookup name
  | .array items =>
      if items.length ≤ names.length then some fun name => (names.zip items).lookup name else none
  | _ => none

/-- The fields of a struct that refuses members of other names. -/
def strictStruct (self : Value) (names : List String) : Option (String → Option Value) :=
  match self with
  | .object members =>
      if members.all fun member => names.contains member.1 then
        some fun name => members.lookup name
      else none
  | other => other.struct names

/-! ## Members in the order of their names -/

/-- Put a member in its place; a member of that name gives way. -/
def insertMember (name : String) (value : Value) : List (String × Value) → List (String × Value)
  | [] => [(name, value)]
  | (other, kept) :: rest =>
      if name < other then (name, value) :: (other, kept) :: rest
      else if name = other then (name, value) :: rest
      else (other, kept) :: insertMember name value rest

def fromMembers (members : List (String × Value)) : List (String × Value) :=
  members.foldl (fun sorted member => insertMember member.1 member.2 sorted) []

mutual

/-- The value with the members of every object in order. -/
def canonical : Value → Value
  | .array items => .array (canonicalItems items)
  | .object members => .object (fromMembers (canonicalMembers members))
  | other => other

def canonicalItems : List Value → List Value
  | [] => []
  | item :: items => canonical item :: canonicalItems items

def canonicalMembers : List (String × Value) → List (String × Value)
  | [] => []
  | (name, value) :: members => (name, canonical value) :: canonicalMembers members

end

@[simp]
theorem canonical_null : canonical .null = .null := rfl

@[simp]
theorem canonical_bool (value : Bool) : canonical (.bool value) = .bool value := rfl

@[simp]
theorem canonical_number (value : Number) : canonical (.number value) = .number value := rfl

@[simp]
theorem canonical_string (text : String) : canonical (.string text) = .string text := rfl

theorem canonicalItems_eq (items : List Value) : canonicalItems items = items.map canonical := by
  induction items with
  | nil => rfl
  | cons item items carried => rw [canonicalItems, carried, List.map_cons]

theorem canonicalMembers_eq (members : List (String × Value)) :
    canonicalMembers members = members.map fun member => (member.1, member.2.canonical) := by
  induction members with
  | nil => rfl
  | cons member members carried => rw [canonicalMembers, carried, List.map_cons]

theorem lookup_member (name : String) (member : String × Value)
    (members : List (String × Value)) :
    (member :: members).lookup name =
      if name = member.1 then some member.2 else members.lookup name := by
  by_cases same : name = member.1
  · rw [List.lookup_cons, if_pos same, beq_iff_eq.mpr same]
  · rw [List.lookup_cons, if_neg same, beq_eq_false_iff_ne.mpr same]

theorem lookup_insertMember (name other : String) (value : Value)
    (members : List (String × Value)) :
    (insertMember name value members).lookup other =
      if other = name then some value else members.lookup other := by
  induction members with
  | nil => exact lookup_member other (name, value) []
  | cons first rest carried =>
      rw [insertMember]
      split
      case isTrue => rw [lookup_member]
      case isFalse =>
        split
        case isTrue same =>
          rw [lookup_member, lookup_member]
          by_cases isName : other = name <;> simp [isName, ← same]
        case isFalse differs =>
          rw [lookup_member, carried, lookup_member]
          by_cases isName : other = name
          · simp [isName, differs]
          · simp [isName]

theorem mem_insertMember {name : String} {value : Value} {members : List (String × Value)}
    {member : String × Value} (found : member ∈ insertMember name value members) :
    member = (name, value) ∨ member ∈ members := by
  induction members with
  | nil => exact .inl (List.mem_singleton.mp found)
  | cons first rest carried =>
      rw [insertMember] at found
      split at found
      · exact (List.mem_cons.mp found).imp id id
      · split at found
        · exact (List.mem_cons.mp found).imp id (.tail _)
        · rcases List.mem_cons.mp found with rfl | later
          · exact .inr (.head _)
          · exact (carried later).imp id (.tail _)

/-- The names are in order, and none occurs twice. -/
def Ordered (members : List (String × Value)) : Prop :=
  members.Pairwise (·.1 < ·.1)

theorem Ordered.insertMember {members : List (String × Value)} (ordered : Ordered members)
    (name : String) (value : Value) : Ordered (insertMember name value members) := by
  induction members with
  | nil => exact List.pairwise_singleton _ _
  | cons first rest carried =>
      obtain ⟨below, later⟩ := List.pairwise_cons.mp ordered
      rw [Value.insertMember]
      split
      case isTrue before =>
        refine List.pairwise_cons.mpr ⟨fun member found => ?_, ordered⟩
        rcases List.mem_cons.mp found with rfl | found
        · exact before
        · exact before.trans (below member found)
      case isFalse notBefore =>
        split
        case isTrue same =>
          subst same
          exact List.pairwise_cons.mpr ⟨below, later⟩
        case isFalse differs =>
          refine List.pairwise_cons.mpr ⟨fun member found => ?_, carried later⟩
          rcases mem_insertMember found with rfl | found
          · exact lt_of_le_of_ne (not_lt.mp notBefore) (Ne.symm differs)
          · exact below member found

section Fold

variable (members sorted : List (String × Value))

theorem ordered_foldl (ordered : Ordered sorted) :
    Ordered (members.foldl (fun kept member => insertMember member.1 member.2 kept) sorted) := by
  induction members generalizing sorted with
  | nil => exact ordered
  | cons member rest carried => exact carried _ (ordered.insertMember _ _)

theorem ordered_fromMembers : Ordered (fromMembers members) :=
  ordered_foldl members [] List.Pairwise.nil

theorem mem_foldl {member : String × Value}
    (found : member ∈
      members.foldl (fun kept member => insertMember member.1 member.2 kept) sorted) :
    member ∈ members ∨ member ∈ sorted := by
  induction members generalizing sorted with
  | nil => exact .inr found
  | cons first rest carried =>
      rcases carried _ found with later | inserted
      · exact .inl (.tail _ later)
      · rcases mem_insertMember inserted with rfl | kept
        · exact .inl (.head _)
        · exact .inr kept

theorem mem_of_mem_fromMembers {member : String × Value} (found : member ∈ fromMembers members) :
    member ∈ members :=
  (mem_foldl members [] found).resolve_right List.not_mem_nil

theorem insertMember_last {name : String} {value : Value}
    (above : ∀ member ∈ sorted, member.1 < name) :
    insertMember name value sorted = sorted ++ [(name, value)] := by
  induction sorted with
  | nil => rfl
  | cons first rest carried =>
      have before := above first (.head _)
      rw [insertMember, if_neg before.asymm, if_neg before.ne',
        carried fun member found => above member (.tail _ found), List.cons_append]

/-- Members that are in order already stay as they are. -/
theorem foldl_of_ordered (ordered : Ordered (sorted ++ members)) :
    members.foldl (fun kept member => insertMember member.1 member.2 kept) sorted =
      sorted ++ members := by
  induction members generalizing sorted with
  | nil => exact (List.append_nil _).symm
  | cons member rest carried =>
      have above : ∀ kept ∈ sorted, kept.1 < member.1 := fun kept found =>
        (List.pairwise_append.mp ordered).2.2 kept found member (.head _)
      rw [List.foldl_cons, insertMember_last sorted above, carried, List.append_assoc,
        List.singleton_append]
      rwa [List.append_assoc, List.singleton_append]

theorem fromMembers_of_ordered (ordered : Ordered members) : fromMembers members = members :=
  foldl_of_ordered members [] ordered

theorem lookup_foldl (distinct : (members.map Prod.fst).Nodup) (name : String) :
    (members.foldl (fun kept member => insertMember member.1 member.2 kept) sorted).lookup name =
      (members.lookup name).or (sorted.lookup name) := by
  induction members generalizing sorted with
  | nil => rfl
  | cons member rest carried =>
      obtain ⟨absent, others⟩ := List.nodup_cons.mp distinct
      rw [List.foldl_cons, carried _ others, lookup_insertMember, lookup_member]
      by_cases same : name = member.1
      · have none : rest.lookup name = none := by
          rw [List.lookup_eq_none_iff]
          intro other found
          rw [same, bne_iff_ne]
          exact fun equal => absent (equal ▸ List.mem_map_of_mem found)
        rw [none, if_pos same, if_pos same]
        rfl
      · rw [if_neg same, if_neg same]

theorem lookup_fromMembers (distinct : (members.map Prod.fst).Nodup) (name : String) :
    (fromMembers members).lookup name = members.lookup name := by
  rw [fromMembers, lookup_foldl members [] distinct, List.lookup_nil, Option.or_none]

end Fold

theorem lookup_canonicalMembers (members : List (String × Value)) (name : String) :
    (canonicalMembers members).lookup name = (members.lookup name).map canonical := by
  induction members with
  | nil => rfl
  | cons member rest carried =>
      rw [canonicalMembers, lookup_member, lookup_member, carried]
      split <;> rfl

theorem map_fst_canonicalMembers (members : List (String × Value)) :
    (canonicalMembers members).map Prod.fst = members.map Prod.fst := by
  rw [canonicalMembers_eq, List.map_map]
  rfl

/-- Members keep their values, up to the order inside them. -/
theorem get_canonical {members : List (String × Value)}
    (distinct : (members.map Prod.fst).Nodup) (name : String) :
    (canonical (.object members)).get name = ((Value.object members).get name).map canonical := by
  have names : ((canonicalMembers members).map Prod.fst).Nodup := by
    rwa [map_fst_canonicalMembers]
  exact (lookup_fromMembers _ names name).trans (lookup_canonicalMembers members name)

/-- The members of a written struct, whatever order they come back in. -/
theorem struct_canonical {members : List (String × Value)}
    (distinct : (members.map Prod.fst).Nodup) (names : List String) :
    ((Value.object members).canonical).struct names =
      some fun name => (members.lookup name).map canonical := by
  have lookups := fun name => get_canonical distinct name
  simp only [canonical, struct, Option.some.injEq]
  funext name
  exact lookups name

end Value

/-- One field of a struct is read, and the others after it. -/
theorem bind_of_eq_some {α β : Type} {found : Option α} {next : α → Option β}
    {result : β} (value : α) (first : found = some value) (second : next value = some result) :
    (found >>= next) = some result :=
  Option.bind_eq_some_iff.mpr ⟨value, first, second⟩

/-- A list is read exactly when each of its items is. -/
theorem mapM_eq_some_iff_forall₂ {α β : Type} {read : α → Option β} {xs : List α} {ys : List β} :
    xs.mapM read = some ys ↔ List.Forall₂ (fun x y => read x = some y) xs ys := by
  induction xs generalizing ys with
  | nil => simp [eq_comm]
  | cons x xs carried =>
      rw [List.mapM_cons, List.forall₂_cons_left_iff]
      simp only [Option.pure_def, Option.bind_eq_bind, Option.bind_eq_some_iff, carried,
        Option.some.injEq]
      constructor
      · rintro ⟨y, read, rest, each, rfl⟩
        exact ⟨y, rest, read, each, rfl⟩
      · rintro ⟨y, rest, read, each, rfl⟩
        exact ⟨y, read, rest, each, rfl⟩

theorem exists_mapM_eq_some {α β : Type} {read : α → Option β} {xs : List α}
    (each : ∀ x ∈ xs, ∃ y, read x = some y) : ∃ ys, xs.mapM read = some ys := by
  induction xs with
  | nil => exact ⟨[], rfl⟩
  | cons x xs carried =>
      obtain ⟨y, first⟩ := each x (.head _)
      obtain ⟨ys, rest⟩ := carried fun other member => each other (.tail _ member)
      exact ⟨y :: ys, mapM_eq_some_iff_forall₂.mpr
        (.cons first (mapM_eq_some_iff_forall₂.mp rest))⟩

/-- Values without floating-point numbers, nested at most so deep, in which no object has two
members of one name. -/
inductive PlainJson : Nat → Value → Prop
  | null {depth : Nat} : PlainJson depth .null
  | bool {depth : Nat} {value : Bool} : PlainJson depth (.bool value)
  | natural {depth : Nat} {value : UInt64} : PlainJson depth (.number (.posInt value))
  | negative {depth : Nat} {value : Int} (low : -2 ^ 63 ≤ value) (high : value < 0) :
      PlainJson depth (.number (.negInt value))
  | string {depth : Nat} {value : String} : PlainJson depth (.string value)
  | array {depth : Nat} {items : List Value} (plain : ∀ item ∈ items, PlainJson depth item) :
      PlainJson (depth + 1) (.array items)
  | object {depth : Nat} {members : List (String × Value)}
      (distinct : (members.map Prod.fst).Nodup)
      (plain : ∀ member ∈ members, PlainJson depth member.2) :
      PlainJson (depth + 1) (.object members)

theorem PlainJson.mono {depth deeper : Nat} {value : Value} (plain : PlainJson depth value)
    (le : depth ≤ deeper) : PlainJson deeper value := by
  induction plain generalizing deeper with
  | null => exact .null
  | bool => exact .bool
  | natural => exact .natural
  | negative low high => exact .negative low high
  | string => exact .string
  | array _ carried =>
      obtain ⟨deeper, rfl⟩ := Nat.exists_eq_add_of_lt le
      exact .array fun item member => carried item member (by omega)
  | object distinct _ carried =>
      obtain ⟨deeper, rfl⟩ := Nat.exists_eq_add_of_lt le
      exact .object distinct fun member found => carried member found (by omega)

/-- Members are found in the canonical form as they are found in the value. -/
theorem PlainJson.get_canonical {depth : Nat} {value : Value} (plain : PlainJson depth value)
    (name : String) : value.canonical.get name = (value.get name).map Value.canonical := by
  cases plain with
  | object distinct _ => exact Value.get_canonical distinct name
  | _ => simp [Value.canonical, Value.get]

/-- Objects whose members have different names out of a list, and plain values. -/
def PlainObject (depth : Nat) (names : List String) (value : Value) : Prop :=
  ∃ members, value = .object members ∧ (members.map Prod.fst).Nodup ∧
    ∀ member ∈ members, member.1 ∈ names ∧ PlainJson depth member.2

namespace PlainObject

variable {depth : Nat} {names more : List String} {value inserted : Value} {name : String}

theorem plain (object : PlainObject depth names value) : PlainJson (depth + 1) value := by
  obtain ⟨members, rfl, distinct, each⟩ := object
  exact .object distinct fun member found => (each member found).2

theorem mono (object : PlainObject depth names value) (subset : names ⊆ more) :
    PlainObject depth more value := by
  obtain ⟨members, rfl, distinct, each⟩ := object
  exact ⟨members, rfl, distinct, fun member found =>
    ⟨subset (each member found).1, (each member found).2⟩⟩

theorem insert (object : PlainObject depth names value) (unnamed : name ∉ names)
    (plain : PlainJson depth inserted) :
    PlainObject depth (name :: names) (value.insert name inserted) := by
  obtain ⟨members, rfl, distinct, each⟩ := object
  refine ⟨members ++ [(name, inserted)], rfl, ?_, fun member found => ?_⟩
  · rw [List.map_append, List.map_singleton, ← List.concat_eq_append]
    refine distinct.concat fun named => ?_
    obtain ⟨member, found, rfl⟩ := List.mem_map.mp named
    exact unnamed (each member found).1
  · rcases List.mem_append.mp found with before | last
    · exact ⟨.tail _ (each member before).1, (each member before).2⟩
    · cases List.mem_singleton.mp last
      exact ⟨.head _, plain⟩

end PlainObject

/-- An insertion is not seen under other names. -/
theorem Value.get_insert_ne {value inserted : Value} {name other : String}
    (differ : other ≠ name) : (value.insert name inserted).get other = value.get other := by
  cases value with
  | object members =>
      change (members ++ [(name, inserted)]).lookup other = members.lookup other
      rw [List.lookup_append, Value.lookup_member, if_neg differ, List.lookup_nil, Option.or_none]
  | _ => rfl

theorem lookup_eq_some_of_mem {α : Type} {entries : List (String × α)} {key : String} {value : α}
    (distinct : (entries.map Prod.fst).Nodup) (found : (key, value) ∈ entries) :
    entries.lookup key = some value := by
  obtain ⟨before, after, rfl⟩ := List.append_of_mem found
  refine List.lookup_eq_some_iff.mpr ⟨before, after, rfl, fun entry earlier => ?_⟩
  rw [List.map_append] at distinct
  have apart := List.disjoint_of_nodup_append distinct (List.mem_map_of_mem earlier)
  rw [bne_iff_ne]
  rintro rfl
  exact apart (.head _)

inductive CborValue where
  | integer (value : Int)
  | bytes (value : Bytes)
  | text (value : String)
  | array (items : List CborValue)
  | map (entries : List (CborValue × CborValue))
  | tag (number : UInt64) (value : CborValue)
  | bool (value : Bool)
  | null
  /-- The bits of a double. -/
  | float (bits : UInt64)

namespace CborValue

def asBytes : CborValue → Option Bytes
  | .bytes value => some value
  | _ => none

def asArray : CborValue → Option (List CborValue)
  | .array items => some items
  | _ => none

def asMap : CborValue → Option (List (CborValue × CborValue))
  | .map entries => some entries
  | _ => none

/-- The first entry under a text key. -/
def get : List (CborValue × CborValue) → String → Option CborValue
  | [], _ => none
  | (.text name, value) :: rest, key => if name = key then some value else get rest key
  | _ :: rest, key => get rest key

end CborValue

/-- Values without floating-point numbers, nested at most so deep.  Integers have the range of the
format, and no tag is one of the two that spell an integer with bytes. -/
inductive PlainCbor : Nat → CborValue → Prop
  | integer {depth : Nat} {value : Int} (low : -2 ^ 64 ≤ value) (high : value < 2 ^ 64) :
      PlainCbor depth (.integer value)
  | bytes {depth : Nat} {value : Bytes} : PlainCbor depth (.bytes value)
  | text {depth : Nat} {value : String} : PlainCbor depth (.text value)
  | bool {depth : Nat} {value : Bool} : PlainCbor depth (.bool value)
  | null {depth : Nat} : PlainCbor depth .null
  | array {depth : Nat} {items : List CborValue} (plain : ∀ item ∈ items, PlainCbor depth item) :
      PlainCbor (depth + 1) (.array items)
  | map {depth : Nat} {entries : List (CborValue × CborValue)}
      (names : ∀ entry ∈ entries, PlainCbor depth entry.1)
      (values : ∀ entry ∈ entries, PlainCbor depth entry.2) :
      PlainCbor (depth + 1) (.map entries)
  | tag {depth : Nat} {number : UInt64} {value : CborValue} (other : number ≠ 2 ∧ number ≠ 3)
      (plain : PlainCbor depth value) : PlainCbor (depth + 1) (.tag number value)

theorem PlainCbor.mono {depth deeper : Nat} {value : CborValue} (plain : PlainCbor depth value)
    (le : depth ≤ deeper) : PlainCbor deeper value := by
  induction plain generalizing deeper with
  | integer low high => exact .integer low high
  | bytes => exact .bytes
  | text => exact .text
  | bool => exact .bool
  | null => exact .null
  | array _ carried =>
      obtain ⟨deeper, rfl⟩ := Nat.exists_eq_add_of_lt le
      exact .array fun item member => carried item member (by omega)
  | map _ _ names values =>
      obtain ⟨deeper, rfl⟩ := Nat.exists_eq_add_of_lt le
      exact .map (fun entry member => names entry member (by omega))
        fun entry member => values entry member (by omega)
  | tag other _ carried =>
      obtain ⟨deeper, rfl⟩ := Nat.exists_eq_add_of_lt le
      exact .tag other (carried (by omega))

end VCIssuer.Library
