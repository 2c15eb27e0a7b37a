import Mathlib.Data.List.DropRight
import Mathlib.Data.UInt

/-!
# Text, byte strings and saturating words

Strings are read as lists of characters and written back.  Lengths and hashed
contents are those of the UTF-8 encoding.  Integers are parsed as Rust's `parse`
does: an optional sign where the type has one, at least one decimal digit, and
no overflow.
-/

namespace VCIssuer.Library

abbrev Bytes := List UInt8

namespace Text

/-- What holds of every character of a text is decided along the text, and not over all
characters there are. -/
instance (priority := 2000) decidableAllChars (chars : List Char) (p : Char → Prop)
    [DecidablePred p] : Decidable (∀ c ∈ chars, p c) :=
  List.decidableBAll p chars

/-! ## Bytes -/

def asBytes (text : String) : Bytes :=
  text.toList.flatMap String.utf8EncodeChar

/-- The length in bytes. -/
def len (text : String) : Nat :=
  (asBytes text).length

@[simp]
theorem asBytes_append (front back : String) :
    asBytes (front ++ back) = asBytes front ++ asBytes back := by
  simp [asBytes]

@[simp]
theorem len_append (front back : String) : len (front ++ back) = len front + len back := by
  simp [len]

theorem len_ofList_nil : len (String.ofList []) = 0 := rfl

@[simp]
theorem len_ofList_cons (c : Char) (rest : List Char) :
    len (String.ofList (c :: rest)) = c.utf8Size + len (String.ofList rest) := by
  simp [len, asBytes]

@[simp]
theorem len_ofList_append (front back : List Char) :
    len (String.ofList (front ++ back)) = len (String.ofList front) + len (String.ofList back) := by
  simp [len, asBytes]

/-- Text of one-byte characters is as long as the list of them. -/
theorem len_ofList_of_ascii {chars : List Char} (ascii : ∀ c ∈ chars, c.utf8Size = 1) :
    len (String.ofList chars) = chars.length := by
  induction chars with
  | nil => rfl
  | cons c rest carried =>
      rw [len_ofList_cons, ascii c (.head _), carried fun other member => ascii other (.tail _ member),
        List.length_cons, Nat.add_comm]

theorem len_ofList_le (chars : List Char) : len (String.ofList chars) ≤ 4 * chars.length := by
  induction chars with
  | nil => exact Nat.le_refl 0
  | cons c rest carried =>
      have width := c.utf8Size_le_four
      rw [len_ofList_cons, List.length_cons]
      omega

/-- The text that a byte string encodes in UTF-8. -/
def ofBytes (bytes : Bytes) : Option String :=
  bytes.toByteArray.utf8Decode?.map fun chars => String.ofList chars.toList

@[simp]
theorem ofBytes_asBytes (text : String) : ofBytes (asBytes text) = some text := by
  have decoded : (asBytes text).toByteArray.utf8Decode? = some text.toList.toArray :=
    List.utf8Decode?_utf8Encode
  rw [ofBytes, decoded, Option.map_some, List.toList_toArray, String.ofList_toList]

theorem asBytes_ne_nil {text : String} (present : text ≠ "") : asBytes text ≠ [] := by
  intro empty
  have read := ofBytes_asBytes text
  rw [empty, ← show asBytes "" = [] from rfl, ofBytes_asBytes] at read
  exact present (Option.some.inj read).symm

/-! ## Splitting and trimming -/

def split (separator : Char) (text : String) : List String :=
  (text.toList.splitOn separator).map String.ofList

theorem split_intercalate (separator : Char) {parts : List String} (present : parts ≠ [])
    (absent : ∀ part ∈ parts, separator ∉ part.toList) :
    split separator ((String.singleton separator).intercalate parts) = parts := by
  have chars : parts.map String.toList ≠ [] := by simpa using present
  rw [split, String.toList_intercalate, String.toList_singleton, List.splitOn_intercalate]
  · simp
  · simpa using absent
  · exact chars

/-- The length of joined text, when the parts between the first and the last are bounded. -/
theorem len_intercalate_le {separator last : String} {bound : Nat} {between : List String}
    (each : ∀ part ∈ between, len part + len separator ≤ bound) (first : String) :
    len (separator.intercalate (first :: between ++ [last])) ≤
      len first + between.length * bound + len separator + len last := by
  induction between generalizing first with
  | nil => simp [String.intercalate_cons_of_ne_nil]
  | cons second rest carried =>
      have joined := carried (fun part member => each part (.tail _ member)) second
      have here := each second (.head _)
      rw [List.cons_append, List.cons_append,
        String.intercalate_cons_of_ne_nil (List.cons_ne_nil _ _), len_append, len_append,
        List.length_cons, Nat.succ_mul, ← List.cons_append]
      omega

/-- Two texts joined at a separator are told apart, unless one front is the other with a separator
and a text behind it, and that text and a separator stand in front of the other back. -/
theorem joined_eq_iff (separator : Char) (front back front' back' : String) :
    front ++ String.singleton separator ++ back = front' ++ String.singleton separator ++ back' ↔
      (front = front' ∧ back = back') ∨
        (∃ middle, front' = front ++ String.singleton separator ++ middle ∧
          back = middle ++ String.singleton separator ++ back') ∨
        ∃ middle, front = front' ++ String.singleton separator ++ middle ∧
          back' = middle ++ String.singleton separator ++ back := by
  simp only [← String.toList_inj, String.toList_append, String.toList_singleton,
    List.append_assoc, List.singleton_append]
  constructor
  · intro same
    rcases List.append_eq_append_iff.mp same with ⟨rest, fronts, backs⟩ | ⟨rest, fronts, backs⟩
    · cases rest with
      | nil => exact .inl ⟨by simpa using fronts.symm, by simpa using backs⟩
      | cons c middle =>
          obtain ⟨rfl, backs⟩ := List.cons.inj backs
          exact .inr (.inl ⟨String.ofList middle, by simpa using fronts, by simpa using backs⟩)
    · cases rest with
      | nil => exact .inl ⟨by simpa using fronts, by simpa using backs.symm⟩
      | cons c middle =>
          obtain ⟨rfl, backs⟩ := List.cons.inj backs
          exact .inr (.inr ⟨String.ofList middle, by simpa using fronts, by simpa using backs⟩)
  · rintro (⟨fronts, backs⟩ | ⟨middle, fronts, backs⟩ | ⟨middle, fronts, backs⟩)
    · rw [fronts, backs]
    · rw [fronts, backs, List.append_assoc, List.cons_append]
    · rw [fronts, backs, List.append_assoc, List.cons_append]

def isAsciiWhitespace (c : Char) : Bool :=
  c == ' ' || c == '\t' || c == '\n' || c == '\x0C' || c == '\r'

def splitAsciiWhitespace (text : String) : List String :=
  ((text.toList.splitOnP isAsciiWhitespace).filter (! ·.isEmpty)).map String.ofList

/-- Text without whitespace is a single item. -/
theorem splitAsciiWhitespace_of_closed {text : String} (present : text ≠ "")
    (closed : ∀ c ∈ text.toList, isAsciiWhitespace c = false) :
    splitAsciiWhitespace text = [text] := by
  have chars : text.toList ≠ [] := fun empty => present (String.toList_eq_nil_iff.mp empty)
  rw [splitAsciiWhitespace, List.splitOnP_eq_singleton closed,
    List.filter_cons_of_pos (by simpa using chars), List.filter_nil, List.map_singleton,
    String.ofList_toList]

def trimEndMatches (c : Char) (text : String) : String :=
  String.ofList (text.toList.rdropWhile (· == c))

theorem trimEndMatches_idempotent (c : Char) (text : String) :
    trimEndMatches c (trimEndMatches c text) = trimEndMatches c text := by
  simp only [trimEndMatches, String.toList_ofList, List.rdropWhile_idempotent]

/-- The Unicode property `White_Space`. -/
def isWhitespace (c : Char) : Bool :=
  let point := c.toNat
  (9 ≤ point && point ≤ 13) || point == 0x20 || point == 0x85 || point == 0xA0 ||
    point == 0x1680 || (0x2000 ≤ point && point ≤ 0x200A) || point == 0x2028 ||
    point == 0x2029 || point == 0x202F || point == 0x205F || point == 0x3000

def trim (text : String) : String :=
  String.ofList ((text.toList.dropWhile isWhitespace).rdropWhile isWhitespace)

def contains (text part : String) : Bool :=
  decide (part.toList <:+: text.toList)

def stripPrefix (start text : String) : Option String :=
  (text.toList.dropPrefix? start.toList).map String.ofList

theorem stripPrefix_append (start rest : String) :
    stripPrefix start (start ++ rest) = some rest := by
  rw [stripPrefix, String.toList_append, List.dropPrefix?_append_of_beq _ (beq_self_eq_true _),
    Option.map_some, String.ofList_toList]

/-- What follows the last separator, and the whole text if there is none. -/
def afterLast (separator : Char) (text : String) : String :=
  String.ofList (text.toList.rtakeWhile (· != separator))

/-! ## Numbers -/

def digit? (c : Char) : Option Nat :=
  if '0' ≤ c ∧ c ≤ '9' then some (c.toNat - '0'.toNat) else none

/-- The value of a non-empty run of decimal digits. -/
def parseDigits : List Char → Option Nat
  | [] => none
  | chars => chars.foldlM (fun value c => (digit? c).map (10 * value + ·)) 0

def parseUnsigned (bound : Nat) (text : String) : Option Nat :=
  let digits :=
    match text.toList with
    | '+' :: rest => rest
    | chars => chars
  (parseDigits digits).filter (· < bound)

def parseU8 (text : String) : Option Nat :=
  parseUnsigned 256 text

def parseI32 (text : String) : Option Int :=
  match text.toList with
  | '-' :: rest => ((parseDigits rest).filter (· ≤ 2147483648)).map fun value => -(value : Int)
  | _ => (parseUnsigned 2147483648 text).map Int.ofNat

def hexDigit (value : Nat) : Char :=
  if value < 10 then Char.ofNat ('0'.toNat + value) else Char.ofNat ('a'.toNat + (value - 10))

/-- Lower-case hexadecimal digits, padded with zeros to a fixed width. -/
def lowerHex : Nat → Nat → List Char
  | 0, _ => []
  | width + 1, value => lowerHex width (value / 16) ++ [hexDigit (value % 16)]

/-- A decimal number padded with zeros to a fixed width. -/
def padDecimal (width value : Nat) : String :=
  let digits := (toString value).toList
  String.ofList (List.replicate (width - digits.length) '0' ++ digits)

theorem len_padDecimal_le {width value digits : Nat} (positive : 0 < digits)
    (small : value < 10 ^ digits) : len (padDecimal width value) ≤ 4 * (width + digits) := by
  have length : (toString value).toList.length ≤ digits := by
    rw [String.length_toList]
    exact (Nat.length_repr_le_iff positive).mpr small
  refine (len_ofList_le _).trans ?_
  rw [List.length_append, List.length_replicate]
  omega

end Text

/-! ## Saturating words -/

def saturatingAdd (a b : UInt64) : UInt64 :=
  if a.toNat + b.toNat < UInt64.size then a + b else UInt64.ofNat (UInt64.size - 1)

def saturatingSub (a b : UInt64) : UInt64 :=
  if b ≤ a then a - b else 0

theorem toNat_saturatingAdd (a b : UInt64) :
    (saturatingAdd a b).toNat = min (a.toNat + b.toNat) (UInt64.size - 1) := by
  unfold saturatingAdd
  split
  case isTrue fits =>
    rw [UInt64.toNat_add, Nat.mod_eq_of_lt fits, Nat.min_eq_left (by omega)]
  case isFalse overflow =>
    rw [Nat.min_eq_right (by omega)]
    rfl

theorem toNat_saturatingSub (a b : UInt64) :
    (saturatingSub a b).toNat = a.toNat - b.toNat := by
  unfold saturatingSub
  split
  case isTrue le => exact UInt64.toNat_sub_of_le a b le
  case isFalse lt =>
    rw [UInt64.le_iff_toNat_le] at lt
    change 0 = _
    omega

theorem saturatingSub_self (a : UInt64) : saturatingSub a a = 0 := by
  rw [← UInt64.toNat_inj, toNat_saturatingSub, Nat.sub_self]
  rfl

theorem le_saturatingAdd (a b : UInt64) : a ≤ saturatingAdd a b := by
  rw [UInt64.le_iff_toNat_le, toNat_saturatingAdd]
  exact Nat.le_min.mpr ⟨Nat.le_add_right _ _, Nat.le_sub_one_of_lt a.toNat_lt⟩

end VCIssuer.Library
