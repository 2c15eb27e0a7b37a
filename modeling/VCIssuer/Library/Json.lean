import VCIssuer.Library.Values

/-!
# JSON text

Writing a value spells the members of every object in the order of their names,
without blanks.  Reading follows the nesting of arrays and objects to a fixed
depth, so that it is a recursion on that depth; numbers that are not machine
integers are not read.
-/

namespace VCIssuer.Library.Json

/-! ## Writing -/

/-- The characters with a short escape, and the letters of their escapes. -/
def shortEscapes : List (Char × Char) :=
  [ ('\x22', '\x22'), ('\\', '\\'), ('\x08', 'b'), ('\x0c', 'f'), ('\n', 'n'), ('\r', 'r'),
    ('\t', 't') ]

/-- A character inside a string. -/
def escape (c : Char) : List Char :=
  match shortEscapes.lookup c with
  | some letter => ['\\', letter]
  | none =>
      if c.toNat < 32 then
        ['\\', 'u', '0', '0', Text.hexDigit (c.toNat / 16), Text.hexDigit (c.toNat % 16)]
      else [c]

def writeString (text : String) : List Char :=
  '\x22' :: text.toList.flatMap escape ++ ['\x22']

/-- Doubles are left out. -/
def writeNumber : Number → List Char
  | .posInt value => Nat.toDigits 10 value.toNat
  | .negInt value => '-' :: Nat.toDigits 10 value.natAbs
  | .float _ => ['n', 'u', 'l', 'l']

mutual

def write : Value → List Char
  | .null => ['n', 'u', 'l', 'l']
  | .bool true => ['t', 'r', 'u', 'e']
  | .bool false => ['f', 'a', 'l', 's', 'e']
  | .number value => writeNumber value
  | .string text => writeString text
  | .array [] => ['[', ']']
  | .array (item :: items) => '[' :: write item ++ writeItems items
  | .object [] => ['\x7b', '\x7d']
  | .object ((name, value) :: members) =>
      '\x7b' :: writeString name ++ ':' :: write value ++ writeMembers members

/-- The items behind the first one, and the end of the array. -/
def writeItems : List Value → List Char
  | [] => [']']
  | item :: items => ',' :: write item ++ writeItems items

/-- The members behind the first one, and the end of the object. -/
def writeMembers : List (String × Value) → List Char
  | [] => ['\x7d']
  | (name, value) :: members =>
      ',' :: writeString name ++ ':' :: write value ++ writeMembers members

end

/-! ## Reading strings and numbers -/

def hexValue (c : Char) : Option Nat :=
  if '0' ≤ c ∧ c ≤ '9' then some (c.toNat - 48)
  else if 'a' ≤ c ∧ c ≤ 'f' then some (c.toNat - 87)
  else if 'A' ≤ c ∧ c ≤ 'F' then some (c.toNat - 55)
  else none

/-- The character of a four-digit escape; the two halves of a surrogate pair are not read. -/
def unicodeEscape (a b c d : Char) : Option Char := do
  let a ← hexValue a
  let b ← hexValue b
  let c ← hexValue c
  let d ← hexValue d
  let unit := ((a * 16 + b) * 16 + c) * 16 + d
  if 0xD800 ≤ unit ∧ unit ≤ 0xDFFF then none else some (Char.ofNat unit)

def unescape (letter : Char) : Option Char :=
  if letter = '/' then some '/'
  else (shortEscapes.find? fun entry => entry.2 == letter).map Prod.fst

def prepend (c : Char) (read : List Char × List Char) : List Char × List Char :=
  (c :: read.1, read.2)

/-- The characters of a string up to the closing quotation mark, and what follows it. -/
def readChars : List Char → Option (List Char × List Char)
  | [] => none
  | first :: rest =>
      if first = '\x22' then some ([], rest)
      else if first = '\\' then
        match rest with
        | [] => none
        | 'u' :: a :: b :: c :: d :: behind =>
            (unicodeEscape a b c d).bind fun plain => (readChars behind).map (prepend plain)
        | letter :: behind =>
            (unescape letter).bind fun plain => (readChars behind).map (prepend plain)
      else if first.toNat < 32 then none
      else (readChars rest).map (prepend first)

/-- A natural number in its shortest spelling, without a fraction or an exponent. -/
def readNatural (text : List Char) : Option (Nat × List Char) :=
  let digits := text.takeWhile Char.isDigit
  let rest := text.dropWhile Char.isDigit
  let value := Nat.ofDigitChars 10 digits 0
  if Nat.toDigits 10 value = digits ∧ rest.head? ∉ [some '.', some 'e', some 'E'] then
    some (value, rest)
  else none

def readNumber : List Char → Option (Value × List Char)
  | '-' :: rest => do
      let (value, behind) ← readNatural rest
      if 0 < value ∧ value ≤ 2 ^ 63 then
        some (.number (.negInt (-value)), behind)
      else none
  | text => do
      let (value, behind) ← readNatural text
      if value < 2 ^ 64 then some (.number (.posInt (UInt64.ofNat value)), behind) else none

/-! ## Reading values -/

def isBlank (c : Char) : Bool :=
  c == ' ' || c == '\t' || c == '\n' || c == '\r'

def skip (text : List Char) : List Char :=
  text.dropWhile isBlank

section Sequences

variable {α : Type} (close : Char) (read : List Char → Option (α × List Char))

/-- What follows an element: the end, or a comma and the next element. -/
def readRest : Nat → List Char → Option (List α × List Char)
  | 0, _ => none
  | fuel + 1, text =>
      match skip text with
      | [] => none
      | c :: rest =>
          if c = close then some ([], rest)
          else if c = ',' then do
            let (element, behind) ← read rest
            let (others, last) ← readRest fuel behind
            return (element :: others, last)
          else none

/-- The elements behind an opening bracket.  Every element but the first takes a comma, so the
length of the text is fuel enough. -/
def readSequence (text : List Char) : Option (List α × List Char) :=
  match skip text with
  | [] => none
  | c :: rest =>
      if c = close then some ([], rest)
      else do
        let (element, behind) ← read (c :: rest)
        let (others, last) ← readRest close read behind.length behind
        return (element :: others, last)

end Sequences

def readMember (read : List Char → Option (Value × List Char)) (text : List Char) :
    Option ((String × Value) × List Char) :=
  match skip text with
  | '\x22' :: rest => do
      let (name, behind) ← readChars rest
      match skip behind with
      | ':' :: rest => do
          let (value, last) ← read rest
          return ((String.ofList name, value), last)
      | _ => none
  | _ => none

def readValue : Nat → List Char → Option (Value × List Char)
  | 0, _ => none
  | depth + 1, text =>
      match skip text with
      | 'n' :: 'u' :: 'l' :: 'l' :: rest => some (.null, rest)
      | 't' :: 'r' :: 'u' :: 'e' :: rest => some (.bool true, rest)
      | 'f' :: 'a' :: 'l' :: 's' :: 'e' :: rest => some (.bool false, rest)
      | '\x22' :: rest => do
          let (chars, behind) ← readChars rest
          return (.string (String.ofList chars), behind)
      | '[' :: rest => do
          let (items, behind) ← readSequence ']' (readValue depth) rest
          return (.array items, behind)
      | '\x7b' :: rest => do
          let (members, behind) ← readSequence '\x7d' (readMember (readValue depth)) rest
          return (.object (Value.fromMembers members), behind)
      | other => readNumber other

/-- The depth to which nested values are followed. -/
def recursionLimit : Nat := 128

def fromSlice (bytes : Bytes) : Option Value := do
  let text ← Text.ofBytes bytes
  let (value, rest) ← readValue recursionLimit text.toList
  if skip rest = [] then some value else none

def toVec (value : Value) : Bytes :=
  Text.asBytes (String.ofList (write value.canonical))

/-! ## Strings and numbers come back -/

theorem unicodeEscape_control {c : Char} (control : c.toNat < 32) :
    unicodeEscape '0' '0' (Text.hexDigit (c.toNat / 16)) (Text.hexDigit (c.toNat % 16)) =
      some c := by
  have all : ∀ n, n < 32 →
      unicodeEscape '0' '0' (Text.hexDigit (n / 16)) (Text.hexDigit (n % 16)) =
        some (Char.ofNat n) := by decide
  rw [all _ control, Char.ofNat_toNat]

theorem shortEscapes_sound : ∀ entry ∈ shortEscapes,
    unescape entry.2 = some entry.1 ∧ entry.2 ≠ 'u' := by decide

theorem mem_of_lookup_eq_some {c letter : Char} (found : shortEscapes.lookup c = some letter) :
    (c, letter) ∈ shortEscapes := by
  obtain ⟨before, after, same, _⟩ := List.lookup_eq_some_iff.mp found
  rw [same]
  exact List.mem_append_right _ (.head _)

theorem readChars_escape (c : Char) (rest : List Char) :
    readChars (escape c ++ rest) = (readChars rest).map (prepend c) := by
  unfold escape
  cases short : shortEscapes.lookup c with
  | some letter =>
      obtain ⟨plain, notUnicode⟩ := shortEscapes_sound _ (mem_of_lookup_eq_some short)
      simp [readChars, plain, notUnicode]
  | none =>
      by_cases control : c.toNat < 32
      · simp [readChars, control, unicodeEscape_control control]
      · have quote : c ≠ '\x22' := by rintro rfl; cases short
        have backslash : c ≠ '\\' := by rintro rfl; cases short
        simp only [if_neg control, List.singleton_append]
        rw [readChars.eq_def]
        simp [quote, backslash, control]

theorem readChars_writeString (text : String) (rest : List Char) :
    readChars (text.toList.flatMap escape ++ '\x22' :: rest) = some (text.toList, rest) := by
  generalize text.toList = chars
  induction chars with
  | nil =>
      rw [List.flatMap_nil, List.nil_append, readChars.eq_def]
      rfl
  | cons c chars carried =>
      rw [List.flatMap_cons, List.append_assoc, readChars_escape, carried]
      rfl

/-- What may follow a value: nothing, or the punctuation of an array or an object. -/
def Stops (rest : List Char) : Prop :=
  ∀ c ∈ rest.head?, c ∈ [',', ']', '\x7d']

theorem Stops.digits {rest : List Char} (stops : Stops rest) (digits : List Char)
    (all : ∀ c ∈ digits, c.isDigit = true) :
    (digits ++ rest).takeWhile Char.isDigit = digits ∧
      (digits ++ rest).dropWhile Char.isDigit = rest := by
  have first : rest.takeWhile Char.isDigit = [] ∧ rest.dropWhile Char.isDigit = rest := by
    cases rest with
    | nil => exact ⟨rfl, rfl⟩
    | cons c rest =>
        have punctuation : ∀ c ∈ [',', ']', '\x7d'], c.isDigit = false := by decide
        have noDigit := punctuation c (stops c rfl)
        exact ⟨List.takeWhile_cons_of_neg (by simp [noDigit]),
          List.dropWhile_cons_of_neg (by simp [noDigit])⟩
  rw [List.takeWhile_append_of_pos all, List.dropWhile_append_of_pos all, first.1, first.2,
    List.append_nil]
  exact ⟨rfl, rfl⟩

theorem readNatural_toDigits (value : Nat) {rest : List Char} (stops : Stops rest) :
    readNatural (Nat.toDigits 10 value ++ rest) = some (value, rest) := by
  have all : ∀ c ∈ Nat.toDigits 10 value, c.isDigit = true := fun c member =>
    Nat.isDigit_of_mem_toDigits (by decide) (by decide) member
  have behind : rest.head? ∉ [some '.', some 'e', some 'E'] := by
    intro member
    have punctuation : ∀ c ∈ [',', ']', '\x7d'], some c ∉ [some '.', some 'e', some 'E'] := by
      decide
    cases head : rest.head? with
    | none => rw [head] at member; simp at member
    | some c => exact punctuation c (stops c head) (head ▸ member)
  obtain ⟨digits, others⟩ := stops.digits _ all
  rw [readNatural]
  have again : Nat.ofDigitChars 10 (Nat.toDigits 10 value) 0 = value :=
    Nat.ofDigitChars_toDigits (by decide) (by decide)
  rw [digits, others, again, if_pos ⟨rfl, behind⟩]

theorem toDigits_starts (value : Nat) :
    ∃ c tail, Nat.toDigits 10 value = c :: tail ∧ c.isDigit = true := by
  cases spelled : Nat.toDigits 10 value with
  | nil => exact absurd spelled Nat.toDigits_ne_nil
  | cons digit digits =>
      have first : digit ∈ Nat.toDigits 10 value := by
        rw [spelled]
        exact .head _
      exact ⟨digit, digits, rfl, Nat.isDigit_of_mem_toDigits (by decide) (by decide) first⟩

theorem readNumber_posInt (value : UInt64) {rest : List Char} (stops : Stops rest) :
    readNumber (writeNumber (.posInt value) ++ rest) = some (.number (.posInt value), rest) := by
  have read := readNatural_toDigits value.toNat stops
  have notSign : ∀ tail, Nat.toDigits 10 value.toNat ++ rest ≠ '-' :: tail := by
    intro tail same
    obtain ⟨digit, digits, spelled, isDigit⟩ := toDigits_starts value.toNat
    rw [spelled] at same
    cases same
    cases isDigit
  rw [writeNumber, readNumber.eq_def]
  split
  case h_1 tail same => exact absurd same (notSign tail)
  case h_2 => simp [read, value.toNat_lt]

theorem readNumber_negInt {value : Int} (low : -2 ^ 63 ≤ value) (high : value < 0)
    {rest : List Char} (stops : Stops rest) :
    readNumber (writeNumber (.negInt value) ++ rest) = some (.number (.negInt value), rest) := by
  have read := readNatural_toDigits value.natAbs stops
  have bounds : 0 < value.natAbs ∧ value.natAbs ≤ 2 ^ 63 := by omega
  have back : -(value.natAbs : Int) = value := by omega
  rw [writeNumber, List.cons_append, readNumber, read]
  simp only [Option.bind_eq_bind, Option.bind_some, if_pos bounds, back]

/-! ## Values come back -/

theorem skip_of_not_blank {c : Char} (visible : isBlank c = false) (rest : List Char) :
    skip (c :: rest) = c :: rest :=
  List.dropWhile_cons_of_neg (by simp [visible])

section Sequences

variable {α : Type} {close : Char} {read : List Char → Option (α × List Char)}
  {spell : α → List Char} {elements : List α}

/-- The spelling of the elements behind the first one. -/
def spellRest (close : Char) (spell : α → List Char) : List α → List Char
  | [] => [close]
  | element :: elements => ',' :: spell element ++ spellRest close spell elements

theorem length_lt_spellRest (close : Char) (spell : α → List Char) (elements : List α) :
    elements.length < (spellRest close spell elements).length := by
  induction elements with
  | nil => exact Nat.zero_lt_one
  | cons element elements carried =>
      simp only [spellRest, List.cons_append, List.length_cons, List.length_append]
      omega

theorem spellRest_stops (spell : α → List Char) (elements : List α) (rest : List Char)
    (bracket : close = ']' ∨ close = '\x7d') : Stops (spellRest close spell elements ++ rest) := by
  cases elements with
  | nil =>
      rintro c ⟨⟩
      rcases bracket with rfl | rfl <;> decide
  | cons element elements =>
      rintro c ⟨⟩
      decide

theorem readRest_spellRest (bracket : close = ']' ∨ close = '\x7d')
    (reads : ∀ element ∈ elements, ∀ rest, Stops rest →
      read (spell element ++ rest) = some (element, rest))
    {fuel : Nat} (enough : elements.length < fuel) (rest : List Char) :
    readRest close read fuel (spellRest close spell elements ++ rest) = some (elements, rest) := by
  have visible : isBlank close = false ∧ close ≠ ',' := by
    rcases bracket with rfl | rfl <;> decide
  induction elements generalizing fuel with
  | nil =>
      obtain ⟨fuel, rfl⟩ := Nat.exists_eq_succ_of_ne_zero (Nat.ne_zero_of_lt enough)
      simp [spellRest, readRest, skip_of_not_blank visible.1]
  | cons element elements carried =>
      obtain ⟨fuel, rfl⟩ := Nat.exists_eq_succ_of_ne_zero (Nat.ne_zero_of_lt enough)
      have others := carried (fun other member => reads other (.tail _ member))
        (Nat.lt_of_succ_lt_succ enough)
      have first := reads element (.head _) (spellRest close spell elements ++ rest)
        (spellRest_stops spell elements rest bracket)
      have comma : isBlank ',' = false := by decide
      simp only [spellRest, List.cons_append, List.append_assoc, readRest,
        skip_of_not_blank comma, if_neg visible.2.symm, if_true, first, others,
        Option.bind_eq_bind, Option.bind_some, Option.pure_def]

/-- A sequence comes back if its elements do and none starts like the end of the sequence. -/
theorem readSequence_spell (bracket : close = ']' ∨ close = '\x7d') {element : α}
    (reads : ∀ other ∈ element :: elements, ∀ rest, Stops rest →
      read (spell other ++ rest) = some (other, rest))
    {c : Char} {tail : List Char} (starts : spell element = c :: tail)
    (visible : isBlank c = false) (opens : c ≠ close) (rest : List Char) :
    readSequence close read (spell element ++ (spellRest close spell elements ++ rest)) =
      some (element :: elements, rest) := by
  have first := reads element (.head _) _ (spellRest_stops spell elements rest bracket)
  have enough : elements.length < (spellRest close spell elements ++ rest).length := by
    have longer := length_lt_spellRest close spell elements
    rw [List.length_append]
    omega
  have others := readRest_spellRest bracket (fun other member => reads other (.tail _ member))
    enough rest
  rw [starts, List.cons_append] at first ⊢
  simp only [readSequence, skip_of_not_blank visible, if_neg opens, first, others,
    Option.bind_eq_bind, Option.bind_some, Option.pure_def]

end Sequences

theorem writeItems_eq (items : List Value) : writeItems items = spellRest ']' write items := by
  induction items with
  | nil => rfl
  | cons item items carried => rw [writeItems, carried, spellRest]

/-- A member of an object. -/
def writeMember (member : String × Value) : List Char :=
  writeString member.1 ++ ':' :: write member.2

theorem writeMembers_eq (members : List (String × Value)) :
    writeMembers members = spellRest '\x7d' writeMember members := by
  induction members with
  | nil => rfl
  | cons member members carried =>
      rw [writeMembers, carried, spellRest, writeMember]
      simp

/-- Every value starts with a character that is no blank and no closing bracket. -/
theorem write_starts (value : Value) :
    ∃ c tail, write value = c :: tail ∧ isBlank c = false ∧ c ≠ ']' := by
  cases value with
  | null => exact ⟨_, _, rfl, by decide, by decide⟩
  | bool value => cases value <;> exact ⟨_, _, rfl, by decide, by decide⟩
  | number value =>
    cases value with
    | float => exact ⟨_, _, rfl, by decide, by decide⟩
    | negInt => exact ⟨_, _, rfl, by decide, by decide⟩
    | posInt value =>
        obtain ⟨digit, digits, spelled, isDigit⟩ := toDigits_starts value.toNat
        refine ⟨digit, digits, spelled, ?_, ?_⟩
        · rw [Bool.eq_false_iff]
          intro blank
          simp only [isBlank, Bool.or_eq_true, beq_iff_eq] at blank
          rcases blank with ((rfl | rfl) | rfl) | rfl <;> cases isDigit
        · rintro rfl
          cases isDigit
  | string => exact ⟨_, _, rfl, by decide, by decide⟩
  | array items => cases items <;> exact ⟨_, _, rfl, by decide, by decide⟩
  | object members => cases members <;> exact ⟨_, _, rfl, by decide, by decide⟩

theorem readMember_writeMember {read : List Char → Option (Value × List Char)} {name : String}
    {value : Value} {rest : List Char}
    (reads : read (write value ++ rest) = some (value, rest)) :
    readMember read (writeMember (name, value) ++ rest) = some ((name, value), rest) := by
  have quote : isBlank '\x22' = false := by decide
  have colon : isBlank ':' = false := by decide
  have text := readChars_writeString name (':' :: (write value ++ rest))
  simp only [writeMember, writeString, List.cons_append, List.append_assoc, List.nil_append,
    readMember, skip_of_not_blank quote, text, skip_of_not_blank colon, reads,
    Option.bind_eq_bind, Option.bind_some, Option.pure_def, String.ofList_toList]

theorem readValue_array {depth : Nat} {items : List Value}
    (reads : ∀ item ∈ items, ∀ rest, Stops rest →
      readValue depth (write item ++ rest) = some (item, rest)) (rest : List Char) :
    readValue (depth + 1) (write (.array items) ++ rest) = some (.array items, rest) := by
  have bracket : isBlank '[' = false := by decide
  have close : isBlank ']' = false := by decide
  cases items with
  | nil => simp [write, readValue, skip_of_not_blank bracket, readSequence, skip_of_not_blank close]
  | cons item items =>
      obtain ⟨c, tail, starts, visible, opens⟩ := write_starts item
      have sequence := readSequence_spell (.inl rfl) reads starts visible opens rest
      simp only [write, writeItems_eq, List.cons_append, List.append_assoc, readValue,
        skip_of_not_blank bracket, sequence, Option.bind_eq_bind, Option.bind_some,
        Option.pure_def]

theorem readValue_object {depth : Nat} {members : List (String × Value)}
    (ordered : Value.Ordered members)
    (reads : ∀ member ∈ members, ∀ rest, Stops rest →
      readValue depth (write member.2 ++ rest) = some (member.2, rest)) (rest : List Char) :
    readValue (depth + 1) (write (.object members) ++ rest) = some (.object members, rest) := by
  have brace : isBlank '\x7b' = false := by decide
  have close : isBlank '\x7d' = false := by decide
  have kept := Value.fromMembers_of_ordered members ordered
  cases members with
  | nil =>
      simp [write, readValue, skip_of_not_blank brace, readSequence, skip_of_not_blank close, kept]
  | cons member members =>
      have readsMember : ∀ other ∈ member :: members, ∀ rest, Stops rest →
          readMember (readValue depth) (writeMember other ++ rest) = some (other, rest) :=
        fun other found rest stops => readMember_writeMember (reads other found rest stops)
      have starts : ∃ tail, writeMember member = '\x22' :: tail := ⟨_, rfl⟩
      obtain ⟨tail, starts⟩ := starts
      have sequence := readSequence_spell (.inr rfl) readsMember starts (by decide) (by decide) rest
      have spelled : write (.object (member :: members)) ++ rest =
          '\x7b' :: (writeMember member ++
            (spellRest '\x7d' writeMember members ++ rest)) := by
        simp [write, writeMembers_eq, writeMember]
      simp only [spelled, readValue, skip_of_not_blank brace, sequence, kept, Option.bind_eq_bind,
        Option.bind_some, Option.pure_def]

/-- A value that starts with a sign or a digit is a number. -/
theorem readValue_number {depth : Nat} {c : Char} (first : c = '-' ∨ c.isDigit = true)
    (tail : List Char) : readValue (depth + 1) (c :: tail) = readNumber (c :: tail) := by
  have other : ∀ d ∈ ['n', 't', 'f', '\x22', '[', '\x7b', ' ', '\t', '\n', '\r'], c ≠ d := by
    rcases first with rfl | digit
    · decide
    · intro d member same
      have noDigit : ∀ d ∈ ['n', 't', 'f', '\x22', '[', '\x7b', ' ', '\t', '\n', '\r'],
          d.isDigit = false := by decide
      rw [same, noDigit d member] at digit
      cases digit
  have visible : isBlank c = false := by
    simp [isBlank, other]
  rw [readValue, skip_of_not_blank visible]
  split
  case h_7 => rfl
  all_goals
    rename_i same
    cases same
    exact absurd rfl (other _ (by decide))

theorem readValue_write {depth : Nat} {value : Value} (plain : PlainJson depth value)
    {rest : List Char} (stops : Stops rest) :
    readValue (depth + 1) (write value.canonical ++ rest) = some (value.canonical, rest) := by
  induction plain generalizing rest with
  | null => rfl
  | @bool _ value => cases value <;> rfl
  | @natural _ value =>
      obtain ⟨c, tail, spelled, digit⟩ := toDigits_starts value.toNat
      have read := readNumber_posInt value stops
      rw [writeNumber, spelled, List.cons_append] at read
      rw [Value.canonical_number, write, writeNumber, spelled, List.cons_append,
        readValue_number (.inr digit), read]
  | negative low high =>
      have read := readNumber_negInt low high stops
      rw [writeNumber, List.cons_append] at read
      rw [Value.canonical_number, write, writeNumber, List.cons_append, readValue_number (.inl rfl), read]
  | @string _ text =>
      have quote : isBlank '\x22' = false := by decide
      have read := readChars_writeString text rest
      simp only [Value.canonical, write, writeString, List.cons_append, List.append_assoc,
        List.nil_append, readValue, skip_of_not_blank quote, read, Option.bind_eq_bind,
        Option.bind_some, Option.pure_def, String.ofList_toList]
  | @array _ items plain carried =>
      rw [Value.canonical, Value.canonicalItems_eq]
      refine readValue_array (fun item found rest stops => ?_) rest
      obtain ⟨original, member, rfl⟩ := List.mem_map.mp found
      exact carried original member stops
  | @object _ members distinct plain carried =>
      rw [Value.canonical, Value.canonicalMembers_eq]
      refine readValue_object (Value.ordered_fromMembers _) (fun member found rest stops => ?_) rest
      obtain ⟨original, known, rfl⟩ := List.mem_map.mp (Value.mem_of_mem_fromMembers _ found)
      exact carried original known stops

theorem fromSlice_toVec {depth : Nat} {value : Value} (plain : PlainJson depth value)
    (shallow : depth < recursionLimit) : fromSlice (toVec value) = some value.canonical := by
  have stops : Stops [] := fun c impossible => by cases impossible
  have read := readValue_write (plain.mono (Nat.le_sub_one_of_lt shallow)) stops
  rw [List.append_nil] at read
  have limit : recursionLimit = recursionLimit - 1 + 1 := rfl
  rw [fromSlice, toVec, Text.ofBytes_asBytes, limit]
  simp only [Option.bind_eq_bind, Option.bind_some, String.toList_ofList, read]
  rfl

/-! ## Lengths -/

mutual

/-- A bound on the length of the text of a value. -/
def size : Value → Nat
  | .null | .bool _ => 5
  | .number value => Text.len (String.ofList (writeNumber value))
  | .string text => 6 * Text.len text + 2
  | .array items => 2 + sizeItems items
  | .object members => 2 + sizeMembers members

def sizeItems : List Value → Nat
  | [] => 0
  | item :: items => size item + 1 + sizeItems items

def sizeMembers : List (String × Value) → Nat
  | [] => 0
  | (name, value) :: members => 6 * Text.len name + 4 + size value + sizeMembers members

end

theorem len_escape_le (c : Char) : Text.len (String.ofList (escape c)) ≤ 6 * c.utf8Size := by
  have hex : ∀ value < 16, (Text.hexDigit value).utf8Size = 1 := by decide
  have letters : ∀ entry ∈ shortEscapes, entry.2.utf8Size = 1 := by decide
  have positive : 1 ≤ c.utf8Size := c.utf8Size_pos
  unfold escape
  split
  case h_1 letter found =>
    have one : letter.utf8Size = 1 := letters _ (mem_of_lookup_eq_some found)
    have slash : '\\'.utf8Size = 1 := by decide
    simp only [Text.len_ofList_cons, Text.len_ofList_nil, one, slash]
    omega
  case h_2 =>
    split
    case isTrue control =>
      have high := hex (c.toNat / 16) (by omega)
      have low := hex (c.toNat % 16) (by omega)
      have fixed : ('\\'.utf8Size, 'u'.utf8Size, '0'.utf8Size) = (1, 1, 1) := by decide
      simp only [Prod.mk.injEq] at fixed
      simp only [Text.len_ofList_cons, Text.len_ofList_nil, high, low, fixed]
      omega
    case isFalse =>
      simp only [Text.len_ofList_cons, Text.len_ofList_nil]
      omega

theorem len_flatMap_escape_le (chars : List Char) :
    Text.len (String.ofList (chars.flatMap escape)) ≤ 6 * Text.len (String.ofList chars) := by
  induction chars with
  | nil => rw [List.flatMap_nil, Text.len_ofList_nil]
  | cons c rest carried =>
      have first := len_escape_le c
      rw [List.flatMap_cons, Text.len_ofList_append, Text.len_ofList_cons]
      omega

theorem len_writeString_le (text : String) :
    Text.len (String.ofList (writeString text)) ≤ 6 * Text.len text + 2 := by
  have quote : '\x22'.utf8Size = 1 := by decide
  have escaped := len_flatMap_escape_le text.toList
  rw [String.ofList_toList] at escaped
  simp only [writeString, List.cons_append, Text.len_ofList_cons, Text.len_ofList_append,
    Text.len_ofList_nil, quote]
  omega

theorem punctuation_ascii : ∀ c ∈ "[],:\x7b\x7d".toList, c.utf8Size = 1 := by decide

mutual

theorem len_write_le : ∀ value : Value, Text.len (String.ofList (write value)) ≤ size value
  | .null => by decide
  | .bool true => by decide
  | .bool false => by decide
  | .number _ => by rw [write, size]
  | .string text => by
      rw [write, size]
      exact len_writeString_le text
  | .array [] => by decide
  | .array (item :: items) => by
      have first := len_write_le item
      have rest := len_writeItems_le items
      have bracket := punctuation_ascii '[' (by decide)
      simp only [write, List.cons_append, Text.len_ofList_cons, Text.len_ofList_append, bracket,
        size, sizeItems]
      omega
  | .object [] => by decide
  | .object ((name, value) :: members) => by
      have named := len_writeString_le name
      have first := len_write_le value
      have rest := len_writeMembers_le members
      have brace := punctuation_ascii '\x7b' (by decide)
      have colon := punctuation_ascii ':' (by decide)
      simp only [write, List.cons_append, Text.len_ofList_cons, Text.len_ofList_append, brace,
        colon, size, sizeMembers]
      omega

theorem len_writeItems_le : ∀ items : List Value,
    Text.len (String.ofList (writeItems items)) ≤ sizeItems items + 1
  | [] => by decide
  | item :: items => by
      have first := len_write_le item
      have rest := len_writeItems_le items
      have comma := punctuation_ascii ',' (by decide)
      simp only [writeItems, List.cons_append, Text.len_ofList_cons, Text.len_ofList_append, comma,
        sizeItems]
      omega

theorem len_writeMembers_le : ∀ members : List (String × Value),
    Text.len (String.ofList (writeMembers members)) ≤ sizeMembers members + 1
  | [] => by decide
  | (name, value) :: members => by
      have named := len_writeString_le name
      have first := len_write_le value
      have rest := len_writeMembers_le members
      have comma := punctuation_ascii ',' (by decide)
      have colon := punctuation_ascii ':' (by decide)
      simp only [writeMembers, List.cons_append, Text.len_ofList_cons, Text.len_ofList_append,
        comma, colon, sizeMembers]
      omega

end

theorem sizeMembers_insertMember_le (name : String) (value : Value)
    (members : List (String × Value)) :
    sizeMembers (Value.insertMember name value members) ≤
      6 * Text.len name + 4 + size value + sizeMembers members := by
  induction members with
  | nil => rfl
  | cons member rest carried =>
      rw [Value.insertMember]
      split
      · rfl
      · split
        · simp only [sizeMembers]
          omega
        · simp only [sizeMembers]
          omega

theorem sizeMembers_foldl_le (members sorted : List (String × Value)) :
    sizeMembers (members.foldl (fun kept member => Value.insertMember member.1 member.2 kept)
      sorted) ≤ sizeMembers members + sizeMembers sorted := by
  induction members generalizing sorted with
  | nil => simp [sizeMembers]
  | cons member rest carried =>
      have next := carried (Value.insertMember member.1 member.2 sorted)
      have inserted := sizeMembers_insertMember_le member.1 member.2 sorted
      simp only [List.foldl_cons, sizeMembers]
      omega

mutual

theorem size_canonical_le : ∀ value : Value, size value.canonical ≤ size value
  | .null | .bool _ | .number _ | .string _ => le_rfl
  | .array items => by
      have rest := sizeItems_canonicalItems_le items
      simp only [Value.canonical, size]
      omega
  | .object members => by
      have sorted := sizeMembers_foldl_le (Value.canonicalMembers members) []
      have rest := sizeMembers_canonicalMembers_le members
      simp only [Value.canonical, Value.fromMembers, size, sizeMembers] at sorted ⊢
      omega

theorem sizeItems_canonicalItems_le : ∀ items : List Value,
    sizeItems (Value.canonicalItems items) ≤ sizeItems items
  | [] => le_rfl
  | item :: items => by
      have first := size_canonical_le item
      have rest := sizeItems_canonicalItems_le items
      simp only [Value.canonicalItems, sizeItems]
      omega

theorem sizeMembers_canonicalMembers_le : ∀ members : List (String × Value),
    sizeMembers (Value.canonicalMembers members) ≤ sizeMembers members
  | [] => le_rfl
  | (name, value) :: members => by
      have first := size_canonical_le value
      have rest := sizeMembers_canonicalMembers_le members
      simp only [Value.canonicalMembers, sizeMembers]
      omega

end

/-- A word has at most twenty decimal digits. -/
theorem size_natural_le (value : UInt64) : size (.nat value) ≤ 20 := by
  have ascii : ∀ c ∈ Nat.toDigits 10 value.toNat, c.utf8Size = 1 := by
    intro c member
    have digit : c.isDigit = true := Nat.isDigit_of_mem_toDigits (by decide) (by decide) member
    have small : c.val ≤ 127 := by
      simp only [Char.isDigit, Bool.and_eq_true, decide_eq_true_eq] at digit
      exact UInt32.le_trans digit.2 (by decide)
    rw [Char.utf8Size]
    exact if_pos small
  have short : (Nat.toDigits 10 value.toNat).length ≤ 20 :=
    (Nat.length_toDigits_le_iff (by decide) (by decide)).mpr (value.toNat_lt.trans (by decide))
  rw [Value.nat, size, writeNumber, Text.len_ofList_of_ascii ascii]
  exact short

theorem length_toVec_le (value : Value) : (toVec value).length ≤ size value :=
  (len_write_le value.canonical).trans (size_canonical_le value)

end VCIssuer.Library.Json
