import VCIssuer.Library.Text

/-!
# Lines, trimming and slices

Text is cut at line feeds, at the first occurrence of a separator, and between
two byte offsets, where an offset inside a character is refused.
-/

namespace VCIssuer.Library.Text

/-! ## Lines -/

/-- A line without the carriage return in front of its line feed. -/
def stripCarriageReturn (line : List Char) : List Char :=
  if line.getLast? = some '\r' then line.dropLast else line

/-- The lines of a text.  Only a line that ends in a line feed loses a carriage return, and the
empty rest behind the last line feed is no line. -/
def lines (text : String) : List String :=
  let parts := text.toList.splitOn '\n'
  (parts.dropLast.map stripCarriageReturn ++
    (parts.getLast?.filter (! ·.isEmpty)).toList).map String.ofList

theorem split_append (separator : Char) (front back : String) :
    split separator (front ++ String.singleton separator ++ back) =
      split separator front ++ split separator back := by
  simp only [split, String.toList_append, String.toList_singleton, List.append_assoc,
    List.singleton_append, List.splitOn_append_cons_self, List.map_append]

/-- A line as its part of the split, when a trailing carriage return is ignored. -/
theorem stripCarriageReturn_ignored {β : Type} {read : String → List β}
    (ignored : ∀ line, read (line ++ "\r") = read line) (line : List Char) :
    read (String.ofList (stripCarriageReturn line)) = read (String.ofList line) := by
  unfold stripCarriageReturn
  split
  case isTrue ends =>
    obtain ⟨front, rfl⟩ := List.getLast?_eq_some_iff.mp ends
    rw [List.dropLast_concat, String.ofList_append]
    exact (ignored _).symm
  case isFalse => rfl

/-- Reading line by line is reading the split, when a trailing carriage return is ignored and
nothing is read from an empty line. -/
theorem flatMap_lines {β : Type} {read : String → List β} (blank : read "" = [])
    (ignored : ∀ line, read (line ++ "\r") = read line) (text : String) :
    (lines text).flatMap read = (split '\n' text).flatMap read := by
  have present := List.splitOn_ne_nil '\n' text.toList
  rw [lines, split]
  generalize text.toList.splitOn '\n' = parts at present
  obtain ⟨front, last, rfl⟩ := (List.eq_nil_or_concat' parts).resolve_left present
  have stripped : ((front.map stripCarriageReturn).map String.ofList).flatMap read =
      (front.map String.ofList).flatMap read := by
    rw [List.map_map, List.flatMap_map, List.flatMap_map]
    exact List.flatMap_congr fun line _ => stripCarriageReturn_ignored ignored line
  have final : ((Option.filter (! ·.isEmpty) (some last)).toList.map String.ofList).flatMap read =
      read (String.ofList last) := by
    cases last with
    | nil => exact blank.symm
    | cons c rest => exact List.append_nil _
  rw [List.dropLast_concat, List.getLast?_concat, List.map_append, List.flatMap_append, stripped,
    final, List.map_append, List.flatMap_append, List.map_singleton, List.flatMap_singleton]

/-! ## Trimming -/

theorem trim_eq_self {text : String} (first : ∀ c ∈ text.toList.head?, isWhitespace c = false)
    (last : ∀ c ∈ text.toList.getLast?, isWhitespace c = false) : trim text = text := by
  have front : text.toList.dropWhile isWhitespace = text.toList := by
    cases chars : text.toList with
    | nil => rfl
    | cons c rest =>
        refine List.dropWhile_cons_of_neg ?_
        simp [first c (by rw [chars]; rfl)]
  have back : text.toList.rdropWhile isWhitespace = text.toList := by
    rw [List.rdropWhile_eq_self_iff]
    intro present whitespace
    have unlike := last _ (List.getLast?_eq_some_getLast present)
    rw [unlike] at whitespace
    cases whitespace
  rw [trim, front, back, String.ofList_toList]

theorem trim_head {text : String} (trimmed : trim text = text) :
    ∀ c ∈ text.toList.head?, isWhitespace c = false := by
  intro c first
  by_contra whitespace
  rw [Bool.not_eq_false] at whitespace
  obtain ⟨rest, chars⟩ := List.head?_eq_some_iff.mp first
  have shorter : (trim text).toList.length ≤ rest.length := by
    rw [trim, String.toList_ofList, chars, List.dropWhile_cons_of_pos whitespace]
    exact (List.rdropWhile_prefix _ _).length_le.trans (List.dropWhile_suffix _).length_le
  rw [trimmed, chars, List.length_cons] at shorter
  exact absurd shorter (Nat.not_succ_le_self _)

theorem trim_append_whitespace {c : Char} (whitespace : isWhitespace c = true) (text : String) :
    trim (text ++ String.singleton c) = trim text := by
  rw [trim, trim, String.toList_append, String.toList_singleton, List.dropWhile_append]
  split
  case isTrue empty =>
    rw [List.isEmpty_iff.mp empty, List.dropWhile_cons_of_pos whitespace, List.dropWhile_nil]
  case isFalse => rw [List.rdropWhile_concat_pos _ _ _ whitespace]

/-! ## Cutting at a separator -/

theorem stripPrefix_of_not_prefix {start text : String} (other : ¬ start.toList <+: text.toList) :
    stripPrefix start text = none := by
  rw [stripPrefix, Option.map_eq_none_iff, Option.eq_none_iff_forall_ne_some]
  intro rest dropped
  obtain ⟨front, chars, same⟩ := List.dropPrefix?_eq_some_iff.mp dropped
  rw [eq_of_beq same] at chars
  exact other ⟨rest, chars.symm⟩

/-- What stands in front of the first separator and what stands behind it. -/
def splitOnce (separator : Char) (text : String) : Option (String × String) :=
  match text.toList.dropWhile (· != separator) with
  | [] => none
  | _ :: back => some (String.ofList (text.toList.takeWhile (· != separator)), String.ofList back)

theorem splitOnce_append {separator : Char} {front : String} (absent : separator ∉ front.toList)
    (back : String) :
    splitOnce separator (front ++ String.singleton separator ++ back) = some (front, back) := by
  have unlike : ∀ c ∈ front.toList, (c != separator) = true := by
    intro c member
    exact bne_iff_ne.mpr fun same => absent (same ▸ member)
  have chars : (front ++ String.singleton separator ++ back).toList =
      front.toList ++ separator :: back.toList := by simp
  rw [splitOnce, chars, List.dropWhile_append_of_pos unlike, List.takeWhile_append_of_pos unlike,
    List.dropWhile_cons_of_neg (by simp), List.takeWhile_cons_of_neg (by simp)]
  simp

/-! ## Slices between byte offsets -/

/-- The characters from a byte offset on, unless it is inside a character or past the end. -/
def dropBytes : Nat → List Char → Option (List Char)
  | 0, chars => some chars
  | _ + 1, [] => none
  | offset + 1, c :: rest =>
      if c.utf8Size ≤ offset + 1 then dropBytes (offset + 1 - c.utf8Size) rest else none

/-- The characters in front of a byte offset. -/
def takeBytes : Nat → List Char → Option (List Char)
  | 0, _ => some []
  | _ + 1, [] => none
  | offset + 1, c :: rest =>
      if c.utf8Size ≤ offset + 1 then (takeBytes (offset + 1 - c.utf8Size) rest).map (c :: ·)
      else none

/-- `&text[start..stop]`, which panics where this is `none`. -/
def sliceBytes (text : String) (start stop : Nat) : Option String := do
  if start ≤ stop then
    let back ← dropBytes start text.toList
    let chars ← takeBytes (stop - start) back
    return String.ofList chars
  else none

@[simp]
theorem len_singleton (c : Char) : len (String.singleton c) = c.utf8Size := by
  rw [len, asBytes, String.toList_singleton, List.flatMap_singleton, String.length_utf8EncodeChar]

theorem dropBytes_append (front back : List Char) :
    dropBytes (len (String.ofList front)) (front ++ back) = some back := by
  induction front with
  | nil =>
      rw [len_ofList_nil, List.nil_append]
      cases back <;> rfl
  | cons c rest carried =>
      obtain ⟨width, size⟩ := Nat.exists_eq_succ_of_ne_zero c.utf8Size_pos.ne'
      have offset : len (String.ofList (c :: rest)) = width + len (String.ofList rest) + 1 := by
        rw [len_ofList_cons, size]
        omega
      rw [offset, List.cons_append, dropBytes, if_pos (by omega), ← carried]
      congr 1
      omega

theorem takeBytes_append (front back : List Char) :
    takeBytes (len (String.ofList front)) (front ++ back) = some front := by
  induction front with
  | nil =>
      rw [len_ofList_nil, List.nil_append]
      cases back <;> rfl
  | cons c rest carried =>
      obtain ⟨width, size⟩ := Nat.exists_eq_succ_of_ne_zero c.utf8Size_pos.ne'
      have offset : len (String.ofList (c :: rest)) = width + len (String.ofList rest) + 1 := by
        rw [len_ofList_cons, size]
        omega
      have remaining : width + len (String.ofList rest) + 1 - c.utf8Size =
          len (String.ofList rest) := by omega
      rw [offset, List.cons_append, takeBytes, if_pos (by omega), remaining, carried,
        Option.map_some]

/-- The offsets of a part cut it out. -/
theorem sliceBytes_append (front middle back : String) :
    sliceBytes (front ++ middle ++ back) (len front) (len front + len middle) = some middle := by
  have dropped := dropBytes_append front.toList (middle.toList ++ back.toList)
  have taken := takeBytes_append middle.toList back.toList
  rw [String.ofList_toList] at dropped taken
  rw [sliceBytes, if_pos (Nat.le_add_right _ _), Nat.add_sub_cancel_left, String.toList_append,
    String.toList_append, List.append_assoc, dropped, Option.bind_eq_bind, Option.bind_some, taken,
    Option.bind_some, String.ofList_toList]
  rfl

end VCIssuer.Library.Text
