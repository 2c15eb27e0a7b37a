import VCIssuer.Library.Lines

/-!
# Environment files

`env_file.rs`: a file is read once, line by line, and supplies the variables that
the process environment does not have.
-/

namespace VCIssuer.Service.EnvFile

open VCIssuer.Library
open VCIssuer.Library.Text

abbrev Pair := String × String

/-- `value` begins and ends with the same quotation mark. -/
def quotedBy (mark : Char) (value : String) : Bool :=
  value.toList.head? == some mark && value.toList.getLast? == some mark

/-- One pair of surrounding quotation marks is removed; `none` is a panic. -/
def unquoted (value : String) : Option String :=
  if 2 ≤ len value ∧ (quotedBy '"' value || quotedBy '\'' value) then
    sliceBytes value 1 (len value - 1)
  else some value

/-- One turn of the loop, which pushes at most one pair. -/
def parseLine (out : List Pair) (raw : String) : Option (List Pair) :=
  let line := trim raw
  if line = "" ∨ line.toList.head? = some '#' then some out
  else
    let line := (stripPrefix "export " line).getD line
    match splitOnce '=' line with
    | none => some out
    | some (key, value) =>
        let key := trim key
        if key = "" then some out
        else (unquoted (trim value)).map fun value => out ++ [(key, value)]

def parse (contents : String) : Option (List Pair) :=
  (lines contents).foldlM parseLine []

/-- How `std::env::var` fails. -/
inductive VarError where
  | notPresent
  | notUnicode
  deriving DecidableEq

/-- The map collected from the pairs, where the last pair of a key counts. -/
def get (store : List Pair) (key : String) : Option String :=
  (store.reverse.find? fun pair => decide (pair.1 = key)).map Prod.snd

/-- The process environment wins, even with a value that is not text. -/
def var (environment : String → Except VarError String) (store : Option (List Pair))
    (key : String) : Option String :=
  match environment key with
  | .ok value => some value
  | .error .notUnicode => none
  | .error .notPresent => store.bind (get · key)

/-! ## What one line contributes -/

theorem quotedBy_eq {mark : Char} {value : String} (long : 2 ≤ len value)
    (width : mark.utf8Size = 1) (quoted : quotedBy mark value = true) :
    ∃ inner, value = String.singleton mark ++ inner ++ String.singleton mark := by
  rw [quotedBy, Bool.and_eq_true, beq_iff_eq, beq_iff_eq] at quoted
  obtain ⟨rest, chars⟩ := List.head?_eq_some_iff.mp quoted.1
  rcases List.eq_nil_or_concat' rest with rfl | ⟨inner, last, rfl⟩
  · have short : len value = mark.utf8Size := by
      rw [← value.ofList_toList, chars, len_ofList_cons, len_ofList_nil, Nat.add_zero]
    omega
  · have ends := quoted.2
    rw [chars, ← List.cons_append, List.getLast?_concat, Option.some.injEq] at ends
    subst ends
    refine ⟨String.ofList inner, ?_⟩
    rw [← String.toList_inj, chars]
    simp

/-- Between one-byte marks the slice is what stands between them. -/
theorem sliceBytes_quoted {mark : Char} (width : mark.utf8Size = 1) (inner : String) :
    sliceBytes (String.singleton mark ++ inner ++ String.singleton mark) 1
      (len (String.singleton mark ++ inner ++ String.singleton mark) - 1) = some inner := by
  have one : len (String.singleton mark) = 1 := (len_singleton mark).trans width
  have cut := sliceBytes_append (String.singleton mark) inner (String.singleton mark)
  rw [one] at cut
  rw [len_append, len_append, one, Nat.add_sub_cancel]
  exact cut

theorem unquoted_quoted {mark : Char} (either : mark = '"' ∨ mark = '\'') (inner : String) :
    unquoted (String.singleton mark ++ inner ++ String.singleton mark) = some inner := by
  have width : mark.utf8Size = 1 := by rcases either with rfl | rfl <;> rfl
  have quoted : quotedBy mark (String.singleton mark ++ inner ++ String.singleton mark) = true := by
    rw [quotedBy, String.toList_append, String.toList_singleton, List.getLast?_concat]
    simp
  rw [unquoted, if_pos, sliceBytes_quoted width]
  constructor
  · rw [len_append, len_append, len_singleton, width]
    omega
  · rw [Bool.or_eq_true]
    rcases either with rfl | rfl
    · exact .inl quoted
    · exact .inr quoted

/-- No value is sliced inside a character. -/
theorem unquoted_isSome (value : String) : ∃ text, unquoted value = some text := by
  by_cases quoted : 2 ≤ len value ∧ (quotedBy '"' value || quotedBy '\'' value) = true
  · obtain ⟨long, either⟩ := quoted
    rcases (Bool.or_eq_true _ _).mp either with double | single
    · obtain ⟨inner, rfl⟩ := quotedBy_eq long rfl double
      exact ⟨inner, unquoted_quoted (.inl rfl) inner⟩
    · obtain ⟨inner, rfl⟩ := quotedBy_eq long rfl single
      exact ⟨inner, unquoted_quoted (.inr rfl) inner⟩
  · exact ⟨value, if_neg quoted⟩

/-- The pairs of a single line. -/
def pairsOf (raw : String) : List Pair :=
  (parseLine [] raw).getD []

/-- A line appends its pairs, whatever has been read so far. -/
theorem parseLine_eq (out : List Pair) (raw : String) :
    parseLine out raw = some (out ++ pairsOf raw) := by
  simp only [pairsOf, parseLine]
  split
  · simp
  · split
    · simp
    · split
      · simp
      · rename_i key value _ _
        obtain ⟨text, read⟩ := unquoted_isSome (trim value)
        simp [read]

theorem pairsOf_congr {raw other : String} (same : trim raw = trim other) :
    pairsOf raw = pairsOf other := by
  simp only [pairsOf, parseLine, same]

theorem pairsOf_empty : pairsOf "" = [] := rfl

theorem pairsOf_carriageReturn (line : String) : pairsOf (line ++ "\r") = pairsOf line := by
  have mark : "\r" = String.singleton '\r' := by decide
  rw [mark]
  exact pairsOf_congr (trim_append_whitespace (by decide) line)

/-! ## Whole files -/

theorem foldlM_parseLine (raws : List String) (out : List Pair) :
    raws.foldlM parseLine out = some (out ++ raws.flatMap pairsOf) := by
  induction raws generalizing out with
  | nil => simp
  | cons raw rest carried =>
      rw [List.foldlM_cons, parseLine_eq, Option.bind_eq_bind, Option.bind_some, carried,
        List.append_assoc, List.flatMap_cons]

/-- The pairs of all lines, in order. -/
def pairs (contents : String) : List Pair :=
  (split '\n' contents).flatMap pairsOf

/-- A file is read as the sequence of its lines, and reading it never panics. -/
theorem parse_eq (contents : String) : parse contents = some (pairs contents) := by
  rw [parse, foldlM_parseLine, List.nil_append,
    flatMap_lines pairsOf_empty pairsOf_carriageReturn, pairs]

theorem pairs_append (front back : String) :
    pairs (front ++ "\n" ++ back) = pairs front ++ pairs back := by
  have feed : "\n" = String.singleton '\n' := by decide
  rw [feed, pairs, split_append, List.flatMap_append]
  rfl

theorem pairs_of_line {line : String} (single : '\n' ∉ line.toList) :
    pairs line = pairsOf line := by
  rw [pairs, split, List.splitOn_eq_singleton single, List.map_singleton, List.flatMap_singleton,
    String.ofList_toList]

/-! ## Quoted assignments -/

/-- A key that can be written in front of an equals sign. -/
structure Key where
  text : String
  present : text ≠ ""
  trimmed : trim text = text
  noEquals : '=' ∉ text.toList
  noNewline : '\n' ∉ text.toList
  noComment : text.toList.head? ≠ some '#'
  noExport : ¬ "export ".toList <+: text.toList

/-- `key="value"`, possibly exported. -/
structure Assignment where
  exported : Bool
  key : Key
  value : { text : String // '\n' ∉ text.toList }

namespace Assignment

variable (assignment : Assignment)

def quotedValue : String := "\"" ++ assignment.value.val ++ "\""

/-- The assignment without `export`. -/
def body : String := assignment.key.text ++ "=" ++ assignment.quotedValue

def line : String := (if assignment.exported then "export " else "") ++ assignment.body

def pair : Pair := (assignment.key.text, assignment.value.val)

theorem quotedValue_eq : assignment.quotedValue =
    String.singleton '"' ++ assignment.value.val ++ String.singleton '"' := by
  have mark : "\"" = String.singleton '"' := by decide
  rw [quotedValue, mark]

theorem trim_quotedValue : trim assignment.quotedValue = assignment.quotedValue := by
  refine trim_eq_self ?_ ?_
  · simp [quotedValue_eq, isWhitespace]
  · rw [quotedValue_eq, String.toList_append, String.toList_singleton, List.getLast?_concat]
    simp [isWhitespace]

theorem getLast?_body : assignment.body.toList.getLast? = some '"' := by
  rw [body, quotedValue_eq, String.toList_append, String.toList_append, String.toList_append,
    String.toList_singleton, ← List.append_assoc, List.getLast?_concat]

theorem getLast?_line : assignment.line.toList.getLast? = some '"' := by
  rw [line, String.toList_append, List.getLast?_append, getLast?_body, Option.some_or]

/-- A line begins with the key or with `export`. -/
theorem head?_line : ∃ c, assignment.line.toList.head? = some c ∧ isWhitespace c = false ∧
    c ≠ '#' := by
  rw [line]
  cases assignment.exported with
  | true => exact ⟨'e', by simp, by decide, by decide⟩
  | false =>
      obtain ⟨c, rest, chars⟩ : ∃ c rest, assignment.key.text.toList = c :: rest :=
        List.exists_cons_of_ne_nil fun empty =>
          assignment.key.present (String.toList_eq_nil_iff.mp empty)
      have first : assignment.key.text.toList.head? = some c := by rw [chars]; rfl
      refine ⟨c, ?_, trim_head assignment.key.trimmed c first, ?_⟩
      · simp [body, chars]
      · rintro rfl
        exact assignment.key.noComment first

theorem trim_line : trim assignment.line = assignment.line := by
  obtain ⟨c, first, visible, _⟩ := assignment.head?_line
  refine trim_eq_self ?_ ?_
  · rw [first]
    simpa using visible
  · rw [getLast?_line]
    simp [isWhitespace]

/-- No key with an equals sign behind it looks like the beginning of an export. -/
theorem not_export_prefix : ¬ "export ".toList <+: assignment.body.toList := by
  intro exports
  rw [body, String.toList_append, String.toList_append, List.append_assoc] at exports
  rcases List.prefix_or_prefix_of_prefix exports (List.prefix_append _ _) with within | short
  · exact assignment.key.noExport within
  · obtain ⟨rest, split⟩ := short
    rw [← split, List.prefix_append_right_inj] at exports
    cases rest with
    | nil => exact assignment.key.noExport (by rw [← split, List.append_nil])
    | cons c rest =>
        have equals : c = '=' := (List.cons_prefix_cons.mp exports).1
        have member : '=' ∈ "export ".toList := by
          rw [← split, equals]
          simp
        exact absurd member (by decide)

theorem stripPrefix_line :
    (stripPrefix "export " assignment.line).getD assignment.line = assignment.body := by
  rw [line]
  cases assignment.exported with
  | true =>
      rw [if_pos rfl, stripPrefix_append]
      rfl
  | false =>
      rw [if_neg Bool.false_ne_true, String.empty_append,
        stripPrefix_of_not_prefix assignment.not_export_prefix]
      rfl

/-- A quoted assignment is read as its key and its value. -/
theorem pairsOf_line : pairsOf assignment.line = [assignment.pair] := by
  obtain ⟨c, first, _, noComment⟩ := assignment.head?_line
  have present : assignment.line ≠ "" := by
    intro empty
    rw [empty] at first
    cases first
  have kept : ¬ (assignment.line = "" ∨ assignment.line.toList.head? = some '#') := by
    rw [first, Option.some.injEq]
    exact not_or.mpr ⟨present, noComment⟩
  have equals : "=" = String.singleton '=' := by decide
  have cut : splitOnce '=' assignment.body =
      some (assignment.key.text, assignment.quotedValue) := by
    rw [body, equals]
    exact splitOnce_append assignment.key.noEquals assignment.quotedValue
  have read : unquoted assignment.quotedValue = some assignment.value.val := by
    rw [quotedValue_eq]
    exact unquoted_quoted (.inl rfl) assignment.value.val
  simp only [pairsOf, parseLine, trim_line, if_neg kept, stripPrefix_line, cut,
    assignment.key.trimmed, if_neg assignment.key.present, trim_quotedValue, read, Option.map_some,
    List.nil_append, Option.getD_some, pair]

theorem newline_not_mem_line : '\n' ∉ assignment.line.toList := by
  have front : '\n' ∉ (if assignment.exported then "export " else "").toList := by
    cases assignment.exported <;> decide
  have behind := assignment.value.property
  have key := assignment.key.noNewline
  simp only [line, body, quotedValue, String.toList_append, List.mem_append, not_or]
  exact ⟨front, ⟨key, by decide⟩, ⟨by decide, behind⟩, by decide⟩

theorem pairs_line : pairs assignment.line = [assignment.pair] := by
  rw [pairs_of_line assignment.newline_not_mem_line, pairsOf_line]

end Assignment

/-- Quoted assignments on lines of their own are read back in order. -/
theorem pairs_assignments (assignments : List Assignment) :
    pairs ("\n".intercalate (assignments.map Assignment.line)) =
      assignments.map Assignment.pair := by
  induction assignments with
  | nil => rfl
  | cons assignment rest carried =>
      rw [List.map_cons, List.map_cons]
      cases rest with
      | nil => rw [List.map_nil, String.intercalate_singleton, assignment.pairs_line, List.map_nil]
      | cons next others =>
          rw [List.map_cons, String.intercalate_cons_cons, pairs_append, assignment.pairs_line,
            ← List.map_cons, carried, List.singleton_append]

/-- Reading never panics and goes line by line, so that what stands between two line feeds adds
its own pairs and changes no others; quoted assignments are read as they were written. -/
theorem parse_lineLocal :
    (∀ contents, ∃ read, parse contents = some read) ∧
      (∀ front back, ∃ first second, parse front = some first ∧ parse back = some second ∧
        parse (front ++ "\n" ++ back) = some (first ++ second)) ∧
      (∀ front line back, parse line = some [] →
        parse (front ++ "\n" ++ line ++ "\n" ++ back) = parse (front ++ "\n" ++ back)) ∧
      ∀ assignments : List Assignment, ∀ final ∈ ["", "\n"],
        parse ("\n".intercalate (assignments.map Assignment.line) ++ final) =
          some (assignments.map Assignment.pair) := by
  refine ⟨fun contents => ⟨_, parse_eq contents⟩, ?_, ?_, ?_⟩
  · intro front back
    refine ⟨pairs front, pairs back, parse_eq front, parse_eq back, ?_⟩
    rw [parse_eq, pairs_append]
  · intro front line back malformed
    rw [parse_eq, Option.some.injEq] at malformed
    rw [parse_eq, parse_eq, pairs_append, pairs_append, pairs_append, malformed, List.append_nil]
  · intro assignments final member
    rw [parse_eq]
    rcases List.mem_cons.mp member with rfl | member
    · rw [String.append_empty, pairs_assignments]
    · obtain rfl := List.mem_singleton.mp member
      have ended := pairs_append ("\n".intercalate (assignments.map Assignment.line)) ""
      rw [String.append_empty] at ended
      rw [ended, pairs_assignments]
      exact congrArg some (List.append_nil _)

example : parse "# a comment\n\nA='x=\"y'\r\n BAD LINE\n=novalue\nexport B = \"open" =
    some [("A", "x=\"y"), ("B", "\"open")] := by decide +kernel

/-! ## Variables -/

theorem get_append (front back : List Pair) (key : String) :
    get (front ++ back) key = (get back key).or (get front key) := by
  rw [get, List.reverse_append, List.find?_append, Option.map_or]
  rfl

/-- No file changes a variable that the environment has. -/
theorem var_of_present {environment : String → Except VarError String} {key : String}
    (present : environment key ≠ .error .notPresent) (store : Option (List Pair)) :
    var environment store key = var environment none key := by
  unfold var
  split
  · rfl
  · rfl
  · contradiction

/-- Of two files, one behind the other, the second one counts where it has the key. -/
theorem var_append (environment : String → Except VarError String) (front back key : String) :
    var environment (parse (front ++ "\n" ++ back)) key =
      (var environment (parse back) key).or (var environment (parse front) key) := by
  rw [parse_eq, parse_eq, parse_eq, pairs_append]
  unfold var
  split
  · rfl
  · rfl
  · exact get_append _ _ _

end VCIssuer.Service.EnvFile
