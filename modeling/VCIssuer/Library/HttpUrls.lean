import VCIssuer.Library.Text

/-!
# Hierarchical URLs

An absolute http or https URL in its serialized form, the resolution of a
relative path against it, and when trimming the slashes off its end names the
directory that relative paths are resolved in.
-/

namespace VCIssuer.Library

/-- The parts of a serialized absolute URL. -/
structure HttpUrl where
  /-- The scheme, the marks behind it and the authority. -/
  origin : String
  path : List String
  /-- The query and the fragment, with their marks. -/
  suffix : String
  originClosed : ∀ c ∈ origin.toList.getLast?, c ≠ '/'
  originPlain : ∀ c ∈ origin.toList, c ≠ '?' ∧ c ≠ '#'
  pathPresent : path ≠ []
  pathPlain : ∀ segment ∈ path, ∀ c ∈ segment.toList, c ≠ '/' ∧ c ≠ '?' ∧ c ≠ '#'
  suffixMarked : ∀ c ∈ suffix.toList.head?, c = '?' ∨ c = '#'

/-- What a text is behind a front decides whether trimming leaves just the front. -/
theorem rdropWhile_append_eq_iff {α : Type} {p : α → Bool} {front back : List α} :
    (front ++ back).rdropWhile p = front ↔
      (∀ a ∈ back, p a = true) ∧ ∀ a ∈ front.getLast?, p a = false := by
  have dropped : (∀ a ∈ back, p a = true) →
      (front ++ back).rdropWhile p = front.rdropWhile p := by
    intro all
    induction back using List.reverseRecOn with
    | nil => rw [List.append_nil]
    | append_singleton back last carried =>
        rw [← List.append_assoc, List.rdropWhile_concat_pos _ _ _ (all last (by simp))]
        exact carried fun a member => all a (List.mem_append_left _ member)
  have closed : front.rdropWhile p = front ↔ ∀ a ∈ front.getLast?, p a = false := by
    rw [List.rdropWhile_eq_self_iff]
    rcases List.eq_nil_or_concat' front with rfl | ⟨init, last, rfl⟩
    · simp
    · simp
  constructor
  · intro same
    have rest : (front ++ back).rtakeWhile p = back := by
      have whole : (front ++ back).rdropWhile p ++ (front ++ back).rtakeWhile p = front ++ back :=
        List.rdropWhile_append_rtakeWhile
      rw [same] at whole
      exact List.append_cancel_left whole
    have all : ∀ a ∈ back, p a = true := fun a member =>
      List.mem_rtakeWhile_imp (rest.symm ▸ member)
    exact ⟨all, closed.mp ((dropped all).symm.trans same)⟩
  · rintro ⟨all, last⟩
    exact (dropped all).trans (closed.mpr last)

namespace HttpUrl

variable (url : HttpUrl)

def pathChars (segments : List String) : List Char :=
  segments.flatMap fun segment => '/' :: segment.toList

def text : String :=
  String.ofList (url.origin.toList ++ pathChars url.path ++ url.suffix.toList)

/-- What relative paths are appended to. -/
def directory : String :=
  String.ofList (url.origin.toList ++ pathChars url.path.dropLast)

/-- A relative path in place of the last segment, the query and the fragment. -/
def resolve (reference : List String) : String :=
  String.ofList (url.origin.toList ++ pathChars (url.path.dropLast ++ reference))

/-- There is no query and no fragment, and the path ends in exactly one slash. -/
def ClosedBySlash : Prop :=
  url.suffix = "" ∧ ∃ front, url.path = front ++ [""] ∧ front.getLast? ≠ some ""

theorem pathChars_append (front back : List String) :
    pathChars (front ++ back) = pathChars front ++ pathChars back :=
  List.flatMap_append

theorem pathChars_cons (first : String) (rest : List String) :
    pathChars (first :: rest) = '/' :: ("/".intercalate (first :: rest)).toList := by
  induction rest generalizing first with
  | nil => simp [pathChars]
  | cons second rest carried =>
      rw [String.intercalate_cons_of_ne_nil (List.cons_ne_nil _ _), String.toList_append,
        String.toList_append, pathChars, List.flatMap_cons, ← pathChars, carried]
      simp

theorem resolve_eq (reference : List String) :
    url.resolve reference = url.directory ++ String.ofList (pathChars reference) := by
  rw [resolve, directory, pathChars_append, ← List.append_assoc, String.ofList_append]

theorem text_eq : ∃ last ∈ url.path, url.path = url.path.dropLast ++ [last] ∧
    url.text.toList =
      url.directory.toList ++ '/' :: (last.toList ++ url.suffix.toList) := by
  obtain ⟨front, last, whole⟩ := (List.eq_nil_or_concat' url.path).resolve_left url.pathPresent
  have parts : url.path = url.path.dropLast ++ [last] := by rw [whole, List.dropLast_concat]
  refine ⟨last, by rw [parts]; simp, parts, ?_⟩
  rw [text, directory, String.toList_ofList, String.toList_ofList]
  conv_lhs => rw [parts, pathChars_append]
  simp [pathChars]

/-- The directory ends in a slash exactly if the segment before the last one is empty. -/
theorem directory_closed_iff :
    (∀ c ∈ url.directory.toList.getLast?, c ≠ '/') ↔ url.path.dropLast.getLast? ≠ some "" := by
  rw [directory, String.toList_ofList]
  rcases List.eq_nil_or_concat' url.path.dropLast with empty | ⟨front, segment, whole⟩
  · rw [empty]
    simpa [pathChars] using url.originClosed
  · have member : segment ∈ url.path := List.mem_of_mem_dropLast (by rw [whole]; simp)
    have plain := url.pathPlain segment member
    rw [whole, pathChars_append, ← List.append_assoc, List.getLast?_concat]
    rcases List.eq_nil_or_concat' segment.toList with empty | ⟨chars, c, spelled⟩
    · have none : segment = "" := String.toList_inj.mp (by rw [empty]; rfl)
      subst none
      simp [pathChars]
    · have some : segment ≠ "" := by
        rintro rfl
        exact absurd spelled (by simp)
      have last : (url.origin.toList ++ pathChars front ++ pathChars [segment]).getLast? =
          Option.some c := by
        simp only [pathChars, List.flatMap_cons, List.flatMap_nil, List.append_nil, spelled,
          ← List.cons_append, ← List.append_assoc, List.getLast?_concat]
      rw [last]
      have notSlash := (plain c (by rw [spelled]; simp)).1
      simp [notSlash, some]

/-- Without the slashes at its end, a URL is its directory exactly if it is closed by one slash. -/
theorem trim_text_eq_directory_iff :
    Text.trimEndMatches '/' url.text = url.directory ↔ url.ClosedBySlash := by
  obtain ⟨last, member, parts, spelled⟩ := url.text_eq
  have plain := url.pathPlain last member
  rw [← String.toList_inj, Text.trimEndMatches, String.toList_ofList, spelled,
    rdropWhile_append_eq_iff]
  simp only [beq_iff_eq, beq_eq_false_iff_ne]
  rw [directory_closed_iff]
  constructor
  · rintro ⟨slashes, closed⟩
    have noLast : last = "" := by
      rw [← String.toList_eq_nil_iff, List.eq_nil_iff_forall_not_mem]
      exact fun c here => (plain c here).1 (slashes c (by simp [here]))
    have noSuffix : url.suffix = "" := by
      rw [← String.toList_eq_nil_iff]
      cases marks : url.suffix.toList with
      | nil => rfl
      | cons mark rest =>
          have slash := slashes mark (by simp [marks])
          have marked := url.suffixMarked mark (by rw [marks]; rfl)
          rcases marked with rfl | rfl <;> cases slash
    exact ⟨noSuffix, url.path.dropLast, noLast ▸ parts, closed⟩
  · rintro ⟨noSuffix, front, whole, closed⟩
    have noLast : last = "" := by
      have both := parts.symm.trans whole
      exact (List.append_inj' both rfl).2 |> List.singleton_inj.mp
    subst noLast
    refine ⟨by simp [noSuffix], ?_⟩
    rw [whole, List.dropLast_concat]
    exact closed

/-! ## Resolution on the text -/

theorem takeWhile_text : (url.text.toList.takeWhile fun c => c ≠ '?' ∧ c ≠ '#') =
    url.origin.toList ++ pathChars url.path := by
  have plain : ∀ c ∈ url.origin.toList ++ pathChars url.path, c ≠ '?' ∧ c ≠ '#' := by
    intro c member
    rcases List.mem_append.mp member with member | member
    · exact url.originPlain c member
    · obtain ⟨segment, inPath, inSegment⟩ := List.mem_flatMap.mp member
      rcases List.mem_cons.mp inSegment with rfl | inSegment
      · exact ⟨by decide, by decide⟩
      · exact (url.pathPlain segment inPath c inSegment).2
  rw [text, String.toList_ofList, List.takeWhile_append_of_pos fun c member =>
    decide_eq_true (plain c member)]
  cases marks : url.suffix.toList with
  | nil => simp
  | cons mark rest =>
      have marked := url.suffixMarked mark (by rw [marks]; rfl)
      have stops : ¬ (mark ≠ '?' ∧ mark ≠ '#') := fun ⟨query, fragment⟩ =>
        marked.elim query fragment
      rw [List.takeWhile_cons_of_neg (by simpa using stops), List.append_nil]

/-- The last slash in front of the query and the fragment is that of the directory. -/
theorem rdropWhile_text :
    ((url.text.toList.takeWhile fun c => c ≠ '?' ∧ c ≠ '#').rdropWhile (· ≠ '/')) =
      url.directory.toList ++ ['/'] := by
  obtain ⟨last, member, parts, _⟩ := url.text_eq
  have plain := url.pathPlain last member
  have split : url.origin.toList ++ pathChars url.path =
      (url.directory.toList ++ ['/']) ++ last.toList := by
    rw [directory, String.toList_ofList]
    conv_lhs => rw [parts, pathChars_append]
    simp [pathChars]
  rw [takeWhile_text, split, rdropWhile_append_eq_iff]
  refine ⟨fun c here => decide_eq_true (plain c here).1, ?_⟩
  rw [List.getLast?_concat]
  rintro _ ⟨⟩
  decide

end HttpUrl

end VCIssuer.Library
