import VCIssuer.Service.Emrtd

/-!
# Dates of birth and of expiry

What a date in the form `YYYY-MM-DD` is, and where the lenient reading of three
segments falls short of it: no segment is compared with the calendar, further
segments are ignored, and the year of majority is added without a check.
-/

namespace VCIssuer.Service

open VCIssuer.Library

/-! ## Calendar dates -/

def isLeapYear (year : Int) : Bool :=
  year % 4 = 0 ∧ (year % 100 ≠ 0 ∨ year % 400 = 0)

def daysInMonth (year : Int) (month : Nat) : Nat :=
  if month = 2 then if isLeapYear year then 29 else 28
  else if month ∈ [4, 6, 9, 11] then 30
  else 31

/-- A day of the calendar. -/
def CivilDate.Real (date : CivilDate) : Prop :=
  1 ≤ date.month ∧ date.month ≤ 12 ∧ 1 ≤ date.day ∧ date.day ≤ daysInMonth date.year date.month

instance (date : CivilDate) : Decidable date.Real := by
  unfold CivilDate.Real; infer_instance

/-- The same day so many years later. -/
def CivilDate.anniversary (date : CivilDate) (years : Int) : CivilDate :=
  { date with year := date.year + years }

/-- The calendar date that a string denotes in the form `YYYY-MM-DD`. -/
def isoDate (text : String) : Option CivilDate :=
  match text.toList with
  | [a, b, c, d, '-', e, f, '-', g, h] => do
      let year ← Text.parseDigits [a, b, c, d]
      let month ← Text.parseDigits [e, f]
      let day ← Text.parseDigits [g, h]
      if CivilDate.Real ⟨year, month, day⟩ then some ⟨year, month, day⟩ else none
  | _ => none

example : isoDate "2024-02-29" = some ⟨2024, 2, 29⟩ := by decide
example : isoDate "2023-02-29" = none := by decide

/-! ## Lenient reading -/

section Digits

variable {chars : List Char} {value bound : Nat}

theorem digit?_eq_some {c : Char} {digit : Nat} (read : Text.digit? c = some digit) :
    digit < 10 ∧ c ≠ '-' ∧ c ≠ '+' := by
  unfold Text.digit? at read
  split at read
  case isTrue between =>
    cases read
    have low : '0'.toNat ≤ c.toNat := between.1
    have high : c.toNat ≤ '9'.toNat := between.2
    refine ⟨?_, ?_, ?_⟩
    · have nine : '9'.toNat = 57 := rfl
      have zero : '0'.toNat = 48 := rfl
      omega
    · rintro rfl
      exact absurd low (by decide)
    · rintro rfl
      exact absurd low (by decide)
  case isFalse => cases read

/-- A run of digits is read from any start. -/
theorem foldDigits_eq_some {start : Nat}
    (read : chars.foldlM (fun value c => (Text.digit? c).map (10 * value + ·)) start = some value) :
    value < (start + 1) * 10 ^ chars.length ∧ ∀ c ∈ chars, c ≠ '-' ∧ c ≠ '+' := by
  induction chars generalizing start with
  | nil =>
      cases read
      simp
  | cons c rest carried =>
      simp only [List.foldlM_cons, Option.bind_eq_bind, Option.bind_eq_some_iff,
        Option.map_eq_some_iff] at read
      obtain ⟨next, ⟨digit, here, rfl⟩, continued⟩ := read
      obtain ⟨small, notMinus, notPlus⟩ := digit?_eq_some here
      obtain ⟨bounded, others⟩ := carried continued
      refine ⟨bounded.trans_le ?_, ?_⟩
      · rw [List.length_cons, Nat.pow_succ', ← Nat.mul_assoc]
        exact Nat.mul_le_mul_right _ (by omega)
      · intro other member
        rcases List.mem_cons.mp member with rfl | member
        · exact ⟨notMinus, notPlus⟩
        · exact others other member

theorem parseDigits_eq_some (read : Text.parseDigits chars = some value) :
    chars ≠ [] ∧ value < 10 ^ chars.length ∧ ∀ c ∈ chars, c ≠ '-' ∧ c ≠ '+' := by
  cases chars with
  | nil => cases read
  | cons c rest =>
      obtain ⟨bounded, signs⟩ := foldDigits_eq_some read
      exact ⟨List.cons_ne_nil _ _, by simpa using bounded, signs⟩

theorem parseUnsigned_of_digits (read : Text.parseDigits chars = some value)
    (fits : value < bound) : Text.parseUnsigned bound (String.ofList chars) = some value := by
  obtain ⟨_, _, signs⟩ := parseDigits_eq_some read
  have unsigned : ∀ rest, chars ≠ '+' :: rest := by
    rintro rest rfl
    exact (signs '+' (.head _)).2 rfl
  simp [Text.parseUnsigned, read, fits]

theorem parseI32_of_digits (read : Text.parseDigits chars = some value)
    (fits : value < 2147483648) : Text.parseI32 (String.ofList chars) = some (value : Int) := by
  obtain ⟨_, _, signs⟩ := parseDigits_eq_some read
  simp only [Text.parseI32, String.toList_ofList]
  split
  case h_1 => exact absurd rfl (signs '-' (.head _)).1
  case h_2 => rw [parseUnsigned_of_digits read fits]; rfl

end Digits

/-- The lenient reading reads a date as it is meant. -/
theorem parseCivilDate_of_isoDate {text : String} {date : CivilDate}
    (denotes : isoDate text = some date) : parseCivilDate text = some date ∧ date.Real := by
  unfold isoDate at denotes
  split at denotes
  case h_1 a b c d e f g h spelled =>
    simp only [Option.bind_eq_bind, Option.bind_eq_some_iff] at denotes
    obtain ⟨year, yearRead, month, monthRead, day, dayRead, real⟩ := denotes
    split at real
    case isTrue holds =>
      cases real
      obtain ⟨_, yearBound, yearSigns⟩ := parseDigits_eq_some yearRead
      obtain ⟨_, monthBound, monthSigns⟩ := parseDigits_eq_some monthRead
      obtain ⟨_, dayBound, daySigns⟩ := parseDigits_eq_some dayRead
      have joined : text = "-".intercalate
          [String.ofList [a, b, c, d], String.ofList [e, f], String.ofList [g, h]] := by
        rw [← String.toList_inj, String.toList_intercalate, spelled]
        simp [List.intercalate]
      have parts : Text.split '-' text =
          [String.ofList [a, b, c, d], String.ofList [e, f], String.ofList [g, h]] := by
        rw [joined]
        refine Text.split_intercalate '-' (List.cons_ne_nil _ _) fun part member dash => ?_
        simp only [List.mem_cons, List.not_mem_nil, or_false] at member
        rcases member with rfl | rfl | rfl <;> rw [String.toList_ofList] at dash
        · exact (yearSigns '-' dash).1 rfl
        · exact (monthSigns '-' dash).1 rfl
        · exact (daySigns '-' dash).1 rfl
      refine ⟨?_, holds⟩
      rw [parseCivilDate, parts]
      refine bind_of_eq_some _ (parseI32_of_digits yearRead (yearBound.trans (by simp))) ?_
      refine bind_of_eq_some _ (parseUnsigned_of_digits monthRead (monthBound.trans (by simp))) ?_
      exact bind_of_eq_some _ (parseUnsigned_of_digits dayRead (dayBound.trans (by simp))) rfl
    case isFalse => cases real
  case h_2 => cases denotes

theorem parseDigits_bounded_of_unsigned {bound value : Nat} {text : String}
    (read : Text.parseUnsigned bound text = some value) : value < bound := by
  rw [Text.parseUnsigned, Option.filter_eq_some_iff] at read
  exact of_decide_eq_true read.2

/-- A year that was read is an `i32`. -/
theorem parseI32_bounds {text : String} {value : Int} (read : Text.parseI32 text = some value) :
    -2147483648 ≤ value ∧ value ≤ 2147483647 := by
  unfold Text.parseI32 at read
  split at read
  case h_1 =>
    obtain ⟨_, lifted, rfl⟩ := Option.map_eq_some_iff.mp read
    obtain ⟨digits, found, same⟩ := Option.bind_eq_some_iff.mp lifted
    cases same
    have small : digits ≤ 2147483648 := of_decide_eq_true (Option.filter_eq_some_iff.mp found).2
    omega
  case h_2 =>
    obtain ⟨digits, found, rfl⟩ := Option.map_eq_some_iff.mp read
    have small := parseDigits_bounded_of_unsigned found
    change -2147483648 ≤ (digits : Int) ∧ (digits : Int) ≤ 2147483647
    omega

theorem parseCivilDate_year {text : String} {date : CivilDate}
    (read : parseCivilDate text = some date) : -2147483648 ≤ date.year := by
  simp only [parseCivilDate, Option.bind_eq_bind, Option.bind_eq_some_iff, Option.pure_def,
    Option.some.injEq] at read
  obtain ⟨year, yearRead, _, _, _, _, rfl⟩ := read
  exact (parseI32_bounds yearRead).1

/-! ## Majority -/

/-- The addition that the check of majority makes stays within `i32`. -/
def MajorityFits (birthdate : String) (now : UInt64) : Prop :=
  ∀ birth today, parseCivilDate birthdate = some birth → civilDate now = some today →
    birth.year + 18 ≤ 2147483647

/-- Nothing overflows, and majority is asserted only of a person born at least eighteen years
before today. -/
def NeverOverAsserts (birthdate : String) (now : UInt64) : Prop :=
  MajorityFits birthdate now ∧
    (ageOver18 birthdate now = true → ∃ birth today, isoDate birthdate = some birth ∧
      civilDate now = some today ∧ ¬ today.before (birth.anniversary 18))

theorem wrapI32_of_fits {value : Int} (low : -2147483648 ≤ value) (high : value ≤ 2147483647) :
    wrapI32 value = value := by
  unfold wrapI32
  omega

section Majority

variable {birthdate : String} {now : UInt64} {birth today : CivilDate}

theorem ageOver18_eq (read : parseCivilDate birthdate = some birth)
    (clocked : civilDate now = some today) (fits : birth.year + 18 ≤ 2147483647) :
    ageOver18 birthdate now = decide (¬ today.before (birth.anniversary 18)) := by
  have low := parseCivilDate_year read
  rw [ageOver18, read, clocked]
  simp only [wrapI32_of_fits (show -2147483648 ≤ birth.year + 18 by omega) fits]
  rfl

theorem ageOver18_reads (asserted : ageOver18 birthdate now = true) :
    ∃ birth today, parseCivilDate birthdate = some birth ∧ civilDate now = some today := by
  unfold ageOver18 at asserted
  split at asserted
  case h_1 birth today read clocked => exact ⟨birth, today, read, clocked⟩
  case h_2 => cases asserted

end Majority

/-- Majority is never over-asserted exactly when the year leaves room for eighteen more, and what
is read is a date in the right form or one less than eighteen years ago. -/
theorem ageOver18_neverOverAsserts_iff (birthdate : String) (now : UInt64) :
    NeverOverAsserts birthdate now ↔
      ∀ birth today, parseCivilDate birthdate = some birth → civilDate now = some today →
        birth.year ≤ 2147483629 ∧
          (isoDate birthdate = some birth ∨ today.before (birth.anniversary 18)) := by
  constructor
  · rintro ⟨fits, sound⟩ birth today read clocked
    have room := fits birth today read clocked
    refine ⟨by omega, ?_⟩
    by_cases minor : today.before (birth.anniversary 18)
    · exact .inr minor
    · have asserted : ageOver18 birthdate now = true := by
        rw [ageOver18_eq read clocked room]
        exact decide_eq_true minor
      obtain ⟨other, _, denotes, _⟩ := sound asserted
      cases (parseCivilDate_of_isoDate denotes).1.symm.trans read
      exact .inl denotes
  · intro holds
    refine ⟨fun birth today read clocked => ?_, fun asserted => ?_⟩
    · have room := (holds birth today read clocked).1
      omega
    · obtain ⟨birth, today, read, clocked⟩ := ageOver18_reads asserted
      obtain ⟨room, denotes | minor⟩ := holds birth today read clocked
      · refine ⟨birth, today, denotes, clocked, ?_⟩
        rw [ageOver18_eq read clocked (by omega)] at asserted
        exact of_decide_eq_true asserted
      · rw [ageOver18_eq read clocked (by omega)] at asserted
        exact absurd minor (of_decide_eq_true asserted)

/-- A child of the far future counts as of age, and so does one born on no day at all. -/
theorem ageOver18_overflows :
    ageOver18 "2147483647-01-01" 1700000000 = true ∧
      ¬ NeverOverAsserts "2147483647-01-01" 1700000000 ∧
      ¬ NeverOverAsserts "1990-02-31" 1700000000 := by
  refine ⟨by decide +kernel, ?_, ?_⟩
  · rintro ⟨fits, _⟩
    exact absurd (fits ⟨2147483647, 1, 1⟩ ⟨2023, 11, 14⟩ (by decide +kernel) (by decide +kernel))
      (by decide)
  · rintro ⟨_, sound⟩
    obtain ⟨birth, _, denotes, _⟩ := sound (by decide +kernel)
    have nothing : isoDate "1990-02-31" = none := by decide
    cases nothing.symm.trans denotes

/-! ## Expiry -/

/-- A document counts as valid only on a date in the right form that has not passed, in the check
itself and in every attestation that the verifier accepts. -/
structure ExpiryFailsClosed (expiry : String) (now : UInt64) : Prop where
  valid : isExpiredDocument expiry now = false → ∃ date today, isoDate expiry = some date ∧
    civilDate now = some today ∧ ¬ date.before today
  exact : ∀ date today, isoDate expiry = some date → civilDate now = some today →
    (isExpiredDocument expiry now = true ↔ date.before today)
  accepted : ∀ (crates : Crates) (evidence : EmrtdEvidenceObject) (readerKey : Bytes)
      (issuer : Url) (nonce holderJkt : String)
      (attestation : EmrtdAttestation crates evidence readerKey issuer nonce holderJkt now),
    attestation.claims.mrz.dateOfExpiry = expiry → ∃ date today, isoDate expiry = some date ∧
      civilDate now = some today ∧ ¬ date.before today

/-- The check fails closed exactly when what is read is a date in the right form or has passed. -/
theorem isExpiredDocument_failsClosed_iff (expiry : String) (now : UInt64) :
    ExpiryFailsClosed expiry now ↔
      ∀ date today, parseCivilDate expiry = some date → civilDate now = some today →
        isoDate expiry = some date ∨ date.before today := by
  constructor
  · intro closed date today read clocked
    by_cases passed : date.before today
    · exact .inr passed
    · have kept : isExpiredDocument expiry now = false :=
        (isExpiredDocument_eq_false_iff expiry now).mpr ⟨date, today, read, clocked, passed⟩
      obtain ⟨other, _, denotes, _⟩ := closed.valid kept
      cases (parseCivilDate_of_isoDate denotes).1.symm.trans read
      exact .inl denotes
  · intro holds
    have valid : isExpiredDocument expiry now = false → ∃ date today, isoDate expiry = some date ∧
        civilDate now = some today ∧ ¬ date.before today := by
      intro kept
      obtain ⟨date, today, read, clocked, ahead⟩ :=
        (isExpiredDocument_eq_false_iff expiry now).mp kept
      exact ⟨date, today, (holds date today read clocked).resolve_right ahead, clocked, ahead⟩
    refine ⟨valid, fun date today denotes clocked => ?_,
      fun _ _ _ _ _ _ attestation named => valid (named ▸ attestation.unexpired)⟩
    rw [isExpiredDocument, (parseCivilDate_of_isoDate denotes).1, clocked]
    exact decide_eq_true_iff

/-- The thirteenth month never passes. -/
theorem isExpiredDocument_accepts_impossible : ¬ ExpiryFailsClosed "2999-13-45" 1700000000 := by
  intro closed
  obtain ⟨date, _, denotes, _⟩ := closed.valid (by decide +kernel)
  have nothing : isoDate "2999-13-45" = none := by decide
  cases nothing.symm.trans denotes

end VCIssuer.Service
