import VCIssuer.Library.Values
import VCIssuer.Library.Wire

/-!
# CBOR

Definite lengths and shortest heads are written.  The reader follows the nesting
to a fixed depth and takes one item off the front of a byte string.
-/

namespace VCIssuer.Library.Cbor

/-! ## Heads -/

def headByte (major info : Nat) : UInt8 :=
  UInt8.ofNat (major * 32 + info)

/-- The major type and the argument, in as few bytes as possible. -/
def head (major argument : Nat) : Option Bytes :=
  if argument < 24 then some [headByte major argument]
  else if argument < 256 ^ 1 then some (headByte major 24 :: toBeBytes 1 argument)
  else if argument < 256 ^ 2 then some (headByte major 25 :: toBeBytes 2 argument)
  else if argument < 256 ^ 4 then some (headByte major 26 :: toBeBytes 4 argument)
  else if argument < 256 ^ 8 then some (headByte major 27 :: toBeBytes 8 argument)
  else none

def takeBytes (count : Nat) (bytes : Bytes) : Option (Bytes × Bytes) :=
  if count ≤ bytes.length then some (bytes.take count, bytes.drop count) else none

def readArgument (width : Nat) (bytes : Bytes) : Option (Nat × Bytes) :=
  (takeBytes width bytes).map fun taken => (fromBeBytes taken.1, taken.2)

/-- The argument that goes with the low bits of a first byte. -/
def readInfo (info : Nat) (bytes : Bytes) : Option (Nat × Bytes) :=
  if info < 24 then some (info, bytes)
  else if info = 24 then readArgument 1 bytes
  else if info = 25 then readArgument 2 bytes
  else if info = 26 then readArgument 4 bytes
  else if info = 27 then readArgument 8 bytes
  else none

@[simp]
theorem takeBytes_append (front rest : Bytes) :
    takeBytes front.length (front ++ rest) = some (front, rest) := by
  simp [takeBytes]

theorem readArgument_toBeBytes {width argument : Nat} (fits : argument < 256 ^ width)
    (rest : Bytes) : readArgument width (toBeBytes width argument ++ rest) = some (argument, rest) := by
  have taken := takeBytes_append (toBeBytes width argument) rest
  rw [toBeBytes_length] at taken
  rw [readArgument, taken, Option.map_some, fromBeBytes_toBeBytes fits]

theorem headByte_toNat {major info : Nat} (small : major < 8) (low : info < 32) :
    (headByte major info).toNat / 32 = major ∧ (headByte major info).toNat % 32 = info := by
  rw [headByte, UInt8.toNat_ofNat']
  omega

/-- What a head reads as: its major type, and its argument in front of anything. -/
def HeadReads (major argument : Nat) (front : Bytes) : Prop :=
  ∃ first behind, front = first :: behind ∧ first.toNat / 32 = major ∧
    ∀ rest, readInfo (first.toNat % 32) (behind ++ rest) = some (argument, rest)

theorem headReads_argument {major info width argument : Nat} (small : major < 8) (low : info < 32)
    (reads : readInfo info = readArgument width) (fits : argument < 256 ^ width) :
    HeadReads major argument (headByte major info :: toBeBytes width argument) := by
  obtain ⟨isMajor, isInfo⟩ := headByte_toNat small low
  refine ⟨_, _, rfl, isMajor, fun rest => ?_⟩
  rw [isInfo, reads, readArgument_toBeBytes fits]

theorem head_read {major argument : Nat} {front : Bytes} (written : head major argument = some front)
    (small : major < 8) : HeadReads major argument front := by
  unfold head at written
  split at written
  case isTrue low =>
    cases written
    obtain ⟨isMajor, isInfo⟩ := headByte_toNat small (show argument < 32 by omega)
    refine ⟨_, _, rfl, isMajor, fun rest => ?_⟩
    rw [isInfo, readInfo, if_pos low, List.nil_append]
  split at written
  case isTrue fits =>
    cases written
    exact headReads_argument small (by decide) rfl fits
  split at written
  case isTrue fits =>
    cases written
    exact headReads_argument small (by decide) rfl fits
  split at written
  case isTrue fits =>
    cases written
    exact headReads_argument small (by decide) rfl fits
  split at written
  case isTrue fits =>
    cases written
    exact headReads_argument small (by decide) rfl fits
  case isFalse => cases written

/-! ## Writing -/

mutual

def write : CborValue → Option Bytes
  | .integer value => if 0 ≤ value then head 0 value.toNat else head 1 (-1 - value).toNat
  | .bytes value => (head 2 value.length).map (· ++ value)
  | .text value => (head 3 (Text.len value)).map (· ++ Text.asBytes value)
  | .array items => do
      let front ← head 4 items.length
      let back ← writeItems items
      return front ++ back
  | .map entries => do
      let front ← head 5 entries.length
      let back ← writeEntries entries
      return front ++ back
  | .tag number value => do
      let front ← head 6 number.toNat
      let back ← write value
      return front ++ back
  | .bool false => some [0xF4]
  | .bool true => some [0xF5]
  | .null => some [0xF6]
  | .float bits => some (0xFB :: toBeBytes 8 bits.toNat)

def writeItems : List CborValue → Option Bytes
  | [] => some []
  | item :: items => do
      let front ← write item
      let back ← writeItems items
      return front ++ back

def writeEntries : List (CborValue × CborValue) → Option Bytes
  | [] => some []
  | (name, value) :: entries => do
      let front ← write name
      let middle ← write value
      let back ← writeEntries entries
      return front ++ middle ++ back

end

/-! ## Parts -/

theorem head_ne_nil {major argument : Nat} {front : Bytes}
    (written : head major argument = some front) : front ≠ [] := by
  unfold head at written
  repeat' split at written
  all_goals cases written <;> simp

/-- What is written of a list of items is what is written of each of them, in order. -/
theorem writeItems_parts {items : List CborValue} {bytes : Bytes}
    (wrote : writeItems items = some bytes) :
    ∃ parts, List.Forall₂ (fun item part => write item = some part) items parts ∧
      bytes = parts.flatten := by
  induction items generalizing bytes with
  | nil =>
      cases wrote
      exact ⟨[], .nil, rfl⟩
  | cons item items carried =>
      simp only [writeItems, Option.bind_eq_bind, Option.bind_eq_some_iff, Option.pure_def,
        Option.some.injEq] at wrote
      obtain ⟨front, first, back, rest, rfl⟩ := wrote
      obtain ⟨parts, each, rfl⟩ := carried rest
      exact ⟨front :: parts, .cons first each, List.flatten_cons.symm⟩

/-- The same for entries: each is its name and its value. -/
theorem writeEntries_parts {entries : List (CborValue × CborValue)} {bytes : Bytes}
    (wrote : writeEntries entries = some bytes) :
    ∃ parts, List.Forall₂ (fun entry part => ∃ name value, write entry.1 = some name ∧
      write entry.2 = some value ∧ part = name ++ value) entries parts ∧
        bytes = parts.flatten := by
  induction entries generalizing bytes with
  | nil =>
      cases wrote
      exact ⟨[], .nil, rfl⟩
  | cons entry entries carried =>
      simp only [writeEntries, Option.bind_eq_bind, Option.bind_eq_some_iff, Option.pure_def,
        Option.some.injEq] at wrote
      obtain ⟨front, first, middle, second, back, rest, rfl⟩ := wrote
      obtain ⟨parts, each, rfl⟩ := carried rest
      exact ⟨(front ++ middle) :: parts, .cons ⟨front, middle, first, second, rfl⟩ each,
        List.flatten_cons.symm⟩

/-! ## Reading -/

section Sequences

variable {α : Type} (read : Bytes → Option (α × Bytes))

def readMany : Nat → Bytes → Option (List α × Bytes)
  | 0, bytes => some ([], bytes)
  | count + 1, bytes => do
      let (first, behind) ← read bytes
      let (others, rest) ← readMany count behind
      return (first :: others, rest)

def readPair (bytes : Bytes) : Option ((α × α) × Bytes) := do
  let (name, behind) ← read bytes
  let (value, rest) ← read behind
  return ((name, value), rest)

end Sequences

/-- Simple values and doubles. -/
def readSimple (first : UInt8) (bytes : Bytes) : Option (CborValue × Bytes) :=
  if first = 0xF4 then some (.bool false, bytes)
  else if first = 0xF5 then some (.bool true, bytes)
  else if first = 0xF6 then some (.null, bytes)
  else if first = 0xFB then
    (readArgument 8 bytes).map fun read => (.float (UInt64.ofNat read.1), read.2)
  else none

/-- One item, and what follows it. -/
def readValue : Nat → Bytes → Option (CborValue × Bytes)
  | 0, _ => none
  | _, [] => none
  | depth + 1, first :: behind =>
      if first.toNat / 32 = 7 then readSimple first behind
      else do
        let (argument, rest) ← readInfo (first.toNat % 32) behind
        match first.toNat / 32 with
        | 0 => some (.integer argument, rest)
        | 1 => some (.integer (-1 - argument), rest)
        | 2 => (takeBytes argument rest).map fun taken => (.bytes taken.1, taken.2)
        | 3 => do
            let (octets, last) ← takeBytes argument rest
            let text ← Text.ofBytes octets
            return (.text text, last)
        | 4 => (readMany (readValue depth) argument rest).map fun read => (.array read.1, read.2)
        | 5 =>
            (readMany (readPair (readValue depth)) argument rest).map fun read =>
              (.map read.1, read.2)
        | 6 => (readValue depth rest).map fun read => (.tag (UInt64.ofNat argument) read.1, read.2)
        | _ => none

/-- The depth to which nested values are followed. -/
def recursionLimit : Nat := 256

/-- The first item of a byte string and the position behind it. -/
def fromReader (bytes : Bytes) : Option (CborValue × Nat) :=
  (readValue recursionLimit bytes).map fun read => (read.1, bytes.length - read.2.length)

/-! ## Items come back -/

section Sequences

variable {α : Type} {read : Bytes → Option (α × Bytes)}

theorem readMany_writeItems (read : Bytes → Option (CborValue × Bytes)) {items : List CborValue}
    (reads : ∀ item ∈ items, ∀ written rest, write item = some written →
      read (written ++ rest) = some (item, rest))
    {written : Bytes} (wrote : writeItems items = some written) (rest : Bytes) :
    readMany read items.length (written ++ rest) = some (items, rest) := by
  induction items generalizing written with
  | nil =>
      cases wrote
      rfl
  | cons item items carried =>
      simp only [writeItems, Option.bind_eq_bind, Option.bind_eq_some_iff, Option.pure_def,
        Option.some.injEq] at wrote
      obtain ⟨front, first, back, others, rfl⟩ := wrote
      have again := carried (fun other member => reads other (.tail _ member)) others
      rw [List.length_cons, readMany, List.append_assoc, reads item (.head _) _ _ first]
      simp only [Option.bind_eq_bind, Option.bind_some, again, Option.pure_def]

theorem readMany_writeEntries (read : Bytes → Option (CborValue × Bytes))
    {entries : List (CborValue × CborValue)}
    (names : ∀ entry ∈ entries, ∀ written rest, write entry.1 = some written →
      read (written ++ rest) = some (entry.1, rest))
    (values : ∀ entry ∈ entries, ∀ written rest, write entry.2 = some written →
      read (written ++ rest) = some (entry.2, rest))
    {written : Bytes} (wrote : writeEntries entries = some written) (rest : Bytes) :
    readMany (readPair read) entries.length (written ++ rest) = some (entries, rest) := by
  induction entries generalizing written with
  | nil =>
      cases wrote
      rfl
  | cons entry entries carried =>
      simp only [writeEntries, Option.bind_eq_bind, Option.bind_eq_some_iff, Option.pure_def,
        Option.some.injEq] at wrote
      obtain ⟨front, name, middle, value, back, others, rfl⟩ := wrote
      have again := carried (fun other member => names other (.tail _ member))
        (fun other member => values other (.tail _ member)) others
      rw [List.length_cons, readMany, readPair, List.append_assoc, List.append_assoc,
        names entry (.head _) _ _ name]
      simp only [Option.bind_eq_bind, Option.bind_some, values entry (.head _) _ _ value, again,
        Option.pure_def]

end Sequences

theorem readValue_write {depth : Nat} {value : CborValue} (plain : PlainCbor depth value)
    {written : Bytes} (wrote : write value = some written) (rest : Bytes) :
    readValue (depth + 1) (written ++ rest) = some (value, rest) := by
  induction plain generalizing written rest with
  | @integer _ value low high =>
      rw [write] at wrote
      split at wrote
      case isTrue natural =>
        obtain ⟨first, behind, rfl, major, info⟩ := head_read wrote (by decide)
        simp [readValue, major, info, Int.toNat_of_nonneg natural]
      case isFalse negative =>
        obtain ⟨first, behind, rfl, major, info⟩ := head_read wrote (by decide)
        have back : -1 - ((-1 - value).toNat : Int) = value := by omega
        simp only [List.cons_append, readValue, major, info, Option.bind_eq_bind,
          Option.bind_some, back]
        rfl
  | @bytes _ value =>
      obtain ⟨front, wroteFront, rfl⟩ := Option.map_eq_some_iff.mp wrote
      obtain ⟨first, behind, rfl, major, info⟩ := head_read wroteFront (by decide)
      simp [readValue, major, info]
  | @text _ value =>
      obtain ⟨front, wroteFront, rfl⟩ := Option.map_eq_some_iff.mp wrote
      obtain ⟨first, behind, rfl, major, info⟩ := head_read wroteFront (by decide)
      have taken := takeBytes_append (Text.asBytes value) rest
      simp [readValue, major, info, Text.len, taken]
  | @bool _ value =>
      cases value <;> cases wrote <;> rfl
  | null =>
      cases wrote
      rfl
  | @array depth items plain carried =>
      simp only [write, Option.bind_eq_bind, Option.bind_eq_some_iff, Option.pure_def,
        Option.some.injEq] at wrote
      obtain ⟨front, wroteFront, back, wroteItems, rfl⟩ := wrote
      obtain ⟨first, behind, rfl, major, info⟩ := head_read wroteFront (by decide)
      have again := readMany_writeItems (readValue (depth + 1))
        (fun item member written rest wrote => carried item member wrote rest) wroteItems rest
      simp [readValue, major, info, again]
  | @map depth entries names values namesCarried valuesCarried =>
      simp only [write, Option.bind_eq_bind, Option.bind_eq_some_iff, Option.pure_def,
        Option.some.injEq] at wrote
      obtain ⟨front, wroteFront, back, wroteEntries, rfl⟩ := wrote
      obtain ⟨first, behind, rfl, major, info⟩ := head_read wroteFront (by decide)
      have again := readMany_writeEntries (readValue (depth + 1))
        (fun entry member written rest wrote => namesCarried entry member wrote rest)
        (fun entry member written rest wrote => valuesCarried entry member wrote rest)
        wroteEntries rest
      simp [readValue, major, info, again]
  | @tag depth number value other plain carried =>
      simp only [write, Option.bind_eq_bind, Option.bind_eq_some_iff, Option.pure_def,
        Option.some.injEq] at wrote
      obtain ⟨front, wroteFront, back, wroteValue, rfl⟩ := wrote
      obtain ⟨first, behind, rfl, major, info⟩ := head_read wroteFront (by decide)
      have again := carried wroteValue rest
      simp [readValue, major, info, again]

/-- What was written is read to the last byte. -/
theorem fromReader_write {depth : Nat} {value : CborValue} (plain : PlainCbor depth value)
    (shallow : depth < recursionLimit) {written : Bytes} (wrote : write value = some written) :
    fromReader written = some (value, written.length) := by
  have read := readValue_write (plain.mono (Nat.le_sub_one_of_lt shallow)) wrote []
  have limit : recursionLimit = recursionLimit - 1 + 1 := rfl
  rw [List.append_nil, ← limit] at read
  rw [fromReader, read]
  rfl

/-! ## Lengths -/

mutual

/-- A bound on the length of what is written for a value. -/
def size : CborValue → Nat
  | .integer _ | .bool _ | .null | .float _ => 9
  | .bytes value => 9 + value.length
  | .text value => 9 + Text.len value
  | .array items => 9 + sizeItems items
  | .map entries => 9 + sizeEntries entries
  | .tag _ value => 9 + size value

def sizeItems : List CborValue → Nat
  | [] => 0
  | item :: items => size item + sizeItems items

def sizeEntries : List (CborValue × CborValue) → Nat
  | [] => 0
  | (name, value) :: entries => size name + size value + sizeEntries entries

end

theorem size_pos (value : CborValue) : 9 ≤ size value := by
  cases value <;> simp [size]

theorem length_le_sizeItems (items : List CborValue) : items.length ≤ sizeItems items := by
  induction items with
  | nil => exact Nat.le_refl 0
  | cons item items carried =>
      have first := size_pos item
      rw [List.length_cons, sizeItems]
      omega

theorem length_le_sizeEntries (entries : List (CborValue × CborValue)) :
    entries.length ≤ sizeEntries entries := by
  induction entries with
  | nil => exact Nat.le_refl 0
  | cons entry entries carried =>
      have first := size_pos entry.1
      rw [List.length_cons, sizeEntries]
      omega

theorem exists_head (major : Nat) {argument : Nat} (fits : argument < 2 ^ 64) :
    ∃ front, head major argument = some front ∧ front.length ≤ 9 := by
  have eight : argument < 256 ^ 8 := fits
  unfold head
  repeat' split
  · exact ⟨_, rfl, by simp⟩
  · exact ⟨_, rfl, by simp⟩
  · exact ⟨_, rfl, by simp⟩
  · exact ⟨_, rfl, by simp⟩
  · exact ⟨_, rfl, by simp⟩

/-- The value is written when it is not too large for the heads. -/
def Writes (value : CborValue) : Prop :=
  size value < 2 ^ 64 → ∃ written, write value = some written ∧ written.length ≤ size value

theorem exists_writeItems {items : List CborValue} (each : ∀ item ∈ items, Writes item)
    (fits : sizeItems items < 2 ^ 64) :
    ∃ written, writeItems items = some written ∧ written.length ≤ sizeItems items := by
  induction items with
  | nil => exact ⟨[], rfl, Nat.le_refl 0⟩
  | cons item items carried =>
      rw [sizeItems] at fits
      obtain ⟨front, wroteFront, frontLength⟩ := each item (.head _) (by omega)
      obtain ⟨back, wroteBack, backLength⟩ :=
        carried (fun other member => each other (.tail _ member)) (by omega)
      refine ⟨front ++ back, by rw [writeItems, wroteFront, wroteBack]; rfl, ?_⟩
      rw [List.length_append, sizeItems]
      omega

theorem exists_writeEntries {entries : List (CborValue × CborValue)}
    (names : ∀ entry ∈ entries, Writes entry.1) (values : ∀ entry ∈ entries, Writes entry.2)
    (fits : sizeEntries entries < 2 ^ 64) :
    ∃ written, writeEntries entries = some written ∧ written.length ≤ sizeEntries entries := by
  induction entries with
  | nil => exact ⟨[], rfl, Nat.le_refl 0⟩
  | cons entry entries carried =>
      rw [sizeEntries] at fits
      obtain ⟨front, wroteFront, frontLength⟩ := names entry (.head _) (by omega)
      obtain ⟨middle, wroteMiddle, middleLength⟩ := values entry (.head _) (by omega)
      obtain ⟨back, wroteBack, backLength⟩ := carried
        (fun other member => names other (.tail _ member))
        (fun other member => values other (.tail _ member)) (by omega)
      refine ⟨front ++ middle ++ back,
        by rw [writeEntries, wroteFront, wroteMiddle, wroteBack]; rfl, ?_⟩
      rw [List.length_append, List.length_append, sizeEntries]
      omega

theorem plain_writes {depth : Nat} {value : CborValue} (plain : PlainCbor depth value) :
    Writes value := by
  intro fits
  induction plain with
  | @integer _ value low high =>
      by_cases natural : 0 ≤ value
      · obtain ⟨front, wrote, length⟩ := exists_head 0 (show value.toNat < 2 ^ 64 by omega)
        exact ⟨front, by rw [write, if_pos natural, wrote], length⟩
      · obtain ⟨front, wrote, length⟩ := exists_head 1 (show (-1 - value).toNat < 2 ^ 64 by omega)
        exact ⟨front, by rw [write, if_neg natural, wrote], length⟩
  | @bytes _ value =>
      rw [size] at fits ⊢
      obtain ⟨front, wrote, length⟩ := exists_head 2 (show value.length < 2 ^ 64 by omega)
      refine ⟨front ++ value, by rw [write, wrote]; rfl, ?_⟩
      rw [List.length_append]
      omega
  | @text _ value =>
      rw [size] at fits ⊢
      obtain ⟨front, wrote, length⟩ := exists_head 3 (show Text.len value < 2 ^ 64 by omega)
      refine ⟨front ++ Text.asBytes value, by rw [write, wrote]; rfl, ?_⟩
      rw [List.length_append, ← Text.len]
      omega
  | @bool _ value => cases value <;> exact ⟨_, rfl, by decide⟩
  | null => exact ⟨_, rfl, by decide⟩
  | @array _ items plain carried =>
      rw [size] at fits ⊢
      have count := length_le_sizeItems items
      obtain ⟨front, wroteFront, frontLength⟩ :=
        exists_head 4 (show items.length < 2 ^ 64 by omega)
      obtain ⟨back, wroteBack, backLength⟩ := exists_writeItems carried (by omega)
      refine ⟨front ++ back, by rw [write, wroteFront, wroteBack]; rfl, ?_⟩
      rw [List.length_append]
      omega
  | @map _ entries names values namesCarried valuesCarried =>
      rw [size] at fits ⊢
      have count := length_le_sizeEntries entries
      obtain ⟨front, wroteFront, frontLength⟩ :=
        exists_head 5 (show entries.length < 2 ^ 64 by omega)
      obtain ⟨back, wroteBack, backLength⟩ :=
        exists_writeEntries namesCarried valuesCarried (by omega)
      refine ⟨front ++ back, by rw [write, wroteFront, wroteBack]; rfl, ?_⟩
      rw [List.length_append]
      omega
  | @tag _ number value _ _ carried =>
      rw [size] at fits ⊢
      obtain ⟨front, wroteFront, frontLength⟩ := exists_head 6 number.toNat_lt
      obtain ⟨back, wroteBack, backLength⟩ := carried (by omega)
      refine ⟨front ++ back, by rw [write, wroteFront, wroteBack]; rfl, ?_⟩
      rw [List.length_append]
      omega

/-! ## Exact lengths -/

/-- How many octets a head takes with this argument. -/
def headLength (argument : Nat) : Nat :=
  if argument < 24 then 1
  else if argument < 256 ^ 1 then 2
  else if argument < 256 ^ 2 then 3
  else if argument < 256 ^ 4 then 5
  else 9

/-- How many octets a string of `count` octets takes with its head. -/
def stringLength (count : Nat) : Nat :=
  headLength count + count

mutual

/-- The length of what is written for a value. -/
def length : CborValue → Nat
  | .integer value => headLength (if 0 ≤ value then value.toNat else (-1 - value).toNat)
  | .bytes value => stringLength value.length
  | .text value => stringLength (Text.len value)
  | .array items => headLength items.length + lengthItems items
  | .map entries => headLength entries.length + lengthEntries entries
  | .tag number value => headLength number.toNat + length value
  | .bool _ | .null => 1
  | .float _ => 9

def lengthItems : List CborValue → Nat
  | [] => 0
  | item :: items => length item + lengthItems items

def lengthEntries : List (CborValue × CborValue) → Nat
  | [] => 0
  | (name, value) :: entries => length name + length value + lengthEntries entries

end

theorem length_head {major argument : Nat} {front : Bytes}
    (wrote : head major argument = some front) : front.length = headLength argument := by
  unfold head at wrote
  unfold headLength
  repeat' split at wrote
  all_goals cases wrote
  all_goals simp only [List.length_cons, List.length_nil, toBeBytes_length]
  all_goals grind

/-- The value is written in as many octets as its length says. -/
def Measured (value : CborValue) : Prop :=
  ∀ written, write value = some written → written.length = length value

theorem length_writeItems {items : List CborValue} (each : ∀ item ∈ items, Measured item)
    {written : Bytes} (wrote : writeItems items = some written) :
    written.length = lengthItems items := by
  induction items generalizing written with
  | nil =>
      cases wrote
      rfl
  | cons item items carried =>
      simp only [writeItems, Option.bind_eq_bind, Option.bind_eq_some_iff, Option.pure_def,
        Option.some.injEq] at wrote
      obtain ⟨front, first, back, others, rfl⟩ := wrote
      rw [List.length_append, lengthItems, each item (.head _) front first,
        carried (fun other member => each other (.tail _ member)) others]

theorem length_writeEntries {entries : List (CborValue × CborValue)}
    (names : ∀ entry ∈ entries, Measured entry.1) (values : ∀ entry ∈ entries, Measured entry.2)
    {written : Bytes} (wrote : writeEntries entries = some written) :
    written.length = lengthEntries entries := by
  induction entries generalizing written with
  | nil =>
      cases wrote
      rfl
  | cons entry entries carried =>
      simp only [writeEntries, Option.bind_eq_bind, Option.bind_eq_some_iff, Option.pure_def,
        Option.some.injEq] at wrote
      obtain ⟨front, name, middle, value, back, others, rfl⟩ := wrote
      rw [List.length_append, List.length_append, lengthEntries,
        names entry (.head _) front name, values entry (.head _) middle value,
        carried (fun other member => names other (.tail _ member))
          (fun other member => values other (.tail _ member)) others]

theorem plain_measured {depth : Nat} {value : CborValue} (plain : PlainCbor depth value) :
    Measured value := by
  intro written wrote
  induction plain generalizing written with
  | integer =>
      rw [write] at wrote
      rw [length]
      split at wrote <;> rw [length_head wrote]
      case isTrue natural => rw [if_pos natural]
      case isFalse negative => rw [if_neg negative]
  | bytes =>
      obtain ⟨front, wroteFront, rfl⟩ := Option.map_eq_some_iff.mp wrote
      rw [List.length_append, length_head wroteFront, length, stringLength]
  | text =>
      obtain ⟨front, wroteFront, rfl⟩ := Option.map_eq_some_iff.mp wrote
      rw [List.length_append, length_head wroteFront, length, stringLength, Text.len]
  | @bool _ value => cases value <;> cases wrote <;> rfl
  | null =>
      cases wrote
      rfl
  | array _ carried =>
      simp only [write, Option.bind_eq_bind, Option.bind_eq_some_iff, Option.pure_def,
        Option.some.injEq] at wrote
      obtain ⟨front, wroteFront, back, wroteItems, rfl⟩ := wrote
      rw [List.length_append, length_head wroteFront, length_writeItems carried wroteItems, length]
  | map _ _ namesCarried valuesCarried =>
      simp only [write, Option.bind_eq_bind, Option.bind_eq_some_iff, Option.pure_def,
        Option.some.injEq] at wrote
      obtain ⟨front, wroteFront, back, wroteEntries, rfl⟩ := wrote
      rw [List.length_append, length_head wroteFront,
        length_writeEntries namesCarried valuesCarried wroteEntries, length]
  | tag _ _ carried =>
      simp only [write, Option.bind_eq_bind, Option.bind_eq_some_iff, Option.pure_def,
        Option.some.injEq] at wrote
      obtain ⟨front, wroteFront, back, wroteValue, rfl⟩ := wrote
      rw [List.length_append, length_head wroteFront, carried _ wroteValue, length]

theorem headLength_pos (argument : Nat) : 1 ≤ headLength argument := by
  unfold headLength
  repeat' split
  all_goals omega

mutual

/-- The bound is not much too large: no head is shorter than one octet or taken for more than
nine. -/
theorem size_le (value : CborValue) : size value ≤ 9 * length value := by
  cases value with
  | integer value =>
      have positive := headLength_pos (if 0 ≤ value then value.toNat else (-1 - value).toNat)
      rw [size, length]
      omega
  | bytes value =>
      have positive := headLength_pos value.length
      rw [size, length, stringLength]
      omega
  | text value =>
      have positive := headLength_pos (Text.len value)
      rw [size, length, stringLength]
      omega
  | array items =>
      have positive := headLength_pos items.length
      have inside := sizeItems_le items
      rw [size, length]
      omega
  | map entries =>
      have positive := headLength_pos entries.length
      have inside := sizeEntries_le entries
      rw [size, length]
      omega
  | tag number value =>
      have positive := headLength_pos number.toNat
      have inside := size_le value
      rw [size, length]
      omega
  | bool => exact Nat.le_refl 9
  | null => exact Nat.le_refl 9
  | float =>
      rw [size, length]
      decide

theorem sizeItems_le (items : List CborValue) : sizeItems items ≤ 9 * lengthItems items := by
  cases items with
  | nil => exact Nat.le_refl 0
  | cons item items =>
      have first := size_le item
      have others := sizeItems_le items
      rw [sizeItems, lengthItems]
      omega

theorem sizeEntries_le (entries : List (CborValue × CborValue)) :
    sizeEntries entries ≤ 9 * lengthEntries entries := by
  cases entries with
  | nil => exact Nat.le_refl 0
  | cons entry entries =>
      obtain ⟨name, value⟩ := entry
      have first := size_le name
      have second := size_le value
      have others := sizeEntries_le entries
      rw [sizeEntries, lengthEntries]
      omega

end

end VCIssuer.Library.Cbor
