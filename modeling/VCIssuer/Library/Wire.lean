import VCIssuer.Library.Text

/-!
# Byte-level encodings

Big-endian numbers, and encodings that can be told apart from what follows them.
Such encodings compose: a sequence of them determines its members.
-/

namespace VCIssuer.Library

/-! ## Big-endian numbers -/

/-- The number that a byte string spells in big-endian order. -/
def fromBeBytes (bytes : Bytes) : Nat :=
  bytes.foldl (fun value byte => 256 * value + byte.toNat) 0

/-- The low `width` bytes of a number in big-endian order. -/
def toBeBytes : Nat → Nat → Bytes
  | 0, _ => []
  | width + 1, value => toBeBytes width (value / 256) ++ [UInt8.ofNat (value % 256)]

theorem fromBeBytes_append_singleton (bytes : Bytes) (byte : UInt8) :
    fromBeBytes (bytes ++ [byte]) = 256 * fromBeBytes bytes + byte.toNat := by
  unfold fromBeBytes
  rw [List.foldl_append]
  rfl

@[simp]
theorem toBeBytes_length (width value : Nat) : (toBeBytes width value).length = width := by
  induction width generalizing value with
  | zero => rfl
  | succ width carried => simp [toBeBytes, carried]

theorem fromBeBytes_toBeBytes {width value : Nat} (fits : value < 256 ^ width) :
    fromBeBytes (toBeBytes width value) = value := by
  induction width generalizing value with
  | zero =>
      have zero : value = 0 := by simpa using fits
      subst zero
      rfl
  | succ width carried =>
      have smaller : value / 256 < 256 ^ width := by
        rw [Nat.div_lt_iff_lt_mul (by decide)]
        rwa [Nat.pow_succ] at fits
      have low : (UInt8.ofNat (value % 256)).toNat = value % 256 := by
        rw [UInt8.toNat_ofNat']
        omega
      rw [toBeBytes, fromBeBytes_append_singleton, carried smaller, low]
      omega

theorem fromBeBytes_lt (bytes : Bytes) : fromBeBytes bytes < 256 ^ bytes.length := by
  induction bytes using List.reverseRecOn with
  | nil => exact Nat.one_pos
  | append_singleton bytes byte carried =>
      have small : byte.toNat < 256 := byte.toNat_lt
      rw [fromBeBytes_append_singleton, List.length_append, List.length_singleton, Nat.pow_succ]
      omega

theorem toBeBytes_fromBeBytes (bytes : Bytes) :
    toBeBytes bytes.length (fromBeBytes bytes) = bytes := by
  induction bytes using List.reverseRecOn with
  | nil => rfl
  | append_singleton bytes byte carried =>
      have small : byte.toNat < 256 := byte.toNat_lt
      have high : (256 * fromBeBytes bytes + byte.toNat) / 256 = fromBeBytes bytes := by omega
      have low : (256 * fromBeBytes bytes + byte.toNat) % 256 = byte.toNat := by omega
      rw [fromBeBytes_append_singleton, List.length_append, List.length_singleton, toBeBytes, high,
        low, carried, UInt8.ofNat_toNat]

theorem toBeBytes_injective {width value other : Nat} (fits : value < 256 ^ width)
    (otherFits : other < 256 ^ width) (same : toBeBytes width value = toBeBytes width other) :
    value = other := by
  rw [← fromBeBytes_toBeBytes fits, same, fromBeBytes_toBeBytes otherFits]

/-! ## Self-delimiting encodings -/

section Delimited

variable {α β τ : Type} {P : α → Prop} {encode : α → List τ}

/-- Among the values with `P`, an encoding followed by anything determines the value and what
follows it. -/
def SelfDelimiting (P : α → Prop) (encode : α → List τ) : Prop :=
  ∀ (a b : α) (rest other : List τ), P a → P b → encode a ++ rest = encode b ++ other →
    a = b ∧ rest = other

theorem SelfDelimiting.injective (delimited : SelfDelimiting P encode) {a b : α} (first : P a)
    (second : P b) (same : encode a = encode b) : a = b :=
  (delimited a b [] [] first second (by rw [same])).1

/-- Encodings of one length need no delimiter. -/
theorem SelfDelimiting.of_length {length : Nat} (fixed : ∀ a, P a → (encode a).length = length)
    (injective : ∀ a b, P a → P b → encode a = encode b → a = b) :
    SelfDelimiting P encode := by
  intro a b rest other first second same
  obtain ⟨front, back⟩ := List.append_inj same (by rw [fixed a first, fixed b second])
  exact ⟨injective a b first second front, back⟩

/-- Sequences of the same length determine their members. -/
theorem SelfDelimiting.flatMap (delimited : SelfDelimiting P encode) {values others : List α}
    {rest other : List τ} (lengths : values.length = others.length) (first : ∀ a ∈ values, P a)
    (second : ∀ a ∈ others, P a)
    (same : values.flatMap encode ++ rest = others.flatMap encode ++ other) :
    values = others ∧ rest = other := by
  induction values generalizing others with
  | nil =>
      cases List.length_eq_zero_iff.mp lengths.symm
      exact ⟨rfl, same⟩
  | cons a values carried =>
      cases others with
      | nil => cases lengths
      | cons b others =>
          simp only [List.flatMap_cons, List.append_assoc] at same
          obtain ⟨rfl, behind⟩ := delimited a b _ _ (first a (.head _)) (second b (.head _)) same
          obtain ⟨rfl, last⟩ := carried (Nat.succ.inj lengths)
            (fun c member => first c (.tail _ member)) (fun c member => second c (.tail _ member))
            behind
          exact ⟨rfl, last⟩

/-- Two encodings one after the other. -/
theorem SelfDelimiting.prod {Q : β → Prop} {encodeNext : β → List τ}
    (delimited : SelfDelimiting P encode) (next : SelfDelimiting Q encodeNext) :
    SelfDelimiting (fun pair : α × β => P pair.1 ∧ Q pair.2)
      (fun pair => encode pair.1 ++ encodeNext pair.2) := by
  rintro ⟨a, c⟩ ⟨b, d⟩ rest other ⟨firstA, firstC⟩ ⟨secondB, secondD⟩ same
  simp only [List.append_assoc] at same
  obtain ⟨rfl, behind⟩ := delimited a b _ _ firstA secondB same
  obtain ⟨rfl, last⟩ := next c d _ _ firstC secondD behind
  exact ⟨rfl, last⟩

end Delimited

/-! ## Length prefixes -/

/-- A byte string after its length in four bytes. -/
def component (bytes : Bytes) : Bytes :=
  toBeBytes 4 bytes.length ++ bytes

theorem component_delimited : SelfDelimiting (fun bytes : Bytes => bytes.length < 2 ^ 32)
    component := by
  intro a b rest other first second same
  simp only [component, List.append_assoc] at same
  obtain ⟨lengths, behind⟩ := List.append_inj same (by simp)
  exact List.append_inj behind (toBeBytes_injective first second lengths)

/-- A one-byte tag before a length-prefixed byte string. -/
def taggedComponent (field : UInt8 × Bytes) : Bytes :=
  [field.1] ++ component field.2

theorem taggedComponent_delimited :
    SelfDelimiting (fun field : UInt8 × Bytes => True ∧ field.2.length < 2 ^ 32)
      taggedComponent := by
  have tag : SelfDelimiting (fun _ : UInt8 => True) fun tag => [tag] :=
    SelfDelimiting.of_length (fun _ _ => rfl) fun _ _ _ _ same => List.singleton_inj.mp same
  exact SelfDelimiting.prod tag component_delimited

end VCIssuer.Library
