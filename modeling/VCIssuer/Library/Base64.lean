import Mathlib.Data.List.GetD
import VCIssuer.Library.Text

/-!
# Base64

Three octets are spelled by four symbols.  A shorter last group leaves bits over,
which must be zero, and is padded to four characters in the padded form only.
-/

namespace VCIssuer.Library

/-- An alphabet of 64 symbols, with or without padding. -/
structure Base64 where
  symbols : List Char
  padded : Bool
  size : symbols.length = 64
  distinct : symbols.Nodup
  noPadding : '=' ∉ symbols

namespace Base64

variable (engine : Base64)

/-! ## Encoding -/

def symbol (value : Nat) : Char :=
  engine.symbols.getD value '='

def padding (count : Nat) : List Char :=
  if engine.padded then List.replicate count '=' else []

def encodeChars : Bytes → List Char
  | [] => []
  | [a] =>
      [engine.symbol (a.toNat / 4), engine.symbol (a.toNat % 4 * 16)] ++ engine.padding 2
  | [a, b] =>
      [ engine.symbol (a.toNat / 4), engine.symbol (a.toNat % 4 * 16 + b.toNat / 16),
        engine.symbol (b.toNat % 16 * 4) ] ++ engine.padding 1
  | a :: b :: c :: rest =>
      engine.symbol (a.toNat / 4) :: engine.symbol (a.toNat % 4 * 16 + b.toNat / 16) ::
        engine.symbol (b.toNat % 16 * 4 + c.toNat / 64) :: engine.symbol (c.toNat % 64) ::
        encodeChars rest

def encode (bytes : Bytes) : String :=
  String.ofList (engine.encodeChars bytes)

/-! ## Decoding -/

def value (c : Char) : Option Nat :=
  let index := engine.symbols.idxOf c
  if index < 64 then some index else none

/-- The octet spelled by the low bits of one symbol's value and the high bits of the next. -/
def octet (high low : Nat) : UInt8 :=
  UInt8.ofNat (high + low)

def decodeTwo (a b : Char) : Option Bytes := do
  let a ← engine.value a
  let b ← engine.value b
  if b % 16 = 0 then some [octet (a * 4) (b / 16)] else none

def decodeThree (a b c : Char) : Option Bytes := do
  let a ← engine.value a
  let b ← engine.value b
  let c ← engine.value c
  if c % 4 = 0 then some [octet (a * 4) (b / 16), octet (b % 16 * 16) (c / 4)] else none

def decodeFour (a b c d : Char) : Option Bytes := do
  let a ← engine.value a
  let b ← engine.value b
  let c ← engine.value c
  let d ← engine.value d
  return [octet (a * 4) (b / 16), octet (b % 16 * 16) (c / 4), octet (c % 4 * 64) d]

def decodeChars : List Char → Option Bytes
  | [] => some []
  | [a, b] => if engine.padded then none else engine.decodeTwo a b
  | [a, b, c] => if engine.padded then none else engine.decodeThree a b c
  | a :: b :: c :: d :: rest =>
      if engine.padded ∧ rest = [] ∧ d = '=' then
        if c = '=' then engine.decodeTwo a b else engine.decodeThree a b c
      else do
        let front ← engine.decodeFour a b c d
        let back ← decodeChars rest
        return front ++ back
  | _ => none

def decode (text : String) : Option Bytes :=
  engine.decodeChars text.toList

/-! ## The two alphabets in use -/

def standardSymbols : List Char :=
  "ABCDEFGHIJKLMNOPQRSTUVWXYZabcdefghijklmnopqrstuvwxyz0123456789+/".toList

def urlSafeSymbols : List Char :=
  "ABCDEFGHIJKLMNOPQRSTUVWXYZabcdefghijklmnopqrstuvwxyz0123456789-_".toList

def standard : Base64 where
  symbols := standardSymbols
  padded := true
  size := by decide
  distinct := by decide
  noPadding := by decide

def urlSafeNoPad : Base64 where
  symbols := urlSafeSymbols
  padded := false
  size := by decide
  distinct := by decide
  noPadding := by decide

/-! ## Round trip -/

theorem symbol_mem {value : Nat} (small : value < 64) : engine.symbol value ∈ engine.symbols := by
  have bounded : value < engine.symbols.length := by rw [engine.size]; exact small
  rw [symbol, List.getD_eq_getElem _ _ bounded]
  exact List.getElem_mem bounded

theorem symbol_ne_padding (value : Nat) (small : value < 64) : engine.symbol value ≠ '=' :=
  fun same => engine.noPadding (same ▸ engine.symbol_mem small)

@[simp]
theorem value_symbol {value : Nat} (small : value < 64) :
    engine.value (engine.symbol value) = some value := by
  have bounded : value < engine.symbols.length := by rw [engine.size]; exact small
  rw [Base64.value, symbol, List.getD_eq_getElem _ _ bounded,
    engine.distinct.idxOf_getElem value bounded]
  exact if_pos small

theorem octet_eq {high low : Nat} {byte : UInt8} (same : high + low = byte.toNat) :
    octet high low = byte := by
  rw [octet, same, UInt8.ofNat_toNat]

theorem decodeTwo_symbols (a : UInt8) :
    engine.decodeTwo (engine.symbol (a.toNat / 4)) (engine.symbol (a.toNat % 4 * 16)) =
      some [a] := by
  have bound := a.toNat_lt
  have first : a.toNat / 4 < 64 := by omega
  have second : a.toNat % 4 * 16 < 64 := by omega
  have whole : octet (a.toNat / 4 * 4) (a.toNat % 4 * 16 / 16) = a := octet_eq (by omega)
  simp only [decodeTwo, value_symbol _ first, value_symbol _ second, Option.bind_eq_bind,
    Option.bind_some, Nat.mul_mod_left, if_true, whole]

theorem decodeThree_symbols (a b : UInt8) :
    engine.decodeThree (engine.symbol (a.toNat / 4))
      (engine.symbol (a.toNat % 4 * 16 + b.toNat / 16)) (engine.symbol (b.toNat % 16 * 4)) =
      some [a, b] := by
  have boundA := a.toNat_lt
  have boundB := b.toNat_lt
  have first : a.toNat / 4 < 64 := by omega
  have second : a.toNat % 4 * 16 + b.toNat / 16 < 64 := by omega
  have third : b.toNat % 16 * 4 < 64 := by omega
  have wholeA : octet (a.toNat / 4 * 4) ((a.toNat % 4 * 16 + b.toNat / 16) / 16) = a :=
    octet_eq (by omega)
  have wholeB : octet ((a.toNat % 4 * 16 + b.toNat / 16) % 16 * 16) (b.toNat % 16 * 4 / 4) = b :=
    octet_eq (by omega)
  simp only [decodeThree, value_symbol _ first, value_symbol _ second, value_symbol _ third,
    Option.bind_eq_bind, Option.bind_some, Nat.mul_mod_left, if_true, wholeA, wholeB]

theorem decodeFour_symbols (a b c : UInt8) :
    engine.decodeFour (engine.symbol (a.toNat / 4))
      (engine.symbol (a.toNat % 4 * 16 + b.toNat / 16))
      (engine.symbol (b.toNat % 16 * 4 + c.toNat / 64)) (engine.symbol (c.toNat % 64)) =
      some [a, b, c] := by
  have boundA := a.toNat_lt
  have boundB := b.toNat_lt
  have boundC := c.toNat_lt
  have first : a.toNat / 4 < 64 := by omega
  have second : a.toNat % 4 * 16 + b.toNat / 16 < 64 := by omega
  have third : b.toNat % 16 * 4 + c.toNat / 64 < 64 := by omega
  have fourth : c.toNat % 64 < 64 := by omega
  have wholeA : octet (a.toNat / 4 * 4) ((a.toNat % 4 * 16 + b.toNat / 16) / 16) = a :=
    octet_eq (by omega)
  have wholeB : octet ((a.toNat % 4 * 16 + b.toNat / 16) % 16 * 16)
      ((b.toNat % 16 * 4 + c.toNat / 64) / 4) = b := octet_eq (by omega)
  have wholeC : octet ((b.toNat % 16 * 4 + c.toNat / 64) % 4 * 64) (c.toNat % 64) = c :=
    octet_eq (by omega)
  simp only [decodeFour, value_symbol _ first, value_symbol _ second, value_symbol _ third,
    value_symbol _ fourth, Option.bind_eq_bind, Option.bind_some, Option.pure_def, wholeA, wholeB,
    wholeC]

theorem decodeChars_encodeChars (bytes : Bytes) :
    engine.decodeChars (engine.encodeChars bytes) = some bytes := by
  induction bytes using encodeChars.induct with
  | case1 => rfl
  | case2 a =>
      cases padded : engine.padded <;>
        simp [encodeChars, decodeChars, padding, padded, decodeTwo_symbols]
  | case3 a b =>
      have bound := b.toNat_lt
      have third := engine.symbol_ne_padding (b.toNat % 16 * 4) (by omega)
      cases padded : engine.padded <;>
        simp [encodeChars, decodeChars, padding, padded, decodeThree_symbols, third]
  | case4 a b c rest carried =>
      have last := engine.symbol_ne_padding (c.toNat % 64) (by omega)
      simp only [encodeChars, decodeChars, last, and_false, if_false, decodeFour_symbols, carried,
        Option.bind_eq_bind, Option.bind_some, Option.pure_def, List.cons_append, List.nil_append]

@[simp]
theorem decode_encode (bytes : Bytes) : engine.decode (engine.encode bytes) = some bytes := by
  rw [decode, encode, String.toList_ofList, decodeChars_encodeChars]

/-- Without padding only symbols are written. -/
theorem encodeChars_subset (unpadded : engine.padded = false) (bytes : Bytes) :
    engine.encodeChars bytes ⊆ engine.symbols := by
  induction bytes using encodeChars.induct with
  | case1 => exact List.nil_subset _
  | case2 a =>
      have bound := a.toNat_lt
      intro c member
      simp only [encodeChars, padding, unpadded, List.append_nil, Bool.false_eq_true, if_false,
        List.mem_cons, List.not_mem_nil, or_false] at member
      rcases member with rfl | rfl <;> exact engine.symbol_mem (by omega)
  | case3 a b =>
      have boundA := a.toNat_lt
      have boundB := b.toNat_lt
      intro c member
      simp only [encodeChars, padding, unpadded, List.append_nil, Bool.false_eq_true, if_false,
        List.mem_cons, List.not_mem_nil, or_false] at member
      rcases member with rfl | rfl | rfl <;> exact engine.symbol_mem (by omega)
  | case4 a b c rest carried =>
      have boundA := a.toNat_lt
      have boundB := b.toNat_lt
      have boundC := c.toNat_lt
      intro d member
      simp only [encodeChars, List.mem_cons] at member
      rcases member with rfl | rfl | rfl | rfl | member
      · exact engine.symbol_mem (by omega)
      · exact engine.symbol_mem (by omega)
      · exact engine.symbol_mem (by omega)
      · exact engine.symbol_mem (by omega)
      · exact carried member

/-! ## One spelling -/

theorem symbol_value {c : Char} {index : Nat} (read : engine.value c = some index) :
    index < 64 ∧ engine.symbol index = c := by
  rw [Base64.value] at read
  split at read
  case isTrue small =>
    obtain rfl := Option.some.inj read
    have bounded : engine.symbols.idxOf c < engine.symbols.length := by
      rw [engine.size]
      exact small
    refine ⟨small, ?_⟩
    rw [symbol, List.getD_eq_getElem _ _ bounded]
    exact List.getElem_idxOf bounded
  case isFalse => cases read

theorem toNat_octet {high low : Nat} (small : high + low < 256) :
    (octet high low).toNat = high + low := by
  rw [octet, UInt8.toNat_ofNat', Nat.mod_eq_of_lt small]

section Unpadded

variable {engine} (unpadded : engine.padded = false)

include unpadded

theorem padding_eq_nil (count : Nat) : engine.padding count = [] := by
  simp [padding, unpadded]

theorem encodeChars_decodeTwo {a b : Char} {bytes : Bytes}
    (read : engine.decodeTwo a b = some bytes) : engine.encodeChars bytes = [a, b] := by
  simp only [decodeTwo, Option.bind_eq_bind, Option.bind_eq_some_iff, Option.ite_none_right_eq_some,
    Option.some.injEq] at read
  obtain ⟨first, readFirst, second, readSecond, zero, rfl⟩ := read
  obtain ⟨smallFirst, rfl⟩ := engine.symbol_value readFirst
  obtain ⟨smallSecond, rfl⟩ := engine.symbol_value readSecond
  have whole := @toNat_octet (first * 4) (second / 16) (by omega)
  have front : (first * 4 + second / 16) / 4 = first := by omega
  have back : (first * 4 + second / 16) % 4 * 16 = second := by omega
  rw [encodeChars, whole, front, back, padding_eq_nil unpadded, List.append_nil]

theorem encodeChars_decodeThree {a b c : Char} {bytes : Bytes}
    (read : engine.decodeThree a b c = some bytes) : engine.encodeChars bytes = [a, b, c] := by
  simp only [decodeThree, Option.bind_eq_bind, Option.bind_eq_some_iff,
    Option.ite_none_right_eq_some, Option.some.injEq] at read
  obtain ⟨first, readFirst, second, readSecond, third, readThird, zero, rfl⟩ := read
  obtain ⟨smallFirst, rfl⟩ := engine.symbol_value readFirst
  obtain ⟨smallSecond, rfl⟩ := engine.symbol_value readSecond
  obtain ⟨smallThird, rfl⟩ := engine.symbol_value readThird
  have wholeA := @toNat_octet (first * 4) (second / 16) (by omega)
  have wholeB := @toNat_octet (second % 16 * 16) (third / 4) (by omega)
  have front : (first * 4 + second / 16) / 4 = first := by omega
  have middle : (first * 4 + second / 16) % 4 * 16 + (second % 16 * 16 + third / 4) / 16 =
      second := by omega
  have back : (second % 16 * 16 + third / 4) % 16 * 4 = third := by omega
  rw [encodeChars, wholeA, wholeB, front, middle, back, padding_eq_nil unpadded, List.append_nil]

omit unpadded in
theorem encodeChars_decodeFour {a b c d : Char} {bytes : Bytes}
    (read : engine.decodeFour a b c d = some bytes) (rest : Bytes) :
    engine.encodeChars (bytes ++ rest) = [a, b, c, d] ++ engine.encodeChars rest := by
  simp only [decodeFour, Option.bind_eq_bind, Option.bind_eq_some_iff, Option.pure_def,
    Option.some.injEq] at read
  obtain ⟨first, readFirst, second, readSecond, third, readThird, fourth, readFourth, rfl⟩ := read
  obtain ⟨smallFirst, rfl⟩ := engine.symbol_value readFirst
  obtain ⟨smallSecond, rfl⟩ := engine.symbol_value readSecond
  obtain ⟨smallThird, rfl⟩ := engine.symbol_value readThird
  obtain ⟨smallFourth, rfl⟩ := engine.symbol_value readFourth
  have wholeA := @toNat_octet (first * 4) (second / 16) (by omega)
  have wholeB := @toNat_octet (second % 16 * 16) (third / 4) (by omega)
  have wholeC := @toNat_octet (third % 4 * 64) fourth (by omega)
  have front : (first * 4 + second / 16) / 4 = first := by omega
  have left : (first * 4 + second / 16) % 4 * 16 + (second % 16 * 16 + third / 4) / 16 =
      second := by omega
  have right : (second % 16 * 16 + third / 4) % 16 * 4 + (third % 4 * 64 + fourth) / 64 =
      third := by omega
  have back : (third % 4 * 64 + fourth) % 64 = fourth := by omega
  rw [List.cons_append, List.cons_append, List.cons_append, List.nil_append, encodeChars, wholeA,
    wholeB, wholeC, front, left, right, back]
  rfl

/-- The bits left over are zero, so that only one text is decoded to the octets. -/
theorem encodeChars_decodeChars (chars : List Char) {bytes : Bytes}
    (read : engine.decodeChars chars = some bytes) : engine.encodeChars bytes = chars := by
  induction chars using decodeChars.induct engine generalizing bytes with
  | case1 =>
      obtain rfl := Option.some.inj read
      rfl
  | case2 a b padded => simp [padded] at unpadded
  | case3 a b =>
      simp only [decodeChars, unpadded, Bool.false_eq_true, if_false] at read
      exact encodeChars_decodeTwo unpadded read
  | case4 a b c padded => simp [padded] at unpadded
  | case5 a b c =>
      simp only [decodeChars, unpadded, Bool.false_eq_true, if_false] at read
      exact encodeChars_decodeThree unpadded read
  | case6 a b d rest padded => simp [padded.1] at unpadded
  | case7 a b c d rest padded => simp [padded.1] at unpadded
  | case8 a b c d rest _ carried =>
      simp only [decodeChars, unpadded, Bool.false_eq_true, false_and, if_false,
        Option.bind_eq_bind, Option.bind_eq_some_iff, Option.pure_def, Option.some.injEq] at read
      obtain ⟨front, readFront, back, readBack, rfl⟩ := read
      rw [encodeChars_decodeFour readFront, carried readBack]
      rfl
  | case9 chars empty two three more =>
      rw [decodeChars.eq_5 engine chars empty two three more] at read
      cases read

theorem encode_decode {text : String} {bytes : Bytes} (read : engine.decode text = some bytes) :
    engine.encode bytes = text := by
  rw [encode, encodeChars_decodeChars unpadded text.toList read, String.ofList_toList]

end Unpadded

/-! ## Lengths -/

theorem length_encodeChars_le (bytes : Bytes) :
    (engine.encodeChars bytes).length ≤ 2 * bytes.length + 2 := by
  have padding : ∀ count, (engine.padding count).length ≤ count := by
    intro count
    unfold Base64.padding
    split <;> simp
  induction bytes using encodeChars.induct with
  | case1 => simp [encodeChars]
  | case2 a =>
      have := padding 2
      simp only [encodeChars, List.length_append, List.length_cons, List.length_nil]
      omega
  | case3 a b =>
      have := padding 1
      simp only [encodeChars, List.length_append, List.length_cons, List.length_nil]
      omega
  | case4 a b c rest carried =>
      simp only [encodeChars, List.length_cons]
      omega

theorem len_urlSafe_le (bytes : Bytes) :
    Text.len (urlSafeNoPad.encode bytes) ≤ 2 * bytes.length + 2 := by
  have ascii : ∀ c ∈ urlSafeSymbols, c.utf8Size = 1 := by decide
  have written : ∀ c ∈ urlSafeNoPad.encodeChars bytes, c.utf8Size = 1 :=
    fun c member => ascii c (encodeChars_subset _ rfl bytes member)
  rw [encode, Text.len_ofList_of_ascii written]
  exact length_encodeChars_le _ bytes

end Base64

end VCIssuer.Library
