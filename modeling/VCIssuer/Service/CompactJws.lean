import VCIssuer.Service.Laws
import VCIssuer.Service.Proofs

/-!
# Building compact JWS strings

The other side of the verifiers: what a key holder puts together, and that it is
read as it was meant.
-/

namespace VCIssuer.Service

open VCIssuer.Library

section Texts

variable {crates : Crates}

theorem Base64Laws.no_dot (laws : Base64Laws crates) (bytes : Bytes) :
    '.' ∉ (crates.urlSafeEncode bytes).toList :=
  fun member => absurd (laws.alphabet bytes member) (by decide)

theorem Base64Laws.no_tilde (laws : Base64Laws crates) (bytes : Bytes) :
    '~' ∉ (crates.urlSafeEncode bytes).toList :=
  fun member => absurd (laws.alphabet bytes member) (by decide)

/-- The parts of a compact JWS, joined. -/
def compactJws (crates : Crates) (header payload signature : Bytes) : String :=
  crates.urlSafeEncode header ++ "." ++ crates.urlSafeEncode payload ++ "." ++
    crates.urlSafeEncode signature

theorem join_dots (a b c : String) : a ++ "." ++ b ++ "." ++ c = ".".intercalate [a, b, c] := by
  rw [← String.toList_inj, String.toList_intercalate]
  simp [List.intercalate]

theorem Base64Laws.split_compactJws (laws : Base64Laws crates)
    (header payload signature : Bytes) :
    Text.split '.' (compactJws crates header payload signature) =
      [ crates.urlSafeEncode header, crates.urlSafeEncode payload,
        crates.urlSafeEncode signature ] := by
  rw [compactJws, join_dots]
  refine Text.split_intercalate '.' (List.cons_ne_nil _ _) fun part member => ?_
  simp only [List.mem_cons, List.not_mem_nil, or_false] at member
  rcases member with rfl | rfl | rfl <;> exact laws.no_dot _

theorem Base64Laws.compactJws_no_tilde (laws : Base64Laws crates)
    (header payload signature : Bytes) :
    '~' ∉ (compactJws crates header payload signature).toList := by
  have dot : '~' ∉ ".".toList := by decide
  simp only [compactJws, String.toList_append, List.mem_append, laws.no_tilde, dot, or_self,
    not_false_eq_true]

theorem compactJws_ne_empty (header payload signature : Bytes) :
    compactJws crates header payload signature ≠ "" := by
  intro empty
  have chars := congrArg String.toList empty
  simp [compactJws] at chars

/-- A compact JWS with this protected header, signed by `key` over these octets. -/
def SignedOctets (crates : Crates) (compact : String) (key : VerifyingKey)
    (header payload : Bytes) : Prop :=
  ∃ raw signature, compact = compactJws crates header payload raw ∧
    crates.signatureFromSlice raw = some signature ∧
    crates.verifyEs256 key
      (signingInput (crates.urlSafeEncode header) (crates.urlSafeEncode payload)) signature = true

theorem SignedOctets.signedCompact {compact : String} {key : VerifyingKey}
    {header payload : Bytes} (laws : Base64Laws crates)
    (signed : SignedOctets crates compact key header payload) :
    SignedCompact crates compact key (crates.urlSafeEncode header)
      (crates.urlSafeEncode payload) := by
  obtain ⟨raw, signature, rfl, sliced, verified⟩ := signed
  exact ⟨crates.urlSafeEncode raw, raw, signature, laws.split_compactJws header payload raw,
    laws.readsWritten raw, sliced, verified⟩

theorem SignedOctets.signedValue {compact : String} {key : VerifyingKey} {header payload : Bytes}
    {value : Value} (laws : Base64Laws crates)
    (signed : SignedOctets crates compact key header payload)
    (parsed : crates.valueFromSlice payload = some value) :
    SignedValue crates compact key value :=
  ⟨_, _, payload, signed.signedCompact laws, laws.readsWritten payload, parsed⟩

/-- A compact JWS has one payload, whatever key it is verified with. -/
theorem SignedValue.unique {compact : String} {key other : VerifyingKey} {value second : Value}
    (signed : SignedValue crates compact key value)
    (signedToo : SignedValue crates compact other second) : value = second := by
  obtain ⟨_, _, bytes, ⟨_, _, _, parts, _⟩, decoded, parsed⟩ := signed
  obtain ⟨_, _, _, ⟨_, _, _, partsToo, _⟩, decodedToo, parsedToo⟩ := signedToo
  cases parts.symm.trans partsToo
  cases decoded.symm.trans decodedToo
  exact Option.some.inj (parsed.symm.trans parsedToo)

end Texts

/-! ## Keys -/

theorem EcJwk.toValue_distinct (jwk : EcJwk) :
    ([("kty", Value.string "EC"), ("crv", .string "P-256"), ("x", .string jwk.x),
      ("y", .string jwk.y)].map Prod.fst).Nodup := by
  simp

theorem EcJwk.toValue_plain (jwk : EcJwk) (depth : Nat) : PlainJson (depth + 1) jwk.toValue := by
  refine .object jwk.toValue_distinct fun member found => ?_
  simp only [List.mem_cons, List.not_mem_nil, or_false] at found
  rcases found with rfl | rfl | rfl | rfl <;> exact .string

/-- A P-256 key comes back as it was written. -/
theorem EcJwk.ofValue_canonical {jwk : EcJwk} (kty : jwk.kty = "EC") (crv : jwk.crv = "P-256") :
    EcJwk.ofValue jwk.toValue.canonical = some jwk := by
  obtain ⟨_, _, x, y⟩ := jwk
  cases kty
  cases crv
  refine bind_of_eq_some _ (Value.struct_canonical (EcJwk.toValue_distinct ⟨_, _, x, y⟩) _) ?_
  refine bind_of_eq_some (.string "EC") rfl (bind_of_eq_some _ rfl ?_)
  refine bind_of_eq_some (.string "P-256") rfl (bind_of_eq_some _ rfl ?_)
  refine bind_of_eq_some (.string x) rfl (bind_of_eq_some _ rfl ?_)
  exact bind_of_eq_some (.string y) rfl (bind_of_eq_some _ rfl rfl)

section Keys

variable {crates : Crates} {host : Host} (signer : KeychainSigner)

/-- The key that a signer publishes, without the members that a verifier does not read. -/
def KeychainSigner.jwk (crates : Crates) (signer : KeychainSigner) : EcJwk :=
  ⟨"EC", "P-256", signer.x crates, signer.y crates⟩

theorem KeychainSigner.publicJwk_read (crates : Crates) (signer : KeychainSigner) :
    EcJwk.ofValue (signer.publicJwk crates) = some (signer.jwk crates) := rfl

/-- The octets of an uncompressed point are the mark and the two coordinates. -/
theorem KeychainSigner.split_bytes :
    signer.publicKeyBytes =
        4 :: (signer.publicKeyBytes.drop 1).take 32 ++ (signer.publicKeyBytes.drop 33).take 32 ∧
      ((signer.publicKeyBytes.drop 1).take 32).length = 32 ∧
      ((signer.publicKeyBytes.drop 33).take 32).length = 32 := by
  obtain ⟨bytes, length, first⟩ := signer
  cases bytes with
  | nil => cases first
  | cons mark coordinates =>
      cases first
      have size : coordinates.length = 64 := Nat.succ.inj length
      have rest : (coordinates.drop 32).take 32 = coordinates.drop 32 :=
        List.take_of_length_le (by rw [List.length_drop, size])
      refine ⟨?_, ?_, ?_⟩
      · simp only [List.drop_succ_cons, List.drop_zero, rest, List.cons_append,
          List.take_append_drop]
      · simp [size]
      · simp [size]

/-- What a signer signs verifies under the key it publishes. -/
theorem Es256Laws.published (es256 : Es256Laws crates host) (base64 : Base64Laws crates)
    (sec1 : Sec1Laws crates) {message signature : Bytes}
    (signed : host.signEs256 signer message = some signature) :
    ∃ key parsed, (signer.jwk crates).Denotes crates key ∧
      crates.signatureFromSlice signature = some parsed ∧
      crates.verifyEs256 key message parsed = true := by
  obtain ⟨key, parsed, read, sliced, verified⟩ := es256.verifiesSigned signer message signature signed
  obtain ⟨bytes, lengthX, lengthY⟩ := signer.split_bytes
  rw [bytes, sec1.uncompressed _ _ lengthX lengthY] at read
  exact ⟨key, parsed, ⟨rfl, rfl, _, _, base64.readsWritten _, base64.readsWritten _, lengthX,
    lengthY, read⟩, sliced, verified⟩

end Keys

end VCIssuer.Service
