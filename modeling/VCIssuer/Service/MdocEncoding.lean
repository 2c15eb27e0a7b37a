import VCIssuer.Service.Issuance
import VCIssuer.Service.Laws

/-!
# How an mdoc is put together

Every element becomes a tagged item and a digest over the tagged bytes.  The
security object carries the digests, is wrapped and signed, and is written once
more with the items around it.
-/

namespace VCIssuer.Service

open VCIssuer.Library
open VCIssuer.Library.Checks

/-! ## Items -/

/-- An item before it is tagged. -/
def mdocItem (random : Bytes) (digestId : Nat) (identifier : String) (value : CborValue) :
    CborValue :=
  .map
    [ (.text "digestID", cborUint digestId), (.text "random", .bytes random),
      (.text "elementIdentifier", .text identifier), (.text "elementValue", value) ]

/-- Tagged items and digests under the same ids, with the bytes that are digested. -/
inductive ItemsOf (crates : Crates) (random : Nat → Bytes) : Nat → List (String × CborValue) →
    List CborValue → List (CborValue × CborValue) → List Bytes → Prop
  | nil {digestId : Nat} : ItemsOf crates random digestId [] [] [] []
  | cons {digestId : Nat} {identifier : String} {value : CborValue}
      {claims : List (String × CborValue)} {items : List CborValue}
      {digests : List (CborValue × CborValue)} {parts : List Bytes} {itemBytes taggedBytes : Bytes}
      (item : crates.cborToVec (mdocItem (random digestId) digestId identifier value) =
        some itemBytes)
      (tagged : crates.cborToVec (.tag 24 (.bytes itemBytes)) = some taggedBytes)
      (rest : ItemsOf crates random (digestId + 1) claims items digests parts) :
      ItemsOf crates random digestId ((identifier, value) :: claims)
        (.tag 24 (.bytes itemBytes) :: items)
        ((cborUint digestId, .bytes (crates.sha256 taggedBytes)) :: digests) (taggedBytes :: parts)

theorem mdocItems_eq_ok {crates : Crates} {random : Nat → Bytes} {digestId : Nat}
    {claims : List (String × CborValue)} {items : List CborValue}
    {digests : List (CborValue × CborValue)} :
    mdocItems crates random digestId claims = .ok (items, digests) ↔
      ∃ parts, ItemsOf crates random digestId claims items digests parts := by
  induction claims generalizing digestId items digests with
  | nil =>
      constructor
      · intro encoded
        cases encoded
        exact ⟨[], .nil⟩
      · rintro ⟨_, ⟨⟩⟩
        rfl
  | cons claim claims carried =>
      obtain ⟨identifier, value⟩ := claim
      simp only [mdocItems, cborEncode, okOr_bind_eq_ok, bind_eq_ok (mdocItems ..), Prod.exists,
        pure_eq_ok, Prod.mk.injEq]
      constructor
      · rintro ⟨itemBytes, item, taggedBytes, tagged, others, further, rest, rfl, rfl⟩
        obtain ⟨parts, rest⟩ := carried.mp rest
        exact ⟨taggedBytes :: parts, .cons item tagged rest⟩
      · rintro ⟨_, made⟩
        cases made with
        | cons item tagged rest =>
            exact ⟨_, item, _, tagged, _, _, carried.mpr ⟨_, rest⟩, rfl, rfl⟩

/-- The elements of every profile have different names, and none of their values is nested. -/
theorem mdocClaims_plain {crates : Crates} {profile docType nameSpace : String}
    {pidClaims : Option PidSubjectClaims} {claims : List (String × CborValue)}
    (claimed : mdocClaims crates profile pidClaims = some (docType, nameSpace, claims)) :
    claims.length ≤ 7 ∧ (claims.map Prod.fst).Nodup ∧
      ∀ claim ∈ claims, PlainCbor 0 claim.2 := by
  unfold mdocClaims at claimed
  split at claimed
  · obtain ⟨pid, _, same⟩ := Option.map_eq_some_iff.mp claimed
    cases same
    refine ⟨Nat.le_refl 7, by simp, ?_⟩
    simp only [List.forall_mem_cons, List.not_mem_nil, false_imp_iff, implies_true, and_true]
    exact ⟨.text, .text, .text, .bool, .text, .text, .bytes⟩
  split at claimed
  · cases claimed
    refine ⟨by decide, by decide, ?_⟩
    simp only [List.forall_mem_cons, List.not_mem_nil, false_imp_iff, implies_true, and_true]
    exact ⟨.text, .text, .text, .bool, .text⟩
  split at claimed
  · cases claimed
    refine ⟨by decide, by decide, ?_⟩
    simp only [List.forall_mem_cons, List.not_mem_nil, false_imp_iff, implies_true, and_true]
    exact ⟨.text, .text, .text, .text, .text⟩
  · cases claimed

/-! ## One issuance -/

def protectedHeader (crates : Crates) (signer : KeychainSigner) : CborValue :=
  .map [(cborInt 1, cborInt (-7)), (cborInt 4, .bytes (Text.asBytes (signer.kid crates)))]

/-- Everything that goes into an mdoc on its way. -/
structure MdocIssuance (crates : Crates) (host : Host) (signer : KeychainSigner) (profile : String)
    (holderJwk : Value) (now : UInt64) (pidClaims : Option PidSubjectClaims)
    (hybrid : Option HybridCredentialSigner) where
  docType : String
  nameSpace : String
  claims : List (String × CborValue)
  items : List CborValue
  digests : List (CborValue × CborValue)
  parts : List Bytes
  x : Bytes
  y : Bytes
  signedAt : String
  validUntil : String
  label : String
  msoBytes : Bytes
  msoPayload : Bytes
  protectedBytes : Bytes
  tbs : Bytes
  signature : Bytes
  certificate : Bytes
  unprotected : List (CborValue × CborValue)
  encoded : Bytes
  claimed : mdocClaims crates profile pidClaims = some (docType, nameSpace, claims)
  itemised : ItemsOf crates (host.salt .mdocItem) 0 claims items digests parts
  coordinates : HolderCoordinates crates holderJwk x y
  signedFrom : rfc3339 now = .ok signedAt
  validTo : rfc3339 (saturatingAdd now 3600) = .ok validUntil
  mso : crates.cborToVec (mobileSecurityObject docType nameSpace digests (deviceKey x y) signedAt
    validUntil) = some msoBytes
  payload : crates.cborToVec (.tag 24 (.bytes msoBytes)) = some msoPayload
  header : crates.cborToVec (protectedHeader crates signer) = some protectedBytes
  covered : crates.cborToVec (sigStructure protectedBytes msoPayload) = some tbs
  signed : host.signEs256 signer tbs = some signature
  labelled : keyLabel profile = some label
  certified : host.developmentCertificateDer ("dev.advatar.vcissuer." ++ label) = some certificate
  headed : unprotectedHeader crates host certificate tbs hybrid = .ok unprotected
  written : crates.cborToVec
    (issuerSigned nameSpace items protectedBytes unprotected msoPayload signature) = some encoded

theorem issueMdoc_eq_ok {crates : Crates} {host : Host} {signer : KeychainSigner}
    {profile : String} {holderJwk : Value} {now : UInt64} {pidClaims : Option PidSubjectClaims}
    {hybrid : Option HybridCredentialSigner} {credential : String} :
    issueMdoc crates host signer profile holderJwk now pidClaims hybrid = .ok credential ↔
      ∃ made : MdocIssuance crates host signer profile holderJwk now pidClaims hybrid,
        credential = crates.urlSafeEncode made.encoded := by
  simp only [issueMdoc, okOr_bind_eq_ok, bind_eq_ok (mdocItems _ _ _ _),
    bind_eq_ok (decodeJwkCoordinate _ _ _), bind_eq_ok (rfc3339 _),
    bind_eq_ok (unprotectedHeader _ _ _ _ _), cborEncode, decodeJwkCoordinate_eq_ok, Prod.exists,
    pure_eq_ok]
  constructor
  · rintro ⟨docType, nameSpace, claims, claimed, items, digests, encodedItems, x,
      ⟨encodedX, foundX, decodedX, lengthX⟩, y, ⟨encodedY, foundY, decodedY, lengthY⟩, signedAt,
      signedFrom, validUntil, validTo, msoBytes, mso, msoPayload, payload, protectedBytes, header,
      tbs, covered, signature, signed, label, labelled, certificate, certified, unprotected, headed,
      encoded, written, rfl⟩
    obtain ⟨parts, itemised⟩ := mdocItems_eq_ok.mp encodedItems
    exact ⟨{
      docType, nameSpace, claims, items, digests, parts, x, y, signedAt, validUntil, label, msoBytes
      msoPayload, protectedBytes, tbs, signature, certificate, unprotected, encoded, claimed
      itemised, signedFrom, validTo, mso, payload, header, covered, signed, labelled, certified
      headed, written
      coordinates := ⟨encodedX, encodedY, foundX, foundY, decodedX, decodedY, lengthX, lengthY⟩ },
      rfl⟩
  · rintro ⟨made, rfl⟩
    obtain ⟨encodedX, encodedY, foundX, foundY, decodedX, decodedY, lengthX, lengthY⟩ :=
      made.coordinates
    exact ⟨_, _, _, made.claimed, _, _, mdocItems_eq_ok.mpr ⟨_, made.itemised⟩, made.x,
      ⟨encodedX, foundX, decodedX, lengthX⟩, made.y, ⟨encodedY, foundY, decodedY, lengthY⟩, _,
      made.signedFrom, _, made.validTo, _, made.mso, _, made.payload, _, made.header, _,
      made.covered, _, made.signed, _, made.labelled, _, made.certified, _, made.headed, _,
      made.written, rfl⟩

/-- An issued mdoc names the holder's key as its device key. -/
theorem issueMdoc_bound {crates : Crates} {host : Host} {signer : KeychainSigner}
    {profile : String} {holderJwk : Value} {now : UInt64} {pidClaims : Option PidSubjectClaims}
    {hybrid : Option HybridCredentialSigner} {credential : String}
    (issued : issueMdoc crates host signer profile holderJwk now pidClaims hybrid =
      .ok credential) :
    ∃ x y, HolderCoordinates crates holderJwk x y ∧
      SignedMdoc crates host signer credential (deviceKey x y) := by
  obtain ⟨made, rfl⟩ := issueMdoc_eq_ok.mp issued
  exact ⟨made.x, made.y, made.coordinates, made.docType, made.nameSpace, made.items, made.digests,
    made.signedAt, made.validUntil, made.msoBytes, made.msoPayload, made.protectedBytes, made.tbs,
    made.signature, made.unprotected, made.encoded, made.mso, made.payload, made.covered,
    made.signed, made.written, rfl⟩

/-! ## What is written can be read -/

section Plain

variable {crates : Crates} {random : Nat → Bytes}

theorem cborUint_plain {depth value : Nat} (fits : value < 2 ^ 64) :
    PlainCbor depth (cborUint value) :=
  .integer (by omega) (by exact_mod_cast fits)

theorem mdocItem_plain {digestId : Nat} {identifier : String} {value : CborValue} {salt : Bytes}
    (fits : digestId < 2 ^ 64) (leaf : PlainCbor 0 value) :
    PlainCbor cborDepth (mdocItem salt digestId identifier value) := by
  refine .map ?_ ?_ <;>
    simp only [List.forall_mem_cons, List.not_mem_nil, false_imp_iff, implies_true, and_true]
  · exact ⟨.text, .text, .text, .text⟩
  · exact ⟨cborUint_plain fits, .bytes, .text, leaf.mono (Nat.zero_le _)⟩

theorem tagged_plain {depth : Nat} {content : Bytes} :
    PlainCbor (depth + 1) (.tag 24 (.bytes content)) :=
  .tag (by decide) .bytes

theorem ItemsOf.items_plain {digestId : Nat} {claims : List (String × CborValue)}
    {items : List CborValue} {digests : List (CborValue × CborValue)} {parts : List Bytes}
    (itemised : ItemsOf crates random digestId claims items digests parts) {depth : Nat} :
    ∀ item ∈ items, PlainCbor (depth + 1) item := by
  induction itemised with
  | nil => exact fun _ member => absurd member List.not_mem_nil
  | cons _ _ _ carried => exact List.forall_mem_cons.mpr ⟨tagged_plain, carried⟩

theorem ItemsOf.digests_plain {digestId : Nat} {claims : List (String × CborValue)}
    {items : List CborValue} {digests : List (CborValue × CborValue)} {parts : List Bytes}
    (itemised : ItemsOf crates random digestId claims items digests parts)
    (fits : digestId + claims.length ≤ 2 ^ 64) {depth : Nat} :
    PlainCbor (depth + 1) (.map digests) := by
  have each : ∀ digest ∈ digests, PlainCbor depth digest.1 ∧ PlainCbor depth digest.2 := by
    induction itemised with
    | nil => exact fun _ member => absurd member List.not_mem_nil
    | cons _ _ _ carried =>
        rw [List.length_cons] at fits
        exact List.forall_mem_cons.mpr
          ⟨⟨cborUint_plain (by omega), .bytes⟩, carried (by omega)⟩
  exact .map (fun digest member => (each digest member).1) fun digest member =>
    (each digest member).2

theorem deviceKey_plain {depth : Nat} {x y : Bytes} : PlainCbor (depth + 1) (deviceKey x y) := by
  refine .map ?_ ?_ <;>
    simp only [List.forall_mem_cons, List.not_mem_nil, false_imp_iff, implies_true, and_true,
      cborInt]
  · exact ⟨.integer (by decide) (by decide), .integer (by decide) (by decide),
      .integer (by decide) (by decide), .integer (by decide) (by decide)⟩
  · exact ⟨.integer (by decide) (by decide), .integer (by decide) (by decide), .bytes, .bytes⟩

theorem cborDatetime_plain {depth : Nat} {text : String} :
    PlainCbor (depth + 1) (cborDatetime text) :=
  .tag (by decide) .text

theorem mobileSecurityObject_plain {docType nameSpace signedAt validUntil : String}
    {digests : List (CborValue × CborValue)} {x y : Bytes}
    (plain : ∀ depth, PlainCbor (depth + 1) (.map digests)) :
    PlainCbor cborDepth (mobileSecurityObject docType nameSpace digests (deviceKey x y) signedAt
      validUntil) := by
  refine .map ?_ ?_ <;>
    simp only [List.forall_mem_cons, List.not_mem_nil, false_imp_iff, implies_true, and_true]
  · exact ⟨.text, .text, .text, .text, .text, .text⟩
  · refine ⟨.text, .text, ?_, ?_, .text, ?_⟩
    · refine .map ?_ ?_ <;> simp only [List.forall_mem_singleton]
      · exact .text
      · exact plain _
    · refine .map ?_ ?_ <;> simp only [List.forall_mem_singleton]
      · exact .text
      · exact deviceKey_plain
    · refine .map ?_ ?_ <;>
        simp only [List.forall_mem_cons, List.not_mem_nil, false_imp_iff, implies_true, and_true]
      · exact ⟨.text, .text, .text⟩
      · exact ⟨cborDatetime_plain, cborDatetime_plain, cborDatetime_plain⟩

theorem protectedHeader_plain (signer : KeychainSigner) :
    PlainCbor cborDepth (protectedHeader crates signer) := by
  refine .map ?_ ?_ <;>
    simp only [List.forall_mem_cons, List.not_mem_nil, false_imp_iff, implies_true, and_true,
      cborInt]
  · exact ⟨.integer (by decide) (by decide), .integer (by decide) (by decide)⟩
  · exact ⟨.integer (by decide) (by decide), .bytes⟩

theorem sigStructure_plain {protectedBytes payload : Bytes} :
    PlainCbor cborDepth (sigStructure protectedBytes payload) := by
  refine .array ?_
  simp only [List.forall_mem_cons, List.not_mem_nil, false_imp_iff, implies_true, and_true]
  exact ⟨.text, .bytes, .bytes, .bytes⟩

theorem unprotectedHeader_plain {host : Host} {certificate tbs : Bytes}
    {hybrid : Option HybridCredentialSigner} {unprotected : List (CborValue × CborValue)}
    (headed : unprotectedHeader crates host certificate tbs hybrid = .ok unprotected)
    {depth : Nat} : PlainCbor (depth + 2) (.map unprotected) := by
  have chain : PlainCbor (depth + 1) (.array [.bytes certificate]) :=
    .array (List.forall_mem_singleton.mpr .bytes)
  cases hybrid with
  | none =>
      cases headed
      exact .map (List.forall_mem_singleton.mpr (.integer (by decide) (by decide)))
        (List.forall_mem_singleton.mpr chain)
  | some hybrid =>
      rw [unprotectedHeader, bind_eq_ok] at headed
      obtain ⟨_, _, made⟩ := headed
      cases made
      refine .map ?_ ?_ <;>
        simp only [List.forall_mem_cons, List.not_mem_nil, false_imp_iff, implies_true, and_true,
          cborInt]
      · exact ⟨.integer (by decide) (by decide), .integer (by decide) (by decide),
          .integer (by decide) (by decide)⟩
      · exact ⟨chain, .bytes, .bytes⟩

theorem issuerSigned_plain {nameSpace : String} {items : List CborValue}
    {unprotected : List (CborValue × CborValue)} {protectedBytes payload signature : Bytes}
    (itemsPlain : ∀ item ∈ items, ∀ depth, PlainCbor (depth + 1) item)
    (headerPlain : ∀ depth, PlainCbor (depth + 2) (.map unprotected)) :
    PlainCbor cborDepth
      (issuerSigned nameSpace items protectedBytes unprotected payload signature) := by
  refine .map ?_ ?_ <;>
    simp only [List.forall_mem_cons, List.not_mem_nil, false_imp_iff, implies_true, and_true]
  · exact ⟨.text, .text⟩
  · constructor
    · refine .map ?_ ?_ <;> simp only [List.forall_mem_singleton]
      · exact .text
      · exact .array fun item member => itemsPlain item member _
    · refine .tag (by decide) (.array ?_)
      simp only [List.forall_mem_cons, List.not_mem_nil, false_imp_iff, implies_true, and_true]
      exact ⟨.bytes, headerPlain _, .bytes, .bytes⟩

end Plain

/-! ## When an mdoc is issued -/

theorem civilFromDays_small {days : Nat} (bounded : days ≤ 10000000) :
    (civilFromDays days).year.toNat < 10 ^ 6 ∧ (civilFromDays days).month < 10 ^ 6 ∧
      (civilFromDays days).day < 10 ^ 6 := by
  simp only [civilFromDays]
  refine ⟨?_, ?_, ?_⟩
  · split <;> split <;> omega
  · split <;> omega
  · omega

theorem rfc3339_spells {timestamp : UInt64} (bounded : timestamp.toNat ≤ maxTimestamp) :
    ∃ text, rfc3339 timestamp = .ok text ∧ Text.len text ≤ 1000 := by
  have limit : maxTimestamp = 253402300799 := rfl
  obtain ⟨year, month, day⟩ :=
    civilFromDays_small (show timestamp.toNat / 86400 ≤ 10000000 by omega)
  have second : timestamp.toNat % 86400 < 10 ^ 6 := by omega
  have spelled : ∃ text, rfc3339 timestamp = .ok text := by
    simp only [rfc3339, rejectIf_bind_eq_ok, pure_eq_ok]
    exact ⟨_, by omega, by omega, rfl⟩
  obtain ⟨text, spelled⟩ := spelled
  refine ⟨text, spelled, ?_⟩
  simp only [rfc3339, rejectIf_bind_eq_ok, pure_eq_ok] at spelled
  obtain ⟨_, _, rfl⟩ := spelled
  have punctuation : Text.len "-" + Text.len "-" + Text.len "T" + Text.len ":" + Text.len ":" +
      Text.len "Z" = 6 := by decide
  have padded {width value : Nat} (small : value < 10 ^ 6) :
      Text.len (Text.padDecimal width value) ≤ 4 * (width + 6) :=
    Text.len_padDecimal_le (by decide) small
  have years := @padded 4 _ year
  have months := @padded 2 _ month
  have days := @padded 2 _ day
  have hours := @padded 2 _ (show timestamp.toNat % 86400 / 3600 < 10 ^ 6 by omega)
  have minutes := @padded 2 _ (show timestamp.toNat % 86400 / 60 % 60 < 10 ^ 6 by omega)
  have seconds := @padded 2 _ (show timestamp.toNat % 86400 % 60 < 10 ^ 6 by omega)
  simp only [Text.len_append]
  omega

theorem mdocClaims_names {crates : Crates} {profile docType nameSpace : String}
    {pidClaims : Option PidSubjectClaims} {claims : List (String × CborValue)}
    (claimed : mdocClaims crates profile pidClaims = some (docType, nameSpace, claims)) :
    Text.len docType ≤ 100 ∧ Text.len nameSpace ≤ 100 ∧ ∃ label, keyLabel profile = some label := by
  unfold mdocClaims at claimed
  split at claimed
  · next nfc =>
      obtain ⟨_, _, same⟩ := Option.map_eq_some_iff.mp claimed
      cases same
      subst nfc
      exact ⟨by decide, by decide, _, rfl⟩
  split at claimed
  · next pid =>
      cases claimed
      subst pid
      exact ⟨by decide, by decide, _, rfl⟩
  split at claimed
  · next eaa =>
      cases claimed
      subst eaa
      exact ⟨by decide, by decide, _, rfl⟩
  · cases claimed

section Success

variable {crates : Crates}

/-- The digested items exist, and are about as large as the elements. -/
theorem exists_itemsOf (writes : CiboriumWrites crates) (digest : DigestLaws crates)
    {random : Nat → Bytes} (salts : ∀ index, (random index).length ≤ 32) {bound : Nat}
    (fits : bound < 2 ^ 60) {claims : List (String × CborValue)}
    (leaves : ∀ claim ∈ claims, PlainCbor 0 claim.2)
    (sized : ∀ claim ∈ claims, Text.len claim.1 + Cbor.size claim.2 ≤ bound) (digestId : Nat)
    (counted : digestId + claims.length ≤ 2 ^ 64) :
    ∃ items digests parts, ItemsOf crates random digestId claims items digests parts ∧
      Cbor.sizeItems items ≤ claims.length * (bound + 1000) ∧
      Cbor.sizeEntries digests ≤ claims.length * 50 := by
  induction claims generalizing digestId with
  | nil => exact ⟨[], [], [], .nil, Nat.zero_le _, Nat.zero_le _⟩
  | cons claim claims carried =>
      obtain ⟨identifier, value⟩ := claim
      obtain ⟨(leaf : PlainCbor 0 value), leaves⟩ := List.forall_mem_cons.mp leaves
      obtain ⟨(small : Text.len identifier + Cbor.size value ≤ bound), sized⟩ :=
        List.forall_mem_cons.mp sized
      rw [List.length_cons] at counted
      obtain ⟨items, digests, parts, rest, itemsSize, digestsSize⟩ :=
        carried leaves sized (digestId + 1) (by omega)
      have salt := salts digestId
      have names : Text.len "digestID" + Text.len "random" + Text.len "elementIdentifier" +
          Text.len "elementValue" ≤ 100 := by decide
      have itemSize : Cbor.size (mdocItem (random digestId) digestId identifier value) ≤
          bound + 300 := by
        simp only [mdocItem, cborUint, Cbor.size, Cbor.sizeEntries]
        omega
      obtain ⟨itemBytes, item, itemLength⟩ :=
        writes.writes _ (@mdocItem_plain digestId identifier value (random digestId) (by omega) leaf)
          (by omega)
      have taggedSize : Cbor.size (.tag 24 (.bytes itemBytes)) ≤ bound + 400 := by
        simp only [Cbor.size]
        omega
      obtain ⟨taggedBytes, tagged, _⟩ := writes.writes _ tagged_plain
        (taggedSize.trans_lt (by omega))
      refine ⟨_, _, _, .cons item tagged rest, ?_, ?_⟩
      · rw [Cbor.sizeItems, List.length_cons, Nat.succ_mul]
        omega
      · have length := digest.sha256 taggedBytes
        rw [Cbor.sizeEntries, List.length_cons, Nat.succ_mul]
        simp only [cborUint, Cbor.size, length]
        omega

theorem mobileSecurityObject_size {docType nameSpace signedAt validUntil : String}
    {digests : List (CborValue × CborValue)} {x y : Bytes} (docTypeSmall : Text.len docType ≤ 100)
    (nameSpaceSmall : Text.len nameSpace ≤ 100) (digestsSmall : Cbor.sizeEntries digests ≤ 7 * 50)
    (lengthX : x.length = 32) (lengthY : y.length = 32) (signedSmall : Text.len signedAt ≤ 1000)
    (validSmall : Text.len validUntil ≤ 1000) :
    Cbor.size (mobileSecurityObject docType nameSpace digests (deviceKey x y) signedAt
      validUntil) ≤ 10000 := by
  have names : Text.len "version" = 7 ∧ Text.len "1.0" = 3 ∧ Text.len "digestAlgorithm" = 15 ∧
      Text.len "SHA-256" = 7 ∧ Text.len "valueDigests" = 12 ∧ Text.len "deviceKeyInfo" = 13 ∧
      Text.len "deviceKey" = 9 ∧ Text.len "docType" = 7 ∧ Text.len "validityInfo" = 12 ∧
      Text.len "signed" = 6 ∧ Text.len "validFrom" = 9 ∧ Text.len "validUntil" = 10 := by decide
  simp only [mobileSecurityObject, deviceKey, cborDatetime, cborInt, Cbor.size, Cbor.sizeEntries,
    lengthX, lengthY, names]
  omega

/-- With an answering host an mdoc is issued for every holder key of two coordinates, as long as
the years have four digits. -/
theorem issueMdoc_succeeds (writes : CiboriumWrites crates) (digest : DigestLaws crates)
    {host : Host} (answers : HostAnswers host) {signer : KeychainSigner}
    (signs : SignsRaw host signer) {profile : String}
    {holderJwk : Value} {now : UInt64} {pidClaims : Option PidSubjectClaims}
    {docType nameSpace : String} {claims : List (String × CborValue)}
    (claimed : mdocClaims crates profile pidClaims = some (docType, nameSpace, claims))
    (sized : ∀ claim ∈ claims, Text.len claim.1 + Cbor.size claim.2 ≤ 2 ^ 40)
    {x y : Bytes} (coordinates : HolderCoordinates crates holderJwk x y)
    (inTime : now.toNat + 3600 ≤ maxTimestamp) :
    ∃ credential, issueMdoc crates host signer profile holderJwk now pidClaims none =
      .ok credential := by
  obtain ⟨count, _, leaves⟩ := mdocClaims_plain claimed
  obtain ⟨docTypeSmall, nameSpaceSmall, label, labelled⟩ := mdocClaims_names claimed
  obtain ⟨items, digests, parts, itemised, itemsSize, digestsSize⟩ :=
    exists_itemsOf writes digest (answers.salts .mdocItem) (by decide) leaves sized 0 (by omega)
  obtain ⟨_, _, _, _, _, _, lengthX, lengthY⟩ := id coordinates
  have limit : maxTimestamp = 253402300799 := rfl
  have lifetime : (3600 : UInt64).toNat = 3600 := rfl
  have until_ : (saturatingAdd now 3600).toNat ≤ maxTimestamp := by
    rw [toNat_saturatingAdd, lifetime]
    exact (Nat.min_le_left _ _).trans inTime
  obtain ⟨signedAt, signedFrom, signedLength⟩ := rfc3339_spells (show now.toNat ≤ _ by omega)
  obtain ⟨validUntil, validTo, validLength⟩ := rfc3339_spells until_
  have msoSize := mobileSecurityObject_size docTypeSmall nameSpaceSmall
    (digestsSize.trans (Nat.mul_le_mul_right 50 count)) lengthX lengthY signedLength validLength
  obtain ⟨msoBytes, mso, msoLength⟩ := writes.writes _
    (mobileSecurityObject_plain fun _ => itemised.digests_plain (by omega))
    (msoSize.trans_lt (by decide))
  have wrappedSize : Cbor.size (.tag 24 (.bytes msoBytes)) ≤ 10100 := by
    simp only [Cbor.size]
    omega
  obtain ⟨msoPayload, payload, payloadLength⟩ := writes.writes _ tagged_plain
    (wrappedSize.trans_lt (by decide))
  have kidLength : (Text.asBytes (signer.kid crates)).length ≤ 66 := by
    exact digest.len_digest_le _
  have headerSize : Cbor.size (protectedHeader crates signer) ≤ 200 := by
    simp only [protectedHeader, cborInt, Cbor.size, Cbor.sizeEntries]
    omega
  obtain ⟨protectedBytes, header, headerLength⟩ := writes.writes _
    (protectedHeader_plain signer) (headerSize.trans_lt (by decide))
  have context : Text.len "Signature1" ≤ 100 := by decide
  have tbsSize : Cbor.size (sigStructure protectedBytes msoPayload) ≤ 12000 := by
    simp only [sigStructure, Cbor.size, Cbor.sizeItems, List.length_nil]
    omega
  obtain ⟨tbs, covered, _⟩ := writes.writes _ sigStructure_plain (tbsSize.trans_lt (by decide))
  obtain ⟨signature, signed, signatureLength⟩ := signs tbs
  obtain ⟨certificate, certified, certificateLength⟩ :=
    answers.certificate ("dev.advatar.vcissuer." ++ label)
  have outer : Text.len "nameSpaces" + Text.len "issuerAuth" ≤ 100 := by decide
  have wholeSize : Cbor.size (issuerSigned nameSpace items protectedBytes
      [(cborInt 33, .array [.bytes certificate])] msoPayload signature) < 2 ^ 64 := by
    simp only [issuerSigned, cborInt, Cbor.size, Cbor.sizeEntries, Cbor.sizeItems, signatureLength]
    omega
  obtain ⟨encoded, written, _⟩ := writes.writes _ (issuerSigned_plain
    (fun item member _ => itemised.items_plain item member)
    fun depth => @unprotectedHeader_plain crates host certificate tbs none _ rfl depth) wholeSize
  exact ⟨_, issueMdoc_eq_ok.mpr ⟨{
    docType, nameSpace, claims, items, digests, parts, x, y, signedAt, validUntil, label, msoBytes
    msoPayload, protectedBytes, tbs, signature, certificate, encoded, claimed, itemised
    coordinates, signedFrom, validTo, mso, payload, header, covered, signed, labelled, certified
    written
    unprotected := _
    headed := rfl }, rfl⟩⟩

end Success

end VCIssuer.Service
