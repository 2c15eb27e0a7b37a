import VCIssuer.Service.Reference

/-!
# Presenting a PID

The encoder of the PID and the verifier of PID bindings meet in the text of a
presentation: the issuer's JWT, some of the disclosures and the holder's proof.
-/

namespace VCIssuer.Service

open VCIssuer.Library
open VCIssuer.Library.Checks

/-! ## Reading disclosures -/

/-- The names of the members that a PID binding is read for. -/
def identityNames : List String := ["family_name", "given_name", "birthdate"]

def DisclosedIdentity.member (identity : DisclosedIdentity) (name : String) : Option String :=
  if name = "family_name" then identity.familyName
  else if name = "given_name" then identity.givenName
  else if name = "birthdate" then identity.birthdate
  else none

theorem DisclosedIdentity.member_update (identity : DisclosedIdentity) (salt value : Value)
    (name : String) {member : String} (known : member ∈ identityNames) :
    (identity.update [salt, .string name, value]).member member =
      if member = name then value.asStr else identity.member member := by
  simp only [identityNames, List.mem_cons, List.not_mem_nil, or_false] at known
  simp only [update, Value.asStr]
  rcases known with rfl | rfl | rfl
  all_goals
    split
    all_goals simp_all [DisclosedIdentity.member, eq_comm]

section Disclosures

variable {crates : Crates} {claims : List (String × Value)}

/-- A disclosure string carries this value for this member. -/
def Shows (crates : Crates) (encoded name : String) (value : Value) : Prop :=
  ∃ bytes salt, crates.urlSafeDecode encoded = some bytes ∧
    crates.valueFromSlice bytes = some (.array [salt, .string name, value])

theorem Shows.unique {encoded name other : String} {value otherValue : Value}
    (shows_ : Shows crates encoded name value) (second : Shows crates encoded other otherValue) :
    name = other ∧ value = otherValue := by
  obtain ⟨bytes, salt, decoded, parsed⟩ := shows_
  obtain ⟨_, _, decodedToo, parsedToo⟩ := second
  cases decoded.symm.trans decodedToo
  cases parsed.symm.trans parsedToo
  exact ⟨rfl, rfl⟩

/-- Members that hold exactly what the strings read so far disclosed. -/
def DisclosedIdentity.Knows (crates : Crates) (seen : List String)
    (identity : DisclosedIdentity) : Prop :=
  ∀ member ∈ identityNames, ∀ text, identity.member member = some text ↔
    ∃ encoded ∈ seen, Discloses crates encoded member text

theorem DisclosedIdentity.empty_knows (crates : Crates) :
    DisclosedIdentity.empty.Knows crates [] := by
  intro member _ text
  simp [DisclosedIdentity.member, DisclosedIdentity.empty]

theorem value_unique (distinct : (claims.map Prod.fst).Nodup) {name : String}
    {value other : Value} (first : (name, value) ∈ claims) (second : (name, other) ∈ claims) :
    value = other := by
  have same := List.inj_on_of_nodup_map distinct first second rfl
  exact congrArg Prod.snd same

theorem DisclosedIdentity.Knows.update {seen : List String} {identity : DisclosedIdentity}
    {encoded name : String} {bytes : Bytes} {salt value : Value}
    (knows : identity.Knows crates seen) (distinct : (claims.map Prod.fst).Nodup)
    (shown : ∀ other ∈ seen, ∃ claim ∈ claims, Shows crates other claim.1 claim.2)
    (claimed : (name, value) ∈ claims) (decoded : crates.urlSafeDecode encoded = some bytes)
    (parsed : crates.valueFromSlice bytes = some (.array [salt, .string name, value])) :
    (identity.update [salt, .string name, value]).Knows crates (seen ++ [encoded]) := by
  have here : Shows crates encoded name value := ⟨bytes, salt, decoded, parsed⟩
  intro member known text
  rw [DisclosedIdentity.member_update _ _ _ _ known]
  by_cases same : member = name
  · subst same
    rw [if_pos rfl]
    constructor
    · intro isText
      rw [Value.asStr_eq_some isText] at here
      exact ⟨encoded, List.mem_append_right _ (.head _), here⟩
    · rintro ⟨other, among, discloses⟩
      rcases List.mem_append.mp among with before | now
      · obtain ⟨⟨_, _⟩, otherClaimed, shows_⟩ := shown other before
        obtain ⟨rfl, rfl⟩ := shows_.unique discloses
        rw [value_unique distinct claimed otherClaimed]
        rfl
      · cases List.mem_singleton.mp now
        rw [(here.unique discloses).2]
        rfl
  · rw [if_neg same, knows member known text]
    constructor
    · rintro ⟨other, before, discloses⟩
      exact ⟨other, List.mem_append_left _ before, discloses⟩
    · rintro ⟨other, among, discloses⟩
      rcases List.mem_append.mp among with before | now
      · exact ⟨other, before, discloses⟩
      · cases List.mem_singleton.mp now
        exact absurd (here.unique discloses).1.symm same

/-- Committed disclosures of distinct claims are all read, and each member is set by the one
that names it. -/
theorem readDisclosures_knows (distinct : (claims.map Prod.fst).Nodup) {allowed : List String}
    {presented seen : List String} {identity : DisclosedIdentity}
    (knows : identity.Knows crates seen)
    (before : ∀ encoded ∈ seen, ∃ claim ∈ claims, Shows crates encoded claim.1 claim.2)
    (shown : ∀ encoded ∈ presented, ∃ claim ∈ claims, Shows crates encoded claim.1 claim.2)
    (committed : ∀ encoded ∈ presented, crates.digest encoded ∈ allowed) :
    ∃ last, readDisclosures crates allowed identity presented = .ok last ∧
      last.Knows crates (seen ++ presented) := by
  induction presented generalizing identity seen with
  | nil => exact ⟨identity, rfl, by rwa [List.append_nil]⟩
  | cons encoded rest carried =>
      obtain ⟨⟨name, value⟩, claimed, bytes, salt, decoded, parsed⟩ := shown encoded (.head _)
      have next := knows.update distinct before claimed decoded parsed
      have seenToo : ∀ other ∈ seen ++ [encoded],
          ∃ claim ∈ claims, Shows crates other claim.1 claim.2 := by
        intro other among
        rcases List.mem_append.mp among with earlier | now
        · exact before other earlier
        · cases List.mem_singleton.mp now
          exact shown encoded (.head _)
      obtain ⟨last, read, knowsLast⟩ := carried next seenToo
        (fun other member => shown other (.tail _ member))
        (fun other member => committed other (.tail _ member))
      rw [List.append_assoc, List.singleton_append] at knowsLast
      refine ⟨last, ?_, knowsLast⟩
      rw [readDisclosures, bind_eq_ok]
      exact ⟨_, (readDisclosure_eq_ok ..).mpr
        ⟨committed encoded (.head _), bytes, _, decoded, parsed, rfl⟩, read⟩

end Disclosures

/-! ## The text of a credential -/

/-- The JWT of an SD-JWT, before the first tilde. -/
def issuerJwtOf (credential : String) : String :=
  (Text.split '~' credential).headD ""

/-- The disclosures of an SD-JWT. -/
def disclosuresIn (credential : String) : List String :=
  (Text.split '~' credential).tail.filter (· ≠ "")

/-- A presentation: the JWT, the disclosures that are shown and the holder's proof. -/
def present (issuerJwt : String) (disclosures : List String) (proof : String) : String :=
  "~".intercalate (issuerJwt :: disclosures ++ [proof])

theorem split_present {issuerJwt proof : String} {disclosures : List String}
    (jwt : '~' ∉ issuerJwt.toList) (shown : ∀ encoded ∈ disclosures, '~' ∉ encoded.toList)
    (ends : '~' ∉ proof.toList) :
    Text.split '~' (present issuerJwt disclosures proof) =
      issuerJwt :: disclosures ++ [proof] := by
  refine Text.split_intercalate '~' (List.cons_ne_nil _ _) fun part member => ?_
  rcases List.mem_append.mp member with front | last
  · rcases List.mem_cons.mp front with rfl | among
    · exact jwt
    · exact shown part among
  · cases List.mem_singleton.mp last
    exact ends

section Encoded

variable {crates : Crates}

theorem Base64Laws.disclosure_no_tilde (laws : Base64Laws crates) (salt : Bytes) (name : String)
    (value : Value) : '~' ∉ (disclosure crates salt name value).toList :=
  laws.no_tilde _

theorem disclosure_shows (base64 : Base64Laws crates) (serde : SerdeJsonLaws crates) (salt : Bytes)
    (name : String) {value : Value} (plain : PlainJson claimDepth value) :
    Shows crates (disclosure crates salt name value) name value.canonical := by
  refine ⟨_, .string (crates.urlSafeEncode salt), base64.readsWritten _, ?_⟩
  rw [serde.readsWritten _ (.array fun item member => ?_)]
  · simp [Value.canonical, Value.canonicalItems]
  · simp only [List.mem_cons, List.not_mem_nil, or_false] at member
    rcases member with rfl | rfl | rfl
    · exact .string
    · exact .string
    · exact plain

theorem mem_disclosuresOf {salt : Nat → Bytes} {claims : List (String × Value)} {encoded : String}
    (member : encoded ∈ disclosuresOf crates salt claims) :
    ∃ i, ∃ claim ∈ claims, encoded = disclosure crates (salt i) claim.1 claim.2 := by
  obtain ⟨i, bounded, rfl⟩ := List.mem_mapIdx.mp member
  exact ⟨i, claims[i], List.getElem_mem bounded, rfl⟩

/-- The text of a signed SD-JWT, as the parts between its tildes. -/
theorem split_sdJwtCompact (laws : Base64Laws crates) (signer : KeychainSigner) (payload : Value)
    (salt : Nat → Bytes) {claims : List (String × Value)} (claimed : claims ≠ [])
    (signature : Bytes) :
    Text.split '~'
        (sdJwtCompact crates signer payload (disclosuresOf crates salt claims) signature) =
      compactJws crates (crates.valueToVec (sdJwtHeader crates signer))
        (crates.valueToVec payload) signature :: disclosuresOf crates salt claims ++ [""] := by
  have some : disclosuresOf crates salt claims ≠ [] := by
    simpa [disclosuresOf] using claimed
  have joined : sdJwtCompact crates signer payload (disclosuresOf crates salt claims) signature =
      present (compactJws crates (crates.valueToVec (sdJwtHeader crates signer))
        (crates.valueToVec payload) signature) (disclosuresOf crates salt claims) "" := by
    rw [present, String.intercalate_append_of_ne_nil (List.cons_ne_nil _ _) (List.cons_ne_nil _ _),
      String.intercalate_cons_of_ne_nil some, String.intercalate_singleton]
    simp [sdJwtCompact, sdJwtInput, compactJws]
  rw [joined, split_present (laws.compactJws_no_tilde _ _ _) _ (by decide)]
  intro encoded member
  obtain ⟨i, claim, _, rfl⟩ := mem_disclosuresOf member
  exact laws.disclosure_no_tilde _ _ _

end Encoded

/-- The verifier takes a presentation apart as it was put together. -/
theorem present_parts {issuerJwt proof : String} {disclosures : List String}
    (jwt : '~' ∉ issuerJwt.toList) (shown : ∀ encoded ∈ disclosures, '~' ∉ encoded.toList)
    (ends : '~' ∉ proof.toList) (nonempty : ∀ encoded ∈ disclosures, encoded ≠ "")
    (proofPresent : proof ≠ "") :
    PidBindingObject.issuerJwt ⟨present issuerJwt disclosures proof, proof⟩ = issuerJwt ∧
      PidBindingObject.tail ⟨present issuerJwt disclosures proof, proof⟩ =
        disclosures ++ [proof] := by
  have parts := split_present jwt shown ends
  refine ⟨by rw [PidBindingObject.issuerJwt, parts]; rfl, ?_⟩
  rw [PidBindingObject.tail, parts, List.cons_append, List.tail_cons, List.filter_eq_self]
  intro part member
  rw [decide_eq_true_eq]
  rcases List.mem_append.mp member with front | last
  · exact nonempty part front
  · cases List.mem_singleton.mp last
    exact proofPresent

/-! ## The PID -/

/-- The claims of the development PID. -/
def pidIdentity : List (String × Value) :=
  [ ("family_name", .string "Mustermann"), ("given_name", .string "Erika"),
    ("birthdate", .string "1990-01-01"), ("age_over_18", .bool true),
    ("issuing_country", .string "DE") ]

theorem sdJwtClaims_pid (tlsnEvidence : Option VerifiedTlsnEvidence)
    (pidClaims : Option PidSubjectClaims) :
    sdJwtClaims pidSdJwt tlsnEvidence pidClaims = some (pidVct, pidIdentity) := rfl

theorem pidIdentity_distinct : (pidIdentity.map Prod.fst).Nodup := by decide

theorem pidIdentity_plain {claim : String × Value} (claimed : claim ∈ pidIdentity) (depth : Nat) :
    PlainJson depth claim.2 ∧ claim.2.canonical = claim.2 := by
  simp only [pidIdentity, List.mem_cons, List.not_mem_nil, or_false] at claimed
  rcases claimed with rfl | rfl | rfl | rfl | rfl
  · exact ⟨.string, rfl⟩
  · exact ⟨.string, rfl⟩
  · exact ⟨.string, rfl⟩
  · exact ⟨.bool, rfl⟩
  · exact ⟨.string, rfl⟩

section Pid

variable {crates : Crates} {host : Host} {signer : KeychainSigner} {issuer : Url}

def pidPayload (crates : Crates) (issuer : Url) (holder : EcJwk) (now : UInt64)
    (disclosures : List String) : Value :=
  sdJwtPayload crates issuer pidSdJwt pidVct holder.toValue now disclosures

/-- The members of a PID's payload. -/
def pidMembers (crates : Crates) (issuer : Url) (holder : EcJwk) (now : UInt64)
    (disclosures : List String) : List (String × Value) :=
  [ ("iss", .string issuer.origin), ("iat", .nat now), ("nbf", .nat now),
    ("exp", .nat (saturatingAdd now 3600)), ("vct", .string pidVct),
    ("cnf", .object [("jwk", holder.toValue)]), ("_sd_alg", .string "sha-256"),
    ("_sd", digestsOf crates disclosures) ]

variable {holder : EcJwk} {now : UInt64} {disclosures : List String}

theorem pidPayload_eq :
    pidPayload crates issuer holder now disclosures =
      .object (pidMembers crates issuer holder now disclosures) := rfl

theorem pidMembers_distinct :
    ((pidMembers crates issuer holder now disclosures).map Prod.fst).Nodup := by
  simp [pidMembers]

theorem pidPayload_plain : PlainJson jsonDepth (pidPayload crates issuer holder now disclosures) := by
  rw [pidPayload_eq]
  refine .object pidMembers_distinct fun member found => ?_
  simp only [pidMembers, List.mem_cons, List.not_mem_nil, or_false] at found
  rcases found with rfl | rfl | rfl | rfl | rfl | rfl | rfl | rfl
  · exact .string
  · exact .natural
  · exact .natural
  · exact .natural
  · exact .string
  · refine .object (by simp) fun inner only => ?_
    cases List.mem_singleton.mp only
    exact holder.toValue_plain _
  · exact .string
  · refine .array fun digest among => ?_
    obtain ⟨encoded, _, rfl⟩ := List.mem_map.mp among
    exact .string

/-- The members of a PID as they are read back. -/
theorem pidPayload_get (crates : Crates) (issuer : Url) (holder : EcJwk) (now : UInt64)
    (disclosures : List String) (name : String) :
    (pidPayload crates issuer holder now disclosures).canonical.get name =
      ((pidMembers crates issuer holder now disclosures).lookup name).map Value.canonical :=
  Value.get_canonical pidMembers_distinct name

theorem pid_committed (crates : Crates) (issuer : Url) (holder : EcJwk) (now : UInt64)
    (disclosures : List String) :
    ∃ committed, ((pidPayload crates issuer holder now disclosures).canonical.get "_sd").bind
        Value.asArray = some committed ∧
      ∀ encoded ∈ disclosures, crates.digest encoded ∈ committed.filterMap Value.asStr := by
  refine ⟨disclosures.map fun encoded => .string (crates.digest encoded), ?_, ?_⟩
  · rw [pidPayload_get]
    simp [pidMembers, List.lookup_cons, digestsOf, Value.canonical, Value.canonicalItems_eq,
      Value.asArray]
  · exact fun encoded member => List.mem_filterMap.mpr ⟨_, List.mem_map_of_mem member, rfl⟩

theorem pid_holder {key : VerifyingKey} (denotes : holder.Denotes crates key) :
    (((pidPayload crates issuer holder now disclosures).canonical.get "cnf").bind
      (·.get "jwk")).bind EcJwk.ofValue = some holder := by
  have inner : (Value.object [("jwk", holder.toValue)]).canonical.get "jwk" =
      some holder.toValue.canonical := Value.get_canonical (by simp) "jwk"
  have cnf : (pidPayload crates issuer holder now disclosures).canonical.get "cnf" =
      some (Value.object [("jwk", holder.toValue)]).canonical := by
    rw [pidPayload_get]
    rfl
  rw [cnf, Option.bind_some, inner]
  exact EcJwk.ofValue_canonical denotes.kty denotes.crv

/-- A proof by the PID's holder that binds the PID to a new key: a compact JWS with any protected
header and any further claims. -/
def BindingProofBy (crates : Crates) (proof : String) (holderKey : VerifyingKey)
    (claims : BindingProofClaims) : Prop :=
  ∃ header payload value, SignedOctets crates proof holderKey header payload ∧
    crates.valueFromSlice payload = some value ∧ BindingProofClaims.ofValue value = some claims

/-- A wallet shows some of the disclosures of its PID together with a proof for a new key. -/
structure PidPresentation (crates : Crates) (host : Host) (signer : KeychainSigner) (issuer : Url)
    (holder : EcJwk) (holderKey : VerifyingKey) (issuedAt : UInt64) (credential : String)
    (disclosures : List String) (proof : String) (claims : BindingProofClaims) : Prop where
  denotes : holder.Denotes crates holderKey
  issued : ∃ tlsnEvidence pidClaims,
    issueSdJwt crates host signer issuer pidSdJwt holder.toValue issuedAt tlsnEvidence pidClaims =
      .ok credential
  drawn : disclosures ⊆ disclosuresIn credential
  proved : BindingProofBy crates proof holderKey claims
  aud : Text.trimEndMatches '/' claims.aud = issuer.origin
  pidNamed : claims.pidSdHash = crates.digest (issuerJwtOf credential)
  jtiPresent : claims.jti ≠ ""
  jtiBounded : Text.len claims.jti ≤ 256
  vpBounded : Text.len (present (issuerJwtOf credential) disclosures proof) ≤ 32768
  proofBounded : Text.len proof ≤ 8192

/-- What the laws of the crates give for a PID that was issued. -/
structure LawfulPid (crates : Crates) (host : Host) : Prop where
  base64 : Base64Laws crates
  serde : SerdeJsonLaws crates
  sec1 : Sec1Laws crates
  es256 : Es256Laws crates host

variable {holderKey : VerifyingKey} {issuedAt : UInt64} {credential proof : String}
  {shown : List String} {claims : BindingProofClaims}

/-- The names of the identity members that the shown disclosures carry. -/
def Told (crates : Crates) (shown : List String) (name : String) : Prop :=
  ∃ encoded ∈ shown, ∃ text, Discloses crates encoded name text

/-- The disclosures that a PID is issued with. -/
def PidPresentation.issuedDisclosures (crates : Crates) (host : Host) : List String :=
  disclosuresOf crates (host.salt .disclosure) pidIdentity

theorem issueSdJwt_pid {tlsnEvidence : Option VerifiedTlsnEvidence}
    {pidClaims : Option PidSubjectClaims}
    (issued : issueSdJwt crates host signer issuer pidSdJwt holder.toValue issuedAt tlsnEvidence
      pidClaims = .ok credential) :
    SignedSdJwt crates host signer credential
      (pidPayload crates issuer holder issuedAt (PidPresentation.issuedDisclosures crates host))
      (PidPresentation.issuedDisclosures crates host) := by
  obtain ⟨_, _, claimed, signed⟩ := (issueSdJwt_eq_ok ..).mp issued
  cases (sdJwtClaims_pid tlsnEvidence pidClaims).symm.trans claimed
  exact signed

/-- The JWT of a PID, with the signature that the issuer made for it. -/
theorem issuerJwtOf_pid (laws : Base64Laws crates)
    (signed : SignedSdJwt crates host signer credential
      (pidPayload crates issuer holder issuedAt (PidPresentation.issuedDisclosures crates host))
      (PidPresentation.issuedDisclosures crates host)) :
    ∃ signature, host.signEs256 signer (Text.asBytes (sdJwtInput crates signer
        (pidPayload crates issuer holder issuedAt
          (PidPresentation.issuedDisclosures crates host)))) = some signature ∧
      issuerJwtOf credential = compactJws crates (crates.valueToVec (sdJwtHeader crates signer))
        (crates.valueToVec (pidPayload crates issuer holder issuedAt
          (PidPresentation.issuedDisclosures crates host))) signature ∧
      disclosuresIn credential =
        (PidPresentation.issuedDisclosures crates host ++ [""]).filter (· ≠ "") := by
  obtain ⟨signature, signed, rfl⟩ := signed
  have parts := split_sdJwtCompact laws signer (pidPayload crates issuer holder issuedAt
    (PidPresentation.issuedDisclosures crates host)) (host.salt .disclosure)
    (List.cons_ne_nil _ _ : pidIdentity ≠ []) signature
  refine ⟨signature, signed, ?_, ?_⟩
  · rw [issuerJwtOf]
    exact congrArg (List.headD · "") parts
  · rw [disclosuresIn]
    exact congrArg (fun found => (List.tail found).filter (· ≠ "")) parts

namespace PidPresentation

theorem opened
    (presentation : PidPresentation crates host signer issuer holder holderKey issuedAt credential
      shown proof claims) :
    SignedSdJwt crates host signer credential
      (pidPayload crates issuer holder issuedAt (issuedDisclosures crates host))
      (issuedDisclosures crates host) := by
  obtain ⟨_, _, issued⟩ := presentation.issued
  exact issueSdJwt_pid issued

theorem drawn_issued (laws : LawfulPid crates host)
    (presentation : PidPresentation crates host signer issuer holder holderKey issuedAt credential
      shown proof claims) {encoded : String} (member : encoded ∈ shown) :
    encoded ∈ issuedDisclosures crates host ∧ encoded ≠ "" := by
  obtain ⟨_, _, _, among⟩ := issuerJwtOf_pid laws.base64 presentation.opened
  obtain ⟨listed, nonempty⟩ := List.mem_filter.mp (among ▸ presentation.drawn member)
  have nonempty : encoded ≠ "" := of_decide_eq_true nonempty
  exact ⟨(List.mem_append.mp listed).resolve_right fun last =>
    nonempty (List.mem_singleton.mp last), nonempty⟩

/-- Every string that is shown carries one of the claims of the PID. -/
theorem shows_claim (laws : LawfulPid crates host)
    (presentation : PidPresentation crates host signer issuer holder holderKey issuedAt credential
      shown proof claims) {encoded : String} (member : encoded ∈ shown) :
    ∃ claim ∈ pidIdentity, Shows crates encoded claim.1 claim.2 := by
  obtain ⟨i, claim, claimed, rfl⟩ := mem_disclosuresOf (presentation.drawn_issued laws member).1
  obtain ⟨plain, same⟩ := pidIdentity_plain claimed claimDepth
  have shows_ := disclosure_shows laws.base64 laws.serde (host.salt .disclosure i) claim.1 plain
  rw [same] at shows_
  exact ⟨claim, claimed, shows_⟩

/-- A told member has the value of the authoritative record. -/
theorem told_value (laws : LawfulPid crates host)
    (presentation : PidPresentation crates host signer issuer holder holderKey issuedAt credential
      shown proof claims) {encoded name text expected : String} (member : encoded ∈ shown)
    (discloses : Discloses crates encoded name text)
    (claimed : (name, .string expected) ∈ pidIdentity) : text = expected := by
  obtain ⟨⟨_, _⟩, claimedToo, shows_⟩ := presentation.shows_claim laws member
  obtain ⟨rfl, rfl⟩ := shows_.unique discloses
  exact Value.string.inj (value_unique pidIdentity_distinct claimedToo claimed)

/-- All three identity members together are those of the authoritative record. -/
theorem read_authoritative (laws : LawfulPid crates host)
    (presentation : PidPresentation crates host signer issuer holder holderKey issuedAt credential
      shown proof claims) (told : ∀ name ∈ identityNames, Told crates shown name)
    {allowed : List String} (committed : ∀ encoded ∈ shown, crates.digest encoded ∈ allowed) :
    readDisclosures crates allowed .empty shown = .ok authoritativeIdentity := by
  obtain ⟨last, read, knows⟩ := readDisclosures_knows pidIdentity_distinct
    (DisclosedIdentity.empty_knows crates) (fun _ impossible => absurd impossible List.not_mem_nil)
    (fun encoded member => presentation.shows_claim laws member) committed
  have known : ∀ {name expected : String}, name ∈ identityNames →
      (name, .string expected) ∈ pidIdentity → last.member name = some expected := by
    intro name expected isName claimed
    obtain ⟨encoded, member, text, discloses⟩ := told name isName
    rw [← presentation.told_value laws member discloses claimed]
    exact (knows name isName text).mpr ⟨encoded, member, discloses⟩
  have same : last = authoritativeIdentity := by
    have familyName : last.member "family_name" = some "Mustermann" :=
      known (by decide) (.head _)
    have givenName : last.member "given_name" = some "Erika" :=
      known (by decide) (.tail _ (.head _))
    have birthdate : last.member "birthdate" = some "1990-01-01" :=
      known (by decide) (.tail _ (.tail _ (.head _)))
    exact DisclosedIdentity.mk.injEq .. ▸ ⟨familyName, givenName, birthdate⟩
  rw [← same]
  exact read

/-- The parts that the verifier finds in the presentation. -/
theorem parts (laws : LawfulPid crates host)
    (presentation : PidPresentation crates host signer issuer holder holderKey issuedAt credential
      shown proof claims) :
    PidBindingObject.issuerJwt ⟨present (issuerJwtOf credential) shown proof, proof⟩ =
        issuerJwtOf credential ∧
      PidBindingObject.tail ⟨present (issuerJwtOf credential) shown proof, proof⟩ =
        shown ++ [proof] := by
  obtain ⟨signature, _, jwt, _⟩ := issuerJwtOf_pid laws.base64 presentation.opened
  obtain ⟨_, _, _, byHolder, _⟩ := presentation.proved
  have jwtTilde : '~' ∉ (issuerJwtOf credential).toList := by
    rw [jwt]
    exact laws.base64.compactJws_no_tilde _ _ _
  have proofText : '~' ∉ proof.toList ∧ proof ≠ "" := by
    obtain ⟨raw, _, rfl, _⟩ := byHolder
    exact ⟨laws.base64.compactJws_no_tilde _ _ _, compactJws_ne_empty _ _ _⟩
  have shownTilde : ∀ encoded ∈ shown, '~' ∉ encoded.toList := by
    intro encoded member
    obtain ⟨i, claim, _, rfl⟩ := mem_disclosuresOf (presentation.drawn_issued laws member).1
    exact laws.base64.disclosure_no_tilde _ _ _
  exact present_parts jwtTilde shownTilde proofText.1
    (fun encoded member => (presentation.drawn_issued laws member).2) proofText.2

theorem accepted (laws : LawfulPid crates host)
    (presentation : PidPresentation crates host signer issuer holder holderKey issuedAt credential
      shown proof claims) {t : UInt64} (at_ : claims.iat = t) (from_ : issuedAt ≤ t)
    (until_ : t < saturatingAdd issuedAt 3600)
    (told : ∀ name ∈ identityNames, Told crates shown name) :
    Nonempty (PidBindingProof crates ⟨present (issuerJwtOf credential) shown proof, proof⟩
      (signer.publicJwk crates) issuer claims.nonce claims.newHolderJkt t) := by
  obtain ⟨signature, signed, jwt, _⟩ := issuerJwtOf_pid laws.base64 presentation.opened
  obtain ⟨issuerKey, parsed, published, sliced, verified⟩ :=
    laws.es256.published signer laws.base64 laws.sec1 signed
  obtain ⟨header, payload, value, byHolder, parsedValue, claimsRead⟩ := presentation.proved
  obtain ⟨first, tail⟩ := presentation.parts laws
  have dropped : (shown ++ [proof]).dropLast = shown := List.dropLast_concat
  obtain ⟨committed, sd, digests⟩ :=
    pid_committed crates issuer holder issuedAt (issuedDisclosures crates host)
  have get := pidPayload_get crates issuer holder issuedAt (issuedDisclosures crates host)
  exact ⟨{
    trustedJwk := signer.jwk crates
    issuerKey
    pid := (pidPayload crates issuer holder issuedAt (issuedDisclosures crates host)).canonical
    committed
    holderJwk := holder
    holderKey
    proofPayload := value
    claims
    vpBounded := presentation.vpBounded
    proofBounded := presentation.proofBounded
    issuerJwtPresent := by rw [first, jwt]; exact compactJws_ne_empty _ _ _
    ends := by rw [tail]; exact List.getLast?_concat
    trustedRead := signer.publicJwk_read crates
    issuerDenoted := published
    issued := by
      rw [first, jwt]
      exact SignedOctets.signedValue laws.base64 ⟨signature, parsed, rfl, sliced, verified⟩
        (laws.serde.readsWritten _ pidPayload_plain)
    vct := by rw [get]; rfl
    iss := by
      rw [get]
      exact congrArg some (Text.trimEndMatches_idempotent _ _)
    nbf := ⟨issuedAt, by rw [get]; rfl, from_⟩
    exp := ⟨_, by rw [get]; rfl, until_⟩
    sd
    cnf := pid_holder presentation.denotes
    holderDenoted := presentation.denotes
    bound := byHolder.signedValue laws.base64 parsedValue
    claimsRead
    aud := presentation.aud
    nonceNamed := rfl
    newHolderNamed := rfl
    pidNamed := by rw [first]; exact presentation.pidNamed
    jtiPresent := presentation.jtiPresent
    jtiBounded := presentation.jtiBounded
    notAhead := by
      rw [at_, UInt64.le_iff_toNat_le, toNat_saturatingAdd]
      exact Nat.le_min.mpr ⟨Nat.le_add_right _ _, Nat.le_sub_one_of_lt t.toNat_lt⟩
    notStale := by
      rw [at_, UInt64.le_iff_toNat_le, toNat_saturatingSub, Nat.sub_self]
      exact Nat.zero_le _
    disclosed := by
      rw [tail, dropped]
      exact presentation.read_authoritative laws told fun encoded member =>
        digests encoded (presentation.drawn_issued laws member).1 }⟩

end PidPresentation

end Pid

/-! ## A PID of the reference issuer -/

namespace Wallet
variable {crates : Crates} (wallet : Wallet crates)

theorem bindingProofBy (laws : LawfulEncodings crates) (typ : String) (claims : BindingProofClaims) :
    BindingProofBy crates (wallet.bindingProof typ claims) wallet.key claims :=
  ⟨_, _, _, wallet.bindingProof_signed typ claims, laws.serde.readsWritten _ claims.toValue_plain,
    claims.toValue_read⟩

end Wallet

theorem told_of_issued {crates : Crates} {salt : Nat → Bytes} (base64 : Base64Laws crates)
    (serde : SerdeJsonLaws crates) {name : String} (isName : name ∈ identityNames) :
    Told crates (disclosuresOf crates salt pidIdentity) name := by
  have shown : ∀ (i : Nat) text, pidIdentity[i]? = some (name, Value.string text) →
      Told crates (disclosuresOf crates salt pidIdentity) name := by
    intro i text found
    obtain ⟨bounded, same⟩ := List.getElem?_eq_some_iff.mp found
    refine ⟨disclosure crates (salt i) name (.string text), ?_, text,
      disclosure_shows base64 serde (salt i) name .string⟩
    refine List.mem_mapIdx.mpr ⟨i, bounded, ?_⟩
    rw [same]
  simp only [identityNames, List.mem_cons, List.not_mem_nil, or_false] at isName
  rcases isName with rfl | rfl | rfl
  · exact shown 0 _ rfl
  · exact shown 1 _ rfl
  · exact shown 2 _ rfl

namespace Reference
open Json (size sizeItems sizeMembers)

theorem len_disclosure_le {claim : String × Value} (claimed : claim ∈ pidIdentity) (i : Nat) :
    Text.len (disclosure reference (referenceHost.salt .disclosure i) claim.1 claim.2) ≤ 820 := by
  have small : ∀ claim ∈ pidIdentity, 6 * Text.len claim.1 + size claim.2 ≤ 190 := by decide
  have salt := len_urlSafeEncode_le (referenceHost.salt .disclosure i)
  have short : (referenceHost.salt .disclosure i).length ≤ 16 := List.length_take_le _ _
  have written := len_encoded_le (.array
    [ .string (reference.urlSafeEncode (referenceHost.salt .disclosure i)), .string claim.1,
      claim.2 ])
  have bound := small claim claimed
  simp only [size, sizeItems] at written
  exact written.trans (by omega)

theorem disclosure_ne_empty {claim : String × Value} (claimed : claim ∈ pidIdentity) (i : Nat) :
    disclosure reference (referenceHost.salt .disclosure i) claim.1 claim.2 ≠ "" := by
  intro empty
  obtain ⟨bytes, salt, decoded, parsed⟩ := disclosure_shows reference_base64 reference_serdeJson
    (referenceHost.salt .disclosure i) claim.1 (pidIdentity_plain claimed claimDepth).1
  rw [empty] at decoded
  have nothing : reference.urlSafeDecode "" = some [] := by decide
  cases nothing.symm.trans decoded
  have unread : reference.valueFromSlice [] = none := by decide
  cases unread.symm.trans parsed

theorem mem_issuedDisclosures {encoded : String}
    (member : encoded ∈ PidPresentation.issuedDisclosures reference referenceHost) :
    encoded ≠ "" ∧ Text.len encoded ≤ 820 := by
  obtain ⟨i, claim, claimed, rfl⟩ := mem_disclosuresOf member
  exact ⟨disclosure_ne_empty claimed i, len_disclosure_le claimed i⟩

theorem issuedDisclosures_length :
    (PidPresentation.issuedDisclosures reference referenceHost).length = 5 :=
  List.length_mapIdx

theorem size_pidPayload_le {holder : EcJwk} (x : Text.len holder.x ≤ 66)
    (y : Text.len holder.y ≤ 66) (now : UInt64) {disclosures : List String}
    (five : disclosures.length = 5) :
    size (pidPayload reference referenceState.issuer holder now disclosures) ≤ 5000 := by
  have key := size_jwk_le x y
  have issued := Json.size_natural_le now
  have expires := Json.size_natural_le (saturatingAdd now 3600)
  have digests : ∀ listed : List String, sizeItems (listed.map fun disclosure =>
      .string (reference.digest disclosure)) ≤ 399 * listed.length := by
    intro listed
    induction listed with
    | nil => simp [sizeItems]
    | cons first rest carried =>
        have bound := len_digest_le first
        simp only [List.map_cons, sizeItems, size, List.length_cons]
        omega
  have listed := digests disclosures
  have issuer : Text.len referenceState.issuer.origin = 22 := by decide
  have names : 6 * Text.len "iss" + 6 * Text.len "iat" + 6 * Text.len "nbf" + 6 * Text.len "exp" +
      6 * Text.len "vct" + 6 * Text.len pidVct + 6 * Text.len "cnf" + 6 * Text.len "jwk" +
      6 * Text.len "_sd_alg" + 6 * Text.len "sha-256" + 6 * Text.len "_sd" ≤ 500 := by decide
  simp only [pidPayload_eq, pidMembers, digestsOf, size, sizeMembers, issuer]
  omega

theorem size_bindingClaims_le (claims : BindingProofClaims) :
    size claims.toValue ≤ 6 * (Text.len claims.aud + Text.len claims.nonce + Text.len claims.jti +
      Text.len claims.pidSdHash + Text.len claims.newHolderJkt) + 320 := by
  have issued := Json.size_natural_le claims.iat
  have names : 6 * Text.len "aud" + 6 * Text.len "iat" + 6 * Text.len "nonce" + 6 * Text.len "jti" +
      6 * Text.len "pid_sd_hash" + 6 * Text.len "new_holder_jkt" ≤ 240 := by decide
  simp only [BindingProofClaims.toValue, size, sizeMembers]
  omega

theorem size_sdJwtHeader_le (signer : KeychainSigner) :
    size (sdJwtHeader reference signer) ≤ 700 := by
  have kid : Text.len (signer.kid reference) ≤ 66 := len_digest_le _
  have names : 6 * Text.len "alg" + 6 * Text.len "ES256" + 6 * Text.len "typ" +
      6 * Text.len "dc+sd-jwt" + 6 * Text.len "kid" ≤ 200 := by decide
  simp only [sdJwtHeader, size, sizeMembers]
  omega

end Reference

/-- The claims of a proof that binds a PID of the reference issuer. -/
def bindingClaims (credential nonce jti newHolderJkt : String) (t : UInt64) :
    BindingProofClaims where
  aud := referenceState.issuer.asStr
  iat := t
  nonce := nonce
  jti := jti
  pidSdHash := reference.digest (issuerJwtOf credential)
  newHolderJkt := newHolderJkt

theorem reference_lawfulPid : LawfulPid reference referenceHost :=
  ⟨reference_base64, reference_serdeJson, reference_sec1, reference_es256⟩

/-- What the reference client needs of the texts it signs. -/
structure ShortTexts (typ nonce jti newHolderJkt : String) : Prop where
  typ : Text.len typ ≤ 40
  nonce : Text.len nonce ≤ 64
  jti : Text.len jti ≤ 64
  newHolderJkt : Text.len newHolderJkt ≤ 66

section Bounds

variable {x y : Nat} (on : Reference.onCurve x y = true) (issuedAt t : UInt64)
  {typ nonce jti newHolderJkt : String}

theorem len_bindingProof_le (short : ShortTexts typ nonce jti newHolderJkt) (credential : String) :
    Text.len ((Reference.wallet on).bindingProof typ
      (bindingClaims credential nonce jti newHolderJkt t)) ≤ 7000 := by
  obtain ⟨typBound, nonceBound, jtiBound, jktBound⟩ := short
  have proof : Text.len ((Reference.wallet on).bindingProof typ
      (bindingClaims credential nonce jti newHolderJkt t)) ≤ _ :=
    Reference.len_walletProof_le on typ _
  have claims := Reference.size_bindingClaims_le
    (bindingClaims credential nonce jti newHolderJkt t)
  have digest := Reference.len_digest_le (issuerJwtOf credential)
  have issuer : Text.len referenceState.issuer.asStr = 23 := by decide
  simp only [bindingClaims, issuer] at claims proof
  simp only [bindingClaims]
  omega

theorem len_present_le (jwt proof : String) :
    Text.len (present jwt (PidPresentation.issuedDisclosures reference referenceHost) proof) ≤
      Text.len jwt + Text.len proof + 4106 := by
  have each : ∀ part ∈ PidPresentation.issuedDisclosures reference referenceHost,
      Text.len part + Text.len "~" ≤ 821 :=
    fun part member => Nat.add_le_add (Reference.mem_issuedDisclosures member).2 (le_refl 1)
  have joined : Text.len ("~".intercalate (jwt ::
      PidPresentation.issuedDisclosures reference referenceHost ++ [proof])) ≤ _ :=
    Text.len_intercalate_le each jwt
  rw [Reference.issuedDisclosures_length, show Text.len "~" = 1 from rfl] at joined
  rw [present]
  omega

end Bounds

section Reference

variable {x y : Nat} (on : Reference.onCurve x y = true) (issuedAt t : UInt64)

/-- The PID that the reference issuer makes for a wallet. -/
def referencePid : String :=
  let payload := pidPayload reference referenceState.issuer (Reference.wallet on).jwk issuedAt
    (PidPresentation.issuedDisclosures reference referenceHost)
  sdJwtCompact reference (Reference.signerAt Reference.x₁ Reference.y₁) payload
    (PidPresentation.issuedDisclosures reference referenceHost)
    (Reference.idealSignature (Reference.keyAt Reference.x₁ Reference.y₁)
      (Text.asBytes
        (sdJwtInput reference (Reference.signerAt Reference.x₁ Reference.y₁) payload)))

theorem referencePid_issued :
    issueSdJwt reference referenceHost (Reference.signerAt Reference.x₁ Reference.y₁)
      referenceState.issuer pidSdJwt (Reference.wallet on).jwk.toValue issuedAt none none =
        .ok (referencePid on issuedAt) :=
  (issueSdJwt_eq_ok ..).mpr ⟨_, _, sdJwtClaims_pid none none, _,
    Reference.signEs256_signerAt Reference.onCurve₁ _, rfl⟩

variable {typ nonce jti newHolderJkt : String}

/-- The PID of a wallet is shown in full. -/
theorem reference_presentation (short : ShortTexts typ nonce jti newHolderJkt)
    (jtiPresent : jti ≠ "") :
    PidPresentation reference referenceHost (Reference.signerAt Reference.x₁ Reference.y₁)
      referenceState.issuer (Reference.wallet on).jwk (Reference.wallet on).key issuedAt
      (referencePid on issuedAt) (PidPresentation.issuedDisclosures reference referenceHost)
      ((Reference.wallet on).bindingProof typ
        (bindingClaims (referencePid on issuedAt) nonce jti newHolderJkt t))
      (bindingClaims (referencePid on issuedAt) nonce jti newHolderJkt t) := by
  have issued := referencePid_issued on issuedAt
  obtain ⟨signature, signed, jwt, listed⟩ :=
    issuerJwtOf_pid reference_base64 (issueSdJwt_pid issued)
  have length : signature.length = 64 := by
    cases (Reference.signEs256_signerAt Reference.onCurve₁ _).symm.trans signed
    exact Reference.idealSignature_length _ _
  have jwtBound : Text.len (issuerJwtOf (referencePid on issuedAt)) ≤ 12000 := by
    have payload := Reference.size_pidPayload_le (Reference.len_walletJwk_le on).1
      (Reference.len_walletJwk_le on).2 issuedAt Reference.issuedDisclosures_length
    have header := Reference.size_sdJwtHeader_le (Reference.signerAt Reference.x₁ Reference.y₁)
    rw [jwt]
    exact (Reference.len_compactJws_le _ _ length).trans (by omega)
  have proofBound := len_bindingProof_le on t short (referencePid on issuedAt)
  exact {
    denotes := (Reference.wallet on).denotes
    issued := ⟨none, none, issued⟩
    drawn := by
      intro encoded member
      rw [listed]
      exact List.mem_filter.mpr ⟨List.mem_append_left _ member,
        decide_eq_true (Reference.mem_issuedDisclosures member).1⟩
    proved := (Reference.wallet on).bindingProofBy reference_encodings typ _
    aud := rfl
    pidNamed := rfl
    jtiPresent := jtiPresent
    jtiBounded := short.jti.trans (by decide)
    vpBounded := (len_present_le _ _).trans (by omega)
    proofBounded := proofBound.trans (by decide) }

/-- While the PID is valid, the verifier accepts its presentation for the key that it names. -/
theorem reference_presentation_accepted (short : ShortTexts typ nonce jti newHolderJkt)
    (jtiPresent : jti ≠ "") (from_ : issuedAt ≤ t) (until_ : t < saturatingAdd issuedAt 3600) :
    let proof := (Reference.wallet on).bindingProof typ
      (bindingClaims (referencePid on issuedAt) nonce jti newHolderJkt t)
    Nonempty (PidBindingProof reference
      ⟨present (issuerJwtOf (referencePid on issuedAt))
        (PidPresentation.issuedDisclosures reference referenceHost) proof, proof⟩
      ((Reference.signerAt Reference.x₁ Reference.y₁).publicJwk reference) referenceState.issuer
      nonce newHolderJkt t) :=
  (reference_presentation on issuedAt t short jtiPresent).accepted reference_lawfulPid rfl from_
    until_ fun _ isName => told_of_issued reference_base64 reference_serdeJson isName

end Reference

/-! ## Presenting it back -/

section Accepted

variable {crates : Crates} {host : Host} {signer : KeychainSigner} {issuer : Url} {holder : EcJwk}
  {holderKey : VerifyingKey} {issuedAt : UInt64} {credential proof : String} {shown : List String}
  {claims : BindingProofClaims}

/-- A PID can be presented back while it is valid: the verifier accepts exactly the selections
with all three identity members, and always for the same subject. -/
theorem presentation_accepted_iff (laws : LawfulPid crates host)
    (presentation : PidPresentation crates host signer issuer holder holderKey issuedAt credential
      shown proof claims) {t : UInt64} (at_ : claims.iat = t) (from_ : issuedAt ≤ t)
    (until_ : t < saturatingAdd issuedAt 3600) :
    ((∃ verified, verifyPidBinding crates
        ⟨present (issuerJwtOf credential) shown proof, proof⟩ (signer.publicJwk crates) issuer
        claims.nonce claims.newHolderJkt t = .ok verified) ↔
      ∀ name ∈ identityNames, Told crates shown name) ∧
    ∀ verified, verifyPidBinding crates
        ⟨present (issuerJwtOf credential) shown proof, proof⟩ (signer.publicJwk crates) issuer
        claims.nonce claims.newHolderJkt t = .ok verified →
      verified = ⟨authoritativeSubject crates, claims.jti⟩ := by
  refine ⟨⟨?_, ?_⟩, ?_⟩
  · rintro ⟨verified, succeeded⟩
    obtain ⟨accepted, _⟩ := (verifyPidBinding_eq_ok ..).mp succeeded
    obtain ⟨_, familyName, givenName, birthdate⟩ := accepted.disclosures
    rw [(presentation.parts laws).2, List.dropLast_concat] at familyName givenName birthdate
    intro name isName
    simp only [identityNames, List.mem_cons, List.not_mem_nil, or_false] at isName
    rcases isName with rfl | rfl | rfl
    · obtain ⟨encoded, member, discloses⟩ := familyName _ rfl
      exact ⟨encoded, member, _, discloses⟩
    · obtain ⟨encoded, member, discloses⟩ := givenName _ rfl
      exact ⟨encoded, member, _, discloses⟩
    · obtain ⟨encoded, member, discloses⟩ := birthdate _ rfl
      exact ⟨encoded, member, _, discloses⟩
  · intro told
    obtain ⟨accepted⟩ := presentation.accepted laws at_ from_ until_ told
    exact ⟨_, (verifyPidBinding_eq_ok ..).mpr ⟨accepted, rfl⟩⟩
  · intro verified succeeded
    obtain ⟨accepted, rfl⟩ := (verifyPidBinding_eq_ok ..).mp succeeded
    obtain ⟨header, payload, value, byHolder, parsedValue, claimsRead⟩ := presentation.proved
    have same := (byHolder.signedValue laws.base64 parsedValue).unique accepted.bound
    subst same
    have named : claims = accepted.claims :=
      Option.some.inj (claimsRead.symm.trans accepted.claimsRead)
    exact VerifiedPidBinding.mk.injEq .. ▸ ⟨rfl, congrArg BindingProofClaims.jti named.symm⟩

end Accepted

theorem presentation_accepted_reference :
    let pid := referencePid Reference.onCurve₃ 1000
    let proof := (Reference.wallet Reference.onCurve₃).bindingProof "pid-binding+jwt"
      (bindingClaims pid "nonce" "binding" "thumbprint" 4599)
    let binding := ⟨present (issuerJwtOf pid)
      (PidPresentation.issuedDisclosures reference referenceHost) proof, proof⟩
    let trusted := (Reference.signerAt Reference.x₁ Reference.y₁).publicJwk reference
    (∃ verified, verifyPidBinding reference binding trusted referenceState.issuer "nonce"
        "thumbprint" 4599 = .ok verified) ∧
      ∀ verified, verifyPidBinding reference binding trusted referenceState.issuer "nonce"
        "thumbprint" 4599 = .ok verified →
      verified = ⟨authoritativeSubject reference, "binding"⟩ := by
  have short : ShortTexts "pid-binding+jwt" "nonce" "binding" "thumbprint" :=
    ⟨by decide, by decide, by decide, by decide⟩
  obtain ⟨accepted, same⟩ := presentation_accepted_iff (t := 4599) reference_lawfulPid
    (reference_presentation Reference.onCurve₃ 1000 4599 short (by decide)) rfl (by decide)
    (by decide)
  exact ⟨accepted.mpr fun name isName =>
    told_of_issued reference_base64 reference_serdeJson isName, same⟩

end VCIssuer.Service
