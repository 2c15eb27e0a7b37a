import VCIssuer.Service.Availability
import VCIssuer.Service.EvidenceProvenance
import VCIssuer.Service.Metadata
import VCIssuer.Service.Presentation
import VCIssuer.Service.Restarts

/-!
# Relying parties

A relying party has fetched the published keys and knows nothing else of the
issuer.  It takes whatever is signed with a key that the header names, and of an
SD-JWT the disclosures that the signed payload commits to.
-/

namespace VCIssuer.Service

open VCIssuer.Library

/-! ## Published keys -/

/-- The keys of the metadata and of the credentials, in the response to `/jwks.json`. -/
def jwks (crates : Crates) (state : AppState) (metadataSigner : KeychainSigner) : Value :=
  .object [("keys", .array (metadataSigner.publicJwk crates ::
    state.credentialSigners.map fun entry => entry.2.publicJwk crates))]

/-- The metadata and every credential are signed with these keys. -/
def signersOf (state : AppState) (metadataSigner : KeychainSigner) : List KeychainSigner :=
  metadataSigner :: state.credentialSigners.map Prod.snd

/-! ## Reading -/

namespace RelyingParty

variable (crates : Crates) (body : Bytes)

/-- The keys of this name in the body of the response. -/
def keysNamed (kid : String) : List EcJwk :=
  ((((crates.valueFromSlice body).bind (·.get "keys")).bind Value.asArray).getD []).filterMap
    fun jwk => if (jwk.get "kid").bind Value.asStr = some kid then EcJwk.ofValue jwk else none

/-- The payload of a compact JWS of this type, if a published key that it names has signed it. -/
def readJws (typ compact : String) : Option Value := do
  let header ← (crates.urlSafeDecode ((Text.split '.' compact).headD "")).bind crates.valueFromSlice
  let kid ← (header.get "kid").bind Value.asStr
  if (header.get "typ").bind Value.asStr = some typ then
    (keysNamed crates body kid).findSome? fun jwk => do
      let (key, _) ← (verifyingKeyAndJwk crates jwk "invalid_key").toOption
      (verifyJwsPayload crates compact key "credential").toOption
  else none

/-- The claim in a disclosure that is committed to. -/
def readClaim (committed : List String) (encoded : String) : Option (String × Value) := do
  let value ← (crates.urlSafeDecode encoded).bind crates.valueFromSlice
  match value with
  | .array [_, .string name, claim] =>
      if crates.digest encoded ∈ committed then some (name, claim) else none
  | _ => none

/-- The digests that a payload commits to. -/
def committedIn (payload : Value) : List String :=
  (((payload.get "_sd").bind Value.asArray).getD []).filterMap Value.asStr

/-- The disclosures of a presentation without a proof of its holder. -/
def shownIn (presentation : String) : List String :=
  (Text.split '~' presentation).tail.dropLast

/-- The payload and the disclosed claims of an SD-JWT. -/
def readCredential (presentation : String) : Option (Value × List (String × Value)) := do
  let payload ← readJws crates body "dc+sd-jwt" (issuerJwtOf presentation)
  let claims ← (shownIn presentation).mapM (readClaim crates (committedIn payload))
  return (payload, claims)

end RelyingParty

/-! ## What is published can be read -/

section Keys

variable {crates : Crates} {state : AppState} {metadataSigner signer : KeychainSigner}

theorem KeychainSigner.publicJwk_distinct :
    ([ ("kty", Value.string "EC"), ("crv", .string "P-256"), ("x", .string (signer.x crates)),
      ("y", .string (signer.y crates)), ("use", .string "sig"), ("alg", .string "ES256"),
      ("kid", .string (signer.kid crates)) ].map Prod.fst).Nodup := by
  simp

theorem KeychainSigner.publicJwk_plain (depth : Nat) :
    PlainJson (depth + 1) (signer.publicJwk crates) := by
  refine .object publicJwk_distinct fun member found => ?_
  simp only [List.mem_cons, List.not_mem_nil, or_false] at found
  rcases found with rfl | rfl | rfl | rfl | rfl | rfl | rfl <;> exact .string

theorem KeychainSigner.publicJwk_canonical :
    EcJwk.ofValue (signer.publicJwk crates).canonical = some (signer.jwk crates) := by
  refine bind_of_eq_some _ (Value.struct_canonical publicJwk_distinct _) ?_
  refine bind_of_eq_some (.string "EC") rfl (bind_of_eq_some _ rfl ?_)
  refine bind_of_eq_some (.string "P-256") rfl (bind_of_eq_some _ rfl ?_)
  refine bind_of_eq_some (.string (signer.x crates)) rfl (bind_of_eq_some _ rfl ?_)
  exact bind_of_eq_some (.string (signer.y crates)) rfl (bind_of_eq_some _ rfl rfl)

theorem jwks_eq : jwks crates state metadataSigner =
    .object [("keys", .array ((signersOf state metadataSigner).map (·.publicJwk crates)))] := by
  simp [jwks, signersOf]

/-- Every signer is found under its name. -/
theorem mem_keysNamed (serde : SerdeJsonLaws crates)
    (published : signer ∈ signersOf state metadataSigner) :
    signer.jwk crates ∈ RelyingParty.keysNamed crates
      (crates.valueToVec (jwks crates state metadataSigner)) (signer.kid crates) := by
  have plain : PlainJson jsonDepth (jwks crates state metadataSigner) := by
    rw [jwks_eq]
    refine .object (by simp) fun member found => ?_
    cases List.mem_singleton.mp found
    refine .array fun jwk among => ?_
    obtain ⟨_, _, rfl⟩ := List.mem_map.mp among
    exact KeychainSigner.publicJwk_plain _
  have keys : ((jwks crates state metadataSigner).canonical.get "keys").bind Value.asArray =
      some ((signersOf state metadataSigner).map fun signer =>
        (signer.publicJwk crates).canonical) := by
    rw [jwks_eq, Value.get_canonical (by simp)]
    simp [Value.get, Value.canonical, Value.canonicalItems_eq, Value.asArray]
  have named : ((signer.publicJwk crates).canonical.get "kid").bind Value.asStr =
      some (signer.kid crates) := by
    rw [KeychainSigner.publicJwk, Value.get_canonical KeychainSigner.publicJwk_distinct]
    rfl
  rw [RelyingParty.keysNamed, serde.readsWritten _ plain, Option.bind_some, keys,
    Option.getD_some]
  refine List.mem_filterMap.mpr ⟨_, List.mem_map_of_mem published, ?_⟩
  rw [if_pos named, KeychainSigner.publicJwk_canonical]

end Keys

/-! ## What is signed can be read -/

/-- The protected header of what is signed for relying parties. -/
def typedHeader (crates : Crates) (signer : KeychainSigner) (typ : String) : Value :=
  .object [("alg", .string "ES256"), ("typ", .string typ), ("kid", .string (signer.kid crates))]

theorem findSome?_eq_some_of_unique {α β : Type} {found : α → Option β} {xs : List α} {x : α}
    {y : β} (member : x ∈ xs) (here : found x = some y)
    (unique : ∀ x ∈ xs, ∀ other, found x = some other → other = y) : xs.findSome? found = some y := by
  cases result : xs.findSome? found with
  | none => exact absurd here (by rw [List.findSome?_eq_none_iff.mp result x member]; nofun)
  | some other =>
      obtain ⟨x, member, same⟩ := List.exists_of_findSome?_eq_some result
      rw [unique x member other same]

section Signed

variable {crates : Crates} {host : Host} {state : AppState}
  {metadataSigner signer : KeychainSigner} {typ : String} {payload : Value} {signature : Bytes}

theorem typedHeader_distinct :
    ([("alg", Value.string "ES256"), ("typ", .string typ),
      ("kid", .string (signer.kid crates))].map Prod.fst).Nodup := by
  simp

theorem typedHeader_get (name : String) :
    (typedHeader crates signer typ).canonical.get name =
      (([("alg", Value.string "ES256"), ("typ", .string typ),
        ("kid", .string (signer.kid crates))] : List (String × Value)).lookup name).map
          Value.canonical :=
  Value.get_canonical typedHeader_distinct name

theorem typedHeader_plain : PlainJson jsonDepth (typedHeader crates signer typ) := by
  refine .object typedHeader_distinct fun member found => ?_
  simp only [List.mem_cons, List.not_mem_nil, or_false] at found
  rcases found with rfl | rfl | rfl <;> exact .string

/-- What a published key has signed is read as it was written. -/
theorem readJws_signed (laws : LawfulPid crates host)
    (published : signer ∈ signersOf state metadataSigner) (plain : PlainJson jsonDepth payload)
    (signed : host.signEs256 signer (signingInput
      (crates.urlSafeEncode (crates.valueToVec (typedHeader crates signer typ)))
      (crates.urlSafeEncode (crates.valueToVec payload))) = some signature) :
    RelyingParty.readJws crates (crates.valueToVec (jwks crates state metadataSigner)) typ
      (compactJws crates (crates.valueToVec (typedHeader crates signer typ))
        (crates.valueToVec payload) signature) = some payload.canonical := by
  obtain ⟨key, parsed, denotes, sliced, verified⟩ :=
    laws.es256.published signer laws.base64 laws.sec1 signed
  have octets : SignedOctets crates (compactJws crates
      (crates.valueToVec (typedHeader crates signer typ)) (crates.valueToVec payload) signature) key
      (crates.valueToVec (typedHeader crates signer typ)) (crates.valueToVec payload) :=
    ⟨signature, parsed, rfl, sliced, verified⟩
  have value := octets.signedValue laws.base64 (laws.serde.readsWritten _ plain)
  have header : (crates.urlSafeDecode ((Text.split '.' (compactJws crates
      (crates.valueToVec (typedHeader crates signer typ)) (crates.valueToVec payload)
        signature)).headD "")).bind crates.valueFromSlice =
          some (typedHeader crates signer typ).canonical := by
    rw [laws.base64.split_compactJws, List.headD_cons, laws.base64.readsWritten, Option.bind_some,
      laws.serde.readsWritten _ typedHeader_plain]
  have kid : ((typedHeader crates signer typ).canonical.get "kid").bind Value.asStr =
      some (signer.kid crates) := by
    rw [typedHeader_get]
    rfl
  have typed : ((typedHeader crates signer typ).canonical.get "typ").bind Value.asStr =
      some typ := by
    rw [typedHeader_get]
    rfl
  refine bind_of_eq_some _ header (bind_of_eq_some _ kid ?_)
  rw [if_pos typed]
  refine findSome?_eq_some_of_unique (mem_keysNamed laws.serde published) ?_ ?_
  · refine bind_of_eq_some _ (Checks.toOption_eq_some.mpr
      ((verifyingKeyAndJwk_eq_ok ..).mpr ⟨denotes, rfl, rfl⟩)) ?_
    exact Checks.toOption_eq_some.mpr ((verifyJwsPayload_eq_ok ..).mpr value)
  · intro jwk _ other found
    obtain ⟨_, _, second⟩ := Option.bind_eq_some_iff.mp found
    have signedToo := (verifyJwsPayload_eq_ok ..).mp (Checks.toOption_eq_some.mp second)
    exact (value.unique signedToo).symm

end Signed

/-! ## What an SD-JWT says -/

def sdJwtProfiles : List String :=
  [pidSdJwt, pidFromEmrtdSdJwt, qeaaSdJwt, qeaaPidBoundSdJwt, tlsnEvidenceSdJwt, mandateSdJwt]

/-- The claims of an SD-JWT, and the payload that commits to them. -/
structure SdJwtContent where
  claims : List (String × Value)
  payload : Value

def SdJwtContent.disclosures (content : SdJwtContent) (crates : Crates) (salt : Nat → Bytes) :
    List String :=
  disclosuresOf crates salt content.claims

/-- What a decision has its SD-JWT say. -/
def sdJwtContent (crates : Crates) (state : AppState) (host : Host) (decision : Decision) :
    Option SdJwtContent :=
  if decision.configurationId = mandateSdJwt then
    decision.mandateGrant.map fun grant =>
      let mandateJti := randomToken crates (host.salt .mandateJti 0)
      { claims := mandateClaims (mandatorOf grant) grant.grantedPowers mandateJti
        payload := (mandateSdJwtPayload crates host state.issuer decision.proof.holderJwk
          (mandatorOf grant) grant.grantedPowers mandateJti decision.now).1 }
  else
    (sdJwtClaims decision.configurationId decision.tlsnEvidence
      (decision.chipLiveness.map (·.claims))).map fun (vct, claims) =>
        { claims
          payload := sdJwtPayload crates state.issuer decision.configurationId vct
            decision.proof.holderJwk decision.now (disclosuresOf crates (host.salt .disclosure)
              claims) }

/-- A disclosure string that was issued, and the claim that is read from it. -/
def SdJwtContent.Carries (content : SdJwtContent) (crates : Crates) (salt : Nat → Bytes)
    (part : String) (claim : String × Value) : Prop :=
  ∃ i issued, content.claims[i]? = some issued ∧
    part = disclosure crates (salt i) issued.1 issued.2 ∧ claim = (issued.1, issued.2.canonical)

theorem sdJwtClaims_ne_nil {profile vct : String} {tlsnEvidence : Option VerifiedTlsnEvidence}
    {pidClaims : Option PidSubjectClaims} {claims : List (String × Value)}
    (claimed : sdJwtClaims profile tlsnEvidence pidClaims = some (vct, claims)) : claims ≠ [] := by
  unfold sdJwtClaims at claimed
  split_ifs at claimed
  · cases claimed
    simp
  · obtain ⟨_, _, same⟩ := Option.map_eq_some_iff.mp claimed
    cases same
    simp
  · cases claimed
    simp
  · obtain ⟨_, _, same⟩ := Option.map_eq_some_iff.mp claimed
    cases same
    simp

/-- The claims of every profile can be read back, as far as the notary's output can. -/
theorem sdJwtClaims_plain {profile vct : String} {tlsnEvidence : Option VerifiedTlsnEvidence}
    {pidClaims : Option PidSubjectClaims} {claims : List (String × Value)}
    (claimed : sdJwtClaims profile tlsnEvidence pidClaims = some (vct, claims))
    (legible : profile = tlsnEvidenceSdJwt → ∀ evidence, tlsnEvidence = some evidence →
      PlainJson claimDepth evidence.verifierOutput) :
    ∀ claim ∈ claims, PlainJson claimDepth claim.2 := by
  unfold sdJwtClaims at claimed
  split_ifs at claimed with _ _ _ tlsn
  · cases claimed
    intro claim found
    simp only [List.mem_cons, List.not_mem_nil, or_false] at found
    rcases found with rfl | rfl | rfl | rfl | rfl <;> first | exact .string | exact .bool
  · obtain ⟨pid, _, same⟩ := Option.map_eq_some_iff.mp claimed
    cases same
    intro claim found
    rcases List.mem_append.mp found with found | found
    · simp only [List.mem_cons, List.not_mem_nil, or_false] at found
      rcases found with rfl | rfl | rfl | rfl | rfl | rfl <;> first | exact .string | exact .bool
    · obtain ⟨_, _, rfl⟩ := Option.map_eq_some_iff.mp (Option.mem_toList.mp found)
      exact .string
  · cases claimed
    intro claim found
    simp only [List.mem_cons, List.not_mem_nil, or_false] at found
    rcases found with rfl | rfl | rfl | rfl <;> exact .string
  · obtain ⟨evidence, attached, same⟩ := Option.map_eq_some_iff.mp claimed
    cases same
    intro claim found
    simp only [List.mem_cons, List.not_mem_nil, or_false] at found
    rcases found with rfl | rfl | rfl | rfl
    · exact .string
    · exact .natural
    · exact legible tlsn evidence attached
    · exact .string

section Content

variable {crates : Crates} {state : AppState} {host : Host} {decision : Decision}
  {content : SdJwtContent} {response : CredentialResponse} {salt : Nat → Bytes}

theorem value_of_lookup_eq_some {α : Type} {entries : List (String × α)} {key : String} {value : α}
    (found : entries.lookup key = some value) : value ∈ entries.map Prod.snd := by
  obtain ⟨_, _, rfl, _⟩ := List.lookup_eq_some_iff.mp found
  simp

/-- The encoder of an SD-JWT signs what the decision has it say, with a published key. -/
theorem encodeCredential_content (metadataSigner : KeychainSigner)
    (listed : decision.configurationId ∈ sdJwtProfiles)
    (encoded : encodeCredential crates state host decision = .ok response) :
    ∃ content signer, sdJwtContent crates state host decision = some content ∧
      signer ∈ signersOf state metadataSigner ∧
      SignedSdJwt crates host signer response.credential content.payload
        (content.disclosures crates (host.salt .disclosure)) := by
  cases encodeCredential_eq_ok.mp encoded with
  | @sdJwt signer _ among found issued =>
      obtain ⟨vct, claims, claimed, signed⟩ := (issueSdJwt_eq_ok ..).mp issued
      have notMandate : decision.configurationId ≠ mandateSdJwt := by
        intro same
        rw [same] at among
        exact absurd among (by decide +kernel)
      refine ⟨⟨claims, sdJwtPayload crates state.issuer decision.configurationId vct
        decision.proof.holderJwk decision.now (disclosuresOf crates (host.salt .disclosure)
          claims)⟩, signer, ?_, .tail _ (value_of_lookup_eq_some found), signed⟩
      rw [sdJwtContent, if_neg notMandate, claimed]
      rfl
  | @mandate signer grant _ named granted found issued =>
      let mandateJti := randomToken crates (host.salt .mandateJti 0)
      refine ⟨⟨mandateClaims (mandatorOf grant) grant.grantedPowers mandateJti,
        (mandateSdJwtPayload crates host state.issuer decision.proof.holderJwk (mandatorOf grant)
          grant.grantedPowers mandateJti decision.now).1⟩, signer, ?_,
        .tail _ (value_of_lookup_eq_some found), ?_⟩
      · rw [sdJwtContent, if_pos named, granted]
        rfl
      · exact (signSdJwt_eq_ok _ _ _ _ _ _).mp issued
  | hybrid named =>
      have absent : hybridPqSdJwt ∉ sdJwtProfiles := by decide +kernel
      exact absurd (named ▸ listed) absent
  | mdoc among =>
      have absent : ∀ profile ∈ [pidMdoc, eaaMdoc], profile ∉ sdJwtProfiles := by decide +kernel
      exact absurd listed (absent _ among)

/-- The commitments of an object are read as they were written. -/
theorem committedIn_canonical {members : List (String × Value)} {disclosures : List String}
    (distinct : (members.map Prod.fst).Nodup)
    (found : (Value.object members).get "_sd" = some (digestsOf crates disclosures)) :
    RelyingParty.committedIn (Value.object members).canonical = disclosures.map crates.digest := by
  rw [RelyingParty.committedIn, Value.get_canonical distinct, found]
  simp [digestsOf, Value.canonical, Value.canonicalItems_eq, Value.asArray, List.filterMap_map,
    Function.comp_def, Value.asStr]

theorem digestsOf_plain (disclosures : List String) (depth : Nat) :
    PlainJson (depth + 1) (digestsOf crates disclosures) := by
  refine .array fun digest among => ?_
  obtain ⟨_, _, rfl⟩ := List.mem_map.mp among
  exact .string

theorem confirmation_plain {depth : Nat} {holderJwk : Value} (plain : PlainJson depth holderJwk) :
    PlainJson (depth + 1) (.object [("jwk", holderJwk)]) := by
  refine .object (by simp) fun member only => ?_
  cases List.mem_singleton.mp only
  exact plain

/-- A payload that can be read back commits to these disclosures. -/
structure Commits (crates : Crates) (payload : Value) (disclosures : List String) : Prop where
  plain : PlainJson jsonDepth payload
  committed : RelyingParty.committedIn payload.canonical = disclosures.map crates.digest

theorem sdJwtPayload_commits {profile vct : String} {holderJwk : Value} {now : UInt64}
    {disclosures : List String} (plain : PlainJson 125 holderJwk) :
    Commits crates (sdJwtPayload crates state.issuer profile vct holderJwk now disclosures)
      disclosures := by
  by_cases bound : profile = qeaaPidBoundSdJwt
  all_goals
    simp only [sdJwtPayload, bound, if_true, if_false]
    refine ⟨.object (by simp) fun member found => ?_,
      committedIn_canonical (by simp) rfl⟩
    simp only [List.cons_append, List.nil_append, List.append_nil, List.mem_cons,
      List.not_mem_nil, or_false] at found
  · rcases found with rfl | rfl | rfl | rfl | rfl | rfl | rfl | rfl | rfl
    all_goals first
      | exact .string
      | exact .natural
      | exact confirmation_plain plain
      | exact digestsOf_plain _ _
  · rcases found with rfl | rfl | rfl | rfl | rfl | rfl | rfl | rfl
    all_goals first
      | exact .string
      | exact .natural
      | exact confirmation_plain plain
      | exact digestsOf_plain _ _

theorem mandatePayload_commits {mandator mandateJti : String} {powers : Kernel.Powers}
    {delegateJwk : Value} {now : UInt64} (plain : PlainJson 125 delegateJwk) :
    Commits crates
      (mandateSdJwtPayload crates host state.issuer delegateJwk mandator powers mandateJti now).1
      (disclosuresOf crates (host.salt .disclosure) (mandateClaims mandator powers mandateJti)) := by
  simp only [mandateSdJwtPayload]
  refine ⟨.object (by simp) fun member found => ?_,
    committedIn_canonical (by simp) rfl⟩
  simp only [List.mem_cons, List.not_mem_nil, or_false] at found
  rcases found with rfl | rfl | rfl | rfl | rfl | rfl | rfl | rfl | rfl
  all_goals first
    | exact .string
    | exact .natural
    | exact confirmation_plain plain
    | exact digestsOf_plain _ _

theorem sdJwtContent_commits (said : sdJwtContent crates state host decision = some content)
    (plain : PlainJson 125 decision.proof.holderJwk) :
    Commits crates content.payload (content.disclosures crates (host.salt .disclosure)) := by
  unfold sdJwtContent at said
  split at said
  · obtain ⟨_, _, rfl⟩ := Option.map_eq_some_iff.mp said
    exact mandatePayload_commits plain
  · obtain ⟨_, _, rfl⟩ := Option.map_eq_some_iff.mp said
    exact sdJwtPayload_commits plain

theorem sdJwtContent_ne_nil (said : sdJwtContent crates state host decision = some content) :
    content.claims ≠ [] := by
  unfold sdJwtContent at said
  split at said
  · obtain ⟨_, _, rfl⟩ := Option.map_eq_some_iff.mp said
    exact List.cons_ne_nil _ _
  · obtain ⟨_, claimed, rfl⟩ := Option.map_eq_some_iff.mp said
    exact sdJwtClaims_ne_nil claimed

/-- Every claim that goes into an SD-JWT can be read back, as far as the notary's output can. -/
theorem sdJwtContent_plain (said : sdJwtContent crates state host decision = some content)
    (legible : decision.configurationId = tlsnEvidenceSdJwt → ∀ evidence,
      decision.tlsnEvidence = some evidence → PlainJson claimDepth evidence.verifierOutput) :
    ∀ claim ∈ content.claims, PlainJson claimDepth claim.2 := by
  unfold sdJwtContent at said
  split at said
  · obtain ⟨_, _, rfl⟩ := Option.map_eq_some_iff.mp said
    intro claim found
    simp only [mandateClaims, List.mem_cons, List.not_mem_nil, or_false] at found
    rcases found with rfl | rfl | rfl
    · exact .string
    · refine .array fun item among => ?_
      obtain ⟨_, _, rfl⟩ := List.mem_map.mp among
      exact .string
    · exact .string
  · obtain ⟨⟨vct, claims⟩, claimed, rfl⟩ := Option.map_eq_some_iff.mp said
    exact sdJwtClaims_plain claimed legible

/-! ## What a presentation shows -/

theorem forall₂_congr_of_mem {α β : Type} {R S : α → β → Prop} {xs : List α} {ys : List β}
    (same : ∀ x ∈ xs, ∀ y, R x y ↔ S x y) : List.Forall₂ R xs ys ↔ List.Forall₂ S xs ys := by
  induction xs generalizing ys with
  | nil => simp
  | cons x xs carried =>
      simp only [List.forall₂_cons_left_iff, same x (.head _),
        carried fun other member => same other (.tail _ member)]

/-- A string is read exactly when it was issued, and then it says what was issued with it. -/
theorem readClaim_iff (base64 : Base64Laws crates) (serde : SerdeJsonLaws crates)
    (plain : ∀ claim ∈ content.claims, PlainJson claimDepth claim.2) {part : String}
    (apart : ∀ issued ∈ content.disclosures crates salt, CollisionFreeAt crates.digest part issued)
    (claim : String × Value) :
    RelyingParty.readClaim crates ((content.disclosures crates salt).map crates.digest) part =
        some claim ↔ content.Carries crates salt part claim := by
  constructor
  · intro read
    obtain ⟨value, parsed, taken⟩ := Option.bind_eq_some_iff.mp read
    obtain ⟨bytes, decoded, parsed⟩ := Option.bind_eq_some_iff.mp parsed
    split at taken
    case h_2 => cases taken
    case h_1 name shown =>
      split at taken
      case isFalse => cases taken
      case isTrue committed =>
        cases taken
        obtain ⟨issued, among, same⟩ := List.mem_map.mp committed
        cases apart issued among same.symm
        obtain ⟨i, bounded, rfl⟩ := List.mem_mapIdx.mp among
        have shows_ := disclosure_shows base64 serde (salt i) content.claims[i].1
          (plain _ (List.getElem_mem bounded))
        obtain ⟨named, valued⟩ := shows_.unique ⟨bytes, _, decoded, parsed⟩
        exact ⟨i, _, List.getElem?_eq_getElem bounded, rfl, by rw [named, valued]⟩
  · rintro ⟨i, issued, found, rfl, rfl⟩
    obtain ⟨bounded, same⟩ := List.getElem?_eq_some_iff.mp found
    obtain ⟨bytes, salted, decoded, parsed⟩ := disclosure_shows base64 serde (salt i) issued.1
      (plain _ (List.mem_of_getElem? found))
    have committed : crates.digest (disclosure crates (salt i) issued.1 issued.2) ∈
        (content.disclosures crates salt).map crates.digest := by
      refine List.mem_map_of_mem (List.mem_mapIdx.mpr ⟨i, bounded, ?_⟩)
      rw [same]
    rw [RelyingParty.readClaim, decoded, Option.bind_some, parsed, Option.bind_eq_bind,
      Option.bind_some]
    simp only [if_pos committed]

/-- An issued SD-JWT shows everything that was issued with it. -/
theorem SignedSdJwt.shownIn {signer : KeychainSigner} {credential : String}
    (signed : SignedSdJwt crates host signer credential content.payload
      (content.disclosures crates salt))
    (base64 : Base64Laws crates) (claimed : content.claims ≠ []) :
    RelyingParty.shownIn credential = content.disclosures crates salt := by
  obtain ⟨signature, _, rfl⟩ := signed
  have parts := split_sdJwtCompact base64 signer content.payload salt claimed signature
  exact (congrArg (fun parts => parts.tail.dropLast) parts).trans List.dropLast_concat

/-- The disclosures of an SD-JWT carry its claims, each its own. -/
theorem SdJwtContent.carries_disclosures (content : SdJwtContent) (salt : Nat → Bytes) :
    List.Forall₂ (content.Carries crates salt) (content.disclosures crates salt)
      (content.claims.map fun claim => (claim.1, claim.2.canonical)) := by
  refine List.forall₂_iff_get.mpr ⟨?_, fun i bounded within => ?_⟩
  · rw [SdJwtContent.disclosures, disclosuresOf, List.length_mapIdx, List.length_map]
  · rw [List.length_map] at within
    refine ⟨i, content.claims[i], List.getElem?_eq_getElem within, ?_, ?_⟩
    · exact List.getElem_mapIdx
    · exact List.getElem_map _

/-- The payload of an issued SD-JWT is read as it was written. -/
theorem SignedSdJwt.readJws {metadataSigner signer : KeychainSigner} {credential : String}
    (signed : SignedSdJwt crates host signer credential content.payload
      (content.disclosures crates salt))
    (laws : LawfulPid crates host) (published : signer ∈ signersOf state metadataSigner)
    (plain : PlainJson jsonDepth content.payload) (claimed : content.claims ≠ []) :
    RelyingParty.readJws crates (crates.valueToVec (jwks crates state metadataSigner)) "dc+sd-jwt"
      (issuerJwtOf credential) = some content.payload.canonical := by
  obtain ⟨signature, signed, rfl⟩ := signed
  have jwt := split_sdJwtCompact laws.base64 signer content.payload salt claimed signature
  have front : issuerJwtOf (sdJwtCompact crates signer content.payload
      (content.disclosures crates salt) signature) =
        compactJws crates (crates.valueToVec (typedHeader crates signer "dc+sd-jwt"))
          (crates.valueToVec content.payload) signature := by
    rw [issuerJwtOf]
    exact congrArg (List.headD · "") jwt
  rw [front]
  exact readJws_signed laws published plain signed

/-- A relying party with the published keys reads every presentation of an issued SD-JWT that shows
nothing but what was issued with it, and no other. -/
theorem readCredential_iff {metadataSigner signer : KeychainSigner} {credential : String}
    (laws : LawfulPid crates host) (published : signer ∈ signersOf state metadataSigner)
    (signed : SignedSdJwt crates host signer credential content.payload
      (content.disclosures crates salt))
    (commits : Commits crates content.payload (content.disclosures crates salt))
    (claimed : content.claims ≠ []) (plain : ∀ claim ∈ content.claims, PlainJson claimDepth claim.2)
    {text : String} (presents : issuerJwtOf text = issuerJwtOf credential)
    (apart : ∀ part ∈ RelyingParty.shownIn text, ∀ issued ∈ content.disclosures crates salt,
      CollisionFreeAt crates.digest part issued) (read : Value × List (String × Value)) :
    RelyingParty.readCredential crates (crates.valueToVec (jwks crates state metadataSigner)) text =
        some read ↔
      read.1 = content.payload.canonical ∧
        List.Forall₂ (content.Carries crates salt) (RelyingParty.shownIn text) read.2 := by
  have payload := signed.readJws laws published commits.plain claimed
  have parts : (RelyingParty.shownIn text).mapM (RelyingParty.readClaim crates
      ((content.disclosures crates salt).map crates.digest)) = some read.2 ↔
        List.Forall₂ (content.Carries crates salt) (RelyingParty.shownIn text) read.2 := by
    rw [mapM_eq_some_iff_forall₂]
    exact forall₂_congr_of_mem fun part member claim =>
      readClaim_iff laws.base64 laws.serde plain (apart part member) claim
  rw [← parts, RelyingParty.readCredential, presents, payload, Option.bind_eq_bind,
    Option.bind_some, commits.committed]
  obtain ⟨first, claims⟩ := read
  simp only [Option.pure_def, Option.bind_eq_bind, Option.bind_eq_some_iff, Option.some.injEq,
    Prod.mk.injEq]
  constructor
  · rintro ⟨found, read, rfl, rfl⟩
    exact ⟨rfl, read⟩
  · rintro ⟨rfl, read⟩
    exact ⟨claims, read, rfl, rfl⟩

end Content

section Runs

variable {crates : Crates} {state : AppState} {store : StringMap RegisteredInstance}
  {earlier later : List DeploymentEvent} {d : Deployment} {event : Event} {headers : HeaderMap}
  {request : CredentialRequest} {response : CredentialResponse}

/-- Whoever has the published keys reads from an SD-JWT of any run what the history since the last
restart entitles it to say: all of the payload and, of the claims, those that are shown.  The
credential itself shows them all, and nothing can be shown that was not issued. -/
theorem issued_sdJwt_read_iff (metadataSigner : KeychainSigner)
    (laws : LawfulPid crates event.env.host)
    (run : (deployment crates state).Execution (.initial store)
      (earlier ++ .served event :: later) d)
    (origin : event.origin = .arrived (.credential headers request))
    (reply : event.reply = .ok (.finished (.credential response)))
    (listed : request.credentialConfigurationId ∈ sdJwtProfiles)
    (legible : request.credentialConfigurationId = tlsnEvidenceSdJwt → ∀ id offer evidence,
      OfferedIn crates state (sinceRestart earlier) id offer evidence →
        PlainJson claimDepth evidence.verifierOutput) :
    ∃ entitlement : Entitlement crates state (sinceRestart earlier) headers request
        event.env.dpopClock event.env.proofClock event.env.clock,
      ∃ content, sdJwtContent crates state event.env.host entitlement.decision = some content ∧
        RelyingParty.shownIn response.credential =
          content.disclosures crates (event.env.host.salt .disclosure) ∧
        ∀ text, issuerJwtOf text = issuerJwtOf response.credential →
          (∀ part ∈ RelyingParty.shownIn text,
            ∀ issued ∈ content.disclosures crates (event.env.host.salt .disclosure),
              CollisionFreeAt crates.digest part issued) →
          ∀ read, RelyingParty.readCredential crates
              (crates.valueToVec (jwks crates state metadataSigner)) text = some read ↔
            read.1 = content.payload.canonical ∧
              List.Forall₂ (content.Carries crates (event.env.host.salt .disclosure))
                (RelyingParty.shownIn text) read.2 := by
  obtain ⟨_, _, _, past, took, _⟩ := deployment_at_event run
  obtain ⟨grant, encoded, _⟩ := took.credentialGrant origin reply
  obtain ⟨entitlement, same⟩ := (run_entitled_iff past grant.decision).mp ⟨grant, rfl⟩
  obtain ⟨content, signer, said, published, signed⟩ :=
    encodeCredential_content metadataSigner listed encoded
  have plain : PlainJson 125 grant.decision.proof.holderJwk :=
    grant.holder.header.jwk.toValue_plain _
  have commits := sdJwtContent_commits said plain
  have claims := sdJwtContent_plain said fun tlsn evidence attached => by
    obtain ⟨id, offer, offered⟩ :=
      ((run_evidenceTraced past).tokens grant.accessFound attached).offered
    exact legible tlsn id offer evidence offered
  refine ⟨entitlement, content, same ▸ said, signed.shownIn laws.base64 (sdJwtContent_ne_nil said),
    fun text presents apart read => ?_⟩
  exact readCredential_iff laws published signed commits (sdJwtContent_ne_nil said) claims presents
    apart read

/-- After a restart a client of the reference crates obtains a credential of any profile without
evidence. -/
theorem client_served {state : AppState} {host : Host} (client : Client reference state)
    (configured : Configured state) (ports : PortsSign reference state host)
    {configurationId : String} (plain : configurationId ∈ profilesWithoutEvidence)
    (valid : validScope client.scope state.hybridPqEnabled = true)
    (inScope : configurationId ∈ Text.splitAsciiWhitespace client.scope)
    (fits : configurationId = hybridPqSdJwt →
      committedLength reference host state.issuer client.wallet.jwk.toValue 1030 ≤
        HybridCodec.maxFieldBytes) :
    ∃ earlier event d headers request response,
      (deployment reference state).Execution (.initial ∅)
        (.restarted :: earlier ++ [.served event]) d ∧
      event.env.host = host ∧ event.origin = .arrived (.credential headers request) ∧
      event.reply = .ok (.finished (.credential response)) ∧
      request.credentialConfigurationId = configurationId := by
  have apart : randomToken reference (List.replicate 32 2) ≠
      randomToken reference (List.replicate 32 1) := fun same =>
    absurd (reference_base64.injective same) (by decide)
  have good : Client.GoodJti "token" := ⟨by decide, by decide⟩
  have good' : Client.GoodJti "credential" := ⟨by decide, by decide⟩
  have checked := client.par_checked valid (some 1000) (.initial ∅)
  obtain ⟨_, s, run, found, dpopJtis, _⟩ := client.obtainsAccess reference_encodings
    (.steady host 1000 "" [] []) (.steady host 1000 "request" [] []) (.steady host 1010 "" [] [])
    (.steady host 1010 "" (List.replicate 32 1) []) host 1020 (List.replicate 32 2) checked
    List.not_mem_nil List.not_mem_nil (by simpa [Environment.steady] using apart) good
    List.not_mem_nil
  obtain ⟨drawn, nonces, run⟩ : ∃ drawn, (∀ cNonce, Draw.nonce cNonce ∉ drawn) ∧
      (process reference state).Execution (World.initial ∅) _ ⟨s, [], drawn⟩ := ⟨_, by simp, run⟩
  have drew : randomCredentialNonce [1] = some (toString (1 : UInt64).toNat) := rfl
  have inCalendar : (1030 : UInt64).toNat + 3600 ≤ maxTimestamp := by decide
  let grant := client.plainGrant (t := 1030) (s := { s with
    nonces := s.nonces.insert (toString (1 : UInt64).toNat) false }) reference_encodings plain good'
    (by rw [dpopJtis]; decide) (goodJti_decimal 1) (AList.lookup_insert _) found rfl inScope
    (by decide)
  obtain ⟨response, encoded⟩ :=
    (grant.encodes_iff reference_encoders configured ports
      (((validScope_eq_true_iff _ _).mp valid).2 _ inScope)).mpr
      ⟨(notSpecial_of_plain plain).2.2.2.1, fun _ => inCalendar, fits⟩
  have handedOut : (process reference state).Execution ⟨s, [], drawn⟩ _ _ :=
    nonce_run (.steady host 1030 "" [] [1]) drew (nonces _)
  have issued := handedOut.trans (credential_run (.steady host 1030 "" [] []) grant encoded)
  obtain ⟨d, served⟩ := served_restarted (run.trans issued)
  rw [List.map_append, ← List.cons_append, List.map_append, ← List.append_assoc] at served
  exact ⟨_, _, d, _, _, response, served, rfl, rfl, rfl, rfl⟩

/-- The reference issuer serves every such profile but the hybrid one, which is not enabled. -/
theorem reference_served {configurationId : String}
    (plain : configurationId ∈ profilesWithoutEvidence)
    (notHybrid : configurationId ≠ hybridPqSdJwt) :
    ∃ earlier event d headers request response,
      (deployment reference referenceState).Execution (.initial ∅)
        (.restarted :: earlier ++ [.served event]) d ∧
      event.env.host = referenceHost ∧ event.origin = .arrived (.credential headers request) ∧
      event.reply = .ok (.finished (.credential response)) ∧
      request.credentialConfigurationId = configurationId := by
  have valid : ∀ profile ∈ profilesWithoutEvidence, profile ≠ hybridPqSdJwt →
      validScope profile false = true ∧ profile ∈ Text.splitAsciiWhitespace profile := by
    decide +kernel
  obtain ⟨valid, inScope⟩ := valid _ plain notHybrid
  exact client_served (referenceClient configurationId) reference_configured reference_portsSign
    plain valid inScope fun hybrid => absurd hybrid notHybrid

/-- What a learning credential says. -/
def learningClaims : List (String × Value) :=
  [ ("credential_name", .string "Hochschulabschluss"),
    ("awarding_body", .string "German Development University"),
    ("qualification", .string "Master of Science"), ("issuing_country", .string "DE") ]

theorem sdJwtContent_learning {host : Host} {decision : Decision} {content : SdJwtContent}
    (named : decision.configurationId = qeaaSdJwt)
    (said : sdJwtContent crates state host decision = some content) :
    content.claims = learningClaims := by
  rw [sdJwtContent, named, if_neg (by decide +kernel), sdJwtClaims, if_neg (by decide +kernel),
    if_neg (by decide +kernel), if_pos (.inl rfl)] at said
  cases said
  rfl

/-- No two disclosures of the reference learning credential have one digest. -/
theorem learningClaims_apart :
    ((disclosuresOf reference (referenceHost.salt .disclosure) learningClaims).map
      reference.digest).Nodup := by
  decide +kernel

/-- The learning credential that the reference issuer hands out is read with all of its claims. -/
theorem issued_sdJwt_read_reference :
    ∃ (earlier : List DeploymentEvent) (event : Event) (d : Deployment) (headers : HeaderMap)
      (request : CredentialRequest) (response : CredentialResponse) (payload : Value),
      (deployment reference referenceState).Execution (.initial ∅)
        (.restarted :: earlier ++ [.served event]) d ∧
      event.origin = .arrived (.credential headers request) ∧
      event.reply = .ok (.finished (.credential response)) ∧
      RelyingParty.readCredential reference (reference.valueToVec (jwks reference referenceState
        (Reference.signerAt Reference.x₁ Reference.y₁))) response.credential =
          some (payload, learningClaims) := by
  obtain ⟨earlier, event, d, headers, request, response, run, host, origin, reply, named⟩ :=
    reference_served (by decide : qeaaSdJwt ∈ profilesWithoutEvidence) (by decide)
  have laws : LawfulPid reference event.env.host := host ▸ reference_lawfulPid
  have listed : request.credentialConfigurationId ∈ sdJwtProfiles := by
    rw [named]
    decide
  have notTlsn : request.credentialConfigurationId ≠ tlsnEvidenceSdJwt := by
    rw [named]
    decide
  obtain ⟨entitlement, content, said, shown, reads⟩ :=
    issued_sdJwt_read_iff (Reference.signerAt Reference.x₁ Reference.y₁) laws run origin reply
      listed fun tlsn => absurd tlsn notTlsn
  have claims := sdJwtContent_learning named said
  have carried := @SdJwtContent.carries_disclosures reference content
    (event.env.host.salt .disclosure)
  rw [claims] at carried
  have apart := learningClaims_apart
  rw [← host, ← claims] at apart
  refine ⟨earlier, event, d, headers, request, response, content.payload.canonical, run, origin,
    reply, (reads _ rfl (fun part member issued among same => ?_) _).mpr ⟨rfl, ?_⟩⟩
  · rw [shown] at member
    exact List.inj_on_of_nodup_map apart member among same
  · rw [shown]
    exact carried

end Runs

end VCIssuer.Service
