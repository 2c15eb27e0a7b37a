import VCIssuer.Library.HttpUrls
import VCIssuer.Service.Authorization
import VCIssuer.Service.Metadata
import VCIssuer.Service.Reference

/-!
# Advertised and enforced endpoints

The metadata appends the name of an endpoint to the issuer identifier; the
endpoints themselves resolve the same name against the issuer's URL.  Both agree
when the URL ends in exactly one slash, and only then.
-/

namespace VCIssuer.Service

open VCIssuer.Library
open VCIssuer.Library.Critical

/-! ## Resolution -/

/-- Segments of letters, digits and hyphens. -/
def PlainReference (segments : List String) : Prop :=
  segments ≠ [] ∧ ∀ segment ∈ segments, segment ≠ "" ∧
    ∀ c ∈ segment.toList, c.isAlphanum = true ∨ c = '-'

/-- `Url::join` resolves a relative path as WHATWG says. -/
structure UrlLaws (crates : Crates) : Prop where
  resolves : ∀ (base : HttpUrl) (segments : List String), PlainReference segments →
    crates.join ⟨base.text⟩ ("/".intercalate segments) = some ⟨base.resolve segments⟩

theorem Reference.join_text (base : HttpUrl) {segments : List String} (present : segments ≠ []) :
    Reference.join ⟨base.text⟩ ("/".intercalate segments) = some ⟨base.resolve segments⟩ := by
  obtain ⟨first, rest, rfl⟩ := List.exists_cons_of_ne_nil present
  have resolved : base.resolve (first :: rest) =
      String.ofList (base.directory.toList ++ ['/']) ++ "/".intercalate (first :: rest) := by
    rw [base.resolve_eq, HttpUrl.pathChars_cons, ← String.toList_inj]
    simp only [String.toList_append, String.toList_ofList, List.append_assoc,
      List.singleton_append]
  rw [resolved, Reference.join, ← base.rdropWhile_text]
  rfl

theorem reference_urls : UrlLaws reference where
  resolves base _ plain := Reference.join_text base plain.1

/-- A `htu` that `verify_dpop` takes for the endpoint. -/
def HtuAccepted (endpoint : Url) (htu : String) : Prop :=
  Text.trimEndMatches '/' htu = Text.trimEndMatches '/' endpoint.asStr

theorem DpopProof.htuAccepted {crates : Crates} {proof method : String} {uri : Url}
    {clock : ClockReading} (accepted : DpopProof crates proof method uri clock) :
    HtuAccepted uri accepted.claims.htu :=
  accepted.htu

/-- One identifier lies under another. -/
def LiesUnder (parent child : String) : Prop :=
  (parent ++ "/").toList <+: child.toList

/-- Published and enforced endpoints are the same, and offers lie under the published issuer. -/
structure EndpointsAgree (crates : Crates) (shake256 : Bytes → Bytes) (state : AppState) :
    Prop where
  token : ∃ published endpoint, (oauthMetadata state).get "token_endpoint" =
      some (.string published) ∧ crates.join state.issuer "token" = some endpoint ∧
    ∀ htu, HtuAccepted endpoint htu ↔ Text.trimEndMatches '/' htu = published
  credential : ∃ published endpoint, (issuerMetadataValue shake256 state).get
      "credential_endpoint" = some (.string published) ∧
      crates.join state.issuer "credential" = some endpoint ∧
    ∀ htu, HtuAccepted endpoint htu ↔ Text.trimEndMatches '/' htu = published
  offers : ∀ uuid, PlainReference [uuid] → ∀ (s t : VolatileState) (response : CreateOfferResponse)
      (log : List Mark),
    (∃ id clock octets,
        Returns (createCredentialOffer crates state id clock uuid octets) s response t log) ∨
      (∃ artifact clock octets,
        Returns (buildTlsnOffer crates state artifact clock uuid octets) s response t log) ∨
      (∃ serverName claim demoClock clock sessionOctets octets,
        Returns (tlsnDemoOffer crates state serverName claim demoClock clock sessionOctets uuid
          octets) s response t log) →
    LiesUnder state.issuer.origin response.credentialOfferUri

section Joined

variable {crates : Crates} {shake256 : Bytes → Bytes} {state : AppState} {url : HttpUrl}

theorem join_segments (laws : UrlLaws crates) (issuer : state.issuer = ⟨url.text⟩)
    {segments : List String} (plain : PlainReference segments) {path : String}
    (joined : "/".intercalate segments = path) :
    crates.join state.issuer path = some ⟨url.directory ++ "/" ++ path⟩ := by
  obtain ⟨first, rest, rfl⟩ := List.exists_cons_of_ne_nil plain.1
  have resolved := laws.resolves url _ plain
  have shape : url.directory ++ "/" ++ path =
      url.directory ++ String.ofList ('/' :: path.toList) := by
    rw [← String.toList_inj]
    simp
  rw [url.resolve_eq, HttpUrl.pathChars_cons, joined] at resolved
  rw [issuer, resolved, shape]

theorem offerResponse_uri {uuid : String} {expiresIn : UInt64} {s t : VolatileState}
    {response : CreateOfferResponse} {log : List Mark}
    (returned : Returns (offerResponse crates state uuid expiresIn) s response t log) :
    ∃ uri, crates.join state.issuer ("credential-offer/" ++ uuid) = some uri ∧
      response.credentialOfferUri = uri.asStr := by
  simp only [offerResponse, returns_okOr_bind, returns_pure] at returned
  obtain ⟨uri, joined, rfl, _⟩ := returned
  exact ⟨uri, joined, rfl⟩

theorem createCredentialOffer_uri {id uuid : String} {clock : ClockReading} {octets : Bytes}
    {s t : VolatileState} {response : CreateOfferResponse} {log : List Mark}
    (returned : Returns (createCredentialOffer crates state id clock uuid octets) s response t log) :
    ∃ uri, crates.join state.issuer ("credential-offer/" ++ uuid) = some uri ∧
      response.credentialOfferUri = uri.asStr := by
  simp only [createCredentialOffer, returns_rejectIf_bind, returns_ofExcept_bind,
    returns_modify_bind] at returned
  obtain ⟨_, _, _, _, answered⟩ := returned
  exact offerResponse_uri answered

theorem buildTlsnOffer_uri {artifact : SignedTlsnArtifact} {uuid : String} {clock : ClockReading}
    {octets : Bytes} {s t : VolatileState} {response : CreateOfferResponse} {log : List Mark}
    (returned : Returns (buildTlsnOffer crates state artifact clock uuid octets) s response t log) :
    ∃ uri, crates.join state.issuer ("credential-offer/" ++ uuid) = some uri ∧
      response.credentialOfferUri = uri.asStr := by
  simp only [buildTlsnOffer, returns_ofExcept_bind, returns_bind (reserveTlsnSession _),
    returns_modify_bind] at returned
  obtain ⟨_, _, _, _, _, _, _, _, _, answered, _⟩ := returned
  exact offerResponse_uri answered

theorem tlsnDemoOffer_uri {serverName : Option String} {claim : Option Value}
    {demoClock clock : ClockReading} {sessionOctets octets : Bytes} {uuid : String}
    {s t : VolatileState} {response : CreateOfferResponse} {log : List Mark}
    (returned : Returns (tlsnDemoOffer crates state serverName claim demoClock clock sessionOctets
      uuid octets) s response t log) :
    ∃ uri, crates.join state.issuer ("credential-offer/" ++ uuid) = some uri ∧
      response.credentialOfferUri = uri.asStr := by
  simp only [tlsnDemoOffer, returns_okOr_bind, returns_ofExcept_bind] at returned
  obtain ⟨_, _, _, _, _, _, built⟩ := returned
  exact buildTlsnOffer_uri built

/-- An endpoint below the directory accepts what is advertised below the identifier, and nothing
else, exactly if the two are the same. -/
theorem htuAccepted_iff_directory {name : String} {last : Char}
    (ends : name.toList.getLast? = some last) (open_ : last ≠ '/') (issuer : String) :
    (∀ htu, HtuAccepted ⟨url.directory ++ "/" ++ name⟩ htu ↔
      Text.trimEndMatches '/' htu = issuer ++ ("/" ++ name)) ↔ issuer = url.directory := by
  have trimmed : Text.trimEndMatches '/' (url.directory ++ "/" ++ name) =
      url.directory ++ ("/" ++ name) := by
    obtain ⟨front, spelled⟩ := List.getLast?_eq_some_iff.mp ends
    rw [← String.toList_inj, Text.trimEndMatches, String.toList_ofList, String.append_assoc,
      List.rdropWhile_eq_self_iff]
    intro _
    simp [spelled, open_]
  simp only [HtuAccepted, Url.asStr, trimmed]
  constructor
  · intro same
    have here := congrArg String.toList
      (trimmed.symm.trans ((same (url.directory ++ "/" ++ name)).mp trimmed))
    simp only [String.toList_append] at here
    exact (String.toList_inj.mp (List.append_cancel_right here)).symm
  · rintro rfl htu
    exact Iff.rfl

theorem directory_covers {uuid : String} :
    LiesUnder url.directory (url.directory ++ "/" ++ ("credential-offer/" ++ uuid)) := by
  have whole : (url.directory ++ "/" ++ ("credential-offer/" ++ uuid)).toList =
      (url.directory ++ "/").toList ++ ("credential-offer/" ++ uuid).toList := String.toList_append
  rw [LiesUnder, whole]
  exact List.prefix_append _ _

end Joined

theorem plain_token : PlainReference ["token"] :=
  ⟨List.cons_ne_nil _ _, by decide⟩

theorem plain_credential : PlainReference ["credential"] :=
  ⟨List.cons_ne_nil _ _, by decide⟩

theorem plain_offer {uuid : String} (plain : PlainReference [uuid]) :
    PlainReference ["credential-offer", uuid] := by
  have first : ("credential-offer" : String) ≠ "" ∧
      ∀ c ∈ ("credential-offer" : String).toList, c.isAlphanum = true ∨ c = '-' := by decide
  refine ⟨List.cons_ne_nil _ _, fun segment member => ?_⟩
  rcases List.mem_cons.mp member with rfl | member
  · exact first
  · exact plain.2 segment member

theorem intercalate_offer (uuid : String) :
    "/".intercalate ["credential-offer", uuid] = "credential-offer/" ++ uuid := by
  rw [String.intercalate_cons_of_ne_nil (List.cons_ne_nil _ _), String.intercalate_singleton]
  rfl

/-- What is advertised is what is enforced exactly if the issuer's URL has no query and no fragment
and ends in exactly one slash. -/
theorem endpointsAgree_iff {crates : Crates} (laws : UrlLaws crates) (shake256 : Bytes → Bytes)
    {state : AppState} {url : HttpUrl} (issuer : state.issuer = ⟨url.text⟩) :
    EndpointsAgree crates shake256 state ↔ url.ClosedBySlash := by
  have origin : state.issuer.origin = Text.trimEndMatches '/' url.text := by
    rw [issuer, Url.origin, Url.asStr]
  have tokenJoined := join_segments laws issuer plain_token (String.intercalate_singleton ..)
  have credentialJoined :=
    join_segments laws issuer plain_credential (String.intercalate_singleton ..)
  rw [← url.trim_text_eq_directory_iff, ← origin]
  constructor
  · intro agree
    obtain ⟨published, endpoint, advertised, joined, accepted⟩ := agree.token
    have shown : (oauthMetadata state).get "token_endpoint" =
        some (.string (state.issuer.origin ++ "/token")) := rfl
    cases shown.symm.trans advertised
    cases tokenJoined.symm.trans joined
    have name : ("token" : String).toList.getLast? = some 'n' := rfl
    exact (htuAccepted_iff_directory name (by decide) _).mp accepted
  · intro same
    refine ⟨⟨_, _, rfl, tokenJoined, ?_⟩, ⟨_, _, rfl, credentialJoined, ?_⟩, ?_⟩
    · have name : ("token" : String).toList.getLast? = some 'n' := rfl
      exact (htuAccepted_iff_directory name (by decide) _).mpr same
    · have name : ("credential" : String).toList.getLast? = some 'l' := rfl
      exact (htuAccepted_iff_directory name (by decide) _).mpr same
    · intro uuid plain s t response log answered
      have joined := join_segments laws issuer (plain_offer plain) (intercalate_offer uuid)
      have uri : ∃ uri, crates.join state.issuer ("credential-offer/" ++ uuid) = some uri ∧
          response.credentialOfferUri = uri.asStr := by
        rcases answered with ⟨_, _, _, returned⟩ | ⟨_, _, _, returned⟩ | ⟨_, _, _, _, _, _, returned⟩
        · exact createCredentialOffer_uri returned
        · exact buildTlsnOffer_uri returned
        · exact tlsnDemoOffer_uri returned
      obtain ⟨_, found, answer⟩ := uri
      cases joined.symm.trans found
      rw [answer, same]
      exact directory_covers

/-! ### The reference issuer, and one with a path -/

def referenceUrl : HttpUrl where
  origin := "https://issuer.example"
  path := [""]
  suffix := ""
  originClosed := by
    rintro c ⟨⟩
    decide
  originPlain := by decide
  pathPresent := List.cons_ne_nil _ _
  pathPlain := by decide
  suffixMarked := by rintro c ⟨⟩

/-- Stands in for SHAKE256 with 48 octets of output. -/
def referenceShake256 (bytes : Bytes) : Bytes :=
  Sha256.digest bytes ++ (Sha256.digest (0 :: bytes)).take 16

theorem endpointsAgree_reference : EndpointsAgree reference referenceShake256 referenceState :=
  (endpointsAgree_iff reference_urls referenceShake256
    (by decide : referenceState.issuer = ⟨referenceUrl.text⟩)).mpr ⟨rfl, [], rfl, by decide⟩

/-- An issuer below a path advertises endpoints below it, and takes proofs for none of them. -/
theorem endpoints_disagree :
    ¬ EndpointsAgree reference referenceShake256
      { referenceState with issuer := ⟨"https://issuer.example/tenant"⟩ } := by
  intro agree
  obtain ⟨published, endpoint, advertised, joined, accepted⟩ := agree.token
  have resolved : Reference.join ⟨"https://issuer.example/tenant"⟩ "token" =
      some ⟨"https://issuer.example/token"⟩ := by decide
  cases resolved.symm.trans joined
  have here := (accepted "https://issuer.example/token").mp rfl
  cases advertised
  exact absurd here (by decide)

end VCIssuer.Service
