import VCIssuer.Service.FailedRequests

/-!
# Nobody is locked out

What a run does it can do beside any requests that wait.  A wallet therefore
obtains what its scope names from every state of the service, whatever other
clients have done and left unfinished, as long as its own values are fresh.
-/

namespace VCIssuer.Service

open VCIssuer.Library
open VCIssuer.Library.Critical
open HybridCodec (maxFieldBytes)

/-! ## Runs beside waiting requests -/

/-- The same world with other tasks that wait. -/
def World.beside (w : World) (others : List Task) : World :=
  { w with tasks := others ++ w.tasks }

section Beside

variable {crates : Crates} {state : AppState} {w w' : World} {trace : List Event}

theorem execute_beside (others waiting : List Task) {origin : Origin} {env : Environment}
    {event : Event} (executed : execute crates state w waiting origin env = some (w', event)) :
    execute crates state (w.beside others) (others ++ waiting) origin env =
      some (w'.beside others, event) := by
  unfold execute at executed ⊢
  split at executed
  case h_1 => cases executed
  case h_2 draws _ =>
    split at executed
    case isTrue fresh =>
      cases executed
      simp only [World.beside, if_pos fresh, List.append_assoc]
    case isFalse => cases executed

theorem step_beside (others : List Task) {action : Action} {event : Event}
    (stepped : (process crates state).step w action = some (w', event)) :
    ∃ shifted, (process crates state).step (w.beside others) shifted =
      some (w'.beside others, event) := by
  change step crates state w action = _ at stepped
  cases action with
  | arrive request env =>
      exact ⟨.arrive request env, execute_beside others w.tasks stepped⟩
  | resume index env =>
      refine ⟨.resume (others.length + index) env, ?_⟩
      change step crates state (w.beside others) (.resume (others.length + index) env) =
        some (w'.beside others, event)
      simp only [step] at stepped ⊢
      have task : (w.beside others).tasks[others.length + index]? = w.tasks[index]? := by
        simp [World.beside, List.getElem?_append_right]
      have rest : (w.beside others).tasks.eraseIdx (others.length + index) =
          others ++ w.tasks.eraseIdx index := by
        simp [World.beside, List.eraseIdx_append_of_length_le]
      rw [task, rest]
      split at stepped
      case h_1 => cases stepped
      case h_2 =>
        exact execute_beside others _ stepped

/-- A run takes no notice of the requests that wait beside it. -/
theorem run_beside (others : List Task) (run : (process crates state).Execution w trace w') :
    (process crates state).Execution (w.beside others) trace (w'.beside others) := by
  induction run with
  | start => exact .start
  | step _ accepted carried =>
      obtain ⟨_, stepped⟩ := step_beside others accepted
      exact carried.step stepped

end Beside

/-! ## Wallets -/

/-- The profiles that ask for no evidence about a person. -/
def profilesWithoutEvidence : List String :=
  [pidSdJwt, qeaaSdJwt, pidMdoc, eaaMdoc, hybridPqSdJwt]

/-- Values for one flow that were never drawn before. -/
structure FreshValues (crates : Crates) (w : World) (uuid : String) (codeOctets tokenOctets : Bytes)
    (word : UInt64) : Prop where
  uri : Draw.uuid uuid ∉ w.drawn
  code : Draw.token (randomToken crates codeOctets) ∉ w.drawn
  token : Draw.token (randomToken crates tokenOctets) ∉ w.drawn
  apart : randomToken crates tokenOctets ≠ randomToken crates codeOctets
  nonzero : word ≠ 0
  cNonce : Draw.nonce (toString word.toNat) ∉ w.drawn

/-- A nonce in decimal may be carried by a proof. -/
theorem goodJti_decimal (word : UInt64) : Client.GoodJti (toString word.toNat) := by
  have bounded : word.toNat < 10 ^ 20 := word.toNat_lt.trans (by decide)
  have length : (toString word.toNat).toList.length ≤ 20 := by
    rw [String.length_toList]
    exact (Nat.length_repr_le_iff (by decide)).mpr bounded
  refine ⟨Nat.repr_ne_empty, ?_⟩
  have width := Text.len_ofList_le (toString word.toNat).toList
  rw [String.ofList_toList] at width
  omega

section Wallets

variable {crates : Crates} {state : AppState} {host : Host} (client : Client crates state)
  {configurationId jti cNonce token : String} {t : UInt64}

theorem notSpecial_of_plain (plain : configurationId ∈ profilesWithoutEvidence) :
    ¬ (configurationId = qeaaPidBoundSdJwt ∨ configurationId = mandateSdJwt) ∧
      configurationId ≠ pidFromEmrtdSdJwt ∧ configurationId ≠ tlsnEvidenceSdJwt ∧
      configurationId ≠ devSvipePidSdJwt ∧ isNfcPid configurationId = false ∧
      configurationId ∈ kernelProfiles := by
  revert plain
  revert configurationId
  decide +kernel

namespace Client

/-- A token for the client and an unused nonce are a grant of every profile without evidence. -/
def plainGrant (laws : LawfulEncodings crates) {s : VolatileState} {access : AccessToken}
    (plain : configurationId ∈ profilesWithoutEvidence) (good : GoodJti jti)
    (fresh : jti ∉ s.dpopJtis) (goodNonce : GoodJti cNonce)
    (unused : s.nonces.lookup cNonce = some false) (found : s.tokens.lookup token = some access)
    (bound : access.dpopJkt = client.wallet.jkt)
    (inScope : configurationId ∈ Text.splitAsciiWhitespace access.scope)
    (inTime : t.toNat < UInt64.size - 1) :
    CredentialGrant crates state s (client.credentialHeaders token t jti)
      (client.credentialRequest configurationId t cNonce none) (some t) (some t) (some t) :=
  client.credentialGrant laws good fresh goodNonce unused found bound inScope
    (fun tlsn => absurd tlsn (notSpecial_of_plain plain).2.2.1) (notSpecial_of_plain plain).2.1
    (.free (notSpecial_of_plain plain).1 rfl) (by rintro _ ⟨⟩)
    ⟨(roleOf_isSome_iff _).mpr (notSpecial_of_plain plain).2.2.2.2.2,
      fun needed => absurd needed (notSpecial_of_plain plain).1,
      fun nfc => absurd nfc (by rw [(notSpecial_of_plain plain).2.2.2.2.1]; decide), inTime⟩

/-- A token leads to a credential of every profile without evidence. -/
theorem obtainsPlain (laws : LawfulEncodings crates) (encoders : EncoderLaws crates)
    (configured : Configured state) (ports : PortsSign crates state host) {s : VolatileState}
    {drawn : List Draw} {word : UInt64} {access : AccessToken}
    (plain : configurationId ∈ profilesWithoutEvidence)
    (allowed : scopeItemAllowed state.hybridPqEnabled configurationId = true)
    (nonzero : word ≠ 0) (nonceFresh : Draw.nonce (toString word.toNat) ∉ drawn)
    (good : GoodJti jti) (fresh : jti ∉ s.dpopJtis) (found : s.tokens.lookup token = some access)
    (bound : access.dpopJkt = client.wallet.jkt)
    (inScope : configurationId ∈ Text.splitAsciiWhitespace access.scope)
    (inTime : t.toNat + 3600 ≤ maxTimestamp)
    (fits : configurationId = hybridPqSdJwt →
      committedLength crates host state.issuer client.wallet.jwk.toValue t ≤ maxFieldBytes) :
    ∃ first event u response, (process crates state).Execution ⟨s, [], drawn⟩ [first, event]
        ⟨u, [], drawn ++ [.nonce (toString word.toNat)]⟩ ∧
      event.origin = .arrived (.credential (client.credentialHeaders token t jti)
        (client.credentialRequest configurationId t (toString word.toNat) none)) ∧
      event.reply = .ok (.finished (.credential response)) ∧
      BoundTo crates host response.credential client.wallet.jwk.toValue := by
  have early : t.toNat < UInt64.size - 1 := by
    have limit : maxTimestamp = 253402300799 := rfl
    have size : UInt64.size = 2 ^ 64 := rfl
    omega
  let grant := client.plainGrant (s := { s with
    nonces := s.nonces.insert (toString word.toNat) false }) laws plain good fresh
    (goodJti_decimal word) (AList.lookup_insert _) found bound inScope early
  obtain ⟨notBound, notNfc, notTlsn, notSvipe, _⟩ := notSpecial_of_plain plain
  have encodable : Encodes crates state host grant.decision :=
    ⟨notSvipe, fun _ => inTime, fits⟩
  obtain ⟨response, encoded⟩ := (grant.encodes_iff encoders configured ports allowed).mpr encodable
  obtain ⟨first, event, u, run, origin, reply, _⟩ := client.obtainsCredential laws host t word nonzero
    nonceFresh good fresh (goodJti_decimal word) found bound inScope
    (fun tlsn => absurd tlsn notTlsn) notNfc (.free notBound rfl) (by rintro _ ⟨⟩) grant.admitted
    encoded
  exact ⟨first, event, u, response, run, origin, reply, encodeCredential_bound encoded⟩

/-- From every state of the service, and beside any requests that wait, a client with fresh values
obtains each credential of its scope that needs no evidence, for its key. -/
theorem wallet_served (laws : LawfulEncodings crates) (encoders : EncoderLaws crates)
    (configured : Configured state) (ports : PortsSign crates state host) (w : World)
    {uuid jti' : String} {codeOctets tokenOctets : Bytes} {word : UInt64}
    (values : FreshValues crates w uuid codeOctets tokenOctets word)
    (valid : validScope client.scope state.hybridPqEnabled = true)
    (inScope : configurationId ∈ Text.splitAsciiWhitespace client.scope)
    (plain : configurationId ∈ profilesWithoutEvidence)
    (good : GoodJti jti) (fresh : jti ∉ w.inner.dpopJtis)
    (good' : GoodJti jti') (fresh' : jti' ∉ jti :: w.inner.dpopJtis)
    (inTime : t.toNat + 3600 ≤ maxTimestamp)
    (fits : configurationId = hybridPqSdJwt →
      committedLength crates host state.issuer client.wallet.jwk.toValue t ≤ maxFieldBytes) :
    ∃ trace event w' headers request response,
      (process crates state).Execution w (trace ++ [event]) w' ∧
      event.origin = .arrived (.credential headers request) ∧
      request.credentialConfigurationId = configurationId ∧
      event.reply = .ok (.finished (.credential response)) ∧
      BoundTo crates host response.credential client.wallet.jwk.toValue ∧ w'.tasks = w.tasks := by
  have allowed := ((validScope_eq_true_iff _ _).mp valid).2 _ inScope
  have checked := client.par_checked valid (some t) w.inner
  have tokenFresh : Draw.token (randomToken crates tokenOctets) ∉
      w.drawn ++ [.uuid uuid, .token (randomToken crates codeOctets)] := by
    simp [values.token, values.apart]
  obtain ⟨trace, s, granted, found, dpopJtis, _⟩ := client.obtainsAccess laws
    (.steady host t "" [] []) (.steady host t uuid [] []) (.steady host t "" [] [])
    (.steady host t "" codeOctets []) host t tokenOctets checked values.uri values.code tokenFresh
    good fresh
  have nonceFresh : Draw.nonce (toString word.toNat) ∉
      w.drawn ++ [.uuid uuid, .token (randomToken crates codeOctets)] ++
        [.token (randomToken crates tokenOctets)] := by
    simpa using values.cNonce
  obtain ⟨first, event, u, response, issued, origin, reply, bound⟩ := client.obtainsPlain laws encoders
    configured ports plain allowed values.nonzero nonceFresh good' (dpopJtis ▸ fresh') found rfl
    inScope inTime fits
  have run := run_beside w.tasks (granted.trans issued)
  have start : World.beside ⟨w.inner, [], w.drawn⟩ w.tasks = w := by simp [World.beside]
  rw [start, ← List.singleton_append, ← List.append_assoc] at run
  exact ⟨trace ++ [first], event, _, _, _, response, run, origin, rfl, reply, bound,
    List.append_nil _⟩

end Client

end Wallets

/-- The reference client beside a request of its own that it has left behind. -/
theorem wallet_served_reference :
    ∃ trace event w' headers request response, (process reference referenceState).Execution
        ((World.initial ∅).beside [.parPush ((referenceClient qeaaSdJwt).parRequest none) none])
        (trace ++ [event]) w' ∧
      event.origin = .arrived (.credential headers request) ∧
      request.credentialConfigurationId = qeaaSdJwt ∧
      event.reply = .ok (.finished (.credential response)) ∧
      BoundTo reference referenceHost response.credential
        (referenceClient qeaaSdJwt).wallet.jwk.toValue ∧
      w'.tasks = [.parPush ((referenceClient qeaaSdJwt).parRequest none) none] := by
  have apart : randomToken reference (List.replicate 32 2) ≠
      randomToken reference (List.replicate 32 1) := fun same =>
    absurd (reference_base64.injective same) (by decide)
  have values : FreshValues reference
      ((World.initial ∅).beside [.parPush ((referenceClient qeaaSdJwt).parRequest none) none])
      "request" (List.replicate 32 1) (List.replicate 32 2) 1 :=
    ⟨List.not_mem_nil, List.not_mem_nil, List.not_mem_nil, apart, by decide, List.not_mem_nil⟩
  have good : Client.GoodJti "token" := ⟨by decide, by decide⟩
  have good' : Client.GoodJti "credential" := ⟨by decide, by decide⟩
  exact (referenceClient qeaaSdJwt).wallet_served (t := 1000) reference_encodings
    reference_encoders reference_configured reference_portsSign _ values (by decide +kernel)
    (by decide +kernel) (by decide) good List.not_mem_nil good' (by decide) (by decide)
    (fun hybrid => absurd hybrid (by decide))

end VCIssuer.Service
