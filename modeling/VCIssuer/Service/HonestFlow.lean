import VCIssuer.Service.Acceptance
import VCIssuer.Service.Process
import VCIssuer.Service.Wallet

/-!
# Runs of an honest client

One section of a request that returns is one step of the process.  From there
the rules for the authorization flow: what a client has to show at each
endpoint, and the run that its requests make when nothing else is under way.
-/

namespace VCIssuer.Service

open VCIssuer.Library
open VCIssuer.Library.Critical

variable {crates : Crates} {state : AppState}

/-! ## Steps -/

section Steps

variable {s t u : VolatileState} {tasks : List Task} {drawn draws later : List Draw}
  {env env' : Environment} {progress : Progress} {response : Response} {log log' : List Mark}

theorem execute_returns {w : World} {waiting : List Task} {origin : Origin}
    (drew : origin.draws crates env = some draws) (fresh : ∀ draw ∈ draws, draw ∉ w.drawn)
    (returned : Returns (origin.handler crates state env) w.inner progress t log) :
    execute crates state w waiting origin env =
      some (⟨t, waiting ++ suspendedTask (.ok progress), w.drawn ++ draws⟩,
        ⟨origin, env, .ok progress, log⟩) := by
  rw [execute, drew]
  simp only [if_pos fresh]
  rw [show origin.handler crates state env w.inner = ⟨.ok progress, t, log⟩ from returned]

/-- A request arrives while others wait. -/
theorem arrive_run {request : Request}
    (drew : Origin.draws crates env (.arrived request) = some draws)
    (fresh : ∀ draw ∈ draws, draw ∉ drawn)
    (returned : Returns (request.handler crates state env) s progress t log) :
    (process crates state).Execution ⟨s, tasks, drawn⟩
      [⟨.arrived request, env, .ok progress, log⟩]
      ⟨t, tasks ++ suspendedTask (.ok progress), drawn ++ draws⟩ := by
  have stepped : (process crates state).step ⟨s, tasks, drawn⟩ (.arrive request env) = _ :=
    execute_returns (w := ⟨s, tasks, drawn⟩) drew fresh returned
  exact .single stepped

/-- One of the waiting requests goes on. -/
theorem resume_run (index : Nat) {task : Task} (waiting : tasks[index]? = some task)
    (drew : Origin.draws crates env (.resumed task) = some draws)
    (fresh : ∀ draw ∈ draws, draw ∉ drawn)
    (returned : Returns (task.handler crates state env) s progress t log) :
    (process crates state).Execution ⟨s, tasks, drawn⟩
      [⟨.resumed task, env, .ok progress, log⟩]
      ⟨t, tasks.eraseIdx index ++ suspendedTask (.ok progress), drawn ++ draws⟩ := by
  have stepped : (process crates state).step ⟨s, tasks, drawn⟩ (.resume index env) =
      execute crates state ⟨s, tasks, drawn⟩ (tasks.eraseIdx index) (.resumed task) env := by
    change step crates state ⟨s, tasks, drawn⟩ (.resume index env) = _
    rw [step, waiting]
  rw [execute_returns (w := ⟨s, tasks, drawn⟩) drew fresh returned] at stepped
  exact .single stepped

/-- A request of one section, when nothing else is under way. -/
theorem finished_run {request : Request}
    (drew : Origin.draws crates env (.arrived request) = some draws)
    (fresh : ∀ draw ∈ draws, draw ∉ drawn)
    (returned : Returns (request.handler crates state env) s (.finished response) t log) :
    (process crates state).Execution ⟨s, [], drawn⟩
      [⟨.arrived request, env, .ok (.finished response), log⟩] ⟨t, [], drawn ++ draws⟩ :=
  arrive_run drew fresh returned

/-- A request of two sections, when nothing else is under way. -/
theorem suspended_run {request : Request} {task : Task}
    (first : Returns (request.handler crates state env) s (.suspended task) t log)
    (drewFirst : Origin.draws crates env (.arrived request) = some [])
    (second : Returns (task.handler crates state env') t (.finished response) u log')
    (drew : Origin.draws crates env' (.resumed task) = some draws)
    (fresh : ∀ draw ∈ draws, draw ∉ drawn) :
    (process crates state).Execution ⟨s, [], drawn⟩
      [ ⟨.arrived request, env, .ok (.suspended task), log⟩,
        ⟨.resumed task, env', .ok (.finished response), log'⟩ ] ⟨u, [], drawn ++ draws⟩ := by
  have arrived : (process crates state).Execution ⟨s, [], drawn⟩
      [⟨.arrived request, env, .ok (.suspended task), log⟩] ⟨t, [task], drawn ++ []⟩ :=
    arrive_run drewFirst (by simp) first
  rw [List.append_nil] at arrived
  exact arrived.trans (resume_run 0 rfl drew fresh second)

end Steps

/-! ## Rules of the authorization flow -/

section Rules

variable {s : VolatileState} {drawn : List Draw} (env env' : Environment) {headers : HeaderMap}

/-- A pushed request whose scope and offer have been accepted. -/
theorem push_run {request : ParRequest} {tlsnEvidence : Option VerifiedTlsnEvidence}
    (checked : Returns (par state request env.clock) s tlsnEvidence s [])
    (fresh : Draw.uuid env'.uuid ∉ drawn) :
    (process crates state).Execution ⟨s, [], drawn⟩
      [ ⟨.arrived (.par request), env, .ok (.suspended (.parPush request tlsnEvidence)), []⟩,
        ⟨.resumed (.parPush request tlsnEvidence), env',
          .ok (.finished (.pushed ⟨requestUriOf env'.uuid, 60⟩)), []⟩ ]
      ⟨{ s with
          pushed := s.pushed.insert (requestUriOf env'.uuid) (pushedOf request tlsnEvidence) },
        [], drawn ++ [.uuid env'.uuid]⟩ := by
  refine suspended_run (t := s) ?_ rfl ?_ rfl (by simpa using fresh)
  · exact (returns_bind_pure _ _ _ _ _ _).mpr ⟨_, checked, rfl⟩
  · exact (returns_bind_pure _ _ _ _ _ _).mpr
      ⟨_, (parPush_returns _ _ _ _).mpr ⟨rfl, rfl, rfl⟩, rfl⟩

/-- A request URI that is turned into a code. -/
theorem authorize_run (request : AuthorizationRequest) {pushed : PushedAuthorization}
    (found : s.pushed.lookup request.requestUri = some pushed)
    (client : pushed.clientId = request.clientId)
    (fresh : Draw.token (randomToken crates env'.octets) ∉ drawn) :
    (process crates state).Execution ⟨s, [], drawn⟩
      [ ⟨.arrived (.authorize request), env, .ok (.suspended (.authorizeIssue request pushed)), []⟩,
        ⟨.resumed (.authorizeIssue request pushed), env',
          .ok (.finished (.redirect (redirectOf crates pushed (randomToken crates env'.octets)))),
          [.authorizationCode request.requestUri]⟩ ]
      ⟨{ s with
          pushed := s.pushed.erase request.requestUri
          codes := s.codes.insert (randomToken crates env'.octets) (codeOf pushed) },
        [], drawn ++ [.token (randomToken crates env'.octets)]⟩ := by
  refine suspended_run
    (t := { s with pushed := s.pushed.erase request.requestUri }) ?_ rfl ?_ rfl (by simpa using fresh)
  · exact (returns_bind_pure _ _ _ _ _ _).mpr
      ⟨_, (authorize_returns _ _).mpr ⟨found, client, rfl, rfl⟩, rfl⟩
  · exact (returns_bind_pure _ _ _ _ _ _).mpr
      ⟨_, (authorizeIssue_returns _ _ _ _).mpr ⟨rfl, rfl, rfl⟩, rfl⟩

theorem token_run {request : TokenRequest}
    (grant : TokenGrant crates state s headers request env.dpopClock)
    (fresh : Draw.token (randomToken crates env.octets) ∉ drawn) :
    (process crates state).Execution ⟨s, [], drawn⟩
      [⟨.arrived (.token headers request), env,
        .ok (.finished (.token (grant.response env.octets))), grant.marks⟩]
      ⟨grant.after env.octets, [], drawn ++ [.token (randomToken crates env.octets)]⟩ :=
  finished_run rfl (by simpa using fresh) ((returns_bind_pure _ _ _ _ _ _).mpr
    ⟨_, (token_returns _ _ _ _).mpr ⟨grant, rfl, rfl, rfl⟩, rfl⟩)

theorem nonce_run {cNonce : String} (drew : randomCredentialNonce env.nonceWords = some cNonce)
    (fresh : Draw.nonce cNonce ∉ drawn) :
    (process crates state).Execution ⟨s, [], drawn⟩
      [⟨.arrived .nonce, env, .ok (.finished (.nonce ⟨cNonce, 300⟩)), []⟩]
      ⟨{ s with nonces := s.nonces.insert cNonce false }, [], drawn ++ [.nonce cNonce]⟩ := by
  refine finished_run (by rw [Origin.draws, drew]; rfl) (by simpa using fresh) ?_
  refine (returns_okOr_bind _ _ _ _ _ _ _).mpr ⟨cNonce, drew, ?_⟩
  exact (returns_bind_pure _ _ _ _ _ _).mpr
    ⟨⟨cNonce, 300⟩, (returns_modify_bind _ _ _ _ _ _).mpr ((returns_pure _ _ _ _ _).mpr
      ⟨rfl, rfl, rfl⟩), rfl⟩

theorem credential_run {request : CredentialRequest} {response : CredentialResponse}
    (grant : CredentialGrant crates state s headers request env.dpopClock env.proofClock env.clock)
    (encoded : encodeCredential crates state env.host grant.decision = .ok response) :
    (process crates state).Execution ⟨s, [], drawn⟩
      [⟨.arrived (.credential headers request), env, .ok (.finished (.credential response)),
        grant.marks⟩] ⟨grant.after, [], drawn⟩ := by
  have returned : Returns (Request.handler crates state env (.credential headers request)) s
      (.finished (.credential response)) grant.after grant.marks :=
    (returns_bind_pure _ _ _ _ _ _).mpr
      ⟨_, (credential_returns _ _ _ _ _).mpr ⟨grant, encoded, rfl, rfl⟩, rfl⟩
  have run : (process crates state).Execution ⟨s, [], drawn⟩ _ _ :=
    finished_run rfl (by simp) returned
  rwa [List.append_nil] at run

end Rules

/-! ## Encoding -/

/-- The Keychain answers for this key. -/
def Signs (host : Host) (signer : KeychainSigner) : Prop :=
  ∀ message, ∃ signature, host.signEs256 signer message = some signature

section Encoding

variable {host : Host} {signer : KeychainSigner} {credential : String}

theorem Signs.signSdJwt (signs : Signs host signer) (crates : Crates) (payload : Value)
    (disclosures : List String) :
    ∃ credential, signSdJwt crates host signer payload disclosures = .ok credential := by
  obtain ⟨signature, signed⟩ := signs (Text.asBytes (sdJwtInput crates signer payload))
  exact ⟨_, (signSdJwt_eq_ok ..).mpr ⟨signature, signed, rfl⟩⟩

theorem Signs.issueSdJwt (signs : Signs host signer) (crates : Crates) (issuer : Url)
    {profile vct : String} {claims : List (String × Value)} (holderJwk : Value) (now : UInt64)
    {tlsnEvidence : Option VerifiedTlsnEvidence} {pidClaims : Option PidSubjectClaims}
    (claimed : sdJwtClaims profile tlsnEvidence pidClaims = some (vct, claims)) :
    ∃ credential, issueSdJwt crates host signer issuer profile holderJwk now tlsnEvidence
      pidClaims = .ok credential := by
  rw [Service.issueSdJwt, claimed]
  exact signs.signSdJwt crates _ _

theorem encodeCredential_of_sdJwt {decision : Decision}
    (sdJwt : decision.configurationId ∈ [pidSdJwt, pidFromEmrtdSdJwt, qeaaSdJwt,
      qeaaPidBoundSdJwt, tlsnEvidenceSdJwt])
    (found : state.credentialSigners.lookup decision.configurationId = some signer)
    (issued : issueSdJwt crates host signer state.issuer decision.configurationId
      decision.proof.holderJwk decision.now decision.tlsnEvidence
      (decision.chipLiveness.map (·.claims)) = .ok credential) :
    encodeCredential crates state host decision = .ok ⟨credential, none⟩ :=
  encodeCredential_eq_ok.mpr (.sdJwt sdJwt found issued)

theorem encodeCredential_of_mandate {decision : Decision} {grant : MandateGrant}
    (mandate : decision.configurationId = mandateSdJwt)
    (granted : decision.mandateGrant = some grant)
    (found : state.credentialSigners.lookup mandateSdJwt = some signer)
    (issued : issueMandateSdJwt crates host signer state.issuer decision.proof.holderJwk
      (mandatorOf grant) grant.grantedPowers (randomToken crates (host.salt .mandateJti 0))
      decision.now = .ok credential) :
    encodeCredential crates state host decision = .ok ⟨credential, none⟩ :=
  encodeCredential_eq_ok.mpr (.mandate mandate granted (mandate ▸ found) issued)

end Encoding

/-! ## Clients -/

/-- Surroundings in which every reading of the clock is the same. -/
def Environment.steady (host : Host) (t : UInt64) (uuid : String) (octets : Bytes)
    (nonceWords : List UInt64) : Environment where
  host := host
  dpopClock := some t
  proofClock := some t
  clock := some t
  uuid := uuid
  octets := octets
  demoOctets := []
  nonceWords := nonceWords

/-- A wallet with what it registers for, at an issuer whose endpoints it knows. -/
structure Client (crates : Crates) (state : AppState) where
  wallet : Wallet crates
  clientId : String
  redirectUri : Url
  scope : String
  codeVerifier : String
  tokenEndpoint : Url
  credentialEndpoint : Url
  tokenJoined : crates.join state.issuer "token" = some tokenEndpoint
  credentialJoined : crates.join state.issuer "credential" = some credentialEndpoint

namespace Client

variable (client : Client crates state)

/-! ### Requests -/

def parRequest (issuerState : Option String) : ParRequest where
  clientId := client.clientId
  redirectUri := client.redirectUri
  responseType := "code"
  scope := client.scope
  state := none
  codeChallenge := crates.digest client.codeVerifier
  codeChallengeMethod := "S256"
  issuerState := issuerState

def dpopFor (endpoint : Url) (t : UInt64) (jti : String) : String :=
  client.wallet.dpop ⟨"POST", endpoint.asStr, t, jti⟩

def tokenHeaders (t : UInt64) (jti : String) : HeaderMap :=
  [("dpop", client.dpopFor client.tokenEndpoint t jti)]

def tokenRequest (code : String) : TokenRequest where
  grantType := "authorization_code"
  code := code
  redirectUri := client.redirectUri
  clientId := client.clientId
  codeVerifier := client.codeVerifier

def credentialHeaders (token : String) (t : UInt64) (jti : String) : HeaderMap :=
  [ ("authorization", "DPoP " ++ token),
    ("dpop", client.dpopFor client.credentialEndpoint t jti) ]

def credentialRequest (configurationId : String) (t : UInt64) (cNonce : String)
    (pidBinding : Option PidBindingObject) : CredentialRequest where
  credentialConfigurationId := configurationId
  proofs := [client.wallet.credentialProof ⟨state.issuer.asStr, t, cNonce⟩]
  pidBinding := pidBinding
  emrtdEvidence := none

/-! ### Grants -/

theorem par_checked (valid : validScope client.scope state.hybridPqEnabled = true)
    (clock : ClockReading) (s : VolatileState) :
    Returns (par state (client.parRequest none) clock) s none s [] := by
  simp only [par, returns_rejectIf_bind]
  refine ⟨by simp [parRequest], by simp [parRequest, valid], ?_⟩
  exact (returns_pure _ _ _ _ _).mpr ⟨rfl, rfl, rfl⟩

theorem bearer_credentialHeaders (token : String) (t : UInt64) (jti : String) :
    bearer (client.credentialHeaders token t jti) = some token :=
  Text.stripPrefix_append "DPoP " token

/-- An identifier that a proof may carry. -/
def GoodJti (jti : String) : Prop :=
  jti ≠ "" ∧ Text.len jti ≤ 256

variable {s : VolatileState} {drawn : List Draw} {t : UInt64} {jti : String}

/-- The client's own code, with its own verifier, is a token grant. -/
def tokenGrant (laws : LawfulEncodings crates) {code : String} {issuerState : Option String}
    {tlsnEvidence : Option VerifiedTlsnEvidence} (good : GoodJti jti) (fresh : jti ∉ s.dpopJtis)
    (found : s.codes.lookup code =
      some (codeOf (pushedOf (client.parRequest issuerState) tlsnEvidence))) :
    TokenGrant crates state s (client.tokenHeaders t jti) (client.tokenRequest code) (some t) where
  proof := client.dpopFor client.tokenEndpoint t jti
  endpoint := client.tokenEndpoint
  dpop := client.wallet.dpopProof laws ⟨"POST", client.tokenEndpoint.asStr, t, jti⟩ rfl good.1
    good.2
  code := codeOf (pushedOf (client.parRequest issuerState) tlsnEvidence)
  grantType := rfl
  proofGiven := rfl
  endpointJoined := client.tokenJoined
  dpopFresh := fresh
  codeFound := found
  unconsumed := rfl
  clientMatches := rfl
  redirectMatches := rfl
  pkce := rfl

/-- A token for the client's key, an unused nonce and the evidence of the profile are a
credential grant. -/
def credentialGrant (laws : LawfulEncodings crates) {token configurationId cNonce : String}
    {access : AccessToken} {pidBinding : Option VerifiedPidBinding}
    {supplied : Option PidBindingObject} (good : GoodJti jti) (fresh : jti ∉ s.dpopJtis)
    (goodNonce : GoodJti cNonce) (unused : s.nonces.lookup cNonce = some false)
    (found : s.tokens.lookup token = some access) (bound : access.dpopJkt = client.wallet.jkt)
    (inScope : configurationId ∈ Text.splitAsciiWhitespace access.scope)
    (tlsnBound : configurationId = tlsnEvidenceSdJwt → access.tlsnEvidence.isSome)
    (notNfc : configurationId ≠ pidFromEmrtdSdJwt)
    (pidChecked : PidBindingChecked crates state
      (client.credentialRequest configurationId t cNonce supplied)
      ⟨client.wallet.jkt, client.wallet.jwk.toValue, cNonce⟩ t pidBinding)
    (pidFresh : ∀ verified ∈ pidBinding, verified.jti ∉ s.bindingJtis)
    (admitted : Admitted configurationId (pidBinding.map (·.subject)) none t) :
    CredentialGrant crates state s (client.credentialHeaders token t jti)
      (client.credentialRequest configurationId t cNonce supplied) (some t) (some t) (some t) where
  proof := client.dpopFor client.credentialEndpoint t jti
  endpoint := client.credentialEndpoint
  dpop := client.wallet.dpopProof laws ⟨"POST", client.credentialEndpoint.asStr, t, jti⟩ rfl good.1
    good.2
  compact := client.wallet.credentialProof ⟨state.issuer.asStr, t, cNonce⟩
  holder := client.wallet.holderProof laws ⟨state.issuer.asStr, t, cNonce⟩ rfl goodNonce.1
    goodNonce.2
  jkt := client.wallet.jkt
  now := t
  pidBinding := pidBinding
  chipLiveness := none
  proofGiven := rfl
  endpointJoined := client.credentialJoined
  dpopFresh := fresh
  dpopKey := rfl
  proofs := rfl
  holderKey := rfl
  nonceUnused := unused
  clocked := rfl
  pidChecked := pidChecked
  pidFresh := pidFresh
  chipChecked := .free notNfc rfl
  chipFresh := by rintro _ ⟨⟩
  admitted := admitted
  token := token
  access := access
  tokenGiven := client.bearer_credentialHeaders token t jti
  accessFound := found
  bound := bound
  inScope := inScope
  tlsnBound := tlsnBound

/-! ### Runs -/

/-- The record behind the client's own code. -/
def entry (issuerState : Option String) (tlsnEvidence : Option VerifiedTlsnEvidence) :
    AuthorizationCode :=
  codeOf (pushedOf (client.parRequest issuerState) tlsnEvidence)

/-- An accepted pushed request leads to a code. -/
theorem obtainsCode {issuerState : Option String} {tlsnEvidence : Option VerifiedTlsnEvidence}
    (parEnv pushEnv authorizeEnv issueEnv : Environment)
    (checked : Returns (par state (client.parRequest issuerState) parEnv.clock) s tlsnEvidence s [])
    (uuidFresh : Draw.uuid pushEnv.uuid ∉ drawn)
    (codeFresh : Draw.token (randomToken crates issueEnv.octets) ∉ drawn) :
    ∃ trace u, (process crates state).Execution ⟨s, [], drawn⟩ trace
        ⟨u, [], drawn ++ [.uuid pushEnv.uuid, .token (randomToken crates issueEnv.octets)]⟩ ∧
      u.codes.lookup (randomToken crates issueEnv.octets) =
        some (client.entry issuerState tlsnEvidence) ∧
      u.dpopJtis = s.dpopJtis ∧ u.bindingJtis = s.bindingJtis := by
  have pushed : (process crates state).Execution ⟨s, [], drawn⟩ _ _ :=
    push_run parEnv pushEnv checked uuidFresh
  have taken : (s.pushed.insert (requestUriOf pushEnv.uuid)
      (pushedOf (client.parRequest issuerState) tlsnEvidence)).lookup (requestUriOf pushEnv.uuid) =
        some (pushedOf (client.parRequest issuerState) tlsnEvidence) := AList.lookup_insert _
  have issued := pushed.trans (authorize_run authorizeEnv issueEnv
    ⟨client.clientId, requestUriOf pushEnv.uuid⟩ taken rfl (by simpa using codeFresh))
  rw [List.append_assoc, List.singleton_append] at issued
  exact ⟨_, _, issued, AList.lookup_insert s.codes, rfl, rfl⟩

/-- The client's code leads to a token for the client's key. -/
theorem obtainsToken (laws : LawfulEncodings crates) {issuerState : Option String}
    {tlsnEvidence : Option VerifiedTlsnEvidence} {code : String} (host : Host) (t : UInt64)
    (octets : Bytes) (found : s.codes.lookup code = some (client.entry issuerState tlsnEvidence))
    (tokenFresh : Draw.token (randomToken crates octets) ∉ drawn) (good : GoodJti jti)
    (fresh : jti ∉ s.dpopJtis) :
    ∃ event u, (process crates state).Execution ⟨s, [], drawn⟩ [event]
        ⟨u, [], drawn ++ [.token (randomToken crates octets)]⟩ ∧
      u.tokens.lookup (randomToken crates octets) =
        some ⟨client.scope, client.wallet.jkt, tlsnEvidence⟩ ∧
      u.dpopJtis = jti :: s.dpopJtis ∧ u.bindingJtis = s.bindingJtis :=
  ⟨_, _, token_run (.steady host t "" octets []) (client.tokenGrant laws good fresh found) tokenFresh,
    AList.lookup_insert s.tokens, rfl, rfl⟩

/-- Both together. -/
theorem obtainsAccess (laws : LawfulEncodings crates) {issuerState : Option String}
    {tlsnEvidence : Option VerifiedTlsnEvidence}
    (parEnv pushEnv authorizeEnv issueEnv : Environment) (host : Host) (t : UInt64) (octets : Bytes)
    (checked : Returns (par state (client.parRequest issuerState) parEnv.clock) s tlsnEvidence s [])
    (uuidFresh : Draw.uuid pushEnv.uuid ∉ drawn)
    (codeFresh : Draw.token (randomToken crates issueEnv.octets) ∉ drawn)
    (tokenFresh : Draw.token (randomToken crates octets) ∉
      drawn ++ [.uuid pushEnv.uuid, .token (randomToken crates issueEnv.octets)])
    (good : GoodJti jti) (fresh : jti ∉ s.dpopJtis) :
    ∃ trace u, (process crates state).Execution ⟨s, [], drawn⟩ trace
        ⟨u, [], drawn ++ [.uuid pushEnv.uuid, .token (randomToken crates issueEnv.octets)] ++
          [.token (randomToken crates octets)]⟩ ∧
      u.tokens.lookup (randomToken crates octets) =
        some ⟨client.scope, client.wallet.jkt, tlsnEvidence⟩ ∧
      u.dpopJtis = jti :: s.dpopJtis ∧ u.bindingJtis = s.bindingJtis := by
  obtain ⟨_, s', coded, found, dpopJtis, bindingJtis⟩ :=
    client.obtainsCode parEnv pushEnv authorizeEnv issueEnv checked uuidFresh codeFresh
  obtain ⟨_, u, redeemed, granted, dpopJtisToo, bindingJtisToo⟩ :=
    client.obtainsToken laws host t octets found tokenFresh good (dpopJtis ▸ fresh)
  exact ⟨_, u, coded.trans redeemed, granted, dpopJtis ▸ dpopJtisToo,
    bindingJtisToo.trans bindingJtis⟩

/-- A token leads to a credential, and can be used again. -/
theorem obtainsCredential (laws : LawfulEncodings crates) (host : Host) (t : UInt64) (word : UInt64)
    {token configurationId : String} {access : AccessToken}
    {pidBinding : Option VerifiedPidBinding} {supplied : Option PidBindingObject}
    {response : CredentialResponse} (nonzero : word ≠ 0)
    (nonceFresh : Draw.nonce (toString word.toNat) ∉ drawn)
    (good : GoodJti jti) (fresh : jti ∉ s.dpopJtis) (goodNonce : GoodJti (toString word.toNat))
    (found : s.tokens.lookup token = some access) (bound : access.dpopJkt = client.wallet.jkt)
    (inScope : configurationId ∈ Text.splitAsciiWhitespace access.scope)
    (tlsnBound : configurationId = tlsnEvidenceSdJwt → access.tlsnEvidence.isSome)
    (notNfc : configurationId ≠ pidFromEmrtdSdJwt)
    (pidChecked : PidBindingChecked crates state
      (client.credentialRequest configurationId t (toString word.toNat) supplied)
      ⟨client.wallet.jkt, client.wallet.jwk.toValue, toString word.toNat⟩ t pidBinding)
    (pidFresh : ∀ verified ∈ pidBinding, verified.jti ∉ s.bindingJtis)
    (admitted : Admitted configurationId (pidBinding.map (·.subject)) none t)
    (encoded : encodeCredential crates state host
      ⟨configurationId, ⟨client.wallet.jkt, client.wallet.jwk.toValue, toString word.toNat⟩, t,
        access.tlsnEvidence, none, grantOf crates configurationId (pidBinding.map (·.subject)) none⟩ =
      .ok response) :
    ∃ first event u, (process crates state).Execution ⟨s, [], drawn⟩ [first, event]
        ⟨u, [], drawn ++ [.nonce (toString word.toNat)]⟩ ∧
      event.origin = .arrived (.credential (client.credentialHeaders token t jti)
        (client.credentialRequest configurationId t (toString word.toNat) supplied)) ∧
      event.reply = .ok (.finished (.credential response)) ∧
      u.tokens = s.tokens ∧ u.dpopJtis = jti :: s.dpopJtis := by
  have drew : randomCredentialNonce [word] = some (toString word.toNat) := by
    simp [randomCredentialNonce, nonzero]
  have handedOut : (process crates state).Execution ⟨s, [], drawn⟩ _ _ :=
    nonce_run (.steady host t "" [] [word]) drew nonceFresh
  have issued := handedOut.trans (credential_run (.steady host t "" [] [])
    (client.credentialGrant (s := { s with nonces := s.nonces.insert (toString word.toNat) false })
      laws good fresh goodNonce (AList.lookup_insert s.nonces) found bound inScope tlsnBound notNfc
      pidChecked pidFresh admitted) encoded)
  exact ⟨_, _, _, issued, rfl, rfl, rfl, rfl⟩

end Client

end VCIssuer.Service
