import VCIssuer.Library.Ledger
import VCIssuer.Service.Capture

/-!
# The issuer process

Requests run concurrently and meet at one lock.  A step is one critical section:
either the first section of an arriving request or the next section of a request
that has released the lock.  Values drawn from the system's random generator are
recorded, and a step draws values that were never drawn before.
-/

namespace VCIssuer.Service

open VCIssuer.Library
open VCIssuer.Library.Critical

inductive Request where
  | par (request : ParRequest)
  | authorize (request : AuthorizationRequest)
  | token (headers : HeaderMap) (request : TokenRequest)
  | nonce
  | credential (headers : HeaderMap) (request : CredentialRequest)
  | createCredentialOffer (credentialConfigurationId : String)
  | createTlsnEvidenceOffer (artifact : SignedTlsnArtifact)
  | tlsnDemoOffer (serverName : Option String) (claim : Option Value)
  | getCredentialOffer (id : String)
  | createPidCaptureSession (request : CreateCaptureSessionRequest)
  | getPidCaptureSession (id : String)
  | submitPidCaptureEvidence (id : String) (headers : HeaderMap) (body : Bytes)
  | appAttestChallenge
  | appAttestRegister (request : AppAttestRegisterRequest)
  | appAttestAssert (request : AppAttestAssertRequest)

/-- A request that has released the lock and will take it again. -/
inductive Task where
  | parPush (request : ParRequest) (tlsnEvidence : Option VerifiedTlsnEvidence)
  | authorizeIssue (request : AuthorizationRequest) (pushed : PushedAuthorization)
  | captureSnapshot (id : String) (headers : HeaderMap) (body : Bytes)
  | captureCommit (id : String) (headers : HeaderMap) (body : Bytes) (snapshot : CaptureSnapshot)
  | appAttestStore (keyId : String) (inst : RegisteredInstance)

inductive Response where
  | pushed (response : ParResponse)
  | redirect (location : Url)
  | token (response : AccessTokenResponse)
  | nonce (response : NonceResponse)
  | credential (response : CredentialResponse)
  | offer (response : CreateOfferResponse)
  | json (body : Value)
  | captureSession (response : CreateCaptureSessionResponse)
  | challenge (response : AppAttestChallengeResponse)
  | ok

/-- A section either answers the request or hands over to the next section. -/
inductive Progress where
  | finished (response : Response)
  | suspended (task : Task)

/-- What a step takes from its surroundings: the clock, the random generator and the host. -/
structure Environment where
  host : Host
  dpopClock : ClockReading
  proofClock : ClockReading
  clock : ClockReading
  uuid : String
  octets : Bytes
  demoOctets : Bytes
  nonceWords : List UInt64

/-- Where a step starts. -/
inductive Origin where
  | arrived (request : Request)
  | resumed (task : Task)

inductive Draw where
  | uuid (text : String)
  | token (text : String)
  | nonce (text : String)
  deriving DecidableEq

section Steps

variable (crates : Crates) (state : AppState)

def Request.handler (env : Environment) : Request → Handler Progress
  | .par request => do
      let tlsnEvidence ← Service.par state request env.clock
      return .suspended (.parPush request tlsnEvidence)
  | .authorize request => do
      let pushed ← Service.authorize request
      return .suspended (.authorizeIssue request pushed)
  | .token headers request => do
      let response ← Service.token crates state headers request env.dpopClock env.octets
      return .finished (.token response)
  | .nonce => do
      let cNonce ← okOr (randomCredentialNonce env.nonceWords) .panic
      let response ← Service.nonce cNonce
      return .finished (.nonce response)
  | .credential headers request => do
      let response ← Service.credential crates state headers request env.dpopClock env.proofClock
        env.clock env.host
      return .finished (.credential response)
  | .createCredentialOffer id => do
      let response ← Service.createCredentialOffer crates state id env.clock env.uuid env.octets
      return .finished (.offer response)
  | .createTlsnEvidenceOffer artifact => do
      let response ← buildTlsnOffer crates state artifact env.clock env.uuid env.octets
      return .finished (.offer response)
  | .tlsnDemoOffer serverName claim => do
      let response ← Service.tlsnDemoOffer crates state serverName claim env.dpopClock env.clock
        env.demoOctets env.uuid env.octets
      return .finished (.offer response)
  | .getCredentialOffer id => do
      let body ← Service.getCredentialOffer state id env.clock
      return .finished (.json body)
  | .createPidCaptureSession request => do
      let response ← Service.createPidCaptureSession crates state request env.clock env.uuid
        env.octets env.host
      return .finished (.captureSession response)
  | .getPidCaptureSession id => do
      let body ← Service.getPidCaptureSession crates state id env.clock
      return .finished (.json body)
  | .submitPidCaptureEvidence id headers body => do
      enforceAppAttest crates state headers body
      return .suspended (.captureSnapshot id headers body)
  | .appAttestChallenge => do
      let response ← Service.appAttestChallenge crates state env.clock env.octets
      return .finished (.challenge response)
  | .appAttestRegister request => do
      let inst ← Service.appAttestRegister crates state request env.clock
      return .suspended (.appAttestStore request.keyId inst)
  | .appAttestAssert request => do
      Service.appAttestAssert crates state request
      return .finished .ok

def Task.handler (env : Environment) : Task → Handler Progress
  | .parPush request tlsnEvidence => do
      let response ← Service.parPush request tlsnEvidence env.uuid
      return .finished (.pushed response)
  | .authorizeIssue request pushed => do
      let location ← Service.authorizeIssue crates request pushed env.octets
      return .finished (.redirect location)
  | .captureSnapshot id headers body => do
      let snapshot ← Service.captureSnapshot crates id body env.clock
      return .suspended (.captureCommit id headers body snapshot)
  | .captureCommit id _ _ snapshot => do
      let body ← Service.captureCommit crates state id snapshot env.host
      return .finished (.json body)
  | .appAttestStore keyId inst => do
      Service.appAttestStore keyId inst
      return .finished .ok

def Origin.handler (env : Environment) : Origin → Handler Progress
  | .arrived request => request.handler crates state env
  | .resumed task => task.handler crates state env

/-- The values a section draws for use as keys; the nonce loop may not have ended. -/
def Origin.draws (env : Environment) : Origin → Option (List Draw)
  | .arrived (.token _ _) | .arrived .appAttestChallenge
  | .resumed (.authorizeIssue _ _) => some [.token (randomToken crates env.octets)]
  | .arrived .nonce => (randomCredentialNonce env.nonceWords).map fun text => [.nonce text]
  | .arrived (.createCredentialOffer _) | .arrived (.createTlsnEvidenceOffer _)
  | .arrived (.tlsnDemoOffer _ _) | .arrived (.createPidCaptureSession _) =>
      some [.uuid env.uuid, .token (randomToken crates env.octets)]
  | .resumed (.parPush _ _) => some [.uuid env.uuid]
  | _ => some []

structure World where
  inner : VolatileState
  tasks : List Task
  drawn : List Draw

def World.initial (instances : StringMap RegisteredInstance) : World where
  inner := .initial instances
  tasks := []
  drawn := []

inductive Action where
  | arrive (request : Request) (env : Environment)
  | resume (index : Nat) (env : Environment)

structure Event where
  origin : Origin
  env : Environment
  reply : Except Failure Progress
  log : List Mark

/-- The task that a reply leaves waiting. -/
def suspendedTask : Except Failure Progress → List Task
  | .ok (.suspended task) => [task]
  | _ => []

/-- Run one section, with `waiting` the tasks that are left for later. -/
def execute (w : World) (waiting : List Task) (origin : Origin) (env : Environment) :
    Option (World × Event) :=
  match origin.draws crates env with
  | none => none
  | some draws =>
      if ∀ draw ∈ draws, draw ∉ w.drawn then
        let outcome := origin.handler crates state env w.inner
        some
          ({ inner := outcome.state
             tasks := waiting ++ suspendedTask outcome.result
             drawn := w.drawn ++ draws },
           ⟨origin, env, outcome.result, outcome.log⟩)
      else none

def step (w : World) : Action → Option (World × Event)
  | .arrive request env => execute crates state w w.tasks (.arrived request) env
  | .resume index env =>
      match w.tasks[index]? with
      | none => none
      | some task => execute crates state w (w.tasks.eraseIdx index) (.resumed task) env

def process : Machine World Action Event := ⟨step crates state⟩

end Steps

end VCIssuer.Service
