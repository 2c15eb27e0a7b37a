import VCIssuer.Library.Checks
import VCIssuer.Service.Ports

/-!
# Liveness provider

The service mints a verify token for each capture session at the provider and
later asks the provider itself for the verdict on that token.
-/

namespace VCIssuer.Service

open VCIssuer.Library
open VCIssuer.Library.Checks

def iproovClientId : String := "eudi-wallet-pid-capture"

structure IProovConfig where
  apiKey : String
  secret : String
  baseUrl : String
  assuranceType : String
  webBaseUrl : Option String
  deriving DecidableEq

def hostOf (baseUrl : String) : String :=
  let noScheme :=
    ((Text.stripPrefix "https://" baseUrl).or (Text.stripPrefix "http://" baseUrl)).getD baseUrl
  (Text.split '/' noScheme).headD noScheme

def isSafeUserIdByte (b : UInt8) : Bool :=
  (97 ≤ b && b ≤ 122) || (65 ≤ b && b ≤ 90) || (48 ≤ b && b ≤ 57) ||
    b == 64 || b == 46 || b == 95 || b == 45

/-- A clean identifier stands for itself and anything else for its hash in hexadecimal. -/
def safeUserId (crates : Crates) (raw : String) : String :=
  let bytes := Text.asBytes raw
  if !bytes.isEmpty && decide (bytes.length ≤ 255) && bytes.all isSafeUserIdByte then raw
  else String.ofList ((crates.sha256 bytes).flatMap fun b => Text.lowerHex 2 b.toNat)

namespace IProovConfig

def tokenEndpoint (self : IProovConfig) : String := self.baseUrl ++ "/claim/verify/token"

def validateEndpoint (self : IProovConfig) : String := self.baseUrl ++ "/claim/verify/validate"

def streamingUrl (self : IProovConfig) : String :=
  match self.webBaseUrl with
  | some w => if w ≠ "" then w else "wss://" ++ hostOf self.baseUrl ++ "/ws"
  | none => "wss://" ++ hostOf self.baseUrl ++ "/ws"

end IProovConfig

def tokenRequestBody (cfg : IProovConfig) (userId resource : String) : Value :=
  .object
    [ ("api_key", .string cfg.apiKey), ("secret", .string cfg.secret),
      ("resource", .string resource), ("client", .string iproovClientId),
      ("assurance_type", .string cfg.assuranceType), ("user_id", .string userId) ]

def parseTokenResponse (crates : Crates) (body : String) : Option String := do
  let parsed ← crates.tokenResponseFromStr body
  if parsed.token = "" then none else some parsed.token

def validateRequestBody (cfg : IProovConfig) (token userId clientIp : String) : Value :=
  .object
    [ ("api_key", .string cfg.apiKey), ("secret", .string cfg.secret), ("token", .string token),
      ("client", .string iproovClientId), ("user_id", .string userId),
      ("ip", .string clientIp) ]

/-- Passed, and at exactly the required assurance level. -/
def ValidateResponse.confirms (response : ValidateResponse) (requiredAssurance : String) : Bool :=
  response.passed && response.assuranceType == some requiredAssurance

def parseValidateResponse (crates : Crates) (body requiredAssurance : String) : Option Bool :=
  (crates.validateResponseFromStr body).map (·.confirms requiredAssurance)

/-- `None` stands for any error on the way, which the callers treat alike. -/
def createToken (crates : Crates) (host : Host) (cfg : IProovConfig) (userId resource : String) :
    Option String := do
  let body ← host.post
    ⟨cfg.tokenEndpoint, tokenRequestBody cfg (safeUserId crates userId) resource⟩
  parseTokenResponse crates body

def validate (crates : Crates) (host : Host) (cfg : IProovConfig)
    (token userId clientIp : String) : Option Bool := do
  let body ← host.post
    ⟨cfg.validateEndpoint, validateRequestBody cfg token (safeUserId crates userId) clientIp⟩
  parseValidateResponse crates body cfg.assuranceType

/-- The provider's answer to the validate request for this token and user confirms the capture. -/
def Confirmed (crates : Crates) (host : Host) (cfg : IProovConfig)
    (token userId clientIp : String) : Prop :=
  ∃ body response,
    host.post ⟨cfg.validateEndpoint,
      validateRequestBody cfg token (safeUserId crates userId) clientIp⟩ = some body ∧
    crates.validateResponseFromStr body = some response ∧
    response.passed = true ∧ response.assuranceType = some cfg.assuranceType

theorem validate_eq_some_true (crates : Crates) (host : Host) (cfg : IProovConfig)
    (token userId clientIp : String) :
    validate crates host cfg token userId clientIp = some true ↔
      Confirmed crates host cfg token userId clientIp := by
  simp only [validate, parseValidateResponse, Option.bind_eq_bind, Option.bind_eq_some_iff,
    Option.map_eq_some_iff, ValidateResponse.confirms, Bool.and_eq_true, beq_iff_eq]
  constructor
  · rintro ⟨body, answered, response, parsed, passed, level⟩
    exact ⟨body, response, answered, parsed, passed, level⟩
  · rintro ⟨body, response, answered, parsed, passed, level⟩
    exact ⟨body, answered, response, parsed, passed, level⟩

end VCIssuer.Service
