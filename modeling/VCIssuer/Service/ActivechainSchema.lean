import VCIssuer.Library.Checks
import VCIssuer.Library.Json
import VCIssuer.Library.Wire

/-!
# ActiveChain schema identifiers

The mapping from credential configurations to schema identifiers that another
repository shares.  The digest is over length-prefixed fields; the issuer only
publishes identifiers from a closed table.
-/

namespace VCIssuer.Service.ActivechainSchema

open VCIssuer.Library
open VCIssuer.Library.Checks

inductive MappingError where
  | invalidInput
  deriving DecidableEq

def maxIdentifierBytes : Nat := 256

def schemaDomain : Bytes := Text.asBytes "ACTIVECHAIN-EUDI-SCHEMA-V1"

/-- What is absorbed before the identifier is squeezed out. -/
def schemaPreimage (configuration credentialType rulebookId : Bytes) (rulebookVersion : UInt32)
    (rulebookDigest : Bytes) : Bytes :=
  schemaDomain ++ component configuration ++ component credentialType ++ component rulebookId ++
    toBeBytes 4 rulebookVersion.toNat ++ component rulebookDigest

/-- `shake256` is SHAKE256 with 48 octets of output, and the digest has 48 octets. -/
def deriveSchemaId (shake256 : Bytes → Bytes) (configuration credentialType rulebookId : Bytes)
    (rulebookVersion : UInt32) (rulebookDigest : Bytes) : Except MappingError Bytes := do
  rejectIf
    ((∃ value ∈ [configuration, credentialType, rulebookId],
        value = [] ∨ maxIdentifierBytes < value.length) ∨
      rulebookVersion = 0 ∨ rulebookDigest = List.replicate 48 0)
    .invalidInput
  return shake256
    (schemaPreimage configuration credentialType rulebookId rulebookVersion rulebookDigest)

/-! ## The closed table -/

/-- `u8::from_str_radix` on two characters. -/
def hexOctet? (first second : Char) : Option UInt8 :=
  if first = '+' then (Json.hexValue second).map UInt8.ofNat
  else do
    let high ← Json.hexValue first
    let low ← Json.hexValue second
    return UInt8.ofNat (16 * high + low)

def hexOctets? : List Char → Option Bytes
  | first :: second :: rest => do
      let octet ← hexOctet? first second
      let octets ← hexOctets? rest
      return octet :: octets
  | [] => some []
  | [_] => none

def decodeDigest (value : String) : Option Bytes :=
  if Text.len value = 96 then hexOctets? value.toList else none

/-- The credential type, the rulebook and its digest of each configuration. -/
def rulebooks : List (String × String × String × String) :=
  [ ("eu.europa.ec.eudi.pid_vc_sd_jwt.de",
      "eu.europa.ec.eudi.pid.1", "dev.advatar.eudi.pid-sd-jwt-profile",
      "cdf11a6e5f93549443c33af2ea7cab2ffeca1d7bbd133384" ++
        "38113892cf28cf50d6f03389031edbbad18343979436f94e"),
    ("eu.europa.ec.eudi.pid_mso_mdoc.de",
      "eu.europa.ec.eudi.pid.1", "dev.advatar.eudi.pid-mdoc-profile",
      "42f7a85eb0aef0c9b5b515ceacdd9ab14f5302e8a8c73726" ++
        "6e955f8489424ed2014bcb046013721f17c2439ae12ac22b"),
    ("org.iso.18013.5.1.mDL.de",
      "org.iso.18013.5.1.mDL", "dev.advatar.eudi.mdl-mdoc-profile",
      "3fa4eace7934699504bb655dd427f26060a282ad66d92fda" ++
        "b33c1a3c1b09ff35e64428ed1861d9bcbb17b1faf97d93b1"),
    ("urn:eu.europa.ec.eudi:learning:credential:1:dc+sd-jwt:de",
      "urn:eu.europa.ec.eudi:learning:credential:1", "dev.advatar.eudi.learning-qeaa-profile",
      "d2df712931285cc51127794f1053b15eaec1ef55ccfebbe0" ++
        "e7c5e9cfd8bc8c62b1305c555b830ed4b2d5d96ec5ae0af0"),
    ("urn:eu.europa.ec.eudi:learning:credential:1:dc+sd-jwt:de:pid-bound",
      "urn:eu.europa.ec.eudi:learning:credential:1",
      "dev.advatar.eudi.learning-qeaa-pid-bound-profile",
      "e588d0ec0b3ce34a46d644d8411047a7e1626c4912aa4129" ++
        "f0d2d928eae3af5b8a08defad57f1ec7d9d0bb2c35fbc49c"),
    ("dev.svipe.pid.sd-jwt",
      "dev.eu.europa.ec.eudi.pid.1", "dev.advatar.svipe-pid-development-profile",
      "1c1bf17a294402c20945962c79677a286ec2bbb0a0a740b3" ++
        "02b94c7ecbf42a2984250df9cd5480bc295e8fb3dae09950"),
    ("dev.advatar.tlsn.evidence.sd-jwt",
      "dev.advatar.tlsn.evidence.1", "dev.advatar.tlsn-evidence-development-profile",
      "e13f89002120231a7975ad6fd42a07a98c7768e7b8caa833" ++
        "6ade7368effb1d897a512f864a10a5561a42ec9c7eb198c6") ]

def pinnedSchemaId (shake256 : Bytes → Bytes) (configuration : String) : Option Bytes := do
  let (credentialType, rulebookId, rulebookDigest) ← rulebooks.lookup configuration
  let digest ← decodeDigest rulebookDigest
  (deriveSchemaId shake256 (Text.asBytes configuration) (Text.asBytes credentialType)
    (Text.asBytes rulebookId) 1 digest).toOption

def hexEncode (octets : Bytes) : String :=
  String.ofList (octets.flatMap fun octet => Text.lowerHex 2 octet.toNat)

end VCIssuer.Service.ActivechainSchema
