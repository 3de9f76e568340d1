import Doctmcp.Schemas.Records

/-! # The credential of the device

The record that `device-credential-provider.ts` keeps and its schemas. -/

namespace Doctmcp.Agent
open Doctmcp.Lib Doctmcp.Schemas
set_option autoImplicit false

/-! ## The record -/

/-- `DEVICE_CREDENTIAL_SECRET_BASE64URL_LENGTH`. -/
def DEVICE_CREDENTIAL_SECRET_BASE64URL_LENGTH : ℕ := 43

/-- A character of `BASE64URL_PATTERN`. -/
def isBase64UrlCharacter (c : Char) : Bool := isAlphanumeric c || c == '_' || c == '-'

def deviceCredentialSecretSchema (text : String) : Bool :=
  JsString.codePoints text = DEVICE_CREDENTIAL_SECRET_BASE64URL_LENGTH &&
    (text ≠ "" && text.toList.all isBase64UrlCharacter)

/-- A secret that its schema accepts. -/
abbrev DeviceCredentialSecret := { text : String // deviceCredentialSecretSchema text = true }

structure LocalDeviceCredential where
  deviceId : DeviceId
  credential : DeviceCredentialSecret
  deriving DecidableEq

end Doctmcp.Agent
