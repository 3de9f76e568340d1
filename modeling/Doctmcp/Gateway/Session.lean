import Doctmcp.Schemas.Records

/-! # Sessions of the bridge gateway

What the other components see of a gateway session: an object with an identity that never changes
and a state that does. -/

namespace Doctmcp.Gateway
open Doctmcp.Schemas
set_option autoImplicit false

inductive GatewaySessionState
  | handshaking
  | ready
  | closing
  | closed
  deriving DecidableEq

/-- The place of a state in the life of a connection. -/
def GatewaySessionState.stage : GatewaySessionState → ℕ
  | .handshaking => 0
  | .ready => 1
  | .closing => 2
  | .closed => 3

/-- What `authenticatedDeviceIdentitySchema` accepts. -/
structure AuthenticatedDeviceIdentity where
  ownerId : String
  deviceId : DeviceId
  deriving DecidableEq

/-- A `BridgeGatewaySession`: the object, and the identity it was created with. -/
structure BridgeGatewaySession where
  object : ℕ
  identity : Option AuthenticatedDeviceIdentity
  deriving DecidableEq

end Doctmcp.Gateway
