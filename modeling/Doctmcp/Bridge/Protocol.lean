import Doctmcp.Lib.Outbox

/-! # The bridge protocol

What the two ends of the bridge share, of `packages/schemas` and `packages/protocol`. A message is
known by what the code asks about it: whether the schema accepts it, and its JSON text. -/

namespace Doctmcp.Bridge
set_option autoImplicit false

def BRIDGE_MAX_MESSAGE_BYTES : ℕ := 1048576
def BRIDGE_MAX_QUEUED_MESSAGES : ℕ := 256
def BRIDGE_MAX_QUEUED_BYTES : ℕ := 4194304

inductive BridgeErrorCode
  | INVALID_MESSAGE
  | MESSAGE_TOO_LARGE
  | UNSUPPORTED_VERSION
  | HANDSHAKE_REQUIRED
  | UNEXPECTED_MESSAGE
  | SESSION_CLOSED
  | TIMEOUT
  | BACKPRESSURE
  | AUTH_REQUIRED
  | AUTH_FAILED
  deriving DecidableEq

inductive BridgeCloseCode
  | NORMAL
  | PROTOCOL_ERROR
  | TIMEOUT
  | SERVER_SHUTDOWN
  deriving DecidableEq

def BridgeCloseCode.name : BridgeCloseCode → String
  | .NORMAL => "NORMAL"
  | .PROTOCOL_ERROR => "PROTOCOL_ERROR"
  | .TIMEOUT => "TIMEOUT"
  | .SERVER_SHUTDOWN => "SERVER_SHUTDOWN"

inductive BridgeTransportState
  | idle
  | connecting
  | handshaking
  | ready
  | closing
  | closed
  | failed
  deriving DecidableEq

/-- The payload of an `mcp.message`: whether `z.record` accepts it, and `JSON.stringify` of the
message, which may throw. -/
structure JSONRPCMessage where
  record : Bool
  json : Option String
  deriving DecidableEq

/-- A value in the place of a `BridgeMessage`: one of its kinds, or a value of none. -/
inductive BridgeMessage
  | hello
  | helloAck (bridgeProtocolVersion sessionId : String)
  | mcpMessage (payload : JSONRPCMessage)
  | error (code : BridgeErrorCode) (message : String)
  | close (code : BridgeCloseCode)
  | invalid
  deriving DecidableEq

/-- `bridgeMessageSchema.safeParse(message).success`. -/
def bridgeMessageSchema : BridgeMessage → Bool
  | .mcpMessage payload => payload.record
  | .invalid => false
  | _ => true

/-- `new TextEncoder().encode(text).byteLength`. -/
def byteLength (text : String) : ℕ := text.utf8ByteSize

end Doctmcp.Bridge
