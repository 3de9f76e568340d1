import Mathlib.Data.Rat.Defs
import Doctmcp.Lib.Runs
import Doctmcp.Lib.Utf8
import Doctmcp.Gateway.Session

/-! # The heartbeat of a gateway connection

One connection of `gateway.ts`: its handshake, its heartbeat timer, pongs with any payload, the
validations that `onHeartbeat` answers later, and the ways in which it fails or closes. What the
surroundings decide stands in the events: readings of the clock, drawn nonces, whether a send throws,
how a validation settles. -/

namespace Doctmcp.Gateway.Heartbeat
open Doctmcp.Lib Doctmcp.Schemas
set_option autoImplicit false

/-- The heartbeat options that `createBridgeGateway` accepts. -/
structure GatewayOptions where
  heartbeatIntervalMs : ℚ
  heartbeatTimeoutMs : ℚ
  interval_nonneg : 0 ≤ heartbeatIntervalMs
  timeout_nonneg : 0 ≤ heartbeatTimeoutMs
  both : heartbeatIntervalMs = 0 ↔ heartbeatTimeoutMs = 0
  longer : 0 < heartbeatIntervalMs → heartbeatIntervalMs < heartbeatTimeoutMs

/-! ## The connection -/

structure GatewayConnection where
  ws : Bool
  session : Option BridgeGatewaySession
  state : GatewaySessionState
  heartbeatTimer : Bool
  heartbeatNonce : Option UuidV4
  heartbeatValidating : Bool
  lastHeartbeatAtMs : ℤ
  finalized : Bool

def GatewayConnection.new : GatewayConnection where
  ws := false
  session := none
  state := .handshaking
  heartbeatTimer := false
  heartbeatNonce := none
  heartbeatValidating := false
  lastHeartbeatAtMs := 0
  finalized := false

/-- What every way out of `ready` clears. -/
def clearHeartbeat (c : GatewayConnection) : GatewayConnection :=
  { c with heartbeatTimer := false, heartbeatNonce := none, heartbeatValidating := false }

def failConnection (c : GatewayConnection) : GatewayConnection :=
  if c.finalized ∨ c.state = .closing then c else { clearHeartbeat c with state := .closing }

def finalizeConnection (c : GatewayConnection) : GatewayConnection :=
  if c.finalized then c else { clearHeartbeat c with state := .closed, finalized := true }

def closeConnection (c : GatewayConnection) : GatewayConnection :=
  if c.finalized ∨ c.state = .closing ∨ c.state = .closed then c
  else if c.ws then { clearHeartbeat c with state := .closing }
  else finalizeConnection { clearHeartbeat c with state := .closing }

section
variable (options : GatewayOptions)

def usesAuthenticatedHeartbeat (c : GatewayConnection) : Bool :=
  0 < options.heartbeatIntervalMs && 0 < options.heartbeatTimeoutMs &&
    (c.session.bind (·.identity)).isSome

def scheduleHeartbeat (c : GatewayConnection) : GatewayConnection :=
  { c with heartbeatTimer := usesAuthenticatedHeartbeat options c }

/-- What `onSession` does before it returns or throws. -/
structure Callback where
  closes : Bool
  throws : Bool

/-- The end of the handshake: the connection is ready, and the session is announced. -/
def becomeReady (c : GatewayConnection) (session : BridgeGatewaySession) (now : ℤ)
    (callback : Callback) : GatewayConnection :=
  if c.finalized ∨ c.state ≠ .handshaking ∨ c.ws = false then c
  else
    let ready := { c with session := some session, state := .ready, lastHeartbeatAtMs := now }
    let announced := if callback.closes then closeConnection ready else ready
    if callback.throws then failConnection announced else scheduleHeartbeat options announced

/-- The heartbeat timer fires. -/
def tick (c : GatewayConnection) (now : ℤ) (nonce : UuidV4) (sent : Bool) : GatewayConnection :=
  let fired := { c with heartbeatTimer := false }
  if fired.finalized ∨ fired.state ≠ .ready ∨ fired.ws = false ∨ fired.session = none then fired
  else if options.heartbeatTimeoutMs ≤ (now - fired.lastHeartbeatAtMs : ℤ) then failConnection fired
  else if fired.heartbeatNonce = none ∧ fired.heartbeatValidating = false then
    let pinging := { fired with heartbeatNonce := some nonce }
    if sent then scheduleHeartbeat options pinging else failConnection pinging
  else scheduleHeartbeat options fired

/-- The timer draws a nonce and pings. -/
def Pings (c : GatewayConnection) (now : ℤ) : Prop :=
  ¬ (c.finalized ∨ c.state ≠ .ready ∨ c.ws = false ∨ c.session = none) ∧
    ¬ options.heartbeatTimeoutMs ≤ (now - c.lastHeartbeatAtMs : ℤ) ∧
      c.heartbeatNonce = none ∧ c.heartbeatValidating = false

instance (c : GatewayConnection) (now : ℤ) : Decidable (Pings options c now) :=
  inferInstanceAs (Decidable (_ ∧ _))

end

/-- `decodeHeartbeatPayload`: ill-formed UTF-8 is refused, a leading byte order mark dropped. -/
def decodeHeartbeatPayload (payload : List UInt8) : Option String :=
  (Utf8.fatal payload).map fun text =>
    match text.toList with
    | c :: rest => if c.toNat = 0xFEFF then String.ofList rest else text
    | [] => text

/-- A validation that `handlePong` began, with the nonce of the pong. -/
structure Validation where
  session : BridgeGatewaySession
  nonce : UuidV4

/-- The validation that a pong begins, if it does. -/
def handlePong (c : GatewayConnection) (payload : List UInt8) : Option Validation :=
  match c.session, c.heartbeatNonce with
  | some session, some nonce =>
    if c.finalized ∨ c.state ≠ .ready ∨ session.identity = none ∨ c.heartbeatValidating then none
    else if decodeHeartbeatPayload payload = some nonce.value then some ⟨session, nonce⟩
    else none
  | _, _ => none

/-- The end of a validation. -/
def settleHeartbeat (c : GatewayConnection) (validation : Validation) (valid : Bool) (now : ℤ) :
    GatewayConnection :=
  if valid then
    if c.finalized ∨ c.state ≠ .ready ∨ c.session ≠ some validation.session then c
    else { c with lastHeartbeatAtMs := now, heartbeatValidating := false }
  else failConnection { c with heartbeatValidating := false }

/-! ## Runs -/

/-- The connection with the validations that have not settled, the nonces that were pinged and those
that a pong was accepted for. -/
structure World where
  connection : GatewayConnection
  validations : List Validation
  pinged : List UuidV4
  accepted : List UuidV4

def World.new : World := ⟨.new, [], [], []⟩

inductive Event
  | open
  | ready (session : BridgeGatewaySession) (now : ℤ) (callback : Callback)
  | tick (now : ℤ) (nonce : UuidV4) (sent : Bool)
  | pong (payload : List UInt8)
  /-- The first of the running validations settles. -/
  | settled (valid : Bool) (now : ℤ)
  /-- `failConnection`, called for another reason. -/
  | fail
  /-- `closeConnection`: the session is closed from either side. -/
  | close
  /-- The socket is closed. -/
  | finalize

def World.onTick (options : GatewayOptions) (w : World) (now : ℤ) (nonce : UuidV4) (sent : Bool) :
    World :=
  if w.connection.heartbeatTimer then
    { w with
      connection := Heartbeat.tick options w.connection now nonce sent
      pinged := if Pings options w.connection now then w.pinged ++ [nonce] else w.pinged }
  else w

def World.onPong (w : World) (payload : List UInt8) : World :=
  match handlePong w.connection payload with
  | none => w
  | some validation =>
    { w with
      connection := { w.connection with heartbeatNonce := none, heartbeatValidating := true }
      validations := w.validations ++ [validation]
      accepted := w.accepted ++ [validation.nonce] }

def World.onSettled (w : World) (valid : Bool) (now : ℤ) : World :=
  match w.validations with
  | [] => w
  | validation :: others =>
    { w with
      connection := settleHeartbeat w.connection validation valid now
      validations := others }

def World.step (options : GatewayOptions) (w : World) : Event → World
  | .open => { w with connection := { w.connection with ws := true } }
  | .ready session now callback =>
    { w with connection := becomeReady options w.connection session now callback }
  | .tick now nonce sent => w.onTick options now nonce sent
  | .pong payload => w.onPong payload
  | .settled valid now => w.onSettled valid now
  | .fail => { w with connection := failConnection w.connection }
  | .close => { w with connection := closeConnection w.connection }
  | .finalize => { w with connection := finalizeConnection w.connection }

end Doctmcp.Gateway.Heartbeat
