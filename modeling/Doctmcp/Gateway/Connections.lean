import Doctmcp.Lib.OrderedMap
import Doctmcp.Bridge.ClientTransport
import Doctmcp.Gateway.Heartbeat

/-! # The connections of the bridge gateway

`createBridgeGateway` of `gateway.ts`: any number of bridge connections and the table of their
sessions. A function runs up to its next `await` or to its call of a callback of the consumer; what is
left of it is a call in the heap of calls, and calls go on in any order. What the surroundings decide
stands in the events: the answers of the hooks, whether a native send succeeds, readings of the clock.
Messages are taken as `parseIncomingFrame` leaves them. -/

namespace Doctmcp.Gateway.Connections
open Doctmcp.Lib Doctmcp.Schemas
open Doctmcp.Bridge (JSONRPCMessage BridgeErrorCode BridgeCloseCode CloseReason)
set_option autoImplicit false

/-! ## Messages -/

def BRIDGE_PROTOCOL_VERSION : String := "1"

structure BridgeDeviceAuth where
  deviceId : DeviceId
  credential : String
  deriving DecidableEq

structure BridgeHello where
  bridgeProtocolVersion : String
  sessionId : String
  auth : Option BridgeDeviceAuth
  deriving DecidableEq

/-- What `bridgeMessageSchema` accepts. -/
inductive BridgeMessage
  | hello (hello : BridgeHello)
  | helloAck (bridgeProtocolVersion sessionId : String)
  | mcpMessage (payload : JSONRPCMessage)
  | error (code : BridgeErrorCode) (message : String)
  | close (code : BridgeCloseCode)
  deriving DecidableEq

/-- What `parseIncomingFrame` throws. -/
inductive FrameError
  | MESSAGE_TOO_LARGE
  | SESSION_CLOSED
  deriving DecidableEq

/-! ## Connections -/

structure GatewaySession extends BridgeGatewaySession where
  connection : ℕ
  id : String
  deriving DecidableEq

/-- The callback that `timeout` is armed with. -/
inductive Timeout
  | handshake
  | idle
  deriving DecidableEq

structure GatewayConnection where
  ws : Bool
  session : Option GatewaySession
  state : GatewaySessionState
  closeReason : Option CloseReason
  timeout : Option Timeout
  heartbeatTimer : Bool
  heartbeatNonce : Option UuidV4
  heartbeatValidating : Bool
  lastHeartbeatAtMs : ℤ
  finalized : Bool
  /-- The calls of `onHeartbeat` that have not settled. -/
  validations : List Heartbeat.Validation
  /-- The connection is in the map `connections`. -/
  listed : Bool

def GatewayConnection.new : GatewayConnection where
  ws := false
  session := none
  state := .handshaking
  closeReason := none
  timeout := none
  heartbeatTimer := false
  heartbeatNonce := none
  heartbeatValidating := false
  lastHeartbeatAtMs := 0
  finalized := false
  validations := []
  listed := true

namespace GatewayConnection

/-- The part that the heartbeat is about. -/
def heartbeat (c : GatewayConnection) : Heartbeat.GatewayConnection where
  ws := c.ws
  session := c.session.map (·.toBridgeGatewaySession)
  state := c.state
  heartbeatTimer := c.heartbeatTimer
  heartbeatNonce := c.heartbeatNonce
  heartbeatValidating := c.heartbeatValidating
  lastHeartbeatAtMs := c.lastHeartbeatAtMs
  finalized := c.finalized

/-- `clearConnectionTimeout`, `clearHeartbeatTimer` and the end of what the heartbeat waits for. -/
def clearTimers (c : GatewayConnection) : GatewayConnection :=
  { c with timeout := none, heartbeatTimer := false, heartbeatNonce := none,
           heartbeatValidating := false }

/-- The connection begins to close. -/
def beginClose (c : GatewayConnection) (code : BridgeCloseCode) : GatewayConnection :=
  { c.clearTimers with closeReason := some (.closeCode code), state := .closing }

end GatewayConnection

/-! ## The gateway -/

structure BridgeGatewayOptions where
  heartbeat : Heartbeat.GatewayOptions
  handshakeTimeoutMs : ℚ
  idleTimeoutMs : ℚ
  /-- Which of the optional hooks are set. -/
  authenticateDevice : Bool
  beginSessionReady : Bool
  validateSessionReady : Bool
  onSession : Bool
  allowLegacyUnauthenticated : Bool

/-- What the gateway does to its surroundings, and what it learns from them in a handshake. A guard is
what `beginSessionReady` returns, counted from 0. A callback that is not set stands here as one that
does nothing. -/
inductive Effect
  | enters (connection : ℕ) (state : GatewaySessionState)
  | authenticates (connection : ℕ) (hello : BridgeHello) (identity : Option AuthenticatedDeviceIdentity)
  /-- `beginSessionReady` returns. -/
  | acquires (identity : Option AuthenticatedDeviceIdentity) (guard : Option ℕ)
  | validates (connection : ℕ) (hello : BridgeHello) (identity : AuthenticatedDeviceIdentity)
      (guard : Option ℕ)
  | releases (guard : ℕ)
  | creates (session : GatewaySession) (guard : Option ℕ)
  /-- The native send of `bridge.hello.ack`. -/
  | acks (session : GatewaySession) (guard : Option ℕ)
  | onSession (session : GatewaySession)
  | onmessage (session : GatewaySession) (payload : JSONRPCMessage)
  | onclose (session : GatewaySession) (reason : CloseReason)
  | onSessionClosed (session : GatewaySession) (reason : CloseReason)
  | sends (connection : ℕ) (message : BridgeMessage)
  | pings (connection : ℕ) (nonce : UuidV4)
  | closes (connection : ℕ) (code : BridgeCloseCode)
  deriving DecidableEq

/-- What is left of a function that waits. -/
inductive Call
  /-- `handleMessage` at the await of `authenticate`. -/
  | authenticating (connection : ℕ) (hello : BridgeHello)
  /-- `handleMessage` at the await of `validateSessionReady`. -/
  | validating (connection : ℕ) (hello : BridgeHello) (identity : AuthenticatedDeviceIdentity)
      (guard : Option ℕ)
  /-- `handleMessage` while `onSession` runs. -/
  | binding (session : GatewaySession) (guard : Option ℕ)
  /-- `handleMessage` at the await of `failConnection`, in front of its `finally`. -/
  | unwinding (guard : Option ℕ)
  /-- `handleMessage` while `onmessage` runs. -/
  | forwarding (connection : ℕ)
  /-- `finalizeConnection` while `onclose` runs. -/
  | notifying (session : GatewaySession) (reason : CloseReason)
  /-- `sendFrame` after the native send. -/
  | sending (connection : ℕ)
  /-- `stop` with the connections that are still to be finalized. -/
  | stopping (connections : List ℕ)
  | returned

/-- What `beginSessionReady` does. -/
inductive ReadyGuard
  | throws
  | none
  | lease

/-- What the surroundings make of the calls of one step. -/
structure Readings where
  now : ℤ
  nonce : UuidV4
  guard : ReadyGuard
  /-- The native send of `bridge.hello.ack` succeeds. -/
  acked : Bool
  /-- The native ping succeeds. -/
  pinged : Bool
  /-- The other native sends succeed. -/
  sent : Bool

/-- How what a call waits for comes to an end. -/
inductive Answer
  /-- `authenticateDevice` throws, with the message of an `Error`, or resolves; `none` is a value that
  `authenticatedDeviceIdentitySchema` rejects. -/
  | identity (result : Except (Option String) (Option AuthenticatedDeviceIdentity))
  | validation (valid : Bool)
  /-- A callback returns, or throws. -/
  | callback (returns : Bool)
  | settled

structure World where
  connections : Heap GatewayConnection
  /-- The map `sessions`. -/
  sessions : OrderedMap String GatewaySession
  /-- How many sessions were created. -/
  objects : ℕ
  calls : Heap Call
  /-- How many guards were acquired. -/
  guards : ℕ
  stopped : Bool
  /-- What has happened, in order. -/
  log : List Effect

def World.new : World := ⟨.empty, .empty, 0, .empty, 0, false, []⟩

namespace World

def emit (w : World) (effects : List Effect) : World := { w with log := w.log ++ effects }

def modify (w : World) (ref : ℕ) (f : GatewayConnection → GatewayConnection) : World :=
  { w with connections := w.connections.modify ref f }

/-- A function gets to where it waits. -/
def push (w : World) (call : Call) : World := { w with calls := w.calls.alloc call }

def setCall (w : World) (i : ℕ) (call : Call) : World :=
  { w with calls := w.calls.modify i fun _ => call }

/-- `sessions.delete(connection.session.id)`, if there is a session. -/
def forget (w : World) (session : Option GatewaySession) : World :=
  match session with
  | none => w
  | some session => { w with sessions := w.sessions.delete session.id }

/-- `releaseReadyGuard?.()` -/
def release (w : World) (guard : Option ℕ) : World :=
  match guard with
  | none => w
  | some guard => w.emit [.releases guard]

variable (w : World)

@[simp] theorem connections_emit (es : List Effect) : (w.emit es).connections = w.connections := rfl
@[simp] theorem calls_emit (es : List Effect) : (w.emit es).calls = w.calls := rfl
@[simp] theorem sessions_emit (es : List Effect) : (w.emit es).sessions = w.sessions := rfl
@[simp] theorem guards_emit (es : List Effect) : (w.emit es).guards = w.guards := rfl
@[simp] theorem objects_emit (es : List Effect) : (w.emit es).objects = w.objects := rfl
@[simp] theorem log_emit (es : List Effect) : (w.emit es).log = w.log ++ es := rfl

section
variable (ref : ℕ) (f : GatewayConnection → GatewayConnection)

@[simp] theorem connections_modify : (w.modify ref f).connections = w.connections.modify ref f := rfl
@[simp] theorem calls_modify : (w.modify ref f).calls = w.calls := rfl
@[simp] theorem sessions_modify : (w.modify ref f).sessions = w.sessions := rfl
@[simp] theorem guards_modify : (w.modify ref f).guards = w.guards := rfl
@[simp] theorem objects_modify : (w.modify ref f).objects = w.objects := rfl
@[simp] theorem log_modify : (w.modify ref f).log = w.log := rfl

end

@[simp] theorem connections_push (call : Call) : (w.push call).connections = w.connections := rfl
@[simp] theorem calls_push (call : Call) : (w.push call).calls = w.calls.alloc call := rfl
@[simp] theorem sessions_push (call : Call) : (w.push call).sessions = w.sessions := rfl
@[simp] theorem guards_push (call : Call) : (w.push call).guards = w.guards := rfl
@[simp] theorem objects_push (call : Call) : (w.push call).objects = w.objects := rfl
@[simp] theorem log_push (call : Call) : (w.push call).log = w.log := rfl

section
variable (i : ℕ) (call : Call)

@[simp] theorem connections_setCall : (w.setCall i call).connections = w.connections := rfl
@[simp] theorem calls_setCall : (w.setCall i call).calls = w.calls.modify i fun _ => call := rfl
@[simp] theorem sessions_setCall : (w.setCall i call).sessions = w.sessions := rfl
@[simp] theorem guards_setCall : (w.setCall i call).guards = w.guards := rfl
@[simp] theorem objects_setCall : (w.setCall i call).objects = w.objects := rfl
@[simp] theorem log_setCall : (w.setCall i call).log = w.log := rfl

end

section
variable (session : Option GatewaySession)

@[simp] theorem connections_forget : (w.forget session).connections = w.connections := by
  cases session <;> rfl
@[simp] theorem calls_forget : (w.forget session).calls = w.calls := by cases session <;> rfl
@[simp] theorem guards_forget : (w.forget session).guards = w.guards := by cases session <;> rfl
@[simp] theorem objects_forget : (w.forget session).objects = w.objects := by cases session <;> rfl
@[simp] theorem log_forget : (w.forget session).log = w.log := by cases session <;> rfl

end

section
variable (guard : Option ℕ)

@[simp] theorem connections_release : (w.release guard).connections = w.connections := by
  cases guard <;> rfl
@[simp] theorem calls_release : (w.release guard).calls = w.calls := by cases guard <;> rfl
@[simp] theorem sessions_release : (w.release guard).sessions = w.sessions := by cases guard <;> rfl
@[simp] theorem guards_release : (w.release guard).guards = w.guards := by cases guard <;> rfl
@[simp] theorem objects_release : (w.release guard).objects = w.objects := by cases guard <;> rfl
theorem log_release : (w.release guard).log = w.log ++ (guard.map Effect.releases).toList := by
  cases guard with
  | none => exact (List.append_nil _).symm
  | some guard => rfl

end

end World

section
variable (options : BridgeGatewayOptions)

/-! ## Timers -/

/-- `setTimeoutFor` -/
def setTimeoutFor (timeoutMs : ℚ) (timeout : Timeout) (c : GatewayConnection) : GatewayConnection :=
  { c with timeout := if 0 < timeoutMs then some timeout else none }

def armReadyIdleTimeout (c : GatewayConnection) : GatewayConnection :=
  if Heartbeat.usesAuthenticatedHeartbeat options.heartbeat c.heartbeat then { c with timeout := none }
  else setTimeoutFor options.idleTimeoutMs .idle c

def scheduleHeartbeat (c : GatewayConnection) : GatewayConnection :=
  { c with heartbeatTimer := Heartbeat.usesAuthenticatedHeartbeat options.heartbeat c.heartbeat }

namespace World

/-! ## Ways to close a connection -/

def finalizeConnection (w : World) (ref : ℕ) (reason : CloseReason) : World :=
  match w.connections.get? ref with
  | none => w
  | some c =>
    if c.finalized then w
    else
      let w := (w.modify ref fun c => { c.clearTimers with state := .closed, finalized := true }).emit
        [.enters ref .closed]
      match c.session with
      | none => w
      | some session => (w.emit [.onclose session reason]).push (.notifying session reason)

def closeConnection (w : World) (ref : ℕ) (code : BridgeCloseCode) (announce : Bool) : World :=
  match w.connections.get? ref with
  | none => w
  | some c =>
    if c.finalized ∨ c.state = .closing ∨ c.state = .closed then w
    else
      let w := (w.modify ref (·.beginClose code)).emit [.enters ref .closing]
      if c.ws then
        w.emit ((if announce then [.sends ref (.close code)] else []) ++ [.closes ref code])
      else w.finalizeConnection ref (.closeCode code)

/-- The close frame is tried only after the error frame was sent. -/
def failConnection (w : World) (ref : ℕ) (errorCode : BridgeErrorCode) (closeCode : BridgeCloseCode)
    (message : String) (sent : Bool) : World :=
  match w.connections.get? ref with
  | none => w
  | some c =>
    if c.finalized ∨ c.state = .closing then w
    else
      let w := (w.modify ref (·.beginClose closeCode)).emit [.enters ref .closing]
      if c.ws then
        w.emit (.sends ref (.error errorCode message) ::
          (if sent then [.sends ref (.close closeCode)] else []) ++ [.closes ref closeCode])
      else w

/-- The connection leaves the two maps and is finalized. -/
def unlist (w : World) (ref : ℕ) (fallback : CloseReason) : World :=
  match w.connections.get? ref with
  | none => w
  | some c =>
    ((w.forget c.session).modify ref fun c => { c with listed := false }).finalizeConnection ref
      (c.closeReason.getD fallback)

/-! ## Sending -/

/-- `sendFrame`; `none` is a message that `serializeFrame` rejects. -/
def sendFrame (w : World) (ref : ℕ) (message : Option BridgeMessage) (sent : Bool) : World :=
  match w.connections.get? ref with
  | none => w
  | some c =>
    if c.finalized ∨ c.state ≠ .ready ∨ c.ws = false then w
    else match message with
    | none => w
    | some message =>
      let w := w.emit [.sends ref message]
      if sent then w.push (.sending ref)
      else (w.forget c.session).closeConnection ref .NORMAL true

end World

/-! ## The handshake -/

def authenticate (hello : BridgeHello)
    (result : Except (Option String) (Option AuthenticatedDeviceIdentity)) :
    Except BridgeErrorCode (Option AuthenticatedDeviceIdentity) :=
  match hello.auth with
  | none => if options.allowLegacyUnauthenticated then .ok none else .error .AUTH_REQUIRED
  | some auth =>
    if options.authenticateDevice = false then .error .AUTH_FAILED
    else match result with
    | .error message =>
      .error (if message = some "AUTH_REQUIRED" then .AUTH_REQUIRED else .AUTH_FAILED)
    | .ok none => .error .AUTH_FAILED
    | .ok (some identity) =>
      if identity.deviceId ≠ auth.deviceId then .error .AUTH_FAILED else .ok (some identity)

namespace World

/-- `handleMessage` after `onSession` has returned. -/
def bound (w : World) (i : ℕ) (session : GatewaySession) (guard : Option ℕ) : World :=
  ((w.modify session.connection (scheduleHeartbeat options)).setCall i .returned).release guard

/-- `handleMessage` after the ack or `onSession` has failed. -/
def unbound (w : World) (session : GatewaySession) (sent : Bool) : World :=
  (w.forget (some session)).failConnection session.connection .SESSION_CLOSED .PROTOCOL_ERROR
    "Bridge session binding failed" sent

/-- The session is created, and the connection is ready. -/
def createSession (w : World) (session : GatewaySession) (guard : Option ℕ) (now : ℤ) : World :=
  (({ w with objects := w.objects + 1, sessions := w.sessions.set session.id session }).modify
    session.connection fun c => armReadyIdleTimeout options
      { c with session := some session, timeout := none, state := .ready, lastHeartbeatAtMs := now }).emit
    [.creates session guard, .enters session.connection .ready]

/-- `handleMessage` from the check after `validateSessionReady`. The call is inside its `try`: where it
awaits `failConnection`, its `finally` is still to come. -/
def becomeReady (w : World) (i ref : ℕ) (hello : BridgeHello)
    (identity : Option AuthenticatedDeviceIdentity) (guard : Option ℕ) (r : Readings) : World :=
  match w.connections.get? ref with
  | none => w
  | some c =>
    if c.finalized ∨ c.state ≠ .handshaking then (w.setCall i .returned).release guard
    else if w.sessions.has hello.sessionId then
      w.failConnection ref .UNEXPECTED_MESSAGE .PROTOCOL_ERROR "Bridge session is already active" r.sent
    else
      let session : GatewaySession :=
        { object := w.objects, identity, connection := ref, id := hello.sessionId }
      let w := (w.createSession options session guard r.now).emit [.acks session guard]
      if r.acked = false then w.unbound session r.sent
      else if options.onSession then (w.setCall i (.binding session guard)).emit [.onSession session]
      else w.bound options i session guard

/-- `handleMessage` from the acquisition of the guard. -/
def validate (w : World) (i ref : ℕ) (hello : BridgeHello)
    (identity : Option AuthenticatedDeviceIdentity) (guard : Option ℕ) (r : Readings) : World :=
  let w := w.setCall i (.unwinding guard)
  match identity with
  | none => w.becomeReady options i ref hello none guard r
  | some identity =>
    if hello.auth.isSome ∧ options.validateSessionReady then
      w.setCall i (.validating ref hello identity guard)
    else w.becomeReady options i ref hello (some identity) guard r

/-- `handleMessage` from the answer of `authenticate`. -/
def authenticated (w : World) (i ref : ℕ) (hello : BridgeHello)
    (result : Except (Option String) (Option AuthenticatedDeviceIdentity)) (r : Readings) : World :=
  match authenticate options hello result with
  | .error code =>
    (w.setCall i .returned).failConnection ref code .PROTOCOL_ERROR
      (if code = .AUTH_REQUIRED then "Device authentication is required"
        else "Device authentication failed") r.sent
  | .ok identity =>
    match w.connections.get? ref with
    | none => w
    | some c =>
      let w := w.emit [.authenticates ref hello identity]
      if c.finalized ∨ c.state ≠ .handshaking then w.setCall i .returned
      else if w.sessions.has hello.sessionId then
        (w.setCall i .returned).failConnection ref .UNEXPECTED_MESSAGE .PROTOCOL_ERROR
          "Bridge session is already active" r.sent
      else if options.beginSessionReady = false then w.validate options i ref hello identity none r
      else match r.guard with
      | .throws =>
        (w.setCall i .returned).failConnection ref .AUTH_FAILED .PROTOCOL_ERROR
          "Device authentication failed" r.sent
      | .none => (w.emit [.acquires identity none]).validate options i ref hello identity none r
      | .lease =>
        ({ w with guards := w.guards + 1 }.emit [.acquires identity (some w.guards)]).validate options i
          ref hello identity (some w.guards) r

/-- `handleMessage` from the answer of `validateSessionReady`. -/
def validated (w : World) (i ref : ℕ) (hello : BridgeHello) (identity : AuthenticatedDeviceIdentity)
    (guard : Option ℕ) (valid : Bool) (r : Readings) : World :=
  let w := w.setCall i (.unwinding guard)
  if valid then
    (w.emit [.validates ref hello identity guard]).becomeReady options i ref hello (some identity)
      guard r
  else
    w.failConnection ref .AUTH_FAILED .PROTOCOL_ERROR "Device authentication failed" r.sent

/-- `handleMessage` up to its first await. -/
def handleMessage (w : World) (ref : ℕ) (frame : Except FrameError BridgeMessage) (sent : Bool) :
    World :=
  match w.connections.get? ref with
  | none => w
  | some c =>
    if c.finalized ∨ c.state = .closing then w
    else match frame with
    | .error error =>
      w.failConnection ref
        (if error = .MESSAGE_TOO_LARGE then .MESSAGE_TOO_LARGE else .INVALID_MESSAGE) .PROTOCOL_ERROR
        "Invalid bridge message" sent
    | .ok message =>
      if c.state = .handshaking then
        match message with
        | .hello hello =>
          if hello.bridgeProtocolVersion ≠ BRIDGE_PROTOCOL_VERSION then
            w.failConnection ref .UNSUPPORTED_VERSION .PROTOCOL_ERROR
              "Unsupported bridge protocol version" sent
          else if w.sessions.has hello.sessionId then
            w.failConnection ref .UNEXPECTED_MESSAGE .PROTOCOL_ERROR
              "Bridge session is already active" sent
          else w.push (.authenticating ref hello)
        | _ =>
          w.failConnection ref .HANDSHAKE_REQUIRED .PROTOCOL_ERROR
            "Handshake is required before this message" sent
      else match message with
      | .close code => w.closeConnection ref code false
      | .mcpMessage payload =>
        let w := w.modify ref (armReadyIdleTimeout options)
        match c.session with
        | none => w
        | some session => (w.emit [.onmessage session payload]).push (.forwarding ref)
      | _ =>
        w.failConnection ref .UNEXPECTED_MESSAGE .PROTOCOL_ERROR "Unexpected bridge message" sent

/-! ## The heartbeat -/

/-- The heartbeat timer fires. -/
def onHeartbeatTimer (w : World) (ref : ℕ) (r : Readings) : World :=
  match w.connections.get? ref with
  | none => w
  | some c =>
    if c.heartbeatTimer = false then w
    else
      let w := w.modify ref fun c => { c with heartbeatTimer := false }
      if c.finalized ∨ c.state ≠ .ready ∨ c.ws = false ∨ c.session = none then w
      else if options.heartbeat.heartbeatTimeoutMs ≤ (r.now - c.lastHeartbeatAtMs : ℤ) then
        w.failConnection ref .TIMEOUT .TIMEOUT "Device heartbeat timed out" r.sent
      else if c.heartbeatNonce = none ∧ c.heartbeatValidating = false then
        let w := (w.modify ref fun c => { c with heartbeatNonce := some r.nonce }).emit
          [.pings ref r.nonce]
        if r.pinged then w.modify ref (scheduleHeartbeat options)
        else w.failConnection ref .SESSION_CLOSED .NORMAL "Device heartbeat send failed" r.sent
      else w.modify ref (scheduleHeartbeat options)

def handlePong (w : World) (ref : ℕ) (payload : List UInt8) : World :=
  match w.connections.get? ref with
  | none => w
  | some c =>
    match Heartbeat.handlePong c.heartbeat payload with
    | some validation =>
      w.modify ref fun c =>
        { c with
          heartbeatNonce := none
          heartbeatValidating := true
          validations := c.validations ++ [validation] }
    | none => w

/-- A call of `onHeartbeat` settles. -/
def heartbeatSettled (w : World) (ref : ℕ) (valid : Bool) (r : Readings) : World :=
  match w.connections.get? ref with
  | none => w
  | some c =>
    match c.validations with
    | [] => w
    | validation :: others =>
      let w := w.modify ref fun c => { c with validations := others }
      if valid then
        if c.finalized ∨ c.state ≠ .ready ∨
            c.session.map (·.toBridgeGatewaySession) ≠ some validation.session then w
        else
          w.modify ref fun c => { c with lastHeartbeatAtMs := r.now, heartbeatValidating := false }
      else
        (w.modify ref fun c => { c with heartbeatValidating := false }).failConnection ref
          .AUTH_FAILED .PROTOCOL_ERROR "Device session liveness validation failed" r.sent

/-! ## The server -/

/-- The connections of the map, in the order in which they were made. -/
def listed (w : World) : List ℕ :=
  (List.range w.connections.next).filter fun ref => (w.connections.get? ref).any (·.listed)

/-- The websocket handler `open`. -/
def onOpen (w : World) (ref : ℕ) : World :=
  match w.connections.get? ref with
  | none => w
  | some c =>
    if c.listed = false ∨ c.ws then w
    else
      w.modify ref fun c => setTimeoutFor options.handshakeTimeoutMs .handshake { c with ws := true }

/-- The handshake timer or the idle timer fires. -/
def onTimeout (w : World) (ref : ℕ) (sent : Bool) : World :=
  match w.connections.get? ref with
  | none => w
  | some c =>
    match c.timeout with
    | none => w
    | some timeout =>
      (w.modify ref fun c => { c with timeout := none }).failConnection ref .TIMEOUT .TIMEOUT
        (match timeout with
          | .handshake => "Bridge handshake timed out"
          | .idle => "Bridge session timed out") sent

/-- `stop` up to its first await. -/
def stop (w : World) : World :=
  if w.stopped then w
  else
    (w.listed.foldl (fun (w : World) ref => w.closeConnection ref .SERVER_SHUTDOWN true)
      { w with stopped := true }).push (.stopping w.listed)

/-- A call goes on. -/
def resume (w : World) (i : ℕ) (answer : Answer) (r : Readings) : World :=
  match w.calls.get? i, answer with
  | some (.authenticating ref hello), .identity result => w.authenticated options i ref hello result r
  | some (.validating ref hello identity guard), .validation valid =>
    w.validated options i ref hello identity guard valid r
  | some (.binding session guard), .callback returns =>
    if returns then w.bound options i session guard
    else (w.setCall i (.unwinding guard)).unbound session r.sent
  | some (.unwinding guard), .settled => (w.setCall i .returned).release guard
  | some (.forwarding ref), .callback returns =>
    let w := w.setCall i .returned
    if returns then w
    else
      w.failConnection ref .SESSION_CLOSED .PROTOCOL_ERROR "Bridge session forwarding failed" r.sent
  | some (.notifying session reason), .callback _ =>
    (w.setCall i .returned).emit [.onSessionClosed session reason]
  | some (.sending ref), .settled => (w.setCall i .returned).modify ref (armReadyIdleTimeout options)
  | some (.stopping []), .settled => w.setCall i .returned
  | some (.stopping (ref :: rest)), .settled =>
    (w.setCall i (.stopping rest)).unlist ref (.closeCode .SERVER_SHUTDOWN)
  | _, _ => w

end World

inductive Event
  /-- A request of the bridge path, which is upgraded or not. -/
  | upgrade (succeeds : Bool)
  | opened (connection : ℕ)
  /-- A frame arrives; the connection of its socket is looked up in the map. -/
  | message (connection : ℕ) (frame : Except FrameError BridgeMessage)
  | pong (connection : ℕ) (payload : List UInt8)
  | closed (connection : ℕ)
  | timeout (connection : ℕ)
  | heartbeat (connection : ℕ)
  | heartbeatSettled (connection : ℕ) (valid : Bool)
  /-- `session.send` and `session.close` of the session of a connection. -/
  | send (connection : ℕ) (message : Option BridgeMessage)
  | close (connection : ℕ) (code : BridgeCloseCode)
  | resume (call : ℕ) (answer : Answer)
  | stop

/-- The connection is in the map `connections` and its socket is open. -/
def World.Open (w : World) (ref : ℕ) : Prop :=
  ∃ c, w.connections.get? ref = some c ∧ c.listed = true ∧ c.ws = true

instance (w : World) (ref : ℕ) : Decidable (w.Open ref) :=
  match h : w.connections.get? ref with
  | none => .isFalse (by rintro ⟨c, hc, -⟩; rw [h] at hc; cases hc)
  | some c =>
    decidable_of_iff (c.listed = true ∧ c.ws = true)
      ⟨fun hc => ⟨c, h, hc⟩, fun ⟨c', hc', hboth⟩ => by
        rw [h] at hc'; cases hc'; exact hboth⟩

def World.step (w : World) (event : Event × Readings) : World :=
  let r := event.2
  match event.1 with
  | .upgrade succeeds =>
    { w with connections := w.connections.alloc { GatewayConnection.new with listed := succeeds } }
  | .opened ref => w.onOpen options ref
  | .message ref frame => if w.Open ref then w.handleMessage options ref frame r.sent else w
  | .pong ref payload => if w.Open ref then w.handlePong ref payload else w
  | .closed ref => if w.Open ref then w.unlist ref .REMOTE_CLOSE else w
  | .timeout ref => w.onTimeout ref r.sent
  | .heartbeat ref => w.onHeartbeatTimer options ref r
  | .heartbeatSettled ref valid => w.heartbeatSettled ref valid r
  | .send ref message => w.sendFrame ref message r.sent
  | .close ref code =>
    match (w.connections.get? ref).bind (·.session) with
    | none => w
    | some _ => w.closeConnection ref code true
  | .resume i answer => w.resume options i answer r
  | .stop => w.stop

end

end Doctmcp.Gateway.Connections
