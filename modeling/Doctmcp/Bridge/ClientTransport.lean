import Doctmcp.Lib.Heap
import Doctmcp.Lib.Runs
import Doctmcp.Gateway.Session
import Doctmcp.Bridge.Protocol

/-! # The transport of the MCP client

`BridgeClientTransport` of `apps/server`: any number of transports over one gateway session. A
function runs up to its next `await`; where it calls a callback of the consumer or closes the
session, other code may run before it goes on, so what is left of it waits on a stack of frames.
Microtasks run only when the stack is empty. -/

namespace Doctmcp.Bridge
open Doctmcp.Lib Doctmcp.Gateway
set_option autoImplicit false

inductive BridgeClientTransportErrorCode
  | bridge (code : BridgeErrorCode)
  | INVALID_STATE
  deriving DecidableEq

structure BridgeClientTransportError where
  code : BridgeClientTransportErrorCode
  message : String
  deriving DecidableEq

/-- A thrown value. -/
inductive Thrown
  | BridgeClientTransportError (error : BridgeClientTransportError)
  | BridgeGatewayError (code : BridgeErrorCode) (message : String)
  | error (message : String)
  | other

def normalizeError (error : Thrown) (fallback : String) : BridgeClientTransportError :=
  match error with
  | .BridgeClientTransportError error => error
  | .BridgeGatewayError code message => ⟨.bridge code, message⟩
  | .error message => ⟨.bridge .SESSION_CLOSED, if message ≠ "" then message else fallback⟩
  | .other => ⟨.bridge .SESSION_CLOSED, fallback⟩

def closedError : BridgeClientTransportError :=
  ⟨.bridge .SESSION_CLOSED, "Bridge client transport is closed"⟩

/-- The message and its size in bytes. -/
def serializeMcpMessage (message : JSONRPCMessage) :
    Except BridgeClientTransportError (JSONRPCMessage × ℕ) :=
  if bridgeMessageSchema (.mcpMessage message) = false then
    .error ⟨.bridge .INVALID_MESSAGE, "Cannot send an invalid MCP bridge message"⟩
  else match message.json with
  | none => .error ⟨.bridge .INVALID_MESSAGE, "MCP bridge message is not JSON serializable"⟩
  | some text =>
    if byteLength text > BRIDGE_MAX_MESSAGE_BYTES then
      .error ⟨.bridge .MESSAGE_TOO_LARGE, "Bridge message exceeds the maximum size"⟩
    else .ok (message, byteLength text)

/-! ## The session -/

/-- A callback of the session: `handleSessionMessage` or `handleSessionClose` of a transport, or a
function of other code. -/
inductive SessionCallback
  | transport (ref : ℕ)
  | other
  deriving DecidableEq

/-- The gateway session as its transports see it. -/
structure SessionObject where
  state : GatewaySessionState
  onmessage : Option SessionCallback
  onclose : Option SessionCallback
  deriving DecidableEq

/-- `closeConnection`: a session that closes is not closed again. -/
def SessionObject.close (session : SessionObject) : SessionObject :=
  if session.state = .closing ∨ session.state = .closed then session
  else { session with state := .closing }

/-- The reason that `onclose` gets. -/
inductive CloseReason
  | closeCode (code : BridgeCloseCode)
  | REMOTE_CLOSE
  deriving DecidableEq

def CloseReason.name : CloseReason → String
  | .closeCode code => code.name
  | .REMOTE_CLOSE => "REMOTE_CLOSE"

/-! ## The transport -/

/-- What a transport has done to its surroundings. -/
inductive Effect
  | startResolved
  | startRejected (error : BridgeClientTransportError)
  | sendRejected (error : BridgeClientTransportError)
  | sessionClose (code : BridgeCloseCode)
  | onmessage (payload : JSONRPCMessage)
  | onerror (error : BridgeClientTransportError)
  | onclose
  deriving DecidableEq

/-- `queue` and `queuedBytes` are those of the outbox, whose promises are those of `send`; what was
handed over was given to `session.send`. -/
structure BridgeClientTransport where
  state : BridgeTransportState
  outbox : Outbox JSONRPCMessage (Except BridgeClientTransportError Unit)
  drainScheduled : Bool
  draining : Bool
  /-- `drainQueue` awaits the sending of this message. -/
  sending : Option (QueuedMessage JSONRPCMessage)
  callbackClosed : Bool
  errorReported : Bool
  intentionalClose : Bool
  /-- The messages on `incomingChain` that were not handled yet. -/
  incomingChain : List BridgeMessage
  /-- What the last handler on `incomingChain` threw, until it is caught. -/
  incomingThrown : Option Thrown
  /-- `close` awaits the closing of the session. -/
  closeAwaited : Bool
  /-- Newest first. -/
  effects : List Effect

def BridgeClientTransport.new : BridgeClientTransport where
  state := .idle
  outbox := .empty
  drainScheduled := false
  draining := false
  sending := none
  callbackClosed := false
  errorReported := false
  intentionalClose := false
  incomingChain := []
  incomingThrown := none
  closeAwaited := false
  effects := []

/-- What is left of a running function. -/
inductive Frame
  /-- `void this.session.close("PROTOCOL_ERROR")`, in `fail`. -/
  | closeSession
  | finalizeClose
  /-- The `finally` of `drainQueue`. -/
  | drained
  deriving DecidableEq

/-- A transport while its code runs: the session, the transport, and the frames of the function that
does not finish, innermost first. -/
structure Running where
  session : SessionObject
  self : BridgeClientTransport
  frames : List Frame

namespace BridgeClientTransport

def emit (t : BridgeClientTransport) (effect : Effect) : BridgeClientTransport :=
  { t with effects := effect :: t.effects }

def rejectQueued (error : BridgeClientTransportError) (t : BridgeClientTransport) :
    BridgeClientTransport :=
  { t with outbox := t.outbox.rejectAll (.error error) }

def reportError (error : BridgeClientTransportError) (t : BridgeClientTransport) :
    BridgeClientTransport :=
  if t.errorReported = true then t else { t with errorReported := true }.emit (.onerror error)

/-- `onclose`, once. -/
def notifyClosed (t : BridgeClientTransport) : BridgeClientTransport :=
  if t.callbackClosed = true then t else { t with callbackClosed := true }.emit .onclose

end BridgeClientTransport

namespace Running
open BridgeClientTransport

def detachSessionCallbacks (ref : ℕ) (session : SessionObject) : SessionObject where
  state := session.state
  onmessage := if session.onmessage = some (.transport ref) then none else session.onmessage
  onclose := if session.onclose = some (.transport ref) then none else session.onclose

def finalizeClose (ref : ℕ) (r : Running) : Running :=
  if r.self.state = .closed then r
  else { r with
    session := detachSessionCallbacks ref r.session
    self := { rejectQueued closedError r.self with state := .closed }.notifyClosed }

/-- Up to the callback `onerror`. -/
def fail (error : BridgeClientTransportError) (r : Running) : Running :=
  if r.self.state = .closed ∨ r.self.state = .closing then r
  else { r with
    self := reportError error (rejectQueued error { r.self with state := .failed })
    frames := .closeSession :: .finalizeClose :: r.frames }

def start (ref : ℕ) (r : Running) : Running :=
  if r.self.state ≠ .idle then
    { r with self := r.self.emit (.startRejected
      ⟨.INVALID_STATE, "Bridge client transport can only be started once"⟩) }
  else if r.session.state ≠ .ready then
    { r with self := { r.self with state := .failed }.emit (.startRejected
      ⟨.bridge .SESSION_CLOSED, "Bridge gateway session is not ready"⟩) }
  else if r.session.onmessage.isSome = true ∨ r.session.onclose.isSome = true then
    { r with self := { r.self with state := .failed }.emit (.startRejected
      ⟨.INVALID_STATE, "Bridge gateway session is already bound"⟩) }
  else
    let session := { r.session with
      onmessage := some (.transport ref), onclose := some (.transport ref) }
    -- The two assignments run no other code, so the session is still ready.
    if session.state ≠ .ready then
      { r with
        session := detachSessionCallbacks ref session
        self := { r.self with state := .failed }.emit (.startRejected
          ⟨.bridge .SESSION_CLOSED, "Bridge gateway session closed while binding"⟩) }
    else { r with session := session, self := { r.self with state := .ready }.emit .startResolved }

def scheduleDrain (t : BridgeClientTransport) : BridgeClientTransport :=
  if t.drainScheduled = true ∨ t.draining = true then t else { t with drainScheduled := true }

def send (message : JSONRPCMessage) (r : Running) : Running :=
  let t := r.self
  if t.state ≠ .ready then
    { r with self := t.emit (.sendRejected
      ⟨.bridge (if t.state = .idle ∨ t.state = .connecting then .HANDSHAKE_REQUIRED
        else .SESSION_CLOSED), "Bridge client transport is not ready"⟩) }
  else match serializeMcpMessage message with
  | .error error => { r with self := t.emit (.sendRejected error) }
  | .ok (message, bytes) =>
    if t.outbox.queue.length ≥ BRIDGE_MAX_QUEUED_MESSAGES ∨
        t.outbox.queuedBytes + bytes > BRIDGE_MAX_QUEUED_BYTES then
      { r with self := t.emit (.sendRejected
        ⟨.bridge .BACKPRESSURE, "Bridge client transport queue is full"⟩) }
    else { r with self := scheduleDrain { t with outbox := t.outbox.push message bytes } }

/-- The loop of `drainQueue` up to its `await`, or to its end. -/
def drainLoop (r : Running) : Running :=
  let t := r.self
  if t.state ≠ .ready then { r with self := { t with draining := false } }
  else match t.outbox.queue.head? with
  | none => { r with self := { t with draining := false } }
  | some item => { r with self := { t with outbox := t.outbox.hand item, sending := some item } }

def drainQueue (r : Running) : Running :=
  if r.self.draining = true then r
  else drainLoop { r with self := { r.self with draining := true } }

/-- The microtask of `scheduleDrain`. -/
def drainMicrotask (r : Running) : Running :=
  if r.self.drainScheduled = true then
    drainQueue { r with self := { r.self with drainScheduled := false } }
  else r

/-- `drainQueue` goes on after `session.send` has resolved or rejected. -/
def sendSettled (result : Except Thrown Unit) (r : Running) : Running :=
  match r.self.sending with
  | none => r
  | some item =>
    let t := { r.self with sending := none }
    match result with
    | .ok () => drainLoop { r with self := { t with outbox := t.outbox.land item (.ok ()) } }
    | .error error =>
      let sendError := normalizeError error "Failed to send MCP message"
      fail sendError { r with
        self := { t with outbox := t.outbox.land item (.error sendError) }
        frames := .drained :: r.frames }

def handleSessionMessage (message : BridgeMessage) (r : Running) : Running :=
  { r with self := { r.self with incomingChain := r.self.incomingChain ++ [message] } }

def handleSessionClose (ref : ℕ) (reason : CloseReason) (r : Running) : Running :=
  if r.self.state = .closed then r
  else if r.self.intentionalClose = false ∧ reason ≠ .closeCode .NORMAL then
    { r with
      self := reportError
        ⟨.bridge .SESSION_CLOSED, "Bridge gateway session closed: " ++ reason.name⟩ r.self
      frames := .finalizeClose :: r.frames }
  else finalizeClose ref r

/-- `handleIncomingMessage`, with what the consumer's `onmessage` throws. -/
def handleIncomingMessage (message : BridgeMessage) (callback : Except Thrown Unit)
    (t : BridgeClientTransport) : Except Thrown Unit × BridgeClientTransport :=
  if t.state ≠ .ready then (.ok (), t)
  else if bridgeMessageSchema message = false then
    (.error (.BridgeClientTransportError
      ⟨.bridge .INVALID_MESSAGE, "Bridge gateway delivered an invalid message"⟩), t)
  else match message with
  | .mcpMessage payload => match payload.json with
    | none => (.error .other, t)
    | some text =>
      if byteLength text > BRIDGE_MAX_MESSAGE_BYTES then
        (.error (.BridgeClientTransportError
          ⟨.bridge .MESSAGE_TOO_LARGE, "Bridge message exceeds the maximum size"⟩), t)
      else match callback with
        | .ok () => (.ok (), t.emit (.onmessage payload))
        | .error error => (.error (.BridgeClientTransportError
            (normalizeError error "MCP client callback failed")), t.emit (.onmessage payload))
  | _ => (.error (.BridgeClientTransportError
      ⟨.bridge .UNEXPECTED_MESSAGE, "Bridge client transport only accepts MCP messages"⟩), t)

/-- The next `then` of `incomingChain`, which waits for the `catch` before it. -/
def receive (callback : Except Thrown Unit) (r : Running) : Running :=
  match r.self.incomingThrown, r.self.incomingChain with
  | none, message :: rest =>
    match handleIncomingMessage message callback { r.self with incomingChain := rest } with
    | (.ok (), t) => { r with self := t }
    | (.error error, t) => { r with self := { t with incomingThrown := some error } }
  | _, _ => r

/-- The `catch` of `incomingChain`. -/
def receiveFailed (r : Running) : Running :=
  match r.self.incomingThrown with
  | none => r
  | some error => fail (normalizeError error "Failed to process bridge message")
      { r with self := { r.self with incomingThrown := none } }

def close (ref : ℕ) (r : Running) : Running :=
  if r.self.state = .closed ∨ r.self.state = .closing then r
  else
    let t := rejectQueued closedError { r.self with intentionalClose := true, state := .closing }
    if r.session.state = .ready then
      { r with
        session := r.session.close
        self := { t with closeAwaited := true }.emit (.sessionClose .NORMAL) }
    else finalizeClose ref { r with self := t }

/-- `close` goes on after `session.close` has resolved or rejected. -/
def closeSettled (ref : ℕ) (result : Except Thrown Unit) (r : Running) : Running :=
  if r.self.closeAwaited = false then r
  else
    let t := { r.self with closeAwaited := false }
    match result with
    | .ok () => finalizeClose ref { r with self := t }
    | .error error => { r with
        self := reportError (normalizeError error "Failed to close bridge session") t
        frames := .finalizeClose :: r.frames }

/-- The next frame of a function goes on. -/
def resume (ref : ℕ) (frame : Frame) (r : Running) : Running :=
  match frame with
  | .closeSession =>
    { r with session := r.session.close, self := r.self.emit (.sessionClose .PROTOCOL_ERROR) }
  | .finalizeClose => finalizeClose ref r
  | .drained => { r with self := { r.self with draining := false } }

end Running

/-! ## Transports over one session -/

/-- A session with its transports, and what is left of the functions that are running. -/
structure Scene where
  session : SessionObject
  transports : Heap BridgeClientTransport
  stack : List (ℕ × Frame)

namespace Scene

/-- A session before any transport is made for it. -/
def initial (session : SessionObject) : Scene := ⟨session, .empty, []⟩

/-- Run code of the transport `ref`. -/
def run (s : Scene) (ref : ℕ) (f : Running → Running) : Scene :=
  match s.transports.get? ref with
  | none => s
  | some t =>
    let r := f ⟨s.session, t, []⟩
    { session := r.session
      transports := s.transports.modify ref fun _ => r.self
      stack := r.frames.map (Prod.mk ref) ++ s.stack }

/-- Run code that waits until no other code runs. -/
def task (s : Scene) (ref : ℕ) (f : Running → Running) : Scene :=
  if s.stack = [] then s.run ref f else s

end Scene

inductive Event
  /-- `new BridgeClientTransport(session)`. -/
  | create
  | start (ref : ℕ)
  | send (ref : ℕ) (message : JSONRPCMessage)
  | drainMicrotask (ref : ℕ)
  | sendSettled (ref : ℕ) (result : Except Thrown Unit)
  | receive (ref : ℕ) (callback : Except Thrown Unit)
  | receiveFailed (ref : ℕ)
  | close (ref : ℕ)
  | closeSettled (ref : ℕ) (result : Except Thrown Unit)
  /-- The innermost running function goes on. -/
  | resume
  /-- The handshake is done. -/
  | sessionReady
  /-- The gateway calls `session.onmessage`. -/
  | sessionMessage (message : BridgeMessage)
  /-- Other code, the gateway or a consumer, closes the session. -/
  | sessionClose
  /-- The native socket is closed: the gateway calls `session.onclose`. -/
  | sessionClosed (reason : CloseReason)

namespace Scene
open Running

def step (s : Scene) : Event → Scene
  | .create => { s with transports := s.transports.alloc .new }
  | .start ref => s.run ref (start ref)
  | .send ref message => s.run ref (send message)
  | .drainMicrotask ref => s.task ref drainMicrotask
  | .sendSettled ref result => s.task ref (sendSettled result)
  | .receive ref callback => s.task ref (receive callback)
  | .receiveFailed ref => s.task ref receiveFailed
  | .close ref => s.run ref (close ref)
  | .closeSettled ref result => s.task ref (closeSettled ref result)
  | .resume => match s.stack with
    | [] => s
    | (ref, frame) :: stack => { s with stack := stack }.run ref (resume ref frame)
  | .sessionReady =>
    if s.session.state = .handshaking then { s with session := { s.session with state := .ready } }
    else s
  | .sessionMessage message => match s.session.onmessage with
    | some (.transport ref) => s.task ref (handleSessionMessage message)
    | _ => s
  | .sessionClose => { s with session := s.session.close }
  | .sessionClosed reason =>
    if s.session.state = .closed then s
    else
      let closed := { s with session := { s.session with state := .closed } }
      match s.session.onclose with
      | some (.transport ref) => closed.run ref (handleSessionClose ref reason)
      | _ => closed

end Scene
end Doctmcp.Bridge
