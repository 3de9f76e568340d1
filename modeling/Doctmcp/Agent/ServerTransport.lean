import Doctmcp.Lib.Runs
import Doctmcp.Bridge.Protocol

/-! # The transport of the local MCP server

`BridgeServerTransport` of `apps/agent`, over a native WebSocket. What the socket and the consumer do
comes with the events: how much is buffered when the code asks, whether a call of the socket or a
callback throws. A function that calls back the consumer leaves the rest of itself on a stack of
frames; microtasks, timers and socket events run only when the stack is empty. -/

namespace Doctmcp.Agent
open Doctmcp.Lib Doctmcp.Bridge
set_option autoImplicit false

def BRIDGE_PROTOCOL_VERSION : String := "1"

inductive BridgeServerTransportErrorCode
  | bridge (code : BridgeErrorCode)
  | INVALID_STATE
  | SOCKET_ERROR
  deriving DecidableEq

structure BridgeServerTransportError where
  code : BridgeServerTransportErrorCode
  message : String
  deriving DecidableEq

/-- A thrown value: the message of an `Error`, or something else. -/
abbrev ThrownValue := Option String

def errorFromUnknown (value : ThrownValue) (code : BridgeServerTransportErrorCode)
    (fallback : String) : BridgeServerTransportError :=
  let message := value.getD fallback
  ⟨code, if message ≠ "" then message else fallback⟩

def closedError : BridgeServerTransportError :=
  ⟨.bridge .SESSION_CLOSED, "Bridge transport is closed"⟩

/-! ## Frames on the wire -/

/-- What `JSON.parse` and the schema make of a text. -/
inductive ParsedText
  | notJson
  | value (message : BridgeMessage)

/-- The data of a message event: a text with its size in bytes, or a binary frame with the text that
it decodes to. -/
inductive FrameData
  | text (bytes : ℕ) (parsed : ParsedText)
  | binary (bytes : ℕ) (decoded : Option ParsedText)
  | unsupported

/-- `decodeFrame`: the size of the text and what it parses to. -/
def decodeFrame : FrameData → Except String (ℕ × ParsedText)
  | .text bytes parsed => .ok (bytes, parsed)
  | .binary bytes decoded =>
    if bytes > BRIDGE_MAX_MESSAGE_BYTES then .error "Bridge message exceeds the maximum size"
    else match decoded with
    | some parsed => .ok (bytes, parsed)
    | none => .error "Bridge message is not valid UTF-8"
  | .unsupported => .error "Bridge message is not a supported WebSocket frame"

/-- `parseFrame`, with the message of what it throws. -/
def parseFrame (data : FrameData) : Except String BridgeMessage :=
  match decodeFrame data with
  | .error error => .error error
  | .ok (bytes, parsed) =>
    if bytes > BRIDGE_MAX_MESSAGE_BYTES then .error "Bridge message exceeds the maximum size"
    else match parsed with
    | .notJson => .error "Bridge message is not valid JSON"
    | .value message =>
      if bridgeMessageSchema message = true then .ok message
      else .error "Bridge message does not match the bridge contract"

/-- `serializeFrame` of an `mcp.message`: the text and its size. An error without value is what
`JSON.stringify` throws. -/
def serializeFrame (payload : JSONRPCMessage) :
    Except (Option BridgeServerTransportError) (String × ℕ) :=
  if payload.record = false then
    .error (some ⟨.bridge .INVALID_MESSAGE, "Cannot send an invalid bridge message"⟩)
  else match payload.json with
  | none => .error none
  | some text =>
    if byteLength text > BRIDGE_MAX_MESSAGE_BYTES then
      .error (some ⟨.bridge .MESSAGE_TOO_LARGE, "Bridge message exceeds the maximum size"⟩)
    else .ok (text, byteLength text)

/-! ## The transport -/

/-- `readyState` of a WebSocket. -/
inductive ReadyState
  | CONNECTING
  | OPEN
  | CLOSING
  | CLOSED
  deriving DecidableEq

/-- What the transport has done to its surroundings. -/
inductive Effect
  | startRejected (error : BridgeServerTransportError)
  | sendRejected (error : Option BridgeServerTransportError)
  | sendHello (sessionId : String)
  | sendError (code : BridgeErrorCode)
  | sendClose (code : BridgeCloseCode)
  | socketClose (code : BridgeCloseCode)
  | onmessage (payload : JSONRPCMessage)
  | onerror (error : BridgeServerTransportError)
  | onclose
  deriving DecidableEq

/-- A reaction on `incomingChain`. -/
inductive Incoming
  | frame (data : FrameData)
  /-- The reaction of `handleSocketClose`. -/
  | socketClosed

/-- `queue` and `queuedBytes` are those of the outbox, whose promises are those of `send`; what was
handed over was given to `socket.send`. -/
structure BridgeServerTransport where
  sessionId : String
  handshakeTimeoutMs : ℤ
  state : BridgeTransportState
  socket : Option ReadyState
  /-- The listeners are on the socket. -/
  listening : Bool
  /-- The timer is pending. -/
  handshakeTimer : Bool
  /-- `resolveStart` and `rejectStart` are set. -/
  startOpen : Bool
  /-- The settlements of the promise of `start`, newest first. -/
  started : List (Except BridgeServerTransportError Unit)
  /-- `resolveClose` is set. -/
  closeOpen : Bool
  outbox : Outbox String (Except BridgeServerTransportError Unit)
  currentSend : Option (QueuedMessage String)
  nativeDrainBaseline : ℕ
  /-- The timer is pending. -/
  nativeDrainTimer : Bool
  drainScheduled : Bool
  draining : Bool
  callbackClosed : Bool
  errorReported : Bool
  intentionalClose : Bool
  remoteClose : Bool
  incomingChain : List Incoming
  /-- Newest first. -/
  effects : List Effect

def BridgeServerTransport.new (sessionId : String) (handshakeTimeoutMs : ℤ) :
    BridgeServerTransport where
  sessionId := sessionId
  handshakeTimeoutMs := handshakeTimeoutMs
  state := .idle
  socket := none
  listening := false
  handshakeTimer := false
  startOpen := false
  started := []
  closeOpen := false
  outbox := .empty
  currentSend := none
  nativeDrainBaseline := 0
  nativeDrainTimer := false
  drainScheduled := false
  draining := false
  callbackClosed := false
  errorReported := false
  intentionalClose := false
  remoteClose := false
  incomingChain := []
  effects := []

/-- What is left of a running function after a callback of the consumer. -/
inductive Frame
  /-- `fail` after `reportError`. -/
  | failing (error : BridgeServerTransportError) (announce : Bool) (closeCode : BridgeCloseCode)
  /-- The `catch` around `onmessage`. -/
  | messageFailed (error : BridgeServerTransportError)
  | finalizeClose
  /-- The `finally` of `drainQueue`. -/
  | drained

/-- The transport while its code runs, with the frames of the function that does not finish,
innermost first. -/
structure Running where
  self : BridgeServerTransport
  frames : List Frame

namespace BridgeServerTransport

def emit (t : BridgeServerTransport) (effect : Effect) : BridgeServerTransport :=
  { t with effects := effect :: t.effects }

def rejectQueued (error : BridgeServerTransportError) (t : BridgeServerTransport) :
    BridgeServerTransport :=
  { t with outbox := t.outbox.rejectAll (.error error) }

/-- `if (this.rejectStart) { this.rejectStart(error); … }` -/
def rejectStart (error : BridgeServerTransportError) (t : BridgeServerTransport) :
    BridgeServerTransport :=
  if t.startOpen = true then
    { t with started := .error error :: t.started, startOpen := false }
  else t

def reportError (error : BridgeServerTransportError) (t : BridgeServerTransport) :
    BridgeServerTransport :=
  if t.errorReported = true then t else { t with errorReported := true }.emit (.onerror error)

/-- `onclose`, once. -/
def notifyClosed (t : BridgeServerTransport) : BridgeServerTransport :=
  if t.callbackClosed = true then t else { t with callbackClosed := true }.emit .onclose

def clearHandshakeTimer (t : BridgeServerTransport) : BridgeServerTransport :=
  { t with handshakeTimer := false }

def clearNativeDrainTimer (t : BridgeServerTransport) : BridgeServerTransport :=
  { t with nativeDrainTimer := false }

def scheduleNativeDrainPoll (t : BridgeServerTransport) : BridgeServerTransport :=
  { t with nativeDrainTimer := true }

def scheduleDrain (t : BridgeServerTransport) : BridgeServerTransport :=
  if t.drainScheduled = true ∨ t.draining = true then t else { t with drainScheduled := true }

/-- What happens in `onclose` finds the transport closed and changes nothing, so `resolveClose`
can be called before it. -/
def finalizeClose (t : BridgeServerTransport) : BridgeServerTransport :=
  if t.state = .closed then t
  else { rejectStart closedError (rejectQueued closedError
      (clearNativeDrainTimer (clearHandshakeTimer t))) with
    listening := false, state := .closed, closeOpen := false }.notifyClosed

/-- The socket after `socket.close()`. -/
def ReadyState.close : ReadyState → ReadyState
  | .CLOSED => .CLOSED
  | _ => .CLOSING

/-- `try { socket?.close(…) } catch { finalizeClose() }`, with whether it throws. -/
def closeSocket (code : BridgeCloseCode) (throws : Bool) (t : BridgeServerTransport) : BridgeServerTransport :=
  match t.socket with
  | none => t
  | some readyState =>
    if throws = true then finalizeClose (t.emit (.socketClose code))
    else { t with socket := some (ReadyState.close readyState) }.emit (.socketClose code)

/-- `trySendControlFrame`; what `socket.send` throws is caught. -/
def trySendControlFrame (effect : Effect) (t : BridgeServerTransport) : BridgeServerTransport :=
  if t.socket = some .OPEN then t.emit effect else t

def bridgeErrorCode (error : BridgeServerTransportError) : BridgeErrorCode :=
  match error.code with
  | .bridge code => code
  | _ => .SESSION_CLOSED

end BridgeServerTransport

namespace Running
open BridgeServerTransport

/-- Up to the callback `onerror`. -/
def fail (error : BridgeServerTransportError) (announce : Bool) (closeCode : BridgeCloseCode)
    (r : Running) : Running :=
  if r.self.state = .closed ∨ r.self.state = .closing then r
  else
    { self := reportError error (rejectStart error (rejectQueued error (clearNativeDrainTimer
        (clearHandshakeTimer { r.self with state := .failed }))))
      frames := .failing error announce closeCode :: r.frames }

/-- `fail` after the callback, with whether `socket.close` throws. -/
def failing (error : BridgeServerTransportError) (announce : Bool) (closeCode : BridgeCloseCode)
    (throws : Bool) (r : Running) : Running :=
  let announced :=
    if announce = true then
      trySendControlFrame (.sendClose closeCode)
        (trySendControlFrame (.sendError (bridgeErrorCode error)) r.self)
    else r.self
  let t := closeSocket closeCode throws announced
  if t.socket = none ∨ t.socket = some .CLOSED then { r with self := finalizeClose t }
  else { r with self := t }

/-- `start`, with what the socket factory throws. -/
def start (factory : Except ThrownValue Unit) (r : Running) : Running :=
  if r.self.state ≠ .idle then
    let error := ⟨.INVALID_STATE, "Bridge transport can only be started once"⟩
    { r with self := r.self.emit (.startRejected error) }
  else
    let t := { r.self with state := .connecting, startOpen := true }
    match factory with
    | .ok () => { r with self := { t with socket := some .CONNECTING, listening := true } }
    | .error value =>
      fail (errorFromUnknown value .SOCKET_ERROR "Failed to create the bridge WebSocket") false
        .PROTOCOL_ERROR { r with self := t }

/-- `send`, with what the socket has buffered. -/
def send (payload : JSONRPCMessage) (bufferedAmount : ℕ) (r : Running) : Running :=
  let t := r.self
  if t.state ≠ .ready then
    let code := if t.state = .idle ∨ t.state = .connecting ∨ t.state = .handshaking then
      BridgeErrorCode.HANDSHAKE_REQUIRED else .SESSION_CLOSED
    { r with self := t.emit (.sendRejected (some ⟨.bridge code, "Bridge transport is not ready"⟩)) }
  else match serializeFrame payload with
  | .error error => { r with self := t.emit (.sendRejected error) }
  | .ok (text, bytes) =>
    let currentBytes := match t.currentSend with
      | some item => item.bytes
      | none => 0
    let queuedWithoutCurrent := t.outbox.queuedBytes - currentBytes
    let nativeBufferedBytes := match t.socket with
      | some _ => bufferedAmount
      | none => 0
    let pendingNativeBytes := max nativeBufferedBytes currentBytes
    if t.outbox.queue.length ≥ BRIDGE_MAX_QUEUED_MESSAGES ∨
        queuedWithoutCurrent + pendingNativeBytes + bytes > BRIDGE_MAX_QUEUED_BYTES then
      let error := ⟨.bridge .BACKPRESSURE, "Bridge transport queue is full"⟩
      { r with self := t.emit (.sendRejected (some error)) }
    else { r with self := scheduleDrain { t with outbox := t.outbox.push text bytes } }

/-- What one turn of the loop of `drainQueue` finds at the socket: what is buffered before and after
`socket.send`, and what that throws. -/
structure SocketTurn where
  bufferedBeforeSend : ℕ
  sent : Except ThrownValue Unit
  bufferedAfterSend : ℕ

/-- The loop of `drainQueue`, along the queue: only the `shift` of a turn changes it. -/
def drainLoop (turns : ℕ → SocketTurn) : List (QueuedMessage String) → ℕ → Running → Running
  | [], _, r => { r with self := { r.self with draining := false } }
  | item :: rest, turn, r =>
    let t := r.self
    if t.state ≠ .ready then { r with self := { t with draining := false } }
    else if t.socket ≠ some .OPEN then
      fail ⟨.bridge .SESSION_CLOSED, "Bridge WebSocket is not open"⟩ false .PROTOCOL_ERROR
        { r with frames := .drained :: r.frames }
    else
      let socketTurn := turns turn
      if socketTurn.bufferedBeforeSend + item.bytes > BRIDGE_MAX_QUEUED_BYTES then
        { r with self := { scheduleNativeDrainPoll t with draining := false } }
      else
        let handed := { t with outbox := t.outbox.hand item }
        match socketTurn.sent with
        | .error value =>
          let sendError :=
            errorFromUnknown value (.bridge .SESSION_CLOSED) "Failed to send bridge message"
          fail sendError false .PROTOCOL_ERROR
            { self := rejectQueued sendError handed, frames := .drained :: r.frames }
        | .ok () =>
          if socketTurn.bufferedAfterSend > socketTurn.bufferedBeforeSend then
            let current := { handed with
              currentSend := some item, nativeDrainBaseline := socketTurn.bufferedBeforeSend }
            { r with self := { scheduleNativeDrainPoll current with draining := false } }
          else drainLoop turns rest (turn + 1)
            { r with self := { handed with outbox := handed.outbox.land item (.ok ()) } }

def drainQueue (turns : ℕ → SocketTurn) (r : Running) : Running :=
  if r.self.draining = true ∨ r.self.currentSend.isSome = true then r
  else drainLoop turns r.self.outbox.queue 0 { r with self := { r.self with draining := true } }

/-- The microtask of `scheduleDrain`. -/
def drainMicrotask (turns : ℕ → SocketTurn) (r : Running) : Running :=
  if r.self.drainScheduled = true then
    drainQueue turns { r with self := { r.self with drainScheduled := false } }
  else r

/-- The timer of `scheduleNativeDrainPoll`, with what the socket has buffered. -/
def nativeDrainPoll (bufferedAmount : ℕ) (t : BridgeServerTransport) : BridgeServerTransport :=
  if t.nativeDrainTimer = false then t
  else
    let t := { t with nativeDrainTimer := false }
    if t.state ≠ .ready then t
    else match t.currentSend with
    | none => t
    | some item =>
      if t.socket ≠ some .OPEN then t
      else if bufferedAmount > t.nativeDrainBaseline then scheduleNativeDrainPoll t
      else scheduleDrain { t with
        currentSend := none
        nativeDrainBaseline := 0
        outbox := t.outbox.land item (.ok ()) }

/-- `close`, with whether `socket.close` throws. -/
def close (throws : Bool) (r : Running) : Running :=
  if r.self.state = .closed ∨ r.self.state = .closing then r
  else
    let wasReady : Bool := r.self.state = .ready
    let closing := { r.self with intentionalClose := true, state := .closing, closeOpen := true }
    let t := rejectQueued closedError (clearNativeDrainTimer (clearHandshakeTimer closing))
    if t.socket = none ∨ t.socket = some .CLOSED then { r with self := finalizeClose t }
    else
      let t := if wasReady = true then trySendControlFrame (.sendClose .NORMAL) t else t
      { r with self := closeSocket .NORMAL throws t }

/-- `handleOpen`, with what `socket.send` throws. -/
def handleOpen (sent : Except ThrownValue Unit) (r : Running) : Running :=
  if r.self.state ≠ .connecting then r
  else
    let t := { r.self with state := .handshaking, handshakeTimer := 0 < r.self.handshakeTimeoutMs }
    match sent with
    | .ok () => { r with self := t.emit (.sendHello t.sessionId) }
    | .error value => fail (errorFromUnknown value .SOCKET_ERROR "Failed to send bridge handshake")
        false .PROTOCOL_ERROR { r with self := t }

/-- The peer closes the session. -/
def remoteClosed (code : BridgeCloseCode) (throws : Bool) (r : Running) : Running :=
  let t := { r.self with remoteClose := true, state := .closing }
  { r with self := closeSocket code throws t }

/-- `handleIncomingFrame` in state `handshaking`. -/
def handleHandshakeMessage (message : BridgeMessage) (throws : Bool) (r : Running) : Running :=
  match message with
  | .error code text => fail ⟨.bridge code, text⟩ false .PROTOCOL_ERROR r
  | .close code => remoteClosed code throws r
  | .helloAck version sessionId =>
    if version ≠ BRIDGE_PROTOCOL_VERSION then
      fail ⟨.bridge .UNSUPPORTED_VERSION, "Unsupported bridge protocol version"⟩ true
        .PROTOCOL_ERROR r
    else if sessionId ≠ r.self.sessionId then
      fail ⟨.bridge .INVALID_MESSAGE, "Bridge handshake session does not match"⟩ true
        .PROTOCOL_ERROR r
    else
      let t := clearHandshakeTimer r.self
      let ready := { t with
        state := .ready
        started := if t.startOpen = true then .ok () :: t.started else t.started
        startOpen := false }
      { r with self := scheduleDrain ready }
  | _ => fail ⟨.bridge .HANDSHAKE_REQUIRED, "Bridge handshake acknowledgement is required"⟩ true
      .PROTOCOL_ERROR r

/-- `handleIncomingFrame` in state `ready`, with what the consumer's `onmessage` throws. -/
def handleReadyMessage (message : BridgeMessage) (callback : Except ThrownValue Unit)
    (throws : Bool) (r : Running) : Running :=
  match message with
  | .mcpMessage payload =>
    let t := r.self.emit (.onmessage payload)
    match callback with
    | .ok () => { r with self := t }
    | .error value =>
      let error := errorFromUnknown value (.bridge .SESSION_CLOSED) "MCP message callback failed"
      ⟨t, .messageFailed error :: r.frames⟩
  | .close code =>
    let error := ⟨.bridge .SESSION_CLOSED, "Bridge peer closed the session"⟩
    remoteClosed code throws { r with self := rejectQueued error r.self }
  | .error code text => fail ⟨.bridge code, text⟩ false .PROTOCOL_ERROR r
  | _ => fail ⟨.bridge .UNEXPECTED_MESSAGE, "Unexpected bridge control message"⟩ true
      .PROTOCOL_ERROR r

def handleIncomingFrame (data : FrameData) (callback : Except ThrownValue Unit) (throws : Bool)
    (r : Running) : Running :=
  if r.self.state = .closed ∨ r.self.state = .closing then r
  else match parseFrame data with
  | .error error =>
    fail (errorFromUnknown (some error) (.bridge .INVALID_MESSAGE) "Invalid bridge message") true
      .PROTOCOL_ERROR r
  | .ok message =>
    if r.self.state = .handshaking then handleHandshakeMessage message throws r
    else if r.self.state = .ready then handleReadyMessage message callback throws r
    else r

/-- The reaction of `handleSocketClose`. -/
def socketClosed (r : Running) : Running :=
  if r.self.state = .closed then r
  else if r.self.intentionalClose = false ∧ r.self.remoteClose = false ∧ r.self.state ≠ .closing then
    { self := reportError ⟨.bridge .SESSION_CLOSED, "Bridge WebSocket closed unexpectedly"⟩ r.self
      frames := .finalizeClose :: r.frames }
  else { r with self := finalizeClose r.self }

/-- The next reaction on `incomingChain`. -/
def receive (callback : Except ThrownValue Unit) (throws : Bool) (r : Running) : Running :=
  match r.self.incomingChain with
  | [] => r
  | .frame data :: rest =>
    handleIncomingFrame data callback throws { r with self := { r.self with incomingChain := rest } }
  | .socketClosed :: rest => socketClosed { r with self := { r.self with incomingChain := rest } }

/-- The timer of `setHandshakeTimer`. -/
def handshakeTimeout (r : Running) : Running :=
  if r.self.handshakeTimer = false then r
  else fail ⟨.bridge .TIMEOUT, "Bridge handshake timed out"⟩ true .TIMEOUT
    { r with self := { r.self with handshakeTimer := false } }

/-- The next frame of a function goes on, with whether `socket.close` throws. -/
def resume (frame : Frame) (throws : Bool) (r : Running) : Running :=
  match frame with
  | .failing error announce closeCode => failing error announce closeCode throws r
  | .messageFailed error => fail error false .PROTOCOL_ERROR r
  | .finalizeClose => { r with self := finalizeClose r.self }
  | .drained => { r with self := { r.self with draining := false } }

end Running

/-! ## Events -/

inductive Event
  | start (factory : Except ThrownValue Unit)
  | send (payload : JSONRPCMessage) (bufferedAmount : ℕ)
  | close (throws : Bool)
  | drainMicrotask (turns : ℕ → Running.SocketTurn)
  | nativeDrainPoll (bufferedAmount : ℕ)
  | handshakeTimeout
  | receive (callback : Except ThrownValue Unit) (throws : Bool)
  | socketOpen (sent : Except ThrownValue Unit)
  | socketMessage (data : FrameData)
  | socketError
  /-- The socket goes to `CLOSING`, as its peer closes it. -/
  | socketClosing
  | socketClose
  /-- The innermost running function goes on. -/
  | resume (throws : Bool)

/-- The transport, and what is left of the functions that are running. -/
structure Scene where
  transport : BridgeServerTransport
  stack : List Frame

namespace Scene
open Running

def initial (sessionId : String) (handshakeTimeoutMs : ℤ) : Scene :=
  ⟨.new sessionId handshakeTimeoutMs, []⟩

def run (s : Scene) (f : Running → Running) : Scene :=
  let r := f ⟨s.transport, []⟩
  ⟨r.self, r.frames ++ s.stack⟩

/-- Run code that waits until no other code runs. -/
def task (s : Scene) (f : Running → Running) : Scene := if s.stack = [] then s.run f else s

/-- An event of the socket, for its listener. -/
def listener (f : Running → Running) (r : Running) : Running :=
  if r.self.listening = true then f r else r

/-- Only an open socket can be opened, and a closed one stays closed. -/
def moveSocket (f : ReadyState → ReadyState) (r : Running) : Running :=
  { r with self := { r.self with socket := r.self.socket.map f } }

def step (s : Scene) : Event → Scene
  | .start factory => s.run (start factory)
  | .send payload bufferedAmount => s.run (send payload bufferedAmount)
  | .close throws => s.run (close throws)
  | .drainMicrotask turns => s.task (drainMicrotask turns)
  | .nativeDrainPoll bufferedAmount =>
    s.task fun r => { r with self := nativeDrainPoll bufferedAmount r.self }
  | .handshakeTimeout => s.task handshakeTimeout
  | .receive callback throws => s.task (receive callback throws)
  | .socketOpen sent =>
    if s.transport.socket = some .CONNECTING then
      s.task fun r => listener (handleOpen sent) (moveSocket (fun _ => .OPEN) r)
    else s
  | .socketMessage data =>
    s.task (listener fun r =>
      { r with self := { r.self with incomingChain := r.self.incomingChain ++ [.frame data] } })
  | .socketError =>
    s.task (listener (fail ⟨.SOCKET_ERROR, "Bridge WebSocket reported an error"⟩ false
      .PROTOCOL_ERROR))
  | .socketClosing => s.task (moveSocket BridgeServerTransport.ReadyState.close)
  | .socketClose =>
    s.task fun r => listener (fun r =>
      if r.self.state = .closed then r
      else { r with self := { r.self with
        incomingChain := r.self.incomingChain ++ [.socketClosed] } })
      (moveSocket (fun _ => .CLOSED) r)
  | .resume throws => match s.stack with
    | [] => s
    | frame :: stack => { s with stack := stack }.run (Running.resume frame throws)

end Scene
end Doctmcp.Agent
