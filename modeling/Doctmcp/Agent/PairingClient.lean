import Mathlib
import Doctmcp.Agent.DeviceCredentialProvider
import Doctmcp.Channel.Coordinator
import Doctmcp.Lib.Base64
import Doctmcp.Lib.Runs

/-! # The pairing client

`LocalPairingClient` of `pairing-client.ts`. A function that awaits a promise leaves the rest of itself
in the state, and goes on in an event of its own; sockets call back, timers fire and promises settle in
any order. A socket, its `attached` deferred and its handlers have one reference. What the URL parser,
the body of the response and the schema of the messages make of their inputs comes with the events. -/

namespace Doctmcp.Agent.PairingClient
open Doctmcp.Lib Doctmcp.Schemas
open Doctmcp.Channel (PairingChannelErrorCode PairingAck)
set_option autoImplicit false

inductive LocalPairingClientErrorCode
  | PAIRING_UNAVAILABLE
  | PAIRING_STORAGE_FAILED
  | PAIRING_PROTOCOL_FAILED
  | PAIRING_CLOSED
  deriving DecidableEq

/-- A thrown value, by its class. -/
inductive Thrown
  | client (code : LocalPairingClientErrorCode)
  | other
  deriving DecidableEq

/-! ## Messages -/

inductive PairingChannelCloseCode
  | NORMAL
  | PROTOCOL_ERROR
  | TIMEOUT
  | SERVER_SHUTDOWN
  deriving DecidableEq

/-- A `pairing.credential` frame. -/
structure PairingCredential where
  pairingSessionId : PairingSessionId
  deviceId : DeviceId
  credentialId : CredentialId
  version : ℕ
  credential : DeviceCredentialSecret

/-- What `pairingChannelMessageSchema` accepts. -/
inductive PairingChannelMessage
  | attach (pairingSessionId : PairingSessionId) (channelProof : String)
  | attached (pairingSessionId : PairingSessionId) (expiresAt : String)
  | credential (message : PairingCredential)
  | ack (ack : PairingAck)
  | error (code : PairingChannelErrorCode)
  | close (code : PairingChannelCloseCode)

/-- What the client sends. -/
inductive Frame
  | attach (pairingSessionId : Option PairingSessionId) (channelProof : String)
  | error (code : PairingChannelErrorCode)
  | ack (ack : PairingAck)
  deriving DecidableEq

def PairingCredential.ack (message : PairingCredential) : Frame :=
  .ack ⟨message.pairingSessionId, message.deviceId, message.credentialId, message.version⟩

/-! ## The state -/

structure PairingStartResponse where
  pairingSessionId : PairingSessionId
  pairingCode : String
  expiresAt : ℤ
  deriving DecidableEq

/-- The function that made a socket, and whose handlers it has. -/
inductive Owner
  | start (response : PairingStartResponse)
  | reconnect
  deriving DecidableEq

def Owner.isStart : Owner → Bool
  | .start _ => true
  | .reconnect => false

/-- Which listeners are installed. -/
structure Listeners where
  opened : Bool
  message : Bool
  error : Bool
  close : Bool
  deriving DecidableEq

def Listeners.all : Listeners := ⟨true, true, true, true⟩

def Listeners.none : Listeners := ⟨false, false, false, false⟩

/-- A `PairingWebSocket`, and how the `attached` deferred that belongs to it settled. -/
structure PairingSocket where
  owner : Owner
  listeners : Listeners
  attached : Option (Except LocalPairingClientErrorCode Unit)
  deriving DecidableEq

/-- What `#removeSocketListeners` removes: all four listeners of a socket, or all but the first. -/
structure Remover where
  socket : ℕ
  withOpen : Bool
  deriving DecidableEq

inductive StartPhase
  | idle
  | fetching
  | reading
  | attaching (socket : ℕ)
  | finished (result : Except Thrown Unit)
  deriving DecidableEq

inductive LoopPhase
  | delaying
  | attaching (socket : ℕ)
  /-- The function has ended; the callback of `finally` is due. -/
  | returned
  | finished
  deriving DecidableEq

/-- A call of the function in `#reconnect`. -/
structure ReconnectLoop where
  attempt : ℕ
  lastError : LocalPairingClientErrorCode
  phase : LoopPhase
  deriving DecidableEq

/-- A `#handleMessage` that awaits `replace`. -/
structure Replacement where
  sourceSocket : ℕ
  message : PairingCredential

inductive Effect
  | created (url : String)
  | sent (socket : ℕ) (frame : Frame)
  | closed (socket : ℕ) (code : ℕ)
  | pairingCode (code : String) (expiresAt : ℤ)
  deriving DecidableEq

def MAX_PAIRING_RECONNECT_ATTEMPTS : ℕ := 3

/-- The URL of the channel, if `parseServerUrl` accepts the URL of the server. -/
structure LocalPairingClientOptions where
  socketUrl : Option String

structure LocalPairingClient where
  /-- `#credentialWaiter` is not `null`. -/
  credentialWaiter : Bool
  /-- How the promise of the waiter settled. -/
  credential : Option (Except LocalPairingClientErrorCode LocalDeviceCredential)
  socket : Option ℕ
  socketUrl : Option String
  sessionId : Option PairingSessionId
  proof : String
  attachWaiter : Option ℕ
  reconnectPromise : Option ℕ
  removeSocketListeners : Option Remover
  attached : Bool
  completed : Bool
  closed : Bool
  sockets : Heap PairingSocket
  starting : StartPhase
  loops : Heap ReconnectLoop
  replacements : List Replacement
  effects : List Effect

/-- The client that the constructor makes. -/
def LocalPairingClient.new : LocalPairingClient where
  credentialWaiter := true
  credential := none
  socket := none
  socketUrl := none
  sessionId := none
  proof := ""
  attachWaiter := none
  reconnectPromise := none
  removeSocketListeners := none
  attached := false
  completed := false
  closed := false
  sockets := .empty
  starting := .idle
  loops := .empty
  replacements := []
  effects := []

namespace LocalPairingClient
variable (c : LocalPairingClient)

/-! ## Fields -/

def setAttached (attached : Bool) : LocalPairingClient := { c with attached }

def setReconnectPromise (promise : Option ℕ) : LocalPairingClient :=
  { c with reconnectPromise := promise }

def setRemover (remover : Remover) : LocalPairingClient :=
  { c with removeSocketListeners := some remover }

def setStarting (phase : StartPhase) : LocalPairingClient := { c with starting := phase }

def setLoop (i : ℕ) (loop : ReconnectLoop) : LocalPairingClient :=
  { c with loops := c.loops.modify i fun _ => loop }

def emit (effect : Effect) : LocalPairingClient := { c with effects := c.effects ++ [effect] }

/-- `if (this.#socket === socket) this.#socket = null`. -/
def dropSocket (s : ℕ) : LocalPairingClient :=
  if c.socket = some s then { c with socket := none } else c

/-- `if (this.#attachWaiter === attached) this.#attachWaiter = null`. -/
def dropAttachWaiter (s : ℕ) : LocalPairingClient :=
  if c.attachWaiter = some s then { c with attachWaiter := none } else c

/-! ## Deferreds, listeners and sockets -/

/-- Settle `attached` of the socket, unless it is settled. -/
def settleAttached (s : ℕ) (result : Except LocalPairingClientErrorCode Unit) :
    LocalPairingClient :=
  { c with sockets := c.sockets.modify s fun socket =>
      { socket with attached := socket.attached <|> some result } }

def rejectAttached (s : ℕ) (code : LocalPairingClientErrorCode) : LocalPairingClient :=
  c.settleAttached s (.error code)

/-- `this.#attachWaiter?.reject(error)`. -/
def rejectAttachWaiter (code : LocalPairingClientErrorCode) : LocalPairingClient :=
  match c.attachWaiter with
  | none => c
  | some s => c.rejectAttached s code

/-- `this.#credentialWaiter?.reject(error)`. -/
def rejectCredential (code : LocalPairingClientErrorCode) : LocalPairingClient :=
  if c.credentialWaiter = true then
    { c with credential := c.credential <|> some (.error code) }
  else c

/-- `this.#credentialWaiter?.resolve(credential)`, and the field is `null`. -/
def resolveCredential (credential : LocalDeviceCredential) : LocalPairingClient :=
  if c.credentialWaiter = true then
    { c with credential := c.credential <|> some (.ok credential), credentialWaiter := false }
  else c

/-- `cleanup` of a socket: all four listeners are removed. -/
def cleanup (s : ℕ) : LocalPairingClient :=
  { c with sockets := c.sockets.modify s fun socket => { socket with listeners := .none } }

def removeOpen (s : ℕ) : LocalPairingClient :=
  { c with sockets := c.sockets.modify s fun socket =>
      { socket with listeners := { socket.listeners with opened := false } } }

/-- `this.#removeSocketListeners?.()`, and the field is `null`. -/
def callRemover : LocalPairingClient :=
  match c.removeSocketListeners with
  | none => c
  | some remover =>
    { c with
      sockets := c.sockets.modify remover.socket fun socket =>
        { socket with listeners :=
            ⟨socket.listeners.opened && !remover.withOpen, false, false, false⟩ }
      removeSocketListeners := none }

/-- `this.#socket?.close(code)`. -/
def closeSocket (code : ℕ) : LocalPairingClient :=
  match c.socket with
  | none => c
  | some s => c.emit (.closed s code)

/-- The new socket is the current one, its deferred is the attach waiter, and it has its listeners. -/
def newSocket (url : String) (owner : Owner) : LocalPairingClient :=
  { c.emit (.created url) with
    socket := some c.sockets.next
    attachWaiter := some c.sockets.next
    sockets := c.sockets.alloc ⟨owner, .all, none⟩ }

/-! ## Closing -/

def forgetChannel : LocalPairingClient :=
  { c with attachWaiter := none, proof := "", socketUrl := none, attached := false }

def forgetSocket : LocalPairingClient := { c with socket := none, sessionId := none }

def close : LocalPairingClient :=
  if c.closed = true then c
  else
    let c := ({ c with closed := true }.rejectAttachWaiter .PAIRING_CLOSED).forgetChannel
    let c := (c.callRemover.closeSocket 1000).forgetSocket
    if c.completed = true then c else c.rejectCredential .PAIRING_CLOSED

/-! ## The reconnect loop -/

/-- From `const socketUrl = this.#socketUrl` to the await of `attached.promise`. `constructs` says
that the constructor of the socket does not throw. -/
def openSocket (i attempt : ℕ) (lastError : LocalPairingClientErrorCode) (constructs : Bool) :
    LocalPairingClient :=
  match c.socketUrl with
  | none => c.setLoop i ⟨attempt, lastError, .returned⟩
  | some url =>
    if constructs = true then
      ((c.newSocket url .reconnect).setAttached false).setLoop i
        ⟨attempt, lastError, .attaching c.sockets.next⟩
    else c.setLoop i ⟨attempt, lastError, .returned⟩

/-- The loop from the test of `attempt` to its next await. -/
def nextAttempt (i attempt : ℕ) (lastError : LocalPairingClientErrorCode) (constructs : Bool) :
    LocalPairingClient :=
  if attempt < MAX_PAIRING_RECONNECT_ATTEMPTS then
    if c.closed = true ∨ c.completed = true then c.setLoop i ⟨attempt, lastError, .returned⟩
    else if 0 < attempt then c.setLoop i ⟨attempt, lastError, .delaying⟩
    else c.openSocket i attempt lastError constructs
  else if c.closed = true ∨ c.completed = true then c.setLoop i ⟨attempt, lastError, .returned⟩
  else (c.rejectCredential lastError).setLoop i ⟨attempt, lastError, .returned⟩

def reconnect (constructs : Bool) : LocalPairingClient :=
  if c.reconnectPromise.isSome = true ∨ c.closed = true ∨ c.completed = true ∨
      c.sessionId = none ∨ c.proof = "" ∨ c.socketUrl = none then c
  else
    let i := c.loops.next
    let loop := ⟨0, .PAIRING_UNAVAILABLE, .returned⟩
    (({ c with loops := c.loops.alloc loop }).nextAttempt i loop.attempt loop.lastError
      constructs).setReconnectPromise (some i)

def retryOrReject (s : ℕ) (code : LocalPairingClientErrorCode) (constructs : Bool) :
    LocalPairingClient :=
  if c.attached = true ∧ c.completed = false ∧ c.closed = false then
    ((((c.setAttached false).cleanup s).dropSocket s).setReconnectPromise none).reconnect constructs
  else c.rejectAttached s code

/-- The timer of the delay fires. -/
def delayed (i : ℕ) (constructs : Bool) : LocalPairingClient :=
  match c.loops.get? i with
  | some ⟨attempt, lastError, .delaying⟩ =>
    if c.closed = true ∨ c.completed = true ∨ c.sessionId = none ∨ c.proof = "" ∨
        c.socketUrl = none then c.setLoop i ⟨attempt, lastError, .returned⟩
    else c.openSocket i attempt lastError constructs
  | _ => c

/-- The loop goes on after `await attached.promise`. -/
def loopResumed (i : ℕ) : LocalPairingClient :=
  match c.loops.get? i with
  | some ⟨attempt, lastError, .attaching s⟩ =>
    match (c.sockets.get? s).bind PairingSocket.attached with
    | none => c
    | some (.ok ()) =>
      (((c.dropAttachWaiter s).removeOpen s).setRemover ⟨s, false⟩).setLoop i
        ⟨attempt, lastError, .returned⟩
    | some (.error error) =>
      -- The next attempt begins with the delay and constructs nothing yet.
      ((c.cleanup s).dropSocket s).nextAttempt i (attempt + 1) error true
  | _ => c

/-- The callback of `reconnect.finally`. -/
def loopFinished (i : ℕ) : LocalPairingClient :=
  match c.loops.get? i with
  | some ⟨attempt, lastError, .returned⟩ =>
    (c.setReconnectPromise none).setLoop i ⟨attempt, lastError, .finished⟩
  | _ => c

/-! ## Messages -/

/-- The `catch` of `#handleMessage`. -/
def messageFailed (s : ℕ) (code : LocalPairingClientErrorCode) : LocalPairingClient :=
  ((((c.rejectAttached s code).dropAttachWaiter s).rejectCredential code).callRemover).closeSocket
    1008

/-- `#handleMessage` up to its await. -/
def handleMessage (s : ℕ) (data : Option PairingChannelMessage) : LocalPairingClient :=
  match data with
  | none => c.messageFailed s .PAIRING_PROTOCOL_FAILED
  | some (.attached pairingSessionId _) =>
    if some pairingSessionId ≠ c.sessionId then c.messageFailed s .PAIRING_PROTOCOL_FAILED
    else (c.setAttached true).settleAttached s (.ok ())
  | some (.error code) =>
    c.messageFailed s
      (if code = .PAIRING_STORAGE_FAILED then .PAIRING_STORAGE_FAILED else .PAIRING_UNAVAILABLE)
  | some (.close code) => if code ≠ .NORMAL then c.messageFailed s .PAIRING_CLOSED else c
  | some (.credential message) =>
    if some message.pairingSessionId ≠ c.sessionId ∨ c.completed = true ∨ c.closed = true then
      c.messageFailed s .PAIRING_PROTOCOL_FAILED
    else { c with replacements := c.replacements ++ [⟨s, message⟩] }
  | some _ => c.messageFailed s .PAIRING_PROTOCOL_FAILED

/-- What follows the acknowledgement. -/
def complete (credential : LocalDeviceCredential) : LocalPairingClient :=
  ({ c with
    completed := true
    attached := false
    proof := ""
    socketUrl := none
    sessionId := none }).callRemover.resolveCredential credential

/-- `#handleMessage` after `replace` has stored the credential. -/
def storageSucceeded (s : ℕ) (message : PairingCredential) (readyState : ℕ) (sends : Bool) :
    LocalPairingClient :=
  if c.closed = true then c.messageFailed s .PAIRING_CLOSED
  else if c.socket ≠ some s ∨ c.attached = false ∨ readyState ≠ 1 then c
  else if sends = true then
    (c.emit (.sent s message.ack)).complete ⟨message.deviceId, message.credential⟩
  else c.messageFailed s .PAIRING_PROTOCOL_FAILED

/-- `#handleMessage` after `replace` has failed. -/
def storageFailed (s : ℕ) (readyState : ℕ) (sends : Bool) : LocalPairingClient :=
  if c.socket = some s ∧ readyState = 1 ∧ sends = true then
    (c.emit (.sent s (.error .PAIRING_STORAGE_FAILED))).messageFailed s .PAIRING_STORAGE_FAILED
  else c.messageFailed s .PAIRING_STORAGE_FAILED

/-- A `replace` settles. `sends` says that sending on the socket does not throw. -/
def stored (k : ℕ) (stores : Bool) (readyState : ℕ) (sends : Bool) : LocalPairingClient :=
  match c.replacements[k]? with
  | none => c
  | some ⟨s, message⟩ =>
    let c := { c with replacements := c.replacements.eraseIdx k }
    if stores = true then c.storageSucceeded s message readyState sends
    else c.storageFailed s readyState sends

/-! ## Starting -/

/-- `#start` ends with an error of the client. -/
def startRejected (code : LocalPairingClientErrorCode) : LocalPairingClient :=
  c.setStarting (.finished (.error (.client code)))

/-- `#start` up to the await of `fetch`. -/
def start (options : LocalPairingClientOptions) (randomBytes : Option (List UInt8)) :
    LocalPairingClient :=
  if c.starting ≠ .idle then c
  else if c.closed = true then c.startRejected .PAIRING_CLOSED
  else if options.socketUrl = none then c.startRejected .PAIRING_UNAVAILABLE
  else match randomBytes with
  | none => c.startRejected .PAIRING_UNAVAILABLE
  | some bytes =>
    if bytes.length ≠ 32 then c.startRejected .PAIRING_UNAVAILABLE
    else
      { c with
        proof := String.ofList (Base64.base64Url (bytes.map UInt8.toNat))
        starting := .fetching }

/-- The response is there, and may be `ok`, or `fetch` failed. -/
def fetched (ok : Option Bool) : LocalPairingClient :=
  if c.starting ≠ .fetching then c
  else if c.closed = true then c.startRejected .PAIRING_CLOSED
  else if ok = some true then c.setStarting .reading
  else c.startRejected .PAIRING_UNAVAILABLE

/-- `#start` from the body of the response to the await of `attached.promise`. -/
def started (options : LocalPairingClientOptions) (response : Option PairingStartResponse)
    (constructs : Bool) : LocalPairingClient :=
  if c.starting ≠ .reading then c
  else match response with
  | none => c.startRejected .PAIRING_PROTOCOL_FAILED
  | some response =>
    if c.closed = true then c.startRejected .PAIRING_CLOSED
    else
      let c := { c with
        sessionId := some response.pairingSessionId
        socketUrl := options.socketUrl }
      if constructs = true then
        ((c.newSocket (c.socketUrl.getD "") (.start response)).setRemover
          ⟨c.sockets.next, true⟩).setStarting (.attaching c.sockets.next)
      else c.setStarting (.finished (.error .other))

/-- The `catch` of `#start`. -/
def startFailed (s : ℕ) (code : LocalPairingClientErrorCode) : LocalPairingClient :=
  (c.dropAttachWaiter s).close.startRejected code

/-- `#start` after the await of `attached.promise`; `onPairingCode` may throw. -/
def startResumed (onPairingCode : Except LocalPairingClientErrorCode Unit) : LocalPairingClient :=
  match c.starting with
  | .attaching s =>
    match c.sockets.get? s with
    | some ⟨.start response, _, some (.ok ())⟩ =>
      let c := (((c.dropAttachWaiter s).removeOpen s).setRemover ⟨s, false⟩).emit
        (.pairingCode response.pairingCode response.expiresAt)
      match onPairingCode with
      | .ok () => c.setStarting (.finished (.ok ()))
      | .error error => c.startFailed s error
    | some ⟨_, _, some (.error error)⟩ => c.startFailed s error
    | _ => c
  | _ => c

/-! ## Callbacks of the sockets -/

/-- `onOpen`. -/
def onOpen (s : ℕ) (sends constructs : Bool) : LocalPairingClient :=
  match c.sockets.get? s with
  | some ⟨owner, ⟨true, _, _, _⟩, _⟩ =>
    match owner with
    | .start response =>
      if sends = true then c.emit (.sent s (.attach (some response.pairingSessionId) c.proof))
      else c.rejectAttached s .PAIRING_UNAVAILABLE
    | .reconnect =>
      if sends = true then c.emit (.sent s (.attach c.sessionId c.proof))
      else c.retryOrReject s .PAIRING_UNAVAILABLE constructs
  | _ => c

def onMessage (s : ℕ) (data : Option PairingChannelMessage) : LocalPairingClient :=
  match c.sockets.get? s with
  | some ⟨_, ⟨_, true, _, _⟩, _⟩ => c.handleMessage s data
  | _ => c

def onError (s : ℕ) (constructs : Bool) : LocalPairingClient :=
  match c.sockets.get? s with
  | some ⟨.start _, ⟨_, _, true, _⟩, _⟩ =>
    if c.attached = true ∧ c.completed = false ∧ c.closed = false then
      (((c.setAttached false).callRemover.dropSocket s).emit (.closed s 1011)).reconnect constructs
    else if c.completed = true then c.rejectAttached s .PAIRING_UNAVAILABLE
    else (c.rejectAttached s .PAIRING_UNAVAILABLE).rejectCredential .PAIRING_UNAVAILABLE
  | some ⟨.reconnect, ⟨_, _, true, _⟩, _⟩ => c.retryOrReject s .PAIRING_UNAVAILABLE constructs
  | _ => c

def onClose (s : ℕ) (constructs : Bool) : LocalPairingClient :=
  match c.sockets.get? s with
  | some ⟨.start _, ⟨_, _, _, true⟩, _⟩ =>
    if c.attached = true ∧ c.completed = false ∧ c.closed = false then
      ((c.dropSocket s).setAttached false).callRemover.reconnect constructs
    else if c.completed = true then c.dropSocket s
    else ((c.dropSocket s).rejectAttached s .PAIRING_CLOSED).rejectCredential .PAIRING_CLOSED
  | some ⟨.reconnect, ⟨_, _, _, true⟩, _⟩ =>
    (c.dropSocket s).retryOrReject s .PAIRING_CLOSED constructs
  | _ => c

/-! ## Steps -/

/-- What the client is called with; `constructs` says that a socket which `#reconnect` makes then is
constructed without an error. -/
inductive Event
  | start (randomBytes : Option (List UInt8))
  | fetched (ok : Option Bool)
  | started (response : Option PairingStartResponse) (constructs : Bool)
  | startResumed (onPairingCode : Except LocalPairingClientErrorCode Unit)
  | opened (s : ℕ) (sends constructs : Bool)
  | message (s : ℕ) (data : Option PairingChannelMessage)
  | errored (s : ℕ) (constructs : Bool)
  | closed (s : ℕ) (constructs : Bool)
  | stored (k : ℕ) (stores : Bool) (readyState : ℕ) (sends : Bool)
  | delayed (i : ℕ) (constructs : Bool)
  | loopResumed (i : ℕ)
  | loopFinished (i : ℕ)
  | close

def step (options : LocalPairingClientOptions) (c : LocalPairingClient) :
    Event → LocalPairingClient
  | .start randomBytes => c.start options randomBytes
  | .fetched ok => c.fetched ok
  | .started response constructs => c.started options response constructs
  | .startResumed onPairingCode => c.startResumed onPairingCode
  | .opened s sends constructs => c.onOpen s sends constructs
  | .message s data => c.onMessage s data
  | .errored s constructs => c.onError s constructs
  | .closed s constructs => c.onClose s constructs
  | .stored k stores readyState sends => c.stored k stores readyState sends
  | .delayed i constructs => c.delayed i constructs
  | .loopResumed i => c.loopResumed i
  | .loopFinished i => c.loopFinished i
  | .close => c.close

end LocalPairingClient

end Doctmcp.Agent.PairingClient
