import Doctmcp.Lib.Heap
import Doctmcp.Completion.Service

/-! # The pairing channel coordinator

`PairingChannelCoordinator` of `pairing-channel.ts`, await by await. Entries, deliveries and waiters
are objects: the map `#entries` and the suspended calls refer to them, so a call can hold an entry
that the map no longer has. An asynchronous call runs up to an await and leaves a `Call` behind;
the promise it awaits settles and the call goes on in a step of its own, in any order. The
callbacks are those of the server runtime, which passes all three. -/

namespace Doctmcp.Channel
open Doctmcp.Lib Doctmcp.Lib.Operation Doctmcp.Schemas Doctmcp.Completion
set_option autoImplicit false

inductive PairingChannelErrorCode
  | PAIRING_UNAVAILABLE
  | PAIRING_RATE_LIMITED
  | PAIRING_STORAGE_FAILED
  | PROTOCOL_ERROR
  | TIMEOUT
  | SERVER_SHUTDOWN
  deriving DecidableEq

/-- A `GatewayWebSocketConnection`: the object, and the `id` it shows. -/
structure Socket where
  object : ℕ
  id : String
  deriving DecidableEq

/-- A `pairing.ack` frame. -/
structure PairingAck where
  pairingSessionId : PairingSessionId
  deviceId : DeviceId
  credentialId : CredentialId
  version : ℕ
  deriving DecidableEq

def defaultPairingChannelMaxPending : ℕ := 256
def defaultPairingDeliveryTimeoutMs : ℕ := 30000

/-- The options the constructor accepts. -/
structure CoordinatorOptions where
  maxPendingSessions : ℕ
  deliveryTimeoutMs : ℕ
  maxPendingSessions_safe : 0 < maxPendingSessions ∧ maxPendingSessions ≤ maxSafeInteger
  deliveryTimeoutMs_safe : 0 < deliveryTimeoutMs ∧ deliveryTimeoutMs ≤ maxSafeInteger

def CoordinatorOptions.default : CoordinatorOptions where
  maxPendingSessions := defaultPairingChannelMaxPending
  deliveryTimeoutMs := defaultPairingDeliveryTimeoutMs
  maxPendingSessions_safe := by decide
  deliveryTimeoutMs_safe := by decide

/-! ## Proofs -/

def isProofCharacter (c : Char) : Bool := isAlphanumeric c || c == '_' || c == '-'

/-- `pairingChannelProofSchema`: `/^[A-Za-z0-9_-]{43}$/`. -/
def pairingChannelProofSchema (proof : String) : Bool :=
  JsString.fits (List.replicate 43 isProofCharacter) proof.toList

/-- `CHANNEL_PROOF_DIGEST_PREFIX`. -/
def channelProofDigestPrefix : String := "doctmcp-pairing-channel:v1\x00"

def digestProof (proof : String) : String :=
  Sha256.hex (Sha256.digest (Sha256.encode (channelProofDigestPrefix ++ proof)))

def constantTimeHexEqual (left right : String) : Bool :=
  decide (JsString.length left = 64 ∧ JsString.length right = 64 ∧ left = right)

/-! ## Objects -/

inductive Settlement
  | resolved
  | rejected (code : PairingChannelErrorCode)
  deriving DecidableEq

/-- A waiter, and how often its promise was settled. -/
structure DeliveryWaiter where
  delivery : ℕ
  timer : Bool
  settlements : List Settlement
  deriving DecidableEq

/-- A `PendingDelivery`, and the entry it was created for. -/
structure PendingDelivery where
  entry : ℕ
  completed : CompletedPairingCredential
  waiters : List ℕ
  sentSocketId : Option String
  acknowledging : Bool
  deriving DecidableEq

/-- A `PairingChannelEntry`. The last two fields are its history, which the source does not keep:
the proof that was registered, and the proof that its socket presented. -/
structure PairingChannelEntry where
  session : PairingSession
  proofDigest : String
  expiryTimer : Bool
  deadlineMs : ℤ
  socket : Option Socket
  attaching : Bool
  delivery : Option ℕ
  proof : String
  presented : Option String
  deriving DecidableEq

/-- An asynchronous call at the promise it awaits, or at its end. -/
inductive Call
  | registerDigest (session : PairingSession) (proof : String)
  | attachDigest (entry : ℕ) (socket : Socket) (proof : String)
  | attachSent (entry : ℕ) (socket : Socket)
  /-- The send of `#sendPendingDelivery`, and the waiter whose promise `deliver` returns then. -/
  | credentialSent (entry : ℕ) (socket : Socket) (delivery : ℕ) (waiter : Option ℕ)
  | cancelSession (entry : ℕ)
  | acknowledgeDelivery (entry delivery : ℕ) (socket : Socket) (message : PairingAck)
  /-- The callback has succeeded, and `acknowledge` has not gone on. -/
  | deliveryAcknowledged (entry delivery : ℕ) (socket : Socket) (message : PairingAck)
  | deliveryRefused (delivery : ℕ)
  | closeSent (socket : Socket)
  /-- `close` in its loop: the entry whose session is being cancelled, and those after it. -/
  | closeSession (entry : ℕ) (rest : List ℕ)
  | waiting (waiter : ℕ)
  | returned
  | threw (code : PairingChannelErrorCode)
  deriving DecidableEq

deriving instance DecidableEq for AcknowledgePairingCredentialDeliveryInput

/-- What a step does to the outside, or learns from it. -/
inductive Effect
  | forgetPendingCompletion (pairingSessionId : PairingSessionId) (preserveDelivered : Bool)
  | cancelPairingSession (pairingSessionId : PairingSessionId)
  /-- The callback is called, on a message from a socket. -/
  | acknowledgeDelivery (socket : Socket) (message : PairingAck)
      (input : AcknowledgePairingCredentialDeliveryInput)
  /-- The callback has succeeded for that message. -/
  | deliveryAcknowledged (message : PairingAck)
  | attached (socket : Socket) (pairingSessionId : PairingSessionId) (expiresAt : ℤ)
  | credential (socket : Socket) (completed : CompletedPairingCredential)
  | pairingClose (socket : Socket)
  | close (socket : Socket) (code : ℕ) (reason : String)
  deriving DecidableEq

/-- The coordinator with its objects and calls, and the effects of its last step, newest first. -/
structure Coordinator where
  heap : Heap PairingChannelEntry
  deliveries : Heap PendingDelivery
  waiters : Heap DeliveryWaiter
  calls : Heap Call
  entries : OrderedMap PairingSessionId ℕ
  closed : Bool
  effects : List Effect

/-- `new PairingChannelCoordinator(...)`. -/
def Coordinator.new : Coordinator where
  heap := Heap.empty
  deliveries := Heap.empty
  waiters := Heap.empty
  calls := Heap.empty
  entries := OrderedMap.empty
  closed := false
  effects := []

namespace Coordinator

/-- The entry that the map has for a session. -/
def entryOf (c : Coordinator) (id : PairingSessionId) : Option (ℕ × PairingChannelEntry) :=
  (c.entries.get? id).bind fun e => (c.heap.get? e).map fun entry => (e, entry)

/-- The session that an entry was registered for. -/
def sessionOf (c : Coordinator) (e : ℕ) : Option PairingSessionId :=
  (c.heap.get? e).map (·.session.pairingSessionId)

def emit (effect : Effect) (c : Coordinator) : Coordinator := { c with effects := effect :: c.effects }

def modifyEntry (e : ℕ) (f : PairingChannelEntry → PairingChannelEntry) (c : Coordinator) : Coordinator :=
  { c with heap := c.heap.modify e f }

def modifyDelivery (d : ℕ) (f : PendingDelivery → PendingDelivery) (c : Coordinator) : Coordinator :=
  { c with deliveries := c.deliveries.modify d f }

/-- Settle the promises of waiters, and clear their timers. -/
def settle (ws : List ℕ) (settlement : Settlement) (c : Coordinator) : Coordinator :=
  { c with
    waiters := c.waiters.modifyAll ws fun waiter =>
      { waiter with timer := false, settlements := settlement :: waiter.settlements } }

def waitersOf (c : Coordinator) (d : ℕ) : List ℕ :=
  match c.deliveries.get? d with
  | some delivery => delivery.waiters
  | none => []

def clearWaiters (d : ℕ) (c : Coordinator) : Coordinator :=
  c.modifyDelivery d fun delivery => { delivery with waiters := [] }

/-- `#rejectWaiters`. -/
def rejectWaiters (d : ℕ) (code : PairingChannelErrorCode) (c : Coordinator) : Coordinator :=
  (c.clearWaiters d).settle (c.waitersOf d) (.rejected code)

/-- `if (entry.delivery) this.#rejectWaiters(entry.delivery, error);` -/
def rejectDelivery (entry : PairingChannelEntry) (code : PairingChannelErrorCode) (c : Coordinator) :
    Coordinator :=
  match entry.delivery with
  | some d => c.rejectWaiters d code
  | none => c

/-- `entry.socket?.close(code, reason);` -/
def closeSocket (entry : PairingChannelEntry) (code : ℕ) (reason : String) (c : Coordinator) :
    Coordinator :=
  match entry.socket with
  | some socket => c.emit (.close socket code reason)
  | none => c

/-- What `#removeEntry` leaves of an entry. -/
def removed (entry : PairingChannelEntry) : PairingChannelEntry :=
  { entry with expiryTimer := false, proofDigest := "", delivery := none, socket := none }

/-- `#removeEntry`: the map forgets the session, whichever entry it had for it. -/
def removeEntry (e : ℕ) (entry : PairingChannelEntry) (preserveDeliveredCompletion : Bool)
    (c : Coordinator) : Coordinator :=
  let c := { c with entries := c.entries.delete entry.session.pairingSessionId }
  let c := c.emit (.forgetPendingCompletion entry.session.pairingSessionId
    preserveDeliveredCompletion)
  let c := c.rejectDelivery entry .PAIRING_UNAVAILABLE
  c.modifyEntry e removed

/-- Reject the waiters of an entry, close its socket and remove it. -/
def discard (e : ℕ) (entry : PairingChannelEntry) (error : PairingChannelErrorCode) (code : ℕ)
    (reason : String) (c : Coordinator) : Coordinator :=
  ((c.rejectDelivery entry error).closeSocket entry code reason).removeEntry e entry false

/-- `#expire`. -/
def expire (id : PairingSessionId) (c : Coordinator) : Coordinator :=
  match c.entryOf id with
  | some (e, entry) => c.discard e entry .TIMEOUT 1000 "Pairing expired"
  | none => c

/-- Put a call where the rest of it stands. -/
def setCall (i : ℕ) (call : Call) (c : Coordinator) : Coordinator :=
  { c with calls := c.calls.modify i fun _ => call }

end Coordinator

/-! ## The calls, from await to await -/

/-- Code between two awaits: it throws, or returns where the call stands. -/
abbrev Segment := Operation Coordinator PairingChannelErrorCode

namespace Segment
open Coordinator

def readTimestamp (date : JsDate) : Except PairingChannelErrorCode ℤ :=
  orThrow date .PAIRING_UNAVAILABLE

def update (f : Coordinator → Coordinator) : Segment Unit := do
  let c ← get
  set (f c)

def ensureOpen : Segment Unit := do
  let c ← get
  failIf (c.closed = true) .SERVER_SHUTDOWN

def parseSessionId (id : String) : Except PairingChannelErrorCode PairingSessionId :=
  orThrow (pairingSessionIdSchema id) .PAIRING_UNAVAILABLE

/-- The object that a reference of the source is to. -/
def readEntry (e : ℕ) : Segment PairingChannelEntry := do
  let c ← get
  let entry ← (orThrow (c.heap.get? e) .PAIRING_UNAVAILABLE :
    Except PairingChannelErrorCode PairingChannelEntry)
  return entry

/-- `#liveEntry`. -/
def liveEntry (id : String) (now : JsDate) : Segment (ℕ × PairingChannelEntry) := do
  let id ← parseSessionId id
  let c ← get
  let (e, entry) ← (orThrow (c.entryOf id) .PAIRING_UNAVAILABLE :
    Except PairingChannelErrorCode (ℕ × PairingChannelEntry))
  let now ← readTimestamp now
  if entry.deadlineMs ≤ now then
    update (expire id)
    throw .PAIRING_UNAVAILABLE
  else return (e, entry)

/-- `#pruneExpired`. -/
def pruneExpired (now : JsDate) : Segment Unit := do
  let now ← readTimestamp now
  update fun c => c.entries.keys.foldl (fun c id =>
    match c.entryOf id with
    | some (_, entry) => if entry.deadlineMs ≤ now then c.expire id else c
    | none => c) c

variable (options : CoordinatorOptions)

/-! ### Registering -/

def register (session : PairingSession) (proof : String) (now : JsDate) : Segment Call := do
  ensureOpen
  failIf (pairingChannelProofSchema proof = false ∨ session.state ≠ .pending ∨
    session.claimedAt.isSome = true ∨ session.deviceId.isSome = true) .PAIRING_UNAVAILABLE
  let now ← readTimestamp now
  failIf (session.expiresAt ≤ now) .PAIRING_UNAVAILABLE
  return .registerDigest session proof

/-- The entry of a session that is registered with a proof. -/
def newEntry (session : PairingSession) (proof : String) : PairingChannelEntry where
  session := session
  proofDigest := digestProof proof
  expiryTimer := true
  deadlineMs := session.expiresAt + options.deliveryTimeoutMs
  socket := none
  attaching := false
  delivery := none
  proof := proof
  presented := none

/-- `register` after its digest, with the readings for pruning, for the check and for the timer. -/
def registerDigested (session : PairingSession) (proof : String) (prune check timer : JsDate) :
    Segment Call := do
  ensureOpen
  pruneExpired prune
  let now ← readTimestamp check
  let c ← get
  failIf (session.expiresAt ≤ now ∨ c.entries.has session.pairingSessionId = true)
    .PAIRING_UNAVAILABLE
  failIf (options.maxPendingSessions ≤ c.entries.size) .PAIRING_RATE_LIMITED
  let _ ← readTimestamp timer
  update fun c => { c with
    heap := c.heap.alloc (newEntry options session proof)
    entries := c.entries.set session.pairingSessionId c.heap.next }
  return .returned

/-! ### Attaching -/

def attach (id proof : String) (socket : Socket) (now : JsDate) : Segment Call := do
  ensureOpen
  failIf (pairingSessionIdSchema id = none ∨ pairingChannelProofSchema proof = false)
    .PAIRING_UNAVAILABLE
  let (e, entry) ← liveEntry id now
  failIf (entry.socket.isSome = true ∨ entry.attaching = true) .PAIRING_UNAVAILABLE
  update (modifyEntry e fun entry => { entry with attaching := true })
  return .attachDigest e socket proof

/-- The `catch` and the `finally` of `attach`. -/
def attachFailed (e : ℕ) (socket : Socket) : Segment Call := do
  update (modifyEntry e fun entry => { entry with
    socket := if entry.socket = some socket then none else entry.socket
    attaching := false })
  throw .PAIRING_UNAVAILABLE

/-- The `finally` of `attach`. -/
def attachFinished (e : ℕ) : Segment Call := do
  update (modifyEntry e fun entry => { entry with attaching := false })
  return .returned

def attachDigested (e : ℕ) (socket : Socket) (proof : String) : Segment Call := do
  let c ← get
  let entry ← readEntry e
  if c.entries.get? entry.session.pairingSessionId ≠ some e ∨
      constantTimeHexEqual entry.proofDigest (digestProof proof) = false then
    attachFailed e socket
  else
    update (modifyEntry e fun entry =>
      { entry with socket := some socket, presented := some proof })
    update (emit (.attached socket entry.session.pairingSessionId entry.session.expiresAt))
    return .attachSent e socket

/-! ### Sending a credential -/

/-- What awaits the end of `#sendPendingDelivery`: `deliver` with its waiter, or `attach`. -/
def credentialDone (e : ℕ) : Option ℕ → Segment Call
  | some waiter => return .waiting waiter
  | none => attachFinished e

/-- `#sendPendingDelivery` up to its send. -/
def sendPendingDelivery (e : ℕ) (socket : Socket) (waiter : Option ℕ) : Segment Call := do
  let c ← get
  let entry ← readEntry e
  match entry.delivery.bind fun d => (c.deliveries.get? d).map fun delivery => (d, delivery) with
  | none => credentialDone e waiter
  | some (d, delivery) =>
    if entry.socket ≠ some socket ∨ delivery.sentSocketId = some socket.id then
      credentialDone e waiter
    else
      update (modifyDelivery d fun delivery => { delivery with sentSocketId := some socket.id })
      update (emit (.credential socket delivery.completed))
      return .credentialSent e socket d waiter

/-- After the send: a failed one gives the socket up. -/
def credentialSettled (e : ℕ) (socket : Socket) (d : ℕ) (waiter : Option ℕ) (ok : Bool) :
    Segment Call := do
  if ok = false then
    update (modifyEntry e fun entry => { entry with
      socket := if entry.socket = some socket then none else entry.socket })
    update (modifyDelivery d fun delivery => { delivery with
      sentSocketId := if delivery.sentSocketId = some socket.id then none
        else delivery.sentSocketId })
    credentialDone e waiter
  else credentialDone e waiter

/-- `attach` after it has sent `pairing.attached`. -/
def attachSettled (e : ℕ) (socket : Socket) (ok : Bool) : Segment Call := do
  if ok = false then attachFailed e socket
  else
    let entry ← readEntry e
    if entry.delivery.isSome = true then sendPendingDelivery e socket none else attachFinished e

def detach (id : String) (socket : Socket) : Segment Call := do
  match pairingSessionIdSchema id with
  | none => return .returned
  | some id =>
    let c ← get
    match c.entryOf id with
    | none => return .returned
    | some (e, entry) =>
      if entry.socket ≠ some socket then return .returned
      else
        update (modifyEntry e fun entry => { entry with socket := none })
        match entry.delivery with
        | none => return .returned
        | some d =>
          update (modifyDelivery d fun delivery => { delivery with
            sentSocketId := if delivery.sentSocketId = some socket.id then none
              else delivery.sentSocketId })
          return .returned

/-! ### Cancelling and closing -/

/-- `cancel` after `cancelPairingSession` has settled. -/
def cancelled (e : ℕ) : Segment Call := do
  let entry ← readEntry e
  update (discard e entry .PAIRING_UNAVAILABLE 1000 "Pairing cancelled")
  return .returned

def cancel (id : String) (socket : Option Socket) : Segment Call := do
  let id ← parseSessionId id
  let c ← get
  let (e, entry) ← (orThrow (c.entryOf id) .PAIRING_UNAVAILABLE :
    Except PairingChannelErrorCode (ℕ × PairingChannelEntry))
  failIf (socket.isSome = true ∧ entry.socket ≠ socket) .PAIRING_UNAVAILABLE
  if entry.session.state = .pending then
    update (emit (.cancelPairingSession entry.session.pairingSessionId))
    return .cancelSession e
  else cancelled e

/-- The end of one iteration of the loop of `close`. -/
def closeEntry (e : ℕ) : Segment Unit := do
  let entry ← readEntry e
  update (discard e entry .SERVER_SHUTDOWN 1012 "Server shutdown")

/-- The loop of `close`, up to its next await. -/
def closeLoop : List ℕ → Segment Call
  | [] => return .returned
  | e :: rest => do
    let entry ← readEntry e
    if entry.session.state = .pending then
      update (emit (.cancelPairingSession entry.session.pairingSessionId))
      return .closeSession e rest
    else
      closeEntry e
      closeLoop rest

def close : Segment Call := do
  let c ← get
  if c.closed = true then return .returned
  else
    update fun c => { c with closed := true }
    closeLoop c.entries.values

/-! ### Delivering -/

/-- `#createWaiter`; the reference of the new waiter. -/
def createWaiter (d : ℕ) : Segment ℕ := do
  let c ← get
  update fun c => { c with
    waiters := c.waiters.alloc ⟨d, true, []⟩
    deliveries := c.deliveries.modify d fun delivery =>
      { delivery with waiters := delivery.waiters ++ [c.waiters.next] } }
  return c.waiters.next

/-- `#setDeadline`: the old timer is cleared before the clock is read. -/
def setDeadline (e : ℕ) (deadlineMs : ℤ) (timer : JsDate) : Segment Unit := do
  update (modifyEntry e fun entry => { entry with expiryTimer := false, deadlineMs := deadlineMs })
  let _ ← readTimestamp timer
  update (modifyEntry e fun entry => { entry with expiryTimer := true })

/-- The delivery of a completed credential whose entry has none yet. -/
def newDelivery (e : ℕ) (completed : CompletedPairingCredential) : PendingDelivery where
  entry := e
  completed := completed
  waiters := []
  sentSocketId := none
  acknowledging := false

/-- `deliver` from its `createWaiter` on. -/
def awaitDelivery (e d : ℕ) : Segment Call := do
  let waiter ← createWaiter d
  let entry ← readEntry e
  match entry.socket with
  | some socket => sendPendingDelivery e socket (some waiter)
  | none => return .waiting waiter

/-- `deliver`, with its readings in `#liveEntry`, for the deadline and for the timer. -/
def deliver (completed : CompletedPairingCredential) (live deadline timer : JsDate) :
    Segment Call := do
  ensureOpen
  failIf (completed.session.state ≠ .claimed ∨
    completed.session.deviceId ≠ some completed.device.deviceId) .PAIRING_UNAVAILABLE
  let claimedAt ← (orThrow completed.session.claimedAt .PAIRING_UNAVAILABLE :
    Except PairingChannelErrorCode ℤ)
  failIf (completed.session.expiresAt ≤ claimedAt) .PAIRING_UNAVAILABLE
  let (e, entry) ← liveEntry completed.session.pairingSessionId.value live
  failIf (entry.session.pairingSessionId ≠ completed.session.pairingSessionId)
    .PAIRING_UNAVAILABLE
  match entry.delivery with
  | none =>
    let now ← readTimestamp deadline
    if claimedAt + options.deliveryTimeoutMs ≤ now then
      update (expire entry.session.pairingSessionId)
      throw .TIMEOUT
    else
      setDeadline e (claimedAt + options.deliveryTimeoutMs) timer
      let c ← get
      update fun c => { c with deliveries := c.deliveries.alloc (newDelivery e completed) }
      update (modifyEntry e fun entry => { entry with delivery := some c.deliveries.next })
      awaitDelivery e c.deliveries.next
  | some d =>
    let c ← get
    let delivery ← (orThrow (c.deliveries.get? d) .PAIRING_UNAVAILABLE :
      Except PairingChannelErrorCode PendingDelivery)
    failIf (delivery.completed.credential.credentialId ≠ completed.credential.credentialId ∨
      delivery.completed.credential.version ≠ completed.credential.version ∨
      delivery.completed.secret ≠ completed.secret) .PAIRING_UNAVAILABLE
    awaitDelivery e d

/-! ### Acknowledging -/

/-- The input that the callback gets for a delivered credential. -/
def acknowledgeInput (completed : CompletedPairingCredential) :
    AcknowledgePairingCredentialDeliveryInput where
  pairingSessionId := completed.session.pairingSessionId.value
  ownerId := completed.device.ownerId
  credentialId := completed.credential.credentialId.value
  credentialVersion := completed.credential.version

/-- The message names the credential that the delivery is of. -/
def matchesDelivery (message : PairingAck) (completed : CompletedPairingCredential) : Prop :=
  completed.device.deviceId = message.deviceId ∧
    completed.credential.credentialId = message.credentialId ∧
    completed.credential.version = message.version

instance (message : PairingAck) (completed : CompletedPairingCredential) :
    Decidable (matchesDelivery message completed) := inferInstanceAs (Decidable (_ ∧ _ ∧ _))

def acknowledge (socket : Socket) (message : PairingAck) (now : JsDate) : Segment Call := do
  let (e, entry) ← liveEntry message.pairingSessionId.value now
  let c ← get
  let (d, delivery) ← (orThrow (entry.delivery.bind fun d =>
      (c.deliveries.get? d).map fun delivery => (d, delivery)) .PAIRING_UNAVAILABLE :
    Except PairingChannelErrorCode (ℕ × PendingDelivery))
  failIf (entry.socket ≠ some socket ∨ delivery.acknowledging = true ∨
    ¬ matchesDelivery message delivery.completed) .PAIRING_UNAVAILABLE
  update (modifyDelivery d fun delivery => { delivery with acknowledging := true })
  update (emit (.acknowledgeDelivery socket message (acknowledgeInput delivery.completed)))
  return .acknowledgeDelivery e d socket message

/-- The callback settles. -/
def acknowledgeSettled (e d : ℕ) (socket : Socket) (message : PairingAck) (ok : Bool) :
    Segment Call := do
  if ok = true then
    update (emit (.deliveryAcknowledged message))
    return .deliveryAcknowledged e d socket message
  else return .deliveryRefused d

/-- The `catch` of `acknowledge`. -/
def deliveryRefused (d : ℕ) : Segment Call := do
  update (modifyDelivery d fun delivery => { delivery with acknowledging := false })
  update (rejectWaiters d .PAIRING_UNAVAILABLE)
  throw .PAIRING_UNAVAILABLE

/-- `acknowledge` after its `try`. -/
def deliveryAcknowledged (e d : ℕ) (socket : Socket) : Segment Call := do
  let c ← get
  let entry ← readEntry e
  update (clearWaiters d)
  update (removeEntry e entry true)
  update (settle (c.waitersOf d) .resolved)
  update (emit (.pairingClose socket))
  return .closeSent socket

def closeSent (socket : Socket) : Segment Call := do
  update (emit (.close socket 1000 "Pairing complete"))
  return .returned

def reportClientError (socket : Socket) : Segment Call := do
  let c ← get
  match (c.entries.values.filterMap c.heap.get?).find? fun entry =>
      entry.socket = some socket ∧ entry.delivery.isSome = true with
  | none => throw .PAIRING_UNAVAILABLE
  | some entry =>
    update (rejectDelivery entry .PAIRING_STORAGE_FAILED)
    return .returned

/-! ## Steps -/

/-- The code after the await at which a call stands, when the promise is fulfilled (`ok`) or
rejected. The readings are those of `register`, the only one that reads the clock again. -/
def resume (ok : Bool) (prune check timer : JsDate) : Call → Segment Call
  | .registerDigest session proof => registerDigested options session proof prune check timer
  | .attachDigest e socket proof => attachDigested e socket proof
  | .attachSent e socket => attachSettled e socket ok
  | .credentialSent e socket d waiter => credentialSettled e socket d waiter ok
  | .cancelSession e => cancelled e
  | .acknowledgeDelivery e d socket message => acknowledgeSettled e d socket message ok
  | .deliveryAcknowledged e d socket _ => deliveryAcknowledged e d socket
  | .deliveryRefused d => deliveryRefused d
  | .closeSent socket => closeSent socket
  | .closeSession e rest => do
    closeEntry e
    closeLoop rest
  | call => return call

end Segment

/-- A call of a public method. -/
inductive Request
  | register (session : PairingSession) (proof : String) (now : JsDate)
  | attach (pairingSessionId proof : String) (socket : Socket) (now : JsDate)
  | detach (pairingSessionId : String) (socket : Socket)
  | cancel (pairingSessionId : String) (socket : Option Socket)
  | deliver (completed : CompletedPairingCredential) (live deadline timer : JsDate)
  | acknowledge (socket : Socket) (message : PairingAck) (now : JsDate)
  | reportClientError (socket : Socket)
  | close

inductive Event
  | request (request : Request)
  /-- The promise that call `i` awaits settles, and the call goes on. -/
  | resume (i : ℕ) (ok : Bool) (prune check timer : JsDate)
  | expiryTimer (entry : ℕ)
  | waiterTimer (waiter : ℕ)

variable (options : CoordinatorOptions)

def Request.segment : Request → Segment Call
  | .register session proof now => Segment.register session proof now
  | .attach id proof socket now => Segment.attach id proof socket now
  | .detach id socket => Segment.detach id socket
  | .cancel id socket => Segment.cancel id socket
  | .deliver completed live deadline timer =>
    Segment.deliver options completed live deadline timer
  | .acknowledge socket message now => Segment.acknowledge socket message now
  | .reportClientError socket => Segment.reportClientError socket
  | .close => Segment.close

/-- Where a call stands after a segment. -/
def standing (result : Except PairingChannelErrorCode Call) : Call :=
  match result with
  | .ok call => call
  | .error code => .threw code

namespace Coordinator

/-- The timer of an entry fires, if it is set. -/
def fireExpiry (e : ℕ) (c : Coordinator) : Coordinator :=
  match c.heap.get? e with
  | none => c
  | some entry =>
    if entry.expiryTimer = true then
      (c.modifyEntry e fun entry => { entry with expiryTimer := false }).expire
        entry.session.pairingSessionId
    else c

/-- The timer of a waiter fires, if it is set. -/
def fireWaiter (w : ℕ) (c : Coordinator) : Coordinator :=
  match c.waiters.get? w with
  | none => c
  | some waiter =>
    if waiter.timer = true then
      (c.modifyDelivery waiter.delivery fun delivery =>
        { delivery with waiters := delivery.waiters.filter (· ≠ w) }).settle [w] (.rejected .TIMEOUT)
    else c

/-- One step of the coordinator. -/
def step (c : Coordinator) : Event → Coordinator
  | .request request =>
    let out := exec (request.segment options) { c with effects := [] }
    { out.2 with calls := out.2.calls.alloc (standing out.1) }
  | .resume i ok prune check timer =>
    match c.calls.get? i with
    | none => { c with effects := [] }
    | some call =>
      let out := exec (Segment.resume options ok prune check timer call) { c with effects := [] }
      out.2.setCall i (standing out.1)
  | .expiryTimer e => fireExpiry e { c with effects := [] }
  | .waiterTimer w => fireWaiter w { c with effects := [] }

end Coordinator
end Doctmcp.Channel
