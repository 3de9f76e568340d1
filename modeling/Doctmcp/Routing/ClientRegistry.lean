import Doctmcp.Lib.OrderedMap
import Doctmcp.Bridge.Closing
import Doctmcp.Routing.Service

/-! # The registry of MCP clients

`RoutedDeviceMcpClientRegistry` of `apps/server`. A session, a call and a run of `#connect` are known
by number, and the promise, the client and the entry of a `#connect` by the number of that run. What
the registry awaits settles in any order, and between two of its turns the sessions, their transports
and the MCP clients do what they like. A client calls `transport.start` once, in `connect`, which
resolves after `start` has, and its `close` closes the transport. -/

namespace Doctmcp.Routing.ClientRegistry
open Doctmcp.Lib Doctmcp.Gateway Doctmcp.Bridge
set_option autoImplicit false

def routeFailed (session : SessionObject) : DeviceRoutingError :=
  if session.state = .ready then
    ⟨.ROUTING_UNAVAILABLE, "Không thể xử lý yêu cầu MCP trên thiết bị."⟩
  else ⟨.DEVICE_OFFLINE, "Device hiện không trực tuyến."⟩

/-- What a run of `#connect` awaits, or what it has come to. -/
inductive ConnectPhase
  /-- `client.connect(transport)`. -/
  | connecting
  /-- `client.close()`, as the registry or the session was closed. -/
  | closingClient
  /-- `transport.close()`, in the `catch`. -/
  | closingTransport
  | resolved
  | rejected
  deriving DecidableEq

structure Connect where
  session : ℕ
  transport : ℕ
  /-- The client has called `transport.start`. -/
  started : Bool
  phase : ConnectPhase
  deriving DecidableEq

inductive Request
  | listTools
  | callTool (name args : String)
  deriving DecidableEq

/-- What a call awaits, or what it has come to; a result is its JSON text. -/
inductive CallPhase
  /-- `deviceRouter.resolve`. -/
  | resolving
  /-- The promise of `#connect`. -/
  | connecting
  /-- The request of the client. -/
  | requesting
  | returned (result : String)
  | thrown (error : DeviceRoutingError)
  deriving DecidableEq

/-- A run of `listTools` or `callTool`, with its local variables. -/
structure Call where
  ownerId : String
  deviceId : String
  request : Request
  session : Option ℕ
  pending : Option ℕ
  entry : Option ℕ
  phase : CallPhase
  deriving DecidableEq

structure ToolCatalog where
  ownerId : String
  result : String
  deriving DecidableEq

/-- The registry, its calls and its connects, and the sessions with their transports. -/
structure World where
  bySession : ℕ → Option ℕ
  entries : List ℕ
  toolCatalogByDevice : OrderedMap String ToolCatalog
  closed : Bool
  /-- `close` awaits the clients. -/
  closing : Bool
  /-- What `close` has come to. -/
  closeResult : Option (Except Thrown Unit)
  connects : Heap Connect
  calls : Heap Call
  scenes : ℕ → Scene

namespace World

/-- The sessions have callbacks of other code at most. -/
def initial (state : ℕ → GatewaySessionState) (onmessage onclose : ℕ → Bool) : World where
  bySession _ := none
  entries := []
  toolCatalogByDevice := .empty
  closed := false
  closing := false
  closeResult := none
  connects := .empty
  calls := .empty
  scenes session :=
    .initial (.untouched (state session) (onmessage session) (onclose session))

/-! ## Sessions -/

def session (w : World) (session : ℕ) : SessionObject := (w.scenes session).session

def transport (w : World) (c : Connect) : Option BridgeClientTransport :=
  (w.scenes c.session).transports.get? c.transport

/-- How often `transport.onclose` was called. -/
def closes (w : World) (c : Connect) : ℕ :=
  (w.transport c).elim 0 fun t => t.effects.count .onclose

/-- The transport of the entry has called `onclose` since `before`. -/
def hasClosed (before w : World) (k : ℕ) : Bool :=
  match w.connects.get? k with
  | none => false
  | some c => before.closes c < w.closes c

/-- A session and its transports go on; the `onclose` of an entry deletes it. -/
def scene (w : World) (session : ℕ) (e : Bridge.Event) : World :=
  let next := { w with
    scenes := Function.update w.scenes session ((w.scenes session).step e) }
  { next with entries := w.entries.filter fun k => !hasClosed w next k }

/-! ## Connecting -/

def setConnect (w : World) (k : ℕ) (f : Connect → Connect) : World :=
  { w with connects := w.connects.modify k f }

/-- `this.#bySession.delete(session)`. -/
def forget (w : World) (session : ℕ) : World :=
  { w with bySession := Function.update w.bySession session none }

/-- `#connect` up to its first `await`; its promise is put into `bySession`. -/
def connect (w : World) (session : ℕ) : World :=
  let created := w.scene session .create
  { created with
    connects := w.connects.alloc
      { session := session, transport := (w.scenes session).transports.next,
        started := false, phase := .connecting }
    bySession := Function.update w.bySession session (some w.connects.next) }

/-- The client calls `transport.start`. -/
def clientStart (w : World) (k : ℕ) : World :=
  match w.connects.get? k with
  | none => w
  | some c =>
    if c.phase = .connecting ∧ c.started = false then
      (w.scene c.session (.start c.transport)).setConnect k fun c => { c with started := true }
    else w

/-- The `catch` of `#connect`. -/
def connectFailed (w : World) (k : ℕ) (c : Connect) : World :=
  let w := w.forget c.session
  if (w.transport c).map (·.state) = some .closed then
    w.setConnect k fun c => { c with phase := .rejected }
  else
    (w.scene c.session (.close c.transport)).setConnect k
      fun c => { c with phase := .closingTransport }

/-- `#connect` goes on after `client.connect`. -/
def connectSettled (w : World) (k : ℕ) (resolves : Bool) : World :=
  match w.connects.get? k with
  | none => w
  | some c =>
    if c.phase ≠ .connecting then w
    else if resolves = false then w.connectFailed k c
    else if (w.transport c).any (fun t => t.effects.contains .startResolved) = false then w
    else if w.closed = true ∨ (w.session c.session).state ≠ .ready then
      (w.scene c.session (.close c.transport)).setConnect k
        fun c => { c with phase := .closingClient }
    else
      { w.setConnect k (fun c => { c with phase := .resolved }) with
        entries := if k ∈ w.entries then w.entries else w.entries ++ [k] }

/-- `#connect` goes on after `client.close`, and throws. -/
def clientCloseSettled (w : World) (k : ℕ) : World :=
  match w.connects.get? k with
  | none => w
  | some c => if c.phase = .closingClient then w.connectFailed k c else w

/-- `#connect` goes on after `transport.close`. -/
def transportCloseSettled (w : World) (k : ℕ) : World :=
  match w.connects.get? k with
  | none => w
  | some c =>
    if c.phase = .closingTransport then w.setConnect k fun c => { c with phase := .rejected } else w

/-! ## Calls -/

def setCall (w : World) (i : ℕ) (f : Call → Call) : World :=
  { w with calls := w.calls.modify i f }

def throws (w : World) (i : ℕ) (error : DeviceRoutingError) : World :=
  w.setCall i fun call => { call with phase := .thrown error }

def call (w : World) (ownerId deviceId : String) (request : Request) : World :=
  { w with
    calls := w.calls.alloc
      { ownerId := ownerId, deviceId := deviceId, request := request, session := none,
        pending := none, entry := none, phase := .resolving } }

/-- `#getEntry` up to its `await`. -/
def getEntry (w : World) (i session : ℕ) : World :=
  if w.closed = true then w.throws i routingUnavailable
  else if (w.session session).state ≠ .ready then w.throws i (routeFailed (w.session session))
  else match w.bySession session with
  | some k => w.setCall i fun call => { call with pending := some k, phase := .connecting }
  | none => (w.connect session).setCall i fun call =>
      { call with pending := some w.connects.next, phase := .connecting }

/-- A call goes on after `deviceRouter.resolve`. -/
def routeResolved (w : World) (i : ℕ) (route : Except DeviceRoutingError ℕ) : World :=
  match w.calls.get? i with
  | none => w
  | some call =>
    if call.phase ≠ .resolving then w
    else match route with
    | .error error => w.throws i error
    | .ok session =>
      (w.setCall i fun call => { call with session := some session }).getEntry i session

/-- `#getEntry` goes on when the promise of `#connect` has settled. -/
def pendingSettled (w : World) (i : ℕ) : World :=
  match w.calls.get? i with
  | none => w
  | some call =>
    match call.phase, call.session, call.pending with
    | .connecting, some session, some k =>
      match w.connects.get? k with
      | none => w
      | some c => match c.phase with
        | .resolved => w.setCall i fun call => { call with entry := some k, phase := .requesting }
        | .rejected => (w.forget session).throws i (routeFailed (w.session session))
        | _ => w
    | _, _, _ => w

/-- A call goes on when the client has answered, or has failed. -/
def clientSettled (w : World) (i : ℕ) (result : Option String) : World :=
  match w.calls.get? i with
  | none => w
  | some call =>
    match call.phase, call.session with
    | .requesting, some session =>
      match result with
      | none => w.throws i (routeFailed (w.session session))
      | some result =>
        let returned := w.setCall i fun call => { call with phase := .returned result }
        match call.request with
        | .callTool _ _ => returned
        | .listTools => { returned with
            toolCatalogByDevice := w.toolCatalogByDevice.set call.deviceId ⟨call.ownerId, result⟩ }
    | _, _ => w

/-! ## Closing -/

/-- `client.close()` of an entry. -/
def clientClose (w : World) (k : ℕ) : World :=
  match w.connects.get? k with
  | none => w
  | some c => w.scene c.session (.close c.transport)

def close (w : World) : World :=
  if w.closed = true then w
  else w.entries.foldl clientClose { w with closed := true, closing := true }

/-- `close` goes on when all clients are closed, or have failed to close. -/
def closeSettled (w : World) (result : Except Thrown Unit) : World :=
  if w.closing = false then w
  else { w with
    entries := [], toolCatalogByDevice := .empty, closing := false, closeResult := some result }

end World

inductive Event
  | listTools (ownerId deviceId : String)
  | callTool (ownerId deviceId name args : String)
  | routeResolved (call : ℕ) (route : Except DeviceRoutingError ℕ)
  | clientStart (connect : ℕ)
  | connectSettled (connect : ℕ) (resolves : Bool)
  | clientCloseSettled (connect : ℕ)
  | transportCloseSettled (connect : ℕ)
  | pendingSettled (call : ℕ)
  | clientSettled (call : ℕ) (result : Option String)
  | close
  | closeSettled (result : Except Thrown Unit)
  /-- A session, its transports, or their clients do something. -/
  | scene (session : ℕ) (e : Bridge.Event)

/-- Only the registry makes transports, and only its clients start them. -/
def isOwn : Bridge.Event → Bool
  | .create => true
  | .start _ => true
  | _ => false

def World.step (w : World) : Event → World
  | .listTools ownerId deviceId => w.call ownerId deviceId .listTools
  | .callTool ownerId deviceId name args => w.call ownerId deviceId (.callTool name args)
  | .routeResolved call route => w.routeResolved call route
  | .clientStart connect => w.clientStart connect
  | .connectSettled connect resolves => w.connectSettled connect resolves
  | .clientCloseSettled connect => w.clientCloseSettled connect
  | .transportCloseSettled connect => w.transportCloseSettled connect
  | .pendingSettled call => w.pendingSettled call
  | .clientSettled call result => w.clientSettled call result
  | .close => w.close
  | .closeSettled result => w.closeSettled result
  | .scene session e => if isOwn e = true then w else w.scene session e

end Doctmcp.Routing.ClientRegistry
