import Doctmcp.Gateway.HeartbeatRuns
import Doctmcp.Routing.Consistency

/-! # The heartbeat of the runtime

`onHeartbeat`, `onSession` and `onSessionClosed` of `server-runtime.ts` around one gateway connection:
the registry with whatever other sessions do to it, and the credentials that are active. An eviction
and the close of the evicted session are one step, as in the source. -/

namespace Doctmcp.Routing.Heartbeat
open Doctmcp.Lib Doctmcp.Lib.Operation Doctmcp.Schemas Doctmcp.Gateway DeviceSessionRegistry
open Gateway.Heartbeat (GatewayOptions Callback Validation handlePong)
set_option autoImplicit false

/-! ## `onHeartbeat` -/

section
variable (options : RegistryOptions) (states : SessionStates)

/-- `onHeartbeat` up to its call of `credentialRepository.getActive`. -/
def beginHeartbeat (session : BridgeGatewaySession) :
    Operation DeviceSessionRegistry JsError ActiveDeviceSession := do
  match ← getBySession session with
  | none => throw (.error "Heartbeat session is not registered")
  | some registered =>
    failIf (session.identity = none) (.error "Heartbeat session is not registered")
    return registered

/-- `onHeartbeat` from the answer of `getActive`. -/
def endHeartbeat (now : JsDate) (session : BridgeGatewaySession) (registered : ActiveDeviceSession)
    (active : Option DeviceSessionCredentialGeneration) :
    Operation DeviceSessionRegistry JsError Unit := do
  if active ≠ some registered.credentialGeneration then
    let _ ← evictSession session
    throw (.error "Heartbeat credential generation is no longer active")
  else
    let marked ← markHeartbeat options states now session
    failIf (marked = false) (.error "Heartbeat session was replaced during validation")

end

/-! ## The runtime around a connection -/

/-- How far the `onHeartbeat` of the running validation is. -/
inductive HeartbeatStage
  | queued
  | reading (registered : ActiveDeviceSession)
  | answered (registered : ActiveDeviceSession) (active : Option DeviceSessionCredentialGeneration)
  | resolved (registered : ActiveDeviceSession)
  | rejected

structure HeartbeatCall where
  session : BridgeGatewaySession
  stage : HeartbeatStage

structure RuntimeWorld where
  gateway : Gateway.Heartbeat.World
  registry : DeviceSessionRegistry
  /-- The states of the other sessions. -/
  others : SessionStates
  /-- The generation of the active credential of each device. -/
  active : DeviceId → Option DeviceSessionCredentialGeneration
  call : Option HeartbeatCall

def RuntimeWorld.new (others : SessionStates)
    (active : DeviceId → Option DeviceSessionCredentialGeneration) : RuntimeWorld :=
  ⟨.new, DeviceSessionRegistry.new, others, active, none⟩

inductive RuntimeEvent
  | open
  /-- The end of the handshake, with the generation that `validateSessionReady` found and what the
  callback of the surroundings does after the registration. -/
  | ready (session : BridgeGatewaySession) (now : ℤ) (source : RegistrySource)
      (generation : Option DeviceSessionCredentialGeneration) (callback : Callback)
  | tick (now : ℤ) (nonce : UuidV4) (sent : Bool)
  | pong (payload : List UInt8)
  | fail
  | close
  | finalize
  /-- `onHeartbeat` is called. -/
  | call
  /-- `getActive` reads the active credential, or fails. -/
  | answer (succeeds : Bool)
  /-- `onHeartbeat` goes on after `getActive`. -/
  | resume (now : JsDate)
  /-- The validation settles as `onHeartbeat` did. -/
  | settle (now : ℤ)
  /-- Another session is registered; the session it replaces is closed. -/
  | register (source : RegistrySource) (session : BridgeGatewaySession) (credentialId : String)
      (credentialVersion : JsNumber)
  /-- `evictCredentialGeneration`: the evicted session is closed. -/
  | invalidate (deviceId : DeviceId) (generation : DeviceSessionCredentialGeneration)
  /-- `onHeartbeat` and `onSessionClosed` of another session. -/
  | otherHeartbeat (now : JsDate) (session : BridgeGatewaySession)
  | otherClosed (session : BridgeGatewaySession)
  /-- The gateway changes the state of another session. -/
  | changes (session : BridgeGatewaySession) (state : GatewaySessionState)
  /-- The active credential of a device changes. -/
  | credential (deviceId : DeviceId) (generation : Option DeviceSessionCredentialGeneration)

section
variable (gatewayOptions : GatewayOptions) (options : RegistryOptions)

namespace RuntimeWorld

/-- The state of every session, that of the connection included. -/
def states (w : RuntimeWorld) : SessionStates := fun session =>
  if w.gateway.connection.session = some session then w.gateway.connection.state
  else w.others session

/-- `onSessionClosed` of the connection. -/
def sessionClosed (w : RuntimeWorld) : DeviceSessionRegistry :=
  match w.gateway.connection.session with
  | none => w.registry
  | some session => (exec (evictSession session) w.registry).2

/-- A step of the connection; when it finalizes, the session is evicted. -/
def gatewayStep (w : RuntimeWorld) (e : Gateway.Heartbeat.Event) : RuntimeWorld :=
  { w with
    gateway := w.gateway.step gatewayOptions e
    registry :=
      if (w.gateway.step gatewayOptions e).connection.finalized ∧ ¬ w.gateway.connection.finalized
      then w.sessionClosed else w.registry }

/-- The connection is closed when its session is the one that was evicted. -/
def closeEvicted (w : RuntimeWorld) (evicted : Option ActiveDeviceSession) : RuntimeWorld :=
  if evicted.map (·.session) = w.gateway.connection.session ∧ evicted ≠ none then
    w.gatewayStep gatewayOptions .close
  else w

/-- `onSession`: the registry after it, and whether it throws. -/
def onSession (w : RuntimeWorld) (session : BridgeGatewaySession) (source : RegistrySource)
    (generation : Option DeviceSessionCredentialGeneration) : DeviceSessionRegistry × Bool :=
  match session.identity, generation with
  | none, _ => (w.registry, false)
  | some _, none => (w.registry, true)
  | some _, some generation =>
    let registered := exec (register (Function.update w.others session .ready) source session
      generation.credentialId (some (.ofNat generation.credentialVersion))) w.registry
    (registered.2, registered.1.toOption.isNone)

def onReady (w : RuntimeWorld) (session : BridgeGatewaySession) (now : ℤ) (source : RegistrySource)
    (generation : Option DeviceSessionCredentialGeneration) (callback : Callback) : RuntimeWorld :=
  if w.gateway.connection.finalized ∨ w.gateway.connection.state ≠ .handshaking ∨
      w.gateway.connection.ws = false then w
  else
    let announced := w.onSession session source generation
    gatewayStep gatewayOptions { w with registry := announced.1 }
      (.ready session now ⟨!announced.2 && callback.closes, announced.2 || callback.throws⟩)

/-- A pong, and the call of `onHeartbeat` that it queues. -/
def onPong (w : RuntimeWorld) (payload : List UInt8) : RuntimeWorld :=
  match handlePong w.gateway.connection payload with
  | none => w
  | some validation =>
    { w.gatewayStep gatewayOptions (.pong payload) with call := some ⟨validation.session, .queued⟩ }

/-- `onHeartbeat` from one `await` to the next. -/
def onCall (w : RuntimeWorld) : RuntimeWorld :=
  match w.call with
  | some ⟨session, .queued⟩ =>
    match exec (beginHeartbeat session) w.registry with
    | (.ok registered, registry) =>
      { w with registry := registry, call := some ⟨session, .reading registered⟩ }
    | (.error _, registry) => { w with registry := registry, call := some ⟨session, .rejected⟩ }
  | _ => w

def onAnswer (w : RuntimeWorld) (succeeds : Bool) : RuntimeWorld :=
  match w.call with
  | some ⟨session, .reading registered⟩ =>
    { w with call := some ⟨session,
        if succeeds then .answered registered (w.active registered.deviceId) else .rejected⟩ }
  | _ => w

def onResume (w : RuntimeWorld) (now : JsDate) : RuntimeWorld :=
  match w.call with
  | some ⟨session, .answered registered active⟩ =>
    match exec (endHeartbeat options w.states now session registered active) w.registry with
    | (.ok _, registry) =>
      { w with registry := registry, call := some ⟨session, .resolved registered⟩ }
    | (.error _, registry) => { w with registry := registry, call := some ⟨session, .rejected⟩ }
  | _ => w

def onSettle (w : RuntimeWorld) (now : ℤ) : RuntimeWorld :=
  match w.call with
  | some ⟨_, .resolved _⟩ =>
    { w.gatewayStep gatewayOptions (.settled true now) with call := none }
  | some ⟨_, .rejected⟩ =>
    { w.gatewayStep gatewayOptions (.settled false now) with call := none }
  | _ => w

/-- Whether the session is that of the connection. -/
def Own (w : RuntimeWorld) (session : BridgeGatewaySession) : Prop :=
  w.gateway.connection.session = some session

instance (w : RuntimeWorld) (session : BridgeGatewaySession) : Decidable (w.Own session) :=
  inferInstanceAs (Decidable (_ = _))

def onRegister (w : RuntimeWorld) (source : RegistrySource) (session : BridgeGatewaySession)
    (credentialId : String) (credentialVersion : JsNumber) : RuntimeWorld :=
  if w.Own session then w
  else
    let registered := exec (register w.states source session credentialId credentialVersion) w.registry
    closeEvicted gatewayOptions { w with registry := registered.2 }
      (registered.1.toOption.bind (·.replaced))

def onInvalidate (w : RuntimeWorld) (d : DeviceId) (generation : DeviceSessionCredentialGeneration) :
    RuntimeWorld :=
  let evicted := exec (evictGeneration d generation) w.registry
  closeEvicted gatewayOptions { w with registry := evicted.2 } (evicted.1.toOption.bind id)

def step (w : RuntimeWorld) : RuntimeEvent → RuntimeWorld
  | .open => w.gatewayStep gatewayOptions .open
  | .ready session now source generation callback =>
    w.onReady gatewayOptions session now source generation callback
  | .tick now nonce sent => w.gatewayStep gatewayOptions (.tick now nonce sent)
  | .pong payload => w.onPong gatewayOptions payload
  | .fail => w.gatewayStep gatewayOptions .fail
  | .close => w.gatewayStep gatewayOptions .close
  | .finalize => w.gatewayStep gatewayOptions .finalize
  | .call => w.onCall
  | .answer succeeds => w.onAnswer succeeds
  | .resume now => w.onResume options now
  | .settle now => w.onSettle gatewayOptions now
  | .register source session credentialId credentialVersion =>
    w.onRegister gatewayOptions source session credentialId credentialVersion
  | .invalidate d generation => w.onInvalidate gatewayOptions d generation
  | .otherHeartbeat now session =>
    if w.Own session then w
    else { w with registry := (exec (markHeartbeat options w.states now session) w.registry).2 }
  | .otherClosed session =>
    if w.Own session then w
    else { w with registry := (exec (evictSession session) w.registry).2 }
  | .changes session state => { w with others := Function.update w.others session state }
  | .credential d generation => { w with active := Function.update w.active d generation }

end RuntimeWorld
end

end Doctmcp.Routing.Heartbeat
