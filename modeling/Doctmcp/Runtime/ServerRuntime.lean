import Doctmcp.Lib.Counters
import Doctmcp.Gateway.Handshakes
import Doctmcp.Routing.Heartbeat
import Doctmcp.Runtime.Generations

/-! # The server runtime

`createDoctmcpServerRuntime` of `server-runtime.ts`: the gateway with the hooks that the runtime hands to
it, the registry of device sessions, and the operations that replace credentials. A hook or an operation
runs from one `await` to the next; in which order they go on, what the store and the sockets answer, and
when the lifecycle coordinator lets an operation in, stands in the events. What a hook hears of the
gateway it hears by the entries that a step of the gateway adds to its log. The object of an identity is
known by the guard that its handshake acquires. -/

namespace Doctmcp.Runtime
open Doctmcp.Lib Doctmcp.Lib.Operation Doctmcp.Schemas Doctmcp.Gateway Doctmcp.Credential Doctmcp.Routing
open Doctmcp.Gateway.Connections (BridgeGatewayOptions BridgeHello GatewaySession Effect Readings
  ReadyGuard)
open Doctmcp.Routing.DeviceSessionRegistry
open Doctmcp.Routing.Heartbeat (HeartbeatCall beginHeartbeat endHeartbeat)
set_option autoImplicit false

structure RuntimeOptions where
  heartbeat : Gateway.Heartbeat.GatewayOptions
  registry : RegistryOptions
  sameTimeout : heartbeat.heartbeatTimeoutMs = registry.heartbeatTimeoutMs
  handshakeTimeoutMs : ℚ
  idleTimeoutMs : ℚ

/-- The options of the gateway: the runtime sets every hook, and a device has to authenticate. -/
def RuntimeOptions.gateway (options : RuntimeOptions) : BridgeGatewayOptions where
  heartbeat := options.heartbeat
  handshakeTimeoutMs := options.handshakeTimeoutMs
  idleTimeoutMs := options.idleTimeoutMs
  authenticateDevice := true
  beginSessionReady := true
  validateSessionReady := true
  onSession := true
  allowLegacyUnauthenticated := false

/-! ## What is in progress -/

inductive AuthenticationStage
  | verifying
  | verified (result : Except JsError VerifiedDeviceCredential)
  | settled (result : Except JsError AuthenticatedDeviceIdentity)

/-- A call of `authenticateDevice`, for the call `call` of the gateway. -/
structure Authentication where
  call : ℕ
  deviceId : DeviceId
  credential : String
  stage : AuthenticationStage

def Authentication.isPending (a : Authentication) : Bool :=
  match a.stage with
  | .settled _ => false
  | _ => true

inductive LifecycleKind
  | revoke
  | rotate
  /-- A completion of a pairing, `claimAndIssue`, `resumeClaimedPairing` or `acknowledgeDelivery`. -/
  | completion
  deriving DecidableEq

/-- How far `runCredentialLifecycleOperation` is. -/
inductive LifecycleStage
  /-- The coordinator has not let it in. -/
  | queued
  /-- It waits in `waitForSessionReadyDrain`. -/
  | draining
  | drained
  | running
  /-- The store has replaced a generation, which is not yet evicted. -/
  | evicting (generation : CredentialGeneration)
  /-- It waits in `publishCredentialInvalidation`. -/
  | publishing (generation : CredentialGeneration)
  /-- It waits in `waitForAuthenticationDrain`. -/
  | authenticationDraining (succeeds : Bool)
  | authenticationDrained (succeeds : Bool)
  | returned (succeeds : Bool)
  deriving DecidableEq

structure LifecycleOperation where
  kind : LifecycleKind
  deviceId : DeviceId
  /-- What `currentPromise` has come to. -/
  current : Option (Except JsError DeviceCredential)
  stage : LifecycleStage
  /-- The generations that it has replaced and evicted. -/
  replaced : List CredentialGeneration

/-- `endCredentialMutation` has not been called. -/
def LifecycleOperation.isActive (op : LifecycleOperation) : Bool :=
  match op.stage with
  | .returned _ => false
  | _ => true

/-- The waiters of `sessionReadyDrainWaiters` for the devices `p` are resolved. -/
def LifecycleOperation.drained (p : DeviceId → Bool) (op : LifecycleOperation) : LifecycleOperation :=
  if p op.deviceId ∧ op.stage = .draining then { op with stage := .drained } else op

/-- The waiters of `authenticationDrainWaiters` for the devices `p` are resolved. -/
def LifecycleOperation.authenticationDrained (p : DeviceId → Bool) (op : LifecycleOperation) :
    LifecycleOperation :=
  if p op.deviceId then
    match op.stage with
    | .authenticationDraining succeeds => { op with stage := .authenticationDrained succeeds }
    | _ => op
  else op

structure ServerRuntime (S : Type) where
  gateway : Connections.World
  registry : DeviceSessionRegistry
  credentials : S
  devices : Devices
  stopping : Bool
  credentialMutationCounts : Counters DeviceId
  authenticationCounts : Counters DeviceId
  sessionReadyCounts : Counters DeviceId
  /-- The devices of the guards that are not released. -/
  leases : OrderedMap ℕ DeviceId
  credentialGenerationByIdentity : OrderedMap ℕ CredentialGeneration
  authentications : Heap Authentication
  /-- The answers of the store to `validateSessionReady`. -/
  validations : OrderedMap ℕ (Except JsError VerifiedDeviceCredential)
  /-- Whether `onSession` of the runtime got as far as the callback of its consumer. -/
  bindings : OrderedMap ℕ Bool
  /-- The calls of `onHeartbeat`, by connection. -/
  heartbeats : OrderedMap ℕ HeartbeatCall
  operations : Heap LifecycleOperation

def ServerRuntime.new {S : Type} (credentials : S) : ServerRuntime S where
  gateway := .new
  registry := DeviceSessionRegistry.new
  credentials := credentials
  devices := .empty
  stopping := false
  credentialMutationCounts := OrderedMap.empty
  authenticationCounts := OrderedMap.empty
  sessionReadyCounts := OrderedMap.empty
  leases := OrderedMap.empty
  credentialGenerationByIdentity := OrderedMap.empty
  authentications := .empty
  validations := OrderedMap.empty
  bindings := OrderedMap.empty
  heartbeats := OrderedMap.empty
  operations := .empty

namespace ServerRuntime
section
variable {S : Type} (A : Adapter S) (options : RuntimeOptions) (w : ServerRuntime S)

/-! ## Counts and waiters -/

def isCredentialMutationActive (d : DeviceId) : Prop := 0 < w.credentialMutationCounts.count d

instance (d : DeviceId) : Decidable (w.isCredentialMutationActive d) :=
  inferInstanceAs (Decidable (_ < _))

def setOperation (k : ℕ) (f : LifecycleOperation → LifecycleOperation) : ServerRuntime S :=
  { w with operations := w.operations.modify k f }

def setStage (k : ℕ) (stage : LifecycleStage) : ServerRuntime S :=
  w.setOperation k fun op => { op with stage }

def beginAuthentication (d : DeviceId) : ServerRuntime S :=
  { w with authenticationCounts := w.authenticationCounts.increment d }

def endAuthentication (d : DeviceId) : ServerRuntime S :=
  let w := { w with authenticationCounts := w.authenticationCounts.decrement d }
  if w.authenticationCounts.has d then w
  else { w with operations := w.operations.map (LifecycleOperation.authenticationDrained (· = d)) }

/-- `beginSessionReady`, where it returns the guard. -/
def beginSessionReady (d : DeviceId) (guard : ℕ) : ServerRuntime S :=
  { w with
    sessionReadyCounts := w.sessionReadyCounts.increment d
    leases := w.leases.set guard d }

/-- The guard is called. -/
def release (guard : ℕ) : ServerRuntime S :=
  match w.leases.get? guard with
  | none => w
  | some d =>
    let w := { w with
      leases := w.leases.delete guard
      sessionReadyCounts := w.sessionReadyCounts.decrement d }
    if w.sessionReadyCounts.has d then w
    else { w with operations := w.operations.map (LifecycleOperation.drained (· = d)) }

/-! ## The gateway -/

/-- What the runtime does on an entry of the log of the gateway. -/
def hear : Effect → ServerRuntime S
  | .acquires (some identity) (some guard) => w.beginSessionReady identity.deviceId guard
  | .releases guard => w.release guard
  | .onSessionClosed session _ =>
    { w with registry := (exec (evictSession session.toBridgeGatewaySession) w.registry).2 }
  | _ => w

/-- What `beginSessionReady` answers to the identity. -/
def readyGuard (result : Except JsError AuthenticatedDeviceIdentity) : ReadyGuard :=
  match result with
  | .ok identity => if w.stopping ∨ w.isCredentialMutationActive identity.deviceId then .throws else .lease
  | .error _ => .none

/-- A step of the gateway with the hooks that it calls. -/
def gatewayStep (event : Connections.Event) (r : Readings) : ServerRuntime S :=
  let gateway := w.gateway.step options.gateway (event, r)
  (gateway.log.drop w.gateway.log.length).foldl hear { w with gateway }

/-- The connection of a session. -/
def connectionOf (session : BridgeGatewaySession) : Option ℕ :=
  (List.range w.gateway.connections.next).find? fun ref =>
    ((w.gateway.connections.get? ref).bind (·.session)).map (·.toBridgeGatewaySession) = some session

def states : SessionStates := fun session =>
  (((w.connectionOf session).bind w.gateway.connections.get?).map (·.state)).getD .closed

/-- `session.close("NORMAL", ...)`. -/
def closeSession (session : BridgeGatewaySession) (r : Readings) : ServerRuntime S :=
  match w.connectionOf session with
  | none => w
  | some ref => w.gatewayStep options (.close ref .NORMAL) r

/-- The runtime's own hooks go on with the call. -/
def hooked : Connections.Call → Bool
  | .authenticating _ hello => hello.auth.isSome
  | .validating _ _ _ _ => true
  | .binding _ _ => true
  | _ => false

/-- A step of the gateway that waits for no hook of the runtime. -/
def onGateway (event : Connections.Event) (r : Readings) : ServerRuntime S :=
  match event with
  | .resume i answer =>
    if (w.gateway.calls.get? i).any hooked then w else w.gatewayStep options (.resume i answer) r
  | .heartbeatSettled _ _ => w
  | event => w.gatewayStep options event r

/-! ## `authenticateDevice` -/

def isAuthenticating (i : ℕ) : Bool :=
  (List.range w.authentications.next).any fun a => (w.authentications.get? a).any (·.call = i)

def authenticateDevice (i : ℕ) : ServerRuntime S :=
  match w.gateway.calls.get? i with
  | some (.authenticating _ hello) =>
    match hello.auth with
    | none => w
    | some auth =>
      if w.isAuthenticating i then w
      else if w.stopping ∨ w.isCredentialMutationActive auth.deviceId then
        { w with authentications := w.authentications.alloc ⟨i, auth.deviceId, auth.credential,
            .settled (.error (.error "Device credential mutation is in progress"))⟩ }
      else
        { w.beginAuthentication auth.deviceId with
          authentications :=
            w.authentications.alloc ⟨i, auth.deviceId, auth.credential, .verifying⟩ }
  | _ => w

def setAuthentication (a : ℕ) (stage : AuthenticationStage) : ServerRuntime S :=
  { w with authentications := w.authentications.modify a fun auth => { auth with stage } }

/-- The store answers. -/
def onVerified (a : ℕ) : ServerRuntime S :=
  match w.authentications.get? a with
  | some ⟨_, d, credential, .verifying⟩ =>
    let out := exec (verify A w.devices d credential) w.credentials
    { w with credentials := out.2 }.setAuthentication a (.verified out.1)
  | _ => w

/-- What `authenticateDevice` makes of the answer of the store. -/
def settles (d : DeviceId) (result : Except JsError VerifiedDeviceCredential) :
    Except JsError AuthenticatedDeviceIdentity :=
  match result with
  | .error e => .error e
  | .ok verified =>
    if w.stopping ∨ w.isCredentialMutationActive d then
      .error (.error "Device credential changed during authentication")
    else .ok verified.identity

/-- `authenticateDevice` from the answer of the store. -/
def onAuthenticated (a : ℕ) : ServerRuntime S :=
  match w.authentications.get? a with
  | some ⟨_, d, _, .verified result⟩ =>
    (w.setAuthentication a (.settled (w.settles d result))).endAuthentication d
  | _ => w

/-- The gateway goes on with what `authenticateDevice` has come to. -/
def onIdentity (a : ℕ) (r : Readings) : ServerRuntime S :=
  match w.authentications.get? a with
  | some ⟨i, _, _, .settled result⟩ =>
    match w.gateway.calls.get? i with
    | some (.authenticating _ _) =>
      w.gatewayStep options
        (.resume i (.identity (match result with
          | .ok identity => .ok (some identity)
          | .error _ => .error none)))
        { r with guard := w.readyGuard result }
    | _ => w
  | _ => w

/-! ## `validateSessionReady` and `onSession` -/

/-- The store answers. -/
def onValidation (i : ℕ) : ServerRuntime S :=
  match w.gateway.calls.get? i with
  | some (.validating _ hello _ (some guard)) =>
    match hello.auth with
    | none => w
    | some auth =>
      let out := exec (verify A w.devices auth.deviceId auth.credential) w.credentials
      { w with credentials := out.2, validations := w.validations.set guard out.1 }
  | _ => w

/-- `validateSessionReady` from the answer of the store, and the gateway after it. -/
def onValidated (i : ℕ) (r : Readings) : ServerRuntime S :=
  match w.gateway.calls.get? i with
  | some (.validating _ _ identity (some guard)) =>
    match w.validations.get? guard with
    | none => w
    | some (.error _) => w.gatewayStep options (.resume i (.validation false)) r
    | some (.ok verified) =>
      if verified.identity ≠ identity then w.gatewayStep options (.resume i (.validation false)) r
      else
        { w with
          credentialGenerationByIdentity := w.credentialGenerationByIdentity.set guard
            (generationFromCredential verified.credential) }.gatewayStep options
          (.resume i (.validation true)) r
  | _ => w

/-- `onSession` up to the callback of the consumer. -/
def onSession (i : ℕ) (source : RegistrySource) (r : Readings) : ServerRuntime S :=
  match w.gateway.calls.get? i with
  | some (.binding session (some guard)) =>
    if w.bindings.has guard then w
    else match w.credentialGenerationByIdentity.get? guard with
    | none => { w with bindings := w.bindings.set guard false }
    | some generation =>
      let registered := exec (register w.states source session.toBridgeGatewaySession
        generation.credentialId.value (some (generation.credentialVersion : ℤ))) w.registry
      let w := { w with
        credentialGenerationByIdentity := w.credentialGenerationByIdentity.delete guard
        registry := registered.2
        bindings := w.bindings.set guard registered.1.toOption.isSome }
      match registered.1.toOption.bind (·.replaced) with
      | none => w
      | some replaced => w.closeSession options replaced.session r
  | _ => w

/-- `onSession` returns or throws, and the gateway goes on. -/
def onBound (i : ℕ) (returns : Bool) (r : Readings) : ServerRuntime S :=
  match w.gateway.calls.get? i with
  | some (.binding _ (some guard)) =>
    match w.bindings.get? guard with
    | none => w
    | some announced => w.gatewayStep options (.resume i (.callback (announced && returns))) r
  | _ => w

/-! ## `onHeartbeat` -/

def onHeartbeat (ref : ℕ) : ServerRuntime S :=
  match w.heartbeats.get? ref, (w.gateway.connections.get? ref).bind (·.validations.head?) with
  | none, some validation =>
    let out := exec (beginHeartbeat validation.session) w.registry
    { w with
      registry := out.2
      heartbeats := w.heartbeats.set ref ⟨validation.session,
        match out.1 with
        | .ok registered => .reading registered
        | .error _ => .rejected⟩ }
  | _, _ => w

/-- The credential as the registry would keep its generation. -/
def registryGeneration (credential : DeviceCredential) : Option DeviceSessionCredentialGeneration :=
  (cloneGeneration credential.credentialId.value (some (credential.version : ℤ))).toOption

/-- The store answers. -/
def onHeartbeatActive (ref : ℕ) : ServerRuntime S :=
  match w.heartbeats.get? ref with
  | some ⟨session, .reading registered⟩ =>
    let out := exec (A.getActive registered.deviceId.value) w.credentials
    { w with
      credentials := out.2
      heartbeats := w.heartbeats.set ref ⟨session,
        match out.1 with
        | .ok active => .answered registered (active.bind registryGeneration)
        | .error _ => .rejected⟩ }
  | _ => w

/-- `onHeartbeat` from the answer of the store. -/
def onHeartbeatAnswered (ref : ℕ) (now : JsDate) : ServerRuntime S :=
  match w.heartbeats.get? ref with
  | some ⟨session, .answered registered active⟩ =>
    let out := exec (endHeartbeat options.registry w.states now session registered active) w.registry
    { w with
      registry := out.2
      heartbeats := w.heartbeats.set ref ⟨session,
        match out.1 with
        | .ok _ => .resolved registered
        | .error _ => .rejected⟩ }
  | _ => w

def onHeartbeatSettled (ref : ℕ) (r : Readings) : ServerRuntime S :=
  match w.heartbeats.get? ref with
  | some ⟨_, .resolved _⟩ =>
    { w with heartbeats := w.heartbeats.delete ref }.gatewayStep options (.heartbeatSettled ref true) r
  | some ⟨_, .rejected⟩ =>
    { w with heartbeats := w.heartbeats.delete ref }.gatewayStep options (.heartbeatSettled ref false) r
  | _ => w

/-! ## Credential operations -/

/-- `evictCredentialGeneration`. -/
def evictCredentialGeneration (d : DeviceId) (generation : CredentialGeneration) (r : Readings) :
    ServerRuntime S :=
  -- an entry has a generation that `cloneGeneration` lets through
  match cloneGeneration generation.credentialId.value (some (generation.credentialVersion : ℤ)) with
  | .error _ => w
  | .ok generation =>
    let evicted := exec (evictGeneration d generation) w.registry
    let w := { w with registry := evicted.2 }
    match evicted.1.toOption.bind id with
    | none => w
    | some evicted => w.closeSession options evicted.session r

/-- `runCredentialLifecycleOperation` is called; for a revocation or a rotation, `currentPromise` is made. -/
def runCredentialLifecycleOperation (kind : LifecycleKind) (d : DeviceId) : ServerRuntime S :=
  if w.stopping then w
  else
    { w with
      credentialMutationCounts := w.credentialMutationCounts.increment d
      operations := w.operations.alloc ⟨kind, d, none, .queued, []⟩ }

/-- The store answers `currentPromise`. -/
def readCurrent (k : ℕ) : ServerRuntime S :=
  match w.operations.get? k with
  | some ⟨.completion, _, _, _, _⟩ => w
  | some ⟨_, d, none, _, _⟩ =>
    let out := exec (getActive A w.devices d) w.credentials
    { w with credentials := out.2 }.setOperation k fun op => { op with current := some out.1 }
  | _ => w

/-- The coordinator lets the operation in. -/
def enter (k : ℕ) : ServerRuntime S :=
  match w.operations.get? k with
  | some ⟨_, d, _, .queued, _⟩ =>
    w.setStage k (if w.stopping ∨ w.sessionReadyCounts.count d = 0 then .drained else .draining)
  | _ => w

/-- The `finally` of the operation. -/
def unwind (k : ℕ) (d : DeviceId) (succeeds : Bool) : ServerRuntime S :=
  w.setStage k (if w.stopping ∨ w.authenticationCounts.count d = 0 then .authenticationDrained succeeds
    else .authenticationDraining succeeds)

/-- The operation runs, unless the runtime stops. -/
def run (k : ℕ) : ServerRuntime S :=
  match w.operations.get? k with
  | some ⟨_, d, _, .drained, _⟩ => if w.stopping then w.unwind k d false else w.setStage k .running
  | _ => w

/-- The store ends the current generation, for a revocation or a rotation. -/
def replace (k : ℕ) (draw : Draw) (now : JsDate) : ServerRuntime S :=
  match w.operations.get? k with
  | some ⟨.revoke, d, some current, .running, _⟩ =>
    match current with
    | .error _ => w.unwind k d false
    | .ok current =>
      match exec (revoke A now current) w.credentials with
      | (.error _, credentials) => { w with credentials }.unwind k d false
      | (.ok _, credentials) =>
        { w with credentials }.setStage k (.evicting (generationFromCredential current))
  | some ⟨.rotate, d, some current, .running, _⟩ =>
    match current with
    | .error _ => w.unwind k d false
    | .ok current =>
      match exec (rotateExpectedWithCredentialId A w.devices draw.secret now current.deviceId
        (generationFromCredential current) draw.credentialId.value) w.credentials with
      | (.error _, credentials) => { w with credentials }.unwind k d false
      | (.ok _, credentials) =>
        { w with credentials }.setStage k (.evicting (generationFromCredential current))
  | _ => w

/-- The body of a completion issues the first credential of its device. -/
def issueCredential (k : ℕ) (draw : Draw) (now : JsDate) : ServerRuntime S :=
  match w.operations.get? k with
  | some ⟨.completion, d, _, .running, _⟩ =>
    { w with credentials := (exec (issue A w.devices draw now d) w.credentials).2 }
  | _ => w

/-- The body of a completion calls `recoverCredentialGenerationInsideLifecycle`. -/
def recoverCredential (k : ℕ) (expected : CredentialGeneration) (credentialId secret : String)
    (now : JsDate) : ServerRuntime S :=
  match w.operations.get? k with
  | some ⟨.completion, d, _, .running, _⟩ =>
    match exec (rotateExpectedWithCredentialId A w.devices secret now d expected credentialId)
      w.credentials with
    | (.error _, credentials) => { w with credentials }
    | (.ok _, credentials) => { w with credentials }.setStage k (.evicting expected)
  | _ => w

/-- The body of a completion is over. -/
def finish (k : ℕ) (succeeds : Bool) : ServerRuntime S :=
  match w.operations.get? k with
  | some ⟨.completion, d, _, .running, _⟩ => w.unwind k d succeeds
  | _ => w

/-- `invalidateCredentialGeneration` up to the publication. -/
def evict (k : ℕ) (r : Readings) : ServerRuntime S :=
  match w.operations.get? k with
  | some ⟨_, d, _, .evicting generation, _⟩ =>
    (w.setOperation k fun op =>
      { op with stage := .publishing generation, replaced := op.replaced ++ [generation] }
      ).evictCredentialGeneration options d generation r
  | _ => w

/-- The publication is over, in time or not. -/
def published (k : ℕ) : ServerRuntime S :=
  match w.operations.get? k with
  | some ⟨.completion, _, _, .publishing _, _⟩ => w.setStage k .running
  | some ⟨_, d, _, .publishing _, _⟩ => w.unwind k d true
  | _ => w

/-- `endCredentialMutation`. -/
def leave (k : ℕ) : ServerRuntime S :=
  match w.operations.get? k with
  | some ⟨_, d, _, .authenticationDrained succeeds, _⟩ =>
    { w with credentialMutationCounts := w.credentialMutationCounts.decrement d }.setStage k
      (.returned succeeds)
  | _ => w

/-- The handler of the invalidation bus. -/
def onInvalidation (d : DeviceId) (generation : CredentialGeneration) (r : Readings) : ServerRuntime S :=
  if w.stopping then w else w.evictCredentialGeneration options d generation r

def createDevice (device : Schemas.Device) : ServerRuntime S :=
  { w with devices := w.devices.create device, credentials := A.deviceCreated device w.credentials }

/-! ## The end -/

/-- `stop` up to its first `await`. -/
def stop : ServerRuntime S :=
  if w.stopping then w
  else
    { w with
      stopping := true
      operations := (w.operations.map (LifecycleOperation.authenticationDrained fun _ => true)).map
        (LifecycleOperation.drained fun _ => true) }

/-- The end of `stop`. -/
def clear : ServerRuntime S :=
  if w.stopping then
    { w with
      registry := (exec DeviceSessionRegistry.clear w.registry).2
      authenticationCounts := OrderedMap.empty
      sessionReadyCounts := OrderedMap.empty
      credentialMutationCounts := OrderedMap.empty }
  else w

end
end ServerRuntime

inductive Event
  | gateway (event : Connections.Event) (r : Readings)
  | authenticateDevice (call : ℕ)
  | verified (authentication : ℕ)
  | authenticated (authentication : ℕ)
  | identity (authentication : ℕ) (r : Readings)
  | validation (call : ℕ)
  | validated (call : ℕ) (r : Readings)
  | session (call : ℕ) (source : RegistrySource) (r : Readings)
  | bound (call : ℕ) (returns : Bool) (r : Readings)
  | heartbeat (connection : ℕ)
  | heartbeatActive (connection : ℕ)
  | heartbeatAnswered (connection : ℕ) (now : JsDate)
  | heartbeatSettled (connection : ℕ) (r : Readings)
  | operation (kind : LifecycleKind) (deviceId : DeviceId)
  | readCurrent (index : ℕ)
  | enter (index : ℕ)
  | run (index : ℕ)
  | replace (index : ℕ) (draw : Draw) (now : JsDate)
  | issueCredential (index : ℕ) (draw : Draw) (now : JsDate)
  | recoverCredential (index : ℕ) (expected : CredentialGeneration) (credentialId secret : String)
      (now : JsDate)
  | finish (index : ℕ) (succeeds : Bool)
  | evict (index : ℕ) (r : Readings)
  | published (index : ℕ)
  | leave (index : ℕ)
  | invalidation (deviceId : DeviceId) (generation : CredentialGeneration) (r : Readings)
  | createDevice (device : Schemas.Device)
  | stop
  | clear

def ServerRuntime.step {S : Type} (A : Adapter S) (options : RuntimeOptions) (w : ServerRuntime S) :
    Event → ServerRuntime S
  | .gateway event r => w.onGateway options event r
  | .authenticateDevice i => w.authenticateDevice i
  | .verified a => w.onVerified A a
  | .authenticated a => w.onAuthenticated a
  | .identity a r => w.onIdentity options a r
  | .validation i => w.onValidation A i
  | .validated i r => w.onValidated options i r
  | .session i source r => w.onSession options i source r
  | .bound i returns r => w.onBound options i returns r
  | .heartbeat ref => w.onHeartbeat ref
  | .heartbeatActive ref => w.onHeartbeatActive A ref
  | .heartbeatAnswered ref now => w.onHeartbeatAnswered options ref now
  | .heartbeatSettled ref r => w.onHeartbeatSettled options ref r
  | .operation kind d => w.runCredentialLifecycleOperation kind d
  | .readCurrent k => w.readCurrent A k
  | .enter k => w.enter k
  | .run k => w.run k
  | .replace k draw now => w.replace A k draw now
  | .issueCredential k draw now => w.issueCredential A k draw now
  | .recoverCredential k expected credentialId secret now =>
    w.recoverCredential A k expected credentialId secret now
  | .finish k succeeds => w.finish k succeeds
  | .evict k r => w.evict options k r
  | .published k => w.published k
  | .leave k => w.leave k
  | .invalidation d generation r => w.onInvalidation options d generation r
  | .createDevice device => w.createDevice A device
  | .stop => w.stop
  | .clear => w.clear

end Doctmcp.Runtime
