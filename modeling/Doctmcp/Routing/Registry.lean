import Doctmcp.Lib.OrderedMap
import Doctmcp.Lib.Operation
import Doctmcp.Schemas.Errors
import Doctmcp.Gateway.Session

/-! # The device session registry

`DeviceSessionRegistry` of `apps/server/src/device-session-registry.ts`. The state of a session
object belongs to the gateway and the clock to the surroundings: both are arguments. A stored entry
carries that its owner and device are those of its session, and the map that an entry stands under
its own device id, so every operation hands them on. -/

namespace Doctmcp.Routing
open Doctmcp.Lib Doctmcp.Lib.Operation Doctmcp.Schemas Doctmcp.Gateway
set_option autoImplicit false

/-- A generation that `cloneGeneration` lets through. -/
structure DeviceSessionCredentialGeneration where
  credentialId : String
  credentialVersion : ℕ
  credentialId_nonempty : credentialId ≠ ""
  credentialVersion_pos : 0 < credentialVersion
  deriving DecidableEq

def cloneGeneration (credentialId : String) (credentialVersion : JsNumber) :
    Except JsError DeviceSessionCredentialGeneration :=
  match credentialVersion with
  | some (.ofNat version) =>
    if h : credentialId ≠ "" ∧ 0 < version then .ok ⟨credentialId, version, h.1, h.2⟩
    else .error (.error "Device session credential generation không hợp lệ.")
  | _ => .error (.error "Device session credential generation không hợp lệ.")

structure StoredDeviceSession where
  registrationId : String
  ownerId : String
  deviceId : DeviceId
  credentialGeneration : DeviceSessionCredentialGeneration
  connectedAtMs : ℤ
  lastSeenAtMs : ℤ
  session : BridgeGatewaySession
  identified : session.identity = some ⟨ownerId, deviceId⟩
  deriving DecidableEq

structure ActiveDeviceSession where
  registrationId : String
  ownerId : String
  deviceId : DeviceId
  credentialGeneration : DeviceSessionCredentialGeneration
  connectedAt : ℤ
  lastSeenAt : ℤ
  session : BridgeGatewaySession
  deriving DecidableEq

inductive DeviceStatus
  | online
  | offline
  deriving DecidableEq

structure DeviceSessionStatusSnapshot where
  deviceId : DeviceId
  status : DeviceStatus
  connectedAt : Option ℤ
  lastSeenAt : Option ℤ
  deriving DecidableEq

/-- `snapshot`; the generation of a stored entry passes `cloneGeneration` again. -/
def StoredDeviceSession.snapshot (entry : StoredDeviceSession) : ActiveDeviceSession where
  registrationId := entry.registrationId
  ownerId := entry.ownerId
  deviceId := entry.deviceId
  credentialGeneration := entry.credentialGeneration
  connectedAt := entry.connectedAtMs
  lastSeenAt := entry.lastSeenAtMs
  session := entry.session

structure SessionRegistrationRef where
  deviceId : DeviceId
  registrationId : String
  deriving DecidableEq

structure DeviceSessionRegistry where
  byDeviceId : OrderedMap DeviceId StoredDeviceSession
  deviceIdsByOwner : OrderedMap String (List DeviceId)
  registrationBySession : OrderedMap BridgeGatewaySession SessionRegistrationRef
  keyed : ∀ d entry, byDeviceId.get? d = some entry → entry.deviceId = d

/-- `heartbeatTimeoutMs`, as the constructor accepts it. -/
structure RegistryOptions where
  heartbeatTimeoutMs : ℕ
  heartbeatTimeoutMs_pos : 0 < heartbeatTimeoutMs

/-- `DEFAULT_DEVICE_HEARTBEAT_TIMEOUT_MS`. -/
def RegistryOptions.default : RegistryOptions := ⟨4000, by decide⟩

/-- The states of the session objects, which the gateway changes. -/
abbrev SessionStates := BridgeGatewaySession → GatewaySessionState

namespace DeviceSessionRegistry
variable (options : RegistryOptions) (states : SessionStates)

/-- `new DeviceSessionRegistry(...)`. -/
def new : DeviceSessionRegistry where
  byDeviceId := OrderedMap.empty
  deviceIdsByOwner := OrderedMap.empty
  registrationBySession := OrderedMap.empty
  keyed d entry h := by cases h

def readNowMs (now : JsDate) : Except JsError ℤ :=
  orThrow now (.error "Device session clock không hợp lệ.")

/-- `#isLive`. -/
def IsLive (entry : StoredDeviceSession) (nowMs : ℤ) : Prop :=
  states entry.session = .ready ∧ nowMs - entry.lastSeenAtMs < options.heartbeatTimeoutMs

instance (entry : StoredDeviceSession) (nowMs : ℤ) : Decidable (IsLive options states entry nowMs) :=
  inferInstanceAs (Decidable (_ ∧ _))

/-! ## Changing the maps -/

/-- `this.#byDeviceId.set(entry.deviceId, entry)`. -/
def setEntry (entry : StoredDeviceSession) (r : DeviceSessionRegistry) : DeviceSessionRegistry where
  byDeviceId := r.byDeviceId.set entry.deviceId entry
  deviceIdsByOwner := r.deviceIdsByOwner
  registrationBySession := r.registrationBySession
  keyed d other h := by
    rw [OrderedMap.get?_set] at h
    split_ifs at h with hd
    · rw [← Option.some.inj h, hd]
    · exact r.keyed d other h

def deleteEntry (d : DeviceId) (r : DeviceSessionRegistry) : DeviceSessionRegistry where
  byDeviceId := r.byDeviceId.delete d
  deviceIdsByOwner := r.deviceIdsByOwner
  registrationBySession := r.registrationBySession
  keyed j other h := by
    rw [OrderedMap.get?_delete] at h
    split_ifs at h
    exact r.keyed j other h

def setRegistration (session : BridgeGatewaySession) (ref : SessionRegistrationRef)
    (r : DeviceSessionRegistry) : DeviceSessionRegistry :=
  { r with registrationBySession := r.registrationBySession.set session ref }

def deleteRegistration (session : BridgeGatewaySession) (r : DeviceSessionRegistry) :
    DeviceSessionRegistry :=
  { r with registrationBySession := r.registrationBySession.delete session }

/-- `#addOwnerDevice`. -/
def addOwnerDevice (ownerId : String) (d : DeviceId) (r : DeviceSessionRegistry) :
    DeviceSessionRegistry :=
  let deviceIds := (r.deviceIdsByOwner.get? ownerId).getD []
  { r with
    deviceIdsByOwner := r.deviceIdsByOwner.set ownerId
      (if d ∈ deviceIds then deviceIds else deviceIds ++ [d]) }

/-- `#removeOwnerDevice`. -/
def removeOwnerDevice (ownerId : String) (d : DeviceId) (r : DeviceSessionRegistry) :
    DeviceSessionRegistry :=
  match r.deviceIdsByOwner.get? ownerId with
  | none => r
  | some deviceIds =>
    let left := deviceIds.filter (· ≠ d)
    { r with
      deviceIdsByOwner := if left = [] then r.deviceIdsByOwner.delete ownerId
        else r.deviceIdsByOwner.set ownerId left }

/-- `#remove`. -/
def remove (entry : StoredDeviceSession) (r : DeviceSessionRegistry) : DeviceSessionRegistry :=
  if (r.byDeviceId.get? entry.deviceId).map (·.registrationId) ≠ some entry.registrationId then r
  else
    ((r.deleteEntry entry.deviceId).deleteRegistration entry.session).removeOwnerDevice
      entry.ownerId entry.deviceId

/-- The entry that a reference of a session is to, if it is the session's own. -/
def referred (session : BridgeGatewaySession) (ref : SessionRegistrationRef)
    (r : DeviceSessionRegistry) : Option StoredDeviceSession :=
  (r.byDeviceId.get? ref.deviceId).filter fun entry =>
    entry.registrationId = ref.registrationId ∧ entry.session = session

/-! ## The operations -/

/-- What a registration draws: `now()` and `generateRegistrationId()`. -/
structure RegistrySource where
  now : JsDate
  registrationId : String

structure RegisterDeviceSessionResult where
  current : ActiveDeviceSession
  replaced : Option ActiveDeviceSession
  deriving DecidableEq

/-- A registration that finds no entry of the session. -/
def registerNew (source : RegistrySource) (session : BridgeGatewaySession) (credentialId : String)
    (credentialVersion : JsNumber) :
    Operation DeviceSessionRegistry JsError RegisterDeviceSessionResult := do
  match hidentity : session.identity with
  | none => throw (.error "Chỉ authenticated device session mới được register.")
  | some identity =>
    let nowMs ← readNowMs source.now
    let generation ← cloneGeneration credentialId credentialVersion
    let r ← get
    let current : StoredDeviceSession :=
      { registrationId := source.registrationId, ownerId := identity.ownerId,
        deviceId := identity.deviceId, credentialGeneration := generation, connectedAtMs := nowMs,
        lastSeenAtMs := nowMs, session := session, identified := hidentity }
    let previous := r.byDeviceId.get? identity.deviceId
    let r := (r.setEntry current).setRegistration session
      ⟨identity.deviceId, source.registrationId⟩
    let r := r.addOwnerDevice identity.ownerId identity.deviceId
    match previous with
    | none =>
      set r
      return ⟨current.snapshot, none⟩
    | some previous =>
      let r := r.deleteRegistration previous.session
      set (if previous.ownerId ≠ identity.ownerId then
        r.removeOwnerDevice previous.ownerId previous.deviceId else r)
      return ⟨current.snapshot, some previous.snapshot⟩

def register (source : RegistrySource) (session : BridgeGatewaySession) (credentialId : String)
    (credentialVersion : JsNumber) :
    Operation DeviceSessionRegistry JsError RegisterDeviceSessionResult := do
  failIf (session.identity = none) (.error "Chỉ authenticated device session mới được register.")
  failIf (states session ≠ .ready) (.error "Chỉ ready device session mới được register.")
  let r ← get
  match r.registrationBySession.get? session with
  | none => registerNew source session credentialId credentialVersion
  | some ref =>
    match r.referred session ref with
    | some existing => return ⟨existing.snapshot, none⟩
    | none =>
      set (r.deleteRegistration session)
      registerNew source session credentialId credentialVersion

def getActive (now : JsDate) (d : DeviceId) (r : DeviceSessionRegistry) :
    Except JsError (Option ActiveDeviceSession) := do
  match r.byDeviceId.get? d with
  | none => return none
  | some entry =>
    let nowMs ← readNowMs now
    if IsLive options states entry nowMs then return some entry.snapshot else return none

def getBySession (session : BridgeGatewaySession) :
    Operation DeviceSessionRegistry JsError (Option ActiveDeviceSession) := do
  let r ← get
  match r.registrationBySession.get? session with
  | none => return none
  | some ref =>
    match r.referred session ref with
    | some entry => return some entry.snapshot
    | none =>
      set (r.deleteRegistration session)
      return none

def listActiveForOwner (now : JsDate) (ownerId : String) (r : DeviceSessionRegistry) :
    Except JsError (List ActiveDeviceSession) := do
  match r.deviceIdsByOwner.get? ownerId with
  | none => return []
  | some deviceIds =>
    let nowMs ← readNowMs now
    return ((deviceIds.filterMap r.byDeviceId.get?).filter
      (IsLive options states · nowMs)).map (·.snapshot)

def markHeartbeat (now : JsDate) (session : BridgeGatewaySession) :
    Operation DeviceSessionRegistry JsError Bool := do
  let r ← get
  match r.registrationBySession.get? session with
  | none => return false
  | some ref =>
    match r.referred session ref with
    | none =>
      set (r.deleteRegistration session)
      return false
    | some entry =>
      let nowMs ← readNowMs now
      if IsLive options states entry nowMs then
        set (r.setEntry { entry with lastSeenAtMs := max entry.lastSeenAtMs nowMs })
        return true
      else return false

def evictSession (session : BridgeGatewaySession) :
    Operation DeviceSessionRegistry JsError (Option ActiveDeviceSession) := do
  let r ← get
  match r.registrationBySession.get? session with
  | none => return none
  | some ref =>
    set (r.deleteRegistration session)
    match r.referred session ref with
    | none => return none
    | some entry =>
      set ((r.deleteRegistration session).remove entry)
      return some entry.snapshot

def evictGeneration (d : DeviceId) (generation : DeviceSessionCredentialGeneration) :
    Operation DeviceSessionRegistry JsError (Option ActiveDeviceSession) := do
  let r ← get
  match (r.byDeviceId.get? d).filter (·.credentialGeneration = generation) with
  | none => return none
  | some entry =>
    set (r.remove entry)
    return some entry.snapshot

def getStatus (now : JsDate) (d : DeviceId) (r : DeviceSessionRegistry) :
    Except JsError DeviceSessionStatusSnapshot := do
  match r.byDeviceId.get? d with
  | none => return ⟨d, .offline, none, none⟩
  | some entry =>
    let nowMs ← readNowMs now
    return ⟨d, if IsLive options states entry nowMs then .online else .offline,
      some entry.connectedAtMs, some entry.lastSeenAtMs⟩

def clear : Operation DeviceSessionRegistry JsError (List ActiveDeviceSession) := do
  let r ← get
  set new
  return r.byDeviceId.values.map (·.snapshot)

end DeviceSessionRegistry
end Doctmcp.Routing
