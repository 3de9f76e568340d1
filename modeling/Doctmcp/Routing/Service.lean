import Doctmcp.Routing.Registry
import Doctmcp.Device.Sqlite
import Doctmcp.Credential.Sqlite
import Doctmcp.Device.Listing

/-! # The device routing service

`DeviceRoutingService` of `apps/server/src/device-routing.ts`. A method reads one store, awaits,
and goes on in whatever world there is then, so it takes one world for each stretch of code between
two awaits, and the readings that the registry takes of its clock. -/

namespace Doctmcp.Routing
open Doctmcp.Lib Doctmcp.Lib.Operation Doctmcp.Schemas Doctmcp.Gateway Doctmcp.Device
  Doctmcp.Credential
set_option autoImplicit false

inductive DeviceRoutingErrorCode
  | DEVICE_NOT_FOUND
  | DEVICE_OFFLINE
  | DEVICE_CREDENTIAL_UNAVAILABLE
  | ROUTING_UNAVAILABLE
  deriving DecidableEq

structure DeviceRoutingError where
  code : DeviceRoutingErrorCode
  message : String
  deriving DecidableEq

structure RoutedDeviceSnapshot where
  deviceId : DeviceId
  deviceName : String
  metadata : DeviceMetadata
  createdAt : ℤ
  updatedAt : ℤ
  status : DeviceStatus
  connectedAt : Option ℤ
  lastSeenAt : Option ℤ
  deriving DecidableEq

structure ResolvedDeviceSession where
  device : RoutedDeviceSnapshot
  session : BridgeGatewaySession
  deriving DecidableEq

def notFound : DeviceRoutingError := ⟨.DEVICE_NOT_FOUND, "Device không tồn tại."⟩

def credentialUnavailable : DeviceRoutingError :=
  ⟨.DEVICE_CREDENTIAL_UNAVAILABLE, "Device credential không khả dụng."⟩

def routingUnavailable : DeviceRoutingError :=
  ⟨.ROUTING_UNAVAILABLE, "Device routing hiện không khả dụng."⟩

def parseOwnerId (ownerId : String) : Except DeviceRoutingError String :=
  orThrow (ownerIdSchema ownerId) notFound

theorem parseOwnerId_ok {ownerId owner : String} (h : parseOwnerId ownerId = .ok owner) :
    owner = ownerId ∧ ownerIdSchema ownerId = some ownerId := by
  have hschema := orThrow_ok h
  obtain rfl := ownerIdSchema_some hschema
  exact ⟨rfl, hschema⟩

def parseDeviceId (deviceId : String) : Except DeviceRoutingError DeviceId :=
  orThrow (deviceIdSchema deviceId) notFound

def SameCredentialGeneration (session : ActiveDeviceSession) (credential : DeviceCredential) : Prop :=
  session.credentialGeneration.credentialId = credential.credentialId.value ∧
    session.credentialGeneration.credentialVersion = credential.version

instance (session : ActiveDeviceSession) (credential : DeviceCredential) :
    Decidable (SameCredentialGeneration session credential) :=
  inferInstanceAs (Decidable (_ ∧ _))

def snapshot (device : Schemas.Device) (status : DeviceStatus) (connectedAt lastSeenAt : Option ℤ) :
    RoutedDeviceSnapshot where
  deviceId := device.deviceId
  deviceName := device.deviceName
  metadata := device.metadata
  createdAt := device.createdAt
  updatedAt := device.updatedAt
  status := status
  connectedAt := connectedAt
  lastSeenAt := lastSeenAt

/-! ## Stores and worlds -/

/-- What the service uses of the two repositories, on the store `S`. -/
structure RoutingStores (S : Type) where
  getForOwner : String → String → S → Except JsError (Option Schemas.Device)
  listByOwnerId : String → S → Except JsError (List Schemas.Device)
  getActive : String → S → Except JsError (Option DeviceCredential)
  devices : S → OrderedMap DeviceId StoredDevice
  credentials : S → OrderedMap DeviceId StoredCredential

/-- The in-memory repositories, on a host with this default locale. -/
def RoutingStores.inMemory (locale : Collation) :
    RoutingStores (InMemoryDeviceRepository × InMemoryDeviceCredentialRepository) where
  getForOwner ownerId deviceId s :=
    (exec (InMemoryDeviceRepository.getForOwner ownerId deviceId) s.1).1
  listByOwnerId ownerId s := (exec (InMemoryDeviceRepository.listByOwnerId locale ownerId) s.1).1
  getActive deviceId s := (exec (InMemoryDeviceCredentialRepository.getActive deviceId) s.2).1
  devices s := s.1.records
  credentials s := s.2.byDeviceId

/-- The SQLite repositories, on one database. -/
def RoutingStores.sqlite : RoutingStores Storage.Database where
  getForOwner ownerId deviceId s :=
    (exec (SqliteDeviceRepository.getForOwner ownerId deviceId) s).1
  listByOwnerId ownerId s := (exec (SqliteDeviceRepository.listByOwnerId ownerId) s).1
  getActive deviceId s := (exec (SqliteDeviceCredentialRepository.getActive deviceId) s).1
  devices s := s.devices
  credentials s := s.deviceCredentials

/-- Everything a call can see at one moment. Devices are kept under their ids. -/
structure World {S : Type} (stores : RoutingStores S) where
  store : S
  registry : DeviceSessionRegistry
  states : SessionStates
  keyed : ∀ d record, (stores.devices store).get? d = some record → record.deviceId = d

/-- The readings of the registry's clock in one `#snapshotDevice`. -/
structure SnapshotReadings where
  status : JsDate
  active : JsDate
  current : JsDate

/-- The readings of the registry's clock in one `resolve`. -/
structure ResolveReadings where
  active : JsDate
  current : JsDate

section Service
variable {S : Type} (stores : RoutingStores S) (options : RegistryOptions)

namespace World
variable {stores} (w : World stores)

def getActiveSession (now : JsDate) (d : DeviceId) : Except JsError (Option ActiveDeviceSession) :=
  w.registry.getActive options w.states now d

def getStatus (now : JsDate) (d : DeviceId) : Except JsError DeviceSessionStatusSnapshot :=
  w.registry.getStatus options w.states now d

end World

/-! ## The methods -/

/-- `#normalizeError`: the body throws a `DeviceRoutingError`, or something else. -/
def normalizeError {α : Type} (body : ExceptT DeviceRoutingError (Except JsError) α) :
    Except DeviceRoutingError α :=
  match body with
  | .ok result => result
  | .error _ => .error routingUnavailable

/-- `#snapshotDevice`, whose credential is awaited from the first world to the second. -/
def snapshotDevice (first second : World stores) (readings : SnapshotReadings)
    (device : Schemas.Device) : Except JsError RoutedDeviceSnapshot := do
  let liveness ← first.getStatus options readings.status device.deviceId
  let active ← first.getActiveSession options readings.active device.deviceId
  match active.filter (·.ownerId = device.ownerId) with
  | none => return snapshot device .offline liveness.connectedAt liveness.lastSeenAt
  | some active =>
    let credential ← stores.getActive device.deviceId.value first.store
    let current ← second.getActiveSession options readings.current device.deviceId
    match credential.filter (SameCredentialGeneration active), current.filter fun current =>
        current.registrationId = active.registrationId ∧ current.session = active.session ∧
          current.ownerId = device.ownerId with
    | some _, some current =>
      return snapshot device .online current.connectedAt current.lastSeenAt
    | _, _ => return snapshot device .offline liveness.connectedAt liveness.lastSeenAt

/-- `Promise.all` of the snapshots: each awaits its own credential. A rejection of any of them is
`ROUTING_UNAVAILABLE`, so which comes first does not matter. -/
def snapshotDevices (second : World stores) (third : ℕ → World stores)
    (readings : ℕ → SnapshotReadings) : ℕ → List Schemas.Device →
      Except JsError (List RoutedDeviceSnapshot)
  | _, [] => return []
  | i, device :: rest => do
    let shown ← snapshotDevice stores options second (third i) (readings i) device
    let others ← snapshotDevices second third readings (i + 1) rest
    return shown :: others

def listDevices (first second : World stores) (third : ℕ → World stores)
    (readings : ℕ → SnapshotReadings) (ownerId : String) :
    Except DeviceRoutingError (List RoutedDeviceSnapshot) := do
  let parsedOwnerId ← parseOwnerId ownerId
  normalizeError do
    let devices ← (stores.listByOwnerId parsedOwnerId first.store : Except JsError _)
    (snapshotDevices stores options second third readings 0 devices : Except JsError _)

def getDevice (first second third : World stores) (readings : SnapshotReadings)
    (ownerId deviceId : String) : Except DeviceRoutingError RoutedDeviceSnapshot := do
  let parsedOwnerId ← parseOwnerId ownerId
  let parsedDeviceId ← parseDeviceId deviceId
  normalizeError do
    let device ← (stores.getForOwner parsedOwnerId parsedDeviceId.value first.store :
      Except JsError _)
    match device with
    | none => throw notFound
    | some device => (snapshotDevice stores options second third readings device : Except JsError _)

/-- `resolve` after its two awaits. -/
def resolveSession {stores : RoutingStores S} (third : World stores) (readings : ResolveReadings)
    (ownerId : String) (deviceId : DeviceId) (device : Schemas.Device) :
    Option DeviceCredential → ExceptT DeviceRoutingError (Except JsError) ResolvedDeviceSession
  | none => throw credentialUnavailable
  | some credential => do
    let active ← (third.getActiveSession options readings.active deviceId : Except JsError _)
    match active with
    | none => throw ⟨.DEVICE_OFFLINE, "Device hiện không trực tuyến."⟩
    | some active =>
      if active.ownerId ≠ ownerId then throw notFound
      else if ¬ SameCredentialGeneration active credential then throw credentialUnavailable
      else
        let current ← (third.getActiveSession options readings.current deviceId :
          Except JsError _)
        match current.filter fun current =>
            current.registrationId = active.registrationId ∧ current.session = active.session with
        | none => throw ⟨.DEVICE_OFFLINE, "Device session đã thay đổi trong lúc định tuyến."⟩
        | some current =>
          return ⟨snapshot device .online current.connectedAt current.lastSeenAt, current.session⟩

def resolve (first second third : World stores) (readings : ResolveReadings)
    (ownerId deviceId : String) : Except DeviceRoutingError ResolvedDeviceSession := do
  let parsedOwnerId ← parseOwnerId ownerId
  let parsedDeviceId ← parseDeviceId deviceId
  normalizeError do
    let device ← (stores.getForOwner parsedOwnerId parsedDeviceId.value first.store :
      Except JsError _)
    match device with
    | none => throw notFound
    | some device =>
      let credential ← (stores.getActive parsedDeviceId.value second.store : Except JsError _)
      resolveSession options third readings parsedOwnerId parsedDeviceId device credential

end Service
end Doctmcp.Routing
