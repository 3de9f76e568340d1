import Doctmcp.Lib.OrderedMap
import Doctmcp.Lib.Operation
import Doctmcp.Schemas.Records
import Doctmcp.Schemas.Errors

/-! # The device repository

`InMemoryDeviceRepository` of `apps/server/src/device-repository.ts`. The generated id and the
clock readings are arguments, so a creation can fail on either and an update on the clock. The
default locale of the host, which orders a listing, is an argument as well. -/

namespace Doctmcp.Device
open Doctmcp.Lib Doctmcp.Lib.Operation Doctmcp.Schemas
set_option autoImplicit false

structure StoredDevice where
  deviceId : DeviceId
  ownerId : String
  deviceName : String
  metadata : DeviceMetadata
  createdAtMs : ℤ
  updatedAtMs : ℤ
  deriving DecidableEq

def toSnapshot (record : StoredDevice) : Device where
  deviceId := record.deviceId
  ownerId := record.ownerId
  deviceName := record.deviceName
  metadata := record.metadata
  createdAt := record.createdAtMs
  updatedAt := record.updatedAtMs

def invalidInput (message : String) : JsError :=
  .DeviceRepositoryError .INVALID_DEVICE_INPUT message

def invalidDeviceId (message : String) : JsError :=
  .DeviceRepositoryError .INVALID_DEVICE_ID message

def invalidClock (message : String) : JsError :=
  .DeviceRepositoryError .INVALID_CLOCK message

def parseOwnerId (ownerId : String) : Except JsError String :=
  orThrow (ownerIdSchema ownerId) (invalidInput "ownerId không hợp lệ.")

def parseDeviceId (deviceId : String) : Except JsError DeviceId :=
  orThrow (deviceIdSchema deviceId) (invalidDeviceId "deviceId không hợp lệ.")

@[simp] theorem parseDeviceId_value (id : DeviceId) : parseDeviceId id.value = .ok id := by
  simp [parseDeviceId]

def readNow (now : JsDate) : Except JsError ℤ :=
  orThrow now (invalidClock "Clock trả về thời điểm không hợp lệ.")

/-- What one creation draws from its surroundings: `generateDeviceId()` and `now()`. -/
structure DeviceSource where
  generateDeviceId : String
  now : JsDate

/-- The record after an update: fields that the patch leaves out stay. -/
def StoredDevice.patched (record : StoredDevice) (patch : UpdateDeviceInput)
    (nextUpdatedAtMs : ℤ) : StoredDevice :=
  { record with
    deviceName := patch.deviceName.getD record.deviceName
    metadata := patch.metadata.getD record.metadata
    updatedAtMs := nextUpdatedAtMs }

/-! ## The order of a listing -/

/-- How the host's default locale orders device ids. `localeCompare` is a consistent comparison,
and on canonical ids, whose characters are all distinct to a collation, only equal ids compare as
equal. -/
structure Collation where
  localeCompare : DeviceId → DeviceId → Ordering
  consistent : Std.TransCmp localeCompare
  lawful : Std.LawfulEqCmp localeCompare

attribute [instance] Collation.consistent Collation.lawful

/-- `left.createdAtMs - right.createdAtMs || left.deviceId.localeCompare(right.deviceId)`. -/
def compareListed (locale : Collation) (left right : StoredDevice) : Ordering :=
  (compare left.createdAtMs right.createdAtMs).then
    (locale.localeCompare left.deviceId right.deviceId)

structure InMemoryDeviceRepository where
  records : OrderedMap DeviceId StoredDevice

namespace InMemoryDeviceRepository

/-- `new InMemoryDeviceRepository()`. -/
def new : InMemoryDeviceRepository := ⟨OrderedMap.empty⟩

def create (source : DeviceSource) (input : CreateDeviceInput) :
    Operation InMemoryDeviceRepository JsError Device := do
  let parsedInput ← orThrow (createDeviceInputSchema input)
    (invalidInput "Device input không hợp lệ.")
  let parsedId ← orThrow (deviceIdSchema source.generateDeviceId)
    (invalidDeviceId "Device id generator trả về id không hợp lệ.")
  let repository ← get
  failIf (repository.records.has parsedId = true)
    (.DeviceRepositoryError .DEVICE_ALREADY_EXISTS "deviceId đã tồn tại.")
  let nowMs ← readNow source.now
  let record : StoredDevice :=
    { deviceId := parsedId, ownerId := parsedInput.ownerId, deviceName := parsedInput.deviceName,
      metadata := parsedInput.metadata, createdAtMs := nowMs, updatedAtMs := nowMs }
  set (⟨repository.records.set record.deviceId record⟩ : InMemoryDeviceRepository)
  return toSnapshot record

def getById (deviceId : String) : Operation InMemoryDeviceRepository JsError (Option Device) := do
  let parsedDeviceId ← parseDeviceId deviceId
  let repository ← get
  return (repository.records.get? parsedDeviceId).map toSnapshot

def getForOwner (ownerId deviceId : String) :
    Operation InMemoryDeviceRepository JsError (Option Device) := do
  let parsedOwnerId ← parseOwnerId ownerId
  let parsedDeviceId ← parseDeviceId deviceId
  let repository ← get
  return ((repository.records.get? parsedDeviceId).filter
    (fun record => record.ownerId = parsedOwnerId)).map toSnapshot

def listByOwnerId (locale : Collation) (ownerId : String) :
    Operation InMemoryDeviceRepository JsError (List Device) := do
  let parsedOwnerId ← parseOwnerId ownerId
  let repository ← get
  return (((repository.records.values.filter (·.ownerId = parsedOwnerId)).mergeSort
    fun left right => (compareListed locale left right).isLE).map toSnapshot)

def updateForOwner (now : JsDate) (ownerId deviceId : String) (patch : UpdateDeviceInput) :
    Operation InMemoryDeviceRepository JsError (Option Device) := do
  let parsedOwnerId ← parseOwnerId ownerId
  let parsedDeviceId ← parseDeviceId deviceId
  let parsedPatch ← orThrow (updateDeviceInputSchema patch)
    (invalidInput "Device update không hợp lệ.")
  let repository ← get
  match (repository.records.get? parsedDeviceId).filter (·.ownerId = parsedOwnerId) with
  | none => return none
  | some record =>
    let nextUpdatedAtMs ← readNow now
    failIf (nextUpdatedAtMs < record.updatedAtMs)
      (invalidClock "Clock không được đi lùi so với updatedAt hiện tại.")
    let updated := record.patched parsedPatch nextUpdatedAtMs
    set (⟨repository.records.set parsedDeviceId updated⟩ : InMemoryDeviceRepository)
    return some (toSnapshot updated)

def isOwnedBy (ownerId deviceId : String) : Operation InMemoryDeviceRepository JsError Bool := do
  let parsedOwnerId ← parseOwnerId ownerId
  let parsedDeviceId ← parseDeviceId deviceId
  let repository ← get
  return ((repository.records.get? parsedDeviceId).map (·.ownerId) = some parsedOwnerId)

/-- What `create` can do: throw and leave the repository as it was, or add a record under a new
id. -/
inductive CreateOutcome (s : InMemoryDeviceRepository) :
    Except JsError Device × InMemoryDeviceRepository → Prop
  | thrown (e : JsError) : CreateOutcome s (.error e, s)
  | created (record : StoredDevice) (hnew : s.records.get? record.deviceId = none) :
      CreateOutcome s (.ok (toSnapshot record), ⟨s.records.set record.deviceId record⟩)

theorem create_outcome (source : DeviceSource) (input : CreateDeviceInput)
    (s : InMemoryDeviceRepository) : CreateOutcome s (exec (create source input) s) := by
  unfold create
  refine exec_bind_cases (fun e _ => .thrown e) fun parsedInput _ => ?_
  refine exec_bind_cases (fun e _ => .thrown e) fun parsedId _ => ?_
  rw [exec_get_bind]
  refine exec_failIf_cases (fun _ => .thrown _) fun hnew => ?_
  refine exec_bind_cases (fun e _ => .thrown e) fun nowMs _ => ?_
  refine .created ⟨parsedId, parsedInput.ownerId, parsedInput.deviceName, parsedInput.metadata,
    nowMs, nowMs⟩ ?_
  exact (OrderedMap.has_false_iff _ _).mp (by simpa using hnew)

end InMemoryDeviceRepository
end Doctmcp.Device
