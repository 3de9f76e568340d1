import Doctmcp.Storage.Database

/-! # The SQLite device repository

`SqliteDeviceRepository` of `apps/server/src/storage`. `create` is `createInTransaction` on the
shared connection: the claim of a pairing session calls it inside its own transaction. -/

namespace Doctmcp.Device
open Doctmcp.Lib Doctmcp.Lib.Operation Doctmcp.Schemas Doctmcp.Storage
set_option autoImplicit false

namespace SqliteDeviceRepository

/-- `SELECT * FROM devices WHERE device_id = ?1`. -/
def findById (deviceId : DeviceId) : Operation Database JsError (Option DeviceRow) := do
  let db ← get
  return (db.devices.get? deviceId)

def deviceAlreadyExists : JsError :=
  .DeviceRepositoryError .DEVICE_ALREADY_EXISTS "deviceId đã tồn tại."

def createInTransaction (source : DeviceSource) (input : CreateDeviceInput) :
    Operation Database JsError Schemas.Device := do
  let parsed ← orThrow (createDeviceInputSchema input)
    (invalidInput "Device input không hợp lệ.")
  let deviceId ← parseDeviceId source.generateDeviceId
  let existing ← findById deviceId
  failIf (existing.isSome = true) deviceAlreadyExists
  let nowMs ← readNow source.now
  let changes ← insertDevice
    { deviceId, ownerId := parsed.ownerId, deviceName := parsed.deviceName,
      metadata := parsed.metadata, createdAtMs := nowMs, updatedAtMs := nowMs }
  failIf (changes = 0) deviceAlreadyExists
  let created ← findById deviceId
  let row ← (orThrow created (.error "Device insert không thể đọc lại.") :
    Except JsError DeviceRow)
  return toSnapshot row

def getForOwner (ownerId deviceId : String) : Operation Database JsError (Option Schemas.Device) := do
  let owner ← parseOwnerId ownerId
  let id ← parseDeviceId deviceId
  let row ← findById id
  return (row.filter (fun r => r.ownerId = owner)).map toSnapshot

/-- `SELECT * FROM devices WHERE owner_id = ?1 AND device_id = ?2`. -/
def findForOwner (ownerId : String) (deviceId : DeviceId) :
    Operation Database JsError (Option DeviceRow) := do
  let db ← get
  return ((db.devices.get? deviceId).filter (·.ownerId = ownerId))

def getById (deviceId : String) : Operation Database JsError (Option Schemas.Device) := do
  let id ← parseDeviceId deviceId
  let row ← findById id
  return row.map toSnapshot

/-- `ORDER BY created_at_ms ASC, device_id ASC`; text is ordered bytewise. -/
def orderListed (left right : DeviceRow) : Ordering :=
  (compare left.createdAtMs right.createdAtMs).then
    (compareOfLessAndEq left.deviceId.value right.deviceId.value)

def listByOwnerId (ownerId : String) : Operation Database JsError (List Schemas.Device) := do
  let owner ← parseOwnerId ownerId
  let db ← get
  return (((db.devices.values.filter (·.ownerId = owner)).mergeSort
    fun left right => (orderListed left right).isLE).map toSnapshot)

/-- The columns that the `UPDATE` sets: a patch without `metadata` keeps the three columns, one
with `metadata` sets what it leaves out to `NULL`. -/
def assignPatch (patch : UpdateDeviceInput) (nowMs : ℤ) (row : DeviceRow) : DeviceRow :=
  { row with
    deviceName := patch.deviceName.getD row.deviceName
    metadata :=
      { platform := (patch.metadata.map (·.platform)).getD row.metadata.platform
        appVersion := match patch.metadata with
          | none => row.metadata.appVersion
          | some metadata => metadata.appVersion
        runtimeVersion := match patch.metadata with
          | none => row.metadata.runtimeVersion
          | some metadata => metadata.runtimeVersion }
    updatedAtMs := nowMs }

/-- `UPDATE devices SET … WHERE owner_id = ?6 AND device_id = ?7 AND updated_at_ms <= ?5`; the
number of changes. -/
def updateDevice (owner : String) (id : DeviceId) (nowMs : ℤ)
    (assign : DeviceRow → DeviceRow) : Operation Database JsError ℕ := do
  let db ← get
  match (db.devices.get? id).filter
      (fun row => row.ownerId = owner ∧ row.updatedAtMs ≤ nowMs) with
  | none => return 0
  | some row =>
    failIf ((assign row).updatedAtMs < (assign row).createdAtMs) (.constraint "devices")
    set ({ db with devices := db.devices.set id (assign row) } : Database)
    return 1

def updateForOwner (now : JsDate) (ownerId deviceId : String) (patch : UpdateDeviceInput) :
    Operation Database JsError (Option Schemas.Device) := do
  let owner ← parseOwnerId ownerId
  let id ← parseDeviceId deviceId
  let parsed ← orThrow (updateDeviceInputSchema patch)
    (invalidInput "Device update không hợp lệ.")
  let found ← findForOwner owner id
  match found with
  | none => return none
  | some row =>
    let nowMs ← readNow now
    failIf (nowMs < row.updatedAtMs)
      (invalidClock "Clock không được đi lùi so với updatedAt hiện tại.")
    let changes ← updateDevice owner id nowMs (assignPatch parsed nowMs)
    if changes = 0 then
      let current ← findForOwner owner id
      match current with
      | none => return none
      | some current =>
        failIf (nowMs < current.updatedAtMs)
          (invalidClock "Clock không được đi lùi so với updatedAt hiện tại.")
        throw (.error "Device update không thể hoàn tất.")
    else
      let updated ← findForOwner owner id
      let row ← (orThrow updated (.error "Device update không thể đọc lại.") :
        Except JsError DeviceRow)
      return some (toSnapshot row)

def isOwnedBy (ownerId deviceId : String) : Operation Database JsError Bool := do
  let owner ← parseOwnerId ownerId
  let id ← parseDeviceId deviceId
  let row ← findForOwner owner id
  return row.isSome

theorem exec_findById_bind {β : Type} (d : DeviceId)
    (f : Option DeviceRow → Operation Database JsError β) (s : Database) :
    exec (findById d >>= f) s = exec (f (s.devices.get? d)) s := by
  rw [exec_bind]
  rfl

/-- What `create` can do: throw with the database as it was, or add one row under a new id. -/
inductive CreateOutcome (s : Database) : Except JsError Schemas.Device × Database → Prop
  | thrown (e : JsError) : CreateOutcome s (.error e, s)
  | created (row : DeviceRow) (hnew : s.devices.get? row.deviceId = none) :
      CreateOutcome s (.ok (toSnapshot row), { s with devices := s.devices.set row.deviceId row })

theorem insertDevice_new {row : DeviceRow} {s : Database}
    (hnew : s.devices.get? row.deviceId = none) (htimes : row.updatedAtMs = row.createdAtMs) :
    exec (insertDevice row) s = (.ok 1, { s with devices := s.devices.set row.deviceId row }) := by
  have hhas : s.devices.has row.deviceId = false := (OrderedMap.has_false_iff _ _).mpr hnew
  unfold insertDevice
  rw [exec_get_bind, exec_bind, exec_failIf]
  simp [htimes, hhas, exec_map, Except.map]

theorem create_outcome (source : DeviceSource) (input : CreateDeviceInput) (s : Database) :
    CreateOutcome s (exec (createInTransaction source input) s) := by
  unfold createInTransaction
  refine exec_bind_cases (fun e _ => .thrown e) fun parsed _ => ?_
  refine exec_bind_cases (fun e _ => .thrown e) fun deviceId _ => ?_
  rw [exec_findById_bind]
  refine exec_failIf_cases (fun _ => .thrown _) fun hnone => ?_
  refine exec_bind_cases (fun e _ => .thrown e) fun nowMs _ => ?_
  have hnew : s.devices.get? deviceId = none := by simpa using hnone
  rw [exec_bind, insertDevice_new (by exact hnew) rfl]
  dsimp only
  refine exec_failIf_cases (fun h => absurd h (by decide)) fun _ => ?_
  rw [exec_findById_bind, OrderedMap.get?_set_self, exec_lift_bind_eq (orThrow_some _ _)]
  exact .created _ hnew

end SqliteDeviceRepository
end Doctmcp.Device
