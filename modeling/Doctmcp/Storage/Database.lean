import Doctmcp.Credential.Memory
import Doctmcp.Pairing.Memory

/-! # The SQLite database

The tables of the migrations that the credential, device and pairing adapters share, each keyed by
its primary key. A row has the columns of the stored record of the in-memory adapter, so the record
types are shared. A statement that violates a constraint throws; `BEGIN IMMEDIATE` transactions are
atomic and isolated, so one transaction is one operation on the database. -/

namespace Doctmcp.Storage
open Doctmcp.Lib Doctmcp.Lib.Operation Doctmcp.Schemas
open Doctmcp.Credential Doctmcp.Device Doctmcp.Pairing
set_option autoImplicit false

abbrev DeviceRow := StoredDevice
abbrev CredentialRow := StoredCredential
abbrev PairingRow := StoredPairingSession

structure Database where
  devices : OrderedMap DeviceId DeviceRow
  deviceCredentials : OrderedMap DeviceId CredentialRow
  usedDeviceCredentialIds : OrderedMap CredentialId DeviceId
  pairingSessions : OrderedMap PairingSessionId PairingRow
  pairingCodeTombstones : List HexDigest

/-- A database right after the migrations. -/
def Database.migrated : Database :=
  ⟨OrderedMap.empty, OrderedMap.empty, OrderedMap.empty, OrderedMap.empty, []⟩

/-- `REFERENCES devices(device_id)`, with `PRAGMA foreign_keys = ON`. -/
def requireDevice (table : String) (deviceId : DeviceId) : Operation Database JsError Unit := do
  let db ← get
  failIf (db.devices.has deviceId = false) (.constraint table)

/-- Insert a device row, `ON CONFLICT(device_id) DO NOTHING`; the number of changes. -/
def insertDevice (row : DeviceRow) : Operation Database JsError ℕ := do
  let db ← get
  failIf (row.updatedAtMs < row.createdAtMs) (.constraint "devices")
  if db.devices.has row.deviceId = true then return 0
  else
    set ({ db with devices := db.devices.set row.deviceId row } : Database)
    return 1

/-- Inserting a device touches only the table `devices`. -/
theorem insertDevice_frame (row : DeviceRow) (db : Database) :
    ∃ devices, (exec (insertDevice row) db).2 = { db with devices := devices } := by
  unfold insertDevice
  rw [exec_get_bind, exec_bind, exec_failIf]
  by_cases hcheck : row.updatedAtMs < row.createdAtMs
  · exact ⟨db.devices, by simp [hcheck]⟩
  · by_cases hhas : db.devices.has row.deviceId = true
    · exact ⟨db.devices, by simp [hcheck, hhas]⟩
    · exact ⟨db.devices.set row.deviceId row, by simp [hcheck, hhas, exec_map]⟩

/-- Inserting a device removes none. -/
theorem insertDevice_has (row : DeviceRow) (db : Database) {d : DeviceId}
    (h : db.devices.has d = true) : (exec (insertDevice row) db).2.devices.has d = true := by
  unfold insertDevice
  rw [exec_get_bind, exec_bind, exec_failIf]
  by_cases hcheck : row.updatedAtMs < row.createdAtMs
  · simpa [hcheck] using h
  · by_cases hhas : db.devices.has row.deviceId = true
    · simpa [hcheck, hhas] using h
    · have hset : (db.devices.set row.deviceId row).has d = true := by
        rw [← OrderedMap.mem_keys_iff, OrderedMap.mem_keys_set, OrderedMap.mem_keys_iff]
        exact .inr h
      simpa [hcheck, hhas, exec_map] using hset

end Doctmcp.Storage
