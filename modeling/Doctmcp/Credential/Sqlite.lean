import Doctmcp.Storage.Database

/-! # The SQLite credential repository

`SqliteDeviceCredentialRepository` of `apps/server/src/storage`. Inputs are checked before the
transaction opens; whatever is thrown inside it rolls the database back. -/

namespace Doctmcp.Credential
open Doctmcp.Lib Doctmcp.Lib.Operation Doctmcp.Schemas Doctmcp.Storage
set_option autoImplicit false

namespace SqliteDeviceCredentialRepository

/-! ## Statements -/

def snapshot (row : CredentialRow) : Except JsError DeviceCredential :=
  orThrow (deviceCredentialSchema row.toCredential) (.error "SQLite credential row không hợp lệ.")

theorem snapshot_ok {row : CredentialRow} {c : DeviceCredential} (h : snapshot row = .ok c) :
    row.Valid ∧ c = row.toCredential := by
  have hs := orThrow_ok h
  have hc := deviceCredentialSchema_some hs
  rw [hc] at hs
  exact ⟨hs, hc⟩

@[simp] theorem snapshot_valid {row : CredentialRow} (h : row.Valid) :
    snapshot row = .ok row.toCredential := by
  unfold snapshot
  rw [h, orThrow_some]

/-- `SELECT * FROM device_credentials WHERE device_id = ?1`. -/
def selectByDevice (deviceId : DeviceId) : Operation Database JsError (Option CredentialRow) := do
  let db ← get
  return (db.deviceCredentials.get? deviceId)

def requireUnused (credentialId : CredentialId) : Operation Database JsError Unit := do
  let db ← get
  failIf (db.usedDeviceCredentialIds.has credentialId = true)
    (.DeviceCredentialError .CREDENTIAL_ID_CONFLICT "credentialId đã được sử dụng.")

/-- `INSERT INTO used_device_credential_ids`. -/
def insertUsed (credentialId : CredentialId) (deviceId : DeviceId) :
    Operation Database JsError Unit := do
  let db ← get
  failIf (db.usedDeviceCredentialIds.has credentialId = true)
    (.constraint "used_device_credential_ids")
  requireDevice "used_device_credential_ids" deviceId
  set ({ db with usedDeviceCredentialIds :=
    db.usedDeviceCredentialIds.set credentialId deviceId } : Database)

/-- The `CHECK` constraints of `device_credentials`; a `NULL` comparison passes. -/
def rowCheck (row : CredentialRow) : Prop :=
  0 < row.version ∧ JsString.length row.secretDigest.value = 64 ∧
    ((row.state = .active ∧ row.revokedAtMs = none) ∨
      (row.state = .revoked ∧ ∀ revokedAtMs ∈ row.revokedAtMs, row.createdAtMs ≤ revokedAtMs))

instance (row : CredentialRow) : Decidable (rowCheck row) :=
  inferInstanceAs (Decidable (_ ∧ _ ∧ _))

/-- `credential_id TEXT NOT NULL UNIQUE`. -/
def credentialIdTaken (db : Database) (row : CredentialRow) : Prop :=
  ∃ other ∈ db.deviceCredentials.values,
    other.deviceId ≠ row.deviceId ∧ other.credentialId = row.credentialId

instance (db : Database) (row : CredentialRow) : Decidable (credentialIdTaken db row) :=
  inferInstanceAs (Decidable (∃ other ∈ db.deviceCredentials.values, _))

/-- Write one row of `device_credentials` under the table's constraints. -/
def writeRow (row : CredentialRow) : Operation Database JsError Unit := do
  let db ← get
  failIf (¬ rowCheck row) (.constraint "device_credentials")
  failIf (credentialIdTaken db row) (.constraint "device_credentials")
  requireDevice "device_credentials" row.deviceId
  set ({ db with deviceCredentials := db.deviceCredentials.set row.deviceId row } : Database)

/-- `UPDATE device_credentials SET … WHERE device_id = ? AND credential_id = ? AND version = ? AND
state = 'active'`; the number of changes. -/
def updateActive (deviceId : DeviceId) (credentialId : CredentialId) (version : ℕ)
    (assign : CredentialRow → CredentialRow) : Operation Database JsError ℕ := do
  let db ← get
  match InMemoryDeviceCredentialRepository.expectedActive (db.deviceCredentials.get? deviceId)
      credentialId version with
  | none => return 0
  | some row =>
    writeRow (assign row)
    return 1

/-- Read the written row back and take its snapshot. -/
def readBack (deviceId : DeviceId) (message : String) :
    Operation Database JsError DeviceCredential := do
  let found ← selectByDevice deviceId
  let row ← (orThrow found (.error message) : Except JsError CredentialRow)
  snapshot row

/-! ## Calls -/

def issue (input : IssueInput) : Operation Database JsError DeviceCredential := do
  let deviceId ← parseDeviceId input.deviceId
  let credentialId ← parseCredentialId input.credentialId
  let digest ← parseDigest input.secretDigest
  let createdAtMs ← readTime input.createdAt
  transaction do
    let existing ← selectByDevice deviceId
    failIf (InMemoryDeviceCredentialRepository.isActive existing)
      (.DeviceCredentialError .CREDENTIAL_ALREADY_EXISTS "Device đã có credential active.")
    requireUnused credentialId
    let version := (existing.map (·.version)).getD 0 + 1
    insertUsed credentialId deviceId
    writeRow { credentialId, deviceId, version, secretDigest := digest, createdAtMs,
               state := .active, revokedAtMs := none }
    readBack deviceId "Credential issue không thể đọc lại."

def getActive (deviceId : String) : Operation Database JsError (Option DeviceCredential) := do
  let deviceId ← parseDeviceId deviceId
  let row ← selectByDevice deviceId
  match row with
  | none => return none
  | some row =>
    if row.state = .active then
      let credential ← snapshot row
      return some credential
    else return none

def verify (deviceId secretDigest : String) :
    Operation Database JsError (Option DeviceCredential) := do
  let deviceId ← parseDeviceId deviceId
  let row ← selectByDevice deviceId
  let digest ← parseDigest secretDigest
  match row with
  | none => return none
  | some row =>
    if row.state = .active ∧ constantTimeEqualHex row.secretDigest.value digest.value = true then
      let credential ← snapshot row
      return some credential
    else return none

def revoke (input : RevokeInput) : Operation Database JsError (Option DeviceCredential) := do
  let deviceId ← parseDeviceId input.deviceId
  let credentialId ← parseCredentialId input.expectedCredentialId
  let version ← parseVersion input.expectedVersion
  let revokedAtMs ← readTime input.revokedAt
  transaction do
    let current ← selectByDevice deviceId
    match InMemoryDeviceCredentialRepository.expectedActive current credentialId version with
    | none => return none
    | some current =>
      failIf (revokedAtMs < current.createdAtMs)
        (.DeviceCredentialError .INVALID_CLOCK "revokedAt không được trước createdAt.")
      let changes ← updateActive deviceId credentialId version (·.revoke revokedAtMs)
      if changes ≠ 1 then return none
      else
        let credential ← readBack deviceId "Credential revoke không thể đọc lại."
        return some credential

def rotate (input : RotateInput) : Operation Database JsError DeviceCredential := do
  let deviceId ← parseDeviceId input.deviceId
  let expectedId ← parseCredentialId input.expectedCredentialId
  let expectedVersion ← parseVersion input.expectedVersion
  let credentialId ← parseCredentialId input.credentialId
  let digest ← parseDigest input.secretDigest
  let rotatedAtMs ← readTime input.rotatedAt
  transaction do
    let current ← selectByDevice deviceId
    match InMemoryDeviceCredentialRepository.expectedActive current expectedId expectedVersion with
    | none =>
      throw (.DeviceCredentialError .CREDENTIAL_UNAVAILABLE "Credential không khả dụng.")
    | some current =>
      requireUnused credentialId
      failIf (rotatedAtMs < current.createdAtMs)
        (.DeviceCredentialError .INVALID_CLOCK "rotatedAt không được trước createdAt.")
      insertUsed credentialId deviceId
      let changes ← updateActive deviceId expectedId expectedVersion fun row =>
        { row with
          credentialId := credentialId, version := current.version + 1, secretDigest := digest,
          createdAtMs := rotatedAtMs, state := .active, revokedAtMs := none }
      failIf (changes ≠ 1)
        (.DeviceCredentialError .CREDENTIAL_UNAVAILABLE "Credential không khả dụng.")
      readBack deviceId "Credential rotate không thể đọc lại."

end SqliteDeviceCredentialRepository
end Doctmcp.Credential
