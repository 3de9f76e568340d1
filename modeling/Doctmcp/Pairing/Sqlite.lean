import Doctmcp.Device.Sqlite

/-! # The SQLite pairing repository

`SqlitePairingSessionRepository` of `apps/server/src/storage`. A claim reads the clock inside its
`BEGIN IMMEDIATE` transaction and inserts the device there, so a failure after the insert takes the
device back too; the refusal of an unknown, used or expired code is thrown after the commit. -/

namespace Doctmcp.Pairing
open Doctmcp.Lib Doctmcp.Lib.Operation Doctmcp.Schemas Doctmcp.Device Doctmcp.Storage
set_option autoImplicit false

namespace SqlitePairingSessionRepository

/-- The candidate of `snapshot`: every column that is not `NULL`. -/
def toSession (row : PairingRow) : PairingSession where
  pairingSessionId := row.pairingSessionId
  state := row.state
  createdAt := row.createdAtMs
  expiresAt := row.expiresAtMs
  localCorrelationId := row.localCorrelationId
  claimedAt := row.claimedAtMs
  deviceId := row.deviceId

def snapshot (row : PairingRow) : Except JsError PairingSession :=
  orThrow (pairingSessionSchema (toSession row))
    (repositoryError .INVALID_PAIRING_RECORD "Pairing row vi phạm domain invariant.")

/-! ## Statements -/

/-- `SELECT * FROM pairing_sessions WHERE pairing_session_id = ?1`. -/
def byId (id : PairingSessionId) : Operation Database JsError (Option PairingRow) := do
  let db ← get
  return (db.pairingSessions.get? id)

/-- `SELECT * FROM pairing_sessions WHERE code_digest = ?1`. -/
def byDigest (codeDigest : HexDigest) : Operation Database JsError (Option PairingRow) := do
  let db ← get
  return (db.pairingSessions.values.find? (·.codeDigest = codeDigest))

/-- `PRUNE_CONDITION`; a `NULL` sum does not satisfy it. -/
def pruneCondition (options : PairingRepositoryOptions) (atMs : ℤ) (row : PairingRow) : Bool :=
  if row.state = .claimed then
    row.claimedAtMs.any fun claimedAtMs => claimedAtMs + options.claimedRetentionMs ≤ atMs
  else row.expiresAtMs ≤ atMs

def prune (options : PairingRepositoryOptions) (atMs : ℤ) : Operation Database JsError ℕ := do
  let db ← get
  let pruned := db.pairingSessions.values.filter (pruneCondition options atMs)
  set ({ db with
    pairingCodeTombstones := db.pairingCodeTombstones ++
      (pruned.map (·.codeDigest)).filter (· ∉ db.pairingCodeTombstones)
    pairingSessions :=
      db.pairingSessions.filter fun _ row => !pruneCondition options atMs row } : Database)
  return pruned.length

/-- The `CHECK` constraints of `pairing_sessions`; a `NULL` comparison passes. -/
def rowCheck (row : PairingRow) : Prop :=
  JsString.length row.codeDigest.value = 64 ∧ row.createdAtMs < row.expiresAtMs ∧
    ((row.state = .claimed ∧ row.deviceId ≠ none ∧ ∀ claimedAtMs ∈ row.claimedAtMs,
        row.createdAtMs ≤ claimedAtMs ∧ claimedAtMs < row.expiresAtMs) ∨
      (row.state ≠ .claimed ∧ row.claimedAtMs = none ∧ row.deviceId = none))

instance (row : PairingRow) : Decidable (rowCheck row) :=
  inferInstanceAs (Decidable (_ ∧ _ ∧ _))

def insertRow (row : PairingRow) : Operation Database JsError Unit := do
  let db ← get
  failIf (¬ rowCheck row) (.constraint "pairing_sessions")
  failIf (db.pairingSessions.has row.pairingSessionId = true) (.constraint "pairing_sessions")
  failIf (∃ other ∈ db.pairingSessions.values, other.codeDigest = row.codeDigest)
    (.constraint "pairing_sessions")
  set ({ db with
    pairingSessions := db.pairingSessions.set row.pairingSessionId row } : Database)

/-- `REFERENCES devices(device_id)`; `NULL` references nothing. -/
def requireReference (deviceId : Option DeviceId) : Operation Database JsError Unit :=
  match deviceId with
  | none => pure ()
  | some id => requireDevice "pairing_sessions" id

/-- `UPDATE pairing_sessions SET … WHERE pairing_session_id = ? …`; the number of changes. -/
def updateRow (id : PairingSessionId) (condition : PairingRow → Bool)
    (assign : PairingRow → PairingRow) : Operation Database JsError ℕ := do
  let db ← get
  match (db.pairingSessions.get? id).filter condition with
  | none => return 0
  | some row =>
    failIf (¬ rowCheck (assign row)) (.constraint "pairing_sessions")
    requireReference (assign row).deviceId
    set ({ db with pairingSessions := db.pairingSessions.set id (assign row) } : Database)
    return 1

/-- Read the written row back and take its snapshot. -/
def readBack (id : PairingSessionId) (message : String) :
    Operation Database JsError PairingSession := do
  let found ← byId id
  let row ← (orThrow found (.error message) : Except JsError PairingRow)
  snapshot row

/-! ## Calls -/

def create (options : PairingRepositoryOptions) (input : CreatePairingRecordInput) :
    Operation Database JsError PairingSession := do
  let id ← parsePairingSessionId input.pairingSessionId
  let codeDigest ← parseDigest input.codeDigest
  let createdAtMs ← readTimestamp input.createdAt "createdAt"
  let expiresAtMs ← readTimestamp input.expiresAt "expiresAt"
  failIf (expiresAtMs ≤ createdAtMs)
    (repositoryError .INVALID_PAIRING_RECORD "expiresAt phải sau createdAt.")
  let row : PairingRow :=
    { pairingSessionId := id, codeDigest, createdAtMs, expiresAtMs,
      localCorrelationId := input.localCorrelationId, state := .pending, claimedAtMs := none,
      deviceId := none }
  failIf (pairingSessionSchema (toSession row) = none)
    (repositoryError .INVALID_PAIRING_RECORD "Pairing input không hợp lệ.")
  transaction do
    let _ ← prune options createdAtMs
    let existing ← byId id
    failIf (existing.isSome = true)
      (repositoryError .PAIRING_SESSION_ALREADY_EXISTS "pairingSessionId đã tồn tại.")
    let sameDigest ← byDigest codeDigest
    let db ← get
    failIf (sameDigest.isSome = true ∨ codeDigest ∈ db.pairingCodeTombstones)
      (repositoryError .PAIRING_CODE_DIGEST_ALREADY_EXISTS "Pairing code digest đã tồn tại.")
    failIf (options.maxSessions ≤ db.pairingSessions.size)
      (repositoryError .PAIRING_CAPACITY_EXCEEDED "Pairing repository capacity is full.")
    insertRow row
    readBack id "Pairing create không thể đọc lại."

def getById (pairingSessionId : String) :
    Operation Database JsError (Option PairingSession) := do
  let id ← parsePairingSessionId pairingSessionId
  let row ← byId id
  match row with
  | none => return none
  | some row =>
    let session ← snapshot row
    return some session

/-- The body of the claim's transaction; `none` is the source's `null`. -/
def claimInTransaction (now : JsDate) (source : DeviceSource) (claim : ClaimPairingInput)
    (codeDigest : HexDigest) :
    Operation Database JsError (Option (PairingSession × Schemas.Device)) := do
  let claimedAtMs ← readTimestamp now "claimedAt"
  let found ← byDigest codeDigest
  match found.filter (·.state = .pending) with
  | none => return none
  | some row =>
    if claimedAtMs ≥ row.expiresAtMs then
      let _ ← updateRow row.pairingSessionId (fun _ => true) ({ · with state := .expired })
      return none
    else
      failIf (claimedAtMs < row.createdAtMs)
        (repositoryError .INVALID_CLOCK "claimedAt không được trước createdAt.")
      let parsed ← orThrow (claimPairingInputSchema claim)
        (repositoryError .INVALID_PAIRING_RECORD "Device claim input không hợp lệ.")
      let device ← SqliteDeviceRepository.createInTransaction source parsed
      let changes ← updateRow row.pairingSessionId (·.state = .pending)
        (·.claimBy claimedAtMs device.deviceId)
      failIf (changes ≠ 1) (.error "Pairing claim lost its atomic boundary.")
      let session ← readBack row.pairingSessionId "Claimed session không thể đọc lại."
      return some (session, device)

def claim (now : JsDate) (source : DeviceSource) (input : ClaimPairingRecordInput) :
    Operation Database JsError (PairingSession × Schemas.Device) := do
  let codeDigest ← parseDigest input.codeDigest
  let result ← transaction (claimInTransaction now source input.claim codeDigest)
  let result ← (orThrow result
    (repositoryError .PAIRING_CODE_UNAVAILABLE "Pairing code không khả dụng.") :
    Except JsError (PairingSession × Schemas.Device))
  return result

def cancel (pairingSessionId : String) (cancelledAt : JsDate) :
    Operation Database JsError PairingSession := do
  let id ← parsePairingSessionId pairingSessionId
  let nowMs ← readTimestamp cancelledAt "cancelledAt"
  transaction do
    let found ← byId id
    match found with
    | none =>
      throw (repositoryError .PAIRING_SESSION_NOT_FOUND "Pairing session không tồn tại.")
    | some row =>
      if row.state = .pending ∧ nowMs ≥ row.expiresAtMs then
        let _ ← updateRow id (fun _ => true) ({ · with state := .expired })
        readBack id "Pairing cancel không thể đọc lại."
      else
        failIf (row.state ≠ .pending)
          (repositoryError .PAIRING_SESSION_NOT_PENDING "Pairing session không còn pending.")
        failIf (nowMs < row.createdAtMs)
          (repositoryError .INVALID_CLOCK "cancelledAt không được trước createdAt.")
        let _ ← updateRow id (fun _ => true) ({ · with state := .cancelled })
        readBack id "Pairing cancel không thể đọc lại."

/-- `UPDATE pairing_sessions SET state = 'expired' WHERE state = 'pending' AND expires_at_ms <= ?1`:
the changed rows keep `CHECK`, since only `pending` rows change. -/
def expire (expiredAt : JsDate) : Operation Database JsError ℕ := do
  let nowMs ← readTimestamp expiredAt "expiredAt"
  transaction do
    let db ← get
    set ({ db with pairingSessions := db.pairingSessions.mapValues fun _ =>
      InMemoryPairingSessionRepository.expireRecord nowMs } : Database)
    return (db.pairingSessions.values.countP (InMemoryPairingSessionRepository.isDue nowMs))

def pruneExpired (options : PairingRepositoryOptions) (expiredAt : JsDate) :
    Operation Database JsError ℕ := do
  let nowMs ← readTimestamp expiredAt "expiredAt"
  transaction (prune options nowMs)

end SqlitePairingSessionRepository
end Doctmcp.Pairing
