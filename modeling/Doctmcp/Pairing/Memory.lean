import Doctmcp.Device.Repository

/-! # The in-memory pairing repository

`InMemoryPairingSessionRepository` of `apps/server/src/pairing.ts`, over the device repository that
its claims create devices in. Every mutation runs to its end inside `#runExclusive`, device
creation included, so one call is one operation on both stores. -/

namespace Doctmcp.Pairing
open Doctmcp.Lib Doctmcp.Lib.Operation Doctmcp.Schemas Doctmcp.Device
set_option autoImplicit false

def defaultPairingRepositoryMaxSessions : ℕ := 10000
def defaultPairingClaimedRetentionMs : ℕ := 10 * 60 * 1000
def defaultPairingExpiredCodeTombstones : ℕ := 100000

/-- The options the constructor accepts. -/
structure PairingRepositoryOptions where
  maxSessions : ℕ
  claimedRetentionMs : ℕ
  maxSessions_safe : 0 < maxSessions ∧ maxSessions ≤ maxSafeInteger
  claimedRetentionMs_safe : 0 < claimedRetentionMs ∧ claimedRetentionMs ≤ maxSafeInteger

def PairingRepositoryOptions.default : PairingRepositoryOptions where
  maxSessions := defaultPairingRepositoryMaxSessions
  claimedRetentionMs := defaultPairingClaimedRetentionMs
  maxSessions_safe := by decide
  claimedRetentionMs_safe := by decide

/-! ## Records and inputs -/

structure StoredPairingSession where
  pairingSessionId : PairingSessionId
  codeDigest : HexDigest
  createdAtMs : ℤ
  expiresAtMs : ℤ
  localCorrelationId : Option String
  state : PairingState
  claimedAtMs : Option ℤ
  deviceId : Option DeviceId
  deriving DecidableEq

/-- The record after `record.state = "claimed"` and its two companions. -/
def StoredPairingSession.claimBy (r : StoredPairingSession) (claimedAtMs : ℤ) (d : DeviceId) :
    StoredPairingSession :=
  { r with state := .claimed, claimedAtMs := some claimedAtMs, deviceId := some d }

structure CreatePairingRecordInput where
  pairingSessionId : String
  codeDigest : String
  createdAt : JsDate
  expiresAt : JsDate
  localCorrelationId : Option String

structure ClaimPairingRecordInput where
  codeDigest : String
  claim : ClaimPairingInput

def repositoryError (code : PairingRepositoryErrorCode) (message : String) : JsError :=
  .PairingRepositoryError code message

def parsePairingSessionId (pairingSessionId : String) : Except JsError PairingSessionId :=
  orThrow (pairingSessionIdSchema pairingSessionId)
    (repositoryError .INVALID_PAIRING_RECORD "pairingSessionId không hợp lệ.")

def parseDigest (codeDigest : String) : Except JsError HexDigest :=
  orThrow (digestPattern codeDigest)
    (repositoryError .INVALID_PAIRING_RECORD "Pairing code digest không hợp lệ.")

def readTimestamp (value : JsDate) (label : String) : Except JsError ℤ :=
  orThrow value (repositoryError .INVALID_CLOCK (label ++ " không hợp lệ."))

/-- The candidate of `toSessionSnapshot`: `claimedAt` and `deviceId` only when both are set. -/
def StoredPairingSession.toSession (r : StoredPairingSession) : PairingSession where
  pairingSessionId := r.pairingSessionId
  state := r.state
  createdAt := r.createdAtMs
  expiresAt := r.expiresAtMs
  localCorrelationId := r.localCorrelationId
  claimedAt := if r.deviceId ≠ none then r.claimedAtMs else none
  deviceId := if r.claimedAtMs ≠ none then r.deviceId else none

def toSessionSnapshot (record : StoredPairingSession) : Except JsError PairingSession :=
  orThrow (pairingSessionSchema record.toSession)
    (repositoryError .INVALID_PAIRING_RECORD "Pairing record vi phạm domain invariant.")

/-! ## The repository -/

structure InMemoryPairingSessionRepository where
  recordsById : OrderedMap PairingSessionId StoredPairingSession
  sessionIdByDigest : OrderedMap HexDigest PairingSessionId
  expiredCodeTombstones : List HexDigest
  expiredCodeTombstoneOrder : List HexDigest

/-- The pairing repository and the device repository it was constructed with. -/
structure MemoryStore where
  pairings : InMemoryPairingSessionRepository
  devices : InMemoryDeviceRepository

namespace InMemoryPairingSessionRepository

/-- `new InMemoryPairingSessionRepository(...)`. -/
def new : InMemoryPairingSessionRepository := ⟨OrderedMap.empty, OrderedMap.empty, [], []⟩

/-- `record.state = …` and the like: the stored object changes in place. -/
def update (repository : InMemoryPairingSessionRepository) (record : StoredPairingSession) :
    InMemoryPairingSessionRepository :=
  { repository with
    recordsById := repository.recordsById.set record.pairingSessionId record }

/-- The `while` loop that drops the oldest tombstones. -/
def dropOldest (tombstones : List HexDigest) : List HexDigest → List HexDigest × List HexDigest
  | [] => (tombstones, [])
  | oldest :: order =>
    if defaultPairingExpiredCodeTombstones < (oldest :: order).length then
      dropOldest (tombstones.filter (· ≠ oldest)) order
    else (tombstones, oldest :: order)

def pruneAtMs (options : PairingRepositoryOptions) (record : StoredPairingSession) : ℤ :=
  match record.state, record.claimedAtMs with
  | .claimed, some claimedAtMs => claimedAtMs + options.claimedRetentionMs
  | _, _ => record.expiresAtMs

/-- The body of the loop of `#pruneExpiredRecords`. -/
def pruneRecord (options : PairingRepositoryOptions) (expiredAtMs : ℤ)
    (acc : InMemoryPairingSessionRepository × ℕ) (record : StoredPairingSession) :
    InMemoryPairingSessionRepository × ℕ :=
  if pruneAtMs options record > expiredAtMs then acc
  else
    let tombstones := if record.codeDigest ∈ acc.1.expiredCodeTombstones then
        acc.1.expiredCodeTombstones
      else record.codeDigest :: acc.1.expiredCodeTombstones
    let (tombstones, order) :=
      dropOldest tombstones (acc.1.expiredCodeTombstoneOrder ++ [record.codeDigest])
    ({ recordsById := acc.1.recordsById.delete record.pairingSessionId
       sessionIdByDigest := acc.1.sessionIdByDigest.delete record.codeDigest
       expiredCodeTombstones := tombstones
       expiredCodeTombstoneOrder := order }, acc.2 + 1)

def pruneExpiredRecords (options : PairingRepositoryOptions) (expiredAtMs : ℤ)
    (repository : InMemoryPairingSessionRepository) : InMemoryPairingSessionRepository × ℕ :=
  repository.recordsById.values.foldl (pruneRecord options expiredAtMs) (repository, 0)

def create (options : PairingRepositoryOptions) (input : CreatePairingRecordInput) :
    Operation MemoryStore JsError PairingSession := do
  let pairingSessionId ← parsePairingSessionId input.pairingSessionId
  let codeDigest ← parseDigest input.codeDigest
  let createdAtMs ← readTimestamp input.createdAt "createdAt"
  let expiresAtMs ← readTimestamp input.expiresAt "expiresAt"
  failIf (expiresAtMs ≤ createdAtMs)
    (repositoryError .INVALID_PAIRING_RECORD "expiresAt phải sau createdAt.")
  let store ← get
  let pruned := (pruneExpiredRecords options createdAtMs store.pairings).1
  set ({ store with pairings := pruned } : MemoryStore)
  failIf (pruned.recordsById.has pairingSessionId = true)
    (repositoryError .PAIRING_SESSION_ALREADY_EXISTS "pairingSessionId đã tồn tại.")
  failIf (pruned.sessionIdByDigest.has codeDigest = true ∨
      codeDigest ∈ pruned.expiredCodeTombstones)
    (repositoryError .PAIRING_CODE_DIGEST_ALREADY_EXISTS "Pairing code digest đã tồn tại.")
  failIf (options.maxSessions ≤ pruned.recordsById.size)
    (repositoryError .PAIRING_CAPACITY_EXCEEDED "Pairing repository capacity is full.")
  let record : StoredPairingSession :=
    { pairingSessionId, codeDigest, createdAtMs, expiresAtMs,
      localCorrelationId := input.localCorrelationId, state := .pending, claimedAtMs := none,
      deviceId := none }
  let snapshot ← toSessionSnapshot record
  set ({ store with pairings :=
    { pruned with
      recordsById := pruned.recordsById.set pairingSessionId record
      sessionIdByDigest := pruned.sessionIdByDigest.set codeDigest pairingSessionId } } :
    MemoryStore)
  return snapshot

def getById (pairingSessionId : String) :
    Operation MemoryStore JsError (Option PairingSession) := do
  let parsedId ← parsePairingSessionId pairingSessionId
  let store ← get
  match store.pairings.recordsById.get? parsedId with
  | none => return none
  | some record =>
    let session ← toSessionSnapshot record
    return some session

/-- An operation of the device repository inside the store. -/
def onDevices {α : Type} (op : Operation InMemoryDeviceRepository JsError α) :
    Operation MemoryStore JsError α :=
  ExceptT.mk fun s =>
    let out := exec op s.devices
    (out.1, { s with devices := out.2 })

theorem exec_onDevices {α : Type} (op : Operation InMemoryDeviceRepository JsError α)
    (s : MemoryStore) :
    exec (onDevices op) s = ((exec op s.devices).1, { s with devices := (exec op s.devices).2 }) :=
  rfl

def codeUnavailable : JsError :=
  repositoryError .PAIRING_CODE_UNAVAILABLE "Pairing code không khả dụng."

/-- `claim`, with the readings of the repository's clock and of the device repository. -/
def claim (now : JsDate) (source : DeviceSource) (input : ClaimPairingRecordInput) :
    Operation MemoryStore JsError (PairingSession × Device) := do
  let codeDigest ← parseDigest input.codeDigest
  let claimedAtMs ← readTimestamp now "claimedAt"
  let store ← get
  match (store.pairings.sessionIdByDigest.get? codeDigest).bind
      store.pairings.recordsById.get? with
  | none => throw codeUnavailable
  | some record =>
    if record.state = .pending ∧ claimedAtMs ≥ record.expiresAtMs then
      set ({ store with pairings := store.pairings.update { record with state := .expired } } :
        MemoryStore)
      throw codeUnavailable
    else
      failIf (record.state ≠ .pending) codeUnavailable
      failIf (claimedAtMs < record.createdAtMs)
        (repositoryError .INVALID_CLOCK "claimedAt không được trước createdAt.")
      let device ← onDevices (InMemoryDeviceRepository.create source input.claim)
      let claimed := record.claimBy claimedAtMs device.deviceId
      let store ← get
      set ({ store with pairings := store.pairings.update claimed } : MemoryStore)
      let session ← toSessionSnapshot claimed
      return (session, device)

def cancel (pairingSessionId : String) (cancelledAt : JsDate) :
    Operation MemoryStore JsError PairingSession := do
  let parsedId ← parsePairingSessionId pairingSessionId
  let cancelledAtMs ← readTimestamp cancelledAt "cancelledAt"
  let store ← get
  match store.pairings.recordsById.get? parsedId with
  | none => throw (repositoryError .PAIRING_SESSION_NOT_FOUND "Pairing session không tồn tại.")
  | some record =>
    if record.state = .pending ∧ cancelledAtMs ≥ record.expiresAtMs then
      let expired : StoredPairingSession := { record with state := .expired }
      set ({ store with pairings := store.pairings.update expired } : MemoryStore)
      let session ← toSessionSnapshot expired
      return session
    else
      failIf (record.state ≠ .pending)
        (repositoryError .PAIRING_SESSION_NOT_PENDING "Pairing session không còn pending.")
      failIf (cancelledAtMs < record.createdAtMs)
        (repositoryError .INVALID_CLOCK "cancelledAt không được trước createdAt.")
      let cancelled : StoredPairingSession := { record with state := .cancelled }
      set ({ store with pairings := store.pairings.update cancelled } : MemoryStore)
      let session ← toSessionSnapshot cancelled
      return session

/-- `record.state === "pending" && expiredAtMs >= record.expiresAtMs`. -/
def isDue (expiredAtMs : ℤ) (record : StoredPairingSession) : Bool :=
  record.state = .pending ∧ expiredAtMs ≥ record.expiresAtMs

def expireRecord (expiredAtMs : ℤ) (record : StoredPairingSession) : StoredPairingSession :=
  if isDue expiredAtMs record = true then { record with state := .expired } else record

def expire (expiredAt : JsDate) : Operation MemoryStore JsError ℕ := do
  let expiredAtMs ← readTimestamp expiredAt "expiredAt"
  let store ← get
  set ({ store with pairings :=
    { store.pairings with
      recordsById := store.pairings.recordsById.mapValues fun _ => expireRecord expiredAtMs } } :
    MemoryStore)
  return (store.pairings.recordsById.values.countP (isDue expiredAtMs))

def pruneExpired (options : PairingRepositoryOptions) (expiredAt : JsDate) :
    Operation MemoryStore JsError ℕ := do
  let expiredAtMs ← readTimestamp expiredAt "expiredAt"
  let store ← get
  let pruned := pruneExpiredRecords options expiredAtMs store.pairings
  set ({ store with pairings := pruned.1 } : MemoryStore)
  return pruned.2

end InMemoryPairingSessionRepository
end Doctmcp.Pairing
