import Doctmcp.Completion.Repository

/-! # The SQLite completion repository

`SqlitePairingCredentialCompletionRepository` of `apps/server/src/storage`. Records and reservations
share one table; a reservation is a row whose other columns are `NULL`. Every operation, `delete`
too, reads the clock once inside its transaction and prunes first. -/

namespace Doctmcp.Completion
open Doctmcp.Lib Doctmcp.Lib.Operation Doctmcp.Schemas
set_option autoImplicit false

inductive CompletionRowState
  | reserved
  | pending
  | recovering
  | delivered
  deriving DecidableEq

/-- The columns of `pairing_credential_completions` but its primary key. -/
structure CompletionRow where
  state : CompletionRowState
  deviceId : Option String
  credentialId : Option String
  credentialVersion : Option ℕ
  recoveryTargetCredentialId : Option String
  expiresAtMs : ℤ
  deriving DecidableEq

/-- The table `pairing_credential_completions`, by `pairing_session_id`. -/
structure CompletionTable where
  rows : OrderedMap String CompletionRow

/-- The table right after the migrations. -/
def CompletionTable.migrated : CompletionTable := ⟨OrderedMap.empty⟩

def CompletionState.toRow : CompletionState → CompletionRowState
  | .pending => .pending
  | .recovering => .recovering
  | .delivered => .delivered

/-- The state of a record that a row in this state is read as. -/
def CompletionRowState.toRecord : CompletionRowState → Option CompletionState
  | .reserved => none
  | .pending => some .pending
  | .recovering => some .recovering
  | .delivered => some .delivered

namespace SqliteCompletionRepository

/-- `snapshot`: `none` is the source's `null`. -/
def snapshot (pairingSessionId : String) (row : CompletionRow) :
    Except JsError (Option CompletionRecord) :=
  match row.state.toRecord with
  | none => .ok none
  | some state =>
    match row.deviceId, row.credentialId, row.credentialVersion with
    | some deviceId, some credentialId, some credentialVersion =>
      .ok (some
        { pairingSessionId, deviceId, credentialId, credentialVersion, state,
          recoveryTargetCredentialId := row.recoveryTargetCredentialId })
    | _, _, _ => .error (.error "Pairing completion row không hợp lệ.")

def nowMs (reading : JsDate) : Except JsError ℤ :=
  orThrow reading (.error "Pairing completion clock không hợp lệ.")

/-! ## Statements -/

/-- `SELECT * FROM pairing_credential_completions WHERE pairing_session_id = ?1`. -/
def row (id : String) : Operation CompletionTable JsError (Option CompletionRow) := do
  let table ← get
  return (table.rows.get? id)

/-- `DELETE FROM pairing_credential_completions WHERE expires_at_ms <= ?1`. -/
def prune (nowMs : ℤ) : Operation CompletionTable JsError Unit := do
  let table ← get
  set (⟨table.rows.filter fun _ row => !decide (row.expiresAtMs ≤ nowMs)⟩ : CompletionTable)

/-- `SELECT COUNT(*) AS total FROM pairing_credential_completions`. -/
def count : Operation CompletionTable JsError ℕ := do
  let table ← get
  return table.rows.size

/-- The `CHECK` constraint of the table; a `NULL` comparison passes. -/
def rowCheck (row : CompletionRow) : Prop :=
  (row.state = .reserved ∧ row.deviceId = none ∧ row.credentialId = none ∧
      row.credentialVersion = none ∧ row.recoveryTargetCredentialId = none) ∨
    ((row.state = .pending ∨ row.state = .delivered) ∧ row.deviceId ≠ none ∧
      row.credentialId ≠ none ∧ (∀ version ∈ row.credentialVersion, 0 < version) ∧
      row.recoveryTargetCredentialId = none) ∨
    (row.state = .recovering ∧ row.deviceId ≠ none ∧ row.credentialId ≠ none ∧
      (∀ version ∈ row.credentialVersion, 0 < version) ∧
      row.recoveryTargetCredentialId ≠ none)

instance (row : CompletionRow) : Decidable (rowCheck row) :=
  inferInstanceAs (Decidable (_ ∨ _ ∨ _))

/-- `INSERT INTO … ON CONFLICT(pairing_session_id) DO UPDATE SET …`. -/
def upsert (id : String) (row : CompletionRow) : Operation CompletionTable JsError Unit := do
  failIf (¬ rowCheck row) (.constraint "pairing_credential_completions")
  let table ← get
  set (⟨table.rows.set id row⟩ : CompletionTable)

/-- `INSERT INTO …` of a row under a new key. -/
def insert (id : String) (row : CompletionRow) : Operation CompletionTable JsError Unit := do
  failIf (¬ rowCheck row) (.constraint "pairing_credential_completions")
  let table ← get
  failIf (table.rows.has id = true) (.constraint "pairing_credential_completions")
  set (⟨table.rows.set id row⟩ : CompletionTable)

/-- `UPDATE … SET pairing_session_id = ?1 WHERE pairing_session_id = ?2 AND state = 'reserved'`; the
number of changes. -/
def rename (toId fromId : String) : Operation CompletionTable JsError ℕ := do
  let table ← get
  match (table.rows.get? fromId).filter (·.state = .reserved) with
  | none => return 0
  | some row =>
    failIf ((table.rows.delete fromId).has toId = true)
      (.constraint "pairing_credential_completions")
    set (⟨(table.rows.delete fromId).set toId row⟩ : CompletionTable)
    return 1

variable (options : CompletionRepositoryOptions)

/-- The row of a record that is stored at `nowMs`. -/
def recordRow (record : CompletionRecord) (nowMs : ℤ) : CompletionRow where
  state := record.state.toRow
  deviceId := some record.deviceId
  credentialId := some record.credentialId
  credentialVersion := some record.credentialVersion
  recoveryTargetCredentialId := record.recoveryTargetCredentialId
  expiresAtMs := nowMs + options.retentionMs

/-- The row of a reservation. -/
def reservedRow (expiresAtMs : ℤ) : CompletionRow where
  state := .reserved
  deviceId := none
  credentialId := none
  credentialVersion := none
  recoveryTargetCredentialId := none
  expiresAtMs := expiresAtMs

/-- `#store`. -/
def store (record : CompletionRecord) (nowMs : ℤ) :
    Operation CompletionTable JsError CompletionRecord := do
  upsert record.pairingSessionId (recordRow options record nowMs)
  let found ← row record.pairingSessionId
  let found ← (orThrow found (.error "Pairing completion không thể đọc lại.") :
    Except JsError CompletionRow)
  let stored ← snapshot record.pairingSessionId found
  let stored ← (orThrow stored (.error "Pairing completion không hợp lệ.") :
    Except JsError CompletionRecord)
  return stored

/-- `#run`: one transaction, one reading of the clock. -/
def run {α : Type} (clock : JsDate) (action : ℤ → Operation CompletionTable JsError α) :
    Operation CompletionTable JsError α :=
  transaction do
    let now ← nowMs clock
    prune now
    action now

/-! ## Operations -/

def reserve (clock : JsDate) (pairingSessionId : String) :
    Operation CompletionTable JsError Bool :=
  run clock fun now => do
    let existing ← row pairingSessionId
    if existing.isSome = true then return true
    else
      let total ← count
      if options.maxRecords ≤ total then return false
      else
        insert pairingSessionId (reservedRow (now + options.retentionMs))
        return true

def transferReservation (clock : JsDate) (fromPairingSessionId toPairingSessionId : String) :
    Operation CompletionTable JsError Bool :=
  run clock fun _ => do
    let source ← row fromPairingSessionId
    let target ← row toPairingSessionId
    if source.map (·.state) ≠ some .reserved ∨ target.isSome = true then return false
    else
      let changes ← rename toPairingSessionId fromPairingSessionId
      return decide (changes = 1)

def get (clock : JsDate) (pairingSessionId : String) :
    Operation CompletionTable JsError (Option CompletionRecord) :=
  run clock fun _ => do
    let found ← row pairingSessionId
    match found with
    | none => return none
    | some row =>
      let record ← snapshot pairingSessionId row
      return record

/-- `existing.device_id === …` and its two companions. -/
def isGeneration (row : CompletionRow) (deviceId credentialId : String) (credentialVersion : ℕ) :
    Prop :=
  row.deviceId = some deviceId ∧ row.credentialId = some credentialId ∧
    row.credentialVersion = some credentialVersion

instance (row : CompletionRow) (deviceId credentialId : String) (credentialVersion : ℕ) :
    Decidable (isGeneration row deviceId credentialId credentialVersion) :=
  inferInstanceAs (Decidable (_ ∧ _ ∧ _))

def setPending (clock : JsDate) (input : CompletionGenerationInput) :
    Operation CompletionTable JsError (Option CompletionRecord) :=
  run clock fun now => do
    let found ← row input.pairingSessionId
    match found.filter (·.state ≠ .reserved) with
    | some existing =>
      if existing.state = .pending ∧
          isGeneration existing input.deviceId input.credentialId input.credentialVersion then
        let record ← snapshot input.pairingSessionId existing
        return record
      else return none
    | none =>
      let total ← count
      if found.isSome = false ∧ options.maxRecords ≤ total then return none
      else
        let stored ← store options (CompletionRepository.pendingRecord input) now
        return some stored

def beginRecovery (clock : JsDate) (input : CompletionGenerationInput)
    (recoveryTargetCredentialId : String) :
    Operation CompletionTable JsError (Option CompletionRecord) :=
  run clock fun now => do
    let existing ← row input.pairingSessionId
    if existing.map (·.state) = some .delivered then return none
    else if ∃ deviceId ∈ existing.bind (·.deviceId), deviceId ≠ input.deviceId then return none
    else
      match existing.filter (·.state = .recovering) with
      | some recovering =>
        let record ← snapshot input.pairingSessionId recovering
        return record
      | none =>
        let total ← count
        if existing.isSome = false ∧ options.maxRecords ≤ total then return none
        else
          let source := existing.filter (·.state = .pending)
          let stored ← store options (CompletionRepository.recoveringRecord input
            ((source.bind (·.credentialId)).getD input.credentialId)
            ((source.bind (·.credentialVersion)).getD input.credentialVersion)
            recoveryTargetCredentialId) now
          return some stored

/-- What `advanceRecovery` and `finishRecovery` require of the row. -/
def matchesRow (input : CompletionRepository.RecoveryStepInput) (old : CompletionRow) : Prop :=
  old.state = .recovering ∧
    isGeneration old input.deviceId input.expectedCredentialId input.expectedCredentialVersion ∧
    old.recoveryTargetCredentialId = some input.credentialId ∧
    some input.credentialVersion = old.credentialVersion.map (· + 1)

instance (input : CompletionRepository.RecoveryStepInput) (old : CompletionRow) : Decidable (matchesRow input old) :=
  inferInstanceAs (Decidable (_ ∧ _ ∧ _ ∧ _))

/-- Replace the matching recovering row by `next`. -/
def replaceRecovering (clock : JsDate) (input : CompletionRepository.RecoveryStepInput) (next : CompletionRecord) :
    Operation CompletionTable JsError (Option CompletionRecord) :=
  run clock fun now => do
    let found ← row input.pairingSessionId
    match found.filter fun old => matchesRow input old with
    | none => return none
    | some _ =>
      let stored ← store options next now
      return some stored

def advanceRecovery (clock : JsDate) (input : CompletionRepository.RecoveryStepInput)
    (recoveryTargetCredentialId : String) :
    Operation CompletionTable JsError (Option CompletionRecord) :=
  replaceRecovering options clock input
    (CompletionRepository.advancedRecord input recoveryTargetCredentialId)

def finishRecovery (clock : JsDate) (input : CompletionRepository.RecoveryStepInput) :
    Operation CompletionTable JsError (Option CompletionRecord) :=
  replaceRecovering options clock input (CompletionRepository.finishedRecord input)

/-- The record that `acknowledge` stores. -/
def deliveredRecord (pairingSessionId deviceId expectedCredentialId : String)
    (expectedCredentialVersion : ℕ) : CompletionRecord where
  pairingSessionId := pairingSessionId
  deviceId := deviceId
  credentialId := expectedCredentialId
  credentialVersion := expectedCredentialVersion
  state := .delivered
  recoveryTargetCredentialId := none

def acknowledge (clock : JsDate) (pairingSessionId deviceId expectedCredentialId : String)
    (expectedCredentialVersion : ℕ) :
    Operation CompletionTable JsError (Option CompletionRecord) :=
  run clock fun now => do
    let found ← row pairingSessionId
    match found.filter fun old =>
        isGeneration old deviceId expectedCredentialId expectedCredentialVersion with
    | none => return none
    | some old =>
      if old.state = .delivered then
        let record ← snapshot pairingSessionId old
        return record
      else if old.state ≠ .pending then return none
      else
        let stored ← store options (deliveredRecord pairingSessionId deviceId expectedCredentialId
          expectedCredentialVersion) now
        return some stored

def delete (clock : JsDate) (pairingSessionId : String) : Operation CompletionTable JsError Unit :=
  run clock fun _ => do
    let table ← MonadState.get
    set (⟨table.rows.delete pairingSessionId⟩ : CompletionTable)

end SqliteCompletionRepository
end Doctmcp.Completion
