import Mathlib.Tactic.SplitIfs
import Doctmcp.Lib.OrderedMap
import Doctmcp.Lib.Operation
import Doctmcp.Schemas.Records
import Doctmcp.Schemas.Errors

/-! # The completion repository

`InMemoryPairingCredentialCompletionRepository` of `pairing-credential-completion.ts`. A record says
which generation was delivered for a pairing session, or which generation a recovery is replacing
and by which reserved target. Records and reservations expire; every operation but `delete` prunes
first. Its readings of the clock are arguments, in the order they are taken. -/

namespace Doctmcp.Completion
open Doctmcp.Lib Doctmcp.Lib.Operation Doctmcp.Schemas
set_option autoImplicit false

/-! ## Records -/

inductive CompletionState
  | pending
  | recovering
  | delivered
  deriving DecidableEq

structure CompletionRecord where
  pairingSessionId : String
  deviceId : String
  credentialId : String
  credentialVersion : ℕ
  state : CompletionState
  recoveryTargetCredentialId : Option String
  deriving DecidableEq

structure CompletionGenerationInput where
  pairingSessionId : String
  deviceId : String
  credentialId : String
  credentialVersion : ℕ

/-- `sameGeneration`. -/
def CompletionRecord.sameGeneration (record : CompletionRecord) (credentialId : String)
    (credentialVersion : ℕ) : Prop :=
  record.credentialId = credentialId ∧ record.credentialVersion = credentialVersion

instance (record : CompletionRecord) (credentialId : String) (credentialVersion : ℕ) :
    Decidable (record.sameGeneration credentialId credentialVersion) :=
  inferInstanceAs (Decidable (_ ∧ _))

/-- `isReservedRecoveryTarget`. -/
def CompletionRecord.isReservedRecoveryTarget (record : CompletionRecord) (credentialId : String)
    (credentialVersion : ℕ) : Prop :=
  record.state = .recovering ∧ record.recoveryTargetCredentialId = some credentialId ∧
    credentialVersion = record.credentialVersion + 1

instance (record : CompletionRecord) (credentialId : String) (credentialVersion : ℕ) :
    Decidable (record.isReservedRecoveryTarget credentialId credentialVersion) :=
  inferInstanceAs (Decidable (_ ∧ _ ∧ _))

def defaultPairingCompletionMaxRecords : ℕ := 1024
def defaultPairingCompletionRetentionMs : ℕ := 5 * 60000

/-- The options the constructor accepts. -/
structure CompletionRepositoryOptions where
  maxRecords : ℕ
  retentionMs : ℕ
  maxRecords_safe : 0 < maxRecords ∧ maxRecords ≤ maxSafeInteger
  retentionMs_safe : 0 < retentionMs ∧ retentionMs ≤ maxSafeInteger

def CompletionRepositoryOptions.default : CompletionRepositoryOptions where
  maxRecords := defaultPairingCompletionMaxRecords
  retentionMs := defaultPairingCompletionRetentionMs
  maxRecords_safe := by decide
  retentionMs_safe := by decide

structure StoredCompletion where
  record : CompletionRecord
  expiresAtMs : ℤ
  deriving DecidableEq

structure CompletionRepository where
  records : OrderedMap String StoredCompletion
  reservations : OrderedMap String ℤ

/-- `new InMemoryPairingCredentialCompletionRepository(...)`. -/
def CompletionRepository.new : CompletionRepository := ⟨OrderedMap.empty, OrderedMap.empty⟩

/-- The readings one operation takes: when it prunes and when it stores. -/
structure Readings where
  prune : JsDate
  store : JsDate

/-- Both readings give the same valid time. -/
def Readings.at (nowMs : ℤ) : Readings := ⟨some nowMs, some nowMs⟩

def nowMs (reading : JsDate) : Except JsError ℤ :=
  orThrow reading (.error "Pairing completion repository clock is invalid.")

namespace CompletionRepository

/-- The body of `#pruneExpired`. -/
def pruned (now : ℤ) (repository : CompletionRepository) : CompletionRepository where
  records := repository.records.filter fun _ stored => decide (now < stored.expiresAtMs)
  reservations := repository.reservations.filter fun _ expiresAtMs => decide (now < expiresAtMs)

def pruneExpired (clock : Readings) : Operation CompletionRepository JsError Unit := do
  let now ← nowMs clock.prune
  let repository ← get
  set (repository.pruned now)

/-- The body of `#store`. -/
def stored (expiresAtMs : ℤ) (record : CompletionRecord) (repository : CompletionRepository) :
    CompletionRepository where
  records := repository.records.set record.pairingSessionId ⟨record, expiresAtMs⟩
  reservations := repository.reservations.delete record.pairingSessionId

variable (options : CompletionRepositoryOptions)

/-- `this.#store(record); return completionSnapshot(record);`. The reservation is deleted before
the clock is read. -/
def store (clock : Readings) (record : CompletionRecord) :
    Operation CompletionRepository JsError (Option CompletionRecord) := do
  let repository ← get
  set ({ repository with
    reservations := repository.reservations.delete record.pairingSessionId } :
    CompletionRepository)
  let now ← nowMs clock.store
  set (repository.stored (now + options.retentionMs) record)
  return some record

/-- `this.#records.size + this.#reservations.size >= this.#maxRecords`. -/
def isFull (repository : CompletionRepository) : Prop :=
  options.maxRecords ≤ repository.records.size + repository.reservations.size

instance (repository : CompletionRepository) : Decidable (isFull options repository) :=
  inferInstanceAs (Decidable (_ ≤ _))

/-- `this.#records.get(pairingSessionId)?.record`. -/
def recordOf (repository : CompletionRepository) (pairingSessionId : String) :
    Option CompletionRecord :=
  (repository.records.get? pairingSessionId).map (·.record)

/-! ## Operations -/

def reserve (clock : Readings) (pairingSessionId : String) :
    Operation CompletionRepository JsError Bool := do
  pruneExpired clock
  let repository ← get
  if repository.records.has pairingSessionId = true ∨
      repository.reservations.has pairingSessionId = true then
    return true
  else if isFull options repository then return false
  else
    let now ← nowMs clock.store
    set ({ repository with
      reservations := repository.reservations.set pairingSessionId (now + options.retentionMs) } :
      CompletionRepository)
    return true

def transferReservation (clock : Readings) (fromPairingSessionId toPairingSessionId : String) :
    Operation CompletionRepository JsError Bool := do
  pruneExpired clock
  let repository ← get
  match repository.reservations.get? fromPairingSessionId with
  | none => return false
  | some expiresAtMs =>
    if repository.records.has toPairingSessionId = true ∨
        repository.reservations.has toPairingSessionId = true then
      return false
    else
      set ({ repository with
        reservations := (repository.reservations.delete fromPairingSessionId).set
          toPairingSessionId expiresAtMs } : CompletionRepository)
      return true

def get (clock : Readings) (pairingSessionId : String) :
    Operation CompletionRepository JsError (Option CompletionRecord) := do
  pruneExpired clock
  let repository ← MonadState.get
  return repository.recordOf pairingSessionId

/-- The record that a first completion stores. -/
def pendingRecord (input : CompletionGenerationInput) : CompletionRecord where
  pairingSessionId := input.pairingSessionId
  deviceId := input.deviceId
  credentialId := input.credentialId
  credentialVersion := input.credentialVersion
  state := .pending
  recoveryTargetCredentialId := none

def setPending (clock : Readings) (input : CompletionGenerationInput) :
    Operation CompletionRepository JsError (Option CompletionRecord) := do
  pruneExpired clock
  let repository ← MonadState.get
  match repository.recordOf input.pairingSessionId with
  | some existing =>
    if existing.state = .pending ∧ existing.deviceId = input.deviceId ∧
        existing.sameGeneration input.credentialId input.credentialVersion then
      return some existing
    else return none
  | none =>
    if repository.reservations.has input.pairingSessionId = false ∧ isFull options repository then
      return none
    else
      store options clock (pendingRecord input)

/-- The record that a recovery starts with. -/
def recoveringRecord (input : CompletionGenerationInput) (credentialId : String)
    (credentialVersion : ℕ) (recoveryTargetCredentialId : String) : CompletionRecord where
  pairingSessionId := input.pairingSessionId
  deviceId := input.deviceId
  credentialId := credentialId
  credentialVersion := credentialVersion
  state := .recovering
  recoveryTargetCredentialId := some recoveryTargetCredentialId

def beginRecovery (clock : Readings) (input : CompletionGenerationInput)
    (recoveryTargetCredentialId : String) :
    Operation CompletionRepository JsError (Option CompletionRecord) := do
  pruneExpired clock
  let repository ← MonadState.get
  match repository.recordOf input.pairingSessionId with
  | some existing =>
    if existing.state = .delivered then return none
    else if existing.deviceId ≠ input.deviceId then return none
    else if existing.state = .recovering then return some existing
    else
      store options clock (recoveringRecord input existing.credentialId existing.credentialVersion
        recoveryTargetCredentialId)
  | none =>
    if repository.reservations.has input.pairingSessionId = false ∧ isFull options repository then
      return none
    else
      store options clock (recoveringRecord input input.credentialId input.credentialVersion
        recoveryTargetCredentialId)

/-- `advanceRecovery` and `finishRecovery` check the recorded source and its reserved target. -/
structure RecoveryStepInput where
  pairingSessionId : String
  deviceId : String
  expectedCredentialId : String
  expectedCredentialVersion : ℕ
  credentialId : String
  credentialVersion : ℕ

def RecoveryStepInput.matches (input : RecoveryStepInput) (existing : CompletionRecord) : Prop :=
  existing.state = .recovering ∧ existing.deviceId = input.deviceId ∧
    existing.sameGeneration input.expectedCredentialId input.expectedCredentialVersion ∧
    existing.isReservedRecoveryTarget input.credentialId input.credentialVersion

instance (input : RecoveryStepInput) (existing : CompletionRecord) :
    Decidable (input.matches existing) :=
  inferInstanceAs (Decidable (_ ∧ _ ∧ _ ∧ _))

/-- Replace the matching recovering record by `next`. -/
def replaceRecovering (clock : Readings) (input : RecoveryStepInput) (next : CompletionRecord) :
    Operation CompletionRepository JsError (Option CompletionRecord) := do
  pruneExpired clock
  let repository ← MonadState.get
  match repository.recordOf input.pairingSessionId with
  | none => return none
  | some existing =>
    if input.matches existing then store options clock next else return none

/-- The record that `advanceRecovery` stores. -/
def advancedRecord (input : RecoveryStepInput) (recoveryTargetCredentialId : String) :
    CompletionRecord where
  pairingSessionId := input.pairingSessionId
  deviceId := input.deviceId
  credentialId := input.credentialId
  credentialVersion := input.credentialVersion
  state := .recovering
  recoveryTargetCredentialId := some recoveryTargetCredentialId

def advanceRecovery (clock : Readings) (input : RecoveryStepInput)
    (recoveryTargetCredentialId : String) :
    Operation CompletionRepository JsError (Option CompletionRecord) :=
  replaceRecovering options clock input (advancedRecord input recoveryTargetCredentialId)

/-- The record that `finishRecovery` stores. -/
def finishedRecord (input : RecoveryStepInput) : CompletionRecord where
  pairingSessionId := input.pairingSessionId
  deviceId := input.deviceId
  credentialId := input.credentialId
  credentialVersion := input.credentialVersion
  state := .pending
  recoveryTargetCredentialId := none

def finishRecovery (clock : Readings) (input : RecoveryStepInput) :
    Operation CompletionRepository JsError (Option CompletionRecord) :=
  replaceRecovering options clock input (finishedRecord input)

def acknowledge (clock : Readings) (pairingSessionId deviceId expectedCredentialId : String)
    (expectedCredentialVersion : ℕ) :
    Operation CompletionRepository JsError (Option CompletionRecord) := do
  pruneExpired clock
  let repository ← MonadState.get
  match repository.recordOf pairingSessionId with
  | none => return none
  | some existing =>
    if existing.deviceId = deviceId ∧
        existing.sameGeneration expectedCredentialId expectedCredentialVersion then
      if existing.state = .delivered then return some existing
      else if existing.state = .pending then
        store options clock { existing with state := .delivered }
      else return none
    else return none

def delete (pairingSessionId : String) : Operation CompletionRepository JsError Unit := do
  let repository ← MonadState.get
  set ({ records := repository.records.delete pairingSessionId,
         reservations := repository.reservations.delete pairingSessionId } :
    CompletionRepository)

/-! ## What an operation reads and leaves -/

/-- The record of a session that has not expired at `now`. -/
def live (now : ℤ) (repository : CompletionRepository) (id : String) : Option CompletionRecord :=
  ((repository.records.get? id).filter fun stored => decide (now < stored.expiresAtMs)).map
    (·.record)

/-- The session has a reservation that has not expired at `now`. -/
def reserved (now : ℤ) (repository : CompletionRepository) (id : String) : Bool :=
  ((repository.reservations.get? id).filter fun expiresAtMs => decide (now < expiresAtMs)).isSome

theorem recordOf_pruned (now : ℤ) (repository : CompletionRepository) (id : String) :
    (repository.pruned now).recordOf id = live now repository id := by
  rw [recordOf, pruned, OrderedMap.get?_filter, live]

theorem live_pruned {now later : ℤ} (h : now ≤ later) (repository : CompletionRepository)
    (id : String) : live later (repository.pruned now) id = live later repository id := by
  rw [live, pruned, OrderedMap.get?_filter, live]
  cases repository.records.get? id with
  | none => rfl
  | some s =>
    by_cases hs : later < s.expiresAtMs
    · have : now < s.expiresAtMs := by omega
      simp [Option.filter, hs, this]
    · by_cases hn : now < s.expiresAtMs <;> simp [Option.filter, hs, hn]

theorem live_stored (now expiresAtMs : ℤ) (record : CompletionRecord)
    (repository : CompletionRepository) (id : String) :
    live now (repository.stored expiresAtMs record) id =
      if id = record.pairingSessionId then
        if now < expiresAtMs then some record else none
      else live now repository id := by
  rw [live, stored, OrderedMap.get?_set]
  by_cases hid : id = record.pairingSessionId
  · by_cases hnow : now < expiresAtMs <;> simp [hid, hnow, Option.filter]
  · rw [if_neg hid, if_neg hid]
    rfl

theorem exec_pruneExpired_bind {β : Type} (now : ℤ)
    (f : Unit → Operation CompletionRepository JsError β) (s : CompletionRepository) :
    exec (pruneExpired (.at now) >>= f) s = exec (f ()) (s.pruned now) := by
  rw [exec_bind]
  rfl

theorem exec_store (now : ℤ) (record : CompletionRecord) (s : CompletionRepository) :
    exec (store options (.at now) record) s =
      (.ok (some record), s.stored (now + options.retentionMs) record) := rfl

theorem exec_get (now : ℤ) (id : String) (s : CompletionRepository) :
    exec (get (.at now) id) s = (.ok (live now s id), s.pruned now) := by
  rw [← recordOf_pruned]
  rfl

theorem exec_reserve (now : ℤ) (id : String) (s : CompletionRepository) :
    exec (reserve options (.at now) id) s =
      if (s.pruned now).records.has id = true ∨ (s.pruned now).reservations.has id = true then
        (.ok true, s.pruned now)
      else if isFull options (s.pruned now) then (.ok false, s.pruned now)
      else (.ok true, { s.pruned now with
        reservations := (s.pruned now).reservations.set id (now + options.retentionMs) }) := by
  unfold reserve
  rw [exec_pruneExpired_bind, exec_get_bind]
  split_ifs <;> rfl

theorem exec_setPending (now : ℤ) (input : CompletionGenerationInput) (s : CompletionRepository) :
    exec (setPending options (.at now) input) s =
      match live now s input.pairingSessionId with
      | some existing =>
        if existing.state = .pending ∧ existing.deviceId = input.deviceId ∧
            existing.sameGeneration input.credentialId input.credentialVersion then
          (.ok (some existing), s.pruned now)
        else (.ok none, s.pruned now)
      | none =>
        if (s.pruned now).reservations.has input.pairingSessionId = false ∧
            isFull options (s.pruned now) then (.ok none, s.pruned now)
        else (.ok (some (pendingRecord input)),
          (s.pruned now).stored (now + options.retentionMs) (pendingRecord input)) := by
  unfold setPending
  rw [exec_pruneExpired_bind, exec_get_bind, recordOf_pruned]
  cases live now s input.pairingSessionId <;> dsimp only <;> split_ifs <;> rfl

theorem exec_beginRecovery (now : ℤ) (input : CompletionGenerationInput) (target : String)
    (s : CompletionRepository) :
    exec (beginRecovery options (.at now) input target) s =
      match live now s input.pairingSessionId with
      | some existing =>
        if existing.state = .delivered ∨ existing.deviceId ≠ input.deviceId then
          (.ok none, s.pruned now)
        else if existing.state = .recovering then (.ok (some existing), s.pruned now)
        else
          let record := recoveringRecord input existing.credentialId existing.credentialVersion
            target
          (.ok (some record), (s.pruned now).stored (now + options.retentionMs) record)
      | none =>
        if (s.pruned now).reservations.has input.pairingSessionId = false ∧
            isFull options (s.pruned now) then (.ok none, s.pruned now)
        else
          let record := recoveringRecord input input.credentialId input.credentialVersion target
          (.ok (some record), (s.pruned now).stored (now + options.retentionMs) record) := by
  unfold beginRecovery
  rw [exec_pruneExpired_bind, exec_get_bind, recordOf_pruned]
  cases live now s input.pairingSessionId with
  | none => dsimp only; split_ifs <;> rfl
  | some existing =>
    dsimp only
    by_cases hdelivered : existing.state = .delivered
    · simp [hdelivered]
    · by_cases hdevice : existing.deviceId = input.deviceId
      · by_cases hrecovering : existing.state = .recovering
        · simp [hdevice, hrecovering]
        · simp [hdelivered, hdevice, hrecovering, exec_store]
      · simp [hdelivered, hdevice]

theorem exec_replaceRecovering (now : ℤ) (input : RecoveryStepInput) (next : CompletionRecord)
    (s : CompletionRepository) :
    exec (replaceRecovering options (.at now) input next) s =
      match live now s input.pairingSessionId with
      | none => (.ok none, s.pruned now)
      | some existing =>
        if input.matches existing then
          (.ok (some next), (s.pruned now).stored (now + options.retentionMs) next)
        else (.ok none, s.pruned now) := by
  unfold replaceRecovering
  rw [exec_pruneExpired_bind, exec_get_bind, recordOf_pruned]
  cases live now s input.pairingSessionId with
  | none => rfl
  | some existing => dsimp only; split_ifs <;> rfl

theorem exec_acknowledge (now : ℤ) (id deviceId credentialId : String) (version : ℕ)
    (s : CompletionRepository) :
    exec (acknowledge options (.at now) id deviceId credentialId version) s =
      match live now s id with
      | none => (.ok none, s.pruned now)
      | some existing =>
        if existing.deviceId = deviceId ∧ existing.sameGeneration credentialId version then
          if existing.state = .delivered then (.ok (some existing), s.pruned now)
          else if existing.state = .pending then
            (.ok (some { existing with state := .delivered }),
              (s.pruned now).stored (now + options.retentionMs)
                { existing with state := .delivered })
          else (.ok none, s.pruned now)
        else (.ok none, s.pruned now) := by
  unfold acknowledge
  rw [exec_pruneExpired_bind, exec_get_bind, recordOf_pruned]
  cases live now s id with
  | none => rfl
  | some existing => dsimp only; split_ifs <;> rfl

theorem live_delete (later : ℤ) (id j : String) (s : CompletionRepository) :
    live later (exec (delete id) s).2 j = if j = id then none else live later s j := by
  change live later ⟨s.records.delete id, s.reservations.delete id⟩ j = _
  rw [live, OrderedMap.get?_delete]
  by_cases hj : j = id
  · rw [if_pos hj, if_pos hj]
    rfl
  · rw [if_neg hj, if_neg hj]
    rfl

/-! ## The two effects on the records -/

/-- Whatever is unexpired from `now` on stays as it was. -/
def Kept (now : ℤ) (s s' : CompletionRepository) : Prop :=
  ∀ later, now ≤ later → ∀ id, live later s' id = live later s id

/-- `record` is stored under its session until its retention is over; the rest stays. -/
def Stored (now : ℤ) (record : CompletionRecord) (s s' : CompletionRepository) : Prop :=
  ∀ later, now ≤ later → ∀ id, live later s' id =
    if id = record.pairingSessionId then
      if later < now + options.retentionMs then some record else none
    else live later s id

theorem kept_pruned (now : ℤ) (s : CompletionRepository) : Kept now s (s.pruned now) :=
  fun _ h => live_pruned h s

theorem Kept.reservations {now : ℤ} {s s' : CompletionRepository} (h : Kept now s s')
    (reservations : OrderedMap String ℤ) : Kept now s { s' with reservations := reservations } :=
  h

theorem stored_pruned (now : ℤ) (record : CompletionRecord) (s : CompletionRepository) :
    Stored options now record s ((s.pruned now).stored (now + options.retentionMs) record) := by
  intro later h id
  rw [live_stored, live_pruned h]

theorem Stored.live_self {now : ℤ} {record : CompletionRecord} {s s' : CompletionRepository}
    (h : Stored options now record s s') :
    live now s' record.pairingSessionId = some record := by
  have := options.retentionMs_safe.1
  rw [h now (Int.le_refl now), if_pos rfl, if_pos (by omega)]

/-- A record that is unexpired later is unexpired before. -/
theorem live_mono {now later : ℤ} (h : now ≤ later) {s : CompletionRepository} {id : String}
    {record : CompletionRecord} (hlive : live later s id = some record) :
    live now s id = some record := by
  rw [live, Option.map_eq_some_iff] at hlive ⊢
  obtain ⟨stored, hstored, rfl⟩ := hlive
  obtain ⟨hget, hlater⟩ := Option.filter_eq_some_iff.mp hstored
  have hlater := of_decide_eq_true hlater
  exact ⟨stored, Option.filter_eq_some_iff.mpr ⟨hget, decide_eq_true (by omega)⟩, rfl⟩

end CompletionRepository
end Doctmcp.Completion
