import Doctmcp.Completion.Sqlite

/-! # The operations of the completion repositories, side by side

The table holds the records and the reservations of the in-memory repository that have not expired
at the last operation (`Fresh`). On repositories that are pruned at the same time each operation of
one adapter has the result of the other's and leaves repositories that agree; the in-memory
`delete` leaves expired entries until the next operation prunes them. -/

namespace Doctmcp.Completion
open Doctmcp.Lib Doctmcp.Lib.Operation Doctmcp.Schemas
set_option autoImplicit false

/-- The invariant of a stored record: the `CHECK` of its row. -/
structure CompletionRecord.Valid (record : CompletionRecord) : Prop where
  version : 0 < record.credentialVersion
  target : record.state = .recovering ↔ record.recoveryTargetCredentialId ≠ none

/-- The row of a stored record. -/
def storedRow (record : CompletionRecord) (expiresAtMs : ℤ) : CompletionRow where
  state := record.state.toRow
  deviceId := some record.deviceId
  credentialId := some record.credentialId
  credentialVersion := some record.credentialVersion
  recoveryTargetCredentialId := record.recoveryTargetCredentialId
  expiresAtMs := expiresAtMs

/-- The row that stands for what the in-memory repository keeps under `id`. -/
def rowOf (repository : CompletionRepository) (id : String) : Option CompletionRow :=
  match repository.records.get? id with
  | some stored => some (storedRow stored.record stored.expiresAtMs)
  | none => (repository.reservations.get? id).map SqliteCompletionRepository.reservedRow

/-- The table holds exactly what the repository holds. -/
structure Same (repository : CompletionRepository) (table : CompletionTable) : Prop where
  rows : ∀ id, table.rows.get? id = rowOf repository id
  disjoint : ∀ id stored, repository.records.get? id = some stored →
    repository.reservations.get? id = none
  valid : ∀ id stored, repository.records.get? id = some stored →
    stored.record.pairingSessionId = id ∧ stored.record.Valid

/-- Nothing in the repository has expired at `now`. -/
structure Unexpired (now : ℤ) (repository : CompletionRepository) : Prop where
  records : ∀ id stored, repository.records.get? id = some stored → now < stored.expiresAtMs
  reservations : ∀ id expiresAtMs, repository.reservations.get? id = some expiresAtMs →
    now < expiresAtMs

/-- The repositories after an operation that pruned both at `now`. -/
def Fresh (now : ℤ) (repository : CompletionRepository) (table : CompletionTable) : Prop :=
  Same repository table ∧ Unexpired now repository

variable {now : ℤ} {repository : CompletionRepository} {table : CompletionTable}

/-! ## Reading -/

theorem Same.row_record (h : Same repository table) {id : String} {stored : StoredCompletion}
    (hstored : repository.records.get? id = some stored) :
    table.rows.get? id = some (storedRow stored.record stored.expiresAtMs) := by
  rw [h.rows, rowOf, hstored]

theorem Same.row_other (h : Same repository table) {id : String}
    (hnone : repository.records.get? id = none) :
    table.rows.get? id =
      (repository.reservations.get? id).map SqliteCompletionRepository.reservedRow := by
  rw [h.rows, rowOf, hnone]

theorem Same.has_iff (h : Same repository table) (id : String) :
    table.rows.has id = true ↔
      repository.records.has id = true ∨ repository.reservations.has id = true := by
  unfold OrderedMap.has
  cases hstored : repository.records.get? id with
  | some stored => simp [h.row_record hstored]
  | none => simp [h.row_other hstored]

theorem Same.size (h : Same repository table) :
    table.rows.size = repository.records.size + repository.reservations.size := by
  refine OrderedMap.size_add_size _ _ _ (fun id hid => ?_) h.has_iff
  obtain ⟨stored, hstored⟩ := (OrderedMap.has_iff _ _).mp hid
  exact (OrderedMap.has_false_iff _ _).mpr (h.disjoint id stored hstored)

theorem snapshot_storedRow (record : CompletionRecord) (expiresAtMs : ℤ) :
    SqliteCompletionRepository.snapshot record.pairingSessionId (storedRow record expiresAtMs) =
      .ok (some record) := by
  unfold SqliteCompletionRepository.snapshot storedRow
  cases record with
  | mk id deviceId credentialId version state target => cases state <;> rfl

/-- The record that `get` shows for the row under `id`. -/
def visible (table : CompletionTable) (id : String) : Option CompletionRecord :=
  (table.rows.get? id).bind fun row =>
    ((SqliteCompletionRepository.snapshot id row).toOption).join

theorem Same.visible (h : Same repository table) (id : String) :
    visible table id = repository.recordOf id := by
  unfold Completion.visible CompletionRepository.recordOf
  cases hstored : repository.records.get? id with
  | some stored =>
    obtain ⟨rfl, -⟩ := h.valid id stored hstored
    rw [h.row_record hstored, Option.bind_some, snapshot_storedRow]
    rfl
  | none =>
    rw [h.row_other hstored]
    cases repository.reservations.get? id <;> rfl

/-! ## Pruning -/

/-- The table after `#prune`. -/
def CompletionTable.pruned (now : ℤ) (table : CompletionTable) : CompletionTable :=
  ⟨table.rows.filter fun _ row => !decide (row.expiresAtMs ≤ now)⟩

theorem unexpired_pruned (now : ℤ) (repository : CompletionRepository) :
    Unexpired now (repository.pruned now) where
  records id stored hstored := by
    rw [CompletionRepository.pruned, OrderedMap.get?_filter] at hstored
    exact of_decide_eq_true (Option.filter_eq_some_iff.mp hstored).2
  reservations id expiresAtMs hreserved := by
    rw [CompletionRepository.pruned, OrderedMap.get?_filter] at hreserved
    exact of_decide_eq_true (Option.filter_eq_some_iff.mp hreserved).2

theorem Unexpired.pruned (h : Unexpired now repository) : repository.pruned now = repository := by
  unfold CompletionRepository.pruned
  rw [OrderedMap.filter_eq_self, OrderedMap.filter_eq_self]
  · intro id expiresAtMs hreserved
    exact decide_eq_true (h.reservations id expiresAtMs hreserved)
  · intro id stored hstored
    exact decide_eq_true (h.records id stored hstored)

theorem pruned_pruned {earlier later : ℤ} (h : earlier ≤ later)
    (repository : CompletionRepository) :
    (repository.pruned earlier).pruned later = repository.pruned later := by
  unfold CompletionRepository.pruned
  dsimp only
  rw [OrderedMap.filter_filter, OrderedMap.filter_filter]
  have hlater : ∀ expiresAtMs : ℤ, (decide (later < expiresAtMs) && decide (earlier < expiresAtMs)) =
      decide (later < expiresAtMs) := by
    intro expiresAtMs
    by_cases hle : later < expiresAtMs
    · have : earlier < expiresAtMs := by omega
      simp [hle, this]
    · simp [hle]
  simp only [hlater]

theorem Same.prune (h : Same repository table) (now : ℤ) :
    Fresh now (repository.pruned now) (table.pruned now) := by
  have hrecord : ∀ id stored, (repository.pruned now).records.get? id = some stored →
      repository.records.get? id = some stored := by
    intro id stored hstored
    rw [CompletionRepository.pruned, OrderedMap.get?_filter] at hstored
    exact (Option.filter_eq_some_iff.mp hstored).1
  refine ⟨⟨fun id => ?_, fun id stored hstored => ?_, fun id stored hstored => ?_⟩,
    unexpired_pruned now repository⟩
  · unfold CompletionTable.pruned rowOf CompletionRepository.pruned
    dsimp only
    rw [OrderedMap.get?_filter, OrderedMap.get?_filter, OrderedMap.get?_filter]
    cases hstored : repository.records.get? id with
    | some stored =>
      rw [h.row_record hstored]
      have hnone := h.disjoint id stored hstored
      by_cases hlive : now < stored.expiresAtMs
      · have hnot : ¬ stored.expiresAtMs ≤ now := by omega
        simp [Option.filter, storedRow, hlive, hnot]
      · have hle : stored.expiresAtMs ≤ now := by omega
        simp [Option.filter, storedRow, hlive, hle, hnone]
    | none =>
      rw [h.row_other hstored]
      cases hreserved : repository.reservations.get? id with
      | none => rfl
      | some expiresAtMs =>
        by_cases hlive : now < expiresAtMs
        · have hnot : ¬ expiresAtMs ≤ now := by omega
          simp [Option.filter, SqliteCompletionRepository.reservedRow, hlive, hnot]
        · have hle : expiresAtMs ≤ now := by omega
          simp [Option.filter, SqliteCompletionRepository.reservedRow, hlive, hle]
  · have hnone := h.disjoint id stored (hrecord id stored hstored)
    rw [CompletionRepository.pruned, OrderedMap.get?_filter, hnone]
    rfl
  · exact h.valid id stored (hrecord id stored hstored)

/-! ## Writing -/

theorem Fresh.store (h : Fresh now repository table) {record : CompletionRecord}
    (hvalid : record.Valid) {expiresAtMs : ℤ} (hlive : now < expiresAtMs) :
    Fresh now (repository.stored expiresAtMs record)
      ⟨table.rows.set record.pairingSessionId (storedRow record expiresAtMs)⟩ := by
  obtain ⟨hsame, hunexpired⟩ := h
  refine ⟨⟨fun id => ?_, fun id stored hstored => ?_, fun id stored hstored => ?_⟩,
    fun id stored hstored => ?_, fun id t hreserved => ?_⟩
  · unfold rowOf CompletionRepository.stored
    dsimp only
    rw [OrderedMap.get?_set, OrderedMap.get?_set, OrderedMap.get?_delete]
    by_cases hid : id = record.pairingSessionId
    · rw [if_pos hid, if_pos hid]
    · rw [if_neg hid, if_neg hid, if_neg hid]
      exact hsame.rows id
  all_goals
    first
      | rw [CompletionRepository.stored, OrderedMap.get?_set] at hstored
      | rw [CompletionRepository.stored, OrderedMap.get?_delete] at hreserved
  · unfold CompletionRepository.stored
    dsimp only
    rw [OrderedMap.get?_delete]
    split_ifs at hstored ⊢ with hid
    · rfl
    · exact hsame.disjoint id stored hstored
  · split_ifs at hstored with hid
    · obtain rfl := Option.some.inj hstored
      exact ⟨hid.symm, hvalid⟩
    · exact hsame.valid id stored hstored
  · split_ifs at hstored with hid
    · obtain rfl := Option.some.inj hstored
      exact hlive
    · exact hunexpired.records id stored hstored
  · split_ifs at hreserved with hid
    exact hunexpired.reservations id t hreserved

theorem Fresh.reserve (h : Fresh now repository table) {id : String}
    (hrecord : repository.records.get? id = none) {expiresAtMs : ℤ} (hlive : now < expiresAtMs) :
    Fresh now { repository with reservations := repository.reservations.set id expiresAtMs }
      ⟨table.rows.set id (SqliteCompletionRepository.reservedRow expiresAtMs)⟩ := by
  obtain ⟨hsame, hunexpired⟩ := h
  refine ⟨⟨fun j => ?_, fun j stored hstored => ?_, fun j stored hstored =>
    hsame.valid j stored hstored⟩, fun j stored hstored => hunexpired.records j stored hstored,
    fun j t hreserved => ?_⟩
  · unfold rowOf
    dsimp only
    rw [OrderedMap.get?_set, OrderedMap.get?_set]
    by_cases hid : j = id
    · subst hid
      rw [if_pos rfl, if_pos rfl, hrecord]
      rfl
    · rw [if_neg hid, if_neg hid]
      exact hsame.rows j
  · have hne : j ≠ id := by
      rintro rfl
      rw [hrecord] at hstored
      cases hstored
    dsimp only
    rw [OrderedMap.get?_set_ne _ _ hne]
    exact hsame.disjoint j stored hstored
  · rw [OrderedMap.get?_set] at hreserved
    split_ifs at hreserved with hid
    · obtain rfl := Option.some.inj hreserved
      exact hlive
    · exact hunexpired.reservations j t hreserved

theorem Same.reserved (h : Same repository table) {id : String} {expiresAtMs : ℤ}
    (hkept : repository.reservations.get? id = some expiresAtMs) :
    repository.records.get? id = none ∧
      table.rows.get? id = some (SqliteCompletionRepository.reservedRow expiresAtMs) := by
  have hnone : repository.records.get? id = none := by
    cases hstored : repository.records.get? id with
    | none => rfl
    | some stored =>
      rw [h.disjoint id stored hstored] at hkept
      cases hkept
  refine ⟨hnone, ?_⟩
  rw [h.row_other hnone, hkept]
  rfl

theorem Same.delete (h : Same repository table) (id : String) :
    Same { records := repository.records.delete id,
           reservations := repository.reservations.delete id } ⟨table.rows.delete id⟩ := by
  refine ⟨fun j => ?_, fun j stored hstored => ?_, fun j stored hstored => ?_⟩
  · unfold rowOf
    dsimp only
    rw [OrderedMap.get?_delete, OrderedMap.get?_delete, OrderedMap.get?_delete]
    by_cases hj : j = id
    · rw [if_pos hj, if_pos hj, if_pos hj]
      rfl
    · rw [if_neg hj, if_neg hj, if_neg hj]
      exact h.rows j
  all_goals
    rw [OrderedMap.get?_delete] at hstored
    split_ifs at hstored with hj
  · dsimp only
    rw [OrderedMap.get?_delete, if_neg hj]
    exact h.disjoint j stored hstored
  · exact h.valid j stored hstored

theorem Fresh.deleteReservation (h : Fresh now repository table) {id : String}
    (hrecord : repository.records.get? id = none) :
    Fresh now { repository with reservations := repository.reservations.delete id }
      ⟨table.rows.delete id⟩ := by
  have hsame := h.1.delete id
  rw [OrderedMap.delete_eq_self _ hrecord] at hsame
  refine ⟨hsame, h.2.records, fun j expiresAtMs hkept => ?_⟩
  rw [OrderedMap.get?_delete] at hkept
  split_ifs at hkept with hj
  exact h.2.reservations j expiresAtMs hkept

/-! ## The three kinds of key -/

/-- What the two repositories hold under one session id. -/
inductive Entry (repository : CompletionRepository) (table : CompletionTable) (id : String) : Prop
  | record (record : CompletionRecord) (expiresAtMs : ℤ)
      (stored : repository.recordOf id = some record) (session : record.pairingSessionId = id)
      (valid : record.Valid) (free : repository.reservations.has id = false)
      (row : table.rows.get? id = some (storedRow record expiresAtMs))
  | reserved (expiresAtMs : ℤ) (unstored : repository.recordOf id = none)
      (kept : repository.reservations.get? id = some expiresAtMs)
      (row : table.rows.get? id = some (SqliteCompletionRepository.reservedRow expiresAtMs))
  | absent (unstored : repository.recordOf id = none)
      (free : repository.reservations.has id = false) (row : table.rows.get? id = none)

theorem Same.entry (h : Same repository table) (id : String) : Entry repository table id := by
  cases hstored : repository.records.get? id with
  | some stored =>
    obtain ⟨hsession, hvalid⟩ := h.valid id stored hstored
    refine .record stored.record stored.expiresAtMs ?_ hsession hvalid ?_ (h.row_record hstored)
    · rw [CompletionRepository.recordOf, hstored]
      rfl
    · exact (OrderedMap.has_false_iff _ _).mpr (h.disjoint id stored hstored)
  | none =>
    have hunstored : repository.recordOf id = none := by
      rw [CompletionRepository.recordOf, hstored]
      rfl
    have hrow := h.row_other hstored
    cases hkept : repository.reservations.get? id with
    | some expiresAtMs =>
      rw [hkept] at hrow
      exact .reserved expiresAtMs hunstored hkept hrow
    | none =>
      rw [hkept] at hrow
      exact .absent hunstored ((OrderedMap.has_false_iff _ _).mpr hkept) hrow

theorem toRow_ne_reserved (state : CompletionState) : state.toRow ≠ .reserved := by
  cases state <;> exact nofun

theorem toRow_eq_iff (state other : CompletionState) : state.toRow = other.toRow ↔ state = other := by
  cases state <;> cases other <;> simp [CompletionState.toRow]

/-! ## The statements -/

namespace SqliteCompletionRepository
variable {α β : Type} (options : CompletionRepositoryOptions)

/-- An operation whose action returns is that action on the pruned table. -/
theorem exec_run {action : ℤ → Operation CompletionTable JsError α} {a : α}
    {stored : CompletionTable} (h : exec (action now) (table.pruned now) = (.ok a, stored)) :
    exec (run (some now) action) table = (.ok a, stored) := by
  have hbody : exec (do
      let t ← SqliteCompletionRepository.nowMs (some now)
      prune t
      action t : Operation CompletionTable JsError α) table =
        exec (action now) (table.pruned now) := by
    rw [SqliteCompletionRepository.nowMs, orThrow_some, exec_lift_bind_eq rfl, exec_bind]
    rfl
  unfold run
  rw [exec_transaction, hbody, h]

theorem alike_run {action : ℤ → Operation CompletionTable JsError α} {a : α}
    {repository' : CompletionRepository} {stored : CompletionTable}
    (hbody : exec (action now) (table.pruned now) = (.ok a, stored))
    (hfresh : Fresh now repository' stored) :
    SameOutcome (Fresh now) (.ok a, repository') (exec (run (some now) action) table) := by
  rw [exec_run hbody]
  exact SameOutcome.same hfresh (.ok a)

theorem exec_row_bind (id : String)
    (f : Option CompletionRow → Operation CompletionTable JsError β) (table : CompletionTable) :
    exec (row id >>= f) table = exec (f (table.rows.get? id)) table := by
  rw [exec_bind]
  rfl

theorem exec_count_bind (f : ℕ → Operation CompletionTable JsError β) (table : CompletionTable) :
    exec (count >>= f) table = exec (f table.rows.size) table := by
  rw [exec_bind]
  rfl

theorem rowCheck_stored {record : CompletionRecord} (h : record.Valid) (expiresAtMs : ℤ) :
    rowCheck (storedRow record expiresAtMs) := by
  have hversion : ∀ version ∈ (storedRow record expiresAtMs).credentialVersion, 0 < version := by
    intro version hmem
    obtain rfl := Option.some.inj hmem
    exact h.version
  have hdevice : (storedRow record expiresAtMs).deviceId ≠ none := Option.some_ne_none _
  have hcredential : (storedRow record expiresAtMs).credentialId ≠ none := Option.some_ne_none _
  have hnone : record.state ≠ .recovering → record.recoveryTargetCredentialId = none := by
    intro hstate
    by_contra htarget
    exact hstate (h.target.mpr htarget)
  cases hstate : record.state with
  | pending =>
    refine .inr (.inl ⟨.inl ?_, hdevice, hcredential, hversion, hnone (by simp [hstate])⟩)
    simp [storedRow, CompletionState.toRow, hstate]
  | delivered =>
    refine .inr (.inl ⟨.inr ?_, hdevice, hcredential, hversion, hnone (by simp [hstate])⟩)
    simp [storedRow, CompletionState.toRow, hstate]
  | recovering =>
    refine .inr (.inr ⟨?_, hdevice, hcredential, hversion, h.target.mp hstate⟩)
    simp [storedRow, CompletionState.toRow, hstate]

theorem exec_store {record : CompletionRecord} (hvalid : record.Valid) (now : ℤ)
    (table : CompletionTable) :
    exec (store options record now) table =
      (.ok record, ⟨table.rows.set record.pairingSessionId
        (storedRow record (now + options.retentionMs))⟩) := by
  have hcheck : rowCheck (recordRow options record now) :=
    rowCheck_stored hvalid (now + options.retentionMs)
  have hupsert : exec (upsert record.pairingSessionId (recordRow options record now)) table =
      (.ok ⟨⟩, ⟨table.rows.set record.pairingSessionId
        (storedRow record (now + options.retentionMs))⟩) := by
    unfold upsert
    rw [exec_bind, exec_failIf, if_neg (not_not.mpr hcheck)]
    rfl
  unfold store
  rw [exec_bind, hupsert]
  dsimp only
  rw [exec_row_bind, OrderedMap.get?_set_self, orThrow_some, exec_lift_bind_eq rfl,
    exec_lift_bind_eq (snapshot_storedRow _ _), orThrow_some, exec_lift]

theorem exec_store_map {record : CompletionRecord} (hvalid : record.Valid) (now : ℤ)
    (table : CompletionTable) :
    exec (do
      let stored ← store options record now
      return some stored) table =
      (.ok (some record), ⟨table.rows.set record.pairingSessionId
        (storedRow record (now + options.retentionMs))⟩) := by
  rw [exec_bind, exec_store options hvalid]
  rfl

theorem exec_insert_reserved {id : String} (hnone : ¬ (table.rows.get? id).isSome = true)
    (expiresAtMs : ℤ) : exec (insert id (reservedRow expiresAtMs)) table =
      (.ok ⟨⟩, ⟨table.rows.set id (reservedRow expiresAtMs)⟩) := by
  have hcheck : rowCheck (reservedRow expiresAtMs) := .inl ⟨rfl, rfl, rfl, rfl, rfl⟩
  have hfree : ¬ table.rows.has id = true := hnone
  unfold insert
  rw [exec_bind, exec_failIf, if_neg (not_not.mpr hcheck)]
  dsimp only
  rw [exec_get_bind, exec_bind, exec_failIf, if_neg hfree]
  rfl

theorem isGeneration_stored (record : CompletionRecord) (expiresAtMs : ℤ)
    (deviceId credentialId : String) (credentialVersion : ℕ) :
    isGeneration (storedRow record expiresAtMs) deviceId credentialId credentialVersion ↔
      record.deviceId = deviceId ∧ record.sameGeneration credentialId credentialVersion := by
  unfold isGeneration storedRow CompletionRecord.sameGeneration
  simp only [Option.some.injEq]

theorem matchesRow_stored (input : CompletionRepository.RecoveryStepInput)
    (record : CompletionRecord) (expiresAtMs : ℤ) :
    matchesRow input (storedRow record expiresAtMs) ↔ input.matches record := by
  have hstate : (storedRow record expiresAtMs).state = .recovering ↔ record.state = .recovering :=
    toRow_eq_iff record.state .recovering
  have hversion : some input.credentialVersion =
      (storedRow record expiresAtMs).credentialVersion.map (· + 1) ↔
        input.credentialVersion = record.credentialVersion + 1 := Option.some_inj
  unfold matchesRow CompletionRepository.RecoveryStepInput.matches
    CompletionRecord.isReservedRecoveryTarget
  rw [isGeneration_stored, hstate, hversion]
  constructor
  · rintro ⟨hrecovering, ⟨hdevice, hsource⟩, htarget, hnext⟩
    exact ⟨hrecovering, hdevice, hsource, hrecovering, htarget, hnext⟩
  · rintro ⟨hrecovering, hdevice, hsource, -, htarget, hnext⟩
    exact ⟨hrecovering, ⟨hdevice, hsource⟩, htarget, hnext⟩

theorem exec_rename {fromId toId : String} {expiresAtMs : ℤ}
    (hrow : table.rows.get? fromId = some (reservedRow expiresAtMs))
    (hfree : table.rows.has toId = false) : exec (rename toId fromId) table =
      (.ok 1, ⟨(table.rows.delete fromId).set toId (reservedRow expiresAtMs)⟩) := by
  have hnot : ¬ (table.rows.delete fromId).has toId = true := by
    rw [OrderedMap.has, OrderedMap.get?_delete, (OrderedMap.has_false_iff _ _).mp hfree]
    simp
  unfold rename
  rw [exec_get_bind, hrow]
  change exec (failIf _ _ >>= _) table = _
  rw [exec_bind, exec_failIf, if_neg hnot]
  rfl

end SqliteCompletionRepository

/-! ## The operations -/

section Operations
variable (options : CompletionRepositoryOptions)
  (h : Fresh now (repository.pruned now) (table.pruned now))
include h

theorem full_iff : CompletionRepository.isFull options (repository.pruned now) ↔
    options.maxRecords ≤ (table.pruned now).rows.size := by
  rw [CompletionRepository.isFull, h.1.size]

theorem fresh_stored {record : CompletionRecord} (hvalid : record.Valid) :
    Fresh now ((repository.pruned now).stored (now + options.retentionMs) record)
      ⟨(table.pruned now).rows.set record.pairingSessionId
        (storedRow record (now + options.retentionMs))⟩ := by
  have hretention := options.retentionMs_safe.1
  exact h.store hvalid (by omega)

theorem reserve_alike (id : String) :
    SameOutcome (Fresh now) (exec (CompletionRepository.reserve options (.at now) id) repository)
      (exec (SqliteCompletionRepository.reserve options (some now) id) table) := by
  have htaken := h.1.has_iff id
  have hfull := full_iff options h
  rw [CompletionRepository.exec_reserve]
  unfold SqliteCompletionRepository.reserve
  by_cases hhas : (repository.pruned now).records.has id = true ∨
      (repository.pruned now).reservations.has id = true
  · have hsome : ((table.pruned now).rows.get? id).isSome = true := htaken.mpr hhas
    rw [if_pos hhas]
    refine SqliteCompletionRepository.alike_run ?_ h
    rw [SqliteCompletionRepository.exec_row_bind, if_pos hsome, exec_pure]
  · have hnone : ¬ ((table.pruned now).rows.get? id).isSome = true := fun hsome =>
      hhas (htaken.mp hsome)
    rw [if_neg hhas]
    by_cases hlimit : CompletionRepository.isFull options (repository.pruned now)
    · rw [if_pos hlimit]
      refine SqliteCompletionRepository.alike_run ?_ h
      rw [SqliteCompletionRepository.exec_row_bind, if_neg hnone,
        SqliteCompletionRepository.exec_count_bind, if_pos (hfull.mp hlimit), exec_pure]
    · have hretention := options.retentionMs_safe.1
      have hrecord : (repository.pruned now).records.get? id = none :=
        (OrderedMap.has_false_iff _ _).mp (Bool.eq_false_iff.mpr fun hstored => hhas (.inl hstored))
      rw [if_neg hlimit]
      refine SqliteCompletionRepository.alike_run ?_ (h.reserve hrecord (by omega))
      rw [SqliteCompletionRepository.exec_row_bind, if_neg hnone,
        SqliteCompletionRepository.exec_count_bind, if_neg fun hle => hlimit (hfull.mpr hle),
        exec_bind, SqliteCompletionRepository.exec_insert_reserved hnone]
      rfl

theorem get_alike (id : String) :
    SameOutcome (Fresh now) (exec (CompletionRepository.get (.at now) id) repository)
      (exec (SqliteCompletionRepository.get (some now) id) table) := by
  rw [CompletionRepository.exec_get, ← CompletionRepository.recordOf_pruned]
  unfold SqliteCompletionRepository.get
  refine SqliteCompletionRepository.alike_run ?_ h
  rw [SqliteCompletionRepository.exec_row_bind]
  cases h.1.entry id with
  | record record expiresAtMs stored session valid free row =>
    rw [stored, row]
    subst session
    dsimp only
    rw [snapshot_storedRow, exec_lift]
  | reserved expiresAtMs unstored kept row =>
    rw [unstored, row]
    rfl
  | absent unstored free row =>
    rw [unstored, row]
    rfl

theorem setPending_alike {input : CompletionGenerationInput} (hversion : 0 < input.credentialVersion) :
    SameOutcome (Fresh now)
      (exec (CompletionRepository.setPending options (.at now) input) repository)
      (exec (SqliteCompletionRepository.setPending options (some now) input) table) := by
  have hvalid : (CompletionRepository.pendingRecord input).Valid :=
    ⟨hversion, by simp [CompletionRepository.pendingRecord]⟩
  have hfull := full_iff options h
  rw [CompletionRepository.exec_setPending, ← CompletionRepository.recordOf_pruned]
  unfold SqliteCompletionRepository.setPending
  cases h.1.entry input.pairingSessionId with
  | record record expiresAtMs stored session valid free row =>
    have hstate : (storedRow record expiresAtMs).state = .pending ↔ record.state = .pending :=
      toRow_eq_iff record.state .pending
    have hfound : (some (storedRow record expiresAtMs)).filter (·.state ≠ .reserved) =
        some (storedRow record expiresAtMs) :=
      Option.filter_some_pos (decide_eq_true (toRow_ne_reserved record.state))
    rw [stored]
    dsimp only
    by_cases hsame : record.state = .pending ∧ record.deviceId = input.deviceId ∧
        record.sameGeneration input.credentialId input.credentialVersion
    · have hrow : (storedRow record expiresAtMs).state = .pending ∧
          SqliteCompletionRepository.isGeneration (storedRow record expiresAtMs) input.deviceId
            input.credentialId input.credentialVersion := by
        rw [hstate, SqliteCompletionRepository.isGeneration_stored]
        exact hsame
      rw [if_pos hsame]
      refine SqliteCompletionRepository.alike_run ?_ h
      rw [SqliteCompletionRepository.exec_row_bind, row, hfound]
      dsimp only
      rw [if_pos hrow, ← session, snapshot_storedRow, exec_lift]
    · have hrow : ¬ ((storedRow record expiresAtMs).state = .pending ∧
          SqliteCompletionRepository.isGeneration (storedRow record expiresAtMs) input.deviceId
            input.credentialId input.credentialVersion) := by
        rw [hstate, SqliteCompletionRepository.isGeneration_stored]
        exact hsame
      rw [if_neg hsame]
      refine SqliteCompletionRepository.alike_run ?_ h
      rw [SqliteCompletionRepository.exec_row_bind, row, hfound]
      dsimp only
      rw [if_neg hrow, exec_pure]
  | reserved expiresAtMs unstored kept row =>
    have hreserved : (repository.pruned now).reservations.has input.pairingSessionId = true :=
      (OrderedMap.has_iff _ _).mpr ⟨expiresAtMs, kept⟩
    rw [unstored]
    dsimp only
    rw [if_neg fun hfree => by rw [hreserved] at hfree; exact absurd hfree.1 nofun]
    refine SqliteCompletionRepository.alike_run ?_ (fresh_stored options h hvalid)
    rw [SqliteCompletionRepository.exec_row_bind, row]
    change exec (SqliteCompletionRepository.count >>= _) _ = _
    rw [SqliteCompletionRepository.exec_count_bind, if_neg fun hfree => absurd hfree.1 nofun]
    exact SqliteCompletionRepository.exec_store_map options hvalid now _
  | absent unstored free row =>
    rw [unstored]
    dsimp only
    by_cases hlimit : CompletionRepository.isFull options (repository.pruned now)
    · rw [if_pos ⟨free, hlimit⟩]
      refine SqliteCompletionRepository.alike_run ?_ h
      rw [SqliteCompletionRepository.exec_row_bind, row]
      change exec (SqliteCompletionRepository.count >>= _) _ = _
      rw [SqliteCompletionRepository.exec_count_bind, if_pos ⟨rfl, hfull.mp hlimit⟩, exec_pure]
    · rw [if_neg fun hfree => hlimit hfree.2]
      refine SqliteCompletionRepository.alike_run ?_ (fresh_stored options h hvalid)
      rw [SqliteCompletionRepository.exec_row_bind, row]
      change exec (SqliteCompletionRepository.count >>= _) _ = _
      rw [SqliteCompletionRepository.exec_count_bind,
        if_neg fun hle => hlimit (hfull.mpr hle.2)]
      exact SqliteCompletionRepository.exec_store_map options hvalid now _

theorem replaceRecovering_alike (input : CompletionRepository.RecoveryStepInput)
    {next : CompletionRecord} (hnext : input.credentialVersion ≠ 0 → next.Valid) :
    SameOutcome (Fresh now)
      (exec (CompletionRepository.replaceRecovering options (.at now) input next) repository)
      (exec (SqliteCompletionRepository.replaceRecovering options (some now) input next)
        table) := by
  rw [CompletionRepository.exec_replaceRecovering, ← CompletionRepository.recordOf_pruned]
  unfold SqliteCompletionRepository.replaceRecovering
  cases h.1.entry input.pairingSessionId with
  | record record expiresAtMs stored session valid free row =>
    have hmatches := SqliteCompletionRepository.matchesRow_stored input record expiresAtMs
    rw [stored]
    dsimp only
    by_cases hinput : input.matches record
    · have hvalid : next.Valid := by
        apply hnext
        have hversion : input.credentialVersion = record.credentialVersion + 1 := hinput.2.2.2.2.2
        omega
      have hfound : (some (storedRow record expiresAtMs)).filter
          (fun old => SqliteCompletionRepository.matchesRow input old) =
            some (storedRow record expiresAtMs) :=
        Option.filter_some_pos (decide_eq_true (hmatches.mpr hinput))
      rw [if_pos hinput]
      refine SqliteCompletionRepository.alike_run ?_ (fresh_stored options h hvalid)
      rw [SqliteCompletionRepository.exec_row_bind, row, hfound]
      exact SqliteCompletionRepository.exec_store_map options hvalid now _
    · have hfound : (some (storedRow record expiresAtMs)).filter
          (fun old => SqliteCompletionRepository.matchesRow input old) = none :=
        Option.filter_some_neg (by simpa using fun hrow => hinput (hmatches.mp hrow))
      rw [if_neg hinput]
      refine SqliteCompletionRepository.alike_run ?_ h
      rw [SqliteCompletionRepository.exec_row_bind, row, hfound]
      rfl
  | reserved expiresAtMs unstored kept row =>
    rw [unstored]
    refine SqliteCompletionRepository.alike_run ?_ h
    have hfound : (some (SqliteCompletionRepository.reservedRow expiresAtMs)).filter
        (fun old => SqliteCompletionRepository.matchesRow input old) = none :=
      Option.filter_some_neg (by simp [SqliteCompletionRepository.matchesRow,
        SqliteCompletionRepository.reservedRow])
    rw [SqliteCompletionRepository.exec_row_bind, row, hfound]
    rfl
  | absent unstored free row =>
    rw [unstored]
    refine SqliteCompletionRepository.alike_run ?_ h
    rw [SqliteCompletionRepository.exec_row_bind, row]
    rfl

theorem beginRecovery_alike {input : CompletionGenerationInput}
    (hversion : 0 < input.credentialVersion) (target : String) :
    SameOutcome (Fresh now)
      (exec (CompletionRepository.beginRecovery options (.at now) input target) repository)
      (exec (SqliteCompletionRepository.beginRecovery options (some now) input target) table) := by
  have hrecovering : ∀ credentialId credentialVersion, 0 < credentialVersion →
      (CompletionRepository.recoveringRecord input credentialId credentialVersion target).Valid :=
    fun _ _ hpositive => ⟨hpositive, by simp [CompletionRepository.recoveringRecord]⟩
  have hvalid := hrecovering input.credentialId input.credentialVersion hversion
  have hfull := full_iff options h
  rw [CompletionRepository.exec_beginRecovery, ← CompletionRepository.recordOf_pruned]
  unfold SqliteCompletionRepository.beginRecovery
  cases h.1.entry input.pairingSessionId with
  | record record expiresAtMs stored session valid free row =>
    have hsome : ((some (storedRow record expiresAtMs)).map (·.state) = some .delivered) ↔
        record.state = .delivered :=
      Option.some_inj.trans (toRow_eq_iff record.state .delivered)
    have hdevice : (∃ deviceId ∈ (some (storedRow record expiresAtMs)).bind (·.deviceId),
        deviceId ≠ input.deviceId) ↔ record.deviceId ≠ input.deviceId := by
      simp [storedRow]
    rw [stored]
    dsimp only
    by_cases hrefused : record.state = .delivered ∨ record.deviceId ≠ input.deviceId
    · rw [if_pos hrefused]
      refine SqliteCompletionRepository.alike_run ?_ h
      rw [SqliteCompletionRepository.exec_row_bind, row]
      rcases hrefused with hdelivered | hforeign
      · rw [if_pos (hsome.mpr hdelivered), exec_pure]
      · by_cases hdelivered : record.state = .delivered
        · rw [if_pos (hsome.mpr hdelivered), exec_pure]
        · rw [if_neg fun hrow => hdelivered (hsome.mp hrow), if_pos (hdevice.mpr hforeign),
            exec_pure]
    · rw [if_neg hrefused]
      have hundelivered : ¬ record.state = .delivered := fun hstate => hrefused (.inl hstate)
      have howned : ¬ record.deviceId ≠ input.deviceId := fun hne => hrefused (.inr hne)
      by_cases hstate : record.state = .recovering
      · have hfound : (some (storedRow record expiresAtMs)).filter (·.state = .recovering) =
            some (storedRow record expiresAtMs) :=
          Option.filter_some_pos (decide_eq_true ((toRow_eq_iff _ .recovering).mpr hstate))
        rw [if_pos hstate]
        refine SqliteCompletionRepository.alike_run ?_ h
        rw [SqliteCompletionRepository.exec_row_bind, row,
          if_neg fun hrow => hundelivered (hsome.mp hrow),
          if_neg fun hrow => howned (hdevice.mp hrow), hfound]
        dsimp only
        rw [← session, snapshot_storedRow, exec_lift]
      · have hpending : record.state = .pending := by
          cases hcase : record.state with
          | pending => rfl
          | recovering => exact absurd hcase hstate
          | delivered => exact absurd hcase hundelivered
        have hnot : ¬ (storedRow record expiresAtMs).state = .recovering := fun hrow =>
          hstate ((toRow_eq_iff _ .recovering).mp hrow)
        have hfound : (some (storedRow record expiresAtMs)).filter (·.state = .recovering) = none :=
          Option.filter_some_neg (by simpa using hnot)
        have hsource : (some (storedRow record expiresAtMs)).filter (·.state = .pending) =
            some (storedRow record expiresAtMs) :=
          Option.filter_some_pos (decide_eq_true ((toRow_eq_iff _ .pending).mpr hpending))
        rw [if_neg hstate]
        refine SqliteCompletionRepository.alike_run ?_
          (fresh_stored options h (hrecovering record.credentialId _ valid.version))
        rw [SqliteCompletionRepository.exec_row_bind, row,
          if_neg fun hrow => hundelivered (hsome.mp hrow),
          if_neg fun hrow => howned (hdevice.mp hrow), hfound, hsource]
        dsimp only
        rw [SqliteCompletionRepository.exec_count_bind, if_neg fun hrow => absurd hrow.1 nofun]
        exact SqliteCompletionRepository.exec_store_map options
          (hrecovering record.credentialId _ valid.version) now _
  | reserved expiresAtMs unstored kept row =>
    have hreserved : (repository.pruned now).reservations.has input.pairingSessionId = true :=
      (OrderedMap.has_iff _ _).mpr ⟨expiresAtMs, kept⟩
    rw [unstored]
    dsimp only
    rw [if_neg fun hfree => by rw [hreserved] at hfree; exact absurd hfree.1 nofun]
    refine SqliteCompletionRepository.alike_run ?_ (fresh_stored options h hvalid)
    rw [SqliteCompletionRepository.exec_row_bind, row, if_neg nofun,
      if_neg (by simp [SqliteCompletionRepository.reservedRow])]
    change exec (SqliteCompletionRepository.count >>= _) _ = _
    rw [SqliteCompletionRepository.exec_count_bind, if_neg fun hrow => absurd hrow.1 nofun]
    exact SqliteCompletionRepository.exec_store_map options hvalid now _
  | absent unstored free row =>
    rw [unstored]
    dsimp only
    by_cases hlimit : CompletionRepository.isFull options (repository.pruned now)
    · rw [if_pos ⟨free, hlimit⟩]
      refine SqliteCompletionRepository.alike_run ?_ h
      rw [SqliteCompletionRepository.exec_row_bind, row, if_neg nofun, if_neg (by simp)]
      change exec (SqliteCompletionRepository.count >>= _) _ = _
      rw [SqliteCompletionRepository.exec_count_bind, if_pos ⟨rfl, hfull.mp hlimit⟩, exec_pure]
    · rw [if_neg fun hfree => hlimit hfree.2]
      refine SqliteCompletionRepository.alike_run ?_ (fresh_stored options h hvalid)
      rw [SqliteCompletionRepository.exec_row_bind, row, if_neg nofun, if_neg (by simp)]
      change exec (SqliteCompletionRepository.count >>= _) _ = _
      rw [SqliteCompletionRepository.exec_count_bind,
        if_neg fun hle => hlimit (hfull.mpr hle.2)]
      exact SqliteCompletionRepository.exec_store_map options hvalid now _

theorem acknowledge_alike (id deviceId credentialId : String) (version : ℕ) :
    SameOutcome (Fresh now)
      (exec (CompletionRepository.acknowledge options (.at now) id deviceId credentialId version)
        repository)
      (exec (SqliteCompletionRepository.acknowledge options (some now) id deviceId credentialId
        version) table) := by
  rw [CompletionRepository.exec_acknowledge, ← CompletionRepository.recordOf_pruned]
  unfold SqliteCompletionRepository.acknowledge
  cases h.1.entry id with
  | record record expiresAtMs stored session valid free row =>
    have hgeneration := SqliteCompletionRepository.isGeneration_stored record expiresAtMs deviceId
      credentialId version
    rw [stored]
    dsimp only
    by_cases hsame : record.deviceId = deviceId ∧ record.sameGeneration credentialId version
    · have hfound : (some (storedRow record expiresAtMs)).filter (fun old =>
          SqliteCompletionRepository.isGeneration old deviceId credentialId version) =
            some (storedRow record expiresAtMs) :=
        Option.filter_some_pos (decide_eq_true (hgeneration.mpr hsame))
      have hdelivered : (storedRow record expiresAtMs).state = .delivered ↔
          record.state = .delivered := toRow_eq_iff record.state .delivered
      have hpending : (storedRow record expiresAtMs).state = .pending ↔ record.state = .pending :=
        toRow_eq_iff record.state .pending
      rw [if_pos hsame]
      by_cases hfinal : record.state = .delivered
      · rw [if_pos hfinal]
        refine SqliteCompletionRepository.alike_run ?_ h
        rw [SqliteCompletionRepository.exec_row_bind, row, hfound]
        dsimp only
        rw [if_pos (hdelivered.mpr hfinal), ← session, snapshot_storedRow, exec_lift]
      · rw [if_neg hfinal]
        by_cases hopen : record.state = .pending
        · -- the SQLite adapter writes the record from its arguments, without a recovery target
          have hnext : ({ record with state := .delivered } : CompletionRecord) =
              SqliteCompletionRepository.deliveredRecord id deviceId credentialId version := by
            have htarget : record.recoveryTargetCredentialId = none := by
              by_contra hsome
              rw [valid.target.mpr hsome] at hopen
              cases hopen
            obtain ⟨rfl, rfl, rfl⟩ := hsame
            subst session
            rw [SqliteCompletionRepository.deliveredRecord, htarget]
          have hvalid : (SqliteCompletionRepository.deliveredRecord id deviceId credentialId
              version).Valid := by
            refine ⟨?_, by simp [SqliteCompletionRepository.deliveredRecord]⟩
            rw [← hnext]
            exact valid.version
          rw [if_pos hopen, hnext]
          refine SqliteCompletionRepository.alike_run ?_ (fresh_stored options h hvalid)
          rw [SqliteCompletionRepository.exec_row_bind, row, hfound]
          dsimp only
          rw [if_neg fun hrow => hfinal (hdelivered.mp hrow),
            if_neg fun hrow => hrow (hpending.mpr hopen)]
          exact SqliteCompletionRepository.exec_store_map options hvalid now _
        · rw [if_neg hopen]
          refine SqliteCompletionRepository.alike_run ?_ h
          rw [SqliteCompletionRepository.exec_row_bind, row, hfound]
          dsimp only
          rw [if_neg fun hrow => hfinal (hdelivered.mp hrow),
            if_pos fun hrow => hopen (hpending.mp hrow), exec_pure]
    · have hfound : (some (storedRow record expiresAtMs)).filter (fun old =>
          SqliteCompletionRepository.isGeneration old deviceId credentialId version) = none :=
        Option.filter_some_neg (by simpa using fun hrow => hsame (hgeneration.mp hrow))
      rw [if_neg hsame]
      refine SqliteCompletionRepository.alike_run ?_ h
      rw [SqliteCompletionRepository.exec_row_bind, row, hfound]
      rfl
  | reserved expiresAtMs unstored kept row =>
    have hfound : (some (SqliteCompletionRepository.reservedRow expiresAtMs)).filter (fun old =>
        SqliteCompletionRepository.isGeneration old deviceId credentialId version) = none :=
      Option.filter_some_neg (by simp [SqliteCompletionRepository.isGeneration,
        SqliteCompletionRepository.reservedRow])
    rw [unstored]
    refine SqliteCompletionRepository.alike_run ?_ h
    rw [SqliteCompletionRepository.exec_row_bind, row, hfound]
    rfl
  | absent unstored free row =>
    rw [unstored]
    refine SqliteCompletionRepository.alike_run ?_ h
    rw [SqliteCompletionRepository.exec_row_bind, row]
    rfl

omit options in
theorem transferReservation_alike (fromId toId : String) :
    SameOutcome (Fresh now)
      (exec (CompletionRepository.transferReservation (.at now) fromId toId) repository)
      (exec (SqliteCompletionRepository.transferReservation (some now) fromId toId) table) := by
  have htaken := h.1.has_iff toId
  unfold CompletionRepository.transferReservation SqliteCompletionRepository.transferReservation
  rw [CompletionRepository.exec_pruneExpired_bind, exec_get_bind]
  -- only a reservation can be transferred; a record's row is in another state
  have hkept : ∀ hnone : (repository.pruned now).reservations.get? fromId = none,
      ((table.pruned now).rows.get? fromId).map (·.state) ≠ some .reserved := by
    intro hnone
    cases h.1.entry fromId with
    | record record expiresAtMs stored session valid free row =>
      rw [row]
      exact fun hstate => toRow_ne_reserved record.state (Option.some.inj hstate)
    | reserved expiresAtMs unstored kept row =>
      rw [kept] at hnone
      cases hnone
    | absent unstored free row =>
      rw [row]
      exact nofun
  cases hsource : (repository.pruned now).reservations.get? fromId with
  | none =>
    refine SqliteCompletionRepository.alike_run ?_ h
    rw [SqliteCompletionRepository.exec_row_bind, SqliteCompletionRepository.exec_row_bind,
      if_pos (.inl (hkept hsource)), exec_pure]
  | some expiresAtMs =>
    obtain ⟨hrecord, hrow⟩ := h.1.reserved hsource
    dsimp only
    by_cases hhas : (repository.pruned now).records.has toId = true ∨
        (repository.pruned now).reservations.has toId = true
    · rw [if_pos hhas]
      refine SqliteCompletionRepository.alike_run ?_ h
      rw [SqliteCompletionRepository.exec_row_bind, SqliteCompletionRepository.exec_row_bind,
        if_pos (.inr (htaken.mpr hhas)), exec_pure]
    · have hlive := h.2.reservations fromId expiresAtMs hsource
      have htarget : (repository.pruned now).records.get? toId = none :=
        (OrderedMap.has_false_iff _ _).mp (Bool.eq_false_iff.mpr fun hstored => hhas (.inl hstored))
      have hfree : (table.pruned now).rows.has toId = false :=
        Bool.eq_false_iff.mpr fun hsome => hhas (htaken.mp hsome)
      have hdeleted := h.deleteReservation hrecord
      rw [if_neg hhas]
      refine SqliteCompletionRepository.alike_run ?_ (hdeleted.reserve htarget hlive)
      rw [SqliteCompletionRepository.exec_row_bind, SqliteCompletionRepository.exec_row_bind, hrow,
        if_neg ?_, exec_bind, SqliteCompletionRepository.exec_rename hrow hfree]
      · rfl
      · rintro (hstate | hsome)
        · exact hstate rfl
        · exact absurd (hfree.symm.trans hsome) nofun

omit options in
/-- The in-memory `delete` does not prune, and the repositories agree once it is pruned. -/
theorem delete_alike (id : String) :
    SameOutcome (fun repository => Fresh now (repository.pruned now))
      (exec (CompletionRepository.delete id) repository)
      (exec (SqliteCompletionRepository.delete (some now) id) table) := by
  have hdeleted : exec (SqliteCompletionRepository.delete (some now) id) table =
      (.ok ⟨⟩, ⟨(table.pruned now).rows.delete id⟩) := by
    unfold SqliteCompletionRepository.delete
    refine SqliteCompletionRepository.exec_run ?_
    rw [exec_get_bind, exec_set]
  have hcommute : (⟨repository.records.delete id, repository.reservations.delete id⟩ :
      CompletionRepository).pruned now = ⟨(repository.pruned now).records.delete id,
        (repository.pruned now).reservations.delete id⟩ := by
    unfold CompletionRepository.pruned OrderedMap.delete
    dsimp only
    rw [OrderedMap.filter_filter, OrderedMap.filter_filter, OrderedMap.filter_filter,
      OrderedMap.filter_filter]
    simp only [Bool.and_comm]
  rw [hdeleted]
  refine ⟨rfl, ?_⟩
  change Fresh now ((⟨repository.records.delete id, repository.reservations.delete id⟩ :
    CompletionRepository).pruned now) _
  rw [hcommute]
  refine ⟨h.1.delete id, ?_⟩
  rw [← hcommute]
  exact unexpired_pruned now _

end Operations

end Doctmcp.Completion
