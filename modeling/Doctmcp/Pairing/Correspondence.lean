import Doctmcp.Lib.Simulation
import Doctmcp.Device.Agreement
import Doctmcp.Pairing.Pruning

/-! # The operations of the pairing repositories, side by side

On repositories that agree (`Agree`) each operation of one adapter has the result of the other's
and leaves repositories that agree. `create` is read up to its last check here; its two adapters
part where the session is refused after pruning. -/

namespace Doctmcp.Pairing
open Doctmcp.Lib Doctmcp.Lib.Operation Doctmcp.Schemas Doctmcp.Device Doctmcp.Storage
set_option autoImplicit false

variable {options : PairingRepositoryOptions} {n : ℕ} {s : MemoryStore} {db : Database}

/-! ## Writing a session -/

/-- The index and the map after `create`. -/
def InMemoryPairingSessionRepository.insert (repository : InMemoryPairingSessionRepository)
    (record : StoredPairingSession) : InMemoryPairingSessionRepository :=
  { repository with
    recordsById := repository.recordsById.set record.pairingSessionId record
    sessionIdByDigest := repository.sessionIdByDigest.set record.codeDigest record.pairingSessionId }

theorem Agree.insert (h : Agree options n s db) {record : StoredPairingSession}
    (hid : s.pairings.recordsById.get? record.pairingSessionId = none)
    (hcode : s.pairings.sessionIdByDigest.get? record.codeDigest = none) (hvalid : record.Valid) :
    Agree options n { s with pairings := s.pairings.insert record }
      { db with
        pairingSessions := db.pairingSessions.set record.pairingSessionId record } where
  rows := by
    rw [h.rows]
    rfl
  devices := h.devices
  index digest p := by
    show (s.pairings.sessionIdByDigest.set _ _).get? digest = some p ↔
      ∃ r, (s.pairings.recordsById.set _ _).get? p = some r ∧ _
    rw [OrderedMap.get?_set, OrderedMap.get?_set]
    have hold := h.index digest p
    by_cases hp : p = record.pairingSessionId
    · subst hp
      rw [hid] at hold
      by_cases hdigest : digest = record.codeDigest
      · simp [hdigest]
      · have hnone : s.pairings.sessionIdByDigest.get? digest ≠ some record.pairingSessionId := by
          intro hfound
          obtain ⟨r, hr, -⟩ := hold.mp hfound
          cases hr
        simp [hdigest, Ne.symm hdigest, hnone]
    · rw [if_neg hp]
      by_cases hdigest : digest = record.codeDigest
      · rw [if_pos hdigest]
        rw [hdigest, hcode] at hold
        constructor
        · intro hsome
          exact absurd (Option.some.inj hsome).symm hp
        · intro hfound
          exact absurd (hold.mpr (hdigest ▸ hfound)) (by simp)
      · rw [if_neg hdigest]
        exact hold
  tombstones := h.tombstones
  dropped := h.dropped
  valid p r hr := by
    have hr : (s.pairings.recordsById.set record.pairingSessionId record).get? p = some r := hr
    rw [OrderedMap.get?_set] at hr
    split_ifs at hr with hp
    · obtain rfl := Option.some.inj hr
      exact ⟨hp.symm, hvalid⟩
    · exact h.valid p r hr

/-- A stored session changes and keeps its id and its code. -/
theorem Agree.update (h : Agree options n s db) (record : StoredPairingSession)
    {old : StoredPairingSession}
    (hold : s.pairings.recordsById.get? record.pairingSessionId = some old)
    (hcode : record.codeDigest = old.codeDigest) (hvalid : record.Valid) :
    Agree options n { s with pairings := s.pairings.update record }
      { db with
        pairingSessions := db.pairingSessions.set record.pairingSessionId record } where
  rows := by
    rw [h.rows]
    rfl
  devices := h.devices
  index digest p := by
    show s.pairings.sessionIdByDigest.get? digest = some p ↔
      ∃ r, (s.pairings.recordsById.set _ _).get? p = some r ∧ _
    rw [h.index, OrderedMap.get?_set]
    by_cases hp : p = record.pairingSessionId
    · subst hp
      simp [hold, hcode]
    · rw [if_neg hp]
  tombstones := h.tombstones
  dropped := h.dropped
  valid p r hr := by
    have hr : (s.pairings.recordsById.set record.pairingSessionId record).get? p = some r := hr
    rw [OrderedMap.get?_set] at hr
    split_ifs at hr with hp
    · obtain rfl := Option.some.inj hr
      exact ⟨hp.symm, hvalid⟩
    · exact h.valid p r hr

/-! ## Finding a session by its code -/

theorem Agree.find_code (h : Agree options n s db) (digest : HexDigest) :
    db.pairingSessions.values.find? (·.codeDigest = digest) =
      (s.pairings.sessionIdByDigest.get? digest).bind s.pairings.recordsById.get? := by
  rw [h.rows]
  cases hfound : s.pairings.sessionIdByDigest.get? digest with
  | none =>
    rw [Option.bind_none, List.find?_eq_none]
    intro record hrecord hcode
    obtain ⟨p, hp⟩ := (OrderedMap.mem_values_iff _ _).mp hrecord
    have hsome := (h.index digest p).mpr ⟨record, hp, of_decide_eq_true hcode⟩
    rw [hfound] at hsome
    cases hsome
  | some p =>
    obtain ⟨record, hrecord, hcode⟩ := (h.index digest p).mp hfound
    rw [Option.bind_some, hrecord]
    have hmem := (OrderedMap.mem_values_iff _ _).mpr ⟨p, hrecord⟩
    cases hfind : s.pairings.recordsById.values.find? (·.codeDigest = digest) with
    | none =>
      exact absurd (decide_eq_true hcode) (List.find?_eq_none.mp hfind record hmem)
    | some other =>
      have hother : other.codeDigest = digest := by simpa using List.find?_some hfind
      obtain ⟨p', hp'⟩ := (OrderedMap.mem_values_iff _ _).mp (List.mem_of_find?_eq_some hfind)
      obtain rfl := h.same_code hrecord hp' (hcode.trans hother.symm)
      rw [hrecord] at hp'
      exact hp'.symm

theorem Agree.id_taken (h : Agree options n s db) (p : PairingSessionId) :
    (db.pairingSessions.get? p).isSome = true ↔ s.pairings.recordsById.has p = true := by
  rw [h.rows]
  exact Iff.rfl

theorem Agree.code_taken (h : Agree options n s db) (digest : HexDigest) :
    ((db.pairingSessions.values.find? (·.codeDigest = digest)).isSome = true ∨
        digest ∈ db.pairingCodeTombstones) ↔
      (s.pairings.sessionIdByDigest.has digest = true ∨
        digest ∈ s.pairings.expiredCodeTombstones) := by
  rw [h.find_code, h.tombstones]
  refine or_congr_left ?_
  unfold OrderedMap.has
  cases hfound : s.pairings.sessionIdByDigest.get? digest with
  | none => simp
  | some p =>
    obtain ⟨record, hrecord, -⟩ := (h.index digest p).mp hfound
    simp [hrecord]

/-! ## create -/

/-- The checks of `create` before it reads the store, and the session it would add. -/
def newRecord (input : CreatePairingRecordInput) : Except JsError StoredPairingSession := do
  let pairingSessionId ← parsePairingSessionId input.pairingSessionId
  let codeDigest ← parseDigest input.codeDigest
  let createdAtMs ← readTimestamp input.createdAt "createdAt"
  let expiresAtMs ← readTimestamp input.expiresAt "expiresAt"
  if expiresAtMs ≤ createdAtMs then
    .error (repositoryError .INVALID_PAIRING_RECORD "expiresAt phải sau createdAt.")
  else .ok { pairingSessionId, codeDigest, createdAtMs, expiresAtMs,
             localCorrelationId := input.localCorrelationId, state := .pending,
             claimedAtMs := none, deviceId := none }

/-- Why the pruned repository does not take the session, if it does not. -/
def refusal (options : PairingRepositoryOptions) (pruned : InMemoryPairingSessionRepository)
    (record : StoredPairingSession) : Option JsError :=
  if pruned.recordsById.has record.pairingSessionId = true then
    some (repositoryError .PAIRING_SESSION_ALREADY_EXISTS "pairingSessionId đã tồn tại.")
  else if pruned.sessionIdByDigest.has record.codeDigest = true ∨
      record.codeDigest ∈ pruned.expiredCodeTombstones then
    some (repositoryError .PAIRING_CODE_DIGEST_ALREADY_EXISTS "Pairing code digest đã tồn tại.")
  else if options.maxSessions ≤ pruned.recordsById.size then
    some (repositoryError .PAIRING_CAPACITY_EXCEEDED "Pairing repository capacity is full.")
  else none

/-- The in-memory repository after pruning for a new session. -/
abbrev prunedFor (options : PairingRepositoryOptions) (record : StoredPairingSession)
    (s : MemoryStore) : MemoryStore :=
  { s with pairings := (InMemoryPairingSessionRepository.pruneExpiredRecords options
    record.createdAtMs s.pairings).1 }

theorem newRecord_valid {input : CreatePairingRecordInput} {record : StoredPairingSession}
    (hcorrelation : ∀ c ∈ input.localCorrelationId, pairingCorrelationIdSchema c = true)
    (h : newRecord input = .ok record) : record.Valid ∧ record.state = .pending := by
  unfold newRecord at h
  cases hid : parsePairingSessionId input.pairingSessionId with
  | error e => rw [hid] at h; cases h
  | ok id =>
  cases hdigest : parseDigest input.codeDigest with
  | error e => rw [hid, hdigest] at h; cases h
  | ok digest =>
  cases hcreated : readTimestamp input.createdAt "createdAt" with
  | error e => rw [hid, hdigest, hcreated] at h; cases h
  | ok createdAtMs =>
  cases hexpires : readTimestamp input.expiresAt "expiresAt" with
  | error e => rw [hid, hdigest, hcreated, hexpires] at h; cases h
  | ok expiresAtMs =>
    rw [hid, hdigest, hcreated, hexpires] at h
    change (if expiresAtMs ≤ createdAtMs then _ else Except.ok _) = _ at h
    split_ifs at h with hpositive
    obtain rfl := Except.ok.inj h
    exact ⟨⟨hcorrelation, Int.not_le.mp hpositive, fun hc => (by cases hc), fun _ => ⟨rfl, rfl⟩⟩,
      rfl⟩

/-- What is left of `create` after its checks: the body of `#runExclusive`. -/
def InMemoryPairingSessionRepository.createRecord (options : PairingRepositoryOptions)
    (record : StoredPairingSession) : Operation MemoryStore JsError PairingSession := do
  let store ← get
  let pruned := (pruneExpiredRecords options record.createdAtMs store.pairings).1
  set ({ store with pairings := pruned } : MemoryStore)
  failIf (pruned.recordsById.has record.pairingSessionId = true)
    (repositoryError .PAIRING_SESSION_ALREADY_EXISTS "pairingSessionId đã tồn tại.")
  failIf (pruned.sessionIdByDigest.has record.codeDigest = true ∨
      record.codeDigest ∈ pruned.expiredCodeTombstones)
    (repositoryError .PAIRING_CODE_DIGEST_ALREADY_EXISTS "Pairing code digest đã tồn tại.")
  failIf (options.maxSessions ≤ pruned.recordsById.size)
    (repositoryError .PAIRING_CAPACITY_EXCEEDED "Pairing repository capacity is full.")
  let snapshot ← toSessionSnapshot record
  set ({ store with pairings := pruned.insert record } : MemoryStore)
  return snapshot

theorem InMemoryPairingSessionRepository.create_eq (options : PairingRepositoryOptions)
    (input : CreatePairingRecordInput) (s : MemoryStore) : exec (create options input) s =
      exec ((liftM (newRecord input) : Operation MemoryStore JsError _) >>=
        createRecord options) s := by
  unfold create newRecord
  cases parsePairingSessionId input.pairingSessionId with
  | error e => rfl
  | ok id =>
  cases parseDigest input.codeDigest with
  | error e => rfl
  | ok digest =>
  cases readTimestamp input.createdAt "createdAt" with
  | error e => rfl
  | ok createdAtMs =>
  cases readTimestamp input.expiresAt "expiresAt" with
  | error e => rfl
  | ok expiresAtMs =>
  rw [exec_lift_bind_eq rfl, exec_lift_bind_eq rfl, exec_lift_bind_eq rfl, exec_lift_bind_eq rfl,
    exec_bind, exec_failIf]
  show _ = exec ((liftM (if expiresAtMs ≤ createdAtMs then Except.error _ else Except.ok _) :
    Operation MemoryStore JsError _) >>= _) s
  split_ifs with hpositive
  · rfl
  · rfl

theorem InMemoryPairingSessionRepository.exec_createRecord {record : StoredPairingSession}
    (hvalid : record.Valid) (s : MemoryStore) : exec (createRecord options record) s =
      match refusal options (prunedFor options record s).pairings record with
      | some e => (.error e, prunedFor options record s)
      | none => (.ok record.toSession, { prunedFor options record s with
          pairings := (prunedFor options record s).pairings.insert record }) := by
  unfold createRecord refusal
  rw [exec_get_bind, exec_set_bind]
  split_ifs with hid hcode hsize
  · rw [exec_bind, exec_failIf, if_pos hid]
  · rw [exec_bind, exec_failIf, if_neg hid]
    dsimp only
    rw [exec_bind, exec_failIf, if_pos hcode]
  · rw [exec_bind, exec_failIf, if_neg hid]
    dsimp only
    rw [exec_bind, exec_failIf, if_neg hcode]
    dsimp only
    rw [exec_bind, exec_failIf, if_pos hsize]
  · rw [exec_bind, exec_failIf, if_neg hid]
    dsimp only
    rw [exec_bind, exec_failIf, if_neg hcode]
    dsimp only
    rw [exec_bind, exec_failIf, if_neg hsize]
    dsimp only
    rw [exec_lift_bind_eq hvalid.snapshot, exec_set_bind, exec_pure]

/-- What is left of `create` after its checks: the transaction. -/
def SqlitePairingSessionRepository.createRecord (options : PairingRepositoryOptions)
    (record : StoredPairingSession) : Operation Database JsError PairingSession :=
  transaction do
    let _ ← prune options record.createdAtMs
    let existing ← byId record.pairingSessionId
    failIf (existing.isSome = true)
      (repositoryError .PAIRING_SESSION_ALREADY_EXISTS "pairingSessionId đã tồn tại.")
    let sameDigest ← byDigest record.codeDigest
    let db ← get
    failIf (sameDigest.isSome = true ∨ record.codeDigest ∈ db.pairingCodeTombstones)
      (repositoryError .PAIRING_CODE_DIGEST_ALREADY_EXISTS "Pairing code digest đã tồn tại.")
    failIf (options.maxSessions ≤ db.pairingSessions.size)
      (repositoryError .PAIRING_CAPACITY_EXCEEDED "Pairing repository capacity is full.")
    insertRow record
    readBack record.pairingSessionId "Pairing create không thể đọc lại."

theorem SqlitePairingSessionRepository.create_eq (options : PairingRepositoryOptions)
    {input : CreatePairingRecordInput}
    (hcorrelation : ∀ c ∈ input.localCorrelationId, pairingCorrelationIdSchema c = true)
    (db : Database) : exec (create options input) db =
      exec ((liftM (newRecord input) : Operation Database JsError _) >>=
        createRecord options) db := by
  unfold create newRecord
  cases parsePairingSessionId input.pairingSessionId with
  | error e => rfl
  | ok id =>
  cases parseDigest input.codeDigest with
  | error e => rfl
  | ok digest =>
  cases readTimestamp input.createdAt "createdAt" with
  | error e => rfl
  | ok createdAtMs =>
  cases readTimestamp input.expiresAt "expiresAt" with
  | error e => rfl
  | ok expiresAtMs =>
  rw [exec_lift_bind_eq rfl, exec_lift_bind_eq rfl, exec_lift_bind_eq rfl, exec_lift_bind_eq rfl,
    exec_bind, exec_failIf]
  show _ = exec ((liftM (if expiresAtMs ≤ createdAtMs then Except.error _ else Except.ok _) :
    Operation Database JsError _) >>= _) db
  split_ifs with hpositive
  · rfl
  · have hvalid : StoredPairingSession.Valid ⟨id, digest, createdAtMs, expiresAtMs,
        input.localCorrelationId, .pending, none, none⟩ :=
      ⟨hcorrelation, Int.not_le.mp hpositive, fun hc => (by cases hc), fun _ => ⟨rfl, rfl⟩⟩
    have hschema : ¬ pairingSessionSchema (toSession ⟨id, digest, createdAtMs, expiresAtMs,
        input.localCorrelationId, .pending, none, none⟩) = none := by
      rw [toSession_eq hvalid, hvalid.schema]
      exact Option.some_ne_none _
    dsimp only
    rw [exec_bind, exec_failIf, if_neg hschema]
    rfl

theorem SqlitePairingSessionRepository.exec_insertRow {record : StoredPairingSession}
    (hvalid : record.Valid) (hpending : record.state = .pending)
    (hid : db.pairingSessions.get? record.pairingSessionId = none)
    (hcode : db.pairingSessions.values.find? (·.codeDigest = record.codeDigest) = none) :
    exec (insertRow record) db =
      (.ok ⟨⟩, { db with
        pairingSessions := db.pairingSessions.set record.pairingSessionId record }) := by
  have hcheck : rowCheck record := ⟨record.codeDigest.length_value, hvalid.positive,
    .inr ⟨by simp [hpending], hvalid.notClaimed (by simp [hpending])⟩⟩
  have hfree : ¬ db.pairingSessions.has record.pairingSessionId = true := by
    rw [Bool.not_eq_true, OrderedMap.has_false_iff]
    exact hid
  have hunique : ¬ ∃ other ∈ db.pairingSessions.values, other.codeDigest = record.codeDigest := by
    rintro ⟨other, hother, hsame⟩
    exact List.find?_eq_none.mp hcode other hother (decide_eq_true hsame)
  unfold insertRow
  rw [exec_get_bind, exec_bind, exec_failIf, if_neg (not_not.mpr hcheck)]
  dsimp only
  rw [exec_bind, exec_failIf, if_neg hfree]
  dsimp only
  rw [exec_bind, exec_failIf, if_neg hunique]
  rfl

theorem SqlitePairingSessionRepository.exec_readBack {id : PairingSessionId}
    {row : StoredPairingSession} (message : String)
    (hrow : db.pairingSessions.get? id = some row) (hvalid : row.Valid) :
    exec (readBack id message) db = (.ok row.toSession, db) := by
  unfold readBack
  rw [exec_byId_bind, hrow, exec_lift_bind_eq (orThrow_some _ _), exec_lift, snapshot_valid hvalid]

/-- The session is free in both repositories, or in neither. -/
theorem refusal_eq_none (h : Agree options n s db) {record : StoredPairingSession}
    (hfree : refusal options s.pairings record = none) :
    s.pairings.recordsById.get? record.pairingSessionId = none ∧
      s.pairings.sessionIdByDigest.get? record.codeDigest = none ∧
      db.pairingSessions.get? record.pairingSessionId = none ∧
      db.pairingSessions.values.find? (·.codeDigest = record.codeDigest) = none := by
  unfold refusal at hfree
  split_ifs at hfree with hid hcode hsize
  have hid := (OrderedMap.has_false_iff _ _).mp (Bool.eq_false_iff.mpr hid)
  have hindex := (OrderedMap.has_false_iff _ _).mp
    (Bool.eq_false_iff.mpr fun hhas => hcode (.inl hhas))
  refine ⟨hid, hindex, by rw [h.rows]; exact hid, ?_⟩
  rw [h.find_code, hindex]
  rfl

theorem SqlitePairingSessionRepository.exec_createRecord (h : Agree options n s db)
    {record : StoredPairingSession} (hvalid : record.Valid) (hpending : record.state = .pending)
    (hroom : n + (prunable options record.createdAtMs s.pairings).length ≤
      defaultPairingExpiredCodeTombstones) :
    exec (createRecord options record) db =
      match refusal options (prunedFor options record s).pairings record with
      | some e => (.error e, db)
      | none => (.ok record.toSession, { prunedRows options record.createdAtMs db with
          pairingSessions := (prunedRows options record.createdAtMs db).pairingSessions.set
            record.pairingSessionId record }) := by
  have hpruned := h.prune record.createdAtMs hroom
  have hfree : refusal options (prunedFor options record s).pairings record = none → _ :=
    refusal_eq_none hpruned
  have hid := hpruned.id_taken record.pairingSessionId
  have hcode := hpruned.code_taken record.codeDigest
  have hsize := congrArg OrderedMap.size hpruned.rows
  unfold createRecord
  rw [exec_transaction, exec_bind, h.exec_prune]
  dsimp only
  rw [exec_byId_bind, exec_bind, exec_failIf]
  unfold refusal at hfree ⊢
  by_cases hid' : (prunedFor options record s).pairings.recordsById.has record.pairingSessionId = true
  · rw [if_pos (hid.mpr hid'), if_pos hid']
  rw [if_neg (fun hsome => hid' (hid.mp hsome)), if_neg hid']
  rw [if_neg hid'] at hfree
  dsimp only
  rw [exec_byDigest_bind, exec_get_bind, exec_bind, exec_failIf]
  by_cases hcode' : (prunedFor options record s).pairings.sessionIdByDigest.has record.codeDigest =
      true ∨ record.codeDigest ∈ (prunedFor options record s).pairings.expiredCodeTombstones
  · rw [if_pos (hcode.mpr hcode'), if_pos hcode']
  rw [if_neg (fun htaken => hcode' (hcode.mp htaken)), if_neg hcode']
  rw [if_neg hcode'] at hfree
  dsimp only
  rw [exec_bind, exec_failIf, hsize]
  split_ifs with hfull
  · rfl
  · rw [if_neg hfull] at hfree
    obtain ⟨-, -, hrow, hfind⟩ := hfree rfl
    dsimp only
    rw [exec_bind, exec_insertRow hvalid hpending hrow hfind]
    dsimp only
    rw [exec_readBack _ (OrderedMap.get?_set_self _ _ _) hvalid]

/-! ## Updates -/

namespace SqlitePairingSessionRepository

/-- A valid session passes the `CHECK`s of its row. -/
theorem rowCheck_valid {record : StoredPairingSession} (h : record.Valid) : rowCheck record := by
  refine ⟨record.codeDigest.length_value, h.positive, ?_⟩
  by_cases hclaimed : record.state = .claimed
  · obtain ⟨hdevice, t, ht, hfrom, huntil⟩ := h.claimed hclaimed
    refine .inl ⟨hclaimed, hdevice, fun claimedAtMs hclaimedAt => ?_⟩
    rw [ht] at hclaimedAt
    obtain rfl := Option.some.inj hclaimedAt
    exact ⟨hfrom, huntil⟩
  · exact .inr ⟨hclaimed, h.notClaimed hclaimed⟩

theorem exec_updateRow {id : PairingSessionId} {condition : PairingRow → Bool}
    {assign : PairingRow → PairingRow} {row : PairingRow}
    (hrow : db.pairingSessions.get? id = some row) (hcondition : condition row = true)
    (hvalid : (assign row).Valid)
    (hreference : ∀ d ∈ (assign row).deviceId, db.devices.has d = true) :
    exec (updateRow id condition assign) db =
      (.ok 1, { db with pairingSessions := db.pairingSessions.set id (assign row) }) := by
  have hdevice : exec (requireReference (assign row).deviceId) db = (.ok (), db) := by
    cases hd : (assign row).deviceId with
    | none => rfl
    | some d =>
      have hhas := hreference d hd
      unfold requireReference requireDevice
      rw [exec_get_bind, exec_failIf, hhas]
      rfl
  unfold updateRow
  rw [exec_get_bind, hrow, Option.filter_some_pos hcondition]
  dsimp only
  rw [exec_bind, exec_failIf, if_neg (not_not.mpr (rowCheck_valid hvalid))]
  dsimp only
  rw [exec_bind, hdevice]
  rfl

/-- A pending session leaves that state without a device. -/
theorem exec_updateRow_leave {record : StoredPairingSession}
    (hrow : db.pairingSessions.get? record.pairingSessionId = some record) (hvalid : record.Valid)
    (hpending : record.state = .pending) {state : PairingState} (hstate : state ≠ .claimed) :
    exec (updateRow record.pairingSessionId (fun _ => true) ({ · with state := state })) db =
      (.ok 1, { db with
        pairingSessions := db.pairingSessions.set record.pairingSessionId
          { record with state := state } }) := by
  refine exec_updateRow hrow rfl (hvalid.leave hpending hstate) fun d hd => ?_
  have hnone := (hvalid.notClaimed (by simp [hpending])).2
  change record.deviceId = some d at hd
  rw [hnone] at hd
  cases hd

end SqlitePairingSessionRepository

theorem Agree.row (h : Agree options n s db) {p : PairingSessionId} {record : StoredPairingSession}
    (hrecord : s.pairings.recordsById.get? p = some record) :
    db.pairingSessions.get? p = some record := by
  rw [h.rows]
  exact hrecord

/-! ## getById, expire and pruneExpired -/

theorem getById_alike (h : Agree options n s db) (id : String) :
    SameOutcome (Agree options n) (exec (InMemoryPairingSessionRepository.getById id) s)
      (exec (SqlitePairingSessionRepository.getById id) db) := by
  unfold InMemoryPairingSessionRepository.getById SqlitePairingSessionRepository.getById
  refine SameOutcome.bind h _ fun p _ => ?_
  rw [exec_get_bind, SqlitePairingSessionRepository.exec_byId_bind, h.rows]
  cases hrecord : s.pairings.recordsById.get? p with
  | none => exact SameOutcome.same h (.ok none)
  | some record =>
    have hvalid := (h.valid p record hrecord).2
    dsimp only
    rw [exec_lift_bind_eq hvalid.snapshot,
      exec_lift_bind_eq (SqlitePairingSessionRepository.snapshot_valid hvalid)]
    exact SameOutcome.same h (.ok (some record.toSession))

theorem expireRecord_valid {record : StoredPairingSession} (h : record.Valid) (atMs : ℤ) :
    (InMemoryPairingSessionRepository.expireRecord atMs record).Valid := by
  unfold InMemoryPairingSessionRepository.expireRecord
  split_ifs with hdue
  · exact h.leave (of_decide_eq_true hdue).1 (by decide)
  · exact h

theorem expireRecord_fields (record : StoredPairingSession) (atMs : ℤ) :
    (InMemoryPairingSessionRepository.expireRecord atMs record).pairingSessionId =
        record.pairingSessionId ∧
      (InMemoryPairingSessionRepository.expireRecord atMs record).codeDigest =
        record.codeDigest := by
  unfold InMemoryPairingSessionRepository.expireRecord
  split_ifs <;> exact ⟨rfl, rfl⟩

theorem expire_alike (h : Agree options n s db) (expiredAt : JsDate) :
    SameOutcome (Agree options n) (exec (InMemoryPairingSessionRepository.expire expiredAt) s)
      (exec (SqlitePairingSessionRepository.expire expiredAt) db) := by
  unfold InMemoryPairingSessionRepository.expire SqlitePairingSessionRepository.expire
  refine SameOutcome.bind h _ fun atMs _ => ?_
  rw [exec_get_bind, exec_set_bind, exec_pure, exec_transaction, exec_get_bind, exec_set_bind,
    exec_pure, h.rows]
  dsimp only
  have hget : ∀ p, (s.pairings.recordsById.mapValues fun _ =>
      InMemoryPairingSessionRepository.expireRecord atMs).get? p =
      (s.pairings.recordsById.get? p).map (InMemoryPairingSessionRepository.expireRecord atMs) :=
    fun p => OrderedMap.get?_mapValues _ _ p
  refine ⟨rfl, rfl, h.devices, fun digest p => ?_, h.tombstones, h.dropped, fun p record hrecord => ?_⟩
  · show s.pairings.sessionIdByDigest.get? digest = some p ↔ _
    rw [h.index]
    dsimp only
    simp only [hget, Option.map_eq_some_iff]
    constructor
    · rintro ⟨record, hrecord, hcode⟩
      exact ⟨_, ⟨record, hrecord, rfl⟩, (expireRecord_fields record atMs).2.trans hcode⟩
    · rintro ⟨_, ⟨record, hrecord, rfl⟩, hcode⟩
      exact ⟨record, hrecord, (expireRecord_fields record atMs).2.symm.trans hcode⟩
  · have hrecord : (s.pairings.recordsById.mapValues fun _ =>
        InMemoryPairingSessionRepository.expireRecord atMs).get? p = some record := hrecord
    rw [hget, Option.map_eq_some_iff] at hrecord
    obtain ⟨old, hold, rfl⟩ := hrecord
    obtain ⟨hid, hvalid⟩ := h.valid p old hold
    exact ⟨(expireRecord_fields old atMs).1.trans hid, expireRecord_valid hvalid atMs⟩

/-- How many sessions `pruneExpired` drops. -/
def pruned (options : PairingRepositoryOptions) (s : MemoryStore) (expiredAt : JsDate) : ℕ :=
  match expiredAt with
  | none => 0
  | some atMs => (prunable options atMs s.pairings).length

theorem pruneExpired_alike (h : Agree options n s db) (expiredAt : JsDate)
    (hroom : n + pruned options s expiredAt ≤ defaultPairingExpiredCodeTombstones) :
    SameOutcome (Agree options (n + pruned options s expiredAt))
      (exec (InMemoryPairingSessionRepository.pruneExpired options expiredAt) s)
      (exec (SqlitePairingSessionRepository.pruneExpired options expiredAt) db) := by
  cases expiredAt with
  | none => exact SameOutcome.same h _
  | some atMs =>
    have hdropped := InMemoryPairingSessionRepository.pruneExpiredRecords_pruned atMs s.pairings
      (by rw [h.dropped]; exact hroom)
    unfold InMemoryPairingSessionRepository.pruneExpired
      SqlitePairingSessionRepository.pruneExpired readTimestamp
    rw [orThrow_some, exec_lift_bind_eq rfl, exec_lift_bind_eq rfl, exec_get_bind, exec_set_bind,
      exec_transaction, h.exec_prune, exec_pure]
    refine ⟨?_, h.prune atMs hroom⟩
    show (InMemoryPairingSessionRepository.pruneExpiredRecords options atMs s.pairings).2 = _
    rw [hdropped.count, Nat.zero_add]

theorem createDevice_alike (h : Agree options n s db) (source : DeviceSource)
    (input : CreateDeviceInput) :
    SameOutcome (Agree options n)
      (exec (InMemoryPairingSessionRepository.onDevices
        (InMemoryDeviceRepository.create source input)) s)
      (exec (SqliteDeviceRepository.createInTransaction source input) db) := by
  obtain ⟨hsame, hkeeps⟩ := create_alike h.devices source input
  rw [InMemoryPairingSessionRepository.exec_onDevices]
  refine ⟨hsame, ?_⟩
  rw [hkeeps]
  exact ⟨h.rows, rfl, h.index, h.tombstones, h.dropped, h.valid⟩

/-! ## cancel -/

/-- A pending session leaves that state in both repositories. -/
theorem Agree.leave (h : Agree options n s db) {record : StoredPairingSession}
    (hrecord : s.pairings.recordsById.get? record.pairingSessionId = some record)
    (hpending : record.state = .pending) {state : PairingState} (hstate : state ≠ .claimed) :
    Agree options n { s with pairings := s.pairings.update { record with state := state } }
      { db with
        pairingSessions := db.pairingSessions.set record.pairingSessionId
          { record with state := state } } :=
  h.update { record with state := state } hrecord rfl
    ((h.valid _ record hrecord).2.leave hpending hstate)

theorem leave_alike (h : Agree options n s db) {record : StoredPairingSession}
    (hrecord : s.pairings.recordsById.get? record.pairingSessionId = some record)
    (hpending : record.state = .pending) {state : PairingState} (hstate : state ≠ .claimed)
    (message : String) :
    SameOutcome (Agree options n)
      (exec (do
        set ({ s with pairings := s.pairings.update { record with state := state } } : MemoryStore)
        let session ← toSessionSnapshot { record with state := state }
        return session) s)
      (exec (transaction do
        let _ ← SqlitePairingSessionRepository.updateRow record.pairingSessionId (fun _ => true)
          ({ · with state := state })
        SqlitePairingSessionRepository.readBack record.pairingSessionId message) db) := by
  have hvalid := (h.valid _ record hrecord).2
  have hleft := hvalid.leave hpending hstate
  rw [exec_set_bind, exec_lift, hleft.snapshot, exec_transaction, exec_bind,
    SqlitePairingSessionRepository.exec_updateRow_leave (h.row hrecord) hvalid hpending hstate]
  dsimp only
  rw [SqlitePairingSessionRepository.exec_readBack message (OrderedMap.get?_set_self _ _ _) hleft]
  exact ⟨rfl, h.leave hrecord hpending hstate⟩

theorem cancel_alike (h : Agree options n s db) (id : String) (cancelledAt : JsDate) :
    SameOutcome (Agree options n) (exec (InMemoryPairingSessionRepository.cancel id cancelledAt) s)
      (exec (SqlitePairingSessionRepository.cancel id cancelledAt) db) := by
  unfold InMemoryPairingSessionRepository.cancel SqlitePairingSessionRepository.cancel
  refine SameOutcome.bind h _ fun p _ => ?_
  refine SameOutcome.bind h _ fun t _ => ?_
  rw [exec_get_bind, exec_transaction, SqlitePairingSessionRepository.exec_byId_bind, h.rows]
  cases hrecord : s.pairings.recordsById.get? p with
  | none => exact SameOutcome.same h _
  | some record =>
    obtain rfl := h.keyed hrecord
    dsimp only
    by_cases hdue : record.state = .pending ∧ t ≥ record.expiresAtMs
    · rw [if_pos hdue, if_pos hdue, ← exec_transaction]
      exact leave_alike h hrecord hdue.1 (by decide) _
    · rw [if_neg hdue, if_neg hdue, ← exec_transaction]
      refine SameOutcome.failIf_transaction h Iff.rfl _ fun hpending => ?_
      refine SameOutcome.failIf_transaction h Iff.rfl _ fun _ => ?_
      exact leave_alike h hrecord (not_not.mp hpending) (by decide) _

/-! ## claim -/

/-- How the SQLite claim ends, from what its transaction did. -/
def finishClaim (db : Database)
    (out : Except JsError (Option (PairingSession × Schemas.Device)) × Database) :
    Except JsError (PairingSession × Schemas.Device) × Database :=
  match out with
  | (.ok (some result), db') => (.ok result, db')
  | (.ok none, db') => (.error InMemoryPairingSessionRepository.codeUnavailable, db')
  | (.error e, _) => (.error e, db)

theorem exec_finishClaim
    (body : Operation Database JsError (Option (PairingSession × Schemas.Device)))
    (db : Database) :
    exec (do
      let result ← transaction body
      let result ← (orThrow result
        (repositoryError .PAIRING_CODE_UNAVAILABLE "Pairing code không khả dụng.") :
        Except JsError (PairingSession × Schemas.Device))
      return result) db = finishClaim db (exec body db) := by
  rw [exec_bind, exec_transaction]
  rcases exec body db with ⟨result, db'⟩
  rcases result with e | (_ | result) <;> rfl

/-- The in-memory claim passes the input to the device repository as it is, the SQLite one as its
schema parsed it. -/
theorem create_parsed {source : DeviceSource} {input parsed : CreateDeviceInput}
    (h : createDeviceInputSchema input = some parsed) (devices : InMemoryDeviceRepository) :
    exec (InMemoryDeviceRepository.create source parsed) devices =
      exec (InMemoryDeviceRepository.create source input) devices := by
  unfold InMemoryDeviceRepository.create
  rw [h, createDeviceInputSchema_idem h]

/-- A pending session that is not due is claimed with a new device. -/
theorem claimed_alike (h : Agree options n s db) {record : StoredPairingSession}
    (hrecord : s.pairings.recordsById.get? record.pairingSessionId = some record)
    (hpending : record.state = .pending) {t : ℤ} (hfrom : record.createdAtMs ≤ t)
    (huntil : t < record.expiresAtMs) (source : DeviceSource) {input parsed : CreateDeviceInput}
    (hparsed : createDeviceInputSchema input = some parsed) :
    SameOutcome (Agree options n)
      (exec (do
        let device ← InMemoryPairingSessionRepository.onDevices
          (InMemoryDeviceRepository.create source input)
        let claimed := record.claimBy t device.deviceId
        let store ← get
        set ({ store with pairings := store.pairings.update claimed } : MemoryStore)
        let session ← toSessionSnapshot claimed
        return (session, device)) s)
      (finishClaim db (exec (do
        let device ← SqliteDeviceRepository.createInTransaction source parsed
        let changes ← SqlitePairingSessionRepository.updateRow record.pairingSessionId
          (·.state = .pending) (·.claimBy t device.deviceId)
        failIf (changes ≠ 1) (.error "Pairing claim lost its atomic boundary.")
        let session ← SqlitePairingSessionRepository.readBack record.pairingSessionId
          "Claimed session không thể đọc lại."
        return some (session, device)) db)) := by
  have hvalid := (h.valid _ record hrecord).2
  have halike := create_alike h.devices source parsed
  rw [create_parsed hparsed] at halike
  have hcreated := InMemoryDeviceRepository.create_outcome source input s.devices
  rw [exec_bind, InMemoryPairingSessionRepository.exec_onDevices, exec_bind]
  generalize exec (InMemoryDeviceRepository.create source input) s.devices = out
    at halike hcreated ⊢
  generalize exec (SqliteDeviceRepository.createInTransaction source parsed) db = out' at halike ⊢
  obtain ⟨result', db'⟩ := out'
  obtain ⟨hsame, hkeeps⟩ := halike
  cases hcreated with
  | thrown e =>
    cases result' with
    | ok device => cases hsame
    | error e' => exact ⟨hsame, h⟩
  | created row hnew =>
    cases result' with
    | error e' => cases hsame
    | ok device =>
      obtain rfl : toSnapshot row = device := hsame
      have hkeeps : db' = { db with devices := s.devices.records.set row.deviceId row } := hkeeps
      subst hkeeps
      have hclaimed := hvalid.claimBy hfrom huntil (toSnapshot row).deviceId
      have hreference : ∀ d ∈ (record.claimBy t (toSnapshot row).deviceId).deviceId,
          (s.devices.records.set row.deviceId row).has d = true := by
        intro d hd
        obtain rfl : row.deviceId = d := Option.some.inj hd
        rw [OrderedMap.has_iff]
        exact ⟨row, OrderedMap.get?_set_self _ _ _⟩
      have hupdate : exec (SqlitePairingSessionRepository.updateRow record.pairingSessionId
          (·.state = .pending) (·.claimBy t (toSnapshot row).deviceId))
          { db with devices := s.devices.records.set row.deviceId row } =
          (.ok 1, { db with
            devices := s.devices.records.set row.deviceId row
            pairingSessions := db.pairingSessions.set record.pairingSessionId
              (record.claimBy t (toSnapshot row).deviceId) }) :=
        SqlitePairingSessionRepository.exec_updateRow (h.row hrecord) (decide_eq_true hpending)
          hclaimed hreference
      dsimp only
      rw [exec_get_bind, exec_set_bind, exec_lift_bind_eq hclaimed.snapshot, exec_pure, exec_bind,
        hupdate]
      dsimp only
      rw [exec_bind, exec_failIf, if_neg (not_not.mpr rfl)]
      dsimp only
      rw [exec_bind, SqlitePairingSessionRepository.exec_readBack _
        (OrderedMap.get?_set_self _ _ _) hclaimed]
      refine ⟨rfl, ?_⟩
      have hupdated := h.update (record.claimBy t (toSnapshot row).deviceId) hrecord rfl
        hclaimed
      exact ⟨hupdated.rows, rfl, hupdated.index, hupdated.tombstones, hupdated.dropped, hupdated.valid⟩

theorem claim_alike (h : Agree options n s db) (now : JsDate) (source : DeviceSource)
    {input : ClaimPairingRecordInput} (hclaim : claimPairingInputSchema input.claim ≠ none) :
    SameOutcome (Agree options n)
      (exec (InMemoryPairingSessionRepository.claim now source input) s)
      (exec (SqlitePairingSessionRepository.claim now source input) db) := by
  obtain ⟨parsed, hparsed⟩ := Option.ne_none_iff_exists'.mp hclaim
  unfold InMemoryPairingSessionRepository.claim SqlitePairingSessionRepository.claim
  refine SameOutcome.bind h _ fun digest _ => ?_
  rw [exec_finishClaim]
  unfold SqlitePairingSessionRepository.claimInTransaction
  cases readTimestamp now "claimedAt" with
  | error e => exact SameOutcome.same h _
  | ok t =>
    rw [exec_lift_bind_eq rfl, exec_lift_bind_eq rfl, exec_get_bind,
      SqlitePairingSessionRepository.exec_byDigest_bind, h.find_code]
    cases hfound : (s.pairings.sessionIdByDigest.get? digest).bind
        s.pairings.recordsById.get? with
    | none => exact SameOutcome.same h _
    | some record =>
      obtain ⟨p, -, hrecord⟩ := Option.bind_eq_some_iff.mp hfound
      obtain rfl := h.keyed hrecord
      have hvalid := (h.valid _ record hrecord).2
      by_cases hpending : record.state = .pending
      · have hfilter : (some record).filter (·.state = .pending) = some record :=
          Option.filter_some_pos (decide_eq_true hpending)
        rw [hfilter]
        dsimp only
        by_cases hdue : t ≥ record.expiresAtMs
        · rw [if_pos ⟨hpending, hdue⟩, if_pos hdue, exec_set_bind, exec_throw, exec_bind,
            SqlitePairingSessionRepository.exec_updateRow_leave (h.row hrecord) hvalid hpending
              (by decide)]
          exact ⟨rfl, h.leave hrecord hpending (by decide)⟩
        · rw [if_neg (fun hboth => hdue hboth.2), if_neg hdue, exec_bind, exec_failIf,
            if_neg (not_not.mpr hpending)]
          dsimp only
          by_cases hclock : t < record.createdAtMs
          · rw [exec_bind, exec_failIf, if_pos hclock, exec_bind, exec_failIf, if_pos hclock]
            exact SameOutcome.same h _
          · rw [exec_bind, exec_failIf, if_neg hclock, exec_bind, exec_failIf, if_neg hclock]
            dsimp only
            rw [hparsed, orThrow_some, exec_lift_bind_eq rfl]
            exact claimed_alike h hrecord hpending (Int.not_lt.mp hclock) (Int.not_le.mp hdue)
              source hparsed
      · have hfilter : (some record).filter (·.state = .pending) = none :=
          Option.filter_some_neg (decide_eq_false hpending)
        rw [hfilter]
        dsimp only
        rw [if_neg (fun hboth => hpending hboth.1), exec_bind, exec_failIf, if_pos hpending]
        exact SameOutcome.same h _

end Doctmcp.Pairing
