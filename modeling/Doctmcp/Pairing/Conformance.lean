import Doctmcp.Pairing.SingleUse
import Doctmcp.Pairing.Sqlite

/-! # The pairing repositories meet the contract

Both adapters, call by call. A claim replaces one pending record and adds one device, or it throws:
in memory because the device is created before the record changes, in SQLite because the
transaction takes both back. -/

namespace Doctmcp.Pairing
open Doctmcp.Lib Doctmcp.Lib.Operation Doctmcp.Schemas Doctmcp.Device Doctmcp.Storage
set_option autoImplicit false

theorem toSessionSnapshot_ok {r : StoredPairingSession} {session : PairingSession}
    (h : toSessionSnapshot r = .ok session) :
    pairingSessionSchema r.toSession = some session := orThrow_ok h

theorem pairingSessionSchema_some {s s' : PairingSession} (h : pairingSessionSchema s = some s') :
    s' = s := by
  unfold pairingSessionSchema at h
  split at h
  · exact (Option.some.inj h).symm
  · cases h

theorem StoredPairingSession.Valid.snapshot {r : StoredPairingSession} (h : r.Valid) :
    toSessionSnapshot r = .ok r.toSession := by
  rw [toSessionSnapshot, h.schema, orThrow_some]

/-! ## The in-memory adapter -/

namespace InMemoryPairingSessionRepository

def adapter (options : PairingRepositoryOptions) : Adapter MemoryStore where
  create := create options
  getById := getById
  claim := claim
  cancel := cancel
  expire := expire
  pruneExpired := pruneExpired options
  createDevice source input := onDevices (InMemoryDeviceRepository.create source input)
  records s := s.pairings.recordsById
  devices s := s.devices.records

variable (options : PairingRepositoryOptions)

theorem pruneRecord_shrinks (expiredAtMs : ℤ) (acc : InMemoryPairingSessionRepository × ℕ)
    (record : StoredPairingSession) (p : PairingSessionId) :
    (pruneRecord options expiredAtMs acc record).1.recordsById.get? p =
        acc.1.recordsById.get? p ∨
      (pruneRecord options expiredAtMs acc record).1.recordsById.get? p = none := by
  unfold pruneRecord
  split
  · exact .inl rfl
  · simp only [OrderedMap.get?_delete]
    by_cases hp : p = record.pairingSessionId
    · exact .inr (if_pos hp)
    · exact .inl (if_neg hp)

theorem foldl_pruneRecord_shrinks (expiredAtMs : ℤ) (records : List StoredPairingSession)
    (acc : InMemoryPairingSessionRepository × ℕ) (p : PairingSessionId) :
    (records.foldl (pruneRecord options expiredAtMs) acc).1.recordsById.get? p =
        acc.1.recordsById.get? p ∨
      (records.foldl (pruneRecord options expiredAtMs) acc).1.recordsById.get? p = none := by
  induction records generalizing acc with
  | nil => exact .inl rfl
  | cons record records ih =>
    rcases ih (pruneRecord options expiredAtMs acc record) with h | h
    · rcases pruneRecord_shrinks options expiredAtMs acc record p with h' | h'
      · exact .inl (h.trans h')
      · exact .inr (h.trans h')
    · exact .inr h

/-- Pruning makes records disappear and changes none. -/
theorem pruneExpiredRecords_shrinks (expiredAtMs : ℤ) (s : MemoryStore) :
    (adapter options).Shrinks s
      { s with pairings := (pruneExpiredRecords options expiredAtMs s.pairings).1 } where
  records p := foldl_pruneRecord_shrinks options expiredAtMs _ (s.pairings, 0) p
  devices := rfl

theorem update_replaces (s : MemoryStore) (record : StoredPairingSession) :
    (adapter options).Replaces s record { s with pairings := s.pairings.update record } :=
  fun _ => OrderedMap.get?_set _ _ _ _

theorem create_returns (s : MemoryStore) (input : CreatePairingRecordInput) :
    (adapter options).Returns s (.create input) Reply.session (exec (create options input) s) := by
  unfold create
  refine exec_bind_cases (fun e _ => .refused _ e) fun id _ => ?_
  refine exec_bind_cases (fun e _ => .refused _ e) fun digest _ => ?_
  refine exec_bind_cases (fun e _ => .refused _ e) fun createdAtMs _ => ?_
  refine exec_bind_cases (fun e _ => .refused _ e) fun expiresAtMs _ => ?_
  refine exec_failIf_cases (fun _ => .refused _ _) fun _ => ?_
  rw [exec_get_bind, exec_set_bind]
  have hshrinks := pruneExpiredRecords_shrinks options createdAtMs s
  refine exec_failIf_cases (fun _ => .createRefused _ _ _ hshrinks) fun _ => ?_
  refine exec_failIf_cases (fun _ => .createRefused _ _ _ hshrinks) fun _ => ?_
  refine exec_failIf_cases (fun _ => .createRefused _ _ _ hshrinks) fun _ => ?_
  refine exec_bind_cases (fun e _ => .createRefused _ e _ hshrinks) fun session hsession => ?_
  have hschema := toSessionSnapshot_ok hsession
  obtain rfl := pairingSessionSchema_some hschema
  rw [exec_set_bind, exec_pure]
  refine .created input _ _ rfl (valid_of_pending rfl rfl rfl (by rw [hschema]; simp))
    (OrderedMap.get?_set_self _ _ _) (fun p hp => ?_) rfl
  have hkept := OrderedMap.get?_set_ne (pruneExpiredRecords options createdAtMs
    s.pairings).1.recordsById (StoredPairingSession.mk id digest createdAtMs expiresAtMs
      input.localCorrelationId .pending none none) hp
  exact (hshrinks.records p).imp hkept.trans hkept.trans

theorem getById_returns {s : MemoryStore} (hs : (adapter options).RecordsValid s) (id : String) :
    (adapter options).Returns s (.getById id) Reply.found (exec (getById id) s) := by
  unfold getById
  refine exec_bind_cases (fun e _ => .refused _ e) fun parsedId _ => ?_
  rw [exec_get_bind]
  cases hr : s.pairings.recordsById.get? parsedId with
  | none => exact .found id none
  | some record =>
    dsimp only
    rw [exec_lift_bind_eq (hs parsedId record hr).2.snapshot]
    exact .found id _

theorem claim_returns {s : MemoryStore} (hs : (adapter options).RecordsValid s) (now : JsDate)
    (source : DeviceSource) (input : ClaimPairingRecordInput) :
    (adapter options).Returns s (.claim now source input) (fun r => .claimed r.1 r.2)
      (exec (claim now source input) s) := by
  unfold claim
  refine exec_bind_cases (fun e _ => .refused _ e) fun digest _ => ?_
  refine exec_bind_cases (fun e _ => .refused _ e) fun t ht => ?_
  have hnow : now = some t := orThrow_ok ht
  rw [exec_get_bind]
  cases hfound : (s.pairings.sessionIdByDigest.get? digest).bind
      s.pairings.recordsById.get? with
  | none => exact .refused _ _
  | some record =>
    obtain ⟨p, -, hp⟩ := Option.bind_eq_some_iff.mp hfound
    obtain ⟨rfl, hvalid⟩ := hs p record hp
    dsimp only
    by_cases hdue : record.state = .pending ∧ t ≥ record.expiresAtMs
    · rw [if_pos hdue]
      exact .claimExpired now source input record t _ hp hdue.1 hnow hdue.2
        (update_replaces options s _) rfl
    · rw [if_neg hdue]
      refine exec_failIf_cases (fun _ => .refused _ _) fun hpending => ?_
      refine exec_failIf_cases (fun _ => .refused _ _) fun hfrom => ?_
      rw [not_not] at hpending
      have huntil : t < record.expiresAtMs := by
        by_contra h
        exact hdue ⟨hpending, by omega⟩
      have hfrom : record.createdAtMs ≤ t := by omega
      rw [exec_bind, exec_onDevices]
      have hcreate := InMemoryDeviceRepository.create_outcome source input.claim s.devices
      generalize exec (InMemoryDeviceRepository.create source input.claim) s.devices = out
        at hcreate ⊢
      cases hcreate with
      | thrown e => exact .refused _ e
      | created row hnew =>
        simp only [exec_get_bind, exec_set_bind]
        rw [exec_lift_bind_eq (hvalid.claimBy hfrom huntil (toSnapshot row).deviceId).snapshot]
        exact .claimed now source input record t row _ hp hpending hnow hfrom huntil hnew
          (fun _ => OrderedMap.get?_set _ _ _ _) rfl

/-- The record left `pending` and the session is shown. -/
theorem leave_returns {s : MemoryStore} (hs : (adapter options).RecordsValid s) (id : String)
    (cancelledAt : JsDate) {record : StoredPairingSession}
    (hrecord : s.pairings.recordsById.get? record.pairingSessionId = some record)
    (hpending : record.state = .pending) {state : PairingState}
    (hstate : state = .cancelled ∨ state = .expired) :
    (adapter options).Returns s (.cancel id cancelledAt) Reply.session
      (exec (do
        set ({ s with pairings := s.pairings.update { record with state := state } } : MemoryStore)
        let session ← toSessionSnapshot { record with state := state }
        return session) s) := by
  have hleft : state ≠ .claimed := by
    rcases hstate with rfl | rfl <;> decide
  have hvalid := (hs _ _ hrecord).2.leave hpending hleft
  rw [exec_set_bind, exec_lift, hvalid.snapshot]
  exact .left id cancelledAt record state _ hrecord hpending hstate
    (update_replaces options s { record with state := state }) rfl

theorem cancel_returns {s : MemoryStore} (hs : (adapter options).RecordsValid s) (id : String)
    (cancelledAt : JsDate) :
    (adapter options).Returns s (.cancel id cancelledAt) Reply.session
      (exec (cancel id cancelledAt) s) := by
  unfold cancel
  refine exec_bind_cases (fun e _ => .refused _ e) fun parsedId _ => ?_
  refine exec_bind_cases (fun e _ => .refused _ e) fun t _ => ?_
  rw [exec_get_bind]
  cases hr : s.pairings.recordsById.get? parsedId with
  | none => exact .refused _ _
  | some record =>
    obtain ⟨rfl, -⟩ := hs parsedId record hr
    dsimp only
    by_cases hdue : record.state = .pending ∧ t ≥ record.expiresAtMs
    · rw [if_pos hdue]
      exact leave_returns options hs id cancelledAt hr hdue.1 (.inr rfl)
    · rw [if_neg hdue]
      refine exec_failIf_cases (fun _ => .refused _ _) fun hpending => ?_
      refine exec_failIf_cases (fun _ => .refused _ _) fun _ => ?_
      rw [not_not] at hpending
      exact leave_returns options hs id cancelledAt hr hpending (.inl rfl)

theorem expire_returns (s : MemoryStore) (expiredAt : JsDate) :
    (adapter options).Returns s (.expire expiredAt) Reply.count (exec (expire expiredAt) s) := by
  unfold expire
  refine exec_bind_cases (fun e _ => .refused _ e) fun t _ => ?_
  rw [exec_get_bind, exec_set_bind, exec_pure]
  exact .expired expiredAt t _ _ (fun p => OrderedMap.get?_mapValues _ _ p) rfl

theorem pruneExpired_returns (s : MemoryStore) (expiredAt : JsDate) :
    (adapter options).Returns s (.pruneExpired expiredAt) Reply.count
      (exec (pruneExpired options expiredAt) s) := by
  unfold pruneExpired
  refine exec_bind_cases (fun e _ => .refused _ e) fun t _ => ?_
  rw [exec_get_bind, exec_set_bind, exec_pure]
  exact .pruned expiredAt _ _ (pruneExpiredRecords_shrinks options t s)

theorem createDevice_returns (s : MemoryStore) (source : DeviceSource)
    (input : CreateDeviceInput) :
    (adapter options).Returns s (.createDevice source input) Reply.device
      (exec (onDevices (InMemoryDeviceRepository.create source input)) s) := by
  rw [exec_onDevices]
  have hcreate := InMemoryDeviceRepository.create_outcome source input s.devices
  generalize exec (InMemoryDeviceRepository.create source input) s.devices = out at hcreate ⊢
  cases hcreate with
  | thrown e => exact .refused _ e
  | created row hnew => exact .deviceCreated source input row _ hnew (fun _ => rfl) rfl

theorem contract : (adapter options).Contract := by
  intro s c hs
  cases c with
  | create input => exact create_returns options s input
  | getById id => exact getById_returns options hs id
  | claim now source input => exact claim_returns options hs now source input
  | cancel id cancelledAt => exact cancel_returns options hs id cancelledAt
  | expire expiredAt => exact expire_returns options s expiredAt
  | pruneExpired expiredAt => exact pruneExpired_returns options s expiredAt
  | createDevice source input => exact createDevice_returns options s source input

end InMemoryPairingSessionRepository

/-! ## The SQLite adapter -/

namespace SqlitePairingSessionRepository

def adapter (options : PairingRepositoryOptions) : Adapter Database where
  create := create options
  getById := getById
  claim := claim
  cancel := cancel
  expire := expire
  pruneExpired := pruneExpired options
  createDevice := SqliteDeviceRepository.createInTransaction
  records db := db.pairingSessions
  devices db := db.devices

variable (options : PairingRepositoryOptions)

theorem toSession_eq {r : StoredPairingSession} (h : r.Valid) : toSession r = r.toSession := by
  obtain ⟨hclaimedAt, hdevice⟩ := h.toSession_fields
  rw [toSession, ← hclaimedAt, ← hdevice]
  rfl

theorem snapshot_valid {r : StoredPairingSession} (h : r.Valid) :
    snapshot r = .ok r.toSession := by
  rw [snapshot, toSession_eq h, h.schema, orThrow_some]

/-! ### Statements that returned -/

theorem exec_byId_bind {β : Type} (id : PairingSessionId)
    (f : Option PairingRow → Operation Database JsError β) (s : Database) :
    exec (byId id >>= f) s = exec (f (s.pairingSessions.get? id)) s := by
  rw [exec_bind]
  rfl

theorem exec_byDigest_bind {β : Type} (digest : HexDigest)
    (f : Option PairingRow → Operation Database JsError β) (s : Database) :
    exec (byDigest digest >>= f) s =
      exec (f (s.pairingSessions.values.find? (·.codeDigest = digest))) s := by
  rw [exec_bind]
  rfl

theorem prune_shrinks (atMs : ℤ) (s : Database) :
    ∃ n s', exec (prune options atMs) s = (.ok n, s') ∧ (adapter options).Shrinks s s' := by
  refine ⟨_, _, rfl, ⟨fun p => ?_, rfl⟩⟩
  have hfilter := OrderedMap.get?_filter s.pairingSessions
    (fun _ row => !pruneCondition options atMs row) p
  change (OrderedMap.filter _ _).get? p = s.pairingSessions.get? p ∨
    (OrderedMap.filter _ _).get? p = none
  rw [hfilter]
  cases s.pairingSessions.get? p with
  | none => exact .inl rfl
  | some row => cases hkeep : pruneCondition options atMs row <;> simp [Option.filter, hkeep]

theorem requireReference_ok {d : Option DeviceId} {s s' : Database} {u : Unit}
    (h : exec (requireReference d) s = (.ok u, s')) : s' = s := by
  cases d with
  | none => exact (Prod.mk.inj h).2.symm
  | some d => exact (exec_failIf_ok h).2

/-- An `UPDATE` that finds its row changes that row. -/
theorem updateRow_ok {id : PairingSessionId} {condition : PairingRow → Bool}
    {assign : PairingRow → PairingRow} {s s' : Database} {changes : ℕ} {row : PairingRow}
    (h : exec (updateRow id condition assign) s = (.ok changes, s'))
    (hrow : s.pairingSessions.get? id = some row) (hcondition : condition row = true) :
    changes = 1 ∧
      s' = { s with pairingSessions := s.pairingSessions.set id (assign row) } := by
  unfold updateRow at h
  rw [exec_get_bind, hrow, Option.filter_some_pos hcondition] at h
  obtain ⟨-, h⟩ := exec_failIf_bind_ok h
  obtain ⟨_, s1, h1, h⟩ := exec_bind_ok h
  rw [requireReference_ok h1, exec_set_bind, exec_pure, Prod.mk.injEq] at h
  exact ⟨(Except.ok.inj h.1).symm, h.2.symm⟩

theorem insertRow_ok {row : PairingRow} {s s' : Database} {u : Unit}
    (h : exec (insertRow row) s = (.ok u, s')) :
    s' = { s with pairingSessions := s.pairingSessions.set row.pairingSessionId row } := by
  unfold insertRow at h
  rw [exec_get_bind] at h
  obtain ⟨-, h⟩ := exec_failIf_bind_ok h
  obtain ⟨-, h⟩ := exec_failIf_bind_ok h
  obtain ⟨-, h⟩ := exec_failIf_bind_ok h
  exact (Prod.mk.inj h).2.symm

theorem readBack_ok {id : PairingSessionId} {message : String} {s s' : Database}
    {session : PairingSession} {row : PairingRow}
    (h : exec (readBack id message) s = (.ok session, s'))
    (hrow : s.pairingSessions.get? id = some row) (hvalid : row.Valid) :
    s' = s ∧ session = row.toSession := by
  unfold readBack at h
  rw [exec_byId_bind, hrow, exec_lift_bind_eq (orThrow_some _ _), exec_lift,
    snapshot_valid hvalid, Prod.mk.injEq] at h
  exact ⟨h.2.symm, (Except.ok.inj h.1).symm⟩

/-! ### Calls -/

theorem set_replaces (s : Database) (record : StoredPairingSession) :
    (adapter options).Replaces s record
      { s with
        pairingSessions := s.pairingSessions.set record.pairingSessionId record } :=
  fun _ => OrderedMap.get?_set _ _ _ _

theorem create_returns (s : Database) (input : CreatePairingRecordInput) :
    (adapter options).Returns s (.create input) Reply.session (exec (create options input) s) := by
  unfold create
  refine exec_bind_cases (fun e _ => .refused _ e) fun id _ => ?_
  refine exec_bind_cases (fun e _ => .refused _ e) fun digest _ => ?_
  refine exec_bind_cases (fun e _ => .refused _ e) fun createdAtMs _ => ?_
  refine exec_bind_cases (fun e _ => .refused _ e) fun expiresAtMs _ => ?_
  refine exec_failIf_cases (fun _ => .refused _ _) fun _ => ?_
  refine exec_failIf_cases (fun _ => .refused _ _) fun hschema => ?_
  refine exec_transaction_cases (fun e _ _ => .refused _ e) fun session s' h => ?_
  obtain ⟨n, s1, hprune, hshrinks⟩ := prune_shrinks options createdAtMs s
  obtain ⟨_, s2, hprune', h⟩ := exec_bind_ok h
  rw [hprune, Prod.mk.injEq] at hprune'
  obtain ⟨-, rfl⟩ := hprune'
  rw [exec_byId_bind] at h
  obtain ⟨-, h⟩ := exec_failIf_bind_ok h
  rw [exec_byDigest_bind, exec_get_bind] at h
  obtain ⟨-, h⟩ := exec_failIf_bind_ok h
  obtain ⟨-, h⟩ := exec_failIf_bind_ok h
  obtain ⟨_, s3, hinsert, h⟩ := exec_bind_ok h
  have hinserted := insertRow_ok hinsert
  subst hinserted
  have hvalid := valid_of_pending (r := ⟨id, digest, createdAtMs, expiresAtMs,
    input.localCorrelationId, .pending, none, none⟩) rfl rfl rfl hschema
  obtain ⟨rfl, rfl⟩ := readBack_ok h (OrderedMap.get?_set_self _ _ _) hvalid
  refine .created input _ _ rfl hvalid (OrderedMap.get?_set_self _ _ _) (fun p hp => ?_)
    hshrinks.devices
  have hkept := OrderedMap.get?_set_ne s1.pairingSessions (StoredPairingSession.mk id digest
    createdAtMs expiresAtMs input.localCorrelationId .pending none none) hp
  exact (hshrinks.records p).imp hkept.trans hkept.trans

theorem getById_returns {s : Database} (hs : (adapter options).RecordsValid s) (id : String) :
    (adapter options).Returns s (.getById id) Reply.found (exec (getById id) s) := by
  unfold getById
  refine exec_bind_cases (fun e _ => .refused _ e) fun parsedId _ => ?_
  rw [exec_byId_bind]
  cases hr : s.pairingSessions.get? parsedId with
  | none => exact .found id none
  | some record =>
    dsimp only
    rw [exec_lift_bind_eq (snapshot_valid (hs parsedId record hr).2)]
    exact .found id _

/-- What the claim's transaction can commit. -/
inductive ClaimCommit (s : Database) (now : JsDate) :
    Option (PairingSession × Schemas.Device) → Database → Prop
  | refused : ClaimCommit s now none s
  | expired (record : StoredPairingSession) (t : ℤ)
      (hrecord : (adapter options).stored s record.pairingSessionId = some record)
      (hpending : record.state = .pending) (hnow : now = some t) (hdue : record.expiresAtMs ≤ t) :
      ClaimCommit s now none
        { s with
          pairingSessions := s.pairingSessions.set record.pairingSessionId
            { record with state := .expired } }
  | claimed (record : StoredPairingSession) (t : ℤ) (row : DeviceRow)
      (hrecord : (adapter options).stored s record.pairingSessionId = some record)
      (hpending : record.state = .pending) (hnow : now = some t)
      (hfrom : record.createdAtMs ≤ t) (huntil : t < record.expiresAtMs)
      (hnew : s.devices.get? row.deviceId = none) :
      ClaimCommit s now (some ((record.claimBy t row.deviceId).toSession, toSnapshot row))
        { s with
          devices := s.devices.set row.deviceId row
          pairingSessions := s.pairingSessions.set record.pairingSessionId
            (record.claimBy t row.deviceId) }

theorem claimInTransaction_ok {s s' : Database} (hs : (adapter options).RecordsValid s)
    {now : JsDate} {source : DeviceSource} {input : ClaimPairingInput} {digest : HexDigest}
    {result : Option (PairingSession × Schemas.Device)}
    (h : exec (claimInTransaction now source input digest) s = (.ok result, s')) :
    ClaimCommit options s now result s' := by
  unfold claimInTransaction at h
  obtain ⟨t, ht, h⟩ := exec_lift_bind_ok h
  have hnow : now = some t := orThrow_ok ht
  rw [exec_byDigest_bind] at h
  cases hfound : (s.pairingSessions.values.find? (·.codeDigest = digest)).filter
      (·.state = .pending) with
  | none =>
    rw [hfound, exec_pure, Prod.mk.injEq] at h
    obtain ⟨hr, rfl⟩ := h
    cases hr
    exact .refused
  | some record =>
    rw [hfound] at h
    obtain ⟨hfind, hstate⟩ := Option.filter_eq_some_iff.mp hfound
    have hpending : record.state = .pending := of_decide_eq_true hstate
    obtain ⟨p, hp⟩ := (OrderedMap.mem_values_iff _ _).mp (List.mem_of_find?_eq_some hfind)
    obtain ⟨rfl, hvalid⟩ := hs p record hp
    dsimp only at h
    by_cases hdue : t ≥ record.expiresAtMs
    · rw [if_pos hdue] at h
      obtain ⟨n, s1, hupdate, h⟩ := exec_bind_ok h
      obtain ⟨-, rfl⟩ := updateRow_ok hupdate hp rfl
      rw [exec_pure, Prod.mk.injEq] at h
      obtain ⟨hr, rfl⟩ := h
      cases hr
      exact .expired record t hp hpending hnow hdue
    · rw [if_neg hdue] at h
      obtain ⟨hfrom, h⟩ := exec_failIf_bind_ok h
      obtain ⟨parsed, -, h⟩ := exec_lift_bind_ok h
      obtain ⟨device, s1, hcreate, h⟩ := exec_bind_ok h
      have houtcome := SqliteDeviceRepository.create_outcome source parsed s
      rw [hcreate] at houtcome
      cases houtcome with
      | created row hnew =>
        obtain ⟨n, s2, hupdate, h⟩ := exec_bind_ok h
        obtain ⟨-, rfl⟩ := updateRow_ok hupdate hp hstate
        obtain ⟨-, h⟩ := exec_failIf_bind_ok h
        obtain ⟨session, s3, hread, h⟩ := exec_bind_ok h
        have hclaimed : (record.claimBy t (toSnapshot row).deviceId).Valid :=
          hvalid.claimBy (by omega) (by omega) _
        obtain ⟨rfl, rfl⟩ := readBack_ok hread (OrderedMap.get?_set_self _ _ _) hclaimed
        rw [exec_pure, Prod.mk.injEq] at h
        obtain ⟨hr, rfl⟩ := h
        cases hr
        exact .claimed record t row hp hpending hnow (by omega) (by omega) hnew

theorem claim_returns {s : Database} (hs : (adapter options).RecordsValid s) (now : JsDate)
    (source : DeviceSource) (input : ClaimPairingRecordInput) :
    (adapter options).Returns s (.claim now source input) (fun r => .claimed r.1 r.2)
      (exec (claim now source input) s) := by
  unfold claim
  refine exec_bind_cases (fun e _ => .refused _ e) fun digest _ => ?_
  rw [exec_bind, exec_transaction]
  cases hbody : exec (claimInTransaction now source input.claim digest) s with
  | mk r s' =>
    cases r with
    | error e => exact .refused _ e
    | ok result =>
      cases claimInTransaction_ok options hs hbody with
      | refused => exact .refused _ _
      | expired record t hrecord hpending hnow hdue =>
        exact .claimExpired now source input record t _ hrecord hpending hnow hdue
          (set_replaces options s { record with state := .expired }) rfl
      | claimed record t row hrecord hpending hnow hfrom huntil hnew =>
        exact .claimed now source input record t row _ hrecord hpending hnow hfrom huntil hnew
          (fun _ => OrderedMap.get?_set _ _ _ _) rfl

/-- An update out of `pending` that was read back. -/
theorem left_ok {s s1 s' : Database} (hs : (adapter options).RecordsValid s) {id : String}
    {cancelledAt : JsDate} {record : StoredPairingSession} {state : PairingState} {changes : ℕ}
    {session : PairingSession} {message : String}
    (hrecord : s.pairingSessions.get? record.pairingSessionId = some record)
    (hpending : record.state = .pending) (hstate : state = .cancelled ∨ state = .expired)
    (hupdate : exec (updateRow record.pairingSessionId (fun _ => true)
      ({ · with state := state })) s = (.ok changes, s1))
    (hread : exec (readBack record.pairingSessionId message) s1 = (.ok session, s')) :
    (adapter options).Returns s (.cancel id cancelledAt) Reply.session (.ok session, s') := by
  have hleft : state ≠ .claimed := by
    rcases hstate with rfl | rfl <;> decide
  have hvalid := (hs _ _ hrecord).2.leave hpending hleft
  obtain ⟨-, rfl⟩ := updateRow_ok hupdate hrecord rfl
  obtain ⟨rfl, rfl⟩ := readBack_ok hread (OrderedMap.get?_set_self _ _ _) hvalid
  exact .left id cancelledAt record state _ hrecord hpending hstate
    (set_replaces options s { record with state := state }) rfl

theorem cancel_returns {s : Database} (hs : (adapter options).RecordsValid s) (id : String)
    (cancelledAt : JsDate) :
    (adapter options).Returns s (.cancel id cancelledAt) Reply.session
      (exec (cancel id cancelledAt) s) := by
  unfold cancel
  refine exec_bind_cases (fun e _ => .refused _ e) fun parsedId _ => ?_
  refine exec_bind_cases (fun e _ => .refused _ e) fun t _ => ?_
  refine exec_transaction_cases (fun e _ _ => .refused _ e) fun session s' h => ?_
  rw [exec_byId_bind] at h
  cases hr : s.pairingSessions.get? parsedId with
  | none => simp [hr] at h
  | some record =>
    obtain ⟨rfl, -⟩ := hs parsedId record hr
    rw [hr] at h
    dsimp only at h
    by_cases hdue : record.state = .pending ∧ t ≥ record.expiresAtMs
    · rw [if_pos hdue] at h
      obtain ⟨_, s1, hupdate, hread⟩ := exec_bind_ok h
      exact left_ok options hs hr hdue.1 (.inr rfl) hupdate hread
    · rw [if_neg hdue] at h
      obtain ⟨hpending, h⟩ := exec_failIf_bind_ok h
      obtain ⟨-, h⟩ := exec_failIf_bind_ok h
      obtain ⟨_, s1, hupdate, hread⟩ := exec_bind_ok h
      exact left_ok options hs hr (not_not.mp hpending) (.inl rfl) hupdate hread

theorem expire_returns (s : Database) (expiredAt : JsDate) :
    (adapter options).Returns s (.expire expiredAt) Reply.count (exec (expire expiredAt) s) := by
  unfold expire
  refine exec_bind_cases (fun e _ => .refused _ e) fun t _ => ?_
  exact .expired expiredAt t _ _ (fun p => OrderedMap.get?_mapValues _ _ p) rfl

theorem pruneExpired_returns (s : Database) (expiredAt : JsDate) :
    (adapter options).Returns s (.pruneExpired expiredAt) Reply.count
      (exec (pruneExpired options expiredAt) s) := by
  unfold pruneExpired
  refine exec_bind_cases (fun e _ => .refused _ e) fun t _ => ?_
  obtain ⟨n, s', hprune, hshrinks⟩ := prune_shrinks options t s
  rw [exec_transaction, hprune]
  exact .pruned expiredAt n s' hshrinks

theorem createDevice_returns (s : Database) (source : DeviceSource) (input : CreateDeviceInput) :
    (adapter options).Returns s (.createDevice source input) Reply.device
      (exec (SqliteDeviceRepository.createInTransaction source input) s) := by
  have hcreate := SqliteDeviceRepository.create_outcome source input s
  generalize exec (SqliteDeviceRepository.createInTransaction source input) s = out at hcreate ⊢
  cases hcreate with
  | thrown e => exact .refused _ e
  | created row hnew => exact .deviceCreated source input row _ hnew (fun _ => rfl) rfl

theorem contract : (adapter options).Contract := by
  intro s c hs
  cases c with
  | create input => exact create_returns options s input
  | getById id => exact getById_returns options hs id
  | claim now source input => exact claim_returns options hs now source input
  | cancel id cancelledAt => exact cancel_returns options hs id cancelledAt
  | expire expiredAt => exact expire_returns options s expiredAt
  | pruneExpired expiredAt => exact pruneExpired_returns options s expiredAt
  | createDevice source input => exact createDevice_returns options s source input

end SqlitePairingSessionRepository

/-- Both repositories obey the laws of pairing sessions over every history of calls: the in-memory
one from its construction with any devices, the SQLite one from every database without sessions. -/
theorem repositories_pairingLaws (options : PairingRepositoryOptions) :
    (∀ devices, PairingLaws (InMemoryPairingSessionRepository.adapter options)
      { pairings := InMemoryPairingSessionRepository.new, devices := devices }) ∧
    ∀ db : Database, PairingLaws (SqlitePairingSessionRepository.adapter options)
      { db with pairingSessions := OrderedMap.empty } :=
  ⟨fun _ => (InMemoryPairingSessionRepository.contract options).pairingLaws fun _ => rfl,
    fun _ => (SqlitePairingSessionRepository.contract options).pairingLaws fun _ => rfl⟩

end Doctmcp.Pairing
