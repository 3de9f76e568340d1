import Mathlib.Tactic.NormNum
import Mathlib.Tactic.SplitIfs
import Doctmcp.Lib.Simulation
import Doctmcp.Credential.Conformance

/-! # The checks of the credential repositories

Both adapters run the same checks in the same order (`issueChecks`, `rotateChecks`,
`revokeChecks`), each on its own store. Where the stores hold the same generations (`Agree`), both
are the same function of the checks: they fail with the same error, or write the same record. -/

namespace Doctmcp.Credential
open Doctmcp.Lib Doctmcp.Lib.Operation Doctmcp.Schemas Doctmcp.Storage Doctmcp.Device
set_option autoImplicit false

/-- The repositories hold the same generations and the same used ids; every generation is valid,
kept under its device and under a used id of its own. -/
structure Agree (s : InMemoryDeviceCredentialRepository) (db : Database) : Prop where
  stored : ∀ d, db.deviceCredentials.get? d = s.byDeviceId.get? d
  used : ∀ id, id ∈ db.usedDeviceCredentialIds.keys ↔ id ∈ s.usedCredentialIds
  valid : InMemoryDeviceCredentialRepository.adapter.RecordsValid s
  owned : ∀ d r, s.byDeviceId.get? d = some r → r.credentialId ∈ s.usedCredentialIds
  distinct : ∀ d d' r r', s.byDeviceId.get? d = some r → s.byDeviceId.get? d' = some r' →
    r.credentialId = r'.credentialId → d = d'
  known : ∀ d r, s.byDeviceId.get? d = some r → db.devices.has d = true

/-! ## The checks of a call -/

section Checks
variable (s : InMemoryDeviceCredentialRepository)

/-- The checks of `issue` up to the schema, and the record it would install. -/
def issueChecks (input : IssueInput) : Except JsError StoredCredential := do
  let deviceId ← parseDeviceId input.deviceId
  let credentialId ← parseCredentialId input.credentialId
  let secretDigest ← parseDigest input.secretDigest
  let createdAtMs ← readTime input.createdAt
  if InMemoryDeviceCredentialRepository.isActive (s.byDeviceId.get? deviceId) then
    .error (.DeviceCredentialError .CREDENTIAL_ALREADY_EXISTS "Device đã có credential active.")
  else if credentialId ∈ s.usedCredentialIds then
    .error (.DeviceCredentialError .CREDENTIAL_ID_CONFLICT "credentialId đã được sử dụng.")
  else .ok { credentialId, deviceId,
             version := ((s.byDeviceId.get? deviceId).map (·.version)).getD 0 + 1, secretDigest,
             createdAtMs, state := .active, revokedAtMs := none }

/-- The checks of `rotate` up to the schema, and the record it would install. -/
def rotateChecks (input : RotateInput) : Except JsError StoredCredential := do
  let deviceId ← parseDeviceId input.deviceId
  let expectedCredentialId ← parseCredentialId input.expectedCredentialId
  let expectedVersion ← parseVersion input.expectedVersion
  let credentialId ← parseCredentialId input.credentialId
  let secretDigest ← parseDigest input.secretDigest
  let rotatedAtMs ← readTime input.rotatedAt
  match InMemoryDeviceCredentialRepository.expectedActive (s.byDeviceId.get? deviceId)
      expectedCredentialId expectedVersion with
  | none => .error (.DeviceCredentialError .CREDENTIAL_UNAVAILABLE "Credential không khả dụng.")
  | some current =>
    if credentialId ∈ s.usedCredentialIds then
      .error (.DeviceCredentialError .CREDENTIAL_ID_CONFLICT "credentialId đã được sử dụng.")
    else if rotatedAtMs < current.createdAtMs then
      .error (.DeviceCredentialError .INVALID_CLOCK "rotatedAt không được trước createdAt.")
    else .ok { credentialId, deviceId, version := current.version + 1, secretDigest,
               createdAtMs := rotatedAtMs, state := .active, revokedAtMs := none }

/-- The checks of `revoke`, and the record it leaves. -/
def revokeChecks (input : RevokeInput) : Except JsError (Option StoredCredential) := do
  let deviceId ← parseDeviceId input.deviceId
  let expectedCredentialId ← parseCredentialId input.expectedCredentialId
  let expectedVersion ← parseVersion input.expectedVersion
  let revokedAtMs ← readTime input.revokedAt
  match InMemoryDeviceCredentialRepository.expectedActive (s.byDeviceId.get? deviceId)
      expectedCredentialId expectedVersion with
  | none => .ok none
  | some current =>
    if revokedAtMs < current.createdAtMs then
      .error (.DeviceCredentialError .INVALID_CLOCK "revokedAt không được trước createdAt.")
    else .ok (some (current.revoke revokedAtMs))

/-- The generation that a call has passed every check to install, but the schema's. -/
def installing : Call → Option StoredCredential
  | .issue input => (issueChecks s input).toOption
  | .rotate input => (rotateChecks s input).toOption
  | _ => none

end Checks

/-! ## The in-memory adapter in terms of the checks -/

namespace InMemoryDeviceCredentialRepository
variable (s : InMemoryDeviceCredentialRepository)

/-- The store with a new generation. -/
def install (record : StoredCredential) : InMemoryDeviceCredentialRepository where
  byDeviceId := s.byDeviceId.set record.deviceId record
  usedCredentialIds := record.credentialId :: s.usedCredentialIds

/-- The end of `issue` and of `rotate`. -/
def finish (checks : Except JsError StoredCredential) :
    Except JsError DeviceCredential × InMemoryDeviceCredentialRepository :=
  match checks with
  | .error e => (.error e, s)
  | .ok record =>
    match snapshot record with
    | .error e => (.error e, s)
    | .ok credential => (.ok credential, s.install record)

theorem exec_finish (record : StoredCredential) :
    exec ((liftM (snapshot record) : Operation InMemoryDeviceCredentialRepository JsError _) >>=
      fun result => do
        set (s.install record)
        return result) s = s.finish (.ok record) := by
  rw [exec_bind, exec_lift]
  unfold finish
  cases hsnapshot : snapshot record with
  | error e => simp [hsnapshot]
  | ok credential => simp [hsnapshot, exec_map, Except.map]

theorem exec_issue (input : IssueInput) : exec (issue input) s = s.finish (issueChecks s input) := by
  unfold issue issueChecks
  cases parseDeviceId input.deviceId with
  | error e => rfl
  | ok d =>
  cases parseCredentialId input.credentialId with
  | error e => rfl
  | ok id =>
  cases parseDigest input.secretDigest with
  | error e => rfl
  | ok digest =>
  cases readTime input.createdAt with
  | error e => rfl
  | ok t =>
  unfold requireUnusedCredentialId
  rw [exec_lift_bind_eq rfl, exec_lift_bind_eq rfl, exec_lift_bind_eq rfl, exec_lift_bind_eq rfl,
    exec_get_bind]
  show _ = s.finish (if _ then _ else if _ then _ else _)
  split_ifs with hactive hused
  · simp [exec_bind, hactive, finish]
  · simp [exec_bind, hactive, hused, finish]
  · rw [exec_bind, exec_failIf, if_neg hactive]
    dsimp only
    rw [exec_bind, exec_get_bind, exec_failIf, if_neg hused]
    exact s.exec_finish _

theorem exec_rotate (input : RotateInput) :
    exec (rotate input) s = s.finish (rotateChecks s input) := by
  unfold rotate rotateChecks
  cases parseDeviceId input.deviceId with
  | error e => rfl
  | ok d =>
  cases parseCredentialId input.expectedCredentialId with
  | error e => rfl
  | ok expectedId =>
  cases parseVersion input.expectedVersion with
  | error e => rfl
  | ok expectedVersion =>
  cases parseCredentialId input.credentialId with
  | error e => rfl
  | ok id =>
  cases parseDigest input.secretDigest with
  | error e => rfl
  | ok digest =>
  cases readTime input.rotatedAt with
  | error e => rfl
  | ok t =>
  unfold requireUnusedCredentialId
  rw [exec_lift_bind_eq rfl, exec_lift_bind_eq rfl, exec_lift_bind_eq rfl, exec_lift_bind_eq rfl,
    exec_lift_bind_eq rfl, exec_lift_bind_eq rfl, exec_get_bind]
  show _ = s.finish (match expectedActive (s.byDeviceId.get? d) expectedId expectedVersion with
    | none => _
    | some current => if id ∈ s.usedCredentialIds then _
      else if t < current.createdAtMs then _ else _)
  cases expectedActive (s.byDeviceId.get? d) expectedId expectedVersion with
  | none => rfl
  | some current =>
    dsimp only
    split_ifs with hused hclock
    · simp [exec_bind, hused, finish]
    · simp [exec_bind, hused, hclock, finish]
    · rw [exec_bind, exec_get_bind, exec_failIf, if_neg hused]
      dsimp only
      rw [exec_bind, exec_failIf, if_neg hclock]
      exact s.exec_finish _

/-- The end of `revoke`. -/
def leave (checks : Except JsError (Option StoredCredential)) :
    Except JsError (Option DeviceCredential) × InMemoryDeviceCredentialRepository :=
  match checks with
  | .error e => (.error e, s)
  | .ok none => (.ok none, s)
  | .ok (some record) => (.ok (some record.toCredential),
      { s with byDeviceId := s.byDeviceId.set record.deviceId record })

/-- `revoke` in terms of its checks, over valid records. -/
theorem exec_revoke (hs : adapter.RecordsValid s) (input : RevokeInput) :
    exec (revoke input) s = s.leave (revokeChecks s input) := by
  unfold revoke revokeChecks
  cases parseDeviceId input.deviceId with
  | error e => rfl
  | ok d =>
  cases parseCredentialId input.expectedCredentialId with
  | error e => rfl
  | ok expectedId =>
  cases parseVersion input.expectedVersion with
  | error e => rfl
  | ok expectedVersion =>
  cases readTime input.revokedAt with
  | error e => rfl
  | ok t =>
  rw [exec_lift_bind_eq rfl, exec_lift_bind_eq rfl, exec_lift_bind_eq rfl, exec_lift_bind_eq rfl,
    exec_get_bind]
  show _ = s.leave (match expectedActive (s.byDeviceId.get? d) expectedId expectedVersion with
    | none => _
    | some current => if t < current.createdAtMs then _ else _)
  cases hexpected : expectedActive (s.byDeviceId.get? d) expectedId expectedVersion with
  | none => rfl
  | some current =>
    obtain ⟨hstored, -⟩ := expectedActive_some hexpected
    obtain ⟨rfl, hvalid⟩ := hs d current hstored
    dsimp only
    by_cases hclock : t < current.createdAtMs
    · rw [exec_bind, exec_failIf, if_pos hclock, if_pos hclock]
      rfl
    · rw [exec_bind, exec_failIf, if_neg hclock, if_neg hclock]
      dsimp only
      rw [exec_set_bind, snapshot_valid (current.valid_revoke hvalid hclock)]
      rfl

end InMemoryDeviceCredentialRepository

/-! ## The SQLite adapter in terms of the checks -/

namespace SqliteDeviceCredentialRepository
variable (db : Database)

/-- The database with a new generation. -/
def install (record : StoredCredential) : Database :=
  { db with
    deviceCredentials := db.deviceCredentials.set record.deviceId record
    usedDeviceCredentialIds := db.usedDeviceCredentialIds.set record.credentialId record.deviceId }

/-- The end of `issue` and of `rotate`. -/
def finish (checks : Except JsError StoredCredential) : Except JsError DeviceCredential × Database :=
  match checks with
  | .error e => (.error e, db)
  | .ok record =>
    match snapshot record with
    | .error e => (.error e, db)
    | .ok credential => (.ok credential, install db record)

/-- The end of `revoke`. -/
def leave (checks : Except JsError (Option StoredCredential)) :
    Except JsError (Option DeviceCredential) × Database :=
  match checks with
  | .error e => (.error e, db)
  | .ok none => (.ok none, db)
  | .ok (some record) => (.ok (some record.toCredential),
      { db with deviceCredentials := db.deviceCredentials.set record.deviceId record })

variable {db}

theorem exec_requireDevice {table : String} {d : DeviceId} (h : db.devices.has d = true) :
    exec (requireDevice table d) db = (.ok (), db) := by
  unfold requireDevice
  rw [exec_get_bind, exec_failIf, h]
  rfl

theorem exec_insertUsed {id : CredentialId} {d : DeviceId}
    (hid : db.usedDeviceCredentialIds.has id = false) (hdevice : db.devices.has d = true) :
    exec (insertUsed id d) db =
      (.ok ⟨⟩, { db with usedDeviceCredentialIds := db.usedDeviceCredentialIds.set id d }) := by
  unfold insertUsed
  rw [exec_get_bind, exec_bind, exec_failIf, if_neg (by rw [hid]; decide)]
  dsimp only
  rw [exec_bind, exec_requireDevice hdevice]
  rfl

theorem exec_writeRow {row : CredentialRow} (hcheck : rowCheck row)
    (htaken : ¬ credentialIdTaken db row) (hdevice : db.devices.has row.deviceId = true) :
    exec (writeRow row) db =
      (.ok ⟨⟩, { db with deviceCredentials := db.deviceCredentials.set row.deviceId row }) := by
  unfold writeRow
  rw [exec_get_bind, exec_bind, exec_failIf, if_neg (not_not.mpr hcheck)]
  dsimp only
  rw [exec_bind, exec_failIf, if_neg htaken]
  dsimp only
  rw [exec_bind, exec_requireDevice hdevice]
  rfl

theorem exec_readBack {d : DeviceId} {row : CredentialRow} (message : String)
    (hrow : db.deviceCredentials.get? d = some row) :
    exec (readBack d message) db = (snapshot row, db) := by
  unfold readBack
  rw [exec_select_bind, hrow, exec_lift_bind_eq (orThrow_some _ _)]
  rfl

theorem exec_updateActive (db : Database) (assign : CredentialRow → CredentialRow) {d : DeviceId}
    {id : CredentialId} {v : ℕ} {row : CredentialRow} {db' : Database}
    (hrow : InMemoryDeviceCredentialRepository.expectedActive (db.deviceCredentials.get? d) id v =
      some row) (hwrite : exec (writeRow (assign row)) db = (.ok ⟨⟩, db')) :
    exec (updateActive d id v assign) db = (.ok 1, db') := by
  unfold updateActive
  rw [exec_get_bind, hrow]
  dsimp only
  rw [exec_bind, hwrite]
  rfl

variable {s : InMemoryDeviceCredentialRepository}

theorem has_used (h : Agree s db) (id : CredentialId) :
    db.usedDeviceCredentialIds.has id = true ↔ id ∈ s.usedCredentialIds := by
  rw [← OrderedMap.mem_keys_iff]
  exact h.used id

/-- An id that no generation has used is on no row. -/
theorem not_taken (h : Agree s db) {row : CredentialRow}
    (hid : row.credentialId ∉ s.usedCredentialIds) : ¬ credentialIdTaken db row := by
  rintro ⟨other, hother, -, heq⟩
  obtain ⟨d, hd⟩ := (OrderedMap.mem_values_iff _ _).mp hother
  rw [h.stored] at hd
  exact hid (heq ▸ h.owned d other hd)

/-- Once its id is marked as used, a new generation is written and read back. -/
theorem exec_writeRow_new (h : Agree s db) (record : StoredCredential)
    (hactive : record.state = .active) (hrevoked : record.revokedAtMs = none)
    (hversion : 0 < record.version) (hid : record.credentialId ∉ s.usedCredentialIds)
    (hdevice : db.devices.has record.deviceId = true) :
    exec (writeRow record) { db with
        usedDeviceCredentialIds := db.usedDeviceCredentialIds.set record.credentialId
          record.deviceId } = (.ok ⟨⟩, install db record) :=
  exec_writeRow ⟨hversion, record.secretDigest.length_value, .inl ⟨hactive, hrevoked⟩⟩
    (not_taken h hid) hdevice

theorem exec_readBack_new (record : StoredCredential) (message : String) :
    exec (readBack record.deviceId message) (install db record) =
      (snapshot record, install db record) :=
  exec_readBack message (OrderedMap.get?_set_self _ _ _)

theorem one_change : ¬ (1 : ℕ) ≠ 1 := fun hne => hne rfl

theorem exec_requireUnused_bind {β : Type} (h : Agree s db) (id : CredentialId)
    (f : Unit → Operation Database JsError β) :
    exec (requireUnused id >>= f) db = if id ∈ s.usedCredentialIds then
      (.error (.DeviceCredentialError .CREDENTIAL_ID_CONFLICT "credentialId đã được sử dụng."), db)
    else exec (f ()) db := by
  unfold requireUnused
  rw [bind_assoc, exec_get_bind, exec_bind, exec_failIf]
  by_cases hused : id ∈ s.usedCredentialIds
  · rw [if_pos ((has_used h id).mpr hused), if_pos hused]
  · rw [if_neg (fun hhas => hused ((has_used h id).mp hhas)), if_neg hused]

theorem exec_issue (h : Agree s db) (input : IssueInput)
    (hdevice : ∀ d, deviceIdSchema input.deviceId = some d → db.devices.has d = true) :
    exec (issue input) db = finish db (issueChecks s input) := by
  unfold issue issueChecks
  cases hd : Credential.parseDeviceId input.deviceId with
  | error e => rfl
  | ok d =>
  cases parseCredentialId input.credentialId with
  | error e => rfl
  | ok id =>
  cases parseDigest input.secretDigest with
  | error e => rfl
  | ok digest =>
  cases readTime input.createdAt with
  | error e => rfl
  | ok t =>
  have hknown := hdevice d (orThrow_ok hd)
  rw [exec_lift_bind_eq rfl, exec_lift_bind_eq rfl, exec_lift_bind_eq rfl, exec_lift_bind_eq rfl,
    exec_transaction, exec_select_bind, h.stored]
  show _ = finish db (if _ then _ else if _ then _ else _)
  split_ifs with hactive hused
  · simp [exec_bind, hactive, finish]
  · rw [exec_bind, exec_failIf, if_neg hactive]
    dsimp only
    rw [exec_requireUnused_bind h, if_pos hused]
    rfl
  · have hfree : db.usedDeviceCredentialIds.has id = false :=
      Bool.eq_false_iff.mpr fun hhas => hused ((has_used h id).mp hhas)
    rw [exec_bind, exec_failIf, if_neg hactive]
    dsimp only
    rw [exec_requireUnused_bind h, if_neg hused, exec_bind, exec_insertUsed hfree hknown]
    dsimp only
    have hwrite := exec_writeRow_new h ⟨id, d, ((s.byDeviceId.get? d).map (·.version)).getD 0 + 1,
      digest, t, .active, none⟩ rfl rfl (Nat.succ_pos _) hused hknown
    rw [exec_bind, hwrite]
    dsimp only
    rw [exec_readBack_new ⟨id, d, _, digest, t, .active, none⟩]
    unfold finish
    dsimp only
    cases snapshot _ <;> rfl

theorem exec_rotate (h : Agree s db) (input : RotateInput) :
    exec (rotate input) db = finish db (rotateChecks s input) := by
  unfold rotate rotateChecks
  cases Credential.parseDeviceId input.deviceId with
  | error e => rfl
  | ok d =>
  cases parseCredentialId input.expectedCredentialId with
  | error e => rfl
  | ok expectedId =>
  cases parseVersion input.expectedVersion with
  | error e => rfl
  | ok expectedVersion =>
  cases parseCredentialId input.credentialId with
  | error e => rfl
  | ok id =>
  cases parseDigest input.secretDigest with
  | error e => rfl
  | ok digest =>
  cases readTime input.rotatedAt with
  | error e => rfl
  | ok t =>
  rw [exec_lift_bind_eq rfl, exec_lift_bind_eq rfl, exec_lift_bind_eq rfl, exec_lift_bind_eq rfl,
    exec_lift_bind_eq rfl, exec_lift_bind_eq rfl, exec_transaction, exec_select_bind, h.stored]
  show _ = finish db (match InMemoryDeviceCredentialRepository.expectedActive
      (s.byDeviceId.get? d) expectedId expectedVersion with
    | none => _
    | some current => if id ∈ s.usedCredentialIds then _
      else if t < current.createdAtMs then _ else _)
  cases hexpected : InMemoryDeviceCredentialRepository.expectedActive
      (s.byDeviceId.get? d) expectedId expectedVersion with
  | none => rfl
  | some current =>
    obtain ⟨hstored, -⟩ := expectedActive_some hexpected
    have hknown := h.known d current hstored
    obtain ⟨rfl, -⟩ := h.valid d current hstored
    dsimp only
    rw [exec_requireUnused_bind h]
    split_ifs with hused hclock
    · rfl
    · rw [exec_bind, exec_failIf, if_pos hclock]
      rfl
    · have hfree : db.usedDeviceCredentialIds.has id = false :=
        Bool.eq_false_iff.mpr fun hhas => hused ((has_used h id).mp hhas)
      rw [exec_bind, exec_failIf, if_neg hclock]
      dsimp only
      rw [exec_bind, exec_insertUsed hfree hknown]
      dsimp only
      have hwrite := exec_writeRow_new h ⟨id, current.deviceId, current.version + 1, digest, t,
        .active, none⟩ rfl rfl (Nat.succ_pos _) hused hknown
      rw [← h.stored] at hexpected
      have hupdate := exec_updateActive { db with
        usedDeviceCredentialIds := db.usedDeviceCredentialIds.set id current.deviceId }
        (fun row => { row with
        credentialId := id, version := current.version + 1, secretDigest := digest,
        createdAtMs := t, state := .active, revokedAtMs := none }) hexpected hwrite
      rw [exec_bind, hupdate]
      dsimp only
      rw [exec_bind, exec_failIf, if_neg one_change]
      dsimp only
      rw [exec_readBack_new ⟨id, current.deviceId, _, digest, t, .active, none⟩]
      unfold finish
      dsimp only
      cases snapshot _ <;> rfl

theorem exec_revoke (h : Agree s db) (input : RevokeInput) :
    exec (revoke input) db = leave db (revokeChecks s input) := by
  unfold revoke revokeChecks
  cases Credential.parseDeviceId input.deviceId with
  | error e => rfl
  | ok d =>
  cases parseCredentialId input.expectedCredentialId with
  | error e => rfl
  | ok expectedId =>
  cases parseVersion input.expectedVersion with
  | error e => rfl
  | ok expectedVersion =>
  cases readTime input.revokedAt with
  | error e => rfl
  | ok t =>
  rw [exec_lift_bind_eq rfl, exec_lift_bind_eq rfl, exec_lift_bind_eq rfl, exec_lift_bind_eq rfl,
    exec_transaction, exec_select_bind, h.stored]
  show _ = leave db (match InMemoryDeviceCredentialRepository.expectedActive
      (s.byDeviceId.get? d) expectedId expectedVersion with
    | none => _
    | some current => if t < current.createdAtMs then _ else _)
  cases hexpected : InMemoryDeviceCredentialRepository.expectedActive
      (s.byDeviceId.get? d) expectedId expectedVersion with
  | none => rfl
  | some current =>
    obtain ⟨hstored, -⟩ := expectedActive_some hexpected
    have hknown := h.known d current hstored
    obtain ⟨rfl, hvalid⟩ := h.valid d current hstored
    dsimp only
    split_ifs with hclock
    · rw [exec_bind, exec_failIf, if_pos hclock]
      rfl
    · have hrevoked := current.valid_revoke hvalid hclock
      have htaken : ¬ credentialIdTaken db (current.revoke t) := by
        rintro ⟨other, hother, hne, heq⟩
        obtain ⟨d, hd⟩ := (OrderedMap.mem_values_iff _ _).mp hother
        rw [h.stored] at hd
        have hsame := h.distinct d current.deviceId other current hd hstored heq
        exact hne ((h.valid d other hd).1.trans hsame)
      have hcheck : rowCheck (current.revoke t) :=
        ⟨((StoredCredential.valid_iff _).mp hvalid).1.1, current.secretDigest.length_value,
          .inr ⟨rfl, fun revokedAt hat => by
            obtain rfl := Option.some.inj hat
            exact Int.not_lt.mp hclock⟩⟩
      have hwrite := exec_writeRow hcheck htaken hknown
      rw [← h.stored] at hexpected
      rw [exec_bind, exec_failIf, if_neg hclock]
      dsimp only
      rw [exec_bind, exec_updateActive db (·.revoke t) hexpected hwrite]
      dsimp only
      rw [if_neg one_change, exec_bind, exec_readBack _ (OrderedMap.get?_set_self _ _ _),
        snapshot_valid hrevoked]
      rfl

end SqliteDeviceCredentialRepository

end Doctmcp.Credential
