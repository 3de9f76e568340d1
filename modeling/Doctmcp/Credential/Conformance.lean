import Doctmcp.Credential.Generations
import Doctmcp.Credential.Sqlite

/-! # The credential repositories meet the contract

Both adapters, call by call: a rejected call leaves the store as it was, an accepted one installs
or revokes one generation. The invariant both need is that a stored record is valid and is kept
under its own device id; it makes every snapshot of a stored record succeed. -/

namespace Doctmcp.Credential
open Doctmcp.Lib Doctmcp.Lib.Operation Doctmcp.Schemas Doctmcp.Storage Doctmcp.Device
set_option autoImplicit false

theorem expectedActive_some {record : Option StoredCredential} {id : CredentialId} {v : ℕ}
    {r : StoredCredential}
    (h : InMemoryDeviceCredentialRepository.expectedActive record id v = some r) :
    record = some r ∧ r.state = .active ∧ r.credentialId = id ∧ r.version = v := by
  unfold InMemoryDeviceCredentialRepository.expectedActive at h
  obtain ⟨hr, hp⟩ := Option.filter_eq_some_iff.mp h
  exact ⟨hr, of_decide_eq_true hp⟩

theorem parseVersion_ok {value : JsNumber} {v : ℕ} (h : parseVersion value = .ok v) :
    value = some (v : ℤ) := by
  have hv := orThrow_ok h
  cases value with
  | none => cases hv
  | some n =>
    by_cases hn : 0 < n
    · simp only [Option.filter, hn, decide_true, if_true, Option.map_some, Option.some.injEq] at hv
      rw [← hv, Int.toNat_of_nonneg (by omega)]
    · simp [Option.filter, hn] at hv

theorem digest_eq_iff (a b : HexDigest) : constantTimeEqualHex a.value b.value = true ↔ a = b := by
  rw [constantTimeEqualHex_iff, HexDigest.ext_iff]

/-! ## The in-memory adapter -/

namespace InMemoryDeviceCredentialRepository

/-- The repository and how to read it; it knows nothing of devices being created. -/
def adapter : Adapter InMemoryDeviceCredentialRepository where
  issue := issue
  getActive := getActive
  verify := verify
  revoke := revoke
  rotate := rotate
  deviceCreated _ s := s
  rows s := s.byDeviceId
  used s := s.usedCredentialIds

theorem isActive_none_iff (s : InMemoryDeviceCredentialRepository) (d : DeviceId) :
    ¬ isActive (s.byDeviceId.get? d) ↔ adapter.active s d = none := by
  rw [Adapter.active, Option.filter_eq_none_iff]
  simp [isActive, Adapter.stored, adapter]

theorem active_of_expected {s : InMemoryDeviceCredentialRepository} {d : DeviceId}
    {id : CredentialId} {v : ℕ} {r : StoredCredential}
    (h : expectedActive (s.byDeviceId.get? d) id v = some r) :
    adapter.active s d = some r ∧ r.credentialId = id ∧ r.version = v := by
  obtain ⟨hr, hstate, hid, hv⟩ := expectedActive_some h
  exact ⟨Adapter.active_eq_some.mpr ⟨hr, hstate⟩, hid, hv⟩

theorem installs {s : InMemoryDeviceCredentialRepository} {record : StoredCredential}
    (hactive : record.state = .active) (hvalid : record.Valid)
    (hversion : record.version = adapter.version s record.deviceId + 1)
    (hunused : record.credentialId ∉ s.usedCredentialIds) :
    adapter.Installs s record
      { byDeviceId := s.byDeviceId.set record.deviceId record,
        usedCredentialIds := record.credentialId :: s.usedCredentialIds } where
  isActive := hactive
  valid := hvalid
  version := hversion
  unused := hunused
  stored _ := OrderedMap.get?_set _ _ _ _
  used _ := List.mem_cons

theorem requireUnused_cases {β : Type} {P : Except JsError β × InMemoryDeviceCredentialRepository → Prop}
    {id : CredentialId} {f : Unit → Operation InMemoryDeviceCredentialRepository JsError β}
    {s : InMemoryDeviceCredentialRepository} (herror : ∀ e, P (.error e, s))
    (hok : id ∉ s.usedCredentialIds → P (exec (f ()) s)) :
    P (exec (requireUnusedCredentialId id >>= f) s) := by
  unfold requireUnusedCredentialId
  rw [bind_assoc, exec_get_bind]
  exact exec_failIf_cases (fun _ => herror _) hok

theorem issue_returns (s : InMemoryDeviceCredentialRepository) (input : IssueInput) :
    adapter.Returns s (.issue input) Reply.credential (exec (issue input) s) := by
  unfold issue
  refine exec_bind_cases (fun e _ => .issueThrown input e) fun d hd => ?_
  refine exec_bind_cases (fun e _ => .issueThrown input e) fun cid hcid => ?_
  refine exec_bind_cases (fun e _ => .issueThrown input e) fun dg hdg => ?_
  refine exec_bind_cases (fun e _ => .issueThrown input e) fun t _ => ?_
  rw [exec_get_bind]
  refine exec_failIf_cases (fun _ => .issueThrown input _) fun hvacant => ?_
  refine requireUnused_cases (fun e => .issueThrown input e) fun hunused => ?_
  refine exec_bind_cases (fun e _ => .issueThrown input e) fun c hc => ?_
  obtain ⟨hvalid, rfl⟩ := snapshot_ok hc
  exact .issued input _ _ (orThrow_ok hd) (orThrow_ok hcid) (orThrow_ok hdg)
    ((isActive_none_iff s d).mp hvacant) (installs rfl hvalid rfl hunused)

theorem rotate_returns (s : InMemoryDeviceCredentialRepository) (input : RotateInput) :
    adapter.Returns s (.rotate input) Reply.credential (exec (rotate input) s) := by
  unfold rotate
  refine exec_bind_cases (fun e _ => .rotateThrown input e) fun d hd => ?_
  refine exec_bind_cases (fun e _ => .rotateThrown input e) fun eid heid => ?_
  refine exec_bind_cases (fun e _ => .rotateThrown input e) fun ev hev => ?_
  refine exec_bind_cases (fun e _ => .rotateThrown input e) fun cid hcid => ?_
  refine exec_bind_cases (fun e _ => .rotateThrown input e) fun dg hdg => ?_
  refine exec_bind_cases (fun e _ => .rotateThrown input e) fun t _ => ?_
  rw [exec_get_bind]
  cases hexpected : expectedActive (s.byDeviceId.get? d) eid ev with
  | none => exact .rotateThrown input _
  | some current =>
    obtain ⟨hactive, rfl, rfl⟩ := active_of_expected hexpected
    refine requireUnused_cases (fun e => .rotateThrown input e) fun hunused => ?_
    refine exec_failIf_cases (fun _ => .rotateThrown input _) fun _ => ?_
    refine exec_bind_cases (fun e _ => .rotateThrown input e) fun c hc => ?_
    obtain ⟨hvalid, rfl⟩ := snapshot_ok hc
    refine .rotated input current _ _ (orThrow_ok hd) (orThrow_ok heid) (parseVersion_ok hev)
      (orThrow_ok hcid) (orThrow_ok hdg) hactive (installs rfl hvalid ?_ hunused)
    rw [Adapter.version, (Adapter.active_eq_some.mp hactive).1]
    rfl

theorem revoke_returns {s : InMemoryDeviceCredentialRepository}
    (hs : adapter.RecordsValid s) (input : RevokeInput) :
    adapter.Returns s (.revoke input) Reply.lookup (exec (revoke input) s) := by
  unfold revoke
  refine exec_bind_cases (fun e _ => .revokeThrown input e) fun d hd => ?_
  refine exec_bind_cases (fun e _ => .revokeThrown input e) fun eid heid => ?_
  refine exec_bind_cases (fun e _ => .revokeThrown input e) fun ev hev => ?_
  refine exec_bind_cases (fun e _ => .revokeThrown input e) fun t _ => ?_
  rw [exec_get_bind]
  cases hexpected : expectedActive (s.byDeviceId.get? d) eid ev with
  | none => exact .revokeRefused input
  | some current =>
    obtain ⟨hactive, rfl, rfl⟩ := active_of_expected hexpected
    obtain ⟨hkey, hvalid⟩ := hs d current (Adapter.active_eq_some.mp hactive).1
    subst hkey
    refine exec_failIf_cases (fun _ => .revokeThrown input _) fun ht => ?_
    rw [exec_set_bind, snapshot_valid (current.valid_revoke hvalid ht)]
    exact .revoked input current t _ (orThrow_ok hd) (orThrow_ok heid) (parseVersion_ok hev)
      ⟨hactive, ht, fun _ => OrderedMap.get?_set _ _ _ _, fun _ => Iff.rfl⟩

theorem exec_getActive {s : InMemoryDeviceCredentialRepository} (hs : adapter.RecordsValid s)
    {deviceId : String} {d : DeviceId} (hd : parseDeviceId deviceId = .ok d) :
    exec (getActive deviceId) s =
      (.ok ((adapter.active s d).map StoredCredential.toCredential), s) := by
  unfold getActive
  rw [exec_lift_bind_eq hd, exec_get_bind]
  simp only [Adapter.active, Adapter.stored, adapter]
  cases hr : s.byDeviceId.get? d with
  | none => rfl
  | some r =>
    by_cases hstate : r.state = .active
    · simp [hstate, Option.filter, exec_map, Except.map, snapshot_valid (hs d r hr).2]
    · simp [hstate, Option.filter]

theorem exec_verify {s : InMemoryDeviceCredentialRepository} (hs : adapter.RecordsValid s)
    {deviceId secretDigest : String} {d : DeviceId} {digest : HexDigest}
    (hd : parseDeviceId deviceId = .ok d) (hdigest : parseDigest secretDigest = .ok digest) :
    exec (verify deviceId secretDigest) s =
      (.ok (((adapter.active s d).filter (·.secretDigest = digest)).map
        StoredCredential.toCredential), s) := by
  unfold verify
  rw [exec_lift_bind_eq hd, exec_lift_bind_eq hdigest, exec_get_bind]
  simp only [Adapter.active, Adapter.stored, adapter, digest_eq_iff]
  cases hr : s.byDeviceId.get? d with
  | none => rfl
  | some r =>
    by_cases hstate : r.state = .active
    · by_cases hequal : r.secretDigest = digest
      · simp [hstate, hequal, Option.filter, exec_map, Except.map, snapshot_valid (hs d r hr).2]
      · simp [hstate, hequal, Option.filter]
    · simp [hstate, Option.filter]

theorem getActive_returns {s : InMemoryDeviceCredentialRepository}
    (hs : adapter.RecordsValid s) (deviceId : String) :
    adapter.Returns s (.getActive deviceId) Reply.lookup (exec (getActive deviceId) s) := by
  cases hd : parseDeviceId deviceId with
  | ok d =>
    rw [exec_getActive hs hd]
    exact .getActiveFound deviceId d (orThrow_ok hd)
  | error e =>
    unfold getActive
    rw [hd]
    exact .getActiveThrown deviceId e (orThrow_error hd)

theorem verify_returns {s : InMemoryDeviceCredentialRepository}
    (hs : adapter.RecordsValid s) (deviceId secretDigest : String) :
    adapter.Returns s (.verify deviceId secretDigest) Reply.lookup
      (exec (verify deviceId secretDigest) s) := by
  cases hd : parseDeviceId deviceId with
  | error e =>
    unfold verify
    rw [hd]
    exact .verifyThrown deviceId secretDigest e (.inl (orThrow_error hd))
  | ok d =>
    cases hdigest : parseDigest secretDigest with
    | ok digest =>
      rw [exec_verify hs hd hdigest]
      exact .verified deviceId secretDigest d digest (orThrow_ok hd) (orThrow_ok hdigest)
    | error e =>
      unfold verify
      rw [hd, hdigest]
      exact .verifyThrown deviceId secretDigest e (.inr (orThrow_error hdigest))

theorem contract : adapter.Contract := by
  intro s c hs
  cases c with
  | issue input => exact issue_returns s input
  | getActive deviceId => exact getActive_returns hs deviceId
  | verify deviceId secretDigest => exact verify_returns hs deviceId secretDigest
  | revoke input => exact revoke_returns hs input
  | rotate input => exact rotate_returns s input
  | deviceCreated device => exact .deviceCreated device s (fun _ => rfl) (fun _ => Iff.rfl)

end InMemoryDeviceCredentialRepository

/-! ## The SQLite adapter -/

namespace SqliteDeviceCredentialRepository

/-- The columns of a device, as the device repository inserts them. -/
def deviceRow (device : Schemas.Device) : DeviceRow where
  deviceId := device.deviceId
  ownerId := device.ownerId
  deviceName := device.deviceName
  metadata := device.metadata
  createdAtMs := device.createdAt
  updatedAtMs := device.updatedAt

def adapter : Adapter Database where
  issue := issue
  getActive := getActive
  verify := verify
  revoke := revoke
  rotate := rotate
  deviceCreated device db := (exec (insertDevice (deviceRow device)) db).2
  rows db := db.deviceCredentials
  used db := db.usedDeviceCredentialIds.keys

/-! ### Statements that returned -/

theorem requireDevice_ok {table : String} {d : DeviceId} {s s' : Database} {u : Unit}
    (h : exec (requireDevice table d) s = (.ok u, s')) : s' = s :=
  (exec_failIf_ok h).2

theorem exec_select_bind {β : Type} (d : DeviceId)
    (f : Option CredentialRow → Operation Database JsError β) (s : Database) :
    exec (selectByDevice d >>= f) s = exec (f (s.deviceCredentials.get? d)) s := by
  rw [exec_bind]
  rfl

theorem requireUnused_bind_ok {β : Type} {id : CredentialId}
    {f : Unit → Operation Database JsError β} {s s'' : Database} {b : β}
    (h : exec (requireUnused id >>= f) s = (.ok b, s'')) :
    id ∉ s.usedDeviceCredentialIds.keys ∧ exec (f ()) s = (.ok b, s'') := by
  obtain ⟨u, s', hu, hf⟩ := exec_bind_ok h
  obtain ⟨hunused, rfl⟩ := exec_failIf_ok hu
  rw [← OrderedMap.mem_keys_iff] at hunused
  exact ⟨hunused, hf⟩

theorem insertUsed_ok {id : CredentialId} {d : DeviceId} {s s' : Database} {u : Unit}
    (h : exec (insertUsed id d) s = (.ok u, s')) :
    s' = { s with usedDeviceCredentialIds := s.usedDeviceCredentialIds.set id d } := by
  unfold insertUsed at h
  rw [exec_get_bind] at h
  obtain ⟨-, h⟩ := exec_failIf_bind_ok h
  obtain ⟨_, s1, h1, h⟩ := exec_bind_ok h
  rw [requireDevice_ok h1] at h
  exact (Prod.mk.inj h).2.symm

theorem writeRow_ok {row : CredentialRow} {s s' : Database} {u : Unit}
    (h : exec (writeRow row) s = (.ok u, s')) :
    s' = { s with deviceCredentials := s.deviceCredentials.set row.deviceId row } := by
  unfold writeRow at h
  rw [exec_get_bind] at h
  obtain ⟨-, h⟩ := exec_failIf_bind_ok h
  obtain ⟨-, h⟩ := exec_failIf_bind_ok h
  obtain ⟨_, s1, h1, h⟩ := exec_bind_ok h
  rw [requireDevice_ok h1] at h
  exact (Prod.mk.inj h).2.symm

theorem readBack_ok {d : DeviceId} {message : String} {s s' : Database} {c : DeviceCredential}
    (h : exec (readBack d message) s = (.ok c, s')) :
    s' = s ∧ ∃ row, s.deviceCredentials.get? d = some row ∧ row.Valid ∧ c = row.toCredential := by
  unfold readBack at h
  rw [exec_select_bind] at h
  obtain ⟨row, hrow, h⟩ := exec_lift_bind_ok h
  rw [exec_lift, Prod.mk.injEq] at h
  obtain ⟨hvalid, rfl⟩ := snapshot_ok h.1
  exact ⟨h.2.symm, row, orThrow_ok hrow, hvalid, rfl⟩

/-- An `UPDATE … AND state = 'active'` that finds its row changes that row. -/
theorem updateActive_ok {d : DeviceId} {id : CredentialId} {v : ℕ}
    {assign : CredentialRow → CredentialRow} {s s' : Database} {changes : ℕ}
    {row : CredentialRow}
    (h : exec (updateActive d id v assign) s = (.ok changes, s'))
    (hrow : InMemoryDeviceCredentialRepository.expectedActive (s.deviceCredentials.get? d) id v =
      some row) :
    changes = 1 ∧ s' = { s with
      deviceCredentials := s.deviceCredentials.set (assign row).deviceId (assign row) } := by
  unfold updateActive at h
  rw [exec_get_bind, hrow] at h
  obtain ⟨_, s1, h1, h⟩ := exec_bind_ok h
  rw [exec_pure, Prod.mk.injEq, writeRow_ok h1] at h
  exact ⟨(Except.ok.inj h.1).symm, h.2.symm⟩

/-! ### Calls -/

theorem installs {s : Database} {record : StoredCredential}
    (hactive : record.state = .active) (hvalid : record.Valid)
    (hversion : record.version = adapter.version s record.deviceId + 1)
    (hunused : record.credentialId ∉ s.usedDeviceCredentialIds.keys) :
    adapter.Installs s record
      { s with
        deviceCredentials := s.deviceCredentials.set record.deviceId record
        usedDeviceCredentialIds :=
          s.usedDeviceCredentialIds.set record.credentialId record.deviceId } where
  isActive := hactive
  valid := hvalid
  version := hversion
  unused := hunused
  stored _ := OrderedMap.get?_set _ _ _ _
  used _ := OrderedMap.mem_keys_set _ _ _ _

theorem active_of_expected {s : Database} {d : DeviceId} {id : CredentialId} {v : ℕ}
    {r : StoredCredential}
    (h : InMemoryDeviceCredentialRepository.expectedActive (s.deviceCredentials.get? d) id v =
      some r) : adapter.active s d = some r ∧ r.credentialId = id ∧ r.version = v := by
  obtain ⟨hr, hstate, hid, hv⟩ := expectedActive_some h
  exact ⟨Adapter.active_eq_some.mpr ⟨hr, hstate⟩, hid, hv⟩

theorem issue_returns (s : Database) (input : IssueInput) :
    adapter.Returns s (.issue input) Reply.credential (exec (issue input) s) := by
  unfold issue
  refine exec_bind_cases (fun e _ => .issueThrown input e) fun d hd => ?_
  refine exec_bind_cases (fun e _ => .issueThrown input e) fun cid hcid => ?_
  refine exec_bind_cases (fun e _ => .issueThrown input e) fun dg hdg => ?_
  refine exec_bind_cases (fun e _ => .issueThrown input e) fun t _ => ?_
  refine exec_transaction_cases (fun e _ _ => .issueThrown input e) fun c s' h => ?_
  rw [exec_select_bind] at h
  obtain ⟨hvacant, h⟩ := exec_failIf_bind_ok h
  obtain ⟨hunused, h⟩ := requireUnused_bind_ok h
  obtain ⟨_, s1, h1, h⟩ := exec_bind_ok h
  obtain ⟨_, s2, h2, h⟩ := exec_bind_ok h
  obtain ⟨rfl, row, hrow, hvalid, rfl⟩ := readBack_ok h
  rw [insertUsed_ok h1] at h2
  rw [writeRow_ok h2] at hrow ⊢
  obtain rfl := Option.some.inj ((OrderedMap.get?_set_self _ _ _).symm.trans hrow)
  refine .issued input _ _ (orThrow_ok hd) (orThrow_ok hcid) (orThrow_ok hdg) ?_
    (installs rfl hvalid rfl hunused)
  rw [Adapter.active, Option.filter_eq_none_iff]
  intro r hr hstate
  exact hvacant ⟨r, hr, of_decide_eq_true hstate⟩

theorem rotate_returns {s : Database} (hs : adapter.RecordsValid s) (input : RotateInput) :
    adapter.Returns s (.rotate input) Reply.credential (exec (rotate input) s) := by
  unfold rotate
  refine exec_bind_cases (fun e _ => .rotateThrown input e) fun d hd => ?_
  refine exec_bind_cases (fun e _ => .rotateThrown input e) fun eid heid => ?_
  refine exec_bind_cases (fun e _ => .rotateThrown input e) fun ev hev => ?_
  refine exec_bind_cases (fun e _ => .rotateThrown input e) fun cid hcid => ?_
  refine exec_bind_cases (fun e _ => .rotateThrown input e) fun dg hdg => ?_
  refine exec_bind_cases (fun e _ => .rotateThrown input e) fun t _ => ?_
  refine exec_transaction_cases (fun e _ _ => .rotateThrown input e) fun c s' h => ?_
  rw [exec_select_bind] at h
  cases hexpected : InMemoryDeviceCredentialRepository.expectedActive
      (s.deviceCredentials.get? d) eid ev with
  | none => simp [hexpected] at h
  | some current =>
    rw [hexpected] at h
    obtain ⟨hactive, rfl, rfl⟩ := active_of_expected hexpected
    obtain ⟨rfl, -⟩ := hs d current (Adapter.active_eq_some.mp hactive).1
    obtain ⟨hunused, h⟩ := requireUnused_bind_ok h
    obtain ⟨-, h⟩ := exec_failIf_bind_ok h
    obtain ⟨_, s1, h1, h⟩ := exec_bind_ok h
    obtain ⟨changes, s2, h2, h⟩ := exec_bind_ok h
    obtain ⟨-, h⟩ := exec_failIf_bind_ok h
    obtain ⟨rfl, row, hrow, hvalid, rfl⟩ := readBack_ok h
    rw [insertUsed_ok h1] at h2
    rw [(updateActive_ok h2 hexpected).2] at hrow ⊢
    obtain rfl := Option.some.inj ((OrderedMap.get?_set_self _ _ _).symm.trans hrow)
    refine .rotated input current _ _ (orThrow_ok hd) (orThrow_ok heid) (parseVersion_ok hev)
      (orThrow_ok hcid) (orThrow_ok hdg) hactive (installs rfl hvalid ?_ hunused)
    rw [Adapter.version, (Adapter.active_eq_some.mp hactive).1]
    rfl

theorem revoke_returns {s : Database} (hs : adapter.RecordsValid s) (input : RevokeInput) :
    adapter.Returns s (.revoke input) Reply.lookup (exec (revoke input) s) := by
  unfold revoke
  refine exec_bind_cases (fun e _ => .revokeThrown input e) fun d hd => ?_
  refine exec_bind_cases (fun e _ => .revokeThrown input e) fun eid heid => ?_
  refine exec_bind_cases (fun e _ => .revokeThrown input e) fun ev hev => ?_
  refine exec_bind_cases (fun e _ => .revokeThrown input e) fun t _ => ?_
  refine exec_transaction_cases (fun e _ _ => .revokeThrown input e) fun c s' h => ?_
  rw [exec_select_bind] at h
  cases hexpected : InMemoryDeviceCredentialRepository.expectedActive
      (s.deviceCredentials.get? d) eid ev with
  | none =>
    rw [hexpected, exec_pure, Prod.mk.injEq] at h
    obtain ⟨hc, rfl⟩ := h
    cases hc
    exact .revokeRefused input
  | some current =>
    rw [hexpected] at h
    obtain ⟨hactive, rfl, rfl⟩ := active_of_expected hexpected
    obtain ⟨rfl, -⟩ := hs d current (Adapter.active_eq_some.mp hactive).1
    obtain ⟨ht, h⟩ := exec_failIf_bind_ok h
    obtain ⟨changes, s1, h1, h⟩ := exec_bind_ok h
    obtain ⟨rfl, rfl⟩ := updateActive_ok h1 hexpected
    obtain ⟨credential, s2, h2, h⟩ := exec_bind_ok h
    obtain ⟨rfl, row, hrow, -, rfl⟩ := readBack_ok h2
    obtain rfl := Option.some.inj ((OrderedMap.get?_set_self _ _ _).symm.trans hrow)
    rw [exec_pure, Prod.mk.injEq] at h
    obtain ⟨hc, rfl⟩ := h
    cases hc
    exact .revoked input current t _ (orThrow_ok hd) (orThrow_ok heid) (parseVersion_ok hev)
      ⟨hactive, ht, fun _ => OrderedMap.get?_set _ _ _ _, fun _ => Iff.rfl⟩

theorem exec_getActive {s : Database} (hs : adapter.RecordsValid s)
    {deviceId : String} {d : DeviceId} (hd : parseDeviceId deviceId = .ok d) :
    exec (getActive deviceId) s =
      (.ok ((adapter.active s d).map StoredCredential.toCredential), s) := by
  unfold getActive
  rw [exec_lift_bind_eq hd, exec_select_bind]
  simp only [Adapter.active, Adapter.stored, adapter]
  cases hr : s.deviceCredentials.get? d with
  | none => rfl
  | some r =>
    by_cases hstate : r.state = .active
    · simp [hstate, Option.filter, exec_map, Except.map, snapshot_valid (hs d r hr).2]
    · simp [hstate, Option.filter]

theorem getActive_returns {s : Database} (hs : adapter.RecordsValid s) (deviceId : String) :
    adapter.Returns s (.getActive deviceId) Reply.lookup (exec (getActive deviceId) s) := by
  cases hd : parseDeviceId deviceId with
  | ok d =>
    rw [exec_getActive hs hd]
    exact .getActiveFound deviceId d (orThrow_ok hd)
  | error e =>
    unfold getActive
    rw [hd]
    exact .getActiveThrown deviceId e (orThrow_error hd)

theorem exec_verify {s : Database} (hs : adapter.RecordsValid s)
    {deviceId secretDigest : String} {d : DeviceId} {digest : HexDigest}
    (hd : parseDeviceId deviceId = .ok d) (hdigest : parseDigest secretDigest = .ok digest) :
    exec (verify deviceId secretDigest) s =
      (.ok (((adapter.active s d).filter (·.secretDigest = digest)).map
        StoredCredential.toCredential), s) := by
  unfold verify
  rw [exec_lift_bind_eq hd, exec_select_bind, exec_lift_bind_eq hdigest]
  simp only [Adapter.active, Adapter.stored, adapter, digest_eq_iff]
  cases hr : s.deviceCredentials.get? d with
  | none => rfl
  | some r =>
    by_cases hstate : r.state = .active
    · by_cases hequal : r.secretDigest = digest
      · simp [hstate, hequal, Option.filter, exec_map, Except.map, snapshot_valid (hs d r hr).2]
      · simp [hstate, hequal, Option.filter]
    · simp [hstate, Option.filter]

theorem verify_returns {s : Database} (hs : adapter.RecordsValid s)
    (deviceId secretDigest : String) :
    adapter.Returns s (.verify deviceId secretDigest) Reply.lookup
      (exec (verify deviceId secretDigest) s) := by
  cases hd : parseDeviceId deviceId with
  | error e =>
    unfold verify
    rw [hd]
    exact .verifyThrown deviceId secretDigest e (.inl (orThrow_error hd))
  | ok d =>
    cases hdigest : parseDigest secretDigest with
    | ok digest =>
      rw [exec_verify hs hd hdigest]
      exact .verified deviceId secretDigest d digest (orThrow_ok hd) (orThrow_ok hdigest)
    | error e =>
      unfold verify
      rw [hd, hdigest]
      exact .verifyThrown deviceId secretDigest e (.inr (orThrow_error hdigest))

theorem deviceCreated_outcome (s : Database) (device : Schemas.Device) :
    adapter.CallOutcome s (.deviceCreated device) (adapter.call s (.deviceCreated device)) := by
  obtain ⟨devices, hframe⟩ := insertDevice_frame (deviceRow device) s
  change adapter.CallOutcome s _ (_, (exec (insertDevice (deviceRow device)) s).2)
  rw [hframe]
  exact .deviceCreated device _ (fun _ => rfl) (fun _ => Iff.rfl)

theorem contract : adapter.Contract := by
  intro s c hs
  cases c with
  | issue input => exact issue_returns s input
  | getActive deviceId => exact getActive_returns hs deviceId
  | verify deviceId secretDigest => exact verify_returns hs deviceId secretDigest
  | revoke input => exact revoke_returns hs input
  | rotate input => exact rotate_returns hs input
  | deviceCreated device => exact deviceCreated_outcome s device

end SqliteDeviceCredentialRepository

/-- Both repositories obey the laws of credential generations over every history of calls: the
in-memory one from its construction, the SQLite one from every database without credentials,
whatever devices it holds and whatever devices are created on the way. -/
theorem repositories_generationLaws :
    GenerationLaws InMemoryDeviceCredentialRepository.adapter
      InMemoryDeviceCredentialRepository.new ∧
    ∀ db : Database, GenerationLaws SqliteDeviceCredentialRepository.adapter
      { db with
        deviceCredentials := OrderedMap.empty, usedDeviceCredentialIds := OrderedMap.empty } :=
  ⟨InMemoryDeviceCredentialRepository.contract.generationLaws fun _ => rfl,
    fun _ => SqliteDeviceCredentialRepository.contract.generationLaws fun _ => rfl⟩

end Doctmcp.Credential
