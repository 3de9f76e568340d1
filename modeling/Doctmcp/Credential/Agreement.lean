import Doctmcp.Credential.Checks

/-! # The credential repositories agree

The two adapters side by side. A call that passes the checks writes the same record into both
stores, so they agree after every history. One check is made twice with different errors: the
schema's, on the generation to be installed, which only a version past `Number.MAX_SAFE_INTEGER`
fails. -/

namespace Doctmcp.Credential
open Doctmcp.Lib Doctmcp.Lib.Operation Doctmcp.Schemas Doctmcp.Storage Doctmcp.Device
set_option autoImplicit false

/-! ## One call on both -/

variable {s : InMemoryDeviceCredentialRepository} {db : Database}

/-- What the checks of `issue` and `rotate` leave to be installed. -/
structure Installable (s : InMemoryDeviceCredentialRepository) (record : StoredCredential) :
    Prop where
  isActive : record.state = .active
  notRevoked : record.revokedAtMs = none
  positive : 0 < record.version
  unused : record.credentialId ∉ s.usedCredentialIds

theorem Installable.valid_iff {record : StoredCredential} (h : Installable s record) :
    record.Valid ↔ record.version ≤ maxSafeInteger := by
  rw [StoredCredential.valid_iff, h.isActive, h.notRevoked]
  have := h.positive
  simp [this]

theorem issueChecks_ok {input : IssueInput} {record : StoredCredential}
    (h : issueChecks s input = .ok record) :
    Installable s record ∧ deviceIdSchema input.deviceId = some record.deviceId := by
  unfold issueChecks at h
  cases hd : parseDeviceId input.deviceId with
  | error e => rw [hd] at h; cases h
  | ok d =>
  rw [hd] at h
  cases hid : parseCredentialId input.credentialId with
  | error e => rw [hid] at h; cases h
  | ok id =>
  rw [hid] at h
  cases hdigest : parseDigest input.secretDigest with
  | error e => rw [hdigest] at h; cases h
  | ok digest =>
  rw [hdigest] at h
  cases ht : readTime input.createdAt with
  | error e => rw [ht] at h; cases h
  | ok t =>
  rw [ht] at h
  change (if _ then Except.error _ else if _ then Except.error _ else Except.ok _) = _ at h
  split_ifs at h with hactive hused
  obtain rfl := Except.ok.inj h
  exact ⟨⟨rfl, rfl, Nat.succ_pos _, hused⟩, orThrow_ok hd⟩

theorem rotateChecks_ok {input : RotateInput} {record : StoredCredential}
    (h : rotateChecks s input = .ok record) :
    Installable s record ∧ ∃ current, s.byDeviceId.get? record.deviceId = some current := by
  unfold rotateChecks at h
  cases hd : parseDeviceId input.deviceId with
  | error e => rw [hd] at h; cases h
  | ok d =>
  rw [hd] at h
  cases hexpectedId : parseCredentialId input.expectedCredentialId with
  | error e => rw [hexpectedId] at h; cases h
  | ok expectedId =>
  rw [hexpectedId] at h
  cases hexpectedVersion : parseVersion input.expectedVersion with
  | error e => rw [hexpectedVersion] at h; cases h
  | ok expectedVersion =>
  rw [hexpectedVersion] at h
  cases hid : parseCredentialId input.credentialId with
  | error e => rw [hid] at h; cases h
  | ok id =>
  rw [hid] at h
  cases hdigest : parseDigest input.secretDigest with
  | error e => rw [hdigest] at h; cases h
  | ok digest =>
  rw [hdigest] at h
  cases ht : readTime input.rotatedAt with
  | error e => rw [ht] at h; cases h
  | ok t =>
  rw [ht] at h
  simp only [bind, Except.bind] at h
  cases hexpected : InMemoryDeviceCredentialRepository.expectedActive (s.byDeviceId.get? d)
      expectedId expectedVersion with
  | none => rw [hexpected] at h; cases h
  | some current =>
    rw [hexpected] at h
    dsimp only at h
    split_ifs at h with hused hclock
    obtain rfl := Except.ok.inj h
    exact ⟨⟨rfl, rfl, Nat.succ_pos _, hused⟩, current, (expectedActive_some hexpected).1⟩

theorem Agree.install (h : Agree s db) {record : StoredCredential} (hnew : Installable s record)
    (hvalid : record.Valid) (hknown : db.devices.has record.deviceId = true) :
    Agree (s.install record) (SqliteDeviceCredentialRepository.install db record) where
  stored d := by
    simp only [InMemoryDeviceCredentialRepository.install, SqliteDeviceCredentialRepository.install,
      OrderedMap.get?_set, h.stored]
  used id := by
    simp only [InMemoryDeviceCredentialRepository.install, SqliteDeviceCredentialRepository.install,
      OrderedMap.mem_keys_set, List.mem_cons, h.used]
  valid d r hr := by
    change (s.byDeviceId.set record.deviceId record).get? d = some r at hr
    rw [OrderedMap.get?_set] at hr
    split_ifs at hr with hd
    · obtain rfl := Option.some.inj hr
      exact ⟨hd.symm, hvalid⟩
    · exact h.valid d r hr
  owned d r hr := by
    change (s.byDeviceId.set record.deviceId record).get? d = some r at hr
    rw [OrderedMap.get?_set] at hr
    split_ifs at hr with hd
    · obtain rfl := Option.some.inj hr
      exact List.mem_cons_self
    · exact List.mem_cons_of_mem _ (h.owned d r hr)
  distinct d d' r r' hr hr' heq := by
    change (s.byDeviceId.set record.deviceId record).get? d = some r at hr
    change (s.byDeviceId.set record.deviceId record).get? d' = some r' at hr'
    rw [OrderedMap.get?_set] at hr hr'
    split_ifs at hr hr' with hd hd' hd'
    · exact hd.trans hd'.symm
    · obtain rfl := Option.some.inj hr
      exact absurd (heq ▸ h.owned d' r' hr') hnew.unused
    · obtain rfl := Option.some.inj hr'
      exact absurd (heq ▸ h.owned d r hr) hnew.unused
    · exact h.distinct d d' r r' hr hr' heq
  known d r hr := by
    change (s.byDeviceId.set record.deviceId record).get? d = some r at hr
    rw [OrderedMap.get?_set] at hr
    split_ifs at hr with hd
    · exact hd ▸ hknown
    · exact h.known d r hr

theorem revokeChecks_ok {input : RevokeInput} {record : StoredCredential}
    (h : revokeChecks s input = .ok (some record)) : ∃ d current t,
      s.byDeviceId.get? d = some current ∧ ¬ t < current.createdAtMs ∧
        record = current.revoke t := by
  unfold revokeChecks at h
  cases hd : parseDeviceId input.deviceId with
  | error e => rw [hd] at h; cases h
  | ok d =>
  rw [hd] at h
  cases hexpectedId : parseCredentialId input.expectedCredentialId with
  | error e => rw [hexpectedId] at h; cases h
  | ok expectedId =>
  rw [hexpectedId] at h
  cases hexpectedVersion : parseVersion input.expectedVersion with
  | error e => rw [hexpectedVersion] at h; cases h
  | ok expectedVersion =>
  rw [hexpectedVersion] at h
  cases ht : readTime input.revokedAt with
  | error e => rw [ht] at h; cases h
  | ok t =>
  rw [ht] at h
  simp only [bind, Except.bind] at h
  cases hexpected : InMemoryDeviceCredentialRepository.expectedActive (s.byDeviceId.get? d)
      expectedId expectedVersion with
  | none => rw [hexpected] at h; cases h
  | some current =>
    rw [hexpected] at h
    dsimp only at h
    split_ifs at h with hclock
    obtain rfl := Option.some.inj (Except.ok.inj h)
    exact ⟨d, current, t, (expectedActive_some hexpected).1, hclock, rfl⟩

/-- Replacing a generation by one under the same device and id keeps the stores alike. -/
theorem Agree.replace (h : Agree s db) {current record : StoredCredential} {d : DeviceId}
    (hcurrent : s.byDeviceId.get? d = some current) (hdevice : record.deviceId = current.deviceId)
    (hid : record.credentialId = current.credentialId) (hvalid : record.Valid) :
    Agree { s with byDeviceId := s.byDeviceId.set record.deviceId record }
      { db with deviceCredentials := db.deviceCredentials.set record.deviceId record } := by
  have hkey : record.deviceId = d := hdevice.trans (h.valid d current hcurrent).1
  have hold : ∀ d' r, (s.byDeviceId.set record.deviceId record).get? d' = some r →
      ∃ r', s.byDeviceId.get? d' = some r' ∧ r.credentialId = r'.credentialId ∧
        (r = record ∧ d' = d ∨ r = r') := by
    intro d' r hr
    rw [OrderedMap.get?_set] at hr
    split_ifs at hr with hd
    · obtain rfl := Option.some.inj hr
      rw [hd, hkey]
      exact ⟨current, hcurrent, hid, .inl ⟨rfl, rfl⟩⟩
    · exact ⟨r, hr, rfl, .inr rfl⟩
  refine ⟨fun d' => ?_, h.used, fun d' r hr => ?_, fun d' r hr => ?_,
    fun d1 d2 r1 r2 h1 h2 heq => ?_, fun d' r hr => ?_⟩
  · simp only [OrderedMap.get?_set, h.stored]
  · obtain ⟨r', hr', -, ⟨rfl, rfl⟩ | rfl⟩ := hold d' r hr
    · exact ⟨hkey, hvalid⟩
    · exact h.valid d' r hr'
  · obtain ⟨r', hr', hsame, -⟩ := hold d' r hr
    rw [hsame]
    exact h.owned d' r' hr'
  · obtain ⟨r1', h1', hsame1, -⟩ := hold d1 r1 h1
    obtain ⟨r2', h2', hsame2, -⟩ := hold d2 r2 h2
    exact h.distinct d1 d2 r1' r2' h1' h2' (hsame1.symm.trans (heq.trans hsame2))
  · obtain ⟨r', hr', -, -⟩ := hold d' r hr
    exact h.known d' r' hr'

theorem sameResult_finish (h : Agree s db) (checks : Except JsError StoredCredential)
    (hchecks : ∀ record, checks = .ok record →
      Installable s record ∧ db.devices.has record.deviceId = true) :
    Agree (s.finish checks).2 (SqliteDeviceCredentialRepository.finish db checks).2 ∧
      (SameResult (s.finish checks).1 (SqliteDeviceCredentialRepository.finish db checks).1 ↔
        ∀ record ∈ checks.toOption, record.version ≤ maxSafeInteger) := by
  cases checks with
  | error e => exact ⟨h, fun _ _ hr => (nomatch hr), fun _ => rfl⟩
  | ok record =>
    obtain ⟨hnew, hknown⟩ := hchecks record rfl
    have hiff : (∀ r ∈ (Except.ok record : Except JsError StoredCredential).toOption,
        r.version ≤ maxSafeInteger) ↔ record.Valid := by
      rw [hnew.valid_iff]
      exact ⟨fun hall => hall record rfl, fun hle r hr => Option.some.inj hr ▸ hle⟩
    rw [hiff]
    unfold InMemoryDeviceCredentialRepository.finish SqliteDeviceCredentialRepository.finish
    dsimp only
    by_cases hvalid : record.Valid
    · rw [snapshot_valid hvalid, SqliteDeviceCredentialRepository.snapshot_valid hvalid]
      exact ⟨h.install hnew hvalid hknown, fun _ => hvalid, fun _ => rfl⟩
    · have hnone : deviceCredentialSchema record.toCredential = none := by
        cases hschema : deviceCredentialSchema record.toCredential with
        | none => rfl
        | some c =>
          obtain rfl := deviceCredentialSchema_some hschema
          exact absurd hschema hvalid
      unfold snapshot SqliteDeviceCredentialRepository.snapshot
      rw [hnone]
      exact ⟨h, fun hsame => (nomatch hsame), fun hv => absurd hv hvalid⟩

theorem sameResult_leave (h : Agree s db) (input : RevokeInput) :
    Agree (s.leave (revokeChecks s input)).2
        (SqliteDeviceCredentialRepository.leave db (revokeChecks s input)).2 ∧
      (s.leave (revokeChecks s input)).1 =
        (SqliteDeviceCredentialRepository.leave db (revokeChecks s input)).1 := by
  cases hchecks : revokeChecks s input with
  | error e => exact ⟨h, rfl⟩
  | ok found =>
    cases found with
    | none => exact ⟨h, rfl⟩
    | some record =>
      obtain ⟨d, current, t, hcurrent, hclock, rfl⟩ := revokeChecks_ok hchecks
      have hvalid := current.valid_revoke (h.valid d current hcurrent).2 hclock
      exact ⟨h.replace hcurrent rfl rfl hvalid, rfl⟩

/-- An issue names a device that exists. -/
def OnExisting (db : Database) : Call → Prop
  | .issue input => ∀ d ∈ deviceIdSchema input.deviceId, db.devices.has d = true
  | _ => True

/-- The call has passed every other check to install a version past `MAX_SAFE_INTEGER`. -/
def Exhausts (s : InMemoryDeviceCredentialRepository) (c : Call) : Prop :=
  ∃ record ∈ installing s c, maxSafeInteger < record.version

theorem agree_active (h : Agree s db) (d : DeviceId) :
    SqliteDeviceCredentialRepository.adapter.active db d =
      InMemoryDeviceCredentialRepository.adapter.active s d := by
  have hstored := h.stored d
  simp only [Adapter.active, Adapter.stored, SqliteDeviceCredentialRepository.adapter,
    InMemoryDeviceCredentialRepository.adapter, hstored]

theorem agree_valid (h : Agree s db) : SqliteDeviceCredentialRepository.adapter.RecordsValid db := by
  intro d r hr
  have hstored : s.byDeviceId.get? d = some r := (h.stored d).symm.trans hr
  exact h.valid d r hstored

theorem agree_getActive (h : Agree s db) (deviceId : String) : ∃ r,
    exec (InMemoryDeviceCredentialRepository.getActive deviceId) s = (r, s) ∧
      exec (SqliteDeviceCredentialRepository.getActive deviceId) db = (r, db) := by
  cases hd : parseDeviceId deviceId with
  | error e =>
    refine ⟨.error e, ?_, ?_⟩
    · unfold InMemoryDeviceCredentialRepository.getActive
      rw [hd]
      rfl
    · unfold SqliteDeviceCredentialRepository.getActive
      rw [hd]
      rfl
  | ok d =>
    refine ⟨_, InMemoryDeviceCredentialRepository.exec_getActive h.valid hd, ?_⟩
    rw [SqliteDeviceCredentialRepository.exec_getActive (agree_valid h) hd, agree_active h]

theorem agree_verify (h : Agree s db) (deviceId secretDigest : String) : ∃ r,
    exec (InMemoryDeviceCredentialRepository.verify deviceId secretDigest) s = (r, s) ∧
      exec (SqliteDeviceCredentialRepository.verify deviceId secretDigest) db = (r, db) := by
  cases hd : parseDeviceId deviceId with
  | error e =>
    refine ⟨.error e, ?_, ?_⟩
    · unfold InMemoryDeviceCredentialRepository.verify
      rw [hd]
      rfl
    · unfold SqliteDeviceCredentialRepository.verify
      rw [hd]
      rfl
  | ok d =>
    cases hdigest : parseDigest secretDigest with
    | error e =>
      refine ⟨.error e, ?_, ?_⟩
      · unfold InMemoryDeviceCredentialRepository.verify
        rw [hd, hdigest]
        rfl
      · unfold SqliteDeviceCredentialRepository.verify
        rw [hd, hdigest]
        rfl
    | ok digest =>
      refine ⟨_, InMemoryDeviceCredentialRepository.exec_verify h.valid hd hdigest, ?_⟩
      rw [SqliteDeviceCredentialRepository.exec_verify (agree_valid h) hd hdigest, agree_active h]

/-- Creating a device touches no credential and removes no device. -/
theorem Agree.deviceCreated (h : Agree s db) (device : Schemas.Device) :
    Agree s (exec (insertDevice (SqliteDeviceCredentialRepository.deviceRow device)) db).2 := by
  have hkept := fun d => insertDevice_has (d := d)
    (SqliteDeviceCredentialRepository.deviceRow device) db
  obtain ⟨devices, hframe⟩ := insertDevice_frame
    (SqliteDeviceCredentialRepository.deviceRow device) db
  rw [hframe] at hkept ⊢
  exact ⟨h.stored, h.used, h.valid, h.owned, h.distinct, fun d r hr => hkept d (h.known d r hr)⟩

/-- One call on repositories that agree: they still agree, and the results are the same unless the
call exhausts the versions of its device. -/
theorem agree_call (h : Agree s db) (c : Call) (hdevice : OnExisting db c) :
    Agree (InMemoryDeviceCredentialRepository.adapter.call s c).2
        (SqliteDeviceCredentialRepository.adapter.call db c).2 ∧
      (SameResult (InMemoryDeviceCredentialRepository.adapter.call s c).1
        (SqliteDeviceCredentialRepository.adapter.call db c).1 ↔ ¬ Exhausts s c) := by
  have hcredential : ∀ a b, Reply.credential a = Reply.credential b → a = b :=
    fun _ _ heq => Reply.credential.inj heq
  have hexhausts : ∀ checks : Except JsError StoredCredential,
      installing s c = checks.toOption →
      ((∀ record ∈ checks.toOption, record.version ≤ maxSafeInteger) ↔ ¬ Exhausts s c) := by
    intro checks hchecks
    unfold Exhausts
    rw [hchecks]
    simp only [not_exists, not_and, Nat.not_lt]
  have hquiet : installing s c = none → ¬ Exhausts s c := by
    rintro hnone ⟨record, hrecord, -⟩
    rw [hnone] at hrecord
    cases hrecord
  cases c with
  | issue input =>
    have hiff := hexhausts (issueChecks s input) rfl
    obtain ⟨hagree, hsame⟩ := sameResult_finish h (issueChecks s input) fun record hok =>
      ⟨(issueChecks_ok hok).1, hdevice _ (issueChecks_ok hok).2⟩
    simp only [Adapter.call, Adapter.reply, InMemoryDeviceCredentialRepository.adapter,
      SqliteDeviceCredentialRepository.adapter, InMemoryDeviceCredentialRepository.exec_issue,
      SqliteDeviceCredentialRepository.exec_issue h input hdevice]
    rw [sameResult_map_iff hcredential, hsame, hiff]
    exact ⟨hagree, Iff.rfl⟩
  | rotate input =>
    have hiff := hexhausts (rotateChecks s input) rfl
    obtain ⟨hagree, hsame⟩ := sameResult_finish h (rotateChecks s input) fun record hok =>
      ⟨(rotateChecks_ok hok).1, (rotateChecks_ok hok).2.elim fun current hc => h.known _ current hc⟩
    simp only [Adapter.call, Adapter.reply, InMemoryDeviceCredentialRepository.adapter,
      SqliteDeviceCredentialRepository.adapter, InMemoryDeviceCredentialRepository.exec_rotate,
      SqliteDeviceCredentialRepository.exec_rotate h input]
    rw [sameResult_map_iff hcredential, hsame, hiff]
    exact ⟨hagree, Iff.rfl⟩
  | revoke input =>
    obtain ⟨hagree, hsame⟩ := sameResult_leave h input
    simp only [Adapter.call, Adapter.reply, InMemoryDeviceCredentialRepository.adapter,
      SqliteDeviceCredentialRepository.adapter,
      InMemoryDeviceCredentialRepository.exec_revoke s h.valid,
      SqliteDeviceCredentialRepository.exec_revoke h input]
    rw [hsame]
    exact ⟨hagree, fun _ => hquiet rfl, fun _ => SameResult.refl _⟩
  | getActive deviceId =>
    obtain ⟨r, hmemory, hsqlite⟩ := agree_getActive h deviceId
    simp only [Adapter.call, Adapter.reply, InMemoryDeviceCredentialRepository.adapter,
      SqliteDeviceCredentialRepository.adapter, hmemory, hsqlite]
    exact ⟨h, fun _ => hquiet rfl, fun _ => SameResult.refl _⟩
  | verify deviceId secretDigest =>
    obtain ⟨r, hmemory, hsqlite⟩ := agree_verify h deviceId secretDigest
    simp only [Adapter.call, Adapter.reply, InMemoryDeviceCredentialRepository.adapter,
      SqliteDeviceCredentialRepository.adapter, hmemory, hsqlite]
    exact ⟨h, fun _ => hquiet rfl, fun _ => SameResult.refl _⟩
  | deviceCreated device =>
    exact ⟨h.deviceCreated device, fun _ => hquiet rfl, fun _ => rfl⟩

/-! ## Every history -/

/-- The two repositories side by side. -/
abbrev callBoth (st : InMemoryDeviceCredentialRepository × Database) (c : Call) :
    InMemoryDeviceCredentialRepository × Database :=
  both InMemoryDeviceCredentialRepository.adapter.call
    SqliteDeviceCredentialRepository.adapter.call st c

/-- Both repositories return the same value, or fail with the same code. -/
def Answers (st : InMemoryDeviceCredentialRepository × Database) (c : Call) : Prop :=
  SameResult (InMemoryDeviceCredentialRepository.adapter.call st.1 c).1
    (SqliteDeviceCredentialRepository.adapter.call st.2 c).1

/-- Fresh repositories: no credential, and any devices in the database. -/
def fresh (db : Database) : InMemoryDeviceCredentialRepository × Database :=
  (InMemoryDeviceCredentialRepository.new, { db with
    deviceCredentials := OrderedMap.empty, usedDeviceCredentialIds := OrderedMap.empty })

theorem agree_fresh (db : Database) : Agree (fresh db).1 (fresh db).2 where
  stored _ := rfl
  used _ := Iff.rfl
  valid _ _ h := nomatch h
  owned _ _ h := nomatch h
  distinct _ _ _ _ h := nomatch h
  known _ _ h := nomatch h

/-- Over every history of calls on existing devices the repositories hold the same generations and
used ids after every call, and they answer alike at every call exactly when no call exhausts the
versions of its device. -/
theorem credentials_answer_alike (db : Database) (calls : List Call)
    (hdevices : Along callBoth (fun st c => OnExisting st.2 c) (fresh db) calls) :
    Agree (runFrom callBoth (fresh db) calls).1 (runFrom callBoth (fresh db) calls).2 ∧
      (Along callBoth Answers (fresh db) calls ↔
        Along callBoth (fun st c => ¬ Exhausts st.1 c) (fresh db) calls) := by
  have hstep : ∀ st c, Agree st.1 st.2 → OnExisting st.2 c →
      Agree (callBoth st c).1 (callBoth st c).2 := fun st c h hc => (agree_call h c hc).1
  refine ⟨Along.invariant hstep (agree_fresh db) hdevices, ?_⟩
  exact Along.congr_invariant hstep (fun st c h hc => (agree_call h c hc).2) (agree_fresh db)
    hdevices

/-! ### The versions of one device run out -/

namespace Exhaustion

/-- `count` hex digits of `n`, most significant first. -/
def digits : ℕ → ℕ → List Char
  | 0, _ => []
  | count + 1, n => digits count (n / 16) ++ [Sha256.hexDigit (n % 16)]

theorem length_digits (count n : ℕ) : (digits count n).length = count := by
  induction count generalizing n with
  | zero => rfl
  | succ count ih => simp [digits, ih]

theorem hexDigit_injective : ∀ a < 16, ∀ b < 16, Sha256.hexDigit a = Sha256.hexDigit b → a = b := by
  decide

theorem digits_injective {count a b : ℕ} (ha : a < 16 ^ count) (hb : b < 16 ^ count)
    (h : digits count a = digits count b) : a = b := by
  induction count generalizing a b with
  | zero => omega
  | succ count ih =>
    obtain ⟨hhigh, hlow⟩ := List.append_inj h (by rw [length_digits, length_digits])
    have hrest := ih (by rw [pow_succ] at ha; omega) (by rw [pow_succ] at hb; omega) hhigh
    have hdigit := hexDigit_injective _ (Nat.mod_lt _ (by omega)) _ (Nat.mod_lt _ (by omega))
      (List.singleton_inj.mp hlow)
    omega

theorem hexDigit_lower : ∀ n < 16, isHexDigit (Sha256.hexDigit n) = true ∧
    (Sha256.hexDigit n).toLower = Sha256.hexDigit n := by
  decide

theorem fits_digits (count n : ℕ) :
    JsString.fits (List.replicate count isHexDigit) (digits count n) = true := by
  induction count generalizing n with
  | zero => rfl
  | succ count ih =>
    rw [List.replicate_succ', digits, JsString.fits_append (by simp [length_digits]), ih]
    simp [JsString.fits, (hexDigit_lower _ (Nat.mod_lt n (show 0 < 16 by omega))).1]

theorem toLower_digits (count n : ℕ) : (digits count n).map Char.toLower = digits count n := by
  induction count generalizing n with
  | zero => rfl
  | succ count ih =>
    simp [digits, ih, (hexDigit_lower _ (Nat.mod_lt n (show 0 < 16 by omega))).2]

/-- The text of the `n`-th id. -/
def text (n : ℕ) : List Char :=
  "00000000-0000-4000-8".toList ++ digits 3 (n / 16 ^ 12) ++ ['-'] ++ digits 12 (n % 16 ^ 12)

theorem text_injective {a b : ℕ} (ha : a < 16 ^ 15) (hb : b < 16 ^ 15) (h : text a = text b) :
    a = b := by
  unfold text at h
  obtain ⟨h, hlow⟩ := List.append_inj h (by simp [length_digits])
  obtain ⟨h, -⟩ := List.append_inj h (by simp [length_digits])
  obtain ⟨-, hhigh⟩ := List.append_inj h rfl
  have hlow := digits_injective (Nat.mod_lt _ (by norm_num)) (Nat.mod_lt _ (by norm_num)) hlow
  have hhigh := digits_injective (by omega) (by omega) hhigh
  omega

def id (n : ℕ) : CredentialId where
  value := String.ofList (text n)
  wellFormed := by
    rw [String.toList_ofList]
    unfold uuidV4Pattern text
    rw [JsString.fits_append (by simp [length_digits]), JsString.fits_append (by simp [length_digits]),
      JsString.fits_append (by simp), fits_digits, fits_digits]
    rfl
  canonical := by
    rw [JsString.toLowerCase, String.toList_ofList]
    unfold text
    simp [toLower_digits]

theorem id_injective {a b : ℕ} (ha : a ≤ maxSafeInteger) (hb : b ≤ maxSafeInteger)
    (h : id a = id b) : a = b := by
  have hbound : maxSafeInteger < 16 ^ 15 := by decide
  have htext := congrArg (fun u : CredentialId => u.value.toList) h
  simp only [id, String.toList_ofList] at htext
  exact text_injective (by omega) (by omega) htext

def device : DeviceId := ⟨"de01ce00-0000-4000-8000-000000000000", by decide, by decide⟩

def digest : HexDigest := digestDeviceCredentialSecret "secret"

/-- The database with the device. -/
def database : Database :=
  { Database.migrated with
    devices := OrderedMap.empty.set device ⟨device, "owner-a", "laptop", ⟨"linux-x64", none, none⟩, 0, 0⟩ }

/-- Rotate the `n + 1`-st generation away. -/
def rotation (n : ℕ) : Call :=
  .rotate ⟨device.value, (id n).value, some (n + 1 : ℕ), (id (n + 1)).value, digest.value, some 0⟩

/-- Issue the first generation. -/
def issuing : Call := .issue ⟨device.value, (id 0).value, digest.value, some 0⟩

/-- The `n + 1`-st generation. -/
def generation (n : ℕ) : StoredCredential := ⟨id n, device, n + 1, digest, 0, .active, none⟩

/-- The store after `n` rotations. -/
structure Rotated (n : ℕ) (s : InMemoryDeviceCredentialRepository) : Prop where
  stored : s.byDeviceId.get? device = some (generation n)
  unused : ∀ m, n < m → m ≤ maxSafeInteger → id m ∉ s.usedCredentialIds

theorem rotateChecks_rotation {n : ℕ} (hn : n < maxSafeInteger) {s : InMemoryDeviceCredentialRepository}
    (h : Rotated n s) : installing s (rotation n) = some (generation (n + 1)) := by
  have hfree := h.unused (n + 1) (by omega) hn
  have hexpected : InMemoryDeviceCredentialRepository.expectedActive (s.byDeviceId.get? device)
      (id n) (n + 1) = some (generation n) := by
    rw [h.stored]
    simp [InMemoryDeviceCredentialRepository.expectedActive, generation, Option.filter]
  have hversion : parseVersion (some ((n + 1 : ℕ) : ℤ)) = .ok (n + 1) :=
    parseVersion_pos _ (Nat.succ_pos n)
  unfold installing rotation rotateChecks
  dsimp only
  rw [Credential.parseDeviceId_value, parseCredentialId_value, hversion, parseCredentialId_value,
    parseDigest_value, readTime_some]
  simp only [bind, Except.bind, hexpected]
  rw [if_neg hfree, if_neg (by simp [generation])]
  rfl

theorem valid_generation {n : ℕ} (hn : n < maxSafeInteger) : (generation n).Valid := by
  rw [StoredCredential.valid_iff]
  exact ⟨⟨Nat.succ_pos _, hn⟩, fun _ => rfl, fun hstate => (nomatch hstate), fun _ ht => (nomatch ht)⟩

theorem rotated_install {n : ℕ} (hn : n ≤ maxSafeInteger) {s : InMemoryDeviceCredentialRepository}
    (hunused : ∀ m, n ≤ m → m ≤ maxSafeInteger → id m ∉ s.usedCredentialIds) :
    Rotated n (s.install (generation n)) := by
  refine ⟨OrderedMap.get?_set_self _ _ _, fun m hm hle hmem => ?_⟩
  rcases List.mem_cons.mp hmem with heq | hmem
  · have := id_injective hle hn heq
    omega
  · exact hunused m (by omega) hle hmem

theorem rotated_issue :
    Rotated 0 (InMemoryDeviceCredentialRepository.adapter.call (fresh database).1 issuing).2 := by
  have hchecks : issueChecks (fresh database).1
      ⟨device.value, (id 0).value, digest.value, some 0⟩ = .ok (generation 0) := by
    unfold issueChecks
    dsimp only
    rw [Credential.parseDeviceId_value, parseCredentialId_value, parseDigest_value, readTime_some]
    rfl
  have hcall : (InMemoryDeviceCredentialRepository.adapter.call (fresh database).1 issuing).2 =
      (fresh database).1.install (generation 0) := by
    simp only [Adapter.call, Adapter.reply, InMemoryDeviceCredentialRepository.adapter, issuing,
      InMemoryDeviceCredentialRepository.exec_issue, hchecks]
    unfold InMemoryDeviceCredentialRepository.finish
    dsimp only
    rw [snapshot_valid (valid_generation (by decide))]
  rw [hcall]
  exact rotated_install (Nat.zero_le _) fun m _ _ => List.not_mem_nil

theorem rotated_rotation {n : ℕ} (hn : n + 1 < maxSafeInteger)
    {s : InMemoryDeviceCredentialRepository} (h : Rotated n s) :
    Rotated (n + 1) (InMemoryDeviceCredentialRepository.adapter.call s (rotation n)).2 := by
  have hinstalling := rotateChecks_rotation (by omega) h
  have hcall : (InMemoryDeviceCredentialRepository.adapter.call s (rotation n)).2 =
      s.install (generation (n + 1)) := by
    change (exec (InMemoryDeviceCredentialRepository.rotate _) s).2 = _
    rw [InMemoryDeviceCredentialRepository.exec_rotate]
    unfold installing rotation at hinstalling
    dsimp only at hinstalling
    cases hchecks : rotateChecks s _ with
    | error e => rw [hchecks] at hinstalling; cases hinstalling
    | ok record =>
      rw [hchecks] at hinstalling
      obtain rfl := Option.some.inj hinstalling
      unfold InMemoryDeviceCredentialRepository.finish
      dsimp only
      rw [snapshot_valid (valid_generation hn)]
  rw [hcall]
  exact rotated_install (by omega) fun m hm hle => h.unused m (by omega) hle

/-- Issue and `n` rotations. -/
def history (n : ℕ) : List Call := issuing :: (List.range n).map rotation

theorem history_succ (n : ℕ) : history (n + 1) = history n ++ [rotation n] := by
  unfold history
  rw [List.range_succ, List.map_append]
  rfl

theorem rotated_history {n : ℕ} (hn : n < maxSafeInteger) :
    Rotated n (runFrom callBoth (fresh database) (history n)).1 := by
  induction n with
  | zero =>
    have hfirst : history 0 = [issuing] := rfl
    rw [hfirst, runFrom_cons, runFrom_nil, callBoth, both_fst]
    exact rotated_issue
  | succ n ih =>
    rw [history_succ, runFrom_append]
    exact rotated_rotation hn (ih (by omega))

theorem onExisting_history (n : ℕ) :
    Along callBoth (fun st c => OnExisting st.2 c) (fresh database) (history n) := by
  induction n with
  | zero =>
    refine ⟨?_, trivial⟩
    intro d hd
    rw [show deviceIdSchema device.value = some device from deviceIdSchema_value device] at hd
    obtain rfl := Option.some.inj hd
    rfl
  | succ n ih =>
    rw [history_succ, along_concat]
    exact ⟨ih, trivial⟩

/-- The last version is rotated away: one repository rejects its own generation as invalid input,
the other cannot read back the row it wrote. -/
theorem exhausts_last : Exhausts (runFrom callBoth (fresh database)
    (history (maxSafeInteger - 1))).1 (rotation (maxSafeInteger - 1)) := by
  have hlast : maxSafeInteger - 1 < maxSafeInteger := by decide
  refine ⟨_, rotateChecks_rotation hlast (rotated_history hlast), ?_⟩
  show maxSafeInteger < maxSafeInteger - 1 + 1 + 1
  omega

end Exhaustion

/-- A device whose first credential is rotated as often as there are versions: its calls all name
an existing device, yet the repositories do not answer alike at every call. -/
theorem credentials_disagree :
    Along callBoth (fun st c => OnExisting st.2 c) (fresh Exhaustion.database)
        (Exhaustion.history maxSafeInteger) ∧
      ¬ Along callBoth Answers (fresh Exhaustion.database) (Exhaustion.history maxSafeInteger) := by
  have hdevices := Exhaustion.onExisting_history maxSafeInteger
  refine ⟨hdevices, fun hanswers => ?_⟩
  have hquiet := (Along.congr_invariant (fun st c h hc => (agree_call h c hc).1)
    (fun st c h hc => (agree_call h c hc).2) (agree_fresh Exhaustion.database) hdevices).mp hanswers
  rw [show maxSafeInteger = (maxSafeInteger - 1) + 1 from rfl, Exhaustion.history_succ,
    along_concat] at hquiet
  exact hquiet.2 Exhaustion.exhausts_last

/-- One issue and one rotation on that device. -/
theorem credentials_answer_alike_sample :
    Agree (runFrom callBoth (fresh Exhaustion.database) (Exhaustion.history 1)).1
        (runFrom callBoth (fresh Exhaustion.database) (Exhaustion.history 1)).2 ∧
      (Along callBoth Answers (fresh Exhaustion.database) (Exhaustion.history 1) ↔
        Along callBoth (fun st c => ¬ Exhausts st.1 c) (fresh Exhaustion.database)
          (Exhaustion.history 1)) :=
  credentials_answer_alike Exhaustion.database (Exhaustion.history 1)
    (Exhaustion.onExisting_history 1)

end Doctmcp.Credential
