import Doctmcp.Credential.Conformance
import Doctmcp.Device.Repository

/-! # The credential service

`DeviceCredentialService` of `apps/server/src/device-credential.ts`, over the in-memory repositories.
A method reads the device once, and devices are never removed, so its one operation on the
credential repository is the only step that others can see; the device repository is an argument. -/

namespace Doctmcp.Credential
open Doctmcp.Lib Doctmcp.Lib.Operation Doctmcp.Schemas Doctmcp.Device
open InMemoryDeviceCredentialRepository (adapter isActive_none_iff installs expectedActive
  requireUnusedCredentialId)
set_option autoImplicit false

/-- What a method draws: `crypto.randomUUID()` and `generateSecret()`. -/
structure Draw where
  credentialId : CredentialId
  secret : String

structure IssuedDeviceCredential where
  credential : DeviceCredential
  secret : String
  deriving DecidableEq

namespace DeviceCredentialService

def unavailable : JsError :=
  .DeviceCredentialError .CREDENTIAL_UNAVAILABLE "Device credential không khả dụng."

def createCredentialId (generated : CredentialId) : Except JsError CredentialId :=
  parseCredentialId generated.value

def requireDevice (devices : InMemoryDeviceRepository) (deviceId : String) :
    Except JsError Schemas.Device := do
  let parsed ← orThrow (deviceIdSchema deviceId)
    (.DeviceCredentialError .INVALID_CREDENTIAL_INPUT "deviceId không hợp lệ.")
  let device ← (exec (InMemoryDeviceRepository.getById parsed.value) devices).1
  orThrow device (.DeviceCredentialError .DEVICE_NOT_FOUND "Device không tồn tại.")

def readNow (now : JsDate) : Except JsError ℤ :=
  orThrow now (.DeviceCredentialError .INVALID_CLOCK "Credential clock không hợp lệ.")

def requireActiveCredential (deviceId : String) :
    Operation InMemoryDeviceCredentialRepository JsError DeviceCredential := do
  let credential ← InMemoryDeviceCredentialRepository.getActive deviceId
  orThrow credential unavailable

def issue (devices : InMemoryDeviceRepository) (draw : Draw) (now : JsDate) (deviceId : String) :
    Operation InMemoryDeviceCredentialRepository JsError IssuedDeviceCredential := do
  let device ← requireDevice devices deviceId
  let credentialId ← createCredentialId draw.credentialId
  let createdAt ← readNow now
  let credential ← InMemoryDeviceCredentialRepository.issue
    { deviceId := device.deviceId.value, credentialId := credentialId.value,
      secretDigest := (digestDeviceCredentialSecret draw.secret).value, createdAt := some createdAt }
  return ⟨credential, draw.secret⟩

def getActive (devices : InMemoryDeviceRepository) (deviceId : String) :
    Operation InMemoryDeviceCredentialRepository JsError DeviceCredential := do
  let device ← requireDevice devices deviceId
  requireActiveCredential device.deviceId.value

def rotateExpectedWithCredentialId (devices : InMemoryDeviceRepository) (secret : String)
    (now : JsDate) (deviceId expectedCredentialId : String) (expectedVersion : ℕ)
    (credentialId : String) :
    Operation InMemoryDeviceCredentialRepository JsError IssuedDeviceCredential := do
  let device ← requireDevice devices deviceId
  let parsedCredentialId ← parseCredentialId credentialId
  let rotatedAt ← readNow now
  let credential ← InMemoryDeviceCredentialRepository.rotate
    { deviceId := device.deviceId.value, expectedCredentialId,
      expectedVersion := some (expectedVersion : ℤ), credentialId := parsedCredentialId.value,
      secretDigest := (digestDeviceCredentialSecret secret).value, rotatedAt := some rotatedAt }
  return ⟨credential, secret⟩

/-! ## What a method can do -/

/-- The generation that an issue or a rotate of a device installs. -/
def nextGeneration (d : DeviceId) (version : ℕ) (credentialId : CredentialId) (secret : String)
    (now : ℤ) : StoredCredential where
  credentialId := credentialId
  deviceId := d
  version := version + 1
  secretDigest := digestDeviceCredentialSecret secret
  createdAtMs := now
  state := .active
  revokedAtMs := none

theorem nextGeneration_valid {d : DeviceId} {version : ℕ} {credentialId : CredentialId}
    {secret : String} {now : ℤ} :
    (nextGeneration d version credentialId secret now).Valid ↔ version < maxSafeInteger := by
  rw [StoredCredential.valid_iff]
  simp only [nextGeneration]
  constructor
  · intro h
    omega
  · intro h
    exact ⟨by omega, fun _ => trivial, fun hc => by simp at hc, fun t ht => by simp at ht⟩

section Outcomes
variable (devices : InMemoryDeviceRepository) (s : InMemoryDeviceCredentialRepository)
variable (d : DeviceId)

/-- The device is not stored. -/
def Unknown : Prop := devices.records.get? d = none

/-- What `issue` can do for a device. -/
inductive IssueOutcome (draw : Draw) (now : ℤ) :
    Except JsError IssuedDeviceCredential × InMemoryDeviceCredentialRepository → Prop
  | alreadyExists (message : String) (hactive : adapter.active s d ≠ none) :
      IssueOutcome draw now (.error (.DeviceCredentialError .CREDENTIAL_ALREADY_EXISTS message), s)
  | failed (e : JsError)
      (hcode : ∀ message, e ≠ .DeviceCredentialError .CREDENTIAL_ALREADY_EXISTS message)
      (hreason : Unknown devices d ∨ draw.credentialId ∈ s.usedCredentialIds ∨
        maxSafeInteger ≤ adapter.version s d) :
      IssueOutcome draw now (.error e, s)
  | issued (record : StoredCredential) (s' : InMemoryDeviceCredentialRepository)
      (hrecord : record = nextGeneration d (adapter.version s d) draw.credentialId draw.secret now)
      (hvacant : adapter.active s d = none) (h : adapter.Installs s record s') :
      IssueOutcome draw now (.ok ⟨record.toCredential, draw.secret⟩, s')

/-- The stored generation is active and is the one a rotate expects. -/
def Expects (expectedCredentialId : String) (expectedVersion : ℕ) (c : StoredCredential) : Prop :=
  adapter.active s d = some c ∧
    deviceCredentialIdSchema expectedCredentialId = some c.credentialId ∧
    c.version = expectedVersion

/-- What `rotateExpectedWithCredentialId` can do for a device. -/
inductive RotateOutcome (secret : String) (now : ℤ) (expectedCredentialId : String)
    (expectedVersion : ℕ) (credentialId : String) :
    Except JsError IssuedDeviceCredential × InMemoryDeviceCredentialRepository → Prop
  | unavailable (message : String)
      (hstale : ∀ c, ¬ Expects s d expectedCredentialId expectedVersion c) :
      RotateOutcome secret now expectedCredentialId expectedVersion credentialId
        (.error (.DeviceCredentialError .CREDENTIAL_UNAVAILABLE message), s)
  | failed (e : JsError)
      (hcode : ∀ message, e ≠ .DeviceCredentialError .CREDENTIAL_UNAVAILABLE message)
      (hreason : Unknown devices d ∨ deviceCredentialIdSchema expectedCredentialId = none ∨
        expectedVersion = 0 ∨ deviceCredentialIdSchema credentialId = none ∨
        ∃ c, Expects s d expectedCredentialId expectedVersion c ∧
          ((∃ id ∈ s.usedCredentialIds, deviceCredentialIdSchema credentialId = some id) ∨
            now < c.createdAtMs ∨ maxSafeInteger ≤ c.version)) :
      RotateOutcome secret now expectedCredentialId expectedVersion credentialId (.error e, s)
  | rotated (current record : StoredCredential) (id : CredentialId)
      (s' : InMemoryDeviceCredentialRepository)
      (hexpected : Expects s d expectedCredentialId expectedVersion current)
      (hid : deviceCredentialIdSchema credentialId = some id)
      (hrecord : record = nextGeneration d current.version id secret now)
      (h : adapter.Installs s record s') :
      RotateOutcome secret now expectedCredentialId expectedVersion credentialId
        (.ok ⟨record.toCredential, secret⟩, s')

end Outcomes

variable {devices : InMemoryDeviceRepository} {s : InMemoryDeviceCredentialRepository}
variable {d : DeviceId}

theorem exec_getById :
    exec (InMemoryDeviceRepository.getById d.value) devices =
      (.ok ((devices.records.get? d).map toSnapshot), devices) := by
  unfold InMemoryDeviceRepository.getById
  rw [exec_lift_bind_eq (Device.parseDeviceId_value d), exec_get_bind, exec_pure]

theorem requireDevice_value : requireDevice devices d.value =
    orThrow ((devices.records.get? d).map toSnapshot)
      (.DeviceCredentialError .DEVICE_NOT_FOUND "Device không tồn tại.") := by
  unfold requireDevice
  simp only [deviceIdSchema_value, orThrow_some, bind, Except.bind, exec_getById]

@[simp] theorem createCredentialId_eq (generated : CredentialId) :
    createCredentialId generated = .ok generated := parseCredentialId_value generated

@[simp] theorem readNow_some (now : ℤ) : readNow (some now) = .ok now := rfl

theorem snapshot_error {r : StoredCredential} {e : JsError} (h : snapshot r = .error e) :
    ¬ r.Valid ∧ ∃ message, e = .DeviceCredentialError .INVALID_CREDENTIAL_INPUT message := by
  constructor
  · intro hvalid
    rw [snapshot_valid hvalid] at h
    cases h
  · rw [snapshot, orThrow_error h, orThrow, Except.error.injEq] at h
    exact ⟨_, h.symm⟩

theorem parseCredentialId_error {value : String} {e : JsError}
    (h : parseCredentialId value = .error e) : deviceCredentialIdSchema value = none ∧
      ∃ message, e = .DeviceCredentialError .INVALID_CREDENTIAL_INPUT message := by
  have hnone := orThrow_error h
  rw [parseCredentialId, hnone, orThrow, Except.error.injEq] at h
  exact ⟨hnone, _, h.symm⟩

theorem parseVersion_error {value : ℕ} {e : JsError}
    (h : parseVersion (some (value : ℤ)) = .error e) : value = 0 ∧
      ∃ message, e = .DeviceCredentialError .INVALID_CREDENTIAL_INPUT message := by
  rcases Nat.eq_zero_or_pos value with rfl | hpos
  · rw [parseVersion, orThrow_error h, orThrow, Except.error.injEq] at h
    exact ⟨rfl, _, h.symm⟩
  · rw [parseVersion_pos value hpos] at h
    cases h

/-- Every device is stored under its own id. -/
def DevicesKeyed (devices : InMemoryDeviceRepository) : Prop :=
  ∀ d row, devices.records.get? d = some row → row.deviceId = d

/-- The rule for a leading `requireDevice`. -/
theorem requireDevice_cases {β : Type}
    {P : Except JsError β × InMemoryDeviceCredentialRepository → Prop}
    {f : Schemas.Device → Operation InMemoryDeviceCredentialRepository JsError β}
    (hkeyed : DevicesKeyed devices)
    (herror : ∀ message, Unknown devices d →
      P (.error (.DeviceCredentialError .DEVICE_NOT_FOUND message), s))
    (hok : ∀ device, device.deviceId = d → P (exec (f device) s)) :
    P (exec ((liftM (requireDevice devices d.value) : Operation _ _ _) >>= f) s) := by
  refine exec_bind_cases (fun e he => ?_) fun device hdevice => ?_
  · rw [requireDevice_value] at he
    have hnone := orThrow_error he
    rw [hnone, orThrow] at he
    cases he
    exact herror _ (Option.map_eq_none_iff.mp hnone)
  · rw [requireDevice_value] at hdevice
    obtain ⟨row, hrow, rfl⟩ := Option.map_eq_some_iff.mp (orThrow_ok hdevice)
    exact hok _ (hkeyed d row hrow)

theorem issue_outcome (hkeyed : DevicesKeyed devices) (draw : Draw) (now : ℤ) :
    IssueOutcome devices s d draw now (exec (issue devices draw (some now) d.value) s) := by
  unfold issue
  refine requireDevice_cases hkeyed (fun message h => .failed _ (by simp) (.inl h)) ?_
  rintro device rfl
  rw [exec_lift_bind_eq (createCredentialId_eq _), exec_lift_bind_eq (readNow_some now)]
  unfold InMemoryDeviceCredentialRepository.issue
  simp only [bind_assoc]
  rw [exec_lift_bind_eq (parseDeviceId_value _), exec_lift_bind_eq (parseCredentialId_value _),
    exec_lift_bind_eq (parseDigest_value _), exec_lift_bind_eq (readTime_some _), exec_get_bind]
  refine exec_failIf_cases (fun hactive => .alreadyExists _ fun h => ?_) fun hvacant => ?_
  · exact (isActive_none_iff s _).mpr h hactive
  unfold requireUnusedCredentialId
  rw [bind_assoc, exec_get_bind]
  refine exec_failIf_cases (fun hused => .failed _ (by simp) (.inr (.inl hused))) fun hunused => ?_
  refine exec_bind_cases (fun e he => ?_) fun c hc => ?_
  · obtain ⟨hinvalid, message, rfl⟩ := snapshot_error he
    refine .failed _ (by simp) (.inr (.inr (Nat.le_of_not_lt fun hversion => hinvalid ?_)))
    exact nextGeneration_valid.mpr hversion
  · obtain ⟨hvalid, rfl⟩ := snapshot_ok hc
    exact .issued _ _ rfl ((isActive_none_iff s _).mp hvacant) (installs rfl hvalid rfl hunused)

theorem expects_iff {expectedCredentialId : String} {id : CredentialId} {v : ℕ}
    (hid : deviceCredentialIdSchema expectedCredentialId = some id) (c : StoredCredential) :
    Expects s d expectedCredentialId v c ↔
      expectedActive (s.byDeviceId.get? d) id v = some c := by
  simp only [Expects, expectedActive, Adapter.active, Adapter.stored, adapter, hid,
    Option.filter_eq_some_iff, Option.some.injEq, decide_eq_true_eq]
  constructor
  · rintro ⟨⟨hc, hactive⟩, hid, hv⟩
    exact ⟨hc, hactive, hid.symm, hv⟩
  · rintro ⟨hc, hactive, hid, hv⟩
    exact ⟨⟨hc, hactive⟩, hid.symm, hv⟩

theorem rotate_outcome (hkeyed : DevicesKeyed devices) (secret : String) (now : ℤ)
    (expectedCredentialId : String) (expectedVersion : ℕ) (credentialId : String) :
    RotateOutcome devices s d secret now expectedCredentialId expectedVersion credentialId
      (exec (rotateExpectedWithCredentialId devices secret (some now) d.value expectedCredentialId
        expectedVersion credentialId) s) := by
  unfold rotateExpectedWithCredentialId
  refine requireDevice_cases hkeyed (fun message h => .failed _ (by simp) (.inl h)) ?_
  rintro device rfl
  refine exec_bind_cases (fun e he => ?_) fun id hid => ?_
  · obtain ⟨hinvalid, message, rfl⟩ := parseCredentialId_error he
    exact .failed _ (by simp) (.inr (.inr (.inr (.inl hinvalid))))
  have hid := orThrow_ok hid
  rw [exec_lift_bind_eq (readNow_some now)]
  unfold InMemoryDeviceCredentialRepository.rotate
  simp only [bind_assoc]
  rw [exec_lift_bind_eq (parseDeviceId_value _)]
  refine exec_bind_cases (fun e he => ?_) fun expectedId hexpectedId => ?_
  · obtain ⟨hinvalid, message, rfl⟩ := parseCredentialId_error he
    exact .failed _ (by simp) (.inr (.inl hinvalid))
  have hexpectedId := orThrow_ok hexpectedId
  refine exec_bind_cases (fun e he => ?_) fun version hversion => ?_
  · obtain ⟨hzero, message, rfl⟩ := parseVersion_error he
    exact .failed _ (by simp) (.inr (.inr (.inl hzero)))
  obtain rfl : expectedVersion = version :=
    Int.ofNat_inj.mp (Option.some.inj (parseVersion_ok hversion))
  rw [exec_lift_bind_eq (parseCredentialId_value _), exec_lift_bind_eq (parseDigest_value _),
    exec_lift_bind_eq (readTime_some _), exec_get_bind]
  have hexpects := expects_iff (s := s) (d := device.deviceId) (v := expectedVersion) hexpectedId
  cases hcurrent : expectedActive (s.byDeviceId.get? device.deviceId) expectedId
      expectedVersion with
  | none => exact .unavailable _ fun c hc => by simp [hexpects, hcurrent] at hc
  | some current =>
    have hc := (hexpects current).mpr hcurrent
    unfold requireUnusedCredentialId
    simp only [bind_assoc]
    rw [exec_get_bind]
    refine exec_failIf_cases (fun hused => ?_) fun hunused => ?_
    · exact .failed _ (by simp) (.inr (.inr (.inr (.inr ⟨current, hc, .inl ⟨id, hused, hid⟩⟩))))
    refine exec_failIf_cases (fun hearly => ?_) fun _ => ?_
    · exact .failed _ (by simp) (.inr (.inr (.inr (.inr ⟨current, hc, .inr (.inl hearly)⟩))))
    refine exec_bind_cases (fun e he => ?_) fun c hsnapshot => ?_
    · obtain ⟨hinvalid, message, rfl⟩ := snapshot_error he
      have hlimit : maxSafeInteger ≤ current.version :=
        Nat.le_of_not_lt fun hlt => hinvalid (nextGeneration_valid.mpr hlt)
      exact .failed _ (by simp) (.inr (.inr (.inr (.inr ⟨current, hc, .inr (.inr hlimit)⟩))))
    · obtain ⟨hvalid, rfl⟩ := snapshot_ok hsnapshot
      refine .rotated current _ id _ hc hid rfl (installs rfl hvalid ?_ hunused)
      rw [Adapter.version, (Adapter.active_eq_some.mp hc.1).1]
      rfl

/-- `getActive` of a stored device returns its active generation or throws that there is none. -/
theorem exec_getActive_service (hkeyed : DevicesKeyed devices) (hs : adapter.RecordsValid s)
    (hdevice : ¬ Unknown devices d) :
    exec (getActive devices d.value) s =
      (orThrow ((adapter.active s d).map StoredCredential.toCredential) unavailable, s) := by
  unfold getActive
  refine requireDevice_cases (P := fun out => out =
      (orThrow ((adapter.active s d).map StoredCredential.toCredential) unavailable, s))
    hkeyed (fun _ h => absurd h hdevice) ?_
  rintro device rfl
  unfold requireActiveCredential
  rw [exec_bind, InMemoryDeviceCredentialRepository.exec_getActive hs (parseDeviceId_value _)]
  rfl

theorem exec_getActive_unknown (hdevice : Unknown devices d) :
    exec (getActive devices d.value) s =
      (.error (.DeviceCredentialError .DEVICE_NOT_FOUND "Device không tồn tại."), s) := by
  unfold getActive
  rw [requireDevice_value, hdevice, exec_bind]
  rfl

end DeviceCredentialService
end Doctmcp.Credential
