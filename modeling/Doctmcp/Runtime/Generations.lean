import Doctmcp.Credential.Generations
import Doctmcp.Credential.Service
import Doctmcp.Gateway.Session

/-! # The credentials of the runtime

What the runtime does with its credential repository, which may be any that keeps the contract: the
methods of `DeviceCredentialService` that it calls, and what each of them makes of the generation that
is active for a device. A generation that was replaced is `Retired` and stays so. -/

namespace Doctmcp.Runtime
open Doctmcp.Lib Doctmcp.Lib.Operation Doctmcp.Schemas Doctmcp.Gateway Doctmcp.Credential
open Credential.DeviceCredentialService (unavailable readNow)
set_option autoImplicit false

/-- A credential as `generationFromCredential` names it. -/
structure CredentialGeneration where
  credentialId : CredentialId
  credentialVersion : ℕ
  deriving DecidableEq

def generationFromCredential (credential : DeviceCredential) : CredentialGeneration :=
  ⟨credential.credentialId, credential.version⟩

/-- A device repository as `getById` shows it. -/
structure Devices where
  rows : OrderedMap DeviceId Schemas.Device
  keyed : ∀ d device, rows.get? d = some device → device.deviceId = d

def Devices.empty : Devices := ⟨OrderedMap.empty, fun _ _ h => by cases h⟩

/-- A device is created; devices are not replaced. -/
def Devices.create (devices : Devices) (device : Schemas.Device) : Devices where
  rows := if devices.rows.has device.deviceId then devices.rows
    else devices.rows.set device.deviceId device
  keyed := by
    intro d other h
    split at h
    · exact devices.keyed d other h
    · rw [OrderedMap.get?_set] at h
      split_ifs at h with hd
      · rw [← Option.some.inj h, hd]
      · exact devices.keyed d other h

structure VerifiedDeviceCredential where
  credential : DeviceCredential
  identity : AuthenticatedDeviceIdentity
  deriving DecidableEq

section
variable {S : Type} (A : Adapter S) (devices : Devices)

/-! ## The service -/

def requireDevice (deviceId : DeviceId) : Except JsError Schemas.Device :=
  orThrow (devices.rows.get? deviceId) (.DeviceCredentialError .DEVICE_NOT_FOUND "Device không tồn tại.")

def issue (draw : Draw) (now : JsDate) (deviceId : DeviceId) :
    Operation S JsError IssuedDeviceCredential := do
  let device ← requireDevice devices deviceId
  let createdAt ← readNow now
  let credential ← A.issue
    { deviceId := device.deviceId.value, credentialId := draw.credentialId.value,
      secretDigest := (digestDeviceCredentialSecret draw.secret).value, createdAt := some createdAt }
  return ⟨credential, draw.secret⟩

def getActive (deviceId : DeviceId) : Operation S JsError DeviceCredential := do
  let device ← requireDevice devices deviceId
  let credential ← A.getActive device.deviceId.value
  orThrow credential unavailable

def verify (deviceId : DeviceId) (secret : String) : Operation S JsError VerifiedDeviceCredential := do
  failIf (secret = "") unavailable
  let device ← orThrow (devices.rows.get? deviceId) unavailable
  let credential ← A.verify device.deviceId.value (digestDeviceCredentialSecret secret).value
  let credential ← orThrow credential unavailable
  return ⟨credential, ⟨device.ownerId, device.deviceId⟩⟩

def rotateExpectedWithCredentialId (secret : String) (now : JsDate) (deviceId : DeviceId)
    (expected : CredentialGeneration) (credentialId : String) :
    Operation S JsError IssuedDeviceCredential := do
  let device ← requireDevice devices deviceId
  let parsedCredentialId ← parseCredentialId credentialId
  let rotatedAt ← readNow now
  let credential ← A.rotate
    { deviceId := device.deviceId.value, expectedCredentialId := expected.credentialId.value,
      expectedVersion := some (expected.credentialVersion : ℤ),
      credentialId := parsedCredentialId.value,
      secretDigest := (digestDeviceCredentialSecret secret).value, rotatedAt := some rotatedAt }
  return ⟨credential, secret⟩

/-- `credentialRepository.revoke` as `revokeDeviceCredentialInternal` calls it. -/
def revoke (now : JsDate) (current : DeviceCredential) : Operation S JsError DeviceCredential := do
  let revoked ← A.revoke
    { deviceId := current.deviceId.value, expectedCredentialId := current.credentialId.value,
      expectedVersion := some (current.version : ℤ), revokedAt := now }
  orThrow revoked unavailable

end

/-! ## Active and retired generations -/

section
variable {S : Type} {A : Adapter S}

variable (A) in
/-- The generation is the active one of the device. -/
def IsActive (s : S) (d : DeviceId) (generation : CredentialGeneration) : Prop :=
  ∃ r, A.active s d = some r ∧ generationFromCredential r.toCredential = generation

variable (A) in
/-- The device is past the generation. -/
def Retired (s : S) (d : DeviceId) (generation : CredentialGeneration) : Prop :=
  generation.credentialVersion ≤ A.version s d ∧
    ∀ r, A.active s d = some r → generation.credentialVersion < r.version

theorem Retired.not_active {s : S} {d : DeviceId} {generation : CredentialGeneration}
    (h : Retired A s d generation) : ¬ IsActive A s d generation := by
  rintro ⟨r, hr, rfl⟩
  exact Nat.lt_irrefl _ (h.2 r hr)

theorem IsActive.unique {s : S} {d : DeviceId} {g g' : CredentialGeneration} (h : IsActive A s d g)
    (h' : IsActive A s d g') : g = g' := by
  obtain ⟨r, hr, rfl⟩ := h
  obtain ⟨r', hr', rfl⟩ := h'
  rw [hr, Option.some.injEq] at hr'
  rw [hr']

variable (A) in
/-- What a call for a device can change: it may make an end of the active generation, and whatever
is active afterwards and was not before has a version of its own. -/
structure Changes (s s' : S) (d : DeviceId) (replaced : Option CredentialGeneration) : Prop where
  valid : A.RecordsValid s'
  others : ∀ d', d' ≠ d → A.stored s' d' = A.stored s d'
  version : A.version s d ≤ A.version s' d
  active : ∀ r, A.active s' d = some r → A.active s d = some r ∨ A.version s d < r.version
  kept : replaced = none → ∀ r, A.active s d = some r → A.active s' d = some r
  replaces : ∀ g, replaced = some g → IsActive A s d g ∧ Retired A s' d g

theorem Changes.refl {s : S} (hs : A.RecordsValid s) (d : DeviceId) : Changes A s s d none where
  valid := hs
  others := fun _ _ => rfl
  version := Nat.le_refl _
  active := fun _ h => .inl h
  kept := fun _ _ h => h
  replaces := fun g h => by cases h

theorem Changes.version_other {s s' : S} {d : DeviceId} {replaced : Option CredentialGeneration}
    (h : Changes A s s' d replaced) {d' : DeviceId} (hd : d' ≠ d) :
    A.version s' d' = A.version s d' := by
  rw [Adapter.version, h.others d' hd, Adapter.version]

theorem Changes.active_other {s s' : S} {d : DeviceId} {replaced : Option CredentialGeneration}
    (h : Changes A s s' d replaced) {d' : DeviceId} (hd : d' ≠ d) :
    A.active s' d' = A.active s d' := by
  rw [Adapter.active, h.others d' hd, Adapter.active]

/-- An active generation stays active, unless it is the one that is replaced. -/
theorem Changes.isActive {s s' : S} {d d' : DeviceId} {replaced : Option CredentialGeneration}
    (h : Changes A s s' d replaced) {g : CredentialGeneration} (hactive : IsActive A s d' g) :
    IsActive A s' d' g ∨ (d' = d ∧ replaced = some g) := by
  by_cases hd : d' = d
  · subst hd
    cases hreplaced : replaced with
    | none =>
      obtain ⟨r, hr, hg⟩ := hactive
      exact .inl ⟨r, h.kept hreplaced r hr, hg⟩
    | some g' =>
      have heq := (h.replaces g' hreplaced).1.unique hactive
      exact .inr ⟨rfl, congrArg some heq⟩
  · obtain ⟨r, hr, hg⟩ := hactive
    exact .inl ⟨r, (h.active_other hd).trans hr, hg⟩

/-- A retired generation stays retired. -/
theorem Changes.retired {s s' : S} {d d' : DeviceId} {replaced : Option CredentialGeneration}
    (h : Changes A s s' d replaced) {g : CredentialGeneration} (hretired : Retired A s d' g) :
    Retired A s' d' g := by
  obtain ⟨hle, hlt⟩ := hretired
  by_cases hd : d' = d
  · subst hd
    refine ⟨hle.trans h.version, fun r hr => ?_⟩
    rcases h.active r hr with hold | hnew
    · exact hlt r hold
    · exact Nat.lt_of_le_of_lt hle hnew
  · refine ⟨(h.version_other hd).symm ▸ hle, fun r hr => hlt r ?_⟩
    rw [← h.active_other hd, hr]

/-! ## What the calls change -/

theorem version_of_active {s : S} {d : DeviceId} {r : StoredCredential} (h : A.active s d = some r) :
    A.version s d = r.version := by
  rw [Adapter.version, (Adapter.active_eq_some.mp h).1]
  rfl

/-- A generation is installed where none was active. -/
theorem changes_issued {s s' : S} {record : StoredCredential} (hs : A.RecordsValid s)
    (h : A.Installs s record s') (hvacant : A.active s record.deviceId = none) :
    Changes A s s' record.deviceId none where
  valid := h.recordsValid hs
  others := fun d' hd => by rw [h.stored, if_neg hd]
  version := by
    rw [h.version_after]
    exact Nat.le_add_right _ _
  active := by
    intro r hr
    rw [h.active_after, if_pos rfl, Option.some.injEq] at hr
    rw [← hr, h.version]
    exact .inr (Nat.lt_succ_self _)
  kept := fun _ r hr => by rw [hvacant] at hr; cases hr
  replaces := fun g hg => by cases hg

/-- A generation is installed in the place of the active one. -/
theorem changes_rotated {s s' : S} {current record : StoredCredential} (hs : A.RecordsValid s)
    (h : A.Installs s record s') (hcurrent : A.active s record.deviceId = some current) :
    Changes A s s' record.deviceId (some (generationFromCredential current.toCredential)) where
  valid := h.recordsValid hs
  others := fun d' hd => by rw [h.stored, if_neg hd]
  version := by
    rw [h.version_after]
    exact Nat.le_add_right _ _
  active := by
    intro r hr
    rw [h.active_after, if_pos rfl, Option.some.injEq] at hr
    rw [← hr, h.version]
    exact .inr (Nat.lt_succ_self _)
  kept := fun hnone => by cases hnone
  replaces := by
    rintro g hg
    cases hg
    have hversion := version_of_active hcurrent
    refine ⟨⟨current, hcurrent, rfl⟩, ?_, fun r hr => ?_⟩
    · rw [h.version_after, hversion]
      exact Nat.le_add_right _ _
    · rw [h.active_after, if_pos rfl, Option.some.injEq] at hr
      rw [← hr, h.version, hversion]
      exact Nat.lt_succ_self _

/-- The active generation is revoked. -/
theorem changes_revoked {s s' : S} {current : StoredCredential} {t : ℤ} (hs : A.RecordsValid s)
    (h : A.Revokes s current t s') :
    Changes A s s' current.deviceId (some (generationFromCredential current.toCredential)) where
  valid := h.recordsValid hs
  others := fun d' hd => by rw [h.stored, if_neg hd]
  version := by rw [h.version_after]
  active := fun r hr => by rw [h.active_after, if_pos rfl] at hr; cases hr
  kept := fun hnone => by cases hnone
  replaces := by
    rintro g hg
    cases hg
    refine ⟨⟨current, h.active, rfl⟩, ?_, fun r hr => ?_⟩
    · rw [h.version_after, version_of_active h.active]
      exact Nat.le_refl _
    · rw [h.active_after, if_pos rfl] at hr
      cases hr

/-! ## The calls of the repository -/

variable {s : S} {d : DeviceId}

theorem reply_error {α : Type} {f : α → Reply} {out : Except JsError α × S} {e : JsError} {s' : S}
    (h : Adapter.reply f out = (.error e, s')) : out = (.error e, s') := by
  obtain ⟨result, s''⟩ := out
  cases result with
  | error e' => simpa [Adapter.reply, Except.map] using h
  | ok a => simp [Adapter.reply, Except.map] at h

theorem reply_ok {α : Type} {f : α → Reply} {out : Except JsError α × S} {reply : Reply} {s' : S}
    (h : Adapter.reply f out = (.ok reply, s')) : ∃ a, out = (.ok a, s') ∧ f a = reply := by
  obtain ⟨result, s''⟩ := out
  cases result with
  | error e' => simp [Adapter.reply, Except.map] at h
  | ok a =>
    simp only [Adapter.reply, Except.map, Prod.mk.injEq, Except.ok.injEq] at h
    exact ⟨a, by rw [h.2], h.1⟩

/-- A call that ends the generation returns, or changes nothing. -/
def Replaces {α : Type} (A : Adapter S) (s : S) (d : DeviceId) (generation : CredentialGeneration)
    (out : Except JsError α × S) : Prop :=
  (∃ e, out = (.error e, s)) ∨ ∃ a s', out = (.ok a, s') ∧ Changes A s s' d (some generation)

theorem contract_issue (hA : A.Contract) (hs : A.RecordsValid s) (input : IssueInput)
    (hdevice : deviceIdSchema input.deviceId = some d) :
    Changes A s (exec (A.issue input) s).2 d none := by
  have houtcome := hA s (.issue input) hs
  generalize hout : A.call s (.issue input) = out at houtcome
  cases houtcome with
  | issueThrown _ e =>
    rw [reply_error hout]
    exact .refl hs d
  | issued _ record s' hdevice' hid hdigest hvacant h =>
    obtain ⟨c, hexec, -⟩ := reply_ok hout
    rw [hdevice, Option.some.injEq] at hdevice'
    subst hdevice'
    rw [hexec]
    exact changes_issued hs h hvacant

theorem contract_rotate (hA : A.Contract) (hs : A.RecordsValid s) (input : RotateInput)
    (expected : CredentialGeneration) (hdevice : deviceIdSchema input.deviceId = some d)
    (hid : input.expectedCredentialId = expected.credentialId.value)
    (hversion : input.expectedVersion = some (expected.credentialVersion : ℤ)) :
    Replaces A s d expected (exec (A.rotate input) s) := by
  have houtcome := hA s (.rotate input) hs
  generalize hout : A.call s (.rotate input) = out at houtcome
  cases houtcome with
  | rotateThrown _ e => exact .inl ⟨e, reply_error hout⟩
  | rotated _ current record s' hdevice' hexpectedId hexpectedVersion hid' hdigest hcurrent h =>
    obtain ⟨c, hexec, -⟩ := reply_ok hout
    rw [hdevice, Option.some.injEq] at hdevice'
    subst hdevice'
    rw [hid, deviceCredentialIdSchema_value, Option.some.injEq] at hexpectedId
    rw [hversion, Option.some.injEq, Int.natCast_inj] at hexpectedVersion
    have hchanges := changes_rotated hs h hcurrent
    unfold generationFromCredential StoredCredential.toCredential at hchanges
    rw [← hexpectedId, ← hexpectedVersion] at hchanges
    exact .inr ⟨c, s', hexec, hchanges⟩

theorem contract_revoke (hA : A.Contract) (hs : A.RecordsValid s) (input : RevokeInput)
    (expected : CredentialGeneration) (hdevice : deviceIdSchema input.deviceId = some d)
    (hid : input.expectedCredentialId = expected.credentialId.value)
    (hversion : input.expectedVersion = some (expected.credentialVersion : ℤ)) :
    (∃ e, exec (A.revoke input) s = (.error e, s)) ∨ exec (A.revoke input) s = (.ok none, s) ∨
      ∃ c s', exec (A.revoke input) s = (.ok (some c), s') ∧ Changes A s s' d (some expected) := by
  have houtcome := hA s (.revoke input) hs
  generalize hout : A.call s (.revoke input) = out at houtcome
  cases houtcome with
  | revokeThrown _ e => exact .inl ⟨e, reply_error hout⟩
  | revokeRefused _ =>
    obtain ⟨c, hexec, hc⟩ := reply_ok hout
    cases hc
    exact .inr (.inl hexec)
  | revoked _ current t s' hdevice' hexpectedId hexpectedVersion h =>
    obtain ⟨c, hexec, hc⟩ := reply_ok hout
    rw [hdevice, Option.some.injEq] at hdevice'
    subst hdevice'
    rw [hid, deviceCredentialIdSchema_value, Option.some.injEq] at hexpectedId
    rw [hversion, Option.some.injEq, Int.natCast_inj] at hexpectedVersion
    have hchanges := changes_revoked hs h
    unfold generationFromCredential StoredCredential.toCredential at hchanges
    rw [← hexpectedId, ← hexpectedVersion] at hchanges
    cases hc
    exact .inr (.inr ⟨_, s', hexec, hchanges⟩)

/-- A reading returns what is active, or throws. -/
def Finds {α : Type} (A : Adapter S) (s : S) (d : DeviceId) (credential : α → Option DeviceCredential)
    (out : Except JsError α × S) : Prop :=
  (∃ e, out = (.error e, s)) ∨ ∃ a, out = (.ok a, s) ∧
    ∀ c, credential a = some c → ∃ r, A.active s d = some r ∧ c = r.toCredential

theorem contract_verify (hA : A.Contract) (hs : A.RecordsValid s) {deviceId : String}
    (hdevice : deviceIdSchema deviceId = some d) (secretDigest : String) :
    Finds A s d id (exec (A.verify deviceId secretDigest) s) := by
  have houtcome := hA s (.verify deviceId secretDigest) hs
  generalize hout : A.call s (.verify deviceId secretDigest) = out at houtcome
  cases houtcome with
  | verifyThrown _ _ e => exact .inl ⟨e, reply_error hout⟩
  | verified _ _ d' digest hdevice' =>
    obtain ⟨found, hexec, hfound⟩ := reply_ok hout
    rw [hdevice, Option.some.injEq] at hdevice'
    subst hdevice'
    refine .inr ⟨found, hexec, fun c hc => ?_⟩
    simp only [Reply.lookup.injEq, id_eq] at hfound hc
    rw [hc] at hfound
    obtain ⟨r, hr, hrc⟩ := Option.map_eq_some_iff.mp hfound.symm
    exact ⟨r, (Option.filter_eq_some_iff.mp hr).1, hrc.symm⟩

theorem contract_getActive (hA : A.Contract) (hs : A.RecordsValid s) {deviceId : String}
    (hdevice : deviceIdSchema deviceId = some d) :
    Finds A s d id (exec (A.getActive deviceId) s) := by
  have houtcome := hA s (.getActive deviceId) hs
  generalize hout : A.call s (.getActive deviceId) = out at houtcome
  cases houtcome with
  | getActiveThrown _ e => exact .inl ⟨e, reply_error hout⟩
  | getActiveFound _ d' hdevice' =>
    obtain ⟨found, hexec, hfound⟩ := reply_ok hout
    rw [hdevice, Option.some.injEq] at hdevice'
    subst hdevice'
    refine .inr ⟨found, hexec, fun c hc => ?_⟩
    simp only [Reply.lookup.injEq, id_eq] at hfound hc
    rw [hc] at hfound
    obtain ⟨r, hr, hrc⟩ := Option.map_eq_some_iff.mp hfound.symm
    exact ⟨r, hr, hrc.symm⟩

/-- A device that is created has no part in what is stored. -/
theorem deviceCreated_changes (hA : A.Contract) (hs : A.RecordsValid s) (device : Schemas.Device)
    (d : DeviceId) : Changes A s (A.deviceCreated device s) d none := by
  have houtcome := hA s (.deviceCreated device) hs
  generalize hout : A.call s (.deviceCreated device) = out at houtcome
  cases houtcome with
  | deviceCreated _ s' hstored hused =>
    obtain rfl : A.deviceCreated device s = s' := (Prod.mk.inj hout).2
    exact {
      valid := fun d r hr => hs d r (hstored d ▸ hr)
      others := fun d' _ => hstored d'
      version := by rw [Adapter.version_of_stored hstored]
      active := fun r hr => .inl (Adapter.active_of_stored hstored d ▸ hr)
      kept := fun _ r hr => (Adapter.active_of_stored hstored d).trans hr
      replaces := fun g hg => by cases hg }

/-! ## The methods -/

variable {devices : Devices}

/-- The rule for a leading `requireDevice`. -/
theorem requireDevice_cases {β : Type} {P : Except JsError β × S → Prop}
    {f : Schemas.Device → Operation S JsError β} (herror : ∀ e, P (.error e, s))
    (hok : ∀ device, device.deviceId = d → P (exec (f device) s)) :
    P (exec ((liftM (requireDevice devices d) : Operation S JsError _) >>= f) s) := by
  refine exec_bind_cases (fun e _ => herror e) fun device hdevice => ?_
  exact hok device (devices.keyed d device (orThrow_ok hdevice))

theorem issue_changes (hA : A.Contract) (hs : A.RecordsValid s) (draw : Draw) (now : JsDate) :
    Changes A s (exec (issue A devices draw now d) s).2 d none := by
  unfold issue
  refine requireDevice_cases (P := fun out => Changes A s out.2 d none) (fun e => .refl hs d) ?_
  rintro device rfl
  refine exec_bind_cases (P := fun out => Changes A s out.2 device.deviceId none) (fun e _ => .refl hs _)
    fun createdAt _ => ?_
  have hcall := contract_issue hA hs
    { deviceId := device.deviceId.value, credentialId := draw.credentialId.value,
      secretDigest := (digestDeviceCredentialSecret draw.secret).value, createdAt := some createdAt }
    (deviceIdSchema_value device.deviceId)
  rw [exec_bind]
  generalize exec (A.issue _) s = out at hcall ⊢
  obtain ⟨result, s'⟩ := out
  cases result <;> exact hcall

variable (devices) in
theorem rotate_replaces (hA : A.Contract) (hs : A.RecordsValid s) (secret : String) (now : JsDate)
    (expected : CredentialGeneration) (credentialId : String) :
    Replaces A s d expected
      (exec (rotateExpectedWithCredentialId A devices secret now d expected credentialId) s) := by
  unfold rotateExpectedWithCredentialId
  refine requireDevice_cases (fun e => .inl ⟨e, rfl⟩) ?_
  rintro device rfl
  refine exec_bind_cases (fun e _ => .inl ⟨e, rfl⟩) fun id _ => ?_
  refine exec_bind_cases (fun e _ => .inl ⟨e, rfl⟩) fun rotatedAt _ => ?_
  rw [exec_bind]
  obtain ⟨e, hexec⟩ | ⟨c, s', hexec, hchanges⟩ := contract_rotate hA hs
    { deviceId := device.deviceId.value, expectedCredentialId := expected.credentialId.value,
      expectedVersion := some (expected.credentialVersion : ℤ), credentialId := id.value,
      secretDigest := (digestDeviceCredentialSecret secret).value, rotatedAt := some rotatedAt }
    expected (deviceIdSchema_value device.deviceId) rfl rfl
  · rw [hexec]
    exact .inl ⟨e, rfl⟩
  · rw [hexec]
    exact .inr ⟨_, s', rfl, hchanges⟩

theorem revoke_replaces (hA : A.Contract) (hs : A.RecordsValid s) (now : JsDate)
    (current : DeviceCredential) :
    Replaces A s current.deviceId (generationFromCredential current) (exec (revoke A now current) s) := by
  unfold revoke
  rw [exec_bind]
  obtain ⟨e, hexec⟩ | hexec | ⟨c, s', hexec, hchanges⟩ := contract_revoke hA hs
    { deviceId := current.deviceId.value, expectedCredentialId := current.credentialId.value,
      expectedVersion := some (current.version : ℤ), revokedAt := now }
    (generationFromCredential current) (deviceIdSchema_value current.deviceId) rfl rfl
  · rw [hexec]
    exact .inl ⟨e, rfl⟩
  · rw [hexec]
    exact .inl ⟨_, rfl⟩
  · rw [hexec]
    exact .inr ⟨c, s', rfl, hchanges⟩

variable (devices) in
/-- What `verify` returns is about its device. -/
theorem verify_finds (hA : A.Contract) (hs : A.RecordsValid s) (secret : String) :
    Finds A s d (fun v : VerifiedDeviceCredential => some v.credential)
        (exec (verify A devices d secret) s) ∧
      ∀ v, (exec (verify A devices d secret) s).1 = .ok v → v.identity.deviceId = d := by
  unfold verify
  refine exec_failIf_cases (P := fun out => Finds A s d (fun v : VerifiedDeviceCredential =>
    some v.credential) out ∧ ∀ v, out.1 = .ok v → v.identity.deviceId = d)
    (fun _ => ⟨.inl ⟨_, rfl⟩, fun v h => by cases h⟩) fun _ => ?_
  refine exec_bind_cases (P := fun out => Finds A s d (fun v : VerifiedDeviceCredential =>
    some v.credential) out ∧ ∀ v, out.1 = .ok v → v.identity.deviceId = d)
    (fun e _ => ⟨.inl ⟨e, rfl⟩, fun v h => by cases h⟩) fun device hdevice => ?_
  obtain rfl := devices.keyed d device (orThrow_ok hdevice)
  rw [exec_bind]
  obtain ⟨e, hexec⟩ | ⟨found, hexec, hfound⟩ := contract_verify hA hs
    (deviceIdSchema_value device.deviceId) (digestDeviceCredentialSecret secret).value
  · rw [hexec]
    exact ⟨.inl ⟨e, rfl⟩, fun v h => by cases h⟩
  · rw [hexec]
    cases found with
    | none => exact ⟨.inl ⟨_, rfl⟩, fun v h => by cases h⟩
    | some c =>
      refine ⟨.inr ⟨_, rfl, fun c' hc' => ?_⟩, fun v h => by cases h; rfl⟩
      cases hc'
      exact hfound c rfl

variable (devices) in
theorem getActive_finds (hA : A.Contract) (hs : A.RecordsValid s) :
    Finds A s d some (exec (getActive A devices d) s) := by
  unfold getActive
  refine requireDevice_cases (fun e => .inl ⟨e, rfl⟩) ?_
  rintro device rfl
  rw [exec_bind]
  obtain ⟨e, hexec⟩ | ⟨found, hexec, hfound⟩ := contract_getActive hA hs
    (deviceIdSchema_value device.deviceId)
  · rw [hexec]
    exact .inl ⟨e, rfl⟩
  · rw [hexec]
    cases found with
    | none => exact .inl ⟨_, rfl⟩
    | some c =>
      refine .inr ⟨c, rfl, fun c' hc' => ?_⟩
      cases hc'
      exact hfound c rfl

end
end Doctmcp.Runtime
