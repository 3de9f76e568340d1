import Mathlib.Data.List.Induction
import Doctmcp.Lib.Runs
import Doctmcp.Credential.Memory

/-! # The generations of a device's credential

What a `DeviceCredentialRepository` is for. A device has a sequence of generations, numbered by
their version; at most the last one is active, and a credential id belongs to one generation for
ever. `Contract` says what one call of a repository can do; the laws about whole histories of calls
(`GenerationLaws`) follow from it, so an adapter is checked against the contract only. -/

namespace Doctmcp.Credential
open Doctmcp.Lib Doctmcp.Lib.Operation Doctmcp.Schemas
set_option autoImplicit false

/-! ## Calls and adapters -/

inductive Call
  | issue (input : IssueInput)
  | getActive (deviceId : String)
  | verify (deviceId secretDigest : String)
  | revoke (input : RevokeInput)
  | rotate (input : RotateInput)
  /-- Another repository of the same storage creates a device between two calls. -/
  | deviceCreated (device : Device)

inductive Reply
  | credential (c : DeviceCredential)
  | lookup (c : Option DeviceCredential)
  | done

abbrev Outcome := Except JsError Reply

/-- A `DeviceCredentialRepository` on the store `S`, and how to read the store. -/
structure Adapter (S : Type) where
  issue : IssueInput → Operation S JsError DeviceCredential
  getActive : String → Operation S JsError (Option DeviceCredential)
  verify : String → String → Operation S JsError (Option DeviceCredential)
  revoke : RevokeInput → Operation S JsError (Option DeviceCredential)
  rotate : RotateInput → Operation S JsError DeviceCredential
  deviceCreated : Device → S → S
  rows : S → OrderedMap DeviceId StoredCredential
  used : S → List CredentialId

namespace Adapter
variable {S : Type} (A : Adapter S)

/-- The outcome of an operation of the adapter as the outcome of a call. -/
def reply {α : Type} (f : α → Reply) (out : Except JsError α × S) : Outcome × S :=
  (out.1.map f, out.2)

def call (s : S) : Call → Outcome × S
  | .issue input => reply .credential (exec (A.issue input) s)
  | .getActive deviceId => reply .lookup (exec (A.getActive deviceId) s)
  | .verify deviceId secretDigest => reply .lookup (exec (A.verify deviceId secretDigest) s)
  | .revoke input => reply .lookup (exec (A.revoke input) s)
  | .rotate input => reply .credential (exec (A.rotate input) s)
  | .deviceCreated device => (.ok .done, A.deviceCreated device s)

/-- The store after a history of calls. -/
def after (s : S) (calls : List Call) : S := runFrom (fun s c => (A.call s c).2) s calls

/-- The calls with their outcomes. -/
def log (s : S) : List Call → List (Call × Outcome)
  | [] => []
  | c :: calls => (c, (A.call s c).1) :: log (A.call s c).2 calls

def stored (s : S) (deviceId : DeviceId) : Option StoredCredential := (A.rows s).get? deviceId

def version (s : S) (deviceId : DeviceId) : ℕ := ((A.stored s deviceId).map (·.version)).getD 0

/-- The active generation of a device. -/
def active (s : S) (deviceId : DeviceId) : Option StoredCredential :=
  (A.stored s deviceId).filter (·.state = .active)

/-- `record` becomes the generation of its device and its id becomes used; nothing else. -/
structure Installs (s : S) (record : StoredCredential) (s' : S) : Prop where
  isActive : record.state = .active
  valid : record.Valid
  version : record.version = A.version s record.deviceId + 1
  unused : record.credentialId ∉ A.used s
  stored : ∀ d, A.stored s' d = if d = record.deviceId then some record else A.stored s d
  used : ∀ c, c ∈ A.used s' ↔ c = record.credentialId ∨ c ∈ A.used s

/-- `current` stays the generation of its device but is no longer active; nothing else. -/
structure Revokes (s : S) (current : StoredCredential) (revokedAtMs : ℤ) (s' : S) : Prop where
  active : A.active s current.deviceId = some current
  notBefore : ¬ revokedAtMs < current.createdAtMs
  stored : ∀ d, A.stored s' d =
    if d = current.deviceId then some (current.revoke revokedAtMs) else A.stored s d
  used : ∀ c, c ∈ A.used s' ↔ c ∈ A.used s

/-- What one call can do. -/
inductive CallOutcome (s : S) : Call → Outcome × S → Prop
  | issueThrown (input : IssueInput) (e : JsError) : CallOutcome s (.issue input) (.error e, s)
  | issued (input : IssueInput) (record : StoredCredential) (s' : S)
      (hdevice : deviceIdSchema input.deviceId = some record.deviceId)
      (hid : deviceCredentialIdSchema input.credentialId = some record.credentialId)
      (hdigest : digestPattern input.secretDigest = some record.secretDigest)
      (hvacant : A.active s record.deviceId = none) (h : A.Installs s record s') :
      CallOutcome s (.issue input) (.ok (.credential record.toCredential), s')
  | getActiveThrown (deviceId : String) (e : JsError) (hinput : deviceIdSchema deviceId = none) :
      CallOutcome s (.getActive deviceId) (.error e, s)
  | getActiveFound (deviceId : String) (d : DeviceId) (hdevice : deviceIdSchema deviceId = some d) :
      CallOutcome s (.getActive deviceId)
        (.ok (.lookup ((A.active s d).map StoredCredential.toCredential)), s)
  | verifyThrown (deviceId secretDigest : String) (e : JsError)
      (hinput : deviceIdSchema deviceId = none ∨ digestPattern secretDigest = none) :
      CallOutcome s (.verify deviceId secretDigest) (.error e, s)
  | verified (deviceId secretDigest : String) (d : DeviceId) (digest : HexDigest)
      (hdevice : deviceIdSchema deviceId = some d)
      (hdigest : digestPattern secretDigest = some digest) :
      CallOutcome s (.verify deviceId secretDigest)
        (.ok (.lookup (((A.active s d).filter (·.secretDigest = digest)).map
          StoredCredential.toCredential)), s)
  | revokeThrown (input : RevokeInput) (e : JsError) : CallOutcome s (.revoke input) (.error e, s)
  | revokeRefused (input : RevokeInput) : CallOutcome s (.revoke input) (.ok (.lookup none), s)
  | revoked (input : RevokeInput) (current : StoredCredential) (revokedAtMs : ℤ) (s' : S)
      (hdevice : deviceIdSchema input.deviceId = some current.deviceId)
      (hid : deviceCredentialIdSchema input.expectedCredentialId = some current.credentialId)
      (hversion : input.expectedVersion = some (current.version : ℤ))
      (h : A.Revokes s current revokedAtMs s') :
      CallOutcome s (.revoke input)
        (.ok (.lookup (some (current.revoke revokedAtMs).toCredential)), s')
  | rotateThrown (input : RotateInput) (e : JsError) : CallOutcome s (.rotate input) (.error e, s)
  | rotated (input : RotateInput) (current record : StoredCredential) (s' : S)
      (hdevice : deviceIdSchema input.deviceId = some record.deviceId)
      (hexpectedId :
        deviceCredentialIdSchema input.expectedCredentialId = some current.credentialId)
      (hexpectedVersion : input.expectedVersion = some (current.version : ℤ))
      (hid : deviceCredentialIdSchema input.credentialId = some record.credentialId)
      (hdigest : digestPattern input.secretDigest = some record.secretDigest)
      (hcurrent : A.active s record.deviceId = some current) (h : A.Installs s record s') :
      CallOutcome s (.rotate input) (.ok (.credential record.toCredential), s')
  | deviceCreated (device : Device) (s' : S) (hstored : ∀ d, A.stored s' d = A.stored s d)
      (hused : ∀ c, c ∈ A.used s' ↔ c ∈ A.used s) :
      CallOutcome s (.deviceCreated device) (.ok .done, s')

/-- `CallOutcome` of an operation of the adapter. -/
def Returns {α : Type} (s : S) (c : Call) (f : α → Reply) (out : Except JsError α × S) : Prop :=
  A.CallOutcome s c (reply f out)

/-- Every record is valid and is kept under its own device id. -/
def RecordsValid (s : S) : Prop := ∀ d r, A.stored s d = some r → r.deviceId = d ∧ r.Valid

/-- From a store with valid records, every call does what it may. -/
def Contract : Prop := ∀ s c, A.RecordsValid s → A.CallOutcome s c (A.call s c)

end Adapter

/-! ## Histories -/

/-- The credential id that a successful issue or rotate accepted. -/
def acceptedId : Call × Outcome → Option CredentialId
  | (.issue _, .ok (.credential c)) => some c.credentialId
  | (.rotate _, .ok (.credential c)) => some c.credentialId
  | _ => none

/-- The device that a successful issue or rotate gave a new generation. -/
def advancedDevice : Call × Outcome → Option DeviceId
  | (.issue _, .ok (.credential c)) => some c.deviceId
  | (.rotate _, .ok (.credential c)) => some c.deviceId
  | _ => none

/-- The device and digest that a successful issue or rotate installed. -/
def installedDigest : Call × Outcome → Option (DeviceId × HexDigest)
  | (.issue input, .ok (.credential c)) =>
    (digestPattern input.secretDigest).map fun digest => (c.deviceId, digest)
  | (.rotate input, .ok (.credential c)) =>
    (digestPattern input.secretDigest).map fun digest => (c.deviceId, digest)
  | _ => none

/-- The device whose generation a successful revoke ended. -/
def revokedDevice : Call × Outcome → Option DeviceId
  | (.revoke _, .ok (.lookup (some c))) => some c.deviceId
  | _ => none

/-- The digest that stands for a device after one more entry of its history. -/
def standingStep (deviceId : DeviceId) (digest : Option HexDigest) (entry : Call × Outcome) :
    Option HexDigest :=
  match installedDigest entry with
  | some (d, new) => if d = deviceId then some new else digest
  | none => if revokedDevice entry = some deviceId then none else digest

/-- The digest installed last for a device, unless it was revoked since. -/
def standing (deviceId : DeviceId) (history : List (Call × Outcome)) : Option HexDigest :=
  history.foldl (standingStep deviceId) none

/-- An outcome that accepted nothing: an error, a `null`, or a lookup. -/
def Quiet : Call × Outcome → Prop
  | (_, .error _) => True
  | (_, .ok (.lookup none)) => True
  | (.getActive _, _) => True
  | (.verify _ _, _) => True
  | _ => False

/-- The expectation of a rotate or revoke names the active generation. -/
def NamesActive {S : Type} (A : Adapter S) (s : S) (deviceId expectedCredentialId : String)
    (expectedVersion : JsNumber) : Prop :=
  ∃ d r, deviceIdSchema deviceId = some d ∧ A.active s d = some r ∧
    deviceCredentialIdSchema expectedCredentialId = some r.credentialId ∧
    expectedVersion = some (r.version : ℤ)

/-- The laws of credential generations, over every history of calls from `init`. -/
structure GenerationLaws {S : Type} (A : Adapter S) (init : S) : Prop where
  one_active : ∀ calls d, ((A.rows (A.after init calls)).values.filter
    (fun r => r.deviceId = d ∧ r.state = .active)).length ≤ 1
  version_mono : ∀ calls more d,
    A.version (A.after init calls) d ≤ A.version (A.after init (calls ++ more)) d
  version_step : ∀ calls c d, A.version (A.after init (calls ++ [c])) d =
    A.version (A.after init calls) d +
      if advancedDevice (c, (A.call (A.after init calls) c).1) = some d then 1 else 0
  accepted_once : ∀ calls, ((A.log init calls).filterMap acceptedId).Nodup
  verify_iff : ∀ calls deviceId secretDigest,
    (∃ c, (A.call (A.after init calls) (.verify deviceId secretDigest)).1 =
      .ok (.lookup (some c))) ↔
    ∃ d digest r, deviceIdSchema deviceId = some d ∧ digestPattern secretDigest = some digest ∧
      A.active (A.after init calls) d = some r ∧ r.secretDigest = digest
  verify_standing : ∀ calls (d : DeviceId) (digest : HexDigest),
    (∃ c, (A.call (A.after init calls) (.verify d.value digest.value)).1 =
      .ok (.lookup (some c))) ↔ standing d (A.log init calls) = some digest
  stale_rotate : ∀ calls input, ¬ NamesActive A (A.after init calls) input.deviceId
      input.expectedCredentialId input.expectedVersion →
    (A.call (A.after init calls) (.rotate input)).2 = A.after init calls
  stale_revoke : ∀ calls input, ¬ NamesActive A (A.after init calls) input.deviceId
      input.expectedCredentialId input.expectedVersion →
    (A.call (A.after init calls) (.revoke input)).2 = A.after init calls
  quiet_unchanged : ∀ calls c, Quiet (c, (A.call (A.after init calls) c).1) →
    (A.call (A.after init calls) c).2 = A.after init calls

/-! ## From the contract to the laws -/

namespace Adapter
variable {S : Type} (A : Adapter S)

theorem after_concat (s : S) (calls : List Call) (c : Call) :
    A.after s (calls ++ [c]) = (A.call (A.after s calls) c).2 := by
  rw [after, runFrom_append]
  rfl

theorem log_append (s : S) (calls more : List Call) :
    A.log s (calls ++ more) = A.log s calls ++ A.log (A.after s calls) more := by
  induction calls generalizing s with
  | nil => rfl
  | cons c calls ih =>
    rw [List.cons_append, log, log, ih, List.cons_append]
    rfl

theorem log_concat (s : S) (calls : List Call) (c : Call) :
    A.log s (calls ++ [c]) = A.log s calls ++ [(c, (A.call (A.after s calls) c).1)] :=
  A.log_append s calls [c]

variable {A}

theorem version_of_stored {s s' : S} (h : ∀ d, A.stored s' d = A.stored s d) (d : DeviceId) :
    A.version s' d = A.version s d := by
  rw [Adapter.version, Adapter.version, h]

theorem active_of_stored {s s' : S} (h : ∀ d, A.stored s' d = A.stored s d) (d : DeviceId) :
    A.active s' d = A.active s d := by
  rw [Adapter.active, Adapter.active, h]

theorem active_eq_some {s : S} {d : DeviceId} {r : StoredCredential} :
    A.active s d = some r ↔ A.stored s d = some r ∧ r.state = .active := by
  simp [Adapter.active, Option.filter_eq_some_iff]

/-! ### What an installation and a revocation do to the readings -/

theorem Installs.version_after {s s' : S} {record : StoredCredential}
    (h : A.Installs s record s') (d : DeviceId) :
    A.version s' d = A.version s d + if record.deviceId = d then 1 else 0 := by
  by_cases hd : d = record.deviceId
  · subst hd
    rw [Adapter.version, h.stored, if_pos rfl, if_pos rfl]
    exact h.version
  · rw [if_neg (Ne.symm hd), Nat.add_zero, Adapter.version, h.stored, if_neg hd]
    rfl

theorem Installs.active_after {s s' : S} {record : StoredCredential}
    (h : A.Installs s record s') (d : DeviceId) :
    A.active s' d = if d = record.deviceId then some record else A.active s d := by
  rw [Adapter.active, h.stored]
  by_cases hd : d = record.deviceId
  · rw [if_pos hd, if_pos hd]
    simp [Option.filter, h.isActive]
  · rw [if_neg hd, if_neg hd]
    rfl

theorem Revokes.version_after {s s' : S} {current : StoredCredential} {t : ℤ}
    (h : A.Revokes s current t s') (d : DeviceId) : A.version s' d = A.version s d := by
  rw [Adapter.version, h.stored]
  by_cases hd : d = current.deviceId
  · subst hd
    rw [if_pos rfl, Adapter.version, (active_eq_some.mp h.active).1]
    rfl
  · rw [if_neg hd]
    rfl

theorem Revokes.active_after {s s' : S} {current : StoredCredential} {t : ℤ}
    (h : A.Revokes s current t s') (d : DeviceId) :
    A.active s' d = if d = current.deviceId then none else A.active s d := by
  rw [Adapter.active, h.stored]
  by_cases hd : d = current.deviceId
  · rw [if_pos hd, if_pos hd]
    simp [Option.filter, StoredCredential.revoke]
  · rw [if_neg hd, if_neg hd]
    rfl

/-! ### One call -/

variable {s : S} {c : Call} {out : Outcome × S}

theorem CallOutcome.version (h : A.CallOutcome s c out) (d : DeviceId) :
    A.version out.2 d = A.version s d + if advancedDevice (c, out.1) = some d then 1 else 0 := by
  cases h with
  | issued input record s' _ _ _ _ h =>
    simpa [advancedDevice, StoredCredential.toCredential] using h.version_after d
  | rotated input current record s' _ _ _ _ _ _ h =>
    simpa [advancedDevice, StoredCredential.toCredential] using h.version_after d
  | revoked input current t s' _ _ _ h => simpa [advancedDevice] using h.version_after d
  | deviceCreated device s' hstored _ => simpa [advancedDevice] using version_of_stored hstored d
  | _ => simp [advancedDevice]

theorem Installs.recordsValid {s s' : S} {record : StoredCredential}
    (h : A.Installs s record s') (hs : A.RecordsValid s) : A.RecordsValid s' := by
  intro d r hr
  rw [h.stored] at hr
  by_cases hd : d = record.deviceId
  · rw [if_pos hd, Option.some.injEq] at hr
    subst hr
    exact ⟨hd.symm, h.valid⟩
  · rw [if_neg hd] at hr
    exact hs d r hr

theorem Revokes.recordsValid {s s' : S} {current : StoredCredential} {t : ℤ}
    (h : A.Revokes s current t s') (hs : A.RecordsValid s) : A.RecordsValid s' := by
  intro d r hr
  rw [h.stored] at hr
  by_cases hd : d = current.deviceId
  · rw [if_pos hd, Option.some.injEq] at hr
    subst hr
    have hcurrent := hs _ _ (active_eq_some.mp h.active).1
    exact ⟨hd.symm, current.valid_revoke hcurrent.2 h.notBefore⟩
  · rw [if_neg hd] at hr
    exact hs d r hr

theorem CallOutcome.recordsValid (h : A.CallOutcome s c out) (hs : A.RecordsValid s) :
    A.RecordsValid out.2 := by
  cases h with
  | issued input record s' _ _ _ _ h => exact h.recordsValid hs
  | rotated input current record s' _ _ _ _ _ _ h => exact h.recordsValid hs
  | revoked input current t s' _ _ _ h => exact h.recordsValid hs
  | deviceCreated device s' hstored _ =>
    intro d r hr
    rw [hstored] at hr
    exact hs d r hr
  | _ => exact hs

/-- An accepted id was unused before the call and is used after it. -/
theorem CallOutcome.accepted (h : A.CallOutcome s c out) {id : CredentialId}
    (hid : acceptedId (c, out.1) = some id) : id ∉ A.used s ∧ id ∈ A.used out.2 := by
  cases h with
  | issued input record s' _ _ _ _ h =>
    obtain rfl : record.credentialId = id := by
      simpa [acceptedId, StoredCredential.toCredential] using hid
    exact ⟨h.unused, (h.used _).mpr (.inl rfl)⟩
  | rotated input current record s' _ _ _ _ _ _ h =>
    obtain rfl : record.credentialId = id := by
      simpa [acceptedId, StoredCredential.toCredential] using hid
    exact ⟨h.unused, (h.used _).mpr (.inl rfl)⟩
  | _ => simp [acceptedId] at hid

theorem CallOutcome.used_mono (h : A.CallOutcome s c out) {id : CredentialId}
    (hid : id ∈ A.used s) : id ∈ A.used out.2 := by
  cases h with
  | issued input record s' _ _ _ _ h => exact (h.used _).mpr (.inr hid)
  | rotated input current record s' _ _ _ _ _ _ h => exact (h.used _).mpr (.inr hid)
  | revoked input current t s' _ _ _ h => exact (h.used _).mpr hid
  | deviceCreated device s' _ hused => exact (hused _).mpr hid
  | _ => exact hid

/-- The digest that stands is the digest of the active generation, call by call. -/
theorem CallOutcome.standing (h : A.CallOutcome s c out) (d : DeviceId) :
    standingStep d ((A.active s d).map (·.secretDigest)) (c, out.1) =
      (A.active out.2 d).map (·.secretDigest) := by
  have hinstall : ∀ (record : StoredCredential) (s' : S), A.Installs s record s' →
      (if record.deviceId = d then some record.secretDigest
        else (A.active s d).map (·.secretDigest)) =
      (A.active s' d).map (·.secretDigest) := by
    intro record s' hi
    rw [hi.active_after d]
    by_cases hd : d = record.deviceId
    · rw [if_pos hd, if_pos hd.symm]
      rfl
    · rw [if_neg hd, if_neg (Ne.symm hd)]
  cases h with
  | issued input record s' _ _ hdigest _ h =>
    simpa [standingStep, installedDigest, hdigest, StoredCredential.toCredential]
      using hinstall record s' h
  | rotated input current record s' _ _ _ _ hdigest _ h =>
    simpa [standingStep, installedDigest, hdigest, StoredCredential.toCredential]
      using hinstall record s' h
  | revoked input current t s' _ _ _ h =>
    rw [h.active_after d]
    by_cases hd : d = current.deviceId
    · simp [standingStep, installedDigest, revokedDevice, StoredCredential.toCredential,
        StoredCredential.revoke, hd]
    · simp [standingStep, installedDigest, revokedDevice, StoredCredential.toCredential,
        StoredCredential.revoke, hd, Ne.symm hd]
  | deviceCreated device s' hstored _ =>
    rw [active_of_stored hstored]
    rfl
  | _ => simp [standingStep, installedDigest, revokedDevice]

theorem CallOutcome.quiet (h : A.CallOutcome s c out) (hquiet : Quiet (c, out.1)) :
    out.2 = s := by
  cases h with
  | issued | rotated | revoked | deviceCreated => exact absurd hquiet (by simp [Quiet])
  | _ => rfl

theorem CallOutcome.stale_rotate {input : RotateInput} (h : A.CallOutcome s (.rotate input) out)
    (hstale : ¬ NamesActive A s input.deviceId input.expectedCredentialId
      input.expectedVersion) : out.2 = s := by
  cases h with
  | rotateThrown => rfl
  | rotated _ current record s' hdevice hid hversion _ _ hcurrent h =>
    exact absurd ⟨_, current, hdevice, hcurrent, hid, hversion⟩ hstale

theorem CallOutcome.stale_revoke {input : RevokeInput} (h : A.CallOutcome s (.revoke input) out)
    (hstale : ¬ NamesActive A s input.deviceId input.expectedCredentialId
      input.expectedVersion) : out.2 = s := by
  cases h with
  | revokeThrown => rfl
  | revokeRefused => rfl
  | revoked _ current t s' hdevice hid hversion h =>
    exact absurd ⟨_, current, hdevice, h.active, hid, hversion⟩ hstale

theorem CallOutcome.verify_iff {deviceId secretDigest : String}
    (h : A.CallOutcome s (.verify deviceId secretDigest) out) :
    (∃ c, out.1 = .ok (.lookup (some c))) ↔
    ∃ d digest r, deviceIdSchema deviceId = some d ∧ digestPattern secretDigest = some digest ∧
      A.active s d = some r ∧ r.secretDigest = digest := by
  cases h with
  | verifyThrown _ _ e hinput =>
    rcases hinput with h | h <;> simp [h]
  | verified _ _ d digest hdevice hdigest =>
    have hfound : (∃ r, A.active s d = some r ∧ r.secretDigest = digest) ↔
        ∃ r, digest = r.secretDigest ∧ A.active s d = some r :=
      exists_congr fun r => ⟨fun ⟨ha, hd⟩ => ⟨hd.symm, ha⟩, fun ⟨hd, ha⟩ => ⟨ha, hd.symm⟩⟩
    simpa [hdevice, hdigest, Option.filter_eq_some_iff] using hfound

/-! ### Histories -/

section Histories
variable (h : A.Contract) {init : S} (hinit : A.RecordsValid init)
include h hinit

theorem Contract.after (calls : List Call) : A.RecordsValid (A.after init calls) :=
  runFrom_invariant (fun s c hs => (h s c hs).recordsValid hs) hinit calls

theorem Contract.call_after (calls : List Call) (c : Call) :
    A.CallOutcome (A.after init calls) c (A.call (A.after init calls) c) :=
  h _ c (h.after hinit calls)

theorem Contract.one_active (calls : List Call) (d : DeviceId) :
    ((A.rows (A.after init calls)).values.filter
      (fun r => r.deviceId = d ∧ r.state = .active)).length ≤ 1 := by
  refine OrderedMap.length_filter_values_le_one _ d _ fun j r hr hp => ?_
  have hkey : r.deviceId = j := (h.after hinit calls j r hr).1
  exact hkey.symm.trans (of_decide_eq_true hp).1

theorem Contract.version_step (calls : List Call) (c : Call) (d : DeviceId) :
    A.version (A.after init (calls ++ [c])) d = A.version (A.after init calls) d +
      if advancedDevice (c, (A.call (A.after init calls) c).1) = some d then 1 else 0 := by
  rw [after_concat]
  exact (h.call_after hinit calls c).version d

theorem Contract.version_mono (calls more : List Call) (d : DeviceId) :
    A.version (A.after init calls) d ≤ A.version (A.after init (calls ++ more)) d := by
  induction more using List.reverseRecOn with
  | nil => simp
  | append_singleton more c ih =>
    rw [← List.append_assoc, h.version_step hinit]
    omega

theorem Contract.accepted_used (calls : List Call) :
    ∀ id ∈ (A.log init calls).filterMap acceptedId, id ∈ A.used (A.after init calls) := by
  induction calls using List.reverseRecOn with
  | nil => simp [log]
  | append_singleton calls c ih =>
    have hstep := h.call_after hinit calls c
    intro id hid
    rw [log_concat, List.filterMap_append, List.mem_append] at hid
    rw [after_concat]
    rcases hid with hid | hid
    · exact hstep.used_mono (ih id hid)
    · exact (hstep.accepted (by simpa using hid)).2

theorem Contract.accepted_once (calls : List Call) :
    ((A.log init calls).filterMap acceptedId).Nodup := by
  induction calls using List.reverseRecOn with
  | nil => simp [log]
  | append_singleton calls c ih =>
    rw [log_concat, List.filterMap_append, List.nodup_append]
    refine ⟨ih, ?_, ?_⟩
    · rw [List.filterMap_cons, List.filterMap_nil]
      split <;> simp
    · intro id hid id' hid' heq
      subst heq
      have hid' : acceptedId (c, (A.call (A.after init calls) c).1) = some id := by simpa using hid'
      have hnew := ((h.call_after hinit calls c).accepted hid').1
      exact hnew (h.accepted_used hinit calls id hid)

theorem Contract.standing_active (hempty : ∀ d, A.stored init d = none) (calls : List Call)
    (d : DeviceId) :
    Credential.standing d (A.log init calls) =
      (A.active (A.after init calls) d).map (·.secretDigest) := by
  induction calls using List.reverseRecOn with
  | nil =>
    change none = (A.active init d).map _
    rw [Adapter.active, hempty]
    rfl
  | append_singleton calls c ih =>
    rw [log_concat, after_concat, Credential.standing, List.foldl_append]
    change standingStep d (Credential.standing d (A.log init calls)) _ = _
    rw [ih]
    exact (h.call_after hinit calls c).standing d

end Histories

/-- An adapter that meets the contract obeys the laws from every empty store. -/
theorem Contract.generationLaws (h : A.Contract) {init : S}
    (hempty : ∀ d, A.stored init d = none) : GenerationLaws A init := by
  have hinit : A.RecordsValid init := fun d r hr => by simp [hempty] at hr
  exact {
    one_active := h.one_active hinit
    version_mono := h.version_mono hinit
    version_step := h.version_step hinit
    accepted_once := h.accepted_once hinit
    verify_iff := fun calls _ _ => (h.call_after hinit calls _).verify_iff
    verify_standing := fun calls d digest => by
      rw [(h.call_after hinit calls _).verify_iff, h.standing_active hinit hempty]
      have hfound :
          (∃ r, digest = r.secretDigest ∧ A.active (A.after init calls) d = some r) ↔
          ∃ r, A.active (A.after init calls) d = some r ∧ r.secretDigest = digest :=
        exists_congr fun r => ⟨fun ⟨hd, ha⟩ => ⟨ha, hd.symm⟩, fun ⟨ha, hd⟩ => ⟨hd.symm, ha⟩⟩
      simpa [Option.map_eq_some_iff] using hfound
    stale_rotate := fun calls input => (h.call_after hinit calls _).stale_rotate
    stale_revoke := fun calls input => (h.call_after hinit calls _).stale_revoke
    quiet_unchanged := fun calls c => (h.call_after hinit calls c).quiet }

end Adapter
end Doctmcp.Credential
