import Doctmcp.Lib.OrderedMap
import Doctmcp.Lib.Operation
import Doctmcp.Lib.Sha256
import Doctmcp.Schemas.Records
import Doctmcp.Schemas.Errors

/-! # The in-memory credential repository

`InMemoryDeviceCredentialRepository` of `apps/server/src/device-credential.ts`. Every mutation runs
to its end inside `#exclusive`, so one call is one operation on the store: concurrent calls are
calls in some order. -/

namespace Doctmcp.Credential
open Doctmcp.Lib Doctmcp.Lib.Operation Doctmcp.Schemas
set_option autoImplicit false

/-! ## Records and inputs -/

structure StoredCredential where
  credentialId : CredentialId
  deviceId : DeviceId
  version : ℕ
  secretDigest : HexDigest
  createdAtMs : ℤ
  state : DeviceCredentialState
  revokedAtMs : Option ℤ
  deriving DecidableEq

structure IssueInput where
  deviceId : String
  credentialId : String
  secretDigest : String
  createdAt : JsDate

structure RevokeInput where
  deviceId : String
  expectedCredentialId : String
  expectedVersion : JsNumber
  revokedAt : JsDate

structure RotateInput where
  deviceId : String
  expectedCredentialId : String
  expectedVersion : JsNumber
  credentialId : String
  secretDigest : String
  rotatedAt : JsDate

/-! ## Input checks -/

def readTime (value : JsDate) : Except JsError ℤ :=
  orThrow value (.DeviceCredentialError .INVALID_CLOCK "Credential clock không hợp lệ.")

def parseDeviceId (value : String) : Except JsError DeviceId :=
  orThrow (deviceIdSchema value)
    (.DeviceCredentialError .INVALID_CREDENTIAL_INPUT "deviceId không hợp lệ.")

def parseCredentialId (value : String) : Except JsError CredentialId :=
  orThrow (deviceCredentialIdSchema value)
    (.DeviceCredentialError .INVALID_CREDENTIAL_INPUT "credentialId không hợp lệ.")

def parseVersion (value : JsNumber) : Except JsError ℕ :=
  orThrow ((value.filter (0 < ·)).map Int.toNat)
    (.DeviceCredentialError .INVALID_CREDENTIAL_INPUT "Credential version không hợp lệ.")

def parseDigest (value : String) : Except JsError HexDigest :=
  orThrow (digestPattern value)
    (.DeviceCredentialError .INVALID_CREDENTIAL_INPUT "Credential digest không hợp lệ.")

@[simp] theorem parseDeviceId_value (id : DeviceId) : parseDeviceId id.value = .ok id := by
  simp [parseDeviceId]

@[simp] theorem parseCredentialId_value (id : CredentialId) :
    parseCredentialId id.value = .ok id := by
  simp [parseCredentialId]

@[simp] theorem parseDigest_value (d : HexDigest) : parseDigest d.value = .ok d := by
  simp [parseDigest]

@[simp] theorem parseVersion_pos (v : ℕ) (h : 0 < v) : parseVersion (some (v : ℤ)) = .ok v := by
  simp [parseVersion, Option.filter, h]

@[simp] theorem readTime_some (t : ℤ) : readTime (some t) = .ok t := rfl

/-! ## Snapshots -/

/-- The record as `deviceCredentialSchema` receives it. -/
def StoredCredential.toCredential (r : StoredCredential) : DeviceCredential where
  credentialId := r.credentialId
  version := r.version
  deviceId := r.deviceId
  state := r.state
  createdAt := r.createdAtMs
  revokedAt := r.revokedAtMs

def snapshot (record : StoredCredential) : Except JsError DeviceCredential :=
  orThrow (deviceCredentialSchema record.toCredential)
    (.DeviceCredentialError .INVALID_CREDENTIAL_INPUT "Credential record không hợp lệ.")

/-- The record passes `deviceCredentialSchema`. -/
def StoredCredential.Valid (r : StoredCredential) : Prop :=
  deviceCredentialSchema r.toCredential = some r.toCredential

theorem deviceCredentialSchema_some {c c' : DeviceCredential}
    (h : deviceCredentialSchema c = some c') : c' = c := by
  unfold deviceCredentialSchema at h
  split at h
  · exact (Option.some.inj h).symm
  · cases h

theorem StoredCredential.valid_iff (r : StoredCredential) : r.Valid ↔
    (0 < r.version ∧ r.version ≤ maxSafeInteger) ∧ (r.state = .active → r.revokedAtMs = none) ∧
      (r.state = .revoked → r.revokedAtMs ≠ none) ∧
      (∀ revokedAt ∈ r.revokedAtMs, r.createdAtMs ≤ revokedAt) := by
  unfold Valid deviceCredentialSchema
  constructor
  · intro h
    split at h
    · assumption
    · cases h
  · intro h
    exact if_pos h

theorem snapshot_ok {r : StoredCredential} {c : DeviceCredential} (h : snapshot r = .ok c) :
    r.Valid ∧ c = r.toCredential := by
  have hs := orThrow_ok h
  have hc := deviceCredentialSchema_some hs
  rw [hc] at hs
  exact ⟨hs, hc⟩

@[simp] theorem snapshot_valid {r : StoredCredential} (h : r.Valid) :
    snapshot r = .ok r.toCredential := by
  unfold snapshot
  rw [h, orThrow_some]

/-- The record after `record.state = "revoked"; record.revokedAtMs = revokedAtMs`. -/
def StoredCredential.revoke (r : StoredCredential) (revokedAtMs : ℤ) : StoredCredential :=
  { r with state := .revoked, revokedAtMs := some revokedAtMs }

theorem StoredCredential.valid_revoke {r : StoredCredential} (h : r.Valid) {t : ℤ}
    (ht : ¬ t < r.createdAtMs) : (r.revoke t).Valid := by
  rw [valid_iff] at h ⊢
  exact ⟨h.1, by simp [revoke], by simp [revoke], by simpa [revoke] using ht⟩

/-- `constantTimeEqualHex`: the differences of the code units, collected with `|=`. -/
def constantTimeEqualHex (left right : String) : Bool :=
  let l := left.toList.map Char.toNat
  let r := right.toList.map Char.toNat
  if l.length ≠ r.length then false
  else (l.zip r).foldl (fun diff p => diff ||| (p.1 ^^^ p.2)) 0 == 0

theorem xor_eq_zero_iff (a b : ℕ) : a ^^^ b = 0 ↔ a = b := by
  constructor
  · intro h
    have hcancel : a ^^^ (a ^^^ b) = a := by rw [h, Nat.xor_zero]
    rw [← Nat.xor_assoc, Nat.xor_self, Nat.zero_xor] at hcancel
    exact hcancel.symm
  · intro h
    rw [h, Nat.xor_self]

theorem foldl_or_xor_eq_zero (ps : List (ℕ × ℕ)) (diff : ℕ) :
    ps.foldl (fun diff p => diff ||| (p.1 ^^^ p.2)) diff = 0 ↔
      diff = 0 ∧ ∀ p ∈ ps, p.1 = p.2 := by
  induction ps generalizing diff with
  | nil => simp
  | cons p ps ih =>
    rw [List.foldl_cons, ih, Nat.or_eq_zero_iff, xor_eq_zero_iff, and_assoc,
      List.forall_mem_cons]

theorem zip_diagonal_iff (l r : List ℕ) (h : l.length = r.length) :
    (∀ p ∈ l.zip r, p.1 = p.2) ↔ l = r := by
  induction l generalizing r with
  | nil => cases r with
    | nil => simp
    | cons b r => simp at h
  | cons a l ih => cases r with
    | nil => simp at h
    | cons b r =>
      have hrest := ih r (by simpa using h)
      rw [List.zip_cons_cons, List.forall_mem_cons, hrest, List.cons.injEq]

/-- The comparison that does not stop early is equality. -/
theorem constantTimeEqualHex_iff (left right : String) :
    constantTimeEqualHex left right = true ↔ left = right := by
  have hmap : left.toList.map Char.toNat = right.toList.map Char.toNat ↔ left = right := by
    rw [List.map_inj_right (fun a b h => Char.toNat_inj.mp h)]
    exact String.toList_inj
  unfold constantTimeEqualHex
  by_cases h : (left.toList.map Char.toNat).length = (right.toList.map Char.toNat).length
  · simp only [h, ne_eq, not_true_eq_false, if_false, beq_iff_eq]
    rw [foldl_or_xor_eq_zero, zip_diagonal_iff _ _ h, hmap]
    simp
  · simp only [h, ne_eq, not_false_eq_true, if_true, Bool.false_eq_true, false_iff]
    intro e
    exact h (by rw [e])

/-! ## The repository -/

structure InMemoryDeviceCredentialRepository where
  byDeviceId : OrderedMap DeviceId StoredCredential
  usedCredentialIds : List CredentialId

namespace InMemoryDeviceCredentialRepository

/-- `new InMemoryDeviceCredentialRepository()`. -/
def new : InMemoryDeviceCredentialRepository := ⟨OrderedMap.empty, []⟩

/-- `record?.state === "active"`. -/
def isActive (record : Option StoredCredential) : Prop := ∃ r ∈ record, r.state = .active

instance (record : Option StoredCredential) : Decidable (isActive record) :=
  inferInstanceAs (Decidable (∃ r ∈ record, r.state = .active))

def requireUnusedCredentialId (credentialId : CredentialId) :
    Operation InMemoryDeviceCredentialRepository JsError Unit := do
  let repository ← get
  failIf (credentialId ∈ repository.usedCredentialIds)
    (.DeviceCredentialError .CREDENTIAL_ID_CONFLICT "credentialId đã được sử dụng.")

def issue (input : IssueInput) :
    Operation InMemoryDeviceCredentialRepository JsError DeviceCredential := do
  let deviceId ← parseDeviceId input.deviceId
  let credentialId ← parseCredentialId input.credentialId
  let secretDigest ← parseDigest input.secretDigest
  let createdAtMs ← readTime input.createdAt
  let repository ← get
  let existing := repository.byDeviceId.get? deviceId
  failIf (isActive existing)
    (.DeviceCredentialError .CREDENTIAL_ALREADY_EXISTS "Device đã có credential active.")
  requireUnusedCredentialId credentialId
  let version := (existing.map (·.version)).getD 0 + 1
  let record : StoredCredential :=
    { credentialId, deviceId, version, secretDigest, createdAtMs, state := .active,
      revokedAtMs := none }
  let result ← snapshot record
  set ({ byDeviceId := repository.byDeviceId.set deviceId record,
         usedCredentialIds := credentialId :: repository.usedCredentialIds } :
    InMemoryDeviceCredentialRepository)
  return result

def getActive (deviceId : String) :
    Operation InMemoryDeviceCredentialRepository JsError (Option DeviceCredential) := do
  let parsedDeviceId ← parseDeviceId deviceId
  let repository ← get
  match repository.byDeviceId.get? parsedDeviceId with
  | none => return none
  | some record =>
    if record.state = .active then
      let credential ← snapshot record
      return some credential
    else return none

def verify (deviceId secretDigest : String) :
    Operation InMemoryDeviceCredentialRepository JsError (Option DeviceCredential) := do
  let parsedDeviceId ← parseDeviceId deviceId
  let parsedDigest ← parseDigest secretDigest
  let repository ← get
  match repository.byDeviceId.get? parsedDeviceId with
  | none => return none
  | some record =>
    if record.state = .active ∧
        constantTimeEqualHex record.secretDigest.value parsedDigest.value = true then
      let credential ← snapshot record
      return some credential
    else return none

/-- `record?.state === "active"` and the record is the expected generation. -/
def expectedActive (record : Option StoredCredential) (expectedCredentialId : CredentialId)
    (expectedVersion : ℕ) : Option StoredCredential :=
  record.filter fun r =>
    r.state = .active ∧ r.credentialId = expectedCredentialId ∧ r.version = expectedVersion

def revoke (input : RevokeInput) :
    Operation InMemoryDeviceCredentialRepository JsError (Option DeviceCredential) := do
  let deviceId ← parseDeviceId input.deviceId
  let expectedCredentialId ← parseCredentialId input.expectedCredentialId
  let expectedVersion ← parseVersion input.expectedVersion
  let revokedAtMs ← readTime input.revokedAt
  let repository ← get
  match expectedActive (repository.byDeviceId.get? deviceId) expectedCredentialId
      expectedVersion with
  | none => return none
  | some record =>
    failIf (revokedAtMs < record.createdAtMs)
      (.DeviceCredentialError .INVALID_CLOCK "revokedAt không được trước createdAt.")
    -- The stored object is changed in place before the snapshot is taken.
    set ({ repository with
      byDeviceId := repository.byDeviceId.set deviceId (record.revoke revokedAtMs) } :
      InMemoryDeviceCredentialRepository)
    let credential ← snapshot (record.revoke revokedAtMs)
    return some credential

def rotate (input : RotateInput) :
    Operation InMemoryDeviceCredentialRepository JsError DeviceCredential := do
  let deviceId ← parseDeviceId input.deviceId
  let expectedCredentialId ← parseCredentialId input.expectedCredentialId
  let expectedVersion ← parseVersion input.expectedVersion
  let credentialId ← parseCredentialId input.credentialId
  let secretDigest ← parseDigest input.secretDigest
  let rotatedAtMs ← readTime input.rotatedAt
  let repository ← get
  match expectedActive (repository.byDeviceId.get? deviceId) expectedCredentialId
      expectedVersion with
  | none =>
    throw (.DeviceCredentialError .CREDENTIAL_UNAVAILABLE "Credential không khả dụng.")
  | some current =>
    requireUnusedCredentialId credentialId
    failIf (rotatedAtMs < current.createdAtMs)
      (.DeviceCredentialError .INVALID_CLOCK "rotatedAt không được trước createdAt.")
    let next : StoredCredential :=
      { credentialId, deviceId, version := current.version + 1, secretDigest,
        createdAtMs := rotatedAtMs, state := .active, revokedAtMs := none }
    let result ← snapshot next
    set ({ byDeviceId := repository.byDeviceId.set deviceId next,
           usedCredentialIds := credentialId :: repository.usedCredentialIds } :
      InMemoryDeviceCredentialRepository)
    return result

end InMemoryDeviceCredentialRepository

/-! ## Secrets -/

def deviceCredentialDigestPrefix : String := "doctmcp-device-credential:v1:"

theorem isLowerHexDigit_hexDigit : ∀ n < 16, isLowerHexDigit (Sha256.hexDigit n) = true := by
  decide

theorem fits_hex (bytes : List ℕ) :
    JsString.fits (List.replicate (2 * bytes.length) isLowerHexDigit)
      (bytes.flatMap Sha256.hexByte) = true := by
  induction bytes with
  | nil => rfl
  | cons b bs ih =>
    have hhi := isLowerHexDigit_hexDigit (b / 16 % 16) (Nat.mod_lt _ (by omega))
    have hlo := isLowerHexDigit_hexDigit (b % 16) (Nat.mod_lt _ (by omega))
    have hlen : 2 * (b :: bs).length = 2 * bs.length + 1 + 1 := by simp; omega
    rw [hlen, List.replicate_succ, List.replicate_succ]
    simp [Sha256.hexByte, JsString.fits, hhi, hlo, ih]

theorem isDigest_hex (bytes : List ℕ) :
    isDigest (Sha256.hex (Sha256.digest bytes)) = true := by
  have h := fits_hex (Sha256.digest bytes)
  rw [Sha256.length_digest] at h
  rw [isDigest, Sha256.hex, String.toList_ofList]
  exact h

def digestDeviceCredentialSecret (secret : String) : HexDigest :=
  ⟨Sha256.hex (Sha256.digest (Sha256.encode (deviceCredentialDigestPrefix ++ secret))),
    isDigest_hex _⟩

end Doctmcp.Credential
