import Doctmcp.Schemas.Identifiers
import Mathlib.Data.Int.Notation

/-! # Devices, credentials and pairing sessions

The record schemas of `packages/schemas` (`device.ts`, `device-credential.ts`, `pairing.ts`). `min` and
`max` of a text bound its code points. A `Date` is its `getTime()`: `none` is an Invalid Date. -/

namespace Doctmcp.Schemas
open Doctmcp.Lib
set_option autoImplicit false

/-- `date.getTime()` in milliseconds; `none` is `NaN`. -/
abbrev JsDate := Option ℤ

/-- A number handed in by a caller; `none` is one that is not an integer. -/
abbrev JsNumber := Option ℤ

/-- `Number.MAX_SAFE_INTEGER`, the bound of `z.number().int()`. -/
def maxSafeInteger : ℕ := 9007199254740991

/-! ## Devices -/

def ownerIdSchema (input : String) : Option String :=
  if 1 ≤ JsString.codePoints input ∧ JsString.codePoints input ≤ 200 ∧
      JsString.trim input = input then
    some input
  else none

theorem ownerIdSchema_some {ownerId owner : String} (h : ownerIdSchema ownerId = some owner) :
    owner = ownerId := by
  unfold ownerIdSchema at h
  split at h
  · exact (Option.some.inj h).symm
  · cases h

/-- `z.string().trim().min(1).max(limit)`: the value is trimmed before its length is checked. -/
def trimmedWithin (limit : ℕ) (input : String) : Option String :=
  let value := JsString.trim input
  if 1 ≤ JsString.codePoints value ∧ JsString.codePoints value ≤ limit then some value else none

def deviceNameSchema (input : String) : Option String := trimmedWithin 100 input

def isAlphanumeric (c : Char) : Bool :=
  ('A' ≤ c && c ≤ 'Z') || ('a' ≤ c && c ≤ 'z') || ('0' ≤ c && c ≤ '9')

/-- `DEVICE_IDENTIFIER_PATTERN`. -/
def isDeviceIdentifier (value : String) : Bool :=
  JsString.repeated isAlphanumeric
    (fun c => isAlphanumeric c || c == '.' || c == '_' || c == '-') value.toList

/-- `DEVICE_VERSION_PATTERN`. -/
def isDeviceVersion (value : String) : Bool :=
  JsString.repeated isAlphanumeric
    (fun c => isAlphanumeric c || c == '.' || c == '+' || c == '_' || c == '-') value.toList

def devicePlatformSchema (input : String) : Option String :=
  (trimmedWithin 64 input).filter isDeviceIdentifier

def deviceVersionSchema (input : String) : Option String :=
  (trimmedWithin 64 input).filter isDeviceVersion

/-- `schema.optional()`: an absent value is accepted, a present one is checked. -/
def optionalField (schema : String → Option String) : Option String → Option (Option String)
  | none => some none
  | some value => (schema value).map some

structure DeviceMetadata where
  platform : String
  appVersion : Option String
  runtimeVersion : Option String
  deriving DecidableEq

def deviceMetadataSchema (input : DeviceMetadata) : Option DeviceMetadata := do
  let platform ← devicePlatformSchema input.platform
  let appVersion ← optionalField deviceVersionSchema input.appVersion
  let runtimeVersion ← optionalField deviceVersionSchema input.runtimeVersion
  return { platform, appVersion, runtimeVersion }

/-- `CreateDeviceInput`, and `ClaimPairingInput`, whose schema has the same three fields. -/
structure CreateDeviceInput where
  ownerId : String
  deviceName : String
  metadata : DeviceMetadata
  deriving DecidableEq

def createDeviceInputSchema (input : CreateDeviceInput) : Option CreateDeviceInput := do
  let ownerId ← ownerIdSchema input.ownerId
  let deviceName ← deviceNameSchema input.deviceName
  let metadata ← deviceMetadataSchema input.metadata
  return { ownerId, deviceName, metadata }

abbrev ClaimPairingInput := CreateDeviceInput

def claimPairingInputSchema (input : ClaimPairingInput) : Option ClaimPairingInput :=
  createDeviceInputSchema input

/-! ### Parsing again -/

theorem trimmedWithin_idem {limit : ℕ} {input value : String}
    (h : trimmedWithin limit input = some value) : trimmedWithin limit value = some value := by
  unfold trimmedWithin at h
  dsimp only at h
  split at h
  · next hlength =>
    obtain rfl := Option.some.inj h
    unfold trimmedWithin
    rw [JsString.trim_trim]
    exact if_pos hlength
  · cases h

theorem filter_trimmedWithin_idem {limit : ℕ} {p : String → Bool} {input value : String}
    (h : (trimmedWithin limit input).filter p = some value) :
    (trimmedWithin limit value).filter p = some value := by
  obtain ⟨htrimmed, hp⟩ := Option.filter_eq_some_iff.mp h
  rw [trimmedWithin_idem htrimmed, Option.filter_some_pos hp]

theorem optionalField_idem {schema : String → Option String}
    (hschema : ∀ input value, schema input = some value → schema value = some value)
    {input value : Option String} (h : optionalField schema input = some value) :
    optionalField schema value = some value := by
  cases input with
  | none =>
    obtain rfl := Option.some.inj h
    rfl
  | some text =>
    obtain ⟨parsed, hparsed, rfl⟩ := Option.map_eq_some_iff.mp h
    show (schema parsed).map some = _
    rw [hschema text parsed hparsed]
    rfl

theorem deviceMetadataSchema_idem {input metadata : DeviceMetadata}
    (h : deviceMetadataSchema input = some metadata) :
    deviceMetadataSchema metadata = some metadata := by
  unfold deviceMetadataSchema at h
  obtain ⟨platform, hplatform, h⟩ := Option.bind_eq_some_iff.mp h
  obtain ⟨appVersion, happ, h⟩ := Option.bind_eq_some_iff.mp h
  obtain ⟨runtimeVersion, hruntime, h⟩ := Option.bind_eq_some_iff.mp h
  obtain rfl := Option.some.inj h
  have hplatform : devicePlatformSchema platform = some platform :=
    filter_trimmedWithin_idem hplatform
  have hversion : ∀ input value, deviceVersionSchema input = some value →
      deviceVersionSchema value = some value := fun _ _ => filter_trimmedWithin_idem
  have happ := optionalField_idem hversion happ
  have hruntime := optionalField_idem hversion hruntime
  unfold deviceMetadataSchema
  dsimp only
  rw [hplatform, happ, hruntime]
  rfl

/-- An accepted input is in the form that parsing gives it. -/
theorem createDeviceInputSchema_idem {input parsed : CreateDeviceInput}
    (h : createDeviceInputSchema input = some parsed) :
    createDeviceInputSchema parsed = some parsed := by
  unfold createDeviceInputSchema at h
  obtain ⟨ownerId, howner, h⟩ := Option.bind_eq_some_iff.mp h
  obtain ⟨deviceName, hname, h⟩ := Option.bind_eq_some_iff.mp h
  obtain ⟨metadata, hmetadata, h⟩ := Option.bind_eq_some_iff.mp h
  obtain rfl := Option.some.inj h
  obtain rfl := ownerIdSchema_some howner
  have hname : deviceNameSchema deviceName = some deviceName := trimmedWithin_idem hname
  unfold createDeviceInputSchema
  dsimp only
  rw [howner, hname, deviceMetadataSchema_idem hmetadata]
  rfl

structure UpdateDeviceInput where
  deviceName : Option String
  metadata : Option DeviceMetadata
  deriving DecidableEq

/-- `updateDeviceInputSchema`: at least one mutable field is present. -/
def updateDeviceInputSchema (input : UpdateDeviceInput) : Option UpdateDeviceInput := do
  let deviceName ← optionalField deviceNameSchema input.deviceName
  let metadata ← match input.metadata with
    | none => some none
    | some metadata => (deviceMetadataSchema metadata).map some
  if deviceName ≠ none ∨ metadata ≠ none then some { deviceName, metadata } else none

structure Device where
  deviceId : DeviceId
  ownerId : String
  deviceName : String
  metadata : DeviceMetadata
  createdAt : ℤ
  updatedAt : ℤ
  deriving DecidableEq

/-! ## Credentials -/

inductive DeviceCredentialState
  | active
  | revoked
  deriving DecidableEq

structure DeviceCredential where
  credentialId : CredentialId
  version : ℕ
  deviceId : DeviceId
  state : DeviceCredentialState
  createdAt : ℤ
  revokedAt : Option ℤ
  deriving DecidableEq

/-- The checks of `deviceCredentialSchema` that a typed record can still fail. -/
def deviceCredentialSchema (c : DeviceCredential) : Option DeviceCredential :=
  if (0 < c.version ∧ c.version ≤ maxSafeInteger) ∧
      (c.state = .active → c.revokedAt = none) ∧
      (c.state = .revoked → c.revokedAt ≠ none) ∧
      (∀ revokedAt ∈ c.revokedAt, c.createdAt ≤ revokedAt) then
    some c
  else none

/-! ## Pairing sessions -/

inductive PairingState
  | pending
  | claimed
  | expired
  | cancelled
  deriving DecidableEq

def pairingCorrelationIdSchema (input : String) : Bool :=
  1 ≤ JsString.codePoints input && JsString.codePoints input ≤ 200 && JsString.trim input = input

structure PairingSession where
  pairingSessionId : PairingSessionId
  state : PairingState
  createdAt : ℤ
  expiresAt : ℤ
  localCorrelationId : Option String
  claimedAt : Option ℤ
  deviceId : Option DeviceId
  deriving DecidableEq

/-- `pairingSessionSchema`, with its `superRefine`. -/
def pairingSessionSchema (s : PairingSession) : Option PairingSession :=
  if (∀ c ∈ s.localCorrelationId, pairingCorrelationIdSchema c = true) ∧
      s.createdAt < s.expiresAt ∧
      (s.state = .claimed → s.deviceId ≠ none ∧
        ∃ claimedAt ∈ s.claimedAt, s.createdAt ≤ claimedAt ∧ claimedAt < s.expiresAt) ∧
      (s.state ≠ .claimed → s.claimedAt = none ∧ s.deviceId = none) then
    some s
  else none

end Doctmcp.Schemas
