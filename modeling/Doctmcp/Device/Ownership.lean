import Mathlib.Data.List.Induction
import Doctmcp.Lib.Runs
import Doctmcp.Device.Listing

/-! # Ownership of devices

What a `DeviceRepository` is for. A device belongs to the owner it was created for; an update
changes its name, its metadata and its `updatedAt`, and only on behalf of that owner. `CallOutcome`
says what one call can do, the laws about whole histories (`OwnershipLaws`) follow from it. -/

namespace Doctmcp.Device
open Doctmcp.Lib Doctmcp.Lib.Operation Doctmcp.Schemas
set_option autoImplicit false

/-! ## Calls and adapters -/

inductive Call
  | create (source : DeviceSource) (input : CreateDeviceInput)
  | getById (deviceId : String)
  | getForOwner (ownerId deviceId : String)
  | listByOwnerId (ownerId : String)
  | updateForOwner (now : JsDate) (ownerId deviceId : String) (patch : UpdateDeviceInput)
  | isOwnedBy (ownerId deviceId : String)

inductive Reply
  | created (device : Schemas.Device)
  | found (device : Option Schemas.Device)
  | listed (devices : List Schemas.Device)
  | updated (device : Option Schemas.Device)
  | owned (answer : Bool)

abbrev Outcome := Except JsError Reply

/-- The owner and the device that an owner-scoped call names. -/
def Call.names : Call → Option (String × String)
  | .getForOwner ownerId deviceId => some (ownerId, deviceId)
  | .updateForOwner _ ownerId deviceId _ => some (ownerId, deviceId)
  | .isOwnedBy ownerId deviceId => some (ownerId, deviceId)
  | _ => none

/-- A `DeviceRepository` on the store `S`. -/
structure Adapter (S : Type) where
  create : DeviceSource → CreateDeviceInput → Operation S JsError Schemas.Device
  getById : String → Operation S JsError (Option Schemas.Device)
  getForOwner : String → String → Operation S JsError (Option Schemas.Device)
  listByOwnerId : String → Operation S JsError (List Schemas.Device)
  updateForOwner : JsDate → String → String → UpdateDeviceInput →
    Operation S JsError (Option Schemas.Device)
  isOwnedBy : String → String → Operation S JsError Bool
  /-- The order of device ids in a listing. -/
  collation : Collation
  records : S → OrderedMap DeviceId StoredDevice

namespace Adapter
variable {S : Type} (A : Adapter S)

/-- The outcome of an operation of the adapter as the outcome of a call. -/
def reply {α : Type} (f : α → Reply) (out : Except JsError α × S) : Outcome × S :=
  (out.1.map f, out.2)

def call (s : S) : Call → Outcome × S
  | .create source input => reply .created (exec (A.create source input) s)
  | .getById deviceId => reply .found (exec (A.getById deviceId) s)
  | .getForOwner ownerId deviceId => reply .found (exec (A.getForOwner ownerId deviceId) s)
  | .listByOwnerId ownerId => reply .listed (exec (A.listByOwnerId ownerId) s)
  | .updateForOwner now ownerId deviceId patch =>
    reply .updated (exec (A.updateForOwner now ownerId deviceId patch) s)
  | .isOwnedBy ownerId deviceId => reply .owned (exec (A.isOwnedBy ownerId deviceId) s)

/-- The store after a history of calls. -/
def after (s : S) (calls : List Call) : S := runFrom (fun s c => (A.call s c).2) s calls

def stored (s : S) (d : DeviceId) : Option StoredDevice := (A.records s).get? d

theorem after_append (s : S) (calls more : List Call) :
    A.after s (calls ++ more) = A.after (A.after s calls) more := runFrom_append s calls more

/-- The laws of a device repository over every history of calls from the store `s`. -/
structure OwnershipLaws (s : S) : Prop where
  /-- A stored device stays, with its id, its owner and its `createdAt`; `updatedAt` never goes
  back. -/
  identity : ∀ calls more d record, A.stored (A.after s calls) d = some record →
    ∃ record', A.stored (A.after s (calls ++ more)) d = some record' ∧
      record'.deviceId = record.deviceId ∧ record'.ownerId = record.ownerId ∧
      record'.createdAtMs = record.createdAtMs ∧ record.updatedAtMs ≤ record'.updatedAtMs
  listing : ∀ calls ownerId, ownerIdSchema ownerId ≠ none → ∃ devices,
    (A.call (A.after s calls) (.listByOwnerId ownerId)).1 = .ok (.listed devices) ∧
      Lists A.collation (A.records (A.after s calls)) ownerId devices
  failed : ∀ calls c e, (A.call (A.after s calls) c).1 = .error e →
    (A.call (A.after s calls) c).2 = A.after s calls
  foreign : ∀ calls c ownerId deviceId d record, c.names = some (ownerId, deviceId) →
    deviceIdSchema deviceId = some d → A.stored (A.after s calls) d = some record →
    record.ownerId ≠ ownerId → (A.call (A.after s calls) c).2 = A.after s calls

/-- What one call can do. -/
inductive CallOutcome (s : S) : Call → Outcome × S → Prop
  | refused (c : Call) (e : JsError) : CallOutcome s c (.error e, s)
  | read (c : Call) (reply : Reply)
      (hlisted : ∀ ownerId, c = .listByOwnerId ownerId →
        reply = .listed (listing (compareListed A.collation) (A.records s) ownerId)) :
      CallOutcome s c (.ok reply, s)
  | created (source : DeviceSource) (input : CreateDeviceInput) (record : StoredDevice) (s' : S)
      (hnew : A.stored s record.deviceId = none)
      (hrecords : A.records s' = (A.records s).set record.deviceId record) :
      CallOutcome s (.create source input) (.ok (.created (toSnapshot record)), s')
  | updated (now : JsDate) (ownerId deviceId : String) (patch parsed : UpdateDeviceInput)
      (d : DeviceId) (record : StoredDevice) (t : ℤ) (s' : S)
      (hdevice : deviceIdSchema deviceId = some d) (hrecord : A.stored s d = some record)
      (howner : record.ownerId = ownerId) (hclock : record.updatedAtMs ≤ t)
      (hrecords : A.records s' = (A.records s).set d (record.patched parsed t)) :
      CallOutcome s (.updateForOwner now ownerId deviceId patch)
        (.ok (.updated (some (toSnapshot (record.patched parsed t)))), s')

/-- Every device is kept under its id. -/
def Keyed (s : S) : Prop := ∀ d record, A.stored s d = some record → record.deviceId = d

/-- What a repository promises of each call. -/
structure Contract : Prop where
  outcome : ∀ s c, A.CallOutcome s c (A.call s c)
  answers : ∀ s ownerId, ownerIdSchema ownerId ≠ none →
    ∃ reply, (A.call s (.listByOwnerId ownerId)).1 = .ok reply

/-! ## One call -/

variable {A} {s : S} {c : Call}

/-- How a device can change in a call: not at all, or through an update of its owner. -/
structure Succeeds (record record' : StoredDevice) : Prop where
  deviceId : record'.deviceId = record.deviceId
  ownerId : record'.ownerId = record.ownerId
  createdAtMs : record'.createdAtMs = record.createdAtMs
  updatedAtMs : record.updatedAtMs ≤ record'.updatedAtMs

theorem Succeeds.refl (record : StoredDevice) : Succeeds record record :=
  ⟨rfl, rfl, rfl, le_refl _⟩

theorem Succeeds.trans {a b c : StoredDevice} (hab : Succeeds a b) (hbc : Succeeds b c) :
    Succeeds a c where
  deviceId := hbc.deviceId.trans hab.deviceId
  ownerId := hbc.ownerId.trans hab.ownerId
  createdAtMs := hbc.createdAtMs.trans hab.createdAtMs
  updatedAtMs := hab.updatedAtMs.trans hbc.updatedAtMs

theorem succeeds_patched {record : StoredDevice} {t : ℤ} (h : record.updatedAtMs ≤ t)
    (patch : UpdateDeviceInput) : Succeeds record (record.patched patch t) :=
  ⟨rfl, rfl, rfl, h⟩

theorem CallOutcome.succeeds {out : Outcome × S} (h : A.CallOutcome s c out) {d : DeviceId}
    {record : StoredDevice} (hrecord : A.stored s d = some record) :
    ∃ record', A.stored out.2 d = some record' ∧ Succeeds record record' := by
  cases h with
  | refused c e => exact ⟨record, hrecord, Succeeds.refl record⟩
  | read c reply hlisted => exact ⟨record, hrecord, Succeeds.refl record⟩
  | created source input new s' hnew hrecords =>
    refine ⟨record, ?_, Succeeds.refl record⟩
    have hne : d ≠ new.deviceId := by
      rintro rfl
      rw [hnew] at hrecord
      cases hrecord
    rw [stored, hrecords, OrderedMap.get?_set_ne _ _ hne]
    exact hrecord
  | updated now ownerId deviceId patch parsed d' old t s' hdevice hold howner hclock hrecords =>
    rw [stored, hrecords, OrderedMap.get?_set]
    by_cases hd : d = d'
    · subst hd
      rw [hold] at hrecord
      obtain rfl := Option.some.inj hrecord
      exact ⟨_, if_pos rfl, succeeds_patched hclock parsed⟩
    · exact ⟨record, (if_neg hd).trans hrecord, Succeeds.refl record⟩

theorem CallOutcome.keyed {out : Outcome × S} (h : A.CallOutcome s c out) (hs : A.Keyed s) :
    A.Keyed out.2 := by
  cases h with
  | refused c e => exact hs
  | read c reply hlisted => exact hs
  | created source input new s' hnew hrecords =>
    intro d record hrecord
    rw [stored, hrecords, OrderedMap.get?_set] at hrecord
    split_ifs at hrecord with hd
    · obtain rfl := Option.some.inj hrecord
      exact hd.symm
    · exact hs d record hrecord
  | updated now ownerId deviceId patch parsed d' old t s' hdevice hold howner hclock hrecords =>
    intro d record hrecord
    rw [stored, hrecords, OrderedMap.get?_set] at hrecord
    split_ifs at hrecord with hd
    · obtain rfl := Option.some.inj hrecord
      exact (hs d' old hold).trans hd.symm
    · exact hs d record hrecord

/-! ## Histories -/

theorem Contract.keyed_after (h : A.Contract) (hs : A.Keyed s) (calls : List Call) :
    A.Keyed (A.after s calls) :=
  runFrom_invariant (fun s c hs => (h.outcome s c).keyed hs) hs calls

theorem Contract.succeeds_after (h : A.Contract) (calls : List Call) {d : DeviceId}
    {record : StoredDevice} (hrecord : A.stored s d = some record) :
    ∃ record', A.stored (A.after s calls) d = some record' ∧ Succeeds record record' := by
  induction calls generalizing s record with
  | nil => exact ⟨record, hrecord, Succeeds.refl record⟩
  | cons c calls ih =>
    obtain ⟨next, hnext, hstep⟩ := (h.outcome s c).succeeds hrecord
    obtain ⟨last, hlast, hrest⟩ := ih hnext
    exact ⟨last, hlast, hstep.trans hrest⟩

/-- A repository that keeps the contract obeys the laws from every store that keeps its devices
under their ids. -/
theorem Contract.ownershipLaws (h : A.Contract) (hs : A.Keyed s) : A.OwnershipLaws s where
  identity calls more d record hrecord := by
    rw [after_append]
    obtain ⟨record', hrecord', hsucceeds⟩ := h.succeeds_after more hrecord
    exact ⟨record', hrecord', hsucceeds.deviceId, hsucceeds.ownerId, hsucceeds.createdAtMs,
      hsucceeds.updatedAtMs⟩
  listing calls ownerId howner := by
    obtain ⟨reply, hreply⟩ := h.answers (A.after s calls) ownerId howner
    have houtcome := h.outcome (A.after s calls) (.listByOwnerId ownerId)
    have hkeyed := h.keyed_after hs calls
    refine ⟨_, ?_, listing_lists hkeyed ownerId⟩
    generalize A.call (A.after s calls) (.listByOwnerId ownerId) = out at houtcome hreply ⊢
    cases houtcome with
    | refused c e => cases hreply
    | read c reply hlisted => rw [hlisted ownerId rfl]
  failed calls c e he := by
    have houtcome := h.outcome (A.after s calls) c
    generalize A.call (A.after s calls) c = out at houtcome he ⊢
    cases houtcome with
    | refused c e => rfl
    | read c reply hlisted => rfl
    | created source input new s' hnew hrecords => cases he
    | updated now ownerId deviceId patch parsed d old t s' hdevice hold howner hclock hrecords =>
      cases he
  foreign calls c ownerId deviceId d record hnames hdevice hrecord hforeign := by
    have houtcome := h.outcome (A.after s calls) c
    generalize A.call (A.after s calls) c = out at houtcome ⊢
    cases houtcome with
    | refused c e => rfl
    | read c reply hlisted => rfl
    | created source input new s' hnew hrecords => cases hnames
    | updated now ownerId' deviceId' patch parsed d' old t s' hdevice' hold howner hclock
        hrecords =>
      obtain ⟨rfl, rfl⟩ := Prod.mk.inj (Option.some.inj hnames)
      rw [hdevice] at hdevice'
      obtain rfl := Option.some.inj hdevice'
      rw [hrecord] at hold
      obtain rfl := Option.some.inj hold
      exact absurd howner hforeign

end Adapter
end Doctmcp.Device
