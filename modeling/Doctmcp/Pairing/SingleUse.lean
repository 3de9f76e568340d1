import Mathlib.Data.List.Induction
import Doctmcp.Lib.Runs
import Doctmcp.Pairing.Memory

/-! # Single use of a pairing session

What a `PairingSessionRepository` is for. A record is created `pending`, leaves that state once,
and becomes `claimed` together with the creation of the device it names. `Contract` says what one
call can do to the records and the devices; the laws about whole histories (`PairingLaws`) follow
from it. -/

namespace Doctmcp.Pairing
open Doctmcp.Lib Doctmcp.Lib.Operation Doctmcp.Schemas Doctmcp.Device
set_option autoImplicit false

/-! ## Records -/

/-- The invariant of a stored session. -/
structure StoredPairingSession.Valid (r : StoredPairingSession) : Prop where
  correlation : ∀ c ∈ r.localCorrelationId, pairingCorrelationIdSchema c = true
  positive : r.createdAtMs < r.expiresAtMs
  claimed : r.state = .claimed → r.deviceId ≠ none ∧
    ∃ t, r.claimedAtMs = some t ∧ r.createdAtMs ≤ t ∧ t < r.expiresAtMs
  notClaimed : r.state ≠ .claimed → r.claimedAtMs = none ∧ r.deviceId = none

theorem StoredPairingSession.Valid.leave {r : StoredPairingSession} (h : r.Valid)
    (hpending : r.state = .pending) {state : PairingState} (hstate : state ≠ .claimed) :
    StoredPairingSession.Valid { r with state := state } where
  correlation := h.correlation
  positive := h.positive
  claimed hc := absurd hc hstate
  notClaimed _ := h.notClaimed (by simp [hpending])

theorem StoredPairingSession.Valid.claimBy {r : StoredPairingSession} (h : r.Valid) {t : ℤ}
    (hfrom : r.createdAtMs ≤ t) (huntil : t < r.expiresAtMs) (d : DeviceId) :
    (r.claimBy t d).Valid where
  correlation := h.correlation
  positive := h.positive
  claimed _ := ⟨by simp [StoredPairingSession.claimBy], t, rfl, hfrom, huntil⟩
  notClaimed hc := absurd rfl hc

/-- A valid record is shown to callers field by field. -/
theorem StoredPairingSession.Valid.toSession_fields {r : StoredPairingSession} (h : r.Valid) :
    r.toSession.claimedAt = r.claimedAtMs ∧ r.toSession.deviceId = r.deviceId := by
  change (if r.deviceId ≠ none then r.claimedAtMs else none) = r.claimedAtMs ∧
    (if r.claimedAtMs ≠ none then r.deviceId else none) = r.deviceId
  by_cases hstate : r.state = .claimed
  · obtain ⟨hdevice, t, ht, -⟩ := h.claimed hstate
    rw [if_pos hdevice, if_pos (by rw [ht]; exact Option.some_ne_none t)]
    exact ⟨rfl, rfl⟩
  · obtain ⟨hclaimedAt, hdevice⟩ := h.notClaimed hstate
    rw [hclaimedAt, hdevice]
    exact ⟨rfl, rfl⟩

theorem StoredPairingSession.Valid.schema {r : StoredPairingSession} (h : r.Valid) :
    pairingSessionSchema r.toSession = some r.toSession := by
  obtain ⟨hclaimedAt, hdevice⟩ := h.toSession_fields
  refine if_pos ⟨h.correlation, h.positive, fun hc => ?_, fun hc => ?_⟩
  · rw [hclaimedAt, hdevice]
    exact h.claimed hc
  · rw [hclaimedAt, hdevice]
    exact h.notClaimed hc

/-- A new record that passes the schema is valid. -/
theorem valid_of_pending {r : StoredPairingSession} (hstate : r.state = .pending)
    (hclaimedAt : r.claimedAtMs = none) (hdevice : r.deviceId = none)
    (h : pairingSessionSchema r.toSession ≠ none) : r.Valid := by
  unfold pairingSessionSchema at h
  split at h
  · next hs =>
    exact ⟨hs.1, hs.2.1, fun hc => by simp [hstate] at hc, fun _ => ⟨hclaimedAt, hdevice⟩⟩
  · exact absurd rfl h

/-! ## Calls and adapters -/

inductive Call
  | create (input : CreatePairingRecordInput)
  | getById (pairingSessionId : String)
  | claim (now : JsDate) (source : DeviceSource) (input : ClaimPairingRecordInput)
  | cancel (pairingSessionId : String) (cancelledAt : JsDate)
  | expire (expiredAt : JsDate)
  | pruneExpired (expiredAt : JsDate)
  /-- A device created directly through the device repository. -/
  | createDevice (source : DeviceSource) (input : CreateDeviceInput)

inductive Reply
  | session (s : PairingSession)
  | found (s : Option PairingSession)
  | claimed (s : PairingSession) (device : Schemas.Device)
  | count (n : ℕ)
  | device (device : Schemas.Device)

abbrev Outcome := Except JsError Reply

/-- A `PairingSessionRepository` with its `DeviceRepository` on the store `S`. -/
structure Adapter (S : Type) where
  create : CreatePairingRecordInput → Operation S JsError PairingSession
  getById : String → Operation S JsError (Option PairingSession)
  claim : JsDate → DeviceSource → ClaimPairingRecordInput →
    Operation S JsError (PairingSession × Schemas.Device)
  cancel : String → JsDate → Operation S JsError PairingSession
  expire : JsDate → Operation S JsError ℕ
  pruneExpired : JsDate → Operation S JsError ℕ
  createDevice : DeviceSource → CreateDeviceInput → Operation S JsError Schemas.Device
  records : S → OrderedMap PairingSessionId StoredPairingSession
  devices : S → OrderedMap DeviceId StoredDevice

namespace Adapter
variable {S : Type} (A : Adapter S)

/-- The outcome of an operation of the adapter as the outcome of a call. -/
def reply {α : Type} (f : α → Reply) (out : Except JsError α × S) : Outcome × S :=
  (out.1.map f, out.2)

def call (s : S) : Call → Outcome × S
  | .create input => reply .session (exec (A.create input) s)
  | .getById id => reply .found (exec (A.getById id) s)
  | .claim now source input => reply (fun r => .claimed r.1 r.2) (exec (A.claim now source input) s)
  | .cancel id cancelledAt => reply .session (exec (A.cancel id cancelledAt) s)
  | .expire expiredAt => reply .count (exec (A.expire expiredAt) s)
  | .pruneExpired expiredAt => reply .count (exec (A.pruneExpired expiredAt) s)
  | .createDevice source input => reply .device (exec (A.createDevice source input) s)

/-- The store after a history of calls. -/
def after (s : S) (calls : List Call) : S := runFrom (fun s c => (A.call s c).2) s calls

/-- The calls with their outcomes. -/
def log (s : S) : List Call → List (Call × Outcome)
  | [] => []
  | c :: calls => (c, (A.call s c).1) :: log (A.call s c).2 calls

def stored (s : S) (p : PairingSessionId) : Option StoredPairingSession := (A.records s).get? p

/-- Records may disappear and nothing else happens. -/
structure Shrinks (s s' : S) : Prop where
  records : ∀ p, A.stored s' p = A.stored s p ∨ A.stored s' p = none
  devices : A.devices s' = A.devices s

/-- `record` replaces the record under its id and no other record changes. -/
def Replaces (s : S) (record : StoredPairingSession) (s' : S) : Prop :=
  ∀ p, A.stored s' p = if p = record.pairingSessionId then some record else A.stored s p

/-- What one call can do. -/
inductive CallOutcome (s : S) : Call → Outcome × S → Prop
  | refused (c : Call) (e : JsError) : CallOutcome s c (.error e, s)
  | createRefused (input : CreatePairingRecordInput) (e : JsError) (s' : S)
      (h : A.Shrinks s s') : CallOutcome s (.create input) (.error e, s')
  | created (input : CreatePairingRecordInput) (record : StoredPairingSession) (s' : S)
      (hpending : record.state = .pending) (hvalid : record.Valid)
      (hrecord : A.stored s' record.pairingSessionId = some record)
      (hothers : ∀ p, p ≠ record.pairingSessionId →
        A.stored s' p = A.stored s p ∨ A.stored s' p = none)
      (hdevices : A.devices s' = A.devices s) :
      CallOutcome s (.create input) (.ok (.session record.toSession), s')
  | found (id : String) (session : Option PairingSession) :
      CallOutcome s (.getById id) (.ok (.found session), s)
  | claimExpired (now : JsDate) (source : DeviceSource) (input : ClaimPairingRecordInput)
      (record : StoredPairingSession) (t : ℤ) (s' : S)
      (hrecord : A.stored s record.pairingSessionId = some record)
      (hpending : record.state = .pending) (hnow : now = some t) (hdue : record.expiresAtMs ≤ t)
      (h : A.Replaces s { record with state := .expired } s')
      (hdevices : A.devices s' = A.devices s) :
      CallOutcome s (.claim now source input)
        (.error InMemoryPairingSessionRepository.codeUnavailable, s')
  | claimed (now : JsDate) (source : DeviceSource) (input : ClaimPairingRecordInput)
      (record : StoredPairingSession) (t : ℤ) (row : StoredDevice) (s' : S)
      (hrecord : A.stored s record.pairingSessionId = some record)
      (hpending : record.state = .pending) (hnow : now = some t)
      (hfrom : record.createdAtMs ≤ t) (huntil : t < record.expiresAtMs)
      (hnew : (A.devices s).get? row.deviceId = none)
      (h : A.Replaces s (record.claimBy t row.deviceId) s')
      (hdevices : A.devices s' = (A.devices s).set row.deviceId row) :
      CallOutcome s (.claim now source input)
        (.ok (.claimed (record.claimBy t row.deviceId).toSession (toSnapshot row)), s')
  | left (id : String) (cancelledAt : JsDate) (record : StoredPairingSession)
      (state : PairingState) (s' : S)
      (hrecord : A.stored s record.pairingSessionId = some record)
      (hpending : record.state = .pending) (hstate : state = .cancelled ∨ state = .expired)
      (h : A.Replaces s { record with state := state } s')
      (hdevices : A.devices s' = A.devices s) :
      CallOutcome s (.cancel id cancelledAt)
        (.ok (.session { record with state := state }.toSession), s')
  | expired (expiredAt : JsDate) (t : ℤ) (n : ℕ) (s' : S)
      (hrecords : ∀ p, A.stored s' p =
        (A.stored s p).map (InMemoryPairingSessionRepository.expireRecord t))
      (hdevices : A.devices s' = A.devices s) :
      CallOutcome s (.expire expiredAt) (.ok (.count n), s')
  | pruned (expiredAt : JsDate) (n : ℕ) (s' : S) (h : A.Shrinks s s') :
      CallOutcome s (.pruneExpired expiredAt) (.ok (.count n), s')
  | deviceCreated (source : DeviceSource) (input : CreateDeviceInput) (row : StoredDevice) (s' : S)
      (hnew : (A.devices s).get? row.deviceId = none)
      (hrecords : ∀ p, A.stored s' p = A.stored s p)
      (hdevices : A.devices s' = (A.devices s).set row.deviceId row) :
      CallOutcome s (.createDevice source input) (.ok (.device (toSnapshot row)), s')

/-- `CallOutcome` of an operation of the adapter. -/
def Returns {α : Type} (s : S) (c : Call) (f : α → Reply) (out : Except JsError α × S) : Prop :=
  A.CallOutcome s c (reply f out)

/-- Every record is valid and is kept under its own id. -/
def RecordsValid (s : S) : Prop :=
  ∀ p r, A.stored s p = some r → r.pairingSessionId = p ∧ r.Valid

/-- From a store with valid records, every call does what it may. -/
def Contract : Prop := ∀ s c, A.RecordsValid s → A.CallOutcome s c (A.call s c)

end Adapter

/-! ## Histories -/

/-- The session that a successful create made. -/
def createdSession : Call × Outcome → Option PairingSessionId
  | (.create _, .ok (.session s)) => some s.pairingSessionId
  | _ => none

/-- The session that a successful claim claimed. -/
def claimedSession : Call × Outcome → Option PairingSessionId
  | (.claim _ _ _, .ok (.claimed s _)) => some s.pairingSessionId
  | _ => none

/-- The device that a successful claim or a direct creation made. -/
def createdDevice : Call × Outcome → Option DeviceId
  | (.claim _ _ _, .ok (.claimed _ device)) => some device.deviceId
  | (.createDevice _ _, .ok (.device device)) => some device.deviceId
  | _ => none

/-- How often the record now under `p` was claimed: successful claims since its creation. -/
def claimsStep (p : PairingSessionId) (n : ℕ) (entry : Call × Outcome) : ℕ :=
  if createdSession entry = some p then 0
  else if claimedSession entry = some p then n + 1
  else n

def claimsSinceCreate (p : PairingSessionId) (history : List (Call × Outcome)) : ℕ :=
  history.foldl (claimsStep p) 0

/-- The only changes of a record: out of `pending`, everything else but the claim fields kept. -/
inductive RecordStep (r : StoredPairingSession) : StoredPairingSession → Prop
  | same : RecordStep r r
  | expired (hpending : r.state = .pending) : RecordStep r { r with state := .expired }
  | cancelled (hpending : r.state = .pending) : RecordStep r { r with state := .cancelled }
  | claimed (t : ℤ) (d : DeviceId) (hpending : r.state = .pending) :
      RecordStep r (r.claimBy t d)

/-- The laws of pairing sessions, over every history of calls from `init`. -/
structure PairingLaws {S : Type} (A : Adapter S) (init : S) : Prop where
  /-- Between its creation and its end a record is claimed at most once. -/
  claimed_once : ∀ calls p, claimsSinceCreate p (A.log init calls) ≤ 1
  /-- A successful claim creates the device that the session names. -/
  claim_creates : ∀ calls now source input session device,
    (A.call (A.after init calls) (.claim now source input)).1 =
      .ok (.claimed session device) →
    session.state = .claimed ∧ session.deviceId = some device.deviceId ∧
      (∃ r, A.stored (A.after init calls) session.pairingSessionId = some r ∧
        r.state = .pending) ∧
      (∃ r, A.stored (A.after init (calls ++ [.claim now source input]))
        session.pairingSessionId = some r ∧ r.state = .claimed ∧
        r.deviceId = some device.deviceId) ∧
      (A.devices (A.after init calls)).has device.deviceId = false ∧
      (A.devices (A.after init (calls ++ [.claim now source input]))).has device.deviceId = true
  /-- The devices are those of the start and one for each creation. -/
  devices_created : ∀ calls d, (A.devices (A.after init calls)).has d = true ↔
    (A.devices init).has d = true ∨ d ∈ (A.log init calls).filterMap createdDevice
  created_once : ∀ calls, ((A.log init calls).filterMap createdDevice).Nodup ∧
    ∀ d ∈ (A.log init calls).filterMap createdDevice, (A.devices init).has d = false
  /-- Two claimed records never name one device. -/
  device_of_one_session : ∀ calls p q r r' d, A.stored (A.after init calls) p = some r →
    A.stored (A.after init calls) q = some r' → r.deviceId = some d → r'.deviceId = some d → p = q
  /-- A failed claim changes nothing, or expires a record whose time is over. -/
  failed_claim : ∀ calls now source input e,
    (A.call (A.after init calls) (.claim now source input)).1 = .error e →
    (A.call (A.after init calls) (.claim now source input)).2 = A.after init calls ∨
    ∃ r t, A.stored (A.after init calls) r.pairingSessionId = some r ∧ r.state = .pending ∧
      now = some t ∧ r.expiresAtMs ≤ t ∧
      A.Replaces (A.after init calls) { r with state := .expired }
        (A.after init (calls ++ [.claim now source input])) ∧
      A.devices (A.after init (calls ++ [.claim now source input])) =
        A.devices (A.after init calls)
  /-- A claim whose device creation failed leaves everything as it was. -/
  failed_device : ∀ calls now source input code message,
    (A.call (A.after init calls) (.claim now source input)).1 =
      .error (.DeviceRepositoryError code message) →
    (A.call (A.after init calls) (.claim now source input)).2 = A.after init calls
  claim_fields : ∀ calls p r, A.stored (A.after init calls) p = some r →
    (r.claimedAtMs ≠ none ↔ r.state = .claimed) ∧ (r.deviceId ≠ none ↔ r.state = .claimed) ∧
    ∀ t ∈ r.claimedAtMs, r.createdAtMs ≤ t ∧ t < r.expiresAtMs
  /-- A call that does not create `p` moves its record out of `pending` or leaves it. -/
  state_changes : ∀ calls c p r', A.stored (A.after init (calls ++ [c])) p = some r' →
    createdSession (c, (A.call (A.after init calls) c).1) ≠ some p →
    ∃ r, A.stored (A.after init calls) p = some r ∧ RecordStep r r'
  created_pending : ∀ calls c p,
    createdSession (c, (A.call (A.after init calls) c).1) = some p →
    ∃ r, A.stored (A.after init (calls ++ [c])) p = some r ∧ r.state = .pending

/-! ## From the contract to the laws -/

namespace Adapter
variable {S : Type} (A : Adapter S)

theorem after_concat (s : S) (calls : List Call) (c : Call) :
    A.after s (calls ++ [c]) = (A.call (A.after s calls) c).2 := by
  rw [after, runFrom_append]
  rfl

theorem log_append (s : S) (calls more : List Call) :
    A.log s (calls ++ more) = A.log s calls ++ A.log (A.after s calls) more := by
  induction calls generalizing s with
  | nil => rfl
  | cons c calls ih =>
    rw [List.cons_append, log, log, ih, List.cons_append]
    rfl

theorem log_concat (s : S) (calls : List Call) (c : Call) :
    A.log s (calls ++ [c]) = A.log s calls ++ [(c, (A.call (A.after s calls) c).1)] :=
  A.log_append s calls [c]

variable {A}

theorem Replaces.valid {s s' : S} {record : StoredPairingSession} (h : A.Replaces s record s')
    (hvalid : record.Valid) (hs : A.RecordsValid s) : A.RecordsValid s' := by
  intro p r hr
  rw [h p] at hr
  by_cases hp : p = record.pairingSessionId
  · rw [if_pos hp, Option.some.injEq] at hr
    subst hr
    exact ⟨hp.symm, hvalid⟩
  · rw [if_neg hp] at hr
    exact hs p r hr

theorem Shrinks.kept {s s' : S} (h : A.Shrinks s s') {p : PairingSessionId}
    {r : StoredPairingSession} (hr : A.stored s' p = some r) : A.stored s p = some r := by
  rcases h.records p with heq | hnone
  · rwa [heq] at hr
  · rw [hnone] at hr
    cases hr

theorem Replaces.replaced {s s' : S} {record : StoredPairingSession}
    (h : A.Replaces s record s') {p : PairingSessionId} {r' : StoredPairingSession}
    (hr : A.stored s' p = some r') :
    (p = record.pairingSessionId ∧ r' = record) ∨ A.stored s p = some r' := by
  rw [h p] at hr
  by_cases hp : p = record.pairingSessionId
  · rw [if_pos hp, Option.some.injEq] at hr
    exact .inl ⟨hp, hr.symm⟩
  · rw [if_neg hp] at hr
    exact .inr hr

/-! ### One call -/

variable {s : S} {c : Call} {out : Outcome × S}

theorem CallOutcome.recordsValid (h : A.CallOutcome s c out) (hs : A.RecordsValid s) :
    A.RecordsValid out.2 := by
  cases h with
  | refused | found => exact hs
  | createRefused _ _ s' h | pruned _ _ s' h => exact fun p r hr => hs p r (h.kept hr)
  | created _ record s' _ hvalid hrecord hothers _ =>
    intro p r hr
    by_cases hp : p = record.pairingSessionId
    · subst hp
      rw [hrecord, Option.some.injEq] at hr
      subst hr
      exact ⟨rfl, hvalid⟩
    · rcases hothers p hp with heq | hnone
      · rw [heq] at hr
        exact hs p r hr
      · rw [hnone] at hr
        cases hr
  | claimExpired _ _ _ record t s' hrecord hpending _ _ h _ =>
    exact h.valid ((hs _ _ hrecord).2.leave hpending (by decide)) hs
  | claimed _ _ _ record t row s' hrecord _ _ hfrom huntil _ h _ =>
    exact h.valid ((hs _ _ hrecord).2.claimBy hfrom huntil _) hs
  | left _ _ record state s' hrecord hpending hstate h _ =>
    refine h.valid ((hs _ _ hrecord).2.leave hpending ?_) hs
    rcases hstate with rfl | rfl <;> decide
  | expired _ t _ s' hrecords _ =>
    intro p r hr
    rw [hrecords p] at hr
    obtain ⟨r0, hr0, rfl⟩ := Option.map_eq_some_iff.mp hr
    obtain ⟨hid, hvalid⟩ := hs p r0 hr0
    unfold InMemoryPairingSessionRepository.expireRecord
    split
    · next hdue =>
      have hpending : r0.state = .pending := (of_decide_eq_true hdue).1
      exact ⟨hid, hvalid.leave hpending (by decide)⟩
    · exact ⟨hid, hvalid⟩
  | deviceCreated _ _ _ s' _ hrecords _ =>
    intro p r hr
    rw [hrecords p] at hr
    exact hs p r hr

/-- A record of the next store was created by the call or stepped; it changes its device only
when the call claims it, to the device that the call created. -/
theorem CallOutcome.step (h : A.CallOutcome s c out) {p : PairingSessionId}
    {r' : StoredPairingSession} (hr : A.stored out.2 p = some r')
    (hcreated : createdSession (c, out.1) ≠ some p) :
    ∃ r, A.stored s p = some r ∧ RecordStep r r' ∧ (r'.deviceId = r.deviceId ∨
      claimedSession (c, out.1) = some p ∧ r'.deviceId = createdDevice (c, out.1)) := by
  cases h with
  | refused | found => exact ⟨r', hr, .same, .inl rfl⟩
  | createRefused _ _ s' h | pruned _ _ s' h => exact ⟨r', h.kept hr, .same, .inl rfl⟩
  | created _ record s' _ _ hrecord hothers _ =>
    have hp : p ≠ record.pairingSessionId := fun hp => hcreated (by rw [hp]; rfl)
    rcases hothers p hp with heq | hnone
    · rw [heq] at hr
      exact ⟨r', hr, .same, .inl rfl⟩
    · rw [hnone] at hr
      cases hr
  | claimExpired _ _ _ record t s' hrecord hpending _ _ h _ =>
    rcases h.replaced hr with ⟨rfl, rfl⟩ | hkept
    · exact ⟨record, hrecord, .expired hpending, .inl rfl⟩
    · exact ⟨r', hkept, .same, .inl rfl⟩
  | claimed _ _ _ record t row s' hrecord hpending _ _ _ _ h _ =>
    rcases h.replaced hr with ⟨rfl, rfl⟩ | hkept
    · exact ⟨record, hrecord, .claimed t _ hpending, .inr ⟨rfl, rfl⟩⟩
    · exact ⟨r', hkept, .same, .inl rfl⟩
  | left _ _ record state s' hrecord hpending hstate h _ =>
    rcases h.replaced hr with ⟨rfl, rfl⟩ | hkept
    · rcases hstate with rfl | rfl
      · exact ⟨record, hrecord, .cancelled hpending, .inl rfl⟩
      · exact ⟨record, hrecord, .expired hpending, .inl rfl⟩
    · exact ⟨r', hkept, .same, .inl rfl⟩
  | expired _ t _ s' hrecords _ =>
    rw [hrecords p] at hr
    obtain ⟨r0, hr0, rfl⟩ := Option.map_eq_some_iff.mp hr
    unfold InMemoryPairingSessionRepository.expireRecord
    split
    · next hdue => exact ⟨r0, hr0, .expired (of_decide_eq_true hdue).1, .inl rfl⟩
    · exact ⟨r0, hr0, .same, .inl rfl⟩
  | deviceCreated _ _ _ s' _ hrecords _ =>
    rw [hrecords p] at hr
    exact ⟨r', hr, .same, .inl rfl⟩

theorem CallOutcome.created_pending (h : A.CallOutcome s c out) {p : PairingSessionId}
    (hp : createdSession (c, out.1) = some p) :
    ∃ r, A.stored out.2 p = some r ∧ r.state = .pending := by
  cases h with
  | created _ record s' hpending _ hrecord _ _ =>
    obtain rfl : record.pairingSessionId = p := by
      simpa [createdSession, StoredPairingSession.toSession] using hp
    exact ⟨record, hrecord, hpending⟩
  | _ => simp [createdSession] at hp

theorem CallOutcome.claim_pending (h : A.CallOutcome s c out) {p : PairingSessionId}
    (hp : claimedSession (c, out.1) = some p) :
    (∃ r, A.stored s p = some r ∧ r.state = .pending) ∧
      ∃ r', A.stored out.2 p = some r' ∧ r'.state = .claimed := by
  cases h with
  | claimed _ _ _ record t row s' hrecord hpending _ _ _ _ h _ =>
    obtain rfl : record.pairingSessionId = p := by
      simpa [claimedSession, StoredPairingSession.toSession, StoredPairingSession.claimBy] using hp
    exact ⟨⟨record, hrecord, hpending⟩, _, (h _).trans (if_pos rfl), rfl⟩
  | _ => simp [claimedSession] at hp

theorem CallOutcome.devices (h : A.CallOutcome s c out) (d : DeviceId) :
    ((A.devices out.2).has d = true ↔
      (A.devices s).has d = true ∨ createdDevice (c, out.1) = some d) ∧
    (createdDevice (c, out.1) = some d → (A.devices s).has d = false) := by
  have hadd : ∀ (row : StoredDevice) (s' : S), (A.devices s).get? row.deviceId = none →
      A.devices s' = (A.devices s).set row.deviceId row →
      ((A.devices s').has d = true ↔ (A.devices s).has d = true ∨ row.deviceId = d) ∧
      (row.deviceId = d → (A.devices s).has d = false) := by
    intro row s' hnew hset
    constructor
    · rw [hset, ← OrderedMap.mem_keys_iff, OrderedMap.mem_keys_set, OrderedMap.mem_keys_iff]
      exact ⟨fun h => h.elim (fun h => .inr h.symm) .inl, fun h => h.elim .inr (fun h => .inl h.symm)⟩
    · rintro rfl
      exact (OrderedMap.has_false_iff _ _).mpr hnew
  cases h with
  | claimed _ _ _ record t row s' _ _ _ _ _ hnew _ hdevices =>
    simpa [createdDevice, toSnapshot] using hadd row s' hnew hdevices
  | deviceCreated _ _ row s' hnew _ hdevices =>
    simpa [createdDevice, toSnapshot] using hadd row s' hnew hdevices
  | createRefused _ _ s' h | pruned _ _ s' h => simp [createdDevice, h.devices]
  | created _ _ s' _ _ _ _ hdevices | claimExpired _ _ _ _ _ s' _ _ _ _ _ hdevices
  | left _ _ _ _ s' _ _ _ _ hdevices | expired _ _ _ s' _ hdevices =>
    simp [createdDevice, hdevices]
  | _ => simp [createdDevice]

/-- A record that names a device named it before, or was claimed by this call for a new one. -/
theorem CallOutcome.device_origin (h : A.CallOutcome s c out) (hs : A.RecordsValid s)
    {p : PairingSessionId} {r' : StoredPairingSession} {d : DeviceId}
    (hr : A.stored out.2 p = some r') (hd : r'.deviceId = some d) :
    (∃ r, A.stored s p = some r ∧ r.deviceId = some d) ∨
      (createdDevice (c, out.1) = some d ∧ claimedSession (c, out.1) = some p) := by
  by_cases hcreated : createdSession (c, out.1) = some p
  · obtain ⟨r, hr0, hpending⟩ := h.created_pending hcreated
    rw [hr, Option.some.injEq] at hr0
    subst hr0
    have hnone := ((h.recordsValid hs p r' hr).2.notClaimed (by simp [hpending])).2
    rw [hnone] at hd
    cases hd
  · obtain ⟨r, hr0, -, hdevice | ⟨hclaimed, hdevice⟩⟩ := h.step hr hcreated
    · exact .inl ⟨r, hr0, hdevice ▸ hd⟩
    · exact .inr ⟨hdevice ▸ hd, hclaimed⟩

/-- The number of claims since the creation stays at most one, and is zero while pending. -/
theorem CallOutcome.claims (h : A.CallOutcome s c out) (p : PairingSessionId) (n : ℕ)
    (hn : n ≤ 1) (hpending : ∀ r, A.stored s p = some r → r.state = .pending → n = 0) :
    claimsStep p n (c, out.1) ≤ 1 ∧ ∀ r, A.stored out.2 p = some r → r.state = .pending →
      claimsStep p n (c, out.1) = 0 := by
  unfold claimsStep
  by_cases hcreated : createdSession (c, out.1) = some p
  · simp [hcreated]
  by_cases hclaimed : claimedSession (c, out.1) = some p
  · obtain ⟨⟨r, hr, hstate⟩, r', hr', hstate'⟩ := h.claim_pending hclaimed
    rw [if_neg hcreated, if_pos hclaimed, hpending r hr hstate]
    refine ⟨Nat.le_refl 1, fun r'' hr'' hstate'' => ?_⟩
    rw [hr', Option.some.injEq] at hr''
    subst hr''
    rw [hstate'] at hstate''
    cases hstate''
  · rw [if_neg hcreated, if_neg hclaimed]
    refine ⟨hn, fun r' hr' hstate' => ?_⟩
    obtain ⟨r, hr, hstep, -⟩ := h.step hr' hcreated
    cases hstep with
    | same => exact hpending r' hr hstate'
    | expired | cancelled | claimed => cases hstate'

theorem CallOutcome.failed_claim {now : JsDate} {source : DeviceSource}
    {input : ClaimPairingRecordInput} (h : A.CallOutcome s (.claim now source input) out)
    {e : JsError} (he : out.1 = .error e) :
    out.2 = s ∨ (e = InMemoryPairingSessionRepository.codeUnavailable ∧
      ∃ r t, A.stored s r.pairingSessionId = some r ∧ r.state = .pending ∧ now = some t ∧
        r.expiresAtMs ≤ t ∧ A.Replaces s { r with state := .expired } out.2 ∧
        A.devices out.2 = A.devices s) := by
  cases h with
  | refused => exact .inl rfl
  | claimExpired _ _ _ record t s' hrecord hpending hnow hdue h hdevices =>
    exact .inr ⟨(Except.error.inj he).symm, record, t, hrecord, hpending, hnow, hdue, h, hdevices⟩
  | claimed => cases he

theorem CallOutcome.claim_creates {now : JsDate} {source : DeviceSource}
    {input : ClaimPairingRecordInput} (h : A.CallOutcome s (.claim now source input) out)
    (hs : A.RecordsValid s) {session : PairingSession} {device : Schemas.Device}
    (hout : out.1 = .ok (.claimed session device)) :
    session.state = .claimed ∧ session.deviceId = some device.deviceId ∧
      (∃ r, A.stored s session.pairingSessionId = some r ∧ r.state = .pending) ∧
      (∃ r, A.stored out.2 session.pairingSessionId = some r ∧ r.state = .claimed ∧
        r.deviceId = some device.deviceId) ∧
      (A.devices s).has device.deviceId = false ∧
      (A.devices out.2).has device.deviceId = true := by
  have hdevices := h.devices device.deviceId
  have hcreated : createdDevice (.claim now source input, out.1) = some device.deviceId := by
    rw [hout]
    rfl
  have hhas := hdevices.2 hcreated
  have hhas' := hdevices.1.mpr (.inr hcreated)
  cases h with
  | refused => cases hout
  | claimExpired => cases hout
  | claimed _ _ _ record t row s' hrecord hpending _ hfrom huntil _ h _ =>
    cases hout
    exact ⟨rfl, ((hs _ _ hrecord).2.claimBy hfrom huntil _).toSession_fields.2,
      ⟨record, hrecord, hpending⟩, ⟨_, (h _).trans (if_pos rfl), rfl, rfl⟩, hhas, hhas'⟩

/-! ### Histories -/

section Histories
variable (h : A.Contract) {init : S} (hinit : A.RecordsValid init)
include h hinit

theorem Contract.after (calls : List Call) : A.RecordsValid (A.after init calls) :=
  runFrom_invariant (fun s c hs => (h s c hs).recordsValid hs) hinit calls

theorem Contract.call_after (calls : List Call) (c : Call) :
    A.CallOutcome (A.after init calls) c (A.call (A.after init calls) c) :=
  h _ c (h.after hinit calls)

theorem Contract.claims_after (calls : List Call) (p : PairingSessionId) :
    claimsSinceCreate p (A.log init calls) ≤ 1 ∧
      ∀ r, A.stored (A.after init calls) p = some r → r.state = .pending →
        claimsSinceCreate p (A.log init calls) = 0 := by
  induction calls using List.reverseRecOn with
  | nil => exact ⟨by simp [log, claimsSinceCreate], fun r _ _ => rfl⟩
  | append_singleton calls c ih =>
    rw [log_concat, after_concat, claimsSinceCreate, List.foldl_append]
    exact (h.call_after hinit calls c).claims p _ ih.1 ih.2

theorem Contract.devices_created (calls : List Call) (d : DeviceId) :
    (A.devices (A.after init calls)).has d = true ↔
      (A.devices init).has d = true ∨ d ∈ (A.log init calls).filterMap createdDevice := by
  induction calls using List.reverseRecOn with
  | nil => simp [log, Adapter.after]
  | append_singleton calls c ih =>
    rw [log_concat, after_concat, ((h.call_after hinit calls c).devices d).1, ih, or_assoc,
      List.filterMap_append, List.mem_append]
    simp

theorem Contract.created_once (calls : List Call) :
    ((A.log init calls).filterMap createdDevice).Nodup ∧
      ∀ d ∈ (A.log init calls).filterMap createdDevice, (A.devices init).has d = false := by
  induction calls using List.reverseRecOn with
  | nil => simp [log]
  | append_singleton calls c ih =>
    have hnew : ∀ d, createdDevice (c, (A.call (A.after init calls) c).1) = some d →
        ¬ ((A.devices init).has d = true ∨ d ∈ (A.log init calls).filterMap createdDevice) := by
      intro d hd
      rw [← h.devices_created hinit calls d, ((h.call_after hinit calls c).devices d).2 hd]
      exact Bool.false_ne_true
    rw [log_concat, List.filterMap_append]
    refine ⟨List.nodup_append.mpr ⟨ih.1, ?_, ?_⟩, ?_⟩
    · rw [List.filterMap_cons, List.filterMap_nil]
      split <;> simp
    · intro d hd d' hd' heq
      subst heq
      exact hnew d (by simpa using hd') (.inr hd)
    · intro d hd
      rcases List.mem_append.mp hd with hd | hd
      · exact ih.2 d hd
      · exact Bool.not_eq_true _ ▸ fun hhas => hnew d (by simpa using hd) (.inl hhas)

/-- A claimed record's device exists and is no other record's. -/
theorem Contract.devices_named (hempty : ∀ p, A.stored init p = none) (calls : List Call) :
    (∀ p r d, A.stored (A.after init calls) p = some r → r.deviceId = some d →
      (A.devices (A.after init calls)).has d = true) ∧
    ∀ p q r r' d, A.stored (A.after init calls) p = some r →
      A.stored (A.after init calls) q = some r' → r.deviceId = some d → r'.deviceId = some d →
      p = q := by
  induction calls using List.reverseRecOn with
  | nil => simp [Adapter.after, hempty]
  | append_singleton calls c ih =>
    have hcall := h.call_after hinit calls c
    have hs := h.after hinit calls
    rw [after_concat]
    refine ⟨fun p r d hr hd => ?_, fun p q r r' d hr hr' hd hd' => ?_⟩
    · rw [(hcall.devices d).1]
      rcases hcall.device_origin hs hr hd with ⟨r0, hr0, hd0⟩ | ⟨hnew, -⟩
      · exact .inl (ih.1 p r0 d hr0 hd0)
      · exact .inr hnew
    · have hfresh : createdDevice (c, (A.call (A.after init calls) c).1) = some d →
          ∀ p0 r0, A.stored (A.after init calls) p0 = some r0 → r0.deviceId ≠ some d := by
        intro hnew p0 r0 hr0 hd0
        have hhas := ih.1 p0 r0 d hr0 hd0
        rw [(hcall.devices d).2 hnew] at hhas
        cases hhas
      rcases hcall.device_origin hs hr hd with ⟨r0, hr0, hd0⟩ | ⟨hnew, hclaim⟩
      · rcases hcall.device_origin hs hr' hd' with ⟨r1, hr1, hd1⟩ | ⟨hnew, -⟩
        · exact ih.2 p q r0 r1 d hr0 hr1 hd0 hd1
        · exact absurd hd0 (hfresh hnew p r0 hr0)
      · rcases hcall.device_origin hs hr' hd' with ⟨r1, hr1, hd1⟩ | ⟨-, hclaim'⟩
        · exact absurd hd1 (hfresh hnew q r1 hr1)
        · exact Option.some.inj (hclaim.symm.trans hclaim')

end Histories

/-- An adapter that meets the contract obeys the laws from every store without sessions. -/
theorem Contract.pairingLaws (h : A.Contract) {init : S}
    (hempty : ∀ p, A.stored init p = none) : PairingLaws A init := by
  have hinit : A.RecordsValid init := fun p r hr => by simp [hempty] at hr
  exact {
    claimed_once := fun calls p => (h.claims_after hinit calls p).1
    claim_creates := fun calls now source input session device hout => by
      rw [after_concat]
      exact (h.call_after hinit calls _).claim_creates (h.after hinit calls) hout
    devices_created := h.devices_created hinit
    created_once := h.created_once hinit
    device_of_one_session := fun calls => (h.devices_named hinit hempty calls).2
    failed_claim := fun calls now source input e he => by
      rw [after_concat]
      exact ((h.call_after hinit calls _).failed_claim he).imp_right And.right
    failed_device := fun calls now source input code message he => by
      rcases (h.call_after hinit calls _).failed_claim he with hsame | ⟨hcode, -⟩
      · exact hsame
      · cases hcode
    claim_fields := fun calls p r hr => by
      have hvalid := (h.after hinit calls p r hr).2
      by_cases hstate : r.state = .claimed
      · obtain ⟨hdevice, t, ht, htimes⟩ := hvalid.claimed hstate
        simpa [hstate, hdevice, ht] using htimes
      · obtain ⟨hclaimedAt, hdevice⟩ := hvalid.notClaimed hstate
        simp [hstate, hclaimedAt, hdevice]
    state_changes := fun calls c p r' hr hcreated => by
      rw [after_concat] at hr
      obtain ⟨r, hr0, hstep, -⟩ := (h.call_after hinit calls c).step hr hcreated
      exact ⟨r, hr0, hstep⟩
    created_pending := fun calls c p hp => by
      rw [after_concat]
      exact (h.call_after hinit calls c).created_pending hp }

end Adapter
end Doctmcp.Pairing
