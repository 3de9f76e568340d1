import Doctmcp.Completion.Steps

/-! # What a step of a call can do

`CallStep` is to the public methods what `TaskStep` is to the promise: for every await, where the
call goes next and what becomes of the repositories, the cache and the list of promises. -/

namespace Doctmcp.Completion
open Doctmcp.Lib Doctmcp.Lib.Operation Doctmcp.Schemas Doctmcp.Device Doctmcp.Pairing
open Doctmcp.Credential CompletionRepository
set_option autoImplicit false

/-- The pairing and device repositories as an adapter. -/
abbrev ServiceOptions.adapter (options : ServiceOptions) : Pairing.Adapter MemoryStore :=
  InMemoryPairingSessionRepository.adapter options.pairings

/-- What the repositories guarantee about their own records, the pairing records included. -/
structure World.Sound (options : ServiceOptions) (w : World) : Prop where
  stores : w.stores.Sound
  pairings : options.adapter.RecordsValid w.stores.pairing

/-- A resume of a well-formed session by a well-formed owner. -/
def Call.IsResume : Call → Prop
  | .resumeSession pairingSessionId ownerId =>
    pairingSessionIdSchema pairingSessionId ≠ none ∧ ownerIdSchema ownerId ≠ none
  | .resumeDevice _ ownerId _ _ => ownerIdSchema ownerId ≠ none
  | .resumePersisted _ _ _ => True
  | _ => False

namespace World

def withCompletions (w : World) (c : CompletionRepository) : World :=
  { w with stores := { w.stores with completions := c } }

def withPairing (w : World) (s : MemoryStore) : World :=
  { w with stores := { w.stores with pairing := s } }

def withCache (w : World) (cache : OrderedMap String ℕ) : World :=
  { w with completionBySessionId := cache }

/-- The unexpired completion record under `id`. -/
def record (w : World) (id : String) : Option CompletionRecord := w.stores.record w.now id

/-- A new promise of `#complete`, cached under its session. -/
def create (w : World) (task : Task) : World :=
  { w with
    tasks := w.tasks ++ [task]
    completionBySessionId := w.completionBySessionId.set task.key w.tasks.length }

end World

section
variable (options : ServiceOptions) (source : DeviceSource) (w : World) (i : ℕ)

/-- `c` is the repository without the records under `id`. -/
def Deleted (id : String) (s c : CompletionRepository) : Prop :=
  ∀ later j, live later c j = if j = id then none else live later s j

/-- The pairing repository has a claimed session under `p`, for the device `d`. -/
structure ClaimedFor (p : PairingSessionId) (session : PairingSession) (d : DeviceId) : Prop where
  id : session.pairingSessionId = p
  stored : ∃ r, options.adapter.stored w.stores.pairing p = some r ∧ r.state = .claimed ∧
    r.deviceId = some d ∧ session = r.toSession

/-- What one step of a call can do. -/
inductive CallStep : Call → World → Prop
  | idle (call : Call) : CallStep call w
  | throws (call : Call) (error : JsError) (c : CompletionRepository)
      (hresume : call.IsResume → error = completionUnavailable)
      (hkept : Kept w.now w.stores.completions c) :
      CallStep call ((w.withCompletions c).setCall i (.throws error))
  | admitted (admissionId : String) (request : Except JsError ClaimPairingRecordInput)
      (c : CompletionRepository) (hkept : Kept w.now w.stores.completions c) :
      CallStep (.claimReserve admissionId request)
        ((w.withCompletions c).setCall i (.claimPairingCode admissionId request))
  | claimed (admissionId : String) (request : Except JsError ClaimPairingRecordInput)
      (input : ClaimPairingRecordInput) (session : PairingSession) (device : Schemas.Device)
      (s : MemoryStore)
      (houtcome : options.adapter.CallOutcome w.stores.pairing (.claim (some w.now) source input)
        (.ok (.claimed session device), s)) :
      CallStep (.claimPairingCode admissionId request)
        ((w.withPairing s).setCall i (.claimTransfer admissionId session device))
  | claimRefused (admissionId : String) (request : Except JsError ClaimPairingRecordInput)
      (error : JsError) (s : MemoryStore)
      (houtcome : s = w.stores.pairing ∨ ∃ input e, options.adapter.CallOutcome w.stores.pairing
        (.claim (some w.now) source input) (.error e, s)) :
      CallStep (.claimPairingCode admissionId request)
        ((w.withPairing s).setCall i (.claimDrop admissionId error))
  | dropped (admissionId : String) (error : JsError) (c : CompletionRepository)
      (hdeleted : Deleted admissionId w.stores.completions c) :
      CallStep (.claimDrop admissionId error) ((w.withCompletions c).setCall i (.throws error))
  | transferred (admissionId : String) (session : PairingSession) (device : Schemas.Device)
      (c : CompletionRepository) (hkept : Kept w.now w.stores.completions c) :
      CallStep (.claimTransfer admissionId session device)
        ((w.withCompletions c).setCall i (.claimComplete session device))
  | transferRefused (admissionId : String) (session : PairingSession) (device : Schemas.Device)
      (c : CompletionRepository) (hkept : Kept w.now w.stores.completions c) :
      CallStep (.claimTransfer admissionId session device)
        ((w.withCompletions c).setCall i (.claimDrop admissionId completionUnavailable))
  | foundSession (pairingSessionId ownerId : String) (p : PairingSessionId)
      (session : PairingSession) (d : DeviceId)
      (hid : pairingSessionIdSchema pairingSessionId = some p)
      (hsession : ClaimedFor options w p session d) :
      CallStep (.resumeSession pairingSessionId ownerId)
        (w.setCall i (.resumeDevice pairingSessionId ownerId session d))
  | foundDevice (pairingSessionId ownerId : String) (session : PairingSession) (d : DeviceId)
      (device : Schemas.Device) (hdevice : device.deviceId = d)
      (hstored : w.stores.pairing.devices.records.get? d ≠ none) :
      CallStep (.resumeDevice pairingSessionId ownerId session d)
        (w.setCall i (.resumePersisted pairingSessionId session device))
  | undelivered (pairingSessionId : String) (session : PairingSession) (device : Schemas.Device)
      (c : CompletionRepository)
      (hstate : ∀ r ∈ w.record pairingSessionId, r.state ≠ .delivered)
      (hkept : Kept w.now w.stores.completions c) :
      CallStep (.resumePersisted pairingSessionId session device)
        ((w.withCompletions c).setCall i (.resumeComplete pairingSessionId session device))
  | claimJoined (session : PairingSession) (device : Schemas.Device) (existing : ℕ)
      (hcache : w.completionBySessionId.get? session.pairingSessionId.value = some existing) :
      CallStep (.claimComplete session device) (w.setCall i (.awaiting existing false))
  | claimCreated (session : PairingSession) (device : Schemas.Device)
      (hcache : w.completionBySessionId.get? session.pairingSessionId.value = none) :
      CallStep (.claimComplete session device)
        ((w.create ⟨session, device, false, .readPersisted⟩).setCall i
          (.awaiting w.tasks.length true))
  | resumeJoined (pairingSessionId : String) (session : PairingSession) (device : Schemas.Device)
      (existing : ℕ) (hcache : w.completionBySessionId.get? pairingSessionId = some existing ∨
        w.completionBySessionId.get? session.pairingSessionId.value = some existing) :
      CallStep (.resumeComplete pairingSessionId session device)
        (w.setCall i (.awaiting existing false))
  | resumeCreated (pairingSessionId : String) (session : PairingSession) (device : Schemas.Device)
      (hcache : w.completionBySessionId.get? session.pairingSessionId.value = none) :
      CallStep (.resumeComplete pairingSessionId session device)
        ((w.create ⟨session, device, true, .readPersisted⟩).setCall i
          (.awaiting w.tasks.length true))
  | completed (j : ℕ) (creator : Bool) (promise : Task) (completed : CompletedPairingCredential)
      (hpromise : w.tasks[j]? = some promise) (hresult : promise.result = some (.ok completed)) :
      CallStep (.awaiting j creator) (w.setCall i (.returned (.ok (.completed completed))))
  | failed (j : ℕ) (creator : Bool) (promise : Task) (error : JsError)
      (cache : OrderedMap String ℕ) (hpromise : w.tasks[j]? = some promise)
      (hresult : promise.result = some (.error error))
      (hcache : cache = w.completionBySessionId ∨
        w.completionBySessionId.get? promise.key = some j ∧
          cache = w.completionBySessionId.delete promise.key) :
      CallStep (.awaiting j creator)
        ((w.withCache cache).setCall i (.throws error))
  | acknowledgeFound (input : AcknowledgePairingCredentialDeliveryInput) (p : PairingSessionId)
      (session : PairingSession) (d : DeviceId)
      (hid : pairingSessionIdSchema input.pairingSessionId = some p)
      (hsession : ClaimedFor options w p session d) :
      CallStep (.acknowledgeSession input) (w.setCall i (.acknowledgeDevice input d))
  | acknowledgeOwned (input : AcknowledgePairingCredentialDeliveryInput) (d : DeviceId)
      (device : Schemas.Device) (hdevice : device.deviceId = d) :
      CallStep (.acknowledgeDevice input d) (w.setCall i (.acknowledgeStore input device))
  | acknowledged (input : AcknowledgePairingCredentialDeliveryInput) (device : Schemas.Device)
      (existing : CompletionRecord) (c : CompletionRepository)
      (hread : w.record input.pairingSessionId = some existing)
      (hdevice : existing.deviceId = device.deviceId.value)
      (hgeneration : existing.sameGeneration input.credentialId input.credentialVersion)
      (hstate : existing.state = .delivered ∧ Kept w.now w.stores.completions c ∨
        existing.state = .pending ∧ Stored options.completions w.now
          { existing with state := .delivered } w.stores.completions c) :
      CallStep (.acknowledgeStore input device)
        ((w.withCompletions c).setCall i (.acknowledgeForget input))
  | forgotCached (input : AcknowledgePairingCredentialDeliveryInput) :
      CallStep (.acknowledgeForget input)
        ((w.withCache (w.completionBySessionId.delete input.pairingSessionId)).setCall i
          (.returned (.ok (.acknowledged input.pairingSessionId))))
  | forgot (pairingSessionId : String) (c : CompletionRepository)
      (hdeleted : Deleted pairingSessionId w.stores.completions c) :
      CallStep (.forgetDelete pairingSessionId)
        ((w.withCompletions c).setCall i (.returned (.ok (.forgotten pairingSessionId))))

end

section
variable {options : ServiceOptions} {source : DeviceSource} {w : World} {i : ℕ}

theorem deleted_delete (id : String) (s : CompletionRepository) :
    Deleted id s (exec (delete id) s).2 := fun later j => live_delete later id j s

theorem kept_refl (s : CompletionRepository) : Kept w.now s s := fun _ _ _ => rfl

/-- A call that throws without having changed anything. -/
theorem callStep_throws {call : Call} {error : JsError}
    (hresume : call.IsResume → error = completionUnavailable) :
    CallStep options source w i call (w.setCall i (.throws error)) :=
  .throws call error w.stores.completions hresume (kept_refl _)

/-! ### Reading the pairing repository -/

theorem exec_getById {s : MemoryStore} (hs : options.adapter.RecordsValid s)
    (p : PairingSessionId) :
    exec (InMemoryPairingSessionRepository.getById p.value) s =
      (.ok ((options.adapter.stored s p).map StoredPairingSession.toSession), s) := by
  unfold InMemoryPairingSessionRepository.getById
  rw [exec_lift_bind_eq (a := p) (by simp [parsePairingSessionId]), exec_get_bind]
  cases hr : s.pairings.recordsById.get? p with
  | none => simp [Pairing.Adapter.stored, InMemoryPairingSessionRepository.adapter, hr]
  | some record =>
    dsimp only
    rw [exec_lift_bind_eq (hs p record hr).2.snapshot]
    simp [Pairing.Adapter.stored, InMemoryPairingSessionRepository.adapter, hr]

/-- `getPairingSession`: it throws on a malformed id, or returns the stored session. -/
theorem exec_getPairingSession {s : MemoryStore} (hs : options.adapter.RecordsValid s)
    (id : String) : exec (PairingService.getPairingSession id) s =
      match pairingSessionIdSchema id with
      | none => (.error (.PairingServiceError .INVALID_PAIRING_INPUT
          "pairingSessionId không hợp lệ."), s)
      | some p => (.ok ((options.adapter.stored s p).map StoredPairingSession.toSession), s) := by
  unfold PairingService.getPairingSession PairingService.parsePairingSessionId
  cases pairingSessionIdSchema id with
  | none => rfl
  | some p =>
    rw [orThrow_some, exec_lift_bind_eq rfl, PairingService.exec_mapped, exec_getById hs]
    rfl

theorem claimedDevice_stored (hs : w.Sound options) {p : PairingSessionId}
    {session : PairingSession} {d : DeviceId}
    (h : World.claimedDevice ((options.adapter.stored w.stores.pairing p).map
      StoredPairingSession.toSession) = some (session, d)) : ClaimedFor options w p session d := by
  cases hr : options.adapter.stored w.stores.pairing p with
  | none => simp [hr, World.claimedDevice] at h
  | some r =>
    obtain ⟨hkey, hvalid⟩ := hs.pairings p r hr
    simp only [hr, Option.map_some, World.claimedDevice] at h
    split at h
    · next hstate =>
      rw [hvalid.toSession_fields.2, Option.map_eq_some_iff] at h
      obtain ⟨d', hd, heq⟩ := h
      rw [Prod.mk.injEq] at heq
      obtain ⟨rfl, rfl⟩ := heq
      exact ⟨hkey, r, hr, hstate, hd, rfl⟩
    · cases h

/-- Reading the session of a call: it throws, or goes on with a claimed session. -/
theorem callPairing_getPairingSession (hs : w.Sound options) {call : Call} {id : String}
    {N : PairingSession × DeviceId → Call}
    (hresume : call.IsResume → pairingSessionIdSchema id ≠ none)
    (hfound : ∀ p session d, pairingSessionIdSchema id = some p →
      ClaimedFor options w p session d →
      CallStep options source w i call (w.setCall i (N (session, d)))) :
    CallStep options source w i call (w.callPairing i (PairingService.getPairingSession id)
      (fun session => match World.claimedDevice session with
        | some found => N found
        | none => .throws completionUnavailable) .throws) := by
  unfold World.callPairing
  rw [exec_getPairingSession hs.pairings]
  cases hid : pairingSessionIdSchema id with
  | none => exact callStep_throws fun h => absurd hid (hresume h)
  | some p =>
    dsimp only
    cases hclaimed : World.claimedDevice ((options.adapter.stored w.stores.pairing p).map
        StoredPairingSession.toSession) with
    | none => exact callStep_throws fun _ => rfl
    | some found => exact hfound p found.1 found.2 hid (claimedDevice_stored hs hclaimed)

/-- Reading the device of a call: it throws, or goes on with the owner's device. -/
theorem callPairing_getForOwner (hs : w.Sound options) {call : Call} {ownerId : String}
    {d : DeviceId} {N : Schemas.Device → Call}
    (hresume : call.IsResume → ownerIdSchema ownerId ≠ none)
    (hfound : ∀ device, device.deviceId = d → w.stores.pairing.devices.records.get? d ≠ none →
      CallStep options source w i call (w.setCall i (N device))) :
    CallStep options source w i call (w.callPairing i (InMemoryPairingSessionRepository.onDevices
      (InMemoryDeviceRepository.getForOwner ownerId d.value))
      (fun device => match device with
        | some device => N device
        | none => .throws completionUnavailable) .throws) := by
  unfold World.callPairing
  rw [InMemoryPairingSessionRepository.exec_onDevices]
  unfold InMemoryDeviceRepository.getForOwner
  rw [exec_bind, exec_lift]
  cases howner : parseOwnerId ownerId with
  | error e => exact callStep_throws fun h => absurd (orThrow_error howner) (hresume h)
  | ok owner =>
    dsimp only
    rw [exec_lift_bind_eq (Device.parseDeviceId_value d), exec_get_bind, exec_pure]
    dsimp only
    cases hrow : (w.stores.pairing.devices.records.get? d).filter
        (fun record => record.ownerId = owner) with
    | none => exact callStep_throws fun _ => rfl
    | some row =>
      have hget := (Option.filter_eq_some_iff.mp hrow).1
      exact hfound _ (hs.stores.devices d row hget) (by rw [hget]; simp)

/-! ### The calls -/

theorem stepCall_claimReserve (admissionId : String)
    (request : Except JsError ClaimPairingRecordInput) :
    CallStep options source w i (.claimReserve admissionId request)
      (w.stepCall options source i (.claimReserve admissionId request)) := by
  unfold World.stepCall
  dsimp only
  unfold World.callCompletions
  rw [exec_reserve]
  have hkept := kept_pruned w.now w.stores.completions
  split_ifs
  · exact .admitted _ _ _ hkept
  · exact .throws _ _ _ False.elim hkept
  · exact .admitted _ _ _ (hkept.reservations _)

theorem stepCall_claimPairingCode (hs : w.Sound options) (admissionId : String)
    (request : Except JsError ClaimPairingRecordInput) :
    CallStep options source w i (.claimPairingCode admissionId request)
      (w.stepCall options source i (.claimPairingCode admissionId request)) := by
  unfold World.stepCall
  dsimp only
  unfold World.callPairing PairingService.claimPairingCode
  rw [exec_bind, exec_lift]
  cases request with
  | error e => exact .claimRefused _ _ e _ (.inl rfl)
  | ok input =>
    dsimp only
    rw [PairingService.exec_mapped]
    have houtcome := InMemoryPairingSessionRepository.contract options.pairings _
      (.claim (some w.now) source input) hs.pairings
    change Pairing.Adapter.CallOutcome _ _ _ (Pairing.Adapter.reply _
      (exec (InMemoryPairingSessionRepository.claim (some w.now) source input)
        w.stores.pairing)) at houtcome
    generalize exec (InMemoryPairingSessionRepository.claim (some w.now) source input)
      w.stores.pairing = out at houtcome ⊢
    obtain ⟨r, s⟩ := out
    cases r with
    | error e => exact .claimRefused _ _ _ s (.inr ⟨input, e, houtcome⟩)
    | ok claimed => exact .claimed _ _ input claimed.1 claimed.2 s houtcome

theorem stepCall_claimTransfer (admissionId : String) (session : PairingSession)
    (device : Schemas.Device) :
    CallStep options source w i (.claimTransfer admissionId session device)
      (w.stepCall options source i (.claimTransfer admissionId session device)) := by
  unfold World.stepCall
  dsimp only
  unfold World.callCompletions transferReservation
  rw [exec_pruneExpired_bind, exec_get_bind]
  have hkept := kept_pruned w.now w.stores.completions
  cases (w.stores.completions.pruned w.now).reservations.get? admissionId with
  | none => exact .transferRefused _ _ _ _ hkept
  | some expiresAtMs =>
    dsimp only
    split_ifs
    · exact .transferRefused _ _ _ _ hkept
    · exact .transferred _ _ _ _ (hkept.reservations _)

theorem complete_claim (session : PairingSession) (device : Schemas.Device) :
    CallStep options source w i (.claimComplete session device)
      (w.complete i session device false) := by
  unfold World.complete
  cases hcache : w.completionBySessionId.get? session.pairingSessionId.value with
  | none => exact .claimCreated session device hcache
  | some existing => exact .claimJoined session device existing hcache

theorem stepCall_resumePersisted (id : String) (session : PairingSession)
    (device : Schemas.Device) :
    CallStep options source w i (.resumePersisted id session device)
      (w.stepCall options source i (.resumePersisted id session device)) := by
  unfold World.stepCall
  dsimp only
  unfold World.callCompletions
  rw [CompletionRepository.exec_get]
  have hkept := kept_pruned w.now w.stores.completions
  dsimp only
  split_ifs with hdelivered
  · exact .throws _ _ _ (fun _ => rfl) hkept
  · exact .undelivered _ _ _ _ (fun r hr hstate => hdelivered ⟨r, hr, hstate⟩) hkept

theorem stepCall_resumeComplete (id : String) (session : PairingSession)
    (device : Schemas.Device) :
    CallStep options source w i (.resumeComplete id session device)
      (w.stepCall options source i (.resumeComplete id session device)) := by
  unfold World.stepCall
  dsimp only
  cases hcache : w.completionBySessionId.get? id with
  | some cached => exact .resumeJoined id session device cached (.inl hcache)
  | none =>
    dsimp only
    unfold World.complete
    cases hkey : w.completionBySessionId.get? session.pairingSessionId.value with
    | none => exact .resumeCreated id session device hkey
    | some existing => exact .resumeJoined id session device existing (.inr hkey)

theorem stepCall_awaiting (j : ℕ) (creator : Bool) :
    CallStep options source w i (.awaiting j creator)
      (w.stepCall options source i (.awaiting j creator)) := by
  unfold World.stepCall
  dsimp only
  cases hpromise : w.tasks[j]? with
  | none => exact .idle _
  | some promise =>
    dsimp only
    cases hresult : promise.result with
    | none => exact .idle _
    | some result =>
      dsimp only
      cases result with
      | ok completed => exact .completed j creator promise completed hpromise hresult
      | error e =>
        unfold World.settle
        dsimp only
        split_ifs with hcached
        · exact .failed j creator promise e _ hpromise hresult (.inr ⟨hcached.2, rfl⟩)
        · exact .failed j creator promise e _ hpromise hresult (.inl rfl)

theorem stepCall_acknowledgeStore (input : AcknowledgePairingCredentialDeliveryInput)
    (device : Schemas.Device) :
    CallStep options source w i (.acknowledgeStore input device)
      (w.stepCall options source i (.acknowledgeStore input device)) := by
  unfold World.stepCall
  dsimp only
  unfold World.callCompletions
  rw [exec_acknowledge]
  have hkept := kept_pruned w.now w.stores.completions
  cases hread : live w.now w.stores.completions input.pairingSessionId with
  | none => exact .throws _ _ _ False.elim hkept
  | some existing =>
    dsimp only
    split_ifs with hsame hdelivered hpending
    · exact .acknowledged input device existing _ hread hsame.1 hsame.2 (.inl ⟨hdelivered, hkept⟩)
    · exact .acknowledged input device existing _ hread hsame.1 hsame.2
        (.inr ⟨hpending, stored_pruned _ _ _ _⟩)
    · exact .throws _ _ _ False.elim hkept
    · exact .throws _ _ _ False.elim hkept

theorem callStep (source : DeviceSource) (i : ℕ) (hs : w.Sound options) (call : Call) :
    CallStep options source w i call (w.stepCall options source i call) := by
  cases call with
  | claimReserve admissionId request => exact stepCall_claimReserve admissionId request
  | claimPairingCode admissionId request => exact stepCall_claimPairingCode hs admissionId request
  | claimDrop admissionId error =>
    exact .dropped admissionId error _ (deleted_delete admissionId _)
  | claimTransfer admissionId session device =>
    exact stepCall_claimTransfer admissionId session device
  | claimComplete session device => exact complete_claim session device
  | resumeSession id ownerId =>
    exact callPairing_getPairingSession hs (N := fun found => .resumeDevice id ownerId found.1
      found.2) And.left fun p session d hid h => .foundSession id ownerId p session d hid h
  | resumeDevice id ownerId session d =>
    exact callPairing_getForOwner hs (N := fun device => .resumePersisted id session device)
      (fun h => h) fun device hdevice hstored =>
        .foundDevice id ownerId session d device hdevice hstored
  | resumePersisted id session device => exact stepCall_resumePersisted id session device
  | resumeComplete id session device => exact stepCall_resumeComplete id session device
  | awaiting j creator => exact stepCall_awaiting j creator
  | acknowledgeSession input =>
    exact callPairing_getPairingSession hs (N := fun found => .acknowledgeDevice input found.2)
      False.elim fun p session d hid h => .acknowledgeFound input p session d hid h
  | acknowledgeDevice input d =>
    exact callPairing_getForOwner hs (N := fun device => .acknowledgeStore input device)
      False.elim fun device hdevice _ => .acknowledgeOwned input d device hdevice
  | acknowledgeStore input device => exact stepCall_acknowledgeStore input device
  | acknowledgeForget input => exact .forgotCached input
  | forgetDelete id => exact .forgot id _ (deleted_delete id _)
  | returned result => exact .idle _
  | crashed => exact .idle _

end
end Doctmcp.Completion
