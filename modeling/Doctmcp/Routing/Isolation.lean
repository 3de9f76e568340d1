import Doctmcp.Routing.Service
import Doctmcp.Device.Agreement

/-! # Tenant isolation

What a routing call of an owner returns depends on nothing but what the stores have about the
owner's devices: two runs whose worlds agree on these return the same, and a device of another owner
is answered like one that does not exist. -/

namespace Doctmcp.Routing
open Doctmcp.Lib Doctmcp.Lib.Operation Doctmcp.Schemas Doctmcp.Gateway Doctmcp.Device
  Doctmcp.Credential
set_option autoImplicit false

variable {S : Type} {stores : RoutingStores S} {collation : Collation} {options : RegistryOptions}

/-! ## What the repositories answer -/

/-- The reads of the service, in terms of the devices and credentials that are stored. -/
structure RoutingStores.Reads (stores : RoutingStores S) (collation : Collation) : Prop where
  getForOwner : ∀ s ownerId (d : DeviceId), ownerIdSchema ownerId = some ownerId →
    stores.getForOwner ownerId d.value s =
      .ok ((((stores.devices s).get? d).filter (·.ownerId = ownerId)).map toSnapshot)
  listByOwnerId : ∀ s ownerId, ownerIdSchema ownerId = some ownerId →
    (∀ d record, (stores.devices s).get? d = some record → record.deviceId = d) →
      ∃ devices, stores.listByOwnerId ownerId s = .ok devices ∧
        Lists collation (stores.devices s) ownerId devices
  getActive : ∀ s s' (d : DeviceId),
    (stores.credentials s).get? d = (stores.credentials s').get? d →
      stores.getActive d.value s = stores.getActive d.value s'
  active : ∀ s (d : DeviceId) credential, stores.getActive d.value s = .ok (some credential) →
    ∃ record, (stores.credentials s).get? d = some record ∧ record.state = .active ∧
      credential = record.toCredential

theorem deviceParseOwnerId_ok {ownerId : String} (h : ownerIdSchema ownerId = some ownerId) :
    Device.parseOwnerId ownerId = .ok ownerId := by
  rw [Device.parseOwnerId, h, orThrow_some]

theorem inMemory_reads (locale : Collation) : (RoutingStores.inMemory locale).Reads locale where
  getForOwner s ownerId d howner := by
    show (exec (InMemoryDeviceRepository.getForOwner ownerId d.value) s.1).1 = _
    unfold InMemoryDeviceRepository.getForOwner
    rw [exec_lift_bind_eq (deviceParseOwnerId_ok howner),
      exec_lift_bind_eq (Device.parseDeviceId_value d), exec_get_bind, exec_pure]
    rfl
  listByOwnerId s ownerId howner hkeyed := by
    refine ⟨_, ?_, listing_lists hkeyed ownerId⟩
    show (exec (InMemoryDeviceRepository.listByOwnerId locale ownerId) s.1).1 = _
    rw [InMemoryDeviceRepository.exec_listByOwnerId, deviceParseOwnerId_ok howner]
    rfl
  getActive s s' d hsame := by
    show (exec (InMemoryDeviceCredentialRepository.getActive d.value) s.2).1 =
      (exec (InMemoryDeviceCredentialRepository.getActive d.value) s'.2).1
    unfold InMemoryDeviceCredentialRepository.getActive
    rw [exec_lift_bind_eq (Credential.parseDeviceId_value d),
      exec_lift_bind_eq (Credential.parseDeviceId_value d), exec_get_bind, exec_get_bind]
    have hsame : s.2.byDeviceId.get? d = s'.2.byDeviceId.get? d := hsame
    rw [hsame]
    cases s'.2.byDeviceId.get? d with
    | none => rfl
    | some record =>
      dsimp only
      split_ifs
      · cases Credential.snapshot record <;> rfl
      · rfl
  active s d credential hactive := by
    change (exec (InMemoryDeviceCredentialRepository.getActive d.value) s.2).1 = _ at hactive
    unfold InMemoryDeviceCredentialRepository.getActive at hactive
    rw [exec_lift_bind_eq (Credential.parseDeviceId_value d), exec_get_bind] at hactive
    cases hrecord : s.2.byDeviceId.get? d with
    | none =>
      rw [hrecord] at hactive
      cases hactive
    | some record =>
      rw [hrecord] at hactive
      dsimp only at hactive
      split_ifs at hactive with hstate
      · cases hshown : Credential.snapshot record with
        | error e =>
          rw [hshown] at hactive
          cases hactive
        | ok shown =>
          rw [hshown] at hactive
          cases hactive
          exact ⟨record, hrecord, hstate, (Credential.snapshot_ok hshown).2⟩
      · cases hactive

theorem sqlite_reads : RoutingStores.sqlite.Reads .binary where
  getForOwner s ownerId d howner := by
    show (exec (SqliteDeviceRepository.getForOwner ownerId d.value) s).1 = _
    unfold SqliteDeviceRepository.getForOwner
    rw [exec_lift_bind_eq (deviceParseOwnerId_ok howner),
      exec_lift_bind_eq (Device.parseDeviceId_value d),
      SqliteDeviceRepository.exec_findById_bind, exec_pure]
    rfl
  listByOwnerId s ownerId howner hkeyed := by
    refine ⟨_, ?_, listing_lists hkeyed ownerId⟩
    show (exec (SqliteDeviceRepository.listByOwnerId ownerId) s).1 = _
    unfold SqliteDeviceRepository.listByOwnerId
    rw [exec_lift_bind_eq (deviceParseOwnerId_ok howner), exec_get_bind, exec_pure, orderListed_eq]
    rfl
  getActive s s' d hsame := by
    show (exec (SqliteDeviceCredentialRepository.getActive d.value) s).1 =
      (exec (SqliteDeviceCredentialRepository.getActive d.value) s').1
    unfold SqliteDeviceCredentialRepository.getActive
      SqliteDeviceCredentialRepository.selectByDevice
    simp only [bind_assoc, pure_bind]
    rw [exec_lift_bind_eq (Credential.parseDeviceId_value d),
      exec_lift_bind_eq (Credential.parseDeviceId_value d), exec_get_bind, exec_get_bind]
    have hsame : s.deviceCredentials.get? d = s'.deviceCredentials.get? d := hsame
    rw [hsame]
    cases s'.deviceCredentials.get? d with
    | none => rfl
    | some row =>
      dsimp only
      split_ifs
      · cases SqliteDeviceCredentialRepository.snapshot row <;> rfl
      · rfl
  active s d credential hactive := by
    change (exec (SqliteDeviceCredentialRepository.getActive d.value) s).1 = _ at hactive
    unfold SqliteDeviceCredentialRepository.getActive
      SqliteDeviceCredentialRepository.selectByDevice at hactive
    simp only [bind_assoc, pure_bind] at hactive
    rw [exec_lift_bind_eq (Credential.parseDeviceId_value d), exec_get_bind] at hactive
    cases hrow : s.deviceCredentials.get? d with
    | none =>
      rw [hrow] at hactive
      cases hactive
    | some row =>
      rw [hrow] at hactive
      dsimp only at hactive
      split_ifs at hactive with hstate
      · cases hshown : SqliteDeviceCredentialRepository.snapshot row with
        | error e =>
          rw [hshown] at hactive
          cases hactive
        | ok shown =>
          rw [hshown] at hactive
          cases hactive
          exact ⟨row, hrow, hstate, (SqliteDeviceCredentialRepository.snapshot_ok hshown).2⟩
      · cases hactive

/-! ## Worlds that agree -/

/-- The device is stored, as one of the owner's. -/
def OwnedBy (w : World stores) (ownerId : String) (d : DeviceId) : Prop :=
  ∃ record, (stores.devices w.store).get? d = some record ∧ record.ownerId = ownerId

/-- The worlds agree on the credentials and the sessions of the devices `ids`. -/
structure AgreeOn (ids : DeviceId → Prop) (w w' : World stores) : Prop where
  credentials : ∀ d, ids d →
    (stores.credentials w.store).get? d = (stores.credentials w'.store).get? d
  sessions : ∀ d, ids d → w.registry.byDeviceId.get? d = w'.registry.byDeviceId.get? d
  states : ∀ d entry, ids d → w.registry.byDeviceId.get? d = some entry →
    w.states entry.session = w'.states entry.session

/-- The worlds agree on the devices of the owner, and on everything about these. -/
structure AgreeFor (ownerId : String) (w w' : World stores) : Prop
    extends AgreeOn (OwnedBy w ownerId) w w' where
  devices : ∀ d record, record.ownerId = ownerId →
    ((stores.devices w.store).get? d = some record ↔
      (stores.devices w'.store).get? d = some record)

section Agree
variable {ids : DeviceId → Prop} {w w' : World stores} {d : DeviceId}

theorem AgreeOn.getActive (hreads : stores.Reads collation) (h : AgreeOn ids w w') (hd : ids d) :
    stores.getActive d.value w.store = stores.getActive d.value w'.store :=
  hreads.getActive _ _ d (h.credentials d hd)

theorem AgreeOn.isLive (h : AgreeOn ids w w') (hd : ids d) {entry : StoredDeviceSession}
    (hentry : w.registry.byDeviceId.get? d = some entry) (nowMs : ℤ) :
    DeviceSessionRegistry.IsLive options w.states entry nowMs ↔
      DeviceSessionRegistry.IsLive options w'.states entry nowMs := by
  unfold DeviceSessionRegistry.IsLive
  rw [h.states d entry hd hentry]

theorem AgreeOn.getActiveSession (h : AgreeOn ids w w') (hd : ids d) (now : JsDate) :
    w.getActiveSession options now d = w'.getActiveSession options now d := by
  unfold World.getActiveSession DeviceSessionRegistry.getActive
  cases hentry : w.registry.byDeviceId.get? d with
  | none => rw [← h.sessions d hd, hentry]
  | some entry =>
    rw [← h.sessions d hd, hentry]
    simp only [h.isLive hd hentry]

theorem AgreeOn.getStatus (h : AgreeOn ids w w') (hd : ids d) (now : JsDate) :
    w.getStatus options now d = w'.getStatus options now d := by
  unfold World.getStatus DeviceSessionRegistry.getStatus
  cases hentry : w.registry.byDeviceId.get? d with
  | none => rw [← h.sessions d hd, hentry]
  | some entry =>
    rw [← h.sessions d hd, hentry]
    simp only [h.isLive hd hentry]

theorem AgreeFor.getForOwner (hreads : stores.Reads collation) {ownerId : String} (h : AgreeFor ownerId w w')
    (howner : ownerIdSchema ownerId = some ownerId) :
    stores.getForOwner ownerId d.value w.store = stores.getForOwner ownerId d.value w'.store := by
  rw [hreads.getForOwner _ _ _ howner, hreads.getForOwner _ _ _ howner]
  congr 2
  ext record
  simp only [Option.filter_eq_some_iff, decide_eq_true_eq]
  constructor
  · rintro ⟨hrecord, hsame⟩
    exact ⟨(h.devices d record hsame).mp hrecord, hsame⟩
  · rintro ⟨hrecord, hsame⟩
    exact ⟨(h.devices d record hsame).mpr hrecord, hsame⟩

theorem AgreeFor.listByOwnerId (hreads : stores.Reads collation) {ownerId : String}
    (h : AgreeFor ownerId w w') (howner : ownerIdSchema ownerId = some ownerId) :
    stores.listByOwnerId ownerId w.store = stores.listByOwnerId ownerId w'.store := by
  obtain ⟨devices, hlist, hlists⟩ := hreads.listByOwnerId w.store ownerId howner w.keyed
  obtain ⟨devices', hlist', hlists'⟩ := hreads.listByOwnerId w'.store ownerId howner w'.keyed
  rw [hlist, hlist', hlists.unique hlists' h.devices]

end Agree

/-! ## The methods in two runs -/

section Runs
variable {ids : DeviceId → Prop} {first first' second second' : World stores}

theorem snapshotDevice_congr (hreads : stores.Reads collation) (h : AgreeOn ids first first')
    (h' : AgreeOn ids second second') (readings : SnapshotReadings) {device : Schemas.Device}
    (hd : ids device.deviceId) :
    snapshotDevice stores options first second readings device =
      snapshotDevice stores options first' second' readings device := by
  unfold snapshotDevice
  rw [h.getStatus hd, h.getActiveSession hd, h.getActive hreads hd, h'.getActiveSession hd]

theorem snapshotDevices_congr (hreads : stores.Reads collation) (h : AgreeOn ids second second')
    {third third' : ℕ → World stores} (h' : ∀ i, AgreeOn ids (third i) (third' i))
    (readings : ℕ → SnapshotReadings) {devices : List Schemas.Device}
    (hd : ∀ device ∈ devices, ids device.deviceId) (i : ℕ) :
    snapshotDevices stores options second third readings i devices =
      snapshotDevices stores options second' third' readings i devices := by
  induction devices generalizing i with
  | nil => rfl
  | cons device rest ih =>
    unfold snapshotDevices
    rw [snapshotDevice_congr hreads h (h' i) _ (hd device List.mem_cons_self),
      ih (fun other hother => hd other (List.mem_cons_of_mem device hother))]

/-- The device that `getForOwner` finds is one of the owner's, under the id it was asked for. -/
theorem owned_of_getForOwner (hreads : stores.Reads collation) {w : World stores} {ownerId : String}
    (howner : ownerIdSchema ownerId = some ownerId) {d : DeviceId} {device : Schemas.Device}
    (hfound : stores.getForOwner ownerId d.value w.store = .ok (some device)) :
    OwnedBy w ownerId d ∧ device.deviceId = d ∧ device.ownerId = ownerId := by
  rw [hreads.getForOwner _ _ _ howner] at hfound
  obtain ⟨record, hrecord, rfl⟩ := Option.map_eq_some_iff.mp (Except.ok.inj hfound)
  obtain ⟨hrecord, hsame⟩ := Option.filter_eq_some_iff.mp hrecord
  have hsame := of_decide_eq_true hsame
  exact ⟨⟨record, hrecord, hsame⟩, w.keyed d record hrecord, hsame⟩

theorem listDevices_congr (hreads : stores.Reads collation) {third third' : ℕ → World stores}
    {readings : ℕ → SnapshotReadings} {ownerId : String} (h : AgreeFor ownerId first first')
    (h' : AgreeOn (OwnedBy first ownerId) second second')
    (h'' : ∀ i, AgreeOn (OwnedBy first ownerId) (third i) (third' i)) :
    listDevices stores options first second third readings ownerId =
      listDevices stores options first' second' third' readings ownerId := by
  unfold listDevices
  cases hparsed : parseOwnerId ownerId with
  | error e => dsimp only [bind, Except.bind]
  | ok owner =>
    obtain ⟨rfl, howner⟩ := parseOwnerId_ok hparsed
    obtain ⟨devices, hlist, hlists⟩ := hreads.listByOwnerId first.store owner howner first.keyed
    have hlist' := (h.listByOwnerId hreads howner).symm.trans hlist
    have howned : ∀ device ∈ devices, OwnedBy first owner device.deviceId := by
      intro device hdevice
      obtain ⟨d, record, hrecord, hsame, rfl⟩ := (hlists.exact device).mp hdevice
      have hkey : (toSnapshot record).deviceId = d := first.keyed d record hrecord
      rw [hkey]
      exact ⟨record, hrecord, hsame⟩
    have hsnapshots : snapshotDevices stores options second third readings 0 devices =
        snapshotDevices stores options second' third' readings 0 devices :=
      snapshotDevices_congr hreads h' h'' readings howned 0
    show normalizeError (do
      let devices ← (stores.listByOwnerId owner first.store : Except JsError _)
      (snapshotDevices stores options second third readings 0 devices : Except JsError _)) =
        normalizeError (do
          let devices ← (stores.listByOwnerId owner first'.store : Except JsError _)
          (snapshotDevices stores options second' third' readings 0 devices : Except JsError _))
    rw [hlist, hlist']
    show normalizeError (liftM (snapshotDevices stores options second third readings 0 devices)) =
      normalizeError (liftM (snapshotDevices stores options second' third' readings 0 devices))
    rw [hsnapshots]

theorem getDevice_congr (hreads : stores.Reads collation) {third third' : World stores}
    {readings : SnapshotReadings} {ownerId deviceId : String} (h : AgreeFor ownerId first first')
    (h' : AgreeOn (OwnedBy first ownerId) second second')
    (h'' : AgreeOn (OwnedBy first ownerId) third third') :
    getDevice stores options first second third readings ownerId deviceId =
      getDevice stores options first' second' third' readings ownerId deviceId := by
  unfold getDevice
  cases hparsed : parseOwnerId ownerId with
  | error e => dsimp only [bind, Except.bind]
  | ok owner =>
    obtain ⟨rfl, howner⟩ := parseOwnerId_ok hparsed
    cases hid : parseDeviceId deviceId with
    | error e => dsimp only [bind, Except.bind]
    | ok d =>
      have hsame : stores.getForOwner owner d.value first.store = _ := h.getForOwner hreads howner
      dsimp only [bind, Except.bind]
      rw [← hsame]
      cases hfound : stores.getForOwner owner d.value first.store with
      | error e => rfl
      | ok found =>
        cases found with
        | none => rfl
        | some device =>
          obtain ⟨howned, rfl, -⟩ := owned_of_getForOwner hreads howner hfound
          have hsnapshot : snapshotDevice stores options second third readings device =
              snapshotDevice stores options second' third' readings device :=
            snapshotDevice_congr hreads h' h'' readings howned
          show normalizeError (liftM (snapshotDevice stores options second third readings device)) =
            normalizeError (liftM (snapshotDevice stores options second' third' readings device))
          rw [hsnapshot]

theorem resolve_found {third : World stores} {readings : ResolveReadings} {ownerId deviceId : String}
    {d : DeviceId} {device : Schemas.Device} (howner : ownerIdSchema ownerId = some ownerId)
    (hid : parseDeviceId deviceId = .ok d)
    (hfound : stores.getForOwner ownerId d.value first.store = .ok (some device)) :
    resolve stores options first second third readings ownerId deviceId = normalizeError (do
      let credential ← (stores.getActive d.value second.store : Except JsError _)
      resolveSession options third readings ownerId d device credential) := by
  unfold resolve parseOwnerId
  rw [howner, hid]
  dsimp only [orThrow_some, bind, Except.bind]
  rw [hfound]
  rfl

/-- A lookup that throws is reported as unavailable. -/
theorem resolve_error {third : World stores} {readings : ResolveReadings}
    {owner ownerId deviceId : String} {d : DeviceId} {e : JsError} (howner : parseOwnerId ownerId = .ok owner)
    (hid : parseDeviceId deviceId = .ok d)
    (hfound : stores.getForOwner owner d.value first.store = .error e) :
    resolve stores options first second third readings ownerId deviceId =
      .error routingUnavailable := by
  unfold resolve
  rw [howner, hid]
  dsimp only [bind, Except.bind]
  rw [hfound]
  rfl

theorem resolve_none {third : World stores} {readings : ResolveReadings}
    {owner ownerId deviceId : String} {d : DeviceId} (howner : parseOwnerId ownerId = .ok owner)
    (hid : parseDeviceId deviceId = .ok d)
    (hfound : stores.getForOwner owner d.value first.store = .ok none) :
    resolve stores options first second third readings ownerId deviceId = .error notFound := by
  unfold resolve
  rw [howner, hid]
  dsimp only [bind, Except.bind]
  rw [hfound]
  rfl

theorem resolve_congr (hreads : stores.Reads collation) {third third' : World stores}
    {readings : ResolveReadings} {ownerId deviceId : String} (h : AgreeFor ownerId first first')
    (h' : AgreeOn (OwnedBy first ownerId) second second')
    (h'' : AgreeOn (OwnedBy first ownerId) third third') :
    resolve stores options first second third readings ownerId deviceId =
      resolve stores options first' second' third' readings ownerId deviceId := by
  cases hparsed : parseOwnerId ownerId with
  | error e =>
    unfold resolve
    rw [hparsed]
    dsimp only [bind, Except.bind]
  | ok owner =>
    obtain ⟨rfl, howner⟩ := parseOwnerId_ok hparsed
    cases hid : parseDeviceId deviceId with
    | error e =>
      unfold resolve
      rw [hparsed, hid]
      dsimp only [bind, Except.bind]
    | ok d =>
      have hsame : stores.getForOwner owner d.value first.store = _ := h.getForOwner hreads howner
      cases hfound : stores.getForOwner owner d.value first.store with
      | error e =>
        rw [resolve_error hparsed hid hfound, resolve_error hparsed hid (hsame.symm.trans hfound)]
      | ok found =>
        cases found with
        | none =>
          rw [resolve_none hparsed hid hfound, resolve_none hparsed hid (hsame.symm.trans hfound)]
        | some device =>
          obtain ⟨howned, -, -⟩ := owned_of_getForOwner hreads howner hfound
          have hsession : ∀ credential,
              resolveSession options third readings owner d device credential =
                resolveSession options third' readings owner d device credential := by
            intro credential
            unfold resolveSession
            rw [h''.getActiveSession howned, h''.getActiveSession howned]
          rw [resolve_found howner hid hfound, resolve_found howner hid (hsame.symm.trans hfound),
            h'.getActive hreads howned, funext hsession]

end Runs

/-! ## What a resolved session is -/

theorem getActiveSession_ok {w : World stores} {now : JsDate} {d : DeviceId}
    {active : ActiveDeviceSession} (h : w.getActiveSession options now d = .ok (some active)) :
    ∃ entry nowMs, now = some nowMs ∧ w.registry.byDeviceId.get? d = some entry ∧
      DeviceSessionRegistry.IsLive options w.states entry nowMs ∧ active = entry.snapshot := by
  unfold World.getActiveSession DeviceSessionRegistry.getActive at h
  cases hentry : w.registry.byDeviceId.get? d with
  | none =>
    rw [hentry] at h
    cases h
  | some entry =>
    rw [hentry] at h
    cases now with
    | none => cases h
    | some nowMs =>
      change (if DeviceSessionRegistry.IsLive options w.states entry nowMs then
        Except.ok (some entry.snapshot) else Except.ok none) = _ at h
      split_ifs at h with hlive
      · cases h
        exact ⟨entry, nowMs, rfl, rfl, hlive, rfl⟩
      · cases h

/-- The device is the owner's; the session was authenticated as that owner and device, is live in
the registry, and has the generation that was active when the call read it. -/
def Authorized (options : RegistryOptions) (first second third : World stores)
    (readings : ResolveReadings) (ownerId : String) (d : DeviceId)
    (session : BridgeGatewaySession) : Prop :=
  OwnedBy first ownerId d ∧ session.identity = some ⟨ownerId, d⟩ ∧
    ∃ entry nowMs record, third.registry.byDeviceId.get? d = some entry ∧
      entry.session = session ∧ readings.current = some nowMs ∧
      DeviceSessionRegistry.IsLive options third.states entry nowMs ∧
      (stores.credentials second.store).get? d = some record ∧ record.state = .active ∧
      entry.credentialGeneration.credentialId = record.credentialId.value ∧
      entry.credentialGeneration.credentialVersion = record.version

theorem resolveSession_ok {third : World stores} {readings : ResolveReadings} {ownerId : String}
    {d : DeviceId} {device : Schemas.Device} {credential : Option DeviceCredential}
    {resolved : ResolvedDeviceSession}
    (h : resolveSession options third readings ownerId d device credential = .ok (.ok resolved)) :
    ∃ read entry nowMs, credential = some read ∧
      third.registry.byDeviceId.get? d = some entry ∧ entry.session = resolved.session ∧
      entry.ownerId = ownerId ∧ readings.current = some nowMs ∧
      DeviceSessionRegistry.IsLive options third.states entry nowMs ∧
      SameCredentialGeneration entry.snapshot read := by
  cases credential with
  | none => cases h
  | some read =>
    unfold resolveSession at h
    cases hactive : third.getActiveSession options readings.active d with
    | error e =>
      rw [hactive] at h
      cases h
    | ok active =>
      rw [hactive] at h
      cases active with
      | none => cases h
      | some active =>
        obtain ⟨entry, -, -, hentry, -, rfl⟩ := getActiveSession_ok hactive
        change (if entry.ownerId ≠ ownerId then _ else _) = _ at h
        split_ifs at h with howner hgeneration
        · cases h
        · cases hcurrent : third.getActiveSession options readings.current d with
          | error e =>
            rw [hcurrent] at h
            cases h
          | ok current =>
            rw [hcurrent] at h
            cases current with
            | none => cases h
            | some current =>
              obtain ⟨same, nowMs, hnow, hsame, hlive, rfl⟩ := getActiveSession_ok hcurrent
              obtain rfl : entry = same := Option.some.inj (hentry.symm.trans hsame)
              have hfilter : (some entry.snapshot).filter (fun current =>
                  decide (current.registrationId = entry.snapshot.registrationId ∧
                    current.session = entry.snapshot.session)) = some entry.snapshot :=
                Option.filter_some_pos (decide_eq_true ⟨rfl, rfl⟩)
              dsimp only [liftM, monadLift, MonadLift.monadLift, bind, ExceptT.bind, ExceptT.mk,
                ExceptT.lift, ExceptT.bindCont, Except.bind, Except.map, Functor.map] at h
              rw [hfilter] at h
              cases h
              exact ⟨read, entry, nowMs, rfl, hentry, rfl, not_not.mp howner, hnow, hlive,
                hgeneration⟩
        · cases h

theorem normalizeError_ok {α : Type} {body : ExceptT DeviceRoutingError (Except JsError) α}
    {a : α} (h : normalizeError body = .ok a) : body = .ok (.ok a) := by
  unfold normalizeError at h
  split at h
  · exact congrArg Except.ok h
  · cases h

theorem resolve_authorized (hreads : stores.Reads collation) {first second third : World stores}
    {readings : ResolveReadings} {ownerId deviceId : String} {resolved : ResolvedDeviceSession}
    (h : resolve stores options first second third readings ownerId deviceId = .ok resolved) :
    ∃ d, deviceIdSchema deviceId = some d ∧
      Authorized options first second third readings ownerId d resolved.session := by
  cases hparsed : parseOwnerId ownerId with
  | error e =>
    unfold resolve at h
    rw [hparsed] at h
    cases h
  | ok owner =>
    obtain ⟨rfl, howner⟩ := parseOwnerId_ok hparsed
    cases hid : parseDeviceId deviceId with
    | error e =>
      unfold resolve at h
      rw [hparsed, hid] at h
      cases h
    | ok d =>
      have hfound : ∃ device, stores.getForOwner owner d.value first.store = .ok (some device) := by
        by_contra hnone
        unfold resolve at h
        rw [hparsed, hid] at h
        dsimp only [bind, Except.bind] at h
        cases hfound : stores.getForOwner owner d.value first.store with
        | error e =>
          rw [hfound] at h
          cases h
        | ok found =>
          cases found with
          | none =>
            rw [hfound] at h
            cases h
          | some device => exact hnone ⟨device, hfound⟩
      obtain ⟨device, hfound⟩ := hfound
      obtain ⟨howned, -, -⟩ := owned_of_getForOwner hreads howner hfound
      rw [resolve_found howner hid hfound] at h
      have hbody := normalizeError_ok h
      cases hcredential : stores.getActive d.value second.store with
      | error e =>
        rw [hcredential] at hbody
        cases hbody
      | ok credential =>
        rw [hcredential] at hbody
        obtain ⟨read, entry, nowMs, rfl, hentry, hsession, hentryOwner, hnow, hlive, hid', hversion⟩ :=
          resolveSession_ok hbody
        obtain ⟨record, hrecord, hstate, rfl⟩ := hreads.active _ d read hcredential
        refine ⟨d, orThrow_ok hid, howned, ?_, entry, nowMs, record, hentry, hsession, hnow, hlive,
          hrecord, hstate, hid', hversion⟩
        have hidentity := entry.identified
        rw [hentryOwner, third.registry.keyed d entry hentry, hsession] at hidentity
        exact hidentity

/-- A device that is not the owner's is answered like one that does not exist. -/
theorem foreign_notFound (hreads : stores.Reads collation) {first second third : World stores}
    {ownerId deviceId : String}
    (hforeign : ∀ d, deviceIdSchema deviceId = some d → ¬ OwnedBy first ownerId d)
    (readings : ResolveReadings) (shown : SnapshotReadings) :
    resolve stores options first second third readings ownerId deviceId = .error notFound ∧
      getDevice stores options first second third shown ownerId deviceId = .error notFound := by
  have hfailed : ∀ {α : Type} {value : Option α} {e}, orThrow value notFound = .error e →
      e = notFound := by
    intro α value e he
    cases value with
    | none => exact (Except.error.inj he).symm
    | some a => cases he
  unfold resolve getDevice
  cases hparsed : parseOwnerId ownerId with
  | error e =>
    obtain rfl := hfailed hparsed
    exact ⟨rfl, rfl⟩
  | ok owner =>
    obtain ⟨rfl, howner⟩ := parseOwnerId_ok hparsed
    cases hid : parseDeviceId deviceId with
    | error e =>
      obtain rfl := hfailed hid
      exact ⟨rfl, rfl⟩
    | ok d =>
      have hnone : ((stores.devices first.store).get? d).filter (·.ownerId = owner) = none := by
        refine Option.filter_eq_none_iff.mpr fun record hrecord hsame => ?_
        exact hforeign d (orThrow_ok hid) ⟨record, hrecord, of_decide_eq_true hsame⟩
      have hfound := hreads.getForOwner first.store owner d howner
      rw [hnone] at hfound
      dsimp only [bind, Except.bind]
      rw [hfound]
      exact ⟨rfl, rfl⟩

/-! ## Isolation -/

/-- What a routing service over these stores promises every owner. -/
structure Isolated (stores : RoutingStores S) (options : RegistryOptions) : Prop where
  authorized : ∀ first second third readings ownerId deviceId resolved,
    resolve stores options first second third readings ownerId deviceId = .ok resolved →
      ∃ d, deviceIdSchema deviceId = some d ∧
        Authorized options first second third readings ownerId d resolved.session
  resolve : ∀ first first' second second' third third' readings ownerId deviceId,
    AgreeFor ownerId first first' → AgreeOn (OwnedBy first ownerId) second second' →
    AgreeOn (OwnedBy first ownerId) third third' →
      resolve stores options first second third readings ownerId deviceId =
        resolve stores options first' second' third' readings ownerId deviceId
  getDevice : ∀ first first' second second' third third' readings ownerId deviceId,
    AgreeFor ownerId first first' → AgreeOn (OwnedBy first ownerId) second second' →
    AgreeOn (OwnedBy first ownerId) third third' →
      getDevice stores options first second third readings ownerId deviceId =
        getDevice stores options first' second' third' readings ownerId deviceId
  listDevices : ∀ first first' second second' third third' readings ownerId,
    AgreeFor ownerId first first' → AgreeOn (OwnedBy first ownerId) second second' →
    (∀ i, AgreeOn (OwnedBy first ownerId) (third i) (third' i)) →
      listDevices stores options first second third readings ownerId =
        listDevices stores options first' second' third' readings ownerId
  /-- Whether a foreign device exists, is online or has a credential does not show. -/
  foreign : ∀ first second third readings shown ownerId deviceId,
    (∀ d, deviceIdSchema deviceId = some d → ¬ OwnedBy first ownerId d) →
      Routing.resolve stores options first second third readings ownerId deviceId =
        .error notFound ∧
      Routing.getDevice stores options first second third shown ownerId deviceId =
        .error notFound

theorem RoutingStores.Reads.isolated (hreads : stores.Reads collation) (options : RegistryOptions) :
    Isolated stores options where
  authorized _ _ _ _ _ _ _ h := resolve_authorized hreads h
  resolve _ _ _ _ _ _ _ _ _ h h' h'' := resolve_congr hreads h h' h''
  getDevice _ _ _ _ _ _ _ _ _ h h' h'' := getDevice_congr hreads h h' h''
  listDevices _ _ _ _ _ _ _ _ h h' h'' := listDevices_congr hreads h h' h''
  foreign _ _ _ readings shown _ _ hforeign := foreign_notFound hreads hforeign readings shown

/-- Routing isolates the tenants, over the in-memory repositories on any host and over SQLite. -/
theorem routing_isolates (options : RegistryOptions) :
    (∀ locale, Isolated (.inMemory locale) options) ∧ Isolated .sqlite options :=
  ⟨fun locale => (inMemory_reads locale).isolated options, sqlite_reads.isolated options⟩

end Doctmcp.Routing
