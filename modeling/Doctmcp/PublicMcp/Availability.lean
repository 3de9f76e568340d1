import Doctmcp.PublicMcp.DeviceCap
import Doctmcp.PublicMcp.PublicNames

/-! # The availability of an owner's endpoint

What the device cap is for. The tool `devices_list` and the build of the owner's server refuse an
owner with too many devices, so they rest on the cap. Within it they fail only for what they read
besides: the clock, the records of the credentials and the tools that the devices announce. -/

namespace Doctmcp.PublicMcp
open Doctmcp.Lib Doctmcp.Lib.Operation Doctmcp.Schemas Doctmcp.Device Doctmcp.Pairing
open Doctmcp.Completion
set_option autoImplicit false

/-! ## The listing -/

section Listing
variable {locale : Collation} {options : Routing.RegistryOptions}
  {first second : Routing.World (Routing.RoutingStores.inMemory locale)}
  {third : ℕ → Routing.World (Routing.RoutingStores.inMemory locale)}
  {readings : ℕ → Routing.SnapshotReadings}

/-- What the listing of an owner's devices reads besides the devices works: the clock, and the
records of the credentials. -/
structure Working (second : Routing.World (Routing.RoutingStores.inMemory locale))
    (readings : ℕ → Routing.SnapshotReadings) : Prop where
  clock : ∀ i, (readings i).status ≠ none ∧ (readings i).active ≠ none ∧ (readings i).current ≠ none
  credentials : ∀ d record, second.store.2.byDeviceId.get? d = some record → record.Valid

variable (options) in
theorem getActiveSession_ok (w : Routing.World (Routing.RoutingStores.inMemory locale)) {now : JsDate}
    (hnow : now ≠ none) (d : DeviceId) : ∃ active, w.getActiveSession options now d = .ok active := by
  obtain ⟨nowMs, rfl⟩ := Option.ne_none_iff_exists'.mp hnow
  unfold Routing.World.getActiveSession Routing.DeviceSessionRegistry.getActive
  cases w.registry.byDeviceId.get? d with
  | none => exact ⟨none, rfl⟩
  | some entry =>
    change ∃ active, (if Routing.DeviceSessionRegistry.IsLive options w.states entry nowMs then
      Except.ok (some entry.snapshot) else Except.ok none) = Except.ok active
    split_ifs
    · exact ⟨_, rfl⟩
    · exact ⟨_, rfl⟩

variable (options) in
theorem getStatus_ok (w : Routing.World (Routing.RoutingStores.inMemory locale)) {now : JsDate}
    (hnow : now ≠ none) (d : DeviceId) : ∃ status, w.getStatus options now d = .ok status := by
  obtain ⟨nowMs, rfl⟩ := Option.ne_none_iff_exists'.mp hnow
  unfold Routing.World.getStatus Routing.DeviceSessionRegistry.getStatus
  cases w.registry.byDeviceId.get? d with
  | none => exact ⟨_, rfl⟩
  | some entry => exact ⟨_, rfl⟩

theorem storesGetActive_ok (h : Working second readings) (d : DeviceId) :
    ∃ credential, (Routing.RoutingStores.inMemory locale).getActive d.value second.store =
      .ok credential := by
  change ∃ credential, (exec (Credential.InMemoryDeviceCredentialRepository.getActive d.value)
    second.store.2).1 = .ok credential
  unfold Credential.InMemoryDeviceCredentialRepository.getActive
  rw [exec_lift_bind_eq (Credential.parseDeviceId_value d), exec_get_bind]
  cases hrecord : second.store.2.byDeviceId.get? d with
  | none => exact ⟨none, rfl⟩
  | some record =>
    dsimp only
    split_ifs
    · rw [exec_lift_bind_eq (Credential.snapshot_valid (h.credentials d record hrecord))]
      exact ⟨_, rfl⟩
    · exact ⟨none, rfl⟩

variable (options) in
theorem snapshotDevice_ok (h : Working second readings)
    (current : Routing.World (Routing.RoutingStores.inMemory locale)) (i : ℕ)
    (device : Schemas.Device) : ∃ shown, Routing.snapshotDevice (Routing.RoutingStores.inMemory locale)
      options second current (readings i) device = .ok shown ∧ shown.deviceId = device.deviceId := by
  obtain ⟨hstatus, hactive, hcurrent⟩ := h.clock i
  obtain ⟨liveness, hliveness⟩ := getStatus_ok options second hstatus device.deviceId
  obtain ⟨active, hactive⟩ := getActiveSession_ok options second hactive device.deviceId
  obtain ⟨credential, hcredential⟩ := storesGetActive_ok h device.deviceId
  obtain ⟨live, hlive⟩ := getActiveSession_ok options current hcurrent device.deviceId
  unfold Routing.snapshotDevice
  simp only [hliveness, hactive, hcredential, hlive, bind, Except.bind]
  split
  · exact ⟨_, rfl, rfl⟩
  · split
    · exact ⟨_, rfl, rfl⟩
    · exact ⟨_, rfl, rfl⟩

variable (options third) in
theorem snapshotDevices_ok (h : Working second readings) (i : ℕ) (devices : List Schemas.Device) :
    ∃ shown, Routing.snapshotDevices (Routing.RoutingStores.inMemory locale) options second third
      readings i devices = .ok shown ∧ shown.map (·.deviceId) = devices.map (·.deviceId) := by
  induction devices generalizing i with
  | nil => exact ⟨[], rfl, rfl⟩
  | cons device devices ih =>
    obtain ⟨snapshot, hone, hid⟩ := snapshotDevice_ok options h (third i) i device
    obtain ⟨others, hrest, hids⟩ := ih (i + 1)
    refine ⟨snapshot :: others, ?_, ?_⟩
    · unfold Routing.snapshotDevices
      rw [hone, hrest]
      rfl
    · rw [List.map_cons, List.map_cons, hid, hids]

theorem snapshotDevices_length {i : ℕ} {devices : List Schemas.Device}
    {shown : List Routing.RoutedDeviceSnapshot}
    (h : Routing.snapshotDevices (Routing.RoutingStores.inMemory locale) options second third readings
      i devices = .ok shown) : shown.length = devices.length := by
  induction devices generalizing i shown with
  | nil =>
    obtain rfl := Except.ok.inj h
    rfl
  | cons device devices ih =>
    unfold Routing.snapshotDevices at h
    cases hone : Routing.snapshotDevice (Routing.RoutingStores.inMemory locale) options second
        (third i) (readings i) device with
    | error e =>
      rw [hone] at h
      cases h
    | ok snapshot =>
      rw [hone] at h
      cases hrest : Routing.snapshotDevices (Routing.RoutingStores.inMemory locale) options second
          third readings (i + 1) devices with
      | error e =>
        rw [hrest] at h
        cases h
      | ok others =>
        rw [hrest] at h
        obtain rfl := Except.ok.inj h
        rw [List.length_cons, List.length_cons, ih hrest]

variable (options first second third readings) in
/-- A listing of a valid owner lists the devices of its first world and takes their snapshots. -/
theorem listDevices_eq {ownerId : String} (howner : ownerIdSchema ownerId = some ownerId) :
    ∃ devices, Lists locale first.store.1.records ownerId devices ∧
      devices.length = deviceCount first.store.1 ownerId ∧
      Routing.listDevices (Routing.RoutingStores.inMemory locale) options first second third readings
        ownerId = Routing.normalizeError (liftM (Routing.snapshotDevices
          (Routing.RoutingStores.inMemory locale) options second third readings 0 devices)) := by
  have hparsed : Routing.parseOwnerId ownerId = .ok ownerId := by
    rw [Routing.parseOwnerId, howner, orThrow_some]
  have hdevices : Device.parseOwnerId ownerId = .ok ownerId := by
    rw [Device.parseOwnerId, howner, orThrow_some]
  have hlisted : (Routing.RoutingStores.inMemory locale).listByOwnerId ownerId first.store =
      .ok (listing (compareListed locale) first.store.1.records ownerId) := by
    change (exec (InMemoryDeviceRepository.listByOwnerId locale ownerId) first.store.1).1 = _
    rw [InMemoryDeviceRepository.exec_listByOwnerId, hdevices]
    rfl
  refine ⟨_, listing_lists first.keyed ownerId, listed_length hlisted, ?_⟩
  unfold Routing.listDevices
  rw [hparsed]
  change Routing.normalizeError (do
    let devices ← ((Routing.RoutingStores.inMemory locale).listByOwnerId ownerId first.store :
      Except JsError _)
    (Routing.snapshotDevices (Routing.RoutingStores.inMemory locale) options second third readings 0
      devices : Except JsError _)) = _
  rw [hlisted]
  rfl

/-- A listing shows the devices of its first world, or fails in one of two ways. -/
theorem listDevices_cases (options : Routing.RegistryOptions)
    (first second : Routing.World (Routing.RoutingStores.inMemory locale))
    (third : ℕ → Routing.World (Routing.RoutingStores.inMemory locale))
    (readings : ℕ → Routing.SnapshotReadings) (ownerId : String) :
    (∃ shown, Routing.listDevices (Routing.RoutingStores.inMemory locale) options first second third
        readings ownerId = .ok shown ∧ shown.length = deviceCount first.store.1 ownerId) ∨
      Routing.listDevices (Routing.RoutingStores.inMemory locale) options first second third readings
        ownerId = .error Routing.notFound ∨
      Routing.listDevices (Routing.RoutingStores.inMemory locale) options first second third readings
        ownerId = .error Routing.routingUnavailable := by
  cases hparsed : Routing.parseOwnerId ownerId with
  | error e =>
    right
    left
    have hnotFound : e = Routing.notFound := by
      unfold Routing.parseOwnerId orThrow at hparsed
      split at hparsed
      · cases hparsed
      · exact (Except.error.inj hparsed).symm
    unfold Routing.listDevices
    rw [hparsed, hnotFound]
    rfl
  | ok parsed =>
    obtain ⟨rfl, howner⟩ := Routing.parseOwnerId_ok hparsed
    obtain ⟨devices, -, hlength, hlist⟩ := listDevices_eq options first second third
      readings howner
    rw [hlist]
    cases hshown : Routing.snapshotDevices (Routing.RoutingStores.inMemory locale) options second
        third readings 0 devices with
    | error e => exact .inr (.inr rfl)
    | ok shown => exact .inl ⟨shown, rfl, (snapshotDevices_length hshown).trans hlength⟩

end Listing

/-! ## The build -/

section Build
variable {J S A : Type} (fromJSONSchema : J → Option S) (ownerId : String)

theorem convert_error {schema : J} {error : BuildError}
    (h : convert fromJSONSchema schema = .error error) : error = .schema := by
  unfold convert at h
  split at h
  · cases h
  · exact (Except.error.inj h).symm

theorem publicTool_error {device : Routing.RoutedDeviceSnapshot} {tool : Tool J A}
    {error : BuildError} (h : publicTool fromJSONSchema ownerId device tool = .error error) :
    error = .schema := by
  unfold publicTool at h
  cases hinput : convert fromJSONSchema tool.inputSchema with
  | error e =>
    rw [hinput] at h
    obtain rfl := Except.error.inj h
    exact convert_error fromJSONSchema hinput
  | ok inputSchema =>
    rw [hinput] at h
    cases houtput : tool.outputSchema with
    | none =>
      rw [houtput] at h
      cases h
    | some schema =>
      rw [houtput] at h
      cases hschema : convert fromJSONSchema schema with
      | error e =>
        simp only [bind, Except.bind, Except.map, hschema] at h
        obtain rfl := Except.error.inj h
        exact convert_error fromJSONSchema hschema
      | ok outputSchema =>
        simp only [bind, Except.bind, Except.map, hschema] at h
        cases h

/-- The loop over all tools never complains about devices. -/
theorem registerAll_error {announcements : List (Routing.RoutedDeviceSnapshot × Tool J A)}
    {progress : ℕ × McpServer S A} {error : BuildError}
    (h : registerAll fromJSONSchema ownerId announcements progress = .error error) :
    error ≠ .routing tooManyDevices := by
  induction announcements generalizing progress with
  | nil => cases h
  | cons announcement rest ih =>
    rw [registerAll] at h
    cases hone : registerOne fromJSONSchema ownerId announcement progress with
    | ok next =>
      rw [hone] at h
      exact ih h
    | error e =>
      rw [hone] at h
      obtain rfl := Except.error.inj h
      unfold registerOne at hone
      split at hone
      · obtain rfl := Except.error.inj hone
        decide
      · cases hpublic : publicTool fromJSONSchema ownerId announcement.1 announcement.2 with
        | error e' =>
          rw [hpublic] at hone
          obtain rfl := Except.error.inj hone
          rw [publicTool_error fromJSONSchema ownerId hpublic]
          simp
        | ok registered =>
          rw [hpublic] at hone
          simp only [Except.bind, registerTool] at hone
          split at hone
          · next hserver =>
            split at hserver
            · obtain rfl := Except.error.inj hserver
              obtain rfl := Except.error.inj hone
              simp
            · cases hserver
          · cases hone

/-- A build with a listing within the cap does not complain about devices. -/
theorem buildCallerServer_listed (pairing : Option S)
    (discovery : Routing.RoutedDeviceSnapshot → Discovery J A)
    {listed : Except Routing.DeviceRoutingError (List Routing.RoutedDeviceSnapshot)}
    (hlisted : (∃ shown, listed = .ok shown ∧ shown.length ≤ maxDevicesPerOwner) ∨
      listed = .error Routing.notFound ∨ listed = .error Routing.routingUnavailable) :
    buildCallerServer fromJSONSchema ownerId pairing listed discovery ≠
      .error (.routing tooManyDevices) := by
  intro hbuild
  obtain ⟨server, hserver, -⟩ := ownServer_ok (A := A) pairing
  rcases hlisted with ⟨shown, rfl, hlength⟩ | rfl | rfl
  · rw [buildCallerServer_eq fromJSONSchema ownerId hlength hserver] at hbuild
    cases hall : registerAll fromJSONSchema ownerId (announcements ownerId discovery shown)
        (ownTools pairing, server) with
    | ok progress =>
      rw [hall] at hbuild
      cases hbuild
    | error error =>
      rw [hall] at hbuild
      exact registerAll_error fromJSONSchema ownerId hall (Except.error.inj hbuild)
  · rw [buildCallerServer, hserver] at hbuild
    cases hbuild
  · rw [buildCallerServer, hserver] at hbuild
    have hsame : Routing.routingUnavailable = tooManyDevices :=
      BuildError.routing.inj (Except.error.inj hbuild)
    exact absurd hsame (by decide)

end Build

/-! ## What the cap is for -/

/-- The tool `devices_list` shows exactly the devices of the owner, and the owner's server is built,
unless it is for the tools that the devices announce. -/
structure Available (devices : InMemoryDeviceRepository) (ownerId : String)
    (listed : Except Routing.DeviceRoutingError (List Routing.RoutedDeviceSnapshot)) : Prop where
  devicesList : ∃ shown, listDevicesResult listed = .ok shown ∧
    ∀ d, d ∈ shown.map (·.deviceId) ↔
      ∃ record, devices.records.get? d = some record ∧ record.ownerId = ownerId
  server : ∀ (J S A : Type) (fromJSONSchema : J → Option S) (pairing : Option S)
    (discovery : Routing.RoutedDeviceSnapshot → Discovery J A) shown, listed = .ok shown →
      ownTools pairing + (announcements ownerId discovery shown).length ≤ maxToolsPerRequest →
      WellBehaved fromJSONSchema ownerId discovery shown → ∃ server : McpServer S A,
        buildCallerServer fromJSONSchema ownerId pairing listed discovery = .ok server

/-- A listing within the cap, read from stores that work, is available. -/
theorem available_of_working {locale : Collation} {registry : Routing.RegistryOptions}
    {first second : Routing.World (Routing.RoutingStores.inMemory locale)}
    {third : ℕ → Routing.World (Routing.RoutingStores.inMemory locale)}
    {readings : ℕ → Routing.SnapshotReadings} {ownerId : String}
    (hcap : deviceCount first.store.1 ownerId ≤ maxDevicesPerOwner)
    (howner : ownerIdSchema ownerId ≠ none) (hworking : Working second readings) :
    Available first.store.1 ownerId (Routing.listDevices (Routing.RoutingStores.inMemory locale)
      registry first second third readings ownerId) := by
  have howner : ownerIdSchema ownerId = some ownerId := by
    obtain ⟨owner, howner⟩ := Option.ne_none_iff_exists'.mp howner
    rw [howner, ownerIdSchema_some howner]
  obtain ⟨devices, hlists, hlength, hlisted⟩ := listDevices_eq registry first second third
    readings howner
  obtain ⟨shown, hshown, hids⟩ := snapshotDevices_ok registry third hworking 0
    devices
  have hlisted : Routing.listDevices (Routing.RoutingStores.inMemory locale) registry first second
      third readings ownerId = .ok shown := by
    rw [hlisted, hshown]
    rfl
  have hcap : shown.length ≤ maxDevicesPerOwner := by
    rw [← List.length_map (·.deviceId), hids, List.length_map, hlength]
    exact hcap
  rw [hlisted]
  refine ⟨⟨shown.map safeDevice, if_neg (not_lt.mpr hcap), fun d => ?_⟩, ?_⟩
  · have hsafe : (shown.map safeDevice).map (·.deviceId) = devices.map (·.deviceId) := by
      rw [List.map_map, ← hids]
      rfl
    rw [hsafe, List.mem_map]
    constructor
    · rintro ⟨device, hdevice, rfl⟩
      obtain ⟨d, record, hrecord, hrecordOwner, rfl⟩ := (hlists.exact device).mp hdevice
      obtain rfl := first.keyed d record hrecord
      exact ⟨record, hrecord, hrecordOwner⟩
    · rintro ⟨record, hrecord, hrecordOwner⟩
      exact ⟨toSnapshot record, (hlists.exact _).mpr ⟨d, record, hrecord, hrecordOwner, rfl⟩,
        first.keyed d record hrecord⟩
  · intro J S A fromJSONSchema pairing discovery shown' hshown' htotal hbehaved
    obtain rfl := Except.ok.inj hshown'
    have hnodup : (shown.map (·.deviceId)).Nodup := hids ▸ hlists.once
    obtain ⟨server, hserver, -⟩ := buildCallerServer_ok fromJSONSchema ownerId hcap hnodup htotal
      hbehaved
    exact ⟨server, hserver⟩

/-- No owner ever has more devices than the cap. So no run of `devices_pair` calls makes the
owner's endpoint unavailable: neither `devices_list` nor the build of the owner's server ever fails
for the number of devices, and both succeed as far as the clock, the records of the credentials and
the tools that the devices announce let them. -/
theorem devices_capped (locale : Collation) (options : CompletionRepositoryOptions)
    (stores : PairStores)
    (hcap : ∀ ownerId, deviceCount stores.pairing.devices ownerId ≤ maxDevicesPerOwner)
    (events : List EndpointEvent) :
    let w := runFrom (Endpoint.step locale options) (Endpoint.start stores) events
    (∀ ownerId, deviceCount w.stores.pairing.devices ownerId ≤ maxDevicesPerOwner) ∧
      ∀ (registry : Routing.RegistryOptions)
        (first second : Routing.World (Routing.RoutingStores.inMemory locale))
        (third : ℕ → Routing.World (Routing.RoutingStores.inMemory locale))
        (readings : ℕ → Routing.SnapshotReadings) (ownerId : String),
        first.store.1 = w.stores.pairing.devices →
        let listed := Routing.listDevices (Routing.RoutingStores.inMemory locale) registry first
          second third readings ownerId
        (ownerIdSchema ownerId ≠ none → Working second readings →
          Available w.stores.pairing.devices ownerId listed) ∧
        (∀ shown, listed = .ok shown → shown.length ≤ maxDevicesPerOwner) ∧
        ∀ (J S A : Type) (fromJSONSchema : J → Option S) (pairing : Option S)
          (discovery : Routing.RoutedDeviceSnapshot → Discovery J A),
          buildCallerServer fromJSONSchema ownerId pairing listed discovery ≠
            .error (.routing tooManyDevices) := by
  intro w
  have hrun := (Endpoint.orderly_run locale options hcap events).cap
  refine ⟨hrun, ?_⟩
  intro registry first second third readings ownerId hstore listed
  have hcount : deviceCount first.store.1 ownerId ≤ maxDevicesPerOwner := by
    rw [hstore]
    exact hrun ownerId
  refine ⟨fun howner hworking => hstore ▸ available_of_working hcount howner hworking, ?_⟩
  have hlisted : (∃ shown, listed = .ok shown ∧ shown.length ≤ maxDevicesPerOwner) ∨
      listed = .error Routing.notFound ∨ listed = .error Routing.routingUnavailable := by
    refine (listDevices_cases registry first second third readings ownerId).imp_left ?_
    rintro ⟨shown, hshown, hlength⟩
    exact ⟨shown, hshown, hlength ▸ hcount⟩
  refine ⟨?_, fun J S A fromJSONSchema pairing discovery =>
    buildCallerServer_listed fromJSONSchema ownerId pairing discovery hlisted⟩
  intro shown hshown
  rcases hlisted with ⟨shown', hshown', hlength⟩ | hfailed | hfailed
  · rw [hshown] at hshown'
    rw [Except.ok.inj hshown']
    exact hlength
  · rw [hshown] at hfailed
    cases hfailed
  · rw [hshown] at hfailed
    cases hfailed

/-! ## An owner one below the cap -/

namespace LastRoom

def hexDigit (i : Fin 16) : Char := "0123456789abcdef".toList.get (i.cast rfl)

/-- The device with a number of two digits. -/
def numbered (n : Fin 16 × Fin 16) : DeviceId where
  value := String.ofList
    (hexDigit n.1 :: hexDigit n.2 :: "000000-0000-4000-8000-000000000000".toList)
  wellFormed := by
    have hdigit : ∀ i, isHexDigit (hexDigit i) = true := by decide
    have hrest : JsString.fits (uuidV4Pattern.drop 2)
        "000000-0000-4000-8000-000000000000".toList = true := by decide
    rw [String.toList_ofList]
    change (isHexDigit _ && (isHexDigit _ && JsString.fits (uuidV4Pattern.drop 2) _)) = true
    rw [hdigit, hdigit, hrest]
    rfl
  canonical := by
    have hdigit : ∀ i, (hexDigit i).toLower = hexDigit i := by decide
    rw [JsString.toLowerCase, String.toList_ofList, List.map_cons, List.map_cons, hdigit, hdigit]
    rfl

theorem numbered_injective : Function.Injective numbered := by
  intro n n' h
  have hvalue := congrArg (fun id : DeviceId => id.value.toList) h
  simp only [numbered, String.toList_ofList, List.cons.injEq] at hvalue
  have hdigit : ∀ i j, hexDigit i = hexDigit j → i = j := by decide
  exact Prod.ext (hdigit _ _ hvalue.1) (hdigit _ _ hvalue.2.1)

/-- The numbers of the devices that are there. -/
def taken : List (Fin 16 × Fin 16) :=
  ((List.finRange 16).product (List.finRange 16)).take (maxDevicesPerOwner - 1)

/-- The owner's devices, one below the cap. -/
def fleet : InMemoryDeviceRepository where
  records := {
    entries := taken.map fun n =>
      (numbered n, ⟨numbered n, "owner", "device", ⟨"linux", none, none⟩, 0, 0⟩)
    nodup := by
      rw [List.map_map]
      exact List.Nodup.map numbered_injective (by decide) }

theorem fleet_count (ownerId : String) :
    deviceCount fleet ownerId = if ownerId = "owner" then maxDevicesPerOwner - 1 else 0 := by
  have hlength : taken.length = maxDevicesPerOwner - 1 := by decide
  unfold deviceCount OrderedMap.values fleet
  rw [List.map_map, List.countP_map]
  by_cases howner : ownerId = "owner"
  · rw [if_pos howner, ← hlength]
    exact List.countP_eq_length.mpr fun _ _ => decide_eq_true howner.symm
  · rw [if_neg howner]
    exact List.countP_eq_zero.mpr fun _ _ h => howner (of_decide_eq_true h).symm

def pending : InMemoryPairingSessionRepository :=
  (exec (InMemoryPairingSessionRepository.create .default
    ⟨"5e551000-0000-4000-8000-000000000001",
      "00112233445566778899aabbccddeeff00112233445566778899aabbccddeeff", some 0, some 100, none⟩)
    ⟨.new, .new⟩).2.pairings

def claimReadings : PairReadings where
  snapshots := .ok ()
  admissionId := "admission"
  completionClock := .at 1
  codeDigest := .ok "00112233445566778899aabbccddeeff00112233445566778899aabbccddeeff"
  now := some 1
  source := ⟨"ff000000-0000-4000-8000-000000000000", some 1⟩
  completed := .error (.error "unavailable")

/-- The laptop as its claim enlists it. -/
def laptop : StoredDevice where
  deviceId := numbered (15, 15)
  ownerId := "owner"
  deviceName := "laptop"
  metadata := ⟨"unknown", none, none⟩
  createdAtMs := 1
  updatedAtMs := 1

def enlarged : InMemoryDeviceRepository := ⟨fleet.records.set laptop.deviceId laptop⟩

def stores : PairStores := ⟨⟨pending, fleet⟩, .new⟩

def resume (i : ℕ) : EndpointEvent := .resume i claimReadings

/-- Two calls of the owner come in, and the first lists the devices. -/
def firstEvents : List EndpointEvent :=
  [.devicesPair ⟨"owner", "laptop"⟩, .devicesPair ⟨"owner", "desktop"⟩] ++
    List.replicate 8 .microtask ++ [resume 0]

/-- The first claims, and the second lists the devices. -/
def secondEvents : List EndpointEvent :=
  List.replicate 4 (resume 0) ++ [.release 0] ++ List.replicate 5 .microtask ++ [resume 1]

def runEvents (w : Endpoint) (events : List EndpointEvent) : Endpoint :=
  runFrom (Endpoint.step .root .default) w events

def shown (devices : InMemoryDeviceRepository) : PairStep :=
  .snapshots (listing (compareListed .root) devices.records "owner")

/-- A call of the owner that has listed the devices, by the room that it finds. -/
theorem resume_shown {w : Endpoint} {i : ℕ} {name : String} {devices : InMemoryDeviceRepository}
    (hi : w.running i = some ⟨⟨"owner", name⟩, shown devices⟩) :
    w.step .root .default (resume i) =
      { w with operations := w.operations.set i ⟨⟨"owner", name⟩,
          if maxDevicesPerOwner ≤ deviceCount devices "owner" then
            .settled (.error (.routing deviceLimitReached))
          else .reserve⟩ } := by
  unfold resume Endpoint.step
  dsimp only
  rw [hi, ← length_listing .root]
  rfl

/-- The first call finds room. -/
def admitted : Endpoint :=
  let w := runEvents (Endpoint.start stores) firstEvents
  { w with operations := w.operations.set 0 ⟨⟨"owner", "laptop"⟩, .reserve⟩ }

theorem admitted_eq :
    runEvents (Endpoint.start stores) (firstEvents ++ [resume 0]) = admitted := by
  have hrunning : (runEvents (Endpoint.start stores) firstEvents).running 0 =
      some ⟨⟨"owner", "laptop"⟩, shown fleet⟩ := by exact rfl
  have hroom : ¬ maxDevicesPerOwner ≤ deviceCount fleet "owner" := by
    rw [fleet_count]
    decide
  unfold runEvents at hrunning ⊢
  rw [runFrom_append, runFrom_cons, runFrom_nil, resume_shown hrunning, if_neg hroom]
  rfl

theorem enlarged_keyed {d : DeviceId} {record : StoredDevice}
    (h : enlarged.records.get? d = some record) : record.deviceId = d := by
  unfold enlarged at h
  rw [OrderedMap.get?_set] at h
  split_ifs at h with hd
  · obtain rfl := Option.some.inj h
    exact hd.symm
  · have hmem := (OrderedMap.mem_entries_iff fleet.records d record).mpr h
    obtain ⟨n, -, hn⟩ := List.mem_map.mp hmem
    obtain ⟨rfl, rfl⟩ := Prod.mk.inj hn
    rfl

theorem enlarged_count : deviceCount enlarged "owner" = maxDevicesPerOwner := by
  have hnew : fleet.records.get? laptop.deviceId = none := by exact rfl
  have hcount := fleet_count "owner"
  unfold deviceCount at hcount ⊢
  unfold enlarged
  rw [OrderedMap.countP_values_set_new _ _ _ hnew, hcount]
  rfl

def events : List EndpointEvent := firstEvents ++ [resume 0] ++ secondEvents ++ [resume 1]

/-- The claim of the first call enlists the laptop, and the second call is refused. -/
theorem cap_reached :
    let w := runEvents (Endpoint.start stores) events
    w.stores.pairing.devices = enlarged ∧ w.operations[1]? = some ⟨⟨"owner", "desktop"⟩,
      .settled (.error (.routing deviceLimitReached))⟩ := by
  have hstores : (runEvents admitted secondEvents).stores.pairing.devices = enlarged := by exact rfl
  have hrunning : (runEvents admitted secondEvents).running 1 =
      some ⟨⟨"owner", "desktop"⟩, shown enlarged⟩ := by exact rfl
  have hlast : runEvents (Endpoint.start stores) events =
      (runEvents admitted secondEvents).step .root .default (resume 1) := by
    rw [← admitted_eq]
    unfold runEvents events
    rw [runFrom_append, runFrom_append, runFrom_cons, runFrom_nil]
  intro w
  have hw : w = _ := hlast.trans (resume_shown hrunning)
  obtain ⟨hoperation, -⟩ := Endpoint.running_eq_some.mp hrunning
  rw [hw, if_pos enlarged_count.ge]
  exact ⟨hstores, List.getElem?_set_self (List.getElem?_eq_some_iff.mp hoperation).1⟩

/-- What a listing sees after the run: no device is connected. -/
def world : Routing.World (Routing.RoutingStores.inMemory .root) where
  store := (enlarged, .new)
  registry := .new
  states _ := .closed
  keyed _ _ h := enlarged_keyed h

def readings (_ : ℕ) : Routing.SnapshotReadings := ⟨some 2, some 2, some 2⟩

end LastRoom

open LastRoom in
/-- Two calls for the one device that is left: the first takes it, and the endpoint stays available. -/
theorem devices_capped_last_room :
    (let w := runFrom (Endpoint.step .root .default) (Endpoint.start stores) events
     deviceCount w.stores.pairing.devices "owner" = maxDevicesPerOwner ∧
      w.operations[1]? = some ⟨⟨"owner", "desktop"⟩,
        .settled (.error (.routing deviceLimitReached))⟩) ∧
    Available enlarged "owner" (Routing.listDevices (Routing.RoutingStores.inMemory .root) .default
      world world (fun _ => world) readings "owner") := by
  obtain ⟨hstores, hrefused⟩ := cap_reached
  have hcap : ∀ ownerId, deviceCount stores.pairing.devices ownerId ≤ maxDevicesPerOwner := by
    intro ownerId
    refine (fleet_count ownerId).trans_le ?_
    split
    · exact Nat.sub_le _ _
    · exact Nat.zero_le _
  have hworking : Working world readings := ⟨fun _ => ⟨nofun, nofun, nofun⟩, nofun⟩
  have hcapped := (devices_capped .root .default stores hcap events).2 .default world world
    (fun _ => world) readings "owner" hstores.symm
  refine ⟨⟨?_, hrefused⟩, ?_⟩
  · exact (congrArg (deviceCount · "owner") hstores).trans enlarged_count
  · have havailable := hcapped.1 (by decide) hworking
    exact hstores ▸ havailable

end Doctmcp.PublicMcp
