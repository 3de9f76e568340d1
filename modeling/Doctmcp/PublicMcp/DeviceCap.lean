import Doctmcp.Device.Agreement
import Doctmcp.Exclusion.Progress
import Doctmcp.PublicMcp.PairTool

/-! # The device cap of an owner

An operation that has counted the devices of its owner holds the owner's turn until its claim is done,
and a claim creates at most one device, for the same owner. So what was counted stays true up to the
claim (`Room`), and no owner has more than `maxDevicesPerOwner` devices in any run. -/

namespace Doctmcp.PublicMcp
open Doctmcp.Lib Doctmcp.Lib.Operation Doctmcp.Schemas Doctmcp.Device Doctmcp.Pairing
open Doctmcp.Completion
set_option autoImplicit false

/-! ## Counting devices -/

/-- How many devices the owner has. -/
def deviceCount (devices : InMemoryDeviceRepository) (ownerId : String) : ℕ :=
  devices.records.values.countP (·.ownerId = ownerId)

theorem length_listing (locale : Collation) (devices : InMemoryDeviceRepository)
    (ownerId : String) :
    (listing (compareListed locale) devices.records ownerId).length =
      deviceCount devices ownerId := by
  unfold listing deviceCount
  rw [List.length_map, List.length_mergeSort, List.countP_eq_length_filter]

theorem listed_length {locale : Collation} {devices : InMemoryDeviceRepository} {ownerId : String}
    {listed : List Schemas.Device}
    (h : (exec (InMemoryDeviceRepository.listByOwnerId locale ownerId) devices).1 = .ok listed) :
    listed.length = deviceCount devices ownerId := by
  rw [InMemoryDeviceRepository.exec_listByOwnerId] at h
  cases hparsed : Device.parseOwnerId ownerId with
  | error e =>
    rw [hparsed] at h
    cases h
  | ok parsed =>
    obtain rfl := InMemoryDeviceRepository.parseOwnerId_ok hparsed
    rw [hparsed] at h
    obtain rfl := Except.ok.inj h
    exact length_listing locale devices parsed

/-- At most one device is added, for the owner. -/
def Enlists (ownerId : String) (devices devices' : InMemoryDeviceRepository) : Prop :=
  devices' = devices ∨ ∃ record : StoredDevice, record.ownerId = ownerId ∧
    devices.records.get? record.deviceId = none ∧
    devices' = ⟨devices.records.set record.deviceId record⟩

theorem Enlists.count_le {ownerId : String} {devices devices' : InMemoryDeviceRepository}
    (h : Enlists ownerId devices devices') :
    deviceCount devices' ownerId ≤ deviceCount devices ownerId + 1 := by
  rcases h with rfl | ⟨record, -, hnew, rfl⟩
  · exact Nat.le_succ _
  · unfold deviceCount
    rw [OrderedMap.countP_values_set_new _ _ _ hnew]
    exact Nat.add_le_add_left (List.countP_le_length) _

theorem Enlists.count_other {ownerId other : String} {devices devices' : InMemoryDeviceRepository}
    (h : Enlists ownerId devices devices') (hne : other ≠ ownerId) :
    deviceCount devices' other = deviceCount devices other := by
  rcases h with rfl | ⟨record, rfl, hnew, rfl⟩
  · rfl
  · unfold deviceCount
    rw [OrderedMap.countP_values_set_new _ _ _ hnew]
    have hzero : [record].countP (fun r => decide (r.ownerId = other)) = 0 := by
      simp [Ne.symm hne]
    omega

theorem createDeviceInputSchema_owner {input parsed : CreateDeviceInput}
    (h : createDeviceInputSchema input = some parsed) : parsed.ownerId = input.ownerId := by
  unfold createDeviceInputSchema at h
  obtain ⟨ownerId, hownerId, h⟩ := Option.bind_eq_some_iff.mp h
  obtain ⟨deviceName, -, h⟩ := Option.bind_eq_some_iff.mp h
  obtain ⟨metadata, -, h⟩ := Option.bind_eq_some_iff.mp h
  obtain rfl := Option.some.inj h
  exact ownerIdSchema_some hownerId

theorem create_enlists (source : DeviceSource) (input : CreateDeviceInput)
    (devices : InMemoryDeviceRepository) :
    Enlists input.ownerId devices
      (exec (InMemoryDeviceRepository.create source input) devices).2 := by
  unfold InMemoryDeviceRepository.create
  refine exec_bind_cases (P := fun out => Enlists input.ownerId devices out.2)
    (fun _ _ => .inl rfl) fun parsedInput hparsed => ?_
  have howner := createDeviceInputSchema_owner (orThrow_ok hparsed)
  refine exec_bind_cases (P := fun out => Enlists input.ownerId devices out.2)
    (fun _ _ => .inl rfl) fun parsedId _ => ?_
  rw [exec_get_bind]
  refine exec_failIf_cases (P := fun out => Enlists input.ownerId devices out.2)
    (fun _ => .inl rfl) fun hnew => ?_
  refine exec_bind_cases (P := fun out => Enlists input.ownerId devices out.2)
    (fun _ _ => .inl rfl) fun nowMs _ => ?_
  refine .inr ⟨⟨parsedId, parsedInput.ownerId, parsedInput.deviceName, parsedInput.metadata,
    nowMs, nowMs⟩, howner, ?_, rfl⟩
  exact (OrderedMap.has_false_iff _ _).mp (by simpa using hnew)

/-- An operation on the store of pairing sessions and devices adds at most one device, for the
owner. -/
def EnlistsIn {α : Type} (ownerId : String) (store : MemoryStore)
    (out : Except JsError α × MemoryStore) : Prop :=
  Enlists ownerId store.devices out.2.devices

theorem claim_enlists (now : JsDate) (source : DeviceSource) (input : ClaimPairingRecordInput)
    (store : MemoryStore) :
    EnlistsIn input.claim.ownerId store
      (exec (InMemoryPairingSessionRepository.claim now source input) store) := by
  unfold InMemoryPairingSessionRepository.claim
  refine exec_bind_cases (P := EnlistsIn input.claim.ownerId store)
    (fun _ _ => .inl rfl) fun codeDigest _ => ?_
  refine exec_bind_cases (P := EnlistsIn input.claim.ownerId store)
    (fun _ _ => .inl rfl) fun claimedAtMs _ => ?_
  rw [exec_get_bind]
  cases (store.pairings.sessionIdByDigest.get? codeDigest).bind
      store.pairings.recordsById.get? with
  | none => exact .inl rfl
  | some record =>
    dsimp only
    by_cases hdue : record.state = .pending ∧ claimedAtMs ≥ record.expiresAtMs
    · rw [if_pos hdue]
      exact .inl rfl
    · rw [if_neg hdue]
      refine exec_failIf_cases (P := EnlistsIn input.claim.ownerId store)
        (fun _ => .inl rfl) fun _ => ?_
      refine exec_failIf_cases (P := EnlistsIn input.claim.ownerId store)
        (fun _ => .inl rfl) fun _ => ?_
      rw [exec_bind, InMemoryPairingSessionRepository.exec_onDevices]
      have hcreate := create_enlists source input.claim store.devices
      generalize exec (InMemoryDeviceRepository.create source input.claim) store.devices = out
        at hcreate ⊢
      obtain ⟨result, devices⟩ := out
      cases result with
      | error e => exact hcreate
      | ok device =>
        simp only [exec_get_bind, exec_set_bind]
        -- The device is there, also where the session cannot be shown.
        exact exec_bind_cases (P := EnlistsIn input.claim.ownerId store)
          (fun _ _ => hcreate) fun _ _ => hcreate

theorem claimPairingCode_enlists (now : JsDate) (source : DeviceSource) (input : PairInput)
    (codeDigest : Except JsError String) (store : MemoryStore) :
    EnlistsIn input.ownerId store
      (exec (PairingService.claimPairingCode now source (claimRequest input codeDigest)) store) := by
  unfold PairingService.claimPairingCode
  refine exec_bind_cases (P := EnlistsIn input.ownerId store)
    (fun _ _ => .inl rfl) fun request hrequest => ?_
  have howner : request.claim.ownerId = input.ownerId := by
    unfold claimRequest at hrequest
    cases hparsed : claimPairingInputSchema _ with
    | none =>
      rw [hparsed] at hrequest
      cases hrequest
    | some parsed =>
      rw [hparsed] at hrequest
      cases codeDigest with
      | error e => cases hrequest
      | ok digest =>
        obtain rfl := Except.ok.inj hrequest
        exact createDeviceInputSchema_owner hparsed
  rw [PairingService.exec_mapped, ← howner]
  exact claim_enlists now source request store

theorem updateForOwner_count (now : JsDate) (ownerId deviceId : String)
    (patch : UpdateDeviceInput) (devices : InMemoryDeviceRepository) (other : String) :
    deviceCount (exec (InMemoryDeviceRepository.updateForOwner now ownerId deviceId patch)
      devices).2 other = deviceCount devices other := by
  have houtcome := InMemoryDeviceRepository.updateForOwner_returns .binary devices now ownerId deviceId patch
  generalize exec (InMemoryDeviceRepository.updateForOwner now ownerId deviceId patch) devices = out
    at houtcome ⊢
  obtain ⟨result, devices'⟩ := out
  cases result with
  | error e =>
    cases houtcome with
    | refused => rfl
  | ok device =>
    cases houtcome with
    | read => rfl
    | updated now ownerId deviceId patch parsed d record t devices' _ hrecord _ _ hrecords =>
      have hrecord : devices.records.get? d = some record := hrecord
      have hrecords : devices'.records = devices.records.set d (record.patched parsed t) := hrecords
      unfold deviceCount
      dsimp only
      rw [hrecords]
      exact OrderedMap.countP_values_set_alike _ _ hrecord rfl

/-! ## One await of an operation -/

/-- What an operation knows of the number of its owner's devices. -/
def Room (count : ℕ) : PairStep → Prop
  | .snapshots devices => devices.length = count
  | .reserve => count < maxDevicesPerOwner
  | .claimPairingCode _ => count < maxDevicesPerOwner
  | _ => True

/-- What one await does to the devices of the owner, from a state with room. -/
structure Advances (ownerId : String) (stores : PairStores) (out : PairStep × PairStores) : Prop where
  enlists : Enlists ownerId stores.pairing.devices out.2.pairing.devices
  room : Room (deviceCount out.2.pairing.devices ownerId) out.1
  cap : deviceCount out.2.pairing.devices ownerId ≤ maxDevicesPerOwner

section Step
variable {locale : Collation} {options : CompletionRepositoryOptions} {readings : PairReadings}
  {stores : PairStores} {ownerId : String}

theorem awaitCompletions_advances {α : Type} {op : Operation CompletionRepository JsError α}
    {next : α → PairStep} (hcap : deviceCount stores.pairing.devices ownerId ≤ maxDevicesPerOwner)
    (hnext : ∀ a, Room (deviceCount stores.pairing.devices ownerId) (next a)) :
    Advances ownerId stores (PairStep.awaitCompletions stores op next) := by
  refine ⟨.inl rfl, ?_, hcap⟩
  unfold PairStep.awaitCompletions
  dsimp only
  cases (exec op stores.completions).1 with
  | ok a => exact hnext a
  | error error => trivial

theorem step_advances (input : PairInput) {step : PairStep}
    (hcap : deviceCount stores.pairing.devices input.ownerId ≤ maxDevicesPerOwner)
    (hroom : Room (deviceCount stores.pairing.devices input.ownerId) step) :
    Advances input.ownerId stores (PairStep.step locale options readings stores input step) := by
  cases step with
  | listDevices =>
    refine ⟨.inl rfl, ?_, hcap⟩
    unfold PairStep.step
    dsimp only
    cases hparsed : Routing.parseOwnerId input.ownerId with
    | error error => trivial
    | ok parsed =>
      obtain rfl := (Routing.parseOwnerId_ok hparsed).1
      dsimp only
      cases hlisted : (exec (InMemoryDeviceRepository.listByOwnerId locale input.ownerId)
          stores.pairing.devices).1 with
      | error error => trivial
      | ok devices => exact listed_length hlisted
  | snapshots devices =>
    refine ⟨.inl rfl, ?_, hcap⟩
    unfold PairStep.step
    dsimp only
    cases readings.snapshots with
    | error error => trivial
    | ok =>
      dsimp only
      split
      · trivial
      · next hless =>
        have hcount : devices.length = deviceCount stores.pairing.devices input.ownerId := hroom
        exact hcount ▸ Nat.lt_of_not_le hless
  | reserve =>
    apply awaitCompletions_advances hcap
    intro admitted
    split
    · exact hroom
    · trivial
  | claimPairingCode admissionId =>
    have henlists := claimPairingCode_enlists readings.now readings.source input readings.codeDigest
      stores.pairing
    refine ⟨henlists, ?_, Nat.le_trans henlists.count_le hroom⟩
    unfold PairStep.step
    dsimp only
    split
    · trivial
    · trivial
  | dropReservation admissionId error =>
    show Advances input.ownerId stores (PairStep.awaitCompletions stores
      (CompletionRepository.delete admissionId) fun _ => .throws error)
    apply awaitCompletions_advances hcap
    intro _
    trivial
  | transferReservation admissionId claimed =>
    apply awaitCompletions_advances hcap
    intro transferred
    split
    · trivial
    · trivial
  | complete claimed =>
    refine ⟨.inl rfl, ?_, hcap⟩
    unfold PairStep.step
    dsimp only
    split
    · trivial
    · trivial
  | settled result => exact ⟨.inl rfl, trivial, hcap⟩

end Step

/-! ## Runs -/

namespace Endpoint

/-- How many devices the owner has. -/
def count (w : Endpoint) (ownerId : String) : ℕ := deviceCount w.stores.pairing.devices ownerId

/-- The gate is in order, an operation that has not started stands at its first await, and one that
runs has the room that it found. -/
structure Orderly (w : Endpoint) : Prop where
  woven : Exclusion.Woven w.gate.calls w.gate.jobs
  mapped : Exclusion.Mapped w.gate.tails w.gate.calls
  keys : w.gate.calls.map (·.key) = w.operations.map (·.input.ownerId)
  fresh : ∀ (i : ℕ) (c : Exclusion.Call String) (op : PairCall), w.gate.calls[i]? = some c →
    w.operations[i]? = some op → c.phase = .waiting → op.step = .listDevices
  room : ∀ (i : ℕ) (op : PairCall), w.running i = some op → Room (w.count op.input.ownerId) op.step
  cap : ∀ ownerId, w.count ownerId ≤ maxDevicesPerOwner

variable {w : Endpoint} {i : ℕ} {op : PairCall}

theorem running_eq_some : w.running i = some op ↔
    w.operations[i]? = some op ∧ ∃ c, w.gate.calls[i]? = some c ∧ c.phase = .running := by
  unfold running
  cases hc : w.gate.calls[i]? with
  | none => simp
  | some c =>
    dsimp only
    by_cases hphase : c.phase = .running
    · rw [if_pos hphase]
      constructor
      · intro hop
        exact ⟨hop, c, rfl, hphase⟩
      · exact And.left
    · rw [if_neg hphase]
      constructor
      · nofun
      · rintro ⟨-, c', hc', hphase'⟩
        obtain rfl := Option.some.inj hc'
        exact absurd hphase' hphase

theorem Orderly.key (h : w.Orderly) {c : Exclusion.Call String} (hc : w.gate.calls[i]? = some c)
    (hop : w.operations[i]? = some op) : c.key = op.input.ownerId := by
  have hkey := congrArg (·[i]?) h.keys
  simp only [List.getElem?_map, hc, hop, Option.map_some] at hkey
  exact Option.some.inj hkey

theorem Orderly.length (h : w.Orderly) : w.gate.calls.length = w.operations.length := by
  have hlength := congrArg List.length h.keys
  rwa [List.length_map, List.length_map] at hlength

/-- Two operations that run belong to different owners. -/
theorem Orderly.apart (h : w.Orderly) {j : ℕ} {other : PairCall} (hi : w.running i = some op)
    (hj : w.running j = some other) (howner : other.input.ownerId = op.input.ownerId) : j = i := by
  obtain ⟨hop, c, hc, hphase⟩ := running_eq_some.1 hi
  obtain ⟨hother, d, hd, hphase'⟩ := running_eq_some.1 hj
  have hkey : c.key = d.key := by
    rw [h.key hc hop, h.key hd hother, howner]
  exact (h.mapped.apart hc hd hkey hphase hphase').symm

/-- A state whose gate has no more operations running, with the same devices. -/
theorem Orderly.gate (h : w.Orderly) {w' : Endpoint}
    (hwoven : Exclusion.Woven w'.gate.calls w'.gate.jobs)
    (hmapped : Exclusion.Mapped w'.gate.tails w'.gate.calls)
    (hkeys : w'.gate.calls.map (·.key) = w'.operations.map (·.input.ownerId))
    (hfresh : ∀ (i : ℕ) (c : Exclusion.Call String) (op : PairCall), w'.gate.calls[i]? = some c →
      w'.operations[i]? = some op → c.phase = .waiting → op.step = .listDevices)
    (hrunning : ∀ (i : ℕ) (op : PairCall), w'.running i = some op →
      w.running i = some op ∨ op.step = .listDevices)
    (hcount : ∀ ownerId, w'.count ownerId = w.count ownerId) : w'.Orderly where
  woven := hwoven
  mapped := hmapped
  keys := hkeys
  fresh := hfresh
  room i op hi := by
    rw [hcount]
    rcases hrunning i op hi with hi | hstep
    · exact h.room i op hi
    · rw [hstep]
      trivial
  cap ownerId := hcount ownerId ▸ h.cap ownerId

theorem map_key_setPhase (gate : Exclusion.World String) (i : ℕ) (phase : Exclusion.Phase) :
    (gate.setPhase i phase).calls.map (·.key) = gate.calls.map (·.key) := by
  show (gate.calls.modify i fun c => { c with phase := phase }).map (·.key) = _
  apply List.ext_getElem?
  intro j
  rw [List.getElem?_map, List.getElem?_map, List.getElem?_modify]
  cases gate.calls[j]? with
  | none => rfl
  | some c =>
    by_cases hsame : i = j
    · simp [hsame]
    · simp [hsame]

/-- The gate starts a call, or ends one. -/
theorem Orderly.setPhase (h : w.Orderly) {gate : Exclusion.World String} {phase : Exclusion.Phase}
    (hwoven : Exclusion.Woven gate.calls gate.jobs)
    (hmapped : Exclusion.Mapped gate.tails gate.calls)
    (hcalls : gate.calls = (w.gate.setPhase i phase).calls) (hwaiting : phase ≠ .waiting)
    (hstart : phase = .running → ∀ op, w.operations[i]? = some op → op.step = .listDevices) :
    Orderly { w with gate := gate } := by
  refine h.gate hwoven hmapped ?_ ?_ ?_ fun _ => rfl
  · show gate.calls.map (·.key) = _
    rw [hcalls, map_key_setPhase]
    exact h.keys
  · intro j c op hc hop hphase
    have hc : gate.calls[j]? = some c := hc
    rw [hcalls] at hc
    obtain ⟨d, hd, rfl⟩ := Exclusion.setPhase_eq_some hc
    dsimp only at hphase
    by_cases hsame : i = j
    · rw [if_pos hsame] at hphase
      exact absurd hphase hwaiting
    · rw [if_neg hsame] at hphase
      exact h.fresh j d op hd hop hphase
  · intro j op hj
    obtain ⟨hop, c, hc, hphase⟩ := running_eq_some.1 hj
    have hc : gate.calls[j]? = some c := hc
    rw [hcalls] at hc
    obtain ⟨d, hd, rfl⟩ := Exclusion.setPhase_eq_some hc
    dsimp only at hphase
    by_cases hsame : i = j
    · rw [if_pos hsame] at hphase
      subst hsame
      exact .inr (hstart hphase op hop)
    · rw [if_neg hsame] at hphase
      exact .inl (running_eq_some.2 ⟨hop, d, hd, hphase⟩)

theorem Orderly.microtask (h : w.Orderly) : Orderly { w with gate := w.gate.microtask } := by
  have hwoven := h.woven.microtask
  have hmapped := h.mapped.microtask h.woven
  rcases h.woven.microtask_calls with hcalls | ⟨t, c, hc, hwaiting, -, hcalls⟩
  · refine h.gate hwoven hmapped ?_ ?_ ?_ fun _ => rfl
    · show w.gate.microtask.calls.map (·.key) = _
      rw [hcalls]
      exact h.keys
    · intro j d op hd
      have hd : w.gate.microtask.calls[j]? = some d := hd
      rw [hcalls] at hd
      exact h.fresh j d op hd
    · intro j op hj
      obtain ⟨hop, d, hd, hphase⟩ := running_eq_some.1 hj
      have hd : w.gate.microtask.calls[j]? = some d := hd
      rw [hcalls] at hd
      exact .inl (running_eq_some.2 ⟨hop, d, hd, hphase⟩)
  · exact h.setPhase hwoven hmapped hcalls nofun fun _ op hop =>
      h.fresh t.index c op hc.1 hop hwaiting

theorem Orderly.devicesPair (h : w.Orderly) (input : PairInput) :
    Orderly { w with
      gate := w.gate.call .OwnerPairingGate input.ownerId
      operations := w.operations ++ [⟨input, .listDevices⟩] } := by
  have hwoven : Exclusion.Woven (w.gate.call .OwnerPairingGate input.ownerId).calls
      (w.gate.call .OwnerPairingGate input.ownerId).jobs := h.woven.call h.mapped
  have hmapped : Exclusion.Mapped (w.gate.call .OwnerPairingGate input.ownerId).tails
      (w.gate.call .OwnerPairingGate input.ownerId).calls := h.mapped.call
  have hcall := w.gate.call_eq .OwnerPairingGate input.ownerId
  generalize w.gate.call .OwnerPairingGate input.ownerId = gate at hwoven hmapped hcall ⊢
  obtain ⟨current, tail, hcalls, -⟩ := hcall
  have hold : ∀ (j : ℕ) (op : PairCall), j < w.gate.calls.length →
      (w.operations ++ [⟨input, .listDevices⟩])[j]? = some op → w.operations[j]? = some op := by
    intro j op hlt hop
    rwa [List.getElem?_append_left (h.length ▸ hlt)] at hop
  refine h.gate hwoven hmapped ?_ ?_ ?_ fun _ => rfl
  · show gate.calls.map (·.key) = _
    rw [hcalls, List.map_append, List.map_append, h.keys]
    rfl
  · intro j c op hc hop hphase
    have hc : gate.calls[j]? = some c := hc
    rw [hcalls] at hc
    rcases Exclusion.getElem?_concat_eq_some hc with hc | ⟨rfl, rfl⟩
    · exact h.fresh j c op hc (hold j op (List.getElem?_eq_some_iff.1 hc).1 hop) hphase
    · have hop : (w.operations ++ [⟨input, .listDevices⟩])[w.gate.calls.length]? = some op := hop
      rw [h.length, List.getElem?_concat_length] at hop
      obtain rfl := Option.some.inj hop
      rfl
  · intro j op hj
    obtain ⟨hop, c, hc, hphase⟩ := running_eq_some.1 hj
    have hc : gate.calls[j]? = some c := hc
    rw [hcalls] at hc
    rcases Exclusion.getElem?_concat_eq_some hc with hc | ⟨rfl, rfl⟩
    · have hop := hold j op (List.getElem?_eq_some_iff.1 hc).1 hop
      exact .inl (running_eq_some.2 ⟨hop, c, hc, hphase⟩)
    · cases hphase

theorem Orderly.release (h : w.Orderly) (hi : w.running i = some op) (returned : Bool) :
    Orderly { w with gate := w.gate.finish i returned } := by
  obtain ⟨hop, c, hc, hphase⟩ := running_eq_some.1 hi
  have hfinish := Exclusion.finish_running returned hc hphase
  have hwoven := h.woven.finish returned hc hphase
  have hmapped := h.mapped.finish returned h.woven hc hphase
  rw [hfinish]
  exact h.setPhase hwoven hmapped rfl nofun nofun

/-- One await of an operation that runs. The other operations that run belong to other owners. -/
theorem Orderly.resume (h : w.Orderly) (hi : w.running i = some op) {out : PairStep × PairStores}
    (hout : Advances op.input.ownerId w.stores out) :
    Orderly { w with operations := w.operations.set i { op with step := out.1 }
                     stores := out.2 } := by
  obtain ⟨hop, c, hc, hphase⟩ := running_eq_some.1 hi
  have hlt : i < w.operations.length := (List.getElem?_eq_some_iff.1 hop).1
  refine ⟨h.woven, h.mapped, ?_, ?_, ?_, ?_⟩
  · rw [h.keys]
    apply List.ext_getElem?
    intro j
    rw [List.getElem?_map, List.getElem?_map, List.getElem?_set]
    by_cases hsame : i = j
    · subst hsame
      rw [if_pos rfl, if_pos hlt, hop]
      rfl
    · rw [if_neg hsame]
  · intro j d other hd hother hwaiting
    have hother : (w.operations.set i { op with step := out.1 })[j]? = some other := hother
    by_cases hsame : i = j
    · subst hsame
      obtain rfl := Option.some.inj (hc.symm.trans hd)
      rw [hphase] at hwaiting
      cases hwaiting
    · rw [List.getElem?_set_ne hsame] at hother
      exact h.fresh j d other hd hother hwaiting
  · intro j other hj
    obtain ⟨hother, d, hd, hphase'⟩ := running_eq_some.1 hj
    have hother : (w.operations.set i { op with step := out.1 })[j]? = some other := hother
    by_cases hsame : i = j
    · subst hsame
      rw [List.getElem?_set_self hlt] at hother
      obtain rfl := Option.some.inj hother
      exact hout.room
    · rw [List.getElem?_set_ne hsame] at hother
      have hrunning := running_eq_some.2 ⟨hother, d, hd, hphase'⟩
      have hne : other.input.ownerId ≠ op.input.ownerId :=
        fun howner => hsame (h.apart hi hrunning howner).symm
      have hroom := h.room j other hrunning
      unfold count at hroom ⊢
      rwa [hout.enlists.count_other hne]
  · intro ownerId
    by_cases howner : ownerId = op.input.ownerId
    · exact howner ▸ hout.cap
    · unfold count
      rw [hout.enlists.count_other howner]
      exact h.cap ownerId

theorem Orderly.step (locale : Collation) (options : CompletionRepositoryOptions) (h : w.Orderly)
    (e : EndpointEvent) : (w.step locale options e).Orderly := by
  have hsame : ∀ stores : PairStores,
      (∀ ownerId, deviceCount stores.pairing.devices ownerId = w.count ownerId) →
      Orderly { w with stores := stores } := fun stores hcount =>
    h.gate h.woven h.mapped h.keys h.fresh (fun _ _ hj => .inl hj) hcount
  cases e with
  | devicesPair input => exact h.devicesPair input
  | microtask => exact h.microtask
  | resume i readings =>
    unfold Endpoint.step
    dsimp only
    cases hi : w.running i with
    | none => exact h
    | some op =>
      exact h.resume hi (step_advances op.input (h.cap op.input.ownerId) (h.room i op hi))
  | release i =>
    unfold Endpoint.step
    dsimp only
    cases hi : w.running i with
    | none => exact h
    | some op =>
      dsimp only
      split
      · exact h.release hi _
      · exact h
  | others pairings completions => exact hsame _ fun _ => rfl
  | updateForOwner now ownerId deviceId patch =>
    exact hsame _ fun other =>
      updateForOwner_count now ownerId deviceId patch w.stores.pairing.devices other

theorem orderly_start {stores : PairStores}
    (hcap : ∀ ownerId, deviceCount stores.pairing.devices ownerId ≤ maxDevicesPerOwner) :
    (start stores).Orderly where
  woven := Exclusion.woven_initial
  mapped := Exclusion.mapped_initial
  keys := rfl
  fresh i c op hc := by cases hc
  room i op hi := by
    obtain ⟨hop, -⟩ := running_eq_some.1 hi
    cases hop
  cap := hcap

theorem orderly_run (locale : Collation) (options : CompletionRepositoryOptions)
    {stores : PairStores}
    (hcap : ∀ ownerId, deviceCount stores.pairing.devices ownerId ≤ maxDevicesPerOwner)
    (events : List EndpointEvent) :
    (runFrom (step locale options) (start stores) events).Orderly :=
  runFrom_invariant (fun _ e h => h.step locale options e) (orderly_start hcap) events

end Endpoint

end Doctmcp.PublicMcp
