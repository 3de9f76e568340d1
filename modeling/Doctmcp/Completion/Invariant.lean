import Doctmcp.Completion.Calls

/-! # Invariants of the completion service

Two facts that hold in every reachable world, whatever the events: the repositories' records are
valid, and a device belongs to one pairing session. The pairing records, the calls and the promises
all name a session together with its device; every such pair stems from the claim that created the
device. -/

namespace Doctmcp.Completion
open Doctmcp.Lib Doctmcp.Lib.Operation Doctmcp.Schemas Doctmcp.Device Doctmcp.Pairing
open Doctmcp.Credential CompletionRepository
open DeviceCredentialService (DevicesKeyed)
open InMemoryDeviceCredentialRepository (adapter)
set_option autoImplicit false

variable {options : ServiceOptions}

/-! ## Valid records -/

/-- A pairing call keeps every device under its own id and removes none. -/
theorem pairingOutcome_devices {s : MemoryStore} {c : Pairing.Call} {out : Pairing.Outcome × MemoryStore}
    (h : options.adapter.CallOutcome s c out) :
    (DevicesKeyed s.devices → DevicesKeyed out.2.devices) ∧
      ∀ d, s.devices.records.get? d ≠ none → out.2.devices.records.get? d ≠ none := by
  have hsame : ∀ s', options.adapter.devices s' = options.adapter.devices s →
      s'.devices = s.devices := fun s' h => congrArg InMemoryDeviceRepository.mk h
  have hadd : ∀ s' (row : StoredDevice), options.adapter.devices s' =
      (options.adapter.devices s).set row.deviceId row →
      (DevicesKeyed s.devices → DevicesKeyed s'.devices) ∧
        ∀ d, s.devices.records.get? d ≠ none → s'.devices.records.get? d ≠ none := by
    intro s' row h
    have hget : ∀ d, s'.devices.records.get? d =
        if d = row.deviceId then some row else s.devices.records.get? d := by
      intro d
      change (options.adapter.devices s').get? d = _
      rw [h, OrderedMap.get?_set]
      rfl
    refine ⟨fun hkeyed d r hr => ?_, fun d hd => ?_⟩
    · rw [hget] at hr
      by_cases hid : d = row.deviceId
      · rw [if_pos hid, Option.some.injEq] at hr
        rw [← hr, hid]
      · rw [if_neg hid] at hr
        exact hkeyed d r hr
    · rw [hget]
      split
      · simp
      · exact hd
  cases h with
  | refused | found => exact ⟨id, fun _ => id⟩
  | createRefused _ _ s' h | pruned _ _ s' h =>
    rw [hsame _ h.devices]
    exact ⟨id, fun _ => id⟩
  | created _ _ s' _ _ _ _ hdevices | claimExpired _ _ _ _ _ s' _ _ _ _ _ hdevices
  | left _ _ _ _ s' _ _ _ _ hdevices | expired _ _ _ s' _ hdevices =>
    rw [hsame _ hdevices]
    exact ⟨id, fun _ => id⟩
  | claimed _ _ _ _ _ row s' _ _ _ _ _ _ _ hdevices | deviceCreated _ _ row s' _ _ hdevices =>
    exact hadd _ row hdevices

theorem TaskStep.sound {now : ℤ} {draw : Draw} {task : Task} {stores : Stores}
    {out : CompletionStep × Stores} (h : TaskStep options now draw task stores out)
    (hs : stores.Sound) : out.2.Sound ∧ out.2.pairing = stores.pairing := by
  cases h with
  | issued k record _ _ _ h => exact ⟨⟨hs.devices, h.recordsValid hs.credentials⟩, rfl⟩
  | rotated _ _ _ record _ k _ _ _ _ _ h => exact ⟨⟨hs.devices, h.recordsValid hs.credentials⟩, rfl⟩
  | _ => exact ⟨⟨hs.devices, hs.credentials⟩, rfl⟩

theorem sound_withPairing {w : World} (hs : w.Sound options) {c : Pairing.Call}
    {out : Pairing.Outcome × MemoryStore}
    (h : options.adapter.CallOutcome w.stores.pairing c out) :
    (w.withPairing out.2).Sound options where
  stores := ⟨(pairingOutcome_devices h).1 hs.stores.devices, hs.stores.credentials⟩
  pairings := h.recordsValid hs.pairings

theorem CallStep.sound {source : DeviceSource} {w w' : World} {i : ℕ} {call : Call}
    (h : CallStep options source w i call w') (hs : w.Sound options) : w'.Sound options := by
  have hsame : ∀ s, s = w.stores.pairing → (w.withPairing s).Sound options := by
    rintro s rfl
    exact hs
  cases h with
  | claimed _ _ _ _ _ s houtcome =>
    obtain ⟨h, hp⟩ := sound_withPairing hs houtcome
    exact ⟨h, hp⟩
  | claimRefused _ _ _ s houtcome =>
    rcases houtcome with rfl | ⟨_, _, houtcome⟩
    · exact ⟨hs.stores, hs.pairings⟩
    · obtain ⟨h, hp⟩ := sound_withPairing hs houtcome
      exact ⟨h, hp⟩
  | _ => exact ⟨⟨hs.stores.devices, hs.stores.credentials⟩, hs.pairings⟩

/-- The records stay valid, whatever happens. -/
theorem sound_step (w : World) (e : Event) (hs : w.Sound options) :
    (w.step options e).Sound options := by
  cases e with
  | call i source =>
    simp only [World.step]
    cases w.calls[i]? with
    | none => exact hs
    | some call => exact (callStep source i hs call).sound hs
  | task j draw =>
    simp only [World.step]
    cases w.tasks[j]? with
    | none => exact hs
    | some task =>
      obtain ⟨hstores, hpairing⟩ := (taskStep options w.now draw task hs.stores).sound hs.stores
      exact ⟨hstores, by rw [hpairing]; exact hs.pairings⟩
  | credential call =>
    have h := InMemoryDeviceCredentialRepository.contract w.stores.credentials call
      hs.stores.credentials
    exact ⟨⟨hs.stores.devices, h.recordsValid hs.stores.credentials⟩, hs.pairings⟩
  | pairing call =>
    exact sound_withPairing hs (InMemoryPairingSessionRepository.contract options.pairings _ call
      hs.pairings)
  | _ => exact ⟨hs.stores, hs.pairings⟩

theorem sound_init (now : ℤ) : (World.init now).Sound options where
  stores := ⟨fun _ _ h => (nomatch h), fun _ _ h => (nomatch h)⟩
  pairings := fun _ _ h => nomatch h

/-! ## A device belongs to one session -/

/-- The session and device that a call has in hand. -/
def Call.link : Call → Option (PairingSessionId × DeviceId)
  | .claimTransfer _ session device | .claimComplete session device
  | .resumePersisted _ session device | .resumeComplete _ session device =>
    some (session.pairingSessionId, device.deviceId)
  | .resumeDevice _ _ session d => some (session.pairingSessionId, d)
  | _ => none

def Task.link (task : Task) : PairingSessionId × DeviceId :=
  (task.session.pairingSessionId, task.device.deviceId)

namespace World

/-- Something in the world names the session `p` together with the device `d`. -/
inductive Links (options : ServiceOptions) (w : World) (p : PairingSessionId) (d : DeviceId) : Prop
  | session (r : StoredPairingSession)
      (hstored : options.adapter.stored w.stores.pairing p = some r) (hdevice : r.deviceId = some d)
  | call (call : Call) (hmem : call ∈ w.calls) (hlink : call.link = some (p, d))
  | task (task : Task) (hmem : task ∈ w.tasks) (hlink : task.link = (p, d))

def Known (w : World) (d : DeviceId) : Prop := w.stores.pairing.devices.records.get? d ≠ none

structure Linked (options : ServiceOptions) (w : World) : Prop where
  known : ∀ p d, Links options w p d → w.Known d
  unique : ∀ p q d, Links options w p d → Links options w q d → p = q

/-- The links of `w'` are those of `w`, and at most the one of a device that it created. -/
structure Extends (options : ServiceOptions) (w w' : World)
    (new : Option (PairingSessionId × DeviceId)) : Prop where
  links : ∀ p d, Links options w' p d → Links options w p d ∨ new = some (p, d)
  known : ∀ d, w.Known d → w'.Known d
  fresh : ∀ p d, new = some (p, d) → ¬ w.Known d ∧ w'.Known d

theorem Extends.linked {w w' : World} {new : Option (PairingSessionId × DeviceId)}
    (h : Extends options w w' new) (hl : Linked options w) : Linked options w' where
  known p d hp := (h.links p d hp).elim (fun h' => h.known d (hl.known p d h'))
    fun hnew => (h.fresh p d hnew).2
  unique p q d hp hq := by
    rcases h.links p d hp with hp | hp <;> rcases h.links q d hq with hq | hq
    · exact hl.unique p q d hp hq
    · exact absurd (hl.known p d hp) (h.fresh q d hq).1
    · exact absurd (hl.known q d hq) (h.fresh p d hp).1
    · rw [hp, Option.some.injEq, Prod.mk.injEq] at hq
      exact hq.1

/-- A step that creates no device and invents no link. -/
theorem Extends.of_links {w w' : World}
    (hlinks : ∀ p d, Links options w' p d → Links options w p d)
    (hknown : ∀ d, w.Known d → w'.Known d) : Extends options w w' none where
  links p d h := .inl (hlinks p d h)
  known := hknown
  fresh _ _ h := nomatch h

/-- Calls and promises that were there, or whose links were, in an unchanged repository. -/
theorem links_of_same {w w' : World} (hpairing : w'.stores.pairing = w.stores.pairing)
    (hcalls : ∀ call ∈ w'.calls, call ∈ w.calls ∨ ∀ p d, call.link = some (p, d) →
      Links options w p d)
    (htasks : ∀ task ∈ w'.tasks, (∃ task' ∈ w.tasks, task'.link = task.link) ∨
      ∀ p d, task.link = (p, d) → Links options w p d)
    (p : PairingSessionId) (d : DeviceId) (h : Links options w' p d) : Links options w p d := by
  cases h with
  | session r hstored hdevice =>
    rw [hpairing] at hstored
    exact .session r hstored hdevice
  | call call hmem hlink =>
    rcases hcalls call hmem with h | h
    · exact .call call h hlink
    · exact h p d hlink
  | task task hmem hlink =>
    rcases htasks task hmem with ⟨task', h, heq⟩ | h
    · exact .task task' h (heq.trans hlink)
    · exact h p d hlink

theorem mem_setCall {w : World} {i : ℕ} {call c : Call} (h : c ∈ (w.setCall i call).calls) :
    c ∈ w.calls ∨ c = call := List.mem_or_eq_of_mem_set h

end World

/-- A pairing call adds at most the link of the device that it created. -/
theorem pairingOutcome_extends {w : World} (hs : w.Sound options) {c : Pairing.Call}
    {out : Pairing.Outcome × MemoryStore}
    (h : options.adapter.CallOutcome w.stores.pairing c out) (w' : World)
    (hpairing : w'.stores.pairing = out.2)
    (hcalls : ∀ call ∈ w'.calls, call ∈ w.calls ∨ ∀ p d, call.link = some (p, d) →
      claimedSession (c, out.1) = some p ∧ createdDevice (c, out.1) = some d)
    (htasks : w'.tasks = w.tasks) :
    ∃ new, World.Extends options w w' new := by
  have hdevices := h.devices
  have hknown : ∀ d, w.Known d → w'.Known d := by
    intro d hd
    rw [World.Known, hpairing]
    exact (pairingOutcome_devices h).2 d hd
  have hlinks : ∀ p d, World.Links options w' p d → World.Links options w p d ∨
      (claimedSession (c, out.1) = some p ∧ createdDevice (c, out.1) = some d) := by
    intro p d hp
    cases hp with
    | session r hstored hdevice =>
      rw [hpairing] at hstored
      rcases h.device_origin hs.pairings hstored hdevice with ⟨r0, hr0, hd0⟩ | ⟨hd, hp⟩
      · exact .inl (.session r0 hr0 hd0)
      · exact .inr ⟨hp, hd⟩
    | call call hmem hlink =>
      rcases hcalls call hmem with hmem | hnew
      · exact .inl (.call call hmem hlink)
      · exact .inr (hnew p d hlink)
    | task task hmem hlink =>
      rw [htasks] at hmem
      exact .inl (.task task hmem hlink)
  refine ⟨(claimedSession (c, out.1)).bind fun p => (createdDevice (c, out.1)).map fun d => (p, d),
    fun p d hp => (hlinks p d hp).imp_right fun ⟨hp, hd⟩ => by rw [hp, hd]; rfl, hknown, ?_⟩
  intro p d hnew
  obtain ⟨p', -, hnew⟩ := Option.bind_eq_some_iff.mp hnew
  obtain ⟨d', hd', heq⟩ := Option.map_eq_some_iff.mp hnew
  rw [Prod.mk.injEq] at heq
  obtain ⟨rfl, rfl⟩ := heq
  have hfresh := (hdevices d').2 hd'
  have hnow := (hdevices d').1.mpr (.inr hd')
  rw [OrderedMap.has_false_iff] at hfresh
  obtain ⟨row, hrow⟩ := (OrderedMap.has_iff _ _).mp hnow
  refine ⟨fun hk => hk hfresh, ?_⟩
  rw [World.Known, hpairing]
  exact fun hnone => Option.some_ne_none row (hrow.symm.trans hnone)

theorem CallStep.extends {source : DeviceSource} {w w' : World} {i : ℕ} {call : Call}
    (h : CallStep options source w i call w') (hs : w.Sound options) (hcall : call ∈ w.calls) :
    ∃ new, World.Extends options w w' new := by
  -- All but the claim leave the pairing repository and carry their link along.
  have hsame : ∀ w'' : World, w''.stores.pairing = w.stores.pairing →
      (∀ c ∈ w''.calls, c ∈ w.calls ∨ ∀ p d, c.link = some (p, d) →
        World.Links options w p d) →
      (∀ t ∈ w''.tasks, (∃ t' ∈ w.tasks, t'.link = t.link) ∨
        ∀ p d, t.link = (p, d) → World.Links options w p d) →
      ∃ new, World.Extends options w w'' new := fun w'' hpairing hcalls htasks =>
    ⟨none, .of_links (World.links_of_same hpairing hcalls htasks)
      fun d hd => by rw [World.Known, hpairing]; exact hd⟩
  have hold : ∀ t ∈ w.tasks, (∃ t' ∈ w.tasks, t'.link = t.link) ∨
      ∀ p d, t.link = (p, d) → World.Links options w p d := fun t ht => .inl ⟨t, ht, rfl⟩
  have hnext : ∀ (v : World) (next c : Call), v.calls = w.calls →
      (∀ p d, next.link = some (p, d) → World.Links options w p d) →
      c ∈ (v.setCall i next).calls → c ∈ w.calls ∨ ∀ p d, c.link = some (p, d) →
        World.Links options w p d := by
    intro v next c hv hlink hc
    rcases World.mem_setCall hc with hc | rfl
    · exact .inl (hv ▸ hc)
    · exact .inr hlink
  cases h with
  | idle => exact hsame w rfl (fun c hc => .inl hc) hold
  | claimed admissionId request input session device s houtcome =>
    exact pairingOutcome_extends hs houtcome _ rfl (fun c hc => (World.mem_setCall hc).imp_right
      fun heq p d hlink => by
        subst heq
        obtain ⟨rfl, rfl⟩ := Prod.mk.inj (Option.some.inj hlink)
        exact ⟨rfl, rfl⟩) rfl
  | claimRefused admissionId request error s houtcome =>
    rcases houtcome with rfl | ⟨input, e, houtcome⟩
    · exact hsame _ rfl (fun c => hnext _ _ c rfl fun _ _ h => (nomatch h)) hold
    · exact pairingOutcome_extends hs houtcome _ rfl (fun c hc => (World.mem_setCall hc).imp_right
        fun heq p d hlink => by
          subst heq
          exact (nomatch hlink)) rfl
  | foundSession id ownerId p session d hid hsession =>
    refine hsame _ rfl (fun c => hnext _ _ c rfl fun q d' hlink => ?_) hold
    obtain ⟨rfl, rfl⟩ := Prod.mk.inj (Option.some.inj hlink)
    obtain ⟨r, hstored, -, hdevice, -⟩ := hsession.stored
    rw [hsession.id]
    exact .session r hstored hdevice
  | foundDevice id ownerId session d device hdevice _ =>
    refine hsame _ rfl (fun c => hnext _ _ c rfl fun q d' hlink => ?_) hold
    exact .call _ hcall (by rw [← hlink, ← hdevice]; rfl)
  | transferred _ session device | undelivered _ session device =>
    exact hsame _ rfl (fun c => hnext _ _ c rfl fun q d' hlink => .call _ hcall hlink) hold
  | claimCreated session device | resumeCreated _ session device =>
    refine hsame _ rfl (fun c => hnext _ _ c rfl fun _ _ h => (nomatch h)) fun t ht => ?_
    rcases List.mem_append.mp ht with ht | ht
    · exact hold t ht
    · obtain rfl := List.mem_singleton.mp ht
      exact .inr fun q d' hlink => .call _ hcall (by rw [← hlink]; rfl)
  | completed | failed | acknowledgeFound | acknowledgeOwned | acknowledged | forgotCached | forgot
  | throws | admitted | dropped | transferRefused | claimJoined | resumeJoined =>
    exact hsame _ rfl (fun c => hnext _ _ c rfl fun _ _ h => (nomatch h)) hold

/-- Every event adds at most the link of a device that it created. -/
theorem extends_step (w : World) (e : Event) (hs : w.Sound options) :
    ∃ new, World.Extends options w (w.step options e) new := by
  have hsame : ∀ w' : World, w'.stores.pairing = w.stores.pairing →
      (∀ c ∈ w'.calls, c ∈ w.calls ∨ ∀ p d, c.link ≠ some (p, d)) →
      (∀ t ∈ w'.tasks, ∃ t' ∈ w.tasks, t'.link = t.link) → ∃ new, World.Extends options w w' new :=
    fun w' hpairing hcalls htasks => ⟨none, .of_links (World.links_of_same hpairing
      (fun c hc => (hcalls c hc).imp_right fun h p d hlink => absurd hlink (h p d))
      (fun t ht => .inl (htasks t ht))) fun d hd => by rw [World.Known, hpairing]; exact hd⟩
  have hstart : ∀ (v : World) (next c : Call), v.calls = w.calls → (∀ p d, next.link ≠ some (p, d)) →
      c ∈ (v.start next).calls → c ∈ w.calls ∨ ∀ p d, c.link ≠ some (p, d) := by
    intro v next c hv hlink hc
    rcases List.mem_append.mp hc with hc | hc
    · exact .inl (hv ▸ hc)
    · obtain rfl := List.mem_singleton.mp hc
      exact .inr hlink
  have hold : ∀ t ∈ w.tasks, ∃ t' ∈ w.tasks, t'.link = t.link := fun t ht => ⟨t, ht, rfl⟩
  cases e with
  | call i source =>
    simp only [World.step]
    cases hcall : w.calls[i]? with
    | none => exact hsame w rfl (fun c hc => .inl hc) hold
    | some call =>
      exact (callStep source i hs call).extends hs (List.mem_of_getElem? hcall)
  | task j draw =>
    simp only [World.step]
    cases htask : w.tasks[j]? with
    | none => exact hsame w rfl (fun c hc => .inl hc) hold
    | some task =>
      obtain ⟨-, hpairing⟩ := (taskStep options w.now draw task hs.stores).sound hs.stores
      refine hsame _ hpairing (fun c hc => .inl hc) fun t ht => ?_
      rcases List.mem_or_eq_of_mem_set ht with ht | rfl
      · exact hold t ht
      · exact ⟨task, List.mem_of_getElem? htask, rfl⟩
  | pairing call =>
    exact pairingOutcome_extends hs (InMemoryPairingSessionRepository.contract
      options.pairings _ call hs.pairings) (w.step options (.pairing call)) rfl
      (fun c hc => .inl hc) rfl
  | crash =>
    refine hsame _ rfl (fun c hc => ?_) fun t ht => ?_
    · obtain ⟨c', hc', rfl⟩ := List.mem_map.mp hc
      split
      · exact .inr fun _ _ h => (nomatch h)
      · exact .inl hc'
    · obtain ⟨t', ht', rfl⟩ := List.mem_map.mp ht
      refine ⟨t', ht', ?_⟩
      split <;> rfl
  | tick | credential => exact hsame _ rfl (fun c hc => .inl hc) hold
  | claimAndIssue | resumeClaimedPairing | acknowledgeDelivery =>
    exact hsame _ rfl (fun c => hstart _ _ c rfl fun _ _ h => (nomatch h)) hold
  | forgetPendingCompletion id preserve =>
    refine hsame _ rfl (fun c => hstart _ _ c rfl fun _ _ h => ?_) hold
    split at h <;> exact (nomatch h)

/-- No event links a device to a second session. -/
theorem linked_step (w : World) (e : Event) (hs : w.Sound options)
    (hl : World.Linked options w) : World.Linked options (w.step options e) :=
  (extends_step w e hs).elim fun _ h => h.linked hl

/-- The session of a device stays its only one. -/
theorem owner_step (w : World) (e : Event) (hs : w.Sound options) {p : PairingSessionId}
    {d : DeviceId} (hknown : w.Known d) (howner : ∀ q, World.Links options w q d → q = p) :
    (w.step options e).Known d ∧ ∀ q, World.Links options (w.step options e) q d → q = p := by
  obtain ⟨new, h⟩ := extends_step w e hs
  refine ⟨h.known d hknown, fun q hq => ?_⟩
  rcases h.links q d hq with hq | hnew
  · exact howner q hq
  · exact absurd hknown (h.fresh q d hnew).1

theorem linked_init (now : ℤ) : World.Linked options (World.init now) where
  known p d h := by
    cases h with
    | session r hstored => exact (nomatch hstored)
    | call c hmem => exact (nomatch hmem)
    | task t hmem => exact (nomatch hmem)
  unique p q d h := by
    cases h with
    | session r hstored => exact (nomatch hstored)
    | call c hmem => exact (nomatch hmem)
    | task t hmem => exact (nomatch hmem)

/-! ## The ids in records are credential ids -/

/-- The record is stored under its own session and names its generations by parsed ids. -/
structure CompletionRecord.WellFormed (r : CompletionRecord) (id : String) : Prop where
  key : r.pairingSessionId = id
  credentialId : ∃ u : CredentialId, r.credentialId = u.value
  target : ∀ t ∈ r.recoveryTargetCredentialId, ∃ u : CredentialId, t = u.value

/-- The record a recovery works on. -/
structure CompletionRecord.Recovers (r : CompletionRecord) (id : String) : Prop
    extends r.WellFormed id where
  state : r.state = .recovering
  reserved : ∃ u : CredentialId, r.recoveryTargetCredentialId = some u.value

/-- What the variables of an await hold. -/
def CompletionStep.WellFormed (id : String) : CompletionStep → Prop
  | .beginRecovery sourceId _ => ∃ u : CredentialId, sourceId = u.value
  | .readActive _ r | .advanceRecovery _ r _ | .rotate _ r | .finishRecovery _ r _ => r.Recovers id
  | _ => True

theorem nextIteration_wellFormed (n : ℕ) (id : String) : (nextIteration n).WellFormed id := by
  unfold nextIteration
  split <;> trivial

theorem nextIteration_cases (n : ℕ) :
    nextIteration n = .readRecovery (n + 1) ∨ nextIteration n = .unavailable := by
  unfold nextIteration
  split
  · exact .inl rfl
  · exact .inr rfl

theorem TaskStep.wellFormed {now : ℤ} {draw : Draw} {task : Task} {stores : Stores}
    {out : CompletionStep × Stores} (h : TaskStep options now draw task stores out)
    (hrecords : ∀ id r, stores.record now id = some r → r.WellFormed id)
    (htask : task.step.WellFormed task.key) :
    (∀ id r, out.2.record now id = some r → r.WellFormed id) ∧ out.1.WellFormed task.key := by
  have hkeep : ∀ c, Kept now stores.completions c →
      ∀ id r, live now c id = some r → r.WellFormed id := by
    intro c hkept id r hr
    rw [hkept now (Int.le_refl now)] at hr
    exact hrecords id r hr
  have hstore : ∀ (record : CompletionRecord) c,
      Stored options.completions now record stores.completions c →
      record.WellFormed record.pairingSessionId →
      ∀ id r, live now c id = some r → r.WellFormed id := by
    intro record c hstored hrecord id r hr
    by_cases hid : id = record.pairingSessionId
    · subst hid
      rw [hstored.live_self, Option.some.injEq] at hr
      exact hr ▸ hrecord
    · rw [hstored now (Int.le_refl now), if_neg hid] at hr
      exact hrecords id r hr
  cases h with
  | throws _ c hkept => exact ⟨hkeep c hkept, trivial⟩
  | admitted c _ _ _ hkept | foundRecovering c _ _ _ _ _ hkept | reserved c _ hkept
  | alreadyPending _ c _ _ _ hkept | begunFound _ _ _ c _ _ _ hkept =>
    exact ⟨hkeep c hkept, trivial⟩
  | foundPending c persisted _ _ hread _ hkept =>
    exact ⟨hkeep c hkept, (hrecords _ _ hread).credentialId⟩
  | issued | alreadyExists | issueThrown | confirmed => exact ⟨hrecords, trivial⟩
  | dropped _ c _ hdeleted =>
    refine ⟨fun id r hr => ?_, trivial⟩
    rw [Stores.record, hdeleted] at hr
    split at hr
    · cases hr
    · exact hrecords id r hr
  | pending issued c record _ _ hrecord hstored =>
    subst hrecord
    exact ⟨hstore _ c hstored ⟨rfl, ⟨_, rfl⟩, fun _ h => (by cases h)⟩, trivial⟩
  | source current => exact ⟨hrecords, ⟨_, rfl⟩⟩
  | begun sourceId v c hstep _ hstored =>
    rw [hstep] at htask
    exact ⟨hstore _ c hstored ⟨rfl, htask, fun t ht => ⟨_, (Option.mem_some_iff.mp ht).symm⟩⟩,
      trivial⟩
  | begunPending sourceId v existing c _ hread _ _ hstored =>
    exact ⟨hstore _ c hstored ⟨rfl, (hrecords _ _ hread).credentialId,
      fun t ht => ⟨_, (Option.mem_some_iff.mp ht).symm⟩⟩, trivial⟩
  | read n recovery target c _ hread hstate htarget hkept =>
    have hwf := hrecords _ _ hread
    obtain ⟨u, rfl⟩ := hwf.target target htarget
    exact ⟨hkeep c hkept, ⟨hwf, hstate, u, htarget⟩⟩
  | active n recovery current hstep | advances n recovery current hstep =>
    rw [hstep] at htask
    exact ⟨hrecords, htask⟩
  | advanced n _ _ active c _ _ _ hstored =>
    exact ⟨hstore _ c hstored ⟨rfl, ⟨active.credentialId, rfl⟩,
      fun t ht => ⟨_, (Option.mem_some_iff.mp ht).symm⟩⟩, nextIteration_wellFormed n _⟩
  | advanceRefused n _ _ c _ hkept | finishRefused n _ _ c _ hkept =>
    exact ⟨hkeep c hkept, nextIteration_wellFormed n _⟩
  | rotated n recovery _ _ _ _ next hstep _ _ _ _ hnext =>
    rw [hstep] at htask
    rcases hnext with rfl | ⟨-, rfl⟩
    · exact ⟨hrecords, htask⟩
    · exact ⟨hrecords, trivial⟩
  | stale n => exact ⟨hrecords, nextIteration_wellFormed n _⟩
  | finished n recovery _ issued c _ _ _ hstored =>
    exact ⟨hstore _ c hstored ⟨rfl, ⟨issued.credential.credentialId, rfl⟩,
      fun _ h => (by cases h)⟩, trivial⟩
  | idle hstep => exact ⟨hrecords, htask⟩

/-- Every unexpired record is well-formed. -/
def World.RecordsWellFormed (w : World) : Prop :=
  ∀ id r, w.record id = some r → r.WellFormed id

theorem CallStep.recordsWellFormed {source : DeviceSource} {w w' : World} {i : ℕ} {call : Call}
    (h : CallStep options source w i call w') (hr : w.RecordsWellFormed) :
    w'.RecordsWellFormed := by
  have hkeep : ∀ c, Kept w.now w.stores.completions c →
      ∀ id r, live w.now c id = some r → r.WellFormed id := by
    intro c hkept id r h
    rw [hkept w.now (Int.le_refl _)] at h
    exact hr id r h
  have hdelete : ∀ key c, Deleted key w.stores.completions c →
      ∀ id r, live w.now c id = some r → r.WellFormed id := by
    intro key c hdeleted id r h
    rw [hdeleted] at h
    split at h
    · cases h
    · exact hr id r h
  cases h with
  | throws _ _ c _ hkept | admitted _ _ c hkept | transferred _ _ _ c hkept
  | transferRefused _ _ _ c hkept | undelivered _ _ _ c _ hkept => exact hkeep c hkept
  | dropped key _ c hdeleted | forgot key c hdeleted => exact hdelete key c hdeleted
  | acknowledged input device existing c hread _ _ hstate =>
    rcases hstate with ⟨-, hkept⟩ | ⟨-, hstored⟩
    · exact hkeep c hkept
    · obtain ⟨hkey, hid, htarget⟩ := hr _ _ hread
      intro id r h
      change live w.now c id = some r at h
      rw [hstored w.now (Int.le_refl _)] at h
      split at h
      · next heq =>
        split at h
        · cases h
          exact ⟨heq.symm, hid, htarget⟩
        · cases h
      · exact hr id r h
  | _ => exact hr

theorem CallStep.tasks {source : DeviceSource} {w w' : World} {i : ℕ} {call : Call}
    (h : CallStep options source w i call w') :
    w'.tasks = w.tasks ∨ ∃ task, task.step = .readPersisted ∧ w'.tasks = w.tasks ++ [task] := by
  cases h with
  | claimCreated | resumeCreated => exact .inr ⟨_, rfl, rfl⟩
  | _ => exact .inl rfl

/-- The invariants that need no assumption about the events. -/
structure World.Good (options : ServiceOptions) (w : World) : Prop where
  sound : w.Sound options
  linked : World.Linked options w
  records : w.RecordsWellFormed
  tasks : ∀ t ∈ w.tasks, t.step.WellFormed t.key

theorem World.record_tick {w : World} {ms : ℕ} {id : String} {r : CompletionRecord}
    (h : (w.step options (.tick ms)).record id = some r) : w.record id = some r :=
  live_mono (by have : (0 : ℤ) ≤ ms := Int.natCast_nonneg ms; simp only [World.step]; omega) h

theorem good_step (w : World) (e : Event) (h : World.Good options w) :
    World.Good options (w.step options e) := by
  refine ⟨sound_step w e h.sound, linked_step w e h.sound h.linked, ?_, ?_⟩
  · cases e with
    | tick ms => exact fun id r hr => h.records id r (World.record_tick hr)
    | call i source =>
      simp only [World.step]
      cases w.calls[i]? with
      | none => exact h.records
      | some call => exact (callStep source i h.sound call).recordsWellFormed h.records
    | task j draw =>
      simp only [World.step]
      cases htask : w.tasks[j]? with
      | none => exact h.records
      | some task =>
        exact ((taskStep options w.now draw task h.sound.stores).wellFormed h.records
          (h.tasks task (List.mem_of_getElem? htask))).1
    | _ => exact h.records
  · cases e with
    | call i source =>
      simp only [World.step]
      cases w.calls[i]? with
      | none => exact h.tasks
      | some call =>
        intro t ht
        rcases (callStep source i h.sound call).tasks with heq | ⟨t', hstep, heq⟩
        · exact h.tasks t (heq ▸ ht)
        · rw [heq, List.mem_append, List.mem_singleton] at ht
          rcases ht with ht | rfl
          · exact h.tasks t ht
          · rw [hstep]
            trivial
    | task j draw =>
      simp only [World.step]
      cases htask : w.tasks[j]? with
      | none => exact h.tasks
      | some task =>
        intro t ht
        rcases List.mem_or_eq_of_mem_set ht with ht | rfl
        · exact h.tasks t ht
        · exact ((taskStep options w.now draw task h.sound.stores).wellFormed h.records
            (h.tasks task (List.mem_of_getElem? htask))).2
    | crash =>
      intro t ht
      obtain ⟨t', ht', rfl⟩ := List.mem_map.mp ht
      split
      · trivial
      · exact h.tasks t' ht'
    | _ => exact h.tasks

theorem good_init (now : ℤ) : World.Good options (World.init now) where
  sound := sound_init now
  linked := linked_init now
  records _ _ h := (nomatch h)
  tasks _ h := (nomatch h)

/-- Every reachable world is good. -/
theorem good_run (now : ℤ) (es : List Event) :
    World.Good options (runFrom (World.step options) (World.init now) es) :=
  runFrom_invariant good_step (good_init now) es

end Doctmcp.Completion
