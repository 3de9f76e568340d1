import Doctmcp.Completion.Service

/-! # What a step of a completion can do

`TaskStep` lists, for every await of `#complete` and `#recover`, where the promise goes next and
what becomes of the record of its session and of the generation of its device. Everything later
modules say about a promise is read off this list. -/

namespace Doctmcp.Completion
open Doctmcp.Lib Doctmcp.Lib.Operation Doctmcp.Schemas Doctmcp.Device Doctmcp.Pairing
open Doctmcp.Credential CompletionRepository
open DeviceCredentialService (DevicesKeyed Expects nextGeneration issue_outcome rotate_outcome
  exec_getActive_service IssueOutcome RotateOutcome)
open InMemoryDeviceCredentialRepository (adapter)
set_option autoImplicit false

/-- What the repositories guarantee about their own records. -/
structure Stores.Sound (stores : Stores) : Prop where
  devices : DevicesKeyed stores.pairing.devices
  credentials : adapter.RecordsValid stores.credentials

section
variable (options : ServiceOptions) (now : ℤ) (draw : Draw) (task : Task) (stores : Stores)

/-- The unexpired record of the session. -/
def Stores.record (id : String) : Option CompletionRecord := live now stores.completions id

/-- The active generation of a device. -/
def Stores.active (d : DeviceId) : Option StoredCredential := adapter.active stores.credentials d

/-- What one step of a promise can do. -/
inductive TaskStep : CompletionStep × Stores → Prop
  | throws (error : JsError) (c : CompletionRepository) (hkept : Kept now stores.completions c) :
      TaskStep (.throws error, { stores with completions := c })
  | admitted (c : CompletionRepository) (hstep : task.step = .readPersisted)
      (hread : stores.record now task.key = none ∨ task.recoverExisting = false)
      (hstate : ∀ r ∈ stores.record now task.key, r.state ≠ .delivered)
      (hkept : Kept now stores.completions c) :
      TaskStep (.reserve, { stores with completions := c })
  | foundRecovering (c : CompletionRepository) (persisted : CompletionRecord)
      (hstep : task.step = .readPersisted) (hrecover : task.recoverExisting = true)
      (hread : stores.record now task.key = some persisted) (hstate : persisted.state = .recovering)
      (hkept : Kept now stores.completions c) :
      TaskStep (.readRecovery 0, { stores with completions := c })
  | foundPending (c : CompletionRepository) (persisted : CompletionRecord)
      (hstep : task.step = .readPersisted) (hrecover : task.recoverExisting = true)
      (hread : stores.record now task.key = some persisted) (hstate : persisted.state = .pending)
      (hkept : Kept now stores.completions c) :
      TaskStep (.beginRecovery persisted.credentialId persisted.credentialVersion,
        { stores with completions := c })
  | reserved (c : CompletionRepository) (hstep : task.step = .reserve)
      (hkept : Kept now stores.completions c) :
      TaskStep (.issue, { stores with completions := c })
  | issued (k : InMemoryDeviceCredentialRepository) (record : StoredCredential)
      (hstep : task.step = .issue)
      (hrecord : record = nextGeneration task.device.deviceId
        (adapter.version stores.credentials task.device.deviceId) draw.credentialId draw.secret now)
      (hvacant : stores.active task.device.deviceId = none)
      (h : adapter.Installs stores.credentials record k) :
      TaskStep (.setPending ⟨record.toCredential, draw.secret⟩, { stores with credentials := k })
  | alreadyExists (hstep : task.step = .issue) (hrecover : task.recoverExisting = true)
      (hactive : stores.active task.device.deviceId ≠ none) : TaskStep (.readSource, stores)
  | issueThrown (error : JsError) (hstep : task.step = .issue) :
      TaskStep (.dropReservation error, stores)
  | dropped (error : JsError) (c : CompletionRepository) (hstep : task.step = .dropReservation error)
      (hdeleted : ∀ later id, live later c id =
        if id = task.key then none else live later stores.completions id) :
      TaskStep (.throws error, { stores with completions := c })
  | pending (issued : IssuedDeviceCredential) (c : CompletionRepository)
      (record : CompletionRecord) (hstep : task.step = .setPending issued)
      (hread : stores.record now task.key = none)
      (hrecord : record = pendingRecord (generationInput task issued.credential.credentialId.value
        issued.credential.version))
      (hstored : Stored options.completions now record stores.completions c) :
      TaskStep (.settled (.ok issued), { stores with completions := c })
  | alreadyPending (issued : IssuedDeviceCredential) (c : CompletionRepository)
      (record : CompletionRecord) (hstep : task.step = .setPending issued)
      (hread : stores.record now task.key = some record)
      (hkept : Kept now stores.completions c) :
      TaskStep (.settled (.ok issued), { stores with completions := c })
  | source (current : StoredCredential) (hstep : task.step = .readSource)
      (hactive : stores.active task.device.deviceId = some current) :
      TaskStep (.beginRecovery current.credentialId.value current.version, stores)
  | begun (sourceId : String) (sourceVersion : ℕ) (c : CompletionRepository)
      (hstep : task.step = .beginRecovery sourceId sourceVersion)
      (hread : stores.record now task.key = none)
      (hstored : Stored options.completions now (recoveringRecord (generationInput task sourceId
        sourceVersion) sourceId sourceVersion draw.credentialId.value) stores.completions c) :
      TaskStep (.readRecovery 0, { stores with completions := c })
  | begunPending (sourceId : String) (sourceVersion : ℕ) (existing : CompletionRecord)
      (c : CompletionRepository) (hstep : task.step = .beginRecovery sourceId sourceVersion)
      (hread : stores.record now task.key = some existing) (hstate : existing.state = .pending)
      (hdevice : existing.deviceId = task.device.deviceId.value)
      (hstored : Stored options.completions now (recoveringRecord (generationInput task sourceId
        sourceVersion) existing.credentialId existing.credentialVersion draw.credentialId.value)
        stores.completions c) :
      TaskStep (.readRecovery 0, { stores with completions := c })
  | begunFound (sourceId : String) (sourceVersion : ℕ) (existing : CompletionRecord)
      (c : CompletionRepository) (hstep : task.step = .beginRecovery sourceId sourceVersion)
      (hread : stores.record now task.key = some existing) (hstate : existing.state = .recovering)
      (hkept : Kept now stores.completions c) :
      TaskStep (.readRecovery 0, { stores with completions := c })
  | read (n : ℕ) (recovery : CompletionRecord) (target : String) (c : CompletionRepository)
      (hstep : task.step = .readRecovery n) (hread : stores.record now task.key = some recovery)
      (hstate : recovery.state = .recovering)
      (htarget : recovery.recoveryTargetCredentialId = some target)
      (hkept : Kept now stores.completions c) :
      TaskStep (.readActive n recovery, { stores with completions := c })
  | active (n : ℕ) (recovery : CompletionRecord) (current : StoredCredential)
      (hstep : task.step = .readActive n recovery)
      (hactive : stores.active task.device.deviceId = some current)
      (hid : recovery.credentialId = current.credentialId.value)
      (hversion : recovery.credentialVersion = current.version) :
      TaskStep (.rotate n recovery, stores)
  | advances (n : ℕ) (recovery : CompletionRecord) (current : StoredCredential)
      (hstep : task.step = .readActive n recovery)
      (hactive : stores.active task.device.deviceId = some current)
      (hreserved : recovery.isReservedRecoveryTarget current.credentialId.value current.version) :
      TaskStep (.advanceRecovery n recovery current.toCredential, stores)
  | advanced (n : ℕ) (recovery existing : CompletionRecord) (active : DeviceCredential)
      (c : CompletionRepository) (hstep : task.step = .advanceRecovery n recovery active)
      (hread : stores.record now task.key = some existing)
      (hmatches : (recoveryStepInput task.key task.device.deviceId.value recovery active).matches
        existing)
      (hstored : Stored options.completions now (advancedRecord (recoveryStepInput task.key
        task.device.deviceId.value recovery active) draw.credentialId.value)
        stores.completions c) :
      TaskStep (nextIteration n, { stores with completions := c })
  | advanceRefused (n : ℕ) (recovery : CompletionRecord) (active : DeviceCredential)
      (c : CompletionRepository) (hstep : task.step = .advanceRecovery n recovery active)
      (hkept : Kept now stores.completions c) :
      TaskStep (nextIteration n, { stores with completions := c })
  | rotated (n : ℕ) (recovery : CompletionRecord) (current record : StoredCredential)
      (id : CredentialId) (k : InMemoryDeviceCredentialRepository) (next : CompletionStep)
      (hstep : task.step = .rotate n recovery)
      (hexpected : Expects stores.credentials task.device.deviceId recovery.credentialId
        recovery.credentialVersion current)
      (hid : deviceCredentialIdSchema (recovery.recoveryTargetCredentialId.getD "") = some id)
      (hrecord : record = nextGeneration task.device.deviceId current.version id draw.secret now)
      (h : adapter.Installs stores.credentials record k)
      (hnext : next = .finishRecovery n recovery ⟨record.toCredential, draw.secret⟩ ∨
        ¬ recovery.isReservedRecoveryTarget record.credentialId.value record.version ∧
          next = .unavailable) :
      TaskStep (next, { stores with credentials := k })
  | stale (n : ℕ) (recovery : CompletionRecord) (hstep : task.step = .rotate n recovery)
      (hstale : ∀ c, ¬ Expects stores.credentials task.device.deviceId recovery.credentialId
        recovery.credentialVersion c) :
      TaskStep (nextIteration n, stores)
  | finished (n : ℕ) (recovery existing : CompletionRecord) (issued : IssuedDeviceCredential)
      (c : CompletionRepository) (hstep : task.step = .finishRecovery n recovery issued)
      (hread : stores.record now recovery.pairingSessionId = some existing)
      (hmatches : (recoveryStepInput recovery.pairingSessionId recovery.deviceId recovery
        issued.credential).matches existing)
      (hstored : Stored options.completions now (finishedRecord (recoveryStepInput
        recovery.pairingSessionId recovery.deviceId recovery issued.credential))
        stores.completions c) :
      TaskStep (.confirm issued, { stores with completions := c })
  | finishRefused (n : ℕ) (recovery : CompletionRecord) (issued : IssuedDeviceCredential)
      (c : CompletionRepository) (hstep : task.step = .finishRecovery n recovery issued)
      (hkept : Kept now stores.completions c) :
      TaskStep (nextIteration n, { stores with completions := c })
  | confirmed (issued : IssuedDeviceCredential) (current : StoredCredential)
      (hstep : task.step = .confirm issued)
      (hactive : stores.active task.device.deviceId = some current)
      (hid : current.credentialId = issued.credential.credentialId)
      (hversion : current.version = issued.credential.version) :
      TaskStep (.settled (.ok issued), stores)
  | idle (hstep : task.step.isRunning = false) : TaskStep (task.step, stores)

variable {options now draw task stores}

theorem awaitCompletions_eq {α : Type} {op : Operation CompletionRepository JsError α} {a : α}
    {c : CompletionRepository} (h : exec op stores.completions = (.ok a, c))
    (next : α → CompletionStep) :
    awaitCompletions stores op next = (next a, { stores with completions := c }) := by
  rw [awaitCompletions, h]

theorem recoveringTo_some {record : Option CompletionRecord} {r : CompletionRecord}
    {target : String} (h : recoveringTo record = some (r, target)) :
    record = some r ∧ r.state = .recovering ∧ r.recoveryTargetCredentialId = some target ∧
      target ≠ "" := by
  unfold recoveringTo at h
  split at h
  · split at h
    · split at h
      · next hr =>
        simp only [Option.some.injEq, Prod.mk.injEq] at h
        obtain ⟨rfl, rfl⟩ := h
        exact ⟨rfl, hr.1, ‹_›, hr.2⟩
      · cases h
    · cases h
  · cases h

/-- `#getActiveOrNull`: it throws, or goes on with the active generation of the device. -/
theorem awaitActive_cases (hs : stores.Sound) {next : Option DeviceCredential → CompletionStep}
    {P : CompletionStep × Stores → Prop} (hthrows : ∀ error, P (.throws error, stores))
    (hnone : stores.active task.device.deviceId = none → P (next none, stores))
    (hsome : ∀ current, stores.active task.device.deviceId = some current →
      P (next (some current.toCredential), stores)) :
    P (awaitActive task stores next) := by
  unfold awaitActive awaitCredentials
  by_cases hdevice : DeviceCredentialService.Unknown stores.pairing.devices task.device.deviceId
  · rw [DeviceCredentialService.exec_getActive_unknown hdevice]
    exact hthrows _
  · rw [exec_getActive_service hs.devices hs.credentials hdevice]
    cases hactive : adapter.active stores.credentials task.device.deviceId with
    | none => exact hnone hactive
    | some current => exact hsome current hactive

theorem stepTask_readPersisted (hstep : task.step = .readPersisted) :
    TaskStep options now draw task stores (stepTask options now draw task stores) := by
  unfold stepTask
  rw [hstep]
  dsimp only
  rw [awaitCompletions_eq (exec_get now task.key stores.completions)]
  have hkept := kept_pruned now stores.completions
  cases hread : live now stores.completions task.key with
  | none => exact .admitted _ hstep (.inl hread) (fun r hr => by simp [Stores.record, hread] at hr) hkept
  | some persisted =>
    dsimp only
    by_cases hdelivered : persisted.state = .delivered
    · rw [if_pos hdelivered]
      exact .throws _ _ hkept
    rw [if_neg hdelivered]
    by_cases hrecover : task.recoverExisting = true
    · rw [if_pos hrecover]
      unfold recover
      by_cases hstate : persisted.state = .recovering
      · rw [if_pos hstate]
        split
        · exact .foundRecovering _ persisted hstep hrecover hread hstate hkept
        · exact .throws _ _ hkept
      · rw [if_neg hstate]
        have hpending : persisted.state = .pending := by
          cases h : persisted.state <;> simp_all
        exact .foundPending _ persisted hstep hrecover hread hpending hkept
    · rw [if_neg hrecover]
      refine .admitted _ hstep (.inr (by simpa using hrecover)) (fun r hr => ?_) hkept
      rw [Stores.record, hread, Option.mem_some_iff] at hr
      rwa [← hr]

theorem stepTask_reserve (hstep : task.step = .reserve) :
    TaskStep options now draw task stores (stepTask options now draw task stores) := by
  unfold stepTask
  rw [hstep]
  dsimp only
  unfold awaitCompletions
  rw [exec_reserve]
  have hkept := kept_pruned now stores.completions
  split_ifs
  · exact .reserved _ hstep hkept
  · exact .throws _ _ hkept
  · exact .reserved _ hstep (hkept.reservations _)

theorem hasCredentialCode_iff {code : DeviceCredentialErrorCode} {e : JsError} :
    hasCredentialCode code e = true ↔ ∃ message, e = .DeviceCredentialError code message := by
  cases e with
  | DeviceCredentialError code' message => simp [hasCredentialCode]
  | _ => simp [hasCredentialCode]

theorem hasCredentialCode_self (code : DeviceCredentialErrorCode) (message : String) :
    hasCredentialCode code (.DeviceCredentialError code message) = true :=
  hasCredentialCode_iff.mpr ⟨message, rfl⟩

theorem stepTask_issue (hs : stores.Sound) (hstep : task.step = .issue) :
    TaskStep options now draw task stores (stepTask options now draw task stores) := by
  unfold stepTask
  rw [hstep]
  dsimp only
  unfold awaitCredentials
  have houtcome := issue_outcome (s := stores.credentials) (d := task.device.deviceId) hs.devices
    draw now
  generalize exec (DeviceCredentialService.issue stores.pairing.devices draw (some now)
    task.device.deviceId.value) stores.credentials = out at houtcome ⊢
  cases houtcome with
  | alreadyExists message hactive =>
    dsimp only
    by_cases hrecover : task.recoverExisting = true
    · rw [if_pos ⟨hrecover, hasCredentialCode_self _ _⟩]
      exact .alreadyExists hstep hrecover hactive
    · rw [if_neg (fun h => hrecover h.1)]
      exact .issueThrown _ hstep
  | failed e hcode hvacant =>
    have hnot := mt hasCredentialCode_iff.mp (not_exists.mpr hcode)
    dsimp only
    rw [if_neg fun h => hnot h.2]
    exact .issueThrown _ hstep
  | issued record k hrecord hvacant h => exact .issued k record hstep hrecord hvacant h

theorem stepTask_dropReservation {error : JsError} (hstep : task.step = .dropReservation error) :
    TaskStep options now draw task stores (stepTask options now draw task stores) := by
  unfold stepTask
  rw [hstep]
  refine .dropped error _ hstep fun later id => ?_
  exact live_delete later task.key id stores.completions

theorem stepTask_setPending {issued : IssuedDeviceCredential}
    (hstep : task.step = .setPending issued) :
    TaskStep options now draw task stores (stepTask options now draw task stores) := by
  unfold stepTask
  rw [hstep]
  dsimp only
  have hkept := kept_pruned now stores.completions
  have hexec := exec_setPending options.completions now
    (generationInput task issued.credential.credentialId.value issued.credential.version)
    stores.completions
  have hkey : (generationInput task issued.credential.credentialId.value
    issued.credential.version).pairingSessionId = task.key := rfl
  rw [hkey] at hexec
  cases hread : live now stores.completions task.key with
  | none =>
    rw [hread] at hexec
    dsimp only at hexec
    split_ifs at hexec
    · rw [awaitCompletions_eq hexec]
      exact .throws _ _ hkept
    · rw [awaitCompletions_eq hexec]
      exact .pending issued _ _ hstep hread rfl (stored_pruned _ now _ _)
  | some existing =>
    rw [hread] at hexec
    dsimp only at hexec
    split_ifs at hexec
    · rw [awaitCompletions_eq hexec]
      exact .alreadyPending issued _ existing hstep hread hkept
    · rw [awaitCompletions_eq hexec]
      exact .throws _ _ hkept

theorem stepTask_readSource (hs : stores.Sound) (hstep : task.step = .readSource) :
    TaskStep options now draw task stores (stepTask options now draw task stores) := by
  unfold stepTask
  rw [hstep]
  have hkept : Kept now stores.completions stores.completions := fun _ _ _ => rfl
  exact awaitActive_cases hs (fun error => .throws error _ hkept) (fun _ => .throws _ _ hkept)
    fun current hactive => .source current hstep hactive

theorem recoveringTo_recoveringRecord {input : CompletionGenerationInput} {id : String} {v : ℕ}
    {target : CredentialId} : recoveringTo (some (recoveringRecord input id v target.value)) =
      some (recoveringRecord input id v target.value, target.value) := by
  simp [recoveringTo, recoveringRecord, target.value_ne_empty]

theorem stepTask_beginRecovery {sourceId : String} {sourceVersion : ℕ}
    (hstep : task.step = .beginRecovery sourceId sourceVersion) :
    TaskStep options now draw task stores (stepTask options now draw task stores) := by
  unfold stepTask
  rw [hstep]
  dsimp only
  rw [DeviceCredentialService.createCredentialId_eq]
  dsimp only
  have hkept := kept_pruned now stores.completions
  have hexec := exec_beginRecovery options.completions now
    (generationInput task sourceId sourceVersion) draw.credentialId.value stores.completions
  have hkey : (generationInput task sourceId sourceVersion).pairingSessionId = task.key := rfl
  rw [hkey] at hexec
  cases hread : live now stores.completions task.key with
  | none =>
    rw [hread] at hexec
    dsimp only at hexec
    split_ifs at hexec
    · rw [awaitCompletions_eq hexec]
      exact .throws _ _ hkept
    · rw [awaitCompletions_eq hexec, recoveringTo_recoveringRecord]
      exact .begun _ _ _ hstep hread (stored_pruned _ now _ _)
  | some existing =>
    rw [hread] at hexec
    dsimp only at hexec
    split_ifs at hexec with hrefused hstate
    · rw [awaitCompletions_eq hexec]
      exact .throws _ _ hkept
    · rw [awaitCompletions_eq hexec]
      cases recoveringTo (some existing) with
      | none => exact .throws _ _ hkept
      | some _ => exact .begunFound _ _ existing _ hstep hread hstate hkept
    · rw [awaitCompletions_eq hexec, recoveringTo_recoveringRecord]
      rw [not_or, not_not] at hrefused
      have hpending : existing.state = .pending := by
        cases h : existing.state <;> simp_all
      exact .begunPending _ _ existing _ hstep hread hpending hrefused.2 (stored_pruned _ now _ _)

theorem stepTask_readRecovery {n : ℕ} (hstep : task.step = .readRecovery n) :
    TaskStep options now draw task stores (stepTask options now draw task stores) := by
  unfold stepTask
  rw [hstep]
  dsimp only
  rw [awaitCompletions_eq (exec_get now task.key stores.completions)]
  have hkept := kept_pruned now stores.completions
  cases h : recoveringTo (live now stores.completions task.key) with
  | none => exact .throws _ _ hkept
  | some found =>
    obtain ⟨hread, hstate, htarget, -⟩ := recoveringTo_some h
    exact .read n _ _ _ hstep hread hstate htarget hkept

theorem stepTask_readActive (hs : stores.Sound) {n : ℕ} {recovery : CompletionRecord}
    (hstep : task.step = .readActive n recovery) :
    TaskStep options now draw task stores (stepTask options now draw task stores) := by
  unfold stepTask
  rw [hstep]
  have hkept : Kept now stores.completions stores.completions := fun _ _ _ => rfl
  refine awaitActive_cases hs (fun error => .throws error _ hkept) (fun _ => .throws _ _ hkept)
    fun current hactive => ?_
  dsimp only
  split_ifs with hsame hreserved
  · exact .active n recovery current hstep hactive hsame.1.symm hsame.2.symm
  · exact .advances n recovery current hstep hactive hreserved
  · exact .throws _ _ hkept

/-- `advanceRecovery` and `finishRecovery` replace a matching record or change nothing. -/
theorem awaitCompletions_replaceRecovering {input : RecoveryStepInput} {record : CompletionRecord}
    {next : Option CompletionRecord → CompletionStep} {P : CompletionStep × Stores → Prop}
    (hrefused : ∀ c, Kept now stores.completions c →
      P (next none, { stores with completions := c }))
    (hreplaced : ∀ existing c, stores.record now input.pairingSessionId = some existing →
      input.matches existing → Stored options.completions now record stores.completions c →
      P (next (some record), { stores with completions := c })) :
    P (awaitCompletions stores (replaceRecovering options.completions (.at now) input record)
      next) := by
  unfold awaitCompletions
  rw [exec_replaceRecovering]
  have hkept := kept_pruned now stores.completions
  cases hread : live now stores.completions input.pairingSessionId with
  | none => exact hrefused _ hkept
  | some existing =>
    by_cases hmatches : input.matches existing
    · simp only [if_pos hmatches]
      exact hreplaced existing _ hread hmatches (stored_pruned _ _ _ _)
    · simp only [if_neg hmatches]
      exact hrefused _ hkept

theorem stepTask_advanceRecovery {n : ℕ} {recovery : CompletionRecord} {active : DeviceCredential}
    (hstep : task.step = .advanceRecovery n recovery active) :
    TaskStep options now draw task stores (stepTask options now draw task stores) := by
  unfold stepTask
  rw [hstep]
  dsimp only
  rw [DeviceCredentialService.createCredentialId_eq]
  dsimp only
  unfold advanceRecovery
  exact awaitCompletions_replaceRecovering
    (fun c hkept => .advanceRefused n recovery active c hstep hkept)
    fun existing c hread hmatches hstored =>
      .advanced n recovery existing active c hstep hread hmatches hstored

theorem stepTask_rotate (hs : stores.Sound) {n : ℕ} {recovery : CompletionRecord}
    (hstep : task.step = .rotate n recovery) :
    TaskStep options now draw task stores (stepTask options now draw task stores) := by
  unfold stepTask
  rw [hstep]
  dsimp only
  unfold awaitCredentials
  have houtcome := rotate_outcome (s := stores.credentials) (d := task.device.deviceId) hs.devices
    draw.secret now recovery.credentialId recovery.credentialVersion
    (recovery.recoveryTargetCredentialId.getD "")
  generalize exec (DeviceCredentialService.rotateExpectedWithCredentialId stores.pairing.devices
    draw.secret (some now) task.device.deviceId.value recovery.credentialId
    recovery.credentialVersion (recovery.recoveryTargetCredentialId.getD "")) stores.credentials
    = out at houtcome ⊢
  cases houtcome with
  | unavailable message hstale => exact .stale n recovery hstep hstale
  | failed e hcode =>
    have hnot := mt hasCredentialCode_iff.mp (not_exists.mpr hcode)
    dsimp only
    rw [if_neg hnot]
    exact .throws _ _ fun _ _ _ => rfl
  | rotated current record id k hexpected hid hrecord h =>
    refine .rotated n recovery current record id k _ hstep hexpected hid hrecord h ?_
    by_cases hreserved :
        recovery.isReservedRecoveryTarget record.credentialId.value record.version
    · exact .inl (if_pos hreserved)
    · exact .inr ⟨hreserved, if_neg hreserved⟩

theorem stepTask_finishRecovery {n : ℕ} {recovery : CompletionRecord}
    {issued : IssuedDeviceCredential} (hstep : task.step = .finishRecovery n recovery issued) :
    TaskStep options now draw task stores (stepTask options now draw task stores) := by
  unfold stepTask
  rw [hstep]
  dsimp only
  unfold finishRecovery
  exact awaitCompletions_replaceRecovering
    (fun c hkept => .finishRefused n recovery issued c hstep hkept)
    fun existing c hread hmatches hstored =>
      .finished n recovery existing issued c hstep hread hmatches hstored

theorem stepTask_confirm (hs : stores.Sound) {issued : IssuedDeviceCredential}
    (hstep : task.step = .confirm issued) :
    TaskStep options now draw task stores (stepTask options now draw task stores) := by
  unfold stepTask
  rw [hstep]
  have hkept : Kept now stores.completions stores.completions := fun _ _ _ => rfl
  refine awaitActive_cases hs (fun error => .throws error _ hkept) (fun _ => .throws _ _ hkept)
    fun current hactive => ?_
  dsimp only
  split_ifs with hsame
  · exact .confirmed issued current hstep hactive (UuidV4.ext hsame.1) hsame.2
  · exact .throws _ _ hkept

theorem stepTask_idle (h : task.step.isRunning = false) :
    stepTask options now draw task stores = (task.step, stores) := by
  unfold stepTask
  cases hstep : task.step <;> rw [hstep] at h <;> first | rfl | cases h

theorem taskStep (options : ServiceOptions) (now : ℤ) (draw : Draw) (task : Task)
    (hs : stores.Sound) :
    TaskStep options now draw task stores (stepTask options now draw task stores) := by
  cases hstep : task.step with
  | readPersisted => exact stepTask_readPersisted hstep
  | reserve => exact stepTask_reserve hstep
  | issue => exact stepTask_issue hs hstep
  | dropReservation error => exact stepTask_dropReservation hstep
  | setPending issued => exact stepTask_setPending hstep
  | readSource => exact stepTask_readSource hs hstep
  | beginRecovery sourceId sourceVersion => exact stepTask_beginRecovery hstep
  | readRecovery n => exact stepTask_readRecovery hstep
  | readActive n recovery => exact stepTask_readActive hs hstep
  | advanceRecovery n recovery active => exact stepTask_advanceRecovery hstep
  | rotate n recovery => exact stepTask_rotate hs hstep
  | finishRecovery n recovery issued => exact stepTask_finishRecovery hstep
  | confirm issued => exact stepTask_confirm hs hstep
  | settled result =>
    rw [stepTask_idle (by rw [hstep]; rfl)]
    exact .idle (by rw [hstep]; rfl)
  | crashed =>
    rw [stepTask_idle (by rw [hstep]; rfl)]
    exact .idle (by rw [hstep]; rfl)

end

end Doctmcp.Completion
