import Doctmcp.Lib.Runs
import Doctmcp.Completion.Repository
import Doctmcp.Credential.Service
import Doctmcp.Pairing.Service
import Doctmcp.Pairing.Conformance

/-! # The completion service

`PairingCredentialCompletionService` of `pairing-credential-completion.ts`, await by await. The
promise that `#complete` creates for a session is a task; a call of a public method runs up to it,
waits for it, and an entry of `#completionBySessionId` is the index of a task. An operation on a
repository is one step, and so is every stretch of code between two awaits that touches the
cache. A crash ends the tasks and calls of the instance and clears its cache; the repositories
stay. -/

namespace Doctmcp.Completion
open Doctmcp.Lib Doctmcp.Lib.Operation Doctmcp.Schemas Doctmcp.Device Doctmcp.Pairing
open Doctmcp.Credential
open CompletionRepository (RecoveryStepInput)
set_option autoImplicit false

/-! ## Completions -/

structure CompletedPairingCredential where
  session : PairingSession
  device : Schemas.Device
  credential : DeviceCredential
  secret : String
  deriving DecidableEq

def completionUnavailable : JsError :=
  .PairingCredentialCompletionError .PAIRING_COMPLETION_UNAVAILABLE
    "Pairing credential completion không khả dụng."

def maxRecoverySteps : ℕ := 16

/-- The repositories, which outlive a service instance. -/
structure Stores where
  pairing : MemoryStore
  credentials : InMemoryDeviceCredentialRepository
  completions : CompletionRepository

/-- The options of the repositories. -/
structure ServiceOptions where
  completions : CompletionRepositoryOptions
  pairings : PairingRepositoryOptions

/-- The await at which the promise of `#complete` stands, with the variables that live there. -/
inductive CompletionStep
  /-- `#complete`: `get`, `reserve`, `issue`, `delete`, `setPending`. -/
  | readPersisted
  | reserve
  | issue
  | dropReservation (error : JsError)
  | setPending (issued : IssuedDeviceCredential)
  /-- `#recover`: the source generation and the reservation of its target. -/
  | readSource
  | beginRecovery (sourceCredentialId : String) (sourceCredentialVersion : ℕ)
  /-- The loop of `#recover`, in its iteration `n`. -/
  | readRecovery (n : ℕ)
  | readActive (n : ℕ) (recovery : CompletionRecord)
  | advanceRecovery (n : ℕ) (recovery : CompletionRecord) (active : DeviceCredential)
  | rotate (n : ℕ) (recovery : CompletionRecord)
  | finishRecovery (n : ℕ) (recovery : CompletionRecord) (issued : IssuedDeviceCredential)
  | confirm (issued : IssuedDeviceCredential)
  | settled (result : Except JsError IssuedDeviceCredential)
  | crashed
  deriving DecidableEq

namespace CompletionStep

def throws (error : JsError) : CompletionStep := .settled (.error error)

def unavailable : CompletionStep := throws completionUnavailable

/-- The promise is still running. -/
def isRunning : CompletionStep → Bool
  | settled _ | crashed => false
  | _ => true

end CompletionStep

/-- A promise of `#complete`. -/
structure Task where
  session : PairingSession
  device : Schemas.Device
  recoverExisting : Bool
  step : CompletionStep

/-- `completedSnapshot`. -/
def Task.completedSnapshot (task : Task) (issued : IssuedDeviceCredential) :
    CompletedPairingCredential where
  session := task.session
  device := task.device
  credential := issued.credential
  secret := issued.secret

/-- The result of a settled promise. -/
def Task.result (task : Task) : Option (Except JsError CompletedPairingCredential) :=
  match task.step with
  | .settled result => some (result.map task.completedSnapshot)
  | _ => none

/-- The key of a session's records. -/
def Task.key (task : Task) : String := task.session.pairingSessionId.value

/-! ## The awaits of `#complete` and `#recover` -/

section Steps
variable (options : ServiceOptions) (now : ℤ) (draw : Draw) (task : Task) (stores : Stores)

/-- Await an operation of the completion repository. -/
def awaitCompletions {α : Type} (op : Operation CompletionRepository JsError α)
    (next : α → CompletionStep) : CompletionStep × Stores :=
  let out := exec op stores.completions
  (match out.1 with
    | .ok a => next a
    | .error error => .throws error,
  { stores with completions := out.2 })

/-- Await a method of the credential service, with a `catch`. -/
def awaitCredentials {α : Type} (op : Operation InMemoryDeviceCredentialRepository JsError α)
    (next : α → CompletionStep) (catch_ : JsError → CompletionStep) : CompletionStep × Stores :=
  let out := exec op stores.credentials
  (match out.1 with
    | .ok a => next a
    | .error error => catch_ error,
  { stores with credentials := out.2 })

/-- `error instanceof DeviceCredentialError && error.code === code`. -/
def hasCredentialCode (code : DeviceCredentialErrorCode) : JsError → Bool
  | .DeviceCredentialError code' _ => code' = code
  | _ => false

/-- `#getActiveOrNull`, and what follows it. -/
def awaitActive (next : Option DeviceCredential → CompletionStep) : CompletionStep × Stores :=
  awaitCredentials stores (DeviceCredentialService.getActive stores.pairing.devices
      task.device.deviceId.value)
    (fun active => next (some active))
    (fun error => if hasCredentialCode .CREDENTIAL_UNAVAILABLE error = true then next none
      else .throws error)

/-- `record?.state === "recovering" && record.recoveryTargetCredentialId`. -/
def recoveringTo (record : Option CompletionRecord) : Option (CompletionRecord × String) :=
  match record with
  | some record =>
    match record.recoveryTargetCredentialId with
    | some target =>
      if record.state = .recovering ∧ target ≠ "" then some (record, target) else none
    | none => none
  | none => none

/-- `#recover` with a persisted record. -/
def recover (persisted : CompletionRecord) : CompletionStep :=
  if persisted.state = .recovering then
    match recoveringTo (some persisted) with
    | some _ => .readRecovery 0
    | none => .unavailable
  else .beginRecovery persisted.credentialId persisted.credentialVersion

def generationInput (credentialId : String) (credentialVersion : ℕ) :
    CompletionGenerationInput where
  pairingSessionId := task.key
  deviceId := task.device.deviceId.value
  credentialId := credentialId
  credentialVersion := credentialVersion

/-- `for (…; step < MAX_RECOVERY_STEPS; step += 1)`, and the throw after it. -/
def nextIteration (n : ℕ) : CompletionStep :=
  if n + 1 < maxRecoverySteps then .readRecovery (n + 1) else .unavailable

/-- The input of `advanceRecovery` and `finishRecovery`. -/
def recoveryStepInput (pairingSessionId deviceId : String) (recovery : CompletionRecord)
    (credential : DeviceCredential) : RecoveryStepInput where
  pairingSessionId := pairingSessionId
  deviceId := deviceId
  expectedCredentialId := recovery.credentialId
  expectedCredentialVersion := recovery.credentialVersion
  credentialId := credential.credentialId.value
  credentialVersion := credential.version

/-- `active.credentialId === credentialId && active.version === version`. -/
def isGeneration (active : DeviceCredential) (credentialId : String) (version : ℕ) : Prop :=
  active.credentialId.value = credentialId ∧ active.version = version

instance (active : DeviceCredential) (credentialId : String) (version : ℕ) :
    Decidable (isGeneration active credentialId version) :=
  inferInstanceAs (Decidable (_ ∧ _))

/-- Run a task to its next await. -/
def stepTask : CompletionStep × Stores :=
  match task.step with
  | .readPersisted =>
    awaitCompletions stores (CompletionRepository.get (.at now) task.key) fun
      | some persisted =>
        if persisted.state = .delivered then .unavailable
        else if task.recoverExisting = true then recover persisted
        else .reserve
      | none => .reserve
  | .reserve =>
    awaitCompletions stores (CompletionRepository.reserve options.completions (.at now) task.key)
      fun admitted => if admitted = true then .issue else .unavailable
  | .issue =>
    awaitCredentials stores
      (DeviceCredentialService.issue stores.pairing.devices draw (some now)
        task.device.deviceId.value)
      .setPending
      fun error =>
        if task.recoverExisting = true ∧
            hasCredentialCode .CREDENTIAL_ALREADY_EXISTS error = true then .readSource
        else .dropReservation error
  | .dropReservation error =>
    awaitCompletions stores (CompletionRepository.delete task.key) fun _ => .throws error
  | .setPending issued =>
    awaitCompletions stores
      (CompletionRepository.setPending options.completions (.at now)
        (generationInput task issued.credential.credentialId.value issued.credential.version))
      fun
        | some _ => .settled (.ok issued)
        | none => .unavailable
  | .readSource =>
    awaitActive task stores fun
      | some active => .beginRecovery active.credentialId.value active.version
      | none => .unavailable
  | .beginRecovery sourceCredentialId sourceCredentialVersion =>
    match DeviceCredentialService.createCredentialId draw.credentialId with
    | .error error => (.throws error, stores)
    | .ok target =>
      awaitCompletions stores
        (CompletionRepository.beginRecovery options.completions (.at now)
          (generationInput task sourceCredentialId sourceCredentialVersion) target.value)
        fun reserved => match recoveringTo reserved with
          | some _ => .readRecovery 0
          | none => .unavailable
  | .readRecovery n =>
    awaitCompletions stores (CompletionRepository.get (.at now) task.key) fun recovery =>
      match recoveringTo recovery with
      | some (recovery, _) => .readActive n recovery
      | none => .unavailable
  | .readActive n recovery =>
    awaitActive task stores fun
      | none => .unavailable
      | some active =>
        if isGeneration active recovery.credentialId recovery.credentialVersion then
          .rotate n recovery
        else if recovery.isReservedRecoveryTarget active.credentialId.value active.version then
          .advanceRecovery n recovery active
        else .unavailable
  | .advanceRecovery n recovery active =>
    match DeviceCredentialService.createCredentialId draw.credentialId with
    | .error error => (.throws error, stores)
    | .ok target =>
      awaitCompletions stores
        (CompletionRepository.advanceRecovery options.completions (.at now)
          (recoveryStepInput task.key task.device.deviceId.value recovery active) target.value)
        fun _ => nextIteration n
  | .rotate n recovery =>
    awaitCredentials stores
      (DeviceCredentialService.rotateExpectedWithCredentialId stores.pairing.devices draw.secret
        (some now) task.device.deviceId.value recovery.credentialId recovery.credentialVersion
        (recovery.recoveryTargetCredentialId.getD ""))
      (fun issued =>
        if recovery.isReservedRecoveryTarget issued.credential.credentialId.value
            issued.credential.version then .finishRecovery n recovery issued
        else .unavailable)
      fun error =>
        if hasCredentialCode .CREDENTIAL_UNAVAILABLE error = true then nextIteration n
        else .throws error
  | .finishRecovery n recovery issued =>
    awaitCompletions stores
      (CompletionRepository.finishRecovery options.completions (.at now)
        (recoveryStepInput recovery.pairingSessionId recovery.deviceId recovery
          issued.credential))
      fun
        | some pending => if pending.state = .pending then .confirm issued else nextIteration n
        | none => nextIteration n
  | .confirm issued =>
    awaitActive task stores fun
      | some active =>
        if isGeneration active issued.credential.credentialId.value issued.credential.version then
          .settled (.ok issued)
        else .unavailable
      | none => .unavailable
  | .settled result => (.settled result, stores)
  | .crashed => (.crashed, stores)

end Steps

/-! ## Calls of the public methods -/

structure AcknowledgePairingCredentialDeliveryInput where
  pairingSessionId : String
  ownerId : String
  credentialId : String
  credentialVersion : ℕ

/-- What a call resolves to. The two methods without a result resolve to `void`; here it tells
which session the call was about. -/
inductive CallReply
  | completed (completed : CompletedPairingCredential)
  | acknowledged (pairingSessionId : String)
  | forgotten (pairingSessionId : String)
  deriving DecidableEq

/-- The await at which a call stands, with the variables that live there. -/
inductive Call
  /-- `claimAndIssue`. -/
  | claimReserve (admissionId : String) (request : Except JsError ClaimPairingRecordInput)
  | claimPairingCode (admissionId : String) (request : Except JsError ClaimPairingRecordInput)
  | claimDrop (admissionId : String) (error : JsError)
  | claimTransfer (admissionId : String) (session : PairingSession) (device : Schemas.Device)
  | claimComplete (session : PairingSession) (device : Schemas.Device)
  /-- `resumeClaimedPairing`. -/
  | resumeSession (pairingSessionId ownerId : String)
  | resumeDevice (pairingSessionId ownerId : String) (session : PairingSession)
      (deviceId : DeviceId)
  | resumePersisted (pairingSessionId : String) (session : PairingSession)
      (device : Schemas.Device)
  | resumeComplete (pairingSessionId : String) (session : PairingSession)
      (device : Schemas.Device)
  /-- Awaiting the promise `task`; its creator removes it from the cache when it failed. -/
  | awaiting (task : ℕ) (creator : Bool)
  /-- `acknowledgeDelivery`. -/
  | acknowledgeSession (input : AcknowledgePairingCredentialDeliveryInput)
  | acknowledgeDevice (input : AcknowledgePairingCredentialDeliveryInput) (deviceId : DeviceId)
  | acknowledgeStore (input : AcknowledgePairingCredentialDeliveryInput) (device : Schemas.Device)
  | acknowledgeForget (input : AcknowledgePairingCredentialDeliveryInput)
  /-- `forgetPendingCompletion`, after the cache. -/
  | forgetDelete (pairingSessionId : String)
  | returned (result : Except JsError CallReply)
  | crashed

def Call.throws (error : JsError) : Call := .returned (.error error)

def Call.isRunning : Call → Bool
  | .returned _ | .crashed => false
  | _ => true

/-- The repositories, the clock, and one service instance with the calls and promises of the
instances before it. -/
structure World where
  now : ℤ
  stores : Stores
  completionBySessionId : OrderedMap String ℕ
  tasks : List Task
  calls : List Call

namespace World

def setCall (w : World) (i : ℕ) (call : Call) : World := { w with calls := w.calls.set i call }

section Calls
variable (options : ServiceOptions) (source : DeviceSource) (w : World) (i : ℕ)

/-- Await an operation of the completion repository in call `i`. -/
def callCompletions {α : Type} (op : Operation CompletionRepository JsError α) (next : α → Call) :
    World :=
  let out := exec op w.stores.completions
  setCall { w with stores := { w.stores with completions := out.2 } } i
    (match out.1 with
      | .ok a => next a
      | .error error => .throws error)

/-- Await an operation of the pairing service in call `i`, with a `catch`. -/
def callPairing {α : Type} (op : Operation MemoryStore JsError α) (next : α → Call)
    (catch_ : JsError → Call) : World :=
  let out := exec op w.stores.pairing
  setCall { w with stores := { w.stores with pairing := out.2 } } i
    (match out.1 with
      | .ok a => next a
      | .error error => catch_ error)

/-- `#complete` up to its await: an existing promise is returned, else one is created. -/
def complete (session : PairingSession) (device : Schemas.Device) (recoverExisting : Bool) :
    World :=
  match w.completionBySessionId.get? session.pairingSessionId.value with
  | some existing => w.setCall i (.awaiting existing false)
  | none =>
    setCall { w with
      tasks := w.tasks ++ [⟨session, device, recoverExisting, .readPersisted⟩]
      completionBySessionId :=
        w.completionBySessionId.set session.pairingSessionId.value w.tasks.length } i
      (.awaiting w.tasks.length true)

/-- `session?.state !== "claimed" || session.deviceId === undefined`. -/
def claimedDevice (session : Option PairingSession) : Option (PairingSession × DeviceId) :=
  match session with
  | some session => if session.state = .claimed then
      session.deviceId.map fun deviceId => (session, deviceId)
    else none
  | none => none

/-- The promise `task` settled with `result`. -/
def settle (task : ℕ) (creator : Bool) (key : String)
    (result : Except JsError CompletedPairingCredential) : World :=
  let w := w.setCall i (.returned (result.map .completed))
  match result with
  | .ok _ => w
  | .error _ =>
    if creator = true ∧ w.completionBySessionId.get? key = some task then
      { w with completionBySessionId := w.completionBySessionId.delete key }
    else w

/-- Run call `i` to its next await. -/
def stepCall (call : Call) : World :=
  match call with
  | .claimReserve admissionId request =>
    w.callCompletions i
      (CompletionRepository.reserve options.completions (.at w.now) admissionId) fun admitted =>
        if admitted = true then .claimPairingCode admissionId request
        else .throws completionUnavailable
  | .claimPairingCode admissionId request =>
    w.callPairing i (PairingService.claimPairingCode (some w.now) source request)
      (fun claimed => .claimTransfer admissionId claimed.1 claimed.2) (.claimDrop admissionId)
  | .claimDrop admissionId error =>
    w.callCompletions i (CompletionRepository.delete admissionId) fun _ => .throws error
  | .claimTransfer admissionId session device =>
    w.callCompletions i
      (CompletionRepository.transferReservation (.at w.now) admissionId
        session.pairingSessionId.value) fun transferred =>
        if transferred = true then .claimComplete session device
        else .claimDrop admissionId completionUnavailable
  | .claimComplete session device => w.complete i session device false
  | .resumeSession pairingSessionId ownerId =>
    w.callPairing i (PairingService.getPairingSession pairingSessionId)
      (fun session => match claimedDevice session with
        | some found => .resumeDevice pairingSessionId ownerId found.1 found.2
        | none => .throws completionUnavailable) .throws
  | .resumeDevice pairingSessionId ownerId session deviceId =>
    w.callPairing i (InMemoryPairingSessionRepository.onDevices
        (InMemoryDeviceRepository.getForOwner ownerId deviceId.value))
      (fun
        | some device => .resumePersisted pairingSessionId session device
        | none => .throws completionUnavailable) .throws
  | .resumePersisted pairingSessionId session device =>
    w.callCompletions i (CompletionRepository.get (.at w.now) pairingSessionId) fun persisted =>
      if (∃ record ∈ persisted, record.state = .delivered) then .throws completionUnavailable
      else .resumeComplete pairingSessionId session device
  | .resumeComplete pairingSessionId session device =>
    match w.completionBySessionId.get? pairingSessionId with
    | some cached => w.setCall i (.awaiting cached false)
    | none => w.complete i session device true
  | .awaiting task creator =>
    match w.tasks[task]? with
    | some promise =>
      match promise.result with
      | some result => w.settle i task creator promise.key result
      | none => w
    | none => w
  | .acknowledgeSession input =>
    w.callPairing i (PairingService.getPairingSession input.pairingSessionId)
      (fun session => match claimedDevice session with
        | some found => .acknowledgeDevice input found.2
        | none => .throws completionUnavailable) .throws
  | .acknowledgeDevice input deviceId =>
    w.callPairing i (InMemoryPairingSessionRepository.onDevices
        (InMemoryDeviceRepository.getForOwner input.ownerId deviceId.value))
      (fun
        | some device => .acknowledgeStore input device
        | none => .throws completionUnavailable) .throws
  | .acknowledgeStore input device =>
    w.callCompletions i
      (CompletionRepository.acknowledge options.completions (.at w.now) input.pairingSessionId
        device.deviceId.value input.credentialId input.credentialVersion) fun
        | some _ => .acknowledgeForget input
        | none => .throws completionUnavailable
  | .acknowledgeForget input =>
    setCall { w with
      completionBySessionId := w.completionBySessionId.delete input.pairingSessionId } i
      (.returned (.ok (.acknowledged input.pairingSessionId)))
  | .forgetDelete pairingSessionId =>
    w.callCompletions i (CompletionRepository.delete pairingSessionId) fun _ =>
      .returned (.ok (.forgotten pairingSessionId))
  | .returned _ => w
  | .crashed => w

end Calls
end World

/-! ## Runs -/

inductive Event
  /-- The clock moves on. -/
  | tick (ms : ℕ)
  | claimAndIssue (admissionId : PairingSessionId)
      (request : Except JsError ClaimPairingRecordInput)
  | resumeClaimedPairing (pairingSessionId ownerId : String)
  | acknowledgeDelivery (input : AcknowledgePairingCredentialDeliveryInput)
  | forgetPendingCompletion (pairingSessionId : String) (preserveDelivered : Bool)
  /-- Call `i` goes on to its next await. -/
  | call (i : ℕ) (source : DeviceSource)
  /-- Promise `j` goes on to its next await. -/
  | task (j : ℕ) (draw : Draw)
  /-- A foreign operation on the credential repository. -/
  | credential (call : Credential.Call)
  /-- A foreign operation on the pairing and device repositories. -/
  | pairing (call : Pairing.Call)
  /-- The instance dies; a fresh one takes over. -/
  | crash

namespace World
variable (options : ServiceOptions)

def start (w : World) (call : Call) : World := { w with calls := w.calls ++ [call] }

def crash (w : World) : World where
  now := w.now
  stores := w.stores
  completionBySessionId := OrderedMap.empty
  tasks := w.tasks.map fun task =>
    if task.step.isRunning = true then { task with step := .crashed } else task
  calls := w.calls.map fun call => if call.isRunning = true then .crashed else call

def step (w : World) : Event → World
  | .tick ms => { w with now := w.now + ms }
  | .claimAndIssue admissionId request =>
    w.start (.claimReserve ("admission:" ++ admissionId.value) request)
  | .resumeClaimedPairing pairingSessionId ownerId =>
    w.start (.resumeSession pairingSessionId ownerId)
  | .acknowledgeDelivery input => w.start (.acknowledgeSession input)
  | .forgetPendingCompletion pairingSessionId preserveDelivered =>
    start { w with
      completionBySessionId := w.completionBySessionId.delete pairingSessionId }
      (if preserveDelivered = true then .returned (.ok (.forgotten pairingSessionId))
        else .forgetDelete pairingSessionId)
  | .call i source =>
    match w.calls[i]? with
    | some call => w.stepCall options source i call
    | none => w
  | .task j draw =>
    match w.tasks[j]? with
    | some task =>
      let out := stepTask options w.now draw task w.stores
      { w with tasks := w.tasks.set j { task with step := out.1 }, stores := out.2 }
    | none => w
  | .credential call =>
    { w with stores := { w.stores with credentials :=
      (InMemoryDeviceCredentialRepository.adapter.call w.stores.credentials call).2 } }
  | .pairing call =>
    { w with stores := { w.stores with pairing :=
      ((InMemoryPairingSessionRepository.adapter options.pairings).call w.stores.pairing call).2 } }
  | .crash => w.crash

/-- Empty repositories and a fresh instance. -/
def init (now : ℤ) : World where
  now := now
  stores :=
    { pairing := ⟨InMemoryPairingSessionRepository.new, InMemoryDeviceRepository.new⟩
      credentials := InMemoryDeviceCredentialRepository.new
      completions := CompletionRepository.new }
  completionBySessionId := OrderedMap.empty
  tasks := []
  calls := []

/-- The world after the events `es` of a fresh start. -/
def after (now : ℤ) (es : List Event) : World := runFrom (step options) (init now) es

theorem after_append (now : ℤ) (es fs : List Event) :
    after options now (es ++ fs) = runFrom (step options) (after options now es) fs :=
  runFrom_append _ _ _

theorem after_concat (now : ℤ) (es : List Event) (e : Event) :
    after options now (es ++ [e]) = (after options now es).step options e :=
  after_append options now es [e]

end World

/-! ## A sample session -/

namespace Sample

def options : ServiceOptions := ⟨.default, .default⟩

def session : PairingSessionId :=
  ⟨"5e551011-0000-4000-8000-000000000000", by decide, by decide⟩

def device : DeviceId := ⟨"de01ce00-0000-4000-8000-000000000001", by decide, by decide⟩

def admission : PairingSessionId :=
  ⟨"ad010000-0000-4000-8000-000000000000", by decide, by decide⟩

def first : Draw := ⟨⟨"c1000000-0000-4000-8000-000000000000", by decide, by decide⟩, "first"⟩

def second : Draw := ⟨⟨"c2000000-0000-4000-8000-000000000000", by decide, by decide⟩, "second"⟩

def third : Draw := ⟨⟨"c3000000-0000-4000-8000-000000000000", by decide, by decide⟩, "third"⟩

def ownerId : String := "owner-a"

def codeDigest : String := String.ofList (List.replicate 64 '0')

def source : DeviceSource := ⟨device.value, some 1000⟩

/-- The owner claims the session, up to the promise of `#complete`. -/
def claim : List Event :=
  [.pairing (.create ⟨session.value, codeDigest, some 1000, some 301000, none⟩),
    .claimAndIssue admission (.ok ⟨codeDigest, ⟨ownerId, "laptop", ⟨"linux-x64", none, none⟩⟩⟩),
    .call 0 source, .call 0 source, .call 0 source, .call 0 source]

/-- The owner's `i`-th call resumes the session, up to the promise of `#complete`. -/
def resume (i : ℕ) : List Event :=
  [.resumeClaimedPairing session.value ownerId,
    .call i source, .call i source, .call i source, .call i source]

/-- Promise `j` takes `n` steps. -/
def promise (j n : ℕ) (draw : Draw) : List Event := List.replicate n (.task j draw)

end Sample
end Doctmcp.Completion
