import Doctmcp.Completion.Service
import Doctmcp.Exclusion.Coordinator
import Doctmcp.PublicMcp.CallerServer

/-! # The pairing tool

The operation that the `devices_pair` tool of `public-mcp-endpoint.ts` runs at the gate of its owner,
await by await: it counts the owner's devices and claims the pairing code by the `claimAndIssue` of
`server-runtime.ts`. The endpoint runs any number of these next to whatever else changes pairing
sessions, completions and devices, as long as no device is created elsewhere. What an await comes to
that the stores do not determine is a reading. -/

namespace Doctmcp.PublicMcp
open Doctmcp.Lib Doctmcp.Lib.Operation Doctmcp.Schemas Doctmcp.Device Doctmcp.Pairing
open Doctmcp.Completion
open Doctmcp.Routing (DeviceRoutingError)
set_option autoImplicit false

inductive PairError
  | routing (error : DeviceRoutingError)
  | thrown (error : JsError)

def deviceLimitReached : DeviceRoutingError :=
  ⟨.ROUTING_UNAVAILABLE, "Đã đạt giới hạn số lượng thiết bị."⟩

/-- The await at which an operation stands, with the variables that live there. -/
inductive PairStep
  | listDevices
  /-- `Promise.all` over `#snapshotDevice`. -/
  | snapshots (devices : List Schemas.Device)
  /-- `claimAndIssue`. -/
  | reserve
  | claimPairingCode (admissionId : String)
  | dropReservation (admissionId : String) (error : JsError)
  | transferReservation (admissionId : String) (claimed : PairingSession × Schemas.Device)
  /-- `runCredentialLifecycleOperation`. -/
  | complete (claimed : PairingSession × Schemas.Device)
  | settled (result : Except PairError CompletedPairingCredential)

/-- The caller of `devices_pair` and the name that it gives the device. -/
structure PairInput where
  ownerId : String
  deviceName : String

/-- What the awaits of an operation come to. -/
structure PairReadings where
  snapshots : Except DeviceRoutingError Unit
  admissionId : String
  completionClock : Readings
  /-- The digest of the code, where normalisation and the claim guard let it pass. -/
  codeDigest : Except JsError String
  now : JsDate
  source : DeviceSource
  completed : Except JsError CompletedPairingCredential

/-- The stores that an operation changes. -/
structure PairStores where
  pairing : MemoryStore
  completions : CompletionRepository

/-- The request of a claim, as far as `PairingService.claimPairingCode` lets it pass. -/
def claimRequest (input : PairInput) (codeDigest : Except JsError String) :
    Except JsError ClaimPairingRecordInput := do
  let parsedInput ← orThrow (claimPairingInputSchema
      { ownerId := input.ownerId, deviceName := input.deviceName,
        metadata := { platform := "unknown", appVersion := none, runtimeVersion := none } })
    (.PairingServiceError .INVALID_PAIRING_INPUT "Pairing claim input không hợp lệ.")
  let codeDigest ← codeDigest
  return { codeDigest := codeDigest, claim := parsedInput }

namespace PairStep

def throws (error : JsError) : PairStep := .settled (.error (.thrown error))

section
variable (locale : Collation) (options : CompletionRepositoryOptions) (readings : PairReadings)
  (stores : PairStores)

/-- Await an operation of the completion repository. -/
def awaitCompletions {α : Type} (op : Operation CompletionRepository JsError α)
    (next : α → PairStep) : PairStep × PairStores :=
  let out := exec op stores.completions
  (match out.1 with
    | .ok a => next a
    | .error error => .throws error,
  { stores with completions := out.2 })

/-- Run an operation to its next await. -/
def step (input : PairInput) : PairStep → PairStep × PairStores
  | .listDevices =>
    (match Routing.parseOwnerId input.ownerId with
      | .error error => .settled (.error (.routing error))
      | .ok ownerId =>
        match (exec (InMemoryDeviceRepository.listByOwnerId locale ownerId)
            stores.pairing.devices).1 with
        | .error _ => .settled (.error (.routing Routing.routingUnavailable))
        | .ok devices => .snapshots devices,
    stores)
  | .snapshots devices =>
    (match readings.snapshots with
      | .error error => .settled (.error (.routing error))
      | .ok _ =>
        if maxDevicesPerOwner ≤ devices.length then
          .settled (.error (.routing deviceLimitReached))
        else .reserve,
    stores)
  | .reserve =>
    awaitCompletions stores
      (CompletionRepository.reserve options readings.completionClock readings.admissionId)
      fun admitted => if admitted = true then .claimPairingCode readings.admissionId
        else .throws completionUnavailable
  | .claimPairingCode admissionId =>
    let out := exec (PairingService.claimPairingCode readings.now readings.source
      (claimRequest input readings.codeDigest)) stores.pairing
    (match out.1 with
      | .ok claimed => .transferReservation admissionId claimed
      | .error error => .dropReservation admissionId error,
    { stores with pairing := out.2 })
  | .dropReservation admissionId error =>
    awaitCompletions stores (CompletionRepository.delete admissionId) fun _ => .throws error
  | .transferReservation admissionId claimed =>
    awaitCompletions stores
      (CompletionRepository.transferReservation readings.completionClock admissionId
        claimed.1.pairingSessionId.value)
      fun transferred => if transferred = true then .complete claimed
        else .dropReservation admissionId completionUnavailable
  | .complete _ =>
    (match readings.completed with
      | .ok completed => .settled (.ok completed)
      | .error error => .throws error,
    stores)
  | .settled result => (.settled result, stores)

end

end PairStep

/-! ## The endpoint -/

structure PairCall where
  input : PairInput
  step : PairStep

/-- The gate of a public endpoint, the operations of its calls in the order of the calls, and the
stores. -/
structure Endpoint where
  gate : Exclusion.World String
  operations : List PairCall
  stores : PairStores

inductive EndpointEvent
  /-- A call of `devices_pair`. -/
  | devicesPair (input : PairInput)
  /-- The next job of the queue. -/
  | microtask
  /-- Operation `i` goes on to its next await. -/
  | resume (i : ℕ) (readings : PairReadings)
  /-- The settled operation `i` gives the gate free. -/
  | release (i : ℕ)
  /-- Others change pairing sessions and completions. -/
  | others (pairings : InMemoryPairingSessionRepository) (completions : CompletionRepository)
  /-- Others change a device. -/
  | updateForOwner (now : JsDate) (ownerId deviceId : String) (patch : UpdateDeviceInput)

namespace Endpoint

def start (stores : PairStores) : Endpoint := ⟨.initial, [], stores⟩

/-- The operation of call `i`, while the gate runs it. -/
def running (w : Endpoint) (i : ℕ) : Option PairCall :=
  match w.gate.calls[i]? with
  | some c => if c.phase = .running then w.operations[i]? else none
  | none => none

def step (locale : Collation) (options : CompletionRepositoryOptions) (w : Endpoint) :
    EndpointEvent → Endpoint
  | .devicesPair input =>
    { w with
      gate := w.gate.call .OwnerPairingGate input.ownerId
      operations := w.operations ++ [⟨input, .listDevices⟩] }
  | .microtask => { w with gate := w.gate.microtask }
  | .resume i readings =>
    match w.running i with
    | none => w
    | some c =>
      let out := PairStep.step locale options readings w.stores c.input c.step
      { w with operations := w.operations.set i { c with step := out.1 }, stores := out.2 }
  | .release i =>
    match w.running i with
    | none => w
    | some c =>
      match c.step with
      | .settled result => { w with gate := w.gate.finish i result.isOk }
      | _ => w
  | .others pairings completions =>
    { w with stores := ⟨{ w.stores.pairing with pairings := pairings }, completions⟩ }
  | .updateForOwner now ownerId deviceId patch =>
    { w with stores := { w.stores with pairing := (exec (InMemoryPairingSessionRepository.onDevices
      (InMemoryDeviceRepository.updateForOwner now ownerId deviceId patch)) w.stores.pairing).2 } }

end Endpoint

end Doctmcp.PublicMcp
