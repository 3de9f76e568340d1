import Doctmcp.Pairing.Memory

/-! # The pairing service

The two methods of `PairingService` (`apps/server/src/pairing.ts`) that credential completion calls.
The checks that `claimPairingCode` makes before it reaches the repository (input schema, code
normalisation, claim-attempt guard) end in an error or in the repository's input, and that is what
it is given here. -/

namespace Doctmcp.Pairing
open Doctmcp.Lib Doctmcp.Lib.Operation Doctmcp.Schemas Doctmcp.Device
set_option autoImplicit false

namespace PairingService

def mapRepositoryError (error : JsError) : JsError :=
  match error with
  | .PairingRepositoryError .PAIRING_CODE_UNAVAILABLE _ =>
    .PairingServiceError .PAIRING_CODE_UNAVAILABLE "Pairing code không khả dụng."
  | .PairingRepositoryError .PAIRING_SESSION_NOT_FOUND _ =>
    .PairingServiceError .PAIRING_SESSION_NOT_FOUND "Pairing session không tồn tại."
  | .PairingRepositoryError .PAIRING_SESSION_NOT_PENDING _ =>
    .PairingServiceError .PAIRING_SESSION_NOT_PENDING "Pairing session không còn pending."
  | .PairingRepositoryError .INVALID_CLOCK _ =>
    .PairingServiceError .INVALID_CLOCK "Server clock không hợp lệ cho pairing operation."
  | .PairingRepositoryError _ _ =>
    .PairingServiceError .PAIRING_CREATE_FAILED "Pairing operation thất bại."
  | error => error

/-- `try { … } catch (error) { throw this.#mapRepositoryError(error); }`. -/
def mapped {α : Type} (op : Operation MemoryStore JsError α) : Operation MemoryStore JsError α :=
  ExceptT.mk fun s =>
    let out := exec op s
    (out.1.mapError mapRepositoryError, out.2)

theorem exec_mapped {α : Type} (op : Operation MemoryStore JsError α) (s : MemoryStore) :
    exec (mapped op) s = ((exec op s).1.mapError mapRepositoryError, (exec op s).2) := rfl

def claimPairingCode (now : JsDate) (source : DeviceSource)
    (request : Except JsError ClaimPairingRecordInput) :
    Operation MemoryStore JsError (PairingSession × Schemas.Device) := do
  let input ← request
  mapped (InMemoryPairingSessionRepository.claim now source input)

def parsePairingSessionId (pairingSessionId : String) : Except JsError PairingSessionId :=
  orThrow (pairingSessionIdSchema pairingSessionId)
    (.PairingServiceError .INVALID_PAIRING_INPUT "pairingSessionId không hợp lệ.")

def getPairingSession (pairingSessionId : String) :
    Operation MemoryStore JsError (Option PairingSession) := do
  let parsedId ← parsePairingSessionId pairingSessionId
  mapped (InMemoryPairingSessionRepository.getById parsedId.value)

end PairingService
end Doctmcp.Pairing
