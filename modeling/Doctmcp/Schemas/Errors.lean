import Doctmcp.Lib.Simulation

/-! # Errors

The error classes of `apps/server`, with their codes; a message is what the source passes to the
constructor. `error` is a bare `new Error(message)` and `constraint` the `SQLiteError` of a
violated constraint. -/

namespace Doctmcp.Schemas
open Doctmcp.Lib Doctmcp.Lib.Operation
set_option autoImplicit false

inductive DeviceRepositoryErrorCode
  | INVALID_DEVICE_INPUT
  | INVALID_DEVICE_ID
  | INVALID_CLOCK
  | DEVICE_ALREADY_EXISTS
  deriving DecidableEq

inductive DeviceCredentialErrorCode
  | INVALID_CREDENTIAL_INPUT
  | INVALID_CLOCK
  | DEVICE_NOT_FOUND
  | CREDENTIAL_ALREADY_EXISTS
  | CREDENTIAL_ID_CONFLICT
  | CREDENTIAL_UNAVAILABLE
  deriving DecidableEq

inductive PairingRepositoryErrorCode
  | PAIRING_SESSION_ALREADY_EXISTS
  | PAIRING_CODE_DIGEST_ALREADY_EXISTS
  | PAIRING_CODE_UNAVAILABLE
  | PAIRING_SESSION_NOT_FOUND
  | PAIRING_SESSION_NOT_PENDING
  | PAIRING_CAPACITY_EXCEEDED
  | INVALID_PAIRING_RECORD
  | INVALID_CLOCK
  deriving DecidableEq

inductive PairingServiceErrorCode
  | INVALID_PAIRING_INPUT
  | INVALID_PAIRING_CONFIGURATION
  | INVALID_CLOCK
  | PAIRING_CODE_UNAVAILABLE
  | PAIRING_SESSION_NOT_FOUND
  | PAIRING_SESSION_NOT_PENDING
  | PAIRING_CREATE_FAILED
  deriving DecidableEq

inductive PairingCredentialCompletionErrorCode
  | PAIRING_COMPLETION_UNAVAILABLE
  deriving DecidableEq

/-- What a modelled function can throw. -/
inductive JsError
  | DeviceRepositoryError (code : DeviceRepositoryErrorCode) (message : String)
  | DeviceCredentialError (code : DeviceCredentialErrorCode) (message : String)
  | PairingRepositoryError (code : PairingRepositoryErrorCode) (message : String)
  | PairingServiceError (code : PairingServiceErrorCode) (message : String)
  | PairingCredentialCompletionError (code : PairingCredentialCompletionErrorCode)
      (message : String)
  | error (message : String)
  | constraint (table : String)
  deriving DecidableEq

/-- The `code` property of an error; a bare `Error` has none. -/
inductive ErrorCode
  | device (code : DeviceRepositoryErrorCode)
  | credential (code : DeviceCredentialErrorCode)
  | pairing (code : PairingRepositoryErrorCode)
  | pairingService (code : PairingServiceErrorCode)
  | completion (code : PairingCredentialCompletionErrorCode)
  | sqliteConstraint
  deriving DecidableEq

def JsError.code : JsError → Option ErrorCode
  | .DeviceRepositoryError code _ => some (.device code)
  | .DeviceCredentialError code _ => some (.credential code)
  | .PairingRepositoryError code _ => some (.pairing code)
  | .PairingServiceError code _ => some (.pairingService code)
  | .PairingCredentialCompletionError code _ => some (.completion code)
  | .error _ => none
  | .constraint _ => some .sqliteConstraint

/-- The same value, or errors with the same code. -/
def SameResult {α : Type} : Except JsError α → Except JsError α → Prop
  | .ok a, .ok b => a = b
  | .error e, .error e' => e.code = e'.code
  | _, _ => False

theorem SameResult.refl {α : Type} (r : Except JsError α) : SameResult r r := by
  cases r <;> rfl

theorem SameResult.ok {α : Type} {r r' : Except JsError α} (h : SameResult r r') {a : α}
    (ha : r = .ok a) : r' = .ok a := by
  subst ha
  cases r' with
  | ok b => exact congrArg Except.ok (Eq.symm h)
  | error e => cases h

theorem SameResult.error {α : Type} {r r' : Except JsError α} (h : SameResult r r') {e : JsError}
    (he : r' = .error e) : ∃ e', r = .error e' := by
  subst he
  cases r with
  | ok a => cases h
  | error e' => exact ⟨e', rfl⟩

/-- Wrapping the values does not change whether the results are the same. -/
theorem sameResult_map_iff {α β : Type} {f : α → β} (hf : ∀ a b, f a = f b → a = b)
    (r r' : Except JsError α) : SameResult (r.map f) (r'.map f) ↔ SameResult r r' := by
  cases r with
  | error e => cases r' <;> exact Iff.rfl
  | ok a =>
    cases r' with
    | error e => exact Iff.rfl
    | ok b => exact ⟨hf a b, congrArg f⟩

/-! ## Operations of two implementations -/

/-- Two operations have the same result and leave stores that `R` relates. -/
def SameOutcome {S T α : Type} (R : S → T → Prop) (out : Except JsError α × S)
    (out' : Except JsError α × T) : Prop :=
  SameResult out.1 out'.1 ∧ R out.2 out'.2

namespace SameOutcome
variable {S T α β : Type} {R : S → T → Prop} {s : S} {t : T}

theorem same (h : R s t) (r : Except JsError α) : SameOutcome R (r, s) (r, t) :=
  ⟨SameResult.refl r, h⟩

theorem errors (h : R s t) {e e' : JsError} (hcode : e.code = e'.code) :
    SameOutcome R ((.error e : Except JsError α), s) (.error e', t) := ⟨hcode, h⟩

/-- Both operations begin with the same computation that only reads. -/
theorem bind (h : R s t) (r : Except JsError α) {f : α → Operation S JsError β}
    {g : α → Operation T JsError β}
    (hok : ∀ a, r = .ok a → SameOutcome R (exec (f a) s) (exec (g a) t)) :
    SameOutcome R (exec ((liftM r : Operation S JsError α) >>= f) s)
      (exec ((liftM r : Operation T JsError α) >>= g) t) :=
  exec_lift_both (P := SameOutcome R) (fun e _ => same h (.error e)) hok

/-- Both operations go on to the same check. -/
theorem failIf (h : R s t) {p q : Prop} [Decidable p] [Decidable q] (hiff : p ↔ q) (e : JsError)
    {f : Unit → Operation S JsError β} {g : Unit → Operation T JsError β}
    (hok : ¬ p → SameOutcome R (exec (f ()) s) (exec (g ()) t)) :
    SameOutcome R (exec (Operation.failIf p e >>= f) s) (exec (Operation.failIf q e >>= g) t) := by
  rw [exec_bind, exec_bind, exec_failIf, exec_failIf]
  by_cases hp : p
  · rw [if_pos hp, if_pos (hiff.mp hp)]
    exact same h (.error e)
  · rw [if_neg hp, if_neg fun hq => hp (hiff.mpr hq)]
    exact hok hp

/-- Both operations go on to the same check, one of them inside its transaction. -/
theorem failIf_transaction (h : R s t) {p q : Prop} [Decidable p] [Decidable q] (hiff : p ↔ q)
    (e : JsError) {f : Unit → Operation S JsError β} {g : Unit → Operation T JsError β}
    (hok : ¬ p → SameOutcome R (exec (f ()) s) (exec (transaction (g ())) t)) :
    SameOutcome R (exec (Operation.failIf p e >>= f) s)
      (exec (transaction (Operation.failIf q e >>= g)) t) := by
  rw [exec_transaction, exec_bind, exec_bind, exec_failIf, exec_failIf]
  by_cases hp : p
  · rw [if_pos hp, if_pos (hiff.mp hp)]
    exact same h (.error e)
  · rw [if_neg hp, if_neg fun hq => hp (hiff.mpr hq)]
    exact hok hp

end SameOutcome
end Doctmcp.Schemas
