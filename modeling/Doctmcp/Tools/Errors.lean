import Mathlib.Data.Nat.Notation

/-! # Errors of the local tools

`ToolDomainError` of `apps/agent/src/errors.ts`. The details that a tool attaches are numbers under
a name. -/

namespace Doctmcp.Tools
set_option autoImplicit false

inductive ToolErrorCode
  | INVALID_INPUT
  | WORKSPACE_NOT_FOUND
  | PATH_NOT_FOUND
  | PATH_OUTSIDE_WORKSPACE
  | PERMISSION_DENIED
  | ALREADY_EXISTS
  | TIMEOUT
  | OUTPUT_LIMIT_EXCEEDED
  | PROCESS_FAILED
  | INTERNAL_ERROR
  deriving DecidableEq, Repr

structure ToolDomainError where
  code : ToolErrorCode
  message : String
  details : List (String × ℕ) := []
  deriving DecidableEq, Repr

end Doctmcp.Tools
